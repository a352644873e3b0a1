import FixedColumns.Proofs.Reading.Steps

/-!
# `FixedColumns.Proofs.Reading.Verdicts` — a reading by its verdicts

A reader and its settings come into a reading by the verdicts on its lines only. So two readers that
agree up to a change on what every line makes of a reading agree up to it on every run
(`Reader.readLines_change`). The values of rows and the errors of fields can be changed on a verdict or
all over the reading (`Verdict.map_before`), and two readers whose verdicts agree up to such changes
agree on every source up to them: `Reader.readSourceBy_map`.
-/

namespace FixedColumns

/-! ## Changing values and causes -/

section Maps

variable (g : List Value → List Value) (f : FieldError → FieldError)

/-- The error with its cause changed, if it has one. -/
def ReadingError.mapCause : ReadingError → ReadingError
  | .malformed line text cause => .malformed line text (f cause)
  | e => e

/-- The record with its cause changed, if it has one. -/
def Record.mapCause : Record → Record
  | .malformed line cause => .malformed line (f cause)
  | .blank line => .blank line

/-- The verdict with the values of its row changed, or its cause. -/
def Verdict.map : Verdict → Verdict
  | .row values => .row (g values)
  | .blank => .blank
  | .dropped cause => .dropped (f cause)
  | .malformed text cause => .malformed text (f cause)
  | .unreadable => .unreadable

/-- The reading with the values of all its rows changed. -/
def Reading.mapRows (t : Reading (List (List Value))) : Reading (List (List Value)) :=
  { t with result := t.result.map (List.map g) }

/-- The reading with the values of all its rows changed, and the causes of its error and of its
    records. -/
def Reading.map (t : Reading (List (List Value))) : Reading (List (List Value)) :=
  (t.mapRows g).relabel (ReadingError.mapCause f) (Record.mapCause f)

theorem Reading.mapRows_prepend (rows : List (List Value)) (records : List Record)
    (t : Reading (List (List Value))) :
    (t.prepend rows records).mapRows g = (t.mapRows g).prepend (rows.map g) records := by
  obtain ⟨result, log, rest⟩ := t
  cases result with
  | error e => rfl
  | ok values => exact congrArg (fun rows => Reading.mk (.ok rows) _ rest) List.map_append

theorem Reading.map_prepend (rows : List (List Value)) (records : List Record)
    (t : Reading (List (List Value))) :
    (t.prepend rows records).map g f =
      (t.map g f).prepend (rows.map g) (records.map (Record.mapCause f)) := by
  rw [map, mapRows_prepend, relabel_prepend, map]

/-- Changing the values and the causes of a line and of the reading after it changes them in what the
    line makes of that. -/
theorem Verdict.map_before (v : Verdict) (number : Nat) (more : List RawLine)
    (t : Reading (List (List Value))) :
    (v.before number more t).map g f = (v.map g f).before number more (t.map g f) := by
  cases v with
  | row values => exact Reading.map_prepend g f [values] [] t
  | blank => exact Reading.map_prepend g f [] [.blank number] t
  | dropped cause => exact Reading.map_prepend g f [] [.malformed number cause] t
  | malformed text cause => rfl
  | unreadable => rfl

end Maps

theorem ReadingError.mapCause_id : ReadingError.mapCause id = id := by
  funext e
  cases e with
  | unreadable line => rfl
  | malformed line text cause => rfl
  | columnMismatch fields names => rfl
  | unbuildable rows columns => rfl

theorem Record.mapCause_id : Record.mapCause id = id := by
  funext record
  cases record with
  | blank line => rfl
  | malformed line cause => rfl

/-- Without a change of causes the rows change only. -/
theorem Reading.map_id_right (g : List Value → List Value) (t : Reading (List (List Value))) :
    t.map g id = t.mapRows g := by
  unfold map relabel
  rw [ReadingError.mapCause_id, Record.mapCause_id, List.map_id]
  obtain ⟨result, log, rest⟩ := t
  cases result with
  | error e => rfl
  | ok rows => rfl

theorem Reading.mapRows_id (t : Reading (List (List Value))) : t.mapRows id = t := by
  unfold mapRows
  rw [List.map_id_fun, Except.map_id, id]

/-! ## Two readers on one source -/

namespace Reader

/-- **Readers that agree up to a change on what every line makes of a reading** agree on every run
    over lines up to it. -/
theorem readLines_change {r other : Reader} {s s' : Settings}
    (change change' : Reading (List (List Value)) → Reading (List (List Value)))
    (nothing : change ⟨.ok [], [], []⟩ = change' ⟨.ok [], [], []⟩)
    (step : ∀ line number more t t', change t = change' t' →
      change ((r.judge s line).before number more t) =
        change' ((other.judge s' line).before number more t'))
    (number : Nat) (lines : List RawLine) :
    change (r.readLines s number lines) = change' (other.readLines s' number lines) := by
  induction lines generalizing number with
  | nil => exact nothing
  | cons line more ih =>
      rw [readLines_step, readLines_step]
      exact step line number more _ _ (ih (number + 1))

/-- **Readers whose verdicts agree up to changes** agree on every source up to them. -/
theorem readSourceBy_map {r other : Reader} {s s' : Settings} {g g' : List Value → List Value}
    {f f' : FieldError → FieldError}
    (verdicts : ∀ line, (r.judge s line).map g f = (other.judge s' line).map g' f')
    (source : List UInt8) :
    (r.readSourceBy s source).map g f = (other.readSourceBy s' source).map g' f' := by
  apply readLines_change (Reading.map g f) (Reading.map g' f') rfl
  intro line number more t t' same
  rw [Verdict.map_before, Verdict.map_before, verdicts, same]

end Reader

/-! ## The verdict on a line -/

/-- The verdict on a line that is not left out as blank, by what its text converts to. -/
def Verdict.ofConversion (s : Settings) (text : String) : Except FieldError (List Value) → Verdict
  | .ok values => .row values
  | .error cause => if s.dropMalformed then .dropped cause else .malformed text cause

theorem Verdict.map_ofConversion (g : List Value → List Value) (f : FieldError → FieldError)
    (s : Settings) (text : String) (x : Except FieldError (List Value)) :
    (ofConversion s text x).map g f = ofConversion s text ((x.map g).mapError f) := by
  cases x with
  | ok values => rfl
  | error cause =>
      show (if s.dropMalformed = true then Verdict.dropped cause else _).map g f =
        if s.dropMalformed = true then Verdict.dropped (f cause) else _
      cases s.dropMalformed with
      | true => rfl
      | false => rfl

/-- The verdict on a line by its text, if it has one. -/
theorem Reader.judge_eq (r : Reader) (s : Settings) (line : RawLine) :
    r.judge s line = line.text?.elim .unreadable fun text =>
      if s.dropBlank && isBlankLine text then .blank
      else Verdict.ofConversion s text (r.readTrimming s.trimText text) := by
  unfold judge
  cases line.text? with
  | none => rfl
  | some text => rfl

/-- Readers that convert every text alike, up to changes, have the same verdicts up to them, if their
    settings leave out the same lines. -/
theorem Reader.judge_map {r other : Reader} {s s' : Settings} {g g' : List Value → List Value}
    {f f' : FieldError → FieldError} (blank : s.dropBlank = s'.dropBlank)
    (malformed : s.dropMalformed = s'.dropMalformed)
    (agree : ∀ text, ((r.readTrimming s.trimText text).map g).mapError f =
      ((other.readTrimming s'.trimText text).map g').mapError f') (line : RawLine) :
    (r.judge s line).map g f = (other.judge s' line).map g' f' := by
  rw [judge_eq, judge_eq]
  cases line.text? with
  | none => rfl
  | some text =>
      rw [Option.elim_some, Option.elim_some, ← blank]
      by_cases left : (s.dropBlank && isBlankLine text) = true
      · rw [if_pos left, if_pos left]
        rfl
      · have same : Verdict.ofConversion s text = Verdict.ofConversion s' text := by
          funext x
          unfold Verdict.ofConversion
          rw [malformed]
        rw [if_neg left, if_neg left, Verdict.map_ofConversion, Verdict.map_ofConversion, agree, same]

end FixedColumns
