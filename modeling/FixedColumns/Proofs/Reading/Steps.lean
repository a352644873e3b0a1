import FixedColumns.Reading

/-!
# `FixedColumns.Proofs.Reading.Steps` — reading a table one line after the other

What one line does to a reading is said once, by its verdict: it puts a row or a record before what
the lines after it come to, or it ends the reading (`Verdict.before`, `Reader.readLines_step`).
`Reader.readLines_append` is what follows for a run over lines none of which ends the reading: their
rows and records, in order, stand before what the rest of the lines come to.
-/

namespace FixedColumns

/-! ## What a verdict comes to -/

namespace Verdict

/-- The row that a line gives. -/
def row? : Verdict → Option (List Value)
  | .row values => some values
  | _ => none

theorem row?_eq_some_iff {v : Verdict} {values : List Value} :
    v.row? = some values ↔ v = .row values := by
  constructor
  · intro h
    cases v with
    | row other => rw [Option.some.inj h]
    | blank => exact nomatch h
    | dropped cause => exact nomatch h
    | malformed text cause => exact nomatch h
    | unreadable => exact nomatch h
  · rintro rfl
    rfl

/-- The record of a line that is left out. -/
def record? (number : Nat) : Verdict → Option Record
  | .blank => some (.blank number)
  | .dropped cause => some (.malformed number cause)
  | _ => none

/-- The error of a line that ends the reading. -/
def error? (number : Nat) : Verdict → Option ReadingError
  | .malformed text cause => some (.malformed number text cause)
  | .unreadable => some (.unreadable number)
  | _ => none

/-- A line that ends the reading is malformed or unreadable, and its error says which. -/
theorem error_cases {v : Verdict} {number : Nat} {e : ReadingError}
    (h : v.error? number = some e) :
    (∃ text cause, v = .malformed text cause ∧ e = .malformed number text cause) ∨
      (v = .unreadable ∧ e = .unreadable number) := by
  cases v with
  | malformed text cause => exact Or.inl ⟨text, cause, rfl, (Option.some.inj h).symm⟩
  | unreadable => exact Or.inr ⟨rfl, (Option.some.inj h).symm⟩
  | row values => exact nomatch h
  | blank => exact nomatch h
  | dropped cause => exact nomatch h

/-- The line ends the reading. -/
def ends : Verdict → Bool
  | .malformed .. => true
  | .unreadable => true
  | _ => false

end Verdict

/-- A reading with rows and records before its own. -/
def Reading.prepend (rows : List (List Value)) (records : List Record)
    (t : Reading (List (List Value))) : Reading (List (List Value)) :=
  ⟨t.result.map (rows ++ ·), records ++ t.log, t.rest⟩

@[simp] theorem Reading.result_prepend (rows : List (List Value)) (records : List Record)
    (t : Reading (List (List Value))) :
    (t.prepend rows records).result = t.result.map (rows ++ ·) := rfl

@[simp] theorem Reading.prepend_nil (t : Reading (List (List Value))) : t.prepend [] [] = t := by
  obtain ⟨result, log, rest⟩ := t
  cases result with
  | error e => rfl
  | ok rows => rfl

theorem Reading.consRow_eq_prepend (values : List Value) (t : Reading (List (List Value))) :
    t.consRow values = t.prepend [values] [] := rfl

theorem Reading.consRecord_eq_prepend (record : Record) (t : Reading (List (List Value))) :
    t.consRecord record = t.prepend [] [record] := by
  obtain ⟨result, log, rest⟩ := t
  cases result with
  | error e => rfl
  | ok rows => rfl

theorem Reading.prepend_prepend (rows more : List (List Value)) (records further : List Record)
    (t : Reading (List (List Value))) :
    (t.prepend more further).prepend rows records =
      t.prepend (rows ++ more) (records ++ further) := by
  obtain ⟨result, log, rest⟩ := t
  cases result with
  | error e => simp [Reading.prepend, Except.map]
  | ok values => simp [Reading.prepend, Except.map]

/-- A reading with its error and its records replaced. -/
def Reading.relabel {α : Type} (f : ReadingError → ReadingError) (g : Record → Record)
    (t : Reading α) : Reading α :=
  ⟨t.result.mapError f, t.log.map g, t.rest⟩

theorem Reading.relabel_prepend (f : ReadingError → ReadingError) (g : Record → Record)
    (rows : List (List Value)) (records : List Record) (t : Reading (List (List Value))) :
    (t.prepend rows records).relabel f g = (t.relabel f g).prepend rows (records.map g) := by
  have logs : (records ++ t.log).map g = records.map g ++ t.log.map g := List.map_append
  obtain ⟨result, log, rest⟩ := t
  cases result with
  | error e => exact congrArg (Reading.mk (.error (f e)) · rest) logs
  | ok values => exact congrArg (Reading.mk (.ok (rows ++ values)) · rest) logs

namespace Verdict

/-- What a line makes of the reading of the lines after it: its error takes the place of that, or its
    row or its record stands before it. -/
def before (v : Verdict) (number : Nat) (more : List RawLine) (t : Reading (List (List Value))) :
    Reading (List (List Value)) :=
  (v.error? number).elim (t.prepend v.row?.toList (v.record? number).toList) fun e =>
    ⟨.error e, [], Source.ofLines more⟩

variable {v : Verdict} {number : Nat} {more : List RawLine}

theorem before_of_error? {e : ReadingError} (h : v.error? number = some e)
    (t : Reading (List (List Value))) :
    v.before number more t = ⟨.error e, [], Source.ofLines more⟩ := by
  rw [before, h]
  rfl

theorem before_of_go_on (h : v.ends = false) (t : Reading (List (List Value))) :
    v.before number more t = t.prepend v.row?.toList (v.record? number).toList := by
  cases v with
  | row values => rfl
  | blank => rfl
  | dropped cause => rfl
  | malformed text cause => cases h
  | unreadable => cases h

end Verdict

namespace Reader

variable (r : Reader) (s : Settings)

/-! ## One line -/

/-- **One line:** its verdict says what it makes of the reading of the lines after it. -/
theorem readLines_step (line : RawLine) (number : Nat) (more : List RawLine) :
    r.readLines s number (line :: more) =
      (r.judge s line).before number more (r.readLines s (number + 1) more) := by
  rw [readLines]
  cases r.judge s line with
  | row values => exact Reading.consRow_eq_prepend values _
  | blank => exact Reading.consRecord_eq_prepend (.blank number) _
  | dropped cause => exact Reading.consRecord_eq_prepend (.malformed number cause) _
  | malformed text cause => rfl
  | unreadable => rfl

/-- A line that does not end the reading puts its row or its record before what follows. -/
theorem readLines_cons {line : RawLine} (h : (r.judge s line).ends = false) (number : Nat)
    (more : List RawLine) :
    r.readLines s number (line :: more) =
      (r.readLines s (number + 1) more).prepend (r.judge s line).row?.toList
        ((r.judge s line).record? number).toList := by
  rw [readLines_step, Verdict.before_of_go_on h]

/-- A line that ends the reading gives its error, and the lines after it are what is left. -/
theorem readLines_cons_error {line : RawLine} {number : Nat} {e : ReadingError}
    (h : (r.judge s line).error? number = some e) (more : List RawLine) :
    r.readLines s number (line :: more) = ⟨.error e, [], Source.ofLines more⟩ := by
  rw [readLines_step, Verdict.before_of_error? h]

/-! ## A run of lines -/

/-- The rows of lines. -/
def rows (lines : List RawLine) : List (List Value) :=
  lines.filterMap fun line => (r.judge s line).row?

/-- The records of lines, the first of which has the given number. -/
def records (number : Nat) (lines : List RawLine) : List Record :=
  (lines.zipIdx number).filterMap fun (line, n) => (r.judge s line).record? n

theorem rows_cons (line : RawLine) (more : List RawLine) :
    r.rows s (line :: more) = (r.judge s line).row?.toList ++ r.rows s more := by
  unfold rows
  cases h : (r.judge s line).row? with
  | none => simp [h]
  | some values => simp [h]

theorem records_cons (number : Nat) (line : RawLine) (more : List RawLine) :
    r.records s number (line :: more) =
      ((r.judge s line).record? number).toList ++ r.records s (number + 1) more := by
  unfold records
  rw [List.zipIdx_cons]
  cases h : (r.judge s line).record? number with
  | none => simp [h]
  | some record => simp [h]

/-- Lines none of which ends the reading put their rows and records before what follows. -/
theorem readLines_append {before : List RawLine}
    (h : ∀ line ∈ before, (r.judge s line).ends = false) (number : Nat) (more : List RawLine) :
    r.readLines s number (before ++ more) =
      (r.readLines s (number + before.length) more).prepend (r.rows s before)
        (r.records s number before) := by
  -- Every line counts, also one that is left out, so the induction is over the number as well.
  induction before generalizing number with
  | nil => simp [rows, records]
  | cons line before ih =>
      have go_on : ∀ l ∈ before, (r.judge s l).ends = false := by
        intro l hl
        exact h l (List.mem_cons_of_mem _ hl)
      have tail := ih go_on (number + 1)
      have place : number + 1 + before.length = number + (line :: before).length := by
        rw [List.length_cons]; omega
      rw [List.cons_append, r.readLines_cons s (h line List.mem_cons_self), tail,
        Reading.prepend_prepend, rows_cons, records_cons, place]

end Reader

end FixedColumns
