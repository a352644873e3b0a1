import FixedColumns.Proofs.Reading.Rows
import FixedColumns.Proofs.Reading.Verdicts
import FixedColumns.Proofs.Text.Slices
import FixedColumns.Proofs.Traversal

/-!
# `FixedColumns.Proofs.Reading.BlankLines` — blank lines where errors are left out

A blank line has no text for a number to be read from, so by a format with a number it does not
convert (`Reader.exists_readTrimming_eq_error`). Where lines that do not convert are left out, it is
left out in any case, and whether blank lines are looked for makes a difference only to what the
record says of it. `Verdict.forget_before` carries this over from a line to the reading, and
`Reader.readSourceBy_dropBlank` is what follows for the two settings.
-/

namespace FixedColumns

/-! ## Readings without the reasons for leaving lines out -/

/-- The record with nothing said of why the line was left out. -/
def Record.forget (record : Record) : Record := .blank record.line

/-- The verdict with nothing said of why the line is left out. -/
def Verdict.forget : Verdict → Verdict
  | .row values => .row values
  | .blank => .blank
  | .dropped _ => .blank
  | .malformed text cause => .malformed text cause
  | .unreadable => .unreadable

namespace Reading

/-- The reading with nothing said of why lines were left out. -/
def forget {α : Type} (t : Reading α) : Reading α := { t with log := t.log.map Record.forget }

theorem forget_prepend (rows : List (List Value)) (records : List Record)
    (t : Reading (List (List Value))) :
    (t.prepend rows records).forget = t.forget.prepend rows (records.map Record.forget) :=
  congrArg (Reading.mk (t.result.map (rows ++ ·)) · t.rest) List.map_append

/-- Readings that differ in the reasons only leave out the same lines. -/
theorem map_line_of_forget_eq {α : Type} {t other : Reading α} (h : t.forget = other.forget) :
    t.log.map Record.line = other.log.map Record.line := by
  have lines : ∀ log : List Record,
      (log.map Record.forget).map Record.line = log.map Record.line := by
    intro log
    rw [List.map_map]
    rfl
  have logs : t.log.map Record.forget = other.log.map Record.forget := congrArg Reading.log h
  rw [← lines, logs, lines]

end Reading

/-- Forgetting the reasons on a line and after it forgets them in what the line makes of the reading,
    and nothing else. -/
theorem Verdict.forget_before (v : Verdict) (number : Nat) (more : List RawLine)
    (t : Reading (List (List Value))) :
    (v.before number more t).forget = v.forget.before number more t.forget := by
  cases v with
  | row values => exact Reading.forget_prepend [values] [] t
  | blank => exact Reading.forget_prepend [] [.blank number] t
  | dropped cause => exact Reading.forget_prepend [] [.malformed number cause] t
  | malformed text cause => rfl
  | unreadable => rfl

/-! ## Lines -/

namespace Reader

section Lines

variable {r : Reader} (number : ∃ c ∈ r.columns, c.type ≠ .text)

include number

/-- A blank line does not convert by a format with a number. -/
theorem exists_readTrimming_eq_error {text : String} (blank : isBlankLine text = true)
    (trimText : Bool) : ∃ cause, r.readTrimming trimText text = .error cause := by
  obtain ⟨c, hc, type⟩ := number
  have all : Text.AllBlank text.toList := Text.trim_eq_nil_iff.mp (isBlankLine_iff.mp blank)
  exact exists_mapM_eq_error hc (Column.isOk_read_of_allBlank type (c.allBlank_slice all) trimText)

/-- Where lines that do not convert are left out, so are the blank ones. -/
theorem forget_judge_dropBlank {s : Settings} (drop : s.dropMalformed = true) (line : RawLine) :
    (r.judge { s with dropBlank := true } line).forget =
      (r.judge { s with dropBlank := false } line).forget := by
  rw [judge_eq, judge_eq]
  cases line.text? with
  | none => rfl
  | some text =>
      rw [Option.elim_some, Option.elim_some, Bool.true_and, Bool.false_and,
        if_neg Bool.false_ne_true]
      by_cases blank : isBlankLine text = true
      · obtain ⟨cause, fails⟩ := exists_readTrimming_eq_error number blank s.trimText
        have dropped : Verdict.ofConversion { s with dropBlank := false } text (.error cause) =
            .dropped cause := if_pos drop
        rw [if_pos blank, fails, dropped]
        rfl
      · rw [if_neg blank]
        rfl

end Lines

/-! ## Sources -/

/-- **Where lines that do not convert are left out, blank ones are too,** if the format has a
    number: it makes no difference whether the settings say so. -/
theorem readSourceBy_dropBlank (r : Reader) (number : ∃ c ∈ r.columns, c.type ≠ .text)
    (s : Settings) (drop : s.dropMalformed = true) (source : List UInt8) :
    (r.readSourceBy { s with dropBlank := true } source).result =
      (r.readSourceBy { s with dropBlank := false } source).result ∧
    (r.readSourceBy { s with dropBlank := true } source).rest =
      (r.readSourceBy { s with dropBlank := false } source).rest ∧
    (r.readSourceBy { s with dropBlank := true } source).log.map Record.line =
      (r.readSourceBy { s with dropBlank := false } source).log.map Record.line := by
  have same : (r.readSourceBy { s with dropBlank := true } source).forget =
      (r.readSourceBy { s with dropBlank := false } source).forget := by
    apply readLines_change Reading.forget Reading.forget rfl
    intro line place more t t' same
    rw [Verdict.forget_before, Verdict.forget_before, forget_judge_dropBlank number drop, same]
  obtain ⟨result, _, rest⟩ := Reading.mk.inj same
  exact ⟨result, rest, Reading.map_line_of_forget_eq same⟩

/-- A blank line of three bytes, one that converts, and one that does not. -/
theorem readSourceBy_dropBlank_three_bytes :
    ∃ r, ofFormat "A1,I2" {} = .ok r ∧ (∃ c ∈ r.columns, c.type ≠ .text) ∧
      (r.readSourceBy { dropBlank := true, dropMalformed := true }
        [227, 128, 128, 10, 65, 32, 53, 10, 120, 10]).result =
      (r.readSourceBy { dropBlank := false, dropMalformed := true }
        [227, 128, 128, 10, 65, 32, 53, 10, 120, 10]).result ∧
      (r.readSourceBy { dropBlank := false, dropMalformed := true }
        [227, 128, 128, 10, 65, 32, 53, 10, 120, 10]).result = .ok [[.text "A", .integer 5]] := by
  let r : Reader :=
    ⟨"A1,I2", {}, [⟨1, .field .text, 1, none⟩, ⟨1, .field .integer, 2, none⟩], _, rfl, rfl⟩
  have number : ∃ c ∈ r.columns, c.type ≠ .text := by decide
  obtain ⟨result, _⟩ := r.readSourceBy_dropBlank number { dropMalformed := true } rfl
    [227, 128, 128, 10, 65, 32, 53, 10, 120, 10]
  exact ⟨r, rfl, number, result, rfl⟩

end Reader

end FixedColumns
