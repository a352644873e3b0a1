import FixedColumns.Proofs.Reading.Runs
import FixedColumns.Proofs.Source.Cut

/-!
# `FixedColumns.Proofs.Reading.Composition` — reading two sources in a row

A run depends on the number of its first line only in the numbers that it reports:
`Reader.readLines_add`. So if the first of two sources gives rows, reading both is reading the
second and raising its numbers by the lines of the first, with the rows and records of the first put
before it; if the first source ends the reading, the second is left as it is. What a reading leaves
are always the lines after those that it looked at.
-/

namespace FixedColumns

/-! ## Counting lines from further on -/

/-- The error of a line that stands `n` lines further on. -/
def ReadingError.raise (n : Nat) : ReadingError → ReadingError
  | .unreadable line => .unreadable (line + n)
  | .malformed line text cause => .malformed (line + n) text cause
  | .columnMismatch fields names => .columnMismatch fields names
  | .unbuildable rows columns => .unbuildable rows columns

/-- The record of a line that stands `n` lines further on. -/
def Record.raise (n : Nat) : Record → Record
  | .blank line => .blank (line + n)
  | .malformed line cause => .malformed (line + n) cause

/-- The number of the line that an error is about, if it is about one. -/
def ReadingError.line? : ReadingError → Option Nat
  | .unreadable line => some line
  | .malformed line _ _ => some line
  | .columnMismatch .. => none
  | .unbuildable .. => none

/-- A reading of lines that stand `n` lines further on. -/
def Reading.raise {α : Type} (n : Nat) (t : Reading α) : Reading α :=
  t.relabel (ReadingError.raise n) (Record.raise n)

theorem Reading.raise_prepend (n : Nat) (rows : List (List Value)) (records : List Record)
    (t : Reading (List (List Value))) :
    (t.prepend rows records).raise n =
      (t.raise n).prepend rows (records.map (Record.raise n)) :=
  Reading.relabel_prepend (ReadingError.raise n) (Record.raise n) rows records t

namespace Verdict

theorem record?_add (v : Verdict) (number n : Nat) :
    v.record? (number + n) = (v.record? number).map (Record.raise n) := by
  cases v with
  | row values => rfl
  | blank => rfl
  | dropped cause => rfl
  | malformed text cause => rfl
  | unreadable => rfl

theorem error?_add (v : Verdict) (number n : Nat) :
    v.error? (number + n) = (v.error? number).map (ReadingError.raise n) := by
  cases v with
  | row values => rfl
  | blank => rfl
  | dropped cause => rfl
  | malformed text cause => rfl
  | unreadable => rfl

/-- A line further on makes of a reading that is further on what it makes of it here. -/
theorem before_add (v : Verdict) (number n : Nat) (more : List RawLine)
    (t : Reading (List (List Value))) :
    v.before (number + n) more (t.raise n) = (v.before number more t).raise n := by
  cases ends : v.error? number with
  | some e =>
      have raised : v.error? (number + n) = some (e.raise n) := by
        rw [error?_add, ends]
        rfl
      rw [before_of_error? ends, before_of_error? raised]
      rfl
  | none =>
      have raised : v.error? (number + n) = none := by
        rw [error?_add, ends]
        rfl
      unfold before
      rw [ends, raised, Option.elim_none, Option.elim_none, Reading.raise_prepend, record?_add]
      cases v.record? number with
      | none => rfl
      | some record => rfl

/-- The error of a line names the line. -/
theorem line?_of_error? {v : Verdict} {number : Nat} {e : ReadingError}
    (h : v.error? number = some e) : e.line? = some number := by
  rcases error_cases h with ⟨text, cause, _, rfl⟩ | ⟨_, rfl⟩
  · rfl
  · rfl

end Verdict

namespace Reader

variable (r : Reader) (s : Settings)

/-- Counting the lines from `n` lines further on raises the numbers that are reported. -/
theorem readLines_add (number n : Nat) (lines : List RawLine) :
    r.readLines s (number + n) lines = (r.readLines s number lines).raise n := by
  induction lines generalizing number with
  | nil => rfl
  | cons line more ih =>
      rw [readLines_step, readLines_step, Nat.add_right_comm, ih, Verdict.before_add]

/-! ## Two sources in a row -/

variable {r s}

/-- If the first of two sources gives rows, they stand before those of the second. -/
theorem readSourceBy_append_of_ok {first : List UInt8} (complete : Source.Complete first)
    {rows : List (List Value)} (h : (r.readSourceBy s first).result = .ok rows)
    (second : List UInt8) :
    r.readSourceBy s (first ++ second) =
      ((r.readSourceBy s second).raise (first.count lineFeed)).prepend rows
        (r.readSourceBy s first).log := by
  obtain ⟨go_on, same, log, _⟩ := readLines_of_result_ok h
  have run := r.readLines_append s go_on 1 (Source.lines second)
  rw [Source.length_lines_of_complete complete, readLines_add, ← same, ← log] at run
  unfold readSourceBy
  rw [Source.lines_append complete]
  exact run

/-- If the first of two sources ends the reading, the second is not looked at. -/
theorem readSourceBy_append_of_error {first : List UInt8} (complete : Source.Complete first)
    {e : ReadingError} (h : (r.readSourceBy s first).result = .error e) (second : List UInt8) :
    r.readSourceBy s (first ++ second) =
      ⟨.error e, (r.readSourceBy s first).log, (r.readSourceBy s first).rest ++ second⟩ := by
  obtain ⟨before, line, after, ends, run⟩ := readLines_of_result_error h
  have both := (ends.append (Source.lines second)).readLines
  have left : Source.ofLines (after ++ Source.lines second) = Source.ofLines after ++ second := by
    unfold Source.ofLines
    rw [List.flatMap_append]
    exact congrArg _ (Source.ofLines_lines second)
  rw [left] at both
  unfold readSourceBy
  rw [Source.lines_append complete, both, run]

/-! ## What a reading leaves -/

/-- A reading that gives rows leaves nothing. -/
theorem rest_of_result_ok {source : List UInt8} {rows : List (List Value)}
    (h : (r.readSourceBy s source).result = .ok rows) : (r.readSourceBy s source).rest = [] :=
  (readLines_of_result_ok h).2.2.2

/-- A reading that fails leaves what stands after the line of its error. -/
theorem rest_of_result_error {source : List UInt8} {e : ReadingError}
    (h : (r.readSourceBy s source).result = .error e) :
    ∃ k, e.line? = some k ∧ 1 ≤ k ∧ k ≤ (Source.lines source).length ∧
      (r.readSourceBy s source).rest = Source.dropLine^[k] source := by
  obtain ⟨before, line, after, ends, run⟩ := readLines_of_result_error h
  have size : (Source.lines source).length = before.length + 1 + after.length := by
    rw [ends.split, List.length_append, List.length_cons]
    omega
  have later : (Source.lines source).drop (before.length + 1) = after := by
    rw [ends.split, ← List.singleton_append, ← List.append_assoc]
    exact List.drop_left' (by simp)
  refine ⟨before.length + 1, ?_, by omega, by omega, ?_⟩
  · rw [Verdict.line?_of_error? ends.error, Nat.add_comm]
  · unfold readSourceBy
    rw [run, ← Source.ofLines_drop_lines, later]

/-- What a reading leaves is what stands after a number of lines. -/
theorem exists_rest_eq_dropLine_iterate (r : Reader) (s : Settings) (source : List UInt8) :
    ∃ k, (r.readSourceBy s source).rest = Source.dropLine^[k] source := by
  cases h : (r.readSourceBy s source).result with
  | ok rows =>
      refine ⟨(Source.lines source).length, ?_⟩
      rw [rest_of_result_ok h, ← Source.ofLines_drop_lines, List.drop_length]
      rfl
  | error e =>
      obtain ⟨k, _, _, _, rest⟩ := rest_of_result_error h
      exact ⟨k, rest⟩

end Reader

end FixedColumns
