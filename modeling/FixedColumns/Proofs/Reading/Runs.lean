import FixedColumns.Proofs.Reading.Steps

/-!
# `FixedColumns.Proofs.Reading.Runs` — what a run over lines comes to

A run takes all its lines, or it ends at the first of them that ends the reading. `FirstEnd` is that
line with its error, and `Reader.readLines_cases` says that there is no third way: in the one case
nothing is left of the source, in the other just the lines after that one. So the result alone tells
which lines were looked at.
-/

namespace FixedColumns

namespace Verdict

/-- A line that ends the reading has an error, under whatever number. -/
theorem exists_error?_of_ends {v : Verdict} (h : v.ends = true) (number : Nat) :
    ∃ e, v.error? number = some e := by
  cases v with
  | malformed text cause => exact ⟨.malformed number text cause, rfl⟩
  | unreadable => exact ⟨.unreadable number, rfl⟩
  | row values => exact nomatch h
  | blank => exact nomatch h
  | dropped cause => exact nomatch h

/-- Only a line that ends the reading has an error. -/
theorem ends_of_error? {v : Verdict} {number : Nat} {e : ReadingError}
    (h : v.error? number = some e) : v.ends = true := by
  rcases error_cases h with ⟨text, cause, rfl, _⟩ | ⟨rfl, _⟩
  · rfl
  · rfl

end Verdict

namespace Reader

variable (r : Reader) (s : Settings)

/-! ## The line that ends a run -/

/-- The lines are cut at the first one that ends the reading, which has the error. -/
structure FirstEnd (number : Nat) (lines before : List RawLine) (line : RawLine)
    (after : List RawLine) (e : ReadingError) : Prop where
  split : lines = before ++ line :: after
  earlier : ∀ l ∈ before, (r.judge s l).ends = false
  error : (r.judge s line).error? (number + before.length) = some e

variable {r s}

theorem FirstEnd.mem {number : Nat} {lines before after : List RawLine} {line : RawLine}
    {e : ReadingError} (h : r.FirstEnd s number lines before line after e) : line ∈ lines := by
  rw [h.split]
  exact List.mem_append_right _ List.mem_cons_self

/-- More lines after those of a run that ends early are not looked at. -/
theorem FirstEnd.append {number : Nat} {lines before after : List RawLine} {line : RawLine}
    {e : ReadingError} (h : r.FirstEnd s number lines before line after e)
    (more : List RawLine) :
    r.FirstEnd s number (lines ++ more) before line (after ++ more) e where
  split := by rw [h.split, List.append_assoc, List.cons_append]
  earlier := h.earlier
  error := h.error

/-- A run ends at the first line that ends the reading. -/
theorem FirstEnd.readLines {number : Nat} {lines before after : List RawLine} {line : RawLine}
    {e : ReadingError} (h : r.FirstEnd s number lines before line after e) :
    r.readLines s number lines =
      ⟨.error e, r.records s number before, Source.ofLines after⟩ := by
  rw [h.split, r.readLines_append s h.earlier, r.readLines_cons_error s h.error]
  simp [Reading.prepend, Except.map]

variable (r s)

/-- A run none of whose lines ends the reading takes them all. -/
theorem readLines_of_go_on {lines : List RawLine}
    (h : ∀ line ∈ lines, (r.judge s line).ends = false) (number : Nat) :
    r.readLines s number lines = ⟨.ok (r.rows s lines), r.records s number lines, []⟩ := by
  have run := r.readLines_append s h number []
  rw [List.append_nil] at run
  rw [run]
  simp [Reader.readLines, Reading.prepend, Except.map]

/-- None of the lines ends the reading, or there is a first one that does. -/
theorem go_on_or_firstEnd (number : Nat) (lines : List RawLine) :
    (∀ line ∈ lines, (r.judge s line).ends = false) ∨
      ∃ before line after e, r.FirstEnd s number lines before line after e := by
  induction lines generalizing number with
  | nil => exact Or.inl fun line hl => absurd hl List.not_mem_nil
  | cons line more ih =>
      cases hj : (r.judge s line).ends with
      | true =>
          obtain ⟨e, he⟩ := Verdict.exists_error?_of_ends hj number
          exact Or.inr ⟨[], line, more, e, rfl, fun l hl => absurd hl List.not_mem_nil, he⟩
      | false =>
          rcases ih (number + 1) with all | ⟨before, l, after, e, first⟩
          · left
            intro l hl
            rcases List.mem_cons.mp hl with rfl | hl
            · exact hj
            · exact all l hl
          · refine Or.inr ⟨line :: before, l, after, e, ?_, ?_, ?_⟩
            · rw [first.split, List.cons_append]
            · intro b hb
              rcases List.mem_cons.mp hb with rfl | hb
              · exact hj
              · exact first.earlier b hb
            · have place : number + (line :: before).length = number + 1 + before.length := by
                rw [List.length_cons]; omega
              rw [place]
              exact first.error

/-- A run takes all its lines, or it ends at the first that ends the reading. -/
theorem readLines_cases (number : Nat) (lines : List RawLine) :
    ((∀ line ∈ lines, (r.judge s line).ends = false) ∧
      r.readLines s number lines = ⟨.ok (r.rows s lines), r.records s number lines, []⟩) ∨
    ∃ before line after e, r.FirstEnd s number lines before line after e ∧
      r.readLines s number lines =
        ⟨.error e, r.records s number before, Source.ofLines after⟩ := by
  rcases r.go_on_or_firstEnd s number lines with all | ⟨before, line, after, e, first⟩
  · exact Or.inl ⟨all, r.readLines_of_go_on s all number⟩
  · exact Or.inr ⟨before, line, after, e, first, first.readLines⟩

variable {r s}

/-! ## What the result tells -/

/-- A run that gives rows took all its lines. -/
theorem readLines_of_result_ok {number : Nat} {lines : List RawLine} {rows : List (List Value)}
    (h : (r.readLines s number lines).result = .ok rows) :
    (∀ line ∈ lines, (r.judge s line).ends = false) ∧ rows = r.rows s lines ∧
      (r.readLines s number lines).log = r.records s number lines ∧
      (r.readLines s number lines).rest = [] := by
  rcases r.readLines_cases s number lines with ⟨all, run⟩ | ⟨_, _, _, e, _, run⟩
  · rw [run] at h
    refine ⟨all, (Except.ok.inj h).symm, ?_, ?_⟩
    · rw [run]
    · rw [run]
  · rw [run] at h
    exact nomatch h

/-- A run that fails ended at the first line that ends the reading, with its error. -/
theorem readLines_of_result_error {number : Nat} {lines : List RawLine} {e : ReadingError}
    (h : (r.readLines s number lines).result = .error e) :
    ∃ before line after, r.FirstEnd s number lines before line after e ∧
      r.readLines s number lines =
        ⟨.error e, r.records s number before, Source.ofLines after⟩ := by
  rcases r.readLines_cases s number lines with ⟨_, run⟩ | ⟨before, line, after, other, first, run⟩
  · rw [run] at h
    exact nomatch h
  · rw [run] at h
    have same : other = e := Except.error.inj h
    subst same
    exact ⟨before, line, after, first, run⟩

end Reader

end FixedColumns
