import FixedColumns.Source
import Mathlib.Logic.Function.Iterate

/-!
# `FixedColumns.Proofs.Source.Cut` — cutting a source between its lines

`Source.dropLine` leaves what stands after the first line feed. Dropping lines from a source drops
them from its lines, `Source.lines_dropLine_iterate`, and what is dropped ends where a line ends,
`Source.exists_append_dropLine_iterate`: at a line feed, or at the end of the source.
-/

namespace FixedColumns

namespace Source

/-- A cut of a source between two lines: before it stands nothing or a line feed, or after it
    nothing is left. -/
def Boundary (consumed rest : List UInt8) : Prop := Complete consumed ∨ rest = []

theorem complete_nil : Complete [] := fun _ h => nomatch h

theorem Complete.append {first second : List UInt8} (h : Complete first) (h' : Complete second) :
    Complete (first ++ second) := by
  intro b hb
  rw [List.getLast?_append] at hb
  cases hl : second.getLast? with
  | none =>
      rw [hl] at hb
      exact h b hb
  | some c =>
      rw [hl] at hb
      exact h' b (hl.trans hb)

/-- A cut between two lines and then one of what is left are together one of the whole. -/
theorem Boundary.trans {first second rest : List UInt8} (h : Boundary first (second ++ rest))
    (h' : Boundary second rest) : Boundary (first ++ second) rest := by
  rcases h with complete | none
  · exact h'.imp_left complete.append
  · exact Or.inr (List.append_eq_nil_iff.mp none).2

/-- The lines of a complete source are as many as its line feeds. -/
theorem length_lines_of_complete {source : List UInt8} (h : Complete source) :
    (lines source).length = source.count lineFeed := by
  induction source with
  | nil => rfl
  | cons b bs ih =>
      by_cases hb : b = lineFeed
      · simp [lines, hb, ih h.tail]
      · -- A byte that is no line feed is not the last one, so there is a line for it to go to.
        have rest : bs ≠ [] := fun hbs => hb (h b (by simp [hbs]))
        obtain ⟨line, more, hl⟩ := List.exists_cons_of_ne_nil (lines_ne_nil rest)
        have same : (lines (b :: bs)).length = (lines bs).length := by simp [lines, hb, hl, extend]
        rw [same, ih h.tail, List.count_cons_of_ne hb]

/-! ## Dropping lines -/

theorem lines_dropLine (source : List UInt8) : lines (dropLine source) = (lines source).tail := by
  induction source with
  | nil => rfl
  | cons b bs ih =>
      by_cases hb : b = lineFeed
      · simp [dropLine, lines, hb]
      · cases hl : lines bs <;> simp [dropLine, lines, hb, ih, hl, extend]

/-- Dropping lines from a source drops them from its lines. -/
theorem lines_dropLine_iterate (k : Nat) (source : List UInt8) :
    lines (dropLine^[k] source) = (lines source).drop k := by
  induction k generalizing source with
  | zero => rfl
  | succ k ih => rw [Function.iterate_succ_apply, ih, lines_dropLine, List.drop_tail]

/-- The lines after the first `k` are what is left of a source without these. -/
theorem ofLines_drop_lines (k : Nat) (source : List UInt8) :
    ofLines ((lines source).drop k) = dropLine^[k] source := by
  rw [← lines_dropLine_iterate, ofLines_lines]

/-! ## What is dropped -/

theorem complete_concat_lineFeed (text : List UInt8) : Complete (text ++ [lineFeed]) := by
  intro b hb
  rw [List.getLast?_concat] at hb
  exact (Option.some.inj hb).symm

/-- The first line ends with the first line feed, or it is all there is. -/
theorem dropLine_cases (source : List UInt8) :
    dropLine source = [] ∨ ∃ text, source = text ++ lineFeed :: dropLine source := by
  induction source with
  | nil => exact Or.inl rfl
  | cons b bs ih =>
      by_cases hb : b = lineFeed
      · right
        exact ⟨[], by simp [dropLine, hb]⟩
      · have rest : dropLine (b :: bs) = dropLine bs := by simp [dropLine, hb]
        rw [rest]
        rcases ih with none | ⟨text, split⟩
        · exact Or.inl none
        · right
          refine ⟨b :: text, ?_⟩
          rw [List.cons_append, ← split]

/-- A line is dropped from a source at a cut between two lines. -/
theorem exists_append_dropLine (source : List UInt8) :
    ∃ line, line ++ dropLine source = source ∧ Boundary line (dropLine source) := by
  rcases dropLine_cases source with none | ⟨text, split⟩
  · exact ⟨source, by rw [none, List.append_nil], Or.inr none⟩
  · refine ⟨text ++ [lineFeed], ?_, Or.inl (complete_concat_lineFeed text)⟩
    rw [List.append_assoc, List.singleton_append, ← split]

/-- Any number of lines is dropped from a source at a cut between two lines. -/
theorem exists_append_dropLine_iterate (k : Nat) (source : List UInt8) :
    ∃ consumed, consumed ++ dropLine^[k] source = source ∧
      Boundary consumed (dropLine^[k] source) := by
  induction k generalizing source with
  | zero => exact ⟨[], rfl, Or.inl complete_nil⟩
  | succ k ih =>
      obtain ⟨line, split, cut⟩ := exists_append_dropLine source
      obtain ⟨more, split', cut'⟩ := ih (dropLine source)
      rw [Function.iterate_succ_apply]
      refine ⟨line ++ more, by rw [List.append_assoc, split', split], ?_⟩
      rw [← split'] at cut
      exact cut.trans cut'

end Source

end FixedColumns
