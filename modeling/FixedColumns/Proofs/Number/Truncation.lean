import FixedColumns.Proofs.Number.Nearest
import Mathlib.Data.Rat.Floor

/-!
# `FixedColumns.Proofs.Number.Truncation` — numbers without their fraction

A finite word loses its fraction by a division of naturals, on its size alone. The integer that is
left is the one next to its value in the direction of zero, `Binary.truncate?_of_isFinite`; the words
that are not finite have none.
-/

namespace FixedColumns

-- Powers are those of core, whatever other instances are in scope.
attribute [local instance (high)] instPowNat

/-! ## Numbers -/

/-- The integer next to a number in the direction of zero. -/
def truncation (q : ℚ) : ℤ := if q < 0 then ⌈q⌉ else ⌊q⌋

theorem truncation_of_nonneg {q : ℚ} (h : 0 ≤ q) : truncation q = ⌊q⌋ := if_neg (not_lt.mpr h)

/-- A number and its opposite lose the same. -/
theorem truncation_neg_of_nonneg {q : ℚ} (h : 0 ≤ q) : truncation (-q) = -⌊q⌋ := by
  rcases h.eq_or_lt with rfl | pos
  · simp [truncation]
  · rw [truncation, if_pos (neg_neg_of_pos pos), Int.ceil_neg]

/-! ## Words -/

namespace Binary

variable {f : BinaryFormat}

/-- A word is finite, or an infinity, or no number. -/
theorem isFinite_or (x : Binary f) : x.IsFinite ∨ x.isInfinite = true ∨ x.isNaN = true := by
  rcases Nat.lt_trichotomy x.magnitude f.infinity with finite | infinite | nan
  · exact Or.inl finite
  · exact Or.inr (Or.inl (beq_iff_eq.mpr infinite))
  · exact Or.inr (Or.inr (decide_eq_true nan))

/-- **A finite word is truncated** to the integer next to its value in the direction of zero. -/
theorem truncate?_of_isFinite {x : Binary f} (h : x.IsFinite) :
    x.truncate? = some (truncation x.toRat) := by
  have size : (0 : ℚ) ≤ x.units / 2 ^ f.scale := by positivity
  have whole : ⌊(x.units / 2 ^ f.scale : ℚ)⌋ = ((x.units / 2 ^ f.scale : Nat) : Int) := by
    have ratio := Rat.floor_natCast_div_natCast x.units (2 ^ f.scale)
    push_cast at ratio ⊢
    exact ratio
  have divided : x.truncate? = some (if x.negative then
      -((x.units / 2 ^ f.scale : Nat) : Int) else ((x.units / 2 ^ f.scale : Nat) : Int)) := by
    rw [truncate?, h.isNaN_eq_false, h.isInfinite_eq_false, Bool.or_self,
      if_neg Bool.false_ne_true]
  rw [divided, toRat]
  cases x.negative with
  | false =>
      rw [if_neg Bool.false_ne_true, if_neg Bool.false_ne_true, one_mul,
        truncation_of_nonneg size, whole]
  | true => rw [if_pos rfl, if_pos rfl, neg_one_mul, truncation_neg_of_nonneg size, whole]

theorem truncate?_of_isInfinite {x : Binary f} (h : x.isInfinite = true) : x.truncate? = none := by
  rw [truncate?, h, Bool.or_true, if_pos rfl]

theorem truncate?_of_isNaN {x : Binary f} (h : x.isNaN = true) : x.truncate? = none := by
  rw [truncate?, h, Bool.true_or, if_pos rfl]

end Binary

end FixedColumns
