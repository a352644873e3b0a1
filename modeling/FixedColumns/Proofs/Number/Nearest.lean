import FixedColumns.Number.Binary
import Mathlib.Algebra.Order.Field.Power
import Mathlib.Algebra.Order.Ring.Rat
import Mathlib.Tactic.FieldSimp
import Mathlib.Tactic.Linarith
import Mathlib.Tactic.Positivity
import Mathlib.Tactic.Ring

/-!
# `FixedColumns.Proofs.Number.Nearest` — rounding gives the nearest word

`BinaryFormat.round` picks an exponent and rounds a quotient in its steps. That this is the nearest
word of the format, of all exponents, is shown in units and without the sign first.

## Contents
- **The grid of words.** `unitsOf` gives a word's size. It is strictly monotone, also where the
  significand carries into the exponent field (`unitsOf_strictMono`), so that the neighbours of a
  word are the words next to it.
- **The nearest word.** `Nearest` compares a number with the midpoints to all other words. The
  nearer of the two words around a number is nearest (`nearest_of_bracket`), and no other is
  (`Nearest.unique`).
- **Rounding.** `nearest_roundFreely`, as if the exponent field had no end.
- **The end of the range.** From `overflow` on everything rounds to infinity, and nothing below it
  does (`round_of_overflow_le`, `round_of_lt_overflow`).
- **Words as numbers.** `Binary.IsNearest` is the same with signs, in terms of the rational numbers
  that finite words stand for, and `Binary.ofRatio_spec` says what the word of a sign and a ratio is.
-/

namespace FixedColumns

-- Powers are those of core, whatever other instances are in scope.
attribute [local instance (high)] instPowNat

namespace BinaryFormat

variable {f : BinaryFormat}

/-! ## The grid of words -/

/-- The size in units of a word without its sign, as if the exponent field had no end. -/
def unitsOf (f : BinaryFormat) (word : Nat) : Nat :=
  let field := word / 2 ^ f.fractionBits
  let fraction := word % 2 ^ f.fractionBits
  if field = 0 then fraction else (2 ^ f.fractionBits + fraction) * 2 ^ (field - 1)

/-- The size of a word by its two fields. -/
theorem unitsOf_fields (field : Nat) {fraction : Nat} (h : fraction < 2 ^ f.fractionBits) :
    f.unitsOf (field * 2 ^ f.fractionBits + fraction) =
      if field = 0 then fraction else (2 ^ f.fractionBits + fraction) * 2 ^ (field - 1) := by
  have quotient : (field * 2 ^ f.fractionBits + fraction) / 2 ^ f.fractionBits = field := by
    rw [Nat.add_comm, Nat.add_mul_div_right _ _ (Nat.two_pow_pos _), Nat.div_eq_of_lt h, Nat.zero_add]
  have remainder : (field * 2 ^ f.fractionBits + fraction) % 2 ^ f.fractionBits = fraction := by
    rw [Nat.mul_add_mod_self_right, Nat.mod_eq_of_lt h]
  simp only [unitsOf, quotient, remainder]

/-- In steps of `2 ^ e` units a word is its significand, up to and with the one that carries into the
    next exponent. -/
theorem unitsOf_steps {e s : Nat} (hs : s ≤ 2 ^ (f.fractionBits + 1))
    (normal : e = 0 ∨ 2 ^ f.fractionBits ≤ s) :
    f.unitsOf (e * 2 ^ f.fractionBits + s) = s * 2 ^ e := by
  have double : 2 ^ (f.fractionBits + 1) = 2 ^ f.fractionBits + 2 ^ f.fractionBits := by
    rw [Nat.pow_succ, Nat.mul_two]
  by_cases subnormal : s < 2 ^ f.fractionBits
  · obtain rfl : e = 0 := by omega
    rw [unitsOf_fields 0 subnormal, if_pos rfl, Nat.pow_zero, Nat.mul_one]
  · obtain ⟨fraction, rfl⟩ := Nat.exists_eq_add_of_le (Nat.not_lt.mp subnormal)
    by_cases carry : fraction = 2 ^ f.fractionBits
    · have word : e * 2 ^ f.fractionBits + (2 ^ f.fractionBits + fraction) =
          (e + 2) * 2 ^ f.fractionBits + 0 := by
        rw [carry, Nat.add_mul]
        omega
      rw [word, unitsOf_fields (e + 2) (Nat.two_pow_pos _), if_neg (by omega), carry]
      show _ * 2 ^ (e + 1) = _
      rw [Nat.pow_succ, Nat.add_zero]
      ring
    · have word : e * 2 ^ f.fractionBits + (2 ^ f.fractionBits + fraction) =
          (e + 1) * 2 ^ f.fractionBits + fraction := by
        rw [Nat.add_mul]
        omega
      rw [word, unitsOf_fields (e + 1) (by omega), if_neg (by omega), Nat.add_sub_cancel]

/-- Every word is a significand at some exponent. -/
theorem exists_steps (f : BinaryFormat) (word : Nat) :
    ∃ e s, word = e * 2 ^ f.fractionBits + s ∧ s < 2 ^ (f.fractionBits + 1) ∧
      (e = 0 ∨ 2 ^ f.fractionBits ≤ s) := by
  have double : 2 ^ (f.fractionBits + 1) = 2 ^ f.fractionBits + 2 ^ f.fractionBits := by
    rw [Nat.pow_succ, Nat.mul_two]
  have split := Nat.div_add_mod' word (2 ^ f.fractionBits)
  have fraction := Nat.mod_lt word (Nat.two_pow_pos f.fractionBits)
  cases hfield : word / 2 ^ f.fractionBits with
  | zero =>
      rw [hfield] at split
      exact ⟨0, word % 2 ^ f.fractionBits, by omega, by omega, .inl rfl⟩
  | succ e =>
      rw [hfield, Nat.succ_mul] at split
      exact ⟨e, 2 ^ f.fractionBits + word % 2 ^ f.fractionBits, by omega, by omega,
        .inr (Nat.le_add_right ..)⟩

/-- A greater word is greater in size. -/
theorem unitsOf_strictMono : StrictMono f.unitsOf := by
  apply strictMono_nat_of_lt_succ
  intro word
  obtain ⟨e, s, rfl, hs, normal⟩ := exists_steps f word
  rw [unitsOf_steps (Nat.le_of_lt hs) normal, Nat.add_assoc,
    unitsOf_steps hs (normal.imp_right fun h => Nat.le_succ_of_le h)]
  exact Nat.mul_lt_mul_of_pos_right (Nat.lt_succ_self s) (Nat.two_pow_pos e)

theorem unitsOf_zero (f : BinaryFormat) : f.unitsOf 0 = 0 := by
  simp [unitsOf]

/-! ## The nearest word -/

/-- The word is nearest to `v` units: `v` is no further from it than half way to another word, and
    half way only if the word is even. -/
structure Nearest (f : BinaryFormat) (v : ℚ) (word : ℕ) : Prop where
  above : ∀ other, word < other → 2 * v ≤ f.unitsOf word + f.unitsOf other
  below : ∀ other, other < word → f.unitsOf other + f.unitsOf word ≤ 2 * v
  even : ∀ other, other ≠ word → 2 * v = f.unitsOf word + f.unitsOf other → word % 2 = 0

/-- Of the two words around a number the nearer one is the nearest of all. -/
theorem nearest_of_bracket {v : ℚ} {low word : ℕ} (hlow : f.unitsOf low ≤ v)
    (hhigh : v < f.unitsOf (low + 1))
    (nearer : (word = low ∧ 2 * v ≤ f.unitsOf low + f.unitsOf (low + 1)) ∨
      (word = low + 1 ∧ f.unitsOf low + f.unitsOf (low + 1) ≤ 2 * v))
    (tie : 2 * v = f.unitsOf low + f.unitsOf (low + 1) → word % 2 = 0) :
    f.Nearest v word := by
  have mono {a b : ℕ} (h : a ≤ b) : (f.unitsOf a : ℚ) ≤ f.unitsOf b :=
    Nat.cast_le.mpr (unitsOf_strictMono.monotone h)
  have lt {a b : ℕ} (h : a < b) : (f.unitsOf a : ℚ) < f.unitsOf b :=
    Nat.cast_lt.mpr (unitsOf_strictMono h)
  rcases nearer with ⟨rfl, near⟩ | ⟨rfl, near⟩
  · refine ⟨?_, ?_, ?_⟩
    · intro other h
      linarith [mono (Nat.succ_le_of_lt h)]
    · intro other h
      linarith [lt h]
    · intro other different same
      rcases Nat.lt_or_gt_of_ne different with h | h
      · linarith [lt h]
      · exact tie (by linarith [mono (Nat.succ_le_of_lt h)])
  · refine ⟨?_, ?_, ?_⟩
    · intro other h
      linarith [lt h]
    · intro other h
      linarith [mono (Nat.le_of_lt_succ h)]
    · intro other different same
      rcases Nat.lt_or_gt_of_ne different with h | h
      · exact tie (by linarith [mono (Nat.le_of_lt_succ h)])
      · linarith [lt h]

/-- Of the two words around a ratio the nearer one is the nearest of all. -/
theorem nearest_of_ratio_bracket {units den low word : ℕ} (hden : 0 < den)
    (hlow : den * f.unitsOf low ≤ units) (hhigh : units < den * f.unitsOf (low + 1))
    (nearer :
      (word = low ∧ 2 * units ≤ den * (f.unitsOf low + f.unitsOf (low + 1))) ∨
        (word = low + 1 ∧ den * (f.unitsOf low + f.unitsOf (low + 1)) ≤ 2 * units))
    (tie : 2 * units = den * (f.unitsOf low + f.unitsOf (low + 1)) → word % 2 = 0) :
    f.Nearest (units / den) word := by
  have pos : (0 : ℚ) < den := Nat.cast_pos.mpr hden
  have twice : 2 * ((units : ℚ) / den) = 2 * units / den := (mul_div_assoc ..).symm
  have above : (f.unitsOf low : ℚ) ≤ units / den := by
    rw [le_div_iff₀' pos]
    exact_mod_cast hlow
  refine nearest_of_bracket above ?_ ?_ ?_
  · rw [div_lt_iff₀' pos]
    exact_mod_cast hhigh
  · rw [twice, div_le_iff₀' pos, le_div_iff₀' pos]
    exact_mod_cast nearer
  · rw [twice, div_eq_iff pos.ne', mul_comm (_ + _ : ℚ)]
    exact_mod_cast tie

namespace Nearest

variable {v : ℚ} {word other : ℕ}

/-- There is one nearest word. -/
theorem unique (h : f.Nearest v word) (h' : f.Nearest v other) : word = other := by
  -- The lower of two nearest words would be half way to the other, and then beyond half way to the
  -- word next to it, which is not the other because both are even.
  have lower {a b : ℕ} (ha : f.Nearest v a) (hb : f.Nearest v b) : ¬ a < b := by
    intro lt
    have half : 2 * v = f.unitsOf a + f.unitsOf b := le_antisymm (ha.above b lt) (hb.below a lt)
    have evenA := ha.even b (Nat.ne_of_gt lt) half
    have evenB := hb.even a (Nat.ne_of_lt lt) (by rw [half, add_comm])
    have next : a + 1 < b := by omega
    have less : (f.unitsOf (a + 1) : ℚ) < f.unitsOf b := Nat.cast_lt.mpr (unitsOf_strictMono next)
    linarith [ha.above (a + 1) (Nat.lt_succ_self a)]
  exact Nat.le_antisymm (Nat.not_lt.mp (lower h' h)) (Nat.not_lt.mp (lower h h'))

/-- Zero is not nearer. -/
theorem unitsOf_le_two_mul (h : f.Nearest v word) (hv : 0 ≤ v) : f.unitsOf word ≤ 2 * v := by
  rcases Nat.eq_zero_or_pos word with rfl | pos
  · rw [unitsOf_zero]
    push_cast
    linarith
  · have half := h.below 0 pos
    rw [unitsOf_zero] at half
    push_cast at half
    linarith

/-- A size that a word has is that word's. -/
theorem of_unitsOf (word : ℕ) : f.Nearest (f.unitsOf word) word := by
  have lt {a b : ℕ} (h : a < b) : (f.unitsOf a : ℚ) < f.unitsOf b :=
    Nat.cast_lt.mpr (unitsOf_strictMono h)
  refine ⟨?_, ?_, ?_⟩
  · intro other h
    linarith [lt h]
  · intro other h
    linarith [lt h]
  · intro other different same
    have equal : f.unitsOf word = f.unitsOf other := by
      have : (f.unitsOf word : ℚ) = f.unitsOf other := by linarith
      exact_mod_cast this
    exact absurd (unitsOf_strictMono.injective equal).symm different

/-- No word is nearer, whichever sign it has. -/
theorem abs_sub_le (h : f.Nearest v word) (hv : 0 ≤ v) {t : ℚ}
    (ht : t = f.unitsOf other ∨ t = -f.unitsOf other) : |f.unitsOf word - v| ≤ |t - v| := by
  rcases ht with rfl | rfl
  · rcases lt_trichotomy word other with lt | rfl | lt
    · have size : (f.unitsOf word : ℚ) < f.unitsOf other := Nat.cast_lt.mpr (unitsOf_strictMono lt)
      have half := h.above other lt
      calc |(f.unitsOf word : ℚ) - v| ≤ f.unitsOf other - v :=
            abs_le.mpr ⟨by linarith, by linarith⟩
        _ ≤ |(f.unitsOf other : ℚ) - v| := le_abs_self _
    · exact le_rfl
    · have size : (f.unitsOf other : ℚ) < f.unitsOf word := Nat.cast_lt.mpr (unitsOf_strictMono lt)
      have half := h.below other lt
      calc |(f.unitsOf word : ℚ) - v| ≤ -(f.unitsOf other - v) :=
            abs_le.mpr ⟨by linarith, by linarith⟩
        _ ≤ |(f.unitsOf other : ℚ) - v| := neg_le_abs _
  · have sizes : (0 : ℚ) ≤ f.unitsOf word ∧ (0 : ℚ) ≤ f.unitsOf other :=
      ⟨Nat.cast_nonneg _, Nat.cast_nonneg _⟩
    have half := h.unitsOf_le_two_mul hv
    calc |(f.unitsOf word : ℚ) - v| ≤ -(-f.unitsOf other - v) :=
          abs_le.mpr ⟨by linarith, by linarith⟩
      _ ≤ |-(f.unitsOf other : ℚ) - v| := neg_le_abs _

/-- If another number of the format is as near, then the word is even. -/
theorem even_of_abs_sub_eq (h : f.Nearest v word) (hv : 0 ≤ v) {t : ℚ}
    (ht : t = f.unitsOf other ∨ t = -f.unitsOf other) (different : t ≠ f.unitsOf word)
    (same : |t - v| = |f.unitsOf word - v|) : word % 2 = 0 := by
  rcases ht with rfl | rfl
  · rcases abs_eq_abs.mp same with equal | opposite
    · exact absurd (by linarith) different
    · refine h.even other ?_ (by linarith)
      rintro rfl
      exact different rfl
  · have sizes : (0 : ℚ) ≤ f.unitsOf word ∧ (0 : ℚ) ≤ f.unitsOf other :=
      ⟨Nat.cast_nonneg _, Nat.cast_nonneg _⟩
    rcases abs_eq_abs.mp same with equal | opposite
    · exact absurd (by linarith) different
    · -- Only zero is as near from the other side.
      by_cases zero : word = 0
      · rw [zero]
      · have half := h.unitsOf_le_two_mul hv
        refine h.even 0 (Ne.symm zero) ?_
        rw [unitsOf_zero]
        push_cast
        linarith

end Nearest

/-! ## Rounding -/

/-- The nearest word as if the exponent field had no end. -/
def roundFreely (f : BinaryFormat) (num den : Nat) : Nat :=
  let units := num * 2 ^ f.scale
  let e := (units / den).log2 - f.fractionBits
  e * 2 ^ f.fractionBits + roundQuotient units (den * 2 ^ e)

theorem round_eq_min (f : BinaryFormat) (num den : Nat) :
    f.round num den = min f.infinity (f.roundFreely num den) := rfl

/-- A quotient is rounded to one of the integers next to it: the nearer one, and half way the even
    one. -/
theorem roundQuotient_cases (num : Nat) {den : Nat} (hden : 0 < den) :
    den * (num / den) ≤ num ∧ num < den * (num / den + 1) ∧
      ((roundQuotient num den = num / den ∧ 2 * num ≤ den * (2 * (num / den) + 1)) ∨
        (roundQuotient num den = num / den + 1 ∧ den * (2 * (num / den) + 1) ≤ 2 * num)) ∧
      (2 * num = den * (2 * (num / den) + 1) → roundQuotient num den % 2 = 0) := by
  have split := Nat.div_add_mod num den
  have remainder := Nat.mod_lt num hden
  have next : den * (num / den + 1) = den * (num / den) + den := Nat.mul_succ ..
  have middle : den * (2 * (num / den) + 1) = 2 * (den * (num / den)) + den := by ring
  rw [next, middle]
  simp only [roundQuotient]
  generalize num / den = low at *
  generalize den * low = base at *
  split
  · omega
  · split
    · omega
    · have parity : low % 2 = 0 ∨ low % 2 = 1 := Nat.mod_two_eq_zero_or_one low
      omega

/-- The exponent is chosen so that a quotient in its steps fits the significand and, unless the
    exponent is the least one, fills it. -/
theorem significand_bounds (units den : Nat) {e : Nat}
    (he : e = (units / den).log2 - f.fractionBits) :
    units / (den * 2 ^ e) < 2 ^ (f.fractionBits + 1) ∧
      (e = 0 ∨ 2 ^ f.fractionBits ≤ units / (den * 2 ^ e)) := by
  rw [← Nat.div_div_eq_div_mul]
  generalize units / den = quotient at *
  constructor
  · rw [Nat.div_lt_iff_lt_mul (Nat.two_pow_pos e), ← Nat.pow_add]
    exact Nat.lt_of_lt_of_le Nat.lt_log2_self (Nat.pow_le_pow_right (by decide) (by omega))
  · by_cases h : e = 0
    · exact .inl h
    · right
      have log : quotient.log2 = f.fractionBits + e := by omega
      have nonzero : quotient ≠ 0 := by
        rintro rfl
        rw [Nat.log2_zero] at log
        omega
      rw [Nat.le_div_iff_mul_le (Nat.two_pow_pos e), ← Nat.pow_add, ← log]
      exact Nat.log2_self_le nonzero

/-- Rounding finds the nearest word. -/
theorem nearest_roundFreely (hf : 0 < f.fractionBits) (num : Nat) {den : Nat} (hden : 0 < den) :
    f.Nearest (num / den * 2 ^ f.scale) (f.roundFreely num den) := by
  have value : (num / den * 2 ^ f.scale : ℚ) = (num * 2 ^ f.scale : ℕ) / den := by
    push_cast
    ring
  rw [value]
  simp only [roundFreely]
  generalize num * 2 ^ f.scale = units
  generalize he : (units / den).log2 - f.fractionBits = e
  obtain ⟨fits, normal⟩ := significand_bounds (f := f) units den he.symm
  have step : 0 < den * 2 ^ e := Nat.mul_pos hden (Nat.two_pow_pos e)
  obtain ⟨floor, next, nearer, tie⟩ := roundQuotient_cases units step
  generalize units / (den * 2 ^ e) = low at *
  generalize roundQuotient units (den * 2 ^ e) = rounded at *
  -- The sizes of the two words next to the quotient, and their sum, as multiples of the step.
  have sizeLow : den * f.unitsOf (e * 2 ^ f.fractionBits + low) = den * 2 ^ e * low := by
    rw [unitsOf_steps (Nat.le_of_lt fits) normal]
    ring
  have sizeNext : den * f.unitsOf (e * 2 ^ f.fractionBits + low + 1) =
      den * 2 ^ e * (low + 1) := by
    rw [Nat.add_assoc, unitsOf_steps fits (normal.imp_right fun h => Nat.le_succ_of_le h),
      Nat.succ_eq_add_one]
    ring
  have middle : den * (f.unitsOf (e * 2 ^ f.fractionBits + low) +
      f.unitsOf (e * 2 ^ f.fractionBits + low + 1)) = den * 2 ^ e * (2 * low + 1) := by
    rw [Nat.mul_add, sizeLow, sizeNext]
    ring
  apply nearest_of_ratio_bracket hden (sizeLow ▸ floor) (sizeNext ▸ next)
  · rw [middle]
    rcases nearer with ⟨rfl, near⟩ | ⟨rfl, near⟩
    · exact .inl ⟨rfl, near⟩
    · exact .inr ⟨(Nat.add_assoc ..).symm, near⟩
  · rw [middle]
    intro half
    obtain ⟨k, hk⟩ := Nat.exists_eq_add_of_le' hf
    rw [hk, Nat.pow_succ, ← Nat.mul_assoc, Nat.mul_add_mod_self_right]
    exact tie half

/-! ## The end of the range -/

/-- Both fields of the format have bits. -/
structure Proper (f : BinaryFormat) : Prop where
  fraction : 0 < f.fractionBits
  exponent : 0 < f.exponentBits

theorem proper_double : double.Proper := ⟨by decide, by decide⟩

/-- Half way between the greatest finite value and the value that would follow it. -/
def overflow (f : BinaryFormat) : ℚ :=
  (f.unitsOf (f.infinity - 1) + f.unitsOf f.infinity) / 2 / 2 ^ f.scale

/-- The end of the range in powers of two, from the sizes of the last two words. -/
theorem overflow_eq {a b : ℕ}
    (sizes : f.unitsOf (f.infinity - 1) + f.unitsOf f.infinity + 2 ^ (a + 1) * 2 ^ f.scale =
      2 ^ (b + 1) * 2 ^ f.scale) : f.overflow = 2 ^ b - 2 ^ a := by
  have cast : (f.unitsOf (f.infinity - 1) + f.unitsOf f.infinity + 2 ^ (a + 1) * 2 ^ f.scale : ℚ) =
      2 ^ (b + 1) * 2 ^ f.scale := by
    exact_mod_cast sizes
  unfold overflow
  rw [eq_sub_of_add_eq cast]
  field_simp
  ring

/-- The 64-bit format ends half a step of its greatest exponent before `2 ^ 1024`. -/
theorem overflow_double : double.overflow = 2 ^ 1024 - 2 ^ 970 :=
  overflow_eq (by decide +kernel)

theorem infinity_pos (hf : f.Proper) : 0 < f.infinity := by
  have field : 1 < 2 ^ f.exponentBits := Nat.one_lt_two_pow (Nat.ne_of_gt hf.exponent)
  exact Nat.mul_pos (Nat.sub_pos_of_lt field) (Nat.two_pow_pos _)

theorem infinity_even (hf : f.Proper) : f.infinity % 2 = 0 := by
  obtain ⟨k, hk⟩ := Nat.exists_eq_add_of_le' hf.fraction
  unfold infinity
  rw [hk, Nat.pow_succ, ← Nat.mul_assoc, Nat.mul_mod_left]

theorem infinity_lt (f : BinaryFormat) : f.infinity < 2 ^ f.magnitudeBits := by
  unfold infinity magnitudeBits
  rw [Nat.pow_add]
  exact Nat.mul_lt_mul_of_pos_right (Nat.sub_lt (Nat.two_pow_pos _) Nat.one_pos)
    (Nat.two_pow_pos _)

theorem round_le_infinity (f : BinaryFormat) (num den : Nat) : f.round num den ≤ f.infinity :=
  Nat.min_le_left ..

section Round

variable (hf : f.Proper) {num den : Nat} (hden : 0 < den)

include hf hden

/-- A number at or beyond the end of the range rounds to infinity. -/
theorem round_of_overflow_le (h : f.overflow ≤ num / den) : f.round num den = f.infinity := by
  have nearest := nearest_roundFreely hf.fraction num hden
  rw [round_eq_min]
  apply Nat.min_eq_left
  have far : (f.unitsOf (f.infinity - 1) + f.unitsOf f.infinity : ℚ) ≤
      2 * (num / den * 2 ^ f.scale) := by
    unfold overflow at h
    rw [div_le_iff₀ (by positivity)] at h
    linarith
  generalize f.roundFreely num den = word at *
  by_contra inside
  have below : word ≤ f.infinity - 1 := Nat.le_sub_one_of_lt (Nat.not_le.mp inside)
  have size : (f.unitsOf word : ℚ) ≤ f.unitsOf (f.infinity - 1) :=
    Nat.cast_le.mpr (unitsOf_strictMono.monotone below)
  -- Half way to infinity there is the greatest finite word only, and that one is odd.
  have half : 2 * (num / den * 2 ^ f.scale : ℚ) = f.unitsOf word + f.unitsOf f.infinity :=
    le_antisymm (nearest.above f.infinity (Nat.not_le.mp inside)) (by linarith)
  have same : f.unitsOf word = f.unitsOf (f.infinity - 1) := by
    have : (f.unitsOf word : ℚ) = f.unitsOf (f.infinity - 1) := by linarith
    exact_mod_cast this
  have last := unitsOf_strictMono.injective same
  have even := nearest.even f.infinity (Nat.ne_of_gt (Nat.not_le.mp inside)) half
  have := infinity_even hf
  have := infinity_pos hf
  omega

/-- A number within the range rounds to the nearest finite word. -/
theorem round_of_lt_overflow (h : (num / den : ℚ) < f.overflow) :
    f.round num den < f.infinity ∧ f.Nearest (num / den * 2 ^ f.scale) (f.round num den) := by
  have nearest := nearest_roundFreely hf.fraction num hden
  have near : 2 * (num / den * 2 ^ f.scale : ℚ) <
      f.unitsOf (f.infinity - 1) + f.unitsOf f.infinity := by
    unfold overflow at h
    rw [lt_div_iff₀ (by positivity)] at h
    linarith
  have finite : f.roundFreely num den < f.infinity := by
    by_contra beyond
    have beyond := Nat.not_lt.mp beyond
    have size : (f.unitsOf f.infinity : ℚ) ≤ f.unitsOf (f.roundFreely num den) :=
      Nat.cast_le.mpr (unitsOf_strictMono.monotone beyond)
    have last := nearest.below (f.infinity - 1) (by have := infinity_pos hf; omega)
    linarith
  rw [round_eq_min, Nat.min_eq_right (Nat.le_of_lt finite)]
  exact ⟨finite, nearest⟩

end Round

end BinaryFormat

/-! ## Words as numbers -/

namespace Binary

variable {f : BinaryFormat}

/-- The word is neither an infinity nor no number. -/
def IsFinite (x : Binary f) : Prop := x.magnitude < f.infinity

/-- The fraction field with the leading bit that a positive exponent field implies. -/
def significand (x : Binary f) : Nat :=
  if x.magnitude / 2 ^ f.fractionBits = 0 then x.magnitude % 2 ^ f.fractionBits
  else 2 ^ f.fractionBits + x.magnitude % 2 ^ f.fractionBits

/-- The number that a finite word stands for. -/
def toRat (x : Binary f) : ℚ := (if x.negative then -1 else 1) * (x.units / 2 ^ f.scale)

/-- The word is finite and no finite word is nearer to the number; if another number of the format
    is as near, then the significand is even. -/
structure IsNearest (x : Binary f) (q : ℚ) : Prop where
  finite : x.IsFinite
  nearest : ∀ y : Binary f, y.IsFinite → |x.toRat - q| ≤ |y.toRat - q|
  even : ∀ y : Binary f, y.IsFinite → y.toRat ≠ x.toRat → |y.toRat - q| = |x.toRat - q| →
    x.significand % 2 = 0

theorem IsFinite.isNaN_eq_false {x : Binary f} (h : x.IsFinite) : x.isNaN = false :=
  decide_eq_false (Nat.not_lt_of_gt h)

theorem IsFinite.isInfinite_eq_false {x : Binary f} (h : x.IsFinite) : x.isInfinite = false :=
  beq_eq_false_iff_ne.mpr (Nat.ne_of_lt h)

theorem units_eq (x : Binary f) : x.units = f.unitsOf x.magnitude := rfl

theorem significand_mod_two (hf : f.Proper) (x : Binary f) :
    x.significand % 2 = x.magnitude % 2 := by
  obtain ⟨k, hk⟩ := Nat.exists_eq_add_of_le' hf.fraction
  have fraction : x.magnitude % 2 ^ f.fractionBits % 2 = x.magnitude % 2 := by
    rw [hk, Nat.pow_succ, Nat.mod_mul_left_mod]
  have leading : 2 ^ f.fractionBits % 2 = 0 := by
    rw [hk, Nat.pow_succ, Nat.mul_mod_left]
  unfold significand
  split
  · exact fraction
  · omega

/-- The distance of a word from a number with the sign of another word, in units. -/
theorem abs_toRat_sub (x y : Binary f) (v : ℚ) :
    |y.toRat - (if x.negative then -1 else 1) * v| =
      |(if x.negative = y.negative then 1 else -1) * f.unitsOf y.magnitude - v * 2 ^ f.scale| /
        2 ^ f.scale := by
  have pos : (0 : ℚ) < 2 ^ f.scale := by positivity
  rw [eq_div_iff pos.ne', ← abs_of_pos pos, ← abs_mul, abs_of_pos pos]
  unfold toRat
  rw [units_eq]
  -- The sign of the number is taken out of both sides.
  cases x.negative with
  | false =>
      congr 1
      cases y.negative <;> (simp; field_simp)
  | true =>
      rw [← abs_neg]
      congr 1
      cases y.negative <;> (simp; field_simp; ring)

/-- The nearest word, with the sign of the number, is nearest of all words of either sign. -/
theorem isNearest_of_nearest (hf : f.Proper) {x : Binary f} (finite : x.IsFinite) {v : ℚ}
    (hv : 0 ≤ v) (h : f.Nearest (v * 2 ^ f.scale) x.magnitude) :
    x.IsNearest ((if x.negative then -1 else 1) * v) := by
  have pos : (0 : ℚ) < 2 ^ f.scale := by positivity
  have nonneg : 0 ≤ v * 2 ^ f.scale := by positivity
  have own := abs_toRat_sub x x v
  rw [if_pos rfl, one_mul] at own
  have either (y : Binary f) :
      (if x.negative = y.negative then 1 else -1) * (f.unitsOf y.magnitude : ℚ) =
          f.unitsOf y.magnitude ∨
        (if x.negative = y.negative then 1 else -1) * (f.unitsOf y.magnitude : ℚ) =
          -f.unitsOf y.magnitude := by
    split
    · exact .inl (one_mul _)
    · exact .inr (neg_one_mul _)
  refine ⟨finite, ?_, ?_⟩
  · intro y _
    rw [own, abs_toRat_sub x y, div_le_div_iff_of_pos_right pos]
    exact h.abs_sub_le nonneg (either y)
  · intro y _ different same
    rw [significand_mod_two hf]
    rw [own, abs_toRat_sub x y, div_left_inj' pos.ne'] at same
    refine h.even_of_abs_sub_eq nonneg (either y) ?_ same
    intro equal
    apply different
    unfold toRat
    rw [units_eq x, units_eq y, ← equal]
    cases x.negative <;> cases y.negative <;> simp [neg_div]

/-- The word of a sign and a ratio: it has the sign, it is infinite at or beyond the end of the range,
    and otherwise it is nearest to the ratio with the sign. -/
theorem ofRatio_spec (hf : f.Proper) (negative : Bool) (num : Nat) {den : Nat} (hden : 0 < den) :
    (ofRatio negative num den : Binary f).negative = negative ∧
    (f.overflow ≤ num / den → (ofRatio negative num den : Binary f) = infinity negative) ∧
    ((num / den : ℚ) < f.overflow →
      (ofRatio negative num den : Binary f).IsNearest ((if negative then -1 else 1) * (num / den))) := by
  have bits : f.round num den < 2 ^ f.magnitudeBits :=
    Nat.lt_of_le_of_lt (f.round_le_infinity num den) f.infinity_lt
  have sign : (ofRatio negative num den : Binary f).negative = negative := negative_ofParts _ bits
  have magnitude : (ofRatio negative num den : Binary f).magnitude = f.round num den :=
    magnitude_ofParts _ bits
  refine ⟨sign, ?_, ?_⟩
  · intro h
    rw [ofRatio, BinaryFormat.round_of_overflow_le hf hden h, infinity]
  · intro h
    obtain ⟨finite, nearest⟩ := BinaryFormat.round_of_lt_overflow hf hden h
    have result := isNearest_of_nearest hf (x := ofRatio negative num den)
      (by unfold IsFinite; rwa [magnitude]) (v := num / den) (by positivity) (by rwa [magnitude])
    rwa [sign] at result

end Binary

end FixedColumns
