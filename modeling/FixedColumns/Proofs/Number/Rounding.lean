import FixedColumns.Number.Decimal
import FixedColumns.Proofs.Number.Nearest
import FixedColumns.Proofs.Number.Numerals

/-!
# `FixedColumns.Proofs.Number.Rounding` — a numeral is read as the word nearest to its value

A numeral has an exact value, a rational number, and so has the decimal number that it is read as:
the two are the same but for the sign (`Numeral.toRat_decimal`). The decimal number rounds as the
ratio that it is, and a ratio rounds to the nearest word, so `readReal_nearest` follows for digits
and exponents of any length.
-/

namespace FixedColumns

-- Powers are those of core, whatever other instances are in scope.
attribute [local instance (high)] instPowNat

/-! ## Values of numerals -/

/-- The exact value of the digits on both sides of the point. -/
def Mantissa.value : Mantissa → ℚ
  | whole ds => ds.value
  | pointed ds fraction =>
      ds.value + fraction.elim 0 fun fs => (fs.value / 10 ^ fs.chars.length : ℚ)
  | pointFirst ds => ds.value / 10 ^ ds.chars.length

/-- The exact value of a numeral. -/
def Numeral.value (n : Numeral) : ℚ :=
  (if n.sign.negative then -1 else 1) * (n.mantissa.value * 10 ^ exponentValue n.exponent)

/-- The value of the digits on both sides of the point is that of all digits, moved down by as many
    places as there are digits after the point. -/
theorem Mantissa.value_eq (m : Mantissa) :
    m.value = digitsValue (m.wholeDigits ++ m.fractionDigits) / 10 ^ m.fractionDigits.length := by
  cases m with
  | whole ds => simp [value, wholeDigits, fractionDigits, Digits.value]
  | pointed ds fraction =>
      cases fraction with
      | none => simp [value, wholeDigits, fractionDigits, Digits.value]
      | some fs =>
          simp only [value, wholeDigits, fractionDigits, Option.elim_some, digitsValue_append,
            Digits.value]
          push_cast
          field_simp
  | pointFirst ds => simp [value, wholeDigits, fractionDigits, Digits.value]

/-! ## Values of decimal numbers -/

namespace Decimal

/-- The decimal number as a rational number. -/
def toRat (d : Decimal) : ℚ := d.coefficient * 10 ^ d.exponent

theorem toRat_nonneg (d : Decimal) : 0 ≤ d.toRat := by
  unfold toRat
  positivity

theorem denominator_pos (d : Decimal) : 0 < d.denominator := Nat.pow_pos (by decide)

theorem toRat_eq_div (d : Decimal) : d.toRat = d.numerator / d.denominator := by
  unfold toRat numerator denominator
  rcases Int.eq_nat_or_neg d.exponent with ⟨k, hk | hk⟩
  · simp [hk]
  · simp [hk, div_eq_mul_inv]

/-- Decimal numbers of the same value round to the same word. -/
theorem round_congr (f : BinaryFormat) {c d : Decimal} (h : c.toRat = d.toRat) :
    c.round f = d.round f := by
  rw [round_eq_round_ratio, round_eq_round_ratio]
  have cross : c.numerator * d.denominator = d.numerator * c.denominator := by
    rw [toRat_eq_div, toRat_eq_div, div_eq_div_iff (by have := c.denominator_pos; positivity)
      (by have := d.denominator_pos; positivity)] at h
    exact_mod_cast h
  calc f.round c.numerator c.denominator
      = f.round (c.numerator * d.denominator) (c.denominator * d.denominator) :=
        (f.round_mul_right _ _ d.denominator_pos).symm
    _ = f.round (d.numerator * c.denominator) (d.denominator * c.denominator) := by
        rw [cross, Nat.mul_comm c.denominator]
    _ = f.round d.numerator d.denominator := f.round_mul_right _ _ c.denominator_pos

end Decimal

/-- A numeral is read as a decimal number of its value, the sign apart. -/
theorem Numeral.toRat_decimal (n : Numeral) :
    n.decimal.toRat = n.mantissa.value * 10 ^ exponentValue n.exponent := by
  unfold Decimal.toRat decimal
  rw [n.mantissa.value_eq, zpow_sub₀ (by norm_num), zpow_natCast]
  ring

/-! ## Reading -/

/-- **Real numbers are rounded correctly.** -/
theorem readReal_nearest (text : String) (n : Numeral) (h : Text.trim text.toList = n.text) :
    ∃ x : Double, readReal text.toList = .ok x ∧ x.negative = n.sign.negative ∧
      (2 ^ 1024 - 2 ^ 970 ≤ |n.value| → x = .infinity (decide (n.value < 0))) ∧
      (|n.value| < 2 ^ 1024 - 2 ^ 970 → x.IsNearest n.value) := by
  obtain ⟨sign, infinite, nearest⟩ := Binary.ofRatio_spec BinaryFormat.proper_double
    n.sign.negative n.decimal.numerator n.decimal.denominator_pos
  rw [← Decimal.toRat_eq_div, BinaryFormat.overflow_double] at infinite nearest
  have value : n.value = (if n.sign.negative then -1 else 1) * n.decimal.toRat := by
    rw [n.toRat_decimal, Numeral.value]
  have size : |n.value| = n.decimal.toRat := by
    rw [value]
    cases n.sign.negative <;> simp [abs_of_nonneg n.decimal.toRat_nonneg]
  have read := readReal_of_trim_eq h
  rw [Decimal.round_eq_round_ratio] at read
  refine ⟨_, read, sign, ?_, ?_⟩
  · rw [size]
    intro beyond
    have range : (0 : ℚ) < 2 ^ 1024 - 2 ^ 970 :=
      sub_pos.mpr (pow_lt_pow_right₀ one_lt_two (by decide))
    have positive : 0 < n.decimal.toRat := lt_of_lt_of_le range beyond
    have below : decide (n.value < 0) = n.sign.negative := by
      rw [value]
      cases n.sign.negative <;> simp [positive, le_of_lt positive]
    rw [below]
    exact infinite beyond
  · rw [size, value]
    exact nearest

/-- A number half way between two words: the integer after `2 ^ 53`, with a minus sign. -/
def halfway : Numeral where
  sign := .minus
  mantissa := .whole ⟨"9007199254740993".toList, by decide, by decide⟩
  exponent := none

theorem value_halfway : halfway.value = -9007199254740993 := by
  have digits : digitsValue "9007199254740993".toList = 9007199254740993 := by decide
  have sign : halfway.sign.negative = true := rfl
  rw [Numeral.value, sign]
  show -1 * ((digitsValue "9007199254740993".toList : ℚ) * 10 ^ (0 : Int)) = _
  rw [digits]
  norm_num

/-- A number half way between two words is read, with blanks around it. -/
theorem readReal_nearest_halfway :
    Text.trim " -9007199254740993".toList = halfway.text ∧
      ∃ x : Double, readReal " -9007199254740993".toList = .ok x ∧ x.negative = true ∧
        x.IsNearest (-9007199254740993) := by
  have trimmed : Text.trim " -9007199254740993".toList = halfway.text := by decide
  have inRange : |halfway.value| < 2 ^ 1024 - 2 ^ 970 := by
    have sizes : 9007199254740993 + 2 ^ 970 < 2 ^ 1024 := by decide +kernel
    rw [value_halfway, abs_neg, lt_sub_iff_add_lt, Nat.abs_ofNat]
    exact_mod_cast sizes
  obtain ⟨x, read, sign, -, nearest⟩ := readReal_nearest " -9007199254740993" halfway trimmed
  exact ⟨trimmed, x, read, sign, value_halfway ▸ nearest inRange⟩

end FixedColumns
