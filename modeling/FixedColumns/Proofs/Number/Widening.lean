import FixedColumns.Proofs.Number.Conversion
import FixedColumns.Proofs.Number.Integers
import FixedColumns.Proofs.Number.Rounding

/-!
# `FixedColumns.Proofs.Number.Widening` — integers that are read as real numbers

A text that is read as an integer is a sign and digits, and so it is a numeral, of the same value. It
is read as the word of that sign and those digits (`exists_readReal_of_readInteger`), which is the
word nearest to the integer. Converting the integer that was read gives the same word, but for a zero
that is written with a minus sign, which an integer does not keep (`Binary.ofInt_signed_eq_iff`).
-/

namespace FixedColumns

-- Powers are those of core, whatever other instances are in scope.
attribute [local instance (high)] instPowNat

/-! ## Words of whole numbers -/

namespace BinaryFormat

variable {f : BinaryFormat}

/-- Only zero rounds to zero, of whole numbers. -/
theorem round_one_eq_zero_iff (hf : f.Proper) {num : Nat} : f.round num 1 = 0 ↔ num = 0 := by
  rw [round_eq_zero_iff hf num Nat.one_pos, Nat.cast_one, div_one]
  constructor
  · intro small
    -- Half a unit is less than one, and a whole number below one is zero.
    have half : (1 / 2 ^ (f.scale + 1) : ℚ) < 1 := by
      rw [div_lt_one (by positivity)]
      exact one_lt_pow₀ one_lt_two (Nat.succ_ne_zero _)
    have below : (num : ℚ) < 1 := lt_of_le_of_lt small half
    exact Nat.lt_one_iff.mp (by exact_mod_cast below)
  · rintro rfl
    rw [Nat.cast_zero]
    positivity

end BinaryFormat

namespace Binary

variable {f : BinaryFormat}

theorem negative_ofRatio (hf : f.Proper) (negative : Bool) (num : Nat) :
    (ofRatio negative num 1 : Binary f).negative = negative :=
  (ofRatio_spec hf negative num Nat.one_pos).1

theorem isZero_ofRatio_iff (hf : f.Proper) (negative : Bool) {num : Nat} :
    (ofRatio negative num 1 : Binary f).isZero = true ↔ num = 0 := by
  have bits : f.round num 1 < 2 ^ f.magnitudeBits :=
    Nat.lt_of_le_of_lt (f.round_le_infinity num 1) f.infinity_lt
  rw [isZero, beq_iff_eq, ofRatio, magnitude_ofParts _ bits, BinaryFormat.round_one_eq_zero_iff hf]

/-- An integer and its sign and digits have the same word, unless they are a zero with a minus. -/
theorem ofInt_signed_eq_iff (hf : f.Proper) {negative : Bool} {magnitude : Nat} :
    (ofInt (signed negative magnitude) : Binary f) = ofRatio negative magnitude 1 ↔
      ¬ (magnitude = 0 ∧ negative = true) := by
  by_cases zero : magnitude = 0
  · have value : signed negative magnitude = 0 := by
      rw [zero]
      cases negative with
      | false => rfl
      | true => rfl
    have plain : (ofInt 0 : Binary f).negative = false := negative_ofRatio hf false 0
    rw [value, zero]
    cases negative with
    | false => exact iff_of_true rfl (by simp)
    | true =>
        refine iff_of_false ?_ (by simp)
        intro same
        rw [same, negative_ofRatio hf true 0] at plain
        cases plain
  · have sign : decide (signed negative magnitude < 0) = negative := by
      unfold signed
      cases negative with
      | false => simp
      | true => simp; omega
    have size : (signed negative magnitude).natAbs = magnitude := by
      unfold signed
      cases negative with
      | false => rfl
      | true => simp
    rw [ofInt, sign, size]
    exact iff_of_true rfl (by simp [zero])

/-- A sign and a magnitude of 64 bits have the word that is nearest to their integer. -/
theorem isNearest_ofRatio {negative : Bool} {magnitude : Nat}
    (h : magnitude ≤ magnitudeLimit negative) :
    (ofRatio negative magnitude 1 : Double).IsNearest (signed negative magnitude) := by
  obtain ⟨-, -, nearest⟩ := ofRatio_spec BinaryFormat.proper_double negative magnitude Nat.one_pos
  have value : ((signed negative magnitude : Int) : ℚ) =
      (if negative then -1 else 1) * (magnitude / (1 : Nat)) := by
    cases negative with
    | false => simp [signed]
    | true => simp [signed]
  have limit : magnitude ≤ 2 ^ 63 := by
    unfold magnitudeLimit at h
    split at h
    · exact h
    · omega
  have range : (magnitude : ℚ) / (1 : Nat) < BinaryFormat.double.overflow := by
    rw [Nat.cast_one, div_one]
    exact lt_of_le_of_lt (by exact_mod_cast limit) BinaryFormat.two_pow_lt_overflow.2
  rw [value]
  exact nearest range

end Binary

/-! ## Texts of integers -/

/-- A text that is read as an integer is read as the word of its sign and digits. -/
theorem exists_readReal_of_readInteger {text : List Char} {v : Int64}
    (h : readInteger text = .ok v) :
    ∃ (s : Sign) (ds : Digits), Text.trim text = s.text ++ ds.chars ∧
      v.toInt = signed s.negative ds.value ∧
      readReal text = .ok (.ofRatio s.negative ds.value 1) := by
  obtain ⟨s, ds, spelled, value⟩ := readInteger_eq_ok_iff.mp h
  have numeral : Text.trim text = (⟨s, .whole ds, none⟩ : Numeral).text := by
    rw [← spelled]
    exact congrArg (s.text ++ ·) (List.append_nil _).symm
  refine ⟨s, ds, spelled.symm, value.symm, ?_⟩
  rw [readReal_of_trim_eq numeral, Decimal.round_eq_round_ratio]
  simp [Numeral.decimal, Mantissa.wholeDigits, Mantissa.fractionDigits, Numeral.exponentValue,
    Decimal.numerator, Decimal.denominator, Digits.value, Binary.ofRatio]

/-- A text that is read as a sign and digits has a minus sign exactly if that is the sign. -/
theorem minus_mem_iff {text : List Char} {s : Sign} {ds : Digits}
    (h : Text.trim text = s.text ++ ds.chars) : '-' ∈ text ↔ s.negative = true := by
  rw [← Text.mem_trim_iff (by decide), h, List.mem_append]
  have digits : '-' ∉ ds.chars := fun minus => absurd (ds.digits '-' minus) (by decide)
  cases s with
  | absent => simp [Sign.text, Sign.negative, digits]
  | plus => simp [Sign.text, Sign.negative, digits]
  | minus => simp [Sign.text, Sign.negative]

theorem signed_eq_zero_iff {negative : Bool} {magnitude : Nat} :
    signed negative magnitude = 0 ↔ magnitude = 0 := by
  unfold signed
  cases negative with
  | false => simp
  | true => simp

/-- **What is read as an integer is read as the nearest real number.** It is the word that the integer
    is converted to, but for a zero with a minus sign. -/
theorem readReal_of_readInteger {text : List Char} {v : Int64} (h : readInteger text = .ok v) :
    ∃ x : Double, readReal text = .ok x ∧ x.IsNearest v.toInt ∧
      (x.isZero = true ∧ x.negative = true ↔ v = 0 ∧ '-' ∈ text) ∧
      (Binary.ofInt v.toInt = x ↔ ¬ (v = 0 ∧ '-' ∈ text)) := by
  obtain ⟨s, ds, trimmed, value, read⟩ := exists_readReal_of_readInteger h
  have zero : v = 0 ↔ ds.value = 0 := by
    rw [← Int64.toInt_inj, Int64.toInt_zero, value, signed_eq_zero_iff]
  have bounds : ds.value ≤ magnitudeLimit s.negative := by
    rw [← signed_bounds_iff, ← value]
    exact ⟨v.le_toInt, Int.le_sub_one_of_lt v.toInt_lt⟩
  refine ⟨_, read, ?_, ?_, ?_⟩
  · rw [value]
    exact Binary.isNearest_ofRatio bounds
  · rw [Binary.isZero_ofRatio_iff BinaryFormat.proper_double,
      Binary.negative_ofRatio BinaryFormat.proper_double, zero, minus_mem_iff trimmed]
  · rw [value, zero, minus_mem_iff trimmed]
    exact Binary.ofInt_signed_eq_iff BinaryFormat.proper_double

end FixedColumns
