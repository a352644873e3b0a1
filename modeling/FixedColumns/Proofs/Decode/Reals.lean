import FixedColumns.Decode.Line
import FixedColumns.Proofs.Number.Conversion

/-!
# `FixedColumns.Proofs.Decode.Reals` — numbers are rounded once

An integer and a real number decode into a real number of either width. `Shape.ofValue_rounds_once`
says that each result is the one word that is nearest to the exact value: an integer does not pass
through the wider format on its way into the narrower one, and for some integers that would give
another word.
-/

namespace FixedColumns

-- Powers are those of core, whatever other instances are in scope.
attribute [local instance (high)] instPowNat

namespace Shape

/-- An integer a little over half way between two words of 32 bits. The nearest word of 64 bits is
    half way, and from there the even one of the two is nearest. -/
theorem exists_rounded_twice :
    ∃ v : Int64, (Binary.ofInt v.toInt : Double).convert ≠ (Binary.ofInt v.toInt : Single) :=
  ⟨0x1000001000000001, by decide +kernel⟩

/-- **Numbers are rounded once.** -/
theorem ofValue_rounds_once :
    (∀ v : Int64, ∃ x : Double, ofValue .double (.integer v) = .ok (.double x) ∧
      ∀ y, y = x ↔ y.negative = decide (v.toInt < 0) ∧ y.IsNearest v.toInt) ∧
    (∀ v : Int64, ∃ x : Single, ofValue .single (.integer v) = .ok (.single x) ∧
      ∀ y, y = x ↔ y.negative = decide (v.toInt < 0) ∧ y.IsNearest v.toInt) ∧
    (∃ (v : Int64) (x : Double), ofValue .double (.integer v) = .ok (.double x) ∧
      ofValue .single (.real x) ≠ ofValue .single (.integer v)) ∧
    (∀ x : Double, ofValue .double (.real x) = .ok (.double x)) ∧
    ∀ x : Double, ∃ y : Single, ofValue .single (.real x) = .ok (.single y) ∧
      (x.isNaN = true → y.isNaN = true) ∧
      (x.isInfinite = true → y = .infinity x.negative) ∧
      (x.IsFinite → y.negative = x.negative ∧
        (2 ^ 128 - 2 ^ 103 ≤ |x.toRat| → y = .infinity x.negative) ∧
        (|x.toRat| < 2 ^ 128 - 2 ^ 103 →
          ∀ z, z = y ↔ z.negative = x.negative ∧ z.IsNearest x.toRat) ∧
        (y.isZero = true ↔ |x.toRat| ≤ 1 / 2 ^ 150)) := by
  obtain ⟨narrow, wide⟩ := BinaryFormat.two_pow_lt_overflow
  refine ⟨?_, ?_, ?_, fun x => rfl, ?_⟩
  · intro v
    exact ⟨_, rfl, Binary.eq_ofInt_toInt_iff BinaryFormat.proper_double wide v⟩
  · intro v
    exact ⟨_, rfl, Binary.eq_ofInt_toInt_iff BinaryFormat.proper_single narrow v⟩
  · obtain ⟨v, twice⟩ := exists_rounded_twice
    refine ⟨v, _, rfl, ?_⟩
    intro same
    exact twice (Decoded.single.inj (Except.ok.inj same))
  · intro x
    refine ⟨_, rfl, ?_, Binary.convert_of_isInfinite, ?_⟩
    · intro nan
      rw [Binary.convert_of_isNaN nan]
      decide
    · intro finite
      obtain ⟨sign, infinite, nearest, zero⟩ :=
        Binary.convert_of_isFinite BinaryFormat.proper_single finite
      rw [BinaryFormat.overflow_single] at infinite nearest
      refine ⟨sign, infinite, ?_, zero⟩
      intro range z
      constructor
      · rintro rfl
        exact ⟨sign, nearest range⟩
      · rintro ⟨same, near⟩
        exact near.unique BinaryFormat.proper_single (nearest range) (same.trans sign.symm)

end Shape

end FixedColumns
