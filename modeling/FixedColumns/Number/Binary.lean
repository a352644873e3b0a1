/-!
# `FixedColumns.Number.Binary` — binary floating-point words

A value of a binary interchange format is its word: a sign bit, an exponent field and a fraction
field. Every finite value is a whole number of *units*, the least positive value of the format, so
exact arithmetic on finite values is arithmetic on naturals.

## Contents
- `BinaryFormat`, with `single` and `double`.
- `BinaryFormat.round`: the word, sign apart, that is nearest to a ratio of naturals, with ties to
  the even one.
- `Binary`: words, their parts and their classes.
- Conversions: from an integer, between formats, and to an integer by truncation.
-/

namespace FixedColumns

-- Powers are those of core, whatever other instances are in scope.
attribute [local instance (high)] instPowNat

/-! ## Formats -/

/-- A binary interchange format, by the widths of its two fields. -/
structure BinaryFormat where
  fractionBits : Nat
  exponentBits : Nat
deriving DecidableEq, Repr

namespace BinaryFormat

/-- The 32-bit format. -/
def single : BinaryFormat := ⟨23, 8⟩

/-- The 64-bit format. -/
def double : BinaryFormat := ⟨52, 11⟩

/-- The bits of a word other than the sign. -/
def magnitudeBits (f : BinaryFormat) : Nat := f.exponentBits + f.fractionBits

/-- The bits of a word. -/
def width (f : BinaryFormat) : Nat := f.magnitudeBits + 1

/-- The exponent field of the values from 1 up to 2. -/
def bias (f : BinaryFormat) : Nat := 2 ^ (f.exponentBits - 1) - 1

/-- The unit of the format, its least positive value, is `2 ^ -scale`. -/
def scale (f : BinaryFormat) : Nat := f.bias - 1 + f.fractionBits

/-- The word of infinity, sign apart. Words above it are not numbers. -/
def infinity (f : BinaryFormat) : Nat := (2 ^ f.exponentBits - 1) * 2 ^ f.fractionBits

end BinaryFormat

/-! ## Rounding -/

/-- The integer nearest to a quotient; halfway between two, the even one. -/
def roundQuotient (num den : Nat) : Nat :=
  let low := num / den
  let twice := 2 * (num % den)
  if twice < den then low
  else if den < twice then low + 1
  else low + low % 2

/-- A common factor does not change the rounded quotient. -/
theorem roundQuotient_mul_right (num den : Nat) {k : Nat} (hk : 0 < k) :
    roundQuotient (num * k) (den * k) = roundQuotient num den := by
  have lt (a b : Nat) : (2 * (a * k) < b * k) = (2 * a < b) := by
    rw [← Nat.mul_assoc, Nat.mul_lt_mul_right hk]
  have gt (a b : Nat) : (b * k < 2 * (a * k)) = (b < 2 * a) := by
    rw [← Nat.mul_assoc, Nat.mul_lt_mul_right hk]
  simp only [roundQuotient, Nat.mul_div_mul_right num den hk, Nat.mul_mod_mul_right, lt, gt]

/-- Rounding a quotient does not go below its floor. -/
theorem le_roundQuotient (num den : Nat) : num / den ≤ roundQuotient num den := by
  simp only [roundQuotient]
  split
  · exact Nat.le_refl _
  · split
    · exact Nat.le_succ _
    · exact Nat.le_add_right ..

/-- The word nearest to `num / den`, sign apart: the even one halfway between two, and infinity for
    all that reaches the end of the range. With `e` chosen so that the quotient in steps of `2 ^ e`
    units fills the significand, the words of that exponent begin at `e * 2 ^ fractionBits`; a
    quotient that rounds up to the next power of two carries into the exponent field. -/
def BinaryFormat.round (f : BinaryFormat) (num den : Nat) : Nat :=
  let units := num * 2 ^ f.scale
  let e := (units / den).log2 - f.fractionBits
  min f.infinity (e * 2 ^ f.fractionBits + roundQuotient units (den * 2 ^ e))

/-- Rounding a ratio depends on its value alone. -/
theorem BinaryFormat.round_mul_right (f : BinaryFormat) (num den : Nat) {k : Nat} (hk : 0 < k) :
    f.round (num * k) (den * k) = f.round num den := by
  have units : num * k * 2 ^ f.scale = num * 2 ^ f.scale * k := Nat.mul_right_comm ..
  have step (e : Nat) : den * k * 2 ^ e = den * 2 ^ e * k := Nat.mul_right_comm ..
  simp only [BinaryFormat.round, units, step, Nat.mul_div_mul_right _ _ hk,
    roundQuotient_mul_right _ _ hk]

theorem BinaryFormat.round_zero (f : BinaryFormat) (den : Nat) : f.round 0 den = 0 := by
  simp [BinaryFormat.round, roundQuotient]

/-- A ratio of at least twice the greatest power of two in range rounds to infinity. -/
theorem BinaryFormat.round_eq_infinity (f : BinaryFormat) {num : Nat} (h : 2 ^ (f.bias + 1) ≤ num) :
    f.round num 1 = f.infinity := by
  have pos : 0 < num := Nat.lt_of_lt_of_le (Nat.pow_pos (by decide)) h
  have units : 2 ^ (f.bias + 1 + f.scale) ≤ num * 2 ^ f.scale := by
    rw [Nat.pow_add]; exact Nat.mul_le_mul_right _ h
  have nonzero : num * 2 ^ f.scale ≠ 0 := by
    have := Nat.mul_pos pos (Nat.pow_pos (n := f.scale) (show 0 < 2 by decide)); omega
  have log : f.bias + 1 + f.scale ≤ (num * 2 ^ f.scale).log2 := (Nat.le_log2 nonzero).mpr units
  have scale : f.scale = f.bias - 1 + f.fractionBits := rfl
  simp only [BinaryFormat.round, Nat.div_one, Nat.one_mul]
  generalize hu : num * 2 ^ f.scale = u at *
  generalize he : u.log2 - f.fractionBits = e
  have top : 2 ^ f.fractionBits ≤ u / 2 ^ e := by
    rw [Nat.le_div_iff_mul_le (Nat.pow_pos (by decide)), ← Nat.pow_add]
    have : f.fractionBits + e = u.log2 := by omega
    rw [this]
    exact Nat.log2_self_le nonzero
  have quotient := Nat.le_trans top (le_roundQuotient u (2 ^ e))
  have field : 2 ^ f.exponentBits - 1 ≤ e + 1 := by
    have : f.bias = 2 ^ (f.exponentBits - 1) - 1 := rfl
    cases hb : f.exponentBits with
    | zero => simp
    | succ n =>
      rw [hb, Nat.add_sub_cancel] at this
      rw [Nat.pow_succ]
      omega
  apply Nat.min_eq_left
  calc f.infinity = (2 ^ f.exponentBits - 1) * 2 ^ f.fractionBits := rfl
    _ ≤ (e + 1) * 2 ^ f.fractionBits := Nat.mul_le_mul_right _ field
    _ = e * 2 ^ f.fractionBits + 2 ^ f.fractionBits := by rw [Nat.add_mul, Nat.one_mul]
    _ ≤ e * 2 ^ f.fractionBits + roundQuotient u (2 ^ e) := Nat.add_le_add_left quotient _

/-- A ratio below half a unit rounds to zero. -/
theorem BinaryFormat.round_eq_zero (f : BinaryFormat) {num den : Nat}
    (h : 2 * (num * 2 ^ f.scale) < den) : f.round num den = 0 := by
  have small : num * 2 ^ f.scale < den := by omega
  simp [BinaryFormat.round, Nat.div_eq_of_lt small, roundQuotient, Nat.mod_eq_of_lt small, h]

/-! ## Words -/

/-- A word of a binary interchange format. -/
structure Binary (f : BinaryFormat) where
  bits : BitVec f.width
deriving DecidableEq, Repr

/-- The 32-bit words. -/
abbrev Single := Binary .single

/-- The 64-bit words. -/
abbrev Double := Binary .double

namespace Binary

variable {f : BinaryFormat}

/-- The word of a sign and the remaining bits. -/
def ofParts (negative : Bool) (magnitude : Nat) : Binary f :=
  ⟨BitVec.ofNat f.width ((if negative then 2 ^ f.magnitudeBits else 0) + magnitude)⟩

/-- The sign bit. -/
def negative (x : Binary f) : Bool := decide (2 ^ f.magnitudeBits ≤ x.bits.toNat)

/-- The bits other than the sign, as a number. -/
def magnitude (x : Binary f) : Nat := x.bits.toNat % 2 ^ f.magnitudeBits

@[simp] theorem magnitude_ofParts (negative : Bool) {magnitude : Nat}
    (h : magnitude < 2 ^ f.magnitudeBits) :
    (ofParts negative magnitude : Binary f).magnitude = magnitude := by
  have half : 2 ^ f.width = 2 ^ f.magnitudeBits * 2 := Nat.pow_succ ..
  simp only [Binary.magnitude, ofParts, BitVec.toNat_ofNat, half, Nat.mod_mul_right_mod]
  cases negative <;> simp [Nat.mod_eq_of_lt h]

@[simp] theorem negative_ofParts (negative : Bool) {magnitude : Nat}
    (h : magnitude < 2 ^ f.magnitudeBits) :
    (ofParts negative magnitude : Binary f).negative = negative := by
  have half : 2 ^ f.width = 2 ^ f.magnitudeBits * 2 := Nat.pow_succ ..
  simp only [Binary.negative, ofParts, BitVec.toNat_ofNat, half]
  cases negative
  · rw [Nat.mod_eq_of_lt (by simp; omega)]
    simpa using h
  · rw [Nat.mod_eq_of_lt (by simp; omega)]
    simp

/-- A word is put together from its sign and its other bits. -/
theorem ofParts_negative_magnitude (x : Binary f) : ofParts x.negative x.magnitude = x := by
  obtain ⟨bits⟩ := x
  have half : 2 ^ f.width = 2 ^ f.magnitudeBits * 2 := Nat.pow_succ ..
  have lt := bits.isLt
  have pos : 0 < 2 ^ f.magnitudeBits := Nat.pow_pos (by decide)
  simp only [ofParts, negative, magnitude]
  congr 1
  apply BitVec.eq_of_toNat_eq
  rw [BitVec.toNat_ofNat]
  by_cases h : 2 ^ f.magnitudeBits ≤ bits.toNat
  · have : bits.toNat % 2 ^ f.magnitudeBits = bits.toNat - 2 ^ f.magnitudeBits := by
      rw [Nat.mod_eq_sub_mod h, Nat.mod_eq_of_lt (by omega)]
    simp only [h, decide_true, if_true, this]
    rw [Nat.add_sub_cancel' h, Nat.mod_eq_of_lt lt]
  · have small : bits.toNat < 2 ^ f.magnitudeBits := by omega
    simp only [h, decide_false, Bool.false_eq_true, if_false, Nat.mod_eq_of_lt small, Nat.zero_add]
    rw [Nat.mod_eq_of_lt lt]

/-- The word is not a number. -/
def isNaN (x : Binary f) : Bool := decide (f.infinity < x.magnitude)

/-- The word is an infinity of either sign. -/
def isInfinite (x : Binary f) : Bool := x.magnitude == f.infinity

/-- The word is a zero of either sign. -/
def isZero (x : Binary f) : Bool := x.magnitude == 0

/-- A word that is not a number. -/
def nan : Binary f := ofParts false (f.infinity + 2 ^ (f.fractionBits - 1))

/-- The infinity of a sign. -/
def infinity (negative : Bool) : Binary f := ofParts negative f.infinity

/-- The size of a finite value in units: the fraction field with the leading bit that a positive
    exponent field implies, at the place that the exponent field gives it. -/
def units (x : Binary f) : Nat :=
  let field := x.magnitude / 2 ^ f.fractionBits
  let fraction := x.magnitude % 2 ^ f.fractionBits
  if field = 0 then fraction else (2 ^ f.fractionBits + fraction) * 2 ^ (field - 1)

/-- Equality of values: a zero equals both zeros, and what is not a number equals nothing. -/
def equal (x y : Binary f) : Bool :=
  !x.isNaN && !y.isNaN && (x == y || (x.isZero && y.isZero))

/-! ## Conversions -/

/-- The value nearest to a ratio, with its sign. -/
def ofRatio (negative : Bool) (num den : Nat) : Binary f := ofParts negative (f.round num den)

/-- The value nearest to an integer. -/
def ofInt (n : Int) : Binary f := ofRatio (decide (n < 0)) n.natAbs 1

/-- The value of another format nearest to this one. -/
def convert {g : BinaryFormat} (x : Binary f) : Binary g :=
  if x.isNaN then nan
  else if x.isInfinite then infinity x.negative
  else ofRatio x.negative x.units (2 ^ f.scale)

/-- The integer next to a finite value in the direction of zero. -/
def truncate? (x : Binary f) : Option Int :=
  if x.isNaN || x.isInfinite then none
  else
    let whole : Int := (x.units / 2 ^ f.scale : Nat)
    some (if x.negative then -whole else whole)

end Binary

end FixedColumns
