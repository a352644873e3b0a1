import FixedColumns.Number.Binary

/-!
# `FixedColumns.Number.Decimal` — decimal numbers and binary words

A decimal number is a coefficient times a power of ten. `Decimal.round` gives the word nearest to
it, for coefficients and exponents of any size. `Decimal.shortest` goes the other way: from a word
to the decimal with the fewest digits that rounds to the word, and of those the nearest one.
-/

namespace FixedColumns

-- Powers are those of core, whatever other instances are in scope.
attribute [local instance (high)] instPowNat

/-- The number `coefficient * 10 ^ exponent`. -/
structure Decimal where
  coefficient : Nat
  exponent : Int
deriving DecidableEq, Repr

namespace Decimal

/-- The number as a ratio: its numerator. -/
def numerator (d : Decimal) : Nat := d.coefficient * 10 ^ d.exponent.toNat

/-- The number as a ratio: its denominator. -/
def denominator (d : Decimal) : Nat := 10 ^ (-d.exponent).toNat

/-! ## To the nearest word -/

/-- The number is at least a power of ten that lies beyond the range of the format. -/
def Exceeds (f : BinaryFormat) (d : Decimal) : Prop := (f.bias + 1 : Int) ≤ 3 * d.exponent

/-- The number is below half a unit of the format. -/
def Vanishes (f : BinaryFormat) (d : Decimal) : Prop :=
  (d.coefficient.log2 : Int) + f.scale + 2 + 3 * d.exponent ≤ 0

instance (f : BinaryFormat) (d : Decimal) : Decidable (d.Exceeds f) :=
  inferInstanceAs (Decidable (_ ≤ _))

instance (f : BinaryFormat) (d : Decimal) : Decidable (d.Vanishes f) :=
  inferInstanceAs (Decidable (_ ≤ _))

/-- The word nearest to a decimal number, sign apart. Exponents that leave no doubt about the answer
    are settled before the power of ten is formed: ten is more than `2 ^ 3`. -/
def round (f : BinaryFormat) (d : Decimal) : Nat :=
  if d.coefficient = 0 then 0
  else if d.Exceeds f then f.infinity
  else if d.Vanishes f then 0
  else f.round d.numerator d.denominator

/-- Ten is more than the third power of two. -/
theorem two_pow_three_mul_le_ten_pow (k : Nat) : 2 ^ (3 * k) ≤ 10 ^ k := by
  rw [Nat.pow_mul]
  exact Nat.pow_le_pow_left (by decide) k

/-- The word nearest to a decimal number is the one nearest to it as a ratio: the exponents that are
    settled at once are settled rightly. -/
theorem round_eq_round_ratio (f : BinaryFormat) (d : Decimal) :
    d.round f = f.round d.numerator d.denominator := by
  simp only [round]
  split
  · rename_i h
    rw [numerator, h, Nat.zero_mul, BinaryFormat.round_zero]
  · rename_i nonzero
    split
    · rename_i h
      simp only [Exceeds] at h
      have one : d.denominator = 1 := by
        rw [denominator, show (-d.exponent).toNat = 0 by omega, Nat.pow_zero]
      have power : 2 ^ (f.bias + 1) ≤ 10 ^ d.exponent.toNat :=
        Nat.le_trans (Nat.pow_le_pow_right (by decide) (by omega))
          (two_pow_three_mul_le_ten_pow d.exponent.toNat)
      have num : 2 ^ (f.bias + 1) ≤ d.numerator :=
        Nat.le_trans power (Nat.le_mul_of_pos_left _ (Nat.pos_of_ne_zero nonzero))
      rw [one, f.round_eq_infinity num]
    · split
      · rename_i h
        simp only [Vanishes] at h
        have num : d.numerator = d.coefficient := by
          rw [numerator, show d.exponent.toNat = 0 by omega, Nat.pow_zero, Nat.mul_one]
        have below :
            2 * (d.coefficient * 2 ^ f.scale) < 2 ^ (d.coefficient.log2 + f.scale + 2) := by
          have := Nat.mul_lt_mul_of_pos_right (Nat.lt_log2_self (n := d.coefficient))
            (Nat.pow_pos (n := f.scale) (show 0 < 2 by decide))
          rw [Nat.pow_add, Nat.pow_add]
          rw [Nat.pow_succ, Nat.mul_right_comm] at this
          omega
        rw [num, f.round_eq_zero]
        refine Nat.lt_of_lt_of_le below (Nat.le_trans ?_ (two_pow_three_mul_le_ten_pow _))
        exact Nat.pow_le_pow_right (by decide) (by omega)
      · rfl

/-! ## The fewest digits -/

/-- The least `p` for which a positive ratio is below `10 ^ p`. -/
def order (num den : Nat) : Int :=
  if den ≤ num then (Nat.toDigits 10 (num / den)).length
  else 1 - ((Nat.toDigits 10 ((den - 1) / num)).length : Int)

/-- Of the two multiples of `10 ^ exponent` next to a positive finite word, those that round to it;
    of both, the nearer one, and of two equally near the greater. -/
def neighbour? {f : BinaryFormat} (x : Binary f) (exponent : Int) : Option Decimal :=
  let num := x.units * 10 ^ (-exponent).toNat
  let den := 2 ^ f.scale * 10 ^ exponent.toNat
  let below : Decimal := ⟨num / den, exponent⟩
  let above : Decimal := ⟨num / den + 1, exponent⟩
  match below.round f == x.magnitude, above.round f == x.magnitude with
  | true, true => some (if 2 * (num % den) < den then below else above)
  | true, false => some below
  | false, true => some above
  | false, false => none

/-- A finite word as a decimal number, exactly: the unit is a power of one half, and so a power of
    five in that power of one tenth. -/
def exact {f : BinaryFormat} (x : Binary f) : Decimal := ⟨x.units * 5 ^ f.scale, -f.scale⟩

/-- The number of significant digits that tells any two words of the format apart. -/
def enoughDigits (f : BinaryFormat) : Nat := 2 + (f.fractionBits + 1) * 30103 / 100000

/-- The decimal with the fewest digits that rounds to a positive finite word. Grids of powers of ten
    are tried from the coarsest that reaches the word on. -/
def shortest {f : BinaryFormat} (x : Binary f) : Decimal :=
  let order := order x.units (2 ^ f.scale)
  let grids := List.range (enoughDigits f + 1)
  (grids.findSome? fun (digits : Nat) => neighbour? x (order - digits)).getD (exact x)

/-- What the search finds rounds to the word. -/
theorem round_of_neighbour?_eq_some {f : BinaryFormat} {x : Binary f} {exponent : Int} {d : Decimal}
    (h : neighbour? x exponent = some d) : d.round f = x.magnitude := by
  simp only [neighbour?] at h
  split at h
  · rename_i hb ha
    rw [← Option.some.inj h]
    split
    · exact beq_iff_eq.mp hb
    · exact beq_iff_eq.mp ha
  · rename_i hb _
    exact Option.some.inj h ▸ beq_iff_eq.mp hb
  · rename_i _ ha
    exact Option.some.inj h ▸ beq_iff_eq.mp ha
  · exact nomatch h

end Decimal

end FixedColumns
