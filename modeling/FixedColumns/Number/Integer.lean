import FixedColumns.Text.Blank

/-!
# `FixedColumns.Number.Integer` — reading integers

An integer is an optional sign and one or more decimal digits, with blanks allowed around it and
nowhere inside. The digits are read from the left, and the first thing that is wrong decides the
fault: a character that is no digit, or a digit that takes the value out of range.

## Contents
- `IntegerFault` and its `message`.
- `takeSign`, `scanDigits`: the two parts of an integer.
- `readInteger`: a text with blanks around the integer, to 64 bits.
-/

namespace FixedColumns

-- Powers are those of core, whatever other instances are in scope.
attribute [local instance (high)] instPowNat

/-- Why a text is no integer of the range that is asked for. -/
inductive IntegerFault where
  /-- nothing is left after trimming -/
  | empty
  /-- a character is no digit, or no digit follows the sign -/
  | invalidDigit
  /-- the digits exceed the greatest value -/
  | tooLarge
  /-- the digits after a minus sign exceed the magnitude of the least value -/
  | tooSmall
deriving DecidableEq, Repr

/-- The text that reports a fault. -/
def IntegerFault.message : IntegerFault → String
  | .empty => "cannot parse integer from empty string"
  | .invalidDigit => "invalid digit found in string"
  | .tooLarge => "number too large to fit in target type"
  | .tooSmall => "number too small to fit in target type"

/-! ## Parts of an integer -/

/-- Whether a text starts with a minus sign, and what follows a sign of either kind. -/
def takeSign : List Char → Bool × List Char
  | '-' :: cs => (true, cs)
  | '+' :: cs => (false, cs)
  | cs => (false, cs)

/-- The number that a run of digits stands for. -/
def digitsValue (ds : List Char) : Nat := Nat.ofDigitChars 10 ds 0

/-- Reads digits on from `value`. The result may not exceed `limit`; `overflow` is the fault if it
    does. At one character the fault of no digit goes before the overflow. -/
def scanDigits (limit : Nat) (overflow : IntegerFault) (value : Nat) :
    List Char → Except IntegerFault Nat
  | [] => .ok value
  | c :: cs =>
    if c.isDigit then
      let next := 10 * value + (c.toNat - '0'.toNat)
      if limit < next then .error overflow else scanDigits limit overflow next cs
    else .error .invalidDigit

/-! ## Reading -/

/-- The greatest magnitude of a 64-bit integer of either sign. -/
def magnitudeLimit (negative : Bool) : Nat := if negative then 2 ^ (63 : Nat) else 2 ^ (63 : Nat) - 1

/-- The 64-bit integer of a sign and a magnitude within that sign's limit. -/
def ofSignMagnitude (negative : Bool) (magnitude : Nat) : Int64 :=
  Int64.ofInt (if negative then -magnitude else magnitude)

/-- Reads an integer from a text with blanks around it. -/
def readInteger (text : List Char) : Except IntegerFault Int64 :=
  match Text.trim text with
  | [] => .error .empty
  | body =>
    let (negative, digits) := takeSign body
    if digits.isEmpty then .error .invalidDigit
    else
      let overflow := if negative then IntegerFault.tooSmall else .tooLarge
      (scanDigits (magnitudeLimit negative) overflow 0 digits).map (ofSignMagnitude negative)

/-- A blank text is reported as empty. -/
theorem readInteger_of_allBlank {text : List Char} (h : Text.AllBlank text) :
    readInteger text = .error .empty := by
  rw [readInteger, Text.trim_eq_nil_iff.mpr h]

/-- The decimal text of an integer. -/
def integerText (n : Int) : List Char :=
  if n < 0 then '-' :: Nat.toDigits 10 n.natAbs else Nat.toDigits 10 n.natAbs

end FixedColumns
