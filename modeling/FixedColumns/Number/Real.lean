import FixedColumns.Number.Decimal
import FixedColumns.Number.Integer

/-!
# `FixedColumns.Number.Real` — reading and writing real numbers

A real number is written as an optional sign and then `inf`, `infinity` or `nan` in letters of any
case, or decimal digits with an optional point and an optional exponent, with at least one digit
beside the point and at least one in an exponent. Blanks may stand around it and nowhere inside.
It is read to the nearest 64-bit word. A word is written with the fewest digits that read back to
it, never with an exponent.

## Contents
- `RealFault` and its `message`.
- `Literal`: what a text spells, and `Literal.parse?`, which spells out the grammar.
- `readReal`: a text with blanks around the number, to a word.
- `realText`: a word as a text.
-/

namespace FixedColumns

/-- Why a text is no real number. -/
inductive RealFault where
  /-- nothing is left after trimming -/
  | empty
  /-- the text is outside the grammar -/
  | invalid
deriving DecidableEq, Repr

/-- The text that reports a fault. -/
def RealFault.message : RealFault → String
  | .empty => "cannot parse float from empty string"
  | .invalid => "invalid float literal"

/-! ## Literals -/

/-- What the text of a real number spells, sign apart. -/
inductive Literal where
  | decimal (value : Decimal)
  | infinity
  | nan
deriving DecidableEq, Repr

namespace Literal

/-- The text is the word, in letters of any case. The word is in lower case. -/
def spells (word : String) (cs : List Char) : Bool := cs.map Char.toLower == word.toList

/-- The exponent at the end of a number: nothing, or the letter, an optional sign and digits. -/
def exponent? : List Char → Option Int
  | [] => some 0
  | c :: cs =>
    if c.toLower = 'e' then
      let (negative, digits) := takeSign cs
      if digits.isEmpty || !digits.all Char.isDigit then none
      else some (if negative then -digitsValue digits else digitsValue digits)
    else none

/-- The digits after a point, and what follows them; without a point there are none. -/
def takeFraction : List Char → List Char × List Char
  | '.' :: cs => (cs.takeWhile Char.isDigit, cs.dropWhile Char.isDigit)
  | cs => ([], cs)

/-- A decimal number without a sign. Digits after the point count as part of the coefficient, and
    each takes one from the exponent. -/
def decimal? (cs : List Char) : Option Decimal :=
  let whole := cs.takeWhile Char.isDigit
  let (fraction, rest) := takeFraction (cs.dropWhile Char.isDigit)
  if whole.isEmpty && fraction.isEmpty then none
  else (exponent? rest).map fun exponent =>
    ⟨digitsValue (whole ++ fraction), exponent - fraction.length⟩

/-- What a text without a sign spells. -/
def parse? (cs : List Char) : Option Literal :=
  if spells "inf" cs || spells "infinity" cs then some .infinity
  else if spells "nan" cs then some .nan
  else (decimal? cs).map .decimal

/-- The word of a format that is nearest to what a signed literal spells. -/
def toBinary {f : BinaryFormat} (negative : Bool) : Literal → Binary f
  | .decimal value => .ofParts negative (value.round f)
  | .infinity => .infinity negative
  | .nan => .nan

end Literal

/-! ## Reading -/

/-- Reads a real number from a text with blanks around it. -/
def readReal (text : List Char) : Except RealFault Double :=
  match Text.trim text with
  | [] => .error .empty
  | body =>
    let (negative, unsigned) := takeSign body
    match Literal.parse? unsigned with
    | some literal => .ok (literal.toBinary negative)
    | none => .error .invalid

/-- A blank text is reported as empty. -/
theorem readReal_of_allBlank {text : List Char} (h : Text.AllBlank text) :
    readReal text = .error .empty := by
  rw [readReal, Text.trim_eq_nil_iff.mpr h]

/-! ## Writing -/

/-- A decimal number without an exponent: zeros fill the places between the digits and the point. -/
def positional (d : Decimal) : List Char :=
  let digits := Nat.toDigits 10 d.coefficient
  let places := (-d.exponent).toNat
  if places = 0 then digits ++ List.replicate d.exponent.toNat '0'
  else if places < digits.length then
    digits.take (digits.length - places) ++ '.' :: digits.drop (digits.length - places)
  else '0' :: '.' :: List.replicate (places - digits.length) '0' ++ digits

/-- A word as a text. -/
def realText {f : BinaryFormat} (x : Binary f) : List Char :=
  if x.isNaN then "NaN".toList
  else
    let size := if x.isInfinite then "inf".toList
      else if x.isZero then ['0']
      else positional (Decimal.shortest x)
    if x.negative then '-' :: size else size

end FixedColumns
