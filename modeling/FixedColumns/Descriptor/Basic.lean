/-!
# `FixedColumns.Descriptor.Basic` — edit descriptors

An edit descriptor says what stands in the next columns of a line: a number of fields of one type
and width, or a number of columns to skip.
-/

namespace FixedColumns

/-- The notation that a real field was declared with. It makes no difference to reading. -/
inductive RealForm where
  /-- `F`, decimal -/
  | fixed
  /-- `E`, with an exponent -/
  | exponential
deriving DecidableEq, Repr

/-- How the text of a field is converted. -/
inductive FieldType where
  /-- `I`, a decimal integer -/
  | integer
  /-- `F` or `E`, a real number -/
  | real (form : RealForm)
  /-- `A`, the text itself -/
  | text
deriving DecidableEq, Repr

/-- What a descriptor stands for: columns to skip, or fields of a type. -/
inductive Kind where
  /-- `X`, columns without a value -/
  | skip
  | field (type : FieldType)
deriving DecidableEq, Repr

/-- The letter of a field type. -/
def FieldType.letter : FieldType → Char
  | .integer => 'I'
  | .real .fixed => 'F'
  | .real .exponential => 'E'
  | .text => 'A'

namespace Kind

/-- The letter of a kind. -/
def letter : Kind → Char
  | .skip => 'X'
  | .field type => type.letter

/-- The kind of a letter, of either case. -/
def ofLetter? (c : Char) : Option Kind :=
  match c.toUpper with
  | 'I' => some (.field .integer)
  | 'F' => some (.field (.real .fixed))
  | 'E' => some (.field (.real .exponential))
  | 'A' => some (.field .text)
  | 'X' => some .skip
  | _ => none

@[simp] theorem ofLetter?_letter (k : Kind) : ofLetter? k.letter = some k := by
  match k with
  | .skip => rfl
  | .field .integer => rfl
  | .field (.real .fixed) => rfl
  | .field (.real .exponential) => rfl
  | .field .text => rfl

/-- No digit is the letter of a kind. -/
theorem isDigit_eq_false_of_ofLetter? {c : Char} {k : Kind} (h : ofLetter? c = some k) :
    c.isDigit = false := by
  cases hd : c.isDigit with
  | false => rfl
  | true =>
    have upper : c.toNat ≤ 57 := (Char.isDigit_iff_toNat.mp hd).2
    have same : c.toUpper = c := by
      have above : ¬ 97 ≤ c.val := by
        rw [UInt32.le_iff_toNat_le]
        have : c.val.toNat = c.toNat := rfl
        simp; omega
      exact dif_neg fun small => above small.1
    rw [ofLetter?, same] at h
    split at h
    · exact absurd hd (by decide)
    · exact absurd hd (by decide)
    · exact absurd hd (by decide)
    · exact absurd hd (by decide)
    · exact absurd hd (by decide)
    · cases h

/-- The kind skips columns. -/
def isSkip : Kind → Bool
  | .skip => true
  | .field _ => false

end Kind

/-- A descriptor: `count` fields in a row, or columns to skip, of `width` columns each. The number
    of decimals is kept as it was declared and makes no difference to reading. -/
structure Descriptor where
  count : Nat
  kind : Kind
  width : Nat
  decimals : Option Nat
deriving DecidableEq, Repr

/-- The number of columns that a descriptor covers. -/
def Descriptor.span (d : Descriptor) : Nat := d.count * d.width

end FixedColumns
