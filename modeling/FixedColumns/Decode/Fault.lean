import FixedColumns.Decode.Shape
import FixedColumns.Text.Quoted
import FixedColumns.Value

/-!
# `FixedColumns.Decode.Fault` — why values do not decode

A fault says what was found and what was expected. A line can fail earlier, when one of its fields
does not convert.
-/

namespace FixedColumns

/-- What a shape is given. -/
inductive Found where
  | integer (n : Int)
  | real (x : Double)
  | text (s : String)
  | boolean (b : Bool)
  | unit
  | sequence
deriving DecidableEq, Repr

/-- The text of a real number in a report: a whole number has a point and a zero. -/
def pointedText (x : Double) : List Char :=
  let text := realText x
  if x.isNaN || x.isInfinite || text.contains '.' then text else text ++ ['.', '0']

/-- The text that names what was found. -/
def Found.message : Found → String
  | .integer n => "integer `" ++ String.ofList (integerText n) ++ "`"
  | .real x => "floating point `" ++ String.ofList (pointedText x) ++ "`"
  | .text s => "string " ++ Text.quoted s
  | .boolean b => s!"boolean `{b}`"
  | .unit => "unit value"
  | .sequence => "sequence"

/-- What a single value is found to be. -/
def Found.ofValue : Value → Found
  | .integer n => .integer n.toInt
  | .real x => .real x
  | .text s => .text s

/-- Why values do not decode into a shape. -/
inductive DecodeFault where
  /-- the shape takes nothing of this type -/
  | wrongType (found : Found) (shape : Shape)
  /-- the shape takes values of this type, and not this one -/
  | wrongValue (found : Found) (shape : Shape)
  /-- the values end before the shape is filled -/
  | tooFew (count : Nat) (shape : Shape)
  /-- values are left over when the shape is filled -/
  | tooMany (count : Nat) (taken : Nat)
  /-- the number exceeds the greatest integer that a value holds -/
  | overflow (n : Nat)

/-- The text that reports a fault. -/
def DecodeFault.message : DecodeFault → String
  | .wrongType found shape => s!"invalid type: {found.message}, expected {shape.expectation}"
  | .wrongValue found shape => s!"invalid value: {found.message}, expected {shape.expectation}"
  | .tooFew count shape => s!"invalid length {count}, expected {shape.lengthExpectation}"
  | .tooMany count taken => s!"invalid length {count}, expected {elementCount taken} in sequence"
  | .overflow n => s!"{n} does not fit in an i64"

/-- Why a line does not decode. -/
inductive DecodeError where
  /-- a field does not convert -/
  | conversion (cause : FieldError)
  /-- the values do not fit the shape -/
  | mismatch (fault : DecodeFault)

/-- The text that reports an error. -/
def DecodeError.message : DecodeError → String
  | .conversion cause => "Error reading value: " ++ cause.message
  | .mismatch fault => "Serde deserialization error: " ++ fault.message

end FixedColumns
