import FixedColumns.Layout
import FixedColumns.Number.Real
import FixedColumns.Text.Slice

/-!
# `FixedColumns.Value` — the values of fields

A field holds an integer of 64 bits, a real number of 64 bits or a text. `FieldType.convert` turns
the text of a field's columns into its value; `Column.read` takes those columns out of a line first
and reports a text that does not convert together with its place.
-/

namespace FixedColumns

/-- The value of a field. -/
inductive Value where
  | integer (n : Int64)
  | real (x : Double)
  | text (s : String)
deriving DecidableEq, Repr

namespace Value

/-- The text that shows a value. -/
def display : Value → String
  | .integer n => String.ofList (integerText n.toInt)
  | .real x => String.ofList (realText x)
  | .text s => s

/-- Equality of values; real numbers are compared by value, so that what is not a number differs
    from itself. -/
def equal : Value → Value → Bool
  | .integer m, .integer n => m == n
  | .real x, .real y => x.equal y
  | .text s, .text t => s == t
  | _, _ => false

/-- The number, of an integer. -/
def integer? : Value → Option Int64
  | .integer n => some n
  | _ => none

/-- The number, of a real number. -/
def real? : Value → Option Double
  | .real x => some x
  | _ => none

/-- The characters, of a text. -/
def text? : Value → Option String
  | .text s => some s
  | _ => none

/-- The value with a text trimmed; numbers stay as they are. -/
def trimText : Value → Value
  | .text s => .text (Text.trimmed s)
  | v => v

/-- The value is what fields of the type hold. -/
def HasType : Value → FieldType → Prop
  | .integer _, .integer => True
  | .real _, .real _ => True
  | .text _, .text => True
  | _, _ => False

end Value

/-! ## Conversion -/

/-- Why the text of a field does not convert. -/
inductive Fault where
  | integer (fault : IntegerFault)
  | real (fault : RealFault)
deriving DecidableEq, Repr

/-- The text that reports a fault. -/
def Fault.message : Fault → String
  | .integer fault => fault.message
  | .real fault => fault.message

/-- The value of a field's text. Numbers may have blanks around them; a text keeps its blanks unless
    it is to be trimmed. -/
def FieldType.convert (type : FieldType) (trimText : Bool) (text : String) : Except Fault Value :=
  match type with
  | .integer => ((readInteger text.toList).mapError Fault.integer).map Value.integer
  | .real _ => ((readReal text.toList).mapError Fault.real).map Value.real
  | .text => .ok (.text (if trimText then Text.trimmed text else text))

/-- A field whose text does not convert: its columns and type, its text as it stands in the line,
    and the reason. -/
structure FieldError where
  start : Nat
  stop : Nat
  type : FieldType
  text : String
  fault : Fault
deriving DecidableEq, Repr

/-- The text that reports an error. -/
def FieldError.message (e : FieldError) : String :=
  s!"Could not convert columns {e.start}..{e.stop} ('{e.text}') as type {e.type.letter}: " ++
    e.fault.message

namespace Column

/-- The text of a field's columns. -/
def slice (c : Column) (line : String) : String := Text.slice line c.start c.stop

/-- Reads a field from a line. -/
def read (c : Column) (trimText : Bool) (line : String) : Except FieldError Value :=
  (c.type.convert trimText (c.slice line)).mapError
    (⟨c.start, c.stop, c.type, c.slice line, ·⟩)

end Column

end FixedColumns
