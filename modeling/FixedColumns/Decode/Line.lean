import FixedColumns.Decode.Fault
import FixedColumns.Reader.Basic

/-!
# `FixedColumns.Decode.Line` — decoding values and lines

`Shape.ofValue` decodes a single value. `Shape.ofValues` decodes the values of a line in order: the
fault of an element goes before one of their number, and a line with too few values before one with
too many. `Reader.decode` reads a line first.

## Contents
- `Decoded`: results.
- `Shape.ofValue`, `Shape.ofValues`, `Reader.decode`.
- `Primitive` and `Value.ofPrimitive`: a value from what other types hold.
-/

namespace FixedColumns

/-- A decoded result. -/
inductive Decoded where
  | integer (n : Int)
  | single (x : Single)
  | double (x : Double)
  | character (c : Char)
  | text (s : String)
  | value (v : Value)
  | ignored
  | present (inner : Decoded)
  | wrapped (inner : Decoded)
  | list (items : List Decoded)
  | record (fields : List (String × Decoded))

namespace Shape

/-! ## One value -/

/-- The character of a text that holds just one. -/
def onlyCharacter? (s : String) : Option Char :=
  match s.toList with
  | [c] => some c
  | _ => none

/-- Decodes a single value. A number becomes a real number of either width in one rounding; a value
    is always there, so that an optional result is always present. -/
def ofValue : Shape → Value → Except DecodeFault Decoded
  | .integer type, .integer n =>
    if type.Holds n.toInt then .ok (.integer n.toInt)
    else .error (.wrongValue (.integer n.toInt) (.integer type))
  | .single, .integer n => .ok (.single (.ofInt n.toInt))
  | .single, .real x => .ok (.single x.convert)
  | .double, .integer n => .ok (.double (.ofInt n.toInt))
  | .double, .real x => .ok (.double x)
  | .character, .text s =>
    match onlyCharacter? s with
    | some c => .ok (.character c)
    | none => .error (.wrongValue (.text s) .character)
  | .text, .text s => .ok (.text s)
  | .value, v => .ok (.value v)
  | .ignored, _ => .ok .ignored
  | .optional inner, v => (ofValue inner v).map .present
  | shape, v => .error (.wrongType (.ofValue v) shape)

/-! ## The values of a line -/

/-- Decodes values into as many shapes, in order, and gives the results with the values left over;
    nothing if the values end first. -/
def takeValues : List Shape → List Value → Except DecodeFault (Option (List Decoded × List Value))
  | [], values => .ok (some ([], values))
  | _ :: _, [] => .ok none
  | shape :: shapes, v :: values => do
    let first ← shape.ofValue v
    let others ← takeValues shapes values
    return others.map fun (results, rest) => (first :: results, rest)

/-- Decodes all values into a shape that has an item for each. -/
def fill (shape : Shape) (values : List Value) : Except DecodeFault (List Decoded) := do
  match ← takeValues shape.items values with
  | none => .error (.tooFew values.length shape)
  | some (results, []) => .ok results
  | some (_, _ :: _) => .error (.tooMany values.length shape.items.length)

/-- Decodes a single value into a wrapper. -/
def fillWrapper (name : String) (inner : Shape) : List Value → Except DecodeFault Decoded
  | [] => .error (.tooFew 0 (.wrapper name inner))
  | v :: rest => do
    let result ← inner.ofValue v
    if rest.isEmpty then .ok (.wrapped result) else .error (.tooMany (rest.length + 1) 1)

/-- Decodes the values of a line. -/
def ofValues (shape : Shape) (values : List Value) : Except DecodeFault Decoded :=
  match shape with
  | .list item => (values.mapM item.ofValue).map .list
  | .ignored => .ok .ignored
  | .tuple _ => (shape.fill values).map .list
  | .record _ fields => (shape.fill values).map fun results =>
    .record ((fields.map Prod.fst).zip results)
  | .wrapper name inner => fillWrapper name inner values
  | _ => .error (.wrongType .sequence shape)

end Shape

/-- Reads a line and decodes its values. -/
def Reader.decode (r : Reader) (shape : Shape) (line : String) : Except DecodeError Decoded :=
  match r.read line with
  | .error cause => .error (.conversion cause)
  | .ok values => (shape.ofValues values).mapError .mismatch

/-! ## Values from other types -/

/-- What a value can be made of. -/
inductive Primitive where
  | signed (n : Int64)
  | unsigned (n : UInt64)
  | single (x : Single)
  | double (x : Double)
  | text (s : String)
  | character (c : Char)
  | boolean (b : Bool)
  | unit
deriving DecidableEq, Repr

/-- The value that a primitive holds. -/
def Value.ofPrimitive : Primitive → Except DecodeFault Value
  | .signed n => .ok (.integer n)
  | .unsigned n =>
    if n.toNat ≤ Int64.maxValue.toInt.toNat then .ok (.integer (.ofNat n.toNat))
    else .error (.overflow n.toNat)
  | .single x => .ok (.real x.convert)
  | .double x => .ok (.real x)
  | .text s => .ok (.text s)
  | .character c => .ok (.text c.toString)
  | .boolean b => .error (.wrongType (.boolean b) .value)
  | .unit => .error (.wrongType .unit .value)

end FixedColumns
