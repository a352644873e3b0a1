/-!
# `FixedColumns.Decode.Shape` — what values are decoded into

A shape describes a typed result: a number of some width, a text, an optional result, or several
results together. `Shape.expectation` is the text by which reports name a shape.
-/

namespace FixedColumns

-- Powers are those of core, whatever other instances are in scope.
attribute [local instance (high)] instPowNat

/-- An integer type, by its signedness and width. -/
structure IntType where
  signed : Bool
  bits : Nat
deriving DecidableEq, Repr

namespace IntType

/-- The name of the type. -/
def name (t : IntType) : String := (if t.signed then "i" else "u") ++ t.bits.repr

/-- The least number of the type. -/
def least (t : IntType) : Int := if t.signed then -(2 ^ (t.bits - 1)) else 0

/-- The greatest number of the type. -/
def greatest (t : IntType) : Int := if t.signed then 2 ^ (t.bits - 1) - 1 else 2 ^ t.bits - 1

/-- The number is one of the type. -/
def Holds (t : IntType) (n : Int) : Prop := t.least ≤ n ∧ n ≤ t.greatest

instance (t : IntType) (n : Int) : Decidable (t.Holds n) := inferInstanceAs (Decidable (_ ∧ _))

end IntType

/-- What values are decoded into. The first group takes single values; the second takes nothing that
    a line holds; the third takes the values of a whole line. -/
inductive Shape where
  | integer (type : IntType)
  | single
  | double
  | character
  | text
  /-- a value as it is -/
  | value
  /-- anything, which is not looked at -/
  | ignored
  | optional (inner : Shape)
  | boolean
  | unit
  | marker (name : String)
  | choice (name : String)
  /-- one result under a name of its own -/
  | wrapper (name : String) (inner : Shape)
  | list (item : Shape)
  | tuple (items : List Shape)
  | record (name : String) (fields : List (String × Shape))

/-- A count of elements in words. -/
def elementCount (n : Nat) : String := if n = 1 then "1 element" else s!"{n} elements"

namespace Shape

/-- The text that names a shape. -/
def expectation : Shape → String
  | .integer type => type.name
  | .single => "f32"
  | .double => "f64"
  | .character => "a character"
  | .text => "a string"
  | .value => "an integer, float, or string"
  | .ignored => "anything at all"
  | .optional _ => "option"
  | .boolean => "a boolean"
  | .unit => "unit"
  | .marker name => s!"unit struct {name}"
  | .choice name => s!"enum {name}"
  | .wrapper name _ => s!"tuple struct {name}"
  | .list _ => "a sequence"
  | .tuple items => s!"a tuple of size {items.length}"
  | .record name _ => s!"struct {name}"

/-- The shapes of the single values that a shape takes from a line, in order. -/
def items : Shape → List Shape
  | .wrapper _ inner => [inner]
  | .tuple items => items
  | .record _ fields => fields.map Prod.snd
  | _ => []

/-- The text that names a shape where there are too few values for it. -/
def lengthExpectation (shape : Shape) : String :=
  match shape with
  | .wrapper .. | .record .. => s!"{shape.expectation} with {elementCount shape.items.length}"
  | _ => shape.expectation

end Shape

end FixedColumns
