import FixedColumns.Descriptor.Spelling
import FixedColumns.Number.Integer

/-!
# `FixedColumns.Descriptor.Format` — format texts

A format is a list of descriptors with commas between them. Reading one stops at the first piece
that is no descriptor, or whose numbers are out of bounds, and reports that piece as it stands.

## Contents
- `DescriptorFault`, `DescriptorError` and their messages.
- `Spelling.descriptor`: the descriptor of a spelling, within the bounds on its numbers.
- `Descriptor.parse` and `Descriptor.render`: one descriptor from and to its text.
- `Format.parse` and `Format.render`: a list of descriptors from and to its text.
-/

namespace FixedColumns

-- Powers are those of core, whatever other instances are in scope.
attribute [local instance (high)] instPowNat

/-! ## Errors -/

/-- The numbers of a descriptor. -/
inductive Part where
  | count
  | width
  | decimals
deriving DecidableEq, Repr

/-- The name of a number in reports. -/
def Part.name : Part → String
  | .count => "repeat count"
  | .width => "width"
  | .decimals => "decimal count"

/-- The greatest number that a descriptor may hold. -/
def maxNumber : Nat := 2 ^ (32 : Nat) - 1

/-- The greatest count of a descriptor. -/
def maxCount : Nat := 100000

/-- Why a text is no descriptor. -/
inductive DescriptorFault where
  /-- the text is not written as a descriptor is; it could be one up to the character `stop` -/
  | unrecognized (stop : Nat)
  /-- a number exceeds `maxNumber` -/
  | tooLarge (part : Part) (digits : String)
  /-- the count exceeds `maxCount` -/
  | overLimit (count : Nat)
deriving DecidableEq, Repr

/-- The text that reports a fault. -/
def DescriptorFault.message : DescriptorFault → String
  | .unrecognized stop =>
    s!"expected [repeat]<I|F|E|A|X>[width[.decimals]], stopped at character {stop}"
  | .tooLarge part digits =>
    s!"invalid {part.name} '{digits}': {IntegerFault.tooLarge.message}"
  | .overLimit count => s!"repeat count {count} is over the limit of {maxCount}"

/-- A piece of a format that is no descriptor, and why. -/
structure DescriptorError where
  descriptor : String
  fault : DescriptorFault
deriving DecidableEq, Repr

/-- The text that reports an error. -/
def DescriptorError.message (e : DescriptorError) : String :=
  s!"Unrecognized format descriptor '{e.descriptor}': {e.fault.message}"

/-! ## One descriptor -/

/-- The number of a run of digits, within bounds. -/
def Part.read (part : Part) (digits : List Char) : Except DescriptorFault Nat :=
  if digitsValue digits ≤ maxNumber then .ok (digitsValue digits)
  else .error (.tooLarge part (String.ofList digits))

namespace Spelling

/-- The count that is written; one if there is none. -/
def readCount (s : Spelling) : Except DescriptorFault Nat :=
  if s.count.isEmpty then .ok 1 else Part.count.read s.count

/-- The decimals that are written. -/
def readDecimals (s : Spelling) : Except DescriptorFault (Option Nat) :=
  match s.decimals with
  | none => .ok none
  | some digits => (Part.decimals.read digits).map some

/-- The descriptor of a spelling. A width is zero if there is none; a skip moves one column at a
    time whatever width is written. -/
def descriptor (s : Spelling) : Except DescriptorFault Descriptor := do
  let count ← s.readCount
  let width ← Part.width.read s.width
  let decimals ← s.readDecimals
  if maxCount < count then .error (.overLimit count)
  else .ok ⟨count, s.kind, if s.kind.isSkip then 1 else width, decimals⟩

end Spelling

namespace Descriptor

/-- Reads one descriptor. -/
def parse (text : List Char) : Except DescriptorError Descriptor :=
  match Spelling.scan text with
  | .error stop => .error ⟨String.ofList text, .unrecognized stop⟩
  | .ok spelling => spelling.descriptor.mapError (⟨String.ofList text, ·⟩)

/-- The spelling with every number written out. A skip has its count alone. -/
def spelling (d : Descriptor) : Spelling :=
  if d.kind.isSkip then ⟨Nat.toDigits 10 d.count, d.kind.letter, d.kind, [], none⟩
  else ⟨Nat.toDigits 10 d.count, d.kind.letter, d.kind, Nat.toDigits 10 d.width,
    d.decimals.map (Nat.toDigits 10)⟩

/-- The text of a descriptor. -/
def render (d : Descriptor) : List Char := d.spelling.render

end Descriptor

/-! ## Formats -/

namespace Format

/-- The texts between the commas of a format. -/
def pieces (format : List Char) : List (List Char) := format.splitOn ','

/-- Reads the descriptors of a format. -/
def parse (format : List Char) : Except DescriptorError (List Descriptor) :=
  (pieces format).mapM Descriptor.parse

/-- The text of a list of descriptors. -/
def render (ds : List Descriptor) : List Char := [','].intercalate (ds.map Descriptor.render)

end Format

end FixedColumns
