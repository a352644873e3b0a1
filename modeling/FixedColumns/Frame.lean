import FixedColumns.Reading

/-!
# `FixedColumns.Frame` — tables by columns

A frame holds a table column by column, each column with a name and one type. Its columns are those
of a schema, to which the names of the fields are added in turn: a name that is new goes to the end,
and a name that is there already takes the type given last and keeps its place. The values of a row
go to the columns by their place in the row; values beyond the last column are left out.
-/

namespace FixedColumns

/-! ## Column types -/

/-- The type of a column of a frame. -/
inductive SeriesType where
  | integer
  | real
  | text
deriving DecidableEq, Repr

/-- The column type that a field's values have. -/
def FieldType.seriesType : FieldType → SeriesType
  | .integer => .integer
  | .real _ => .real
  | .text => .text

/-- An integer of 64 bits, if the number is in range. -/
def int64? (n : Int) : Option Int64 :=
  if Int64.minValue.toInt ≤ n ∧ n ≤ Int64.maxValue.toInt then some (.ofInt n) else none

/-- The value in a column of the type. A real number loses its fraction to become an integer, an
    integer becomes the nearest real number, a number becomes its text, and a text becomes no
    number. -/
def SeriesType.convert : SeriesType → Value → Option Value
  | .integer, .integer n => some (.integer n)
  | .integer, .real x => (x.truncate?.bind int64?).map Value.integer
  | .integer, .text _ => none
  | .real, .integer n => some (.real (.ofInt n.toInt))
  | .real, .real x => some (.real x)
  | .real, .text _ => none
  | .text, v => some (.text v.display)

/-- A value of a field is kept as it is in a column of the field's own type. -/
theorem SeriesType.convert_of_hasType {v : Value} {type : FieldType} (h : v.HasType type) :
    type.seriesType.convert v = some v := by
  cases v <;> cases type <;> first | exact h.elim | rfl

/-! ## Schemas -/

/-- The names and types of the columns of a frame. -/
abbrev Schema := List (String × SeriesType)

namespace Schema

/-- The schema with one more name: a new name goes to the end, a name that is there takes the new
    type. -/
def put (name : String) (type : SeriesType) : Schema → Schema
  | [] => [(name, type)]
  | entry :: rest =>
    if entry.1 = name then (name, type) :: rest else entry :: put name type rest

/-- The schema of a list of names and types, which are added in turn. -/
def ofList (entries : List (String × SeriesType)) : Schema :=
  entries.foldl (fun schema entry => schema.put entry.1 entry.2) []

end Schema

/-! ## Frames -/

/-- A column of a frame. -/
structure Series where
  name : String
  type : SeriesType
  values : List Value
deriving DecidableEq, Repr

/-- A table by columns. -/
structure Frame where
  columns : List Series
deriving DecidableEq, Repr

namespace Frame

/-- The number of rows; none without a column. -/
def height (frame : Frame) : Nat :=
  match frame.columns with
  | [] => 0
  | column :: _ => column.values.length

/-- The number of columns. -/
def width (frame : Frame) : Nat := frame.columns.length

/-- The column of the values at one place of the rows. -/
def series? (rows : List (List Value)) (place : Nat) (entry : String × SeriesType) :
    Option Series :=
  (rows.mapM fun row => row[place]?.bind entry.2.convert).map fun values =>
    ⟨entry.1, entry.2, values⟩

/-- The columns of a schema from a place on. -/
def columns? (rows : List (List Value)) (place : Nat) : Schema → Option (List Series)
  | [] => some []
  | entry :: schema => do
    let column ← series? rows place entry
    let columns ← columns? rows (place + 1) schema
    return column :: columns

/-- The frame of a schema and rows, if every value can be put into its column. -/
def ofRows? (schema : Schema) (rows : List (List Value)) : Option Frame :=
  (columns? rows 0 schema).map Frame.mk

end Frame

namespace Reader

/-- The schema of a reader's fields under the names given to them. -/
def schema (r : Reader) (names : List String) : Schema :=
  .ofList (List.zipWith (fun c name => (name, c.type.seriesType)) r.columns names)

/-- Reads a source as a frame. There must be a name for every field, or nothing is read. -/
def readFrame (r : Reader) (names : List String) (source : List UInt8) : Reading Frame :=
  if r.size = names.length then
    let table := r.readSource source
    let result := table.result.bind fun rows =>
      match Frame.ofRows? (r.schema names) rows with
      | some frame => .ok frame
      | none => .error (.unbuildable rows.length (r.schema names).length)
    ⟨result, table.log, table.rest⟩
  else ⟨.error (.columnMismatch r.size names.length), [], source⟩

end Reader

end FixedColumns
