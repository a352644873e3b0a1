import FixedColumns.Descriptor.Basic

/-!
# `FixedColumns.Layout` — where the fields of a line are

A layout gives every field of a line its columns, counted from 0. Descriptors are laid out one after
the other from column 0 on; a skip takes up columns and has no field.
-/

namespace FixedColumns

/-- A field at fixed columns of a line. -/
structure Column where
  start : Nat
  width : Nat
  type : FieldType
deriving DecidableEq, Repr

/-- The first column after the field. -/
def Column.stop (c : Column) : Nat := c.start + c.width

/-- The text that shows a field's place and type. -/
def Column.label (c : Column) : String :=
  s!"ColumnEntry({c.start},{c.stop},{c.type.letter})"

/-- The fields of a line, in the order of their columns, and the columns it takes up altogether. -/
structure Layout where
  columns : List Column
  width : Nat
deriving DecidableEq, Repr

namespace Layout

-- The sum of no numbers is core's zero, whatever other instances are in scope.
attribute [local instance (high)] Zero.ofOfNat0

/-- The fields of one descriptor that begins at a column. -/
def columnsOf (start : Nat) (d : Descriptor) : List Column :=
  match d.kind with
  | .skip => []
  | .field type => (List.range d.count).map fun i => ⟨start + i * d.width, d.width, type⟩

/-- The fields of descriptors that begin at a column. -/
def columnsFrom (start : Nat) : List Descriptor → List Column
  | [] => []
  | d :: ds => columnsOf start d ++ columnsFrom (start + d.span) ds

/-- The columns that descriptors take up altogether. -/
def spanOf (ds : List Descriptor) : Nat := (ds.map Descriptor.span).sum

/-- The layout of a list of descriptors. -/
def ofDescriptors (ds : List Descriptor) : Layout := ⟨columnsFrom 0 ds, spanOf ds⟩

@[simp] theorem spanOf_append (ds es : List Descriptor) :
    spanOf (ds ++ es) = spanOf ds + spanOf es := by
  simp [spanOf]

/-- Laying out two lists one after the other: the second begins where the first ends. -/
theorem columnsFrom_append (start : Nat) (ds es : List Descriptor) :
    columnsFrom start (ds ++ es) =
      columnsFrom start ds ++ columnsFrom (start + spanOf ds) es := by
  induction ds generalizing start with
  | nil => simp [columnsFrom, spanOf]
  | cons d ds ih =>
    simp [columnsFrom, ih, spanOf, List.append_assoc, Nat.add_assoc]

/-- A change of descriptors that keeps the columns each covers keeps the columns of them all. -/
theorem spanOf_map {f : Descriptor → Descriptor} (span : ∀ d, (f d).span = d.span)
    (ds : List Descriptor) : spanOf (ds.map f) = spanOf ds := by
  simp [spanOf, Function.comp_def, span]

/-- If it changes the fields of each as well, it changes those of them all, each at its place. -/
theorem columnsFrom_map {f : Descriptor → Descriptor} {g : Column → Column}
    (columns : ∀ start d, columnsOf start (f d) = (columnsOf start d).map g)
    (span : ∀ d, (f d).span = d.span) (start : Nat) (ds : List Descriptor) :
    columnsFrom start (ds.map f) = (columnsFrom start ds).map g := by
  induction ds generalizing start with
  | nil => rfl
  | cons d ds ih => simp [columnsFrom, ih, columns, span]

end Layout

end FixedColumns
