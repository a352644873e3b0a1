import FixedColumns.Layout

/-!
# `FixedColumns.Proofs.Layout.Cursor` — laying out with a cursor

A cursor goes over the columns of a line once. A skip moves it by the columns that it covers; a
field is laid out at the cursor, which then moves to the column after it, as many times as the
descriptor counts. `Layout.Cursor.run_eq` says that this lays out the same fields at the same
columns as `Layout.ofDescriptors`, which states them at once.
-/

namespace FixedColumns

namespace Layout

/-- How far laying out has come: the fields so far, and the column that comes next. -/
structure Cursor where
  fields : List Column
  column : Nat
deriving DecidableEq, Repr

namespace Cursor

/-- Before the first column. -/
def start : Cursor := ⟨[], 0⟩

/-- Lays out one field at the cursor and moves past it. -/
def place (type : FieldType) (width : Nat) (c : Cursor) : Cursor :=
  ⟨c.fields ++ [⟨c.column, width, type⟩], c.column + width⟩

/-- Lays out fields of one type and width one after the other. -/
def placeMany (type : FieldType) (width : Nat) : Nat → Cursor → Cursor
  | 0, c => c
  | n + 1, c => placeMany type width n (c.place type width)

/-- Goes over the columns of one descriptor. -/
def pass (c : Cursor) (d : Descriptor) : Cursor :=
  match d.kind with
  | .skip => ⟨c.fields, c.column + d.span⟩
  | .field type => placeMany type d.width d.count c

/-- Goes over the columns of descriptors. -/
def run (c : Cursor) (ds : List Descriptor) : Cursor := ds.foldl pass c

/-! ## One descriptor -/

/-- The `i`-th of the fields laid out in a row stands `i` widths to the right of the cursor. -/
theorem placeMany_eq (type : FieldType) (width n : Nat) (c : Cursor) :
    placeMany type width n c =
      ⟨c.fields ++ (List.range n).map fun i => ⟨c.column + i * width, width, type⟩,
        c.column + n * width⟩ := by
  -- Each field moves the cursor, so the induction is over every cursor to begin with.
  induction n generalizing c with
  | zero => simp [placeMany]
  | succ n ih =>
      have next : ∀ i, c.column + width + i * width = c.column + (i + 1) * width := by
        intro i
        rw [Nat.succ_mul, Nat.add_assoc, Nat.add_comm width]
      rw [placeMany, ih, List.range_succ_eq_map]
      unfold place
      simp [next, Function.comp_def]

/-- What passing over a descriptor adds: its fields, and the columns that it covers. -/
theorem pass_eq (c : Cursor) (d : Descriptor) :
    c.pass d = ⟨c.fields ++ columnsOf c.column d, c.column + d.span⟩ := by
  unfold pass columnsOf
  cases d.kind with
  | skip => simp
  | field type => exact placeMany_eq type d.width d.count c

/-! ## A whole list -/

/-- What going over descriptors adds: their fields, and the columns that they take up. -/
theorem run_eq_append (c : Cursor) (ds : List Descriptor) :
    c.run ds = ⟨c.fields ++ columnsFrom c.column ds, c.column + spanOf ds⟩ := by
  unfold run
  induction ds generalizing c with
  | nil => simp [columnsFrom, spanOf]
  | cons d ds ih =>
      rw [List.foldl_cons, ih, pass_eq, columnsFrom]
      simp [spanOf, Nat.add_assoc]

/-- **Laying out with a cursor** gives the layout of the descriptors, and the cursor stops after its
    last column. -/
theorem run_eq (ds : List Descriptor) :
    start.run ds = ⟨(ofDescriptors ds).columns, (ofDescriptors ds).width⟩ := by
  rw [run_eq_append]
  simp [start, ofDescriptors]

end Cursor

end Layout

end FixedColumns
