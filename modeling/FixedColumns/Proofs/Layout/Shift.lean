import FixedColumns.Proofs.Text.Slices
import FixedColumns.Proofs.Traversal

/-!
# `FixedColumns.Proofs.Layout.Shift` — columns further to the right

Descriptors that begin `w` columns further to the right have the same fields, each shifted right by
`w`. Reading a shifted field of a line is reading the field itself of the line without its first `w`
columns; if it does not convert then the error names the shifted place.
-/

namespace FixedColumns

/-- The line without its first columns; nothing is left of a line that has no more than those. -/
def Text.dropColumns (w : Nat) (line : String) : String := String.ofList (line.toList.drop w)

/-- The same field, `w` columns further to the right. -/
def Column.shift (w : Nat) (c : Column) : Column := { c with start := c.start + w }

/-- The same error, `w` columns further to the right. -/
def FieldError.shift (w : Nat) (e : FieldError) : FieldError :=
  { e with start := e.start + w, stop := e.stop + w }

/-! ## Layouts -/

namespace Layout

theorem columnsOf_add (start w : Nat) (d : Descriptor) :
    columnsOf (start + w) d = (columnsOf start d).map (Column.shift w) := by
  unfold columnsOf
  cases d.kind with
  | skip => rfl
  | field type =>
      rw [List.map_map]
      apply List.map_congr_left
      intro i _
      show (⟨start + w + i * d.width, d.width, type⟩ : Column) =
        ⟨start + i * d.width + w, d.width, type⟩
      rw [Nat.add_right_comm]

/-- **Descriptors that begin further to the right** have the same fields, shifted. -/
theorem columnsFrom_add (start w : Nat) (ds : List Descriptor) :
    columnsFrom (start + w) ds = (columnsFrom start ds).map (Column.shift w) := by
  -- Each descriptor moves the cursor, so the induction is over every column to begin at.
  induction ds generalizing start with
  | nil => rfl
  | cons d ds ih =>
      rw [columnsFrom, columnsFrom, List.map_append, columnsOf_add, Nat.add_right_comm, ih]

/-- The fields of two lists of descriptors: those of the first, and those of the second shifted by
    the columns that the first takes up. -/
theorem columnsFrom_append_shift (ds es : List Descriptor) :
    columnsFrom 0 (ds ++ es) =
      columnsFrom 0 ds ++ (columnsFrom 0 es).map (Column.shift (spanOf ds)) := by
  rw [columnsFrom_append, columnsFrom_add]

end Layout

/-! ## Lines -/

namespace Column

theorem stop_shift (w : Nat) (c : Column) : (c.shift w).stop = c.stop + w :=
  Nat.add_right_comm c.start w c.width

/-- A shifted field has the characters that the field itself has in the rest of the line. -/
theorem slice_shift (w : Nat) (c : Column) (line : String) :
    (c.shift w).slice line = c.slice (Text.dropColumns w line) := by
  apply String.toList_injective
  -- Both sides are characters of the line, however many bytes each of them takes.
  rw [toList_slice, toList_slice]
  unfold Text.dropColumns shift
  rw [String.toList_ofList, List.drop_drop, Nat.add_comm]

theorem map_slice_shift (w : Nat) (cs : List Column) (line : String) :
    (cs.map (shift w)).map (fun c : Column => c.slice line) =
      cs.map fun c : Column => c.slice (Text.dropColumns w line) := by
  rw [List.map_map]
  apply List.map_congr_left
  intro c _
  exact slice_shift w c line

/-- **Reading a shifted field** is reading the field itself in the rest of the line. -/
theorem read_shift (w : Nat) (c : Column) (trimText : Bool) (line : String) :
    (c.shift w).read trimText line =
      (c.read trimText (Text.dropColumns w line)).mapError (FieldError.shift w) := by
  unfold read
  rw [slice_shift, stop_shift]
  show (c.type.convert trimText (c.slice (Text.dropColumns w line))).mapError _ = _
  cases c.type.convert trimText (c.slice (Text.dropColumns w line)) with
  | error fault => rfl
  | ok v => rfl

/-- Reading shifted fields is reading the fields themselves in the rest of the line. -/
theorem mapM_read_shift (w : Nat) (cs : List Column) (trimText : Bool) (line : String) :
    (cs.map (shift w)).mapM (fun c : Column => c.read trimText line) =
      (cs.mapM fun c : Column => c.read trimText (Text.dropColumns w line)).mapError
        (FieldError.shift w) :=
  mapM_map_mapError (fun c => read_shift w c trimText line) cs

/-- As many shifted fields convert as there are fields that do in the rest of the line. -/
theorem countP_read_shift (w : Nat) (cs : List Column) (trimText : Bool) (line : String) :
    (cs.map (shift w)).countP (fun c : Column => (c.read trimText line).isOk) =
      cs.countP fun c => (c.read trimText (Text.dropColumns w line)).isOk := by
  apply countP_isOk_map
  intro c
  rw [read_shift, isOk_mapError]

end Column

end FixedColumns
