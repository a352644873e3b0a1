import FixedColumns.Value
import FixedColumns.Proofs.Traversal

/-!
# `FixedColumns.Proofs.Layout.Erasure` — what descriptors say that reading does not use

A descriptor says more than its layout needs: the notation that real numbers are declared with, and
the number of decimals. Erasing both leaves every field at its columns, with the same conversion; so
a field reads as it did, and an error differs in the notation of its type at most
(`Column.read_eraseForm`).
-/

namespace FixedColumns

/-! ## The notation of real numbers -/

/-- The type without the notation of real numbers: all are of the fixed form. -/
def FieldType.eraseForm : FieldType → FieldType
  | .real _ => .real .fixed
  | .integer => .integer
  | .text => .text

/-- The kind without the notation of real numbers. -/
def Kind.eraseForm : Kind → Kind
  | .skip => .skip
  | .field type => .field type.eraseForm

/-- The field without the notation of real numbers. -/
def Column.eraseForm (c : Column) : Column := { c with type := c.type.eraseForm }

/-- The error without the notation of real numbers. -/
def FieldError.eraseForm (e : FieldError) : FieldError := { e with type := e.type.eraseForm }

/-- The notation makes no difference to conversion. -/
theorem FieldType.convert_eraseForm (type : FieldType) (trimText : Bool) (text : String) :
    type.eraseForm.convert trimText text = type.convert trimText text := by
  cases type with
  | integer => rfl
  | real form => rfl
  | text => rfl

/-- A field without the notation reads as it did, but for the notation that an error names. -/
theorem Column.read_eraseForm (c : Column) (trimText : Bool) (line : String) :
    c.eraseForm.read trimText line = (c.read trimText line).mapError FieldError.eraseForm := by
  unfold read
  show (c.type.eraseForm.convert trimText (c.slice line)).mapError _ = _
  rw [FieldType.convert_eraseForm]
  cases c.type.convert trimText (c.slice line) with
  | error fault => rfl
  | ok v => rfl

/-- Fields without the notation read as they did, but for the notation that an error names. -/
theorem Column.mapM_read_eraseForm (cs : List Column) (trimText : Bool) (line : String) :
    (cs.map eraseForm).mapM (fun c : Column => c.read trimText line) =
      (cs.mapM fun c : Column => c.read trimText line).mapError FieldError.eraseForm :=
  mapM_map_mapError (fun c => c.read_eraseForm trimText line) cs

/-- As many fields convert. -/
theorem Column.countP_read_eraseForm (cs : List Column) (trimText : Bool) (line : String) :
    (cs.map eraseForm).countP (fun c : Column => (c.read trimText line).isOk) =
      cs.countP fun c => (c.read trimText line).isOk := by
  apply countP_isOk_map
  intro c
  rw [read_eraseForm, isOk_mapError]

/-! ## Layouts -/

/-- The descriptor without the notation of real numbers and without decimals. -/
def Descriptor.erase (d : Descriptor) : Descriptor :=
  ⟨d.count, d.kind.eraseForm, d.width, none⟩

@[simp] theorem Descriptor.span_erase (d : Descriptor) : d.erase.span = d.span := rfl

namespace Layout

theorem columnsOf_erase (start : Nat) (d : Descriptor) :
    columnsOf start d.erase = (columnsOf start d).map Column.eraseForm := by
  unfold columnsOf Descriptor.erase
  cases d.kind with
  | skip => rfl
  | field type =>
      rw [List.map_map]
      rfl

/-- Erasing leaves every field at its columns. -/
theorem columnsFrom_map_erase (start : Nat) (ds : List Descriptor) :
    columnsFrom start (ds.map Descriptor.erase) = (columnsFrom start ds).map Column.eraseForm :=
  columnsFrom_map columnsOf_erase Descriptor.span_erase start ds

theorem spanOf_map_erase (ds : List Descriptor) : spanOf (ds.map Descriptor.erase) = spanOf ds :=
  spanOf_map Descriptor.span_erase ds

end Layout

end FixedColumns
