import FixedColumns.Proofs.Layout.Shift
import FixedColumns.Proofs.Layout.Places

/-!
# `FixedColumns.Proofs.Layout.Gaps` — the columns that no field has

Descriptors and their complements take up the same columns, and where the one has fields the other
skips. So the columns that descriptors skip are those of the fields of their complements, and what
holds of the fields of any descriptors holds of these gaps: they stand within the columns that are
taken up, and they shift. `Layout.apart_of_mem` says that no field shares a column with a gap.
-/

namespace FixedColumns

/-- The descriptor that skips the columns of this one's fields, or has one field, of text, in the
    columns that this one skips. -/
def Descriptor.complement (d : Descriptor) : Descriptor :=
  ⟨1, if d.kind.isSkip then .field .text else .skip, d.span, none⟩

@[simp] theorem Descriptor.span_complement (d : Descriptor) : d.complement.span = d.span :=
  Nat.one_mul d.span

namespace Layout

/-- The columns that descriptors skip, one gap for each skip, if they begin at a column. -/
def gapsFrom (start : Nat) (ds : List Descriptor) : List Column :=
  columnsFrom start (ds.map Descriptor.complement)

/-- Two columns to skip after two fields, and no columns at the end. -/
example : gapsFrom 0 [⟨2, .field .integer, 3, none⟩, ⟨2, .skip, 1, none⟩,
    ⟨1, .field .text, 4, none⟩, ⟨0, .skip, 1, none⟩] = [⟨6, 2, .text⟩, ⟨12, 0, .text⟩] := by
  decide

@[simp] theorem spanOf_map_complement (ds : List Descriptor) :
    spanOf (ds.map Descriptor.complement) = spanOf ds :=
  spanOf_map Descriptor.span_complement ds

theorem gapsFrom_cons (start : Nat) (d : Descriptor) (ds : List Descriptor) :
    gapsFrom start (d :: ds) =
      columnsOf start d.complement ++ gapsFrom (start + d.span) ds := by
  unfold gapsFrom
  rw [List.map_cons, columnsFrom, Descriptor.span_complement]

/-- A skip leaves a gap as wide as the columns that it covers. -/
theorem columnsOf_complement_of_skip {d : Descriptor} (h : d.kind = .skip) (start : Nat) :
    columnsOf start d.complement = [⟨start, d.span, .text⟩] := by
  simp [columnsOf, Descriptor.complement, h, Kind.isSkip]

/-- Fields leave no gap. -/
theorem columnsOf_complement_of_field {d : Descriptor} {type : FieldType}
    (h : d.kind = .field type) (start : Nat) : columnsOf start d.complement = [] := by
  simp [columnsOf, Descriptor.complement, h, Kind.isSkip]

/-! ## Within the columns of the descriptors -/

theorem bounds_of_mem_columnsOf {start : Nat} {d : Descriptor} {c : Column}
    (h : c ∈ columnsOf start d) : start ≤ c.start ∧ c.stop ≤ start + d.span := by
  cases hk : d.kind with
  | skip =>
      rw [columnsOf_of_skip hk] at h
      exact absurd h List.not_mem_nil
  | field type =>
      unfold columnsOf at h
      rw [hk] at h
      obtain ⟨i, hi, rfl⟩ := List.mem_map.mp h
      have within := copy_le_span (List.mem_range.mp hi)
      show start ≤ start + i * d.width ∧ start + i * d.width + d.width ≤ start + d.span
      omega

/-- Fields stand within the columns that their descriptors take up. -/
theorem bounds_of_mem_columnsFrom {start : Nat} {ds : List Descriptor} {c : Column}
    (h : c ∈ columnsFrom start ds) : start ≤ c.start ∧ c.stop ≤ start + spanOf ds := by
  induction ds generalizing start with
  | nil => exact absurd h List.not_mem_nil
  | cons d ds ih =>
      rw [spanOf_cons]
      rcases List.mem_append.mp h with h | h
      · have first := bounds_of_mem_columnsOf h
        omega
      · have more := ih h
        omega

/-- So do gaps. -/
theorem bounds_of_mem_gapsFrom {start : Nat} {ds : List Descriptor} {gap : Column}
    (h : gap ∈ gapsFrom start ds) : start ≤ gap.start ∧ gap.stop ≤ start + spanOf ds := by
  rw [← spanOf_map_complement]
  exact bounds_of_mem_columnsFrom h

/-- **A field and a gap share no column:** one of them ends before the other begins. -/
theorem apart_of_mem {start : Nat} {ds : List Descriptor} {c gap : Column}
    (hc : c ∈ columnsFrom start ds) (hg : gap ∈ gapsFrom start ds) :
    c.stop ≤ gap.start ∨ gap.stop ≤ c.start := by
  induction ds generalizing start with
  | nil => exact absurd hc List.not_mem_nil
  | cons d ds ih =>
      rw [gapsFrom_cons] at hg
      rcases List.mem_append.mp hc with hc | hc
      · rcases List.mem_append.mp hg with hg | hg
        · -- One descriptor does not have both.
          cases hk : d.kind with
          | skip =>
              rw [columnsOf_of_skip hk] at hc
              exact absurd hc List.not_mem_nil
          | field type =>
              rw [columnsOf_complement_of_field hk] at hg
              exact absurd hg List.not_mem_nil
        · left
          exact Nat.le_trans (bounds_of_mem_columnsOf hc).2 (bounds_of_mem_gapsFrom hg).1
      · rcases List.mem_append.mp hg with hg | hg
        · right
          have before := (bounds_of_mem_columnsOf hg).2
          rw [Descriptor.span_complement] at before
          exact Nat.le_trans before (bounds_of_mem_columnsFrom hc).1
        · exact ih hc hg

end Layout

end FixedColumns
