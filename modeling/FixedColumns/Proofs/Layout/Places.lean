import FixedColumns.Proofs.Layout.Cursor

/-!
# `FixedColumns.Proofs.Layout.Places` — where each field stands

A descriptor stands for as many copies of a field as it counts, or for a skip. The fields of a
layout are these copies in the order of the descriptors, and copy `j` of descriptor `i` begins after
the columns of the descriptors before it and of the `j` copies before it. So one field ends where
the next begins, but for the columns that skips between them take up. `Layout.ofDescriptors_places`
puts this together.

## Contents
- `fieldsOf`, `skippedOf`: the fields that descriptors stand for, and the columns that they skip.
- `IsCopy`: which copy of which descriptor a field is.
- `IsCopy.getElem?_columns`, `exists_isCopy`: every copy has its place, and every place its copy.
- `IsCopy.next`: how one field and the next are copies.
-/

namespace FixedColumns

namespace Layout

-- The sum of no numbers is core's zero, whatever other instances are in scope.
attribute [local instance (high)] Zero.ofOfNat0

/-! ## Fields and skipped columns -/

/-- The number of fields of descriptors: the counts of those that are no skips. -/
def fieldsOf (ds : List Descriptor) : Nat :=
  ((ds.filter fun d => !d.kind.isSkip).map Descriptor.count).sum

/-- The number of columns that the skips among descriptors cover. -/
def skippedOf (ds : List Descriptor) : Nat := spanOf (ds.filter fun d => d.kind.isSkip)

@[simp] theorem fieldsOf_nil : fieldsOf [] = 0 := rfl

@[simp] theorem skippedOf_nil : skippedOf [] = 0 := rfl

@[simp] theorem spanOf_cons (d : Descriptor) (ds : List Descriptor) :
    spanOf (d :: ds) = d.span + spanOf ds := by
  simp [spanOf]

theorem fieldsOf_cons_of_skip {d : Descriptor} (h : d.kind = .skip) (ds : List Descriptor) :
    fieldsOf (d :: ds) = fieldsOf ds := by
  simp [fieldsOf, h, Kind.isSkip]

theorem fieldsOf_cons_of_field {d : Descriptor} {type : FieldType} (h : d.kind = .field type)
    (ds : List Descriptor) : fieldsOf (d :: ds) = d.count + fieldsOf ds := by
  simp [fieldsOf, h, Kind.isSkip]

theorem skippedOf_cons_of_skip {d : Descriptor} (h : d.kind = .skip) (ds : List Descriptor) :
    skippedOf (d :: ds) = d.span + skippedOf ds := by
  simp [skippedOf, h, Kind.isSkip]

theorem skippedOf_cons_of_field {d : Descriptor} {type : FieldType} (h : d.kind = .field type)
    (ds : List Descriptor) : skippedOf (d :: ds) = skippedOf ds := by
  simp [skippedOf, h, Kind.isSkip]

/-- Each copy stands within the columns of its descriptor. -/
theorem copy_le_span {d : Descriptor} {j : Nat} (h : j < d.count) :
    j * d.width + d.width ≤ d.span := by
  rw [← Nat.succ_mul]
  exact Nat.mul_le_mul_right d.width h

theorem fieldsOf_append (ds es : List Descriptor) :
    fieldsOf (ds ++ es) = fieldsOf ds + fieldsOf es := by
  simp [fieldsOf]

/-- Descriptors without a field take up the columns that they skip and no others. -/
theorem spanOf_eq_skippedOf {ds : List Descriptor} (h : fieldsOf ds = 0) :
    spanOf ds = skippedOf ds := by
  induction ds with
  | nil => rfl
  | cons d ds ih =>
      cases hk : d.kind with
      | skip =>
          rw [fieldsOf_cons_of_skip hk] at h
          rw [spanOf_cons, skippedOf_cons_of_skip hk, ih h]
      | field type =>
          -- A descriptor that is no skip has no field only if its count is zero.
          rw [fieldsOf_cons_of_field hk] at h
          have count : d.count = 0 := by omega
          have span : d.span = 0 := by
            unfold Descriptor.span
            rw [count, Nat.zero_mul]
          rw [spanOf_cons, skippedOf_cons_of_field hk, span, Nat.zero_add]
          exact ih (by omega)

/-- No column is skipped exactly if no skip covers any. -/
theorem skippedOf_eq_zero_iff {ds : List Descriptor} :
    skippedOf ds = 0 ↔ ∀ d ∈ ds, d.kind = .skip → d.span = 0 := by
  induction ds with
  | nil => simp
  | cons d ds ih =>
      cases hk : d.kind with
      | skip => simp [skippedOf_cons_of_skip hk, ih, hk]
      | field type => simp [skippedOf_cons_of_field hk, ih, hk]

theorem columnsOf_of_skip {d : Descriptor} (h : d.kind = .skip) (start : Nat) :
    columnsOf start d = [] := by
  simp [columnsOf, h]

theorem length_columnsOf_of_field {d : Descriptor} {type : FieldType} (h : d.kind = .field type)
    (start : Nat) : (columnsOf start d).length = d.count := by
  simp [columnsOf, h]

/-- There are as many fields as the descriptors count. -/
theorem length_columnsFrom (start : Nat) (ds : List Descriptor) :
    (columnsFrom start ds).length = fieldsOf ds := by
  induction ds generalizing start with
  | nil => rfl
  | cons d ds ih =>
      rw [columnsFrom, List.length_append, ih]
      cases hk : d.kind with
      | skip => rw [columnsOf_of_skip hk, fieldsOf_cons_of_skip hk, List.length_nil, Nat.zero_add]
      | field type => rw [length_columnsOf_of_field hk, fieldsOf_cons_of_field hk]

/-! ## Copies of descriptors -/

/-- Field `n` is copy `j` of descriptor `i`, all counted from 0. The descriptor is `d` and its
    fields are of the type `type`. -/
structure IsCopy (ds : List Descriptor) (i j n : Nat) (d : Descriptor) (type : FieldType) :
    Prop where
  descriptor : ds[i]? = some d
  kind : d.kind = .field type
  copy : j < d.count
  place : n = fieldsOf (ds.take i) + j

/-- The descriptors after the one at `i` and before the one at `k`. -/
def between (ds : List Descriptor) (i k : Nat) : List Descriptor := (ds.take k).drop (i + 1)

/-- A list cut at one of its elements. -/
theorem eq_take_append_cons {α : Type} {xs : List α} {i : Nat} {x : α} (h : xs[i]? = some x) :
    xs = xs.take i ++ x :: xs.drop (i + 1) := by
  obtain ⟨hi, rfl⟩ := List.getElem?_eq_some_iff.mp h
  rw [List.getElem_cons_drop, List.take_append_drop]

/-- What comes before a descriptor, cut at an earlier one. -/
theorem take_eq_append_between {ds : List Descriptor} {i k : Nat} {d : Descriptor}
    (h : ds[i]? = some d) (hk : i < k) : ds.take k = ds.take i ++ d :: between ds i k := by
  have inside : (ds.take k)[i]? = some d := by rw [List.getElem?_take_of_lt hk, h]
  have cut := eq_take_append_cons inside
  rwa [List.take_take, Nat.min_eq_left (by omega)] at cut

namespace IsCopy

variable {ds : List Descriptor} {i j n : Nat} {d : Descriptor} {type : FieldType}

/-- **Every copy has its place:** after the columns of the descriptors before its own and those of
    the copies before it. -/
theorem getElem?_columns (h : IsCopy ds i j n d type) :
    (ofDescriptors ds).columns[n]? =
      some ⟨spanOf (ds.take i) + j * d.width, d.width, type⟩ := by
  have here : (columnsOf (0 + spanOf (ds.take i)) d)[j]? =
      some ⟨spanOf (ds.take i) + j * d.width, d.width, type⟩ := by
    simp [columnsOf, h.kind, h.copy]
  have inside : j < (columnsOf (0 + spanOf (ds.take i)) d).length := by
    rw [length_columnsOf_of_field h.kind]
    exact h.copy
  -- The fields are those of the descriptors before, of this one, and of the ones after.
  show (columnsFrom 0 ds)[n]? = _
  rw [eq_take_append_cons h.descriptor, columnsFrom_append, columnsFrom, h.place,
    ← length_columnsFrom 0 (ds.take i), List.getElem?_append_right (Nat.le_add_right ..),
    Nat.add_sub_cancel_left, List.getElem?_append_left inside, ← eq_take_append_cons h.descriptor]
  exact here

/-- A field ends within the columns that the descriptors take up. -/
theorem stop_le (h : IsCopy ds i j n d type) :
    spanOf (ds.take i) + j * d.width + d.width ≤ spanOf ds := by
  have whole : spanOf ds = spanOf (ds.take i) + (d.span + spanOf (ds.drop (i + 1))) := by
    rw [← spanOf_cons, ← spanOf_append, ← eq_take_append_cons h.descriptor]
  have within := copy_le_span h.copy
  omega

/-- **The next field** is the next copy of the same descriptor; or it is the first copy of a later
    one, after the last copy of this one, and there is no field of a descriptor between them. -/
theorem next {k l : Nat} {e : Descriptor} {type' : FieldType} (h : IsCopy ds i j n d type)
    (h' : IsCopy ds k l (n + 1) e type') :
    (k = i ∧ l = j + 1) ∨
      (i < k ∧ j + 1 = d.count ∧ l = 0 ∧ fieldsOf (between ds i k) = 0) := by
  have copy := h.copy
  have copy' := h'.copy
  have place := h.place
  have place' := h'.place
  rcases Nat.lt_trichotomy i k with hik | rfl | hki
  · -- The `n + 1` fields before the next one include all of descriptor `i` and all between.
    rw [take_eq_append_between h.descriptor hik, fieldsOf_append,
      fieldsOf_cons_of_field h.kind] at place'
    right
    omega
  · left
    omega
  · rw [take_eq_append_between h'.descriptor hki, fieldsOf_append,
      fieldsOf_cons_of_field h'.kind] at place
    omega

/-- From one field to the next there are just the columns of the skips between their descriptors. -/
theorem start_next {k l : Nat} {e : Descriptor} {type' : FieldType} (h : IsCopy ds i j n d type)
    (h' : IsCopy ds k l (n + 1) e type') :
    spanOf (ds.take k) + l * e.width =
      spanOf (ds.take i) + j * d.width + d.width + skippedOf (between ds i k) := by
  rcases h.next h' with ⟨rfl, rfl⟩ | ⟨hik, last, rfl, none⟩
  · have same : e = d := Option.some.inj (h'.descriptor.symm.trans h.descriptor)
    have nothing : between ds k k = [] := by
      unfold between
      rw [List.drop_eq_nil_of_le]
      exact Nat.le_succ_of_le (List.length_take_le k ds)
    rw [same, nothing, skippedOf_nil, Nat.succ_mul]
    omega
  · have span : d.span = j * d.width + d.width := by
      unfold Descriptor.span
      rw [← last, Nat.succ_mul]
    rw [take_eq_append_between h.descriptor hik, spanOf_append, spanOf_cons,
      spanOf_eq_skippedOf none, span]
    omega

end IsCopy

/-- **Every place has its copy.** -/
theorem exists_isCopy {ds : List Descriptor} {n : Nat} (h : n < fieldsOf ds) :
    ∃ i j d type, IsCopy ds i j n d type := by
  induction ds generalizing n with
  | nil => exact absurd h (Nat.not_lt_zero n)
  | cons d ds ih =>
      cases hk : d.kind with
      | skip =>
          rw [fieldsOf_cons_of_skip hk] at h
          obtain ⟨i, j, e, type, copy⟩ := ih h
          refine ⟨i + 1, j, e, type, copy.descriptor, copy.kind, copy.copy, ?_⟩
          rw [List.take_succ_cons, fieldsOf_cons_of_skip hk]
          exact copy.place
      | field type =>
          rw [fieldsOf_cons_of_field hk] at h
          by_cases hn : n < d.count
          · refine ⟨0, n, d, type, rfl, hk, hn, ?_⟩
            rw [List.take_zero, fieldsOf_nil, Nat.zero_add]
          · obtain ⟨i, j, e, type', copy⟩ := ih (n := n - d.count) (by omega)
            refine ⟨i + 1, j, e, type', copy.descriptor, copy.kind, copy.copy, ?_⟩
            have place := copy.place
            rw [List.take_succ_cons, fieldsOf_cons_of_field hk]
            omega

/-- A field of a layout is a copy of a descriptor. -/
theorem exists_isCopy_of_getElem? {ds : List Descriptor} {n : Nat} {c : Column}
    (h : (ofDescriptors ds).columns[n]? = some c) : ∃ i j d, IsCopy ds i j n d c.type := by
  have inside : n < fieldsOf ds := by
    rw [← length_columnsFrom 0 ds]
    exact (List.getElem?_eq_some_iff.mp h).1
  obtain ⟨i, j, d, type, copy⟩ := exists_isCopy inside
  have same := copy.getElem?_columns.symm.trans h
  rw [← Option.some.inj same]
  exact ⟨i, j, d, copy⟩

/-- **Where the fields of descriptors stand.** -/
theorem ofDescriptors_places (ds : List Descriptor) :
    Cursor.start.run ds = ⟨(ofDescriptors ds).columns, (ofDescriptors ds).width⟩ ∧
    (ofDescriptors ds).width = spanOf ds ∧
    (ofDescriptors ds).columns.length = fieldsOf ds ∧
    (∀ i j n d type, IsCopy ds i j n d type →
      (ofDescriptors ds).columns[n]? =
        some ⟨spanOf (ds.take i) + j * d.width, d.width, type⟩) ∧
    (∀ n c, (ofDescriptors ds).columns[n]? = some c →
      (∃ i j d, IsCopy ds i j n d c.type) ∧
        c.start ≤ c.stop ∧ c.stop ≤ (ofDescriptors ds).width) ∧
    ∀ n c next, (ofDescriptors ds).columns[n]? = some c →
      (ofDescriptors ds).columns[n + 1]? = some next →
      c.stop ≤ next.start ∧
      ∃ i j d k l e, IsCopy ds i j n d c.type ∧ IsCopy ds k l (n + 1) e next.type ∧
        next.start = c.stop + skippedOf (between ds i k) ∧
        (next.start = c.stop ↔ ∀ x ∈ between ds i k, x.kind = .skip → x.span = 0) := by
  refine ⟨Cursor.run_eq ds, rfl, length_columnsFrom 0 ds, ?_, ?_, ?_⟩
  · intro i j n d type copy
    exact copy.getElem?_columns
  · intro n c hc
    obtain ⟨i, j, d, copy⟩ := exists_isCopy_of_getElem? hc
    refine ⟨⟨i, j, d, copy⟩, Nat.le_add_right .., ?_⟩
    have same := Option.some.inj (copy.getElem?_columns.symm.trans hc)
    rw [← same]
    exact copy.stop_le
  · intro n c next hc hnext
    obtain ⟨i, j, d, copy⟩ := exists_isCopy_of_getElem? hc
    obtain ⟨k, l, e, copy'⟩ := exists_isCopy_of_getElem? hnext
    have gap : next.start = c.stop + skippedOf (between ds i k) := by
      have same := Option.some.inj (copy.getElem?_columns.symm.trans hc)
      have same' := Option.some.inj (copy'.getElem?_columns.symm.trans hnext)
      rw [← same, ← same']
      exact copy.start_next copy'
    refine ⟨by omega, i, j, d, k, l, e, copy, copy', gap, ?_⟩
    rw [← skippedOf_eq_zero_iff]
    omega

/-- A skip of four columns parts two fields; no copies, and fields without columns, part none. -/
example :
    (ofDescriptors [⟨2, .field .integer, 3, none⟩, ⟨1, .skip, 4, none⟩, ⟨0, .field .text, 5, none⟩,
      ⟨1, .field .text, 0, none⟩, ⟨1, .field (.real .exponential), 2, none⟩]).columns =
      [⟨0, 3, .integer⟩, ⟨3, 3, .integer⟩, ⟨10, 0, .text⟩, ⟨10, 2, .real .exponential⟩] := by
  decide

end Layout

end FixedColumns
