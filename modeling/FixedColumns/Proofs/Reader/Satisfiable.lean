import FixedColumns.Proofs.Layout.Gaps
import FixedColumns.Proofs.Number.Integers
import FixedColumns.Proofs.Number.Numerals
import FixedColumns.Proofs.Reader.Formats
import FixedColumns.Proofs.Text.Slices

/-!
# `FixedColumns.Proofs.Reader.Satisfiable` — which formats some line can be read by

A number without columns has no text to be read from, whatever the line. Every other field reads
zeros, however wide it is: as an integer, which they do not take out of range, as a real number, or
as a text. So a line of zeros can be read by every format without a number of no columns, and no line
by any other; and how many such numbers there are bounds how many fields of a line convert. This is
`Reader.exists_read_iff`.
-/

namespace FixedColumns

/-! ## Numbers without columns -/

/-- The field is a number and has no columns. -/
def Column.EmptyNumber (c : Column) : Prop := c.type ≠ .text ∧ c.start = c.stop

/-- The descriptor stands for numbers without columns; if its count is zero, for none. -/
def Descriptor.EmptyNumber (d : Descriptor) : Prop :=
  d.kind ≠ .skip ∧ d.kind ≠ .field .text ∧ d.width = 0

instance (c : Column) : Decidable c.EmptyNumber :=
  inferInstanceAs (Decidable (_ ∧ _))

instance (d : Descriptor) : Decidable d.EmptyNumber :=
  inferInstanceAs (Decidable (_ ∧ _ ∧ _))

/-- No line has a text for it that converts. -/
theorem Column.EmptyNumber.isOk_read {c : Column} (h : c.EmptyNumber) (trimText : Bool)
    (line : String) : (c.read trimText line).isOk = false := by
  obtain ⟨number, none⟩ := h
  have width : c.width = 0 := by
    unfold stop at none
    omega
  have empty : (c.slice line).toList = [] := by
    rw [toList_slice, width, List.take_zero]
  apply isOk_read_of_allBlank number
  rw [empty]
  exact Text.allBlank_nil

/-! ## A line of zeros -/

/-- A line of as many zeros. -/
def zeros (n : Nat) : String := String.ofList (List.replicate n '0')

/-- A field of a line of zeros has zeros in all its columns. -/
theorem Column.toList_slice_zeros {c : Column} {n : Nat} (h : c.stop ≤ n) :
    (c.slice (zeros n)).toList = List.replicate c.width '0' := by
  unfold stop at h
  unfold zeros
  rw [toList_slice, String.toList_ofList, List.drop_replicate, List.take_replicate]
  congr 1
  omega

/-- Any other field has a value in a line of zeros. -/
theorem Column.exists_read_zeros {c : Column} {n : Nat} (h : ¬ c.EmptyNumber) (within : c.stop ≤ n)
    (trimText : Bool) : ∃ v, c.read trimText (zeros n) = .ok v := by
  have text := toList_slice_zeros within
  have run (number : c.type ≠ .text) : ∃ ds : Digits, ds.chars = List.replicate c.width '0' := by
    refine ⟨⟨List.replicate c.width '0', ?_, allDigits_replicate_zero _⟩, rfl⟩
    intro hnil
    have width : c.width = 0 := by simpa using hnil
    exact h ⟨number, by unfold stop; omega⟩
  unfold read FieldType.convert
  cases ht : c.type with
  | integer =>
      obtain ⟨ds, hds⟩ := run (by rw [ht]; exact nofun)
      have value : ds.value = 0 := (congrArg digitsValue hds).trans (digitsValue_replicate_zero _)
      rw [text, ← hds, readInteger_of_digits ds (by rw [value]; exact Nat.zero_le _)]
      exact ⟨_, rfl⟩
  | real form =>
      obtain ⟨ds, hds⟩ := run (by rw [ht]; exact nofun)
      rw [text, ← hds, readReal_of_digits ds]
      exact ⟨_, rfl⟩
  | text => exact ⟨_, rfl⟩

/-! ## Layouts -/

namespace Layout

/-- The fields of one descriptor are all numbers without columns, or none of them is. -/
theorem countP_emptyNumber_columnsOf (start : Nat) (d : Descriptor) :
    (columnsOf start d).countP (·.EmptyNumber) = fieldsOf ([d].filter (·.EmptyNumber)) := by
  cases hk : d.kind with
  | skip =>
      have none : ¬ d.EmptyNumber := fun h => h.1 hk
      rw [columnsOf_of_skip hk, List.filter_cons_of_neg (by simpa using none)]
      rfl
  | field type =>
      -- The fields differ in where they begin only.
      have each : ∀ c ∈ columnsOf start d, (c.EmptyNumber ↔ d.EmptyNumber) := by
        intro c hc
        unfold columnsOf at hc
        rw [hk] at hc
        obtain ⟨i, _, rfl⟩ := List.mem_map.mp hc
        simp [Column.EmptyNumber, Descriptor.EmptyNumber, Column.stop, hk]
      by_cases h : d.EmptyNumber
      · have all : (columnsOf start d).countP (·.EmptyNumber) = (columnsOf start d).length := by
          rw [List.countP_eq_length]
          intro c hc
          simpa using (each c hc).mpr h
        rw [all, length_columnsOf_of_field hk, List.filter_cons_of_pos (by simpa using h),
          List.filter_nil, fieldsOf_cons_of_field hk, fieldsOf_nil, Nat.add_zero]
      · have none : (columnsOf start d).countP (·.EmptyNumber) = 0 := by
          rw [List.countP_eq_zero]
          intro c hc
          simpa using fun empty => h ((each c hc).mp empty)
        rw [none, List.filter_cons_of_neg (by simpa using h)]
        rfl

/-- The numbers without columns are as many as the descriptors of such numbers count. -/
theorem countP_emptyNumber (start : Nat) (ds : List Descriptor) :
    (columnsFrom start ds).countP (·.EmptyNumber) =
      fieldsOf (ds.filter (·.EmptyNumber)) := by
  induction ds generalizing start with
  | nil => rfl
  | cons d ds ih =>
      rw [columnsFrom, List.countP_append, ih, countP_emptyNumber_columnsOf, ← fieldsOf_append,
        ← List.filter_append, List.singleton_append]

/-- Two numbers without columns: texts have a value without, and a count of zero has no field. -/
example : (columnsFrom 0 [⟨2, .field .integer, 0, none⟩, ⟨1, .field .text, 0, none⟩,
    ⟨0, .field (.real .fixed), 0, none⟩]).countP (·.EmptyNumber) = 2 := by
  decide

end Layout

namespace Reader

variable {r : Reader}

/-- A number without columns keeps every line from being read. -/
theorem exists_read_eq_error {c : Column} (hc : c ∈ r.columns) (h : c.EmptyNumber)
    (line : String) : ∃ e, r.read line = .error e :=
  exists_mapM_eq_error hc (h.isOk_read r.settings.trimText line)

/-- Without such a number, zeros in all the columns are read. -/
theorem exists_read_zeros (h : ∀ c ∈ r.columns, ¬ c.EmptyNumber) :
    ∃ values, r.read (zeros r.layout.width) = .ok values := by
  apply exists_mapM_eq_ok_iff.mpr
  intro c hc
  have within : c.stop ≤ r.layout.width := by
    rw [columns_eq] at hc
    rw [width_eq]
    simpa using (Layout.bounds_of_mem_columnsFrom hc).2
  exact c.exists_read_zeros (h c hc) within r.settings.trimText

/-- No number without columns counts. -/
theorem score_add_countP_le (r : Reader) (line : String) :
    r.score line + r.columns.countP (·.EmptyNumber) ≤ r.size := by
  have apart : r.columns.countP (·.EmptyNumber) ≤
      r.columns.countP fun c => ¬ (c.read r.settings.trimText line).isOk := by
    apply List.countP_mono_left
    intro c _ h
    have fails := (of_decide_eq_true h).isOk_read r.settings.trimText line
    simp [fails]
  have both := List.length_eq_countP_add_countP
    (l := r.columns) fun c => (c.read r.settings.trimText line).isOk
  unfold score size
  omega

/-- **A format can be satisfied** exactly if it has no number without columns. -/
theorem exists_read_iff (r : Reader) :
    ((∃ line values, r.read line = .ok values) ↔ ∀ c ∈ r.columns, ¬ c.EmptyNumber) ∧
    ((∃ c ∈ r.columns, c.EmptyNumber) → ∀ line, ∃ e, r.read line = .error e) ∧
    (∀ line, r.score line + r.columns.countP (·.EmptyNumber) ≤ r.size) ∧
    r.columns.countP (·.EmptyNumber) =
      Layout.fieldsOf (r.descriptors.filter (·.EmptyNumber)) := by
  refine ⟨⟨?_, ?_⟩, ?_, r.score_add_countP_le, ?_⟩
  · rintro ⟨line, values, hr⟩ c hc h
    obtain ⟨e, he⟩ := exists_read_eq_error hc h line
    exact nomatch he.symm.trans hr
  · intro h
    exact ⟨_, exists_read_zeros h⟩
  · rintro ⟨c, hc, h⟩ line
    exact exists_read_eq_error hc h line
  · rw [columns_eq]
    exact Layout.countP_emptyNumber 0 r.descriptors

end Reader

end FixedColumns
