import FixedColumns.Proofs.Layout.Gaps
import FixedColumns.Proofs.Text.Slices

/-!
# `FixedColumns.Proofs.Layout.Weave` — putting a line together from its parts

Weaving takes a text for each field and a filler for each skip and puts them in the order of the
descriptors. If every text is as wide as its field and every filler as its skip then the line that
they make up has these texts in the columns of the fields, whatever follows
(`Layout.map_slice_weave`). The other way round, weaving the texts that any line has in the columns
of the fields and in the gaps between them gives the beginning of the line
(`Layout.join_weave_slices`).
-/

namespace FixedColumns

/-! ## The first columns of a line -/

namespace Text

/-- The first columns of a line, so far as it has them. -/
def takeColumns (w : Nat) (line : String) : String := String.ofList (line.toList.take w)

theorem takeColumns_append {w : Nat} {text : String} (h : text.length = w) (rest : String) :
    takeColumns w (text ++ rest) = text := by
  apply String.toList_injective
  unfold takeColumns
  rw [String.toList_ofList, String.toList_append]
  exact List.take_left' (by rw [String.length_toList, h])

theorem dropColumns_append {w : Nat} {text : String} (h : text.length = w) (rest : String) :
    dropColumns w (text ++ rest) = rest := by
  apply String.toList_injective
  unfold dropColumns
  rw [String.toList_ofList, String.toList_append]
  exact List.drop_left' (by rw [String.length_toList, h])

/-- The first `v + w` columns are the first `v` and then the first `w` of the rest. -/
theorem takeColumns_add (v w : Nat) (line : String) :
    takeColumns (v + w) line = takeColumns v line ++ takeColumns w (dropColumns v line) := by
  apply String.toList_injective
  unfold takeColumns dropColumns
  rw [String.toList_append]
  simp only [String.toList_ofList]
  rw [List.take_add]

/-- A line that has the columns has as many characters in them. -/
theorem length_takeColumns {w : Nat} {line : String} (h : w ≤ line.length) :
    (takeColumns w line).length = w := by
  unfold takeColumns
  rw [String.length_ofList, List.length_take, String.length_toList]
  exact Nat.min_eq_left h

end Text

/-- A field that begins a line has the line's first columns. -/
theorem Column.slice_of_start_eq_zero {c : Column} (h : c.start = 0) (line : String) :
    c.slice line = Text.takeColumns c.width line := by
  apply String.toList_injective
  unfold Text.takeColumns
  rw [toList_slice, h, List.drop_zero, String.toList_ofList]

namespace Layout

/-! ## Fields of one descriptor -/

/-- Fields of one type and width in a row, from the first column on. -/
def row (type : FieldType) (width n : Nat) : List Column :=
  columnsOf 0 ⟨n, .field type, width, none⟩

theorem row_succ (type : FieldType) (width n : Nat) :
    row type width (n + 1) = ⟨0, width, type⟩ :: (row type width n).map (Column.shift width) := by
  have next : ∀ i, (i + 1) * width = i * width + width := fun i => Nat.succ_mul i width
  unfold row columnsOf
  simp [List.range_succ_eq_map, Function.comp_def, Column.shift, next]

theorem columnsOf_eq_row {d : Descriptor} {type : FieldType} (h : d.kind = .field type) :
    columnsOf 0 d = row type d.width d.count := by
  unfold row columnsOf
  rw [h]

theorem map_width_row (type : FieldType) (width n : Nat) :
    (row type width n).map Column.width = List.replicate n width := by
  unfold row columnsOf
  simp [Function.comp_def]

/-- Texts of the right width one after the other stand in the columns of the fields. -/
theorem map_slice_row (type : FieldType) {width : Nat} {texts : List String}
    (h : ∀ t ∈ texts, t.length = width) (rest : String) :
    (row type width texts.length).map (fun c => c.slice (String.join texts ++ rest)) = texts := by
  -- After the first text the other fields begin, so they read what comes after it.
  induction texts with
  | nil => rfl
  | cons t texts ih =>
      have first := h t List.mem_cons_self
      have more : ∀ t ∈ texts, t.length = width := by
        intro t ht
        exact h t (List.mem_cons_of_mem _ ht)
      rw [List.length_cons, row_succ, List.map_cons, Column.map_slice_shift, String.join_cons,
        String.append_assoc, Text.dropColumns_append first, ih more,
        Column.slice_of_start_eq_zero rfl, Text.takeColumns_append first]

/-- What a line has in the columns of fields in a row, joined, is its beginning. -/
theorem join_slices_row (type : FieldType) (width n : Nat) (line : String) :
    String.join ((row type width n).map fun c => c.slice line) =
      Text.takeColumns (n * width) line := by
  induction n generalizing line with
  | zero =>
      rw [Nat.zero_mul]
      rfl
  | succ n ih =>
      rw [row_succ, List.map_cons, Column.map_slice_shift, String.join_cons, ih,
        Column.slice_of_start_eq_zero rfl, Nat.succ_mul, Nat.add_comm, Text.takeColumns_add]

/-! ## Weaving -/

/-- The texts of fields and the fillers of skips in the order of the descriptors: as many texts as a
    descriptor has fields, and one filler for a skip. -/
def weave : List Descriptor → List String → List String → List String
  | [], _, _ => []
  | d :: ds, texts, fillers =>
    match d.kind with
    | .skip => fillers.take 1 ++ weave ds texts (fillers.drop 1)
    | .field _ => texts.take d.count ++ weave ds (texts.drop d.count) fillers

theorem weave_cons_of_skip {d : Descriptor} (h : d.kind = .skip) (ds : List Descriptor)
    (texts fillers : List String) (filler : String) :
    weave (d :: ds) texts (filler :: fillers) = filler :: weave ds texts fillers := by
  simp [weave, h]

theorem weave_cons_of_field {d : Descriptor} {type : FieldType} (h : d.kind = .field type)
    (ds : List Descriptor) {texts : List String} (hl : texts.length = d.count)
    (more fillers : List String) :
    weave (d :: ds) (texts ++ more) fillers = texts ++ weave ds more fillers := by
  simp [weave, h, List.take_left' hl, List.drop_left' hl]

theorem columnsFrom_cons (d : Descriptor) (ds : List Descriptor) :
    columnsFrom 0 (d :: ds) = columnsOf 0 d ++ (columnsFrom 0 ds).map (Column.shift d.span) := by
  rw [columnsFrom, columnsFrom_add]

/-- **Slicing what was woven.** If every text is as wide as its field and every filler as its skip,
    the fields have the texts that were woven. -/
theorem map_slice_weave {ds : List Descriptor} {texts fillers : List String}
    (ht : texts.map String.length = (columnsFrom 0 ds).map Column.width)
    (hf : fillers.map String.length =
      (ds.filter fun d => d.kind.isSkip).map Descriptor.span) (tail : String) :
    (columnsFrom 0 ds).map (fun c => c.slice (String.join (weave ds texts fillers) ++ tail)) =
      texts := by
  induction ds generalizing texts fillers with
  | nil => exact (List.map_eq_nil_iff.mp ht).symm
  | cons d ds ih =>
      rw [columnsFrom_cons, List.map_append, Column.map_slice_shift]
      rw [columnsFrom_cons, List.map_append, List.map_map] at ht
      -- Shifting leaves the widths of the other fields as they are.
      change texts.map String.length =
        (columnsOf 0 d).map Column.width ++ (columnsFrom 0 ds).map Column.width at ht
      cases hk : d.kind with
      | skip =>
          rw [List.filter_cons_of_pos (by rw [hk]; rfl), List.map_cons] at hf
          rw [columnsOf_of_skip hk, List.map_nil, List.nil_append] at ht
          obtain ⟨filler, more, rfl, width, widths⟩ := List.map_eq_cons_iff.mp hf
          rw [weave_cons_of_skip hk, String.join_cons, String.append_assoc,
            Text.dropColumns_append width, ih ht widths, columnsOf_of_skip hk]
          rfl
      | field type =>
          rw [List.filter_cons_of_neg (by rw [hk]; exact Bool.false_ne_true)] at hf
          obtain ⟨first, more, rfl, widths, widths'⟩ := List.map_eq_append_iff.mp ht
          rw [columnsOf_eq_row hk, map_width_row] at widths
          obtain ⟨count, each⟩ := List.eq_replicate_iff.mp widths
          rw [List.length_map] at count
          have wide : ∀ t ∈ first, t.length = d.width := by
            intro t hm
            exact each t.length (List.mem_map_of_mem hm)
          have span : (String.join first).length = d.span := by
            rw [String.length_join, widths]
            simp [Descriptor.span]
          rw [weave_cons_of_field hk ds count, String.join_append, String.append_assoc,
            Text.dropColumns_append span, ih widths' hf, columnsOf_eq_row hk, ← count,
            map_slice_row type wide]

/-- **Weaving what was sliced.** What a line has in the columns of the fields and in the gaps makes
    up the beginning of the line. -/
theorem join_weave_slices (ds : List Descriptor) (line : String) :
    String.join (weave ds ((columnsFrom 0 ds).map fun c => c.slice line)
      ((gapsFrom 0 ds).map fun c => c.slice line)) = Text.takeColumns (spanOf ds) line := by
  -- After each descriptor the rest of the line is read, so the induction is over every line.
  induction ds generalizing line with
  | nil => rfl
  | cons d ds ih =>
      have rest : gapsFrom (0 + d.span) ds = (gapsFrom 0 ds).map (Column.shift d.span) :=
        columnsFrom_add 0 d.span _
      rw [columnsFrom_cons, gapsFrom_cons, rest, List.map_append, List.map_append,
        Column.map_slice_shift, Column.map_slice_shift, spanOf_cons, Text.takeColumns_add,
        ← ih (Text.dropColumns d.span line)]
      cases hk : d.kind with
      | skip =>
          rw [columnsOf_of_skip hk, columnsOf_complement_of_skip hk, List.map_nil, List.nil_append,
            List.map_singleton, List.singleton_append, weave_cons_of_skip hk, String.join_cons,
            Column.slice_of_start_eq_zero rfl]
      | field type =>
          have count : ((columnsOf 0 d).map fun c => c.slice line).length = d.count := by
            rw [List.length_map, length_columnsOf_of_field hk]
          rw [columnsOf_complement_of_field hk, List.map_nil, List.nil_append,
            weave_cons_of_field hk ds count, String.join_append, columnsOf_eq_row hk,
            join_slices_row]
          rfl

end Layout

end FixedColumns
