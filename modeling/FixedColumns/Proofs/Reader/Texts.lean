import FixedColumns.Proofs.Format.Pieces
import FixedColumns.Proofs.Layout.Weave
import FixedColumns.Proofs.Reader.Formats

/-!
# `FixedColumns.Proofs.Reader.Texts` — a line by the texts in its columns

Reading a line is converting the texts that it has in the columns of the fields. So a line that is
put together from such texts reads as they convert, `Reader.weave_inverse_slice`, and what a line
has in other columns makes no difference to what is read, `Reader.readAlike_of_agree`.
-/

namespace FixedColumns

/-- The value of a text that stands in a field's columns. -/
def Column.convertText (c : Column) (trimText : Bool) (text : String) : Except FieldError Value :=
  (c.type.convert trimText text).mapError (⟨c.start, c.stop, c.type, text, ·⟩)

namespace Reader

variable (r : Reader)

/-- The texts that a line has in the columns of the fields. -/
def slices (line : String) : List String := r.columns.map fun c => c.slice line

/-- The values of texts, one for each field and in the same order. The error is that of the first
    text that does not convert. -/
def convertTexts (trimText : Bool) (texts : List String) : Except FieldError (List Value) :=
  (r.columns.zip texts).mapM fun p => p.1.convertText trimText p.2

/-- The columns that the format skips. -/
def gaps : List Column := Layout.gapsFrom 0 r.descriptors

theorem zip_columns_slices (line : String) :
    r.columns.zip (r.slices line) = r.columns.map fun c => (c, c.slice line) := by
  unfold slices
  rw [← List.zip_map', List.map_id']

/-- Reading a line is converting the texts in its columns. -/
theorem readTrimming_eq_convertTexts (trimText : Bool) (line : String) :
    r.readTrimming trimText line = r.convertTexts trimText (r.slices line) := by
  unfold readTrimming convertTexts
  rw [zip_columns_slices, List.mapM_map]
  show r.columns.mapM (fun c => c.read trimText line) =
    r.columns.mapM fun c => c.convertText trimText (c.slice line)
  rfl

/-- How many fields of a line convert depends on the texts in its columns. -/
theorem score_eq_countP_slices (line : String) :
    r.score line = (r.columns.zip (r.slices line)).countP fun p =>
      (p.1.convertText r.settings.trimText p.2).isOk := by
  unfold score
  rw [zip_columns_slices, List.countP_map]
  show r.columns.countP (fun c => (c.read r.settings.trimText line).isOk) =
    r.columns.countP fun c => (c.convertText r.settings.trimText (c.slice line)).isOk
  rfl

/-- Two lines have the same values, or the same error, and as many fields that convert. -/
def ReadAlike (line other : String) : Prop :=
  r.read line = r.read other ∧ r.score line = r.score other

/-- Lines with the same texts in the columns of the fields read alike. -/
theorem readAlike_of_slices_eq {line other : String} (h : r.slices line = r.slices other) :
    r.ReadAlike line other := by
  unfold ReadAlike read
  constructor
  · rw [readTrimming_eq_convertTexts, readTrimming_eq_convertTexts, h]
  · rw [score_eq_countP_slices, score_eq_countP_slices, h]

/-! ## Lines that are put together from texts -/

/-- In a format a skip covers as many columns as it counts. -/
theorem span_of_skip {d : Descriptor} (hd : d ∈ r.descriptors) (hk : d.kind.isSkip = true) :
    d.span = d.count := by
  have width := (Format.readable_of_parse r.parsed d hd).skip hk
  unfold Descriptor.span
  rw [width, Nat.mul_one]

/-- **Weaving and slicing are inverse.** -/
theorem weave_inverse_slice :
    (∀ texts fillers tail,
      texts.map String.length = r.columns.map Column.width →
      fillers.map String.length =
        (r.descriptors.filter fun d => d.kind.isSkip).map Descriptor.count →
      r.slices (String.join (Layout.weave r.descriptors texts fillers) ++ tail) = texts ∧
      r.read (String.join (Layout.weave r.descriptors texts fillers) ++ tail) =
        r.convertTexts r.settings.trimText texts) ∧
    ∀ line,
      String.join (Layout.weave r.descriptors (r.slices line)
        (r.gaps.map fun gap => gap.slice line)) = Text.takeColumns r.layout.width line ∧
      (r.layout.width ≤ line.length →
        (Text.takeColumns r.layout.width line).length = r.layout.width) := by
  constructor
  · intro texts fillers tail ht hf
    have spans : (r.descriptors.filter fun d => d.kind.isSkip).map Descriptor.count =
        (r.descriptors.filter fun d => d.kind.isSkip).map Descriptor.span := by
      apply List.map_congr_left
      intro d hd
      obtain ⟨hm, hk⟩ := List.mem_filter.mp hd
      exact (r.span_of_skip hm hk).symm
    have cut : r.slices (String.join (Layout.weave r.descriptors texts fillers) ++ tail) =
        texts := by
      unfold slices
      rw [columns_eq] at ht ⊢
      exact Layout.map_slice_weave ht (hf.trans spans) tail
    refine ⟨cut, ?_⟩
    unfold read
    rw [readTrimming_eq_convertTexts, cut]
  · intro line
    constructor
    · unfold slices gaps
      rw [columns_eq, width_eq]
      exact Layout.join_weave_slices r.descriptors line
    · intro h
      exact Text.length_takeColumns h

/-- A text in one column, twice, and an integer in two, with two columns to skip between them. -/
theorem weave_inverse_slice_two_texts_integer :
    ∃ r, ofFormat "2A1,2X,I2" {} = .ok r ∧
      r.slices "éb☃x42!" = ["é", "b", "42"] ∧
      r.read "éb☃x42!" = .ok [.text "é", .text "b", .integer 42] := by
  have parsed : Format.parse "2A1,2X,I2".toList = .ok
      [⟨2, .field .text, 1, none⟩, ⟨2, .skip, 1, none⟩, ⟨1, .field .integer, 2, none⟩] := by rfl
  obtain ⟨r, made, settings, descriptors⟩ := exists_ofFormat parsed {}
  have columns := r.columns_eq
  have woven := r.weave_inverse_slice.1 ["é", "b", "42"] ["☃x"] "!"
  rw [columns, descriptors] at woven
  obtain ⟨cut, values⟩ := woven (by decide) (by decide)
  have line : String.join (Layout.weave
      [⟨2, .field .text, 1, none⟩, ⟨2, .skip, 1, none⟩, ⟨1, .field .integer, 2, none⟩]
      ["é", "b", "42"] ["☃x"]) ++ "!" = "éb☃x42!" := by decide
  have converted : r.convertTexts r.settings.trimText ["é", "b", "42"] =
      .ok [.text "é", .text "b", .integer 42] := by
    unfold convertTexts
    rw [columns, descriptors, settings]
    rfl
  rw [line] at cut values
  exact ⟨r, made, cut, values.trans converted⟩

/-! ## Columns that make no difference -/

/-- Two lines have the same characters in the columns of the fields, so far as either has any. -/
def Agree (line other : String) : Prop :=
  ∀ c ∈ r.columns, ∀ p, c.start ≤ p → p < c.stop → line.toList[p]? = other.toList[p]?

/-- Two lines have the same characters in all columns of the format but the skipped ones. -/
def AgreeOutsideGaps (line other : String) : Prop :=
  ∀ p < r.layout.width, (∀ gap ∈ r.gaps, ¬ (gap.start ≤ p ∧ p < gap.stop)) →
    line.toList[p]? = other.toList[p]?

variable {r}

/-- Lines that agree have the same texts in the columns of the fields. -/
theorem Agree.slices_eq {line other : String} (h : r.Agree line other) :
    r.slices line = r.slices other := by
  unfold slices
  apply List.map_congr_left
  intro c hc
  apply String.toList_injective
  rw [Column.toList_slice, Column.toList_slice]
  -- Character by character, whatever number of bytes the ones before it take.
  apply List.ext_getElem?
  intro i
  by_cases hi : i < c.width
  · rw [List.getElem?_take_of_lt hi, List.getElem?_take_of_lt hi, List.getElem?_drop,
      List.getElem?_drop]
    exact h c hc (c.start + i) (Nat.le_add_right ..) (Nat.add_lt_add_left hi c.start)
  · rw [List.getElem?_take_eq_none (by omega), List.getElem?_take_eq_none (by omega)]

/-- Lines that agree but for skipped columns, and what is past the last column, agree. -/
theorem AgreeOutsideGaps.agree {line other : String} (h : r.AgreeOutsideGaps line other) :
    r.Agree line other := by
  intro c hc p start stop
  rw [columns_eq] at hc
  have within := (Layout.bounds_of_mem_columnsFrom hc).2
  apply h p
  · rw [width_eq]
    omega
  · rintro gap hg ⟨start', stop'⟩
    rcases Layout.apart_of_mem hc hg with before | after
    · omega
    · omega

/-- **Reading sees the columns of the fields only.** -/
theorem readAlike_of_agree (line other : String) :
    (r.Agree line other → r.ReadAlike line other) ∧
    (r.AgreeOutsideGaps line other → r.ReadAlike line other) := by
  have seen : r.Agree line other → r.ReadAlike line other := by
    intro h
    exact r.readAlike_of_slices_eq h.slices_eq
  refine ⟨seen, ?_⟩
  intro h
  exact seen h.agree

/-- Characters of several bytes in the skipped columns and after the last one. -/
theorem readAlike_of_agree_several_bytes :
    ∃ r, ofFormat "I2,2X,A1" {} = .ok r ∧ r.AgreeOutsideGaps "42  x" "42é☃x😀" ∧
      r.ReadAlike "42  x" "42é☃x😀" := by
  have parsed : Format.parse "I2,2X,A1".toList = .ok
      [⟨1, .field .integer, 2, none⟩, ⟨2, .skip, 1, none⟩, ⟨1, .field .text, 1, none⟩] := by rfl
  obtain ⟨r, made, _, descriptors⟩ := exists_ofFormat parsed {}
  have agree : r.AgreeOutsideGaps "42  x" "42é☃x😀" := by
    unfold AgreeOutsideGaps gaps
    rw [width_eq, descriptors]
    decide
  exact ⟨r, made, agree, (readAlike_of_agree "42  x" "42é☃x😀").2 agree⟩

end Reader

end FixedColumns
