import FixedColumns.Proofs.Frame.Transpose

/-!
# `FixedColumns.Proofs.Frame.Names` — whose values a column shows

Names are put into the schema of a frame, where a name that is repeated takes no further place, while
values go to the columns by their places in the rows. So a column shows the field at its own place,
and this field was given the column's name just as long as no name has been repeated up to there:
`Reader.readFrame_columns_by_place`. After a repetition the two are out of step, and a column can show
the values of a field that was given another name.
-/

namespace FixedColumns

/-- The column shows a field that was given its name. -/
def Series.ShowsNamesake (column : Series) (fields : List Column) (names : List String)
    (rows : List (List Value)) : Prop :=
  ∃ (j : Nat) (c : Column), fields[j]? = some c ∧ names[j]? = some column.name ∧
    column.Shows rows j (column.name, column.type)

namespace Reader

variable {r : Reader} {names : List String} {source : List UInt8} {frame : Frame}

/-- The name of a column is the one kept at its place. -/
theorem name_of_getElem?_columns (hn : names.length = r.size) {rows : List (List Value)}
    (made : Frame.ofRows? (r.schema names) rows = some frame) {p : Nat} {column : Series}
    (hc : frame.columns[p]? = some column) : names.eraseDups[p]? = some column.name := by
  rw [← names_schema hn, List.getElem?_map, (Frame.shows_of_getElem?_columns made hc).1]
  rfl

/-- **A column shows the field at its place,** which was given the column's name exactly if no name is
    repeated up to there. If none is repeated so far as there are columns, each column shows a field
    that was given its name. -/
theorem readFrame_columns_by_place (h : (r.readFrame names source).result = .ok frame) :
    ∃ rows, (r.readSource source).result = .ok rows ∧
      frame.columns.map Series.name = names.eraseDups ∧
      (∀ (p : Nat) (column : Series), frame.columns[p]? = some column →
        (∃ c, r.columns[p]? = some c) ∧ column.Shows rows p (column.name, column.type) ∧
        (names[p]? = some column.name ↔ (names.take (p + 1)).Nodup)) ∧
      ((names.take frame.width).Nodup →
        ∀ column ∈ frame.columns, column.ShowsNamesake r.columns names rows) := by
  obtain ⟨hn, rows, table, made⟩ := exists_rows_of_readFrame h
  have named : frame.columns.map Series.name = names.eraseDups := by
    rw [← names_schema hn, ← Frame.entries_of_ofRows? made, List.map_map]
    rfl
  have width : frame.width ≤ r.size := by
    rw [Frame.width_of_ofRows? made]
    exact length_schema_le hn
  have byPlace : ∀ (p : Nat) (column : Series), frame.columns[p]? = some column →
      (∃ c, r.columns[p]? = some c) ∧ column.Shows rows p (column.name, column.type) ∧
      (names[p]? = some column.name ↔ (names.take (p + 1)).Nodup) := by
    intro p column hc
    have inside : p < r.columns.length :=
      Nat.lt_of_lt_of_le (List.getElem?_eq_some_iff.mp hc).1 width
    refine ⟨⟨_, List.getElem?_eq_getElem inside⟩, (Frame.shows_of_getElem?_columns made hc).2, ?_⟩
    exact getElem?_eraseDups_iff (name_of_getElem?_columns hn made hc)
  refine ⟨rows, table, named, byPlace, ?_⟩
  intro distinct column hcolumn
  obtain ⟨p, hc⟩ := List.mem_iff_getElem?.mp hcolumn
  obtain ⟨⟨c, field⟩, shows, own⟩ := byPlace p column hc
  have before : p + 1 ≤ frame.width := (List.getElem?_eq_some_iff.mp hc).1
  have upTo : (names.take (p + 1)).Nodup := distinct.sublist (List.take_sublist_take_left before)
  exact ⟨p, c, field, own.mpr upTo, shows⟩

/-- A name that is repeated after all columns have been named. -/
theorem readFrame_columns_by_place_last :
    ∃ r frame rows, ofFormat "3I1" {} = .ok r ∧
      (r.readFrame ["a", "b", "a"] [49, 50, 51, 10]).result = .ok frame ∧
      (r.readSource [49, 50, 51, 10]).result = .ok rows ∧ (["a", "b", "a"].take frame.width).Nodup ∧
      ∀ column ∈ frame.columns, column.ShowsNamesake r.columns ["a", "b", "a"] rows := by
  let r : Reader := ⟨"3I1", {}, [⟨3, .field .integer, 1, none⟩], _, rfl, rfl⟩
  let frame : Frame := ⟨[⟨"a", .integer, [.integer 1]⟩, ⟨"b", .integer, [.integer 2]⟩]⟩
  have read : (r.readFrame ["a", "b", "a"] [49, 50, 51, 10]).result = .ok frame := rfl
  have distinct : (["a", "b", "a"].take frame.width).Nodup := by decide
  obtain ⟨rows, table, -, -, namesakes⟩ := readFrame_columns_by_place read
  exact ⟨r, frame, rows, rfl, read, table, distinct, namesakes distinct⟩

/-- **After a repetition values stand under another name.** The first two of three fields are both
    named `a`, and what the second one holds stands under the name of the third. -/
theorem exists_column_without_namesake :
    ∃ r frame rows, ofFormat "3I1" {} = .ok r ∧
      (r.readFrame ["a", "a", "b"] [49, 49, 51, 10]).result = .ok frame ∧
      (r.readSource [49, 49, 51, 10]).result = .ok rows ∧
      ∃ column ∈ frame.columns, ¬ column.ShowsNamesake r.columns ["a", "a", "b"] rows := by
  let r : Reader := ⟨"3I1", {}, [⟨3, .field .integer, 1, none⟩], _, rfl, rfl⟩
  let a : Series := ⟨"a", .integer, [.integer 1]⟩
  let b : Series := ⟨"b", .integer, [.integer 1]⟩
  refine ⟨r, ⟨[a, b]⟩, [[.integer 1, .integer 1, .integer 3]], rfl, rfl, rfl, b,
    List.mem_cons_of_mem _ (List.mem_singleton_self b), ?_⟩
  rintro ⟨j, c, -, name, shows⟩
  -- The third field alone is named `b`, and it holds a 3.
  rcases j with _ | _ | _ | j
  · exact absurd name (by decide)
  · exact absurd name (by decide)
  · exact absurd (mapM_eq_some_iff.mpr shows.values) (by decide)
  · cases name

end Reader

end FixedColumns
