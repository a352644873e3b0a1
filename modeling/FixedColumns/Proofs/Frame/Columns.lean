import FixedColumns.Frame
import FixedColumns.Proofs.Traversal

/-!
# `FixedColumns.Proofs.Frame.Columns` — the columns that rows give

A frame has a column for every entry of its schema, and the values of the column are those at the
entry's place in the rows, converted to its type: `Frame.ofRows?_eq_some_iff`. There is such a frame
exactly if every row has a value at every place that converts: `Frame.exists_ofRows?_iff`.
-/

namespace FixedColumns

/-- The column has the name and type of an entry and, for each row, the value at a place of it,
    converted to the type. -/
structure Series.Shows (column : Series) (rows : List (List Value)) (place : Nat)
    (entry : String × SeriesType) : Prop where
  name : column.name = entry.1
  type : column.type = entry.2
  values : List.Forall₂ (fun row v => row[place]?.bind entry.2.convert = some v) rows column.values

/-- Every row has a value at the place that can be put into a column of the type. -/
def SeriesType.Takes (type : SeriesType) (rows : List (List Value)) (place : Nat) : Prop :=
  ∀ row ∈ rows, ∃ v, row[place]?.bind type.convert = some v

namespace Frame

variable {rows : List (List Value)} {schema : Schema} {frame : Frame}

/-! ## One column -/

theorem series?_eq_some_iff {place : Nat} {entry : String × SeriesType} {column : Series} :
    series? rows place entry = some column ↔ column.Shows rows place entry := by
  unfold series?
  rw [Option.map_eq_some_iff]
  constructor
  · rintro ⟨values, each, rfl⟩
    exact ⟨rfl, rfl, mapM_eq_some_iff.mp each⟩
  · intro h
    obtain ⟨name, type, values⟩ := column
    obtain ⟨rfl, rfl, each⟩ := h
    exact ⟨values, mapM_eq_some_iff.mpr each, rfl⟩

theorem exists_series?_iff {place : Nat} {entry : String × SeriesType} :
    (∃ column, series? rows place entry = some column) ↔ entry.2.Takes rows place := by
  constructor
  · rintro ⟨column, h⟩ row hrow
    have pairs := (series?_eq_some_iff.mp h).values
    obtain ⟨i, hi⟩ := List.mem_iff_getElem?.mp hrow
    obtain ⟨v, _, hv⟩ := exists_getElem?_of_forall₂ pairs hi
    exact ⟨v, hv⟩
  · intro takes
    obtain ⟨values, each⟩ := exists_mapM_eq_some takes
    refine ⟨⟨entry.1, entry.2, values⟩, ?_⟩
    unfold series?
    rw [each]
    rfl

/-! ## All columns -/

/-- Columns are made one after the other, for the entries with their places. -/
theorem columns?_eq_mapM (place : Nat) (schema : Schema) :
    columns? rows place schema = (schema.zipIdx place).mapM fun p => series? rows p.2 p.1 := by
  induction schema generalizing place with
  | nil => rfl
  | cons entry schema ih => rw [columns?, ih, List.zipIdx_cons, List.mapM_cons]

/-- The columns of a frame are those of the entries of its schema. -/
theorem ofRows?_eq_some_iff :
    ofRows? schema rows = some frame ↔
      List.Forall₂ (fun p column => column.Shows rows p.2 p.1) schema.zipIdx frame.columns := by
  unfold ofRows?
  rw [Option.map_eq_some_iff, columns?_eq_mapM]
  constructor
  · rintro ⟨columns, each, rfl⟩
    apply (mapM_eq_some_iff.mp each).imp
    intro p column made
    exact series?_eq_some_iff.mp made
  · intro shown
    refine ⟨frame.columns, mapM_eq_some_iff.mpr ?_, rfl⟩
    apply shown.imp
    intro p column shows
    exact series?_eq_some_iff.mpr shows

/-- The column at the place of an entry shows it. -/
theorem exists_column_of_ofRows? (h : ofRows? schema rows = some frame) {place : Nat}
    {entry : String × SeriesType} (hp : schema[place]? = some entry) :
    ∃ column, frame.columns[place]? = some column ∧ column.Shows rows place entry := by
  have hz : schema.zipIdx[place]? = some (entry, place) := by
    rw [List.getElem?_zipIdx, hp, Nat.zero_add]
    rfl
  exact exists_getElem?_of_forall₂ (ofRows?_eq_some_iff.mp h) hz

/-- A column of a frame shows the entry at its place. -/
theorem shows_of_getElem?_columns (h : ofRows? schema rows = some frame) {place : Nat}
    {column : Series} (hc : frame.columns[place]? = some column) :
    schema[place]? = some (column.name, column.type) ∧
      column.Shows rows place (column.name, column.type) := by
  obtain ⟨p, hp, shows⟩ := exists_getElem?_of_forall₂ (ofRows?_eq_some_iff.mp h).flip hc
  rw [List.getElem?_zipIdx, Option.map_eq_some_iff] at hp
  obtain ⟨entry, here, rfl⟩ := hp
  have same : entry = (column.name, column.type) := Prod.ext shows.name.symm shows.type.symm
  rw [Nat.zero_add] at shows
  exact ⟨same ▸ here, same ▸ shows⟩

/-- Rows make a frame exactly if each has a value for every column. -/
theorem exists_ofRows?_iff :
    (∃ frame, ofRows? schema rows = some frame) ↔
      ∀ (place : Nat) (entry : String × SeriesType), schema[place]? = some entry →
        entry.2.Takes rows place := by
  constructor
  · rintro ⟨frame, h⟩ place entry hp
    obtain ⟨column, _, shows⟩ := exists_column_of_ofRows? h hp
    exact exists_series?_iff.mp ⟨column, series?_eq_some_iff.mpr shows⟩
  · intro takes
    have each : ∀ p ∈ schema.zipIdx, ∃ column, series? rows p.2 p.1 = some column := by
      intro p hp
      exact exists_series?_iff.mpr (takes p.2 p.1 (List.mem_zipIdx_iff_getElem?.mp hp))
    obtain ⟨columns, made⟩ := exists_mapM_eq_some each
    refine ⟨⟨columns⟩, ?_⟩
    unfold ofRows?
    rw [columns?_eq_mapM, made]
    rfl

/-- A frame has a column for each entry of its schema. -/
theorem width_of_ofRows? (h : ofRows? schema rows = some frame) : frame.width = schema.length := by
  have pairs := (ofRows?_eq_some_iff.mp h).length_eq
  rw [List.length_zipIdx] at pairs
  exact pairs.symm

/-- The columns have the names and types of the entries of the schema. -/
theorem entries_of_ofRows? (h : ofRows? schema rows = some frame) :
    frame.columns.map (fun column => (column.name, column.type)) = schema := by
  apply List.ext_getElem?
  intro place
  rw [List.getElem?_map]
  cases hc : frame.columns[place]? with
  | some column => exact (shows_of_getElem?_columns h hc).1.symm
  | none =>
      have length : frame.columns.length = schema.length := width_of_ofRows? h
      rw [List.getElem?_eq_none_iff, length, ← List.getElem?_eq_none_iff] at hc
      rw [hc]
      rfl

/-- A frame with a column has as many rows as it was made from. -/
theorem height_of_ofRows? (h : ofRows? schema rows = some frame) (hs : schema ≠ []) :
    frame.height = rows.length := by
  obtain ⟨entry, more, rfl⟩ := List.exists_cons_of_ne_nil hs
  have here : (entry :: more)[0]? = some entry := rfl
  obtain ⟨column, first, shows⟩ := exists_column_of_ofRows? h here
  obtain ⟨columns⟩ := frame
  cases columns with
  | nil => exact nomatch first
  | cons other more =>
      rw [Option.some.inj first]
      exact shows.values.length_eq.symm

end Frame

end FixedColumns
