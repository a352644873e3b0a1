import FixedColumns.Proofs.Frame.Columns
import FixedColumns.Proofs.Frame.Schema
import FixedColumns.Proofs.Reader.Score
import FixedColumns.Proofs.Reading.Rows
import FixedColumns.Proofs.Reading.Runs

/-!
# `FixedColumns.Proofs.Frame.Transpose` — a frame is its table by columns

The rows of a table have the types of the reader's fields, and names that differ give a schema with
an entry for each field in order. So every value goes unchanged to the column of its field, and
`Reader.readFrame_transpose` says what reading a frame comes to: it fails where reading the table
does, with the same error, log and rest, and otherwise gives the table's rows by columns.
-/

namespace FixedColumns

namespace Reader

variable {r : Reader} {names : List String}

/-! ## The schema of names that differ -/

/-- If the names differ, there is an entry for each field, with its name and type. -/
theorem schema_of_nodup (hn : names.length = r.size) (distinct : names.Nodup) :
    r.schema names = r.entries names := by
  rw [schema_eq]
  apply Schema.ofList_of_nodup
  rw [map_fst_entries hn]
  exact distinct

/-! ## The types of rows -/

/-- The values of a row are each of the type of their field. -/
def RowTyped (r : Reader) (row : List Value) : Prop :=
  List.Forall₂ (fun c v => v.HasType c.type) r.columns row

theorem rowTyped_of_isRowOf {bytes : List UInt8} {row : List Value}
    (h : r.IsRowOf r.settings bytes row) : r.RowTyped row := by
  obtain ⟨text, _, values⟩ := h
  apply (forall₂_of_read_eq_ok values).imp
  intro c v hv
  exact hv.2

/-- Every row of a table is typed by the fields. -/
theorem rowTyped_of_result_ok {source : List UInt8} {rows : List (List Value)}
    (h : (r.readSource source).result = .ok rows) : ∀ row ∈ rows, r.RowTyped row := by
  intro row hrow
  rw [(readLines_of_result_ok h).2.1] at hrow
  obtain ⟨line, _, isRow⟩ := r.exists_line_of_mem_rows r.settings hrow
  exact rowTyped_of_isRowOf isRow

/-- A typed row has a value at the place of each field, which a column of the field's type takes as
    it is. -/
theorem RowTyped.exists_value {row : List Value} (h : r.RowTyped row) {j : Nat} {c : Column}
    (hc : r.columns[j]? = some c) :
    ∃ v, row[j]? = some v ∧ row[j]?.bind c.type.seriesType.convert = some v := by
  obtain ⟨v, hv, typed⟩ := exists_getElem?_of_forall₂ h hc
  refine ⟨v, hv, ?_⟩
  rw [hv]
  exact SeriesType.convert_of_hasType typed

end Reader

/-! ## The frame of a table -/

/-- The frame has the rows by columns: one for each field under its name, with the values that the
    rows have at its place. -/
structure Frame.Transposes (frame : Frame) (fields : List Column) (names : List String)
    (rows : List (List Value)) : Prop where
  height : frame.height = rows.length
  width : frame.width = fields.length
  column : ∀ (j : Nat) (c : Column) (name : String), fields[j]? = some c → names[j]? = some name →
    ∃ column, frame.columns[j]? = some column ∧ column.name = name ∧
      column.type = (match c.type with
        | .text => .text
        | .integer => .integer
        | .real _ => .real) ∧
      column.values.length = rows.length ∧
      ∀ (i : Nat) (row : List Value), rows[i]? = some row →
        ∃ v, row[j]? = some v ∧ column.values[i]? = some v

namespace Reader

variable {r : Reader} {names : List String} {rows : List (List Value)}

/-- Typed rows make a frame, if the names differ. -/
theorem exists_frame_of_rowTyped (hn : names.length = r.size) (distinct : names.Nodup)
    (typed : ∀ row ∈ rows, r.RowTyped row) :
    ∃ frame, Frame.ofRows? (r.schema names) rows = some frame := by
  refine Frame.exists_ofRows?_iff.mpr ?_
  intro place entry hp row hrow
  rw [schema_of_nodup hn distinct] at hp
  obtain ⟨c, hc, -, type⟩ := getElem?_entries_eq_some_iff.mp hp
  obtain ⟨v, _, hv⟩ := (typed row hrow).exists_value hc
  exact ⟨v, type ▸ hv⟩

/-- The frame of typed rows has them by columns, if the names differ. -/
theorem transposes_of_rowTyped (hn : names.length = r.size) (distinct : names.Nodup)
    (typed : ∀ row ∈ rows, r.RowTyped row) (hs : 0 < r.size) {frame : Frame}
    (h : Frame.ofRows? (r.schema names) rows = some frame) :
    frame.Transposes r.columns names rows := by
  have same := schema_of_nodup hn distinct
  have length : (r.schema names).length = r.columns.length := by
    rw [same, entries, List.length_zipWith, hn, size, Nat.min_self]
  refine ⟨Frame.height_of_ofRows? h ?_, ?_, ?_⟩
  · apply List.ne_nil_of_length_pos
    rw [length]
    exact hs
  · rw [Frame.width_of_ofRows? h, length]
  · intro j c name hc hname
    have entry : (r.schema names)[j]? = some (name, c.type.seriesType) := by
      rw [same]
      exact getElem?_entries_eq_some_iff.mpr ⟨c, hc, hname, rfl⟩
    obtain ⟨column, hcolumn, shows⟩ := Frame.exists_column_of_ofRows? h entry
    refine ⟨column, hcolumn, shows.name, ?_, shows.values.length_eq.symm, ?_⟩
    · rw [shows.type]
      cases c.type with
      | integer => rfl
      | real form => rfl
      | text => rfl
    · intro i row hi
      obtain ⟨v, hv, put⟩ := exists_getElem?_of_forall₂ shows.values hi
      obtain ⟨w, hw, same⟩ := (typed row (List.mem_of_getElem? hi)).exists_value hc
      rw [same] at put
      exact ⟨w, hw, by rw [hv, put]⟩

/-- Without a field there is no column. -/
theorem empty_of_size_eq_zero (hs : r.size = 0) {frame : Frame}
    (h : Frame.ofRows? (r.schema names) rows = some frame) :
    frame.height = 0 ∧ frame.width = 0 := by
  have none : r.schema names = [] := by
    unfold schema
    rw [List.length_eq_zero_iff.mp hs]
    rfl
  rw [none] at h
  rw [← Option.some.inj h]
  exact ⟨rfl, rfl⟩

/-- With a name for every field, the table is read and its rows are put into a frame. -/
theorem readFrame_of_length (hn : names.length = r.size) (source : List UInt8) :
    r.readFrame names source =
      ⟨(r.readSource source).result.bind fun rows =>
          match Frame.ofRows? (r.schema names) rows with
          | some frame => .ok frame
          | none => .error (.unbuildable rows.length (r.schema names).length),
        (r.readSource source).log, (r.readSource source).rest⟩ :=
  if_pos hn.symm

/-- Rows that make a frame are read as that frame. -/
theorem readFrame_of_frame (hn : names.length = r.size) {source : List UInt8}
    (table : (r.readSource source).result = .ok rows) {frame : Frame}
    (made : Frame.ofRows? (r.schema names) rows = some frame) :
    r.readFrame names source =
      ⟨.ok frame, (r.readSource source).log, (r.readSource source).rest⟩ := by
  rw [readFrame_of_length hn, table, Except.bind, made]

/-- Rows that make no frame are counted. -/
theorem readFrame_of_no_frame (hn : names.length = r.size) {source : List UInt8}
    (table : (r.readSource source).result = .ok rows)
    (unmade : Frame.ofRows? (r.schema names) rows = none) :
    r.readFrame names source =
      ⟨.error (.unbuildable rows.length (r.schema names).length), (r.readSource source).log,
        (r.readSource source).rest⟩ := by
  rw [readFrame_of_length hn, table, Except.bind, unmade]

/-- A frame that is read is made of the rows of the table. -/
theorem exists_rows_of_readFrame {source : List UInt8} {frame : Frame}
    (h : (r.readFrame names source).result = .ok frame) :
    names.length = r.size ∧ ∃ rows, (r.readSource source).result = .ok rows ∧
      Frame.ofRows? (r.schema names) rows = some frame := by
  by_cases hn : names.length = r.size
  · refine ⟨hn, ?_⟩
    cases table : (r.readSource source).result with
    | error e =>
        rw [readFrame_of_length hn, table] at h
        cases h
    | ok rows =>
        refine ⟨rows, rfl, ?_⟩
        cases made : Frame.ofRows? (r.schema names) rows with
        | none =>
            rw [readFrame_of_no_frame hn table made] at h
            cases h
        | some other =>
            rw [readFrame_of_frame hn table made] at h
            exact congrArg some (Except.ok.inj h)
  · rw [readFrame, if_neg (Ne.symm hn)] at h
    cases h

/-- **A frame is the transpose of its table.** -/
theorem readFrame_transpose (r : Reader) (names : List String) (source : List UInt8) :
    (names.length = r.size →
      (∀ e, (r.readSource source).result = .error e →
        r.readFrame names source =
          ⟨.error e, (r.readSource source).log, (r.readSource source).rest⟩) ∧
      (names.Nodup → ∀ rows, (r.readSource source).result = .ok rows →
        ∃ frame, r.readFrame names source =
            ⟨.ok frame, (r.readSource source).log, (r.readSource source).rest⟩ ∧
          (0 < r.size → frame.Transposes r.columns names rows) ∧
          (r.size = 0 → frame.height = 0 ∧ frame.width = 0))) ∧
    (names.length ≠ r.size →
      r.readFrame names source = ⟨.error (.columnMismatch r.size names.length), [], source⟩) := by
  refine ⟨?_, ?_⟩
  · intro hn
    refine ⟨?_, ?_⟩
    · intro e he
      rw [readFrame_of_length hn, he, Except.bind]
    · intro distinct rows hrows
      have typed := rowTyped_of_result_ok hrows
      obtain ⟨frame, hframe⟩ := exists_frame_of_rowTyped hn distinct typed
      refine ⟨frame, ?_, ?_, ?_⟩
      · rw [readFrame_of_length hn, hrows, Except.bind, hframe]
      · intro hs
        exact transposes_of_rowTyped hn distinct typed hs hframe
      · intro hs
        exact empty_of_size_eq_zero hs hframe
  · intro hn
    exact if_neg (Ne.symm hn)

/-- A table with a blank line, a line that does not convert, and a name too few. -/
theorem readFrame_transpose_text_integer :
    ∃ r, ofFormat "A1,I2" {} = .ok r ∧
      (∃ frame, r.readFrame ["name", "id"] [120, 32, 49, 10, 10, 121, 50, 50, 10] =
          ⟨.ok frame, [.blank 2], []⟩ ∧
        frame.Transposes r.columns ["name", "id"]
          [[.text "x", .integer 1], [.text "y", .integer 22]]) ∧
      r.readFrame ["name", "id"] [120, 63, 63, 10, 121] =
        ⟨.error (.malformed 1 "x??" ⟨1, 3, .integer, "??", .integer .invalidDigit⟩), [], [121]⟩ ∧
      r.readFrame ["name"] [120, 32, 49] = ⟨.error (.columnMismatch 2 1), [], [120, 32, 49]⟩ := by
  let r : Reader := ⟨"A1,I2", {},
    [⟨1, .field .text, 1, none⟩, ⟨1, .field .integer, 2, none⟩], _, rfl, rfl⟩
  have rows : (r.readSource [120, 32, 49, 10, 10, 121, 50, 50, 10]).result =
      .ok [[.text "x", .integer 1], [.text "y", .integer 22]] := rfl
  have fails : (r.readSource [120, 63, 63, 10, 121]).result =
      .error (.malformed 1 "x??" ⟨1, 3, .integer, "??", .integer .invalidDigit⟩) := rfl
  have distinct : ["name", "id"].Nodup := by decide
  refine ⟨r, rfl, ?_, ?_, ?_⟩
  · obtain ⟨frame, same, byColumns, _⟩ :=
      ((readFrame_transpose r ["name", "id"] _).1 rfl).2 distinct _ rows
    exact ⟨frame, same, byColumns Nat.zero_lt_two⟩
  · exact ((readFrame_transpose r ["name", "id"] _).1 rfl).1 _ fails
  · exact (readFrame_transpose r ["name"] [120, 32, 49]).2 (by decide)

end Reader

end FixedColumns
