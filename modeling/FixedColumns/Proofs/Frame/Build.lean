import FixedColumns.Proofs.Frame.Conversion
import FixedColumns.Proofs.Frame.Transpose
import FixedColumns.Proofs.Reading.Composition

/-!
# `FixedColumns.Proofs.Frame.Build` — when rows make a frame

Under names that are repeated a column can have another type than the values that are put into it.
Every row has a value at the place of every entry of the schema, so rows make no frame exactly if some
row has, at the place of an entry, a value that the entry's type refuses
(`Frame.exists_ofRows?_iff_not_refuses`). `Reader.readFrame_builds_unless_refused` says so of a source,
and what frame the rows make otherwise.
-/

namespace FixedColumns

/-- The row has, at the place of an entry, a value that the entry's type does not take. -/
def Schema.Refuses (schema : Schema) (row : List Value) : Prop :=
  ∃ (p : Nat) (entry : String × SeriesType) (v : Value),
    schema[p]? = some entry ∧ row[p]? = some v ∧ entry.2.Refuses v

/-- The frame has exactly the columns of the schema. The values at a place of the rows are converted
    in the column at that place, and those at the places after the last column are left out. -/
structure Frame.BuiltFrom (frame : Frame) (schema : Schema) (rows : List (List Value)) : Prop where
  columns : frame.columns.map (fun column => (column.name, column.type)) = schema
  values : ∀ (p : Nat) (column : Series), frame.columns[p]? = some column →
    List.Forall₂ (fun row w => ∃ v, row[p]? = some v ∧ column.type.Converts v w) rows column.values

namespace Frame

variable {rows : List (List Value)} {schema : Schema} {frame : Frame}

theorem builtFrom_of_ofRows? (h : ofRows? schema rows = some frame) :
    frame.BuiltFrom schema rows := by
  refine ⟨entries_of_ofRows? h, ?_⟩
  intro p column hc
  apply (shows_of_getElem?_columns h hc).2.values.imp
  intro row w hw
  obtain ⟨v, here, converted⟩ := Option.bind_eq_some_iff.mp hw
  exact ⟨v, here, SeriesType.convert_eq_some_iff.mp converted⟩

/-- A value that a column takes is one that its type does not refuse. -/
theorem exists_converted_iff {type : SeriesType} {row : List Value} {p : Nat} {v : Value}
    (here : row[p]? = some v) :
    (∃ w, row[p]?.bind type.convert = some w) ↔ ¬ type.Refuses v := by
  rw [here, Option.bind_some, ← Option.ne_none_iff_exists', Ne, SeriesType.convert_eq_none_iff]

/-- **Rows make a frame** exactly if the schema refuses none of them, so long as they have a value for
    every column. -/
theorem exists_ofRows?_iff_not_refuses (wide : ∀ row ∈ rows, schema.length ≤ row.length) :
    (∃ frame, ofRows? schema rows = some frame) ↔ ∀ row ∈ rows, ¬ schema.Refuses row := by
  rw [exists_ofRows?_iff]
  constructor
  · rintro takes row hrow ⟨p, entry, v, hp, here, refuses⟩
    exact (exists_converted_iff here).mp (takes p entry hp row hrow) refuses
  · intro taken p entry hp row hrow
    have inside : p < row.length :=
      Nat.lt_of_lt_of_le (List.getElem?_eq_some_iff.mp hp).1 (wide row hrow)
    have here : row[p]? = some row[p] := List.getElem?_eq_getElem inside
    apply (exists_converted_iff here).mpr
    intro refuses
    exact taken row hrow ⟨p, entry, _, hp, here, refuses⟩

/-- Rows that make no frame have one among them that the schema refuses. -/
theorem ofRows?_eq_none_iff (wide : ∀ row ∈ rows, schema.length ≤ row.length) :
    ofRows? schema rows = none ↔ ∃ row ∈ rows, schema.Refuses row := by
  rw [← not_iff_not, ← Ne, Option.ne_none_iff_exists', exists_ofRows?_iff_not_refuses wide]
  simp only [not_exists, not_and]

end Frame

namespace Reader

variable {r : Reader} {names : List String} {source : List UInt8} {rows : List (List Value)}

/-- The rows of a table have a value for every column of a frame. -/
theorem length_schema_le_of_result_ok (hn : names.length = r.size)
    (table : (r.readSource source).result = .ok rows) :
    ∀ row ∈ rows, (r.schema names).length ≤ row.length := by
  intro row hrow
  have typed : r.RowTyped row := rowTyped_of_result_ok table row hrow
  calc (r.schema names).length ≤ r.size := length_schema_le hn
    _ = row.length := typed.length_eq

/-- **A frame is built unless a value is refused.** -/
theorem readFrame_builds_unless_refused (hn : names.length = r.size)
    (table : (r.readSource source).result = .ok rows) :
    r.IsSchema names (r.schema names) ∧
    ((r.readFrame names source).result =
        .error (.unbuildable rows.length (r.schema names).length) ↔
      ∃ row ∈ rows, (r.schema names).Refuses row) ∧
    ((∀ row ∈ rows, ¬ (r.schema names).Refuses row) →
      ∃ frame, (r.readFrame names source).result = .ok frame ∧
        frame.BuiltFrom (r.schema names) rows) ∧
    (r.readFrame names source).log = (r.readSource source).log ∧
    (r.readFrame names source).rest = [] := by
  have rest : (r.readSource source).rest = [] := rest_of_result_ok table
  have wide := length_schema_le_of_result_ok hn table
  refine ⟨isSchema_schema hn, ?_⟩
  cases made : Frame.ofRows? (r.schema names) rows with
  | some frame =>
      have taken := (Frame.exists_ofRows?_iff_not_refuses wide).mp ⟨frame, made⟩
      rw [readFrame_of_frame hn table made, rest]
      refine ⟨⟨?_, ?_⟩, ?_, rfl, rfl⟩
      · intro h
        cases h
      · rintro ⟨row, hrow, refuses⟩
        exact absurd refuses (taken row hrow)
      · intro _
        exact ⟨frame, rfl, Frame.builtFrom_of_ofRows? made⟩
  | none =>
      obtain ⟨row, hrow, refuses⟩ := (Frame.ofRows?_eq_none_iff wide).mp made
      rw [readFrame_of_no_frame hn table made, rest]
      refine ⟨⟨?_, fun _ => rfl⟩, ?_, rfl, rfl⟩
      · intro _
        exact ⟨row, hrow, refuses⟩
      · intro taken
        exact absurd refuses (taken row hrow)

/-- A name that is given twice, to a text and then to an integer, and one that is given to the first
    and the last of three fields. -/
theorem readFrame_builds_unless_refused_repeated :
    (∃ r, ofFormat "A1,I1" {} = .ok r ∧
      (r.readFrame ["a", "a"] [120, 55, 10]).result = .error (.unbuildable 1 1)) ∧
    ∃ r frame, ofFormat "I1,A1,I1" {} = .ok r ∧
      (r.readFrame ["a", "b", "a"] [49, 120, 50, 10]).result = .ok frame ∧
      frame.BuiltFrom [("a", .integer), ("b", .text)] [[.integer 1, .text "x", .integer 2]] := by
  let r : Reader := ⟨"A1,I1", {},
    [⟨1, .field .text, 1, none⟩, ⟨1, .field .integer, 1, none⟩], _, rfl, rfl⟩
  let s : Reader := ⟨"I1,A1,I1", {},
    [⟨1, .field .integer, 1, none⟩, ⟨1, .field .text, 1, none⟩, ⟨1, .field .integer, 1, none⟩], _,
    rfl, rfl⟩
  refine ⟨⟨r, rfl, ?_⟩, ?_⟩
  · have table : (r.readSource [120, 55, 10]).result = .ok [[.text "x", .integer 7]] := rfl
    have refused : (r.schema ["a", "a"]).Refuses [.text "x", .integer 7] :=
      ⟨0, ("a", .integer), .text "x", rfl, rfl, .text (by decide) "x"⟩
    exact (readFrame_builds_unless_refused rfl table).2.1.mpr ⟨_, List.mem_singleton_self _, refused⟩
  · have hn : ["a", "b", "a"].length = s.size := rfl
    have table : (s.readSource [49, 120, 50, 10]).result =
        .ok [[.integer 1, .text "x", .integer 2]] := rfl
    have schema : s.schema ["a", "b", "a"] = [("a", .integer), ("b", .text)] := rfl
    have read : (s.readFrame ["a", "b", "a"] [49, 120, 50, 10]).result =
        .ok ⟨[⟨"a", .integer, [.integer 1]⟩, ⟨"b", .text, [.text "x"]⟩]⟩ := rfl
    obtain ⟨-, refused, built, -⟩ := readFrame_builds_unless_refused hn table
    obtain ⟨frame, ok, made⟩ := built fun row hrow h => by
      rw [read] at refused
      cases refused.mpr ⟨row, hrow, h⟩
    exact ⟨s, frame, rfl, ok, schema ▸ made⟩

end Reader

end FixedColumns
