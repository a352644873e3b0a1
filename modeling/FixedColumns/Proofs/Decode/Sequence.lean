import FixedColumns.Decode.Line
import FixedColumns.Proofs.Traversal

/-!
# `FixedColumns.Proofs.Decode.Sequence` — decoding the values of a line one after the other

A tuple takes as many values as it has items. `Shape.takeValues_eq` says that taking them is going
through the items and values that stand opposite each other, and then looking at what is left on
either side. So a fault of an element goes before any of their number,
`Shape.ofValues_tuple_of_firstError`. A list takes all the values there are and has no fault of its
own. `Reader.decode_sequence` puts this together with the reading of the line.
-/

namespace FixedColumns

/-! ## Reports on the number of values -/

theorem DecodeFault.message_tooFew_tuple (count : Nat) (shapes : List Shape) :
    (DecodeFault.tooFew count (.tuple shapes)).message =
      s!"invalid length {count}, expected a tuple of size {shapes.length}" := by
  have words : ", expected a tuple of size " = ", expected " ++ "a tuple of size " := by decide
  show "invalid length " ++ toString count ++ ", expected " ++
      ("a tuple of size " ++ toString shapes.length) =
    "invalid length " ++ toString count ++ ", expected a tuple of size " ++
      toString shapes.length
  rw [words]
  simp only [String.append_assoc]

theorem DecodeFault.message_tooMany (count taken : Nat) :
    (DecodeFault.tooMany count taken).message =
      if taken = 1 then s!"invalid length {count}, expected 1 element in sequence"
      else s!"invalid length {count}, expected {taken} elements in sequence" := by
  show "invalid length " ++ toString count ++ ", expected " ++ elementCount taken ++
    " in sequence" = _
  unfold elementCount
  by_cases one : taken = 1
  · have words : ", expected 1 element in sequence" =
        ", expected " ++ "1 element" ++ " in sequence" := by decide
    rw [if_pos one, if_pos one]
    show _ = "invalid length " ++ toString count ++ ", expected 1 element in sequence"
    rw [words]
    simp only [String.append_assoc]
  · have words : " elements in sequence" = " elements" ++ " in sequence" := by decide
    rw [if_neg one, if_neg one]
    show _ ++ (toString taken ++ " elements") ++ _ =
      "invalid length " ++ toString count ++ ", expected " ++ toString taken ++
        " elements in sequence"
    rw [words]
    simp only [String.append_assoc]

namespace Shape

/-! ## Values and the shapes opposite them -/

/-- Decodes a value into the shape that stands opposite it. -/
def decodePair (p : Shape × Value) : Except DecodeFault Decoded := p.1.ofValue p.2

/-- Taking values is decoding those that have a shape opposite them, and keeping the rest if there
    is a value for every shape. -/
theorem takeValues_eq (shapes : List Shape) (values : List Value) :
    takeValues shapes values =
      ((shapes.zip values).mapM decodePair).map fun results =>
        if shapes.length ≤ values.length then some (results, values.drop shapes.length)
        else none := by
  induction shapes generalizing values with
  | nil => rfl
  | cons shape shapes ih =>
      cases values with
      | nil => rfl
      | cons v values =>
          rw [takeValues, ih, List.zip_cons_cons, List.mapM_cons]
          show (shape.ofValue v >>= fun first => _) =
            Except.map _ (shape.ofValue v >>= fun first => _)
          cases shape.ofValue v with
          | error fault => rfl
          | ok first =>
              cases (shapes.zip values).mapM decodePair with
              | error fault => rfl
              | ok results =>
                  by_cases h : shapes.length ≤ values.length
                  · simp [Except.map, h, bind, Except.bind, pure, Except.pure]
                  · simp [Except.map, h, bind, Except.bind, pure, Except.pure]

/-- A shape of several items is filled by decoding the values opposite them, and then there must be
    neither too few of them nor too many. -/
theorem fill_eq (shape : Shape) (values : List Value) :
    shape.fill values =
      ((shape.items.zip values).mapM decodePair).bind fun results =>
        if values.length < shape.items.length then .error (.tooFew values.length shape)
        else if shape.items.length < values.length then
          .error (.tooMany values.length shape.items.length)
        else .ok results := by
  cases each : (shape.items.zip values).mapM decodePair with
  | error fault =>
      unfold fill
      rw [takeValues_eq, each]
      rfl
  | ok results =>
      have taken : takeValues shape.items values =
          .ok (if shape.items.length ≤ values.length then
            some (results, values.drop shape.items.length) else none) := by
        rw [takeValues_eq, each]
        rfl
      rw [Except.bind]
      rcases Nat.lt_trichotomy values.length shape.items.length with less | same | more
      · rw [if_neg (by omega)] at taken
        rw [if_pos less, fill, taken]
        rfl
      · have none : values.drop shape.items.length = [] := List.drop_eq_nil_of_le (by omega)
        rw [if_pos (by omega), none] at taken
        rw [if_neg (by omega), if_neg (by omega), fill, taken]
        rfl
      · obtain ⟨v, rest, left⟩ :=
          List.exists_cons_of_length_pos (l := values.drop shape.items.length)
            (by rw [List.length_drop]; omega)
        rw [if_pos (by omega), left] at taken
        rw [if_neg (by omega), if_pos more, fill, taken]
        rfl

/-- A fault of an element is that of the whole, however many values there are. -/
theorem fill_of_firstError (shape : Shape) {values : List Value} {k : Nat} {fault : DecodeFault}
    (h : FirstError decodePair (shape.items.zip values) k fault) :
    shape.fill values = .error fault := by
  rw [fill_eq, h.mapM_eq]
  rfl

/-- Without a fault of an element it is a matter of the number of the values. -/
theorem fill_of_results (shape : Shape) {values : List Value} {results : List Decoded}
    (h : List.Forall₂ (fun p d => decodePair p = .ok d) (shape.items.zip values) results) :
    shape.fill values =
      if values.length < shape.items.length then .error (.tooFew values.length shape)
      else if shape.items.length < values.length then
        .error (.tooMany values.length shape.items.length)
      else .ok results := by
  rw [fill_eq, mapM_eq_ok_iff.mpr h]
  rfl

/-! ## Tuples and lists -/

@[simp] theorem items_tuple (shapes : List Shape) : (Shape.tuple shapes).items = shapes := rfl

/-- A tuple has the fault of its first element that has one. -/
theorem ofValues_tuple_of_firstError {shapes : List Shape} {values : List Value} {k : Nat}
    {fault : DecodeFault} (h : FirstError decodePair (shapes.zip values) k fault) :
    (Shape.tuple shapes).ofValues values = .error fault := by
  show (fill (.tuple shapes) values).map Decoded.list = .error fault
  rw [fill_of_firstError (.tuple shapes) h]
  rfl

/-- A tuple none of whose elements has a fault depends on the number of the values. -/
theorem ofValues_tuple_of_results {shapes : List Shape} {values : List Value}
    {results : List Decoded}
    (h : List.Forall₂ (fun p d => decodePair p = .ok d) (shapes.zip values) results) :
    (Shape.tuple shapes).ofValues values =
      if values.length < shapes.length then .error (.tooFew values.length (.tuple shapes))
      else if shapes.length < values.length then .error (.tooMany values.length shapes.length)
      else .ok (.list results) := by
  show (fill (.tuple shapes) values).map Decoded.list = _
  rw [fill_of_results (.tuple shapes) h, items_tuple]
  by_cases less : values.length < shapes.length
  · simp only [if_pos less, Except.map]
  · by_cases more : shapes.length < values.length
    · simp only [if_neg less, if_pos more, Except.map]
    · simp only [if_neg less, if_neg more, Except.map]

/-- A list has the fault of its first element that has one. -/
theorem ofValues_list_of_firstError {item : Shape} {values : List Value} {k : Nat}
    {fault : DecodeFault} (h : FirstError item.ofValue values k fault) :
    (Shape.list item).ofValues values = .error fault := by
  show (values.mapM item.ofValue).map Decoded.list = .error fault
  rw [h.mapM_eq]
  rfl

/-- A list none of whose elements has a fault has them all, however many. -/
theorem ofValues_list_of_results {item : Shape} {values : List Value} {results : List Decoded}
    (h : List.Forall₂ (fun v d => item.ofValue v = .ok d) values results) :
    (Shape.list item).ofValues values = .ok (.list results) := by
  show (values.mapM item.ofValue).map Decoded.list = .ok (.list results)
  rw [mapM_eq_ok_iff.mpr h]
  rfl

/-- Every value decodes as a value into itself. -/
theorem forall₂_ofValue_value (values : List Value) :
    List.Forall₂ (fun v d => Shape.value.ofValue v = .ok d) values
      (values.map Decoded.value) := by
  rw [List.forall₂_map_right_iff, List.forall₂_same]
  intro v _
  cases v with
  | integer n => rfl
  | real x => rfl
  | text t => rfl

end Shape

namespace Reader

/-- A line that is read decodes as its values do. -/
theorem decode_of_read {r : Reader} {line : String} {values : List Value}
    (h : r.read line = .ok values) (shape : Shape) :
    r.decode shape line = (shape.ofValues values).mapError .mismatch := by
  unfold decode
  rw [h]

/-- A line decodes into a list exactly if each of its values decodes into the item. -/
theorem exists_decode_list_iff {r : Reader} {line : String} {values : List Value}
    (h : r.read line = .ok values) (item : Shape) :
    (∃ decoded, r.decode (.list item) line = .ok decoded) ↔
      ∀ v ∈ values, ∃ result, item.ofValue v = .ok result := by
  rw [decode_of_read h, ← exists_mapM_eq_ok_iff]
  constructor
  · rintro ⟨decoded, ok⟩
    obtain ⟨results, each, _⟩ := map_eq_ok_iff.mp (mapError_eq_ok_iff.mp ok)
    exact ⟨results, each⟩
  · rintro ⟨results, each⟩
    refine ⟨.list results, ?_⟩
    rw [Shape.ofValues_list_of_results (mapM_eq_ok_iff.mp each)]
    rfl

/-- **Decoding the values of a line is exact.** -/
theorem decode_sequence (r : Reader) (line : String) :
    (∀ e, r.read line = .error e → ∀ shape, r.decode shape line = .error (.conversion e)) ∧
    ∀ values, r.read line = .ok values →
      (∀ shapes : List Shape,
        ((∃ k fault, FirstError Shape.decodePair (shapes.zip values) k fault) ∨
          ∃ results, List.Forall₂ (fun p d => Shape.decodePair p = .ok d)
            (shapes.zip values) results) ∧
        (∀ k fault, FirstError Shape.decodePair (shapes.zip values) k fault →
          r.decode (.tuple shapes) line = .error (.mismatch fault)) ∧
        ∀ results, List.Forall₂ (fun p d => Shape.decodePair p = .ok d)
            (shapes.zip values) results →
          (values.length < shapes.length → ∃ fault,
            r.decode (.tuple shapes) line = .error (.mismatch fault) ∧
            fault.message =
              s!"invalid length {values.length}, expected a tuple of size {shapes.length}") ∧
          (shapes.length < values.length → ∃ fault,
            r.decode (.tuple shapes) line = .error (.mismatch fault) ∧
            fault.message =
              if shapes.length = 1 then
                s!"invalid length {values.length}, expected 1 element in sequence"
              else s!"invalid length {values.length}, expected {shapes.length} elements in sequence") ∧
          (values.length = shapes.length →
            r.decode (.tuple shapes) line = .ok (.list results))) ∧
      (∀ item : Shape,
        ((∃ decoded, r.decode (.list item) line = .ok decoded) ↔
          ∀ v ∈ values, ∃ result, item.ofValue v = .ok result) ∧
        (∀ results, List.Forall₂ (fun v d => item.ofValue v = .ok d) values results →
          r.decode (.list item) line = .ok (.list results)) ∧
        (∀ k fault, FirstError item.ofValue values k fault →
          r.decode (.list item) line = .error (.mismatch fault))) ∧
      r.decode (.list .value) line = .ok (.list (values.map Decoded.value)) := by
  constructor
  · intro e h shape
    unfold decode
    rw [h]
  intro values h
  refine ⟨?_, ?_, ?_⟩
  · intro shapes
    refine ⟨firstError_or_results Shape.decodePair (shapes.zip values), ?_, ?_⟩
    · intro k fault first
      rw [decode_of_read h, Shape.ofValues_tuple_of_firstError first]
      rfl
    · intro results each
      rw [decode_of_read h, Shape.ofValues_tuple_of_results each]
      refine ⟨?_, ?_, ?_⟩
      · intro less
        rw [if_pos less]
        exact ⟨_, rfl, DecodeFault.message_tooFew_tuple values.length shapes⟩
      · intro more
        rw [if_neg (by omega), if_pos more]
        exact ⟨_, rfl, DecodeFault.message_tooMany values.length shapes.length⟩
      · intro same
        rw [if_neg (by omega), if_neg (by omega)]
        rfl
  · intro item
    refine ⟨exists_decode_list_iff h item, ?_, ?_⟩
    · intro results each
      rw [decode_of_read h, Shape.ofValues_list_of_results each]
      rfl
    · intro k fault first
      rw [decode_of_read h, Shape.ofValues_list_of_firstError first]
      rfl
  · rw [decode_of_read h, Shape.ofValues_list_of_results (Shape.forall₂_ofValue_value values)]
    rfl

/-- An integer and a text: into a tuple of two, into one of a single item, and into one whose first
    item is no integer. -/
theorem decode_sequence_integer_text :
    ∃ r, ofFormat "I2,A1" {} = .ok r ∧
      r.read "42x" = .ok [.integer 42, .text "x"] ∧
      r.decode (.tuple [.integer ⟨false, 8⟩, .character]) "42x" =
        .ok (.list [.integer 42, .character 'x']) ∧
      (∃ fault, r.decode (.tuple [.double]) "42x" = .error (.mismatch fault) ∧
        fault.message = "invalid length 2, expected 1 element in sequence") ∧
      r.decode (.tuple [.text, .text, .text]) "42x" =
        .error (.mismatch (.wrongType (.integer 42) .text)) := by
  let r : Reader := ⟨"I2,A1", {},
    [⟨1, .field .integer, 2, none⟩, ⟨1, .field .text, 1, none⟩], _, rfl, rfl⟩
  have read : r.read "42x" = .ok [.integer 42, .text "x"] := rfl
  have tuples := ((decode_sequence r "42x").2 _ read).1
  refine ⟨r, rfl, read, ?_, ?_, ?_⟩
  · obtain ⟨_, _, same⟩ := (tuples [.integer ⟨false, 8⟩, .character]).2.2
      [.integer 42, .character 'x'] (.cons rfl (.cons rfl .nil))
    exact same rfl
  · obtain ⟨_, more, _⟩ := (tuples [.double]).2.2 [.double (.ofInt 42)] (.cons rfl .nil)
    obtain ⟨fault, fails, message⟩ := more (by decide)
    exact ⟨fault, fails, message.trans (by decide)⟩
  · apply (tuples [.text, .text, .text]).2.1 0
    exact ⟨⟨_, rfl, rfl⟩, fun j hj => absurd hj (Nat.not_lt_zero j)⟩

end Reader

end FixedColumns
