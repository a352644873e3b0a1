import FixedColumns.Proofs.Decode.Sequence

/-!
# `FixedColumns.Proofs.Decode.Records` — a record is decoded as the tuple of its fields

The values of a line can be handed over one at a time, to a tuple that asks for one item after the
other or to a record that asks for one field after the other, and at the end none may be left over.
The two go in step, `Feed.takeFields_eq`, and what they come to is what decoding at once comes to,
`Shape.ofValues_tuple_eq_handOver` and `Shape.ofValues_record_eq_handOver`. So a record and the tuple
of its fields have the same results and the same errors, but for the name that a report on too few
values gives to the whole: `Reader.decode_record_as_tuple`.
-/

namespace FixedColumns

/-! ## Handing over values one at a time -/

/-- The values of a line on their way into a shape: how many have been taken, and those that have
    not. -/
structure Feed where
  taken : Nat
  left : List Value

namespace Feed

/-- Takes the next value into a shape; nothing if there is no value left. -/
def next (feed : Feed) (shape : Shape) : Except DecodeFault (Option (Decoded × Feed)) :=
  match feed.left with
  | [] => .ok none
  | v :: left => (shape.ofValue v).map fun result => some (result, ⟨feed.taken + 1, left⟩)

theorem next_cons (taken : Nat) (v : Value) (left : List Value) (shape : Shape) :
    (Feed.mk taken (v :: left)).next shape =
      (shape.ofValue v).map fun result => some (result, ⟨taken + 1, left⟩) := rfl

/-- Takes the items of a tuple. -/
def takeItems (whole : Shape) : List Shape → Feed → Except DecodeFault (List Decoded × Feed)
  | [], feed => .ok ([], feed)
  | shape :: shapes, feed => do
    match ← feed.next shape with
    | none => .error (.tooFew feed.taken whole)
    | some first =>
      let others ← takeItems whole shapes first.2
      return (first.1 :: others.1, others.2)

/-- Takes the fields of a record, each under its name. -/
def takeFields (whole : Shape) :
    List (String × Shape) → Feed → Except DecodeFault (List (String × Decoded) × Feed)
  | [], feed => .ok ([], feed)
  | field :: fields, feed => do
    match ← feed.next field.2 with
    | none => .error (.tooFew feed.taken whole)
    | some first =>
      let others ← takeFields whole fields first.2
      return ((field.1, first.1) :: others.1, others.2)

/-- No value may be left over. -/
def finish (feed : Feed) : Except DecodeFault Unit :=
  if feed.left.isEmpty then .ok ()
  else .error (.tooMany (feed.taken + feed.left.length) feed.taken)

/-- Takes a tuple. -/
def takeTuple (shapes : List Shape) (feed : Feed) : Except DecodeFault (Decoded × Feed) :=
  (takeItems (.tuple shapes) shapes feed).map fun p => (.list p.1, p.2)

/-- Takes a record. -/
def takeRecord (name : String) (fields : List (String × Shape)) (feed : Feed) :
    Except DecodeFault (Decoded × Feed) :=
  (takeFields (.record name fields) fields feed).map fun p => (.record p.1, p.2)

/-- Hands over the values of a line, all of which must be taken. -/
def handOver (take : Feed → Except DecodeFault (Decoded × Feed)) (values : List Value) :
    Except DecodeFault Decoded := do
  let taken ← take ⟨0, values⟩
  taken.2.finish
  return taken.1

/-! ## A record and a tuple go in step -/

/-- **Taking fields is taking items,** and putting the names to the results. -/
theorem takeFields_eq (whole : Shape) (fields : List (String × Shape)) (feed : Feed) :
    takeFields whole fields feed =
      (takeItems whole (fields.map Prod.snd) feed).map fun p =>
        ((fields.map Prod.fst).zip p.1, p.2) := by
  induction fields generalizing feed with
  | nil => rfl
  | cons field fields ih =>
      rw [List.map_cons, List.map_cons, takeFields, takeItems]
      cases feed.next field.2 with
      | error fault => rfl
      | ok found =>
          cases found with
          | none => rfl
          | some first =>
              show (takeFields whole fields first.2 >>= fun _ => _) =
                Except.map _ (takeItems whole (fields.map Prod.snd) first.2 >>= fun _ => _)
              rw [ih]
              cases takeItems whole (fields.map Prod.snd) first.2 with
              | error fault => rfl
              | ok others => rfl

/-! ## Taking values at once -/

/-- Items taken one at a time are those taken at once. A report on too few values counts all. -/
theorem takeItems_eq (whole : Shape) (shapes : List Shape) (feed : Feed) :
    takeItems whole shapes feed =
      (Shape.takeValues shapes feed.left).bind fun found =>
        found.elim (.error (.tooFew (feed.taken + feed.left.length) whole)) fun p =>
          .ok (p.1, ⟨feed.taken + shapes.length, p.2⟩) := by
  induction shapes generalizing feed with
  | nil => rfl
  | cons shape shapes ih =>
      obtain ⟨taken, left⟩ := feed
      cases left with
      | nil => rfl
      | cons v left =>
          have count : taken + 1 + left.length = taken + (v :: left).length := by
            rw [List.length_cons]
            omega
          have place : taken + 1 + shapes.length = taken + (shape :: shapes).length := by
            rw [List.length_cons]
            omega
          rw [takeItems, Shape.takeValues, next_cons]
          cases shape.ofValue v with
          | error fault => rfl
          | ok first =>
              show (takeItems whole shapes ⟨taken + 1, left⟩ >>= fun _ => _) =
                Except.bind (Shape.takeValues shapes left >>= fun _ => _) _
              rw [ih, count, place]
              cases Shape.takeValues shapes left with
              | error fault => rfl
              | ok found =>
                  cases found with
                  | none => rfl
                  | some p => rfl

/-- Each value has a shape or is left over. -/
theorem length_of_takeValues {shapes : List Shape} {values left : List Value}
    {results : List Decoded} (h : Shape.takeValues shapes values = .ok (some (results, left))) :
    values.length = shapes.length + left.length := by
  rw [Shape.takeValues_eq] at h
  obtain ⟨_, -, found⟩ := map_eq_ok_iff.mp h
  split at found
  · rename_i enough
    have rest : values.drop shapes.length = left := (Prod.mk.inj (Option.some.inj found)).2
    rw [← rest, List.length_drop]
    omega
  · cases found

/-- A shape of several items is filled by taking them one at a time, with nothing left over. -/
theorem fill_eq_takeItems (shape : Shape) (values : List Value) :
    shape.fill values =
      (takeItems shape shape.items ⟨0, values⟩).bind fun p => p.2.finish.map fun _ => p.1 := by
  unfold Shape.fill
  rw [takeItems_eq, Nat.zero_add, Nat.zero_add]
  cases found : Shape.takeValues shape.items values with
  | error fault => rfl
  | ok taken =>
      cases taken with
      | none => rfl
      | some p =>
          obtain ⟨results, left⟩ := p
          cases left with
          | nil => rfl
          | cons v left =>
              show Except.error _ = Except.error (DecodeFault.tooMany _ _)
              rw [length_of_takeValues found]

/-- What is made of the items of a shape is made of them when they are handed over. -/
theorem fill_map_eq_handOver (shape : Shape) (make : List Decoded → Decoded)
    (values : List Value) :
    (shape.fill values).map make =
      handOver (fun feed => (takeItems shape shape.items feed).map fun p => (make p.1, p.2))
        values := by
  rw [fill_eq_takeItems]
  unfold handOver
  beta_reduce
  cases takeItems shape shape.items ⟨0, values⟩ with
  | error fault => rfl
  | ok p =>
      show (p.2.finish.map _).map _ = (p.2.finish >>= fun _ => _)
      cases p.2.finish with
      | error fault => rfl
      | ok none => rfl

/-- A record is made of the items that a tuple of its fields takes. -/
theorem takeRecord_eq (name : String) (fields : List (String × Shape)) (feed : Feed) :
    takeRecord name fields feed =
      (takeItems (.record name fields) (fields.map Prod.snd) feed).map fun p =>
        (.record ((fields.map Prod.fst).zip p.1), p.2) := by
  rw [takeRecord, takeFields_eq]
  cases takeItems (.record name fields) (fields.map Prod.snd) feed with
  | error fault => rfl
  | ok p => rfl

end Feed

namespace Shape

@[simp] theorem items_record (name : String) (fields : List (String × Shape)) :
    (Shape.record name fields).items = fields.map Prod.snd := rfl

/-- A tuple is decoded by taking its items one at a time. -/
theorem ofValues_tuple_eq_handOver (shapes : List Shape) (values : List Value) :
    (Shape.tuple shapes).ofValues values = Feed.handOver (Feed.takeTuple shapes) values :=
  Feed.fill_map_eq_handOver (.tuple shapes) Decoded.list values

/-- A record is decoded by taking its fields one at a time. -/
theorem ofValues_record_eq_handOver (name : String) (fields : List (String × Shape))
    (values : List Value) :
    (Shape.record name fields).ofValues values =
      Feed.handOver (Feed.takeRecord name fields) values := by
  rw [funext (Feed.takeRecord_eq name fields)]
  exact Feed.fill_map_eq_handOver (.record name fields)
    (fun results => .record ((fields.map Prod.fst).zip results)) values

end Shape

/-! ## Reports on too few values -/

theorem DecodeFault.message_tooFew_record (count : Nat) (name : String)
    (fields : List (String × Shape)) :
    (DecodeFault.tooFew count (.record name fields)).message =
      s!"invalid length {count}, expected struct {name} with {elementCount fields.length}" := by
  have words : ", expected struct " = ", expected " ++ "struct " := by decide
  have items : (Shape.record name fields).items.length = fields.length := by
    rw [Shape.items_record, List.length_map]
  show "invalid length " ++ toString count ++ ", expected " ++
      ("struct " ++ name ++ " with " ++ elementCount (Shape.record name fields).items.length) =
    "invalid length " ++ toString count ++ ", expected struct " ++ name ++ " with " ++
      elementCount fields.length
  rw [items, words]
  simp only [String.append_assoc]

namespace Reader

/-- Reads a line and hands over its values. -/
def handOver (r : Reader) (take : Feed → Except DecodeFault (Decoded × Feed)) (line : String) :
    Except DecodeError Decoded :=
  match r.read line with
  | .error cause => .error (.conversion cause)
  | .ok values => (Feed.handOver take values).mapError .mismatch

/-- A line decodes into a shape as its values are handed over. -/
theorem decode_eq_handOver {shape : Shape} {take : Feed → Except DecodeFault (Decoded × Feed)}
    (each : ∀ values, shape.ofValues values = Feed.handOver take values) (r : Reader)
    (line : String) : r.decode shape line = r.handOver take line := by
  unfold decode handOver
  cases r.read line with
  | error cause => rfl
  | ok values =>
      show (shape.ofValues values).mapError DecodeError.mismatch = _
      rw [each]

/-- What decoding a line into a record comes to, and into the tuple of its fields. -/
inductive DecodeAlike (r : Reader) (line name : String) (fields : List (String × Shape)) :
    Except DecodeError Decoded → Except DecodeError Decoded → Prop
  /-- a field of the line does not convert -/
  | unread {cause : FieldError} (fails : r.read line = .error cause) :
    DecodeAlike r line name fields (.error (.conversion cause)) (.error (.conversion cause))
  /-- the first element at fault has the fault -/
  | element {values : List Value} {k : Nat} {fault : DecodeFault} (read : r.read line = .ok values)
      (first : FirstError Shape.decodePair ((fields.map Prod.snd).zip values) k fault) :
    DecodeAlike r line name fields (.error (.mismatch fault)) (.error (.mismatch fault))
  /-- no element is at fault, and values are left over -/
  | leftOver {values : List Value} {results : List Decoded} (read : r.read line = .ok values)
      (each : List.Forall₂ (fun p d => Shape.decodePair p = .ok d)
        ((fields.map Prod.snd).zip values) results)
      (more : fields.length < values.length) :
    DecodeAlike r line name fields (.error (.mismatch (.tooMany values.length fields.length)))
      (.error (.mismatch (.tooMany values.length fields.length)))
  /-- no element is at fault, and there are too few values -/
  | ended {values : List Value} {results : List Decoded} (read : r.read line = .ok values)
      (each : List.Forall₂ (fun p d => Shape.decodePair p = .ok d)
        ((fields.map Prod.snd).zip values) results)
      (less : values.length < fields.length) :
    DecodeAlike r line name fields
      (.error (.mismatch (.tooFew values.length (.record name fields))))
      (.error (.mismatch (.tooFew values.length (.tuple (fields.map Prod.snd)))))
  /-- there is a value for each element, and none is at fault -/
  | filled {values : List Value} {results : List Decoded} (read : r.read line = .ok values)
      (each : List.Forall₂ (fun p d => Shape.decodePair p = .ok d)
        ((fields.map Prod.snd).zip values) results)
      (same : values.length = fields.length) :
    DecodeAlike r line name fields (.ok (.record ((fields.map Prod.fst).zip results)))
      (.ok (.list results))

/-- The two end alike. -/
theorem decodeAlike (r : Reader) (line name : String) (fields : List (String × Shape)) :
    DecodeAlike r line name fields (r.decode (.record name fields) line)
      (r.decode (.tuple (fields.map Prod.snd)) line) := by
  have items : (fields.map Prod.snd).length = fields.length := List.length_map _
  cases read : r.read line with
  | error cause =>
      unfold decode
      rw [read]
      exact .unread read
  | ok values =>
      have record : (Shape.record name fields).ofValues values =
          (Shape.fill (.record name fields) values).map fun results =>
            .record ((fields.map Prod.fst).zip results) := rfl
      rw [decode_of_read read, decode_of_read read, record]
      rcases firstError_or_results Shape.decodePair ((fields.map Prod.snd).zip values) with
        ⟨k, fault, first⟩ | ⟨results, each⟩
      · rw [Shape.fill_of_firstError (.record name fields) first,
          Shape.ofValues_tuple_of_firstError first]
        exact .element read first
      · rw [Shape.fill_of_results (.record name fields) each,
          Shape.ofValues_tuple_of_results each, Shape.items_record, items]
        rcases Nat.lt_trichotomy values.length fields.length with less | same | more
        · rw [if_pos less, if_pos less]
          exact .ended read each less
        · have notLess : ¬ values.length < fields.length := by omega
          have notMore : ¬ fields.length < values.length := by omega
          rw [if_neg notLess, if_neg notLess, if_neg notMore, if_neg notMore]
          exact .filled read each same
        · have notLess : ¬ values.length < fields.length := by omega
          rw [if_neg notLess, if_neg notLess, if_pos more, if_pos more]
          exact .leftOver read each more

/-- **A record is decoded as the tuple of its fields.** -/
theorem decode_record_as_tuple (r : Reader) (line name : String)
    (fields : List (String × Shape)) :
    r.decode (.record name fields) line = r.handOver (Feed.takeRecord name fields) line ∧
    r.decode (.tuple (fields.map Prod.snd)) line =
      r.handOver (Feed.takeTuple (fields.map Prod.snd)) line ∧
    DecodeAlike r line name fields (r.decode (.record name fields) line)
      (r.decode (.tuple (fields.map Prod.snd)) line) ∧
    ∀ count,
      (DecodeFault.tooFew count (.record name fields)).message =
        s!"invalid length {count}, expected struct {name} with {elementCount fields.length}" ∧
      (DecodeFault.tooFew count (.tuple (fields.map Prod.snd))).message =
        s!"invalid length {count}, expected a tuple of size {fields.length}" := by
  refine ⟨?_, ?_, decodeAlike r line name fields, ?_⟩
  · exact decode_eq_handOver (Shape.ofValues_record_eq_handOver name fields) r line
  · exact decode_eq_handOver (Shape.ofValues_tuple_eq_handOver _) r line
  · intro count
    refine ⟨DecodeFault.message_tooFew_record count name fields, ?_⟩
    rw [DecodeFault.message_tooFew_tuple, List.length_map]

/-- A value too few for a record of three fields, and a value for each. -/
example :
    let atom : Shape :=
      .record "Atom" [("serial", .integer ⟨false, 32⟩), ("name", .text), ("x", .double)]
    ∃ short full, ofFormat "I5,1X,A4" {} = .ok short ∧ ofFormat "I5,1X,A4,I3" {} = .ok full ∧
      (∃ fault, short.decode atom "   17 CA" = .error (.mismatch fault) ∧
        fault.message = "invalid length 2, expected struct Atom with 3 elements") ∧
      full.decode atom "   17 CA    2" =
        .ok (.record
          [("serial", .integer 17), ("name", .text "CA"), ("x", .double (.ofInt 2))]) := by
  refine ⟨⟨"I5,1X,A4", {}, _, _, rfl, rfl⟩, ⟨"I5,1X,A4,I3", {}, _, _, rfl, rfl⟩, rfl, rfl, ?_,
    rfl⟩
  exact ⟨_, rfl, by decide⟩

end Reader

end FixedColumns
