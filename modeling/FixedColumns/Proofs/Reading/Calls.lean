import FixedColumns.Frame
import FixedColumns.Proofs.Reading.Composition

/-!
# `FixedColumns.Proofs.Reading.Calls` — several calls on one source

A caller may read a source in parts: a table, a frame or a line to skip, each from where the call
before it stopped. `Call.rest` is what a call leaves. One call stops between two lines
(`Call.append_and_boundary`), and so does a run of them (`Call.boundary_left`): no byte is lost or
read twice, and no call begins within a line. With what two sources in a row come to, this is the
main statement, `Reader.readSourceBy_append`.
-/

namespace FixedColumns

/-- A call that takes bytes from a source. -/
inductive Call where
  | table (reader : Reader) (settings : Settings)
  | frame (reader : Reader) (names : List String)
  | skipLine

namespace Call

/-- The bytes of a source that a call leaves. -/
def rest : Call → List UInt8 → List UInt8
  | .table reader settings, source => (reader.readSourceBy settings source).rest
  | .frame reader names, source => (reader.readFrame names source).rest
  | .skipLine, source => Source.dropLine source

/-- The bytes of a source that a call takes. -/
def taken (call : Call) (source : List UInt8) : List UInt8 :=
  source.take (source.length - (call.rest source).length)

/-- The bytes that calls in turn take, each from what the one before it leaves. -/
def pieces : List Call → List UInt8 → List (List UInt8)
  | [], _ => []
  | call :: calls, source => call.taken source :: pieces calls (call.rest source)

/-- The bytes that calls in turn leave. -/
def left : List Call → List UInt8 → List UInt8
  | [], source => source
  | call :: calls, source => left calls (call.rest source)

theorem pieces_take (n : Nat) (calls : List Call) (source : List UInt8) :
    pieces (calls.take n) source = (pieces calls source).take n := by
  induction calls generalizing n source with
  | nil => simp [pieces]
  | cons call calls ih =>
      cases n with
      | zero => rfl
      | succ n => simp [pieces, ih]

/-! ## One call -/

/-- What a call leaves is what stands after a number of lines. -/
theorem exists_rest_eq (call : Call) (source : List UInt8) :
    ∃ k, call.rest source = Source.dropLine^[k] source := by
  cases call with
  | table reader settings => exact reader.exists_rest_eq_dropLine_iterate settings source
  | skipLine => exact ⟨1, rfl⟩
  | frame reader names =>
      -- With a name too many or too few nothing is read, otherwise a table is.
      show ∃ k, (reader.readFrame names source).rest = _
      unfold Reader.readFrame
      by_cases h : reader.size = names.length
      · rw [if_pos h]
        exact reader.exists_rest_eq_dropLine_iterate reader.settings source
      · rw [if_neg h]
        exact ⟨0, rfl⟩

/-- A call stops between two lines. -/
theorem append_and_boundary (call : Call) (source : List UInt8) :
    call.taken source ++ call.rest source = source ∧
      Source.Boundary (call.taken source) (call.rest source) := by
  obtain ⟨k, rest⟩ := call.exists_rest_eq source
  obtain ⟨consumed, split, cut⟩ := Source.exists_append_dropLine_iterate k source
  rw [← rest] at split cut
  have size : source.length - (call.rest source).length = consumed.length := by
    have lengths := congrArg List.length split
    rw [List.length_append] at lengths
    omega
  have same : call.taken source = consumed :=
    calc call.taken source = source.take consumed.length := by rw [← size]; rfl
      _ = (consumed ++ call.rest source).take consumed.length := by rw [split]
      _ = consumed := List.take_left
  rw [same]
  exact ⟨split, cut⟩

/-! ## A run of calls -/

/-- Calls take a source from its beginning and leave the rest of it. -/
theorem flatten_pieces_append_left (calls : List Call) (source : List UInt8) :
    (pieces calls source).flatten ++ left calls source = source := by
  induction calls generalizing source with
  | nil => rfl
  | cons call calls ih =>
      show (call.taken source :: pieces calls (call.rest source)).flatten ++
        left calls (call.rest source) = source
      rw [List.flatten_cons, List.append_assoc, ih, (call.append_and_boundary source).1]

/-- Calls stop between two lines. -/
theorem boundary_left (calls : List Call) (source : List UInt8) :
    Source.Boundary (pieces calls source).flatten (left calls source) := by
  induction calls generalizing source with
  | nil => exact Or.inl Source.complete_nil
  | cons call calls ih =>
      show Source.Boundary (call.taken source :: pieces calls (call.rest source)).flatten
        (left calls (call.rest source))
      have first := (call.append_and_boundary source).2
      rw [← flatten_pieces_append_left calls (call.rest source)] at first
      rw [List.flatten_cons]
      exact first.trans (ih (call.rest source))

end Call

namespace Reader

/-- **Tables compose over the lines of a source.** -/
theorem readSourceBy_append (r : Reader) (s : Settings) :
    (∀ first second, Source.Complete first →
      (∀ rows, (r.readSourceBy s first).result = .ok rows →
        r.readSourceBy s (first ++ second) =
          ⟨match (r.readSourceBy s second).result with
            | .ok more => .ok (rows ++ more)
            | .error e => .error (e.raise (first.count lineFeed)),
          (r.readSourceBy s first).log ++
            (r.readSourceBy s second).log.map (Record.raise (first.count lineFeed)),
          (r.readSourceBy s second).rest⟩) ∧
      ∀ e, (r.readSourceBy s first).result = .error e →
        r.readSourceBy s (first ++ second) =
          ⟨.error e, (r.readSourceBy s first).log, (r.readSourceBy s first).rest ++ second⟩) ∧
    (∀ source,
      (∀ rows, (r.readSourceBy s source).result = .ok rows →
        (r.readSourceBy s source).rest = []) ∧
      ∀ e, (r.readSourceBy s source).result = .error e →
        ∃ k, e.line? = some k ∧ 1 ≤ k ∧ k ≤ (Source.lines source).length ∧
          (r.readSourceBy s source).rest = Source.dropLine^[k] source) ∧
    ∀ calls source,
      (Call.pieces calls source).flatten ++ Call.left calls source = source ∧
      ∀ n, Source.Boundary ((Call.pieces calls source).take n).flatten
        (Call.left (calls.take n) source) := by
  refine ⟨?_, ?_, ?_⟩
  · intro first second complete
    constructor
    · intro rows h
      rw [readSourceBy_append_of_ok complete h]
      obtain ⟨result, log, rest⟩ := r.readSourceBy s second
      cases result with
      | ok more => rfl
      | error e => rfl
    · intro e h
      exact readSourceBy_append_of_error complete h second
  · intro source
    constructor
    · intro rows h
      exact rest_of_result_ok h
    · intro e h
      exact rest_of_result_error h
  · intro calls source
    refine ⟨Call.flatten_pieces_append_left calls source, ?_⟩
    intro n
    rw [← Call.pieces_take]
    exact Call.boundary_left (calls.take n) source

/-- A row and a blank line, then a line that does not convert and one that is not looked at; and
    the last two lines alone. -/
theorem readSourceBy_append_blank_and_malformed :
    ∃ r, ofFormat "I2" {} = .ok r ∧
      r.readSourceBy {} ([49, 10, 10] ++ [120, 10, 53]) =
        ⟨.error (.malformed 3 "x" ⟨0, 2, .integer, "x", .integer .invalidDigit⟩),
          [.blank 2], [53]⟩ ∧
      r.readSourceBy {} ([120, 10] ++ [53]) =
        ⟨.error (.malformed 1 "x" ⟨0, 2, .integer, "x", .integer .invalidDigit⟩), [], [53]⟩ := by
  let r : Reader := ⟨"I2", {}, [⟨1, .field .integer, 2, none⟩], _, rfl, rfl⟩
  have ends : ∀ text : List UInt8, Source.Complete (text ++ [10]) :=
    Source.complete_concat_lineFeed
  have rows : (r.readSourceBy {} [49, 10, 10]).result = .ok [[.integer 1]] := rfl
  have fails : (r.readSourceBy {} [120, 10]).result =
      .error (.malformed 1 "x" ⟨0, 2, .integer, "x", .integer .invalidDigit⟩) := rfl
  have joined := (readSourceBy_append r {}).1
  refine ⟨r, rfl, ?_, ?_⟩
  · exact (joined [49, 10, 10] [120, 10, 53] (ends [49, 10])).1 _ rows
  · exact (joined [120, 10] [53] (ends [120])).2 _ fails

end Reader

end FixedColumns
