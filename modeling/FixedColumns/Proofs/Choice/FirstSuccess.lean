import FixedColumns.Proofs.Choice.FirstMaximum
import FixedColumns.Proofs.Reader.Score

/-!
# `FixedColumns.Proofs.Choice.FirstSuccess` — the first reader that converts a line

Attempts are results in the order in which they are tried. `OutcomeOf` says what comes of them: the
first that succeeds, with its place, or else the error of the last. Some attempts come to one thing
only, so whatever finds an outcome finds the same: `Reader.readFirst`, which tries the first reader
and then the others, and `tryOn`, which goes over the attempts once, keeps the result so far and stops
when that is a success. `Reader.readFirst_first_success` says this of readers.

A reader converts a line if all of its fields count, so among readers of one size the first that
converts the line is also the first that converts the most fields of it:
`Reader.readFirst_place_eq_best?`.
-/

namespace FixedColumns

variable {ε α : Type}

/-! ## The first success and the last error -/

/-- The attempt at place `i` succeeds with the result `a`, and all before it fail. -/
structure IsFirstSuccess (xs : List (Except ε α)) (i : Nat) (a : α) : Prop where
  place : xs[i]? = some (.ok a)
  earlier : ∀ j < i, ∃ e, xs[j]? = some (.error e)

/-- All attempts fail, the last with the error `e`. -/
structure IsLastError (xs : List (Except ε α)) (e : ε) : Prop where
  fail : ∀ x ∈ xs, ∃ e', x = .error e'
  last : xs.getLast? = some (.error e)

section Append

variable {xs ys : List (Except ε α)} {i j : Nat} {a b : α} {e : ε}

theorem IsFirstSuccess.unique (h : IsFirstSuccess xs i a) (h' : IsFirstSuccess xs j b) :
    i = j ∧ a = b := by
  rcases Nat.lt_trichotomy i j with before | rfl | after
  · obtain ⟨e, fails⟩ := h'.earlier i before
    rw [h.place] at fails
    cases fails
  · have same := h.place.symm.trans h'.place
    exact ⟨rfl, Except.ok.inj (Option.some.inj same)⟩
  · obtain ⟨e, fails⟩ := h.earlier j after
    rw [h'.place] at fails
    cases fails

/-- Where an attempt succeeds, not all of them fail. -/
theorem IsFirstSuccess.not_isLastError (h : IsFirstSuccess xs i a) : ¬ IsLastError xs e := by
  intro last
  obtain ⟨e', fails⟩ := last.fail _ (List.mem_of_getElem? h.place)
  cases fails

/-- A success is not undone by what comes after it. -/
theorem IsFirstSuccess.append_right (h : IsFirstSuccess xs i a) (ys : List (Except ε α)) :
    IsFirstSuccess (xs ++ ys) i a := by
  have inside : i < xs.length := (List.getElem?_eq_some_iff.mp h.place).1
  constructor
  · rw [List.getElem?_append_left inside]
    exact h.place
  · intro j hj
    rw [List.getElem?_append_left (Nat.lt_trans hj inside)]
    exact h.earlier j hj

/-- Failures stand before the first success. -/
theorem IsFirstSuccess.append_left (h : IsFirstSuccess ys j b) (h' : IsLastError xs e) :
    IsFirstSuccess (xs ++ ys) (xs.length + j) b := by
  constructor
  · rw [List.getElem?_append_right (Nat.le_add_right ..), Nat.add_sub_cancel_left]
    exact h.place
  · intro k hk
    by_cases first : k < xs.length
    · obtain ⟨e', fails⟩ := h'.fail xs[k] (List.getElem_mem first)
      refine ⟨e', ?_⟩
      rw [List.getElem?_append_left first, List.getElem?_eq_getElem first, fails]
    · rw [List.getElem?_append_right (Nat.not_lt.mp first)]
      exact h.earlier (k - xs.length) (by omega)

theorem IsLastError.append {e' : ε} (h : IsLastError xs e') (h' : IsLastError ys e) :
    IsLastError (xs ++ ys) e := by
  constructor
  · intro x hx
    rcases List.mem_append.mp hx with first | second
    · exact h.fail x first
    · exact h'.fail x second
  · rw [List.getLast?_append, h'.last]
    rfl

end Append

/-! ## Outcomes -/

/-- What comes of attempts: the first that succeeds with its place, or the error of the last. -/
inductive OutcomeOf : List (Except ε α) → Except ε (Nat × α) → Prop
  | ok {xs : List (Except ε α)} {i : Nat} {a : α} (first : IsFirstSuccess xs i a) :
      OutcomeOf xs (.ok (i, a))
  | error {xs : List (Except ε α)} {e : ε} (last : IsLastError xs e) : OutcomeOf xs (.error e)

/-- The outcome of attempts after which others are made, the first of which has the place `n`: the
    others count if none of the first succeeds. -/
def fallBack (n : Nat) (first others : Except ε (Nat × α)) : Except ε (Nat × α) :=
  match first with
  | .ok found => .ok found
  | .error _ => others.map fun (i, a) => (n + i, a)

namespace OutcomeOf

variable {xs ys : List (Except ε α)} {res res' : Except ε (Nat × α)} {i : Nat} {a : α} {e : ε}

theorem isFirstSuccess (h : OutcomeOf xs (.ok (i, a))) : IsFirstSuccess xs i a := by
  cases h with
  | ok first => exact first

theorem isLastError (h : OutcomeOf xs (.error e)) : IsLastError xs e := by
  cases h with
  | error last => exact last

/-- Attempts come to one thing only. -/
theorem unique (h : OutcomeOf xs res) (h' : OutcomeOf xs res') : res = res' := by
  cases h with
  | ok first =>
      cases h' with
      | ok first' =>
          obtain ⟨place, result⟩ := first.unique first'
          rw [place, result]
      | error last => exact absurd last first.not_isLastError
  | error last =>
      cases h' with
      | ok first => exact absurd last first.not_isLastError
      | error last' => rw [Except.error.inj (Option.some.inj (last.last.symm.trans last'.last))]

theorem singleton (x : Except ε α) : OutcomeOf [x] (x.map fun a => (0, a)) := by
  cases x with
  | ok a => exact .ok ⟨rfl, fun j hj => absurd hj (Nat.not_lt_zero j)⟩
  | error e =>
      refine .error ⟨?_, rfl⟩
      intro x hx
      exact ⟨e, List.mem_singleton.mp hx⟩

/-- **Attempts after others** count if those fail, and their places come after those. -/
theorem append (h : OutcomeOf xs res) (h' : OutcomeOf ys res') :
    OutcomeOf (xs ++ ys) (fallBack xs.length res res') := by
  cases h with
  | ok first => exact .ok (first.append_right ys)
  | error last =>
      cases h' with
      | ok first => exact .ok (first.append_left last)
      | error last' => exact .error (last.append last')

end OutcomeOf

/-- Goes over attempts once, the first of which has the place `i`, and keeps the result so far: a
    success ends it, and a failure gives way to the next attempt. -/
def tryOn (i : Nat) : Except ε (Nat × α) → List (Except ε α) → Except ε (Nat × α)
  | res, [] => res
  | .ok found, _ :: _ => .ok found
  | .error _, x :: xs => tryOn (i + 1) (x.map fun a => (i, a)) xs

/-- What is kept to the end is the outcome of all the attempts. -/
theorem OutcomeOf.tryOn {before : List (Except ε α)} {res : Except ε (Nat × α)}
    (h : OutcomeOf before res) (xs : List (Except ε α)) :
    OutcomeOf (before ++ xs) (tryOn before.length res xs) := by
  induction xs generalizing before res with
  | nil =>
      rw [List.append_nil]
      cases res <;> exact h
  | cons x xs ih =>
      cases h with
      | ok first => exact .ok (first.append_right (x :: xs))
      | @error e last =>
          -- The invariant: what is kept is the outcome of the attempts so far, now with `x`.
          have next := ih ((OutcomeOf.error last).append (.singleton x))
          rw [List.append_assoc, List.singleton_append, List.length_append,
            List.length_singleton] at next
          have kept : fallBack before.length (.error e) (x.map fun a => (0, a)) =
              x.map fun a => (before.length, a) := by
            cases x <;> rfl
          rw [kept] at next
          exact next

namespace Reader

/-! ## Readers -/

/-- What becomes of a line by each of some readers. -/
def attempts (line : String) (readers : List Reader) : List (Except FieldError (List Value)) :=
  readers.map (·.read line)

variable {line : String} {first : Reader} {rest : List Reader}

/-- Trying the first reader and then the others gives the outcome of all attempts. -/
theorem outcomeOf_readFirst (line : String) (first : Reader) (rest : List Reader) :
    OutcomeOf (attempts line (first :: rest)) (readFirst line first rest) := by
  induction rest generalizing first with
  | nil => exact .singleton (first.read line)
  | cons next rest ih =>
      have both := (OutcomeOf.singleton (first.read line)).append (ih next)
      have step : fallBack 1 ((first.read line).map fun values => (0, values))
          (readFirst line next rest) = readFirst line first (next :: rest) := by
        rw [readFirst]
        cases first.read line with
        | ok values => rfl
        | error e => simp only [fallBack, Except.map, Nat.add_comm 1]
      rw [← step]
      exact both

/-- **Both ways** of trying readers come to the same. -/
theorem readFirst_eq_tryOn (line : String) (first : Reader) (rest : List Reader) :
    readFirst line first rest =
      tryOn 1 ((first.read line).map fun values => (0, values)) (attempts line rest) :=
  (outcomeOf_readFirst line first rest).unique
    ((OutcomeOf.singleton (first.read line)).tryOn (attempts line rest))

theorem getElem?_attempts {readers : List Reader} {i : Nat}
    {result : Except FieldError (List Value)} :
    (attempts line readers)[i]? = some result ↔
      ∃ r, readers[i]? = some r ∧ r.read line = result := by
  rw [attempts, List.getElem?_map, Option.map_eq_some_iff]

theorem readFirst_eq_ok_iff {i : Nat} {values : List Value} :
    readFirst line first rest = .ok (i, values) ↔
      (∃ r, (first :: rest)[i]? = some r ∧ r.read line = .ok values) ∧
      ∀ j < i, ∃ r e, (first :: rest)[j]? = some r ∧ r.read line = .error e := by
  constructor
  · intro h
    have outcome := outcomeOf_readFirst line first rest
    rw [h] at outcome
    have success := outcome.isFirstSuccess
    refine ⟨getElem?_attempts.mp success.place, ?_⟩
    intro j hj
    obtain ⟨e, fails⟩ := success.earlier j hj
    obtain ⟨r, hr, read⟩ := getElem?_attempts.mp fails
    exact ⟨r, e, hr, read⟩
  · rintro ⟨success, earlier⟩
    refine (outcomeOf_readFirst line first rest).unique (.ok ⟨getElem?_attempts.mpr success, ?_⟩)
    intro j hj
    obtain ⟨r, e, hr, read⟩ := earlier j hj
    exact ⟨e, getElem?_attempts.mpr ⟨r, hr, read⟩⟩

theorem readFirst_eq_error_iff {e : FieldError} :
    readFirst line first rest = .error e ↔
      (∀ r ∈ first :: rest, ∃ e', r.read line = .error e') ∧
      ((first :: rest).getLast (List.cons_ne_nil first rest)).read line = .error e := by
  have last : (attempts line (first :: rest)).getLast? =
      some (((first :: rest).getLast (List.cons_ne_nil first rest)).read line) := by
    rw [attempts, List.getLast?_map, List.getLast?_eq_some_getLast (List.cons_ne_nil first rest)]
    rfl
  constructor
  · intro h
    have outcome := outcomeOf_readFirst line first rest
    rw [h] at outcome
    have failure := outcome.isLastError
    refine ⟨?_, Option.some.inj (last.symm.trans failure.last)⟩
    intro r hr
    exact failure.fail _ (List.mem_map_of_mem hr)
  · rintro ⟨fail, read⟩
    refine (outcomeOf_readFirst line first rest).unique (.error ⟨?_, ?_⟩)
    · intro x hx
      obtain ⟨r, hr, rfl⟩ := List.mem_map.mp hx
      exact fail r hr
    · rw [last, read]

/-- A line is read by one of some readers exactly if one of them reads it. -/
theorem exists_readFirst_iff :
    (∃ i values, readFirst line first rest = .ok (i, values)) ↔
      ∃ r ∈ first :: rest, ∃ values, r.read line = .ok values := by
  constructor
  · rintro ⟨i, values, h⟩
    obtain ⟨⟨r, hr, read⟩, -⟩ := readFirst_eq_ok_iff.mp h
    exact ⟨r, List.mem_of_getElem? hr, values, read⟩
  · rintro ⟨r, hr, values, read⟩
    cases h : readFirst line first rest with
    | ok found => exact ⟨found.1, found.2, rfl⟩
    | error e =>
        obtain ⟨e', fails⟩ := (readFirst_eq_error_iff.mp h).1 r hr
        rw [read] at fails
        cases fails

/-- **The first success or the last error.** A line is read by the first reader that converts it, if
    one does, and otherwise has the error of the last reader. -/
theorem readFirst_first_success (line : String) (first : Reader) (rest : List Reader) :
    readFirst line first rest =
      tryOn 1 ((first.read line).map fun values => (0, values)) (attempts line rest) ∧
    ((∃ i values, readFirst line first rest = .ok (i, values)) ↔
      ∃ r ∈ first :: rest, ∃ values, r.read line = .ok values) ∧
    (∀ i values, readFirst line first rest = .ok (i, values) ↔
      (∃ r, (first :: rest)[i]? = some r ∧ r.read line = .ok values) ∧
      ∀ j < i, ∃ r e, (first :: rest)[j]? = some r ∧ r.read line = .error e) ∧
    ∀ e, readFirst line first rest = .error e ↔
      (∀ r ∈ first :: rest, ∃ e', r.read line = .error e') ∧
      ((first :: rest).getLast (List.cons_ne_nil first rest)).read line = .error e :=
  ⟨readFirst_eq_tryOn line first rest, exists_readFirst_iff, fun _ _ => readFirst_eq_ok_iff,
    fun _ => readFirst_eq_error_iff⟩

/-! ## Readers of one size -/

/-- The first of readers of one size that converts the line is the best of them. -/
theorem best?_of_readFirst_eq_ok {n i : Nat} {values : List Value}
    (equalSizes : ∀ r ∈ first :: rest, r.size = n)
    (h : readFirst line first rest = .ok (i, values)) :
    best? (first :: rest) line = some (i, n) := by
  obtain ⟨⟨r, hr, read⟩, earlier⟩ := readFirst_eq_ok_iff.mp h
  rw [best?_eq_some_iff]
  refine ⟨⟨r, hr, ?_⟩, ?_, ?_⟩
  · rw [score_eq_size_of_read_eq_ok read, equalSizes r (List.mem_of_getElem? hr)]
  · intro other ho
    rw [← equalSizes other ho]
    exact other.score_le_size line
  · intro j hj other ho
    obtain ⟨failing, e, hf, fails⟩ := earlier j hj
    rw [hf] at ho
    rw [← Option.some.inj ho, ← equalSizes failing (List.mem_of_getElem? hf)]
    exact score_lt_size_of_read_eq_error fails

/-- **Among readers of one size** the first that converts a line is the best of them, and there is one
    that does exactly if the best converts all its fields. -/
theorem readFirst_place_eq_best? (line : String) (first : Reader) (rest : List Reader) (n : Nat)
    (equalSizes : ∀ r ∈ first :: rest, r.size = n) :
    ∃ i m, best? (first :: rest) line = some (i, m) ∧
      ((∃ place values, readFirst line first rest = .ok (place, values)) ↔ m = n) ∧
      ∀ place values, readFirst line first rest = .ok (place, values) → place = i := by
  obtain ⟨i, m, best⟩ := exists_best? (List.cons_ne_nil first rest) line
  refine ⟨i, m, best, ⟨?_, ?_⟩, ?_⟩
  · rintro ⟨place, values, h⟩
    have same := best.symm.trans (best?_of_readFirst_eq_ok equalSizes h)
    exact (Prod.mk.inj (Option.some.inj same)).2
  · rintro rfl
    obtain ⟨⟨r, hr, score⟩, -⟩ := best?_eq_some_iff.mp best
    have member := List.mem_of_getElem? hr
    rw [← equalSizes r member] at score
    exact exists_readFirst_iff.mpr ⟨r, member, (r.read_iff_score line).1.mpr score⟩
  · intro place values h
    have same := best.symm.trans (best?_of_readFirst_eq_ok equalSizes h)
    exact (Prod.mk.inj (Option.some.inj same)).1.symm

/-- Of three readers of two fields the first does not convert the line. The other two do, under
    different settings, and it is the earlier of them that reads the line and that is best. -/
theorem readFirst_place_eq_best?_tie :
    ∃ number untrimmed texts : Reader, ofFormat "I2,A1" {} = .ok number ∧
      ofFormat "A1,I2" { trimText := false } = .ok untrimmed ∧ ofFormat "A2,A1" {} = .ok texts ∧
      (∀ r ∈ [number, untrimmed, texts], r.size = 2) ∧
      readFirst "x42" number [untrimmed, texts] = .ok (1, [.text "x", .integer 42]) ∧
      best? [number, untrimmed, texts] "x42" = some (1, 2) := by
  let number : Reader :=
    ⟨"I2,A1", {}, [⟨1, .field .integer, 2, none⟩, ⟨1, .field .text, 1, none⟩], _, rfl, rfl⟩
  let untrimmed : Reader := ⟨"A1,I2", { trimText := false },
    [⟨1, .field .text, 1, none⟩, ⟨1, .field .integer, 2, none⟩], _, rfl, rfl⟩
  let texts : Reader :=
    ⟨"A2,A1", {}, [⟨1, .field .text, 2, none⟩, ⟨1, .field .text, 1, none⟩], _, rfl, rfl⟩
  have sizes : ∀ r ∈ [number, untrimmed, texts], r.size = 2 := by
    intro r hr
    rcases List.mem_cons.mp hr with rfl | hr
    · rfl
    · rcases List.mem_cons.mp hr with rfl | hr
      · rfl
      · rw [List.mem_singleton.mp hr]
        rfl
  have read : readFirst "x42" number [untrimmed, texts] = .ok (1, [.text "x", .integer 42]) := rfl
  obtain ⟨i, m, best, all, place⟩ :=
    readFirst_place_eq_best? "x42" number [untrimmed, texts] 2 sizes
  obtain rfl := all.mp ⟨1, _, read⟩
  obtain rfl := place 1 _ read
  exact ⟨number, untrimmed, texts, rfl, rfl, rfl, sizes, read, best⟩

end Reader

end FixedColumns
