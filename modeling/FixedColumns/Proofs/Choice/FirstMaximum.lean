import FixedColumns.Reader.Choice

/-!
# `FixedColumns.Proofs.Choice.FirstMaximum` — the reader that converts the most fields

`IsFirstMaximum` says of a place in a list of numbers that the greatest of them stands there, and
not before. A list has at most one such place, so whatever finds it finds the same: `firstMaximum`,
which goes from the end of the list to its beginning, and `scanBest`, which goes over it once and
keeps the best so far (`firstMaximum_eq_scanBest`). What is best of two lists in a row is decided by
what is best of each. `Reader.best?_first_maximum` says this of readers by their scores.
-/

namespace FixedColumns

/-! ## The first of the greatest numbers -/

/-- The number at place `i` is `m`, which no number exceeds and all before that place fall short
    of. -/
structure IsFirstMaximum (ns : List Nat) (i m : Nat) : Prop where
  place : ns[i]? = some m
  upper : ∀ n ∈ ns, n ≤ m
  earlier : ∀ j < i, ∀ n, ns[j]? = some n → n < m

namespace IsFirstMaximum

variable {ms ns : List Nat} {i j m n : Nat}

theorem singleton (n : Nat) : IsFirstMaximum [n] 0 n where
  place := rfl
  upper := fun _ hk => Nat.le_of_eq (List.mem_singleton.mp hk)
  earlier := fun j hj => absurd hj (Nat.not_lt_zero j)

/-- No two places of a list are the first of its greatest numbers. -/
theorem unique (h : IsFirstMaximum ns i m) (h' : IsFirstMaximum ns j n) : i = j ∧ m = n := by
  have same : m = n :=
    Nat.le_antisymm (h'.upper m (List.mem_of_getElem? h.place))
      (h.upper n (List.mem_of_getElem? h'.place))
  refine ⟨?_, same⟩
  rcases Nat.lt_trichotomy i j with before | here | after
  · have less := h'.earlier i before m h.place
    omega
  · exact here
  · have less := h.earlier j after n h'.place
    omega

/-- Numbers that are not greater make no difference after the list. -/
theorem append_right (h : IsFirstMaximum ms i m) (le : ∀ n ∈ ns, n ≤ m) :
    IsFirstMaximum (ms ++ ns) i m := by
  have inside : i < ms.length := (List.getElem?_eq_some_iff.mp h.place).1
  refine ⟨?_, ?_, ?_⟩
  · rw [List.getElem?_append_left inside]
    exact h.place
  · intro k hk
    rcases List.mem_append.mp hk with first | second
    · exact h.upper k first
    · exact le k second
  · intro j hj k hk
    rw [List.getElem?_append_left (Nat.lt_trans hj inside)] at hk
    exact h.earlier j hj k hk

/-- Numbers that are less stand before the list. -/
theorem append_left (h : IsFirstMaximum ns j n) (lt : ∀ m ∈ ms, m < n) :
    IsFirstMaximum (ms ++ ns) (ms.length + j) n := by
  refine ⟨?_, ?_, ?_⟩
  · rw [List.getElem?_append_right (Nat.le_add_right ..), Nat.add_sub_cancel_left]
    exact h.place
  · intro k hk
    rcases List.mem_append.mp hk with first | second
    · exact Nat.le_of_lt (lt k first)
    · exact h.upper k second
  · intro l hl k hk
    by_cases first : l < ms.length
    · rw [List.getElem?_append_left first] at hk
      exact lt k (List.mem_of_getElem? hk)
    · rw [List.getElem?_append_right (Nat.not_lt.mp first)] at hk
      exact h.earlier (l - ms.length) (by omega) k hk

/-- **Of two lists in a row** the first has the greatest number, unless the second has a greater. -/
theorem append (h : IsFirstMaximum ms i m) (h' : IsFirstMaximum ns j n) :
    if m < n then IsFirstMaximum (ms ++ ns) (ms.length + j) n
    else IsFirstMaximum (ms ++ ns) i m := by
  by_cases greater : m < n
  · rw [if_pos greater]
    exact h'.append_left fun k hk => Nat.lt_of_le_of_lt (h.upper k hk) greater
  · rw [if_neg greater]
    exact h.append_right fun k hk => Nat.le_trans (h'.upper k hk) (Nat.not_lt.mp greater)

end IsFirstMaximum

/-! ## Two ways to find it -/

/-- What is best of a list: nothing if the list is empty, and else the first of its greatest
    numbers. -/
inductive BestOf : List Nat → Option (Nat × Nat) → Prop
  | none : BestOf [] none
  | some {ns : List Nat} {i m : Nat} (first : IsFirstMaximum ns i m) : BestOf ns (some (i, m))

theorem BestOf.unique {ns : List Nat} {best other : Option (Nat × Nat)} (h : BestOf ns best)
    (h' : BestOf ns other) : best = other := by
  cases h with
  | none =>
      cases h' with
      | none => rfl
      | some first => cases first.place
  | some first =>
      cases h' with
      | none => cases first.place
      | some first' =>
          obtain ⟨place, greatest⟩ := first.unique first'
          rw [place, greatest]

/-- From the end of a list to its beginning. -/
theorem bestOf_firstMaximum (ns : List Nat) : BestOf ns (firstMaximum ns) := by
  induction ns with
  | nil => exact .none
  | cons n ns ih =>
      rw [firstMaximum]
      generalize firstMaximum ns = best at ih
      cases ih with
      | none => exact .some (.singleton n)
      | @some _ i m first =>
          have both := (IsFirstMaximum.singleton n).append first
          show BestOf (n :: ns) (if n < m then some (i + 1, m) else some (0, n))
          by_cases greater : n < m
          · rw [if_pos greater, List.length_singleton, Nat.add_comm] at both
            rw [if_pos greater]
            exact .some both
          · rw [if_neg greater] at both
            rw [if_neg greater]
            exact .some both

/-- The best so far after the number `n` at place `i`: it stays unless `n` is greater. -/
def keepBest (best : Option (Nat × Nat)) (i n : Nat) : Option (Nat × Nat) :=
  match best with
  | some (j, m) => if n ≤ m then some (j, m) else some (i, n)
  | none => some (i, n)

/-- Goes over numbers once, the first of which has the place `i`, and keeps the best so far. -/
def scanBest (best : Option (Nat × Nat)) (i : Nat) : List Nat → Option (Nat × Nat)
  | [] => best
  | n :: ns => scanBest (keepBest best i n) (i + 1) ns

/-- What is kept after one more number is the best of the numbers so far. -/
theorem BestOf.keepBest {ns : List Nat} {best : Option (Nat × Nat)} (h : BestOf ns best) (n : Nat) :
    BestOf (ns ++ [n]) (keepBest best ns.length n) := by
  cases h with
  | none => exact .some (.singleton n)
  | @some _ i m first =>
      have both := first.append (.singleton n)
      unfold FixedColumns.keepBest
      by_cases less : n ≤ m
      · rw [if_neg (Nat.not_lt.mpr less)] at both
        simp only [if_pos less]
        exact .some both
      · rw [if_pos (Nat.lt_of_not_le less)] at both
        simp only [if_neg less]
        exact .some both

/-- What is kept to the end is the best of all the numbers. -/
theorem BestOf.scanBest {before : List Nat} {best : Option (Nat × Nat)} (h : BestOf before best)
    (ns : List Nat) : BestOf (before ++ ns) (scanBest best before.length ns) := by
  induction ns generalizing before best with
  | nil =>
      rw [List.append_nil]
      exact h
  | cons n ns ih =>
      have next := ih (h.keepBest n)
      rw [List.append_assoc, List.singleton_append, List.length_append,
        List.length_singleton] at next
      exact next

/-- **Both ways** find the same. -/
theorem firstMaximum_eq_scanBest (ns : List Nat) : firstMaximum ns = scanBest none 0 ns :=
  (bestOf_firstMaximum ns).unique (BestOf.none.scanBest ns)

theorem firstMaximum_eq_some_iff {ns : List Nat} {i m : Nat} :
    firstMaximum ns = some (i, m) ↔ IsFirstMaximum ns i m := by
  constructor
  · intro h
    have best := bestOf_firstMaximum ns
    rw [h] at best
    cases best with
    | some first => exact first
  · intro first
    exact (bestOf_firstMaximum ns).unique (.some first)

theorem firstMaximum_eq_none_iff {ns : List Nat} : firstMaximum ns = none ↔ ns = [] := by
  constructor
  · intro h
    have best := bestOf_firstMaximum ns
    rw [h] at best
    cases best with
    | none => rfl
  · rintro rfl
    rfl

/-! ## Readers -/

namespace Reader

variable {readers : List Reader} {line : String}

/-- The best of some readers, if there are any, is the first that converts the most fields. -/
theorem best?_eq_some_iff {i m : Nat} :
    best? readers line = some (i, m) ↔
      (∃ r, readers[i]? = some r ∧ r.score line = m) ∧
      (∀ r ∈ readers, r.score line ≤ m) ∧
      ∀ j < i, ∀ r, readers[j]? = some r → r.score line < m := by
  unfold best?
  rw [firstMaximum_eq_some_iff]
  constructor
  · intro first
    refine ⟨?_, ?_, ?_⟩
    · have place := first.place
      rw [List.getElem?_map, Option.map_eq_some_iff] at place
      exact place
    · intro r hr
      exact first.upper _ (List.mem_map_of_mem hr)
    · intro j hj r hr
      apply first.earlier j hj
      rw [List.getElem?_map, hr]
      rfl
  · rintro ⟨⟨r, hr, rfl⟩, upper, earlier⟩
    refine ⟨?_, ?_, ?_⟩
    · rw [List.getElem?_map, hr]
      rfl
    · intro n hn
      obtain ⟨other, ho, rfl⟩ := List.mem_map.mp hn
      exact upper other ho
    · intro j hj n hn
      rw [List.getElem?_map, Option.map_eq_some_iff] at hn
      obtain ⟨other, ho, rfl⟩ := hn
      exact earlier j hj other ho

theorem best?_eq_none_iff : best? readers line = none ↔ readers = [] := by
  unfold best?
  rw [firstMaximum_eq_none_iff, List.map_eq_nil_iff]

theorem exists_best? (h : readers ≠ []) (line : String) :
    ∃ i m, best? readers line = some (i, m) := by
  cases hb : best? readers line with
  | none => exact absurd (best?_eq_none_iff.mp hb) h
  | some found => exact ⟨found.1, found.2, rfl⟩

/-- Of readers in a row the first ones have the best, unless one of the others converts more. -/
theorem best?_append {more : List Reader} {i m j n : Nat} (h : best? readers line = some (i, m))
    (h' : best? more line = some (j, n)) :
    best? (readers ++ more) line =
      if m < n then some (readers.length + j, n) else some (i, m) := by
  unfold best? at h h' ⊢
  have both := (firstMaximum_eq_some_iff.mp h).append (firstMaximum_eq_some_iff.mp h')
  rw [List.map_append]
  by_cases greater : m < n
  · rw [if_pos greater, List.length_map] at both
    rw [if_pos greater]
    exact firstMaximum_eq_some_iff.mpr both
  · rw [if_neg greater] at both
    rw [if_neg greater]
    exact firstMaximum_eq_some_iff.mpr both

/-- **The best reader is the first that converts the most fields.** -/
theorem best?_first_maximum (line : String) :
    (∀ readers : List Reader,
      best? readers line = scanBest none 0 (readers.map fun r => r.score line)) ∧
    (∀ readers, best? readers line = none ↔ readers = []) ∧
    (∀ readers i m, best? readers line = some (i, m) ↔
      (∃ r, readers[i]? = some r ∧ r.score line = m) ∧
      (∀ r ∈ readers, r.score line ≤ m) ∧
      ∀ j < i, ∀ r, readers[j]? = some r → r.score line < m) ∧
    ∀ readers more, readers ≠ [] → more ≠ [] →
      ∃ i m j n, best? readers line = some (i, m) ∧ best? more line = some (j, n) ∧
        best? (readers ++ more) line =
          if m < n then some (readers.length + j, n) else some (i, m) := by
  refine ⟨?_, ?_, ?_, ?_⟩
  · intro readers
    exact firstMaximum_eq_scanBest _
  · intro readers
    exact best?_eq_none_iff
  · intro readers i m
    exact best?_eq_some_iff
  · intro readers more filled filled'
    obtain ⟨i, m, h⟩ := exists_best? filled line
    obtain ⟨j, n, h'⟩ := exists_best? filled' line
    exact ⟨i, m, j, n, h, h', best?_append h h'⟩

/-- Of two readers that convert one field each the first is best, and one that converts two fields
    is better than both, although it comes after them. -/
theorem best?_first_maximum_tie :
    ∃ narrow wide both : Reader, ofFormat "I2" {} = .ok narrow ∧ ofFormat "A5" {} = .ok wide ∧
      ofFormat "I2,A1" {} = .ok both ∧
      best? [narrow, wide] "42x" = some (0, 1) ∧ best? [both] "42x" = some (0, 2) ∧
      best? ([narrow, wide] ++ [both]) "42x" = some (2, 2) := by
  let narrow : Reader := ⟨"I2", {}, [⟨1, .field .integer, 2, none⟩], _, rfl, rfl⟩
  let wide : Reader := ⟨"A5", {}, [⟨1, .field .text, 5, none⟩], _, rfl, rfl⟩
  let both : Reader :=
    ⟨"I2,A1", {}, [⟨1, .field .integer, 2, none⟩, ⟨1, .field .text, 1, none⟩], _, rfl, rfl⟩
  have tie : best? [narrow, wide] "42x" = some (0, 1) := rfl
  have more : best? [both] "42x" = some (0, 2) := rfl
  obtain ⟨i, m, j, n, h, h', joined⟩ := (best?_first_maximum "42x").2.2.2 [narrow, wide] [both]
    (List.cons_ne_nil _ _) (List.cons_ne_nil _ _)
  obtain ⟨rfl, rfl⟩ := Prod.mk.inj (Option.some.inj (tie.symm.trans h))
  obtain ⟨rfl, rfl⟩ := Prod.mk.inj (Option.some.inj (more.symm.trans h'))
  exact ⟨narrow, wide, both, rfl, rfl, rfl, tie, more, joined⟩

end Reader

end FixedColumns
