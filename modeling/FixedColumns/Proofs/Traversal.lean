import Mathlib.Data.List.Forall2

/-!
# `FixedColumns.Proofs.Traversal` — going through a list until something fails

`List.mapM` in `Except` stops at the first element that fails. These are the laws of it that formats
and lines have in common: what success and failure mean for the elements, how a change of the elements'
results or errors carries over to the whole, and what two lists side by side come to.
-/

namespace FixedColumns

variable {α β ε : Type}

/-- One thing after another succeeds if the first does and then, with its result, the second. -/
theorem bind_eq_ok_iff {x : Except ε α} {f : α → Except ε β} {b : β} :
    x >>= f = .ok b ↔ ∃ a, x = .ok a ∧ f a = .ok b := by
  cases x with
  | error e =>
      constructor
      · intro h
        exact nomatch h
      · rintro ⟨a, h, _⟩
        exact nomatch h
  | ok a =>
      constructor
      · intro h
        exact ⟨a, rfl, h⟩
      · rintro ⟨other, h, hf⟩
        rw [Except.ok.inj h]
        exact hf

/-- What is a result after its change was one before. -/
theorem map_eq_ok_iff {x : Except ε α} {g : α → β} {b : β} :
    x.map g = .ok b ↔ ∃ a, x = .ok a ∧ g a = b := by
  cases x with
  | error e =>
      constructor
      · intro h
        exact nomatch h
      · rintro ⟨a, h, _⟩
        exact nomatch h
  | ok a =>
      constructor
      · intro h
        exact ⟨a, rfl, Except.ok.inj h⟩
      · rintro ⟨other, h, hg⟩
        rw [Except.ok.inj h, ← hg]
        rfl

/-- A change of the error leaves a result as it is. -/
theorem mapError_eq_ok_iff {ζ : Type} {x : Except ε α} {g : ε → ζ} {a : α} :
    x.mapError g = .ok a ↔ x = .ok a := by
  cases x with
  | error e =>
      constructor
      · intro h
        exact nomatch h
      · intro h
        exact nomatch h
  | ok b =>
      constructor
      · intro h
        exact congrArg Except.ok (Except.ok.inj h)
      · intro h
        exact congrArg Except.ok (Except.ok.inj h)

/-- What is an error after its change was one before. -/
theorem mapError_eq_error_iff {ζ : Type} {x : Except ε α} {g : ε → ζ} {z : ζ} :
    x.mapError g = .error z ↔ ∃ e, x = .error e ∧ g e = z := by
  cases x with
  | error e =>
      constructor
      · intro h
        exact ⟨e, rfl, Except.error.inj h⟩
      · rintro ⟨other, h, hg⟩
        rw [Except.error.inj h, ← hg]
        rfl
  | ok a =>
      constructor
      · intro h
        exact nomatch h
      · rintro ⟨e, h, _⟩
        exact nomatch h

/-- A change that keeps errors apart tells which error it was. -/
theorem mapError_eq_error_iff_of_injective {ζ : Type} {x : Except ε α} {g : ε → ζ}
    (injective : ∀ {a b}, g a = g b → a = b) (e : ε) :
    x.mapError g = .error (g e) ↔ x = .error e := by
  rw [mapError_eq_error_iff]
  constructor
  · rintro ⟨other, h, same⟩
    rw [h, injective same]
  · intro h
    exact ⟨e, h, rfl⟩

/-- What stands opposite an element of a list. -/
theorem exists_getElem?_of_forall₂ {R : α → β → Prop} {xs : List α} {ys : List β}
    (h : List.Forall₂ R xs ys) {i : Nat} {x : α} (hx : xs[i]? = some x) :
    ∃ y, ys[i]? = some y ∧ R x y := by
  induction h generalizing i with
  | nil => exact nomatch hx
  | cons first _ ih =>
      cases i with
      | zero =>
          rw [← Option.some.inj hx]
          exact ⟨_, rfl, first⟩
      | succ i => exact ih hx

/-- Going through a list succeeds exactly if every element does, each with its result. -/
theorem mapM_eq_ok_iff {f : α → Except ε β} {xs : List α} {ys : List β} :
    xs.mapM f = .ok ys ↔ List.Forall₂ (fun x y => f x = .ok y) xs ys := by
  induction xs generalizing ys with
  | nil =>
      rw [List.forall₂_nil_left_iff, List.mapM_nil]
      constructor
      · intro h
        exact (Except.ok.inj h).symm
      · rintro rfl
        rfl
  | cons x xs ih =>
      rw [List.mapM_cons, List.forall₂_cons_left_iff, bind_eq_ok_iff]
      constructor
      · rintro ⟨y, hy, h⟩
        obtain ⟨more, hmore, h⟩ := bind_eq_ok_iff.mp h
        exact ⟨y, more, hy, ih.mp hmore, (Except.ok.inj h).symm⟩
      · rintro ⟨y, more, hy, hmore, rfl⟩
        exact ⟨y, hy, bind_eq_ok_iff.mpr ⟨more, ih.mpr hmore, rfl⟩⟩

/-- Every result of going through a list is that of an element. -/
theorem exists_mem_of_mapM_eq_ok {f : α → Except ε β} {xs : List α} {ys : List β}
    (h : xs.mapM f = .ok ys) {y : β} (hy : y ∈ ys) : ∃ x ∈ xs, f x = .ok y := by
  obtain ⟨i, hi⟩ := List.mem_iff_getElem?.mp hy
  obtain ⟨x, hx, hf⟩ := exists_getElem?_of_forall₂ (mapM_eq_ok_iff.mp h).flip hi
  exact ⟨x, List.mem_of_getElem? hx, hf⟩

/-- Every element of a list that was gone through has a result. -/
theorem exists_eq_ok_of_mapM_eq_ok {f : α → Except ε β} {xs : List α} {ys : List β}
    (h : xs.mapM f = .ok ys) {x : α} (hx : x ∈ xs) : ∃ y, f x = .ok y := by
  obtain ⟨i, hi⟩ := List.mem_iff_getElem?.mp hx
  obtain ⟨y, _, hf⟩ := exists_getElem?_of_forall₂ (mapM_eq_ok_iff.mp h) hi
  exact ⟨y, hf⟩

/-- Going through the images of a list succeeds if each of them does. -/
theorem mapM_map_eq_ok {γ : Type} {f : β → Except ε γ} {g : α → β} {k : α → γ} {xs : List α}
    (h : ∀ x ∈ xs, f (g x) = .ok (k x)) : (xs.map g).mapM f = .ok (xs.map k) := by
  rw [mapM_eq_ok_iff, List.forall₂_map_left_iff, List.forall₂_map_right_iff, List.forall₂_same]
  exact h

/-- Going through a list fails with the error of its first element that fails. -/
theorem exists_first_of_mapM_eq_error {f : α → Except ε β} {xs : List α} {e : ε}
    (h : xs.mapM f = .error e) :
    ∃ before x after, xs = before ++ x :: after ∧ (∀ y ∈ before, ∃ z, f y = .ok z) ∧
      f x = .error e := by
  induction xs with
  | nil =>
      rw [List.mapM_nil] at h
      exact nomatch h
  | cons x xs ih =>
      rw [List.mapM_cons] at h
      cases hx : f x with
      | error other =>
          rw [hx] at h
          have same : other = e := Except.error.inj h
          exact ⟨[], x, xs, rfl, fun y hy => absurd hy List.not_mem_nil, by rw [hx, same]⟩
      | ok z =>
          cases hxs : xs.mapM f with
          | ok zs =>
              rw [hx, hxs] at h
              exact nomatch h
          | error other =>
              rw [hx, hxs] at h
              have same : other = e := Except.error.inj h
              obtain ⟨before, y, after, rfl, succeed, fail⟩ := ih (by rw [hxs, same])
              refine ⟨x :: before, y, after, rfl, ?_, fail⟩
              intro w hw
              rcases List.mem_cons.mp hw with rfl | hw
              · exact ⟨z, hx⟩
              · exact succeed w hw

/-- Element `k` is the first that fails, and it fails with the error. -/
structure FirstError (f : α → Except ε β) (xs : List α) (k : Nat) (e : ε) : Prop where
  fails : ∃ x, xs[k]? = some x ∧ f x = .error e
  earlier : ∀ j < k, ∀ x, xs[j]? = some x → ∃ y, f x = .ok y

/-- Going through a list stops at its first element that fails. -/
theorem FirstError.mapM_eq {f : α → Except ε β} {xs : List α} {k : Nat} {e : ε}
    (h : FirstError f xs k e) : xs.mapM f = .error e := by
  induction xs generalizing k with
  | nil =>
      obtain ⟨x, hx, _⟩ := h.fails
      exact nomatch hx
  | cons x xs ih =>
      rw [List.mapM_cons]
      cases k with
      | zero =>
          obtain ⟨y, hy, fail⟩ := h.fails
          rw [← Option.some.inj hy] at fail
          rw [fail]
          rfl
      | succ k =>
          -- The element succeeds, and the failure is that of element `k` of those after it.
          obtain ⟨y, hy⟩ := h.earlier 0 (Nat.succ_pos k) x rfl
          have tail : FirstError f xs k e :=
            ⟨h.fails, fun j hj z hz => h.earlier (j + 1) (Nat.succ_lt_succ hj) z hz⟩
          rw [hy, ih tail]
          rfl

/-- Going through a list fails exactly if an element does, with the error of the first. -/
theorem mapM_eq_error_iff {f : α → Except ε β} {xs : List α} {e : ε} :
    xs.mapM f = .error e ↔ ∃ k, FirstError f xs k e := by
  constructor
  · intro h
    obtain ⟨before, x, after, rfl, succeed, fail⟩ := exists_first_of_mapM_eq_error h
    refine ⟨before.length, ⟨x, ?_, fail⟩, ?_⟩
    · rw [List.getElem?_append_right (Nat.le_refl _), Nat.sub_self]
      rfl
    · intro j hj y hy
      rw [List.getElem?_append_left hj] at hy
      exact succeed y (List.mem_of_getElem? hy)
  · rintro ⟨k, first⟩
    exact first.mapM_eq

/-- Going through a list, a first element fails or every element has its result. -/
theorem firstError_or_results (f : α → Except ε β) (xs : List α) :
    (∃ k e, FirstError f xs k e) ∨ ∃ ys, List.Forall₂ (fun x y => f x = .ok y) xs ys := by
  cases h : xs.mapM f with
  | error e =>
      obtain ⟨k, first⟩ := mapM_eq_error_iff.mp h
      exact Or.inl ⟨k, e, first⟩
  | ok ys => exact Or.inr ⟨ys, mapM_eq_ok_iff.mp h⟩

/-- Going through a list succeeds exactly if every element does. -/
theorem exists_mapM_eq_ok_iff {f : α → Except ε β} {xs : List α} :
    (∃ ys, xs.mapM f = .ok ys) ↔ ∀ x ∈ xs, ∃ y, f x = .ok y := by
  constructor
  · rintro ⟨ys, h⟩ x hx
    exact exists_eq_ok_of_mapM_eq_ok h hx
  · intro h
    rcases firstError_or_results f xs with ⟨k, e, ⟨x, hx, fail⟩, _⟩ | ⟨ys, each⟩
    · obtain ⟨y, hy⟩ := h x (List.mem_of_getElem? hx)
      rw [hy] at fail
      exact nomatch fail
    · exact ⟨ys, mapM_eq_ok_iff.mpr each⟩

/-- Going through a list fails if an element does. -/
theorem exists_mapM_eq_error {f : α → Except ε β} {xs : List α} {x : α} (hx : x ∈ xs)
    (fails : (f x).isOk = false) : ∃ e, xs.mapM f = .error e := by
  cases h : xs.mapM f with
  | error e => exact ⟨e, rfl⟩
  | ok ys =>
      obtain ⟨y, hy⟩ := exists_eq_ok_of_mapM_eq_ok h hx
      rw [hy] at fails
      exact nomatch fails

/-- Changing the error of every element changes that of going through the list. -/
theorem mapM_mapError {ζ : Type} {f : α → Except ε β} {g : ε → ζ} (xs : List α) :
    xs.mapM (fun x => (f x).mapError g) = (xs.mapM f).mapError g := by
  induction xs with
  | nil => rfl
  | cons x xs ih =>
      rw [List.mapM_cons, List.mapM_cons, ih]
      -- Only the first failure is seen: the rest counts if the first element succeeds.
      cases f x with
      | error e => rfl
      | ok y =>
          cases xs.mapM f with
          | error e => rfl
          | ok ys => rfl

/-- Changing the result of every element changes them all in what going through the list gives. -/
theorem mapM_map_result {γ : Type} {f : α → Except ε β} {g : β → γ} (xs : List α) :
    xs.mapM (fun x => (f x).map g) = (xs.mapM f).map (List.map g) := by
  induction xs with
  | nil => rfl
  | cons x xs ih =>
      rw [List.mapM_cons, List.mapM_cons, ih]
      cases f x with
      | error e => rfl
      | ok y =>
          cases xs.mapM f with
          | error e => rfl
          | ok ys => rfl

/-- Going through images is going through the list itself, if their errors are changed ones. -/
theorem mapM_map_mapError {γ ζ : Type} {f : β → Except ε γ} {f' : α → Except ζ γ} {g : ζ → ε}
    {k : α → β} (each : ∀ x, f (k x) = (f' x).mapError g) (xs : List α) :
    (xs.map k).mapM f = (xs.mapM f').mapError g := by
  rw [List.mapM_map, ← mapM_mapError]
  exact congrArg xs.mapM (funext each)

/-! ## Results up to a relation of errors -/

/-- Both succeed with the same result, or both fail with errors that stand in the relation. -/
inductive SameUpTo (R : ε → ε → Prop) : Except ε α → Except ε α → Prop
  | ok (a : α) : SameUpTo R (.ok a) (.ok a)
  | error {e e' : ε} (related : R e e') : SameUpTo R (.error e) (.error e')

theorem SameUpTo.isOk_eq {R : ε → ε → Prop} {x y : Except ε α} (h : SameUpTo R x y) :
    x.isOk = y.isOk := by
  cases h with
  | ok a => rfl
  | error related => rfl

/-- Going through a list is the same up to errors if it is for every element: the first error of the
    one and the first of the other are those of the same element. -/
theorem SameUpTo.mapM {R : ε → ε → Prop} {f g : α → Except ε β} (each : ∀ x, SameUpTo R (f x) (g x))
    (xs : List α) : SameUpTo R (xs.mapM f) (xs.mapM g) := by
  induction xs with
  | nil => exact .ok []
  | cons x xs ih =>
      rw [List.mapM_cons, List.mapM_cons]
      have first := each x
      generalize f x = own, g x = other at first ⊢
      generalize xs.mapM f = more, xs.mapM g = more' at ih ⊢
      cases first with
      | error related => exact .error related
      | ok y =>
          cases ih with
          | error related => exact .error related
          | ok ys => exact .ok (y :: ys)

/-! ## Counting results -/

theorem isOk_map {x : Except ε α} {g : α → β} : (x.map g).isOk = x.isOk := by
  cases x with
  | error e => rfl
  | ok a => rfl

theorem isOk_mapError {ζ : Type} {x : Except ε α} {g : ε → ζ} : (x.mapError g).isOk = x.isOk := by
  cases x with
  | error e => rfl
  | ok a => rfl

theorem isOk_eq_true_iff {x : Except ε α} : x.isOk = true ↔ ∃ a, x = .ok a := by
  cases x with
  | error e => simp [Except.isOk, Except.toBool]
  | ok a => simp [Except.isOk, Except.toBool]

/-- As many images have results as there are elements that do. -/
theorem countP_isOk_map {γ δ ζ : Type} {f : β → Except ε γ} {f' : α → Except ζ δ} {k : α → β}
    (each : ∀ x, (f (k x)).isOk = (f' x).isOk) (xs : List α) :
    (xs.map k).countP (fun y => (f y).isOk) = xs.countP fun x => (f' x).isOk := by
  rw [List.countP_map]
  exact congrArg xs.countP (funext each)

/-! ## Two lists side by side -/

section Pairs

variable {γ δ : Type} {R : α → γ → Prop} {xs : List α} {ys : List γ}

/-- If what succeeds in the one list does so in the other, with a result that stands in a relation to
    the first, then so does going through them. -/
theorem exists_mapM_eq_ok_of_forall₂ {f : α → Except ε β} {g : γ → Except ε δ} {S : β → δ → Prop}
    (step : ∀ x y z, R x y → f x = .ok z → ∃ w, g y = .ok w ∧ S z w)
    (h : List.Forall₂ R xs ys) {zs : List β} (hf : xs.mapM f = .ok zs) :
    ∃ ws, ys.mapM g = .ok ws ∧ List.Forall₂ S zs ws := by
  simp only [mapM_eq_ok_iff] at hf ⊢
  induction h generalizing zs with
  | nil =>
      rw [List.forall₂_nil_left_iff] at hf
      exact ⟨[], .nil, hf ▸ .nil⟩
  | cons first _ ih =>
      obtain ⟨z, zs, hz, hzs, rfl⟩ := List.forall₂_cons_left_iff.mp hf
      obtain ⟨w, hw, related⟩ := step _ _ z first hz
      obtain ⟨ws, hws, rest⟩ := ih hzs
      exact ⟨w :: ws, .cons hw hws, .cons related rest⟩

/-- If what is counted in the one list is counted in the other, then there are no fewer. -/
theorem countP_le_of_forall₂ {p : α → Bool} {q : γ → Bool}
    (step : ∀ x y, R x y → p x = true → q y = true) (h : List.Forall₂ R xs ys) :
    xs.countP p ≤ ys.countP q := by
  induction h with
  | nil => exact Nat.le_refl 0
  | @cons x y xs ys first _ ih =>
      by_cases counted : p x = true
      · rw [List.countP_cons_of_pos counted, List.countP_cons_of_pos (step x y first counted)]
        exact Nat.succ_le_succ ih
      · rw [List.countP_cons_of_neg counted]
        exact Nat.le_trans ih (List.Sublist.countP_le (List.sublist_cons_self y ys))

end Pairs

/-! ## Results that may be missing -/

/-- Going through a list gives results exactly if every element does, each its own. -/
theorem mapM_eq_some_iff {f : α → Option β} {xs : List α} {ys : List β} :
    xs.mapM f = some ys ↔ List.Forall₂ (fun x y => f x = some y) xs ys := by
  induction xs generalizing ys with
  | nil =>
      rw [List.forall₂_nil_left_iff, List.mapM_nil]
      exact ⟨fun h => (Option.some.inj h).symm, fun h => congrArg some h.symm⟩
  | cons x xs ih =>
      rw [List.mapM_cons, List.forall₂_cons_left_iff]
      constructor
      · intro h
        obtain ⟨y, hy, h⟩ := Option.bind_eq_some_iff.mp h
        obtain ⟨more, hmore, h⟩ := Option.bind_eq_some_iff.mp h
        exact ⟨y, more, hy, ih.mp hmore, (Option.some.inj h).symm⟩
      · rintro ⟨y, more, hy, hmore, rfl⟩
        exact Option.bind_eq_some_iff.mpr
          ⟨y, hy, Option.bind_eq_some_iff.mpr ⟨more, ih.mpr hmore, rfl⟩⟩

/-- If every element has a result, so has the list. -/
theorem exists_mapM_eq_some {f : α → Option β} {xs : List α}
    (h : ∀ x ∈ xs, ∃ y, f x = some y) : ∃ ys, xs.mapM f = some ys := by
  induction xs with
  | nil => exact ⟨[], rfl⟩
  | cons x xs ih =>
      obtain ⟨y, hy⟩ := h x List.mem_cons_self
      obtain ⟨ys, hys⟩ := ih fun z hz => h z (List.mem_cons_of_mem _ hz)
      refine ⟨y :: ys, ?_⟩
      rw [List.mapM_cons, hy, hys]
      rfl

end FixedColumns
