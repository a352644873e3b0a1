import FixedColumns.Frame
import Mathlib.Data.List.Induction
import Mathlib.Data.List.Nodup

/-!
# `FixedColumns.Proofs.Frame.Schema` — schemas under names that may repeat

A schema has every name once. Its names stand in the order in which they come first, and each has the
type that was given with it last: `Schema.names_ofList` and `Schema.mem_ofList_iff` say this of any list
of names and types, and `Reader.isSchema_schema` of the fields of a reader. The name at a place of the
schema is the one that was given to the field at that place just as long as no name has been repeated,
`getElem?_eraseDups_iff`.
-/

namespace FixedColumns

/-! ## Elements in the order in which they come first -/

section Distinct

variable {α : Type} [BEq α] [LawfulBEq α] {xs : List α} {x : α}

/-- One more element is left out if it came before. -/
theorem eraseDups_concat_of_mem (h : x ∈ xs) : (xs ++ [x]).eraseDups = xs.eraseDups := by
  rw [List.eraseDups_append]
  simp [List.removeAll, h]

/-- One more element goes to the end if it is new. -/
theorem eraseDups_concat_of_not_mem (h : x ∉ xs) :
    (xs ++ [x]).eraseDups = xs.eraseDups ++ [x] := by
  rw [List.eraseDups_append]
  simp [List.removeAll, h, List.eraseDups_cons]

theorem nodup_eraseDups (xs : List α) : xs.eraseDups.Nodup := by
  induction xs using List.reverseRecOn with
  | nil => exact List.nodup_nil
  | append_singleton xs x ih =>
      by_cases old : x ∈ xs
      · rw [eraseDups_concat_of_mem old]
        exact ih
      · rw [eraseDups_concat_of_not_mem old]
        exact ih.append (List.nodup_singleton x) (by
          rw [List.disjoint_singleton, List.mem_eraseDups]
          exact old)

theorem eraseDups_sublist (xs : List α) : xs.eraseDups.Sublist xs := by
  induction xs using List.reverseRecOn with
  | nil => exact List.Sublist.refl _
  | append_singleton xs x ih =>
      by_cases old : x ∈ xs
      · rw [eraseDups_concat_of_mem old]
        exact ih.trans (List.sublist_append_left xs [x])
      · rw [eraseDups_concat_of_not_mem old]
        exact ih.append_right [x]

/-- Nothing is left out exactly if nothing is repeated. -/
theorem eraseDups_eq_self_iff : xs.eraseDups = xs ↔ xs.Nodup := by
  constructor
  · intro same
    rw [← same]
    exact nodup_eraseDups xs
  · intro distinct
    induction xs using List.reverseRecOn with
    | nil => rfl
    | append_singleton xs x ih =>
        obtain ⟨distinct, _, new⟩ := List.nodup_append.mp distinct
        have new : x ∉ xs := fun old => new x old x (List.mem_singleton_self x) rfl
        rw [eraseDups_concat_of_not_mem new, ih distinct]

/-- What has been kept of the first elements stays in front. -/
theorem eraseDups_take_prefix (xs : List α) (n : Nat) :
    (xs.take n).eraseDups <+: xs.eraseDups := by
  have whole : xs.eraseDups =
      (xs.take n).eraseDups ++ ((xs.drop n).removeAll (xs.take n)).eraseDups := by
    rw [← List.eraseDups_append, List.take_append_drop]
  rw [whole]
  exact List.prefix_append _ _

/-- **The element kept at a place** is the one that stood there exactly if nothing is repeated up to
    it. -/
theorem getElem?_eraseDups_iff {p : Nat} (h : xs.eraseDups[p]? = some x) :
    xs[p]? = some x ↔ (xs.take (p + 1)).Nodup := by
  obtain ⟨kept, -⟩ := List.getElem?_eq_some_iff.mp h
  have inside : p < xs.length := Nat.lt_of_lt_of_le kept (eraseDups_sublist xs).length_le
  obtain ⟨more, whole⟩ := eraseDups_take_prefix xs (p + 1)
  constructor
  · intro here
    by_contra repeated
    -- With a repetition fewer are kept, the element among them, so that it has an earlier place.
    have fewer : (xs.take (p + 1)).eraseDups.length < (xs.take (p + 1)).length := by
      apply Nat.lt_of_le_of_ne (eraseDups_sublist _).length_le
      intro same
      exact repeated (eraseDups_eq_self_iff.mp ((eraseDups_sublist _).eq_of_length same))
    rw [List.length_take] at fewer
    have member : x ∈ (xs.take (p + 1)).eraseDups := by
      rw [List.mem_eraseDups]
      exact List.mem_of_getElem? ((List.getElem?_take_of_lt (Nat.lt_succ_self p)).trans here)
    obtain ⟨q, hq⟩ := List.mem_iff_getElem?.mp member
    obtain ⟨early, -⟩ := List.getElem?_eq_some_iff.mp hq
    have twice : xs.eraseDups[q]? = xs.eraseDups[p]? := by
      rw [h, ← whole, List.getElem?_append_left early, hq]
    have same := (List.getElem?_inj (by omega) (nodup_eraseDups xs)).mp twice
    omega
  · intro distinct
    rw [← whole, eraseDups_eq_self_iff.mpr distinct, List.getElem?_append_left,
      List.getElem?_take_of_lt] at h
    · exact h
    · omega
    · rw [List.length_take]
      omega

end Distinct

/-! ## One more name -/

namespace Schema

variable {schema entries : Schema} {entry : String × SeriesType} {name : String}

/-- A name that is new goes to the end. -/
theorem put_of_not_mem (h : name ∉ schema.map Prod.fst) (type : SeriesType) :
    schema.put name type = schema ++ [(name, type)] := by
  induction schema with
  | nil => rfl
  | cons entry rest ih =>
      rw [List.map_cons, List.mem_cons, not_or] at h
      rw [put, if_neg (Ne.symm h.1), ih h.2, List.cons_append]

/-- A name that is there keeps its place. -/
theorem names_put_of_mem (h : name ∈ schema.map Prod.fst) (type : SeriesType) :
    (schema.put name type).map Prod.fst = schema.map Prod.fst := by
  induction schema with
  | nil => exact absurd h List.not_mem_nil
  | cons entry rest ih =>
      rw [put]
      split
      · rename_i same
        rw [List.map_cons, List.map_cons, same]
      · rename_i other
        rw [List.map_cons, List.map_cons, ih]
        exact (List.mem_cons.mp h).resolve_left (Ne.symm other)

/-- The name takes the new type, and every other name keeps its own. -/
theorem mem_put_iff (distinct : (schema.map Prod.fst).Nodup) (type : SeriesType) :
    entry ∈ schema.put name type ↔ entry = (name, type) ∨ entry ∈ schema ∧ entry.1 ≠ name := by
  induction schema with
  | nil => simp [put]
  | cons first rest ih =>
      rw [List.map_cons, List.nodup_cons] at distinct
      rw [put]
      split
      · rename_i same
        constructor
        · intro h
          rcases List.mem_cons.mp h with rfl | later
          · exact Or.inl rfl
          · refine Or.inr ⟨List.mem_cons_of_mem first later, ?_⟩
            rintro rfl
            exact distinct.1 (same ▸ List.mem_map_of_mem later)
        · rintro (rfl | ⟨h, other⟩)
          · exact List.mem_cons_self
          · rcases List.mem_cons.mp h with rfl | later
            · exact absurd same other
            · exact List.mem_cons_of_mem _ later
      · rename_i other
        rw [List.mem_cons, ih distinct.2, List.mem_cons]
        constructor
        · rintro (rfl | rfl | ⟨later, ne⟩)
          · exact Or.inr ⟨Or.inl rfl, other⟩
          · exact Or.inl rfl
          · exact Or.inr ⟨Or.inr later, ne⟩
        · rintro (rfl | ⟨rfl | later, ne⟩)
          · exact Or.inr (Or.inl rfl)
          · exact Or.inl rfl
          · exact Or.inr (Or.inr ⟨later, ne⟩)

/-! ## All names -/

theorem ofList_concat (entries : List (String × SeriesType)) (entry : String × SeriesType) :
    Schema.ofList (entries ++ [entry]) = (Schema.ofList entries).put entry.1 entry.2 :=
  List.foldl_concat ..

/-- **The names of a schema** are those given, each where it comes first. -/
theorem names_ofList (entries : List (String × SeriesType)) :
    (Schema.ofList entries).map Prod.fst = (entries.map Prod.fst).eraseDups := by
  induction entries using List.reverseRecOn with
  | nil => rfl
  | append_singleton entries entry ih =>
      rw [ofList_concat, List.map_append, List.map_singleton]
      by_cases old : entry.1 ∈ entries.map Prod.fst
      · have there : entry.1 ∈ (Schema.ofList entries).map Prod.fst := by
          rw [ih, List.mem_eraseDups]
          exact old
        rw [names_put_of_mem there, eraseDups_concat_of_mem old, ih]
      · have new : entry.1 ∉ (Schema.ofList entries).map Prod.fst := by
          rw [ih, List.mem_eraseDups]
          exact old
        rw [put_of_not_mem new, eraseDups_concat_of_not_mem old, List.map_append, ih,
          List.map_singleton]

/-- Names that differ give the schema of the entries as they are. -/
theorem ofList_of_nodup {entries : List (String × SeriesType)}
    (h : (entries.map Prod.fst).Nodup) : Schema.ofList entries = entries := by
  induction entries using List.reverseRecOn with
  | nil => rfl
  | append_singleton entries entry ih =>
      rw [List.map_append, List.map_singleton] at h
      obtain ⟨distinct, -, apart⟩ := List.nodup_append.mp h
      have new : entry.1 ∉ entries.map Prod.fst :=
        fun old => apart _ old _ (List.mem_singleton_self _) rfl
      rw [ofList_concat, ih distinct, put_of_not_mem new]

/-- The entry is the last of its name. -/
def LastOf (entries : List (String × SeriesType)) (entry : String × SeriesType) : Prop :=
  ∃ j, entries[j]? = some entry ∧
    ∀ (k : Nat) (later : String × SeriesType), j < k → entries[k]? = some later → later.1 ≠ entry.1

theorem lastOf_concat_iff {last : String × SeriesType} :
    LastOf (entries ++ [last]) entry ↔ entry = last ∨ LastOf entries entry ∧ entry.1 ≠ last.1 := by
  constructor
  · rintro ⟨j, here, after⟩
    rcases Nat.lt_or_ge j entries.length with before | atEnd
    · right
      rw [List.getElem?_append_left before] at here
      refine ⟨⟨j, here, ?_⟩, ?_⟩
      · intro k later hk there
        exact after k later hk (List.getElem?_append_left (List.getElem?_eq_some_iff.mp there).1 ▸ there)
      · exact (after entries.length last before List.getElem?_concat_length).symm
    · left
      have place : j = entries.length := by
        have inside := (List.getElem?_eq_some_iff.mp here).1
        rw [List.length_append, List.length_singleton] at inside
        omega
      rw [place, List.getElem?_concat_length] at here
      exact (Option.some.inj here).symm
  · rintro (rfl | ⟨⟨j, here, after⟩, other⟩)
    · refine ⟨entries.length, List.getElem?_concat_length, ?_⟩
      intro k later hk there
      have inside := (List.getElem?_eq_some_iff.mp there).1
      rw [List.length_append, List.length_singleton] at inside
      omega
    · have before := (List.getElem?_eq_some_iff.mp here).1
      refine ⟨j, (List.getElem?_append_left before).trans here, ?_⟩
      intro k later hk there
      rcases Nat.lt_or_ge k entries.length with earlier | atEnd
      · rw [List.getElem?_append_left earlier] at there
        exact after k later hk there
      · have inside := (List.getElem?_eq_some_iff.mp there).1
        rw [List.length_append, List.length_singleton] at inside
        have place : k = entries.length := by omega
        rw [place, List.getElem?_concat_length] at there
        rw [← Option.some.inj there]
        exact Ne.symm other

/-- **The types of a schema** are those given last. -/
theorem mem_ofList_iff {entries : List (String × SeriesType)} :
    entry ∈ Schema.ofList entries ↔ LastOf entries entry := by
  induction entries using List.reverseRecOn with
  | nil =>
      constructor
      · intro h
        exact absurd h List.not_mem_nil
      · rintro ⟨j, here, -⟩
        cases here
  | append_singleton entries last ih =>
      have distinct : ((Schema.ofList entries).map Prod.fst).Nodup := by
        rw [names_ofList]
        exact nodup_eraseDups _
      rw [ofList_concat, mem_put_iff distinct, lastOf_concat_iff, ih]

end Schema

/-! ## The fields of a reader -/

namespace Reader

variable {r : Reader} {names : List String}

/-- The names given, each with the type of its field. -/
def entries (r : Reader) (names : List String) : List (String × SeriesType) :=
  List.zipWith (fun c name => (name, c.type.seriesType)) r.columns names

theorem schema_eq (r : Reader) (names : List String) :
    r.schema names = Schema.ofList (r.entries names) := rfl

theorem map_fst_entries (hn : names.length = r.size) : (r.entries names).map Prod.fst = names := by
  rw [entries, List.map_zipWith, ← List.map_uncurry_zip_eq_zipWith]
  exact List.map_snd_zip (Nat.le_of_eq hn)

theorem getElem?_entries_eq_some_iff {j : Nat} {entry : String × SeriesType} :
    (r.entries names)[j]? = some entry ↔
      ∃ c, r.columns[j]? = some c ∧ names[j]? = some entry.1 ∧ c.type.seriesType = entry.2 := by
  rw [entries, List.getElem?_zipWith_eq_some]
  constructor
  · rintro ⟨c, name, hc, hname, rfl⟩
    exact ⟨c, hc, hname, rfl⟩
  · rintro ⟨c, hc, hname, type⟩
    exact ⟨c, entry.1, hc, hname, Prod.ext rfl type⟩

/-- The schema has each name where it comes first. -/
theorem names_schema (hn : names.length = r.size) :
    (r.schema names).map Prod.fst = names.eraseDups := by
  rw [schema_eq, Schema.names_ofList, map_fst_entries hn]

/-- Each name has the type of the last field that was given it. -/
theorem exists_last_of_mem_schema (hn : names.length = r.size) {entry : String × SeriesType}
    (h : entry ∈ r.schema names) :
    ∃ (j : Nat) (c : Column), names[j]? = some entry.1 ∧ r.columns[j]? = some c ∧
      entry.2 = c.type.seriesType ∧ ∀ k, j < k → names[k]? ≠ some entry.1 := by
  obtain ⟨j, here, after⟩ := Schema.mem_ofList_iff.mp h
  obtain ⟨c, hc, hname, type⟩ := getElem?_entries_eq_some_iff.mp here
  refine ⟨j, c, hname, hc, type.symm, ?_⟩
  intro k hk again
  have inside := (List.getElem?_eq_some_iff.mp again).1
  rw [hn] at inside
  have field : r.columns[k]? = some r.columns[k] := List.getElem?_eq_getElem inside
  have later : (r.entries names)[k]? = some (entry.1, r.columns[k].type.seriesType) :=
    getElem?_entries_eq_some_iff.mpr ⟨_, field, again, rfl⟩
  exact after k _ hk later rfl

/-- The schema has the names that were given, in the order in which they come first, and each with the
    type of the last field that was given it. -/
structure IsSchema (r : Reader) (names : List String) (schema : Schema) : Prop where
  order : schema.map Prod.fst = names.eraseDups
  types : ∀ entry ∈ schema, ∃ (j : Nat) (c : Column),
    names[j]? = some entry.1 ∧ r.columns[j]? = some c ∧ entry.2 = c.type.seriesType ∧
      ∀ k, j < k → names[k]? ≠ some entry.1

theorem isSchema_schema (hn : names.length = r.size) : r.IsSchema names (r.schema names) :=
  ⟨names_schema hn, fun _ h => exists_last_of_mem_schema hn h⟩

/-- There is a field at the place of every entry. -/
theorem length_schema_le (hn : names.length = r.size) : (r.schema names).length ≤ r.size := by
  calc (r.schema names).length = names.eraseDups.length := by
        rw [← names_schema hn, List.length_map]
    _ ≤ names.length := (eraseDups_sublist names).length_le
    _ = r.size := hn

end Reader

end FixedColumns
