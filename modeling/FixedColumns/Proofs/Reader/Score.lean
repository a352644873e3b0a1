import FixedColumns.Proofs.Traversal
import FixedColumns.Reader.Basic
import Mathlib.Data.List.Count

/-!
# `FixedColumns.Proofs.Reader.Score` — reading a line and counting the fields that convert

`Reader.read` stops at the first field that does not convert, and `Reader.score` goes through all of
them and counts those that do. `Reader.read_iff_score` says that the two agree: a line is read
exactly if all its fields count, each value is then that of its field, and otherwise the error is
that of the first field that does not convert, before which all count.
-/

namespace FixedColumns

/-- What a text converts to is of the field's type. -/
theorem FieldType.hasType_of_convert {type : FieldType} {trimText : Bool} {text : String}
    {v : Value} (h : type.convert trimText text = .ok v) : v.HasType type := by
  cases type with
  | integer =>
      obtain ⟨n, _, rfl⟩ := map_eq_ok_iff.mp h
      trivial
  | real form =>
      obtain ⟨x, _, rfl⟩ := map_eq_ok_iff.mp h
      trivial
  | text =>
      rw [← Except.ok.inj h]
      trivial

namespace Column

/-- A field reads as what its text converts to. -/
theorem convert_of_read_eq_ok {c : Column} {trimText : Bool} {line : String} {v : Value}
    (h : c.read trimText line = .ok v) : c.type.convert trimText (c.slice line) = .ok v :=
  mapError_eq_ok_iff.mp h

/-- A field that does not convert is reported with its columns, its type and its text as it stands
    in the line. -/
theorem convert_of_read_eq_error {c : Column} {trimText : Bool} {line : String} {e : FieldError}
    (h : c.read trimText line = .error e) :
    ∃ fault, c.type.convert trimText (c.slice line) = .error fault ∧
      e = ⟨c.start, c.stop, c.type, c.slice line, fault⟩ := by
  obtain ⟨fault, reason, rfl⟩ := mapError_eq_error_iff.mp h
  exact ⟨fault, reason, rfl⟩

end Column

namespace Reader

variable {r : Reader} {line : String}

/-- The values of a line are those of its fields, each of the field's type. -/
theorem forall₂_of_read_eq_ok {values : List Value} (h : r.read line = .ok values) :
    List.Forall₂ (fun c v => c.read r.settings.trimText line = .ok v ∧ v.HasType c.type)
      r.columns values := by
  have pairs := mapM_eq_ok_iff.mp h
  apply pairs.imp
  intro c v hv
  exact ⟨hv, FieldType.hasType_of_convert (Column.convert_of_read_eq_ok hv)⟩

/-- Every field of a line that is read counts. -/
theorem score_eq_size_of_read_eq_ok {values : List Value} (h : r.read line = .ok values) :
    r.score line = r.size := by
  unfold score size
  rw [List.countP_eq_length]
  intro c hc
  obtain ⟨v, hv⟩ := exists_eq_ok_of_mapM_eq_ok h hc
  rw [hv]
  rfl

/-- Field `k` is the first that does not convert: it is `c`, and its text has the fault. -/
structure FirstFailure (r : Reader) (line : String) (k : Nat) (c : Column) (fault : Fault) :
    Prop where
  column : r.columns[k]? = some c
  earlier : ∀ j < k, ∀ b, r.columns[j]? = some b → ∃ v, b.read r.settings.trimText line = .ok v
  fault : c.type.convert r.settings.trimText (c.slice line) = .error fault

/-- The fields before the first that does not convert count, and it does not. -/
theorem FirstFailure.score_bounds {k : Nat} {c : Column} {fault : Fault}
    (h : r.FirstFailure line k c fault) : k ≤ r.score line ∧ r.score line < r.size := by
  obtain ⟨hk, _⟩ := List.getElem?_eq_some_iff.mp h.column
  have length : (r.columns.take k).length = k := by
    rw [List.length_take]
    omega
  have all : (r.columns.take k).countP (fun b => (b.read r.settings.trimText line).isOk) =
      (r.columns.take k).length := by
    rw [List.countP_eq_length]
    intro b hb
    obtain ⟨j, hj, rfl⟩ := List.mem_take_iff_getElem.mp hb
    obtain ⟨v, hv⟩ := h.earlier j (by omega) _ (List.getElem?_eq_getElem (by omega))
    rw [hv]
    rfl
  have fails : (c.read r.settings.trimText line).isOk = false := by
    unfold Column.read
    rw [h.fault]
    rfl
  constructor
  · calc k = (r.columns.take k).countP fun b => (b.read r.settings.trimText line).isOk := by
          rw [all, length]
      _ ≤ r.score line := (List.take_sublist k r.columns).countP_le
  · apply List.countP_lt_length_iff.mpr
    exact ⟨c, List.mem_of_getElem? h.column, fails⟩

/-- The error of a line that is not read is that of the first field that does not convert. -/
theorem exists_firstFailure {e : FieldError} (h : r.read line = .error e) :
    ∃ k c fault, r.FirstFailure line k c fault ∧
      e = ⟨c.start, c.stop, c.type, c.slice line, fault⟩ := by
  obtain ⟨before, c, after, split, succeed, fail⟩ := exists_first_of_mapM_eq_error h
  obtain ⟨fault, reason, text⟩ := Column.convert_of_read_eq_error fail
  refine ⟨before.length, c, fault, ⟨?_, ?_, reason⟩, text⟩
  · rw [split, List.getElem?_append_right (Nat.le_refl _), Nat.sub_self]
    rfl
  · intro j hj b hb
    rw [split, List.getElem?_append_left hj] at hb
    exact succeed b (List.mem_of_getElem? hb)

theorem score_le_size (r : Reader) (line : String) : r.score line ≤ r.size :=
  List.countP_le_length

/-- Not every field of a line that is not read counts. -/
theorem score_lt_size_of_read_eq_error {e : FieldError} (h : r.read line = .error e) :
    r.score line < r.size := by
  obtain ⟨k, c, fault, failure, -⟩ := exists_firstFailure h
  exact failure.score_bounds.2

/-- **Reading and counting agree.** -/
theorem read_iff_score (r : Reader) (line : String) :
    ((∃ values, r.read line = .ok values) ↔ r.score line = r.size) ∧
    (∀ values, r.read line = .ok values →
      List.Forall₂ (fun c v => c.read r.settings.trimText line = .ok v ∧ v.HasType c.type)
        r.columns values) ∧
    (r.score line ≠ r.size →
      ∃ k c fault, r.FirstFailure line k c fault ∧
        r.read line = .error ⟨c.start, c.stop, c.type, c.slice line, fault⟩ ∧
        k ≤ r.score line ∧ r.score line < r.size) := by
  cases h : r.read line with
  | ok values =>
      have all := score_eq_size_of_read_eq_ok h
      refine ⟨⟨fun _ => all, fun _ => ⟨values, rfl⟩⟩, ?_, fun less => absurd all less⟩
      intro values' same
      rw [← Except.ok.inj same]
      exact forall₂_of_read_eq_ok h
  | error e =>
      obtain ⟨k, c, fault, first, text⟩ := exists_firstFailure h
      obtain ⟨lower, upper⟩ := first.score_bounds
      refine ⟨⟨?_, ?_⟩, ?_, ?_⟩
      · rintro ⟨values, same⟩
        exact nomatch same
      · intro all
        omega
      · intro values same
        exact nomatch same
      · intro _
        exact ⟨k, c, fault, first, congrArg Except.error text, lower, upper⟩

end Reader

end FixedColumns
