import FixedColumns.Proofs.Format.Pieces
import FixedColumns.Proofs.Layout.Erasure
import FixedColumns.Proofs.Reader.Formats
import FixedColumns.Proofs.Reading.Causes

/-!
# `FixedColumns.Proofs.Format.Alike` — formats that are written differently and read alike

Two pieces of formats are alike if they agree on the count, on the letter but for its case and for
`E` against `F`, and on the width if they are no skips. What else is written makes no difference to
the descriptor once its notation and decimals are erased, and erasing changes no columns and no
values. So formats whose pieces are alike have readers with the same columns, which read every line
and every source alike; only an error may name `E` where the other names `F`. This is
`Reader.read_of_piecesAlike`.
-/

namespace FixedColumns

/-! ## Pieces that are alike -/

/-- The letter of a descriptor in upper case, with `F` for `E`. -/
def codeOf (letter : Char) : Char := if letter.toUpper = 'E' then 'F' else letter.toUpper

/-- The parts agree on the count, on the letter up to its case and with `E` and `F` taken as the
    same, and on the width if they are not those of a skip. -/
structure Parts.Alike (p q : Parts) : Prop where
  count : p.countValue = q.countValue
  code : codeOf p.letter = codeOf q.letter
  width : p.kind ≠ .skip → p.width?.elim 0 Digits.value = q.width?.elim 0 Digits.value

/-- Two pieces of formats are written alike. -/
def PiecesAlike (piece other : List Char) : Prop :=
  ∃ p q : Parts, p.text = piece ∧ q.text = other ∧ p.Alike q

namespace Parts

variable {p q : Parts}

/-- Letters that are alike are those of the same kind, but for the notation of real numbers. -/
theorem Alike.eraseForm_kind (h : p.Alike q) : p.kind.eraseForm = q.kind.eraseForm := by
  have all : ∀ entry ∈ Kind.letters, ∀ entry' ∈ Kind.letters,
      codeOf entry.1 = codeOf entry'.1 → entry.2.eraseForm = entry'.2.eraseForm := by decide
  exact all (p.letter, p.kind) p.named (q.letter, q.kind) q.named h.code

theorem Alike.widthValue_eq (h : p.Alike q) : p.widthValue = q.widthValue := by
  have kinds := h.eraseForm_kind
  unfold widthValue
  -- Whatever is written, a skip is one column wide; and one of two that are alike is no skip alone.
  cases hp : p.kind with
  | skip =>
      cases hq : q.kind with
      | skip => rfl
      | field type =>
          rw [hp, hq] at kinds
          exact nomatch kinds
  | field type =>
      cases hq : q.kind with
      | skip =>
          rw [hp, hq] at kinds
          exact nomatch kinds
      | field type' => exact h.width (by rw [hp]; exact nofun)

/-- Parts that are alike stand for the same descriptor, once it is erased. -/
theorem Alike.erase_descriptor (h : p.Alike q) : p.descriptor.erase = q.descriptor.erase := by
  unfold Descriptor.erase
  show (⟨p.countValue, p.kind.eraseForm, p.widthValue, none⟩ : Descriptor) =
    ⟨q.countValue, q.kind.eraseForm, q.widthValue, none⟩
  rw [h.count, h.eraseForm_kind, h.widthValue_eq]

end Parts

/-- Pieces that are alike read as the same descriptor, once it is erased. -/
theorem PiecesAlike.erase_eq {piece other : List Char} {d e : Descriptor}
    (h : PiecesAlike piece other) (hd : Descriptor.parse piece = .ok d)
    (he : Descriptor.parse other = .ok e) : d.erase = e.erase := by
  obtain ⟨p, q, hp, hq, alike⟩ := h
  obtain ⟨p', hp', _, _, rfl⟩ := Descriptor.exists_parts_of_parse hd
  obtain ⟨q', hq', _, _, rfl⟩ := Descriptor.exists_parts_of_parse he
  -- A text has its parts once, so these are the ones that are alike.
  rw [Parts.text_injective (hp'.trans hp.symm), Parts.text_injective (hq'.trans hq.symm)]
  exact alike.erase_descriptor

/-- Formats whose pieces are alike read as the same descriptors, once they are erased. -/
theorem Format.map_erase_eq {pieces others : List (List Char)} {ds es : List Descriptor}
    (alike : List.Forall₂ PiecesAlike pieces others)
    (hd : List.Forall₂ (fun piece d => Descriptor.parse piece = .ok d) pieces ds)
    (he : List.Forall₂ (fun piece e => Descriptor.parse piece = .ok e) others es) :
    ds.map Descriptor.erase = es.map Descriptor.erase := by
  induction alike generalizing ds es with
  | nil =>
      rw [List.forall₂_nil_left_iff.mp hd, List.forall₂_nil_left_iff.mp he]
  | cons first _ ih =>
      obtain ⟨d, ds, own, hds, rfl⟩ := List.forall₂_cons_left_iff.mp hd
      obtain ⟨e, es, own', hes, rfl⟩ := List.forall₂_cons_left_iff.mp he
      rw [List.map_cons, List.map_cons, first.erase_eq own own', ih hds hes]

/-! ## Readers that differ in notation only -/

namespace Reader

section Erased

variable {r other : Reader}
  (columns : r.columns.map Column.eraseForm = other.columns.map Column.eraseForm)

include columns

theorem bounds_of_map_eraseForm :
    r.columns.map (fun c => (c.start, c.stop)) =
      other.columns.map fun c => (c.start, c.stop) := by
  have bounds := congrArg (List.map fun c : Column => (c.start, c.stop)) columns
  rw [List.map_map, List.map_map] at bounds
  exact bounds

theorem readTrimming_of_map_eraseForm (trimText : Bool) (line : String) :
    (r.readTrimming trimText line).mapError FieldError.eraseForm =
      (other.readTrimming trimText line).mapError FieldError.eraseForm := by
  unfold readTrimming
  rw [← Column.mapM_read_eraseForm, ← Column.mapM_read_eraseForm, columns]

theorem score_of_map_eraseForm (same : r.settings = other.settings) (line : String) :
    r.score line = other.score line := by
  unfold score
  rw [← Column.countP_read_eraseForm r.columns, columns, Column.countP_read_eraseForm, same]

/-- The same rows come of every source. -/
theorem result_eq_ok_of_map_eraseForm (s : Settings) (source : List UInt8)
    {rows : List (List Value)} (h : (r.readSourceBy s source).result = .ok rows) :
    (other.readSourceBy s source).result = .ok rows := by
  have readings := readSourceBy_mapCause (readTrimming_of_map_eraseForm columns) s source
  have results : (r.readSourceBy s source).result.mapError _ =
      (other.readSourceBy s source).result.mapError _ := congrArg Reading.result readings
  rw [h] at results
  exact mapError_eq_ok_iff.mp results.symm

end Erased

/-- **Formats that are written alike read alike.** -/
theorem read_of_piecesAlike {f g : String} {s t : Settings} {r other : Reader}
    (hf : ofFormat f s = .ok r) (hg : ofFormat g t = .ok other)
    (alike : List.Forall₂ PiecesAlike (Format.pieces f.toList) (Format.pieces g.toList)) :
    r.columns.map (fun c => (c.start, c.stop)) =
      other.columns.map (fun c => (c.start, c.stop)) ∧
    r.layout.width = other.layout.width ∧
    (s = t → ∀ line,
      (r.read line).mapError FieldError.eraseForm =
        (other.read line).mapError FieldError.eraseForm ∧
      r.score line = other.score line) ∧
    ∀ u source,
      (r.readSourceBy u source).mapCause FieldError.eraseForm =
        (other.readSourceBy u source).mapCause FieldError.eraseForm ∧
      ∀ rows, (r.readSourceBy u source).result = .ok rows ↔
        (other.readSourceBy u source).result = .ok rows := by
  obtain ⟨rfl, hs⟩ := format_of_ofFormat hf
  obtain ⟨rfl, ht⟩ := format_of_ofFormat hg
  have erased : r.descriptors.map Descriptor.erase = other.descriptors.map Descriptor.erase :=
    Format.map_erase_eq alike (mapM_eq_ok_iff.mp r.parsed) (mapM_eq_ok_iff.mp other.parsed)
  have columns : r.columns.map Column.eraseForm = other.columns.map Column.eraseForm := by
    rw [columns_eq, columns_eq, ← Layout.columnsFrom_map_erase, ← Layout.columnsFrom_map_erase,
      erased]
  have width : r.layout.width = other.layout.width := by
    rw [width_eq, width_eq, ← Layout.spanOf_map_erase, erased, Layout.spanOf_map_erase]
  refine ⟨bounds_of_map_eraseForm columns, width, ?_, ?_⟩
  · intro hst line
    have same : r.settings = other.settings := by rw [hs, ht, hst]
    refine ⟨?_, score_of_map_eraseForm columns same line⟩
    unfold read
    rw [same]
    exact readTrimming_of_map_eraseForm columns other.settings.trimText line
  · intro u source
    refine ⟨readSourceBy_mapCause (readTrimming_of_map_eraseForm columns) u source, ?_⟩
    intro rows
    constructor
    · exact result_eq_ok_of_map_eraseForm columns u source
    · exact result_eq_ok_of_map_eraseForm columns.symm u source

/-- Two real numbers, a skip and a text: a leading zero, a count that is left out, letters of both
    cases, decimals, and a width on the skip. -/
theorem read_of_piecesAlike_real_skip_text :
    ∃ r other, ofFormat "02e4.1,x7,A3" {} = .ok r ∧ ofFormat "2F4,1X,a03.5" {} = .ok other ∧
      List.Forall₂ PiecesAlike (Format.pieces "02e4.1,x7,A3".toList)
        (Format.pieces "2F4,1X,a03.5".toList) ∧
      r.columns.map (fun c => (c.start, c.stop)) =
        other.columns.map (fun c => (c.start, c.stop)) ∧
      r.layout.width = other.layout.width ∧
      (r.read "-1.5+.x2 abc").mapError FieldError.eraseForm =
        (other.read "-1.5+.x2 abc").mapError FieldError.eraseForm ∧
      r.read "-1.5+.x2 abc" = .error ⟨4, 8, .real .exponential, "+.x2", .real .invalid⟩ ∧
      other.read "-1.5+.x2 abc" = .error ⟨4, 8, .real .fixed, "+.x2", .real .invalid⟩ := by
  let r : Reader := ⟨"02e4.1,x7,A3", {}, [⟨2, .field (.real .exponential), 4, some 1⟩,
    ⟨1, .skip, 1, none⟩, ⟨1, .field .text, 3, none⟩], _, rfl, rfl⟩
  let other : Reader := ⟨"2F4,1X,a03.5", {}, [⟨2, .field (.real .fixed), 4, none⟩,
    ⟨1, .skip, 1, none⟩, ⟨1, .field .text, 3, some 5⟩], _, rfl, rfl⟩
  have first : PiecesAlike "02e4.1".toList "2F4".toList :=
    ⟨⟨some ⟨['0', '2'], nofun, by decide⟩, 'e', .field (.real .exponential), by decide,
        some (numeral 4, some (numeral 1))⟩,
      ⟨some (numeral 2), 'F', .field (.real .fixed), by decide, some (numeral 4, none)⟩,
      rfl, rfl, rfl, by decide, fun _ => rfl⟩
  have second : PiecesAlike "x7".toList "1X".toList :=
    ⟨⟨none, 'x', .skip, by decide, some (numeral 7, none)⟩,
      ⟨some (numeral 1), 'X', .skip, by decide, none⟩,
      rfl, rfl, rfl, by decide, fun field => absurd rfl field⟩
  have third : PiecesAlike "A3".toList "a03.5".toList :=
    ⟨⟨none, 'A', .field .text, by decide, some (numeral 3, none)⟩,
      ⟨none, 'a', .field .text, by decide,
        some (⟨['0', '3'], nofun, by decide⟩, some (numeral 5))⟩,
      rfl, rfl, rfl, by decide, fun _ => rfl⟩
  have alike : List.Forall₂ PiecesAlike (Format.pieces "02e4.1,x7,A3".toList)
      (Format.pieces "2F4,1X,a03.5".toList) :=
    .cons first (.cons second (.cons third .nil))
  have made : ofFormat "02e4.1,x7,A3" {} = .ok r := rfl
  have made' : ofFormat "2F4,1X,a03.5" {} = .ok other := rfl
  obtain ⟨bounds, width, reads, _⟩ := read_of_piecesAlike made made' alike
  exact ⟨r, other, made, made', alike, bounds, width, (reads rfl "-1.5+.x2 abc").1, rfl, rfl⟩

end Reader

end FixedColumns
