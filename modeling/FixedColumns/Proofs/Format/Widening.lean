import FixedColumns.Decode.Line
import FixedColumns.Proofs.Format.Pieces
import FixedColumns.Proofs.Number.Widening
import FixedColumns.Proofs.Reader.Formats

/-!
# `FixedColumns.Proofs.Format.Widening` — fields of integers declared as real numbers

An integer descriptor is widened by the letter of a real number in place of its own. Widening some
descriptors of a format leaves every field at its columns, and what a field of integers accepts a field
of real numbers does too. So a format that is widened has a reader, which reads every line that was
read before and converts no fewer fields of the others; the values that were integers are the nearest
real numbers. `Reader.read_of_piecesWiden` says so, and that decoding the integer gives the same word.
-/

namespace FixedColumns

/-! ## What is widened -/

/-- A field type is widened if it is that of integers. -/
inductive FieldType.Widens : FieldType → FieldType → Prop
  | same (type : FieldType) : Widens type type
  | real (form : RealForm) : Widens .integer (.real form)

inductive Kind.Widens : Kind → Kind → Prop
  | skip : Widens .skip .skip
  | field {type wider : FieldType} (h : type.Widens wider) : Widens (.field type) (.field wider)

/-- The fields are at the same columns, and their types differ in widening at most. -/
def Column.Widens (c wider : Column) : Prop :=
  ∃ type, c.type.Widens type ∧ wider = { c with type }

/-- The descriptors differ in widening at most. -/
def Descriptor.Widens (d wider : Descriptor) : Prop :=
  ∃ kind, d.kind.Widens kind ∧ wider = { d with kind }

/-- The parts of two texts are the same, but for a letter of real numbers in place of one of
    integers. -/
structure Parts.Widens (p wider : Parts) : Prop where
  count : wider.count = p.count
  kind : p.kind.Widens wider.kind
  size : wider.size = p.size

/-- Two pieces of formats are the same, but for a letter of real numbers in place of one of
    integers. -/
def PieceWidens (piece wider : List Char) : Prop :=
  ∃ p q : Parts, p.text = piece ∧ q.text = wider ∧ p.Widens q

/-- The values are the same, or the second is the real number that is nearest to the first. -/
inductive Value.Widens : Value → Value → Prop
  | same (v : Value) : Widens v v
  | real {n : Int64} {x : Double} (nearest : x.IsNearest n.toInt) : Widens (.integer n) (.real x)

/-! ## Reading -/

/-- A wider type accepts what the type does. -/
theorem FieldType.Widens.exists_convert {type wider : FieldType} (h : type.Widens wider)
    {trimText : Bool} {text : String} {v : Value} (converted : type.convert trimText text = .ok v) :
    ∃ w, wider.convert trimText text = .ok w ∧ v.Widens w := by
  cases h with
  | same => exact ⟨v, converted, .same v⟩
  | real form =>
      obtain ⟨n, read, rfl⟩ := map_eq_ok_iff.mp converted
      obtain ⟨x, readReal, nearest, -, -⟩ := readReal_of_readInteger (mapError_eq_ok_iff.mp read)
      exact ⟨.real x, map_eq_ok_iff.mpr ⟨x, mapError_eq_ok_iff.mpr readReal, rfl⟩, .real nearest⟩

/-- A wider field accepts what the field does. -/
theorem Column.Widens.exists_read {c wider : Column} (h : c.Widens wider) {trimText : Bool}
    {line : String} {v : Value} (read : c.read trimText line = .ok v) :
    ∃ w, wider.read trimText line = .ok w ∧ v.Widens w := by
  obtain ⟨type, widens, rfl⟩ := h
  obtain ⟨w, converted, related⟩ := widens.exists_convert (mapError_eq_ok_iff.mp read)
  exact ⟨w, mapError_eq_ok_iff.mpr converted, related⟩

theorem Column.Widens.isOk_read {c wider : Column} (h : c.Widens wider) {trimText : Bool}
    {line : String} (read : (c.read trimText line).isOk = true) :
    (wider.read trimText line).isOk = true := by
  obtain ⟨v, hv⟩ := isOk_eq_true_iff.mp read
  obtain ⟨w, converted, -⟩ := h.exists_read hv
  exact isOk_eq_true_iff.mpr ⟨w, converted⟩

/-! ## Layouts -/

namespace Layout

theorem forall₂_columnsOf {d wider : Descriptor} (h : d.Widens wider) (start : Nat) :
    List.Forall₂ Column.Widens (columnsOf start d) (columnsOf start wider) := by
  obtain ⟨count, kind, width, decimals⟩ := d
  obtain ⟨kind', widens, rfl⟩ := h
  cases widens with
  | skip => exact .nil
  | field types =>
      unfold columnsOf
      rw [List.forall₂_map_left_iff, List.forall₂_map_right_iff, List.forall₂_same]
      intro i _
      exact ⟨_, types, rfl⟩

/-- Widening leaves every field at its columns. -/
theorem forall₂_columnsFrom {ds es : List Descriptor} (h : List.Forall₂ Descriptor.Widens ds es)
    (start : Nat) : List.Forall₂ Column.Widens (columnsFrom start ds) (columnsFrom start es) := by
  induction h generalizing start with
  | nil => exact .nil
  | @cons d wider ds es first _ ih =>
      have span : wider.span = d.span := by
        obtain ⟨kind, -, rfl⟩ := first
        rfl
      rw [columnsFrom, columnsFrom, span]
      exact List.rel_append (forall₂_columnsOf first start) (ih (start + d.span))

end Layout

/-! ## Formats -/

theorem Kind.Widens.isSkip_eq {kind wider : Kind} (h : kind.Widens wider) :
    wider.isSkip = kind.isSkip := by
  cases h with
  | skip => rfl
  | field types => rfl

namespace Parts.Widens

variable {p wider : Parts} (h : p.Widens wider)

include h

theorem numbers_eq : wider.numbers = p.numbers := by
  unfold numbers width? decimals?
  rw [h.count, h.size]

theorem countValue_eq : wider.countValue = p.countValue := by
  unfold countValue
  rw [h.count]

/-- The descriptors of the parts differ in widening at most. -/
theorem descriptor : p.descriptor.Widens wider.descriptor := by
  have width : wider.widthValue = p.widthValue := by
    unfold widthValue width?
    rw [h.kind.isSkip_eq, h.size]
  have decimals : wider.decimalsValue = p.decimalsValue := by
    unfold decimalsValue decimals?
    rw [h.size]
  refine ⟨wider.kind, h.kind, ?_⟩
  unfold Parts.descriptor
  rw [h.countValue_eq, width, decimals]

end Parts.Widens

/-- If a piece is a descriptor then so is the widened piece. -/
theorem PieceWidens.exists_parse {piece wider : List Char} {d : Descriptor}
    (h : PieceWidens piece wider) (parsed : Descriptor.parse piece = .ok d) :
    ∃ e, Descriptor.parse wider = .ok e ∧ d.Widens e := by
  obtain ⟨p, q, hp, rfl, widens⟩ := h
  obtain ⟨p', hp', numbers, count, rfl⟩ := Descriptor.exists_parts_of_parse parsed
  obtain rfl : p' = p := Parts.text_injective (hp'.trans hp.symm)
  refine ⟨q.descriptor, ?_, widens.descriptor⟩
  rw [Parts.parse_text (widens.numbers_eq ▸ numbers), widens.countValue_eq]
  exact if_neg (Nat.not_lt.mpr count)

namespace Reader

/-- A format that is widened has a reader, whose fields are at the same columns. -/
theorem exists_ofFormat_of_piecesWiden {f g : String} {s : Settings} {r : Reader}
    (made : ofFormat f s = .ok r)
    (widens : List.Forall₂ PieceWidens (Format.pieces f.toList) (Format.pieces g.toList)) :
    ∃ other, ofFormat g s = .ok other ∧ other.settings = r.settings ∧
      List.Forall₂ Column.Widens r.columns other.columns := by
  obtain ⟨es, parsed, descriptors⟩ := exists_mapM_eq_ok_of_forall₂
    (fun _ _ _ first => first.exists_parse) widens (parse_of_ofFormat made)
  obtain ⟨other, made', settings, rfl⟩ := exists_ofFormat parsed s
  refine ⟨other, made', settings.trans (format_of_ofFormat made).2.symm, ?_⟩
  rw [columns_eq, columns_eq]
  exact Layout.forall₂_columnsFrom descriptors 0

/-- **Integers can be read as real numbers.** -/
theorem read_of_piecesWiden :
    (∀ (text : String) (v : Int64), readInteger text.toList = .ok v →
      ∃ x : Double, readReal text.toList = .ok x ∧ x.IsNearest v.toInt ∧
        (x.isZero = true ∧ x.negative = true ↔ v = 0 ∧ '-' ∈ text.toList)) ∧
    (∀ (f g : String) (s : Settings) (r : Reader), ofFormat f s = .ok r →
      List.Forall₂ PieceWidens (Format.pieces f.toList) (Format.pieces g.toList) →
      ∃ other, ofFormat g s = .ok other ∧ ∀ line,
        (∀ values, r.read line = .ok values →
          ∃ wider, other.read line = .ok wider ∧ List.Forall₂ Value.Widens values wider) ∧
        r.score line ≤ other.score line) ∧
    ∀ (c : Column) (form : RealForm) (trimText : Bool) (line : String) (n : Int64),
      c.type = .integer → c.read trimText line = .ok (.integer n) →
      ∃ x y : Double, ({ c with type := .real form } : Column).read trimText line = .ok (.real x) ∧
        Shape.double.ofValue (.real x) = .ok (.double x) ∧
        Shape.double.ofValue (.integer n) = .ok (.double y) ∧
        (y.bits = x.bits ↔ ¬ (n = 0 ∧ '-' ∈ (c.slice line).toList)) := by
  refine ⟨?_, ?_, ?_⟩
  · intro text v read
    obtain ⟨x, readReal, nearest, minus, -⟩ := readReal_of_readInteger read
    exact ⟨x, readReal, nearest, minus⟩
  · intro f g s r made widens
    obtain ⟨other, made', settings, columns⟩ := exists_ofFormat_of_piecesWiden made widens
    refine ⟨other, made', fun line => ⟨fun values read => ?_, ?_⟩⟩
    · unfold Reader.read readTrimming
      rw [settings]
      exact exists_mapM_eq_ok_of_forall₂ (fun _ _ _ first => first.exists_read) columns read
    · unfold score
      rw [settings]
      exact countP_le_of_forall₂ (fun _ _ first => first.isOk_read) columns
  · intro c form trimText line n type read
    obtain ⟨start, width, _⟩ := c
    obtain rfl : _ = FieldType.integer := type
    obtain ⟨m, hm, same⟩ := map_eq_ok_iff.mp (mapError_eq_ok_iff.mp read)
    obtain rfl : m = n := Value.integer.inj same
    obtain ⟨x, readReal, -, -, converted⟩ := readReal_of_readInteger (mapError_eq_ok_iff.mp hm)
    refine ⟨x, .ofInt m.toInt, ?_, rfl, rfl, ?_⟩
    · exact mapError_eq_ok_iff.mpr (map_eq_ok_iff.mpr ⟨x, mapError_eq_ok_iff.mpr readReal, rfl⟩)
    · rw [← converted]
      exact ⟨fun bits => congrArg Binary.mk bits, fun equal => congrArg Binary.bits equal⟩

/-- A zero with a minus sign, which decoding the integer loses, and an integer that is half way between
    two real numbers. -/
theorem read_of_piecesWiden_minus_zero :
    List.Forall₂ PieceWidens (Format.pieces "I2,1X,i16".toList)
        (Format.pieces "F2,1X,E16".toList) ∧
      (∃ r other, ofFormat "I2,1X,i16" {} = .ok r ∧ ofFormat "F2,1X,E16" {} = .ok other ∧
        r.read "-0 9007199254740993" = .ok [.integer 0, .integer 9007199254740993] ∧
        (∃ wider, other.read "-0 9007199254740993" = .ok wider ∧
          List.Forall₂ Value.Widens [.integer 0, .integer 9007199254740993] wider) ∧
        r.score "-0 9007199254740993" ≤ other.score "-0 9007199254740993") ∧
      ∃ x y : Double, (⟨0, 2, .real .fixed⟩ : Column).read true "-0 9007199254740993" =
          .ok (.real x) ∧
        Shape.double.ofValue (.integer 0) = .ok (.double y) ∧ y.bits ≠ x.bits := by
  obtain ⟨-, formats, columns⟩ := read_of_piecesWiden
  have first : PieceWidens "I2".toList "F2".toList :=
    ⟨⟨none, 'I', .field .integer, by decide, some (numeral 2, none)⟩,
      ⟨none, 'F', .field (.real .fixed), by decide, some (numeral 2, none)⟩,
      rfl, rfl, rfl, .field (.real .fixed), rfl⟩
  have second : PieceWidens "1X".toList "1X".toList :=
    ⟨⟨some (numeral 1), 'X', .skip, by decide, none⟩,
      ⟨some (numeral 1), 'X', .skip, by decide, none⟩, rfl, rfl, rfl, .skip, rfl⟩
  have third : PieceWidens "i16".toList "E16".toList :=
    ⟨⟨none, 'i', .field .integer, by decide, some (numeral 16, none)⟩,
      ⟨none, 'E', .field (.real .exponential), by decide, some (numeral 16, none)⟩,
      rfl, rfl, rfl, .field (.real .exponential), rfl⟩
  have widens : List.Forall₂ PieceWidens (Format.pieces "I2,1X,i16".toList)
      (Format.pieces "F2,1X,E16".toList) := .cons first (.cons second (.cons third .nil))
  let r : Reader := ⟨"I2,1X,i16", {}, [⟨1, .field .integer, 2, none⟩, ⟨1, .skip, 1, none⟩,
    ⟨1, .field .integer, 16, none⟩], _, rfl, rfl⟩
  have made : ofFormat "I2,1X,i16" {} = .ok r := rfl
  have read : r.read "-0 9007199254740993" =
      .ok [.integer 0, .integer 9007199254740993] := by rfl
  obtain ⟨other, made', lines⟩ := formats _ _ _ r made widens
  obtain ⟨reads, score⟩ := lines "-0 9007199254740993"
  obtain ⟨x, y, readReal, -, decoded, bits⟩ :=
    columns ⟨0, 2, .integer⟩ .fixed true "-0 9007199254740993" 0 rfl (by rfl)
  refine ⟨widens, ⟨r, other, made, made', read, reads _ read, score⟩, x, y, readReal, decoded, ?_⟩
  intro same
  exact bits.mp same ⟨rfl, by decide⟩

end Reader

end FixedColumns
