import FixedColumns.Proofs.Source.Lines

/-!
# `FixedColumns.Proofs.Source.Validity` — valid UTF-8, of a source and of its lines

Bytes are valid if they are the UTF-8 form of a text. A byte below 128 in the form of a character is
all there is of that form, `eq_singleton_of_mem_utf8EncodeChar`, so cutting bytes at such a byte
cuts no character. Line feeds and carriage returns are such bytes, and so a source is valid exactly
if each of its lines is, `Source.validUTF8_iff_lines`.
-/

namespace FixedColumns

/-- The bytes are the UTF-8 form of a text. -/
def ValidUTF8 (bytes : List UInt8) : Prop := ∃ text, Encodes bytes text

/-! ## Characters and their bytes -/

/-- Bytes are valid if they are the forms of characters, one after the other. -/
theorem validUTF8_iff {bytes : List UInt8} :
    ValidUTF8 bytes ↔ ∃ cs : List Char, cs.flatMap String.utf8EncodeChar = bytes := by
  unfold ValidUTF8 Encodes
  constructor
  · rintro ⟨text, h⟩
    rw [String.toUTF8_eq_toByteArray, ← text.ofList_toList, String.toByteArray_ofList] at h
    exact ⟨text.toList, List.toByteArray_inj.mp h⟩
  · rintro ⟨cs, rfl⟩
    refine ⟨String.ofList cs, ?_⟩
    rw [String.toUTF8_eq_toByteArray, String.toByteArray_ofList]
    rfl

/-- A character below 128 is a single byte. -/
theorem utf8EncodeChar_ofNat {b : UInt8} (hb : b < 128) :
    String.utf8EncodeChar (Char.ofNat b.toNat) = [b] := by
  have small : b.toNat < 128 := hb
  have valid : b.toNat.isValidChar := Or.inl (by omega)
  have value : (Char.ofNat b.toNat).val.toNat = b.toNat := by
    rw [Char.ofNat, dif_pos valid]
    rfl
  unfold String.utf8EncodeChar
  rw [value]
  simp only
  rw [if_pos (by omega), UInt8.ofNat_toNat]

/-- All bytes of a character from 128 on are 128 or more. -/
theorem le_toNat_of_mem_utf8EncodeChar {c : Char} (hc : 127 < c.val.toNat) {b : UInt8}
    (h : b ∈ String.utf8EncodeChar c) : 128 ≤ b.toNat := by
  have high : ∀ n, 128 ≤ n → n < 256 → 128 ≤ (UInt8.ofNat n).toNat := by
    intro n low upper
    rw [UInt8.toNat_ofNat', Nat.mod_eq_of_lt upper]
    exact low
  unfold String.utf8EncodeChar at h
  simp only at h
  rw [if_neg (by omega)] at h
  -- Two, three or four bytes, and each of them has its highest bit set.
  split at h
  · simp only [List.mem_cons, List.not_mem_nil, or_false] at h
    rcases h with rfl | rfl
    all_goals exact high _ (by omega) (by omega)
  · split at h
    · simp only [List.mem_cons, List.not_mem_nil, or_false] at h
      rcases h with rfl | rfl | rfl
      all_goals exact high _ (by omega) (by omega)
    · simp only [List.mem_cons, List.not_mem_nil, or_false] at h
      rcases h with rfl | rfl | rfl | rfl
      all_goals exact high _ (by omega) (by omega)

/-- A byte below 128 does not stand among others in the form of a character. -/
theorem eq_singleton_of_mem_utf8EncodeChar {b : UInt8} (hb : b < 128) {c : Char}
    (h : b ∈ String.utf8EncodeChar c) : String.utf8EncodeChar c = [b] := by
  have small : b.toNat < 128 := hb
  by_cases hc : 127 < c.val.toNat
  · have large := le_toNat_of_mem_utf8EncodeChar hc h
    omega
  · unfold String.utf8EncodeChar at h ⊢
    simp only at h ⊢
    rw [if_pos (by omega)] at h ⊢
    rw [List.mem_singleton.mp h]

/-! ## Cutting at a byte below 128 -/

/-- Characters whose bytes hold a byte below 128 are those before that byte, its own character and
    those after it. -/
theorem exists_chars_of_append_cons {b : UInt8} (hb : b < 128) {cs : List Char}
    {first second : List UInt8} (h : cs.flatMap String.utf8EncodeChar = first ++ b :: second) :
    (∃ before : List Char, before.flatMap String.utf8EncodeChar = first) ∧
      ∃ after : List Char, after.flatMap String.utf8EncodeChar = second := by
  induction cs generalizing first with
  | nil => simp at h
  | cons c cs ih =>
      rw [List.flatMap_cons] at h
      rcases List.append_eq_append_iff.mp h with ⟨more, rfl, rest⟩ | ⟨more, own, rest⟩
      · obtain ⟨⟨before, hbefore⟩, after⟩ := ih rest
        exact ⟨⟨c :: before, by rw [List.flatMap_cons, hbefore]⟩, after⟩
      · -- The byte is the first after the form of `c`, or it is within it and so all of it.
        cases more with
        | nil =>
            have next : cs.flatMap String.utf8EncodeChar = [] ++ b :: second := rest.symm
            obtain ⟨_, after⟩ := ih next
            refine ⟨⟨[c], ?_⟩, after⟩
            rw [List.flatMap_cons, own]
            simp
        | cons b' more =>
            rw [List.cons_append] at rest
            obtain ⟨rfl, tail⟩ := List.cons.inj rest
            have alone := eq_singleton_of_mem_utf8EncodeChar hb (c := c) (by rw [own]; simp)
            rw [own] at alone
            have lengths := congrArg List.length alone
            rw [List.length_append, List.length_cons, List.length_singleton] at lengths
            have none : first = [] := List.length_eq_zero_iff.mp (by omega)
            have none' : more = [] := List.length_eq_zero_iff.mp (by omega)
            refine ⟨⟨[], none.symm⟩, cs, ?_⟩
            rw [tail, none', List.nil_append]

/-- Bytes around one below 128 are valid exactly if those before it and those after it are. -/
theorem validUTF8_append_cons {b : UInt8} (hb : b < 128) {first second : List UInt8} :
    ValidUTF8 (first ++ b :: second) ↔ ValidUTF8 first ∧ ValidUTF8 second := by
  rw [validUTF8_iff, validUTF8_iff, validUTF8_iff]
  constructor
  · rintro ⟨cs, h⟩
    exact exists_chars_of_append_cons hb h
  · rintro ⟨⟨before, rfl⟩, after, rfl⟩
    refine ⟨before ++ Char.ofNat b.toNat :: after, ?_⟩
    rw [List.flatMap_append, List.flatMap_cons, utf8EncodeChar_ofNat hb, List.singleton_append]

theorem validUTF8_nil : ValidUTF8 [] := validUTF8_iff.mpr ⟨[], rfl⟩

/-! ## Lines -/

namespace Source

/-- A piece is valid exactly if it is without a carriage return at its end. -/
theorem validUTF8_dropReturn {piece : List UInt8} :
    ValidUTF8 (dropReturn piece) ↔ ValidUTF8 piece := by
  unfold dropReturn
  by_cases h : piece.getLast? = some carriageReturn
  · rw [if_pos h]
    obtain ⟨front, rfl⟩ := List.getLast?_eq_some_iff.mp h
    rw [List.dropLast_concat, validUTF8_append_cons (by decide)]
    exact ⟨fun valid => ⟨valid, validUTF8_nil⟩, fun valid => valid.1⟩
  · rw [if_neg h]

/-- Pieces with line feeds between them are valid exactly if each of their lines is. -/
theorem validUTF8_intercalate_iff (pieces : List (List UInt8)) :
    ValidUTF8 ([lineFeed].intercalate pieces) ↔
      ∀ line ∈ ofPieces pieces, ValidUTF8 line.content := by
  match pieces with
  | [] => simp [ofPieces, validUTF8_nil]
  | [last] =>
      by_cases hl : last = []
      · simp [ofPieces, hl, validUTF8_nil]
      · simp [ofPieces, hl]
  | piece :: next :: more =>
      have ih := validUTF8_intercalate_iff (next :: more)
      have feed : [lineFeed].intercalate (piece :: next :: more) =
          piece ++ lineFeed :: [lineFeed].intercalate (next :: more) := by
        simp [List.intercalate]
      rw [feed, validUTF8_append_cons (by decide), ih, ofPieces, List.forall_mem_cons]
      exact and_congr_left' validUTF8_dropReturn.symm

/-- **A source is valid UTF-8 exactly if each of its lines is.** -/
theorem validUTF8_iff_lines (source : List UInt8) :
    ValidUTF8 source ↔ ∀ line ∈ lines source, ValidUTF8 line.content := by
  rw [lines_eq_ofPieces, ← validUTF8_intercalate_iff, List.intercalate_splitOn]

end Source

end FixedColumns
