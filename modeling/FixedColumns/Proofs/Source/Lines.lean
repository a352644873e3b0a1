import FixedColumns.Source

/-!
# `FixedColumns.Proofs.Source.Lines` — lines by cutting a source at its line feeds

`Source.lines` builds the lines of a source from its end, a byte at a time. `Source.contents` is what
a reader of the format would write down: cut the source at its line feeds, drop one carriage return
at the end of every piece but the last, and keep the last piece only if it holds something. The main
statement, `Source.map_content_lines`, is that these are the contents of the lines.

`Encodes` says that bytes are the UTF-8 form of a text, and `RawLine.text?` is shown to find just
that text.
-/

namespace FixedColumns

namespace Source

/-! ## Pieces between line feeds -/

/-- The bytes without a carriage return at their end. -/
def dropReturn (bytes : List UInt8) : List UInt8 :=
  if bytes.getLast? = some carriageReturn then bytes.dropLast else bytes

/-- The contents of a source's lines: the pieces before line feeds, each without a carriage return
    at its end, and the piece after the last line feed as it stands, unless it is empty. -/
def contents (source : List UInt8) : List (List UInt8) :=
  let pieces := source.splitOn lineFeed
  pieces.dropLast.map dropReturn ++ pieces.getLast?.toList.filter (· ≠ [])

/-- The line of a piece that stands before a line feed. -/
def fedLine (piece : List UInt8) : RawLine :=
  ⟨dropReturn piece, if piece.getLast? = some carriageReturn then .returnFeed else .feed⟩

/-- The lines of the pieces between line feeds. -/
def ofPieces : List (List UInt8) → List RawLine
  | [] => []
  | [last] => if last = [] then [] else [⟨last, .endOfSource⟩]
  | piece :: next :: more => fedLine piece :: ofPieces (next :: more)

/-- A byte before a line that ends with a line feed is a byte before its piece. -/
theorem cons_fedLine (b : UInt8) (piece : List UInt8) :
    (fedLine piece).cons b = fedLine (b :: piece) := by
  cases piece with
  | nil =>
      by_cases hb : b = carriageReturn
      · simp [hb, fedLine, dropReturn, RawLine.cons]
      · simp [hb, fedLine, dropReturn, RawLine.cons]
  | cons c cs =>
      -- The piece is not empty, so its line is no bare line feed that could take up the byte.
      have full : fedLine (c :: cs) ≠ ⟨[], .feed⟩ := by
        intro h
        by_cases hr : (c :: cs).getLast? = some carriageReturn
        · simp [fedLine, hr] at h
        · simp [fedLine, dropReturn, hr] at h
      unfold RawLine.cons
      rw [if_neg (fun h => full h.2)]
      by_cases hr : (c :: cs).getLast? = some carriageReturn
      · simp [fedLine, dropReturn, hr, List.getLast?_cons_cons]
      · simp [fedLine, dropReturn, hr, List.getLast?_cons_cons]

/-- A byte before the lines is a byte before the first piece. -/
theorem extend_ofPieces (b : UInt8) {pieces : List (List UInt8)} (h : pieces ≠ []) :
    extend b (ofPieces pieces) = ofPieces (pieces.modifyHead (b :: ·)) := by
  match pieces with
  | [] => exact absurd rfl h
  | [last] =>
      by_cases hl : last = []
      · simp [ofPieces, extend, hl]
      · simp [ofPieces, extend, hl, RawLine.cons]
  | piece :: next :: more =>
      simp [ofPieces, extend, cons_fedLine]

/-- The lines of a source are those of the pieces between its line feeds. -/
theorem lines_eq_ofPieces (source : List UInt8) :
    lines source = ofPieces (source.splitOn lineFeed) := by
  induction source with
  | nil => rfl
  | cons b bs ih =>
      -- A line feed cuts off an empty piece; any other byte goes before the first piece there is.
      rw [lines, List.splitOn_cons_eq_if_modifyHead, ih]
      by_cases hb : b = lineFeed
      · obtain ⟨piece, pieces, hp⟩ := List.exists_cons_of_ne_nil (List.splitOn_ne_nil lineFeed bs)
        simp [hb, hp, ofPieces, fedLine, dropReturn]
      · simp [hb, extend_ofPieces b (List.splitOn_ne_nil lineFeed bs)]

theorem map_content_ofPieces (pieces : List (List UInt8)) :
    (ofPieces pieces).map RawLine.content =
      pieces.dropLast.map dropReturn ++ pieces.getLast?.toList.filter (· ≠ []) := by
  match pieces with
  | [] => rfl
  | [last] =>
      by_cases hl : last = []
      · simp [ofPieces, hl]
      · simp [ofPieces, hl]
  | piece :: next :: more =>
      -- A piece with another after it stands before a line feed, the last one does not.
      have ih := map_content_ofPieces (next :: more)
      simp [ofPieces, fedLine, ih, List.getLast?_cons_cons]

/-- The contents of the lines are had by cutting the source at its line feeds. -/
theorem map_content_lines (source : List UInt8) :
    (lines source).map RawLine.content = contents source := by
  rw [lines_eq_ofPieces, map_content_ofPieces, contents]

/-- Of a carriage return before a line feed and one at the end of the source only the first is
    dropped. -/
example : contents [65, 13, 10, 10, 66, 13] = [[65], [], [66, 13]] := by decide

end Source

/-! ## Texts of bytes -/

/-- The bytes are the UTF-8 form of the text. -/
def Encodes (bytes : List UInt8) (text : String) : Prop := text.toUTF8 = bytes.toByteArray

/-- Bytes are the form of at most one text. -/
theorem Encodes.unique {bytes : List UInt8} {text other : String} (h : Encodes bytes text)
    (h' : Encodes bytes other) : text = other := by
  unfold Encodes at h h'
  rw [String.toUTF8_eq_toByteArray] at h h'
  exact String.toByteArray_inj.mp (h.trans h'.symm)

namespace RawLine

/-- The text of a line is the one that its content is the UTF-8 form of. -/
theorem text?_eq_some_iff {l : RawLine} {text : String} :
    l.text? = some text ↔ Encodes l.content text := by
  unfold text? Encodes String.fromUTF8?
  rw [String.toUTF8_eq_toByteArray]
  constructor
  · intro h
    split at h
    · rw [← Option.some.inj h]
      rfl
    · exact nomatch h
  · intro h
    have valid : l.content.toByteArray.IsValidUTF8 := h ▸ text.isValidUTF8
    rw [dif_pos valid]
    exact congrArg some (String.toByteArray_inj.mp h.symm)

/-- A line has no text exactly if its content is the UTF-8 form of none. -/
theorem text?_eq_none_iff {l : RawLine} : l.text? = none ↔ ∀ text, ¬ Encodes l.content text := by
  rw [Option.eq_none_iff_forall_ne_some]
  exact forall_congr' fun text => not_congr text?_eq_some_iff

end RawLine

end FixedColumns
