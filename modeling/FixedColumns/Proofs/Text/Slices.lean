import FixedColumns.Value
import Mathlib.Data.String.Basic

/-!
# `FixedColumns.Proofs.Text.Slices` — a slice holds the characters of its columns

A line is cut at the byte offsets of two columns, which are those of the characters in them, so that
what is cut out are the characters between (`Text.toList_extract`). In a line whose characters all
take one byte a column starts at the byte of its own number, and both ways to cut are the same
(`Text.byteOffset_of_isAscii`). So `Text.toList_slice` says what the text of columns is, and
`Column.toList_slice` what the text of a field is.
-/

namespace FixedColumns

namespace Text

/-! ## Bytes of characters -/

theorem byteLength_eq_utf8Len (cs : List Char) : byteLength cs = String.utf8Len cs :=
  String.utf8ByteSize_ofList cs

theorem byteLength_cons (c : Char) (cs : List Char) :
    byteLength (c :: cs) = c.utf8Size + byteLength cs := by
  rw [byteLength_eq_utf8Len, byteLength_eq_utf8Len, String.utf8Len_cons, Nat.add_comm]

@[simp] theorem byteLength_append (cs ds : List Char) :
    byteLength (cs ++ ds) = byteLength cs + byteLength ds := by
  rw [byteLength, String.ofList_append, String.utf8ByteSize_append]
  rfl

@[simp] theorem byteLength_toList (line : String) :
    byteLength line.toList = line.utf8ByteSize := by
  rw [byteLength, String.ofList_toList]

theorem length_le_byteLength (cs : List Char) : cs.length ≤ byteLength cs := by
  induction cs with
  | nil => exact Nat.zero_le _
  | cons c cs ih =>
      have := c.utf8Size_pos
      rw [List.length_cons, byteLength_cons]
      omega

/-! ## Cutting at columns -/

/-- Cutting a line at the byte offsets of two of its columns gives the characters between them. -/
theorem toList_extract (line : String) {start stop : Nat} (h : start ≤ stop) :
    (String.Pos.Raw.extract line ⟨byteOffset line start⟩ ⟨byteOffset line stop⟩).toList =
      (line.toList.drop start).take (stop - start) := by
  generalize hmid : (line.toList.drop start).take (stop - start) = mid
  have upTo : line.toList.take stop = line.toList.take start ++ mid := by
    rw [← hmid, ← List.take_add, Nat.add_sub_cancel' h]
  have whole : line = String.ofList (line.toList.take start ++ mid ++ line.toList.drop stop) := by
    rw [← upTo, List.take_append_drop, String.ofList_toList]
  have upper : byteOffset line stop = byteOffset line start + byteLength mid := by
    rw [byteOffset, upTo, byteLength_append, byteOffset]
  have cut := String.extract_of_valid (line.toList.take start) mid (line.toList.drop stop)
  rw [← whole, ← byteLength_eq_utf8Len, ← byteLength_eq_utf8Len] at cut
  rw [upper]
  exact (congrArg String.toList cut).trans String.toList_ofList

/-- If a text has as many bytes as characters then so has each of its beginnings. -/
theorem byteLength_take {cs : List Char} (h : byteLength cs = cs.length) (n : Nat) :
    byteLength (cs.take n) = min n cs.length := by
  have whole : byteLength (cs.take n) + byteLength (cs.drop n) = cs.length := by
    rw [← byteLength_append, List.take_append_drop, h]
  have first := length_le_byteLength (cs.take n)
  have second := length_le_byteLength (cs.drop n)
  rw [List.length_take] at first
  rw [List.length_drop] at second
  omega

/-- In a line whose characters all take one byte a column starts at the byte of its own number. -/
theorem byteOffset_of_isAscii {line : String} (h : isAscii line = true) (column : Nat) :
    byteOffset line column = min column line.utf8ByteSize := by
  have size : line.utf8ByteSize = line.toList.length := by
    simpa [isAscii, String.length_toList] using h
  rw [byteOffset, byteLength_take (by rw [byteLength_toList, size]), size]

/-- A slice holds the characters of its columns, in order, so far as the line has them. -/
theorem toList_slice (line : String) {start stop : Nat} (h : start ≤ stop) :
    (slice line start stop).toList = (line.toList.drop start).take (stop - start) := by
  rw [slice]
  split
  · rename_i ha
    rw [sliceBytes, ← byteOffset_of_isAscii ha, ← byteOffset_of_isAscii ha, toList_extract line h]
  · exact toList_extract line h

end Text

/-! ## The text of a field -/

namespace Column

/-- The characters of a field's columns, so far as the line has them. -/
theorem toList_slice (c : Column) (line : String) :
    (c.slice line).toList = (line.toList.drop c.start).take c.width := by
  have h : c.start ≤ c.stop := Nat.le_add_right ..
  rw [slice, Text.toList_slice line h, stop, Nat.add_sub_cancel_left]

/-- A line that is blank is so in the columns of every field. -/
theorem allBlank_slice (c : Column) {line : String} (h : Text.AllBlank line.toList) :
    Text.AllBlank (c.slice line).toList := by
  rw [toList_slice]
  exact h.sublist ((List.take_sublist _ _).trans (List.drop_sublist _ _))

/-- A number does not convert where its columns are blank. -/
theorem isOk_read_of_allBlank {c : Column} (number : c.type ≠ .text) {line : String}
    (h : Text.AllBlank (c.slice line).toList) (trimText : Bool) :
    (c.read trimText line).isOk = false := by
  unfold read FieldType.convert
  cases ht : c.type with
  | integer =>
      rw [readInteger_of_allBlank h]
      rfl
  | real form =>
      rw [readReal_of_allBlank h]
      rfl
  | text => exact absurd ht number

end Column

end FixedColumns
