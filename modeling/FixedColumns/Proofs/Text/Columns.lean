import FixedColumns.Proofs.Text.Slices

/-!
# `FixedColumns.Proofs.Text.Columns` — the columns of a line and their bytes

`Text.slice` cuts a line in one of two ways. Both cut it where characters begin: the byte offset of a
column is that of the character in it, or the end of the line if the line is shorter
(`Text.byteOffset_eq_of_charIndices`). So the two ways agree where both apply, every cut is one
between characters, and what is cut out are the characters in the columns asked for.
`Text.slice_characters` puts this together.
-/

namespace FixedColumns

namespace Text

/-! ## Lines of one byte a character -/

/-- A text has as many bytes as characters exactly if each character takes one. -/
theorem byteLength_eq_length_iff {cs : List Char} :
    byteLength cs = cs.length ↔ ∀ c ∈ cs, c.utf8Size = 1 := by
  induction cs with
  | nil => simp [byteLength_eq_utf8Len]
  | cons c cs ih =>
      have first := c.utf8Size_pos
      have rest := length_le_byteLength cs
      rw [byteLength_cons, List.length_cons, List.forall_mem_cons, ← ih]
      omega

/-- The characters that take one byte are those below 128. -/
theorem byteLength_eq_length_iff_lt {cs : List Char} :
    byteLength cs = cs.length ↔ ∀ c ∈ cs, c.toNat < 128 := by
  have small : ∀ c : Char, c.utf8Size = 1 ↔ c.toNat < 128 := by
    intro c
    rw [Char.utf8Size_eq_one_iff, UInt32.le_iff_toNat_le]
    exact Nat.lt_succ_iff.symm
  rw [byteLength_eq_length_iff]
  exact forall₂_congr fun c _ => small c

theorem isAscii_iff {line : String} : isAscii line = true ↔ ∀ c ∈ line.toList, c.toNat < 128 := by
  unfold isAscii
  rw [beq_iff_eq, ← byteLength_toList, ← String.length_toList, byteLength_eq_length_iff_lt]

/-! ## Byte offsets of columns -/

/-- The characters of a text, each with the byte offset at which it begins; the first one begins at
    `offset`. -/
def charIndices (offset : Nat) : List Char → List (Nat × Char)
  | [] => []
  | c :: cs => (offset, c) :: charIndices (offset + c.utf8Size) cs

theorem charIndices_getElem? (offset column : Nat) (cs : List Char) :
    ((charIndices offset cs)[column]?.map Prod.fst).getD (offset + byteLength cs) =
      offset + byteLength (cs.take column) := by
  induction cs generalizing offset column with
  | nil => simp [charIndices, byteLength_eq_utf8Len]
  | cons c cs ih =>
      cases column with
      | zero => simp [charIndices, byteLength_eq_utf8Len]
      | succ column =>
          rw [charIndices, List.getElem?_cons_succ, List.take_succ_cons, byteLength_cons,
            byteLength_cons, ← Nat.add_assoc, ← Nat.add_assoc, ih]

/-- **The byte offset of a column** is the one at which its character begins, and the end of the line
    if it has no such column. -/
theorem byteOffset_eq_of_charIndices (line : String) (column : Nat) :
    byteOffset line column =
      ((charIndices 0 line.toList)[column]?.map Prod.fst).getD line.utf8ByteSize := by
  have offset := charIndices_getElem? 0 column line.toList
  rw [Nat.zero_add, Nat.zero_add, byteLength_toList] at offset
  exact offset.symm

/-- Every character takes at least no bytes, so later columns begin no earlier. -/
theorem byteOffset_mono (line : String) {first second : Nat} (h : first ≤ second) :
    byteOffset line first ≤ byteOffset line second := by
  unfold byteOffset
  rw [← Nat.add_sub_cancel' h, List.take_add, byteLength_append]
  exact Nat.le_add_right ..

theorem byteOffset_le (line : String) (column : Nat) :
    byteOffset line column ≤ line.utf8ByteSize := by
  calc byteOffset line column
      ≤ byteLength (line.toList.take column) + byteLength (line.toList.drop column) :=
        Nat.le_add_right ..
    _ = line.utf8ByteSize := by
        rw [← byteLength_append, List.take_append_drop, byteLength_toList]

/-- A column begins between two characters, or at an end of the line. -/
theorem isValid_byteOffset (line : String) (column : Nat) :
    String.Pos.Raw.IsValid line ⟨byteOffset line column⟩ := by
  rw [String.Pos.Raw.isValid_iff_exists_append]
  refine ⟨String.ofList (line.toList.take column), String.ofList (line.toList.drop column), ?_, ?_⟩
  · rw [← String.ofList_append, List.take_append_drop, String.ofList_toList]
  · rfl

/-- The byte offsets are boundaries between characters of the line and in order, so what stands
    between them can be cut out. -/
structure Cuts (line : String) (first second : Nat) : Prop where
  beginsAt : String.Pos.Raw.IsValid line ⟨first⟩
  endsAt : String.Pos.Raw.IsValid line ⟨second⟩
  ordered : first ≤ second
  within : second ≤ line.utf8ByteSize

/-- Any two columns can be cut at, also those past the end of the line. -/
theorem cuts_byteOffset (line : String) {start stop : Nat} (h : start ≤ stop) :
    Cuts line (byteOffset line start) (byteOffset line stop) where
  beginsAt := isValid_byteOffset line start
  endsAt := isValid_byteOffset line stop
  ordered := byteOffset_mono line h
  within := byteOffset_le line stop

/-! ## The two ways to cut -/

/-- The byte offset at which a line is cut for a column: the column's own number, up to the end of
    the line, if all its characters take one byte. -/
def cutOffset (line : String) (column : Nat) : Nat :=
  if isAscii line then min column line.utf8ByteSize else byteOffset line column

/-- A line is cut where the column begins, whichever way the offset is found. -/
theorem cutOffset_eq_byteOffset (line : String) (column : Nat) :
    cutOffset line column = byteOffset line column := by
  unfold cutOffset
  split
  · rename_i h
    rw [byteOffset_of_isAscii h]
  · rfl

/-- The slice is what stands between the two cuts. -/
theorem slice_eq_extract (line : String) (start stop : Nat) :
    slice line start stop =
      String.Pos.Raw.extract line ⟨cutOffset line start⟩ ⟨cutOffset line stop⟩ := by
  unfold slice cutOffset
  split
  · rfl
  · rfl

/-- Where all characters take one byte, cutting at columns is cutting at their byte offsets. -/
theorem sliceBytes_eq_sliceColumns {line : String} (h : isAscii line = true) (start stop : Nat) :
    sliceBytes line start stop = sliceColumns line start stop := by
  unfold sliceBytes sliceColumns
  rw [byteOffset_of_isAscii h, byteOffset_of_isAscii h]

/-! ## The characters of columns -/

/-- The elements whose places are from `start` up to but not including `stop`, where the first has
    the place `n`. -/
theorem map_fst_filter_zipIdx {α : Type} (xs : List α) (start stop n : Nat) :
    ((xs.zipIdx n).filter fun p => start ≤ p.2 ∧ p.2 < stop).map Prod.fst =
      (xs.drop (start - n)).take (stop - max start n) := by
  induction xs generalizing n with
  | nil => simp
  | cons x xs ih =>
      have tail := ih (n + 1)
      rw [List.zipIdx_cons]
      by_cases before : n < start
      · have place : start - n = (start - (n + 1)) + 1 := by omega
        have reach : max start n = max start (n + 1) := by omega
        rw [List.filter_cons_of_neg (by simp; omega), tail, place, reach, List.drop_succ_cons]
      · -- From here on nothing is dropped, and elements are taken up to the place `stop`.
        have place : start - n = 0 := by omega
        have place' : start - (n + 1) = 0 := by omega
        rw [place', List.drop_zero] at tail
        rw [place, List.drop_zero]
        by_cases within : n < stop
        · have reach : stop - max start n = (stop - max start (n + 1)) + 1 := by omega
          rw [List.filter_cons_of_pos (by simp; omega), List.map_cons, tail, reach,
            List.take_succ_cons]
        · have reach : stop - max start n = 0 := by omega
          have reach' : stop - max start (n + 1) = 0 := by omega
          rw [List.filter_cons_of_neg (by simp; omega), tail, reach, reach', List.take_zero,
            List.take_zero]

/-- **Slicing a line gives the characters of the columns.** -/
theorem slice_characters (line : String) {start stop : Nat} (h : start ≤ stop) :
    (slice line start stop).toList =
      (line.toList.zipIdx.filter fun p => start ≤ p.2 ∧ p.2 < stop).map Prod.fst ∧
    (isAscii line = true ↔ ∀ c ∈ line.toList, c.toNat < 128) ∧
    (isAscii line = true → sliceBytes line start stop = sliceColumns line start stop) ∧
    (∀ column, byteOffset line column =
      ((charIndices 0 line.toList)[column]?.map Prod.fst).getD line.utf8ByteSize) ∧
    slice line start stop =
      String.Pos.Raw.extract line ⟨cutOffset line start⟩ ⟨cutOffset line stop⟩ ∧
    Cuts line (cutOffset line start) (cutOffset line stop) := by
  have characters : (slice line start stop).toList =
      (line.toList.zipIdx.filter fun p => start ≤ p.2 ∧ p.2 < stop).map Prod.fst := by
    rw [map_fst_filter_zipIdx, toList_slice line h, Nat.sub_zero, Nat.max_eq_left (Nat.zero_le _)]
  refine ⟨characters, isAscii_iff, ?_, byteOffset_eq_of_charIndices line,
    slice_eq_extract line start stop, ?_⟩
  · intro ascii
    exact sliceBytes_eq_sliceColumns ascii start stop
  · rw [cutOffset_eq_byteOffset, cutOffset_eq_byteOffset]
    exact cuts_byteOffset line h

/-- A line with characters of two bytes, cut past its end, and one with characters of one byte. -/
theorem slice_characters_two_bytes :
    4 ≤ 20 ∧ slice "ÅB  Ça va" 4 20 = "Ça va" ∧ Cuts "ÅB  Ça va" 5 11 ∧
      isAscii "abcdefghij" = true ∧
      sliceBytes "abcdefghij" 8 12 = sliceColumns "abcdefghij" 8 12 := by
  obtain ⟨characters, _, _, _, _, cuts⟩ :=
    slice_characters "ÅB  Ça va" (show 4 ≤ 20 by decide)
  obtain ⟨_, _, agree, _⟩ := slice_characters "abcdefghij" (show 8 ≤ 12 by decide)
  have small : isAscii "abcdefghij" = true := by decide
  refine ⟨by decide, ?_, cuts, small, agree small⟩
  apply String.toList_injective
  rw [characters]
  rfl

end Text

end FixedColumns
