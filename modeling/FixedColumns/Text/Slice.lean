/-!
# `FixedColumns.Text.Slice` — the columns of a line

Columns count characters from 0. `slice line start stop` is the text of the columns from `start` up
to but not including `stop`, so far as the line has them. A line whose characters all take one byte
is cut at the column numbers themselves; any other line is cut at the byte offsets of the two
columns.
-/

namespace FixedColumns.Text

/-! ## Byte offsets -/

/-- The number of bytes that the characters of a text take. -/
def byteLength (cs : List Char) : Nat := (String.ofList cs).utf8ByteSize

/-- The byte offset at which a column starts; the end of the line for a column past it. -/
def byteOffset (line : String) (column : Nat) : Nat := byteLength (line.toList.take column)

/-! ## Cutting -/

/-- Every character of the line takes one byte. -/
def isAscii (line : String) : Bool := line.utf8ByteSize == line.length

/-- The columns of a line whose characters all take one byte: a column is a byte. -/
def sliceBytes (line : String) (start stop : Nat) : String :=
  let size := line.utf8ByteSize
  String.Pos.Raw.extract line ⟨min start size⟩ ⟨min stop size⟩

/-- The columns of any line, cut at the byte offsets of the first column and of the one after the
    last. -/
def sliceColumns (line : String) (start stop : Nat) : String :=
  String.Pos.Raw.extract line ⟨byteOffset line start⟩ ⟨byteOffset line stop⟩

/-- The text of the columns from `start` up to but not including `stop`. -/
def slice (line : String) (start stop : Nat) : String :=
  if isAscii line then sliceBytes line start stop else sliceColumns line start stop

end FixedColumns.Text
