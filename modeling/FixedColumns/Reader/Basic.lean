import FixedColumns.Descriptor.Format
import FixedColumns.Value

/-!
# `FixedColumns.Reader.Basic` — reading lines by a format

A reader is a format with its layout and the settings for reading by it. `read` gives the values of
a line's fields or the first error among them; `score` counts the fields that convert.
-/

namespace FixedColumns

/-! ## Settings -/

/-- Settings for reading. -/
structure Settings where
  /-- texts lose the blanks at their two ends -/
  trimText : Bool := true
  /-- a table leaves out blank lines -/
  dropBlank : Bool := true
  /-- a table leaves out lines that do not convert, instead of failing -/
  dropMalformed : Bool := false
deriving DecidableEq, Repr

/-! ## Readers -/

/-- A format with its layout. The descriptors are what the format says, and the layout is theirs. -/
structure Reader where
  format : String
  settings : Settings
  descriptors : List Descriptor
  layout : Layout
  parsed : Format.parse format.toList = .ok descriptors
  laidOut : layout = Layout.ofDescriptors descriptors
deriving DecidableEq

namespace Reader

/-- The reader of a format; the error is that of its first piece that is no descriptor. -/
def ofFormat (format : String) (settings : Settings) : Except DescriptorError Reader :=
  match parsed : Format.parse format.toList with
  | .ok descriptors =>
    .ok ⟨format, settings, descriptors, Layout.ofDescriptors descriptors, parsed, rfl⟩
  | .error e => .error e

/-- The fields of a line, in the order of their columns. -/
def columns (r : Reader) : List Column := r.layout.columns

/-- The number of fields. -/
def size (r : Reader) : Nat := r.columns.length

/-- The format written out in full: upper-case letters, every count, and no width on a skip. -/
def fullFormat (r : Reader) : String := String.ofList (Format.render r.descriptors)

/-- The text that shows a reader. -/
def label (r : Reader) : String := s!"FortReader({r.format})"

/-- The text that a log has of laying out the format. -/
def layoutRecord (r : Reader) : String :=
  s!"compiled format '{r.format}' into {r.size} entries over {r.layout.width} columns"

/-! ## Reading -/

/-- Reads every field of a line, with or without trimming its texts. -/
def readTrimming (r : Reader) (trimText : Bool) (line : String) :
    Except FieldError (List Value) :=
  r.columns.mapM (·.read trimText line)

/-- Reads every field of a line. The error is that of the first field that does not convert. -/
def read (r : Reader) (line : String) : Except FieldError (List Value) :=
  r.readTrimming r.settings.trimText line

/-- The number of fields of a line that convert. -/
def score (r : Reader) (line : String) : Nat :=
  r.columns.countP fun c => (c.read r.settings.trimText line).isOk

end Reader

end FixedColumns
