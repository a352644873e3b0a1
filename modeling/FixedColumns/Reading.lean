import FixedColumns.Reader.Basic
import FixedColumns.Source

/-!
# `FixedColumns.Reading` — reading every line of a source

A table is read line by line. Each line gives a row, is left out, or ends the reading with an
error; which of these is the line's `Verdict`. The reading keeps a record of every line that is left
out and gives back the bytes after the line that it stopped at.

## Contents
- `ReadingError`: what ends a reading, with the number of the line.
- `Record`: a line that was left out.
- `Reader.judge`: the verdict on one line.
- `Reader.readSource`, `Reader.readSourceBy`: all lines of a source.
-/

namespace FixedColumns

/-! ## Errors and records -/

/-- What ends the reading of a table. Lines are counted from 1, those left out included. -/
inductive ReadingError where
  /-- a line is not valid UTF-8 -/
  | unreadable (line : Nat)
  /-- a line does not convert -/
  | malformed (line : Nat) (text : String) (cause : FieldError)
  /-- the names given are not as many as the fields -/
  | columnMismatch (fields names : Nat)
  /-- the rows do not fit the columns of a frame -/
  | unbuildable (rows columns : Nat)
deriving DecidableEq, Repr

namespace ReadingError

/-- The text that reports an error. -/
def message : ReadingError → String
  | .unreadable .. => "Could not read a line of table data"
  | .malformed .. => "A line of table data did not match the format"
  | .columnMismatch .. => "Table columns did not match the format"
  | .unbuildable .. => "Could not build a dataframe from the table rows"

/-- Where the error arose, or what it counted. -/
def note : ReadingError → String
  | .unreadable line => s!"line {line}"
  | .malformed line text _ => s!"line {line}: '{text}'"
  | .columnMismatch fields names => s!"{fields} columns in the format, {names} names given"
  | .unbuildable rows columns => s!"{rows} rows, {columns} columns"

/-- The text that reports what gave rise to the error, if something else did. -/
def origin? : ReadingError → Option String
  | .unreadable _ => some "stream did not contain valid UTF-8"
  | .malformed _ _ cause => some cause.message
  | .columnMismatch .. => none
  | .unbuildable .. => none

/-- The error of the field that did not convert. -/
def cause? : ReadingError → Option FieldError
  | .malformed _ _ cause => some cause
  | _ => none

end ReadingError

/-- A line that was left out of a table. -/
inductive Record where
  | blank (line : Nat)
  | malformed (line : Nat) (cause : FieldError)
deriving DecidableEq, Repr

/-- The number of the line that a record is about. -/
def Record.line : Record → Nat
  | .blank line => line
  | .malformed line _ => line

/-- The text that a log has of a record. -/
def Record.message : Record → String
  | .blank line => s!"skipping blank line {line}"
  | .malformed line cause => s!"skipping line {line}: {cause.message}"

/-- What a reading comes to: its result, the records of the lines left out, and the bytes of the
    source that it did not take. -/
structure Reading (α : Type) where
  result : Except ReadingError α
  log : List Record
  rest : List UInt8

/-! ## One line -/

/-- What becomes of a line. -/
inductive Verdict where
  /-- the line is a row of the table -/
  | row (values : List Value)
  /-- the line is blank, and blank lines are left out -/
  | blank
  /-- the line does not convert, and such lines are left out -/
  | dropped (cause : FieldError)
  /-- the line does not convert, and this is an error -/
  | malformed (text : String) (cause : FieldError)
  /-- the line is not valid UTF-8, which is an error always -/
  | unreadable
deriving DecidableEq

/-- A line is blank if all its characters are. -/
def isBlankLine (text : String) : Bool := text.toList.all Text.isBlank

/-- The verdict on a line. -/
def Reader.judge (r : Reader) (settings : Settings) (line : RawLine) : Verdict :=
  match line.text? with
  | none => .unreadable
  | some text =>
    if settings.dropBlank && isBlankLine text then .blank
    else
      match r.readTrimming settings.trimText text with
      | .ok values => .row values
      | .error cause => if settings.dropMalformed then .dropped cause else .malformed text cause

/-! ## All lines -/

namespace Reading

/-- The reading with a row before its own. -/
def consRow (values : List Value) (t : Reading (List (List Value))) :
    Reading (List (List Value)) :=
  { t with result := t.result.map (values :: ·) }

/-- The reading with a record before its own. -/
def consRecord {α : Type} (record : Record) (t : Reading α) : Reading α :=
  { t with log := record :: t.log }

end Reading

namespace Reader

/-- Reads lines, the first of which has the given number. -/
def readLines (r : Reader) (settings : Settings) (number : Nat) :
    List RawLine → Reading (List (List Value))
  | [] => ⟨.ok [], [], []⟩
  | line :: more =>
    match r.judge settings line with
    | .row values => (r.readLines settings (number + 1) more).consRow values
    | .blank => (r.readLines settings (number + 1) more).consRecord (.blank number)
    | .dropped cause =>
      (r.readLines settings (number + 1) more).consRecord (.malformed number cause)
    | .malformed text cause => ⟨.error (.malformed number text cause), [], Source.ofLines more⟩
    | .unreadable => ⟨.error (.unreadable number), [], Source.ofLines more⟩

/-- Reads a source with the settings given. -/
def readSourceBy (r : Reader) (settings : Settings) (source : List UInt8) :
    Reading (List (List Value)) :=
  r.readLines settings 1 (Source.lines source)

/-- Reads a source with the reader's own settings. -/
def readSource (r : Reader) (source : List UInt8) : Reading (List (List Value)) :=
  r.readSourceBy r.settings source

end Reader

end FixedColumns
