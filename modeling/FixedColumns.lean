import FixedColumns.Decode.Line
import FixedColumns.Frame
import FixedColumns.Reader.Choice
import FixedColumns.Proofs.Reading.Rows
import FixedColumns.Proofs.Descriptor.Grammar
import FixedColumns.Proofs.Descriptor.Stops
import FixedColumns.Proofs.Descriptor.RoundTrip
import FixedColumns.Proofs.Traversal
import FixedColumns.Proofs.Format.Pieces
import FixedColumns.Proofs.Reader.Formats
import FixedColumns.Proofs.Format.NormalForm
import FixedColumns.Proofs.Format.Join
import FixedColumns.Proofs.Layout.Places
import FixedColumns.Proofs.Reader.Texts
import FixedColumns.Proofs.Reader.Score
import FixedColumns.Proofs.Source.Cut
import FixedColumns.Proofs.Reading.Runs
import FixedColumns.Proofs.Reading.Calls
import FixedColumns.Proofs.Source.Validity
import FixedColumns.Proofs.Reading.Unreadable
import FixedColumns.Proofs.Decode.Sequence
import FixedColumns.Proofs.Frame.Columns
import FixedColumns.Proofs.Frame.Transpose
import FixedColumns.Proofs.Source.Endings
import FixedColumns.Proofs.Reading.Endings
import FixedColumns.Proofs.Layout.Erasure
import FixedColumns.Proofs.Reading.Causes
import FixedColumns.Proofs.Format.Alike
import FixedColumns.Proofs.Number.Digits
import FixedColumns.Proofs.Reader.Satisfiable
import FixedColumns.Proofs.Text.Columns
import FixedColumns.Proofs.Number.Integers
import FixedColumns.Proofs.Number.Numerals
import FixedColumns.Proofs.Number.Nearest
import FixedColumns.Proofs.Number.Rounding
import FixedColumns.Proofs.Number.Writing
import FixedColumns.Proofs.Descriptor.Attempts
import FixedColumns.Proofs.Reader.Creation
import FixedColumns.Proofs.Reader.Trimming
import FixedColumns.Proofs.Number.Widening
import FixedColumns.Proofs.Format.Widening
import FixedColumns.Proofs.Reader.Padding
import FixedColumns.Proofs.Reading.Accounts
import FixedColumns.Proofs.Reading.BlankLines
import FixedColumns.Proofs.Choice.FirstMaximum
import FixedColumns.Proofs.Choice.FirstSuccess
import FixedColumns.Proofs.Decode.Integers
import FixedColumns.Proofs.Number.Conversion
import FixedColumns.Proofs.Decode.Reals
import FixedColumns.Proofs.Decode.Records
import FixedColumns.Proofs.Layout.Words
import FixedColumns.Proofs.Frame.Conversion
import FixedColumns.Proofs.Frame.Build
import FixedColumns.Proofs.Frame.Names
