import FixedColumns.Reader.Basic

/-!
# `FixedColumns.Reader.Choice` — choosing between readers

A line may be laid out in one of several ways. `best?` takes the reader that converts the most
fields of it, and `readFirst` the first one that converts them all.
-/

namespace FixedColumns

/-- The place of the greatest number of a list, and the number; of equal ones the first. -/
def firstMaximum : List Nat → Option (Nat × Nat)
  | [] => none
  | n :: ns =>
    match firstMaximum ns with
    | some (i, m) => if n < m then some (i + 1, m) else some (0, n)
    | none => some (0, n)

namespace Reader

/-- The first reader that converts the most fields of a line, by its place, and their number. -/
def best? (readers : List Reader) (line : String) : Option (Nat × Nat) :=
  firstMaximum (readers.map (·.score line))

/-- The values of a line by the first reader that converts it, with that reader's place. If none
    does, the error is that of the last. -/
def readFirst (line : String) :
    Reader → List Reader → Except FieldError (Nat × List Value)
  | r, [] => (r.read line).map fun values => (0, values)
  | r, next :: rest =>
    match r.read line with
    | .ok values => .ok (0, values)
    | .error _ => (readFirst line next rest).map fun (i, values) => (i + 1, values)

end Reader

end FixedColumns
