import FixedColumns.Proofs.Reading.Verdicts

/-!
# `FixedColumns.Proofs.Reading.Causes` — readings up to the errors of fields

A reading mentions the error of a field in two places: as the cause of its own error, and in the
record of a line that was left out. `Reading.mapCause` changes it in both. If two readers agree on
every line up to such a change then they agree on every source up to it: the same rows, the same
lines left out, and the same line that ends the reading (`Reader.readSourceBy_mapCause`).
-/

namespace FixedColumns

variable (f : FieldError → FieldError)

/-- The reading with the causes of its error and of its records changed. -/
def Reading.mapCause {α : Type} (t : Reading α) : Reading α :=
  t.relabel (ReadingError.mapCause f) (Record.mapCause f)

theorem Reading.map_id_eq_mapCause (t : Reading (List (List Value))) :
    t.map id f = t.mapCause f := by
  rw [map, mapRows_id, mapCause]

variable {f}

/-- **Readers that agree on every line up to the errors** agree on every source. -/
theorem Reader.readSourceBy_mapCause {r other : Reader}
    (agree : ∀ trimText line, (r.readTrimming trimText line).mapError f =
      (other.readTrimming trimText line).mapError f) (s : Settings) (source : List UInt8) :
    (r.readSourceBy s source).mapCause f = (other.readSourceBy s source).mapCause f := by
  rw [← Reading.map_id_eq_mapCause, ← Reading.map_id_eq_mapCause]
  apply readSourceBy_map
  apply judge_map rfl rfl
  intro text
  rw [Except.map_id, id, id]
  exact agree s.trimText text

end FixedColumns
