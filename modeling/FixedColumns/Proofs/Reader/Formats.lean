import FixedColumns.Reader.Basic

/-!
# `FixedColumns.Proofs.Reader.Formats` — readers and the formats they are made from

A reader carries the proof that its format reads as its descriptors and that these are laid out as
its columns. So every format that can be read has a reader with any settings, and two readers with
the same columns and settings read every line alike.
-/

namespace FixedColumns

namespace Reader

/-- A format that reads as descriptors has a reader with any settings. -/
theorem exists_ofFormat {format : String} {ds : List Descriptor}
    (h : Format.parse format.toList = .ok ds) (s : Settings) :
    ∃ r : Reader, ofFormat format s = .ok r ∧ r.settings = s ∧ r.descriptors = ds := by
  unfold ofFormat
  split
  · rename_i ds' parsed
    exact ⟨_, rfl, rfl, Except.ok.inj (parsed.symm.trans h)⟩
  · rename_i e parsed
    exact nomatch parsed.symm.trans h

/-- The reader of a format has the format and the settings it was made with. -/
theorem format_of_ofFormat {format : String} {s : Settings} {r : Reader}
    (h : ofFormat format s = .ok r) : r.format = format ∧ r.settings = s := by
  unfold ofFormat at h
  split at h
  · rw [← Except.ok.inj h]
    exact ⟨rfl, rfl⟩
  · exact nomatch h

/-- A format that has a reader reads as the descriptors of the reader. -/
theorem parse_of_ofFormat {format : String} {s : Settings} {r : Reader}
    (h : ofFormat format s = .ok r) : Format.parse format.toList = .ok r.descriptors := by
  rw [← (format_of_ofFormat h).1]
  exact r.parsed

/-- A format has no reader exactly if it does not read as descriptors, and the error is that. -/
theorem ofFormat_eq_error_iff {format : String} {s : Settings} {e : DescriptorError} :
    ofFormat format s = .error e ↔ Format.parse format.toList = .error e := by
  constructor
  · intro h
    unfold ofFormat at h
    split at h
    · cases h
    · rename_i other parsed
      rw [parsed, Except.error.inj h]
  · intro h
    unfold ofFormat
    split
    · rename_i ds parsed
      cases h.symm.trans parsed
    · rename_i other parsed
      rw [Except.error.inj (parsed.symm.trans h)]

theorem columns_eq (r : Reader) : r.columns = Layout.columnsFrom 0 r.descriptors :=
  congrArg Layout.columns r.laidOut

theorem width_eq (r : Reader) : r.layout.width = Layout.spanOf r.descriptors :=
  congrArg Layout.width r.laidOut

/-- Readers with the same columns and settings read every line alike. -/
theorem read_eq_of_columns_eq {r other : Reader} (hc : r.columns = other.columns)
    (hs : r.settings = other.settings) (line : String) :
    r.read line = other.read line ∧ r.score line = other.score line := by
  unfold read readTrimming score
  rw [hc, hs]
  exact ⟨rfl, rfl⟩

end Reader

end FixedColumns
