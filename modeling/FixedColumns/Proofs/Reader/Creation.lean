import FixedColumns.Proofs.Format.Pieces
import FixedColumns.Proofs.Reader.Formats

/-!
# `FixedColumns.Proofs.Reader.Creation` — which formats have a reader

A format has a reader if all its pieces are descriptors, and the reader has those descriptors. One
piece that is none is enough to refuse the format, and what is reported is the first such piece, as it
stands between its commas, even if pieces after it are at fault in a way that would be noticed earlier
in a single descriptor. `Reader.ofFormat_pieces` puts this together.
-/

namespace FixedColumns

/-- An error names the text that is no descriptor. -/
theorem Descriptor.descriptor_of_parse_eq_error {cs : List Char} {e : DescriptorError}
    (h : parse cs = .error e) : e.descriptor = String.ofList cs := by
  unfold parse at h
  cases hs : Spelling.scan cs with
  | error stop =>
      rw [hs] at h
      rw [← Except.error.inj h]
  | ok s =>
      rw [hs] at h
      obtain ⟨fault, -, rfl⟩ := mapError_eq_error_iff.mp h
      rfl

namespace Reader

variable {format : String} {s : Settings}

/-- A format has a reader exactly if each of its pieces is a descriptor. -/
theorem exists_ofFormat_iff :
    (∃ r, ofFormat format s = .ok r) ↔
      ∀ t ∈ Format.pieces format.toList, ∃ d, Descriptor.parse t = .ok d := by
  rw [← exists_mapM_eq_ok_iff]
  constructor
  · rintro ⟨r, made⟩
    exact ⟨r.descriptors, parse_of_ofFormat made⟩
  · rintro ⟨ds, parsed⟩
    obtain ⟨r, made, -, -⟩ := exists_ofFormat parsed s
    exact ⟨r, made⟩

/-- Without a reader the error is that of the first piece that is no descriptor. -/
theorem ofFormat_eq_error_iff_firstError {e : DescriptorError} :
    ofFormat format s = .error e ↔
      ∃ i, FirstError Descriptor.parse (Format.pieces format.toList) i e := by
  rw [ofFormat_eq_error_iff, ← mapM_eq_error_iff]
  rfl

/-- **A format has a reader for all of its pieces, or the error of the first bad one.** -/
theorem ofFormat_pieces (format : String) (s : Settings) :
    ∃ ts, Format.BetweenCommas ts format.toList ∧
      (∀ us, Format.BetweenCommas us format.toList → us = ts) ∧
      ((∃ r, ofFormat format s = .ok r) ↔ ∀ t ∈ ts, ∃ d, Descriptor.parse t = .ok d) ∧
      (∀ r, ofFormat format s = .ok r →
        List.Forall₂ (fun t d => Descriptor.parse t = .ok d) ts r.descriptors ∧
        r.format = format ∧ r.settings = s) ∧
      (∀ e, ofFormat format s = .error e ↔ ∃ i, FirstError Descriptor.parse ts i e) ∧
      ∀ i e, FirstError Descriptor.parse ts i e →
        ∃ t, ts[i]? = some t ∧ Descriptor.parse t = .error e ∧ e.descriptor = String.ofList t := by
  refine ⟨Format.pieces format.toList, Format.betweenCommas_iff.mpr rfl, ?_, exists_ofFormat_iff, ?_,
    fun _ => ofFormat_eq_error_iff_firstError, ?_⟩
  · intro us between
    exact Format.betweenCommas_iff.mp between
  · intro r made
    exact ⟨mapM_eq_ok_iff.mp (parse_of_ofFormat made), format_of_ofFormat made⟩
  · rintro i e ⟨⟨t, place, fails⟩, -⟩
    exact ⟨t, place, fails, Descriptor.descriptor_of_parse_eq_error fails⟩

/-- The blank piece comes before one whose count is too large and one that is not in the grammar. -/
example : ofFormat "I4, ,9999999999I2,Q" {} = .error ⟨" ", .unrecognized 0⟩ := by rfl

end Reader

end FixedColumns
