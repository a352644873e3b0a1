import FixedColumns.Proofs.Descriptor.RoundTrip
import FixedColumns.Proofs.Traversal

/-!
# `FixedColumns.Proofs.Format.Pieces` — formats by the pieces between their commas

No descriptor is written with a comma, so cutting the text of descriptors at its commas gives back
their texts. With the round trip of a single descriptor this is that of a whole format,
`Format.parse_render`. Cutting two formats with a comma between them gives the pieces of the one and
then those of the other, which `Format.parse_join` and `Format.render_append` carry over to
descriptors.
-/

namespace FixedColumns

/-- No text of a descriptor has a comma. -/
theorem Parts.comma_not_mem_text (p : Parts) : ',' ∉ p.text := by
  have letter : ∀ entry ∈ Kind.letters, ',' ≠ entry.1 := by decide
  intro h
  rcases mem_text h with digit | same | point
  · exact absurd digit (by decide)
  · exact letter _ p.named same
  · exact absurd point (by decide)

namespace Format

/-! ## The texts between commas -/

/-- The texts are those between the commas of a format, from left to right. -/
structure BetweenCommas (ts : List (List Char)) (format : List Char) : Prop where
  nonempty : ts ≠ []
  noComma : ∀ t ∈ ts, ',' ∉ t
  joined : [','].intercalate ts = format

theorem comma_not_mem_of_mem_pieces {format t : List Char} (h : t ∈ pieces format) : ',' ∉ t := by
  unfold pieces at h
  induction format generalizing t with
  | nil =>
      rw [List.splitOn_nil, List.mem_singleton] at h
      rw [h]
      exact List.not_mem_nil
  | cons c cs ih =>
      rw [List.splitOn_cons_eq_if_modifyHead] at h
      split at h
      · rcases List.mem_cons.mp h with rfl | h
        · exact List.not_mem_nil
        · exact ih h
      · -- The character is no comma, and goes in front of the first piece.
        rename_i other
        cases hs : cs.splitOn ',' with
        | nil => exact absurd hs (List.splitOn_ne_nil ',' cs)
        | cons first rest =>
            rw [hs, List.modifyHead_cons] at h
            rcases List.mem_cons.mp h with rfl | h
            · rw [List.mem_cons, not_or]
              refine ⟨?_, ih (hs ▸ List.mem_cons_self)⟩
              rintro rfl
              exact other (beq_self_eq_true ',')
            · exact ih (hs ▸ List.mem_cons_of_mem first h)

/-- A format has just one list of texts between its commas. -/
theorem betweenCommas_iff {ts : List (List Char)} {format : List Char} :
    BetweenCommas ts format ↔ ts = pieces format := by
  constructor
  · rintro ⟨nonempty, noComma, rfl⟩
    exact (List.splitOn_intercalate ',' noComma nonempty).symm
  · rintro rfl
    exact ⟨List.splitOn_ne_nil ',' format, fun t ht => comma_not_mem_of_mem_pieces ht,
      List.intercalate_splitOn ','⟩

/-! ## What a format reads as -/

/-- A format has at least one descriptor. -/
theorem ne_nil_of_parse {cs : List Char} {ds : List Descriptor} (h : parse cs = .ok ds) :
    ds ≠ [] := by
  rintro rfl
  have pairs := mapM_eq_ok_iff.mp h
  rw [List.forall₂_nil_right_iff] at pairs
  exact List.splitOn_ne_nil ',' cs pairs

/-- The descriptors of a format can be written and read again. -/
theorem readable_of_parse {cs : List Char} {ds : List Descriptor} (h : parse cs = .ok ds) :
    ∀ d ∈ ds, d.Readable := by
  intro d hd
  obtain ⟨piece, _, hp⟩ := exists_mem_of_mapM_eq_ok h hd
  exact Descriptor.readable_of_parse hp

/-! ## Writing a format and reading it again -/

theorem pieces_render {ds : List Descriptor} (h : ds ≠ []) :
    pieces (render ds) = ds.map Descriptor.render := by
  symm
  apply betweenCommas_iff.mp
  refine ⟨fun hnil => h (List.map_eq_nil_iff.mp hnil), ?_, rfl⟩
  intro cs hcs
  obtain ⟨d, _, rfl⟩ := List.mem_map.mp hcs
  rw [← Descriptor.text_parts]
  exact d.parts.comma_not_mem_text

/-- Reading the text of descriptors gives them, but for the decimals of skips. -/
theorem parse_render {ds : List Descriptor} (hne : ds ≠ []) (h : ∀ d ∈ ds, d.Readable) :
    parse (render ds) = .ok (ds.map Descriptor.normal) := by
  unfold parse
  rw [pieces_render hne]
  apply mapM_map_eq_ok
  intro d hd
  exact Descriptor.parse_render (h d hd)

/-- Descriptors that differ in the decimals of skips only have the same text. -/
theorem render_map_normal (ds : List Descriptor) : render (ds.map Descriptor.normal) = render ds := by
  unfold render
  rw [List.map_map]
  congr 2
  exact funext Descriptor.render_normal

/-! ## Two formats with a comma between them -/

/-- A format made of two reads as the descriptors of both. -/
theorem parse_join {first second : List Char} {ds es : List Descriptor}
    (hf : parse first = .ok ds) (hs : parse second = .ok es) :
    parse (first ++ ',' :: second) = .ok (ds ++ es) := by
  unfold parse pieces at hf hs ⊢
  rw [List.splitOn_append_cons_self, List.mapM_append, hf, hs]
  rfl

/-- The text of two lists of descriptors is their texts with a comma between them. -/
theorem render_append {ds es : List Descriptor} (hd : ds ≠ []) (he : es ≠ []) :
    render (ds ++ es) = render ds ++ ',' :: render es := by
  unfold render
  induction ds with
  | nil => exact absurd rfl hd
  | cons d ds ih =>
      -- The comma between the two lists is the one after the last descriptor of the first.
      cases ds with
      | nil =>
          have more : es.map Descriptor.render ≠ [] := by simpa using he
          simp [List.intercalate_cons_of_ne_nil more]
      | cons d' ds =>
          have tail := ih (by simp)
          simp only [List.cons_append, List.map_cons, List.intercalate_cons_cons] at tail ⊢
          rw [tail]
          simp

end Format

end FixedColumns
