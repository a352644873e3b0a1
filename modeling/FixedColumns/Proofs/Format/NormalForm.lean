import FixedColumns.Proofs.Format.Pieces
import FixedColumns.Proofs.Reader.Formats

/-!
# `FixedColumns.Proofs.Format.NormalForm` — the full format of a reader

The full format of a reader is the text of its descriptors. It reads as the same descriptors but for
the decimals of skips, and neither the layout nor the text of descriptors depends on those; so the
full format has a reader with the same columns and the same full format, which reads every line
alike. `Reader.fullFormat_normal` puts this together, with the round trip of one descriptor.
-/

namespace FixedColumns

namespace Layout

/-- The decimals of skips make no difference to a layout. -/
theorem columnsOf_normal (start : Nat) (d : Descriptor) :
    columnsOf start d.normal = columnsOf start d := by
  unfold columnsOf
  rw [Descriptor.kind_normal, Descriptor.count_normal, Descriptor.width_normal]

theorem span_normal (d : Descriptor) : d.normal.span = d.span := by
  unfold Descriptor.span
  rw [Descriptor.count_normal, Descriptor.width_normal]

theorem columnsFrom_map_normal (start : Nat) (ds : List Descriptor) :
    columnsFrom start (ds.map Descriptor.normal) = columnsFrom start ds := by
  have same : ∀ start d, columnsOf start d.normal = (columnsOf start d).map id := by
    intro start d
    rw [List.map_id, columnsOf_normal]
  rw [columnsFrom_map same span_normal, List.map_id]

theorem spanOf_map_normal (ds : List Descriptor) :
    spanOf (ds.map Descriptor.normal) = spanOf ds :=
  spanOf_map span_normal ds

end Layout

namespace Reader

/-- The full format of a reader reads as its descriptors, but for the decimals of skips. -/
theorem parse_fullFormat (r : Reader) :
    Format.parse r.fullFormat.toList = .ok (r.descriptors.map Descriptor.normal) := by
  unfold fullFormat
  rw [String.toList_ofList]
  exact Format.parse_render (Format.ne_nil_of_parse r.parsed) (Format.readable_of_parse r.parsed)

/-- A reader whose descriptors are another's but for the decimals of skips has the same layout. -/
theorem columns_eq_of_map_normal {r other : Reader}
    (h : r.descriptors.map Descriptor.normal = other.descriptors.map Descriptor.normal) :
    r.columns = other.columns ∧ r.layout.width = other.layout.width := by
  constructor
  · rw [columns_eq, columns_eq, ← Layout.columnsFrom_map_normal, h, Layout.columnsFrom_map_normal]
  · rw [width_eq, width_eq, ← Layout.spanOf_map_normal, h, Layout.spanOf_map_normal]

/-- The full format of a reader has a reader with the same settings, which is laid out alike and has
    the same full format. -/
theorem exists_ofFormat_fullFormat (r : Reader) :
    ∃ again, ofFormat r.fullFormat r.settings = .ok again ∧ again.settings = r.settings ∧
      again.columns = r.columns ∧ again.layout.width = r.layout.width ∧
      again.fullFormat = r.fullFormat := by
  obtain ⟨again, made, settings, descriptors⟩ := exists_ofFormat r.parse_fullFormat r.settings
  have columns : again.columns = r.columns := by
    rw [columns_eq, columns_eq, descriptors, Layout.columnsFrom_map_normal]
  have width : again.layout.width = r.layout.width := by
    rw [width_eq, width_eq, descriptors, Layout.spanOf_map_normal]
  have text : again.fullFormat = r.fullFormat := by
    unfold fullFormat
    rw [descriptors, Format.render_map_normal]
  exact ⟨again, made, settings, columns, width, text⟩

/-- Readers with the same full format have the same layout. -/
theorem columns_eq_of_fullFormat_eq {r other : Reader} (h : r.fullFormat = other.fullFormat) :
    r.columns = other.columns ∧ r.layout.width = other.layout.width := by
  -- The descriptors need not agree: both formats have lost the decimals of their skips.
  have parsed := r.parse_fullFormat
  rw [h, other.parse_fullFormat] at parsed
  exact columns_eq_of_map_normal (Except.ok.inj parsed).symm

/-- **The full format is a normal form.** -/
theorem fullFormat_normal :
    (∀ (format : String) (s : Settings) (r : Reader), ofFormat format s = .ok r →
      (∃ ds, Format.parse format.toList = .ok ds ∧
        Format.parse r.fullFormat.toList = .ok (ds.map Descriptor.normal)) ∧
      ∃ again, ofFormat r.fullFormat s = .ok again ∧
        again.columns = r.columns ∧ again.layout.width = r.layout.width ∧
        again.fullFormat = r.fullFormat ∧
        ∀ line, again.read line = r.read line ∧ again.score line = r.score line) ∧
    (∀ r other : Reader, r.fullFormat = other.fullFormat →
      r.columns = other.columns ∧ r.layout.width = other.layout.width) ∧
    ∀ d : Descriptor, d.kind ≠ .skip → d.count ≤ 100000 → d.width ≤ 2 ^ 32 - 1 →
      (∀ n, d.decimals = some n → n ≤ 2 ^ 32 - 1) → Descriptor.parse d.render = .ok d := by
  refine ⟨?_, ?_, ?_⟩
  · intro format s r made
    obtain ⟨rfl, rfl⟩ := format_of_ofFormat made
    obtain ⟨again, made', settings, columns, width, text⟩ := r.exists_ofFormat_fullFormat
    exact ⟨⟨r.descriptors, r.parsed, r.parse_fullFormat⟩, again, made', columns, width, text,
      read_eq_of_columns_eq columns settings⟩
  · intro r other h
    exact columns_eq_of_fullFormat_eq h
  · intro d hk count width decimals
    have field : d.kind.isSkip = false := Kind.isSkip_eq_false_iff.mpr hk
    have readable : d.Readable := by
      refine ⟨count, width, decimals, ?_⟩
      intro h
      rw [field] at h
      exact nomatch h
    exact Descriptor.parse_render_of_field readable field

end Reader

end FixedColumns
