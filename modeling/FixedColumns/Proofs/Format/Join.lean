import FixedColumns.Proofs.Format.Pieces
import FixedColumns.Proofs.Layout.Shift
import FixedColumns.Proofs.Reader.Formats

/-!
# `FixedColumns.Proofs.Format.Join` — two formats with a comma between them

The joined format has the fields of the first and, shifted by the columns that the first takes up,
those of the second. So reading a line by it is reading the line by the first and then what follows
those columns by the second, and the first error of the two is the error. `Reader.ofFormat_join` puts
this together.
-/

namespace FixedColumns

namespace Reader

section Joined

/-! ## A reader with the descriptors of two -/

variable {first second joined : Reader}
  (descriptors : joined.descriptors = first.descriptors ++ second.descriptors)

include descriptors

theorem columns_of_append :
    joined.columns = first.columns ++ second.columns.map (Column.shift first.layout.width) := by
  rw [columns_eq, columns_eq, columns_eq, width_eq, descriptors, Layout.columnsFrom_append_shift]

theorem width_of_append : joined.layout.width = first.layout.width + second.layout.width := by
  rw [width_eq, width_eq, width_eq, descriptors, Layout.spanOf_append]

theorem size_of_append : joined.size = first.size + second.size := by
  unfold size
  rw [columns_of_append descriptors, List.length_append, List.length_map]

theorem fullFormat_of_append :
    joined.fullFormat = first.fullFormat ++ "," ++ second.fullFormat := by
  have text : Format.render joined.descriptors =
      Format.render first.descriptors ++ ',' :: Format.render second.descriptors := by
    rw [descriptors]
    apply Format.render_append
    · exact Format.ne_nil_of_parse first.parsed
    · exact Format.ne_nil_of_parse second.parsed
  apply String.toList_injective
  unfold fullFormat
  rw [text, String.toList_append, String.toList_append]
  simp only [String.toList_ofList]
  show _ = _ ++ [','] ++ _
  rw [List.append_assoc, List.singleton_append]

/-- Reading by both descriptors is reading by the first ones and then the rest of the line by the
    second ones. -/
theorem readTrimming_of_append (trimText : Bool) (line : String) :
    joined.readTrimming trimText line =
      match first.readTrimming trimText line,
        second.readTrimming trimText (Text.dropColumns first.layout.width line) with
      | .error e, _ => .error e
      | .ok _, .error e => .error (e.shift first.layout.width)
      | .ok xs, .ok ys => .ok (xs ++ ys) := by
  unfold readTrimming
  rw [columns_of_append descriptors, List.mapM_append, Column.mapM_read_shift]
  cases first.columns.mapM fun c => c.read trimText line with
  | error e => rfl
  | ok xs =>
      cases second.columns.mapM fun c =>
          c.read trimText (Text.dropColumns first.layout.width line) with
      | error e => rfl
      | ok ys => rfl

theorem score_of_append (same : first.settings = joined.settings)
    (same' : second.settings = joined.settings) (line : String) :
    joined.score line =
      first.score line + second.score (Text.dropColumns first.layout.width line) := by
  unfold score
  rw [columns_of_append descriptors, List.countP_append, Column.countP_read_shift, same, same']

end Joined

/-! ## Two formats with a comma between them -/

/-- **Joining formats is reading one after the other.** -/
theorem ofFormat_join {f g : String} {s t : Settings} {first second : Reader}
    (hf : ofFormat f s = .ok first) (hg : ofFormat g t = .ok second) (u : Settings) :
    ∃ joined, ofFormat (f ++ "," ++ g) u = .ok joined ∧
      joined.columns = first.columns ++ second.columns.map (Column.shift first.layout.width) ∧
      joined.layout.width = first.layout.width + second.layout.width ∧
      joined.size = first.size + second.size ∧
      joined.fullFormat = first.fullFormat ++ "," ++ second.fullFormat ∧
      (s = u → t = u → ∀ line,
        joined.read line =
          (match first.read line,
            second.read (Text.dropColumns first.layout.width line) with
          | .error e, _ => .error e
          | .ok _, .error e => .error (e.shift first.layout.width)
          | .ok xs, .ok ys => .ok (xs ++ ys)) ∧
        joined.score line =
          first.score line + second.score (Text.dropColumns first.layout.width line)) := by
  obtain ⟨rfl, hs⟩ := format_of_ofFormat hf
  obtain ⟨rfl, ht⟩ := format_of_ofFormat hg
  -- The comma keeps the pieces of the two formats apart, so their descriptors follow each other.
  have parsed : Format.parse (first.format ++ "," ++ second.format).toList =
      .ok (first.descriptors ++ second.descriptors) := by
    have h := Format.parse_join first.parsed second.parsed
    rw [String.toList_append, String.toList_append, List.append_assoc]
    exact h
  obtain ⟨joined, made, settings, descriptors⟩ := exists_ofFormat parsed u
  refine ⟨joined, made, columns_of_append descriptors, width_of_append descriptors,
    size_of_append descriptors, fullFormat_of_append descriptors, ?_⟩
  intro hsu htu line
  have same : first.settings = joined.settings := by rw [hs, hsu, settings]
  have same' : second.settings = joined.settings := by rw [ht, htu, settings]
  constructor
  · unfold read
    rw [same, same']
    exact readTrimming_of_append descriptors joined.settings.trimText line
  · exact score_of_append descriptors same same' line

/-- An integer in two columns and then, past a column to skip, a text in one. -/
theorem ofFormat_join_integer_text :
    ∃ first second joined, ofFormat "I2" {} = .ok first ∧ ofFormat "X,A1" {} = .ok second ∧
      ofFormat "I2,X,A1" {} = .ok joined ∧
      joined.columns = first.columns ++ second.columns.map (Column.shift 2) ∧
      joined.read "42éx" = .ok [.integer 42, .text "x"] := by
  obtain ⟨first, hf⟩ : ∃ first, ofFormat "I2" {} = .ok first := ⟨_, rfl⟩
  obtain ⟨second, hg⟩ : ∃ second, ofFormat "X,A1" {} = .ok second := ⟨_, rfl⟩
  obtain ⟨joined, made, columns, _, _, _, reads⟩ := ofFormat_join hf hg {}
  obtain ⟨read, _⟩ := reads rfl rfl "42éx"
  cases hf
  cases hg
  exact ⟨_, _, joined, rfl, rfl, made, columns, read⟩

end Reader

end FixedColumns
