import FixedColumns.Proofs.Reader.Formats
import FixedColumns.Proofs.Reader.Trimming
import FixedColumns.Proofs.Text.Slices

/-!
# `FixedColumns.Proofs.Reader.Padding` — blanks at the end of a line

Blanks put after a line fall into the columns that the line does not reach, so every field has its
text as before, with blanks after it (`Column.exists_slice_append`). A number is trimmed before it
is converted, and so is a text unless the settings keep its blanks; so each field converts as before,
and the error of one that does not differs in the blanks at the end of its text only. This goes on
to lines: `Reader.read_trailing_blanks`.
-/

namespace FixedColumns

/-! ## Columns -/

namespace Text

/-- In the columns of a text with blanks after it stands what the text has in them, and then
    blanks. -/
theorem exists_take_drop_append {bs : List Char} (h : AllBlank bs) (cs : List Char)
    (start width : Nat) :
    ∃ ws, AllBlank ws ∧
      ((cs ++ bs).drop start).take width = (cs.drop start).take width ++ ws := by
  refine ⟨(bs.drop (start - cs.length)).take (width - (cs.drop start).length), ?_, ?_⟩
  · exact h.sublist ((List.take_sublist _ _).trans (List.drop_sublist _ _))
  · rw [List.drop_append, List.take_append]

/-- A line without the blanks at its end. -/
def trimmedEnd (line : String) : String := String.ofList (trimEnd line.toList)

theorem exists_eq_trimmedEnd_append (line : String) :
    ∃ w : String, AllBlank w.toList ∧ line = trimmedEnd line ++ w := by
  obtain ⟨bs, blank, split⟩ := exists_eq_trimEnd_append line.toList
  refine ⟨String.ofList bs, ?_, ?_⟩
  · rw [String.toList_ofList]
    exact blank
  · unfold trimmedEnd
    rw [← String.ofList_append, ← split, String.ofList_toList]

end Text

/-- A field of a line with blanks after it has its text as before, with blanks after it. -/
theorem Column.exists_slice_append (c : Column) (line : String) {w : String}
    (h : Text.AllBlank w.toList) :
    ∃ ws, Text.AllBlank ws ∧ c.slice (line ++ w) = c.slice line ++ String.ofList ws := by
  obtain ⟨ws, blank, split⟩ := Text.exists_take_drop_append h line.toList c.start c.width
  refine ⟨ws, blank, ?_⟩
  apply String.toList_injective
  rw [toList_slice, String.toList_append, String.toList_append, split, toList_slice,
    String.toList_ofList]

/-! ## Fields -/

/-- The second error differs from the first in blanks at the end of its text only. -/
def FieldError.Padded (e padded : FieldError) : Prop :=
  ∃ ws, Text.AllBlank ws ∧ padded = { e with text := e.text ++ String.ofList ws }

/-- With trimming, what a text converts to depends on what trimming leaves of it. -/
theorem FieldType.convert_congr (type : FieldType) {text other : String}
    (h : Text.trim text.toList = Text.trim other.toList) :
    type.convert true text = type.convert true other := by
  unfold convert
  cases type with
  | integer =>
      unfold readInteger
      rw [h]
  | real form =>
      unfold readReal
      rw [h]
  | text =>
      have same : Text.trimmed text = Text.trimmed other := congrArg String.ofList h
      exact congrArg (fun s => Except.ok (Value.text s)) same

namespace Column

variable (c : Column) (line : String) {w : String} (blank : Text.AllBlank w.toList)

include blank

/-- Blanks after a line make no difference to a field, but for the blanks in its error. -/
theorem read_append : SameUpTo FieldError.Padded (c.read true line) (c.read true (line ++ w)) := by
  obtain ⟨ws, blanks, text⟩ := c.exists_slice_append line blank
  have same : c.type.convert true (c.slice (line ++ w)) = c.type.convert true (c.slice line) := by
    apply FieldType.convert_congr
    rw [text, String.toList_append, String.toList_ofList, Text.trim_append_blank blanks]
  unfold read
  rw [same]
  cases c.type.convert true (c.slice line) with
  | ok v => exact .ok v
  | error fault =>
      refine .error ⟨ws, blanks, ?_⟩
      rw [text]

/-- A field converts with blanks after the line exactly if it does without, trimmed or not. -/
theorem isOk_read_append (trimText : Bool) :
    (c.read trimText (line ++ w)).isOk = (c.read trimText line).isOk := by
  have trimmed := (c.read_append line blank).isOk_eq
  cases trimText with
  | true => exact trimmed.symm
  | false =>
      rw [isOk_read_true, isOk_read_true] at trimmed
      exact trimmed.symm

end Column

/-! ## Lines -/

namespace Reader

variable (r : Reader)

/-- A reader that trims texts reads a line with blanks after it as it does the line. -/
theorem read_append (trims : r.settings.trimText = true) (line : String) {w : String}
    (blank : Text.AllBlank w.toList) :
    SameUpTo FieldError.Padded (r.read line) (r.read (line ++ w)) := by
  unfold read readTrimming
  rw [trims]
  exact SameUpTo.mapM (fun c => c.read_append line blank) r.columns

/-- As many fields convert with blanks after a line, whatever the settings. -/
theorem score_append (line : String) {w : String} (blank : Text.AllBlank w.toList) :
    r.score (line ++ w) = r.score line := by
  unfold score
  exact congrArg r.columns.countP
    (funext fun c => c.isOk_read_append line blank r.settings.trimText)

/-- **Blanks at the end of a line make no difference,** neither put there nor cut off. -/
theorem read_trailing_blanks (r : Reader) (line : String) :
    (∀ w : String, Text.AllBlank w.toList →
      (r.settings.trimText = true →
        SameUpTo FieldError.Padded (r.read line) (r.read (line ++ w))) ∧
      r.score (line ++ w) = r.score line) ∧
    (r.settings.trimText = true →
      SameUpTo FieldError.Padded (r.read (Text.trimmedEnd line)) (r.read line)) ∧
    r.score (Text.trimmedEnd line) = r.score line := by
  obtain ⟨w, blank, cut⟩ := Text.exists_eq_trimmedEnd_append line
  refine ⟨?_, ?_, ?_⟩
  · intro w hw
    exact ⟨fun trims => r.read_append trims line hw, r.score_append line hw⟩
  · intro trims
    have whole := r.read_append trims (Text.trimmedEnd line) blank
    rw [← cut] at whole
    exact whole
  · have whole := r.score_append (Text.trimmedEnd line) blank
    rw [← cut] at whole
    exact whole.symm

/-- Blanks of several bytes, put into the columns of an integer that reads and of one that does not,
    and into those of a text that the line does not reach. -/
theorem read_trailing_blanks_several_bytes :
    ∃ r, ofFormat "I3,A2" {} = .ok r ∧ Text.AllBlank "\u3000 \u2003".toList ∧
      r.read "12" = .ok [.integer 12, .text ""] ∧
      SameUpTo FieldError.Padded (r.read "12") (r.read ("12" ++ "\u3000 \u2003")) ∧
      r.read "7x" = .error ⟨0, 3, .integer, "7x", .integer .invalidDigit⟩ ∧
      SameUpTo FieldError.Padded (r.read "7x") (r.read ("7x" ++ "\u3000 \u2003")) ∧
      r.score ("7x" ++ "\u3000 \u2003") = r.score "7x" := by
  let r : Reader :=
    ⟨"I3,A2", {}, [⟨1, .field .integer, 3, none⟩, ⟨1, .field .text, 2, none⟩], _, rfl, rfl⟩
  have blank : Text.AllBlank "\u3000 \u2003".toList := by decide
  obtain ⟨values, _⟩ := (r.read_trailing_blanks "12").1 "\u3000 \u2003" blank
  obtain ⟨error, score⟩ := (r.read_trailing_blanks "7x").1 "\u3000 \u2003" blank
  exact ⟨r, rfl, blank, rfl, values rfl, rfl, error rfl, score⟩

end Reader

end FixedColumns
