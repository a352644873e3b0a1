import FixedColumns.Proofs.Reading.Steps
import FixedColumns.Proofs.Source.Lines
import Mathlib.Data.List.Forall2

/-!
# `FixedColumns.Proofs.Reading.Rows` — which lines make up a table

A line is invalid, dropped as blank, bad, or none of these. `Reader.Stops` says which lines end the
reading: the invalid ones, and the bad ones unless they are dropped. The main statement is
`Reader.result_readSourceBy`. If no line ends the reading, the rows are the values of the lines that
are neither dropped as blank nor bad, one for each and in order; otherwise the first line that ends
it decides the error, and its number counts every line before it.
-/

namespace FixedColumns

/-! ## The kinds of line -/

/-- The bytes are the UTF-8 form of no text. -/
def InvalidLine (bytes : List UInt8) : Prop := ∀ text, ¬ Encodes bytes text

/-- Trimming the text leaves nothing, and blank lines are left out. -/
def Settings.DropsBlank (s : Settings) (bytes : List UInt8) : Prop :=
  s.dropBlank = true ∧ ∃ text, Encodes bytes text ∧ Text.trim text.toList = []

namespace Reader

variable (r : Reader) (s : Settings)

/-- The line is not left out as blank, and its text does not convert. -/
def FailsOn (bytes : List UInt8) (text : String) (cause : FieldError) : Prop :=
  Encodes bytes text ∧ ¬ s.DropsBlank bytes ∧ r.readTrimming s.trimText text = .error cause

/-- The line is valid, not left out as blank, and does not convert. -/
def BadLine (bytes : List UInt8) : Prop := ∃ text cause, r.FailsOn s bytes text cause

/-- The line has a text, and these are its values. -/
def IsRowOf (bytes : List UInt8) (row : List Value) : Prop :=
  ∃ text, Encodes bytes text ∧ r.readTrimming s.trimText text = .ok row

/-- The line ends the reading: it is invalid, or it is bad and bad lines are not left out. -/
def Stops (bytes : List UInt8) : Prop :=
  InvalidLine bytes ∨ (r.BadLine s bytes ∧ s.dropMalformed = false)

end Reader

/-! ## Kinds and verdicts -/

theorem isBlankLine_iff {text : String} :
    isBlankLine text = true ↔ Text.trim text.toList = [] := by
  rw [Text.trim_eq_nil_iff]
  unfold isBlankLine Text.AllBlank
  exact List.all_eq_true

/-- For a line with a text, whether it is left out as blank depends on that text. -/
theorem Settings.dropsBlank_iff (s : Settings) {bytes : List UInt8} {text : String}
    (h : Encodes bytes text) :
    s.DropsBlank bytes ↔ (s.dropBlank && isBlankLine text) = true := by
  rw [Bool.and_eq_true, isBlankLine_iff]
  constructor
  · rintro ⟨drop, other, encodes, blank⟩
    exact ⟨drop, h.unique encodes ▸ blank⟩
  · rintro ⟨drop, blank⟩
    exact ⟨drop, text, h, blank⟩

namespace Reader

variable (r : Reader) (s : Settings) {line : RawLine}

/-- An invalid line is unreadable, whatever the settings. -/
theorem judge_of_invalid (h : InvalidLine line.content) : r.judge s line = .unreadable := by
  have none : line.text? = none := RawLine.text?_eq_none_iff.mpr h
  unfold judge
  rw [none]

/-- A line that is dropped as blank is not converted. -/
theorem judge_of_dropsBlank (h : s.DropsBlank line.content) : r.judge s line = .blank := by
  obtain ⟨drop, text, encodes, trimmed⟩ := h
  have some : line.text? = some text := RawLine.text?_eq_some_iff.mpr encodes
  have blank := (s.dropsBlank_iff encodes).mp ⟨drop, text, encodes, trimmed⟩
  unfold judge
  rw [some]
  exact if_pos blank

/-- Any other line is judged by the conversion of its text. -/
theorem judge_of_encodes {text : String} (h : Encodes line.content text)
    (hb : ¬ s.DropsBlank line.content) :
    r.judge s line =
      match r.readTrimming s.trimText text with
      | .ok values => .row values
      | .error cause => if s.dropMalformed then .dropped cause else .malformed text cause := by
  have some : line.text? = some text := RawLine.text?_eq_some_iff.mpr h
  have kept : ¬ (s.dropBlank && isBlankLine text) = true := by
    intro blank
    exact hb ((s.dropsBlank_iff h).mpr blank)
  unfold judge
  rw [some]
  show (if (s.dropBlank && isBlankLine text) = true then _ else _) = _
  cases r.readTrimming s.trimText text with
  | ok values => exact if_neg kept
  | error cause => exact if_neg kept

/-- A bad line ends the reading, unless bad lines are dropped. -/
theorem judge_of_failsOn {text : String} {cause : FieldError}
    (h : r.FailsOn s line.content text cause) :
    r.judge s line = if s.dropMalformed then .dropped cause else .malformed text cause := by
  obtain ⟨encodes, blank, failed⟩ := h
  rw [r.judge_of_encodes s encodes blank, failed]

/-- A bad line is left out as such, or it is an error. -/
theorem judge_of_badLine (h : r.BadLine s line.content) :
    (∃ cause, r.judge s line = .dropped cause) ∨
      ∃ text cause, r.judge s line = .malformed text cause := by
  obtain ⟨text, cause, hf⟩ := h
  have verdict := r.judge_of_failsOn s hf
  cases hd : s.dropMalformed with
  | true =>
      rw [hd] at verdict
      exact Or.inl ⟨cause, verdict⟩
  | false =>
      rw [hd] at verdict
      exact Or.inr ⟨text, cause, verdict⟩

/-- Every line is invalid, dropped as blank, bad, or a row. -/
theorem kinds (bytes : List UInt8) :
    InvalidLine bytes ∨ s.DropsBlank bytes ∨ r.BadLine s bytes ∨
      (¬ s.DropsBlank bytes ∧ ∃ row, r.IsRowOf s bytes row) := by
  by_cases hi : InvalidLine bytes
  · exact Or.inl hi
  by_cases hb : s.DropsBlank bytes
  · exact Or.inr (Or.inl hb)
  obtain ⟨text, encodes⟩ : ∃ text, Encodes bytes text := by
    unfold InvalidLine at hi
    simpa using hi
  refine Or.inr (Or.inr ?_)
  cases hr : r.readTrimming s.trimText text with
  | error cause => exact Or.inl ⟨text, cause, encodes, hb, hr⟩
  | ok row => exact Or.inr ⟨hb, row, text, encodes, hr⟩

/-- A row is the values of the line's text. -/
theorem judge_of_isRowOf {row : List Value} (hb : ¬ s.DropsBlank line.content)
    (h : r.IsRowOf s line.content row) : r.judge s line = .row row := by
  obtain ⟨text, encodes, values⟩ := h
  rw [r.judge_of_encodes s encodes hb, values]

/-- Only a line with values is judged to be a row. -/
theorem isRowOf_of_judge {row : List Value} (h : r.judge s line = .row row) :
    r.IsRowOf s line.content row := by
  rcases r.kinds s line.content with hi | hb | hbad | ⟨hb, values, hrow⟩
  · rw [r.judge_of_invalid s hi] at h
    exact nomatch h
  · rw [r.judge_of_dropsBlank s hb] at h
    exact nomatch h
  · rcases r.judge_of_badLine s hbad with ⟨cause, hj⟩ | ⟨text, cause, hj⟩
    · rw [hj] at h
      exact nomatch h
    · rw [hj] at h
      exact nomatch h
  · rw [r.judge_of_isRowOf s hb hrow] at h
    rw [← Verdict.row.inj h]
    exact hrow

/-- Every row is that of a line. -/
theorem exists_line_of_mem_rows {lines : List RawLine} {row : List Value}
    (h : row ∈ r.rows s lines) : ∃ line ∈ lines, r.IsRowOf s line.content row := by
  obtain ⟨line, hl, hrow⟩ := List.mem_filterMap.mp h
  exact ⟨line, hl, r.isRowOf_of_judge s (Verdict.row?_eq_some_iff.mp hrow)⟩

/-- A line with values is not bad. -/
theorem not_badLine_of_isRowOf {bytes : List UInt8} {row : List Value}
    (h : r.IsRowOf s bytes row) : ¬ r.BadLine s bytes := by
  obtain ⟨text, encodes, values⟩ := h
  rintro ⟨other, cause, encodes', _, failed⟩
  rw [encodes'.unique encodes, values] at failed
  exact nomatch failed

/-- A line that does not end the reading is dropped as blank, dropped as bad, or a row. -/
theorem judge_of_not_stops (h : ¬ r.Stops s line.content) :
    (s.DropsBlank line.content ∧ r.judge s line = .blank) ∨
      (r.BadLine s line.content ∧ ∃ cause, r.judge s line = .dropped cause) ∨
      (¬ s.DropsBlank line.content ∧ ¬ r.BadLine s line.content ∧
        ∃ row, r.IsRowOf s line.content row ∧ r.judge s line = .row row) := by
  rcases r.kinds s line.content with hi | hb | hbad | ⟨hb, row, hrow⟩
  · exact absurd (Or.inl hi) h
  · exact Or.inl ⟨hb, r.judge_of_dropsBlank s hb⟩
  · -- A bad line that does not end the reading is one under settings that drop such lines.
    have drop : s.dropMalformed = true := by
      apply Classical.byContradiction
      intro hd
      exact h (Or.inr ⟨hbad, Bool.eq_false_iff.mpr hd⟩)
    refine Or.inr (Or.inl ⟨hbad, ?_⟩)
    obtain ⟨text, cause, hf⟩ := hbad
    refine ⟨cause, ?_⟩
    rw [r.judge_of_failsOn s hf, if_pos drop]
  · refine Or.inr (Or.inr ⟨hb, r.not_badLine_of_isRowOf s hrow, row, hrow, ?_⟩)
    exact r.judge_of_isRowOf s hb hrow

theorem not_ends_of_not_stops (h : ¬ r.Stops s line.content) :
    (r.judge s line).ends = false := by
  rcases r.judge_of_not_stops s h with ⟨_, hj⟩ | ⟨_, cause, hj⟩ | ⟨_, _, row, _, hj⟩
  · rw [hj]
    rfl
  · rw [hj]
    rfl
  · rw [hj]
    rfl

/-! ## The rows of a source -/

open Classical in
/-- Lines none of which ends the reading have a row each, but for those left out. -/
theorem forall₂_rows {lines : List RawLine} (h : ∀ line ∈ lines, ¬ r.Stops s line.content) :
    List.Forall₂ (r.IsRowOf s)
      ((lines.map RawLine.content).filter fun bytes =>
        ¬ s.DropsBlank bytes ∧ ¬ r.BadLine s bytes) (r.rows s lines) := by
  induction lines with
  | nil => exact List.Forall₂.nil
  | cons line lines ih =>
      have more : ∀ l ∈ lines, ¬ r.Stops s l.content := by
        intro l hl
        exact h l (List.mem_cons_of_mem _ hl)
      have tail := ih more
      rw [List.map_cons, rows_cons]
      rcases r.judge_of_not_stops s (h line List.mem_cons_self) with
        ⟨hb, hj⟩ | ⟨hbad, cause, hj⟩ | ⟨hb, hbad, row, hrow, hj⟩
      -- The filter leaves out just the lines whose verdict is no row.
      · rw [List.filter_cons_of_neg (by simp [hb]), hj]
        exact tail
      · rw [List.filter_cons_of_neg (by simp [hbad]), hj]
        exact tail
      · rw [List.filter_cons_of_pos (by simp [hb, hbad]), hj]
        exact List.Forall₂.cons hrow tail

/-- A source none of whose lines ends the reading gives the rows of its lines. -/
theorem result_readSourceBy_of_not_stops {source : List UInt8}
    (h : ∀ line ∈ Source.lines source, ¬ r.Stops s line.content) :
    (r.readSourceBy s source).result = .ok (r.rows s (Source.lines source)) := by
  have go_on : ∀ line ∈ Source.lines source, (r.judge s line).ends = false := by
    intro line hl
    exact r.not_ends_of_not_stops s (h line hl)
  have run := r.readLines_append s go_on 1 []
  rw [List.append_nil] at run
  rw [readSourceBy, run]
  simp [readLines, Except.map]

/-- The first line that ends the reading decides the error. -/
theorem result_readLines_of_error {before more : List RawLine} {number : Nat} {e : ReadingError}
    (h : ∀ l ∈ before, ¬ r.Stops s l.content)
    (he : (r.judge s line).error? (number + before.length) = some e) :
    (r.readLines s number (before ++ line :: more)).result = .error e := by
  have go_on : ∀ l ∈ before, (r.judge s l).ends = false := by
    intro l hl
    exact r.not_ends_of_not_stops s (h l hl)
  rw [r.readLines_append s go_on, r.readLines_cons_error s he]
  rfl

/-- The error of a line that ends the reading. -/
theorem error?_judge_of_stops (h : r.Stops s line.content) (number : Nat) :
    ∃ e, (r.judge s line).error? number = some e ∧
      (InvalidLine line.content → e = .unreadable number) ∧
      ∀ text cause, r.FailsOn s line.content text cause → e = .malformed number text cause := by
  rcases h with hi | ⟨⟨text, cause, hf⟩, drop⟩
  · refine ⟨.unreadable number, ?_, ?_, ?_⟩
    · rw [r.judge_of_invalid s hi]
      rfl
    · intro _
      rfl
    · intro text _ hf
      exact absurd hf.1 (hi text)
  · refine ⟨.malformed number text cause, ?_, ?_, ?_⟩
    · rw [r.judge_of_failsOn s hf, drop]
      rfl
    · intro hi
      exact absurd hf.1 (hi text)
    · -- The bytes have one text only, and converting it has one result.
      intro other reason hf'
      have same : other = text := hf'.1.unique hf.1
      have failed := hf'.2.2
      rw [same, hf.2.2] at failed
      rw [same, Except.error.inj failed]

open Classical in
/-- **What reading a source comes to.** -/
theorem result_readSourceBy (source : List UInt8) :
    ((∀ bytes ∈ Source.contents source, ¬ r.Stops s bytes) →
      ∃ rows, (r.readSourceBy s source).result = .ok rows ∧
        List.Forall₂ (r.IsRowOf s)
          ((Source.contents source).filter fun bytes =>
            ¬ s.DropsBlank bytes ∧ ¬ r.BadLine s bytes) rows) ∧
    ∀ k bytes, (Source.contents source)[k]? = some bytes → r.Stops s bytes →
      (∀ j < k, ∀ other, (Source.contents source)[j]? = some other → ¬ r.Stops s other) →
      ∃ e, (r.readSourceBy s source).result = .error e ∧
        (InvalidLine bytes → e = .unreadable (k + 1) ∧ e.note = s!"line {k + 1}") ∧
        ∀ text cause, r.FailsOn s bytes text cause →
          e = .malformed (k + 1) text cause ∧ e.note = s!"line {k + 1}: '{text}'" ∧
            e.cause? = some cause := by
  rw [← Source.map_content_lines]
  constructor
  · intro h
    have hl : ∀ line ∈ Source.lines source, ¬ r.Stops s line.content := by
      intro line hl
      exact h line.content (List.mem_map_of_mem hl)
    exact ⟨_, r.result_readSourceBy_of_not_stops s hl, r.forall₂_rows s hl⟩
  · intro k bytes hk hs hbefore
    -- Cut the source at its first line that ends the reading; lines are numbered from 1.
    rw [List.getElem?_map, Option.map_eq_some_iff] at hk
    obtain ⟨line, hline, rfl⟩ := hk
    obtain ⟨e, he, hinvalid, hfails⟩ := r.error?_judge_of_stops s hs (1 + k)
    obtain ⟨hlt, hget⟩ := List.getElem?_eq_some_iff.mp hline
    have split : Source.lines source =
        (Source.lines source).take k ++ line :: (Source.lines source).drop (k + 1) := by
      rw [← hget, List.getElem_cons_drop, List.take_append_drop]
    have size : ((Source.lines source).take k).length = k := by
      rw [List.length_take]; omega
    have before : ∀ l ∈ (Source.lines source).take k, ¬ r.Stops s l.content := by
      intro l hl
      obtain ⟨j, hj, hjl⟩ := List.mem_take_iff_getElem.mp hl
      have hjk : j < k := by omega
      refine hbefore j hjk l.content ?_
      rw [List.getElem?_map, List.getElem?_eq_getElem (by omega), hjl]
      rfl
    have result : (r.readSourceBy s source).result = .error e := by
      rw [readSourceBy, split]
      exact r.result_readLines_of_error s before (by rw [size]; exact he)
    refine ⟨e, result, ?_, ?_⟩
    · intro hi
      rw [hinvalid hi, Nat.add_comm 1 k]
      exact ⟨rfl, rfl⟩
    · intro text cause hf
      rw [hfails text cause hf, Nat.add_comm 1 k]
      exact ⟨rfl, rfl, rfl⟩

end Reader

end FixedColumns
