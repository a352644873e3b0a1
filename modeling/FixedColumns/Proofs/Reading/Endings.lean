import FixedColumns.Proofs.Reading.Composition
import FixedColumns.Proofs.Reader.Formats
import FixedColumns.Proofs.Source.Endings
import Mathlib.Data.List.Forall2

/-!
# `FixedColumns.Proofs.Reading.Endings` — line endings make no difference

The verdict on a line depends on its content only, so a run over lines with the same contents comes
to the same, and takes as many of them (`Reader.sameReading_of_contents_eq`). Texts with a line feed
after each, with a carriage return and a line feed after each, and without an ending after the last
are the contents of the source that they make up; so reading cannot tell one of these sources from
another, which is `Reader.readSourceBy_endings`.
-/

namespace FixedColumns

namespace Reader

variable (r : Reader) (s : Settings)

/-- Two sources come to the same result, a table or an error, with the same records; and as many
    lines are taken from the one as from the other. -/
structure SameReading (source other : List UInt8) : Prop where
  result : (r.readSourceBy s source).result = (r.readSourceBy s other).result
  log : (r.readSourceBy s source).log = (r.readSourceBy s other).log
  taken : ∃ k, (r.readSourceBy s source).rest = Source.dropLine^[k] source ∧
    (r.readSourceBy s other).rest = Source.dropLine^[k] other

/-- The verdict on a line depends on its content only. -/
theorem judge_congr {line other : RawLine} (h : line.content = other.content) :
    r.judge s line = r.judge s other := by
  unfold judge RawLine.text?
  rw [h]

/-- A run over lines with the same contents comes to the same, and takes as many of them. -/
theorem readLines_congr {lines others : List RawLine}
    (h : List.Forall₂ (fun line other => line.content = other.content) lines others)
    (number : Nat) :
    (r.readLines s number lines).result = (r.readLines s number others).result ∧
    (r.readLines s number lines).log = (r.readLines s number others).log ∧
    ∃ k, (r.readLines s number lines).rest = Source.ofLines (lines.drop k) ∧
      (r.readLines s number others).rest = Source.ofLines (others.drop k) := by
  induction h generalizing number with
  | nil => exact ⟨rfl, rfl, 0, rfl, rfl⟩
  | @cons line other lines others same _ ih =>
      have verdict := r.judge_congr s same
      cases hj : (r.judge s line).ends with
      | true =>
          -- The run ends here, and the one line is taken from both.
          obtain ⟨e, he⟩ := Verdict.exists_error?_of_ends hj number
          rw [r.readLines_cons_error s he, r.readLines_cons_error s (verdict ▸ he)]
          exact ⟨rfl, rfl, 1, rfl, rfl⟩
      | false =>
          obtain ⟨result, log, k, rest, rest'⟩ := ih (number + 1)
          rw [r.readLines_cons s hj, r.readLines_cons s (verdict ▸ hj), ← verdict]
          refine ⟨?_, ?_, k + 1, rest, rest'⟩
          · rw [Reading.result_prepend, Reading.result_prepend, result]
          · show _ ++ _ = _ ++ _
            rw [log]

/-- **Sources with the same contents** are read alike, whatever the endings of their lines. -/
theorem sameReading_of_contents_eq {source other : List UInt8}
    (h : Source.contents source = Source.contents other) : r.SameReading s source other := by
  have same : List.Forall₂ (fun line other : RawLine => line.content = other.content)
      (Source.lines source) (Source.lines other) := by
    rw [← Source.map_content_lines, ← Source.map_content_lines, ← List.forall₂_eq_eq_eq,
      List.forall₂_map_left_iff, List.forall₂_map_right_iff] at h
    exact h
  obtain ⟨result, log, k, rest, rest'⟩ := r.readLines_congr s same 1
  rw [Source.ofLines_drop_lines] at rest rest'
  exact ⟨result, log, k, rest, rest'⟩

/-- **Line endings make no difference.** -/
theorem readSourceBy_endings (r : Reader) (s : Settings) {texts : List (List UInt8)}
    (plain : ∀ text ∈ texts, lineFeed ∉ text ∧ text.getLast? ≠ some carriageReturn) :
    r.SameReading s (texts.flatMap (· ++ [lineFeed]))
      (texts.flatMap (· ++ [carriageReturn, lineFeed])) ∧
    ((∀ text, texts.getLast? = some text → text ≠ []) →
      r.SameReading s ([lineFeed].intercalate texts) (texts.flatMap (· ++ [lineFeed])) ∧
      r.SameReading s ([carriageReturn, lineFeed].intercalate texts)
        (texts.flatMap (· ++ [carriageReturn, lineFeed]))) := by
  have each : ∀ text ∈ texts, Source.Plain text := by
    intro text ht
    obtain ⟨noFeed, noReturn⟩ := plain text ht
    exact ⟨noFeed, noReturn⟩
  -- All four sources have the texts for their contents.
  have feed : Source.contents (Source.ended .feed texts) = texts :=
    Source.contents_ended (by decide) each
  have returnFeed : Source.contents (Source.ended .returnFeed texts) = texts :=
    Source.contents_ended (by decide) each
  refine ⟨r.sameReading_of_contents_eq s (feed.trans returnFeed.symm), fun last => ⟨?_, ?_⟩⟩
  · have unended : Source.contents (Ending.feed.bytes.intercalate texts) = texts :=
      Source.contents_intercalate (by decide) each last
    exact r.sameReading_of_contents_eq s (unended.trans feed.symm)
  · have unended : Source.contents (Ending.returnFeed.bytes.intercalate texts) = texts :=
      Source.contents_intercalate (by decide) each last
    exact r.sameReading_of_contents_eq s (unended.trans returnFeed.symm)

/-- A text that keeps its blank, an empty text, and one with a carriage return that is not at its
    end. -/
theorem readSourceBy_endings_untrimmed :
    ∃ r, ofFormat "A2" {} = .ok r ∧
      r.SameReading { trimText := false, dropBlank := false }
        [65, 32, 10, 10, 13, 66, 10] [65, 32, 13, 10, 13, 10, 13, 66, 13, 10] ∧
      r.SameReading { trimText := false, dropBlank := false }
        [65, 32, 10, 10, 13, 66] [65, 32, 10, 10, 13, 66, 10] ∧
      r.SameReading { trimText := false, dropBlank := false }
        [65, 32, 13, 10, 13, 10, 13, 66] [65, 32, 13, 10, 13, 10, 13, 66, 13, 10] ∧
      (r.readSourceBy { trimText := false, dropBlank := false }
        [65, 32, 13, 10, 13, 10, 13, 66]).result =
          .ok [[.text "A "], [.text ""], [.text "\rB"]] := by
  let r : Reader := ⟨"A2", {}, [⟨1, .field .text, 2, none⟩], _, rfl, rfl⟩
  obtain ⟨ended, unended⟩ := @readSourceBy_endings r { trimText := false, dropBlank := false }
    [[65, 32], [], [13, 66]] (by decide)
  obtain ⟨feed, returnFeed⟩ := unended (by decide)
  exact ⟨r, rfl, ended, feed, returnFeed, rfl⟩

end Reader

end FixedColumns
