import FixedColumns.Proofs.Source.Lines

/-!
# `FixedColumns.Proofs.Source.Endings` — lines with their endings written out

Cutting a source into lines and putting lines together are inverse the other way round too, for
lines that end where they say: `RawLine.Closed` says so of a line, and `Source.lines_ofLines_append`
is that such lines, put together, are the first lines of the source, whichever of the two endings
each of them has. So a list of texts is the contents of the source that has an ending after each of
them (`Source.contents_ended`), and of the one that has an ending between every two
(`Source.contents_intercalate`), if the last text is not empty.
-/

namespace FixedColumns

/-! ## Lines that end where they say -/

/-- The line has an ending, and all bytes before it are the line's content: none of them is a line
    feed, and before a bare line feed stands no carriage return. -/
structure RawLine.Closed (l : RawLine) : Prop where
  ended : l.ending ≠ .endOfSource
  noFeed : lineFeed ∉ l.content
  noReturn : l.ending = .feed → l.content.getLast? ≠ some carriageReturn

theorem RawLine.Closed.tail {b : UInt8} {bs : List UInt8} {ending : Ending}
    (h : RawLine.Closed ⟨b :: bs, ending⟩) : RawLine.Closed ⟨bs, ending⟩ where
  ended := h.ended
  noFeed := fun hm => h.noFeed (List.mem_cons_of_mem b hm)
  noReturn := by
    intro feed last
    cases bs with
    | nil => exact nomatch last
    | cons c cs => exact h.noReturn feed (by rwa [List.getLast?_cons_cons])

/-- A byte that belongs to a line's content goes before the rest of it. -/
theorem RawLine.Closed.cons_tail {b : UInt8} {bs : List UInt8} {ending : Ending}
    (h : RawLine.Closed ⟨b :: bs, ending⟩) :
    (⟨bs, ending⟩ : RawLine).cons b = ⟨b :: bs, ending⟩ := by
  apply if_neg
  rintro ⟨rfl, same⟩
  obtain ⟨rfl, rfl⟩ := RawLine.mk.inj same
  exact h.noReturn rfl rfl

namespace Source

/-- A closed line is the first line of the source that begins with it. -/
theorem lines_bytes_append {l : RawLine} (h : l.Closed) (rest : List UInt8) :
    lines (l.bytes ++ rest) = l :: lines rest := by
  obtain ⟨content, ending⟩ := l
  induction content with
  | nil =>
      cases ending with
      | feed => rfl
      | returnFeed => rfl
      | endOfSource => exact absurd rfl h.ended
  | cons b bs ih =>
      have other : b ≠ lineFeed := fun hb => h.noFeed (by simp [hb])
      have tail := ih h.tail
      show lines (b :: ((⟨bs, ending⟩ : RawLine).bytes ++ rest)) = _
      rw [lines, if_neg other, tail]
      show (⟨bs, ending⟩ : RawLine).cons b :: lines rest = _
      rw [h.cons_tail]

/-- **Closed lines put together** are the first lines of the source that they make up. -/
theorem lines_ofLines_append {ls : List RawLine} (h : ∀ l ∈ ls, l.Closed) (rest : List UInt8) :
    lines (ofLines ls ++ rest) = ls ++ lines rest := by
  induction ls with
  | nil => rfl
  | cons l ls ih =>
      have more : ∀ l ∈ ls, l.Closed := by
        intro l hl
        exact h l (List.mem_cons_of_mem _ hl)
      rw [ofLines_cons, List.append_assoc, lines_bytes_append (h l List.mem_cons_self), ih more,
        List.cons_append]

/-- Bytes without a line feed are one line, if there are any. -/
theorem contents_of_not_mem {text : List UInt8} (h : lineFeed ∉ text) (hne : text ≠ []) :
    contents text = [text] := by
  have whole : ∀ piece ∈ [text], lineFeed ∉ piece := by simpa using h
  have one : text.splitOn lineFeed = [text] := by
    simpa using List.splitOn_intercalate lineFeed whole (by simp)
  unfold contents
  simp [one, hne]

/-! ## Texts with one ending -/

/-- A text that both endings leave as it is: it has no line feed, and no carriage return at its
    end. -/
structure Plain (text : List UInt8) : Prop where
  noFeed : lineFeed ∉ text
  noReturn : text.getLast? ≠ some carriageReturn

/-- The source that has the ending after each of the texts. -/
def ended (ending : Ending) (texts : List (List UInt8)) : List UInt8 :=
  texts.flatMap (· ++ ending.bytes)

/-- The lines of texts with the ending after each of them. -/
def closedLines (ending : Ending) (texts : List (List UInt8)) : List RawLine :=
  texts.map fun text => ⟨text, ending⟩

theorem ofLines_closedLines (ending : Ending) (texts : List (List UInt8)) :
    ofLines (closedLines ending texts) = ended ending texts := by
  unfold ofLines closedLines ended
  rw [List.flatMap_map]
  rfl

/-- Texts with an ending between every two: the last one has none. -/
theorem intercalate_concat (ending : Ending) (front : List (List UInt8)) (last : List UInt8) :
    ending.bytes.intercalate (front ++ [last]) = ended ending front ++ last := by
  induction front with
  | nil => simp [ended]
  | cons text front ih =>
      rw [List.cons_append, List.intercalate_cons_of_ne_nil (by simp), ih]
      simp [ended]

variable {ending : Ending} (he : ending ≠ .endOfSource) {texts : List (List UInt8)}
  (plain : ∀ text ∈ texts, Plain text)

include he plain

theorem closed_of_mem_closedLines : ∀ l ∈ closedLines ending texts, l.Closed := by
  intro l hl
  obtain ⟨text, ht, rfl⟩ := List.mem_map.mp hl
  exact ⟨he, (plain text ht).noFeed, fun _ => (plain text ht).noReturn⟩

/-- Texts with an ending after each come before the contents of what follows. -/
theorem contents_ended_append (rest : List UInt8) :
    contents (ended ending texts ++ rest) = texts ++ contents rest := by
  have own : (closedLines ending texts).map RawLine.content = texts := by
    unfold closedLines
    rw [List.map_map]
    exact List.map_id texts
  rw [← ofLines_closedLines, ← map_content_lines,
    lines_ofLines_append (closed_of_mem_closedLines he plain), List.map_append, own,
    map_content_lines]

/-- **Texts with an ending after each** are the contents of the lines that they make up. -/
theorem contents_ended : contents (ended ending texts) = texts := by
  have alone := contents_ended_append he plain []
  rw [List.append_nil] at alone
  rw [alone]
  exact List.append_nil texts

/-- **Texts with an ending between every two** are so too, if the last one is not empty. -/
theorem contents_intercalate (last : ∀ text, texts.getLast? = some text → text ≠ []) :
    contents (ending.bytes.intercalate texts) = texts := by
  rcases List.eq_nil_or_concat texts with rfl | ⟨front, text, rfl⟩
  · rfl
  · rw [List.concat_eq_append] at last plain ⊢
    have hne : text ≠ [] := last text List.getLast?_concat
    have before : ∀ text ∈ front, Plain text := by
      intro text ht
      exact plain text (List.mem_append_left _ ht)
    have own : Plain text := plain text (List.mem_append_right _ List.mem_cons_self)
    rw [intercalate_concat, contents_ended_append he before, contents_of_not_mem own.noFeed hne]

end Source

end FixedColumns
