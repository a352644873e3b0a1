/-!
# `FixedColumns.Source` — the lines of a byte source

A source is a sequence of bytes. Its lines end at line feeds; one carriage return right before a
line feed belongs to the line's ending and not to its content. Bytes after the last line feed make a
line of their own, which has no ending and keeps a carriage return at its end. The lemmas say that
the lines put together again are the source, and that the lines of two sources are those of the
joined source if the first one ends with a line feed.
-/

namespace FixedColumns

/-- The byte that ends a line. -/
def lineFeed : UInt8 := 10

/-- The byte that may stand before a line feed as part of a line's ending. -/
def carriageReturn : UInt8 := 13

/-- How a line ends: at a line feed, at a carriage return and a line feed, or at the source's end. -/
inductive Ending where
  | feed
  | returnFeed
  | endOfSource
deriving DecidableEq, Repr

/-- The bytes of an ending. -/
def Ending.bytes : Ending → List UInt8
  | .feed => [lineFeed]
  | .returnFeed => [carriageReturn, lineFeed]
  | .endOfSource => []

/-- A line of a source. -/
structure RawLine where
  content : List UInt8
  ending : Ending
deriving DecidableEq, Repr

namespace RawLine

/-- The bytes of a line, with its ending. -/
def bytes (l : RawLine) : List UInt8 := l.content ++ l.ending.bytes

/-- The text of a line's content, if its bytes are valid UTF-8. -/
def text? (l : RawLine) : Option String := String.fromUTF8? l.content.toByteArray

/-- The line with a byte put before it. A carriage return before a bare line feed becomes part of
    the ending. -/
def cons (b : UInt8) (l : RawLine) : RawLine :=
  if b = carriageReturn ∧ l = ⟨[], .feed⟩ then ⟨[], .returnFeed⟩ else ⟨b :: l.content, l.ending⟩

@[simp] theorem bytes_cons (b : UInt8) (l : RawLine) : (l.cons b).bytes = b :: l.bytes := by
  simp only [cons]
  split
  · rename_i h
    simp [h.1, h.2, bytes, Ending.bytes]
  · simp [bytes]

end RawLine

namespace Source

/-- The bytes of a sequence of lines. -/
def ofLines (ls : List RawLine) : List UInt8 := ls.flatMap RawLine.bytes

/-- The lines with a byte that is no line feed put before the first of them. -/
def extend (b : UInt8) : List RawLine → List RawLine
  | [] => [⟨[b], .endOfSource⟩]
  | l :: ls => l.cons b :: ls

/-- The lines of a source. -/
def lines : List UInt8 → List RawLine
  | [] => []
  | b :: bs => if b = lineFeed then ⟨[], .feed⟩ :: lines bs else extend b (lines bs)

/-- What is left of a source after its first line. -/
def dropLine : List UInt8 → List UInt8
  | [] => []
  | b :: bs => if b = lineFeed then bs else dropLine bs

@[simp] theorem ofLines_nil : ofLines [] = [] := rfl

@[simp] theorem ofLines_cons (l : RawLine) (ls : List RawLine) :
    ofLines (l :: ls) = l.bytes ++ ofLines ls := by simp [ofLines]

theorem ofLines_extend (b : UInt8) (ls : List RawLine) :
    ofLines (extend b ls) = b :: ofLines ls := by
  cases ls with
  | nil => rfl
  | cons l ls => simp [extend]

/-- The lines of a source put together again are the source. -/
theorem ofLines_lines (source : List UInt8) : ofLines (lines source) = source := by
  induction source with
  | nil => rfl
  | cons b bs ih =>
    by_cases h : b = lineFeed
    · simp [lines, h, RawLine.bytes, Ending.bytes, ih]
    · simp [lines, h, ofLines_extend, ih]

theorem extend_append (b : UInt8) {ls : List RawLine} (h : ls ≠ []) (more : List RawLine) :
    extend b (ls ++ more) = extend b ls ++ more := by
  cases ls with
  | nil => exact absurd rfl h
  | cons l ls => rfl

theorem lines_ne_nil {source : List UInt8} (h : source ≠ []) : lines source ≠ [] := by
  cases source with
  | nil => exact absurd rfl h
  | cons b bs =>
    by_cases hb : b = lineFeed
    · simp [lines, hb]
    · cases hl : lines bs <;> simp [lines, hb, hl, extend]

/-- A source that is empty or ends with a line feed. -/
def Complete (source : List UInt8) : Prop := ∀ b, source.getLast? = some b → b = lineFeed

theorem Complete.tail {b : UInt8} {bs : List UInt8} (h : Complete (b :: bs)) : Complete bs := by
  intro c hc
  cases bs with
  | nil => simp at hc
  | cons d ds => exact h c (by simpa [List.getLast?_cons_cons] using hc)

/-- If the first of two sources is complete then the lines of both together are the lines of the
    first and then those of the second. -/
theorem lines_append {first : List UInt8} (h : Complete first) (second : List UInt8) :
    lines (first ++ second) = lines first ++ lines second := by
  induction first with
  | nil => rfl
  | cons b bs ih =>
    by_cases hb : b = lineFeed
    · simp [lines, hb, ih h.tail]
    · have rest : bs ≠ [] := fun hbs => hb (h b (by simp [hbs]))
      simp [lines, hb, ih h.tail, extend_append b (lines_ne_nil rest)]

end Source

end FixedColumns
