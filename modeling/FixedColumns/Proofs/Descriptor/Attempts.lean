import FixedColumns.Proofs.Descriptor.Stops
import FixedColumns.Proofs.Text.Columns

/-!
# `FixedColumns.Proofs.Descriptor.Attempts` — the furthest attempt at a part of a descriptor

A matcher goes over a text part by part. An optional part that is not there is passed over, and if
only some of it is there then the matcher goes back to where the part would begin; but it remembers
the furthest place at which it tried a part in vain. The pattern of descriptors takes up the texts of
the grammar (`Pattern.attempt_eq_some_iff`), and for another text that place is the one that scanning
reports (`Pattern.attempt_of_stops`), and so the length of the longest viable beginning of the text,
in characters and in bytes: `Descriptor.parse_stop_longest`.
-/

namespace FixedColumns

/-! ## Matching with a memory of the furthest attempt -/

/-- A pattern of texts. -/
inductive Pattern where
  /-- a part with a name, by the number of characters that it takes at the start of a text, if it is
      there -/
  | part (length? : List Char → Option Nat)
  /-- a character without a name -/
  | mark (m : Char)
  | sequence (first second : Pattern)
  | optional (inner : Pattern)

/-- What matching comes to: the place after the match and the text from there on, if there is a
    match, and the furthest place at which a part was tried in vain. -/
structure Attempt where
  outcome : Option (Nat × List Char)
  furthest : Nat

namespace Pattern

/-- Matches a pattern at a place, from which on the text is `cs`. -/
def attempt : Pattern → (furthest place : Nat) → (cs : List Char) → Attempt
  | .part length?, furthest, place, cs =>
    match length? cs with
    | some n => ⟨some (place + n, cs.drop n), furthest⟩
    | none => ⟨none, max furthest place⟩
  | .mark m, furthest, place, cs =>
    if cs.head? = some m then ⟨some (place + 1, cs.tail), furthest⟩ else ⟨none, furthest⟩
  | .sequence first second, furthest, place, cs =>
    match first.attempt furthest place cs with
    | ⟨some (next, rest), furthest'⟩ => second.attempt furthest' next rest
    | ⟨none, furthest'⟩ => ⟨none, furthest'⟩
  | .optional inner, furthest, place, cs =>
    match inner.attempt furthest place cs with
    | ⟨some (next, rest), furthest'⟩ => ⟨some (next, rest), furthest'⟩
    | ⟨none, furthest'⟩ => ⟨some (place, cs), furthest'⟩

section Combinators

variable {furthest furthest' place next : Nat} {cs rest : List Char} {first second inner : Pattern}

theorem attempt_part_some {length? : List Char → Option Nat} {n : Nat} (h : length? cs = some n) :
    (part length?).attempt furthest place cs = ⟨some (place + n, cs.drop n), furthest⟩ := by
  simp only [attempt, h]

/-- A part that is not there is tried in vain. -/
theorem attempt_part_none {length? : List Char → Option Nat} (h : length? cs = none) :
    (part length?).attempt furthest place cs = ⟨none, max furthest place⟩ := by
  simp only [attempt, h]

theorem attempt_mark_cons {m : Char} :
    (mark m).attempt furthest place (m :: cs) = ⟨some (place + 1, cs), furthest⟩ :=
  if_pos rfl

theorem attempt_mark_of_other {m : Char} (other : cs.head? ≠ some m) :
    (mark m).attempt furthest place cs = ⟨none, furthest⟩ :=
  if_neg other

theorem attempt_sequence_some (h : first.attempt furthest place cs = ⟨some (next, rest), furthest'⟩) :
    (sequence first second).attempt furthest place cs = second.attempt furthest' next rest := by
  simp only [attempt, h]

theorem attempt_sequence_none (h : first.attempt furthest place cs = ⟨none, furthest'⟩) :
    (sequence first second).attempt furthest place cs = ⟨none, furthest'⟩ := by
  simp only [attempt, h]

theorem attempt_optional_some (h : inner.attempt furthest place cs = ⟨some (next, rest), furthest'⟩) :
    (optional inner).attempt furthest place cs = ⟨some (next, rest), furthest'⟩ := by
  simp only [attempt, h]

/-- A part that may be absent is undone, but for the memory of what was tried. -/
theorem attempt_optional_none (h : inner.attempt furthest place cs = ⟨none, furthest'⟩) :
    (optional inner).attempt furthest place cs = ⟨some (place, cs), furthest'⟩ := by
  simp only [attempt, h]

end Combinators

/-! ## Parts of a descriptor -/

/-- One or more digits. -/
def digits : Pattern := .part fun cs =>
  if cs.takeWhile Char.isDigit = [] then none else some (cs.takeWhile Char.isDigit).length

/-- The letter of a kind. -/
def letter : Pattern := .part fun cs =>
  (cs.head?.bind Kind.ofLetter?).map fun _ => 1

/-- The end of the text. -/
def ending : Pattern := .part fun cs => if cs = [] then some 0 else none

/-- A point and decimals. -/
def decimals : Pattern := .sequence (.mark '.') digits

/-- A width, and decimals or none. -/
def size : Pattern := .sequence digits (.optional decimals)

/-- A descriptor, which takes up the whole text. -/
def descriptor : Pattern :=
  .sequence (.optional digits) (.sequence letter (.sequence (.optional size) ending))

section Parts

variable {furthest place : Nat} {ds rest : List Char}

theorem attempt_digits (run : Spelling.AllDigits ds) (nonempty : ds ≠ [])
    (stop : Spelling.NoDigitFirst rest) :
    digits.attempt furthest place (ds ++ rest) = ⟨some (place + ds.length, rest), furthest⟩ := by
  obtain ⟨taken, -⟩ := Spelling.takeWhile_digits_append run rest stop
  unfold digits
  rw [attempt_part_some (by rw [taken, if_neg nonempty]), List.drop_left]

theorem attempt_digits_of_noDigitFirst (stop : Spelling.NoDigitFirst rest) :
    digits.attempt furthest place rest = ⟨none, max furthest place⟩ := by
  have empty : Spelling.AllDigits [] := List.forall_mem_nil _
  obtain ⟨taken, -⟩ := Spelling.takeWhile_digits_append empty rest stop
  exact attempt_part_none (if_pos taken)

theorem attempt_letter {l : Char} {kind : Kind} (named : Kind.ofLetter? l = some kind) :
    letter.attempt furthest place (l :: rest) = ⟨some (place + 1, rest), furthest⟩ := by
  have present : ((l :: rest).head?.bind Kind.ofLetter?).map (fun _ => 1) = some 1 := by
    simp [named]
  exact attempt_part_some present

theorem attempt_letter_of_other
    (other : ∀ c, rest.head? = some c → Kind.ofLetter? c = none) :
    letter.attempt furthest place rest = ⟨none, max furthest place⟩ := by
  apply attempt_part_none
  cases rest with
  | nil => rfl
  | cons c cs => simp [other c rfl]

theorem attempt_ending : ending.attempt furthest place [] = ⟨some (place, []), furthest⟩ :=
  attempt_part_some (n := 0) (if_pos rfl)

/-- Within a text its end is tried in vain. -/
theorem attempt_ending_of_ne_nil (more : rest ≠ []) :
    ending.attempt furthest place rest = ⟨none, max furthest place⟩ :=
  attempt_part_none (if_neg more)

/-! ## The size -/

/-- Without a width there is no size. -/
theorem attempt_optional_size_of_noDigitFirst (stop : Spelling.NoDigitFirst rest) :
    (optional size).attempt furthest place rest = ⟨some (place, rest), max furthest place⟩ :=
  attempt_optional_none (attempt_sequence_none (attempt_digits_of_noDigitFirst stop))

section Width

variable (run : Spelling.AllDigits ds) (nonempty : ds ≠ [])

include run nonempty

/-- A width without a point after it is a size, and nothing is tried in vain. -/
theorem attempt_optional_size_of_other (stop : Spelling.NoDigitFirst rest)
    (other : rest.head? ≠ some '.') :
    (optional size).attempt furthest place (ds ++ rest) =
      ⟨some (place + ds.length, rest), furthest⟩ := by
  apply attempt_optional_some
  rw [size, attempt_sequence_some (attempt_digits run nonempty stop)]
  exact attempt_optional_none (attempt_sequence_none (attempt_mark_of_other other))

/-- If no digits follow the point then the matcher goes back to it, and remembers where the digits
    would begin. -/
theorem attempt_optional_size_of_undone (stop : Spelling.NoDigitFirst rest) :
    (optional size).attempt furthest place (ds ++ '.' :: rest) =
      ⟨some (place + ds.length, '.' :: rest), max furthest (place + ds.length + 1)⟩ := by
  have point : Spelling.NoDigitFirst ('.' :: rest) := by simp [Spelling.NoDigitFirst]
  apply attempt_optional_some
  rw [size, attempt_sequence_some (attempt_digits run nonempty point)]
  apply attempt_optional_none
  rw [decimals, attempt_sequence_some attempt_mark_cons]
  exact attempt_digits_of_noDigitFirst stop

/-- A width, a point and digits are a size. -/
theorem attempt_optional_size_of_decimals {fs : List Char} (fraction : Spelling.AllDigits fs)
    (present : fs ≠ []) (stop : Spelling.NoDigitFirst rest) :
    (optional size).attempt furthest place (ds ++ '.' :: (fs ++ rest)) =
      ⟨some (place + ds.length + 1 + fs.length, rest), furthest⟩ := by
  have point : Spelling.NoDigitFirst ('.' :: (fs ++ rest)) := by simp [Spelling.NoDigitFirst]
  apply attempt_optional_some
  rw [size, attempt_sequence_some (attempt_digits run nonempty point)]
  apply attempt_optional_some
  rw [decimals, attempt_sequence_some attempt_mark_cons]
  exact attempt_digits fraction present stop

end Width

end Parts

/-! ## Descriptors -/

section Descriptors

variable {count rest : List Char} (countDigits : Spelling.AllDigits count)

include countDigits

/-- The count is passed over, whether there is one or not. -/
theorem attempt_optional_count (stop : Spelling.NoDigitFirst rest) :
    (optional digits).attempt 0 0 (count ++ rest) = ⟨some (count.length, rest), 0⟩ := by
  by_cases absent : count = []
  · subst absent
    exact attempt_optional_none (attempt_digits_of_noDigitFirst stop)
  · rw [attempt_optional_some (attempt_digits countDigits absent stop), Nat.zero_add]

/-- After the count and the letter, the size is tried and then the end of the text. -/
theorem attempt_descriptor {l : Char} {kind : Kind} (named : Kind.ofLetter? l = some kind) :
    descriptor.attempt 0 0 (count ++ l :: rest) =
      (sequence (.optional size) ending).attempt 0 (count.length + 1) rest := by
  have noDigit : Spelling.NoDigitFirst (l :: rest) := by
    simpa [Spelling.NoDigitFirst] using Kind.isDigit_eq_false_of_ofLetter? named
  rw [descriptor, attempt_sequence_some (attempt_optional_count countDigits noDigit),
    attempt_sequence_some (attempt_letter named)]

end Descriptors

/-- The pattern takes up the text of a spelling of the grammar. -/
theorem attempt_render {s : Spelling} (h : s.WellFormed) :
    (descriptor.attempt 0 0 s.render).outcome = some (s.render.length, []) := by
  obtain ⟨count, l, kind, width, decimals⟩ := s
  obtain ⟨countDigits, named, widthDigits, rest⟩ := h
  have finished := Spelling.noDigitFirst_nil
  unfold Spelling.render
  rw [attempt_descriptor countDigits named]
  cases decimals with
  | none =>
      rw [Spelling.renderDecimals]
      by_cases absent : width = []
      · rw [absent, List.nil_append,
          attempt_sequence_some (attempt_optional_size_of_noDigitFirst finished), attempt_ending]
        simp
      · rw [attempt_sequence_some
            (attempt_optional_size_of_other widthDigits absent finished (by simp)), attempt_ending]
        simp
        omega
  | some ds =>
      obtain ⟨widthNonempty, nonempty, digits⟩ := rest ds rfl
      rw [Spelling.renderDecimals, ← List.append_nil ds, attempt_sequence_some
        (attempt_optional_size_of_decimals widthDigits widthNonempty digits nonempty finished),
        attempt_ending]
      simp
      omega

/-- **The furthest attempt in vain is made where scanning stops.** -/
theorem attempt_of_stops {before after : List Char} (h : Spelling.Stops before after) :
    descriptor.attempt 0 0 (before ++ after) = ⟨none, before.length⟩ := by
  cases h with
  | letter countDigits stop other =>
      rw [descriptor, attempt_sequence_some (attempt_optional_count countDigits stop),
        attempt_sequence_none (attempt_letter_of_other other), Nat.zero_max]
  | @width count width cs l c kind countDigits named widthDigits stop other =>
      have noDigit : Spelling.NoDigitFirst (c :: cs) := by
        simpa [Spelling.NoDigitFirst] using stop
      rw [List.append_assoc, List.cons_append, attempt_descriptor countDigits named]
      by_cases absent : width = []
      · rw [absent, List.nil_append,
          attempt_sequence_some (attempt_optional_size_of_noDigitFirst noDigit),
          attempt_ending_of_ne_nil (List.cons_ne_nil c cs)]
        simp
      · have noPoint : (c :: cs).head? ≠ some '.' := by
          intro point
          exact other ⟨Option.some.inj point, absent⟩
        rw [attempt_sequence_some
            (attempt_optional_size_of_other widthDigits absent noDigit noPoint),
          attempt_ending_of_ne_nil (List.cons_ne_nil c cs)]
        simp
        omega
  | @decimals count width ds _ l kind countDigits named widthDigits nonempty digits stop other =>
      have text : count ++ l :: (width ++ '.' :: ds) ++ after =
          count ++ l :: (width ++ '.' :: (ds ++ after)) := by simp
      rw [text, attempt_descriptor countDigits named]
      by_cases absent : ds = []
      · -- The end is tried at the point, but the digits were tried after it.
        rw [absent, List.nil_append, attempt_sequence_some
            (attempt_optional_size_of_undone widthDigits nonempty stop),
          attempt_ending_of_ne_nil (List.cons_ne_nil '.' after)]
        simp
        omega
      · rw [attempt_sequence_some
            (attempt_optional_size_of_decimals widthDigits nonempty digits absent stop),
          attempt_ending_of_ne_nil (other.resolve_left absent)]
        simp
        omega

/-- The pattern takes up a text exactly if the text is one of the grammar. -/
theorem attempt_eq_some_iff {cs : List Char} :
    (descriptor.attempt 0 0 cs).outcome = some (cs.length, []) ↔ ∃ p : Parts, p.text = cs := by
  constructor
  · intro h
    cases hs : Spelling.scan cs with
    | ok s => exact Parts.exists_text_eq hs
    | error stop =>
        obtain ⟨before, after, rfl, stops⟩ := Spelling.exists_stops_of_scan hs
        rw [attempt_of_stops stops] at h
        cases h
  · rintro ⟨p, rfl⟩
    rw [← p.render_spelling]
    exact attempt_render p.wellFormed_spelling

end Pattern

/-! ## Texts outside the grammar -/

/-- The beginning of a descriptor has characters of one byte only. -/
theorem Viable.ascii {cs : List Char} (h : Viable cs) : ∀ c ∈ cs, c.toNat < 128 := by
  obtain ⟨p, rest, text⟩ := h
  have letters : ∀ entry ∈ Kind.letters, entry.1.toNat < 128 := by decide
  intro c hc
  rcases Parts.mem_text (text ▸ List.mem_append_left rest hc) with digit | rfl | rfl
  · have upper : c.toNat ≤ 57 := (Char.isDigit_iff_toNat.mp digit).2
    omega
  · exact letters _ p.named
  · decide

namespace Descriptor

/-- **A text outside the grammar is reported with its longest viable beginning.** -/
theorem parse_stop_longest (text : String) (outside : ∀ p : Parts, p.text ≠ text.toList) :
    ∃ n ≤ text.length,
      parse text.toList = .error ⟨text, .unrecognized n⟩ ∧
      (DescriptorFault.unrecognized n).message =
        s!"expected [repeat]<I|F|E|A|X>[width[.decimals]], stopped at character {n}" ∧
      Viable (text.toList.take n) ∧
      (∀ cs, cs <+: text.toList → Viable cs → cs.length ≤ n) ∧
      (∀ c ∈ text.toList.take n, c.toNat < 128) ∧
      Text.byteLength (text.toList.take n) = n ∧
      Pattern.descriptor.attempt 0 0 text.toList = ⟨none, n⟩ := by
  cases hs : Spelling.scan text.toList with
  | ok s =>
      obtain ⟨p, hp⟩ := Parts.exists_text_eq hs
      exact absurd hp (outside p)
  | error stop =>
      obtain ⟨before, after, whole, stops⟩ := Spelling.exists_stops_of_scan hs
      have scanned := stops.scan_append
      have reported : parse text.toList = .error ⟨text, .unrecognized before.length⟩ := by
        rw [whole] at scanned
        unfold parse
        rw [scanned]
        show Except.error (⟨String.ofList text.toList, _⟩ : DescriptorError) = _
        rw [String.ofList_toList]
      have taken : text.toList.take before.length = before := by rw [← whole, List.take_left]
      have ascii := stops.viable.ascii
      refine ⟨before.length, ?_, reported, rfl, ?_, ?_, ?_, ?_, ?_⟩
      · rw [← String.length_toList, ← whole, List.length_append]
        exact Nat.le_add_right ..
      · rw [taken]
        exact stops.viable
      · intro cs begins viable
        exact stops.length_le (whole ▸ begins) viable
      · rw [taken]
        exact ascii
      · rw [taken]
        exact Text.byteLength_eq_length_iff_lt.mpr ascii
      · rw [← whole]
        exact Pattern.attempt_of_stops stops

/-- The point after the width is undone, but the digits after it have been tried. -/
theorem parse_stop_longest_undone_decimals :
    (∀ p : Parts, p.text ≠ "2F8.x".toList) ∧
      parse "2F8.x".toList = .error ⟨"2F8.x", .unrecognized 4⟩ ∧
      Viable "2F8.".toList ∧ ¬ Viable "2F8.x".toList ∧
      Pattern.descriptor.attempt 0 0 "2F8.x".toList = ⟨none, 4⟩ := by
  have outside : ∀ p : Parts, p.text ≠ "2F8.x".toList := by
    intro p text
    have scanned := p.scan_text
    rw [text] at scanned
    cases scanned
  obtain ⟨n, -, reported, -, viable, longest, -, -, attempt⟩ := parse_stop_longest "2F8.x" outside
  obtain rfl : n = 4 := by
    rw [show parse "2F8.x".toList = .error ⟨"2F8.x", .unrecognized 4⟩ by rfl] at reported
    cases reported
    rfl
  refine ⟨outside, reported, viable, ?_, attempt⟩
  intro whole
  exact absurd (longest _ (List.prefix_refl _) whole) (by decide)

end Descriptor

end FixedColumns
