import FixedColumns.Proofs.Descriptor.Grammar
import FixedColumns.Proofs.Number.Digits
import FixedColumns.Proofs.Traversal

/-!
# `FixedColumns.Proofs.Number.Numerals` — the grammar of real numbers

A real number is an optional sign and then either a `Numeral`'s digits, point and exponent, or one of
the words for what is not finite. Every part of a numeral carries that it is of the grammar, so that
its text is, and reading is compared with the grammar part by part: each reads the texts of its part
(`exponent?_text`, `decimal?_text`, `exists_parse?_of_spellsWord`) and no others
(`exists_exponent`, `exists_numeral`, `spells_of_parse?`). `readReal_accepts` puts them together.
-/

namespace FixedColumns

/-! ## Letters in lower case -/

/-- The letter is in lower case. -/
def Lower (l : Char) : Prop := l.toLower = l ∧ l.toUpper.toLower = l

instance (l : Char) : Decidable (Lower l) := inferInstanceAs (Decidable (_ ∧ _))

theorem toLower_eq_iff {c l : Char} (lower : Lower l) : c.toLower = l ↔ c = l ∨ c = l.toUpper := by
  constructor
  · exact eq_or_eq_toUpper_of_toLower_eq
  · rintro (rfl | rfl)
    · exact lower.1
    · exact lower.2

/-! ## Words -/

/-- The words for what is not a finite number. -/
def specialWords : List String := ["inf", "infinity", "nan"]

/-- The text is the word, each of its letters in either case. -/
def SpellsWord (word : String) (cs : List Char) : Prop :=
  List.Forall₂ (fun c l => c = l ∨ c = l.toUpper) cs word.toList

theorem lower_of_mem_specialWords :
    ∀ word ∈ specialWords, ∀ l ∈ word.toList, Lower l := by
  have all : specialWords.all (·.toList.all fun l => decide (Lower l)) = true := by decide
  simpa only [List.all_eq_true, decide_eq_true_eq] using all

theorem Literal.spells_iff {word : String} (lower : ∀ l ∈ word.toList, Lower l) (cs : List Char) :
    Literal.spells word cs = true ↔ SpellsWord word cs := by
  unfold Literal.spells SpellsWord
  rw [beq_iff_eq]
  generalize word.toList = letters at lower
  induction letters generalizing cs with
  | nil => simp
  | cons l letters ih =>
      cases cs with
      | nil => simp
      | cons c cs =>
          have rest := ih cs (fun m hm => lower m (List.mem_cons_of_mem l hm))
          rw [List.map_cons, List.cons.injEq, List.forall₂_cons, rest,
            toLower_eq_iff (lower l List.mem_cons_self)]

/-! ## Numerals -/

/-- The digits of a numeral, with a point or without. -/
inductive Mantissa where
  /-- digits -/
  | whole (ds : Digits)
  /-- digits, a point, and digits again if there are any -/
  | pointed (ds : Digits) (fraction : Option Digits)
  /-- a point and digits -/
  | pointFirst (ds : Digits)
deriving DecidableEq

namespace Mantissa

def text : Mantissa → List Char
  | whole ds => ds.chars
  | pointed ds fraction => ds.chars ++ '.' :: fraction.elim [] Digits.chars
  | pointFirst ds => '.' :: ds.chars

/-- The digits before the point. -/
def wholeDigits : Mantissa → List Char
  | whole ds => ds.chars
  | pointed ds _ => ds.chars
  | pointFirst _ => []

/-- The digits after the point. -/
def fractionDigits : Mantissa → List Char
  | whole _ => []
  | pointed _ fraction => fraction.elim [] Digits.chars
  | pointFirst ds => ds.chars

end Mantissa

/-- The exponent of a numeral: a letter, an optional sign and digits. -/
structure Exponent where
  letter : Char
  named : letter = 'e' ∨ letter = 'E'
  sign : Sign
  digits : Digits
deriving DecidableEq

namespace Exponent

def text (e : Exponent) : List Char := e.letter :: (e.sign.text ++ e.digits.chars)

def value (e : Exponent) : Int :=
  if e.sign.negative then -(e.digits.value : Int) else e.digits.value

end Exponent

/-- A decimal number as it is written. -/
structure Numeral where
  sign : Sign
  mantissa : Mantissa
  exponent : Option Exponent
deriving DecidableEq

namespace Numeral

/-- The text of an exponent, which may be left out. -/
def exponentText (e : Option Exponent) : List Char := e.elim [] Exponent.text

/-- The power of ten of an exponent, which may be left out. -/
def exponentValue (e : Option Exponent) : Int := e.elim 0 Exponent.value

/-- The text without the sign. -/
def body (n : Numeral) : List Char := n.mantissa.text ++ exponentText n.exponent

def text (n : Numeral) : List Char := n.sign.text ++ n.body

end Numeral

/-- The text is of the grammar of real numbers. -/
def SpellsReal (cs : List Char) : Prop :=
  (∃ n : Numeral, n.text = cs) ∨
    ∃ (s : Sign) (word : String) (letters : List Char),
      word ∈ specialWords ∧ SpellsWord word letters ∧ s.text ++ letters = cs

/-! ## Exponents -/

namespace Literal

/-- An exponent is read as its value. -/
theorem exponent?_text (e : Option Exponent) :
    exponent? (Numeral.exponentText e) = some (Numeral.exponentValue e) := by
  cases e with
  | none => rfl
  | some e =>
      have letter : e.letter.toLower = 'e' :=
        (toLower_eq_iff (l := 'e') (by decide)).mpr e.named
      have nonempty : e.digits.chars.isEmpty = false := by simp [e.digits.nonempty]
      have all : e.digits.chars.all Char.isDigit = true := List.all_eq_true.mpr e.digits.digits
      show exponent? (e.letter :: (e.sign.text ++ e.digits.chars)) = some e.value
      simp only [exponent?, letter, if_true,
        takeSign_text_append e.sign (unsigned_of_digits e.digits.digits), nonempty, all]
      rfl

/-- What is read as an exponent is one. -/
theorem exists_exponent {cs : List Char} {n : Int} (h : exponent? cs = some n) :
    ∃ e : Option Exponent, Numeral.exponentText e = cs := by
  cases cs with
  | nil => exact ⟨none, rfl⟩
  | cons c cs =>
      simp only [exponent?] at h
      split at h
      · rename_i letter
        split at h
        · cases h
        · rename_i digits
          obtain ⟨s, whole, _⟩ := exists_sign_append cs
          simp only [Bool.or_eq_true, Bool.not_eq_true', not_or, Bool.not_eq_true,
            Bool.not_eq_false, List.isEmpty_eq_false_iff, List.all_eq_true] at digits
          refine ⟨some ⟨c, eq_or_eq_toUpper_of_toLower_eq letter, s,
            ⟨(takeSign cs).2, digits.1, digits.2⟩⟩, ?_⟩
          exact congrArg (c :: ·) whole
      · cases h

/-- An exponent begins with its letter. -/
theorem head?_exponentText {e : Option Exponent} {c : Char}
    (h : (Numeral.exponentText e).head? = some c) : c = 'e' ∨ c = 'E' := by
  cases e with
  | none => exact nomatch h
  | some e => exact Option.some.inj h ▸ e.named

/-! ## Numerals -/

/-- The digits before a point, those after it and the exponent are what a numeral is taken into. -/
theorem takeFraction_text (m : Mantissa) (e : Option Exponent) :
    (m.text ++ Numeral.exponentText e).takeWhile Char.isDigit = m.wholeDigits ∧
      takeFraction ((m.text ++ Numeral.exponentText e).dropWhile Char.isDigit) =
        (m.fractionDigits, Numeral.exponentText e) := by
  have stop : ∀ c, (Numeral.exponentText e).head? = some c → c.isDigit = false := by
    intro c hc
    rcases head?_exponentText hc with rfl | rfl
    · rfl
    · rfl
  have noPoint : takeFraction (Numeral.exponentText e) = ([], Numeral.exponentText e) := by
    unfold takeFraction
    split
    · rename_i rest text
      have first := head?_exponentText (e := e) (c := '.') (by rw [text]; rfl)
      exact absurd first (by decide)
    · rfl
  have afterPoint (ds : List Char) (hd : Spelling.AllDigits ds) :
      takeFraction ('.' :: (ds ++ Numeral.exponentText e)) = (ds, Numeral.exponentText e) := by
    obtain ⟨run, rest⟩ := Spelling.takeWhile_digits_append hd _ stop
    simp only [takeFraction, run, rest]
  cases m with
  | whole ds =>
      obtain ⟨run, rest⟩ := Spelling.takeWhile_digits_append ds.digits _ stop
      refine ⟨run, ?_⟩
      show takeFraction ((ds.chars ++ _).dropWhile Char.isDigit) = _
      rw [rest, noPoint]
      rfl
  | pointed ds fraction =>
      have digits : Spelling.AllDigits (fraction.elim [] Digits.chars) := by
        cases fraction with
        | none => exact fun c hc => absurd hc List.not_mem_nil
        | some fs => exact fs.digits
      have split := Spelling.takeWhile_digits_append ds.digits
        ('.' :: (fraction.elim [] Digits.chars ++ Numeral.exponentText e)) (by simp)
      have text : (Mantissa.pointed ds fraction).text ++ Numeral.exponentText e =
          ds.chars ++ '.' :: (fraction.elim [] Digits.chars ++ Numeral.exponentText e) := by
        simp [Mantissa.text]
      rw [text]
      refine ⟨split.1, ?_⟩
      rw [split.2, afterPoint _ digits]
      rfl
  | pointFirst ds =>
      exact ⟨rfl, afterPoint ds.chars ds.digits⟩

/-- A numeral without its sign is read as a decimal number: its digits, on both sides of the point,
    at the power of ten that its exponent and the place of the point give. -/
theorem decimal?_text (m : Mantissa) (e : Option Exponent) :
    decimal? (m.text ++ Numeral.exponentText e) =
      some ⟨digitsValue (m.wholeDigits ++ m.fractionDigits),
        Numeral.exponentValue e - m.fractionDigits.length⟩ := by
  obtain ⟨whole, rest⟩ := takeFraction_text m e
  have present : (m.wholeDigits.isEmpty && m.fractionDigits.isEmpty) = false := by
    cases m with
    | whole ds => simp [Mantissa.wholeDigits, ds.nonempty]
    | pointed ds fraction => simp [Mantissa.wholeDigits, ds.nonempty]
    | pointFirst ds => simp [Mantissa.fractionDigits, ds.nonempty]
  simp only [decimal?, whole, rest, present, exponent?_text]
  rfl

/-- What follows the digits at the start of a numeral: a point with the digits after it, or neither. -/
theorem takeFraction_cases (cs : List Char) :
    (∃ rest, cs = '.' :: rest ∧
      takeFraction cs = (rest.takeWhile Char.isDigit, rest.dropWhile Char.isDigit)) ∨
    takeFraction cs = ([], cs) := by
  unfold takeFraction
  split
  · exact .inl ⟨_, rfl, rfl⟩
  · exact .inr rfl

/-- What is read as a decimal number has digits on one side of the point at least, and an exponent, or
    none, after them. -/
theorem exists_exponent_of_decimal? {cs : List Char} {d : Decimal} (h : decimal? cs = some d) :
    (cs.takeWhile Char.isDigit ≠ [] ∨ (takeFraction (cs.dropWhile Char.isDigit)).1 ≠ []) ∧
      ∃ e : Option Exponent,
        Numeral.exponentText e = (takeFraction (cs.dropWhile Char.isDigit)).2 := by
  simp only [decimal?] at h
  split at h
  · cases h
  · rename_i present
    obtain ⟨n, hn, -⟩ := Option.map_eq_some_iff.mp h
    refine ⟨?_, exists_exponent hn⟩
    rwa [Bool.and_eq_true, not_and_or, List.isEmpty_iff, List.isEmpty_iff] at present

/-- What is read as a decimal number is a numeral without its sign. -/
theorem exists_numeral {cs : List Char} {d : Decimal} (h : decimal? cs = some d) :
    ∃ (m : Mantissa) (e : Option Exponent), m.text ++ Numeral.exponentText e = cs := by
  have run : Spelling.AllDigits (cs.takeWhile Char.isDigit) := Spelling.allDigits_takeWhile cs
  have whole := List.takeWhile_append_dropWhile (p := Char.isDigit) (l := cs)
  obtain ⟨present, e, last⟩ := exists_exponent_of_decimal? h
  generalize cs.takeWhile Char.isDigit = ds at *
  generalize cs.dropWhile Char.isDigit = tail at *
  subst whole
  rcases takeFraction_cases tail with ⟨rest, rfl, taken⟩ | taken
  · rw [taken] at present last
    have fractionRun := Spelling.allDigits_takeWhile rest
    have fractionWhole := List.takeWhile_append_dropWhile (p := Char.isDigit) (l := rest)
    generalize rest.takeWhile Char.isDigit = fs at *
    rw [← fractionWhole, show rest.dropWhile Char.isDigit = _ from last.symm]
    -- The grammar tells apart which of the two runs of digits is there.
    by_cases hd : ds = []
    · have hf : fs ≠ [] := present.resolve_left fun nonempty => nonempty hd
      exact ⟨.pointFirst ⟨fs, hf, fractionRun⟩, e, by simp [Mantissa.text, hd]⟩
    · by_cases hf : fs = []
      · exact ⟨.pointed ⟨ds, hd, run⟩ none, e, by simp [Mantissa.text, hf]⟩
      · exact ⟨.pointed ⟨ds, hd, run⟩ (some ⟨fs, hf, fractionRun⟩), e, by simp [Mantissa.text]⟩
  · rw [taken] at present last
    have hd : ds ≠ [] := present.resolve_right fun nonempty => nonempty rfl
    exact ⟨.whole ⟨ds, hd, run⟩, e, congrArg (ds ++ ·) last⟩

/-! ## Literals -/

/-- A numeral begins with a digit or a point. -/
theorem head?_body {n : Numeral} {c : Char} (h : n.body.head? = some c) :
    c.isDigit = true ∨ c = '.' := by
  have first (ds : Digits) (rest : List Char) (h : (ds.chars ++ rest).head? = some c) :
      c.isDigit = true := by
    obtain ⟨d, ds', hds⟩ := List.exists_cons_of_ne_nil ds.nonempty
    rw [hds] at h
    exact ds.digits c (hds ▸ Option.some.inj h ▸ List.mem_cons_self)
  obtain ⟨sign, mantissa, exponent⟩ := n
  cases mantissa with
  | whole ds => exact .inl (first ds _ h)
  | pointed ds fraction =>
      left
      apply first ds ('.' :: (fraction.elim [] Digits.chars ++ Numeral.exponentText exponent))
      rw [← h]
      simp [Numeral.body, Mantissa.text]
  | pointFirst ds => exact .inr (Option.some.inj h).symm

/-- A text that begins with a digit or a point spells no word. -/
theorem spells_eq_false_of_digit_or_point {c : Char} (h : c.isDigit = true ∨ c = '.')
    (cs : List Char) : ∀ word ∈ specialWords, spells word (c :: cs) = false := by
  have other (letter : Char) (digit : letter.isDigit = false) (point : letter ≠ '.') :
      c.toLower ≠ letter := by
    rcases h with h | rfl
    · exact toLower_ne_of_isDigit h digit
    · exact point.symm
  simp only [specialWords, List.forall_mem_cons]
  refine ⟨?_, ?_, ?_, by simp⟩
  · exact spells_eq_false cs (show "inf".toList = 'i' :: _ from rfl) (other 'i' rfl (by decide))
  · exact spells_eq_false cs (show "infinity".toList = 'i' :: _ from rfl)
      (other 'i' rfl (by decide))
  · exact spells_eq_false cs (show "nan".toList = 'n' :: _ from rfl) (other 'n' rfl (by decide))

theorem body_ne_nil (n : Numeral) : n.body ≠ [] := by
  intro empty
  have read := decimal?_text n.mantissa n.exponent
  rw [show n.mantissa.text ++ _ = [] from empty] at read
  exact nomatch read

/-- A numeral without its sign is read as a decimal number. -/
theorem parse?_body (n : Numeral) : parse? n.body = (decimal? n.body).map .decimal := by
  obtain ⟨c, cs, hbody⟩ := List.exists_cons_of_ne_nil (body_ne_nil n)
  have first : c.isDigit = true ∨ c = '.' := head?_body (n := n) (by rw [hbody]; rfl)
  have word := spells_eq_false_of_digit_or_point first cs
  unfold parse?
  rw [hbody, word "inf" (by decide), word "infinity" (by decide), word "nan" (by decide)]
  rfl

/-- A word is read, whatever the case of its letters. -/
theorem exists_parse?_of_spellsWord {word : String} (hw : word ∈ specialWords) {cs : List Char}
    (h : SpellsWord word cs) : ∃ literal, parse? cs = some literal := by
  have spelled := (spells_iff (lower_of_mem_specialWords word hw) cs).mpr h
  unfold parse?
  simp only [specialWords, List.mem_cons, List.not_mem_nil, or_false] at hw
  rcases hw with rfl | rfl | rfl
  · exact ⟨.infinity, by simp [spelled]⟩
  · exact ⟨.infinity, by simp [spelled]⟩
  · split
    · exact ⟨.infinity, rfl⟩
    · exact ⟨.nan, rfl⟩

/-- What is read is a numeral without its sign, or a word. -/
theorem spells_of_parse? {cs : List Char} {literal : Literal} (h : parse? cs = some literal) :
    (∃ n : Numeral, n.body = cs) ∨ ∃ word ∈ specialWords, SpellsWord word cs := by
  have spelled {word : String} (hw : word ∈ specialWords) (h : spells word cs = true) :
      ∃ word ∈ specialWords, SpellsWord word cs :=
    ⟨word, hw, (spells_iff (lower_of_mem_specialWords word hw) cs).mp h⟩
  unfold parse? at h
  split at h
  · rename_i infinity
    right
    rcases Bool.or_eq_true_iff.mp infinity with h | h
    · exact spelled (by decide) h
    · exact spelled (by decide) h
  · split at h
    · rename_i nan
      exact .inr (spelled (by decide) nan)
    · obtain ⟨d, hd, -⟩ := Option.map_eq_some_iff.mp h
      obtain ⟨m, e, rfl⟩ := exists_numeral hd
      exact .inl ⟨⟨.absent, m, e⟩, rfl⟩

end Literal

/-! ## Signs before them -/

theorem Numeral.unsigned_body (n : Numeral) : Unsigned n.body := by
  intro c hc
  rcases Literal.head?_body hc with digit | rfl
  · exact ⟨ne_of_isDigit digit rfl, ne_of_isDigit digit rfl⟩
  · decide

theorem SpellsWord.unsigned {word : String} (hw : word ∈ specialWords) {cs : List Char}
    (h : SpellsWord word cs) : Unsigned cs := by
  have all : specialWords.all (·.toList.all fun l =>
      decide ((l ≠ '-' ∧ l ≠ '+') ∧ l.toUpper ≠ '-' ∧ l.toUpper ≠ '+')) = true := by
    decide
  simp only [List.all_eq_true, decide_eq_true_eq] at all
  intro c hc
  unfold SpellsWord at h
  obtain ⟨rest, rfl⟩ := List.head?_eq_some_iff.mp hc
  obtain ⟨l, ls, same, -, hword⟩ := List.forall₂_cons_left_iff.mp h
  have letter := all word hw l (hword ▸ List.mem_cons_self)
  rcases same with rfl | rfl
  · exact letter.1
  · exact letter.2

/-- What is read as a literal has no sign before it. -/
theorem Literal.unsigned_of_parse? {cs : List Char} {literal : Literal}
    (h : parse? cs = some literal) : Unsigned cs := by
  rcases spells_of_parse? h with ⟨n, rfl⟩ | ⟨word, hw, hword⟩
  · exact n.unsigned_body
  · exact hword.unsigned hw

/-! ## Reading -/

/-- What a text that is not blank reads as. -/
theorem readReal_eq {text : List Char} (h : Text.trim text ≠ []) :
    readReal text =
      match Literal.parse? (takeSign (Text.trim text)).2 with
      | some literal => .ok (literal.toBinary (takeSign (Text.trim text)).1)
      | none => .error .invalid := by
  unfold readReal
  generalize Text.trim text = body at h
  obtain ⟨c, cs, rfl⟩ := List.exists_cons_of_ne_nil h
  rfl

/-- A literal after its sign reads as the nearest word, with the sign. -/
theorem readReal_of_parse? {text cs : List Char} {s : Sign} {literal : Literal}
    (h : Text.trim text = s.text ++ cs) (parsed : Literal.parse? cs = some literal) :
    readReal text = .ok (literal.toBinary s.negative) := by
  have taken : takeSign (Text.trim text) = (s.negative, cs) := by
    rw [h, takeSign_text_append s (Literal.unsigned_of_parse? parsed)]
  have nonblank : Text.trim text ≠ [] := by
    intro blank
    rw [blank] at taken
    obtain rfl : [] = cs := congrArg Prod.snd taken
    exact nomatch parsed
  rw [readReal_eq nonblank, taken]
  simp only [parsed]

/-- The decimal number that a numeral without its sign is read as. -/
def Numeral.decimal (n : Numeral) : Decimal :=
  ⟨digitsValue (n.mantissa.wholeDigits ++ n.mantissa.fractionDigits),
    exponentValue n.exponent - n.mantissa.fractionDigits.length⟩

/-- A numeral reads as the word nearest to its decimal number, with its sign. -/
theorem readReal_of_trim_eq {text : List Char} {n : Numeral} (h : Text.trim text = n.text) :
    readReal text = .ok (.ofParts n.sign.negative (n.decimal.round .double)) := by
  have literal : Literal.parse? n.body = some (.decimal n.decimal) := by
    rw [Literal.parse?_body]
    exact congrArg (Option.map Literal.decimal) (Literal.decimal?_text n.mantissa n.exponent)
  exact readReal_of_parse? h literal

/-- **Digits read as a real number,** the one nearest to their value. -/
theorem readReal_of_digits (ds : Digits) :
    readReal ds.chars = .ok (.ofParts false (Decimal.round .double ⟨ds.value, 0⟩)) := by
  have read := readReal_of_trim_eq (n := ⟨.absent, .whole ds, none⟩)
    ((trim_of_digits ds.digits).trans (List.append_nil _).symm)
  rw [read]
  simp only [Numeral.decimal, Mantissa.wholeDigits, Mantissa.fractionDigits, List.append_nil]
  rfl

/-- The texts of the grammar are those that can be read after their sign. -/
theorem spellsReal_iff {cs : List Char} :
    SpellsReal cs ↔ ∃ literal, Literal.parse? (takeSign cs).2 = some literal := by
  constructor
  · rintro (⟨n, rfl⟩ | ⟨s, word, letters, hw, h, rfl⟩)
    · rw [Numeral.text, takeSign_text_append n.sign n.unsigned_body, Literal.parse?_body]
      exact ⟨_, congrArg (Option.map Literal.decimal)
        (Literal.decimal?_text n.mantissa n.exponent)⟩
    · rw [takeSign_text_append s (h.unsigned hw)]
      exact Literal.exists_parse?_of_spellsWord hw h
  · rintro ⟨literal, h⟩
    obtain ⟨s, whole, -⟩ := exists_sign_append cs
    rcases Literal.spells_of_parse? h with ⟨n, hn⟩ | ⟨word, hw, hword⟩
    · exact .inl ⟨{ n with sign := s }, by rw [← whole, ← hn]; rfl⟩
    · exact .inr ⟨s, word, _, hw, hword, whole⟩

/-- No two faults are reported by the same text. -/
theorem RealFault.eq_of_message_eq {a b : RealFault} (h : a.message = b.message) : a = b := by
  cases a <;> cases b <;> first | rfl | exact absurd h (by decide)

theorem exists_readReal_iff {text : List Char} :
    (∃ x, readReal text = .ok x) ↔ SpellsReal (Text.trim text) := by
  by_cases blank : Text.trim text = []
  · rw [readReal_of_allBlank (Text.trim_eq_nil_iff.mp blank), blank, spellsReal_iff]
    constructor
    · rintro ⟨x, h⟩
      exact nomatch h
    · rintro ⟨literal, h⟩
      exact nomatch h
  · rw [readReal_eq blank, spellsReal_iff]
    cases Literal.parse? (takeSign (Text.trim text)).2 with
    | none => simp
    | some literal => simp

theorem readReal_eq_empty_iff {text : List Char} :
    readReal text = .error .empty ↔ Text.trim text = [] := by
  by_cases blank : Text.trim text = []
  · simp only [blank, readReal_of_allBlank (Text.trim_eq_nil_iff.mp blank)]
  · simp only [blank, iff_false, readReal_eq blank]
    intro h
    split at h <;> exact nomatch h

/-- **Real numbers are read exactly from the texts of the grammar,** and a text outside it is either
    reported as empty or as no number. -/
theorem readReal_accepts (text : String) :
    let t := Text.trim text.toList
    let outcome := (readReal text.toList).mapError RealFault.message
    ((∃ x, outcome = .ok x) ↔ SpellsReal t) ∧
    (outcome = .error "cannot parse float from empty string" ↔ t = []) ∧
    (outcome = .error "invalid float literal" ↔ t ≠ [] ∧ ¬ SpellsReal t) := by
  intro t outcome
  have reported (fault : RealFault) :
      outcome = .error fault.message ↔ readReal text.toList = .error fault :=
    mapError_eq_error_iff_of_injective RealFault.eq_of_message_eq fault
  have accepted : (∃ x, outcome = .ok x) ↔ SpellsReal t := by
    simp only [outcome, mapError_eq_ok_iff]
    exact exists_readReal_iff
  have empty : readReal text.toList = .error .empty ↔ t = [] := readReal_eq_empty_iff
  refine ⟨accepted, (reported .empty).trans empty, (reported .invalid).trans ?_⟩
  -- There is no third fault, and no text has two outcomes.
  rw [← exists_readReal_iff, ne_eq, ← empty]
  cases readReal text.toList with
  | ok x => simp
  | error fault =>
      cases fault with
      | empty => simp
      | invalid => simp

/-- An exponent needs a digit before it. -/
example : readReal ".e1".toList = .error .invalid := by decide

end FixedColumns
