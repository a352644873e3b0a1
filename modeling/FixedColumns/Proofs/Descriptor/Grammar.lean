import FixedColumns.Descriptor.Format
import Mathlib

/-!
# `FixedColumns.Proofs.Descriptor.Grammar` — the grammar of descriptors, and what reading makes of it

The grammar is `digits? letter (digits ('.' digits)?)?`, and `Parts` are the parts of one text that
it derives: what is optional is an `Option`, and a run of digits carries that it is one. Every
`Parts` has a `Spelling`, every well-formed spelling comes from `Parts`, and so scanning decides the
grammar. The main statement, `Descriptor.parse_classifies`, says what becomes of every text: outside
the grammar, with a number that is too large, with a count over the limit, or a descriptor.
-/

namespace FixedColumns

/-! ## Letters in either case -/

/-- A character has at most one other case. -/
theorem toUpper_eq_or_toLower_eq (c : Char) : c.toUpper = c ∨ c.toLower = c := by
  by_cases lower : c.isLower = true
  · exact Or.inr (Char.toLower_eq_of_not_isUpper (Char.not_isUpper_of_isLower lower))
  · exact Or.inl (Char.toUpper_eq_of_not_isLower lower)

theorem eq_or_eq_toLower_of_toUpper_eq {c d : Char} (h : c.toUpper = d) :
    c = d ∨ c = d.toLower := by
  rw [← h, Char.toLower_toUpper_eq_toLower]
  exact (toUpper_eq_or_toLower_eq c).imp Eq.symm Eq.symm

theorem eq_or_eq_toUpper_of_toLower_eq {c l : Char} (h : c.toLower = l) :
    c = l ∨ c = l.toUpper := by
  rw [← h, Char.toUpper_toLower_eq_toUpper]
  exact (toUpper_eq_or_toLower_eq c).symm.imp Eq.symm Eq.symm

/-! ## The letters of descriptors -/

namespace Kind

/-- The letters of descriptors, with their kinds. -/
def letters : List (Char × Kind) :=
  [('I', .field .integer), ('i', .field .integer),
   ('F', .field (.real .fixed)), ('f', .field (.real .fixed)),
   ('E', .field (.real .exponential)), ('e', .field (.real .exponential)),
   ('A', .field .text), ('a', .field .text),
   ('X', .skip), ('x', .skip)]

theorem mem_letters_of_toUpper_eq {c d : Char} {k : Kind} (h : c.toUpper = d)
    (upper : (d, k) ∈ letters) (lower : (d.toLower, k) ∈ letters) : (c, k) ∈ letters := by
  rcases eq_or_eq_toLower_of_toUpper_eq h with rfl | rfl
  · exact upper
  · exact lower

/-- A character has a kind exactly if it is one of the letters. -/
theorem ofLetter?_eq_some_iff {c : Char} {k : Kind} :
    ofLetter? c = some k ↔ (c, k) ∈ letters := by
  constructor
  · intro h
    unfold ofLetter? at h
    split at h
    case h_6 => exact nomatch h
    -- In each branch the upper case of the character is known, which leaves two characters.
    all_goals
      rename_i upper
      rw [← Option.some.inj h]
      exact mem_letters_of_toUpper_eq upper (by decide) (by decide)
  · intro h
    have all : ∀ entry ∈ letters, ofLetter? entry.1 = some entry.2 := by decide
    exact all (c, k) h

end Kind

/-! ## The grammar -/

/-- One or more decimal digits. -/
@[ext]
structure Digits where
  chars : List Char
  nonempty : chars ≠ []
  digits : Spelling.AllDigits chars
deriving DecidableEq

/-- The number that digits stand for, to the base of ten. -/
def Digits.value (ds : Digits) : Nat := digitsValue ds.chars

/-- The parts of a text of the grammar `digits? letter (digits ('.' digits)?)?`. -/
structure Parts where
  count : Option Digits
  letter : Char
  kind : Kind
  named : (letter, kind) ∈ Kind.letters
  size : Option (Digits × Option Digits)
deriving DecidableEq

namespace Parts

/-- The text that has the parts. -/
def text (p : Parts) : List Char :=
  (p.count.elim [] Digits.chars) ++ p.letter ::
    match p.size with
    | none => []
    | some (width, none) => width.chars
    | some (width, some decimals) => width.chars ++ '.' :: decimals.chars

/-- The width that is written. -/
def width? (p : Parts) : Option Digits := p.size.map Prod.fst

/-- The decimals that are written. -/
def decimals? (p : Parts) : Option Digits := p.size.bind Prod.snd

/-- The numbers that are written, from left to right. -/
def numbers (p : Parts) : List (Part × Digits) :=
  p.count.toList.map (.count, ·) ++ p.width?.toList.map (.width, ·) ++
    p.decimals?.toList.map (.decimals, ·)

/-- The count, which is one if none is written. -/
def countValue (p : Parts) : Nat := p.count.elim 1 Digits.value

/-- The width, which is zero if none is written; a skip is one column wide in any case. -/
def widthValue (p : Parts) : Nat :=
  if p.kind.isSkip then 1 else p.width?.elim 0 Digits.value

/-- The decimals, if any are written. -/
def decimalsValue (p : Parts) : Option Nat := p.decimals?.map Digits.value

/-- The descriptor that the parts stand for, bounds apart. -/
def descriptor (p : Parts) : Descriptor :=
  ⟨p.countValue, p.kind, p.widthValue, p.decimalsValue⟩

/-- What a text of the grammar consists of: digits, the letter, and a point. -/
theorem mem_text {p : Parts} {c : Char} (h : c ∈ p.text) :
    c.isDigit = true ∨ c = p.letter ∨ c = '.' := by
  obtain ⟨count, letter, kind, named, size⟩ := p
  unfold text at h
  rcases List.mem_append.mp h with h | h
  · cases count with
    | none => exact absurd h List.not_mem_nil
    | some ds => exact .inl (ds.digits c h)
  · rcases List.mem_cons.mp h with rfl | h
    · exact .inr (.inl rfl)
    · rcases size with _ | ⟨width, _ | decimals⟩
      · exact absurd h List.not_mem_nil
      · exact .inl (width.digits c h)
      · rcases List.mem_append.mp h with h | h
        · exact .inl (width.digits c h)
        · rcases List.mem_cons.mp h with rfl | h
          · exact .inr (.inr rfl)
          · exact .inl (decimals.digits c h)

/-! ## Parts and spellings -/

/-- The spelling that has the parts. -/
def spelling (p : Parts) : Spelling where
  count := p.count.elim [] Digits.chars
  letter := p.letter
  kind := p.kind
  width := p.width?.elim [] Digits.chars
  decimals := p.decimals?.map Digits.chars

theorem wellFormed_spelling (p : Parts) : p.spelling.WellFormed := by
  obtain ⟨count, letter, kind, named, size⟩ := p
  refine ⟨?_, Kind.ofLetter?_eq_some_iff.mpr named, ?_, ?_⟩
  · cases count with
    | none =>
        intro c hc
        exact absurd hc List.not_mem_nil
    | some ds => exact ds.digits
  · cases size with
    | none =>
        intro c hc
        exact absurd hc List.not_mem_nil
    | some size => exact size.1.digits
  · intro ds hds
    rcases size with _ | ⟨width, _ | decimals⟩
    · exact nomatch hds
    · exact nomatch hds
    · obtain rfl := Option.some.inj hds
      exact ⟨width.nonempty, decimals.nonempty, decimals.digits⟩

theorem render_spelling (p : Parts) : p.spelling.render = p.text := by
  obtain ⟨count, letter, kind, named, size⟩ := p
  rcases size with _ | ⟨width, _ | decimals⟩
  · rfl
  · simp [spelling, width?, decimals?, text, Spelling.render, Spelling.renderDecimals]
  · rfl

/-- Every well-formed spelling has parts. -/
theorem exists_spelling_eq {s : Spelling} (h : s.WellFormed) : ∃ p : Parts, p.spelling = s := by
  obtain ⟨count, letter, kind, width, decimals⟩ := s
  have named := Kind.ofLetter?_eq_some_iff.mp h.letter
  obtain ⟨first, hfirst⟩ : ∃ ds : Option Digits, ds.elim [] Digits.chars = count := by
    by_cases hc : count = []
    · exact ⟨none, hc.symm⟩
    · exact ⟨some ⟨count, hc, h.count⟩, rfl⟩
  -- Decimals stand after a width only, which is what `size` says with a pair.
  cases decimals with
  | some ds =>
      obtain ⟨hw, hne, hds⟩ := h.decimals ds rfl
      exact ⟨⟨first, letter, kind, named, some (⟨width, hw, h.width⟩, some ⟨ds, hne, hds⟩)⟩,
        by simp [spelling, width?, decimals?, hfirst]⟩
  | none =>
      by_cases hw : width = []
      · exact ⟨⟨first, letter, kind, named, none⟩, by simp [spelling, width?, decimals?, hfirst, hw]⟩
      · exact ⟨⟨first, letter, kind, named, some (⟨width, hw, h.width⟩, none)⟩,
          by simp [spelling, width?, decimals?, hfirst]⟩

/-- Scanning a text of the grammar gives the spelling of its parts. -/
theorem scan_text (p : Parts) : Spelling.scan p.text = .ok p.spelling := by
  rw [← render_spelling]
  exact Spelling.scan_render p.wellFormed_spelling

/-- A text that can be scanned has parts. -/
theorem exists_text_eq {cs : List Char} {s : Spelling} (h : Spelling.scan cs = .ok s) :
    ∃ p : Parts, p.text = cs := by
  obtain ⟨hs, hr⟩ := Spelling.render_of_scan h
  obtain ⟨p, hp⟩ := exists_spelling_eq hs
  exact ⟨p, by rw [← render_spelling, hp, hr]⟩

/-- Digits that may be absent are known by their characters, which are none if they are. -/
theorem eq_of_elim_chars_eq {a b : Option Digits}
    (h : a.elim [] Digits.chars = b.elim [] Digits.chars) : a = b := by
  rcases a with _ | ⟨ds, hd, _⟩
  · rcases b with _ | ⟨es, he, _⟩
    · rfl
    · exact absurd h.symm he
  · rcases b with _ | ⟨es, he, _⟩
    · exact absurd h hd
    · cases h
      rfl

theorem spelling_injective {p q : Parts} (h : p.spelling = q.spelling) : p = q := by
  obtain ⟨count, letter, kind, named, size⟩ := p
  obtain ⟨count', letter', kind', named', size'⟩ := q
  simp only [spelling, Spelling.mk.injEq] at h
  obtain ⟨hcount, rfl, rfl, hwidth, hdecimals⟩ := h
  have width : size.map Prod.fst = size'.map Prod.fst := eq_of_elim_chars_eq hwidth
  have decimals : size.bind Prod.snd = size'.bind Prod.snd :=
    (Option.map_inj_right fun _ _ => Digits.ext).mp hdecimals
  rw [eq_of_elim_chars_eq hcount]
  -- The width tells a size that is written from one that is not, and then so do its decimals.
  rcases size with _ | ⟨w, d⟩
  · rcases size' with _ | ⟨w', d'⟩
    · rfl
    · exact nomatch width
  · rcases size' with _ | ⟨w', d'⟩
    · exact nomatch width
    · obtain rfl : w = w' := Option.some.inj width
      obtain rfl : d = d' := decimals
      rfl

/-- No text has two sets of parts. -/
theorem text_injective {p q : Parts} (h : p.text = q.text) : p = q := by
  have hp := p.scan_text
  rw [h, q.scan_text] at hp
  exact (spelling_injective (Except.ok.inj hp)).symm

/-! ## Bounds on the numbers -/

/-- The first of the written numbers that is too large. -/
def tooLarge? (p : Parts) : Option (Part × Digits) :=
  p.numbers.find? fun number => maxNumber < number.2.value

/-- The number of a part, if it is written and too large. -/
def excess? (part : Part) (number : Option Digits) : Option (Part × Digits) :=
  (number.toList.map (part, ·)).find? fun number => maxNumber < number.2.value

/-- The first number that is too large is looked for in the count, the width and the decimals. -/
theorem tooLarge?_eq (p : Parts) :
    p.tooLarge? = ((excess? .count p.count).or (excess? .width p.width?)).or
      (excess? .decimals p.decimals?) := by
  unfold tooLarge? numbers excess?
  rw [List.find?_append, List.find?_append]

/-- The fault of a number that is too large. -/
def fault (number : Part × Digits) : DescriptorFault :=
  .tooLarge number.1 (String.ofList number.2.chars)

/-- Reading the digits of a part gives their number, unless it is too large. -/
theorem read_chars (part : Part) (ds : Digits) :
    part.read ds.chars =
      (excess? part (some ds)).elim (.ok ds.value) fun number => .error (fault number) := by
  unfold Part.read excess?
  change (if ds.value ≤ maxNumber then _ else _) = _
  by_cases h : ds.value ≤ maxNumber
  · have within : ¬ maxNumber < ds.value := Nat.not_lt.mpr h
    rw [if_pos h]
    simp [within]
    rfl
  · have beyond : maxNumber < ds.value := Nat.not_le.mp h
    rw [if_neg h]
    simp [beyond, fault]

theorem readCount_spelling (p : Parts) :
    p.spelling.readCount =
      (excess? .count p.count).elim (.ok p.countValue) fun number => .error (fault number) := by
  unfold Spelling.readCount spelling countValue
  cases p.count with
  | none => rfl
  | some ds =>
      have empty : ds.chars.isEmpty = false := by simp [ds.nonempty]
      simp only [Option.elim, empty, if_false, Bool.false_eq_true]
      exact read_chars .count ds

theorem readWidth_spelling (p : Parts) :
    Part.width.read p.spelling.width =
      (excess? .width p.width?).elim (.ok (p.width?.elim 0 Digits.value)) fun number =>
        .error (fault number) := by
  unfold spelling
  cases p.width? with
  | none => rfl
  | some ds => exact read_chars .width ds

theorem readDecimals_spelling (p : Parts) :
    p.spelling.readDecimals =
      (excess? .decimals p.decimals?).elim (.ok p.decimalsValue) fun number =>
        .error (fault number) := by
  unfold Spelling.readDecimals spelling decimalsValue
  cases p.decimals? with
  | none => rfl
  | some ds =>
      show (Part.decimals.read ds.chars).map some = _
      rw [read_chars]
      cases excess? .decimals (some ds) with
      | none => rfl
      | some number => rfl

/-- What becomes of the parts of a descriptor: the first number that is too large decides, and then
    the limit on the count. -/
theorem descriptor_spelling (p : Parts) :
    p.spelling.descriptor =
      match p.tooLarge? with
      | some number => .error (fault number)
      | none =>
        if maxCount < p.countValue then .error (.overLimit p.countValue)
        else .ok p.descriptor := by
  unfold Spelling.descriptor
  rw [readCount_spelling, readWidth_spelling, readDecimals_spelling, tooLarge?_eq]
  -- The numbers are read in the order in which the first one that is too large is looked for.
  cases excess? .count p.count with
  | some number => rfl
  | none =>
      cases excess? .width p.width? with
      | some number => rfl
      | none =>
          cases excess? .decimals p.decimals? with
          | some number => rfl
          | none => rfl

/-- No number that is written is too large. -/
theorem tooLarge?_eq_none_iff {p : Parts} :
    p.tooLarge? = none ↔ ∀ number ∈ p.numbers, number.2.value ≤ maxNumber := by
  unfold tooLarge?
  rw [List.find?_eq_none]
  refine forall_congr' fun number => forall_congr' fun _ => ?_
  rw [decide_eq_true_eq, Nat.not_lt]

/-- Reading a text of the grammar stops at the first number that is too large. -/
theorem parse_text_of_tooLarge {p : Parts} {number : Part × Digits}
    (h : p.tooLarge? = some number) :
    Descriptor.parse p.text = .error ⟨String.ofList p.text, fault number⟩ := by
  unfold Descriptor.parse
  rw [p.scan_text]
  show p.spelling.descriptor.mapError _ = _
  rw [p.descriptor_spelling, h]
  rfl

/-- If no number is too large then only the limit on the count is left to keep. -/
theorem parse_text {p : Parts} (h : ∀ number ∈ p.numbers, number.2.value ≤ maxNumber) :
    Descriptor.parse p.text =
      if maxCount < p.countValue then .error ⟨String.ofList p.text, .overLimit p.countValue⟩
      else .ok p.descriptor := by
  unfold Descriptor.parse
  rw [p.scan_text]
  show p.spelling.descriptor.mapError _ = _
  rw [p.descriptor_spelling, tooLarge?_eq_none_iff.mpr h]
  by_cases hc : maxCount < p.countValue
  · simp only [hc, if_true]
    rfl
  · simp only [hc, if_false]
    rfl

end Parts

/-! ## What becomes of a text -/

namespace Descriptor

/-- What is read as a descriptor has parts, whose numbers are within their bounds. -/
theorem exists_parts_of_parse {cs : List Char} {d : Descriptor} (h : parse cs = .ok d) :
    ∃ p : Parts, p.text = cs ∧ (∀ number ∈ p.numbers, number.2.value ≤ maxNumber) ∧
      p.countValue ≤ maxCount ∧ p.descriptor = d := by
  obtain ⟨p, rfl⟩ : ∃ p : Parts, p.text = cs := by
    unfold parse at h
    cases hs : Spelling.scan cs with
    | error stop =>
        rw [hs] at h
        exact nomatch h
    | ok s => exact Parts.exists_text_eq hs
  refine ⟨p, rfl, ?_⟩
  cases hl : p.tooLarge? with
  | some number =>
      rw [Parts.parse_text_of_tooLarge hl] at h
      exact nomatch h
  | none =>
      have within := Parts.tooLarge?_eq_none_iff.mp hl
      rw [Parts.parse_text within] at h
      by_cases hc : maxCount < p.countValue
      · rw [if_pos hc] at h
        exact nomatch h
      · rw [if_neg hc] at h
        exact ⟨within, Nat.not_lt.mp hc, Except.ok.inj h⟩

/-- **Every text is classified.** -/
theorem parse_classifies (text : String) :
    (∀ p q : Parts, p.text = text.toList → q.text = text.toList → p = q) ∧
    ((∀ p : Parts, p.text ≠ text.toList) →
      ∃ stop, parse text.toList = .error ⟨text, .unrecognized stop⟩) ∧
    ∀ p : Parts, p.text = text.toList →
      (∀ part ds, p.numbers.find? (fun number => 2 ^ 32 - 1 < number.2.value) = some (part, ds) →
        parse text.toList = .error ⟨text, .tooLarge part (String.ofList ds.chars)⟩) ∧
      ((∀ number ∈ p.numbers, number.2.value ≤ 2 ^ 32 - 1) →
        (100000 < p.countValue →
          parse text.toList = .error ⟨text, .overLimit p.countValue⟩) ∧
        (p.countValue ≤ 100000 →
          parse text.toList =
            .ok ⟨p.countValue, p.kind, p.widthValue, p.decimalsValue⟩)) := by
  refine ⟨?_, ?_, ?_⟩
  · intro p q hp hq
    exact Parts.text_injective (hp.trans hq.symm)
  · intro h
    unfold parse
    cases hs : Spelling.scan text.toList with
    | error stop => exact ⟨stop, by rw [String.ofList_toList]⟩
    | ok s =>
        obtain ⟨p, hp⟩ := Parts.exists_text_eq hs
        exact absurd hp (h p)
  · intro p hp
    have whole : String.ofList p.text = text := by rw [hp, String.ofList_toList]
    rw [← hp]
    refine ⟨?_, ?_⟩
    · intro part ds hf
      rw [Parts.parse_text_of_tooLarge hf, whole]
      rfl
    · intro hb
      rw [Parts.parse_text hb, whole]
      constructor
      · intro hc
        exact if_pos hc
      · intro hc
        exact if_neg (Nat.not_lt.mpr hc)

end Descriptor

end FixedColumns
