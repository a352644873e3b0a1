import FixedColumns.Proofs.Descriptor.RoundTrip
import FixedColumns.Proofs.Number.Rounding
import FixedColumns.Value

/-!
# `FixedColumns.Proofs.Number.Writing` — a real number that was written reads back

A finite word is written as a numeral without an exponent, whose value is that of a decimal number
(`exists_mantissa_positional`). That number rounds to the word again, be it one that the search for
the fewest digits found or the exact value of the word (`Decimal.round_shortest`), and rounding
depends on the value alone. So reading what was written gives the word, bit for bit, and the words
for what is not finite are read as such: `readReal_display`.
-/

namespace FixedColumns

-- Powers are those of core, whatever other instances are in scope.
attribute [local instance (high)] instPowNat

/-! ## Positions -/

/-- The digits of a mantissa are those of a decimal number's numerator, with as many places as its
    denominator has: then the two have the same value. -/
theorem Mantissa.value_eq_toRat {m : Mantissa} {d : Decimal}
    (digits : digitsValue (m.wholeDigits ++ m.fractionDigits) = d.numerator)
    (places : m.fractionDigits.length = (-d.exponent).toNat) : m.value = d.toRat := by
  rw [m.value_eq, d.toRat_eq_div, digits, places, Decimal.denominator]
  push_cast
  rfl

/-- A decimal number without an exponent is written as a numeral of its value. -/
theorem exists_mantissa_positional (d : Decimal) :
    ∃ m : Mantissa, m.text = positional d ∧ m.value = d.toRat := by
  have value : digitsValue (numeral d.coefficient).chars = d.coefficient :=
    value_numeral d.coefficient
  have digits := (numeral d.coefficient).digits
  have nonempty := (numeral d.coefficient).nonempty
  have numerator (h : (-d.exponent).toNat ≠ 0) : d.numerator = d.coefficient := by
    rw [Decimal.numerator, show d.exponent.toNat = 0 by omega, Nat.pow_zero, Nat.mul_one]
  unfold positional
  rw [show Nat.toDigits 10 d.coefficient = (numeral d.coefficient).chars from rfl]
  generalize (numeral d.coefficient).chars = ds at *
  -- The point stands after the digits, within them or before them.
  simp only
  split
  · rename_i noPlaces
    refine ⟨.whole ⟨ds ++ List.replicate d.exponent.toNat '0', ?_, ?_⟩, rfl, ?_⟩
    · exact List.append_ne_nil_of_left_ne_nil nonempty _
    · exact List.forall_mem_append.mpr ⟨digits, allDigits_replicate_zero _⟩
    · apply Mantissa.value_eq_toRat
      · show digitsValue ((ds ++ _) ++ []) = _
        rw [List.append_nil, digitsValue_append_zeros, value, Decimal.numerator]
      · exact noPlaces.symm
  · rename_i places
    split
    · rename_i within
      have before : ds.take (ds.length - (-d.exponent).toNat) ≠ [] := by
        rw [ne_eq, List.take_eq_nil_iff, not_or]
        exact ⟨by omega, nonempty⟩
      have after : ds.drop (ds.length - (-d.exponent).toNat) ≠ [] := by
        rw [ne_eq, List.drop_eq_nil_iff]
        omega
      refine ⟨.pointed ⟨_, before, fun c hc => digits c (List.mem_of_mem_take hc)⟩
        (some ⟨_, after, fun c hc => digits c (List.mem_of_mem_drop hc)⟩), rfl, ?_⟩
      apply Mantissa.value_eq_toRat
      · show digitsValue (ds.take _ ++ ds.drop _) = _
        rw [List.take_append_drop, value, numerator places]
      · show (ds.drop _).length = _
        rw [List.length_drop]
        omega
    · have after : List.replicate ((-d.exponent).toNat - ds.length) '0' ++ ds ≠ [] :=
        List.append_ne_nil_of_right_ne_nil _ nonempty
      refine ⟨.pointed (numeral 0) (some ⟨_, after,
        List.forall_mem_append.mpr ⟨allDigits_replicate_zero _, digits⟩⟩), rfl, ?_⟩
      apply Mantissa.value_eq_toRat
      · show digitsValue (List.replicate 1 '0' ++ (_ ++ ds)) = _
        rw [digitsValue_zeros_append, digitsValue_zeros_append, value, numerator places]
      · show (List.replicate _ '0' ++ ds).length = _
        rw [List.length_append, List.length_replicate]
        omega

/-! ## Decimal numbers that round to a word -/

/-- The exact decimal number of a word has the word's size. -/
theorem Decimal.toRat_exact {f : BinaryFormat} (x : Binary f) :
    (exact x).toRat = x.units / 2 ^ f.scale := by
  have ten : (10 : ℚ) ^ f.scale = 5 ^ f.scale * 2 ^ f.scale := by
    rw [← mul_pow]
    norm_num
  unfold toRat exact
  rw [zpow_neg, zpow_natCast, ten]
  push_cast
  field_simp

section Round

variable {f : BinaryFormat} (hf : f.Proper)

include hf

/-- A decimal number of a finite word's size rounds to the word. -/
theorem Decimal.round_of_toRat_eq {d : Decimal} {word : Nat} (finite : word < f.infinity)
    (h : d.toRat = f.unitsOf word / 2 ^ f.scale) : d.round f = word := by
  have nearest := BinaryFormat.nearest_roundFreely hf.fraction d.numerator d.denominator_pos
  rw [← d.toRat_eq_div, h, div_mul_cancel₀ _ (by positivity)] at nearest
  have same : f.roundFreely d.numerator d.denominator = word :=
    nearest.unique (BinaryFormat.Nearest.of_unitsOf word)
  rw [round_eq_round_ratio, BinaryFormat.round_eq_min, same,
    Nat.min_eq_right (Nat.le_of_lt finite)]

/-- **The fewest digits of a finite word are enough:** they round to it. -/
theorem Decimal.round_shortest {x : Binary f} (finite : x.IsFinite) :
    (shortest x).round f = x.magnitude := by
  simp only [shortest]
  generalize search : List.findSome? _ _ = found
  cases found with
  | some d =>
      obtain ⟨digits, -, h⟩ := List.exists_of_findSome?_eq_some search
      exact round_of_neighbour?_eq_some h
  | none => exact round_of_toRat_eq hf finite (toRat_exact x)

/-- A finite word is written as its sign and a decimal number that rounds to it. -/
theorem exists_decimal_realText {x : Binary f} (finite : x.IsFinite) :
    ∃ d : Decimal, realText x = (Sign.ofNegative x.negative).text ++ positional d ∧
      d.round f = x.magnitude := by
  have sign (cs : List Char) : (if x.negative then '-' :: cs else cs) =
      (Sign.ofNegative x.negative).text ++ cs := by
    cases x.negative <;> rfl
  simp only [realText, finite.isNaN_eq_false, finite.isInfinite_eq_false, Bool.false_eq_true,
    if_false, sign]
  split
  · rename_i zero
    refine ⟨⟨0, 0⟩, rfl, ?_⟩
    rw [beq_iff_eq.mp zero]
    rfl
  · exact ⟨Decimal.shortest x, rfl, Decimal.round_shortest hf finite⟩

/-- That text is a numeral without an exponent, and its decimal number rounds to the word. -/
theorem exists_numeral_realText {x : Binary f} (finite : x.IsFinite) :
    ∃ n : Numeral, n.text = realText x ∧ n.exponent = none ∧ n.sign.negative = x.negative ∧
      n.decimal.round f = x.magnitude := by
  obtain ⟨d, text, round⟩ := exists_decimal_realText hf finite
  obtain ⟨m, written, value⟩ := exists_mantissa_positional d
  refine ⟨⟨.ofNegative x.negative, m, none⟩, ?_, rfl, Sign.negative_ofNegative _, ?_⟩
  · rw [text, ← written]
    show _ ++ (m.text ++ []) = _
    rw [List.append_nil]
  · rw [← round]
    apply Decimal.round_congr
    rw [Numeral.toRat_decimal, ← value]
    show m.value * 10 ^ (0 : Int) = _
    rw [zpow_zero, mul_one]

end Round

/-! ## Characters -/

/-- Without an exponent a numeral has a sign, digits and a point, and nothing else. -/
theorem Numeral.mem_text {n : Numeral} (h : n.exponent = none) {c : Char} (hc : c ∈ n.text) :
    c ∈ ['+', '-', '.'] ∨ c.isDigit = true := by
  obtain ⟨sign, mantissa, exponent⟩ := n
  obtain rfl : exponent = none := h
  rcases List.mem_append.mp hc with inSign | inBody
  · left
    cases sign with
    | absent => exact nomatch inSign
    | plus =>
        rw [List.mem_singleton.mp inSign]
        decide
    | minus =>
        rw [List.mem_singleton.mp inSign]
        decide
  · replace inBody : c ∈ mantissa.text := by
      rcases List.mem_append.mp inBody with inBody | empty
      · exact inBody
      · exact nomatch empty
    cases mantissa with
    | whole ds => exact .inr (ds.digits c inBody)
    | pointed ds fraction =>
        rcases List.mem_append.mp inBody with inWhole | inRest
        · exact .inr (ds.digits c inWhole)
        · rcases List.mem_cons.mp inRest with rfl | inFraction
          · exact .inl (by decide)
          · cases fraction with
            | none => exact nomatch inFraction
            | some fs => exact .inr (fs.digits c inFraction)
    | pointFirst ds =>
        rcases List.mem_cons.mp inBody with rfl | inFraction
        · exact .inl (by decide)
        · exact .inr (ds.digits c inFraction)

theorem Numeral.not_mem_text {n : Numeral} (h : n.exponent = none) {letter : Char}
    (other : letter ∉ ['+', '-', '.']) (digit : letter.isDigit = false) : letter ∉ n.text := by
  intro hc
  rcases n.mem_text h hc with mark | isDigit
  · exact other mark
  · exact ne_of_isDigit isDigit digit rfl

/-! ## Words that are not finite -/

theorem realText_of_infinity {f : BinaryFormat} {x : Binary f} (h : x.magnitude = f.infinity) :
    realText x = (Sign.ofNegative x.negative).text ++ "inf".toList := by
  have number : x.isNaN = false := decide_eq_false (Nat.not_lt_of_ge (Nat.le_of_eq h))
  have infinite : x.isInfinite = true := beq_iff_eq.mpr h
  simp only [realText, number, infinite, Bool.false_eq_true, if_false, if_true]
  cases x.negative <;> rfl

theorem realText_of_isNaN {f : BinaryFormat} {x : Binary f} (h : x.isNaN = true) :
    realText x = "NaN".toList := by
  rw [realText, if_pos h]

/-- There are no blanks in the text of a word. -/
theorem noBlank_realText (x : Double) : Text.NoBlank (realText x) := by
  rcases Nat.lt_trichotomy x.magnitude BinaryFormat.double.infinity with finite | infinite | nan
  · obtain ⟨n, text, noExponent, -⟩ := exists_numeral_realText BinaryFormat.proper_double finite
    have marks : Text.NoBlank ['+', '-', '.'] := by decide
    intro c hc
    rcases n.mem_text noExponent (text ▸ hc) with mark | digit
    · exact marks c mark
    · exact Text.isBlank_eq_false_of_isDigit digit
  · rw [realText_of_infinity infinite]
    cases x.negative <;> decide
  · rw [realText_of_isNaN (decide_eq_true nan)]
    decide

/-! ## Reading what was written -/

/-- **Real numbers read back bit for bit,** with any blanks around them, and the text of a finite one
    has no exponent. -/
theorem readReal_display (x : Double) {before after : List Char} (hb : Text.AllBlank before)
    (ha : Text.AllBlank after) :
    let text := (Value.real x).display.toList
    let outcome := readReal (before ++ text ++ after)
    (x.isNaN = false → outcome = .ok x) ∧
    (x.isNaN = true → ∃ y : Double, outcome = .ok y ∧ y.isNaN = true) ∧
    (x.IsFinite → (∃ n : Numeral, n.text = text ∧ n.exponent = none) ∧ 'e' ∉ text ∧ 'E' ∉ text) := by
  intro text outcome
  have shown : text = realText x := String.toList_ofList
  have trimmed : Text.trim (before ++ text ++ after) = realText x := by
    rw [shown]
    exact Text.trim_surrounded hb ha (noBlank_realText x)
  refine ⟨?_, ?_, ?_⟩
  · intro number
    have le : x.magnitude ≤ BinaryFormat.double.infinity :=
      Nat.not_lt.mp (of_decide_eq_false number)
    rcases Nat.lt_or_eq_of_le le with finite | infinite
    · obtain ⟨n, written, -, sign, round⟩ :=
        exists_numeral_realText BinaryFormat.proper_double finite
      have read : outcome = _ := readReal_of_trim_eq (trimmed.trans written.symm)
      rw [read, sign, round, Binary.ofParts_negative_magnitude]
    · have read : outcome = .ok (Literal.infinity.toBinary (Sign.ofNegative x.negative).negative) :=
        readReal_of_parse? (trimmed.trans (realText_of_infinity infinite)) rfl
      have word : (.infinity x.negative : Double) = x := by
        rw [Binary.infinity, ← infinite, Binary.ofParts_negative_magnitude]
      rw [read, Sign.negative_ofNegative, Literal.toBinary, word]
  · intro nan
    have read : outcome = .ok (Literal.nan.toBinary false) :=
      readReal_of_parse? (s := .absent) (trimmed.trans (realText_of_isNaN nan)) rfl
    exact ⟨.nan, read, by decide⟩
  · intro finite
    obtain ⟨n, written, noExponent, -⟩ :=
      exists_numeral_realText BinaryFormat.proper_double finite
    rw [shown, ← written]
    exact ⟨⟨n, rfl, noExponent⟩, n.not_mem_text noExponent (by decide) rfl,
      n.not_mem_text noExponent (by decide) rfl⟩

/-- The least positive word, between blanks of several kinds. -/
theorem readReal_display_least :
    Text.AllBlank ['\u3000', ' '] ∧ Text.AllBlank ['\t'] ∧
      readReal (['\u3000', ' '] ++ (Value.real ⟨1⟩).display.toList ++ ['\t']) = .ok ⟨1⟩ := by
  have before : Text.AllBlank ['\u3000', ' '] := by decide
  have after : Text.AllBlank ['\t'] := by decide
  exact ⟨before, after, (readReal_display ⟨1⟩ before after).1 (by decide)⟩

end FixedColumns
