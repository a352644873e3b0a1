import FixedColumns.Proofs.Descriptor.RoundTrip
import FixedColumns.Proofs.Number.Digits
import FixedColumns.Proofs.Traversal
import FixedColumns.Value
import Mathlib.Algebra.Group.Int.Defs

/-!
# `FixedColumns.Proofs.Number.Integers` — which texts are integers, and which faults the others have

`SpellsInteger` is the grammar: an optional sign and one or more digits. The scan of the digits stops
at the first thing that is wrong, and `scanDigits_eq` says what that is in terms of the run of digits
at the start of the text: an overflow if the run as a whole exceeds the limit, and otherwise the
character after the run, if there is one. So `readInteger_classifies` can say which texts are read
as which integers, when each fault is reported, and that an integer that was written reads back.
-/

namespace FixedColumns

/-! ## Scanning -/

/-- A value does not get less by the digits that follow it. -/
theorem le_ofDigitChars (ds : List Char) (value : Nat) : value ≤ Nat.ofDigitChars 10 ds value := by
  rw [Nat.ofDigitChars_eq_ofDigitChars_zero]
  have := Nat.le_mul_of_pos_left value (Nat.pow_pos (n := ds.length) (show 0 < 10 by decide))
  omega

/-- What the scan of a text gives: the run of digits at its start overflows, or what follows the run
    is no digit, or nothing follows. -/
theorem scanDigits_eq {limit : Nat} (overflow : IntegerFault) {value : Nat} (within : value ≤ limit)
    (cs : List Char) :
    scanDigits limit overflow value cs =
      if limit < Nat.ofDigitChars 10 (cs.takeWhile Char.isDigit) value then .error overflow
      else if cs.dropWhile Char.isDigit = [] then
        .ok (Nat.ofDigitChars 10 (cs.takeWhile Char.isDigit) value)
      else .error .invalidDigit := by
  induction cs generalizing value with
  | nil => simp [scanDigits, Nat.not_lt.mpr within]
  | cons c cs ih =>
      by_cases hc : c.isDigit = true
      · rw [List.takeWhile_cons_of_pos hc, List.dropWhile_cons_of_pos hc, Nat.ofDigitChars_cons]
        simp only [scanDigits, hc, if_true]
        -- Once the value is over the limit, the rest of the run keeps it there.
        split
        · rename_i beyond
          rw [if_pos (Nat.lt_of_lt_of_le beyond (le_ofDigitChars _ _))]
        · rename_i within
          exact ih (Nat.not_lt.mp within)
      · simp [scanDigits, hc, Nat.not_lt.mpr within]

/-! ## Values -/

/-- The integer with a sign and a magnitude. -/
def signed (negative : Bool) (magnitude : Nat) : Int := if negative then -magnitude else magnitude

/-- The text is an optional sign and one or more digits, and the integer is its exact value. -/
def SpellsInteger (cs : List Char) (n : Int) : Prop :=
  ∃ (s : Sign) (ds : Digits), s.text ++ ds.chars = cs ∧ signed s.negative ds.value = n

/-- The longest run of digits right after the optional sign. -/
def leadingDigits (cs : List Char) : List Char := (takeSign cs).2.takeWhile Char.isDigit

/-- The grammar in terms of what follows the sign. -/
theorem spellsInteger_iff {cs : List Char} {n : Int} :
    SpellsInteger cs n ↔
      (takeSign cs).2 ≠ [] ∧ (takeSign cs).2.dropWhile Char.isDigit = [] ∧
        signed (takeSign cs).1 (digitsValue (leadingDigits cs)) = n := by
  constructor
  · rintro ⟨s, ds, rfl, hn⟩
    obtain ⟨run, rest⟩ := Spelling.takeWhile_digits_append ds.digits [] (by simp)
    rw [List.append_nil] at run rest
    unfold leadingDigits
    rw [takeSign_text_append s (unsigned_of_digits ds.digits)]
    exact ⟨ds.nonempty, rest, by rw [run]; exact hn⟩
  · rintro ⟨nonempty, rest, hn⟩
    obtain ⟨s, whole, negative⟩ := exists_sign_append cs
    have run : leadingDigits cs = (takeSign cs).2 := by
      have both := List.takeWhile_append_dropWhile (p := Char.isDigit) (l := (takeSign cs).2)
      rwa [rest, List.append_nil] at both
    have digits : Spelling.AllDigits (takeSign cs).2 := by
      rw [← run]
      exact Spelling.allDigits_takeWhile _
    refine ⟨s, ⟨(takeSign cs).2, nonempty, digits⟩, whole, ?_⟩
    rw [negative, ← hn, run]
    rfl

/-- An integer is of 64 bits exactly if its magnitude is within the limit of its sign. -/
theorem signed_bounds_iff {negative : Bool} {magnitude : Nat} :
    (-2 ^ 63 ≤ signed negative magnitude ∧ signed negative magnitude ≤ 2 ^ 63 - 1) ↔
      magnitude ≤ magnitudeLimit negative := by
  unfold signed magnitudeLimit
  cases negative with
  | false =>
      simp only [Bool.false_eq_true, if_false]
      omega
  | true =>
      simp only [if_true]
      omega

theorem toInt_ofSignMagnitude {negative : Bool} {magnitude : Nat}
    (h : magnitude ≤ magnitudeLimit negative) :
    (ofSignMagnitude negative magnitude).toInt = signed negative magnitude := by
  obtain ⟨least, greatest⟩ := signed_bounds_iff.mpr h
  show (Int64.ofInt (signed negative magnitude)).toInt = signed negative magnitude
  exact Int64.toInt_ofInt_of_le least (Int.lt_of_le_sub_one greatest)

/-! ## Reading -/

theorem takeSign_fst (cs : List Char) : (takeSign cs).1 = decide (cs.head? = some '-') := by
  unfold takeSign
  split
  · rfl
  · rfl
  · rename_i other _
    symm
    rw [decide_eq_false_iff_not]
    intro h
    obtain ⟨rest, hrest⟩ := List.head?_eq_some_iff.mp h
    exact other rest hrest

/-- What a text that is not blank reads as. -/
theorem readInteger_eq {text : List Char} (h : Text.trim text ≠ []) :
    readInteger text =
      if magnitudeLimit (takeSign (Text.trim text)).1 <
          digitsValue (leadingDigits (Text.trim text)) then
        .error (if (takeSign (Text.trim text)).1 then .tooSmall else .tooLarge)
      else if (takeSign (Text.trim text)).2 ≠ [] ∧
          (takeSign (Text.trim text)).2.dropWhile Char.isDigit = [] then
        .ok (ofSignMagnitude (takeSign (Text.trim text)).1
          (digitsValue (leadingDigits (Text.trim text))))
      else .error .invalidDigit := by
  unfold readInteger leadingDigits
  generalize Text.trim text = body at h
  obtain ⟨c, cs, rfl⟩ := List.exists_cons_of_ne_nil h
  dsimp only
  generalize takeSign (c :: cs) = taken
  obtain ⟨negative, digits⟩ := taken
  cases digits with
  | nil => simp [digitsValue]
  | cons d ds =>
      simp only [List.isEmpty_cons, Bool.false_eq_true, if_false]
      rw [scanDigits_eq _ (Nat.zero_le _)]
      simp only [digitsValue, ne_eq, reduceCtorEq, not_false_eq_true, true_and]
      split
      · rfl
      · split
        · rfl
        · rfl

/-- An integer is read exactly from the texts that spell it. -/
theorem readInteger_eq_ok_iff {text : List Char} {v : Int64} :
    readInteger text = .ok v ↔ SpellsInteger (Text.trim text) v.toInt := by
  by_cases blank : Text.trim text = []
  · rw [readInteger_of_allBlank (Text.trim_eq_nil_iff.mp blank), blank, spellsInteger_iff]
    simp [takeSign]
  · rw [readInteger_eq blank, spellsInteger_iff]
    constructor
    · intro h
      split at h
      · exact nomatch h
      · rename_i within
        split at h
        · rename_i digits
          rw [← Except.ok.inj h, toInt_ofSignMagnitude (Nat.not_lt.mp within)]
          exact ⟨digits.1, digits.2, rfl⟩
        · exact nomatch h
    · rintro ⟨nonempty, rest, value⟩
      have bounds : -2 ^ 63 ≤ v.toInt ∧ v.toInt ≤ 2 ^ 63 - 1 :=
        ⟨v.le_toInt, Int.le_sub_one_of_lt v.toInt_lt⟩
      rw [← value, signed_bounds_iff] at bounds
      rw [if_neg (Nat.not_lt.mpr bounds), if_pos ⟨nonempty, rest⟩]
      apply congrArg Except.ok
      rw [← Int64.toInt_inj, toInt_ofSignMagnitude bounds, value]

/-- **Digits read as an integer,** if their value is within the limit. -/
theorem readInteger_of_digits (ds : Digits) (within : ds.value ≤ magnitudeLimit false) :
    readInteger ds.chars = .ok (ofSignMagnitude false ds.value) := by
  rw [readInteger_eq_ok_iff, trim_of_digits ds.digits, toInt_ofSignMagnitude within]
  exact ⟨.absent, ds, rfl, rfl⟩

theorem readInteger_eq_empty_iff {text : List Char} :
    readInteger text = .error .empty ↔ Text.trim text = [] := by
  by_cases blank : Text.trim text = []
  · simp only [blank, readInteger_of_allBlank (Text.trim_eq_nil_iff.mp blank)]
  · simp only [blank, iff_false]
    intro h
    rw [readInteger_eq blank] at h
    split at h
    · split at h <;> exact nomatch h
    · split at h <;> exact nomatch h

/-- An overflow is reported exactly if the run of digits after the sign is beyond the limit, whatever
    follows the run. -/
theorem readInteger_eq_overflow_iff {text : List Char} (negative : Bool) :
    readInteger text = .error (if negative then .tooSmall else .tooLarge) ↔
      (takeSign (Text.trim text)).1 = negative ∧
        magnitudeLimit negative < digitsValue (leadingDigits (Text.trim text)) := by
  by_cases blank : Text.trim text = []
  · rw [readInteger_of_allBlank (Text.trim_eq_nil_iff.mp blank), blank]
    cases negative <;> simp [leadingDigits, takeSign, digitsValue]
  · rw [readInteger_eq blank]
    split
    · rename_i beyond
      generalize (takeSign (Text.trim text)).1 = sign at beyond
      cases sign <;> cases negative <;> simp [beyond]
    · rename_i within
      constructor
      · intro h
        split at h
        · exact nomatch h
        · cases negative <;> exact nomatch h
      · rintro ⟨rfl, beyond⟩
        exact absurd beyond within

theorem readInteger_eq_invalidDigit_iff {text : List Char} :
    readInteger text = .error .invalidDigit ↔
      Text.trim text ≠ [] ∧ (∀ n, ¬ SpellsInteger (Text.trim text) n) ∧
        digitsValue (leadingDigits (Text.trim text)) ≤
          magnitudeLimit (takeSign (Text.trim text)).1 := by
  by_cases blank : Text.trim text = []
  · rw [readInteger_of_allBlank (Text.trim_eq_nil_iff.mp blank), blank]
    simp
  · simp only [readInteger_eq blank, spellsInteger_iff, not_and]
    split
    · rename_i beyond
      constructor
      · intro h
        split at h <;> exact nomatch h
      · rintro ⟨_, _, within⟩
        exact absurd beyond (Nat.not_lt.mpr within)
    · rename_i within
      split
      · rename_i digits
        constructor
        · intro h
          exact nomatch h
        · rintro ⟨_, none, _⟩
          exact absurd rfl (none _ digits.1 digits.2)
      · rename_i other
        exact ⟨fun _ => ⟨blank, fun n nonempty rest _ => other ⟨nonempty, rest⟩,
          Nat.not_lt.mp within⟩, fun _ => rfl⟩

/-! ## Writing -/

theorem signed_natAbs (n : Int) : signed (decide (n < 0)) n.natAbs = n := by
  unfold signed
  by_cases h : n < 0
  · simp only [h, decide_true, if_true]
    omega
  · simp only [h, decide_false, Bool.false_eq_true, if_false]
    omega

/-- An integer is written as a text that spells it. -/
theorem spellsInteger_integerText (n : Int) : SpellsInteger (integerText n) n := by
  refine ⟨.ofNegative (decide (n < 0)), numeral n.natAbs, ?_, ?_⟩
  · unfold integerText
    by_cases h : n < 0
    · simp only [h, decide_true, if_true]
      rfl
    · simp only [h, decide_false, if_false]
      rfl
  · rw [Sign.negative_ofNegative, value_numeral, signed_natAbs]

theorem noBlank_integerText (n : Int) : Text.NoBlank (integerText n) := by
  have digits : Text.NoBlank (numeral n.natAbs).chars := fun d hd =>
    Text.isBlank_eq_false_of_isDigit ((numeral n.natAbs).digits d hd)
  unfold integerText
  split
  · exact List.forall_mem_cons.mpr ⟨rfl, digits⟩
  · exact digits

/-! ## What becomes of a text -/

/-- No two faults are reported by the same text. -/
theorem IntegerFault.eq_of_message_eq {a b : IntegerFault} (h : a.message = b.message) : a = b := by
  cases a <;> cases b <;> first | rfl | exact absurd h (by decide)

/-- **Integers are read exactly,** and every other text has the fault that it has. -/
theorem readInteger_classifies (text : String) :
    let t := Text.trim text.toList
    let outcome := (readInteger text.toList).mapError IntegerFault.message
    (∀ n : Int, (∃ v : Int64, outcome = .ok v ∧ v.toInt = n) ↔
      SpellsInteger t n ∧ -2 ^ 63 ≤ n ∧ n ≤ 2 ^ 63 - 1) ∧
    (outcome = .error "cannot parse integer from empty string" ↔ t = []) ∧
    (outcome = .error "number too large to fit in target type" ↔
      t.head? ≠ some '-' ∧ 2 ^ 63 - 1 < digitsValue (leadingDigits t)) ∧
    (outcome = .error "number too small to fit in target type" ↔
      t.head? = some '-' ∧ 2 ^ 63 < digitsValue (leadingDigits t)) ∧
    (outcome = .error "invalid digit found in string" ↔
      t ≠ [] ∧ (∀ n, ¬ SpellsInteger t n) ∧
        digitsValue (leadingDigits t) ≤ if t.head? = some '-' then 2 ^ 63 else 2 ^ 63 - 1) ∧
    ∀ (v : Int64) (before after : List Char), Text.AllBlank before → Text.AllBlank after →
      readInteger (before ++ (Value.integer v).display.toList ++ after) = .ok v := by
  intro t outcome
  have minus : (takeSign t).1 = decide (t.head? = some '-') := takeSign_fst t
  have reported (fault : IntegerFault) :
      outcome = .error fault.message ↔ readInteger text.toList = .error fault :=
    mapError_eq_error_iff_of_injective IntegerFault.eq_of_message_eq fault
  refine ⟨?_, ?_, ?_, ?_, ?_, ?_⟩
  · intro n
    simp only [outcome, mapError_eq_ok_iff, readInteger_eq_ok_iff]
    constructor
    · rintro ⟨v, spelled, rfl⟩
      exact ⟨spelled, v.le_toInt, Int.le_sub_one_of_lt v.toInt_lt⟩
    · rintro ⟨spelled, least, greatest⟩
      have value : (Int64.ofInt n).toInt = n :=
        Int64.toInt_ofInt_of_le least (Int.lt_of_le_sub_one greatest)
      exact ⟨Int64.ofInt n, value.symm ▸ spelled, value⟩
  · exact (reported .empty).trans readInteger_eq_empty_iff
  · refine ((reported .tooLarge).trans
      (readInteger_eq_overflow_iff false)).trans ?_
    rw [minus, decide_eq_false_iff_not]
    rfl
  · refine ((reported .tooSmall).trans
      (readInteger_eq_overflow_iff true)).trans ?_
    rw [minus, decide_eq_true_iff]
    rfl
  · refine ((reported .invalidDigit).trans
      readInteger_eq_invalidDigit_iff).trans ?_
    rw [minus]
    simp only [magnitudeLimit, decide_eq_true_eq]
    rfl
  · intro v before after hb ha
    rw [readInteger_eq_ok_iff]
    have shown : (Value.integer v).display.toList = integerText v.toInt := String.toList_ofList
    rw [shown, Text.trim_surrounded hb ha (noBlank_integerText v.toInt)]
    exact spellsInteger_integerText v.toInt

/-- The digits are beyond the limit before the letter is reached. -/
example : readInteger "9223372036854775808x".toList = .error .tooLarge := by decide

end FixedColumns
