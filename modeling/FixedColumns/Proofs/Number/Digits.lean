import FixedColumns.Descriptor.Spelling
import FixedColumns.Number.Real

/-!
# `FixedColumns.Proofs.Number.Digits` — signs, and runs of digits as numbers

Both kinds of number begin with a `Sign`, which may be left out, and `takeSign` takes it off
(`takeSign_text_append`, `exists_sign_append`). What follows it begins with digits: a digit is no
sign, no blank and no letter, and the value of digits is a matter of their places
(`digitsValue_append`).
-/

namespace FixedColumns

-- Powers are those of core, whatever other instances are in scope.
attribute [local instance (high)] instPowNat

/-! ## Signs -/

/-- The sign of a number, which may be left out. -/
inductive Sign where
  | absent
  | plus
  | minus
deriving DecidableEq, Repr

namespace Sign

/-- The text of a sign. -/
def text : Sign → List Char
  | absent => []
  | plus => ['+']
  | minus => ['-']

/-- Only a minus sign makes a number negative. -/
def negative (s : Sign) : Bool := s == .minus

/-- The sign that is written before a number. -/
def ofNegative (negative : Bool) : Sign := if negative then .minus else .absent

@[simp] theorem negative_ofNegative (negative : Bool) :
    (ofNegative negative).negative = negative := by
  cases negative <;> rfl

end Sign

/-- The text does not begin with a sign. -/
def Unsigned (cs : List Char) : Prop := ∀ c, cs.head? = some c → c ≠ '-' ∧ c ≠ '+'

theorem takeSign_of_unsigned {cs : List Char} (h : Unsigned cs) : takeSign cs = (false, cs) := by
  unfold takeSign
  split
  · exact absurd rfl (h '-' rfl).1
  · exact absurd rfl (h '+' rfl).2
  · rfl

/-- A sign before a text without one is what is taken off. -/
theorem takeSign_text_append (s : Sign) {cs : List Char} (h : Unsigned cs) :
    takeSign (s.text ++ cs) = (s.negative, cs) := by
  cases s with
  | absent => exact takeSign_of_unsigned h
  | plus => rfl
  | minus => rfl

/-- What is taken off is a sign. -/
theorem exists_sign_append (cs : List Char) :
    ∃ s : Sign, s.text ++ (takeSign cs).2 = cs ∧ s.negative = (takeSign cs).1 := by
  unfold takeSign
  split
  · exact ⟨.minus, rfl, rfl⟩
  · exact ⟨.plus, rfl, rfl⟩
  · exact ⟨.absent, rfl, rfl⟩

/-! ## Characters that digits are not -/

/-- A digit has no lower case but itself. -/
theorem toLower_of_isDigit {c : Char} (h : c.isDigit = true) : c.toLower = c := by
  have upper : c.toNat ≤ 57 := (Char.isDigit_iff_toNat.mp h).2
  have below : ¬ 'A'.val ≤ c.val := by
    rw [UInt32.le_iff_toNat_le]
    show ¬ 65 ≤ c.toNat
    omega
  exact dif_neg fun large => below large.1

theorem ne_of_isDigit {c other : Char} (h : c.isDigit = true) (ho : other.isDigit = false) :
    c ≠ other := by
  rintro rfl
  exact nomatch h.symm.trans ho

theorem toLower_ne_of_isDigit {c letter : Char} (h : c.isDigit = true)
    (hl : letter.isDigit = false) : c.toLower ≠ letter := by
  rw [toLower_of_isDigit h]
  exact ne_of_isDigit h hl

/-- A text does not spell a word that begins with another letter. -/
theorem Literal.spells_eq_false {c : Char} (cs : List Char) {word : String} {first : Char}
    {rest : List Char} (split : word.toList = first :: rest) (other : c.toLower ≠ first) :
    Literal.spells word (c :: cs) = false := by
  unfold Literal.spells
  rw [List.map_cons, split]
  apply beq_eq_false_iff_ne.mpr
  intro same
  exact other (List.cons.inj same).1

/-! ## Runs of digits -/

section Run

variable {ds : List Char} (digits : Spelling.AllDigits ds)

include digits

theorem trim_of_digits : Text.trim ds = ds := by
  apply Text.trim_eq_self
  · intro c hc
    exact Text.isBlank_eq_false_of_isDigit (digits c (List.mem_of_mem_head? hc))
  · intro c hc
    exact Text.isBlank_eq_false_of_isDigit (digits c (List.mem_of_getLast? hc))

/-- Digits have no sign before them. -/
theorem unsigned_of_digits : Unsigned ds := by
  intro c hc
  have digit := digits c (List.mem_of_mem_head? hc)
  exact ⟨ne_of_isDigit digit rfl, ne_of_isDigit digit rfl⟩

end Run

theorem allDigits_replicate_zero (n : Nat) : Spelling.AllDigits (List.replicate n '0') := by
  intro c hc
  rw [List.eq_of_mem_replicate hc]
  rfl

/-- Digits before others are moved up by as many places. -/
theorem digitsValue_append (cs ds : List Char) :
    digitsValue (cs ++ ds) = digitsValue cs * 10 ^ ds.length + digitsValue ds := by
  unfold digitsValue
  rw [Nat.ofDigitChars_append, Nat.ofDigitChars_eq_ofDigitChars_zero, Nat.mul_comm]

theorem digitsValue_replicate_zero (n : Nat) : digitsValue (List.replicate n '0') = 0 := by
  unfold digitsValue
  rw [Nat.ofDigitChars_replicate_zero, Nat.mul_zero]

/-- Zeros before a number make no difference to its value. -/
theorem digitsValue_zeros_append (n : Nat) (ds : List Char) :
    digitsValue (List.replicate n '0' ++ ds) = digitsValue ds := by
  rw [digitsValue_append, digitsValue_replicate_zero, Nat.zero_mul, Nat.zero_add]

/-- Zeros after a number move it up by as many places. -/
theorem digitsValue_append_zeros (ds : List Char) (n : Nat) :
    digitsValue (ds ++ List.replicate n '0') = digitsValue ds * 10 ^ n := by
  rw [digitsValue_append, digitsValue_replicate_zero, List.length_replicate, Nat.add_zero]

end FixedColumns
