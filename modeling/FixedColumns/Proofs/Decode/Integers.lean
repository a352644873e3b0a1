import FixedColumns.Decode.Line
import Mathlib.Algebra.Group.Int.Defs
import Mathlib.Algebra.Group.Nat.Defs

/-!
# `FixedColumns.Proofs.Decode.Integers` — integers keep their values

A word of an integer type stands for a number, and the numbers of the type are those of its words: a
number is in the range of the type exactly if it is the same after reduction to the width of the type
(`IntType.number_word_eq_iff`). So an integer decodes into a type exactly if it has a word there, and
the word made into a value again is that integer (`Value.ofPrimitive_eq_integer_iff`), with no change
of a sign and nothing cut off on either way. `Shape.ofValue_integer_exact` puts the two together.
-/

namespace FixedColumns

-- Powers are those of core, whatever other instances are in scope.
attribute [local instance (high)] instPowNat

namespace IntType

variable {t : IntType}

/-! ## Words of an integer type -/

/-- The number that a word stands for. -/
def number (t : IntType) (w : BitVec t.bits) : Int := if t.signed then w.toInt else w.toNat

/-- The word that a number is reduced to. -/
def word (t : IntType) (n : Int) : BitVec t.bits := BitVec.ofInt t.bits n

/-- Every word stands for a number of the range. -/
theorem holds_number (t : IntType) (w : BitVec t.bits) : t.Holds (t.number w) := by
  unfold Holds least greatest number
  cases t.signed with
  | true => exact ⟨w.le_toInt, Int.le_sub_one_of_lt w.toInt_lt⟩
  | false =>
      have below : (w.toNat : Int) < 2 ^ t.bits := by exact_mod_cast w.isLt
      exact ⟨Int.natCast_nonneg _, Int.le_sub_one_of_lt below⟩

/-- **A number is in the range** exactly if reducing it to the width of the type does not change it. -/
theorem number_word_eq_iff (width : 0 < t.bits) {n : Int} :
    t.number (t.word n) = n ↔ t.Holds n := by
  constructor
  · intro same
    rw [← same]
    exact t.holds_number _
  · intro range
    unfold Holds least greatest at range
    unfold number word
    cases hs : t.signed with
    | true =>
        simp only [hs, if_true] at range ⊢
        exact BitVec.toInt_ofInt_eq_self width range.1 (Int.lt_of_le_sub_one range.2)
    | false =>
        simp only [hs, Bool.false_eq_true, if_false] at range ⊢
        have below : n < ((2 ^ t.bits : Nat) : Int) := by
          push_cast
          exact Int.lt_of_le_sub_one range.2
        rw [BitVec.toNat_ofInt, Int.emod_eq_of_lt range.1 below, Int.toNat_of_nonneg range.1]

/-- The numbers of the range are those of the words. -/
theorem holds_iff_exists_number (width : 0 < t.bits) {n : Int} :
    t.Holds n ↔ ∃ w, t.number w = n := by
  constructor
  · intro range
    exact ⟨t.word n, (number_word_eq_iff width).mpr range⟩
  · rintro ⟨w, rfl⟩
    exact t.holds_number w

/-- What a value can be made of, for a word of at most 64 bits: the word is extended to 64 bits by its
    sign or by zeros. -/
def primitive (t : IntType) (w : BitVec t.bits) : Primitive :=
  if t.signed then .signed (Int64.ofBitVec (w.signExtend 64))
  else .unsigned (UInt64.ofBitVec (w.setWidth 64))

end IntType

/-! ## Values from integers -/

/-- A number of 64 bits without a sign is held if it is not over the greatest integer. -/
theorem Value.ofPrimitive_unsigned (x : UInt64) :
    Value.ofPrimitive (.unsigned x) =
      if x.toNat ≤ 2 ^ 63 - 1 then .ok (.integer (.ofNat x.toNat)) else .error (.overflow x.toNat) :=
  rfl

theorem Value.ofPrimitive_signed_eq_integer_iff {n v : Int64} :
    Value.ofPrimitive (.signed n) = .ok (.integer v) ↔ n.toInt = v.toInt := by
  rw [Value.ofPrimitive, Except.ok.injEq, Value.integer.injEq, Int64.toInt_inj]

theorem Value.ofPrimitive_unsigned_eq_integer_iff {x : UInt64} {v : Int64} :
    Value.ofPrimitive (.unsigned x) = .ok (.integer v) ↔ (x.toNat : Int) = v.toInt := by
  rw [Value.ofPrimitive_unsigned]
  have above := v.toInt_lt
  constructor
  · intro made
    split at made
    · rename_i fits
      rw [← Value.integer.inj (Except.ok.inj made), Int64.toInt_ofNat_of_lt (by omega)]
    · cases made
  · intro same
    have value : Int64.ofNat x.toNat = v := by
      rw [← Int64.toInt_inj, Int64.toInt_ofNat_of_lt (by omega), same]
    rw [if_pos (by omega), value]

/-- **A value made of a word** is the integer of the same number, and no other. -/
theorem Value.ofPrimitive_eq_integer_iff {t : IntType} (narrow : t.bits ≤ 64) {w : BitVec t.bits}
    {v : Int64} : Value.ofPrimitive (t.primitive w) = .ok (.integer v) ↔ t.number w = v.toInt := by
  unfold IntType.primitive IntType.number
  cases t.signed with
  | true =>
      rw [if_pos rfl, if_pos rfl, Value.ofPrimitive_signed_eq_integer_iff, Int64.toInt_ofBitVec,
        BitVec.toInt_signExtend_of_le narrow]
  | false =>
      have kept : (UInt64.ofBitVec (w.setWidth 64)).toNat = w.toNat :=
        BitVec.toNat_setWidth_of_le narrow
      rw [if_neg Bool.false_ne_true, if_neg Bool.false_ne_true,
        Value.ofPrimitive_unsigned_eq_integer_iff, kept]

/-- A number without a sign keeps its value, unless it is over the greatest integer. -/
theorem Value.exists_ofPrimitive_unsigned {x : UInt64} (fits : x.toNat ≤ 2 ^ 63 - 1) :
    ∃ v : Int64, Value.ofPrimitive (.unsigned x) = .ok (.integer v) ∧ v.toInt = x.toNat := by
  have value : (Int64.ofNat x.toNat).toInt = x.toNat := Int64.toInt_ofNat_of_lt (by omega)
  exact ⟨_, Value.ofPrimitive_unsigned_eq_integer_iff.mpr value.symm, value⟩

/-! ## Decoding -/

/-- The report names the integer and the type. -/
theorem DecodeFault.message_wrongValue_integer (t : IntType) (v : Int64) :
    (DecodeFault.wrongValue (.integer v.toInt) (.integer t)).message =
      "invalid value: integer `" ++ (Value.integer v).display ++ "`, expected " ++ t.name := by
  have before : "invalid value: integer `" = "invalid value: " ++ "integer `" := by decide
  have between : "`, expected " = "`" ++ ", expected " := by decide
  show "invalid value: " ++ ("integer `" ++ (Value.integer v).display ++ "`") ++ ", expected " ++
      t.name = _
  rw [before, between]
  simp only [String.append_assoc]

namespace Shape

variable {t : IntType} {v : Int64}

/-- An integer decodes into a type exactly if it is in the range, and as itself. -/
theorem ofValue_integer_eq_ok_iff {d : Decoded} :
    ofValue (.integer t) (.integer v) = .ok d ↔ t.Holds v.toInt ∧ d = .integer v.toInt := by
  rw [ofValue]
  by_cases range : t.Holds v.toInt
  · rw [if_pos range, Except.ok.injEq, eq_comm, and_iff_right range]
  · rw [if_neg range]
    constructor
    · intro decoded
      cases decoded
    · rintro ⟨inside, -⟩
      exact absurd inside range

/-- An integer outside the range is reported as such. -/
theorem ofValue_integer_of_not_holds (outside : ¬ t.Holds v.toInt) :
    ofValue (.integer t) (.integer v) = .error (.wrongValue (.integer v.toInt) (.integer t)) := by
  rw [ofValue, if_neg outside]

/-- **Integers are decoded exactly,** and values made of what they are decoded into are the same
    integers. -/
theorem ofValue_integer_exact (t : IntType) (width : 0 < t.bits) :
    (∀ v : Int64,
      ((∃ d, ofValue (.integer t) (.integer v) = .ok d) ↔
        t.least ≤ v.toInt ∧ v.toInt ≤ t.greatest) ∧
      (∀ d, ofValue (.integer t) (.integer v) = .ok d ↔
        ∃ w, t.number w = v.toInt ∧ d = .integer (t.number w)) ∧
      (¬ t.Holds v.toInt → ∃ fault, ofValue (.integer t) (.integer v) = .error fault ∧
        fault.message =
          "invalid value: integer `" ++ (Value.integer v).display ++ "`, expected " ++ t.name) ∧
      (t.bits ≤ 64 → ∀ w,
        Value.ofPrimitive (t.primitive w) = .ok (.integer v) ↔ t.number w = v.toInt)) ∧
    (∀ x : UInt64,
      (x.toNat ≤ 2 ^ 63 - 1 →
        ∃ v : Int64, Value.ofPrimitive (.unsigned x) = .ok (.integer v) ∧ v.toInt = x.toNat) ∧
      (2 ^ 63 - 1 < x.toNat → ∃ fault, Value.ofPrimitive (.unsigned x) = .error fault ∧
        fault.message = toString x.toNat ++ " does not fit in an i64")) ∧
    (∀ x : Double, ofValue (.integer t) (.real x) = .error (.wrongType (.real x) (.integer t))) ∧
    ∀ s : String, ofValue (.integer t) (.text s) = .error (.wrongType (.text s) (.integer t)) := by
  refine ⟨?_, ?_, fun x => rfl, fun s => rfl⟩
  · intro v
    refine ⟨?_, ?_, ?_, ?_⟩
    · simp only [ofValue_integer_eq_ok_iff, exists_and_left, exists_eq, and_true]
      rfl
    · intro d
      rw [ofValue_integer_eq_ok_iff, IntType.holds_iff_exists_number width]
      constructor
      · rintro ⟨⟨w, number⟩, rfl⟩
        exact ⟨w, number, congrArg Decoded.integer number.symm⟩
      · rintro ⟨w, number, rfl⟩
        exact ⟨⟨w, number⟩, congrArg Decoded.integer number⟩
    · intro outside
      exact ⟨_, ofValue_integer_of_not_holds outside, DecodeFault.message_wrongValue_integer t v⟩
    · intro narrow w
      exact Value.ofPrimitive_eq_integer_iff narrow
  · intro x
    refine ⟨Value.exists_ofPrimitive_unsigned, ?_⟩
    intro beyond
    rw [Value.ofPrimitive_unsigned, if_neg (by omega)]
    exact ⟨_, rfl, rfl⟩

/-- The least number of eight bits decodes, and so does the word made into a value. The number after
    the greatest is reported, and so is one of 64 bits that with a sign would be negative. -/
theorem ofValue_integer_exact_limits :
    0 < (⟨true, 8⟩ : IntType).bits ∧
    ofValue (.integer ⟨true, 8⟩) (.integer (-128)) = .ok (.integer (-128)) ∧
    Value.ofPrimitive (IntType.primitive ⟨true, 8⟩ 0x80#8) = .ok (.integer (-128)) ∧
    (∃ fault, ofValue (.integer ⟨true, 8⟩) (.integer 128) = .error fault ∧
      fault.message = "invalid value: integer `128`, expected i8") ∧
    ∃ fault, Value.ofPrimitive (.unsigned 0x8000000000000000) = .error fault ∧
      fault.message = "9223372036854775808 does not fit in an i64" := by
  have width : 0 < (⟨true, 8⟩ : IntType).bits := by decide
  obtain ⟨integers, naturals, -, -⟩ := ofValue_integer_exact ⟨true, 8⟩ width
  obtain ⟨-, decoded, -, made⟩ := integers (-128)
  obtain ⟨-, -, outside, -⟩ := integers 128
  obtain ⟨-, beyond⟩ := naturals 0x8000000000000000
  refine ⟨width, ?_, ?_, ?_, ?_⟩
  · exact (decoded _).mpr ⟨0x80#8, rfl, rfl⟩
  · exact (made (by decide) 0x80#8).mpr rfl
  · obtain ⟨fault, reported, message⟩ := outside (by decide)
    exact ⟨fault, reported, message.trans (by decide)⟩
  · obtain ⟨fault, reported, message⟩ := beyond (by decide)
    exact ⟨fault, reported, message.trans (by decide)⟩

end Shape

end FixedColumns
