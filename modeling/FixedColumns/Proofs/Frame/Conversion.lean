import FixedColumns.Frame
import FixedColumns.Proofs.Number.Conversion
import FixedColumns.Proofs.Number.Truncation

/-!
# `FixedColumns.Proofs.Frame.Conversion` — values in columns of another type

A column takes the values of its own type as they are, and others if they can be converted.
`SeriesType.Converts` says what a value becomes and `SeriesType.Refuses` which values a type does not
take, in terms of the numbers that the words stand for; `SeriesType.convert_eq_some_iff` and
`SeriesType.convert_eq_none_iff` say that conversion does just that.
-/

namespace FixedColumns

/-! ## Integers of 64 bits -/

theorem int64?_eq_some_iff {n : Int} {v : Int64} : int64? n = some v ↔ v.toInt = n := by
  unfold int64?
  constructor
  · intro h
    split at h
    · rename_i range
      rw [← Option.some.inj h]
      exact Int64.toInt_ofInt_of_le range.1 (Int.lt_add_one_of_le range.2)
    · cases h
  · rintro rfl
    rw [if_pos ⟨v.minValue_le_toInt, v.toInt_le⟩, Int64.ofInt_toInt]

theorem int64?_eq_none_iff {n : Int} :
    int64? n = none ↔ n < Int64.minValue.toInt ∨ Int64.maxValue.toInt < n := by
  unfold int64?
  split
  · rename_i range
    constructor
    · intro h
      cases h
    · omega
  · rename_i range
    constructor
    · intro
      omega
    · intro
      rfl

namespace SeriesType

/-! ## What becomes of a value -/

/-- The type does not take the value: a number is wanted and the value is a text, or an integer is
    wanted and the value is no number or has no truncation of 64 bits. -/
inductive Refuses : SeriesType → Value → Prop where
  | text {type : SeriesType} (number : type ≠ .text) (s : String) : Refuses type (.text s)
  | nan {x : Double} (h : x.isNaN = true) : Refuses .integer (.real x)
  | infinite {x : Double} (h : x.isInfinite = true) : Refuses .integer (.real x)
  | outOfRange {x : Double} (finite : x.IsFinite)
      (h : truncation x.toRat < Int64.minValue.toInt ∨
        Int64.maxValue.toInt < truncation x.toRat) :
      Refuses .integer (.real x)

/-- What a value becomes in a column of the type. -/
inductive Converts : SeriesType → Value → Value → Prop where
  | integer (n : Int64) : Converts .integer (.integer n) (.integer n)
  | truncated {x : Double} {n : Int64} (finite : x.IsFinite) (h : n.toInt = truncation x.toRat) :
      Converts .integer (.real x) (.integer n)
  | nearest {n : Int64} {x : Double} (sign : x.negative = decide (n.toInt < 0))
      (h : x.IsNearest n.toInt) : Converts .real (.integer n) (.real x)
  | real (x : Double) : Converts .real (.real x) (.real x)
  | text (v : Value) : Converts .text v (.text v.display)

/-! ## Conversion does so -/

variable {type : SeriesType} {v w : Value}

/-- An integer becomes a real number by rounding once. -/
theorem eq_ofInt_iff_nearest {n : Int64} {x : Double} :
    x = .ofInt n.toInt ↔ x.negative = decide (n.toInt < 0) ∧ x.IsNearest n.toInt :=
  Binary.eq_ofInt_toInt_iff BinaryFormat.proper_double BinaryFormat.two_pow_lt_overflow.2 n x

theorem convert_eq_some_of_converts (h : type.Converts v w) : type.convert v = some w := by
  cases h with
  | integer n => rfl
  | truncated finite h =>
      rw [convert, Binary.truncate?_of_isFinite finite, Option.bind_some,
        int64?_eq_some_iff.mpr h, Option.map_some]
  | nearest sign h => rw [convert, eq_ofInt_iff_nearest.mpr ⟨sign, h⟩]
  | real x => rfl
  | text v => rfl

theorem convert_eq_none_of_refuses (h : type.Refuses v) : type.convert v = none := by
  cases h with
  | text number s =>
      cases type with
      | integer => rfl
      | real => rfl
      | text => exact absurd rfl number
  | nan h => rw [convert, Binary.truncate?_of_isNaN h, Option.bind_none, Option.map_none]
  | infinite h => rw [convert, Binary.truncate?_of_isInfinite h, Option.bind_none, Option.map_none]
  | outOfRange finite h =>
      rw [convert, Binary.truncate?_of_isFinite finite, Option.bind_some,
        int64?_eq_none_iff.mpr h, Option.map_none]

/-- A column of integers takes a real number or refuses it. -/
theorem exists_converts_real_or_refuses (x : Double) :
    (∃ w, integer.Converts (.real x) w) ∨ integer.Refuses (.real x) := by
  rcases x.isFinite_or with finite | infinite | nan
  · cases fits : int64? (truncation x.toRat) with
    | some n => exact Or.inl ⟨_, .truncated finite (int64?_eq_some_iff.mp fits)⟩
    | none => exact Or.inr (.outOfRange finite (int64?_eq_none_iff.mp fits))
  · exact Or.inr (.infinite infinite)
  · exact Or.inr (.nan nan)

/-- A column takes a value or refuses it. -/
theorem exists_converts_or_refuses (type : SeriesType) (v : Value) :
    (∃ w, type.Converts v w) ∨ type.Refuses v := by
  cases type with
  | text => exact Or.inl ⟨_, .text v⟩
  | integer =>
      cases v with
      | integer n => exact Or.inl ⟨_, .integer n⟩
      | real x => exact exists_converts_real_or_refuses x
      | text s => exact Or.inr (.text (by decide) s)
  | real =>
      cases v with
      | integer n =>
          obtain ⟨sign, near⟩ := eq_ofInt_iff_nearest.mp (Eq.refl (Binary.ofInt n.toInt : Double))
          exact Or.inl ⟨_, .nearest sign near⟩
      | real x => exact Or.inl ⟨_, .real x⟩
      | text s => exact Or.inr (.text (by decide) s)

/-- A value is converted into what it becomes. -/
theorem convert_eq_some_iff : type.convert v = some w ↔ type.Converts v w := by
  constructor
  · intro h
    -- The value is taken or refused, and conversion is known in either case.
    rcases exists_converts_or_refuses type v with ⟨w', converts⟩ | refuses
    · rw [convert_eq_some_of_converts converts] at h
      exact Option.some.inj h ▸ converts
    · rw [convert_eq_none_of_refuses refuses] at h
      cases h
  · exact convert_eq_some_of_converts

/-- The values that are not converted are those that the type does not take. -/
theorem convert_eq_none_iff : type.convert v = none ↔ type.Refuses v := by
  constructor
  · intro h
    rcases exists_converts_or_refuses type v with ⟨w, converts⟩ | refuses
    · rw [convert_eq_some_of_converts converts] at h
      cases h
    · exact refuses
  · exact convert_eq_none_of_refuses

end SeriesType

end FixedColumns
