import FixedColumns.Proofs.Number.Nearest

/-!
# `FixedColumns.Proofs.Number.Conversion` — words of other numbers

An integer becomes a word, and a word of one format becomes one of another, by rounding its exact
value once. The result has the sign of the value and is nearest to it, and there is only one such word
(`Binary.IsNearest.unique`). Of a word that is finite only the size matters: from the end of the range
on it becomes infinite, and up to half a unit it becomes zero (`Binary.convert_of_isFinite`).
-/

namespace FixedColumns

-- Powers are those of core, whatever other instances are in scope.
attribute [local instance (high)] instPowNat

/-! ## The two ends of the range -/

namespace BinaryFormat

variable {f : BinaryFormat}

theorem proper_single : single.Proper := ⟨by decide, by decide⟩

/-- The 32-bit format ends half a step of its greatest exponent before `2 ^ 128`. -/
theorem overflow_single : single.overflow = 2 ^ 128 - 2 ^ 103 :=
  overflow_eq (by decide +kernel)

/-- Both formats reach beyond the integers of 64 bits. -/
theorem two_pow_lt_overflow : 2 ^ 63 < single.overflow ∧ 2 ^ 63 < double.overflow := by
  have narrow : 2 ^ 63 + 2 ^ 103 < 2 ^ 128 := by decide +kernel
  have wide : 2 ^ 63 + 2 ^ 970 < 2 ^ 1024 := by decide +kernel
  rw [overflow_single, overflow_double, lt_sub_iff_add_lt, lt_sub_iff_add_lt]
  exact ⟨by exact_mod_cast narrow, by exact_mod_cast wide⟩

theorem unitsOf_one (hf : f.Proper) : f.unitsOf 1 = 1 := by
  simpa using unitsOf_fields 0 (Nat.one_lt_two_pow (Nat.ne_of_gt hf.fraction))

/-- Up to half a unit everything is nearest to zero. -/
theorem nearest_zero_iff (hf : f.Proper) {v : ℚ} : f.Nearest v 0 ↔ 2 * v ≤ 1 := by
  have zero : (f.unitsOf 0 : ℚ) = 0 := by exact_mod_cast f.unitsOf_zero
  have one : (f.unitsOf 1 : ℚ) = 1 := by exact_mod_cast unitsOf_one hf
  constructor
  · intro nearest
    linarith [nearest.above 1 Nat.one_pos]
  · intro half
    refine ⟨?_, fun other below => absurd below (Nat.not_lt_zero other), fun _ _ _ => rfl⟩
    intro other above
    have size : (f.unitsOf 1 : ℚ) ≤ f.unitsOf other :=
      Nat.cast_le.mpr (unitsOf_strictMono.monotone above)
    linarith

/-- Up to half a unit everything rounds to zero, and nothing else does. -/
theorem round_eq_zero_iff (hf : f.Proper) (num : Nat) {den : Nat} (hden : 0 < den) :
    f.round num den = 0 ↔ (num / den : ℚ) ≤ 1 / 2 ^ (f.scale + 1) := by
  have nearest := nearest_roundFreely hf.fraction num hden
  have half : (num / den : ℚ) ≤ 1 / 2 ^ (f.scale + 1) ↔ 2 * (num / den * 2 ^ f.scale : ℚ) ≤ 1 := by
    rw [le_div_iff₀ (by positivity), pow_succ]
    constructor <;> intro h <;> linarith
  rw [half, ← nearest_zero_iff hf, round_eq_min]
  have pos := infinity_pos hf
  constructor
  · intro zero
    have word : f.roundFreely num den = 0 := by omega
    exact word ▸ nearest
  · intro zero
    rw [nearest.unique zero]
    exact Nat.min_zero _

end BinaryFormat

namespace Binary

variable {f g : BinaryFormat}

/-! ## One word -/

/-- A word is its sign and its other bits. -/
theorem eq_of_magnitude_eq {x y : Binary f} (sign : x.negative = y.negative)
    (size : x.magnitude = y.magnitude) : x = y := by
  rw [← x.ofParts_negative_magnitude, sign, size, y.ofParts_negative_magnitude]

theorem abs_toRat (x : Binary f) : |x.toRat| = x.units / 2 ^ f.scale := by
  have size : (0 : ℚ) ≤ x.units / 2 ^ f.scale := by positivity
  unfold toRat
  cases x.negative with
  | false => rw [if_neg Bool.false_ne_true, one_mul, abs_of_nonneg size]
  | true => rw [if_pos rfl, neg_one_mul, abs_neg, abs_of_nonneg size]

/-- Of words of one sign the greater one is further from zero. -/
theorem toRat_between {x y : Binary f} (sign : x.negative = y.negative)
    (size : x.magnitude < y.magnitude) :
    if x.negative then y.toRat < x.toRat else x.toRat < y.toRat := by
  have units : (x.units : ℚ) < y.units := Nat.cast_lt.mpr (BinaryFormat.unitsOf_strictMono size)
  have steps : (x.units / 2 ^ f.scale : ℚ) < y.units / 2 ^ f.scale := by gcongr
  unfold toRat
  rw [← sign]
  cases x.negative with
  | false => simpa using steps
  | true => simpa using steps

/-- What lies between two numbers is nearer to their middle. -/
theorem abs_sub_lt_of_between {a b c q : ℚ} (middle : |a - q| = |b - q|)
    (between : a < c ∧ c < b ∨ b < c ∧ c < a) : |c - q| < |a - q| := by
  rcases abs_eq_abs.mp middle with same | opposite
  · rcases between with ⟨_, _⟩ | ⟨_, _⟩ <;> linarith
  · rw [abs_lt]
    rcases between with ⟨above, below⟩ | ⟨above, below⟩
    · rw [abs_of_neg (by linarith)]
      constructor <;> linarith
    · rw [abs_of_pos (by linarith)]
      constructor <;> linarith

/-- **There is one nearest word** of a sign. -/
theorem IsNearest.unique (hf : f.Proper) {x y : Binary f} {q : ℚ} (hx : x.IsNearest q)
    (hy : y.IsNearest q) (sign : x.negative = y.negative) : x = y := by
  -- Two nearest words would both be even, and the word after the lower one would be nearer.
  have lower {x y : Binary f} (hx : x.IsNearest q) (hy : y.IsNearest q)
      (sign : x.negative = y.negative) : ¬ x.magnitude < y.magnitude := by
    intro lt
    have order := toRat_between sign lt
    have different : y.toRat ≠ x.toRat := by
      intro same
      rw [same] at order
      split at order <;> exact lt_irrefl _ order
    have middle : |x.toRat - q| = |y.toRat - q| :=
      le_antisymm (hx.nearest y hy.finite) (hy.nearest x hx.finite)
    have evenX := hx.even y hy.finite different middle.symm
    have evenY := hy.even x hx.finite different.symm middle
    rw [significand_mod_two hf] at evenX evenY
    have bound : x.magnitude + 1 < y.magnitude := by omega
    have finite : x.magnitude + 1 < f.infinity := Nat.lt_trans bound hy.finite
    have bits : x.magnitude + 1 < 2 ^ f.magnitudeBits := Nat.lt_trans finite f.infinity_lt
    let z : Binary f := ofParts x.negative (x.magnitude + 1)
    have sizeZ : z.magnitude = x.magnitude + 1 := magnitude_ofParts _ bits
    have signZ : z.negative = x.negative := negative_ofParts _ bits
    have first := toRat_between signZ.symm (by omega)
    have second := toRat_between (signZ.trans sign) (by omega)
    rw [signZ] at second
    have nearer : |z.toRat - q| < |x.toRat - q| := by
      apply abs_sub_lt_of_between middle
      cases hs : x.negative with
      | false =>
          simp only [hs, Bool.false_eq_true, if_false] at first second
          exact .inl ⟨first, second⟩
      | true =>
          simp only [hs, if_true] at first second
          exact .inr ⟨second, first⟩
    exact absurd (hx.nearest z (by unfold IsFinite; omega)) (not_le.mpr nearer)
  exact eq_of_magnitude_eq sign
    (Nat.le_antisymm (Nat.not_lt.mp (lower hy hx sign.symm)) (Nat.not_lt.mp (lower hx hy sign)))

/-! ## Integers -/

/-- An integer within the range becomes the one word that has its sign and is nearest to it. -/
theorem eq_ofInt_iff (hf : f.Proper) {n : Int} (range : |(n : ℚ)| < f.overflow) {x : Binary f} :
    x = ofInt n ↔ x.negative = decide (n < 0) ∧ x.IsNearest n := by
  obtain ⟨sign, -, nearest⟩ := ofRatio_spec hf (decide (n < 0)) n.natAbs Nat.one_pos
  have size : ((n.natAbs : ℚ) / (1 : Nat)) = |(n : ℚ)| := by
    rw [Nat.cast_one, div_one, Nat.cast_natAbs, Int.cast_abs]
  have value : (if decide (n < 0) then -1 else 1) * |(n : ℚ)| = n := by
    by_cases below : n < 0
    · rw [if_pos (decide_eq_true below), abs_of_neg (Int.cast_lt_zero.mpr below), neg_one_mul,
        neg_neg]
    · have nonneg : (0 : ℚ) ≤ n := Int.cast_nonneg_iff.mpr (not_lt.mp below)
      rw [if_neg (by simpa using below), abs_of_nonneg nonneg, one_mul]
  rw [size, value] at nearest
  constructor
  · rintro rfl
    exact ⟨sign, nearest range⟩
  · rintro ⟨same, near⟩
    exact near.unique hf (nearest range) (same.trans sign.symm)

theorem abs_toInt_le (v : Int64) : |(v.toInt : ℚ)| ≤ 2 ^ 63 := by
  have least : (-2 ^ 63 : Int) ≤ v.toInt := v.le_toInt
  have greatest : v.toInt ≤ (2 ^ 63 : Int) := Int.le_of_lt v.toInt_lt
  rw [abs_le]
  exact ⟨by exact_mod_cast least, by exact_mod_cast greatest⟩

/-- An integer of 64 bits becomes the one word that has its sign and is nearest to it. -/
theorem eq_ofInt_toInt_iff (hf : f.Proper) (reaches : 2 ^ 63 < f.overflow) (v : Int64)
    (x : Binary f) :
    x = ofInt v.toInt ↔ x.negative = decide (v.toInt < 0) ∧ x.IsNearest v.toInt :=
  eq_ofInt_iff hf (lt_of_le_of_lt (abs_toInt_le v) reaches)

/-! ## Words of another format -/

theorem convert_of_isNaN {x : Binary f} (h : x.isNaN = true) : (x.convert : Binary g) = nan := by
  rw [convert, if_pos h]

theorem convert_of_isInfinite {x : Binary f} (h : x.isInfinite = true) :
    (x.convert : Binary g) = infinity x.negative := by
  have number : ¬ x.isNaN = true := by
    rw [isNaN, decide_eq_true_iff, beq_iff_eq.mp h]
    exact Nat.lt_irrefl _
  rw [convert, if_neg number, if_pos h]

/-- **A finite word** becomes the one word that has its sign and is nearest to it; from the end of the
    range on it becomes infinite, and it becomes zero up to half a unit. -/
theorem convert_of_isFinite (hg : g.Proper) {x : Binary f} (finite : x.IsFinite) :
    (x.convert : Binary g).negative = x.negative ∧
    (g.overflow ≤ |x.toRat| → (x.convert : Binary g) = infinity x.negative) ∧
    (|x.toRat| < g.overflow → (x.convert : Binary g).IsNearest x.toRat) ∧
    ((x.convert : Binary g).isZero = true ↔ |x.toRat| ≤ 1 / 2 ^ (g.scale + 1)) := by
  have rounded : (x.convert : Binary g) = ofRatio x.negative x.units (2 ^ f.scale) := by
    rw [convert, finite.isNaN_eq_false, finite.isInfinite_eq_false, if_neg Bool.false_ne_true,
      if_neg Bool.false_ne_true]
  have scale : 0 < 2 ^ f.scale := Nat.two_pow_pos _
  have size : |x.toRat| = x.units / (2 ^ f.scale : Nat) := by
    rw [abs_toRat]
    push_cast
    rfl
  have value : x.toRat = (if x.negative then -1 else 1) * (x.units / (2 ^ f.scale : Nat)) := by
    unfold toRat
    push_cast
    rfl
  have bits : g.round x.units (2 ^ f.scale) < 2 ^ g.magnitudeBits :=
    Nat.lt_of_le_of_lt (g.round_le_infinity _ _) g.infinity_lt
  obtain ⟨sign, infinite, nearest⟩ := ofRatio_spec hg x.negative x.units scale
  rw [rounded, size]
  refine ⟨sign, infinite, ?_, ?_⟩
  · rw [value]
    exact nearest
  · rw [isZero, beq_iff_eq, ofRatio, magnitude_ofParts _ bits,
      BinaryFormat.round_eq_zero_iff hg _ scale]

end Binary

end FixedColumns
