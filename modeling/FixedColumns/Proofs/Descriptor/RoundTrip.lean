import FixedColumns.Proofs.Descriptor.Grammar

/-!
# `FixedColumns.Proofs.Descriptor.RoundTrip` — writing a descriptor and reading it again

The text of a descriptor has parts with every number written out, so what it reads as is a matter of
the bounds on those numbers. `Descriptor.parse_render` says that it reads as `Descriptor.normal`,
the descriptor without the decimals of a skip, and `Descriptor.readable_of_parse` that what was read
once is within the bounds.
-/

namespace FixedColumns

/-- The decimal digits of a number. -/
def numeral (n : Nat) : Digits where
  chars := Nat.toDigits 10 n
  nonempty := Nat.toDigits_ne_nil
  digits := fun _ hc => Nat.isDigit_of_mem_toDigits (by decide) (by decide) hc

@[simp] theorem value_numeral (n : Nat) : (numeral n).value = n := Nat.ofDigitChars_ten_toDigits

theorem Kind.letter_mem_letters (k : Kind) : (k.letter, k) ∈ Kind.letters :=
  Kind.ofLetter?_eq_some_iff.mp (Kind.ofLetter?_letter k)

theorem Kind.isSkip_eq_false_iff {k : Kind} : k.isSkip = false ↔ k ≠ .skip := by
  cases k with
  | skip => simp [Kind.isSkip]
  | field type => simp [Kind.isSkip]

namespace Descriptor

/-- The numbers of the descriptor are within the bounds that reading keeps, and a skip moves one
    column at a time. -/
structure Readable (d : Descriptor) : Prop where
  count : d.count ≤ maxCount
  width : d.width ≤ maxNumber
  decimals : ∀ n, d.decimals = some n → n ≤ maxNumber
  skip : d.kind.isSkip = true → d.width = 1

/-- The descriptor without the decimals of a skip. -/
def normal (d : Descriptor) : Descriptor :=
  if d.kind.isSkip then { d with decimals := none } else d

/-- The parts of a descriptor's text. -/
def parts (d : Descriptor) : Parts where
  count := some (numeral d.count)
  letter := d.kind.letter
  kind := d.kind
  named := d.kind.letter_mem_letters
  size := if d.kind.isSkip then none else some (numeral d.width, d.decimals.map numeral)

/-! ## What makes no difference -/

@[simp] theorem count_normal (d : Descriptor) : d.normal.count = d.count := by
  unfold normal
  split
  · rfl
  · rfl

@[simp] theorem kind_normal (d : Descriptor) : d.normal.kind = d.kind := by
  unfold normal
  split
  · rfl
  · rfl

@[simp] theorem width_normal (d : Descriptor) : d.normal.width = d.width := by
  unfold normal
  split
  · rfl
  · rfl

/-- The text of a skip has no decimals in any case. -/
@[simp] theorem render_normal (d : Descriptor) : d.normal.render = d.render := by
  unfold normal
  split
  · rename_i h
    simp [render, spelling, h]
  · rfl

/-! ## Reading what was written -/

theorem text_parts (d : Descriptor) : d.parts.text = d.render := by
  rw [← Parts.render_spelling]
  unfold render spelling Parts.spelling parts
  cases hk : d.kind.isSkip with
  | true => rfl
  | false =>
      cases d.decimals with
      | none => rfl
      | some n => rfl

theorem forall_numbers_parts {d : Descriptor} (h : d.Readable) :
    ∀ number ∈ d.parts.numbers, number.2.value ≤ maxNumber := by
  have count : d.count ≤ maxNumber := Nat.le_trans h.count (by decide)
  intro number hn
  unfold Parts.numbers Parts.width? Parts.decimals? parts at hn
  -- A skip has no number written but its count; a field has a width, and decimals if it has them.
  cases hk : d.kind.isSkip with
  | true =>
      simp [hk] at hn
      subst hn
      simpa using count
  | false =>
      cases hd : d.decimals with
      | none =>
          simp [hk, hd] at hn
          rcases hn with rfl | rfl
          · simpa using count
          · simpa using h.width
      | some n =>
          simp [hk, hd] at hn
          rcases hn with rfl | rfl | rfl
          · simpa using count
          · simpa using h.width
          · simpa using h.decimals n hd

theorem descriptor_parts {d : Descriptor} (h : d.Readable) : d.parts.descriptor = d.normal := by
  have inverse : Digits.value ∘ numeral = id := funext value_numeral
  unfold Parts.descriptor Parts.countValue Parts.widthValue Parts.decimalsValue Parts.width?
    Parts.decimals? parts normal
  cases hk : d.kind.isSkip with
  | true => simp [h.skip hk]
  | false => simp [inverse]

/-- Reading the text of a descriptor gives the descriptor, but for the decimals of a skip. -/
theorem parse_render {d : Descriptor} (h : d.Readable) : parse d.render = .ok d.normal := by
  have limit : ¬ maxCount < d.parts.countValue := by
    show ¬ maxCount < (numeral d.count).value
    rw [value_numeral]
    exact Nat.not_lt.mpr h.count
  rw [← text_parts, Parts.parse_text (forall_numbers_parts h), if_neg limit, descriptor_parts h]

/-- What is read as a descriptor can be written and read again. -/
theorem readable_of_parse {cs : List Char} {d : Descriptor} (h : parse cs = .ok d) :
    d.Readable := by
  obtain ⟨p, _, within, limit, rfl⟩ := exists_parts_of_parse h
  refine ⟨limit, ?_, ?_, ?_⟩
  · show p.widthValue ≤ maxNumber
    unfold Parts.widthValue
    split
    · decide
    · cases hw : p.width? with
      | none => exact Nat.zero_le _
      | some ds => exact within (.width, ds) (by simp [Parts.numbers, hw])
  · intro n hn
    obtain ⟨ds, hd, rfl⟩ := Option.map_eq_some_iff.mp hn
    exact within (.decimals, ds) (by simp [Parts.numbers, hd])
  · -- Whatever width is written, a skip that was read is one column wide.
    intro hk
    exact if_pos hk

/-- Reading the text of a descriptor of fields gives the descriptor. -/
theorem parse_render_of_field {d : Descriptor} (h : d.Readable) (hk : d.kind.isSkip = false) :
    parse d.render = .ok d := by
  rw [parse_render h, normal, hk]
  rfl

end Descriptor

end FixedColumns
