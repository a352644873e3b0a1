/-!
# `FixedColumns.Text.Blank` — white space and trimming

A character is blank if it has the Unicode property White_Space, which 25 code points have. `trim`
drops the blanks at both ends of a text. The lemmas say that trimming a blank text leaves nothing,
that blanks put at either end make no difference to it, and that what is left has no blank end; and
there is only one text that is left in this way, `trim_eq_iff`.
-/

namespace FixedColumns.Text

/-! ## Blank characters -/

/-- The code points with the property White_Space, as closed ranges in ascending order. -/
def blankRanges : List (Nat × Nat) :=
  [(0x09, 0x0D), (0x20, 0x20), (0x85, 0x85), (0xA0, 0xA0), (0x1680, 0x1680), (0x2000, 0x200A),
   (0x2028, 0x2029), (0x202F, 0x202F), (0x205F, 0x205F), (0x3000, 0x3000)]

/-- Whether a code point lies in one of the closed ranges. -/
def inRanges (ranges : List (Nat × Nat)) (code : Nat) : Bool :=
  ranges.any fun range => range.1 ≤ code && code ≤ range.2

/-- A character is blank if it has the property White_Space. -/
def isBlank (c : Char) : Bool := inRanges blankRanges c.toNat

/-- Every character of the text is blank; the empty text is. -/
def AllBlank (cs : List Char) : Prop := ∀ c ∈ cs, isBlank c = true

/-- No character of the text is blank. -/
def NoBlank (cs : List Char) : Prop := ∀ c ∈ cs, isBlank c = false

instance (cs : List Char) : Decidable (AllBlank cs) :=
  List.decidableBAll (fun c : Char => isBlank c = true) cs

instance (cs : List Char) : Decidable (NoBlank cs) :=
  List.decidableBAll (fun c : Char => isBlank c = false) cs

theorem allBlank_nil : AllBlank [] := fun _ h => absurd h List.not_mem_nil

/-- Whatever is left of a blank text is blank. -/
theorem AllBlank.sublist {bs cs : List Char} (h : AllBlank cs) (left : bs.Sublist cs) :
    AllBlank bs :=
  fun c hc => h c (left.subset hc)

/-- No digit is blank. -/
theorem isBlank_eq_false_of_isDigit {c : Char} (h : c.isDigit = true) : isBlank c = false := by
  obtain ⟨lower, upper⟩ : 48 ≤ c.toNat ∧ c.toNat ≤ 57 := Char.isDigit_iff_toNat.mp h
  simp [isBlank, inRanges, blankRanges]
  omega

/-! ## Trimming -/

/-- The text without the blanks at its start. -/
def trimStart (cs : List Char) : List Char := cs.dropWhile isBlank

/-- The text without the blanks at its end. -/
def trimEnd (cs : List Char) : List Char := (cs.reverse.dropWhile isBlank).reverse

/-- The text without the blanks at its two ends. -/
def trim (cs : List Char) : List Char := trimEnd (trimStart cs)

theorem trimStart_eq_nil_iff {cs : List Char} : trimStart cs = [] ↔ AllBlank cs := by
  induction cs with
  | nil => simp [trimStart, AllBlank]
  | cons c cs ih =>
    simp only [trimStart, AllBlank] at ih
    by_cases hc : isBlank c = true <;> simp [trimStart, AllBlank, hc, ih]

theorem trimStart_append_of_allBlank {bs : List Char} (h : AllBlank bs) (cs : List Char) :
    trimStart (bs ++ cs) = trimStart cs :=
  List.dropWhile_append_of_pos h

theorem trimEnd_append_of_allBlank {bs : List Char} (h : AllBlank bs) (cs : List Char) :
    trimEnd (cs ++ bs) = trimEnd cs := by
  have hr : ∀ c ∈ bs.reverse, isBlank c = true := fun c hc => h c (List.mem_reverse.mp hc)
  simp [trimEnd, List.reverse_append, List.dropWhile_append_of_pos hr]

/-- What is trimmed at the end of a text are blanks. -/
theorem exists_eq_trimEnd_append (cs : List Char) : ∃ bs, AllBlank bs ∧ cs = trimEnd cs ++ bs := by
  refine ⟨(cs.reverse.takeWhile isBlank).reverse, ?_, ?_⟩
  · intro c hc
    exact List.all_eq_true.mp List.all_takeWhile c (List.mem_reverse.mp hc)
  · rw [trimEnd, ← List.reverse_append, List.takeWhile_append_dropWhile, List.reverse_reverse]

/-- No blank stands first after trimming at the start. -/
theorem isBlank_head?_trimStart {cs : List Char} {c : Char} (h : (trimStart cs).head? = some c) :
    isBlank c = false := by
  have first := List.head?_dropWhile_not isBlank cs
  rw [trimStart] at h
  rw [h] at first
  exact first

/-- What trimming leaves does not begin with a blank. -/
theorem isBlank_head?_trim {cs : List Char} {c : Char} (h : (trim cs).head? = some c) :
    isBlank c = false := by
  obtain ⟨bs, -, split⟩ := exists_eq_trimEnd_append (trimStart cs)
  have first : (trimStart cs).head? = some c := by
    rw [trim] at h
    rw [split, List.head?_append, h]
    rfl
  exact isBlank_head?_trimStart first

/-- What trimming leaves does not end with a blank. -/
theorem isBlank_getLast?_trim {cs : List Char} {c : Char} (h : (trim cs).getLast? = some c) :
    isBlank c = false := by
  rw [trim, trimEnd, List.getLast?_reverse] at h
  exact isBlank_head?_trimStart h

/-- Blanks before a text make no difference to what trimming leaves. -/
theorem trim_blank_append {bs : List Char} (h : AllBlank bs) (cs : List Char) :
    trim (bs ++ cs) = trim cs := by
  rw [trim, trimStart_append_of_allBlank h, trim]

/-- Nothing is left of a text exactly if it is blank. -/
theorem trim_eq_nil_iff {cs : List Char} : trim cs = [] ↔ AllBlank cs := by
  constructor
  · intro h c hc
    cases hs : trimStart cs with
    | nil => exact trimStart_eq_nil_iff.mp hs c hc
    | cons d ds =>
      have hd : isBlank d = false := isBlank_head?_trimStart (by rw [hs]; rfl)
      rw [trim, hs, trimEnd, List.reverse_eq_nil_iff] at h
      exact absurd (trimStart_eq_nil_iff.mp h d (by simp)) (by simp [hd])
  · intro h
    rw [trim, trimStart_eq_nil_iff.mpr h]
    rfl

/-- Blanks after a text make no difference to what trimming leaves. -/
theorem trim_append_blank {bs : List Char} (h : AllBlank bs) (cs : List Char) :
    trim (cs ++ bs) = trim cs := by
  by_cases hc : AllBlank cs
  · have both : AllBlank (cs ++ bs) := fun c hm =>
      (List.mem_append.mp hm).elim (hc c) (h c)
    rw [trim_eq_nil_iff.mpr both, trim_eq_nil_iff.mpr hc]
  · have : trimStart (cs ++ bs) = trimStart cs ++ bs := by
      rw [trimStart, List.dropWhile_append, if_neg]
      · rfl
      · intro he
        exact hc (trimStart_eq_nil_iff.mp (List.isEmpty_iff.mp he))
    rw [trim, this, trimEnd_append_of_allBlank h, trim]

/-- A text without a blank at either end is left as it is. -/
theorem trim_eq_self {cs : List Char} (first : ∀ c, cs.head? = some c → isBlank c = false)
    (last : ∀ c, cs.getLast? = some c → isBlank c = false) : trim cs = cs := by
  have drop : ∀ ds : List Char, (∀ c, ds.head? = some c → isBlank c = false) →
      ds.dropWhile isBlank = ds := by
    intro ds hd
    cases ds with
    | nil => rfl
    | cons d ds => simp [List.dropWhile, hd d rfl]
  rw [trim, trimStart, drop cs first, trimEnd, drop cs.reverse (by simpa using last),
    List.reverse_reverse]

/-- **What trimming leaves** is the text between blanks that has no blank at either end. -/
theorem trim_eq_iff {cs ds : List Char} :
    trim cs = ds ↔
      (∃ before after, AllBlank before ∧ AllBlank after ∧ cs = before ++ ds ++ after) ∧
      (∀ c, ds.head? = some c → isBlank c = false) ∧
      ∀ c, ds.getLast? = some c → isBlank c = false := by
  constructor
  · rintro rfl
    obtain ⟨after, blank, split⟩ := exists_eq_trimEnd_append (trimStart cs)
    refine ⟨⟨cs.takeWhile isBlank, after, ?_, blank, ?_⟩, ?_, ?_⟩
    · intro c hc
      exact List.all_eq_true.mp List.all_takeWhile c hc
    · rw [List.append_assoc, trim, ← split, trimStart, List.takeWhile_append_dropWhile]
    · exact fun c hc => isBlank_head?_trim hc
    · exact fun c hc => isBlank_getLast?_trim hc
  · rintro ⟨⟨before, after, hb, ha, rfl⟩, first, last⟩
    rw [trim_append_blank ha, trim_blank_append hb]
    exact trim_eq_self first last

/-- Blanks around a text that has none are what trimming drops. -/
theorem trim_surrounded {before after : List Char} (hb : AllBlank before) (ha : AllBlank after)
    {cs : List Char} (h : NoBlank cs) : trim (before ++ cs ++ after) = cs :=
  trim_eq_iff.mpr ⟨⟨before, after, hb, ha, rfl⟩,
    fun c hc => h c (List.mem_of_mem_head? hc), fun c hc => h c (List.mem_of_getLast? hc)⟩

/-- Trimming leaves every character that is not blank. -/
theorem mem_trim_iff {c : Char} (h : isBlank c = false) {cs : List Char} : c ∈ trim cs ↔ c ∈ cs := by
  have drop : ∀ ds : List Char, c ∈ ds.dropWhile isBlank ↔ c ∈ ds := by
    intro ds
    constructor
    · exact fun hc => (List.dropWhile_sublist isBlank).subset hc
    · intro hc
      rw [← List.takeWhile_append_dropWhile (p := isBlank) (l := ds), List.mem_append] at hc
      refine hc.resolve_left ?_
      intro taken
      have blank := List.all_eq_true.mp List.all_takeWhile c taken
      rw [h] at blank
      cases blank
  rw [trim, trimEnd, List.mem_reverse, drop, List.mem_reverse, trimStart, drop]

/-- The text of a string without the blanks at its two ends. -/
def trimmed (s : String) : String := String.ofList (trim s.toList)

end FixedColumns.Text
