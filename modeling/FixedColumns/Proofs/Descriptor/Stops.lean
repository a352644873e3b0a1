import FixedColumns.Proofs.Descriptor.Grammar

/-!
# `FixedColumns.Proofs.Descriptor.Stops` — where scanning a text stops

A text outside the grammar is cut in two at the place that scanning reports. `Spelling.Stops` says
what stands before that place and what follows it, with one constructor for each part of a descriptor
that can be in the way. What stands before can go on to a descriptor (`Spelling.Stops.viable`), and no
descriptor goes on as the text does: its next character settles that (`Spelling.Stops.congr_head`). So
the place is the length of the longest beginning of the text that a descriptor begins with.
-/

namespace FixedColumns

/-- The text is the beginning of a text of the grammar. -/
def Viable (cs : List Char) : Prop := ∃ (p : Parts) (rest : List Char), p.text = cs ++ rest

namespace Spelling

/-- The text does not begin with a digit. -/
def NoDigitFirst (cs : List Char) : Prop := ∀ c, cs.head? = some c → c.isDigit = false

theorem noDigitFirst_nil : NoDigitFirst [] := by
  intro c h
  cases h

/-- Scanning stops between the first text and the second. -/
inductive Stops : List Char → List Char → Prop
  /-- no letter follows the count -/
  | letter {count rest : List Char} (countDigits : AllDigits count) (stop : NoDigitFirst rest)
      (other : ∀ c, rest.head? = some c → Kind.ofLetter? c = none) : Stops count rest
  /-- something follows the width, and it is no point after a width that is there -/
  | width {count width rest : List Char} {letter c : Char} {kind : Kind}
      (countDigits : AllDigits count) (named : Kind.ofLetter? letter = some kind)
      (widthDigits : AllDigits width) (stop : c.isDigit = false)
      (other : ¬ (c = '.' ∧ width ≠ [])) : Stops (count ++ letter :: width) (c :: rest)
  /-- no digits follow the point, or something follows them -/
  | decimals {count width ds rest : List Char} {letter : Char} {kind : Kind}
      (countDigits : AllDigits count) (named : Kind.ofLetter? letter = some kind)
      (widthDigits : AllDigits width) (nonempty : width ≠ []) (digits : AllDigits ds)
      (stop : NoDigitFirst rest) (other : ds = [] ∨ rest ≠ []) :
      Stops (count ++ letter :: (width ++ '.' :: ds)) rest

/-! ## Scanning -/

/-- If the decimals do not scan then the whole text does not, and stops as much further on. -/
theorem scan_eq_error {count width rest : List Char} {letter : Char} {kind : Kind} {further : Nat}
    (countDigits : AllDigits count) (named : Kind.ofLetter? letter = some kind)
    (widthDigits : AllDigits width) (stop : NoDigitFirst rest)
    (decimals : scanDecimals width rest = .error further) :
    scan (count ++ letter :: (width ++ rest)) =
      .error (count.length + 1 + width.length + further) := by
  have first := takeWhile_digits_append countDigits (letter :: (width ++ rest))
    (by simpa using Kind.isDigit_eq_false_of_ofLetter? named)
  have second := takeWhile_digits_append widthDigits rest stop
  rw [scan]
  simp only [first.1, first.2, named, second.1, second.2, decimals]

/-- Scanning reports the place where it stops. -/
theorem Stops.scan_append {before after : List Char} (h : Stops before after) :
    scan (before ++ after) = .error before.length := by
  cases h with
  | letter countDigits stop other =>
      obtain ⟨first, rest⟩ := takeWhile_digits_append countDigits after stop
      rw [scan]
      simp only [first, rest]
      cases after with
      | nil => rfl
      | cons c cs => simp only [other c rfl]
  | @width count width cs letter c kind countDigits named widthDigits stop other =>
      have decimals : scanDecimals width (c :: cs) = .error 0 := if_neg other
      rw [List.append_assoc, List.cons_append, scan_eq_error countDigits named widthDigits
        (by simpa [NoDigitFirst] using stop) decimals, List.length_append, List.length_cons]
      exact congrArg Except.error (by omega)
  | @decimals count width ds _ letter kind countDigits named widthDigits nonempty digits stop
      other =>
      obtain ⟨first, rest⟩ := takeWhile_digits_append digits after stop
      have decimals : scanDecimals width ('.' :: (ds ++ after)) = .error (1 + ds.length) := by
        have unfinished : ¬ (ds ≠ [] ∧ after = []) := by
          rintro ⟨some, none⟩
          exact other.elim some fun more => more none
        rw [scanDecimals, if_pos ⟨rfl, nonempty⟩, first, rest]
        exact if_neg unfinished
      have text : count ++ letter :: (width ++ '.' :: ds) ++ after =
          count ++ letter :: (width ++ '.' :: (ds ++ after)) := by simp
      rw [text, scan_eq_error countDigits named widthDigits (by simp [NoDigitFirst]) decimals]
      simp only [List.length_append, List.length_cons]
      exact congrArg Except.error (by omega)

/-- The decimals of a text that does not scan: what follows the width is no point, or it is one. -/
theorem scanDecimals_cases {width rest : List Char} {further : Nat}
    (h : scanDecimals width rest = .error further) :
    (∃ c cs, rest = c :: cs ∧ ¬ (c = '.' ∧ width ≠ [])) ∨
      ∃ ds after, rest = '.' :: (ds ++ after) ∧ width ≠ [] ∧ AllDigits ds ∧ NoDigitFirst after ∧
        (ds = [] ∨ after ≠ []) := by
  cases rest with
  | nil => cases h
  | cons c cs =>
      by_cases point : c = '.' ∧ width ≠ []
      · right
        obtain ⟨rfl, nonempty⟩ := point
        have whole := List.takeWhile_append_dropWhile (p := Char.isDigit) (l := cs)
        rw [scanDecimals, if_pos ⟨rfl, nonempty⟩] at h
        refine ⟨cs.takeWhile Char.isDigit, cs.dropWhile Char.isDigit, by rw [whole], nonempty,
          allDigits_takeWhile cs, head?_dropWhile_digit cs, ?_⟩
        by_cases none : cs.takeWhile Char.isDigit = []
        · exact .inl none
        · right
          intro finished
          rw [if_pos ⟨none, finished⟩] at h
          cases h
      · exact .inl ⟨c, cs, rfl, point⟩

/-- A text that does not scan is cut in two where scanning stops. -/
theorem exists_stops_of_scan {text : List Char} {stop : Nat} (h : scan text = .error stop) :
    ∃ before after, before ++ after = text ∧ Stops before after := by
  have whole := List.takeWhile_append_dropWhile (p := Char.isDigit) (l := text)
  have digits := allDigits_takeWhile text
  have first := head?_dropWhile_digit text
  simp only [scan] at h
  generalize text.takeWhile Char.isDigit = count at *
  cases hrest : text.dropWhile Char.isDigit with
  | nil =>
      rw [hrest] at whole
      exact ⟨count, [], whole, .letter digits noDigitFirst_nil (by simp)⟩
  | cons letter rest =>
      simp only [hrest] at h first whole
      cases named : Kind.ofLetter? letter with
      | none =>
          refine ⟨count, letter :: rest, whole, .letter digits first ?_⟩
          intro c hc
          rw [← Option.some.inj hc]
          exact named
      | some kind =>
          -- The letter is one of the grammar, so what is in the way follows the width.
          have tail := List.takeWhile_append_dropWhile (p := Char.isDigit) (l := rest)
          have widthDigits := allDigits_takeWhile rest
          have widthStop := head?_dropWhile_digit rest
          simp only [named] at h
          generalize rest.takeWhile Char.isDigit = width at *
          generalize rest.dropWhile Char.isDigit = last at *
          subst tail whole
          cases decimals : scanDecimals width last with
          | ok ds =>
              rw [decimals] at h
              cases h
          | error further =>
              rcases scanDecimals_cases decimals with
                ⟨c, cs, rfl, other⟩ | ⟨ds, after, rfl, nonempty, dsDigits, afterStop, other⟩
              · exact ⟨count ++ letter :: width, c :: cs, by simp,
                  .width digits named widthDigits (widthStop c rfl) other⟩
              · exact ⟨count ++ letter :: (width ++ '.' :: ds), after, by simp,
                  .decimals digits named widthDigits nonempty dsDigits afterStop other⟩

/-! ## The longest viable beginning -/

/-- A spelling of the grammar has viable beginnings. -/
theorem WellFormed.viable {s : Spelling} (h : s.WellFormed) {cs : List Char} (rest : List Char)
    (text : s.render = cs ++ rest) : Viable cs := by
  obtain ⟨p, rfl⟩ := Parts.exists_spelling_eq h
  exact ⟨p, rest, by rw [← text, Parts.render_spelling]⟩

/-- What stands before the place is the beginning of a descriptor. -/
theorem Stops.viable {before after : List Char} (h : Stops before after) : Viable before := by
  cases h with
  | letter countDigits stop other =>
      exact WellFormed.viable (s := ⟨before, 'I', .field .integer, [], none⟩)
        ⟨countDigits, rfl, nofun, nofun⟩ ['I'] rfl
  | @width count width cs letter c kind countDigits named widthDigits stop other =>
      exact WellFormed.viable (s := ⟨count, letter, kind, width, none⟩)
        ⟨countDigits, named, widthDigits, nofun⟩ [] (by simp [render, renderDecimals])
  | @decimals count width ds _ letter kind countDigits named widthDigits nonempty digits stop
      other =>
      have more : AllDigits (ds ++ ['0']) := List.forall_mem_append.mpr ⟨digits, by simp⟩
      refine WellFormed.viable (s := ⟨count, letter, kind, width, some (ds ++ ['0'])⟩)
        ⟨countDigits, named, widthDigits, ?_⟩ ['0'] (by simp [render, renderDecimals])
      intro ds' hds
      rw [← Option.some.inj hds]
      exact ⟨nonempty, by simp, more⟩

/-- Where scanning stops is settled by the next character, whatever follows it. -/
theorem Stops.congr_head {before cs : List Char} {c : Char} (h : Stops before (c :: cs))
    (other : List Char) : Stops before (c :: other) := by
  cases h with
  | letter countDigits stop noLetter => exact .letter countDigits stop noLetter
  | width countDigits named widthDigits stop noPoint =>
      exact .width countDigits named widthDigits stop noPoint
  | decimals countDigits named widthDigits nonempty digits stop unfinished =>
      exact .decimals countDigits named widthDigits nonempty digits stop
        (.inr (List.cons_ne_nil c other))

/-- No descriptor goes on as the text does. -/
theorem Stops.not_viable {before cs : List Char} {c : Char} (h : Stops before (c :: cs))
    (more : List Char) : ¬ Viable (before ++ c :: more) := by
  rintro ⟨p, rest, text⟩
  have scanned := p.scan_text
  rw [text, List.append_assoc, List.cons_append, (h.congr_head (more ++ rest)).scan_append] at scanned
  cases scanned

/-- No longer beginning of the text is viable. -/
theorem Stops.length_le {before after : List Char} (h : Stops before after) {cs : List Char}
    (begins : cs <+: before ++ after) (viable : Viable cs) : cs.length ≤ before.length := by
  apply Nat.le_of_not_lt
  intro longer
  obtain ⟨more, rfl⟩ : before <+: cs :=
    List.prefix_of_prefix_length_le (List.prefix_append before after) begins (by omega)
  cases more with
  | nil => simp at longer
  | cons c more =>
      obtain ⟨rest, rfl⟩ := (List.prefix_append_right_inj before).mp begins
      exact h.not_viable more viable

end Spelling

end FixedColumns
