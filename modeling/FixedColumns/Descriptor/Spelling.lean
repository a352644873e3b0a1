import FixedColumns.Descriptor.Basic

/-!
# `FixedColumns.Descriptor.Spelling` — how a descriptor is written

A descriptor is written as an optional count, the letter of its kind, and an optional width, which a
point and a number of decimals may follow. Numbers are runs of decimal digits, and nothing else may
stand anywhere in the text. `Spelling` holds the parts as they are written. `Spelling.scan` takes a
text apart and says how far it got in one that is no descriptor; `Spelling.render` puts the parts
together again. The main statement, `Spelling.scan_eq_ok_iff`, is that scanning succeeds on just the
texts of well-formed spellings and gives the spelling, so that no text has two.
-/

namespace FixedColumns

/-- The parts of a written descriptor. A part that is absent is empty, but for the decimals. -/
structure Spelling where
  count : List Char
  letter : Char
  kind : Kind
  width : List Char
  decimals : Option (List Char)
deriving DecidableEq, Repr

namespace Spelling

/-- All characters are decimal digits. -/
def AllDigits (cs : List Char) : Prop := ∀ c ∈ cs, c.isDigit = true

instance (cs : List Char) : Decidable (AllDigits cs) :=
  List.decidableBAll (fun c : Char => c.isDigit = true) cs

/-- The parts are digits, the letter is that of the kind, and decimals come with a width and hold a
    digit. -/
structure WellFormed (s : Spelling) : Prop where
  count : AllDigits s.count
  letter : Kind.ofLetter? s.letter = some s.kind
  width : AllDigits s.width
  decimals : ∀ ds, s.decimals = some ds → s.width ≠ [] ∧ ds ≠ [] ∧ AllDigits ds

/-- The text of the decimals, with their point. -/
def renderDecimals : Option (List Char) → List Char
  | none => []
  | some ds => '.' :: ds

/-- The text of a spelling. -/
def render (s : Spelling) : List Char :=
  s.count ++ s.letter :: (s.width ++ renderDecimals s.decimals)

/-- The decimals in what follows a width of `width` digits; or the number of characters up to the
    furthest point that was reached. -/
def scanDecimals (width : List Char) : List Char → Except Nat (Option (List Char))
  | [] => .ok none
  | c :: cs =>
    if c = '.' ∧ width ≠ [] then
      let ds := cs.takeWhile Char.isDigit
      if ds ≠ [] ∧ cs.dropWhile Char.isDigit = [] then .ok (some ds) else .error (1 + ds.length)
    else .error 0

/-- Takes a text apart. A text that is no descriptor gives the number of characters up to the
    furthest point that was reached. -/
def scan (text : List Char) : Except Nat Spelling :=
  let count := text.takeWhile Char.isDigit
  match text.dropWhile Char.isDigit with
  | [] => .error count.length
  | letter :: rest =>
    match Kind.ofLetter? letter with
    | none => .error count.length
    | some kind =>
      let width := rest.takeWhile Char.isDigit
      match scanDecimals width (rest.dropWhile Char.isDigit) with
      | .ok decimals => .ok ⟨count, letter, kind, width, decimals⟩
      | .error further => .error (count.length + 1 + width.length + further)

/-! ## Scanning and rendering are inverse -/

theorem allDigits_takeWhile (cs : List Char) : AllDigits (cs.takeWhile Char.isDigit) := by
  intro c hc
  induction cs with
  | nil => simp at hc
  | cons d ds ih =>
    rw [List.takeWhile_cons] at hc
    split at hc
    · rename_i hd
      rcases List.mem_cons.mp hc with rfl | hm
      · exact hd
      · exact ih hm
    · simp at hc

/-- A run of digits is what is taken in front of a text that does not begin with one. -/
theorem takeWhile_digits_append {ds : List Char} (hd : AllDigits ds) (rest : List Char)
    (hr : ∀ c, rest.head? = some c → c.isDigit = false) :
    (ds ++ rest).takeWhile Char.isDigit = ds ∧ (ds ++ rest).dropWhile Char.isDigit = rest := by
  rw [List.takeWhile_append_of_pos hd, List.dropWhile_append_of_pos hd]
  cases rest with
  | nil => simp
  | cons c cs => simp [hr c rfl]

theorem head?_dropWhile_digit (cs : List Char) :
    ∀ c, (cs.dropWhile Char.isDigit).head? = some c → c.isDigit = false := by
  intro c hc
  have := List.head?_dropWhile_not Char.isDigit cs
  rw [hc] at this
  simpa using this

theorem scanDecimals_renderDecimals {width : List Char} {decimals : Option (List Char)}
    (h : ∀ ds, decimals = some ds → width ≠ [] ∧ ds ≠ [] ∧ AllDigits ds) :
    scanDecimals width (renderDecimals decimals) = .ok decimals := by
  cases decimals with
  | none => rfl
  | some ds =>
    obtain ⟨hw, hne, hds⟩ := h ds rfl
    have parts := takeWhile_digits_append hds [] (by simp)
    simp only [List.append_nil] at parts
    simp [renderDecimals, scanDecimals, parts, hw, hne]

theorem renderDecimals_of_scanDecimals {width text : List Char} {decimals : Option (List Char)}
    (h : scanDecimals width text = .ok decimals) :
    renderDecimals decimals = text ∧
      ∀ ds, decimals = some ds → width ≠ [] ∧ ds ≠ [] ∧ AllDigits ds := by
  cases text with
  | nil =>
    simp only [scanDecimals, Except.ok.injEq] at h
    subst h
    simp [renderDecimals]
  | cons c cs =>
    simp only [scanDecimals] at h
    split at h
    · rename_i hc
      split at h
      · rename_i hds
        simp only [Except.ok.injEq] at h
        subst h
        refine ⟨?_, ?_⟩
        · have whole := List.takeWhile_append_dropWhile (p := Char.isDigit) (l := cs)
          rw [hds.2, List.append_nil] at whole
          rw [renderDecimals, whole, hc.1]
        · intro ds h
          rw [← Option.some.inj h]
          exact ⟨hc.2, hds.1, allDigits_takeWhile cs⟩
      · exact nomatch h
    · exact nomatch h

/-- Scanning the text of a well-formed spelling gives the spelling. -/
theorem scan_render {s : Spelling} (h : s.WellFormed) : scan s.render = .ok s := by
  have first := takeWhile_digits_append h.count
    (s.letter :: (s.width ++ renderDecimals s.decimals))
    (by simpa using Kind.isDigit_eq_false_of_ofLetter? h.letter)
  have second := takeWhile_digits_append h.width (renderDecimals s.decimals) (by
    intro c hc
    cases hs : s.decimals <;> simp [hs, renderDecimals] at hc
    subst hc
    rfl)
  rw [scan, render]
  simp only [first.1, first.2, h.letter, second.1, second.2]
  rw [scanDecimals_renderDecimals h.decimals]

/-- What scanning gives is well-formed, and its text is the one that was scanned. -/
theorem render_of_scan {text : List Char} {s : Spelling} (h : scan text = .ok s) :
    s.WellFormed ∧ s.render = text := by
  rw [scan] at h
  have whole := List.takeWhile_append_dropWhile (p := Char.isDigit) (l := text)
  split at h
  · exact nomatch h
  · rename_i letter rest hrest
    split at h
    · exact nomatch h
    · rename_i kind hkind
      have tail := List.takeWhile_append_dropWhile (p := Char.isDigit) (l := rest)
      dsimp only at h
      split at h
      · rename_i decimals hdecimals
        obtain ⟨hr, hd⟩ := renderDecimals_of_scanDecimals hdecimals
        rw [← Except.ok.inj h]
        refine ⟨⟨allDigits_takeWhile text, hkind, allDigits_takeWhile rest, hd⟩, ?_⟩
        rw [render, hr, tail, ← hrest, whole]
      · exact nomatch h

/-- A text can be scanned exactly if it is the text of a well-formed spelling, and gives that. -/
theorem scan_eq_ok_iff {text : List Char} {s : Spelling} :
    scan text = .ok s ↔ s.WellFormed ∧ s.render = text :=
  ⟨render_of_scan, fun ⟨h, ht⟩ => ht ▸ scan_render h⟩

end Spelling

end FixedColumns
