import FixedColumns.Proofs.Reading.Rows
import FixedColumns.Proofs.Reading.Runs
import FixedColumns.Proofs.Source.Validity

/-!
# `FixedColumns.Proofs.Reading.Unreadable` — which sources can be read

A line is unreadable exactly if it is not valid UTF-8, whatever the settings and the format. Where
lines that do not convert are left out, no other line ends the reading. So such a reading gives rows
exactly if the source as a whole is valid, `Reader.readSourceBy_iff_validUTF8`, and otherwise fails
at the first line that is not.
-/

namespace FixedColumns

theorem not_validUTF8_iff {bytes : List UInt8} : ¬ ValidUTF8 bytes ↔ InvalidLine bytes := by
  unfold ValidUTF8 InvalidLine
  exact not_exists

/-- Only a line that is unreadable has an error that says so. -/
theorem Verdict.eq_unreadable_of_error? {v : Verdict} {number k : Nat}
    (h : v.error? number = some (.unreadable k)) : v = .unreadable := by
  rcases error_cases h with ⟨text, cause, _, other⟩ | ⟨same, _⟩
  · exact nomatch other
  · exact same

namespace Reader

variable {r : Reader} {s : Settings} {line : RawLine}

/-! ## One line -/

/-- A line is unreadable exactly if it is not valid UTF-8. -/
theorem judge_eq_unreadable_iff : r.judge s line = .unreadable ↔ ¬ ValidUTF8 line.content := by
  rw [not_validUTF8_iff]
  constructor
  · intro h
    rcases r.kinds s line.content with hi | hb | hbad | ⟨hb, row, hrow⟩
    · exact hi
    · rw [r.judge_of_dropsBlank s hb] at h
      exact nomatch h
    · rcases r.judge_of_badLine s hbad with ⟨cause, hj⟩ | ⟨text, cause, hj⟩
      · rw [hj] at h
        exact nomatch h
      · rw [hj] at h
        exact nomatch h
    · rw [r.judge_of_isRowOf s hb hrow] at h
      exact nomatch h
  · exact r.judge_of_invalid s

/-- Where lines that do not convert are left out, every line that is valid UTF-8 is gone past. -/
theorem ends_eq_false_iff_of_dropMalformed (r : Reader) (drop : s.dropMalformed = true) :
    (r.judge s line).ends = false ↔ ValidUTF8 line.content := by
  constructor
  · intro go_on
    apply Classical.byContradiction
    intro invalid
    rw [judge_eq_unreadable_iff.mpr invalid] at go_on
    exact nomatch go_on
  · rintro ⟨text, encodes⟩
    apply r.not_ends_of_not_stops
    rintro (invalid | ⟨_, keep⟩)
    · exact invalid text encodes
    · rw [drop] at keep
      exact nomatch keep

/-! ## All lines -/

/-- The line that ends a run over the lines of a source has its place among their contents. -/
theorem FirstEnd.getElem?_contents {source : List UInt8} {number : Nat}
    {before after : List RawLine} {e : ReadingError}
    (h : r.FirstEnd s number (Source.lines source) before line after e) :
    (Source.contents source)[before.length]? = some line.content ∧
      ∀ j < before.length, ∀ bytes, (Source.contents source)[j]? = some bytes →
        ∃ l ∈ before, l.content = bytes := by
  rw [← Source.map_content_lines, h.split, List.map_append, List.map_cons]
  have size : (before.map RawLine.content).length = before.length := List.length_map ..
  constructor
  · rw [List.getElem?_append_right (by omega), size, Nat.sub_self]
    rfl
  · intro j hj bytes hb
    rw [List.getElem?_append_left (by omega)] at hb
    exact List.mem_map.mp (List.mem_of_getElem? hb)

/-- Reading a source that is valid UTF-8 comes to no unreadable line. -/
theorem result_ne_unreadable {source : List UInt8} (valid : ValidUTF8 source) (k : Nat) :
    (r.readSourceBy s source).result ≠ .error (.unreadable k) := by
  intro h
  obtain ⟨before, line, after, first, _⟩ := readLines_of_result_error h
  have unreadable := Verdict.eq_unreadable_of_error? first.error
  have readable := (Source.validUTF8_iff_lines source).mp valid line first.mem
  exact judge_eq_unreadable_iff.mp unreadable readable

/-- Where lines that do not convert are left out, reading fails at the first line that is not valid,
    if there is one. -/
theorem readSourceBy_cases_of_dropMalformed (drop : s.dropMalformed = true)
    (source : List UInt8) :
    (ValidUTF8 source ∧ ∃ rows, (r.readSourceBy s source).result = .ok rows) ∨
    (¬ ValidUTF8 source ∧ ∃ k bytes, (Source.contents source)[k]? = some bytes ∧
      ¬ ValidUTF8 bytes ∧
      (∀ j < k, ∀ other, (Source.contents source)[j]? = some other → ValidUTF8 other) ∧
      (r.readSourceBy s source).result = .error (.unreadable (k + 1))) := by
  rw [Source.validUTF8_iff_lines]
  rcases r.readLines_cases s 1 (Source.lines source) with
    ⟨all, run⟩ | ⟨before, line, after, e, first, run⟩
  · refine Or.inl ⟨?_, r.rows s (Source.lines source), congrArg Reading.result run⟩
    intro line hl
    exact (r.ends_eq_false_iff_of_dropMalformed drop).mp (all line hl)
  · have invalid : ¬ ValidUTF8 line.content := by
      rw [← r.ends_eq_false_iff_of_dropMalformed drop, Verdict.ends_of_error? first.error]
      exact Bool.noConfusion
    obtain ⟨own, earlier⟩ := first.getElem?_contents
    refine Or.inr ⟨fun valid => invalid (valid line first.mem), before.length, line.content, own,
      invalid, ?_, ?_⟩
    · intro j hj other ho
      obtain ⟨l, hl, rfl⟩ := earlier j hj other ho
      exact (r.ends_eq_false_iff_of_dropMalformed drop).mp (first.earlier l hl)
    · have error := first.error
      rw [judge_eq_unreadable_iff.mpr invalid] at error
      unfold readSourceBy
      rw [run, ← Option.some.inj error, Nat.add_comm]

/-- **Which sources can be read.** -/
theorem readSourceBy_iff_validUTF8 (r : Reader) (s : Settings) (source : List UInt8) :
    (ValidUTF8 source → ∀ k, (r.readSourceBy s source).result ≠ .error (.unreadable k)) ∧
    (s.dropMalformed = true →
      ((∃ rows, (r.readSourceBy s source).result = .ok rows) ↔ ValidUTF8 source) ∧
      (¬ ValidUTF8 source → ∃ k bytes, (Source.contents source)[k]? = some bytes ∧
        ¬ ValidUTF8 bytes ∧
        (∀ j < k, ∀ other, (Source.contents source)[j]? = some other → ValidUTF8 other) ∧
        (r.readSourceBy s source).result = .error (.unreadable (k + 1)) ∧
        (ReadingError.unreadable (k + 1)).note = s!"line {k + 1}")) := by
  constructor
  · intro valid k
    exact result_ne_unreadable valid k
  · intro drop
    rcases readSourceBy_cases_of_dropMalformed (r := r) drop source with
      ⟨valid, rows, ok⟩ | ⟨invalid, k, bytes, own, notValid, earlier, error⟩
    · refine ⟨⟨fun _ => valid, fun _ => ⟨rows, ok⟩⟩, ?_⟩
      intro invalid
      exact absurd valid invalid
    · refine ⟨⟨?_, fun valid => absurd valid invalid⟩, ?_⟩
      · rintro ⟨rows, ok⟩
        rw [ok] at error
        exact nomatch error
      · intro _
        exact ⟨k, bytes, own, notValid, earlier, error, rfl⟩

/-- A character of two bytes, which is read as no integer, and the two bytes with a line feed
    between them, which are no characters. -/
theorem readSourceBy_iff_validUTF8_two_bytes :
    ∃ r, ofFormat "I2" {} = .ok r ∧ ValidUTF8 [195, 169, 10] ∧
      (∀ k, (r.readSourceBy {} [195, 169, 10]).result ≠ .error (.unreadable k)) ∧
      (∃ rows, (r.readSourceBy { dropMalformed := true } [195, 169, 10]).result = .ok rows) ∧
      ¬ ValidUTF8 [49, 10, 195, 10, 169] ∧
      ∃ k bytes, (Source.contents [49, 10, 195, 10, 169])[k]? = some bytes ∧
        ¬ ValidUTF8 bytes ∧
        (∀ j < k, ∀ other, (Source.contents [49, 10, 195, 10, 169])[j]? = some other →
          ValidUTF8 other) ∧
        (r.readSourceBy { dropMalformed := true } [49, 10, 195, 10, 169]).result =
          .error (.unreadable (k + 1)) ∧
        (ReadingError.unreadable (k + 1)).note = s!"line {k + 1}" := by
  let r : Reader := ⟨"I2", {}, [⟨1, .field .integer, 2, none⟩], _, rfl, rfl⟩
  have valid : ValidUTF8 [195, 169, 10] := ⟨"é\n", rfl⟩
  have invalid : ¬ ValidUTF8 [49, 10, 195, 10, 169] := by
    have none : (⟨[49, 10, 195, 10, 169], .endOfSource⟩ : RawLine).text? = none := rfl
    exact not_validUTF8_iff.mpr (RawLine.text?_eq_none_iff.mp none)
  refine ⟨r, rfl, valid, ?_, ?_, invalid, ?_⟩
  · exact (readSourceBy_iff_validUTF8 r {} [195, 169, 10]).1 valid
  · have gives := (readSourceBy_iff_validUTF8 r { dropMalformed := true } [195, 169, 10]).2 rfl
    exact gives.1.mpr valid
  · exact ((readSourceBy_iff_validUTF8 r { dropMalformed := true } [49, 10, 195, 10, 169]).2
      rfl).2 invalid

end Reader

end FixedColumns
