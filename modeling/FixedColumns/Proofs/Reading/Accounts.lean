import FixedColumns.Proofs.Reading.Composition
import FixedColumns.Proofs.Reading.Rows

/-!
# `FixedColumns.Proofs.Reading.Accounts` — every line is accounted for once

A line that a reading gets past gives a row of the table, or a record that it was left out. `Entry`
is either of them, and `Reader.Accounts` says which entry a line has; there is no line with two
(`Reader.Accounts.unique`). A `Reader.Ledger` has one entry for each of the lines in turn, so that
its records are in the order of their lines (`Reader.Ledger.pairwise_line`) and, together with its
rows, as many as the lines. `Reader.readSourceBy_accounts` is that every reading keeps such a ledger
of the lines before the one that ends it, or of all lines if none does.
-/

namespace FixedColumns

/-! ## Entries -/

/-- What a reading keeps of a line that it gets past: the row of its values, or the record that it
    was left out. -/
inductive Entry where
  | row (values : List Value)
  | record (record : Record)

namespace Entry

/-- The values, of a row. -/
def row? : Entry → Option (List Value)
  | .row values => some values
  | .record _ => none

/-- The record, of a line that was left out. -/
def record? : Entry → Option Record
  | .row _ => none
  | .record own => some own

/-- Entries are rows and records, and none is both. -/
theorem length_rows_add_length_records (entries : List Entry) :
    (entries.filterMap row?).length + (entries.filterMap record?).length = entries.length := by
  induction entries with
  | nil => rfl
  | cons entry entries ih =>
      cases entry with
      | row values =>
          simp only [List.filterMap_cons, row?, record?, List.length_cons]
          omega
      | record own =>
          simp only [List.filterMap_cons, row?, record?, List.length_cons]
          omega

end Entry

namespace Verdict

/-- What is kept of a line that does not end the reading. -/
def kept? (number : Nat) : Verdict → Option Entry
  | .row values => some (.row values)
  | .blank => some (.record (.blank number))
  | .dropped cause => some (.record (.malformed number cause))
  | .malformed .. => none
  | .unreadable => none

theorem row?_eq_bind (v : Verdict) (number : Nat) : v.row? = (v.kept? number).bind Entry.row? := by
  cases v with
  | row values => rfl
  | blank => rfl
  | dropped cause => rfl
  | malformed text cause => rfl
  | unreadable => rfl

theorem record?_eq_bind (v : Verdict) (number : Nat) :
    v.record? number = (v.kept? number).bind Entry.record? := by
  cases v with
  | row values => rfl
  | blank => rfl
  | dropped cause => rfl
  | malformed text cause => rfl
  | unreadable => rfl

/-- A line that does not end the reading has an entry. -/
theorem exists_kept? {v : Verdict} (h : v.ends = false) (number : Nat) :
    ∃ entry, v.kept? number = some entry := by
  cases v with
  | row values => exact ⟨_, rfl⟩
  | blank => exact ⟨_, rfl⟩
  | dropped cause => exact ⟨_, rfl⟩
  | malformed text cause => cases h
  | unreadable => cases h

end Verdict

namespace Reader

variable (r : Reader) (s : Settings)

/-! ## One line -/

/-- The entry that a line has under its number: its values if it converts, and otherwise the record
    that says why it was left out. -/
inductive Accounts (number : Nat) (bytes : List UInt8) : Entry → Prop
  | row {values : List Value} (kept : ¬ s.DropsBlank bytes) (own : r.IsRowOf s bytes values) :
      Accounts number bytes (.row values)
  | blank (left : s.DropsBlank bytes) : Accounts number bytes (.record (.blank number))
  | malformed {text : String} {cause : FieldError} (left : s.dropMalformed = true)
      (fails : r.FailsOn s bytes text cause) :
      Accounts number bytes (.record (.malformed number cause))

/-- The entry of a line is that of the verdict on it. -/
theorem accounts_iff {number : Nat} {line : RawLine} {entry : Entry} :
    r.Accounts s number line.content entry ↔ (r.judge s line).kept? number = some entry := by
  constructor
  · intro h
    cases h with
    | row kept own =>
        rw [r.judge_of_isRowOf s kept own]
        rfl
    | blank left =>
        rw [r.judge_of_dropsBlank s left]
        rfl
    | malformed left fails =>
        rw [r.judge_of_failsOn s fails, if_pos left]
        rfl
  · intro h
    rcases r.kinds s line.content with invalid | left | ⟨text, cause, fails⟩ | ⟨kept, row, own⟩
    · rw [r.judge_of_invalid s invalid] at h
      cases h
    · rw [r.judge_of_dropsBlank s left] at h
      rw [← Option.some.inj h]
      exact .blank left
    · rw [r.judge_of_failsOn s fails] at h
      cases drop : s.dropMalformed with
      | true =>
          rw [drop, if_pos rfl] at h
          rw [← Option.some.inj h]
          exact .malformed drop fails
      | false =>
          rw [drop] at h
          cases h
    · rw [r.judge_of_isRowOf s kept own] at h
      rw [← Option.some.inj h]
      exact .row kept own

variable {r s}

/-- No line has two entries, so none gives both a row and a record. -/
theorem Accounts.unique {number : Nat} {bytes : List UInt8} {entry other : Entry}
    (h : r.Accounts s number bytes entry) (h' : r.Accounts s number bytes other) :
    entry = other := by
  have own : (r.judge s ⟨bytes, .feed⟩).kept? number = some entry := (r.accounts_iff s).mp h
  have own' : (r.judge s ⟨bytes, .feed⟩).kept? number = some other := (r.accounts_iff s).mp h'
  exact Option.some.inj (own.symm.trans own')

/-- A record is about the line that it is the entry of. -/
theorem Accounts.line_eq {number : Nat} {bytes : List UInt8} {record : Record}
    (h : r.Accounts s number bytes (.record record)) : record.line = number := by
  cases h with
  | blank left => rfl
  | malformed left fails => rfl

/-- A line has the record of a blank one exactly if it is left out as blank. -/
theorem accounts_blank_iff {number n : Nat} {bytes : List UInt8} :
    r.Accounts s number bytes (.record (.blank n)) ↔ number = n ∧ s.DropsBlank bytes := by
  constructor
  · intro h
    cases h with
    | blank left => exact ⟨rfl, left⟩
  · rintro ⟨rfl, left⟩
    exact .blank left

/-- A line has the record of an error exactly if its text has the error and such lines are left
    out. -/
theorem accounts_malformed_iff {number n : Nat} {bytes : List UInt8} {cause : FieldError} :
    r.Accounts s number bytes (.record (.malformed n cause)) ↔
      number = n ∧ s.dropMalformed = true ∧ ∃ text, r.FailsOn s bytes text cause := by
  constructor
  · intro h
    cases h with
    | malformed left fails => exact ⟨rfl, left, _, fails⟩
  · rintro ⟨rfl, left, text, fails⟩
    exact .malformed left fails

/-! ## Ledgers -/

variable (r s)

/-- One entry for each of the lines, in order; the first line has the given number. -/
inductive Ledger : Nat → List (List UInt8) → List Entry → Prop
  | nil {number : Nat} : Ledger number [] []
  | cons {number : Nat} {bytes : List UInt8} {more : List (List UInt8)} {entry : Entry}
      {entries : List Entry} (first : r.Accounts s number bytes entry)
      (rest : Ledger (number + 1) more entries) :
      Ledger number (bytes :: more) (entry :: entries)

/-- Lines none of which ends the reading have a ledger of the rows and records that they give. -/
theorem exists_ledger {lines : List RawLine} (h : ∀ line ∈ lines, (r.judge s line).ends = false)
    (number : Nat) :
    ∃ entries, r.Ledger s number (lines.map RawLine.content) entries ∧
      r.rows s lines = entries.filterMap Entry.row? ∧
      r.records s number lines = entries.filterMap Entry.record? := by
  -- Every line takes a number, whichever its entry, so the induction is over the number as well.
  induction lines generalizing number with
  | nil => exact ⟨[], .nil, rfl, rfl⟩
  | cons line more ih =>
      obtain ⟨entry, own⟩ := Verdict.exists_kept? (h line List.mem_cons_self) number
      have go_on : ∀ l ∈ more, (r.judge s l).ends = false := by
        intro l hl
        exact h l (List.mem_cons_of_mem _ hl)
      obtain ⟨entries, ledger, rows, records⟩ := ih go_on (number + 1)
      refine ⟨entry :: entries, .cons ((r.accounts_iff s).mpr own) ledger, ?_, ?_⟩
      · rw [rows_cons, rows, Verdict.row?_eq_bind _ number, own]
        cases entry with
        | row values => rfl
        | record record => rfl
      · rw [records_cons, records, Verdict.record?_eq_bind, own]
        cases entry with
        | row values => rfl
        | record record => rfl

namespace Ledger

variable {r s} {number : Nat} {lines : List (List UInt8)} {entries : List Entry}

theorem length_eq (h : r.Ledger s number lines entries) : entries.length = lines.length := by
  induction h with
  | nil => rfl
  | cons first rest ih => rw [List.length_cons, List.length_cons, ih]

/-- The records are the entries of the lines that were left out, each under its line's number. -/
theorem mem_records_iff (h : r.Ledger s number lines entries) {record : Record} :
    record ∈ entries.filterMap Entry.record? ↔
      ∃ i bytes, lines[i]? = some bytes ∧ r.Accounts s (number + i) bytes (.record record) := by
  rw [List.mem_filterMap]
  induction h with
  | nil =>
      constructor
      · rintro ⟨entry, he, _⟩
        exact absurd he List.not_mem_nil
      · rintro ⟨i, bytes, hi, _⟩
        cases hi
  | @cons number bytes more entry entries first rest ih =>
      constructor
      · rintro ⟨other, ho, own⟩
        rcases List.mem_cons.mp ho with rfl | later
        · have same : other = .record record := by
            cases other with
            | row values => cases own
            | record _ => rw [Option.some.inj own]
          exact ⟨0, bytes, rfl, same ▸ first⟩
        · obtain ⟨i, bytes', hi, accounts⟩ := ih.mp ⟨other, later, own⟩
          rw [Nat.add_right_comm] at accounts
          exact ⟨i + 1, bytes', hi, accounts⟩
      · rintro ⟨i, bytes', hi, accounts⟩
        cases i with
        | zero =>
            -- The first line has one entry only, and so it is this record.
            rw [← Option.some.inj hi] at accounts
            exact ⟨entry, List.mem_cons_self, by rw [first.unique accounts]; rfl⟩
        | succ i =>
            rw [← Nat.add_assoc, Nat.add_right_comm] at accounts
            obtain ⟨other, later, own⟩ := ih.mpr ⟨i, bytes', hi, accounts⟩
            exact ⟨other, List.mem_cons_of_mem _ later, own⟩

/-- The records are in the order of their lines, and there is at most one of each line. -/
theorem pairwise_line (h : r.Ledger s number lines entries) :
    ((entries.filterMap Entry.record?).map Record.line).Pairwise (· < ·) := by
  induction h with
  | nil => exact List.Pairwise.nil
  | @cons number bytes more entry entries first rest ih =>
      cases entry with
      | row values => exact ih
      | record record =>
          refine List.Pairwise.cons ?_ ih
          intro line hl
          obtain ⟨later, hm, rfl⟩ := List.mem_map.mp hl
          obtain ⟨i, _, _, accounts⟩ := rest.mem_records_iff.mp hm
          rw [first.line_eq, accounts.line_eq]
          omega

/-- Lines numbered from 1 have a record of a blank line exactly where one is left out as blank. -/
theorem blank_mem_iff (h : r.Ledger s 1 lines entries) (n : Nat) :
    .blank (n + 1) ∈ entries.filterMap Entry.record? ↔
      ∃ bytes, lines[n]? = some bytes ∧ s.DropsBlank bytes := by
  rw [h.mem_records_iff]
  constructor
  · rintro ⟨i, bytes, hi, accounts⟩
    obtain ⟨place, left⟩ := accounts_blank_iff.mp accounts
    have same : i = n := by omega
    exact ⟨bytes, same ▸ hi, left⟩
  · rintro ⟨bytes, hn, left⟩
    exact ⟨n, bytes, hn, accounts_blank_iff.mpr ⟨Nat.add_comm 1 n, left⟩⟩

/-- They have a record of an error exactly where a line fails with it and such lines are left
    out. -/
theorem malformed_mem_iff (h : r.Ledger s 1 lines entries) (n : Nat) (cause : FieldError) :
    .malformed (n + 1) cause ∈ entries.filterMap Entry.record? ↔
      s.dropMalformed = true ∧
        ∃ bytes text, lines[n]? = some bytes ∧ r.FailsOn s bytes text cause := by
  rw [h.mem_records_iff]
  constructor
  · rintro ⟨i, bytes, hi, accounts⟩
    obtain ⟨place, left, text, fails⟩ := accounts_malformed_iff.mp accounts
    have same : i = n := by omega
    exact ⟨left, bytes, text, same ▸ hi, fails⟩
  · rintro ⟨left, bytes, text, hn, fails⟩
    exact ⟨n, bytes, hn, accounts_malformed_iff.mpr ⟨Nat.add_comm 1 n, left, text, fails⟩⟩

end Ledger

/-! ## A source -/

/-- A reading has a ledger of the lines that it got past: all of them if it gives rows, and
    otherwise those before the line of its error. -/
theorem exists_ledger_readSourceBy (source : List UInt8) :
    ∃ passed entries, passed <+: Source.contents source ∧ r.Ledger s 1 passed entries ∧
      (r.readSourceBy s source).log = entries.filterMap Entry.record? ∧
      (∀ rows, (r.readSourceBy s source).result = .ok rows →
        passed = Source.contents source ∧ rows = entries.filterMap Entry.row?) ∧
      ∀ e, (r.readSourceBy s source).result = .error e →
        passed.length < (Source.contents source).length ∧
          e.line? = some (passed.length + 1) := by
  unfold readSourceBy
  rw [← Source.map_content_lines]
  rcases r.readLines_cases s 1 (Source.lines source) with
    ⟨all, run⟩ | ⟨before, line, after, e, first, run⟩
  · obtain ⟨entries, ledger, rows, records⟩ := r.exists_ledger s all 1
    refine ⟨_, entries, List.prefix_refl _, ledger, by rw [run]; exact records, ?_, ?_⟩
    · intro rows' h
      rw [run] at h
      rw [← Except.ok.inj h]
      exact ⟨rfl, rows⟩
    · intro e h
      rw [run] at h
      cases h
  · obtain ⟨entries, ledger, rows, records⟩ := r.exists_ledger s first.earlier 1
    refine ⟨before.map RawLine.content, entries, ?_, ledger, by rw [run]; exact records, ?_, ?_⟩
    · rw [first.split, List.map_append]
      exact List.prefix_append _ _
    · intro rows' h
      rw [run] at h
      cases h
    · intro e' h
      rw [run] at h
      rw [← Except.error.inj h, Verdict.line?_of_error? first.error, first.split]
      refine ⟨by simp, ?_⟩
      rw [List.length_map, Nat.add_comm]

/-- **Every line is accounted for once.** -/
theorem readSourceBy_accounts (r : Reader) (s : Settings) (source : List UInt8) :
    ∃ passed entries, passed <+: Source.contents source ∧ r.Ledger s 1 passed entries ∧
      (r.readSourceBy s source).log = entries.filterMap Entry.record? ∧
      ((r.readSourceBy s source).log.map Record.line).Pairwise (· < ·) ∧
      (∀ n, .blank (n + 1) ∈ (r.readSourceBy s source).log ↔
        ∃ bytes, passed[n]? = some bytes ∧ s.DropsBlank bytes) ∧
      (∀ n cause, .malformed (n + 1) cause ∈ (r.readSourceBy s source).log ↔
        s.dropMalformed = true ∧
          ∃ bytes text, passed[n]? = some bytes ∧ r.FailsOn s bytes text cause) ∧
      (∀ n cause, (Record.malformed n cause).message = s!"skipping line {n}: {cause.message}") ∧
      (∀ rows, (r.readSourceBy s source).result = .ok rows →
        passed = Source.contents source ∧ rows = entries.filterMap Entry.row? ∧
          rows.length + (r.readSourceBy s source).log.length = (Source.contents source).length) ∧
      ∀ e, (r.readSourceBy s source).result = .error e →
        passed.length < (Source.contents source).length ∧
          e.line? = some (passed.length + 1) := by
  obtain ⟨passed, entries, begins, ledger, log, ok, error⟩ := r.exists_ledger_readSourceBy s source
  refine ⟨passed, entries, begins, ledger, log, ?_, ?_, ?_, ?_, ?_, error⟩
  · rw [log]
    exact ledger.pairwise_line
  · rw [log]
    exact ledger.blank_mem_iff
  · rw [log]
    exact ledger.malformed_mem_iff
  · intro n cause
    rfl
  · intro rows h
    obtain ⟨all, own⟩ := ok rows h
    refine ⟨all, own, ?_⟩
    rw [log, own, Entry.length_rows_add_length_records, ledger.length_eq, all]

/-- A row, a blank line, one that does not convert, and one that ends the reading and has no
    record. -/
example :
    ((⟨"I2", {}, [⟨1, .field .integer, 2, none⟩], _, rfl, rfl⟩ : Reader).readSourceBy
      { dropMalformed := true } [49, 10, 10, 120, 10, 255, 10, 53]).log =
      [.blank 2, .malformed 3 ⟨0, 2, .integer, "x", .integer .invalidDigit⟩] := by
  rfl

end Reader

end FixedColumns
