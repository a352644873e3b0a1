import FixedColumns.Proofs.Format.Pieces
import FixedColumns.Proofs.Layout.Gaps
import Mathlib.Algebra.Group.Nat.Defs

/-!
# `FixedColumns.Proofs.Layout.Words` — laying out in words of 64 bits

A cursor can count columns in words, where sums and products lose what is over 64 bits.
`Layout.WordCursor` goes over descriptors in the steps of `Layout.Cursor`, and stands where it does as
long as the columns that the descriptors take up have a word: `WordCursor.Stands.pass` says this of one
descriptor and `WordCursor.Stands.run` of a list. The bounds that a format's descriptors keep bound
their columns, and `Format.layout_fits_words` says how many descriptors may be sure of a word.
-/

namespace FixedColumns

-- Powers are those of core, whatever other instances are in scope.
attribute [local instance (high)] instPowNat

namespace Layout

/-! ## Laying out in words -/

/-- A field whose columns are words. -/
structure WordColumn where
  start : UInt64
  stop : UInt64
  type : FieldType
deriving DecidableEq, Repr

/-- The field has the columns of the words. -/
structure WordColumn.Denotes (w : WordColumn) (c : Column) : Prop where
  start : w.start.toNat = c.start
  stop : w.stop.toNat = c.stop
  type : w.type = c.type

/-- How far laying out in words has come. -/
structure WordCursor where
  fields : List WordColumn
  column : UInt64
deriving DecidableEq, Repr

namespace WordCursor

/-- Before the first column. -/
def start : WordCursor := ⟨[], 0⟩

/-- Lays out one field at the cursor and moves past it. -/
def place (type : FieldType) (width : UInt64) (w : WordCursor) : WordCursor :=
  let stop := w.column + width
  ⟨w.fields ++ [⟨w.column, stop, type⟩], stop⟩

/-- Lays out fields of one type and width one after the other. -/
def placeMany (type : FieldType) (width : UInt64) : Nat → WordCursor → WordCursor
  | 0, w => w
  | n + 1, w => placeMany type width n (w.place type width)

/-- Goes over the columns of one descriptor. -/
def pass (w : WordCursor) (d : Descriptor) : WordCursor :=
  match d.kind with
  | .skip => ⟨w.fields, w.column + .ofNat d.count * .ofNat d.width⟩
  | .field type => placeMany type (.ofNat d.width) d.count w

/-- Goes over the columns of descriptors. -/
def run (w : WordCursor) (ds : List Descriptor) : WordCursor := ds.foldl pass w

/-- The words are the fields and the column of a cursor that counts in numbers. -/
structure Stands (w : WordCursor) (c : Cursor) : Prop where
  fields : List.Forall₂ WordColumn.Denotes w.fields c.fields
  column : w.column.toNat = c.column

/-! ## Words stand for numbers -/

theorem stands_start : start.Stands Cursor.start := ⟨.nil, rfl⟩

/-- A sum that has a word is the sum of words. -/
theorem toNat_add_ofNat {a : UInt64} {m n : Nat} (ha : a.toNat = m) (fits : m + n < 2 ^ 64) :
    (a + .ofNat n).toNat = m + n := by
  have small : n < 2 ^ 64 := Nat.lt_of_le_of_lt (Nat.le_add_left n m) fits
  rw [UInt64.toNat_add, ha, UInt64.toNat_ofNat_of_lt' small, Nat.mod_eq_of_lt fits]

namespace Stands

variable {w : WordCursor} {c : Cursor}

theorem place (h : w.Stands c) (type : FieldType) {width : Nat}
    (fits : c.column + width < 2 ^ 64) :
    (w.place type (.ofNat width)).Stands (c.place type width) := by
  have column := toNat_add_ofNat h.column fits
  exact ⟨List.rel_append h.fields (.cons ⟨h.column, column, rfl⟩ .nil), column⟩

theorem placeMany (h : w.Stands c) (type : FieldType) {width n : Nat}
    (fits : c.column + n * width < 2 ^ 64) :
    (w.placeMany type (.ofNat width) n).Stands (c.placeMany type width n) := by
  induction n generalizing w c with
  | zero => exact h
  | succ n ih =>
      have next : (c.place type width).column = c.column + width := rfl
      rw [Nat.succ_mul] at fits
      exact ih (h.place type (by omega)) (by omega)

/-- **One descriptor:** the words stay with the numbers if the columns up to its end have a word. -/
theorem pass (h : w.Stands c) {d : Descriptor} (fits : c.column + d.span < 2 ^ 64) :
    (w.pass d).Stands (c.pass d) := by
  unfold WordCursor.pass Cursor.pass
  cases d.kind with
  | skip =>
      refine ⟨h.fields, ?_⟩
      rw [← UInt64.ofNat_mul]
      exact toNat_add_ofNat h.column fits
  | field type => exact h.placeMany type fits

/-- **A list of descriptors:** the words stay with the numbers if all columns have a word. -/
theorem run (h : w.Stands c) {ds : List Descriptor} (fits : c.column + spanOf ds < 2 ^ 64) :
    (w.run ds).Stands (c.run ds) := by
  induction ds generalizing w c with
  | nil => exact h
  | cons d ds ih =>
      rw [spanOf_cons] at fits
      have moved : (c.pass d).column = c.column + d.span := by rw [Cursor.pass_eq]
      exact ih (h.pass (by omega)) (by omega)

end Stands

end WordCursor

/-! ## Columns on the way -/

/-- The cursor is before the column at some time while it goes over descriptors: between two
    descriptors, or between two fields of one. -/
inductive Cursor.Visits (ds : List Descriptor) : Nat → Prop
  | between (i : Nat) : Visits ds (Cursor.start.run (ds.take i)).column
  | within {i j : Nat} {d : Descriptor} {type : FieldType} (here : ds[i]? = some d)
      (kind : d.kind = .field type) (copy : j ≤ d.count) :
      Visits ds (placeMany type d.width j (Cursor.start.run (ds.take i))).column

theorem column_run_take (ds : List Descriptor) (i : Nat) :
    (Cursor.start.run (ds.take i)).column = spanOf (ds.take i) := by
  rw [Cursor.run_eq]
  rfl

/-- The cursor does not go beyond the columns that the descriptors take up. -/
theorem Cursor.Visits.le_spanOf {ds : List Descriptor} {column : Nat}
    (h : Cursor.Visits ds column) : column ≤ spanOf ds := by
  cases h with
  | between i =>
      have whole : spanOf ds = spanOf (ds.take i) + spanOf (ds.drop i) := by
        rw [← spanOf_append, List.take_append_drop]
      rw [column_run_take]
      omega
  | @within i j d type here kind copy =>
      have whole : spanOf ds = spanOf (ds.take i) + (d.span + spanOf (ds.drop (i + 1))) := by
        rw [← spanOf_cons, ← spanOf_append, ← eq_take_append_cons here]
      have passed : j * d.width ≤ d.span := Nat.mul_le_mul_right d.width copy
      rw [placeMany_eq, column_run_take]
      show spanOf (ds.take i) + j * d.width ≤ spanOf ds
      omega

theorem span_le_spanOf {ds : List Descriptor} {d : Descriptor} (h : d ∈ ds) :
    d.span ≤ spanOf ds := by
  obtain ⟨before, after, rfl⟩ := List.append_of_mem h
  rw [spanOf_append, spanOf_cons]
  omega

end Layout

/-! ## How many descriptors have words for their columns -/

/-- The greatest number of columns that a descriptor of a format covers. -/
theorem Descriptor.Readable.span_le {d : Descriptor} (h : d.Readable) :
    d.span ≤ 100000 * (2 ^ 32 - 1) := Nat.mul_le_mul h.count h.width

/-- Descriptors cover no more columns than as many of the greatest would. -/
theorem Layout.spanOf_le {ds : List Descriptor} (h : ∀ d ∈ ds, d.Readable) :
    spanOf ds ≤ ds.length * (100000 * (2 ^ 32 - 1)) := by
  induction ds with
  | nil => exact Nat.zero_le _
  | cons d ds ih =>
      have first := (h d List.mem_cons_self).span_le
      have more := ih fun e he => h e (List.mem_cons_of_mem d he)
      rw [spanOf_cons, List.length_cons, Nat.succ_mul]
      omega

namespace Format

/-- A format has a descriptor for each text between its commas. -/
theorem length_of_parse {ts : List (List Char)} {format : List Char} {ds : List Descriptor}
    (tokens : BetweenCommas ts format) (parsed : parse format = .ok ds) : ds.length = ts.length := by
  rw [betweenCommas_iff.mp tokens]
  exact (mapM_eq_ok_iff.mp parsed).length_eq.symm

/-- **Words are wide enough for the columns of a format.** -/
theorem layout_fits_words {ts : List (List Char)} {format : List Char} {ds : List Descriptor}
    (tokens : BetweenCommas ts format) (parsed : parse format = .ok ds) :
    (Layout.ofDescriptors ds).width ≤ ts.length * (100000 * (2 ^ 32 - 1)) ∧
    (ts.length ≤ 42949 →
      (∀ d ∈ ds, d.count * d.width < 2 ^ 64) ∧
      (∀ column, Layout.Cursor.Visits ds column → column < 2 ^ 64) ∧
      (∀ c ∈ (Layout.ofDescriptors ds).columns, c.start < 2 ^ 64 ∧ c.stop < 2 ^ 64) ∧
      (Layout.ofDescriptors ds).width < 2 ^ 64 ∧
      (Layout.WordCursor.start.run ds).Stands
        ⟨(Layout.ofDescriptors ds).columns, (Layout.ofDescriptors ds).width⟩) := by
  have bound : Layout.spanOf ds ≤ ts.length * (100000 * (2 ^ 32 - 1)) := by
    rw [← length_of_parse tokens parsed]
    exact Layout.spanOf_le (readable_of_parse parsed)
  refine ⟨bound, ?_⟩
  intro few
  have fits : Layout.spanOf ds < 2 ^ 64 := by omega
  refine ⟨?_, ?_, ?_, fits, ?_⟩
  · intro d hd
    exact Nat.lt_of_le_of_lt (Layout.span_le_spanOf hd) fits
  · intro column visited
    exact Nat.lt_of_le_of_lt visited.le_spanOf fits
  · intro c hc
    have stop : c.stop ≤ 0 + Layout.spanOf ds := (Layout.bounds_of_mem_columnsFrom hc).2
    have start : c.start ≤ c.stop := Nat.le_add_right ..
    omega
  · rw [← Layout.Cursor.run_eq]
    apply Layout.WordCursor.stands_start.run
    show 0 + Layout.spanOf ds < 2 ^ 64
    omega

/-- The widest descriptor there is, a skip with a width that does not count, and fields without
    columns. -/
theorem layout_fits_words_widest :
    ∃ ts ds, BetweenCommas ts "100000A4294967295,7x9,2E".toList ∧
      parse "100000A4294967295,7x9,2E".toList = .ok ds ∧ ts.length = 3 ∧
      (Layout.ofDescriptors ds).width = 100000 * (2 ^ 32 - 1) + 7 ∧
      (Layout.WordCursor.start.run ds).Stands
        ⟨(Layout.ofDescriptors ds).columns, 100000 * (2 ^ 32 - 1) + 7⟩ := by
  have tokens : BetweenCommas ["100000A4294967295".toList, "7x9".toList, "2E".toList]
      "100000A4294967295,7x9,2E".toList := betweenCommas_iff.mpr rfl
  have parsed : parse "100000A4294967295,7x9,2E".toList =
      .ok [⟨100000, .field .text, 4294967295, none⟩, ⟨7, .skip, 1, none⟩,
        ⟨2, .field (.real .exponential), 0, none⟩] := rfl
  obtain ⟨-, fits⟩ := layout_fits_words tokens parsed
  obtain ⟨-, -, -, -, stands⟩ := fits (by decide)
  exact ⟨_, _, tokens, parsed, rfl, rfl, stands⟩

end Format

end FixedColumns
