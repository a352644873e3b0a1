import FixedColumns.Proofs.Reading.Verdicts
import FixedColumns.Proofs.Traversal

/-!
# `FixedColumns.Proofs.Reader.Trimming` — trimming changes texts only

Whether texts are trimmed is looked at when the text of a field becomes its value, and nowhere else:
a number is trimmed in any case, and a text converts in any case. So with trimming a field reads as it
does without, but for a text that loses its blanks (`Column.read_true`); and this goes on to lines, to
scores and, by the verdicts on its lines, to every source. `Reader.trimming_changes_texts` compares
the two settings on all three.
-/

namespace FixedColumns

/-- The settings with texts trimmed or not. -/
def Settings.trimming (s : Settings) (trimText : Bool) : Settings := { s with trimText }

/-- The reader with texts trimmed or not. -/
def Reader.trimming (r : Reader) (trimText : Bool) : Reader :=
  { r with settings := r.settings.trimming trimText }

/-! ## Fields -/

/-- Trimming changes a value, and only if it is a text; what does not convert stays so. -/
theorem FieldType.convert_true (type : FieldType) (text : String) :
    type.convert true text = (type.convert false text).map Value.trimText := by
  cases type with
  | integer =>
      unfold convert
      cases readInteger text.toList with
      | error fault => rfl
      | ok n => rfl
  | real form =>
      unfold convert
      cases readReal text.toList with
      | error fault => rfl
      | ok x => rfl
  | text => rfl

/-- A field reads alike with trimming and without, but for a text. -/
theorem Column.read_true (c : Column) (line : String) :
    c.read true line = (c.read false line).map Value.trimText := by
  unfold read
  rw [FieldType.convert_true]
  cases c.type.convert false (c.slice line) with
  | error fault => rfl
  | ok v => rfl

theorem Column.isOk_read_true (c : Column) (line : String) :
    (c.read true line).isOk = (c.read false line).isOk := by
  rw [read_true, isOk_map]

/-- Any number of fields read alike with trimming and without, but for texts. -/
theorem Column.mapM_read_true (cs : List Column) (line : String) :
    cs.mapM (fun c : Column => c.read true line) =
      (cs.mapM fun c : Column => c.read false line).map (List.map Value.trimText) := by
  rw [← mapM_map_result]
  exact congrArg cs.mapM (funext fun c => c.read_true line)

theorem Column.countP_read_true (cs : List Column) (line : String) :
    cs.countP (fun c => (c.read true line).isOk) =
      cs.countP fun c => (c.read false line).isOk :=
  congrArg cs.countP (funext fun c => c.isOk_read_true line)

/-! ## Lines and sources -/

namespace Reader

/-- A source reads alike with trimming and without, but for the texts of its rows, whatever the
    reader's own settings say. -/
theorem readSourceBy_trimming (r : Reader) (own own' : Bool) (s : Settings) (source : List UInt8) :
    ((r.trimming own).readSourceBy (s.trimming true) source).map id id =
      ((r.trimming own').readSourceBy (s.trimming false) source).map
        (List.map Value.trimText) id := by
  apply readSourceBy_map
  intro line
  apply judge_map
  · rfl
  · rfl
  · intro text
    rw [Except.map_id]
    exact congrArg (Except.mapError id) (Column.mapM_read_true r.columns text)

/-- **Trimming changes texts only.** -/
theorem trimming_changes_texts :
    (∀ (cs : List Column) (line : String),
      cs.mapM (fun c : Column => c.read true line) =
        (cs.mapM fun c : Column => c.read false line).map (List.map Value.trimText) ∧
      cs.countP (fun c => (c.read true line).isOk) =
        cs.countP fun c => (c.read false line).isOk) ∧
    (∀ (r : Reader) (line : String),
      (r.trimming true).read line =
        ((r.trimming false).read line).map (List.map Value.trimText) ∧
      (r.trimming true).score line = (r.trimming false).score line) ∧
    ∀ (r : Reader) (own own' : Bool) (s : Settings) (source : List UInt8),
      ((r.trimming own).readSourceBy (s.trimming true) source).result =
        ((r.trimming own').readSourceBy (s.trimming false) source).result.map
          (List.map (List.map Value.trimText)) ∧
      ((r.trimming own).readSourceBy (s.trimming true) source).log =
        ((r.trimming own').readSourceBy (s.trimming false) source).log ∧
      ((r.trimming own).readSourceBy (s.trimming true) source).rest =
        ((r.trimming own').readSourceBy (s.trimming false) source).rest := by
  refine ⟨?_, ?_, ?_⟩
  · intro cs line
    exact ⟨Column.mapM_read_true cs line, Column.countP_read_true cs line⟩
  · intro r line
    exact ⟨Column.mapM_read_true r.columns line, Column.countP_read_true r.columns line⟩
  · intro r own own' s source
    have readings := r.readSourceBy_trimming own own' s source
    rw [Reading.map_id_right, Reading.map_id_right, Reading.mapRows_id] at readings
    exact Reading.mk.inj readings

end Reader

end FixedColumns
