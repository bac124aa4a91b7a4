import Worksheet.Proofs.Sheet.Reachable
import Worksheet.Proofs.Sheet.Saving

/-!
# Saving and loading a sheet

The records of a sheet name each of its populated cells once, and a cell that is not populated is
blank. So loading the records of a sheet gives its contents, and with them its values and
references, whatever stood in the sheet that they are loaded into.
-/

namespace Worksheet.Sheet

variable {size : Dimensions} {sheet other : Sheet} {contents : Contents}

/-! ### The records of a sheet -/

/-- The cells that the records name are those at the positions of the populated cells. -/
theorem cells_records (sheet : Sheet) :
    sheet.records.map CellRecord.cell = sheet.populated.map Cell.position := by
  rw [records, List.map_map]
  rfl

theorem nodup_records (holds : sheet.document.Holds size contents) :
    (sheet.records.map CellRecord.cell).Nodup := by
  rw [cells_records]
  exact holds.consistent.regular.nodup_positions.sublist (List.filter_sublist.map _)

/-- The records are those of the populated cells. -/
theorem mem_records_iff (holds : sheet.document.Holds size contents) {record : CellRecord} :
    record ∈ sheet.records ↔ ∃ content, sheet.document.grid.get? record.cell = some content ∧
      content.isPopulated = true ∧ record = ⟨record.cell, content.bgColor, content.text⟩ := by
  have regular := holds.consistent.regular
  unfold records populated Grid.populated
  simp only [List.mem_map, List.mem_filter, Array.mem_toList_iff]
  constructor
  · rintro ⟨content, ⟨member, filled⟩, rfl⟩
    exact ⟨content, regular.get?_position member, filled, rfl⟩
  · rintro ⟨content, here, filled, same⟩
    have member := Array.mem_of_getElem? (Grid.get?_eq_some_iff.mp here).2
    refine ⟨content, ⟨member, filled⟩, ?_⟩
    rw [same, regular.position_of_get? here]

theorem inside_of_mem_records (holds : sheet.document.Holds size contents) {record : CellRecord}
    (member : record ∈ sheet.records) : record.cell.Inside size.rows size.columns := by
  obtain ⟨content, here, -⟩ := (mem_records_iff holds).mp member
  have contains := Grid.contains_of_get? here
  rwa [Grid.Contains, holds.rows, holds.columns] at contains

/-- Every cell of a sheet that may be created has a name in A1 notation. -/
theorem named_of_inside (valid : size.Valid) {cell : CellRef}
    (inside : cell.Inside size.rows size.columns) : cell.Named := by
  obtain ⟨-, rows, -, columns⟩ := valid
  refine ⟨Nat.lt_of_lt_of_le inside.2 columns, ?_⟩
  have row := Nat.lt_of_lt_of_le inside.1 rows
  have word : Dimensions.maxRows < CellRef.wordSize := by decide
  omega

/-- Loading the records of a sheet gives its contents. -/
theorem loaded_records (holds : sheet.document.Holds size contents) :
    Contents.loaded size sheet.records = contents := by
  have distinct := nodup_records holds
  funext cell
  unfold Contents.loaded
  split
  next inside =>
    obtain ⟨content, here, written⟩ := holds.exists_get? inside
    rw [written]
    by_cases filled : content.isPopulated = true
    · have member : (⟨cell, content.bgColor, content.text⟩ : CellRecord) ∈ sheet.records :=
        (mem_records_iff holds).mpr ⟨content, here, filled, rfl⟩
      have last := (Contents.lastRecord?_eq_some_iff distinct).mpr ⟨member, rfl⟩
      rw [last]
    · -- A cell that is not populated is blank, and no record names it.
      have unnamed : Contents.lastRecord? sheet.records cell = none := by
        by_contra named
        obtain ⟨record, last⟩ := Option.ne_none_iff_exists'.mp named
        obtain ⟨member, rfl⟩ := (Contents.lastRecord?_eq_some_iff distinct).mp last
        obtain ⟨stored, there, storedFilled, -⟩ := (mem_records_iff holds).mp member
        obtain rfl := Option.some.inj (here.symm.trans there)
        exact filled storedFilled
      simp only [Cell.isPopulated, ne_eq, Bool.or_eq_true, decide_eq_true_eq, not_or,
        not_not] at filled
      rw [unnamed, filled.1, filled.2]
  next outside => exact (holds.contents_of_outside outside).symm

/-! ### What loading leaves -/

/-- Two sheets have the same cells and agree about all that follows from the texts. -/
def Alike (sheet other : Sheet) : Prop :=
  ∀ cell, sheet.cell? cell = other.cell? cell ∧ sheet.Agrees other cell

theorem alike_of_holds (holds : sheet.document.Holds size contents)
    (otherHolds : other.document.Holds size contents) : sheet.Alike other := by
  intro cell
  have same : sheet.cell? cell = other.cell? cell := by
    rw [cell?, cell?, holds.grid_eq otherHolds]
  exact ⟨same, agrees_of_sameTexts holds otherHolds (holds.sameTexts otherHolds) cell⟩

/-- What a cell holds after records have been loaded. -/
def lastWritten (records : List CellRecord) (cell : CellRef) : String × Color :=
  match Contents.lastRecord? records cell with
  | some record => (record.text, record.bgColor)
  | none => ("", Color.default)

/-- A sheet that holds some records and nothing else, and has no history. -/
structure Filled (size : Dimensions) (records : List CellRecord) (sheet : Sheet) : Prop where
  undoStack : sheet.undoStack = []
  redoStack : sheet.redoStack = []
  cells : ∀ cell : CellRef, cell.Inside size.rows size.columns →
    ∃ content, sheet.cell? cell = some content ∧
      (content.text, content.bgColor) = lastWritten records cell ∧
        sheet.document.Settled cell content

theorem filled_loadRecords (holds : sheet.document.Holds size contents)
    {records : List CellRecord}
    (inside : ∀ record ∈ records, record.cell.Inside size.rows size.columns) :
    ((loadRecords records).run sheet).1 = .ok () ∧
      ((loadRecords records).run sheet).2.Filled size records := by
  obtain ⟨next, done, nextHolds, undoNow, redoNow⟩ := run_loadRecords holds inside
  rw [done]
  refine ⟨rfl, undoNow, redoNow, fun cell within => ?_⟩
  obtain ⟨content, here, written⟩ := nextHolds.exists_get? within
  refine ⟨content, here, ?_, nextHolds.consistent.settled here⟩
  rw [Contents.loaded, if_pos within] at written
  unfold lastWritten
  cases last : Contents.lastRecord? records cell <;> simp_all

/-- **Loading and saving.** Records inside a sheet are loaded whatever has been done to the sheet
before, and nothing is left of that. A sheet that is saved and loaded again, into any sheet of its
size, comes back with all its texts, colors, values and references. -/
theorem loading_replaces_and_saving_keeps {new : Sheet} (created : create size = .ok new)
    (actions : List Action) :
    (∀ records : List CellRecord,
      (∀ record ∈ records, record.cell.Inside size.rows size.columns) →
        let outcome := (loadRecords records).run (new.afterAll actions)
        outcome.1 = .ok () ∧ outcome.2.Filled size records ∧
          ∀ others : List Action,
            outcome.2.Alike ((loadRecords records).run (new.afterAll others)).2) ∧
    ∀ others : List Action, ∃ records,
      CellRecord.parse (CellRecord.document (new.afterAll others).records) = .ok records ∧
        let outcome := (loadRecords records).run (new.afterAll actions)
        outcome.1 = .ok () ∧ outcome.2.Alike (new.afterAll others) := by
  obtain ⟨contents, holds⟩ := (sound_of_create created actions).holds
  constructor
  · intro records inside
    obtain ⟨done, filled⟩ := filled_loadRecords holds inside
    refine ⟨done, filled, fun others => ?_⟩
    obtain ⟨otherContents, otherHolds⟩ := (sound_of_create created others).holds
    obtain ⟨next, run, nextHolds, -⟩ := run_loadRecords holds inside
    obtain ⟨otherNext, otherRun, otherNextHolds, -⟩ := run_loadRecords otherHolds inside
    rw [run, otherRun]
    exact alike_of_holds nextHolds otherNextHolds
  · intro others
    obtain ⟨otherContents, otherHolds⟩ := (sound_of_create created others).holds
    have valid := (create_eq_ok_iff.mp created).1
    have inside (record : CellRecord) (member : record ∈ (new.afterAll others).records) :=
      inside_of_mem_records otherHolds member
    refine ⟨(new.afterAll others).records, ?_, ?_⟩
    · exact CellRecord.parse_document fun record member =>
        named_of_inside valid (inside record member)
    · obtain ⟨next, run, nextHolds, -⟩ := run_loadRecords holds inside
      rw [loaded_records otherHolds] at nextHolds
      rw [run]
      exact ⟨rfl, alike_of_holds nextHolds otherHolds⟩

/-- A record is loaded into a sheet with other cells, and the sheet is restored from its records. -/
theorem loading_replaces_one_cell :
    let new := blank ⟨2, 1⟩
    let typed := new.afterAll [.setText ⟨0, 0⟩ "7"]
    let record : CellRecord := ⟨⟨1, 0⟩, Color.default, "=A1"⟩
    create ⟨2, 1⟩ = .ok new ∧ record.cell.Inside 2 1 ∧
      ((loadRecords [record]).run typed).2.Filled ⟨2, 1⟩ [record] ∧
        ∃ records, CellRecord.parse (CellRecord.document typed.records) = .ok records ∧
          ((loadRecords records).run typed).2.Alike typed := by
  intro new typed record
  have created : create ⟨2, 1⟩ = .ok new := rfl
  have inside : record.cell.Inside 2 1 := by decide
  obtain ⟨loads, saves⟩ :=
    loading_replaces_and_saving_keeps created [.setText ⟨0, 0⟩ "7"]
  obtain ⟨records, parsed, -, alike⟩ := saves [.setText ⟨0, 0⟩ "7"]
  refine ⟨created, inside, ?_, records, parsed, alike⟩
  exact (loads [record] fun other member => List.mem_singleton.mp member ▸ inside).2.1

end Worksheet.Sheet
