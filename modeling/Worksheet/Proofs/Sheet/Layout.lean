import Worksheet.Proofs.Graph.EdgeSet
import Worksheet.Proofs.Sheet.Propagation
import Worksheet.Proofs.Sheet.RoundTrip

/-!
# The layout of a sheet

Whatever has been done to a sheet, the offsets that are computed from positions lie in the array of
its cells and lead to the cells with these positions, and a position outside has no offset. No
number on the way is too large for a word of 64 bits, since a sheet has few enough cells and nothing
is computed for a position outside.

So nothing that refers to a cell leads nowhere. Both ends of an edge are cells of the sheet, a
recalculation finds every cell that it has queued, and the records of the sheet name its populated
cells in the order of the array, which is row by row.
-/

namespace Worksheet

/-- Positions and offsets in the array belong together, for a grid of some size. The number of cells
fits in a word, and with it every offset. A position inside has an offset of its own, where the cell
with this position stands, and a position outside has none, however large its row and its column
are. -/
structure Grid.LaidOut (size : Dimensions) (grid : Grid) : Prop where
  fits : size.rows * size.columns < 2 ^ 64
  count : grid.cells.size = size.rows * size.columns
  inside : ∀ cell : CellRef, cell.Inside size.rows size.columns → ∃ offset content,
    grid.offset? cell = some offset ∧ offset = cell.row * size.columns + cell.column ∧
      offset < grid.cells.size ∧ grid.cells[offset]? = some content ∧ content.position = cell
  distinct : ∀ cell other offset, grid.offset? cell = some offset →
    grid.offset? other = some offset → cell = other
  outside : ∀ cell : CellRef, ¬ cell.Inside size.rows size.columns → grid.offset? cell = none

theorem Dimensions.Valid.rows_mul_columns_lt {size : Dimensions} (valid : size.Valid) :
    size.rows * size.columns < 2 ^ 64 := by
  obtain ⟨-, rows, -, columns⟩ := valid
  calc size.rows * size.columns
    _ ≤ maxRows * CellRef.maxColumns := Nat.mul_le_mul rows columns
    _ < 2 ^ 64 := by decide

/-- Along the offsets of a grid the positions go row by row. -/
theorem CellRef.before_of_offset_lt {columns : Nat} {cell other : CellRef}
    (within : other.column < columns)
    (less : cell.row * columns + cell.column < other.row * columns + other.column) :
    cell.Before other := by
  rcases Nat.lt_trichotomy cell.row other.row with above | level | below
  · exact .inl above
  · rw [level] at less
    exact .inr ⟨level, by omega⟩
  · have further : (other.row + 1) * columns ≤ cell.row * columns := Nat.mul_le_mul_right _ below
    rw [Nat.add_mul, Nat.one_mul] at further
    omega

namespace Grid.Regular

variable {grid : Grid} {size : Dimensions}

theorem laidOut (regular : grid.Regular) (rows : grid.rows = size.rows)
    (columns : grid.columns = size.columns) (valid : size.Valid) : grid.LaidOut size where
  fits := valid.rows_mul_columns_lt
  count := by rw [regular.size, rows, columns]
  inside cell inside := by
    have contains : grid.Contains cell := by rwa [Contains, rows, columns]
    obtain ⟨content, here⟩ := regular.exists_get? contains
    have stored := (get?_eq_some_iff.mp here).2
    refine ⟨_, content, offset?_of_contains contains, by rw [columns], ?_, stored,
      regular.position_of_get? here⟩
    rw [regular.size]
    exact offset_lt contains
  distinct _ _ _ here there := offset?_inj here there
  outside cell outside := if_neg (by rwa [Contains, rows, columns])

theorem pairwise_positions (regular : grid.Regular) :
    (grid.cells.toList.map Cell.position).Pairwise CellRef.Before := by
  have offsets := List.pairwise_lt_range (n := grid.cells.size)
  rw [← regular.offsets_positions, List.pairwise_map] at offsets
  have within : ∀ cell ∈ grid.cells.toList.map Cell.position, cell.column < grid.columns := by
    intro cell member
    obtain ⟨content, stands, rfl⟩ := List.mem_map.mp member
    exact (contains_of_get? (regular.get?_position (Array.mem_toList_iff.mp stands))).2
  exact offsets.imp_of_mem fun _ there less =>
    CellRef.before_of_offset_lt (within _ there) less

end Grid.Regular

namespace Sheet

variable {size : Dimensions} {sheet : Sheet} {contents : Contents}

theorem inside_of_reads (holds : sheet.document.Holds size contents) {reader target : CellRef}
    (reads : sheet.document.graph.Reads reader target) :
    reader.Inside size.rows size.columns ∧ target.Inside size.rows size.columns := by
  have contained :=
    Grid.contains_of_reads ((holds.consistent.wired.reads reader target).mp reads)
  rwa [Grid.Contains, Grid.Contains, holds.rows, holds.columns] at contained

/-- While a recalculation goes on, the layout stays and the cells of the queue are there. -/
theorem laidOut_iterate (holds : sheet.document.Holds size contents) (valid : size.Valid)
    {cell : CellRef} (inside : cell.Inside size.rows size.columns) (text : String)
    {reachAll : Bool} {steps : Nat} :
    let edited := (sheet.document.retype cell text).document
    let walk := (Walk.step reachAll)^[steps] (Walk.start edited cell)
    walk.document.grid.LaidOut size ∧
      ∀ reader ∈ walk.queue, ∃ content, walk.document.grid.get? reader = some content := by
  intro edited walk
  obtain ⟨former, here, -⟩ := holds.exists_get? inside
  obtain ⟨content, retyped, -, -, regular⟩ := Document.retyped_retype holds.consistent here text
  have walks : Walk.Valid edited.grid cell reachAll walk :=
    (Walk.valid_start regular retyped.wired).iterate steps
  have rows : walk.document.grid.rows = size.rows := by
    rw [← walks.same.rows, retyped.rows, holds.rows]
  have columns : walk.document.grid.columns = size.columns := by
    rw [← walks.same.columns, retyped.columns, holds.columns]
  exact ⟨walks.sound.regular.laidOut rows columns valid, fun reader queued =>
    walks.sound.regular.exists_get? (walks.sound.inside reader queued)⟩

/-- The records of a sheet name its populated cells, row by row. -/
theorem lists_records (holds : sheet.document.Holds size contents) :
    DependencyGraph.Lists (sheet.records.map CellRecord.cell) fun cell =>
      ∃ content, sheet.cell? cell = some content ∧
        (content.text ≠ "" ∨ content.bgColor ≠ Color.default) := by
  constructor
  · rw [cells_records]
    exact holds.consistent.regular.pairwise_positions.sublist (List.filter_sublist.map _)
  · intro cell
    have populated (content : Cell) : content.isPopulated = true ↔
        content.text ≠ "" ∨ content.bgColor ≠ Color.default := by
      simp [Cell.isPopulated]
    simp only [List.mem_map, mem_records_iff holds, populated]
    constructor
    · rintro ⟨record, ⟨content, here, filled, -⟩, rfl⟩
      exact ⟨content, here, filled⟩
    · rintro ⟨content, here, filled⟩
      exact ⟨⟨cell, content.bgColor, content.text⟩, ⟨content, here, filled, rfl⟩, rfl⟩

/-- **Layout.** Take any sheet that can be reached. Its array has as many cells as there are
positions, a number that fits in a word; positions inside have offsets of their own where the cells
with these positions stand, and positions outside have none. Both ends of every edge are inside.
While a recalculation after an edit goes on, all this stays so, and every cell in the queue is found
in the grid. The records are those of the cells with a text or a color of their own, each once and
row by row. -/
theorem layout_of_reachable (reachable : sheet.Reachable size) :
    sheet.document.grid.LaidOut size ∧
    (∀ reader target, sheet.document.graph.Reads reader target ∨
        reader ∈ sheet.document.graph.dependents target →
      reader.Inside size.rows size.columns ∧ target.Inside size.rows size.columns) ∧
    (∀ (cell : CellRef) (text : String) (reachAll : Bool) (steps : Nat),
      cell.Inside size.rows size.columns →
      let edited := (sheet.document.retype cell text).document
      let walk := (Walk.step reachAll)^[steps] (Walk.start edited cell)
      walk.document.grid.LaidOut size ∧
        ∀ reader ∈ walk.queue, ∃ content, walk.document.grid.get? reader = some content) ∧
    DependencyGraph.Lists (sheet.records.map CellRecord.cell) (fun cell =>
      ∃ content, sheet.cell? cell = some content ∧
        (content.text ≠ "" ∨ content.bgColor ≠ Color.default)) ∧
    ∀ record ∈ sheet.records, ∃ content, sheet.cell? record.cell = some content ∧
      record.text = content.text ∧ record.bgColor = content.bgColor := by
  obtain ⟨contents, holds⟩ := reachable.tidy.sound.holds
  have consistent := holds.consistent
  refine ⟨consistent.regular.laidOut holds.rows holds.columns reachable.valid,
    fun reader target edge => inside_of_reads holds ?_,
    fun cell text reachAll steps inside => laidOut_iterate holds reachable.valid inside text,
    lists_records holds, fun record member => ?_⟩
  · exact edge.elim id (consistent.wired.mirrored reader target).mp
  · obtain ⟨content, here, -, same⟩ := (mem_records_iff holds).mp member
    exact ⟨content, here, congrArg CellRecord.text same, congrArg CellRecord.bgColor same⟩

/-- A cell reads the one below it, which is edited. -/
theorem layout_of_two_cells :
    let sheet := (blank ⟨2, 1⟩).after (.setText ⟨0, 0⟩ "=A2")
    let walk := Walk.start (sheet.document.retype ⟨1, 0⟩ "5").document ⟨1, 0⟩
    sheet.Reachable ⟨2, 1⟩ ∧ (⟨1, 0⟩ : CellRef).Inside 2 1 ∧
      sheet.document.grid.LaidOut ⟨2, 1⟩ ∧ walk.queue = [⟨0, 0⟩] ∧
      (∃ content, walk.document.grid.get? ⟨0, 0⟩ = some content) ∧
      sheet.document.grid.offset? ⟨2 ^ 64 - 1, 2 ^ 64 - 1⟩ = none := by
  intro sheet walk
  have reachable : sheet.Reachable ⟨2, 1⟩ :=
    (reachable_blank (by decide)).edit (.setText ⟨0, 0⟩ "=A2")
  have inside : (⟨1, 0⟩ : CellRef).Inside 2 1 := by decide
  have queue : walk.queue = [⟨0, 0⟩] := by decide +kernel
  obtain ⟨laidOut, -, found, -⟩ := layout_of_reachable reachable
  refine ⟨reachable, inside, laidOut, queue, ?_, laidOut.outside _ (by decide)⟩
  exact (found ⟨1, 0⟩ "5" false 0 inside).2 ⟨0, 0⟩ (queue ▸ List.mem_singleton_self _)

end Sheet

end Worksheet
