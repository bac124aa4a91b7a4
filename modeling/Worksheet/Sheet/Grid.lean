import Worksheet.Cell
import Worksheet.Sheet.Dimensions

/-!
# Grids

The cells of a sheet stand in one array, row by row. A cell inside the grid is found at an offset
that is computed from its position; a cell outside has none.
-/

namespace Worksheet

/-- The cells of a sheet, row by row. -/
structure Grid where
  rows : Nat
  columns : Nat
  cells : Array Cell
deriving DecidableEq, Repr

namespace Grid

/-- A grid of blank cells. -/
def blank (size : Dimensions) : Grid where
  rows := size.rows
  columns := size.columns
  cells := (Array.range (size.rows * size.columns)).map fun offset =>
    Cell.blank ⟨offset / size.columns, offset % size.columns⟩

/-- A cell lies inside the grid. -/
def Contains (grid : Grid) (cell : CellRef) : Prop :=
  cell.Inside grid.rows grid.columns

instance (grid : Grid) (cell : CellRef) : Decidable (grid.Contains cell) :=
  inferInstanceAs (Decidable (cell.Inside _ _))

/-- Where a cell inside the grid stands in the array. -/
def offset? (grid : Grid) (cell : CellRef) : Option Nat :=
  if grid.Contains cell then some (cell.row * grid.columns + cell.column) else none

/-- The cell at a position inside the grid. -/
def get? (grid : Grid) (cell : CellRef) : Option Cell :=
  (grid.offset? cell).bind fun offset => grid.cells[offset]?

/-- Changes the cell at a position. -/
def modify (grid : Grid) (cell : CellRef) (change : Cell → Cell) : Grid :=
  match grid.offset? cell with
  | some offset => { grid with cells := grid.cells.modify offset change }
  | none => grid

/-- The cells with something worth saving, row by row. -/
def populated (grid : Grid) : List Cell :=
  grid.cells.toList.filter Cell.isPopulated

/-! ### Cells after a change -/

/-- Cells inside the grid at different positions have different offsets. -/
theorem offset?_inj {grid : Grid} {cell other : CellRef} {offset : Nat}
    (here : grid.offset? cell = some offset) (there : grid.offset? other = some offset) :
    cell = other := by
  unfold offset? at here there
  split at here
  next inside =>
    split at there
    next otherInside =>
      obtain ⟨row, column⟩ := cell
      obtain ⟨otherRow, otherColumn⟩ := other
      have positive : 0 < grid.columns := Nat.lt_of_le_of_lt (Nat.zero_le _) inside.2
      have sameOffset := (Option.some.inj here).trans (Option.some.inj there).symm
      have rows := congrArg (· / grid.columns) sameOffset
      have columns := congrArg (· % grid.columns) sameOffset
      simp only [Nat.mul_comm _ grid.columns, Nat.mul_add_div positive, Nat.mul_add_mod,
        Nat.div_eq_of_lt inside.2, Nat.div_eq_of_lt otherInside.2, Nat.mod_eq_of_lt inside.2,
        Nat.mod_eq_of_lt otherInside.2, Nat.add_zero] at rows columns
      simp_all
    next => simp at there
  next => simp at here

/-- Changing a cell changes this cell. -/
theorem get?_modify_self (grid : Grid) (cell : CellRef) (change : Cell → Cell) :
    (grid.modify cell change).get? cell = (grid.get? cell).map change := by
  unfold get? modify
  cases offset : grid.offset? cell with
  | none => simp [offset]
  | some place =>
    have same : Grid.offset? { grid with cells := grid.cells.modify place change } cell =
        grid.offset? cell := rfl
    simp [same, offset, Array.getElem?_modify]

/-- Changing a cell leaves all other cells as they were. -/
theorem get?_modify_of_ne (grid : Grid) {cell other : CellRef} (change : Cell → Cell)
    (different : other ≠ cell) : (grid.modify cell change).get? other = grid.get? other := by
  unfold get? modify
  cases offset : grid.offset? cell with
  | none => rfl
  | some place =>
    have same : Grid.offset? { grid with cells := grid.cells.modify place change } other =
        grid.offset? other := rfl
    simp only [same]
    cases otherOffset : grid.offset? other with
    | none => rfl
    | some otherPlace =>
      have apart : place ≠ otherPlace := fun equal =>
        different (offset?_inj otherOffset (equal ▸ offset))
      simp [Array.getElem?_modify, apart]

end Grid

end Worksheet
