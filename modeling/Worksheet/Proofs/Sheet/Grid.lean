import Mathlib.Data.List.Nodup
import Worksheet.Sheet.Grid

/-!
# Regular grids

In a regular grid the array has one cell for each position and every cell stands at the offset of
its own position. So every position inside the grid has its cell, reading an offset back gives the
position that it came from, and a regular grid is known once its cells are known position by
position.
-/

namespace Worksheet.Grid

/-- The array has one cell for each position, and every cell stands where its position says. -/
structure Regular (grid : Grid) : Prop where
  size : grid.cells.size = grid.rows * grid.columns
  position : ∀ {offset : Nat} {content : Cell}, grid.cells[offset]? = some content →
    content.position = ⟨offset / grid.columns, offset % grid.columns⟩

section Modify

variable (grid : Grid) (cell other : CellRef) (change : Cell → Cell)

@[simp] theorem rows_modify : (grid.modify cell change).rows = grid.rows := by
  unfold modify
  split <;> rfl

@[simp] theorem columns_modify : (grid.modify cell change).columns = grid.columns := by
  unfold modify
  split <;> rfl

@[simp] theorem size_modify : (grid.modify cell change).cells.size = grid.cells.size := by
  unfold modify
  split <;> simp

theorem get?_modify : (grid.modify cell change).get? other =
    if other = cell then (grid.get? cell).map change else grid.get? other := by
  by_cases here : other = cell
  · subst here
    simp [get?_modify_self]
  · simp [here, get?_modify_of_ne grid change here]

end Modify

section Offsets

variable {grid : Grid} {cell : CellRef} {offset : Nat} {content : Cell}

theorem offset?_of_contains (inside : grid.Contains cell) :
    grid.offset? cell = some (cell.row * grid.columns + cell.column) :=
  if_pos inside

theorem offset_lt (inside : grid.Contains cell) :
    cell.row * grid.columns + cell.column < grid.rows * grid.columns := by
  have rowBelow : (cell.row + 1) * grid.columns ≤ grid.rows * grid.columns :=
    Nat.mul_le_mul_right _ inside.1
  have columnBelow := inside.2
  rw [Nat.add_mul, Nat.one_mul] at rowBelow
  omega

/-- Dividing an offset gives back the position that it was computed from. -/
theorem position_of_offset (inside : grid.Contains cell) :
    (⟨(cell.row * grid.columns + cell.column) / grid.columns,
      (cell.row * grid.columns + cell.column) % grid.columns⟩ : CellRef) = cell := by
  have positive : 0 < grid.columns := Nat.lt_of_le_of_lt (Nat.zero_le _) inside.2
  rw [Nat.mul_comm cell.row, Nat.mul_add_div positive, Nat.mul_add_mod,
    Nat.div_eq_of_lt inside.2, Nat.mod_eq_of_lt inside.2, Nat.add_zero]

/-- The position that belongs to an offset of the array lies inside the grid. -/
theorem contains_of_offset_lt (below : offset < grid.rows * grid.columns) :
    grid.Contains ⟨offset / grid.columns, offset % grid.columns⟩ := by
  have positive : 0 < grid.columns :=
    Nat.pos_of_ne_zero fun none => by simp [none] at below
  exact ⟨Nat.div_lt_of_lt_mul (by rwa [Nat.mul_comm] at below), Nat.mod_lt _ positive⟩

theorem get?_eq_some_iff : grid.get? cell = some content ↔
    grid.Contains cell ∧ grid.cells[cell.row * grid.columns + cell.column]? = some content := by
  by_cases inside : grid.Contains cell
  · simp [get?, offset?_of_contains inside, inside]
  · simp [get?, offset?, inside]

theorem contains_of_get? (here : grid.get? cell = some content) : grid.Contains cell :=
  (get?_eq_some_iff.mp here).1

end Offsets

namespace Regular

variable {grid other : Grid} {cell : CellRef} {content : Cell}

theorem exists_get? (regular : grid.Regular) (inside : grid.Contains cell) :
    ∃ content, grid.get? cell = some content := by
  have below := offset_lt inside
  rw [← regular.size] at below
  exact ⟨_, get?_eq_some_iff.mpr ⟨inside, Array.getElem?_eq_getElem below⟩⟩

theorem get?_eq_none_iff (regular : grid.Regular) :
    grid.get? cell = none ↔ ¬ grid.Contains cell := by
  constructor
  · intro absent inside
    obtain ⟨content, here⟩ := regular.exists_get? inside
    simp [absent] at here
  · intro outside
    exact Option.eq_none_iff_forall_ne_some.mpr fun content here => outside (contains_of_get? here)

theorem position_of_get? (regular : grid.Regular) (here : grid.get? cell = some content) :
    content.position = cell := by
  obtain ⟨inside, stored⟩ := get?_eq_some_iff.mp here
  rw [regular.position stored]
  exact position_of_offset inside

/-- Every cell of the array is found at its position. -/
theorem get?_position (regular : grid.Regular) (member : content ∈ grid.cells) :
    grid.get? content.position = some content := by
  obtain ⟨offset, below, same⟩ := Array.getElem_of_mem member
  -- The position of the cell is computed from its offset, and leads back there.
  have stored : grid.cells[offset]? = some content := by
    rw [Array.getElem?_eq_getElem below, same]
  rw [regular.position stored, get?_eq_some_iff]
  refine ⟨contains_of_offset_lt (regular.size ▸ below), ?_⟩
  rw [Nat.mul_comm, Nat.div_add_mod]
  exact stored

theorem modify (regular : grid.Regular) (cell : CellRef) {change : Cell → Cell}
    (stays : ∀ content, (change content).position = content.position) :
    (grid.modify cell change).Regular where
  size := by simp [regular.size]
  position := by
    intro offset content stored
    rw [columns_modify]
    unfold Grid.modify at stored
    split at stored
    · rw [Array.getElem?_modify] at stored
      split at stored
      · obtain ⟨former, formerly, rfl⟩ := Option.map_eq_some_iff.mp stored
        rw [stays, regular.position formerly]
      · exact regular.position stored
    · exact regular.position stored

/-- Regular grids of one size are equal if they have the same cells position by position. -/
theorem ext_get? (regular : grid.Regular) (otherRegular : other.Regular)
    (rows : grid.rows = other.rows) (columns : grid.columns = other.columns)
    (same : ∀ cell, grid.get? cell = other.get? cell) : grid = other := by
  have cells : grid.cells = other.cells := by
    apply Array.ext
    · rw [regular.size, otherRegular.size, rows, columns]
    · intro offset below otherBelow
      have here := regular.get?_position (Array.getElem_mem below)
      have there := otherRegular.get?_position (Array.getElem_mem otherBelow)
      rw [regular.position (Array.getElem?_eq_getElem below), same, columns] at here
      rw [otherRegular.position (Array.getElem?_eq_getElem otherBelow)] at there
      exact Option.some.inj (here.symm.trans there)
  cases grid
  cases other
  simp_all

/-- There are not more different positions inside a grid than it has cells. -/
theorem length_le_size (regular : grid.Regular) {positions : List CellRef}
    (distinct : positions.Nodup) (inside : ∀ cell ∈ positions, grid.Contains cell) :
    positions.length ≤ grid.cells.size := by
  let offset (cell : CellRef) : Nat := cell.row * grid.columns + cell.column
  have offsetsDistinct : (positions.map offset).Nodup := by
    refine List.Nodup.map_on ?_ distinct
    intro cell member next nextMember same
    rw [← position_of_offset (inside cell member), ← position_of_offset (inside next nextMember)]
    exact congrArg (fun place => (⟨place / grid.columns, place % grid.columns⟩ : CellRef)) same
  -- Different positions have different offsets, and there are only so many offsets.
  have offsetsBelow : positions.map offset ⊆ List.range grid.cells.size := by
    intro place member
    obtain ⟨cell, standing, rfl⟩ := List.mem_map.mp member
    rw [List.mem_range, regular.size]
    exact offset_lt (inside cell standing)
  have fits := List.Nodup.length_le_of_subset offsetsDistinct offsetsBelow
  simpa using fits

/-- The positions of the cells have the offsets from zero on, in order. -/
theorem offsets_positions (regular : grid.Regular) :
    (grid.cells.toList.map Cell.position).map
      (fun cell => cell.row * grid.columns + cell.column) = List.range grid.cells.size := by
  apply List.ext_getElem?
  intro offset
  rw [List.getElem?_map, List.getElem?_map, Array.getElem?_toList]
  cases stored : grid.cells[offset]? with
  | none =>
    have beyond := Array.getElem?_eq_none_iff.mp stored
    exact (List.getElem?_eq_none (by rwa [List.length_range])).symm
  | some content =>
    obtain ⟨below, -⟩ := Array.getElem?_eq_some_iff.mp stored
    rw [List.getElem?_range below, Option.map_some, Option.map_some, regular.position stored,
      Nat.mul_comm, Nat.div_add_mod]

/-- No two cells of a grid have the same position. -/
theorem nodup_positions (regular : grid.Regular) : (grid.cells.toList.map Cell.position).Nodup :=
  List.Nodup.of_map _ (regular.offsets_positions ▸ List.nodup_range)

end Regular

/-! ### Blank grids -/

theorem regular_blank (size : Dimensions) : (blank size).Regular where
  size := by simp [blank]
  position := by
    intro offset content stored
    simp only [blank, Array.getElem?_map, Option.map_eq_some_iff] at stored ⊢
    obtain ⟨place, here, rfl⟩ := stored
    obtain ⟨below, same⟩ := Array.getElem?_eq_some_iff.mp here
    rw [Array.getElem_range] at same
    rw [same]
    rfl

theorem get?_blank (size : Dimensions) (cell : CellRef) :
    (blank size).get? cell =
      if cell.Inside size.rows size.columns then some (Cell.blank cell) else none := by
  split
  next inside =>
    have contains : (blank size).Contains cell := inside
    have below := offset_lt contains
    have place := position_of_offset contains
    rw [get?_eq_some_iff]
    refine ⟨inside, ?_⟩
    simp only [blank, Array.getElem?_map, Option.map_eq_some_iff] at below place ⊢
    exact ⟨_, by rw [Array.getElem?_eq_getElem (by simpa using below), Array.getElem_range], by
      rw [place]⟩
  next outside => exact (regular_blank size).get?_eq_none_iff.mpr outside

end Worksheet.Grid
