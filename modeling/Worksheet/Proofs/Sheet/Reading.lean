import Worksheet.Proofs.Formula.Bindings
import Worksheet.Proofs.Graph.Circularity
import Worksheet.Proofs.Sheet.Contents

/-!
# What the texts of a grid read

Which cells a cell reads is settled by its text and by the size of the grid. So grids of one size
with the same texts have the same references and the same circular cells, whatever they display.

Away from circular cells reading cannot go on for ever: a chain of cells that are not circular
repeats none of them, and the grid has only so many. This bounds recalculation and makes it possible
to argue by induction along references.
-/

namespace Worksheet

open Relation

/-- The formula of a cell follows from its text. -/
theorem Cell.formula?_congr {cell other : Cell} (same : cell.text = other.text) :
    cell.formula? = other.formula? := by
  unfold Cell.formula?
  rw [same]

/-- A cell has a formula if its text starts with the sign of formulas. -/
theorem Cell.formula?_eq_some_iff {cell : Cell} {formula : String} :
    cell.formula? = some formula ↔ cell.text = "=" ++ formula := by
  unfold Cell.formula?
  split
  next rest here =>
    rw [Option.some.injEq]
    constructor
    · rintro rfl
      exact String.toList_injective (by simp [here])
    · intro written
      rw [written] at here
      exact String.toList_injective (by simpa using here.symm)
  next literal =>
    refine iff_of_false (by simp) fun written => literal formula.toList ?_
    simp [written]

namespace Grid

/-- The formula of a cell as it is compiled for the grid, if it has one that is accepted. -/
def accepted? (grid : Grid) (cell : CellRef) : Option Prepared :=
  (grid.get? cell).bind fun content => content.formula?.bind fun formula =>
    (Prepared.ofFormula grid.rows grid.columns formula).toOption

/-- By its text a cell reads another one. -/
def Reads (grid : Grid) (reader target : CellRef) : Prop :=
  ∃ prepared, grid.accepted? reader = some prepared ∧ target ∈ prepared.targets

/-- By the texts of the grid a cell reads itself over one or more references. -/
def Circular (grid : Grid) (cell : CellRef) : Prop :=
  TransGen grid.Reads cell cell

/-- Two grids have the same size and the same texts. -/
structure SameTexts (grid other : Grid) : Prop where
  rows : grid.rows = other.rows
  columns : grid.columns = other.columns
  text : ∀ cell, (grid.get? cell).map Cell.text = (other.get? cell).map Cell.text

section Accepted

variable {grid : Grid} {cell reader target : CellRef} {content : Cell} {formula : String}

theorem accepted?_of_get? (here : grid.get? cell = some content)
    (written : content.formula? = some formula) :
    grid.accepted? cell = (Prepared.ofFormula grid.rows grid.columns formula).toOption := by
  simp [accepted?, here, written]

/-- A formula that is accepted is the formula of a cell of the grid. -/
theorem exists_of_accepted? {prepared : Prepared} (accepted : grid.accepted? cell = some prepared) :
    ∃ content formula, grid.get? cell = some content ∧ content.formula? = some formula ∧
      Prepared.ofFormula grid.rows grid.columns formula = .ok prepared := by
  obtain ⟨content, here, rest⟩ := Option.bind_eq_some_iff.mp accepted
  obtain ⟨formula, written, compiled⟩ := Option.bind_eq_some_iff.mp rest
  refine ⟨content, formula, here, written, ?_⟩
  cases result : Prepared.ofFormula grid.rows grid.columns formula with
  | error cause => simp [result, Except.toOption] at compiled
  | ok other => simpa [result, Except.toOption] using compiled

theorem contains_of_reads (reads : grid.Reads reader target) :
    grid.Contains reader ∧ grid.Contains target := by
  obtain ⟨prepared, accepted, member⟩ := reads
  obtain ⟨content, formula, here, -, compiled⟩ := exists_of_accepted? accepted
  exact ⟨contains_of_get? here, Prepared.inside_of_mem_targets compiled member⟩

/-- A circular cell reads something, so its formula is accepted. -/
theorem Circular.exists_accepted? (circular : grid.Circular cell) :
    ∃ prepared, grid.accepted? cell = some prepared := by
  obtain ⟨next, ⟨prepared, accepted, -⟩, -⟩ := TransGen.head'_iff.mp circular
  exact ⟨prepared, accepted⟩

end Accepted

namespace SameTexts

variable {grid other third : Grid}

theorem refl (grid : Grid) : SameTexts grid grid := ⟨rfl, rfl, fun _ => rfl⟩

theorem symm (same : SameTexts grid other) : SameTexts other grid :=
  ⟨same.rows.symm, same.columns.symm, fun cell => (same.text cell).symm⟩

theorem trans (same : SameTexts grid other) (again : SameTexts other third) :
    SameTexts grid third :=
  ⟨same.rows.trans again.rows, same.columns.trans again.columns,
    fun cell => (same.text cell).trans (again.text cell)⟩

theorem of_contents (rows : grid.rows = other.rows) (columns : grid.columns = other.columns)
    (contents : grid.contents = other.contents) : SameTexts grid other := by
  refine ⟨rows, columns, fun cell => ?_⟩
  rw [text_eq, text_eq, contents]

theorem exists_get? (same : SameTexts grid other) {cell : CellRef} {content : Cell}
    (here : grid.get? cell = some content) :
    ∃ there, other.get? cell = some there ∧ there.text = content.text := by
  have text := same.text cell
  rw [here] at text
  exact Option.map_eq_some_iff.mp text.symm

theorem accepted? (same : SameTexts grid other) (cell : CellRef) :
    grid.accepted? cell = other.accepted? cell := by
  have text := same.text cell
  unfold Grid.accepted?
  rw [same.rows, same.columns]
  cases here : grid.get? cell with
  | none =>
    -- Both grids end at the same cells.
    cases there : other.get? cell with
    | none => rfl
    | some content => simp [here, there] at text
  | some content =>
    obtain ⟨content', there, written⟩ := same.exists_get? here
    rw [there, Option.bind_some, Option.bind_some, Cell.formula?_congr written]

theorem reads (same : SameTexts grid other) : grid.Reads = other.Reads := by
  funext reader target
  unfold Reads
  rw [same.accepted? reader]

theorem contains_iff (same : SameTexts grid other) (cell : CellRef) :
    grid.Contains cell ↔ other.Contains cell := by
  unfold Contains
  rw [same.rows, same.columns]

theorem circular_iff (same : SameTexts grid other) (cell : CellRef) :
    grid.Circular cell ↔ other.Circular cell := by
  unfold Circular
  rw [same.reads]

/-- A change of a cell that keeps its text. -/
theorem modify (grid : Grid) (cell : CellRef) {change : Cell → Cell}
    (keeps : ∀ content, (change content).text = content.text) :
    SameTexts grid (grid.modify cell change) where
  rows := by simp
  columns := by simp
  text := by
    intro other
    rw [get?_modify]
    split
    next here =>
      subst here
      rw [Option.map_map]
      exact congrArg (Option.map · (grid.get? other)) (funext keeps).symm
    next => rfl

end SameTexts

/-! ### Chains of references -/

/-- From a cell so many references lead on, each to a cell that is not circular. -/
def Descends (grid : Grid) : Nat → CellRef → Prop
  | 0, _ => True
  | length + 1, cell =>
    ∃ target, grid.Reads cell target ∧ ¬ grid.Circular target ∧ grid.Descends length target

variable {grid : Grid}

/-- The cells of a chain are distinct cells of the grid. -/
theorem exists_chain_of_descends {length : Nat} {cell : CellRef}
    (descends : grid.Descends length cell) :
    ∃ chain : List CellRef, chain.length = length ∧ chain.Nodup ∧
      ∀ target ∈ chain, grid.Contains target ∧ TransGen grid.Reads cell target := by
  induction length generalizing cell with
  | zero => exact ⟨[], rfl, List.nodup_nil, by simp⟩
  | succ length ih =>
    obtain ⟨target, read, straight, onwards⟩ := descends
    obtain ⟨chain, count, distinct, within⟩ := ih onwards
    -- The target reads all later cells, so it is none of them unless it is circular.
    have fresh : target ∉ chain := fun member => straight (within target member).2
    refine ⟨target :: chain, by rw [List.length_cons, count],
      List.nodup_cons.mpr ⟨fresh, distinct⟩, ?_⟩
    intro next member
    rcases List.mem_cons.mp member with rfl | later
    · exact ⟨(contains_of_reads read).2, .single read⟩
    · exact ⟨(within next later).1, .head read (within next later).2⟩

/-- No chain is longer than the grid has cells. -/
theorem Regular.not_descends (regular : grid.Regular) (cell : CellRef) :
    ¬ grid.Descends (grid.cells.size + 1) cell := by
  intro descends
  obtain ⟨chain, count, distinct, within⟩ := exists_chain_of_descends descends
  have fits := regular.length_le_size distinct fun target member => (within target member).1
  omega

/-- Induction along references, for cells that are not circular: a property of a cell may be shown
from that property of those cells that it reads and that are not circular either. -/
theorem Regular.induction_on_reads (regular : grid.Regular) (property : CellRef → Prop)
    (step : ∀ cell, ¬ grid.Circular cell →
      (∀ target, grid.Reads cell target → ¬ grid.Circular target → property target) →
        property cell)
    (cell : CellRef) (straight : ¬ grid.Circular cell) : property cell := by
  -- A cell without the property reads another one without it, and so on without end.
  have descends : ∀ length cell, ¬ grid.Circular cell → ¬ property cell →
      grid.Descends length cell := by
    intro length
    induction length with
    | zero => exact fun _ _ _ => trivial
    | succ length ih =>
      intro cell straight fails
      have refuted := mt (step cell straight) fails
      simp only [not_forall] at refuted
      obtain ⟨target, read, straightToo, failsToo⟩ := refuted
      exact ⟨target, read, straightToo, ih target straightToo failsToo⟩
  exact Classical.byContradiction fun fails =>
    regular.not_descends cell (descends _ cell straight fails)

end Grid

end Worksheet
