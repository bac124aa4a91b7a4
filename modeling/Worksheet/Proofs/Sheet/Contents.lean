import Mathlib.Logic.Function.Basic
import Worksheet.Proofs.Sheet.Grid
import Worksheet.Sheet.Command

/-!
# What is written in a grid

The contents of a grid are the text and the color of each of its cells, without the values. Edits
and commands are read here as functions on contents: this is all that they are meant to do, and
everything else follows from the contents.

A command is taken back by its edits in the opposite direction and order if each edit holds as its
old state what the cell had before the command, also where the command edits a cell several times.
-/

namespace Worksheet

/-- All cells of a command lie inside a sheet. -/
def Command.Fits (size : Dimensions) (command : Command) : Prop :=
  ∀ cell ∈ command.cells, cell.Inside size.rows size.columns

theorem Command.fits_single {size : Dimensions} (edit : Edit)
    (inside : edit.cell.Inside size.rows size.columns) : (Command.single edit).Fits size := by
  intro cell member
  have same : cell = edit.cell := by simpa [Command.cells, Command.edits] using member
  exact same ▸ inside

/-- The text and the color of each cell inside a grid. -/
abbrev Contents := CellRef → Option (String × Color)

namespace Contents

/-- The contents of a new sheet. -/
def blank (size : Dimensions) : Contents := fun cell =>
  if cell.Inside size.rows size.columns then some ("", Color.default) else none

/-- The contents in which one cell is changed. -/
def modify (contents : Contents) (cell : CellRef) (change : String × Color → String × Color) :
    Contents :=
  Function.update contents cell ((contents cell).map change)

/-- The contents in which a cell has another text. -/
def setText (contents : Contents) (cell : CellRef) (text : String) : Contents :=
  contents.modify cell fun content => (text, content.2)

/-- The contents in which a cell has another color. -/
def setColor (contents : Contents) (cell : CellRef) (color : Color) : Contents :=
  contents.modify cell fun content => (content.1, color)

/-- The contents after an edit in one direction. -/
def applyEdit (direction : Direction) (contents : Contents) : Edit → Contents
  | .text cell old new =>
    match direction with
    | .forward => contents.setText cell new
    | .backward => contents.setText cell old
  | .bgColor cell old new =>
    match direction with
    | .forward => contents.setColor cell new
    | .backward => contents.setColor cell old

/-- The contents after a command in one direction. -/
def apply (direction : Direction) (contents : Contents) (command : Command) : Contents :=
  (command.editsTowards direction).foldl (applyEdit direction) contents

section Modify

variable (contents : Contents) (cell other : CellRef)

theorem modify_eq (change : String × Color → String × Color) :
    contents.modify cell change other =
      if other = cell then (contents other).map change else contents other := by
  rw [modify, Function.update_apply]
  split
  next same => rw [same]
  next => rfl

/-- A change that leaves the cell as it is does nothing. -/
theorem modify_of_fixed {change : String × Color → String × Color}
    (fixed : ∀ content, contents cell = some content → change content = content) :
    contents.modify cell change = contents := by
  funext other
  rw [modify_eq]
  split
  next same =>
    subst same
    cases here : contents other with
    | none => rfl
    | some content => exact congrArg some (fixed content here)
  next => rfl

/-- Nor does a change of a cell outside. -/
theorem modify_of_none (absent : contents cell = none)
    (change : String × Color → String × Color) : contents.modify cell change = contents :=
  contents.modify_of_fixed cell fun content here => by simp [absent] at here

/-- Of two changes of one cell the second one counts if it does not look at what it replaces. -/
theorem modify_modify {first second third : String × Color → String × Color}
    (overrides : ∀ content, second (first content) = third content) :
    (contents.modify cell first).modify cell second = contents.modify cell third := by
  funext other
  simp only [modify_eq]
  split
  next => rw [Option.map_map]; exact congrArg (Option.map · (contents other)) (funext overrides)
  next => rfl

theorem setText_of_same {content : String × Color} (here : contents cell = some content) :
    contents.setText cell content.1 = contents := by
  refine contents.modify_of_fixed cell fun there same => ?_
  obtain rfl := Option.some.inj (here.symm.trans same)
  rfl

theorem setColor_of_same {content : String × Color} (here : contents cell = some content) :
    contents.setColor cell content.2 = contents := by
  refine contents.modify_of_fixed cell fun there same => ?_
  obtain rfl := Option.some.inj (here.symm.trans same)
  rfl

/-- A change of several cells changes exactly these, no matter how often each of them occurs. -/
theorem foldl_modify (change : CellRef → String × Color → String × Color)
    (settles : ∀ cell content, change cell (change cell content) = change cell content)
    (cells : List CellRef) :
    cells.foldl (fun contents cell => contents.modify cell (change cell)) contents other =
      if other ∈ cells then (contents other).map (change other) else contents other := by
  induction cells generalizing contents with
  | nil => simp
  | cons cell cells ih =>
    rw [List.foldl_cons, ih, modify_eq]
    by_cases here : other = cell
    · subst here
      -- The cell may occur again, but to change it twice is to change it once.
      simp only [List.mem_cons, true_or, if_true, Option.map_map]
      have settled : change other ∘ change other = change other := funext (settles other)
      rw [settled]
      exact ite_self _
    · simp only [here, List.mem_cons, false_or, if_false]

/-- Putting back the text that a cell had undoes whatever was typed. -/
theorem setText_setText {content : String × Color} (here : contents cell = some content)
    (text : String) : (contents.setText cell text).setText cell content.1 = contents := by
  have last : (contents.setText cell text).setText cell content.1 =
      contents.setText cell content.1 := contents.modify_modify cell fun _ => rfl
  rw [last, contents.setText_of_same cell here]

/-- Putting back the color that a cell had undoes whatever was painted. -/
theorem setColor_setColor {content : String × Color} (here : contents cell = some content)
    (color : Color) : (contents.setColor cell color).setColor cell content.2 = contents := by
  have last : (contents.setColor cell color).setColor cell content.2 =
      contents.setColor cell content.2 := contents.modify_modify cell fun _ => rfl
  rw [last, contents.setColor_of_same cell here]

theorem apply_single (direction : Direction) (edit : Edit) :
    contents.apply direction (.single edit) = contents.applyEdit direction edit := by
  cases direction <;> simp [apply, Command.editsTowards, Command.edits]

end Modify

/-! ### Batches of colors -/

/-- The color of a cell. -/
def colorAt (contents : Contents) (cell : CellRef) : Color :=
  ((contents cell).map Prod.snd).getD Color.default

/-- Those of some cells that do not have a color yet. -/
def unpainted (contents : Contents) (cells : List CellRef) (color : Color) : List CellRef :=
  cells.filter fun cell => (contents cell).any fun content => content.2 ≠ color

/-- The edits that give a color to some cells. A cell that is named twice is edited twice. -/
def repaints (contents : Contents) (cells : List CellRef) (color : Color) : List Edit :=
  (contents.unpainted cells color).map fun cell => .bgColor cell (contents.colorAt cell) color

section Paint

variable (contents : Contents) (cells : List CellRef) (color : Color)

/-- The contents in which several cells have another color. -/
def paint : Contents :=
  cells.foldl (fun contents cell => contents.setColor cell color) contents

theorem paint_eq (other : CellRef) : contents.paint cells color other =
    if other ∈ cells then (contents other).map fun content => (content.1, color)
    else contents other :=
  contents.foldl_modify other (fun _ content => (content.1, color)) (fun _ _ => rfl) cells

theorem mem_unpainted {cell : CellRef} : cell ∈ contents.unpainted cells color ↔
    cell ∈ cells ∧ ∃ content, contents cell = some content ∧ content.2 ≠ color := by
  rw [unpainted, List.mem_filter, Option.any_eq_true]
  simp only [decide_eq_true_eq]

theorem paint_unpainted :
    contents.paint (contents.unpainted cells color) color = contents.paint cells color := by
  funext other
  rw [paint_eq, paint_eq]
  by_cases listed : other ∈ cells
  · rw [if_pos listed]
    split
    next => rfl
    next painted =>
      -- A listed cell that is not to be painted has the color already.
      cases here : contents other with
      | none => rfl
      | some content =>
        have same : content.2 = color := by
          by_contra different
          refine painted ((mem_unpainted contents cells color).mpr ?_)
          exact ⟨listed, content, here, different⟩
        rw [Option.map_some, ← same]
  · simp [mem_unpainted, listed]

theorem edits_batch_single (edits : List Edit) :
    (Command.batch (edits.map .single)).edits = edits := by
  change Command.editsOfAll (edits.map .single) = edits
  induction edits with
  | nil => rfl
  | cons edit edits ih => exact congrArg (edit :: ·) ih

/-- If no cell has to be painted, painting changes nothing; otherwise it does. -/
theorem paint_eq_self_iff : contents.paint cells color = contents ↔
    contents.repaints cells color = [] := by
  rw [repaints, List.map_eq_nil_iff]
  constructor
  · intro same
    refine List.eq_nil_iff_forall_not_mem.mpr fun cell unpainted => ?_
    obtain ⟨listed, content, here, different⟩ := (mem_unpainted contents cells color).mp unpainted
    have painted := congrFun same cell
    rw [paint_eq, if_pos listed, here, Option.map_some, Option.some.injEq] at painted
    exact different (congrArg Prod.snd painted).symm
  · intro none
    rw [← paint_unpainted, none]
    rfl

theorem fits_repaints {size : Dimensions}
    (inside : ∀ cell ∈ cells, cell.Inside size.rows size.columns) :
    (Command.batch ((contents.repaints cells color).map .single)).Fits size := by
  intro cell member
  rw [Command.cells, edits_batch_single, repaints, List.map_map] at member
  obtain ⟨other, painted, rfl⟩ := List.mem_map.mp member
  exact inside other ((mem_unpainted contents cells color).mp painted).1

theorem apply_forward_repaints :
    contents.apply .forward (.batch ((contents.repaints cells color).map .single)) =
      contents.paint cells color := by
  unfold apply Command.editsTowards
  rw [edits_batch_single, repaints, List.foldl_map, ← paint_unpainted]
  rfl

/-- Each edit of the batch holds the color from before the batch, so taking them back in any order
gives all cells their colors. -/
theorem apply_backward_repaints :
    (contents.paint cells color).apply .backward
      (.batch ((contents.repaints cells color).map .single)) = contents := by
  unfold apply Command.editsTowards
  rw [edits_batch_single, repaints, ← List.map_reverse, List.foldl_map]
  funext other
  -- A cell that is painted twice is given its former color twice.
  refine ((contents.paint cells color).foldl_modify other
    (fun cell content => (content.1, contents.colorAt cell)) (fun _ _ => rfl) _).trans ?_
  rw [← paint_unpainted]
  simp only [List.mem_reverse, paint_eq]
  split
  next painted =>
    obtain ⟨-, content, here, -⟩ := (mem_unpainted contents cells color).mp painted
    simp [here, colorAt]
  next => rfl

end Paint

end Contents

namespace Grid

/-- What is written in a grid. -/
def contents (grid : Grid) : Contents := fun cell =>
  (grid.get? cell).map fun content => (content.text, content.bgColor)

variable (grid : Grid) (cell : CellRef)

theorem contents_modify (change : Cell → Cell) (image : String × Color → String × Color)
    (commutes : ∀ content,
      ((change content).text, (change content).bgColor) = image (content.text, content.bgColor)) :
    (grid.modify cell change).contents = grid.contents.modify cell image := by
  funext other
  rw [Contents.modify_eq, contents, get?_modify]
  split
  next same =>
    subst same
    rw [contents, Option.map_map, Option.map_map]
    exact congrArg (Option.map · (grid.get? other)) (funext commutes)
  next => rfl

theorem contents_blank (size : Dimensions) : (blank size).contents = Contents.blank size := by
  funext other
  rw [contents, get?_blank, Contents.blank]
  split <;> rfl

variable {grid cell}

theorem contents_of_get? {content : Cell} (here : grid.get? cell = some content) :
    grid.contents cell = some (content.text, content.bgColor) :=
  congrArg (Option.map _) here

variable (grid cell)

theorem text_eq : (grid.get? cell).map Cell.text = (grid.contents cell).map Prod.fst := by
  rw [contents, Option.map_map]
  rfl

theorem bgColor_eq : (grid.get? cell).map Cell.bgColor = (grid.contents cell).map Prod.snd := by
  rw [contents, Option.map_map]
  rfl

end Grid

end Worksheet
