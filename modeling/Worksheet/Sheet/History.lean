import Worksheet.Sheet.Basic

/-!
# The history of a sheet

Edits are commands on two stacks. Undoing takes the latest command from the first stack, applies it
backward and puts it on the second one; doing it again is the same the other way round. A new edit
empties the second stack, and an edit that changes nothing is not recorded.

All cells of a command are checked before any of them is changed.
-/

namespace Worksheet.Sheet

/-- The most commands that can be undone. -/
def maxUndo : Nat := 100

/-- Applies an edit in one direction. -/
def applyEdit (direction : Direction) : Edit → SheetM Unit
  | .text cell old new =>
    match direction with
    | .forward => setText cell new
    | .backward => setText cell old
  | .bgColor cell old new =>
    match direction with
    | .forward => setBgColor cell new
    | .backward => setBgColor cell old

/-- Applies a command in one direction. -/
def apply (direction : Direction) (command : Command) : SheetM Unit :=
  (command.editsTowards direction).forM (applyEdit direction)

/-- Puts a command on the stack of those that can be undone. If there are too many of them then, the
oldest one is forgotten. -/
def pushUndo (command : Command) (stack : List Command) : List Command :=
  let pushed := command :: stack
  if maxUndo < pushed.length then pushed.dropLast else pushed

section PushUndo

variable {command : Command} {stack : List Command}

/-- On a stack within the limit one command is forgotten at most, so the latest ones are kept. -/
theorem pushUndo_eq_take (few : stack.length ≤ maxUndo) :
    pushUndo command stack = (command :: stack).take maxUndo := by
  unfold pushUndo
  by_cases full : maxUndo < (command :: stack).length
  · have length : (command :: stack).length - 1 = maxUndo := by
      rw [List.length_cons] at full ⊢
      omega
    rw [if_pos full, List.dropLast_eq_take, length]
  · rw [if_neg full, List.take_of_length_le (Nat.le_of_not_lt full)]

theorem length_pushUndo_le (few : stack.length ≤ maxUndo) :
    (pushUndo command stack).length ≤ maxUndo := by
  rw [pushUndo_eq_take few]
  exact List.length_take_le _ _

theorem mem_of_mem_pushUndo {other : Command} (member : other ∈ pushUndo command stack) :
    other = command ∨ other ∈ stack := by
  rw [← List.mem_cons]
  dsimp only [pushUndo] at member
  split at member
  · exact (List.dropLast_sublist _).subset member
  · exact member

end PushUndo

/-- Records a command that has been applied. -/
def record (sheet : Sheet) (command : Command) : Sheet :=
  { sheet with undoStack := pushUndo command sheet.undoStack, redoStack := [] }

/-- Applies a command and records it. -/
def execute (command : Command) : SheetM Unit := do
  -- A cell outside stops the command before any edit of it is applied.
  command.cells.forM fun cell => discard (getCell cell)
  apply .forward command
  modify fun sheet => sheet.record command

/-- Replaces the text of a cell so that it can be undone. -/
def editText (cell : CellRef) (text : String) : SheetM Unit := do
  let content ← getCell cell
  if content.text ≠ text then
    execute (.single (.text cell content.text text))

/-- Replaces the background color of a cell so that it can be undone. -/
def editBgColor (cell : CellRef) (color : Color) : SheetM Unit := do
  let content ← getCell cell
  if content.bgColor ≠ color then
    execute (.single (.bgColor cell content.bgColor color))

/-- Replaces the background color of several cells so that it can be undone in one step. -/
def editBgColorMany (cells : List CellRef) (color : Color) : SheetM Unit := do
  -- All cells are read before any is edited, so a cell that is named twice is edited twice.
  let contents ← cells.mapM fun cell => return (cell, ← getCell cell)
  let commands := contents.filterMap fun (cell, content) =>
    if content.bgColor ≠ color then some (Command.single (.bgColor cell content.bgColor color))
    else none
  if commands ≠ [] then
    execute (.batch commands)

/-- Undoes the latest command. -/
def undo : SheetM Unit := do
  let sheet ← get
  match sheet.undoStack with
  | [] => throw .nothingToUndo
  | command :: earlier =>
    set { sheet with undoStack := earlier }
    apply .backward command
    modify fun sheet => { sheet with redoStack := command :: sheet.redoStack }

/-- Does the command again that was undone last. -/
def redo : SheetM Unit := do
  let sheet ← get
  match sheet.redoStack with
  | [] => throw .nothingToRedo
  | command :: later =>
    set { sheet with redoStack := later }
    apply .forward command
    modify fun sheet => { sheet with undoStack := command :: sheet.undoStack }

/-- Undoes all commands, and says how many there were. -/
def undoAll : SheetM Nat := do
  let commands := (← get).undoStack
  commands.forM fun _ => undo
  pure commands.length

/-- Forgets all commands. -/
def clearHistory : SheetM Unit :=
  modify fun sheet => { sheet with undoStack := [], redoStack := [] }

/-- What a menu calls the command that would be undone, if there is one. -/
def undoTag? (sheet : Sheet) : Option String :=
  sheet.undoStack.head?.map Command.tag

/-- What a menu calls the command that would be done again, if there is one. -/
def redoTag? (sheet : Sheet) : Option String :=
  sheet.redoStack.head?.map Command.tag

end Worksheet.Sheet
