import Worksheet.Cell

/-!
# Commands

What can be undone and done again. An edit knows the old and the new state of what it changes, so it
can be applied in both directions; several edits can be bound together in a batch, which is one step
of the history.
-/

namespace Worksheet

/-- A change of one cell that can be taken back. -/
inductive Edit where
  | text (cell : CellRef) (old new : String)
  | bgColor (cell : CellRef) (old new : Color)
deriving DecidableEq, Repr

/-- One step of the history: an edit by itself, or several commands. -/
inductive Command where
  | single (edit : Edit)
  | batch (commands : List Command)
deriving Repr

/-- In which direction a command is applied: from the old state to the new one, or back. -/
inductive Direction where
  | forward | backward
deriving DecidableEq, Repr

/-- The cell that an edit changes. -/
def Edit.cell : Edit → CellRef
  | text cell _ _ => cell
  | bgColor cell _ _ => cell

/-- What a menu calls an edit. -/
def Edit.tag : Edit → String
  | text _ _ _ => "Change Cell Text"
  | bgColor _ _ _ => "Change Cell Color"

namespace Command

/-- What a menu calls a command: a batch is called after the first of its commands. -/
def tag : Command → String
  | single edit => edit.tag
  | batch [] => "Change Cell Color"
  | batch (command :: _) => command.tag

mutual

/-- The edits of a command, in order. -/
def edits : Command → List Edit
  | single edit => [edit]
  | batch commands => editsOfAll commands

/-- The edits of some commands, in order. -/
def editsOfAll : List Command → List Edit
  | [] => []
  | command :: commands => command.edits ++ editsOfAll commands

end

/-- The cells that a command changes, in order. -/
def cells (command : Command) : List CellRef :=
  command.edits.map Edit.cell

/-- The edits of a command in the order in which a direction applies them. -/
def editsTowards (command : Command) : Direction → List Edit
  | .forward => command.edits
  | .backward => command.edits.reverse

end Command

end Worksheet
