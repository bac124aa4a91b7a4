import Worksheet.Sheet.Contents

/-!
# Runs

The operations on a sheet as data, so that what was done to a sheet is a list. An action that fails
leaves the sheet as the failure left it, and the run goes on.
-/

namespace Worksheet.Sheet

/-- An operation on a sheet with its arguments. Edits and commands are recorded and can be undone,
several colors in one step; what is set is not recorded. -/
inductive Action where
  | setText (cell : CellRef) (text : String)
  | setBgColor (cell : CellRef) (color : Color)
  | clear
  | editText (cell : CellRef) (text : String)
  | editBgColor (cell : CellRef) (color : Color)
  | editBgColorMany (cells : List CellRef) (color : Color)
  | execute (command : Command)
  | undo
  | redo
  | clearHistory
  | loadRecords (records : List CellRecord)

/-- Carries out an action. -/
def perform : Action → SheetM Unit
  | .setText cell text => setText cell text
  | .setBgColor cell color => setBgColor cell color
  | .clear => clear
  | .editText cell text => editText cell text
  | .editBgColor cell color => editBgColor cell color
  | .editBgColorMany cells color => editBgColorMany cells color
  | .execute command => execute command
  | .undo => undo
  | .redo => redo
  | .clearHistory => clearHistory
  | .loadRecords records => loadRecords records

/-- The sheet after an action, whether it failed or not. -/
def after (sheet : Sheet) (action : Action) : Sheet :=
  ((perform action).run sheet).2

/-- The sheet after a run of actions. -/
def afterAll (sheet : Sheet) (actions : List Action) : Sheet :=
  actions.foldl after sheet

end Worksheet.Sheet
