import Worksheet.CellRef
import Worksheet.Color

/-!
# Cells

A cell holds the text that was typed, the value that is displayed and a background color, at a
position that never changes. A setter says whether it changed anything, so that only real changes
are announced.
-/

namespace Worksheet

/-- What about a cell has changed. A reference changes with the value of the cell that it names. -/
inductive CellChange where
  | text | value | reference | bgColor
deriving DecidableEq, Repr, Inhabited

/-- The label of a change. -/
def CellChange.label : CellChange → String
  | text => "Text"
  | value => "Value"
  | reference => "Reference"
  | bgColor => "BgColor"

/-- One cell of a grid. Its text is what was typed, and its value what is displayed. -/
structure Cell where
  position : CellRef
  text : String
  value : String
  bgColor : Color
deriving DecidableEq, Repr, Inhabited

namespace Cell

/-- The value that is displayed where a formula has none. -/
def errorValue : String := "ERROR"

/-- A cell that nothing was done to yet. -/
def blank (position : CellRef) : Cell :=
  { position, text := "", value := "", bgColor := Color.default }

/-- The formula of a cell: what follows the `=` at the start of its text. -/
def formula? (cell : Cell) : Option String :=
  match cell.text.toList with
  | '=' :: formula => some (String.ofList formula)
  | _ => none

/-- The cell holds a formula. -/
def isFormula (cell : Cell) : Bool :=
  cell.formula?.isSome

/-- The cell has something worth saving: a text, or a color of its own. -/
def isPopulated (cell : Cell) : Bool :=
  cell.text ≠ "" || cell.bgColor ≠ Color.default

/-- The cell displays the error value. -/
def showsError (cell : Cell) : Bool :=
  cell.value == errorValue

/-- Replaces the text, and says whether it is a new one. -/
def setText (cell : Cell) (text : String) : Cell × Bool :=
  ({ cell with text }, cell.text ≠ text)

/-- Replaces the value, and says whether it is a new one. -/
def setValue (cell : Cell) (value : String) : Cell × Bool :=
  ({ cell with value }, cell.value ≠ value)

/-- Replaces the background color, and says whether it is a new one. -/
def setBgColor (cell : Cell) (bgColor : Color) : Cell × Bool :=
  ({ cell with bgColor }, cell.bgColor ≠ bgColor)

/-- The blank cell at the same position. -/
def reset (cell : Cell) : Cell :=
  blank cell.position

end Cell

end Worksheet
