import Worksheet.Files.Path
import Worksheet.Sheet.Command
import Worksheet.Sheet.Recalculation

/-!
# Sheets

A sheet is a document with the history of its edits, the path of its file and a mark that tells
whether the document has changed since it was last loaded or saved. An operation either does its
work or fails with a cause; what it did to the sheet before it failed would stay.
-/

namespace Worksheet

/-- A document that is being worked on. -/
structure Sheet where
  document : Document
  /-- The commands that can be undone, the latest first. -/
  undoStack : List Command
  /-- The commands that can be done again, the one undone last first. -/
  redoStack : List Command
  path? : Option Path
  /-- The document has changed since it was loaded or saved. -/
  modified : Bool
  journal : Journal

/-- An operation on a sheet. -/
abbrev SheetM := ExceptT SheetError (StateM Sheet)

namespace Sheet

/-- A new sheet of some size. -/
def blank (size : Dimensions) : Sheet where
  document := .blank size
  undoStack := []
  redoStack := []
  path? := none
  modified := false
  journal := #[]

/-- A new sheet of a size that sheets may have. -/
def create (size : Dimensions) : Except SheetError Sheet := do
  size.check
  pure (blank size)

/-- The cell at a position inside the sheet. -/
def cell? (sheet : Sheet) (cell : CellRef) : Option Cell :=
  sheet.document.grid.get? cell

/-- A cell lies inside the sheet. -/
def Contains (sheet : Sheet) (cell : CellRef) : Prop :=
  sheet.document.grid.Contains cell

instance (sheet : Sheet) (cell : CellRef) : Decidable (sheet.Contains cell) :=
  inferInstanceAs (Decidable (sheet.document.grid.Contains cell))

/-- The cells with something worth saving, row by row. -/
def populated (sheet : Sheet) : List Cell :=
  sheet.document.grid.populated

/-- Appends lines to the journal. -/
def note (sheet : Sheet) (happened : Journal) : Sheet :=
  { sheet with journal := sheet.journal ++ happened }

/-- Changes the document, which is noted in the journal. -/
def edit (change : Document → Document × Journal) (sheet : Sheet) : Sheet :=
  let ⟨document, undoStack, redoStack, path?, _, journal⟩ := sheet
  let (document, happened) := change document
  { document, undoStack, redoStack, path?, modified := true, journal := journal ++ happened }

/-- The cell at a position, which has to be inside the sheet. -/
def getCell (cell : CellRef) : SheetM Cell := do
  match (← get).cell? cell with
  | some content => pure content
  | none => throw (.outOfBounds cell)

/-- Replaces the text of a cell and recalculates what depends on it. A formula that is refused is no
failure: its cell displays the error value. -/
def setText (cell : CellRef) (text : String) : SheetM Unit := do
  let content ← getCell cell
  if content.text ≠ text then
    modify (edit fun document => document.setText cell text)

/-- Replaces the background color of a cell. -/
def setBgColor (cell : CellRef) (color : Color) : SheetM Unit := do
  let content ← getCell cell
  if content.bgColor ≠ color then
    modify (edit fun document => document.setBgColor cell color)

/-- Makes every cell blank, one after the other, and forgets all references. -/
def clear : SheetM Unit := do
  let positions := (← get).populated.map Cell.position
  positions.forM fun cell => do
    setBgColor cell Color.default
    setText cell ""
  -- No text is left, and so no formula that could read anything.
  modify fun sheet => { sheet with document := { sheet.document with graph := ∅ } }

/-- The value that a formula would have now, without a cell that holds it. -/
def evaluate (formula : String) : StateM Sheet String := do
  let (value, happened) := (← get).document.evaluate formula
  modify fun sheet => sheet.note happened.toArray
  pure value

end Sheet

end Worksheet
