import Worksheet.Cell
import Worksheet.Markup.Escape
import Worksheet.Markup.Event
import Worksheet.Sheet.Error

/-!
# The file format of sheets

A saved sheet is a document of cell elements, each with a name, a background color and a text:

    <cell name="A1">
      <bgcolor>FFFFFFFF</bgcolor>
      <text>=B1*2</text>
    </cell>

Values are not saved, they follow from the texts. A reader takes the cells wherever they stand, and
of a cell that is started inside another one only the inner one. Spaces in a text are part of it.
-/

namespace Worksheet

/-- What is saved of a cell: where it is, its color, and the text as it was typed. -/
structure CellRecord where
  cell : CellRef
  bgColor : Color
  text : String
deriving DecidableEq, Repr, Inhabited

namespace CellRecord

/-- The element whose text a reader collects. Outside of both, text is passed over. -/
inductive Field where
  | outside | bgColor | text
deriving DecidableEq, Repr

/-- A cell whose end has not been read yet, with the characters of its color, if it has one, and of
its text. -/
structure Pending where
  cell : CellRef
  bgColor? : Option String
  text : String
deriving DecidableEq, Repr

/-- The state of reading a document: the records, the latest first, the cell that has been started,
and the element whose text is collected. -/
structure Collector where
  records : List CellRecord
  pending? : Option Pending
  field : Field
deriving DecidableEq, Repr

/-- A cell as it starts: its name is the last one among the attributes of its tag. -/
def startCell (tag : Markup.Tag) : Except SheetError Pending := do
  let (attributes, fault?) := tag.attributes
  let name? ← attributes.foldlM (fun name? entry =>
    if entry.key = "name" then
      match Markup.unescape entry.value with
      | .ok name => pure (some name)
      | .error fault => throw (.markup (.escape fault))
    else
      pure name?) none
  match fault?, name? with
  | some fault, _ => throw (.attributes fault)
  | none, none => throw (.missingAttribute "cell" "name")
  | none, some name =>
    match CellRef.ofName? (Text.trim name) with
    | some cell => pure { cell, bgColor? := none, text := "" }
    | none => throw (.invalidCellName name)

/-- The record of a cell that has ended. -/
def finishCell (pending : Pending) : Except SheetError CellRecord := do
  let bgColor ←
    match pending.bgColor? with
    | some text =>
      match Color.ofText? text with
      | some color => pure color
      | none => throw (.invalidColor text)
    | none => pure Color.default
  pure { cell := pending.cell, bgColor, text := pending.text }

namespace Collector

/-- Nothing has been read. -/
def initial : Collector := ⟨[], none, .outside⟩

/-- Adds characters to the element that is collected. -/
def addText (collector : Collector) (pending : Pending) (text : String) : Collector :=
  match collector.field with
  | .outside => collector
  | .bgColor =>
    { collector with
      pending? := some { pending with bgColor? := some (pending.bgColor?.getD "" ++ text) } }
  | .text => { collector with pending? := some { pending with text := pending.text ++ text } }

/-- Reads the start of an element. A color or a text replaces one that the cell has already. -/
def start (collector : Collector) (tag : Markup.Tag) : Except SheetError Collector := do
  let name := String.ofList (Markup.localName tag.name)
  if name = "cell" then
    let pending ← startCell tag
    pure { collector with pending? := some pending }
  else
    match collector.pending? with
    | some pending =>
      if name = "bgcolor" then
        pure { collector with
          field := .bgColor, pending? := some { pending with bgColor? := some "" } }
      else if name = "text" then
        pure { collector with field := .text, pending? := some { pending with text := "" } }
      else
        pure collector
    | none => pure collector

/-- Reads the end of an element. -/
def stop (collector : Collector) (name : List Char) : Except SheetError Collector := do
  let name := String.ofList (Markup.localName name)
  if name = "cell" then
    match collector.pending? with
    | some pending =>
      let record ← finishCell pending
      pure ⟨record :: collector.records, none, .outside⟩
    -- The end of a cell that was never started.
    | none => pure { collector with field := .outside }
  else if name = "bgcolor" ∨ name = "text" then
    pure { collector with field := .outside }
  else
    pure collector

/-- Reads one event of a document. -/
def step (collector : Collector) : Markup.Event → Except SheetError Collector
  | .start tag => collector.start tag
  | .empty tag =>
    -- A cell without content starts and ends at once; other empty elements say nothing.
    if String.ofList (Markup.localName tag.name) = "cell" then do
      let record ← finishCell (← startCell tag)
      pure { collector with records := record :: collector.records }
    else
      pure collector
  | .stop name => collector.stop name
  | .text text =>
    match collector.pending? with
    | some pending =>
      match Markup.unescape text with
      | .ok text => pure (collector.addText pending text)
      | .error fault => throw (.markup (.escape fault))
    | none => pure collector
  | .cdata text =>
    match collector.pending?, collector.field with
    | some pending, .text => pure (collector.addText pending text)
    | _, _ => pure collector

end Collector

/-- Reads the records of a document in order. The first fault ends the reading, whether it is one of
the document or one of its cells. -/
def parse (document : String) : Except SheetError (List CellRecord) := do
  let (events, fault?) := Markup.events document
  -- The events before a fault of the document are read first, and their own faults reported.
  let collector ← events.foldlM Collector.step .initial
  match fault? with
  | some fault => throw (.markup fault)
  | none => pure collector.records.reverse

/-- The lines of a record in a document. -/
def lines (record : CellRecord) : String :=
  "  <cell name=\"" ++ record.cell.name ++ "\">\n" ++
  "    <bgcolor>" ++ Color.text record.bgColor ++ "</bgcolor>\n" ++
  "    <text>" ++ Markup.escape record.text ++ "</text>\n" ++
  "  </cell>\n"

/-- Writes records as a document, in the order given. -/
def document (records : List CellRecord) : String :=
  "<?xml version=\"1.0\" encoding=\"utf-8\"?>\n<spreadsheet>\n" ++
    String.join (records.map lines) ++ "</spreadsheet>\n"

end CellRecord

end Worksheet
