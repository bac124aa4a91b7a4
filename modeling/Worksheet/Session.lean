import Worksheet.Files.Tree
import Worksheet.Sheet.Action

/-!
# Sessions

A session is a sheet together with the files that it is loaded from and saved to. Loading reads and
checks the whole file before it touches the sheet; a sheet counts as not modified right after it was
loaded or saved.
-/

namespace Worksheet

/-- A sheet and the files around it. -/
structure Session where
  files : FileTree
  sheet : Sheet

/-- An operation on a session. -/
abbrev SessionM := ExceptT SheetError (StateM Session)

namespace Session

/-- Carries out an operation on the sheet of a session. -/
def onSheet {α : Type} (operation : SheetM α) : SessionM α := fun session =>
  let (result, sheet) := operation.run session.sheet
  (result, { session with sheet })

/-- The files of a session, to be read or written. -/
def onFiles {α : Type} (access : FileTree → Except FileError α) : SessionM α := do
  match access (← get).files with
  | .ok result => pure result
  | .error cause => throw (.file cause)

/-- Changes the sheet of a session. -/
def modifySheet (change : Sheet → Sheet) : SessionM Unit :=
  modify fun session => { session with sheet := change session.sheet }

/-- The value that a formula would have now, without a cell that holds it. -/
def evaluate (formula : String) : StateM Session String := fun session =>
  let (value, sheet) := (Sheet.evaluate formula).run session.sheet
  (value, { session with sheet })

/-- Replaces the sheet by the one in a file. -/
def loadFile (path : Path) : SessionM Unit := do
  let document ← onFiles fun files => files.readText path
  let records ← (CellRecord.parse document : Except SheetError _)
  onSheet (Sheet.loadRecords records)
  modifySheet fun sheet =>
    { sheet with path? := some path, modified := false }.note #[.loaded records.length path.shown]

/-- Saves the sheet to its file, and says where that is. -/
def saveFile : SessionM Path := do
  let sheet := (← get).sheet
  match sheet.path? with
  | none => throw .noFilePath
  | some path =>
    let files ← onFiles fun files => files.writeText path (CellRecord.document sheet.records)
    modify fun session => { session with files }
    modifySheet fun sheet =>
      { sheet with modified := false }.note #[.saved sheet.records.length path.shown]
    pure path

/-- Saves the sheet to a file, which is its file from now on even if it cannot be written. -/
def saveAs (path : Path) : SessionM Path := do
  modifySheet fun sheet => { sheet with path? := some path }
  saveFile

/-- Loads a file into the sheet if there is one at the path; if not, the sheet will be saved there.
-/
def openFile (path : Path) : SessionM Unit := do
  if (← get).files.contains path then
    loadFile path
  else
    modifySheet fun sheet => { sheet with path? := some path, modified := false }

/-- Starts with a new sheet and the file at a path, if one is given. -/
def start (size : Dimensions) (path? : Option Path) (files : FileTree) :
    Except SheetError Session := do
  let sheet ← Sheet.create size
  match path? with
  | none => pure ⟨files, sheet⟩
  | some path =>
    let (result, session) := (openFile path).run ⟨files, sheet⟩
    result
    pure session

/-- An operation on a session with its arguments. A file that the sheet is saved to is its file from
now on. -/
inductive Action where
  | edit (action : Sheet.Action)
  | loadFile (path : Path)
  | saveFile
  | saveAs (path : Path)

/-- Carries out an action. -/
def perform : Action → SessionM Unit
  | .edit action => onSheet (Sheet.perform action)
  | .loadFile path => loadFile path
  | .saveFile => discard saveFile
  | .saveAs path => discard (saveAs path)

/-- The session after an action, whether it failed or not. -/
def after (session : Session) (action : Action) : Session :=
  ((perform action).run session).2

/-- The session after a run of actions. -/
def afterAll (session : Session) (actions : List Action) : Session :=
  actions.foldl after session

end Session

end Worksheet
