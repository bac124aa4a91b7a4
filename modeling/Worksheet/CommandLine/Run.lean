import Worksheet.CommandLine.Options
import Worksheet.Session
import Worksheet.Settings.Load

/-!
# The program

A run opens a file or starts with a blank sheet, makes the edits, saves the sheet if asked, and then
shows the value of a formula or a list of the populated cells. The first failure ends it, so no file
is written unless all edits could be made.

The log and all warnings and failures go to one stream of lines, the answers to another one.
-/

namespace Worksheet.CommandLine

/-- What a run leaves behind: the lines of answers, those of the log, of warnings and of failures,
and the files. -/
structure Outcome where
  success : Bool
  output : List String
  messages : List String
  files : FileTree

/-- Why a run fails: messages, from what was tried to the cause. -/
abbrev Failure := List String

/-- A part of a run. -/
abbrev RunM := ExceptT Failure (StateM Session)

/-- What a run answers. -/
inductive Answer where
  | saved (path : Path)
  | value (text : String)
  | listing (cells : List Cell)

namespace Answer

/-- The lines of an answer. -/
def lines : Answer → List String
  | saved path => ["Saved to " ++ path.shown]
  | value text => [text]
  | listing cells => cells.map fun cell =>
      cell.position.name ++ "\t" ++ cell.text ++ "\t" ++ cell.value

/-- An answer is what was asked for, unless it is the error value of a formula. -/
def isSuccess : Answer → Bool
  | value text => text ≠ Cell.errorValue
  | _ => true

end Answer

/-- Carries out an operation; if it fails, it is said what was tried. -/
def trying {α : Type} (attempt : String) (operation : SessionM α) : RunM α := fun session =>
  match operation.run session with
  | (.ok result, session) => (.ok result, session)
  | (.error cause, session) => (.error (attempt :: cause.chain), session)

/-- The name and the text of an edit, which are on both sides of its first equals sign. -/
def splitEdit (edit : String) : Option (String × String) :=
  match edit.toList.dropWhile (· != '=') with
  | [] => none
  | _ :: text => some (String.ofList (edit.toList.takeWhile (· != '=')), String.ofList text)

/-- A path as it is given on the command line. -/
def argumentPath (text : String) : Path := ⟨.working, text⟩

/-- The files that a run may read or write. -/
def Options.paths (options : Options) : List Path :=
  (options.config?.map argumentPath).getD Settings.usualPath ::
    (options.file?.toList ++ options.output?.toList).map argumentPath

/-- Makes an edit. -/
def applyEdit (edit : String) : RunM Unit :=
  match splitEdit edit with
  | none => throw ["Invalid edit " ++ Text.quote edit ++ ": expected CELL=TEXT"]
  | some (name, text) =>
    match CellRef.ofName? (Text.trim name) with
    | none => throw ["Invalid cell name " ++ Text.quote name ++ " in edit " ++ Text.quote edit]
    | some cell =>
      trying ("Failed to set " ++ Text.trim name) (Session.onSheet (Sheet.editText cell text))

/-- Does what options ask for, once the settings are known. -/
def work (options : Options) : RunM Answer := do
  if let some file := options.file? then
    trying ("Failed to open " ++ file) (Session.openFile (argumentPath file))
  options.edits.forM applyEdit
  -- The sheet is saved before a formula is evaluated, which may fail.
  let saved? ← options.output?.mapM fun output =>
    trying ("Failed to save " ++ output) (Session.saveAs (argumentPath output))
  match options.command?, saved? with
  | some formula, _ =>
    return .value (← Session.evaluate formula)
  | none, some path => return .saved path
  | none, none => return .listing (← get).sheet.populated

/-- The level of the log that was asked for. -/
def verbosityLevel? : Nat → Option LogLevel
  | 0 => none
  | 1 => some .info
  | 2 => some .debug
  | _ => some .trace

/-- The text of a line with a warning. -/
def warningLine (warning : SettingsWarning) : String := "Warning: " ++ warning.message

/-- The text of a line with a failure. -/
def failureLine (failure : Failure) : String := "Error: " ++ String.intercalate ": " failure

/-- Carries out what options ask for. -/
def Options.run (options : Options) (files : FileTree) : Outcome :=
  let (settings, warnings) := Settings.load files (options.config?.map argumentPath)
  let (level?, warnings) :=
    match settings.logLevel with
    | .ok level? => (level?, warnings)
    | .error warning => (none, warnings ++ [warning])
  let level := ((verbosityLevel? options.verbosity).or level?).getD .warn
  let (result, session) := (work options).run ⟨files, Sheet.blank settings.dimensions⟩
  let messages := warnings.map warningLine ++ session.sheet.journal.log level
  match result with
  | .ok answer => ⟨answer.isSuccess, answer.lines, messages, session.files⟩
  | .error failure => ⟨false, [], messages ++ [failureLine failure], session.files⟩

/-- Carries out what arguments ask for. -/
def run (arguments : List String) (files : FileTree) : Outcome :=
  match Options.ofArguments arguments with
  | .ok (some options) => options.run files
  | .ok none => ⟨true, [], usage, files⟩
  | .error error =>
    ⟨false, [], failureLine [error.message] :: (if error.showsUsage then usage else []), files⟩

end Worksheet.CommandLine
