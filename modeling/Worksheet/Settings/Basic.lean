import Worksheet.Files.Path
import Worksheet.Log
import Worksheet.Sheet.Dimensions
import Worksheet.Text.Blank

/-!
# Settings

What a user can set in a file: the size of new sheets and how much the log shows. Every setting may
be missing. What is wrong with a file is no failure but a warning, and the file, or its size of the
sheet, is passed over.
-/

namespace Worksheet

/-- The settings of a user: the size of a sheet, and the name of a level of the log. -/
structure Settings where
  rows? : Option Nat
  columns? : Option Nat
  logLevel? : Option String
deriving DecidableEq, Repr

/-- What is wrong with settings: the file is not there, too large, unreadable or none of settings,
or it asks for a size that no sheet may have or for a level that the log does not have. -/
inductive SettingsWarning where
  | notFound (path : String)
  | tooLarge (path : String) (bytes : Nat)
  | unreadable (path : String) (cause : FileError)
  | malformed (path : String)
  | unusableSize (path : String) (cause : SheetError)
  | unknownLevel (name : String)
deriving DecidableEq, Repr

namespace Settings

/-- Nothing is set. -/
def unset : Settings := ⟨none, none, none⟩

/-- The most bytes that a file of settings may have. -/
def maxBytes : Nat := 1048576

/-- The size of a sheet, with the usual one for what is not set. -/
def dimensions (settings : Settings) : Dimensions where
  rows := settings.rows?.getD Dimensions.default.rows
  columns := settings.columns?.getD Dimensions.default.columns

/-- The level of the log, if one is set. -/
def logLevel (settings : Settings) : Except SettingsWarning (Option LogLevel) :=
  match settings.logLevel? with
  | none => pure none
  | some name =>
    match LogLevel.ofName? (Text.trim name) with
    | some level => pure (some level)
    | none => throw (.unknownLevel name)

end Settings

/-- The text of a warning. -/
def SettingsWarning.message : SettingsWarning → String
  | notFound path => "Config file not found: " ++ path
  | tooLarge path bytes => "Refusing to read " ++ path ++ ": file too large (" ++ Nat.repr bytes ++
      " bytes, max " ++ Nat.repr Settings.maxBytes ++ ")"
  | unreadable path cause => "Failed to read " ++ path ++ ": " ++ cause.message
  | malformed path => "Failed to parse " ++ path
  | unusableSize path cause => "Ignoring sheet size in " ++ path ++ ": " ++ cause.message
  | unknownLevel name => "Invalid log_level " ++ Text.quote name ++
      " (expected off, error, warn, info, debug or trace)"

end Worksheet
