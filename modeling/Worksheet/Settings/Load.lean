import Worksheet.Files.Tree
import Worksheet.Settings.Reader

/-!
# Where settings come from

Settings are read from a file that is named, or from the usual one in the home directory, which may
be missing.
-/

namespace Worksheet.Settings

/-- The usual file of settings. -/
def usualPath : Path := ⟨.home, ".config/cellcalc/config.toml"⟩

/-- Reads the settings in a file. -/
def read (files : FileTree) (path : Path) : Except SettingsWarning Settings := do
  let unreadable {α : Type} : Except FileError α → Except SettingsWarning α
    | .ok result => pure result
    | .error cause => throw (.unreadable path.shown cause)
  let bytes ← unreadable (files.size path)
  if maxBytes < bytes then throw (.tooLarge path.shown bytes)
  let text ← unreadable (files.readText path)
  match ofText? text with
  | some settings => pure settings
  | none => throw (.malformed path.shown)

/-- Passes over a size that no sheet may have. -/
def withUsableSize (settings : Settings) (path : Path) : Settings × List SettingsWarning :=
  match settings.dimensions.check with
  | .ok _ => (settings, [])
  | .error cause =>
    ({ settings with rows? := none, columns? := none }, [.unusableSize path.shown cause])

/-- The settings of a user, and what is wrong with them. -/
def load (files : FileTree) (named? : Option Path) : Settings × List SettingsWarning :=
  let path := named?.getD usualPath
  if files.contains path then
    match read files path with
    | .ok settings => settings.withUsableSize path
    | .error warning => (unset, [warning])
  else
    match named? with
    | some path => (unset, [.notFound path.shown])
    | none => (unset, [])

end Worksheet.Settings
