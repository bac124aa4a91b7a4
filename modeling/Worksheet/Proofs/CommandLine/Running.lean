import Mathlib.Data.List.TakeWhile
import Worksheet.CommandLine.Run
import Worksheet.Proofs.Sheet.Unmodified

/-!
# The parts of a run

A run opens a file, makes edits one after the other, and then saves and answers. Each part is said
here once, for when it is done and for when it fails. A part that fails writes no file, and only the
last one writes any; so a failure before it leaves no trace.
-/

namespace Worksheet.CommandLine

/-! ### Attempts -/

section Trying

variable {α : Type} {attempt : String} {operation : SessionM α} {session next : Session}

end Trying

/-! ### Edits -/

section Edits

variable {size : Dimensions} {session : Session} {edit : String} {cell : CellRef} {text : String}

/-- A sheet after edits, one after the other. -/
def edited (sheet : Sheet) (edits : List (CellRef × String)) : Sheet :=
  sheet.afterAll (edits.map fun edit => .editText edit.1 edit.2)

end Edits

/-! ### Opening a file -/

section Opening

/-- The size that the settings of a run ask for. -/
def Options.size (options : Options) (files : FileTree) : Dimensions :=
  (Settings.load files (options.config?.map argumentPath)).1.dimensions

/-- What a run starts with. -/
def Options.initial (options : Options) (files : FileTree) : Session :=
  ⟨files, Sheet.blank (options.size files)⟩

/-- The sheet that the edits are made in: the one in the file that is named, or a blank one. -/
def Options.start (options : Options) (files : FileTree) : Except SheetError Session :=
  Session.start (options.size files) (options.file?.map argumentPath) files

/-- Opens the file that options name, if they name one. -/
def opening (options : Options) : RunM Unit :=
  match options.file? with
  | some file => trying ("Failed to open " ++ file) (Session.openFile (argumentPath file))
  | none => pure ()

variable {size : Dimensions} {options : Options} {files : FileTree} {session : Session}

end Opening

/-! ### Finishing -/

section Finishing

/-- What options want to know of a sheet: the value of a formula in it, where it has been saved, or
its cells. -/
def Options.answer (options : Options) (sheet : Sheet) : Answer :=
  match options.command?, options.output? with
  | some formula, _ => .value (sheet.document.evaluate formula).1
  | none, some output => .saved (argumentPath output)
  | none, none => .listing sheet.populated

end Finishing

end Worksheet.CommandLine
