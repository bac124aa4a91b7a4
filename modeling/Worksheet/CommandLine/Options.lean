/-!
# Options

The arguments of the command line: a file, options with or without a value, and any number of edits.
The order of the arguments counts only among the edits, and for a value that is given twice the last
one counts.
-/

namespace Worksheet.CommandLine

/-- What the arguments ask for: a file to be opened, edits to be made in order, a formula to be
evaluated, a file to be written, a file of settings, and more lines of the log, so many times. -/
structure Options where
  file? : Option String
  edits : List String
  command? : Option String
  output? : Option String
  config? : Option String
  verbosity : Nat
deriving DecidableEq, Repr

/-- What is wrong with the arguments: an option has nothing behind it, there is no such option, or a
second file was given. -/
inductive UsageError where
  | missingEdit
  | missingFormula
  | missingOutput
  | missingConfig
  | unknownOption (argument : String)
  | unexpectedArgument (argument : String)
deriving DecidableEq, Repr

namespace UsageError

/-- The message of an error. -/
def message : UsageError → String
  | missingEdit => "--set requires CELL=TEXT"
  | missingFormula => "--command requires a formula"
  | missingOutput => "--output requires a file path"
  | missingConfig => "--config requires a file path"
  | unknownOption argument => "Unknown option: " ++ argument
  | unexpectedArgument argument => "Unexpected argument: " ++ argument

/-- The usage is shown with an error that is about an argument which should not be there. -/
def showsUsage : UsageError → Bool
  | unknownOption _ | unexpectedArgument _ => true
  | _ => false

end UsageError

/-- How the program is used. -/
def usage : List String := [
  "Usage: cellcalc [OPTIONS] [FILE]",
  "",
  "Arguments:",
  "  [FILE]                    Spreadsheet file to open (.xml)",
  "",
  "Options:",
  "  -s, --set <CELL>=<TEXT>   Set a cell's text, e.g. A1==B1*2 (can be repeated)",
  "  -c, --command <FORMULA>   Evaluate a formula against the sheet and print it",
  "  -o, --output <FILE>       Save the sheet as XML",
  "  --config <FILE>           Load settings from a TOML file",
  "  -v, --verbose             Log more to stderr (can be repeated)",
  "  -h, --help                Print help"]

/-- What an argument is, seen by itself. What starts with a hyphen and is no option is unknown.
Several requests for more lines of the log may stand in one argument, and are counted. -/
inductive Argument where
  | help
  | set
  | command
  | output
  | config
  | verbose (count : Nat)
  | unknown
  | file
deriving DecidableEq, Repr

/-- Tells what an argument is. Several letters `v` may stand behind one hyphen. -/
def Argument.ofText (text : String) : Argument :=
  if text = "-h" ∨ text = "--help" then .help
  else if text = "-s" ∨ text = "--set" then .set
  else if text = "-c" ∨ text = "--command" then .command
  else if text = "-o" ∨ text = "--output" then .output
  else if text = "--config" then .config
  else if text = "--verbose" then .verbose 1
  else
    match text.toList with
    | '-' :: letters =>
      if letters ≠ [] ∧ letters.all (· == 'v') then .verbose letters.length else .unknown
    | _ => .file

namespace Options

/-- Nothing is asked for. -/
def unset : Options := ⟨none, [], none, none, none, 0⟩

/-- Reads arguments one after the other. A request for help ends the reading, and gives no
options. -/
def read (options : Options) : List String → Except UsageError (Option Options)
  | [] => pure (some options)
  | argument :: rest =>
    match Argument.ofText argument with
    | .help => pure none
    | .set =>
      match rest with
      | edit :: rest => { options with edits := options.edits ++ [edit] }.read rest
      | [] => throw .missingEdit
    | .command =>
      match rest with
      | formula :: rest => { options with command? := some formula }.read rest
      | [] => throw .missingFormula
    | .output =>
      match rest with
      | path :: rest => { options with output? := some path }.read rest
      | [] => throw .missingOutput
    | .config =>
      match rest with
      | path :: rest => { options with config? := some path }.read rest
      | [] => throw .missingConfig
    | .verbose count => { options with verbosity := options.verbosity + count }.read rest
    | .unknown => throw (.unknownOption argument)
    | .file =>
      match options.file? with
      | none => { options with file? := some argument }.read rest
      | some _ => throw (.unexpectedArgument argument)

/-- The options in some arguments, unless they ask for help. -/
def ofArguments (arguments : List String) : Except UsageError (Option Options) :=
  Options.unset.read arguments

end Options

end Worksheet.CommandLine
