import Worksheet.Sheet.Journal

/-!
# The log

The journal of a sheet as lines of text. Every line has a level and names the part of the program
that it comes from; a log of some level shows the lines of this level and of the graver ones.
-/

namespace Worksheet

/-- How much a log shows, from nothing over failures, warnings, work with files and formulas without
a value to every single step. -/
inductive LogLevel where
  | off | error | warn | info | debug | trace
deriving DecidableEq, Repr

namespace LogLevel

/-- All levels, from the least to the most. -/
def all : List LogLevel := [off, error, warn, info, debug, trace]

/-- The place of a level among all of them. -/
def rank : LogLevel → Nat
  | off => 0
  | error => 1
  | warn => 2
  | info => 3
  | debug => 4
  | trace => 5

/-- The name of a level. -/
def name : LogLevel → String
  | off => "OFF"
  | error => "ERROR"
  | warn => "WARN"
  | info => "INFO"
  | debug => "DEBUG"
  | trace => "TRACE"

/-- The level with a name, in letters of either case. -/
def ofName? (name : String) : Option LogLevel :=
  all.find? fun level => level.name = name.map Char.toUpper

end LogLevel

namespace Entry

/-- The level of an entry. -/
def level : Entry → LogLevel
  | change _ _ | converted _ _ | recomputing _ => .trace
  | rejected _ _ _ | rejectedAlone _ _ => .debug
  | circular _ _ => .warn
  | loaded _ _ | saved _ _ => .info

/-- The part of the program that an entry comes from. -/
def source : Entry → String
  | change _ _ => "cellcalc_core::document::state"
  | converted _ _ => "cellcalc_engine::engine::tree"
  | recomputing _ | rejected _ _ _ | rejectedAlone _ _ | circular _ _ =>
    "cellcalc_core::document::ops"
  | loaded _ _ | saved _ _ => "cellcalc_core::document::io"

/-- What an entry says. -/
def message : Entry → String
  | change cell kind => cell.name ++ " " ++ kind.label
  | converted formula form => Text.quote formula ++ " -> postfix " ++ Text.quote form
  | recomputing cell => "Recomputing " ++ cell.name ++ " after a reference changed"
  | rejected cell formula cause =>
    cell.name ++ ": rejected formula " ++ Text.quote formula ++ ": " ++ cause.message
  | rejectedAlone formula cause =>
    "Rejected formula " ++ Text.quote formula ++ ": " ++ cause.message
  | circular cell path =>
    cell.name ++ ": circular reference " ++ String.intercalate " -> " (path.map CellRef.name)
  | loaded count path => "Loaded " ++ Nat.repr count ++ " cells from " ++ path
  | saved count path => "Saved " ++ Nat.repr count ++ " cells to " ++ path

/-- The line of the log for an entry. -/
def line (entry : Entry) : String :=
  "[" ++ entry.level.name ++ "] " ++ entry.source ++ ": " ++ entry.message

end Entry

/-- The lines of a journal that a log of some level shows, in order. -/
def Journal.log (journal : Journal) (level : LogLevel) : List String :=
  (journal.toList.filter fun entry => entry.level.rank ≤ level.rank).map Entry.line

end Worksheet
