import Worksheet.Cell
import Worksheet.Formula.Error

/-!
# The journal

Whatever happens to a sheet is written down in order: each change of a cell, and what was noticed on
the way. Those who watch a sheet are told its changes; a log tells all of it.
-/

namespace Worksheet

/-- A line of the journal. A formula is converted to postfix form or refused, in a cell or without
one; a cell is computed again because it reads one that has changed, or is found on a path back to
itself; and so many cells are read from a file or written to it. -/
inductive Entry where
  | change (cell : CellRef) (kind : CellChange)
  | converted (formula form : String)
  | recomputing (cell : CellRef)
  | rejected (cell : CellRef) (formula : String) (cause : FormulaError)
  | rejectedAlone (formula : String) (cause : FormulaError)
  | circular (cell : CellRef) (path : List CellRef)
  | loaded (count : Nat) (path : String)
  | saved (count : Nat) (path : String)
deriving DecidableEq, Repr

/-- The change that an entry tells, if it tells one. -/
def Entry.change? : Entry → Option (CellRef × CellChange)
  | change cell kind => some (cell, kind)
  | _ => none

/-- What has happened, in order. -/
abbrev Journal := Array Entry

namespace Journal

/-- The changes of cells in a journal, in order. -/
def changes (journal : Journal) : List (CellRef × CellChange) :=
  journal.toList.filterMap Entry.change?

/-- What watchers are told, who are numbered from zero: every change is told to each of them in turn
before the next change is told. -/
def announcements (journal : Journal) (watchers : Nat) :
    List (Nat × CellRef × CellChange) :=
  journal.changes.flatMap fun change => (List.range watchers).map fun watcher => (watcher, change)

end Journal

end Worksheet
