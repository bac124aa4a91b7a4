import Worksheet.CellRef
import Worksheet.Formula.Error

/-!
# Variables of a text

A variable is a longest run of capital letters followed by digits. The variables of a text stand in
the order in which they occur, as often as they occur, whatever is between them.
-/

namespace Worksheet.Formula

/-- What is known of a text from its end: the run of letters and digits that it starts with, and the
variables behind that run. The run has its letters, if any, before its digits. -/
structure VariableScan where
  run : List Char
  found : List String
deriving DecidableEq, Repr

namespace VariableScan

/-- All variables, the run among them if it starts with a letter. -/
def names (scan : VariableScan) : List String :=
  match scan.run with
  | c :: _ => if c.isUpper then String.ofList scan.run :: scan.found else scan.found
  | [] => scan.found

/-- Puts one more character before a text. A letter or a digit lengthens the run, but a digit does
not lengthen a run that starts with a letter; any other character ends the run. -/
def extend (c : Char) (scan : VariableScan) : VariableScan :=
  if c.isUpper then ⟨c :: scan.run, scan.found⟩
  else if c.isDigit then
    match scan.run with
    | d :: _ => if d.isUpper then ⟨[c], scan.names⟩ else ⟨c :: scan.run, scan.found⟩
    | [] => ⟨[c], scan.found⟩
  else ⟨[], scan.names⟩

end VariableScan

/-- The variables of a text, in order and with repetitions. -/
def variableNames (text : String) : List String :=
  (text.toList.foldr VariableScan.extend ⟨[], []⟩).names

/-- The variables of a text with the cells of a grid that they name. The first one that names none
refuses the formula. -/
def resolve (text : String) (rows columns : Nat) : Except FormulaError (List (String × CellRef)) :=
  (variableNames text).mapM fun name =>
    match CellRef.resolve? name rows columns with
    | some cell => pure (name, cell)
    | none => throw (.unresolvedReference name)

end Worksheet.Formula
