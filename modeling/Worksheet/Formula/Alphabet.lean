import Worksheet.Formula.Error
import Worksheet.Formula.Operator

/-!
# The alphabet of formulas

A formula is written with operators, parentheses, capital letters, digits, the point and the space.
The first other character refuses it, before anything else is looked at.
-/

namespace Worksheet.Formula

/-- A character that may stand in a formula. -/
def isAllowed (c : Char) : Bool :=
  (Operator.ofSymbol? c).isSome || c == '(' || c == ')' || c.isUpper || c.isDigit || c == '.' ||
    c == ' '

/-- The first character that may not stand in a formula. -/
def prohibited? (text : String) : Option Char :=
  text.toList.find? fun c => !isAllowed c

/-- Refuses a formula for its first prohibited character. -/
def checkCharacters (text : String) : Except FormulaError Unit :=
  match prohibited? text with
  | some c => throw (.prohibitedCharacter c)
  | none => pure ()

end Worksheet.Formula
