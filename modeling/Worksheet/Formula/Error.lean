import Worksheet.Text.Quoted

/-!
# Why a formula has no value

The causes for which a formula is refused, each with its message. None of them leaves the sheet: a
refused formula displays the error value.
-/

namespace Worksheet

/-- The cause for which a formula is refused. An operand is no number although it starts like one,
operands dangle if no operator joins them, and a reference is not resolved if it names no cell of
the sheet. -/
inductive FormulaError where
  | prohibitedCharacter (c : Char)
  | invalidNumber (token : String)
  | unbalancedParentheses
  | missingOperand
  | danglingOperand
  | tooDeep (limit : Nat)
  | unresolvedReference (name : String)
deriving DecidableEq, Repr

/-- The message of a cause. -/
def FormulaError.message : FormulaError → String
  | prohibitedCharacter c => "Prohibited character in formula: " ++ Text.quoteChar c
  | invalidNumber token => "Invalid number: " ++ token
  | unbalancedParentheses => "Unbalanced parentheses"
  | missingOperand => "Operator is missing an operand"
  | danglingOperand => "Expression has operands without an operator"
  | tooDeep limit => "Expression nests deeper than " ++ Nat.repr limit ++ " levels"
  | unresolvedReference name => "Unresolved cell reference: " ++ name

end Worksheet
