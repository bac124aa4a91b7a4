import Worksheet.Formula.Error
import Worksheet.Formula.Token

/-!
# Postfix form

In postfix form every operator follows its two operands, and no parentheses are needed. It is
written as one text in which each operand is ended by a bar: `2+3*4` becomes `2|3|4|*+`.

An expression is converted with a stack of operators that wait for their right operand. An operator
sends those waiting before it to the output as long as they take the operand between them; a closing
parenthesis sends all back to the opening one.
-/

namespace Worksheet.Formula

/-- An item of a postfix form. An operator is applied to the two values before it. -/
inductive Item where
  | operand (text : List Char)
  | operator (op : Operator)
deriving DecidableEq, Repr

/-- The character that ends an operand. -/
def delimiter : Char := '|'

namespace Item

/-- An item as it is written. -/
def text : Item → List Char
  | operand text => text ++ [delimiter]
  | operator op => [op.symbol]

end Item

/-- What waits on the stack of a conversion: a parenthesis that is open, or an operator whose right
operand is still read. -/
inductive Waiting where
  | opening
  | operator (op : Operator)
deriving DecidableEq, Repr

/-- The state of a conversion. Both lists have the latest first. -/
structure Yard where
  waiting : List Waiting
  output : List Item
deriving DecidableEq, Repr

namespace Waiting

/-- The item that a waiting operator becomes. -/
def item? : Waiting → Option Item
  | opening => none
  | operator op => some (.operator op)

/-- A waiting operator that takes its right operand before another one does. -/
def goesBefore (incoming : Operator) : Waiting → Bool
  | opening => false
  | operator op => op.bindsBefore incoming

end Waiting

namespace Yard

/-- Sends those at the top of the stack that satisfy a test to the output. -/
def release (test : Waiting → Bool) (yard : Yard) : Yard :=
  { waiting := yard.waiting.dropWhile test
    output := ((yard.waiting.takeWhile test).filterMap Waiting.item?).reverse ++ yard.output }

/-- Sends the operators back to the last opening parenthesis to the output. -/
def releaseOperators (yard : Yard) : Yard :=
  yard.release fun waiting => waiting.item?.isSome

/-- Reads one token. -/
def step (yard : Yard) : Token → Except FormulaError Yard
  | .operand text => pure { yard with output := .operand text :: yard.output }
  | .operator op =>
    -- Operators that bind before this one have both of their operands by now.
    let yard := yard.release (Waiting.goesBefore op)
    pure { yard with waiting := .operator op :: yard.waiting }
  | .opening => pure { yard with waiting := .opening :: yard.waiting }
  | .closing =>
    let yard := yard.releaseOperators
    -- Nothing but an opening parenthesis can be left on top.
    match yard.waiting with
    | _ :: waiting => pure { yard with waiting }
    | [] => throw .unbalancedParentheses

/-- Ends a conversion: what still waits is sent to the output, if it is operators alone. -/
def finish (yard : Yard) : Except FormulaError (List Item) :=
  let yard := yard.releaseOperators
  match yard.waiting with
  | [] => pure yard.output.reverse
  | _ :: _ => throw .unbalancedParentheses

end Yard

/-- The postfix form of a sequence of tokens. -/
def itemsOfTokens (tokens : List Token) : Except FormulaError (List Item) := do
  let yard ← tokens.foldlM Yard.step ⟨[], []⟩
  yard.finish

/-- A postfix form as it is written. -/
def textOfItems (items : List Item) : String :=
  String.ofList (items.flatMap Item.text)

/-- Converts an expression to the text of its postfix form. -/
def toPostfix (expression : String) : Except FormulaError String :=
  textOfItems <$> itemsOfTokens (Token.scan expression.toList)

/-- The state of reading a postfix form from its text: the operand that has begun, and the items
before it, the latest first. -/
structure ItemScan where
  current? : Option (List Char)
  done : List Item
deriving DecidableEq, Repr

namespace ItemScan

/-- Reads one character. An operator stands for itself only where no operand has begun. -/
def step (scan : ItemScan) (c : Char) : ItemScan :=
  match scan.current? with
  | some read =>
    if c = delimiter then ⟨none, .operand read.reverse :: scan.done⟩
    else ⟨some (c :: read), scan.done⟩
  | none =>
    match Operator.ofSymbol? c with
    | some op => ⟨none, .operator op :: scan.done⟩
    | none =>
      if c = delimiter then ⟨none, .operand [] :: scan.done⟩ else ⟨some [c], scan.done⟩

/-- The items read in all; the end of the text ends an operand as well. -/
def items (scan : ItemScan) : List Item :=
  match scan.current? with
  | some read => (.operand read.reverse :: scan.done).reverse
  | none => scan.done.reverse

end ItemScan

/-- Reads a postfix form from its text. -/
def itemsOfText (text : String) : List Item :=
  (text.toList.foldl ItemScan.step ⟨none, []⟩).items

end Worksheet.Formula
