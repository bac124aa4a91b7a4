import Worksheet.Formula.Operator

/-!
# Tokens of a formula

Operators and parentheses stand for themselves; what stands between them, up to the next one, is an
operand, whatever characters it has.
-/

namespace Worksheet.Formula

/-- A piece of an expression. Operands are longest runs of characters that are neither operators nor
parentheses. -/
inductive Token where
  | operand (text : List Char)
  | operator (op : Operator)
  | opening
  | closing
deriving DecidableEq, Repr

namespace Token

/-- The token that a character is by itself. -/
def ofSymbol? (c : Char) : Option Token :=
  if c = '(' then some opening
  else if c = ')' then some closing
  else (Operator.ofSymbol? c).map operator

/-- Puts one more character before the tokens of a text. -/
def attach (c : Char) (tokens : List Token) : List Token :=
  match ofSymbol? c with
  | some token => token :: tokens
  | none =>
    match tokens with
    | operand text :: rest => operand (c :: text) :: rest
    | tokens => operand [c] :: tokens

/-- The tokens of a text. -/
def scan (text : List Char) : List Token :=
  text.foldr attach []

/-- The characters of a token. -/
def text : Token → List Char
  | operand text => text
  | operator op => [op.symbol]
  | opening => ['(']
  | closing => [')']

end Token

end Worksheet.Formula
