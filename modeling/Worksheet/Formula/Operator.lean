/-!
# Operators

The five binary operators of formulas. Subtraction binds more tightly than addition, which does not
show in a sum: `5 + 3 - 2` is `5 + (3 - 2)`. Powers associate to the right, all else to the left.
-/

namespace Worksheet

/-- Which of two operators of one rank is applied first. -/
inductive Associativity where
  | left | right
deriving DecidableEq, Repr

/-- A binary operator. -/
inductive Operator where
  | add | subtract | multiply | divide | power
deriving DecidableEq, Repr

namespace Operator

/-- The character that an operator is written as. -/
def symbol : Operator → Char
  | add => '+'
  | subtract => '-'
  | multiply => '*'
  | divide => '/'
  | power => '^'

/-- The operator that a character stands for. -/
def ofSymbol? : Char → Option Operator
  | '+' => some add
  | '-' => some subtract
  | '*' => some multiply
  | '/' => some divide
  | '^' => some power
  | _ => none

/-- The rank of an operator; a higher rank binds more tightly. -/
def precedence : Operator → Nat
  | add => 6
  | subtract => 7
  | multiply => 8
  | divide => 8
  | power => 10

/-- How operators of one rank are grouped. -/
def associativity : Operator → Associativity
  | power => .right
  | _ => .left

/-- Standing to the left of another operator, this one takes the operand between them. -/
def bindsBefore (left right : Operator) : Bool :=
  right.precedence < left.precedence ||
    (left.precedence == right.precedence && right.associativity == .left)

/-- The value of an operation on doubles. -/
def apply : Operator → Float → Float → Float
  | add, left, right => left + right
  | subtract, left, right => left - right
  | multiply, left, right => left * right
  | divide, left, right => left / right
  | power, left, right => Float.pow left right

@[simp] theorem ofSymbol?_symbol (operator : Operator) :
    ofSymbol? operator.symbol = some operator := by
  cases operator <;> rfl

theorem ofSymbol?_eq_some_iff {c : Char} {operator : Operator} :
    ofSymbol? c = some operator ↔ c = operator.symbol := by
  constructor
  · intro read
    unfold ofSymbol? at read
    split at read <;> cases read <;> rfl
  · rintro rfl
    exact ofSymbol?_symbol operator

end Operator

end Worksheet
