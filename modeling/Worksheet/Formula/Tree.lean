import Worksheet.Formula.Postfix
import Worksheet.Number.Reading
import Worksheet.Text.Blank

/-!
# Trees of operations

A postfix form is folded into a tree of operations with one stack. The tree is limited to 256
levels. It is evaluated against a table of values for its variables; a variable without a value
counts as zero.
-/

namespace Worksheet

/-- A tree of operations on numbers and variables. -/
inductive Expr where
  | constant (value : Float)
  | reference (name : String)
  | operation (op : Operator) (left right : Expr)
deriving DecidableEq

/-- The values of variables, each name once, the latest first. -/
structure Bindings where
  entries : List (String × Float)

namespace Bindings

/-- No variable has a value. -/
def empty : Bindings := ⟨[]⟩

/-- Gives a variable a value, in place of one that it has. -/
def set (bindings : Bindings) (name : String) (value : Float) : Bindings :=
  ⟨(name, value) :: bindings.entries.filter fun entry => entry.1 ≠ name⟩

/-- The value of a variable. -/
def get? (bindings : Bindings) (name : String) : Option Float :=
  bindings.entries.lookup name

/-- The number of variables that have a value. -/
def size (bindings : Bindings) : Nat :=
  bindings.entries.length

end Bindings

namespace Expr

/-- The value of a tree. -/
def eval (bindings : Bindings) : Expr → Float
  | constant value => value
  | reference name => (bindings.get? name).getD 0
  | operation op left right => op.apply (left.eval bindings) (right.eval bindings)

/-- The number of levels of a tree. -/
def depth : Expr → Nat
  | constant _ => 1
  | reference _ => 1
  | operation _ left right => 1 + max left.depth right.depth

/-- The variables of a tree, from left to right and with repetitions. -/
def variableNames : Expr → List String
  | constant _ => []
  | reference name => [name]
  | operation _ left right => left.variableNames ++ right.variableNames

/-- The most levels that a tree may have. -/
def maxDepth : Nat := 256

/-- The tree of an operand: a number if it starts with a digit or a point, else a variable. -/
def ofOperand (text : List Char) : Except FormulaError Expr :=
  match text with
  | [] => throw .missingOperand
  | c :: _ =>
    let token := String.ofList text
    if c.isDigit ∨ c = '.' then
      match Number.ofText? token with
      | some value => pure (constant value)
      | none => throw (.invalidNumber token)
    else
      pure (.reference token)

/-- Reads one item of a postfix form: an operand is put on the stack, an operator takes two trees
from it and puts their operation there. Each tree stands with its depth. -/
def push (stack : List (Expr × Nat)) : Formula.Item → Except FormulaError (List (Expr × Nat))
  | .operand text => do
    let tree ← ofOperand text
    pure ((tree, 1) :: stack)
  | .operator op =>
    -- The operand on the right has been read last.
    match stack with
    | (right, rightDepth) :: (left, leftDepth) :: rest =>
      let depth := 1 + max leftDepth rightDepth
      if maxDepth < depth then throw (.tooDeep maxDepth)
      else pure ((operation op left right, depth) :: rest)
    | _ => throw .missingOperand

/-- The tree of a postfix form, none if it has no items. -/
def ofItems (items : List Formula.Item) : Except FormulaError (Option Expr) := do
  match ← items.foldlM push [] with
  | [] => pure none
  | [(tree, _)] => pure (some tree)
  | _ => throw .danglingOperand

/-- The tree of the text of a postfix form. -/
def ofPostfix (text : String) : Except FormulaError (Option Expr) :=
  ofItems (Formula.itemsOfText text)

/-- Compiles an expression, with the blanks in it left out. -/
def compile (expression : String) : Except FormulaError (Option Expr) := do
  ofPostfix (← Formula.toPostfix (Text.condense expression))

/-- The value of what an expression compiles to; without a tree it is zero. -/
def evalOption (bindings : Bindings) (tree? : Option Expr) : Float :=
  match tree? with
  | some tree => tree.eval bindings
  | none => 0

end Expr

end Worksheet
