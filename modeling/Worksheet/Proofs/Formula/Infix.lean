import Worksheet.Formula.Postfix
import Worksheet.Proofs.Folds
import Worksheet.Proofs.Formula.Tokens

/-!
# Infix expressions and their postfix form

Infix expressions are given by a grammar with one rank for each strength of binding: sums bind
least, then come differences, products and quotients, and powers. Operators of one rank are grouped
from the left, but powers from the right, and parentheses may stand around any expression.

An expression of the grammar says how its operations are nested. The conversion sends the operands
and operators to the output in the order of that nesting: while an expression is read, the operators
that it leaves waiting are those at its right edge, none of which ranks below the expression.
-/

namespace Worksheet.Formula

/-- Operations on operands of some kind, nested in each other. -/
inductive Nesting (Operand : Type) where
  | operand (leaf : Operand)
  | operation (op : Operator) (left right : Nesting Operand)

/-- The items of a nesting in postfix order, where operands are written in some way. -/
def Nesting.items {Operand : Type} (spell : Operand → List Char) : Nesting Operand → List Item
  | operand leaf => [.operand (spell leaf)]
  | operation op left right => left.items spell ++ right.items spell ++ [.operator op]

/-- The operands of a nesting, from left to right. -/
def Nesting.leaves {Operand : Type} : Nesting Operand → List Operand
  | operand leaf => [leaf]
  | operation _ left right => left.leaves ++ right.leaves

/-- The ranks of infix expressions, from the one that binds least: sums of differences, differences
of products, products and quotients of powers, powers, and atoms, which are operands and what stands
in parentheses. -/
inductive Rank where
  | sum | difference | product | power | atom
deriving DecidableEq, Repr

/-- The least rank of the operators that an expression of some rank has outside parentheses. -/
def Rank.precedence : Rank → Nat
  | sum => Operator.add.precedence
  | difference => Operator.subtract.precedence
  | product => Operator.multiply.precedence
  | power => Operator.power.precedence
  | atom => Operator.power.precedence + 1

/-- An infix expression of some rank, as the grammar derives it. Powers on the right of another one
are applied first, other operations of one rank from the left. The last four constructors take an
expression of the next rank as it is. -/
inductive Infix (Operand : Type) : Rank → Type where
  | operand (leaf : Operand) : Infix Operand .atom
  | group (inside : Infix Operand .sum) : Infix Operand .atom
  | raise (base : Infix Operand .atom) (exponent : Infix Operand .power) : Infix Operand .power
  | multiply (left : Infix Operand .product) (right : Infix Operand .power) : Infix Operand .product
  | divide (left : Infix Operand .product) (right : Infix Operand .power) : Infix Operand .product
  | subtract (left : Infix Operand .difference) (right : Infix Operand .product) :
      Infix Operand .difference
  | add (left : Infix Operand .sum) (right : Infix Operand .difference) : Infix Operand .sum
  | power (inside : Infix Operand .atom) : Infix Operand .power
  | product (inside : Infix Operand .power) : Infix Operand .product
  | difference (inside : Infix Operand .product) : Infix Operand .difference
  | sum (inside : Infix Operand .difference) : Infix Operand .sum

namespace Infix

variable {Operand : Type} {rank : Rank}

/-- The characters of an expression, where operands are written in some way. -/
def characters (spell : Operand → List Char) {rank : Rank} : Infix Operand rank → List Char
  | operand leaf => spell leaf
  | group inside => '(' :: (inside.characters spell ++ [')'])
  | raise base exponent => base.characters spell ++ '^' :: exponent.characters spell
  | multiply left right => left.characters spell ++ '*' :: right.characters spell
  | divide left right => left.characters spell ++ '/' :: right.characters spell
  | subtract left right => left.characters spell ++ '-' :: right.characters spell
  | add left right => left.characters spell ++ '+' :: right.characters spell
  | power inside => inside.characters spell
  | product inside => inside.characters spell
  | difference inside => inside.characters spell
  | sum inside => inside.characters spell

/-- How the operations of an expression are nested. -/
def nesting {rank : Rank} : Infix Operand rank → Nesting Operand
  | operand leaf => .operand leaf
  | group inside => inside.nesting
  | raise base exponent => .operation .power base.nesting exponent.nesting
  | multiply left right => .operation .multiply left.nesting right.nesting
  | divide left right => .operation .divide left.nesting right.nesting
  | subtract left right => .operation .subtract left.nesting right.nesting
  | add left right => .operation .add left.nesting right.nesting
  | power inside => inside.nesting
  | product inside => inside.nesting
  | difference inside => inside.nesting
  | sum inside => inside.nesting

end Infix

/-! ### What a conversion leaves waiting -/

/-- No operator of a rank sends what waits on top to the output. -/
def Ready (rank : Rank) (waiting : List Waiting) : Prop :=
  ∀ top ∈ waiting.head?, ∀ op : Operator, rank.precedence ≤ op.precedence →
    top.goesBefore op = false

theorem Ready.mono {rank higher : Rank} (above : rank.precedence ≤ higher.precedence)
    {waiting : List Waiting} (ready : Ready rank waiting) : Ready higher waiting :=
  fun top first op ranks => ready top first op (Nat.le_trans above ranks)

theorem ready_opening (rank : Rank) (waiting : List Waiting) :
    Ready rank (.opening :: waiting) := by
  rintro top ⟨⟩ op -
  rfl

namespace Yard

variable {test : Waiting → Bool} {pending : List Operator} {waiting : List Waiting}
  {output : List Item}

/-- Operators that satisfy a test are sent to the output, up to the first that does not. -/
theorem release_pending (passes : ∀ op ∈ pending, test (.operator op) = true)
    (stops : ∀ top ∈ waiting.head?, test top = false) :
    release test ⟨pending.map .operator ++ waiting, output⟩ =
      ⟨waiting, (pending.map Item.operator).reverse ++ output⟩ := by
  have passes' : ∀ top ∈ pending.map Waiting.operator, test top = true :=
    List.forall_mem_map.mpr passes
  have dropped : waiting.dropWhile test = waiting := by
    cases waiting with
    | nil => rfl
    | cons top waiting => simp [stops top rfl]
  have taken : waiting.takeWhile test = [] := by
    cases waiting with
    | nil => rfl
    | cons top waiting => simp [stops top rfl]
  have items : (pending.map Waiting.operator).filterMap Waiting.item? =
      pending.map Item.operator := by
    rw [List.filterMap_map, ← List.filterMap_eq_map]
    rfl
  rw [release, List.dropWhile_append_of_pos passes', List.takeWhile_append_of_pos passes', dropped,
    taken, List.append_nil, items]

end Yard

theorem bindsBefore_iff {left right : Operator} : left.bindsBefore right = true ↔
    right.precedence < left.precedence ∨
      left.precedence = right.precedence ∧ right.associativity = .left := by
  simp [Operator.bindsBefore]

/-- An operator between expressions of two ranks makes one of a third rank: it sends all that the
left one leaves waiting to the output, and nothing in the right one sends the operator there. -/
structure Joins (left : Rank) (op : Operator) (right rank : Rank) : Prop where
  below : rank.precedence ≤ left.precedence
  belowToo : rank.precedence ≤ right.precedence
  ranks : rank.precedence ≤ op.precedence
  before : ∀ other : Operator, left.precedence ≤ other.precedence → other.bindsBefore op = true
  behind : ∀ other : Operator, right.precedence ≤ other.precedence → op.bindsBefore other = false

/-- An operator that is grouped from the left takes expressions of its own rank on its left. -/
theorem joins_of_left {op : Operator} {rank right : Rank} (own : rank.precedence = op.precedence)
    (left : op.associativity = .left) (above : rank.precedence < right.precedence) :
    Joins rank op right rank where
  below := Nat.le_refl _
  belowToo := Nat.le_of_lt above
  ranks := Nat.le_of_eq own
  before other ranks := by
    rw [bindsBefore_iff]
    exact (Nat.lt_or_eq_of_le (own ▸ ranks)).imp_right fun same => ⟨same.symm, left⟩
  behind other ranks := by
    have less : op.precedence < other.precedence := own ▸ Nat.lt_of_lt_of_le above ranks
    rw [← Bool.not_eq_true, bindsBefore_iff]
    rintro (greater | ⟨same, -⟩)
    · exact Nat.lt_asymm less greater
    · exact Nat.ne_of_lt less same

/-- A power takes powers on its right, and no operator ranks high enough to be left waiting on its
left. -/
theorem joins_power : Joins .atom .power .power .power where
  below := by decide
  belowToo := by decide
  ranks := by decide
  before := by rintro ⟨⟩ <;> decide
  behind := by rintro ⟨⟩ <;> decide

/-- Tokens that a conversion reads as an expression of some rank. Some of the operators are still
waiting afterwards; together with what has been sent they make up the items. -/
def Converts (rank : Rank) (tokens : List Token) (items : List Item) : Prop :=
  ∀ waiting output, Ready rank waiting → ∃ (pending : List Operator) (sent : List Item),
    tokens.foldlM Yard.step ⟨waiting, output⟩ =
      .ok ⟨pending.map .operator ++ waiting, sent ++ output⟩ ∧
    (∀ op ∈ pending, rank.precedence ≤ op.precedence) ∧
    (pending.map Item.operator).reverse ++ sent = items.reverse

namespace Converts

variable {rank leftRank rightRank : Rank} {tokens leftTokens rightTokens : List Token}
  {items leftItems rightItems : List Item}

theorem operand (text : List Char) : Converts .atom [.operand text] [.operand text] :=
  fun _ _ _ => ⟨[], [.operand text], rfl, by simp, rfl⟩

/-- An expression is one of every lower rank. -/
theorem mono {higher : Rank} (converts : Converts higher tokens items)
    (above : rank.precedence ≤ higher.precedence) : Converts rank tokens items := by
  intro waiting output ready
  obtain ⟨pending, sent, done, ranks, whole⟩ := converts waiting output (ready.mono above)
  exact ⟨pending, sent, done, fun op member => Nat.le_trans above (ranks op member), whole⟩

/-- Parentheses send everything between them to the output. -/
theorem group (inside : Converts .sum tokens items) :
    Converts .atom (.opening :: (tokens ++ [.closing])) items := by
  intro waiting output _
  -- Whatever waits below the parenthesis is out of reach for what is inside.
  obtain ⟨pending, sent, done, -, whole⟩ :=
    inside (.opening :: waiting) output (ready_opening .sum waiting)
  have closed : Yard.step ⟨pending.map .operator ++ .opening :: waiting, sent ++ output⟩ .closing =
      .ok ⟨waiting, items.reverse ++ output⟩ := by
    have stops : ∀ top ∈ (Waiting.opening :: waiting).head?, top.item?.isSome = false := by
      rintro top ⟨⟩
      rfl
    rw [Yard.step, Yard.releaseOperators, Yard.release_pending (fun _ _ => rfl) stops,
      ← List.append_assoc, whole]
    rfl
  refine ⟨[], items.reverse, ?_, by simp, rfl⟩
  exact foldlM_cons_ok rfl (foldlM_append_ok done (foldlM_singleton_ok closed))

/-- Two expressions with an operator between them. -/
theorem join {op : Operator} (joins : Joins leftRank op rightRank rank)
    (left : Converts leftRank leftTokens leftItems)
    (right : Converts rightRank rightTokens rightItems) :
    Converts rank (leftTokens ++ .operator op :: rightTokens)
      (leftItems ++ rightItems ++ [.operator op]) := by
  intro waiting output ready
  obtain ⟨leftPending, leftSent, leftDone, leftRanks, leftWhole⟩ :=
    left waiting output (ready.mono joins.below)
  -- The left one is complete when the operator comes, so all that it left waiting goes first.
  have pushed :
      Yard.step ⟨leftPending.map .operator ++ waiting, leftSent ++ output⟩ (.operator op) =
        .ok ⟨.operator op :: waiting, leftItems.reverse ++ output⟩ := by
    rw [Yard.step, Yard.release_pending
      (fun other member => joins.before other (leftRanks other member))
      (fun top first => ready top first op joins.ranks), ← List.append_assoc, leftWhole]
    rfl
  have readyRight : Ready rightRank (.operator op :: waiting) := by
    rintro top ⟨⟩ other otherRanks
    exact joins.behind other otherRanks
  obtain ⟨rightPending, rightSent, rightDone, rightRanks, rightWhole⟩ :=
    right (.operator op :: waiting) (leftItems.reverse ++ output) readyRight
  -- What the right one leaves waiting stands above the operator.
  refine ⟨rightPending ++ [op], rightSent ++ leftItems.reverse, ?_, ?_, ?_⟩
  · simpa using foldlM_append_ok leftDone (foldlM_cons_ok pushed rightDone)
  · intro other member
    rcases List.mem_append.mp member with onRight | last
    · exact Nat.le_trans joins.belowToo (rightRanks other onRight)
    · exact List.mem_singleton.mp last ▸ joins.ranks
  · simp [← rightWhole]

/-- All items of an expression are in the output in the end. -/
theorem itemsOfTokens_eq (converts : Converts rank tokens items) :
    itemsOfTokens tokens = .ok items := by
  obtain ⟨pending, sent, done, -, whole⟩ := converts [] [] (by simp [Ready])
  rw [itemsOfTokens, done]
  change Yard.finish _ = _
  rw [Yard.finish, Yard.releaseOperators, Yard.release_pending (fun _ _ => rfl) (by simp),
    List.append_nil, whole, List.reverse_reverse]
  rfl

end Converts

namespace Infix

variable {Operand : Type} {spell : Operand → List Char} {rank : Rank}

/-- The tokens of an expression are converted to the items of its nesting. -/
theorem converts (runs : ∀ leaf, IsRun (spell leaf)) (expression : Infix Operand rank) :
    Converts rank (Token.scan (expression.characters spell)) (expression.nesting.items spell) := by
  induction expression with
  | operand leaf =>
    rw [characters, Token.scan_of_isRun (runs leaf)]
    exact .operand _
  | group inside ih =>
    -- Both parentheses are places to cut the text at; so are the operators in the cases below.
    have opened : Token.scan ('(' :: (inside.characters spell ++ [')'])) =
        .opening :: (Token.scan (inside.characters spell) ++ [.closing]) := by
      rw [Token.scan_cons, Token.attach_symbol rfl, Token.scan_append_cons rfl]
      rfl
    rw [characters, opened]
    exact ih.group
  | raise base exponent baseConverts exponentConverts =>
    rw [characters, Token.scan_append_cons rfl]
    exact .join joins_power baseConverts exponentConverts
  | multiply left right leftConverts rightConverts =>
    rw [characters, Token.scan_append_cons rfl]
    exact .join (joins_of_left rfl rfl (by decide)) leftConverts rightConverts
  | divide left right leftConverts rightConverts =>
    rw [characters, Token.scan_append_cons rfl]
    exact .join (joins_of_left rfl rfl (by decide)) leftConverts rightConverts
  | subtract left right leftConverts rightConverts =>
    rw [characters, Token.scan_append_cons rfl]
    exact .join (joins_of_left rfl rfl (by decide)) leftConverts rightConverts
  | add left right leftConverts rightConverts =>
    rw [characters, Token.scan_append_cons rfl]
    exact .join (joins_of_left rfl rfl (by decide)) leftConverts rightConverts
  | power inside ih => exact ih.mono (by decide)
  | product inside ih => exact ih.mono (by decide)
  | difference inside ih => exact ih.mono (by decide)
  | sum inside ih => exact ih.mono (by decide)

end Infix

end Worksheet.Formula
