import Worksheet.Proofs.Formula.Infix
import Worksheet.Proofs.Formula.Postfix
import Worksheet.Proofs.Formula.Variables

/-!
# Trees from postfix forms

The items of a nesting, folded on any stack, leave its tree on top of the stack, unless the tree has
too many levels. Whatever the items are, a fold that succeeds gives a tree with the variables of the
operands in their order.
-/

namespace Worksheet

open Formula

/-- The tree of a nesting whose operands stand for trees. -/
def Formula.Nesting.expr {Operand : Type} (leaf : Operand → Expr) : Nesting Operand → Expr
  | operand inside => leaf inside
  | operation op left right => .operation op (left.expr leaf) (right.expr leaf)

/-- The operands among the items of a nesting are its own, in their order. -/
theorem Formula.Nesting.operands_items {Operand : Type} (spell : Operand → List Char)
    (nesting : Nesting Operand) :
    (nesting.items spell).flatMap Item.operands = nesting.leaves.map spell := by
  induction nesting with
  | operand leaf => rfl
  | operation op left right leftOwn rightOwn =>
    rw [items, List.flatMap_append, List.flatMap_append, leftOwn, rightOwn, leaves, List.map_append]
    exact List.append_nil _

theorem Formula.Nesting.exists_of_mem_operands {Operand : Type} {spell : Operand → List Char}
    {nesting : Nesting Operand} {text : List Char}
    (member : text ∈ (nesting.items spell).flatMap Item.operands) : ∃ leaf, spell leaf = text := by
  rw [operands_items] at member
  obtain ⟨leaf, -, same⟩ := List.mem_map.mp member
  exact ⟨leaf, same⟩

namespace Expr

/-- The variables of the tree of an operand: the operand itself, unless it is to be a number. -/
def namesOfOperand : List Char → List String
  | [] => []
  | c :: rest => if c.isDigit ∨ c = '.' then [] else [String.ofList (c :: rest)]

/-- The tree of an operand is a single level, a number or the operand as a variable. -/
theorem ofOperand_ok {text : List Char} {tree : Expr} (done : ofOperand text = .ok tree) :
    tree.depth = 1 ∧ tree.variableNames = namesOfOperand text := by
  unfold ofOperand at done
  split at done
  next => cases done
  next c rest =>
    dsimp only at done
    split at done
    next numeric =>
      split at done
      next value _ =>
        obtain rfl := Except.ok.inj done
        exact ⟨rfl, (if_pos numeric).symm⟩
      next => cases done
    next other =>
      obtain rfl := Except.ok.inj done
      exact ⟨rfl, (if_neg other).symm⟩

/-! ### Nestings -/

section Nestings

variable {Operand : Type} {spell : Operand → List Char} {leaf : Operand → Expr}

/-- A step that takes two trees from the stack. -/
theorem push_operator (op : Operator) (left right : Expr) (rest : List (Expr × Nat)) :
    push ((right, right.depth) :: (left, left.depth) :: rest) (.operator op) =
      if (operation op left right).depth ≤ maxDepth then
        .ok ((operation op left right, (operation op left right).depth) :: rest)
      else .error (.tooDeep maxDepth) := by
  simp only [push, depth]
  split
  next above => exact (if_neg (Nat.not_le.mpr above)).symm
  next within => exact (if_pos (Nat.not_lt.mp within)).symm

/-- The items of a nesting leave its tree on top of what is there before, or stop at the limit. -/
theorem foldlM_push_items {nesting : Nesting Operand}
    (single : ∀ inside ∈ nesting.leaves, ofOperand (spell inside) = .ok (leaf inside))
    (stack : List (Expr × Nat)) :
    (nesting.items spell).foldlM push stack =
      if (nesting.expr leaf).depth ≤ maxDepth then
        .ok ((nesting.expr leaf, (nesting.expr leaf).depth) :: stack)
      else .error (.tooDeep maxDepth) := by
  induction nesting generalizing stack with
  | operand inside =>
    have own := single inside List.mem_cons_self
    obtain ⟨level, -⟩ := ofOperand_ok own
    have pushed : push stack (.operand (spell inside)) = .ok ((leaf inside, 1) :: stack) := by
      rw [push, own]
      rfl
    rw [Nesting.expr, level, if_pos (by decide)]
    exact foldlM_singleton_ok pushed
  | operation op left right leftFolds rightFolds =>
    obtain ⟨leftSingle, rightSingle⟩ := List.forall_mem_append.mp single
    rw [Nesting.items, List.foldlM_append, List.foldlM_append, leftFolds leftSingle]
    -- The limit is passed on the left, on the right or at the operator.
    by_cases leftFits : (left.expr leaf).depth ≤ maxDepth
    · rw [if_pos leftFits]
      change (List.foldlM push _ (right.items spell) >>= _) = _
      rw [rightFolds rightSingle]
      by_cases rightFits : (right.expr leaf).depth ≤ maxDepth
      · rw [if_pos rightFits]
        change (push _ (.operator op) >>= pure) = _
        rw [bind_pure]
        exact push_operator op _ _ stack
      · have above : ¬ ((Nesting.operation op left right).expr leaf).depth ≤ maxDepth := by
          rw [Nesting.expr, depth]
          omega
        rw [if_neg rightFits, if_neg above]
        rfl
    · have above : ¬ ((Nesting.operation op left right).expr leaf).depth ≤ maxDepth := by
        rw [Nesting.expr, depth]
        omega
      rw [if_neg leftFits, if_neg above]
      rfl

/-- The items of a nesting make up its tree, if that is within the limit. -/
theorem ofItems_items_of_leaves {nesting : Nesting Operand}
    (single : ∀ inside ∈ nesting.leaves, ofOperand (spell inside) = .ok (leaf inside)) :
    ofItems (nesting.items spell) =
      if (nesting.expr leaf).depth ≤ maxDepth then .ok (some (nesting.expr leaf))
      else .error (.tooDeep maxDepth) := by
  rw [ofItems, foldlM_push_items single]
  split <;> rfl

theorem ofItems_items (single : ∀ inside, ofOperand (spell inside) = .ok (leaf inside))
    (nesting : Nesting Operand) :
    ofItems (nesting.items spell) =
      if (nesting.expr leaf).depth ≤ maxDepth then .ok (some (nesting.expr leaf))
      else .error (.tooDeep maxDepth) :=
  ofItems_items_of_leaves fun inside _ => single inside

/-- The tree of a nesting has the variables of the operands among its items. -/
theorem variableNames_expr (single : ∀ inside, ofOperand (spell inside) = .ok (leaf inside))
    (nesting : Nesting Operand) :
    (nesting.expr leaf).variableNames =
      ((nesting.items spell).flatMap Item.operands).flatMap namesOfOperand := by
  induction nesting with
  | operand inside =>
    rw [Nesting.expr, (ofOperand_ok (single inside)).2]
    simp [Nesting.items, Item.operands]
  | operation op left right leftNames rightNames =>
    rw [Nesting.expr, variableNames, leftNames, rightNames]
    simp [Nesting.items, Item.operands]

end Nestings

/-! ### Any items -/

/-- The variables of the trees on a stack, the earliest tree first. -/
def stackNames (stack : List (Expr × Nat)) : List String :=
  stack.reverse.flatMap fun entry => entry.1.variableNames

theorem stackNames_cons (entry : Expr × Nat) (stack : List (Expr × Nat)) :
    stackNames (entry :: stack) = stackNames stack ++ entry.1.variableNames := by
  simp [stackNames]

/-- An operand adds its variables, and an operator adds none. -/
theorem stackNames_of_push {stack next : List (Expr × Nat)} {item : Item}
    (done : push stack item = .ok next) :
    stackNames next = stackNames stack ++ item.operands.flatMap namesOfOperand := by
  cases item with
  | operand text =>
    rw [push] at done
    obtain ⟨tree, single, done⟩ := exists_of_bind_ok done
    obtain rfl := Except.ok.inj done
    rw [stackNames_cons, (ofOperand_ok single).2]
    simp [Item.operands]
  | operator op =>
    unfold push at done
    dsimp only at done
    split at done
    next right rightDepth left leftDepth rest =>
      split at done
      next => cases done
      next =>
        obtain rfl := Except.ok.inj done
        simp [stackNames_cons, variableNames, Item.operands]
    next => cases done

/-- The tree of a postfix form has the variables of its operands, in their order. -/
theorem variableNames_of_ofItems {items : List Item} {tree? : Option Expr}
    (done : ofItems items = .ok tree?) :
    tree?.elim [] variableNames = (items.flatMap Item.operands).flatMap namesOfOperand := by
  unfold ofItems at done
  obtain ⟨stack, run, done⟩ := exists_of_bind_ok done
  have adds (stack : List (Expr × Nat)) (item : Item) (next : List (Expr × Nat))
      (done : push stack item = .ok next) :
      stackNames next = stackNames stack ++ item.operands.flatMap namesOfOperand :=
    stackNames_of_push done
  have names : stackNames stack =
      items.flatMap fun item => item.operands.flatMap namesOfOperand :=
    view_of_foldlM_ok adds run
  rw [List.flatMap_assoc, ← names]
  -- Only a stack with at most one tree is accepted.
  rcases stack with _ | ⟨⟨tree, level⟩, _ | ⟨second, rest⟩⟩
  · obtain rfl := Except.ok.inj done
    rfl
  · obtain rfl := Except.ok.inj done
    simp [stackNames]
  · cases done

end Expr

/-- The variables of a text are those of its operands. -/
theorem Formula.variableNames_eq_operands (text : List Char) :
    variableNames (String.ofList text) =
      ((Token.scan text).flatMap Token.operands).flatMap fun run =>
        variableNames (String.ofList run) := by
  have names (token : Token) : token.names =
      token.operands.flatMap fun run => variableNames (String.ofList run) := by
    cases token <;> simp [Token.names, Token.operands]
  rw [variableNames_eq_flatMap, List.flatMap_assoc]
  exact List.flatMap_congr fun token _ => names token

end Worksheet
