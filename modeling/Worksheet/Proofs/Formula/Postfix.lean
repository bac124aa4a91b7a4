import Mathlib.Data.List.TakeWhile
import Worksheet.Formula.Tree
import Worksheet.Proofs.Folds
import Worksheet.Proofs.Formula.Tokens

/-!
# What a conversion keeps

The postfix form of an expression has the operands of the expression in their order. There is one if
and only if the parentheses of the expression match: what waits on the stack of the conversion are,
next to operators, the parentheses that are open.

A postfix form is passed on as a text and read again from there. This gives the items back unless an
operand has the delimiter in it, which no operand of a formula has.
-/

namespace Worksheet.Formula

/-! ### Operands -/

/-- The operands that an item is. -/
def Item.operands : Item → List (List Char)
  | operand text => [text]
  | operator _ => []

/-- The operands that a token is. -/
def Token.operands : Token → List (List Char)
  | operand text => [text]
  | _ => []

theorem Token.mem_operands {token : Token} {text : List Char} :
    text ∈ token.operands ↔ token = .operand text := by
  cases token <;> simp [operands, eq_comm]

namespace Yard

/-- The operands in the output. -/
def operands (yard : Yard) : List (List Char) :=
  yard.output.reverse.flatMap Item.operands

/-- What leaves the stack is no operand. -/
theorem operands_release (test : Waiting → Bool) (yard : Yard) :
    (yard.release test).operands = yard.operands := by
  have none (waiting : List Waiting) :
      (waiting.filterMap Waiting.item?).flatMap Item.operands = [] := by
    rw [List.flatMap_eq_nil_iff]
    intro item member
    obtain ⟨top, -, released⟩ := List.mem_filterMap.mp member
    cases top with
    | opening => cases released
    | operator op =>
      cases released
      rfl
  simp [operands, release, none]

theorem operands_of_step {yard next : Yard} {token : Token} (done : yard.step token = .ok next) :
    next.operands = yard.operands ++ token.operands := by
  cases token with
  | operand text =>
    obtain rfl := Except.ok.inj done
    simp [operands, Token.operands, Item.operands]
  | operator op =>
    obtain rfl := Except.ok.inj done
    exact (operands_release _ yard).trans (List.append_nil _).symm
  | opening =>
    obtain rfl := Except.ok.inj done
    exact (List.append_nil _).symm
  | closing =>
    have released : next.operands = yard.releaseOperators.operands := by
      unfold step at done
      dsimp only at done
      split at done
      · obtain rfl := Except.ok.inj done
        rfl
      · cases done
    rw [released, releaseOperators, operands_release]
    exact (List.append_nil _).symm

theorem operands_of_finish {yard : Yard} {items : List Item} (done : yard.finish = .ok items) :
    items.flatMap Item.operands = yard.operands := by
  unfold finish at done
  dsimp only at done
  split at done
  · obtain rfl := Except.ok.inj done
    exact operands_release _ yard
  · cases done

end Yard

/-- The operands of a text are runs of it. -/
theorem Token.isRun_of_mem_operands {text run : List Char}
    (member : run ∈ (Token.scan text).flatMap Token.operands) :
    IsRun run ∧ ∀ c ∈ run, c ∈ text := by
  obtain ⟨token, scanned, same⟩ := List.mem_flatMap.mp member
  obtain rfl := Token.mem_operands.mp same
  exact Token.isRun_of_mem_scan scanned

/-- A conversion that succeeds has read all tokens, and it could be ended then. -/
theorem exists_yard_of_itemsOfTokens {tokens : List Token} {items : List Item}
    (done : itemsOfTokens tokens = .ok items) :
    ∃ yard : Yard, tokens.foldlM Yard.step ⟨[], []⟩ = .ok yard ∧ yard.finish = .ok items := by
  unfold itemsOfTokens at done
  exact exists_of_bind_ok done

/-- A postfix form has the operands of the expression, in their order. -/
theorem operands_of_itemsOfTokens {tokens : List Token} {items : List Item}
    (done : itemsOfTokens tokens = .ok items) :
    items.flatMap Item.operands = tokens.flatMap Token.operands := by
  obtain ⟨yard, run, ended⟩ := exists_yard_of_itemsOfTokens done
  rw [Yard.operands_of_finish ended]
  have adds (yard : Yard) (token : Token) (next : Yard) (done : yard.step token = .ok next) :
      next.operands = yard.operands ++ token.operands := Yard.operands_of_step done
  exact view_of_foldlM_ok adds run

/-! ### Parentheses -/

/-- How many parentheses are open after a token, if as many were open before it. -/
def Token.depthAfter? (depth : Nat) : Token → Option Nat
  | opening => some (depth + 1)
  | closing => if depth = 0 then none else some (depth - 1)
  | _ => some depth

namespace Yard

/-- The number of parentheses that are open. -/
def depth (yard : Yard) : Nat :=
  yard.waiting.count .opening

/-- Operators that leave the stack open and close nothing. -/
theorem depth_release {test : Waiting → Bool} (keeps : test .opening = false) (yard : Yard) :
    (yard.release test).depth = yard.depth := by
  have free : (yard.waiting.takeWhile test).count .opening = 0 := by
    rw [List.count_eq_zero]
    intro member
    exact absurd (List.mem_takeWhile_imp member) (by simp [keeps])
  conv_rhs => rw [depth, ← List.takeWhile_append_dropWhile (p := test) (l := yard.waiting)]
  rw [List.count_append, free, Nat.zero_add]
  rfl

/-- When the operators on top are gone, an opening parenthesis is on top or nothing at all. -/
theorem waiting_releaseOperators (yard : Yard) :
    (yard.releaseOperators.waiting = [] ∧ yard.depth = 0) ∨
      ∃ waiting, yard.releaseOperators.waiting = .opening :: waiting ∧
        yard.depth = waiting.count .opening + 1 := by
  have same : yard.releaseOperators.depth = yard.depth := depth_release rfl yard
  rw [← same, depth]
  cases left : yard.releaseOperators.waiting with
  | nil => exact .inl ⟨rfl, rfl⟩
  | cons top waiting =>
    have stays : top.item?.isSome = false := by
      have dropped : yard.waiting.dropWhile (fun top => top.item?.isSome) = top :: waiting := left
      simpa [dropped] using List.head?_dropWhile_not (fun top : Waiting => top.item?.isSome)
        yard.waiting
    cases top with
    | opening => exact .inr ⟨waiting, rfl, List.count_cons_self⟩
    | operator op => cases stays

/-- A token is refused if and only if it closes a parenthesis where none is open. -/
theorem toOption_step (yard : Yard) (token : Token) :
    (yard.step token).toOption.map depth = token.depthAfter? yard.depth := by
  cases token with
  | operand text => rfl
  | operator op =>
    change some (List.count _ (_ :: _)) = some _
    rw [List.count_cons_of_ne (by simp)]
    exact congrArg some (depth_release rfl yard)
  | opening => exact congrArg some List.count_cons_self
  | closing =>
    unfold step Token.depthAfter?
    dsimp only
    rcases yard.waiting_releaseOperators with ⟨left, none⟩ | ⟨waiting, left, more⟩
    · rw [left, none]
      rfl
    · rw [left, more]
      rfl

theorem depthAfter?_of_step {yard next : Yard} {token : Token}
    (done : yard.step token = .ok next) : token.depthAfter? yard.depth = some next.depth := by
  rw [← toOption_step, done]
  rfl

/-- A conversion can be ended if and only if no parenthesis is open. -/
theorem isOk_finish (yard : Yard) : yard.finish.isOk = true ↔ yard.depth = 0 := by
  unfold finish
  dsimp only
  rcases yard.waiting_releaseOperators with ⟨left, none⟩ | ⟨waiting, left, more⟩
  · rw [left, none]
    simp [pure, Except.pure, Except.isOk, Except.toBool]
  · rw [left, more]
    simp [throw, throwThe, MonadExceptOf.throw, Except.isOk, Except.toBool]

end Yard

/-! ### Passing on as a text -/

/-- An operand whose end is found in a text, and that is not taken for an operator. -/
structure IsReadable (text : List Char) : Prop where
  ended : delimiter ∉ text
  plain : ∀ c ∈ text.head?, Operator.ofSymbol? c = none

theorem IsRun.isReadable {text : List Char} (run : IsRun text) (ended : delimiter ∉ text) :
    IsReadable text where
  ended := ended
  plain c first := Token.ofSymbol?_operator_eq_none (run.plain c (List.mem_of_mem_head? first))

namespace ItemScan

/-- An operand that has begun goes on to the delimiter. -/
theorem foldl_step_some {text : List Char} (ended : delimiter ∉ text) (read : List Char)
    (done : List Item) :
    (text ++ [delimiter]).foldl step ⟨some read, done⟩ =
      ⟨none, .operand (read.reverse ++ text) :: done⟩ := by
  induction text generalizing read with
  | nil => simp [step]
  | cons c text ih =>
    obtain ⟨other, later⟩ := not_or.mp (mt List.mem_cons.mpr ended)
    have one : step ⟨some read, done⟩ c = ⟨some (c :: read), done⟩ := if_neg (Ne.symm other)
    rw [List.cons_append, List.foldl_cons, one, ih later]
    simp

/-- An item is read where it is written. -/
theorem foldl_step_text {item : Item} (readable : ∀ text ∈ item.operands, IsReadable text)
    (done : List Item) : item.text.foldl step ⟨none, done⟩ = ⟨none, item :: done⟩ := by
  cases item with
  | operator op => simp [Item.text, step]
  | operand text =>
    obtain ⟨ended, plain⟩ := readable text List.mem_cons_self
    cases text with
    | nil => rfl
    | cons c text =>
      obtain ⟨other, later⟩ := not_or.mp (mt List.mem_cons.mpr ended)
      -- From its first character on an operand may have any but the delimiter.
      have begun : step ⟨none, done⟩ c = ⟨some [c], done⟩ := by
        simp [step, plain c rfl, Ne.symm other]
      rw [Item.text, List.cons_append, List.foldl_cons, begun, foldl_step_some later]
      rfl

theorem foldl_step_flatMap_text {items : List Item}
    (readable : ∀ text ∈ items.flatMap Item.operands, IsReadable text) (done : List Item) :
    (items.flatMap Item.text).foldl step ⟨none, done⟩ = ⟨none, items.reverse ++ done⟩ := by
  induction items generalizing done with
  | nil => rfl
  | cons item items ih =>
    rw [List.flatMap_cons, List.forall_mem_append] at readable
    rw [List.flatMap_cons, List.foldl_append, foldl_step_text readable.1, ih readable.2]
    simp

end ItemScan

/-- What is written is read again. -/
theorem itemsOfText_textOfItems {items : List Item}
    (readable : ∀ text ∈ items.flatMap Item.operands, IsReadable text) :
    itemsOfText (textOfItems items) = items := by
  rw [itemsOfText, textOfItems, String.toList_ofList, ItemScan.foldl_step_flatMap_text readable]
  simp [ItemScan.items]

/-- The operands of an expression without the delimiter can be told apart in its postfix form. -/
theorem isReadable_of_mem_operands {expression : List Char} (ended : delimiter ∉ expression)
    {items : List Item} (done : itemsOfTokens (Token.scan expression) = .ok items) :
    ∀ text ∈ items.flatMap Item.operands, IsReadable text := by
  rw [operands_of_itemsOfTokens done]
  intro text member
  obtain ⟨run, within⟩ := Token.isRun_of_mem_operands member
  exact run.isReadable fun inside => ended (within _ inside)

end Worksheet.Formula

namespace Worksheet.Expr

open Formula

/-- Compiling an expression without the delimiter is folding its postfix form. -/
theorem compile_eq {expression : String}
    (ended : delimiter ∉ (Text.condense expression).toList) :
    compile expression =
      itemsOfTokens (Token.scan (Text.condense expression).toList) >>= ofItems := by
  unfold compile toPostfix
  cases converted : itemsOfTokens (Token.scan (Text.condense expression).toList) with
  | error cause => rfl
  | ok items =>
    exact congrArg ofItems (itemsOfText_textOfItems (isReadable_of_mem_operands ended converted))

end Worksheet.Expr
