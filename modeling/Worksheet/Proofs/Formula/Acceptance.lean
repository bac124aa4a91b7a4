import Worksheet.Proofs.Formula.Postfix

/-!
# Which texts are compiled

A word of the infix language is an operand, a word in parentheses, or two words with an operator
between them. In a word operands and operators take turns and parentheses match, and nothing else is
a word.

The conversion to postfix form checks parentheses but not turns, and afterwards only the number of
operands can tell. So there are texts that are compiled and are not words: `(A1)(B1)+` counts two
operands before its operator, as a postfix form would, and `()` counts none at all.
-/

namespace Worksheet.Formula

/-- A word of the infix language: an operand, a word in parentheses, or two words with an operator
between them. -/
inductive IsWord : List Char → Prop where
  | operand {run : List Char} (isRun : IsRun run) : IsWord run
  | group {inside : List Char} (word : IsWord inside) : IsWord ('(' :: (inside ++ [')']))
  | join {left right : List Char} (op : Operator) (leftWord : IsWord left)
      (rightWord : IsWord right) : IsWord (left ++ op.symbol :: right)

/-- What is due at some point of a text: an operand or a parenthesis that opens, or else an operator
or a parenthesis that closes. -/
inductive Turn where
  | operand | operator
deriving DecidableEq, Repr

/-- What is due after a token, which itself has to be due. -/
def Turn.after? : Turn → Token → Option Turn
  | operand, .operand _ => some operator
  | operand, .opening => some operand
  | operator, .operator _ => some operand
  | operator, .closing => some operator
  | _, _ => none

/-- Operands and operators take turns, from an operand to an operand. -/
def TakesTurns (tokens : List Token) : Prop :=
  tokens.foldlM Turn.after? .operand = some .operator

instance (tokens : List Token) : Decidable (TakesTurns tokens) :=
  inferInstanceAs (Decidable (_ = _))

/-! ### Turns in words -/

theorem IsWord.takesTurns {text : List Char} (word : IsWord text) :
    TakesTurns (Token.scan text) := by
  unfold TakesTurns
  induction word with
  | operand isRun =>
    rw [Token.scan_of_isRun isRun]
    rfl
  | group _ ih =>
    rw [Token.scan_cons, Token.attach_symbol rfl, Token.scan_append_cons rfl, List.foldlM_cons]
    change List.foldlM _ _ _ = _
    rw [List.foldlM_append, ih]
    rfl
  | join op _ _ leftTurns rightTurns =>
    rw [Token.scan_append_cons (Token.ofSymbol?_symbol op), List.foldlM_append, leftTurns]
    exact rightTurns

/-! ### Words from turns -/

/-- The beginning of a word up to where an operand is due, with some parentheses open. -/
inductive IsBegun : Nat → List Char → Prop where
  | start : IsBegun 0 []
  | group {depth : Nat} {text : List Char} (begun : IsBegun depth text) :
      IsBegun (depth + 1) (text ++ ['('])
  | join {depth : Nat} {text word : List Char} (op : Operator) (begun : IsBegun depth text)
      (isWord : IsWord word) : IsBegun depth (text ++ word ++ [op.symbol])

namespace IsBegun

variable {depth : Nat} {text word : List Char}

/-- Without open parentheses the next word is the last part of a word. -/
theorem isWord (begun : IsBegun 0 text) (last : IsWord word) : IsWord (text ++ word) := by
  generalize none : 0 = depth at begun
  induction begun generalizing word with
  | start => exact last
  | group => cases none
  | @join _ before first op _ isWord ih =>
    -- The word before the operator and the last one make one word, which is the last one then.
    have joined := ih (.join op isWord last) none
    simpa using joined

/-- A closing parenthesis makes one word of all that follows the last opening one. -/
theorem exists_of_closing (begun : IsBegun (depth + 1) text) (last : IsWord word) :
    ∃ before inside, text ++ word ++ [')'] = before ++ inside ∧ IsBegun depth before ∧
      IsWord inside := by
  generalize one : depth + 1 = deeper at begun
  induction begun generalizing word with
  | start => cases one
  | @group _ before begun =>
    obtain rfl := Nat.succ.inj one
    exact ⟨before, _, by simp, begun, .group last⟩
  | @join _ before first op _ isWord ih =>
    obtain ⟨outside, inside, same, begun, whole⟩ := ih (.join op isWord last) one
    exact ⟨outside, inside, by simpa using same, begun, whole⟩

end IsBegun

/-- How far a text is read where an operand or an operator is due. -/
def IsReadTo (depth : Nat) (text : List Char) : Turn → Prop
  | .operand => IsBegun depth text
  | .operator => ∃ before word, text = before ++ word ∧ IsBegun depth before ∧ IsWord word

/-- A token in turn that leaves no parenthesis without its partner reads a text further. -/
theorem IsReadTo.step {depth deeper : Nat} {text : List Char} {turn next : Turn} {token : Token}
    (read : IsReadTo depth text turn) (due : turn.after? token = some next)
    (matched : token.depthAfter? depth = some deeper) (runs : ∀ run ∈ token.operands, IsRun run) :
    IsReadTo deeper (text ++ token.text) next := by
  cases turn with
  | operand =>
    cases token with
    | operand run =>
      cases due
      cases matched
      exact ⟨text, run, rfl, read, .operand (runs run List.mem_cons_self)⟩
    | opening =>
      cases due
      cases matched
      exact .group read
    | operator | closing => cases due
  | operator =>
    obtain ⟨before, word, rfl, begun, isWord⟩ := read
    cases token with
    | operator op =>
      cases due
      cases matched
      exact .join op begun isWord
    | closing =>
      cases due
      cases depth with
      | zero => cases matched
      | succ depth =>
        cases matched
        exact begun.exists_of_closing isWord
    | operand | opening => cases due

/-- Tokens in turn that are converted read a text further, with the parentheses open that wait on
the stack. -/
theorem IsReadTo.foldlM {tokens : List Token} {yard last : Yard} {text : List Char}
    {turn next : Turn} (read : IsReadTo yard.depth text turn)
    (turns : tokens.foldlM Turn.after? turn = some next)
    (converted : tokens.foldlM Yard.step yard = .ok last)
    (runs : ∀ run ∈ tokens.flatMap Token.operands, IsRun run) :
    IsReadTo last.depth (text ++ tokens.flatMap Token.text) next := by
  induction tokens generalizing yard text turn with
  | nil =>
    obtain rfl := Option.some.inj turns
    obtain rfl := Except.ok.inj converted
    simpa using read
  | cons token tokens ih =>
    rw [List.flatMap_cons, List.forall_mem_append] at runs
    rw [List.foldlM_cons] at turns
    obtain ⟨turn', due, later⟩ := Option.bind_eq_some_iff.mp turns
    obtain ⟨yard', one, others⟩ := exists_of_foldlM_cons_ok converted
    rw [List.flatMap_cons, ← List.append_assoc]
    exact ih (read.step due (Yard.depthAfter?_of_step one) runs.1) later others runs.2

/-- A text that is converted is a word if and only if operands and operators take turns in it. -/
theorem isWord_iff_takesTurns {text : List Char} {items : List Item}
    (converted : itemsOfTokens (Token.scan text) = .ok items) :
    IsWord text ↔ TakesTurns (Token.scan text) := by
  refine ⟨IsWord.takesTurns, fun turns => ?_⟩
  obtain ⟨yard, run, ended⟩ := exists_yard_of_itemsOfTokens converted
  have closed : yard.depth = 0 := yard.isOk_finish.mp (by rw [ended]; rfl)
  have runs (run : List Char) (member : run ∈ (Token.scan text).flatMap Token.operands) :
      IsRun run := (Token.isRun_of_mem_operands member).1
  have nothing : IsReadTo (Yard.depth ⟨[], []⟩) [] .operand := .start
  have read := nothing.foldlM turns run runs
  rw [closed, List.nil_append, Token.flatMap_text_scan] at read
  obtain ⟨before, word, rfl, begun, isWord⟩ := read
  exact begun.isWord isWord

end Worksheet.Formula

namespace Worksheet.Expr

open Formula

/-- Compiling begins with a conversion. -/
theorem exists_items_of_compile {expression : String} {tree? : Option Expr}
    (accepted : compile expression = .ok tree?) :
    ∃ items, itemsOfTokens (Token.scan (Text.condense expression).toList) = .ok items := by
  unfold compile toPostfix at accepted
  cases converted : itemsOfTokens (Token.scan (Text.condense expression).toList) with
  | error cause =>
    rw [converted] at accepted
    cases accepted
  | ok items => exact ⟨items, rfl⟩

/-- A text that is compiled is empty or a word if and only if operands and operators take turns in
it. -/
theorem compiled_isWord_iff_takesTurns {expression : String} {tree? : Option Expr}
    (accepted : compile expression = .ok tree?) :
    ((Text.condense expression).toList = [] ∨ IsWord (Text.condense expression).toList) ↔
      ((Text.condense expression).toList = [] ∨
        TakesTurns (Token.scan (Text.condense expression).toList)) := by
  obtain ⟨items, converted⟩ := exists_items_of_compile accepted
  exact or_congr_right (isWord_iff_takesTurns converted)

theorem compiled_isWord_iff_takesTurns_sum :
    compile "A1 + (B1)" = .ok (some (.operation .add (.reference "A1") (.reference "B1"))) ∧
      IsWord (Text.condense "A1 + (B1)").toList := by
  have accepted : compile "A1 + (B1)" =
      .ok (some (.operation .add (.reference "A1") (.reference "B1"))) := by decide +kernel
  have turns : TakesTurns (Token.scan (Text.condense "A1 + (B1)").toList) := by decide +kernel
  have word := (compiled_isWord_iff_takesTurns accepted).mpr (.inr turns)
  exact ⟨accepted, word.resolve_left (by decide +kernel)⟩

/-- An operator without an operand on its right, two operands without an operator between them, and
parentheses around nothing are all compiled. -/
theorem compiled_without_turns :
    (compile "(A1)(B1)+" = .ok (some (.operation .add (.reference "A1") (.reference "B1"))) ∧
        ¬ IsWord "(A1)(B1)+".toList) ∧
      (compile "()A1" = .ok (some (.reference "A1")) ∧ ¬ IsWord "()A1".toList) ∧
      compile "()" = .ok none ∧ ¬ IsWord "()".toList := by
  refine ⟨⟨by decide +kernel, fun word => ?_⟩, ⟨by decide +kernel, fun word => ?_⟩,
    by decide +kernel, fun word => ?_⟩
  all_goals exact absurd word.takesTurns (by decide +kernel)

end Worksheet.Expr
