import Worksheet.Proofs.Formula.Postfix

/-!
# What a conversion emits

A conversion refuses a text for its parentheses and for nothing else, whatever the text is: there is
a postfix form if and only if the parentheses match. Nothing is lost in it and nothing is added but
the delimiters. It has every operator as often as the text, no parentheses, and between the
operators the runs of the text in their order.

Operators change places, so they are counted, together with those that wait on the stack.
-/

namespace Worksheet.Formula

/-- Parentheses match: no beginning of the text closes more of them than it opens, and the whole
text closes as many as it opens. -/
structure Balanced (text : List Char) : Prop where
  within : ∀ beginning, beginning <+: text → beginning.count ')' ≤ beginning.count '('
  total : text.count ')' = text.count '('

/-- The longest runs of characters that are neither operators nor parentheses, in order. -/
def runs (text : List Char) : List (List Char) :=
  (text.splitOnP fun c => (Token.ofSymbol? c).isSome).filter fun run => !run.isEmpty

/-! ### Refusal -/

namespace Yard

/-- A token that closes what is not open is refused for that. -/
theorem step_eq_error {yard : Yard} {token : Token}
    (refused : token.depthAfter? yard.depth = none) :
    yard.step token = .error .unbalancedParentheses := by
  cases token with
  | operand text => cases refused
  | operator op => cases refused
  | opening => cases refused
  | closing =>
    unfold step
    dsimp only
    rcases yard.waiting_releaseOperators with ⟨left, -⟩ | ⟨waiting, -, more⟩
    · rw [left]
      rfl
    · simp [Token.depthAfter?, more] at refused

/-- A token that closes nothing or something that is open is read. -/
theorem exists_step_eq_ok {yard : Yard} {token : Token} {depth : Nat}
    (accepted : token.depthAfter? yard.depth = some depth) :
    ∃ next, yard.step token = .ok next ∧ next.depth = depth := by
  rw [← toOption_step, Option.map_eq_some_iff] at accepted
  obtain ⟨next, done, same⟩ := accepted
  cases result : yard.step token with
  | error cause => simp [result, Except.toOption] at done
  | ok other =>
    obtain rfl : other = next := by simpa [result, Except.toOption] using done
    exact ⟨other, rfl, same⟩

theorem finish_eq_error {yard : Yard} (unclosed : yard.depth ≠ 0) :
    yard.finish = .error .unbalancedParentheses := by
  unfold finish
  dsimp only
  rcases yard.waiting_releaseOperators with ⟨-, closed⟩ | ⟨waiting, left, -⟩
  · exact absurd closed unclosed
  · rw [left]
    rfl

theorem exists_finish_eq_ok {yard : Yard} (closed : yard.depth = 0) :
    ∃ items, yard.finish = .ok items := by
  have finished := yard.isOk_finish.mpr closed
  cases result : yard.finish with
  | error cause => simp [result, Except.isOk, Except.toBool] at finished
  | ok items => exact ⟨items, rfl⟩

/-- A conversion goes through if and only if the tokens close what is open and nothing else. -/
theorem converts_or_refuses (tokens : List Token) (yard : Yard) :
    (tokens.foldlM Token.depthAfter? yard.depth = some 0 ∧
        ∃ items, (tokens.foldlM step yard >>= finish) = .ok items) ∨
      (tokens.foldlM Token.depthAfter? yard.depth ≠ some 0 ∧
        (tokens.foldlM step yard >>= finish) = .error .unbalancedParentheses) := by
  induction tokens generalizing yard with
  | nil =>
    by_cases closed : yard.depth = 0
    · exact .inl ⟨congrArg some closed, exists_finish_eq_ok closed⟩
    · exact .inr ⟨mt Option.some.inj closed, finish_eq_error closed⟩
  | cons token tokens ih =>
    rw [List.foldlM_cons, List.foldlM_cons]
    cases after : token.depthAfter? yard.depth with
    | none =>
      rw [step_eq_error after]
      exact .inr ⟨by simp, rfl⟩
    | some depth =>
      obtain ⟨next, done, rfl⟩ := exists_step_eq_ok after
      rw [done]
      exact ih next

end Yard

/-! ### Parentheses of a text -/

theorem forall_prefix_cons {α : Type} {property : List α → Prop} {first : α} {rest : List α} :
    (∀ beginning, beginning <+: first :: rest → property beginning) ↔
      property [] ∧ ∀ beginning, beginning <+: rest → property (first :: beginning) := by
  simp only [List.prefix_cons_iff, or_imp, forall_and, forall_eq, exists_imp, and_imp]
  refine and_congr_right fun _ => ⟨fun all beginning => all _ beginning rfl, ?_⟩
  rintro all _ beginning rfl
  exact all beginning

namespace Token

/-- Only parentheses count. -/
theorem foldlM_depthAfter?_attach (c : Char) (tokens : List Token) (depth : Nat) :
    (attach c tokens).foldlM depthAfter? depth =
      if c = '(' then tokens.foldlM depthAfter? (depth + 1)
      else if c = ')' then if depth = 0 then none else tokens.foldlM depthAfter? (depth - 1)
      else tokens.foldlM depthAfter? depth := by
  by_cases opens : c = '('
  · subst opens
    rfl
  by_cases closes : c = ')'
  · subst closes
    rw [attach_symbol rfl, List.foldlM_cons, depthAfter?]
    by_cases level : depth = 0 <;> simp [level]
  rw [if_neg opens, if_neg closes]
  cases symbol : ofSymbol? c with
  | some token =>
    obtain ⟨op, -, rfl⟩ : ∃ op, Operator.ofSymbol? c = some op ∧ operator op = token := by
      simpa [ofSymbol?, opens, closes] using symbol
    rw [attach_symbol symbol]
    rfl
  | none =>
    rcases attach_cases symbol tokens with ⟨run, rest, rfl, joined⟩ | ⟨-, joined⟩
    · rw [joined]
      rfl
    · rw [joined]
      rfl

/-- The tokens of a text lead from one depth to another one as the parentheses of the text do. -/
theorem foldlM_depthAfter?_scan {text : List Char} {depth last : Nat} :
    (scan text).foldlM depthAfter? depth = some last ↔
      (∀ beginning, beginning <+: text → beginning.count ')' ≤ depth + beginning.count '(') ∧
        last + text.count ')' = depth + text.count '(' := by
  induction text generalizing depth with
  | nil => simp [eq_comm]
  | cons c text ih =>
    rw [scan_cons, foldlM_depthAfter?_attach, forall_prefix_cons]
    by_cases opens : c = '('
    · subst opens
      rw [if_pos rfl, ih]
      simp [Nat.add_right_comm, ← Nat.add_assoc]
    by_cases closes : c = ')'
    · subst closes
      rw [if_neg opens, if_pos rfl]
      cases depth with
      | zero =>
        -- The parenthesis alone is a beginning that closes too much.
        refine iff_of_false (by simp) fun ⟨⟨_, all⟩, _⟩ => ?_
        simpa using all [] List.nil_prefix
      | succ depth =>
        rw [if_neg (Nat.succ_ne_zero depth), Nat.add_sub_cancel, ih]
        simp [Nat.add_right_comm, ← Nat.add_assoc]
    · rw [if_neg opens, if_neg closes, ih]
      simp [opens, closes]

end Token

theorem balanced_iff {text : List Char} :
    Balanced text ↔ (Token.scan text).foldlM Token.depthAfter? 0 = some 0 := by
  rw [Token.foldlM_depthAfter?_scan]
  simp only [Nat.zero_add]
  exact ⟨fun balanced => ⟨balanced.within, balanced.total⟩, fun ⟨within, total⟩ => ⟨within, total⟩⟩

/-! ### Operators -/

namespace Yard

variable {op : Operator}

/-- How often an operator is in the output or waits. -/
def occurrences (op : Operator) (yard : Yard) : Nat :=
  yard.output.count (.operator op) + yard.waiting.count (.operator op)

theorem count_filterMap_item? (op : Operator) (waiting : List Waiting) :
    (waiting.filterMap Waiting.item?).count (.operator op) = waiting.count (.operator op) := by
  rw [List.count_filterMap, List.count]
  congr 1
  funext top
  cases top with
  | opening => rfl
  | operator other => simp [Waiting.item?]

/-- What leaves the stack is in the output then. -/
theorem occurrences_release (op : Operator) (test : Waiting → Bool) (yard : Yard) :
    (yard.release test).occurrences op = yard.occurrences op := by
  have parts := congrArg (List.count (.operator op))
    (yard.waiting.takeWhile_append_dropWhile (p := test))
  rw [List.count_append] at parts
  simp only [occurrences, release, List.count_append, List.count_reverse, count_filterMap_item?]
  omega

theorem occurrences_of_step {yard next : Yard} {token : Token} (done : yard.step token = .ok next) :
    next.occurrences op = yard.occurrences op + [token].count (.operator op) := by
  cases token with
  | operand text =>
    obtain rfl := Except.ok.inj done
    simp [occurrences]
  | operator other =>
    obtain rfl := Except.ok.inj done
    rw [← occurrences_release op (Waiting.goesBefore other) yard]
    simp [occurrences, List.count_cons, Nat.add_assoc]
  | opening =>
    obtain rfl := Except.ok.inj done
    simp [occurrences]
  | closing =>
    unfold step at done
    dsimp only at done
    rw [← occurrences_release op _ yard, ← releaseOperators]
    rcases yard.waiting_releaseOperators with ⟨left, -⟩ | ⟨waiting, left, -⟩
    · rw [left] at done
      cases done
    · rw [left] at done
      obtain rfl := Except.ok.inj done
      simp [occurrences, left]

theorem count_of_finish {yard : Yard} {items : List Item} (done : yard.finish = .ok items) :
    items.count (.operator op) = yard.occurrences op := by
  unfold finish at done
  dsimp only at done
  rw [← occurrences_release op _ yard, ← releaseOperators, occurrences]
  split at done
  next left =>
    obtain rfl := Except.ok.inj done
    simp [left]
  next => cases done

end Yard

/-- A postfix form has every operator as often as the tokens. -/
theorem count_operator_of_itemsOfTokens {tokens : List Token} {items : List Item}
    (done : itemsOfTokens tokens = .ok items) (op : Operator) :
    items.count (.operator op) = tokens.count (.operator op) := by
  obtain ⟨yard, run, ended⟩ := exists_yard_of_itemsOfTokens done
  suffices general : ∀ first : Yard, tokens.foldlM Yard.step first = .ok yard →
      yard.occurrences op = first.occurrences op + tokens.count (.operator op) by
    rw [Yard.count_of_finish ended, general _ run]
    simp [Yard.occurrences]
  clear run ended done
  induction tokens with
  | nil =>
    intro first run
    obtain rfl := Except.ok.inj run
    rfl
  | cons token tokens ih =>
    intro first run
    obtain ⟨between, one, others⟩ := exists_of_foldlM_cons_ok run
    rw [ih between others, Yard.occurrences_of_step one, Nat.add_assoc, ← List.count_append,
      List.singleton_append]

/-- The operators of a text are its tokens of this kind. -/
theorem Token.count_operator_scan (op : Operator) (text : List Char) :
    (scan text).count (.operator op) = text.count op.symbol := by
  induction text with
  | nil => rfl
  | cons c text ih =>
    rw [scan_cons, List.count_cons, ← ih]
    by_cases same : c = op.symbol
    · subst same
      rw [attach_symbol (ofSymbol?_symbol op)]
      simp
    · rw [if_neg (by simpa using same), Nat.add_zero]
      cases symbol : ofSymbol? c with
      | some token =>
        have other : token ≠ .operator op := by
          rintro rfl
          exact same (List.singleton_inj.mp (text_of_ofSymbol? symbol)).symm
        rw [attach_symbol symbol, List.count_cons_of_ne other]
      | none =>
        rcases attach_cases symbol (scan text) with ⟨run, rest, first, joined⟩ | ⟨-, joined⟩
        · rw [joined, first]
          simp
        · rw [joined]
          simp

/-! ### Runs -/

theorem runs_of_isRun {text : List Char} (run : IsRun text) : runs text = [text] := by
  unfold runs
  rw [List.splitOnP_eq_singleton fun c member => by simp [run.plain c member]]
  simp [run.nonempty]

/-- At an operator or a parenthesis the runs of both sides are those of the whole. -/
theorem runs_append_cons {c : Char} {token : Token} (symbol : Token.ofSymbol? c = some token)
    (text rest : List Char) : runs (text ++ c :: rest) = runs text ++ runs rest := by
  unfold runs
  rw [List.splitOnP_append_cons _ _ (by simp [symbol]), List.filter_append]

theorem operands_scan_of_plain {text : List Char} (plain : ∀ c ∈ text, Token.ofSymbol? c = none) :
    (Token.scan text).flatMap Token.operands = runs text := by
  by_cases empty : text = []
  · subst empty
    rfl
  · rw [Token.scan_of_isRun ⟨empty, plain⟩, runs_of_isRun ⟨empty, plain⟩]
    rfl

/-- The operands of a text are its runs. -/
theorem operands_scan (text : List Char) :
    (Token.scan text).flatMap Token.operands = runs text := by
  cases first : text.find? fun c => (Token.ofSymbol? c).isSome with
  | none => exact operands_scan_of_plain (by simpa using List.find?_eq_none.mp first)
  | some c =>
    -- The text is cut at its first symbol; what stands before it is plain.
    obtain ⟨marked, before, rest, cut, apart⟩ := List.find?_eq_some_iff_append.mp first
    obtain ⟨token, symbol⟩ := Option.isSome_iff_exists.mp marked
    have nothing : token.operands = [] := by
      rw [List.eq_nil_iff_forall_not_mem]
      exact fun run member =>
        Token.ne_operand_of_ofSymbol? symbol run (Token.mem_operands.mp member)
    have shorter : rest.length < text.length := by
      rw [cut, List.length_append, List.length_cons]
      omega
    rw [cut, Token.scan_append_cons symbol, runs_append_cons symbol, List.flatMap_append,
      List.flatMap_cons, nothing, List.nil_append, operands_scan rest,
      operands_scan_of_plain (by simpa using apart)]
termination_by text.length

/-! ### The text of a postfix form -/

namespace Item

variable {item : Item}

theorem count_symbol_text (isRun : ∀ run ∈ item.operands, IsRun run) (op : Operator) :
    item.text.count op.symbol = [item].count (.operator op) := by
  cases item with
  | operator other => cases other <;> cases op <;> rfl
  | operand text =>
    have plain := (isRun text List.mem_cons_self).plain
    have absent : op.symbol ∉ text := fun member => by simpa using plain _ member
    have ended : [delimiter].count op.symbol = 0 := by cases op <;> rfl
    rw [Item.text, List.count_append, List.count_eq_zero.mpr absent, ended]
    simp

theorem filter_text (isRun : ∀ run ∈ item.operands, IsRun run) :
    item.text.filter (fun c => (Operator.ofSymbol? c).isNone) =
      item.operands.flatMap (· ++ [delimiter]) := by
  cases item with
  | operator op => simp [text, operands]
  | operand text =>
    have plain := (isRun text List.mem_cons_self).plain
    have kept : ∀ c ∈ text ++ [delimiter], (Operator.ofSymbol? c).isNone = true := by
      rw [List.forall_mem_append]
      refine ⟨fun c member => ?_, List.forall_mem_singleton.mpr rfl⟩
      simp [Token.ofSymbol?_operator_eq_none (plain c member)]
    rw [Item.text, List.filter_eq_self.mpr kept]
    simp [operands]

theorem not_parenthesis_of_mem_text (isRun : ∀ run ∈ item.operands, IsRun run) {c : Char}
    (member : c ∈ item.text) : c ≠ '(' ∧ c ≠ ')' := by
  cases item with
  | operator op =>
    obtain rfl := List.mem_singleton.mp member
    cases op <;> decide
  | operand text =>
    rcases List.mem_append.mp member with within | ended
    · have plain := (isRun text List.mem_cons_self).plain c within
      constructor <;> rintro rfl <;> cases plain
    · obtain rfl := List.mem_singleton.mp ended
      decide

end Item

section Written

variable {items : List Item} (isRun : ∀ item ∈ items, ∀ run ∈ item.operands, IsRun run)
include isRun

theorem count_symbol_flatMap_text (op : Operator) :
    (items.flatMap Item.text).count op.symbol = items.count (.operator op) := by
  induction items with
  | nil => rfl
  | cons item items ih =>
    rw [List.forall_mem_cons] at isRun
    rw [List.flatMap_cons, List.count_append, Item.count_symbol_text isRun.1, ih isRun.2,
      ← List.count_append, List.singleton_append]

theorem filter_flatMap_text :
    (items.flatMap Item.text).filter (fun c => (Operator.ofSymbol? c).isNone) =
      (items.flatMap Item.operands).flatMap (· ++ [delimiter]) := by
  rw [List.filter_flatMap, List.flatMap_assoc]
  exact List.flatMap_congr fun item member => Item.filter_text (isRun item member)

end Written

/-- **Conversion loses and invents nothing.** Whatever a text is, it is refused if and only if its
parentheses do not match, and for no other cause. Its postfix form has no parentheses, every
operator as often as the text, and without the operators it is the runs of the text in their order,
each with the delimiter behind it. -/
theorem toPostfix_conserves (text : String) :
    (toPostfix text = .error .unbalancedParentheses ↔ ¬ Balanced text.toList) ∧
      (Balanced text.toList ↔ ∃ form, toPostfix text = .ok form ∧
        '(' ∉ form.toList ∧ ')' ∉ form.toList ∧
        (∀ op : Operator, form.toList.count op.symbol = text.toList.count op.symbol) ∧
        form.toList.filter (fun c => (Operator.ofSymbol? c).isNone) =
          (runs text.toList).flatMap (· ++ [delimiter])) := by
  rw [balanced_iff]
  have outcome : toPostfix text = textOfItems <$> itemsOfTokens (Token.scan text.toList) := rfl
  rcases Yard.converts_or_refuses (Token.scan text.toList) ⟨[], []⟩ with
    ⟨matched, items, done⟩ | ⟨unmatched, refused⟩
  · have converted : itemsOfTokens (Token.scan text.toList) = .ok items := done
    have balanced : (Token.scan text.toList).foldlM Token.depthAfter? 0 = some 0 := matched
    have isRun : ∀ item ∈ items, ∀ run ∈ item.operands, IsRun run := by
      rw [← List.forall_mem_flatMap, operands_of_itemsOfTokens converted]
      exact fun run member => (Token.isRun_of_mem_operands member).1
    rw [outcome, converted]
    refine ⟨iff_of_false (fun same => by cases same) (not_not_intro balanced),
      iff_of_true balanced ⟨textOfItems items, rfl, ?_⟩⟩
    rw [textOfItems, String.toList_ofList]
    have clean {c : Char} (member : c ∈ items.flatMap Item.text) : c ≠ '(' ∧ c ≠ ')' := by
      obtain ⟨item, inside, written⟩ := List.mem_flatMap.mp member
      exact Item.not_parenthesis_of_mem_text (isRun item inside) written
    refine ⟨fun opens => (clean opens).1 rfl, fun closes => (clean closes).2 rfl, fun op => ?_, ?_⟩
    · calc (items.flatMap Item.text).count op.symbol
        _ = items.count (.operator op) := count_symbol_flatMap_text isRun op
        _ = (Token.scan text.toList).count (.operator op) :=
          count_operator_of_itemsOfTokens converted op
        _ = text.toList.count op.symbol := Token.count_operator_scan op text.toList
    · rw [filter_flatMap_text isRun, operands_of_itemsOfTokens converted, operands_scan]
  · have refusal : itemsOfTokens (Token.scan text.toList) = .error .unbalancedParentheses := refused
    rw [outcome, refusal]
    refine ⟨iff_of_true rfl unmatched, iff_of_false unmatched ?_⟩
    rintro ⟨form, done, -⟩
    cases done

end Worksheet.Formula
