import Mathlib.Data.List.Basic
import Worksheet.Formula.Token

/-!
# The pieces of a formula

The tokens of a text are its characters in order, nothing added and nothing left out. A text may be
cut at any operator or parenthesis, and the tokens of both sides are those of the whole; what is
found between two such characters is one operand.
-/

namespace Worksheet.Formula

/-- A text without operators and parentheses, as operands are. -/
structure IsRun (text : List Char) : Prop where
  nonempty : text ≠ []
  plain : ∀ c ∈ text, Token.ofSymbol? c = none

namespace Token

variable {c : Char} {token : Token} {text rest : List Char} {tokens : List Token}

/-- A character that is a token is written as it is. -/
theorem text_of_ofSymbol? (symbol : ofSymbol? c = some token) : token.text = [c] := by
  unfold ofSymbol? at symbol
  split at symbol
  next here => exact here ▸ Option.some.inj symbol ▸ rfl
  next =>
    split at symbol
    next here => exact here ▸ Option.some.inj symbol ▸ rfl
    next =>
      obtain ⟨op, read, rfl⟩ := Option.map_eq_some_iff.mp symbol
      exact congrArg (fun c => [c]) (Operator.ofSymbol?_eq_some_iff.mp read).symm

theorem ne_operand_of_ofSymbol? (symbol : ofSymbol? c = some token) (run : List Char) :
    token ≠ operand run := by
  rintro rfl
  unfold ofSymbol? at symbol
  split at symbol
  · cases symbol
  · split at symbol
    · cases symbol
    · obtain ⟨op, -, made⟩ := Option.map_eq_some_iff.mp symbol
      cases made

@[simp] theorem ofSymbol?_symbol (op : Operator) : ofSymbol? op.symbol = some (operator op) := by
  cases op <;> rfl

theorem ofSymbol?_operator_eq_none (plain : ofSymbol? c = none) : Operator.ofSymbol? c = none := by
  cases read : Operator.ofSymbol? c with
  | none => rfl
  | some op =>
    obtain rfl := Operator.ofSymbol?_eq_some_iff.mp read
    simp at plain

/-! ### Adding a character -/

theorem attach_symbol (symbol : ofSymbol? c = some token) (tokens : List Token) :
    attach c tokens = token :: tokens := by
  simp only [attach, symbol]

theorem attach_operand (plain : ofSymbol? c = none) (run : List Char) (tokens : List Token) :
    attach c (operand run :: tokens) = operand (c :: run) :: tokens := by
  simp only [attach, plain]

theorem attach_apart (plain : ofSymbol? c = none)
    (apart : ∀ run, tokens.head? ≠ some (operand run)) :
    attach c tokens = operand [c] :: tokens := by
  unfold attach
  simp only [plain]
  split
  next run rest => exact absurd rfl (apart run)
  next => rfl

/-- A character that is no token lengthens the first operand or begins one of its own. -/
theorem attach_cases (plain : ofSymbol? c = none) (tokens : List Token) :
    (∃ run rest, tokens = operand run :: rest ∧ attach c tokens = operand (c :: run) :: rest) ∨
      (∀ run, tokens.head? ≠ some (operand run)) ∧ attach c tokens = operand [c] :: tokens := by
  by_cases begun : ∃ run, tokens.head? = some (operand run)
  · obtain ⟨run, first⟩ := begun
    obtain ⟨rest, rfl⟩ := List.head?_eq_some_iff.mp first
    exact .inl ⟨run, rest, rfl, attach_operand plain run rest⟩
  · have apart := not_exists.mp begun
    exact .inr ⟨apart, attach_apart plain apart⟩

@[simp] theorem scan_nil : scan [] = [] := rfl

theorem scan_cons (c : Char) (text : List Char) : scan (c :: text) = attach c (scan text) := rfl

/-! ### Cutting a text -/

/-- Tokens that do not begin with an operand are not changed by a text before them. -/
theorem foldr_attach (apart : ∀ run, tokens.head? ≠ some (operand run)) (text : List Char) :
    text.foldr attach tokens = scan text ++ tokens := by
  induction text with
  | nil => rfl
  | cons c text ih =>
    rw [List.foldr_cons, ih, scan_cons]
    cases symbol : ofSymbol? c with
    | some token => rw [attach_symbol symbol, attach_symbol symbol, List.cons_append]
    | none =>
      rcases attach_cases symbol (scan text) with ⟨run, rest, first, joined⟩ | ⟨begins, joined⟩
      · rw [joined, first, List.cons_append, attach_operand symbol, List.cons_append]
      · have still (run : List Char) : (scan text ++ tokens).head? ≠ some (operand run) := by
          rw [List.head?_append]
          cases first : (scan text).head? with
          | none => exact apart run
          | some token => exact fun same => begins run (first.trans same)
        rw [joined, attach_apart symbol still, List.cons_append]

/-- At an operator or a parenthesis a text may be cut. -/
theorem scan_append_cons (symbol : ofSymbol? c = some token) (text rest : List Char) :
    scan (text ++ c :: rest) = scan text ++ token :: scan rest := by
  have apart (run : List Char) : (token :: scan rest).head? ≠ some (operand run) := fun same =>
    ne_operand_of_ofSymbol? symbol run (Option.some.inj same)
  rw [scan, List.foldr_append, List.foldr_cons, ← scan, attach_symbol symbol, foldr_attach apart]

/-- A run is one operand. -/
theorem scan_of_isRun (run : IsRun text) : scan text = [operand text] := by
  obtain ⟨nonempty, plain⟩ := run
  induction text with
  | nil => exact absurd rfl nonempty
  | cons c text ih =>
    have first := plain c List.mem_cons_self
    rw [scan_cons]
    by_cases last : text = []
    · subst last
      exact attach_apart first (by simp)
    · rw [ih last fun other member => plain other (List.mem_cons_of_mem _ member),
        attach_operand first]

/-! ### Nothing is lost -/

/-- The tokens of a text are written as the text. -/
theorem flatMap_text_scan (text : List Char) : (scan text).flatMap Token.text = text := by
  induction text with
  | nil => rfl
  | cons c text ih =>
    rw [scan_cons]
    cases symbol : ofSymbol? c with
    | some token =>
      rw [attach_symbol symbol, List.flatMap_cons, text_of_ofSymbol? symbol, ih,
        List.singleton_append]
    | none =>
      rcases attach_cases symbol (scan text) with ⟨run, rest, first, joined⟩ | ⟨-, joined⟩
      · rw [first] at ih
        rw [joined, ← ih]
        rfl
      · rw [joined, List.flatMap_cons, ih]
        rfl

/-- The operands of a text are runs of it. -/
theorem isRun_of_mem_scan {run : List Char} (member : operand run ∈ scan text) :
    IsRun run ∧ ∀ c ∈ run, c ∈ text := by
  induction text generalizing run with
  | nil => simp at member
  | cons c text ih =>
    have later {run : List Char} (member : operand run ∈ scan text) :
        IsRun run ∧ ∀ other ∈ run, other ∈ c :: text :=
      ⟨(ih member).1, fun other within => List.mem_cons_of_mem _ ((ih member).2 other within)⟩
    rw [scan_cons] at member
    cases symbol : ofSymbol? c with
    | some token =>
      rw [attach_symbol symbol] at member
      rcases List.mem_cons.mp member with same | further
      · exact absurd same.symm (ne_operand_of_ofSymbol? symbol run)
      · exact later further
    | none =>
      rcases attach_cases symbol (scan text) with ⟨former, rest, first, joined⟩ | ⟨-, joined⟩
      · rw [joined] at member
        rw [first] at later
        rcases List.mem_cons.mp member with same | further
        · obtain rfl : run = c :: former := Token.operand.inj same
          obtain ⟨isRun, within⟩ := later List.mem_cons_self
          exact ⟨⟨List.cons_ne_nil _ _, List.forall_mem_cons.mpr ⟨symbol, isRun.plain⟩⟩,
            List.forall_mem_cons.mpr ⟨List.mem_cons_self, within⟩⟩
        · exact later (List.mem_cons_of_mem _ further)
      · rw [joined] at member
        rcases List.mem_cons.mp member with same | further
        · obtain rfl : run = [c] := Token.operand.inj same
          exact ⟨⟨List.cons_ne_nil _ _, by simpa using symbol⟩, by simp⟩
        · exact later further

end Token

end Worksheet.Formula
