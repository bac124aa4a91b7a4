import Worksheet.Formula.Variables
import Worksheet.Proofs.Formula.Tokens

/-!
# The variables of a text

A variable is written as one or more capital letters and the digits behind them. A text that is
written like this is its own only variable, and a text without capital letters has none.

The variables of a text are found without its tokens. But an operator or a parenthesis ends every
variable, so they are those of the operands one after the other.
-/

namespace Worksheet.Formula

/-- A text is written as variables are: capital letters, and maybe digits. -/
def IsReference (text : List Char) : Prop :=
  ∃ letters digits, text = letters ++ digits ∧ letters ≠ [] ∧
    (∀ c ∈ letters, c.isUpper = true) ∧ ∀ c ∈ digits, c.isDigit = true

theorem isUpper_of_isDigit {c : Char} (digit : c.isDigit = true) : c.isUpper = false := by
  have range := Char.isDigit_iff_toNat.mp digit
  have bound : c.toNat ≤ 57 := range.2
  by_contra upper
  have letter : 65 ≤ c.toNat ∧ c.toNat ≤ 90 := of_decide_eq_true (eq_true_of_ne_false upper)
  omega

/-- Operators and parentheses are neither letters nor digits. -/
theorem class_of_ofSymbol? {c : Char} {token : Token} (symbol : Token.ofSymbol? c = some token) :
    c.isUpper = false ∧ c.isDigit = false := by
  unfold Token.ofSymbol? at symbol
  split at symbol
  next here => exact here ▸ by decide
  next =>
    split at symbol
    next here => exact here ▸ by decide
    next =>
      obtain ⟨op, read, -⟩ := Option.map_eq_some_iff.mp symbol
      obtain rfl := Operator.ofSymbol?_eq_some_iff.mp read
      cases op <;> decide

namespace VariableScan

/-! ### One more character -/

theorem names_append (run : List Char) (former found : List String) :
    names ⟨run, former ++ found⟩ = names ⟨run, former⟩ ++ found := by
  cases run with
  | nil => rfl
  | cons d run =>
    simp only [names]
    split <;> rfl

theorem extend_append (c : Char) (run : List Char) (former found : List String) :
    extend c ⟨run, former ++ found⟩ =
      ⟨(extend c ⟨run, former⟩).run, (extend c ⟨run, former⟩).found ++ found⟩ := by
  unfold extend
  simp only [names_append]
  split
  · rfl
  · split
    · cases run with
      | nil => rfl
      | cons d run =>
        dsimp only
        split <;> rfl
    · rfl

/-- What is found behind a text stays behind what is found in it. -/
theorem foldr_extend (text : List Char) (found : List String) :
    text.foldr extend ⟨[], found⟩ =
      ⟨(text.foldr extend ⟨[], []⟩).run, (text.foldr extend ⟨[], []⟩).found ++ found⟩ := by
  induction text with
  | nil => rfl
  | cons c text ih => rw [List.foldr_cons, ih, extend_append, List.foldr_cons]

theorem extend_symbol {c : Char} {token : Token} (symbol : Token.ofSymbol? c = some token)
    (scan : VariableScan) : extend c scan = ⟨[], scan.names⟩ := by
  obtain ⟨upper, digit⟩ := class_of_ofSymbol? symbol
  simp [extend, upper, digit]

/-- Only a capital letter makes another variable. -/
theorem names_extend_of_not_isUpper {c : Char} (small : c.isUpper = false) (scan : VariableScan) :
    (extend c scan).names = scan.names := by
  obtain ⟨run, found⟩ := scan
  unfold extend
  rw [small]
  split
  next upper => cases upper
  next =>
    split
    next =>
      cases run with
      | nil => simp [names, small]
      | cons d run =>
        dsimp only
        split
        next letter => simp [names, small, letter]
        next digit => simp [names, small, digit]
    next => rfl

theorem names_extend_ne_nil {c : Char} (upper : c.isUpper = true) (scan : VariableScan) :
    (extend c scan).names ≠ [] := by
  simp [extend, names, upper]

end VariableScan

theorem variableNames_ofList (text : List Char) :
    variableNames (String.ofList text) = (text.foldr VariableScan.extend ⟨[], []⟩).names := by
  rw [variableNames, String.toList_ofList]

/-! ### Texts that are variables, and texts without any -/

/-- A text has variables if and only if it has capital letters. -/
theorem variableNames_eq_nil_iff (text : List Char) :
    variableNames (String.ofList text) = [] ↔ ∀ c ∈ text, c.isUpper = false := by
  rw [variableNames_ofList]
  induction text with
  | nil => simp [VariableScan.names]
  | cons c text ih =>
    rw [List.foldr_cons, List.forall_mem_cons]
    cases upper : c.isUpper with
    | false => simpa [VariableScan.names_extend_of_not_isUpper upper] using ih
    | true => simpa using VariableScan.names_extend_ne_nil upper _

theorem foldr_extend_digits {digits : List Char} (all : ∀ c ∈ digits, c.isDigit = true) :
    digits.foldr VariableScan.extend ⟨[], []⟩ = ⟨digits, []⟩ := by
  induction digits with
  | nil => rfl
  | cons c digits ih =>
    obtain ⟨digit, others⟩ := List.forall_mem_cons.mp all
    have small := isUpper_of_isDigit digit
    rw [List.foldr_cons, ih others]
    cases digits with
    | nil => simp [VariableScan.extend, small, digit]
    | cons d digits =>
      have smallToo := isUpper_of_isDigit (others d List.mem_cons_self)
      simp [VariableScan.extend, small, smallToo, digit]

theorem foldr_extend_letters {letters : List Char} (all : ∀ c ∈ letters, c.isUpper = true)
    (run : List Char) :
    letters.foldr VariableScan.extend ⟨run, []⟩ = ⟨letters ++ run, []⟩ := by
  induction letters with
  | nil => rfl
  | cons c letters ih =>
    obtain ⟨upper, others⟩ := List.forall_mem_cons.mp all
    rw [List.foldr_cons, ih others, VariableScan.extend, if_pos upper]
    rfl

/-- A text that is written as a variable is its own only variable. -/
theorem variableNames_of_isReference {text : List Char} (isReference : IsReference text) :
    variableNames (String.ofList text) = [String.ofList text] := by
  obtain ⟨letters, digits, rfl, nonempty, upper, decimal⟩ := isReference
  rw [variableNames_ofList, List.foldr_append, foldr_extend_digits decimal,
    foldr_extend_letters upper]
  obtain ⟨c, others, rfl⟩ := List.exists_cons_of_ne_nil nonempty
  simp [VariableScan.names, upper c List.mem_cons_self]

namespace VariableScan

/-- The run has its letters before its digits, and what has been found is written as variables are.
-/
structure Shaped (scan : VariableScan) : Prop where
  run : ∃ letters digits, scan.run = letters ++ digits ∧ (∀ c ∈ letters, c.isUpper = true) ∧
    ∀ c ∈ digits, c.isDigit = true
  found : ∀ name ∈ scan.found, IsReference name.toList

theorem Shaped.names {scan : VariableScan} (shaped : scan.Shaped) :
    ∀ name ∈ scan.names, IsReference name.toList := by
  obtain ⟨run, found⟩ := scan
  obtain ⟨⟨letters, digits, begun, upper, decimal⟩, found⟩ := shaped
  dsimp only at begun
  subst begun
  unfold VariableScan.names
  split
  next c rest first =>
    split
    next capital =>
      -- A run that starts with a capital letter has letters.
      have nonempty : letters ≠ [] := by
        rintro rfl
        have first : digits = c :: rest := first
        have digit := decimal c (first ▸ List.mem_cons_self)
        simp [isUpper_of_isDigit digit] at capital
      refine List.forall_mem_cons.mpr ⟨⟨letters, digits, ?_, nonempty, upper, decimal⟩, found⟩
      rw [String.toList_ofList]
    next => exact found
  next => exact found

theorem Shaped.extend {scan : VariableScan} (shaped : scan.Shaped) (c : Char) :
    (scan.extend c).Shaped := by
  have names := shaped.names
  obtain ⟨⟨letters, digits, begun, upper, decimal⟩, found⟩ := shaped
  unfold VariableScan.extend
  split
  next capital =>
    refine ⟨⟨c :: letters, digits, by rw [begun]; rfl, ?_, decimal⟩, found⟩
    exact fun other member => (List.mem_cons.mp member).elim (· ▸ capital) (upper other)
  next =>
    split
    next digit =>
      have single : ∀ other ∈ [c], other.isDigit = true := by simpa using digit
      split
      next d rest first =>
        split
        next => exact ⟨⟨[], [c], rfl, by simp, single⟩, names⟩
        next small =>
          -- A run that does not start with a capital letter has digits only.
          cases letters with
          | nil =>
            refine ⟨⟨[], c :: digits, by rw [begun]; rfl, by simp, ?_⟩, found⟩
            exact fun other member => (List.mem_cons.mp member).elim (· ▸ digit) (decimal other)
          | cons e letters =>
            obtain rfl : d = e := by simpa [begun] using congrArg List.head? first.symm
            exact absurd (upper d List.mem_cons_self) small
      next => exact ⟨⟨[], [c], rfl, by simp, single⟩, found⟩
    next => exact ⟨⟨[], [], rfl, by simp, by simp⟩, names⟩

theorem shaped_foldr_extend (text : List Char) :
    (text.foldr VariableScan.extend ⟨[], []⟩).Shaped := by
  induction text with
  | nil => exact ⟨⟨[], [], rfl, by simp, by simp⟩, by simp⟩
  | cons c text ih => exact ih.extend c

end VariableScan

/-- All variables of a text are written as variables are. -/
theorem isReference_of_mem_variableNames {text : List Char} {name : String}
    (member : name ∈ variableNames (String.ofList text)) : IsReference name.toList := by
  rw [variableNames_ofList] at member
  exact (VariableScan.shaped_foldr_extend text).names name member

/-! ### Variables by tokens -/

namespace Token

/-- The variables of a token. -/
def names : Token → List String
  | operand run => variableNames (String.ofList run)
  | _ => []

/-- What is known of a text that begins with some tokens. -/
def beginning : List Token → VariableScan
  | operand run :: rest => run.foldr VariableScan.extend ⟨[], rest.flatMap names⟩
  | tokens => ⟨[], tokens.flatMap names⟩

theorem names_of_ofSymbol? {c : Char} {token : Token} (symbol : ofSymbol? c = some token) :
    token.names = [] := by
  cases token with
  | operand run => exact absurd rfl (ne_operand_of_ofSymbol? symbol run)
  | operator _ | opening | closing => rfl

theorem beginning_apart {tokens : List Token}
    (apart : ∀ run, tokens.head? ≠ some (operand run)) :
    beginning tokens = ⟨[], tokens.flatMap names⟩ := by
  unfold beginning
  split
  next run rest => exact absurd rfl (apart run)
  next => rfl

theorem names_beginning (tokens : List Token) :
    (beginning tokens).names = tokens.flatMap names := by
  unfold beginning
  split
  next run rest =>
    rw [VariableScan.foldr_extend, VariableScan.names_append, List.flatMap_cons]
    congr 1
    exact (variableNames_ofList run).symm
  next => rfl

theorem foldr_extend_eq_beginning (text : List Char) :
    text.foldr VariableScan.extend ⟨[], []⟩ = beginning (scan text) := by
  induction text with
  | nil => rfl
  | cons c text ih =>
    rw [List.foldr_cons, ih, scan_cons]
    cases symbol : ofSymbol? c with
    | some token =>
      have apart (run : List Char) : (token :: scan text).head? ≠ some (operand run) := fun same =>
        ne_operand_of_ofSymbol? symbol run (Option.some.inj same)
      rw [VariableScan.extend_symbol symbol, names_beginning, attach_symbol symbol,
        beginning_apart apart, List.flatMap_cons, names_of_ofSymbol? symbol, List.nil_append]
    | none =>
      rcases attach_cases symbol (scan text) with ⟨run, rest, first, joined⟩ | ⟨apart, joined⟩
      · rw [joined, first]
        rfl
      · rw [joined, beginning_apart apart]
        rfl

end Token

/-- The variables of a text are those of its operands, one after the other. -/
theorem variableNames_eq_flatMap (text : List Char) :
    variableNames (String.ofList text) = (Token.scan text).flatMap Token.names := by
  rw [variableNames_ofList, Token.foldr_extend_eq_beginning, Token.names_beginning]

end Worksheet.Formula
