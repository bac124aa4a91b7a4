import Worksheet.Proofs.Formula.Tree
import Worksheet.Proofs.Number.Numerals

/-!
# Formulas of the grammar

The operands of a formula are numbers, written with digits and maybe a point between digits, and
references, written with capital letters and maybe digits. A formula is an infix expression of such
operands; blanks may stand anywhere in it.

Every formula compiles to the tree of its derivation unless this tree has too many levels, and the
variables of the tree are those that are found in the text of the formula.
-/

namespace Worksheet.Formula

/-- A text of one or more digits. -/
structure IsDigits (text : List Char) : Prop where
  nonempty : text ≠ []
  all : ∀ c ∈ text, c.isDigit = true

/-- A text is written as numbers are: digits alone, or digits on both sides of a point. -/
inductive IsNumber : List Char → Prop where
  | whole {digits : List Char} (isDigits : IsDigits digits) : IsNumber digits
  | decimal {digits places : List Char} (before : IsDigits digits) (behind : IsDigits places) :
      IsNumber (digits ++ '.' :: places)

/-- An operand of a formula. -/
inductive Operand where
  | number (text : List Char) (isNumber : IsNumber text)
  | reference (text : List Char) (isReference : IsReference text)

/-! ### Reading numbers -/

section Numbers

variable {text : List Char}

theorem IsNumber.exists_cons (isNumber : IsNumber text) :
    ∃ c rest, text = c :: rest ∧ c.isDigit = true := by
  have first {digits : List Char} (isDigits : IsDigits digits) :
      ∃ c rest, digits = c :: rest ∧ c.isDigit = true := by
    obtain ⟨c, rest, rfl⟩ := List.exists_cons_of_ne_nil isDigits.nonempty
    exact ⟨c, rest, rfl, isDigits.all c List.mem_cons_self⟩
  cases isNumber with
  | whole isDigits => exact first isDigits
  | decimal before _ =>
    obtain ⟨c, rest, rfl, digit⟩ := first before
    exact ⟨c, _, rfl, digit⟩

/-- A number has a numeral without an exponent. -/
theorem IsNumber.isSome_numeralOf? (isNumber : IsNumber text) :
    (Number.numeralOf? text).isSome = true := by
  cases isNumber with
  | whole isDigits =>
    rw [Number.numeralOf?_whole isDigits.nonempty isDigits.all, Option.isSome_some]
  | decimal before behind =>
    rw [Number.numeralOf?_point before.nonempty before.all behind.all, Option.isSome_some]

/-- Every number can be read. -/
theorem IsNumber.isSome_ofText? (isNumber : IsNumber text) :
    (Number.ofText? (String.ofList text)).isSome = true := by
  obtain ⟨c, rest, rfl, digit⟩ := isNumber.exists_cons
  have unsigned {sign : Char} (other : sign.isDigit = false) :
      (c :: rest).head? ≠ some sign := fun same => by
    obtain rfl := Option.some.inj same
    simp [digit] at other
  have magnitude : Number.magnitudeOf? (c :: rest) = _ :=
    Number.magnitudeOf?_of_digits (List.cons_ne_nil c []) (by simpa using digit) rest
  rw [Number.ofText?, String.toList_ofList, Number.splitSign_of_head? (unsigned rfl) (unsigned rfl),
    Option.isSome_map, magnitude, Option.isSome_map]
  exact isNumber.isSome_numeralOf?

/-- Numbers are written with digits and points. -/
theorem IsNumber.isDigit_or_point (isNumber : IsNumber text) {c : Char} (member : c ∈ text) :
    c.isDigit = true ∨ c = '.' := by
  cases isNumber with
  | whole isDigits => exact .inl (isDigits.all c member)
  | decimal before behind =>
    rcases List.mem_append.mp member with left | right
    · exact .inl (before.all c left)
    · rcases List.mem_cons.mp right with point | right
      · exact .inr point
      · exact .inl (behind.all c right)

end Numbers

namespace Operand

/-- An operand as it is written. -/
def text : Operand → List Char
  | number text _ => text
  | reference text _ => text

/-- The tree of an operand: the double that a number is read as, or a variable. -/
def expr : Operand → Expr
  | number text isNumber =>
    .constant ((Number.ofText? (String.ofList text)).get isNumber.isSome_ofText?)
  | reference text _ => .reference (String.ofList text)

/-- Operands are written with capital letters, digits and points. -/
theorem mem_text {operand : Operand} {c : Char} (member : c ∈ operand.text) :
    c.isUpper = true ∨ c.isDigit = true ∨ c = '.' := by
  cases operand with
  | number text isNumber => exact .inr (isNumber.isDigit_or_point member)
  | reference text isReference =>
    have within : c ∈ text := member
    obtain ⟨letters, digits, rfl, -, upper, decimal⟩ := isReference
    rcases List.mem_append.mp within with left | right
    · exact .inl (upper c left)
    · exact .inr (.inl (decimal c right))

theorem isRun_text (operand : Operand) : IsRun operand.text where
  nonempty := by
    cases operand with
    | number text isNumber =>
      obtain ⟨c, rest, first, -⟩ := isNumber.exists_cons
      exact first ▸ List.cons_ne_nil c rest
    | reference text isReference =>
      obtain ⟨letters, digits, rfl, nonempty, -⟩ := isReference
      exact List.append_ne_nil_of_left_ne_nil nonempty digits
  plain c member := by
    cases symbol : Token.ofSymbol? c with
    | none => rfl
    | some token =>
      obtain ⟨upper, digit⟩ := class_of_ofSymbol? symbol
      rcases mem_text member with letter | decimal | rfl
      · simp [upper] at letter
      · simp [digit] at decimal
      · cases symbol

theorem delimiter_not_mem_text (operand : Operand) : delimiter ∉ operand.text := fun member =>
  absurd (mem_text member) (by decide)

/-- An operand compiles to its tree. -/
theorem ofOperand_text (operand : Operand) : Expr.ofOperand operand.text = .ok operand.expr := by
  cases operand with
  | number text isNumber =>
    obtain ⟨c, rest, rfl, digit⟩ := isNumber.exists_cons
    unfold text Expr.ofOperand
    dsimp only
    rw [if_pos (.inl digit)]
    split
    next value read =>
      rw [expr, Option.get_of_eq_some _ read]
      rfl
    next unread => exact absurd unread (Option.isSome_iff_ne_none.mp isNumber.isSome_ofText?)
  | reference text isReference =>
    obtain ⟨letters, digits, rfl, nonempty, upper, -⟩ := isReference
    obtain ⟨c, rest, rfl⟩ := List.exists_cons_of_ne_nil nonempty
    have capital := upper c List.mem_cons_self
    have digit : ¬ (c.isDigit = true ∨ c = '.') := by
      rintro (decimal | rfl)
      · simp [isUpper_of_isDigit decimal] at capital
      · cases capital
    exact if_neg digit

/-- An operand is found as a variable in its text if and only if its tree is a variable. -/
theorem variableNames_text (operand : Operand) :
    variableNames (String.ofList operand.text) = Expr.namesOfOperand operand.text := by
  rw [← (Expr.ofOperand_ok operand.ofOperand_text).2]
  cases operand with
  | number text isNumber =>
    refine (variableNames_eq_nil_iff text).mpr fun c member => ?_
    rcases isNumber.isDigit_or_point member with decimal | rfl
    · exact isUpper_of_isDigit decimal
    · rfl
  | reference text isReference => exact variableNames_of_isReference isReference

end Operand

namespace Infix

variable {rank : Rank}

/-- The tree of the derivation of a formula. -/
def tree (formula : Infix Operand rank) : Expr :=
  formula.nesting.expr Operand.expr

/-- A formula is written with its operands, operators and parentheses. -/
theorem mem_characters {Leaf : Type} {spell : Leaf → List Char} {expression : Infix Leaf rank}
    {c : Char} (member : c ∈ expression.characters spell) :
    (∃ leaf, c ∈ spell leaf) ∨ (Token.ofSymbol? c).isSome = true := by
  induction expression with
  | operand leaf => exact .inl ⟨leaf, member⟩
  | group inside ih =>
    rcases List.mem_cons.mp member with rfl | later
    · exact .inr rfl
    · rcases List.mem_append.mp later with within | last
      · exact ih within
      · exact .inr (List.mem_singleton.mp last ▸ rfl)
  | raise left right leftMember rightMember
  | multiply left right leftMember rightMember
  | divide left right leftMember rightMember
  | subtract left right leftMember rightMember
  | add left right leftMember rightMember =>
    rcases List.mem_append.mp member with onLeft | later
    · exact leftMember onLeft
    · rcases List.mem_cons.mp later with rfl | onRight
      · exact .inr rfl
      · exact rightMember onRight
  | power inside ih | product inside ih | difference inside ih | sum inside ih => exact ih member

theorem delimiter_not_mem_characters (formula : Infix Operand rank) :
    delimiter ∉ formula.characters Operand.text := by
  intro member
  rcases mem_characters member with ⟨operand, within⟩ | symbol
  · exact operand.delimiter_not_mem_text within
  · cases symbol

end Infix

end Worksheet.Formula

namespace Worksheet.Expr

open Formula

/-- A formula with blanks anywhere compiles to the tree of its derivation, if that is within the
limit of levels. The variables of the tree are those in the text of the formula. -/
theorem compile_infix (formula : Infix Operand .sum) {expression : String}
    (spaced : (expression.toList.filter fun c => !Text.isBlank c) =
      formula.characters Operand.text) :
    compile expression =
        (if formula.tree.depth ≤ maxDepth then .ok (some formula.tree)
        else .error (.tooDeep maxDepth)) ∧
      formula.tree.variableNames = Formula.variableNames (Text.condense expression) := by
  have single := Operand.ofOperand_text
  have converted := (formula.converts Operand.isRun_text).itemsOfTokens_eq
  rw [← Text.toList_condense] at spaced
  constructor
  · rw [compile_eq (spaced ▸ formula.delimiter_not_mem_characters), spaced, converted]
    exact ofItems_items single formula.nesting
  · have names (run : List Char) (member : run ∈ (formula.nesting.items Operand.text).flatMap
        Item.operands) : namesOfOperand run = Formula.variableNames (String.ofList run) := by
      obtain ⟨operand, rfl⟩ := Nesting.exists_of_mem_operands member
      exact operand.variableNames_text.symm
    have condensed := String.ofList_toList (s := Text.condense expression)
    rw [spaced] at condensed
    rw [Infix.tree, variableNames_expr single, ← condensed, variableNames_eq_operands,
      ← operands_of_itemsOfTokens converted]
    exact List.flatMap_congr names

/-- A reference, less the product of a decimal and a power in parentheses. -/
def sampleFormula : Infix Operand .sum :=
  let cell : Operand := .reference ['A', '1'] ⟨['A'], ['1'], by simp⟩
  let base : Operand := .reference ['B', '2'] ⟨['B'], ['2'], by simp⟩
  let factor : Operand :=
    .number (['2'] ++ '.' :: ['5', '0']) (.decimal ⟨by simp, by simp⟩ ⟨by simp, by simp⟩)
  let exponent : Operand := .number ['3'] (.whole ⟨by simp, by simp⟩)
  let inside : Infix Operand .sum :=
    .sum (.difference (.product (.raise (.operand base) (.power (.operand exponent)))))
  .sum (.subtract (.difference (.product (.power (.operand cell))))
    (.multiply (.product (.power (.operand factor))) (.power (.group inside))))

theorem compile_infix_spaced :
    (" A1 - 2.50 * (B2 ^\t3) ".toList.filter fun c => !Text.isBlank c) =
        sampleFormula.characters Operand.text ∧
      compile " A1 - 2.50 * (B2 ^\t3) " = .ok (some sampleFormula.tree) ∧
      sampleFormula.tree.variableNames = ["A1", "B2"] := by
  have spaced : (" A1 - 2.50 * (B2 ^\t3) ".toList.filter fun c => !Text.isBlank c) =
      sampleFormula.characters Operand.text := by decide +kernel
  obtain ⟨compiled, -⟩ := compile_infix sampleFormula spaced
  exact ⟨spaced, compiled.trans (if_pos (by decide)), rfl⟩

end Worksheet.Expr
