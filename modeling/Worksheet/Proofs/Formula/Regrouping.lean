import Mathlib.Data.List.Forall2
import Mathlib.Data.Rat.Init
import Worksheet.Proofs.Formula.Acceptance
import Worksheet.Proofs.Formula.Readability

/-!
# Sums in two grammars

In the standard grammar of infix expressions sums and differences have one rank and are grouped from
the left. Here a difference ranks above a sum, so `a - b + c - d` is not grouped in the same way.
The two groupings have the same value wherever sums and differences are exact, whatever the other
operations are and whatever stands in the places of the operands: a difference that ends a sum can
be taken from the last summand as well as from the sum.

Every word of the infix language has a derivation in the standard grammar. This derivation is turned
into one of the grammar with five ranks, by which words are compiled.
-/

namespace Worksheet.Formula

/-! ### The standard grammar -/

/-- An infix expression of some rank, as the standard grammar derives it. No expression has the rank
of differences: sums and differences are of one rank and applied from the left. The last three
constructors take an expression of the next rank as it is. -/
inductive Standard (Operand : Type) : Rank → Type where
  | operand (leaf : Operand) : Standard Operand .atom
  | group (inside : Standard Operand .sum) : Standard Operand .atom
  | raise (base : Standard Operand .atom) (exponent : Standard Operand .power) :
      Standard Operand .power
  | multiply (left : Standard Operand .product) (right : Standard Operand .power) :
      Standard Operand .product
  | divide (left : Standard Operand .product) (right : Standard Operand .power) :
      Standard Operand .product
  | add (left : Standard Operand .sum) (right : Standard Operand .product) : Standard Operand .sum
  | subtract (left : Standard Operand .sum) (right : Standard Operand .product) :
      Standard Operand .sum
  | power (inside : Standard Operand .atom) : Standard Operand .power
  | product (inside : Standard Operand .power) : Standard Operand .product
  | sum (inside : Standard Operand .product) : Standard Operand .sum

namespace Standard

variable {Operand : Type} {rank : Rank}

/-- The characters of an expression, where operands are written in some way. -/
def characters (spell : Operand → List Char) {rank : Rank} : Standard Operand rank → List Char
  | operand leaf => spell leaf
  | group inside => '(' :: (inside.characters spell ++ [')'])
  | raise base exponent => base.characters spell ++ '^' :: exponent.characters spell
  | multiply left right => left.characters spell ++ '*' :: right.characters spell
  | divide left right => left.characters spell ++ '/' :: right.characters spell
  | add left right => left.characters spell ++ '+' :: right.characters spell
  | subtract left right => left.characters spell ++ '-' :: right.characters spell
  | power inside => inside.characters spell
  | product inside => inside.characters spell
  | sum inside => inside.characters spell

/-- How the operations of an expression are nested. -/
def nesting {rank : Rank} : Standard Operand rank → Nesting Operand
  | operand leaf => .operand leaf
  | group inside => inside.nesting
  | raise base exponent => .operation .power base.nesting exponent.nesting
  | multiply left right => .operation .multiply left.nesting right.nesting
  | divide left right => .operation .divide left.nesting right.nesting
  | add left right => .operation .add left.nesting right.nesting
  | subtract left right => .operation .subtract left.nesting right.nesting
  | power inside => inside.nesting
  | product inside => inside.nesting
  | sum inside => inside.nesting

end Standard

/-- A sum less a product: the product is taken from the last summand. -/
def Infix.less {Operand : Type} :
    Infix Operand .sum → Infix Operand .product → Infix Operand .sum
  | .add left right, other => .add left (.subtract right other)
  | .sum inside, other => .sum (.subtract inside other)

/-- The derivation with five ranks of what the standard grammar derives. -/
def Standard.regroup {Operand : Type} {rank : Rank} : Standard Operand rank → Infix Operand rank
  | operand leaf => .operand leaf
  | group inside => .group inside.regroup
  | raise base exponent => .raise base.regroup exponent.regroup
  | multiply left right => .multiply left.regroup right.regroup
  | divide left right => .divide left.regroup right.regroup
  | add left right => .add left.regroup (.difference right.regroup)
  | subtract left right => left.regroup.less right.regroup
  | power inside => .power inside.regroup
  | product inside => .product inside.regroup
  | sum inside => .sum (.difference inside.regroup)

/-! ### Values -/

/-- Operations on rational numbers other than sums and differences. -/
structure Arithmetic where
  multiply : ℚ → ℚ → ℚ
  divide : ℚ → ℚ → ℚ
  power : ℚ → ℚ → ℚ

/-- The value of an operation, where sums and differences are exact. -/
def Arithmetic.apply (arithmetic : Arithmetic) : Operator → ℚ → ℚ → ℚ
  | .add, left, right => left + right
  | .subtract, left, right => left - right
  | .multiply, left, right => arithmetic.multiply left right
  | .divide, left, right => arithmetic.divide left right
  | .power, left, right => arithmetic.power left right

/-- The value of a nesting whose operands, counted from the left, have any values. -/
def Nesting.value {Operand : Type} (arithmetic : Arithmetic) (values : Nat → ℚ) (first : Nat) :
    Nesting Operand → ℚ
  | operand _ => values first
  | operation op left right => arithmetic.apply op (left.value arithmetic values first)
      (right.value arithmetic values (first + left.leaves.length))

section Regrouping

variable {Operand : Type} {rank : Rank} {spell : Operand → List Char}

theorem Infix.characters_less (left : Infix Operand .sum) (right : Infix Operand .product) :
    (left.less right).characters spell =
      left.characters spell ++ '-' :: right.characters spell := by
  cases left <;> simp [less, characters]

theorem Infix.leaves_less (left : Infix Operand .sum) (right : Infix Operand .product) :
    (left.less right).nesting.leaves = left.nesting.leaves ++ right.nesting.leaves := by
  cases left <;> simp [less, nesting, Nesting.leaves]

theorem Infix.value_less (arithmetic : Arithmetic) (values : Nat → ℚ) (first : Nat)
    (left : Infix Operand .sum) (right : Infix Operand .product) :
    (left.less right).nesting.value arithmetic values first =
      left.nesting.value arithmetic values first -
        right.nesting.value arithmetic values (first + left.nesting.leaves.length) := by
  cases left with
  | add former last =>
    -- From the last summand or from the sum: this is where sums have to be exact.
    have moved (a b c : ℚ) : a + (b - c) = a + b - c := by
      rw [Rat.sub_eq_add_neg, Rat.sub_eq_add_neg, Rat.add_assoc]
    simp only [less, nesting, Nesting.value, Arithmetic.apply, Nesting.leaves, List.length_append,
      ← Nat.add_assoc]
    exact moved _ _ _
  | sum inside => rfl

namespace Standard

theorem characters_regroup (standard : Standard Operand rank) :
    standard.regroup.characters spell = standard.characters spell := by
  induction standard with
  | operand leaf => rfl
  | group inside ih => rw [regroup, Infix.characters, ih, characters]
  | raise left right leftSame rightSame
  | multiply left right leftSame rightSame
  | divide left right leftSame rightSame
  | add left right leftSame rightSame =>
    simp only [regroup, Infix.characters, leftSame, rightSame, characters]
  | subtract left right leftSame rightSame =>
    rw [regroup, Infix.characters_less, leftSame, rightSame, characters]
  | power inside ih | product inside ih | sum inside ih => exact ih

theorem leaves_regroup (standard : Standard Operand rank) :
    standard.regroup.nesting.leaves = standard.nesting.leaves := by
  induction standard with
  | operand leaf => rfl
  | raise left right leftSame rightSame
  | multiply left right leftSame rightSame
  | divide left right leftSame rightSame
  | add left right leftSame rightSame =>
    simp only [regroup, Infix.nesting, Nesting.leaves, leftSame, rightSame, nesting]
  | subtract left right leftSame rightSame =>
    rw [regroup, Infix.leaves_less, leftSame, rightSame]
    rfl
  | group inside ih | power inside ih | product inside ih | sum inside ih => exact ih

/-- **Regrouping.** Both derivations of an expression have the same value. -/
theorem value_regroup (arithmetic : Arithmetic) (values : Nat → ℚ) (first : Nat)
    (standard : Standard Operand rank) :
    standard.regroup.nesting.value arithmetic values first =
      standard.nesting.value arithmetic values first := by
  induction standard generalizing first with
  | operand leaf => rfl
  | raise left right leftSame rightSame
  | multiply left right leftSame rightSame
  | divide left right leftSame rightSame
  | add left right leftSame rightSame =>
    simp only [regroup, Infix.nesting, Nesting.value, leftSame, rightSame, nesting, leaves_regroup]
  | subtract left right leftSame rightSame =>
    rw [regroup, Infix.value_less, leftSame, rightSame, leaves_regroup]
    rfl
  | group inside ih | power inside ih | product inside ih | sum inside ih => exact ih first

end Standard

end Regrouping

/-! ### Words have standard derivations -/

/-- A run of characters as an operand. -/
abbrev Run := { run : List Char // IsRun run }

namespace Standard

section Joining

variable {Operand : Type} {spell : Operand → List Char} {rank : Rank} {op : Operator}

/-- Expressions of a rank go on with an operator and an atom. -/
def Extends (spell : Operand → List Char) (rank : Rank) (op : Operator) : Prop :=
  ∀ (former : Standard Operand rank) (atom : Standard Operand .atom),
    ∃ extended : Standard Operand rank, extended.characters spell =
      former.characters spell ++ op.symbol :: atom.characters spell

/-- A power goes on in its last exponent. -/
theorem extends_power : Extends spell .power .power
  | .raise base exponent, atom => by
    obtain ⟨extended, same⟩ := extends_power exponent atom
    exact ⟨.raise base extended, by simp [characters, same]⟩
  | .power inside, atom => ⟨.raise inside (.power atom), rfl⟩

/-- What powers go on with, products go on with in their last factor. -/
theorem Extends.product (powers : Extends spell .power op) : Extends spell .product op
  | .multiply left right, atom => by
    obtain ⟨extended, same⟩ := powers right atom
    exact ⟨.multiply left extended, by simp [characters, same]⟩
  | .divide left right, atom => by
    obtain ⟨extended, same⟩ := powers right atom
    exact ⟨.divide left extended, by simp [characters, same]⟩
  | .product inside, atom => by
    obtain ⟨extended, same⟩ := powers inside atom
    exact ⟨.product extended, same⟩

/-- What products go on with, sums go on with in their last summand. -/
theorem Extends.sum (products : Extends spell .product op) : Extends spell .sum op
  | .add left right, atom => by
    obtain ⟨extended, same⟩ := products right atom
    exact ⟨.add left extended, by simp [characters, same]⟩
  | .subtract left right, atom => by
    obtain ⟨extended, same⟩ := products right atom
    exact ⟨.subtract left extended, by simp [characters, same]⟩
  | .sum inside, atom => by
    obtain ⟨extended, same⟩ := products inside atom
    exact ⟨.sum extended, same⟩

/-- An expression goes on with every operator, where the operator is grouped from the left at the
end of all that ranks as high. -/
theorem extends_sum (op : Operator) : Extends spell .sum op := by
  cases op with
  | add => exact fun former atom => ⟨.add former (.product (.power atom)), rfl⟩
  | subtract => exact fun former atom => ⟨.subtract former (.product (.power atom)), rfl⟩
  | multiply =>
    have products : Extends spell .product .multiply :=
      fun former atom => ⟨.multiply former (.power atom), rfl⟩
    exact products.sum
  | divide =>
    have products : Extends spell .product .divide :=
      fun former atom => ⟨.divide former (.power atom), rfl⟩
    exact products.sum
  | power => exact extends_power.product.sum

/-- A text can follow every expression and an operator. -/
def Follows (spell : Operand → List Char) (text : List Char) : Prop :=
  ∀ (former : Standard Operand .sum) (op : Operator),
    ∃ joined : Standard Operand .sum,
      joined.characters spell = former.characters spell ++ op.symbol :: text

theorem Follows.join {left right : List Char} (leftFollows : Follows spell left) (op : Operator)
    (rightFollows : Follows spell right) : Follows spell (left ++ op.symbol :: right) := by
  intro former before
  obtain ⟨between, first⟩ := leftFollows former before
  obtain ⟨joined, second⟩ := rightFollows between op
  exact ⟨joined, by simp [second, first]⟩

/-- Two expressions with an operator between them make one. The second one is added atom by atom, so
it is grouped anew. -/
theorem follows (latter : Standard Operand rank) : Follows spell (latter.characters spell) := by
  induction latter with
  | operand leaf => exact fun former op => extends_sum op former (.operand leaf)
  | group inside => exact fun former op => extends_sum op former (.group inside)
  | raise _ _ leftFollows rightFollows => exact leftFollows.join .power rightFollows
  | multiply _ _ leftFollows rightFollows => exact leftFollows.join .multiply rightFollows
  | divide _ _ leftFollows rightFollows => exact leftFollows.join .divide rightFollows
  | add _ _ leftFollows rightFollows => exact leftFollows.join .add rightFollows
  | subtract _ _ leftFollows rightFollows => exact leftFollows.join .subtract rightFollows
  | power inside ih | product inside ih | sum inside ih => exact ih

end Joining

/-- What the standard grammar derives are words. -/
theorem isWord_characters {rank : Rank} (standard : Standard Run rank) :
    IsWord (standard.characters Subtype.val) := by
  induction standard with
  | operand leaf => exact .operand leaf.property
  | group inside ih => exact .group ih
  | raise left right leftWord rightWord => exact .join .power leftWord rightWord
  | multiply left right leftWord rightWord => exact .join .multiply leftWord rightWord
  | divide left right leftWord rightWord => exact .join .divide leftWord rightWord
  | add left right leftWord rightWord => exact .join .add leftWord rightWord
  | subtract left right leftWord rightWord => exact .join .subtract leftWord rightWord
  | power inside ih | product inside ih | sum inside ih => exact ih

/-- Every word has a derivation in the standard grammar. -/
theorem exists_of_isWord {text : List Char} (word : IsWord text) :
    ∃ standard : Standard Run .sum, standard.characters Subtype.val = text := by
  induction word with
  | operand isRun => exact ⟨.sum (.product (.power (.operand ⟨_, isRun⟩))), rfl⟩
  | group _ ih =>
    obtain ⟨inside, rfl⟩ := ih
    exact ⟨.sum (.product (.power (.group inside))), rfl⟩
  | join op _ _ leftHas rightHas =>
    obtain ⟨left, rfl⟩ := leftHas
    obtain ⟨right, rfl⟩ := rightHas
    exact right.follows left op

end Standard

/-! ### Nestings that are written alike -/

namespace Nesting

variable {Operand Other : Type} {spell : Operand → List Char}

/-- The same nesting with other operands. -/
def map (replace : Operand → Other) : Nesting Operand → Nesting Other
  | operand leaf => .operand (replace leaf)
  | operation op left right => .operation op (left.map replace) (right.map replace)

theorem leaves_map (replace : Operand → Other) (nesting : Nesting Operand) :
    (nesting.map replace).leaves = nesting.leaves.map replace := by
  induction nesting with
  | operand leaf => rfl
  | operation op left right leftSame rightSame => simp [map, leaves, leftSame, rightSame]

theorem items_map (replace : Operand → Other) (spell : Other → List Char)
    (nesting : Nesting Operand) :
    (nesting.map replace).items spell = nesting.items (spell ∘ replace) := by
  induction nesting with
  | operand leaf => rfl
  | operation op left right leftSame rightSame => simp [map, items, leftSame, rightSame]

/-- Values go with places, not with operands. -/
theorem value_map (replace : Operand → Other) (arithmetic : Arithmetic) (values : Nat → ℚ)
    (first : Nat) (nesting : Nesting Operand) :
    (nesting.map replace).value arithmetic values first =
      nesting.value arithmetic values first := by
  induction nesting generalizing first with
  | operand leaf => rfl
  | operation op left right leftSame rightSame =>
    simp [map, value, leftSame, rightSame, leaves_map]

/-- Nestings with the same items differ in nothing but what their operands are. -/
theorem map_eq_map_of_items {nesting : Nesting Operand} {other : Nesting Other}
    {spellOther : Other → List Char} (same : nesting.items spell = other.items spellOther) :
    nesting.map spell = other.map spellOther := by
  apply items_injective Function.injective_id
  rw [items_map, items_map]
  exact same

end Nesting

/-! ### Delimiters in operands -/

/-- A character that operators are written as. -/
def isSymbol (c : Char) : Bool :=
  (Operator.ofSymbol? c).isSome

theorem isSymbol_symbol (op : Operator) : isSymbol op.symbol = true := by
  simp [isSymbol]

theorem symbol_ne_delimiter (op : Operator) : op.symbol ≠ delimiter := by
  cases op <;> decide

namespace Nesting

variable {Operand : Type} {spell : Operand → List Char}

/-- The characters of a postfix form. -/
def written (spell : Operand → List Char) (nesting : Nesting Operand) : List Char :=
  (nesting.items spell).flatMap Item.text

theorem written_operation (op : Operator) (left right : Nesting Operand) :
    (operation op left right).written spell =
      left.written spell ++ right.written spell ++ [op.symbol] := by
  simp [written, items, Item.text]

/-- A postfix form has no less operators than it needs; operands may have more of them. -/
theorem length_leaves_le (nesting : Nesting Operand) :
    nesting.leaves.length ≤ (nesting.written spell).countP isSymbol + 1 := by
  induction nesting with
  | operand leaf => exact Nat.le_add_left 1 _
  | operation op left right leftFew rightFew =>
    rw [written_operation, List.countP_append, List.countP_append,
      List.countP_singleton, if_pos (isSymbol_symbol op), leaves, List.length_append]
    omega

/-- Where operands have no operators in them, a postfix form has as many as it needs. -/
theorem length_leaves_eq (runs : ∀ leaf, IsRun (spell leaf)) (nesting : Nesting Operand) :
    nesting.leaves.length = (nesting.written spell).countP isSymbol + 1 := by
  induction nesting with
  | operand leaf =>
    have plain : (spell leaf).countP isSymbol = 0 := by
      rw [List.countP_eq_zero]
      intro c member
      simp [isSymbol, Token.ofSymbol?_operator_eq_none ((runs leaf).plain c member)]
    have ended : [delimiter].countP isSymbol = 0 := rfl
    simp [written, items, Item.text, leaves, plain, ended]
  | operation op left right leftSame rightSame =>
    rw [written_operation, List.countP_append, List.countP_append,
      List.countP_singleton, if_pos (isSymbol_symbol op), leaves, List.length_append]
    omega

/-- Every operand is ended by a delimiter, and there are those inside of operands. -/
theorem count_delimiter_written (nesting : Nesting Operand) :
    (nesting.written spell).count delimiter =
      nesting.leaves.length + (nesting.leaves.flatMap spell).count delimiter := by
  induction nesting with
  | operand leaf => simp [written, items, Item.text, leaves, Nat.add_comm]
  | operation op left right leftSame rightSame =>
    have none : [op.symbol].count delimiter = 0 :=
      List.count_singleton.trans (if_neg (by simpa using symbol_ne_delimiter op))
    rw [written_operation, List.count_append, List.count_append, none, leaves, List.length_append,
      List.flatMap_append, List.count_append]
    omega

end Nesting

/-- A text with no more delimiters than its operators call for. -/
def Fits (text : List Char) : Prop :=
  text.count delimiter ≤ text.countP isSymbol + 1

/-- Only a text that fits has a tree. -/
theorem fits_of_ofPostfix {text : String} {tree? : Option Expr}
    (done : Expr.ofPostfix text = .ok tree?) : Fits text.toList := by
  have whole : Fits (completed text).toList := by
    rw [← textOfItems_itemsOfText, textOfItems, String.toList_ofList]
    rcases Expr.exists_nesting_of_ofItems isReadable_of_mem_itemsOfText done with
      ⟨-, none⟩ | ⟨nesting, -, -, same⟩
    · rw [none]
      exact Nat.zero_le 1
    · have inside : (nesting.leaves.flatMap PostfixOperand.text).count delimiter = 0 := by
        rw [List.count_eq_zero, List.mem_flatMap]
        rintro ⟨operand, -, member⟩
        exact operand.readable.ended member
      rw [← same]
      change (nesting.written PostfixOperand.text).count delimiter ≤ _
      rw [Nesting.count_delimiter_written, inside]
      exact nesting.length_leaves_le
  -- The delimiter that the last operand lacked is no operator.
  unfold completed at whole
  split at whole
  · rw [String.toList_push, Fits, List.count_append, List.countP_append] at whole
    exact (Nat.le_add_right _ _).trans whole
  · exact whole

/-- Where a postfix form of runs has a tree, no delimiter stands in a run: it would part an operand
in two, and there are no operators for so many. -/
theorem Nesting.delimiter_not_mem_of_ofPostfix {Operand : Type} {spell : Operand → List Char}
    (runs : ∀ leaf, IsRun (spell leaf)) {nesting : Nesting Operand} {tree? : Option Expr}
    (done : Expr.ofPostfix (textOfItems (nesting.items spell)) = .ok tree?) :
    ∀ leaf ∈ nesting.leaves, delimiter ∉ spell leaf := by
  have fits := fits_of_ofPostfix done
  -- There is one operator less than there are runs, so their delimiters are all that fit.
  rw [textOfItems, String.toList_ofList] at fits
  change (nesting.written spell).count delimiter ≤ (nesting.written spell).countP isSymbol + 1
    at fits
  rw [← length_leaves_eq runs, count_delimiter_written] at fits
  have none : (nesting.leaves.flatMap spell).count delimiter = 0 := by omega
  rw [List.count_eq_zero] at none
  exact fun leaf member inside => none (List.mem_flatMap.mpr ⟨leaf, member, inside⟩)

end Worksheet.Formula

namespace Worksheet.Expr

open Formula

/-! ### The tree that is built -/

/-- How the operations of a tree are nested. -/
def nesting : Expr → Nesting Expr
  | constant value => .operand (.constant value)
  | reference name => .operand (.reference name)
  | operation op left right => .operation op left.nesting right.nesting

theorem nesting_expr {Operand : Type} {leaf : Operand → Expr}
    (single : ∀ operand, (leaf operand).nesting = .operand (leaf operand))
    (inner : Nesting Operand) : (inner.expr leaf).nesting = inner.map leaf := by
  induction inner with
  | operand inside => exact single inside
  | operation op left right leftSame rightSame => simp [Nesting.expr, nesting, Nesting.map, *]

theorem nesting_operand (operand : PostfixOperand) :
    operand.expr.nesting = .operand operand.expr := by
  unfold PostfixOperand.expr
  split <;> rfl

/-- A derivation whose word is compiled has the operations of the tree, on the operands of the
tree. -/
theorem exists_nesting_of_compile {expression : String} {tree? : Option Expr}
    (accepted : compile expression = .ok tree?) {derived : Infix Run .sum}
    (spelled : derived.characters Subtype.val = (Text.condense expression).toList) :
    ∃ inner : Nesting PostfixOperand, tree? = some inner.tree ∧ inner.Parses ∧
      inner.items PostfixOperand.text = derived.nesting.items Subtype.val := by
  have runs (run : Run) : IsRun run.val := run.property
  -- The word is converted along its derivation, whatever it was derived from.
  have converted := (derived.converts runs).itemsOfTokens_eq
  have postfixed : ofPostfix (textOfItems (derived.nesting.items Subtype.val)) = .ok tree? := by
    simpa only [compile, toPostfix, ← spelled, converted, Functor.map, Except.map, bind,
      Except.bind] using accepted
  have readable : ∀ text ∈ (derived.nesting.items Subtype.val).flatMap Item.operands,
      IsReadable text := by
    rw [Nesting.operands_items, List.forall_mem_map]
    exact fun run member => (runs run).isReadable
      (Nesting.delimiter_not_mem_of_ofPostfix runs postfixed run member)
  rw [ofPostfix, itemsOfText_textOfItems readable] at postfixed
  rcases exists_nesting_of_ofItems readable postfixed with
    ⟨-, none⟩ | ⟨inner, compiles, same, items⟩
  · -- An expression has at least one operand.
    cases shape : derived.nesting <;> simp [shape, Nesting.items] at none
  · exact ⟨inner, same, compiles.parses, items⟩

/-- **The ranks of sums and differences.** A word that is compiled has a tree, and in exact
arithmetic this tree has the value of the standard derivation of the word, for all values that are
put in the places of the operands. Both have the same operands in these places. -/
theorem ranking_keeps_value {expression : String} {tree? : Option Expr}
    (word : IsWord (Text.condense expression).toList)
    (accepted : compile expression = .ok tree?) :
    ∃ tree, tree? = some tree ∧
      (∃ standard : Standard Run .sum,
        standard.characters Subtype.val = (Text.condense expression).toList) ∧
      ∀ standard : Standard Run .sum,
        standard.characters Subtype.val = (Text.condense expression).toList →
          List.Forall₂ (fun run leaf => ofOperand run.val = .ok leaf) standard.nesting.leaves
              tree.nesting.leaves ∧
            ∀ (arithmetic : Arithmetic) (values : Nat → ℚ),
              tree.nesting.value arithmetic values 0 =
                standard.nesting.value arithmetic values 0 := by
  have derivation := Standard.exists_of_isWord word
  obtain ⟨tree, rfl⟩ : ∃ tree, tree? = some tree := by
    obtain ⟨standard, spelled⟩ := derivation
    obtain ⟨inner, same, -⟩ :=
      exists_nesting_of_compile accepted (standard.characters_regroup.trans spelled)
    exact ⟨inner.tree, same⟩
  refine ⟨tree, rfl, derivation, fun standard spelled => ?_⟩
  obtain ⟨inner, same, parses, items⟩ :=
    exists_nesting_of_compile accepted (standard.characters_regroup.trans spelled)
  -- The tree and the derivation are two readings of one nesting, with operands as trees or runs.
  have built : tree.nesting = inner.map PostfixOperand.expr := by
    rw [Option.some.inj same]
    exact nesting_expr nesting_operand inner
  have alike : inner.map PostfixOperand.text = standard.regroup.nesting.map Subtype.val :=
    Nesting.map_eq_map_of_items items
  constructor
  · have texts := congrArg Nesting.leaves alike
    rw [Nesting.leaves_map, Nesting.leaves_map, standard.leaves_regroup] at texts
    have each : List.Forall₂ (fun text leaf => ofOperand text = .ok leaf)
        (standard.nesting.leaves.map Subtype.val) (inner.leaves.map PostfixOperand.expr) := by
      rw [← texts, List.forall₂_map_left_iff, List.forall₂_map_right_iff, List.forall₂_same]
      exact fun operand member =>
        PostfixOperand.ofOperand_eq_ok_iff.mpr ⟨parses operand member, rfl⟩
    rw [built, Nesting.leaves_map]
    exact List.forall₂_map_left_iff.mp each
  · intro arithmetic values
    calc tree.nesting.value arithmetic values 0
      _ = inner.value arithmetic values 0 := by rw [built, Nesting.value_map]
      _ = standard.regroup.nesting.value arithmetic values 0 := by
        rw [← Nesting.value_map PostfixOperand.text, alike, Nesting.value_map]
      _ = standard.nesting.value arithmetic values 0 := standard.value_regroup arithmetic values 0

/-- A run of a letter and a digit. -/
theorem isRun_pair {letter digit : Char} (first : Token.ofSymbol? letter = none)
    (second : Token.ofSymbol? digit = none) : IsRun [letter, digit] :=
  ⟨by simp, by simp [first, second]⟩

/-- A difference, a summand and a difference of it, all of references. -/
def sampleStandard : Standard Run .sum :=
  let operand (run : Run) : Standard Run .product := .product (.power (.operand run))
  .subtract
    (.add
      (.subtract (.sum (operand ⟨['A', '1'], isRun_pair rfl rfl⟩))
        (operand ⟨['B', '1'], isRun_pair rfl rfl⟩))
      (operand ⟨['C', '1'], isRun_pair rfl rfl⟩))
    (operand ⟨['D', '1'], isRun_pair rfl rfl⟩)

theorem ranking_keeps_value_differences :
    sampleStandard.characters Subtype.val = (Text.condense "A1 - B1 + C1 - D1").toList ∧
      compile "A1 - B1 + C1 - D1" = .ok (some (.operation .add
        (.operation .subtract (.reference "A1") (.reference "B1"))
        (.operation .subtract (.reference "C1") (.reference "D1")))) ∧
      ∀ a b c d : ℚ, a - b + (c - d) = a - b + c - d := by
  have spelled : sampleStandard.characters Subtype.val =
      (Text.condense "A1 - B1 + C1 - D1").toList := by decide +kernel
  have accepted : compile "A1 - B1 + C1 - D1" = .ok (some (.operation .add
      (.operation .subtract (.reference "A1") (.reference "B1"))
      (.operation .subtract (.reference "C1") (.reference "D1")))) := by decide +kernel
  have word := spelled ▸ sampleStandard.isWord_characters
  refine ⟨spelled, accepted, fun a b c d => ?_⟩
  obtain ⟨tree, same, -, all⟩ := ranking_keeps_value word accepted
  obtain rfl := Option.some.inj same
  obtain ⟨-, values⟩ := all sampleStandard spelled
  exact values ⟨fun _ _ => 0, fun _ _ => 0, fun _ _ => 0⟩ fun place => [a, b, c, d].getD place 0

end Worksheet.Expr
