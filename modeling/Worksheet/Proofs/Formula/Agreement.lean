import Mathlib.Algebra.Order.BigOperators.Group.List
import Mathlib.Algebra.Order.Group.Nat
import Worksheet.Proofs.Formula.Tree
import Worksheet.Proofs.Sheet.Consistency

/-!
# Variables that are read and variables that are resolved

The variables of a formula are found twice: the tree takes whole operands, and the references of its
cell come from all runs of capital letters and digits in the text. Both find the same if and only if
every operand is written as a variable or has no capital letters. Then each variable of the tree has
the value of the cell that it names, and the cell refers to those cells and no others.

Other operands are accepted as well. `A1B1` is one variable for the tree, which names no cell and
counts as zero, but the cell refers to `A1` and to `B1`; `1E5` is a number, but the cell refers to
`E5`.
-/

namespace Worksheet

open Formula

/-- Concatenations whose parts on one side are never the longer ones are the same only part by
part. -/
theorem flatMap_eq_flatMap_iff {α β : Type} {inputs : List α} {first second : α → List β}
    (shorter : ∀ input ∈ inputs, (first input).length ≤ (second input).length) :
    inputs.flatMap first = inputs.flatMap second ↔
      ∀ input ∈ inputs, first input = second input := by
  refine ⟨fun same => ?_, List.flatMap_congr⟩
  induction inputs with
  | nil => simp
  | cons input inputs ih =>
    obtain ⟨here, later⟩ := List.forall_mem_cons.mp shorter
    have rest : (inputs.flatMap first).length ≤ (inputs.flatMap second).length := by
      rw [List.length_flatMap, List.length_flatMap]
      exact List.sum_le_sum later
    rw [List.flatMap_cons, List.flatMap_cons] at same
    have whole := congrArg List.length same
    rw [List.length_append, List.length_append] at whole
    obtain ⟨one, others⟩ := List.append_inj same (by omega)
    exact List.forall_mem_cons.mpr ⟨one, ih later others⟩

/-! ### Operands of accepted formulas -/

namespace Formula

/-- The operand is written as a variable, or nothing in it is. -/
def IsUnambiguous (run : List Char) : Prop :=
  IsReference run ∨ ∀ c ∈ run, c.isUpper = false

theorem isAllowed_of_checkCharacters {formula : String} (checked : checkCharacters formula = .ok ())
    {c : Char} (member : c ∈ formula.toList) : isAllowed c = true := by
  unfold checkCharacters at checked
  split at checked
  next => cases checked
  next none => simpa using List.find?_eq_none.mp none c member

/-- An accepted operand is written with capital letters, digits and points. -/
theorem class_of_isAllowed {c : Char} (allowed : isAllowed c = true)
    (plain : Token.ofSymbol? c = none) (printed : Text.isBlank c = false) :
    c.isUpper = true ∨ c.isDigit = true ∨ c = '.' := by
  have operator := Token.ofSymbol?_operator_eq_none plain
  have opening : c ≠ '(' := by
    rintro rfl
    cases plain
  have closing : c ≠ ')' := by
    rintro rfl
    cases plain
  have space : c ≠ ' ' := by
    rintro rfl
    cases printed
  simpa [isAllowed, operator, opening, closing, space, or_assoc] using allowed

section Operands

variable {c : Char} {rest : List Char}

/-- Where the tree has a number, the text has no variables only if it has no capital letters. -/
theorem variableNames_eq_nil_iff_isUnambiguous (small : c.isUpper = false) :
    variableNames (String.ofList (c :: rest)) = [] ↔ IsUnambiguous (c :: rest) := by
  rw [variableNames_eq_nil_iff]
  refine ⟨Or.inr, ?_⟩
  rintro (⟨letters, digits, same, nonempty, upper, -⟩ | lower)
  · obtain ⟨d, letters, rfl⟩ := List.exists_cons_of_ne_nil nonempty
    obtain rfl : c = d := (List.cons.inj same).1
    simp [small] at upper
  · exact lower

/-- Where the tree has a variable, the text has the same one only if it is written as one. -/
theorem variableNames_eq_singleton_iff_isUnambiguous (capital : c.isUpper = true) :
    variableNames (String.ofList (c :: rest)) = [String.ofList (c :: rest)] ↔
      IsUnambiguous (c :: rest) := by
  constructor
  · intro same
    have member : String.ofList (c :: rest) ∈ variableNames (String.ofList (c :: rest)) :=
      same ▸ List.mem_singleton_self _
    exact .inl (by simpa using isReference_of_mem_variableNames member)
  · rintro (isReference | lower)
    · exact variableNames_of_isReference isReference
    · simp [capital] at lower

/-- The text has at least as many variables as the tree, and both are the same only if the operand
is unambiguous. -/
theorem namesOfOperand_compare {run : List Char} (isRun : IsRun run)
    (written : ∀ c ∈ run, c.isUpper = true ∨ c.isDigit = true ∨ c = '.') :
    (Expr.namesOfOperand run).length ≤ (variableNames (String.ofList run)).length ∧
      (Expr.namesOfOperand run = variableNames (String.ofList run) ↔ IsUnambiguous run) := by
  obtain ⟨c, rest, rfl⟩ := List.exists_cons_of_ne_nil isRun.nonempty
  by_cases numeric : c.isDigit = true ∨ c = '.'
  · have small : c.isUpper = false := by
      rcases numeric with digit | rfl
      · exact isUpper_of_isDigit digit
      · rfl
    have none : Expr.namesOfOperand (c :: rest) = [] := if_pos numeric
    rw [none, eq_comm]
    exact ⟨Nat.zero_le _, variableNames_eq_nil_iff_isUnambiguous small⟩
  · have capital : c.isUpper = true := (written c List.mem_cons_self).resolve_right numeric
    have whole : Expr.namesOfOperand (c :: rest) = [String.ofList (c :: rest)] := if_neg numeric
    have found : variableNames (String.ofList (c :: rest)) ≠ [] := by
      rw [ne_eq, variableNames_eq_nil_iff]
      exact fun lower => by simp [capital] at lower
    rw [whole, eq_comm]
    exact ⟨List.length_pos_iff.mpr found, variableNames_eq_singleton_iff_isUnambiguous capital⟩

end Operands

end Formula

namespace Prepared

variable {rows columns : Nat} {formula : String} {prepared : Prepared}

/-- The variables of the tree of a formula. -/
def treeNames (prepared : Prepared) : List String :=
  prepared.tree?.elim [] Expr.variableNames

/-- The operands of a formula, without the blanks in it. -/
def operandsOf (formula : String) : List (List Char) :=
  (Token.scan (Text.condense formula).toList).flatMap Token.operands

/-- The operands of an accepted formula are runs of capital letters, digits and points. -/
theorem written_of_mem_operandsOf (accepted : ofFormula rows columns formula = .ok prepared)
    {run : List Char} (member : run ∈ operandsOf formula) :
    IsRun run ∧ ∀ c ∈ run, c.isUpper = true ∨ c.isDigit = true ∨ c = '.' := by
  obtain ⟨isRun, within⟩ := Token.isRun_of_mem_operands member
  refine ⟨isRun, fun c inside => ?_⟩
  have kept := within c inside
  rw [Text.toList_condense, List.mem_filter, Bool.not_eq_true'] at kept
  have allowed := isAllowed_of_checkCharacters (parts_of_ofFormula accepted).1 kept.1
  exact class_of_isAllowed allowed (isRun.plain c inside) kept.2

theorem treeNames_eq (accepted : ofFormula rows columns formula = .ok prepared) :
    prepared.treeNames = (operandsOf formula).flatMap Expr.namesOfOperand := by
  obtain ⟨checked, compiled, -⟩ := parts_of_ofFormula accepted
  have ended : delimiter ∉ (Text.condense formula).toList := by
    intro member
    rw [Text.toList_condense] at member
    exact absurd (isAllowed_of_checkCharacters checked (List.mem_of_mem_filter member)) (by decide)
  rw [Expr.compile_eq ended] at compiled
  cases converted : itemsOfTokens (Token.scan (Text.condense formula).toList) with
  | error cause =>
    rw [converted] at compiled
    cases compiled
  | ok items =>
    rw [converted] at compiled
    rw [operandsOf, ← operands_of_itemsOfTokens converted]
    exact Expr.variableNames_of_ofItems compiled

theorem resolvedNames_eq (accepted : ofFormula rows columns formula = .ok prepared) :
    prepared.resolved.map Prod.fst =
      (operandsOf formula).flatMap fun run => variableNames (String.ofList run) := by
  rw [map_fst_of_resolve (resolve_of_ofFormula accepted), operandsOf, ← variableNames_eq_operands,
    String.ofList_toList]

/-- The variables of the tree are those that are resolved if and only if no operand is ambiguous. -/
theorem treeNames_eq_iff (accepted : ofFormula rows columns formula = .ok prepared) :
    prepared.treeNames = prepared.resolved.map Prod.fst ↔
      ∀ run ∈ operandsOf formula, IsUnambiguous run := by
  have compare (run : List Char) (member : run ∈ operandsOf formula) :=
    have ⟨isRun, written⟩ := written_of_mem_operandsOf accepted member
    namesOfOperand_compare isRun written
  rw [treeNames_eq accepted, resolvedNames_eq accepted,
    flatMap_eq_flatMap_iff fun run member => (compare run member).1]
  exact forall₂_congr fun run member => (compare run member).2

/-! ### What the tree reads -/

/-- The variables of a formula are the cells that it reads. Every variable of the tree names a cell
inside the grid; the tree is evaluated when every variable in it has the number of the cell that it
names; and a cell with the formula refers to these cells and to no others. -/
structure IsBound (rows columns : Nat) (formula : String) (prepared : Prepared) : Prop where
  named : ∀ name ∈ prepared.treeNames, ∃ target, target.Inside rows columns ∧
    CellRef.resolve? name rows columns = some target
  valued : ∀ grid : Grid, ∃ bindings : Bindings,
    Document.valueOf grid prepared = Expr.evalOption bindings prepared.tree? ∧
      ∀ name ∈ prepared.treeNames, ∀ target, CellRef.resolve? name rows columns = some target →
        bindings.get? name = some (Document.numberAt grid target)
  referring : ∀ (document : Document) (cell : CellRef) (content : Cell),
    document.grid.rows = rows → document.grid.columns = columns →
      document.grid.get? cell = some content → content.text = "=" ++ formula →
        ∀ target, target ∈ (document.compute cell content).1.references cell ↔
          ∃ name ∈ prepared.treeNames, CellRef.resolve? name rows columns = some target

/-- The cells that a formula reads are those that its resolved variables name. -/
theorem mem_targets_iff (accepted : ofFormula rows columns formula = .ok prepared)
    {target : CellRef} :
    target ∈ prepared.targets ↔ ∃ name ∈ prepared.resolved.map Prod.fst,
      CellRef.resolve? name rows columns = some target := by
  constructor
  · intro member
    obtain ⟨⟨name, cell⟩, standing, rfl⟩ := List.mem_map.mp member
    exact ⟨name, List.mem_map_of_mem standing, resolve?_of_mem_resolved accepted standing⟩
  · rintro ⟨name, member, resolved⟩
    obtain ⟨⟨name, cell⟩, standing, rfl⟩ := List.mem_map.mp member
    rw [resolve?_of_mem_resolved accepted standing] at resolved
    obtain rfl := Option.some.inj resolved
    exact List.mem_map_of_mem standing

/-- A resolved variable is found with the cell that it names. -/
theorem lookup_resolved (accepted : ofFormula rows columns formula = .ok prepared) {name : String}
    (member : name ∈ prepared.resolved.map Prod.fst) :
    prepared.resolved.lookup name = CellRef.resolve? name rows columns := by
  cases found : prepared.resolved.lookup name with
  | none =>
    obtain ⟨⟨name, cell⟩, standing, rfl⟩ := List.mem_map.mp member
    have different := List.lookup_eq_none_iff.mp found _ standing
    simp at different
  | some cell =>
    obtain ⟨before, after, split, -⟩ := List.lookup_eq_some_iff.mp found
    exact (resolve?_of_mem_resolved accepted (split ▸ by simp)).symm

theorem isBound_of_treeNames_eq (accepted : ofFormula rows columns formula = .ok prepared)
    (agree : prepared.treeNames = prepared.resolved.map Prod.fst) :
    prepared.IsBound rows columns formula where
  named name member := by
    rw [agree] at member
    obtain ⟨⟨name, target⟩, standing, rfl⟩ := List.mem_map.mp member
    exact ⟨target, inside_of_mem_targets accepted (List.mem_map_of_mem standing),
      resolve?_of_mem_resolved accepted standing⟩
  valued grid := by
    obtain ⟨bindings, numbers, value⟩ := Document.exists_bindings_valueOf grid accepted
    refine ⟨bindings, value, fun name member target named => ?_⟩
    rw [numbers, lookup_resolved accepted (agree ▸ member), named]
    rfl
  referring document cell content rows columns here written target := by
    subst rows columns
    have compiled : document.grid.accepted? cell = some prepared := by
      rw [Grid.accepted?_of_get? here (Cell.formula?_eq_some_iff.mpr written), accepted]
      rfl
    rw [agree, ← mem_targets_iff accepted]
    change (document.compute cell content).1.Reads cell target ↔ _
    rw [Document.compute_reads here, if_pos rfl, Grid.Reads, compiled]
    simp

/-- The tree of an accepted formula has the variables that are resolved, in their order, if and only
if every operand is written as a variable or has no capital letters. Then all its variables are
bound, and they are what its cell refers to. -/
theorem scanners_agree_iff (accepted : ofFormula rows columns formula = .ok prepared) :
    (prepared.treeNames = prepared.resolved.map Prod.fst ↔
        ∀ run ∈ operandsOf formula, IsUnambiguous run) ∧
      ((∀ run ∈ operandsOf formula, IsUnambiguous run) → prepared.IsBound rows columns formula) :=
  ⟨treeNames_eq_iff accepted,
    fun clear => isBound_of_treeNames_eq accepted ((treeNames_eq_iff accepted).mpr clear)⟩

theorem scanners_agree_sum :
    ofFormula 3 3 "A1 + B2 ^ A1" = .ok
        ⟨some (.operation .add (.reference "A1")
          (.operation .power (.reference "B2") (.reference "A1"))),
          [("A1", ⟨0, 0⟩), ("B2", ⟨1, 1⟩), ("A1", ⟨0, 0⟩)]⟩ ∧
      ∀ run ∈ operandsOf "A1 + B2 ^ A1", IsUnambiguous run := by
  have accepted : ofFormula 3 3 "A1 + B2 ^ A1" = .ok
      ⟨some (.operation .add (.reference "A1")
        (.operation .power (.reference "B2") (.reference "A1"))),
        [("A1", ⟨0, 0⟩), ("B2", ⟨1, 1⟩), ("A1", ⟨0, 0⟩)]⟩ := by decide +kernel
  exact ⟨accepted, (scanners_agree_iff accepted).1.mp rfl⟩

/-- A variable of the tree need not be resolved, nor even name a cell. -/
theorem scanners_differ : ∃ prepared, ofFormula 3 3 "A1B1" = .ok prepared ∧
    prepared.treeNames = ["A1B1"] ∧ prepared.resolved.map Prod.fst = ["A1", "B1"] ∧
      CellRef.resolve? "A1B1" 3 3 = none :=
  ⟨⟨some (.reference "A1B1"), [("A1", ⟨0, 0⟩), ("B1", ⟨0, 1⟩)]⟩, by decide +kernel, rfl, rfl,
    by decide +kernel⟩

end Prepared

end Worksheet
