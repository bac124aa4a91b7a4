import Mathlib.Data.List.Basic
import Worksheet.Proofs.Formula.Tree

/-!
# Postfix forms and their trees

Every tree of operations has a postfix form, and no two trees have the same one: the last item says
what stands at the root, and the items before it can be divided between the two operands in one way
only.

A postfix form is read from a text without losing a character, up to the delimiter that the last
operand may lack. While it is read, the stack holds trees whose postfix forms, put one after the
other, are what has been read. So the texts that have a tree are the postfix forms of trees whose
numbers can be read and which are within the limit of levels, and each of them has the tree that it
is the form of.
-/

namespace Worksheet.Formula

/-! ### Nestings and their items -/

namespace Nesting

variable {Operand : Type} {spell : Operand → List Char}

/-- The number of levels of a nesting. -/
def depth : Nesting Operand → Nat
  | operand _ => 1
  | operation _ left right => 1 + max left.depth right.depth

/-- Where operands are single levels, a nesting has as many levels as its tree. -/
theorem depth_expr {leaf : Operand → Expr} (single : ∀ operand, (leaf operand).depth = 1)
    (nesting : Nesting Operand) : (nesting.expr leaf).depth = nesting.depth := by
  induction nesting with
  | operand inside => exact single inside
  | operation op left right leftSame rightSame =>
    rw [expr, Expr.depth, leftSame, rightSame]
    rfl

/-- Where one nesting ends, nothing but this nesting can have been written. -/
theorem append_items_inj (told : Function.Injective spell) {nesting other : Nesting Operand}
    {before beforeOther : List Item}
    (same : before ++ nesting.items spell = beforeOther ++ other.items spell) :
    before = beforeOther ∧ nesting = other := by
  induction nesting generalizing other before beforeOther with
  | operand leaf =>
    cases other with
    | operand leafOther =>
      obtain ⟨start, last⟩ := List.append_inj' same rfl
      have spelled : spell leaf = spell leafOther := by simpa [items] using last
      exact ⟨start, congrArg operand (told spelled)⟩
    | operation op left right =>
      rw [items, items, ← List.append_assoc] at same
      exact absurd (List.append_inj' same rfl).2 (by simp)
  | operation op left right leftInj rightInj =>
    cases other with
    | operand leafOther =>
      rw [items, items, ← List.append_assoc] at same
      exact absurd (List.append_inj' same rfl).2 (by simp)
    | operation opOther leftOther rightOther =>
      simp only [items, ← List.append_assoc] at same
      obtain ⟨operands, last⟩ := List.append_inj' same rfl
      obtain rfl : op = opOther := by simpa using last
      -- The right operand is what stands last, and it leaves the left one to be read before it.
      obtain ⟨leftSame, rfl⟩ := rightInj operands
      obtain ⟨start, rfl⟩ := leftInj leftSame
      exact ⟨start, rfl⟩

/-- **Unique readability.** A nesting is determined by its items. -/
theorem items_injective (told : Function.Injective spell) :
    Function.Injective (items spell : Nesting Operand → List Item) := by
  intro nesting other same
  have alone : [] ++ nesting.items spell = [] ++ other.items spell := same
  exact (append_items_inj told alone).2

end Nesting

/-! ### Reading items from a text -/

namespace ItemScan

/-- What has been read, written again. -/
def text (scan : ItemScan) : List Char :=
  scan.done.reverse.flatMap Item.text ++ (scan.current?.getD []).reverse

/-- Every character that is read stands in the items or in the operand that has begun. -/
theorem text_step (scan : ItemScan) (c : Char) : (scan.step c).text = scan.text ++ [c] := by
  obtain ⟨current?, done⟩ := scan
  cases current? with
  | some read =>
    by_cases ends : c = delimiter
    · simp [step, text, Item.text, ends]
    · simp [step, text, ends]
  | none =>
    cases symbol : Operator.ofSymbol? c with
    | some op =>
      obtain rfl := Operator.ofSymbol?_eq_some_iff.mp symbol
      simp [step, text, Item.text]
    | none =>
      by_cases ends : c = delimiter
      · simp [step, text, symbol, Item.text, ← ends]
      · simp [step, text, symbol, ends]

theorem text_foldl (scan : ItemScan) (characters : List Char) :
    (characters.foldl step scan).text = scan.text ++ characters := by
  induction characters generalizing scan with
  | nil => simp
  | cons c characters ih =>
    rw [List.foldl_cons, ih, text_step]
    simp

theorem isReadable_nil : IsReadable [] := ⟨by simp, by simp⟩

/-- The operands that have been read, and the one that has begun, can be read where they stand. -/
structure Clear (scan : ItemScan) : Prop where
  done : ∀ text ∈ scan.done.flatMap Item.operands, IsReadable text
  current : ∀ read ∈ scan.current?, read ≠ [] ∧ IsReadable read.reverse

theorem clear_initial : Clear ⟨none, []⟩ where
  done := by simp
  current := by simp

theorem Clear.step {scan : ItemScan} (clear : scan.Clear) (c : Char) : (scan.step c).Clear := by
  obtain ⟨current?, done⟩ := scan
  obtain ⟨earlier, current⟩ := clear
  cases current? with
  | some read =>
    obtain ⟨nonempty, ended, plain⟩ := current read rfl
    by_cases ends : c = delimiter
    · rw [show ItemScan.step ⟨some read, done⟩ c = ⟨none, .operand read.reverse :: done⟩ from
        if_pos ends]
      refine ⟨?_, by simp⟩
      rw [List.flatMap_cons]
      exact List.forall_mem_append.mpr ⟨by simpa [Item.operands] using ⟨ended, plain⟩, earlier⟩
    · rw [show ItemScan.step ⟨some read, done⟩ c = ⟨some (c :: read), done⟩ from if_neg ends]
      refine ⟨earlier, ?_⟩
      rintro - ⟨⟩
      refine ⟨List.cons_ne_nil _ _, ?_, ?_⟩
      · simpa [Ne.symm ends] using ended
      · -- The operand has begun before, so it begins as it did.
        rwa [List.reverse_cons, List.head?_append_of_ne_nil _ (by simpa using nonempty)]
  | none =>
    unfold ItemScan.step
    dsimp only
    cases symbol : Operator.ofSymbol? c with
    | some op => exact ⟨by simpa [Item.operands] using earlier, by simp⟩
    | none =>
      dsimp only
      split
      next ends =>
        refine ⟨?_, by simp⟩
        rw [List.flatMap_cons]
        exact List.forall_mem_append.mpr
          ⟨by simpa [Item.operands] using isReadable_nil, earlier⟩
      next goes =>
        refine ⟨earlier, ?_⟩
        rintro - ⟨⟩
        exact ⟨by simp, by simpa using Ne.symm goes, by simpa using symbol⟩

theorem Clear.foldl {scan : ItemScan} (clear : scan.Clear) (characters : List Char) :
    (characters.foldl ItemScan.step scan).Clear := by
  induction characters generalizing scan with
  | nil => exact clear
  | cons c characters ih => exact ih (clear.step c)

end ItemScan

/-- The state in which a text is left when it has been read. -/
def scanned (text : String) : ItemScan :=
  text.toList.foldl ItemScan.step ⟨none, []⟩

/-- A text with the delimiter that its last operand may lack. -/
def completed (text : String) : String :=
  match (scanned text).current? with
  | some _ => text.push delimiter
  | none => text

/-- The items of a text are written as the text, its last operand being ended. -/
theorem textOfItems_itemsOfText (text : String) :
    textOfItems (itemsOfText text) = completed text := by
  have whole : (scanned text).text = text.toList := ItemScan.text_foldl ⟨none, []⟩ text.toList
  apply String.toList_injective
  rw [textOfItems, String.toList_ofList, itemsOfText, completed]
  change (ItemScan.items (scanned text)).flatMap Item.text = _
  generalize scanned text = scan at whole
  obtain ⟨current?, done⟩ := scan
  cases current? with
  | some read => simp [ItemScan.items, ItemScan.text, Item.text, ← whole]
  | none => simpa [ItemScan.items, ItemScan.text] using whole

/-- What is read from a text can be read where it stands. -/
theorem isReadable_of_mem_itemsOfText {text : String} :
    ∀ operand ∈ (itemsOfText text).flatMap Item.operands, IsReadable operand := by
  have clear : (scanned text).Clear := ItemScan.clear_initial.foldl text.toList
  change ∀ operand ∈ (ItemScan.items (scanned text)).flatMap Item.operands, IsReadable operand
  generalize scanned text = scan at clear
  obtain ⟨current?, done⟩ := scan
  obtain ⟨earlier, current⟩ := clear
  have reversed : ∀ operand ∈ done.reverse.flatMap Item.operands, IsReadable operand := by
    intro operand member
    apply earlier
    simpa using member
  cases current? with
  | some read =>
    obtain ⟨-, readable⟩ := current read rfl
    simp only [ItemScan.items, List.reverse_cons, List.flatMap_append]
    exact List.forall_mem_append.mpr ⟨reversed, by simpa [Item.operands] using readable⟩
  | none => exact reversed

/-! ### Operands and their trees -/

/-- An operand that can stand in a postfix form. -/
@[ext]
structure PostfixOperand where
  text : List Char
  nonempty : text ≠ []
  readable : IsReadable text

namespace PostfixOperand

theorem text_injective : Function.Injective text := fun _ _ => PostfixOperand.ext

/-- The operand begins like a number, with a digit or a point. -/
def startsNumber (operand : PostfixOperand) : Bool :=
  operand.text.head?.any fun c => c.isDigit || c == '.'

/-- An operand that begins like a number can be read as one. -/
def Parses (operand : PostfixOperand) : Prop :=
  operand.startsNumber = true → (Number.ofText? (String.ofList operand.text)).isSome = true

instance (operand : PostfixOperand) : Decidable operand.Parses :=
  inferInstanceAs (Decidable (_ → _))

/-- The tree of an operand: its number if it begins like one, else the variable of this name. -/
def expr (operand : PostfixOperand) : Expr :=
  if operand.startsNumber then .constant ((Number.ofText? (String.ofList operand.text)).getD 0)
  else .reference (String.ofList operand.text)

theorem depth_expr (operand : PostfixOperand) : operand.expr.depth = 1 := by
  unfold expr
  split <;> rfl

/-- An operand has a tree just when it parses. -/
theorem ofOperand_eq_ok_iff {operand : PostfixOperand} {tree : Expr} :
    Expr.ofOperand operand.text = .ok tree ↔ operand.Parses ∧ operand.expr = tree := by
  obtain ⟨text, nonempty, readable⟩ := operand
  obtain ⟨c, rest, rfl⟩ := List.exists_cons_of_ne_nil nonempty
  by_cases numeric : c.isDigit = true ∨ c = '.'
  · have begins : startsNumber ⟨c :: rest, nonempty, readable⟩ = true := by
      simpa [startsNumber] using numeric
    simp only [Expr.ofOperand, if_pos numeric, Parses, expr, begins, if_true, forall_const]
    cases Number.ofText? (String.ofList (c :: rest)) with
    | some value => simp [pure, Except.pure]
    | none => simp [throw, throwThe, MonadExceptOf.throw]
  · have begins : startsNumber ⟨c :: rest, nonempty, readable⟩ = false := by
      simpa [startsNumber] using numeric
    simp [Expr.ofOperand, if_neg numeric, Parses, expr, begins, pure, Except.pure]

end PostfixOperand

namespace Nesting

/-- The postfix form of a nesting. -/
def postfixForm (nesting : Nesting PostfixOperand) : String :=
  textOfItems (nesting.items PostfixOperand.text)

/-- The tree of a nesting. -/
def tree (nesting : Nesting PostfixOperand) : Expr :=
  nesting.expr PostfixOperand.expr

/-- The numbers of a nesting can be read. -/
def Parses (nesting : Nesting PostfixOperand) : Prop :=
  ∀ operand ∈ nesting.leaves, operand.Parses

theorem depth_tree (nesting : Nesting PostfixOperand) : nesting.tree.depth = nesting.depth :=
  depth_expr PostfixOperand.depth_expr nesting

theorem isReadable_of_mem_items {nesting : Nesting PostfixOperand} :
    ∀ text ∈ (nesting.items PostfixOperand.text).flatMap Item.operands, IsReadable text := by
  intro text member
  obtain ⟨operand, rfl⟩ := exists_of_mem_operands member
  exact operand.readable

/-- A postfix form is read as the items that it is written with. -/
theorem itemsOfText_postfixForm (nesting : Nesting PostfixOperand) :
    itemsOfText nesting.postfixForm = nesting.items PostfixOperand.text :=
  itemsOfText_textOfItems isReadable_of_mem_items

/-- A nesting is determined by its postfix form. -/
theorem postfixForm_injective : Function.Injective postfixForm := by
  intro nesting other same
  apply items_injective PostfixOperand.text_injective
  rw [← itemsOfText_postfixForm, same, itemsOfText_postfixForm]

/-- A nesting whose tree can be made. -/
structure Compiles (nesting : Nesting PostfixOperand) : Prop where
  parses : nesting.Parses
  within : nesting.depth ≤ Expr.maxDepth

/-- A nesting as it stands on the stack. -/
def entry (nesting : Nesting PostfixOperand) : Expr × Nat :=
  (nesting.tree, nesting.depth)

/-- The items of nestings, the last one of which has been read first. -/
def itemsOfStack (stack : List (Nesting PostfixOperand)) : List Item :=
  stack.reverse.flatMap (items PostfixOperand.text)

theorem itemsOfStack_cons (nesting : Nesting PostfixOperand)
    (stack : List (Nesting PostfixOperand)) :
    itemsOfStack (nesting :: stack) = itemsOfStack stack ++ nesting.items PostfixOperand.text := by
  simp [itemsOfStack]

end Nesting

end Worksheet.Formula

namespace Worksheet.Expr

open Formula

/-! ### What stands on the stack -/

/-- An item that is read makes a nesting out of those on top of the stack, with the item as its
last. -/
theorem exists_of_push {stack : List (Nesting PostfixOperand)} {item : Item}
    {next : List (Expr × Nat)} (compiles : ∀ nesting ∈ stack, nesting.Compiles)
    (readable : ∀ text ∈ item.operands, IsReadable text)
    (done : push (stack.map Nesting.entry) item = .ok next) :
    ∃ after : List (Nesting PostfixOperand), next = after.map Nesting.entry ∧
      (∀ nesting ∈ after, nesting.Compiles) ∧
        Nesting.itemsOfStack after = Nesting.itemsOfStack stack ++ [item] := by
  cases item with
  | operand text =>
    rw [push] at done
    obtain ⟨made, single, done⟩ := exists_of_bind_ok done
    obtain rfl := Except.ok.inj done
    -- Doubled delimiters read as an empty operand, which has no tree.
    have nonempty : text ≠ [] := by
      rintro rfl
      cases single
    obtain ⟨operand, rfl⟩ : ∃ operand : PostfixOperand, operand.text = text :=
      ⟨⟨text, nonempty, readable text List.mem_cons_self⟩, rfl⟩
    obtain ⟨parses, rfl⟩ := PostfixOperand.ofOperand_eq_ok_iff.mp single
    have alone : (Nesting.operand operand).Compiles :=
      ⟨by simpa [Nesting.Parses, Nesting.leaves] using parses, (by decide : 1 ≤ maxDepth)⟩
    refine ⟨.operand operand :: stack, rfl, List.forall_mem_cons.mpr ⟨alone, compiles⟩, ?_⟩
    rw [Nesting.itemsOfStack_cons]
    rfl
  | operator op =>
    -- An operator needs two nestings on the stack, the right one on top.
    rcases stack with _ | ⟨right, _ | ⟨left, rest⟩⟩
    · cases done
    · cases done
    · obtain ⟨rightCompiles, others⟩ := List.forall_mem_cons.mp compiles
      obtain ⟨leftCompiles, others⟩ := List.forall_mem_cons.mp others
      have both : (Nesting.operation op left right).Parses :=
        List.forall_mem_append.mpr ⟨leftCompiles.parses, rightCompiles.parses⟩
      simp only [push, List.map_cons, Nesting.entry] at done
      split at done
      next => cases done
      next within =>
        obtain rfl := Except.ok.inj done
        have joined : (Nesting.operation op left right).Compiles := ⟨both, Nat.not_lt.mp within⟩
        refine ⟨.operation op left right :: rest, rfl,
          List.forall_mem_cons.mpr ⟨joined, others⟩, ?_⟩
        simp [Nesting.itemsOfStack_cons, Nesting.items]

/-- While items are read, the stack holds trees of nestings whose items are what has been read. -/
theorem exists_of_foldlM_push {stack : List (Nesting PostfixOperand)} {items : List Item}
    {last : List (Expr × Nat)} (compiles : ∀ nesting ∈ stack, nesting.Compiles)
    (readable : ∀ text ∈ items.flatMap Item.operands, IsReadable text)
    (done : items.foldlM push (stack.map Nesting.entry) = .ok last) :
    ∃ after : List (Nesting PostfixOperand), last = after.map Nesting.entry ∧
      (∀ nesting ∈ after, nesting.Compiles) ∧
        Nesting.itemsOfStack after = Nesting.itemsOfStack stack ++ items := by
  induction items generalizing stack with
  | nil =>
    obtain rfl := Except.ok.inj done
    exact ⟨stack, rfl, compiles, by simp⟩
  | cons item items ih =>
    rw [List.flatMap_cons, List.forall_mem_append] at readable
    obtain ⟨next, one, others⟩ := exists_of_foldlM_cons_ok done
    obtain ⟨between, rfl, betweenCompiles, read⟩ := exists_of_push compiles readable.1 one
    obtain ⟨after, same, afterCompiles, whole⟩ := ih betweenCompiles readable.2 others
    exact ⟨after, same, afterCompiles, by rw [whole, read, List.append_assoc]; rfl⟩

/-- Items that have a tree are those of a nesting. -/
theorem exists_nesting_of_ofItems {items : List Item} {tree? : Option Expr}
    (readable : ∀ text ∈ items.flatMap Item.operands, IsReadable text)
    (done : ofItems items = .ok tree?) :
    (tree? = none ∧ items = []) ∨ ∃ nesting : Nesting PostfixOperand,
      nesting.Compiles ∧ tree? = some nesting.tree ∧ nesting.items PostfixOperand.text = items := by
  unfold ofItems at done
  obtain ⟨last, run, done⟩ := exists_of_bind_ok done
  obtain ⟨after, rfl, compiles, whole⟩ := exists_of_foldlM_push
    (List.forall_mem_nil Nesting.Compiles) readable run
  rcases after with _ | ⟨nesting, _ | ⟨second, rest⟩⟩
  · obtain rfl := Except.ok.inj done
    exact .inl ⟨rfl, whole.symm⟩
  · obtain rfl := Except.ok.inj done
    refine .inr ⟨nesting, compiles nesting List.mem_cons_self, rfl, ?_⟩
    simpa [Nesting.itemsOfStack] using whole
  · cases done

/-- A text that has a tree is the postfix form of a nesting. -/
theorem exists_nesting_of_ofPostfix {text : String} {tree : Expr}
    (done : ofPostfix text = .ok (some tree)) :
    ∃ nesting : Nesting PostfixOperand,
      nesting.Compiles ∧ nesting.tree = tree ∧ completed text = nesting.postfixForm := by
  rcases exists_nesting_of_ofItems isReadable_of_mem_itemsOfText done with
    ⟨none, -⟩ | ⟨nesting, compiles, same, items⟩
  · cases none
  · refine ⟨nesting, compiles, (Option.some.inj same).symm, ?_⟩
    rw [← textOfItems_itemsOfText, Nesting.postfixForm, items]

/-- **Postfix forms and trees.** The postfix form of a nesting whose numbers can be read compiles to
the tree of the nesting, unless this has too many levels. A text that compiles to a tree is, once
its last operand is ended, the postfix form of one nesting and no other, whose tree it is. -/
theorem postfix_forms_and_trees :
    (∀ nesting : Nesting PostfixOperand, nesting.Parses →
      ofPostfix nesting.postfixForm =
        if nesting.depth ≤ maxDepth then .ok (some nesting.tree)
        else .error (.tooDeep maxDepth)) ∧
    ∀ (text : String) (tree : Expr), ofPostfix text = .ok (some tree) →
      ∃ nesting : Nesting PostfixOperand, nesting.Parses ∧ nesting.tree = tree ∧
        tree.depth ≤ maxDepth ∧ ∀ other, completed text = other.postfixForm ↔ other = nesting := by
  constructor
  · intro nesting parses
    have single : ∀ operand ∈ nesting.leaves, ofOperand operand.text = .ok operand.expr :=
      fun operand member => PostfixOperand.ofOperand_eq_ok_iff.mpr ⟨parses operand member, rfl⟩
    rw [ofPostfix, Nesting.itemsOfText_postfixForm, ofItems_items_of_leaves single,
      ← Nesting.depth_tree]
    rfl
  · intro text tree done
    obtain ⟨nesting, compiles, rfl, form⟩ := exists_nesting_of_ofPostfix done
    refine ⟨nesting, compiles.parses, rfl, ?_, fun other => ?_⟩
    · rw [Nesting.depth_tree]
      exact compiles.within
    · rw [form, Nesting.postfixForm_injective.eq_iff, eq_comm]

/-- A reference, less the product of a decimal and an operand that has an operator in it. -/
def sampleNesting : Nesting PostfixOperand :=
  .operation .subtract (.operand ⟨['A', '1'], by simp, by decide, by simp [Operator.ofSymbol?]⟩)
    (.operation .multiply
      (.operand ⟨['2', '.', '5'], by simp, by decide, by simp [Operator.ofSymbol?]⟩)
      (.operand ⟨['x', '+'], by simp, by decide, by simp [Operator.ofSymbol?]⟩))

theorem postfix_forms_and_trees_sample :
    sampleNesting.Parses ∧ sampleNesting.postfixForm = "A1|2.5|x+|*-" ∧
      ofPostfix "A1|2.5|x+|*-" = .ok (some sampleNesting.tree) ∧
      ofPostfix "x+" = .ok (some (.reference "x+")) ∧
      ∃ nesting : Nesting PostfixOperand,
        nesting.tree = .reference "x+" ∧ nesting.postfixForm = "x+|" := by
  have parses : sampleNesting.Parses := by
    unfold Nesting.Parses
    decide +kernel
  have form : sampleNesting.postfixForm = "A1|2.5|x+|*-" := by decide +kernel
  have alone : ofPostfix "x+" = .ok (some (.reference "x+")) := by decide +kernel
  have compiled := postfix_forms_and_trees.1 sampleNesting parses
  rw [form] at compiled
  obtain ⟨nesting, -, same, -, only⟩ := postfix_forms_and_trees.2 "x+" _ alone
  exact ⟨parses, form, compiled.trans (if_pos (by decide)), alone, nesting, same,
    ((only nesting).mpr rfl).symm⟩

end Worksheet.Expr
