import Worksheet.Proofs.Sheet.Announcements

/-!
# What an edit leaves alone

A new text leaves all other texts, all colors and the references of all other cells as they were,
and it changes values only where the edited cell is read, directly or not. The walk takes the
references of every cell that it comes to away and sets them again; they are the former ones because
the graph of a sheet that can be reached holds nothing but what the texts say.

What the edited cell itself reads has therefore the same values before and after the edit, unless
its formula closes a cycle. So a formula that is evaluated on its own has the value that any cell
displays that it is written into, as long as this cell is not circular then.
-/

namespace Worksheet

open Relation

namespace Document

variable {document : Document} {size : Dimensions} {contents : Contents} {cell other : CellRef}
  {text formula : String}

/-! ### The frame of an edit -/

section Frame

/-- An edit puts a text in the place of a different one, or it does nothing. -/
theorem setText_eq_self_or (document : Document) (cell : CellRef) (text : String) :
    (document.setText cell text).1 = document ∨
      ∃ former, document.grid.get? cell = some former ∧ former.text ≠ text := by
  cases here : document.grid.get? cell with
  | none => exact Or.inl (congrArg Prod.fst (setText_of_same (by simp [here])))
  | some former =>
    by_cases known : former.text = text
    · exact Or.inl (congrArg Prod.fst (setText_of_same (by simp [here, known])))
    · exact Or.inr ⟨former, rfl, known⟩

namespace Holds

theorem text_setText_of_ne (holds : document.Holds size contents) (different : other ≠ cell) :
    ((document.setText cell text).1.grid.get? other).map Cell.text =
      (document.grid.get? other).map Cell.text := by
  rw [Grid.text_eq, Grid.text_eq, (holds.setText cell text).contents, holds.contents,
    Contents.setText, Contents.modify_eq, if_neg different]

theorem bgColor_setText (holds : document.Holds size contents) :
    ((document.setText cell text).1.grid.get? other).map Cell.bgColor =
      (document.grid.get? other).map Cell.bgColor := by
  rw [Grid.bgColor_eq, Grid.bgColor_eq, (holds.setText cell text).contents, holds.contents,
    Contents.setText, Contents.modify_eq]
  split
  · rw [Option.map_map]
    rfl
  · rfl

/-- The references of the other cells are said by their texts, which are the same. -/
theorem references_setText_of_ne (holds : document.Holds size contents)
    (different : other ≠ cell) :
    (document.setText cell text).1.graph.references other = document.graph.references other := by
  rcases document.setText_eq_self_or cell text with same | ⟨former, here, -⟩
  · rw [same]
  · obtain ⟨content, retyped, -⟩ := holds.exists_retyped here text
    apply DependencyGraph.references_congr
    intro target
    -- The walk leaves all references alone, and before it only the edited cell was computed again.
    rw [← holds.reads_retype here text, retyped.reads other target different,
      holds.consistent.wired.reads]

/-- A cell with another value is the edited one or reads it. -/
theorem upstream_of_changed (holds : document.Holds size contents)
    (changed : (document.grid.get? other).map Cell.value ≠
      ((document.setText cell text).1.grid.get? other).map Cell.value) :
    other = cell ∨ TransGen (document.setText cell text).1.graph.Reads other cell := by
  rcases document.setText_eq_self_or cell text with same | ⟨former, here, new⟩
  · exact absurd (by rw [same]) changed
  · exact (holds.value_setText here new changed).1

end Holds

end Frame

/-! ### Formulas on their own -/

section Evaluate

/-- A formula with its sign is evaluated without it. -/
theorem evaluate_formula (document : Document) (formula : String) :
    (document.evaluate ("=" ++ formula)).1 =
      match Prepared.ofFormula document.grid.rows document.grid.columns formula with
      | .ok prepared => Number.display (valueOf document.grid prepared)
      | .error _ => Cell.errorValue := by
  have signed : ("=" ++ formula).toList = '=' :: formula.toList := by simp
  simp only [evaluate, signed, String.ofList_toList]
  cases Prepared.ofFormula document.grid.rows document.grid.columns formula <;> rfl

/-- What a formula has for a value depends on the values of those cells only that it reads. -/
theorem evaluate_congr {next : Document} (rows : document.grid.rows = next.grid.rows)
    (columns : document.grid.columns = next.grid.columns)
    (same : ∀ prepared, Prepared.ofFormula next.grid.rows next.grid.columns formula = .ok prepared →
      ∀ target ∈ prepared.targets, (document.grid.get? target).map Cell.value =
        (next.grid.get? target).map Cell.value) :
    (document.evaluate ("=" ++ formula)).1 = (next.evaluate ("=" ++ formula)).1 := by
  rw [evaluate_formula, evaluate_formula, rows, columns]
  cases compiled : Prepared.ofFormula next.grid.rows next.grid.columns formula with
  | error cause => rfl
  | ok prepared => exact congrArg Number.display (valueOf_congr prepared (same prepared compiled))

/-- Unless it is circular, a cell with a formula displays what this formula evaluates to. -/
theorem Consistent.value_of_formula (consistent : document.Consistent) {content : Cell}
    (here : document.grid.get? cell = some content) (written : content.text = "=" ++ formula)
    (straight : ¬ document.graph.Circular cell) :
    content.value = (document.evaluate ("=" ++ formula)).1 := by
  have signed : content.formula? = some formula := Cell.formula?_eq_some_iff.mpr written
  have around : ¬ document.grid.Circular cell := by
    rwa [← consistent.wired.circular_iff]
  rw [consistent.current cell content here, evaluate_formula, Grid.due, signed,
    Grid.accepted?_of_get? here signed]
  cases Prepared.ofFormula document.grid.rows document.grid.columns formula with
  | error cause => rfl
  | ok prepared => exact if_neg around

/-- After an edit the cell has the text that it was given. -/
theorem Holds.exists_text_setText (holds : document.Holds size contents)
    (inside : cell.Inside size.rows size.columns) (text : String) :
    ∃ content, (document.setText cell text).1.grid.get? cell = some content ∧
      content.text = text := by
  obtain ⟨former, -, formerly⟩ := holds.exists_get? inside
  obtain ⟨content, here, written⟩ := (holds.setText cell text).exists_get? inside
  rw [Contents.setText, Contents.modify_eq, if_pos rfl, formerly, Option.map_some] at written
  exact ⟨content, here, (congrArg Prod.fst (Option.some.inj written)).symm⟩

/-- Writing a formula into a cell changes nothing that the formula reads, unless it makes the cell
circular. -/
theorem Holds.evaluate_setText (holds : document.Holds size contents)
    (inside : cell.Inside size.rows size.columns)
    (straight : ¬ (document.setText cell ("=" ++ formula)).1.graph.Circular cell) :
    (document.evaluate ("=" ++ formula)).1 =
      ((document.setText cell ("=" ++ formula)).1.evaluate ("=" ++ formula)).1 := by
  have nextHolds := holds.setText cell ("=" ++ formula)
  obtain ⟨content, here, written⟩ := holds.exists_text_setText inside ("=" ++ formula)
  apply evaluate_congr
  · rw [holds.rows, nextHolds.rows]
  · rw [holds.columns, nextHolds.columns]
  · intro prepared compiled target member
    by_contra changed
    -- The cell reads the target, and a target with another value is the cell or reads it: a cycle.
    have read : (document.setText cell ("=" ++ formula)).1.graph.Reads cell target := by
      rw [nextHolds.consistent.wired.reads]
      refine ⟨prepared, ?_, member⟩
      rw [Grid.accepted?_of_get? here (Cell.formula?_eq_some_iff.mpr written), compiled]
      rfl
    apply straight
    rcases holds.upstream_of_changed changed with rfl | upstream
    · exact .single read
    · exact .head read upstream

/-- **Writing a formula.** The cell displays what the formula evaluated to before it was written,
unless the cell has become circular. -/
theorem Holds.value_setText_formula (holds : document.Holds size contents)
    (inside : cell.Inside size.rows size.columns) (formula : String) :
    let next := (document.setText cell ("=" ++ formula)).1
    ∃ content, next.grid.get? cell = some content ∧
      (¬ next.graph.Circular cell → content.value = (document.evaluate ("=" ++ formula)).1) ∧
      (next.graph.Circular cell → content.value = Cell.errorValue) := by
  intro next
  have consistent : next.Consistent := (holds.setText cell ("=" ++ formula)).consistent
  obtain ⟨content, here, written⟩ := holds.exists_text_setText inside ("=" ++ formula)
  refine ⟨content, here, fun straight => ?_, (consistent.settled here).circular⟩
  calc content.value
    _ = (next.evaluate ("=" ++ formula)).1 := consistent.value_of_formula here written straight
    _ = (document.evaluate ("=" ++ formula)).1 := (holds.evaluate_setText inside straight).symm

end Evaluate

end Document

namespace Sheet

variable {size : Dimensions} {sheet : Sheet} {cell : CellRef}

/-- Replacing the text of a cell inside replaces it in the document, and leaves the history and the
path of the file alone. -/
theorem frame_after_setText {contents : Contents} (holds : sheet.document.Holds size contents)
    (inside : cell.Inside size.rows size.columns) (text : String) :
    (sheet.after (.setText cell text)).document = (sheet.document.setText cell text).1 ∧
      (sheet.after (.setText cell text)).undoStack = sheet.undoStack ∧
      (sheet.after (.setText cell text)).redoStack = sheet.redoStack ∧
      (sheet.after (.setText cell text)).path? = sheet.path? := by
  obtain ⟨content, here, outcome⟩ := after_setText holds inside text
  have found : sheet.document.grid.get? cell = some content := here
  rw [outcome]
  split
  next known =>
    rw [Document.setText_of_same (by simp [found, known])]
    exact ⟨rfl, rfl, rfl, rfl⟩
  next => exact ⟨rfl, rfl, rfl, rfl⟩

/-- **An edit is local.** Take any sheet that can be reached and replace the text of a cell. The
texts of all other cells, the colors of all cells, the references of all other cells, both stacks of
the history and the path of the file are what they were, and a cell has another value only if it is
the edited one or reads it, directly or not. -/
theorem after_setText_elsewhere (reachable : sheet.Reachable size)
    (inside : cell.Inside size.rows size.columns) (text : String) :
    let next := sheet.after (.setText cell text)
    (∀ other ≠ cell, (next.cell? other).map Cell.text = (sheet.cell? other).map Cell.text) ∧
    (∀ other, (next.cell? other).map Cell.bgColor = (sheet.cell? other).map Cell.bgColor) ∧
    (∀ other ≠ cell,
      next.document.graph.references other = sheet.document.graph.references other) ∧
    next.undoStack = sheet.undoStack ∧ next.redoStack = sheet.redoStack ∧
    next.path? = sheet.path? ∧
    ∀ other, (next.cell? other).map Cell.value ≠ (sheet.cell? other).map Cell.value →
      other = cell ∨ TransGen next.document.graph.Reads other cell := by
  intro next
  obtain ⟨contents, holds⟩ := reachable.tidy.sound.holds
  obtain ⟨document, undoStack, redoStack, path⟩ := frame_after_setText holds inside text
  simp only [next, cell?, document]
  exact ⟨fun other => holds.text_setText_of_ne, fun other => holds.bgColor_setText,
    fun other => holds.references_setText_of_ne, undoStack, redoStack, path,
    fun other changed => holds.upstream_of_changed (Ne.symm changed)⟩

/-- A text is replaced that the neighbor reads. -/
theorem after_setText_beside_reader :
    let sheet := (blank ⟨1, 2⟩).after (.setText ⟨0, 1⟩ "=A1")
    let next := sheet.after (.setText ⟨0, 0⟩ "5")
    sheet.Reachable ⟨1, 2⟩ ∧ (⟨0, 0⟩ : CellRef).Inside 1 2 ∧
      (next.cell? ⟨0, 1⟩).map Cell.text = (sheet.cell? ⟨0, 1⟩).map Cell.text ∧
      (next.cell? ⟨0, 1⟩).map Cell.value ≠ (sheet.cell? ⟨0, 1⟩).map Cell.value ∧
      TransGen next.document.graph.Reads ⟨0, 1⟩ ⟨0, 0⟩ := by
  intro sheet next
  have reachable : sheet.Reachable ⟨1, 2⟩ :=
    (reachable_blank (by decide)).edit (.setText ⟨0, 1⟩ "=A1")
  have inside : (⟨0, 0⟩ : CellRef).Inside 1 2 := by decide
  have changed : (next.cell? ⟨0, 1⟩).map Cell.value ≠ (sheet.cell? ⟨0, 1⟩).map Cell.value := by
    decide +kernel
  obtain ⟨texts, -, -, -, -, -, upstream⟩ := after_setText_elsewhere reachable inside "5"
  refine ⟨reachable, inside, texts ⟨0, 1⟩ (by decide), changed, ?_⟩
  exact (upstream ⟨0, 1⟩ changed).resolve_left (by decide)

/-- **A formula has one value.** Take any sheet that can be reached and write a formula into a cell.
If the cell is not in a cycle then, it displays what the formula evaluated to on its own before;
otherwise it displays the error value. -/
theorem value_after_setText_formula (reachable : sheet.Reachable size)
    (inside : cell.Inside size.rows size.columns) (formula : String) :
    let value := ((evaluate ("=" ++ formula)).run sheet).1
    let next := sheet.after (.setText cell ("=" ++ formula))
    ∃ content, next.cell? cell = some content ∧
      (¬ next.document.graph.Circular cell → content.value = value) ∧
      (next.document.graph.Circular cell → content.value = Cell.errorValue) := by
  intro value next
  obtain ⟨contents, holds⟩ := reachable.tidy.sound.holds
  have document : next.document = (sheet.document.setText cell ("=" ++ formula)).1 :=
    (frame_after_setText holds inside _).1
  rw [cell?, document]
  exact holds.value_setText_formula inside formula

/-- A formula that is written into the cell before its neighbor. -/
theorem value_after_writing_sum :
    let sheet := (blank ⟨1, 2⟩).after (.setText ⟨0, 1⟩ "5")
    let next := sheet.after (.setText ⟨0, 0⟩ "=B1+1")
    sheet.Reachable ⟨1, 2⟩ ∧ (⟨0, 0⟩ : CellRef).Inside 1 2 ∧
      ((evaluate "=B1+1").run sheet).1 = "6" ∧
      (next.cell? ⟨0, 0⟩).map Cell.value = some "6" := by
  intro sheet next
  have reachable : sheet.Reachable ⟨1, 2⟩ :=
    (reachable_blank (by decide)).edit (.setText ⟨0, 1⟩ "5")
  have inside : (⟨0, 0⟩ : CellRef).Inside 1 2 := by decide
  have sum : ((evaluate "=B1+1").run sheet).1 = "6" := by decide +kernel
  have straight : ¬ next.document.graph.Circular ⟨0, 0⟩ := by
    rw [← DependencyGraph.isInCycle_iff]
    decide +kernel
  obtain ⟨content, here, plain, -⟩ := value_after_setText_formula reachable inside "B1+1"
  have signed : "=" ++ "B1+1" = "=B1+1" := by decide
  rw [signed] at here plain
  refine ⟨reachable, inside, sum, ?_⟩
  rw [here, Option.map_some, plain straight]
  exact congrArg some sum

end Sheet

end Worksheet
