import Worksheet.Proofs.Formula.Compilation
import Worksheet.Proofs.Number.ReadBack
import Worksheet.Proofs.Sheet.Locality
import Worksheet.Proofs.Sheet.RoundTrip

/-!
# Copies of numbers

A formula reads the number that a cell displays, and a number that is displayed is read as itself.
So nothing is lost on the way from cell to cell: a cell whose formula is the name of another one
displays the number of that cell, to the last character, unless it is circular.
-/

namespace Worksheet

/-! ### Formulas of one operand -/

namespace Formula.Operand

variable (operand : Operand)

theorem condense_text :
    Text.condense (String.ofList operand.text) = String.ofList operand.text := by
  have solid : ∀ c ∈ operand.text, (!Text.isBlank c) = true := by
    intro c member
    have plain : c.isAlphanum = true ∨ c = '.' := by
      rcases mem_text member with upper | digit | point
      · left
        change (c.isUpper || c.isLower || c.isDigit) = true
        rw [upper, Bool.true_or, Bool.true_or]
      · exact Or.inl (by simp [Char.isAlphanum, digit])
      · exact Or.inr point
    rcases plain with plain | rfl
    · rw [Text.isBlank_of_isAlphanum plain]
      rfl
    · rfl
  rw [Text.condense, String.toList_ofList, List.filter_eq_self.mpr solid]

theorem checkCharacters_text : checkCharacters (String.ofList operand.text) = .ok () := by
  have allowed : ∀ c ∈ operand.text, ¬ (!isAllowed c) = true := by
    intro c member
    rcases mem_text member with upper | digit | rfl
    · simp [isAllowed, upper]
    · simp [isAllowed, digit]
    · decide
  have none : prohibited? (String.ofList operand.text) = none := by
    rw [prohibited?, String.toList_ofList]
    exact List.find?_eq_none.mpr allowed
  rw [checkCharacters, none]
  rfl

/-- An operand on its own compiles to its tree. -/
theorem compile_text : Expr.compile (String.ofList operand.text) = .ok (some operand.expr) := by
  have characters : (Text.condense (String.ofList operand.text)).toList = operand.text := by
    rw [condense_text, String.toList_ofList]
  have ended : delimiter ∉ (Text.condense (String.ofList operand.text)).toList := by
    rw [characters]
    exact operand.delimiter_not_mem_text
  have single : itemsOfTokens [.operand operand.text] = .ok [.operand operand.text] := rfl
  rw [Expr.compile_eq ended, characters, Token.scan_of_isRun operand.isRun_text, single]
  change Expr.ofItems [.operand operand.text] = _
  simp [Expr.ofItems, Expr.push, operand.ofOperand_text, bind, Except.bind, pure, Except.pure]

end Formula.Operand

namespace Prepared

variable {cell : CellRef} {rows columns : Nat}

/-- The name of a cell is a formula that reads this cell and does nothing else. -/
theorem ofFormula_name (named : cell.Named) (inside : cell.Inside rows columns) :
    ofFormula rows columns cell.name =
      .ok ⟨some (.reference cell.name), [(cell.name, cell)]⟩ := by
  have written : Formula.IsReference cell.name.toList := by
    refine ⟨[Char.ofNat (65 + cell.column)], Nat.toDigits 10 (cell.row + 1),
      CellRef.toList_name named, List.cons_ne_nil _ _, ?_, ?_⟩
    · simpa using (CellRef.letter_of_lt named.1).1
    · exact fun c => Nat.isDigit_of_mem_toDigits (by decide) (by decide)
  let operand : Formula.Operand := .reference cell.name.toList written
  have text : String.ofList operand.text = cell.name := String.ofList_toList
  have expr : operand.expr = .reference cell.name := congrArg Expr.reference text
  have names : Formula.variableNames cell.name = [cell.name] := by
    have own := Formula.variableNames_of_isReference written
    rwa [String.ofList_toList] at own
  have named : CellRef.resolve? cell.name rows columns = some cell := by
    rw [CellRef.resolve?, CellRef.ofName?_name named]
    simp [inside]
  have resolved : Formula.resolve cell.name rows columns = .ok [(cell.name, cell)] := by
    simp [Formula.resolve, names, named, bind, Except.bind, pure, Except.pure]
  have checked := operand.checkCharacters_text
  have compiled := operand.compile_text
  have condensed := operand.condense_text
  rw [text] at checked compiled condensed
  rw [ofFormula, checked, compiled, condensed, resolved, expr]
  rfl

end Prepared

namespace Document

variable {document : Document} {cell : CellRef}

/-- The name of a cell has the number of this cell as its value. -/
theorem evaluate_name (named : cell.Named)
    (inside : cell.Inside document.grid.rows document.grid.columns) :
    (document.evaluate ("=" ++ cell.name)).1 = Number.display (numberAt document.grid cell) := by
  rw [evaluate_formula, Prepared.ofFormula_name named inside]
  simp [valueOf, Expr.evalOption, Expr.eval, Bindings.get?_set]

theorem numberAt_of_display {grid : Grid} {content : Cell} {number : Float}
    (here : grid.get? cell = some content) (shown : content.value = Number.display number) :
    numberAt grid cell = number := by
  rw [numberAt, here, Option.bind_some, shown, Number.ofValue?_display, Option.getD_some]

end Document

namespace Sheet

variable {size : Dimensions} {sheet : Sheet} {source reader : CellRef} {content reading : Cell}

/-- A cell whose formula is the name of another one displays the number that is displayed there. -/
theorem value_of_copy (valid : size.Valid) {contents : Contents}
    (holds : sheet.document.Holds size contents) (here : sheet.cell? source = some content)
    {number : Float} (shown : content.value = Number.display number)
    (there : sheet.cell? reader = some reading) (written : reading.text = "=" ++ source.name)
    (straight : ¬ sheet.document.graph.Circular reader) : reading.value = content.value := by
  have within : source.Inside sheet.document.grid.rows sheet.document.grid.columns :=
    Grid.contains_of_get? here
  have inside : source.Inside size.rows size.columns := by
    rwa [holds.rows, holds.columns] at within
  calc reading.value
    _ = (sheet.document.evaluate ("=" ++ source.name)).1 :=
      holds.consistent.value_of_formula there written straight
    _ = Number.display (Document.numberAt sheet.document.grid source) :=
      Document.evaluate_name (named_of_inside valid inside) within
    _ = content.value := by rw [Document.numberAt_of_display here shown, shown]

/-- **No number is lost on display.** The text that a double is displayed with is read as this very
double, whatever its 64 bits are; what is not a number is read as what is not a number.

So take any sheet that can be reached. A cell with an accepted formula that is not circular displays
the number of the formula, and wherever a number is displayed, every cell whose formula is the name
of this cell displays the same text, unless it is circular. -/
theorem copies_display_same_number (reachable : sheet.Reachable size) :
    (∀ word : UInt64, ∃ number,
      Number.ofValue? (Number.display (Float.ofBits word)) = some number ∧
        (word.toNat % 2 ^ 63 ≤ Number.infinityBits → number.toBits = word) ∧
        (Number.infinityBits < word.toNat % 2 ^ 63 → number.isNaN = true)) ∧
    (∀ cell content formula prepared, sheet.cell? cell = some content →
      content.text = "=" ++ formula →
      Prepared.ofFormula size.rows size.columns formula = .ok prepared →
      ¬ sheet.document.graph.Circular cell →
        content.value = Number.display (Document.valueOf sheet.document.grid prepared)) ∧
    ∀ source content number, sheet.cell? source = some content →
      content.value = Number.display number →
        Document.numberAt sheet.document.grid source = number ∧
        ∀ reader reading, sheet.cell? reader = some reading →
          reading.text = "=" ++ source.name → ¬ sheet.document.graph.Circular reader →
            reading.value = content.value := by
  obtain ⟨contents, holds⟩ := reachable.tidy.sound.holds
  refine ⟨fun word => ⟨_, Number.ofValue?_display _, Number.toBits_ofBits, Number.isNaN_ofBits⟩,
    fun cell content formula prepared here written accepted straight => ?_,
    fun source content number here shown => ⟨Document.numberAt_of_display here shown,
      fun reader reading there written straight =>
        value_of_copy reachable.valid holds here shown there written straight⟩⟩
  rw [holds.consistent.value_of_formula here written straight, Document.evaluate_formula,
    holds.rows, holds.columns, accepted]

/-- A third, and a copy of it. -/
theorem copies_display_same_third :
    let sheet := ((blank ⟨1, 2⟩).after (.setText ⟨0, 0⟩ "=B1")).after (.setText ⟨0, 1⟩ "=1/3")
    sheet.Reachable ⟨1, 2⟩ ∧
      (sheet.cell? ⟨0, 1⟩).map Cell.value = some (Number.display (1 / 3)) ∧
      (sheet.cell? ⟨0, 0⟩).map Cell.value = some "0.3333333333333333" := by
  intro sheet
  have reachable : sheet.Reachable ⟨1, 2⟩ :=
    ((reachable_blank (by decide)).edit (.setText ⟨0, 0⟩ "=B1")).edit (.setText ⟨0, 1⟩ "=1/3")
  have third : Number.display (1 / 3) = "0.3333333333333333" := by decide +kernel
  have state : (sheet.cell? ⟨0, 1⟩).map Cell.value = some "0.3333333333333333" ∧
      (sheet.cell? ⟨0, 0⟩).map Cell.text = some "=B1" ∧
        ¬ sheet.document.graph.isInCycle ⟨0, 0⟩ = true := by
    decide +kernel
  obtain ⟨shown, written, straight⟩ := state
  rw [← third] at shown
  rw [DependencyGraph.isInCycle_iff] at straight
  obtain ⟨content, here, value⟩ := Option.map_eq_some_iff.mp shown
  obtain ⟨reading, there, text⟩ := Option.map_eq_some_iff.mp written
  have copied := ((copies_display_same_number reachable).2.2 _ content _ here value).2 _ reading
    there text straight
  refine ⟨reachable, shown, ?_⟩
  rw [there, Option.map_some, copied, value, third]

end Sheet

end Worksheet
