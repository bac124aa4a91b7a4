import Worksheet.Proofs.Sheet.Rounds

/-!
# Editing a document

An edit of a consistent document gives a consistent document again, in which only the edited text or
color is another one. Since consistent documents are settled by what is written in them, this is all
that an edit does.

A new text may leave the value of its cell as it was and still concern cells far away: a cycle may
open or close behind the error value. A cell enters or leaves a cycle only if the references of the
edited cell have changed, the edited cell itself is circular before or after the edit, and the other
cell reads it. The edited cell then displays the error value before or after, and this is the case
in which all readers are computed again.
-/

namespace Worksheet.Document

open Relation

/-- A consistent document of some size with some contents. -/
structure Holds (document : Document) (size : Dimensions) (contents : Contents) : Prop where
  consistent : document.Consistent
  rows : document.grid.rows = size.rows
  columns : document.grid.columns = size.columns
  contents : document.grid.contents = contents

variable {document other : Document} {size : Dimensions} {contents : Contents} {cell : CellRef}

namespace Holds

theorem contents_of_get? (holds : document.Holds size contents) {content : Cell}
    (here : document.grid.get? cell = some content) :
    contents cell = some (content.text, content.bgColor) :=
  holds.contents ▸ Grid.contents_of_get? here

/-- A cell inside is found with what is written there. -/
theorem exists_get? (holds : document.Holds size contents)
    (inside : cell.Inside size.rows size.columns) :
    ∃ content, document.grid.get? cell = some content ∧
      contents cell = some (content.text, content.bgColor) := by
  rw [← holds.rows, ← holds.columns] at inside
  obtain ⟨content, here⟩ := holds.consistent.regular.exists_get? inside
  exact ⟨content, here, holds.contents_of_get? here⟩

theorem get?_of_outside (holds : document.Holds size contents)
    (outside : ¬ cell.Inside size.rows size.columns) : document.grid.get? cell = none := by
  rw [← holds.rows, ← holds.columns] at outside
  exact holds.consistent.regular.get?_eq_none_iff.mpr outside

theorem contents_of_absent (holds : document.Holds size contents)
    (absent : document.grid.get? cell = none) : contents cell = none := by
  rw [← holds.contents, Grid.contents, absent, Option.map_none]

theorem contents_of_outside (holds : document.Holds size contents)
    (outside : ¬ cell.Inside size.rows size.columns) : contents cell = none :=
  holds.contents_of_absent (holds.get?_of_outside outside)

theorem sameTexts (holds : document.Holds size contents) (otherHolds : other.Holds size contents) :
    document.grid.SameTexts other.grid :=
  .of_contents (holds.rows.trans otherHolds.rows.symm) (holds.columns.trans otherHolds.columns.symm)
    (holds.contents.trans otherHolds.contents.symm)

/-- Documents that hold the same contents have the same cells. -/
theorem grid_eq (holds : document.Holds size contents) (otherHolds : other.Holds size contents) :
    document.grid = other.grid := by
  have same := holds.sameTexts otherHolds
  refine holds.consistent.regular.ext_get? otherHolds.consistent.regular same.rows same.columns
    fun cell => ?_
  have value := same.value holds.consistent.regular holds.consistent.current
    otherHolds.consistent.current cell
  have written : document.grid.contents cell = other.grid.contents cell := by
    rw [holds.contents, otherHolds.contents]
  unfold Grid.contents at written
  cases here : document.grid.get? cell with
  | none =>
    rw [here] at written
    exact (Option.map_eq_none_iff.mp written.symm).symm
  | some content =>
    rw [here] at written value
    obtain ⟨there, standing, both⟩ := Option.map_eq_some_iff.mp written.symm
    rw [standing, Option.map_some, Option.map_some, Option.some.injEq] at value
    have position := holds.consistent.regular.position_of_get? here
    have otherPosition := otherHolds.consistent.regular.position_of_get? standing
    rw [standing]
    cases content
    cases there
    simp_all

end Holds

/-! ### Another text -/

/-- What has become of a document once the text of a cell has been replaced and the cell has been
computed again: only this cell has changed, and it displays the value that it is due. -/
structure Retyped (document : Document) (cell : CellRef) (former content : Cell)
    (next : Document) : Prop where
  wired : next.Wired
  rows : next.grid.rows = document.grid.rows
  columns : next.grid.columns = document.grid.columns
  formerly : document.grid.get? cell = some former
  here : next.grid.get? cell = some content
  elsewhere : ∀ other ≠ cell, next.grid.get? other = document.grid.get? other
  current : next.grid.Current cell

namespace Retyped

variable {former content : Cell} {next : Document} {reader target : CellRef}

theorem accepted? (retyped : Retyped document cell former content next)
    (different : reader ≠ cell) :
    next.grid.accepted? reader = document.grid.accepted? reader := by
  unfold Grid.accepted?
  rw [retyped.elsewhere reader different, retyped.rows, retyped.columns]

/-- The other cells read what they read before. -/
theorem reads (retyped : Retyped document cell former content next) (reader target : CellRef)
    (different : reader ≠ cell) :
    next.grid.Reads reader target ↔ document.grid.Reads reader target := by
  unfold Grid.Reads
  rw [retyped.accepted? different]

/-- If the cell itself has kept its references, so has the whole document. -/
theorem reads_eq (retyped : Retyped document cell former content next) (wired : document.Wired)
    (same : next.graph.references cell = document.graph.references cell) :
    next.grid.Reads = document.grid.Reads := by
  ext reader target
  by_cases here : reader = cell
  · subst here
    rw [← wired.reads, ← retyped.wired.reads, DependencyGraph.Reads, same]
    rfl
  · exact retyped.reads reader target here

/-- A cell that has entered or left a cycle reads the edited cell. This one has other references and
displays the error value before or after the edit. -/
theorem spreads_of_circular (retyped : Retyped document cell former content next)
    (consistent : document.Consistent) (different : reader ≠ cell)
    (moved : ¬ (next.grid.Circular reader ↔ document.grid.Circular reader)) :
    next.graph.references cell ≠ document.graph.references cell ∧
      (former.value = Cell.errorValue ∨ content.value = Cell.errorValue) ∧
        TransGen next.grid.Reads reader cell := by
  -- With the old references the cycles would be the old ones.
  have rewired : next.graph.references cell ≠ document.graph.references cell := by
    intro same
    refine moved ?_
    unfold Grid.Circular
    rw [retyped.reads_eq consistent.wired same]
  refine ⟨rewired, ?_⟩
  have upstream (path : ReflTransGen next.grid.Reads reader cell) :
      TransGen next.grid.Reads reader cell :=
    (reflTransGen_iff_eq_or_transGen.mp path).resolve_left (Ne.symm different)
  by_cases closed : next.grid.Circular reader
  · -- The cycle has closed: it is there after the edit, and runs through the edited cell.
    have formerly : ¬ document.grid.Circular reader := fun circular =>
      moved (iff_of_true closed circular)
    obtain ⟨around, -, path⟩ := through_rewired_of_cycle
      (fun reader target apart => (retyped.reads reader target apart).symm) closed formerly
    refine ⟨Or.inr ?_, upstream path⟩
    rw [retyped.current content retyped.here, Grid.due_of_circular retyped.here around]
  · -- The cycle has opened: it was there before the edit, and ran through the edited cell.
    have formerly : document.grid.Circular reader := by
      by_contra straight
      exact moved (iff_of_false closed straight)
    obtain ⟨around, path, -⟩ := through_rewired_of_cycle retyped.reads formerly closed
    refine ⟨Or.inl ?_, upstream path⟩
    rw [consistent.current cell former retyped.formerly,
      Grid.due_of_circular retyped.formerly around]

/-- A cell that has neither entered nor left a cycle stays as it is, unless it reads a new value. -/
theorem current_of_circular_iff (retyped : Retyped document cell former content next)
    (consistent : document.Consistent) (different : reader ≠ cell)
    (stays : next.grid.Circular reader ↔ document.grid.Circular reader)
    (unchanged : next.grid.Reads reader cell → former.value = content.value) :
    next.grid.Current reader := by
  intro stored there
  have standing : document.grid.get? reader = some stored :=
    (retyped.elsewhere reader different).symm.trans there
  rw [consistent.current reader stored standing]
  unfold Grid.due
  rw [retyped.accepted? different]
  cases stored.formula? with
  | none => rfl
  | some formula =>
    cases accepted : document.grid.accepted? reader with
    | none => rfl
    | some prepared =>
      -- Of the cells that the formula reads only the edited one may have another value.
      have value : valueOf document.grid prepared = valueOf next.grid prepared := by
        refine valueOf_congr prepared fun target member => ?_
        by_cases same : target = cell
        · subst same
          rw [retyped.formerly, retyped.here]
          exact congrArg some
            (unchanged ⟨prepared, (retyped.accepted? different).trans accepted, member⟩)
        · rw [retyped.elsewhere target same]
      by_cases circular : document.grid.Circular reader
      · simp only [circular, stays.mpr circular, if_true]
      · simp only [circular, mt stays.mp circular, if_false, value]

/-- Whatever a cell misses after an edit comes from the edited cell. -/
theorem missing (retyped : Retyped document cell former content next)
    (consistent : document.Consistent) (reader : CellRef) :
    next.grid.Current reader ∨
      (former.value ≠ content.value ∧ next.grid.Reads reader cell) ∨
        (next.graph.references cell ≠ document.graph.references cell ∧
          (former.value = Cell.errorValue ∨ content.value = Cell.errorValue) ∧
            TransGen next.grid.Reads reader cell) := by
  by_cases same : reader = cell
  · exact Or.inl (same ▸ retyped.current)
  · by_cases stays : next.grid.Circular reader ↔ document.grid.Circular reader
    · by_cases touched : former.value ≠ content.value ∧ next.grid.Reads reader cell
      · exact Or.inr (Or.inl touched)
      · refine Or.inl (retyped.current_of_circular_iff consistent same stays fun read => ?_)
        by_contra changed
        exact touched ⟨changed, read⟩
    · exact Or.inr (Or.inr (retyped.spreads_of_circular consistent same stays))

end Retyped

section SetText

variable {text : String} {former : Cell}

/-- The cell computed again once its text has been replaced, before anything else is. -/
def retype (document : Document) (cell : CellRef) (text : String) : Refreshed :=
  refresh { document with
    grid := document.grid.modify cell fun content => (content.setText text).1 } cell

theorem retyped_retype (consistent : document.Consistent)
    (here : document.grid.get? cell = some former) (text : String) :
    ∃ content, Retyped document cell former content (document.retype cell text).document ∧
      ((document.retype cell text).changed = true ↔ former.value ≠ content.value) ∧
      (document.retype cell text).document.grid.contents =
        document.grid.contents.setText cell text ∧
      (document.retype cell text).document.grid.Regular := by
  -- The new text stands there, but value and references are still those of the old one.
  let typed : Document :=
    { document with grid := document.grid.modify cell fun content => (content.setText text).1 }
  have typedRegular : typed.grid.Regular := consistent.regular.modify cell fun _ => rfl
  have there : typed.grid.get? cell = some { former with text } := by
    rw [Grid.get?_modify, if_pos rfl, here]
    rfl
  have untouched (other : CellRef) (different : other ≠ cell) :
      typed.grid.get? other = document.grid.get? other := by
    rw [Grid.get?_modify, if_neg different]
  have elsewhere (reader target : CellRef) (different : reader ≠ cell) :
      typed.graph.Reads reader target ↔ typed.grid.Reads reader target := by
    unfold Grid.Reads Grid.accepted?
    rw [untouched reader different, Grid.rows_modify, Grid.columns_modify]
    exact consistent.wired.reads reader target
  have recomputed := recomputed_refresh there consistent.wired.mirrored elsewhere
  unfold retype
  refine ⟨{ former with text, value := typed.grid.due cell { former with text } },
    ⟨recomputed.wired, ?_, ?_, here, ?_, ?_, ?_⟩, recomputed.changed, ?_, ?_⟩
  · simp [recomputed.grid, Grid.setValue, typed]
  · simp [recomputed.grid, Grid.setValue, typed]
  · rw [recomputed.grid, Grid.setValue, Grid.get?_modify, if_pos rfl, there]
    rfl
  · intro other different
    rw [recomputed.grid, Grid.setValue, Grid.get?_modify, if_neg different,
      untouched other different]
  · rw [recomputed.grid]
    exact Grid.current_setValue there
  · rw [recomputed.grid, Grid.contents_setValue]
    exact Grid.contents_modify _ _ _ _ fun _ => rfl
  · rw [recomputed.grid]
    exact typedRegular.setValue _ _

/-- A text that the cell has already changes nothing, nor does any text of a cell outside. -/
theorem setText_of_same
    (same : ∀ former, document.grid.get? cell = some former → former.text = text) :
    document.setText cell text = (document, #[]) := by
  unfold setText
  cases here : document.grid.get? cell with
  | none => rfl
  | some former => simp [Cell.setText, same former here]

/-- A new text is noted and its cell computed again. A recalculation follows if the value is new, or
if the references are and the error value is displayed before or after. -/
theorem setText_eq_of_new (here : document.grid.get? cell = some former)
    (new : former.text ≠ text) :
    ∃ spreads : Bool, (spreads = true ↔
      (document.retype cell text).document.graph.references cell ≠ document.graph.references cell ∧
        (former.showsError = true ∨
          ((document.retype cell text).document.grid.get? cell).any Cell.showsError = true)) ∧
      document.setText cell text =
        let journal : Journal :=
          (Entry.change cell .text :: (document.retype cell text).entries).toArray
        if (document.retype cell text).changed || spreads then
          ((document.retype cell text).document.propagate cell spreads).map id (journal ++ ·)
        else ((document.retype cell text).document, journal) := by
  let refreshed := document.retype cell text
  refine ⟨decide (refreshed.document.graph.references cell ≠ document.graph.references cell) &&
    (former.showsError || (refreshed.document.grid.get? cell).any Cell.showsError), ?_, ?_⟩
  · rw [Bool.and_eq_true, Bool.or_eq_true, decide_eq_true_iff]
  · unfold setText
    simp only [here, Cell.setText, new, ne_eq, not_false_eq_true, decide_true, if_true]
    rfl

theorem setText_of_new (here : document.grid.get? cell = some former) (new : former.text ≠ text) :
    ∃ spreads : Bool, (spreads = true ↔
      (document.retype cell text).document.graph.references cell ≠ document.graph.references cell ∧
        (former.showsError = true ∨
          ((document.retype cell text).document.grid.get? cell).any Cell.showsError = true)) ∧
      (document.setText cell text).1 =
        if (document.retype cell text).changed || spreads then
          ((document.retype cell text).document.propagate cell spreads).1
        else (document.retype cell text).document := by
  obtain ⟨spreads, spreads_iff, outcome⟩ := setText_eq_of_new here new
  refine ⟨spreads, spreads_iff, ?_⟩
  rw [outcome]
  exact apply_ite Prod.fst _ _ _

/-- Whether the recalculation takes place or not, after it the document is consistent. -/
theorem Retyped.consistent_settled {next : Document} {content : Cell}
    (retyped : Retyped document cell former content next) (consistent : document.Consistent)
    (regular : next.grid.Regular) {changed spreads : Bool}
    (changed_iff : changed = true ↔ former.value ≠ content.value)
    (spreads_iff : spreads = true ↔
      next.graph.references cell ≠ document.graph.references cell ∧
        (former.value = Cell.errorValue ∨ content.value = Cell.errorValue)) :
    let settled := if changed || spreads then (next.propagate cell spreads).1 else next
    settled.Consistent ∧ next.grid.SameTexts settled.grid ∧
      settled.grid.contents = next.grid.contents := by
  intro settled
  have missing (reader : CellRef) : next.grid.Current reader ∨
      (changed = true ∧ next.grid.Reads reader cell) ∨
        (spreads = true ∧ TransGen next.grid.Reads reader cell) := by
    rw [changed_iff, spreads_iff, and_assoc]
    exact retyped.missing consistent reader
  by_cases propagated : (changed || spreads) = true
  · rw [show settled = (next.propagate cell spreads).1 from if_pos propagated]
    exact consistent_propagate regular retyped.wired
      fun reader => (missing reader).imp_right (Or.imp_left And.right)
  · rw [show settled = next from if_neg propagated]
    rw [Bool.or_eq_true, not_or] at propagated
    refine ⟨⟨regular, retyped.wired, fun reader => ?_⟩, .refl _, rfl⟩
    rcases missing reader with current | ⟨new, -⟩ | ⟨wide, -⟩
    · exact current
    · exact absurd new propagated.1
    · exact absurd wide propagated.2

/-- **Editing a text.** The document is consistent again, and only the text of the cell is another
one. -/
theorem Holds.setText (holds : document.Holds size contents) (cell : CellRef) (text : String) :
    (document.setText cell text).1.Holds size (contents.setText cell text) := by
  cases here : document.grid.get? cell with
  | none =>
    have same : contents.setText cell text = contents :=
      contents.modify_of_none cell (holds.contents_of_absent here) _
    rw [same, setText_of_same (by simp [here])]
    exact holds
  | some former =>
    by_cases known : former.text = text
    · have same : contents.setText cell text = contents := by
        rw [← holds.contents, ← known]
        exact Contents.setText_of_same _ _ (Grid.contents_of_get? here)
      rw [same, setText_of_same (by simp [here, known])]
      exact holds
    · -- The cell is computed again, and what it misses then tells whether its readers are as well.
      obtain ⟨content, retyped, changed, written, regular⟩ :=
        retyped_retype holds.consistent here text
      obtain ⟨spreads, spreads_iff, outcome⟩ := setText_of_new here known
      rw [retyped.here] at spreads_iff
      simp only [Option.any_some, Cell.showsError, beq_iff_eq] at spreads_iff
      obtain ⟨consistent, same, kept⟩ :=
        retyped.consistent_settled holds.consistent regular changed spreads_iff
      rw [outcome]
      refine ⟨consistent, ?_, ?_, ?_⟩
      · rw [← same.rows, retyped.rows, holds.rows]
      · rw [← same.columns, retyped.columns, holds.columns]
      · rw [kept, written, holds.contents]

end SetText

/-! ### Another color, and blank documents -/

/-- What is written in a consistent document may be changed as long as the texts stay. -/
theorem Consistent.modify (consistent : document.Consistent) (cell : CellRef) {change : Cell → Cell}
    (position : ∀ content, (change content).position = content.position)
    (text : ∀ content, (change content).text = content.text)
    (value : ∀ content, (change content).value = content.value) :
    Consistent { document with grid := document.grid.modify cell change } := by
  have same := Grid.SameTexts.modify document.grid cell text
  have values (other : CellRef) : (document.grid.get? other).map Cell.value =
      ((document.grid.modify cell change).get? other).map Cell.value := by
    rw [Grid.get?_modify]
    split
    next here =>
      subst here
      rw [Option.map_map]
      exact congrArg (Option.map · (document.grid.get? other)) (funext value).symm
    next => rfl
  refine ⟨consistent.regular.modify cell position, consistent.wired.congr same, fun other => ?_⟩
  intro stored there
  obtain ⟨former, standing, written⟩ := same.symm.exists_get? there
  have shown := values other
  rw [standing, there, Option.map_some, Option.map_some, Option.some.injEq] at shown
  rw [← shown, consistent.current other former standing]
  exact Grid.due_congr same written fun _ target _ => values target

/-- **Editing a color.** Only the color of the cell is another one. -/
theorem Holds.setBgColor (holds : document.Holds size contents) (cell : CellRef) (color : Color) :
    (document.setBgColor cell color).1.Holds size (contents.setColor cell color) := by
  cases here : document.grid.get? cell with
  | none =>
    have same : contents.setColor cell color = contents :=
      contents.modify_of_none cell (holds.contents_of_absent here) _
    rw [same, Document.setBgColor, here]
    exact holds
  | some former =>
    by_cases known : former.bgColor = color
    · have same : contents.setColor cell color = contents := by
        rw [← holds.contents, ← known]
        exact Contents.setColor_of_same _ _ (Grid.contents_of_get? here)
      rw [same, Document.setBgColor, here]
      simp only [Cell.setBgColor, known, ne_eq, not_true_eq_false, decide_false, Bool.false_eq_true,
        if_false]
      exact holds
    · simp only [Document.setBgColor, here, Cell.setBgColor, known, ne_eq, not_false_eq_true,
        decide_true, if_true]
      refine ⟨holds.consistent.modify cell (fun _ => rfl) (fun _ => rfl) fun _ => rfl, ?_, ?_, ?_⟩
      · rw [Grid.rows_modify, holds.rows]
      · rw [Grid.columns_modify, holds.columns]
      · rw [← holds.contents]
        exact Grid.contents_modify _ _ _ _ fun _ => rfl

/-- Where nothing is written, nothing is read. -/
theorem formula?_of_blank {content : Cell} (blank : content.text = "") :
    content.formula? = none := by
  rw [Cell.formula?, blank]
  rfl

theorem wired_of_blank {grid : Grid}
    (blank : ∀ cell content, grid.get? cell = some content → content.text = "") :
    Wired ⟨grid, ∅⟩ := by
  refine ⟨DependencyGraph.mirrored_empty, fun reader target => ?_⟩
  refine iff_of_false (DependencyGraph.not_reads_empty reader target) ?_
  rintro ⟨prepared, accepted, -⟩
  obtain ⟨content, formula, here, written, -⟩ := Grid.exists_of_accepted? accepted
  simp [formula?_of_blank (blank reader content here)] at written

/-- A document without any text may forget all references. -/
theorem Holds.forgetReferences (holds : document.Holds size (Contents.blank size)) :
    Holds { document with graph := ∅ } size (Contents.blank size) := by
  refine ⟨⟨holds.consistent.regular, wired_of_blank fun cell content here => ?_,
    holds.consistent.current⟩, holds.rows, holds.columns, holds.contents⟩
  have written := holds.contents_of_get? here
  unfold Contents.blank at written
  split at written
  next => exact (congrArg Prod.fst (Option.some.inj written)).symm
  next => simp at written

theorem holds_blank (size : Dimensions) : (blank size).Holds size (Contents.blank size) := by
  have cells (cell : CellRef) (content : Cell) (here : (Grid.blank size).get? cell = some content) :
      content = Cell.blank cell := by
    rw [Grid.get?_blank] at here
    split at here
    next => exact (Option.some.inj here).symm
    next => simp at here
  refine ⟨⟨Grid.regular_blank size, wired_of_blank fun cell content here => ?_, ?_⟩, rfl, rfl,
    Grid.contents_blank size⟩
  · rw [cells cell content here]
    rfl
  · intro cell content here
    change (Grid.blank size).get? cell = _ at here
    rw [cells cell content here]
    rfl

end Worksheet.Document
