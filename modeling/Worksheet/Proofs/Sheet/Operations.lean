import Worksheet.Proofs.Sheet.Editing
import Worksheet.Sheet.History

/-!
# Operations on sheets

What running an operation gives, said once for each operation: which error it ends with, or what is
then written in the document. An operation that only writes leaves both stacks of the history as
they are. Operations check the cells that they are given before they touch anything.
-/

namespace Worksheet.Sheet

/-! ### Running operations -/

section Run

variable {ε σ α β : Type} {state next : σ}

theorem run_pure {sheet : Sheet} (result : α) :
    (pure result : SheetM α).run sheet = (.ok result, sheet) := rfl

theorem run_bind_ok {operation : ExceptT ε (StateM σ) α} {result : α}
    (further : α → ExceptT ε (StateM σ) β)
    (done : operation.run state = (.ok result, next)) :
    (operation >>= further).run state = (further result).run next := by
  rw [ExceptT.run_bind]
  simp only [bind, StateT.bind, done]

theorem run_bind_error {operation : ExceptT ε (StateM σ) α} {cause : ε}
    (further : α → ExceptT ε (StateM σ) β)
    (failed : operation.run state = (.error cause, next)) :
    (operation >>= further).run state = (.error cause, next) := by
  rw [ExceptT.run_bind]
  simp only [bind, StateT.bind, failed]
  rfl

/-- What succeeds has a first part that succeeds. -/
theorem exists_of_run_bind_ok {operation : ExceptT ε (StateM σ) α}
    {further : α → ExceptT ε (StateM σ) β} {result : β} {last : σ}
    (done : (operation >>= further).run state = (.ok result, last)) :
    ∃ middle between, operation.run state = (.ok middle, between) ∧
      (further middle).run between = (.ok result, last) := by
  rcases outcome : operation.run state with ⟨cause | middle, between⟩
  · rw [run_bind_error further outcome] at done
    cases done
  · rw [run_bind_ok further outcome] at done
    exact ⟨middle, between, rfl, done⟩

theorem run_get : (get : ExceptT ε (StateM σ) σ).run state = (.ok state, state) := rfl

theorem run_modify {sheet : Sheet} (change : Sheet → Sheet) :
    (modify change : SheetM Unit).run sheet = (.ok (), change sheet) := rfl

theorem run_set {sheet : Sheet} (latter : Sheet) :
    (set latter : SheetM Unit).run sheet = (.ok (), latter) := rfl

end Run

section Cells

variable {sheet : Sheet} {size : Dimensions} {contents : Contents} {cell : CellRef}

theorem run_getCell_of_inside (holds : sheet.document.Holds size contents)
    (inside : cell.Inside size.rows size.columns) :
    ∃ content, (getCell cell).run sheet = (.ok content, sheet) ∧
      sheet.document.grid.get? cell = some content ∧
        contents cell = some (content.text, content.bgColor) := by
  obtain ⟨content, here, written⟩ := holds.exists_get? inside
  refine ⟨content, ?_, here, written⟩
  rw [getCell, run_bind_ok _ run_get, cell?, here]
  rfl

theorem run_getCell_of_outside (holds : sheet.document.Holds size contents)
    (outside : ¬ cell.Inside size.rows size.columns) :
    (getCell cell).run sheet = (.error (.outOfBounds cell), sheet) := by
  rw [getCell, run_bind_ok _ run_get, cell?, holds.get?_of_outside outside]
  rfl

/-- The first of some cells that lies outside a sheet. -/
def firstOutside? (size : Dimensions) (cells : List CellRef) : Option CellRef :=
  cells.find? fun cell => ¬ cell.Inside size.rows size.columns

theorem firstOutside?_eq_none_iff {cells : List CellRef} : firstOutside? size cells = none ↔
    ∀ cell ∈ cells, cell.Inside size.rows size.columns := by
  simp [firstOutside?]

/-- Checking the cells of some things fails for the first one outside, and changes nothing. -/
theorem run_checkCells {α : Type} (holds : sheet.document.Holds size contents)
    (cellOf : α → CellRef) (inputs : List α) :
    (inputs.forM fun input => discard (getCell (cellOf input))).run sheet =
      match firstOutside? size (inputs.map cellOf) with
      | none => (.ok (), sheet)
      | some cell => (.error (.outOfBounds cell), sheet) := by
  induction inputs with
  | nil => rfl
  | cons input inputs ih =>
    rw [List.forM, List.map_cons, firstOutside?, List.find?_cons]
    -- The first cell outside is this one, or that of the others.
    generalize cellOf input = cell
    by_cases inside : cell.Inside size.rows size.columns
    · obtain ⟨content, found, -⟩ := run_getCell_of_inside holds inside
      have checked : (discard (getCell cell) : SheetM Unit).run sheet = (.ok (), sheet) :=
        run_bind_ok _ found
      rw [run_bind_ok _ checked, ih]
      simp only [inside, not_true_eq_false, decide_false]
      rfl
    · have failed : (discard (getCell cell) : SheetM Unit).run sheet =
          (.error (.outOfBounds cell), sheet) :=
        run_bind_error _ (run_getCell_of_outside holds inside)
      rw [run_bind_error _ failed]
      simp only [inside, not_false_eq_true, decide_true]

end Cells

/-! ### Writing -/

/-- On sheets with some contents an operation succeeds and gives them other contents. Both stacks of
the history stay as they are. -/
def Writes (size : Dimensions) (operation : SheetM Unit) (former latter : Contents) : Prop :=
  ∀ sheet : Sheet, sheet.document.Holds size former →
    ∃ next, operation.run sheet = (.ok (), next) ∧ next.document.Holds size latter ∧
      next.undoStack = sheet.undoStack ∧ next.redoStack = sheet.redoStack

section Writes

variable {size : Dimensions} {contents former between latter : Contents} {cell : CellRef}

theorem Writes.bind {first second : SheetM Unit} (one : Writes size first former between)
    (two : Writes size second between latter) :
    Writes size (first >>= fun _ => second) former latter := by
  intro sheet holds
  obtain ⟨middle, done, middleHolds, undoKept, redoKept⟩ := one sheet holds
  obtain ⟨next, doneToo, nextHolds, undoKeptToo, redoKeptToo⟩ := two middle middleHolds
  refine ⟨next, ?_, nextHolds, undoKeptToo.trans undoKept, redoKeptToo.trans redoKept⟩
  rw [run_bind_ok _ done, doneToo]

/-- Operations one after the other write what each of them writes. -/
theorem Writes.forM {α : Type} {operation : α → SheetM Unit} {change : Contents → α → Contents}
    {inputs : List α} (each : ∀ input ∈ inputs, ∀ contents,
      Writes size (operation input) contents (change contents input)) (contents : Contents) :
    Writes size (inputs.forM operation) contents (inputs.foldl change contents) := by
  induction inputs generalizing contents with
  | nil => exact fun sheet holds => ⟨sheet, rfl, holds, rfl, rfl⟩
  | cons input inputs ih =>
    rw [List.forM, List.foldl_cons]
    exact (each input List.mem_cons_self contents).bind
      (ih (fun other member => each other (List.mem_cons_of_mem _ member)) _)

theorem writes_setText (contents : Contents) (inside : cell.Inside size.rows size.columns)
    (text : String) : Writes size (setText cell text) contents (contents.setText cell text) := by
  intro sheet holds
  obtain ⟨content, found, here, written⟩ := run_getCell_of_inside holds inside
  rw [setText, run_bind_ok _ found]
  by_cases new : content.text ≠ text
  · rw [if_pos new]
    exact ⟨_, rfl, holds.setText cell text, rfl, rfl⟩
  · rw [if_neg new]
    rw [not_not] at new
    have same : contents.setText cell text = contents := new ▸ contents.setText_of_same cell written
    exact ⟨sheet, rfl, same.symm ▸ holds, rfl, rfl⟩

theorem writes_setBgColor (contents : Contents) (inside : cell.Inside size.rows size.columns)
    (color : Color) :
    Writes size (setBgColor cell color) contents (contents.setColor cell color) := by
  intro sheet holds
  obtain ⟨content, found, here, written⟩ := run_getCell_of_inside holds inside
  rw [setBgColor, run_bind_ok _ found]
  by_cases new : content.bgColor ≠ color
  · rw [if_pos new]
    exact ⟨_, rfl, holds.setBgColor cell color, rfl, rfl⟩
  · rw [if_neg new]
    rw [not_not] at new
    have same : contents.setColor cell color = contents :=
      new ▸ contents.setColor_of_same cell written
    exact ⟨sheet, rfl, same.symm ▸ holds, rfl, rfl⟩

theorem writes_applyEdit (direction : Direction) (contents : Contents) {edit : Edit}
    (inside : edit.cell.Inside size.rows size.columns) :
    Writes size (applyEdit direction edit) contents (contents.applyEdit direction edit) := by
  cases edit <;> cases direction
  · exact writes_setText contents inside _
  · exact writes_setText contents inside _
  · exact writes_setBgColor contents inside _
  · exact writes_setBgColor contents inside _

theorem writes_apply (direction : Direction) (contents : Contents) {command : Command}
    (fits : command.Fits size) :
    Writes size (apply direction command) contents (contents.apply direction command) := by
  refine Writes.forM (fun edit member contents => writes_applyEdit direction contents ?_) contents
  -- Backwards the edits are the same ones in the opposite order.
  refine fits edit.cell (List.mem_map_of_mem ?_)
  cases direction with
  | forward => exact member
  | backward => exact List.mem_reverse.mp member

/-- Clearing leaves a blank sheet, whatever stood there before. -/
theorem writes_clear (contents : Contents) : Writes size clear contents (Contents.blank size) := by
  intro sheet holds
  let positions := sheet.populated.map Cell.position
  have regular := holds.consistent.regular
  have stored {content : Cell} (member : content ∈ sheet.populated) :
      sheet.document.grid.get? content.position = some content :=
    regular.get?_position (Array.mem_toList_iff.mp (List.mem_of_mem_filter member))
  have inside : ∀ position ∈ positions, position.Inside size.rows size.columns := by
    intro position member
    obtain ⟨content, standing, rfl⟩ := List.mem_map.mp member
    have contains := Grid.contains_of_get? (stored standing)
    rwa [Grid.Contains, holds.rows, holds.columns] at contains
  have wiped : ∀ position ∈ positions, ∀ contents : Contents,
      Writes size (do setBgColor position Color.default; setText position "") contents
        (contents.modify position fun _ => ("", Color.default)) := by
    intro position member contents
    have both : (contents.setColor position Color.default).setText position "" =
        contents.modify position fun _ => ("", Color.default) :=
      contents.modify_modify position fun _ => rfl
    rw [← both]
    exact (writes_setBgColor contents (inside position member) _).bind
      (writes_setText _ (inside position member) _)
  -- All populated cells are wiped, and the others have been blank before.
  have blank : positions.foldl
      (fun contents position => contents.modify position fun _ => ("", Color.default)) contents =
        Contents.blank size := by
    funext cell
    rw [contents.foldl_modify cell (fun _ _ => ("", Color.default)) fun _ _ => rfl, Contents.blank]
    by_cases within : cell.Inside size.rows size.columns
    · obtain ⟨content, here, written⟩ := holds.exists_get? within
      rw [written, if_pos within]
      split
      next => rfl
      next absent =>
        have plain : ¬ content.isPopulated = true := by
          intro populated
          refine absent (List.mem_map.mpr ⟨content, ?_, regular.position_of_get? here⟩)
          have member := Array.mem_of_getElem? (Grid.get?_eq_some_iff.mp here).2
          exact List.mem_filter.mpr ⟨Array.mem_toList_iff.mpr member, populated⟩
        simp only [Cell.isPopulated, ne_eq, Bool.or_eq_true, decide_eq_true_eq, not_or,
          not_not] at plain
        rw [plain.1, plain.2]
    · rw [holds.contents_of_outside within, if_neg within]
      exact ite_self _
  obtain ⟨next, done, nextHolds, undoKept, redoKept⟩ :=
    Writes.forM wiped contents sheet holds
  rw [blank] at nextHolds
  rw [clear, run_bind_ok _ run_get]
  exact ⟨_, run_bind_ok _ done, nextHolds.forgetReferences, undoKept, redoKept⟩

end Writes

/-! ### Editing with a history -/

/-- The outcome of an operation that succeeds, writes something and is recorded as a command. -/
structure Recorded (size : Dimensions) (sheet : Sheet) (latter : Contents) (command : Command)
    (outcome : Except SheetError Unit × Sheet) : Prop where
  done : outcome.1 = .ok ()
  holds : outcome.2.document.Holds size latter
  undoStack : outcome.2.undoStack = pushUndo command sheet.undoStack
  redoStack : outcome.2.redoStack = []

section Edits

variable {sheet : Sheet} {size : Dimensions} {contents : Contents} {cell : CellRef}

theorem run_execute_of_outside (holds : sheet.document.Holds size contents) {command : Command}
    (outside : firstOutside? size command.cells = some cell) :
    (execute command).run sheet = (.error (.outOfBounds cell), sheet) := by
  have checked := run_checkCells holds id command.cells
  rw [List.map_id, outside] at checked
  exact run_bind_error _ checked

theorem recorded_execute (holds : sheet.document.Holds size contents) {command : Command}
    (fits : command.Fits size) :
    Recorded size sheet (contents.apply .forward command) command
      ((execute command).run sheet) := by
  have checked : (command.cells.forM fun cell => discard (getCell cell)).run sheet = _ :=
    run_checkCells holds id command.cells
  rw [List.map_id, firstOutside?_eq_none_iff.mpr fits] at checked
  obtain ⟨next, done, nextHolds, undoKept, redoKept⟩ :=
    writes_apply .forward contents fits sheet holds
  rw [execute, run_bind_ok _ checked, run_bind_ok _ done, run_modify]
  exact ⟨rfl, nextHolds, congrArg (pushUndo command) undoKept, rfl⟩

theorem run_editText_of_outside (holds : sheet.document.Holds size contents)
    (outside : ¬ cell.Inside size.rows size.columns) (text : String) :
    (editText cell text).run sheet = (.error (.outOfBounds cell), sheet) :=
  run_bind_error _ (run_getCell_of_outside holds outside)

theorem run_editText_of_same (holds : sheet.document.Holds size contents)
    (inside : cell.Inside size.rows size.columns) {content : String × Color}
    (here : contents cell = some content) :
    (editText cell content.1).run sheet = (.ok (), sheet) := by
  obtain ⟨stored, found, -, written⟩ := run_getCell_of_inside holds inside
  obtain rfl := Option.some.inj (written.symm.trans here)
  rw [editText, run_bind_ok _ found, if_neg (not_not.mpr rfl), run_pure]

theorem recorded_editText (holds : sheet.document.Holds size contents)
    (inside : cell.Inside size.rows size.columns) {content : String × Color}
    (here : contents cell = some content) {text : String} (new : content.1 ≠ text) :
    Recorded size sheet (contents.setText cell text) (.single (.text cell content.1 text))
      ((editText cell text).run sheet) := by
  obtain ⟨stored, found, -, written⟩ := run_getCell_of_inside holds inside
  obtain rfl := Option.some.inj (written.symm.trans here)
  rw [editText, run_bind_ok _ found, if_pos new]
  exact recorded_execute holds (Command.fits_single (.text cell stored.text text) inside)

theorem run_editBgColor_of_outside (holds : sheet.document.Holds size contents)
    (outside : ¬ cell.Inside size.rows size.columns) (color : Color) :
    (editBgColor cell color).run sheet = (.error (.outOfBounds cell), sheet) :=
  run_bind_error _ (run_getCell_of_outside holds outside)

theorem run_editBgColor_of_same (holds : sheet.document.Holds size contents)
    (inside : cell.Inside size.rows size.columns) {content : String × Color}
    (here : contents cell = some content) :
    (editBgColor cell content.2).run sheet = (.ok (), sheet) := by
  obtain ⟨stored, found, -, written⟩ := run_getCell_of_inside holds inside
  obtain rfl := Option.some.inj (written.symm.trans here)
  rw [editBgColor, run_bind_ok _ found, if_neg (not_not.mpr rfl), run_pure]

theorem recorded_editBgColor (holds : sheet.document.Holds size contents)
    (inside : cell.Inside size.rows size.columns) {content : String × Color}
    (here : contents cell = some content) {color : Color} (new : content.2 ≠ color) :
    Recorded size sheet (contents.setColor cell color) (.single (.bgColor cell content.2 color))
      ((editBgColor cell color).run sheet) := by
  obtain ⟨stored, found, -, written⟩ := run_getCell_of_inside holds inside
  obtain rfl := Option.some.inj (written.symm.trans here)
  rw [editBgColor, run_bind_ok _ found, if_pos new]
  exact recorded_execute holds (Command.fits_single (.bgColor cell stored.bgColor color) inside)

end Edits

/-! ### Painting several cells -/

section Paint

variable {sheet : Sheet} {size : Dimensions} {contents : Contents}

/-- Reading several cells fails for the first one outside, or finds them all. -/
theorem run_readCells (holds : sheet.document.Holds size contents) (cells : List CellRef) :
    (cells.mapM fun cell => return (cell, ← getCell cell) : SheetM (List (CellRef × Cell))).run
        sheet =
      match firstOutside? size cells with
      | none => (.ok (cells.map fun cell => (cell, (sheet.cell? cell).getD default)), sheet)
      | some cell => (.error (.outOfBounds cell), sheet) := by
  induction cells with
  | nil => rfl
  | cons cell cells ih =>
    rw [List.mapM_cons, firstOutside?, List.find?_cons]
    by_cases inside : cell.Inside size.rows size.columns
    · obtain ⟨content, found, here, -⟩ := run_getCell_of_inside holds inside
      -- The cell is found, so it is the others that decide whether all are.
      have read : (return (cell, ← getCell cell) : SheetM (CellRef × Cell)).run sheet =
          (.ok (cell, content), sheet) := run_bind_ok _ found
      rw [run_bind_ok _ read]
      simp only [inside, not_true_eq_false, decide_false]
      rw [← firstOutside?]
      cases others : firstOutside? size cells with
      | none =>
        rw [others] at ih
        rw [run_bind_ok _ ih, run_pure, List.map_cons, cell?, here]
        rfl
      | some other =>
        rw [others] at ih
        exact run_bind_error _ ih
    · have failed : (return (cell, ← getCell cell) : SheetM (CellRef × Cell)).run sheet =
          (.error (.outOfBounds cell), sheet) :=
        run_bind_error _ (run_getCell_of_outside holds inside)
      rw [run_bind_error _ failed]
      simp only [inside, not_false_eq_true, decide_true]

theorem run_editBgColorMany_of_outside (holds : sheet.document.Holds size contents)
    {cells : List CellRef} {cell : CellRef} (outside : firstOutside? size cells = some cell)
    (color : Color) :
    (editBgColorMany cells color).run sheet = (.error (.outOfBounds cell), sheet) := by
  have read := run_readCells holds cells
  rw [outside] at read
  exact run_bind_error _ read

/-- The commands that painting makes are one for each cell that has another color. -/
theorem filterMap_readCells (holds : sheet.document.Holds size contents) {cells : List CellRef}
    (inside : ∀ cell ∈ cells, cell.Inside size.rows size.columns) (color : Color) :
    ((cells.map fun cell => (cell, (sheet.cell? cell).getD default)).filterMap
      fun (cell, content) =>
        if content.bgColor ≠ color then
          some (Command.single (.bgColor cell content.bgColor color))
        else none) = (contents.repaints cells color).map .single := by
  unfold Contents.repaints Contents.unpainted
  induction cells with
  | nil => rfl
  | cons cell cells ih =>
    obtain ⟨content, here, written⟩ := holds.exists_get? (inside cell List.mem_cons_self)
    have others := ih fun other member => inside other (List.mem_cons_of_mem _ member)
    have found : sheet.cell? cell = some content := here
    rw [List.map_cons, List.filterMap_cons, List.filter_cons]
    simp only [found, written, Option.getD_some, Option.any_some]
    by_cases painted : content.bgColor = color
    · simpa [painted] using others
    · simpa [painted, Contents.colorAt, written] using others

theorem run_editBgColorMany_of_same (holds : sheet.document.Holds size contents)
    {cells : List CellRef} (inside : ∀ cell ∈ cells, cell.Inside size.rows size.columns)
    {color : Color} (none : contents.repaints cells color = []) :
    (editBgColorMany cells color).run sheet = (.ok (), sheet) := by
  have read := run_readCells holds cells
  rw [firstOutside?_eq_none_iff.mpr inside] at read
  rw [editBgColorMany, run_bind_ok _ read]
  simp only [filterMap_readCells holds inside, none, List.map_nil, ne_eq, not_true_eq_false,
    if_false]
  rfl

theorem recorded_editBgColorMany (holds : sheet.document.Holds size contents)
    {cells : List CellRef} (inside : ∀ cell ∈ cells, cell.Inside size.rows size.columns)
    {color : Color} (some : contents.repaints cells color ≠ []) :
    Recorded size sheet (contents.paint cells color)
      (.batch ((contents.repaints cells color).map .single))
      ((editBgColorMany cells color).run sheet) := by
  have read := run_readCells holds cells
  rw [firstOutside?_eq_none_iff.mpr inside] at read
  rw [editBgColorMany, run_bind_ok _ read]
  simp only [filterMap_readCells holds inside, ne_eq, List.map_eq_nil_iff, some,
    not_false_eq_true, if_true]
  rw [← Contents.apply_forward_repaints]
  exact recorded_execute holds (contents.fits_repaints cells color inside)

end Paint

/-! ### Moving through the history -/

section Moves

variable {sheet : Sheet} {size : Dimensions} {contents : Contents} {command : Command}
  {commands : List Command}

theorem run_undo_nil (empty : sheet.undoStack = []) :
    undo.run sheet = (.error .nothingToUndo, sheet) := by
  rw [undo, run_bind_ok _ run_get]
  simp only [empty]
  rfl

theorem run_redo_nil (empty : sheet.redoStack = []) :
    redo.run sheet = (.error .nothingToRedo, sheet) := by
  rw [redo, run_bind_ok _ run_get]
  simp only [empty]
  rfl

theorem run_undo_cons (holds : sheet.document.Holds size contents)
    (latest : sheet.undoStack = command :: commands) (fits : command.Fits size) :
    ∃ next, undo.run sheet = (.ok (), next) ∧
      next.document.Holds size (contents.apply .backward command) ∧
        next.undoStack = commands ∧ next.redoStack = command :: sheet.redoStack := by
  obtain ⟨next, done, nextHolds, undoKept, redoKept⟩ :=
    writes_apply .backward contents fits { sheet with undoStack := commands } holds
  refine ⟨{ next with redoStack := command :: next.redoStack }, ?_, nextHolds, undoKept,
    congrArg (command :: ·) redoKept⟩
  rw [undo, run_bind_ok _ run_get]
  simp only [latest]
  rw [run_bind_ok _ (run_set _), run_bind_ok _ done, run_modify]

theorem run_redo_cons (holds : sheet.document.Holds size contents)
    (latest : sheet.redoStack = command :: commands) (fits : command.Fits size) :
    ∃ next, redo.run sheet = (.ok (), next) ∧
      next.document.Holds size (contents.apply .forward command) ∧
        next.undoStack = command :: sheet.undoStack ∧ next.redoStack = commands := by
  obtain ⟨next, done, nextHolds, undoKept, redoKept⟩ :=
    writes_apply .forward contents fits { sheet with redoStack := commands } holds
  refine ⟨{ next with undoStack := command :: next.undoStack }, ?_, nextHolds,
    congrArg (command :: ·) undoKept, redoKept⟩
  rw [redo, run_bind_ok _ run_get]
  simp only [latest]
  rw [run_bind_ok _ (run_set _), run_bind_ok _ done, run_modify]

end Moves

end Worksheet.Sheet
