import Worksheet.Proofs.Sheet.Loading
import Worksheet.Sheet.Action

/-!
# What every run keeps

A run is any list of operations, also of such as fail. Every operation keeps the document consistent
and the commands of the history within the sheet, so every sheet that can be reached from a new one
displays in each cell what the texts say.

Nothing else of a run is left in the document: two runs that end with the same texts end with the
same values and references.
-/

namespace Worksheet.Sheet

open Relation

/-- A sheet of some size with a consistent document, all of whose commands edit cells inside. -/
structure Sound (size : Dimensions) (sheet : Sheet) : Prop where
  holds : ∃ contents, sheet.document.Holds size contents
  undoable : ∀ command ∈ sheet.undoStack, command.Fits size
  redoable : ∀ command ∈ sheet.redoStack, command.Fits size

section Sound

variable {size : Dimensions} {sheet : Sheet}

theorem create_eq_ok_iff : create size = .ok sheet ↔ size.Valid ∧ sheet = blank size := by
  unfold create Dimensions.check
  by_cases valid : size.Valid
  · simp only [valid, if_true, true_and]
    constructor
    · intro created
      exact (Except.ok.inj created).symm
    · rintro rfl
      rfl
  · simp only [valid, if_false, false_and, iff_false]
    exact fun created => nomatch created

theorem sound_blank (size : Dimensions) : (blank size).Sound size :=
  ⟨⟨_, Document.holds_blank size⟩, by simp [blank], by simp [blank]⟩

namespace Sound

theorem of_writes (sound : sheet.Sound size) {operation : SheetM Unit}
    (writes : ∀ contents, ∃ latter, Writes size operation contents latter) :
    (operation.run sheet).2.Sound size := by
  obtain ⟨contents, holds⟩ := sound.holds
  obtain ⟨latter, write⟩ := writes contents
  obtain ⟨next, done, nextHolds, undoKept, redoKept⟩ := write sheet holds
  rw [done]
  exact ⟨⟨latter, nextHolds⟩, undoKept ▸ sound.undoable, redoKept ▸ sound.redoable⟩

theorem of_recorded (sound : sheet.Sound size) {latter : Contents} {command : Command}
    {outcome : Except SheetError Unit × Sheet} (fits : command.Fits size)
    (recorded : Recorded size sheet latter command outcome) : outcome.2.Sound size := by
  refine ⟨⟨latter, recorded.holds⟩, ?_, ?_⟩
  · intro other member
    rw [recorded.undoStack] at member
    rcases mem_of_mem_pushUndo member with rfl | former
    · exact fits
    · exact sound.undoable other former
  · simp [recorded.redoStack]

theorem after_execute (sound : sheet.Sound size) (command : Command) :
    ((execute command).run sheet).2.Sound size := by
  obtain ⟨contents, holds⟩ := sound.holds
  cases outside : firstOutside? size command.cells with
  | some cell =>
    rw [run_execute_of_outside holds outside]
    exact sound
  | none =>
    have fits : command.Fits size := firstOutside?_eq_none_iff.mp outside
    exact sound.of_recorded fits (recorded_execute holds fits)

theorem after_editText (sound : sheet.Sound size) (cell : CellRef) (text : String) :
    ((editText cell text).run sheet).2.Sound size := by
  obtain ⟨contents, holds⟩ := sound.holds
  by_cases inside : cell.Inside size.rows size.columns
  · obtain ⟨content, -, here⟩ := holds.exists_get? inside
    by_cases new : content.text = text
    · rw [← new, run_editText_of_same holds inside here]
      exact sound
    · exact sound.of_recorded (Command.fits_single (.text cell content.text text) inside)
        (recorded_editText holds inside here new)
  · rw [run_editText_of_outside holds inside]
    exact sound

theorem after_editBgColor (sound : sheet.Sound size) (cell : CellRef) (color : Color) :
    ((editBgColor cell color).run sheet).2.Sound size := by
  obtain ⟨contents, holds⟩ := sound.holds
  by_cases inside : cell.Inside size.rows size.columns
  · obtain ⟨content, -, here⟩ := holds.exists_get? inside
    by_cases new : content.bgColor = color
    · rw [← new, run_editBgColor_of_same holds inside here]
      exact sound
    · exact sound.of_recorded (Command.fits_single (.bgColor cell content.bgColor color) inside)
        (recorded_editBgColor holds inside here new)
  · rw [run_editBgColor_of_outside holds inside]
    exact sound

theorem after_editBgColorMany (sound : sheet.Sound size) (cells : List CellRef) (color : Color) :
    ((editBgColorMany cells color).run sheet).2.Sound size := by
  obtain ⟨contents, holds⟩ := sound.holds
  cases outside : firstOutside? size cells with
  | some cell =>
    rw [run_editBgColorMany_of_outside holds outside]
    exact sound
  | none =>
    have inside := firstOutside?_eq_none_iff.mp outside
    by_cases none : contents.repaints cells color = []
    · rw [run_editBgColorMany_of_same holds inside none]
      exact sound
    · exact sound.of_recorded (contents.fits_repaints cells color inside)
        (recorded_editBgColorMany holds inside none)

theorem after_undo (sound : sheet.Sound size) : (undo.run sheet).2.Sound size := by
  obtain ⟨contents, holds⟩ := sound.holds
  cases latest : sheet.undoStack with
  | nil =>
    rw [run_undo_nil latest]
    exact sound
  | cons command commands =>
    have undoable := sound.undoable
    rw [latest, List.forall_mem_cons] at undoable
    -- The command moves from one stack to the other.
    obtain ⟨next, done, nextHolds, undoNow, redoNow⟩ := run_undo_cons holds latest undoable.1
    rw [done]
    refine ⟨⟨_, nextHolds⟩, undoNow ▸ undoable.2, ?_⟩
    rw [redoNow]
    exact List.forall_mem_cons.mpr ⟨undoable.1, sound.redoable⟩

theorem after_redo (sound : sheet.Sound size) : (redo.run sheet).2.Sound size := by
  obtain ⟨contents, holds⟩ := sound.holds
  cases latest : sheet.redoStack with
  | nil =>
    rw [run_redo_nil latest]
    exact sound
  | cons command commands =>
    have redoable := sound.redoable
    rw [latest, List.forall_mem_cons] at redoable
    obtain ⟨next, done, nextHolds, undoNow, redoNow⟩ := run_redo_cons holds latest redoable.1
    rw [done]
    refine ⟨⟨_, nextHolds⟩, ?_, redoNow ▸ redoable.2⟩
    rw [undoNow]
    exact List.forall_mem_cons.mpr ⟨redoable.1, sound.undoable⟩

theorem after_loadRecords (sound : sheet.Sound size) (records : List CellRecord) :
    ((loadRecords records).run sheet).2.Sound size := by
  obtain ⟨contents, holds⟩ := sound.holds
  cases outside : firstOutside? size (records.map CellRecord.cell) with
  | some cell =>
    rw [run_loadRecords_of_outside holds outside]
    exact sound
  | none =>
    have inside := firstOutside?_eq_none_iff.mp outside
    obtain ⟨next, done, nextHolds, undoNow, redoNow⟩ :=
      run_loadRecords holds (List.forall_mem_map.mp inside)
    rw [done]
    exact ⟨⟨_, nextHolds⟩, by simp [undoNow], by simp [redoNow]⟩

/-- **Soundness of a step.** Every operation leaves a sound sheet, whether it fails or not. -/
theorem after (sound : sheet.Sound size) (action : Action) : (sheet.after action).Sound size := by
  unfold Sheet.after
  cases action with
  | setText cell text =>
    by_cases inside : cell.Inside size.rows size.columns
    · exact sound.of_writes fun contents => ⟨_, writes_setText contents inside text⟩
    · obtain ⟨contents, holds⟩ := sound.holds
      rw [perform, setText, run_bind_error _ (run_getCell_of_outside holds inside)]
      exact sound
  | setBgColor cell color =>
    by_cases inside : cell.Inside size.rows size.columns
    · exact sound.of_writes fun contents => ⟨_, writes_setBgColor contents inside color⟩
    · obtain ⟨contents, holds⟩ := sound.holds
      rw [perform, setBgColor, run_bind_error _ (run_getCell_of_outside holds inside)]
      exact sound
  | clear => exact sound.of_writes fun contents => ⟨_, writes_clear contents⟩
  | editText cell text => exact sound.after_editText cell text
  | editBgColor cell color => exact sound.after_editBgColor cell color
  | editBgColorMany cells color => exact sound.after_editBgColorMany cells color
  | execute command => exact sound.after_execute command
  | undo => exact sound.after_undo
  | redo => exact sound.after_redo
  | clearHistory => exact ⟨sound.holds, by simp [perform, clearHistory, run_modify], by
      simp [perform, clearHistory, run_modify]⟩
  | loadRecords records => exact sound.after_loadRecords records

/-- **Soundness of a run.** -/
theorem afterAll (sound : sheet.Sound size) (actions : List Action) :
    (sheet.afterAll actions).Sound size := by
  unfold Sheet.afterAll
  induction actions generalizing sheet with
  | nil => exact sound
  | cons action actions ih => exact ih (sound.after action)

end Sound

theorem sound_of_create (created : create size = .ok sheet) (actions : List Action) :
    (sheet.afterAll actions).Sound size := by
  obtain ⟨-, rfl⟩ := create_eq_ok_iff.mp created
  exact (sound_blank size).afterAll actions

end Sound

/-! ### What is left of a run -/

/-- Two sheets agree about a cell in all that follows from the texts. -/
structure Agrees (sheet other : Sheet) (cell : CellRef) : Prop where
  value : (sheet.cell? cell).map Cell.value = (other.cell? cell).map Cell.value
  references : sheet.document.graph.references cell = other.document.graph.references cell
  dependents : sheet.document.graph.dependents cell = other.document.graph.dependents cell
  isInCycle : sheet.document.graph.isInCycle cell = other.document.graph.isInCycle cell

section Agrees

variable {size : Dimensions} {sheet other : Sheet}

theorem agrees_of_sameTexts {contents otherContents : Contents}
    (holds : sheet.document.Holds size contents)
    (otherHolds : other.document.Holds size otherContents)
    (same : sheet.document.grid.SameTexts other.document.grid) (cell : CellRef) :
    sheet.Agrees other cell := by
  obtain ⟨references, dependents, isInCycle⟩ :=
    holds.consistent.wired.graph_congr otherHolds.consistent.wired same cell
  have value := same.value holds.consistent.regular holds.consistent.current
    otherHolds.consistent.current cell
  exact ⟨value, references, dependents, isInCycle⟩

theorem Sound.agrees (sound : sheet.Sound size) (otherSound : other.Sound size)
    (texts : ∀ cell, (sheet.cell? cell).map Cell.text = (other.cell? cell).map Cell.text)
    (cell : CellRef) : sheet.Agrees other cell := by
  obtain ⟨contents, holds⟩ := sound.holds
  obtain ⟨otherContents, otherHolds⟩ := otherSound.holds
  have same : sheet.document.grid.SameTexts other.document.grid :=
    ⟨holds.rows.trans otherHolds.rows.symm, holds.columns.trans otherHolds.columns.symm, texts⟩
  exact agrees_of_sameTexts holds otherHolds same cell

/-- Loading records in another order gives the same cells. -/
theorem Sound.cell?_loadRecords_perm (sound : sheet.Sound size)
    {records reordered : List CellRecord} (distinct : (records.map CellRecord.cell).Nodup)
    (same : records.Perm reordered) (cell : CellRef) :
    (sheet.after (.loadRecords records)).cell? cell =
      (sheet.after (.loadRecords reordered)).cell? cell := by
  obtain ⟨contents, holds⟩ := sound.holds
  have perm := same.map CellRecord.cell
  cases outside : firstOutside? size (records.map CellRecord.cell) with
  | none =>
    have inside := firstOutside?_eq_none_iff.mp outside
    obtain ⟨next, done, nextHolds, -⟩ := run_loadRecords holds (List.forall_mem_map.mp inside)
    obtain ⟨next', done', nextHolds', -⟩ := run_loadRecords holds
      (List.forall_mem_map.mp fun cell member => inside cell (perm.mem_iff.mpr member))
    rw [Contents.loaded_perm size distinct same] at nextHolds
    rw [Sheet.after, Sheet.after, perform, perform, done, done', cell?, cell?,
      nextHolds.grid_eq nextHolds']
  | some first =>
    -- Both lists name a cell outside, though maybe not the same one first.
    cases outside' : firstOutside? size (reordered.map CellRecord.cell) with
    | none =>
      have inside' := firstOutside?_eq_none_iff.mp outside'
      have inside := firstOutside?_eq_none_iff.mpr fun cell member =>
        inside' cell (perm.mem_iff.mp member)
      simp [outside] at inside
    | some first' =>
      rw [Sheet.after, Sheet.after, perform, perform, run_loadRecords_of_outside holds outside,
        run_loadRecords_of_outside holds outside']

/-- **Independence of history.** Runs that end with the same texts end with the same values,
references, readers and cells in cycles, however they got there; and records of distinct cells may
be loaded in any order. -/
theorem independent_of_history {first second : Sheet} (created : create size = .ok first)
    (createdToo : create size = .ok second) :
    (∀ actions others : List Action,
      (∀ cell, ((first.afterAll actions).cell? cell).map Cell.text =
        ((second.afterAll others).cell? cell).map Cell.text) →
      ∀ cell, (first.afterAll actions).Agrees (second.afterAll others) cell) ∧
    ∀ (actions : List Action) (records reordered : List CellRecord),
      (records.map CellRecord.cell).Nodup → records.Perm reordered → ∀ cell,
        let sheet := first.afterAll actions
        (sheet.after (.loadRecords records)).cell? cell =
          (sheet.after (.loadRecords reordered)).cell? cell ∧
        (sheet.after (.loadRecords records)).Agrees
          (sheet.after (.loadRecords reordered)) cell := by
  constructor
  · intro actions others texts cell
    exact (sound_of_create created actions).agrees (sound_of_create createdToo others) texts cell
  · intro actions records reordered distinct same cell
    have sound := sound_of_create created actions
    have cells := sound.cell?_loadRecords_perm distinct same
    refine ⟨cells cell, (sound.after _).agrees (sound.after _) (fun other => ?_) cell⟩
    rw [cells other]

/-- A cell is typed at once or after a cycle of its own, and records come in both orders. -/
theorem independent_of_retyping :
    let sheet := blank ⟨2, 1⟩
    let once : List Action := [.setText ⟨0, 0⟩ "=A2"]
    let twice : List Action := [.setText ⟨0, 0⟩ "=A1", .setText ⟨0, 0⟩ "=A2"]
    let first : CellRecord := ⟨⟨0, 0⟩, Color.default, "=A2"⟩
    let second : CellRecord := ⟨⟨1, 0⟩, Color.default, "5"⟩
    create ⟨2, 1⟩ = .ok sheet ∧
      (∀ cell, (sheet.afterAll once).Agrees (sheet.afterAll twice) cell) ∧
        ∀ cell, (sheet.after (.loadRecords [first, second])).cell? cell =
          (sheet.after (.loadRecords [second, first])).cell? cell := by
  intro sheet once twice first second
  have created : create ⟨2, 1⟩ = .ok sheet := rfl
  have inside : (⟨0, 0⟩ : CellRef).Inside 2 1 := by decide
  have independent := independent_of_history created created
  refine ⟨created, fun cell => independent.1 once twice (fun other => ?_) cell, fun cell => ?_⟩
  · have blank := Document.holds_blank ⟨2, 1⟩
    obtain ⟨direct, run, directHolds, -⟩ := writes_setText _ inside "=A2" sheet blank
    obtain ⟨circular, run₁, circularHolds, -⟩ := writes_setText _ inside "=A1" sheet blank
    obtain ⟨opened, run₂, openedHolds, -⟩ := writes_setText _ inside "=A2" circular circularHolds
    have contents : ((Contents.blank ⟨2, 1⟩).setText ⟨0, 0⟩ "=A1").setText ⟨0, 0⟩ "=A2" =
        (Contents.blank ⟨2, 1⟩).setText ⟨0, 0⟩ "=A2" := Contents.modify_modify _ _ fun _ => rfl
    rw [contents] at openedHolds
    have afterOnce : sheet.afterAll once = direct := congrArg Prod.snd run
    have afterTwice : sheet.afterAll twice = opened := by
      change (((setText ⟨0, 0⟩ "=A2").run ((setText ⟨0, 0⟩ "=A1").run sheet).2)).2 = opened
      rw [run₁, run₂]
    rw [afterOnce, afterTwice]
    exact (directHolds.sameTexts openedHolds).text other
  · exact (independent.2 [] [first, second] [second, first] (by decide) (.swap _ _ _) cell).1

end Agrees

end Worksheet.Sheet
