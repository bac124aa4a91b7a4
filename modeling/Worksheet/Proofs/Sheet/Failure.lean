import Worksheet.Proofs.Sheet.Reachable
import Worksheet.Session

/-!
# Operations that fail

An operation that fails leaves everything as it was, and nothing is noted in the journal. Undoing
takes its command from the stack before it applies it, and batches and files change one cell after
the other, so this rests on what is known before the first change: the cells of new commands and
records are checked, and the commands of the history edit cells inside.

A command that is undone or done again moves from one stack to the other, and only new commands are
limited in number. The limit therefore holds for both stacks together.
-/

namespace Worksheet

namespace Sheet

/-! ### What becomes of the stacks -/

/-- What an operation that succeeds may have done to the stacks of the history: nothing; it has put
a new command on the first one and emptied the second; the latest command has gone to the second
one, or come back from there; or both are empty. -/
inductive Moves (sheet next : Sheet) : Prop where
  | stays (undoKept : next.undoStack = sheet.undoStack)
    (redoKept : next.redoStack = sheet.redoStack)
  | records (command : Command)
      (undoNow : next.undoStack = pushUndo command sheet.undoStack)
      (redoNow : next.redoStack = [])
  | undoes {command : Command} (latest : sheet.undoStack = command :: next.undoStack)
      (redoNow : next.redoStack = command :: sheet.redoStack)
  | redoes {command : Command} (latest : sheet.redoStack = command :: next.redoStack)
      (undoNow : next.undoStack = command :: sheet.undoStack)
  | forgets (undoNow : next.undoStack = []) (redoNow : next.redoStack = [])

/-- No more commands are on both stacks together than can be undone. -/
def Limited (sheet : Sheet) : Prop :=
  sheet.undoStack.length + sheet.redoStack.length ≤ maxUndo

theorem Moves.limited {sheet next : Sheet} (moves : Moves sheet next) (limited : sheet.Limited) :
    next.Limited := by
  unfold Limited at limited ⊢
  cases moves with
  | stays undoKept redoKept => rwa [undoKept, redoKept]
  | records command undoNow redoNow =>
    rw [undoNow, redoNow, List.length_nil, Nat.add_zero]
    exact length_pushUndo_le (by omega)
  | undoes latest redoNow =>
    rw [latest, List.length_cons] at limited
    rw [redoNow, List.length_cons]
    omega
  | redoes latest undoNow =>
    rw [latest, List.length_cons] at limited
    rw [undoNow, List.length_cons]
    omega
  | forgets undoNow redoNow => simp [undoNow, redoNow]

/-- An operation leaves the sheet as it was if it fails, and moves commands if it succeeds. -/
def Atomic (sheet : Sheet) (outcome : Except SheetError Unit × Sheet) : Prop :=
  match outcome.1 with
  | .ok () => Moves sheet outcome.2
  | .error _ => outcome.2 = sheet

section Atomic

variable {size : Dimensions} {sheet : Sheet} {contents : Contents}

theorem Atomic.error (sheet : Sheet) (cause : SheetError) : sheet.Atomic (.error cause, sheet) :=
  rfl

theorem Atomic.same (sheet : Sheet) : sheet.Atomic (.ok (), sheet) :=
  Moves.stays rfl rfl

theorem Writes.atomic {operation : SheetM Unit} {latter : Contents}
    (writes : Writes size operation contents latter) (holds : sheet.document.Holds size contents) :
    sheet.Atomic (operation.run sheet) := by
  obtain ⟨next, done, -, undoKept, redoKept⟩ := writes sheet holds
  rw [done]
  exact Moves.stays undoKept redoKept

theorem Recorded.atomic {latter : Contents} {command : Command}
    {outcome : Except SheetError Unit × Sheet}
    (recorded : Recorded size sheet latter command outcome) : sheet.Atomic outcome := by
  rw [Atomic, recorded.done]
  exact Moves.records command recorded.undoStack recorded.redoStack

/-- An operation on one cell that first looks the cell up changes nothing outside the sheet. -/
theorem atomic_getCell (holds : sheet.document.Holds size contents) {cell : CellRef}
    (outside : ¬ cell.Inside size.rows size.columns) (further : Cell → SheetM Unit) :
    sheet.Atomic ((getCell cell >>= further).run sheet) := by
  rw [run_bind_error further (run_getCell_of_outside holds outside)]
  exact .error sheet _

namespace Sound

theorem atomic_setText (sound : sheet.Sound size) (cell : CellRef) (text : String) :
    sheet.Atomic ((setText cell text).run sheet) := by
  obtain ⟨contents, holds⟩ := sound.holds
  by_cases inside : cell.Inside size.rows size.columns
  · exact (writes_setText contents inside text).atomic holds
  · exact atomic_getCell holds inside _

theorem atomic_setBgColor (sound : sheet.Sound size) (cell : CellRef) (color : Color) :
    sheet.Atomic ((setBgColor cell color).run sheet) := by
  obtain ⟨contents, holds⟩ := sound.holds
  by_cases inside : cell.Inside size.rows size.columns
  · exact (writes_setBgColor contents inside color).atomic holds
  · exact atomic_getCell holds inside _

theorem atomic_execute (sound : sheet.Sound size) (command : Command) :
    sheet.Atomic ((execute command).run sheet) := by
  obtain ⟨contents, holds⟩ := sound.holds
  cases outside : firstOutside? size command.cells with
  | some cell =>
    rw [run_execute_of_outside holds outside]
    exact .error sheet _
  | none => exact (recorded_execute holds (firstOutside?_eq_none_iff.mp outside)).atomic

theorem atomic_editText (sound : sheet.Sound size) (cell : CellRef) (text : String) :
    sheet.Atomic ((editText cell text).run sheet) := by
  obtain ⟨contents, holds⟩ := sound.holds
  by_cases inside : cell.Inside size.rows size.columns
  · obtain ⟨content, -, here⟩ := holds.exists_get? inside
    by_cases new : content.text = text
    · rw [← new, run_editText_of_same holds inside here]
      exact .same sheet
    · exact (recorded_editText holds inside here new).atomic
  · exact atomic_getCell holds inside _

theorem atomic_editBgColor (sound : sheet.Sound size) (cell : CellRef) (color : Color) :
    sheet.Atomic ((editBgColor cell color).run sheet) := by
  obtain ⟨contents, holds⟩ := sound.holds
  by_cases inside : cell.Inside size.rows size.columns
  · obtain ⟨content, -, here⟩ := holds.exists_get? inside
    by_cases new : content.bgColor = color
    · rw [← new, run_editBgColor_of_same holds inside here]
      exact .same sheet
    · exact (recorded_editBgColor holds inside here new).atomic
  · exact atomic_getCell holds inside _

theorem atomic_editBgColorMany (sound : sheet.Sound size) (cells : List CellRef) (color : Color) :
    sheet.Atomic ((editBgColorMany cells color).run sheet) := by
  obtain ⟨contents, holds⟩ := sound.holds
  cases outside : firstOutside? size cells with
  | some cell =>
    rw [run_editBgColorMany_of_outside holds outside]
    exact .error sheet _
  | none =>
    have inside := firstOutside?_eq_none_iff.mp outside
    by_cases none : contents.repaints cells color = []
    · rw [run_editBgColorMany_of_same holds inside none]
      exact .same sheet
    · exact (recorded_editBgColorMany holds inside none).atomic

theorem run_undo (sound : sheet.Sound size) : (undo.run sheet).1 =
      (if sheet.undoStack.isEmpty then .error .nothingToUndo else .ok ()) ∧
    sheet.Atomic (undo.run sheet) := by
  obtain ⟨contents, holds⟩ := sound.holds
  cases latest : sheet.undoStack with
  | nil =>
    rw [run_undo_nil latest]
    exact ⟨rfl, .error sheet _⟩
  | cons command commands =>
    have fits := sound.undoable command (latest ▸ List.mem_cons_self)
    obtain ⟨next, done, -, undoNow, redoNow⟩ := run_undo_cons holds latest fits
    rw [done]
    exact ⟨rfl, Moves.undoes (undoNow ▸ latest) redoNow⟩

theorem run_redo (sound : sheet.Sound size) : (redo.run sheet).1 =
      (if sheet.redoStack.isEmpty then .error .nothingToRedo else .ok ()) ∧
    sheet.Atomic (redo.run sheet) := by
  obtain ⟨contents, holds⟩ := sound.holds
  cases latest : sheet.redoStack with
  | nil =>
    rw [run_redo_nil latest]
    exact ⟨rfl, .error sheet _⟩
  | cons command commands =>
    have fits := sound.redoable command (latest ▸ List.mem_cons_self)
    obtain ⟨next, done, -, undoNow, redoNow⟩ := run_redo_cons holds latest fits
    rw [done]
    exact ⟨rfl, Moves.redoes (redoNow ▸ latest) undoNow⟩

theorem atomic_loadRecords (sound : sheet.Sound size) (records : List CellRecord) :
    sheet.Atomic ((loadRecords records).run sheet) := by
  obtain ⟨contents, holds⟩ := sound.holds
  cases outside : firstOutside? size (records.map CellRecord.cell) with
  | some cell =>
    rw [run_loadRecords_of_outside holds outside]
    exact .error sheet _
  | none =>
    have inside := firstOutside?_eq_none_iff.mp outside
    obtain ⟨next, done, -, undoNow, redoNow⟩ :=
      run_loadRecords holds (List.forall_mem_map.mp inside)
    rw [done]
    exact Moves.forgets undoNow redoNow

/-- **Atomicity of a step.** On a sound sheet every operation succeeds or changes nothing. -/
theorem atomic (sound : sheet.Sound size) (action : Action) :
    sheet.Atomic ((perform action).run sheet) := by
  cases action with
  | setText cell text => exact sound.atomic_setText cell text
  | setBgColor cell color => exact sound.atomic_setBgColor cell color
  | clear =>
    obtain ⟨contents, holds⟩ := sound.holds
    exact (writes_clear contents).atomic holds
  | editText cell text => exact sound.atomic_editText cell text
  | editBgColor cell color => exact sound.atomic_editBgColor cell color
  | editBgColorMany cells color => exact sound.atomic_editBgColorMany cells color
  | execute command => exact sound.atomic_execute command
  | undo => exact sound.run_undo.2
  | redo => exact sound.run_redo.2
  | clearHistory => exact Moves.forgets rfl rfl
  | loadRecords records => exact sound.atomic_loadRecords records

end Sound

end Atomic

/-- A sound sheet whose history is limited. -/
structure Tidy (size : Dimensions) (sheet : Sheet) : Prop where
  sound : sheet.Sound size
  limited : sheet.Limited

section Tidy

variable {size : Dimensions} {sheet next : Sheet}

/-- A sheet stays tidy while neither its document nor its history change. -/
theorem Tidy.congr (tidy : sheet.Tidy size) (document : next.document = sheet.document)
    (undoStack : next.undoStack = sheet.undoStack) (redoStack : next.redoStack = sheet.redoStack) :
    next.Tidy size := by
  obtain ⟨⟨holds, undoable, redoable⟩, limited⟩ := tidy
  refine ⟨⟨document ▸ holds, undoStack ▸ undoable, redoStack ▸ redoable⟩, ?_⟩
  rwa [Limited, undoStack, redoStack]

theorem Tidy.after (tidy : sheet.Tidy size) (action : Action) : (sheet.after action).Tidy size := by
  refine ⟨tidy.sound.after action, ?_⟩
  have atomic := tidy.sound.atomic action
  unfold Atomic at atomic
  unfold Sheet.after
  cases result : ((perform action).run sheet).1 with
  | ok _ =>
    rw [result] at atomic
    exact atomic.limited tidy.limited
  | error cause =>
    rw [result] at atomic
    exact atomic.symm ▸ tidy.limited

theorem tidy_blank (size : Dimensions) : (blank size).Tidy size :=
  ⟨sound_blank size, Nat.zero_le _⟩

end Tidy

end Sheet

/-! ### Operations with files -/

namespace Session

variable {α β : Type} {size : Dimensions}

theorem run_onFiles (access : FileTree → Except FileError α) (session : Session) :
    (onFiles access).run session = ((access session.files).mapError .file, session) := by
  rw [onFiles, Sheet.run_bind_ok _ Sheet.run_get]
  cases access session.files <;> rfl

/-- An operation keeps the sheet of a session tidy, whether it fails or not. -/
def Keeps (size : Dimensions) (operation : SessionM α) : Prop :=
  ∀ session : Session, session.sheet.Tidy size → (operation.run session).2.sheet.Tidy size

theorem Keeps.bind {operation : SessionM α} {further : α → SessionM β}
    (first : Keeps size operation) (rest : ∀ result, Keeps size (further result)) :
    Keeps size (operation >>= further) := by
  intro session tidy
  have tidyFirst := first session tidy
  rcases outcome : operation.run session with ⟨result | result, next⟩
  · rw [Sheet.run_bind_error further outcome]
    rwa [outcome] at tidyFirst
  · rw [Sheet.run_bind_ok further outcome]
    rw [outcome] at tidyFirst
    exact rest result next tidyFirst

theorem keeps_onSheet (action : Sheet.Action) : Keeps size (onSheet (Sheet.perform action)) :=
  fun _ tidy => tidy.after action

theorem keeps_onFiles (access : FileTree → Except FileError α) : Keeps size (onFiles access) := by
  intro session tidy
  rwa [run_onFiles]

theorem keeps_modifySheet {change : Sheet → Sheet}
    (kept : ∀ sheet, (change sheet).document = sheet.document ∧
      (change sheet).undoStack = sheet.undoStack ∧ (change sheet).redoStack = sheet.redoStack) :
    Keeps size (modifySheet change) := by
  intro session tidy
  obtain ⟨document, undoStack, redoStack⟩ := kept session.sheet
  exact tidy.congr document undoStack redoStack

theorem keeps_loadFile (path : Path) : Keeps size (loadFile path) := by
  refine (keeps_onFiles _).bind fun document => Keeps.bind ?_ fun records =>
    (keeps_onSheet (.loadRecords records)).bind fun _ =>
      keeps_modifySheet fun _ => ⟨rfl, rfl, rfl⟩
  -- Reading the records of a text touches nothing.
  intro session tidy
  cases parsed : CellRecord.parse document <;> exact tidy

theorem keeps_saveFile : Keeps size saveFile := by
  refine Keeps.bind (fun _ tidy => tidy) fun session => ?_
  dsimp only
  cases session.sheet.path? with
  | none => exact fun _ tidy => tidy
  | some path =>
    refine (keeps_onFiles _).bind fun files => Keeps.bind ?_ fun _ => Keeps.bind ?_ fun _ => ?_
    · exact fun _ tidy => tidy
    · exact keeps_modifySheet fun _ => ⟨rfl, rfl, rfl⟩
    · exact fun _ tidy => tidy

theorem keeps_saveAs (path : Path) : Keeps size (saveAs path) := by
  refine Keeps.bind ?_ fun _ => keeps_saveFile
  exact keeps_modifySheet fun _ => ⟨rfl, rfl, rfl⟩

theorem keeps_openFile (path : Path) : Keeps size (openFile path) := by
  refine Keeps.bind (fun _ tidy => tidy) fun session => ?_
  split
  · exact keeps_loadFile path
  · exact keeps_modifySheet fun _ => ⟨rfl, rfl, rfl⟩

theorem keeps_perform (action : Action) : Keeps size (perform action) := by
  cases action with
  | edit action => exact keeps_onSheet action
  | loadFile path => exact keeps_loadFile path
  | saveFile => exact keeps_saveFile.bind fun _ _ tidy => tidy
  | saveAs path => exact (keeps_saveAs path).bind fun _ _ tidy => tidy

/-- On a session with a tidy sheet an operation that fails leaves everything as it was. -/
def FailsCleanly (size : Dimensions) (operation : SessionM α) : Prop :=
  ∀ session : Session, session.sheet.Tidy size → ∀ cause,
    (operation.run session).1 = .error cause → (operation.run session).2 = session

theorem failsCleanly_of_total {operation : SessionM α}
    (total : ∀ session, ∃ result, (operation.run session).1 = .ok result) :
    FailsCleanly size operation := by
  intro session _ cause failed
  obtain ⟨result, done⟩ := total session
  rw [done] at failed
  cases failed

/-- What only looks may come first. -/
theorem failsCleanly_bind_of_reads {operation : SessionM α} {further : α → SessionM β}
    (reads : ∀ session, (operation.run session).2 = session)
    (rest : ∀ result, FailsCleanly size (further result)) :
    FailsCleanly size (operation >>= further) := by
  intro session tidy cause failed
  have same := reads session
  rcases outcome : operation.run session with ⟨result | result, next⟩
  · rw [Sheet.run_bind_error further outcome]
    rwa [outcome] at same
  · obtain rfl : next = session := by rwa [outcome] at same
    rw [Sheet.run_bind_ok further outcome] at failed ⊢
    exact rest result _ tidy cause failed

/-- What cannot fail may come last. -/
theorem FailsCleanly.bind_total {operation : SessionM α} {further : α → SessionM β}
    (first : FailsCleanly size operation)
    (total : ∀ result session, ∃ value, ((further result).run session).1 = .ok value) :
    FailsCleanly size (operation >>= further) := by
  intro session tidy cause failed
  rcases outcome : operation.run session with ⟨fault | result, next⟩
  · have same := first session tidy fault (by rw [outcome])
    rw [Sheet.run_bind_error further outcome]
    rwa [outcome] at same
  · obtain ⟨value, done⟩ := total result next
    rw [Sheet.run_bind_ok further outcome, done] at failed
    cases failed

theorem failsCleanly_edit (action : Sheet.Action) :
    FailsCleanly size (onSheet (Sheet.perform action)) := by
  intro session tidy cause failed
  have atomic := tidy.sound.atomic action
  have failed : ((Sheet.perform action).run session.sheet).1 = .error cause := failed
  rw [Sheet.Atomic, failed] at atomic
  exact congrArg (Session.mk session.files) atomic

theorem failsCleanly_loadFile (path : Path) : FailsCleanly size (loadFile path) := by
  refine failsCleanly_bind_of_reads (fun session => ?_) fun document =>
    failsCleanly_bind_of_reads (fun session => ?_) fun records =>
      (failsCleanly_edit (.loadRecords records)).bind_total fun _ _ => ⟨(), rfl⟩
  · rw [run_onFiles]
  · cases CellRecord.parse document <;> rfl

theorem failsCleanly_saveFile : FailsCleanly size saveFile := by
  refine failsCleanly_bind_of_reads (fun _ => rfl) fun session => ?_
  dsimp only
  cases session.sheet.path? with
  | none => exact fun _ _ _ _ => rfl
  | some path =>
    refine failsCleanly_bind_of_reads (fun session => ?_) fun files =>
      failsCleanly_of_total fun _ => ⟨path, rfl⟩
    rw [run_onFiles]

/-- Saving under another path changes the path first. All other operations that fail leave
everything as it was. -/
theorem failsCleanly_perform {action : Action} (stays : ∀ path, action ≠ .saveAs path) :
    FailsCleanly size (perform action) := by
  cases action with
  | edit action => exact failsCleanly_edit action
  | loadFile path => exact failsCleanly_loadFile path
  | saveFile => exact failsCleanly_saveFile.bind_total fun _ _ => ⟨(), rfl⟩
  | saveAs path => exact absurd rfl (stays path)

/-- A session starts with a new sheet, in which the file is opened if one is given. -/
theorem opened_of_start {path? : Option Path} {files : FileTree} {session : Session}
    (started : start size path? files = .ok session) : size.Valid ∧
      (path?.forM openFile).run ⟨files, Sheet.blank size⟩ = (.ok (), session) := by
  unfold start at started
  cases created : Sheet.create size with
  | error cause => simp [created, bind, Except.bind] at started
  | ok sheet =>
    obtain ⟨valid, rfl⟩ := Sheet.create_eq_ok_iff.mp created
    refine ⟨valid, ?_⟩
    cases path? with
    | none =>
      obtain rfl : Session.mk files (Sheet.blank size) = session := by
        simpa [created, bind, Except.bind, pure, Except.pure] using started
      rfl
    | some path =>
      change (openFile path).run ⟨files, Sheet.blank size⟩ = _
      rcases opened : (openFile path).run ⟨files, Sheet.blank size⟩ with ⟨result | result, next⟩
      · simp [created, opened, bind, Except.bind] at started
      · obtain rfl : next = session := by
          simpa [created, opened, bind, Except.bind, pure, Except.pure] using started
        rfl

end Session

/-! ### Every sheet that can be reached -/

/-- A sheet that can be reached with some size: it is new or has been opened, and then worked on.
Operations count whether they fail or not, and so do formulas that are evaluated beside the sheet.
Between two operations the files may change in any way. -/
inductive Sheet.Reachable (size : Dimensions) : Sheet → Prop where
  | start {path? : Option Path} {files : FileTree} {session : Session}
      (started : Session.start size path? files = .ok session) : Reachable size session.sheet
  | after {sheet : Sheet} (earlier : Reachable size sheet) (files : FileTree)
      (action : Session.Action) : Reachable size (Session.after ⟨files, sheet⟩ action).sheet
  | evaluate {sheet : Sheet} (earlier : Reachable size sheet) (formula : String) :
      Reachable size ((Sheet.evaluate formula).run sheet).2

namespace Sheet

variable {size : Dimensions} {sheet : Sheet}

theorem tidy_start {path? : Option Path} {files : FileTree} {session : Session}
    (started : Session.start size path? files = .ok session) : session.sheet.Tidy size := by
  obtain ⟨-, opened⟩ := Session.opened_of_start started
  have keeps : Session.Keeps size (path?.forM Session.openFile) := by
    cases path? with
    | none => exact fun _ tidy => tidy
    | some path => exact Session.keeps_openFile path
  have tidy := keeps ⟨files, blank size⟩ (tidy_blank size)
  rwa [opened] at tidy

theorem Reachable.valid (reachable : sheet.Reachable size) : size.Valid := by
  induction reachable with
  | start started => exact (Session.opened_of_start started).1
  | after _ _ _ valid | evaluate _ _ valid => exact valid

theorem Reachable.tidy (reachable : sheet.Reachable size) : sheet.Tidy size := by
  induction reachable with
  | start started => exact tidy_start started
  | after _ files action tidy => exact Session.keeps_perform action ⟨files, _⟩ tidy
  | evaluate _ formula tidy => exact tidy.congr rfl rfl rfl

theorem reachable_blank (valid : size.Valid) : (blank size).Reachable size := by
  have started : Session.start size none (.blank [] []) = .ok ⟨.blank [] [], blank size⟩ := by
    rw [Session.start, create_eq_ok_iff.mpr ⟨valid, rfl⟩]
    rfl
  exact .start started

theorem Reachable.edit (reachable : sheet.Reachable size) (action : Action) :
    (sheet.after action).Reachable size :=
  .after reachable (.blank [] []) (.edit action)

/-- **Failure is atomic.** Whatever has been done to a sheet, an operation on it that fails changes
neither the sheet nor a file, and the journal gets no line. Undoing and doing again fail only if
there is nothing on their stack, and both stacks together hold at most a hundred commands. Saving
under another path is left out: it changes the path before it writes. -/
theorem failure_is_atomic (reachable : sheet.Reachable size) :
    (∀ (files : FileTree) (action : Session.Action), (∀ path, action ≠ .saveAs path) → ∀ cause,
      ((Session.perform action).run ⟨files, sheet⟩).1 = .error cause →
        ((Session.perform action).run ⟨files, sheet⟩).2 = ⟨files, sheet⟩) ∧
      (undo.run sheet).1 = (if sheet.undoStack.isEmpty then .error .nothingToUndo else .ok ()) ∧
      (redo.run sheet).1 = (if sheet.redoStack.isEmpty then .error .nothingToRedo else .ok ()) ∧
      sheet.undoStack.length + sheet.redoStack.length ≤ 100 := by
  have tidy := reachable.tidy
  refine ⟨fun files action stays cause failed => ?_, tidy.sound.run_undo.1, tidy.sound.run_redo.1,
    tidy.limited⟩
  exact Session.failsCleanly_perform stays ⟨files, sheet⟩ tidy cause failed

/-- The inner one of two batches edits a cell outside, after a cell inside has been edited. -/
theorem failure_is_atomic_nested_batch :
    let sheet := blank ⟨1, 1⟩
    let inner : Command := .batch [.single (.text ⟨1, 0⟩ "" "2")]
    let command : Command := .batch [.single (.text ⟨0, 0⟩ "" "1"), inner]
    let session : Session := ⟨.blank [] [], sheet⟩
    sheet.Reachable ⟨1, 1⟩ ∧
      ((Session.perform (.edit (.execute command))).run session).1 =
        .error (.outOfBounds ⟨1, 0⟩) ∧
      ((Session.perform (.edit (.execute command))).run session).2 = session := by
  intro sheet inner command session
  have started : Session.start ⟨1, 1⟩ none (.blank [] []) = .ok session := rfl
  have reachable : sheet.Reachable ⟨1, 1⟩ := .start started
  have failed : (execute command).run sheet = (.error (.outOfBounds ⟨1, 0⟩), sheet) :=
    run_execute_of_outside (Document.holds_blank ⟨1, 1⟩) (by decide)
  have failedToo : ((Session.perform (.edit (.execute command))).run session).1 =
      .error (.outOfBounds ⟨1, 0⟩) := congrArg Prod.fst failed
  exact ⟨reachable, failedToo,
    (failure_is_atomic reachable).1 _ _ (fun _ => Session.Action.noConfusion) _ failedToo⟩

end Sheet

end Worksheet
