import Worksheet.Proofs.Files.Writing
import Worksheet.Proofs.Sheet.Failure
import Worksheet.Proofs.Sheet.RoundTrip

/-!
# Sheets that are not modified

A sheet that counts as not modified is what its file holds: the file can be read, and its records
give a new sheet the same texts and colors. Or there is no file yet and the sheet is blank.

An operation on the sheet keeps the path and marks whatever it writes. Loading and saving take the
mark away, when what was read is what the sheet holds, or what the sheet holds has been written. One
operation breaks this: saving under another path takes the path before it writes, and leaves the
mark as it was if it cannot write. The sheet then goes by a path at which nothing can be read, until
it is loaded or saved again.
-/

namespace Worksheet

namespace Sheet

/-! ### The mark -/

/-- The path stays, and whatever is written in the sheet is marked. -/
structure Marked (sheet next : Sheet) : Prop where
  path : next.path? = sheet.path?
  earlier : next.modified = false → sheet.modified = false
  contents : next.modified = false →
    next.document.grid.contents = sheet.document.grid.contents

theorem Marked.refl (sheet : Sheet) : sheet.Marked sheet :=
  ⟨rfl, id, fun _ => rfl⟩

theorem Marked.trans {sheet between next : Sheet} (first : sheet.Marked between)
    (second : between.Marked next) : sheet.Marked next where
  path := second.path.trans first.path
  earlier unmodified := first.earlier (second.earlier unmodified)
  contents unmodified :=
    (second.contents unmodified).trans (first.contents (second.earlier unmodified))

/-- An operation that marks whatever it writes, whether it fails or not. -/
def Marks {α : Type} (operation : SheetM α) : Prop :=
  ∀ sheet : Sheet, sheet.Marked (operation.run sheet).2

section Marks

variable {α β : Type}

theorem Marks.bind {operation : SheetM α} {further : α → SheetM β} (first : Marks operation)
    (rest : ∀ result, Marks (further result)) : Marks (operation >>= further) := by
  intro sheet
  have marked := first sheet
  rcases outcome : operation.run sheet with ⟨cause | result, next⟩
  · rw [run_bind_error further outcome]
    rwa [outcome] at marked
  · rw [run_bind_ok further outcome]
    rw [outcome] at marked
    exact marked.trans (rest result next)

theorem marks_pure (result : α) : Marks (pure result) := Marked.refl

theorem marks_throw (cause : SheetError) : Marks (throw cause : SheetM α) := Marked.refl

theorem marks_get : Marks get := Marked.refl

theorem marks_modify {change : Sheet → Sheet}
    (kept : ∀ sheet : Sheet, sheet.Marked (change sheet)) : Marks (modify change) := kept

/-- A change of the document sets the mark. -/
theorem marks_edit (change : Document → Document × Journal) : Marks (modify (edit change)) :=
  marks_modify fun _ =>
    ⟨rfl, fun unmodified => Bool.noConfusion unmodified,
      fun unmodified => Bool.noConfusion unmodified⟩

theorem Marks.discard {operation : SheetM α} (marks : Marks operation) :
    Marks (discard operation) :=
  marks.bind fun _ => marks_pure _

theorem Marks.ite {operation : SheetM Unit} (marks : Marks operation) (condition : Prop)
    [Decidable condition] : Marks (if condition then operation else pure ()) := by
  split
  · exact marks
  · exact marks_pure ()

theorem Marks.forM {operation : α → SheetM Unit} (each : ∀ input, Marks (operation input))
    (inputs : List α) : Marks (inputs.forM operation) := by
  induction inputs with
  | nil => exact marks_pure ()
  | cons input inputs ih => exact (each input).bind fun _ => ih

theorem Marks.mapM {operation : α → SheetM β} (each : ∀ input, Marks (operation input))
    (inputs : List α) : Marks (inputs.mapM operation) := by
  induction inputs with
  | nil => exact marks_pure []
  | cons input inputs ih =>
    rw [List.mapM_cons]
    exact (each input).bind fun _ => ih.bind fun _ => marks_pure _

theorem marks_getCell (cell : CellRef) : Marks (getCell cell) := by
  refine marks_get.bind fun sheet => ?_
  cases sheet.cell? cell with
  | none => exact marks_throw _
  | some content => exact marks_pure content

theorem marks_setText (cell : CellRef) (text : String) : Marks (setText cell text) :=
  (marks_getCell cell).bind fun _ => (marks_edit _).ite _

theorem marks_setBgColor (cell : CellRef) (color : Color) : Marks (setBgColor cell color) :=
  (marks_getCell cell).bind fun _ => (marks_edit _).ite _

theorem marks_clear : Marks clear :=
  marks_get.bind fun _ =>
    (Marks.forM (fun cell => (marks_setBgColor cell _).bind fun _ => marks_setText cell _) _).bind
      fun _ => marks_modify fun _ => ⟨rfl, id, fun _ => rfl⟩

theorem marks_apply (direction : Direction) (command : Command) :
    Marks (apply direction command) := by
  refine Marks.forM (fun edit => ?_) _
  cases edit <;> cases direction
  · exact marks_setText _ _
  · exact marks_setText _ _
  · exact marks_setBgColor _ _
  · exact marks_setBgColor _ _

theorem marks_execute (command : Command) : Marks (execute command) :=
  (Marks.forM (fun cell => (marks_getCell cell).discard) _).bind fun _ =>
    (marks_apply .forward command).bind fun _ => marks_modify fun _ => ⟨rfl, id, fun _ => rfl⟩

theorem marks_editText (cell : CellRef) (text : String) : Marks (editText cell text) :=
  (marks_getCell cell).bind fun _ => (marks_execute _).ite _

theorem marks_editBgColor (cell : CellRef) (color : Color) : Marks (editBgColor cell color) :=
  (marks_getCell cell).bind fun _ => (marks_execute _).ite _

theorem marks_editBgColorMany (cells : List CellRef) (color : Color) :
    Marks (editBgColorMany cells color) :=
  (Marks.mapM (fun cell => (marks_getCell cell).bind fun _ => marks_pure _) cells).bind
    fun _ => (marks_execute _).ite _

/-- A command is taken from one stack, applied and put on another. -/
theorem Marked.replay {sheet popped : Sheet} (taken : sheet.Marked popped) (direction : Direction)
    (command : Command) {push : Sheet → Sheet}
    (pushes : ∀ sheet : Sheet, sheet.Marked (push sheet)) :
    sheet.Marked
      ((do set popped; apply direction command; modify push : SheetM Unit).run sheet).2 := by
  have rest : Marks (do apply direction command; modify push) :=
    (marks_apply direction command).bind fun _ => marks_modify pushes
  rw [run_bind_ok _ (run_set _)]
  exact taken.trans (rest popped)

theorem marks_undo : Marks undo := by
  intro sheet
  rw [undo, run_bind_ok _ run_get]
  split
  · exact Marked.refl sheet
  next command _ _ =>
    refine Marked.replay ?_ .backward command fun _ => ?_
    · exact ⟨rfl, id, fun _ => rfl⟩
    · exact ⟨rfl, id, fun _ => rfl⟩

theorem marks_redo : Marks redo := by
  intro sheet
  rw [redo, run_bind_ok _ run_get]
  split
  · exact Marked.refl sheet
  next command _ _ =>
    refine Marked.replay ?_ .forward command fun _ => ?_
    · exact ⟨rfl, id, fun _ => rfl⟩
    · exact ⟨rfl, id, fun _ => rfl⟩

theorem marks_clearHistory : Marks clearHistory :=
  marks_modify fun _ => ⟨rfl, id, fun _ => rfl⟩

theorem marks_loadRecords (records : List CellRecord) : Marks (loadRecords records) := by
  refine Marks.bind (Marks.forM (fun record => ?_) records) fun _ => marks_clear.bind fun _ =>
    Marks.bind (Marks.forM (fun record => ?_) records) fun _ =>
      Marks.bind (Marks.forM (fun record => ?_) records) fun _ => marks_clearHistory
  · exact (marks_getCell record.cell).discard
  · exact marks_setBgColor record.cell record.bgColor
  · exact marks_setText record.cell record.text

/-- **Every operation on a sheet marks whatever it writes.** -/
theorem marks_perform (action : Action) : Marks (perform action) := by
  cases action with
  | setText cell text => exact marks_setText cell text
  | setBgColor cell color => exact marks_setBgColor cell color
  | clear => exact marks_clear
  | editText cell text => exact marks_editText cell text
  | editBgColor cell color => exact marks_editBgColor cell color
  | editBgColorMany cells color => exact marks_editBgColorMany cells color
  | execute command => exact marks_execute command
  | undo => exact marks_undo
  | redo => exact marks_redo
  | clearHistory => exact marks_clearHistory
  | loadRecords records => exact marks_loadRecords records

end Marks

end Sheet

namespace Session

/-! ### What loading and saving give -/

section Files

variable {size : Dimensions} {session last : Session} {contents : Contents} {path : Path}

/-- Nothing is at a path, and nothing is written in the sheet. -/
def Vacant (size : Dimensions) (session : Session) (path : Path) : Prop :=
  session.files.contains path = false ∧
    session.sheet.document.grid.contents = Contents.blank size

/-- The records in the file at a path. -/
def readRecords (files : FileTree) (path : Path) : Except SheetError (List CellRecord) := do
  let text ← (files.readText path).mapError .file
  CellRecord.parse text

/-- The file at a path can be read, and a new sheet into which its records are loaded has the texts
and colors of the sheet. -/
def Stored (size : Dimensions) (session : Session) (path : Path) : Prop :=
  ∃ records, readRecords session.files path = .ok records ∧
    let outcome := (Sheet.loadRecords records).run (Sheet.blank size)
    outcome.1 = .ok () ∧ outcome.2.document.grid.contents = session.sheet.document.grid.contents

theorem readRecords_of_readText {files : FileTree} {text : String}
    (read : files.readText path = .ok text) : readRecords files path = CellRecord.parse text := by
  rw [readRecords, read]
  rfl

theorem exists_readText_of_readRecords {files : FileTree} {records : List CellRecord}
    (read : readRecords files path = .ok records) : ∃ text, files.readText path = .ok text := by
  unfold readRecords at read
  cases standing : files.readText path with
  | error cause => simp [standing, Except.mapError, bind, Except.bind] at read
  | ok text => exact ⟨text, rfl⟩

theorem stored_of_loaded {records : List CellRecord}
    (read : readRecords session.files path = .ok records)
    (inside : ∀ record ∈ records, record.cell.Inside size.rows size.columns)
    (written : session.sheet.document.grid.contents = Contents.loaded size records) :
    session.Stored size path := by
  have blank : (Sheet.blank size).document.Holds size (Contents.blank size) :=
    Document.holds_blank size
  obtain ⟨next, done, nextHolds, -⟩ := Sheet.run_loadRecords blank inside
  refine ⟨records, read, ?_⟩
  rw [done]
  exact ⟨rfl, nextHolds.contents.trans written.symm⟩

theorem of_run_onFiles {α : Type} {access : FileTree → Except FileError α} {result : α}
    (done : (onFiles access).run session = (.ok result, last)) :
    access session.files = .ok result ∧ session = last := by
  rw [run_onFiles] at done
  cases accessed : access session.files <;> rw [accessed] at done <;> cases done
  exact ⟨rfl, rfl⟩

theorem of_run_lift {α : Type} {outcome : Except SheetError α} {result : α}
    (done : (liftM outcome : SessionM α).run session = (.ok result, last)) :
    outcome = .ok result ∧ session = last := by
  cases outcome <;> cases done
  exact ⟨rfl, rfl⟩

theorem of_run_onSheet {operation : SheetM Unit}
    (done : (onSheet operation).run session = (.ok (), last)) :
    operation.run session.sheet = (.ok (), last.sheet) ∧ last.files = session.files := by
  have outcome : (onSheet operation).run session = ((operation.run session.sheet).1,
    ⟨session.files, (operation.run session.sheet).2⟩) := rfl
  obtain ⟨succeeded, rfl⟩ := Prod.mk.inj (outcome.symm.trans done)
  exact ⟨Prod.ext succeeded rfl, rfl⟩

/-- Loading reads the records of the file and gives them to the sheet. -/
theorem exists_of_run_loadFile (done : (loadFile path).run session = (.ok (), last)) :
    ∃ records next, readRecords session.files path = .ok records ∧
      (Sheet.loadRecords records).run session.sheet = (.ok (), next) ∧
        last = ⟨session.files, { next with path? := some path, modified := false }.note
          #[.loaded records.length path.shown]⟩ := by
  rw [loadFile] at done
  obtain ⟨text, opened, first, done⟩ := Sheet.exists_of_run_bind_ok done
  obtain ⟨read, rfl⟩ := of_run_onFiles first
  obtain ⟨records, taken, second, done⟩ := Sheet.exists_of_run_bind_ok done
  obtain ⟨parsed, rfl⟩ := of_run_lift second
  obtain ⟨_, replaced, third, done⟩ := Sheet.exists_of_run_bind_ok done
  obtain ⟨loaded, kept⟩ := of_run_onSheet third
  refine ⟨records, replaced.sheet, ?_, loaded, ?_⟩
  · rw [readRecords_of_readText read, parsed]
  · rw [← kept]
    exact (congrArg Prod.snd done).symm

/-- A sheet that has been loaded is what its file holds. -/
theorem stored_of_run_loadFile (holds : session.sheet.document.Holds size contents)
    (done : (loadFile path).run session = (.ok (), last)) :
    last.sheet.path? = some path ∧ last.Stored size path := by
  obtain ⟨records, next, read, loaded, rfl⟩ := exists_of_run_loadFile done
  obtain ⟨inside, nextHolds⟩ := Sheet.loaded_of_run_loadRecords holds loaded
  exact ⟨rfl, stored_of_loaded read inside nextHolds.contents⟩

/-- The sheet after it has been saved to a path. -/
def saved (sheet : Sheet) (path : Path) : Sheet :=
  { sheet with modified := false }.note #[.saved sheet.records.length path.shown]

theorem run_saveFile_of_none (unknown : session.sheet.path? = none) :
    saveFile.run session = (.error .noFilePath, session) := by
  rw [saveFile, Sheet.run_bind_ok _ Sheet.run_get]
  dsimp only
  rw [unknown]
  rfl

/-- Saving writes the records of the sheet to its path, or changes nothing. -/
theorem run_saveFile (known : session.sheet.path? = some path) : saveFile.run session =
    match session.files.writeText path (CellRecord.document session.sheet.records) with
    | .ok files => (.ok path, ⟨files, saved session.sheet path⟩)
    | .error cause => (.error (.file cause), session) := by
  have writes := run_onFiles
    (fun files => files.writeText path (CellRecord.document session.sheet.records)) session
  rw [saveFile, Sheet.run_bind_ok _ Sheet.run_get]
  dsimp only
  rw [known]
  cases written : session.files.writeText path (CellRecord.document session.sheet.records) with
  | ok files =>
    rw [written] at writes
    exact Sheet.run_bind_ok _ writes
  | error cause =>
    rw [written] at writes
    exact Sheet.run_bind_error _ writes

theorem run_saveFile_of_ok (known : session.sheet.path? = some path) {files : FileTree}
    (written :
      session.files.writeText path (CellRecord.document session.sheet.records) = .ok files) :
    saveFile.run session = (.ok path, ⟨files, saved session.sheet path⟩) := by
  rw [run_saveFile known, written]

theorem run_saveFile_of_error (known : session.sheet.path? = some path) {cause : FileError}
    (refused :
      session.files.writeText path (CellRecord.document session.sheet.records) = .error cause) :
    saveFile.run session = (.error (.file cause), session) := by
  rw [run_saveFile known, refused]

/-- The session after its sheet has been given another path. -/
def renamed (session : Session) (path : Path) : Session :=
  ⟨session.files, { session.sheet with path? := some path }⟩

/-- Saving under another path is saving once the path has been changed. -/
theorem run_saveAs (session : Session) (path : Path) :
    (perform (.saveAs path)).run session = (perform .saveFile).run (session.renamed path) := rfl

theorem run_saveAs_of_ok {files : FileTree}
    (written :
      session.files.writeText path (CellRecord.document session.sheet.records) = .ok files) :
    (perform (.saveAs path)).run session =
      (.ok (), ⟨files, saved (session.renamed path).sheet path⟩) := by
  have known : (session.renamed path).sheet.path? = some path := rfl
  rw [run_saveAs]
  exact Sheet.run_bind_ok _ (run_saveFile_of_ok known written)

/-- The path stays the other one if it is not possible to save there. -/
theorem run_saveAs_of_error {cause : FileError}
    (refused :
      session.files.writeText path (CellRecord.document session.sheet.records) = .error cause) :
    (perform (.saveAs path)).run session = (.error (.file cause), session.renamed path) := by
  have known : (session.renamed path).sheet.path? = some path := rfl
  rw [run_saveAs]
  exact Sheet.run_bind_error _ (run_saveFile_of_error known refused)

/-- A sheet that has been saved is what its file holds. -/
theorem stored_saved (valid : size.Valid) {sheet : Sheet} {former files : FileTree}
    (holds : sheet.document.Holds size contents)
    (written : former.writeText path (CellRecord.document sheet.records) = .ok files) :
    Stored size ⟨files, saved sheet path⟩ path := by
  have inside (record : CellRecord) (member : record ∈ sheet.records) :=
    Sheet.inside_of_mem_records holds member
  have read : readRecords files path = .ok sheet.records := by
    rw [readRecords_of_readText (FileTree.readText_of_writeText written)]
    exact CellRecord.parse_document fun record member =>
      Sheet.named_of_inside valid (inside record member)
  exact stored_of_loaded read inside (holds.contents.trans (Sheet.loaded_records holds).symm)

end Files

/-! ### Runs -/

/-- An action on a session fails. -/
def fails (session : Session) (action : Action) : Bool :=
  !((perform action).run session).1.isOk

/-- Whether the sheet goes by a path that it was not saved to, after an action: this begins when
saving under another path fails, and ends when the sheet is loaded or saved. -/
def astrayAfter (session : Session) (astray : Bool) (action : Action) : Bool :=
  match action with
  | .edit _ => astray
  | .loadFile _ | .saveFile => astray && session.fails action
  | .saveAs _ => session.fails action

/-- Whether the sheet goes by a path that it was not saved to, after a run of actions. -/
def astrayAfterAll (session : Session) (astray : Bool) : List Action → Bool
  | [] => astray
  | action :: actions =>
    (session.after action).astrayAfterAll (session.astrayAfter astray action) actions

/-- What is known of the file of a sheet in the course of a run. -/
structure Tracked (size : Dimensions) (astray : Bool) (session : Session) : Prop where
  tidy : session.sheet.Tidy size
  matched : astray = false → session.sheet.modified = false → ∀ path,
    session.sheet.path? = some path → session.Vacant size path ∨ session.Stored size path
  unread : astray = true → ∀ path, session.sheet.path? = some path →
    ∀ text, session.files.readText path ≠ .ok text

namespace Tracked

variable {size : Dimensions} {session : Session} {astray : Bool}

/-- A sheet that has been loaded or saved is on track. -/
theorem of_stored {path : Path} (tidy : session.sheet.Tidy size)
    (known : session.sheet.path? = some path) (stored : session.Stored size path) :
    Tracked size false session where
  tidy := tidy
  matched _ _ other same := by
    obtain rfl : path = other := Option.some.inj (known.symm.trans same)
    exact .inr stored
  unread strayed := Bool.noConfusion strayed

theorem edit (tracked : Tracked size astray session) (action : Sheet.Action) :
    Tracked size astray (session.after (.edit action)) := by
  -- Without the mark nothing has been written, and the file is as it was.
  have marked := Sheet.marks_perform action session.sheet
  refine ⟨keeps_onSheet action session tracked.tidy, ?_, ?_⟩
  · intro straight unmodified path known
    have matched := tracked.matched straight (marked.earlier unmodified) path
      (marked.path.symm.trans known)
    have contents : (session.after (.edit action)).sheet.document.grid.contents =
      session.sheet.document.grid.contents := marked.contents unmodified
    unfold Vacant Stored
    rw [contents]
    exact matched
  · intro strayed path known
    exact tracked.unread strayed path (marked.path.symm.trans known)

/-- A sheet is as it was tracked if loading or saving it has failed. -/
theorem of_failure (tracked : Tracked size astray session) {cause : SheetError} {action : Action}
    (failed : (perform action).run session = (.error cause, session)) :
    Tracked size (astray && session.fails action) (session.after action) := by
  have fails : session.fails action = true := by rw [Session.fails, failed]; rfl
  have same : session.after action = session := congrArg Prod.snd failed
  rwa [fails, same, Bool.and_true]

theorem of_success {action : Action} {next : Session}
    (done : (perform action).run session = (.ok (), next)) (tracked : Tracked size false next) :
    session.fails action = false ∧ Tracked size false (session.after action) := by
  have fails : session.fails action = false := by rw [Session.fails, done]; rfl
  have same : session.after action = next := congrArg Prod.snd done
  exact ⟨fails, same ▸ tracked⟩

theorem loadFile (tracked : Tracked size astray session) (path : Path) :
    Tracked size (session.astrayAfter astray (.loadFile path))
      (session.after (.loadFile path)) := by
  have tidy := keeps_perform (.loadFile path) session tracked.tidy
  obtain ⟨contents, holds⟩ := tracked.tidy.sound.holds
  rcases outcome : (perform (.loadFile path)).run session with ⟨cause | ⟨⟩, next⟩
  · obtain rfl : next = session := by
      have same := failsCleanly_loadFile path session tracked.tidy cause (congrArg Prod.fst outcome)
      exact (congrArg Prod.snd outcome).symm.trans same
    exact tracked.of_failure outcome
  · obtain ⟨known, stored⟩ := stored_of_run_loadFile holds outcome
    rw [outcome] at tidy
    obtain ⟨fails, loaded⟩ := of_success outcome (of_stored tidy known stored)
    rwa [astrayAfter, fails, Bool.and_false]

theorem of_saved (valid : size.Valid) {sheet : Sheet} {former files : FileTree} {path : Path}
    (tidy : sheet.Tidy size) (known : sheet.path? = some path)
    (written : former.writeText path (CellRecord.document sheet.records) = .ok files) :
    Tracked size false ⟨files, saved sheet path⟩ := by
  obtain ⟨contents, holds⟩ := tidy.sound.holds
  exact of_stored (tidy.congr rfl rfl rfl) known (stored_saved valid holds written)

theorem saveFile (valid : size.Valid) (tracked : Tracked size astray session) :
    Tracked size (session.astrayAfter astray .saveFile) (session.after .saveFile) := by
  cases known : session.sheet.path? with
  | none => exact tracked.of_failure (Sheet.run_bind_error _ (run_saveFile_of_none known))
  | some path =>
    cases written : session.files.writeText path (CellRecord.document session.sheet.records) with
    | ok files =>
      have done : (perform .saveFile).run session = (.ok (), ⟨files, saved session.sheet path⟩) :=
        Sheet.run_bind_ok _ (run_saveFile_of_ok known written)
      obtain ⟨fails, saved⟩ := of_success done (of_saved valid tracked.tidy known written)
      rwa [astrayAfter, fails, Bool.and_false]
    | error cause =>
      exact tracked.of_failure (Sheet.run_bind_error _ (run_saveFile_of_error known written))

/-- Where a sheet cannot be saved nothing can be read, so it goes astray if that is its path now. -/
theorem saveAs (valid : size.Valid) (tracked : Tracked size astray session) (path : Path) :
    Tracked size (session.astrayAfter astray (.saveAs path)) (session.after (.saveAs path)) := by
  have tidy : (session.renamed path).sheet.Tidy size := tracked.tidy.congr rfl rfl rfl
  cases written : session.files.writeText path (CellRecord.document session.sheet.records) with
  | ok files =>
    obtain ⟨fails, saved⟩ := of_success (run_saveAs_of_ok written) (of_saved valid tidy rfl written)
    rwa [astrayAfter, fails]
  | error cause =>
    have failed := run_saveAs_of_error written
    have fails : session.fails (.saveAs path) = true := by rw [fails, failed]; rfl
    have after : session.after (.saveAs path) = session.renamed path := congrArg Prod.snd failed
    rw [astrayAfter, fails, after]
    refine ⟨tidy, fun straight => Bool.noConfusion straight, fun _ other known => ?_⟩
    obtain rfl : path = other := Option.some.inj known
    exact FileTree.not_readText_of_writeText written

/-- **One step.** Whatever the action, it keeps track of what the file holds. -/
theorem after (valid : size.Valid) (tracked : Tracked size astray session) (action : Action) :
    Tracked size (session.astrayAfter astray action) (session.after action) := by
  cases action with
  | edit action => exact tracked.edit action
  | loadFile path => exact tracked.loadFile path
  | saveFile => exact tracked.saveFile valid
  | saveAs path => exact tracked.saveAs valid path

theorem afterAll (valid : size.Valid) (tracked : Tracked size astray session)
    (actions : List Action) :
    Tracked size (session.astrayAfterAll astray actions) (session.afterAll actions) := by
  induction actions generalizing session astray with
  | nil => exact tracked
  | cons action actions ih => exact ih (tracked.after valid action)

/-- A new sheet is on track: its file has been loaded, or there is none. -/
theorem of_start {path? : Option Path} {files : FileTree}
    (started : start size path? files = .ok session) : Tracked size false session := by
  have tidy := Sheet.tidy_start started
  obtain ⟨-, opened⟩ := opened_of_start started
  cases path? with
  | none =>
    obtain rfl : ⟨files, Sheet.blank size⟩ = session := congrArg Prod.snd opened
    exact ⟨tidy, fun _ _ _ known => (nomatch known), fun strayed => Bool.noConfusion strayed⟩
  | some path =>
    have opened : (openFile path).run ⟨files, Sheet.blank size⟩ = (.ok (), session) := opened
    rw [openFile, Sheet.run_bind_ok _ Sheet.run_get] at opened
    have blank := Document.holds_blank size
    split at opened
    next =>
      obtain ⟨known, stored⟩ := stored_of_run_loadFile blank opened
      exact of_stored tidy known stored
    next absent =>
      obtain rfl := congrArg Prod.snd opened
      refine ⟨tidy, fun _ _ other known => ?_, fun strayed => Bool.noConfusion strayed⟩
      obtain rfl : path = other := Option.some.inj known
      exact .inl ⟨Bool.eq_false_iff.mpr absent, blank.contents⟩

end Tracked

section Unmodified

variable {size : Dimensions} {path? : Option Path} {files : FileTree} {session : Session}

theorem exists_after_setText {contents : Contents}
    (holds : session.sheet.document.Holds size contents) {cell : CellRef}
    (inside : cell.Inside size.rows size.columns) (text : String) :
    ∃ typed, session.after (.edit (.setText cell text)) = ⟨session.files, typed⟩ ∧
      typed.document.Holds size (contents.setText cell text) := by
  obtain ⟨typed, done, typedHolds, -⟩ :=
    Sheet.writes_setText contents inside text session.sheet holds
  refine ⟨typed, ?_, typedHolds⟩
  exact congrArg (fun outcome : Except SheetError Unit × Sheet => Session.mk _ outcome.2) done

/-- **A sheet that is not modified is what its file holds**, unless it has gone astray. Whatever has
been done to a sheet, if it counts as not modified and has a path, either nothing is at the path and
nothing is written in the sheet, or the file at the path can be read and holds what is written in
the sheet. Only after saving under another path has failed, and until the sheet is loaded or saved,
is this otherwise: then nothing can be read at the path, whatever is written in the sheet. -/
theorem unmodified_iff (started : start size path? files = .ok session) (actions : List Action)
    {path : Path} (unmodified : (session.afterAll actions).sheet.modified = false)
    (known : (session.afterAll actions).sheet.path? = some path) :
    ((session.afterAll actions).Vacant size path ∨ (session.afterAll actions).Stored size path) ↔
      (session.astrayAfterAll false actions = true →
        (session.afterAll actions).Vacant size path) := by
  have valid := (opened_of_start started).1
  have tracked := (Tracked.of_start started).afterAll valid actions
  cases strayed : session.astrayAfterAll false actions with
  | false =>
    rw [strayed] at tracked
    exact ⟨fun _ impossible => Bool.noConfusion impossible,
      fun _ => tracked.matched rfl unmodified path known⟩
  | true =>
    rw [strayed] at tracked
    constructor
    · rintro (vacant | ⟨records, read, -⟩) -
      · exact vacant
      · obtain ⟨text, standing⟩ := exists_readText_of_readRecords read
        exact absurd standing (tracked.unread rfl path known text)
    · exact fun vacant => .inl (vacant rfl)

/-- A text is typed and the sheet is saved. -/
theorem unmodified_iff_saved :
    let session : Session := ⟨.blank [] [], Sheet.blank ⟨2, 2⟩⟩
    let path : Path := ⟨.home, "s.xml"⟩
    let last := session.afterAll [.edit (.setText ⟨0, 0⟩ "7"), .saveAs path]
    start ⟨2, 2⟩ none (.blank [] []) = .ok session ∧ last.sheet.modified = false ∧
      last.sheet.path? = some path ∧ (last.Vacant ⟨2, 2⟩ path ∨ last.Stored ⟨2, 2⟩ path) := by
  intro session path last
  have started : start ⟨2, 2⟩ none (.blank [] []) = .ok session := rfl
  have writable (text : String) : (FileTree.blank [] []).writeText ⟨.home, "s.xml"⟩ text =
    .ok ((FileTree.blank [] []).put ["s.xml"] (.file text.toUTF8)) := rfl
  have blank : session.sheet.document.Holds ⟨2, 2⟩ (Contents.blank ⟨2, 2⟩) :=
    Document.holds_blank ⟨2, 2⟩
  obtain ⟨typed, first, -⟩ :=
    exists_after_setText blank (show (⟨0, 0⟩ : CellRef).Inside 2 2 by decide) "7"
  have second : (perform (.saveAs path)).run ⟨session.files, typed⟩ = _ :=
    run_saveAs_of_ok (writable _)
  have reached : last = _ :=
    (congrArg (Session.after · (.saveAs path)) first).trans (congrArg Prod.snd second)
  have unmodified : last.sheet.modified = false := by rw [reached]; rfl
  have known : last.sheet.path? = some path := by rw [reached]; rfl
  refine ⟨started, unmodified, known, ?_⟩
  refine (unmodified_iff started _ unmodified known).mpr fun strayed => ?_
  have strayed : (session.after (.edit (.setText ⟨0, 0⟩ "7"))).fails (.saveAs path) = true :=
    strayed
  rw [first, fails, second] at strayed
  exact Bool.noConfusion strayed

/-- A text is typed and the sheet is saved, but then it cannot be saved under another path. It
counts as not modified, and nothing is at its path. -/
theorem unmodified_astray :
    let session : Session := ⟨.blank [] [], Sheet.blank ⟨2, 2⟩⟩
    let path : Path := ⟨.home, "missing/s.xml"⟩
    let last := session.afterAll
      [.edit (.setText ⟨0, 0⟩ "7"), .saveAs ⟨.home, "s.xml"⟩, .saveAs path]
    start ⟨2, 2⟩ none (.blank [] []) = .ok session ∧ last.sheet.modified = false ∧
      last.sheet.path? = some path ∧ ¬ (last.Vacant ⟨2, 2⟩ path ∨ last.Stored ⟨2, 2⟩ path) := by
  intro session path last
  have writable (text : String) : (FileTree.blank [] []).writeText ⟨.home, "s.xml"⟩ text =
    .ok ((FileTree.blank [] []).put ["s.xml"] (.file text.toUTF8)) := rfl
  have refused (saved text : String) : ((FileTree.blank [] []).put ["s.xml"]
    (.file saved.toUTF8)).writeText ⟨.home, "missing/s.xml"⟩ text = .error .notFound := rfl
  have blank : session.sheet.document.Holds ⟨2, 2⟩ (Contents.blank ⟨2, 2⟩) :=
    Document.holds_blank ⟨2, 2⟩
  obtain ⟨typed, first, holds⟩ :=
    exists_after_setText blank (show (⟨0, 0⟩ : CellRef).Inside 2 2 by decide) "7"
  let files := (FileTree.blank [] []).put ["s.xml"]
    (.file (CellRecord.document typed.records).toUTF8)
  obtain ⟨sheet, second, unmodified, document⟩ : ∃ sheet,
      (Session.mk session.files typed).after (.saveAs ⟨.home, "s.xml"⟩) = ⟨files, sheet⟩ ∧
        sheet.modified = false ∧ sheet.document = typed.document :=
    ⟨_, congrArg Prod.snd (run_saveAs_of_ok (writable _)), rfl, rfl⟩
  have reached : last = (Session.mk files sheet).renamed path := by
    change ((session.after _).after _).after _ = _
    rw [first, second]
    exact congrArg Prod.snd (run_saveAs_of_error (refused _ _))
  rw [reached]
  refine ⟨rfl, unmodified, rfl, ?_⟩
  rintro (⟨-, vacant⟩ | ⟨records, read, -⟩)
  · have vacant : sheet.document.grid.contents = Contents.blank ⟨2, 2⟩ := vacant
    rw [document, holds.contents] at vacant
    have seven := congrFun vacant ⟨0, 0⟩
    simp [Contents.setText, Contents.modify_eq, Contents.blank, CellRef.Inside] at seven
  · obtain ⟨text, standing⟩ := exists_readText_of_readRecords read
    exact FileTree.not_readText_of_writeText (refused _ "") text standing

end Unmodified

end Session

end Worksheet
