import Worksheet.Proofs.Sheet.Reachable

/-!
# The timeline of a sheet

Edited, undone and done again, a sheet behaves as if it kept whole snapshots in a list with a
cursor. An edit that changes something drops the snapshots after the cursor and takes a new one;
undoing and doing again move the cursor. The sheet itself keeps commands only, which say what each
edit replaced.

Between neighbours of the timeline there is one command, which leads from each of them to the other
if it is applied in the right direction. It restores what is written, and with that everything that
the sheet displayed when the snapshot was taken.
-/

namespace Worksheet

/-- What a sheet shows at one time: the texts and colors, the displayed values, and the cells that
each cell refers to. -/
structure Snapshot where
  contents : Contents
  value : CellRef → Option String
  references : CellRef → List CellRef

namespace Sheet

/-- The snapshot of a sheet as it is. -/
def snapshot (sheet : Sheet) : Snapshot where
  contents := sheet.document.grid.contents
  value cell := (sheet.cell? cell).map Cell.value
  references := sheet.document.graph.references

end Sheet

/-- The operations that a timeline follows: edits, several colors in one step, the way back and
forth, and those after which no edit can be undone. -/
inductive Gesture where
  | editText (cell : CellRef) (text : String)
  | editBgColor (cell : CellRef) (color : Color)
  | editBgColorMany (cells : List CellRef) (color : Color)
  | undo
  | redo
  | clearHistory
  | loadRecords (records : List CellRecord)

/-- The operation on a sheet. -/
def Gesture.action : Gesture → Sheet.Action
  | editText cell text => .editText cell text
  | editBgColor cell color => .editBgColor cell color
  | editBgColorMany cells color => .editBgColorMany cells color
  | undo => .undo
  | redo => .redo
  | clearHistory => .clearHistory
  | loadRecords records => .loadRecords records

/-- A list of snapshots with a cursor. The nearest snapshots stand first on both sides. -/
structure Timeline where
  past : List Snapshot
  present : Snapshot
  future : List Snapshot

namespace Timeline

/-- The timeline that begins with a snapshot. -/
def start (present : Snapshot) : Timeline := ⟨[], present, []⟩

open Classical in
/-- An edit that changes nothing leaves the timeline as it is. Any other one drops the snapshots
after the cursor, and the oldest one if there are more than a hundred before it. -/
noncomputable def edit (take : Contents → Snapshot) (timeline : Timeline) (latter : Contents) :
    Timeline :=
  if latter = timeline.present.contents then timeline
  else ⟨(timeline.present :: timeline.past).take 100, take latter, []⟩

/-- The timeline after a gesture, unless it fails. How a snapshot of new contents is taken is left
open. -/
noncomputable def perform (size : Dimensions) (take : Contents → Snapshot) (timeline : Timeline) :
    Gesture → Except SheetError Timeline
  | .editText cell text =>
    if cell.Inside size.rows size.columns then
      .ok (timeline.edit take (timeline.present.contents.setText cell text))
    else .error (.outOfBounds cell)
  | .editBgColor cell color =>
    if cell.Inside size.rows size.columns then
      .ok (timeline.edit take (timeline.present.contents.setColor cell color))
    else .error (.outOfBounds cell)
  | .editBgColorMany cells color =>
    match Sheet.firstOutside? size cells with
    | none => .ok (timeline.edit take (timeline.present.contents.paint cells color))
    | some cell => .error (.outOfBounds cell)
  | .undo =>
    match timeline.past with
    | former :: past => .ok ⟨past, former, timeline.present :: timeline.future⟩
    | [] => .error .nothingToUndo
  | .redo =>
    match timeline.future with
    | next :: future => .ok ⟨timeline.present :: timeline.past, next, future⟩
    | [] => .error .nothingToRedo
  | .clearHistory => .ok (start timeline.present)
  | .loadRecords records =>
    match Sheet.firstOutside? size (records.map CellRecord.cell) with
    | none => .ok (start (take (Contents.loaded size records)))
    | some cell => .error (.outOfBounds cell)

/-- The snapshot of new contents, with the values and the references that a sheet shows. -/
def photograph (sheet : Sheet) (contents : Contents) : Snapshot :=
  { sheet.snapshot with contents }

/-- The timeline after a gesture that leaves a sheet behind. If the gesture fails, the timeline
stays as it was. -/
noncomputable def after (size : Dimensions) (sheet : Sheet) (timeline : Timeline)
    (gesture : Gesture) : Timeline :=
  match timeline.perform size (photograph sheet) gesture with
  | .ok moved => moved
  | .error _ => timeline

/-- The timeline after a run on a sheet. -/
noncomputable def afterAll (size : Dimensions) (sheet : Sheet) (timeline : Timeline) :
    List Gesture → Timeline
  | [] => timeline
  | gesture :: gestures =>
    let next := sheet.after gesture.action
    (timeline.after size next gesture).afterAll size next gestures

end Timeline

/-! ### Snapshots and the commands between them -/

/-- Every sheet in which the contents of a snapshot are written shows the whole snapshot. -/
def Snapshot.Genuine (size : Dimensions) (snapshot : Snapshot) : Prop :=
  ∀ sheet : Sheet, sheet.document.Holds size snapshot.contents → sheet.snapshot = snapshot

section Snapshot

variable {size : Dimensions} {sheet other : Sheet} {contents : Contents}

theorem Sheet.snapshot_congr (holds : sheet.document.Holds size contents)
    (otherHolds : other.document.Holds size contents) : sheet.snapshot = other.snapshot := by
  have grid := holds.grid_eq otherHolds
  have references : sheet.document.graph.references = other.document.graph.references := by
    funext cell
    exact (holds.consistent.wired.graph_congr otherHolds.consistent.wired
      (holds.sameTexts otherHolds) cell).1
  unfold snapshot cell?
  rw [grid, references]

theorem Timeline.photograph_eq (holds : sheet.document.Holds size contents) :
    photograph sheet contents = sheet.snapshot := by
  unfold photograph Sheet.snapshot
  rw [holds.contents]

theorem Sheet.genuine_snapshot (holds : sheet.document.Holds size contents) :
    sheet.snapshot.Genuine size := by
  intro other otherHolds
  rw [snapshot, holds.contents] at otherHolds
  exact snapshot_congr otherHolds holds

end Snapshot

/-- From the contents at the cursor commands lead on through snapshots, and back again. -/
inductive Trail (size : Dimensions) (there back : Direction) :
    Contents → List Command → List Snapshot → Prop where
  | nil {contents : Contents} : Trail size there back contents [] []
  | cons {contents : Contents} {command : Command} {commands : List Command} {snapshot : Snapshot}
      {snapshots : List Snapshot} (fits : command.Fits size) (genuine : snapshot.Genuine size)
      (leads : contents.apply there command = snapshot.contents)
      (returns : snapshot.contents.apply back command = contents)
      (further : Trail size there back snapshot.contents commands snapshots) :
      Trail size there back contents (command :: commands) (snapshot :: snapshots)

theorem Trail.length_eq {size : Dimensions} {there back : Direction} {contents : Contents}
    {commands : List Command} {snapshots : List Snapshot}
    (trail : Trail size there back contents commands snapshots) :
    commands.length = snapshots.length := by
  induction trail with
  | nil => rfl
  | cons _ _ _ _ _ ih => rw [List.length_cons, List.length_cons, ih]

/-- The beginning of a trail is a trail. -/
theorem Trail.take {size : Dimensions} {there back : Direction} {contents : Contents}
    {commands : List Command} {snapshots : List Snapshot}
    (trail : Trail size there back contents commands snapshots) (count : Nat) :
    Trail size there back contents (commands.take count) (snapshots.take count) := by
  induction trail generalizing count with
  | nil => simpa using Trail.nil
  | cons fits genuine leads returns _ ih =>
    cases count with
    | zero => exact .nil
    | succ count => exact .cons fits genuine leads returns (ih count)

/-- A sheet shows the snapshot at the cursor, and its stacks lead to those before and after it. -/
structure Tracks (size : Dimensions) (sheet : Sheet) (timeline : Timeline) : Prop where
  holds : sheet.document.Holds size timeline.present.contents
  shows : sheet.snapshot = timeline.present
  past : Trail size .backward .forward timeline.present.contents sheet.undoStack timeline.past
  future : Trail size .forward .backward timeline.present.contents sheet.redoStack timeline.future
  short : timeline.past.length + timeline.future.length ≤ 100

namespace Tracks

open Timeline (photograph)

variable {size : Dimensions} {sheet : Sheet} {timeline : Timeline}

/-- A sheet with empty stacks stands at the beginning of its timeline. -/
theorem start {contents : Contents} (holds : sheet.document.Holds size contents)
    (noUndo : sheet.undoStack = []) (noRedo : sheet.redoStack = []) :
    Tracks size sheet (.start sheet.snapshot) := by
  refine ⟨?_, rfl, noUndo ▸ .nil, noRedo ▸ .nil, by simp [Timeline.start]⟩
  have same : sheet.snapshot.contents = contents := holds.contents
  rw [Timeline.start, same]
  exact holds

theorem genuine_present (tracks : Tracks size sheet timeline) : timeline.present.Genuine size :=
  tracks.shows ▸ Sheet.genuine_snapshot tracks.holds

/-- An edit that is recorded takes a new snapshot. -/
theorem edit (tracks : Tracks size sheet timeline) {latter : Contents} {command : Command}
    {outcome : Except SheetError Unit × Sheet}
    (recorded : Sheet.Recorded size sheet latter command outcome) (fits : command.Fits size)
    (leads : timeline.present.contents.apply .forward command = latter)
    (returns : latter.apply .backward command = timeline.present.contents)
    (new : latter ≠ timeline.present.contents) :
    Tracks size outcome.2 (timeline.edit (photograph outcome.2) latter) := by
  rw [Timeline.edit, if_neg new]
  -- Seen from the new contents, the command leads back to the former snapshot.
  have behind : Trail size .backward .forward latter (command :: sheet.undoStack)
      (timeline.present :: timeline.past) :=
    .cons fits tracks.genuine_present returns leads tracks.past
  refine ⟨recorded.holds, (Timeline.photograph_eq recorded.holds).symm, ?_, ?_, ?_⟩
  · have short := tracks.short
    have few : sheet.undoStack.length ≤ Sheet.maxUndo := by
      rw [tracks.past.length_eq]
      exact Nat.le_trans (Nat.le_add_right _ _) short
    rw [recorded.undoStack, Sheet.pushUndo_eq_take few]
    exact behind.take 100
  · rw [recorded.redoStack]
    exact .nil
  · rw [List.length_nil, Nat.add_zero, List.length_take]
    exact Nat.min_le_left _ _

/-- An edit that changes nothing takes none. -/
theorem edit_of_same (tracks : Tracks size sheet timeline) {take : Contents → Snapshot}
    {latter : Contents} (same : latter = timeline.present.contents) :
    Tracks size sheet (timeline.edit take latter) := by
  rwa [Timeline.edit, if_pos same]

theorem undo (tracks : Tracks size sheet timeline) {former : Snapshot} {past : List Snapshot}
    (earlier : timeline.past = former :: past) :
    ∃ next, Sheet.undo.run sheet = (.ok (), next) ∧
      Tracks size next ⟨past, former, timeline.present :: timeline.future⟩ := by
  have behind := tracks.past
  have short := tracks.short
  -- As there is an earlier snapshot, there is a command that leads to it.
  rw [earlier] at behind short
  generalize latest : sheet.undoStack = commands at behind
  cases behind with
  | cons fits genuine leads returns further =>
    obtain ⟨next, done, holds, undoNow, redoNow⟩ := Sheet.run_undo_cons tracks.holds latest fits
    rw [leads] at holds
    refine ⟨next, done, holds, genuine next holds, undoNow ▸ further, ?_, ?_⟩
    · rw [redoNow]
      exact .cons fits tracks.genuine_present returns leads tracks.future
    · simp only [List.length_cons] at short ⊢
      omega

theorem redo (tracks : Tracks size sheet timeline) {latter : Snapshot} {future : List Snapshot}
    (later : timeline.future = latter :: future) :
    ∃ next, Sheet.redo.run sheet = (.ok (), next) ∧
      Tracks size next ⟨timeline.present :: timeline.past, latter, future⟩ := by
  have ahead := tracks.future
  have short := tracks.short
  rw [later] at ahead short
  generalize latest : sheet.redoStack = commands at ahead
  cases ahead with
  | cons fits genuine leads returns further =>
    obtain ⟨next, done, holds, undoNow, redoNow⟩ := Sheet.run_redo_cons tracks.holds latest fits
    rw [leads] at holds
    refine ⟨next, done, holds, genuine next holds, ?_, redoNow ▸ further, ?_⟩
    · rw [undoNow]
      exact .cons fits tracks.genuine_present returns leads tracks.past
    · simp only [List.length_cons] at short ⊢
      omega

theorem undoStack_eq_nil (tracks : Tracks size sheet timeline) (first : timeline.past = []) :
    sheet.undoStack = [] := by
  have behind := tracks.past
  rw [first] at behind
  generalize sheet.undoStack = commands at behind
  cases behind
  rfl

theorem redoStack_eq_nil (tracks : Tracks size sheet timeline) (last : timeline.future = []) :
    sheet.redoStack = [] := by
  have ahead := tracks.future
  rw [last] at ahead
  generalize sheet.redoStack = commands at ahead
  cases ahead
  rfl

/-- A sheet does what its timeline does: it fails with the same error and stays as it is, or it
succeeds and follows. -/
def Follows (size : Dimensions) (sheet : Sheet) (outcome : Except SheetError Unit × Sheet) :
    Except SheetError Timeline → Prop
  | .ok moved => outcome.1 = .ok () ∧ Tracks size outcome.2 moved
  | .error cause => outcome = (.error cause, sheet)

theorem follows_editText (tracks : Tracks size sheet timeline) (cell : CellRef) (text : String) :
    Follows size sheet ((Sheet.editText cell text).run sheet)
      (timeline.perform size (photograph ((Sheet.editText cell text).run sheet).2)
        (.editText cell text)) := by
  have holds := tracks.holds
  rw [Timeline.perform]
  by_cases inside : cell.Inside size.rows size.columns
  · rw [if_pos inside]
    obtain ⟨content, -, here⟩ := holds.exists_get? inside
    by_cases new : content.text = text
    · have same := timeline.present.contents.setText_of_same cell here
      rw [← new, Sheet.run_editText_of_same holds inside here]
      exact ⟨rfl, tracks.edit_of_same same⟩
    · have recorded := Sheet.recorded_editText holds inside here new
      refine ⟨recorded.done, tracks.edit recorded (Command.fits_single _ inside) ?_ ?_ ?_⟩
      · rw [Contents.apply_single]
        rfl
      · rw [Contents.apply_single]
        exact timeline.present.contents.setText_setText cell here text
      · -- Another text of a cell is another sheet.
        intro same
        have typed := congrFun same cell
        rw [Contents.setText, Contents.modify_eq, if_pos rfl, here, Option.map_some] at typed
        exact new (congrArg Prod.fst (Option.some.inj typed)).symm
  · rw [if_neg inside]
    exact Sheet.run_editText_of_outside holds inside text

theorem follows_editBgColor (tracks : Tracks size sheet timeline) (cell : CellRef) (color : Color) :
    Follows size sheet ((Sheet.editBgColor cell color).run sheet)
      (timeline.perform size (photograph ((Sheet.editBgColor cell color).run sheet).2)
        (.editBgColor cell color)) := by
  have holds := tracks.holds
  rw [Timeline.perform]
  by_cases inside : cell.Inside size.rows size.columns
  · rw [if_pos inside]
    obtain ⟨content, -, here⟩ := holds.exists_get? inside
    by_cases new : content.bgColor = color
    · have same := timeline.present.contents.setColor_of_same cell here
      rw [← new, Sheet.run_editBgColor_of_same holds inside here]
      exact ⟨rfl, tracks.edit_of_same same⟩
    · have recorded := Sheet.recorded_editBgColor holds inside here new
      refine ⟨recorded.done, tracks.edit recorded (Command.fits_single _ inside) ?_ ?_ ?_⟩
      · rw [Contents.apply_single]
        rfl
      · rw [Contents.apply_single]
        exact timeline.present.contents.setColor_setColor cell here color
      · intro same
        have painted := congrFun same cell
        rw [Contents.setColor, Contents.modify_eq, if_pos rfl, here, Option.map_some] at painted
        exact new (congrArg Prod.snd (Option.some.inj painted)).symm
  · rw [if_neg inside]
    exact Sheet.run_editBgColor_of_outside holds inside color

theorem follows_editBgColorMany (tracks : Tracks size sheet timeline) (cells : List CellRef)
    (color : Color) :
    Follows size sheet ((Sheet.editBgColorMany cells color).run sheet)
      (timeline.perform size (photograph ((Sheet.editBgColorMany cells color).run sheet).2)
        (.editBgColorMany cells color)) := by
  have holds := tracks.holds
  rw [Timeline.perform]
  cases outside : Sheet.firstOutside? size cells with
  | some cell => exact Sheet.run_editBgColorMany_of_outside holds outside color
  | none =>
    have inside := Sheet.firstOutside?_eq_none_iff.mp outside
    by_cases none : timeline.present.contents.repaints cells color = []
    · have same := (timeline.present.contents.paint_eq_self_iff cells color).mpr none
      rw [Sheet.run_editBgColorMany_of_same holds inside none]
      exact ⟨rfl, tracks.edit_of_same same⟩
    · have recorded := Sheet.recorded_editBgColorMany holds inside none
      exact ⟨recorded.done, tracks.edit recorded
        (timeline.present.contents.fits_repaints cells color inside)
        (timeline.present.contents.apply_forward_repaints cells color)
        (timeline.present.contents.apply_backward_repaints cells color)
        fun same => none ((timeline.present.contents.paint_eq_self_iff cells color).mp same)⟩

theorem follows_loadRecords (tracks : Tracks size sheet timeline) (records : List CellRecord) :
    Follows size sheet ((Sheet.loadRecords records).run sheet)
      (timeline.perform size (photograph ((Sheet.loadRecords records).run sheet).2)
        (.loadRecords records)) := by
  rw [Timeline.perform]
  cases outside : Sheet.firstOutside? size (records.map CellRecord.cell) with
  | some cell => exact Sheet.run_loadRecords_of_outside tracks.holds outside
  | none =>
    have inside := Sheet.firstOutside?_eq_none_iff.mp outside
    obtain ⟨next, done, holds, undoNow, redoNow⟩ :=
      Sheet.run_loadRecords tracks.holds (List.forall_mem_map.mp inside)
    rw [done]
    refine ⟨rfl, ?_⟩
    rw [Timeline.photograph_eq holds]
    exact start holds undoNow redoNow

/-- **One gesture.** -/
theorem follows (tracks : Tracks size sheet timeline) (gesture : Gesture) :
    Follows size sheet ((Sheet.perform gesture.action).run sheet)
      (timeline.perform size (photograph (sheet.after gesture.action)) gesture) := by
  cases gesture with
  | editText cell text => exact tracks.follows_editText cell text
  | editBgColor cell color => exact tracks.follows_editBgColor cell color
  | editBgColorMany cells color => exact tracks.follows_editBgColorMany cells color
  | undo =>
    rw [Timeline.perform]
    cases earlier : timeline.past with
    | nil => exact Sheet.run_undo_nil (tracks.undoStack_eq_nil earlier)
    | cons former past =>
      obtain ⟨next, done, moved⟩ := tracks.undo earlier
      rw [Gesture.action, Sheet.perform, done]
      exact ⟨rfl, moved⟩
  | redo =>
    rw [Timeline.perform]
    cases later : timeline.future with
    | nil => exact Sheet.run_redo_nil (tracks.redoStack_eq_nil later)
    | cons latter future =>
      obtain ⟨next, done, moved⟩ := tracks.redo later
      rw [Gesture.action, Sheet.perform, done]
      exact ⟨rfl, moved⟩
  | clearHistory => exact ⟨rfl, tracks.holds, tracks.shows, .nil, .nil, Nat.zero_le 100⟩
  | loadRecords records => exact tracks.follows_loadRecords records

/-- The error of an operation is that of the timeline. -/
theorem outcome_eq (tracks : Tracks size sheet timeline) (gesture : Gesture) :
    ((Sheet.perform gesture.action).run sheet).1 =
      (timeline.perform size (photograph (sheet.after gesture.action)) gesture).map
        fun _ => () := by
  have follows := tracks.follows gesture
  cases performed : timeline.perform size (photograph (sheet.after gesture.action)) gesture with
  | ok moved =>
    rw [performed] at follows
    exact follows.1
  | error cause =>
    rw [performed] at follows
    rw [show (Sheet.perform gesture.action).run sheet = (.error cause, sheet) from follows]
    rfl

theorem after (tracks : Tracks size sheet timeline) (gesture : Gesture) :
    Tracks size (sheet.after gesture.action)
      (timeline.after size (sheet.after gesture.action) gesture) := by
  have follows := tracks.follows gesture
  rw [Timeline.after]
  cases performed : timeline.perform size (photograph (sheet.after gesture.action)) gesture with
  | ok moved =>
    rw [performed] at follows
    exact follows.2
  | error cause =>
    rw [performed] at follows
    have stays : sheet.after gesture.action = sheet := congrArg Prod.snd follows
    rwa [stays]

theorem afterAll (tracks : Tracks size sheet timeline) (gestures : List Gesture) :
    Tracks size (sheet.afterAll (gestures.map Gesture.action))
      (timeline.afterAll size sheet gestures) := by
  induction gestures generalizing sheet timeline with
  | nil => exact tracks
  | cons gesture gestures ih => exact ih (tracks.after gesture)

end Tracks

/-- **The timeline.** From any sheet without a history that can be reached, every run of edits,
undoing, doing again, forgetting and loading shows the snapshot at the cursor of the timeline that
the run describes: its texts and colors, and the values and references of the time when it was
taken. The next operation succeeds or fails as the timeline does, and no more than a hundred
snapshots are kept before the cursor. -/
theorem shows_timeline {size : Dimensions} {new : Sheet} (created : Sheet.create size = .ok new)
    (actions : List Sheet.Action) (noUndo : (new.afterAll actions).undoStack = [])
    (noRedo : (new.afterAll actions).redoStack = []) (gestures : List Gesture) :
    let first := new.afterAll actions
    let sheet := first.afterAll (gestures.map Gesture.action)
    let timeline := (Timeline.start first.snapshot).afterAll size first gestures
    sheet.snapshot = timeline.present ∧ timeline.past.length ≤ 100 ∧
      ∀ gesture : Gesture, ((Sheet.perform gesture.action).run sheet).1 =
        (timeline.perform size (Timeline.photograph (sheet.after gesture.action)) gesture).map
          fun _ => () := by
  intro first sheet timeline
  obtain ⟨contents, holds⟩ := (Sheet.sound_of_create created actions).holds
  have tracks : Tracks size sheet timeline := (Tracks.start holds noUndo noRedo).afterAll gestures
  refine ⟨tracks.shows, ?_, tracks.outcome_eq⟩
  exact Nat.le_trans (Nat.le_add_right _ _) tracks.short

/-- A cycle is closed and opened again by undoing. -/
theorem shows_opened_cycle :
    let first := Sheet.blank ⟨1, 1⟩
    let gestures : List Gesture :=
      [.editText ⟨0, 0⟩ "1", .editText ⟨0, 0⟩ "=A1", .undo]
    Sheet.create ⟨1, 1⟩ = .ok first ∧ first.undoStack = [] ∧ first.redoStack = [] ∧
      (first.afterAll (gestures.map Gesture.action)).snapshot =
        ((Timeline.start first.snapshot).afterAll ⟨1, 1⟩ first gestures).present := by
  intro first gestures
  have created : Sheet.create ⟨1, 1⟩ = .ok first := rfl
  exact ⟨created, rfl, rfl, (shows_timeline created [] rfl rfl gestures).1⟩

end Worksheet
