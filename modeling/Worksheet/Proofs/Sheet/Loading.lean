import Mathlib.Data.List.Induction
import Worksheet.Proofs.Sheet.Operations
import Worksheet.Sheet.Contents

/-!
# Loading records

Loading makes the sheet blank, gives all cells their colors and then their texts. For a cell that
several records name the last of them counts. Nothing of what stood in the sheet before is left: the
contents after loading follow from the records and the size alone, and with them all values and
references.
-/

namespace Worksheet

namespace Contents

/-- The last of some records that names a cell. -/
def lastRecord? (records : List CellRecord) (cell : CellRef) : Option CellRecord :=
  records.reverse.find? fun record => record.cell = cell

/-- What is written in a sheet that records have been loaded into. -/
def loaded (size : Dimensions) (records : List CellRecord) : Contents := fun cell =>
  if cell.Inside size.rows size.columns then
    match lastRecord? records cell with
    | some record => some (record.text, record.bgColor)
    | none => some ("", Color.default)
  else none

theorem lastRecord?_eq_some_iff {records : List CellRecord}
    (distinct : (records.map CellRecord.cell).Nodup) {cell : CellRef} {record : CellRecord} :
    lastRecord? records cell = some record ↔ record ∈ records ∧ record.cell = cell := by
  unfold lastRecord?
  constructor
  · intro found
    have named := List.find?_some found
    exact ⟨List.mem_reverse.mp (List.mem_of_find?_eq_some found), of_decide_eq_true named⟩
  · rintro ⟨member, named⟩
    cases found : records.reverse.find? fun record => record.cell = cell with
    | none =>
      have unnamed := List.find?_eq_none.mp found record (List.mem_reverse.mpr member)
      simp [named] at unnamed
    | some other =>
      -- Two records of one cell are one record.
      have standing := List.mem_reverse.mp (List.mem_of_find?_eq_some found)
      have namedToo := List.find?_some found
      have same : other.cell = record.cell := (of_decide_eq_true namedToo).trans named.symm
      rw [List.inj_on_of_nodup_map distinct standing member same]

/-- If no cell is named twice, the order of the records does not matter. -/
theorem loaded_perm (size : Dimensions) {records reordered : List CellRecord}
    (distinct : (records.map CellRecord.cell).Nodup) (same : records.Perm reordered) :
    loaded size records = loaded size reordered := by
  have reorderedDistinct := (same.map CellRecord.cell).nodup_iff.mp distinct
  have last (cell : CellRef) : lastRecord? records cell = lastRecord? reordered cell := by
    ext record
    rw [lastRecord?_eq_some_iff distinct, lastRecord?_eq_some_iff reorderedDistinct,
      same.mem_iff]
  funext cell
  rw [loaded, loaded, last]

/-- Of several changes of one cell the last one counts, if none looks at what it replaces. -/
theorem foldl_modify_records (change : CellRecord → String × Color → String × Color)
    (overrides : ∀ record former content, change record (change former content) =
      change record content) (records : List CellRecord) (contents : Contents) (cell : CellRef) :
    records.foldl (fun contents record => contents.modify record.cell (change record)) contents
        cell =
      match lastRecord? records cell with
      | some record => (contents cell).map (change record)
      | none => contents cell := by
  -- From the back, since the last record of a cell is the one that counts.
  induction records using List.reverseRecOn with
  | nil => rfl
  | append_singleton records record ih =>
    rw [List.foldl_append, List.foldl_cons, List.foldl_nil, modify_eq, lastRecord?,
      List.reverse_append, List.reverse_singleton, List.singleton_append, List.find?_cons]
    by_cases here : cell = record.cell
    · subst here
      simp only [if_true, decide_true]
      rw [ih]
      cases lastRecord? records record.cell with
      | none => rfl
      | some former =>
        rw [Option.map_map]
        exact congrArg (Option.map · (contents record.cell)) (funext (overrides record former))
    · simp only [here, Ne.symm here, if_false, decide_false]
      exact ih

/-- Colors first and texts then give each cell what its last record says. -/
theorem foldl_setText_foldl_setColor (size : Dimensions) (records : List CellRecord) :
    records.foldl (fun contents record => contents.setText record.cell record.text)
      (records.foldl (fun contents record => contents.setColor record.cell record.bgColor)
        (blank size)) = loaded size records := by
  funext cell
  have colors : records.foldl (fun contents record => contents.setColor record.cell record.bgColor)
      (blank size) cell = _ :=
    foldl_modify_records (fun record content => (content.1, record.bgColor)) (fun _ _ _ => rfl)
      records (blank size) cell
  refine (foldl_modify_records (fun record content => (record.text, content.2)) (fun _ _ _ => rfl)
    records _ cell).trans ?_
  rw [loaded, colors]
  cases lastRecord? records cell with
  | none => rfl
  | some record =>
    simp only [blank]
    split <;> rfl

end Contents

namespace Sheet

variable {sheet : Sheet} {size : Dimensions} {contents : Contents} {records : List CellRecord}

theorem run_loadRecords_of_outside (holds : sheet.document.Holds size contents) {cell : CellRef}
    (outside : firstOutside? size (records.map CellRecord.cell) = some cell) :
    (loadRecords records).run sheet = (.error (.outOfBounds cell), sheet) := by
  have checked := run_checkCells holds CellRecord.cell records
  rw [outside] at checked
  exact run_bind_error _ checked

/-- **Loading.** Records inside the sheet are loaded, whatever the sheet held before. -/
theorem run_loadRecords (holds : sheet.document.Holds size contents)
    (inside : ∀ record ∈ records, record.cell.Inside size.rows size.columns) :
    ∃ next, (loadRecords records).run sheet = (.ok (), next) ∧
      next.document.Holds size (Contents.loaded size records) ∧
        next.undoStack = [] ∧ next.redoStack = [] := by
  have checked := run_checkCells holds CellRecord.cell records
  rw [firstOutside?_eq_none_iff.mpr (by simpa using inside)] at checked
  have painted (contents : Contents) :
      Writes size (records.forM fun record => setBgColor record.cell record.bgColor) contents
        (records.foldl (fun contents record => contents.setColor record.cell record.bgColor)
          contents) :=
    Writes.forM (fun record member contents => writes_setBgColor contents (inside record member) _)
      contents
  have typed (contents : Contents) :
      Writes size (records.forM fun record => setText record.cell record.text) contents
        (records.foldl (fun contents record => contents.setText record.cell record.text)
          contents) :=
    Writes.forM (fun record member contents => writes_setText contents (inside record member) _)
      contents
  have written := (writes_clear contents).bind ((painted _).bind (typed _))
  rw [Contents.foldl_setText_foldl_setColor] at written
  obtain ⟨next, done, nextHolds, -⟩ := written sheet holds
  refine ⟨{ next with undoStack := [], redoStack := [] }, ?_, nextHolds, rfl, rfl⟩
  -- Once the cells have been checked, nothing can fail any more.
  have sequence : loadRecords records =
      (records.forM fun record => discard (getCell record.cell)) >>= fun _ =>
        (clear >>= fun _ => (records.forM fun record => setBgColor record.cell record.bgColor) >>=
          fun _ => records.forM fun record => setText record.cell record.text) >>= fun _ =>
            clearHistory := by
    simp only [loadRecords, bind_assoc]
  rw [sequence, run_bind_ok _ checked, run_bind_ok _ done]
  rfl

/-- Records that have been loaded are records inside the sheet. -/
theorem loaded_of_run_loadRecords (holds : sheet.document.Holds size contents) {next : Sheet}
    (done : (loadRecords records).run sheet = (.ok (), next)) :
    (∀ record ∈ records, record.cell.Inside size.rows size.columns) ∧
      next.document.Holds size (Contents.loaded size records) := by
  cases outside : firstOutside? size (records.map CellRecord.cell) with
  | some cell =>
    rw [run_loadRecords_of_outside holds outside] at done
    cases done
  | none =>
    have inside := List.forall_mem_map.mp (firstOutside?_eq_none_iff.mp outside)
    obtain ⟨other, doneToo, otherHolds, -⟩ := run_loadRecords holds inside
    obtain rfl : next = other := congrArg Prod.snd (done.symm.trans doneToo)
    exact ⟨inside, otherHolds⟩

end Sheet

end Worksheet
