import Worksheet.Proofs.Sheet.Propagation

/-!
# What an edit announces

An edit of a text is announced as a list of changes: the text, then the value of the cell if it is
another one, and then the cells that are computed again, one after the other. Each of these gets the
notice that a cell has changed that it reads, and its value is announced if this computation has
given it another one. Only cells that read the edited one, directly or not, are computed again.

After every new value all readers of the cell get their notice. They are queued as soon as the value
is there, and the walk does not end before it has come to them; a reader that stands in the queue
already has its turn still to come. So nobody misses a change, though nobody is queued twice.
-/

namespace Worksheet

open Relation

section Journal

theorem Journal.changes_append (first second : Journal) :
    (first ++ second).changes = first.changes ++ second.changes := by
  simp [changes]

theorem Journal.changes_append_entries (journal : Journal) (entries : List Entry) :
    Journal.changes (journal ++ entries) =
      journal.changes ++ entries.filterMap Entry.change? := by
  simp [changes]

end Journal

/-- After each new value of a cell all of its readers get their notice. -/
def Answered (reads : CellRef → CellRef → Prop) (changes : List (CellRef × CellChange)) : Prop :=
  ∀ before cell after, changes = before ++ (cell, .value) :: after →
    ∀ reader, reads reader cell → (reader, .reference) ∈ after

section Answered

variable {reads : CellRef → CellRef → Prop} {changes : List (CellRef × CellChange)}

theorem answered_nil : Answered reads [] := by
  intro before cell after split
  simp at split

theorem answered_cons {change : CellRef × CellChange} :
    Answered reads (change :: changes) ↔
      (change.2 = .value → ∀ reader, reads reader change.1 → (reader, .reference) ∈ changes) ∧
        Answered reads changes := by
  constructor
  · intro answered
    refine ⟨fun value => ?_, fun before cell after split => ?_⟩
    · apply answered [] change.1 changes
      rw [List.nil_append, ← value]
    · apply answered (change :: before) cell after
      rw [split, List.cons_append]
  · rintro ⟨first, rest⟩ before cell after split
    -- The new value is the first change or a later one.
    cases before with
    | nil =>
      obtain ⟨rfl, rfl⟩ := List.cons.inj split
      exact first rfl
    | cons other before =>
      exact rest before cell after (List.cons.inj split).2

end Answered

namespace Document

/-- What is announced of the value of a cell from one document to another one: nothing, unless it is
another value. -/
def valueChange (former latter : Document) (cell : CellRef) : List (CellRef × CellChange) :=
  if (former.grid.get? cell).map Cell.value = (latter.grid.get? cell).map Cell.value then []
  else [(cell, .value)]

/-- Some cells are computed again one after the other, and the changes are announced: for each cell
that one has changed that it reads, and then its value if this computation gave it another one. -/
inductive Recomputes (concerns : CellRef → Prop) :
    Document → List (CellRef × CellChange) → Document → Prop where
  | done (document : Document) : Recomputes concerns document [] document
  | again {document last : Document} {cell : CellRef} {later : List (CellRef × CellChange)}
      (concerned : concerns cell)
      (rest : Recomputes concerns (document.refresh cell).document later last) :
      Recomputes concerns document
        ((cell, .reference) ::
          (valueChange document (document.refresh cell).document cell ++ later)) last

section Refresh

variable {document former latter : Document} {cell other : CellRef}

theorem valueChange_congr {first last : Document}
    (same : (former.grid.get? cell).map Cell.value = (first.grid.get? cell).map Cell.value)
    (sameToo : (latter.grid.get? cell).map Cell.value = (last.grid.get? cell).map Cell.value) :
    former.valueChange latter cell = first.valueChange last cell := by
  rw [valueChange, valueChange, same, sameToo]

theorem mem_valueChange
    (changed : (former.grid.get? cell).map Cell.value ≠ (latter.grid.get? cell).map Cell.value) :
    (cell, .value) ∈ former.valueChange latter cell := by
  rw [valueChange, if_neg changed]
  exact List.mem_singleton_self _

/-- A change that is followed by the value of its cell, if that is another one, leaves nobody out
if all readers of the cell then get their notice. -/
theorem answered_block {reads : CellRef → CellRef → Prop} {kind : CellChange}
    {later : List (CellRef × CellChange)} (plain : kind ≠ .value) (answered : Answered reads later)
    (told : (former.grid.get? cell).map Cell.value ≠ (latter.grid.get? cell).map Cell.value →
      ∀ reader, reads reader cell → (reader, .reference) ∈ later) :
    Answered reads ((cell, kind) :: (former.valueChange latter cell ++ later)) := by
  refine answered_cons.mpr ⟨fun value => absurd value plain, ?_⟩
  rw [valueChange]
  split
  next => exact answered
  next changed => exact answered_cons.mpr ⟨fun _ => told changed, answered⟩

/-- Computing a cell notes what was noticed about its formula, which is no change of a cell. -/
theorem changes_compute (document : Document) (cell : CellRef) (content : Cell) :
    (document.compute cell content).2.2.filterMap Entry.change? = [] := by
  have silent (formula : String) : (Prepared.conversion formula).filterMap Entry.change? = [] := by
    rw [Prepared.conversion]
    split <;> rfl
  rw [compute]
  split
  next => rfl
  next formula _ =>
    -- The formula is refused, closes a cycle or has a value.
    simp only
    split
    next => rw [List.filterMap_append, silent]; rfl
    next =>
      split
      next => rw [List.filterMap_append, silent]; rfl
      next => exact silent formula

theorem changes_refresh (document : Document) (cell : CellRef) :
    (document.refresh cell).entries.filterMap Entry.change? =
      document.valueChange (document.refresh cell).document cell := by
  rw [refresh, valueChange]
  cases here : document.grid.get? cell with
  | none => simp [here]
  | some content =>
    have silent := changes_compute document cell content
    simp only [Grid.get?_modify, if_true, here, Option.map_some, Cell.setValue, Option.some.injEq]
    by_cases same : content.value = (document.compute cell content).2.1
    · simp [same, silent]
    · simp [same, silent, Entry.change?]

theorem get?_refresh_of_ne (different : other ≠ cell) :
    (document.refresh cell).document.grid.get? other = document.grid.get? other := by
  rw [refresh]
  split
  next => rfl
  next => exact Grid.get?_modify_of_ne _ _ different

end Refresh

namespace Recomputes

variable {concerns : CellRef → Prop} {first last : Document}
  {changes : List (CellRef × CellChange)}

/-- A cell has the same value afterwards, or its value is announced and it was concerned. -/
theorem value_eq_or (recomputes : Recomputes concerns first changes last) (cell : CellRef) :
    (first.grid.get? cell).map Cell.value = (last.grid.get? cell).map Cell.value ∨
      (concerns cell ∧ (cell, .value) ∈ changes) := by
  induction recomputes with
  | done => exact Or.inl rfl
  | @again document last computed later concerned rest ih =>
    rcases ih with same | ⟨concerns, announced⟩
    · by_cases changed : (document.grid.get? cell).map Cell.value =
          ((document.refresh computed).document.grid.get? cell).map Cell.value
      · exact Or.inl (changed.trans same)
      · -- The value has changed by this computation, so it is the cell that was computed.
        obtain rfl : cell = computed := by
          by_contra different
          exact changed (congrArg _ (get?_refresh_of_ne different).symm)
        refine Or.inr ⟨concerned, List.mem_cons_of_mem _ ?_⟩
        exact List.mem_append_left _ (mem_valueChange changed)
    · refine Or.inr ⟨concerns, List.mem_cons_of_mem _ ?_⟩
      exact List.mem_append_right _ announced

end Recomputes

end Document

/-! ### The changes of a walk -/

namespace Walk

variable {texts : Grid} {origin cell : CellRef} {reachAll : Bool} {walk : Walk}
  {rest : List CellRef}

theorem document_step (first : walk.queue = cell :: rest) :
    (walk.step reachAll).document = (walk.document.refresh cell).document := by
  obtain ⟨document, queue, queued, visited, journal⟩ := walk
  obtain rfl : queue = cell :: rest := first
  simp only [step]
  split <;> rfl

theorem changes_step (first : walk.queue = cell :: rest) :
    (walk.step reachAll).journal.changes = walk.journal.changes ++ (cell, .reference) ::
      walk.document.valueChange (walk.document.refresh cell).document cell := by
  obtain ⟨document, queue, queued, visited, journal⟩ := walk
  obtain rfl : queue = cell :: rest := first
  have noted : (step reachAll ⟨document, cell :: rest, queued, visited, journal⟩).journal =
      journal ++
        (.recomputing cell :: .change cell .reference :: (document.refresh cell).entries) := by
    simp only [step]
    split <;> rfl
  rw [noted, Journal.changes_append_entries, ← Document.changes_refresh]
  rfl

/-- All readers of a cell with a new value stand in the queue after the step that gave it. -/
theorem Stepped.mem_queue_of_reads {content : Cell} {next : Walk}
    (stepped : Stepped reachAll walk cell rest content next)
    (changed : content.value ≠ walk.document.grid.due cell content) {reader : CellRef}
    (read : walk.document.grid.Reads reader cell) : reader ∈ next.queue := by
  obtain ⟨added, queue, -, mem_added⟩ := stepped.queue
  rw [queue, List.mem_append]
  by_cases standing : reader ∈ rest
  · exact Or.inl standing
  · exact Or.inr ((mem_added reader).mpr ⟨read, .inl changed, standing⟩)

/-- **The changes of a run.** What a walk announces until its queue is empty are the computations
of cells that read the origin. All readers of a new value are answered, and so are all cells that
stand in the queue. -/
theorem Valid.exists_changes (valid : Valid texts origin reachAll walk) {steps : Nat}
    (ended : ((Walk.step reachAll)^[steps] walk).queue = []) :
    ∃ changes,
      ((Walk.step reachAll)^[steps] walk).journal.changes = walk.journal.changes ++ changes ∧
      Document.Recomputes (fun cell => TransGen texts.Reads cell origin) walk.document changes
        ((Walk.step reachAll)^[steps] walk).document ∧
      Answered texts.Reads changes ∧ ∀ cell ∈ walk.queue, (cell, .reference) ∈ changes := by
  -- From the first step on, so that what is announced later stands behind its value.
  induction steps generalizing walk with
  | zero =>
    have empty : walk.queue = [] := ended
    exact ⟨[], (List.append_nil _).symm, .done _, answered_nil, by simp [empty]⟩
  | succ steps ih =>
    cases first : walk.queue with
    | nil =>
      rw [Function.iterate_fixed (step_of_queue_nil first)]
      exact ⟨[], (List.append_nil _).symm, .done _, answered_nil, by simp⟩
    | cons cell rest =>
      obtain ⟨content, here, stepped⟩ := valid.exists_stepped first
      rw [Function.iterate_succ_apply] at ended ⊢
      obtain ⟨later, journal, recomputes, answered, served⟩ := ih valid.step ended
      have grid := stepped.grid
      rw [document_step first] at recomputes grid
      refine ⟨_, ?_, .again (valid.upstream cell (first ▸ List.mem_cons_self)) recomputes, ?_, ?_⟩
      · rw [journal, changes_step first, List.append_assoc, List.cons_append]
      · refine Document.answered_block nofun answered fun changed reader read => ?_
        -- The value is another one, so the step has put the reader into the queue.
        rw [valid.same.reads] at read
        refine served reader (stepped.mem_queue_of_reads (fun same => changed ?_) read)
        rw [grid, Grid.setValue, Grid.get?_modify, if_pos rfl, here]
        exact congrArg some same
      · intro other queued
        rcases List.mem_cons.mp queued with rfl | standing
        · exact List.mem_cons_self
        · apply List.mem_cons_of_mem
          apply List.mem_append_right
          apply served
          obtain ⟨added, queue, -⟩ := stepped.queue
          rw [queue]
          exact List.mem_append_left _ standing

end Walk

namespace Document

variable {document : Document} {cell : CellRef} {former : Cell} {text : String}

theorem changes_propagate (regular : document.grid.Regular) (wired : document.Wired)
    (origin : CellRef) (reachAll : Bool) :
    Recomputes (fun reader => TransGen document.grid.Reads reader origin) document
        (document.propagate origin reachAll).2.changes (document.propagate origin reachAll).1 ∧
      Answered document.grid.Reads (document.propagate origin reachAll).2.changes ∧
        ∀ reader, document.grid.Reads reader origin →
          (reader, .reference) ∈ (document.propagate origin reachAll).2.changes := by
  have valid : Walk.Valid document.grid origin reachAll (Walk.start document origin) :=
    Walk.valid_start regular wired
  have ended := queue_run_start regular wired origin reachAll
  rw [Walk.run_eq_iterate] at ended
  obtain ⟨changes, journal, recomputes, answered, served⟩ := valid.exists_changes ended
  have announced : (document.propagate origin reachAll).2.changes = changes := by
    rw [propagate, Walk.run_eq_iterate, journal]
    rfl
  rw [announced]
  refine ⟨?_, answered, fun reader read => ?_⟩
  · rw [propagate, Walk.run_eq_iterate]
    exact recomputes
  · exact served reader ((Walk.mem_queue_start wired reader).mpr read)

/-- Replacing a text leaves the value as it is, so what is announced of the value comes from
computing it again. -/
theorem changes_retype (document : Document) (cell : CellRef) (text : String) :
    (document.retype cell text).entries.filterMap Entry.change? =
      document.valueChange (document.retype cell text).document cell := by
  rw [retype, changes_refresh]
  refine valueChange_congr ?_ rfl
  rw [Grid.get?_modify_self, Option.map_map]
  rfl

/-- **The changes of an edit.** A new text is announced, then the value of its cell if it is another
one, and then the computations of cells that read it; all readers of a new value are answered. -/
theorem Consistent.changes_setText (consistent : document.Consistent)
    (here : document.grid.get? cell = some former) (new : former.text ≠ text) :
    let edited := (document.retype cell text).document
    ∃ blocks, (document.setText cell text).2.changes =
        (cell, .text) :: (document.valueChange edited cell ++ blocks) ∧
      Recomputes (fun reader => TransGen edited.grid.Reads reader cell) edited blocks
        (document.setText cell text).1 ∧
      Answered edited.grid.Reads (document.setText cell text).2.changes := by
  intro edited
  obtain ⟨content, retyped, changed, -, regular⟩ := retyped_retype consistent here text
  obtain ⟨spreads, -, outcome⟩ := setText_eq_of_new here new
  by_cases propagated : ((document.retype cell text).changed || spreads) = true
  · simp only [propagated, if_true] at outcome
    obtain ⟨recomputes, answered, served⟩ := changes_propagate regular retyped.wired cell spreads
    have announced : (document.setText cell text).2.changes = (cell, .text) ::
        (document.valueChange edited cell ++ (edited.propagate cell spreads).2.changes) := by
      rw [outcome, ← changes_retype]
      exact Journal.changes_append _ _
    rw [announced, outcome]
    exact ⟨_, rfl, recomputes, answered_block nofun answered fun _ => served⟩
  · simp only [propagated, Bool.false_eq_true, if_false] at outcome
    have announced : (document.setText cell text).2.changes = (cell, .text) ::
        (document.valueChange edited cell ++ []) := by
      rw [outcome, ← changes_retype, List.append_nil]
      rfl
    rw [announced, outcome]
    refine ⟨_, rfl, .done _, answered_block nofun answered_nil fun different => ?_⟩
    -- Another value would have been noticed, and the readers computed again.
    apply absurd _ propagated
    rw [here, retyped.here] at different
    rw [changed.mpr fun same => different (congrArg some same), Bool.true_or]

/-! ### The document after an edit -/

namespace Holds

variable {size : Dimensions} {contents : Contents}

/-- The document after an edit has the texts that it had as soon as the edited cell was computed. -/
theorem exists_retyped (holds : document.Holds size contents)
    (here : document.grid.get? cell = some former) (text : String) :
    ∃ content, Retyped document cell former content (document.retype cell text).document ∧
      (document.retype cell text).document.grid.SameTexts (document.setText cell text).1.grid := by
  obtain ⟨content, retyped, -, written, -⟩ := retyped_retype holds.consistent here text
  have nextHolds := holds.setText cell text
  refine ⟨content, retyped, .of_contents ?_ ?_ ?_⟩
  · rw [retyped.rows, holds.rows, nextHolds.rows]
  · rw [retyped.columns, holds.columns, nextHolds.columns]
  · rw [written, holds.contents, nextHolds.contents]

/-- The references of the document after an edit are those that the walk found. -/
theorem reads_retype (holds : document.Holds size contents)
    (here : document.grid.get? cell = some former) (text : String) :
    (document.retype cell text).document.grid.Reads =
      (document.setText cell text).1.graph.Reads := by
  obtain ⟨content, retyped, same⟩ := holds.exists_retyped here text
  rw [same.reads, (holds.setText cell text).consistent.wired.reads_eq]

/-- **The changes of an edit.** A new text is announced, then the value of its cell if it is another
one afterwards, and then the computations of cells that read it. -/
theorem changes_setText (holds : document.Holds size contents)
    (here : document.grid.get? cell = some former) (new : former.text ≠ text) :
    let next := (document.setText cell text).1
    ∃ blocks, (document.setText cell text).2.changes =
        (cell, .text) :: (document.valueChange next cell ++ blocks) ∧
      Recomputes (fun reader => TransGen next.graph.Reads reader cell)
        (document.retype cell text).document blocks next ∧
      Answered next.graph.Reads (document.setText cell text).2.changes := by
  intro next
  have consistent : next.Consistent := (holds.setText cell text).consistent
  obtain ⟨content, retyped, same⟩ := holds.exists_retyped here text
  obtain ⟨blocks, announced, recomputes, answered⟩ := holds.consistent.changes_setText here new
  -- If the walk comes back to the cell, it is circular and displays the error value all along.
  have settled : ((document.retype cell text).document.grid.get? cell).map Cell.value =
      (next.grid.get? cell).map Cell.value := by
    rcases recomputes.value_eq_or cell with unchanged | ⟨circular, -⟩
    · exact unchanged
    · obtain ⟨there, standing, -⟩ := same.exists_get? retyped.here
      rw [retyped.here, standing, Option.map_some, Option.map_some,
        retyped.current content retyped.here, consistent.current cell there standing,
        Grid.due_of_circular retyped.here circular,
        Grid.due_of_circular standing ((same.circular_iff cell).mp circular)]
  rw [holds.reads_retype here text] at recomputes answered
  refine ⟨blocks, ?_, recomputes, answered⟩
  rw [announced, valueChange_congr rfl settled]

/-- A cell has another value after an edit only if it was edited or reads the edited cell, directly
or not, and then its value has been announced. -/
theorem value_setText (holds : document.Holds size contents)
    (here : document.grid.get? cell = some former) (new : former.text ≠ text) {other : CellRef}
    (changed : (document.grid.get? other).map Cell.value ≠
      ((document.setText cell text).1.grid.get? other).map Cell.value) :
    (other = cell ∨ TransGen (document.setText cell text).1.graph.Reads other cell) ∧
      (other, .value) ∈ (document.setText cell text).2.changes := by
  obtain ⟨content, retyped, -⟩ := holds.exists_retyped here text
  obtain ⟨blocks, announced, recomputes, -⟩ := holds.changes_setText here new
  rw [announced]
  by_cases same : other = cell
  · subst same
    refine ⟨Or.inl rfl, List.mem_cons_of_mem _ ?_⟩
    exact List.mem_append_left _ (mem_valueChange changed)
  · rw [← retyped.elsewhere other same] at changed
    obtain ⟨upstream, noted⟩ := (recomputes.value_eq_or other).resolve_left changed
    exact ⟨Or.inr upstream, List.mem_cons_of_mem _ (List.mem_append_right _ noted)⟩

end Holds

end Document

namespace Sheet

variable {size : Dimensions} {sheet : Sheet} {cell : CellRef}

/-- What becomes of a sheet when the text of a cell inside is replaced: nothing if the cell has this
text already, otherwise an edit of its document. -/
theorem after_setText {contents : Contents} (holds : sheet.document.Holds size contents)
    (inside : cell.Inside size.rows size.columns) (text : String) :
    ∃ content, sheet.cell? cell = some content ∧ sheet.after (.setText cell text) =
      if content.text = text then sheet
      else sheet.edit fun document => document.setText cell text := by
  obtain ⟨content, found, here, -⟩ := run_getCell_of_inside holds inside
  refine ⟨content, here, ?_⟩
  rw [Sheet.after, perform, setText, run_bind_ok _ found]
  by_cases known : content.text = text
  · rw [if_pos known, if_neg (not_not.mpr known)]
    rfl
  · rw [if_neg known, if_pos known]
    rfl

/-- **The announcements of an edit.** Take any sheet that can be reached and replace the text of a
cell. If it is the text that the cell has, nothing is announced. If not, the text is announced, then
the value of the cell if it is another one after the edit, and then the cells that are computed
again, each of which reads the edited one, directly or not: the notice for the cell, and its value
if this computation gave it another one. All readers of a cell get their notice after every new
value of it, and every cell that has another value after the edit has had it announced. -/
theorem changes_after_setText (reachable : sheet.Reachable size)
    (inside : cell.Inside size.rows size.columns) (text : String) :
    let next := sheet.after (.setText cell text)
    let edited := (sheet.document.retype cell text).document
    ∃ content changes, sheet.cell? cell = some content ∧
      next.journal.changes = sheet.journal.changes ++ changes ∧
      (content.text = text → changes = []) ∧
      (content.text ≠ text → ∃ blocks,
        changes = (cell, .text) :: (sheet.document.valueChange next.document cell ++ blocks) ∧
        Document.Recomputes (fun reader => TransGen next.document.graph.Reads reader cell)
          edited blocks next.document) ∧
      Answered next.document.graph.Reads changes ∧
      ∀ other, (sheet.cell? other).map Cell.value ≠ (next.cell? other).map Cell.value →
        (other, .value) ∈ changes := by
  intro next edited
  obtain ⟨contents, holds⟩ := reachable.tidy.sound.holds
  obtain ⟨content, here, outcome⟩ := after_setText holds inside text
  by_cases known : content.text = text
  · have same : next = sheet := outcome.trans (if_pos known)
    refine ⟨content, [], here, ?_, fun _ => rfl, absurd known, answered_nil, ?_⟩
    · rw [same, List.append_nil]
    · exact fun other changed => absurd (by rw [same]) changed
  · have same : next = sheet.edit fun document => document.setText cell text :=
      outcome.trans (if_neg known)
    obtain ⟨blocks, announced, recomputes, answered⟩ := holds.changes_setText here known
    refine ⟨content, (sheet.document.setText cell text).2.changes, here, ?_,
      fun equal => absurd equal known, fun _ => ⟨blocks, ?_⟩, ?_, ?_⟩
    · rw [same]
      exact Journal.changes_append _ _
    · rw [same]
      exact ⟨announced, recomputes⟩
    · rw [same]
      exact answered
    · intro other changed
      rw [same] at changed
      exact (holds.value_setText here known changed).2

/-- A formula closes a cycle of two cells. The walk comes back to the edited cell, which displays
the error value by then. -/
theorem changes_after_closing_cycle :
    let sheet := (blank ⟨1, 2⟩).after (.setText ⟨0, 1⟩ "=A1")
    let next := sheet.after (.setText ⟨0, 0⟩ "=B1")
    sheet.Reachable ⟨1, 2⟩ ∧ (⟨0, 0⟩ : CellRef).Inside 1 2 ∧
      ∃ changes, next.journal.changes = sheet.journal.changes ++ changes ∧
        changes = [(⟨0, 0⟩, .text), (⟨0, 0⟩, .value), (⟨0, 1⟩, .reference), (⟨0, 1⟩, .value),
          (⟨0, 0⟩, .reference)] ∧ Answered next.document.graph.Reads changes := by
  have formerly : ((blank ⟨1, 2⟩).after (.setText ⟨0, 1⟩ "=A1")).journal.changes =
      [(⟨0, 1⟩, .text), (⟨0, 1⟩, .value)] := by decide +kernel
  have noted : (((blank ⟨1, 2⟩).after (.setText ⟨0, 1⟩ "=A1")).after
      (.setText ⟨0, 0⟩ "=B1")).journal.changes =
        [(⟨0, 1⟩, .text), (⟨0, 1⟩, .value), (⟨0, 0⟩, .text), (⟨0, 0⟩, .value),
          (⟨0, 1⟩, .reference), (⟨0, 1⟩, .value), (⟨0, 0⟩, .reference)] := by decide +kernel
  intro sheet next
  have reachable : sheet.Reachable ⟨1, 2⟩ :=
    (reachable_blank (by decide)).edit (.setText ⟨0, 1⟩ "=A1")
  have inside : (⟨0, 0⟩ : CellRef).Inside 1 2 := by decide
  obtain ⟨-, changes, -, journal, -, -, answered, -⟩ := changes_after_setText reachable inside "=B1"
  refine ⟨reachable, inside, changes, journal, ?_, answered⟩
  rw [formerly, noted] at journal
  simpa using journal.symm

end Sheet

end Worksheet
