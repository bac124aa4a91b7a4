import Worksheet.Proofs.Sheet.Reading

/-!
# Consistent documents

The text of a cell and the values of the cells that it reads say which value the cell is due. A
document is consistent if every cell displays the value that it is due and the graph holds the
references that the texts make.

Consistent documents of one size with the same texts display the same values and hold the same
references: circular cells are due the error value whatever the others display, and the others
follow by induction along references.

Computing a cell again brings its references in line with its text and gives it the value that it is
due.
-/

namespace Worksheet

open Relation

namespace Document

variable {grid other : Grid}

theorem numberAt_congr {cell : CellRef}
    (same : (grid.get? cell).map Cell.value = (other.get? cell).map Cell.value) :
    numberAt grid cell = numberAt other cell := by
  unfold numberAt
  cases here : grid.get? cell <;> cases there : other.get? cell <;> simp_all

/-- The value of a formula depends on the values of those cells only that it reads. -/
theorem valueOf_congr (prepared : Prepared)
    (same : ∀ target ∈ prepared.targets,
      (grid.get? target).map Cell.value = (other.get? target).map Cell.value) :
    valueOf grid prepared = valueOf other prepared := by
  refine congrArg (Expr.evalOption · prepared.tree?) (List.foldl_ext _ _ _ ?_)
  rintro bindings ⟨name, target⟩ member
  exact congrArg (bindings.set name)
    (numberAt_congr (same target (List.mem_map.mpr ⟨(name, target), member, rfl⟩)))

end Document

namespace Grid

open Classical in
/-- The value that a cell with some content is due where the cells of the grid have the values that
they display. -/
noncomputable def due (grid : Grid) (cell : CellRef) (content : Cell) : String :=
  match content.formula?, grid.accepted? cell with
  | none, _ => content.text
  | some _, none => Cell.errorValue
  | some _, some prepared =>
    if grid.Circular cell then Cell.errorValue
    else Number.display (Document.valueOf grid prepared)

/-- A cell displays the value that it is due. -/
def Current (grid : Grid) (cell : CellRef) : Prop :=
  ∀ content, grid.get? cell = some content → content.value = grid.due cell content

/-- The grid in which a cell displays another value. -/
def setValue (grid : Grid) (cell : CellRef) (value : String) : Grid :=
  grid.modify cell fun content => { content with value }

section SetValue

variable (grid : Grid) (cell : CellRef) (value : String)

theorem sameTexts_setValue : SameTexts grid (grid.setValue cell value) :=
  SameTexts.modify grid cell fun _ => rfl

theorem contents_setValue : (grid.setValue cell value).contents = grid.contents := by
  have written : (grid.setValue cell value).contents = grid.contents.modify cell id :=
    contents_modify grid cell _ id fun _ => rfl
  rw [written]
  exact Contents.modify_of_fixed _ cell fun _ _ => rfl

theorem value_setValue_of_ne {other : CellRef} (different : other ≠ cell) :
    ((grid.setValue cell value).get? other).map Cell.value = (grid.get? other).map Cell.value := by
  rw [setValue, get?_modify_of_ne grid _ different]

end SetValue

variable {grid other : Grid} {cell : CellRef} {content : Cell}

theorem Regular.setValue (regular : grid.Regular) (cell : CellRef) (value : String) :
    (grid.setValue cell value).Regular :=
  regular.modify cell fun _ => rfl

/-- A circular cell is due the error value, whatever the others display. -/
theorem due_of_circular (here : grid.get? cell = some content) (circular : grid.Circular cell) :
    grid.due cell content = Cell.errorValue := by
  obtain ⟨prepared, accepted⟩ := circular.exists_accepted?
  obtain ⟨_, formula, there, written, -⟩ := exists_of_accepted? accepted
  obtain rfl := Option.some.inj (here.symm.trans there)
  simp [due, written, accepted, circular]

/-- What a cell is due depends on the texts, and on the values of those cells only that it reads. -/
theorem due_congr (same : SameTexts grid other) {there : Cell} (text : content.text = there.text)
    (values : ¬ grid.Circular cell → ∀ target, grid.Reads cell target →
      (grid.get? target).map Cell.value = (other.get? target).map Cell.value) :
    grid.due cell content = other.due cell there := by
  unfold due
  rw [Cell.formula?_congr text, text, same.accepted? cell]
  -- The cases of the definition: only the last one looks at the values of other cells.
  cases there.formula? with
  | none => rfl
  | some formula =>
    cases accepted : other.accepted? cell with
    | none => rfl
    | some prepared =>
      by_cases circular : grid.Circular cell
      · simp only [circular, (same.circular_iff cell).mp circular, if_true]
      · have straight : ¬ other.Circular cell := fun around =>
          circular ((same.circular_iff cell).mpr around)
        have value := Document.valueOf_congr prepared fun target member =>
          values circular target ⟨prepared, (same.accepted? cell).trans accepted, member⟩
        simp only [circular, straight, if_false, value]

/-- A cell that has been given the value that it was due displays the value that it is due. -/
theorem current_setValue (here : grid.get? cell = some content) :
    (grid.setValue cell (grid.due cell content)).Current cell := by
  intro there standing
  rw [Grid.setValue, get?_modify, if_pos rfl, here, Option.map_some, Option.some.injEq] at standing
  subst standing
  refine due_congr (sameTexts_setValue grid cell _) rfl fun straight target read => ?_
  -- Unless it is circular, the cell does not read the value that it has just been given.
  have different : target ≠ cell := by
    rintro rfl
    exact straight (.single read)
  exact (value_setValue_of_ne grid cell _ different).symm

/-- Cells that do not read a cell with a new value stay as right as they were. -/
theorem current_setValue_of_ne (here : grid.get? cell = some content) {value : String}
    {reader : CellRef} (different : reader ≠ cell)
    (untouched : grid.Reads reader cell → content.value = value) (current : grid.Current reader) :
    (grid.setValue cell value).Current reader := by
  intro there standing
  rw [Grid.setValue, get?_modify, if_neg different] at standing
  rw [current there standing]
  refine due_congr (sameTexts_setValue grid cell value) rfl fun _ target read => ?_
  by_cases same : target = cell
  · subst same
    rw [Grid.setValue, get?_modify, if_pos rfl, here]
    exact congrArg some (untouched read)
  · exact (value_setValue_of_ne grid cell value same).symm

/-- **Uniqueness.** Regular grids of one size with the same texts whose cells all display the values
that they are due display the same values. -/
theorem SameTexts.value (same : SameTexts grid other) (regular : grid.Regular)
    (current : ∀ cell, grid.Current cell) (otherCurrent : ∀ cell, other.Current cell)
    (cell : CellRef) :
    (grid.get? cell).map Cell.value = (other.get? cell).map Cell.value := by
  have outside : ∀ cell, grid.get? cell = none → other.get? cell = none := by
    intro cell absent
    have text := same.text cell
    rw [absent] at text
    exact Option.map_eq_none_iff.mp text.symm
  -- Two cells with one text display one value as soon as they are due one value.
  have agree : ∀ cell, (∀ content there, content.text = there.text → grid.get? cell = some content →
      other.get? cell = some there → grid.due cell content = other.due cell there) →
      (grid.get? cell).map Cell.value = (other.get? cell).map Cell.value := by
    intro cell dues
    cases here : grid.get? cell with
    | none => rw [outside cell here]
    | some content =>
      obtain ⟨there, standing, text⟩ := same.exists_get? here
      rw [standing, Option.map_some, Option.map_some, current cell content here,
        otherCurrent cell there standing, dues content there text.symm here standing]
  have circularAgree : ∀ cell, grid.Circular cell →
      (grid.get? cell).map Cell.value = (other.get? cell).map Cell.value := by
    intro cell circular
    refine agree cell fun content there _ here standing => ?_
    rw [due_of_circular here circular,
      due_of_circular standing ((same.circular_iff cell).mp circular)]
  by_cases circular : grid.Circular cell
  · exact circularAgree cell circular
  · -- Of the cells that are not circular those are settled first that the others read.
    refine regular.induction_on_reads (fun cell =>
      (grid.get? cell).map Cell.value = (other.get? cell).map Cell.value)
      (fun cell _ ih => ?_) cell circular
    refine agree cell fun content there text _ _ => due_congr same text fun _ target read => ?_
    by_cases around : grid.Circular target
    · exact circularAgree target around
    · exact ih target read around

end Grid

namespace Document

/-- The graph holds the references that the texts make, in both directions. -/
structure Wired (document : Document) : Prop where
  mirrored : document.graph.Mirrored
  reads : ∀ reader target, document.graph.Reads reader target ↔ document.grid.Reads reader target

/-- Every cell displays the value that it is due, and the graph holds the references that the texts
make. -/
structure Consistent (document : Document) : Prop where
  regular : document.grid.Regular
  wired : document.Wired
  current : ∀ cell, document.grid.Current cell

namespace Wired

variable {document other : Document}

theorem reads_eq (wired : document.Wired) : document.graph.Reads = document.grid.Reads := by
  ext reader target
  exact wired.reads reader target

theorem circular_iff (wired : document.Wired) (cell : CellRef) :
    document.graph.Circular cell ↔ document.grid.Circular cell := by
  rw [DependencyGraph.Circular, wired.reads_eq]
  rfl

/-- The search of the graph finds the cells that are circular by the texts. -/
theorem isInCycle_iff (wired : document.Wired) (cell : CellRef) :
    document.graph.isInCycle cell = true ↔ document.grid.Circular cell := by
  rw [DependencyGraph.isInCycle_iff, wired.circular_iff]

/-- The references stay right as long as the texts stay the same. -/
theorem congr {grid grid' : Grid} {graph : DependencyGraph} (wired : Wired ⟨grid, graph⟩)
    (same : grid.SameTexts grid') : Wired ⟨grid', graph⟩ :=
  ⟨wired.mirrored, fun reader target => same.reads ▸ wired.reads reader target⟩

theorem mem_dependents_iff (wired : document.Wired) {reader target : CellRef} :
    reader ∈ document.graph.dependents target ↔ document.grid.Reads reader target := by
  rw [wired.mirrored, wired.reads]

/-- With the same texts come the same references, readers and cells in cycles. -/
theorem graph_congr (wired : document.Wired) (otherWired : other.Wired)
    (same : document.grid.SameTexts other.grid) (cell : CellRef) :
    document.graph.references cell = other.graph.references cell ∧
      document.graph.dependents cell = other.graph.dependents cell ∧
        document.graph.isInCycle cell = other.graph.isInCycle cell := by
  have edges : document.graph.Reads = other.graph.Reads := by
    rw [wired.reads_eq, otherWired.reads_eq, same.reads]
  refine ⟨DependencyGraph.references_congr fun target => by rw [edges],
    DependencyGraph.dependents_congr wired.mirrored otherWired.mirrored fun reader => by rw [edges],
    Bool.eq_iff_iff.mpr ?_⟩
  rw [wired.isInCycle_iff, otherWired.isInCycle_iff, same.circular_iff]

end Wired

/-- What the texts of a document say about one of its cells with some content. The cell refers to
the cells that its formula reads, if it has one that is accepted. A text that is no formula is
displayed as it is. A formula that is rejected displays the error value, and so does a cell that
refers to itself over any number of references. Any other formula displays its value, where each
variable has the number that the cell that it names displays. -/
structure Settled (document : Document) (cell : CellRef) (content : Cell) : Prop where
  references : ∀ target, target ∈ document.graph.references cell ↔
    ∃ formula prepared, content.text = "=" ++ formula ∧
      Prepared.ofFormula document.grid.rows document.grid.columns formula = .ok prepared ∧
        target ∈ prepared.targets
  literal : (∀ formula, content.text ≠ "=" ++ formula) → content.value = content.text
  rejected : ∀ formula cause, content.text = "=" ++ formula →
    Prepared.ofFormula document.grid.rows document.grid.columns formula = .error cause →
      content.value = Cell.errorValue
  circular : document.graph.Circular cell → content.value = Cell.errorValue
  evaluated : ∀ formula prepared, content.text = "=" ++ formula →
    Prepared.ofFormula document.grid.rows document.grid.columns formula = .ok prepared →
      ¬ document.graph.Circular cell → ∃ bindings : Bindings,
        (∀ name, bindings.get? name =
          (prepared.resolved.lookup name).map (numberAt document.grid)) ∧
            content.value = Number.display (Expr.evalOption bindings prepared.tree?)

theorem Consistent.settled {document : Document} (consistent : document.Consistent) {cell : CellRef}
    {content : Cell} (here : document.grid.get? cell = some content) :
    document.Settled cell content := by
  have shown := consistent.current cell content here
  have around := consistent.wired.circular_iff cell
  have accepted {formula : String} (written : content.text = "=" ++ formula) :=
    Grid.accepted?_of_get? here (Cell.formula?_eq_some_iff.mpr written)
  constructor
  case references =>
    intro target
    rw [← DependencyGraph.Reads, consistent.wired.reads]
    constructor
    · rintro ⟨prepared, compiled, member⟩
      obtain ⟨_, formula, there, written, made⟩ := Grid.exists_of_accepted? compiled
      obtain rfl := Option.some.inj (here.symm.trans there)
      exact ⟨formula, prepared, Cell.formula?_eq_some_iff.mp written, made, member⟩
    · rintro ⟨formula, prepared, written, made, member⟩
      exact ⟨prepared, by rw [accepted written, made]; rfl, member⟩
  case literal =>
    intro literal
    have plain : content.formula? = none :=
      Option.eq_none_iff_forall_ne_some.mpr fun formula written =>
        literal formula (Cell.formula?_eq_some_iff.mp written)
    rw [shown, Grid.due, plain]
  case rejected =>
    intro formula cause written failed
    have refused := accepted written
    rw [failed] at refused
    simp [shown, Grid.due, Cell.formula?_eq_some_iff.mpr written, refused, Except.toOption]
  case circular =>
    intro circular
    rw [shown, Grid.due_of_circular here (around.mp circular)]
  case evaluated =>
    intro formula prepared written made straight
    have compiled := accepted written
    rw [made] at compiled
    rw [around] at straight
    obtain ⟨bindings, numbers, value⟩ := exists_bindings_valueOf document.grid made
    refine ⟨bindings, numbers, ?_⟩
    rw [← value, shown]
    simp [Grid.due, Cell.formula?_eq_some_iff.mpr written, compiled, Except.toOption, straight]

/-! ### Computing a cell again -/

section Refresh

variable {document : Document} {cell : CellRef} {content : Cell}

/-- A cell without an accepted formula gives up its references. -/
theorem compute_graph_of_refused (here : document.grid.get? cell = some content)
    (refused : document.grid.accepted? cell = none) :
    (document.compute cell content).1 = (document.graph.clearReferences cell).1 := by
  unfold compute
  cases written : content.formula? with
  | none => rfl
  | some formula =>
    rw [Grid.accepted?_of_get? here written] at refused
    cases result : Prepared.ofFormula document.grid.rows document.grid.columns formula with
    | error cause => simp only [result]
    | ok prepared => simp [result, Except.toOption] at refused

/-- A cell with an accepted formula gets the references of the formula, and its value unless they
close a cycle. -/
theorem compute_of_accepted (here : document.grid.get? cell = some content) {prepared : Prepared}
    (accepted : document.grid.accepted? cell = some prepared) :
    (document.compute cell content).1 = document.graph.replaceReferences cell prepared.targets ∧
      (document.compute cell content).2.1 =
        if (document.graph.replaceReferences cell prepared.targets).isInCycle cell then
          Cell.errorValue
        else Number.display (valueOf document.grid prepared) := by
  obtain ⟨_, formula, there, written, compiled⟩ := Grid.exists_of_accepted? accepted
  obtain rfl := Option.some.inj (here.symm.trans there)
  unfold compute DependencyGraph.isInCycle
  simp only [written, compiled]
  cases (document.graph.replaceReferences cell prepared.targets).cycleThrough? cell <;> simp

/-- Computing a cell leaves the references of all others as they were and gives the cell those of
its text. -/
theorem compute_reads (here : document.grid.get? cell = some content) (reader target : CellRef) :
    (document.compute cell content).1.Reads reader target ↔
      if reader = cell then document.grid.Reads cell target
      else document.graph.Reads reader target := by
  cases accepted : document.grid.accepted? cell with
  | none =>
    rw [compute_graph_of_refused here accepted, DependencyGraph.reads_clearReferences]
    by_cases same : reader = cell <;> simp [same, Grid.Reads, accepted]
  | some prepared =>
    rw [(compute_of_accepted here accepted).1, DependencyGraph.reads_replaceReferences]
    simp [Grid.Reads, accepted]

theorem compute_mirrored (here : document.grid.get? cell = some content)
    (mirrored : document.graph.Mirrored) : (document.compute cell content).1.Mirrored := by
  cases accepted : document.grid.accepted? cell with
  | none =>
    rw [compute_graph_of_refused here accepted]
    exact DependencyGraph.mirrored_clearReferences _ _ mirrored
  | some prepared =>
    rw [(compute_of_accepted here accepted).1]
    exact DependencyGraph.mirrored_replaceReferences _ _ _ mirrored

/-- Once the graph holds the references of all texts, the value that is computed is the one that
the cell is due. -/
theorem compute_value (here : document.grid.get? cell = some content)
    (wired : Wired ⟨document.grid, (document.compute cell content).1⟩) :
    (document.compute cell content).2.1 = document.grid.due cell content := by
  unfold Grid.due
  cases written : content.formula? with
  | none => simp [compute, written]
  | some formula =>
    cases accepted : document.grid.accepted? cell with
    | none =>
      rw [Grid.accepted?_of_get? here written] at accepted
      cases result : Prepared.ofFormula document.grid.rows document.grid.columns formula with
      | error cause => simp [compute, written, result]
      | ok prepared => simp [result, Except.toOption] at accepted
    | some prepared =>
      have computed := compute_of_accepted here accepted
      have around := wired.isInCycle_iff cell
      -- The search for cycles runs on the graph with the new references, as the definition wants.
      rw [computed.1] at around
      by_cases circular : document.grid.Circular cell
      · simp [computed.2, around.mpr circular, circular]
      · have straight := mt around.mp circular
        simp [computed.2, straight, circular]

/-- What becomes of a document when a cell is computed again whose references alone may differ from
those of its text: the cell displays the value that it is due, no other cell has changed, and the
graph holds the references of all texts. -/
structure Recomputed (document : Document) (cell : CellRef) (content : Cell)
    (refreshed : Refreshed) : Prop where
  grid : refreshed.document.grid = document.grid.setValue cell (document.grid.due cell content)
  wired : refreshed.document.Wired
  changed : refreshed.changed = true ↔ content.value ≠ document.grid.due cell content

theorem recomputed_refresh (here : document.grid.get? cell = some content)
    (mirrored : document.graph.Mirrored)
    (elsewhere : ∀ reader target, reader ≠ cell →
      (document.graph.Reads reader target ↔ document.grid.Reads reader target)) :
    document.Recomputed cell content (document.refresh cell) := by
  -- The texts have not changed, so the graph may be compared with the grid from before.
  have wired : Wired ⟨document.grid, (document.compute cell content).1⟩ := by
    refine ⟨compute_mirrored here mirrored, fun reader target => ?_⟩
    rw [compute_reads here]
    split
    next same => rw [same]
    next different => exact elsewhere reader target different
  have value := compute_value here wired
  have refreshed : document.refresh cell =
      { document := ⟨document.grid.setValue cell (document.grid.due cell content),
          (document.compute cell content).1⟩
        changed := decide (content.value ≠ document.grid.due cell content)
        entries := (document.refresh cell).entries } := by
    simp only [refresh, here, Cell.setValue, Grid.setValue, ← value]
  rw [refreshed]
  exact ⟨rfl, wired.congr (Grid.sameTexts_setValue _ _ _), decide_eq_true_iff⟩

end Refresh

end Document

end Worksheet
