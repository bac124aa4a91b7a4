import Worksheet.Proofs.Sheet.Consistency
import Worksheet.Sheet.Recalculation

/-!
# What a recalculation keeps

A step takes the first cell from the queue, gives it the value that it is due and queues those who
read it. What a step does is said once; from it follows what every walk keeps: the queue has no cell
twice, the texts and the references stay as they are, and a cell that does not display the value
that it is due stands in the queue or is still to be reached.

Only a walk that reaches all readers leaves cells to be reached. Whoever reads a visited cell is
visited or queued, so once the queue is empty all of them have been.
-/

namespace Worksheet.Walk

open Relation

/-! ### One step -/

/-- The readers of a cell that are queued after it. -/
def fresh (walk : Walk) (cell : CellRef) (changed : Bool) : List CellRef :=
  (walk.document.graph.dependents cell).filter fun reader =>
    (changed || !walk.visited.contains reader) && !walk.queued.contains reader

section Enqueue

variable (walk : Walk) (cell : CellRef) (changed : Bool)

theorem mem_fresh (wired : walk.document.Wired) (reader : CellRef) :
    reader ∈ walk.fresh cell changed ↔ walk.document.grid.Reads reader cell ∧
      (changed = true ∨ reader ∉ walk.visited) ∧ reader ∉ walk.queued := by
  rw [fresh, List.mem_filter, wired.mem_dependents_iff]
  simp [← Std.TreeSet.contains_iff_mem]

theorem nodup_fresh : (walk.fresh cell changed).Nodup :=
  List.Nodup.filter _ DependencyGraph.nodup_dependents

theorem queue_enqueueReaders :
    (walk.enqueueReaders cell changed).queue = walk.queue ++ walk.fresh cell changed := rfl

theorem mem_queued_enqueueReaders (other : CellRef) :
    other ∈ (walk.enqueueReaders cell changed).queued ↔
      other ∈ walk.queued ∨ other ∈ walk.fresh cell changed := by
  change other ∈ (walk.fresh cell changed).foldl _ walk.queued ↔ _
  generalize walk.queued = queued
  induction walk.fresh cell changed generalizing queued with
  | nil => simp
  | cons reader readers ih =>
    rw [List.foldl_cons, ih, Std.TreeSet.mem_insert, Std.LawfulEqOrd.compare_eq_iff_eq,
      List.mem_cons]
    grind

end Enqueue

/-- The state of a walk as far as it does not matter which values the cells display: the graph holds
the references of the texts, and cells of the grid are queued only, each once. -/
structure Sound (walk : Walk) : Prop where
  regular : walk.document.grid.Regular
  wired : walk.document.Wired
  queued : ∀ cell, cell ∈ walk.queued ↔ cell ∈ walk.queue
  nodup : walk.queue.Nodup
  inside : ∀ cell ∈ walk.queue, walk.document.grid.Contains cell

/-- All that a step does which takes a cell with some content from the front of the queue. -/
structure Stepped (reachAll : Bool) (walk : Walk) (cell : CellRef) (rest : List CellRef)
    (content : Cell) (next : Walk) : Prop where
  grid : next.document.grid =
    walk.document.grid.setValue cell (walk.document.grid.due cell content)
  wired : next.document.Wired
  visited : ∀ other, other ∈ next.visited ↔ other = cell ∨ other ∈ walk.visited
  queued : ∀ other, other ∈ next.queued ↔ other ∈ next.queue
  /-- Readers are added to the queue: all if the value is a new one, those not visited yet if all
  readers are to be reached. None is added that stands there already. -/
  queue : ∃ added : List CellRef, next.queue = rest ++ added ∧ added.Nodup ∧
    ∀ reader, reader ∈ added ↔ walk.document.grid.Reads reader cell ∧
      (content.value ≠ walk.document.grid.due cell content ∨
        (reachAll = true ∧ reader ∉ next.visited)) ∧ reader ∉ rest

variable {reachAll : Bool} {walk : Walk} {cell : CellRef} {rest : List CellRef} {content : Cell}

theorem Sound.stepped (sound : walk.Sound) (first : walk.queue = cell :: rest)
    (here : walk.document.grid.get? cell = some content) :
    Stepped reachAll walk cell rest content (walk.step reachAll) := by
  obtain ⟨document, queue, queued, visited, journal⟩ := walk
  obtain rfl : queue = cell :: rest := first
  have recomputed := Document.recomputed_refresh here sound.wired.mirrored
    fun reader target _ => sound.wired.reads reader target
  have same : document.grid.SameTexts (document.refresh cell).document.grid :=
    recomputed.grid ▸ Grid.sameTexts_setValue _ _ _
  -- The walk after the cell has been computed, before any reader is queued.
  let popped : Walk :=
    { document := (document.refresh cell).document
      queue := rest
      queued := queued.erase cell
      visited := visited.insert cell
      journal := journal ++
        (.recomputing cell :: .change cell .reference :: (document.refresh cell).entries) }
  have poppedVisited (other : CellRef) :
      other ∈ popped.visited ↔ other = cell ∨ other ∈ visited := by
    change other ∈ visited.insert cell ↔ _
    rw [Std.TreeSet.mem_insert, Std.LawfulEqOrd.compare_eq_iff_eq, eq_comm]
  have poppedQueued (other : CellRef) : other ∈ popped.queued ↔ other ∈ rest := by
    change other ∈ queued.erase cell ↔ _
    have absent := (List.nodup_cons.mp sound.nodup).1
    have former := sound.queued other
    rw [List.mem_cons] at former
    rw [Std.TreeSet.mem_erase, Ne, Std.LawfulEqOrd.compare_eq_iff_eq, former]
    grind
  have poppedFresh (changed : Bool) (reader : CellRef) :
      reader ∈ popped.fresh cell changed ↔ document.grid.Reads reader cell ∧
        (changed = true ∨ reader ∉ popped.visited) ∧ reader ∉ rest := by
    rw [mem_fresh popped cell changed recomputed.wired, poppedQueued, same.reads]
  have changed := recomputed.changed
  -- Readers are looked for if the value is a new one or if all of them are to be reached.
  by_cases spreads : ((document.refresh cell).changed || reachAll) = true
  · have step : Walk.step reachAll ⟨document, cell :: rest, queued, visited, journal⟩ =
        popped.enqueueReaders cell (document.refresh cell).changed := by
      simp only [Walk.step, spreads, if_true, popped]
    rw [step]
    refine ⟨recomputed.grid, recomputed.wired, poppedVisited, fun other => ?_,
      popped.fresh cell (document.refresh cell).changed, rfl, nodup_fresh _ _ _, fun reader => ?_⟩
    · rw [mem_queued_enqueueReaders, poppedQueued, queue_enqueueReaders, List.mem_append]
    · change _ ↔ _ ∧ (_ ∨ (_ ∧ reader ∉ popped.visited)) ∧ _
      rw [poppedFresh, changed]
      rw [Bool.or_eq_true, changed] at spreads
      grind
  · have step : Walk.step reachAll ⟨document, cell :: rest, queued, visited, journal⟩ = popped := by
      simp only [Walk.step, spreads, if_false, popped, Bool.false_eq_true]
    rw [step]
    refine ⟨recomputed.grid, recomputed.wired, poppedVisited, poppedQueued, [],
      (List.append_nil rest).symm, List.nodup_nil, fun reader => ?_⟩
    rw [Bool.or_eq_true, changed] at spreads
    grind

/-- On an empty queue nothing is done. -/
theorem step_of_queue_nil (empty : walk.queue = []) : walk.step reachAll = walk := by
  obtain ⟨document, queue, queued, visited, journal⟩ := walk
  obtain rfl : queue = [] := empty
  rfl

theorem Stepped.sameTexts {next : Walk} (stepped : Stepped reachAll walk cell rest content next) :
    walk.document.grid.SameTexts next.document.grid :=
  stepped.grid ▸ Grid.sameTexts_setValue _ _ _

theorem Stepped.sound {next : Walk} (stepped : Stepped reachAll walk cell rest content next)
    (sound : walk.Sound) (first : walk.queue = cell :: rest) : next.Sound := by
  obtain ⟨added, queue, distinct, mem_added⟩ := stepped.queue
  have formerDistinct := sound.nodup
  rw [first, List.nodup_cons] at formerDistinct
  refine ⟨stepped.grid ▸ sound.regular.setValue _ _, stepped.wired, stepped.queued, ?_, ?_⟩
  · rw [queue]
    refine List.nodup_append.mpr ⟨formerDistinct.2, distinct, ?_⟩
    intro other standing reader member same
    exact ((mem_added reader).mp member).2.2 (same ▸ standing)
  · intro other member
    rw [queue, List.mem_append] at member
    rw [← stepped.sameTexts.contains_iff]
    rcases member with standing | new
    · exact sound.inside other (first ▸ List.mem_cons_of_mem _ standing)
    · exact (Grid.contains_of_reads ((mem_added other).mp new).1).1

/-! ### What a whole walk keeps -/

section Valid

variable (texts : Grid) (origin : CellRef) (reachAll : Bool)

/-- The walk is to reach all readers of its origin, and has not visited this one yet. -/
def Pending (walk : Walk) (cell : CellRef) : Prop :=
  reachAll = true ∧ cell ∉ walk.visited ∧ TransGen texts.Reads cell origin

/-- The invariant of a walk over a grid with some texts: texts and colors stay, and only direct and
indirect readers of the origin are queued. -/
structure Valid (walk : Walk) : Prop where
  sound : walk.Sound
  same : texts.SameTexts walk.document.grid
  contents : walk.document.grid.contents = texts.contents
  upstream : ∀ cell ∈ walk.queue, TransGen texts.Reads cell origin
  /-- The walk has not passed by any reader that it is to reach. -/
  passed : reachAll = true → ∀ reader target, texts.Reads reader target →
    target = origin ∨ target ∈ walk.visited → reader ∈ walk.visited ∨ reader ∈ walk.queue
  /-- Circular cells display the error value from the moment that they have been visited. -/
  frozen : ∀ cell content, texts.Circular cell → cell ∈ walk.visited →
    walk.document.grid.get? cell = some content → content.value = Cell.errorValue

/-- Every cell that may display another value than it is due will be computed again. -/
def Covered (walk : Walk) : Prop :=
  ∀ cell, cell ∈ walk.queue ∨ walk.document.grid.Current cell ∨
    Pending texts origin reachAll walk cell

end Valid

section Step

variable {texts : Grid} {origin : CellRef} {next : Walk}

/-- A reader that is still to be reached has been so from the start. -/
theorem Pending.earlier {former : Walk} (pending : Pending texts origin reachAll next cell)
    (seen : ∀ other ∈ former.visited, other ∈ next.visited) :
    Pending texts origin reachAll former cell :=
  ⟨pending.1, fun visited => pending.2.1 (seen cell visited), pending.2.2⟩

theorem Stepped.mem_visited (stepped : Stepped reachAll walk cell rest content next) :
    ∀ other ∈ walk.visited, other ∈ next.visited :=
  fun other visited => (stepped.visited other).mpr (.inr visited)

/-- Only the cell of the step has been reached by it. -/
theorem Stepped.pending (stepped : Stepped reachAll walk cell rest content next) {other : CellRef}
    (different : other ≠ cell) (pending : Pending texts origin reachAll walk other) :
    Pending texts origin reachAll next other := by
  refine ⟨pending.1, fun visited => ?_, pending.2.2⟩
  exact ((stepped.visited other).mp visited).elim different pending.2.1

/-- The cells behind the first one stay in the queue. -/
theorem Stepped.mem_queue (stepped : Stepped reachAll walk cell rest content next)
    (first : walk.queue = cell :: rest) {other : CellRef} (different : other ≠ cell)
    (queued : other ∈ walk.queue) : other ∈ next.queue := by
  obtain ⟨added, queue, -⟩ := stepped.queue
  rw [first] at queued
  rw [queue]
  exact List.mem_append_left _ ((List.mem_cons.mp queued).resolve_left different)

theorem Valid.stepped (valid : Valid texts origin reachAll walk) (first : walk.queue = cell :: rest)
    (here : walk.document.grid.get? cell = some content)
    (stepped : Stepped reachAll walk cell rest content next) :
    Valid texts origin reachAll next := by
  obtain ⟨added, queue, -, mem_added⟩ := stepped.queue
  rw [← valid.same.reads] at mem_added
  constructor
  case sound => exact stepped.sound valid.sound first
  case same => exact valid.same.trans stepped.sameTexts
  case contents => rw [stepped.grid, Grid.contents_setValue, valid.contents]
  case upstream =>
    intro other queued
    rw [queue, List.mem_append] at queued
    rcases queued with standing | new
    · exact valid.upstream other (first ▸ List.mem_cons_of_mem _ standing)
    · exact .head ((mem_added other).mp new).1 (valid.upstream cell (first ▸ List.mem_cons_self))
  case passed =>
    intro all reader target read reached
    by_cases seen : reader ∈ next.visited
    · exact Or.inl seen
    · refine Or.inr ?_
      have different : reader ≠ cell := fun same => seen ((stepped.visited reader).mpr (.inl same))
      by_cases same : target = cell
      · -- The readers of the cell that has just been visited are queued by this very step.
        subst same
        rw [queue, List.mem_append]
        by_cases standing : reader ∈ rest
        · exact Or.inl standing
        · exact Or.inr ((mem_added reader).mpr ⟨read, .inr ⟨all, seen⟩, standing⟩)
      · have reachedBefore : target = origin ∨ target ∈ walk.visited :=
          reached.imp_right fun visited => ((stepped.visited target).mp visited).resolve_left same
        have formerly := valid.passed all reader target read reachedBefore
        refine stepped.mem_queue first different (formerly.resolve_left fun visited => ?_)
        exact seen (stepped.mem_visited reader visited)
  case frozen =>
    intro other stored circular visited there
    have around := (valid.same.circular_iff other).mp circular
    rw [stepped.grid, Grid.setValue, Grid.get?_modify] at there
    split at there
    next same =>
      subst same
      rw [here, Option.map_some, Option.some.injEq] at there
      subst there
      exact Grid.due_of_circular here around
    next different =>
      have earlier := ((stepped.visited other).mp visited).resolve_left different
      exact valid.frozen other stored circular earlier there

theorem Valid.covered_stepped (valid : Valid texts origin reachAll walk)
    (covered : Covered texts origin reachAll walk) (first : walk.queue = cell :: rest)
    (here : walk.document.grid.get? cell = some content)
    (stepped : Stepped reachAll walk cell rest content next) :
    Covered texts origin reachAll next := by
  obtain ⟨added, queue, -, mem_added⟩ := stepped.queue
  rw [← valid.same.reads] at mem_added
  intro other
  rw [stepped.grid]
  by_cases same : other = cell
  · subst same
    exact Or.inr (Or.inl (Grid.current_setValue here))
  · by_cases touched : texts.Reads other cell ∧
        content.value ≠ walk.document.grid.due cell content
    · -- The cell reads a new value, so it has been queued now or stands in the queue anyway.
      refine Or.inl ?_
      rw [queue, List.mem_append]
      by_cases standing : other ∈ rest
      · exact Or.inl standing
      · exact Or.inr ((mem_added other).mpr ⟨touched.1, .inl touched.2, standing⟩)
    · rcases covered other with queued | current | pending
      · exact Or.inl (stepped.mem_queue first same queued)
      · refine Or.inr (Or.inl (Grid.current_setValue_of_ne here same ?_ current))
        intro read
        rw [← valid.same.reads] at read
        exact Classical.byContradiction fun new => touched ⟨read, new⟩
      · exact Or.inr (Or.inr (stepped.pending same pending))

/-- A step on a queue that is not empty. -/
theorem Valid.exists_stepped (valid : Valid texts origin reachAll walk)
    (first : walk.queue = cell :: rest) :
    ∃ content, walk.document.grid.get? cell = some content ∧
      Stepped reachAll walk cell rest content (walk.step reachAll) := by
  have inside := valid.sound.inside cell (first ▸ List.mem_cons_self)
  obtain ⟨content, here⟩ := valid.sound.regular.exists_get? inside
  exact ⟨content, here, valid.sound.stepped first here⟩

/-! ### The start of a walk -/

theorem mem_queue_start {document : Document} (wired : document.Wired) (reader : CellRef) :
    reader ∈ (start document origin).queue ↔ document.grid.Reads reader origin := by
  rw [start, queue_enqueueReaders, List.nil_append, mem_fresh _ _ _ wired]
  simp

theorem not_mem_visited_start (document : Document) (cell : CellRef) :
    cell ∉ (start document origin).visited :=
  Std.TreeSet.not_mem_emptyc

theorem valid_start {document : Document} (regular : document.grid.Regular)
    (wired : document.Wired) : Valid document.grid origin reachAll (start document origin) := by
  let idle : Walk := ⟨document, [], ∅, ∅, #[]⟩
  have mem_queue (reader : CellRef) :
      reader ∈ (start document origin).queue ↔ document.grid.Reads reader origin :=
    mem_queue_start wired reader
  have unseen (cell : CellRef) : cell ∉ (start document origin).visited :=
    not_mem_visited_start document cell
  refine ⟨⟨regular, wired, ?_, nodup_fresh idle _ _, ?_⟩, .refl _, rfl, ?_, ?_, ?_⟩
  · intro cell
    rw [start, mem_queued_enqueueReaders, queue_enqueueReaders]
    simp
  · exact fun cell queued => (Grid.contains_of_reads ((mem_queue cell).mp queued)).1
  · exact fun cell queued => .single ((mem_queue cell).mp queued)
  · intro _ reader target read reached
    obtain rfl := reached.resolve_right (unseen target)
    exact Or.inr ((mem_queue reader).mpr read)
  · exact fun cell _ _ visited => absurd visited (unseen cell)

/-- A walk starts well if whatever a cell misses is that it reads the origin, or that it is to be
reached. -/
theorem covered_start {document : Document} (wired : document.Wired)
    (missing : ∀ cell, document.grid.Current cell ∨ document.grid.Reads cell origin ∨
      reachAll = true ∧ TransGen document.grid.Reads cell origin) :
    Covered document.grid origin reachAll (start document origin) := by
  intro cell
  rcases missing cell with current | read | upstream
  · exact Or.inr (Or.inl current)
  · exact Or.inl ((mem_queue_start wired cell).mpr read)
  · exact Or.inr (Or.inr ⟨upstream.1, not_mem_visited_start document cell, upstream.2⟩)

end Step

end Worksheet.Walk
