import Mathlib.Logic.Function.Iterate
import Worksheet.Proofs.Sheet.Cascade

/-!
# A recalculation comes to its end

The cells that stand in the queue at one time make a round, and those queued meanwhile make the next
one. As long as some reader is still to be reached, one such reader stands in the queue, so every
round visits a new cell, and the grid has only so many. From then on only values that are new lead
further. A cell that is computed in a later round reads a chain of visited cells that is as long as
the number of rounds. None of them occurs twice, since a cell that reads itself displays the error
value from its first visit on, which is nothing new at the second one. So no chain is longer than
the grid has cells, and both together keep a recalculation within its bound, from whatever values it
has started.
-/

namespace Worksheet.Walk

open Relation

variable {texts : Grid} {origin cell : CellRef} {reachAll : Bool} {walk : Walk}

/-! ### Steps in succession -/

theorem run_eq_iterate (bound : Nat) (walk : Walk) :
    walk.run reachAll bound = (step reachAll)^[bound] walk := by
  induction bound generalizing walk with
  | zero => rfl
  | succ bound ih =>
    unfold run
    split
    next empty => exact (Function.iterate_fixed (step_of_queue_nil empty) _).symm
    next => rw [ih, Function.iterate_succ_apply]

/-- Once the queue is empty, further steps change nothing. -/
theorem iterate_of_le {steps bound : Nat} (empty : ((step reachAll)^[steps] walk).queue = [])
    (fits : steps ≤ bound) : (step reachAll)^[bound] walk = (step reachAll)^[steps] walk := by
  obtain ⟨more, rfl⟩ := Nat.exists_eq_add_of_le' fits
  rw [Function.iterate_add_apply]
  exact Function.iterate_fixed (step_of_queue_nil empty) more

namespace Valid

theorem step (valid : Valid texts origin reachAll walk) :
    Valid texts origin reachAll (walk.step reachAll) := by
  cases first : walk.queue with
  | nil => rwa [step_of_queue_nil first]
  | cons cell rest =>
    obtain ⟨content, here, stepped⟩ := valid.exists_stepped first
    exact valid.stepped first here stepped

theorem iterate (valid : Valid texts origin reachAll walk) (steps : Nat) :
    Valid texts origin reachAll ((Walk.step reachAll)^[steps] walk) := by
  induction steps with
  | zero => exact valid
  | succ steps ih =>
    rw [Function.iterate_succ_apply']
    exact ih.step

/-- The first cells of the queue have been visited once as many steps have been taken. -/
theorem mem_visited_iterate (valid : Valid texts origin reachAll walk) {front back : List CellRef}
    (queue : walk.queue = front ++ back) (known : cell ∈ walk.visited ∨ cell ∈ front) :
    cell ∈ ((Walk.step reachAll)^[front.length] walk).visited := by
  induction front generalizing walk back with
  | nil => exact known.resolve_right List.not_mem_nil
  | cons first front ih =>
    rw [List.cons_append] at queue
    obtain ⟨content, here, stepped⟩ := valid.exists_stepped queue
    obtain ⟨added, onwards, -, -⟩ := stepped.queue
    rw [List.append_assoc] at onwards
    rw [List.length_cons, Function.iterate_succ_apply]
    refine ih (valid.stepped queue here stepped) onwards ?_
    rw [stepped.visited, List.mem_cons] at *
    tauto

theorem covered_iterate (valid : Valid texts origin reachAll walk)
    (covered : Covered texts origin reachAll walk) (steps : Nat) :
    Covered texts origin reachAll ((Walk.step reachAll)^[steps] walk) := by
  induction steps with
  | zero => exact covered
  | succ steps ih =>
    rw [Function.iterate_succ_apply']
    have before := valid.iterate steps
    generalize (Walk.step reachAll)^[steps] walk = former at ih before
    cases first : former.queue with
    | nil => rwa [step_of_queue_nil first]
    | cons cell rest =>
      obtain ⟨content, here, stepped⟩ := before.exists_stepped first
      exact before.covered_stepped ih first here stepped

end Valid

/-! ### Chains of visited cells -/

/-- A cell reads so many different cells that have been visited, each over one or more
references. -/
def Chained (texts : Grid) (length : Nat) (walk : Walk) (cell : CellRef) : Prop :=
  ∃ chain : List CellRef, chain.length = length ∧ chain.Nodup ∧ ∀ target ∈ chain,
    texts.Contains target ∧ target ∈ walk.visited ∧ TransGen texts.Reads cell target

theorem Chained.later {next : Walk} {length : Nat} (chained : Chained texts length walk cell)
    (seen : ∀ other ∈ walk.visited, other ∈ next.visited) : Chained texts length next cell := by
  obtain ⟨chain, count, distinct, within⟩ := chained
  refine ⟨chain, count, distinct, fun target member => ?_⟩
  obtain ⟨contains, visited, path⟩ := within target member
  exact ⟨contains, seen target visited, path⟩

namespace Valid

/-- If the first cell of the queue gets a new value, it may be put in front of its chain. -/
theorem chained_of_changed (valid : Valid texts origin reachAll walk) {first : CellRef}
    {rest : List CellRef} (queue : walk.queue = first :: rest) {content : Cell} {next : Walk}
    (here : walk.document.grid.get? first = some content)
    (stepped : Stepped reachAll walk first rest content next)
    (changed : content.value ≠ walk.document.grid.due first content) {length : Nat}
    (chained : Chained texts length walk first) {reader : CellRef}
    (read : texts.Reads reader first) : Chained texts (length + 1) next reader := by
  obtain ⟨chain, count, distinct, within⟩ := chained
  -- In its own chain the cell would be circular and visited, so its value would not be new.
  have fresh : first ∉ chain := by
    intro member
    obtain ⟨-, visited, circular⟩ := within first member
    refine changed ?_
    rw [valid.frozen first content circular visited here,
      Grid.due_of_circular here ((valid.same.circular_iff first).mp circular)]
  refine ⟨first :: chain, by rw [List.length_cons, count],
    List.nodup_cons.mpr ⟨fresh, distinct⟩, fun target member => ?_⟩
  rcases List.mem_cons.mp member with rfl | later
  · exact ⟨(Grid.contains_of_reads read).2, (stepped.visited target).mpr (.inl rfl), .single read⟩
  · obtain ⟨contains, visited, path⟩ := within target later
    exact ⟨contains, stepped.mem_visited target visited, .head read path⟩

/-- Where no reader is still to be reached, only new values lead further, so the chains of the cells
that are queued grow by one. -/
theorem chained_iterate (valid : Valid texts origin reachAll walk)
    (reached : ∀ cell, ¬ Pending texts origin reachAll walk cell) {front back : List CellRef}
    (queue : walk.queue = front ++ back) {length : Nat}
    (early : ∀ cell ∈ front, Chained texts length walk cell)
    (late : ∀ cell ∈ back, Chained texts (length + 1) walk cell) :
    ∀ cell ∈ ((Walk.step reachAll)^[front.length] walk).queue,
      Chained texts (length + 1) ((Walk.step reachAll)^[front.length] walk) cell := by
  induction front generalizing walk back with
  | nil =>
    rw [List.nil_append] at queue
    subst queue
    exact late
  | cons first front ih =>
    rw [List.cons_append] at queue
    obtain ⟨content, here, stepped⟩ := valid.exists_stepped queue
    obtain ⟨added, onwards, -, mem_added⟩ := stepped.queue
    rw [← valid.same.reads] at mem_added
    rw [List.append_assoc] at onwards
    rw [List.length_cons, Function.iterate_succ_apply]
    refine ih (valid.stepped queue here stepped) ?_ onwards
      (fun cell member => (early cell (List.mem_cons_of_mem _ member)).later stepped.mem_visited)
      fun reader member => ?_
    · exact fun other pending => reached other (pending.earlier stepped.mem_visited)
    · rcases List.mem_append.mp member with standing | new
      · exact (late reader standing).later stepped.mem_visited
      · obtain ⟨read, spreads, -⟩ := (mem_added reader).mp new
        have path : TransGen texts.Reads reader origin :=
          .head read (valid.upstream first (queue ▸ List.mem_cons_self))
        have changed : content.value ≠ walk.document.grid.due first content := by
          refine spreads.resolve_right fun unseen => reached reader ⟨unseen.1, ?_, path⟩
          exact fun visited => unseen.2 (stepped.mem_visited reader visited)
        exact valid.chained_of_changed queue here stepped changed
          (early first List.mem_cons_self) read

end Valid

/-! ### Rounds -/

/-- Computes all cells again that stand in the queue. -/
def round (reachAll : Bool) (walk : Walk) : Walk :=
  (step reachAll)^[walk.queue.length] walk

namespace Valid

theorem round (valid : Valid texts origin reachAll walk) :
    Valid texts origin reachAll (walk.round reachAll) :=
  valid.iterate _

theorem mem_visited_round (valid : Valid texts origin reachAll walk)
    (known : cell ∈ walk.visited ∨ cell ∈ walk.queue) :
    cell ∈ (walk.round reachAll).visited :=
  valid.mem_visited_iterate (List.append_nil _).symm known

theorem rounds (valid : Valid texts origin reachAll walk) (rounds : Nat) :
    Valid texts origin reachAll ((Walk.round reachAll)^[rounds] walk) := by
  induction rounds with
  | zero => exact valid
  | succ rounds ih =>
    rw [Function.iterate_succ_apply']
    exact ih.round

/-- A queue is not longer than the grid has cells. -/
theorem length_queue_le (valid : Valid texts origin reachAll walk) (regular : texts.Regular) :
    walk.queue.length ≤ texts.cells.size :=
  regular.length_le_size valid.sound.nodup fun cell queued =>
    (valid.same.contains_iff cell).mpr (valid.sound.inside cell queued)

theorem exists_steps (valid : Valid texts origin reachAll walk) (regular : texts.Regular)
    (rounds : Nat) : ∃ steps ≤ rounds * texts.cells.size,
      (Walk.round reachAll)^[rounds] walk = (Walk.step reachAll)^[steps] walk := by
  induction rounds with
  | zero => exact ⟨0, Nat.zero_le _, rfl⟩
  | succ rounds ih =>
    obtain ⟨steps, fits, same⟩ := ih
    have more := (valid.rounds rounds).length_queue_le regular
    refine ⟨((Walk.round reachAll)^[rounds] walk).queue.length + steps, ?_, ?_⟩
    · rw [Nat.add_mul, Nat.one_mul]
      omega
    · rw [Function.iterate_succ_apply', Function.iterate_add_apply, ← same, Walk.round]

/-! ### Reaching all readers -/

/-- Someone who is still to be reached stands in the queue. -/
theorem exists_queued (valid : Valid texts origin reachAll walk)
    (pending : Pending texts origin reachAll walk cell) :
    ∃ next ∈ walk.queue, next ∉ walk.visited := by
  obtain ⟨all, unseen, path⟩ := pending
  -- Along the path to the origin there is a first cell that has been visited, or the origin.
  induction path using TransGen.head_induction_on with
  | single edge =>
    have passed := valid.passed all _ origin edge (Or.inl rfl)
    exact ⟨_, passed.resolve_left unseen, unseen⟩
  | @head reader target edge _ ih =>
    by_cases visited : target ∈ walk.visited
    · have passed := valid.passed all reader target edge (Or.inr visited)
      exact ⟨reader, passed.resolve_left unseen, unseen⟩
    · exact ih visited

/-- After some rounds nobody is left to be reached, or that many cells have been visited. -/
theorem reached_or_visits (valid : Valid texts origin reachAll walk) (rounds : Nat) :
    (∀ cell, ¬ Pending texts origin reachAll ((Walk.round reachAll)^[rounds] walk) cell) ∨
      ∃ visits : List CellRef, visits.length = rounds ∧ visits.Nodup ∧ ∀ cell ∈ visits,
        texts.Contains cell ∧ cell ∈ ((Walk.round reachAll)^[rounds] walk).visited := by
  induction rounds with
  | zero => exact Or.inr ⟨[], rfl, List.nodup_nil, by simp⟩
  | succ rounds ih =>
    rw [Function.iterate_succ_apply']
    have before := valid.rounds rounds
    generalize (Walk.round reachAll)^[rounds] walk = former at ih before
    by_cases left : ∃ cell, Pending texts origin reachAll (former.round reachAll) cell
    · obtain ⟨last, pending⟩ := left
      have earlier : Pending texts origin reachAll former last :=
        pending.earlier fun _ visited => before.mem_visited_round (.inl visited)
      -- Then a cell stands in the queue that has not been visited, and the round visits it.
      obtain ⟨visits, count, distinct, seen⟩ := ih.resolve_left fun none => none last earlier
      obtain ⟨next, queued, unseen⟩ := before.exists_queued earlier
      refine Or.inr ⟨next :: visits, by rw [List.length_cons, count],
        List.nodup_cons.mpr ⟨fun member => unseen (seen next member).2, distinct⟩, ?_⟩
      intro cell member
      rcases List.mem_cons.mp member with rfl | old
      · exact ⟨(before.same.contains_iff cell).mpr (before.sound.inside cell queued),
          before.mem_visited_round (.inr queued)⟩
      · exact ⟨(seen cell old).1, before.mem_visited_round (.inl (seen cell old).2)⟩
    · exact Or.inl (not_exists.mp left)

theorem reached (valid : Valid texts origin reachAll walk) (regular : texts.Regular) :
    ∀ cell, ¬ Pending texts origin reachAll
      ((Walk.round reachAll)^[texts.cells.size + 1] walk) cell := by
  refine (valid.reached_or_visits _).resolve_right ?_
  rintro ⟨visits, count, distinct, seen⟩
  have fits := regular.length_le_size distinct fun cell member => (seen cell member).1
  omega

/-! ### Coming to rest -/

theorem rounds_of_reached (valid : Valid texts origin reachAll walk)
    (reached : ∀ cell, ¬ Pending texts origin reachAll walk cell) (rounds : Nat) :
    (∀ cell, ¬ Pending texts origin reachAll ((Walk.round reachAll)^[rounds] walk) cell) ∧
      ∀ cell ∈ ((Walk.round reachAll)^[rounds] walk).queue,
        Chained texts rounds ((Walk.round reachAll)^[rounds] walk) cell := by
  induction rounds with
  | zero => exact ⟨reached, fun _ _ => ⟨[], rfl, List.nodup_nil, by simp⟩⟩
  | succ rounds ih =>
    rw [Function.iterate_succ_apply']
    have before := valid.rounds rounds
    refine ⟨fun cell pending => ih.1 cell (pending.earlier fun _ visited => ?_), ?_⟩
    · exact before.mem_visited_round (.inl visited)
    · exact before.chained_iterate ih.1 (List.append_nil _).symm ih.2 (by simp)

/-- **Termination.** A walk comes to an empty queue, within two rounds for each cell and two
more. -/
theorem exists_queue_eq_nil (valid : Valid texts origin reachAll walk) (regular : texts.Regular) :
    ∃ steps ≤ 2 * (texts.cells.size + 1) * (texts.cells.size + 1),
      ((Walk.step reachAll)^[steps] walk).queue = [] := by
  -- The first rounds reach all readers, as many more exhaust the chains of new values.
  let halfway := (Walk.round reachAll)^[texts.cells.size + 1] walk
  have valid' : Valid texts origin reachAll halfway := valid.rounds _
  have chains := (valid'.rounds_of_reached (valid.reached regular) (texts.cells.size + 1)).2
  have empty : ((Walk.round reachAll)^[texts.cells.size + 1] halfway).queue = [] := by
    refine List.eq_nil_iff_forall_not_mem.mpr fun cell queued => ?_
    obtain ⟨chain, count, distinct, within⟩ := chains cell queued
    have fits := regular.length_le_size distinct fun target member => (within target member).1
    omega
  obtain ⟨steps, fits, same⟩ := valid.exists_steps regular
    (texts.cells.size + 1 + (texts.cells.size + 1))
  rw [← Function.iterate_add_apply, same] at empty
  refine ⟨steps, Nat.le_trans fits ?_, empty⟩
  rw [← Nat.two_mul]
  exact Nat.mul_le_mul_left _ (Nat.le_succ _)

/-- Once the queue is empty, every cell displays the value that it is due. -/
theorem consistent (valid : Valid texts origin reachAll walk)
    (covered : Covered texts origin reachAll walk) (empty : walk.queue = []) :
    walk.document.Consistent := by
  refine ⟨valid.sound.regular, valid.sound.wired, fun cell => ?_⟩
  rcases covered cell with queued | current | pending
  · simp [empty] at queued
  · exact current
  · obtain ⟨next, queued, -⟩ := valid.exists_queued pending
    simp [empty] at queued

end Valid

end Worksheet.Walk

namespace Worksheet.Document

open Relation

/-- A recalculation stays within its bound, whatever the cells display at its start. -/
theorem queue_run_start {document : Document} (regular : document.grid.Regular)
    (wired : document.Wired) (origin : CellRef) (reachAll : Bool) :
    ((Walk.start document origin).run reachAll (Walk.bound document)).queue = [] := by
  have valid : Walk.Valid document.grid origin reachAll (Walk.start document origin) :=
    Walk.valid_start regular wired
  obtain ⟨steps, fits, empty⟩ := valid.exists_queue_eq_nil regular
  have enough : steps ≤ Walk.bound document := fits
  rwa [Walk.run_eq_iterate, Walk.iterate_of_le empty enough]

/-- **Recalculation.** Where each cell displays the value that it is due, or reads the edited cell,
or may be reached from there, propagating the edit makes the document consistent and leaves alone
what is written in it. -/
theorem consistent_propagate {document : Document} {origin : CellRef} {reachAll : Bool}
    (regular : document.grid.Regular) (wired : document.Wired)
    (missing : ∀ cell, document.grid.Current cell ∨ document.grid.Reads cell origin ∨
      reachAll = true ∧ TransGen document.grid.Reads cell origin) :
    (document.propagate origin reachAll).1.Consistent ∧
      document.grid.SameTexts (document.propagate origin reachAll).1.grid ∧
        (document.propagate origin reachAll).1.grid.contents = document.grid.contents := by
  have valid : Walk.Valid document.grid origin reachAll (Walk.start document origin) :=
    Walk.valid_start regular wired
  have covered := valid.covered_iterate (Walk.covered_start wired missing) (Walk.bound document)
  have after := valid.iterate (Walk.bound document)
  have empty := queue_run_start regular wired origin reachAll
  rw [Walk.run_eq_iterate] at empty
  unfold propagate
  rw [Walk.run_eq_iterate]
  exact ⟨after.consistent covered empty, after.same, after.contents⟩

end Worksheet.Document
