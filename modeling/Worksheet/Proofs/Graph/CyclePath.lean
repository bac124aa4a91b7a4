import Mathlib.Data.List.Chain
import Mathlib.Data.List.Nodup
import Worksheet.Proofs.Graph.Circularity
import Worksheet.Proofs.Graph.EdgeSet

/-!
# The path of a cycle

The search for a cycle visits some cells, none of them twice, and then it ends. It finds a path
exactly for the cells that read themselves, and the path leads from the cell back to it along edges,
without coming by any cell twice.

Every cell that has been met is linked to a cell that reads it and that was known before. So the
links form a tree with the start at its root: from any cell on the stack they lead back to the start
and pass no cell twice. The cell that closes a cycle is such a cell.
-/

namespace Worksheet.DependencyGraph

open Relation

/-- A path leads from a cell back to this cell, each time to a cell that the one before reads, and
comes by no cell twice on its way. -/
def ReturnsTo (graph : DependencyGraph) (cell : CellRef) (path : List CellRef) : Prop :=
  ∃ between, path = cell :: (between ++ [cell]) ∧ path.IsChain graph.Reads ∧
    (cell :: between).Nodup

/-- A search visits some cells one after the other and ends with an answer: there is no cycle if
nothing is left to be visited, and there is one if the cell that is visited reads the start.
Otherwise the cells that it reads are met, and the search goes on. -/
inductive Visits (graph : DependencyGraph) (start : CellRef) :
    CycleSearch → List CellRef → Option (List CellRef) → Prop where
  | exhausted (links : Std.TreeMap CellRef CellRef) : Visits graph start ⟨links, []⟩ [] none
  | closed {links : Std.TreeMap CellRef CellRef} {cell : CellRef} {stack : List CellRef}
      (closes : graph.Reads cell start) :
      Visits graph start ⟨links, cell :: stack⟩ [cell] (some (pathBack start cell links))
  | onwards {links : Std.TreeMap CellRef CellRef} {cell : CellRef} {stack later : List CellRef}
      {answer : Option (List CellRef)} (apart : ¬ graph.Reads cell start)
      (rest : Visits graph start
        ((graph.references cell).foldl (CycleSearch.meet cell) ⟨links, stack⟩) later answer) :
      Visits graph start ⟨links, cell :: stack⟩ (cell :: later) answer

variable {graph : DependencyGraph} {start : CellRef}

/-! ### Following links -/

/-- The links lead from a cell over the cells of a trail to the start. -/
inductive Leads (start : CellRef) (links : Std.TreeMap CellRef CellRef) :
    CellRef → List CellRef → Prop where
  | home : Leads start links start []
  | link {cell reader : CellRef} {trail : List CellRef} (away : cell ≠ start)
      (found : links[cell]? = some reader) (rest : Leads start links reader trail) :
      Leads start links cell (cell :: trail)

namespace Leads

variable {links more : Std.TreeMap CellRef CellRef} {cell reader : CellRef} {trail : List CellRef}

/-- All cells of a trail have links, and the start is not one of them. -/
theorem linked (leads : Leads start links cell trail) :
    ∀ passed ∈ trail, passed ≠ start ∧ passed ∈ links := by
  induction leads with
  | home => simp
  | link away found rest ih =>
    refine List.forall_mem_cons.mpr ⟨⟨away, ?_⟩, ih⟩
    exact Std.TreeMap.mem_iff_isSome_getElem?.mpr (by rw [found]; rfl)

/-- A trail depends on the links of its own cells only. -/
theorem congr (leads : Leads start links cell trail)
    (same : ∀ passed ∈ trail, more[passed]? = links[passed]?) : Leads start more cell trail := by
  induction leads with
  | home => exact .home
  | link away found rest ih =>
    rw [List.forall_mem_cons] at same
    exact .link away (same.1.trans found) (ih same.2)

theorem insert (leads : Leads start links cell trail) {next : CellRef} (fresh : next ∉ links)
    (reader : CellRef) : Leads start (links.insert next reader) cell trail := by
  refine leads.congr fun passed member => ?_
  have different : next ≠ passed := fun same => fresh (same ▸ (leads.linked passed member).2)
  simp [Std.TreeMap.getElem?_insert, different]

/-- Following the links gives the trail, although each link that has been followed is dropped. -/
theorem wayBack_eq (leads : Leads start links cell trail) (distinct : trail.Nodup) :
    wayBack start links cell = trail := by
  -- Along the trail, since neither the cell nor the links stay the same.
  induction trail generalizing links cell with
  | nil =>
    cases leads
    rw [wayBack, if_pos rfl]
  | cons first trail ih =>
    obtain ⟨unseen, distinct⟩ := List.nodup_cons.mp distinct
    cases leads with
    | @link _ reader _ away found rest =>
      have dropped : Leads start (links.erase first) reader trail := by
        refine rest.congr fun passed member => ?_
        have different : first ≠ passed := fun same => unseen (same ▸ member)
        simp [Std.TreeMap.getElem?_erase, different]
      rw [wayBack, if_neg away]
      split
      next next found' =>
        obtain rfl := Option.some.inj (found.symm.trans found')
        rw [ih dropped distinct]
      next absent => simp [found] at absent

/-- If each link is an edge, each cell of a trail is read by the next one. -/
theorem isChain (leads : Leads start links cell trail)
    (edges : ∀ cell reader, links[cell]? = some reader → graph.Reads reader cell)
    {target : CellRef} (read : graph.Reads cell target) :
    (target :: (trail ++ [start])).IsChain fun target reader => graph.Reads reader target := by
  induction leads generalizing target with
  | home => exact List.isChain_cons_cons.mpr ⟨read, List.isChain_singleton start⟩
  | link away found rest ih => exact List.isChain_cons_cons.mpr ⟨read, ih (edges _ _ found)⟩

/-- The trail of a cell that reads the start is the way back. -/
theorem returnsTo (leads : Leads start links cell trail) (distinct : trail.Nodup)
    (edges : ∀ cell reader, links[cell]? = some reader → graph.Reads reader cell)
    (closes : graph.Reads cell start) : graph.ReturnsTo start (pathBack start cell links) := by
  refine ⟨trail.reverse, ?_, ?_, ?_⟩
  · rw [pathBack, leads.wayBack_eq distinct]
  · have reversed : pathBack start cell links = (start :: (trail ++ [start])).reverse := by
      simp [pathBack, leads.wayBack_eq distinct]
    rw [reversed, List.isChain_reverse]
    exact leads.isChain edges closes
  · refine List.nodup_cons.mpr ⟨fun member => ?_, List.nodup_reverse.mpr distinct⟩
    exact (leads.linked start (List.mem_reverse.mp member)).1 rfl

end Leads

namespace CycleSearch

/-- The links are edges, the other way around, and form a tree with the start at its root. The cells
on the stack are in it, each once. -/
structure Rooted (graph : DependencyGraph) (start : CellRef) (search : CycleSearch) : Prop where
  edges : ∀ cell reader, search.links[cell]? = some reader → graph.Reads reader cell
  leads : ∀ cell, cell = start ∨ cell ∈ search.links →
    ∃ trail, Leads start search.links cell trail ∧ trail.Nodup
  known : ∀ cell ∈ search.stack, cell = start ∨ cell ∈ search.links
  distinct : search.stack.Nodup

variable {links : Std.TreeMap CellRef CellRef} {cell reader next : CellRef} {search : CycleSearch}

/-- A cell that is met for the first time becomes a leaf of the tree. -/
theorem Rooted.meet (rooted : Rooted graph start search)
    (known : reader = start ∨ reader ∈ search.links) (read : graph.Reads reader next)
    (away : next ≠ start) : Rooted graph start (search.meet reader next) := by
  rw [CycleSearch.meet]
  split
  next => exact rooted
  next unmet =>
    have fresh : next ∉ search.links := unmet
    constructor
    case edges =>
      intro cell reader found
      simp only [Std.TreeMap.getElem?_insert, Std.LawfulEqOrd.compare_eq_iff_eq] at found
      split at found
      next same => exact same ▸ Option.some.inj found ▸ read
      next => exact rooted.edges cell reader found
    case leads =>
      intro cell linked
      rw [Std.TreeMap.mem_insert, Std.LawfulEqOrd.compare_eq_iff_eq, or_left_comm] at linked
      rcases linked with rfl | old
      · obtain ⟨trail, leads, distinct⟩ := rooted.leads reader known
        refine ⟨next :: trail, .link away ?_ (leads.insert fresh reader), ?_⟩
        · exact Std.TreeMap.getElem?_insert_self
        · exact List.nodup_cons.mpr ⟨fun member => fresh (leads.linked next member).2, distinct⟩
      · obtain ⟨trail, leads, distinct⟩ := rooted.leads cell old
        exact ⟨trail, leads.insert fresh reader, distinct⟩
    case known =>
      refine List.forall_mem_cons.mpr ⟨.inr Std.TreeMap.mem_insert_self, fun cell member => ?_⟩
      exact (rooted.known cell member).imp_right fun linked =>
        Std.TreeMap.mem_insert.mpr (.inr linked)
    case distinct =>
      -- Whatever stands on the stack is the start or has been met before.
      refine List.nodup_cons.mpr ⟨fun standing => ?_, rooted.distinct⟩
      exact (rooted.known next standing).elim away fresh

theorem Rooted.foldl_meet (rooted : Rooted graph start search)
    (known : reader = start ∨ reader ∈ search.links) {nexts : List CellRef}
    (read : ∀ next ∈ nexts, graph.Reads reader next ∧ next ≠ start) :
    Rooted graph start (nexts.foldl (CycleSearch.meet reader) search) := by
  induction nexts generalizing search with
  | nil => exact rooted
  | cons next nexts ih =>
    rw [List.forall_mem_cons] at read
    refine ih (rooted.meet known read.1.1 read.1.2) (known.imp_right fun linked => ?_) read.2
    have grown : reader ∈ ([next].foldl (CycleSearch.meet reader) search).links :=
      (mem_links_foldl_meet reader search).mpr (.inl linked)
    exact grown

/-- **A visit.** Where the cell that is visited does not close a cycle, the tree grows by the cells
that are met from it. -/
theorem Rooted.visit {stack : List CellRef} (rooted : Rooted graph start ⟨links, cell :: stack⟩)
    (apart : ¬ graph.Reads cell start) :
    Rooted graph start ((graph.references cell).foldl (CycleSearch.meet cell) ⟨links, stack⟩) := by
  have popped : Rooted graph start ⟨links, stack⟩ :=
    ⟨rooted.edges, rooted.leads, fun other standing =>
      rooted.known other (List.mem_cons_of_mem _ standing), (List.nodup_cons.mp rooted.distinct).2⟩
  refine popped.foldl_meet (rooted.known cell List.mem_cons_self) fun next read => ⟨read, ?_⟩
  -- The start is not among the cells that are met: the search would have ended here.
  rintro rfl
  exact apart read

theorem rooted_start (graph : DependencyGraph) (start : CellRef) :
    Rooted graph start ⟨∅, [start]⟩ := by
  constructor
  case edges =>
    intro cell reader found
    simp at found
  case leads =>
    intro cell known
    obtain rfl := known.resolve_right Std.TreeMap.not_mem_emptyc
    exact ⟨[], .home, List.nodup_nil⟩
  case known => exact fun cell standing => .inl (List.mem_singleton.mp standing)
  case distinct => exact List.nodup_singleton start

end CycleSearch

open CycleSearch

variable {search : CycleSearch}

theorem returnsTo_of_searchCycle (rooted : search.Rooted graph start) {path : List CellRef}
    (found : graph.searchCycle start search = some path) : graph.ReturnsTo start path := by
  fun_induction searchCycle graph start search with
  | case1 => cases found
  | case2 links cell stack closes =>
    obtain rfl := Option.some.inj found
    obtain ⟨trail, leads, distinct⟩ := rooted.leads cell (rooted.known cell List.mem_cons_self)
    exact leads.returnsTo distinct rooted.edges (List.contains_iff_mem.mp closes)
  | case3 links cell stack closes ih =>
    exact ih (rooted.visit fun edge => closes (List.contains_iff_mem.mpr edge)) found

/-! ### The end of a search -/

theorem exists_visits (graph : DependencyGraph) (start : CellRef) (search : CycleSearch) :
    ∃ visited, graph.Visits start search visited (graph.searchCycle start search) := by
  fun_induction searchCycle graph start search with
  | case1 links => exact ⟨[], .exhausted links⟩
  | case2 links cell stack closes => exact ⟨[cell], .closed (List.contains_iff_mem.mp closes)⟩
  | case3 links cell stack closes ih =>
    obtain ⟨later, rest⟩ := ih
    exact ⟨cell :: later, .onwards (fun edge => closes (List.contains_iff_mem.mpr edge)) rest⟩

/-- No cell is visited twice: a cell that is still to be visited stands on the stack, or it is not
the start and has not been met. -/
theorem Visits.nodup {visited : List CellRef} {answer : Option (List CellRef)}
    (visits : graph.Visits start search visited answer) (rooted : search.Rooted graph start) :
    visited.Nodup ∧ ∀ cell ∈ visited,
      cell ∈ search.stack ∨ (cell ≠ start ∧ cell ∉ search.links) := by
  induction visits with
  | exhausted => exact ⟨List.nodup_nil, fun cell member => absurd member List.not_mem_nil⟩
  | @closed links first => exact ⟨List.nodup_singleton first, by simp⟩
  | @onwards links first stack later answer apart rest ih =>
    obtain ⟨distinct, pending⟩ := ih (rooted.visit apart)
    -- What is visited later stood behind the first cell, or is met only now or later.
    have behind : ∀ cell ∈ later, cell ∈ stack ∨ (cell ≠ start ∧ cell ∉ links) := by
      intro cell member
      rcases pending cell member with standing | ⟨away, unmet⟩
      · rcases (mem_stack_foldl_meet _ _).mp standing with old | ⟨read, fresh⟩
        · exact Or.inl old
        · refine Or.inr ⟨fun same => apart ?_, fresh⟩
          exact same ▸ read
      · exact Or.inr ⟨away, fun known => unmet ((mem_links_foldl_meet _ _).mpr (.inl known))⟩
    refine ⟨List.nodup_cons.mpr ⟨fun again => ?_, distinct⟩, fun cell member => ?_⟩
    · rcases behind first again with standing | ⟨away, unmet⟩
      · exact (List.nodup_cons.mp rooted.distinct).1 standing
      · exact (rooted.known first List.mem_cons_self).elim away unmet
    · rcases List.mem_cons.mp member with rfl | further
      · exact Or.inl List.mem_cons_self
      · exact (behind cell further).imp_left (List.mem_cons_of_mem _)

/-- **Cycles are found.** On every graph the search from a cell ends after finitely many visits, no
two of them to one cell. It gives a path if and only if the cell reads itself over one or more
edges, and the path leads along edges from the cell back to it and comes by no cell twice. -/
theorem cycle_found_iff_circular (graph : DependencyGraph) (start : CellRef) :
    (∃ visited, graph.Visits start ⟨∅, [start]⟩ visited (graph.cycleThrough? start) ∧
      visited.Nodup) ∧
    ((graph.cycleThrough? start).isSome = true ↔ TransGen graph.Reads start start) ∧
    ∀ path, graph.cycleThrough? start = some path → graph.ReturnsTo start path := by
  obtain ⟨visited, visits⟩ := exists_visits graph start ⟨∅, [start]⟩
  exact ⟨⟨visited, visits, (visits.nodup (rooted_start graph start)).1⟩,
    graph.isInCycle_iff start, fun path => returnsTo_of_searchCycle (rooted_start graph start)⟩

/-- Of two cycles with cells in common only one runs through the start. -/
theorem cycle_found_beside_another :
    let graph := (∅ : DependencyGraph).afterAll [.addReference ⟨0, 0⟩ ⟨0, 1⟩,
      .addReference ⟨0, 1⟩ ⟨0, 2⟩, .addReference ⟨0, 2⟩ ⟨0, 1⟩, .addReference ⟨0, 2⟩ ⟨0, 0⟩]
    graph.cycleThrough? ⟨0, 0⟩ = some [⟨0, 0⟩, ⟨0, 1⟩, ⟨0, 2⟩, ⟨0, 0⟩] ∧
      graph.ReturnsTo ⟨0, 0⟩ [⟨0, 0⟩, ⟨0, 1⟩, ⟨0, 2⟩, ⟨0, 0⟩] := by
  intro graph
  have found : graph.cycleThrough? ⟨0, 0⟩ = some [⟨0, 0⟩, ⟨0, 1⟩, ⟨0, 2⟩, ⟨0, 0⟩] := by
    decide +kernel
  exact ⟨found, (cycle_found_iff_circular graph ⟨0, 0⟩).2.2 _ found⟩

end Worksheet.DependencyGraph
