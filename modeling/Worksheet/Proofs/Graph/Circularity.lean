import Worksheet.Graph.Cycle
import Worksheet.Proofs.Graph.Edges

/-!
# Cells in cycles

A cell is circular if it reads itself over one or more edges. The search for a cycle finds a path
exactly for these cells: what it has met and taken from its stack is closed under reading, so an
empty stack leaves no way back to the start.

If two graphs differ in the edges of one cell only, a cell that is circular in one of them but not
in the other is joined to that cell in both directions: a cycle that opens or closes goes through
the cell that was wired anew.
-/

namespace Worksheet.DependencyGraph

open Relation

/-- A cell reads itself over one or more edges. -/
def Circular (graph : DependencyGraph) (cell : CellRef) : Prop :=
  TransGen graph.Reads cell cell

namespace CycleSearch

variable {start cell next : CellRef} {nexts : List CellRef}

theorem mem_links_foldl_meet (reader : CellRef) (search : CycleSearch) :
    cell ∈ (nexts.foldl (meet reader) search).links ↔ cell ∈ search.links ∨ cell ∈ nexts := by
  induction nexts generalizing search with
  | nil => simp
  | cons next nexts ih =>
    rw [List.foldl_cons, ih, List.mem_cons, meet]
    by_cases known : search.links.contains next = true
    · have met : next ∈ search.links := known
      simp only [known, if_true]
      grind
    · simp only [known, Bool.false_eq_true, if_false, Std.TreeMap.mem_insert,
        Std.LawfulEqOrd.compare_eq_iff_eq]
      grind

/-- Meeting cells takes nothing from the stack and puts every cell there that is new. -/
theorem mem_stack_foldl_meet (reader : CellRef) (search : CycleSearch) :
    cell ∈ (nexts.foldl (meet reader) search).stack ↔
      cell ∈ search.stack ∨ (cell ∈ nexts ∧ cell ∉ search.links) := by
  induction nexts generalizing search with
  | nil => simp
  | cons next nexts ih =>
    rw [List.foldl_cons, ih, List.mem_cons, meet]
    by_cases known : search.links.contains next = true
    · have met : next ∈ search.links := known
      simp only [known, if_true]
      grind
    · have unmet : next ∉ search.links := known
      simp only [known, Bool.false_eq_true, if_false, Std.TreeMap.mem_insert,
        Std.LawfulEqOrd.compare_eq_iff_eq, List.mem_cons]
      grind

/-- Every cell on the stack is read by the start, over any number of edges. -/
def Traced (graph : DependencyGraph) (start : CellRef) (search : CycleSearch) : Prop :=
  ∀ cell ∈ search.stack, ReflTransGen graph.Reads start cell

/-- The start and every cell that has been met still stand on the stack, or all cells that they
read have been met and the start is not among them. -/
def Explored (graph : DependencyGraph) (start : CellRef) (search : CycleSearch) : Prop :=
  ∀ cell, cell = start ∨ cell ∈ search.links →
    cell ∈ search.stack ∨
      (¬ graph.Reads cell start ∧ ∀ next, graph.Reads cell next → next ∈ search.links)

variable {graph : DependencyGraph} {links : Std.TreeMap CellRef CellRef} {stack : List CellRef}

theorem Traced.meet (traced : Traced graph start ⟨links, cell :: stack⟩) :
    Traced graph start ((graph.references cell).foldl (CycleSearch.meet cell) ⟨links, stack⟩) := by
  intro other member
  rcases (mem_stack_foldl_meet _ _).mp member with old | ⟨read, -⟩
  · exact traced other (List.mem_cons_of_mem _ old)
  · exact (traced cell List.mem_cons_self).tail read

theorem Explored.meet (explored : Explored graph start ⟨links, cell :: stack⟩)
    (apart : ¬ graph.Reads cell start) :
    Explored graph start
      ((graph.references cell).foldl (CycleSearch.meet cell) ⟨links, stack⟩) := by
  intro other known
  rw [mem_links_foldl_meet] at known
  -- A cell met before is where it was, unless it is the one that was just taken from the stack.
  by_cases old : other = start ∨ other ∈ links
  · rcases explored other old with standing | ⟨away, closed⟩
    · rcases List.mem_cons.mp standing with rfl | kept
      · exact Or.inr ⟨apart, fun next read => (mem_links_foldl_meet _ _).mpr (Or.inr read)⟩
      · exact Or.inl ((mem_stack_foldl_meet _ _).mpr (Or.inl kept))
    · refine Or.inr ⟨away, fun next read => ?_⟩
      exact (mem_links_foldl_meet _ _).mpr (Or.inl (closed next read))
  · -- A cell met now has been put on the stack.
    have fresh : other ∉ links := fun member => old (Or.inr member)
    have read : other ∈ graph.references cell := by grind
    exact Or.inl ((mem_stack_foldl_meet _ _).mpr (Or.inr ⟨read, fresh⟩))

end CycleSearch

section Search

variable {graph : DependencyGraph} {start : CellRef} {search : CycleSearch}

/-- A path is found only if there is a cycle. -/
theorem transGen_of_searchCycle (traced : search.Traced graph start)
    (found : (graph.searchCycle start search).isSome) : TransGen graph.Reads start start := by
  fun_induction searchCycle graph start search with
  | case1 => simp at found
  | case2 links cell stack closes =>
    exact TransGen.tail' (traced cell List.mem_cons_self) (List.contains_iff_mem.mp closes)
  | case3 links cell stack closes ih => exact ih traced.meet found

/-- If no path is found, the start is on no cycle. -/
theorem not_transGen_of_searchCycle (explored : search.Explored graph start)
    (lost : graph.searchCycle start search = none) : ¬ TransGen graph.Reads start start := by
  fun_induction searchCycle graph start search with
  | case1 links =>
    -- With nothing on the stack, only the second reason is left for every cell that has been met.
    have closed : ∀ cell, cell = start ∨ cell ∈ links →
        ¬ graph.Reads cell start ∧ ∀ next, graph.Reads cell next → next ∈ links :=
      fun cell known => (explored cell known).resolve_left (by simp)
    -- Whatever the start reads over some edges has been met, so no edge from there leads back.
    have reached : ∀ cell, TransGen graph.Reads start cell → cell ∈ links := by
      intro cell path
      induction path with
      | single edge => exact (closed start (Or.inl rfl)).2 _ edge
      | tail _ edge ih => exact (closed _ (Or.inr ih)).2 _ edge
    intro cycle
    obtain ⟨last, path, edge⟩ := TransGen.tail'_iff.mp cycle
    rcases reflTransGen_iff_eq_or_transGen.mp path with rfl | longer
    · exact (closed last (Or.inl rfl)).1 edge
    · exact (closed last (Or.inr (reached last longer))).1 edge
  | case2 => simp at lost
  | case3 links cell stack closes ih =>
    exact ih (explored.meet fun edge => closes (List.contains_iff_mem.mpr edge)) lost

end Search

/-- The search finds a path exactly for the cells that read themselves. -/
theorem isInCycle_iff (graph : DependencyGraph) (cell : CellRef) :
    graph.isInCycle cell = true ↔ graph.Circular cell := by
  have traced : CycleSearch.Traced graph cell ⟨∅, [cell]⟩ := by
    intro other member
    rw [List.mem_singleton.mp member]
  have explored : CycleSearch.Explored graph cell ⟨∅, [cell]⟩ := by
    intro other known
    exact Or.inl (List.mem_singleton.mpr (known.resolve_right Std.TreeMap.not_mem_emptyc))
  constructor
  · exact fun found => transGen_of_searchCycle traced found
  · intro circular
    cases result : graph.searchCycle cell ⟨∅, [cell]⟩ with
    | none => exact absurd circular (not_transGen_of_searchCycle explored result)
    | some path => simp [isInCycle, cycleThrough?, result]

end Worksheet.DependencyGraph

namespace Worksheet

open Relation

section Rewiring

variable {reads former : CellRef → CellRef → Prop} {rewired first last cell : CellRef}

/-- A path of one relation is a path of another one that differs at a single cell, or it comes to
that cell over edges that both relations have. -/
theorem transGen_or_through (agree : ∀ reader target, reader ≠ rewired →
      (reads reader target ↔ former reader target)) (path : TransGen former first last) :
    TransGen reads first last ∨
      (ReflTransGen reads first rewired ∧ ReflTransGen former first rewired ∧
        TransGen former rewired last) := by
  -- From the front, so that the path may be left at the first visit of the cell.
  induction path using TransGen.head_induction_on with
  | @single first edge =>
    by_cases here : first = rewired
    · subst here
      exact Or.inr ⟨.refl, .refl, .single edge⟩
    · exact Or.inl (.single ((agree first last here).mpr edge))
  | @head first next edge path ih =>
    by_cases here : first = rewired
    · subst here
      exact Or.inr ⟨.refl, .refl, .head edge path⟩
    · have kept : reads first next := (agree first next here).mpr edge
      rcases ih with same | ⟨there, formerly, onwards⟩
      · exact Or.inl (.head kept same)
      · exact Or.inr ⟨.head kept there, .head edge formerly, onwards⟩

/-- A cycle that only one of two relations has goes through the cell at which they differ: this cell
is itself in a cycle there, and the members of the cycle read it in both relations. -/
theorem through_rewired_of_cycle (agree : ∀ reader target, reader ≠ rewired →
      (reads reader target ↔ former reader target)) (cycle : TransGen former cell cell)
    (broken : ¬ TransGen reads cell cell) :
    TransGen former rewired rewired ∧ ReflTransGen reads cell rewired ∧
      ReflTransGen former cell rewired := by
  obtain ⟨there, formerly, onwards⟩ := (transGen_or_through agree cycle).resolve_left broken
  exact ⟨onwards.trans_left formerly, there, formerly⟩

end Rewiring

end Worksheet
