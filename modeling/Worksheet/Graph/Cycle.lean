import Worksheet.Graph.Basic

/-!
# Cycles

A cell is in a cycle if its formula reads, over one or more edges, the cell itself; a cell that only
reads into a cycle is not. The search goes depth first from the cell and visits no cell twice. Each
cell that it meets is linked to the cell from which it was met first, so that the path of a cycle
can be followed back along the links.
-/

namespace Worksheet.DependencyGraph

/-- All cells that some cell reads. -/
def targets (graph : DependencyGraph) : List CellRef :=
  graph.reads.toList.flatMap fun entry => entry.2.toList

theorem size_erase_lt {links : Std.TreeMap CellRef CellRef} {cell reader : CellRef}
    (found : links[cell]? = some reader) : (links.erase cell).size < links.size := by
  have linked : links.contains cell = true :=
    Std.TreeMap.mem_iff_isSome_getElem?.mpr (by rw [found]; rfl)
  have filled := Std.TreeMap.isEmpty_eq_false_of_contains linked
  rw [Std.TreeMap.isEmpty_eq_size_eq_zero, beq_eq_false_iff_ne] at filled
  rw [Std.TreeMap.size_erase, if_pos linked]
  omega

/-- The cells from some cell back to the start, each linked to the next one, without the start. The
way ends where a link is missing. A link that has been followed is not needed again. -/
def wayBack (start : CellRef) (links : Std.TreeMap CellRef CellRef) (cell : CellRef) :
    List CellRef :=
  if cell = start then []
  else
    match _found : links[cell]? with
    | some reader => cell :: wayBack start (links.erase cell) reader
    | none => [cell]
termination_by links.size
decreasing_by exact size_erase_lt _found

/-- The path from the start to a cell that reads it, and from there to the start. -/
def pathBack (start last : CellRef) (links : Std.TreeMap CellRef CellRef) : List CellRef :=
  start :: ((wayBack start links last).reverse ++ [start])

/-- The state of a search: what has been met, and what is still to be visited. -/
structure CycleSearch where
  /-- The cells that have been met, each with the cell from which it was met first. -/
  links : Std.TreeMap CellRef CellRef
  stack : List CellRef

namespace CycleSearch

/-- Meets a cell that another one reads. -/
def meet (reader : CellRef) (search : CycleSearch) (next : CellRef) : CycleSearch :=
  if search.links.contains next then search
  else ⟨search.links.insert next reader, next :: search.stack⟩

/-- How many of some cells a search has not met yet, plus what stands on its stack. -/
def remaining (cells : List CellRef) (search : CycleSearch) : Nat :=
  (cells.filter fun cell => !search.links.contains cell).length + search.stack.length

/-- With a cell that is met for the first time there is one cell less to be met. -/
theorem length_filter_insert_lt {cells : List CellRef} {links : Std.TreeMap CellRef CellRef}
    {next : CellRef} (member : next ∈ cells) (unmet : ¬ links.contains next = true)
    (reader : CellRef) :
    (cells.filter fun cell => !(links.insert next reader).contains cell).length <
      (cells.filter fun cell => !links.contains cell).length := by
  have sublist : (cells.filter fun cell => !(links.insert next reader).contains cell) =
      (cells.filter fun cell => !links.contains cell).filter
        fun cell => !(links.insert next reader).contains cell := by
    rw [List.filter_filter]
    apply List.filter_congr
    intro cell _
    simp [Std.TreeMap.contains_insert]
  rw [sublist]
  apply List.length_filter_lt_length_iff_exists.mpr
  exact ⟨next, List.mem_filter.mpr ⟨member, by simp [unmet]⟩,
    by simp [Std.TreeMap.contains_insert]⟩

theorem remaining_meet {cells : List CellRef} {next : CellRef} (member : next ∈ cells)
    (reader : CellRef) (search : CycleSearch) :
    (search.meet reader next).remaining cells ≤ search.remaining cells := by
  unfold meet
  split
  · exact Nat.le_refl _
  next unmet =>
    -- The stack grows by one, but fewer cells are left to be met.
    have fewer := length_filter_insert_lt member unmet reader
    simp only [remaining, List.length_cons]
    omega

theorem remaining_foldl_meet {cells nexts : List CellRef} (members : ∀ next ∈ nexts, next ∈ cells)
    (reader : CellRef) (search : CycleSearch) :
    (nexts.foldl (meet reader) search).remaining cells ≤ search.remaining cells := by
  induction nexts generalizing search with
  | nil => exact Nat.le_refl _
  | cons next nexts ih =>
    exact Nat.le_trans (ih (fun next member => members next (List.mem_cons_of_mem _ member)) _)
      (remaining_meet (members next List.mem_cons_self) reader search)

end CycleSearch

/-- Whatever a cell reads is among the cells that are read. -/
theorem mem_targets_of_mem_references {graph : DependencyGraph} {cell next : CellRef}
    (member : next ∈ graph.references cell) : next ∈ graph.targets := by
  unfold references at member
  rw [Std.TreeMap.getD_eq_getD_getElem?] at member
  cases entry : graph.reads[cell]? with
  | none => simp [entry] at member
  | some targets =>
    simp only [entry, Option.getD_some] at member
    exact List.mem_flatMap.mpr
      ⟨(cell, targets), Std.TreeMap.mem_toList_iff_getElem?_eq_some.mpr entry, member⟩

/-- Continues a search for a path back to its start. -/
def searchCycle (graph : DependencyGraph) (start : CellRef) (search : CycleSearch) :
    Option (List CellRef) :=
  match search with
  | ⟨_, []⟩ => none
  | ⟨links, cell :: stack⟩ =>
    -- Whatever is met before the edge to the start is found does not lie on the way back.
    if (graph.references cell).contains start then
      some (pathBack start cell links)
    else
      graph.searchCycle start
        ((graph.references cell).foldl (CycleSearch.meet cell) ⟨links, stack⟩)
termination_by search.remaining graph.targets
decreasing_by
  refine Nat.lt_of_le_of_lt
    (CycleSearch.remaining_foldl_meet (fun _ => mem_targets_of_mem_references) _ _) ?_
  simp only [CycleSearch.remaining, List.length_cons]
  omega

/-- The path of a cycle through a cell, from the cell back to it, if there is one. -/
def cycleThrough? (graph : DependencyGraph) (cell : CellRef) : Option (List CellRef) :=
  graph.searchCycle cell ⟨∅, [cell]⟩

/-- A cell is in a cycle. -/
def isInCycle (graph : DependencyGraph) (cell : CellRef) : Bool :=
  (graph.cycleThrough? cell).isSome

end Worksheet.DependencyGraph
