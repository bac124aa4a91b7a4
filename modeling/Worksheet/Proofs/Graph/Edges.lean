import Mathlib.Logic.Relation
import Worksheet.Graph.Basic

/-!
# The edges of a dependency graph

A graph is looked at through one relation, *the first cell reads the second*. Each operation is
described by what it does to this relation. As long as both directions of the graph hold the same
edges, who reads a cell is the converse of the relation. The lists that a graph gives out are
sorted, so graphs with the same edges give out the same lists.
-/

namespace Worksheet.DependencyGraph

/-- The formula of a cell reads another cell. -/
def Reads (graph : DependencyGraph) (reader target : CellRef) : Prop :=
  target ∈ graph.references reader

/-- Both directions of a graph hold the same edges. -/
def Mirrored (graph : DependencyGraph) : Prop :=
  ∀ reader target, reader ∈ graph.dependents target ↔ graph.Reads reader target

section Lists

variable {graph other : DependencyGraph} {cell : CellRef}

theorem reads_iff_mem_reads {reader target : CellRef} :
    graph.Reads reader target ↔ target ∈ graph.reads.getD reader ∅ :=
  Std.TreeSet.mem_toList

theorem mem_dependents_iff {reader target : CellRef} :
    reader ∈ graph.dependents target ↔ reader ∈ graph.readers.getD target ∅ :=
  Std.TreeSet.mem_toList

/-- Graphs with the same edges list the same references, in the same order. -/
theorem references_congr (same : ∀ target, graph.Reads cell target ↔ other.Reads cell target) :
    graph.references cell = other.references cell := by
  apply Std.TreeSet.Equiv.toList_eq
  apply Std.TreeSet.equiv_iff_forall_mem_iff.mpr
  intro target
  rw [← reads_iff_mem_reads, ← reads_iff_mem_reads]
  exact same target

/-- Mirrored graphs with the same edges list the same readers, in the same order. -/
theorem dependents_congr (mirrored : graph.Mirrored) (otherMirrored : other.Mirrored)
    (same : ∀ reader, graph.Reads reader cell ↔ other.Reads reader cell) :
    graph.dependents cell = other.dependents cell := by
  apply Std.TreeSet.Equiv.toList_eq
  apply Std.TreeSet.equiv_iff_forall_mem_iff.mpr
  intro reader
  rw [← mem_dependents_iff, ← mem_dependents_iff, mirrored, otherMirrored]
  exact same reader

/-- No reader of a cell is listed twice. -/
theorem nodup_dependents : (graph.dependents cell).Nodup :=
  (Std.TreeSet.distinct_toList (t := graph.readers.getD cell ∅)).imp fun different same =>
    different (Std.LawfulEqOrd.compare_eq_iff_eq.mpr same)

end Lists

/-! ### The empty graph -/

theorem not_reads_empty (reader target : CellRef) :
    ¬ (∅ : DependencyGraph).Reads reader target := by
  change target ∉ (Std.TreeMap.getD ∅ reader ∅ : Std.TreeSet CellRef).toList
  simp

theorem mirrored_empty : (∅ : DependencyGraph).Mirrored := by
  intro reader target
  have unread : reader ∉ (∅ : DependencyGraph).dependents target := by
    change reader ∉ (Std.TreeMap.getD ∅ target ∅ : Std.TreeSet CellRef).toList
    simp
  exact iff_of_false unread (not_reads_empty reader target)

/-! ### Adding an edge -/

section Add

/-- Both directions of a graph are tables of sets. Adding a value to the set of a key adds this one
entry to the table. -/
theorem mem_getD_insert (table : Std.TreeMap CellRef (Std.TreeSet CellRef))
    (key value other cell : CellRef) :
    cell ∈ (table.insert key ((table.getD key ∅).insert value)).getD other ∅ ↔
      cell ∈ table.getD other ∅ ∨ (other = key ∧ cell = value) := by
  by_cases here : key = other
  · subst here
    rw [Std.TreeMap.getD_insert_self, Std.TreeSet.mem_insert, Std.LawfulEqOrd.compare_eq_iff_eq,
      or_comm, eq_comm]
    simp only [true_and]
  · simp only [Std.TreeMap.getD_insert, Std.LawfulEqOrd.compare_eq_iff_eq, here, Ne.symm here,
      if_false, false_and, or_false]

variable (graph : DependencyGraph) (reader target : CellRef)

/-- An edge that is there already is not added again. -/
theorem addReference_of_reads {graph : DependencyGraph} {reader target : CellRef}
    (known : graph.Reads reader target) : graph.addReference reader target = (graph, false) := by
  have contained : (graph.reads.getD reader ∅).contains target = true :=
    reads_iff_mem_reads.mp known
  simp only [addReference, contained, if_true]

theorem addReference_of_not_reads {graph : DependencyGraph} {reader target : CellRef}
    (new : ¬ graph.Reads reader target) : graph.addReference reader target =
      (⟨graph.reads.insert reader ((graph.reads.getD reader ∅).insert target),
        graph.readers.insert target ((graph.readers.getD target ∅).insert reader)⟩, true) := by
  have absent : ¬ (graph.reads.getD reader ∅).contains target = true :=
    fun contained => new (reads_iff_mem_reads.mpr contained)
  simp only [addReference, absent, Bool.false_eq_true, if_false]

theorem reads_addReference (cell other : CellRef) :
    (graph.addReference reader target).1.Reads cell other ↔
      graph.Reads cell other ∨ (cell = reader ∧ other = target) := by
  by_cases known : graph.Reads reader target
  · rw [addReference_of_reads known]
    refine ⟨Or.inl, ?_⟩
    rintro (edge | ⟨rfl, rfl⟩)
    · exact edge
    · exact known
  · simp only [addReference_of_not_reads known, reads_iff_mem_reads, mem_getD_insert]

theorem mirrored_addReference (mirrored : graph.Mirrored) :
    (graph.addReference reader target).1.Mirrored := by
  intro cell other
  rw [reads_addReference, ← mirrored]
  by_cases known : graph.Reads reader target
  · have old : reader ∈ graph.dependents target := (mirrored reader target).mpr known
    rw [addReference_of_reads known]
    refine ⟨Or.inl, ?_⟩
    rintro (edge | ⟨rfl, rfl⟩)
    · exact edge
    · exact old
  · simp only [addReference_of_not_reads known, mem_dependents_iff, mem_getD_insert]
    rw [and_comm]

end Add

/-! ### Removing the edges of a cell -/

section Clear

theorem mem_getD_dropReader (reader : CellRef)
    (readers : Std.TreeMap CellRef (Std.TreeSet CellRef)) (target cell other : CellRef) :
    cell ∈ (dropReader reader readers target).getD other ∅ ↔
      cell ∈ readers.getD other ∅ ∧ ¬ (cell = reader ∧ other = target) := by
  have erased : cell ∈ (readers.getD target ∅).erase reader ↔
      cell ∈ readers.getD target ∅ ∧ cell ≠ reader := by
    rw [Std.TreeSet.mem_erase, Ne, Std.LawfulEqOrd.compare_eq_iff_eq, and_comm, eq_comm]
  unfold dropReader
  by_cases here : target = other
  · subst here
    -- With its last reader the entry of the target goes, which lists nobody either.
    by_cases last : ((readers.getD target ∅).erase reader).isEmpty = true
    · have gone := Std.TreeSet.isEmpty_iff_forall_not_mem.mp last cell
      simp only [last, if_true, Std.TreeMap.getD_erase_self, and_true]
      exact iff_of_false Std.TreeSet.not_mem_emptyc fun stays => gone (erased.mpr stays)
    · simp only [last, Bool.false_eq_true, if_false, Std.TreeMap.getD_insert_self, and_true]
      exact erased
  · by_cases last : ((readers.getD target ∅).erase reader).isEmpty = true
    · simp [last, Std.TreeMap.getD_erase, here, Ne.symm here]
    · simp [last, Std.TreeMap.getD_insert, here, Ne.symm here]

theorem mem_getD_foldl_dropReader (reader : CellRef) (targets : List CellRef)
    (readers : Std.TreeMap CellRef (Std.TreeSet CellRef)) (cell other : CellRef) :
    cell ∈ (targets.foldl (dropReader reader) readers).getD other ∅ ↔
      cell ∈ readers.getD other ∅ ∧ ¬ (cell = reader ∧ other ∈ targets) := by
  induction targets generalizing readers with
  | nil => simp
  | cons target targets ih =>
    rw [List.foldl_cons, ih, mem_getD_dropReader, List.mem_cons]
    grind

variable (graph : DependencyGraph) (cell : CellRef)

theorem reads_clearReferences (reader target : CellRef) :
    (graph.clearReferences cell).1.Reads reader target ↔
      reader ≠ cell ∧ graph.Reads reader target := by
  simp only [reads_iff_mem_reads, clearReferences, Std.TreeMap.getD_erase,
    Std.LawfulEqOrd.compare_eq_iff_eq]
  by_cases here : cell = reader
  · simp [here]
  · simp [here, Ne.symm here]

theorem mirrored_clearReferences (mirrored : graph.Mirrored) :
    (graph.clearReferences cell).1.Mirrored := by
  intro reader target
  rw [reads_clearReferences, mem_dependents_iff]
  simp only [clearReferences]
  rw [mem_getD_foldl_dropReader, ← mem_dependents_iff, mirrored]
  -- The entries taken out are those of the cells that the graph said were read.
  change _ ∧ ¬ (reader = cell ∧ graph.Reads cell target) ↔ _
  constructor
  · rintro ⟨edge, kept⟩
    exact ⟨fun here => kept ⟨here, here ▸ edge⟩, edge⟩
  · rintro ⟨elsewhere, edge⟩
    exact ⟨edge, fun gone => elsewhere gone.1⟩

end Clear

/-! ### Replacing the edges of a cell -/

section Replace

theorem reads_foldl_addReference (cell : CellRef) (targets : List CellRef)
    (graph : DependencyGraph) (reader target : CellRef) :
    (targets.foldl (fun graph target => (graph.addReference cell target).1) graph).Reads
        reader target ↔
      graph.Reads reader target ∨ (reader = cell ∧ target ∈ targets) := by
  induction targets generalizing graph with
  | nil => simp
  | cons next targets ih =>
    rw [List.foldl_cons, ih, reads_addReference, List.mem_cons]
    grind

theorem mirrored_foldl_addReference (cell : CellRef) (targets : List CellRef)
    {graph : DependencyGraph} (mirrored : graph.Mirrored) :
    (targets.foldl (fun graph target => (graph.addReference cell target).1) graph).Mirrored := by
  induction targets generalizing graph with
  | nil => exact mirrored
  | cons next targets ih => exact ih (mirrored_addReference graph cell next mirrored)

variable (graph : DependencyGraph) (cell : CellRef) (targets : List CellRef)

theorem reads_replaceReferences (reader target : CellRef) :
    (graph.replaceReferences cell targets).Reads reader target ↔
      if reader = cell then target ∈ targets else graph.Reads reader target := by
  rw [replaceReferences, reads_foldl_addReference, reads_clearReferences]
  by_cases here : reader = cell <;> simp [here]

theorem mirrored_replaceReferences (mirrored : graph.Mirrored) :
    (graph.replaceReferences cell targets).Mirrored :=
  mirrored_foldl_addReference cell targets (mirrored_clearReferences graph cell mirrored)

end Replace

end Worksheet.DependencyGraph
