import Mathlib.Data.Finset.Card
import Mathlib.Data.Finset.Image
import Mathlib.Data.List.Nodup
import Worksheet.Proofs.Graph.Edges

/-!
# Graphs as sets of edges

Whatever is done to an empty graph, it stands for one set of edges, and each operation does to this
set what its name says. Everything that a graph tells about itself can be read off the set: what a
cell reads, who reads it, and how many edges there are.

A graph answers some questions by a look at the keys of one of its tables. These answers are right
because no table keeps an entry without a cell in it.
-/

namespace Worksheet

/-- Row-major order of cells: by row, and by column within a row. -/
def CellRef.Before (cell other : CellRef) : Prop :=
  cell.row < other.row ∨ (cell.row = other.row ∧ cell.column < other.column)

theorem CellRef.before_of_compare {cell other : CellRef} (less : compare cell other = .lt) :
    cell.Before other := by
  have both : (compare cell.row other.row).then (compare cell.column other.column) = .lt := less
  rcases Ordering.then_eq_lt.mp both with row | ⟨row, column⟩
  · exact Or.inl (Nat.compare_eq_lt.mp row)
  · exact Or.inr ⟨Nat.compare_eq_eq.mp row, Nat.compare_eq_lt.mp column⟩

namespace DependencyGraph

/-- Edges, each from a cell to one that it reads. -/
abbrev Edges := Finset (CellRef × CellRef)

/-- An operation on a graph with its arguments. It adds one edge, removes or replaces those that
start at a cell, or removes all. -/
inductive Operation where
  | addReference (reader target : CellRef)
  | clearReferences (cell : CellRef)
  | replaceReferences (cell : CellRef) (targets : List CellRef)
  | clear

/-- What an operation answers: whether an edge was not there before, to which cells the edges were
removed, or nothing. -/
inductive Answer where
  | added (new : Bool)
  | removed (targets : List CellRef)
  | done

/-- Carries out an operation. -/
def perform (graph : DependencyGraph) : Operation → DependencyGraph × Answer
  | .addReference reader target =>
    ((graph.addReference reader target).1, .added (graph.addReference reader target).2)
  | .clearReferences cell =>
    ((graph.clearReferences cell).1, .removed (graph.clearReferences cell).2)
  | .replaceReferences cell targets => (graph.replaceReferences cell targets, .done)
  | .clear => (∅, .done)

/-- The graph after some operations. -/
def afterAll (graph : DependencyGraph) (operations : List Operation) : DependencyGraph :=
  operations.foldl (fun graph operation => (graph.perform operation).1) graph

/-- A list names the members of a set, each once and row by row. -/
def Lists (cells : List CellRef) (member : CellRef → Prop) : Prop :=
  cells.Pairwise CellRef.Before ∧ ∀ cell, cell ∈ cells ↔ member cell

namespace Edges

/-- The edges after an operation. -/
def after (edges : Edges) : Operation → Edges
  | .addReference reader target => insert (reader, target) edges
  | .clearReferences cell => edges.filter fun edge => edge.1 ≠ cell
  | .replaceReferences cell targets =>
    (edges.filter fun edge => edge.1 ≠ cell) ∪ targets.toFinset.image fun target => (cell, target)
  | .clear => ∅

/-- The edges after some operations. -/
def afterAll (edges : Edges) (operations : List Operation) : Edges :=
  operations.foldl after edges

/-- What an operation has to answer where there are some edges. -/
def Answers (edges : Edges) : Operation → Answer → Prop
  | .addReference reader target, answer =>
    ∃ new, answer = .added new ∧ (new = true ↔ (reader, target) ∉ edges)
  | .clearReferences cell, answer =>
    ∃ targets, answer = .removed targets ∧ Lists targets fun target => (cell, target) ∈ edges
  | .replaceReferences _ _, answer => answer = .done
  | .clear, answer => answer = .done

end Edges

/-- No entry of a table is an empty set. -/
def Filled (table : Std.TreeMap CellRef (Std.TreeSet CellRef)) : Prop :=
  ∀ (key : CellRef) (cells : Std.TreeSet CellRef), table[key]? = some cells → cells.isEmpty = false

/-- A graph tells about itself what is true of a set of edges. -/
structure Shows (graph : DependencyGraph) (edges : Edges) : Prop where
  references : ∀ cell, Lists (graph.references cell) fun target => (cell, target) ∈ edges
  dependents : ∀ cell, Lists (graph.dependents cell) fun reader => (reader, cell) ∈ edges
  hasReferences : ∀ cell, graph.hasReferences cell = true ↔ ∃ target, (cell, target) ∈ edges
  edgeCount : graph.edgeCount = edges.card
  isEmpty : graph.isEmpty = true ↔ edges = ∅
  filledReads : Filled graph.reads
  filledReaders : Filled graph.readers

/-- What a set of cells is listed as. -/
theorem lists_toList (cells : Std.TreeSet CellRef) {member : CellRef → Prop}
    (same : ∀ cell, cell ∈ cells.toList ↔ member cell) : Lists cells.toList member :=
  ⟨Std.TreeSet.ordered_toList.imp CellRef.before_of_compare, same⟩

/-! ### Tables without empty sets -/

section Filled

variable {table : Std.TreeMap CellRef (Std.TreeSet CellRef)} {key : CellRef}

theorem filled_empty : Filled ∅ := by
  intro key cells entry
  simp at entry

theorem Filled.insert (filled : Filled table) {cells : Std.TreeSet CellRef}
    (some : cells.isEmpty = false) : Filled (table.insert key cells) := by
  intro other stored entry
  rw [Std.TreeMap.getElem?_insert] at entry
  split at entry
  · exact Option.some.inj entry ▸ some
  · exact filled other stored entry

theorem Filled.erase (filled : Filled table) : Filled (table.erase key) := by
  intro other stored entry
  rw [Std.TreeMap.getElem?_erase] at entry
  split at entry
  · simp at entry
  · exact filled other stored entry

theorem Filled.dropReader (filled : Filled table) (reader target : CellRef) :
    Filled (dropReader reader table target) := by
  unfold DependencyGraph.dropReader
  by_cases last : ((table.getD target ∅).erase reader).isEmpty = true
  · simp only [last, if_true]
    exact filled.erase
  · simp only [last, Bool.false_eq_true, if_false]
    exact filled.insert ((Bool.not_eq_true _).mp last)

theorem Filled.foldl_dropReader (filled : Filled table) (reader : CellRef)
    (targets : List CellRef) :
    Filled (targets.foldl (DependencyGraph.dropReader reader) table) := by
  induction targets generalizing table with
  | nil => exact filled
  | cons target targets ih => exact ih (filled.dropReader reader target)

/-- In such a table a key stands if and only if there is a cell in its entry. -/
theorem Filled.contains_iff (filled : Filled table) :
    table.contains key = true ↔ ∃ cell, cell ∈ table.getD key ∅ := by
  rw [Std.TreeMap.contains_iff_mem, Std.TreeMap.mem_iff_isSome_getElem?,
    Std.TreeMap.getD_eq_getD_getElem?]
  cases entry : table[key]? with
  | none => simp
  | some cells =>
    have left := filled key cells entry
    rw [← Bool.not_eq_true, Std.TreeSet.isEmpty_iff_forall_not_mem] at left
    simpa using left

end Filled

/-! ### The edges that a graph stores -/

/-- A graph stores some edges, in both directions and without empty entries. -/
structure Stores (graph : DependencyGraph) (edges : Edges) : Prop where
  reads : ∀ reader target, graph.Reads reader target ↔ (reader, target) ∈ edges
  mirrored : graph.Mirrored
  filledReads : Filled graph.reads
  filledReaders : Filled graph.readers

theorem filled_addReference {graph : DependencyGraph} (filledReads : Filled graph.reads)
    (filledReaders : Filled graph.readers) (reader target : CellRef) :
    Filled (graph.addReference reader target).1.reads ∧
      Filled (graph.addReference reader target).1.readers := by
  by_cases known : graph.Reads reader target
  · rw [addReference_of_reads known]
    exact ⟨filledReads, filledReaders⟩
  · rw [addReference_of_not_reads known]
    exact ⟨filledReads.insert Std.TreeSet.isEmpty_insert,
      filledReaders.insert Std.TreeSet.isEmpty_insert⟩

namespace Stores

variable {graph : DependencyGraph} {edges : Edges}

theorem empty : (∅ : DependencyGraph).Stores ∅ :=
  ⟨fun reader target => by simp [not_reads_empty], mirrored_empty, filled_empty, filled_empty⟩

theorem addReference (stores : graph.Stores edges) (reader target : CellRef) :
    (graph.addReference reader target).1.Stores (insert (reader, target) edges) := by
  obtain ⟨filledReads, filledReaders⟩ :=
    filled_addReference stores.filledReads stores.filledReaders reader target
  refine ⟨fun cell other => ?_, mirrored_addReference graph reader target stores.mirrored,
    filledReads, filledReaders⟩
  rw [reads_addReference, stores.reads, Finset.mem_insert, Prod.mk.injEq, or_comm]

theorem clearReferences (stores : graph.Stores edges) (cell : CellRef) :
    (graph.clearReferences cell).1.Stores (edges.filter fun edge => edge.1 ≠ cell) := by
  refine ⟨fun reader target => ?_, mirrored_clearReferences graph cell stores.mirrored,
    stores.filledReads.erase, stores.filledReaders.foldl_dropReader cell _⟩
  rw [reads_clearReferences, stores.reads, Finset.mem_filter, and_comm]

/-- The edges of a cell are added one after the other, and one that comes twice is added once. -/
theorem foldl_addReference (stores : graph.Stores edges) (cell : CellRef)
    (targets : List CellRef) :
    (targets.foldl (fun graph target => (graph.addReference cell target).1) graph).Stores
      (edges ∪ targets.toFinset.image fun target => (cell, target)) := by
  induction targets generalizing graph edges with
  | nil => simpa using stores
  | cons target targets ih =>
    have rest := ih (stores.addReference cell target)
    rwa [Finset.insert_union, ← Finset.union_insert, ← Finset.image_insert,
      ← List.toFinset_cons] at rest

/-- **Refinement of a step.** An operation does to the edges of a graph what it does to the set. -/
theorem perform (stores : graph.Stores edges) (operation : Operation) :
    (graph.perform operation).1.Stores (edges.after operation) := by
  cases operation with
  | addReference reader target => exact stores.addReference reader target
  | clearReferences cell => exact stores.clearReferences cell
  | replaceReferences cell targets => exact (stores.clearReferences cell).foldl_addReference cell _
  | clear => exact empty

theorem afterAll (stores : graph.Stores edges) (operations : List Operation) :
    (graph.afterAll operations).Stores (edges.afterAll operations) := by
  induction operations generalizing graph edges with
  | nil => exact stores
  | cons operation operations ih => exact ih (stores.perform operation)

/-! ### What a graph tells about itself -/

theorem lists_references (stores : graph.Stores edges) (cell : CellRef) :
    Lists (graph.references cell) fun target => (cell, target) ∈ edges :=
  lists_toList _ (stores.reads cell)

theorem lists_dependents (stores : graph.Stores edges) (cell : CellRef) :
    Lists (graph.dependents cell) fun reader => (reader, cell) ∈ edges :=
  lists_toList _ fun reader => (stores.mirrored reader cell).trans (stores.reads reader cell)

theorem hasReferences_iff (stores : graph.Stores edges) (cell : CellRef) :
    graph.hasReferences cell = true ↔ ∃ target, (cell, target) ∈ edges := by
  simp only [hasReferences, stores.filledReads.contains_iff, ← reads_iff_mem_reads, stores.reads]

theorem isEmpty_iff (stores : graph.Stores edges) : graph.isEmpty = true ↔ edges = ∅ := by
  have keys (cell : CellRef) : cell ∈ graph.reads ↔ ∃ target, (cell, target) ∈ edges :=
    stores.hasReferences_iff cell
  rw [isEmpty, Std.TreeMap.isEmpty_iff_forall_not_mem, Finset.eq_empty_iff_forall_notMem]
  simp only [keys, not_exists, Prod.forall]

/-- Adding up the entries counts every edge once. -/
theorem edgeCount_eq (stores : graph.Stores edges) : graph.edgeCount = edges.card := by
  let listed : List (CellRef × CellRef) :=
    graph.reads.toList.flatMap fun entry => entry.2.toList.map fun target => (entry.1, target)
  -- Within an entry the targets differ, and two entries have different readers.
  have distinct : listed.Nodup := by
    refine List.nodup_flatMap.mpr ⟨fun entry _ => ?_, ?_⟩
    · refine List.Nodup.map (fun target other same => (Prod.mk.inj same).2) ?_
      exact Std.TreeSet.distinct_toList.imp fun different same =>
        different (Std.LawfulEqOrd.compare_eq_iff_eq.mpr same)
    · refine Std.TreeMap.distinct_keys_toList.imp fun {entry other} different edge here there => ?_
      obtain ⟨target, -, rfl⟩ := List.mem_map.mp here
      obtain ⟨target', -, same⟩ := List.mem_map.mp there
      exact different (Std.LawfulEqOrd.compare_eq_iff_eq.mpr (Prod.mk.inj same).1.symm)
  have members : listed.toFinset = edges := by
    ext ⟨reader, target⟩
    rw [List.mem_toFinset, ← stores.reads, reads_iff_mem_reads, Std.TreeMap.getD_eq_getD_getElem?]
    simp only [listed, List.mem_flatMap, List.mem_map, Prod.exists, Prod.mk.injEq,
      Std.TreeMap.mem_toList_iff_getElem?_eq_some, Std.TreeSet.mem_toList]
    cases entry : graph.reads[reader]? <;> simp_all
  have counted (entries : List (CellRef × Std.TreeSet CellRef)) (count : Nat) :
      entries.foldl (fun count entry => count + entry.2.size) count =
        count + (entries.flatMap fun entry =>
          entry.2.toList.map fun target => (entry.1, target)).length := by
    induction entries generalizing count with
    | nil => rfl
    | cons entry entries ih =>
      rw [List.foldl_cons, ih, List.flatMap_cons, List.length_append, List.length_map,
        Std.TreeSet.length_toList, Nat.add_assoc]
  rw [edgeCount, Std.TreeMap.foldl_eq_foldl_toList, counted, Nat.zero_add, ← members,
    List.toFinset_card_of_nodup distinct]

theorem shows (stores : graph.Stores edges) : graph.Shows edges where
  references := stores.lists_references
  dependents := stores.lists_dependents
  hasReferences := stores.hasReferences_iff
  edgeCount := stores.edgeCount_eq
  isEmpty := stores.isEmpty_iff
  filledReads := stores.filledReads
  filledReaders := stores.filledReaders

theorem answers (stores : graph.Stores edges) (operation : Operation) :
    edges.Answers operation (graph.perform operation).2 := by
  cases operation with
  | addReference reader target =>
    refine ⟨_, rfl, ?_⟩
    rw [← stores.reads]
    by_cases known : graph.Reads reader target
    · simp [addReference_of_reads known, known]
    · simp [addReference_of_not_reads known, known]
  | clearReferences cell => exact ⟨_, rfl, stores.lists_references cell⟩
  | replaceReferences cell targets => rfl
  | clear => rfl

end Stores

/-- **Refinement.** After any operations on an empty graph it shows the edges that the same
operations leave of an empty set, and the next operation answers what it should, whichever it is. -/
theorem shows_edge_set (operations : List Operation) :
    let graph := (∅ : DependencyGraph).afterAll operations
    let edges := Edges.afterAll ∅ operations
    graph.Shows edges ∧
      ∀ operation, edges.Answers operation (graph.perform operation).2 := by
  have stores := Stores.empty.afterAll operations
  exact ⟨stores.shows, stores.answers⟩

end DependencyGraph

end Worksheet
