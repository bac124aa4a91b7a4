import Std.Data.TreeMap
import Std.Data.TreeSet
import Worksheet.CellRef

/-!
# The dependency graph

An edge from one cell to another says that the formula of the first reads the second. Edges are kept
in both directions: what a cell reads decides about cycles, who reads a cell decides what has to be
computed again. All edges of a cell are replaced together, when its formula changes.

Cells are listed row by row. A cell without edges has no entry in either direction.
-/

namespace Worksheet

/-- Which cells read which: those that a cell reads, and those that read it. -/
structure DependencyGraph where
  reads : Std.TreeMap CellRef (Std.TreeSet CellRef)
  readers : Std.TreeMap CellRef (Std.TreeSet CellRef)

namespace DependencyGraph

/-- No cell reads another one. -/
def empty : DependencyGraph := ⟨∅, ∅⟩

instance : EmptyCollection DependencyGraph := ⟨empty⟩

instance : Inhabited DependencyGraph := ⟨empty⟩

/-- The cells that a cell reads, row by row. -/
def references (graph : DependencyGraph) (cell : CellRef) : List CellRef :=
  (graph.reads.getD cell ∅).toList

/-- The cells that read a cell, row by row. -/
def dependents (graph : DependencyGraph) (cell : CellRef) : List CellRef :=
  (graph.readers.getD cell ∅).toList

/-- A cell reads another one. -/
def hasReferences (graph : DependencyGraph) (cell : CellRef) : Bool :=
  graph.reads.contains cell

/-- The number of edges. -/
def edgeCount (graph : DependencyGraph) : Nat :=
  graph.reads.foldl (fun count _ targets => count + targets.size) 0

/-- There are no edges. -/
def isEmpty (graph : DependencyGraph) : Bool :=
  graph.reads.isEmpty

/-- Adds an edge, and says whether it is a new one. -/
def addReference (graph : DependencyGraph) (reader target : CellRef) : DependencyGraph × Bool :=
  let targets := graph.reads.getD reader ∅
  if targets.contains target then
    (graph, false)
  else
    ({ reads := graph.reads.insert reader (targets.insert target)
       readers := graph.readers.insert target ((graph.readers.getD target ∅).insert reader) },
      true)

/-- Takes a reader from those of a cell, and the cell's entry with the last one. -/
def dropReader (reader : CellRef) (readers : Std.TreeMap CellRef (Std.TreeSet CellRef))
    (target : CellRef) : Std.TreeMap CellRef (Std.TreeSet CellRef) :=
  let rest := (readers.getD target ∅).erase reader
  if rest.isEmpty then readers.erase target else readers.insert target rest

/-- Removes the edges that start at a cell, and lists the cells that it has read. -/
def clearReferences (graph : DependencyGraph) (cell : CellRef) :
    DependencyGraph × List CellRef :=
  let targets := graph.references cell
  ({ reads := graph.reads.erase cell
     readers := targets.foldl (dropReader cell) graph.readers },
    targets)

/-- Replaces the edges that start at a cell. -/
def replaceReferences (graph : DependencyGraph) (cell : CellRef) (targets : List CellRef) :
    DependencyGraph :=
  targets.foldl (fun graph target => (graph.addReference cell target).1)
    (graph.clearReferences cell).1

end DependencyGraph

end Worksheet
