import Worksheet.Formula.Alphabet
import Worksheet.Formula.Tree
import Worksheet.Formula.Variables
import Worksheet.Graph.Cycle
import Worksheet.Number.Display
import Worksheet.Sheet.Grid
import Worksheet.Sheet.Journal

/-!
# Documents

A document is a grid of cells together with the graph of which formula reads which cell. Here is how
the value of one cell follows from its text and from the values of the cells that it reads: a text
that is no formula is its own value, and a formula that is refused or caught in a cycle has the
error value.
-/

namespace Worksheet

/-- A grid of cells and the references between them. -/
structure Document where
  grid : Grid
  graph : DependencyGraph

/-- A formula that has been compiled: the tree of its operations, none if it is empty, and its
variables in order, each with the cell that it names. -/
structure Prepared where
  tree? : Option Expr
  resolved : List (String × CellRef)
deriving DecidableEq

/-- What became of computing a cell again: the document, whether the value is a new one, and what
was noticed on the way. -/
structure Refreshed where
  document : Document
  changed : Bool
  entries : List Entry

namespace Prepared

/-- Checks, compiles and resolves a formula, without the sign that it starts with, for a grid of
some size. Every variable has to name a cell of the grid. -/
def ofFormula (rows columns : Nat) (formula : String) : Except FormulaError Prepared := do
  Formula.checkCharacters formula
  let tree? ← Expr.compile formula
  let resolved ← Formula.resolve (Text.condense formula) rows columns
  pure { tree?, resolved }

/-- The cells that a formula reads, in the order of its variables. -/
def targets (prepared : Prepared) : List CellRef :=
  prepared.resolved.map Prod.snd

/-- The conversion of a formula, if it gets so far, as a line of the journal. -/
def conversion (formula : String) : List Entry :=
  match Formula.checkCharacters formula, Formula.toPostfix (Text.condense formula) with
  | .ok _, .ok form => [.converted formula form]
  | _, _ => []

end Prepared

namespace Document

/-- A document of blank cells. -/
def blank (size : Dimensions) : Document := ⟨.blank size, ∅⟩

/-- The number that a cell displays; a cell that displays none counts as zero. -/
def numberAt (grid : Grid) (cell : CellRef) : Float :=
  ((grid.get? cell).bind fun source => Number.ofValue? source.value).getD 0

/-- The value of a compiled formula where the cells of a grid have the values that they display. -/
def valueOf (grid : Grid) (prepared : Prepared) : Float :=
  let bindings := prepared.resolved.foldl (fun (bindings : Bindings) (name, target) =>
    bindings.set name (numberAt grid target)) .empty
  Expr.evalOption bindings prepared.tree?

/-- The value of a formula without a cell, which may start with its sign, and what was noticed. -/
def evaluate (document : Document) (formula : String) : String × List Entry :=
  let formula :=
    match formula.toList with
    | '=' :: rest => String.ofList rest
    | _ => formula
  let conversion := Prepared.conversion formula
  match Prepared.ofFormula document.grid.rows document.grid.columns formula with
  | .ok prepared => (Number.display (valueOf document.grid prepared), conversion)
  | .error cause => (Cell.errorValue, conversion ++ [.rejectedAlone formula cause])

/-- The value that a text gives a cell, the references that go with it, and what was noticed. A
formula that is refused reads nothing; one that is caught in a cycle keeps its references, so that
breaking the cycle later reaches it. -/
def compute (document : Document) (cell : CellRef) (content : Cell) :
    DependencyGraph × String × List Entry :=
  match content.formula? with
  | none => ((document.graph.clearReferences cell).1, content.text, [])
  | some formula =>
    let conversion := Prepared.conversion formula
    match Prepared.ofFormula document.grid.rows document.grid.columns formula with
    -- A formula that is refused gives up what the text before it has read.
    | .error cause =>
      ((document.graph.clearReferences cell).1, Cell.errorValue,
        conversion ++ [.rejected cell formula cause])
    | .ok prepared =>
      -- The references come first: the cycle, if there is one, runs through the new ones.
      let graph := document.graph.replaceReferences cell prepared.targets
      match graph.cycleThrough? cell with
      | some path => (graph, Cell.errorValue, conversion ++ [.circular cell path])
      | none => (graph, Number.display (valueOf document.grid prepared), conversion)

/-- Computes the value of a cell again from its text. -/
def refresh (document : Document) (cell : CellRef) : Refreshed :=
  match document.grid.get? cell with
  | none => ⟨document, false, []⟩
  | some content =>
    let (graph, value, entries) := document.compute cell content
    let changed := (content.setValue value).2
    { document := { grid := document.grid.modify cell fun content => (content.setValue value).1
                    graph }
      changed
      entries := if changed then entries ++ [.change cell .value] else entries }

end Document

end Worksheet
