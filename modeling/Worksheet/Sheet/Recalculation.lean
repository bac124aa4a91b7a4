import Worksheet.Sheet.Document

/-!
# Recalculation

When the text of a cell changes, the cells that read it are computed again, and those that read
them, as long as values change. They are taken from a queue, breadth first, and none is queued twice
at the same time.

All members of a cycle display the error value, so a cell may enter or leave a cycle while no value
on the way to it changes. If the edited cell has new references and displays the error value before
or after the edit, every cell that reads it over any number of steps is therefore computed again at
least once.
-/

namespace Worksheet

/-- The state of a recalculation: the cells to be computed again, in order and as a set, and those
that have been. -/
structure Walk where
  document : Document
  queue : List CellRef
  queued : Std.TreeSet CellRef
  visited : Std.TreeSet CellRef
  journal : Journal

namespace Walk

/-- Queues the readers of a cell. If its value has not changed, only those not visited yet. -/
def enqueueReaders (walk : Walk) (cell : CellRef) (changed : Bool) : Walk :=
  let fresh := (walk.document.graph.dependents cell).filter fun reader =>
    (changed || !walk.visited.contains reader) && !walk.queued.contains reader
  { walk with
    queue := walk.queue ++ fresh
    queued := fresh.foldl (fun queued reader => queued.insert reader) walk.queued }

/-- Computes the first cell of the queue again. -/
def step (reachAll : Bool) : Walk → Walk
  | ⟨document, [], queued, visited, journal⟩ => ⟨document, [], queued, visited, journal⟩
  | ⟨document, cell :: queue, queued, visited, journal⟩ =>
    let refreshed := document.refresh cell
    let walk : Walk :=
      { document := refreshed.document
        queue
        queued := queued.erase cell
        visited := visited.insert cell
        journal := journal ++
          (.recomputing cell :: .change cell .reference :: refreshed.entries) }
    -- An unchanged value leads no further, unless the readers are to be reached all the same.
    if refreshed.changed || reachAll then walk.enqueueReaders cell refreshed.changed else walk

/-- Takes steps until the queue is empty, but not more than a bound. -/
def run (reachAll : Bool) (bound : Nat) (walk : Walk) : Walk :=
  match bound with
  | 0 => walk
  | bound + 1 =>
    match walk.queue with
    | [] => walk
    | _ :: _ => (walk.step reachAll).run reachAll bound

/-- A bound that no recalculation reaches. In a round each cell is computed at most once, where the
readers queued in one round make the next one. Every cell that can be reached is visited within as
many rounds as there are cells, and from then on values change along paths without repetition. -/
def bound (document : Document) : Nat :=
  2 * (document.grid.cells.size + 1) * (document.grid.cells.size + 1)

/-- The recalculation that starts from an edited cell, with its readers in the queue. -/
def start (document : Document) (origin : CellRef) : Walk :=
  Walk.enqueueReaders ⟨document, [], ∅, ∅, #[]⟩ origin true

end Walk

namespace Document

/-- Computes all cells again that an edited cell may have an effect on. -/
def propagate (document : Document) (origin : CellRef) (reachAll : Bool) : Document × Journal :=
  let walk := (Walk.start document origin).run reachAll (Walk.bound document)
  (walk.document, walk.journal)

/-- Replaces the text of a cell of the grid and recalculates. A text that the cell has already
changes nothing. -/
def setText (document : Document) (cell : CellRef) (text : String) : Document × Journal :=
  match document.grid.get? cell with
  | none => (document, #[])
  | some content =>
    if (content.setText text).2 then
      let former := document.graph.references cell
      let typed : Document :=
        { document with grid := document.grid.modify cell fun content => (content.setText text).1 }
      let refreshed := typed.refresh cell
      -- Behind the error value a cycle may open or close without any value being a new one.
      let isError := (refreshed.document.grid.get? cell).any Cell.showsError
      let rewired := refreshed.document.graph.references cell ≠ former
      let membershipMayChange := rewired && (content.showsError || isError)
      let journal : Journal := (Entry.change cell .text :: refreshed.entries).toArray
      if refreshed.changed || membershipMayChange then
        let (document, happened) := refreshed.document.propagate cell membershipMayChange
        (document, journal ++ happened)
      else
        (refreshed.document, journal)
    else
      (document, #[])

/-- Replaces the background color of a cell of the grid. Nothing is recalculated. -/
def setBgColor (document : Document) (cell : CellRef) (color : Color) : Document × Journal :=
  match document.grid.get? cell with
  | none => (document, #[])
  | some content =>
    if (content.setBgColor color).2 then
      ({ document with
          grid := document.grid.modify cell fun content => (content.setBgColor color).1 },
        #[.change cell .bgColor])
    else
      (document, #[])

end Document

end Worksheet
