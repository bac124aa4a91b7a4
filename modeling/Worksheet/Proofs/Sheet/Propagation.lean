import Worksheet.Proofs.Sheet.Failure

/-!
# The walk after an edit

An edit of a sheet that can be reached starts a walk over the readers of the edited cell. It comes
to its end whatever cycles there are and whether it is to reach all readers or not, since this rests
on the references alone and not on the values. On the way no cell is queued twice, and although each
visited cell gives up its references and gets them again, none of them is another one afterwards.
-/

namespace Worksheet

/-- What stays in order throughout a walk over a document: no cell is queued twice, the set of
queued cells is that of the cells in the queue, and all edges are those from the start. -/
structure Walk.Orderly (document : Document) (walk : Walk) : Prop where
  nodup : walk.queue.Nodup
  queued : ∀ cell, cell ∈ walk.queued ↔ cell ∈ walk.queue
  references : ∀ cell, walk.document.graph.references cell = document.graph.references cell
  dependents : ∀ cell, walk.document.graph.dependents cell = document.graph.dependents cell

theorem Walk.Valid.orderly {document : Document} {origin : CellRef} {reachAll : Bool} {walk : Walk}
    (valid : Valid document.grid origin reachAll walk) (wired : document.Wired) :
    walk.Orderly document := by
  have graph := valid.sound.wired.graph_congr wired valid.same.symm
  exact ⟨valid.sound.nodup, valid.sound.queued, fun cell => (graph cell).1,
    fun cell => (graph cell).2.1⟩

namespace Document

variable {document : Document} {origin : CellRef}

/-- A recalculation is a walk that is over, and every state of the walk is in order. -/
theorem propagate_eq_of_wired (regular : document.grid.Regular) (wired : document.Wired)
    (reachAll : Bool) :
    (∃ steps, ((Walk.step reachAll)^[steps] (Walk.start document origin)).queue = [] ∧
      document.propagate origin reachAll =
        (((Walk.step reachAll)^[steps] (Walk.start document origin)).document,
          ((Walk.step reachAll)^[steps] (Walk.start document origin)).journal)) ∧
    ∀ steps, ((Walk.step reachAll)^[steps] (Walk.start document origin)).Orderly document := by
  have valid : Walk.Valid document.grid origin reachAll (Walk.start document origin) :=
    Walk.valid_start regular wired
  have ended := queue_run_start regular wired origin reachAll
  refine ⟨⟨Walk.bound document, ?_, ?_⟩, fun steps => (valid.iterate steps).orderly wired⟩
  · rwa [Walk.run_eq_iterate] at ended
  · rw [propagate, Walk.run_eq_iterate]

end Document

namespace Sheet

variable {size : Dimensions} {sheet : Sheet} {cell : CellRef}

/-- **The walk ends.** Take any sheet that can be reached and replace the text of a cell. The walk
from that cell, to all readers or to those of new values only, comes to an empty queue; all the
while no cell is queued twice, the set of queued cells is that of the queue, and the references are
those from right after the cell itself was computed. A new text either ends there or with the
document that such a walk leaves. -/
theorem walk_ends (reachable : sheet.Reachable size) (inside : cell.Inside size.rows size.columns)
    (text : String) :
    let edited := (sheet.document.retype cell text).document
    (∀ reachAll : Bool,
      let walk (steps : Nat) := (Walk.step reachAll)^[steps] (Walk.start edited cell)
      (∃ steps, (walk steps).queue = [] ∧
        edited.propagate cell reachAll = ((walk steps).document, (walk steps).journal)) ∧
      ∀ steps, (walk steps).Orderly edited) ∧
    ∃ content, sheet.cell? cell = some content ∧ (content.text ≠ text →
      ∃ changed reachAll : Bool, (sheet.after (.setText cell text)).document =
        if changed || reachAll then (edited.propagate cell reachAll).1 else edited) := by
  intro edited
  obtain ⟨contents, holds⟩ := reachable.tidy.sound.holds
  obtain ⟨content, found, here, -⟩ := run_getCell_of_inside holds inside
  obtain ⟨latter, retyped, -, -, regular⟩ :=
    Document.retyped_retype holds.consistent here text
  refine ⟨fun reachAll => Document.propagate_eq_of_wired regular retyped.wired reachAll,
    content, here, fun new => ?_⟩
  obtain ⟨spreads, -, outcome⟩ := Document.setText_of_new here new
  refine ⟨(sheet.document.retype cell text).changed, spreads, ?_⟩
  rw [Sheet.after, perform, setText, run_bind_ok _ found, if_pos new, ← outcome]
  rfl

/-- A formula closes a cycle of two cells. -/
theorem walk_ends_closing_cycle :
    let sheet := (blank ⟨1, 2⟩).after (.setText ⟨0, 0⟩ "=B1")
    let edited := (sheet.document.retype ⟨0, 1⟩ "=A1").document
    sheet.Reachable ⟨1, 2⟩ ∧ (⟨0, 1⟩ : CellRef).Inside 1 2 ∧ ∀ reachAll : Bool, ∃ steps,
      ((Walk.step reachAll)^[steps] (Walk.start edited ⟨0, 1⟩)).queue = [] := by
  intro sheet edited
  have started : Session.start ⟨1, 2⟩ none (.blank [] []) = .ok ⟨.blank [] [], blank ⟨1, 2⟩⟩ := rfl
  have reachable : sheet.Reachable ⟨1, 2⟩ :=
    .after (.start started) (.blank [] []) (.edit (.setText ⟨0, 0⟩ "=B1"))
  have inside : (⟨0, 1⟩ : CellRef).Inside 1 2 := by decide
  refine ⟨reachable, inside, fun reachAll => ?_⟩
  obtain ⟨steps, ended, -⟩ := ((walk_ends reachable inside "=A1").1 reachAll).1
  exact ⟨steps, ended⟩

end Sheet

end Worksheet
