import Mathlib.Logic.Basic
import Worksheet.Proofs.Folds
import Worksheet.Sheet.Document

/-!
# Variables and their values

A formula that is accepted has resolved each of its variables to the cell that the variable names,
so a name that occurs twice stands for one cell. The table of values under which the formula is
evaluated therefore gives every resolved name the number of its cell, and no value to any other
name.
-/

namespace Worksheet

namespace Bindings

theorem get?_empty (name : String) : Bindings.empty.get? name = none := rfl

theorem get?_set (bindings : Bindings) (name other : String) (value : Float) :
    (bindings.set name value).get? other = if other = name then some value
      else bindings.get? other := by
  unfold set get?
  rw [List.lookup_cons]
  by_cases here : other = name
  · simp [here]
  · -- The former entry of the name is dropped, which no lookup of another name notices.
    have kept (entries : List (String × Float)) :
        (entries.filter fun entry => entry.1 ≠ name).lookup other = entries.lookup other := by
      induction entries with
      | nil => rfl
      | cons entry entries ih =>
        obtain ⟨key, stored⟩ := entry
        by_cases dropped : key = name
        · subst dropped
          simpa [List.lookup_cons, beq_false_of_ne here] using ih
        · simp only [List.filter_cons, dropped, ne_eq, not_false_eq_true, decide_true, if_true,
            List.lookup_cons]
          split
          · rfl
          · exact ih
    simp only [beq_false_of_ne here, here, if_false]
    exact kept bindings.entries

/-- Values that are set one after the other, from a list in which a name stands for one thing only,
are found under their names. -/
theorem get?_foldl_set {α : Type} (number : α → Float) (entries : List (String × α))
    (functional : ∀ name first second, (name, first) ∈ entries → (name, second) ∈ entries →
      first = second) (bindings : Bindings) (name : String) :
    (entries.foldl (fun bindings entry => bindings.set entry.1 (number entry.2)) bindings).get?
        name = ((entries.lookup name).map number).or (bindings.get? name) := by
  induction entries generalizing bindings with
  | nil => rfl
  | cons entry entries ih =>
    obtain ⟨key, target⟩ := entry
    have later := ih (fun name first second one two => functional name first second
      (List.mem_cons_of_mem _ one) (List.mem_cons_of_mem _ two))
    rw [List.foldl_cons, later, get?_set, List.lookup_cons]
    by_cases here : name = key
    · subst here
      rw [beq_self_eq_true]
      -- A later entry of the same name takes precedence, but it is for the same thing.
      cases again : entries.lookup name with
      | none => simp
      | some other =>
        have member : (name, other) ∈ entries := by
          obtain ⟨before, after, rfl, -⟩ := List.lookup_eq_some_iff.mp again
          simp
        have same := functional name other target (List.mem_cons_of_mem _ member)
          List.mem_cons_self
        simp [same]
    · rw [beq_false_of_ne here]
      simp [here]

end Bindings

namespace Formula

section Resolved

variable {text : String} {rows columns : Nat} {resolved : List (String × CellRef)}

/-- A variable is resolved to the cell that it names. -/
theorem resolve_one {name : String} {entry : String × CellRef}
    (done : (match CellRef.resolve? name rows columns with
      | some cell => pure (name, cell)
      | none => throw (.unresolvedReference name) : Except FormulaError _) = .ok entry) :
    entry.1 = name ∧ CellRef.resolve? name rows columns = some entry.2 := by
  split at done
  next cell named =>
    obtain rfl := Except.ok.inj done
    exact ⟨rfl, named⟩
  next => cases done

/-- What is resolved are the variables of the text, in their order. -/
theorem map_fst_of_resolve (done : resolve text rows columns = .ok resolved) :
    resolved.map Prod.fst = variableNames text :=
  map_of_mapM (fun _ _ one => (resolve_one one).1) done

/-- A variable that is resolved names its cell. -/
theorem resolve?_of_mem_resolve (done : resolve text rows columns = .ok resolved) {name : String}
    {target : CellRef} (member : (name, target) ∈ resolved) :
    CellRef.resolve? name rows columns = some target := by
  obtain ⟨source, -, made⟩ := exists_of_mem_mapM done member
  obtain ⟨rfl, named⟩ := resolve_one made
  exact named

/-- Variables that name cells of the grid are all resolved. -/
theorem exists_resolve
    (named : ∀ name ∈ variableNames text, ∃ cell, CellRef.resolve? name rows columns = some cell) :
    ∃ resolved, resolve text rows columns = .ok resolved :=
  exists_mapM_ok fun name member => by
    obtain ⟨cell, here⟩ := named name member
    exact ⟨(name, cell), by rw [here]; rfl⟩

/-- The first variable that names no cell of the grid is the one that is reported. -/
theorem resolve_eq_error {before after : List String} {name : String}
    (names : variableNames text = before ++ name :: after)
    (named : ∀ other ∈ before, ∃ cell, CellRef.resolve? other rows columns = some cell)
    (unnamed : CellRef.resolve? name rows columns = none) :
    resolve text rows columns = .error (.unresolvedReference name) := by
  rw [resolve, names]
  refine mapM_append_cons_error (fun other member => ?_) (by rw [unnamed]; rfl)
  obtain ⟨cell, here⟩ := named other member
  exact ⟨(other, cell), by rw [here]; rfl⟩

end Resolved

end Formula

namespace Prepared

variable {rows columns : Nat} {formula : String} {prepared : Prepared}

/-- A formula is accepted only if its characters are allowed, it is compiled and its variables are
resolved. -/
theorem parts_of_ofFormula (accepted : ofFormula rows columns formula = .ok prepared) :
    Formula.checkCharacters formula = .ok () ∧ Expr.compile formula = .ok prepared.tree? ∧
      Formula.resolve (Text.condense formula) rows columns = .ok prepared.resolved := by
  unfold ofFormula at accepted
  obtain ⟨_, checked, accepted⟩ := exists_of_bind_ok accepted
  obtain ⟨tree?, compiled, accepted⟩ := exists_of_bind_ok accepted
  obtain ⟨entries, resolved, accepted⟩ := exists_of_bind_ok accepted
  obtain rfl := Except.ok.inj accepted
  exact ⟨checked, compiled, resolved⟩

theorem resolve_of_ofFormula (accepted : ofFormula rows columns formula = .ok prepared) :
    Formula.resolve (Text.condense formula) rows columns = .ok prepared.resolved :=
  (parts_of_ofFormula accepted).2.2

/-- A resolved variable of an accepted formula names its cell. -/
theorem resolve?_of_mem_resolved (accepted : ofFormula rows columns formula = .ok prepared)
    {name : String} {target : CellRef} (member : (name, target) ∈ prepared.resolved) :
    CellRef.resolve? name rows columns = some target :=
  Formula.resolve?_of_mem_resolve (resolve_of_ofFormula accepted) member

/-- A formula reads cells of the grid only. -/
theorem inside_of_mem_targets (accepted : ofFormula rows columns formula = .ok prepared)
    {target : CellRef} (member : target ∈ prepared.targets) : target.Inside rows columns := by
  obtain ⟨⟨name, cell⟩, standing, rfl⟩ := List.mem_map.mp member
  have named := resolve?_of_mem_resolved accepted standing
  exact of_decide_eq_true (Option.filter_eq_some_iff.mp named).2

/-- A variable of an accepted formula stands for one cell. -/
theorem functional_resolved (accepted : ofFormula rows columns formula = .ok prepared)
    (name : String) (first second : CellRef) (one : (name, first) ∈ prepared.resolved)
    (two : (name, second) ∈ prepared.resolved) : first = second := by
  have named := resolve?_of_mem_resolved accepted one
  rw [resolve?_of_mem_resolved accepted two] at named
  exact (Option.some.inj named).symm

end Prepared

namespace Document

/-- An accepted formula is evaluated under the table that gives each of its variables the number of
the cell that the variable names, and nothing to any other name. -/
theorem exists_bindings_valueOf (grid : Grid) {rows columns : Nat} {formula : String}
    {prepared : Prepared} (accepted : Prepared.ofFormula rows columns formula = .ok prepared) :
    ∃ bindings : Bindings,
      (∀ name, bindings.get? name = (prepared.resolved.lookup name).map (numberAt grid)) ∧
        valueOf grid prepared = Expr.evalOption bindings prepared.tree? := by
  refine ⟨_, fun name => ?_, rfl⟩
  rw [Bindings.get?_foldl_set (numberAt grid) prepared.resolved
    (Prepared.functional_resolved accepted), Bindings.get?_empty, Option.or_none]

end Document

end Worksheet
