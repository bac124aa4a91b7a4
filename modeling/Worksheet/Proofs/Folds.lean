import Mathlib.Data.List.Basic

/-!
# Reading one after the other

A machine reads its inputs one after the other and may refuse each of them. Runs of it are put
together from runs over parts of the inputs. If every step adds the part of its input to what can be
seen of the state, then a run adds the parts of all inputs in order.

Where nothing is passed on from one input to the next, a run gives one output for each input.
-/

namespace Worksheet

/-- Something that is done after something else succeeds only if both do. -/
theorem exists_of_bind_ok {ε α β : Type} {first : Except ε α} {further : α → Except ε β}
    {result : β} (done : first >>= further = .ok result) :
    ∃ between, first = .ok between ∧ further between = .ok result := by
  cases first with
  | error cause => cases done
  | ok between => exact ⟨between, rfl, done⟩

section Folds

variable {ε σ ι β : Type} {step : σ → ι → Except ε σ} {state next : σ} {inputs : List ι}
  {outcome : Except ε σ}

theorem foldlM_cons_ok {input : ι} (one : step state input = .ok next)
    (others : inputs.foldlM step next = outcome) :
    (input :: inputs).foldlM step state = outcome := by
  rw [List.foldlM_cons, one]
  exact others

/-- A run over one input is one step. -/
theorem foldlM_singleton (state : σ) (input : ι) :
    [input].foldlM step state = step state input := by
  rw [List.foldlM_cons]
  cases step state input <;> rfl

theorem foldlM_singleton_ok {input : ι} (one : step state input = .ok next) :
    [input].foldlM step state = .ok next :=
  foldlM_cons_ok one rfl

theorem foldlM_append_ok {further : List ι} (one : inputs.foldlM step state = .ok next)
    (others : further.foldlM step next = outcome) :
    (inputs ++ further).foldlM step state = outcome := by
  rw [List.foldlM_append, one]
  exact others

/-- A run that succeeds has a first step that succeeds. -/
theorem exists_of_foldlM_cons_ok {input : ι}
    (done : (input :: inputs).foldlM step state = .ok next) :
    ∃ between, step state input = .ok between ∧ inputs.foldlM step between = .ok next := by
  rw [List.foldlM_cons] at done
  exact exists_of_bind_ok done

/-- A run that succeeds has succeeded on the first inputs. -/
theorem exists_of_foldlM_append_ok {further : List ι}
    (done : (inputs ++ further).foldlM step state = .ok next) :
    ∃ between, inputs.foldlM step state = .ok between ∧ further.foldlM step between = .ok next := by
  rw [List.foldlM_append] at done
  exact exists_of_bind_ok done

/-- What a run adds is what its inputs add, in order. -/
theorem view_of_foldlM_ok {view : σ → List β} {part : ι → List β}
    (adds : ∀ state input next, step state input = .ok next → view next = view state ++ part input)
    (done : inputs.foldlM step state = .ok next) :
    view next = view state ++ inputs.flatMap part := by
  induction inputs generalizing state with
  | nil =>
    obtain rfl : state = next := Except.ok.inj done
    simp
  | cons input inputs ih =>
    obtain ⟨between, one, others⟩ := exists_of_foldlM_cons_ok done
    rw [ih others, adds state input between one, List.flatMap_cons, List.append_assoc]

end Folds

section Maps

variable {ε α β : Type} {operation : α → Except ε β} {input : α} {inputs : List α}
  {outputs : List β}

/-- A run that gives something for every input gives it for the first one and for the others. -/
theorem exists_of_mapM_cons_ok (done : (input :: inputs).mapM operation = .ok outputs) :
    ∃ output rest, operation input = .ok output ∧ inputs.mapM operation = .ok rest ∧
      outputs = output :: rest := by
  rw [List.mapM_cons] at done
  obtain ⟨output, first, done⟩ := exists_of_bind_ok done
  obtain ⟨rest, others, done⟩ := exists_of_bind_ok done
  exact ⟨output, rest, first, others, (Except.ok.inj done).symm⟩

/-- A run gives something if it can for every input. -/
theorem exists_mapM_ok (each : ∀ input ∈ inputs, ∃ output, operation input = .ok output) :
    ∃ outputs, inputs.mapM operation = .ok outputs := by
  induction inputs with
  | nil => exact ⟨[], rfl⟩
  | cons input inputs ih =>
    rw [List.forall_mem_cons] at each
    obtain ⟨⟨output, first⟩, others⟩ := each
    obtain ⟨rest, done⟩ := ih others
    exact ⟨output :: rest, by rw [List.mapM_cons, first, done]; rfl⟩

/-- A run is refused for the first input that is refused, whatever comes after it. -/
theorem mapM_append_cons_error {before after : List α} {cause : ε}
    (each : ∀ input ∈ before, ∃ output, operation input = .ok output)
    (refused : operation input = .error cause) :
    (before ++ input :: after).mapM operation = .error cause := by
  obtain ⟨outputs, done⟩ := exists_mapM_ok each
  rw [List.mapM_append, done, List.mapM_cons, refused]
  rfl

/-- Whatever a run gives comes from one of its inputs. -/
theorem exists_of_mem_mapM (done : inputs.mapM operation = .ok outputs) {output : β}
    (member : output ∈ outputs) : ∃ input ∈ inputs, operation input = .ok output := by
  induction inputs generalizing outputs with
  | nil =>
    obtain rfl : [] = outputs := Except.ok.inj done
    simp at member
  | cons input inputs ih =>
    obtain ⟨result, rest, first, others, rfl⟩ := exists_of_mapM_cons_ok done
    rcases List.mem_cons.mp member with rfl | later
    · exact ⟨input, List.mem_cons_self, first⟩
    · obtain ⟨source, standing, made⟩ := ih others later
      exact ⟨source, List.mem_cons_of_mem _ standing, made⟩

/-- Where each input can be told from what is given for it, the inputs can be told from a run. -/
theorem map_of_mapM {source : β → α}
    (told : ∀ input output, operation input = .ok output → source output = input)
    (done : inputs.mapM operation = .ok outputs) : outputs.map source = inputs := by
  induction inputs generalizing outputs with
  | nil =>
    obtain rfl : [] = outputs := Except.ok.inj done
    rfl
  | cons input inputs ih =>
    obtain ⟨output, rest, first, others, rfl⟩ := exists_of_mapM_cons_ok done
    rw [List.map_cons, told input output first, ih others]

/-- A run gives its inputs back just when it gives each of them back. -/
theorem mapM_eq_ok_self_iff {operation : α → Except ε α} {inputs : List α} :
    inputs.mapM operation = .ok inputs ↔ ∀ input ∈ inputs, operation input = .ok input := by
  induction inputs with
  | nil => exact ⟨fun _ _ member => absurd member List.not_mem_nil, fun _ => rfl⟩
  | cons input inputs ih =>
    rw [List.forall_mem_cons, ← ih]
    constructor
    · intro done
      obtain ⟨output, rest, first, others, same⟩ := exists_of_mapM_cons_ok done
      obtain ⟨rfl, rfl⟩ := List.cons_eq_cons.mp same
      exact ⟨first, others⟩
    · rintro ⟨first, others⟩
      rw [List.mapM_cons, first, others]
      rfl

end Maps

end Worksheet
