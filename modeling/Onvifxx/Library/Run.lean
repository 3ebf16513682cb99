/-
This file runs a partial step function over a list of inputs.
-/

import Mathlib.Tactic

namespace Onvifxx.Run

variable {State Input Error : Type*}

/-- A run takes one step for each input and stops at the first error. -/
def run (step : State → Input → Except Error State) : State → List Input → Except Error State
  | state, [] => .ok state
  | state, input :: rest =>
      match step state input with
      | .ok next => run step next rest
      | .error error => .error error

/-- The condition holds before each step that the run takes. -/
def Every (step : State → Input → Except Error State) (holds : State → Input → Prop) :
    State → List Input → Prop
  | _, [] => True
  | state, input :: rest => holds state input ∧
      match step state input with
      | .ok next => Every step holds next rest
      | .error _ => True

variable {step : State → Input → Except Error State} {holds wanted : State → Input → Prop}

@[simp] theorem run_nil (state : State) : run step state [] = .ok state := rfl

theorem run_cons_ok {state next : State} {input : Input} (rest : List Input)
    (taken : step state input = .ok next) : run step state (input :: rest) = run step next rest := by
  simp [run, taken]

/-- A completed run starts with a completed step. -/
theorem run_cons {state final : State} {input : Input} {rest : List Input}
    (completed : run step state (input :: rest) = .ok final) :
    ∃ next, step state input = .ok next ∧ run step next rest = .ok final := by
  cases taken : step state input with
  | ok next => exact ⟨next, rfl, by simpa [run, taken] using completed⟩
  | error error => simp [run, taken] at completed

/-- A run of two parts starts its second part where its first one ends. -/
theorem run_append {state middle : State} {first : List Input} (second : List Input)
    (completed : run step state first = .ok middle) :
    run step state (first ++ second) = run step middle second := by
  induction first generalizing state with
  | nil =>
      rw [run_nil, Except.ok.injEq] at completed
      rw [List.nil_append, completed]
  | cons input rest ih =>
      obtain ⟨next, taken, remaining⟩ := run_cons completed
      rw [List.cons_append, run_cons_ok (rest ++ second) taken, ih remaining]

/-- One more input takes one more step. -/
theorem run_concat {state middle : State} {inputs : List Input} (input : Input)
    (completed : run step state inputs = .ok middle) :
    run step state (inputs ++ [input]) = step middle input := by
  rw [run_append [input] completed]
  cases taken : step middle input <;> simp [run, taken]

/-- A completed run of one more input completes before that input. -/
theorem run_unconcat {state final : State} {inputs : List Input} {input : Input}
    (completed : run step state (inputs ++ [input]) = .ok final) :
    ∃ middle, run step state inputs = .ok middle ∧ step middle input = .ok final := by
  induction inputs generalizing state with
  | nil =>
      obtain ⟨next, taken, remaining⟩ := run_cons completed
      rw [run_nil, Except.ok.injEq] at remaining
      exact ⟨state, rfl, remaining ▸ taken⟩
  | cons first rest ih =>
      obtain ⟨next, taken, remaining⟩ := run_cons completed
      obtain ⟨middle, before, last⟩ := ih remaining
      exact ⟨middle, (run_cons_ok rest taken).trans before, last⟩

/-- A completed run of two parts completes its first one. -/
theorem run_unappend {state final : State} {first second : List Input}
    (completed : run step state (first ++ second) = .ok final) :
    ∃ middle, run step state first = .ok middle ∧ run step middle second = .ok final := by
  induction first generalizing state with
  | nil => exact ⟨state, rfl, completed⟩
  | cons input rest ih =>
      obtain ⟨next, taken, remaining⟩ := run_cons completed
      obtain ⟨middle, before, after⟩ := ih remaining
      exact ⟨middle, (run_cons_ok rest taken).trans before, after⟩

/-- Each step of a run emits some outputs. -/
def outputs {Output : Type*} (step : State → Input → Except Error State)
    (emit : State → Input → List Output) : State → List Input → List Output
  | _, [] => []
  | state, input :: rest => emit state input ++
      match step state input with
      | .ok next => outputs step emit next rest
      | .error _ => []

/-- One more input emits its own outputs after those of the run. -/
theorem outputs_concat {Output : Type*} (emit : State → Input → List Output) {state middle : State}
    {inputs : List Input} (input : Input) (completed : run step state inputs = .ok middle) :
    outputs step emit state (inputs ++ [input]) =
      outputs step emit state inputs ++ emit middle input := by
  induction inputs generalizing state with
  | nil =>
      rw [run_nil, Except.ok.injEq] at completed
      subst completed
      cases taken : step state input <;> simp [outputs, taken]
  | cons first rest ih =>
      obtain ⟨next, taken, remaining⟩ := run_cons completed
      simp only [List.cons_append, outputs, taken, ih remaining, List.append_assoc]

/-- A relation between the inputs so far and the state holds after every run. -/
theorem run_history {relation : List Input → State → Prop} {initial final : State}
    {inputs : List Input} (starts : relation [] initial)
    (extended : ∀ inputs state input next, run step initial inputs = .ok state →
      relation inputs state → step state input = .ok next → relation (inputs ++ [input]) next)
    (completed : run step initial inputs = .ok final) : relation inputs final := by
  induction inputs using List.reverseRecOn generalizing final with
  | nil =>
      rw [run_nil, Except.ok.injEq] at completed
      exact completed ▸ starts
  | append_singleton inputs input ih =>
      obtain ⟨middle, before, taken⟩ := run_unconcat completed
      exact extended inputs middle input final before (ih before) taken

/-- A record that each step extends by its own piece is made of one piece for each input.
After any number of steps it consists of their pieces. -/
theorem run_pieces {Item : Type*} {record : State → List Item} {piece : Input → List Item → Prop}
    (extended : ∀ state input next, step state input = .ok next →
      ∃ more, record next = record state ++ more ∧ piece input more)
    {state final : State} {inputs : List Input} (completed : run step state inputs = .ok final) :
    ∃ pieces, List.Forall₂ piece inputs pieces ∧ record final = record state ++ pieces.flatten ∧
      ∀ count, ∃ middle, run step state (inputs.take count) = .ok middle ∧
        record middle = record state ++ (pieces.take count).flatten := by
  induction inputs generalizing state with
  | nil =>
      rw [run_nil, Except.ok.injEq] at completed
      exact ⟨[], .nil, by simp [completed], fun count => ⟨state, by simp, by simp⟩⟩
  | cons input rest ih =>
      obtain ⟨next, taken, remaining⟩ := run_cons completed
      obtain ⟨more, added, fits⟩ := extended state input next taken
      obtain ⟨pieces, others, whole, upto⟩ := ih remaining
      refine ⟨more :: pieces, .cons fits others, ?_, fun count => ?_⟩
      · rw [whole, added, List.flatten_cons, List.append_assoc]
      · cases count with
        | zero => exact ⟨state, rfl, by simp⟩
        | succ count =>
            obtain ⟨middle, reached, shape⟩ := upto count
            refine ⟨middle, (run_cons_ok (rest.take count) taken).trans reached, ?_⟩
            rw [shape, added, List.take_succ_cons, List.flatten_cons, List.append_assoc]

/-- A measure that each counted step decreases bounds the counted steps of a run. -/
theorem run_measure {invariant : State → Prop} {measure : State → Nat} {counts : Input → Bool}
    (decreases : ∀ state input next, invariant state → step state input = .ok next →
      invariant next ∧ measure next + (counts input).toNat ≤ measure state)
    {state final : State} {inputs : List Input} (initial : invariant state)
    (completed : run step state inputs = .ok final) :
    inputs.countP counts + measure final ≤ measure state := by
  induction inputs generalizing state with
  | nil =>
      rw [run_nil, Except.ok.injEq] at completed
      simp [completed]
  | cons input rest ih =>
      obtain ⟨next, taken, remaining⟩ := run_cons completed
      obtain ⟨kept, less⟩ := decreases state input next initial taken
      have later := ih kept remaining
      rw [List.countP_cons]
      cases counted : counts input <;> simp only [counted, Bool.toNat_true, Bool.toNat_false] at less <;>
        simp only [Bool.false_eq_true, ↓reduceIte] <;> omega

theorem every_cons {state next : State} {input : Input} {rest : List Input}
    (taken : step state input = .ok next) :
    Every step holds state (input :: rest) ↔ holds state input ∧ Every step holds next rest := by
  simp [Every, taken]

instance decidableEvery [∀ state input, Decidable (holds state input)] :
    (state : State) → (inputs : List Input) → Decidable (Every step holds state inputs)
  | _, [] => isTrue trivial
  | state, input :: rest =>
      match taken : step state input with
      | .ok next =>
          have := decidableEvery next rest
          decidable_of_iff _ (every_cons taken).symm
      | .error _ => decidable_of_iff (holds state input) (by simp [Every, taken])

/-- A condition on the inputs alone holds before each step. -/
theorem every_of_forall {inputs : List Input} (always : ∀ input ∈ inputs, ∀ state, holds state input)
    (state : State) : Every step holds state inputs := by
  induction inputs generalizing state with
  | nil => trivial
  | cons input rest ih =>
      refine ⟨always input List.mem_cons_self state, ?_⟩
      cases step state input with
      | ok next => exact ih (fun later member => always later (List.mem_cons_of_mem _ member)) next
      | error error => trivial

/-- A run ends when each step from the invariant ends and keeps it. -/
theorem run_ends {invariant : State → Prop}
    (ends : ∀ state input, invariant state → ∃ next, step state input = .ok next ∧ invariant next)
    {state : State} (initial : invariant state) (inputs : List Input) :
    ∃ final, run step state inputs = .ok final ∧ invariant final := by
  induction inputs generalizing state with
  | nil => exact ⟨state, rfl, initial⟩
  | cons input rest ih =>
      obtain ⟨next, taken, kept⟩ := ends state input initial
      obtain ⟨final, completed, holds⟩ := ih kept
      exact ⟨final, (run_cons_ok rest taken).trans completed, holds⟩

/-- A condition that each step preserves under its guard holds after every guarded run. -/
theorem run_invariant {invariant : State → Prop}
    (preserved : ∀ state input next, invariant state → holds state input →
      step state input = .ok next → invariant next)
    {state final : State} {inputs : List Input} (initial : invariant state)
    (guarded : Every step holds state inputs) (completed : run step state inputs = .ok final) :
    invariant final := by
  induction inputs generalizing state with
  | nil =>
      simp only [run_nil, Except.ok.injEq] at completed
      exact completed ▸ initial
  | cons input rest ih =>
      obtain ⟨next, taken, remaining⟩ := run_cons completed
      obtain ⟨guard, tail⟩ := (every_cons taken).mp guarded
      exact ih (preserved state input next initial guard taken) tail remaining

/-- A condition that each step preserves holds after every run. -/
theorem run_preserves {invariant : State → Prop}
    (preserved : ∀ state input next, invariant state → step state input = .ok next → invariant next)
    {state final : State} {inputs : List Input} (initial : invariant state)
    (completed : run step state inputs = .ok final) : invariant final := by
  induction inputs generalizing state with
  | nil =>
      simp only [run_nil, Except.ok.injEq] at completed
      exact completed ▸ initial
  | cons input rest ih =>
      obtain ⟨next, taken, remaining⟩ := run_cons completed
      exact ih (preserved state input next initial taken) remaining

/-- A guarded run ends when each guarded step from the invariant ends and keeps it. -/
theorem run_completes {invariant : State → Prop}
    (ends : ∀ state input, invariant state → holds state input →
      ∃ next, step state input = .ok next ∧ invariant next)
    {state : State} {inputs : List Input} (initial : invariant state)
    (guarded : Every step holds state inputs) :
    ∃ final, run step state inputs = .ok final ∧ invariant final := by
  induction inputs generalizing state with
  | nil => exact ⟨state, rfl, initial⟩
  | cons input rest ih =>
      obtain ⟨next, taken, kept⟩ := ends state input initial guarded.1
      obtain ⟨final, completed, holds⟩ := ih kept ((every_cons taken).mp guarded).2
      exact ⟨final, (run_cons_ok rest taken).trans completed, holds⟩

/-- A guarded run refines the abstract steps that its own steps refine. -/
theorem run_refines {Abstract : Type*} {relation : Abstract → Abstract → Prop}
    (abstraction : State → Abstract)
    (refines : ∀ state input next, holds state input → step state input = .ok next →
      relation (abstraction state) (abstraction next))
    {state final : State} {inputs : List Input}
    (guarded : Every step holds state inputs) (completed : run step state inputs = .ok final) :
    Relation.ReflTransGen relation (abstraction state) (abstraction final) := by
  induction inputs generalizing state with
  | nil =>
      simp only [run_nil, Except.ok.injEq] at completed
      exact completed ▸ Relation.ReflTransGen.refl
  | cons input rest ih =>
      obtain ⟨next, taken, remaining⟩ := run_cons completed
      obtain ⟨guard, tail⟩ := (every_cons taken).mp guarded
      exact Relation.ReflTransGen.head (refines state input next guard taken) (ih tail remaining)

/-- Two conditions that agree wherever an invariant holds agree over each run from there. -/
theorem every_congr_of {invariant : State → Prop}
    (preserved : ∀ state input next, invariant state → step state input = .ok next → invariant next)
    (agree : ∀ state input, invariant state → (holds state input ↔ wanted state input))
    {state : State} (initial : invariant state) (inputs : List Input) :
    Every step holds state inputs ↔ Every step wanted state inputs := by
  induction inputs generalizing state with
  | nil => exact Iff.rfl
  | cons input rest ih =>
      cases taken : step state input with
      | ok next =>
          rw [every_cons taken, every_cons taken, agree state input initial,
            ih (preserved state input next initial taken)]
      | error error => simp [Every, taken, agree state input initial]

/-- Two conditions that agree at each step agree over each run. -/
theorem every_congr (agree : ∀ state input, holds state input ↔ wanted state input)
    (state : State) (inputs : List Input) :
    Every step holds state inputs ↔ Every step wanted state inputs := by
  have preserved : ∀ state input next, True → step state input = .ok next → True := by
    intro state input next _ _
    trivial
  exact every_congr_of preserved (fun state input _ => agree state input) trivial inputs

end Onvifxx.Run
