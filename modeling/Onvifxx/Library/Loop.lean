/-
This file gives the rules of a loop that each of its turns may leave.
-/

import Mathlib.Tactic

namespace Onvifxx.Loop

variable {State : Type*} {turn : State → Option State}

/-- The loop goes on from the next state of each turn until a turn leaves it. -/
inductive Ends (turn : State → Option State) : State → Nat → State → Prop where
  | leave {state : State} (left : turn state = none) : Ends turn state 0 state
  | again {state next final : State} {turns : Nat} (taken : turn state = some next)
      (rest : Ends turn next turns final) : Ends turn state (turns + 1) final

/-- The loop takes at most as many turns as it is allowed. -/
def iterate (turn : State → Option State) : Nat → State → State
  | 0, state => state
  | allowed + 1, state =>
      match turn state with
      | none => state
      | some next => iterate turn allowed next

/-- The last state of a loop leaves it. -/
theorem Ends.left {start final : State} {turns : Nat} (ended : Ends turn start turns final) :
    turn final = none := by
  induction ended with
  | leave left => exact left
  | again taken rest ih => exact ih

/-- The loop visits each state from which it takes a turn, and its last state. -/
def Visits (turn : State → Option State) : State → State → Prop :=
  Relation.ReflTransGen fun state next => turn state = some next

theorem Ends.visits {start final : State} {turns : Nat} (ended : Ends turn start turns final) :
    Visits turn start final := by
  induction ended with
  | leave left => exact Relation.ReflTransGen.refl
  | again taken rest ih => exact Relation.ReflTransGen.head taken ih

/-- A condition that each turn preserves holds in each visited state. -/
theorem Visits.invariant {invariant : State → Prop}
    (preserved : ∀ state next, invariant state → turn state = some next → invariant next)
    {start state : State} (visited : Visits turn start state)
    (initial : invariant start) : invariant state := by
  induction visited with
  | refl => exact initial
  | tail earlier taken ih => exact preserved _ _ ih taken

/-- A condition that each turn preserves holds at the end. -/
theorem Ends.invariant {invariant : State → Prop}
    (preserved : ∀ state next, invariant state → turn state = some next → invariant next)
    {start final : State} {turns : Nat} (ended : Ends turn start turns final)
    (initial : invariant start) : invariant final :=
  ended.visits.invariant preserved initial

/-- A loop ends when each of its turns decreases a measure, and the measure bounds its turns. -/
theorem iterate_ends {measure : State → Nat}
    (decreases : ∀ state next, turn state = some next → measure next < measure state)
    {allowed : Nat} {start : State} (enough : measure start ≤ allowed) :
    ∃ turns, turns ≤ measure start ∧ Ends turn start turns (iterate turn allowed start) := by
  induction allowed generalizing start with
  | zero =>
      have left : turn start = none := by
        cases taken : turn start with
        | none => rfl
        | some next =>
            have lower := decreases start next taken
            omega
      exact ⟨0, Nat.zero_le _, .leave left⟩
  | succ allowed ih =>
      cases taken : turn start with
      | none =>
          rw [iterate, taken]
          exact ⟨0, Nat.zero_le _, .leave taken⟩
      | some next =>
          have lower := decreases start next taken
          obtain ⟨turns, bounded, ended⟩ := ih (show measure next ≤ allowed by omega)
          rw [iterate, taken]
          exact ⟨turns + 1, by omega, .again taken ended⟩

end Onvifxx.Loop
