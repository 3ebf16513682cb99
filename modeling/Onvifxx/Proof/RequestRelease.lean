/-
This file proves when the service loop has released each request at its next accept.
-/

import Onvifxx.Construction.Daemon

namespace Onvifxx.Daemon

/-- The objects that are held when the loop comes back to its accept. -/
def heldAfter (turns : List Turn) : List Nat :=
  turns.foldl (fun held turn => serveTurn turn held) []

theorem heldAfter_concat (turns : List Turn) (turn : Turn) :
    heldAfter (turns ++ [turn]) = serveTurn turn (heldAfter turns) := by
  simp [heldAfter]

/-- An accepted request that fails keeps what it has allocated. -/
def Leaks (turn : Turn) : Prop :=
  turn.accept ≠ -1 ∧ turn.serve ≠ 0 ∧ turn.allocated ≠ []

/-- A turn that starts without objects ends without them exactly when it does not leak. -/
theorem serveTurn_nil (turn : Turn) : serveTurn turn [] = [] ↔ ¬ Leaks turn := by
  unfold serveTurn Leaks
  by_cases refused : turn.accept = -1
  · simp [refused]
  · by_cases failed : turn.serve = 0
    · simp [refused, failed, destroy]
    · simp [refused, failed]

/-- The loop never holds an object at its accept when no turn leaks. -/
theorem heldAfter_nil {turns : List Turn} (released : ∀ turn ∈ turns, ¬ Leaks turn) :
    heldAfter turns = [] := by
  induction turns using List.reverseRecOn with
  | nil => rfl
  | append_singleton turns turn ih =>
      rw [heldAfter_concat, ih fun earlier member => released earlier (by simp [member])]
      exact (serveTurn_nil turn).mpr (released turn (by simp))

/-- Each request is released before the next accept exactly when no failed request allocates. -/
theorem released_iff (turns : List Turn) :
    (∀ before after, turns = before ++ after → heldAfter before = []) ↔
      ∀ turn ∈ turns, ¬ Leaks turn := by
  constructor
  · intro released turn member
    obtain ⟨before, after, shape⟩ := List.append_of_mem member
    have earlier := released before (turn :: after) shape
    have current := released (before ++ [turn]) after (by rw [shape]; simp)
    rw [heldAfter_concat, earlier] at current
    exact (serveTurn_nil turn).mp current
  · intro released before after shape
    apply heldAfter_nil
    intro turn member
    exact released turn (by simp [shape, member])

/-- A malformed packet leaves its objects behind at the next accept. -/
theorem released_leaks :
    ¬ ∀ turns before after : List Turn, turns = before ++ after → heldAfter before = [] := by
  intro released
  have held := released [⟨3, 4, [16]⟩, ⟨3, 0, []⟩] [⟨3, 4, [16]⟩] [⟨3, 0, []⟩] rfl
  revert held
  decide

theorem runIos_held {state next : State} (taken : runIos state = .ok next) :
    next.held = state.held := by
  unfold runIos at taken
  split at taken
  · cases taken
    rfl
  · split at taken
    · cases taken
      rfl
    · split at taken <;> cases taken
      rfl

theorem join_held {state next : State} (taken : join state = .ok next) :
    next.held = state.held := by
  unfold join at taken
  split at taken
  · cases taken
    rfl
  · split at taken <;> cases taken
    rfl

/-- The main thread never touches the objects of a request. -/
theorem exec_held {assertions : Bool} {state next : State}
    (taken : exec assertions state = .ok next) : next.held = state.held := by
  cases place : state.exec <;> simp only [exec, place] at taken
  case running => exact runIos_held taken
  case joining => exact join_held taken
  case checking => split at taken <;> cases taken <;> rfl
  all_goals
    cases taken
    try rfl

/-- A turn of the service thread may leak, and no other action may. -/
def Releases (_ : State) (action : Action) : Prop := ∀ turn, action = .service turn → ¬ Leaks turn

/-- A step of the daemon that does not leak keeps the daemon without held objects. -/
theorem step_held {assertions : Bool} (state : State) (action : Action) (next : State)
    (empty : state.held = []) (releases : Releases state action)
    (taken : step assertions state action = .ok next) : next.held = [] := by
  cases action with
  | arrive signal =>
      cases taken
      unfold arrive
      split <;> exact empty
  | exec => exact (exec_held taken).trans empty
  | abandon =>
      simp only [step, abandon] at taken
      split at taken <;> cases taken
      exact empty
  | service turn =>
      have kept : serveTurn turn state.held = [] := by
        rw [empty]
        exact (serveTurn_nil turn).mpr (releases turn rfl)
      cases place : state.service <;> simp only [step, runService, place] at taken <;> cases taken
      all_goals first | exact empty | exact kept | rfl
  | serviceThrows =>
      cases place : state.service <;> simp only [step, throwService, place] at taken <;>
        cases taken <;> rfl

/-- The daemon holds no object of a request after any run without a leak. -/
theorem run_held {assertions : Bool} {actions : List Action} {final : State}
    (releases : Run.Every (step assertions) Releases initial actions)
    (completed : Run.run (step assertions) initial actions = .ok final) : final.held = [] :=
  Run.run_invariant step_held rfl releases completed

end Onvifxx.Daemon
