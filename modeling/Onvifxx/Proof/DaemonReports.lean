/-
This file proves what the daemon announces over its whole life.
-/

import Onvifxx.Proof.DaemonLife

namespace Onvifxx.Daemon

open Run

/-- The network sees the greeting of the daemon, its turns at the socket and its farewell. -/
inductive Report where
  | hello
  | turn (turn : Turn)
  | bye
  deriving DecidableEq, Repr

/-- A step of the service thread is reported when it uses the network. -/
def report (state : State) : Action → List Report
  | .service turn =>
      match state.service with
      | .hello => [.hello]
      | .body => [.turn turn]
      | .bye => [.bye]
      | .absent | .head | .reset | .ended => []
  | _ => []

def reports (assertions : Bool) (actions : List Action) : List Report :=
  outputs (step assertions) report initial actions

/-- The daemon has greeted and served some turns. -/
def Serving (reported : List Report) : Prop :=
  ∃ turns : List Turn, reported = .hello :: turns.map .turn

/-- The daemon has greeted, served some turns and taken its leave. -/
def Complete (reported : List Report) : Prop :=
  ∃ turns : List Turn, reported = .hello :: turns.map .turn ++ [.bye]

/-- The reports so far belong to the point of the service thread. -/
def Told (thrown : Prop) (reported : List Report) (state : State) : Prop :=
  match state.service with
  | .absent | .hello => reported = []
  | .head | .body => Serving reported
  | .bye => Serving reported ∧ state.ios.stopped = true
  | .reset | .ended => Complete reported ∧ state.ios.stopped = true ∨
      thrown ∧ (reported = [] ∨ Serving reported)

/-- The service thread reports its greeting first, its turns after that and its farewell last. -/
theorem runService_told {thrown : Prop} {reported : List Report} {turn : Turn} {state next : State}
    (told : Told thrown reported state) (taken : runService turn state = .ok next) :
    Told thrown (reported ++ report state (.service turn)) next := by
  cases place : state.service <;> simp only [runService, place] at taken <;> cases taken <;>
    simp only [Told, place] at told <;> simp only [Told, report, place, List.append_nil]
  case hello => exact ⟨[], by simp [told]⟩
  case head =>
    cases library : state.ios.stopped with
    | false => exact told
    | true => exact ⟨told, rfl⟩
  case body =>
    obtain ⟨turns, rfl⟩ := told
    exact ⟨turns ++ [turn], by simp⟩
  case bye =>
    obtain ⟨⟨turns, rfl⟩, library⟩ := told
    exact Or.inl ⟨⟨turns, rfl⟩, library⟩
  case reset => exact told

/-- An exception ends the service without a farewell. -/
theorem throwService_told {thrown : Prop} {reported : List Report} {state next : State}
    (throws : thrown) (told : Told thrown reported state) (taken : throwService state = .ok next) :
    Told thrown reported next := by
  cases place : state.service <;> simp only [throwService, place] at taken <;> cases taken <;>
    simp only [Told, place] at told <;> simp only [Told]
  case hello => exact Or.inr ⟨throws, Or.inl told⟩
  case body => exact Or.inr ⟨throws, Or.inr told⟩
  case bye => exact Or.inr ⟨throws, Or.inr told.1⟩

/-- The main thread starts the service once and never takes a stop back. -/
theorem exec_service {assertions : Bool} {state next : State}
    (taken : exec assertions state = .ok next) :
    state.exec = .starting ∧ next.service = .hello ∨
      next.service = state.service ∧ (state.ios.stopped = true → next.ios.stopped = true) := by
  cases here : state.exec <;> simp only [exec, here] at taken
  case starting =>
    cases taken
    exact Or.inl ⟨rfl, rfl⟩
  case running =>
    unfold runIos at taken
    split at taken
    · cases taken
      exact Or.inr ⟨rfl, id⟩
    · split at taken
      · cases taken
        exact Or.inr ⟨rfl, id⟩
      · split at taken <;> cases taken
        exact Or.inr ⟨rfl, fun _ => rfl⟩
  case joining =>
    unfold join at taken
    split at taken
    · cases taken
      exact Or.inr ⟨rfl, id⟩
    · split at taken <;> cases taken
      exact Or.inr ⟨rfl, id⟩
  case checking =>
    split at taken <;> cases taken <;> exact Or.inr ⟨rfl, id⟩
  all_goals cases taken
  case entered => exact Or.inr ⟨rfl, id⟩
  case handling => exact Or.inr ⟨rfl, fun _ => rfl⟩
  case joined => exact Or.inr ⟨rfl, id⟩

/-- A step that leaves the service alone keeps the reports. -/
theorem Told.keep {thrown later : Prop} {reported : List Report} {state next : State}
    (told : Told thrown reported state) (throws : thrown → later)
    (service : next.service = state.service)
    (library : state.ios.stopped = true → next.ios.stopped = true) :
    Told later reported next := by
  cases place : state.service <;> simp only [Told, place] at told <;>
    simp only [Told, service, place]
  case bye => exact ⟨told.1, library told.2⟩
  case reset =>
    rcases told with ⟨complete, stopped⟩ | ⟨raised, partly⟩
    · exact Or.inl ⟨complete, library stopped⟩
    · exact Or.inr ⟨throws raised, partly⟩
  case ended =>
    rcases told with ⟨complete, stopped⟩ | ⟨raised, partly⟩
    · exact Or.inl ⟨complete, library stopped⟩
    · exact Or.inr ⟨throws raised, partly⟩
  all_goals exact told

/-- Before its start the main thread has no service. -/
theorem Lives.absent {actions : List Action} {state : State} (lives : Lives actions state)
    (starting : state.exec = .starting) : state.service = .absent := by
  rcases lives with ⟨before, _⟩ | ⟨signal, _, after⟩
  · rcases before.place with ⟨_, absent⟩ | ⟨here | here, _⟩
    · exact absent
    · rw [starting] at here
      cases here
    · rw [starting] at here
      cases here
  · exact absurd starting after.started

/-- The reports of a run belong to its last state. -/
def Tells (assertions : Bool) (actions : List Action) (state : State) : Prop :=
  Told (.serviceThrows ∈ actions) (reports assertions actions) state

theorem initial_tells (assertions : Bool) : Tells assertions [] initial := rfl

/-- Each step of the daemon keeps its reports in order. -/
theorem step_tells {assertions : Bool} (actions : List Action) (state : State) (action : Action)
    (next : State) (reached : run (step assertions) initial actions = .ok state)
    (told : Tells assertions actions state) (taken : step assertions state action = .ok next) :
    Tells assertions (actions ++ [action]) next := by
  have more : .serviceThrows ∈ actions → .serviceThrows ∈ actions ++ [action] :=
    fun member => List.mem_append_left _ member
  have grown : reports assertions (actions ++ [action]) =
      reports assertions actions ++ report state action := outputs_concat report action reached
  rw [Tells, grown]
  rw [Tells] at told
  cases action with
  | arrive signal =>
      cases taken
      have quiet : report state (.arrive signal) = [] := rfl
      rw [quiet, List.append_nil]
      apply told.keep more
      · unfold arrive
        split <;> rfl
      · unfold arrive
        split <;> exact id
  | exec =>
      have quiet : report state .exec = [] := rfl
      rw [quiet, List.append_nil]
      rcases exec_service taken with ⟨starting, greets⟩ | ⟨service, library⟩
      · have absent := (run_lives reached).absent starting
        simp only [Told, absent] at told
        simp only [Told, greets]
        exact told
      · exact told.keep more service library
  | abandon =>
      have quiet : report state .abandon = [] := rfl
      rw [quiet, List.append_nil]
      simp only [step, abandon] at taken
      split at taken <;> cases taken
      exact told.keep more rfl id
  | service turn => exact (runService_told told taken).keep more rfl id
  | serviceThrows =>
      have quiet : report state .serviceThrows = [] := rfl
      rw [quiet, List.append_nil]
      exact throwService_told (by simp) (told.keep more rfl id) taken

theorem run_tells {assertions : Bool} {actions : List Action} {final : State}
    (completed : run (step assertions) initial actions = .ok final) :
    Tells assertions actions final :=
  run_history (initial_tells assertions) step_tells completed

/-- A greeting comes before every turn, and a farewell comes after them and after the stop. -/
theorem run_reports (assertions : Bool) (actions : List Action) (final : State)
    (completed : run (step assertions) initial actions = .ok final) :
    (reports assertions actions = [] ∨ Serving (reports assertions actions) ∨
        Complete (reports assertions actions) ∧ final.ios.stopped = true) ∧
      (final.exec = .exited → .abandon ∉ actions → .serviceThrows ∉ actions →
        Complete (reports assertions actions)) := by
  have told : Told _ _ _ := run_tells completed
  constructor
  · cases place : final.service <;> simp only [Told, place] at told
    case absent => exact Or.inl told
    case hello => exact Or.inl told
    case head => exact Or.inr (Or.inl told)
    case body => exact Or.inr (Or.inl told)
    case bye => exact Or.inr (Or.inl told.1)
    all_goals
      rcases told with complete | ⟨-, nothing | serving⟩
      · exact Or.inr (Or.inr complete)
      · exact Or.inl nothing
      · exact Or.inr (Or.inl serving)
  · intro exited stays calm
    rcases run_lives completed with ⟨_, exits⟩ | ⟨signal, _, after⟩
    · exact absurd (exits exited) stays
    · have ended := after.ended (after.waited (Or.inr (Or.inr (Or.inr exited))))
      simp only [Told, ended] at told
      rcases told with ⟨complete, -⟩ | ⟨raised, -⟩
      · exact complete
      · exact absurd raised calm

theorem run_reports_term : Complete (reports true (life .term ++ [.exec])) :=
  (run_reports true (life .term ++ [.exec]) _ rfl).2 rfl (by decide) (by decide)

end Onvifxx.Daemon
