/-
This file proves how the daemon ends and what it has announced by then.
-/

import Onvifxx.Proof.StopProtocol

namespace Onvifxx.Daemon

open Run

def signalOf : Action → Option Signal
  | .arrive signal => some signal
  | _ => none

/-- The daemon handles the first signal of a run and no other one. -/
def firstSignal (actions : List Action) : Option Signal := actions.findSome? signalOf

theorem firstSignal_concat (actions : List Action) (action : Action) :
    firstSignal (actions ++ [action]) = (firstSignal actions).or (signalOf action) := by
  simp [firstSignal, List.findSome?_append]

/-- The first signal has not been handled yet. -/
structure Before (first : Option Signal) (state : State) : Prop where
  library : state.ios.stopped = false
  flag : state.stopped = false
  unjoined : state.joined = false
  armed : state.ios.armed = first.isNone
  ready : state.ios.ready = first
  place : (state.exec = .starting ∨ state.exec = .exited) ∧ state.service = .absent ∨
    (state.exec = .entered ∨ state.exec = .running) ∧ state.service ≠ .absent

/-- The first signal has been handled, and the main thread stops or loops on its flag. -/
structure After (signal : Signal) (state : State) : Prop where
  flag : state.stopped = decide (signal ≠ .hup)
  unarmed : state.ios.armed = false
  idle : state.ios.ready = none
  library : state.ios.stopped = decide (state.exec ≠ .handling)
  started : state.exec ≠ .starting
  served : state.service ≠ .absent
  looping : state.exec = .entered ∨ state.exec = .aborted → state.stopped = false
  exits : state.exec = .exited → state.stopped = true
  waited : state.exec = .joined ∨ state.exec = .checking ∨ state.exec = .aborted ∨
    state.exec = .exited → state.joined = true
  ended : state.joined = true → state.service = .ended

/-- The daemon lives before or after its first signal, and it leaves early only when it gives up. -/
def Lives (actions : List Action) (state : State) : Prop :=
  Before (firstSignal actions) state ∧ (state.exec = .exited → .abandon ∈ actions) ∨
    ∃ signal, firstSignal actions = some signal ∧ After signal state

theorem initial_lives : Lives [] initial :=
  Or.inl ⟨⟨rfl, rfl, rfl, rfl, rfl, Or.inl ⟨Or.inl rfl, rfl⟩⟩, fun exited => by cases exited⟩

/-- An action that brings no signal keeps the first one. -/
theorem firstSignal_quiet {actions : List Action} {action : Action} (quiet : signalOf action = none) :
    firstSignal (actions ++ [action]) = firstSignal actions := by
  rw [firstSignal_concat, quiet, Option.or_none]

theorem arrive_lives {actions : List Action} {state : State} (signal : Signal)
    (lives : Lives actions state) : Lives (actions ++ [.arrive signal]) (arrive signal state) := by
  rcases lives with ⟨before, exits⟩ | ⟨first, found, after⟩
  · obtain ⟨library, flag, unjoined, armed, ready, place⟩ := before
    cases first : firstSignal actions with
    | none =>
        rw [first] at armed
        have taken : arrive signal state =
            { state with ios := { state.ios with armed := false, ready := some signal } } := by
          simp [arrive, armed]
        rw [taken]
        refine Or.inl ⟨⟨library, flag, unjoined, ?_, ?_, place⟩, fun left => ?_⟩
        · simp [firstSignal_concat, first, signalOf]
        · simp [firstSignal_concat, first, signalOf]
        · exact List.mem_append_left _ (exits left)
    | some earlier =>
        rw [first] at armed ready
        have same : arrive signal state = state := by simp [arrive, armed]
        have kept : firstSignal (actions ++ [.arrive signal]) = some earlier := by
          simp [firstSignal_concat, first]
        rw [same]
        refine Or.inl ⟨?_, fun left => List.mem_append_left _ (exits left)⟩
        rw [kept]
        exact ⟨library, flag, unjoined, armed, ready, place⟩
  · have same : arrive signal state = state := by simp [arrive, after.unarmed]
    rw [same]
    exact Or.inr ⟨first, by simp [firstSignal_concat, found], after⟩

/-- The main thread handles the first signal when it runs the library. -/
theorem exec_before {assertions : Bool} {first : Option Signal} {state next : State}
    (before : Before first state) (taken : exec assertions state = .ok next) :
    Before first next ∧ next.exec ≠ .exited ∨ ∃ signal, first = some signal ∧ After signal next := by
  obtain ⟨library, flag, unjoined, armed, ready, place⟩ := before
  rcases place with ⟨here | here, absent⟩ | ⟨here | here, present⟩
  · simp only [exec, here, Except.ok.injEq] at taken
    subst taken
    exact Or.inl ⟨⟨library, flag, unjoined, armed, ready, Or.inr ⟨Or.inl rfl, by simp⟩⟩, by simp⟩
  · simp [exec, here] at taken
  · simp only [exec, here, Except.ok.injEq] at taken
    subst taken
    exact Or.inl ⟨⟨library, flag, unjoined, armed, ready, Or.inr ⟨Or.inr rfl, present⟩⟩, by simp⟩
  · cases first with
    | none => simp [exec, here, runIos, library, ready, armed] at taken
    | some signal =>
        simp only [exec, here, runIos, library, ready, signalHandler, Bool.false_eq_true,
          ↓reduceIte, Except.ok.injEq] at taken
        subst taken
        refine Or.inr ⟨signal, rfl, rfl, armed, rfl, by simp, by simp, present, by simp,
          by simp, by simp, ?_⟩
        intro joined
        rw [show state.joined = true from joined] at unjoined
        cases unjoined

/-- The main thread joins the service thread once and then stops or loops. -/
theorem exec_after {assertions : Bool} {signal : Signal} {state next : State}
    (after : After signal state) (taken : exec assertions state = .ok next) : After signal next := by
  obtain ⟨flag, unarmed, idle, library, started, served, looping, exits, waited, ended⟩ := after
  cases here : state.exec with
  | starting => exact absurd here started
  | entered =>
      simp only [exec, here, Except.ok.injEq] at taken
      subst taken
      have stays : state.ios.stopped = true := by simp [library, here]
      exact ⟨flag, unarmed, idle, by simp [stays], by simp, served, by simp, by simp, by simp, ended⟩
  | running =>
      have stays : state.ios.stopped = true := by simp [library, here]
      simp only [exec, here, runIos, stays, ↓reduceIte, Except.ok.injEq] at taken
      subst taken
      exact ⟨flag, unarmed, idle, by simp [stays], by simp, served, by simp, by simp, by simp, ended⟩
  | handling =>
      simp only [exec, here, Except.ok.injEq] at taken
      subst taken
      exact ⟨flag, unarmed, idle, by simp, by simp, served, by simp, by simp, by simp, ended⟩
  | joining =>
      have stays : state.ios.stopped = true := by simp [library, here]
      simp only [exec, here, join] at taken
      split at taken
      · rename_i joined
        cases taken
        exact ⟨flag, unarmed, idle, by simp [stays], by simp, served, by simp, by simp,
          fun _ => joined, ended⟩
      · split at taken
        · rename_i finished
          cases taken
          exact ⟨flag, unarmed, idle, by simp [stays], by simp, served, by simp, by simp,
            fun _ => rfl, fun _ => finished⟩
        · cases taken
  | joined =>
      have stays : state.ios.stopped = true := by simp [library, here]
      have joined : state.joined = true := waited (Or.inl here)
      simp only [exec, here, Except.ok.injEq] at taken
      subst taken
      refine ⟨flag, unarmed, idle, ?_, ?_, served, ?_, ?_, fun _ => joined, ended⟩
      · dsimp only
        split <;> simp [stays]
      · dsimp only
        split <;> simp
      · dsimp only
        split
        · rename_i failed
          intro _
          simpa using (Bool.and_eq_true_iff.mp failed).2
        · simp
      · dsimp only
        split <;> simp
  | checking =>
      have stays : state.ios.stopped = true := by simp [library, here]
      have joined : state.joined = true := waited (Or.inr (Or.inl here))
      simp only [exec, here] at taken
      split at taken
      · rename_i stopped
        cases taken
        exact ⟨flag, unarmed, idle, by simp [stays], by simp, served, by simp, fun _ => stopped,
          fun _ => joined, ended⟩
      · rename_i unstopped
        cases taken
        exact ⟨flag, unarmed, idle, by simp [stays], by simp, served,
          fun _ => Bool.not_eq_true _ ▸ unstopped, by simp, fun _ => joined, ended⟩
  | aborted => simp [exec, here] at taken
  | exited => simp [exec, here] at taken

/-- A step of the service thread starts and ends between its first and its last point. -/
theorem runService_places {turn : Turn} {state next : State}
    (taken : runService turn state = .ok next) :
    state.service ≠ .absent ∧ state.service ≠ .ended ∧ next.service ≠ .absent := by
  cases place : state.service <;> simp only [runService, place] at taken <;> cases taken
  case head => cases state.ios.stopped <;> simp
  all_goals simp

theorem throwService_places {state next : State} (taken : throwService state = .ok next) :
    state.service ≠ .absent ∧ state.service ≠ .ended ∧ next.service ≠ .absent := by
  cases place : state.service <;> simp only [throwService, place] at taken <;> cases taken <;> simp

/-- A step of the service thread keeps the life of the daemon. -/
theorem KeepsMain.lives {actions : List Action} {action : Action} {state next : State}
    (keeps : KeepsMain state next) (quiet : signalOf action = none)
    (places : state.service ≠ .absent ∧ state.service ≠ .ended ∧ next.service ≠ .absent)
    (lives : Lives actions state) : Lives (actions ++ [action]) next := by
  obtain ⟨exec, iterations, stopped, joined, library, armed, ready⟩ := keeps
  obtain ⟨present, unfinished, presentNext⟩ := places
  rcases lives with ⟨before, exits⟩ | ⟨signal, found, after⟩
  · refine Or.inl ⟨?_, fun left => List.mem_append_left _ (exits (exec ▸ left))⟩
    rw [firstSignal_quiet quiet]
    have place := (before.place.resolve_left fun idle => present idle.2).1
    exact ⟨library.trans before.library, stopped.trans before.flag, joined.trans before.unjoined,
      armed.trans before.armed, ready.trans before.ready, Or.inr ⟨exec.symm ▸ place, presentNext⟩⟩
  · refine Or.inr ⟨signal, (firstSignal_quiet quiet).trans found, ?_⟩
    have unjoined : ¬ state.joined = true := fun finished => unfinished (after.ended finished)
    obtain ⟨flag, unarmed, idle, stays, started, _, looping, exits, waited, _⟩ := after
    rw [← exec] at stays started looping exits waited
    rw [← library] at stays
    rw [← stopped] at flag looping exits
    rw [← joined] at waited unjoined
    exact ⟨flag, armed.trans unarmed, ready.trans idle, stays, started, presentNext, looping, exits,
      waited, fun finished => absurd finished unjoined⟩

/-- Each step of the daemon keeps its life. -/
theorem step_lives {assertions : Bool} (actions : List Action) (state : State) (action : Action)
    (next : State) (_ : run (step assertions) initial actions = .ok state)
    (lives : Lives actions state) (taken : step assertions state action = .ok next) :
    Lives (actions ++ [action]) next := by
  cases action with
  | arrive signal =>
      cases taken
      exact arrive_lives signal lives
  | exec =>
      rcases lives with ⟨before, exits⟩ | ⟨signal, found, after⟩
      · rcases exec_before before taken with ⟨still, inside⟩ | ⟨signal, found, after⟩
        · have kept : firstSignal (actions ++ [.exec]) = firstSignal actions := firstSignal_quiet rfl
          exact Or.inl ⟨kept ▸ still, fun left => absurd left inside⟩
        · exact Or.inr ⟨signal, (firstSignal_quiet rfl).trans found, after⟩
      · exact Or.inr ⟨signal, (firstSignal_quiet rfl).trans found, exec_after after taken⟩
  | abandon =>
      simp only [step, abandon] at taken
      split at taken
      · rename_i starting
        cases taken
        rcases lives with ⟨before, exits⟩ | ⟨signal, found, after⟩
        · refine Or.inl ⟨?_, fun _ => by simp⟩
          rw [firstSignal_quiet rfl]
          have absent : state.service = .absent := by
            rcases before.place with ⟨_, absent⟩ | ⟨here | here, _⟩
            · exact absent
            · rw [starting] at here
              cases here
            · rw [starting] at here
              cases here
          exact ⟨before.library, before.flag, before.unjoined, before.armed, before.ready,
            Or.inl ⟨Or.inr rfl, absent⟩⟩
        · exact absurd starting after.started
      · cases taken
  | service turn => exact (runService_keeps taken).lives rfl (runService_places taken) lives
  | serviceThrows => exact (throwService_keeps taken).lives rfl (throwService_places taken) lives

theorem run_lives {assertions : Bool} {actions : List Action} {final : State}
    (completed : run (step assertions) initial actions = .ok final) : Lives actions final :=
  run_history initial_lives step_lives completed

/-- A daemon that gives up exits without its service thread.
Another one exits after that thread, and its first signal was not a hangup. -/
theorem run_exits (assertions : Bool) (actions : List Action) (final : State)
    (completed : run (step assertions) initial actions = .ok final) (exited : final.exec = .exited) :
    (.abandon ∈ actions ∧ final.service = .absent) ∨
      ∃ signal, firstSignal actions = some signal ∧ signal ≠ .hup ∧ final.service = .ended := by
  rcases run_lives completed with ⟨before, exits⟩ | ⟨signal, found, after⟩
  · refine Or.inl ⟨exits exited, ?_⟩
    rcases before.place with ⟨-, absent⟩ | ⟨here, -⟩
    · exact absent
    · simp [exited] at here
  · have stopped := after.exits exited
    rw [after.flag] at stopped
    have joined := after.waited (Or.inr (Or.inr (Or.inr exited)))
    exact Or.inr ⟨signal, found, of_decide_eq_true stopped, after.ended joined⟩

theorem run_exits_term : firstSignal (life .term) = some .term ∧
    ∃ final, run (step true) initial (life .term ++ [.exec]) = .ok final ∧
      ((.abandon ∈ life .term ++ [.exec] ∧ final.service = .absent) ∨
        ∃ signal, firstSignal (life .term ++ [.exec]) = some signal ∧ signal ≠ .hup ∧
          final.service = .ended) :=
  ⟨rfl, _, rfl, run_exits true (life .term ++ [.exec]) _ rfl rfl⟩

/-- An action of one of the two threads. -/
def ofThread : Action → Bool
  | .exec | .service _ | .serviceThrows => true
  | .arrive _ | .abandon => false

/-- Neither thread can take a step. -/
def Stuck (assertions : Bool) (state : State) : Prop :=
  ∀ action, ofThread action = true → step assertions state action = .error .blocked

theorem service_blocked_iff (state : State) :
    (∀ turn, runService turn state = .error .blocked) ∧ throwService state = .error .blocked ↔
      state.service = .absent ∨ state.service = .ended := by
  have some : Nonempty Turn := ⟨⟨0, 0, []⟩⟩
  cases place : state.service <;> simp [runService, throwService, place]

theorem stuck_iff {assertions : Bool} {state : State} :
    Stuck assertions state ↔ exec assertions state = .error .blocked ∧
      (state.service = .absent ∨ state.service = .ended) := by
  rw [← service_blocked_iff]
  constructor
  · intro stuck
    exact ⟨stuck .exec rfl, fun turn => stuck (.service turn) rfl, stuck .serviceThrows rfl⟩
  · rintro ⟨main, service, throws⟩ action thread
    cases action with
    | exec => exact main
    | service turn => exact service turn
    | serviceThrows => exact throws
    | arrive => cases thread
    | abandon => cases thread

/-- The main thread is blocked at its end, in the library without a signal and in an early join. -/
theorem exec_blocked_iff {assertions : Bool} {actions : List Action} {state : State}
    (lives : Lives actions state) :
    exec assertions state = .error .blocked ↔ state.exec = .exited ∨ state.exec = .aborted ∨
      (state.exec = .running ∧ firstSignal actions = none) ∨
      (state.exec = .joining ∧ state.joined = false ∧ state.service ≠ .ended) := by
  rcases lives with ⟨before, _⟩ | ⟨signal, found, after⟩
  · obtain ⟨library, flag, unjoined, armed, ready, place⟩ := before
    rcases place with ⟨here | here, _⟩ | ⟨here | here, _⟩
    · simp [exec, here]
    · simp [exec, here]
    · simp [exec, here]
    · cases first : firstSignal actions with
      | none =>
          rw [first] at armed ready
          simp [exec, here, runIos, library, ready, armed]
      | some signal =>
          rw [first] at ready
          simp [exec, here, runIos, library, ready]
  · obtain ⟨flag, unarmed, idle, stays, started, served, looping, exits, waited, ended⟩ := after
    cases here : state.exec with
    | starting => exact absurd here started
    | running =>
        have stopped : state.ios.stopped = true := by simp [stays, here]
        simp [exec, here, runIos, stopped, found]
    | joining =>
        cases joined : state.joined with
        | true => simp [exec, here, join, joined]
        | false =>
            by_cases finished : state.service = .ended <;> simp [exec, here, join, joined, finished]
    | checking => cases stopped : state.stopped <;> simp [exec, here, stopped]
    | entered => simp [exec, here]
    | handling => simp [exec, here]
    | joined => simp [exec, here]
    | aborted => simp [exec, here]
    | exited => simp [exec, here]

/-- The daemon is stuck only at its end, or when its service ended before any signal came. -/
theorem run_stuck_iff (assertions : Bool) (actions : List Action) (final : State)
    (completed : run (step assertions) initial actions = .ok final) :
    Stuck assertions final ↔ final.exec = .exited ∨ final.exec = .aborted ∨
      final.exec = .running ∧ firstSignal actions = none ∧ final.service = .ended := by
  have lives := run_lives completed
  rw [stuck_iff, exec_blocked_iff lives]
  constructor
  · rintro ⟨exited | aborted | ⟨running, silent⟩ | ⟨joining, -, unfinished⟩, service⟩
    · exact Or.inl exited
    · exact Or.inr (Or.inl aborted)
    · refine Or.inr (Or.inr ⟨running, silent, service.resolve_left fun absent => ?_⟩)
      rcases lives with ⟨before, _⟩ | ⟨signal, found, after⟩
      · rcases before.place with ⟨here | here, _⟩ | ⟨_, present⟩
        · rw [running] at here
          cases here
        · rw [running] at here
          cases here
        · exact present absent
      · exact after.served absent
    · rcases lives with ⟨before, _⟩ | ⟨signal, found, after⟩
      · rcases before.place with ⟨here | here, _⟩ | ⟨here | here, _⟩ <;> rw [joining] at here <;>
          cases here
      · exact absurd (service.resolve_left after.served) unfinished
  · have left : final.exec = .exited ∨ final.exec = .aborted →
        final.service = .absent ∨ final.service = .ended := by
      intro gone
      rcases lives with ⟨before, _⟩ | ⟨signal, found, after⟩
      · rcases before.place with ⟨_, absent⟩ | ⟨here | here, _⟩
        · exact Or.inl absent
        · rcases gone with there | there <;> rw [here] at there <;> cases there
        · rcases gone with there | there <;> rw [here] at there <;> cases there
      · refine Or.inr (after.ended (after.waited ?_))
        rcases gone with exited | aborted
        · exact Or.inr (Or.inr (Or.inr exited))
        · exact Or.inr (Or.inr (Or.inl aborted))
    rintro (exited | aborted | ⟨running, silent, ended⟩)
    · exact ⟨Or.inl exited, left (Or.inl exited)⟩
    · exact ⟨Or.inr (Or.inl aborted), left (Or.inr aborted)⟩
    · exact ⟨Or.inr (Or.inr (Or.inl ⟨running, silent⟩)), Or.inr ended⟩

/-- A service that throws at once leaves the daemon stuck until its first signal. -/
theorem run_stuck_thrown :
    Stuck true ⟨.running, 1, false, ⟨false, false, true, none⟩, .ended, [], false⟩ :=
  (run_stuck_iff true [.exec, .exec, .serviceThrows, .service ⟨0, 0, []⟩] _ rfl).mpr
    (Or.inr (Or.inr ⟨rfl, rfl, rfl⟩))

/-- The steps that the main thread still takes after a stop. -/
def execRank : ExecPoint → Nat
  | .handling => 5
  | .running => 4
  | .joining => 3
  | .joined => 2
  | .checking => 1
  | .starting | .entered | .aborted | .exited => 0

/-- The steps that the service thread still takes after a stop. -/
def serviceRank : ServicePoint → Nat
  | .hello | .body => 4
  | .head => 3
  | .bye => 2
  | .reset => 1
  | .absent | .ended => 0

def rank (state : State) : Nat := execRank state.exec + serviceRank state.service

/-- The handler of a stop signal has finished. -/
structure Ending (state : State) : Prop where
  handled : ∃ signal, After signal state
  stopped : state.stopped = true
  library : state.ios.stopped = true

/-- The main thread of an ending daemon comes one step closer to its exit. -/
theorem exec_ending {assertions : Bool} {state next : State} (ending : Ending state)
    (taken : exec assertions state = .ok next) : Ending next ∧ rank next + 1 ≤ rank state := by
  obtain ⟨⟨signal, after⟩, stopped, library⟩ := ending
  have kept := exec_after after taken
  cases here : state.exec with
  | starting => exact absurd here after.started
  | entered =>
      have looping := after.looping (Or.inl here)
      rw [stopped] at looping
      cases looping
  | running =>
      simp only [exec, here, runIos, library, ↓reduceIte, Except.ok.injEq] at taken
      subst taken
      exact ⟨⟨⟨signal, kept⟩, stopped, library⟩, by simp +arith [rank, execRank, here]⟩
  | handling =>
      simp only [exec, here, Except.ok.injEq] at taken
      subst taken
      exact ⟨⟨⟨signal, kept⟩, stopped, rfl⟩, by simp +arith [rank, execRank, here]⟩
  | joining =>
      simp only [exec, here, join] at taken
      split at taken
      · cases taken
        exact ⟨⟨⟨signal, kept⟩, stopped, library⟩, by simp +arith [rank, execRank, here]⟩
      · split at taken
        · cases taken
          exact ⟨⟨⟨signal, kept⟩, stopped, library⟩, by simp +arith [rank, execRank, here]⟩
        · cases taken
  | joined =>
      rw [exec, here, stopped] at taken
      simp only [Bool.not_true, Bool.and_false, Bool.false_eq_true, ↓reduceIte, Except.ok.injEq] at taken
      subst taken
      exact ⟨⟨⟨signal, kept⟩, rfl, library⟩, by simp +arith [rank, execRank, here]⟩
  | checking =>
      simp only [exec, here, stopped, ↓reduceIte, Except.ok.injEq] at taken
      subst taken
      exact ⟨⟨⟨signal, kept⟩, rfl, library⟩, by simp +arith [rank, execRank, here]⟩
  | aborted => simp [exec, here] at taken
  | exited => simp [exec, here] at taken

/-- The service thread leaves its loop once the library has stopped. -/
theorem runService_rank {turn : Turn} {state next : State} (library : state.ios.stopped = true)
    (taken : runService turn state = .ok next) : rank next + 1 ≤ rank state := by
  cases place : state.service <;> simp only [runService, place] at taken <;> cases taken <;>
    simp [rank, serviceRank, place, library]

theorem throwService_rank {state next : State} (taken : throwService state = .ok next) :
    rank next + 1 ≤ rank state := by
  cases place : state.service <;> simp only [throwService, place] at taken <;> cases taken <;>
    simp [rank, serviceRank, place]

theorem KeepsMain.ending {state next : State} (keeps : KeepsMain state next)
    (places : state.service ≠ .absent ∧ state.service ≠ .ended ∧ next.service ≠ .absent)
    (ending : Ending state) : Ending next := by
  obtain ⟨⟨signal, after⟩, stopped, library⟩ := ending
  refine ⟨⟨signal, ?_⟩, keeps.stopped.trans stopped, keeps.library.trans library⟩
  have unjoined : ¬ state.joined = true := fun finished => places.2.1 (after.ended finished)
  obtain ⟨flag, unarmed, idle, stays, started, _, looping, exits, waited, _⟩ := after
  rw [← keeps.exec] at stays started looping exits waited
  rw [← keeps.library] at stays
  rw [← keeps.stopped] at flag looping exits
  rw [← keeps.joined] at waited unjoined
  exact ⟨flag, keeps.armed.trans unarmed, keeps.ready.trans idle,
    stays, started, places.2.2, looping, exits, waited,
    fun finished => absurd finished unjoined⟩

/-- A step of an ending daemon comes closer to its exit unless it only brings a signal. -/
theorem step_ending {assertions : Bool} (state : State) (action : Action) (next : State)
    (ending : Ending state) (taken : step assertions state action = .ok next) :
    Ending next ∧ rank next + (ofThread action).toNat ≤ rank state := by
  cases action with
  | arrive signal =>
      obtain ⟨handled, after⟩ := ending.handled
      have same : arrive signal state = state := by simp [arrive, after.unarmed]
      rw [step, same, Except.ok.injEq] at taken
      exact taken ▸ ⟨ending, by simp [ofThread]⟩
  | exec => exact exec_ending ending taken
  | abandon =>
      obtain ⟨handled, after⟩ := ending.handled
      simp [step, abandon, after.started] at taken
  | service turn =>
      exact ⟨(runService_keeps taken).ending (runService_places taken) ending,
        runService_rank ending.library taken⟩
  | serviceThrows =>
      exact ⟨(throwService_keeps taken).ending (throwService_places taken) ending,
        throwService_rank taken⟩

/-- After a handled stop the two threads take at most eight more steps, and they get stuck only at the exit. -/
theorem run_stop_ends (assertions : Bool) (actions later : List Action) (state final : State)
    (reached : run (step assertions) initial actions = .ok state)
    (stopped : state.stopped = true) (library : state.ios.stopped = true)
    (completed : run (step assertions) state later = .ok final) :
    later.countP ofThread ≤ 8 ∧ (Stuck assertions final ↔ final.exec = .exited) := by
  have ending : Ending state := by
    rcases run_lives reached with ⟨before, _⟩ | ⟨signal, _, after⟩
    · rw [before.flag] at stopped
      cases stopped
    · exact ⟨⟨signal, after⟩, stopped, library⟩
  have ended : Ending final :=
    run_preserves (fun before action after kept taken => (step_ending before action after kept taken).1)
      ending completed
  constructor
  · have bound := run_measure step_ending ending completed
    have start : rank state ≤ 8 := by
      obtain ⟨signal, after⟩ := ending.handled
      have handled : state.exec ≠ .handling := of_decide_eq_true (after.library.symm.trans library)
      cases here : state.exec <;> cases place : state.service <;>
        simp_all [rank, execRank, serviceRank]
    omega
  · obtain ⟨signal, after⟩ := ended.handled
    have whole : run (step assertions) initial (actions ++ later) = .ok final :=
      (run_append later reached).trans completed
    rw [stuck_iff, exec_blocked_iff (run_lives whole)]
    constructor
    · rintro ⟨exited | aborted | ⟨running, silent⟩ | ⟨joining, -, unfinished⟩, service⟩
      · exact exited
      · have looping := after.looping (Or.inr aborted)
        rw [ended.stopped] at looping
        cases looping
      · rcases run_lives whole with ⟨before, _⟩ | ⟨first, found, _⟩
        · exact absurd (before.flag.symm.trans ended.stopped) (by decide)
        · rw [silent] at found
          cases found
      · exact absurd (service.resolve_left after.served) unfinished
    · intro exited
      exact ⟨Or.inl exited, Or.inr (after.ended (after.waited (Or.inr (Or.inr (Or.inr exited)))))⟩

/-- After the handler of a stop the service and the main thread take their last eight steps. -/
theorem run_stop_ends_term :
    [Action.service ⟨0, 0, []⟩, .service ⟨0, 0, []⟩, .service ⟨0, 0, []⟩, .service ⟨0, 0, []⟩,
        .exec, .exec, .exec, .exec].countP ofThread ≤ 8 ∧
      (Stuck true ⟨.exited, 1, true, ⟨true, false, false, none⟩, .ended, [], true⟩ ↔
        ExecPoint.exited = .exited) :=
  run_stop_ends true [.exec, .exec, .arrive .term, .exec, .exec]
    [.service ⟨0, 0, []⟩, .service ⟨0, 0, []⟩, .service ⟨0, 0, []⟩, .service ⟨0, 0, []⟩,
      .exec, .exec, .exec, .exec]
    _ _ rfl rfl rfl rfl

end Onvifxx.Daemon
