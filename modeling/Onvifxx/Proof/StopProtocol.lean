/-
This file proves that the daemon stops soundly after each first signal but one.
-/

import Onvifxx.Construction.Daemon

namespace Onvifxx.Daemon

open Run

/-- The assertion holds after a join, and each later iteration has a service thread. -/
structure Sound (state : State) : Prop where
  joined : state.joined = true → state.stopped = true
  asserted : state.exec ≠ .aborted
  served : state.exec = .entered → 1 < state.iterations →
    state.service ≠ .absent ∧ state.service ≠ .ended

/-- The hangup signal does not arrive while the daemon waits for its first signal. -/
def NoHangup (state : State) (action : Action) : Prop :=
  action = .arrive .hup → state.ios.armed = false

instance (state : State) (action : Action) : Decidable (NoHangup state action) := by
  unfold NoHangup
  infer_instance

/-- The daemon waits for its first signal or has it at hand. -/
structure Waiting (state : State) : Prop where
  library : state.ios.stopped = false
  unjoined : state.joined = false
  first : state.iterations ≤ 1
  place : state.exec = .starting ∨ state.exec = .entered ∨ state.exec = .running ∨
    state.exec = .exited
  signal : (state.ios.armed = true ∧ state.ios.ready = none) ∨
    (state.ios.armed = false ∧ ∃ signal, state.ios.ready = some signal ∧ signal ≠ .hup)

/-- The daemon has handled a signal that stops it, and no other signal is handled. -/
structure Stopping (state : State) : Prop where
  stopped : state.stopped = true
  unarmed : state.ios.armed = false
  idle : state.ios.ready = none
  place : state.exec = .handling ∨ state.exec = .running ∨ state.exec = .joining ∨
    state.exec = .joined ∨ state.exec = .checking ∨ state.exec = .exited

/-- A run of the daemon waits for a signal, and then it stops. -/
def Steady (state : State) : Prop := Waiting state ∨ Stopping state

theorem initial_steady : Steady initial :=
  Or.inl ⟨rfl, rfl, Nat.zero_le 1, Or.inl rfl, Or.inl ⟨rfl, rfl⟩⟩

theorem Steady.sound {state : State} (steady : Steady state) : Sound state := by
  rcases steady with ⟨_, unjoined, first, place, _⟩ | ⟨stopped, _, _, place⟩
  · refine ⟨fun joined => ?_, ?_, fun _ later => ?_⟩
    · rw [unjoined] at joined
      cases joined
    · rcases place with here | here | here | here <;> simp [here]
    · omega
  · refine ⟨fun _ => stopped, ?_, fun entered => ?_⟩
    · rcases place with here | here | here | here | here | here <;> simp [here]
    · rcases place with here | here | here | here | here | here <;> simp [here] at entered

/-- Only a signal other than a hangup arrives at a waiting daemon. -/
theorem arrive_steady {state : State} {signal : Signal} (steady : Steady state)
    (guard : NoHangup state (.arrive signal)) : Steady (arrive signal state) := by
  unfold arrive
  split
  · next armed =>
      rcases steady with ⟨library, unjoined, first, place, _⟩ | ⟨_, unarmed, _, _⟩
      · refine Or.inl ⟨library, unjoined, first, place, Or.inr ⟨rfl, signal, rfl, ?_⟩⟩
        rintro rfl
        rw [guard rfl] at armed
        cases armed
      · rw [unarmed] at armed
        cases armed
  · exact steady

/-- The main thread of a waiting daemon handles the first signal. -/
theorem exec_waiting {assertions : Bool} {state next : State} (waiting : Waiting state)
    (taken : exec assertions state = .ok next) : Steady next := by
  obtain ⟨library, unjoined, first, place, signal⟩ := waiting
  rcases place with here | here | here | here
  · simp only [exec, here, Except.ok.injEq] at taken
    subst taken
    exact Or.inl ⟨library, unjoined, Nat.le_refl 1, Or.inr (Or.inl rfl), signal⟩
  · simp only [exec, here, Except.ok.injEq] at taken
    subst taken
    exact Or.inl ⟨library, unjoined, first, Or.inr (Or.inr (Or.inl rfl)), signal⟩
  · rcases signal with ⟨armed, idle⟩ | ⟨unarmed, found, ready, harmless⟩
    · simp [exec, here, runIos, library, idle, armed] at taken
    · simp only [exec, here, runIos, library, ready, signalHandler, Bool.false_eq_true,
        ↓reduceIte, Except.ok.injEq] at taken
      subst taken
      exact Or.inr ⟨by simpa using harmless, unarmed, rfl, Or.inl rfl⟩
  · simp [exec, here] at taken

/-- Without a signal at hand the library returns and leaves the signals alone. -/
theorem runIos_idle {state next : State} (idle : state.ios.ready = none)
    (taken : runIos state = .ok next) :
    next.stopped = state.stopped ∧ next.ios.armed = state.ios.armed ∧
      next.ios.ready = state.ios.ready ∧ next.exec = .joining := by
  unfold runIos at taken
  split at taken
  · cases taken
    exact ⟨rfl, rfl, rfl, rfl⟩
  · simp only [idle] at taken
    split at taken
    · cases taken
    · cases taken
      exact ⟨rfl, rfl, idle.symm, rfl⟩

theorem join_ok {state next : State} (taken : join state = .ok next) :
    next.stopped = state.stopped ∧ next.ios = state.ios ∧
      (next.exec = .checking ∨ next.exec = .joined) := by
  unfold join at taken
  split at taken
  · cases taken
    exact ⟨rfl, rfl, Or.inl rfl⟩
  · split at taken
    · cases taken
      exact ⟨rfl, rfl, Or.inr rfl⟩
    · cases taken

/-- The main thread of a stopping daemon joins the service thread and leaves its loop. -/
theorem exec_stopping {assertions : Bool} {state next : State} (stopping : Stopping state)
    (taken : exec assertions state = .ok next) : Stopping next := by
  obtain ⟨stopped, unarmed, idle, place⟩ := stopping
  rcases place with here | here | here | here | here | here <;> simp only [exec, here] at taken
  · cases taken
    exact ⟨stopped, unarmed, idle, Or.inr (Or.inl rfl)⟩
  · obtain ⟨flag, wait, ready, place⟩ := runIos_idle idle taken
    exact ⟨flag.trans stopped, wait.trans unarmed, ready.trans idle, by simp [place]⟩
  · obtain ⟨flag, library, place⟩ := join_ok taken
    refine ⟨flag.trans stopped, by rw [library, unarmed], by rw [library, idle], ?_⟩
    rcases place with there | there <;> simp [there]
  · cases taken
    exact ⟨stopped, unarmed, idle, by simp [stopped]⟩
  · rw [if_pos stopped] at taken
    cases taken
    exact ⟨stopped, unarmed, idle, by simp⟩
  · cases taken

/-- The service thread touches neither the main thread nor the signals. -/
structure KeepsMain (state next : State) : Prop where
  exec : next.exec = state.exec
  iterations : next.iterations = state.iterations
  stopped : next.stopped = state.stopped
  joined : next.joined = state.joined
  library : next.ios.stopped = state.ios.stopped
  armed : next.ios.armed = state.ios.armed
  ready : next.ios.ready = state.ios.ready

theorem runService_keeps {turn : Turn} {state next : State}
    (taken : runService turn state = .ok next) : KeepsMain state next := by
  cases place : state.service <;> simp only [runService, place] at taken <;> cases taken <;>
    exact ⟨rfl, rfl, rfl, rfl, rfl, rfl, rfl⟩

theorem throwService_keeps {state next : State} (taken : throwService state = .ok next) :
    KeepsMain state next := by
  cases place : state.service <;> simp only [throwService, place] at taken <;> cases taken <;>
    exact ⟨rfl, rfl, rfl, rfl, rfl, rfl, rfl⟩

theorem KeepsMain.steady {state next : State} (keeps : KeepsMain state next)
    (steady : Steady state) : Steady next := by
  obtain ⟨exec, iterations, stopped, joined, library, armed, ready⟩ := keeps
  rcases steady with ⟨unstopped, unjoined, first, place, signal⟩ | ⟨flag, unarmed, idle, place⟩
  · refine Or.inl ⟨library.trans unstopped, joined.trans unjoined, by rw [iterations]; exact first, ?_, ?_⟩
    · rw [exec]
      exact place
    · rw [armed, ready]
      exact signal
  · refine Or.inr ⟨stopped.trans flag, armed.trans unarmed, ready.trans idle, ?_⟩
    rw [exec]
    exact place

theorem abandon_steady {state next : State} (steady : Steady state)
    (taken : abandon state = .ok next) : Steady next := by
  unfold abandon at taken
  split at taken
  · next starting =>
      cases taken
      rcases steady with ⟨library, unjoined, first, _, signal⟩ | ⟨_, _, _, place⟩
      · exact Or.inl ⟨library, unjoined, first, by simp, signal⟩
      · rcases place with here | here | here | here | here | here <;> simp [here] at starting
  · cases taken

/-- Each guarded step of the daemon keeps it steady. -/
theorem step_steady {assertions : Bool} (state : State) (action : Action) (next : State)
    (steady : Steady state) (guard : NoHangup state action)
    (taken : step assertions state action = .ok next) : Steady next := by
  cases action with
  | arrive signal =>
      cases taken
      exact arrive_steady steady guard
  | exec =>
      rcases steady with waiting | stopping
      · exact exec_waiting waiting taken
      · exact Or.inr (exec_stopping stopping taken)
  | abandon => exact abandon_steady steady taken
  | service turn => exact (runService_keeps taken).steady steady
  | serviceThrows => exact (throwService_keeps taken).steady steady

/-- Each run without a first hangup signal stops soundly. -/
theorem run_sound (assertions : Bool) (actions : List Action) (final : State)
    (guarded : Every (step assertions) NoHangup initial actions)
    (completed : run (step assertions) initial actions = .ok final) : Sound final :=
  (run_invariant step_steady initial_steady guarded completed).sound

/-- The shortest complete life of the daemon under one signal. -/
def life (signal : Signal) : List Action :=
  [.exec, .exec, .arrive signal, .exec, .exec, .service ⟨0, 0, []⟩, .service ⟨0, 0, []⟩,
    .service ⟨0, 0, []⟩, .service ⟨0, 0, []⟩, .exec, .exec, .exec]

theorem run_sound_term : ∃ final, run (step true) initial (life .term) = .ok final ∧
    final.exec = .checking ∧ Sound final := by
  refine ⟨_, rfl, rfl, ?_⟩
  exact run_sound true (life .term) _ (by decide) rfl

/-- A first hangup signal ends the service thread and fails the assertion. -/
theorem run_unsound_hup :
    ¬ ∀ (assertions : Bool) (actions : List Action) (final : State),
      run (step assertions) initial actions = .ok final → Sound final := by
  intro sound
  have reached := (sound true (life .hup) _ rfl).joined rfl
  cases reached

end Onvifxx.Daemon
