/-
This file proves which transports the sockets of a process leave in its memory.
-/

import Onvifxx.Proof.SocketLife

namespace Onvifxx.Sock

open Run

/-- A request that moves data or connections is a hook call, at an address that the splitter accepts. -/
def Request.hookCall? : Request → Option HookCall
  | .openSocket url result =>
      if accepted : Accepted url then some (.openSocket ⟨url, accepted⟩ result) else none
  | .connect url result =>
      if accepted : Accepted url then some (.connect ⟨url, accepted⟩ result) else none
  | .send data transfer => some (.send data transfer)
  | .recv incoming buffer transfer => some (.recv incoming buffer transfer)
  | .close result => some (.close result)
  | _ => none

namespace Process

variable {tables : Nat → Callback → Option Nat} {process next : Process}

def callOn (s : Nat) : Action → Option HookCall
  | .call context request => if context = s then request.hookCall? else none
  | _ => none

def callsOn (s : Nat) (actions : List Action) : List HookCall := actions.filterMap (callOn s)

def isConstruct : Action → Bool
  | .construct _ => true
  | _ => false

theorem callsOn_concat (s : Nat) (actions : List Action) (action : Action) :
    callsOn s (actions ++ [action]) = callsOn s actions ++ (callOn s action).toList := by
  rw [callsOn, List.filterMap_append, callsOn]
  cases called : callOn s action <;> simp [called]

theorem body_hookCall {request : Request} {call : HookCall} (made : request.hookCall? = some call)
    (transport : Context) : body request transport = hookStep transport call := by
  cases request with
  | openSocket url result | connect url result =>
      simp only [Request.hookCall?] at made
      split at made <;> cases made
      rfl
  | send data transfer | recv incoming buffer transfer | close result =>
      cases made
      rfl
  | resolve resolver addr | ignore | accept | poll | serveloop => cases made

/-- The other requests leave the transport alone. -/
theorem body_silent {request : Request} {transport later : Context}
    (silent : request.hookCall? = none) (ended : body request transport = .ok later) :
    later = transport := by
  cases request with
  | openSocket url result | connect url result =>
      rcases accepted_or_refused url with accepted | ⟨stop, refused⟩
      · simp [Request.hookCall?, accepted] at silent
      · change Prod.snd <$> transport.connect url result = .ok later at ended
        rw [(connect_error_iff url result transport stop).mpr refused] at ended
        cases ended
  | send data transfer | recv incoming buffer transfer | close result => cases silent
  | resolve resolver addr =>
      rw [body] at ended
      cases resolved : Sock.resolve resolver addr <;> rw [resolved] at ended <;> cases ended
      rfl
  | ignore | accept | poll | serveloop =>
      cases ended
      rfl

/-- A routine that ends keeps its transport on track. -/
theorem body_tracks {calls : List HookCall} {request : Request} {transport later : Context}
    (tracks : Tracks calls transport) (s : Nat) (ended : body request transport = .ok later) :
    Tracks (calls ++ (callOn s (.call s request)).toList) later := by
  rw [callOn, if_pos rfl]
  cases made : request.hookCall? with
  | none =>
      rw [body_silent made ended]
      simpa using tracks
  | some call =>
      rw [body_hookCall made] at ended
      have connected : call.uses = true → Connected calls := by
        intro uses
        rw [← latest_ne_none, ← tracks.ip]
        intro absent
        rw [hookStep_null absent uses] at ended
        cases ended
      obtain ⟨next, taken, tracked⟩ := hookStep_tracks tracks connected
      rw [taken] at ended
      cases ended
      exact tracked

/-- A socket lives until its own destructor, and the calls of its context keep its transport on track. -/
theorem step_socket {action : Action} {address : Nat} {impl : Socket} (sound : Sound tables process)
    (present : process.impls address = some impl) (kept : action ≠ .destroy address)
    (taken : step process action = .ok next) :
    ∃ transport, next.impls address = some { impl with transport } ∧ ∀ calls,
      Tracks calls impl.transport → Tracks (calls ++ (callOn impl.s action).toList) transport := by
  have unchanged : next.impls address = some impl → callOn impl.s action = none →
      ∃ transport, next.impls address = some { impl with transport } ∧ ∀ calls,
        Tracks calls impl.transport →
          Tracks (calls ++ (callOn impl.s action).toList) transport := by
    intro same silent
    exact ⟨impl.transport, same, fun calls tracks => by simpa [silent] using tracks⟩
  cases step_effect sound taken with
  | construct idle =>
      apply unchanged _ rfl
      have earlier : address ≠ process.made := by
        rintro rfl
        rw [sound.fresh process.made le_rfl] at present
        cases present
      simpa [install, Function.update_of_ne earlier] using present
  | @destroy other _ found =>
      apply unchanged _ rfl
      have distinct : address ≠ other := fun same => kept (by rw [same])
      simpa [release, Function.update_of_ne distinct] using present
  | silent idle request =>
      have apart : _ ≠ impl.s := fun same => idle ⟨address, impl, present, same.symm⟩
      apply unchanged present
      simp [callOn, apart]
  | @call owner other request transport found ended =>
      by_cases own : address = owner
      · subst own
        rw [present, Option.some.injEq] at found
        subst found
        exact ⟨transport, by simp [setTransport], fun calls tracks => body_tracks tracks impl.s ended⟩
      · have apart : other.s ≠ impl.s := fun same => own (sound.same found present same).symm
        apply unchanged
        · simpa [setTransport, own] using present
        · simp [callOn, apart]

/-- A socket that is alive after a step was made by it or alive before it. -/
theorem step_origin {action : Action} {address : Nat} {impl : Socket} (sound : Sound tables process)
    (taken : step process action = .ok next) (present : next.impls address = some impl) :
    (address = process.made ∧ action = .construct impl.s ∧ impl.transport = Context.initial) ∨
      action ≠ .destroy address ∧ ∃ earlier, process.impls address = some earlier := by
  cases step_effect sound taken with
  | construct idle =>
      by_cases new : address = process.made
      · subst new
        simp only [install, Function.update_self, Option.some.injEq] at present
        subst present
        exact Or.inl ⟨rfl, rfl, rfl⟩
      · simp only [install, Function.update_of_ne new] at present
        exact Or.inr ⟨by simp, impl, present⟩
  | @destroy other _ found =>
      have distinct : address ≠ other := by
        rintro rfl
        simp [release] at present
      simp only [release, Function.update_of_ne distinct] at present
      exact Or.inr ⟨fun same => distinct (by cases same; rfl), impl, present⟩
  | silent idle request => exact Or.inr ⟨by simp, impl, present⟩
  | @call owner other request transport found ended =>
      by_cases own : address = owner
      · exact Or.inr ⟨by simp, other, own ▸ found⟩
      · exact Or.inr ⟨by simp, impl, by simpa [setTransport, own] using present⟩

/-- The process numbers its sockets, and only a destructor leaves a transport behind. -/
theorem step_account {action : Action} (sound : Sound tables process)
    (taken : step process action = .ok next) :
    next.made = process.made + (isConstruct action).toNat ∧
      ∀ address transport, (address, transport) ∈ next.leaked ↔
        (address, transport) ∈ process.leaked ∨ action = .destroy address ∧
          ∃ impl, process.impls address = some impl ∧ transport ∈ impl.transport.alive := by
  cases step_effect sound taken with
  | construct idle => exact ⟨rfl, by simp [install]⟩
  | @destroy other impl present =>
      refine ⟨rfl, fun address transport => ?_⟩
      simp only [release, List.mem_append, List.mem_map, Prod.mk.injEq]
      apply or_congr_right
      constructor
      · rintro ⟨inside, member, rfl, rfl⟩
        exact ⟨rfl, impl, present, member⟩
      · rintro ⟨same, found, there, member⟩
        cases same
        rw [present, Option.some.injEq] at there
        exact ⟨transport, there ▸ member, rfl, rfl⟩
  | silent idle request => exact ⟨rfl, by simp⟩
  | call present ended => exact ⟨rfl, by simp [setTransport]⟩

/-- The constructors of a run count its sockets. -/
theorem run_made {actions : List Action}
    (completed : run step (initial tables) actions = .ok process) :
    process.made = actions.countP isConstruct := by
  induction actions using List.reverseRecOn generalizing process with
  | nil =>
      cases completed
      rfl
  | append_singleton actions action ih =>
      obtain ⟨state, before, taken⟩ := run_unconcat completed
      rw [(step_account (reachable_sound before) taken).1, ih before, List.countP_append,
        List.countP_singleton]
      cases isConstruct action <;> rfl

/-- A socket at an address was made by that many constructors, and nothing has destroyed it since. -/
structure Lived (actions : List Action) (address s : Nat) (middle : List Action) : Prop where
  made : ∃ before, actions = before ++ .construct s :: middle ∧ before.countP isConstruct = address
  kept : ∀ action ∈ middle, action ≠ .destroy address

theorem Lived.concat {actions middle : List Action} {address s : Nat} {action : Action}
    (lived : Lived actions address s middle) (kept : action ≠ .destroy address) :
    Lived (actions ++ [action]) address s (middle ++ [action]) := by
  obtain ⟨⟨before, split, counted⟩, clear⟩ := lived
  refine ⟨⟨before, by simp [split], counted⟩, ?_⟩
  intro later member
  rcases List.mem_append.mp member with earlier | last
  · exact clear later earlier
  · rw [List.mem_singleton.mp last]
    exact kept

/-- Each socket that is alive has a history, and its transport is on the track of that history. -/
def Histories (actions : List Action) (process : Process) : Prop :=
  ∀ address impl, process.impls address = some impl →
    ∃ middle, Lived actions address impl.s middle ∧ Tracks (callsOn impl.s middle) impl.transport

theorem step_histories (actions : List Action) (state : Process) (action : Action) (next : Process)
    (before : run step (initial tables) actions = .ok state) (histories : Histories actions state)
    (taken : step state action = .ok next) : Histories (actions ++ [action]) next := by
  intro address impl present
  have sound := reachable_sound before
  rcases step_origin sound taken present with ⟨new, constructed, blank⟩ | ⟨kept, earlier, there⟩
  · refine ⟨[], ⟨⟨actions, by rw [constructed], by rw [new, run_made before]⟩, by simp⟩, ?_⟩
    rw [blank]
    exact initial_tracks
  · obtain ⟨middle, lived, tracks⟩ := histories address earlier there
    obtain ⟨transport, after, tracked⟩ := step_socket sound there kept taken
    rw [present, Option.some.injEq] at after
    subst after
    refine ⟨middle ++ [action], lived.concat kept, ?_⟩
    rw [callsOn_concat]
    exact tracked _ tracks

theorem run_histories {actions : List Action}
    (completed : run step (initial tables) actions = .ok process) : Histories actions process := by
  refine run_history ?_ step_histories completed
  intro address impl present
  cases present

/-- A constructor followed by no destructor of its socket leaves that socket on its track. -/
theorem run_serves {start process : Process} {s : Nat} {middle : List Action}
    (sound : Sound tables start) (kept : ∀ action ∈ middle, action ≠ .destroy start.made)
    (completed : run step start (.construct s :: middle) = .ok process) :
    ∃ impl, process.impls start.made = some impl ∧ impl.s = s ∧
      Tracks (callsOn s middle) impl.transport := by
  obtain ⟨first, constructed, rest⟩ := run_cons completed
  have blank : first = install s start := by
    cases step_effect sound constructed
    rfl
  induction middle using List.reverseRecOn generalizing process with
  | nil =>
      cases rest
      exact ⟨⟨s, _, Context.initial⟩, by rw [blank]; exact Function.update_self _ _ _, rfl,
        initial_tracks⟩
  | append_singleton middle action ih =>
      obtain ⟨state, before, taken⟩ := run_unconcat rest
      obtain ⟨impl, present, same, tracks⟩ := ih
        (fun earlier member => kept earlier (List.mem_append_left _ member))
        ((run_cons_ok middle constructed).trans before) before
      have reached : Sound tables state :=
        run_preserves (fun _ _ _ sound taken => step_sound sound taken) (step_sound sound constructed)
          before
      obtain ⟨transport, after, tracked⟩ := step_socket reached present
        (kept action (List.mem_append_right _ (List.mem_singleton_self _))) taken
      subst same
      refine ⟨_, after, rfl, ?_⟩
      rw [callsOn_concat]
      exact tracked _ tracks

/-- A sound process has leaked this transport. -/
structure Leaked (tables : Nat → Callback → Option Nat) (leak : Nat × Transport) (state : Process) :
    Prop where
  sound : Sound tables state
  member : leak ∈ state.leaked

theorem step_leaked {leak : Nat × Transport} (state : Process) (action : Action) (later : Process)
    (leaked : Leaked tables leak state) (taken : step state action = .ok later) :
    Leaked tables leak later where
  sound := step_sound leaked.sound taken
  member := ((step_account leaked.sound taken).2 _ _).mpr (Or.inl leaked.member)

/-- Nothing deletes a transport that a process has leaked. -/
theorem run_keeps {actions : List Action} {leak : Nat × Transport} (sound : Sound tables process)
    (leaked : leak ∈ process.leaked) (completed : run step process actions = .ok next) :
    leak ∈ next.leaked :=
  (run_preserves step_leaked ⟨sound, leaked⟩ completed).member

/-- A process leaks exactly the latest transport of each socket that it destroys. -/
theorem run_leaks_iff {actions : List Action}
    (completed : run step (initial tables) actions = .ok process) (address : Nat)
    (transport : Transport) :
    (address, transport) ∈ process.leaked ↔
      ∃ before s middle after, actions = before ++ .construct s :: middle ++ .destroy address :: after ∧
        before.countP isConstruct = address ∧ (∀ action ∈ middle, action ≠ .destroy address) ∧
        latest (callsOn s middle) = some transport := by
  constructor
  · intro leaked
    induction actions using List.reverseRecOn generalizing process with
    | nil =>
        cases completed
        simp [initial] at leaked
    | append_singleton actions action ih =>
        obtain ⟨state, before, taken⟩ := run_unconcat completed
        rcases ((step_account (reachable_sound before) taken).2 address transport).mp leaked with
          earlier | ⟨rfl, impl, present, alive⟩
        · obtain ⟨first, s, middle, after, rfl, rest⟩ := ih before earlier
          exact ⟨first, s, middle, after ++ [action], by simp, rest⟩
        · obtain ⟨middle, ⟨⟨first, split, counted⟩, kept⟩, tracks⟩ :=
            run_histories before address impl present
          refine ⟨first, impl.s, middle, [], by rw [split], counted, kept, ?_⟩
          rw [tracks.alive, tracks.ip, Option.mem_toList] at alive
          exact alive
  · rintro ⟨before, s, middle, after, rfl, counted, kept, found⟩
    obtain ⟨last, upto, remaining⟩ := run_unappend completed
    obtain ⟨start, began, served⟩ := run_unappend upto
    obtain ⟨next, destroyed, rest⟩ := run_cons remaining
    have sound := reachable_sound began
    have made : start.made = address := (run_made began).trans counted
    subst made
    obtain ⟨impl, present, _, tracks⟩ := run_serves sound kept served
    have left : (start.made, transport) ∈ next.leaked := by
      refine ((step_account (reachable_sound upto) destroyed).2 _ _).mpr (Or.inr ⟨rfl, impl, present, ?_⟩)
      rw [tracks.alive, tracks.ip, found]
      exact List.mem_singleton_self _
    exact run_keeps (step_sound (reachable_sound upto) destroyed) left rest

theorem run_leaks_iff_connected : ∃ process,
    run step (initial fun _ => sampleTable) sampleActions = .ok process ∧
      ((0, ⟨0, .tcp⟩) ∈ process.leaked ↔ ∃ before s middle after,
        sampleActions = before ++ .construct s :: middle ++ .destroy 0 :: after ∧
          before.countP isConstruct = 0 ∧ (∀ action ∈ middle, action ≠ .destroy 0) ∧
          latest (callsOn s middle) = some ⟨0, .tcp⟩) := by
  obtain ⟨process, completed⟩ := sample_completes
  exact ⟨process, completed, run_leaks_iff completed 0 ⟨0, .tcp⟩⟩

end Process
end Onvifxx.Sock
