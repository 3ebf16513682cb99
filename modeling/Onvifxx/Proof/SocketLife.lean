/-
This file proves what the sockets of a process leave on its contexts and in its memory.
-/

import Onvifxx.Construction.Socket
import Onvifxx.Proof.TransportState

namespace Onvifxx.Sock

open Run

/-- A routine stops at an address that the splitter refuses, at a null transport or in the resolver. -/
def Request.Stops (transport : Context) (stop : Stop) : Request → Prop
  | .openSocket url _ | .connect url _ => Refused url stop
  | .send _ _ | .recv _ _ _ | .close _ => transport.ip = none ∧ stop = .null
  | .resolve resolver addr => Refused addr stop ∨ ∃ endpoint, Endpoint.fromUrl addr = .ok endpoint ∧
      resolver endpoint.host endpoint.service = none ∧ stop = .resolver
  | .ignore | .accept | .poll | .serveloop => False

/-- The first check that a context does not pass. -/
def violated (callbacks : Callback → Option Routine) : Option Check :=
  checks.find? fun check => (callbacks check.callback).isSome != check.provided

theorem hook?_callback (hook : Hook) : hook.callback.hook? = some hook := by
  cases hook <;> rfl

/-- A callback is the one of its hook. -/
theorem callback_of_hook? {callback : Callback} {hook : Hook} (found : callback.hook? = some hook) :
    hook.callback = callback := by
  cases callback <;> cases found <;> rfl

theorem assignHooks_callback (values : Hook → Option Routine) (callbacks : Callback → Option Routine)
    (hook : Hook) : assignHooks values callbacks hook.callback = values hook := by
  rw [assignHooks, hook?_callback]

/-- Values that come from the callbacks themselves put back what was there. -/
theorem assignHooks_restore (values : Hook → Option Routine) (callbacks : Callback → Option Routine) :
    assignHooks (fun hook => callbacks hook.callback) (assignHooks values callbacks) = callbacks := by
  funext callback
  cases found : callback.hook? with
  | some hook => simp [assignHooks, found, callback_of_hook? found]
  | none => simp [assignHooks, found]

/-- The first check that fails stops the constructor. -/
theorem assertAll_eq (callbacks : Callback → Option Routine) (list : List Check) :
    assertAll callbacks list =
      match list.find? fun check => (callbacks check.callback).isSome != check.provided with
      | none => .ok ()
      | some check => .error (.stop (.assertion check.text)) := by
  induction list with
  | nil => rfl
  | cons check rest ih =>
      rw [assertAll, ih, List.find?_cons]
      cases same : (callbacks check.callback).isSome == check.provided <;>
        simp [Endpoint.assert, stops, bne, same] <;> rfl

/-- A connect stops only at an address that the splitter refuses. -/
theorem connect_error_iff (url : List Char) (result : Result) (context : Context) (stop : Stop) :
    context.connect url result = .error stop ↔ Refused url stop := by
  rw [← fromUrl_error_iff, Context.connect]
  cases Endpoint.fromUrl url with
  | error other => simp [bind, Except.bind]
  | ok endpoint => cases result <;> simp [bind, Except.bind, pure, Except.pure]

theorem resolve_error_iff (resolver : List Char → List Char → Option ByteOrder.AddressV4)
    (addr : List Char) (stop : Stop) :
    resolve resolver addr = .error stop ↔
      Refused addr stop ∨ ∃ endpoint, Endpoint.fromUrl addr = .ok endpoint ∧
        resolver endpoint.host endpoint.service = none ∧ stop = .resolver := by
  rw [← fromUrl_error_iff, resolve]
  cases Endpoint.fromUrl addr with
  | error other => simp [bind, Except.bind]
  | ok endpoint =>
      cases found : resolver endpoint.host endpoint.service <;>
        simp [Endpoint.inAddr, found, bind, Except.bind, pure, Except.pure, eq_comm]

/-- A call that needs a transport stops only at a null one. -/
theorem hookStep_error_iff (call : HookCall) (uses : call.uses = true) (context : Context)
    (stop : Stop) : hookStep context call = .error stop ↔ context.ip = none ∧ stop = .null := by
  by_cases absent : context.ip = none
  · simp [hookStep_null absent uses, absent, eq_comm]
  · obtain ⟨next, taken, _⟩ := hookStep_connected absent uses
    simp [taken, absent]

/-- A result that is only projected keeps its failures. -/
theorem map_error_iff {A B : Type} (project : A → B) (result : Except Stop A) (stop : Stop) :
    project <$> result = .error stop ↔ result = .error stop := by
  cases result <;> simp [Functor.map, Except.map]

namespace Process

theorem body_error_iff (request : Request) (transport : Context) (stop : Stop) :
    body request transport = .error stop ↔ request.Stops transport stop := by
  cases request with
  | openSocket url result =>
      exact (map_error_iff _ _ _).trans (connect_error_iff url result transport stop)
  | connect url result =>
      exact (map_error_iff _ _ _).trans (connect_error_iff url result transport stop)
  | send data transfer => exact hookStep_error_iff (.send data transfer) rfl transport stop
  | recv incoming buffer transfer =>
      exact hookStep_error_iff (.recv incoming buffer transfer) rfl transport stop
  | close result => exact hookStep_error_iff (.close result) rfl transport stop
  | resolve resolver addr =>
      exact (map_error_iff _ _ _).trans (resolve_error_iff resolver addr stop)
  | ignore | accept | poll | serveloop => simp [body, Request.Stops]

/-- Some socket that is alive belongs to the context. -/
def Busy (process : Process) (s : Nat) : Prop :=
  ∃ address impl, process.impls address = some impl ∧ impl.s = s

/-- The callbacks of a context as the library sets them up. -/
def original (table : Callback → Option Nat) : Callback → Option Routine :=
  fun callback => (table callback).map .library

/-- A context without a socket is as the library leaves it. -/
def freeSoap (table : Callback → Option Nat) : Soap := ⟨none, original table⟩

/-- A context with a socket points to it and to its ten routines. -/
def busySoap (table : Callback → Option Nat) (address : Nat) : Soap :=
  ⟨some address, assignHooks (fun hook => some (.impl hook)) (original table)⟩

/-- Each socket has its context to itself and keeps what it has replaced there. -/
structure Sound (tables : Nat → Callback → Option Nat) (process : Process) : Prop where
  busy : ∀ address impl, process.impls address = some impl →
    process.soaps impl.s = busySoap (tables impl.s) address ∧
      impl.context = fun hook => original (tables impl.s) hook.callback
  free : ∀ s, ¬ process.Busy s → process.soaps s = freeSoap (tables s)
  fresh : ∀ address, process.made ≤ address → process.impls address = none

variable {tables : Nat → Callback → Option Nat} {process next : Process}

theorem initial_sound (tables : Nat → Callback → Option Nat) : Sound tables (initial tables) where
  busy := by
    intro address impl present
    cases present
  free := fun _ _ => rfl
  fresh := fun _ _ => rfl

/-- The user pointer of a context designates its socket. -/
theorem Sound.user (sound : Sound tables process) {address : Nat} {impl : Socket}
    (present : process.impls address = some impl) :
    (process.soaps impl.s).user = some address := by
  rw [(sound.busy address impl present).1]
  rfl

theorem Sound.user_eq_none (sound : Sound tables process) (s : Nat) :
    (process.soaps s).user = none ↔ ¬ process.Busy s := by
  constructor
  · rintro null ⟨address, impl, present, rfl⟩
    rw [sound.user present] at null
    cases null
  · intro idle
    rw [sound.free s idle]
    rfl

/-- A socket and its address belong to one context only. -/
theorem Sound.same (sound : Sound tables process) {first second : Nat} {impl other : Socket}
    (present : process.impls first = some impl) (found : process.impls second = some other)
    (context : impl.s = other.s) : first = second := by
  have pointer := sound.user present
  rw [context, sound.user found] at pointer
  exact (Option.some.inj pointer).symm

/-- A free context that passes its checks gets a socket. -/
theorem construct_eq (sound : Sound tables process) {s : Nat} (idle : ¬ process.Busy s) :
    construct s process =
      match violated (original (tables s)) with
      | none => .ok (install s process)
      | some check => .error (.stop (.assertion check.text)) := by
  rw [construct, (sound.user_eq_none s).mpr idle, sound.free s idle, freeSoap, assertAll_eq, violated]
  cases checks.find? fun check => (original (tables s) check.callback).isSome != check.provided <;> rfl

/-- A context with a socket takes no other one. -/
theorem construct_busy (sound : Sound tables process) {s : Nat} (busy : process.Busy s) :
    construct s process = .error (.stop (.assertion "s->user == nullptr")) := by
  obtain ⟨address, impl, present, rfl⟩ := busy
  rw [construct, sound.user present]
  rfl

theorem install_sound (sound : Sound tables process) {s : Nat} (idle : ¬ process.Busy s) :
    Sound tables (install s process) where
  busy := by
    intro address impl present
    by_cases new : address = process.made
    · subst new
      simp only [install, Function.update_self, Option.some.injEq] at present
      subst present
      simp [install, busySoap, sound.free s idle, freeSoap]
    · simp only [install, Function.update_of_ne new] at present
      have other : impl.s ≠ s := fun same => idle ⟨address, impl, present, same⟩
      simpa [install, Function.update_of_ne other] using sound.busy address impl present
  free := by
    intro context alone
    have other : context ≠ s := by
      rintro rfl
      exact alone ⟨process.made, _, Function.update_self _ _ _, rfl⟩
    have before : ¬ process.Busy context := by
      rintro ⟨address, impl, present, same⟩
      have earlier : address ≠ process.made := by
        rintro rfl
        rw [sound.fresh process.made le_rfl] at present
        cases present
      exact alone ⟨address, impl, by simpa [install, Function.update_of_ne earlier], same⟩
    simpa [install, Function.update_of_ne other] using sound.free context before
  fresh := by
    intro address later
    simp only [install] at later ⊢
    rw [Function.update_of_ne (by omega)]
    exact sound.fresh address (by omega)

/-- The destructor leaves its context as the library has set it up. -/
theorem release_soap (sound : Sound tables process) {address : Nat} {impl : Socket}
    (present : process.impls address = some impl) :
    (release address impl process).soaps impl.s = freeSoap (tables impl.s) := by
  obtain ⟨soap, kept⟩ := sound.busy address impl present
  simp only [release, Function.update_self, soap, kept, busySoap, freeSoap]
  rw [assignHooks_restore]

theorem release_sound (sound : Sound tables process) {address : Nat} {impl : Socket}
    (present : process.impls address = some impl) : Sound tables (release address impl process) where
  busy := by
    intro later other found
    have distinct : later ≠ address := by
      rintro rfl
      simp [release] at found
    have before : process.impls later = some other := by
      simpa [release, Function.update_of_ne distinct] using found
    have apart : other.s ≠ impl.s := fun same => distinct (sound.same before present same)
    simpa [release, Function.update_of_ne apart] using sound.busy later other before
  free := by
    intro s alone
    by_cases same : s = impl.s
    · subst same
      exact release_soap sound present
    · have before : ¬ process.Busy s := by
        rintro ⟨later, other, found, rfl⟩
        have distinct : later ≠ address := by
          rintro rfl
          rw [present, Option.some.injEq] at found
          exact same (by rw [found])
        exact alone ⟨later, other, by simpa [release, Function.update_of_ne distinct], rfl⟩
      simpa [release, Function.update_of_ne same] using sound.free s before
  fresh := by
    intro later outside
    by_cases same : later = address
    · simp [release, same]
    · simpa [release, Function.update_of_ne same] using sound.fresh later outside

/-- A change of a transport moves no socket. -/
theorem setTransport_impls (process : Process) (address : Nat) (impl : Socket) (transport : Context)
    (later : Nat) : (setTransport address impl transport process).impls later =
      if later = address then some { impl with transport } else process.impls later := by
  by_cases same : later = address
  · simp [setTransport, same]
  · simp [setTransport, same]

theorem setTransport_sound (sound : Sound tables process) {address : Nat} {impl : Socket}
    (present : process.impls address = some impl) (transport : Context) :
    Sound tables (setTransport address impl transport process) where
  busy := by
    intro later other found
    rw [setTransport_impls] at found
    split at found
    · rename_i same
      cases found
      exact same ▸ sound.busy address impl present
    · exact sound.busy later other found
  free := by
    intro s alone
    refine sound.free s ?_
    rintro ⟨later, other, found, rfl⟩
    by_cases same : later = address
    · subst same
      rw [present, Option.some.injEq] at found
      exact alone ⟨later, { impl with transport }, by simp [setTransport], by rw [found]⟩
    · exact alone ⟨later, other, by simpa [setTransport, same] using found, rfl⟩
  fresh := by
    intro later outside
    have absent := sound.fresh later outside
    have distinct : later ≠ address := by
      rintro rfl
      rw [present] at absent
      cases absent
    simpa [setTransport, distinct] using absent

/-- A call on a free context stays in the library. -/
theorem call_free (sound : Sound tables process) {s : Nat} (idle : ¬ process.Busy s)
    (request : Request) : call s request process = .ok process := by
  rw [call, sound.free s idle, freeSoap]
  simp only [original]
  cases tables s request.hook.callback <;> rfl

theorem setTransport_same (process : Process) {address : Nat} {impl : Socket}
    (present : process.impls address = some impl) :
    setTransport address impl impl.transport process = process := by
  have kept : Function.update process.impls address (some impl) = process.impls := by
    rw [← present, Function.update_eq_self]
  change { process with impls := Function.update process.impls address (some impl) } = process
  rw [kept]

/-- A call on a context with a socket runs the routine of that socket. -/
theorem call_busy (sound : Sound tables process) {address : Nat} {impl : Socket}
    (present : process.impls address = some impl) (request : Request) :
    call impl.s request process =
      match body request impl.transport with
      | .ok transport => .ok (setTransport address impl transport process)
      | .error stop => .error (.stop stop) := by
  have pointer := sound.user present
  rw [call, (sound.busy address impl present).1, busySoap]
  simp only [assignHooks_callback, ↓reduceIte]
  -- The routine of the last hook never looks at its socket.
  by_cases loop : request = .serveloop
  · subst loop
    simp only [enter, body, setTransport_same process present]
  · have entered : enter impl.s request process = (do
        stops (Endpoint.assert (impl.s == impl.s) "impl->s == s")
        let transport ← stops (body request impl.transport)
        return setTransport address impl transport process) := by
      cases request <;> simp_all [enter]
    rw [entered]
    simp only [Endpoint.assert, beq_self_eq_true, ↓reduceIte]
    cases body request impl.transport <;> rfl

/-- What a step does that the process takes. -/
inductive Effect (process : Process) : Action → Process → Prop where
  | construct {s : Nat} (idle : ¬ process.Busy s) :
      Effect process (.construct s) (install s process)
  | destroy {address : Nat} {impl : Socket} (present : process.impls address = some impl) :
      Effect process (.destroy address) (release address impl process)
  | silent {s : Nat} (idle : ¬ process.Busy s) (request : Request) :
      Effect process (.call s request) process
  | call {address : Nat} {impl : Socket} {request : Request} {transport : Context}
      (present : process.impls address = some impl)
      (ended : body request impl.transport = .ok transport) :
      Effect process (.call impl.s request) (setTransport address impl transport process)

theorem step_effect {action : Action} (sound : Sound tables process)
    (taken : step process action = .ok next) : Effect process action next := by
  cases action with
  | construct s =>
      by_cases busy : process.Busy s
      · rw [step, construct_busy sound busy] at taken
        cases taken
      · rw [step, construct_eq sound busy] at taken
        split at taken <;> cases taken
        exact .construct busy
  | destroy address =>
      rw [step, destroy] at taken
      split at taken <;> cases taken
      rename_i impl present
      exact .destroy present
  | call s request =>
      by_cases busy : process.Busy s
      · obtain ⟨address, impl, present, rfl⟩ := busy
        rw [step, call_busy sound present] at taken
        split at taken <;> cases taken
        rename_i transport ended
        exact .call present ended
      · rw [step, call_free sound busy] at taken
        cases taken
        exact .silent busy request

/-- Each step that the process takes keeps its sockets sound. -/
theorem step_sound {action : Action} (sound : Sound tables process)
    (taken : step process action = .ok next) : Sound tables next := by
  cases step_effect sound taken with
  | construct idle => exact install_sound sound idle
  | destroy present => exact release_sound sound present
  | silent idle request => exact sound
  | call present ended => exact setTransport_sound sound present _

theorem reachable_sound {actions : List Action} (completed : run step (initial tables) actions = .ok process) :
    Sound tables process :=
  run_preserves (fun _ _ _ sound taken => step_sound sound taken) (initial_sound tables) completed

/-- Each context without a socket is as the library has set it up, and each other one serves one socket. -/
theorem run_restores {actions : List Action}
    (completed : run step (initial tables) actions = .ok process) (s : Nat) :
    (¬ process.Busy s → process.soaps s = freeSoap (tables s)) ∧
      ∀ address impl, process.impls address = some impl → impl.s = s →
        process.soaps s = busySoap (tables s) address := by
  have sound := reachable_sound completed
  refine ⟨sound.free s, ?_⟩
  rintro address impl present rfl
  exact (sound.busy address impl present).1

/-- The library sets up the callbacks that a constructor expects, and each is its first routine. -/
def sampleTable : Callback → Option Nat := fun callback =>
  if checks.any fun check => check.callback = callback && check.provided then some 0 else none

/-- Two sockets live at once, and one of them connects before it ends. -/
def sampleActions : List Action :=
  [.construct 0, .construct 1, .call 0 (.connect sampleTarget.url none), .call 1 .poll,
    .destroy 0, .call 0 .accept]

theorem sample_completes : ∃ process,
    run step (initial fun _ => sampleTable) sampleActions = .ok process := ⟨_, rfl⟩

theorem run_restores_two : ∃ process, run step (initial fun _ => sampleTable) sampleActions = .ok process ∧
    (¬ process.Busy 0 → process.soaps 0 = freeSoap sampleTable) ∧
      ∀ address impl, process.impls address = some impl → impl.s = 0 →
        process.soaps 0 = busySoap sampleTable address := by
  obtain ⟨process, completed⟩ := sample_completes
  exact ⟨process, completed, run_restores completed 0⟩

/-- What stops a step of the process. -/
def Fails (tables : Nat → Callback → Option Nat) (process : Process) (failure : Failure) :
    Action → Prop
  | .construct s =>
      process.Busy s ∧ failure = .stop (.assertion "s->user == nullptr") ∨
        ¬ process.Busy s ∧ ∃ check, violated (original (tables s)) = some check ∧
          failure = .stop (.assertion check.text)
  | .destroy address => process.impls address = none ∧ failure = .deleted
  | .call s request => ∃ address impl stop, process.impls address = some impl ∧ impl.s = s ∧
      request.Stops impl.transport stop ∧ failure = .stop stop

/-- A call on a context with a socket fails exactly as the routine of its own socket does. -/
theorem call_error_iff (sound : Sound tables process) (s : Nat) (request : Request)
    (failure : Failure) :
    call s request process = .error failure ↔ Fails tables process failure (.call s request) := by
  by_cases busy : process.Busy s
  · obtain ⟨address, impl, present, rfl⟩ := busy
    rw [call_busy sound present]
    constructor
    · intro failed
      split at failed <;> cases failed
      rename_i stop ended
      exact ⟨address, impl, stop, present, rfl, (body_error_iff _ _ _).mp ended, rfl⟩
    · rintro ⟨later, other, stop, found, same, stopped, rfl⟩
      obtain rfl := sound.same found present same
      rw [present, Option.some.injEq] at found
      subst found
      rw [(body_error_iff _ _ _).mpr stopped]
  · rw [call_free sound busy]
    constructor
    · intro failed
      cases failed
    · rintro ⟨address, impl, stop, present, same, _⟩
      exact absurd ⟨address, impl, present, same⟩ busy

/-- In each reachable state a step fails for these reasons only. -/
theorem run_fails_iff {actions : List Action}
    (completed : run step (initial tables) actions = .ok process) (action : Action)
    (failure : Failure) :
    step process action = .error failure ↔ Fails tables process failure action := by
  have sound := reachable_sound completed
  cases action with
  | construct s =>
      rw [step, Fails]
      by_cases busy : process.Busy s
      · rw [construct_busy sound busy]
        simp [busy, eq_comm]
      · rw [construct_eq sound busy]
        cases violated (original (tables s)) with
        | none => simp [busy]
        | some check => simp [busy, eq_comm]
  | destroy address =>
      rw [step, Fails, destroy]
      cases process.impls address with
      | none => simp [eq_comm]
      | some impl => simp
  | call s request => exact call_error_iff sound s request failure

theorem run_fails_iff_busy : ∃ process,
    run step (initial fun _ => sampleTable) sampleActions = .ok process ∧ ∀ failure,
      step process (.construct 1) = .error failure ↔
        Fails (fun _ => sampleTable) process failure (.construct 1) := by
  obtain ⟨process, completed⟩ := sample_completes
  exact ⟨process, completed, run_fails_iff completed (.construct 1)⟩

end Process
end Onvifxx.Sock
