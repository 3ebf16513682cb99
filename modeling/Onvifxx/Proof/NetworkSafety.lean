/-
This file proves that a network whose callers have headers never stops at a null pointer.
-/

import Onvifxx.Construction.Network

namespace Onvifxx.Network

open Execution RemoteDiscovery Wsdd Codec Run

/-- A proxy call is supplied when its proxy has a header already or the library allocates one. -/
def HeaderFor (process : System) (proxy : Nat) (surroundings : Proxy.Surroundings) : Prop :=
  (process.proxyState proxy).soap.header.isSome ∨ surroundings.request.allocates

/-- A supplied announcement prepares a header. -/
theorem announceHeader_supplied {surroundings : Wsa.Surroundings} {action : String} {state : Wsa.State}
    (named : action.isEmpty = false)
    (supplied : state.soap.header.isSome ∨ surroundings.allocates) :
    ∃ next, Proxy.announceHeader surroundings action state = .ok next ∧
      (Wsa.sentHeader next).isSome := by
  obtain ⟨code, requested, ends, -, -, header⟩ :=
    Wsa.request_ends surroundings Proxy.toTsUrl state named
  obtain ⟨found, present⟩ : ∃ found, requested.soap.header = some found :=
    ⟨_, header.trans (if_pos (by simpa using supplied))⟩
  refine ⟨(requested.numbered none).withHeader { found with wsdAppSequence := some .own }, ?_, ?_⟩
  · rw [Proxy.announceHeader, ends, ok_bind]
    dsimp only
    rw [Wsa.addAppSequence_eq, present]
    rfl
  · simp [Wsa.sentHeader]

/-- The three proxy calls send a header when they are supplied. -/
theorem hello_supplied {process : System} {proxy : Nat} {surroundings : Proxy.Surroundings}
    (arg : HelloT) (supplied : HeaderFor process proxy surroundings) :
    ∃ call, Proxy.hello surroundings arg (process.proxyState proxy) = .ok call ∧
      call.envelope.header.isSome := by
  obtain ⟨next, announced, header⟩ := announceHeader_supplied
    (show (soapNamespaceOfWsd ++ "/Hello").isEmpty = false by decide) supplied
  rw [Proxy.hello, announced, ok_bind, versionedRequest_eq, ok_bind]
  refine ⟨_, rfl, ?_⟩
  rw [Proxy.finish_envelope]
  exact header

theorem bye_supplied {process : System} {proxy : Nat} {surroundings : Proxy.Surroundings}
    (arg : ByeT) (supplied : HeaderFor process proxy surroundings) :
    ∃ call, Proxy.bye surroundings arg (process.proxyState proxy) = .ok call ∧
      call.envelope.header.isSome := by
  obtain ⟨next, announced, header⟩ := announceHeader_supplied
    (show (soapNamespaceOfWsd ++ "/Bye").isEmpty = false by decide) supplied
  rw [Proxy.bye, announced, ok_bind, request_eq, ok_bind]
  refine ⟨_, rfl, ?_⟩
  rw [Proxy.finish_envelope]
  exact header

theorem probe_supplied {process : System} {proxy : Nat} {surroundings : Proxy.Surroundings}
    (arg : ProbeT) (supplied : HeaderFor process proxy surroundings) :
    ∃ call, Proxy.probe surroundings arg (process.proxyState proxy) = .ok call ∧
      call.envelope.header.isSome := by
  obtain ⟨next, ends, -, -, -, header⟩ :=
    Proxy.probe_ends surroundings arg (process.proxyState proxy)
  refine ⟨_, ends, ?_⟩
  rw [Proxy.finish_envelope, Wsa.sentHeader, Option.isSome_map]
  exact header.mpr supplied

variable {Site : Type}

/-- Each proxy call of a run is supplied. -/
def Supplied (network : Network Site) : Action Site → Prop
  | .hello site proxy surroundings _ => HeaderFor (network.processes site) proxy surroundings
  | .bye site proxy surroundings _ => HeaderFor (network.processes site) proxy surroundings
  | .probe site proxy surroundings _ => HeaderFor (network.processes site) proxy surroundings
  | .bind _ _ _ _ _ => True
  | .deliver _ _ _ _ => True

/-- Every packet on the wire has a header. -/
def Headed (network : Network Site) : Prop := ∀ packet ∈ network.wire, packet.header.isSome

theorem initial_headed (instances : Site → UInt32) : Headed (initial instances) := by
  intro packet member
  cases member

variable [DecidableEq Site]

/-- A call whose header is there keeps every packet headed. -/
theorem say_headed {Body A : Type} {network : Network Site} {site : Site} {proxy : Nat}
    {spoken : HandlerCall} {message : Body → Message} {call : Proxy.Call Body A}
    (headed : Headed network) (header : call.envelope.header.isSome) :
    Headed (network.say site proxy spoken message call) := by
  intro packet member
  rcases List.mem_append.mp member with old | new
  · exact headed packet old
  · cases sent : call.sent with
    | false => simp [sent] at new
    | true =>
        simp only [sent, ↓reduceIte, List.mem_singleton] at new
        rw [new]
        exact header

/-- An outcome whose reply has a header keeps every packet headed. -/
theorem hear_headed {network : Network Site} {site : Site} {service : Nat}
    {header : Option SoapEnvHeader} {dispatched : Service.Dispatched} (headed : Headed network)
    (replied : ∀ reply, dispatched.outcome.reply = some reply → reply.header.isSome) :
    Headed (network.hear site service header dispatched) := by
  intro packet member
  rcases List.mem_append.mp member with old | new
  · exact headed packet old
  · obtain ⟨reply, sent, rfl⟩ := List.mem_map.mp new
    rw [replies] at sent
    split at sent
    · exact replied reply (by simpa using sent)
    · cases sent

/-- A message with a header is dispatched, and a reply to it has a header. -/
theorem dispatchIncoming_headed (handler : Option Handler) (surroundings : Service.Surroundings)
    (header : SoapEnvHeader) (message : Message) (state : Service.State) :
    ∃ outcome, Service.dispatchIncoming handler surroundings (some header) message.incoming state =
        .ok outcome ∧
      ∀ reply, outcome.reply = some reply → reply.header.isSome := by
  cases message with
  | hello body =>
      obtain ⟨arg, -, ends⟩ := Service.hello_eq handler body (Service.receive (some header) state)
      exact ⟨_, ends, by simp⟩
  | bye body =>
      obtain ⟨arg, -, ends⟩ := Service.bye_eq handler body (Service.receive (some header) state)
      exact ⟨_, ends, by simp⟩
  | probe body =>
      cases handler with
      | none => exact ⟨_, rfl, by simp⟩
      | some bound =>
          refine ⟨_, Service.serve_probe bound surroundings header body state, ?_⟩
          intro reply replied
          rw [← Option.some.inj replied]
          rfl
  | probeMatches found => exact ⟨_, rfl, by simp⟩

/-- A supplied step ends and keeps every packet headed. -/
theorem step_supplied (what : Soap → String) (network : Network Site) (action : Action Site)
    (headed : Headed network) (supplied : Supplied network action) :
    ∃ next, step what network action = .ok next ∧ Headed next := by
  cases action with
  | hello site proxy surroundings arg =>
      obtain ⟨call, ends, header⟩ := hello_supplied arg supplied
      exact ⟨_, by rw [step, ends, map_ok], say_headed headed header⟩
  | bye site proxy surroundings arg =>
      obtain ⟨call, ends, header⟩ := bye_supplied arg supplied
      exact ⟨_, by rw [step, ends, map_ok], say_headed headed header⟩
  | probe site proxy surroundings arg =>
      obtain ⟨call, ends, header⟩ := probe_supplied arg supplied
      exact ⟨_, by rw [step, ends, map_ok], say_headed headed header⟩
  | bind site service sockets obj port => exact ⟨_, rfl, headed⟩
  | deliver position site service surroundings =>
      cases found : network.wire[position]? with
      | none => exact ⟨network, by simp [step, found], headed⟩
      | some packet =>
          obtain ⟨header, present⟩ :=
            Option.isSome_iff_exists.mp (headed packet (List.mem_of_getElem? found))
          obtain ⟨outcome, served, replied⟩ := dispatchIncoming_headed
            (network.handlers site service) surroundings header packet.message
            ((network.processes site).serviceState service)
          refine ⟨network.hear site service packet.header (Service.settle what outcome), ?_, ?_⟩
          · simp only [step, found, Service.dispatch, present, served, map_ok]
          · apply hear_headed headed
            rw [(Service.settle_outcome what outcome).2.1]
            exact replied

/-- A run whose proxy calls are supplied completes, whatever is delivered in whatever order. -/
theorem run_supplied (instances : Site → UInt32) (what : Soap → String)
    (actions : List (Action Site))
    (supplied : Every (step what) Supplied (initial instances) actions) :
    ∃ final, run (step what) (initial instances) actions = .ok final ∧
      ∀ packet ∈ final.wire, packet.header.isSome :=
  run_completes (step_supplied what) (initial_headed instances) supplied

/-- The library allocates a header for the call of this action. -/
def allocates : Action Site → Bool
  | .hello _ _ surroundings _ => surroundings.request.allocates
  | .bye _ _ surroundings _ => surroundings.request.allocates
  | .probe _ _ surroundings _ => surroundings.request.allocates
  | .bind _ _ _ _ _ => true
  | .deliver _ _ _ _ => true

theorem every_supplied {what : Soap → String} {network : Network Site} {actions : List (Action Site)}
    (allocating : actions.all allocates = true) : Every (step what) Supplied network actions := by
  apply every_of_forall
  intro action member network
  have allocated := List.all_eq_true.mp allocating action member
  cases action with
  | hello => exact Or.inr allocated
  | bye => exact Or.inr allocated
  | probe => exact Or.inr allocated
  | bind => trivial
  | deliver => trivial

/-- One site says a `Hello` and a `Probe`, and the other one hears the `Probe` twice. -/
def sampleActions : List (Action Bool) :=
  [.bind true 0 ⟨fun _ => 3, fun _ => true⟩ (some ⟨fun _ => [⟨none, none, none, none, 1⟩]⟩) 0,
    .hello false 0 Proxy.completing ⟨none, none, none, none, 1⟩,
    .probe false 1 Proxy.completing ⟨none, none⟩,
    .deliver 1 true 0 Service.completing, .deliver 0 true 0 Service.completing,
    .deliver 1 true 0 Service.completing, .deliver 2 false 0 Service.completing]

def sampleInstances (site : Bool) : UInt32 := if site then 9 else 7

theorem run_supplied_sample :
    ∃ final, run (step fun _ => "") (initial sampleInstances) sampleActions = .ok final ∧
      ∀ packet ∈ final.wire, packet.header.isSome :=
  run_supplied sampleInstances (fun _ => "") sampleActions (every_supplied rfl)

end Onvifxx.Network
