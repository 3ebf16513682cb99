/-
This file lets the processes of several sites exchange their messages.
-/

import Onvifxx.Construction.Dispatch
import Onvifxx.Construction.System

namespace Onvifxx

open Execution RemoteDiscovery Wsdd

/-- A reply carries what a serialiser reads at each of its pointers. -/
def Service.Reply.messages (reply : Service.Reply) : List (Option WsdProbeMatchType) :=
  reply.probeMatch.map fun location =>
    (reply.matched.memory (.element location)).bind (Matches.readMessage reply.matched.memory)

inductive Message where
  | hello (body : WsdHelloType)
  | bye (body : WsdByeType)
  | probe (body : WsdProbeType)
  | probeMatches (found : List (Option WsdProbeMatchType))

/-- The generated dispatcher has an operation for every message but the answer to a probe. -/
def Message.incoming : Message → Service.Incoming
  | .hello body => .operation (.hello body)
  | .bye body => .operation (.bye body)
  | .probe body => .operation (.probe body)
  | .probeMatches _ => .refused Service.soapNoMethod

/-- A dispatched message keeps the service silent, or a bound service answers a probe. -/
theorem Service.dispatchIncoming_cases {handler : Option Handler} {surroundings : Service.Surroundings}
    {header : Option SoapEnvHeader} {message : Message} {state : Service.State}
    {outcome : Service.Outcome}
    (served : Service.dispatchIncoming handler surroundings header message.incoming state =
      .ok outcome) :
    (∃ code called, (∀ arg, called ≠ some (.probe arg)) ∧
      outcome = ⟨code, Service.receive header state, called, none, false⟩) ∨
      ∃ bound asked body, handler = some bound ∧ header = some asked ∧ message = .probe body ∧
        outcome = Service.probeOutcome bound surroundings asked body state := by
  cases message with
  | hello body =>
      obtain ⟨arg, -, ends⟩ := Service.hello_eq handler body (Service.receive header state)
      rw [← Except.ok.inj (ends.symm.trans served)]
      exact Or.inl ⟨_, _, by cases handler <;> simp, rfl⟩
  | bye body =>
      obtain ⟨arg, -, ends⟩ := Service.bye_eq handler body (Service.receive header state)
      rw [← Except.ok.inj (ends.symm.trans served)]
      exact Or.inl ⟨_, _, by cases handler <;> simp, rfl⟩
  | probe body =>
      rcases Service.serve_probe_ok served with ⟨-, rfl⟩ | ⟨bound, asked, rfl, rfl, rfl⟩
      · exact Or.inl ⟨_, _, by simp, rfl⟩
      · exact Or.inr ⟨bound, asked, body, rfl, rfl, rfl, rfl⟩
  | probeMatches found =>
      rw [← Except.ok.inj served]
      exact Or.inl ⟨_, _, by simp, rfl⟩

structure Packet (Site : Type) where
  source : Site
  header : Option SoapEnvHeader
  message : Message

/-- The trace records what the handlers and the callers of all sites can observe.
An answer shows the entries that can be read. -/
inductive Event (Site : Type) where
  | said (site : Site) (header : Option SoapEnvHeader) (call : HandlerCall)
  | bound (site : Site) (service : Nat) (handler : Option Handler)
  | heard (site : Site) (service : Nat) (call : HandlerCall)
  | answered (site : Site) (service : Nat) (header : Option SoapEnvHeader)
      (found : List (Option WsdProbeMatchType))
  | refused (site : Site) (service : Nat) (header : Option SoapEnvHeader)

/-- A packet stays on the wire, so that it may arrive late, at several services, twice or never. -/
structure Network (Site : Type) where
  processes : Site → System
  handlers : Site → Nat → Option Handler
  wire : List (Packet Site)
  trace : List (Event Site)

namespace Network

variable {Site : Type}

inductive Action (Site : Type) where
  | hello (site : Site) (proxy : Nat) (surroundings : Proxy.Surroundings) (arg : HelloT)
  | bye (site : Site) (proxy : Nat) (surroundings : Proxy.Surroundings) (arg : ByeT)
  | probe (site : Site) (proxy : Nat) (surroundings : Proxy.Surroundings) (arg : ProbeT)
  | bind (site : Site) (service : Nat) (sockets : Service.Sockets) (obj : Option Handler) (port : Int)
  | deliver (position : Nat) (site : Site) (service : Nat) (surroundings : Service.Surroundings)

def initial (instances : Site → UInt32) : Network Site where
  processes site := System.initial (instances site)
  handlers _ _ := none
  wire := []
  trace := []

section

variable [DecidableEq Site]

/-- A proxy call leaves one packet when its message is sent. -/
def say {Body A : Type} (network : Network Site) (site : Site) (proxy : Nat) (spoken : HandlerCall)
    (message : Body → Message) (call : Proxy.Call Body A) : Network Site where
  processes := Function.update network.processes site
    ((network.processes site).afterCall proxy call)
  handlers := network.handlers
  wire := network.wire ++
    if call.sent then [⟨site, call.envelope.header, message call.envelope.body⟩] else []
  trace := network.trace ++ if call.sent then [.said site call.envelope.header spoken] else []

/-- A second binding replaces the handler of the first one. -/
def bind (network : Network Site) (site : Site) (service : Nat) (bound : Service.Bound) :
    Network Site :=
  { network with
    handlers := Function.update network.handlers site
      (Function.update (network.handlers site) service bound.p)
    trace := network.trace ++ [.bound site service bound.p] }

/-- The replies of an outcome that left the service. -/
def replies (outcome : Service.Outcome) : List Service.Reply :=
  if outcome.sent then outcome.reply.toList else []

/-- A dispatched packet is heard by the handler, and then it is answered or refused.
The two copies of an answer are one packet. -/
def hear (network : Network Site) (site : Site) (service : Nat) (header : Option SoapEnvHeader)
    (dispatched : Service.Dispatched) : Network Site where
  processes := Function.update network.processes site
    ((network.processes site).afterReply service dispatched.outcome)
  handlers := network.handlers
  wire := network.wire ++ (replies dispatched.outcome).map fun reply =>
    ⟨site, reply.header, .probeMatches reply.messages⟩
  trace := network.trace ++ (dispatched.outcome.called.toList.map (.heard site service)) ++
    ((replies dispatched.outcome).map fun reply =>
      .answered site service reply.header reply.messages) ++
    if dispatched.code == soapFault then [.refused site service header] else []

def step (what : Soap → String) (network : Network Site) : Action Site → Except Fault (Network Site)
  | .hello site proxy surroundings arg =>
      network.say site proxy (.hello arg) .hello <$>
        Proxy.hello surroundings arg ((network.processes site).proxyState proxy)
  | .bye site proxy surroundings arg =>
      network.say site proxy (.bye arg) .bye <$>
        Proxy.bye surroundings arg ((network.processes site).proxyState proxy)
  | .probe site proxy surroundings arg =>
      network.say site proxy (.probe arg) .probe <$>
        Proxy.probe surroundings arg ((network.processes site).proxyState proxy)
  | .bind site service sockets obj port =>
      .ok (network.bind site service (Service.bind sockets obj port))
  | .deliver position site service surroundings =>
      match network.wire[position]? with
      | none => .ok network
      | some packet =>
          network.hear site service packet.header <$>
            Service.dispatch what (network.handlers site service) surroundings packet.header
              packet.message.incoming ((network.processes site).serviceState service)

end

/-- The events of a dispatched packet. -/
def dispatchEvents (site : Site) (service : Nat) (header : Option SoapEnvHeader)
    (outcome : Service.Outcome) : List (Event Site) :=
  outcome.called.toList.map (.heard site service) ++
    ((replies outcome).map fun reply =>
      .answered site service reply.header reply.messages) ++
    if outcome.code = soapOk ∨ outcome.code = soapUserError then []
    else [.refused site service header]

/-- A dispatched packet is heard, answered or refused. -/
theorem mem_dispatchEvents {site : Site} {service : Nat} {header : Option SoapEnvHeader}
    {outcome : Service.Outcome} {event : Event Site}
    (member : event ∈ dispatchEvents site service header outcome) :
    (∃ call, outcome.called = some call ∧ event = .heard site service call) ∨
      (∃ answer found, event = .answered site service answer found) ∨
      event = .refused site service header := by
  rcases List.mem_append.mp member with spoken | refused
  · rcases List.mem_append.mp spoken with heard | answered
    · obtain ⟨call, called, rfl⟩ := List.mem_map.mp heard
      exact Or.inl ⟨call, Option.mem_toList.mp called, rfl⟩
    · obtain ⟨reply, -, rfl⟩ := List.mem_map.mp answered
      exact Or.inr (Or.inl ⟨_, _, rfl⟩)
  · split at refused
    · cases refused
    · exact Or.inr (Or.inr (List.mem_singleton.mp refused))

theorem replies_settle (what : Soap → String) (outcome : Service.Outcome) :
    replies (Service.settle what outcome).outcome = replies outcome := by
  obtain ⟨-, reply, sent, -⟩ := Service.settle_outcome what outcome
  rw [replies, replies, reply, sent]

/-- A dispatched packet adds its events to the trace. -/
theorem hear_trace [DecidableEq Site] (network : Network Site) (what : Soap → String) (site : Site)
    (service : Nat) (header : Option SoapEnvHeader) (outcome : Service.Outcome) :
    (network.hear site service header (Service.settle what outcome)).trace =
      network.trace ++ dispatchEvents site service header outcome := by
  have called := (Service.settle_outcome what outcome).1
  have code := Service.settle_code what outcome
  simp only [hear, dispatchEvents, replies_settle, called, code, List.append_assoc]
  by_cases fine : outcome.code = soapOk ∨ outcome.code = soapUserError
  · rw [if_pos fine, if_pos fine]
    rfl
  · rw [if_neg fine, if_neg fine]
    rfl

/-- The call that an action makes on a proxy of its site. -/
def Action.spoken : Action Site → Option (Site × HandlerCall)
  | .hello site _ _ arg => some (site, .hello arg)
  | .bye site _ _ arg => some (site, .bye arg)
  | .probe site _ _ arg => some (site, .probe arg)
  | .bind _ _ _ _ _ => none
  | .deliver _ _ _ _ => none

/-- What one step adds to the trace. -/
inductive Emits (network : Network Site) : Action Site → List (Event Site) → Prop where
  | quiet (action : Action Site) : Emits network action []
  | said {action : Action Site} {site : Site} {spoken : HandlerCall}
      (speaks : action.spoken = some (site, spoken)) (header : Option SoapEnvHeader) :
      Emits network action [.said site header spoken]
  | bound (site : Site) (service : Nat) (sockets : Service.Sockets) (obj : Option Handler)
      (port : Int) : Emits network (.bind site service sockets obj port) [.bound site service obj]
  | dispatched {position : Nat} {site : Site} {service : Nat} {surroundings : Service.Surroundings}
      {packet : Packet Site} {outcome : Service.Outcome}
      (found : network.wire[position]? = some packet)
      (served : Service.dispatchIncoming (network.handlers site service) surroundings packet.header
        packet.message.incoming ((network.processes site).serviceState service) = .ok outcome) :
      Emits network (.deliver position site service surroundings)
        (dispatchEvents site service packet.header outcome)

theorem Emits.of_sent {network : Network Site} {action : Action Site} {site : Site}
    {spoken : HandlerCall} (speaks : action.spoken = some (site, spoken))
    (header : Option SoapEnvHeader) (sent : Bool) :
    Emits network action (if sent then [.said site header spoken] else []) := by
  cases sent with
  | false => exact .quiet action
  | true => exact .said speaks header

theorem step_emits [DecidableEq Site] {what : Soap → String} {network next : Network Site}
    {action : Action Site} (taken : step what network action = .ok next) :
    ∃ more, next.trace = network.trace ++ more ∧ Emits network action more := by
  cases action with
  | hello site proxy surroundings arg =>
      obtain ⟨call, -, rfl⟩ := map_eq_ok.mp taken
      exact ⟨_, rfl, .of_sent rfl _ _⟩
  | bye site proxy surroundings arg =>
      obtain ⟨call, -, rfl⟩ := map_eq_ok.mp taken
      exact ⟨_, rfl, .of_sent rfl _ _⟩
  | probe site proxy surroundings arg =>
      obtain ⟨call, -, rfl⟩ := map_eq_ok.mp taken
      exact ⟨_, rfl, .of_sent rfl _ _⟩
  | bind site service sockets obj port =>
      obtain rfl := Except.ok.inj taken
      refine ⟨[.bound site service obj], ?_, .bound site service sockets obj port⟩
      rw [bind, Service.bind_p]
  | deliver position site service surroundings =>
      simp only [step] at taken
      split at taken
      · obtain rfl := Except.ok.inj taken
        exact ⟨[], (List.append_nil _).symm, .quiet _⟩
      · rename_i packet found
        obtain ⟨dispatched, dispatches, rfl⟩ := map_eq_ok.mp taken
        obtain ⟨outcome, served, rfl⟩ := map_eq_ok.mp dispatches
        exact ⟨_, hear_trace network what site service packet.header outcome, .dispatched found served⟩

end Network
end Onvifxx
