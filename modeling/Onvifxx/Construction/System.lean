/-
This file runs the proxies and the services of one process.
-/

import Onvifxx.Construction.Proxy
import Onvifxx.Library.Run

namespace Onvifxx

open Execution RemoteDiscovery Wsdd

/-- The objects of a process share its statics, and its messages leave in one order. -/
structure System where
  statics : Wsa.Statics
  proxies : Nat → Wsa.Object
  services : Nat → Wsa.Object × Matches
  sent : List (Option SoapEnvHeader)

namespace System

/-- The counter starts at zero, and the instance is the start time. -/
def initial (instanceId : UInt32) : System where
  statics := ⟨instanceId, 0⟩
  proxies _ := Wsa.Object.initial
  services _ := (Wsa.Object.initial, Matches.initial)
  sent := []

/-- One call on a proxy, or one probe that a service answers. -/
inductive Call where
  | hello (proxy : Nat) (surroundings : Proxy.Surroundings) (arg : HelloT)
  | bye (proxy : Nat) (surroundings : Proxy.Surroundings) (arg : ByeT)
  | probe (proxy : Nat) (surroundings : Proxy.Surroundings) (arg : ProbeT)
  | reply (service : Nat) (handler : Option Handler) (surroundings : Service.Surroundings)
      (header : Option SoapEnvHeader) (body : WsdProbeType)

def proxyState (system : System) (proxy : Nat) : Wsa.State := ⟨system.proxies proxy, system.statics⟩

def serviceState (system : System) (service : Nat) : Service.State :=
  ⟨⟨(system.services service).1, system.statics⟩, (system.services service).2⟩

/-- The proxy keeps its header, and a message that leaves is recorded. -/
def afterCall {Body A : Type} (system : System) (proxy : Nat) (call : Proxy.Call Body A) : System where
  statics := call.state.statics
  proxies := Function.update system.proxies proxy call.state.toObject
  services := system.services
  sent := system.sent ++ if call.sent then [call.envelope.header] else []

/-- The two copies of a reply are one message. -/
def afterReply (system : System) (service : Nat) (outcome : Service.Outcome) : System where
  statics := outcome.state.wsa.statics
  proxies := system.proxies
  services := Function.update system.services service
    (outcome.state.wsa.toObject, outcome.state.matched)
  sent := system.sent ++ if outcome.sent then outcome.reply.toList.map Service.Reply.header else []

def step (system : System) : Call → Except Fault System
  | .hello proxy surroundings arg =>
      system.afterCall proxy <$> Proxy.hello surroundings arg (system.proxyState proxy)
  | .bye proxy surroundings arg =>
      system.afterCall proxy <$> Proxy.bye surroundings arg (system.proxyState proxy)
  | .probe proxy surroundings arg =>
      system.afterCall proxy <$> Proxy.probe surroundings arg (system.proxyState proxy)
  | .reply service handler surroundings header body =>
      system.afterReply service <$> Service.serve handler surroundings header (.probe body)
        (system.serviceState service)

/-- The sequence record that a message carries. -/
def appSequence (header : Option SoapEnvHeader) : Option WsdAppSequenceType :=
  match header.bind SoapEnvHeader.wsdAppSequence with
  | some (.received sequence) => some sequence
  | _ => none

theorem appSequence_sentHeader (state : Wsa.State) :
    appSequence (Wsa.sentHeader state) =
      (Wsa.sequencePointer state).map (Wsa.designated state) := by
  cases header : state.soap.header with
  | none => simp [appSequence, Wsa.sentHeader, Wsa.sequencePointer, header]
  | some found =>
      cases pointer : found.wsdAppSequence <;>
        simp [appSequence, Wsa.sentHeader, Wsa.sequencePointer, header, pointer]

/-- The sequence records of all messages in their sending order. -/
def numbers (system : System) : List WsdAppSequenceType := system.sent.filterMap appSequence

end System
end Onvifxx
