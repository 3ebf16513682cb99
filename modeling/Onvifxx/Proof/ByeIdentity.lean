/-
This file proves which announcements of a departure reach the other side with their identity.
-/

import Onvifxx.Construction.Proxy
import Onvifxx.Proof.RoundTrip

namespace Onvifxx.Proxy

open Execution RemoteDiscovery Wsdd Codec

/-- A lossless transport hands each sent message to a service with a handler. -/
def deliverBye (call : Call WsdByeType Unit) (handler : Handler)
    (surroundings : Service.Surroundings) (receiver : Service.State) :
    Except Fault (Option Service.Outcome) :=
  if call.sent then
    some <$> Service.serve (some handler) surroundings call.envelope.header
      (.bye call.envelope.body) receiver
  else
    .ok none

/-- The part of an announcement that a departure has to carry. -/
def byeIdentity (arg : ByeT) : ByeT :=
  { arg with types := none, scopes := none, xaddrs := none }

/-- The message of a departure holds the endpoint alone. -/
def byeBody (arg : ByeT) : WsdByeType where
  endpointReference := arg.endpoint.map wsaEndpoint
  types := none
  scopes := none
  xaddrs := none
  metadataVersion := none

/-- A call that ends with a value has sent its message. -/
theorem finish_sent {Body A : Type} {stub : Service.Transmission} {state : Wsa.State} {body : Body}
    {result value : Returned A} (succeeded : (finish stub state body result).ending = .ends value) :
    (finish stub state body result).sent = true := by
  cases stub with
  | completed => rfl
  | failed error nonzero sent => cases succeeded

/-- A completed `Bye` carries the endpoint and no version. -/
theorem bye_body {surroundings : Surroundings} {arg : ByeT} {state : Wsa.State}
    {call : Call WsdByeType Unit} (ended : bye surroundings arg state = .ok call) :
    call.envelope.body = byeBody arg := by
  obtain ⟨next, announced, rest⟩ := bind_eq_ok.mp ended
  rw [request_eq, ok_bind] at rest
  rw [← Except.ok.inj rest, finish_envelope]
  rfl

/-- The receiver reads the endpoint back and takes zero for the missing version. -/
def receivedBye (arg : ByeT) : ByeT where
  endpoint := arg.endpoint.map (endpointT ∘ wsaEndpoint)
  types := none
  scopes := none
  xaddrs := none
  version := 0

theorem byeArg_byeBody (arg : ByeT) : byeArg (byeBody arg) = .ok (receivedBye arg) := by
  rw [byeArg_eq, arg_eq]
  simp [byeBody, receivedBye, Option.map_map]

theorem bye_sent {surroundings : Surroundings} {arg : ByeT} {state : Wsa.State}
    {call : Call WsdByeType Unit} {value : Returned Unit}
    (ended : bye surroundings arg state = .ok call) (succeeded : call.ending = .ends value) :
    call.sent = true := by
  obtain ⟨next, body, announced, finished⟩ := bye_ok ended
  subst finished
  exact finish_sent succeeded

/-- The handler gets the announcement that the decoder makes of the sent message. -/
theorem deliverBye_called {surroundings : Surroundings} {arg : ByeT} {state : Wsa.State}
    {call : Call WsdByeType Unit} {value : Returned Unit} (handler : Handler)
    (served : Service.Surroundings) (receiver : Service.State)
    (ended : bye surroundings arg state = .ok call) (succeeded : call.ending = .ends value) :
    ∃ outcome, deliverBye call handler served receiver = .ok (some outcome) ∧
      outcome.called = some (.bye (receivedBye arg)) := by
  obtain ⟨decoded, read, answered⟩ := Service.bye_eq (some handler) call.envelope.body
    (Service.receive call.envelope.header receiver)
  rw [bye_body ended, byeArg_byeBody, Except.ok.injEq] at read
  subst read
  have delivered := congrArg (some <$> ·) answered
  rw [map_ok] at delivered
  rw [deliverBye, if_pos (bye_sent ended succeeded)]
  exact ⟨_, delivered, rfl⟩

/-- An endpoint without a port type arrives as it was sent. -/
theorem receivedBye_eq {arg : ByeT} {endpoint : EndpointReferenceT}
    (present : arg.endpoint = some endpoint) (portless : endpoint.portType = none) :
    receivedBye arg = { byeIdentity arg with version := 0 } := by
  have arrives := (endpointT_wsaEndpoint_iff endpoint).mpr portless
  simp [receivedBye, byeIdentity, present, arrives]

/-- The identity of a departure arrives exactly when its version is the default one. -/
theorem bye_keepsIdentity_iff (surroundings : Surroundings) (state : Wsa.State) (arg : ByeT)
    (call : Call WsdByeType Unit) (handler : Handler) (served : Service.Surroundings)
    (receiver : Service.State)
    (unported : ∃ endpoint, arg.endpoint = some endpoint ∧ endpoint.address.isSome ∧
      endpoint.portType = none)
    (ended : bye surroundings arg state = .ok call) (succeeded : call.ending = .ends (.value ())) :
    (∃ outcome, deliverBye call handler served receiver = .ok (some outcome) ∧
      outcome.called = some (.bye (byeIdentity arg))) ↔ arg.version = 0 := by
  obtain ⟨endpoint, present, addressed, portless⟩ := unported
  obtain ⟨outcome, answered, called⟩ :=
    deliverBye_called handler served receiver ended succeeded
  rw [receivedBye_eq present portless] at called
  constructor
  · rintro ⟨found, same, kept⟩
    rw [answered, Except.ok.injEq, Option.some.injEq] at same
    rw [← same, called] at kept
    simp only [Option.some.injEq, HandlerCall.bye.injEq] at kept
    exact (congrArg ProbeMatchT.version kept).symm
  · intro unversioned
    refine ⟨outcome, answered, ?_⟩
    rw [called]
    simp [byeIdentity, unversioned]

/-- The example daemon announces its departure with an address. -/
def sampleEndpoint : EndpointReferenceT :=
  ⟨some "urn:uuid:05f1b46c-f29a-46f7-9140-e4bc00c8cea6", none, none⟩

theorem bye_keepsIdentity_unversioned :
    ∃ call, bye completing ⟨some sampleEndpoint, none, none, none, 0⟩
        ⟨Wsa.Object.initial, ⟨7, 0⟩⟩ = .ok call ∧
      ∃ outcome, deliverBye call ⟨fun _ => []⟩ Service.completing Service.initial =
          .ok (some outcome) ∧
        outcome.called = some (.bye ⟨some sampleEndpoint, none, none, none, 0⟩) := by
  refine ⟨_, rfl, ?_⟩
  exact (bye_keepsIdentity_iff completing ⟨Wsa.Object.initial, ⟨7, 0⟩⟩
    ⟨some sampleEndpoint, none, none, none, 0⟩ _ ⟨fun _ => []⟩ Service.completing Service.initial
    ⟨sampleEndpoint, rfl, rfl, rfl⟩ rfl rfl).mpr rfl

/-- A departure of the first version. -/
def versionedDeparture : ByeT := ⟨some sampleEndpoint, none, none, none, 1⟩

/-- The first version of the tests arrives as version zero. -/
theorem bye_losesVersion :
    ¬ ∀ (surroundings : Surroundings) (state : Wsa.State) (arg : ByeT)
      (call : Call WsdByeType Unit) (handler : Handler) (served : Service.Surroundings)
      (receiver : Service.State),
      (∃ endpoint, arg.endpoint = some endpoint ∧ endpoint.address.isSome ∧
        endpoint.portType = none) →
      bye surroundings arg state = .ok call → call.ending = .ends (.value ()) →
      ∃ outcome, deliverBye call handler served receiver = .ok (some outcome) ∧
        outcome.called = some (.bye (byeIdentity arg)) := by
  intro keeps
  obtain ⟨call, ended, succeeded⟩ : ∃ call, bye completing versionedDeparture
      ⟨Wsa.Object.initial, ⟨7, 0⟩⟩ = .ok call ∧ call.ending = .ends (.value ()) := ⟨_, rfl, rfl⟩
  obtain ⟨outcome, answered, called⟩ := keeps completing _ versionedDeparture call ⟨fun _ => []⟩
    Service.completing Service.initial ⟨sampleEndpoint, rfl, rfl, rfl⟩ ended succeeded
  obtain ⟨found, same, received⟩ := deliverBye_called ⟨fun _ => []⟩ Service.completing
    Service.initial ended succeeded
  rw [answered, Except.ok.injEq, Option.some.injEq] at same
  rw [← same, called] at received
  simp [byeIdentity, receivedBye, versionedDeparture] at received

end Onvifxx.Proxy
