/-
This file translates the operations of the discovery proxy.
-/

import Onvifxx.Construction.Service

namespace Onvifxx.Proxy

open Execution RemoteDiscovery Wsdd Codec

def toTsUrl : String := "urn:schemas-xmlsoap-org:ws:2005:04:discovery"

/-- A message carries an optional header and a body. -/
structure Envelope (Body : Type) where
  header : Option SoapEnvHeader
  body : Body

/-- The library decides the header allocation and the result of the generated stub. -/
structure Surroundings where
  request : Wsa.Surroundings
  stub : Service.Transmission

/-- The library allocates the header and sends the message. -/
def completing : Surroundings := ⟨⟨true, ⟨0, 0, 0, 0⟩⟩, .completed⟩

/-- A call throws an exception, or it ends with the value that it returns. -/
inductive Ending (A : Type) where
  | throws
  | ends (result : Returned A)

structure Call (Body A : Type) where
  state : Wsa.State
  envelope : Envelope Body
  sent : Bool
  ending : Ending A

/-- The generated stub sends one message, and its caller throws when the stub fails. -/
def finish {Body A : Type} (stub : Service.Transmission) (state : Wsa.State) (body : Body)
    (result : Returned A) : Call Body A :=
  match stub with
  | .completed => ⟨state, ⟨Wsa.sentHeader state, body⟩, true, .ends result⟩
  | .failed _ _ sent => ⟨state, ⟨Wsa.sentHeader state, body⟩, sent, .throws⟩

/-- Both announcements ignore the code of the request and take the next number. -/
def announceHeader (surroundings : Wsa.Surroundings) (action : String) (state : Wsa.State) :
    Except Fault Wsa.State := do
  let (_, state) ← Wsa.request surroundings toTsUrl action state
  let (_, state) ← Wsa.addAppSequence none state
  return state

def hello (surroundings : Surroundings) (arg : HelloT) (state : Wsa.State) :
    Except Fault (Call WsdHelloType Unit) := do
  let state ← announceHeader surroundings.request (soapNamespaceOfWsd ++ "/Hello") state
  let body ← versionedRequest arg
  return finish surroundings.stub state body (.value ())

/-- A `Bye` drops the optional parts of its request and leaves out the version. -/
def bye (surroundings : Surroundings) (arg : ByeT) (state : Wsa.State) :
    Except Fault (Call WsdByeType Unit) := do
  let state ← announceHeader surroundings.request (soapNamespaceOfWsd ++ "/Bye") state
  let body : WsdByeType ← request arg
  return finish surroundings.stub state { body with types := none, scopes := none, xaddrs := none }
    (.value ())

/-- A probe takes no number, and its body has no return statement. -/
def probe (surroundings : Surroundings) (arg : ProbeT) (state : Wsa.State) :
    Except Fault (Call WsdProbeType ProbeMatchesT) := do
  let (_, state) ← Wsa.request surroundings.request toTsUrl (soapNamespaceOfWsd ++ "/Probe") state
  let scopes ← requestScopes arg.scopes
  let body := { WsdProbeType.soapDefault with types := arg.types, scopes }
  return finish surroundings.stub state body .missing

theorem finish_state {Body A : Type} (stub : Service.Transmission) (state : Wsa.State) (body : Body)
    (result : Returned A) : (finish stub state body result).state = state := by
  cases stub <;> rfl

theorem finish_envelope {Body A : Type} (stub : Service.Transmission) (state : Wsa.State)
    (body : Body) (result : Returned A) :
    (finish stub state body result).envelope = ⟨Wsa.sentHeader state, body⟩ := by
  cases stub <;> rfl

/-- A completed announcement header carries the next number of the process. -/
theorem announceHeader_ends {surroundings : Wsa.Surroundings} {action : String}
    {state next : Wsa.State} (named : action.isEmpty = false)
    (ended : announceHeader surroundings action state = .ok next) :
    ∃ header, next.soap.header = some header ∧ header.wsdAppSequence = some .own ∧
      next.statics = (Wsa.messageNumber state.statics).2 ∧
      next.sequence = ⟨state.statics.instanceId, none, state.statics.messageNumber + 1⟩ := by
  obtain ⟨code, requested, ends, statics, sequence, header⟩ :=
    Wsa.request_ends surroundings toTsUrl state named
  rw [announceHeader, ends, ok_bind] at ended
  dsimp only at ended
  rw [Wsa.addAppSequence_eq] at ended
  cases present : requested.soap.header with
  | none => simp [present] at ended
  | some found =>
      simp only [present, ok_bind, pure_eq_ok, Except.ok.injEq] at ended
      subst next
      refine ⟨_, rfl, rfl, ?_, ?_⟩
      · simp only [Wsa.withHeader_statics, Wsa.State.numbered, statics]
      · simp only [Wsa.withHeader_sequence, Wsa.State.numbered, statics]

/-- A completed `Hello` has prepared its header and called its stub. -/
theorem hello_ok {surroundings : Surroundings} {arg : HelloT} {state : Wsa.State}
    {call : Call WsdHelloType Unit} (ended : hello surroundings arg state = .ok call) :
    ∃ next body,
      announceHeader surroundings.request (soapNamespaceOfWsd ++ "/Hello") state = .ok next ∧
        finish surroundings.stub next body (.value ()) = call := by
  obtain ⟨next, announced, rest⟩ := bind_eq_ok.mp ended
  rw [versionedRequest_eq, ok_bind] at rest
  exact ⟨next, _, announced, Except.ok.inj rest⟩

theorem bye_ok {surroundings : Surroundings} {arg : ByeT} {state : Wsa.State}
    {call : Call WsdByeType Unit} (ended : bye surroundings arg state = .ok call) :
    ∃ next body,
      announceHeader surroundings.request (soapNamespaceOfWsd ++ "/Bye") state = .ok next ∧
        finish surroundings.stub next body (.value ()) = call := by
  obtain ⟨next, announced, rest⟩ := bind_eq_ok.mp ended
  rw [request_eq, ok_bind] at rest
  exact ⟨next, _, announced, Except.ok.inj rest⟩

/-- A probe keeps the sequence pointer and the sequence record of the proxy. -/
theorem probe_ends (surroundings : Surroundings) (arg : ProbeT) (state : Wsa.State) :
    ∃ next, probe surroundings arg state = .ok
        (finish surroundings.stub next ⟨arg.types, arg.scopes.map wsdScopes⟩ .missing) ∧
      next.statics = state.statics ∧ next.sequence = state.sequence ∧
      Wsa.sequencePointer next = Wsa.sequencePointer state ∧
      (next.soap.header.isSome ↔ state.soap.header.isSome ∨ surroundings.request.allocates) := by
  have named : (soapNamespaceOfWsd ++ "/Probe").isEmpty = false := by decide
  obtain ⟨code, next, ends, statics, sequence, header⟩ :=
    Wsa.request_ends surroundings.request toTsUrl state named
  refine ⟨next, ?_, statics, sequence, Wsa.request_sequencePointer named ends, ?_⟩
  · simp only [probe, ends, ok_bind, requestScopes_eq]
    rfl
  · rw [header]
    cases state.soap.header <;> cases surroundings.request.allocates <;> simp

end Onvifxx.Proxy
