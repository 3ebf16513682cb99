/-
This file translates the operations of the discovery service.
-/

import Onvifxx.Construction.Matches
import Onvifxx.Construction.Wsa

namespace Onvifxx.Service

open Execution RemoteDiscovery Wsdd Codec

/-- The service object holds its addressing object and the vector of its replies. -/
structure State where
  wsa : Wsa.State
  matched : Matches

/-- The library sends one message completely, or it stops with an error code. -/
inductive Transmission where
  | completed
  | failed (error : Int) (nonzero : error ≠ 0) (sent : Bool)

/-- A probe allocates at most one header and sends its reply twice. -/
structure Surroundings where
  request : Wsa.Surroundings
  first : Transmission
  second : Transmission

/-- A service object before its first request. -/
def initial : State := ⟨⟨Wsa.Object.initial, ⟨7, 0⟩⟩, Matches.initial⟩

/-- The library allocates the header and sends both copies of the reply. -/
def completing : Surroundings := ⟨⟨true, ⟨0, 0, 0, 0⟩⟩, .completed, .completed⟩

/-- The reply at the moment of its serialisation. -/
structure Reply where
  header : Option SoapEnvHeader
  probeMatch : List Location
  matched : Matches

structure Outcome where
  code : Int
  state : State
  called : Option HandlerCall
  reply : Option Reply
  sent : Bool

/-- The dispatcher replaces the header by the received one. -/
def receive (header : Option SoapEnvHeader) (state : State) : State :=
  { state with wsa := { state.wsa with soap := { state.wsa.soap with header } } }

/-- Neither announcement is answered. -/
def hello (handler : Option Handler) (body : WsdHelloType) (state : State) : Except Fault Outcome := do
  if handler.isSome then
    let arg ← helloArg body
    return ⟨soapUserError, state, some (.hello arg), none, false⟩
  return ⟨soapUserError, state, none, none, false⟩

def bye (handler : Option Handler) (body : WsdByeType) (state : State) : Except Fault Outcome := do
  if handler.isSome then
    let arg ← byeArg body
    return ⟨soapUserError, state, some (.bye arg), none, false⟩
  return ⟨soapUserError, state, none, none, false⟩

def probeMatchesAction : String := soapNamespaceOfWsd ++ "/ProbeMatches"

/-- The identifier is read before the request overwrites it, and every code is ignored. -/
def probeHeader (surroundings : Wsa.Surroundings) (state : Wsa.State) : Except Fault Wsa.State := do
  let relatesTo := (← deref state.soap.header).wsaMessageID
  let (_, state) ← Wsa.request surroundings "" probeMatchesAction state
  let (_, state) ← Wsa.addRelatesTo relatesTo state
  let (_, state) ← Wsa.addAppSequence none state
  return state

/-- The copies go out one after the other until one fails. -/
def transmit : List Transmission → Int × Bool
  | [] => (soapUserError, false)
  | .failed error _ sent :: _ => (error, sent)
  | .completed :: rest => ((transmit rest).1, true)

def probe (handler : Option Handler) (surroundings : Surroundings) (body : WsdProbeType)
    (state : State) : Except Fault Outcome := do
  match handler with
  | none => return ⟨soapUserError, state, none, none, false⟩
  | some handler =>
      let arg ← probeArg body
      let wsa ← probeHeader surroundings.request state.wsa
      let items := handler.probe arg
      let reserved : Matches :=
        { state.matched with vector := state.matched.vector.reserve items.length }
      let filled ← reserved.fill items
      let (code, sent) := transmit [surroundings.first, surroundings.second]
      return ⟨code, ⟨wsa, filled.1⟩, some (.probe arg),
        some ⟨Wsa.sentHeader wsa, filled.2, filled.1⟩, sent⟩

/-- The dispatcher hands one of these bodies to the service. -/
inductive Operation where
  | hello (body : WsdHelloType)
  | bye (body : WsdByeType)
  | probe (body : WsdProbeType)

def serve (handler : Option Handler) (surroundings : Surroundings) (header : Option SoapEnvHeader)
    (operation : Operation) (state : State) : Except Fault Outcome :=
  match operation with
  | .hello body => hello handler body (receive header state)
  | .bye body => bye handler body (receive header state)
  | .probe body => probe handler surroundings body (receive header state)

/-- The header that a probe answers with. -/
def replyHeader (surroundings : Wsa.Surroundings) (header : SoapEnvHeader) : SoapEnvHeader :=
  { wsaMessageID := Wsa.randUuid surroundings.randoms
    wsaRelatesTo := if header.wsaMessageID.isEmpty then none else some ⟨header.wsaMessageID, none⟩
    wsaFrom := none
    wsaReplyTo := none
    wsaFaultTo := none
    wsaTo := Wsa.anonymousUri
    wsaAction := probeMatchesAction
    wsdAppSequence := some .own }

theorem probeMatchesAction_named : probeMatchesAction.isEmpty = false := by decide

/-- A present header is rewritten completely and takes the next number. -/
theorem probeHeader_present (surroundings : Wsa.Surroundings) {state : Wsa.State}
    {header : SoapEnvHeader} (present : state.soap.header = some header) :
    probeHeader surroundings state =
      .ok ((state.numbered none).withHeader (replyHeader surroundings header)) := by
  have requested := Wsa.request_withHeader surroundings "" state header probeMatchesAction_named
  rw [Wsa.exists_withHeader present] at requested
  unfold probeHeader
  rw [present, deref_some, ok_bind, requested, ok_bind]
  dsimp only
  rw [Wsa.addRelatesTo_eq]
  dsimp only [Wsa.withHeader_header]
  cases empty : header.wsaMessageID.isEmpty with
  | true =>
      simp only [↓reduceIte, ok_bind, Wsa.addAppSequence_eq, Wsa.withHeader_header, pure_eq_ok]
      simp [Wsa.requestedHeader, replyHeader, empty, Wsa.State.numbered, Wsa.State.withHeader]
  | false =>
      simp only [Bool.false_eq_true, ↓reduceIte, ok_bind, Wsa.addAppSequence_eq,
        Wsa.withHeader_header, pure_eq_ok]
      simp [Wsa.requestedHeader, replyHeader, empty, Wsa.State.numbered, Wsa.State.withHeader]

/-- Without a header the first read stops. -/
theorem probeHeader_absent (surroundings : Wsa.Surroundings) {state : Wsa.State}
    (absent : state.soap.header = none) :
    probeHeader surroundings state = .error .nullDereference := by
  simp [probeHeader, absent]

/-- The objects that a reply adds to the vector of the service. -/
def replyMatches (matched : Matches) (items : ProbeMatchesT) : Matches × List Location :=
  let filled := (matched.vector.reserve items.length).pushAll
    (Matches.storedObjects matched.temporaries items)
  (⟨filled.1, matched.temporaries + items.length⟩, filled.2)

def decodedProbe (body : WsdProbeType) : ProbeT := ⟨body.types, body.scopes.map scopesT⟩

/-- The outcome of a probe that a bound service answers. -/
def probeOutcome (handler : Handler) (surroundings : Surroundings) (header : SoapEnvHeader)
    (body : WsdProbeType) (state : State) : Outcome :=
  let wsa := ((receive (some header) state).wsa.numbered none).withHeader
    (replyHeader surroundings.request header)
  let replied := replyMatches state.matched (handler.probe (decodedProbe body))
  let transmitted := transmit [surroundings.first, surroundings.second]
  { code := transmitted.1
    state := ⟨wsa, replied.1⟩
    called := some (.probe (decodedProbe body))
    reply := some ⟨Wsa.sentHeader wsa, replied.2, replied.1⟩
    sent := transmitted.2 }

/-- A bound service with a header calls its handler and serialises one reply. -/
theorem serve_probe (handler : Handler) (surroundings : Surroundings) (header : SoapEnvHeader)
    (body : WsdProbeType) (state : State) :
    serve (some handler) surroundings (some header) (.probe body) state =
      .ok (probeOutcome handler surroundings header body state) := by
  have present : (receive (some header) state).wsa.soap.header = some header := rfl
  simp only [serve, probe, probeArg_eq, ok_bind, probeHeader_present surroundings.request present,
    Matches.fill_eq]
  rfl

/-- A bound service without a header stops before it calls its handler. -/
theorem serve_probe_absent (handler : Handler) (surroundings : Surroundings) (body : WsdProbeType)
    (state : State) :
    serve (some handler) surroundings none (.probe body) state = .error .nullDereference := by
  have absent : (receive none state).wsa.soap.header = none := rfl
  simp only [serve, probe, probeArg_eq, ok_bind, probeHeader_absent surroundings.request absent,
    error_bind]

/-- A completed probe found no handler, or it found a handler and a header. -/
theorem serve_probe_ok {handler : Option Handler} {surroundings : Surroundings}
    {header : Option SoapEnvHeader} {body : WsdProbeType} {state : State} {outcome : Outcome}
    (served : serve handler surroundings header (.probe body) state = .ok outcome) :
    handler = none ∧ outcome = ⟨soapUserError, receive header state, none, none, false⟩ ∨
      ∃ bound found, handler = some bound ∧ header = some found ∧
        outcome = probeOutcome bound surroundings found body state := by
  cases handler with
  | none => exact Or.inl ⟨rfl, (Except.ok.inj served).symm⟩
  | some bound =>
      cases header with
      | none =>
          rw [serve_probe_absent] at served
          cases served
      | some found =>
          rw [serve_probe] at served
          exact Or.inr ⟨bound, found, rfl, rfl, (Except.ok.inj served).symm⟩

theorem hello_eq (handler : Option Handler) (body : WsdHelloType) (state : State) :
    ∃ arg, helloArg body = .ok arg ∧ hello handler body state =
      .ok ⟨soapUserError, state, handler.map fun _ => .hello arg, none, false⟩ := by
  refine ⟨_, arg_eq body body.metadataVersion, ?_⟩
  cases handler <;> simp [hello, helloArg, arg_eq]

theorem bye_eq (handler : Option Handler) (body : WsdByeType) (state : State) :
    ∃ arg, byeArg body = .ok arg ∧ bye handler body state =
      .ok ⟨soapUserError, state, handler.map fun _ => .bye arg, none, false⟩ := by
  refine ⟨_, (byeArg_eq body).trans (arg_eq body _), ?_⟩
  cases handler <;> simp [bye, byeArg_eq, arg_eq]

end Onvifxx.Service
