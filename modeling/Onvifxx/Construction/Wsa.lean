/-
This file translates the operations on the addressing header.
-/

import Onvifxx.Construction.RandUuid
import Onvifxx.Construction.SoapTypes

namespace Onvifxx.Wsa

open Execution Wsdd

/-- Every addressing object of a process shares these two static numbers. -/
structure Statics where
  instanceId : UInt32
  messageNumber : UInt32
  deriving DecidableEq, Repr

/-- One addressing object holds its context and its own sequence record. -/
structure Object where
  soap : Soap
  sequence : WsdAppSequenceType
  deriving DecidableEq, Repr

structure State extends Object where
  statics : Statics
  deriving DecidableEq, Repr

def Object.initial : Object := ⟨Soap.initial, WsdAppSequenceType.soapDefault⟩

/-- The library decides the allocation and the random integers of one request. -/
structure Surroundings where
  allocates : Bool
  randoms : Randoms
  deriving DecidableEq, Repr

def anonymousUri : String := "http://schemas.xmlsoap.org/ws/2004/08/addressing/role/anonymous"

def noneUri : String := "addressing/none not supported"

/-- The generated names of the subcodes. -/
def faultSubcodeName : WsaFaultSubcodeValues → String
  | .invalidMessageInformationHeader => "wsa:InvalidMessageInformationHeader"
  | .messageInformationHeaderRequired => "wsa:MessageInformationHeaderRequired"
  | .destinationUnreachable => "wsa:DestinationUnreachable"
  | .actionNotSupported => "wsa:ActionNotSupported"
  | .endpointUnavailable => "wsa:EndpointUnavailable"

/-- The library records a sender fault and returns its code. -/
def senderFault (soap : Soap) (subcode : Option String) (faultstring : String)
    (detail : Option String) : Int × Soap :=
  (soapFault, { soap with error := soapFault, fault := some ⟨subcode, faultstring, detail⟩ })

def wsaError (soap : Soap) (fault : WsaFaultSubcodeValues) : Int × Soap :=
  let code := faultSubcodeName fault
  match fault with
  | .invalidMessageInformationHeader =>
      senderFault soap (some code) "A message information header is not valid and the message cannot be processed. The validity failure can be either structural or semantic, e.g. a [destination] that is not a URI or a [relationship] to a [message id] that was never issued." (some "Invalid header")
  | .messageInformationHeaderRequired =>
      senderFault soap (some code) "A required message information header, To, MessageID, or Action, is not present." (some "Missing Header QName")
  | .destinationUnreachable =>
      senderFault soap (some code) "No route can be determined to reach the destination role defined by the WS-Addressing To." none
  | .actionNotSupported =>
      senderFault soap (some code) "The [action] cannot be processed at the receiver." soap.action
  | .endpointUnavailable =>
      -- This branch passes the code as the fault string and the text as its detail.
      senderFault soap none code (some "The endpoint is unable to process the message at this time.")

/-- The library allocates a header only when there is none. -/
def soapHeader (allocates : Bool) (soap : Soap) : Soap :=
  match soap.header with
  | some _ => soap
  | none => if allocates then { soap with header := some SoapEnvHeader.soapDefault } else soap

def allocHeader (allocates : Bool) (state : State) : Int × State :=
  let soap := soapHeader allocates state.soap
  if soap.header.isSome then (soapOk, { state with soap })
  else (soapEom, { state with soap := { soap with error := soapEom } })

def check (state : State) : Except Fault (Int × State) := do
  let missing ←
    if state.soap.header.isNone then pure true
    else (fun header => header.wsaAction.isEmpty) <$> deref state.soap.header
  if missing then
    let (code, soap) := wsaError state.soap .messageInformationHeaderRequired
    return (code, { state with soap })
  else
    return (soapOk, state)

/-- An assignment to a header field goes through the header pointer. -/
def assignHeader (change : SoapEnvHeader → SoapEnvHeader) (state : State) : Except Fault State := do
  return { state with soap := { state.soap with header := ← assign state.soap.header change } }

/-- One of the three header fields that hold an endpoint reference. -/
structure EndpointField where
  read : SoapEnvHeader → Option WsaEndpointReferenceType
  write : Option WsaEndpointReferenceType → SoapEnvHeader → SoapEnvHeader
  read_write : ∀ value header, read (write value header) = value

def fromField : EndpointField :=
  ⟨SoapEnvHeader.wsaFrom, fun value header => { header with wsaFrom := value }, fun _ _ => rfl⟩

def replyToField : EndpointField :=
  ⟨SoapEnvHeader.wsaReplyTo, fun value header => { header with wsaReplyTo := value }, fun _ _ => rfl⟩

def faultToField : EndpointField :=
  ⟨SoapEnvHeader.wsaFaultTo, fun value header => { header with wsaFaultTo := value }, fun _ _ => rfl⟩

/-- The three builders of an endpoint allocate a default reference and write its address. -/
def storeEndpoint (field : EndpointField) (uri : String) (state : State) : Except Fault State := do
  let state ← assignHeader (field.write (some WsaEndpointReferenceType.soapDefault)) state
  let endpoint ← deref (field.read (← deref state.soap.header))
  let address ← assign endpoint.address fun address => { address with item := uri }
  assignHeader (field.write (some { endpoint with address })) state

def addFrom (sender : String) (state : State) : Except Fault (Int × State) := do
  if state.soap.header.isNone then return (soapErr, state)
  return (soapOk, ← storeEndpoint fromField sender state)

/-- These two builders skip an empty address. -/
def addOptionalEndpoint (field : EndpointField) (uri : String) (state : State) :
    Except Fault (Int × State) := do
  if state.soap.header.isNone then return (soapErr, state)
  if !uri.isEmpty then
    return (soapOk, ← storeEndpoint field uri state)
  return (soapOk, state)

def addReplyTo (replyTo : String) (state : State) : Except Fault (Int × State) :=
  addOptionalEndpoint replyToField replyTo state

def addFaultTo (faultTo : String) (state : State) : Except Fault (Int × State) :=
  addOptionalEndpoint faultToField faultTo state

def addNoReply (state : State) : Except Fault (Int × State) := addReplyTo noneUri state

def addRelatesTo (relatesTo : String) (state : State) : Except Fault (Int × State) := do
  if state.soap.header.isNone then return (soapErr, state)
  if !relatesTo.isEmpty then
    let state ← assignHeader
      (fun header => { header with wsaRelatesTo := some WsaRelationship.soapDefault }) state
    let relation ← assign (← deref state.soap.header).wsaRelatesTo
      fun relation => { relation with item := relatesTo }
    return (soapOk, ← assignHeader (fun header => { header with wsaRelatesTo := relation }) state)
  return (soapOk, state)

/-- The counter increases before each use. -/
def messageNumber (statics : Statics) : UInt32 × Statics :=
  (statics.messageNumber + 1, { statics with messageNumber := statics.messageNumber + 1 })

/-- This builder neither checks the header nor has a return statement, which C++ leaves undefined.
Its callers ignore the missing value and go on as in an unoptimised build. -/
def addAppSequence (id : Option String) (state : State) : Except Fault (Returned Int × State) := do
  let (number, statics) := messageNumber state.statics
  let sequence : WsdAppSequenceType :=
    { sequenceId := id, instanceId := statics.instanceId, messageNumber := number }
  let state ← assignHeader (fun header => { header with wsdAppSequence := some .own })
    { state with statics, sequence }
  return (.missing, state)

def request (surroundings : Surroundings) (target action : String) (state : State) :
    Except Fault (Int × State) := do
  let (code, state) := allocHeader surroundings.allocates state
  if code != 0 then return (state.soap.error, state)
  let state ← assignHeader (fun header =>
    { header with
      wsaMessageID := randUuid surroundings.randoms
      wsaTo := if target.isEmpty then anonymousUri else target
      wsaAction := action
      wsaRelatesTo := none
      wsaFrom := none
      wsaReplyTo := none
      wsaFaultTo := none }) state
  check state

/-- The record that a sequence pointer of this state designates. -/
def designated (state : State) : AppSequencePointer → WsdAppSequenceType
  | .own => state.sequence
  | .received sequence => sequence

/-- The sequence pointer of the header, if there is a header and it has one. -/
def sequencePointer (state : State) : Option AppSequencePointer :=
  state.soap.header.bind SoapEnvHeader.wsdAppSequence

/-- A message carries the record that the sequence pointer designates when it is sent. -/
def sentHeader (state : State) : Option SoapEnvHeader :=
  state.soap.header.map fun header =>
    { header with
      wsdAppSequence := header.wsdAppSequence.map fun pointer => .received (designated state pointer) }

/-- The state with another header. -/
def State.withHeader (state : State) (header : SoapEnvHeader) : State :=
  { state with soap := { state.soap with header := some header } }

/-- The state after the next number of the process has been put into the sequence record. -/
def State.numbered (state : State) (id : Option String) : State :=
  { state with
    statics := (messageNumber state.statics).2
    sequence :=
      { sequenceId := id, instanceId := state.statics.instanceId
        messageNumber := state.statics.messageNumber + 1 } }

/-- The header fields that a request leaves in place of the old ones. -/
def requestedHeader (surroundings : Surroundings) (target action : String)
    (header : SoapEnvHeader) : SoapEnvHeader :=
  { header with
    wsaMessageID := randUuid surroundings.randoms
    wsaTo := if target.isEmpty then anonymousUri else target
    wsaAction := action
    wsaRelatesTo := none
    wsaFrom := none
    wsaReplyTo := none
    wsaFaultTo := none }

@[simp] theorem withHeader_header (state : State) (header : SoapEnvHeader) :
    (state.withHeader header).soap.header = some header := rfl

@[simp] theorem withHeader_statics (state : State) (header : SoapEnvHeader) :
    (state.withHeader header).statics = state.statics := rfl

@[simp] theorem withHeader_sequence (state : State) (header : SoapEnvHeader) :
    (state.withHeader header).sequence = state.sequence := rfl

@[simp] theorem withHeader_withHeader (state : State) (first second : SoapEnvHeader) :
    (state.withHeader first).withHeader second = state.withHeader second := rfl

/-- A present header is the header of its own state. -/
theorem exists_withHeader {state : State} {header : SoapEnvHeader}
    (present : state.soap.header = some header) : state.withHeader header = state := by
  obtain ⟨⟨⟨_, error, action, fault⟩, sequence⟩, statics⟩ := state
  subst present
  rfl

@[simp] theorem assignHeader_withHeader (change : SoapEnvHeader → SoapEnvHeader) (state : State)
    (header : SoapEnvHeader) :
    assignHeader change (state.withHeader header) = .ok (state.withHeader (change header)) := rfl

theorem assignHeader_none {state : State} (change : SoapEnvHeader → SoapEnvHeader)
    (absent : state.soap.header = none) : assignHeader change state = .error .nullDereference := by
  simp [assignHeader, absent]

/-- The default reference has no address to write to. -/
theorem storeEndpoint_faults (field : EndpointField) (uri : String) (state : State) :
    storeEndpoint field uri state = .error .nullDereference := by
  cases present : state.soap.header with
  | none => simp [storeEndpoint, assignHeader_none _ present]
  | some header =>
      rw [← exists_withHeader present]
      simp [storeEndpoint, field.read_write, WsaEndpointReferenceType.soapDefault]

theorem addFrom_eq (sender : String) (state : State) :
    addFrom sender state =
      match state.soap.header with
      | none => .ok (soapErr, state)
      | some _ => .error .nullDereference := by
  cases present : state.soap.header <;> simp [addFrom, present, storeEndpoint_faults]

theorem addOptionalEndpoint_eq (field : EndpointField) (uri : String) (state : State) :
    addOptionalEndpoint field uri state =
      match state.soap.header with
      | none => .ok (soapErr, state)
      | some _ => if uri.isEmpty then .ok (soapOk, state) else .error .nullDereference := by
  cases present : state.soap.header with
  | none => simp [addOptionalEndpoint, present]
  | some header =>
      cases empty : uri.isEmpty <;> simp [addOptionalEndpoint, present, empty, storeEndpoint_faults]

theorem addRelatesTo_eq (relatesTo : String) (state : State) :
    addRelatesTo relatesTo state =
      match state.soap.header with
      | none => .ok (soapErr, state)
      | some header =>
          if relatesTo.isEmpty then .ok (soapOk, state)
          else .ok (soapOk, state.withHeader { header with wsaRelatesTo := some ⟨relatesTo, none⟩ }) := by
  cases present : state.soap.header with
  | none => simp [addRelatesTo, present]
  | some header =>
      rw [← exists_withHeader present]
      cases empty : relatesTo.isEmpty <;>
        simp [addRelatesTo, empty, WsaRelationship.soapDefault]

theorem addAppSequence_eq (id : Option String) (state : State) :
    addAppSequence id state =
      match state.soap.header with
      | none => .error .nullDereference
      | some header => .ok (.missing,
          (state.numbered id).withHeader { header with wsdAppSequence := some .own }) := by
  cases present : state.soap.header with
  | none => simp [addAppSequence, messageNumber, assignHeader, present]
  | some header =>
      rw [← exists_withHeader present]
      rfl

theorem allocHeader_withHeader (allocates : Bool) (state : State) (header : SoapEnvHeader) :
    allocHeader allocates (state.withHeader header) = (soapOk, state.withHeader header) := rfl

theorem check_withHeader (state : State) {header : SoapEnvHeader}
    (named : header.wsaAction.isEmpty = false) :
    check (state.withHeader header) = .ok (soapOk, state.withHeader header) := by
  simp only [check, withHeader_header, Option.isNone_some, Bool.false_eq_true, ↓reduceIte, deref_some,
    map_ok, named, ok_bind, pure_eq_ok]

/-- A request for a named action succeeds on a header that is there. -/
theorem request_withHeader (surroundings : Surroundings) (target : String) {action : String}
    (state : State) (header : SoapEnvHeader) (named : action.isEmpty = false) :
    request surroundings target action (state.withHeader header) =
      .ok (soapOk, state.withHeader (requestedHeader surroundings target action header)) := by
  unfold request
  rw [allocHeader_withHeader]
  exact check_withHeader state named

/-- A request without a header starts from the default one when the library allocates it. -/
theorem request_absent (surroundings : Surroundings) (target : String) {action : String}
    {state : State} (absent : state.soap.header = none) (named : action.isEmpty = false) :
    request surroundings target action state =
      if surroundings.allocates then
        .ok (soapOk, state.withHeader
          (requestedHeader surroundings target action SoapEnvHeader.soapDefault))
      else .ok (soapEom, { state with soap := { state.soap with error := soapEom } }) := by
  cases allocated : surroundings.allocates with
  | false => simp [request, allocHeader, soapHeader, absent, allocated, soapEom]
  | true =>
      have fresh : allocHeader true state =
          allocHeader true (state.withHeader SoapEnvHeader.soapDefault) := by
        simp [allocHeader, soapHeader, absent, State.withHeader]
      have onDefault := request_withHeader surroundings target state SoapEnvHeader.soapDefault named
      unfold request at onDefault ⊢
      rw [allocated] at onDefault ⊢
      rw [fresh, onDefault]
      rfl

@[simp] theorem requestedHeader_sequence (surroundings : Surroundings) (target action : String)
    (header : SoapEnvHeader) :
    (requestedHeader surroundings target action header).wsdAppSequence = header.wsdAppSequence := rfl

/-- A header is there after a request exactly when it was there or the library allocates it. -/
theorem request_ends (surroundings : Surroundings) (target : String) {action : String}
    (state : State) (named : action.isEmpty = false) :
    ∃ code next, request surroundings target action state = .ok (code, next) ∧
      next.statics = state.statics ∧ next.sequence = state.sequence ∧
      next.soap.header =
        if state.soap.header.isSome || surroundings.allocates then
          some (requestedHeader surroundings target action
            (state.soap.header.getD SoapEnvHeader.soapDefault))
        else none := by
  cases present : state.soap.header with
  | some header =>
      have requested := request_withHeader surroundings target state header named
      rw [exists_withHeader present] at requested
      exact ⟨_, _, requested, rfl, rfl, by simp⟩
  | none =>
      have requested := request_absent surroundings target present named
      cases allocated : surroundings.allocates with
      | true =>
          rw [allocated, if_pos rfl] at requested
          exact ⟨_, _, requested, rfl, rfl, by simp⟩
      | false =>
          rw [allocated, if_neg (by decide)] at requested
          exact ⟨_, _, requested, rfl, rfl, by simp [present]⟩

/-- A request keeps the old sequence pointer. -/
theorem request_sequencePointer {surroundings : Surroundings} {target action : String}
    {state next : State} {code : Int} (named : action.isEmpty = false)
    (ended : request surroundings target action state = .ok (code, next)) :
    sequencePointer next = sequencePointer state := by
  obtain ⟨_, reached, ends, -, -, header⟩ := request_ends surroundings target state named
  rw [ended, Except.ok.injEq, Prod.mk.injEq] at ends
  rw [ends.2, sequencePointer, sequencePointer, header]
  cases state.soap.header with
  | some found => simp
  | none => cases surroundings.allocates <;> simp [SoapEnvHeader.soapDefault]

end Onvifxx.Wsa
