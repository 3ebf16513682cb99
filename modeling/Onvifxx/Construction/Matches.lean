/-
This file translates the request objects and the vector that keeps them for a reply.
-/

import Onvifxx.Library.GrowVector
import Onvifxx.Construction.Codec

namespace Onvifxx.Matches

open Execution RemoteDiscovery Wsdd Codec

/-- A request object is a temporary or an element of the vector. -/
inductive ObjectId where
  | temporary (serial : Nat)
  | element (location : Location)
  deriving DecidableEq, Repr

/-- The endpoint member points to members of a request object. -/
structure EndpointMember where
  address : Option ObjectId
  portType : Option ObjectId
  serviceName : Option ObjectId
  deriving DecidableEq, Repr

/-- A pointer to a member names the object that the member belongs to. -/
structure RequestObject where
  types : Option String
  xaddrs : Option String
  scopes : Option ObjectId
  endpointReference : Option ObjectId
  metadataVersion : UInt32
  scopesMember : WsdScopesType
  endpointMember : EndpointMember
  addressMember : WsaAttributedURI
  portMember : WsaAttributedQName
  serviceMember : WsaServiceNameType
  deriving DecidableEq, Repr

def RequestObject.soapDefault : RequestObject where
  types := none
  xaddrs := none
  scopes := none
  endpointReference := none
  metadataVersion := 0
  scopesMember := WsdScopesType.soapDefault
  endpointMember := ⟨none, none, none⟩
  addressMember := WsaAttributedURI.soapDefault
  portMember := WsaAttributedQName.soapDefault
  serviceMember := WsaServiceNameType.soapDefault

def constructEndpoint (self : ObjectId) (endpoint : EndpointReferenceT) (object : RequestObject) :
    Except Fault RequestObject := do
  let object := { object with
    endpointReference := some self, endpointMember := ⟨none, none, none⟩ }
  let object ←
    if endpoint.address.isSome then do
      let address ← deref endpoint.address
      pure { object with
        endpointMember := { object.endpointMember with address := some self }
        addressMember := { WsaAttributedURI.soapDefault with item := address } }
    else pure object
  let object ←
    if endpoint.portType.isSome then do
      let portType ← deref endpoint.portType
      pure { object with
        endpointMember := { object.endpointMember with portType := some self }
        portMember := { WsaAttributedQName.soapDefault with item := portType } }
    else pure object
  if endpoint.serviceName.isSome then do
    let serviceName ← deref endpoint.serviceName
    pure { object with
      endpointMember := { object.endpointMember with serviceName := some self }
      serviceMember := { WsaServiceNameType.soapDefault with
        item := serviceName.item, portName := serviceName.portName } }
  else pure object

/-- The constructor stores the identity of its own object in each pointer that it sets. -/
def construct (self : ObjectId) (arg : ProbeMatchT) : Except Fault RequestObject := do
  let object := { RequestObject.soapDefault with types := arg.types, xaddrs := arg.xaddrs }
  let object ←
    if arg.scopes.isSome then do
      let scopes ← deref arg.scopes
      pure { object with
        scopes := some self
        scopesMember := { WsdScopesType.soapDefault with
          item := scopes.item, matchBy := scopes.matchBy } }
    else pure object
  if arg.endpoint.isSome then do
    constructEndpoint self (← deref arg.endpoint) object
  else pure object

end Onvifxx.Matches

namespace Onvifxx

open Execution RemoteDiscovery Wsdd Matches

/-- The vector of a service outlives its requests, and each temporary takes a fresh serial. -/
structure Matches where
  vector : GrowVector RequestObject
  temporaries : Nat

namespace Matches

def initial : Matches := ⟨GrowVector.empty, 0⟩

/-- The copy of a temporary keeps its pointers, and the temporary is destroyed after the push. -/
def pushBack (matched : Matches) (item : ProbeMatchT) : Except Fault Matches := do
  let temporary ← construct (.temporary matched.temporaries) item
  return ⟨matched.vector.push temporary, matched.temporaries + 1⟩

/-- The reply loop pushes each item, sets its version and records its location. -/
def fill : Matches → ProbeMatchesT → Except Fault (Matches × List Location)
  | matched, [] => .ok (matched, [])
  | matched, item :: rest => do
      let pushed ← matched.pushBack item
      let versioned := { pushed with
        vector := pushed.vector.modifyBack fun object =>
          { object with metadataVersion := item.version } }
      let tail ← fill versioned rest
      return (tail.1, versioned.vector.back :: tail.2)

/-- The objects that are alive while no temporary is. -/
def memory (matched : Matches) : ObjectId → Option RequestObject
  | .temporary _ => none
  | .element location => matched.vector.read location

/-- A pointer is null, or it leads to a member of a live object, or it dangles. -/
def follow {A : Type} (memory : ObjectId → Option RequestObject) (pointer : Option ObjectId)
    (member : RequestObject → Option A) : Option (Option A) :=
  match pointer with
  | none => some none
  | some target => (memory target).bind fun object => (member object).map some

def readEndpoint (memory : ObjectId → Option RequestObject) (endpoint : EndpointMember) :
    Option WsaEndpointReferenceType := do
  let address ← follow memory endpoint.address fun object => some object.addressMember
  let portType ← follow memory endpoint.portType fun object => some object.portMember
  let serviceName ← follow memory endpoint.serviceName fun object => some object.serviceMember
  return { address, portType, serviceName }

/-- A serialiser reads a stored object through its pointers. -/
def readMessage (memory : ObjectId → Option RequestObject) (object : RequestObject) :
    Option WsdProbeMatchType := do
  let scopes ← follow memory object.scopes fun target => some target.scopesMember
  let endpointReference ← follow memory object.endpointReference fun target =>
    readEndpoint memory target.endpointMember
  return { endpointReference, types := object.types, scopes, xaddrs := object.xaddrs
           metadataVersion := object.metadataVersion }

/-- The object that the constructor builds at the given identity. -/
def requestObject (self : ObjectId) (arg : ProbeMatchT) : RequestObject where
  types := arg.types
  xaddrs := arg.xaddrs
  scopes := arg.scopes.map fun _ => self
  endpointReference := arg.endpoint.map fun _ => self
  metadataVersion := 0
  scopesMember := (arg.scopes.map Codec.wsdScopes).getD WsdScopesType.soapDefault
  endpointMember :=
    { address := (arg.endpoint.bind EndpointReferenceT.address).map fun _ => self
      portType := (arg.endpoint.bind EndpointReferenceT.portType).map fun _ => self
      serviceName := (arg.endpoint.bind EndpointReferenceT.serviceName).map fun _ => self }
  addressMember := ((arg.endpoint.bind EndpointReferenceT.address).map WsaAttributedURI.mk).getD
    WsaAttributedURI.soapDefault
  portMember := ((arg.endpoint.bind EndpointReferenceT.portType).map WsaAttributedQName.mk).getD
    WsaAttributedQName.soapDefault
  serviceMember := ((arg.endpoint.bind EndpointReferenceT.serviceName).map Codec.wsaServiceName).getD
    WsaServiceNameType.soapDefault

/-- The constructor meets no null pointer. -/
theorem construct_eq (self : ObjectId) (arg : ProbeMatchT) :
    construct self arg = .ok (requestObject self arg) := by
  obtain ⟨endpoint, types, scopes, xaddrs, version⟩ := arg
  cases endpoint with
  | none => cases scopes <;> rfl
  | some endpoint =>
      obtain ⟨address, portType, serviceName⟩ := endpoint
      cases scopes <;> cases address <;> cases portType <;> cases serviceName <;> rfl

/-- The loop stores this copy of a temporary. -/
def storedObject (serial : Nat) (item : ProbeMatchT) : RequestObject :=
  { requestObject (.temporary serial) item with metadataVersion := item.version }

def storedObjects : Nat → ProbeMatchesT → List RequestObject
  | _, [] => []
  | serial, item :: rest => storedObject serial item :: storedObjects (serial + 1) rest

@[simp] theorem storedObjects_length (serial : Nat) (items : ProbeMatchesT) :
    (storedObjects serial items).length = items.length := by
  induction items generalizing serial with
  | nil => rfl
  | cons item rest ih => simp [storedObjects, ih]

theorem storedObjects_getElem? (serial index : Nat) (items : ProbeMatchesT) :
    (storedObjects serial items)[index]? = items[index]?.map (storedObject (serial + index)) := by
  induction items generalizing serial index with
  | nil => rfl
  | cons item rest ih =>
      cases index with
      | zero => rfl
      | succ index => simp [storedObjects, ih, Nat.add_assoc, Nat.add_comm 1]

/-- The reply loop is a loop of pushes on the vector. -/
theorem fill_eq (matched : Matches) (items : ProbeMatchesT) :
    matched.fill items = .ok
      (⟨(matched.vector.pushAll (storedObjects matched.temporaries items)).1,
        matched.temporaries + items.length⟩,
        (matched.vector.pushAll (storedObjects matched.temporaries items)).2) := by
  induction items generalizing matched with
  | nil => rfl
  | cons item rest ih =>
      have pushed : matched.pushBack item = .ok
          ⟨matched.vector.push (requestObject (.temporary matched.temporaries) item),
            matched.temporaries + 1⟩ := by
        rw [pushBack, construct_eq]
        rfl
      rw [fill, pushed, ok_bind]
      dsimp only
      rw [GrowVector.modifyBack_push, ih]
      simp only [storedObjects, GrowVector.pushAll_cons, List.length_cons, ok_bind, pure_eq_ok,
        Nat.add_assoc, Nat.add_comm 1]
      rfl

/-- A request object that stays where it was built reads as the encoded announcement. -/
theorem readMessage_in_place (memory : ObjectId → Option RequestObject) (self : ObjectId)
    (arg : ProbeMatchT)
    (live : memory self = some { requestObject self arg with metadataVersion := arg.version }) :
    ∃ message, Codec.versionedRequest arg = .ok message ∧
      readMessage memory { requestObject self arg with metadataVersion := arg.version } =
        some message := by
  refine ⟨_, Codec.versionedRequest_eq arg, ?_⟩
  obtain ⟨endpoint, types, scopes, xaddrs, version⟩ := arg
  cases endpoint with
  | none => cases scopes <;> simp [readMessage, follow, live, requestObject]
  | some endpoint =>
      obtain ⟨address, portType, serviceName⟩ := endpoint
      cases scopes <;> cases address <;> cases portType <;> cases serviceName <;>
        simp [readMessage, readEndpoint, follow, live, requestObject, Codec.wsaEndpoint]

end Matches
end Onvifxx
