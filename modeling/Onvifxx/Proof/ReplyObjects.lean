/-
This file proves which replies point to live objects that describe their own items.
-/

import Onvifxx.Construction.Service
import Onvifxx.Library.Run

namespace Onvifxx.Service

open Execution RemoteDiscovery Wsdd Matches Run

/-- The pointers that the constructor may set. -/
def pointers (object : RequestObject) : List (Option ObjectId) :=
  [object.scopes, object.endpointReference, object.endpointMember.address,
    object.endpointMember.portType, object.endpointMember.serviceName]

/-- Each non-null pointer designates a member of its own object. -/
def OwnPointers (self : ObjectId) (object : RequestObject) : Prop :=
  ∀ target, some target ∈ pointers object → target = self

/-- The object stored at an identity has its own pointers and reads as the item. -/
def Describes (matched : Matches) (self : ObjectId) (item : ProbeMatchT) : Prop :=
  ∃ object message, matched.memory self = some object ∧ OwnPointers self object ∧
    Codec.versionedRequest item = .ok message ∧ readMessage matched.memory object = some message

/-- The identity of the element that a reply pushed for one of its items. -/
def replyElement (before : Matches) (reply : Reply) (index : Nat) : ObjectId :=
  .element (reply.matched.vector.here (before.vector.length + index))

/-- Every stored object of a reply describes its own item. -/
def ItemsDescribed (before : Matches) (items : ProbeMatchesT) (reply : Reply) : Prop :=
  ∀ index item, items[index]? = some item → Describes reply.matched (replyElement before reply index) item

/-- Every pointer of a reply leads to the current place of its own element. -/
def PointersCurrent (before : Matches) (items : ProbeMatchesT) (reply : Reply) : Prop :=
  reply.probeMatch =
    (List.range' before.vector.length items.length).map reply.matched.vector.here

/-- A probe that replies has a handler and a header. -/
theorem serve_reply {handler : Option Handler} {surroundings : Surroundings}
    {header : Option SoapEnvHeader} {body : WsdProbeType} {state : State} {outcome : Outcome}
    {reply : Reply} (served : serve handler surroundings header (.probe body) state = .ok outcome)
    (replied : outcome.reply = some reply) :
    ∃ bound, handler = some bound ∧ header.isSome ∧
      reply.matched = (replyMatches state.matched (bound.probe (decodedProbe body))).1 ∧
      reply.probeMatch = (replyMatches state.matched (bound.probe (decodedProbe body))).2 := by
  rcases serve_probe_ok served with ⟨-, rfl⟩ | ⟨bound, found, rfl, rfl, rfl⟩
  · cases replied
  · cases replied
    exact ⟨bound, rfl, rfl, rfl, rfl⟩

/-- The reply keeps the copy of one temporary for each item. -/
theorem replyMatches_memory (before : Matches) (items : ProbeMatchesT) {index : Nat}
    {item : ProbeMatchT} (found : items[index]? = some item) :
    (replyMatches before items).1.memory
        (.element ((replyMatches before items).1.vector.here (before.vector.length + index))) =
      some (storedObject (before.temporaries + index) item) := by
  simp only [Matches.memory, GrowVector.read_here, replyMatches, GrowVector.pushAll_items,
    GrowVector.reserve_items]
  rw [GrowVector.length, List.getElem?_append_right (Nat.le_add_right _ _), Nat.add_sub_cancel_left,
    storedObjects_getElem?, found, Option.map_some]

/-- A stored copy points to its destroyed temporary as soon as it has a pointer. -/
theorem storedObject_ownPointers_iff (location : Location) (serial : Nat) (item : ProbeMatchT) :
    OwnPointers (.element location) (storedObject serial item) ↔
      item.scopes = none ∧ item.endpoint = none := by
  constructor
  · intro own
    constructor
    · cases scopes : item.scopes with
      | none => rfl
      | some _ =>
          have dangling := own (.temporary serial) (by
            simp [pointers, storedObject, requestObject, scopes])
          cases dangling
    · cases endpoint : item.endpoint with
      | none => rfl
      | some _ =>
          have dangling := own (.temporary serial) (by
            simp [pointers, storedObject, requestObject, endpoint])
          cases dangling
  · rintro ⟨noScopes, noEndpoint⟩ target member
    simp [pointers, storedObject, requestObject, noScopes, noEndpoint] at member

/-- A copy without pointers could have been built anywhere. -/
theorem storedObject_plain {item : ProbeMatchT} (noScopes : item.scopes = none)
    (noEndpoint : item.endpoint = none) (serial : Nat) (self : ObjectId) :
    storedObject serial item = { requestObject self item with metadataVersion := item.version } := by
  simp [storedObject, requestObject, noScopes, noEndpoint]

/-- A reply describes one item exactly when the item has neither scopes nor an endpoint. -/
theorem describes_iff (before : Matches) (items : ProbeMatchesT) (index : Nat) {item : ProbeMatchT}
    (found : items[index]? = some item) :
    Describes (replyMatches before items).1
        (.element ((replyMatches before items).1.vector.here (before.vector.length + index))) item ↔
      item.scopes = none ∧ item.endpoint = none := by
  have stored := replyMatches_memory before items found
  constructor
  · rintro ⟨object, message, live, own, -, -⟩
    rw [stored, Option.some.injEq] at live
    rw [← live] at own
    exact (storedObject_ownPointers_iff _ _ _).mp own
  · intro plain
    have own := (storedObject_ownPointers_iff
      ((replyMatches before items).1.vector.here (before.vector.length + index))
      (before.temporaries + index) item).mpr plain
    rw [storedObject_plain plain.1 plain.2 _ (.element _)] at stored own
    obtain ⟨message, encoded, reads⟩ := readMessage_in_place _ _ item stored
    exact ⟨_, message, stored, own, encoded, reads⟩

/-- A reply describes its items exactly when no item has scopes or an endpoint. -/
theorem itemsDescribed_iff_plain {handler : Handler} {surroundings : Surroundings}
    {header : Option SoapEnvHeader} {body : WsdProbeType} {state : State} {outcome : Outcome}
    {reply : Reply}
    (served : serve (some handler) surroundings header (.probe body) state = .ok outcome)
    (replied : outcome.reply = some reply) :
    ItemsDescribed state.matched (handler.probe (decodedProbe body)) reply ↔
      ∀ item ∈ handler.probe (decodedProbe body), item.scopes = none ∧ item.endpoint = none := by
  obtain ⟨bound, same, -, matched, -⟩ := serve_reply served replied
  cases same
  have each {index : Nat} {item : ProbeMatchT}
      (found : (handler.probe (decodedProbe body))[index]? = some item) :
      Describes reply.matched (replyElement state.matched reply index) item ↔
        item.scopes = none ∧ item.endpoint = none := by
    rw [replyElement, matched]
    exact describes_iff state.matched _ index found
  constructor
  · intro described item member
    obtain ⟨index, found⟩ := List.mem_iff_getElem?.mp member
    exact (each found).mp (described index item found)
  · intro plain index item found
    exact (each found).mpr (plain item (List.mem_of_getElem? found))

/-- A match without scopes and endpoint. -/
def plainMatch : ProbeMatchT := ⟨none, some "NetworkVideoTransmitter", none, none, 1⟩

/-- A match with scopes. -/
def scopedMatch : ProbeMatchT := { plainMatch with scopes := some ⟨"onvif://www.onvif.org/type/ptz", none⟩ }

/-- A reply with one plain match describes it. -/
theorem itemsDescribed_plainMatch :
    ∃ outcome reply, serve (some ⟨fun _ => [plainMatch]⟩) completing (some SoapEnvHeader.soapDefault)
        (.probe ⟨none, none⟩) initial = .ok outcome ∧ outcome.reply = some reply ∧
      ItemsDescribed initial.matched [plainMatch] reply := by
  have ends := serve_probe ⟨fun _ => [plainMatch]⟩ completing SoapEnvHeader.soapDefault ⟨none, none⟩
    initial
  refine ⟨_, _, ends, rfl, (itemsDescribed_iff_plain ends rfl).mpr ?_⟩
  intro item member
  rw [List.mem_singleton.mp member]
  exact ⟨rfl, rfl⟩

/-- The scopes pointer of a stored match still names the destroyed temporary. -/
theorem scopedMatch_not_described :
    ¬ ∀ (handler : Handler) (surroundings : Surroundings) (header : Option SoapEnvHeader)
        (body : WsdProbeType) (state : State) (outcome : Outcome) (reply : Reply),
      serve (some handler) surroundings header (.probe body) state = .ok outcome →
        outcome.reply = some reply →
        ItemsDescribed state.matched (handler.probe (decodedProbe body)) reply := by
  intro described
  have ends := serve_probe ⟨fun _ => [scopedMatch]⟩ completing SoapEnvHeader.soapDefault ⟨none, none⟩
    initial
  have first := described _ _ _ _ initial _ _ ends rfl 0 scopedMatch rfl
  have plain := (describes_iff initial.matched [scopedMatch] 0 rfl).mp first
  exact absurd plain.1 (by decide)

/-- One probe that a service serves. -/
structure Request where
  handler : Option Handler
  surroundings : Surroundings
  header : Option SoapEnvHeader
  body : WsdProbeType

def Request.serve (state : State) (request : Request) : Except Fault Outcome :=
  Service.serve request.handler request.surroundings request.header (.probe request.body) state

def Request.step (state : State) (request : Request) : Except Fault State :=
  Outcome.state <$> request.serve state

/-- The items that the handler of a request returns. -/
def Request.items (request : Request) : ProbeMatchesT :=
  match request.handler with
  | none => []
  | some handler => handler.probe (decodedProbe request.body)

/-- The reply of a request, if it makes one, has current pointers. -/
def Request.Current (state : State) (request : Request) : Prop :=
  ∀ outcome reply, request.serve state = .ok outcome → outcome.reply = some reply →
    PointersCurrent state.matched request.items reply

/-- A request that replies finds room for its items, or it finds the vector exactly full. -/
def Request.Roomy (state : State) (request : Request) : Prop :=
  request.handler.isSome → request.header.isSome →
    state.matched.vector.length + request.items.length ≤
        max state.matched.vector.capacity request.items.length ∨
      state.matched.vector.length = max state.matched.vector.capacity request.items.length

theorem replyMatches_current_iff (before : Matches) (items : ProbeMatchesT) :
    (replyMatches before items).2 =
        (List.range' before.vector.length items.length).map (replyMatches before items).1.vector.here ↔
      before.vector.length + items.length ≤ max before.vector.capacity items.length ∨
        before.vector.length = max before.vector.capacity items.length := by
  have current := (before.vector.reserve items.length).pushAll_current_iff
    (storedObjects before.temporaries items)
  rw [storedObjects_length, GrowVector.reserve_length, GrowVector.reserve_steady_iff] at current
  exact current

/-- The pointers of one reply are current exactly when the request finds room. -/
theorem current_iff_roomy (state : State) (request : Request) :
    request.Current state ↔ request.Roomy state := by
  obtain ⟨handler, surroundings, header, body⟩ := request
  constructor
  · intro current bound present
    obtain ⟨handler, rfl⟩ := Option.isSome_iff_exists.mp bound
    obtain ⟨header, rfl⟩ := Option.isSome_iff_exists.mp present
    have ends := serve_probe handler surroundings header body state
    exact (replyMatches_current_iff state.matched _).mp (current _ _ ends rfl)
  · intro roomy outcome reply served replied
    obtain ⟨bound, rfl, present, matched, probeMatch⟩ := serve_reply served replied
    rw [PointersCurrent, matched, probeMatch]
    exact (replyMatches_current_iff state.matched _).mpr (roomy rfl present)

/-- All replies of a run have current pointers exactly when each request finds room. -/
theorem run_current_iff_roomy (state : State) (requests : List Request) :
    Every Request.step Request.Current state requests ↔
      Every Request.step Request.Roomy state requests :=
  every_congr current_iff_roomy state requests

/-- A probe with the given number of plain matches. -/
def plainRequest (count : Nat) : Request :=
  ⟨some ⟨fun _ => List.replicate count plainMatch⟩, completing, some SoapEnvHeader.soapDefault, ⟨none, none⟩⟩

/-- After one match, a second reply with two matches moves the first of them. -/
theorem one_then_two_not_current :
    ¬ ∀ requests : List Request, Every Request.step Request.Current initial requests := by
  intro current
  have taken : Request.step initial (plainRequest 1) = .ok _ := rfl
  have second := ((every_cons taken).mp (current [plainRequest 1, plainRequest 2])).2.1
  have room := (current_iff_roomy _ (plainRequest 2)).mp second rfl rfl
  change 1 + 2 ≤ max 1 2 ∨ 1 = max 1 2 at room
  omega

end Onvifxx.Service
