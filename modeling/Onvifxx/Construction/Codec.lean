/-
This file translates the announcement encoder and the announcement decoder.
-/

import Onvifxx.Construction.RemoteDiscovery
import Onvifxx.Construction.SoapTypes

namespace Onvifxx.Codec

open Execution RemoteDiscovery Wsdd

/-- The encoder fills a default scopes record. -/
def requestScopes (scopes : Option ScopesT) : Except Fault (Option WsdScopesType) :=
  whenSet scopes do
    return { WsdScopesType.soapDefault with
      item := (← deref scopes).item
      matchBy := (← deref scopes).matchBy }

def requestEndpoint (endpoint : Option EndpointReferenceT) :
    Except Fault (Option WsaEndpointReferenceType) :=
  whenSet endpoint do
    let source ← deref endpoint
    let address ← whenSet source.address do
      return { WsaAttributedURI.soapDefault with item := ← deref source.address }
    let portType ← whenSet source.portType do
      return { WsaAttributedQName.soapDefault with item := ← deref source.portType }
    let serviceName ← whenSet source.serviceName do
      return { WsaServiceNameType.soapDefault with
        item := (← deref source.serviceName).item
        portName := (← deref source.serviceName).portName }
    return { WsaEndpointReferenceType.soapDefault with address, portType, serviceName }

/-- The constructor of `Wsa::Request` leaves the version at its default. -/
def request {Version : Type} [Inhabited Version] (arg : ProbeMatchT) :
    Except Fault (WsdAnnouncementType Version) := do
  let scopes ← requestScopes arg.scopes
  let endpointReference ← requestEndpoint arg.endpoint
  return { WsdAnnouncementType.soapDefault with
    types := arg.types, xaddrs := arg.xaddrs, scopes, endpointReference }

/-- A `Hello` and a `ProbeMatch` carry their version as the metadata version. -/
def versionedRequest (arg : ProbeMatchT) : Except Fault (WsdAnnouncementType UInt32) := do
  let message : WsdAnnouncementType UInt32 ← request arg
  return { message with metadataVersion := arg.version }

def argScopes (scopes : Option WsdScopesType) : Except Fault (Option ScopesT) :=
  whenSet scopes do
    return { item := (← deref scopes).item, matchBy := (← deref scopes).matchBy }

def argEndpoint (reference : Option WsaEndpointReferenceType) :
    Except Fault (Option EndpointReferenceT) :=
  whenSet reference do
    let source ← deref reference
    let address ← whenSet source.address do
      return (← deref source.address).item
    let portType := none
    -- The guarded block for the port type assigns the address.
    let address ←
      if source.portType.isSome then
        some <$> (return (← deref source.portType).item)
      else
        pure address
    let serviceName ← whenSet source.serviceName do
      return ServiceName.mk (← deref source.serviceName).item (← deref source.serviceName).portName
    return { address, portType, serviceName }

/-- The constructor of `Arg` leaves the version to its caller. -/
def arg {Version : Type} (message : WsdAnnouncementType Version) (version : UInt32) :
    Except Fault ProbeMatchT := do
  let scopes ← argScopes message.scopes
  let endpoint ← argEndpoint message.endpointReference
  return { types := message.types, xaddrs := message.xaddrs, scopes, endpoint, version }

def helloArg (message : WsdHelloType) : Except Fault HelloT :=
  arg message message.metadataVersion

/-- A missing version of a `Bye` becomes zero. -/
def byeArg (message : WsdByeType) : Except Fault ByeT := do
  let version ←
    if message.metadataVersion.isSome then deref message.metadataVersion else pure 0
  arg message version

/-- The decoder of a `Probe` reads the scopes as the announcement decoder does. -/
def probeArg (message : WsdProbeType) : Except Fault ProbeT := do
  return { types := message.types, scopes := ← argScopes message.scopes }

def wsdScopes (scopes : ScopesT) : WsdScopesType := ⟨scopes.item, scopes.matchBy⟩

def wsaServiceName (service : ServiceName) : WsaServiceNameType := ⟨service.item, service.portName⟩

def wsaEndpoint (endpoint : EndpointReferenceT) : WsaEndpointReferenceType :=
  ⟨endpoint.address.map WsaAttributedURI.mk, endpoint.portType.map WsaAttributedQName.mk,
    endpoint.serviceName.map wsaServiceName⟩

def scopesT (scopes : WsdScopesType) : ScopesT := ⟨scopes.item, scopes.matchBy⟩

def serviceNameT (service : WsaServiceNameType) : ServiceName := ⟨service.item, service.portName⟩

/-- A present port type takes the place of the address. -/
def endpointT (reference : WsaEndpointReferenceType) : EndpointReferenceT where
  address := (reference.portType.map WsaAttributedQName.item).or
    (reference.address.map WsaAttributedURI.item)
  portType := none
  serviceName := reference.serviceName.map serviceNameT

theorem requestScopes_eq (scopes : Option ScopesT) :
    requestScopes scopes = .ok (scopes.map wsdScopes) := by
  apply whenSet_eq_map
  rintro source rfl
  rfl

theorem requestEndpoint_eq (endpoint : Option EndpointReferenceT) :
    requestEndpoint endpoint = .ok (endpoint.map wsaEndpoint) := by
  apply whenSet_eq_map
  rintro ⟨address, portType, serviceName⟩ rfl
  cases address <;> cases portType <;> cases serviceName <;> rfl

theorem request_eq {Version : Type} [Inhabited Version] (arg : ProbeMatchT) :
    (request arg : Except Fault (WsdAnnouncementType Version)) = .ok
      { endpointReference := arg.endpoint.map wsaEndpoint, types := arg.types
        scopes := arg.scopes.map wsdScopes, xaddrs := arg.xaddrs, metadataVersion := default } := by
  simp only [request, requestScopes_eq, requestEndpoint_eq, ok_bind]
  rfl

/-- The encoder meets no null pointer. -/
theorem versionedRequest_eq (arg : ProbeMatchT) :
    versionedRequest arg = .ok
      { endpointReference := arg.endpoint.map wsaEndpoint, types := arg.types
        scopes := arg.scopes.map wsdScopes, xaddrs := arg.xaddrs, metadataVersion := arg.version } := by
  simp only [versionedRequest, request_eq, ok_bind]
  rfl

theorem argScopes_eq (scopes : Option WsdScopesType) :
    argScopes scopes = .ok (scopes.map scopesT) := by
  apply whenSet_eq_map
  rintro source rfl
  rfl

theorem argEndpoint_eq (reference : Option WsaEndpointReferenceType) :
    argEndpoint reference = .ok (reference.map endpointT) := by
  apply whenSet_eq_map
  rintro ⟨address, portType, serviceName⟩ rfl
  cases address <;> cases portType <;> cases serviceName <;> rfl

/-- The decoder meets no null pointer. -/
theorem arg_eq {Version : Type} (message : WsdAnnouncementType Version) (version : UInt32) :
    arg message version = .ok
      { endpoint := message.endpointReference.map endpointT, types := message.types
        scopes := message.scopes.map scopesT, xaddrs := message.xaddrs, version := version } := by
  simp only [arg, argScopes_eq, argEndpoint_eq, ok_bind]
  rfl

theorem byeArg_eq (message : WsdByeType) :
    byeArg message = arg message (message.metadataVersion.getD 0) := by
  cases version : message.metadataVersion <;> simp [byeArg, version]

theorem probeArg_eq (message : WsdProbeType) :
    probeArg message = .ok { types := message.types, scopes := message.scopes.map scopesT } := by
  simp only [probeArg, argScopes_eq, ok_bind]
  rfl

end Onvifxx.Codec
