/-
This file proves which announcements the codec carries without loss.
-/

import Onvifxx.Construction.Codec

namespace Onvifxx.Codec

open Execution RemoteDiscovery Wsdd

@[simp] theorem scopesT_wsdScopes (scopes : ScopesT) : scopesT (wsdScopes scopes) = scopes := rfl

@[simp] theorem wsdScopes_scopesT (scopes : WsdScopesType) : wsdScopes (scopesT scopes) = scopes := rfl

@[simp] theorem serviceNameT_wsaServiceName (service : ServiceName) :
    serviceNameT (wsaServiceName service) = service := rfl

@[simp] theorem wsaServiceName_serviceNameT (service : WsaServiceNameType) :
    wsaServiceName (serviceNameT service) = service := rfl

/-- The endpoint survives exactly when it has no port type. -/
theorem endpointT_wsaEndpoint_iff (endpoint : EndpointReferenceT) :
    endpointT (wsaEndpoint endpoint) = endpoint ↔ endpoint.portType = none := by
  obtain ⟨address, portType, serviceName⟩ := endpoint
  cases portType with
  | some port => simp [endpointT, wsaEndpoint]
  | none => simp [endpointT, wsaEndpoint, Option.map_map, Function.comp_def]

theorem wsaEndpoint_endpointT_iff (reference : WsaEndpointReferenceType) :
    wsaEndpoint (endpointT reference) = reference ↔ reference.portType = none := by
  obtain ⟨address, portType, serviceName⟩ := reference
  cases portType with
  | some port => simp [endpointT, wsaEndpoint]
  | none => simp [endpointT, wsaEndpoint, Option.map_map, Function.comp_def]

/-- A map over an optional part is the identity when it is one at the part. -/
theorem optionMap_eq_self_iff {A : Type} (change : A → A) (part : Option A) :
    part.map change = part ↔ ∀ value, part = some value → change value = value := by
  cases part with
  | none => simp
  | some value => simp

/-- The decoder of an encoded announcement changes only its endpoint. -/
theorem versionedRequest_helloArg (announcement : HelloT) :
    versionedRequest announcement >>= helloArg = .ok
      { announcement with endpoint := announcement.endpoint.map (endpointT ∘ wsaEndpoint) } := by
  obtain ⟨endpoint, types, scopes, xaddrs, version⟩ := announcement
  rw [versionedRequest_eq, ok_bind, helloArg, arg_eq]
  simp [Option.map_map, Function.comp_def]

/-- The encoder of a decoded message changes only its endpoint reference. -/
theorem helloArg_versionedRequest (message : WsdHelloType) :
    helloArg message >>= versionedRequest = .ok
      { message with
        endpointReference := message.endpointReference.map (wsaEndpoint ∘ endpointT) } := by
  obtain ⟨reference, types, scopes, xaddrs, version⟩ := message
  rw [helloArg, arg_eq, ok_bind, versionedRequest_eq]
  simp [Option.map_map, Function.comp_def]

/-- Both directions of the codec lose nothing exactly when there is no port type. -/
theorem roundTrip_iff_portType_none (announcement : HelloT) (message : WsdHelloType) :
    (versionedRequest announcement >>= helloArg = .ok announcement ↔
      ∀ endpoint, announcement.endpoint = some endpoint → endpoint.portType = none) ∧
    (helloArg message >>= versionedRequest = .ok message ↔
      ∀ reference, message.endpointReference = some reference → reference.portType = none) := by
  constructor
  · have part : versionedRequest announcement >>= helloArg = .ok announcement ↔
        announcement.endpoint.map (endpointT ∘ wsaEndpoint) = announcement.endpoint := by
      rw [versionedRequest_helloArg]
      cases announcement
      simp
    rw [part, optionMap_eq_self_iff]
    simp only [Function.comp_apply, endpointT_wsaEndpoint_iff]
  · have part : helloArg message >>= versionedRequest = .ok message ↔
        message.endpointReference.map (wsaEndpoint ∘ endpointT) = message.endpointReference := by
      rw [helloArg_versionedRequest]
      cases message
      simp
    rw [part, optionMap_eq_self_iff]
    simp only [Function.comp_apply, wsaEndpoint_endpointT_iff]

/-- A port type next to an address overwrites the address on the receiving side. -/
theorem roundTrip_loses_portType :
    ¬ ((∀ announcement : HelloT, versionedRequest announcement >>= helloArg = .ok announcement) ∧
      ∀ message : WsdHelloType, helloArg message >>= versionedRequest = .ok message) := by
  intro lossless
  have kept := lossless.1
    { endpoint := some { address := some "urn:uuid:05f1b46c", portType := some "dn:Device", serviceName := none }
      types := none, scopes := none, xaddrs := none, version := 1 }
  rw [versionedRequest_helloArg] at kept
  simp [endpointT, wsaEndpoint] at kept

end Onvifxx.Codec
