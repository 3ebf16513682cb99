/-
This file compares a probe through a proxy and a service with a local one.
-/

import Onvifxx.Construction.Proxy
import Onvifxx.Proof.RoundTrip

namespace Onvifxx.Proxy

open Execution RemoteDiscovery Wsdd Codec

/-- A lossless transport hands each envelope that leaves the proxy to the service. -/
structure Link where
  proxySurroundings : Surroundings
  proxyState : Wsa.State
  serviceSurroundings : Service.Surroundings
  serviceState : Service.State

/-- The handler receives the probe, and the proxy throws or returns the handler's matches. -/
def RemoteIsLocal (link : Link) (handler : Handler) (arg : ProbeT) : Prop :=
  ∃ call outcome, probe link.proxySurroundings arg link.proxyState = .ok call ∧ call.sent = true ∧
    Service.serve (some handler) link.serviceSurroundings call.envelope.header
      (.probe call.envelope.body) link.serviceState = .ok outcome ∧
    outcome.called = some (.probe arg) ∧
    (call.ending = .throws ∨ call.ending = .ends (.value (handler.probe arg)))

/-- The stub reports an error although its message has left. -/
def FailsAfterSending (stub : Service.Transmission) : Prop :=
  ∃ error nonzero, stub = .failed error nonzero true

/-- The proxy has a header already, or the library allocates it. -/
def HasHeader (link : Link) : Prop :=
  link.proxyState.soap.header.isSome ∨ link.proxySurroundings.request.allocates

/-- The service decodes the probe that the proxy encoded. -/
theorem decodedProbe_encoded (arg : ProbeT) :
    Service.decodedProbe ⟨arg.types, arg.scopes.map wsdScopes⟩ = arg := by
  obtain ⟨types, scopes⟩ := arg
  simp [Service.decodedProbe, Option.map_map, Function.comp_def]

/-- The handler receives the probe exactly when the proxy sends a header. -/
theorem called_iff_header (surroundings : Service.Surroundings) (state : Service.State)
    (handler : Handler) (arg : ProbeT) (header : Option SoapEnvHeader) :
    (∃ outcome, Service.serve (some handler) surroundings header
        (.probe ⟨arg.types, arg.scopes.map wsdScopes⟩) state = .ok outcome ∧
      outcome.called = some (.probe arg)) ↔ header.isSome := by
  cases header with
  | none =>
      simp [Service.serve_probe_absent]
  | some header =>
      refine iff_of_true ⟨_, Service.serve_probe handler surroundings header _ state, ?_⟩ rfl
      rw [Service.probeOutcome, decodedProbe_encoded]

/-- A call that sends its message throws exactly when its stub fails, and it never returns. -/
theorem finish_missing_iff (stub : Service.Transmission) (state : Wsa.State) (body : WsdProbeType)
    (expected : ProbeMatchesT) :
    ((finish stub state body (.missing : Returned ProbeMatchesT)).sent = true ∧
      ((finish stub state body (.missing : Returned ProbeMatchesT)).ending = .throws ∨
        (finish stub state body .missing).ending = .ends (.value expected))) ↔
      FailsAfterSending stub := by
  cases stub with
  | completed => simp [finish, FailsAfterSending]
  | failed error nonzero sent => simp [finish, FailsAfterSending, nonzero]

/-- A remote probe equals a local one exactly when it throws after sending a header. -/
theorem remoteIsLocal_iff (link : Link) (handler : Handler) (arg : ProbeT) :
    RemoteIsLocal link handler arg ↔
      FailsAfterSending link.proxySurroundings.stub ∧ HasHeader link := by
  obtain ⟨next, ends, -, -, -, header⟩ := probe_ends link.proxySurroundings arg link.proxyState
  have sentIffHeader : (Wsa.sentHeader next).isSome ↔ HasHeader link := by
    rw [Wsa.sentHeader, Option.isSome_map]
    exact header
  constructor
  · rintro ⟨call, outcome, called, sent, served, received, ending⟩
    rw [ends, Except.ok.injEq] at called
    subst call
    rw [finish_envelope] at served
    exact ⟨(finish_missing_iff _ _ _ _).mp ⟨sent, ending⟩,
      sentIffHeader.mp ((called_iff_header _ _ _ _ _).mp ⟨outcome, served, received⟩)⟩
  · rintro ⟨fails, hasHeader⟩
    obtain ⟨sent, ending⟩ := (finish_missing_iff link.proxySurroundings.stub next
      ⟨arg.types, arg.scopes.map wsdScopes⟩ (handler.probe arg)).mpr fails
    obtain ⟨outcome, served, received⟩ := (called_iff_header link.serviceSurroundings
      link.serviceState handler arg _).mpr (sentIffHeader.mpr hasHeader)
    refine ⟨_, outcome, ends, sent, ?_, received, ending⟩
    rw [finish_envelope]
    exact served

/-- A probe whose stub succeeds leaves its body without a value. -/
theorem completed_probe_not_local :
    ¬ ∀ (link : Link) (handler : Handler) (arg : ProbeT), RemoteIsLocal link handler arg := by
  intro remote
  obtain ⟨call, -, called, sent, -, -, ending⟩ := remote
    ⟨completing, ⟨Wsa.Object.initial, ⟨7, 0⟩⟩, Service.completing, Service.initial⟩
    ⟨fun _ => []⟩ ⟨none, none⟩
  obtain ⟨next, ends, -⟩ := probe_ends completing ⟨none, none⟩ ⟨Wsa.Object.initial, ⟨7, 0⟩⟩
  rw [ends, Except.ok.injEq] at called
  subst call
  obtain ⟨error, nonzero, impossible⟩ := (finish_missing_iff _ _ _ _).mp ⟨sent, ending⟩
  cases impossible

end Onvifxx.Proxy
