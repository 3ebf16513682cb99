/-
This file proves when an answer on a network tells which probe it belongs to.
-/

import Onvifxx.Proof.NetworkTrace
import Onvifxx.Proof.UuidCollision

namespace Onvifxx.Network

open Execution RemoteDiscovery Wsdd Run

variable {Site : Type}

/-- A proxy call draws the random integers of its identifier. -/
def drawn : Action Site → Option Wsa.Randoms
  | .hello _ _ surroundings _ => some surroundings.request.randoms
  | .bye _ _ surroundings _ => some surroundings.request.randoms
  | .probe _ _ surroundings _ => some surroundings.request.randoms
  | .bind _ _ _ _ _ => none
  | .deliver _ _ _ _ => none

/-- The identifier of a request that its proxy has sent with a header. -/
def requestID : Event Site → Option String
  | .said _ header _ => header.map SoapEnvHeader.wsaMessageID
  | _ => none

theorem dispatchEvents_requestID (site : Site) (service : Nat) (header : Option SoapEnvHeader)
    (outcome : Service.Outcome) :
    (dispatchEvents site service header outcome).filterMap requestID = [] := by
  rw [List.filterMap_eq_nil_iff]
  intro event member
  rcases mem_dispatchEvents member with ⟨call, -, rfl⟩ | ⟨answer, found, rfl⟩ | rfl <;> rfl

variable [DecidableEq Site]

/-- A proxy call adds at most the identifier of its own random integers. -/
theorem Said.requestID {network next : Network Site} {site : Site} {spoken : HandlerCall}
    {randoms : Wsa.Randoms} (said : Said network next site spoken randoms) :
    (next.trace.filterMap Network.requestID).Sublist
      (network.trace.filterMap Network.requestID ++ [Wsa.randUuid randoms]) := by
  obtain ⟨Body, A, proxy, message, call, rfl, -, carries, -⟩ := said
  simp only [say, List.filterMap_append]
  apply List.Sublist.append (List.Sublist.refl _)
  cases call.sent with
  | false => exact List.nil_sublist _
  | true =>
      cases present : call.envelope.header with
      | none => simp [Network.requestID]
      | some header => simp [Network.requestID, carries header present]

/-- One step adds at most the identifier that it draws. -/
theorem step_requestID {what : Soap → String} {network next : Network Site} {action : Action Site}
    (taken : step what network action = .ok next) :
    (next.trace.filterMap requestID).Sublist
      (network.trace.filterMap requestID ++ (drawn action).toList.map Wsa.randUuid) := by
  cases action with
  | hello site proxy surroundings arg => exact (hello_said taken).requestID
  | bye site proxy surroundings arg => exact (bye_said taken).requestID
  | probe site proxy surroundings arg => exact (probe_said taken).requestID
  | bind site service sockets obj port =>
      obtain rfl := Except.ok.inj taken
      simp [bind, requestID, drawn]
  | deliver position site service surroundings =>
      simp only [step] at taken
      split at taken
      · obtain rfl := Except.ok.inj taken
        simp [drawn]
      · obtain ⟨dispatched, dispatches, rfl⟩ := map_eq_ok.mp taken
        obtain ⟨outcome, -, rfl⟩ := map_eq_ok.mp dispatches
        simp [hear_trace, dispatchEvents_requestID, drawn]

/-- The requests of a run carry identifiers that it has drawn, each at most once. -/
theorem run_requestID {instances : Site → UInt32} {what : Soap → String}
    {actions : List (Action Site)} {final : Network Site}
    (completed : run (step what) (initial instances) actions = .ok final) :
    (final.trace.filterMap requestID).Sublist ((actions.filterMap drawn).map Wsa.randUuid) := by
  induction actions using List.reverseRecOn generalizing final with
  | nil =>
      cases completed
      exact List.nil_sublist _
  | append_singleton actions action ih =>
      obtain ⟨network, before, taken⟩ := run_unconcat completed
      have drawnLast : [action].filterMap drawn = (drawn action).toList := by
        cases found : drawn action <;> simp [found]
      rw [List.filterMap_append, List.map_append, drawnLast]
      exact (step_requestID taken).trans ((ih before).append_right _)

/-- Requests that do not collide have different identifiers. -/
theorem requestID_nodup {instances : Site → UInt32} {what : Soap → String}
    {actions : List (Action Site)} {final : Network Site}
    (apart : (actions.filterMap drawn).Pairwise fun first second => ¬ Wsa.Collide first second)
    (completed : run (step what) (initial instances) actions = .ok final) :
    (final.trace.filterMap requestID).Nodup := by
  apply List.Sublist.nodup (run_requestID completed)
  apply List.pairwise_map.mpr
  apply apart.imp
  intro first second distinct same
  rw [Wsa.randUuid, Wsa.randUuid, String.ofList_inj, Wsa.uuidText_collide] at same
  exact distinct same

/-- Each answer relates to one request of the whole run, and that one is a probe. -/
theorem run_relatesOnce (instances : Site → UInt32) (what : Soap → String)
    (actions : List (Action Site)) (final : Network Site)
    (apart : (actions.filterMap drawn).Pairwise fun first second => ¬ Wsa.Collide first second)
    (completed : run (step what) (initial instances) actions = .ok final)
    (site : Site) (service : Nat) (header : Option SoapEnvHeader)
    (found : List (Option WsdProbeMatchType))
    (answered : .answered site service header found ∈ final.trace) :
    ∃ sent relation source asked arg, header = some sent ∧ sent.wsaRelatesTo = some relation ∧
      final.trace.filter (fun event => requestID event = some relation.item) =
        [.said source (some asked) (.probe arg)] := by
  obtain ⟨earlier, later, split⟩ := List.append_of_mem answered
  obtain ⟨source, asked, sent, arg, handler, said, -, -, present, answers, -⟩ :=
    ((run_recorded completed).explained earlier _ later split).2
  obtain ⟨identified, number, fields⟩ := answers
  have relates : sent.wsaRelatesTo = some ⟨asked.wsaMessageID, none⟩ := by
    have relation := congrArg SoapEnvHeader.wsaRelatesTo fields
    simpa [Service.withoutMessageID, Service.expectedReply, identified] using relation
  refine ⟨sent, _, source, asked, arg, present, relates, ?_⟩
  apply filter_eq_singleton (requestID_nodup apart completed)
  · rw [split]
    exact List.mem_append_left _ said
  · rfl

/-- Two probes of one site draw different integers, and the other site answers the second one. -/
def askTwice : List (Action Bool) :=
  [.bind true 0 ⟨fun _ => 3, fun _ => true⟩ (some ⟨fun _ => [⟨none, none, none, none, 1⟩]⟩) 0,
    .probe false 0 Proxy.completing ⟨none, none⟩,
    .probe false 0 ⟨⟨true, ⟨0, 16, 0, 0⟩⟩, .completed⟩ ⟨none, none⟩,
    .deliver 1 true 0 Service.completing]

theorem askTwice_answered : ∃ final,
    run (step fun _ => "") (initial sampleInstances) askTwice = .ok final ∧
      ∃ header, final.trace[4]? = some (.answered true 0 header [some ⟨none, none, none, none, 1⟩]) :=
  ⟨_, by with_unfolding_all rfl, _, by with_unfolding_all rfl⟩

theorem run_relatesOnce_second : ∃ final,
    run (step fun _ => "") (initial sampleInstances) askTwice = .ok final ∧ ∃ header,
      .answered true 0 header [some ⟨none, none, none, none, 1⟩] ∈ final.trace ∧
      ∃ sent relation source asked arg, header = some sent ∧ sent.wsaRelatesTo = some relation ∧
        final.trace.filter (fun event => requestID event = some relation.item) =
          [.said source (some asked) (.probe arg)] := by
  obtain ⟨final, completed, header, found⟩ := askTwice_answered
  have answered := List.mem_of_getElem? found
  have apart : (askTwice.filterMap drawn).Pairwise fun first second => ¬ Wsa.Collide first second := by
    have both : askTwice.filterMap drawn = [⟨0, 0, 0, 0⟩, ⟨0, 16, 0, 0⟩] := rfl
    rw [both, List.pairwise_pair, Wsa.Collide]
    decide
  exact ⟨final, completed, header, answered,
    run_relatesOnce sampleInstances _ askTwice final apart completed true 0 header _ answered⟩

end Onvifxx.Network
