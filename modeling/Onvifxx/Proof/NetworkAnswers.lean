/-
This file proves that a probe which reaches a handler does not stay without an answer.
-/

import Onvifxx.Library.Causality
import Onvifxx.Proof.NetworkSafety
import Onvifxx.Proof.NullSafety

namespace Onvifxx.Network

open Execution RemoteDiscovery Wsdd Run

variable {Site : Type}

/-- A heard probe is answered when a copy leaves, and it is refused when a copy fails. -/
def AnsweredNext (action : Action Site) : Event Site → List (Event Site) → Prop
  | .heard site service (.probe _), later =>
      ∃ position surroundings header answer found, action = .deliver position site service surroundings ∧
        later =
          (if (Service.transmit [surroundings.first, surroundings.second]).2
            then [.answered site service answer found] else []) ++
          -- The dispatcher takes this code for an answer that was sent.
          (if (Service.transmit [surroundings.first, surroundings.second]).1 = soapUserError
            then [] else [.refused site service header])
  | _, _ => True

/-- Only a heard probe calls for an answer. -/
def HeardProbe : Event Site → Prop
  | .heard _ _ (.probe _) => True
  | _ => False

theorem followed_of_quiet {action : Action Site} {events : List (Event Site)}
    (quiet : ∀ event ∈ events, ¬ HeardProbe event) : Followed (AnsweredNext action) events := by
  apply Followed.of_forall
  intro event member later
  have silent := quiet event member
  cases event with
  | heard site service call =>
      cases call with
      | hello arg => trivial
      | bye arg => trivial
      | probe arg => exact absurd trivial silent
  | said | bound | answered | refused => trivial

/-- A message that is not an answered probe leaves nothing open. -/
theorem silent_answered {action : Action Site} {site : Site} {service : Nat}
    {header : Option SoapEnvHeader} {code : Int} {state : Service.State} {called : Option HandlerCall}
    (announced : ∀ arg, called ≠ some (.probe arg)) :
    Followed (AnsweredNext action)
      (dispatchEvents site service header ⟨code, state, called, none, false⟩) := by
  apply followed_of_quiet
  intro event member heard
  rcases mem_dispatchEvents member with ⟨call, made, rfl⟩ | ⟨answer, found, rfl⟩ | rfl
  · cases call with
    | hello arg => exact heard
    | bye arg => exact heard
    | probe arg => exact announced arg made
  · exact heard
  · exact heard

/-- The events of an answered probe go as the copies of its reply do. -/
theorem dispatchEvents_probeOutcome (site : Site) (service : Nat) (bound : Handler)
    (surroundings : Service.Surroundings) (asked : SoapEnvHeader) (body : WsdProbeType)
    (state : Service.State) (header : Option SoapEnvHeader) :
    ∃ answer found, dispatchEvents site service header
        (Service.probeOutcome bound surroundings asked body state) =
      .heard site service (.probe (Service.decodedProbe body)) ::
        ((if (Service.transmit [surroundings.first, surroundings.second]).2
          then [.answered site service answer found] else []) ++
        (if (Service.transmit [surroundings.first, surroundings.second]).1 = soapUserError
          then [] else [.refused site service header])) := by
  obtain ⟨reply, replied⟩ : ∃ reply,
      (Service.probeOutcome bound surroundings asked body state).reply = some reply := ⟨_, rfl⟩
  have coded : (Service.probeOutcome bound surroundings asked body state).code =
      (Service.transmit [surroundings.first, surroundings.second]).1 := rfl
  have sent : (Service.probeOutcome bound surroundings asked body state).sent =
      (Service.transmit [surroundings.first, surroundings.second]).2 := rfl
  have failed := Service.transmit_code [surroundings.first, surroundings.second]
  refine ⟨reply.header, reply.messages, ?_⟩
  rw [dispatchEvents, replies, replied, coded, sent]
  simp only [failed, false_or]
  split <;> rfl

/-- A bound service answers its probe or refuses it, as the copies of its reply go. -/
theorem probeOutcome_answered (site : Site) (service position : Nat) (bound : Handler)
    (surroundings : Service.Surroundings) (asked : SoapEnvHeader) (body : WsdProbeType)
    (state : Service.State) (header : Option SoapEnvHeader) :
    Followed (AnsweredNext (.deliver position site service surroundings))
      (dispatchEvents site service header
        (Service.probeOutcome bound surroundings asked body state)) := by
  obtain ⟨answer, found, events⟩ :=
    dispatchEvents_probeOutcome site service bound surroundings asked body state header
  rw [events]
  refine Followed.cons ⟨position, surroundings, header, answer, found, rfl, rfl⟩ ?_
  apply followed_of_quiet
  intro event member heard
  rcases List.mem_append.mp member with answered | refused
  · split at answered
    · rw [List.mem_singleton.mp answered] at heard
      exact heard
    · cases answered
  · split at refused
    · cases refused
    · rw [List.mem_singleton.mp refused] at heard
      exact heard

/-- Whatever a service dispatches, it leaves no heard probe open. -/
theorem dispatchIncoming_answered {site : Site} {service : Nat} (position : Nat)
    {handler : Option Handler} {surroundings : Service.Surroundings} {header : Option SoapEnvHeader}
    {message : Message} {state : Service.State} {outcome : Service.Outcome}
    (served : Service.dispatchIncoming handler surroundings header message.incoming state =
      .ok outcome) :
    Followed (AnsweredNext (.deliver position site service surroundings))
      (dispatchEvents site service header outcome) := by
  rcases Service.dispatchIncoming_cases served with
    ⟨code, called, announced, rfl⟩ | ⟨bound, asked, body, -, -, -, rfl⟩
  · exact silent_answered announced
  · exact probeOutcome_answered site service position bound surroundings asked body state header

variable [DecidableEq Site]

/-- One step adds events of which each probe is answered as its own delivery goes. -/
theorem step_answered {what : Soap → String} (network : Network Site) (action : Action Site)
    (next : Network Site) (taken : step what network action = .ok next) :
    ∃ more, next.trace = network.trace ++ more ∧ Followed (AnsweredNext action) more := by
  obtain ⟨more, trace, emits⟩ := step_emits taken
  refine ⟨more, trace, ?_⟩
  cases emits with
  | quiet => exact followed_of_quiet (by simp)
  | said => exact followed_of_quiet (by simp [HeardProbe])
  | bound => exact followed_of_quiet (by simp [HeardProbe])
  | dispatched found served => exact dispatchIncoming_answered _ served

/-- Each action of a run adds its own piece to the trace, and each heard probe is answered in its piece. -/
theorem run_answeredNext (instances : Site → UInt32) (what : Soap → String)
    (actions : List (Action Site)) (final : Network Site)
    (completed : run (step what) (initial instances) actions = .ok final) :
    ∃ pieces, List.Forall₂ (fun action piece => Followed (AnsweredNext action) piece) actions pieces ∧
      final.trace = pieces.flatten ∧
      ∀ count, ∃ state, run (step what) (initial instances) (actions.take count) = .ok state ∧
        state.trace = (pieces.take count).flatten :=
  run_pieces step_answered completed

/-- One site asks twice, and the first copy of the second answer fails before anything is sent. -/
def failingActions : List (Action Bool) :=
  [.bind true 0 ⟨fun _ => 3, fun _ => true⟩ (some ⟨fun _ => [⟨none, none, none, none, 1⟩]⟩) 0,
    .probe false 1 Proxy.completing ⟨none, none⟩,
    .deliver 0 true 0 Service.completing,
    .deliver 0 true 0 ⟨⟨true, ⟨0, 0, 0, 0⟩⟩, .failed soapEom (by decide) false, .completed⟩]

theorem run_answeredNext_failing :
    ∃ final, run (step fun _ => "") (initial sampleInstances) failingActions = .ok final ∧
      ∃ pieces, List.Forall₂ (fun action piece => Followed (AnsweredNext action) piece)
          failingActions pieces ∧ final.trace = pieces.flatten ∧
        ∀ count, ∃ state,
          run (step fun _ => "") (initial sampleInstances) (failingActions.take count) = .ok state ∧
            state.trace = (pieces.take count).flatten := by
  have supplied : Every (step fun _ => "") Supplied (initial sampleInstances) failingActions :=
    every_supplied rfl
  obtain ⟨final, completed, -⟩ :=
    run_completes (step_supplied fun _ => "") (initial_headed sampleInstances) supplied
  exact ⟨final, completed, run_answeredNext sampleInstances _ failingActions final completed⟩

end Onvifxx.Network
