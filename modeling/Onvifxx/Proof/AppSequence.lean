/-
This file proves when the message numbers of a process are never reused.
-/

import Onvifxx.Construction.System
import Onvifxx.Library.SerialLog

namespace Onvifxx.System

open Execution RemoteDiscovery Wsdd Run

/-- No two messages share their pair of numbers, and the message numbers grow. -/
def NeverReused (numbers : List WsdAppSequenceType) : Prop :=
  numbers.Pairwise fun earlier later =>
    (earlier.instanceId, earlier.messageNumber) ≠ (later.instanceId, later.messageNumber) ∧
      earlier.messageNumber < later.messageNumber

/-- The counter has a number left. -/
def HasNumber (statics : Wsa.Statics) : Prop := statics.messageNumber.toNat + 1 < 2 ^ 32

/-- A call is fresh when its number is left, or when a probe has no old sequence in its header. -/
def Fresh (system : System) : Call → Prop
  | .hello _ _ _ => HasNumber system.statics
  | .bye _ _ _ => HasNumber system.statics
  | .probe proxy _ _ => Wsa.sequencePointer (system.proxyState proxy) = none
  | .reply _ handler _ _ _ => handler.isSome → HasNumber system.statics

/-- The process as an issuer of serial numbers. -/
def serialLog (system : System) : SerialLog :=
  ⟨system.statics.messageNumber.toNat, system.numbers.map fun sequence => sequence.messageNumber.toNat⟩

theorem next_toNat {statics : Wsa.Statics} (left : HasNumber statics) :
    (statics.messageNumber + 1).toNat = statics.messageNumber.toNat + 1 := by
  have small : statics.messageNumber.toNat + 1 < 2 ^ 32 := left
  rw [UInt32.toNat_add]
  exact Nat.mod_eq_of_lt small

/-- A step that takes the next number publishes that number or nothing. -/
theorem serialLog_step_numbered {system next : System} {headers : List (Option SoapEnvHeader)}
    (left : HasNumber system.statics)
    (statics : next.statics.messageNumber = system.statics.messageNumber + 1)
    (sent : next.sent = system.sent ++ headers)
    (carried : headers = [] ∨ ∃ header sequence, headers = [header] ∧
      appSequence header = some sequence ∧
      sequence.messageNumber = system.statics.messageNumber + 1) :
    SerialLog.Step system.serialLog next.serialLog := by
  have last : next.statics.messageNumber.toNat = system.statics.messageNumber.toNat + 1 := by
    rw [statics, next_toNat left]
  rcases carried with none | ⟨header, sequence, one, found, number⟩
  · have same : next.numbers = system.numbers := by simp [numbers, sent, none]
    rw [serialLog, serialLog, same, last]
    exact SerialLog.Step.draw _ _
  · have more : next.numbers = system.numbers ++ [sequence] := by simp [numbers, sent, one, found]
    have new : sequence.messageNumber.toNat = system.statics.messageNumber.toNat + 1 := by
      rw [number, next_toNat left]
    rw [serialLog, serialLog, more, last, List.map_append, List.map_singleton, new]
    exact SerialLog.Step.publish _ _

/-- A step whose messages carry no number is quiet. -/
theorem serialLog_step_quiet {system next : System} (headers : List (Option SoapEnvHeader))
    (statics : next.statics = system.statics) (sent : next.sent = system.sent ++ headers)
    (bare : ∀ header ∈ headers, appSequence header = none) :
    SerialLog.Step system.serialLog next.serialLog := by
  have same : next.numbers = system.numbers := by
    have nothing : headers.filterMap appSequence = [] := List.filterMap_eq_nil_iff.mpr bare
    simp [numbers, sent, nothing]
  rw [serialLog, serialLog, same, statics]
  exact SerialLog.Step.quiet _

/-- Both announcements refine a step of the issuer. -/
theorem announce_refines {Body A : Type} {system : System} {proxy : Nat}
    {surroundings : Wsa.Surroundings} {action : String} {state : Wsa.State} {body : Body}
    {stub : Service.Transmission} {result : Execution.Returned A} (left : HasNumber system.statics)
    (named : action.isEmpty = false)
    (ended : Proxy.announceHeader surroundings action (system.proxyState proxy) = .ok state) :
    SerialLog.Step system.serialLog
      (system.afterCall proxy (Proxy.finish stub state body result)).serialLog := by
  obtain ⟨header, present, own, statics, sequence⟩ := Proxy.announceHeader_ends named ended
  apply serialLog_step_numbered left _ rfl
  · rw [Proxy.finish_envelope]
    cases sent : (Proxy.finish stub state body result).sent with
    | false => exact Or.inl rfl
    | true =>
        refine Or.inr ⟨_, state.sequence, rfl, ?_, ?_⟩
        · simp [appSequence_sentHeader, Wsa.sequencePointer, Wsa.designated, present, own]
        · rw [sequence]
          rfl
  · simp [afterCall, Proxy.finish_state, statics, Wsa.messageNumber, proxyState]

theorem probe_refines {system next : System} {proxy : Nat} {surroundings : Proxy.Surroundings}
    {arg : ProbeT} (fresh : Fresh system (.probe proxy surroundings arg))
    (taken : system.step (.probe proxy surroundings arg) = .ok next) :
    SerialLog.Step system.serialLog next.serialLog := by
  obtain ⟨state, ends, statics, -, pointer, -⟩ :=
    Proxy.probe_ends surroundings arg (system.proxyState proxy)
  simp only [step, ends, map_ok, Except.ok.injEq] at taken
  subst next
  have bare : appSequence (Wsa.sentHeader state) = none := by
    have empty : Wsa.sequencePointer (system.proxyState proxy) = none := fresh
    rw [appSequence_sentHeader, pointer, empty, Option.map_none]
  apply serialLog_step_quiet _ _ rfl
  · intro sent member
    rw [Proxy.finish_envelope] at member
    split at member
    · rw [List.mem_singleton.mp member]
      exact bare
    · simp at member
  · simp only [afterCall, Proxy.finish_state, statics]
    rfl

theorem reply_refines {system next : System} {service : Nat} {handler : Option Handler}
    {surroundings : Service.Surroundings} {header : Option SoapEnvHeader} {body : WsdProbeType}
    (fresh : Fresh system (.reply service handler surroundings header body))
    (taken : system.step (.reply service handler surroundings header body) = .ok next) :
    SerialLog.Step system.serialLog next.serialLog := by
  obtain ⟨outcome, served, rfl⟩ := map_eq_ok.mp taken
  rcases Service.serve_probe_ok served with ⟨rfl, rfl⟩ | ⟨bound, found, rfl, rfl, rfl⟩
  · exact serialLog_step_quiet [] rfl rfl (by simp)
  · have left : HasNumber system.statics := fresh rfl
    apply serialLog_step_numbered left _ rfl
    · cases sent :
          (Service.probeOutcome bound surroundings found body (system.serviceState service)).sent with
      | false => exact Or.inl rfl
      | true => exact Or.inr ⟨_, _, rfl, rfl, rfl⟩
    · rfl

/-- Each fresh call refines a step of the issuer. -/
theorem step_refines (system : System) (call : Call) (next : System) (fresh : Fresh system call)
    (taken : system.step call = .ok next) : SerialLog.Step system.serialLog next.serialLog := by
  cases call with
  | hello proxy surroundings arg =>
      obtain ⟨call, ended, rfl⟩ := map_eq_ok.mp taken
      obtain ⟨state, body, announced, rfl⟩ := Proxy.hello_ok ended
      exact announce_refines fresh (by decide) announced
  | bye proxy surroundings arg =>
      obtain ⟨call, ended, rfl⟩ := map_eq_ok.mp taken
      obtain ⟨state, body, announced, rfl⟩ := Proxy.bye_ok ended
      exact announce_refines fresh (by decide) announced
  | probe proxy surroundings arg => exact probe_refines fresh taken
  | reply service handler surroundings header body => exact reply_refines fresh taken

/-- Growing message numbers make every pair different. -/
theorem neverReused_of_grows {numbers : List WsdAppSequenceType}
    (grows : (numbers.map fun sequence => sequence.messageNumber.toNat).Pairwise (· < ·)) :
    NeverReused numbers := by
  apply (List.pairwise_map.mp grows).imp
  intro earlier later less
  refine ⟨fun same => ?_, UInt32.lt_iff_toNat_lt.mpr less⟩
  rw [(Prod.mk.inj same).2] at less
  exact Nat.lt_irrefl _ less

/-- A run of fresh calls never reuses a number. -/
theorem run_neverReused (instanceId : UInt32) (calls : List Call) (final : System)
    (fresh : Every step Fresh (initial instanceId) calls)
    (completed : run step (initial instanceId) calls = .ok final) : NeverReused final.numbers := by
  have reaches := run_refines serialLog step_refines fresh completed
  have ordered := SerialLog.ordered_of_reaches reaches (SerialLog.ordered_nil 0)
  exact neverReused_of_grows ordered.grows

/-- A `Hello` and a `Bye` of two proxies take the first two numbers. -/
theorem run_neverReused_hello_bye : NeverReused [⟨7, none, 1⟩, ⟨7, none, 2⟩] := by
  have first : HasNumber ⟨7, 0⟩ := by unfold HasNumber; decide
  have second : HasNumber ⟨7, 1⟩ := by unfold HasNumber; decide
  exact run_neverReused 7 [.hello 0 Proxy.completing ⟨none, none, none, none, 1⟩,
    .bye 1 Proxy.completing ⟨none, none, none, none, 1⟩] _ ⟨first, second, trivial⟩ rfl

/-- A probe after a `Hello` of the same proxy sends the number of that `Hello` again. -/
theorem probe_after_hello_reuses :
    ¬ ∀ (instanceId : UInt32) (calls : List Call) (final : System),
      run step (initial instanceId) calls = .ok final → NeverReused final.numbers := by
  intro never
  have reused := never 7 [.hello 0 Proxy.completing ⟨none, none, none, none, 1⟩,
    .probe 0 Proxy.completing ⟨none, none⟩] _ rfl
  change NeverReused [⟨7, none, 1⟩, ⟨7, none, 1⟩] at reused
  simp [NeverReused] at reused

end Onvifxx.System
