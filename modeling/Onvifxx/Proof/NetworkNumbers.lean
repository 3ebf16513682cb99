/-
This file proves when no two messages on a network share their pair of numbers.
-/

import Onvifxx.Library.Merge
import Onvifxx.Proof.AppSequence
import Onvifxx.Proof.NetworkSafety

namespace Onvifxx.Network

open Execution RemoteDiscovery Wsdd Run

variable {Site : Type}

/-- Two packets with numbers differ in their pair, and the numbers of one site grow. -/
def NumbersDiffer (earlier later : Packet Site) : Prop :=
  ∀ first second, System.appSequence earlier.header = some first →
    System.appSequence later.header = some second →
      (first.instanceId, first.messageNumber) ≠ (second.instanceId, second.messageNumber) ∧
        (earlier.source = later.source → first.messageNumber < second.messageNumber)

/-- An action is fresh when its site has a number left for the announcement or the answer it sends. -/
def FreshAction (network : Network Site) : Action Site → Prop
  | .hello site _ _ _ => System.HasNumber (network.processes site).statics
  | .bye site _ _ _ => System.HasNumber (network.processes site).statics
  | .probe site proxy _ _ => Wsa.sequencePointer ((network.processes site).proxyState proxy) = none
  | .bind _ _ _ _ _ => True
  | .deliver position site service _ => ∀ packet body, network.wire[position]? = some packet →
      packet.message = .probe body → (network.handlers site service).isSome →
        System.HasNumber (network.processes site).statics

variable [DecidableEq Site]

/-- Each site numbers its packets in their order and with its own instance. -/
structure Numbered (instances : Site → UInt32) (network : Network Site) : Prop where
  sent : ∀ site, (part Packet.source network.wire site).map Packet.header =
    (network.processes site).sent
  statics : ∀ site, (network.processes site).statics.instanceId = instances site
  named : ∀ packet ∈ network.wire, ∀ sequence, System.appSequence packet.header = some sequence →
    sequence.instanceId = instances packet.source
  ordered : ∀ site, SerialLog.Ordered (network.processes site).serialLog

theorem initial_numbered (instances : Site → UInt32) : Numbered instances (initial instances) where
  sent _ := rfl
  statics _ := rfl
  named := by
    intro packet member
    cases member
  ordered _ := SerialLog.ordered_nil 0

/-- The new packets of one site are numbered when its process issues their numbers. -/
theorem Numbered.extend {instances : Site → UInt32} {network next : Network Site}
    (numbered : Numbered instances network) {site : Site} {process : System}
    {packets : List (Packet Site)}
    (processes : next.processes = Function.update network.processes site process)
    (wire : next.wire = network.wire ++ packets)
    (source : ∀ packet ∈ packets, packet.source = site)
    (sent : process.sent = (network.processes site).sent ++ packets.map Packet.header)
    (statics : process.statics.instanceId = (network.processes site).statics.instanceId)
    (issued : SerialLog.Step (network.processes site).serialLog process.serialLog)
    (named : ∀ packet ∈ packets, ∀ sequence, System.appSequence packet.header = some sequence →
      sequence.instanceId = (network.processes site).statics.instanceId) :
    Numbered instances next where
  sent := by
    intro other
    rw [wire, part_append, part_of_same source, List.map_append, numbered.sent other, processes]
    by_cases own : site = other
    · subst own
      rw [if_pos rfl, Function.update_self, sent]
    · rw [if_neg own, Function.update_of_ne (Ne.symm own), List.map_nil, List.append_nil]
  statics := by
    intro other
    rw [processes]
    by_cases own : other = site
    · subst own
      rw [Function.update_self, statics]
      exact numbered.statics other
    · rw [Function.update_of_ne own]
      exact numbered.statics other
  named := by
    intro packet member sequence found
    rw [wire] at member
    rcases List.mem_append.mp member with old | new
    · exact numbered.named packet old sequence found
    · rw [named packet new sequence found, source packet new]
      exact numbered.statics site
  ordered := by
    intro other
    rw [processes]
    by_cases own : other = site
    · subst own
      rw [Function.update_self]
      exact issued.ordered (numbered.ordered other)
    · rw [Function.update_of_ne own]
      exact numbered.ordered other

/-- A proxy call numbers its packet when its process issues the number. -/
theorem say_numbered {Body A : Type} {instances : Site → UInt32} {network : Network Site}
    (numbered : Numbered instances network) {site : Site} {proxy : Nat} {spoken : HandlerCall}
    {message : Body → Message} {call : Proxy.Call Body A}
    (statics : call.state.statics.instanceId = (network.processes site).statics.instanceId)
    (issued : SerialLog.Step (network.processes site).serialLog
      ((network.processes site).afterCall proxy call).serialLog)
    (named : ∀ sequence, System.appSequence call.envelope.header = some sequence →
      sequence.instanceId = (network.processes site).statics.instanceId) :
    Numbered instances (network.say site proxy spoken message call) := by
  apply numbered.extend rfl rfl _ _ statics issued
  · intro packet member
    split at member
    · rw [List.mem_singleton.mp member]
      exact named
    · cases member
  · intro packet member
    split at member
    · rw [List.mem_singleton.mp member]
    · cases member
  · rw [System.afterCall]
    cases call.sent <;> rfl

/-- An announcement carries the instance of its process. -/
theorem announced_named {Body A : Type} {surroundings : Wsa.Surroundings} {action : String}
    {state next : Wsa.State} (stub : Service.Transmission) (body : Body) (result : Returned A)
    (named : action.isEmpty = false)
    (announced : Proxy.announceHeader surroundings action state = .ok next)
    (sequence : WsdAppSequenceType)
    (found : System.appSequence (Proxy.finish stub next body result).envelope.header =
      some sequence) : sequence.instanceId = state.statics.instanceId := by
  obtain ⟨header, present, own, -, numbered⟩ := Proxy.announceHeader_ends named announced
  rw [Proxy.finish_envelope, System.appSequence_sentHeader, Wsa.sequencePointer, present,
    Option.bind_some, own, Option.map_some, Option.some.injEq] at found
  rw [← found, Wsa.designated, numbered]

/-- An announcement takes the next number of its site. -/
theorem announced_numbered {Body A : Type} {instances : Site → UInt32} {network : Network Site}
    (numbered : Numbered instances network) {site : Site} {proxy : Nat}
    {surroundings : Wsa.Surroundings} {action : String} {state : Wsa.State} (spoken : HandlerCall)
    (message : Body → Message) (stub : Service.Transmission) (body : Body) (result : Returned A)
    (left : System.HasNumber (network.processes site).statics) (named : action.isEmpty = false)
    (announced : Proxy.announceHeader surroundings action
      ((network.processes site).proxyState proxy) = .ok state) :
    Numbered instances
      (network.say site proxy spoken message (Proxy.finish stub state body result)) := by
  obtain ⟨-, -, -, statics, -⟩ := Proxy.announceHeader_ends named announced
  apply say_numbered numbered
  · rw [Proxy.finish_state, statics]
    rfl
  · exact System.announce_refines left named announced
  · exact announced_named _ _ _ named announced

/-- The dispatcher keeps what a process remembers of its messages. -/
theorem afterReply_settle (process : System) (what : Soap → String) (service : Nat)
    (outcome : Service.Outcome) :
    (process.afterReply service (Service.settle what outcome).outcome).statics =
        (process.afterReply service outcome).statics ∧
      (process.afterReply service (Service.settle what outcome).outcome).sent =
        (process.afterReply service outcome).sent := by
  obtain ⟨-, reply, sent, statics⟩ := Service.settle_outcome what outcome
  simp only [System.afterReply, reply, sent, statics, and_self]

/-- An answer carries the instance of its process. -/
theorem answered_named {bound : Handler} {surroundings : Service.Surroundings} {asked : SoapEnvHeader}
    {body : WsdProbeType} {state : Service.State} {reply : Service.Reply}
    (answered : reply ∈ replies (Service.probeOutcome bound surroundings asked body state))
    (sequence : WsdAppSequenceType) (found : System.appSequence reply.header = some sequence) :
    sequence.instanceId = state.wsa.statics.instanceId := by
  rw [replies] at answered
  split at answered
  · obtain rfl : reply = _ := List.mem_singleton.mp answered
    rw [← Option.some.inj found]
    rfl
  · cases answered

/-- A delivered packet makes its process issue at most one number. -/
theorem deliver_issued {process : System} {handler : Option Handler} {service : Nat}
    {surroundings : Service.Surroundings} {header : Option SoapEnvHeader} {message : Message}
    {outcome : Service.Outcome}
    (fresh : ∀ body, message = .probe body → handler.isSome → System.HasNumber process.statics)
    (served : Service.dispatchIncoming handler surroundings header message.incoming
      (process.serviceState service) = .ok outcome) :
    SerialLog.Step process.serialLog (process.afterReply service outcome).serialLog := by
  rcases Service.dispatchIncoming_cases served with
    ⟨code, called, -, rfl⟩ | ⟨bound, asked, body, rfl, rfl, rfl, rfl⟩
  · refine System.serialLog_step_quiet [] ?_ ?_ (by simp)
    · rfl
    · simp [System.afterReply]
  · have replied : process.step (.reply service (some bound) surroundings (some asked) body) =
        .ok (process.afterReply service
          (Service.probeOutcome bound surroundings asked body (process.serviceState service))) := by
      rw [System.step, Service.serve_probe, map_ok]
    exact System.reply_refines (fresh body rfl) replied

/-- A delivered packet adds numbered answers. -/
theorem deliver_numbered {instances : Site → UInt32} {network : Network Site} {what : Soap → String}
    {site : Site} {service : Nat} {surroundings : Service.Surroundings} {packet : Packet Site}
    {outcome : Service.Outcome} (numbered : Numbered instances network)
    (fresh : ∀ body, packet.message = .probe body → (network.handlers site service).isSome →
      System.HasNumber (network.processes site).statics)
    (served : Service.dispatchIncoming (network.handlers site service) surroundings packet.header
      packet.message.incoming ((network.processes site).serviceState service) = .ok outcome) :
    Numbered instances (network.hear site service packet.header (Service.settle what outcome)) := by
  obtain ⟨statics, sent⟩ := afterReply_settle (network.processes site) what service outcome
  apply numbered.extend rfl rfl
  · intro reply member
    obtain ⟨found, -, rfl⟩ := List.mem_map.mp member
    rfl
  · rw [sent, replies_settle, List.map_map]
    simp only [System.afterReply, replies]
    cases outcome.sent <;> rfl
  · rw [statics]
    rcases Service.dispatchIncoming_cases served with
      ⟨code, called, -, rfl⟩ | ⟨bound, asked, body, -, -, -, rfl⟩
    · rfl
    · rfl
  · have sameLog : ((network.processes site).afterReply service
        (Service.settle what outcome).outcome).serialLog =
          ((network.processes site).afterReply service outcome).serialLog := by
      rw [System.serialLog, System.serialLog, System.numbers, System.numbers, statics, sent]
    rw [sameLog]
    exact deliver_issued fresh served
  · intro reply member sequence found
    obtain ⟨answer, answered, rfl⟩ := List.mem_map.mp member
    rw [replies_settle] at answered
    rcases Service.dispatchIncoming_cases served with
      ⟨code, called, -, rfl⟩ | ⟨bound, asked, body, -, -, -, rfl⟩
    · simp [replies] at answered
    · exact answered_named answered sequence found

/-- One fresh step keeps every packet numbered. -/
theorem step_numbered {instances : Site → UInt32} {what : Soap → String} (network : Network Site)
    (action : Action Site) (next : Network Site) (numbered : Numbered instances network)
    (fresh : FreshAction network action) (taken : step what network action = .ok next) :
    Numbered instances next := by
  cases action with
  | hello site proxy surroundings arg =>
      obtain ⟨call, ended, rfl⟩ := map_eq_ok.mp taken
      obtain ⟨state, body, announced, rfl⟩ := Proxy.hello_ok ended
      exact announced_numbered numbered _ _ _ _ _ fresh (by decide) announced
  | bye site proxy surroundings arg =>
      obtain ⟨call, ended, rfl⟩ := map_eq_ok.mp taken
      obtain ⟨state, body, announced, rfl⟩ := Proxy.bye_ok ended
      exact announced_numbered numbered _ _ _ _ _ fresh (by decide) announced
  | probe site proxy surroundings arg =>
      obtain ⟨state, ends, statics, -, pointer, -⟩ :=
        Proxy.probe_ends surroundings arg ((network.processes site).proxyState proxy)
      have stepped := congrArg ((network.processes site).afterCall proxy <$> ·) ends
      rw [step, ends, map_ok, Except.ok.injEq] at taken
      subst taken
      apply say_numbered numbered
      · rw [Proxy.finish_state, statics]
        rfl
      · exact System.probe_refines fresh stepped
      · intro sequence found
        have bare : Wsa.sequencePointer ((network.processes site).proxyState proxy) = none := fresh
        rw [Proxy.finish_envelope, System.appSequence_sentHeader, pointer, bare] at found
        cases found
  | bind site service sockets obj port =>
      obtain rfl := Except.ok.inj taken
      exact ⟨numbered.sent, numbered.statics, numbered.named, numbered.ordered⟩
  | deliver position site service surroundings =>
      simp only [step] at taken
      split at taken
      · obtain rfl := Except.ok.inj taken
        exact numbered
      · rename_i packet found
        obtain ⟨dispatched, dispatches, rfl⟩ := map_eq_ok.mp taken
        obtain ⟨outcome, served, rfl⟩ := map_eq_ok.mp dispatches
        exact deliver_numbered numbered (fun body => fresh packet body found) served

/-- The packets of one site have growing numbers. -/
theorem Numbered.part_differ {instances : Site → UInt32} {network : Network Site}
    (numbered : Numbered instances network) (site : Site) :
    (part Packet.source network.wire site).Pairwise NumbersDiffer := by
  have grows := (numbered.ordered site).grows
  rw [System.serialLog, System.numbers, ← numbered.sent site] at grows
  have pairs := List.pairwise_map.mp (List.pairwise_filterMap.mp (List.pairwise_map.mp grows))
  apply pairs.imp
  intro earlier later less first second one other
  have increases : first.messageNumber.toNat < second.messageNumber.toNat := less _ one _ other
  refine ⟨fun same => ?_, fun _ => UInt32.lt_iff_toNat_lt.mpr increases⟩
  rw [(Prod.mk.inj same).2] at increases
  exact Nat.lt_irrefl _ increases

/-- Sites with different instances never share a pair of numbers in a fresh run. -/
theorem run_numbersDiffer (instances : Site → UInt32) (what : Soap → String)
    (actions : List (Action Site)) (final : Network Site)
    (distinct : Function.Injective instances)
    (fresh : Every (step what) FreshAction (initial instances) actions)
    (completed : run (step what) (initial instances) actions = .ok final) :
    final.wire.Pairwise NumbersDiffer := by
  have numbered := run_invariant step_numbered (initial_numbered instances) fresh completed
  apply pairwise_of_parts numbered.part_differ
  intro earlier member later memberLater apart first second one other
  refine ⟨fun same => apart (distinct ?_), fun same => absurd same apart⟩
  rw [← numbered.named earlier member first one, ← numbered.named later memberLater second other]
  exact (Prod.mk.inj same).1

/-- Two sites with two instances announce themselves three times. -/
def announcing : List (Action Bool) :=
  [.hello false 0 Proxy.completing ⟨none, none, none, none, 1⟩,
    .hello true 0 Proxy.completing ⟨none, none, none, none, 1⟩,
    .bye false 1 Proxy.completing ⟨none, none, none, none, 1⟩]

theorem run_numbersDiffer_announcing :
    ∃ final, run (step fun _ => "") (initial sampleInstances) announcing = .ok final ∧
      final.wire.length = 3 ∧ final.wire.Pairwise NumbersDiffer := by
  have distinct : Function.Injective sampleInstances := by decide
  have first : System.HasNumber ⟨7, 0⟩ := by unfold System.HasNumber; decide
  have other : System.HasNumber ⟨9, 0⟩ := by unfold System.HasNumber; decide
  have second : System.HasNumber ⟨7, 1⟩ := by unfold System.HasNumber; decide
  refine ⟨_, rfl, rfl, ?_⟩
  exact run_numbersDiffer sampleInstances (fun _ => "") announcing _ distinct
    ⟨first, other, second, trivial⟩ rfl

end Onvifxx.Network
