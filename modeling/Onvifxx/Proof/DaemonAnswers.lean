/-
This file proves which probes the example daemon answers on a network.
-/

import Onvifxx.Proof.NarrowProbe
import Onvifxx.Proof.NetworkTrace

namespace Onvifxx.Daemon

open RemoteDiscovery Tokens

/-- An item between two blanks names the type of the daemon after its last colon. -/
def AsksType (types : String) : Prop :=
  ∃ item ∈ types.toList.splitOn ' ',
    "NetworkVideoTransmitter".toList ∈ tokens isSpace (afterLast ':' item)

/-- One of the scopes of the daemon is among the asked ones. -/
def AsksScope (asked : String) : Prop :=
  ∃ scope ∈ scopes, scope.toList ∈ tokens isSpace asked.toList

/-- Each list of the probe that is there asks for something that the daemon has. -/
def Wanted (arg : ProbeT) : Prop :=
  (∀ types, arg.types = some types → AsksType types) ∧
    ∀ asked, arg.scopes = some asked → AsksScope asked.item

theorem scopes_clear : ∀ scope ∈ scopes, tokens isSpace scope.toList = [scope.toList] := by
  decide +kernel

/-- The offered scopes are the tokens of their joined text. -/
theorem mem_offeredScopes {token : List Char} :
    token ∈ tokens isSpace (" ".intercalate scopes).toList ↔ ∃ scope ∈ scopes, scope.toList = token := by
  have shape : (" ".intercalate scopes).toList = joined ' ' (scopes.map String.toList) :=
    String.toList_intercalate
  rw [shape, tokens_joined isSpace_blank, List.mem_flatMap]
  constructor
  · rintro ⟨text, member, inside⟩
    obtain ⟨scope, listed, rfl⟩ := List.mem_map.mp member
    rw [scopes_clear scope listed, List.mem_singleton] at inside
    exact ⟨scope, listed, inside.symm⟩
  · rintro ⟨scope, listed, rfl⟩
    refine ⟨scope.toList, List.mem_map_of_mem listed, ?_⟩
    rw [scopes_clear scope listed]
    exact List.mem_singleton_self _

/-- The offered type has no white space at an end, so only a shared type matches. -/
theorem typesMatched_iff (types : String) :
    isMatched (stripTypes types.toList) "NetworkVideoTransmitter".toList = true ↔ AsksType types := by
  have alone : tokens isSpace "NetworkVideoTransmitter".toList =
      ["NetworkVideoTransmitter".toList] := by decide
  have inner : ¬ Edge isSpace "NetworkVideoTransmitter".toList := by decide
  rw [isMatched_iff, AsksType, Shares, alone, tokens_stripTypes]
  simp only [List.mem_singleton, List.mem_flatMap]
  constructor
  · rintro (⟨token, found, rfl⟩ | ⟨-, edge⟩)
    · exact found
    · exact absurd edge inner
  · intro found
    exact Or.inl ⟨_, found, rfl⟩

theorem offeredScopes_edge : ¬ Edge isSpace (" ".intercalate scopes).toList := by
  rw [String.toList_intercalate]
  decide +kernel

theorem scopesMatched_iff (asked : String) :
    isMatched asked.toList (" ".intercalate scopes).toList = true ↔ AsksScope asked := by
  rw [isMatched_iff, AsksScope, Shares]
  constructor
  · rintro (⟨token, found, offered⟩ | ⟨-, edge⟩)
    · obtain ⟨scope, listed, rfl⟩ := mem_offeredScopes.mp offered
      exact ⟨scope, listed, found⟩
    · exact absurd edge offeredScopes_edge
  · rintro ⟨scope, listed, found⟩
    exact Or.inl ⟨scope.toList, found, mem_offeredScopes.mpr ⟨scope, listed, rfl⟩⟩

/-- The daemon answers with its one match or with none. -/
theorem probe_cases (offered : ProbeMatchT) (arg : ProbeT) :
    probe offered arg = [] ∨ probe offered arg = [offered] :=
  (ite_eq_or_eq _ _ _).symm

/-- The daemon has a match exactly for a wanted probe. -/
theorem probe_advertised_iff (arg : ProbeT) : probe advertised arg = [advertised] ↔ Wanted arg := by
  have decides : probe advertised arg = [advertised] ↔ ¬ probe advertised arg = [] := by
    rcases probe_cases advertised arg with none | one
    · simp [none]
    · simp [one]
  rw [decides, probe_eq_nil, not_or, Bool.not_eq_false, Bool.not_eq_false, Wanted]
  apply and_congr
  · cases arg.types with
    | none => simp [typesMatched, listMatched]
    | some types =>
        simp only [typesMatched, listMatched, advertised, Option.some.injEq, forall_eq']
        exact typesMatched_iff types
  · cases arg.scopes with
    | none => simp [scopesMatched, listMatched]
    | some asked =>
        simp only [scopesMatched, listMatched, advertised, Option.map_some, Option.some.injEq,
          forall_eq', id]
        exact scopesMatched_iff asked.item

end Onvifxx.Daemon

namespace Onvifxx.Network

open Execution RemoteDiscovery Wsdd Run

variable {Site : Type}

variable [DecidableEq Site]

/-- A step adds a binding only when it binds. -/
theorem step_binds {what : Soap → String} (network : Network Site) (action : Action Site)
    (next : Network Site) (taken : step what network action = .ok next) :
    ∃ more, next.trace = network.trace ++ more ∧ ∀ site service obj,
      .bound site service obj ∈ more →
        ∃ sockets port, action = .bind site service sockets obj port := by
  obtain ⟨more, trace, emits⟩ := step_emits taken
  refine ⟨more, trace, fun site service obj member => ?_⟩
  cases emits with
  | quiet => cases member
  | said speaks header => cases List.mem_singleton.mp member
  | bound other number sockets handler port =>
      cases List.mem_singleton.mp member
      exact ⟨sockets, port, rfl⟩
  | dispatched found served =>
      rcases mem_dispatchEvents member with ⟨call, -, same⟩ | ⟨answer, entries, same⟩ | same <;>
        cases same

/-- Each binding in the trace is an action of the run. -/
theorem run_binds {instances : Site → UInt32} {what : Soap → String} {actions : List (Action Site)}
    {final : Network Site} (completed : run (step what) (initial instances) actions = .ok final)
    {site : Site} {service : Nat} {obj : Option Handler}
    (member : .bound site service obj ∈ final.trace) :
    ∃ sockets port, .bind site service sockets obj port ∈ actions := by
  obtain ⟨pieces, fits, whole, -⟩ := run_pieces step_binds completed
  rw [whole] at member
  obtain ⟨piece, listed, found⟩ := List.mem_flatten.mp member
  obtain ⟨index, within, rfl⟩ := List.getElem_of_mem listed
  have counted := fits.length_eq
  obtain ⟨sockets, port, same⟩ := fits.get (by omega) within site service obj found
  exact ⟨sockets, port, same ▸ List.getElem_mem _⟩

/-- An answer of this service follows a sent probe, and it has one entry exactly when that is wanted.
Nothing can read the entry. -/
def AnswersAsDaemon (instances : Site → UInt32) (site : Site) (service : Nat)
    (earlier : List (Event Site)) : Event Site → Prop
  | .answered other number header found => other = site → number = service →
      ∃ source asked sent arg, .said source (some asked) (.probe arg) ∈ earlier ∧
        header = some sent ∧ Answers (instances site) asked sent ∧
        (found = [none] ∧ Daemon.Wanted arg ∨ found = [] ∧ ¬ Daemon.Wanted arg)
  | _ => True

/-- The match of the daemon has scopes, so its entry is lost. -/
theorem shows_advertised {entry : Option WsdProbeMatchType} (shown : Shows Daemon.advertised entry) :
    entry = none := by
  rcases shown with lost | ⟨scopes, -⟩
  · exact lost
  · cases scopes

/-- A service of the example daemon answers each probe with one entry or with none. -/
theorem run_answersAsDaemon (instances : Site → UInt32) (what : Soap → String)
    (actions : List (Action Site)) (final : Network Site) (site : Site) (service : Nat)
    (bound : ∀ sockets handler port, .bind site service sockets (some handler) port ∈ actions →
      handler = Daemon.handler)
    (completed : run (step what) (initial instances) actions = .ok final) :
    Explained (AnswersAsDaemon instances site service) final.trace := by
  intro earlier event later split
  have explained := ((run_recorded completed).explained earlier event later split).2
  cases event with
  | answered other number header found =>
      rintro rfl rfl
      obtain ⟨source, asked, sent, arg, handler, said, attached, -, header, answers, shown⟩ :=
        explained
      have member : .bound other number (some handler) ∈ final.trace := by
        rw [split]
        exact List.mem_append_left _ attached.mem
      obtain ⟨sockets, port, listed⟩ := run_binds completed member
      rw [bound sockets handler port listed] at shown
      change List.Forall₂ Shows (Daemon.probe Daemon.advertised arg) found at shown
      refine ⟨source, asked, sent, arg, said, header, answers, ?_⟩
      rcases Daemon.probe_cases Daemon.advertised arg with none | one
      · rw [none] at shown
        cases shown
        refine Or.inr ⟨rfl, fun wanted => ?_⟩
        rw [Daemon.probe_advertised_iff arg |>.mpr wanted] at none
        cases none
      · rw [one] at shown
        cases shown with
        | cons first rest =>
            cases rest
            exact Or.inl ⟨by rw [shows_advertised first],
              (Daemon.probe_advertised_iff arg).mp one⟩
  | said => trivial
  | bound => trivial
  | heard => trivial
  | refused => trivial

/-- A client asks the daemon of another site for a prefixed type and for a scope that it lacks. -/
def askDaemon : List (Action Bool) :=
  [.bind true 0 ⟨fun _ => 3, fun _ => true⟩ (some Daemon.handler) 0,
    .probe false 0 Proxy.completing ⟨some "dn:NetworkVideoTransmitter", none⟩,
    .probe false 0 Proxy.completing ⟨none, some ⟨"onvif://www.onvif.org/type/none", none⟩⟩,
    .deliver 0 true 0 Service.completing, .deliver 1 true 0 Service.completing]

theorem run_answersAsDaemon_asked :
    ∃ final, run (step fun _ => "") (initial sampleInstances) askDaemon = .ok final ∧
      Explained (AnswersAsDaemon sampleInstances true 0) final.trace := by
  have supplied : Every (step fun _ => "") Supplied (initial sampleInstances) askDaemon :=
    every_supplied rfl
  obtain ⟨final, completed, -⟩ :=
    run_completes (step_supplied fun _ => "") (initial_headed sampleInstances) supplied
  refine ⟨final, completed, run_answersAsDaemon sampleInstances _ askDaemon final true 0 ?_ completed⟩
  intro sockets handler port listed
  simp only [askDaemon, List.mem_cons, Action.bind.injEq, Option.some.injEq, reduceCtorEq,
    List.not_mem_nil, or_false] at listed
  exact listed.2.2.2.1

end Onvifxx.Network
