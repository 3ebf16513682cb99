/-
This file proves when the transport of a socket survives the failures of its hooks.
-/

import Onvifxx.Construction.Hooks
import Onvifxx.Library.Run
import Onvifxx.Proof.UrlSplit

namespace Onvifxx.Sock

open Execution Run Wsdd

/-- The address of a target has a known scheme, a host and a service. -/
structure Target where
  url : List Char
  accepted : Accepted url

/-- The library calls one of the hooks, and the system decides its result. -/
inductive HookCall where
  | openSocket (target : Target) (result : Result)
  | connect (target : Target) (result : Result)
  | send (data : List UInt8) (transfer : Transfer data.length)
  | recv (incoming buffer : List UInt8) (transfer : Transfer buffer.length)
  | close (result : Result)

namespace HookCall

def connection? : HookCall → Option (Target × Result)
  | openSocket target result => some (target, result)
  | connect target result => some (target, result)
  | _ => none

/-- These calls need a transport. -/
def uses : HookCall → Bool
  | send _ _ => true
  | recv _ _ _ => true
  | close _ => true
  | _ => false

end HookCall

def hookStep (context : Context) : HookCall → Except Stop Context
  | .openSocket target result => Prod.snd <$> context.openSocket target.url result
  | .connect target result => Prod.snd <$> context.connect target.url result
  | .send data transfer => Prod.snd <$> context.send data transfer
  | .recv incoming buffer transfer => Prod.snd <$> context.recv incoming buffer transfer
  | .close result => Prod.snd <$> context.close result

/-- The scheme of an address names the kind of its transport. -/
def namedKind (url : List Char) : Ip :=
  if Endpoint.udpScheema.isPrefixOf url then .udp else .tcp

def connections (calls : List HookCall) : List (Target × Result) :=
  calls.filterMap HookCall.connection?

/-- Each successful connect makes the transport with its own position and its named kind. -/
def madeTransports (calls : List HookCall) : List Transport :=
  ((connections calls).zipIdx.filter fun made => made.1.2.isNone).map
    fun made => ⟨made.2, namedKind made.1.1.url⟩

/-- The transport of the latest successful connect. -/
def latest (calls : List HookCall) : Option Transport := (madeTransports calls).getLast?

/-- Some connect has succeeded. -/
def Connected (calls : List HookCall) : Prop :=
  ∃ target, (target, none) ∈ connections calls

/-- The socket points to the latest transport, and only that one is alive. -/
structure Tracks (calls : List HookCall) (context : Context) : Prop where
  ip : context.ip = latest calls
  made : context.made = (connections calls).length
  alive : context.alive = context.ip.toList
  earlier : ∀ transport, context.ip = some transport → transport.serial < context.made

/-- Each call that needs a transport comes after a successful connect. -/
def UsesConnected (calls : List HookCall) : Prop :=
  ∀ before call after, calls = before ++ call :: after → call.uses = true → Connected before

/-- The splitter finds the kind that the scheme of a target names. -/
theorem target_splits (target : Target) : ∃ endpoint, Endpoint.fromUrl target.url = .ok endpoint ∧
    (if endpoint.isUdp then Ip.udp else Ip.tcp) = namedKind target.url := by
  obtain ⟨endpoint, split⟩ := (fromUrl_isOk_iff target.url).mpr target.accepted
  obtain ⟨scheme, rest, shape, parts⟩ := Endpoint.fromUrl_ok split
  refine ⟨endpoint, split, ?_⟩
  rw [parts, Endpoint.splitService_isUdp, shape]
  cases scheme <;> rfl

theorem connections_concat (calls : List HookCall) (call : HookCall) :
    connections (calls ++ [call]) = connections calls ++ call.connection?.toList := by
  rw [connections, List.filterMap_append]
  cases present : call.connection? <;> simp [connections, present]

/-- A call that makes no transport keeps the latest one. -/
theorem latest_concat_none {calls : List HookCall} {call : HookCall}
    (silent : ∀ target, call.connection? ≠ some (target, none)) :
    latest (calls ++ [call]) = latest calls := by
  rw [latest, latest, madeTransports, madeTransports, connections_concat]
  cases present : call.connection? with
  | none => simp
  | some connection =>
      obtain ⟨target, result⟩ := connection
      cases result with
      | none => exact absurd present (silent target)
      | some message => simp [List.zipIdx_append]

theorem latest_concat_some {calls : List HookCall} {call : HookCall} {target : Target}
    (succeeded : call.connection? = some (target, none)) :
    latest (calls ++ [call]) = some ⟨(connections calls).length, namedKind target.url⟩ := by
  rw [latest, madeTransports, connections_concat, succeeded]
  simp [List.zipIdx_append]

/-- There is a latest transport exactly when some connect has succeeded. -/
theorem latest_ne_none (calls : List HookCall) : latest calls ≠ none ↔ Connected calls := by
  have positions : Connected calls ↔
      ∃ made ∈ (connections calls).zipIdx, made.1.2.isNone = true := by
    constructor
    · rintro ⟨target, member⟩
      obtain ⟨position, inside, same⟩ := List.getElem_of_mem member
      refine ⟨((target, none), position), ?_, rfl⟩
      rw [List.mk_mem_zipIdx_iff_getElem?, List.getElem?_eq_getElem inside, same]
    · rintro ⟨⟨⟨target, result⟩, position⟩, member, succeeded⟩
      rw [List.mk_mem_zipIdx_iff_getElem?] at member
      rw [Option.isNone_iff_eq_none] at succeeded
      change result = none at succeeded
      subst succeeded
      exact ⟨target, List.mem_of_getElem? member⟩
  rw [positions, latest, ne_eq, List.getLast?_eq_none_iff, madeTransports, List.map_eq_nil_iff,
    List.filter_eq_nil_iff]
  simp

/-- A failed connect deletes the transport that it has made. -/
theorem connect_failed (target : Target) (message : String) (context : Context) :
    ∃ next, context.connect target.url (some message) = .ok (soapInvalidSocket, next) ∧
      next.ip = context.ip ∧ next.made = context.made + 1 ∧ next.alive = context.alive := by
  obtain ⟨endpoint, split, _⟩ := target_splits target
  rw [Context.connect, split]
  exact ⟨_, rfl, rfl, rfl, List.erase_cons_head _ _⟩

/-- A successful connect puts its transport in the place of the old one. -/
theorem connect_succeeded (target : Target) {context : Context}
    (alive : context.alive = context.ip.toList)
    (earlier : ∀ transport, context.ip = some transport → transport.serial < context.made) :
    ∃ next, context.connect target.url none = .ok (soapOk, next) ∧
      next.ip = some ⟨context.made, namedKind target.url⟩ ∧ next.made = context.made + 1 ∧
      next.alive = next.ip.toList := by
  obtain ⟨endpoint, split, kind⟩ := target_splits target
  rw [Context.connect, split, ← kind]
  refine ⟨_, rfl, rfl, rfl, ?_⟩
  cases present : context.ip with
  | none => simp [alive, present]
  | some old =>
      have distinct : ∀ kind, (⟨context.made, kind⟩ : Transport) ≠ old := by
        rintro kind rfl
        exact lt_irrefl _ (earlier _ present)
      simp [alive, present, distinct]

/-- A call without a transport stops at the null pointer. -/
theorem hookStep_null {context : Context} {call : HookCall} (absent : context.ip = none)
    (uses : call.uses = true) : hookStep context call = .error .null := by
  obtain ⟨ip, error, made, alive⟩ := context
  change ip = none at absent
  subst absent
  cases call with
  | openSocket target result => cases uses
  | connect target result => cases uses
  | send data transfer => rfl
  | recv incoming buffer transfer => rfl
  | close result => rfl

/-- A call with a transport keeps it. -/
theorem hookStep_connected {context : Context} {call : HookCall} (connected : context.ip ≠ none)
    (uses : call.uses = true) : ∃ next, hookStep context call = .ok next ∧
      next.ip = context.ip ∧ next.made = context.made ∧ next.alive = context.alive := by
  obtain ⟨ip, error, made, alive⟩ := context
  cases ip with
  | none => exact absurd rfl connected
  | some transport =>
      obtain ⟨serial, kind⟩ := transport
      cases call with
      | openSocket target result => cases uses
      | connect target result => cases uses
      | send data transfer => cases kind <;> cases transfer <;> exact ⟨_, rfl, rfl, rfl, rfl⟩
      | recv incoming buffer transfer =>
          cases kind <;> cases transfer <;> exact ⟨_, rfl, rfl, rfl, rfl⟩
      | close result => cases result <;> exact ⟨_, rfl, rfl, rfl, rfl⟩

/-- A call of either hook that connects makes the next transport. -/
theorem hookStep_connect {context : Context} {call : HookCall} {target : Target} {result : Result}
    (connects : call.connection? = some (target, result)) :
    hookStep context call = Prod.snd <$> context.connect target.url result := by
  cases call <;> simp only [HookCall.connection?, Option.some.injEq, Prod.mk.injEq,
    reduceCtorEq] at connects
  · obtain ⟨rfl, rfl⟩ := connects
    rfl
  · obtain ⟨rfl, rfl⟩ := connects
    rfl

theorem connection?_eq_none {call : HookCall} : call.connection? = none ↔ call.uses = true := by
  cases call <;> simp [HookCall.connection?, HookCall.uses]

/-- A call that leaves the transport alone keeps the socket on track. -/
theorem Tracks.silent {calls : List HookCall} {context next : Context} {call : HookCall}
    (tracks : Tracks calls context) (silent : ∀ target, call.connection? ≠ some (target, none))
    (sameIp : next.ip = context.ip) (sameAlive : next.alive = context.alive)
    (made : next.made = (connections (calls ++ [call])).length) : Tracks (calls ++ [call]) next where
  ip := by rw [sameIp, tracks.ip, latest_concat_none silent]
  made := made
  alive := by rw [sameAlive, tracks.alive, sameIp]
  earlier := by
    intro transport present
    rw [sameIp] at present
    have before := tracks.earlier transport present
    rw [tracks.made] at before
    rw [made, connections_concat, List.length_append]
    omega

/-- A successful connect puts the socket on the track of its new transport. -/
theorem Tracks.connected {calls : List HookCall} {context next : Context} {call : HookCall}
    {target : Target} (tracks : Tracks calls context)
    (connects : call.connection? = some (target, none))
    (newIp : next.ip = some ⟨context.made, namedKind target.url⟩)
    (newMade : next.made = context.made + 1) (newAlive : next.alive = next.ip.toList) :
    Tracks (calls ++ [call]) next where
  ip := by rw [newIp, latest_concat_some connects, tracks.made]
  made := by
    rw [newMade, tracks.made, connections_concat, connects]
    simp
  alive := newAlive
  earlier := by
    intro transport present
    rw [newIp, Option.some.injEq] at present
    rw [newMade, ← present]
    exact Nat.lt_succ_self _

/-- Each call that has the transport it needs keeps the socket on track. -/
theorem hookStep_tracks {calls : List HookCall} {context : Context} {call : HookCall}
    (tracks : Tracks calls context) (connected : call.uses = true → Connected calls) :
    ∃ next, hookStep context call = .ok next ∧ Tracks (calls ++ [call]) next := by
  cases connects : call.connection? with
  | none =>
      have uses := connection?_eq_none.mp connects
      have present : context.ip ≠ none := tracks.ip ▸ (latest_ne_none calls).mpr (connected uses)
      obtain ⟨next, taken, sameIp, sameMade, sameAlive⟩ := hookStep_connected present uses
      refine ⟨next, taken, tracks.silent (by simp [connects]) sameIp sameAlive ?_⟩
      rw [sameMade, tracks.made, connections_concat, connects]
      simp
  | some connection =>
      obtain ⟨target, result⟩ := connection
      rw [hookStep_connect connects]
      cases result with
      | some message =>
          obtain ⟨next, ended, sameIp, newMade, sameAlive⟩ :=
            connect_failed target message context
          refine ⟨next, by rw [ended]; rfl, tracks.silent (by simp [connects]) sameIp sameAlive ?_⟩
          rw [newMade, tracks.made, connections_concat, connects]
          simp
      | none =>
          obtain ⟨next, ended, newIp, newMade, newAlive⟩ :=
            connect_succeeded target tracks.alive tracks.earlier
          exact ⟨next, by rw [ended]; rfl, tracks.connected connects newIp newMade newAlive⟩

theorem initial_tracks : Tracks [] Context.initial where
  ip := rfl
  made := rfl
  alive := rfl
  earlier := by simp [Context.initial]

/-- Each run of calls that have the transport they need keeps the socket on track. -/
theorem run_tracks {calls : List HookCall} (connected : UsesConnected calls) :
    ∃ context, run hookStep Context.initial calls = .ok context ∧ Tracks calls context := by
  induction calls using List.reverseRecOn with
  | nil => exact ⟨Context.initial, rfl, initial_tracks⟩
  | append_singleton calls call ih =>
      obtain ⟨context, completed, tracks⟩ := ih fun before earlier after shape =>
        connected before earlier (after ++ [call]) (by rw [shape]; simp)
      obtain ⟨next, taken, tracked⟩ := hookStep_tracks tracks (connected calls call [] rfl)
      exact ⟨next, (run_concat call completed).trans taken, tracked⟩

/-- The transport of a socket survives a sequence of calls. -/
structure Survives (calls : List HookCall) : Prop where
  latest : ∀ before after, calls = before ++ after →
    ∃ context, run hookStep Context.initial before = .ok context ∧ context.ip = Sock.latest before
  failed : ∀ before call after target message, calls = before ++ call :: after →
    call.connection? = some (target, some message) → ∀ context next,
    run hookStep Context.initial before = .ok context → hookStep context call = .ok next →
    next.ip = context.ip
  reports : ∀ before call after, calls = before ++ call :: after → call.uses = true →
    Sock.latest before = none → ∃ context next,
    run hookStep Context.initial before = .ok context ∧ hookStep context call = .ok next ∧
      next.error.isSome = true

/-- The transport survives exactly the sequences whose transfers and closes follow a connect. -/
theorem survives_iff (calls : List HookCall) : Survives calls ↔ UsesConnected calls := by
  constructor
  · intro survives before call after shape uses
    by_contra unconnected
    have absent : Sock.latest before = none := by
      by_contra present
      exact unconnected ((latest_ne_none before).mp present)
    obtain ⟨context, next, completed, taken, _⟩ := survives.reports before call after shape uses absent
    obtain ⟨found, same, ip⟩ := survives.latest before (call :: after) shape
    rw [completed, Except.ok.injEq] at same
    rw [hookStep_null (same ▸ ip.trans absent) uses] at taken
    cases taken
  · intro connected
    refine ⟨?_, ?_, ?_⟩
    · intro before after shape
      have earlier : UsesConnected before := fun first call rest parts =>
        connected first call (rest ++ after) (by rw [shape, parts]; simp)
      obtain ⟨context, completed, tracks⟩ := run_tracks earlier
      exact ⟨context, completed, tracks.ip⟩
    · intro before call after target message shape fails context next completed taken
      obtain ⟨failed, ended, sameIp, _⟩ := connect_failed target message context
      rw [hookStep_connect fails, ended] at taken
      cases taken
      exact sameIp
    · intro before call after shape uses absent
      exact absurd absent ((latest_ne_none before).mpr (connected before call after shape uses))

/-- The loopback address of the tests. -/
def sampleTarget : Target where
  url := "http://127.0.0.1".toList
  accepted := ⟨.http, "127.0.0.1".toList, by decide, by decide, Or.inl rfl⟩

/-- A close after a failed first connect uses the null transport. -/
theorem survives_fails : ¬ ∀ calls, Survives calls := by
  intro survives
  obtain ⟨context, completed, _⟩ := (survives
    [.connect sampleTarget (some "Connection refused"), .close none]).latest _ []
    (List.append_nil _).symm
  cases completed

end Onvifxx.Sock
