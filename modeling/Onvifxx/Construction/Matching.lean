/-
This file translates the matching of a probe in the example daemon.
-/

import Onvifxx.Construction.RemoteDiscovery
import Onvifxx.Library.CppString
import Onvifxx.Library.Loop
import Onvifxx.Library.Tokens

namespace Onvifxx.Daemon

open RemoteDiscovery CppString Tokens

/-- The classic locale has six white characters. -/
def isSpace (character : Char) : Bool :=
  [' ', '\t', '\n', '\x0b', '\x0c', '\r'].contains character

/-- The search finds the first part of one list among the parts of the other. -/
def isMatched (left right : List Char) : Bool :=
  (split isSpace left).any fun part => (split isSpace right).contains part

/-- A turn erases from the second position to the first one. -/
structure Positions where
  pos1 : Nat
  pos2 : Nat
  deriving DecidableEq, Repr

/-- The last colon ends the range, and the last blank before it or the start of the text begins it. -/
def stripPositions (types : List Char) : Option Positions :=
  match rfind ':' types with
  | none => none
  | some pos1 =>
      match rfindFrom ' ' types pos1 with
      | none => some ⟨pos1, 0⟩
      | some blank => some ⟨pos1, blank + 1⟩

/-- A turn that finds no colon leaves the loop, and another one erases its range. -/
def stripTurn (types : List Char) : Option (List Char) :=
  match stripPositions types with
  | none => none
  | some ⟨pos1, pos2⟩ => some (erase types pos2 (pos1 - pos2 + 1))

/-- The length of the text allows more turns than the loop takes. -/
def stripTypes (types : List Char) : List Char :=
  Loop.iterate stripTurn types.length types

/-- The daemon advertises one match, and each of its lists is compared only when both sides have it. -/
def probe (advertised : ProbeMatchT) (arg : ProbeT) : ProbeMatchesT :=
  let matched :=
    match arg.types, advertised.types with
    | some types, some offered => isMatched (stripTypes types.toList) offered.toList
    | _, _ => true
  let matched :=
    match matched, arg.scopes, advertised.scopes with
    | true, some scopes, some offered => isMatched scopes.item.toList offered.item.toList
    | _, _, _ => matched
  if matched then [advertised] else []

/-- The constructor of the daemon lists these scopes. -/
def scopes : List String :=
  ["onvif://www.onvif.org/type/NetworkVideoTransmitter", "onvif://www.onvif.org/type/video_encoder",
    "onvif://www.onvif.org/type/audio_encoder", "onvif://www.onvif.org/type/ptz",
    "onvif://www.onvif.org/name/OnvifxxExample", "onvif://www.onvif.org/location/Anywhere",
    "onvif://www.onvif.org/hardware/OnvifxxEngine"]

/-- The service thread fills the one match that the daemon announces and answers with. -/
def advertised : ProbeMatchT where
  endpoint := some ⟨some "urn:uuid:05f1b46c-f29a-46f7-9140-e4bc00c8cea6", none, none⟩
  types := some "NetworkVideoTransmitter"
  scopes := some ⟨" ".intercalate scopes, none⟩
  xaddrs := some "http://127.0.0.1/onvif/services"
  version := 1

/-- The daemon binds itself to its service. -/
def handler : Handler := ⟨probe advertised⟩

theorem isSpace_blank : isSpace ' ' = true := by decide

theorem isSpace_colon : isSpace ':' = false := by decide

theorem stripPositions_eq_none {types : List Char} : stripPositions types = none ↔ ':' ∉ types := by
  rw [← rfind_eq_none]
  cases colon : rfind ':' types with
  | none => simp [stripPositions, colon]
  | some pos1 => cases blank : rfindFrom ' ' types pos1 <;> simp [stripPositions, colon, blank]

/-- A turn erases the text between its two positions. -/
theorem stripTurn_eq (types : List Char) :
    stripTurn types = (stripPositions types).map fun positions =>
      erase types positions.pos2 (positions.pos1 - positions.pos2 + 1) := by
  unfold stripTurn
  cases stripPositions types <;> rfl

theorem stripTurn_eq_none {types : List Char} : stripTurn types = none ↔ ':' ∉ types := by
  rw [stripTurn_eq, Option.map_eq_none_iff, stripPositions_eq_none]

/-- The search for a blank sees the text up to the colon. -/
theorem rfindFrom_colon (before rest : List Char) :
    rfindFrom ' ' (before ++ ':' :: rest) before.length = rfind ' ' (before ++ [':']) := by
  rw [rfindFrom]
  congr 1
  simp [List.take_append]

/-- A found blank cuts the text before the colon at the start of an item. -/
theorem rfind_blank {before : List Char} {blank : Nat}
    (found : rfind ' ' (before ++ [':']) = some blank) :
    ∃ start item, before = start ++ ' ' :: item ∧ start.length = blank ∧ ' ' ∉ item := by
  obtain ⟨start, after, shape, length, absent⟩ := rfind_eq_some found
  rcases List.eq_nil_or_concat after with empty | ⟨item, last, shorter⟩
  · subst empty
    have last := congrArg List.getLast? shape
    simp at last
  · subst shorter
    have parts : before ++ [':'] = (start ++ ' ' :: item) ++ [last] := by simpa using shape
    obtain ⟨same, _⟩ := List.append_inj' parts rfl
    exact ⟨start, item, same, length, fun member => absent (by simp [member])⟩

/-- The two positions of a turn enclose the prefix of one item. -/
theorem stripPositions_some {types : List Char} {positions : Positions}
    (found : stripPositions types = some positions) :
    ∃ before item rest, types = before ++ item ++ ':' :: rest ∧ before.length = positions.pos2 ∧
      (before ++ item).length = positions.pos1 ∧ ':' ∉ rest ∧ ' ' ∉ item ∧
      (before = [] ∨ ∃ start, before = start ++ [' ']) := by
  cases colon : rfind ':' types with
  | none => simp [stripPositions, colon] at found
  | some pos1 =>
      obtain ⟨prior, rest, shape, length, clear⟩ := rfind_eq_some colon
      subst shape length
      simp only [stripPositions, colon] at found
      rw [rfindFrom_colon] at found
      cases blank : rfind ' ' (prior ++ [':']) with
      | none =>
          have absent : ' ' ∉ prior := by
            rw [rfind_eq_none, List.mem_append, not_or] at blank
            exact blank.1
          simp only [blank, Option.some.injEq] at found
          subst found
          exact ⟨[], prior, rest, rfl, rfl, rfl, clear, absent, Or.inl rfl⟩
      | some position =>
          obtain ⟨start, item, same, place, absent⟩ := rfind_blank blank
          subst same place
          simp only [blank, Option.some.injEq] at found
          subst found
          exact ⟨start ++ [' '], item, rest, by simp, by simp, by simp, clear, absent,
            Or.inr ⟨start, rfl⟩⟩

/-- A turn takes the prefix of one item out of the text. -/
theorem stripTurn_some {types next : List Char} (taken : stripTurn types = some next) :
    ∃ before item rest, types = before ++ item ++ ':' :: rest ∧ next = before ++ rest ∧
      ':' ∉ rest ∧ ' ' ∉ item ∧ (before = [] ∨ ∃ start, before = start ++ [' ']) := by
  rw [stripTurn_eq, Option.map_eq_some_iff] at taken
  obtain ⟨positions, found, erased⟩ := taken
  obtain ⟨before, item, rest, shape, start, colon, clear, absent, bounded⟩ :=
    stripPositions_some found
  refine ⟨before, item, rest, shape, ?_, clear, absent, bounded⟩
  have range : positions.pos1 - positions.pos2 + 1 = (item ++ [':']).length := by
    rw [List.length_append] at colon
    simp only [List.length_append, List.length_singleton]
    omega
  have middle := erase_middle before (item ++ [':']) rest
  rw [← erased, shape, range, ← start]
  simpa using middle

/-- A turn removes at least one colon. -/
theorem stripTurn_count {types next : List Char} (taken : stripTurn types = some next) :
    next.count ':' < types.count ':' := by
  obtain ⟨before, item, rest, shape, shorter, _⟩ := stripTurn_some taken
  subst shape shorter
  simp only [List.count_append, List.count_cons_self]
  omega

/-- The loop ends by itself, and the colons bound its turns. -/
theorem stripTypes_ends (types : List Char) :
    ∃ turns, turns ≤ types.count ':' ∧ Loop.Ends stripTurn types turns (stripTypes types) :=
  Loop.iterate_ends (fun _ _ => stripTurn_count) List.count_le_length

end Onvifxx.Daemon
