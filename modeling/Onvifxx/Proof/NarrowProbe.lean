/-
This file proves when a narrower probe finds no more than a wider one.
-/

import Onvifxx.Library.Insertion
import Onvifxx.Proof.TokenMatching
import Onvifxx.Proof.TypePrefixes

namespace Onvifxx.Daemon

open RemoteDiscovery Tokens Insertion

/-- The items between the blanks of a list, and none in an empty text. -/
def listItems (text : List Char) : List (List Char) :=
  if text = [] then [] else text.splitOn ' '

/-- The second list adds allowed items to the first, and an absent list may become any list. -/
def Adds (allowed : String → Prop) : Option String → Option String → Prop
  | none, _ => True
  | some text, some wider =>
      Inserted (fun item => allowed (String.ofList item)) (listItems text.toList)
        (listItems wider.toList)
  | some _, none => False

theorem adds_some {allowed : String → Prop} {text wider : String} :
    Adds allowed (some text) (some wider) ↔
      Inserted (fun item => allowed (String.ofList item)) (listItems text.toList)
        (listItems wider.toList) := Iff.rfl

/-- A list passes when one side has none, and otherwise after its own change. -/
def listMatched (strip : List Char → List Char) (list offered : Option String) : Bool :=
  match list, offered with
  | some list, some offered => isMatched (strip list.toList) offered.toList
  | _, _ => true

def typesMatched (advertised : ProbeMatchT) (types : Option String) : Bool :=
  listMatched stripTypes types advertised.types

def scopesMatched (advertised : ProbeMatchT) (scopes : Option String) : Bool :=
  listMatched id scopes (advertised.scopes.map ScopesT.item)

/-- The daemon answers exactly when both lists of the probe pass. -/
theorem probe_eq_nil (advertised : ProbeMatchT) (arg : ProbeT) :
    probe advertised arg = [] ↔ typesMatched advertised arg.types = false ∨
      scopesMatched advertised (arg.scopes.map ScopesT.item) = false := by
  obtain ⟨types, scopes⟩ := arg
  obtain ⟨_, offeredTypes, offeredScopes, _, _⟩ := advertised
  unfold probe typesMatched scopesMatched listMatched
  cases types with
  | none => cases scopes <;> cases offeredScopes <;> simp
  | some types =>
      cases offeredTypes with
      | none => cases scopes <;> cases offeredScopes <;> simp
      | some offered =>
          -- The second stage runs only after the first one has matched.
          cases first : isMatched (stripTypes types.toList) offered.toList <;>
            cases scopes <;> cases offeredScopes <;> simp [first]

theorem joined_listItems (text : List Char) : joined ' ' (listItems text) = text := by
  unfold listItems
  split
  · next empty => rw [empty]; rfl
  · exact List.intercalate_splitOn ' '

/-- An item of a list has no blank, so the loop cuts it once. -/
theorem stripTypes_item {text item : List Char} (member : item ∈ listItems text) :
    stripTypes item = afterLast ':' item := by
  have whole : ' ' ∉ item := by
    intro blank
    unfold listItems at member
    split at member
    · simp at member
    · simpa using (mem_part member blank).2
  rw [stripTypes_eq, strippedItems, List.splitOn_eq_singleton whole]
  simp [joined]

/-- The loop strips each item of a list by itself. -/
theorem stripTypes_listItems (types : List Char) :
    stripTypes types = joined ' ' ((listItems types).map stripTypes) := by
  rw [List.map_congr_left fun item member => stripTypes_item member]
  unfold listItems
  split
  · next empty => rw [empty]; rfl
  · exact stripTypes_eq types

/-- A refused list stays refused when each added item is refused by itself. -/
theorem isMatched_inserted {offered : List Char} {items wider : List (List Char)}
    (refused : isMatched (joined ' ' items) offered = false)
    (inserted : Inserted (fun item => isMatched item offered = false) items wider) :
    isMatched (joined ' ' wider) offered = false := by
  have refuses : ∀ text, isMatched text offered = false ↔
      ¬ Shares text offered ∧ ¬ BothEdges text offered := by
    intro text
    rw [← Bool.not_eq_true, isMatched_iff, not_or]
  simp only [refuses] at refused inserted ⊢
  constructor
  · rintro ⟨token, found, other⟩
    rw [tokens_joined isSpace_blank, List.mem_flatMap] at found
    obtain ⟨item, member, inside⟩ := found
    rcases inserted.mem member with old | apart
    · refine refused.1 ⟨token, ?_, other⟩
      rw [tokens_joined isSpace_blank, List.mem_flatMap]
      exact ⟨item, old, inside⟩
    · exact apart.1 ⟨token, inside, other⟩
  · rintro ⟨edge, margin⟩
    have inner : ¬ Edge isSpace (joined ' ' items) := fun own => refused.2 ⟨own, margin⟩
    rw [not_edge_joined isSpace_blank] at inner
    have proper : ∀ item, ¬ Shares item offered ∧ ¬ BothEdges item offered →
        item.head?.all isSpace = false ∧ item.getLast?.all isSpace = false := by
      rintro item ⟨_, apart⟩
      have whole : ¬ Edge isSpace item := fun own => apart ⟨own, margin⟩
      rw [Edge, not_or, Bool.not_eq_true, Bool.not_eq_true] at whole
      exact whole
    refine absurd edge ((not_edge_joined isSpace_blank wider).mpr ⟨?_, ?_⟩)
    · exact inserted.head (fun item fits => (proper item fits).1) inner.1
    · exact inserted.getLast (fun item fits => (proper item fits).2) inner.2

/-- A refused list stays refused when its change works item by item. -/
theorem listMatched_adds {strip : List Char → List Char} {list wider offered : Option String}
    (itemwise : ∀ text, strip text = joined ' ' ((listItems text).map strip))
    (refused : listMatched strip list offered = false)
    (adds : Adds (fun item => listMatched strip (some item) offered = false) list wider) :
    listMatched strip wider offered = false := by
  cases list with
  | none => simp [listMatched] at refused
  | some list =>
      cases wider with
      | none => exact adds.elim
      | some wider =>
          cases offered with
          | none => simp [listMatched] at refused
          | some offered =>
              simp only [listMatched, Adds, String.toList_ofList] at refused adds ⊢
              rw [itemwise] at refused ⊢
              exact isMatched_inserted refused (adds.map strip fun _ fits => fits)

/-- The wider probe adds items.
One list that refuses the first probe refuses each of its new items by itself. -/
structure Narrows (advertised : ProbeMatchT) (arg wider : ProbeT) : Prop where
  types : Adds (fun _ => True) arg.types wider.types
  scopes : Adds (fun _ => True) (arg.scopes.map ScopesT.item) (wider.scopes.map ScopesT.item)
  refuses :
    typesMatched advertised arg.types = false ∧
        Adds (fun item => typesMatched advertised (some item) = false) arg.types wider.types ∨
      scopesMatched advertised (arg.scopes.map ScopesT.item) = false ∧
        Adds (fun item => scopesMatched advertised (some item) = false)
          (arg.scopes.map ScopesT.item) (wider.scopes.map ScopesT.item)

/-- A refused probe stays refused when one list that refuses it goes on to refuse. -/
theorem probe_narrows (advertised : ProbeMatchT) (arg wider : ProbeT)
    (narrows : Narrows advertised arg wider) :
    probe advertised arg = [] ∧ probe advertised wider = [] := by
  rw [probe_eq_nil, probe_eq_nil]
  rcases narrows.refuses with ⟨refused, added⟩ | ⟨refused, added⟩
  · exact ⟨Or.inl refused, Or.inl (listMatched_adds stripTypes_listItems refused added)⟩
  · have itemwise : ∀ text, id text = joined ' ' ((listItems text).map id) := by
      intro text
      rw [List.map_id, joined_listItems, id]
    exact ⟨Or.inr refused, Or.inr (listMatched_adds itemwise refused added)⟩

/-- The types and the scopes that the example daemon advertises. -/
def sampleMatch : ProbeMatchT where
  endpoint := none
  types := some "NetworkVideoTransmitter"
  scopes := some ⟨"onvif://www.onvif.org/type/ptz", none⟩
  xaddrs := none
  version := 1

/-- A refused scope refuses the probe, also when its types get the advertised one. -/
theorem probe_narrows_display :
    probe sampleMatch ⟨some "Display", some ⟨"onvif://nope", none⟩⟩ = [] ∧
      probe sampleMatch ⟨some "Display NetworkVideoTransmitter", some ⟨"onvif://nope", none⟩⟩ =
        [] := by
  have first : listItems "Display".toList = ["Display".toList] := by decide
  have second : listItems "Display NetworkVideoTransmitter".toList =
      ["Display".toList, "NetworkVideoTransmitter".toList] := by decide
  have scope : listItems "onvif://nope".toList = ["onvif://nope".toList] := by decide
  apply probe_narrows
  constructor
  · refine adds_some.mpr ?_
    rw [first, second]
    exact .keep _ (.add trivial .nil)
  · refine adds_some.mpr ?_
    rw [scope]
    exact .keep _ .nil
  · refine Or.inr ⟨by decide, adds_some.mpr ?_⟩
    rw [scope]
    exact .keep _ .nil

/-- The search for any common type lets an added type widen the answer. -/
theorem probe_widens :
    ¬ ∀ (advertised : ProbeMatchT) (arg wider : ProbeT), probe advertised arg = [] →
      Adds (fun item => tokens isSpace item.toList = [item.toList]) arg.types wider.types →
      Adds (fun item => tokens isSpace item.toList = [item.toList])
        (arg.scopes.map ScopesT.item) (wider.scopes.map ScopesT.item) →
      probe advertised wider = [] := by
  intro narrows
  have first : listItems "Display".toList = ["Display".toList] := by decide
  have second : listItems "Display NetworkVideoTransmitter".toList =
      ["Display".toList, "NetworkVideoTransmitter".toList] := by decide
  have types : Adds (fun item => tokens isSpace item.toList = [item.toList])
      (some "Display") (some "Display NetworkVideoTransmitter") := by
    rw [adds_some, first, second]
    exact .keep _ (.add (by decide) .nil)
  have found := narrows sampleMatch ⟨some "Display", none⟩
    ⟨some "Display NetworkVideoTransmitter", none⟩ (by decide) types trivial
  revert found
  decide

end Onvifxx.Daemon
