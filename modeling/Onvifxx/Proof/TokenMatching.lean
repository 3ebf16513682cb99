/-
This file proves which matches depend on the tokens of their lists alone.
-/

import Onvifxx.Construction.Matching

namespace Onvifxx.Daemon

open Tokens

/-- The two lists share a token. -/
def Shares (left right : List Char) : Prop :=
  ∃ token, token ∈ tokens isSpace left ∧ token ∈ tokens isSpace right

/-- Both lists are empty or have white space at an end. -/
def BothEdges (left right : List Char) : Prop := Edge isSpace left ∧ Edge isSpace right

def SameTokens (text other : List Char) : Prop :=
  ∀ token, token ∈ tokens isSpace text ↔ token ∈ tokens isSpace other

/-- The empty parts at two edges match as a shared token does. -/
theorem isMatched_iff (left right : List Char) :
    isMatched left right = true ↔ Shares left right ∨ BothEdges left right := by
  simp only [isMatched, List.any_eq_true, List.contains_iff_mem, mem_split]
  constructor
  · rintro ⟨part, found | ⟨empty, edge⟩, other | ⟨void, margin⟩⟩
    · exact Or.inl ⟨part, found, other⟩
    · exact absurd void (mem_tokens.mp found).2
    · exact absurd empty (mem_tokens.mp other).2
    · exact Or.inr ⟨edge, margin⟩
  · rintro (⟨token, found, other⟩ | ⟨edge, margin⟩)
    · exact ⟨token, Or.inl found, Or.inl other⟩
    · exact ⟨[], Or.inr ⟨rfl, edge⟩, Or.inr ⟨rfl, margin⟩⟩

theorem shares_congr {left right left' right' : List Char} (same : SameTokens left left')
    (same' : SameTokens right right') : Shares left right ↔ Shares left' right' :=
  exists_congr fun token => and_congr (same token) (same' token)

/-- Equal tokens give equal answers exactly when they decide, or when the edges agree. -/
theorem isMatched_tokens_iff (left right left' right' : List Char)
    (same : SameTokens left left') (same' : SameTokens right right') :
    isMatched left right = isMatched left' right' ↔
      Shares left right ∨ (BothEdges left right ↔ BothEdges left' right') := by
  rw [Bool.eq_iff_iff, isMatched_iff, isMatched_iff, ← shares_congr same same']
  by_cases shared : Shares left right
  · simp [shared]
  · simp [shared]

theorem isMatched_tokens_order :
    isMatched "a b".toList "b".toList = isMatched "b  a".toList "b".toList := by
  have same : SameTokens "a b".toList "b  a".toList := by
    have forward : tokens isSpace "a b".toList = ["a".toList, "b".toList] := by decide
    have backward : tokens isSpace "b  a".toList = ["b".toList, "a".toList] := by decide
    intro token
    rw [forward, backward]
    simp [or_comm]
  have shared : Shares "a b".toList "b".toList := ⟨"b".toList, by decide, by decide⟩
  exact (isMatched_tokens_iff _ _ _ _ same fun _ => Iff.rfl).mpr (Or.inl shared)

/-- A blank before both lists adds a match that their tokens do not have. -/
theorem isMatched_seesEdges :
    ¬ ∀ left right left' right' : List Char, SameTokens left left' → SameTokens right right' →
      isMatched left right = isMatched left' right' := by
  intro congruent
  have first : tokens isSpace " a".toList = tokens isSpace "a".toList := by decide
  have second : tokens isSpace " b".toList = tokens isSpace "b".toList := by decide
  have equal := congruent " a".toList " b".toList "a".toList "b".toList
    (fun token => by rw [first]) (fun token => by rw [second])
  revert equal
  decide

end Onvifxx.Daemon
