/-
This file proves that the removal of the prefixes of a probe ends inside its text.
-/

import Onvifxx.Construction.Matching

namespace Onvifxx.Daemon

/-- A turn erases a range of the text, and the range ends with the last colon. -/
theorem stripPositions_inside {types : List Char} {positions : Positions}
    (found : stripPositions types = some positions) :
    positions.pos2 ≤ positions.pos1 ∧ positions.pos1 < types.length := by
  obtain ⟨before, item, rest, shape, start, colon, _⟩ := stripPositions_some found
  have length := congrArg List.length shape
  simp only [List.length_append, List.length_cons] at colon length
  omega

/-- A turn leaves the other characters in their order. -/
theorem stripTurn_sublist {types next : List Char} (taken : stripTurn types = some next) :
    next.Sublist types := by
  obtain ⟨before, item, rest, shape, shorter, _⟩ := stripTurn_some taken
  rw [shape, shorter, List.append_assoc]
  have kept : rest.Sublist (item ++ ':' :: rest) :=
    (List.sublist_cons_self ':' rest).trans (List.sublist_append_right item (':' :: rest))
  exact kept.append_left before

/-- The loop only ever sees characters of its text in their order. -/
theorem visits_sublist {types state : List Char} (visited : Loop.Visits stripTurn types state) :
    state.Sublist types :=
  visited.invariant (fun _ _ earlier taken => (stripTurn_sublist taken).trans earlier)
    (List.Sublist.refl types)

/-- A turn of the loop erases a range that ends with a colon of its text. -/
def ErasesInside (types next : List Char) : Prop :=
  ∃ positions, stripPositions types = some positions ∧
    positions.pos2 ≤ positions.pos1 ∧ positions.pos1 < types.length ∧
    types[positions.pos1]? = some ':' ∧
    next = CppString.erase types positions.pos2 (positions.pos1 - positions.pos2 + 1)

theorem stripTurn_erases {types next : List Char} (taken : stripTurn types = some next) :
    ErasesInside types next := by
  rw [stripTurn_eq, Option.map_eq_some_iff] at taken
  obtain ⟨positions, found, erased⟩ := taken
  obtain ⟨ordered, inside⟩ := stripPositions_inside found
  refine ⟨positions, found, ordered, inside, ?_, erased.symm⟩
  obtain ⟨before, item, rest, shape, start, colon, _⟩ := stripPositions_some found
  rw [shape, ← colon]
  simp

/-- The loop ends within as many turns as the text has colons, and each turn stays in its text. -/
theorem stripTypes_terminates (types : List Char) :
    ∃ turns, turns ≤ types.count ':' ∧ Loop.Ends stripTurn types turns (stripTypes types) ∧
      (∀ state next, Loop.Visits stripTurn types state → stripTurn state = some next →
        ErasesInside state next) ∧
      ':' ∉ stripTypes types ∧ (stripTypes types).Sublist types := by
  obtain ⟨turns, bounded, ended⟩ := stripTypes_ends types
  refine ⟨turns, bounded, ended, ?_, stripTurn_eq_none.mp ended.left, visits_sublist ended.visits⟩
  intro state next _ taken
  exact stripTurn_erases taken

end Onvifxx.Daemon
