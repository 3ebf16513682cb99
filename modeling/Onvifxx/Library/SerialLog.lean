/-
This file describes an issuer of serial numbers by what it may do.
-/

import Mathlib.Logic.Relation
import Mathlib.Tactic

namespace Onvifxx

/-- The issuer remembers its last serial and the published ones in order. -/
structure SerialLog where
  last : Nat
  published : List Nat

namespace SerialLog

/-- Each draw takes a new serial, which is published at most once. -/
inductive Step : SerialLog → SerialLog → Prop
  | quiet (log : SerialLog) : Step log log
  | draw (last : Nat) (published : List Nat) : Step ⟨last, published⟩ ⟨last + 1, published⟩
  | publish (last : Nat) (published : List Nat) :
      Step ⟨last, published⟩ ⟨last + 1, published ++ [last + 1]⟩

/-- The published serials grow, and none is ahead of the issuer. -/
structure Ordered (log : SerialLog) : Prop where
  grows : log.published.Pairwise (· < ·)
  behind : ∀ serial ∈ log.published, serial ≤ log.last

theorem ordered_nil (last : Nat) : Ordered ⟨last, []⟩ := ⟨List.Pairwise.nil, by simp⟩

/-- One step keeps the published serials in order. -/
theorem Step.ordered {before after : SerialLog} (step : Step before after) (ordered : Ordered before) :
    Ordered after := by
  cases step with
  | quiet => exact ordered
  | draw last published =>
      exact ⟨ordered.grows, fun serial member => Nat.le_succ_of_le (ordered.behind serial member)⟩
  | publish last published =>
      constructor
      · apply List.pairwise_append.mpr
        refine ⟨ordered.grows, List.pairwise_singleton _ _, ?_⟩
        intro earlier member later same
        rw [List.mem_singleton.mp same]
        exact Nat.lt_succ_of_le (ordered.behind earlier member)
      · intro serial member
        rcases List.mem_append.mp member with earlier | new
        · exact Nat.le_succ_of_le (ordered.behind serial earlier)
        · exact (List.mem_singleton.mp new).le

/-- Any number of steps keeps the published serials in order. -/
theorem ordered_of_reaches {before after : SerialLog}
    (reaches : Relation.ReflTransGen Step before after) (ordered : Ordered before) :
    Ordered after := by
  induction reaches with
  | refl => exact ordered
  | tail _ step ih => exact step.ordered ih

end SerialLog
end Onvifxx
