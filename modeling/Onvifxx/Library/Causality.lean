/-
This file describes traces in which events explain and answer each other.
-/

import Mathlib.Tactic

namespace Onvifxx

variable {Event : Type*} {explains weaker : List Event → Event → Prop}

/-- The events before an event explain it. -/
def Explained (explains : List Event → Event → Prop) (trace : List Event) : Prop :=
  ∀ earlier event later, trace = earlier ++ event :: later → explains earlier event

namespace Explained

theorem nil : Explained explains [] := by
  intro earlier event later split
  simp at split

/-- A new event is explained by the whole trace before it. -/
theorem concat {trace : List Event} {event : Event} (explained : Explained explains trace)
    (new : explains trace event) : Explained explains (trace ++ [event]) := by
  intro earlier found later split
  rcases List.eq_nil_or_concat later with rfl | ⟨rest, last, rfl⟩
  · obtain ⟨same, last⟩ := List.append_inj' split rfl
    rw [← same, ← List.singleton_inj.mp last]
    exact new
  · rw [List.concat_eq_append, ← List.cons_append, ← List.append_assoc] at split
    exact explained earlier found rest (List.append_inj' split rfl).1

/-- An explanation may forget a part of what it says. -/
theorem imp {trace : List Event} (explained : Explained explains trace)
    (forgets : ∀ earlier event, explains earlier event → weaker earlier event) :
    Explained weaker trace :=
  fun earlier event later split => forgets earlier event (explained earlier event later split)

end Explained

/-- The event is in the trace, and no event of its concern comes after it. -/
def Latest (concerns : Event → Prop) (event : Event) (trace : List Event) : Prop :=
  ∃ before after, trace = before ++ event :: after ∧ ∀ later ∈ after, ¬ concerns later

namespace Latest

variable {concerns : Event → Prop} {event : Event}

theorem mem {trace : List Event} (latest : Latest concerns event trace) : event ∈ trace := by
  obtain ⟨before, after, rfl, -⟩ := latest
  exact List.mem_append_right before List.mem_cons_self

theorem concat (trace : List Event) : Latest concerns event (trace ++ [event]) :=
  ⟨trace, [], rfl, by simp⟩

/-- Events of other concerns leave an event the latest one. -/
theorem append {trace more : List Event} (latest : Latest concerns event trace)
    (other : ∀ later ∈ more, ¬ concerns later) : Latest concerns event (trace ++ more) := by
  obtain ⟨before, after, rfl, clear⟩ := latest
  refine ⟨before, after ++ more, by simp, ?_⟩
  intro later member
  rcases List.mem_append.mp member with old | new
  · exact clear later old
  · exact other later new

end Latest

/-- Each event is followed by what it calls for. -/
def Followed (follows : Event → List Event → Prop) (trace : List Event) : Prop :=
  ∀ earlier event later, trace = earlier ++ event :: later → follows event later

namespace Followed

variable {follows : Event → List Event → Prop}

theorem cons {event : Event} {rest : List Event} (first : follows event rest)
    (followed : Followed follows rest) : Followed follows (event :: rest) := by
  intro earlier found later split
  cases earlier with
  | nil =>
      obtain ⟨rfl, rfl⟩ := List.cons.inj split
      exact first
  | cons before earlier => exact followed earlier found later (List.cons.inj split).2

/-- A trace follows what its events call for when each of them calls for nothing. -/
theorem of_forall {trace : List Event} (free : ∀ event ∈ trace, ∀ later, follows event later) :
    Followed follows trace := by
  rintro earlier event later rfl
  exact free event (List.mem_append_right _ List.mem_cons_self) later

end Followed

/-- An event with a key stands alone among the events with that key when no key comes twice. -/
theorem filter_eq_singleton {Key : Type*} [DecidableEq Key] {key : Event → Option Key}
    {trace : List Event} {event : Event} {own : Key} (distinct : (trace.filterMap key).Nodup)
    (member : event ∈ trace) (keyed : key event = some own) :
    trace.filter (fun found => key found = some own) = [event] := by
  induction trace with
  | nil => cases member
  | cons first rest ih =>
      rw [List.filterMap_cons] at distinct
      cases here : key first with
      | none =>
          simp only [here] at distinct
          have other : event ≠ first := by
            rintro rfl
            rw [keyed] at here
            cases here
          rw [List.filter_cons_of_neg (by simp [here])]
          exact ih distinct (List.mem_of_ne_of_mem other member)
      | some found =>
          simp only [here, List.nodup_cons] at distinct
          by_cases same : found = own
          · subst same
            have absent : ∀ later ∈ rest, key later ≠ some found := fun later inside equal =>
              distinct.1 (List.mem_filterMap.mpr ⟨later, inside, equal⟩)
            have alone : event = first := by
              rcases List.mem_cons.mp member with equal | later
              · exact equal
              · exact absurd keyed (absent event later)
            rw [List.filter_cons_of_pos (by simp [here]), alone,
              List.filter_eq_nil_iff.mpr (by simpa using absent)]
          · have other : event ≠ first := by
              rintro rfl
              rw [keyed, Option.some.injEq] at here
              exact same here.symm
            rw [List.filter_cons_of_neg (by simp [here, same])]
            exact ih distinct.2 (List.mem_of_ne_of_mem other member)

end Onvifxx
