/-
This file compares the order of a merged log with the orders of its parts.
-/

import Mathlib.Tactic

namespace Onvifxx

variable {Item Key : Type*} [DecidableEq Key]

/-- The items of a merged log that come from one of its parts. -/
def part (key : Item → Key) (log : List Item) (wanted : Key) : List Item :=
  log.filter fun item => key item = wanted

theorem part_append (key : Item → Key) (first second : List Item) (wanted : Key) :
    part key (first ++ second) wanted = part key first wanted ++ part key second wanted :=
  List.filter_append ..

/-- New items of one part extend that part and no other one. -/
theorem part_of_same {key : Item → Key} {items : List Item} {source : Key}
    (same : ∀ item ∈ items, key item = source) (wanted : Key) :
    part key items wanted = if source = wanted then items else [] := by
  split
  · rename_i own
    exact List.filter_eq_self.mpr fun item member => by simp [same item member, own]
  · rename_i other
    exact List.filter_eq_nil_iff.mpr fun item member => by simp [same item member, other]

/-- A relation between items of different parts that orders each part orders the whole log. -/
theorem pairwise_of_parts {key : Item → Key} {relation : Item → Item → Prop} {log : List Item}
    (own : ∀ wanted, (part key log wanted).Pairwise relation)
    (other : ∀ earlier ∈ log, ∀ later ∈ log, key earlier ≠ key later → relation earlier later) :
    log.Pairwise relation := by
  induction log with
  | nil => exact List.Pairwise.nil
  | cons item rest ih =>
      have restOwn : ∀ wanted, (part key rest wanted).Pairwise relation := by
        intro wanted
        exact (own wanted).sublist ((List.sublist_cons_self item rest).filter _)
      have restOther := fun earlier member later memberLater =>
        other earlier (List.mem_cons_of_mem item member) later (List.mem_cons_of_mem item memberLater)
      refine List.pairwise_cons.mpr ⟨?_, ih restOwn restOther⟩
      intro later member
      by_cases same : key item = key later
      · have itemOwn := own (key later)
        rw [part, List.filter_cons_of_pos (by simpa using same)] at itemOwn
        exact (List.pairwise_cons.mp itemOwn).1 later (List.mem_filter.mpr ⟨member, by simp⟩)
      · exact other item List.mem_cons_self later (List.mem_cons_of_mem item member) same

end Onvifxx
