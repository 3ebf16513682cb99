/-
This file gives the insertions that keep the order of a list.
-/

import Mathlib.Tactic

namespace Onvifxx.Insertion

variable {A B : Type*} {allowed : A → Prop} {items wider : List A}

/-- The wider list keeps each item in order, and each added item is allowed. -/
inductive Inserted (allowed : A → Prop) : List A → List A → Prop where
  | nil : Inserted allowed [] []
  | keep (item : A) {items wider : List A} (rest : Inserted allowed items wider) :
      Inserted allowed (item :: items) (item :: wider)
  | add {item : A} {items wider : List A} (fits : allowed item) (rest : Inserted allowed items wider) :
      Inserted allowed items (item :: wider)

namespace Inserted

/-- An item of the wider list is an old one or an allowed one. -/
theorem mem (inserted : Inserted allowed items wider) {item : A} (member : item ∈ wider) :
    item ∈ items ∨ allowed item := by
  induction inserted with
  | nil => simp at member
  | keep first rest ih =>
      rcases List.mem_cons.mp member with same | inside
      · exact Or.inl (by simp [same])
      · exact (ih inside).imp_left (List.mem_cons_of_mem first)
  | add fits rest ih =>
      rcases List.mem_cons.mp member with same | inside
      · exact Or.inr (same ▸ fits)
      · exact ih inside

theorem map {permitted : B → Prop} (change : A → B)
    (fits : ∀ item, allowed item → permitted (change item))
    (inserted : Inserted allowed items wider) :
    Inserted permitted (items.map change) (wider.map change) := by
  induction inserted with
  | nil => exact nil
  | keep item rest ih => exact keep (change item) ih
  | add fit rest ih => exact add (fits _ fit) ih

theorem append {more widerMore : List A} (first : Inserted allowed items wider)
    (second : Inserted allowed more widerMore) :
    Inserted allowed (items ++ more) (wider ++ widerMore) := by
  induction first with
  | nil => exact second
  | keep item rest ih => exact keep item ih
  | add fits rest ih => exact add fits ih

theorem reverse (inserted : Inserted allowed items wider) :
    Inserted allowed items.reverse wider.reverse := by
  induction inserted with
  | nil => exact nil
  | keep item rest ih =>
      rw [List.reverse_cons, List.reverse_cons]
      exact ih.append (keep item nil)
  | add fits rest ih =>
      rw [List.reverse_cons, ← List.append_nil (List.reverse _)]
      exact ih.append (add fits nil)

/-- The wider list starts with the old first item or with an allowed one. -/
theorem head {proper : A → Prop} (inserted : Inserted allowed items wider)
    (fits : ∀ item, allowed item → proper item) (starts : ∃ item ∈ items.head?, proper item) :
    ∃ item ∈ wider.head?, proper item := by
  cases inserted with
  | nil => exact starts
  | keep item rest => simpa using starts
  | add fit rest => exact ⟨_, rfl, fits _ fit⟩

/-- The wider list ends with the old last item or with an allowed one. -/
theorem getLast {proper : A → Prop} (inserted : Inserted allowed items wider)
    (fits : ∀ item, allowed item → proper item) (ends : ∃ item ∈ items.getLast?, proper item) :
    ∃ item ∈ wider.getLast?, proper item := by
  rw [List.getLast?_eq_head?_reverse] at ends ⊢
  exact inserted.reverse.head fits ends

end Inserted
end Onvifxx.Insertion
