/-
This file gives the part of a path after its last separator.
-/

import Mathlib.Data.List.DropRight
import Mathlib.Tactic

namespace Onvifxx.PathName

variable {A : Type*} [DecidableEq A] {separator : A}

/-- The last part of a path has no separator. -/
def lastPart (separator : A) (path : List A) : List A := path.rtakeWhile (· ≠ separator)

theorem not_mem_lastPart (path : List A) : separator ∉ lastPart separator path := by
  intro member
  have other := List.mem_rtakeWhile_imp member
  simp at other

/-- A path without a separator is its own last part. -/
theorem lastPart_eq_self {path : List A} (absent : separator ∉ path) :
    lastPart separator path = path := by
  rw [lastPart, List.rtakeWhile_eq_self_iff]
  intro item member
  have other : item ≠ separator := fun same => absent (same ▸ member)
  simpa using other

theorem lastPart_concat (path : List A) (item : A) :
    lastPart separator (path ++ [item]) =
      if item = separator then [] else lastPart separator path ++ [item] := by
  rw [lastPart, List.rtakeWhile_concat]
  by_cases same : item = separator
  · simp [same]
  · simp [same, lastPart]

/-- What follows a separator decides the last part. -/
theorem lastPart_separator (before after : List A) :
    lastPart separator (before ++ separator :: after) = lastPart separator after := by
  induction after using List.reverseRecOn with
  | nil => simp [lastPart]
  | append_singleton after item ih =>
      have shape : before ++ separator :: (after ++ [item]) =
          (before ++ separator :: after) ++ [item] := by simp
      rw [shape, lastPart_concat, lastPart_concat, ih]

/-- A suffix without a separator extends the last part. -/
theorem lastPart_append {suffix : List A} (path : List A) (absent : separator ∉ suffix) :
    lastPart separator (path ++ suffix) = lastPart separator path ++ suffix := by
  induction suffix using List.reverseRecOn with
  | nil => simp
  | append_singleton suffix item ih =>
      simp only [List.mem_append, List.mem_singleton, not_or] at absent
      rw [← List.append_assoc, lastPart_concat, if_neg (Ne.symm absent.2), ih absent.1,
        List.append_assoc]

/-- The last part of a path follows its last separator, or the path has none. -/
def IsLastPart (separator : A) (path part : List A) : Prop :=
  separator ∉ part ∧ (path = part ∨ ∃ before, path = before ++ separator :: part)

theorem isLastPart_lastPart (path : List A) :
    IsLastPart separator path (lastPart separator path) := by
  refine ⟨not_mem_lastPart path, ?_⟩
  induction path using List.reverseRecOn with
  | nil => exact Or.inl rfl
  | append_singleton path item ih =>
      rw [lastPart_concat]
      by_cases same : item = separator
      · rw [if_pos same, same]
        exact Or.inr ⟨path, rfl⟩
      · rw [if_neg same]
        rcases ih with whole | ⟨before, split⟩
        · exact Or.inl (congrArg (· ++ [item]) whole)
        · exact Or.inr ⟨before, by simpa using congrArg (· ++ [item]) split⟩

theorem isLastPart_iff {path part : List A} :
    IsLastPart separator path part ↔ part = lastPart separator path := by
  constructor
  · rintro ⟨absent, rfl | ⟨before, rfl⟩⟩
    · exact (lastPart_eq_self absent).symm
    · rw [lastPart_separator, lastPart_eq_self absent]
  · rintro rfl
    exact isLastPart_lastPart path

end Onvifxx.PathName
