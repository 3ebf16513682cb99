/-
This file gives the searches and the edits of a string by its positions.
-/

import Mathlib.Tactic

namespace Onvifxx.CppString

/-- The first position of a character, or none. -/
def find (character : Char) : List Char → Option Nat
  | [] => none
  | first :: rest => if first = character then some 0 else (find character rest).map (· + 1)

/-- The last position of a character, or none. -/
def rfind (character : Char) : List Char → Option Nat
  | [] => none
  | first :: rest =>
      match rfind character rest with
      | some position => some (position + 1)
      | none => if first = character then some 0 else none

/-- The last position of a character that does not pass a bound. -/
def rfindFrom (character : Char) (text : List Char) (bound : Nat) : Option Nat :=
  rfind character (text.take (bound + 1))

/-- The caller keeps the position inside the text, and no count takes the whole rest. -/
def substr (text : List Char) (position : Nat) (count : Option Nat) : List Char :=
  match count with
  | some count => (text.drop position).take count
  | none => text.drop position

/-- The caller keeps the position inside the text. -/
def erase (text : List Char) (position count : Nat) : List Char :=
  text.take position ++ text.drop (position + count)

variable {character : Char} {text : List Char} {position : Nat}

theorem find_eq_none : find character text = none ↔ character ∉ text := by
  induction text with
  | nil => simp [find]
  | cons first rest ih =>
      by_cases same : first = character
      · simp [find, same]
      · simp [find, same, ih, Ne.symm same]

/-- A found position cuts the text before the first occurrence. -/
theorem find_append {before after : List Char} (absent : character ∉ before) :
    find character (before ++ character :: after) = some before.length := by
  induction before with
  | nil => simp [find]
  | cons first rest ih =>
      simp only [List.mem_cons, not_or] at absent
      simp [find, Ne.symm absent.1, ih absent.2]

theorem rfind_eq_none : rfind character text = none ↔ character ∉ text := by
  induction text with
  | nil => simp [rfind]
  | cons first rest ih =>
      cases found : rfind character rest with
      | some position =>
          have present : character ∈ rest := by
            by_contra absent
            rw [ih.mpr absent] at found
            cases found
          simp [rfind, found, present]
      | none =>
          have absent := ih.mp found
          simp [rfind, found, absent, eq_comm]

/-- A found position cuts the text at the last occurrence. -/
theorem rfind_eq_some (found : rfind character text = some position) :
    ∃ before after, text = before ++ character :: after ∧ before.length = position ∧
      character ∉ after := by
  induction text generalizing position with
  | nil => simp [rfind] at found
  | cons first rest ih =>
      cases later : rfind character rest with
      | some last =>
          simp only [rfind, later, Option.some.injEq] at found
          obtain ⟨before, after, cut, length, absent⟩ := ih later
          exact ⟨first :: before, after, by rw [cut]; rfl, by simp [length, ← found], absent⟩
      | none =>
          simp only [rfind, later] at found
          split at found
          · next same =>
              have absent := rfind_eq_none.mp later
              exact ⟨[], rest, by rw [same]; rfl, by simpa using found, absent⟩
          · cases found

/-- The erased range lies between the two parts that remain. -/
theorem erase_middle (before middle after : List Char) :
    erase (before ++ middle ++ after) before.length middle.length = before ++ after := by
  simp [erase]

end Onvifxx.CppString
