/-
This file gives the text that the system log makes of a format without arguments.
-/

import Mathlib.Tactic
import Mathlib.Data.List.TakeWhile

namespace Onvifxx.FormatText

/-- The text of the last error is plain, and it has no terminator inside. -/
structure ErrorText where
  text : List Char
  plain : '%' ∉ text
  ended : '\x00' ∉ text

/-- A conversion without its argument has no text. -/
def format (error : ErrorText) : List Char → Option (List Char)
  | [] => some []
  | '%' :: '%' :: rest => (format error rest).map ('%' :: ·)
  | '%' :: 'm' :: rest => (format error rest).map (error.text ++ ·)
  -- The standard leaves this conversion undefined, also where a library prints it as it is.
  | '%' :: _ => none
  | character :: rest => (format error rest).map (character :: ·)

/-- The text of a pointer to characters ends at the first terminator. -/
def cString (text : List Char) : List Char := text.takeWhile (· ≠ '\x00')

variable {error : ErrorText} {text result : List Char}

/-- A text without a percent sign is its own format. -/
theorem format_plain (plain : '%' ∉ text) : format error text = some text := by
  fun_induction format error text with
  | case1 => rfl
  | case2 rest ih => simp at plain
  | case3 rest ih => simp at plain
  | case4 rest => simp at plain
  | case5 character rest _ _ _ ih =>
      simp only [List.mem_cons, not_or] at plain
      rw [ih plain.2]
      rfl

/-- A format never makes more percent signs than it has, and it loses one of each pair. -/
theorem format_count (formatted : format error text = some result) :
    result.count '%' ≤ text.count '%' ∧ ('%' ∈ text → result.count '%' < text.count '%') := by
  fun_induction format error text generalizing result with
  | case1 => simp_all
  | case2 rest ih =>
      obtain ⟨tail, made, rfl⟩ := Option.map_eq_some_iff.mp formatted
      have bound := (ih made).1
      simp only [List.count_cons_self]
      omega
  | case3 rest ih =>
      obtain ⟨tail, made, rfl⟩ := Option.map_eq_some_iff.mp formatted
      have bound := (ih made).1
      have plain := List.count_eq_zero.mpr error.plain
      simp [List.count_append, plain]
      omega
  | case4 rest => cases formatted
  | case5 character rest _ _ other ih =>
      obtain ⟨tail, made, rfl⟩ := Option.map_eq_some_iff.mp formatted
      obtain ⟨bound, fewer⟩ := ih made
      rw [List.count_cons_of_ne other, List.count_cons_of_ne other]
      refine ⟨bound, fun member => fewer ?_⟩
      rcases List.mem_cons.mp member with same | inside
      · exact absurd same.symm other
      · exact inside

/-- A format makes no terminator that it does not have. -/
theorem format_ended (formatted : format error text = some result) (ended : '\x00' ∉ text) :
    '\x00' ∉ result := by
  fun_induction format error text generalizing result with
  | case1 => simp_all
  | case2 rest ih =>
      obtain ⟨tail, made, rfl⟩ := Option.map_eq_some_iff.mp formatted
      simp_all
  | case3 rest ih =>
      obtain ⟨tail, made, rfl⟩ := Option.map_eq_some_iff.mp formatted
      have clear := error.ended
      simp_all
  | case4 rest => cases formatted
  | case5 character rest _ _ _ ih =>
      obtain ⟨tail, made, rfl⟩ := Option.map_eq_some_iff.mp formatted
      simp_all

theorem cString_eq_self (ended : '\x00' ∉ text) : cString text = text := by
  rw [cString, List.takeWhile_eq_self_iff]
  intro character member
  have other : character ≠ '\x00' := fun same => ended (same ▸ member)
  simp [other]

theorem cString_ended (text : List Char) : '\x00' ∉ cString text := by
  intro member
  have other := List.mem_takeWhile_imp member
  simp at other

/-- The system log gets a text unchanged exactly when nothing in it has a meaning. -/
theorem format_cString_iff :
    format error (cString text) = some text ↔ '%' ∉ text ∧ '\x00' ∉ text := by
  constructor
  · intro verbatim
    have ended := format_ended verbatim (cString_ended text)
    rw [cString_eq_self ended] at verbatim
    refine ⟨fun member => ?_, ended⟩
    exact lt_irrefl _ ((format_count verbatim).2 member)
  · rintro ⟨plain, ended⟩
    rw [cString_eq_self ended, format_plain plain]

end Onvifxx.FormatText
