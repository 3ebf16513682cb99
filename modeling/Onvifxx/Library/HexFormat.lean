/-
This file gives hexadecimal conversions and matching against a form of character classes.
-/

import Mathlib.Tactic

namespace Onvifxx.HexFormat

/-- The conversion prints at least `precision` digits and fills a field of `width` with blanks. -/
def hex (width precision value : Nat) : List Char :=
  let digits := Nat.toDigits 16 value
  let padded := List.replicate (precision - digits.length) '0' ++ digits
  List.replicate (width - padded.length) ' ' ++ padded

def isLowerHex (c : Char) : Bool := c.isDigit || ('a' ≤ c && c ≤ 'f')

/-- A form gives one class for each character of the text. -/
def fits : List (Char → Bool) → List Char → Bool
  | [], [] => true
  | accepts :: form, c :: text => accepts c && fits form text
  | _, _ => false

def literal (text : String) : List (Char → Bool) := text.toList.map fun expected c => c == expected

def lowerHex (count : Nat) : List (Char → Bool) := List.replicate count isLowerHex

theorem fits_length {form : List (Char → Bool)} {text : List Char} (fit : fits form text = true) :
    text.length = form.length := by
  induction form generalizing text with
  | nil =>
      cases text with
      | nil => rfl
      | cons c rest => simp [fits] at fit
  | cons accepts form ih =>
      cases text with
      | nil => simp [fits] at fit
      | cons c rest =>
          simp only [fits, Bool.and_eq_true] at fit
          simp only [List.length_cons, ih fit.2]

/-- Two texts that fit their forms fit the joined form. -/
theorem fits_append {first second : List (Char → Bool)} {left right : List Char}
    (leftFits : fits first left = true) (rightFits : fits second right = true) :
    fits (first ++ second) (left ++ right) = true := by
  induction first generalizing left with
  | nil =>
      cases left with
      | nil => exact rightFits
      | cons c rest => simp [fits] at leftFits
  | cons accepts first ih =>
      cases left with
      | nil => simp [fits] at leftFits
      | cons c rest =>
          simp only [fits, Bool.and_eq_true] at leftFits
          simp only [List.cons_append, fits, Bool.and_eq_true]
          exact ⟨leftFits.1, ih leftFits.2⟩

theorem fits_literal (text : String) : fits (literal text) text.toList = true := by
  unfold literal
  induction text.toList with
  | nil => rfl
  | cons c rest ih => simp [fits, ih]

theorem fits_lowerHex {text : List Char} (digits : ∀ c ∈ text, isLowerHex c = true) :
    fits (lowerHex text.length) text = true := by
  induction text with
  | nil => rfl
  | cons c rest ih =>
      simp only [lowerHex, List.length_cons, List.replicate_succ, fits, Bool.and_eq_true]
      exact ⟨digits c (by simp), ih fun other member => digits other (by simp [member])⟩

theorem isLowerHex_digitChar (digit : Nat) (small : digit < 16) :
    isLowerHex digit.digitChar = true := by
  interval_cases digit <;> rfl

/-- The digits of a number in base sixteen are lower-case hexadecimal digits. -/
theorem isLowerHex_of_mem_toDigits (value : Nat) :
    ∀ c ∈ Nat.toDigits 16 value, isLowerHex c = true := by
  induction value using Nat.strong_induction_on with
  | _ value ih =>
      rw [Nat.toDigits_eq_if (by decide)]
      split
      · rename_i small
        simpa using isLowerHex_digitChar value small
      · rename_i large
        intro c member
        rcases List.mem_append.mp member with leading | last
        · exact ih (value / 16) (Nat.div_lt_self (by omega) (by decide)) c leading
        · rw [List.mem_singleton.mp last]
          exact isLowerHex_digitChar (value % 16) (Nat.mod_lt _ (by decide))

/-- The printed length is the largest of the width, the precision and the digit count. -/
theorem hex_length (width precision value : Nat) :
    (hex width precision value).length = max width (max precision (Nat.toDigits 16 value).length) := by
  simp only [hex, List.length_append, List.length_replicate]
  omega

/-- A value of at most `precision` digits prints exactly `precision` digits. -/
theorem hex_length_of_lt {width precision value : Nat} (narrow : width ≤ precision)
    (positive : 0 < precision) (bounded : value < 16 ^ precision) :
    (hex width precision value).length = precision := by
  have digits := (Nat.length_toDigits_le_iff (by decide) positive).mpr bounded
  rw [hex_length]
  omega

/-- A larger value prints more than `precision` digits. -/
theorem lt_hex_length (width : Nat) {precision value : Nat} (positive : 0 < precision)
    (large : 16 ^ precision ≤ value) : precision < (hex width precision value).length := by
  have digits := (Nat.length_toDigits_le_iff (by decide) positive).not.mpr (Nat.not_lt.mpr large)
  rw [hex_length]
  omega

/-- A field no wider than its precision has no blanks. -/
theorem hex_eq_of_le {width precision value : Nat} (narrow : width ≤ precision) :
    hex width precision value =
      List.replicate (precision - (Nat.toDigits 16 value).length) '0' ++ Nat.toDigits 16 value := by
  have noBlanks : width - (List.replicate (precision - (Nat.toDigits 16 value).length) '0' ++
      Nat.toDigits 16 value).length = 0 := by
    simp only [List.length_append, List.length_replicate]
    omega
  simp only [hex, noBlanks, List.replicate_zero, List.nil_append]

theorem isLowerHex_of_mem_hex {width precision : Nat} (value : Nat) (narrow : width ≤ precision) :
    ∀ c ∈ hex width precision value, isLowerHex c = true := by
  intro c member
  rw [hex_eq_of_le narrow] at member
  rcases List.mem_append.mp member with padding | digit
  · rw [List.eq_of_mem_replicate padding]
    rfl
  · exact isLowerHex_of_mem_toDigits value c digit

/-- A bounded value prints a group of exactly `precision` hexadecimal digits. -/
theorem fits_hex {width precision value : Nat} (narrow : width ≤ precision)
    (positive : 0 < precision) (bounded : value < 16 ^ precision) :
    fits (lowerHex precision) (hex width precision value) = true := by
  have group := fits_lowerHex (isLowerHex_of_mem_hex value narrow)
  rwa [hex_length_of_lt narrow positive bounded] at group

/-- The digits of a number split at any power of the base. -/
theorem toDigits_split (high low count : Nat) (positive : 0 < high) (bounded : low < 16 ^ count) :
    ∃ tail, Nat.toDigits 16 (high * 16 ^ count + low) = Nat.toDigits 16 high ++ tail ∧
      tail.length = count ∧ ∀ c ∈ tail, isLowerHex c = true := by
  induction count generalizing low with
  | zero => exact ⟨[], by simp_all, rfl, by simp⟩
  | succ count ih =>
      have lowSplit : low / 16 < 16 ^ count := by
        rw [Nat.div_lt_iff_lt_mul (by decide), ← Nat.pow_succ]
        exact bounded
      obtain ⟨tail, digits, length, lower⟩ := ih (low / 16) lowSplit
      have quotient : (high * 16 ^ (count + 1) + low) / 16 = high * 16 ^ count + low / 16 := by
        rw [Nat.pow_succ, ← Nat.mul_assoc]
        omega
      have atLeastBase : 16 ≤ high * 16 ^ (count + 1) + low := by
        have powerPositive : 0 < high * 16 ^ count := Nat.mul_pos positive (Nat.pow_pos (by decide))
        rw [Nat.pow_succ, ← Nat.mul_assoc]
        omega
      refine ⟨tail ++ [((high * 16 ^ (count + 1) + low) % 16).digitChar], ?_, by simp [length], ?_⟩
      · rw [Nat.toDigits_of_base_le (by decide) atLeastBase, quotient, digits, List.append_assoc]
      · intro c member
        rcases List.mem_append.mp member with earlier | last
        · exact lower c earlier
        · rw [List.mem_singleton.mp last]
          exact isLowerHex_digitChar _ (Nat.mod_lt _ (by decide))

/-- A lower-case hexadecimal digit stands for this number. -/
def digitValue (c : Char) : Nat := if c.isDigit then c.toNat - '0'.toNat else c.toNat - 'a'.toNat + 10

def textValue (text : List Char) : Nat := text.foldl (fun value c => 16 * value + digitValue c) 0

theorem digitValue_digitChar (digit : Nat) (small : digit < 16) :
    digitValue digit.digitChar = digit := by
  interval_cases digit <;> rfl

theorem textValue_toDigits (value : Nat) : textValue (Nat.toDigits 16 value) = value := by
  induction value using Nat.strong_induction_on with
  | _ value ih =>
      rw [Nat.toDigits_eq_if (by decide)]
      split
      · rename_i small
        simpa [textValue] using digitValue_digitChar value small
      · rename_i large
        have earlier := ih (value / 16) (Nat.div_lt_self (by omega) (by decide))
        have last := digitValue_digitChar (value % 16) (Nat.mod_lt _ (by decide))
        rw [textValue] at earlier ⊢
        rw [List.foldl_append, earlier]
        simp only [List.foldl_cons, List.foldl_nil, last]
        omega

/-- Leading zeros keep the value of a text. -/
theorem textValue_zeros (count : Nat) (text : List Char) :
    textValue (List.replicate count '0' ++ text) = textValue text := by
  induction count with
  | zero => rfl
  | succ count ih => exact ih

/-- A field without blanks shows its value. -/
theorem hex_inj {width precision first second : Nat} (narrow : width ≤ precision) :
    hex width precision first = hex width precision second ↔ first = second := by
  constructor
  · intro same
    have values := congrArg textValue same
    rwa [hex_eq_of_le narrow, hex_eq_of_le narrow, textValue_zeros, textValue_zeros,
      textValue_toDigits, textValue_toDigits] at values
  · rintro rfl
    rfl

end Onvifxx.HexFormat
