/-
This file proves that a multiplication modulo a number can stay inside the number.
-/

import Mathlib.Tactic

namespace Onvifxx.Schrage

/-- The multiplier divides the modulus with a remainder that is less than the quotient. -/
structure Decomposition where
  modulus : Int
  multiplier : Int
  quotient : Int
  remainder : Int
  split : modulus = multiplier * quotient + remainder
  positive : 0 < multiplier
  nonnegative : 0 ≤ remainder
  small : remainder < quotient

namespace Decomposition

variable (parts : Decomposition)

/-- The truncated division gives both parts of a value its sign. -/
def low (value : Int) : Int := value.tmod parts.quotient

def high (value : Int) : Int := value.tdiv parts.quotient

def difference (value : Int) : Int :=
  parts.multiplier * parts.low value - parts.remainder * parts.high value

/-- One addition of the modulus makes the difference positive. -/
def next (value : Int) : Int :=
  if parts.difference value ≤ 0 then parts.difference value + parts.modulus
  else parts.difference value

/-- The quotient of such a value is at most the multiplier. -/
def Reaches (value : Int) : Prop := |value| < (parts.multiplier + 1) * parts.quotient

variable {value : Int}

theorem quotient_pos : 0 < parts.quotient := lt_of_le_of_lt parts.nonnegative parts.small

theorem multiplied_le : parts.multiplier * parts.quotient ≤ parts.modulus := by
  rw [parts.split]
  exact le_add_of_nonneg_right parts.nonnegative

theorem low_add_high (value : Int) : parts.low value + parts.quotient * parts.high value = value :=
  Int.tmod_add_mul_tdiv value parts.quotient

theorem low_neg (value : Int) : parts.low (-value) = -parts.low value :=
  Int.neg_tmod value parts.quotient

theorem high_neg (value : Int) : parts.high (-value) = -parts.high value :=
  Int.neg_tdiv value parts.quotient

theorem difference_neg (value : Int) : parts.difference (-value) = -parts.difference value := by
  rw [difference, difference, low_neg, high_neg]
  ring

/-- The first product of a value without a sign is less than the modulus. -/
theorem low_product (nonnegative : 0 ≤ value) :
    0 ≤ parts.multiplier * parts.low value ∧ parts.multiplier * parts.low value < parts.modulus := by
  have least : 0 ≤ parts.low value := Int.tmod_nonneg _ nonnegative
  have most : parts.low value < parts.quotient := Int.tmod_lt_of_pos value parts.quotient_pos
  constructor
  · exact mul_nonneg parts.positive.le least
  · calc
      parts.multiplier * parts.low value < parts.multiplier * parts.quotient :=
        mul_lt_mul_of_pos_left most parts.positive
      _ ≤ parts.modulus := parts.multiplied_le

/-- The second product of a value without a sign is less than the modulus. -/
theorem high_product (nonnegative : 0 ≤ value) (reaches : parts.Reaches value) :
    0 ≤ parts.remainder * parts.high value ∧ parts.remainder * parts.high value < parts.modulus := by
  have least : 0 ≤ parts.high value := Int.tdiv_nonneg nonnegative parts.quotient_pos.le
  have most : parts.high value ≤ parts.multiplier := by
    rw [Reaches, abs_of_nonneg nonnegative] at reaches
    have whole := parts.low_add_high value
    have rest : 0 ≤ parts.low value := Int.tmod_nonneg _ nonnegative
    have product : parts.high value * parts.quotient < (parts.multiplier + 1) * parts.quotient := by
      rw [mul_comm (parts.high value)]
      omega
    exact Int.lt_add_one_iff.mp (lt_of_mul_lt_mul_right product parts.quotient_pos.le)
  constructor
  · exact mul_nonneg parts.nonnegative least
  · calc
      parts.remainder * parts.high value ≤ parts.remainder * parts.multiplier :=
        mul_le_mul_of_nonneg_left most parts.nonnegative
      _ < parts.quotient * parts.multiplier := mul_lt_mul_of_pos_right parts.small parts.positive
      _ = parts.multiplier * parts.quotient := mul_comm _ _
      _ ≤ parts.modulus := parts.multiplied_le

theorem reaches_abs : parts.Reaches |value| ↔ parts.Reaches value := by
  rw [Reaches, Reaches, abs_abs]

/-- An odd function has one size for both signs of a value. -/
theorem abs_odd {f : Int → Int} (odd : Function.Odd f) (value : Int) : |f value| = |f (|value|)| := by
  rcases abs_choice value with same | negated
  · rw [same]
  · rw [negated, odd.eq, abs_neg]

theorem abs_low_product (value : Int) : |parts.multiplier * parts.low value| < parts.modulus := by
  have odd : Function.Odd fun value => parts.multiplier * parts.low value := by
    intro value
    simp only [low_neg, mul_neg]
  obtain ⟨least, most⟩ := parts.low_product (abs_nonneg value)
  calc
    |parts.multiplier * parts.low value| = |parts.multiplier * parts.low (|value|)| := abs_odd odd value
    _ = parts.multiplier * parts.low (|value|) := abs_of_nonneg least
    _ < parts.modulus := most

theorem abs_high_product (reaches : parts.Reaches value) :
    |parts.remainder * parts.high value| < parts.modulus := by
  have odd : Function.Odd fun value => parts.remainder * parts.high value := by
    intro value
    simp only [high_neg, mul_neg]
  obtain ⟨least, most⟩ := parts.high_product (abs_nonneg value) (parts.reaches_abs.mpr reaches)
  calc
    |parts.remainder * parts.high value| = |parts.remainder * parts.high (|value|)| := abs_odd odd value
    _ = parts.remainder * parts.high (|value|) := abs_of_nonneg least
    _ < parts.modulus := most

/-- The two products have one sign, and their difference stays inside the modulus. -/
theorem abs_difference_lt (reaches : parts.Reaches value) :
    |parts.difference value| < parts.modulus := by
  obtain ⟨lowLeast, lowMost⟩ := parts.low_product (abs_nonneg value)
  obtain ⟨highLeast, highMost⟩ :=
    parts.high_product (abs_nonneg value) (parts.reaches_abs.mpr reaches)
  rw [abs_odd parts.difference_neg value, difference, abs_lt]
  constructor <;> omega

/-- The difference is the product with the multiplier up to multiples of the modulus. -/
theorem difference_modEq (value : Int) :
    parts.difference value ≡ parts.multiplier * value [ZMOD parts.modulus] := by
  rw [Int.modEq_iff_dvd]
  refine ⟨parts.high value, ?_⟩
  calc
    parts.multiplier * value - parts.difference value =
        parts.multiplier * (parts.low value + parts.quotient * parts.high value) -
          parts.difference value := by rw [low_add_high]
    _ = (parts.multiplier * parts.quotient + parts.remainder) * parts.high value := by
      rw [difference]
      ring
    _ = parts.modulus * parts.high value := by rw [← parts.split]

theorem next_modEq (value : Int) :
    parts.next value ≡ parts.multiplier * value [ZMOD parts.modulus] := by
  rw [next]
  split
  · exact Int.add_modEq_right.trans (parts.difference_modEq value)
  · exact parts.difference_modEq value

/-- The next value is positive and at most the modulus. -/
theorem next_range (reaches : parts.Reaches value) :
    1 ≤ parts.next value ∧ parts.next value ≤ parts.modulus := by
  obtain ⟨least, most⟩ := abs_lt.mp (parts.abs_difference_lt reaches)
  rw [next]
  split <;> omega

end Decomposition
end Onvifxx.Schrage
