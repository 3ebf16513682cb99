/-
This file proves when two message identifiers are equal.
-/

import Onvifxx.Proof.UuidForm

namespace Onvifxx.Wsa

open HexFormat

/-- A short keeps the low half. -/
theorem short_setWidth (value : CInt) : (short value).setWidth 16 = value.setWidth 16 := by
  apply BitVec.eq_of_getLsbD_eq
  intro index inside
  have low : index < 32 := by omega
  simp only [short, BitVec.getLsbD_setWidth, BitVec.getLsbD_signExtend, inside, low, decide_true,
    Bool.true_and, ↓reduceIte]

theorem lowHalf_toNat (value : CInt) : ((short value).setWidth 16).toNat = value.toNat % 2 ^ 16 := by
  rw [short_setWidth, BitVec.toNat_setWidth]

/-- The high half keeps no copy of the sign. -/
theorem highHalf_toNat (value : CInt) :
    ((short (value.sshiftRight 16)).setWidth 16).toNat = value.toNat / 2 ^ 16 := by
  have shifted : (value.sshiftRight 16).setWidth 16 = value.extractLsb' 16 16 := by
    apply BitVec.eq_of_getLsbD_eq
    intro index inside
    simp [BitVec.getLsbD_sshiftRight, inside, show 16 + index < 32 by omega]
    omega
  have bound := value.isLt
  rw [short_setWidth, shifted, BitVec.extractLsb'_toNat, Nat.shiftRight_eq_div_pow]
  omega

/-- The third group shows the low half but for its last digit. -/
theorem thirdGroup_eq_iff (first second : CInt) :
    ((thirdGroup first).setWidth 16).toNat = ((thirdGroup second).setWidth 16).toNat ↔
      first.toNat % 2 ^ 16 / 2 ^ 4 = second.toNat % 2 ^ 16 / 2 ^ 4 := by
  have shown (value : CInt) : ((thirdGroup value).setWidth 16).toNat =
      if value.toNat % 2 ^ 16 < 2 ^ 15 then value.toNat % 2 ^ 16 / 2 ^ 4
      else value.toNat % 2 ^ 16 / 2 ^ 4 + 15 * 2 ^ 12 := by
    rw [thirdGroup_setWidth]
    have low : (value.setWidth 16).toNat = value.toNat % 2 ^ 16 := BitVec.toNat_setWidth _ _
    cases sign : (value.setWidth 16).msb with
    | false =>
        have small := BitVec.msb_eq_false_iff_two_mul_lt.mp sign
        rw [BitVec.toNat_sshiftRight_of_msb_false sign, Nat.shiftRight_eq_div_pow, low]
        rw [low] at small
        rw [if_pos (by omega)]
    | true =>
        have large := BitVec.msb_eq_true_iff_two_mul_ge.mp sign
        rw [BitVec.toNat_sshiftRight_of_msb_true sign, Nat.shiftRight_eq_div_pow, low]
        rw [low] at large
        rw [if_neg (by omega)]
        omega
  rw [shown, shown]
  split <;> split <;> omega

/-- The fourth group shows the high half but for its two leading bits. -/
theorem fourthGroup_eq (value : CInt) :
    ((fourthGroup value).setWidth 16).toNat = 2 ^ 15 + value.toNat / 2 ^ 16 % 2 ^ 14 := by
  have high := highHalf_toNat value
  rw [BitVec.toNat_setWidth] at high
  rw [fourthGroup_toNat]
  omega

theorem formatX_eq_iff (first second : CInt) :
    formatX 8 8 first = formatX 8 8 second ↔ first = second := by
  rw [formatX, formatX, hex_inj (Nat.le_refl 8), BitVec.toNat_inj]

theorem formatHx_eq_iff {precision : Nat} (first second : CInt) :
    formatHx precision precision first = formatHx precision precision second ↔
      (first.setWidth 16).toNat = (second.setWidth 16).toNat := by
  rw [formatHx, formatHx, hex_inj (Nat.le_refl precision)]

theorem formatX_length (argument : CInt) : (formatX 8 8 argument).length = 8 :=
  hex_length_of_lt (Nat.le_refl 8) (by decide) argument.isLt

theorem formatHx_length (argument : CInt) : (formatHx 4 4 argument).length = 4 :=
  hex_length_of_lt (Nat.le_refl 4) (by decide) (argument.setWidth 16).isLt

/-- Two texts are equal exactly when each of their groups is. -/
theorem uuidText_eq_iff (first second : Randoms) : uuidText first = uuidText second ↔
    formatX 8 8 first.r1 = formatX 8 8 second.r1 ∧
    formatHx 4 4 (short (first.r2.sshiftRight 16)) =
      formatHx 4 4 (short (second.r2.sshiftRight 16)) ∧
    formatHx 3 3 (thirdGroup first.r2) = formatHx 3 3 (thirdGroup second.r2) ∧
    formatHx 4 4 (fourthGroup first.r3) = formatHx 4 4 (fourthGroup second.r3) ∧
    formatHx 4 4 (short first.r3) = formatHx 4 4 (short second.r3) ∧
    formatX 8 8 first.r4 = formatX 8 8 second.r4 := by
  unfold uuidText
  constructor
  · intro same
    -- Only the third group may differ in length, so the groups are cut off from both ends.
    obtain ⟨same, r4⟩ := List.append_inj' same (by rw [formatX_length, formatX_length])
    obtain ⟨same, fifth⟩ := List.append_inj' same (by rw [formatHx_length, formatHx_length])
    obtain ⟨same, -⟩ := List.append_inj' same rfl
    obtain ⟨same, fourth⟩ := List.append_inj' same (by rw [formatHx_length, formatHx_length])
    obtain ⟨same, -⟩ := List.append_inj' same rfl
    obtain ⟨same, third⟩ := List.append_inj same
      (by simp only [List.length_append, formatX_length, formatHx_length])
    obtain ⟨same, -⟩ := List.append_inj' same rfl
    obtain ⟨same, r2⟩ := List.append_inj' same (by rw [formatHx_length, formatHx_length])
    obtain ⟨same, -⟩ := List.append_inj' same rfl
    obtain ⟨-, r1⟩ := List.append_inj same rfl
    exact ⟨r1, r2, third, fourth, fifth, r4⟩
  · rintro ⟨r1, r2, third, fourth, fifth, r4⟩
    rw [r1, r2, third, fourth, fifth, r4]

/-- These bits of the random integers reach the text. -/
def Collide (first second : Randoms) : Prop :=
  first.r1 = second.r1 ∧ first.r2.toNat / 2 ^ 4 = second.r2.toNat / 2 ^ 4 ∧
    first.r3.toNat % 2 ^ 30 = second.r3.toNat % 2 ^ 30 ∧ first.r4 = second.r4

theorem uuidText_collide (first second : Randoms) :
    uuidText first = uuidText second ↔ Collide first second := by
  rw [uuidText_eq_iff, formatX_eq_iff, formatX_eq_iff, formatHx_eq_iff, formatHx_eq_iff,
    formatHx_eq_iff, formatHx_eq_iff, thirdGroup_eq_iff, highHalf_toNat, highHalf_toNat,
    lowHalf_toNat, lowHalf_toNat, fourthGroup_eq, fourthGroup_eq, Collide]
  constructor
  · rintro ⟨r1, high, low, fourth, fifth, r4⟩
    exact ⟨r1, by omega, by omega, r4⟩
  · rintro ⟨r1, r2, r3, r4⟩
    exact ⟨r1, by omega, by omega, by omega, by omega, r4⟩

/-- Two identifiers are equal exactly when they agree on 122 of their 128 random bits. -/
theorem randUuid_eq_iff (first second : Randoms) : randUuid first = randUuid second ↔
    first.r1 = second.r1 ∧ first.r2.toNat / 2 ^ 4 = second.r2.toNat / 2 ^ 4 ∧
      first.r3.toNat % 2 ^ 30 = second.r3.toNat % 2 ^ 30 ∧ first.r4 = second.r4 := by
  rw [randUuid, randUuid, String.ofList_inj]
  exact uuidText_collide first second

end Onvifxx.Wsa
