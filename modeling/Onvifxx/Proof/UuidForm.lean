/-
This file proves when a message identifier is a version-4 identifier.
-/

import Onvifxx.Construction.RandUuid

namespace Onvifxx.Wsa

open HexFormat

def isVariant (c : Char) : Bool := c == '8' || c == '9' || c == 'a' || c == 'b'

/-- A version-4 identifier has groups of 8, 4, 4, 4 and 12 digits. -/
def uuidForm : List (Char → Bool) :=
  literal "uuid:" ++ lowerHex 8 ++
  literal "-" ++ lowerHex 4 ++
  literal "-4" ++ lowerHex 3 ++
  literal "-" ++ (isVariant :: lowerHex 3) ++
  literal "-" ++ lowerHex 4 ++ lowerHex 8

theorem uuidForm_length : uuidForm.length = 41 := by decide

/-- A full int prints eight digits. -/
theorem formatX_fits (argument : CInt) : fits (lowerHex 8) (formatX 8 8 argument) = true :=
  fits_hex (by decide) (by decide) argument.isLt

/-- A short prints four digits. -/
theorem formatHx_fits (argument : CInt) : fits (lowerHex 4) (formatHx 4 4 argument) = true :=
  fits_hex (by decide) (by decide) (argument.setWidth 16).isLt

/-- The printed third group is the signed shift of the low half. -/
theorem thirdGroup_setWidth (r2 : CInt) :
    (thirdGroup r2).setWidth 16 = (r2.setWidth 16).sshiftRight 4 := by
  apply BitVec.eq_of_getLsbD_eq
  intro index inside
  simp only [thirdGroup, short, BitVec.getLsbD_setWidth, BitVec.getLsbD_sshiftRight,
    BitVec.getLsbD_signExtend, BitVec.msb_signExtend, BitVec.msb_setWidth]
  by_cases low : 4 + index < 16
  · simp [low, inside, show 4 + index < 32 by omega, show ¬ 16 ≤ index by omega,
      show ¬ 32 ≤ index by omega]
  · simp [low, inside, show 4 + index < 32 by omega, show ¬ 16 ≤ index by omega,
      show ¬ 32 ≤ index by omega]

/-- The shift of a short by four keeps three digits exactly when the short has no sign. -/
theorem thirdGroup_lt_iff (r2 : CInt) :
    ((thirdGroup r2).setWidth 16).toNat < 16 ^ 3 ↔ 0 ≤ (r2.setWidth 16).toInt := by
  rw [thirdGroup_setWidth]
  have bound := (r2.setWidth 16).isLt
  cases sign : (r2.setWidth 16).msb with
  | false =>
      have low := BitVec.msb_eq_false_iff_two_mul_lt.mp sign
      rw [BitVec.toNat_sshiftRight_of_msb_false sign, Nat.shiftRight_eq_div_pow,
        BitVec.toInt_eq_toNat_of_msb sign]
      omega
  | true =>
      have high := BitVec.msb_eq_true_iff_two_mul_ge.mp sign
      have negative := BitVec.msb_eq_toInt.symm.trans sign
      rw [BitVec.toNat_sshiftRight_of_msb_true sign, Nat.shiftRight_eq_div_pow]
      simp only [decide_eq_true_eq] at negative
      omega

/-- The mask fixes the two leading bits of the fourth group. -/
theorem fourthGroup_toNat (r3 : CInt) :
    ((fourthGroup r3).setWidth 16).toNat =
      2 ^ 15 + (short (r3.sshiftRight 16)).toNat % 2 ^ 14 := by
  have masked : (short (r3.sshiftRight 16)).toNat &&& 0x3FFF =
      (short (r3.sshiftRight 16)).toNat % 2 ^ 14 := Nat.and_two_pow_sub_one_eq_mod _ 14
  have bound : (short (r3.sshiftRight 16)).toNat % 2 ^ 14 < 2 ^ 14 := Nat.mod_lt _ (by decide)
  have joined := Nat.two_pow_add_eq_or_of_lt bound 2
  rw [fourthGroup, BitVec.toNat_setWidth, BitVec.toNat_or, BitVec.toNat_and]
  change (((short (r3.sshiftRight 16)).toNat &&& 0x3FFF) ||| 0x8000) % 2 ^ 16 = _
  rw [masked, Nat.or_comm]
  change (2 ^ 14 * 2 ||| _) % 2 ^ 16 = _
  rw [← joined]
  omega

/-- The fourth group starts with the variant digit. -/
theorem fourthGroup_fits (r3 : CInt) :
    fits (isVariant :: lowerHex 3) (formatHx 4 4 (fourthGroup r3)) = true := by
  let value := ((fourthGroup r3).setWidth 16).toNat
  have range : 8 * 16 ^ 3 ≤ value ∧ value < 12 * 16 ^ 3 := by
    have bound : (short (r3.sshiftRight 16)).toNat % 2 ^ 14 < 2 ^ 14 := Nat.mod_lt _ (by decide)
    have split := fourthGroup_toNat r3
    change value = _ at split
    omega
  have leading : value / 16 ^ 3 < 16 := by omega
  have rest : value % 16 ^ 3 < 16 ^ 3 := Nat.mod_lt _ (by decide)
  obtain ⟨tail, digits, length, lower⟩ :=
    toDigits_split (value / 16 ^ 3) (value % 16 ^ 3) 3 (by omega) rest
  rw [Nat.div_add_mod', Nat.toDigits_of_lt_base leading] at digits
  have printed : formatHx 4 4 (fourthGroup r3) = (value / 16 ^ 3).digitChar :: tail := by
    change hex 4 4 value = _
    rw [hex_eq_of_le (Nat.le_refl 4), digits]
    simp [length]
  have variant : isVariant (value / 16 ^ 3).digitChar = true := by
    have bounds : 8 ≤ value / 16 ^ 3 ∧ value / 16 ^ 3 < 12 := by omega
    obtain ⟨least, most⟩ := bounds
    generalize value / 16 ^ 3 = digit at least most
    interval_cases digit <;> rfl
  have group := fits_lowerHex lower
  rw [length] at group
  rw [printed, fits, variant, group]
  rfl

/-- The third group has one digit too many exactly when the low half of `r2` is negative. -/
theorem thirdGroup_length (r2 : CInt) :
    (formatHx 3 3 (thirdGroup r2)).length = if 0 ≤ (r2.setWidth 16).toInt then 3 else 4 := by
  have small := thirdGroup_lt_iff r2
  have bound := ((thirdGroup r2).setWidth 16).isLt
  unfold formatHx
  generalize ((thirdGroup r2).setWidth 16).toNat = value at small bound
  split
  · rename_i nonnegative
    exact hex_length_of_lt (Nat.le_refl 3) (by decide) (small.mpr nonnegative)
  · rename_i negative
    have large := Nat.not_lt.mp (small.not.mpr negative)
    have atLeast := lt_hex_length 3 (by decide) large
    have atMost := (Nat.length_toDigits_le_iff (b := 16) (k := 4) (by decide) (by decide)).mpr bound
    rw [hex_length] at atLeast ⊢
    omega

theorem uuidText_length (randoms : Randoms) :
    (uuidText randoms).length = 38 + (formatHx 3 3 (thirdGroup randoms.r2)).length := by
  have x (argument : CInt) : (formatX 8 8 argument).length = 8 :=
    hex_length_of_lt (Nat.le_refl 8) (by decide) argument.isLt
  have hx (argument : CInt) : (formatHx 4 4 argument).length = 4 :=
    hex_length_of_lt (Nat.le_refl 4) (by decide) (argument.setWidth 16).isLt
  have head : "uuid:".toList.length = 5 := by decide
  have dash : "-".toList.length = 1 := by decide
  have version : "-4".toList.length = 2 := by decide
  unfold uuidText
  generalize formatHx 3 3 (thirdGroup randoms.r2) = third
  simp only [List.length_append, x, hx, head, dash, version]
  omega

/-- Every text fits the buffer together with its terminator. -/
theorem uuidText_fits_buffer (randoms : Randoms) :
    (uuidText randoms).length + 1 ≤ uuidBufferSize := by
  rw [uuidText_length, thirdGroup_length, uuidBufferSize]
  split <;> omega

/-- A third group of three digits gives a version-4 identifier. -/
theorem uuidText_fits {randoms : Randoms} (nonnegative : 0 ≤ (randoms.r2.setWidth 16).toInt) :
    fits uuidForm (uuidText randoms) = true := by
  have third : fits (lowerHex 3) (formatHx 3 3 (thirdGroup randoms.r2)) = true :=
    fits_hex (Nat.le_refl 3) (by decide) ((thirdGroup_lt_iff randoms.r2).mpr nonnegative)
  unfold uuidForm uuidText
  apply fits_append _ (formatX_fits _)
  apply fits_append _ (formatHx_fits _)
  apply fits_append _ (fits_literal _)
  apply fits_append _ (fourthGroup_fits _)
  apply fits_append _ (fits_literal _)
  apply fits_append _ third
  apply fits_append _ (fits_literal _)
  apply fits_append _ (formatHx_fits _)
  apply fits_append _ (fits_literal _)
  exact fits_append (fits_literal _) (formatX_fits _)

/-- A third group of four digits breaks the form. -/
theorem not_uuidText_fits {randoms : Randoms} (negative : ¬ 0 ≤ (randoms.r2.setWidth 16).toInt) :
    ¬ fits uuidForm (uuidText randoms) = true := by
  intro fit
  have length := fits_length fit
  rw [uuidForm_length, uuidText_length, thirdGroup_length, if_neg negative] at length
  omega

/-- An identifier is well formed exactly when the low half of `r2` is not negative. -/
theorem randUuid_wellFormed_iff (randoms : Randoms) :
    (fits uuidForm (randUuid randoms).toList = true ∧
      (randUuid randoms).toList.length + 1 ≤ uuidBufferSize) ↔
    0 ≤ (randoms.r2.setWidth 16).toInt := by
  rw [randUuid, String.toList_ofList]
  constructor
  · rintro ⟨fit, -⟩
    by_contra negative
    exact not_uuidText_fits negative fit
  · intro nonnegative
    exact ⟨uuidText_fits nonnegative, uuidText_fits_buffer randoms⟩

/-- A low half of `0x8000` prints the third group `4f800`. -/
theorem randUuid_malformed :
    ¬ ∀ randoms : Randoms, fits uuidForm (randUuid randoms).toList = true ∧
      (randUuid randoms).toList.length + 1 ≤ uuidBufferSize := by
  intro wellFormed
  have fit := (wellFormed ⟨0#32, 0x8000#32, 0#32, 0#32⟩).1
  rw [randUuid, String.toList_ofList] at fit
  exact not_uuidText_fits (by decide) fit

end Onvifxx.Wsa
