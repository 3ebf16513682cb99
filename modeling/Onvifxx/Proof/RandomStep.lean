/-
This file proves that the random step of an identifier multiplies without an overflow.
-/

import Onvifxx.Construction.RandUuid
import Onvifxx.Library.Run
import Onvifxx.Library.Schrage

namespace Onvifxx.Wsa

open CheckedInt Run Schrage

/-- The step multiplies modulo the largest int. -/
def minimal : Decomposition where
  modulus := 0x7FFFFFFF
  multiplier := 16807
  quotient := 127773
  remainder := 2836
  split := by decide
  positive := by decide
  nonnegative := by decide
  small := by decide

theorem reaches_int (k : CInt) : minimal.Reaches k.toInt := by
  obtain ⟨least, most⟩ := inRange_toInt k
  change |k.toInt| < (16807 + 1) * 127773
  rw [abs_lt]
  constructor <;> omega

/-- A value inside the modulus is an int. -/
theorem inRange_of_abs_lt {value : Int} (inside : |value| < minimal.modulus) :
    InRange 32 value := by
  change |value| < 0x7FFFFFFF at inside
  obtain ⟨least, most⟩ := abs_lt.mp inside
  constructor <;> omega

theorem difference_inRange (k : CInt) : InRange 32 (minimal.difference k.toInt) :=
  inRange_of_abs_lt (minimal.abs_difference_lt (reaches_int k))

/-- The addition of the modulus is exact where the step needs it. -/
theorem sum_inRange {k : CInt} (nonpositive : minimal.difference k.toInt ≤ 0) :
    InRange 32 (minimal.difference k.toInt + 0x7FFFFFFF) := by
  obtain ⟨least, _⟩ := difference_inRange k
  constructor <;> omega

/-- The products and the difference of the machine step are exact. -/
theorem products_exact (k : CInt) :
    ∃ left right difference : CInt, mul 16807#32 (k.srem 127773#32) = .ok left ∧
      mul 2836#32 (k.sdiv 127773#32) = .ok right ∧ sub left right = .ok difference ∧
      difference.toInt = minimal.difference k.toInt := by
  have lo : (k.srem 127773#32).toInt = minimal.low k.toInt := BitVec.toInt_srem k 127773#32
  have hi : (k.sdiv 127773#32).toInt = minimal.high k.toInt :=
    BitVec.toInt_sdiv_of_ne_or_ne k 127773#32 (Or.inr (by decide))
  obtain ⟨left, leftEnds, leftExact⟩ := checked_ends
    (inRange_of_abs_lt (minimal.abs_low_product k.toInt))
  obtain ⟨right, rightEnds, rightExact⟩ := checked_ends
    (inRange_of_abs_lt (minimal.abs_high_product (reaches_int k)))
  obtain ⟨difference, ends, same⟩ := checked_ends (difference_inRange k)
  refine ⟨left, right, difference, ?_, ?_, ?_, same⟩
  · rw [mul, lo]
    exact leftEnds
  · rw [mul, hi]
    exact rightEnds
  · rw [sub, leftExact, rightExact]
    exact ends

/-- The machine step ends with the next value of the decomposition. -/
theorem lehmer_ends (k : CInt) :
    ∃ next, lehmer k = .ok next ∧ next.toInt = minimal.next k.toInt := by
  obtain ⟨left, right, difference, leftEnds, rightEnds, ends, same⟩ := products_exact k
  have sign : difference.sle 0#32 = decide (minimal.difference k.toInt ≤ 0) := by
    rw [← same]
    rfl
  simp only [lehmer, leftEnds, rightEnds, ends, sign, bind, Except.bind, pure, Except.pure,
    decide_eq_true_eq]
  rw [Decomposition.next]
  split
  · next nonpositive =>
      obtain ⟨next, sumEnds, sumExact⟩ := checked_ends (sum_inRange nonpositive)
      refine ⟨next, ?_, sumExact⟩
      rw [add, same]
      exact sumEnds
  · exact ⟨difference, rfl, same⟩

/-- The mask keeps 28 bits of an integer without a sign. -/
theorem masked_toNat {next : CInt} (unsigned : 0 ≤ next.toInt) :
    (next &&& stateMask).toNat = next.toNat % 2 ^ 28 := by
  have bound : next.toNat < 2 ^ 31 := by
    have sign := BitVec.toInt_eq_toNat_cond next
    have below := next.isLt
    split at sign <;> omega
  have kept : next.toNat &&& 0x8FFFFFFF < 2 ^ 31 := lt_of_le_of_lt Nat.and_le_left bound
  calc
    (next &&& stateMask).toNat = next.toNat &&& 0x8FFFFFFF := BitVec.toNat_and next stateMask
    _ = (next.toNat &&& 0x8FFFFFFF) % 2 ^ 31 := (Nat.mod_eq_of_lt kept).symm
    _ = (next.toNat % 2 ^ 31) &&& (0x8FFFFFFF % 2 ^ 31) := Nat.and_mod_two_pow
    _ = next.toNat &&& (2 ^ 28 - 1) := by rw [Nat.mod_eq_of_lt bound]; rfl
    _ = next.toNat % 2 ^ 28 := Nat.and_two_pow_sub_one_eq_mod _ 28

theorem masked_toInt {next : CInt} (unsigned : 0 ≤ next.toInt) :
    0 ≤ (next &&& stateMask).toInt ∧ (next &&& stateMask).toInt ≤ 2 ^ 28 - 1 := by
  have masked := masked_toNat unsigned
  have small : next.toNat % 2 ^ 28 < 2 ^ 28 := Nat.mod_lt _ (by decide)
  have same : (next &&& stateMask).toInt = (next &&& stateMask).toNat := by
    apply BitVec.toInt_eq_toNat_of_lt
    omega
  rw [same, masked]
  omega

/-- A call multiplies modulo the largest int within the range of an int, and it stores the masked result. -/
structure ExactStep (k : CInt) : Prop where
  low : InRange 32 (16807 * k.toInt.tmod 127773)
  high : InRange 32 (2836 * k.toInt.tdiv 127773)
  difference : InRange 32 (16807 * k.toInt.tmod 127773 - 2836 * k.toInt.tdiv 127773)
  sum : 16807 * k.toInt.tmod 127773 - 2836 * k.toInt.tdiv 127773 ≤ 0 →
    InRange 32 (16807 * k.toInt.tmod 127773 - 2836 * k.toInt.tdiv 127773 + 0x7FFFFFFF)
  next : ∃ next, lehmer k = .ok next ∧ (1 ≤ next.toInt ∧ next.toInt ≤ 2 ^ 31 - 1) ∧
    next.toInt ≡ 16807 * k.toInt [ZMOD 2 ^ 31 - 1] ∧
    (0 ≤ (next &&& stateMask).toInt ∧ (next &&& stateMask).toInt ≤ 2 ^ 28 - 1) ∧
    ∀ draw : Draw,
      randUuidStatic draw k = .ok (randUuid ⟨draw.clock.r1, next + draw.buffer, draw.r3, draw.r4⟩,
        next &&& stateMask) ∧
      nextSeed k draw = .ok (next &&& stateMask)

/-- A call prints the stepped integer and stores it masked. -/
theorem randUuidStatic_eq {k next : CInt} (stepped : lehmer k = .ok next) (draw : Draw) :
    randUuidStatic draw k = .ok (randUuid ⟨draw.clock.r1, next + draw.buffer, draw.r3, draw.r4⟩,
      next &&& stateMask) := by
  rw [randUuidStatic, stepped]
  rfl

theorem nextSeed_eq {k next : CInt} (stepped : lehmer k = .ok next) (draw : Draw) :
    nextSeed k draw = .ok (next &&& stateMask) := by
  rw [nextSeed, randUuidStatic_eq stepped]
  rfl

theorem exactStep (k : CInt) : ExactStep k where
  low := inRange_of_abs_lt (minimal.abs_low_product k.toInt)
  high := inRange_of_abs_lt (minimal.abs_high_product (reaches_int k))
  difference := difference_inRange k
  sum := sum_inRange
  next := by
    obtain ⟨next, ended, same⟩ := lehmer_ends k
    obtain ⟨least, most⟩ := minimal.next_range (reaches_int k)
    have congruent := minimal.next_modEq k.toInt
    rw [← same] at least most congruent
    refine ⟨next, ended, ⟨least, most⟩, congruent, masked_toInt (by omega), fun draw => ?_⟩
    exact ⟨randUuidStatic_eq ended draw, nextSeed_eq ended draw⟩

/-- Between two calls the static integer has 28 bits. -/
def Masked (k : CInt) : Prop := 0 ≤ k.toInt ∧ k.toInt ≤ 2 ^ 28 - 1

theorem nextSeed_ends (k : CInt) (draw : Draw) :
    ∃ stored, nextSeed k draw = .ok stored ∧ Masked stored := by
  obtain ⟨next, -, -, -, masked, called⟩ := (exactStep k).next
  exact ⟨next &&& stateMask, (called draw).2, masked⟩

/-- Each further call starts from a masked integer. -/
theorem run_nextSeed (draws : List Draw) :
    ∃ k, run nextSeed seed draws = .ok k ∧ (draws ≠ [] → Masked k) := by
  cases draws with
  | nil => exact ⟨seed, rfl, fun called => absurd rfl called⟩
  | cons draw rest =>
      obtain ⟨stored, taken, masked⟩ := nextSeed_ends seed draw
      obtain ⟨k, ended, kept⟩ := run_ends (fun k draw _ => nextSeed_ends k draw) masked rest
      exact ⟨k, (run_cons_ok rest taken).trans ended, fun _ => kept⟩

/-- The step is exact for each integer, and each sequence of calls reaches such a state. -/
theorem randUuid_step_exact :
    (∀ k : CInt, ExactStep k) ∧
      ∀ draws : List Draw, ∃ k, run nextSeed seed draws = .ok k ∧ ExactStep k ∧
        (draws ≠ [] → 0 ≤ k.toInt ∧ k.toInt ≤ 2 ^ 28 - 1) := by
  refine ⟨exactStep, fun draws => ?_⟩
  obtain ⟨k, ended, masked⟩ := run_nextSeed draws
  exact ⟨k, ended, exactStep k, masked⟩

end Onvifxx.Wsa
