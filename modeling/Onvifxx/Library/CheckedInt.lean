/-
This file gives the arithmetic of signed integers that stops at an overflow.
-/

import Mathlib.Tactic

namespace Onvifxx.CheckedInt

/-- The one failure of the arithmetic is a result outside the range of its type. -/
inductive Overflow where
  | overflow
  deriving DecidableEq, Repr

def InRange (width : Nat) (value : Int) : Prop :=
  -2 ^ (width - 1) ≤ value ∧ value < 2 ^ (width - 1)

instance (width : Nat) (value : Int) : Decidable (InRange width value) := by
  unfold InRange
  infer_instance

/-- An exact value in the range is the result of its operation. -/
def checked {width : Nat} (value : Int) : Except Overflow (BitVec width) :=
  if InRange width value then .ok (BitVec.ofInt width value) else .error .overflow

variable {width : Nat}

def add (left right : BitVec width) : Except Overflow (BitVec width) :=
  checked (left.toInt + right.toInt)

def sub (left right : BitVec width) : Except Overflow (BitVec width) :=
  checked (left.toInt - right.toInt)

def mul (left right : BitVec width) : Except Overflow (BitVec width) :=
  checked (left.toInt * right.toInt)

theorem inRange_toInt (operand : BitVec width) : InRange width operand.toInt :=
  ⟨BitVec.le_toInt operand, BitVec.toInt_lt⟩

variable [NeZero width] {value : Int} {result : BitVec width}

/-- An operation ends exactly with the integer that has its exact value. -/
theorem checked_eq_ok : checked value = .ok result ↔ result.toInt = value := by
  unfold checked
  constructor
  · intro ended
    split at ended
    · next inside =>
        cases ended
        exact BitVec.toInt_ofInt_eq_self (NeZero.pos width) inside.1 inside.2
    · cases ended
  · rintro rfl
    rw [if_pos (inRange_toInt result), BitVec.ofInt_toInt]

/-- An exact value in the range lets its operation end. -/
theorem checked_ends (inside : InRange width value) :
    ∃ result : BitVec width, checked value = .ok result ∧ result.toInt = value := by
  have same := BitVec.toInt_ofInt_eq_self (NeZero.pos width) inside.1 inside.2
  exact ⟨BitVec.ofInt width value, checked_eq_ok.mpr same, same⟩

end Onvifxx.CheckedInt
