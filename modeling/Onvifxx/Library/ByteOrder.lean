/-
This file gives the bytes of an address in memory and in an integer.
-/

import Mathlib.Tactic

namespace Onvifxx.ByteOrder

/-- An address of the fourth version has four bytes. -/
structure AddressV4 where
  a : UInt8
  b : UInt8
  c : UInt8
  d : UInt8
  deriving DecidableEq, Repr

/-- The first byte of an address is the most significant one. -/
def AddressV4.toUlong (address : AddressV4) : UInt64 :=
  address.a.toUInt64 * 0x1000000 + address.b.toUInt64 * 0x10000 + address.c.toUInt64 * 0x100 +
    address.d.toUInt64

/-- The first byte of an address goes out first. -/
def AddressV4.network (address : AddressV4) : List UInt8 :=
  [address.a, address.b, address.c, address.d]

/-- A little-endian host stores the least significant byte first. -/
def memory (value : UInt32) : List UInt8 :=
  [value.toUInt8, (value >>> 8).toUInt8, (value >>> 16).toUInt8, (value >>> 24).toUInt8]

theorem toUlong_toNat (address : AddressV4) :
    address.toUlong.toNat = address.a.toNat * 2 ^ 24 + address.b.toNat * 2 ^ 16 +
      address.c.toNat * 2 ^ 8 + address.d.toNat := by
  have a := address.a.toNat_lt
  have b := address.b.toNat_lt
  have c := address.c.toNat_lt
  have d := address.d.toNat_lt
  simp [AddressV4.toUlong]
  omega

/-- A host integer of an address lies in memory with its last byte first. -/
theorem memory_toUlong (address : AddressV4) :
    memory address.toUlong.toUInt32 = [address.d, address.c, address.b, address.a] := by
  have a := address.a.toNat_lt
  have b := address.b.toNat_lt
  have c := address.c.toNat_lt
  have d := address.d.toNat_lt
  have value := toUlong_toNat address
  simp only [memory, List.cons.injEq, and_true, ← UInt8.toNat_inj]
  simp [value, Nat.shiftRight_eq_div_pow]
  omega

/-- The last byte first is the first byte first exactly for symmetric addresses. -/
theorem reverse_network_iff (address : AddressV4) :
    [address.d, address.c, address.b, address.a] = address.network ↔
      address.a = address.d ∧ address.b = address.c := by
  simp only [AddressV4.network, List.cons.injEq, and_true]
  constructor
  · rintro ⟨outer, inner, _, _⟩
    exact ⟨outer.symm, inner.symm⟩
  · rintro ⟨outer, inner⟩
    exact ⟨outer.symm, inner.symm, inner, outer⟩

end Onvifxx.ByteOrder
