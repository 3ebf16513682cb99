/-
This file translates the text of a fresh message identifier and the generator behind it.
-/

import Onvifxx.Library.CheckedInt
import Onvifxx.Library.HexFormat

namespace Onvifxx.Wsa

open CheckedInt HexFormat

/-- A 32-bit `int`. -/
abbrev CInt := BitVec 32

/-- The cast to `short` keeps the low half, and the promotion restores its sign. -/
def short (value : CInt) : CInt := (value.setWidth 16).signExtend 32

/-- The `%x` conversion reads its argument as an unsigned int. -/
def formatX (width precision : Nat) (argument : CInt) : List Char :=
  hex width precision argument.toNat

/-- The `%hx` conversion reads its argument as an unsigned short. -/
def formatHx (width precision : Nat) (argument : CInt) : List Char :=
  hex width precision (argument.setWidth 16).toNat

/-- One identifier uses four random integers. -/
structure Randoms where
  r1 : CInt
  r2 : CInt
  r3 : CInt
  r4 : CInt
  deriving DecidableEq, Repr

def thirdGroup (r2 : CInt) : CInt := (short r2).sshiftRight 4

def fourthGroup (r3 : CInt) : CInt := (short (r3.sshiftRight 16) &&& 0x3FFF#32) ||| 0x8000#32

/-- The format is `uuid:%8.8x-%4.4hx-4%3.3hx-%4.4hx-%4.4hx%8.8x`. -/
def uuidText (randoms : Randoms) : List Char :=
  "uuid:".toList ++ formatX 8 8 randoms.r1 ++
  "-".toList ++ formatHx 4 4 (short (randoms.r2.sshiftRight 16)) ++
  "-4".toList ++ formatHx 3 3 (thirdGroup randoms.r2) ++
  "-".toList ++ formatHx 4 4 (fourthGroup randoms.r3) ++
  "-".toList ++ formatHx 4 4 (short randoms.r3) ++ formatX 8 8 randoms.r4

/-- The text is printed into a buffer of this size. -/
def uuidBufferSize : Nat := 48

@[irreducible] def randUuid (randoms : Randoms) : String := String.ofList (uuidText randoms)

/-- The generator keeps a static integer, and this is its first value. -/
def seed : CInt := 0xFACEB00B#32

/-- The random step divides before it multiplies. -/
def lehmer (k : CInt) : Except Overflow CInt := do
  let lo := k.srem 127773#32
  let hi := k.sdiv 127773#32
  let k ← sub (← mul 16807#32 lo) (← mul 2836#32 hi)
  if k.sle 0#32 then add k 0x7FFFFFFF#32 else return k

def stateMask : CInt := 0x8FFFFFFF#32

/-- The system has one of two clocks. -/
inductive Clock where
  | gettimeofday (seconds microseconds : BitVec 64)
  | time (seconds : BitVec 64)
  deriving DecidableEq, Repr

/-- The conversion to an int keeps the low half of a time. -/
def Clock.r1 : Clock → CInt
  | gettimeofday seconds microseconds => (10000000#64 * seconds + microseconds).setWidth 32
  | time seconds => seconds.setWidth 32

/-- A call without a cryptographic library reads the clock, the buffer and two random integers. -/
structure Draw where
  clock : Clock
  buffer : CInt
  r3 : CInt
  r4 : CInt
  deriving DecidableEq, Repr

/-- A call prints an identifier and leaves the masked integer for the next call. -/
def randUuidStatic (draw : Draw) (k : CInt) : Except Overflow (String × CInt) := do
  let k ← lehmer k
  -- This sum may pass the range of an int, and it wraps here. It never reaches the static integer.
  let r2 := k + draw.buffer
  return (randUuid ⟨draw.clock.r1, r2, draw.r3, draw.r4⟩, k &&& stateMask)

/-- The next call sees only the static integer. -/
def nextSeed (k : CInt) (draw : Draw) : Except Overflow CInt := Prod.snd <$> randUuidStatic draw k

end Onvifxx.Wsa
