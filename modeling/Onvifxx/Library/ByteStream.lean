/-
This file describes a stream by what its writers and its readers are told.
-/

import Mathlib.Tactic

namespace Onvifxx

/-- The items in flight lie between the two logs of what was reported. -/
structure ByteStream (A : Type*) where
  toldSent : List A
  inFlight : List A
  toldReceived : List A

namespace ByteStream

variable {A : Type*}

def empty : ByteStream A := ⟨[], [], []⟩

/-- A writer hands over some items and is told about some items. -/
def write (handed told : List A) (stream : ByteStream A) : ByteStream A :=
  { stream with toldSent := stream.toldSent ++ told, inFlight := stream.inFlight ++ handed }

/-- A reader takes the oldest items and is told about some items. -/
def read (count : Nat) (told : List A) (stream : ByteStream A) : ByteStream A :=
  { stream with
    inFlight := stream.inFlight.drop count
    toldReceived := stream.toldReceived ++ told }

/-- The readers were told all that the writers were told, except what is in flight. -/
def Balanced (stream : ByteStream A) : Prop :=
  stream.toldReceived ++ stream.inFlight = stream.toldSent

theorem empty_balanced : Balanced (empty : ByteStream A) := rfl

/-- A write keeps the balance exactly when its report is true. -/
theorem write_balanced_iff {stream : ByteStream A} (balanced : stream.Balanced)
    (handed told : List A) : (stream.write handed told).Balanced ↔ handed = told := by
  have before : stream.toldReceived ++ stream.inFlight = stream.toldSent := balanced
  change stream.toldReceived ++ (stream.inFlight ++ handed) = stream.toldSent ++ told ↔ _
  rw [← List.append_assoc, before, List.append_cancel_left_eq]

/-- A read keeps the balance exactly when its report is true. -/
theorem read_balanced_iff {stream : ByteStream A} (balanced : stream.Balanced) (count : Nat)
    (told : List A) : (stream.read count told).Balanced ↔ told = stream.inFlight.take count := by
  have before : stream.toldReceived ++ stream.inFlight = stream.toldSent := balanced
  have parts : stream.inFlight.take count ++ stream.inFlight.drop count = stream.inFlight :=
    List.take_append_drop count stream.inFlight
  change stream.toldReceived ++ told ++ stream.inFlight.drop count = stream.toldSent ↔ _
  rw [← before, List.append_assoc, List.append_cancel_left_eq]
  constructor
  · intro same
    exact List.append_cancel_right (same.trans parts.symm)
  · intro same
    rw [same]
    exact parts

/-- With nothing in flight both logs are equal. -/
theorem received_eq_sent {stream : ByteStream A} (balanced : stream.Balanced)
    (arrived : stream.inFlight = []) : stream.toldReceived = stream.toldSent := by
  unfold Balanced at balanced
  rw [arrived, List.append_nil] at balanced
  exact balanced

end ByteStream
end Onvifxx
