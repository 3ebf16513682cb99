/-
This file models a contiguous vector whose elements move when it grows.
-/

import Mathlib.Tactic

namespace Onvifxx

/-- A location names one element slot of one allocated buffer. -/
structure Location where
  buffer : Nat
  index : Nat
  deriving DecidableEq, Repr

/-- Each relocation takes a fresh buffer, and the old buffer's elements are destroyed. -/
@[ext] structure GrowVector (A : Type*) where
  buffer : Nat
  capacity : Nat
  items : List A
  fits : items.length ≤ capacity

namespace GrowVector

variable {A : Type*}

def empty : GrowVector A := ⟨0, 0, [], Nat.le_refl 0⟩

def length (vector : GrowVector A) : Nat := vector.items.length

/-- A full buffer doubles, and an empty one takes one slot. -/
def grown (capacity : Nat) : Nat := if capacity = 0 then 1 else 2 * capacity

theorem lt_grown (capacity : Nat) : capacity < grown capacity := by
  unfold grown
  split <;> omega

/-- A sufficient capacity makes a reservation do nothing. -/
def reserve (vector : GrowVector A) (wanted : Nat) : GrowVector A :=
  if wanted ≤ vector.capacity then vector
  else ⟨vector.buffer + 1, max vector.capacity wanted, vector.items,
    vector.fits.trans (le_max_left _ _)⟩

/-- A push relocates every element only when the buffer is full. -/
def push (vector : GrowVector A) (item : A) : GrowVector A :=
  if room : vector.length < vector.capacity then
    ⟨vector.buffer, vector.capacity, vector.items ++ [item], by
      change vector.items.length < vector.capacity at room
      simp only [List.length_append, List.length_singleton]
      omega⟩
  else
    ⟨vector.buffer + 1, grown vector.capacity, vector.items ++ [item], by
      have fits := vector.fits
      have grows := lt_grown vector.capacity
      simp only [List.length_append, List.length_singleton]
      omega⟩

/-- The location of an element in the current buffer. -/
def here (vector : GrowVector A) (index : Nat) : Location := ⟨vector.buffer, index⟩

/-- The location of the last element. -/
def back (vector : GrowVector A) : Location := vector.here (vector.length - 1)

def modifyBack (vector : GrowVector A) (change : A → A) : GrowVector A where
  buffer := vector.buffer
  capacity := vector.capacity
  items := vector.items.modify (vector.length - 1) change
  fits := by simpa using vector.fits

/-- A read succeeds only in the current buffer. -/
def read (vector : GrowVector A) (location : Location) : Option A :=
  if location.buffer = vector.buffer then vector.items[location.index]? else none

/-- The loop pushes each item and records where it stood right after its push. -/
def pushAll : GrowVector A → List A → GrowVector A × List Location
  | vector, [] => (vector, [])
  | vector, item :: rest =>
      let pushed := vector.push item
      let tail := pushAll pushed rest
      (tail.1, pushed.back :: tail.2)

@[simp] theorem reserve_items (vector : GrowVector A) (wanted : Nat) :
    (vector.reserve wanted).items = vector.items := by
  unfold reserve
  split <;> rfl

@[simp] theorem reserve_length (vector : GrowVector A) (wanted : Nat) :
    (vector.reserve wanted).length = vector.length := by
  simp [length]

@[simp] theorem reserve_capacity (vector : GrowVector A) (wanted : Nat) :
    (vector.reserve wanted).capacity = max vector.capacity wanted := by
  unfold reserve
  split
  · rename_i enough
    exact (max_eq_left enough).symm
  · rfl

@[simp] theorem push_items (vector : GrowVector A) (item : A) :
    (vector.push item).items = vector.items ++ [item] := by
  unfold push
  split <;> rfl

@[simp] theorem push_length (vector : GrowVector A) (item : A) :
    (vector.push item).length = vector.length + 1 := by
  simp [length]

theorem push_of_room {vector : GrowVector A} (room : vector.length < vector.capacity) (item : A) :
    (vector.push item).buffer = vector.buffer ∧ (vector.push item).capacity = vector.capacity := by
  simp [push, room]

theorem push_of_full {vector : GrowVector A} (full : ¬ vector.length < vector.capacity) (item : A) :
    (vector.push item).buffer = vector.buffer + 1 ∧
      (vector.push item).capacity = grown vector.capacity := by
  simp [push, full]

@[simp] theorem push_back (vector : GrowVector A) (item : A) :
    (vector.push item).back = (vector.push item).here vector.length := by
  simp [back]

@[simp] theorem modify_last (items : List A) (item : A) (change : A → A) :
    (items ++ [item]).modify items.length change = items ++ [change item] := by
  induction items with
  | nil => rfl
  | cons first rest ih => simpa using ih

/-- A change of the new last element is a push of the changed item. -/
theorem modifyBack_push (vector : GrowVector A) (item : A) (change : A → A) :
    (vector.push item).modifyBack change = vector.push (change item) := by
  have sameBuffer : (vector.push item).buffer = (vector.push (change item)).buffer := by
    unfold push
    split <;> rfl
  have sameCapacity : (vector.push item).capacity = (vector.push (change item)).capacity := by
    unfold push
    split <;> rfl
  have sameItems : (vector.push item).items.modify ((vector.push item).length - 1) change =
      (vector.push (change item)).items := by
    rw [push_length, push_items, push_items, Nat.add_sub_cancel, length, modify_last]
  exact GrowVector.ext sameBuffer sameCapacity sameItems

theorem read_here (vector : GrowVector A) (index : Nat) :
    vector.read (vector.here index) = vector.items[index]? := by
  simp [read, here]

@[simp] theorem pushAll_nil (vector : GrowVector A) : vector.pushAll [] = (vector, []) := rfl

theorem pushAll_cons (vector : GrowVector A) (item : A) (rest : List A) :
    vector.pushAll (item :: rest) =
      (((vector.push item).pushAll rest).1,
        (vector.push item).back :: ((vector.push item).pushAll rest).2) := rfl

@[simp] theorem pushAll_items (vector : GrowVector A) (items : List A) :
    (vector.pushAll items).1.items = vector.items ++ items := by
  induction items generalizing vector with
  | nil => simp
  | cons item rest ih => simp [pushAll_cons, ih]

/-- A recorded location is stale, or it leads to its own item. -/
theorem pushAll_read (vector : GrowVector A) (items : List A) :
    List.Forall₂ (fun item location => (vector.pushAll items).1.read location = none ∨
      (vector.pushAll items).1.read location = some item) items (vector.pushAll items).2 := by
  induction items generalizing vector with
  | nil => exact .nil
  | cons item rest ih =>
      rw [pushAll_cons]
      refine .cons ?_ (ih (vector.push item))
      simp only [push_back, here, read, pushAll_items, push_items]
      split
      · simp [length]
      · exact Or.inl rfl

/-- The loop takes no fresh buffer exactly when its items fit. -/
theorem pushAll_buffer (vector : GrowVector A) (items : List A) :
    vector.buffer ≤ (vector.pushAll items).1.buffer ∧
      ((vector.pushAll items).1.buffer = vector.buffer ↔
        vector.length + items.length ≤ vector.capacity) := by
  induction items generalizing vector with
  | nil =>
      have fits : vector.length ≤ vector.capacity := vector.fits
      simp [fits]
  | cons item rest ih =>
      obtain ⟨later, same⟩ := ih (vector.push item)
      rw [push_length] at same
      simp only [pushAll_cons, List.length_cons]
      by_cases room : vector.length < vector.capacity
      · obtain ⟨kept, capacity⟩ := push_of_room room item
        rw [kept, capacity] at same
        rw [kept] at later
        refine ⟨later, same.trans ?_⟩
        omega
      · obtain ⟨moved, -⟩ := push_of_full room item
        rw [moved] at later
        constructor
        · omega
        · constructor
          · intro unchanged; omega
          · intro within; omega

/-- A loop whose items fit records locations that stay current. -/
theorem pushAll_locations_of_fits (vector : GrowVector A) (items : List A)
    (within : vector.length + items.length ≤ vector.capacity) :
    (vector.pushAll items).2 =
      (List.range' vector.length items.length).map (vector.pushAll items).1.here := by
  induction items generalizing vector with
  | nil => rfl
  | cons item rest ih =>
      have room : vector.length < vector.capacity := by
        simp only [List.length_cons] at within
        omega
      obtain ⟨kept, capacity⟩ := push_of_room room item
      have tailFits : (vector.push item).length + rest.length ≤ (vector.push item).capacity := by
        rw [push_length, capacity]
        simp only [List.length_cons] at within
        omega
      have sameBuffer := ((vector.push item).pushAll_buffer rest).2.mpr tailFits
      rw [pushAll_cons, ih (vector.push item) tailFits, push_length, List.length_cons,
        List.range'_succ, List.map_cons, push_back]
      simp only [here, sameBuffer]

/-- No relocation falls after the first push of a loop of the given size. -/
def Steady (vector : GrowVector A) (count : Nat) : Prop :=
  vector.length + count ≤ vector.capacity ∨
    vector.length = vector.capacity ∧ vector.length + count ≤ grown vector.capacity

/-- The recorded locations are current exactly when the loop is steady. -/
theorem pushAll_current_iff (vector : GrowVector A) (items : List A) :
    (vector.pushAll items).2 =
        (List.range' vector.length items.length).map (vector.pushAll items).1.here ↔
      vector.Steady items.length := by
  cases items with
  | nil =>
      have fits : vector.length ≤ vector.capacity := vector.fits
      simp [Steady, fits]
  | cons item rest =>
      have firstPush : vector.Steady (rest.length + 1) ↔
          (vector.push item).length + rest.length ≤ (vector.push item).capacity := by
        have fits : vector.length ≤ vector.capacity := vector.fits
        rw [push_length, Steady]
        by_cases room : vector.length < vector.capacity
        · rw [(push_of_room room item).2]
          omega
        · have grows := lt_grown vector.capacity
          rw [(push_of_full room item).2]
          omega
      rw [List.length_cons, firstPush]
      constructor
      · intro current
        rw [pushAll_cons, List.range'_succ, List.map_cons, push_back] at current
        have sameBuffer := congrArg Location.buffer (List.cons.inj current).1
        exact ((vector.push item).pushAll_buffer rest).2.mp sameBuffer.symm
      · intro tailFits
        have sameBuffer := ((vector.push item).pushAll_buffer rest).2.mpr tailFits
        rw [pushAll_cons, pushAll_locations_of_fits _ _ tailFits, push_length,
          List.range'_succ, List.map_cons, push_back]
        simp only [here, sameBuffer]

/-- After a reservation of the loop's size, one doubling gives enough room for the loop. -/
theorem reserve_steady_iff (vector : GrowVector A) (count : Nat) :
    (vector.reserve count).Steady count ↔
      vector.length + count ≤ max vector.capacity count ∨
        vector.length = max vector.capacity count := by
  simp only [Steady, reserve_length, reserve_capacity]
  have fits : vector.length ≤ vector.capacity := vector.fits
  have grows : grown (max vector.capacity count) = 1 ∧ max vector.capacity count = 0 ∨
      grown (max vector.capacity count) = 2 * max vector.capacity count := by
    unfold grown
    split <;> simp_all
  omega

end GrowVector
end Onvifxx
