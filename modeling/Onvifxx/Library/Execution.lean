/-
This file gives the meaning of pointer accesses.
-/

import Mathlib.Tactic

namespace Onvifxx.Execution
universe u

/-- The one fault of an execution is the use of a null pointer. -/
inductive Fault where
  | nullDereference
  deriving DecidableEq, Repr

/-- A read through a null pointer stops the execution. -/
def deref {A : Type*} : Option A → Except Fault A
  | some object => .ok object
  | none => .error .nullDereference

/-- A write through a pointer changes the object that the pointer designates. -/
def assign {A : Type*} (pointer : Option A) (change : A → A) : Except Fault (Option A) := do
  return some (change (← deref pointer))

/-- A guarded block runs only at a non-null pointer. -/
def whenSet {A B : Type u} (pointer : Option A) (block : Except Fault B) : Except Fault (Option B) :=
  if pointer.isSome then some <$> block else .ok none

/-- A function that leaves its body without a return statement gives its caller no value. -/
inductive Returned (A : Type*) where
  | value (result : A)
  | missing
  deriving DecidableEq, Repr

variable {A B : Type u}

@[simp] theorem ok_bind (value : A) (next : A → Except Fault B) :
    (Except.ok value >>= next) = next value := rfl

@[simp] theorem error_bind (fault : Fault) (next : A → Except Fault B) :
    ((Except.error fault : Except Fault A) >>= next) = .error fault := rfl

@[simp] theorem pure_eq_ok (value : A) : (pure value : Except Fault A) = .ok value := rfl

@[simp] theorem deref_some (object : A) : deref (some object) = .ok object := rfl

@[simp] theorem deref_none : deref (none : Option A) = .error .nullDereference := rfl

@[simp] theorem assign_some (object : A) (change : A → A) :
    assign (some object) change = .ok (some (change object)) := rfl

@[simp] theorem assign_none (change : A → A) :
    assign (none : Option A) change = .error .nullDereference := rfl

@[simp] theorem whenSet_some (object : A) (block : Except Fault B) :
    whenSet (some object) block = some <$> block := rfl

@[simp] theorem whenSet_none (block : Except Fault B) : whenSet (none : Option A) block = .ok none := rfl

@[simp] theorem map_ok (change : A → B) (value : A) :
    (change <$> (Except.ok value : Except Fault A)) = .ok (change value) := rfl

/-- A sequence ends in a value exactly when each of its parts does. -/
theorem bind_eq_ok {execution : Except Fault A} {next : A → Except Fault B} {result : B} :
    (execution >>= next) = .ok result ↔ ∃ value, execution = .ok value ∧ next value = .ok result := by
  cases execution with
  | ok value => simp
  | error fault => simp

theorem map_eq_ok {execution : Except Fault A} {change : A → B} {result : B} :
    (change <$> execution) = .ok result ↔ ∃ value, execution = .ok value ∧ change value = result := by
  cases execution with
  | ok value => simp
  | error fault => simp [Functor.map, Except.map]

/-- A guard makes each read of its own pointer safe. -/
theorem whenSet_eq_map (pointer : Option A) (block : Except Fault B) (result : A → B)
    (ends : ∀ object, pointer = some object → block = .ok (result object)) :
    whenSet pointer block = .ok (pointer.map result) := by
  cases pointer with
  | none => rfl
  | some object => simp [ends object rfl]

end Onvifxx.Execution
