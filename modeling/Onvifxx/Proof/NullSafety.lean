/-
This file proves when no incoming message makes the service use a null pointer.
-/

import Onvifxx.Construction.Service

namespace Onvifxx.Service

open Execution RemoteDiscovery Wsdd

/-- The operation ends, calls its bound handler and returns a code that is not the success code.
A probe whose handler was called has a reply. -/
def EndsSafely (handler : Option Handler) (surroundings : Surroundings) (header : Option SoapEnvHeader)
    (operation : Operation) (state : State) : Prop :=
  ∃ outcome, serve handler surroundings header operation state = .ok outcome ∧
    (handler.isSome → outcome.called.isSome) ∧
    (∀ body, operation = .probe body → outcome.called.isSome → outcome.reply.isSome) ∧
    outcome.code ≠ soapOk

/-- Only a probe of a bound service reads the header. -/
def HeaderThere (handler : Option Handler) (header : Option SoapEnvHeader) (operation : Operation) :
    Prop :=
  ∀ body, operation = .probe body → handler.isSome → header.isSome

/-- The code that ends every dispatch differs from the success code. -/
theorem soapUserError_ne_soapOk : soapUserError ≠ soapOk := by decide

/-- A reply returns the code of its first failed copy or the code that ends the dispatch. -/
theorem transmit_code (copies : List Transmission) : (transmit copies).1 ≠ soapOk := by
  induction copies with
  | nil => exact soapUserError_ne_soapOk
  | cons copy rest ih =>
      cases copy with
      | completed => exact ih
      | failed error nonzero sent => exact nonzero

/-- A `Hello` needs no header. -/
theorem hello_endsSafely (handler : Option Handler) (surroundings : Surroundings)
    (header : Option SoapEnvHeader) (body : WsdHelloType) (state : State) :
    EndsSafely handler surroundings header (.hello body) state := by
  obtain ⟨arg, -, ends⟩ := hello_eq handler body (receive header state)
  exact ⟨_, ends, by simp, by simp, soapUserError_ne_soapOk⟩

theorem bye_endsSafely (handler : Option Handler) (surroundings : Surroundings)
    (header : Option SoapEnvHeader) (body : WsdByeType) (state : State) :
    EndsSafely handler surroundings header (.bye body) state := by
  obtain ⟨arg, -, ends⟩ := bye_eq handler body (receive header state)
  exact ⟨_, ends, by simp, by simp, soapUserError_ne_soapOk⟩

/-- A probe ends safely exactly when the service is not bound or the header is there. -/
theorem probe_endsSafely_iff (handler : Option Handler) (surroundings : Surroundings)
    (header : Option SoapEnvHeader) (body : WsdProbeType) (state : State) :
    EndsSafely handler surroundings header (.probe body) state ↔
      (handler.isSome → header.isSome) := by
  cases handler with
  | none =>
      refine iff_of_true ⟨_, rfl, by simp, by simp, soapUserError_ne_soapOk⟩ (by simp)
  | some handler =>
      cases header with
      | none =>
          refine iff_of_false ?_ (by simp)
          rintro ⟨outcome, ends, -⟩
          rw [serve_probe_absent] at ends
          cases ends
      | some header =>
          have ends := serve_probe handler surroundings header body state
          refine iff_of_true ⟨_, ends, ?_, ?_, transmit_code _⟩ (by simp)
          · intro _
            rfl
          · intro _ _ _
            rfl

/-- Every operation ends safely exactly when the header that it needs is there. -/
theorem endsSafely_iff_headerThere (handler : Option Handler) (surroundings : Surroundings)
    (header : Option SoapEnvHeader) (operation : Operation) (state : State) :
    EndsSafely handler surroundings header operation state ↔ HeaderThere handler header operation := by
  cases operation with
  | hello body =>
      exact iff_of_true (hello_endsSafely handler surroundings header body state) (by
        intro other same
        cases same)
  | bye body =>
      exact iff_of_true (bye_endsSafely handler surroundings header body state) (by
        intro other same
        cases same)
  | probe body =>
      rw [probe_endsSafely_iff]
      constructor
      · intro needed other _
        exact needed
      · intro there
        exact there body rfl

/-- A probe without a header stops a bound service. -/
theorem probe_without_header_faults :
    ¬ ∀ (handler : Option Handler) (surroundings : Surroundings) (header : Option SoapEnvHeader)
        (operation : Operation) (state : State),
      EndsSafely handler surroundings header operation state := by
  intro safe
  have needed := (probe_endsSafely_iff (some ⟨fun _ => []⟩) completing none ⟨none, none⟩
    initial).mp (safe _ _ _ _ _)
  exact absurd (needed rfl) (by decide)

end Onvifxx.Service
