/-
This file proves which header builders set their own field and fail cleanly.
-/

import Onvifxx.Construction.Wsa
import Onvifxx.Library.Run

namespace Onvifxx.Wsa

open Execution Wsdd Run

/-- The builders take a non-empty text. -/
abbrev Text := {text : String // text.isEmpty = false}

/-- One call of a header builder. -/
inductive Builder where
  | addFrom (sender : Text)
  | addNoReply
  | addReplyTo (replyTo : Text)
  | addFaultTo (faultTo : Text)
  | addRelatesTo (relatesTo : Text)
  | addAppSequence (id : Option String)

/-- These are the header fields that a builder sets. -/
inductive Field where
  | sender
  | replyTo
  | faultTo
  | relatesTo
  | appSequence
  deriving DecidableEq

/-- A caller gives a field one of these values. -/
inductive Value where
  | uri (text : String)
  | sequence (record : WsdAppSequenceType)

def Builder.field : Builder → Field
  | .addFrom _ => .sender
  | .addNoReply => .replyTo
  | .addReplyTo _ => .replyTo
  | .addFaultTo _ => .faultTo
  | .addRelatesTo _ => .relatesTo
  | .addAppSequence _ => .appSequence

def Builder.value (statics : Statics) : Builder → Value
  | .addFrom sender => .uri sender
  | .addNoReply => .uri noneUri
  | .addReplyTo replyTo => .uri replyTo
  | .addFaultTo faultTo => .uri faultTo
  | .addRelatesTo relatesTo => .uri relatesTo
  | .addAppSequence id => .sequence ⟨statics.instanceId, id, statics.messageNumber + 1⟩

/-- Only the sequence builder takes a number. -/
def Builder.statics (statics : Statics) : Builder → Statics
  | .addAppSequence _ => (messageNumber statics).2
  | _ => statics

def returning (execution : Except Fault (Int × State)) : Except Fault (Returned Int × State) :=
  (fun result => (.value result.1, result.2)) <$> execution

def Builder.call (state : State) : Builder → Except Fault (Returned Int × State)
  | .addFrom sender => returning (Wsa.addFrom sender state)
  | .addNoReply => returning (Wsa.addNoReply state)
  | .addReplyTo replyTo => returning (Wsa.addReplyTo replyTo state)
  | .addFaultTo faultTo => returning (Wsa.addFaultTo faultTo state)
  | .addRelatesTo relatesTo => returning (Wsa.addRelatesTo relatesTo state)
  | .addAppSequence id => Wsa.addAppSequence id state

def Builder.step (state : State) (builder : Builder) : Except Fault State :=
  Prod.snd <$> builder.call state

/-- The header without the contents of one field. -/
def Field.erase (header : SoapEnvHeader) : Field → SoapEnvHeader
  | .sender => { header with wsaFrom := none }
  | .replyTo => { header with wsaReplyTo := none }
  | .faultTo => { header with wsaFaultTo := none }
  | .relatesTo => { header with wsaRelatesTo := none }
  | .appSequence => { header with wsdAppSequence := none }

def endpointUri (endpoint : Option WsaEndpointReferenceType) : Option Value :=
  (endpoint.bind WsaEndpointReferenceType.address).map fun address => .uri address.item

/-- The value that a sent header carries in one field. -/
def Field.carried (header : SoapEnvHeader) : Field → Option Value
  | .sender => endpointUri header.wsaFrom
  | .replyTo => endpointUri header.wsaReplyTo
  | .faultTo => endpointUri header.wsaFaultTo
  | .relatesTo => header.wsaRelatesTo.map fun relation => .uri relation.item
  | .appSequence =>
      match header.wsdAppSequence with
      | some (.received record) => some (.sequence record)
      | _ => none

/-- A clean call refuses an absent header, and in a present one it sets exactly its own field. -/
def Builder.Clean (state : State) (builder : Builder) : Prop :=
  match sentHeader state with
  | none => builder.call state = .ok (.value soapErr, state)
  | some old => ∃ after new, builder.call state = .ok (.value soapOk, after) ∧
      sentHeader after = some new ∧ builder.field.erase new = builder.field.erase old ∧
      builder.field.carried new = some (builder.value state.statics)

/-- The relation builder is clean anywhere, and an endpoint builder only without a header. -/
def Builder.Sound (state : State) : Builder → Prop
  | .addRelatesTo _ => True
  | .addAppSequence _ => False
  | _ => state.soap.header = none

/-- Each field ends with the last value that a caller gives to it. -/
def lastValues : Statics → (Field → Option Value) → List Builder → Field → Option Value
  | _, view, [] => view
  | statics, view, builder :: rest =>
      lastValues (builder.statics statics)
        (Function.update view builder.field (some (builder.value statics))) rest

/-- A run of builders completes and leaves the last values in a present header. -/
def EndsClean (state : State) (builders : List Builder) : Prop :=
  ∃ final, run Builder.step state builders = .ok final ∧
    match sentHeader state with
    | none => final = state
    | some old => ∃ new, sentHeader final = some new ∧
        ∀ field : Field, field.carried new =
          lastValues state.statics (fun field => field.carried old) builders field

theorem sentHeader_none_iff (state : State) : sentHeader state = none ↔ state.soap.header = none := by
  simp [sentHeader]

/-- An unchanged field carries its old value. -/
theorem carried_of_erase {field other : Field} {old new : SoapEnvHeader} (different : other ≠ field)
    (same : field.erase new = field.erase old) : other.carried new = other.carried old := by
  cases field <;> cases other <;>
    first
      | exact absurd rfl different
      | (simp only [Field.erase, SoapEnvHeader.mk.injEq] at same
         simp only [Field.carried, same])

/-- An endpoint builder stops at the address that it did not allocate. -/
theorem endpoint_clean_iff {builder : Builder} {state : State}
    (calls : builder.call state =
      match state.soap.header with
      | none => .ok (.value soapErr, state)
      | some _ => .error .nullDereference) :
    builder.Clean state ↔ state.soap.header = none := by
  unfold Builder.Clean
  rw [calls]
  cases present : state.soap.header with
  | none => simp [(sentHeader_none_iff state).mpr present]
  | some header => simp [sentHeader, present]

theorem optionalEndpoint_call (field : EndpointField) (uri : Text) (state : State) :
    returning (addOptionalEndpoint field uri state) =
      match state.soap.header with
      | none => .ok (.value soapErr, state)
      | some _ => .error .nullDereference := by
  rw [addOptionalEndpoint_eq]
  cases state.soap.header with
  | none => rfl
  | some header =>
      simp only [uri.property, Bool.false_eq_true, ↓reduceIte]
      rfl

theorem relatesTo_clean (relatesTo : Text) (state : State) :
    (Builder.addRelatesTo relatesTo).Clean state := by
  unfold Builder.Clean
  simp only [Builder.call, addRelatesTo_eq, relatesTo.property, Bool.false_eq_true, ↓reduceIte]
  cases present : state.soap.header with
  | none =>
      rw [(sentHeader_none_iff state).mpr present]
      rfl
  | some header =>
      simp only [sentHeader, present, Option.map_some]
      exact ⟨_, _, rfl, rfl, rfl, rfl⟩

/-- The sequence builder returns no code on a present header and faults on an absent one. -/
theorem appSequence_not_clean (id : Option String) (state : State) :
    ¬ (Builder.addAppSequence id).Clean state := by
  unfold Builder.Clean
  simp only [Builder.call, addAppSequence_eq]
  cases present : state.soap.header with
  | none => simp [(sentHeader_none_iff state).mpr present]
  | some header => simp [sentHeader, present]

/-- A single call is clean exactly when it is sound. -/
theorem clean_iff_sound (builder : Builder) (state : State) :
    builder.Clean state ↔ builder.Sound state := by
  cases builder with
  | addFrom sender =>
      apply endpoint_clean_iff
      rw [Builder.call, addFrom_eq]
      cases state.soap.header <;> rfl
  | addNoReply => exact endpoint_clean_iff (optionalEndpoint_call replyToField ⟨noneUri, by decide⟩ state)
  | addReplyTo replyTo => exact endpoint_clean_iff (optionalEndpoint_call replyToField replyTo state)
  | addFaultTo faultTo => exact endpoint_clean_iff (optionalEndpoint_call faultToField faultTo state)
  | addRelatesTo relatesTo => exact iff_of_true (relatesTo_clean relatesTo state) trivial
  | addAppSequence id => exact iff_of_false (appSequence_not_clean id state) not_false

theorem returning_ok {execution : Except Fault (Int × State)} {returned : Returned Int} {after : State}
    (ended : returning execution = .ok (returned, after)) : ∃ code, execution = .ok (code, after) := by
  obtain ⟨⟨code, reached⟩, completed, same⟩ := map_eq_ok.mp ended
  rw [← (Prod.mk.inj same).2]
  exact ⟨code, completed⟩

/-- A completed call moves the counter only for a sequence. -/
theorem call_statics {builder : Builder} {state after : State} {returned : Returned Int}
    (called : builder.call state = .ok (returned, after)) :
    after.statics = builder.statics state.statics := by
  have endpoint {field : EndpointField} {uri : String}
      (called : returning (addOptionalEndpoint field uri state) = .ok (returned, after)) :
      after.statics = state.statics := by
    obtain ⟨code, ended⟩ := returning_ok called
    rw [addOptionalEndpoint_eq] at ended
    split at ended
    · cases ended; rfl
    · split at ended <;> cases ended
      rfl
  cases builder with
  | addFrom sender =>
      obtain ⟨code, ended⟩ := returning_ok called
      rw [addFrom_eq] at ended
      split at ended <;> cases ended
      rfl
  | addNoReply => exact endpoint called
  | addReplyTo replyTo => exact endpoint called
  | addFaultTo faultTo => exact endpoint called
  | addRelatesTo relatesTo =>
      obtain ⟨code, ended⟩ := returning_ok called
      rw [addRelatesTo_eq] at ended
      split at ended
      · cases ended; rfl
      · split at ended <;> cases ended <;> rfl
  | addAppSequence id =>
      rw [Builder.call, addAppSequence_eq] at called
      split at called <;> cases called
      rfl

theorem step_of_call {builder : Builder} {state after : State} {returned : Returned Int}
    (called : builder.call state = .ok (returned, after)) : builder.step state = .ok after := by
  simp [Builder.step, called]

/-- A run of clean calls changes nothing without a header. -/
theorem run_clean_absent {state : State} (absent : sentHeader state = none) {builders : List Builder}
    (clean : Every Builder.step Builder.Clean state builders) :
    run Builder.step state builders = .ok state := by
  induction builders with
  | nil => rfl
  | cons builder rest ih =>
      have first : builder.Clean state := clean.1
      rw [Builder.Clean, absent] at first
      have taken := step_of_call first
      rw [run_cons_ok rest taken]
      exact ih ((every_cons taken).mp clean).2

/-- A run of clean calls leaves the last value in each field of a present header. -/
theorem run_clean_present {state : State} {old : SoapEnvHeader} (present : sentHeader state = some old)
    {builders : List Builder} (clean : Every Builder.step Builder.Clean state builders) :
    ∃ final new, run Builder.step state builders = .ok final ∧ sentHeader final = some new ∧
      ∀ field : Field, field.carried new =
        lastValues state.statics (fun field => field.carried old) builders field := by
  induction builders generalizing state old with
  | nil => exact ⟨state, old, rfl, present, fun _ => rfl⟩
  | cons builder rest ih =>
      have first : builder.Clean state := clean.1
      rw [Builder.Clean, present] at first
      obtain ⟨after, middle, called, sent, frame, value⟩ := first
      have taken := step_of_call called
      obtain ⟨final, new, completed, last, carried⟩ := ih sent ((every_cons taken).mp clean).2
      refine ⟨final, new, (run_cons_ok rest taken).trans completed, last, fun field => ?_⟩
      have updated : (fun field : Field => field.carried middle) =
          Function.update (fun field => field.carried old) builder.field
            (some (builder.value state.statics)) := by
        funext other
        by_cases same : other = builder.field
        · subst same
          rw [Function.update_self, value]
        · rw [Function.update_of_ne same, carried_of_erase same frame]
      rw [carried field, lastValues, ← updated, call_statics called]

/-- Clean calls compose to a clean run. -/
theorem run_clean (state : State) (builders : List Builder)
    (clean : Every Builder.step Builder.Clean state builders) : EndsClean state builders := by
  unfold EndsClean
  cases present : sentHeader state with
  | none => exact ⟨state, run_clean_absent present clean, rfl⟩
  | some old =>
      obtain ⟨final, new, completed, sent, carried⟩ := run_clean_present present clean
      exact ⟨final, completed, new, sent, carried⟩

/-- Each call is clean exactly when it is sound, and each run of sound calls ends clean. -/
theorem builders_clean_iff_sound (state : State) (builder : Builder) (builders : List Builder) :
    (builder.Clean state ↔ builder.Sound state) ∧
      (Every Builder.step Builder.Sound state builders → EndsClean state builders) := by
  refine ⟨clean_iff_sound builder state, fun sound => ?_⟩
  have clean : Every Builder.step Builder.Clean state builders :=
    (every_congr (fun state builder => clean_iff_sound builder state) state builders).mpr sound
  exact run_clean state builders clean

/-- Two relations in a row leave the second one in the header. -/
theorem builders_clean_two_relations :
    EndsClean (State.withHeader ⟨Object.initial, ⟨7, 0⟩⟩ SoapEnvHeader.soapDefault)
      [.addRelatesTo ⟨"urn:first", by decide⟩, .addRelatesTo ⟨"urn:second", by decide⟩] :=
  (builders_clean_iff_sound _ (.addRelatesTo ⟨"urn:first", by decide⟩) _).2 ⟨trivial, trivial, trivial⟩

/-- The `From` builder stops at a null address on a default header. -/
theorem addFrom_not_clean :
    ¬ ∀ (state : State) (builder : Builder), builder.Clean state := by
  intro clean
  have sound := (clean_iff_sound (.addFrom ⟨"urn:sender", by decide⟩)
    (State.withHeader ⟨Object.initial, ⟨7, 0⟩⟩ SoapEnvHeader.soapDefault)).mp (clean _ _)
  simp [Builder.Sound] at sound

end Onvifxx.Wsa
