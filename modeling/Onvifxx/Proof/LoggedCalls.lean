/-
This file proves what the log of the example daemon tells about the calls on a network.
-/

import Onvifxx.Construction.CallLog
import Onvifxx.Library.PathName
import Onvifxx.Proof.NetworkTrace

namespace Onvifxx.Syslog

open FormatText PathName RemoteDiscovery

/-- The loop finds the last part of a path. -/
theorem baseName_eq (path : List Char) : baseName path = lastPart '/' (cString path) := by
  unfold baseName
  generalize cString path = text
  induction text using List.reverseRecOn with
  | nil => rfl
  | append_singleton text character ih =>
      rw [List.foldl_append, ih, lastPart_concat]
      by_cases slash : character = '/'
      · simp [slash]
      · simp [slash]

/-- The log is named by the start of the file name of its program. -/
theorem ident_baseName (path : List Char) :
    ident (baseName path) = (lastPart '/' (cString path)).take (identSize - 1) := by
  have ended : '\x00' ∉ lastPart '/' (cString path) := fun member =>
    cString_ended path ((List.rtakeWhile_suffix _ _).subset member)
  rw [ident, baseName_eq, cString_eq_self ended]

/-- These characters have no meaning to the system log. -/
def Plain (text : List Char) : Prop := '%' ∉ text ∧ '\x00' ∉ text

instance (text : List Char) : Decidable (Plain text) := inferInstanceAs (Decidable (_ ∧ _))

theorem plain_append {first second : List Char} :
    Plain (first ++ second) ↔ Plain first ∧ Plain second := by
  simp only [Plain, List.mem_append, not_or]
  tauto

/-- The texts of a call that reach the log. -/
def strings : HandlerCall → List (List Char)
  | .hello arg => [printed arg.xaddrs, printed arg.types, printed (arg.scopes.map ScopesT.item)]
  | .bye arg => [printed arg.xaddrs, printed arg.types, printed (arg.scopes.map ScopesT.item)]
  | .probe arg => [printed arg.types, printed (arg.scopes.map ScopesT.item)]

theorem plain_intercalate {separator : List Char} (plain : Plain separator) (texts : List (List Char)) :
    Plain (separator.intercalate texts) ↔ ∀ text ∈ texts, Plain text := by
  induction texts with
  | nil => simp [List.intercalate, Plain]
  | cons text rest ih =>
      cases rest with
      | nil => simp [List.intercalate]
      | cons next rest =>
          have joined : separator.intercalate (text :: next :: rest) =
              text ++ (separator ++ separator.intercalate (next :: rest)) := by
            simp [List.intercalate]
          rw [joined, plain_append, plain_append, ih, and_iff_right plain, ← List.forall_mem_cons]

/-- An entry is plain exactly when its file and its texts are. -/
theorem plain_entry {line name : String} (digits : Plain line.toList) (named : Plain name.toList)
    (file : List Char) (texts : List (List Char)) :
    Plain (entry file line name texts) ↔ Plain file ∧ ∀ text ∈ texts, Plain text := by
  have colon : Plain ":".toList := by decide
  have blank : Plain " ".toList := by decide
  have opens : Plain "(".toList := by decide
  have comma : Plain ", ".toList := by decide
  have closes : Plain ")".toList := by decide
  simp only [entry, plain_append, plain_intercalate comma, colon, digits, blank, named, opens, closes,
    and_true]

theorem plain_callText (file : List Char) (call : HandlerCall) :
    Plain (callText file call ++ ['\n']) ↔ Plain file ∧ ∀ text ∈ strings call, Plain text := by
  have line : Plain ['\n'] := by decide
  rw [plain_append, and_iff_left line]
  cases call with
  | hello arg => exact plain_entry (by decide) (by decide) file _
  | bye arg => exact plain_entry (by decide) (by decide) file _
  | probe arg => exact plain_entry (by decide) (by decide) file _

theorem run_insert (text : List Char) (log : Log) :
    run (insert text) log = { log with buffer := log.buffer ++ text } := by
  induction text generalizing log with
  | nil => simp [insert, run]
  | cons character rest ih =>
      change run (insert rest) (step log (.put character)) = _
      rw [ih]
      simp [step, overflow]

/-- The message that one call leaves. -/
def callMessage (error : ErrorText) (file : List Char) (call : HandlerCall) : Message :=
  ⟨.debug, format error (cString (callText file call ++ ['\n']))⟩

theorem run_logCall (error : ErrorText) (messages : List Message) (file : List Char)
    (call : HandlerCall) :
    run (logCall file call) ⟨[], .debug, error, messages⟩ =
      ⟨[], .debug, error, messages ++ [callMessage error file call]⟩ := by
  rw [logCall, run_append, run_insert]
  change sync _ = _
  rw [sync_text (by simp)]
  simp [callMessage]

/-- Each call leaves one message, and nothing stays in the buffer. -/
theorem run_logCalls (error : ErrorText) (messages : List Message) (file : List Char)
    (calls : List HandlerCall) :
    run (calls.flatMap (logCall file)) ⟨[], .debug, error, messages⟩ =
      ⟨[], .debug, error, messages ++ calls.map (callMessage error file)⟩ := by
  induction calls generalizing messages with
  | nil => simp [run]
  | cons call rest ih =>
      rw [List.flatMap_cons, run_append, run_logCall, ih]
      simp

theorem callMessage_text_iff (error : ErrorText) (file : List Char) (call : HandlerCall) :
    (callMessage error file call).text = some (callText file call ++ ['\n']) ↔
      Plain file ∧ ∀ text ∈ strings call, Plain text := by
  rw [← plain_callText]
  exact format_cString_iff

end Onvifxx.Syslog

namespace Onvifxx.Network

open RemoteDiscovery Run Syslog Wsdd

variable {Site : Type} [DecidableEq Site]

/-- The calls that one service has made on its handlers. -/
def heardBy (site : Site) (service : Nat) (trace : List (Event Site)) : List HandlerCall :=
  trace.filterMap fun
    | .heard source number call => if source = site ∧ number = service then some call else none
    | _ => none

theorem heard_of_mem {site : Site} {service : Nat} {trace : List (Event Site)} {call : HandlerCall}
    (member : call ∈ heardBy site service trace) : .heard site service call ∈ trace := by
  obtain ⟨event, inside, found⟩ := List.mem_filterMap.mp member
  cases event with
  | heard source number heard =>
      simp only [Option.ite_none_right_eq_some, Option.some.injEq] at found
      obtain ⟨⟨rfl, rfl⟩, rfl⟩ := found
      exact inside
  | said | bound | answered | refused => cases found

/-- A sent call reaches the log with these texts, and a `Bye` has lost them. -/
def loggedStrings : HandlerCall → List (List Char)
  | .bye _ => []
  | spoken => strings spoken

theorem strings_received (spoken : HandlerCall) :
    (∀ text ∈ strings (received spoken), Plain text) ↔ ∀ text ∈ loggedStrings spoken, Plain text := by
  cases spoken with
  | hello arg => exact Iff.rfl
  | bye arg =>
      refine iff_of_true ?_ (by simp [loggedStrings])
      change ∀ text ∈ [[], [], []], Plain text
      decide
  | probe arg => exact Iff.rfl

/-- What a message of the log tells about the call that it comes from. -/
def Tells (file : List Char) (trace : List (Event Site)) (call : HandlerCall)
    (message : Syslog.Message) : Prop :=
  message.priority = .debug ∧ ∃ source header spoken, .said source header spoken ∈ trace ∧
    call = received spoken ∧ (message.text = some (callText file call ++ ['\n']) ↔
      Plain file ∧ ∀ text ∈ loggedStrings spoken, Plain text)

/-- Each heard call leaves one message, which shows it exactly when what its caller sent is plain. -/
theorem run_logsSaid (instances : Site → UInt32) (what : Soap → String)
    (actions : List (Action Site)) (final : Network Site) (site : Site) (service : Nat)
    (file : List Char) (error : FormatText.ErrorText)
    (completed : Run.run (step what) (initial instances) actions = .ok final) :
    List.Forall₂ (Tells file final.trace) (heardBy site service final.trace)
      (Syslog.run ((heardBy site service final.trace).flatMap (logCall file))
        (Syslog.initial error)).messages := by
  rw [Syslog.initial, run_logCalls, List.nil_append, List.forall₂_map_right_iff, List.forall₂_same]
  intro call member
  obtain ⟨earlier, later, split⟩ := List.append_of_mem (heard_of_mem member)
  obtain ⟨source, header, spoken, said, same⟩ :=
    ((run_recorded completed).explained earlier _ later split).1
  refine ⟨rfl, source, header, spoken, ?_, same, ?_⟩
  · rw [split]
    exact List.mem_append_left _ said
  · rw [callMessage_text_iff, same, strings_received]

theorem run_logsSaid_sample :
    ∃ final, Run.run (step fun _ => "") (initial sampleInstances) sampleActions = .ok final ∧
      List.Forall₂ (Tells "wsdd.cpp".toList final.trace) (heardBy true 0 final.trace)
        (Syslog.run ((heardBy true 0 final.trace).flatMap (logCall "wsdd.cpp".toList))
          (Syslog.initial ⟨[], by decide, by decide⟩)).messages := by
  have supplied : Every (step fun _ => "") Supplied (initial sampleInstances) sampleActions :=
    every_supplied rfl
  obtain ⟨final, completed, -⟩ :=
    run_completes (step_supplied fun _ => "") (initial_headed sampleInstances) supplied
  exact ⟨final, completed, run_logsSaid sampleInstances _ sampleActions final true 0 _ _ completed⟩

end Onvifxx.Network
