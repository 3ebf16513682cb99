/-
This file proves which texts reach the system log unchanged.
-/

import Onvifxx.Construction.Log
import Onvifxx.Library.Tokens

namespace Onvifxx.Syslog

open FormatText Tokens

namespace Event

def isFlush : Event → Bool
  | flush => true
  | _ => false

def character? : Event → Option Char
  | put character => some character
  | _ => none

def priority? : Event → Option Priority
  | priority value => some value
  | _ => none

end Event

def chunkText (chunk : List Event) : List Char := chunk.filterMap Event.character?

def chunkPriorities (chunk : List Event) : List Priority := chunk.filterMap Event.priority?

/-- The last priority that a chunk sets takes the place of the one at its start. -/
def lastPriority (start : Priority) (chunk : List Event) : Priority :=
  (chunkPriorities chunk).getLast?.getD start

/-- These are the parts between the flushes. -/
def chunks (events : List Event) : List (List Event) :=
  (events.splitOnP Event.isFlush).dropLast

/-- This is the part after the last flush. -/
def openChunk (events : List Event) : List Event :=
  (events.splitOnP Event.isFlush).getLast?.getD []

/-- A chunk becomes one message with its own text and its own last priority. -/
def chunkMessage (chunk : List Event) : Message :=
  ⟨lastPriority .debug chunk, some (chunkText chunk)⟩

def chunkMessages (chunks : List (List Event)) : List Message :=
  (chunks.filter fun chunk => !(chunkText chunk).isEmpty).map chunkMessage

/-- The log has sent each closed chunk with text and still holds the text of the open one. -/
def Verbatim (events : List Event) (log : Log) : Prop :=
  log.messages = chunkMessages (chunks events) ∧ log.buffer = chunkText (openChunk events)

/-- The priority that a log has after some closed chunks. -/
def inForce (start : Priority) (chunks : List (List Event)) : Priority :=
  chunks.foldl
    (fun priority chunk => if chunkText chunk = [] then lastPriority priority chunk else .debug) start

/-- A chunk is plain text, and it sets a priority or starts with the default one. -/
def Transports (start : Priority) (chunk : List Event) : Prop :=
  ('%' ∉ chunkText chunk ∧ '\x00' ∉ chunkText chunk) ∧
    (chunkPriorities chunk ≠ [] ∨ start = .debug)

/-- Each chunk with text is transported from the priority in force at its start. -/
def AllTransport (start : Priority) (chunks : List (List Event)) : Prop :=
  ∀ before chunk after, chunks = before ++ chunk :: after → chunkText chunk ≠ [] →
    Transports (inForce start before) chunk

/-- A list of chunks splits at its first chunk or later. -/
theorem allTransport_cons (start : Priority) (chunk : List Event) (rest : List (List Event)) :
    AllTransport start (chunk :: rest) ↔ (chunkText chunk ≠ [] → Transports start chunk) ∧
      AllTransport (inForce start [chunk]) rest := by
  constructor
  · intro all
    refine ⟨all [] chunk rest rfl, ?_⟩
    intro before later after shape
    exact all (chunk :: before) later after (by rw [shape]; rfl)
  · rintro ⟨first, others⟩ before later after shape
    cases before with
    | nil =>
        obtain ⟨rfl, rfl⟩ := List.cons.inj shape
        exact first
    | cons head before =>
        obtain ⟨rfl, same⟩ := List.cons.inj shape
        exact others before later after same

theorem lastPriority_append (start : Priority) (first second : List Event) :
    lastPriority start (first ++ second) = lastPriority (lastPriority start first) second := by
  simp only [lastPriority, chunkPriorities, List.filterMap_append, List.getLast?_append]
  cases (second.filterMap Event.priority?).getLast? <;> rfl

theorem chunkText_append (first second : List Event) :
    chunkText (first ++ second) = chunkText first ++ chunkText second := List.filterMap_append

/-- A chunk without a flush fills the buffer and may set the priority. -/
theorem run_chunk {chunk : List Event} (clear : ∀ event ∈ chunk, event.isFlush = false) (log : Log) :
    ∃ error, run chunk log =
      ⟨log.buffer ++ chunkText chunk, lastPriority log.priority chunk, error, log.messages⟩ := by
  induction chunk generalizing log with
  | nil => exact ⟨log.error, by simp [run, chunkText, lastPriority, chunkPriorities]⟩
  | cons event rest ih =>
      simp only [List.forall_mem_cons] at clear
      obtain ⟨error, ran⟩ := ih clear.2 (step log event)
      refine ⟨error, ?_⟩
      have head : step log event = ⟨log.buffer ++ chunkText [event],
          lastPriority log.priority [event], (step log event).error, log.messages⟩ := by
        cases event with
        | put character => rfl
        | priority value => simp [step, chunkText, Event.character?, lastPriority,
            chunkPriorities, Event.priority?]
        | flush => cases clear.1
        | fails error => simp [step, chunkText, Event.character?, lastPriority,
            chunkPriorities, Event.priority?]
      have parts : event :: rest = [event] ++ rest := rfl
      rw [parts, run_append, chunkText_append, lastPriority_append]
      change run rest (step log event) = _
      rw [ran, head, List.append_assoc]

/-- The first flush closes one chunk. -/
theorem chunks_flush {chunk : List Event} (clear : ∀ event ∈ chunk, event.isFlush = false)
    (rest : List Event) :
    chunks (chunk ++ .flush :: rest) = chunk :: chunks rest ∧
      openChunk (chunk ++ .flush :: rest) = openChunk rest := by
  obtain ⟨first, parts, shape⟩ :=
    List.exists_cons_of_ne_nil (List.splitOnP_ne_nil Event.isFlush rest)
  have cut := List.splitOnP_append_cons_of_forall_mem clear .flush rfl rest
  constructor
  · rw [chunks, cut, chunks, shape, List.dropLast_cons_cons]
  · rw [openChunk, cut, openChunk, shape, List.getLast?_cons_cons]

theorem chunks_clear {chunk : List Event} (clear : ∀ event ∈ chunk, event.isFlush = false) :
    chunks chunk = [] ∧ openChunk chunk = chunk := by
  rw [chunks, openChunk, List.splitOnP_eq_singleton clear]
  exact ⟨rfl, rfl⟩

/-- One message is the wanted one exactly when its chunk is transported. -/
theorem message_iff (error : ErrorText) (start : Priority) (chunk : List Event) :
    (⟨lastPriority start chunk, format error (cString (chunkText chunk))⟩ : Message) =
      chunkMessage chunk ↔ Transports start chunk := by
  have priorities : lastPriority start chunk = lastPriority .debug chunk ↔
      chunkPriorities chunk ≠ [] ∨ start = .debug := by
    rcases List.eq_nil_or_concat (chunkPriorities chunk) with none | ⟨rest, last, shape⟩
    · simp [lastPriority, none]
    · simp [lastPriority, shape]
  rw [chunkMessage, Message.mk.injEq, priorities, format_cString_iff, Transports, and_comm]

/-- The flush after a chunk sends its message, or the chunk has no text. -/
theorem run_closed {chunk : List Event} (clear : ∀ event ∈ chunk, event.isFlush = false)
    (rest : List Event) {log : Log} (empty : log.buffer = []) :
    ∃ next, run (chunk ++ .flush :: rest) log = run rest next ∧ next.buffer = [] ∧
      next.priority = inForce log.priority [chunk] ∧
      next.messages = log.messages ++ if chunkText chunk = [] then [] else
        [⟨lastPriority log.priority chunk, format next.error (cString (chunkText chunk))⟩] := by
  obtain ⟨error, ran⟩ := run_chunk clear log
  rw [empty, List.nil_append] at ran
  refine ⟨sync (run chunk log), by rw [run_append]; rfl, ?_⟩
  rw [ran]
  by_cases void : chunkText chunk = []
  · rw [sync_empty void]
    exact ⟨void, by simp [inForce, void], by simp [void]⟩
  · rw [sync_text void]
    exact ⟨rfl, by simp [inForce, void], by simp [void]⟩

theorem chunkMessages_cons (chunk : List Event) (rest : List (List Event)) :
    chunkMessages (chunk :: rest) =
      (if chunkText chunk = [] then [] else [chunkMessage chunk]) ++ chunkMessages rest := by
  by_cases void : chunkText chunk = []
  · simp [chunkMessages, void]
  · simp [chunkMessages, void]

/-- A run from an empty buffer sends the wanted messages exactly when it transports each chunk. -/
theorem run_messages_iff (events : List Event) (log : Log) (empty : log.buffer = []) :
    (run events log).buffer = chunkText (openChunk events) ∧
      ((run events log).messages = log.messages ++ chunkMessages (chunks events) ↔
        AllTransport log.priority (chunks events)) := by
  induction events using separator_induction Event.isFlush generalizing log with
  | final chunk clear =>
      obtain ⟨error, ran⟩ := run_chunk clear log
      rw [ran, (chunks_clear clear).1, (chunks_clear clear).2, empty]
      refine ⟨rfl, iff_of_true (List.append_nil _).symm ?_⟩
      intro before later after shape
      simp at shape
  | closed chunk space rest clear cuts ih =>
      obtain rfl : space = .flush := by cases space <;> first | rfl | cases cuts
      obtain ⟨next, ran, void, forced, sent⟩ := run_closed clear rest empty
      obtain ⟨buffer, messages⟩ := ih next void
      rw [forced] at messages
      rw [ran, (chunks_flush clear rest).1, (chunks_flush clear rest).2, chunkMessages_cons,
        allTransport_cons, ← messages]
      refine ⟨buffer, ?_⟩
      by_cases silent : chunkText chunk = []
      · simp [silent, sent]
      · have extended := run_messages rest next
        simp only [silent, ↓reduceIte] at sent ⊢
        rw [sent] at extended ⊢
        have first := message_iff next.error log.priority chunk
        constructor
        · intro same
          obtain ⟨tail, shape⟩ := extended
          rw [← shape, List.append_assoc, List.append_cancel_left_eq] at same
          obtain ⟨head, others⟩ : _ = chunkMessage chunk ∧
              tail = chunkMessages (chunks rest) := List.cons.inj same
          exact ⟨fun _ => first.mp head, by rw [← shape, others]⟩
        · rintro ⟨transported, same⟩
          rw [same, first.mpr (transported silent), List.append_assoc]

/-- The log is verbatim exactly when each chunk with text is plain and has its own priority. -/
theorem run_verbatim_iff (error : ErrorText) (events : List Event) :
    Verbatim events (run events (initial error)) ↔ AllTransport .debug (chunks events) := by
  obtain ⟨buffer, messages⟩ := run_messages_iff events (initial error) rfl
  rw [Verbatim, and_iff_left buffer]
  exact messages

/-- A percent sign that a peer sends in the types of a probe changes the logged text. -/
theorem run_reinterprets :
    ¬ ∀ (error : ErrorText) (events : List Event), Verbatim events (run events (initial error)) := by
  intro verbatim
  have reached := (verbatim ⟨[], by decide, by decide⟩
    [.put '%', .put '%', .flush]).1
  revert reached
  decide

end Onvifxx.Syslog
