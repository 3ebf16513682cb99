/-
This file translates the stream buffer that feeds the system log.
-/

import Onvifxx.Library.FormatText

namespace Onvifxx.Syslog

open FormatText

inductive Priority where
  | emergency
  | alert
  | critical
  | error
  | warning
  | notice
  | info
  | debug
  deriving DecidableEq, Repr

/-- A message has a text only when its format is defined. -/
structure Message where
  priority : Priority
  text : Option (List Char)
  deriving DecidableEq

/-- The log holds its buffer and its priority, and the process holds the last error and the messages. -/
structure Log where
  buffer : List Char
  priority : Priority
  error : ErrorText
  messages : List Message

/-- The stream writes a character, sets the priority or flushes, and other calls may fail. -/
inductive Event where
  | put (character : Char)
  | priority (value : Priority)
  | flush
  | fails (error : ErrorText)

/-- A log right after its construction. -/
def initial (error : ErrorText) : Log := ⟨[], .debug, error, []⟩

/-- The text is the format of the message. -/
def syslog (priority : Priority) (text : List Char) (log : Log) : Log :=
  { log with messages := log.messages ++ [⟨priority, format log.error (cString text)⟩] }

/-- An empty buffer keeps the priority. -/
def sync (log : Log) : Log :=
  if log.buffer.length ≠ 0 then
    { syslog log.priority log.buffer log with buffer := [], priority := .debug }
  else
    log

/-- The end of the stream flushes, and any other character joins the buffer. -/
def overflow (character : Option Char) (log : Log) : Log :=
  match character with
  | some character => { log with buffer := log.buffer ++ [character] }
  | none => sync log

/-- The stream has no put area, so each of its characters overflows. -/
def step (log : Log) : Event → Log
  | .put character => overflow (some character) log
  | .priority value => { log with priority := value }
  | .flush => sync log
  | .fails error => { log with error }

def run (events : List Event) (log : Log) : Log := events.foldl step log

theorem sync_empty {log : Log} (empty : log.buffer = []) : sync log = log := by
  simp [sync, empty]

/-- A flush of some text sends one message and takes the default priority. -/
theorem sync_text {log : Log} (proper : log.buffer ≠ []) :
    sync log = ⟨[], .debug, log.error, log.messages ++
      [⟨log.priority, format log.error (cString log.buffer)⟩]⟩ := by
  simp [sync, syslog, proper]

theorem run_append (first second : List Event) (log : Log) :
    run (first ++ second) log = run second (run first log) := List.foldl_append

/-- A log never takes a message back. -/
theorem step_messages (log : Log) (event : Event) : log.messages <+: (step log event).messages := by
  cases event with
  | flush =>
      by_cases empty : log.buffer = []
      · rw [step, sync_empty empty]
      · rw [step, sync_text empty]
        exact List.prefix_append log.messages _
  | put character => exact List.prefix_refl _
  | priority value => exact List.prefix_refl _
  | fails error => exact List.prefix_refl _

theorem run_messages (events : List Event) (log : Log) :
    log.messages <+: (run events log).messages := by
  induction events generalizing log with
  | nil => exact List.prefix_refl _
  | cons event rest ih => exact (step_messages log event).trans (ih (step log event))

end Onvifxx.Syslog
