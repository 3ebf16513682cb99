/-
This file translates the threads of the example daemon.
-/

import Onvifxx.Library.Run

namespace Onvifxx.Daemon

/-- The daemon registers these signals. -/
inductive Signal where
  | hup
  | int
  | quit
  | term
  | usr1
  deriving DecidableEq, Repr

/-- The library decides both codes of a turn and the objects that its request allocates. -/
structure Turn where
  accept : Int
  serve : Int
  allocated : List Nat
  deriving DecidableEq, Repr

/-- A release drops every object that is still held. -/
def destroy (_ : List Nat) : List Nat := []

/-- A failed accept and a failed request continue before the release. -/
def serveTurn (turn : Turn) (held : List Nat) : List Nat :=
  if turn.accept = -1 then
    held
  else
    let held := held ++ turn.allocated
    if turn.serve ≠ 0 then held else destroy held

/-- The service thread announces the daemon, serves until the stop and takes its leave. -/
inductive ServicePoint where
  | absent
  | hello
  | head
  | body
  | bye
  | reset
  | ended
  deriving DecidableEq, Repr

/-- The main thread runs the library in a loop and joins the service thread there. -/
inductive ExecPoint where
  | starting
  | entered
  | running
  | handling
  | joining
  | joined
  | checking
  | aborted
  | exited
  deriving DecidableEq, Repr

/-- The library keeps one wait for a signal, one completed wait and its own stop. -/
structure IoService where
  stopped : Bool
  work : Bool
  armed : Bool
  ready : Option Signal
  deriving DecidableEq, Repr

structure State where
  exec : ExecPoint
  iterations : Nat
  stopped : Bool
  ios : IoService
  service : ServicePoint
  held : List Nat
  joined : Bool
  deriving DecidableEq, Repr

/-- The constructor of the daemon waits once for a signal. -/
def initial : State where
  exec := .starting
  iterations := 0
  stopped := false
  ios := ⟨false, false, true, none⟩
  service := .absent
  held := []
  joined := false

/-- A blocked thread takes no step. -/
inductive Refusal where
  | blocked
  deriving DecidableEq, Repr

/-- An error leaves the handler before it touches the daemon. -/
def signalHandler (error : Bool) (signal : Signal) (state : State) : State :=
  if error then state else { state with stopped := signal ≠ .hup, exec := .handling }

/-- Only a stop or a lack of work ends the run, and either one keeps the library stopped. -/
def runIos (state : State) : Except Refusal State :=
  if state.ios.stopped then
    .ok { state with exec := .joining }
  else
    match state.ios.ready with
    | some signal =>
        .ok (signalHandler false signal { state with ios := { state.ios with ready := none } })
    | none =>
        if state.ios.work || state.ios.armed then
          .error .blocked
        else
          .ok { state with ios := { state.ios with stopped := true }, exec := .joining }

/-- A second join throws, and the handler of the loop goes on to the check. -/
def join (state : State) : Except Refusal State :=
  if state.joined then
    .ok { state with exec := .checking }
  else if state.service = .ended then
    .ok { state with joined := true, exec := .joined }
  else
    .error .blocked

/-- The main thread takes its next step, and its assertion may be compiled out. -/
def exec (assertions : Bool) (state : State) : Except Refusal State :=
  match state.exec with
  | .starting => .ok { state with
      exec := .entered, iterations := 1, ios := { state.ios with work := true }, service := .hello }
  | .entered => .ok { state with exec := .running }
  | .running => runIos state
  | .handling => .ok { state with ios := { state.ios with stopped := true }, exec := .running }
  | .joining => join state
  | .joined =>
      .ok { state with exec := if assertions && !state.stopped then .aborted else .checking }
  | .checking =>
      if state.stopped then .ok { state with exec := .exited }
      else .ok { state with exec := .entered, iterations := state.iterations + 1 }
  | .aborted | .exited => .error .blocked

/-- The service thread takes its next step, and the end of its objects releases what they hold. -/
def runService (turn : Turn) (state : State) : Except Refusal State :=
  match state.service with
  | .hello => .ok { state with service := .head }
  | .head => .ok { state with service := if state.ios.stopped then .bye else .body }
  | .body => .ok { state with held := serveTurn turn state.held, service := .head }
  | .bye => .ok { state with held := [], service := .reset }
  | .reset => .ok { state with ios := { state.ios with work := false }, service := .ended }
  | .absent | .ended => .error .blocked

/-- An exception inside the service leaves its block. -/
def throwService (state : State) : Except Refusal State :=
  match state.service with
  | .hello | .body | .bye => .ok { state with held := [], service := .reset }
  | .absent | .head | .reset | .ended => .error .blocked

/-- The wait takes the first signal, and nothing waits for a later one. -/
def arrive (signal : Signal) (state : State) : State :=
  if state.ios.armed then
    { state with ios := { state.ios with armed := false, ready := some signal } }
  else
    state

inductive Action where
  | arrive (signal : Signal)
  | exec
  | abandon
  | service (turn : Turn)
  | serviceThrows
  deriving DecidableEq, Repr

/-- The main thread gives up when it cannot become a daemon or start its service. -/
def abandon (state : State) : Except Refusal State :=
  if state.exec = .starting then .ok { state with exec := .exited } else .error .blocked

def step (assertions : Bool) (state : State) : Action → Except Refusal State
  | .arrive signal => .ok (arrive signal state)
  | .exec => exec assertions state
  | .abandon => abandon state
  | .service turn => runService turn state
  | .serviceThrows => throwService state

end Onvifxx.Daemon
