/-
This file translates the binding of the discovery service and its dispatcher.
-/

import Onvifxx.Construction.Service

namespace Onvifxx.Service

open Execution RemoteDiscovery Wsdd

def discoveryPort : Int := 3702

def invalidSocket : Int := -1

/-- The library opens a socket for a port, and the system adds it to the multicast group or refuses. -/
structure Sockets where
  opens : Int → Int
  joins : Int → Bool

structure Bound where
  p : Option Handler
  result : Int

/-- The handler is kept even when the socket fails. -/
def bind (sockets : Sockets) (obj : Option Handler) (port : Int) : Bound :=
  let port := if port == 0 then discoveryPort else port
  let socket := sockets.opens port
  if socket == invalidSocket then ⟨obj, invalidSocket⟩
  else if !sockets.joins socket then ⟨obj, invalidSocket⟩
  else ⟨obj, socket⟩

/-- The code of the generated dispatcher for a message without an operation. -/
def soapNoMethod : Int := 13

/-- The generated dispatcher finds an operation for the message, or it gives a code of its own. -/
inductive Incoming where
  | operation (operation : Operation)
  | refused (code : Int)

def dispatchIncoming (handler : Option Handler) (surroundings : Surroundings)
    (header : Option SoapEnvHeader) (incoming : Incoming) (state : State) : Except Fault Outcome :=
  match incoming with
  | .operation operation => serve handler surroundings header operation state
  | .refused code => .ok ⟨code, receive header state, none, none, false⟩

structure Dispatched where
  code : Int
  closed : Bool
  outcome : Outcome

def State.withSoap (state : State) (soap : Soap) : State :=
  { state with wsa := { state.wsa with soap } }

/-- The code of an operation that sends its own answer closes the socket, and another code throws. -/
def settle (what : Soap → String) (outcome : Outcome) : Dispatched :=
  if outcome.code != soapOk then
    if outcome.code == soapUserError then ⟨soapOk, true, outcome⟩
    else
      let soap := { outcome.state.wsa.soap with error := outcome.code }
      -- The exception is caught at once, and its text becomes the fault string.
      let soap := (Wsa.senderFault soap (some "RemoteDiscovery") (what soap) none).2
      ⟨soapFault, false, { outcome with state := outcome.state.withSoap soap }⟩
  else ⟨soapOk, false, outcome⟩

def dispatch (what : Soap → String) (handler : Option Handler) (surroundings : Surroundings)
    (header : Option SoapEnvHeader) (incoming : Incoming) (state : State) :
    Except Fault Dispatched :=
  settle what <$> dispatchIncoming handler surroundings header incoming state

@[simp] theorem bind_p (sockets : Sockets) (obj : Option Handler) (port : Int) :
    (bind sockets obj port).p = obj := by
  simp only [bind]
  generalize (if port == 0 then discoveryPort else port) = port
  split
  · rfl
  · split <;> rfl

/-- The dispatcher changes nothing of an outcome but the error and the fault of its context. -/
theorem settle_outcome (what : Soap → String) (outcome : Outcome) :
    (settle what outcome).outcome.called = outcome.called ∧
      (settle what outcome).outcome.reply = outcome.reply ∧
      (settle what outcome).outcome.sent = outcome.sent ∧
      (settle what outcome).outcome.state.wsa.statics = outcome.state.wsa.statics := by
  unfold settle
  split
  · split
    · exact ⟨rfl, rfl, rfl, rfl⟩
    · exact ⟨rfl, rfl, rfl, rfl⟩
  · exact ⟨rfl, rfl, rfl, rfl⟩

/-- The dispatcher refuses exactly the codes that are neither success nor a sent answer. -/
theorem settle_code (what : Soap → String) (outcome : Outcome) :
    (settle what outcome).code =
      if outcome.code = soapOk ∨ outcome.code = soapUserError then soapOk else soapFault := by
  unfold settle
  by_cases fine : outcome.code = soapOk
  · simp [fine]
  · by_cases answered : outcome.code = soapUserError
    · simp [answered, soapUserError, soapOk]
    · simp [fine, answered]

end Onvifxx.Service
