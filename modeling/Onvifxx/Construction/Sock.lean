/-
This file translates the transports and the hooks that send and receive through them.
-/

import Onvifxx.Construction.SoapTypes

namespace Onvifxx.Sock

open Execution Wsdd

/-- The socket moves a part of the asked bytes, or it fails with a message. -/
inductive Transfer (asked : Nat) where
  | moved (count : Nat) (bounded : count ≤ asked) (progress : 0 < asked → 0 < count)
  | failed (message : String)

/-- An error code is set exactly when it has a message. -/
abbrev Result := Option String

namespace Transfer

variable {asked : Nat}

def count : Transfer asked → Nat
  | moved count _ _ => count
  | failed _ => 0

def result : Transfer asked → Result
  | moved _ _ _ => none
  | failed message => some message

theorem count_le (transfer : Transfer asked) : transfer.count ≤ asked := by
  cases transfer with
  | moved count bounded progress => exact bounded
  | failed message => exact Nat.zero_le asked

end Transfer

/-- A transport returns the error code and drops the count of its transfer. -/
def sendBuffer (data : List UInt8) (transfer : Transfer data.length) : Result × List UInt8 :=
  (transfer.result, data.take transfer.count)

/-- The received bytes replace the start of the buffer. -/
def receiveBuffer (incoming buffer : List UInt8) (transfer : Transfer buffer.length) :
    Result × List UInt8 :=
  (transfer.result, incoming.take transfer.count ++ buffer.drop transfer.count)

def Tcp.send (data : List UInt8) (transfer : Transfer data.length) : Result × List UInt8 :=
  sendBuffer data transfer

def Tcp.recv (incoming buffer : List UInt8) (transfer : Transfer buffer.length) :
    Result × List UInt8 := receiveBuffer incoming buffer transfer

def Udp.send (data : List UInt8) (transfer : Transfer data.length) : Result × List UInt8 :=
  sendBuffer data transfer

def Udp.recv (incoming buffer : List UInt8) (transfer : Transfer buffer.length) :
    Result × List UInt8 := receiveBuffer incoming buffer transfer

inductive Ip where
  | tcp
  | udp
  deriving DecidableEq, Repr

namespace Ip

def isUdp : Ip → Bool
  | tcp => false
  | udp => true

def send (data : List UInt8) (transfer : Transfer data.length) : Ip → Result × List UInt8
  | tcp => Tcp.send data transfer
  | udp => Udp.send data transfer

def recv (incoming buffer : List UInt8) (transfer : Transfer buffer.length) :
    Ip → Result × List UInt8
  | tcp => Tcp.recv incoming buffer transfer
  | udp => Udp.recv incoming buffer transfer

end Ip

inductive SoapError where
  | tcp
  | udp
  deriving DecidableEq, Repr

structure SenderError where
  faultstring : String
  detail : String
  soaperror : SoapError
  deriving DecidableEq, Repr

/-- The hooks share the transport and the error of their context. -/
structure Impl where
  ip : Option Ip
  error : Option SenderError
  deriving DecidableEq, Repr

structure Sent where
  code : Int
  handed : List UInt8
  impl : Impl

structure Received where
  size : UInt64
  buffer : List UInt8
  impl : Impl

def soapInvalidSocket : Int := -1

/-- A size holds 64 bits, so a negative code wraps. -/
def sizeT (code : Int) : UInt64 := UInt64.ofInt code

namespace Impl

def setSenderError (faultstring detail : String) (ip : Ip) (impl : Impl) : Impl :=
  { impl with error := some ⟨faultstring, detail, if ip.isUdp then .udp else .tcp⟩ }

def send (data : List UInt8) (transfer : Transfer data.length) (impl : Impl) : Except Fault Sent := do
  let ip ← deref impl.ip
  let (result, handed) := ip.send data transfer
  match result with
  | some message =>
      return ⟨soapInvalidSocket, handed, impl.setSenderError "failed to send" message ip⟩
  | none => return ⟨soapOk, handed, impl⟩

def recv (incoming buffer : List UInt8) (transfer : Transfer buffer.length) (impl : Impl) :
    Except Fault Received := do
  let ip ← deref impl.ip
  let (result, filled) := ip.recv incoming buffer transfer
  match result with
  | some message =>
      return ⟨sizeT soapInvalidSocket, filled, impl.setSenderError "failed to recv" message ip⟩
  | none => return ⟨sizeT soapOk, filled, impl⟩

variable {impl : Impl}

/-- A connected transport ends each send, and only a failure changes the returned code. -/
theorem send_connected (data : List UInt8) (transfer : Transfer data.length)
    (connected : impl.ip = some .tcp) :
    ∃ sent, send data transfer impl = .ok sent ∧ sent.impl.ip = some .tcp ∧
      sent.handed = data.take transfer.count ∧
      sent.code = if transfer.result.isSome then soapInvalidSocket else soapOk := by
  obtain ⟨ip, error⟩ := impl
  change ip = some .tcp at connected
  subst connected
  cases transfer with
  | moved count bounded progress => exact ⟨_, rfl, rfl, rfl, rfl⟩
  | failed message => exact ⟨_, rfl, rfl, rfl, rfl⟩

/-- A connected transport ends each receive, and its size never depends on the count. -/
theorem recv_connected (incoming buffer : List UInt8) (transfer : Transfer buffer.length)
    (connected : impl.ip = some .tcp) :
    ∃ received, recv incoming buffer transfer impl = .ok received ∧
      received.impl.ip = some .tcp ∧
      received.buffer = incoming.take transfer.count ++ buffer.drop transfer.count ∧
      received.size = sizeT (if transfer.result.isSome then soapInvalidSocket else soapOk) := by
  obtain ⟨ip, error⟩ := impl
  change ip = some .tcp at connected
  subst connected
  cases transfer with
  | moved count bounded progress => exact ⟨_, rfl, rfl, rfl, rfl⟩
  | failed message => exact ⟨_, rfl, rfl, rfl, rfl⟩

end Impl
end Onvifxx.Sock
