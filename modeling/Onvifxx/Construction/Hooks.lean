/-
This file translates the hooks that make, close and resolve the transport of a socket.
-/

import Onvifxx.Construction.Endpoint
import Onvifxx.Construction.Sock

namespace Onvifxx.Sock

open ByteOrder Execution Wsdd

/-- Each transport object is made once, and it has a kind. -/
structure Transport where
  serial : Nat
  kind : Ip
  deriving DecidableEq, Repr

/-- The socket points to one transport, and the process counts and keeps its transport objects. -/
structure Context where
  ip : Option Transport
  error : Option SenderError
  made : Nat
  alive : List Transport
  deriving DecidableEq, Repr

/-- The constructor of a socket has no transport. -/
def Context.initial : Context := ⟨none, none, 0, []⟩

namespace Context

/-- The hooks that transfer data see the kind of the transport. -/
def impl (context : Context) : Impl := ⟨context.ip.map Transport.kind, context.error⟩

/-- A null pointer stops the process. -/
def nullStops {A : Type} : Except Fault A → Except Stop A
  | .ok result => .ok result
  | .error .nullDereference => .error .null

def send (data : List UInt8) (transfer : Transfer data.length) (context : Context) :
    Except Stop (Int × Context) := do
  let sent ← nullStops (context.impl.send data transfer)
  return (sent.code, { context with error := sent.impl.error })

def recv (incoming buffer : List UInt8) (transfer : Transfer buffer.length) (context : Context) :
    Except Stop (UInt64 × Context) := do
  let received ← nullStops (context.impl.recv incoming buffer transfer)
  return (received.size, { context with error := received.impl.error })

/-- A closed transport stays in its place. -/
def close (result : Result) (context : Context) : Except Stop (Int × Context) := do
  let ip ← nullStops (deref context.ip)
  match result with
  | some message =>
      let failed := context.impl.setSenderError "failed to close" message ip.kind
      return (soapInvalidSocket, { context with error := failed.error })
  | none => return (soapOk, context)

/-- A transport that does not connect is deleted, and one that does takes the place of the old one. -/
def connect (url : List Char) (result : Result) (context : Context) :
    Except Stop (Int × Context) := do
  let kind := if (← Endpoint.fromUrl url).isUdp then Ip.udp else Ip.tcp
  let ip : Transport := ⟨context.made, kind⟩
  let context := { context with made := context.made + 1, alive := ip :: context.alive }
  match result with
  | some message =>
      let failed := context.impl.setSenderError "failed to connect" message kind
      return (soapInvalidSocket,
        { context with error := failed.error, alive := context.alive.erase ip })
  | none =>
      let alive := match context.ip with
        | some old => context.alive.erase old
        | none => context.alive
      return (soapOk, { context with ip := some ip, alive })

def openSocket (url : List Char) (result : Result) (context : Context) :
    Except Stop (Int × Context) :=
  connect url result context

end Context

/-- The address keeps the order of the host. -/
def resolve (resolver : List Char → List Char → Option AddressV4) (addr : List Char) :
    Except Stop (Int × UInt32) := do
  let endpoint ← Endpoint.fromUrl addr
  let sAddr := (← endpoint.inAddr resolver).toUInt32
  return (soapOk, sAddr)

end Onvifxx.Sock
