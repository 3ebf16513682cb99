/-
This file translates the life of a socket, which takes over the callbacks of its context.
-/

import Onvifxx.Construction.Hooks

namespace Onvifxx.Sock

open Wsdd

/-- The constructor of a socket checks these callbacks of its context. -/
inductive Callback where
  | fpost
  | fget
  | fput
  | fdel
  | fopt
  | fhead
  | fform
  | fposthdr
  | fresponse
  | fparse
  | fparsehdr
  | fheader
  | fresolve
  | fconnect
  | fdisconnect
  | fclosesocket
  | fshutdownsocket
  | fopen
  | faccept
  | fclose
  | fsend
  | frecv
  | fpoll
  | fseterror
  | fignore
  | fserveloop
  | fplugin
  | fmalloc
  | feltbegin
  | feltendin
  | feltbegout
  | feltendout
  | fprepareinitsend
  | fprepareinitrecv
  | fpreparesend
  | fpreparerecv
  | fpreparefinalsend
  | fpreparefinalrecv
  | ffiltersend
  | ffilterrecv
  | fdimereadopen
  | fdimewriteopen
  | fdimereadclose
  | fdimewriteclose
  | fdimeread
  | fdimewrite
  | fmimereadopen
  | fmimewriteopen
  | fmimereadclose
  | fmimewriteclose
  | fmimeread
  | fmimewrite
  deriving DecidableEq, Repr

/-- A socket replaces these callbacks by its own routines. -/
inductive Hook where
  | fopen
  | fclose
  | fsend
  | frecv
  | fignore
  | fconnect
  | faccept
  | fresolve
  | fpoll
  | fserveloop
  deriving DecidableEq, Repr

def Hook.callback : Hook → Callback
  | fopen => .fopen
  | fclose => .fclose
  | fsend => .fsend
  | frecv => .frecv
  | fignore => .fignore
  | fconnect => .fconnect
  | faccept => .faccept
  | fresolve => .fresolve
  | fpoll => .fpoll
  | fserveloop => .fserveloop

def Callback.hook? : Callback → Option Hook
  | .fopen => some .fopen
  | .fclose => some .fclose
  | .fsend => some .fsend
  | .frecv => some .frecv
  | .fignore => some .fignore
  | .fconnect => some .fconnect
  | .faccept => some .faccept
  | .fresolve => some .fresolve
  | .fpoll => some .fpoll
  | .fserveloop => some .fserveloop
  | _ => none

/-- A callback points to a routine of the library or to the routine of a socket for some hook. -/
inductive Routine where
  | library (number : Nat)
  | impl (hook : Hook)
  deriving DecidableEq, Repr

/-- The user pointer of a context holds the address of a socket. -/
structure Soap where
  user : Option Nat
  callbacks : Callback → Option Routine

/-- A socket knows its context and the callbacks that it has replaced there. -/
structure Socket where
  s : Nat
  context : Hook → Option Routine
  transport : Context

/-- The process has its contexts, the sockets that are alive and the transports that nobody owns. -/
structure Process where
  soaps : Nat → Soap
  impls : Nat → Option Socket
  made : Nat
  leaked : List (Nat × Transport)

/-- A step stops as its routine does, or it uses a deleted socket or the arguments of another routine. -/
inductive Failure where
  | stop (stop : Stop)
  | deleted
  | mistyped
  deriving DecidableEq, Repr

/-- The constructor expects a callback to be set or to be null. -/
structure Check where
  callback : Callback
  name : String
  provided : Bool

def checks : List Check :=
  [⟨.fpost, "fpost", true⟩,
   ⟨.fget, "fget", true⟩,
   ⟨.fput, "fput", true⟩,
   ⟨.fdel, "fdel", true⟩,
   ⟨.fopt, "fopt", true⟩,
   ⟨.fhead, "fhead", true⟩,
   ⟨.fform, "fform", false⟩,
   ⟨.fposthdr, "fposthdr", true⟩,
   ⟨.fresponse, "fresponse", true⟩,
   ⟨.fparse, "fparse", true⟩,
   ⟨.fparsehdr, "fparsehdr", true⟩,
   ⟨.fheader, "fheader", false⟩,
   ⟨.fresolve, "fresolve", false⟩,
   ⟨.fconnect, "fconnect", false⟩,
   ⟨.fdisconnect, "fdisconnect", false⟩,
   ⟨.fclosesocket, "fclosesocket", true⟩,
   ⟨.fshutdownsocket, "fshutdownsocket", true⟩,
   ⟨.fopen, "fopen", true⟩,
   ⟨.faccept, "faccept", true⟩,
   ⟨.fclose, "fclose", true⟩,
   ⟨.fsend, "fsend", true⟩,
   ⟨.frecv, "frecv", true⟩,
   ⟨.fpoll, "fpoll", true⟩,
   ⟨.fseterror, "fseterror", false⟩,
   ⟨.fignore, "fignore", false⟩,
   ⟨.fserveloop, "fserveloop", false⟩,
   ⟨.fplugin, "fplugin", true⟩,
   ⟨.fmalloc, "fmalloc", false⟩,
   ⟨.feltbegin, "feltbegin", false⟩,
   ⟨.feltendin, "feltendin", false⟩,
   ⟨.feltbegout, "feltbegout", false⟩,
   ⟨.feltendout, "feltendout", false⟩,
   ⟨.fprepareinitsend, "fprepareinitsend", false⟩,
   ⟨.fprepareinitrecv, "fprepareinitrecv", false⟩,
   ⟨.fpreparesend, "fpreparesend", false⟩,
   ⟨.fpreparerecv, "fpreparerecv", false⟩,
   ⟨.fpreparefinalsend, "fpreparefinalsend", false⟩,
   ⟨.fpreparefinalrecv, "fpreparefinalrecv", false⟩,
   ⟨.ffiltersend, "ffiltersend", false⟩,
   ⟨.ffilterrecv, "ffilterrecv", false⟩,
   ⟨.fdimereadopen, "fdimereadopen", false⟩,
   ⟨.fdimewriteopen, "fdimewriteopen", false⟩,
   ⟨.fdimereadclose, "fdimereadclose", false⟩,
   ⟨.fdimewriteclose, "fdimewriteclose", false⟩,
   ⟨.fdimeread, "fdimeread", false⟩,
   ⟨.fdimewrite, "fdimewrite", false⟩,
   ⟨.fmimereadopen, "fmimereadopen", false⟩,
   ⟨.fmimewriteopen, "fmimewriteopen", false⟩,
   ⟨.fmimereadclose, "fmimereadclose", false⟩,
   ⟨.fmimewriteclose, "fmimewriteclose", false⟩,
   ⟨.fmimeread, "fmimeread", false⟩,
   ⟨.fmimewrite, "fmimewrite", false⟩]

def Check.text (check : Check) : String :=
  "s->" ++ check.name ++ (if check.provided then " != nullptr" else " == nullptr")

def stops {A : Type} : Except Stop A → Except Failure A
  | .ok result => .ok result
  | .error stop => .error (.stop stop)

def assertAll (callbacks : Callback → Option Routine) : List Check → Except Failure Unit
  | [] => .ok ()
  | check :: rest => do
      stops (Endpoint.assert ((callbacks check.callback).isSome == check.provided) check.text)
      assertAll callbacks rest

/-- The ten hooks take the given values, and each other callback stays. -/
def assignHooks (values : Hook → Option Routine) (callbacks : Callback → Option Routine) :
    Callback → Option Routine := fun callback =>
  match callback.hook? with
  | some hook => values hook
  | none => callbacks callback

/-- The library calls a hook of a context, and the system decides its result. -/
inductive Request where
  | openSocket (url : List Char) (result : Result)
  | connect (url : List Char) (result : Result)
  | send (data : List UInt8) (transfer : Transfer data.length)
  | recv (incoming buffer : List UInt8) (transfer : Transfer buffer.length)
  | close (result : Result)
  | resolve (resolver : List Char → List Char → Option ByteOrder.AddressV4) (addr : List Char)
  | ignore
  | accept
  | poll
  | serveloop

def Request.hook : Request → Hook
  | openSocket _ _ => .fopen
  | connect _ _ => .fconnect
  | send _ _ => .fsend
  | recv _ _ _ => .frecv
  | close _ => .fclose
  | resolve _ _ => .fresolve
  | ignore => .fignore
  | accept => .faccept
  | poll => .fpoll
  | serveloop => .fserveloop

inductive Action where
  | construct (s : Nat)
  | destroy (address : Nat)
  | call (s : Nat) (request : Request)

namespace Process

/-- The library has set up its contexts, and there is no socket. -/
def initial (tables : Nat → Callback → Option Nat) : Process where
  soaps s := ⟨none, fun callback => (tables s callback).map .library⟩
  impls _ := none
  made := 0
  leaked := []

/-- The constructor keeps the callbacks that it replaces, and its socket has no transport. -/
def install (s : Nat) (process : Process) : Process :=
  let callbacks := (process.soaps s).callbacks
  let impl : Socket := ⟨s, fun hook => callbacks hook.callback, Context.initial⟩
  { process with
    soaps := Function.update process.soaps s
      ⟨some process.made, assignHooks (fun hook => some (.impl hook)) callbacks⟩
    impls := Function.update process.impls process.made (some impl)
    made := process.made + 1 }

/-- The context is not null, and the constructor asserts that it is free and as the library leaves it. -/
def construct (s : Nat) (process : Process) : Except Failure Process := do
  stops (Endpoint.assert (process.soaps s).user.isNone "s->user == nullptr")
  assertAll (process.soaps s).callbacks checks
  return install s process

/-- The destructor puts the callbacks back, and it does not delete the transport. -/
def release (address : Nat) (impl : Socket) (process : Process) : Process :=
  { process with
    soaps := Function.update process.soaps impl.s
      ⟨none, assignHooks impl.context (process.soaps impl.s).callbacks⟩
    impls := Function.update process.impls address none
    leaked := process.leaked ++ impl.transport.alive.map (Prod.mk address) }

def destroy (address : Nat) (process : Process) : Except Failure Process :=
  match process.impls address with
  | none => .error .deleted
  | some impl => .ok (release address impl process)

/-- The last routines only return a code. -/
def body (request : Request) (transport : Context) : Except Stop Context :=
  match request with
  | .openSocket url result => Prod.snd <$> transport.openSocket url result
  | .connect url result => Prod.snd <$> transport.connect url result
  | .send data transfer => Prod.snd <$> transport.send data transfer
  | .recv incoming buffer transfer => Prod.snd <$> transport.recv incoming buffer transfer
  | .close result => Prod.snd <$> transport.close result
  | .resolve resolver addr => (fun _ => transport) <$> resolve resolver addr
  | .ignore | .accept | .poll | .serveloop => .ok transport

/-- A routine may change the transport of its socket. -/
def setTransport (address : Nat) (impl : Socket) (transport : Context) (process : Process) : Process :=
  { process with impls := Function.update process.impls address (some { impl with transport }) }

/-- Each routine but the last finds its socket through the user pointer and asserts its context. -/
def enter (s : Nat) (request : Request) (process : Process) : Except Failure Process :=
  match request, (process.soaps s).user with
  | .serveloop, _ => .ok process
  | _, none => .error (.stop .null)
  | request, some address =>
      match process.impls address with
      | none => .error .deleted
      | some impl => do
          stops (Endpoint.assert (impl.s == s) "impl->s == s")
          let transport ← stops (body request impl.transport)
          return setTransport address impl transport process

/-- A routine of the library leaves the sockets alone. -/
def call (s : Nat) (request : Request) (process : Process) : Except Failure Process :=
  match (process.soaps s).callbacks request.hook.callback with
  | some (.impl hook) => if hook = request.hook then enter s request process else .error .mistyped
  | some (.library _) | none => .ok process

def step (process : Process) : Action → Except Failure Process
  | .construct s => construct s process
  | .destroy address => destroy address process
  | .call s request => call s request process

end Process
end Onvifxx.Sock
