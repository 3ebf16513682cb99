/-
This file joins two socket hooks by one byte stream in each direction.
-/

import Onvifxx.Construction.Sock
import Onvifxx.Library.ByteStream
import Onvifxx.Library.Run

namespace Onvifxx.Sock

open Execution Wsdd

inductive Side where
  | near
  | far
  deriving DecidableEq, Repr

def Side.other : Side → Side
  | near => far
  | far => near

/-- Each side writes one stream, and the other side reads it. -/
structure Connection where
  impl : Side → Impl
  written : Side → ByteStream UInt8

namespace Connection

/-- Both transports are connected, and nothing is in flight. -/
def initial : Connection := ⟨fun _ => ⟨some .tcp, none⟩, fun _ => ByteStream.empty⟩

inductive Call where
  | send (side : Side) (data : List UInt8) (transfer : Transfer data.length)
  | recv (side : Side) (buffer : List UInt8) (transfer : Transfer buffer.length)

/-- A hook stops at a null transport, and the socket never delivers more than is in flight. -/
inductive Stop where
  | fault (fault : Fault)
  | nothingInFlight
  deriving DecidableEq, Repr

def incoming (connection : Connection) (side : Side) : List UInt8 :=
  (connection.written side.other).inFlight

/-- A writer takes the success code as a report about all its bytes. -/
def afterSend (connection : Connection) (side : Side) (data : List UInt8) (sent : Sent) :
    Connection where
  impl := Function.update connection.impl side sent.impl
  written := Function.update connection.written side
    ((connection.written side).write sent.handed (if sent.code = soapOk then data else []))

/-- A reader takes the returned size as the number of bytes in its buffer. -/
def afterRecv (connection : Connection) (side : Side) (count : Nat) (received : Received) :
    Connection where
  impl := Function.update connection.impl side received.impl
  written := Function.update connection.written side.other
    ((connection.written side.other).read count (received.buffer.take received.size.toNat))

def step (connection : Connection) : Call → Except Stop Connection
  | .send side data transfer =>
      match (connection.impl side).send data transfer with
      | .ok sent => .ok (connection.afterSend side data sent)
      | .error fault => .error (.fault fault)
  | .recv side buffer transfer =>
      if transfer.count ≤ (connection.incoming side).length then
        match (connection.impl side).recv (connection.incoming side) buffer transfer with
        | .ok received => .ok (connection.afterRecv side transfer.count received)
        | .error fault => .error (.fault fault)
      else .error .nothingInFlight

/-- Both sides hold a connected transport. -/
def Connected (connection : Connection) : Prop := ∀ side, (connection.impl side).ip = some .tcp

/-- Both streams report what they carry. -/
def Balanced (connection : Connection) : Prop := ∀ side, (connection.written side).Balanced

theorem initial_connected : initial.Connected := fun _ => rfl

theorem initial_balanced : initial.Balanced := fun _ => ByteStream.empty_balanced

/-- A hook that keeps its own transport keeps both transports. -/
theorem update_connected {connection : Connection} (connected : connection.Connected) (side : Side)
    {impl : Impl} (kept : impl.ip = some .tcp) (written : Side → ByteStream UInt8) :
    Connected ⟨Function.update connection.impl side impl, written⟩ := by
  intro other
  by_cases same : other = side
  · subst same
    simpa using kept
  · simpa [Function.update_of_ne same] using connected other

/-- A call that keeps its own stream balanced keeps both streams balanced. -/
theorem update_balanced {connection : Connection} (balanced : connection.Balanced) (side : Side)
    {stream : ByteStream UInt8} (kept : stream.Balanced) (impl : Side → Impl) :
    Balanced ⟨impl, Function.update connection.written side stream⟩ := by
  intro other
  by_cases same : other = side
  · subst same
    simpa using kept
  · simpa [Function.update_of_ne same] using balanced other

/-- A connected transport stays connected over each call. -/
theorem step_connected {connection next : Connection} {call : Call}
    (connected : connection.Connected) (taken : connection.step call = .ok next) :
    next.Connected := by
  cases call with
  | send side data transfer =>
      obtain ⟨sent, ends, kept, -⟩ := Impl.send_connected data transfer (connected side)
      simp only [step, ends, Except.ok.injEq] at taken
      subst next
      exact update_connected connected side kept _
  | recv side buffer transfer =>
      obtain ⟨received, ends, kept, -⟩ :=
        Impl.recv_connected (connection.incoming side) buffer transfer (connected side)
      simp only [step, ends] at taken
      split at taken
      · simp only [Except.ok.injEq] at taken
        subst next
        exact update_connected connected side kept _
      · cases taken

end Connection
end Onvifxx.Sock
