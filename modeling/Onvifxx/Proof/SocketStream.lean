/-
This file proves when the socket hooks report the bytes that they carry.
-/

import Onvifxx.Construction.Connection

namespace Onvifxx.Sock.Connection

open Execution Wsdd Run

/-- A successful send has handed over all its bytes, and a receive returns what it has stored. -/
def HandsOver (connection : Connection) : Call → Prop
  | .send side data transfer => ∃ sent, (connection.impl side).send data transfer = .ok sent ∧
      (sent.code = soapOk → sent.handed = data)
  | .recv side buffer transfer => ∃ received,
      (connection.impl side).recv (connection.incoming side) buffer transfer = .ok received ∧
        received.size.toNat = transfer.count

/-- A send is accepted whole or fails, and a receive with an empty buffer does not fail. -/
def Whole : Call → Prop
  | .send _ data transfer => transfer.count = data.length ∨ transfer.result.isSome
  | .recv _ buffer transfer => buffer = [] ∧ transfer.result = none

/-- Each call hands over its bytes, and each side is told what the other side was told. -/
def Carries (calls : List Call) : Prop :=
  Every step HandsOver initial calls ∧ ∀ final, run step initial calls = .ok final → ∀ side,
    (final.written side).Balanced ∧
      ((final.written side).inFlight = [] →
        (final.written side).toldReceived = (final.written side).toldSent)

theorem soapInvalidSocket_ne_soapOk : soapInvalidSocket ≠ soapOk := by decide

theorem sizeT_soapOk : (sizeT soapOk).toNat = 0 := by decide

theorem sizeT_soapInvalidSocket : (sizeT soapInvalidSocket).toNat ≠ 0 := by decide

/-- A prefix is the whole list exactly when it has its length. -/
theorem take_eq_self_iff (data : List UInt8) {count : Nat} (bounded : count ≤ data.length) :
    data.take count = data ↔ count = data.length := by
  rw [List.take_eq_self_iff]
  exact ⟨fun least => le_antisymm bounded least, fun same => same.ge⟩

/-- A send hands over its bytes exactly when it is accepted whole or fails. -/
theorem send_handsOver_iff {connection : Connection} (connected : connection.Connected) (side : Side)
    (data : List UInt8) (transfer : Transfer data.length) :
    HandsOver connection (.send side data transfer) ↔ Whole (.send side data transfer) := by
  obtain ⟨sent, ends, -, handed, code⟩ := Impl.send_connected data transfer (connected side)
  have same : HandsOver connection (.send side data transfer) ↔
      (sent.code = soapOk → sent.handed = data) := by
    simp [HandsOver, ends]
  rw [same, handed, code, take_eq_self_iff data transfer.count_le]
  cases transfer with
  | moved count bounded progress => simp [Whole, Transfer.result]
  | failed message => simp [Whole, Transfer.result, soapInvalidSocket_ne_soapOk]

/-- A successful transfer moves nothing exactly when nothing is asked. -/
theorem moved_nothing_iff {buffer : List UInt8} {count : Nat} (bounded : count ≤ buffer.length)
    (progress : 0 < buffer.length → 0 < count) : 0 = count ↔ buffer = [] := by
  constructor
  · intro nothing
    by_contra nonempty
    have moved := progress (List.length_pos_iff.mpr nonempty)
    omega
  · intro empty
    rw [empty, List.length_nil] at bounded
    omega

/-- A receive returns what it has stored exactly when it asks for nothing and does not fail. -/
theorem recv_handsOver_iff {connection : Connection} (connected : connection.Connected) (side : Side)
    (buffer : List UInt8) (transfer : Transfer buffer.length) :
    HandsOver connection (.recv side buffer transfer) ↔ Whole (.recv side buffer transfer) := by
  obtain ⟨received, ends, -, -, size⟩ :=
    Impl.recv_connected (connection.incoming side) buffer transfer (connected side)
  have same : HandsOver connection (.recv side buffer transfer) ↔
      received.size.toNat = transfer.count := by
    simp [HandsOver, ends]
  rw [same, size]
  cases transfer with
  | moved count bounded progress =>
      simp [Whole, Transfer.result, Transfer.count, sizeT_soapOk, moved_nothing_iff bounded progress]
  | failed message =>
      simp [Whole, Transfer.result, Transfer.count, sizeT_soapInvalidSocket]

theorem handsOver_iff_whole (connection : Connection) (call : Call)
    (connected : connection.Connected) : HandsOver connection call ↔ Whole call := by
  cases call with
  | send side data transfer => exact send_handsOver_iff connected side data transfer
  | recv side buffer transfer => exact recv_handsOver_iff connected side buffer transfer

/-- Over a run from connected transports the calls hand over their bytes exactly when they are whole. -/
theorem every_handsOver_iff_whole (calls : List Call) :
    Every step HandsOver initial calls ↔ Every step (fun _ => Whole) initial calls := by
  apply every_congr_of _ handsOver_iff_whole initial_connected
  intro connection call next connected taken
  exact step_connected connected taken

/-- A send that hands over its bytes keeps both streams balanced. -/
theorem send_balanced {connection next : Connection} {side : Side} {data : List UInt8}
    {transfer : Transfer data.length} (connected : connection.Connected)
    (balanced : connection.Balanced) (handsOver : HandsOver connection (.send side data transfer))
    (taken : connection.step (.send side data transfer) = .ok next) : next.Balanced := by
  obtain ⟨sent, ends, whole⟩ := handsOver
  simp only [step, ends, Except.ok.injEq] at taken
  subst next
  apply update_balanced balanced
  rw [ByteStream.write_balanced_iff (balanced side)]
  by_cases success : sent.code = soapOk
  · rw [if_pos success, whole success]
  · obtain ⟨_, sameEnds, -, handed, code⟩ := Impl.send_connected data transfer (connected side)
    cases ends.symm.trans sameEnds
    rw [if_neg success, handed]
    cases transfer with
    | moved count bounded progress => exact absurd code success
    | failed message => exact List.take_zero

/-- A receive that returns what it has stored keeps both streams balanced. -/
theorem recv_balanced {connection next : Connection} {side : Side} {buffer : List UInt8}
    {transfer : Transfer buffer.length} (connected : connection.Connected)
    (balanced : connection.Balanced) (handsOver : HandsOver connection (.recv side buffer transfer))
    (taken : connection.step (.recv side buffer transfer) = .ok next) : next.Balanced := by
  obtain ⟨received, ends, stored⟩ := handsOver
  obtain ⟨_, sameEnds, -, filled, -⟩ :=
    Impl.recv_connected (connection.incoming side) buffer transfer (connected side)
  cases ends.symm.trans sameEnds
  simp only [step, ends] at taken
  split at taken
  case isTrue available =>
    simp only [Except.ok.injEq] at taken
    subst next
    apply update_balanced balanced
    rw [ByteStream.read_balanced_iff (balanced side.other), stored, filled]
    exact List.take_left' (List.length_take_of_le available)
  case isFalse => cases taken

/-- Each call that hands over its bytes keeps both streams balanced. -/
theorem step_balanced {connection next : Connection} {call : Call} (connected : connection.Connected)
    (balanced : connection.Balanced) (handsOver : HandsOver connection call)
    (taken : connection.step call = .ok next) : next.Balanced := by
  cases call with
  | send side data transfer => exact send_balanced connected balanced handsOver taken
  | recv side buffer transfer => exact recv_balanced connected balanced handsOver taken

/-- A run whose calls hand over their bytes ends with balanced streams. -/
theorem run_balanced {calls : List Call} {final : Connection}
    (handsOver : Every step HandsOver initial calls) (completed : run step initial calls = .ok final) :
    final.Balanced := by
  have preserved : ∀ (connection : Connection) (call : Call) (next : Connection),
      connection.Connected ∧ connection.Balanced → HandsOver connection call →
        connection.step call = .ok next → next.Connected ∧ next.Balanced := by
    rintro connection call next ⟨connected, balanced⟩ guard taken
    exact ⟨step_connected connected taken, step_balanced connected balanced guard taken⟩
  exact (run_invariant preserved ⟨initial_connected, initial_balanced⟩ handsOver completed).2

/-- The hooks carry the streams exactly when every call of the run is whole. -/
theorem carries_iff_whole (calls : List Call) :
    Carries calls ↔ Every step (fun _ => Whole) initial calls := by
  have agree := every_handsOver_iff_whole calls
  constructor
  · intro carries
    exact agree.mp carries.1
  · intro whole
    refine ⟨agree.mpr whole, ?_⟩
    intro final completed side
    have balanced := run_balanced (agree.mpr whole) completed side
    exact ⟨balanced, ByteStream.received_eq_sent balanced⟩

/-- A received byte is reported as the end of the input. -/
theorem received_byte_not_carried : ¬ ∀ calls : List Call, Carries calls := by
  intro carries
  have whole := (every_handsOver_iff_whole [.send .near [71] (.moved 1 (by decide) (by decide)),
    .recv .far [0] (.moved 1 (by decide) (by decide))]).mp (carries _).1
  have received : Whole (.recv .far [0] (.moved 1 (by decide) (by decide))) := whole.2.1
  cases received.1

end Onvifxx.Sock.Connection
