import BigBlackHardware.Codec.RoundTrip
import BigBlackHardware.Controller.Handlers

/-! What the reply functions of the packet manager do to the desk, and what the programs on one
side of the device leave alone on the other side.
-/

namespace BigBlackHardware

open Library

/-- The packets pool is used up, so that the next get fails. -/
def Desk.UsedUp (desk : Desk) : Prop :=
  desk.packetsPool.freeItems = 0 ∧ desk.packetsPool.poolSize = desk.packetsPool.maxPoolSize

instance (desk : Desk) : Decidable desk.UsedUp :=
  inferInstanceAs (Decidable (_ ∧ _))

/-- The status of a get: negative exactly when the pool is used up. -/
theorem poolGet_status (desk : Desk)
    : (poolGet desk.packetsPool desk.nextBlock).status = if desk.UsedUp then -1 else 0 := by
  rcases poolGet_cases desk.packetsPool desk.nextBlock with
      ⟨none, full, got⟩ | ⟨some, got⟩ | ⟨none, room, got⟩ <;> rw [got]
  · rw [if_pos ⟨none, full⟩]
  · rw [if_neg fun h => absurd h.1 (by omega)]
  · rw [if_neg fun h => room h.2]

/-- The pointer that a handler's get of a packet leaves in a fresh variable. -/
def Desk.memoryPacket (desk : Desk) : Nat :=
  (poolGet desk.packetsPool desk.nextBlock).item.getD 0

/-- Getting a packet into a fresh variable runs the pool once. -/
theorem getPacketFromPool_fresh (desk : Desk)
    : getPacketFromPool 0 desk
      = .ok ((poolGet desk.packetsPool desk.nextBlock).status, desk.memoryPacket)
          desk.packetGot := rfl

/-- The desk after `write_packet`. -/
def Desk.written (desk : Desk) (packet outQueue : Nat) : Desk :=
  { desk with
    messages :=
      (sysQueueWritePtr desk.messages (desk.refused outQueue) msgQueueSize outQueue packet).2 }

/-- The desk after `create_packet` without data, of a size that is accepted. -/
def Desk.updated (desk : Desk) (packet : Nat) (dataLen : UInt16) : Desk :=
  let object := (desk.packets packet).withFields 0 0 0 dataLen
  desk.setPacket packet { object with rawHeader := updatedHeader object }

/-- Sending a packet with an accepted size updates its header and tries to queue its pointer. -/
theorem sendPacket_eq (packet : Nat) (type : PacketType) {dataLen : UInt16}
    (fits : dataLen.toNat ≤ plMaxDataLength.toNat) (outQueue : Nat) (desk : Desk)
    : sendPacket packet type dataLen outQueue desk
      = .ok packetSuccess ((desk.updated packet dataLen).written packet outQueue) := by
  have created : createPacketAt packet type none dataLen desk
      = .ok packetSuccess (desk.updated packet dataLen) := by
    change EStateM.Result.ok
      (createPacket (desk.packets packet) type 0 0 0 none dataLen).status _ = _
    rw [createPacket_header _ _ _ _ _ fits]
    rfl
  rw [sendPacket, bind_ok created]
  rfl

/-- The status of `create_packet` on a desk: success when the size is accepted. -/
theorem createPacketAt_eq (packet : Nat) (type : PacketType) (data : Option (Cells UInt8))
    (dataLen : UInt16) (desk : Desk)
    : createPacketAt packet type data dataLen desk
      = .ok (if dataLen.toNat ≤ plMaxDataLength.toNat then packetSuccess else packetWrongSize)
          (desk.setPacket packet
            (createPacket (desk.packets packet) type 0 0 0 data dataLen).packet) := by
  change EStateM.Result.ok
    (createPacket (desk.packets packet) type 0 0 0 data dataLen).status _ = _
  by_cases fits : dataLen.toNat ≤ plMaxDataLength.toNat
  · rw [if_pos fits]
    cases data with
    | none => rw [createPacket_header _ _ _ _ _ fits]
    | some data => rw [createPacket_accepts _ _ _ _ _ _ fits]
  · rw [if_neg fits, createPacket_refuses _ _ _ _ _ _ (by omega)]

/-- The common end of the senders: the packet goes to the queue if its size is accepted. -/
theorem createThenWrite_status (packet : Nat) (type : PacketType) (data : Option (Cells UInt8))
    (dataLen : UInt16) (outQueue : Nat) (desk : Desk)
    : ∃ after,
        (do
          let status ← createPacketAt packet type data dataLen
          if status < 0 then return status
          else
            let _ ← writePacket packet outQueue
            return status : DeskM Int) desk
        = .ok (if dataLen.toNat ≤ plMaxDataLength.toNat then packetSuccess else packetWrongSize)
            after := by
  rw [bind_ok (createPacketAt_eq _ _ _ _ _)]
  by_cases fits : dataLen.toNat ≤ plMaxDataLength.toNat
  · rw [if_pos fits, if_neg (by decide)]
    exact ⟨_, rfl⟩
  · rw [if_neg fits, if_pos (by decide)]
    exact ⟨_, rfl⟩

/-- The status of `create_send_packet`: whether the queue took the packet does not matter. -/
theorem createSendPacket_status (type : PacketType) (data : Cells UInt8) (dataLen : UInt16)
    (outQueue : Nat) (desk : Desk)
    : ∃ after,
        createSendPacket type data dataLen outQueue desk
        = .ok
            (if desk.UsedUp then -1
              else if dataLen.toNat ≤ plMaxDataLength.toNat then packetSuccess
              else packetWrongSize)
            after := by
  rw [createSendPacket, bind_ok (getPacketFromPool_fresh desk)]
  dsimp only
  rw [poolGet_status]
  by_cases used : desk.UsedUp
  · simp only [used, ↓reduceIte, Int.reduceNeg, Int.reduceLT]
    exact ⟨_, rfl⟩
  · simp only [used, ↓reduceIte, Int.lt_irrefl]
    exact createThenWrite_status _ _ _ _ _ _

/-- The status of `send_packet`: success when the size is accepted. -/
theorem sendPacket_status (packet : Nat) (type : PacketType) (dataLen : UInt16)
    (outQueue : Nat) (desk : Desk)
    : ∃ after,
        sendPacket packet type dataLen outQueue desk
        = .ok (if dataLen.toNat ≤ plMaxDataLength.toNat then packetSuccess else packetWrongSize)
            after := by
  rw [sendPacket]
  exact createThenWrite_status _ _ _ _ _ _

theorem getPacketFromPool_total (packet : Nat) : Total (getPacketFromPool packet) :=
  fun _ => ⟨_, _, rfl⟩

theorem createSendPacket_total (type : PacketType) (data : Cells UInt8) (dataLen : UInt16)
    (outQueue : Nat) : Total (createSendPacket type data dataLen outQueue) := fun desk =>
  ⟨_, createSendPacket_status type data dataLen outQueue desk⟩

theorem sendPacket_total (packet : Nat) (type : PacketType) (dataLen : UInt16) (outQueue : Nat)
    : Total (sendPacket packet type dataLen outQueue) := fun desk =>
  ⟨_, sendPacket_status packet type dataLen outQueue desk⟩

theorem sendError_total (msg : String) (outQueue : Nat) : Total (sendError msg outQueue) :=
  createSendPacket_total _ _ _ _

theorem sendAvrCmd_total (cmd : AvrCommand) (outQueue : Nat) : Total (sendAvrCmd cmd outQueue) :=
  createSendPacket_total _ _ _ _

theorem sendAck_total (status : Int) (outQueue : Nat) : Total (sendAck status outQueue) :=
  fun desk =>
    createSendPacket_total .ackPacket
      (Cells.store (fun _ => 0) 0 [setAckData desk.junk.value.toUInt8 status]) 1 outQueue
      { desk with junk := desk.junk.rest }

/-- The programmer side is untouched. -/
def SameRig (before after : Device) : Prop := after.rig = before.rig

instance : Std.Refl SameRig := ⟨fun _ => rfl⟩

instance : IsTrans Device SameRig := ⟨fun _ _ _ one two => Eq.trans two one⟩

/-- A program on the desk does not touch the rig. -/
theorem onDesk_sameRig {α : Type} (m : DeskM α) : Moves SameRig (onDesk m) := by
  intro device
  cases run : m device.desk with
  | ok a desk => rw [onDesk_ok run]; rfl
  | error e desk => rw [onDesk_error run]; rfl

theorem sysAssertCritical_moves {S : Device → Device → Prop} [Std.Refl S] (status : Int)
    : Moves S (sysAssertCritical status) := by
  rw [sysAssertCritical]
  exact .ite (.throw _) (.pure _)

theorem readPacket_triple {P : Device → Prop} {E : Stop → Device → Prop} (packet : Nat)
    : Triple P (readPacket packet) (fun _ => P) E :=
  fun _ h => h

section Triples

variable {α : Type} {P : Rig → Prop} {Q : α → Rig → Prop} {E : Stop → Rig → Prop}

/-- A triple of a rig program is one of the device. -/
theorem onRig_triple {m : RigM α} (triple : Triple P m Q E)
    : Triple (fun device => P device.rig) (onRig m) (fun a device => Q a device.rig)
        (fun e device => E e device.rig) := by
  intro device start
  have run := triple device.rig start
  cases result : m device.rig with
  | ok a rig =>
      rw [result] at run
      rw [onRig_ok result]
      exact run
  | error e rig =>
      rw [result] at run
      rw [onRig_error result]
      exact run

/-- What holds of the rig still holds after a desk program that returns. -/
theorem onDesk_triple {m : DeskM α} (total : Total m)
    : Triple (fun device => P device.rig) (onDesk m) (fun _ device => P device.rig)
        (fun e device => E e device.rig) := by
  intro device start
  obtain ⟨a, desk, run⟩ := total device.desk
  rw [onDesk_ok run]
  exact start

end Triples

end BigBlackHardware
