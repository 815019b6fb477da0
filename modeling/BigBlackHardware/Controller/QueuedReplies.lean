import BigBlackHardware.Controller.DeskFrame
import BigBlackHardware.Controller.NewReplies

/-! How many packets a handler queues: one, or an error packet and one more. -/

namespace BigBlackHardware

open Library

/-- The number of packets that wait in queues. -/
def Desk.queued (desk : Desk) : Nat := desk.messages.length

def Device.queued (device : Device) : Nat := device.desk.queued

/-- The program queues at most that many packets. -/
abbrev Queues {α : Type} (most : Nat) (m : DeviceM α) : Prop := Moves (Grows Device.queued most) m

section Desk

variable {outQueue : Nat}

/-- A desk program queues what it adds to the messages. -/
theorem onDesk_queues {α : Type} {m : DeskM α} {most : Nat}
    (moves : Moves (Grows Desk.queued most) m)
    : Queues most (onDesk m) :=
  moves.onPart fun _ _ moved => moved

theorem writePacket_grows (packet : Nat)
    : Moves (Grows Desk.queued 1) (writePacket packet outQueue) := by
  intro desk
  change (desk.written packet outQueue).messages.length ≤ desk.messages.length + 1
  rw [written_messages, List.length_append]
  split
  · exact Nat.le_refl _
  · exact Nat.add_le_add_left (Nat.zero_le 1) _

theorem createSendPacket_grows (type : PacketType) (data : Cells UInt8) (dataLen : UInt16)
    : Moves (Grows Desk.queued 1)
        (createSendPacket type data dataLen outQueue) := by
  rw [createSendPacket]
  refine .grows_bind (j := 0) (fun desk => Nat.le_refl _) fun got => .ite (.pure _) ?_
  refine .grows_bind (j := 0) (fun desk => Nat.le_refl _) fun status => .ite (.pure _) ?_
  exact .grows_bind (k := 0) (writePacket_grows _) fun _ => .pure _

theorem sendPacket_grows (packet : Nat) (type : PacketType) (dataLen : UInt16)
    : Moves (Grows Desk.queued 1)
        (sendPacket packet type dataLen outQueue) := by
  rw [sendPacket]
  refine .grows_bind (j := 0) (fun desk => Nat.le_refl _) fun status => .ite (.pure _) ?_
  exact .grows_bind (k := 0) (writePacket_grows _) fun _ => .pure _

theorem sendAck_grows (status : Int)
    : Moves (Grows Desk.queued 1) (sendAck status outQueue) :=
  fun desk => createSendPacket_grows .ackPacket _ 1 { desk with junk := desk.junk.rest }

end Desk

section Handlers

variable (outQueue packet : Nat)

theorem onRig_queues {α : Type} (m : RigM α) : Queues 0 (onRig m) :=
  Moves.onPart (S := fun _ _ => True) (fun _ => trivial) fun _ _ _ => Nat.le_refl _

theorem readPacket_queues : Queues 0 (readPacket packet) := fun _ => Nat.le_refl _

theorem sysAssertCritical_queues (status : Int) : Queues 0 (sysAssertCritical status) :=
  sysAssertCritical_moves status

theorem acknowledge_queues (status : Int)
    : Queues 1
        (do
          let status ← onDesk (sendAck status outQueue)
          sysAssertCritical status
          return status) := by
  refine .grows_bind (k := 0) (onDesk_queues (sendAck_grows status)) fun status => ?_
  exact .bind (sysAssertCritical_queues status) fun _ => .pure _

theorem processCmdPacket_queues : Queues 2 (processCmdPacket outQueue packet) := by
  rw [processCmdPacket]
  refine .grows_bind (j := 0) (readPacket_queues packet) fun object => .ite (.pure _) ?_
  refine .grows_bind (j := 0) (onRig_queues _) fun answer => ?_
  have reply : Queues 1 (onDesk (sendAvrCmd answer.2 outQueue)) :=
    onDesk_queues (createSendPacket_grows _ _ _)
  refine .ite ?_ (reply.grows_mono (Nat.le_succ 1))
  exact .grows_bind (onDesk_queues (createSendPacket_grows _ _ _)) fun _ => reply

theorem processLoadMcuInfoPacket_queues
    : Queues 2 (processLoadMcuInfoPacket outQueue packet) := by
  rw [processLoadMcuInfoPacket]
  refine .grows_bind (j := 0) (readPacket_queues packet) fun object => ?_
  refine .grows_bind (j := 0) (onRig_queues _) fun loaded => .ite (.pure _) ?_
  refine .grows_bind (j := 0) (onRig_queues _) fun _ => ?_
  refine .grows_bind (j := 0) (onRig_queues _) fun status => ?_
  have acknowledge (status : Int) := acknowledge_queues outQueue status
  refine .ite ?_ ((acknowledge status).grows_mono (Nat.le_succ 1))
  refine .grows_bind (onDesk_queues (createSendPacket_grows _ _ _)) fun status => ?_
  exact .grows_bind (j := 0) (sysAssertCritical_queues status) fun _ => acknowledge status

theorem processProgramMemoryPacket_queues
    : Queues 2 (processProgramMemoryPacket outQueue packet) := by
  rw [processProgramMemoryPacket]
  refine .grows_bind (j := 0) (readPacket_queues packet) fun object => ?_
  refine .grows_bind (j := 0) (onRig_queues _) fun loaded => .ite (.pure _) ?_
  refine .grows_bind (j := 0) (onRig_queues _) fun status => ?_
  have acknowledge := acknowledge_queues outQueue status
  refine .ite ?_ (acknowledge.grows_mono (Nat.le_succ 1))
  refine .grows_bind (onDesk_queues (createSendPacket_grows _ _ _)) fun _ => ?_
  exact .grows_bind (j := 0) (sysAssertCritical_queues status) fun _ => acknowledge

theorem readMemoryInto_queues (memData : AvrReadMemData)
    : Queues 0 (readMemoryInto memData packet) := by
  rw [readMemoryInto]
  refine .bind (readPacket_queues packet) fun object => .bind (onRig_queues _) fun read => ?_
  exact .bind (onDesk_queues fun _ => Nat.le_refl _) fun _ => .pure _

theorem processReadMemoryPacket_queues
    : Queues 2 (processReadMemoryPacket outQueue packet) := by
  rw [processReadMemoryPacket]
  refine .grows_bind (j := 0) (readPacket_queues packet) fun object => ?_
  cases getReadMemData object with
  | error status => exact .pure _
  | ok memData =>
      refine .grows_bind (j := 0) (onDesk_queues fun _ => Nat.le_refl _) fun fresh => ?_
      refine .ite (.pure _) ?_
      refine .grows_bind (j := 0) (readMemoryInto_queues _ memData) fun status => ?_
      have reply : Queues 1
          (onDesk (sendPacket packet .memoryPacket memData.bytesToRead.toUInt16 outQueue)) :=
        onDesk_queues (sendPacket_grows packet _ _)
      refine .ite ?_ (.ite (.pure _) (reply.grows_mono (Nat.le_succ 1)))
      refine .grows_bind (onDesk_queues (createSendPacket_grows _ _ _)) fun status => ?_
      exact .ite (.pure _) reply

/-- A call queues at most two packets, by the handler that the type selects. -/
theorem processPacket_queues : Queues 2 (processPacket outQueue packet) := by
  rw [processPacket]
  refine .grows_bind (j := 0) (readPacket_queues packet) fun object => ?_
  have none {m : DeviceM Int} (queues : Queues 0 m) : Queues 2 m :=
    queues.grows_mono (Nat.zero_le 2)
  cases entry : handlerAt object.header.type with
  | none => exact .throw _
  | some handler =>
      obtain ⟨type, -, found⟩ := Option.bind_eq_some_iff.mp entry
      cases type <;> cases found
      · exact none (onRig_queues _)
      · exact none (onRig_queues _)
      · exact .pure _
      · exact .pure _
      · exact none (processReset_ofDesks (S := Grows Desk.queued 0) packet outQueue)
      · exact .pure _
      · exact .pure _
      · exact processLoadMcuInfoPacket_queues outQueue packet
      · exact processProgramMemoryPacket_queues outQueue packet
      · exact processReadMemoryPacket_queues outQueue packet
      · exact processCmdPacket_queues outQueue packet

end Handlers

end BigBlackHardware
