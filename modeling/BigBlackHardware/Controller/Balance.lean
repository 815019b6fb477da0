import BigBlackHardware.Controller.Replies

/-! The balance of the packets pool: how many allocated packets are neither free nor in a queue. No
handler returns with fewer of them than it was called with.
-/

namespace BigBlackHardware

open Library

/-- At least `k` of the allocated packets are neither free nor in a queue. -/
structure Desk.Missing (k : Nat) (desk : Desk) : Prop where
  allocated : desk.packetsPool.poolSize = desk.nextBlock
  missing
    : desk.packetsPool.freeItems + desk.messages.length + k ≤ desk.packetsPool.poolSize

theorem Desk.Missing.mono {j k : Nat} {desk : Desk} (missing : desk.Missing k) (less : j ≤ k)
    : desk.Missing j :=
  ⟨missing.allocated, by have := missing.missing; omega⟩

/-- A get that succeeds takes a packet off the free ones, or allocates one. -/
theorem Desk.Missing.got {k : Nat} {desk : Desk} (missing : desk.Missing k)
    : desk.packetGot.Missing (if desk.UsedUp then k else k + 1) := by
  obtain ⟨allocated, bound⟩ := missing
  rcases poolGet_cases desk.packetsPool desk.nextBlock with
      ⟨none, full, got⟩ | ⟨some, got⟩ | ⟨none, room, got⟩
  · rw [if_pos ⟨none, full⟩, Desk.packetGot, got]
    exact ⟨allocated, bound⟩
  · rw [if_neg fun h => absurd h.1 (by omega), Desk.packetGot, got]
    exact ⟨allocated, by dsimp only; omega⟩
  · rw [if_neg fun h => room h.2, Desk.packetGot, got]
    exact ⟨by simp [allocated], by dsimp only; omega⟩

/-- A write to a queue takes at most one packet. -/
theorem Desk.Missing.written {k : Nat} {desk : Desk} (missing : desk.Missing (k + 1))
    (packet outQueue : Nat) : (desk.written packet outQueue).Missing k := by
  obtain ⟨allocated, bound⟩ := missing
  refine ⟨allocated, ?_⟩
  rw [Desk.written, sysQueueWritePtr]
  split <;> simp only [List.length_append, List.length_singleton] <;> omega

/-- A release of a packet while one is missing succeeds. -/
theorem Desk.Missing.released {k : Nat} {desk : Desk} (missing : desk.Missing (k + 1))
    (packet : Nat)
    : ∃ after,
        releasePacket packet desk = .ok 0 after
        ∧ after.Missing k
        ∧ 0 < after.packetsPool.freeItems := by
  obtain ⟨allocated, bound⟩ := missing
  rcases poolRelease_cases desk.packetsPool packet with ⟨all, -⟩ | ⟨out, released⟩
  · omega
  · have run : releasePacket packet desk
        = .ok (poolRelease desk.packetsPool packet).1
            { desk with packetsPool := (poolRelease desk.packetsPool packet).2 } := rfl
    rw [released] at run
    exact ⟨_, run, ⟨allocated, by dsimp only; omega⟩, Nat.succ_pos _⟩

/-- A read of a queue returns one packet, if it returns at all. -/
theorem Desk.Missing.read {k : Nat} {desk : Desk} (missing : desk.Missing k) (queue : Nat)
    : { desk with messages := (sysQueueReadPtr desk.messages queue).2 }.Missing
        (if (sysQueueReadPtr desk.messages queue).1.isSome then k + 1 else k) := by
  obtain ⟨allocated, bound⟩ := missing
  have left := sysQueueReadPtr_length desk.messages queue
  refine ⟨allocated, ?_⟩
  dsimp only
  split at left
  · rename_i some
    rw [if_pos some]
    omega
  · rename_i none
    rw [if_neg none]
    omega

/-- The program returns with at least `k` packets missing, if it was called with as many. -/
def KeepsMissing {α : Type} (m : DeskM α) : Prop :=
  ∀ k, Triple (Desk.Missing k) m (fun _ => Desk.Missing k) (fun _ _ => True)

theorem getPacketFromPool_missing (k : Nat) (packet : Nat)
    : Triple (Desk.Missing k) (getPacketFromPool packet)
        (fun got => Desk.Missing (if got.1 < 0 then k else k + 1)) (fun _ _ => True) := by
  intro desk missing
  have got := missing.got
  have run : getPacketFromPool packet desk
      = .ok ((poolGet desk.packetsPool desk.nextBlock).status,
          (poolGet desk.packetsPool desk.nextBlock).item.getD packet) desk.packetGot := rfl
  rw [run]
  dsimp only
  rw [poolGet_status]
  by_cases used : desk.UsedUp
  · rw [if_pos used] at got ⊢
    exact got
  · rw [if_neg used] at got ⊢
    exact got

theorem createPacketAt_missing (packet : Nat) (type : PacketType) (data : Option (Cells UInt8))
    (dataLen : UInt16) : KeepsMissing (createPacketAt packet type data dataLen) :=
  fun _ _ missing => ⟨missing.allocated, missing.missing⟩

theorem writePacket_missing (k : Nat) (packet outQueue : Nat)
    : Triple (Desk.Missing (k + 1)) (writePacket packet outQueue) (fun _ => Desk.Missing k)
        (fun _ _ => True) :=
  fun _ missing => missing.written packet outQueue

/-- The packet that `create_send_packet` gets is missing until it is queued. -/
theorem createSendPacket_missing (type : PacketType) (data : Cells UInt8) (dataLen : UInt16)
    (outQueue : Nat) : KeepsMissing (createSendPacket type data dataLen outQueue) := by
  intro k
  rw [createSendPacket]
  refine .bind (getPacketFromPool_missing k 0) fun got => ?_
  dsimp only
  by_cases failed : got.1 < 0
  · rw [if_pos failed, if_pos failed]
    exact .pure fun _ h => h
  · rw [if_neg failed, if_neg failed]
    refine .bind (createPacketAt_missing _ _ _ _ (k + 1)) fun status => .ite ?_ ?_
    · exact .pure fun _ h => h.mono (Nat.le_succ k)
    · exact .bind (writePacket_missing k _ _) fun _ => .pure fun _ h => h

/-- `send_packet` queues a packet that it did not get. -/
theorem sendPacket_missing (k : Nat) (packet : Nat) (type : PacketType) (dataLen : UInt16)
    (outQueue : Nat)
    : Triple (Desk.Missing (k + 1)) (sendPacket packet type dataLen outQueue)
        (fun _ => Desk.Missing k) (fun _ _ => True) := by
  rw [sendPacket]
  refine .bind (createPacketAt_missing _ _ _ _ (k + 1)) fun status => .ite ?_ ?_
  · exact .pure fun _ h => h.mono (Nat.le_succ k)
  · exact .bind (writePacket_missing k _ _) fun _ => .pure fun _ h => h

theorem sendAck_missing (status : Int) (outQueue : Nat) : KeepsMissing (sendAck status outQueue) :=
  fun k desk missing =>
    createSendPacket_missing .ackPacket
      (Cells.store (fun _ => 0) 0 [setAckData desk.junk.value.toUInt8 status]) 1 outQueue k
      { desk with junk := desk.junk.rest } ⟨missing.allocated, missing.missing⟩

/-- At least `k` packets of the device are missing. -/
abbrev Device.Missing (k : Nat) (device : Device) : Prop := device.desk.Missing k

section Lifts

variable {α : Type} (k : Nat)

theorem onRig_missing (m : RigM α)
    : Triple (Device.Missing k) (onRig m) (fun _ => Device.Missing k) (fun _ _ => True) := by
  intro device missing
  cases run : m device.rig with
  | ok a rig => rw [onRig_ok run]; exact missing
  | error e rig => rw [onRig_error run]; exact True.intro

theorem onDesk_missing {P : Desk → Prop} {Q : α → Desk → Prop} {m : DeskM α}
    (triple : Triple P m Q (fun _ _ => True))
    : Triple (fun device => P device.desk) (onDesk m) (fun a device => Q a device.desk)
        (fun _ _ => True) := by
  intro device missing
  have run := triple device.desk missing
  cases result : m device.desk with
  | ok a desk => rw [result] at run; rw [onDesk_ok result]; exact run
  | error e desk => rw [onDesk_error result]; exact True.intro

theorem sysAssertCritical_missing (status : Int)
    : Triple (Device.Missing k) (sysAssertCritical status) (fun _ => Device.Missing k)
        (fun _ _ => True) := by
  rw [sysAssertCritical]
  exact .ite (.throw fun _ _ => True.intro) (.pure fun _ h => h)

end Lifts

section Handlers

variable (k : Nat) (outQueue packet : Nat)

/-- The reply at the end of the handlers that acknowledge. -/
theorem acknowledge_missing (status : Int)
    : Triple (Device.Missing k)
        (do
          let status ← onDesk (sendAck status outQueue)
          sysAssertCritical status
          return status)
        (fun _ => Device.Missing k) (fun _ _ => True) :=
  .bind (onDesk_missing (sendAck_missing status outQueue k)) fun status =>
    .bind (sysAssertCritical_missing k status) fun _ => .pure fun _ h => h

theorem readPacket_missing
    : Triple (Device.Missing k) (readPacket packet) (fun _ => Device.Missing k) (fun _ _ => True) :=
  fun _ h => h

theorem processReset_missing
    : Triple (Device.Missing k) (processReset outQueue packet) (fun _ => Device.Missing k)
        (fun _ _ => True) := by
  rw [processReset]
  refine .bind (readPacket_missing k packet) fun object => .ite ?_ (.ite ?_ (.pure fun _ h => h))
  · exact .bind (onRig_missing k _) fun _ => .pure fun _ h => h
  · exact .bind (onRig_missing k _) fun _ => .pure fun _ h => h

theorem processCmdPacket_missing
    : Triple (Device.Missing k) (processCmdPacket outQueue packet) (fun _ => Device.Missing k)
        (fun _ _ => True) := by
  rw [processCmdPacket]
  refine .bind (readPacket_missing k packet) fun object => .ite (.pure fun _ h => h) ?_
  refine .bind (onRig_missing k _) fun answer => ?_
  have reply := onDesk_missing (createSendPacket_missing .cmdPacket
    (Cells.store (fun _ => 0) 0 answer.2.toList) avrCmdSize.toUInt16 outQueue k)
  exact .ite (.bind (onDesk_missing (createSendPacket_missing _ _ _ _ k)) fun _ => reply) reply

theorem processLoadMcuInfoPacket_missing
    : Triple (Device.Missing k) (processLoadMcuInfoPacket outQueue packet)
        (fun _ => Device.Missing k) (fun _ _ => True) := by
  rw [processLoadMcuInfoPacket]
  refine .bind (readPacket_missing k packet) fun object => ?_
  refine .bind (onRig_missing k _) fun loaded => ?_
  refine .ite (.pure fun _ h => h) (.bind (onRig_missing k _) fun _ => ?_)
  refine .bind (onRig_missing k _) fun status => .ite ?_ (acknowledge_missing k outQueue status)
  refine .bind (onDesk_missing (createSendPacket_missing _ _ _ _ k)) fun status => ?_
  exact .bind (sysAssertCritical_missing k status) fun _ => acknowledge_missing k outQueue status

theorem processProgramMemoryPacket_missing
    : Triple (Device.Missing k) (processProgramMemoryPacket outQueue packet)
        (fun _ => Device.Missing k) (fun _ _ => True) := by
  rw [processProgramMemoryPacket]
  refine .bind (readPacket_missing k packet) fun object => ?_
  refine .bind (onRig_missing k _) fun loaded => ?_
  refine .ite (.pure fun _ h => h) (.bind (onRig_missing k _) fun status => ?_)
  refine .ite ?_ (acknowledge_missing k outQueue status)
  refine .bind (onDesk_missing (createSendPacket_missing _ _ _ _ k)) fun _ => ?_
  exact .bind (sysAssertCritical_missing k status) fun _ => acknowledge_missing k outQueue status

theorem readMemoryInto_missing (memData : AvrReadMemData)
    : Triple (Device.Missing k) (readMemoryInto memData packet) (fun _ => Device.Missing k)
        (fun _ _ => True) := by
  rw [readMemoryInto]
  refine .bind (readPacket_missing k packet) fun object => .bind (onRig_missing k _) fun read => ?_
  refine .bind (onDesk_missing (P := Desk.Missing k) (Q := fun _ => Desk.Missing k) ?_) fun _ =>
    .pure fun _ h => h
  exact .modify fun _ h => ⟨h.allocated, h.missing⟩

/-- The packet for the memory stays missing, as the request is queued instead of it. -/
theorem processReadMemoryPacket_missing
    : Triple (Device.Missing k) (processReadMemoryPacket outQueue packet)
        (fun _ => Device.Missing k) (fun _ _ => True) := by
  rw [processReadMemoryPacket]
  refine .bind (readPacket_missing k packet) fun object => ?_
  cases getReadMemData object with
  | error status => exact .pure fun _ h => h
  | ok memData =>
      refine .bind (onDesk_missing (getPacketFromPool_missing k 0)) fun fresh => ?_
      dsimp only
      by_cases failed : fresh.1 < 0
      · rw [if_pos failed, if_pos failed]
        exact .pure fun _ h => h
      · rw [if_neg failed, if_neg failed]
        have reply := onDesk_missing
          (sendPacket_missing k packet .memoryPacket memData.bytesToRead.toUInt16 outQueue)
        have leave (status : Int)
            : Triple (Device.Missing (k + 1)) (pure status : DeviceM Int)
                (fun _ => Device.Missing k) (fun _ _ => True) :=
          .pure fun _ h => h.mono (Nat.le_succ k)
        refine .bind (readMemoryInto_missing (k + 1) fresh.2 memData) fun status => .ite ?_ ?_
        · refine .bind (onDesk_missing (createSendPacket_missing _ _ _ _ (k + 1)))
            fun status => ?_
          exact .ite (leave status) reply
        · exact .ite (leave status) reply

end Handlers

/-- No handler returns with fewer packets missing than it was called with. -/
theorem processPacket_missing (k : Nat) (outQueue packet : Nat)
    : Triple (Device.Missing k) (processPacket outQueue packet) (fun _ => Device.Missing k)
        (fun _ _ => True) := by
  rw [processPacket]
  refine .bind (readPacket_missing k packet) fun object => ?_
  cases entry : handlerAt object.header.type with
  | none => exact .throw fun _ _ => True.intro
  | some handler =>
      obtain ⟨type, -, found⟩ := Option.bind_eq_some_iff.mp entry
      cases type <;> cases found
      · exact onRig_missing k _
      · exact onRig_missing k _
      · exact .pure fun _ h => h
      · exact .pure fun _ h => h
      · exact processReset_missing k outQueue packet
      · exact .pure fun _ h => h
      · exact .pure fun _ h => h
      · exact processLoadMcuInfoPacket_missing k outQueue packet
      · exact processProgramMemoryPacket_missing k outQueue packet
      · exact processReadMemoryPacket_missing k outQueue packet
      · exact processCmdPacket_missing k outQueue packet

end BigBlackHardware
