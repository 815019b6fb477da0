import BigBlackHardware.Controller.NewReplies
import BigBlackHardware.Controller.ProgramMemory

/-! ReadMemory requests and the packet that is queued for them. -/

namespace BigBlackHardware

open Library

/-- A successful memory read fills the packet's data and leaves the rest of the desk. -/
theorem readMemoryInto_eq {memData : AvrReadMemData} (packet : Nat) (device : Device)
    {status : Int} {stored : Cells UInt8} {rig : Rig}
    (reads
      : programmerReadMemory memData (device.desk.packets packet).packetData device.rig
        = .ok (status, stored) rig)
    : readMemoryInto memData packet device
      = .ok status
          { rig := rig
            desk :=
              device.desk.setPacket packet
                { device.desk.packets packet with packetData := stored } } := by
  rw [readMemoryInto, bind_ok (readPacket_eq packet device), bind_ok (onRig_ok reads)]
  rfl

/-- A ReadMemory request is refused without a packet for the memory. -/
theorem processReadMemoryPacket_usedUp {outQueue packet : Nat} {device : Device}
    {memData : AvrReadMemData}
    (decoded : getReadMemData (device.desk.packets packet) = .ok memData)
    (used : device.desk.UsedUp)
    : processReadMemoryPacket outQueue packet device
      = .ok (-1) { device with desk := device.desk.packetGot } := by
  rw [processReadMemoryPacket, bind_ok (readPacket_eq packet device)]
  simp only [decoded]
  rw [bind_ok (onDesk_ok (getPacketFromPool_fresh device.desk))]
  simp only [poolGet_status, used, ↓reduceIte, Int.reduceNeg, Int.reduceLT]
  rfl

/-- The desk when the memory read is in its packet. -/
def Desk.filled (desk : Desk) (stored : Cells UInt8) : Desk :=
  desk.packetGot.setPacket desk.memoryPacket
    { desk.packets desk.memoryPacket with packetData := stored }

section Outcomes

variable {packet : Nat} {device : Device} {memData : AvrReadMemData} {read : Int}
  {stored : Cells UInt8} {after : Rig} (outQueue : Nat)
  (decoded : getReadMemData (device.desk.packets packet) = .ok memData)
  (free : ¬ device.desk.UsedUp)
  (reads
    : programmerReadMemory memData
        (device.desk.packets device.desk.memoryPacket).packetData device.rig
      = .ok (read, stored) after)

include decoded free reads

/-- What the handler does after a read that returned. -/
theorem processReadMemoryPacket_read
    : processReadMemoryPacket outQueue packet device
      = (do
          let status ←
            if read < 0 then onDesk (sendError "Failed to read memory\r\n" outQueue)
            else pure read
          if status < 0 then return status
          else
            onDesk (sendPacket packet .memoryPacket memData.bytesToRead.toUInt16 outQueue)
          : DeviceM Int) ⟨after, device.desk.filled stored⟩ := by
  have filled := readMemoryInto_eq device.desk.memoryPacket
    { device with desk := device.desk.packetGot } reads
  rw [processReadMemoryPacket, bind_ok (readPacket_eq packet device)]
  simp only [decoded]
  rw [bind_ok (onDesk_ok (getPacketFromPool_fresh device.desk))]
  dsimp only
  rw [poolGet_status, if_neg free, if_neg (by decide), bind_ok filled]
  rfl

/-- After a read that succeeded the handler sends the request's packet. -/
theorem processReadMemoryPacket_succeeds (succeeds : 0 ≤ read)
    : processReadMemoryPacket outQueue packet device
      = onDesk (sendPacket packet .memoryPacket memData.bytesToRead.toUInt16 outQueue)
          ⟨after, device.desk.filled stored⟩ := by
  have run := processReadMemoryPacket_read outQueue decoded free reads
  rw [if_neg (Int.not_lt.mpr succeeds), bind_ok (m := pure read) rfl] at run
  dsimp only at run
  rw [run, if_neg (Int.not_lt.mpr succeeds)]

/-- After a read that failed it does so when it has sent an error reply. -/
theorem processReadMemoryPacket_fails (fails : read < 0) (second : ¬ device.desk.packetGot.UsedUp)
    : processReadMemoryPacket outQueue packet device
      = onDesk (sendPacket packet .memoryPacket memData.bytesToRead.toUInt16 outQueue)
          ⟨after, (device.desk.filled stored).errorSent "Failed to read memory\r\n" outQueue⟩ := by
  have error
      : onDesk (sendError "Failed to read memory\r\n" outQueue) ⟨after, device.desk.filled stored⟩
        = .ok packetSuccess
            ⟨after, (device.desk.filled stored).errorSent "Failed to read memory\r\n" outQueue⟩ :=
    sendError_eq (by decide) after second
  have run := processReadMemoryPacket_read outQueue decoded free reads
  rw [if_pos fails] at run
  have goes := run.trans (bind_ok error)
  dsimp only at goes
  rw [goes, if_neg (by decide)]

/-- Without a packet for the error reply it ends with the status of the get. -/
theorem processReadMemoryPacket_fails_usedUp (fails : read < 0)
    (used : device.desk.packetGot.UsedUp)
    : processReadMemoryPacket outQueue packet device
      = .ok (-1) ⟨after, (device.desk.filled stored).packetGot⟩ := by
  have usedUp : (device.desk.filled stored).UsedUp := used
  have error
      : onDesk (sendError "Failed to read memory\r\n" outQueue) ⟨after, device.desk.filled stored⟩
        = .ok (-1) ⟨after, (device.desk.filled stored).packetGot⟩ :=
    onDesk_ok (createSendPacket_usedUp usedUp)
  have run := processReadMemoryPacket_read outQueue decoded free reads
  rw [if_pos fails] at run
  have goes := run.trans (bind_ok error)
  dsimp only at goes
  rw [goes, if_pos (by decide)]
  rfl

end Outcomes

/-- The contract of a ReadMemory request for `n` bytes of which `stored` is what the programmer
read: another packet than the request is queued, with these bytes and their number.
-/
def RepliesWithMemory (outQueue packet : Nat) (device : Device) (n : Nat) (stored : Cells UInt8)
    : Prop :=
  let after := (final (processReadMemoryPacket outQueue packet device)).desk
  ∃ reply,
    reply ≠ packet
    ∧ after.messages = device.desk.messages ++ [⟨outQueue, reply⟩]
    ∧ (after.packets reply).header.dataSize.toNat = n
    ∧ (after.packets reply).packetData.load 0 n = stored.load 0 n

/-- After a successful read the only pointer that the handler tries to queue is the request's own,
and without a packet for the memory it queues nothing.
-/
theorem processReadMemoryPacket_messages {outQueue packet : Nat} {device : Device}
    {memData : AvrReadMemData}
    (valid : getReadMemData (device.desk.packets packet) = .ok memData)
    (limit : memData.bytesToRead.toNat ≤ 1024) {status : Int} {stored : Cells UInt8} {rig : Rig}
    (reads
      : programmerReadMemory memData
          (device.desk.packets device.desk.memoryPacket).packetData device.rig
        = .ok (status, stored) rig)
    (succeeds : 0 ≤ status)
    : (final (processReadMemoryPacket outQueue packet device)).desk.messages
        = device.desk.messages
      ∨ (final (processReadMemoryPacket outQueue packet device)).desk.messages
        = device.desk.messages ++ [⟨outQueue, packet⟩] := by
  by_cases empty : device.desk.UsedUp
  · rw [processReadMemoryPacket_usedUp valid empty]
    exact Or.inl rfl
  · have size : memData.bytesToRead.toUInt16.toNat ≤ plMaxDataLength.toNat := by
      have limit' : plMaxDataLength.toNat = 1029 := rfl
      rw [UInt32.toNat_toUInt16]
      omega
    rw [processReadMemoryPacket_succeeds outQueue valid empty reads succeeds,
      onDesk_ok (sendPacket_eq packet _ size _ _)]
    by_cases full : device.desk.refused outQueue
        ∨ msgQueueSize ≤ (waiting device.desk.messages outQueue).length
    · refine Or.inl (congrArg Prod.snd (if_pos full))
    · exact Or.inr (congrArg Prod.snd (if_neg full))

/-- No valid request is ever answered by another packet that carries the memory: what is queued,
if anything is, is the request itself.
-/
theorem processReadMemoryPacket_never_replies (outQueue packet : Nat) (device : Device)
    (memData : AvrReadMemData)
    (valid : getReadMemData (device.desk.packets packet) = .ok memData)
    (limit : memData.bytesToRead.toNat ≤ 1024)
    (status : Int) (stored : Cells UInt8) (rig : Rig)
    (reads
      : programmerReadMemory memData
          (device.desk.packets device.desk.memoryPacket).packetData device.rig
        = .ok (status, stored) rig)
    (succeeds : 0 ≤ status)
    : ¬ RepliesWithMemory outQueue packet device memData.bytesToRead.toNat stored := by
  rintro ⟨reply, other, queued, -⟩
  rcases processReadMemoryPacket_messages valid limit reads succeeds with none | request
  · rw [none] at queued
    exact absurd queued (by simp)
  · rw [request, List.append_cancel_left_eq] at queued
    simp only [List.cons.injEq, Message.mk.injEq, true_and, and_true] at queued
    exact other queued.symm

/-- A device with an installed target that echoes, and a request to read one byte of EEPROM from
address 16.
-/
def readDevice : Device where
  rig := (eepromDevice 0).rig
  desk :=
    .boot
      (fun _ =>
        { header := ⟨PacketType.readMemoryPacket.val, 1, 9, 0, 0, 0⟩
          rawHeader := fun _ => 0
          packetData := Cells.store (fun _ => 0) 0 [plEepromMemoryByte, 0, 0, 0, 16, 0, 0, 0, 1] })
      (fun _ => 0) ⟨fun _ => 0, 0⟩

/-- The request in `readDevice`, decoded. -/
def readByteRequest : AvrReadMemData := ⟨16, 1, .memoryEeprom⟩

/-- The command that the programmer sends for it. -/
def readByteCmd : AvrCommand :=
  createMemoryCmd smallMcuInfo.eepromReadPattern.bytes smallMcuInfo.eepromReadLen 16 0

/-- What the programmer then leaves in the data of a new packet: the fourth byte of the answer,
which echoes the low byte of the address.
-/
def readByteStored : Cells UInt8 := (readDevice.desk.packets 0).packetData.store 0 [16]

/-- The programmer reads the byte with one command. -/
theorem readDevice_reads
    : programmerReadMemory readByteRequest (readDevice.desk.packets 0).packetData readDevice.rig
      = .ok (1, readByteStored) (readDevice.rig.transferred readByteCmd) := by
  have passing : readDevice.rig.Passing := fun _ => checkCmdStatus_echoAnswer
  have installed : readDevice.rig.mcuInfo = some ⟨0, smallMcuInfo⟩ := rfl
  have one := readByte_passing passing readByteCmd (readDevice.desk.packets 0).packetData 0
  have loop : readEepromLoop smallMcuInfo.eepromReadPattern.bytes smallMcuInfo.eepromReadLen
      readByteRequest.bytesToRead.toNat readByteRequest.startAddress 0
      (readDevice.desk.packets 0).packetData readDevice.rig
      = .ok (0, readByteStored) (readDevice.rig.transferred readByteCmd) := by
    change readEepromLoop _ _ 1 _ _ _ _ = _
    rw [readEepromLoop]
    exact bind_ok one
  have count : toI16 readByteRequest.bytesToRead.toNat = 1 := by decide
  change readEepromMemory readByteRequest _ _ = _
  rw [readEepromMemory, bind_ok (readMcuInfo_installed installed), bind_ok loop]
  dsimp only
  rw [if_neg (by decide), count]
  rfl

/-- The request for one byte is not answered with it. -/
theorem processReadMemoryPacket_never_replies_byte
    : ¬ RepliesWithMemory 0 7 readDevice 1 readByteStored :=
  processReadMemoryPacket_never_replies 0 7 readDevice readByteRequest (by decide +kernel)
    (by decide) 1 readByteStored _ readDevice_reads (by decide)

/-- The request itself is queued and the byte that was read is in no queue. -/
theorem processReadMemoryPacket_queues_request
    : (final (processReadMemoryPacket 0 7 readDevice)).desk.messages = [⟨0, 7⟩]
      ∧ ¬ RepliesWithMemory 0 7 readDevice 1 readByteStored := by
  have queued
      : (final (processReadMemoryPacket 0 7 readDevice)).desk.messages = [⟨0, 7⟩] := by
    decide +kernel
  refine ⟨queued, ?_⟩
  rintro ⟨reply, other, message, -⟩
  rw [queued] at message
  have same : 7 = reply := by simpa [readDevice, Desk.boot, initializePacketsPool] using message
  exact other same.symm

end BigBlackHardware
