import BigBlackHardware.Controller.Replies
import BigBlackHardware.Programmer.Loading

/-! ProgramMemory requests from the packet to the commands that reach the target. -/

namespace BigBlackHardware

open Library

/-- A ProgramMemory request with `n` payload bytes behind the five fixed ones: for flash whole
words, for EEPROM any bytes.
-/
structure ProgramRequest (request : Packet) (n : Nat) : Prop where
  size : request.header.dataSize.toNat = 5 + n
  some : 1 ≤ n
  limit : n ≤ 1024
  memory
    : request.packetData 4 = plFlashMemoryByte ∧ n % 2 = 0
      ∨ request.packetData 4 = plEepromMemoryByte

/-- The load commands of the first `n` payload bytes of a request, at the address in it. -/
def requestedCommands (info : AvrMcuInfo) (request : Packet) (n : Nat) : List AvrCommand :=
  loadCommands info (getMemoryType (request.packetData 4))
    (UInt32.ofNat (wordAt request.packetData 0)) (request.packetData.load 5 n)

/-- A success acknowledgement was queued: a packet of one byte, `PL_ACK_SUCCESS`. -/
def AckQueued (outQueue : Nat) (before after : Desk) : Prop :=
  ∃ packet,
    after.messages = before.messages ++ [⟨outQueue, packet⟩]
    ∧ (after.packets packet).header.dataSize = 1
    ∧ (after.packets packet).packetData 0 = plAckSuccess

/-- The contract of a ProgramMemory request with `n` payload bytes: the commands sent are the load
commands of all of them and no others, whether or not an acknowledgement says so.
-/
def ProgramsPayload (outQueue packet : Nat) (device : Device) (info : AvrMcuInfo) (n : Nat)
    : Prop :=
  sentCommands (final (processProgramMemoryPacket outQueue packet device)).rig.log
    = sentCommands device.rig.log ++ requestedCommands info (device.desk.packets packet) n

/-- Requested commands are one for each byte. -/
theorem requestedCommands_length {request : Packet} {n : Nat} (asked : ProgramRequest request n)
    (info : AvrMcuInfo) {count : Nat} (parity : count % 2 = n % 2)
    : (requestedCommands info request count).length = count := by
  rcases asked.memory with ⟨flash, even⟩ | eeprom
  · rw [requestedCommands, flash]
    exact (flashCommands_length info _ _ (by rw [Cells.load_length]; omega)).trans
      (Cells.load_length _ _ _)
  · rw [requestedCommands, eeprom]
    exact (eepromCommands_length info _ _).trans (Cells.load_length _ _ _)

/-- The decoded request: the 8-bit length keeps the payload length modulo 256. -/
theorem getProgMemData_eq {request : Packet} {n : Nat} (asked : ProgramRequest request n)
    (heap : Heap)
    : ∃ memData heap',
        getProgMemData request heap = (0, memData, heap')
        ∧ memData.startAddress = UInt32.ofNat (wordAt request.packetData 0)
        ∧ memData.memoryType = getMemoryType (request.packetData 4)
        ∧ memData.dataLen.toNat = n % 256
        ∧ memData.data.bytes.load 0 (n % 256) = request.packetData.load 5 (n % 256) := by
  have length
      : (request.header.dataSize.toUInt32 - progMemFixedSize).toUInt8.toNat = n % 256 := by
    have size := asked.size
    have fixed : progMemFixedSize.toNat = 5 := rfl
    have wide : request.header.dataSize.toUInt32.toNat = 5 + n := by
      rw [UInt16.toNat_toUInt32, size]
    have enough : progMemFixedSize ≤ request.header.dataSize.toUInt32 := by
      rw [UInt32.le_iff_toNat_le]
      omega
    rw [UInt32.toNat_toUInt8, UInt32.toNat_sub_of_le _ _ enough, wide, fixed]
    omega
  refine ⟨_, _, rfl, getWord_eq _ _, rfl, length, ?_⟩
  have stored := (heap.fresh heap.next).load_store (request.packetData.load 5 (n % 256))
  rw [Cells.load_length] at stored
  simp only [Block.store, length]
  exact stored

/-- Decoding a request changes the rig's heap and nothing else. -/
theorem loadProgMemData_eq (request : Packet) (rig : Rig)
    : loadProgMemData request rig
      = .ok ((getProgMemData request rig.heap).1, (getProgMemData request rig.heap).2.1)
          { rig with heap := (getProgMemData request rig.heap).2.2 } := rfl

/-- The handler sends the load commands of as many payload bytes as the 8-bit length says, and
no others, however its reply fares. Witness: what follows the programming is a desk program.
-/
theorem processProgramMemoryPacket_sends (outQueue packet : Nat) (device : Device) {n : Nat}
    (asked : ProgramRequest (device.desk.packets packet) n) {block : McuInfoBlock}
    (installed : device.rig.mcuInfo = some block) (passing : device.rig.Passing)
    : sentCommands (final (processProgramMemoryPacket outQueue packet device)).rig.log
      = sentCommands device.rig.log
        ++ requestedCommands block.info (device.desk.packets packet) (n % 256) := by
  obtain ⟨memData, heap, decoded, address, memory, length, bytes⟩ :=
    getProgMemData_eq asked device.rig.heap
  have known : memData.memoryType ≠ .memoryErr := by
    rw [memory]
    rcases asked.memory with ⟨flash, -⟩ | eeprom
    · rw [flash]; decide
    · rw [eeprom]; decide
  have even : memData.memoryType = .memoryFlash → memData.dataLen.toNat % 2 = 0 := by
    rw [memory, length]
    rcases asked.memory with ⟨flash, even⟩ | eeprom
    · omega
    · rw [eeprom]
      intro wrong
      exact absurd wrong (by decide)
  have loaded := loadProgMemData_eq (device.desk.packets packet) device.rig
  rw [decoded] at loaded
  have passing' : Rig.Passing { device.rig with heap := heap } := passing
  obtain ⟨status, rig, run, -, sent⟩ :=
    programmerProgramMemory_passing passing' installed known even
  have rest : SameRig { device with rig := rig }
      (final (processProgramMemoryPacket outQueue packet device)) := by
    rw [processProgramMemoryPacket, bind_ok (readPacket_eq packet device),
      bind_ok (onRig_ok loaded)]
    simp only [Int.lt_irrefl, ↓reduceIte]
    rw [bind_ok (onRig_ok run)]
    have reply : Moves SameRig (do
        let status ← onDesk (sendAck status outQueue)
        sysAssertCritical status
        return status) :=
      .bind (onDesk_sameRig _) fun _ => .bind (sysAssertCritical_moves _) fun _ => .pure _
    refine Moves.ite ?_ ?_ _
    · exact .bind (onDesk_sameRig _) fun _ => .bind (sysAssertCritical_moves _) fun _ => reply
    · exact reply
  rw [rest, sent.commands, requestedCommands, length, bytes, address, memory]

/-- The contract holds exactly for payloads whose length fits the 8-bit length field. Witness: a
longer payload gets a command for each of its first `n % 256` bytes only.
-/
theorem processProgramMemoryPacket_programs_iff (outQueue packet : Nat) (device : Device) (n : Nat)
    (asked : ProgramRequest (device.desk.packets packet) n) (block : McuInfoBlock)
    (installed : device.rig.mcuInfo = some block) (passing : device.rig.Passing)
    : ProgramsPayload outQueue packet device block.info n ↔ n ≤ 255 := by
  have sent := processProgramMemoryPacket_sends outQueue packet device asked installed passing
  rw [ProgramsPayload, sent]
  constructor
  · intro all
    have lengths := congrArg List.length (List.append_cancel_left all)
    rw [requestedCommands_length asked block.info (by omega),
      requestedCommands_length asked block.info rfl] at lengths
    omega
  · intro short
    have whole : n % 256 = n := Nat.mod_eq_of_lt (by omega)
    rw [whole]

/-- A text at the start of a heap block, with zeros behind it. -/
def textBlock (text : String) : Block := ⟨0, Cells.store (fun _ => 0) 0 (textBytes text)⟩

/-- The description of a target whose EEPROM has ten address bits. -/
def smallMcuInfo : AvrMcuInfo where
  flashLoadHiLen := 0
  flashLoadHiPattern := textBlock ""
  flashLoadLoLen := 0
  flashLoadLoPattern := textBlock ""
  flashReadLoLen := 0
  flashReadLoPattern := textBlock ""
  flashReadHiLen := 0
  flashReadHiPattern := textBlock ""
  flashWaitMs := 0
  eepromWriteLen := 42
  eepromWritePattern := textBlock "11000000000000a9a8a7a6a5a4a3a2a1a0iiiiiiii"
  eepromReadLen := 42
  eepromReadPattern := textBlock "10100000000000a9a8a7a6a5a4a3a2a1a0oooooooo"
  eepromWaitMs := 4
  pgmEnable := #v[0xAC, 0x53, 0, 0]

/-- A device with an installed target that echoes, and a request to write EEPROM from address 16
on with `dataSize` bytes of data in the packet.
-/
def eepromDevice (dataSize : UInt16) : Device where
  rig :=
    { Rig.boot (fun _ => echoAnswer) (.boot fun _ _ => 0) ⟨fun _ => 0, 0⟩ with
      mcuInfo := some ⟨0, smallMcuInfo⟩ }
  desk :=
    .boot
      (fun _ =>
        { header := ⟨PacketType.programMemoryPacket.val, 1, dataSize, 0, 0, 0⟩
          rawHeader := fun _ => 0
          packetData := Cells.store (fun _ => 0xFF) 0 [0, 0, 0, 16, plEepromMemoryByte] })
      (fun _ => 0) ⟨fun _ => 0, 0⟩

/-- The contract holds for a request to write three bytes. -/
theorem processProgramMemoryPacket_programs_three
    : ProgramsPayload 0 7 (eepromDevice 8) smallMcuInfo 3 :=
  (processProgramMemoryPacket_programs_iff 0 7 (eepromDevice 8) 3
    ⟨rfl, by decide, by decide, Or.inr rfl⟩ ⟨0, smallMcuInfo⟩ rfl
    fun _ => checkCmdStatus_echoAnswer).mpr (by decide)

/-- Of 257 bytes one is loaded, and the success acknowledgement is queued all the same. -/
theorem processProgramMemoryPacket_truncates
    : ¬ ProgramsPayload 0 7 (eepromDevice 262) smallMcuInfo 257
      ∧ AckQueued 0 (eepromDevice 262).desk
          (final (processProgramMemoryPacket 0 7 (eepromDevice 262))).desk := by
  have asked : ProgramRequest ((eepromDevice 262).desk.packets 7) 257 :=
    ⟨rfl, by decide, by decide, Or.inr rfl⟩
  have installed : (eepromDevice 262).rig.mcuInfo = some ⟨0, smallMcuInfo⟩ := rfl
  have sent := processProgramMemoryPacket_sends 0 7 (eepromDevice 262) asked installed
    fun _ => checkCmdStatus_echoAnswer
  constructor
  · rw [ProgramsPayload, sent]
    intro all
    have lengths := congrArg List.length (List.append_cancel_left all)
    rw [requestedCommands_length asked smallMcuInfo (by decide),
      requestedCommands_length asked smallMcuInfo rfl] at lengths
    exact absurd lengths (by decide)
  · exact ⟨0, by decide +kernel, by decide +kernel, by decide +kernel⟩

end BigBlackHardware
