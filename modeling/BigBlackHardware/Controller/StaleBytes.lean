import BigBlackHardware.Controller.OneReply
import BigBlackHardware.Controller.Twins
import BigBlackHardware.Programmer.PayloadBytes

/-! Bytes behind the data of a request: which requests are handled without regard to them. -/

namespace BigBlackHardware

open Library

/-- The packet with other bytes behind its data, up to the end of the array. -/
def Packet.refill (packet : Packet) (stale : Cells UInt8) : Packet :=
  { packet with
    packetData := fun i =>
      if packet.header.dataSize.toNat ≤ i ∧ i < packetDataLength then stale i
      else packet.packetData i }

/-- The device with other bytes behind the data of a packet object. -/
def Device.refill (device : Device) (packet : Nat) (stale : Cells UInt8) : Device :=
  { device with
    desk := device.desk.setPacket packet ((device.desk.packets packet).refill stale) }

/-- The levels that the reset line was set to. -/
def resetLevels (log : List RigEvent) : List UInt8 :=
  log.filterMap fun event =>
    match event with
    | .resetLine level => some level
    | _ => none

/-- What a request is seen to do. -/
structure Observation where
  /-- The status returned or why the call did not return. -/
  ending : Except Stop Int
  resetLine : List UInt8
  spiCommands : List AvrCommand
  mcuInfo : Option AvrMcuInfo
  /-- The packets queued, as they are transmitted, and the queues. -/
  replies : List (Nat × List UInt8)

/-- What is seen of a call that left the rig like this. -/
def Rig.seen (rig : Rig) (ending : Except Stop Int) (replies : List (Nat × List UInt8))
    : Observation where
  ending := ending
  resetLine := resetLevels rig.log
  spiCommands := sentCommands rig.log
  mcuInfo := rig.mcuInfo.map McuInfoBlock.info
  replies := replies

/-- What is seen of a call, given how it ended. -/
def observed (before : Device) : EStateM.Result Stop Device Int → Observation
  | .ok status after => after.rig.seen (.ok status) (queuedFrames before.desk after.desk)
  | .error e after => after.rig.seen (.error e) (queuedFrames before.desk after.desk)

/-- However the call ended. -/
theorem observed_mcuInfo (before : Device) (result : EStateM.Result Stop Device Int)
    : (observed before result).mcuInfo = (final result).rig.mcuInfo.map McuInfoBlock.info := by
  cases result <;> rfl

theorem observed_spiCommands (before : Device) (result : EStateM.Result Stop Device Int)
    : (observed before result).spiCommands = sentCommands (final result).rig.log := by
  cases result <;> rfl

/-- What is seen when the packet is processed. -/
def observe (outQueue packet : Nat) (device : Device) : Observation :=
  observed device (processPacket outQueue packet device)

/-- The bytes behind the data of the request make no difference. -/
def IgnoresStale (outQueue packet : Nat) (device : Device) : Prop :=
  ∀ stale, observe outQueue packet (device.refill packet stale) = observe outQueue packet device

section Refilling

variable (packet : Packet) (stale : Cells UInt8)

/-- The data is as before. -/
theorem Packet.refill_data {i : Nat} (inside : i < packet.header.dataSize.toNat)
    : (packet.refill stale).packetData i = packet.packetData i :=
  if_neg fun h => absurd h.1 (Nat.not_le.mpr inside)

/-- Behind the data there is something else. -/
theorem Packet.refill_stale {i : Nat} (behind : packet.header.dataSize.toNat ≤ i)
    (inside : i < packetDataLength)
    : (packet.refill stale).packetData i = stale i := if_pos ⟨behind, inside⟩

/-- A packet of which the data fills the array is as before. -/
theorem Packet.refill_full (full : packetDataLength ≤ packet.header.dataSize.toNat)
    : packet.refill stale = packet := by
  have same : (packet.refill stale).packetData = packet.packetData := by
    funext i
    exact if_neg fun h => absurd h.2 (by omega)
  exact congrArg (Packet.mk packet.header packet.rawHeader) same

theorem Packet.refill_alike : packet.Alike (packet.refill stale) where
  header := rfl
  rawHeader := rfl
  content := List.map_congr_left fun i member =>
    packet.refill_data stale (by rw [Nat.zero_add]; exact List.mem_range.mp member)

variable (device : Device)

/-- The packet object afterwards. -/
theorem refill_packet (packet : Nat)
    : (device.refill packet stale).desk.packets packet
      = (device.desk.packets packet).refill stale := if_pos rfl

theorem refill_twin (packet : Nat) : device.Twin packet (device.refill packet stale) :=
  ⟨rfl, .mk _ (Packet.refill_alike _ stale)⟩

end Refilling

section Sufficient

variable {outQueue packet : Nat} {device : Device}

/-- Ends that are alike look alike. -/
theorem observed_eq {other : Device} {r r' : EStateM.Result Stop Device Int}
    (alike : EndsAlike (Device.Twin packet) r r')
    (same : other.desk.messages = device.desk.messages)
    : observed other r' = observed device r := by
  cases alike with
  | ok twin => rw [observed, observed, twin.rig, twin.desk.queuedFrames same]
  | error twin => rw [observed, observed, twin.rig, twin.desk.queuedFrames same]

/-- A request is dispatched alike. -/
theorem observe_refill {type : PacketType} {handler : Nat → Nat → DeviceM Int}
    (kind : (device.desk.packets packet).header.type = type.val)
    (entry : packetHandlers type = some handler) (stale : Cells UInt8)
    : observe outQueue packet (device.refill packet stale)
      = observed (device.refill packet stale)
          (handler outQueue packet (device.refill packet stale)) := by
  have kind' : ((device.refill packet stale).desk.packets packet).header.type = type.val := by
    rw [refill_packet]
    exact kind
  rw [observe, processPacket_eq kind' entry]

/-- Requests of which the handler ends alike whatever lies behind the data. -/
theorem ignoresStale_of_ends {type : PacketType} {handler : Nat → Nat → DeviceM Int}
    (kind : (device.desk.packets packet).header.type = type.val)
    (entry : packetHandlers type = some handler)
    (ends
      : ∀ stale,
          EndsAlike (Device.Twin packet) (handler outQueue packet device)
            (handler outQueue packet (device.refill packet stale)))
    : IgnoresStale outQueue packet device := by
  intro stale
  rw [observe_refill kind entry, observe, processPacket_eq kind entry]
  exact observed_eq (ends stale) rfl

/-- Handlers that read the packet object end alike if they read the same from it. -/
theorem readPacket_refill {f : Packet → DeviceM Int} {stale : Cells UInt8}
    (same
      : f ((device.desk.packets packet).refill stale) = f (device.desk.packets packet))
    (runs : TwoRuns (Device.Twin packet) (f (device.desk.packets packet)))
    : EndsAlike (Device.Twin packet) ((readPacket packet >>= f) device)
        ((readPacket packet >>= f) (device.refill packet stale)) := by
  refine readPacket_ends (refill_twin stale device packet) ?_ runs
  rw [refill_packet]
  exact same

/-- A reset request ends alike if both bytes that are tested are data, or the first one is and
decides.
-/
theorem processReset_ends (stale : Cells UInt8)
    (guarded
      : 2 ≤ (device.desk.packets packet).header.dataSize.toNat
        ∨ (device.desk.packets packet).header.dataSize.toNat = 1
          ∧ (device.desk.packets packet).packetData 0 = 1)
    : EndsAlike (Device.Twin packet) (processReset outQueue packet device)
        (processReset outQueue packet (device.refill packet stale)) := by
  have first := (device.desk.packets packet).refill_data stale (i := 0) (by omega)
  refine readPacket_refill ?_ ?_
  · rcases guarded with both | ⟨-, one⟩
    · have second := (device.desk.packets packet).refill_data stale (i := 1) (by omega)
      simp only [first, second]
    · simp only [first, one, ↓reduceIte]
  · refine .ite ?_ (.ite ?_ (.pure _)) <;> exact .bind (onRig_twins packet _) fun _ => .pure _

/-- A CMD request ends alike: the bytes it reads are data. -/
theorem processCmdPacket_ends (stale : Cells UInt8)
    : EndsAlike (Device.Twin packet) (processCmdPacket outQueue packet device)
        (processCmdPacket outQueue packet (device.refill packet stale)) := by
  by_cases size : (device.desk.packets packet).header.dataSize.toUInt8.toNat = avrCmdSize
  · have long : avrCmdSize ≤ (device.desk.packets packet).header.dataSize.toNat := by
      rw [UInt16.toNat_toUInt8] at size
      omega
    have same : commandOf ((device.desk.packets packet).refill stale)
        = commandOf (device.desk.packets packet) :=
      congrArg Vector.ofFn (funext fun i => Packet.refill_data _ stale (by omega))
    refine readPacket_refill ?_ ?_
    · simp only [same]
      rfl
    · refine .ite (.pure _) (.bind (onRig_twins packet _) fun sent => ?_)
      obtain ⟨status, answer⟩ := sent
      dsimp only
      have reply := onDesk_twins packet (sendAvrCmd_twins packet answer outQueue)
      exact .ite
        (.bind (onDesk_twins packet (sendError_twins packet (by decide) outQueue)) fun _ => reply)
        (.bind (.pure status) fun _ => reply)
  · have size' : ((device.refill packet stale).desk.packets packet).header.dataSize.toUInt8.toNat
        ≠ avrCmdSize := by
      rw [refill_packet]
      exact size
    rw [processCmdPacket_refuses size, processCmdPacket_refuses size']
    exact .ok (refill_twin stale device packet)

/-- A LoadMCUInfo request ends alike if the whole description is data. -/
theorem processLoadMcuInfoPacket_ends (stale : Cells UInt8)
    (guarded
      : infoEnd (device.desk.packets packet).packetData
          ≤ (device.desk.packets packet).header.dataSize.toNat)
    : EndsAlike (Device.Twin packet) (processLoadMcuInfoPacket outQueue packet device)
        (processLoadMcuInfoPacket outQueue packet (device.refill packet stale)) := by
  have agree : AgreeTo (device.desk.packets packet).packetData
      ((device.desk.packets packet).refill stale).packetData
      (infoEnd (device.desk.packets packet).packetData) :=
    fun i below => Packet.refill_data _ stale (Nat.lt_of_lt_of_le below guarded)
  have same : loadMcuInfo ((device.desk.packets packet).refill stale)
      = loadMcuInfo (device.desk.packets packet) := by
    funext rig
    simp only [loadMcuInfo, getMcuInfo_congr agree]
  refine readPacket_refill ?_ ?_
  · simp only [same]
  · refine .bind (onRig_twins packet _) fun loaded => ?_
    obtain ⟨status, info⟩ := loaded
    refine .ite (.pure _) (.bind (onRig_twins packet _) fun _ => ?_)
    refine .bind (onRig_twins packet _) fun status => .ite ?_ ?_
    · refine .bind (onDesk_twins packet (sendError_twins packet (by decide) outQueue))
        fun sent => ?_
      refine .bind (sysAssertCritical_twins packet sent) fun _ => ?_
      exact .bind (.pure sent) fun status => acknowledge_twins packet status outQueue
    · exact .bind (.pure status) fun status => acknowledge_twins packet status outQueue

/-- A ProgramMemory request ends alike if it is long enough for its fixed part: the length of the
rest is computed from its size.
-/
theorem processProgramMemoryPacket_ends (stale : Cells UInt8)
    (guarded : 5 ≤ (device.desk.packets packet).header.dataSize.toNat)
    : EndsAlike (Device.Twin packet) (processProgramMemoryPacket outQueue packet device)
        (processProgramMemoryPacket outQueue packet (device.refill packet stale)) := by
  have same : loadProgMemData ((device.desk.packets packet).refill stale)
      = loadProgMemData (device.desk.packets packet) := by
    have agree : AgreeTo (device.desk.packets packet).packetData
        ((device.desk.packets packet).refill stale).packetData
        (device.desk.packets packet).header.dataSize.toNat :=
      fun i below => Packet.refill_data _ stale below
    have size : ((device.desk.packets packet).refill stale).header.dataSize
        = (device.desk.packets packet).header.dataSize := rfl
    simp only [loadProgMemData, getProgMemData_congr size guarded agree]
  refine readPacket_refill ?_ ?_
  · simp only [same]
  · refine .bind (onRig_twins packet _) fun loaded => ?_
    obtain ⟨status, memData⟩ := loaded
    refine .ite (.pure _) (.bind (onRig_twins packet _) fun status => .ite ?_ ?_)
    · refine .bind (onDesk_twins packet (sendError_twins packet (by decide) outQueue))
        fun sent => ?_
      refine .bind (sysAssertCritical_twins packet status) fun _ => ?_
      exact acknowledge_twins packet status outQueue
    · exact acknowledge_twins packet status outQueue

end Sufficient

section Necessary

variable {outQueue packet : Nat} {device : Device}

/-- The status of a reset request depends on the first two bytes. -/
theorem processReset_status (outQueue packet : Nat) (device : Device)
    : ∃ after,
        processReset outQueue packet device
        = .ok
            (if (device.desk.packets packet).packetData 0 = 1 then 0
              else if (device.desk.packets packet).packetData 1 = 0 then 0
              else -1)
            after := by
  rw [processReset, bind_ok (readPacket_eq packet device)]
  split
  · exact ⟨_, rfl⟩
  · split
    · exact ⟨_, rfl⟩
    · exact ⟨_, rfl⟩

/-- A reset request whose bytes are not all data is steered by what lies behind: zeros reset the
target, other bytes do not.
-/
theorem processReset_guarded
    (kind : (device.desk.packets packet).header.type = PacketType.resetPacket.val)
    (ignores : IgnoresStale outQueue packet device)
    : 2 ≤ (device.desk.packets packet).header.dataSize.toNat
      ∨ (device.desk.packets packet).header.dataSize.toNat = 1
        ∧ (device.desk.packets packet).packetData 0 = 1 := by
  by_contra unguarded
  rw [not_or, Nat.not_le] at unguarded
  obtain ⟨short, first⟩ := unguarded
  have ending (byte : UInt8) (other : byte ≠ 1)
      : (observe outQueue packet (device.refill packet fun _ => byte)).ending
        = .ok (if byte = 0 then 0 else -1) := by
    let object := device.desk.packets packet
    have second : (object.refill fun _ => byte).packetData 1 = byte :=
      object.refill_stale (fun _ => byte) (Nat.le_of_lt_succ short) (by decide)
    have one : (object.refill fun _ => byte).packetData 0 ≠ 1 := by
      by_cases empty : (device.desk.packets packet).header.dataSize.toNat = 0
      · rw [object.refill_stale (fun _ => byte) (Nat.le_of_eq empty) (by decide)]
        exact other
      · rw [object.refill_data (fun _ => byte) (Nat.pos_of_ne_zero empty)]
        exact fun on => first ⟨by omega, on⟩
    obtain ⟨after, run⟩ := processReset_status outQueue packet (device.refill packet fun _ => byte)
    rw [refill_packet, if_neg one, second] at run
    rw [observe_refill kind rfl, run]
    rfl
  have same := (ending 0 (by decide)).symm.trans
    ((congrArg Observation.ending ((ignores _).trans (ignores _).symm)).trans
      (ending 2 (by decide)))
  exact absurd same (by decide)

/-- A LoadMCUInfo request installs the description that it is decoded to. -/
theorem observe_mcuInfo
    (kind : (device.desk.packets packet).header.type = PacketType.loadMcuInfoPacket.val)
    : (observe outQueue packet device).mcuInfo
      = some (requestedInfo (device.desk.packets packet) device.rig.heap) := by
  obtain ⟨entered, run, -, installed⟩ := processLoadMcuInfoPacket_eq outQueue packet device
  rw [observe, processPacket_eq kind rfl, run, observed_mcuInfo, acknowledge_final]
  exact installed

/-- A description that is not all data is completed by the bytes behind. -/
theorem processLoadMcuInfoPacket_guarded
    (kind : (device.desk.packets packet).header.type = PacketType.loadMcuInfoPacket.val)
    (ignores : IgnoresStale outQueue packet device)
    : infoEnd (device.desk.packets packet).packetData
        ≤ (device.desk.packets packet).header.dataSize.toNat
      ∨ packetDataLength ≤ (device.desk.packets packet).header.dataSize.toNat := by
  by_contra unguarded
  rw [not_or, Nat.not_le, Nat.not_le] at unguarded
  obtain ⟨read, room⟩ := unguarded
  let object := device.desk.packets packet
  let size := object.header.dataSize.toNat
  let stale : Cells UInt8 := fun _ => object.packetData size + 1
  have same := congrArg Observation.mcuInfo (ignores stale)
  have kind' : ((device.refill packet stale).desk.packets packet).header.type
      = PacketType.loadMcuInfoPacket.val := by
    rw [refill_packet]
    exact kind
  rw [observe_mcuInfo kind, observe_mcuInfo kind', refill_packet] at same
  have agree := agreeTo_of_getMcuInfo_eq (Option.some.inj same) size read
  rw [object.refill_stale stale (Nat.le_refl size) room] at agree
  have next : ¬ object.packetData size + 1 = object.packetData size := by simp
  exact next agree

/-- Data for an unknown memory restarts the device without any command. -/
theorem observe_memoryErr (outQueue : Nat)
    (kind : (device.desk.packets packet).header.type = PacketType.programMemoryPacket.val)
    (memory
      : (getProgMemData (device.desk.packets packet) device.rig.heap).2.1.memoryType = .memoryErr)
    : (observe outQueue packet device).ending = .error .restart
      ∧ (observe outQueue packet device).spiCommands = sentCommands device.rig.log := by
  let loaded :=
    { device.rig with heap := (getProgMemData (device.desk.packets packet) device.rig.heap).2.2 }
  have programs
      : programmerProgramMemory (getProgMemData (device.desk.packets packet) device.rig.heap).2.1
          loaded
        = .ok (-1) loaded := by
    rw [programmerProgramMemory, memory]
    rfl
  obtain ⟨stopped, run, rig⟩ := processProgramMemoryPacket_restarts outQueue programs (by decide)
  rw [observe, processPacket_eq kind rfl, run, observed_spiCommands, final, rig]
  exact ⟨rfl, rfl⟩

/-- EEPROM data either stops the device at a missing `mcu_info` or sends a command. -/
theorem observe_memoryEeprom (outQueue : Nat)
    (kind : (device.desk.packets packet).header.type = PacketType.programMemoryPacket.val)
    (memory
      : (getProgMemData (device.desk.packets packet) device.rig.heap).2.1.memoryType
        = .memoryEeprom)
    (more : (getProgMemData (device.desk.packets packet) device.rig.heap).2.1.dataLen ≠ 0)
    : (observe outQueue packet device).ending = .error .nullMcuInfo
      ∨ (observe outQueue packet device).spiCommands ≠ sentCommands device.rig.log := by
  let memData := (getProgMemData (device.desk.packets packet) device.rig.heap).2.1
  let loaded :=
    { device.rig with heap := (getProgMemData (device.desk.packets packet) device.rig.heap).2.2 }
  rw [observe, processPacket_eq kind rfl]
  cases installed : device.rig.mcuInfo with
  | none =>
      obtain ⟨stopped, stops⟩ :=
        programmerProgramMemory_stops loaded installed ⟨more, Or.inr memory⟩
      rw [processProgramMemoryPacket_stops outQueue stops]
      exact Or.inl rfl
  | some block =>
      have described : loaded.mcuInfo = some block := installed
      obtain ⟨status, after, programs⟩
          : ∃ status after, programmerProgramMemory memData loaded = .ok status after :=
        programmerProgramMemory_returns loaded fun missing => by cases installed.symm.trans missing
      obtain ⟨spiEnabled, cmd, answer, added, grown⟩
          : ∃ spiEnabled cmd answer added,
              (final (programmerProgramMemory memData loaded)).log
              = loaded.log ++ .transfer spiEnabled cmd answer :: added :=
        programmerProgramMemory_begins described memory more
      have left : (final (processProgramMemoryPacket outQueue packet device)).rig = after := by
        by_cases fails : status < 0
        · obtain ⟨stopped, run, rig⟩ := processProgramMemoryPacket_restarts outQueue programs fails
          rw [run]
          exact rig
        · rw [processProgramMemoryPacket_acknowledges outQueue programs fails, acknowledge_final]
      rw [programs] at grown
      refine Or.inr fun same => ?_
      have length := congrArg List.length same
      rw [observed_spiCommands, left, sentCommands, show after.log = _ from grown] at length
      simp [sentCommands, loaded] at length

/-- The memory that a request too short for its fixed part names lies behind its data. -/
theorem processProgramMemoryPacket_guarded
    (kind : (device.desk.packets packet).header.type = PacketType.programMemoryPacket.val)
    (ignores : IgnoresStale outQueue packet device)
    : 5 ≤ (device.desk.packets packet).header.dataSize.toNat := by
  by_contra short
  rw [Nat.not_le] at short
  let object := device.desk.packets packet
  have decoded (byte : UInt8)
      : (getProgMemData ((device.refill packet fun _ => byte).desk.packets packet)
          (device.refill packet fun _ => byte).rig.heap).2.1.memoryType = getMemoryType byte := by
    rw [refill_packet]
    exact congrArg getMemoryType
      (object.refill_stale (fun _ => byte) (Nat.le_of_lt_succ short) (by decide))
  have kind' (byte : UInt8)
      : ((device.refill packet fun _ => byte).desk.packets packet).header.type
        = PacketType.programMemoryPacket.val := by
    rw [refill_packet]
    exact kind
  have length
      : (getProgMemData ((device.refill packet fun _ => plEepromMemoryByte).desk.packets packet)
          (device.refill packet fun _ => plEepromMemoryByte).rig.heap).2.1.dataLen ≠ 0 := by
    rw [refill_packet]
    intro zero
    have wraps := congrArg UInt8.toNat zero
    change ((object.header.dataSize.toUInt32 - progMemFixedSize).toUInt8).toNat = 0 at wraps
    rw [UInt32.toNat_toUInt8, UInt32.toNat_sub, UInt16.toNat_toUInt32] at wraps
    have five : progMemFixedSize.toNat = 5 := rfl
    change object.header.dataSize.toNat < 5 at short
    omega
  have same := (ignores fun _ => plEepromMemoryByte).trans (ignores fun _ => 2).symm
  obtain ⟨restarts, silent⟩ := observe_memoryErr outQueue (kind' 2) (decoded 2)
  rcases observe_memoryEeprom outQueue (kind' plEepromMemoryByte)
      (decoded plEepromMemoryByte) length with stops | sends
  · rw [same, restarts] at stops
    cases stops
  · rw [same] at sends
    exact sends silent

end Necessary

end BigBlackHardware
