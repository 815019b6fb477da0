import BigBlackHardware.Controller.NewReplies
import BigBlackHardware.Programmer.EnterPgm

/-! What the acknowledgement of a LoadMCUInfo request says about the target. -/

namespace BigBlackHardware

open Library

/-- The description of the target that a LoadMCUInfo packet is decoded to. -/
def requestedInfo (packet : Packet) (heap : Heap) : AvrMcuInfo :=
  (getMcuInfo packet heap.malloc.2).2.1

/-- The replies of a LoadMCUInfo request. -/
def loadReplies (outQueue packet : Nat) (device : Device) : List Reply :=
  newReplies device.desk (final (processLoadMcuInfoPacket outQueue packet device)).desk

/-- The target echoed the programming-enable byte at some time while the request was handled. -/
def SawEcho (outQueue packet : Nat) (device : Device) : Prop :=
  ∃ event ∈ (final (processLoadMcuInfoPacket outQueue packet device)).rig.log.drop
      device.rig.log.length,
    event.IsEcho (requestedInfo (device.desk.packets packet) device.rig.heap).pgmEnable

/-- The replies of a LoadMCUInfo request tell whether the target echoed. -/
structure TruthfulReplies (outQueue packet : Nat) (device : Device) : Prop where
  success
    : ⟨outQueue, [plAckSuccess]⟩ ∈ loadReplies outQueue packet device →
      SawEcho outQueue packet device
  failure
    : ¬ SawEcho outQueue packet device →
      ⟨outQueue, textBytes "Failed to enter PGM mode\r\n"⟩ ∈ loadReplies outQueue packet device
      ∧ ⟨outQueue, [plAckSuccess]⟩ ∉ loadReplies outQueue packet device

/-- The byte in every acknowledgement that `send_ack` queues is 1 for a status that is not negative
and 0 for any other.
-/
def AckByteTells (status : Int) (outQueue : Nat) (desk : Desk) : Prop :=
  ∀ reply ∈ newReplies desk (final (sendAck status outQueue desk)),
    reply.content = [if status ≥ 0 then 1 else 0]

/-- An acknowledgement is queued if there are a packet and a slot for it. -/
theorem sendAck_replies (status : Int) (outQueue : Nat) (desk : Desk)
    : newReplies desk (final (sendAck status outQueue desk))
      = if ¬ desk.UsedUp ∧ desk.HasSlot outQueue then
          [⟨outQueue, [setAckData desk.junk.value.toUInt8 status]⟩]
        else [] := by
  let unset := { desk with junk := desk.junk.rest }
  let data := Cells.store (fun _ => 0) 0 [setAckData desk.junk.value.toUInt8 status]
  have run : sendAck status outQueue desk = createSendPacket .ackPacket data 1 outQueue unset := rfl
  rw [run]
  by_cases used : desk.UsedUp
  · have usedUp : unset.UsedUp := used
    rw [createSendPacket_usedUp usedUp, if_neg fun h => h.1 used]
    exact newReplies_eq_nil rfl
  · have room : ¬ unset.UsedUp := used
    rw [createSendPacket_eq room (by decide)]
    have byte : data.load 0 (1 : UInt16).toNat = [setAckData desk.junk.value.toUInt8 status] := rfl
    have new := newReplies_sent unset data 1 outQueue
    rw [byte] at new
    refine Eq.trans new ?_
    by_cases slot : desk.HasSlot outQueue
    · rw [if_pos (c := unset.HasSlot outQueue) slot, if_pos ⟨used, slot⟩]
    · rw [if_neg (c := unset.HasSlot outQueue) slot, if_neg fun h => slot h.2]

/-- The reply at the end of the handlers that acknowledge, however its assertion ends. -/
theorem acknowledge_final (status : Int) (outQueue : Nat) (device : Device)
    : final
        ((do
          let status ← onDesk (sendAck status outQueue)
          sysAssertCritical status
          return status : DeviceM Int) device)
      = { device with desk := final (sendAck status outQueue device.desk) } := by
  obtain ⟨sent, desk, run⟩ := sendAck_total status outQueue device.desk
  rw [bind_ok (onDesk_ok run), run, sysAssertCritical]
  split
  · rfl
  · rfl

/-- With a packet to be had the acknowledgement returns. -/
theorem acknowledge_returns (status : Int) (outQueue : Nat) (device : Device)
    (free : ¬ device.desk.UsedUp)
    : (do
        let status ← onDesk (sendAck status outQueue)
        sysAssertCritical status
        return status : DeviceM Int) device
      = .ok packetSuccess
          { device with desk := final (sendAck status outQueue device.desk) } := by
  let unset := { device.desk with junk := device.desk.junk.rest }
  have room : ¬ unset.UsedUp := free
  obtain ⟨desk, run⟩ : ∃ desk, sendAck status outQueue device.desk = .ok packetSuccess desk :=
    ⟨_, createSendPacket_eq room (by decide)⟩
  rw [bind_ok (onDesk_ok run), run]
  rfl

/-- An installed programmer makes one attempt to enter programming mode. -/
theorem enterPgmLoop_attempt {rig : Rig} {block : McuInfoBlock}
    (installed : rig.mcuInfo = some block) (status : Int)
    : let cmd := block.info.pgmEnable
      let ready := rig.log ++ preparations
      let echoes := EchoesWithin rig.target cmd pgmEnableRetries ready
      ∃ after,
        enterPgmLoop enterPgmAttempts status rig = .ok (if echoes then 1 else 0) after
        ∧ after.log
          = ready ++ triesLog rig.target cmd pgmEnableRetries ready
            ++ (if echoes then [] else [.spiDisable])
        ∧ after.mcuInfo = some block := by
  intro cmd ready echoes
  have call := programmerEnablePgmMode_eq installed
  rw [enterPgmAttempts, enterPgmLoop_eq 9 status installed, call]
  by_cases found : echoes
  · refine ⟨_, (if_pos found).trans (by rw [if_pos found]), ?_, ?_⟩
    · rw [if_pos found, List.append_nil]
    · exact installed
  · refine ⟨_, (if_neg found).trans (by rw [if_neg found]), ?_, ?_⟩
    · rw [if_neg found]
    · exact installed

/-- The handler makes one attempt to enter programming mode and acknowledges its status. -/
theorem processLoadMcuInfoPacket_eq (outQueue packet : Nat) (device : Device)
    : let info := requestedInfo (device.desk.packets packet) device.rig.heap
      let ready := device.rig.log ++ preparations
      let echoes := EchoesWithin device.rig.target info.pgmEnable pgmEnableRetries ready
      ∃ entered,
        processLoadMcuInfoPacket outQueue packet device
          = (do
              let status ← onDesk (sendAck (if echoes then 1 else 0) outQueue)
              sysAssertCritical status
              return status : DeviceM Int) { device with rig := entered }
        ∧ entered.log
          = ready ++ triesLog device.rig.target info.pgmEnable pgmEnableRetries ready
            ++ (if echoes then [] else [.spiDisable])
        ∧ entered.mcuInfo.map McuInfoBlock.info = some info := by
  intro info ready echoes
  let block : McuInfoBlock := ⟨device.rig.heap.malloc.1.address, info⟩
  let heap := (getMcuInfo (device.desk.packets packet) device.rig.heap.malloc.2).2.2
  let loaded := { device.rig with heap := heap }
  have decoded
      : loadMcuInfo (device.desk.packets packet) device.rig = .ok (0, block) loaded := rfl
  obtain ⟨set, installs, installed, log, target⟩
      : ∃ rig, programmerSetMcuInfo block loaded = .ok () rig
        ∧ rig.mcuInfo = some block ∧ rig.log = device.rig.log ∧ rig.target = device.rig.target :=
    ⟨_, rfl, rfl, rfl, rfl⟩
  obtain ⟨entered, attempt, grown, still⟩ := enterPgmLoop_attempt installed 0
  rw [log, target] at attempt grown
  have status : ¬ (if echoes then 1 else 0 : Int) < 0 := by split <;> decide
  refine ⟨entered, ?_, grown, by rw [still]; rfl⟩
  rw [processLoadMcuInfoPacket, bind_ok (readPacket_eq packet device), bind_ok (onRig_ok decoded)]
  simp only [Int.lt_irrefl, ↓reduceIte]
  rw [bind_ok (onRig_ok installs), bind_ok (onRig_ok attempt), if_neg status]
  rfl

/-- What the handler leaves, however the assertion at its end comes out. -/
theorem processLoadMcuInfoPacket_final (outQueue packet : Nat) (device : Device)
    : let info := requestedInfo (device.desk.packets packet) device.rig.heap
      let ready := device.rig.log ++ preparations
      let echoes := EchoesWithin device.rig.target info.pgmEnable pgmEnableRetries ready
      let after := final (processLoadMcuInfoPacket outQueue packet device)
      after.desk = final (sendAck (if echoes then 1 else 0) outQueue device.desk)
        ∧ after.rig.log
          = ready ++ triesLog device.rig.target info.pgmEnable pgmEnableRetries ready
            ++ if echoes then [] else [.spiDisable] := by
  obtain ⟨entered, run, grown, -⟩ := processLoadMcuInfoPacket_eq outQueue packet device
  dsimp only at run grown ⊢
  rw [run, acknowledge_final]
  exact ⟨rfl, grown⟩

/-- Whether the target echoed can be told from its answers to the first attempt. -/
theorem sawEcho_iff (outQueue packet : Nat) (device : Device)
    : SawEcho outQueue packet device
      ↔ EchoesWithin device.rig.target
          (requestedInfo (device.desk.packets packet) device.rig.heap).pgmEnable pgmEnableRetries
          (device.rig.log ++ preparations) := by
  obtain ⟨-, grown⟩ := processLoadMcuInfoPacket_final outQueue packet device
  have quiet (cmd : AvrCommand) : ¬ ∃ event ∈ preparations, event.IsEcho cmd := by
    simp [preparations, RigEvent.IsEcho]
  have off (echoes : Prop) [Decidable echoes] (cmd : AvrCommand)
      : ¬ ∃ event ∈ if echoes then [] else [RigEvent.spiDisable], event.IsEcho cmd := by
    split <;> simp [RigEvent.IsEcho]
  rw [SawEcho, grown, List.append_assoc, List.append_assoc, List.drop_left]
  simp only [List.mem_append, or_and_right, exists_or, or_iff_right (quiet _),
    or_iff_left (off _ _)]
  exact triesLog_echo_iff _ _ _ _

/-- The replies are the same whatever the target answers. -/
theorem loadReplies_eq (outQueue packet : Nat) (device : Device)
    : loadReplies outQueue packet device
      = if ¬ device.desk.UsedUp ∧ device.desk.HasSlot outQueue then [⟨outQueue, [plAckSuccess]⟩]
        else [] := by
  obtain ⟨desk, -⟩ := processLoadMcuInfoPacket_final outQueue packet device
  have byte (echoes : Prop) [Decidable echoes] (data : UInt8)
      : setAckData data (if echoes then 1 else 0) = plAckSuccess := by
    rw [setAckData]
    split <;> rfl
  rw [loadReplies, desk, sendAck_replies, byte]

/-- The byte is right unless a negative status leaves one that is not 0 in an acknowledgement. -/
theorem ackByteTells_iff (status : Int) (outQueue : Nat) (desk : Desk)
    : AckByteTells status outQueue desk
      ↔ 0 ≤ status ∨ desk.UsedUp ∨ ¬ desk.HasSlot outQueue ∨ desk.junk.value.toUInt8 = 0 := by
  rw [AckByteTells, sendAck_replies]
  by_cases queued : ¬ desk.UsedUp ∧ desk.HasSlot outQueue
  · rw [if_pos queued, List.forall_mem_singleton, or_iff_right queued.1,
      or_iff_right (not_not.mpr queued.2), setAckData]
    by_cases succeeds : status ≥ 0
    · rw [if_pos succeeds, if_pos succeeds]
      exact iff_of_true rfl (Or.inl succeeds)
    · rw [if_neg succeeds, if_neg succeeds, or_iff_right succeeds, List.singleton_inj]
  · rw [if_neg queued]
    refine iff_of_true (fun _ h => by cases h) (Or.inr ?_)
    by_cases used : desk.UsedUp
    · exact Or.inl used
    · exact Or.inr (Or.inl fun slot => queued ⟨used, slot⟩)

/-- The replies to a LoadMCUInfo request tell the truth exactly if the target echoes in one of the
tries of the first attempt, and the byte of an acknowledgement tells its status exactly if the
status is not negative, none can be queued or the byte happens to be 0.
-/
theorem processLoadMcuInfoPacket_truthful_iff (outQueue packet : Nat) (device : Device)
    (status : Int) (desk : Desk)
    : (TruthfulReplies outQueue packet device
        ↔ EchoesWithin device.rig.target
            (requestedInfo (device.desk.packets packet) device.rig.heap).pgmEnable pgmEnableRetries
            (device.rig.log ++ preparations))
      ∧ (AckByteTells status outQueue desk
        ↔ 0 ≤ status ∨ desk.UsedUp ∨ ¬ desk.HasSlot outQueue
          ∨ desk.junk.value.toUInt8 = 0) := by
  refine ⟨?_, ackByteTells_iff status outQueue desk⟩
  rw [← sawEcho_iff outQueue packet device]
  constructor
  · intro truthful
    by_contra silent
    have reported := (truthful.failure silent).1
    rw [loadReplies_eq] at reported
    split at reported
    · rw [List.mem_singleton] at reported
      have text : textBytes "Failed to enter PGM mode\r\n" = [plAckSuccess] :=
        congrArg Reply.content reported
      exact absurd text (by decide)
    · cases reported
  · exact fun saw => ⟨fun _ => saw, fun silent => absurd saw silent⟩

/-- A device after a reset with a LoadMCUInfo packet of zeros and a target that answers ones. -/
def silentDevice : Device where
  rig := .boot (fun _ _ => #v[1, 1, 1, 1]) (.boot fun _ _ => 0) ⟨fun _ => 0, 0⟩
  desk :=
    .boot
      (fun _ =>
        { header := ⟨PacketType.loadMcuInfoPacket.val, 1, 16, 0, 0, 0⟩
          rawHeader := fun _ => 0
          packetData := fun _ => 0 })
      (fun _ => 0) ⟨fun _ => 7, 0⟩

/-- The target never echoes, yet the request is acknowledged with success; and the byte that stands
for a failure is whatever the stack held.
-/
theorem processLoadMcuInfoPacket_lies
    : ¬ TruthfulReplies 0 7 silentDevice ∧ ¬ AckByteTells (-1) 0 silentDevice.desk := by
  constructor
  · intro truthful
    have silent : ¬ SawEcho 0 7 silentDevice := by
      rw [sawEcho_iff]
      decide +kernel
    refine (truthful.failure silent).2 ?_
    rw [loadReplies_eq]
    decide
  · rw [ackByteTells_iff]
    decide

end BigBlackHardware
