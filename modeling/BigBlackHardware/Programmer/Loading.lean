import BigBlackHardware.Programmer.Rig

/-! Programming a target that echoes every command: the commands that reach it are the load
commands of the data, byte by byte.
-/

namespace BigBlackHardware

open Library

/-- The commands that were sent to the target, in order. -/
def sentCommands (log : List RigEvent) : List AvrCommand :=
  log.filterMap fun event =>
    match event with
    | .transfer _ cmd _ => some cmd
    | _ => none

/-- The load commands of flash data: low then high byte of each word, at successive addresses. -/
def flashCommands (info : AvrMcuInfo) : UInt32 → List UInt8 → List AvrCommand
  | address, low :: high :: rest =>
      createMemoryCmd info.flashLoadLoPattern.bytes info.flashLoadLoLen address low
      :: createMemoryCmd info.flashLoadHiPattern.bytes info.flashLoadHiLen address high
      :: flashCommands info (address + 1) rest
  | _, _ => []

/-- The write commands of EEPROM data, at successive addresses. -/
def eepromCommands (info : AvrMcuInfo) : UInt32 → List UInt8 → List AvrCommand
  | _, [] => []
  | address, byte :: rest =>
      createMemoryCmd info.eepromWritePattern.bytes info.eepromWriteLen address byte
      :: eepromCommands info (address + 1) rest

/-- The commands that load `bytes` from an address on into a memory. -/
def loadCommands (info : AvrMcuInfo) (memory : AvrMemoryType) (address : UInt32)
    (bytes : List UInt8) : List AvrCommand :=
  match memory with
  | .memoryFlash => flashCommands info address bytes
  | .memoryEeprom => eepromCommands info address bytes
  | .memoryErr => []

/-- Flash data of even length takes one command a byte, by recursion on the words. -/
theorem flashCommands_length (info : AvrMcuInfo)
    : ∀ (address : UInt32) (bytes : List UInt8),
        bytes.length % 2 = 0 → (flashCommands info address bytes).length = bytes.length
  | _, [], _ => rfl
  | _, [_], even => absurd even (by simp)
  | address, low :: high :: rest, even => by
      have words := flashCommands_length info (address + 1) rest
        (by simp only [List.length_cons] at even; omega)
      simp only [flashCommands, List.length_cons, words]

theorem eepromCommands_length (info : AvrMcuInfo) (address : UInt32) (bytes : List UInt8)
    : (eepromCommands info address bytes).length = bytes.length := by
  induction bytes generalizing address with
  | nil => rfl
  | cons byte rest ih => rw [eepromCommands, List.length_cons, List.length_cons, ih]

/-- The target echoes every command, so that every answer passes `check_cmd_status`. -/
def Rig.Passing (rig : Rig) : Prop :=
  ∀ log cmd, checkCmdStatus cmd (rig.target log cmd) = 0

/-- The answer of a target that echoes the command in the last three bytes. -/
def echoAnswer (cmd : AvrCommand) : AvrCommand :=
  (#v[0] : Vector UInt8 1) ++ cmd.pop

/-- The bytes of an echo are those of the command. -/
theorem echoAnswer_getElem? (cmd : AvrCommand) {i : Nat} (inside : i < avrCmdSize - 1)
    : (echoAnswer cmd)[1 + i]? = cmd[i]? := by
  refine (Vector.getElem?_append_right (Nat.le_add_right 1 i)).trans ?_
  rw [Nat.add_sub_cancel_left, Vector.getElem?_pop, if_pos inside]

/-- An echo passes `check_cmd_status`, byte by byte. -/
theorem checkCmdStatus_echoAnswer (cmd : AvrCommand) : checkCmdStatus cmd (echoAnswer cmd) = 0 := by
  rw [checkCmdStatus, if_pos]
  rw [List.all_eq_true]
  intro i member
  obtain ⟨j, inside, rfl⟩ := List.mem_range'.mp member
  simpa using echoAnswer_getElem? cmd inside

/-- Nothing but commands, delays and the like happened between two rigs: `sent` are the commands,
and the session and the target are the same.
-/
structure Sends (before : Rig) (sent : List AvrCommand) (after : Rig) : Prop where
  commands : sentCommands after.log = sentCommands before.log ++ sent
  mcuInfo : after.mcuInfo = before.mcuInfo
  target : after.target = before.target

theorem Sends.refl (rig : Rig) : Sends rig [] rig :=
  ⟨by rw [List.append_nil], rfl, rfl⟩

/-- A transfer sends its command. -/
theorem Sends.transferred (rig : Rig) (cmd : AvrCommand) : Sends rig [cmd] (rig.transferred cmd) :=
  ⟨by simp [sentCommands, Rig.transferred, Rig.note], rfl, rfl⟩

/-- Commands sent one after the other add up, by associativity. -/
theorem Sends.trans {rig middle after : Rig} {first second : List AvrCommand}
    (one : Sends rig first middle) (two : Sends middle second after)
    : Sends rig (first ++ second) after where
  commands := by rw [two.commands, one.commands, List.append_assoc]
  mcuInfo := two.mcuInfo.trans one.mcuInfo
  target := two.target.trans one.target

theorem Sends.passing {rig after : Rig} {sent : List AvrCommand} (sends : Sends rig sent after)
    (passing : rig.Passing) : after.Passing := by
  intro log cmd
  rw [sends.target]
  exact passing log cmd

/-- An echoed command succeeds. -/
theorem programmerWriteRawCmd_passing {rig : Rig} (passing : rig.Passing) (cmd : AvrCommand)
    : programmerWriteRawCmd cmd rig
      = .ok (0, rig.target rig.log cmd) (rig.transferred cmd) := by
  change EStateM.Result.ok (checkCmdStatus cmd (rig.target rig.log cmd), _) _ = _
  rw [passing rig.log cmd]

/-- An echoed read command stores the last answer byte. -/
theorem readByte_passing {rig : Rig} (passing : rig.Passing) (cmd : AvrCommand)
    (buf : Cells UInt8) (offset : Nat)
    : readByte cmd buf offset rig
      = .ok (0, buf.store offset [(rig.target rig.log cmd)[3]]) (rig.transferred cmd) := by
  rw [readByte, bind_ok (programmerWriteRawCmd_passing passing cmd)]
  rfl

-----------------------------------------------------------------------------------------
-- Lists of commands
-----------------------------------------------------------------------------------------

/-- Sends commands one after the other, up to the first that is not echoed: what the two programming
loops come to.
-/
def sendCommands (delay : Nat) : List AvrCommand → RigM Int
  | [] => return 0
  | cmd :: cmds => do
      let status ← loadMemoryCmd cmd delay
      if status < 0 then return status else sendCommands delay cmds

/-- A load command returns the status of its answer, and is the only command sent. -/
theorem loadMemoryCmd_sends (rig : Rig) (cmd : AvrCommand) (delay : Nat)
    : ∃ after,
        loadMemoryCmd cmd delay rig
          = .ok (checkCmdStatus cmd (rig.target rig.log cmd)) after
        ∧ Sends rig [cmd] after := by
  have transfer
      : programmerWriteRawCmd cmd rig
        = .ok (checkCmdStatus cmd (rig.target rig.log cmd), rig.target rig.log cmd)
            (rig.transferred cmd) := rfl
  rw [loadMemoryCmd, bind_ok transfer]
  dsimp only
  by_cases failed : checkCmdStatus cmd (rig.target rig.log cmd) < 0
  · exact ⟨rig.transferred cmd, by rw [if_pos failed]; rfl, .transferred rig cmd⟩
  · refine ⟨(rig.transferred cmd).note (.sleep delay), by rw [if_neg failed]; rfl, ?_, rfl, rfl⟩
    simp [sentCommands, Rig.transferred, Rig.note]

/-- A status of an answer that is not negative is 0. -/
theorem checkCmdStatus_eq_zero {cmd answer : AvrCommand} (passed : ¬ checkCmdStatus cmd answer < 0)
    : checkCmdStatus cmd answer = 0 := by
  rw [checkCmdStatus] at passed ⊢
  split
  · rfl
  · rename_i failed
    rw [if_neg failed] at passed
    exact absurd (by decide) passed

/-- The flash loop sends the load commands of the data that is left. Witness: induction on the fuel,
which covers the words that are left.
-/
theorem programFlashLoop_eq {memData : AvrProgMemData} {block : McuInfoBlock}
    (even : memData.dataLen.toNat % 2 = 0) (fuel : Nat)
    {i : UInt8} (aligned : i.toNat % 2 = 0) (inside : i.toNat ≤ memData.dataLen.toNat)
    (enough : memData.dataLen.toNat ≤ i.toNat + 2 * fuel) (address : UInt32) (status : Int)
    {rig : Rig} (installed : rig.mcuInfo = some block)
    : programFlashLoop memData fuel i address status rig
      = if i < memData.dataLen then
          sendCommands block.info.flashWaitMs.toNat
            (flashCommands block.info address
              (memData.data.bytes.load i.toNat (memData.dataLen.toNat - i.toNat)))
            rig
        else .ok status rig := by
  induction fuel generalizing i address status rig with
  | zero =>
      have stop : ¬ i < memData.dataLen := by
        rw [UInt8.lt_iff_toNat_lt]
        omega
      rw [programFlashLoop, if_neg stop]
      rfl
  | succ fuel ih =>
      by_cases more : i < memData.dataLen
      · have below : i.toNat < memData.dataLen.toNat := UInt8.lt_iff_toNat_lt.mp more
        have bound := memData.dataLen.toNat_lt
        have next : (i + 2).toNat = i.toNat + 2 := by
          rw [UInt8.toNat_add]
          exact Nat.mod_eq_of_lt (by simp only [UInt8.reduceToNat]; omega)
        have left : memData.dataLen.toNat - i.toNat
            = memData.dataLen.toNat - (i + 2).toNat + 1 + 1 := by
          omega
        obtain ⟨one, low, sentLow⟩ := loadMemoryCmd_sends rig
          (createMemoryCmd block.info.flashLoadLoPattern.bytes block.info.flashLoadLoLen address
            (memData.data.bytes i.toNat))
          block.info.flashWaitMs.toNat
        obtain ⟨two, high, sentHigh⟩ := loadMemoryCmd_sends one
          (createMemoryCmd block.info.flashLoadHiPattern.bytes block.info.flashLoadHiLen address
            (memData.data.bytes (i.toNat + 1)))
          block.info.flashWaitMs.toNat
        rw [if_pos more, programFlashLoop, if_pos more, bind_ok (readMcuInfo_installed installed),
          bind_ok low, left, Cells.load_succ, Cells.load_succ, flashCommands, sendCommands,
          bind_ok low]
        split
        · rfl
        rw [bind_ok (readMcuInfo_installed (sentLow.mcuInfo.trans installed)), bind_ok high,
          sendCommands, bind_ok high]
        split
        · rfl
        · rename_i passed
          rw [ih (i := i + 2) (by omega) (by omega) (by omega) (address + 1) _
            ((sentLow.trans sentHigh).mcuInfo.trans installed), checkCmdStatus_eq_zero passed, next]
          split
          · rfl
          · rename_i done
            rw [UInt8.lt_iff_toNat_lt] at done
            rw [show memData.dataLen.toNat - (i.toNat + 2) = 0 by omega]
            rfl
      · rw [if_neg more, programFlashLoop, if_neg more]
        rfl

/-- The EEPROM loop sends the write commands of the data that is left, by induction on the rounds to
go.
-/
theorem programEepromLoop_eq (progData : AvrProgMemData) {block : McuInfoBlock}
    (count i : Nat) (address : UInt32) (status : Int) {rig : Rig}
    (installed : rig.mcuInfo = some block)
    : programEepromLoop progData count i address status rig
      = if 0 < count then
          sendCommands block.info.eepromWaitMs.toNat
            (eepromCommands block.info address (progData.data.bytes.load i count)) rig
        else .ok status rig := by
  induction count generalizing i address status rig with
  | zero => rfl
  | succ count ih =>
      obtain ⟨one, written, sentByte⟩ := loadMemoryCmd_sends rig
        (createMemoryCmd block.info.eepromWritePattern.bytes block.info.eepromWriteLen address
          (progData.data.bytes i))
        block.info.eepromWaitMs.toNat
      rw [if_pos (Nat.succ_pos count), programEepromLoop,
        bind_ok (readMcuInfo_installed installed), bind_ok written, Cells.load_succ, eepromCommands,
        sendCommands, bind_ok written]
      split
      · rfl
      · rename_i passed
        rw [ih (i + 1) (address + 1) _ (sentByte.mcuInfo.trans installed),
          checkCmdStatus_eq_zero passed]
        cases count <;> rfl

/-- On an echoing target all commands are sent. -/
theorem sendCommands_passing (delay : Nat) (cmds : List AvrCommand) {rig : Rig}
    (passing : rig.Passing)
    : ∃ after, sendCommands delay cmds rig = .ok 0 after ∧ Sends rig cmds after := by
  induction cmds generalizing rig with
  | nil => exact ⟨rig, rfl, .refl rig⟩
  | cons cmd cmds ih =>
      obtain ⟨one, first, sentFirst⟩ := loadMemoryCmd_sends rig cmd delay
      rw [passing] at first
      obtain ⟨after, rest, sentRest⟩ := ih (sentFirst.passing passing)
      refine ⟨after, ?_, sentFirst.trans sentRest⟩
      rw [sendCommands, bind_ok first]
      exact rest

/-- Reading an object that was never stored to uses up a value and nothing else. -/
theorem indeterminate_sends (rig : Rig)
    : ∃ after,
        indeterminate rig = .ok rig.junk.value after ∧ Sends rig [] after ∧ after.log = rig.log :=
  ⟨{ rig with junk := rig.junk.rest }, rfl, ⟨by simp [sentCommands], rfl, rfl⟩, rfl⟩

/-- A memory that can be programmed with the data: flash takes whole words. -/
structure Loadable (memData : AvrProgMemData) : Prop where
  known : memData.memoryType ≠ .memoryErr
  even : memData.memoryType = .memoryFlash → memData.dataLen.toNat % 2 = 0

/-- Programming sends the load commands of the decoded data; with nothing to load the status is
whatever its memory held.
-/
theorem programmerProgramMemory_eq {memData : AvrProgMemData} (loadable : Loadable memData)
    {block : McuInfoBlock} {rig : Rig} (installed : rig.mcuInfo = some block)
    : ∃ begun delay,
        Sends rig [] begun
        ∧ begun.log = rig.log
        ∧ programmerProgramMemory memData rig
          = if 0 < memData.dataLen.toNat then
              sendCommands delay
                (loadCommands block.info memData.memoryType memData.startAddress
                  (memData.data.bytes.load 0 memData.dataLen.toNat))
                begun
            else .ok (toI16 rig.junk.value) begun := by
  obtain ⟨begun, junk, silent, same⟩ := indeterminate_sends rig
  have installed' := silent.mcuInfo.trans installed
  obtain ⟨known, even⟩ := loadable
  rw [programmerProgramMemory]
  cases memory : memData.memoryType with
  | memoryErr => exact absurd memory known
  | memoryFlash =>
      have bound := memData.dataLen.toNat_lt
      have loop := programFlashLoop_eq (i := 0) (even memory) 128 rfl (Nat.zero_le _)
        (by simp only [UInt8.toNat_zero]; omega) memData.startAddress (toI16 rig.junk.value)
        installed'
      have word : ¬ memData.dataLen % 2 ≠ 0 := by
        have half := even memory
        rw [not_not, ← UInt8.toNat_inj, UInt8.toNat_mod]
        exact half
      refine ⟨begun, block.info.flashWaitMs.toNat, silent, same, ?_⟩
      change programFlashMemory memData rig = _
      rw [programFlashMemory, if_neg word, bind_ok junk, loop]
      exact if_congr UInt8.lt_iff_toNat_lt rfl rfl
  | memoryEeprom =>
      have loop := programEepromLoop_eq memData memData.dataLen.toNat 0 memData.startAddress
        (toI16 rig.junk.value) installed'
      refine ⟨begun, block.info.eepromWaitMs.toNat, silent, same, ?_⟩
      change programEepromMemory memData rig = _
      rw [programEepromMemory, bind_ok junk, loop]
      rfl

/-- Programming an echoing target sends the load commands of the decoded data, and the status is
0 unless there was nothing to load.
-/
theorem programmerProgramMemory_passing {memData : AvrProgMemData} {block : McuInfoBlock}
    {rig : Rig} (passing : rig.Passing) (installed : rig.mcuInfo = some block)
    (known : memData.memoryType ≠ .memoryErr)
    (even : memData.memoryType = .memoryFlash → memData.dataLen.toNat % 2 = 0)
    : ∃ status after,
        programmerProgramMemory memData rig = .ok status after
        ∧ (0 < memData.dataLen.toNat → status = 0)
        ∧ Sends rig
            (loadCommands block.info memData.memoryType memData.startAddress
              (memData.data.bytes.load 0 memData.dataLen.toNat))
            after := by
  obtain ⟨begun, delay, silent, -, run⟩ := programmerProgramMemory_eq ⟨known, even⟩ installed
  by_cases some : 0 < memData.dataLen.toNat
  · obtain ⟨after, sent, sends⟩ := sendCommands_passing delay
      (loadCommands block.info memData.memoryType memData.startAddress
        (memData.data.bytes.load 0 memData.dataLen.toNat))
      (silent.passing passing)
    rw [if_pos some] at run
    exact ⟨0, after, run.trans sent, fun _ => rfl, silent.trans sends⟩
  · have none : memData.dataLen.toNat = 0 := Nat.eq_zero_of_not_pos some
    rw [if_neg some] at run
    refine ⟨toI16 rig.junk.value, begun, run, fun more => absurd more some, ?_⟩
    rw [none, Cells.load_zero]
    cases memory : memData.memoryType <;> exact silent

end BigBlackHardware
