import BigBlackHardware.Programmer.Loading
import BigBlackHardware.Programmer.PatternLanguage

/-! The commands that programming sends to a target that answers as it likes: the load commands of
the data, up to the first that is not echoed.
-/

namespace BigBlackHardware

open Library

/-- The rig with a target that gives these answers, one to each command from here on. -/
def Rig.answering (rig : Rig) (answers : Nat → AvrCommand) : Rig :=
  { rig with
    target := fun log _ =>
      answers ((sentCommands log).length - (sentCommands rig.log).length) }

/-- The commands of a request: to EEPROM one write command a byte, to flash a load command for the
low and one for the high byte of each word.
-/
def AvrProgMemData.commands (memData : AvrProgMemData) (info : AvrMcuInfo) : List AvrCommand :=
  match memData.memoryType with
  | .memoryEeprom =>
      (List.range memData.dataLen.toNat).map fun i =>
        createMemoryCmd info.eepromWritePattern.bytes info.eepromWriteLen
          (memData.startAddress + .ofNat i) (memData.data.bytes i)
  | .memoryFlash =>
      (List.range (memData.dataLen.toNat / 2)).flatMap fun k =>
        [ createMemoryCmd info.flashLoadLoPattern.bytes info.flashLoadLoLen
            (memData.startAddress + .ofNat k) (memData.data.bytes (2 * k)),
          createMemoryCmd info.flashLoadHiPattern.bytes info.flashLoadHiLen
            (memData.startAddress + .ofNat k) (memData.data.bytes (2 * k + 1)) ]
  | .memoryErr => []

/-- The answer passes `check_cmd_status`. -/
def AnswerPasses (cmd answer : AvrCommand) : Prop := 0 ≤ checkCmdStatus cmd answer

/-- Programming returns a status with a property, and these are the commands sent. -/
def Programs (memData : AvrProgMemData) (rig : Rig) (sent : List AvrCommand)
    (returned : Int → Prop) : Prop :=
  ∃ status after,
    programmerProgramMemory memData rig = .ok status after
    ∧ sentCommands after.log = sentCommands rig.log ++ sent
    ∧ returned status

/-- Programming follows the answers: it sends all commands if every one is echoed, and stops behind
the first that is not. What cannot be loaded is refused.
-/
structure FollowsAnswers (memData : AvrProgMemData) (rig : Rig) (info : AvrMcuInfo)
    (answers : Nat → AvrCommand) : Prop where
  passed
    : Loadable memData →
      (∀ m cmd, (memData.commands info)[m]? = some cmd → AnswerPasses cmd (answers m)) →
      Programs memData (rig.answering answers) (memData.commands info) (0 ≤ ·)
  failed
    : Loadable memData →
      ∀ m cmd,
        (memData.commands info)[m]? = some cmd →
        ¬ AnswerPasses cmd (answers m) →
        (∀ i < m, ∀ cmd, (memData.commands info)[i]? = some cmd → AnswerPasses cmd (answers i)) →
        Programs memData (rig.answering answers) ((memData.commands info).take (m + 1)) (· < 0)
  refused : ¬ Loadable memData → Programs memData (rig.answering answers) [] (· < 0)

/-- The next address. -/
theorem address_succ (address : UInt32) (k : Nat)
    : address + .ofNat (k + 1) = address + 1 + .ofNat k := by
  rw [UInt32.ofNat_add, UInt32.add_comm (.ofNat k), ← UInt32.add_assoc]
  rfl

/-- The load commands of flash data word by word, by induction on the words. -/
theorem flashCommands_load (info : AvrMcuInfo) (cells : Cells UInt8) (words i : Nat)
    (address : UInt32)
    : flashCommands info address (cells.load i (2 * words))
      = (List.range words).flatMap fun k =>
          [ createMemoryCmd info.flashLoadLoPattern.bytes info.flashLoadLoLen
              (address + .ofNat k) (cells (i + 2 * k)),
            createMemoryCmd info.flashLoadHiPattern.bytes info.flashLoadHiLen
              (address + .ofNat k) (cells (i + 2 * k + 1)) ] := by
  induction words generalizing i address with
  | zero => rfl
  | succ words ih =>
      have shift (k : Nat) : i + 1 + 1 + 2 * k = i + 2 * (k + 1) := by omega
      rw [Nat.mul_succ, Cells.load_succ, Cells.load_succ, flashCommands, ih,
        List.range_succ_eq_map, List.flatMap_cons, List.flatMap_map]
      simp only [shift, address_succ]
      simp

/-- The write commands of EEPROM data byte by byte, by induction on the bytes. -/
theorem eepromCommands_load (info : AvrMcuInfo) (cells : Cells UInt8) (count i : Nat)
    (address : UInt32)
    : eepromCommands info address (cells.load i count)
      = (List.range count).map fun k =>
          createMemoryCmd info.eepromWritePattern.bytes info.eepromWriteLen (address + .ofNat k)
            (cells (i + k)) := by
  induction count generalizing i address with
  | zero => rfl
  | succ count ih =>
      have shift (k : Nat) : i + 1 + k = i + (k + 1) := by omega
      rw [Cells.load_succ, eepromCommands, ih, List.range_succ_eq_map, List.map_cons, List.map_map]
      simp only [shift, Function.comp_def, address_succ]
      simp

/-- The commands of a request are the load commands of its data. -/
theorem commands_eq_loadCommands {memData : AvrProgMemData} (loadable : Loadable memData)
    (info : AvrMcuInfo)
    : memData.commands info
      = loadCommands info memData.memoryType memData.startAddress
          (memData.data.bytes.load 0 memData.dataLen.toNat) := by
  unfold AvrProgMemData.commands loadCommands
  cases memory : memData.memoryType with
  | memoryErr => rfl
  | memoryEeprom =>
      dsimp only
      rw [eepromCommands_load]
      simp only [Nat.zero_add]
  | memoryFlash =>
      have words : 2 * (memData.dataLen.toNat / 2) = memData.dataLen.toNat := by
        have even := loadable.even memory
        omega
      dsimp only
      rw [← words, flashCommands_load, words]
      simp only [Nat.zero_add]

/-- The next command that is sent to the target gets answer `n`. -/
structure AnswersNext (answers : Nat → AvrCommand) (base n : Nat) (rig : Rig) : Prop where
  target : rig.target = fun log _ => answers ((sentCommands log).length - base)
  place : (sentCommands rig.log).length = base + n

section Answers

variable {answers : Nat → AvrCommand} {base n : Nat} {rig after : Rig}

theorem answering_next (rig : Rig) (answers : Nat → AvrCommand)
    : AnswersNext answers (sentCommands rig.log).length 0 (rig.answering answers) := ⟨rfl, rfl⟩

/-- The commands sent use up as many answers. -/
theorem Sends.answersNext {sent : List AvrCommand} (sends : Sends rig sent after)
    (next : AnswersNext answers base n rig)
    : AnswersNext answers base (n + sent.length) after := by
  refine ⟨sends.target.trans next.target, ?_⟩
  rw [sends.commands, List.length_append, next.place, Nat.add_assoc]

/-- What the target answers to a command, whichever it is. -/
theorem AnswersNext.answer (next : AnswersNext answers base n rig) (cmd : AvrCommand)
    : rig.target rig.log cmd = answers n := by
  rw [next.target]
  dsimp only
  rw [next.place, Nat.add_sub_cancel_left]

/-- The status of a command is that of its answer. -/
theorem loadMemoryCmd_answered (next : AnswersNext answers base n rig) (cmd : AvrCommand)
    (delay : Nat)
    : ∃ after,
        loadMemoryCmd cmd delay rig = .ok (checkCmdStatus cmd (answers n)) after
        ∧ Sends rig [cmd] after := by
  obtain ⟨after, run, sends⟩ := loadMemoryCmd_sends rig cmd delay
  rw [next.answer] at run
  exact ⟨after, run, sends⟩

/-- Commands whose answers all pass are all sent, by induction on them. -/
theorem sendCommands_passed (delay : Nat) {cmds : List AvrCommand}
    (next : AnswersNext answers base n rig)
    (passed : ∀ m cmd, cmds[m]? = some cmd → AnswerPasses cmd (answers (n + m)))
    : ∃ after, sendCommands delay cmds rig = .ok 0 after ∧ Sends rig cmds after := by
  induction cmds generalizing n rig with
  | nil => exact ⟨rig, rfl, .refl rig⟩
  | cons cmd cmds ih =>
      obtain ⟨one, first, sentFirst⟩ := loadMemoryCmd_answered next cmd delay
      have goes : ¬ checkCmdStatus cmd (answers n) < 0 := Int.not_lt.mpr (passed 0 cmd rfl)
      have later : ∀ m cmd', cmds[m]? = some cmd' → AnswerPasses cmd' (answers (n + 1 + m)) := by
        intro m cmd' found
        have here := passed (m + 1) cmd' found
        rwa [Nat.add_right_comm, Nat.add_assoc]
      obtain ⟨after, rest, sentRest⟩ := ih (sentFirst.answersNext next) later
      refine ⟨after, ?_, sentFirst.trans sentRest⟩
      rw [sendCommands, bind_ok first, if_neg goes]
      exact rest

/-- Up to and with the first command whose answer fails all are sent, by induction on them. -/
theorem sendCommands_failed (delay : Nat) {cmds : List AvrCommand} {m : Nat} {cmd : AvrCommand}
    (next : AnswersNext answers base n rig) (found : cmds[m]? = some cmd)
    (fails : ¬ AnswerPasses cmd (answers (n + m)))
    (before : ∀ i < m, ∀ cmd, cmds[i]? = some cmd → AnswerPasses cmd (answers (n + i)))
    : ∃ status after,
        sendCommands delay cmds rig = .ok status after
        ∧ Sends rig (cmds.take (m + 1)) after
        ∧ status < 0 := by
  induction cmds generalizing n rig m with
  | nil => cases found
  | cons first cmds ih =>
      obtain ⟨one, run, sentFirst⟩ := loadMemoryCmd_answered next first delay
      cases m with
      | zero =>
          obtain rfl := Option.some.inj found
          have failed := Int.not_le.mp fails
          refine ⟨_, one, ?_, sentFirst, failed⟩
          rw [sendCommands, bind_ok run]
          exact congrFun (if_pos failed) one
      | succ m =>
          have goes : ¬ checkCmdStatus first (answers n) < 0 :=
            Int.not_lt.mpr (before 0 (Nat.succ_pos m) first rfl)
          have shift (i : Nat) : n + 1 + i = n + (i + 1) := by omega
          obtain ⟨status, after, rest, sentRest, negative⟩ := ih (sentFirst.answersNext next) found
            (by rw [List.length_singleton, shift]; exact fails)
            (by
              intro i inside cmd' here
              rw [List.length_singleton, shift]
              exact before (i + 1) (Nat.succ_lt_succ inside) cmd' here)
          refine ⟨status, after, ?_, sentFirst.trans sentRest, negative⟩
          rw [sendCommands, bind_ok run, if_neg goes]
          exact rest

end Answers

/-- What cannot be loaded is refused before a command is sent. -/
theorem programmerProgramMemory_refused {memData : AvrProgMemData} (refused : ¬ Loadable memData)
    (rig : Rig) : programmerProgramMemory memData rig = .ok (-1) rig := by
  rw [programmerProgramMemory]
  cases memory : memData.memoryType with
  | memoryErr => rfl
  | memoryEeprom => exact absurd ⟨by simp [memory], by simp [memory]⟩ refused
  | memoryFlash =>
      have odd : memData.dataLen % 2 ≠ 0 := by
        intro even
        refine refused ⟨by simp [memory], fun _ => ?_⟩
        rw [← UInt8.toNat_inj, UInt8.toNat_mod] at even
        exact even
      change programFlashMemory memData rig = _
      rw [programFlashMemory, if_pos odd]
      rfl

/-- Programming a memory comes to sending the commands of the request. -/
theorem programmerProgramMemory_sendCommands {memData : AvrProgMemData}
    (loadable : Loadable memData) (more : 0 < memData.dataLen.toNat) {rig : Rig}
    {block : McuInfoBlock} (installed : rig.mcuInfo = some block) (answers : Nat → AvrCommand)
    : ∃ begun delay,
        programmerProgramMemory memData (rig.answering answers)
          = sendCommands delay (memData.commands block.info) begun
        ∧ Sends (rig.answering answers) [] begun
        ∧ AnswersNext answers (sentCommands rig.log).length 0 begun := by
  have installed' : (rig.answering answers).mcuInfo = some block := installed
  obtain ⟨begun, delay, silent, -, run⟩ := programmerProgramMemory_eq loadable installed'
  rw [if_pos more, ← commands_eq_loadCommands loadable] at run
  exact ⟨begun, delay, run, silent, silent.answersNext (answering_next rig answers)⟩

/-- Programming sends the commands of the request up to the first answer that fails. Witness: the
loops come to sending a list of commands, and the answers are used up one by one.
-/
theorem programmerProgramMemory_followsAnswers (memData : AvrProgMemData)
    (more : 0 < memData.dataLen.toNat) (rig : Rig) (block : McuInfoBlock)
    (installed : rig.mcuInfo = some block) (answers : Nat → AvrCommand)
    : FollowsAnswers memData rig block.info answers where
  passed := by
    intro loadable passed
    obtain ⟨begun, delay, run, silent, next⟩ :=
      programmerProgramMemory_sendCommands loadable more installed answers
    obtain ⟨after, sent, sends⟩ := sendCommands_passed delay next
      (by simpa only [Nat.zero_add] using passed)
    exact ⟨0, after, run.trans sent, (silent.trans sends).commands, Int.le_refl 0⟩
  failed := by
    intro loadable m cmd found fails before
    obtain ⟨begun, delay, run, silent, next⟩ :=
      programmerProgramMemory_sendCommands loadable more installed answers
    obtain ⟨status, after, sent, sends, negative⟩ := sendCommands_failed delay next found
      (by simpa only [Nat.zero_add] using fails) (by simpa only [Nat.zero_add] using before)
    exact ⟨status, after, run.trans sent, (silent.trans sends).commands, negative⟩
  refused := by
    intro refused
    exact ⟨-1, rig.answering answers, programmerProgramMemory_refused refused _,
      (List.append_nil _).symm, by decide⟩

/-- The pattern of an instruction on a flash word: an opcode, eight address bits and the bits of the
byte.
-/
def wordPattern (opcode : List PatternSymbol) (byte : PatternSymbol) : List UInt8 :=
  patternText
    (opcode ++ List.replicate 8 .zero
      ++ [0x37, 0x36, 0x35, 0x34, 0x33, 0x32, 0x31, 0x30].map (fun digit => .address [digit])
      ++ List.replicate 8 byte)

def wordBlock (pattern : List UInt8) : Block := ⟨0, Cells.store (fun _ => 0) 0 pattern⟩

def loadLoPattern : List UInt8 :=
  wordPattern [.zero, .one, .zero, .zero, .zero, .zero, .zero, .zero] .input
def loadHiPattern : List UInt8 :=
  wordPattern [.zero, .one, .zero, .zero, .one, .zero, .zero, .zero] .input
def readLoPattern : List UInt8 :=
  wordPattern [.zero, .zero, .one, .zero, .zero, .zero, .zero, .zero] (.other 0x6F)
def readHiPattern : List UInt8 :=
  wordPattern [.zero, .zero, .one, .zero, .one, .zero, .zero, .zero] (.other 0x6F)

/-- The description of a target with 256 words of flash. -/
def flashMcuInfo : AvrMcuInfo where
  flashLoadHiLen := loadHiPattern.length.toUInt8
  flashLoadHiPattern := wordBlock loadHiPattern
  flashLoadLoLen := loadLoPattern.length.toUInt8
  flashLoadLoPattern := wordBlock loadLoPattern
  flashReadLoLen := readLoPattern.length.toUInt8
  flashReadLoPattern := wordBlock readLoPattern
  flashReadHiLen := readHiPattern.length.toUInt8
  flashReadHiPattern := wordBlock readHiPattern
  flashWaitMs := 5
  eepromWriteLen := 0
  eepromWritePattern := wordBlock []
  eepromReadLen := 0
  eepromReadPattern := wordBlock []
  eepromWaitMs := 4
  pgmEnable := Vector.replicate avrCmdSize 0xAC

/-- A rig with its description installed. -/
def flashRig : Rig :=
  { Rig.boot (fun _ => echoAnswer) (.boot fun _ _ => 0) ⟨fun _ => 0, 0⟩ with
    mcuInfo := some ⟨0, flashMcuInfo⟩ }

theorem flashRig_installed : flashRig.mcuInfo = some ⟨0, flashMcuInfo⟩ := rfl

/-- Two words for the addresses from 3 on. -/
def twoWords : AvrProgMemData := ⟨3, .memoryFlash, 4, wordBlock [0x12, 0x34, 0x56, 0x78]⟩

/-- Programming them follows the answers of a target that never echoes. -/
theorem programmerProgramMemory_followsAnswers_twoWords
    : FollowsAnswers twoWords flashRig flashMcuInfo (fun _ => Vector.replicate avrCmdSize 0xFF) :=
  programmerProgramMemory_followsAnswers twoWords (by decide) flashRig ⟨0, flashMcuInfo⟩
    flashRig_installed _

/-- The commands that load them. -/
example
    : (twoWords.commands flashMcuInfo).map Vector.toList
      = [[0x40, 0, 3, 0x12], [0x48, 0, 3, 0x34], [0x40, 0, 4, 0x56], [0x48, 0, 4, 0x78]] := by
  decide +kernel

end BigBlackHardware
