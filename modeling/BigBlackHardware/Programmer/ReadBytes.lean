import BigBlackHardware.Programmer.CommandTrace

/-! Reading as one loop over a list of commands: the byte of each answer is stored behind the one
before, at an index that wraps, up to the first command that is not echoed.
-/

namespace BigBlackHardware

open Library

/-- The commands of so many rounds of a flash read: a high and a low byte at each address. -/
def flashReadCommands (info : AvrMcuInfo) : Nat → UInt32 → List AvrCommand
  | 0, _ => []
  | rounds + 1, address =>
      createMemoryCmd info.flashReadHiPattern.bytes info.flashReadHiLen address 0
      :: createMemoryCmd info.flashReadLoPattern.bytes info.flashReadLoLen address 0
      :: flashReadCommands info rounds (address + 1)

/-- Two commands a round. -/
theorem flashReadCommands_length (info : AvrMcuInfo) (rounds : Nat) (address : UInt32)
    : (flashReadCommands info rounds address).length = 2 * rounds := by
  induction rounds generalizing address with
  | zero => rfl
  | succ rounds ih =>
      simp only [flashReadCommands, List.length_cons, ih]
      omega

/-- The commands that read so many bytes of EEPROM. -/
def eepromReadCommands (info : AvrMcuInfo) : Nat → UInt32 → List AvrCommand
  | 0, _ => []
  | count + 1, address =>
      createMemoryCmd info.eepromReadPattern.bytes info.eepromReadLen address 0
      :: eepromReadCommands info count (address + 1)

/-- The commands of a read. -/
def readCommands (info : AvrMcuInfo) (memData : AvrReadMemData) : List AvrCommand :=
  match memData.memT with
  | .memoryFlash =>
      flashReadCommands info ((memData.bytesToRead.toNat + 1) / 2) memData.startAddress
  | .memoryEeprom => eepromReadCommands info memData.bytesToRead.toNat memData.startAddress
  | .memoryErr => []

/-- The target echoes each of the commands when they are sent one after the other. -/
def Passes (target : List RigEvent → AvrCommand → AvrCommand) (spiEnabled : Bool)
    : List AvrCommand → List RigEvent → Prop
  | [], _ => True
  | cmd :: cmds, log =>
      checkCmdStatus cmd (target log cmd) = 0
      ∧ Passes target spiEnabled cmds (log ++ [.transfer spiEnabled cmd (target log cmd)])

/-- The rig's target echoes the commands that follow. -/
abbrev Rig.PassesAll (rig : Rig) (cmds : List AvrCommand) : Prop :=
  Passes rig.target rig.spiEnabled cmds rig.log

/-- The status of a command is 0 or -1. -/
theorem checkCmdStatus_neg_iff (cmd answer : AvrCommand)
    : checkCmdStatus cmd answer < 0 ↔ checkCmdStatus cmd answer ≠ 0 := by
  rw [checkCmdStatus]
  split <;> decide

/-- Sends read commands one after the other, up to the first that is not echoed, and stores the
bytes of the answers at an index that wraps at `size`: what the two reading loops do.
-/
def readBytes (size : Nat) : List AvrCommand → Nat → Cells UInt8 → RigM (Int × Cells UInt8)
  | [], _, buf => return (0, buf)
  | cmd :: cmds, k, buf => do
      let (status, buf) ← readByte cmd buf (k % size)
      if status < 0 then return (status, buf) else readBytes size cmds (k + 1) buf

/-- The values of the index of a reading loop: 8 bits for flash, 16 bits for EEPROM. -/
def AvrReadMemData.indexSize (memData : AvrReadMemData) : Nat :=
  match memData.memT with
  | .memoryFlash => UInt8.size
  | .memoryEeprom => UInt16.size
  | .memoryErr => 1

theorem lastByte_inside : avrCmdSize - 1 < avrCmdSize := by decide

/-- The byte that an answer carries. -/
def lastByte (answers : Nat → AvrCommand) (m : Nat) : UInt8 :=
  (answers m).get ⟨avrCmdSize - 1, lastByte_inside⟩

/-- The byte that an answer to a read command carries. -/
def dataByte (answer : AvrCommand) : UInt8 := answer.get ⟨avrCmdSize - 1, lastByte_inside⟩

/-- What reading the bytes of these commands stores: the index and the byte, one store for each
command that is echoed, up to the first that is not.
-/
def readStores (size : Nat) : List AvrCommand → Nat → Rig → List (Nat × UInt8)
  | [], _, _ => []
  | cmd :: cmds, k, rig =>
      let answer := rig.target rig.log cmd
      if checkCmdStatus cmd answer < 0 then []
      else (k % size, dataByte answer) :: readStores size cmds (k + 1) (rig.transferred cmd)

/-- The answers to these commands, when they are sent one after the other, carry these bytes. -/
def Rig.Carries (value : Nat → UInt8) : List AvrCommand → Nat → Rig → Prop
  | [], _, _ => True
  | cmd :: cmds, k, rig =>
      dataByte (rig.target rig.log cmd) = value k
      ∧ Rig.Carries value cmds (k + 1) (rig.transferred cmd)

-----------------------------------------------------------------------------------------
-- The loops
-----------------------------------------------------------------------------------------

/-- A read command that is echoed stores the byte of its answer, any other nothing. -/
theorem readByte_run (cmd : AvrCommand) (buf : Cells UInt8) (offset : Nat) (rig : Rig)
    : let answer := rig.target rig.log cmd
      readByte cmd buf offset rig
      = .ok
          (checkCmdStatus cmd answer,
            if checkCmdStatus cmd answer < 0 then buf else buf.store offset [dataByte answer])
          (rig.transferred cmd) := by
  intro answer
  have sent : programmerWriteRawCmd cmd rig
      = .ok (checkCmdStatus cmd answer, answer) (rig.transferred cmd) := rfl
  rw [readByte, bind_ok sent]
  dsimp only
  split
  · rfl
  · rfl

/-- The EEPROM loop reads the bytes of its commands, by induction on the bytes to go. -/
theorem readEepromLoop_readBytes (info : AvrMcuInfo) (count : Nat) (address : UInt32) (k : Nat)
    (buf : Cells UInt8)
    : readEepromLoop info.eepromReadPattern.bytes info.eepromReadLen count address (.ofNat k) buf
      = readBytes UInt16.size (eepromReadCommands info count address) k buf := by
  induction count generalizing address k buf with
  | zero => rfl
  | succ count ih =>
      have index : (UInt16.ofNat k).toNat = k % UInt16.size := UInt16.toNat_ofNat'
      have next : UInt16.ofNat k + 1 = .ofNat (k + 1) := (UInt16.ofNat_add k 1).symm
      rw [readEepromLoop, eepromReadCommands, readBytes, index]
      simp only [next, ih]

/-- The flash loop reads the bytes of its commands, by induction on the rounds to go. -/
theorem readFlashLoop_readBytes {rig : Rig} {block : McuInfoBlock}
    (installed : rig.mcuInfo = some block) (rounds : Nat) (address : UInt32) (k : Nat)
    (buf : Cells UInt8)
    : readFlashLoop rounds address (.ofNat k) buf rig
      = readBytes UInt8.size (flashReadCommands block.info rounds address) k buf rig := by
  induction rounds generalizing rig address k buf with
  | zero => rfl
  | succ rounds ih =>
      have index (k : Nat) : (UInt8.ofNat k).toNat = k % UInt8.size := UInt8.toNat_ofNat'
      have second : UInt8.ofNat k + 1 = .ofNat (k + 1) := (UInt8.ofNat_add k 1).symm
      have next : UInt8.ofNat k + 2 = .ofNat (k + 1 + 1) := (UInt8.ofNat_add k 2).symm
      rw [readFlashLoop, bind_ok (readMcuInfo_installed installed), flashReadCommands, readBytes,
        index, second, next]
      let high :=
        createMemoryCmd block.info.flashReadHiPattern.bytes block.info.flashReadHiLen address 0
      let low :=
        createMemoryCmd block.info.flashReadLoPattern.bytes block.info.flashReadLoLen address 0
      have readsHigh := readByte_run high buf (k % UInt8.size) rig
      rw [bind_ok readsHigh, bind_ok readsHigh]
      dsimp only
      split
      · rfl
      · have still : (rig.transferred high).mcuInfo = some block := installed
        have readsLow := readByte_run low
          (buf.store (k % UInt8.size) [dataByte (rig.target rig.log high)]) ((k + 1) % UInt8.size)
          (rig.transferred high)
        rw [bind_ok (readMcuInfo_installed still), readBytes, index, bind_ok readsLow,
          bind_ok readsLow]
        dsimp only
        split
        · rfl
        · have again : ((rig.transferred high).transferred low).mcuInfo = some block := installed
          exact ih again (address + 1) (k + 1 + 1) _

/-- Reading a known memory comes to reading the bytes of the commands of the request. -/
theorem programmerReadMemory_readBytes {memData : AvrReadMemData}
    (known : memData.memT ≠ .memoryErr) {rig : Rig} {block : McuInfoBlock}
    (installed : rig.mcuInfo = some block) (buf : Cells UInt8)
    : programmerReadMemory memData buf rig
      = (do
          let (status, buf) ←
            readBytes memData.indexSize (readCommands block.info memData) 0 buf
          if status < 0 then return (status, buf)
          else return (toI16 memData.bytesToRead.toNat, buf) : RigM (Int × Cells UInt8)) rig := by
  unfold programmerReadMemory AvrReadMemData.indexSize readCommands
  cases memory : memData.memT with
  | memoryErr => exact absurd memory known
  | memoryFlash =>
      have loop := readFlashLoop_readBytes installed ((memData.bytesToRead.toNat + 1) / 2)
        memData.startAddress 0 buf
      dsimp only
      rw [readFlashMemory]
      exact bind_congr_first _ loop
  | memoryEeprom =>
      have loop := readEepromLoop_readBytes block.info memData.bytesToRead.toNat
        memData.startAddress 0 buf
      dsimp only
      rw [readEepromMemory, bind_ok (readMcuInfo_installed installed), ← loop]
      rfl

-----------------------------------------------------------------------------------------
-- Stores
-----------------------------------------------------------------------------------------

/-- A command that fails has status -1. -/
theorem checkCmdStatus_of_neg {cmd answer : AvrCommand} (failed : checkCmdStatus cmd answer < 0)
    : checkCmdStatus cmd answer = -1 := by
  rw [checkCmdStatus] at failed ⊢
  split
  · rename_i echoed
    rw [if_pos echoed] at failed
    exact absurd failed (Int.lt_irrefl 0)
  · rfl

/-- Reading the bytes of commands makes the stores, sends the commands up to the first that is not
echoed, and succeeds if it stored a byte for each, by induction on them.
-/
theorem readBytes_run (size : Nat) (cmds : List AvrCommand) (k : Nat) (buf : Cells UInt8)
    (rig : Rig)
    : ∃ after,
        readBytes size cmds k buf rig
          = .ok
              (if (readStores size cmds k rig).length = cmds.length then 0 else -1,
                buf.storeEach (readStores size cmds k rig))
              after
        ∧ Sends rig (cmds.take ((readStores size cmds k rig).length + 1)) after := by
  induction cmds generalizing k buf rig with
  | nil => exact ⟨rig, rfl, .refl rig⟩
  | cons cmd cmds ih =>
      have sent := Sends.transferred rig cmd
      rw [readBytes, bind_ok (readByte_run cmd buf (k % size) rig), readStores]
      dsimp only
      by_cases fails : checkCmdStatus cmd (rig.target rig.log cmd) < 0
      · have status := checkCmdStatus_of_neg fails
        simp only [if_pos fails]
        refine ⟨_, ?_, sent⟩
        rw [status]
        rfl
      · obtain ⟨after, rest, sends⟩ := ih (k + 1)
          (buf.store (k % size) [dataByte (rig.target rig.log cmd)]) (rig.transferred cmd)
        simp only [if_neg fails, List.length_cons, Nat.add_right_cancel_iff]
        exact ⟨after, rest, sent.trans sends⟩

/-- The stores go to one index behind the other, by induction on the commands. -/
theorem readStores_indices (size : Nat) (cmds : List AvrCommand) (k : Nat) (rig : Rig)
    : (readStores size cmds k rig).map Prod.fst
      = (List.range' k (readStores size cmds k rig).length).map (· % size) := by
  induction cmds generalizing k rig with
  | nil => rfl
  | cons cmd cmds ih =>
      rw [readStores]
      split
      · rfl
      · rw [List.map_cons, ih, List.length_cons, List.range'_succ, List.map_cons]

/-- There are so many stores exactly if the target echoes so many commands, by induction on them. -/
theorem le_readStores_iff (size : Nat) {cmds : List AvrCommand} (k : Nat) (rig : Rig) {m : Nat}
    (inside : m ≤ cmds.length)
    : m ≤ (readStores size cmds k rig).length ↔ rig.PassesAll (cmds.take m) := by
  induction cmds generalizing k rig m with
  | nil =>
      obtain rfl := Nat.le_zero.mp inside
      exact iff_of_true (Nat.zero_le _) trivial
  | cons cmd cmds ih =>
      cases m with
      | zero => exact iff_of_true (Nat.zero_le _) trivial
      | succ m =>
          rw [readStores]
          by_cases fails : checkCmdStatus cmd (rig.target rig.log cmd) < 0
          · rw [if_pos fails]
            refine iff_of_false (Nat.not_succ_le_zero m) fun passes => ?_
            exact (checkCmdStatus_neg_iff _ _).mp fails passes.1
          · have echoed := not_not.mp (mt (checkCmdStatus_neg_iff _ _).mpr fails)
            have rest := ih (k + 1) (rig.transferred cmd) (Nat.le_of_succ_le_succ inside)
            rw [if_neg fails, List.length_cons, Nat.add_le_add_iff_right, rest]
            exact (and_iff_right echoed).symm

/-- The stored bytes are those that the answers carry, by induction on the commands. -/
theorem readStores_carries {value : Nat → UInt8} (size : Nat) {cmds : List AvrCommand} {k : Nat}
    {rig : Rig} (carries : rig.Carries value cmds k)
    : readStores size cmds k rig
      = (List.range' k (readStores size cmds k rig).length).map
          fun i => (i % size, value i) := by
  induction cmds generalizing k rig with
  | nil => rfl
  | cons cmd cmds ih =>
      obtain ⟨byte, rest⟩ := carries
      have stores := ih rest
      rw [readStores]
      split
      · rfl
      · rw [List.length_cons, List.range'_succ, List.map_cons, byte, ← stores]

/-- There are not more stores than commands, by induction on them. -/
theorem readStores_length_le (size : Nat) (cmds : List AvrCommand) (k : Nat) (rig : Rig)
    : (readStores size cmds k rig).length ≤ cmds.length := by
  induction cmds generalizing k rig with
  | nil => exact Nat.le_refl 0
  | cons cmd cmds ih =>
      rw [readStores]
      split
      · exact Nat.zero_le _
      · exact Nat.succ_le_succ (ih (k + 1) (rig.transferred cmd))

-----------------------------------------------------------------------------------------
-- Requests
-----------------------------------------------------------------------------------------

/-- What a read of a request stores. -/
def memoryStores (memData : AvrReadMemData) (info : AvrMcuInfo) (rig : Rig)
    : List (Nat × UInt8) :=
  readStores memData.indexSize (readCommands info memData) 0 rig

/-- There is a store for each command exactly if the target echoes them all. -/
theorem memoryStores_all_iff (memData : AvrReadMemData) (info : AvrMcuInfo) (rig : Rig)
    : (memoryStores memData info rig).length = (readCommands info memData).length
      ↔ rig.PassesAll (readCommands info memData) := by
  have enough := le_readStores_iff memData.indexSize 0 rig
    (Nat.le_refl (readCommands info memData).length)
  have most := readStores_length_le memData.indexSize (readCommands info memData) 0 rig
  rw [List.take_length] at enough
  rw [← enough]
  exact ⟨Nat.le_of_eq ∘ Eq.symm, Nat.le_antisymm most⟩

/-- A read whose answers carry these bytes stores them, one behind the other. -/
theorem memoryStores_carries {value : Nat → UInt8} {memData : AvrReadMemData} {info : AvrMcuInfo}
    {rig : Rig} (carries : rig.Carries value (readCommands info memData) 0)
    : memoryStores memData info rig
      = (List.range (memoryStores memData info rig).length).map
          fun i => (i % memData.indexSize, value i) := by
  have stores := readStores_carries memData.indexSize carries
  rwa [← List.range_eq_range'] at stores

/-- A read of a known memory makes its stores and returns the count as a 16-bit status, or -1 if the
target did not echo every command.
-/
theorem programmerReadMemory_run {memData : AvrReadMemData} (known : memData.memT ≠ .memoryErr)
    {rig : Rig} {block : McuInfoBlock} (installed : rig.mcuInfo = some block)
    (buf : Cells UInt8)
    : let stores := memoryStores memData block.info rig
      let cmds := readCommands block.info memData
      ∃ after,
        programmerReadMemory memData buf rig
          = .ok
              (if stores.length = cmds.length then toI16 memData.bytesToRead.toNat else -1,
                buf.storeEach stores)
              after
        ∧ Sends rig (cmds.take (stores.length + 1)) after := by
  intro stores cmds
  obtain ⟨after, run, sends⟩ := readBytes_run memData.indexSize cmds 0 buf rig
  refine ⟨after, ?_, sends⟩
  rw [programmerReadMemory_readBytes known installed]
  change _ = EStateM.Result.ok (if stores.length = cmds.length then 0 else -1, _) after at run
  by_cases all : stores.length = cmds.length
  · rw [if_pos all] at run
    rw [bind_ok run, if_pos all]
    rfl
  · rw [if_neg all] at run
    rw [bind_ok run, if_neg all]
    rfl

section Answers

variable {answers : Nat → AvrCommand} {base n : Nat} {rig : Rig}

/-- The answers that come next carry their bytes, by induction on the commands. -/
theorem AnswersNext.carries (next : AnswersNext answers base n rig) (cmds : List AvrCommand)
    : rig.Carries (lastByte answers) cmds n := by
  induction cmds generalizing n rig with
  | nil => trivial
  | cons cmd cmds ih =>
      have sent := Sends.transferred rig cmd
      exact ⟨congrArg dataByte (next.answer cmd), ih (sent.answersNext next)⟩

/-- The target echoes the commands if their answers pass, by induction on them. -/
theorem AnswersNext.passesAll_iff (next : AnswersNext answers base n rig)
    (cmds : List AvrCommand)
    : rig.PassesAll cmds
      ↔ ∀ m cmd, cmds[m]? = some cmd → AnswerPasses cmd (answers (n + m)) := by
  induction cmds generalizing n rig with
  | nil => simp [Passes]
  | cons first cmds ih =>
      have sent := Sends.transferred rig first
      have rest := ih (sent.answersNext next)
      have shift (m : Nat) : n + 1 + m = n + (m + 1) := by omega
      simp only [List.length_singleton, shift] at rest
      have passes : checkCmdStatus first (rig.target rig.log first) = 0
          ↔ AnswerPasses first (answers n) := by
        rw [next.answer, AnswerPasses, ← Int.not_lt, checkCmdStatus_neg_iff, not_not]
      constructor
      · rintro ⟨here, later⟩ m cmd found
        cases m with
        | zero =>
            obtain rfl := Option.some.inj found
            exact passes.mp here
        | succ m => exact rest.mp later m cmd found
      · intro all
        exact ⟨passes.mpr (all 0 first rfl), rest.mpr fun m cmd found => all (m + 1) cmd found⟩

end Answers

end BigBlackHardware
