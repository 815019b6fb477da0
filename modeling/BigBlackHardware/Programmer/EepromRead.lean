import BigBlackHardware.Programmer.ReadBytes

/-! Reading EEPROM: what is sent, stored and returned for any answers, and when the bytes of the
target's memory come back.
-/

namespace BigBlackHardware

open Library

/-- The command that reads the EEPROM byte at an address. -/
def AvrMcuInfo.eepromReadCommand (info : AvrMcuInfo) (address : UInt32) : AvrCommand :=
  createMemoryCmd info.eepromReadPattern.bytes info.eepromReadLen address 0

/-- The commands that read so many bytes from the start address on. -/
def AvrReadMemData.eepromCommands (memData : AvrReadMemData) (info : AvrMcuInfo) (count : Nat)
    : List AvrCommand :=
  (List.range count).map fun i => info.eepromReadCommand (memData.startAddress + .ofNat i)

/-- A read returns a status with a property, these are the commands sent, and the bytes of so many
answers are all that is stored.
-/
def ReadsBytes (memData : AvrReadMemData) (rig : Rig) (answers : Nat → AvrCommand)
    (buf : Cells UInt8) (sent : List AvrCommand) (count : Nat) (returned : Int → Prop) : Prop :=
  ∃ status stored after,
    programmerReadMemory memData buf (rig.answering answers) = .ok (status, stored) after
    ∧ sentCommands after.log = sentCommands rig.log ++ sent
    ∧ (∀ i, stored i = if i < count then lastByte answers i else buf i)
    ∧ returned status

/-- An EEPROM read follows the answers: it returns its count with the bytes of all answers if every
one passes, and stops behind the first that does not.
-/
structure ReadFollowsAnswers (memData : AvrReadMemData) (rig : Rig) (info : AvrMcuInfo)
    (answers : Nat → AvrCommand) (buf : Cells UInt8) : Prop where
  passed
    : (∀ i < memData.bytesToRead.toNat,
        AnswerPasses (info.eepromReadCommand (memData.startAddress + .ofNat i)) (answers i)) →
      ReadsBytes memData rig answers buf (memData.eepromCommands info memData.bytesToRead.toNat)
        memData.bytesToRead.toNat (· = memData.bytesToRead.toNat)
  failed
    : ∀ m < memData.bytesToRead.toNat,
        ¬ AnswerPasses (info.eepromReadCommand (memData.startAddress + .ofNat m)) (answers m) →
        (∀ i < m,
          AnswerPasses (info.eepromReadCommand (memData.startAddress + .ofNat i)) (answers i)) →
        ReadsBytes memData rig answers buf (memData.eepromCommands info (m + 1)) m (· < 0)

/-- The commands of the loop, address by address, by induction on the bytes to go. -/
theorem eepromReadCommands_eq (info : AvrMcuInfo) (count : Nat) (address : UInt32)
    : eepromReadCommands info count address
      = (List.range count).map fun i => info.eepromReadCommand (address + .ofNat i) := by
  induction count generalizing address with
  | zero => rfl
  | succ count ih =>
      rw [eepromReadCommands, ih, List.range_succ_eq_map, List.map_cons, List.map_map]
      simp only [Function.comp_def, address_succ, AvrMcuInfo.eepromReadCommand]
      simp

section Commands

variable (memData : AvrReadMemData) (info : AvrMcuInfo)

theorem AvrReadMemData.eepromCommands_length (count : Nat)
    : (memData.eepromCommands info count).length = count := by
  rw [AvrReadMemData.eepromCommands, List.length_map, List.length_range]

theorem AvrReadMemData.eepromCommands_get {count i : Nat} {cmd : AvrCommand}
    : (memData.eepromCommands info count)[i]? = some cmd
      ↔ i < count ∧ info.eepromReadCommand (memData.startAddress + .ofNat i) = cmd := by
  simp [AvrReadMemData.eepromCommands, Option.map_eq_some_iff, List.getElem?_eq_some_iff]

theorem AvrReadMemData.eepromCommands_take {m count : Nat} (inside : m ≤ count)
    : (memData.eepromCommands info count).take m = memData.eepromCommands info m := by
  rw [AvrReadMemData.eepromCommands, ← List.map_take, List.take_range, Nat.min_eq_left inside]
  rfl

end Commands

section Reading

variable {memData : AvrReadMemData} (eeprom : memData.memT = .memoryEeprom)

include eeprom

/-- The commands of an EEPROM read. -/
theorem readCommands_eeprom (info : AvrMcuInfo)
    : readCommands info memData = memData.eepromCommands info memData.bytesToRead.toNat := by
  rw [readCommands, eeprom]
  exact eepromReadCommands_eq info memData.bytesToRead.toNat memData.startAddress

/-- There are not more stores than bytes to read. -/
theorem memoryStores_length_le (info : AvrMcuInfo) (rig : Rig)
    : (memoryStores memData info rig).length ≤ memData.bytesToRead.toNat := by
  have short : (memoryStores memData info rig).length ≤ (readCommands info memData).length :=
    readStores_length_le memData.indexSize _ 0 rig
  rwa [readCommands_eeprom eeprom info, AvrReadMemData.eepromCommands_length] at short

/-- There is a store for each byte to read if the target echoes all commands. -/
theorem memoryStores_passesAll (info : AvrMcuInfo) (rig : Rig)
    : (memoryStores memData info rig).length = memData.bytesToRead.toNat
      ↔ rig.PassesAll (memData.eepromCommands info memData.bytesToRead.toNat) := by
  have all := memoryStores_all_iff memData info rig
  rwa [readCommands_eeprom eeprom info, AvrReadMemData.eepromCommands_length] at all

/-- There are at least so many stores if so many answers pass. -/
theorem memoryStores_answering (info : AvrMcuInfo) (rig : Rig) {answers : Nat → AvrCommand}
    {m : Nat} (inside : m ≤ memData.bytesToRead.toNat)
    : m ≤ (memoryStores memData info (rig.answering answers)).length
      ↔ ∀ i < m,
          AnswerPasses (info.eepromReadCommand (memData.startAddress + .ofNat i)) (answers i) := by
  have cmds := readCommands_eeprom eeprom info
  have long : m ≤ (readCommands info memData).length := by
    rwa [cmds, AvrReadMemData.eepromCommands_length]
  rw [memoryStores, le_readStores_iff _ _ _ long, cmds,
    AvrReadMemData.eepromCommands_take _ _ inside,
    (answering_next rig answers).passesAll_iff]
  simp only [AvrReadMemData.eepromCommands_get, Nat.zero_add]
  constructor
  · exact fun all i before => all i _ ⟨before, rfl⟩
  · rintro all i cmd ⟨before, rfl⟩
    exact all i before

variable (limit : memData.bytesToRead.toNat ≤ 1024) {rig : Rig} {block : McuInfoBlock}
  (installed : rig.mcuInfo = some block)

include limit installed

/-- A read of at most 1024 bytes stores the bytes of the commands that are echoed, one behind the
other, and returns the count if that is all of them.
-/
theorem programmerReadMemory_eeprom {value : Nat → UInt8}
    (carries
      : rig.Carries value (memData.eepromCommands block.info memData.bytesToRead.toNat) 0)
    (buf : Cells UInt8)
    : let count := (memoryStores memData block.info rig).length
      ∃ stored after,
        programmerReadMemory memData buf rig
          = .ok
              (if count = memData.bytesToRead.toNat then (memData.bytesToRead.toNat : Int) else -1,
                stored)
              after
        ∧ (∀ i, stored i = if i < count then value i else buf i)
        ∧ Sends rig (memData.eepromCommands block.info (min (count + 1) memData.bytesToRead.toNat))
            after := by
  intro count
  have known : memData.memT ≠ .memoryErr := by rw [eeprom]; decide
  have cmds := readCommands_eeprom eeprom block.info
  obtain ⟨after, run, sends⟩ := programmerReadMemory_run known installed buf
  have size : memData.indexSize = UInt16.size := by rw [AvrReadMemData.indexSize, eeprom]
  have inside : count ≤ memData.bytesToRead.toNat := memoryStores_length_le eeprom block.info rig
  have stores
      : memoryStores memData block.info rig
        = (List.range count).map fun i => (i % UInt16.size, value i) := by
    rw [← size]
    exact memoryStores_carries (by rwa [cmds])
  have first : count ≤ UInt16.size := by
    have size : UInt16.size = 65536 := rfl
    omega
  rw [cmds, AvrReadMemData.eepromCommands_length, toI16_of_lt (by omega)] at run
  rw [cmds, List.take_eq_take_min, AvrReadMemData.eepromCommands_length,
    AvrReadMemData.eepromCommands_take _ _ (Nat.min_le_right _ _)] at sends
  refine ⟨_, after, run, fun i => ?_, sends⟩
  rw [stores, Cells.storeEach_range]
  by_cases before : i < count
  · have place : i % UInt16.size = i := Nat.mod_eq_of_lt (Nat.lt_of_lt_of_le before first)
    have latest : buf.wrapped UInt16.size value count (i % UInt16.size) = value i :=
      buf.wrapped_latest value before (by omega)
    rw [place] at latest
    rw [if_pos before, latest]
  · rw [if_neg before, buf.wrapped_ahead value first (Nat.not_lt.mp before)]

/-- An EEPROM read follows the answers. Witness: the loop is a read of the bytes of a list of
commands, and the answers are used up one by one.
-/
theorem programmerReadMemory_followsAnswers (answers : Nat → AvrCommand) (buf : Cells UInt8)
    : ReadFollowsAnswers memData rig block.info answers buf := by
  have installed' : (rig.answering answers).mcuInfo = some block := installed
  have carries := (answering_next rig answers).carries
    (memData.eepromCommands block.info memData.bytesToRead.toNat)
  obtain ⟨stored, after, run, cells, sends⟩ :=
    programmerReadMemory_eeprom eeprom limit installed' carries buf
  have most := memoryStores_length_le eeprom block.info (rig.answering answers)
  constructor
  · intro passed
    have all := (memoryStores_answering eeprom block.info rig (Nat.le_refl _)).mpr passed
    have count := Nat.le_antisymm most all
    rw [if_pos count] at run
    rw [count, Nat.min_eq_right (Nat.le_succ _)] at sends
    rw [count] at cells
    exact ⟨_, stored, after, run, sends.commands, cells, rfl⟩
  · intro m inside fails before
    have some := (memoryStores_answering eeprom block.info rig (Nat.le_of_lt inside)).mpr before
    have notMore := mt (memoryStores_answering eeprom block.info rig inside).mp
      fun all => fails (all m (Nat.lt_succ_self m))
    have count := Nat.le_antisymm (Nat.not_lt.mp notMore) some
    rw [count] at run cells sends
    rw [if_neg (Nat.ne_of_lt inside)] at run
    rw [Nat.min_eq_left inside] at sends
    exact ⟨_, stored, after, run, sends.commands, cells, by decide⟩

end Reading

/-- The EEPROM of a target: the read instruction with eight address bits. -/
def eepromMcuInfo : AvrMcuInfo :=
  let pattern := wordPattern [.one, .zero, .one, .zero, .zero, .zero, .zero, .zero] (.other 0x6F)
  { flashMcuInfo with
    eepromReadLen := pattern.length.toUInt8
    eepromReadPattern := wordBlock pattern }

/-- A rig with its description installed, and a target that answers to each command with the command
one place later and, in the last place, with `byte`.
-/
def eepromRig (byte : UInt8) : Rig :=
  { Rig.boot (fun _ cmd => (echoAnswer cmd).setIfInBounds 3 byte) (.boot fun _ _ => 0)
      ⟨fun _ => 0, 0⟩ with
    mcuInfo := some ⟨0, eepromMcuInfo⟩ }

theorem eepromRig_installed (byte : UInt8)
    : (eepromRig byte).mcuInfo = some ⟨0, eepromMcuInfo⟩ := rfl

/-- A read of two bytes from the address 7 on. -/
def twoBytes : AvrReadMemData := ⟨7, 2, .memoryEeprom⟩

/-- It follows the answers of a target that never echoes. -/
theorem programmerReadMemory_followsAnswers_twoBytes
    : ReadFollowsAnswers twoBytes (eepromRig 0) eepromMcuInfo
        (fun _ => Vector.replicate avrCmdSize 0xFF) (fun _ => 0) :=
  programmerReadMemory_followsAnswers (show twoBytes.memT = .memoryEeprom from rfl) (by decide)
    (eepromRig_installed 0) _ _

-----------------------------------------------------------------------------------------
-- Memory
-----------------------------------------------------------------------------------------

/-- The target answers each command with the first two bytes of it one place later, and a read
command with the byte at its address in the last place.
-/
structure Rig.Serves (rig : Rig) (info : AvrMcuInfo) (memory : UInt32 → UInt8) : Prop where
  first : ∀ log cmd, (rig.target log cmd)[1]? = cmd[0]?
  second : ∀ log cmd, (rig.target log cmd)[2]? = cmd[1]?
  data
    : ∀ log address,
        dataByte (rig.target log (info.eepromReadCommand address)) = memory address

/-- A read succeeds and gives the bytes of the memory. -/
def ReadsMemory (memData : AvrReadMemData) (rig : Rig) (memory : UInt32 → UInt8)
    (buf : Cells UInt8) : Prop :=
  ∃ status stored after,
    programmerReadMemory memData buf rig = .ok (status, stored) after
    ∧ 0 ≤ status
    ∧ ∀ i < memData.bytesToRead.toNat, stored i = memory (memData.startAddress + .ofNat i)

theorem thirdByte_inside : 2 < avrCmdSize := by decide

/-- The third byte of a command. -/
def thirdByte (cmd : AvrCommand) : UInt8 := cmd.get ⟨2, thirdByte_inside⟩

/-- `check_cmd_status` compares the second, third and fourth byte of the answer. -/
theorem checkCmdStatus_eq_zero_iff (cmd answer : AvrCommand)
    : checkCmdStatus cmd answer = 0
      ↔ answer[1]? = cmd[0]? ∧ answer[2]? = cmd[1]? ∧ dataByte answer = thirdByte cmd := by
  have data : answer[3]? = some (dataByte answer) := Vector.getElem?_eq_getElem lastByte_inside
  have third : cmd[2]? = some (thirdByte cmd) :=
    Vector.getElem?_eq_getElem thirdByte_inside
  have last : answer[3]? = cmd[2]? ↔ dataByte answer = thirdByte cmd := by
    rw [data, third, Option.some_inj]
  rw [← last, checkCmdStatus]
  simp [avrCmdSize, List.range']

section Serving

variable {rig : Rig} {info : AvrMcuInfo} {memory : UInt32 → UInt8}

/-- The answer to a read command passes if its data byte is the third byte of the command. -/
theorem Rig.Serves.passes_iff (serves : rig.Serves info memory) (log : List RigEvent)
    (address : UInt32)
    : checkCmdStatus (info.eepromReadCommand address)
        (rig.target log (info.eepromReadCommand address)) = 0
      ↔ memory address = thirdByte (info.eepromReadCommand address) := by
  rw [checkCmdStatus_eq_zero_iff, serves.data]
  exact (and_iff_right (serves.first log _)).trans (and_iff_right (serves.second log _))

/-- The answers carry the bytes if they do whatever was done before, by induction on the commands.
-/
theorem carries_of_data {value : Nat → UInt8} {cmds : List AvrCommand} {k : Nat}
    (data : ∀ i cmd, cmds[i]? = some cmd → ∀ log, dataByte (rig.target log cmd) = value (k + i))
    : rig.Carries value cmds k := by
  induction cmds generalizing k rig with
  | nil => trivial
  | cons cmd cmds ih =>
      refine ⟨data 0 cmd rfl rig.log, ih fun i cmd found => ?_⟩
      have byte := data (i + 1) cmd found
      rwa [Nat.add_comm i 1, ← Nat.add_assoc] at byte

/-- The target echoes all commands if it echoes each whatever was done before, by induction on them.
-/
theorem passesAll_of_status {right : AvrCommand → Prop} {cmds : List AvrCommand}
    (status
      : ∀ cmd ∈ cmds, ∀ log, checkCmdStatus cmd (rig.target log cmd) = 0 ↔ right cmd)
    : rig.PassesAll cmds ↔ ∀ cmd ∈ cmds, right cmd := by
  induction cmds generalizing rig with
  | nil => simp [Passes]
  | cons cmd cmds ih =>
      have here := status cmd List.mem_cons_self rig.log
      have rest : (rig.transferred cmd).PassesAll cmds ↔ ∀ cmd ∈ cmds, right cmd :=
        ih fun other member => status other (List.mem_cons_of_mem _ member)
      rw [List.forall_mem_cons, ← here, ← rest]
      rfl

end Serving

section Memory

variable {memData : AvrReadMemData} (eeprom : memData.memT = .memoryEeprom)
  (limit : memData.bytesToRead.toNat ≤ 1024) {rig : Rig} {block : McuInfoBlock}
  (installed : rig.mcuInfo = some block) {memory : UInt32 → UInt8}
  (serves : rig.Serves block.info memory) (buf : Cells UInt8)

include eeprom limit installed serves

/-- A read gives the bytes of the memory exactly if the target echoes all its commands. -/
theorem readsMemory_iff_passesAll
    : ReadsMemory memData rig memory buf
      ↔ rig.PassesAll (memData.eepromCommands block.info memData.bytesToRead.toNat) := by
  have carries
      : rig.Carries (fun i => memory (memData.startAddress + .ofNat i))
          (memData.eepromCommands block.info memData.bytesToRead.toNat) 0 := by
    refine carries_of_data fun i cmd found log => ?_
    obtain ⟨-, rfl⟩ := (AvrReadMemData.eepromCommands_get _ _).mp found
    rw [Nat.zero_add]
    exact serves.data log _
  obtain ⟨stored, after, run, cells, -⟩ :=
    programmerReadMemory_eeprom eeprom limit installed carries buf
  have all := memoryStores_passesAll eeprom block.info rig
  constructor
  · rintro ⟨status, stored', after', run', succeeds, -⟩
    have same := run.symm.trans run'
    injection same with result
    injection result with status'
    rw [← status'] at succeeds
    refine all.mp ?_
    by_contra fewer
    rw [if_neg fewer] at succeeds
    exact absurd succeeds (by decide)
  · intro passes
    have count := all.mpr passes
    rw [if_pos count] at run
    refine ⟨_, stored, after, run, Int.natCast_nonneg _, fun i inside => ?_⟩
    rw [cells, count, if_pos inside]

/-- An EEPROM read gives the bytes of the memory exactly if each is the third byte of the command
that reads it: `check_cmd_status` takes the data for an echo.
-/
theorem programmerReadMemory_readsMemory_iff
    : ReadsMemory memData rig memory buf
      ↔ ∀ i < memData.bytesToRead.toNat,
          memory (memData.startAddress + .ofNat i)
          = thirdByte (block.info.eepromReadCommand (memData.startAddress + .ofNat i)) := by
  have status
      : ∀ cmd ∈ memData.eepromCommands block.info memData.bytesToRead.toNat,
          ∀ log,
            checkCmdStatus cmd (rig.target log cmd) = 0
            ↔ dataByte (rig.target [] cmd) = thirdByte cmd := by
    intro cmd member log
    obtain ⟨i, -, rfl⟩ := List.mem_map.mp member
    rw [serves.passes_iff, serves.data]
  rw [readsMemory_iff_passesAll eeprom limit installed serves, passesAll_of_status status]
  simp only [AvrReadMemData.eepromCommands, List.forall_mem_map, List.mem_range, serves.data]

end Memory

/-- The target of the rig has the byte in every cell of its memory. -/
theorem eepromRig_serves (byte : UInt8)
    : (eepromRig byte).Serves eepromMcuInfo (fun _ => byte) where
  first _ cmd := by
    rw [← echoAnswer_getElem? cmd (show 0 < avrCmdSize - 1 by decide)]
    exact Vector.getElem?_setIfInBounds_ne (by decide)
  second _ cmd := by
    rw [← echoAnswer_getElem? cmd (show 1 < avrCmdSize - 1 by decide)]
    exact Vector.getElem?_setIfInBounds_ne (by decide)
  data _ _ := Vector.getElem_setIfInBounds_self lastByte_inside

/-- A read of the byte at the address 7. -/
def oneByte : AvrReadMemData := ⟨7, 1, .memoryEeprom⟩

/-- It succeeds if the byte is the address. -/
theorem programmerReadMemory_readsMemory_address
    : ReadsMemory oneByte (eepromRig 7) (fun _ => 7) (fun _ => 0) :=
  (programmerReadMemory_readsMemory_iff (show oneByte.memT = .memoryEeprom from rfl) (by decide)
    (eepromRig_installed 7) (eepromRig_serves 7) _).mpr (by decide +kernel)

/-- An erased byte cannot be read. -/
theorem erasedByte_unreadable
    : (eepromRig 0xFF).Serves eepromMcuInfo (fun _ => 0xFF)
      ∧ ¬ ReadsMemory oneByte (eepromRig 0xFF) (fun _ => 0xFF) (fun _ => 0) := by
  have serves := eepromRig_serves 0xFF
  refine ⟨serves, fun reads => ?_⟩
  have passes := (readsMemory_iff_passesAll (show oneByte.memT = .memoryEeprom from rfl)
    (by decide) (eepromRig_installed 0xFF) serves _).mp reads
  exact absurd passes.1 (by decide +kernel)

end BigBlackHardware
