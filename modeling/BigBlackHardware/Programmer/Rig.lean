import BigBlackHardware.Library.Exec
import BigBlackHardware.Programmer.Commands

/-! The programmer of `programmer.c`: the session state it keeps, the SPI module it drives and
the target at the other end, which answers as it likes.
-/

namespace BigBlackHardware

open Library

/-- What the programmer does to the hardware. -/
inductive RigEvent where
  | spiDisable
  | spiReset
  | spiConfigure (rate : Nat)
  | spiEnable
  /-- `sys_reset_mcu` sets the target's reset line. -/
  | resetLine (level : UInt8)
  | sleep (ms : Nat)
  /-- `MAP_SPITransfer` sends a command and stores the answer, with the SPI module as it is. -/
  | transfer (spiEnabled : Bool) (cmd answer : AvrCommand)
  deriving DecidableEq

/-- Why a function does not return. -/
inductive Stop where
  /-- `sys_restart` resets the device. -/
  | restart
  /-- `mcu_info` is dereferenced while it is `NULL`. -/
  | nullMcuInfo
  /-- A call through an entry of `packet_handlers` that holds no handler. -/
  | noHandler
  /-- A socket call is repeated forever. -/
  | waiting
  deriving DecidableEq

/-- The installed `mcu_info`: the heap block it points to and what the block holds. -/
structure McuInfoBlock where
  address : Nat
  info : AvrMcuInfo

/-- The programmer, its SPI module and the target. -/
structure Rig where
  /-- The static variable `mcu_info`, `none` for `NULL`. -/
  mcuInfo : Option McuInfoBlock
  spiEnabled : Bool
  log : List RigEvent
  /-- The target's answer to a command, given everything that was done to it before. -/
  target : List RigEvent → AvrCommand → AvrCommand
  heap : Heap
  junk : Junk

/-- The rig after a reset of the device. -/
def Rig.boot (target : List RigEvent → AvrCommand → AvrCommand) (heap : Heap) (junk : Junk)
    : Rig where
  mcuInfo := none
  spiEnabled := false
  log := []
  target := target
  heap := heap
  junk := junk

abbrev RigM := EStateM Stop Rig

def Rig.note (rig : Rig) (event : RigEvent) : Rig := { rig with log := rig.log ++ [event] }

/-- The value of an object that was never stored to. -/
def indeterminate : RigM Nat := do
  let rig ← get
  set { rig with junk := rig.junk.rest }
  return rig.junk.value

/-- A value as the 16-bit signed integer that it becomes in an `_i16`. -/
def toI16 (value : Nat) : Int := (value : Int).bmod (2 ^ 16)

/-- A small value keeps its value as a 16-bit signed integer. -/
theorem toI16_of_lt {value : Nat} (small : value < 2 ^ 15) : toI16 value = value :=
  Int.bmod_eq_of_le (by omega) (by omega)

def spiEnable : RigM Unit := modify fun rig => { rig with spiEnabled := true }.note .spiEnable

def spiDisable : RigM Unit := modify fun rig => { rig with spiEnabled := false }.note .spiDisable

def configureSpi (spiRate : Nat) : RigM Unit := do
  spiDisable
  modify fun rig => (rig.note .spiReset).note (.spiConfigure spiRate)

def osiSleep (ms : Nat) : RigM Unit := modify fun rig => rig.note (.sleep ms)

def mcuResetOn : UInt8 := 0
def mcuResetOff : UInt8 := 1

def sysResetMcu (status : UInt8) : RigM Unit := modify fun rig => rig.note (.resetLine status)

/-- The rig after a transfer of `cmd`. -/
def Rig.transferred (rig : Rig) (cmd : AvrCommand) : Rig :=
  rig.note (.transfer rig.spiEnabled cmd (rig.target rig.log cmd))

/-- `MAP_SPITransfer` of one command. -/
def spiTransfer (cmd : AvrCommand) : RigM AvrCommand := do
  let rig ← get
  set (rig.transferred cmd)
  return rig.target rig.log cmd

-----------------------------------------------------------------------------------------
-- Session
-----------------------------------------------------------------------------------------

/-- Reading through the pointer `mcu_info`. -/
def readMcuInfo : RigM AvrMcuInfo := do
  match (← get).mcuInfo with
  | some block => return block.info
  | none => throw .nullMcuInfo

/-- Reading an installed `mcu_info` returns it and changes nothing. -/
theorem readMcuInfo_installed {rig : Rig} {block : McuInfoBlock}
    (installed : rig.mcuInfo = some block) : readMcuInfo rig = .ok block.info rig := by
  rw [readMcuInfo, bind_get, installed]
  rfl

/-- Reading a `NULL` `mcu_info` stops. -/
theorem readMcuInfo_none {rig : Rig} (null : rig.mcuInfo = none)
    : readMcuInfo rig = .error .nullMcuInfo rig := by
  rw [readMcuInfo, bind_get, null]
  rfl

/-- `programmer_set_mcu_info`. Only the old structure is freed, not its patterns. -/
def programmerSetMcuInfo (info : McuInfoBlock) : RigM Unit :=
  modify fun rig =>
    let heap :=
      match rig.mcuInfo with
      | some old => rig.heap.free old.address
      | none => rig.heap
    { rig with heap := heap, mcuInfo := some info }

/-- `programmer_write_raw_cmd`: the status and the answer. -/
def programmerWriteRawCmd (cmd : AvrCommand) : RigM (Int × AvrCommand) := do
  let answer ← spiTransfer cmd
  return (checkCmdStatus cmd answer, answer)

/-- `programmer_write_cmd`. -/
def programmerWriteCmd (cmd : AvrCommand) : RigM (Int × AvrCommand) :=
  programmerWriteRawCmd cmd

def pgmEnableRetries : Nat := 30
def pgmEnableDelayMs : Nat := 5

/-- The retry loop of `programmer_enable_pgm_mode`: whether the target answered. -/
def enablePgmLoop : Nat → RigM Bool
  | 0 => return false
  | retries + 1 => do
      let info ← readMcuInfo
      let (_, res) ← programmerWriteRawCmd info.pgmEnable
      let info ← readMcuInfo
      if res[2] = info.pgmEnable[1] then return true
      else
        osiSleep pgmEnableDelayMs
        sysResetMcu mcuResetOff
        osiSleep pgmEnableDelayMs
        sysResetMcu mcuResetOn
        osiSleep pgmEnableDelayMs
        enablePgmLoop retries

/-- `programmer_enable_pgm_mode`. It returns its success flag, which is never negative. -/
def programmerEnablePgmMode : RigM Int := do
  configureSpi 400000
  spiEnable
  osiSleep 5
  sysResetMcu mcuResetOn
  osiSleep 50
  let success ← enablePgmLoop pgmEnableRetries
  if success then return 1
  else
    spiDisable
    return 0

/-- The attempts loop of `process_load_mcu_info_packet`, which ends on a status that is not
negative.
-/
def enterPgmLoop : Nat → Int → RigM Int
  | 0, status => return status
  | attempts + 1, _ => do
      let status ← programmerEnablePgmMode
      if status ≥ 0 then return status else enterPgmLoop attempts status

-----------------------------------------------------------------------------------------
-- Programming memory
-----------------------------------------------------------------------------------------

/-- `load_memory_cmd`. -/
def loadMemoryCmd (cmd : AvrCommand) (delay : Nat) : RigM Int := do
  let (status, _) ← programmerWriteRawCmd cmd
  if status < 0 then return status
  else
    osiSleep delay
    return status

/-- The loop of `program_flash_memory` over the 8-bit index `i`. The length is even, so `i` never
wraps and 128 rounds are enough.
-/
def programFlashLoop (memData : AvrProgMemData) : Nat → UInt8 → UInt32 → Int → RigM Int
  | 0, _, _, status => return status
  | fuel + 1, i, address, status =>
      if i < memData.dataLen then do
        let info ← readMcuInfo
        let low := memData.data.bytes i.toNat
        let cmd := createMemoryCmd info.flashLoadLoPattern.bytes info.flashLoadLoLen address low
        let status ← loadMemoryCmd cmd info.flashWaitMs.toNat
        if status < 0 then return status
        else
          let info ← readMcuInfo
          let high := memData.data.bytes (i.toNat + 1)
          let cmd :=
            createMemoryCmd info.flashLoadHiPattern.bytes info.flashLoadHiLen address high
          let status ← loadMemoryCmd cmd info.flashWaitMs.toNat
          if status < 0 then return status
          else programFlashLoop memData fuel (i + 2) (address + 1) status
      else return status

/-- `program_flash_memory`. With nothing to program the status returned was never set. -/
def programFlashMemory (memData : AvrProgMemData) : RigM Int := do
  if memData.dataLen % 2 ≠ 0 then return -1
  else
    let status ← indeterminate
    programFlashLoop memData 128 0 memData.startAddress (toI16 status)

/-- The loop of `program_eeprom_memory`, with `count` rounds to go. -/
def programEepromLoop (progData : AvrProgMemData) : Nat → Nat → UInt32 → Int → RigM Int
  | 0, _, _, status => return status
  | count + 1, i, address, _ => do
      let info ← readMcuInfo
      let byte := progData.data.bytes i
      let cmd := createMemoryCmd info.eepromWritePattern.bytes info.eepromWriteLen address byte
      let status ← loadMemoryCmd cmd info.eepromWaitMs.toNat
      if status < 0 then return status
      else programEepromLoop progData count (i + 1) (address + 1) status

/-- `program_eeprom_memory`. -/
def programEepromMemory (progData : AvrProgMemData) : RigM Int := do
  let status ← indeterminate
  programEepromLoop progData progData.dataLen.toNat 0 progData.startAddress (toI16 status)

/-- `programmer_program_memory`. -/
def programmerProgramMemory (memData : AvrProgMemData) : RigM Int :=
  match memData.memoryType with
  | .memoryFlash => programFlashMemory memData
  | .memoryEeprom => programEepromMemory memData
  | .memoryErr => return -1

-----------------------------------------------------------------------------------------
-- Reading memory
-----------------------------------------------------------------------------------------

/-- One read command: its status, and the buffer with the last answer byte at `offset` if the target
echoed the command.
-/
def readByte (cmd : AvrCommand) (buf : Cells UInt8) (offset : Nat) : RigM (Int × Cells UInt8) := do
  let (status, res) ← programmerWriteRawCmd cmd
  if status < 0 then return (status, buf)
  else return (status, buf.store offset [res[3]])

/-- The loop of `_read_flash_memory`, with `count` rounds to go; `answerCounter` is 8 bits wide.
Returns a negative status or 0, and the buffer.
-/
def readFlashLoop : Nat → UInt32 → UInt8 → Cells UInt8 → RigM (Int × Cells UInt8)
  | 0, _, _, buf => return (0, buf)
  | count + 1, address, answerCounter, buf => do
      let info ← readMcuInfo
      let cmd := createMemoryCmd info.flashReadHiPattern.bytes info.flashReadHiLen address 0
      let (status, buf) ← readByte cmd buf answerCounter.toNat
      if status < 0 then return (status, buf)
      else
        let info ← readMcuInfo
        let cmd := createMemoryCmd info.flashReadLoPattern.bytes info.flashReadLoLen address 0
        let (status, buf) ← readByte cmd buf (answerCounter + 1).toNat
        if status < 0 then return (status, buf)
        else readFlashLoop count (address + 1) (answerCounter + 2) buf

/-- `_read_flash_memory`: two bytes a round while the index is below the count. The count is
returned as a 16-bit status.
-/
def readFlashMemory (memData : AvrReadMemData) (buf : Cells UInt8)
    : RigM (Int × Cells UInt8) := do
  let rounds := (memData.bytesToRead.toNat + 1) / 2
  let (status, buf) ← readFlashLoop rounds memData.startAddress 0 buf
  if status < 0 then return (status, buf)
  else return (toI16 memData.bytesToRead.toNat, buf)

/-- The loop of `_read_eeprom_memory`, with `count` rounds to go; `answerCounter` is 16 bits wide.
-/
def readEepromLoop (readPattern : Cells UInt8) (readPatternLen : UInt8)
    : Nat → UInt32 → UInt16 → Cells UInt8 → RigM (Int × Cells UInt8)
  | 0, _, _, buf => return (0, buf)
  | count + 1, address, answerCounter, buf => do
      let cmd := createMemoryCmd readPattern readPatternLen address 0
      let (status, buf) ← readByte cmd buf answerCounter.toNat
      if status < 0 then return (status, buf)
      else
        readEepromLoop readPattern readPatternLen count (address + 1) (answerCounter + 1) buf

/-- `_read_eeprom_memory`. The pattern is fetched before the loop. -/
def readEepromMemory (memInfo : AvrReadMemData) (buf : Cells UInt8)
    : RigM (Int × Cells UInt8) := do
  let info ← readMcuInfo
  let (status, buf) ←
    readEepromLoop info.eepromReadPattern.bytes info.eepromReadLen memInfo.bytesToRead.toNat
      memInfo.startAddress 0 buf
  if status < 0 then return (status, buf)
  else return (toI16 memInfo.bytesToRead.toNat, buf)

/-- `programmer_read_memory`: the status and the buffer. -/
def programmerReadMemory (memData : AvrReadMemData) (buf : Cells UInt8)
    : RigM (Int × Cells UInt8) :=
  match memData.memT with
  | .memoryFlash => readFlashMemory memData buf
  | .memoryEeprom => readEepromMemory memData buf
  | .memoryErr => return (-1, buf)

end BigBlackHardware
