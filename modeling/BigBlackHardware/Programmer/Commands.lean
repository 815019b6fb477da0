import Mathlib.Data.Vector.Basic
import BigBlackHardware.Codec.Packets
import BigBlackHardware.Store.Memory

/-! The payload decoders and the command builder of `programmer_parser.c`. -/

namespace BigBlackHardware

open Library

/-- `AvrCommand`: four bytes sent to the target, or its four answer bytes. -/
abbrev AvrCommand := Vector UInt8 avrCmdSize

/-- `AvrMemoryType`. -/
inductive AvrMemoryType where
  | memoryFlash
  | memoryEeprom
  | memoryErr
  deriving DecidableEq

/-- `AvrMcuInfo`. -/
structure AvrMcuInfo where
  flashLoadHiLen : UInt8
  flashLoadHiPattern : Block
  flashLoadLoLen : UInt8
  flashLoadLoPattern : Block
  flashReadLoLen : UInt8
  flashReadLoPattern : Block
  flashReadHiLen : UInt8
  flashReadHiPattern : Block
  flashWaitMs : UInt8
  eepromWriteLen : UInt8
  eepromWritePattern : Block
  eepromReadLen : UInt8
  eepromReadPattern : Block
  eepromWaitMs : UInt8
  pgmEnable : AvrCommand

/-- `AvrReadMemData`. -/
structure AvrReadMemData where
  startAddress : UInt32
  bytesToRead : UInt32
  memT : AvrMemoryType
  deriving DecidableEq

/-- `AvrProgMemData`. -/
structure AvrProgMemData where
  startAddress : UInt32
  memoryType : AvrMemoryType
  dataLen : UInt8
  data : Block

/-- `get_memory_type`. -/
def getMemoryType (byte : UInt8) : AvrMemoryType :=
  if byte = plFlashMemoryByte then .memoryFlash
  else if byte = plEepromMemoryByte then .memoryEeprom
  else .memoryErr

/-- Four bytes as a 32-bit value, most significant byte first. -/
def getWord (buf : Cells UInt8) (offset : Nat) : UInt32 :=
  ((buf offset).toUInt32 <<< 24) ||| ((buf (offset + 1)).toUInt32 <<< 16)
    ||| ((buf (offset + 2)).toUInt32 <<< 8) ||| (buf (offset + 3)).toUInt32

/-- The number that four bytes stand for, most significant byte first. -/
def wordAt (buf : Cells UInt8) (offset : Nat) : Nat :=
  2 ^ 24 * (buf offset).toNat + 2 ^ 16 * (buf (offset + 1)).toNat
    + 2 ^ 8 * (buf (offset + 2)).toNat + (buf (offset + 3)).toNat

/-- A number below the shift does not overlap the shifted number. -/
theorem shiftLeft_or {a b i : Nat} (below : b < 2 ^ i) : a <<< i ||| b = a * 2 ^ i + b := by
  rw [← Nat.shiftLeft_add_eq_or_of_lt below, Nat.shiftLeft_eq]

/-- The shifts and ors compute the big-endian number, since no byte overlaps another one. -/
theorem getWord_eq (buf : Cells UInt8) (offset : Nat)
    : getWord buf offset = UInt32.ofNat (wordAt buf offset) := by
  have first := (buf offset).toNat_lt
  have second := (buf (offset + 1)).toNat_lt
  have third := (buf (offset + 2)).toNat_lt
  have fourth := (buf (offset + 3)).toNat_lt
  have high : (24 : UInt32).toNat % 32 = 24 := rfl
  have middle : (16 : UInt32).toNat % 32 = 16 := rfl
  have low : (8 : UInt32).toNat % 32 = 8 := rfl
  rw [← UInt32.toNat_inj, UInt32.toNat_ofNat_of_lt' (by simp only [wordAt, UInt32.size]; omega)]
  simp only [getWord, UInt32.toNat_or, UInt32.toNat_shiftLeft, UInt8.toNat_toUInt32, high, middle,
    low, Nat.or_assoc]
  rw [Nat.mod_eq_of_lt (by rw [Nat.shiftLeft_eq]; omega),
    Nat.mod_eq_of_lt (by rw [Nat.shiftLeft_eq]; omega),
    Nat.mod_eq_of_lt (by rw [Nat.shiftLeft_eq]; omega),
    shiftLeft_or fourth, shiftLeft_or (i := 16) (by omega), shiftLeft_or (i := 24) (by omega)]
  simp only [wordAt]
  omega

def progMemFixedSize : UInt32 := 5
def readMemFixedSize : UInt16 := 9

/-- `get_prog_mem_data`. The length field is 8 bits wide, and it is this length that is
allocated and copied.
-/
def getProgMemData (packet : Packet) (heap : Heap) : Int × AvrProgMemData × Heap :=
  let buf := packet.packetData
  let len := packet.header.dataSize.toUInt32
  let dataLen := (len - progMemFixedSize).toUInt8
  let (data, heap) := heap.malloc
  (0,
    { startAddress := getWord buf 0
      memoryType := getMemoryType (buf 4)
      dataLen := dataLen
      data := data.store 0 (buf.load progMemFixedSize.toNat dataLen.toNat) },
    heap)

/-- `get_read_mem_data`: the status and, when it is not negative, the decoded request. -/
def getReadMemData (packet : Packet) : Except Int AvrReadMemData :=
  if packet.header.dataSize ≠ readMemFixedSize then .error (-1)
  else
    let buf := packet.packetData
    .ok
      { memT := getMemoryType (buf 0)
        startAddress := getWord buf 1
        bytesToRead := getWord buf 5 }

/-- `check_cmd_status`: the target echoes each command byte one place later. -/
def checkCmdStatus (cmd answer : AvrCommand) : Int :=
  if (List.range' 1 (avrCmdSize - 1)).all (fun i => answer[i]? = cmd[i - 1]?) then 0 else -1

/-- One length byte at `k` and the pattern behind it, as `get_mcu_info` reads them: the array has
one cell more than the pattern. Also returns the position behind the pattern.
-/
def getPattern (buf : Cells UInt8) (k : Nat) (heap : Heap) : UInt8 × Block × Nat × Heap :=
  let len := buf k
  let (pattern, heap) := heap.calloc (len.toNat + 1)
  (len, pattern.store 0 (buf.load (k + 1) len.toNat), k + 1 + len.toNat, heap)

/-- `get_mcu_info`. Each terminator is stored at the position reached in the payload, not in the
pattern, and the one after the flash-read-high pattern goes to the flash-load-high pattern.
-/
def getMcuInfo (packet : Packet) (heap : Heap) : Int × AvrMcuInfo × Heap :=
  let buf := packet.packetData
  let (flashLoadLoLen, flashLoadLoPattern, k, heap) := getPattern buf 0 heap
  let flashLoadLoPattern := flashLoadLoPattern.store k [0]
  let (flashLoadHiLen, flashLoadHiPattern, k, heap) := getPattern buf k heap
  let flashLoadHiPattern := flashLoadHiPattern.store k [0]
  let (flashReadLoLen, flashReadLoPattern, k, heap) := getPattern buf k heap
  let flashReadLoPattern := flashReadLoPattern.store k [0]
  let (flashReadHiLen, flashReadHiPattern, k, heap) := getPattern buf k heap
  let flashLoadHiPattern := flashLoadHiPattern.store k [0]
  let flashWaitMs := buf k
  let (eepromWriteLen, eepromWritePattern, k, heap) := getPattern buf (k + 1) heap
  let eepromWritePattern := eepromWritePattern.store k [0]
  let (eepromReadLen, eepromReadPattern, k, heap) := getPattern buf k heap
  let eepromReadPattern := eepromReadPattern.store k [0]
  let eepromWaitMs := buf k
  (0,
    { flashLoadHiLen, flashLoadHiPattern, flashLoadLoLen, flashLoadLoPattern, flashReadLoLen,
      flashReadLoPattern, flashReadHiLen, flashReadHiPattern, flashWaitMs, eepromWriteLen,
      eepromWritePattern, eepromReadLen, eepromReadPattern, eepromWaitMs,
      pgmEnable := Vector.ofFn (fun i => buf (k + 1 + i)) },
    heap)

/-- The local variables of `create_memory_cmd`. -/
structure CmdBuilder where
  cmd : AvrCommand
  cmdByteOffset : UInt8
  cmdBitOffset : Nat
  cmdInputOffset : UInt8
  j : UInt8

/-- `cmd[cmd_byte_offset] |= bits`; a store behind the four bytes is dropped. -/
def CmdBuilder.orBits (builder : CmdBuilder) (bits : UInt8) : CmdBuilder :=
  let i := builder.cmdByteOffset.toNat
  { builder with cmd := builder.cmd.setIfInBounds i ((builder.cmd[i]?.getD 0) ||| bits) }

/-- The digit loop of an address symbol: the digits from `j` on and the index behind them. -/
def addressDigits (pattern : Cells UInt8) : Nat → UInt8 → List UInt8 × UInt8
  | 0, j => ([], j)
  | fuel + 1, j =>
      let digit := pattern j.toNat
      if 0x30 ≤ digit ∧ digit ≤ 0x39 then
        let (digits, j) := addressDigits pattern fuel (j + 1)
        (digit :: digits, j)
      else ([], j)

/-- `atoi` on a string of digits. -/
def atoi (digits : List UInt8) : Nat :=
  digits.foldl (fun value digit => 10 * value + (digit.toNat - 0x30)) 0

/-- The symbol at `j`: a constant bit, an address bit, an input bit, or a gap. -/
def CmdBuilder.symbol (pattern : Cells UInt8) (addr : UInt32) (input : UInt8)
    (builder : CmdBuilder) : CmdBuilder :=
  let char := pattern builder.j.toNat
  if char = 0x31 then builder.orBits (1 <<< builder.cmdBitOffset.toUInt8)
  else if char = 0x30 then builder
  else if char = 0x61 then
    let (digits, j) := addressDigits pattern 256 (builder.j + 1)
    let addressBit := (addr.toNat >>> atoi digits) &&& 0x01
    { builder with j := j - 1 }.orBits (addressBit.toUInt8 <<< builder.cmdBitOffset.toUInt8)
  else if char = 0x69 then
    let inputBit := (input.toNat >>> builder.cmdInputOffset.toNat) &&& 0x01
    { builder with cmdInputOffset := builder.cmdInputOffset - 1 }.orBits
      (inputBit.toUInt8 <<< builder.cmdBitOffset.toUInt8)
  else builder

/-- The step to the next bit of the command, at the end of each round. -/
def CmdBuilder.nextBit (builder : CmdBuilder) : CmdBuilder :=
  if builder.cmdBitOffset = 0 then
    { builder with cmdBitOffset := 7, cmdByteOffset := builder.cmdByteOffset + 1 }
  else { builder with cmdBitOffset := builder.cmdBitOffset - 1 }

/-- The loop of `create_memory_cmd` over the pattern, with the 8-bit index `j`. -/
def createMemoryCmdLoop (pattern : Cells UInt8) (patternLen : UInt8) (addr : UInt32)
    (input : UInt8) : Nat → CmdBuilder → CmdBuilder
  | 0, builder => builder
  | fuel + 1, builder =>
      if builder.j < patternLen then
        let builder := (builder.symbol pattern addr input).nextBit
        createMemoryCmdLoop pattern patternLen addr input fuel
          { builder with j := builder.j + 1 }
      else builder

/-- `create_memory_cmd`. A pattern with a NUL behind it is used up in at most as many rounds as
it has characters, so 256 rounds do not cut the loop short.
-/
def createMemoryCmd (pattern : Cells UInt8) (patternLen : UInt8) (addr : UInt32)
    (input : UInt8) : AvrCommand :=
  (createMemoryCmdLoop pattern patternLen addr input 256
    { cmd := Vector.replicate avrCmdSize 0
      cmdByteOffset := 0
      cmdBitOffset := 7
      cmdInputOffset := 7
      j := 0 }).cmd

end BigBlackHardware
