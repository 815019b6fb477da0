import BigBlackHardware.Programmer.McuInfoLayout
import BigBlackHardware.Programmer.ReadBytes
import BigBlackHardware.Programmer.TargetMemory

/-! Descriptions of the instructions of a target, and the patterns that are installed from them. -/

namespace BigBlackHardware

open Library

-----------------------------------------------------------------------------------------
-- Positions
-----------------------------------------------------------------------------------------

/-- The position of the length byte of a pattern in a payload. -/
def patternStart (buf : Cells UInt8) : PatternName → Nat
  | .flashLoadLo => 0
  | .flashLoadHi => skipPattern buf 0
  | .flashReadLo => skipPattern buf (skipPattern buf 0)
  | .flashReadHi => skipPattern buf (skipPattern buf (skipPattern buf 0))
  | .eepromWrite => flashEnd buf + 1
  | .eepromRead => skipPattern buf (flashEnd buf + 1)

/-- An installed pattern has its length and its text from its position in the payload. What was
stored to it afterwards lies behind the text.
-/
theorem getMcuInfo_pattern (packet : Packet) (heap : Heap) (name : PatternName)
    : let buf := packet.packetData
      let start := patternStart buf name
      let pattern := (getMcuInfo packet heap).2.1.pattern name
      pattern.2 = buf start ∧ ∀ j < (buf start).toNat, pattern.1 j = buf (start + 1 + j) := by
  intro buf start pattern
  -- the cases differ in how many terminators go to the pattern
  cases name with
  | flashLoadLo =>
      refine ⟨rfl, fun j inside => ?_⟩
      exact (getPattern_terminated _ _ _ (length_le_skipPattern _ _) j inside).trans
        (getPattern_text _ _ _ inside)
  | flashLoadHi =>
      refine ⟨rfl, fun j inside => ?_⟩
      exact (getPattern_terminated_twice _ _ _ (length_le_skipPattern _ _) (length_le_flashEnd _)
        j inside).trans (getPattern_text _ _ _ inside)
  | flashReadLo =>
      refine ⟨rfl, fun j inside => ?_⟩
      exact (getPattern_terminated _ _ _ (length_le_skipPattern _ _) j inside).trans
        (getPattern_text _ _ _ inside)
  | flashReadHi => exact ⟨rfl, fun j inside => getPattern_text _ _ _ inside⟩
  | eepromWrite =>
      refine ⟨rfl, fun j inside => ?_⟩
      exact (getPattern_terminated _ _ _ (length_le_skipPattern _ _) j inside).trans
        (getPattern_text _ _ _ inside)
  | eepromRead =>
      refine ⟨rfl, fun j inside => ?_⟩
      exact (getPattern_terminated _ _ _ (length_le_skipPattern _ _) j inside).trans
        (getPattern_text _ _ _ inside)

/-- The text of a pattern in a description. -/
def McuDescription.text (description : McuDescription) : PatternName → ShortText
  | .flashLoadLo => description.flashLoadLo
  | .flashLoadHi => description.flashLoadHi
  | .flashReadLo => description.flashReadLo
  | .flashReadHi => description.flashReadHi
  | .eepromWrite => description.eepromWrite
  | .eepromRead => description.eepromRead

section Layout

variable {description : McuDescription} {buf : Cells UInt8}
  (begins : StandsAt buf 0 description.layout)

include begins

/-- In a payload that brings a description every text stands at its position, and the command to
enter programming mode behind all of them.
-/
theorem layout_positions
    : (∀ name,
        (buf (patternStart buf name)).toNat = (description.text name).bytes.length
        ∧ StandsAt buf (patternStart buf name + 1) (description.text name).bytes)
      ∧ StandsAt buf (eepromEnd buf + 1) description.pgmEnable.toList := by
  obtain ⟨loadLo, loadLoText, atLoadHi⟩ := begins.text
  obtain ⟨loadHi, loadHiText, atReadLo⟩ := atLoadHi.text
  obtain ⟨readLo, readLoText, atReadHi⟩ := atReadLo.text
  obtain ⟨readHi, readHiText, atFlashWait⟩ := atReadHi.text
  obtain ⟨-, atWrite⟩ := atFlashWait.cons
  obtain ⟨write, writeText, atRead⟩ := atWrite.text
  obtain ⟨read, readText, atEepromWait⟩ := atRead.text
  obtain ⟨-, atEnable⟩ := atEepromWait.cons
  refine ⟨fun name => ?_, atEnable⟩
  cases name with
  | flashLoadLo => exact ⟨loadLo, loadLoText⟩
  | flashLoadHi => exact ⟨loadHi, loadHiText⟩
  | flashReadLo => exact ⟨readLo, readLoText⟩
  | flashReadHi => exact ⟨readHi, readHiText⟩
  | eepromWrite => exact ⟨write, writeText⟩
  | eepromRead => exact ⟨read, readText⟩

/-- The symbols of an installed pattern are those of its text. -/
theorem getMcuInfo_symbols {packet : Packet} (data : packet.packetData = buf) (heap : Heap)
    (name : PatternName)
    : (getMcuInfo packet heap).2.1.symbols name
      = readSymbols (description.text name).bytes := by
  subst data
  obtain ⟨length, text⟩ := (layout_positions begins).1 name
  obtain ⟨size, bytes⟩ := getMcuInfo_pattern packet heap name
  rw [AvrMcuInfo.symbols, size, length]
  refine congrArg readSymbols ?_
  rw [Cells.load_eq_iff]
  intro i inside
  rw [bytes i (by rwa [length]), text.byte inside]

end Layout

-----------------------------------------------------------------------------------------
-- Instructions
-----------------------------------------------------------------------------------------

/-- A valid symbol is at most three characters long. -/
theorem PatternSymbol.Valid.text_length {symbol : PatternSymbol} (valid : symbol.Valid)
    : symbol.text.length ≤ 3 := by
  cases symbol with
  | address digits =>
      have short := valid.2.1
      rw [PatternSymbol.text, List.length_cons]
      omega
  | _ => exact Nat.succ_le_succ (Nat.zero_le 2)

/-- The text of valid symbols is short, by induction on them. -/
theorem patternText_length {symbols : List PatternSymbol}
    (valid : ∀ symbol ∈ symbols, symbol.Valid)
    : (patternText symbols).length ≤ 3 * symbols.length := by
  induction symbols with
  | nil => exact Nat.le_refl 0
  | cons symbol symbols ih =>
      obtain ⟨first, others⟩ := List.forall_mem_cons.mp valid
      have here := first.text_length
      have rest := ih others
      rw [patternText, List.flatMap_cons, List.length_append, List.length_cons, ← patternText]
      omega

namespace InstructionSet

variable (set : InstructionSet)

/-- The text that describes an instruction. -/
def text (name : PatternName) : ShortText where
  bytes := patternText (set.symbols name)
  short := by
    have wellFormed := set.wellFormed name
    have length := patternText_length wellFormed.valid
    have few := wellFormed.length
    omega

/-- The description of the target, with the delays of its memories. -/
def description (flashWaitMs eepromWaitMs : UInt8) : McuDescription where
  flashLoadLo := set.text .flashLoadLo
  flashLoadHi := set.text .flashLoadHi
  flashReadLo := set.text .flashReadLo
  flashReadHi := set.text .flashReadHi
  flashWaitMs := flashWaitMs
  eepromWrite := set.text .eepromWrite
  eepromRead := set.text .eepromRead
  eepromWaitMs := eepromWaitMs
  pgmEnable := set.pgmEnable

/-- A payload that describes the target. -/
def DescribedBy (buf : Cells UInt8) : Prop :=
  ∃ flashWaitMs eepromWaitMs,
    StandsAt buf 0 (set.description flashWaitMs eepromWaitMs).layout

end InstructionSet

/-- What is installed from a payload that describes the target speaks its instructions. -/
theorem getMcuInfo_speaks {set : InstructionSet} {packet : Packet}
    (described : set.DescribedBy packet.packetData) (heap : Heap)
    : Speaks (getMcuInfo packet heap).2.1 set := by
  obtain ⟨flashWaitMs, eepromWaitMs, begins⟩ := described
  refine ⟨fun name => ?_, getMcuInfo_nul packet heap, ?_⟩
  · have wellFormed := set.wellFormed name
    have text
        : ((set.description flashWaitMs eepromWaitMs).text name).bytes
          = patternText (set.symbols name) := by
      cases name <;> rfl
    rw [getMcuInfo_symbols begins rfl heap name, text,
      readSymbols_patternText wellFormed.valid wellFormed.apart]
  · exact command_ofFn (layout_positions begins).2

-----------------------------------------------------------------------------------------
-- A target
-----------------------------------------------------------------------------------------

/-- The target that executes the instructions: it echoes a command one place later, and in the last
byte of its answer to an EEPROM read it gives the byte of its memory.
-/
def InstructionSet.execute (set : InstructionSet) (initial : TargetCell → UInt8)
    (log : List RigEvent) (cmd : AvrCommand) : AvrCommand :=
  if Matches (set.symbols .eepromRead) cmd then
    (echoAnswer cmd).set (avrCmdSize - 1)
      (set.memory initial log (.eeprom, addressOf (set.symbols .eepromRead) cmd))
      lastByte_inside
  else echoAnswer cmd

/-- The symbols of an instruction: an opcode, eight address bits and the bits of a byte. -/
def instructionSymbols (opcode : List PatternSymbol) (byte : PatternSymbol)
    : List PatternSymbol :=
  opcode ++ List.replicate 8 .zero
    ++ [0x37, 0x36, 0x35, 0x34, 0x33, 0x32, 0x31, 0x30].map (fun digit => .address [digit])
    ++ List.replicate 8 byte

/-- The opcodes of the instructions. -/
def PatternName.opcode : PatternName → List PatternSymbol
  | .flashLoadLo => [.zero, .one, .zero, .zero, .zero, .zero, .zero, .zero]
  | .flashLoadHi => [.zero, .one, .zero, .zero, .one, .zero, .zero, .zero]
  | .flashReadLo => [.zero, .zero, .one, .zero, .zero, .zero, .zero, .zero]
  | .flashReadHi => [.zero, .zero, .one, .zero, .one, .zero, .zero, .zero]
  | .eepromWrite => [.one, .one, .zero, .zero, .zero, .zero, .zero, .zero]
  | .eepromRead => [.one, .zero, .one, .zero, .zero, .zero, .zero, .zero]

/-- The last byte of an instruction that reads is not looked at. -/
def PatternName.operand : PatternName → PatternSymbol
  | .flashLoadLo | .flashLoadHi | .eepromWrite => .input
  | .flashReadLo | .flashReadHi | .eepromRead => .other 0x6F

/-- The command to enter programming mode. -/
def smallEnable : AvrCommand := #v[0xAC, 0x53, 0xFF, 0xFF]

/-- The instructions of a target with 256 words of flash and 256 bytes of EEPROM. -/
def smallInstructions : InstructionSet where
  symbols name := instructionSymbols name.opcode name.operand
  pgmEnable := smallEnable
  wellFormed name :=
    { length := by cases name <;> decide
      inputs := by cases name <;> decide
      valid := by
        cases name <;>
          simp [instructionSymbols, PatternName.opcode, PatternName.operand,
            PatternSymbol.Valid, isDigit, atoi]
      apart := by
        cases name <;>
          simp [instructionSymbols, PatternName.opcode, PatternName.operand,
            PatternSymbol.IsAddress] }
  whole store := by cases store <;> decide +kernel
  apart store name other := by
    cases store <;> cases name <;> first | exact absurd rfl other | (rw [Conflict]; decide +kernel)
  enable store := by cases store <;> decide +kernel

/-- A packet with the description of these instructions. -/
def describingPacket : Packet where
  header := ⟨PacketType.loadMcuInfoPacket.val, PacketGroup.programmerGroup.val, 0, 0, 0, 0⟩
  rawHeader := fun _ => 0
  packetData := fun i => (smallInstructions.description 5 9).layout[i]?.getD 0

theorem describingPacket_describes
    : smallInstructions.DescribedBy describingPacket.packetData :=
  ⟨5, 9, by rw [StandsAt]; decide +kernel⟩

/-- A block with the description installed from this packet. -/
def describedBlock : McuInfoBlock := ⟨0, (getMcuInfo describingPacket (.boot fun _ _ => 0)).2.1⟩

theorem describedBlock_speaks : Speaks describedBlock.info smallInstructions :=
  getMcuInfo_speaks describingPacket_describes _

/-- A rig with an erased target that executes the instructions. -/
def executingRig : Rig :=
  { Rig.boot (smallInstructions.execute fun _ => 0xFF) (.boot fun _ _ => 0) ⟨fun _ => 0, 0⟩ with
    mcuInfo := some describedBlock }

end BigBlackHardware
