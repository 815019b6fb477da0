import Mathlib.Data.Nat.Bitwise
import BigBlackHardware.Programmer.PatternBounds
import BigBlackHardware.Programmer.PatternLanguage

/-! What a target reads from a command. The address and the input can be decoded from the bits that
the symbols of a well-formed pattern carry.
-/

namespace BigBlackHardware

open Library

/-- The number of which each bit stands at one of the places that carry it. -/
def gather (width : Nat) (carries : Nat → Nat → Bool) (bit : Nat → Bool) : Nat :=
  Nat.ofBits fun k : Fin width => (List.range 32).any fun p => carries p k && bit p

/-- The place carries a bit of the address. -/
def carriesAddress (symbols : List PatternSymbol) (p k : Nat) : Bool :=
  match symbols[p]? with
  | some (.address digits) => atoi digits == k
  | _ => false

/-- The place carries a bit of the input; the first input is the most significant bit. -/
def carriesInput (symbols : List PatternSymbol) (p b : Nat) : Bool :=
  symbols[p]? == some .input && 7 - (symbols.take p).count .input == b

/-- The address that a command brings. -/
def addressOf (symbols : List PatternSymbol) (cmd : AvrCommand) : UInt32 :=
  .ofNat (gather 32 (carriesAddress symbols) (commandBit cmd))

/-- The input that a command brings. -/
def inputOf (symbols : List PatternSymbol) (cmd : AvrCommand) : UInt8 :=
  .ofNat (gather 8 (carriesInput symbols) (commandBit cmd))

/-- The bits of an address that a pattern names. -/
def addressMask (symbols : List PatternSymbol) : UInt32 :=
  .ofNat (gather 32 (carriesAddress symbols) fun _ => true)

/-- The bits of an input that a pattern has room for. -/
def inputMask (symbols : List PatternSymbol) : UInt8 :=
  .ofNat (gather 8 (carriesInput symbols) fun _ => true)

/-- A command has the constant bits of the symbols. -/
def Matches (symbols : List PatternSymbol) (cmd : AvrCommand) : Prop :=
  ∀ p < 32,
    (symbols[p]? = some .one → commandBit cmd p = true)
    ∧ (symbols[p]? = some .zero → commandBit cmd p = false)

instance (symbols : List PatternSymbol) (cmd : AvrCommand) : Decidable (Matches symbols cmd) :=
  inferInstanceAs (Decidable (∀ _, _))

/-- The bits of a command are what the symbols mean. -/
def Encodes (symbols : List PatternSymbol) (addr : UInt32) (input : UInt8) (cmd : AvrCommand)
    : Prop :=
  ∀ p < 32, commandBit cmd p = symbolBit addr input symbols p

/-- `create_memory_cmd` encodes the symbols that its pattern reads as. -/
theorem createMemoryCmd_encodes {pattern : Cells UInt8} {len : UInt8}
    {symbols : List PatternSymbol} (wellFormed : WellFormed symbols)
    (nul : pattern len.toNat = 0) (reads : readSymbols (pattern.load 0 len.toNat) = symbols)
    (addr : UInt32) (input : UInt8)
    : Encodes symbols addr input (createMemoryCmd pattern len addr input) := by
  intro p _
  rw [createMemoryCmd_eq nul, reads]
  exact commandBit_foldl addr input wellFormed.length wellFormed.inputs p

-----------------------------------------------------------------------------------------
-- Fields
-----------------------------------------------------------------------------------------

section Gathering

variable {width : Nat} {carries : Nat → Nat → Bool} {bit : Nat → Bool}

theorem gather_lt : gather width carries bit < 2 ^ width := Nat.ofBits_lt_two_pow _

theorem gather_testBit {k : Nat} (inside : k < width)
    : (gather width carries bit).testBit k
      = (List.range 32).any fun p => carries p k && bit p := by
  rw [gather, Nat.testBit_ofBits_lt _ k inside]

/-- Bits that are those of a value gather to the value, as far as they are carried. -/
theorem gather_eq {value : Nat} (agree : ∀ p < 32, ∀ k, carries p k → bit p = value.testBit k)
    : gather width carries bit = value &&& gather width carries fun _ => true := by
  apply Nat.eq_of_testBit_eq
  intro k
  rw [Nat.testBit_and]
  by_cases inside : k < width
  · rw [gather_testBit inside, gather_testBit inside, Bool.eq_iff_iff]
    simp only [List.any_eq_true, List.mem_range, Bool.and_eq_true, Bool.and_true]
    constructor
    · rintro ⟨p, below, carried, set⟩
      exact ⟨by rwa [← agree p below k carried], p, below, carried⟩
    · rintro ⟨set, p, below, carried⟩
      exact ⟨p, below, carried, by rwa [agree p below k carried]⟩
  · have outside {bit : Nat → Bool} : (gather width carries bit).testBit k = false :=
      Nat.testBit_ofBits_ge _ k (Nat.not_lt.mp inside)
    rw [outside, outside, Bool.and_false]

end Gathering

section Decoding

variable {symbols : List PatternSymbol} {addr : UInt32} {byte : UInt8} {cmd : AvrCommand}

/-- The place of an address symbol has its bit of the address. -/
theorem symbolBit_address {p k : Nat} (carried : carriesAddress symbols p k = true)
    : symbolBit addr byte symbols p = addr.toNat.testBit k := by
  rw [carriesAddress] at carried
  rw [symbolBit]
  cases found : symbols[p]? with
  | none => rw [found] at carried; cases carried
  | some symbol =>
      rw [found] at carried
      cases symbol with
      | address digits => simp only [symbolValue, beq_iff_eq.mp carried]
      | _ => cases carried

/-- The place of an input symbol has its bit of the input. -/
theorem symbolBit_input {p b : Nat} (carried : carriesInput symbols p b = true)
    : symbolBit addr byte symbols p = byte.toNat.testBit b := by
  rw [carriesInput, Bool.and_eq_true, beq_iff_eq, beq_iff_eq] at carried
  obtain ⟨found, place⟩ := carried
  simp only [symbolBit, found, symbolValue, place]

theorem addressMask_toNat
    : (addressMask symbols).toNat = gather 32 (carriesAddress symbols) fun _ => true :=
  UInt32.toNat_ofNat_of_lt' gather_lt

theorem inputMask_toNat
    : (inputMask symbols).toNat = gather 8 (carriesInput symbols) fun _ => true :=
  UInt8.toNat_ofNat_of_lt' gather_lt

/-- The address is read back as far as the pattern names its bits. -/
theorem Encodes.address (encodes : Encodes symbols addr byte cmd)
    : addressOf symbols cmd = addr &&& addressMask symbols := by
  rw [← UInt32.toNat_inj, UInt32.toNat_and, addressMask_toNat, addressOf,
    UInt32.toNat_ofNat_of_lt' gather_lt]
  refine gather_eq fun p below k carried => ?_
  rw [encodes p below, symbolBit_address carried]

/-- The input is read back as far as the pattern has room for it. -/
theorem Encodes.input (encodes : Encodes symbols addr byte cmd)
    : inputOf symbols cmd = byte &&& inputMask symbols := by
  rw [← UInt8.toNat_inj, UInt8.toNat_and, inputMask_toNat, inputOf,
    UInt8.toNat_ofNat_of_lt' gather_lt]
  refine gather_eq fun p below k carried => ?_
  rw [encodes p below, symbolBit_input carried]

/-- The constants stand at their places. -/
theorem Encodes.matches (encodes : Encodes symbols addr byte cmd) : Matches symbols cmd := by
  intro p below
  rw [encodes p below, symbolBit]
  constructor
  · intro found
    simp only [found, symbolValue]
  · intro found
    simp only [found, symbolValue]

/-- A carried bit of the address is one of the mask. -/
theorem addressMask_testBit {p k : Nat} (below : p < 32) (inside : k < 32)
    (carried : carriesAddress symbols p k = true)
    : (addressMask symbols).toNat.testBit k = true := by
  rw [addressMask_toNat, gather_testBit inside, List.any_eq_true]
  exact ⟨p, List.mem_range.mpr below, by rw [carried, Bool.and_true]⟩

theorem inputMask_testBit {p b : Nat} (below : p < 32) (inside : b < 8)
    (carried : carriesInput symbols p b = true) : (inputMask symbols).toNat.testBit b = true := by
  rw [inputMask_toNat, gather_testBit inside, List.any_eq_true]
  exact ⟨p, List.mem_range.mpr below, by rw [carried, Bool.and_true]⟩

/-- The symbols mean the same for operands that agree on the carried bits. -/
theorem symbolBit_congr {addr' : UInt32} {byte' : UInt8} (wellFormed : WellFormed symbols)
    (address : addr &&& addressMask symbols = addr' &&& addressMask symbols)
    (input : byte &&& inputMask symbols = byte' &&& inputMask symbols) {p : Nat} (below : p < 32)
    : symbolBit addr byte symbols p = symbolBit addr' byte' symbols p := by
  rw [symbolBit, symbolBit]
  cases found : symbols[p]? with
  | none => rfl
  | some symbol =>
      cases symbol with
      | address digits =>
          have carried : carriesAddress symbols p (atoi digits) = true := by
            simp [carriesAddress, found]
          have valid := wellFormed.valid _ (List.mem_of_getElem? found)
          have masked := addressMask_testBit below (Nat.lt_succ_of_le valid.2.2.2) carried
          have same := congrArg (fun addr => addr.toNat.testBit (atoi digits)) address
          simpa [symbolValue, masked] using same
      | input =>
          have carried
              : carriesInput symbols p (7 - (symbols.take p).count .input) = true := by
            simp [carriesInput, found]
          have masked := inputMask_testBit below (by omega) carried
          have same := congrArg
            (fun byte => byte.toNat.testBit (7 - (symbols.take p).count .input)) input
          simpa [symbolValue, masked] using same
      | _ => rfl

/-- Commands with the same bits are the same. -/
theorem eq_of_commandBit {cmd' : AvrCommand}
    (same : ∀ p < 32, commandBit cmd p = commandBit cmd' p) : cmd = cmd' := by
  apply Vector.ext
  intro i inside
  have four : i < 4 := inside
  rw [← UInt8.toNat_inj]
  apply Nat.eq_of_testBit_eq
  intro k
  by_cases low : k < 8
  · have bit := same (8 * i + (7 - k)) (by omega)
    rw [commandBit, commandBit, show (8 * i + (7 - k)) / 8 = i by omega,
      show 7 - (8 * i + (7 - k)) % 8 = k by omega, Vector.getElem?_eq_getElem inside,
      Vector.getElem?_eq_getElem inside] at bit
    exact bit
  · have high (byte : UInt8) : byte.toNat.testBit k = false :=
      Nat.testBit_lt_two_pow (Nat.lt_of_lt_of_le byte.toNat_lt
        (Nat.pow_le_pow_right Nat.two_pos (Nat.not_lt.mp low)))
    rw [high, high]

end Decoding

-----------------------------------------------------------------------------------------
-- Round trip
-----------------------------------------------------------------------------------------

/-- A target recognises the command and reads the operands from it, as far as the pattern has room
for them.
-/
structure ReadsBack (symbols : List PatternSymbol) (addr : UInt32) (input : UInt8)
    (cmd : AvrCommand) : Prop where
  recognised : Matches symbols cmd
  address : addressOf symbols cmd = addr &&& addressMask symbols
  input : inputOf symbols cmd = input &&& inputMask symbols

/-- What `create_memory_cmd` makes of a well-formed pattern is read back, and two commands are the
same exactly if their operands agree on the bits that the pattern has room for.
-/
theorem createMemoryCmd_readsBack {pattern : Cells UInt8} {len : UInt8}
    {symbols : List PatternSymbol} (wellFormed : WellFormed symbols)
    (nul : pattern len.toNat = 0)
    (written : pattern.load 0 len.toNat = patternText symbols) (addr addr' : UInt32)
    (input input' : UInt8)
    : ReadsBack symbols addr input (createMemoryCmd pattern len addr input)
      ∧ (createMemoryCmd pattern len addr input = createMemoryCmd pattern len addr' input'
          ↔ addr &&& addressMask symbols = addr' &&& addressMask symbols
            ∧ input &&& inputMask symbols = input' &&& inputMask symbols) := by
  have reads : readSymbols (pattern.load 0 len.toNat) = symbols := by
    rw [written, readSymbols_patternText wellFormed.valid wellFormed.apart]
  have encodes := createMemoryCmd_encodes wellFormed nul reads addr input
  have encodes' := createMemoryCmd_encodes wellFormed nul reads addr' input'
  refine ⟨⟨encodes.matches, encodes.address, encodes.input⟩, ?_, ?_⟩
  · intro same
    rw [same] at encodes
    exact ⟨encodes.address.symm.trans encodes'.address, encodes.input.symm.trans encodes'.input⟩
  · rintro ⟨address, operand⟩
    refine eq_of_commandBit fun p below => ?_
    rw [encodes p below, encodes' p below, symbolBit_congr wellFormed address operand below]

/-- The text of `01ia15x`, with NULs behind it. -/
def sampleText : Cells UInt8 := fun i => (patternText sampleSymbols)[i]?.getD 0

/-- It has room for the bit 15 of an address and for the most significant bit of an input. -/
theorem createMemoryCmd_readsBack_sample
    : ReadsBack sampleSymbols 0x8000 0x81 (createMemoryCmd sampleText 7 0x8000 0x81)
      ∧ (createMemoryCmd sampleText 7 0x8000 0x81 = createMemoryCmd sampleText 7 0xFFFF 0x80
          ↔ 0x8000 &&& addressMask sampleSymbols = 0xFFFF &&& addressMask sampleSymbols
            ∧ 0x81 &&& inputMask sampleSymbols = 0x80 &&& inputMask sampleSymbols) :=
  createMemoryCmd_readsBack sampleSymbols_wellFormed (by decide) (by decide) 0x8000 0xFFFF 0x81 0x80

example : addressMask sampleSymbols = 0x8000 ∧ inputMask sampleSymbols = 0x80 := by decide +kernel

end BigBlackHardware
