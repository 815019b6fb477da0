import BigBlackHardware.Programmer.PatternSymbols
import BigBlackHardware.Programmer.PayloadBytes

/-! Where `create_memory_cmd` stores and by how much it shifts. Nothing checks the patterns that a
packet brings before they get here.
-/

namespace BigBlackHardware

open Library

/-- A store or a shift of `create_memory_cmd`. -/
inductive CmdAccess where
  | cmdStore (index : Nat)
  | addressShiftStore (index : Nat)
  | shift (amount width : Nat)
  deriving DecidableEq

/-- The elements of `ch_address_shift`. -/
def addressShiftSize : Nat := 3

/-- The bits of an `int`, to which the shifted values are promoted, and of an `_u32`. -/
def intWidth : Nat := 32

/-- A store inside its array, or a shift by less than the width. -/
def CmdAccess.Within : CmdAccess → Prop
  | .cmdStore index => index < avrCmdSize
  | .addressShiftStore index => index < addressShiftSize
  | .shift amount width => amount < width

/-- The stores and shifts at a symbol. A `0` is stored too, and a NUL behind the digits. -/
def CmdBuilder.symbolAccesses (pattern : Cells UInt8) (builder : CmdBuilder) : List CmdAccess :=
  let char := pattern builder.j.toNat
  let bit : List CmdAccess :=
    [.shift builder.cmdBitOffset intWidth, .cmdStore builder.cmdByteOffset.toNat]
  if char = 0x31 then bit
  else if char = 0x30 then bit
  else if char = 0x61 then
    let digits := (addressDigits pattern 256 (builder.j + 1)).1
    (List.range (digits.length + 1)).map .addressShiftStore
      ++ .shift (atoi digits) intWidth :: bit
  else if char = 0x69 then .shift builder.cmdInputOffset.toNat intWidth :: bit
  else []

/-- The stores and shifts of the loop of `create_memory_cmd`. -/
def createMemoryCmdAccesses (pattern : Cells UInt8) (patternLen : UInt8) (addr : UInt32)
    (input : UInt8) : Nat → CmdBuilder → List CmdAccess
  | 0, _ => []
  | fuel + 1, builder =>
      if builder.j < patternLen then
        let after := (builder.symbol pattern addr input).nextBit
        builder.symbolAccesses pattern
          ++ createMemoryCmdAccesses pattern patternLen addr input fuel
            { after with j := after.j + 1 }
      else []

/-- `create_memory_cmd` stays in its buffers and its shifts are defined. -/
def StaysInside (pattern : Cells UInt8) (patternLen : UInt8) (addr : UInt32) (input : UInt8)
    : Prop :=
  ∀ access ∈ createMemoryCmdAccesses pattern patternLen addr input 256 .initial, access.Within

/-- The patterns of an `AvrMcuInfo`. -/
inductive PatternName where
  | flashLoadLo
  | flashLoadHi
  | flashReadLo
  | flashReadHi
  | eepromWrite
  | eepromRead

/-- The text of a pattern, with what lies behind it, and its length. -/
def AvrMcuInfo.pattern (info : AvrMcuInfo) : PatternName → Cells UInt8 × UInt8
  | .flashLoadLo => (info.flashLoadLoPattern.bytes, info.flashLoadLoLen)
  | .flashLoadHi => (info.flashLoadHiPattern.bytes, info.flashLoadHiLen)
  | .flashReadLo => (info.flashReadLoPattern.bytes, info.flashReadLoLen)
  | .flashReadHi => (info.flashReadHiPattern.bytes, info.flashReadHiLen)
  | .eepromWrite => (info.eepromWritePattern.bytes, info.eepromWriteLen)
  | .eepromRead => (info.eepromReadPattern.bytes, info.eepromReadLen)

/-- The symbols that a pattern reads as. -/
def AvrMcuInfo.symbols (info : AvrMcuInfo) (name : PatternName) : List PatternSymbol :=
  readSymbols ((info.pattern name).1.load 0 (info.pattern name).2.toNat)

/-- The symbols that fit: none that stores comes behind the 32 bits of a command, the addresses are
short and name one of the 32 bits of an address, and there are not more inputs than the input has
bits.
-/
structure Fitting (symbols : List PatternSymbol) : Prop where
  command : ∀ symbol ∈ symbols.drop 32, ∃ char, symbol = .other char
  addresses
    : ∀ digits, PatternSymbol.address digits ∈ symbols → digits.length ≤ 2 ∧ atoi digits ≤ 31
  inputs : symbols.count .input ≤ 8

-----------------------------------------------------------------------------------------
-- Symbols
-----------------------------------------------------------------------------------------

/-- The stores and shifts at a symbol that is read. -/
def CmdBuilder.accesses (builder : CmdBuilder) (symbol : PatternSymbol) : List CmdAccess :=
  let bit : List CmdAccess :=
    [.shift builder.cmdBitOffset intWidth, .cmdStore builder.cmdByteOffset.toNat]
  match symbol with
  | .one => bit
  | .zero => bit
  | .address digits =>
      (List.range (digits.length + 1)).map .addressShiftStore
        ++ .shift (atoi digits) intWidth :: bit
  | .input => .shift builder.cmdInputOffset.toNat intWidth :: bit
  | .other _ => []

/-- The stores and shifts at the symbols of a text. -/
def symbolsAccesses (addr : UInt32) (input : UInt8)
    : CmdBuilder → List PatternSymbol → List CmdAccess
  | _, [] => []
  | builder, symbol :: symbols =>
      builder.accesses symbol
        ++ symbolsAccesses addr input (builder.round addr input symbol) symbols

section Symbols

variable {pattern : Cells UInt8} {len : UInt8} {addr : UInt32} {input : UInt8}

/-- The accesses at the cursor are those of the symbol that is read there. -/
theorem symbolAccesses_eq (nul : pattern len.toNat = 0) {builder : CmdBuilder}
    (inside : builder.j < len) {symbol : PatternSymbol}
    (reads : RoundReads pattern len addr input builder symbol)
    : builder.symbolAccesses pattern = builder.accesses symbol := by
  have below := UInt8.lt_iff_toNat_lt.mp inside
  have next := next_toNat inside
  have rest := reads.rest
  rw [restOf_cons inside] at rest
  by_cases isAddress : pattern builder.j.toNat = 0x61
  · have digits := addressDigits_eq nul 256 (j := builder.j + 1)
      (by rw [UInt8.le_iff_toNat_le]; omega) (by have bound := len.toNat_lt; omega)
    rw [isAddress, readSymbols_address] at rest
    obtain ⟨first, -⟩ := List.cons.inj rest
    rw [← first, CmdBuilder.symbolAccesses, isAddress, digits]
    rfl
  · rw [readSymbols_char isAddress] at rest
    obtain ⟨first, -⟩ := List.cons.inj rest
    rw [← first, CmdBuilder.symbolAccesses, charSymbol]
    dsimp only
    rw [if_neg isAddress]
    split
    · rfl
    split
    · rfl
    split <;> rfl

/-- The accesses of the loop are those of the symbols of the rest of the text. -/
theorem createMemoryCmdAccesses_eq (nul : pattern len.toNat = 0) (fuel : Nat)
    {builder : CmdBuilder} (inside : builder.j ≤ len)
    (enough : len.toNat - builder.j.toNat ≤ fuel)
    : createMemoryCmdAccesses pattern len addr input fuel builder
      = symbolsAccesses addr input builder (readSymbols (restOf pattern len builder.j)) := by
  refine cursor_induction nul addr input
    (motive := fun fuel builder =>
      createMemoryCmdAccesses pattern len addr input fuel builder
        = symbolsAccesses addr input builder (readSymbols (restOf pattern len builder.j)))
    ?_ ?_ fuel inside enough
  · intro fuel builder last
    rw [last, restOf_end, readSymbols, symbolsAccesses]
    cases fuel with
    | zero => rfl
    | succ fuel => rw [createMemoryCmdAccesses, if_neg (by rw [last]; exact UInt8.lt_irrefl len)]
  · intro fuel builder symbol before reads rest
    rw [createMemoryCmdAccesses, if_pos before, reads.rest, symbolsAccesses,
      ← restOf_later reads.fits]
    dsimp only
    rw [reads.round, symbolAccesses_eq nul before reads]
    exact congrArg _ rest

end Symbols

/-- A symbol fits behind `p` others, of which `q` are inputs. -/
def FitsAt (p q : Nat) : PatternSymbol → Prop
  | .one => p < 32
  | .zero => p < 32
  | .address digits => digits.length ≤ 2 ∧ atoi digits ≤ 31 ∧ p < 32
  | .input => q < 8 ∧ p < 32
  | .other _ => True

/-- All of the symbols fit behind `p` others, of which `q` are inputs. -/
def FitFrom : Nat → Nat → List PatternSymbol → Prop
  | _, _, [] => True
  | p, q, symbol :: symbols => FitsAt p q symbol ∧ FitFrom (p + 1) (q + symbol.inputs) symbols

/-- The accesses at a symbol are within their bounds exactly if it fits. Not more than eight inputs
stand before it, behind which the offset of the input would wrap around.
-/
theorem accesses_within_iff {builder : CmdBuilder} {p q : Nat} (positioned : builder.Positioned p q)
    (place : p < 256) (few : q ≤ 8) (symbol : PatternSymbol)
    : (∀ access ∈ builder.accesses symbol, access.Within) ↔ FitsAt p q symbol := by
  obtain ⟨byte, bit, offset⟩ := positioned
  have store : builder.cmdByteOffset.toNat < avrCmdSize ↔ p < 32 := by
    rw [byte, UInt8.toNat_ofNat', avrCmdSize]
    omega
  have shift : builder.cmdBitOffset < intWidth := by
    rw [bit, intWidth]
    omega
  have inputShift : builder.cmdInputOffset.toNat < intWidth ↔ q < 8 := by
    rw [offset, UInt8.toNat_sub, UInt8.toNat_ofNat', intWidth]
    change (256 - q % 256 + 7) % 256 < 32 ↔ q < 8
    omega
  cases symbol with
  | one => simp [CmdBuilder.accesses, CmdAccess.Within, FitsAt, store, shift]
  | zero => simp [CmdBuilder.accesses, CmdAccess.Within, FitsAt, store, shift]
  | other char => simp [CmdBuilder.accesses, FitsAt]
  | input => simp [CmdBuilder.accesses, CmdAccess.Within, FitsAt, store, shift, inputShift]
  | address digits =>
      have digitStores
          : (∀ access ∈ (List.range (digits.length + 1)).map CmdAccess.addressShiftStore,
              access.Within) ↔ digits.length ≤ 2 := by
        constructor
        · intro within
          have last := within (.addressShiftStore digits.length)
            (List.mem_map_of_mem (List.mem_range.mpr (Nat.lt_succ_self _)))
          exact Nat.lt_succ_iff.mp last
        · intro short access member
          obtain ⟨index, inside, rfl⟩ := List.mem_map.mp member
          have below := List.mem_range.mp inside
          change index < 3
          omega
      rw [CmdBuilder.accesses, List.forall_mem_append, digitStores]
      have width : atoi digits < intWidth ↔ atoi digits ≤ 31 := Nat.lt_succ_iff
      simp [CmdAccess.Within, FitsAt, store, shift, width]

/-- So are the accesses at several symbols, by induction on them. -/
theorem symbolsAccesses_within_iff (addr : UInt32) (input : UInt8) (symbols : List PatternSymbol)
    {builder : CmdBuilder} {p q : Nat} (positioned : builder.Positioned p q)
    (place : p + symbols.length ≤ 256) (few : q ≤ 8)
    : (∀ access ∈ symbolsAccesses addr input builder symbols, access.Within)
      ↔ FitFrom p q symbols := by
  induction symbols generalizing builder p q with
  | nil => exact iff_of_true (fun access member => by cases member) trivial
  | cons symbol symbols ih =>
      rw [List.length_cons] at place
      rw [symbolsAccesses, List.forall_mem_append, FitFrom,
        accesses_within_iff positioned (by omega) few]
      refine and_congr_right fun fits => ?_
      refine ih (positioned.round addr input symbol) (by omega) ?_
      cases symbol with
      | input => exact fits.1
      | _ => exact few

/-- What it takes for one symbol to fit. -/
theorem fitsAt_iff (p : Nat) {q : Nat} (few : q ≤ 8) (symbol : PatternSymbol)
    : FitsAt p q symbol
      ↔ (32 ≤ p → ∃ char, symbol = .other char)
        ∧ (∀ digits, symbol = .address digits → digits.length ≤ 2 ∧ atoi digits ≤ 31)
        ∧ q + symbol.inputs ≤ 8 := by
  cases symbol with
  | address digits =>
      simp only [FitsAt, PatternSymbol.inputs, reduceCtorEq, exists_false, imp_false, Nat.not_le,
        PatternSymbol.address.injEq, forall_eq']
      omega
  | input =>
      simp only [FitsAt, PatternSymbol.inputs, reduceCtorEq, exists_false, imp_false, Nat.not_le,
        false_implies, implies_true, true_and]
      omega
  | one => simp [FitsAt, PatternSymbol.inputs, few]
  | zero => simp [FitsAt, PatternSymbol.inputs, few]
  | other char => simp [FitsAt, PatternSymbol.inputs, few]

/-- What it takes for several symbols to fit, by induction on them. -/
theorem fitFrom_iff (p : Nat) {q : Nat} (few : q ≤ 8) (symbols : List PatternSymbol)
    : FitFrom p q symbols
      ↔ (∀ symbol ∈ symbols.drop (32 - p), ∃ char, symbol = .other char)
        ∧ (∀ digits, PatternSymbol.address digits ∈ symbols →
            digits.length ≤ 2 ∧ atoi digits ≤ 31)
        ∧ q + symbols.count .input ≤ 8 := by
  induction symbols generalizing p q with
  | nil => simp [FitFrom, few]
  | cons symbol symbols ih =>
      have counts : (symbol :: symbols).count .input
          = symbol.inputs + symbols.count .input := by
        rw [List.count_cons]
        cases symbol <;> simp [PatternSymbol.inputs, Nat.add_comm]
      have beyond : (∀ other ∈ (symbol :: symbols).drop (32 - p), ∃ char, other = .other char)
          ↔ (32 ≤ p → ∃ char, symbol = .other char)
            ∧ ∀ other ∈ symbols.drop (32 - (p + 1)), ∃ char, other = .other char := by
        by_cases inside : p < 32
        · rw [show 32 - p = 32 - (p + 1) + 1 by omega, List.drop_succ_cons]
          exact (and_iff_right fun outside => absurd inside (Nat.not_lt.mpr outside)).symm
        · rw [show 32 - p = 0 by omega, show 32 - (p + 1) = 0 by omega, List.drop_zero,
            List.drop_zero, List.forall_mem_cons]
          exact and_congr_left fun _ => (imp_iff_right (Nat.not_lt.mp inside)).symm
      have addresses
          : (∀ digits, PatternSymbol.address digits ∈ symbol :: symbols →
              digits.length ≤ 2 ∧ atoi digits ≤ 31)
            ↔ (∀ digits, symbol = .address digits → digits.length ≤ 2 ∧ atoi digits ≤ 31)
              ∧ ∀ digits, PatternSymbol.address digits ∈ symbols →
                  digits.length ≤ 2 ∧ atoi digits ≤ 31 := by
        constructor
        · intro all
          refine ⟨fun digits here => all digits ?_, fun digits member => all digits ?_⟩
          · rw [here]
            exact List.mem_cons_self
          · exact List.mem_cons_of_mem _ member
        · rintro ⟨first, others⟩ digits member
          rcases List.mem_cons.mp member with here | there
          · exact first digits here.symm
          · exact others digits there
      rw [FitFrom, fitsAt_iff p few, beyond, addresses, counts, ← Nat.add_assoc]
      constructor
      · rintro ⟨⟨first, short, count⟩, rest⟩
        obtain ⟨others, shorts, total⟩ := (ih (p + 1) count).mp rest
        exact ⟨⟨first, others⟩, ⟨short, shorts⟩, total⟩
      · rintro ⟨⟨first, others⟩, ⟨short, shorts⟩, total⟩
        have count : q + symbol.inputs ≤ 8 := Nat.le_trans (Nat.le_add_right _ _) total
        exact ⟨⟨first, short, count⟩, (ih (p + 1) count).mpr ⟨others, shorts, total⟩⟩

/-- A text has not more symbols than characters. -/
theorem readSymbols_length_le (text : List UInt8) : (readSymbols text).length ≤ text.length := by
  induction text with
  | nil => exact Nat.le_refl 0
  | cons char rest ih =>
      rw [readSymbols]
      split
      · rw [List.length_cons, List.length_cons, List.length_drop]
        omega
      · exact Nat.succ_le_succ ih

/-- A pattern with a NUL behind it keeps `create_memory_cmd` in its buffers exactly if its symbols
fit.
-/
theorem staysInside_iff {pattern : Cells UInt8} {len : UInt8} (nul : pattern len.toNat = 0)
    (addr : UInt32) (input : UInt8)
    : StaysInside pattern len addr input
      ↔ Fitting (readSymbols (pattern.load 0 len.toNat)) := by
  have start : (0 : UInt8) ≤ len := UInt8.le_iff_toNat_le.mpr (Nat.zero_le _)
  have bound := len.toNat_lt
  have loop
      : createMemoryCmdAccesses pattern len addr input 256 .initial
        = symbolsAccesses addr input .initial (readSymbols (pattern.load 0 len.toNat)) :=
    createMemoryCmdAccesses_eq nul 256 start
      (Nat.le_of_lt (Nat.lt_of_le_of_lt (Nat.sub_le _ _) bound))
  have short := readSymbols_length_le (pattern.load 0 len.toNat)
  rw [Cells.load_length] at short
  rw [StaysInside, loop, symbolsAccesses_within_iff addr input _ initial_positioned (by omega)
    (Nat.zero_le 8), fitFrom_iff 0 (Nat.zero_le 8), Nat.zero_add]
  exact ⟨fun ⟨command, addresses, inputs⟩ => ⟨command, addresses, inputs⟩,
    fun ⟨command, addresses, inputs⟩ => ⟨command, addresses, inputs⟩⟩

-----------------------------------------------------------------------------------------
-- Installed patterns
-----------------------------------------------------------------------------------------

/-- A NUL stands behind the text of a pattern that is read, since its array comes cleared. -/
theorem getPattern_nul (buf : Cells UInt8) (k : Nat) (heap : Heap)
    : (getPattern buf k heap).2.1.bytes (buf k).toNat = 0 := by
  simp only [getPattern, Block.store]
  have inside : (buf k).toNat - 0 < (List.replicate ((buf k).toNat + 1) (0 : UInt8)).length := by
    rw [List.length_replicate]
    exact Nat.lt_succ_self _
  rw [Cells.store_outside _ (Or.inr (by rw [Cells.load_length, Nat.zero_add])), Heap.calloc]
  dsimp only
  rw [Cells.store_inside _ (Nat.zero_le _) inside, List.getElem_replicate]

/-- The NUL stays there: the terminators are stored farther behind. -/
theorem getMcuInfo_nul (packet : Packet) (heap : Heap) (name : PatternName)
    : let pattern := (getMcuInfo packet heap).2.1.pattern name
      pattern.1 pattern.2.toNat = 0 := by
  have behind (k : Nat) : (packet.packetData k).toNat < skipPattern packet.packetData k := by
    have order := lt_skipPattern packet.packetData k
    omega
  cases name with
  | flashLoadLo => exact (terminator_behind _ (behind _)).trans (getPattern_nul _ _ _)
  | flashLoadHi =>
      obtain ⟨-, order, -⟩ := infoEnd_order packet.packetData
      have later := (behind (skipPattern packet.packetData 0)).trans order
      exact (terminator_behind _ later).trans
        ((terminator_behind _ (behind _)).trans (getPattern_nul _ _ _))
  | flashReadLo => exact (terminator_behind _ (behind _)).trans (getPattern_nul _ _ _)
  | flashReadHi => exact getPattern_nul _ _ _
  | eepromWrite => exact (terminator_behind _ (behind _)).trans (getPattern_nul _ _ _)
  | eepromRead => exact (terminator_behind _ (behind _)).trans (getPattern_nul _ _ _)

/-- Whatever packet brought it, an installed pattern keeps `create_memory_cmd` in its buffers
exactly if its symbols fit.
-/
theorem installedPattern_staysInside_iff (packet : Packet) (heap : Heap) (name : PatternName)
    (addr : UInt32) (input : UInt8)
    : let info := (getMcuInfo packet heap).2.1
      StaysInside (info.pattern name).1 (info.pattern name).2 addr input
        ↔ Fitting (info.symbols name) :=
  staysInside_iff (getMcuInfo_nul packet heap name) addr input

/-- A packet with the pattern `a100` for loading low bytes, and no other patterns. -/
def longAddressPacket : Packet where
  header := ⟨PacketType.loadMcuInfoPacket.val, PacketGroup.programmerGroup.val, 16, 0, 0, 0⟩
  rawHeader := fun _ => 0
  packetData := fun i => [4, 0x61, 0x31, 0x30, 0x30][i]?.getD 0

/-- Its NUL is stored behind `ch_address_shift`. -/
theorem longAddressPacket_leaves
    : let info := (getMcuInfo longAddressPacket (.boot fun _ _ => 0)).2.1
      ¬ StaysInside (info.pattern .flashLoadLo).1 (info.pattern .flashLoadLo).2 0 0 := by
  intro info stays
  have store : CmdAccess.addressShiftStore 3
      ∈ createMemoryCmdAccesses (info.pattern .flashLoadLo).1 (info.pattern .flashLoadLo).2 0 0 256
          .initial := by
    decide
  exact absurd (stays _ store) (Nat.lt_irrefl 3)

end BigBlackHardware
