import BigBlackHardware.Programmer.PatternSymbols

/-! The pattern language that `create_memory_cmd` implements: every symbol of a well-formed pattern
determines one bit of the command.
-/

namespace BigBlackHardware

open Library

/-- How a list of symbols is written. -/
def patternText (symbols : List PatternSymbol) : List UInt8 := symbols.flatMap PatternSymbol.text

def PatternSymbol.IsAddress : PatternSymbol → Prop
  | .address _ => True
  | _ => False

/-- An address names a bit of the address in one or two digits, and other characters are no digits
and no symbols of another kind.
-/
def PatternSymbol.Valid : PatternSymbol → Prop
  | .address digits =>
      1 ≤ digits.length ∧ digits.length ≤ 2 ∧ (∀ digit ∈ digits, isDigit digit = true)
        ∧ atoi digits ≤ 31
  | .other char => isDigit char = false ∧ char ≠ 0x61 ∧ char ≠ 0x69
  | _ => True

/-- A well-formed pattern: not more symbols than the command has bits, not more inputs than the
input has, and no constant directly behind an address.
-/
structure WellFormed (symbols : List PatternSymbol) : Prop where
  length : symbols.length ≤ 32
  inputs : symbols.count .input ≤ 8
  valid : ∀ symbol ∈ symbols, symbol.Valid
  apart
    : symbols.IsChain fun left right => left.IsAddress → right ≠ .one ∧ right ≠ .zero

/-- The meaning of a symbol, for an address and an input of which `q` bits are used up. -/
def symbolValue (addr : UInt32) (input : UInt8) (q : Nat) : PatternSymbol → Bool
  | .one => true
  | .zero => false
  | .input => input.toNat.testBit (7 - q)
  | .address digits => addr.toNat.testBit (atoi digits)
  | .other _ => false

/-- The meaning of the symbol at a place; there is none behind the last symbol. -/
def symbolBit (addr : UInt32) (input : UInt8) (symbols : List PatternSymbol) (p : Nat) : Bool :=
  match symbols[p]? with
  | some symbol => symbolValue addr input ((symbols.take p).count .input) symbol
  | none => false

/-- A bit of a command, counted from the most significant one of the first byte. -/
def commandBit (cmd : AvrCommand) (p : Nat) : Bool :=
  (cmd[p / 8]?.getD 0).toNat.testBit (7 - p % 8)

-----------------------------------------------------------------------------------------
-- Reading
-----------------------------------------------------------------------------------------

/-- What is written behind an address begins with no digit. -/
theorem takeWhile_isDigit_patternText {symbols : List PatternSymbol}
    (valid : ∀ symbol ∈ symbols, symbol.Valid)
    (apart : ∀ symbol ∈ symbols.head?, symbol ≠ .one ∧ symbol ≠ .zero)
    : (patternText symbols).takeWhile isDigit = []
      ∧ (patternText symbols).dropWhile isDigit = patternText symbols := by
  cases symbols with
  | nil => exact ⟨rfl, rfl⟩
  | cons symbol rest =>
      obtain ⟨notOne, notZero⟩ := apart symbol rfl
      have first := valid symbol List.mem_cons_self
      have begins : ∃ char more, patternText (symbol :: rest) = char :: more
          ∧ isDigit char = false := by
        cases symbol with
        | one => exact absurd rfl notOne
        | zero => exact absurd rfl notZero
        | input => exact ⟨_, _, rfl, by decide⟩
        | address digits => exact ⟨_, _, rfl, by decide⟩
        | other char => exact ⟨_, _, rfl, first.1⟩
      obtain ⟨char, more, text, noDigit⟩ := begins
      rw [text]
      simp [noDigit]

/-- A well-formed pattern is read as it is written, by induction on its symbols. -/
theorem readSymbols_patternText {symbols : List PatternSymbol}
    (valid : ∀ symbol ∈ symbols, symbol.Valid)
    (apart : symbols.IsChain fun left right => left.IsAddress → right ≠ .one ∧ right ≠ .zero)
    : readSymbols (patternText symbols) = symbols := by
  induction symbols with
  | nil => rfl
  | cons symbol rest ih =>
      obtain ⟨first, others⟩ := List.forall_mem_cons.mp valid
      have tail := ih others apart.tail
      have text : patternText (symbol :: rest) = symbol.text ++ patternText rest := rfl
      rw [text]
      cases symbol with
      | one => exact (readSymbols_char (by decide) _).trans (congrArg _ tail)
      | zero => exact (readSymbols_char (by decide) _).trans (congrArg _ tail)
      | input => exact (readSymbols_char (by decide) _).trans (congrArg _ tail)
      | other char =>
          obtain ⟨noDigit, noAddress, noInput⟩ := first
          have notOne : char ≠ 0x31 := by
            rintro rfl
            cases noDigit
          have notZero : char ≠ 0x30 := by
            rintro rfl
            cases noDigit
          have same : charSymbol char = .other char := by
            rw [charSymbol, if_neg notOne, if_neg notZero, if_neg noInput]
          refine (readSymbols_char noAddress _).trans ?_
          rw [same]
          exact congrArg _ tail
      | address digits =>
          obtain ⟨-, -, all, -⟩ := first
          have next := takeWhile_isDigit_patternText others fun symbol head =>
            (List.isChain_cons.mp apart).1 symbol head trivial
          rw [PatternSymbol.text, List.cons_append, readSymbols_address,
            List.takeWhile_append_of_pos all, List.dropWhile_append_of_pos all, next.1, next.2,
            List.append_nil, tail]

-----------------------------------------------------------------------------------------
-- Bits
-----------------------------------------------------------------------------------------

/-- The one bit of a shifted bit is at the shift. -/
theorem shifted_testBit
    : ∀ k < 8, ∀ x < 2, ∀ m < 8,
        (x.toUInt8 <<< k.toUInt8).toNat.testBit m = (decide (m = k) && decide (x = 1)) := by
  decide

/-- Setting a bit at the offsets of a builder sets that bit of the command alone. -/
theorem commandBit_orBits (builder : CmdBuilder) {p : Nat} (fits : p < 32)
    (byte : builder.cmdByteOffset = UInt8.ofNat (p / 8)) (bit : builder.cmdBitOffset = 7 - p % 8)
    {x : Nat} (single : x < 2) (r : Nat)
    : commandBit (builder.orBits (x.toUInt8 <<< builder.cmdBitOffset.toUInt8)).cmd r
      = (commandBit builder.cmd r || (decide (r = p) && decide (x = 1))) := by
  have place : builder.cmdByteOffset.toNat = p / 8 := by
    rw [byte, UInt8.toNat_ofNat']
    omega
  rw [commandBit, commandBit, CmdBuilder.orBits, place, bit]
  dsimp only
  rw [Vector.getElem?_setIfInBounds]
  by_cases here : p / 8 = r / 8
  · rw [if_pos here, if_pos (by rw [avrCmdSize]; omega), Option.getD_some, UInt8.toNat_or,
      Nat.testBit_or, shifted_testBit (7 - p % 8) (by omega) x single (7 - r % 8) (by omega), here]
    congr 2
    exact decide_eq_decide.mpr (by omega)
  · rw [if_neg here]
    have other : r ≠ p := fun same => here (by rw [same])
    simp [other]

/-- A shifted and masked number is one bit of it. -/
theorem bit_of_shift (value n : Nat)
    : (value >>> n) &&& 1 < 2 ∧ decide ((value >>> n) &&& 1 = 1) = value.testBit n := by
  rw [Nat.and_one_is_mod, Nat.shiftRight_eq_div_pow, Nat.testBit_eq_decide_div_mod_eq]
  exact ⟨Nat.mod_lt _ Nat.two_pos, rfl⟩

/-- A round sets the bit of its symbol to the symbol's value. -/
theorem commandBit_round (addr : UInt32) (input : UInt8) {builder : CmdBuilder} {p q : Nat}
    (positioned : builder.Positioned p q) (fits : p < 32) (symbol : PatternSymbol)
    (few : symbol = .input → q < 8) (r : Nat)
    : commandBit (builder.round addr input symbol).cmd r
      = (commandBit builder.cmd r || (decide (r = p) && symbolValue addr input q symbol)) := by
  obtain ⟨byte, bit, offset⟩ := positioned
  have next (builder : CmdBuilder) : builder.nextBit.cmd = builder.cmd := by
    rw [CmdBuilder.nextBit]
    split <;> rfl
  rw [CmdBuilder.round]
  dsimp only
  rw [next]
  cases symbol with
  | one => exact commandBit_orBits builder fits byte bit (x := 1) (by decide) r
  | zero => simp [CmdBuilder.apply, symbolValue]
  | other char => simp [CmdBuilder.apply, symbolValue]
  | address digits =>
      obtain ⟨single, value⟩ := bit_of_shift addr.toNat (atoi digits)
      rw [CmdBuilder.apply, symbolValue, ← value]
      exact commandBit_orBits builder fits byte bit single r
  | input =>
      have inputPlace : builder.cmdInputOffset.toNat = 7 - q := by
        have small := few rfl
        rw [offset, UInt8.toNat_sub, UInt8.toNat_ofNat']
        change (256 - q % 256 + 7) % 256 = 7 - q
        omega
      obtain ⟨single, value⟩ := bit_of_shift input.toNat (7 - q)
      rw [CmdBuilder.apply, symbolValue, ← value, inputPlace]
      exact commandBit_orBits { builder with cmdInputOffset := builder.cmdInputOffset - 1 } fits
        byte bit single r

/-- The symbols before the last one mean what they mean without it. -/
theorem symbolBit_append (addr : UInt32) (input : UInt8) (symbols : List PatternSymbol)
    (symbol : PatternSymbol) (r : Nat)
    : symbolBit addr input (symbols ++ [symbol]) r
      = (symbolBit addr input symbols r
        || (decide (r = symbols.length)
          && symbolValue addr input (symbols.count .input) symbol)) := by
  rw [symbolBit, symbolBit]
  rcases Nat.lt_trichotomy r symbols.length with before | here | behind
  · rw [List.getElem?_append_left before, List.take_append_of_le_length (Nat.le_of_lt before)]
    simp [Nat.ne_of_lt before]
  · subst here
    simp
  · have all : (symbols ++ [symbol]).length ≤ r := by
      rw [List.length_append]
      exact behind
    rw [List.getElem?_eq_none all, List.getElem?_eq_none (Nat.le_of_lt behind)]
    simp [Nat.ne_of_gt behind]

/-- Where the builder is after all symbols. -/
theorem foldl_positioned (addr : UInt32) (input : UInt8) (symbols : List PatternSymbol)
    : (symbols.foldl (CmdBuilder.round addr input) .initial).Positioned symbols.length
        (symbols.count .input) := by
  induction symbols using List.reverseRecOn with
  | nil => exact initial_positioned
  | append_singleton symbols symbol ih =>
      have next := ih.round addr input symbol
      rw [List.foldl_append, List.length_append, List.count_append]
      have inputs : [symbol].count PatternSymbol.input = symbol.inputs := by
        cases symbol <;> rfl
      rw [inputs]
      exact next

/-- The command has the bits that the symbols mean, by induction on the symbols from the last one.
-/
theorem commandBit_foldl (addr : UInt32) (input : UInt8) {symbols : List PatternSymbol}
    (length : symbols.length ≤ 32) (inputs : symbols.count .input ≤ 8) (r : Nat)
    : commandBit (symbols.foldl (CmdBuilder.round addr input) .initial).cmd r
      = symbolBit addr input symbols r := by
  induction symbols using List.reverseRecOn with
  | nil =>
      have clear : ((Vector.replicate avrCmdSize (0 : UInt8))[r / 8]?).getD 0 = 0 := by
        rw [Vector.getElem?_replicate]
        split <;> rfl
      rw [symbolBit, commandBit, List.foldl_nil, CmdBuilder.initial, clear]
      exact Nat.zero_testBit _
  | append_singleton symbols symbol ih =>
      rw [List.length_append, List.length_singleton] at length
      rw [List.count_append] at inputs
      have before := ih (by omega) (by omega)
      have few : symbol = .input → symbols.count .input < 8 := by
        rintro rfl
        rw [List.count_singleton_self] at inputs
        omega
      rw [List.foldl_append, symbolBit_append, ← before]
      exact commandBit_round addr input (foldl_positioned addr input symbols) (by omega) symbol few
        r

/-- For a well-formed pattern with a NUL behind it, every bit of the command is what its symbol
means, and the bits behind the last symbol are clear.
-/
theorem createMemoryCmd_bits (symbols : List PatternSymbol) (wellFormed : WellFormed symbols)
    (pattern : Cells UInt8) (short : (patternText symbols).length ≤ 255)
    (written : pattern.load 0 (patternText symbols).length = patternText symbols)
    (nul : pattern (patternText symbols).length = 0) (addr : UInt32) (input : UInt8)
    : ∀ p < 32,
        commandBit
            (createMemoryCmd pattern (UInt8.ofNat (patternText symbols).length) addr input) p
          = symbolBit addr input symbols p := by
  intro p _
  have length
      : (UInt8.ofNat (patternText symbols).length).toNat = (patternText symbols).length := by
    rw [UInt8.toNat_ofNat']
    omega
  rw [createMemoryCmd_eq (by rw [length]; exact nul), length, written,
    readSymbols_patternText wellFormed.valid wellFormed.apart]
  exact commandBit_foldl addr input wellFormed.length wellFormed.inputs p

/-- The symbols of `01ia15x`. -/
def sampleSymbols : List PatternSymbol :=
  [.zero, .one, .input, .address [0x31, 0x35], .other 0x78]

theorem sampleSymbols_wellFormed : WellFormed sampleSymbols where
  length := by decide
  inputs := by decide
  valid := by simp [sampleSymbols, PatternSymbol.Valid, isDigit, atoi]
  apart := by simp [sampleSymbols, PatternSymbol.IsAddress]

theorem createMemoryCmd_bits_sample
    : commandBit (createMemoryCmd (fun i => (patternText sampleSymbols)[i]?.getD 0) 7 0x8000 0x80) 3
      = symbolBit 0x8000 0x80 sampleSymbols 3 :=
  createMemoryCmd_bits sampleSymbols sampleSymbols_wellFormed
    (fun i => (patternText sampleSymbols)[i]?.getD 0) (by decide) (by decide) (by decide) 0x8000
    0x80 3 (by decide)

end BigBlackHardware
