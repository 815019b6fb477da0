import Mathlib.Data.List.TakeWhile
import BigBlackHardware.Programmer.Commands

/-! The symbols of a command pattern. The loop of `create_memory_cmd` with its text cursor is a fold
over the symbols that its text reads as.
-/

namespace BigBlackHardware

open Library

/-- A symbol of a pattern, for one bit of the command. -/
inductive PatternSymbol where
  | one
  | zero
  | input
  | address (digits : List UInt8)
  | other (char : UInt8)
  deriving DecidableEq

/-- How a symbol is written. -/
def PatternSymbol.text : PatternSymbol → List UInt8
  | .one => [0x31]
  | .zero => [0x30]
  | .input => [0x69]
  | .address digits => 0x61 :: digits
  | .other char => [char]

def isDigit (char : UInt8) : Bool := 0x30 ≤ char ∧ char ≤ 0x39

/-- The symbol of a character that begins no address. -/
def charSymbol (char : UInt8) : PatternSymbol :=
  if char = 0x31 then .one
  else if char = 0x30 then .zero
  else if char = 0x69 then .input
  else .other char

/-- The symbols that a text reads as. An address takes the digits behind it, so that these are no
symbols of their own.
-/
def readSymbols : List UInt8 → List PatternSymbol
  | [] => []
  | char :: rest =>
      if char = 0x61 then
        let digits := rest.takeWhile isDigit
        .address digits :: (readSymbols rest).drop digits.length
      else charSymbol char :: readSymbols rest

/-- What a symbol does to the command. -/
def CmdBuilder.apply (addr : UInt32) (input : UInt8) (builder : CmdBuilder)
    : PatternSymbol → CmdBuilder
  | .one => builder.orBits (1 <<< builder.cmdBitOffset.toUInt8)
  | .zero => builder
  | .address digits =>
      let addressBit := (addr.toNat >>> atoi digits) &&& 0x01
      builder.orBits (addressBit.toUInt8 <<< builder.cmdBitOffset.toUInt8)
  | .input =>
      let inputBit := (input.toNat >>> builder.cmdInputOffset.toNat) &&& 0x01
      { builder with cmdInputOffset := builder.cmdInputOffset - 1 }.orBits
        (inputBit.toUInt8 <<< builder.cmdBitOffset.toUInt8)
  | .other _ => builder

/-- A round of the loop on a symbol. -/
def CmdBuilder.round (addr : UInt32) (input : UInt8) (builder : CmdBuilder)
    (symbol : PatternSymbol) : CmdBuilder :=
  { (builder.apply addr input symbol).nextBit with
    j := builder.j + UInt8.ofNat symbol.text.length }

-----------------------------------------------------------------------------------------
-- Reading
-----------------------------------------------------------------------------------------

/-- Digits alone are symbols one by one. -/
theorem readSymbols_digits (digits rest : List UInt8) (all : ∀ digit ∈ digits, isDigit digit = true)
    : readSymbols (digits ++ rest) = digits.map charSymbol ++ readSymbols rest := by
  induction digits with
  | nil => rfl
  | cons digit digits ih =>
      obtain ⟨first, others⟩ := List.forall_mem_cons.mp all
      have noAddress : digit ≠ 0x61 := by
        rintro rfl
        exact absurd first (by decide)
      rw [List.cons_append, readSymbols, if_neg noAddress, ih others, List.map_cons,
        List.cons_append]

/-- Behind an address the text is read on after its digits. -/
theorem readSymbols_address (rest : List UInt8)
    : readSymbols (0x61 :: rest)
      = .address (rest.takeWhile isDigit) :: readSymbols (rest.dropWhile isDigit) := by
  have split := readSymbols_digits (rest.takeWhile isDigit) (rest.dropWhile isDigit)
    fun digit member => List.mem_takeWhile_imp member
  rw [List.takeWhile_append_dropWhile] at split
  rw [readSymbols, if_pos rfl, split]
  dsimp only
  rw [List.drop_left' (by rw [List.length_map])]

theorem readSymbols_char {char : UInt8} (noAddress : char ≠ 0x61) (rest : List UInt8)
    : readSymbols (char :: rest) = charSymbol char :: readSymbols rest := by
  rw [readSymbols, if_neg noAddress]

-----------------------------------------------------------------------------------------
-- The loop
-----------------------------------------------------------------------------------------

section Loop

variable {pattern : Cells UInt8} {len : UInt8}

/-- What is left of a text of a length from an index on. -/
def restOf (pattern : Cells UInt8) (len : UInt8) (j : UInt8) : List UInt8 :=
  pattern.load j.toNat (len.toNat - j.toNat)

theorem next_toNat {j : UInt8} (inside : j < len) : (j + 1).toNat = j.toNat + 1 := by
  have below := UInt8.lt_iff_toNat_lt.mp inside
  have bound := len.toNat_lt
  rw [UInt8.toNat_add, UInt8.toNat_one]
  omega

theorem restOf_cons {j : UInt8} (inside : j < len)
    : restOf pattern len j = pattern j.toNat :: restOf pattern len (j + 1) := by
  have below := UInt8.lt_iff_toNat_lt.mp inside
  rw [restOf, restOf, next_toNat inside,
    show len.toNat - j.toNat = len.toNat - (j.toNat + 1) + 1 by omega, Cells.load_succ]

theorem restOf_end : restOf pattern len len = [] := by
  rw [restOf, Nat.sub_self, Cells.load_zero]

/-- The digit loop takes the digits of the rest of the text, since a NUL ends them. -/
theorem addressDigits_eq (nul : pattern len.toNat = 0) (fuel : Nat) {j : UInt8} (inside : j ≤ len)
    (enough : len.toNat - j.toNat < fuel)
    : addressDigits pattern fuel j
      = ((restOf pattern len j).takeWhile isDigit,
          j + UInt8.ofNat ((restOf pattern len j).takeWhile isDigit).length) := by
  induction fuel generalizing j with
  | zero => exact absurd enough (Nat.not_lt_zero _)
  | succ fuel ih =>
      rw [addressDigits]
      rcases UInt8.lt_or_eq_of_le inside with before | last
      · have next := next_toNat before
        have below := UInt8.lt_iff_toNat_lt.mp before
        rw [restOf_cons before, List.takeWhile_cons]
        dsimp only
        by_cases digit : 0x30 ≤ pattern j.toNat ∧ pattern j.toNat ≤ 0x39
        · have isDigit : isDigit (pattern j.toNat) = true := decide_eq_true digit
          have rest := ih (j := j + 1) (by rw [UInt8.le_iff_toNat_le]; omega) (by omega)
          rw [if_pos digit, if_pos isDigit, rest]
          dsimp only
          rw [List.length_cons, Nat.add_comm, UInt8.ofNat_add, ← UInt8.add_assoc]
          rfl
        · have noDigit : ¬ isDigit (pattern j.toNat) = true := fun isDigit =>
            digit (of_decide_eq_true isDigit)
          rw [if_neg digit, if_neg noDigit]
          simp
      · rw [last, restOf_end, nul, if_neg (by decide)]
        simp

/-- A round at a character that begins no address. -/
theorem symbol_char (addr : UInt32) (input : UInt8) {builder : CmdBuilder} {char : UInt8}
    (found : pattern builder.j.toNat = char) (noAddress : char ≠ 0x61)
    : builder.symbol pattern addr input = builder.apply addr input (charSymbol char)
      ∧ (charSymbol char).text.length = 1 := by
  rw [CmdBuilder.symbol, found, charSymbol]
  dsimp only
  by_cases one : char = 0x31
  · rw [if_pos one, if_pos one]
    exact ⟨rfl, rfl⟩
  rw [if_neg one, if_neg one]
  by_cases zero : char = 0x30
  · rw [if_pos zero, if_pos zero]
    exact ⟨rfl, rfl⟩
  rw [if_neg zero, if_neg zero, if_neg noAddress]
  by_cases isInput : char = 0x69
  · rw [if_pos isInput, if_pos isInput]
    exact ⟨rfl, rfl⟩
  · rw [if_neg isInput, if_neg isInput]
    exact ⟨rfl, rfl⟩

theorem orBits_j (builder : CmdBuilder) (bits j : UInt8)
    : { builder with j := j }.orBits bits = { builder.orBits bits with j := j } := rfl

theorem nextBit_j (builder : CmdBuilder) (j : UInt8)
    : { builder with j := j }.nextBit = { builder.nextBit with j := j } := by
  rw [CmdBuilder.nextBit, CmdBuilder.nextBit]
  split <;> rfl

theorem apply_j (addr : UInt32) (input : UInt8) (builder : CmdBuilder) (symbol : PatternSymbol)
    : (builder.apply addr input symbol).j = builder.j := by
  cases symbol <;> rfl

theorem nextBit_keeps_j (builder : CmdBuilder) : builder.nextBit.j = builder.j := by
  rw [CmdBuilder.nextBit]
  split <;> rfl

/-- The cursor behind some characters of the text. -/
theorem later_toNat {j : UInt8} {n : Nat} (fits : j.toNat + n ≤ len.toNat)
    : (j + UInt8.ofNat n).toNat = j.toNat + n := by
  have bound := len.toNat_lt
  rw [UInt8.toNat_add, UInt8.toNat_ofNat']
  omega

theorem restOf_later {j : UInt8} {n : Nat} (fits : j.toNat + n ≤ len.toNat)
    : restOf pattern len (j + UInt8.ofNat n) = (restOf pattern len j).drop n := by
  rw [restOf, restOf, Cells.load_drop, later_toNat fits, Nat.sub_sub]

/-- What a round of the loop reads, and where it leaves the cursor. -/
structure RoundReads (pattern : Cells UInt8) (len : UInt8) (addr : UInt32) (input : UInt8)
    (builder : CmdBuilder) (symbol : PatternSymbol) : Prop where
  round
    : { (builder.symbol pattern addr input).nextBit with
        j := (builder.symbol pattern addr input).nextBit.j + 1 }
      = builder.round addr input symbol
  fits : builder.j.toNat + symbol.text.length ≤ len.toNat
  rest
    : readSymbols (restOf pattern len builder.j)
      = symbol :: readSymbols ((restOf pattern len builder.j).drop symbol.text.length)

/-- Every round reads one symbol. -/
theorem roundReads (nul : pattern len.toNat = 0) (addr : UInt32) (input : UInt8)
    {builder : CmdBuilder} (inside : builder.j < len)
    : ∃ symbol, RoundReads pattern len addr input builder symbol := by
  have below := UInt8.lt_iff_toNat_lt.mp inside
  have next := next_toNat inside
  have split
      : restOf pattern len builder.j
        = pattern builder.j.toNat :: restOf pattern len (builder.j + 1) :=
    restOf_cons inside
  by_cases isAddress : pattern builder.j.toNat = 0x61
  · have whole : (restOf pattern len (builder.j + 1)).takeWhile isDigit
        ++ (restOf pattern len (builder.j + 1)).dropWhile isDigit
        = restOf pattern len (builder.j + 1) := List.takeWhile_append_dropWhile
    have digits := addressDigits_eq nul 256 (j := builder.j + 1)
      (by rw [UInt8.le_iff_toNat_le]; omega) (by have bound := len.toNat_lt; omega)
    have length : ((restOf pattern len (builder.j + 1)).takeWhile isDigit).length
        ≤ len.toNat - (builder.j.toNat + 1) := by
      rw [← next]
      exact (List.takeWhile_sublist isDigit).length_le.trans_eq (Cells.load_length _ _ _)
    refine ⟨.address ((restOf pattern len (builder.j + 1)).takeWhile isDigit), ?_, ?_, ?_⟩
    · rw [CmdBuilder.symbol, isAddress, digits]
      dsimp only
      rw [if_neg (by decide), if_neg (by decide), if_pos rfl, orBits_j, nextBit_j]
      dsimp only
      rw [UInt8.sub_add_cancel, CmdBuilder.round, CmdBuilder.apply, PatternSymbol.text,
        List.length_cons, Nat.add_comm _ 1, UInt8.ofNat_add, ← UInt8.add_assoc]
      rfl
    · rw [PatternSymbol.text, List.length_cons]
      omega
    · rw [split, isAddress, readSymbols_address, PatternSymbol.text, List.length_cons,
        List.drop_succ_cons]
      have behind := congrArg
        (List.drop ((restOf pattern len (builder.j + 1)).takeWhile isDigit).length) whole
      rw [List.drop_left] at behind
      rw [behind]
  · obtain ⟨same, single⟩ := symbol_char addr input rfl isAddress
    refine ⟨charSymbol (pattern builder.j.toNat), ?_, ?_, ?_⟩
    · rw [same, CmdBuilder.round, single, nextBit_keeps_j, apply_j]
      rfl
    · rw [single]
      omega
    · rw [split, readSymbols_char isAddress, single]
      rfl

/-- Rule for a recursion that goes over the text symbol by symbol: what holds at the end of the
text, and before a symbol if it holds behind it, holds from any cursor on. Witness: induction on the
rounds that are allowed.
-/
theorem cursor_induction (nul : pattern len.toNat = 0) (addr : UInt32) (input : UInt8)
    {motive : Nat → CmdBuilder → Prop}
    (done : ∀ fuel builder, builder.j = len → motive fuel builder)
    (round
      : ∀ fuel builder symbol,
          builder.j < len →
          RoundReads pattern len addr input builder symbol →
          motive fuel (builder.round addr input symbol) →
          motive (fuel + 1) builder)
    (fuel : Nat) {builder : CmdBuilder} (inside : builder.j ≤ len)
    (enough : len.toNat - builder.j.toNat ≤ fuel)
    : motive fuel builder := by
  induction fuel generalizing builder with
  | zero =>
      have low := UInt8.le_iff_toNat_le.mp inside
      exact done 0 builder (UInt8.toNat_inj.mp (by omega))
  | succ fuel ih =>
      rcases UInt8.lt_or_eq_of_le inside with before | last
      · obtain ⟨symbol, reads⟩ := roundReads nul addr input before
        have longer : 0 < symbol.text.length := by cases symbol <;> exact Nat.succ_pos _
        have below := UInt8.lt_iff_toNat_lt.mp before
        have moved : (builder.round addr input symbol).j.toNat
            = builder.j.toNat + symbol.text.length := later_toNat reads.fits
        refine round fuel builder symbol before reads (ih ?_ ?_)
        · rw [UInt8.le_iff_toNat_le]
          exact moved.trans_le reads.fits
        · omega
      · exact done (fuel + 1) builder last

/-- The loop from a cursor on is a fold over the symbols of the rest of the text. -/
theorem createMemoryCmdLoop_eq (nul : pattern len.toNat = 0) (addr : UInt32) (input : UInt8)
    (fuel : Nat) {builder : CmdBuilder} (inside : builder.j ≤ len)
    (enough : len.toNat - builder.j.toNat ≤ fuel)
    : createMemoryCmdLoop pattern len addr input fuel builder
      = (readSymbols (restOf pattern len builder.j)).foldl (CmdBuilder.round addr input)
          builder := by
  refine cursor_induction nul addr input
    (motive := fun fuel builder =>
      createMemoryCmdLoop pattern len addr input fuel builder
        = (readSymbols (restOf pattern len builder.j)).foldl (CmdBuilder.round addr input) builder)
    ?_ ?_ fuel inside enough
  · intro fuel builder last
    rw [last, restOf_end, readSymbols, List.foldl_nil]
    cases fuel with
    | zero => rfl
    | succ fuel => rw [createMemoryCmdLoop, if_neg (by rw [last]; exact UInt8.lt_irrefl len)]
  · intro fuel builder symbol before reads rest
    rw [createMemoryCmdLoop, if_pos before, reads.rest, List.foldl_cons, ← restOf_later reads.fits]
    dsimp only
    rw [reads.round]
    exact rest

/-- The local variables at the start of `create_memory_cmd`. -/
def CmdBuilder.initial : CmdBuilder where
  cmd := Vector.replicate avrCmdSize 0
  cmdByteOffset := 0
  cmdBitOffset := 7
  cmdInputOffset := 7
  j := 0

/-- `create_memory_cmd` is the fold over the symbols of the pattern's text. -/
theorem createMemoryCmd_eq (nul : pattern len.toNat = 0) (addr : UInt32) (input : UInt8)
    : createMemoryCmd pattern len addr input
      = ((readSymbols (pattern.load 0 len.toNat)).foldl (CmdBuilder.round addr input)
          .initial).cmd := by
  have start : (0 : UInt8) ≤ len := UInt8.le_iff_toNat_le.mpr (Nat.zero_le _)
  have bound := len.toNat_lt
  have loop
      : createMemoryCmdLoop pattern len addr input 256 .initial
        = (readSymbols (restOf pattern len 0)).foldl (CmdBuilder.round addr input) .initial :=
    createMemoryCmdLoop_eq nul addr input 256 start
      (Nat.le_of_lt (Nat.lt_of_le_of_lt (Nat.sub_le _ _) bound))
  rw [createMemoryCmd]
  exact congrArg CmdBuilder.cmd loop

end Loop

-----------------------------------------------------------------------------------------
-- Offsets
-----------------------------------------------------------------------------------------

/-- The offsets after `p` symbols, of which `q` are inputs. -/
structure CmdBuilder.Positioned (builder : CmdBuilder) (p q : Nat) : Prop where
  byte : builder.cmdByteOffset = UInt8.ofNat (p / 8)
  bit : builder.cmdBitOffset = 7 - p % 8
  input : builder.cmdInputOffset = 7 - UInt8.ofNat q

theorem initial_positioned : CmdBuilder.initial.Positioned 0 0 := ⟨rfl, rfl, rfl⟩

/-- The number of inputs that a symbol is. -/
def PatternSymbol.inputs : PatternSymbol → Nat
  | .input => 1
  | _ => 0

/-- What a symbol does to the command leaves the offset of the bit, and counts the inputs. -/
theorem CmdBuilder.Positioned.apply {builder : CmdBuilder} {p q : Nat}
    (positioned : builder.Positioned p q) (addr : UInt32) (input : UInt8) (symbol : PatternSymbol)
    : (builder.apply addr input symbol).Positioned p (q + symbol.inputs) := by
  obtain ⟨byte, bit, offset⟩ := positioned
  cases symbol with
  | input =>
      refine ⟨byte, bit, ?_⟩
      change builder.cmdInputOffset - 1 = 7 - UInt8.ofNat (q + 1)
      rw [offset, UInt8.ofNat_add]
      grind
  | _ => exact ⟨byte, bit, offset⟩

/-- A round goes on to the next bit. -/
theorem CmdBuilder.Positioned.round {builder : CmdBuilder} {p q : Nat}
    (positioned : builder.Positioned p q) (addr : UInt32) (input : UInt8) (symbol : PatternSymbol)
    : (builder.round addr input symbol).Positioned (p + 1) (q + symbol.inputs) := by
  obtain ⟨byte, bit, offset⟩ := positioned.apply addr input symbol
  rw [CmdBuilder.round, CmdBuilder.nextBit]
  split
  · rename_i last
    refine ⟨?_, ?_, offset⟩
    · change _ + 1 = _
      rw [byte, show (p + 1) / 8 = p / 8 + 1 by omega, UInt8.ofNat_add]
      rfl
    · change 7 = _
      omega
  · rename_i inside
    refine ⟨?_, ?_, offset⟩
    · rw [show (p + 1) / 8 = p / 8 by omega]
      exact byte
    · change CmdBuilder.cmdBitOffset _ - 1 = _
      omega

end BigBlackHardware
