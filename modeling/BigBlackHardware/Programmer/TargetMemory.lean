import BigBlackHardware.Library.Writes
import BigBlackHardware.Programmer.CommandTrace
import BigBlackHardware.Programmer.InstructionSet

/-! The memory of a target, as the commands that were sent to it determine it, and what programming
makes of it.
-/

namespace BigBlackHardware

open Library

/-- The memories that commands store to: the EEPROM, and the low and the high bytes of flash words.
-/
inductive StoreName where
  | eeprom
  | flashLow
  | flashHigh
  deriving DecidableEq

def StoreName.all : List StoreName := [.eeprom, .flashLow, .flashHigh]

theorem StoreName.mem_all (store : StoreName) : store ∈ all := by cases store <;> decide

/-- The pattern of the instruction that stores to a memory. -/
def StoreName.pattern : StoreName → PatternName
  | .eeprom => .eepromWrite
  | .flashLow => .flashLoadLo
  | .flashHigh => .flashLoadHi

theorem StoreName.pattern_injective {store other : StoreName}
    (same : store.pattern = other.pattern) : store = other := by
  cases store <;> cases other <;> first | rfl | cases same

/-- At some place one of the patterns has a 1 and the other a 0. -/
def Conflict (symbols other : List PatternSymbol) : Prop :=
  ∃ p < 32,
    symbols[p]? = some .one ∧ other[p]? = some .zero
    ∨ symbols[p]? = some .zero ∧ other[p]? = some .one

/-- No command matches patterns in conflict. -/
theorem Conflict.not_matches {symbols other : List PatternSymbol} {cmd : AvrCommand}
    (conflict : Conflict symbols other) (recognised : Matches other cmd)
    : ¬ Matches symbols cmd := by
  intro also
  obtain ⟨p, below, ⟨one, zero⟩ | ⟨zero, one⟩⟩ := conflict
  · have bit := (also p below).1 one
    rw [(recognised p below).2 zero] at bit
    cases bit
  · have bit := (recognised p below).1 one
    rw [(also p below).2 zero] at bit
    cases bit

/-- The instructions of a target. A command is at most one of those that store, and these have room
for a whole byte.
-/
structure InstructionSet where
  symbols : PatternName → List PatternSymbol
  pgmEnable : AvrCommand
  wellFormed : ∀ name, WellFormed (symbols name)
  whole : ∀ store : StoreName, inputMask (symbols store.pattern) = 0xFF
  apart
    : ∀ store : StoreName, ∀ name, name ≠ store.pattern →
        Conflict (symbols store.pattern) (symbols name)
  enable : ∀ store : StoreName, ¬ Matches (symbols store.pattern) pgmEnable

/-- A byte of a memory of the target. -/
abbrev TargetCell := StoreName × UInt32

namespace InstructionSet

variable (set : InstructionSet)

/-- The cell that an instruction with an address stores to. -/
def cell (store : StoreName) (address : UInt32) : TargetCell :=
  (store, address &&& addressMask (set.symbols store.pattern))

/-- What a command stores, if it is one that stores. -/
def write? (cmd : AvrCommand) : Option (TargetCell × UInt8) :=
  (StoreName.all.find? fun store => Matches (set.symbols store.pattern) cmd).map fun store =>
    ((store, addressOf (set.symbols store.pattern) cmd),
      inputOf (set.symbols store.pattern) cmd)

/-- The target's memory after what is logged. -/
def memory (initial : TargetCell → UInt8) (log : List RigEvent) : TargetCell → UInt8 :=
  writeAll initial ((sentCommands log).filterMap set.write?)

variable {set} {cmd : AvrCommand} {address : UInt32} {byte : UInt8}

/-- A command that encodes an instruction that stores is decoded as this one. -/
theorem write?_store {store : StoreName}
    (encodes : Encodes (set.symbols store.pattern) address byte cmd)
    : set.write? cmd = some (set.cell store address, byte) := by
  have only : ∀ other : StoreName, Matches (set.symbols other.pattern) cmd → other = store := by
    intro other also
    by_contra different
    refine (set.apart other store.pattern fun same => ?_).not_matches encodes.matches also
    exact different (StoreName.pattern_injective same.symm)
  have found
      : (StoreName.all.find? fun store => Matches (set.symbols store.pattern) cmd)
        = some store := by
    cases search : StoreName.all.find? fun store => Matches (set.symbols store.pattern) cmd with
    | none =>
        have none := List.find?_eq_none.mp search store store.mem_all
        exact absurd (decide_eq_true encodes.matches) none
    | some other =>
        have also := List.find?_some search
        rw [only other (of_decide_eq_true also)]
  have whole : byte &&& 0xFF = byte := by
    rw [← UInt8.toNat_inj, UInt8.toNat_and]
    exact (Nat.and_two_pow_sub_one_eq_mod byte.toNat 8).trans (Nat.mod_eq_of_lt byte.toNat_lt)
  rw [write?, found, Option.map_some, encodes.address, encodes.input, set.whole, whole, cell]

/-- A command that no instruction that stores matches stores nothing. -/
theorem write?_none
    (others : ∀ store : StoreName, ¬ Matches (set.symbols store.pattern) cmd)
    : set.write? cmd = none := by
  rw [write?, Option.map_eq_none_iff, List.find?_eq_none]
  exact fun store _ recognised => others store (of_decide_eq_true recognised)

/-- A command that encodes another instruction stores nothing. -/
theorem write?_other {name : PatternName} (other : ∀ store : StoreName, name ≠ store.pattern)
    (encodes : Encodes (set.symbols name) address byte cmd)
    : set.write? cmd = none :=
  write?_none fun store => (set.apart store name (other store)).not_matches encodes.matches

/-- Commands that are sent write behind what was written before. -/
theorem memory_sends {rig after : Rig} {sent : List AvrCommand} (sends : Sends rig sent after)
    (initial : TargetCell → UInt8)
    : set.memory initial after.log
      = writeAll (set.memory initial rig.log) (sent.filterMap set.write?) := by
  rw [memory, sends.commands, List.filterMap_append, writeAll_append]
  rfl

/-- Commands that store nothing leave the memory. -/
theorem memory_silent {rig after : Rig} {sent : List AvrCommand} (sends : Sends rig sent after)
    (silent : ∀ cmd ∈ sent, set.write? cmd = none) (initial : TargetCell → UInt8)
    : set.memory initial after.log = set.memory initial rig.log := by
  rw [memory_sends sends, List.filterMap_eq_nil_iff.mpr silent, writeAll_nil]

end InstructionSet

/-- The installed description is that of the instructions. -/
structure Speaks (info : AvrMcuInfo) (set : InstructionSet) : Prop where
  reads : ∀ name, info.symbols name = set.symbols name
  nul : ∀ name, (info.pattern name).1 (info.pattern name).2.toNat = 0
  pgmEnable : info.pgmEnable = set.pgmEnable

/-- The commands made of the patterns encode the instructions. -/
theorem Speaks.encodes {info : AvrMcuInfo} {set : InstructionSet} (speaks : Speaks info set)
    (name : PatternName) (addr : UInt32) (input : UInt8)
    : Encodes (set.symbols name) addr input
        (createMemoryCmd (info.pattern name).1 (info.pattern name).2 addr input) :=
  createMemoryCmd_encodes (set.wellFormed name) (speaks.nul name) (speaks.reads name) addr input

/-- A store command stores its input at its address. -/
theorem Speaks.write? {info : AvrMcuInfo} {set : InstructionSet} (speaks : Speaks info set)
    (store : StoreName) (addr : UInt32) (input : UInt8)
    : set.write?
        (createMemoryCmd (info.pattern store.pattern).1 (info.pattern store.pattern).2 addr input)
      = some (set.cell store addr, input) :=
  InstructionSet.write?_store (speaks.encodes store.pattern addr input)

-----------------------------------------------------------------------------------------
-- Programming
-----------------------------------------------------------------------------------------

/-- The cell for byte `i` of a request: flash is programmed in words, low byte first. -/
def InstructionSet.place (set : InstructionSet) (memData : AvrProgMemData) (i : Nat)
    : TargetCell :=
  match memData.memoryType with
  | .memoryFlash =>
      set.cell (if i % 2 = 0 then .flashLow else .flashHigh)
        (memData.startAddress + .ofNat (i / 2))
  | _ => set.cell .eeprom (memData.startAddress + .ofNat i)

/-- What a request stores with its first `m` bytes. -/
def InstructionSet.stores (set : InstructionSet) (memData : AvrProgMemData) (m : Nat)
    : List (TargetCell × UInt8) :=
  (List.range m).map fun i => (set.place memData i, memData.data.bytes i)

section Programming

variable {info : AvrMcuInfo} {set : InstructionSet} (speaks : Speaks info set)

include speaks

/-- The load commands of words are stores of their bytes, by induction on the words. -/
theorem flashCommands_write? (address : UInt32) (bytes : Nat → UInt8) (words : Nat)
    : ((List.range words).flatMap fun k =>
        [ createMemoryCmd info.flashLoadLoPattern.bytes info.flashLoadLoLen
            (address + .ofNat k) (bytes (2 * k)),
          createMemoryCmd info.flashLoadHiPattern.bytes info.flashLoadHiLen
            (address + .ofNat k) (bytes (2 * k + 1)) ]).map set.write?
      = (List.range (2 * words)).map fun i =>
          some
            (set.cell (if i % 2 = 0 then .flashLow else .flashHigh) (address + .ofNat (i / 2)),
              bytes i) := by
  induction words with
  | zero => rfl
  | succ words ih =>
      have low := speaks.write? .flashLow (address + .ofNat words) (bytes (2 * words))
      have high := speaks.write? .flashHigh (address + .ofNat words) (bytes (2 * words + 1))
      have even : 2 * words % 2 = 0 := by omega
      have odd : (2 * words + 1) % 2 ≠ 0 := by omega
      have half : 2 * words / 2 = words := by omega
      have halfUp : (2 * words + 1) / 2 = words := by omega
      rw [List.range_succ, List.flatMap_append, List.map_append, ih, Nat.mul_succ,
        List.range_succ, List.range_succ, List.map_append, List.map_append, List.append_assoc]
      congr 1
      simp only [List.flatMap_cons, List.flatMap_nil, List.append_nil, List.map_cons, List.map_nil,
        List.singleton_append, if_pos even, if_neg odd, half, halfUp]
      exact congrArg₂ (fun first second => [first, second]) low high

/-- The commands of a request are stores of its bytes, one for each. -/
theorem commands_write? {memData : AvrProgMemData} (loadable : Loadable memData)
    : (memData.commands info).map set.write?
      = (set.stores memData memData.dataLen.toNat).map some := by
  unfold AvrProgMemData.commands InstructionSet.stores InstructionSet.place
  cases memory : memData.memoryType with
  | memoryErr => exact absurd memory loadable.known
  | memoryEeprom =>
      rw [List.map_map, List.map_map]
      exact List.map_congr_left fun i _ => speaks.write? .eeprom _ _
  | memoryFlash =>
      have words : 2 * (memData.dataLen.toNat / 2) = memData.dataLen.toNat := by
        have even := loadable.even memory
        omega
      have load := flashCommands_write? speaks memData.startAddress memData.data.bytes
        (memData.dataLen.toNat / 2)
      rw [words] at load
      rw [List.map_map]
      exact load

/-- The first commands of a request are stores of its first bytes. -/
theorem commands_take_stores {memData : AvrProgMemData} (loadable : Loadable memData) {m : Nat}
    (inside : m ≤ memData.dataLen.toNat)
    : ((memData.commands info).take m).filterMap set.write? = set.stores memData m := by
  have all := congrArg (List.take m) (commands_write? speaks loadable)
  have first : (set.stores memData memData.dataLen.toNat).take m = set.stores memData m := by
    rw [InstructionSet.stores, InstructionSet.stores, ← List.map_take, List.take_range,
      Nat.min_eq_left inside]
  rw [← List.map_take, ← List.map_take, first] at all
  have kept := congrArg (List.filterMap id) all
  rw [List.filterMap_map, List.filterMap_map] at kept
  exact kept.trans List.filterMap_some

end Programming

-----------------------------------------------------------------------------------------
-- Exchanges
-----------------------------------------------------------------------------------------

/-- The commands that were sent to the target with its answers, in order. -/
def exchanges (log : List RigEvent) : List (AvrCommand × AvrCommand) :=
  log.filterMap fun event =>
    match event with
    | .transfer _ cmd answer => some (cmd, answer)
    | _ => none

/-- Nothing but commands, delays and the like happened between two rigs: `said` are the commands
and their answers, and the session and the target are the same.
-/
structure Exchanged (before : Rig) (said : List (AvrCommand × AvrCommand)) (after : Rig)
    : Prop where
  logged : exchanges after.log = exchanges before.log ++ said
  sends : Sends before (said.map Prod.fst) after

theorem Exchanged.refl (rig : Rig) : Exchanged rig [] rig :=
  ⟨by rw [List.append_nil], .refl rig⟩

/-- Exchanges one after the other add up, by associativity. -/
theorem Exchanged.trans {rig middle after : Rig} {first second : List (AvrCommand × AvrCommand)}
    (one : Exchanged rig first middle) (two : Exchanged middle second after)
    : Exchanged rig (first ++ second) after where
  logged := by rw [two.logged, one.logged, List.append_assoc]
  sends := by
    rw [List.map_append]
    exact one.sends.trans two.sends

/-- A load command is exchanged for its answer, whose status it returns. -/
theorem loadMemoryCmd_exchanged (rig : Rig) (cmd : AvrCommand) (delay : Nat)
    : ∃ after,
        loadMemoryCmd cmd delay rig
          = .ok (checkCmdStatus cmd (rig.target rig.log cmd)) after
        ∧ Exchanged rig [(cmd, rig.target rig.log cmd)] after := by
  obtain ⟨after, run, sends⟩ := loadMemoryCmd_sends rig cmd delay
  refine ⟨after, run, ?_, sends⟩
  have transfer
      : programmerWriteRawCmd cmd rig
        = .ok (checkCmdStatus cmd (rig.target rig.log cmd), rig.target rig.log cmd)
            (rig.transferred cmd) := rfl
  rw [loadMemoryCmd, bind_ok transfer] at run
  dsimp only at run
  split at run
  · cases run
    simp [exchanges, Rig.transferred, Rig.note]
  · cases run
    simp [exchanges, Rig.transferred, Rig.note]

/-- The last command is not echoed and all before it are. -/
def FailsAtLast (said : List (AvrCommand × AvrCommand)) : Prop :=
  ∃ passed failed,
    said = passed ++ [failed]
    ∧ (∀ exchange ∈ passed, AnswerPasses exchange.1 exchange.2)
    ∧ ¬ AnswerPasses failed.1 failed.2

/-- An echoed command in front changes nothing about the last one. -/
theorem FailsAtLast.cons {exchange : AvrCommand × AvrCommand}
    {said : List (AvrCommand × AvrCommand)} (passes : AnswerPasses exchange.1 exchange.2)
    (fails : FailsAtLast said) : FailsAtLast (exchange :: said) := by
  obtain ⟨passed, failed, rfl, before, last⟩ := fails
  exact ⟨exchange :: passed, failed, rfl, List.forall_mem_cons.mpr ⟨passes, before⟩, last⟩

/-- Commands are sent up to and with the first that is not echoed, and the status tells whether that
is all of them, by induction on them.
-/
theorem sendCommands_exchanges (delay : Nat) (cmds : List AvrCommand) (rig : Rig)
    : ∃ status after said,
        sendCommands delay cmds rig = .ok status after
        ∧ Exchanged rig said after
        ∧ said.map Prod.fst = cmds.take said.length
        ∧ said.length ≤ cmds.length
        ∧ (0 ≤ status → said.length = cmds.length)
        ∧ (status < 0 → FailsAtLast said) := by
  induction cmds generalizing rig with
  | nil =>
      exact ⟨0, rig, [], rfl, .refl rig, rfl, Nat.le_refl 0, fun _ => rfl,
        fun negative => absurd negative (by decide)⟩
  | cons cmd cmds ih =>
      obtain ⟨one, first, exchanged⟩ := loadMemoryCmd_exchanged rig cmd delay
      let answer := rig.target rig.log cmd
      rw [sendCommands, bind_ok first]
      by_cases failed : checkCmdStatus cmd answer < 0
      · rw [if_pos failed]
        refine ⟨_, one, [(cmd, answer)], rfl, exchanged, rfl, Nat.succ_le_succ (Nat.zero_le _),
          fun passed => absurd failed (Int.not_lt.mpr passed), fun _ => ?_⟩
        exact ⟨[], (cmd, answer), rfl, (fun _ none => absurd none List.not_mem_nil),
          Int.not_le.mpr failed⟩
      · obtain ⟨status, after, said, run, rest, commands, inside, all, stops⟩ := ih one
        rw [if_neg failed]
        refine ⟨status, after, (cmd, answer) :: said, run, exchanged.trans rest,
          congrArg (cmd :: ·) commands, Nat.succ_le_succ inside,
          fun passed => congrArg (· + 1) (all passed), fun negative => ?_⟩
        exact (stops negative).cons (Int.not_lt.mp failed)

end BigBlackHardware
