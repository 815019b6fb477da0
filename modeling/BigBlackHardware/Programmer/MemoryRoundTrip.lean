import BigBlackHardware.Programmer.DescribedTarget
import BigBlackHardware.Programmer.EepromRead

/-! What programming makes of the memory of a target that answers as it likes, and what a read of
the EEPROM then gives.
-/

namespace BigBlackHardware

open Library

/-- How far the commands `said` come in a request that returns a status: to its end if it succeeds;
to the first command that is not echoed, and with it, if it fails; nowhere if it is refused.
-/
structure ComesTo (memData : AvrProgMemData) (status : Int)
    (said : List (AvrCommand × AvrCommand)) : Prop where
  inside : said.length ≤ memData.dataLen.toNat
  all : 0 ≤ status → said.length = memData.dataLen.toNat
  failed : status < 0 → Loadable memData → 0 < memData.dataLen.toNat → FailsAtLast said
  refused : ¬ Loadable memData → said = []

section Programming

variable {set : InstructionSet} {rig : Rig} {block : McuInfoBlock}
  (installed : rig.mcuInfo = some block) (speaks : Speaks block.info set)

include installed speaks

/-- Programming sends commands that store the first bytes of the request, one each. -/
theorem programmerProgramMemory_exchanges (memData : AvrProgMemData)
    : ∃ status after said,
        programmerProgramMemory memData rig = .ok status after
        ∧ Exchanged rig said after
        ∧ (said.map Prod.fst).filterMap set.write? = set.stores memData said.length
        ∧ ComesTo memData status said := by
  by_cases loadable : Loadable memData
  · obtain ⟨begun, delay, silent, same, run⟩ := programmerProgramMemory_eq loadable installed
    have begins : Exchanged rig [] begun := ⟨by rw [same, List.append_nil], silent⟩
    rw [← commands_eq_loadCommands loadable] at run
    by_cases more : 0 < memData.dataLen.toNat
    · obtain ⟨status, after, said, sent, exchanged, commands, inside, all, stops⟩ :=
        sendCommands_exchanges delay (memData.commands block.info) begun
      have length : (memData.commands block.info).length = memData.dataLen.toNat := by
        have sizes := congrArg List.length (commands_write? speaks loadable)
        rwa [List.length_map, List.length_map, InstructionSet.stores, List.length_map,
          List.length_range] at sizes
      rw [length] at inside all
      rw [if_pos more] at run
      refine ⟨status, after, said, run.trans sent, begins.trans exchanged, ?_, inside, all,
        fun negative _ _ => stops negative, fun refused => absurd loadable refused⟩
      rw [commands]
      exact commands_take_stores speaks loadable inside
    · rw [if_neg more] at run
      refine ⟨_, begun, [], run, begins, rfl, Nat.zero_le _, fun _ => ?_, ?_, fun _ => rfl⟩
      · exact (Nat.eq_zero_of_not_pos more).symm
      · exact fun _ _ some => absurd some more
  · refine ⟨-1, rig, [], programmerProgramMemory_refused loadable rig, .refl rig, rfl,
      Nat.zero_le _, ?_, ?_, fun _ => rfl⟩
    · exact fun passed => absurd passed (by decide)
    · exact fun _ valid => absurd valid loadable

/-- Programming stores as many first bytes of the request as commands are sent, one behind the
other, and changes nothing else: all of them if it succeeds, those up to and with the byte of the
first command that is not echoed if it fails at a command, none if the request is refused.
-/
theorem programmerProgramMemory_stores (initial : TargetCell → UInt8) (memData : AvrProgMemData)
    : ∃ status after said,
        programmerProgramMemory memData rig = .ok status after
        ∧ exchanges after.log = exchanges rig.log ++ said
        ∧ set.memory initial after.log
          = writeAll (set.memory initial rig.log) (set.stores memData said.length)
        ∧ ComesTo memData status said := by
  obtain ⟨status, after, said, run, exchanged, stores, comes⟩ :=
    programmerProgramMemory_exchanges installed speaks memData
  refine ⟨status, after, said, run, exchanged.logged, ?_, comes⟩
  rw [InstructionSet.memory_sends exchanged.sends, stores]

end Programming

/-- Two bytes for the EEPROM cells from 3 on. -/
def twoEepromBytes : AvrProgMemData := ⟨3, .memoryEeprom, 2, wordBlock [0x12, 0x34]⟩

/-- Programming them stores them. -/
theorem programmerProgramMemory_stores_two
    : ∃ status after said,
        programmerProgramMemory twoEepromBytes executingRig = .ok status after
        ∧ exchanges after.log = exchanges executingRig.log ++ said
        ∧ smallInstructions.memory (fun _ => 0xFF) after.log
          = writeAll (smallInstructions.memory (fun _ => 0xFF) executingRig.log)
              (smallInstructions.stores twoEepromBytes said.length)
        ∧ ComesTo twoEepromBytes status said :=
  programmerProgramMemory_stores (show executingRig.mcuInfo = some describedBlock from rfl)
    describedBlock_speaks (fun _ => 0xFF) twoEepromBytes

-----------------------------------------------------------------------------------------
-- Reading back
-----------------------------------------------------------------------------------------

/-- The target answers a read of its EEPROM with the byte that stands there. -/
def Rig.Remembers (rig : Rig) (set : InstructionSet) (info : AvrMcuInfo)
    (initial : TargetCell → UInt8) : Prop :=
  ∀ log address,
    dataByte (rig.target log (info.eepromReadCommand address))
    = set.memory initial log (set.cell .eeprom address)

/-- The request asks for `memData`'s bytes from `k` on, and for none behind them. -/
structure ReadsPart (request : AvrReadMemData) (memData : AvrProgMemData) (k : Nat) : Prop where
  eeprom : request.memT = .memoryEeprom
  start : request.startAddress = memData.startAddress + .ofNat k
  inside : k + request.bytesToRead.toNat ≤ memData.dataLen.toNat

/-- No two bytes of the request go to the same EEPROM cell. -/
def InstructionSet.Separates (set : InstructionSet) (memData : AvrProgMemData) : Prop :=
  ∀ i < memData.dataLen.toNat,
    ∀ j < memData.dataLen.toNat,
      set.cell .eeprom (memData.startAddress + .ofNat i)
        = set.cell .eeprom (memData.startAddress + .ofNat j) →
      i = j

section Reading

variable {set : InstructionSet} {rig : Rig} {block : McuInfoBlock}

/-- An EEPROM read command stores nothing. -/
theorem eepromReadCommand_silent {info : AvrMcuInfo} (speaks : Speaks info set)
    (address : UInt32) : set.write? (info.eepromReadCommand address) = none :=
  InstructionSet.write?_other (by rintro ⟨⟩ ⟨⟩) (speaks.encodes .eepromRead address 0)

/-- A transfer of a command that stores nothing leaves the memory. -/
theorem memory_transferred {cmd : AvrCommand} (silent : set.write? cmd = none)
    (initial : TargetCell → UInt8) (rig : Rig)
    : set.memory initial (rig.transferred cmd).log = set.memory initial rig.log :=
  InstructionSet.memory_silent (Sends.transferred rig cmd)
    (List.forall_mem_singleton.mpr silent) initial

/-- Bytes that go to cells of their own all stand there after programming. -/
theorem writeAll_stores {memData : AvrProgMemData} (eeprom : memData.memoryType = .memoryEeprom)
    (separates : set.Separates memData) (memory : TargetCell → UInt8) {i : Nat}
    (inside : i < memData.dataLen.toNat)
    : writeAll memory (set.stores memData memData.dataLen.toNat)
        (set.cell .eeprom (memData.startAddress + .ofNat i))
      = memData.data.bytes i := by
  have place (i : Nat)
      : set.place memData i = set.cell .eeprom (memData.startAddress + .ofNat i) := by
    rw [InstructionSet.place, eeprom]
  rw [← place]
  refine writeAll_range (fun j first k second same => separates j first k second ?_) inside
  rwa [place, place] at same

/-- Reads that come one behind the other carry the bytes that stand in the cells at first, by
induction on the count.
-/
theorem Rig.Remembers.carries {info : AvrMcuInfo} (speaks : Speaks info set)
    {initial : TargetCell → UInt8} {value : Nat → UInt8} (address : Nat → UInt32) (k count : Nat)
    {rig : Rig} (remembers : rig.Remembers set info initial)
    (stands
      : ∀ i, k ≤ i → i < k + count →
          set.memory initial rig.log (set.cell .eeprom (address i)) = value i)
    : rig.Carries value ((List.range' k count).map fun i => info.eepromReadCommand (address i))
        k := by
  induction count generalizing k rig with
  | zero => trivial
  | succ count ih =>
      have kept := memory_transferred (eepromReadCommand_silent speaks (address k)) initial rig
      refine ⟨?_, ih (k + 1) remembers fun i from_ below => ?_⟩
      · rw [remembers]
        exact stands k (Nat.le_refl k) (by omega)
      · rw [kept]
        exact stands i (by omega) (by omega)

/-- What was programmed into the EEPROM is what a read of it gives, as far as the read comes:
programming stored every byte in a cell of its own, and reading stores nothing.
-/
theorem programmerReadMemory_programmed {memData : AvrProgMemData} {status : Int} {middle : Rig}
    (installed : rig.mcuInfo = some block) (speaks : Speaks block.info set)
    {initial : TargetCell → UInt8} (remembers : rig.Remembers set block.info initial)
    (eeprom : memData.memoryType = .memoryEeprom) (separates : set.Separates memData)
    (programmed : programmerProgramMemory memData rig = .ok status middle)
    (succeeded : 0 ≤ status) {request : AvrReadMemData} {k : Nat}
    (asks : ReadsPart request memData k) (buf : Cells UInt8)
    : ∃ read stored after count,
        programmerReadMemory request buf middle = .ok (read, stored) after
        ∧ (0 ≤ read ↔ count = request.bytesToRead.toNat)
        ∧ ∀ i, stored i = if i < count then memData.data.bytes (k + i) else buf i := by
  obtain ⟨kind, start, inside⟩ := asks
  have bound := memData.dataLen.toNat_lt
  -- the memory behind the programming
  obtain ⟨status', after', said, run, exchanged, stores, comes⟩ :=
    programmerProgramMemory_exchanges installed speaks memData
  have sends := exchanged.sends
  obtain ⟨rfl, rfl⟩ : status = status' ∧ middle = after' := by
    rw [programmed] at run
    injection run with status same
    exact ⟨status, same⟩
  rw [comes.all succeeded] at stores
  have remembers' : middle.Remembers set block.info initial := by
    intro log address
    rw [sends.target]
    exact remembers log address
  have stands (i : Nat) (below : i < request.bytesToRead.toNat)
      : set.memory initial middle.log (set.cell .eeprom (request.startAddress + .ofNat i))
        = memData.data.bytes (k + i) := by
    rw [InstructionSet.memory_sends sends, stores, start, UInt32.add_assoc, ← UInt32.ofNat_add]
    exact writeAll_stores eeprom separates _ (by omega)
  have carries
      : middle.Carries (fun i => memData.data.bytes (k + i))
          (request.eepromCommands block.info request.bytesToRead.toNat) 0 := by
    rw [AvrReadMemData.eepromCommands, List.range_eq_range']
    refine remembers'.carries speaks _ 0 request.bytesToRead.toNat fun i _ below => ?_
    exact stands i (by rwa [Nat.zero_add] at below)
  obtain ⟨stored, after, ran, cells, -⟩ :=
    programmerReadMemory_eeprom kind (by omega) (sends.mcuInfo.trans installed) carries buf
  refine ⟨_, stored, after, _, ran, ?_, cells⟩
  constructor
  · intro passed
    by_contra fewer
    rw [if_neg fewer] at passed
    exact absurd passed (by decide)
  · intro full
    rw [if_pos full]
    exact Int.natCast_nonneg _

end Reading

/-- It remembers its EEPROM if EEPROM reads and writes name the same bits of an address. -/
theorem execute_remembers {set : InstructionSet} {info : AvrMcuInfo} (speaks : Speaks info set)
    (masks : addressMask (set.symbols .eepromRead) = addressMask (set.symbols .eepromWrite))
    (initial : TargetCell → UInt8) {rig : Rig} (target : rig.target = set.execute initial)
    : rig.Remembers set info initial := by
  intro log address
  have encodes := speaks.encodes .eepromRead address 0
  have recognised : Matches (set.symbols .eepromRead) (info.eepromReadCommand address) :=
    encodes.matches
  have place
      : addressOf (set.symbols .eepromRead) (info.eepromReadCommand address)
        = address &&& addressMask (set.symbols .eepromRead) :=
    encodes.address
  rw [target, InstructionSet.execute, if_pos recognised, place, masks, dataByte]
  exact Vector.getElem_set_self lastByte_inside

/-- The bytes go to cells of their own. -/
theorem twoEepromBytes_separate : smallInstructions.Separates twoEepromBytes := by
  rw [InstructionSet.Separates]
  decide +kernel

/-- The status of a run that returns. -/
def returned {α : Type} : EStateM.Result Stop Rig α → Option α
  | .ok a _ => some a
  | .error _ _ => none

theorem twoEepromBytes_programmed
    : returned (programmerProgramMemory twoEepromBytes executingRig) = some 0 := by
  decide +kernel

/-- A read of the second of them. -/
def secondByte : AvrReadMemData := ⟨4, 1, .memoryEeprom⟩

theorem programmerReadMemory_programmed_second
    : ∃ status middle,
        programmerProgramMemory twoEepromBytes executingRig = .ok status middle
        ∧ ∃ read stored after count,
            programmerReadMemory secondByte (fun _ => 0) middle = .ok (read, stored) after
            ∧ (0 ≤ read ↔ count = secondByte.bytesToRead.toNat)
            ∧ ∀ i, stored i = if i < count then twoEepromBytes.data.bytes (1 + i) else 0 := by
  have installed : executingRig.mcuInfo = some describedBlock := rfl
  have remembers := execute_remembers describedBlock_speaks (by decide +kernel) (fun _ => 0xFF)
    (show executingRig.target = _ from rfl)
  cases run : programmerProgramMemory twoEepromBytes executingRig with
  | error e middle =>
      have status := twoEepromBytes_programmed
      rw [run] at status
      cases status
  | ok status middle =>
      have zero : some status = some 0 := by
        rw [← twoEepromBytes_programmed, run]
        rfl
      refine ⟨status, middle, rfl, ?_⟩
      exact programmerReadMemory_programmed installed describedBlock_speaks remembers rfl
        twoEepromBytes_separate run (Int.le_of_eq (Option.some.inj zero).symm)
        ⟨rfl, by decide, by decide⟩ fun _ => 0

end BigBlackHardware
