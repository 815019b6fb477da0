import Mathlib.Data.Finset.Card
import BigBlackHardware.Programmer.EepromRead
import BigBlackHardware.Programmer.Outcomes

/-! Whether the bytes of a read stay inside the packet that takes them, and whether they are as many
as were asked for. The count comes from the request, and nothing checks it.
-/

namespace BigBlackHardware

open Library

/-- What a read of the request stores. -/
def Rig.storesOf (rig : Rig) (memData : AvrReadMemData) : List (Nat × UInt8) :=
  match rig.mcuInfo with
  | some block => memoryStores memData block.info rig
  | none => []

/-- The number of bytes stored: of the stores, or of the cells stored to. -/
def storedBytes (byCell : Bool) (stores : List (Nat × UInt8)) : Nat :=
  if byCell then (stores.map Prod.fst).toFinset.card else stores.length

/-- The read fails without a command. -/
def RefusesRead (memData : AvrReadMemData) (rig : Rig) (buf : Cells UInt8) : Prop :=
  ∃ status stored after,
    programmerReadMemory memData buf rig = .ok (status, stored) after
    ∧ status < 0
    ∧ sentCommands after.log = sentCommands rig.log

/-- The read stores nothing but inside `packet_data`, and what it returns, unless negative, is the
count of the request and of the bytes stored.
-/
structure ReadStaysInside (byCell : Bool) (memData : AvrReadMemData) (rig : Rig)
    (buf : Cells UInt8) : Prop where
  stores
    : ∀ status stored after,
        programmerReadMemory memData buf rig = .ok (status, stored) after →
        stored = buf.storeEach (rig.storesOf memData)
        ∧ ∀ store ∈ rig.storesOf memData, store.1 < packetDataLength
  complete
    : ∀ status stored after,
        programmerReadMemory memData buf rig = .ok (status, stored) after →
        0 ≤ status →
        storedBytes byCell (rig.storesOf memData) = memData.bytesToRead.toNat
        ∧ status = memData.bytesToRead.toNat

/-- The read is refused or stays inside. -/
def ReadBounded (byCell : Bool) (memData : AvrReadMemData) (rig : Rig) (buf : Cells UInt8)
    : Prop :=
  RefusesRead memData rig buf ∨ ReadStaysInside byCell memData rig buf

/-- The most bytes that a flash read counts right: those that its 16-bit status holds, or those that
its 8-bit index reaches.
-/
def flashReadLimit (byCell : Bool) : Nat := if byCell then UInt8.size else 2 ^ 15 - 1

/-- The bytes asked for fit in the packet, or a command fails before it is full; a flash read is of
whole words and not too long, or it fails.
-/
def ReadFits (byCell : Bool) (memData : AvrReadMemData) (rig : Rig) : Prop :=
  ∀ block,
    rig.mcuInfo = some block →
    match memData.memT with
    | .memoryErr => True
    | .memoryEeprom =>
        memData.bytesToRead.toNat ≤ packetDataLength
        ∨ ¬ rig.PassesAll
            (eepromReadCommands block.info (packetDataLength + 1) memData.startAddress)
    | .memoryFlash =>
        ¬ rig.PassesAll (readCommands block.info memData)
        ∨ toI16 memData.bytesToRead.toNat < 0
        ∨ memData.bytesToRead.toNat % 2 = 0
          ∧ memData.bytesToRead.toNat ≤ flashReadLimit byCell

-----------------------------------------------------------------------------------------
-- Indices
-----------------------------------------------------------------------------------------

/-- An index that wraps at `size` reaches the first `count` cells, or all below `size`. -/
theorem card_wrapped_range {size : Nat} (some : 0 < size) (count : Nat)
    : ((List.range count).map (· % size)).toFinset.card = min count size := by
  have cells : ((List.range count).map (· % size)).toFinset = Finset.range (min count size) := by
    ext i
    simp only [List.mem_toFinset, List.mem_map, List.mem_range, Finset.mem_range]
    constructor
    · rintro ⟨k, inside, rfl⟩
      exact Nat.lt_min.mpr ⟨Nat.lt_of_le_of_lt (Nat.mod_le k size) inside, Nat.mod_lt k some⟩
    · intro inside
      obtain ⟨low, high⟩ := Nat.lt_min.mp inside
      exact ⟨i, low, Nat.mod_eq_of_lt high⟩
  rw [cells, Finset.card_range]

/-- The number of commands of a request. -/
theorem readCommands_length (info : AvrMcuInfo) {memData : AvrReadMemData}
    (known : memData.memT ≠ .memoryErr)
    : (readCommands info memData).length
      = if memData.memT = .memoryFlash then 2 * ((memData.bytesToRead.toNat + 1) / 2)
        else memData.bytesToRead.toNat := by
  cases memory : memData.memT with
  | memoryErr => exact absurd memory known
  | memoryFlash =>
      rw [readCommands, memory, if_pos rfl]
      exact flashReadCommands_length info _ _
  | memoryEeprom =>
      rw [readCommands_eeprom memory, AvrReadMemData.eepromCommands_length, if_neg (by decide)]

/-- The first commands of an EEPROM read. -/
theorem readCommands_eeprom_take {info : AvrMcuInfo} {memData : AvrReadMemData} {m : Nat}
    (eeprom : memData.memT = .memoryEeprom) (inside : m ≤ memData.bytesToRead.toNat)
    : (readCommands info memData).take m = eepromReadCommands info m memData.startAddress := by
  rw [readCommands_eeprom eeprom, AvrReadMemData.eepromCommands_take _ _ inside,
    eepromReadCommands_eq]
  rfl

/-- A count is its own 16-bit status exactly below 2^15. -/
theorem toI16_eq_self_iff {value : Nat} : toI16 value = value ↔ value < 2 ^ 15 := by
  refine ⟨fun same => ?_, toI16_of_lt⟩
  have below : toI16 value < (2 ^ 16 + 1) / 2 := Int.bmod_lt (by decide)
  omega

/-- When the number of bytes that the rounds of a flash read store is the count and its status. -/
theorem flash_count_iff (byCell : Bool) {count : Nat}
    : (0 ≤ toI16 count →
        (if byCell then min (2 * ((count + 1) / 2)) UInt8.size else 2 * ((count + 1) / 2)) = count
        ∧ toI16 count = count)
      ↔ toI16 count < 0 ∨ count % 2 = 0 ∧ count ≤ flashReadLimit byCell := by
  have cells : UInt8.size = 256 := rfl
  rw [toI16_eq_self_iff, ← Int.not_le, imp_iff_not_or, flashReadLimit, cells]
  refine or_congr_right ?_
  cases byCell with
  | false =>
      simp only [Bool.false_eq_true, if_false]
      omega
  | true =>
      simp only [if_true]
      omega

/-- A request without commands reads nothing. -/
theorem readCommands_eq_nil {info : AvrMcuInfo} {memData : AvrReadMemData}
    (known : memData.memT ≠ .memoryErr) (nothing : readCommands info memData = [])
    : memData.bytesToRead.toNat = 0 := by
  have length := readCommands_length info known
  rw [nothing, List.length_nil] at length
  split at length
  · omega
  · exact length.symm

section Stores

variable {memData : AvrReadMemData} {rig : Rig} {block : McuInfoBlock}
  (installed : rig.mcuInfo = some block)

theorem AvrReadMemData.indexSize_pos (memData : AvrReadMemData) : 0 < memData.indexSize := by
  unfold AvrReadMemData.indexSize
  split <;> decide

include installed

theorem Rig.storesOf_installed : rig.storesOf memData = memoryStores memData block.info rig := by
  rw [Rig.storesOf, installed]

/-- The stores are at the values of the index, one after the other. -/
theorem storesOf_indices
    : (rig.storesOf memData).map Prod.fst
      = (List.range (rig.storesOf memData).length).map (· % memData.indexSize) := by
  rw [Rig.storesOf_installed installed, memoryStores, readStores_indices, List.range_eq_range']

/-- The stores and the cells that they reach. -/
theorem storedBytes_storesOf (byCell : Bool)
    : storedBytes byCell (rig.storesOf memData)
      = if byCell then min (rig.storesOf memData).length memData.indexSize
        else (rig.storesOf memData).length := by
  rw [storedBytes, storesOf_indices installed, card_wrapped_range memData.indexSize_pos]

/-- The stores are inside if the values of the index are. -/
theorem storesOf_inside_iff
    : (∀ store ∈ rig.storesOf memData, store.1 < packetDataLength)
      ↔ ∀ k < (rig.storesOf memData).length, k % memData.indexSize < packetDataLength := by
  have indices : (∀ i ∈ (rig.storesOf memData).map Prod.fst, i < packetDataLength)
      ↔ ∀ k < (rig.storesOf memData).length, k % memData.indexSize < packetDataLength := by
    rw [storesOf_indices installed]
    simp only [List.forall_mem_map, List.mem_range]
  rw [← indices, List.forall_mem_map]

/-- There is a store for every command exactly if the target echoes them all. -/
theorem storesOf_length_iff
    : (rig.storesOf memData).length = (readCommands block.info memData).length
      ↔ rig.PassesAll (readCommands block.info memData) := by
  rw [Rig.storesOf_installed installed]
  exact memoryStores_all_iff memData block.info rig

/-- A known memory is read with the stores, and the status tells whether all were made. -/
theorem programmerReadMemory_storesOf (known : memData.memT ≠ .memoryErr) (buf : Cells UInt8)
    : let cmds := readCommands block.info memData
      let stores := rig.storesOf memData
      ∃ after,
        programmerReadMemory memData buf rig
          = .ok
              (if stores.length = cmds.length then toI16 memData.bytesToRead.toNat else -1,
                buf.storeEach stores)
              after
        ∧ sentCommands after.log = sentCommands rig.log ++ cmds.take (stores.length + 1) := by
  intro cmds stores
  obtain ⟨after, run, sends⟩ := programmerReadMemory_run known installed buf
  have commands := sends.commands
  rw [← Rig.storesOf_installed installed] at run commands
  exact ⟨after, run, commands⟩

/-- What a read of a known memory returns, stores and sends. -/
theorem storesOf_of_read (known : memData.memT ≠ .memoryErr) {buf stored : Cells UInt8}
    {status : Int} {after : Rig}
    (run : programmerReadMemory memData buf rig = .ok (status, stored) after)
    : let cmds := readCommands block.info memData
      let stores := rig.storesOf memData
      status = (if stores.length = cmds.length then toI16 memData.bytesToRead.toNat else -1)
      ∧ stored = buf.storeEach stores
      ∧ sentCommands after.log = sentCommands rig.log ++ cmds.take (stores.length + 1) := by
  obtain ⟨other, same, commands⟩ := programmerReadMemory_storesOf installed known buf
  rw [run] at same
  injection same with result after'
  injection result with status' stored'
  rw [after']
  exact ⟨status', stored', commands⟩

/-- A known memory of which something is to be read is not refused. -/
theorem readBounded_iff_staysInside (known : memData.memT ≠ .memoryErr) {byCell : Bool}
    {buf : Cells UInt8}
    : ReadBounded byCell memData rig buf ↔ ReadStaysInside byCell memData rig buf := by
  refine or_iff_right_of_imp ?_
  rintro ⟨status, stored, after, run, negative, silent⟩
  obtain ⟨returned, -, commands⟩ := storesOf_of_read installed known run
  rw [silent, List.self_eq_append_right, List.take_eq_nil_iff] at commands
  have nothing := commands.resolve_left (Nat.succ_ne_zero _)
  have zero := readCommands_eq_nil known nothing
  have none : (rig.storesOf memData).length = (readCommands block.info memData).length := by
    rw [storesOf_length_iff installed, nothing]
    trivial
  rw [returned, if_pos none, zero] at negative
  exact absurd negative (by decide)

/-- Whether a read stays inside, by its stores. -/
theorem readStaysInside_iff (known : memData.memT ≠ .memoryErr) {byCell : Bool}
    {buf : Cells UInt8}
    : ReadStaysInside byCell memData rig buf
      ↔ (∀ k < (rig.storesOf memData).length, k % memData.indexSize < packetDataLength)
        ∧ (rig.PassesAll (readCommands block.info memData) →
            0 ≤ toI16 memData.bytesToRead.toNat →
            storedBytes byCell (rig.storesOf memData) = memData.bytesToRead.toNat
            ∧ toI16 memData.bytesToRead.toNat = memData.bytesToRead.toNat) := by
  rw [← storesOf_length_iff installed, ← storesOf_inside_iff installed]
  constructor
  · intro inside
    obtain ⟨after, run, -⟩ := programmerReadMemory_storesOf installed known buf
    refine ⟨(inside.stores _ _ _ run).2, fun all succeeds => ?_⟩
    rw [if_pos all] at run
    exact inside.complete _ _ _ run succeeds
  · rintro ⟨inside, complete⟩
    constructor
    · intro status stored after run
      exact ⟨(storesOf_of_read installed known run).2.1, inside⟩
    · intro status stored after run succeeds
      have returned := (storesOf_of_read installed known run).1
      by_cases all : (rig.storesOf memData).length = (readCommands block.info memData).length
      · rw [if_pos all] at returned
        rw [returned] at succeeds ⊢
        exact complete all succeeds
      · rw [if_neg all] at returned
        rw [returned] at succeeds
        exact absurd succeeds (by decide)

/-- An EEPROM read is bounded if the bytes fit, or if a command fails before the packet is full. -/
theorem readBounded_eeprom_iff (eeprom : memData.memT = .memoryEeprom) (byCell : Bool)
    (buf : Cells UInt8)
    : ReadBounded byCell memData rig buf
      ↔ memData.bytesToRead.toNat ≤ packetDataLength
        ∨ ¬ rig.PassesAll
            (eepromReadCommands block.info (packetDataLength + 1) memData.startAddress) := by
  have known : memData.memT ≠ .memoryErr := by rw [eeprom]; decide
  have size : memData.indexSize = UInt16.size := by rw [AvrReadMemData.indexSize, eeprom]
  have wide : packetDataLength < UInt16.size := by decide
  have most : (rig.storesOf memData).length ≤ memData.bytesToRead.toNat := by
    rw [Rig.storesOf_installed installed]
    exact memoryStores_length_le eeprom block.info rig
  -- The stores are few exactly under the condition.
  have few
      : (rig.storesOf memData).length ≤ packetDataLength
        ↔ memData.bytesToRead.toNat ≤ packetDataLength
          ∨ ¬ rig.PassesAll
              (eepromReadCommands block.info (packetDataLength + 1) memData.startAddress) := by
    by_cases short : memData.bytesToRead.toNat ≤ packetDataLength
    · exact iff_of_true (Nat.le_trans most short) (Or.inl short)
    · have long : packetDataLength + 1 ≤ (readCommands block.info memData).length := by
        rw [readCommands_eeprom eeprom, AvrReadMemData.eepromCommands_length]
        exact Nat.not_le.mp short
      have more := le_readStores_iff memData.indexSize 0 rig long
      rw [readCommands_eeprom_take eeprom (Nat.not_le.mp short)] at more
      rw [or_iff_right short, ← more, Rig.storesOf_installed installed, memoryStores]
      exact Nat.not_lt.symm
  rw [readBounded_iff_staysInside installed known, readStaysInside_iff installed known, ← few]
  constructor
  · rintro ⟨inside, -⟩
    by_contra many
    have last := inside packetDataLength (Nat.not_le.mp many)
    rw [size, Nat.mod_eq_of_lt wide] at last
    exact Nat.lt_irrefl _ last
  · intro fits
    constructor
    · intro k before
      exact Nat.lt_of_le_of_lt (Nat.mod_le k _) (Nat.lt_of_lt_of_le before fits)
    · intro passes _
      have all := (storesOf_length_iff installed).mpr passes
      rw [readCommands_eeprom eeprom, AvrReadMemData.eepromCommands_length] at all
      have count : toI16 memData.bytesToRead.toNat = memData.bytesToRead.toNat := by
        have limit : packetDataLength = 1024 := rfl
        exact toI16_of_lt (by omega)
      refine ⟨?_, count⟩
      rw [storedBytes_storesOf installed, size, all]
      have below : memData.bytesToRead.toNat ≤ UInt16.size := by
        rw [← all]
        exact Nat.le_of_lt (Nat.lt_of_le_of_lt fits wide)
      rw [Nat.min_eq_left below, ite_self]

/-- A flash read is bounded if a command fails, if its status is negative, or if its count is right.
-/
theorem readBounded_flash_iff (flash : memData.memT = .memoryFlash) (byCell : Bool)
    (buf : Cells UInt8)
    : ReadBounded byCell memData rig buf
      ↔ ¬ rig.PassesAll (readCommands block.info memData)
        ∨ toI16 memData.bytesToRead.toNat < 0
        ∨ memData.bytesToRead.toNat % 2 = 0
          ∧ memData.bytesToRead.toNat ≤ flashReadLimit byCell := by
  have known : memData.memT ≠ .memoryErr := by rw [flash]; decide
  have size : memData.indexSize = UInt8.size := by rw [AvrReadMemData.indexSize, flash]
  have inside : ∀ k < (rig.storesOf memData).length, k % memData.indexSize < packetDataLength := by
    intro k _
    rw [size]
    exact Nat.lt_trans (Nat.mod_lt k (by decide)) (by decide)
  rw [readBounded_iff_staysInside installed known, readStaysInside_iff installed known,
    and_iff_right inside]
  by_cases passes : rig.PassesAll (readCommands block.info memData)
  · have all := (storesOf_length_iff installed).mpr passes
    rw [readCommands_length block.info known, if_pos flash] at all
    rw [or_iff_right (not_not.mpr passes), forall_prop_of_true passes,
      storedBytes_storesOf installed, size, all]
    exact flash_count_iff byCell
  · exact iff_of_true (fun all => absurd all passes) (Or.inl passes)

end Stores

/-- Without `mcu_info` nothing is stored, and nothing but an empty flash read returns a count. -/
theorem readBounded_missing {memData : AvrReadMemData} {rig : Rig} (missing : rig.mcuInfo = none)
    (byCell : Bool) (buf : Cells UInt8) : ReadBounded byCell memData rig buf := by
  have nothing : rig.storesOf memData = [] := by rw [Rig.storesOf, missing]
  by_cases needs : memData.NeedsInfo
  · have stops := programmerReadMemory_null buf missing needs
    refine Or.inr ⟨fun _ _ _ run => ?_, fun _ _ _ run => ?_⟩ <;>
      · rw [stops] at run
        cases run
  · cases memory : memData.memT with
    | memoryErr =>
        refine Or.inl ⟨-1, buf, rig, ?_, by decide, rfl⟩
        rw [programmerReadMemory, memory]
        rfl
    | memoryEeprom => exact absurd (Or.inr memory) needs
    | memoryFlash =>
        have zero : memData.bytesToRead.toNat = 0 :=
          not_not.mp fun some => needs (Or.inl ⟨memory, some⟩)
        have returns : programmerReadMemory memData buf rig = .ok (0, buf) rig := by
          rw [programmerReadMemory, memory]
          change readFlashMemory memData buf rig = _
          rw [readFlashMemory, zero]
          rfl
        refine Or.inr ⟨fun status stored after run => ?_, fun status stored after run _ => ?_⟩
        · cases returns.symm.trans run
          rw [nothing]
          exact ⟨rfl, by simp⟩
        · cases returns.symm.trans run
          rw [nothing, zero, storedBytes]
          exact ⟨by simp, rfl⟩

/-- Whether a read is bounded, for any request. -/
theorem readBounded_iff (byCell : Bool) (memData : AvrReadMemData) (rig : Rig) (buf : Cells UInt8)
    : ReadBounded byCell memData rig buf ↔ ReadFits byCell memData rig := by
  cases installed : rig.mcuInfo with
  | none =>
      refine iff_of_true (readBounded_missing installed byCell buf) fun block found => ?_
      rw [installed] at found
      cases found
  | some block =>
      have only {fits : McuInfoBlock → Prop}
          : (∀ other, rig.mcuInfo = some other → fits other) ↔ fits block := by
        rw [installed]
        simp
      rw [ReadFits, only]
      cases memory : memData.memT with
      | memoryErr =>
          refine iff_of_true (Or.inl ⟨-1, buf, rig, ?_, by decide, rfl⟩) trivial
          rw [programmerReadMemory, memory]
          rfl
      | memoryEeprom => exact readBounded_eeprom_iff installed memory byCell buf
      | memoryFlash => exact readBounded_flash_iff installed memory byCell buf

/-- A request of nine bytes is decoded, and the read that it asks for is bounded exactly if it fits:
the packet that takes the bytes is not looked at.
-/
theorem readRequest_bounded_iff (byCell : Bool) (packet : Packet)
    (size : packet.header.dataSize = readMemFixedSize) (rig : Rig) (buf : Cells UInt8)
    : ∃ memData,
        getReadMemData packet = .ok memData
        ∧ (ReadBounded byCell memData rig buf ↔ ReadFits byCell memData rig) := by
  obtain ⟨memData, decoded⟩ : ∃ memData, getReadMemData packet = .ok memData := by
    rw [getReadMemData, if_neg (not_not.mpr size)]
    exact ⟨_, rfl⟩
  exact ⟨memData, decoded, readBounded_iff byCell memData rig buf⟩

/-- A request to read so many bytes of EEPROM, from the address 0 on. -/
def eepromRequest (high low : UInt8) : Packet where
  header := ⟨PacketType.readMemoryPacket.val, PacketGroup.programmerGroup.val, 9, 0, 0, 0⟩
  rawHeader := fun _ => 0
  packetData := fun i => [plEepromMemoryByte, 0, 0, 0, 0, 0, 0, high, low][i]?.getD 0

/-- Whether the read of two bytes is bounded is settled by the theorem. -/
theorem readRequest_bounded_two
    : ∃ memData,
        getReadMemData (eepromRequest 0 2) = .ok memData
        ∧ (ReadBounded true memData (eepromRig 0) (fun _ => 0)
          ↔ ReadFits true memData (eepromRig 0)) :=
  readRequest_bounded_iff true (eepromRequest 0 2) rfl (eepromRig 0) (fun _ => 0)

/-- A target that echoes everything lets 1025 bytes be stored. -/
theorem eepromRequest_unbounded
    : ∃ memData,
        getReadMemData (eepromRequest 4 1) = .ok memData
        ∧ ∀ byCell, ¬ ReadBounded byCell memData flashRig (fun _ => 0) := by
  refine ⟨⟨0, 1025, .memoryEeprom⟩, by decide +kernel, fun byCell bounded => ?_⟩
  have fits := (readBounded_eeprom_iff flashRig_installed rfl byCell _).mp bounded
  rcases fits with short | fails
  · exact absurd short (by decide)
  · refine fails ?_
    have echoed (cmd : AvrCommand) (log : List RigEvent)
        : checkCmdStatus cmd (flashRig.target log cmd) = 0 := checkCmdStatus_echoAnswer cmd
    exact (passesAll_of_status fun cmd _ log => iff_of_true (echoed cmd log) trivial).mpr
      fun _ _ => trivial

end BigBlackHardware
