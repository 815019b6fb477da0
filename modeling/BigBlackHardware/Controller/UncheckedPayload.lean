import BigBlackHardware.Controller.Handlers
import BigBlackHardware.Programmer.PayloadBytes

/-! What `get_mcu_info` reads and where it stores. It looks at no size, and it stores every
terminator at the position reached in the payload.
-/

namespace BigBlackHardware

open Library

/-- A read from `packet_data`, or a store to a pattern array of so many elements. -/
inductive InfoAccess where
  | read (index : Nat)
  | store (index elements : Nat)
  deriving DecidableEq

/-- The elements that are allocated for the pattern with its length at `k`. -/
def patternElements (buf : Cells UInt8) (k : Nat) : Nat := (buf k).toNat + 1

/-- The accesses of reading the pattern at `k`. -/
def patternAccesses (buf : Cells UInt8) (k : Nat) : List InfoAccess :=
  .read k
    :: (List.range (buf k).toNat).flatMap fun i =>
        [.read (k + 1 + i), .store i (patternElements buf k)]

/-- The store of the terminator that comes behind the pattern at `k`, to the array of the pattern at
`target`.
-/
def terminatorAccess (buf : Cells UInt8) (k target : Nat) : InfoAccess :=
  .store (skipPattern buf k) (patternElements buf target)

/-- The accesses of `get_mcu_info`. -/
def getMcuInfoAccesses (buf : Cells UInt8) : List InfoAccess :=
  let loadLo := 0
  let loadHi := skipPattern buf loadLo
  let readLo := skipPattern buf loadHi
  let readHi := skipPattern buf readLo
  let flashWait := skipPattern buf readHi
  let write := flashWait + 1
  let read := skipPattern buf write
  let eepromWait := skipPattern buf read
  patternAccesses buf loadLo ++ [terminatorAccess buf loadLo loadLo]
    ++ patternAccesses buf loadHi ++ [terminatorAccess buf loadHi loadHi]
    ++ patternAccesses buf readLo ++ [terminatorAccess buf readLo readLo]
    ++ patternAccesses buf readHi ++ [terminatorAccess buf readHi loadHi]
    ++ [.read flashWait]
    ++ patternAccesses buf write ++ [terminatorAccess buf write write]
    ++ patternAccesses buf read ++ [terminatorAccess buf read read]
    ++ [.read eepromWait] ++ (List.range avrCmdSize).map fun i => .read (eepromWait + 1 + i)

/-- The payload ends before the bytes that its lengths ask for. -/
def TooShort (request : Packet) : Prop :=
  request.header.dataSize.toNat < infoEnd request.packetData

/-- A LoadMCUInfo packet is decoded safely: what is read lies inside the payload, what is stored
inside the arrays, and a payload that is too short is refused.
-/
structure SafelyDecoded (outQueue packet : Nat) (device : Device) : Prop where
  reads
    : ∀ index,
        .read index ∈ getMcuInfoAccesses (device.desk.packets packet).packetData →
        index < (device.desk.packets packet).header.dataSize.toNat
  stores
    : ∀ index elements,
        .store index elements ∈ getMcuInfoAccesses (device.desk.packets packet).packetData →
        index < elements
  refused
    : TooShort (device.desk.packets packet) →
      (getMcuInfo (device.desk.packets packet) device.rig.heap).1 < 0
        ∧ (final (processLoadMcuInfoPacket outQueue packet device)).rig.mcuInfo
          = device.rig.mcuInfo

-----------------------------------------------------------------------------------------
-- Reads
-----------------------------------------------------------------------------------------

section Reads

variable {buf : Cells UInt8} {k index : Nat}

/-- What is read for a pattern lies before its end. -/
theorem read_patternAccesses (member : .read index ∈ patternAccesses buf k)
    : index < skipPattern buf k := by
  rw [skipPattern]
  rcases List.mem_cons.mp member with length | text
  · have here : index = k := InfoAccess.read.inj length
    omega
  · obtain ⟨i, inside, access⟩ := List.mem_flatMap.mp text
    have below := List.mem_range.mp inside
    have here : index = k + 1 + i := by simpa using access
    omega

/-- `get_mcu_info` stays inside the payload exactly if the payload is long enough for the lengths in
it: the last read is the one of the last enable byte.
-/
theorem getMcuInfo_reads_iff (buf : Cells UInt8) (size : Nat)
    : (∀ index, .read index ∈ getMcuInfoAccesses buf → index < size) ↔ infoEnd buf ≤ size := by
  obtain ⟨loadHi, readLo, readHi, write, read, all⟩ := infoEnd_order buf
  have readHiEnd : skipPattern buf (skipPattern buf (skipPattern buf (skipPattern buf 0)))
      = flashEnd buf := rfl
  have readEnd : skipPattern buf (skipPattern buf (flashEnd buf + 1)) = eepromEnd buf := rfl
  have four : avrCmdSize = 4 := rfl
  constructor
  · intro inside
    have last := inside (eepromEnd buf + 1 + 3) (by
      rw [getMcuInfoAccesses]
      refine List.mem_append_right _ (List.mem_map.mpr ⟨3, by decide, rfl⟩))
    omega
  · intro enough index member
    rw [getMcuInfoAccesses, readHiEnd, readEnd] at member
    simp only [List.mem_append, List.mem_singleton, terminatorAccess, reduceCtorEq, or_false,
      InfoAccess.read.injEq, List.mem_map, List.mem_range] at member
    rcases member with (((((((first | second) | third) | fourth) | wait) | fifth) | sixth) | wait)
      | ⟨i, inside, rfl⟩
    · have before := read_patternAccesses first
      omega
    · have before := read_patternAccesses second
      omega
    · have before := read_patternAccesses third
      omega
    · have before := read_patternAccesses fourth
      rw [readHiEnd] at before
      omega
    · omega
    · have before := read_patternAccesses fifth
      omega
    · have before := read_patternAccesses sixth
      rw [readEnd] at before
      omega
    · omega
    · omega

end Reads

-----------------------------------------------------------------------------------------
-- Stores
-----------------------------------------------------------------------------------------

/-- No terminator of a pattern's own array lies inside it: the position in the payload counts the
length byte as well.
-/
theorem terminator_outside (buf : Cells UInt8) (k : Nat)
    : patternElements buf k ≤ skipPattern buf k := by
  rw [patternElements, skipPattern]
  omega

/-- No LoadMCUInfo packet is decoded safely: already the first terminator is stored behind its
array.
-/
theorem processLoadMcuInfoPacket_notSafelyDecoded (outQueue packet : Nat) (device : Device)
    : ¬ SafelyDecoded outQueue packet device := by
  intro safely
  have first
      : terminatorAccess (device.desk.packets packet).packetData 0 0
        ∈ getMcuInfoAccesses (device.desk.packets packet).packetData := by
    simp [getMcuInfoAccesses]
  have inside := safely.stores _ _ first
  exact absurd inside (Nat.not_lt.mpr (terminator_outside _ 0))

/-- A device after a reset with an empty LoadMCUInfo packet. -/
def emptyDevice : Device where
  rig := .boot (fun _ cmd => cmd) (.boot fun _ _ => 0) ⟨fun _ => 0, 0⟩
  desk :=
    .boot
      (fun _ =>
        { header := ⟨PacketType.loadMcuInfoPacket.val, 1, 0, 0, 0, 0⟩
          rawHeader := fun _ => 0
          packetData := fun _ => 0 })
      (fun _ => 0) ⟨fun _ => 0, 0⟩

/-- The packet is too short, and already the first length byte is read from behind it. -/
theorem emptyDevice_notSafelyDecoded
    : TooShort (emptyDevice.desk.packets 7) ∧ ¬ SafelyDecoded 0 7 emptyDevice := by
  refine ⟨by rw [TooShort]; decide, fun safely => ?_⟩
  have outside := safely.reads 0 (by decide)
  exact absurd outside (Nat.lt_irrefl 0)

end BigBlackHardware
