import BigBlackHardware.Programmer.ReadBytes

/-! Reading flash words from a target that echoes every command, and where their bytes end up: the
high byte comes first, and the index wraps after 128 words.
-/

namespace BigBlackHardware

open Library

/-- The byte in the answer to the read-high command of word `k`. -/
def highByte (answers : Nat → AvrCommand) (k : Nat) : UInt8 := lastByte answers (2 * k)

/-- The byte in the answer to the read-low command of word `k`. -/
def lowByte (answers : Nat → AvrCommand) (k : Nat) : UInt8 := lastByte answers (2 * k + 1)

/-- A flash read lays the words out in `buf` as programming takes them: the low byte of each first,
its high byte behind it.
-/
def ReadsAsLoaded (memData : AvrReadMemData) (rig : Rig) (info : AvrMcuInfo)
    (answers : Nat → AvrCommand) (buf : Cells UInt8) : Prop :=
  let words := memData.bytesToRead.toNat / 2
  ∃ stored after,
    programmerReadMemory memData buf (rig.answering answers)
      = .ok ((memData.bytesToRead.toNat : Int), stored) after
    ∧ sentCommands after.log
      = sentCommands rig.log ++ flashReadCommands info words memData.startAddress
    ∧ ∀ k < words,
        stored (2 * k) = lowByte answers k ∧ stored (2 * k + 1) = highByte answers k

/-- The last word whose bytes are stored where those of word `k` are, for `k` below 128. -/
def lastWord (words k : Nat) : Nat := k + 128 * ((words - 1 - k) / 128)

/-- The bytes that are stored in the wrong order, over one another, or not at all, are those that
belong there all the same.
-/
def LayoutKept (words : Nat) (answers : Nat → AvrCommand) (buf : Cells UInt8) : Prop :=
  ∀ k < words,
    if k < 128 then
      highByte answers (lastWord words k) = lowByte answers k
      ∧ lowByte answers (lastWord words k) = highByte answers k
    else buf (2 * k) = lowByte answers k ∧ buf (2 * k + 1) = highByte answers k

/-- Up to 128 words are laid out as they are loaded exactly if the two bytes of each are equal. -/
theorem layoutKept_short {words : Nat} (short : words ≤ 128) (answers : Nat → AvrCommand)
    (buf : Cells UInt8)
    : LayoutKept words answers buf ↔ ∀ k < words, highByte answers k = lowByte answers k := by
  refine forall₂_congr fun k inside => ?_
  have last : lastWord words k = k := by
    rw [lastWord, Nat.div_eq_of_lt (by omega)]
    rfl
  rw [if_pos (by omega), last]
  exact and_iff_left_of_imp Eq.symm

/-- Where word `k` belongs, for `k` below 128, are the bytes of the last word stored there. -/
theorem lastWord_spec {words k : Nat} (inside : k < words) (near : k < 128)
    : lastWord words k < words
      ∧ words ≤ lastWord words k + 128
      ∧ lastWord words k % 128 = k := by
  unfold lastWord
  omega

/-- What the loop leaves in `buf`, word by word. -/
theorem wrapped_layout_iff (words : Nat) (answers : Nat → AvrCommand) (buf : Cells UInt8)
    : (∀ k < words,
        buf.wrapped 256 (lastByte answers) (2 * words) (2 * k) = lowByte answers k
        ∧ buf.wrapped 256 (lastByte answers) (2 * words) (2 * k + 1) = highByte answers k)
      ↔ LayoutKept words answers buf := by
  refine forall₂_congr fun k inside => ?_
  by_cases near : k < 128
  · obtain ⟨before, latest, place⟩ := lastWord_spec inside near
    have high
        : buf.wrapped 256 (lastByte answers) (2 * words) (2 * lastWord words k % 256)
          = highByte answers (lastWord words k) :=
      buf.wrapped_latest _ (by omega) (by omega)
    have low
        : buf.wrapped 256 (lastByte answers) (2 * words) ((2 * lastWord words k + 1) % 256)
          = lowByte answers (lastWord words k) :=
      buf.wrapped_latest _ (by omega) (by omega)
    rw [show 2 * lastWord words k % 256 = 2 * k by omega] at high
    rw [show (2 * lastWord words k + 1) % 256 = 2 * k + 1 by omega] at low
    rw [if_pos near, high, low]
  · rw [if_neg near, buf.wrapped_behind _ _ (by decide) (by omega),
      buf.wrapped_behind _ _ (by decide) (by omega)]

/-- A read that left the bytes at the wrapping index laid the words out as they are loaded exactly
if the bytes misplaced happen to be the right ones.
-/
theorem readsAsLoaded_iff_of_run {memData : AvrReadMemData} {rig after : Rig} {info : AvrMcuInfo}
    {answers : Nat → AvrCommand} {buf : Cells UInt8} (even : memData.bytesToRead.toNat % 2 = 0)
    (run
      : programmerReadMemory memData buf (rig.answering answers)
        = .ok
            ((memData.bytesToRead.toNat : Int),
              buf.wrapped 256 (lastByte answers) memData.bytesToRead.toNat)
            after)
    (sends
      : Sends (rig.answering answers)
          (flashReadCommands info (memData.bytesToRead.toNat / 2) memData.startAddress) after)
    : ReadsAsLoaded memData rig info answers buf
      ↔ LayoutKept (memData.bytesToRead.toNat / 2) answers buf := by
  have all : 2 * (memData.bytesToRead.toNat / 2) = memData.bytesToRead.toNat := by omega
  have layout := wrapped_layout_iff (memData.bytesToRead.toNat / 2) answers buf
  rw [all] at layout
  constructor
  · rintro ⟨stored, after', run', -, words⟩
    have same := run.symm.trans run'
    injection same with result
    injection result with _ same
    subst same
    exact layout.mp words
  · intro kept
    exact ⟨_, after, run, sends.commands, layout.mpr kept⟩

section Reading

variable {memData : AvrReadMemData} (flash : memData.memT = .memoryFlash)
  (even : memData.bytesToRead.toNat % 2 = 0) (limit : memData.bytesToRead.toNat ≤ 1024)
  {rig : Rig} {block : McuInfoBlock} (installed : rig.mcuInfo = some block)
  {answers : Nat → AvrCommand}
  (passed
    : ∀ m cmd,
        (flashReadCommands block.info (memData.bytesToRead.toNat / 2) memData.startAddress)[m]?
          = some cmd →
        AnswerPasses cmd (answers m))
  (buf : Cells UInt8)

include flash even limit installed passed

/-- A flash read of echoed commands returns its count, with the bytes at the wrapping index. -/
theorem programmerReadMemory_answered
    : ∃ after,
        programmerReadMemory memData buf (rig.answering answers)
          = .ok
              ((memData.bytesToRead.toNat : Int),
                buf.wrapped 256 (lastByte answers) memData.bytesToRead.toNat)
              after
        ∧ Sends (rig.answering answers)
            (flashReadCommands block.info (memData.bytesToRead.toNat / 2) memData.startAddress)
            after := by
  have installed' : (rig.answering answers).mcuInfo = some block := installed
  have known : memData.memT ≠ .memoryErr := by rw [flash]; decide
  have rounds : (memData.bytesToRead.toNat + 1) / 2 = memData.bytesToRead.toNat / 2 := by omega
  have cmds
      : readCommands block.info memData
        = flashReadCommands block.info (memData.bytesToRead.toNat / 2)
            memData.startAddress := by
    rw [readCommands, flash]
    exact congrArg (flashReadCommands block.info · memData.startAddress) rounds
  have next := answering_next rig answers
  have echoed : (rig.answering answers).PassesAll (readCommands block.info memData) := by
    rw [next.passesAll_iff, cmds]
    intro m cmd found
    rw [Nat.zero_add]
    exact passed m cmd found
  have all := (memoryStores_all_iff memData block.info (rig.answering answers)).mpr echoed
  have count
      : (memoryStores memData block.info (rig.answering answers)).length
        = memData.bytesToRead.toNat := by
    rw [all, cmds, flashReadCommands_length]
    omega
  have stores
      : memoryStores memData block.info (rig.answering answers)
        = (List.range memData.bytesToRead.toNat).map fun i => (i % 256, lastByte answers i) := by
    have size : memData.indexSize = 256 := by rw [AvrReadMemData.indexSize, flash]
    rw [← count, ← size]
    exact memoryStores_carries (next.carries _)
  have status : toI16 memData.bytesToRead.toNat = memData.bytesToRead.toNat :=
    toI16_of_lt (by omega)
  obtain ⟨after, run, sends⟩ := programmerReadMemory_run known installed' buf
  rw [all, List.take_of_length_le (Nat.le_succ _), cmds] at sends
  rw [if_pos all, status, stores, Cells.storeEach_range] at run
  exact ⟨after, run, sends⟩

/-- A flash read lays the words out as they are loaded exactly if the bytes that its order and its
8-bit index misplace happen to be the right ones.
-/
theorem programmerReadMemory_asLoaded_iff
    : ReadsAsLoaded memData rig block.info answers buf
      ↔ LayoutKept (memData.bytesToRead.toNat / 2) answers buf := by
  obtain ⟨after, run, sends⟩ := programmerReadMemory_answered flash even limit installed passed buf
  exact readsAsLoaded_iff_of_run even run sends

end Reading

/-- The answers of a target that echoes these commands. -/
def echoes (cmds : List AvrCommand) (m : Nat) : AvrCommand :=
  (cmds[m]?.map echoAnswer).getD (Vector.replicate avrCmdSize 0)

theorem echoes_passes (cmds : List AvrCommand) (m : Nat) (cmd : AvrCommand)
    (found : cmds[m]? = some cmd) : AnswerPasses cmd (echoes cmds m) := by
  rw [echoes, found]
  exact Int.le_of_eq (checkCmdStatus_echoAnswer cmd).symm

/-- A read of the word at address 0. -/
def wordRead : AvrReadMemData := ⟨0, 2, .memoryFlash⟩

/-- An echo carries the address, the same for both bytes, so that it does not matter which one comes
first.
-/
theorem programmerReadMemory_asLoaded_word
    : ReadsAsLoaded wordRead flashRig flashMcuInfo (echoes (flashReadCommands flashMcuInfo 1 0))
        (fun _ => 0) :=
  (programmerReadMemory_asLoaded_iff rfl rfl (by decide) flashRig_installed
    (echoes_passes _) _).mpr
    ((layoutKept_short (by decide) _ _).mpr (by decide +kernel))

/-- A read of 129 words from address 0 on. -/
def longRead : AvrReadMemData := ⟨0, 258, .memoryFlash⟩

/-- The last word goes where the first belongs. -/
theorem longRead_notAsLoaded
    : (∀ m cmd,
        (flashReadCommands flashMcuInfo 129 0)[m]? = some cmd →
        AnswerPasses cmd (echoes (flashReadCommands flashMcuInfo 129 0) m))
      ∧ ¬ ReadsAsLoaded longRead flashRig flashMcuInfo
          (echoes (flashReadCommands flashMcuInfo 129 0)) (fun _ => 0) := by
  refine ⟨echoes_passes _, fun loaded => ?_⟩
  have flash : longRead.memT = .memoryFlash := rfl
  obtain ⟨after, run, sends⟩ := programmerReadMemory_answered flash rfl (by decide)
    flashRig_installed (echoes_passes _) (fun _ => 0)
  have kept := (readsAsLoaded_iff_of_run rfl run sends).mp loaded 0 (by decide)
  exact absurd kept.1 (by decide +kernel)

end BigBlackHardware
