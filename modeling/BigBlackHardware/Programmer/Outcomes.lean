import BigBlackHardware.Programmer.Working
import BigBlackHardware.Programmer.ReadBytes

/-! How programming and reading can end: which calls dereference a missing `mcu_info`, and which
reads succeed.
-/

namespace BigBlackHardware

open Library

section Returning

/-- An `mcu_info` is installed. -/
def Described (rig : Rig) : Prop := ∃ block, rig.mcuInfo = some block

/-- With an installed `mcu_info` a program that uses a session returns, by induction on it. -/
theorem SessionProgram.returns {α : Type} {m : RigM α} (program : SessionProgram m)
    : Triple Described m (fun _ => Described) (fun _ _ => False) := by
  induction program with
  | pure a => exact .pure fun _ h => h
  | bind _ _ first next => exact .bind first next
  | readMcuInfo =>
      rintro rig ⟨block, installed⟩
      rw [readMcuInfo_installed installed]
      exact ⟨block, installed⟩
  | writeRawCmd cmd => exact fun _ h => h
  | osiSleep ms => exact fun _ h => h
  | sysResetMcu status => exact fun _ h => h
  | indeterminate => exact fun _ h => h

/-- Such a program as an equation. -/
theorem SessionProgram.returns_eq {α : Type} {m : RigM α} (program : SessionProgram m) {rig : Rig}
    {block : McuInfoBlock} (installed : rig.mcuInfo = some block)
    : ∃ a after, m rig = .ok a after := by
  have run := program.returns rig ⟨block, installed⟩
  cases result : m rig with
  | ok a after => exact ⟨a, after, rfl⟩
  | error e after => rw [result] at run; exact run.elim

end Returning

-----------------------------------------------------------------------------------------
-- Programming
-----------------------------------------------------------------------------------------

/-- Programming this data needs the description of the target. -/
def AvrProgMemData.NeedsInfo (memData : AvrProgMemData) : Prop :=
  memData.dataLen ≠ 0
  ∧ (memData.memoryType = .memoryFlash ∧ memData.dataLen % 2 = 0
    ∨ memData.memoryType = .memoryEeprom)

instance (memData : AvrProgMemData) : Decidable memData.NeedsInfo :=
  inferInstanceAs (Decidable (_ ∧ _))

/-- Without `mcu_info` programming stops for data that needs it. -/
theorem programmerProgramMemory_stops {memData : AvrProgMemData} (rig : Rig)
    (missing : rig.mcuInfo = none) (needs : memData.NeedsInfo)
    : ∃ after, programmerProgramMemory memData rig = .error .nullMcuInfo after := by
  obtain ⟨some, known⟩ := needs
  have junk : indeterminate rig = .ok rig.junk.value { rig with junk := rig.junk.rest } := rfl
  have null : readMcuInfo { rig with junk := rig.junk.rest }
      = .error .nullMcuInfo { rig with junk := rig.junk.rest } := readMcuInfo_none missing
  rw [programmerProgramMemory]
  rcases known with ⟨flash, even⟩ | eeprom
  · rw [flash]
    dsimp only
    have more : 0 < memData.dataLen := UInt8.pos_iff_ne_zero.mpr some
    rw [programFlashMemory, if_neg (not_not.mpr even), bind_ok junk]
    change ∃ after, programFlashLoop memData (127 + 1) 0 _ _ _ = .error _ after
    rw [programFlashLoop, if_pos more, bind_error null]
    exact ⟨_, rfl⟩
  · rw [eeprom]
    dsimp only
    have more : memData.dataLen.toNat ≠ 0 := fun zero => some (UInt8.toNat_inj.mp zero)
    obtain ⟨count, length⟩ := Nat.exists_eq_succ_of_ne_zero more
    rw [programEepromMemory, bind_ok junk, length, programEepromLoop, bind_error null]
    exact ⟨_, rfl⟩

/-- In all other cases programming returns. -/
theorem programmerProgramMemory_returns {memData : AvrProgMemData} (rig : Rig)
    (ready : rig.mcuInfo = none → ¬ memData.NeedsInfo)
    : ∃ status after, programmerProgramMemory memData rig = .ok status after := by
  cases installed : rig.mcuInfo with
  | some block => exact (programmerProgramMemory_session memData).returns_eq installed
  | none =>
      have useless := ready installed
      rw [programmerProgramMemory]
      cases memory : memData.memoryType with
      | memoryErr => exact ⟨_, _, rfl⟩
      | memoryFlash =>
          dsimp only
          rw [programFlashMemory]
          by_cases even : memData.dataLen % 2 = 0
          · have nothing : memData.dataLen = 0 :=
              not_not.mp fun some => useless ⟨some, Or.inl ⟨memory, even⟩⟩
            rw [if_neg (not_not.mpr even), bind_ok (m := indeterminate) rfl]
            change ∃ status after, programFlashLoop memData (127 + 1) 0 _ _ _ = .ok status after
            rw [programFlashLoop, nothing, if_neg (by decide)]
            exact ⟨_, _, rfl⟩
          · rw [if_pos even]
            exact ⟨_, _, rfl⟩
      | memoryEeprom =>
          have nothing : memData.dataLen = 0 :=
            not_not.mp fun some => useless ⟨some, Or.inr memory⟩
          dsimp only
          rw [programEepromMemory, nothing]
          exact ⟨_, _, rfl⟩

/-- Programming EEPROM data begins with a command. -/
theorem programmerProgramMemory_begins {memData : AvrProgMemData} {rig : Rig}
    {block : McuInfoBlock} (installed : rig.mcuInfo = some block)
    (eeprom : memData.memoryType = .memoryEeprom) (some : memData.dataLen ≠ 0)
    : ∃ spiEnabled cmd answer added,
        (final (programmerProgramMemory memData rig)).log
        = rig.log ++ .transfer spiEnabled cmd answer :: added := by
  have more : memData.dataLen.toNat ≠ 0 := fun zero => some (UInt8.toNat_inj.mp zero)
  obtain ⟨count, length⟩ := Nat.exists_eq_succ_of_ne_zero more
  let begun := { rig with junk := rig.junk.rest }
  let cmd := createMemoryCmd block.info.eepromWritePattern.bytes block.info.eepromWriteLen
    memData.startAddress (memData.data.bytes 0)
  have known : readMcuInfo begun = .ok block.info begun := readMcuInfo_installed installed
  have begins : BeginsWith begun cmd (programEepromLoop memData (count + 1) 0 memData.startAddress
      (toI16 rig.junk.value)) := by
    have sent : BeginsWith begun cmd (programmerWriteRawCmd cmd) := Std.Refl.refl _
    rw [programEepromLoop, BeginsWith, bind_ok known]
    refine (BeginsWith.bind ?_ fun status => .ite (.pure _) ?_)
    · exact sent.bind fun written => .ite (.pure _) (.bind (.osiSleep _) fun _ => .pure _)
    · exact programEepromLoop_session memData count _ _ _
  obtain ⟨added, grown⟩ := begins
  refine ⟨rig.spiEnabled, cmd, rig.target rig.log cmd, added, ?_⟩
  rw [programmerProgramMemory, eeprom]
  dsimp only
  rw [programEepromMemory, bind_ok (m := indeterminate) rfl, length, grown]
  simp only [Rig.transferred, Rig.note, begun, List.append_assoc, List.singleton_append]

-----------------------------------------------------------------------------------------
-- Reading
-----------------------------------------------------------------------------------------

/-- This read needs the description of the target. -/
def AvrReadMemData.NeedsInfo (memData : AvrReadMemData) : Prop :=
  memData.memT = .memoryFlash ∧ memData.bytesToRead.toNat ≠ 0 ∨ memData.memT = .memoryEeprom

instance (memData : AvrReadMemData) : Decidable memData.NeedsInfo :=
  inferInstanceAs (Decidable (_ ∨ _))

/-- The read succeeds: the memory is known, the target echoes every command, and the byte count is
not negative as a 16-bit status.
-/
structure ReadSucceeds (rig : Rig) (memData : AvrReadMemData) : Prop where
  known : memData.memT ≠ .memoryErr
  passes : ∀ block, rig.mcuInfo = some block → rig.PassesAll (readCommands block.info memData)
  count : 0 ≤ toI16 memData.bytesToRead.toNat

section Reads

variable {memData : AvrReadMemData} {rig : Rig}

/-- Without `mcu_info` a read that needs it stops. -/
theorem programmerReadMemory_null (buf : Cells UInt8) (missing : rig.mcuInfo = none)
    (needs : memData.NeedsInfo)
    : programmerReadMemory memData buf rig = .error .nullMcuInfo rig := by
  have null := readMcuInfo_none missing
  rw [programmerReadMemory]
  rcases needs with ⟨flash, some⟩ | eeprom
  · rw [flash]
    dsimp only
    obtain ⟨rounds, more⟩ : ∃ rounds, (memData.bytesToRead.toNat + 1) / 2 = rounds + 1 :=
      Nat.exists_eq_succ_of_ne_zero (by omega)
    rw [readFlashMemory]
    dsimp only
    rw [more, readFlashLoop, bind_error (bind_error null)]
  · rw [eeprom]
    dsimp only
    rw [readEepromMemory, bind_error null]

/-- In all other cases a read returns, and its status tells whether it succeeded. -/
theorem programmerReadMemory_returns (buf : Cells UInt8)
    (ready : rig.mcuInfo = none → ¬ memData.NeedsInfo)
    : ∃ read stored after,
        programmerReadMemory memData buf rig = .ok (read, stored) after
        ∧ (0 ≤ read ↔ ReadSucceeds rig memData) := by
  by_cases error : memData.memT = .memoryErr
  · refine ⟨-1, buf, rig, ?_, iff_of_false (by decide) fun succeeds => succeeds.known error⟩
    rw [programmerReadMemory, error]
    rfl
  · cases installed : rig.mcuInfo with
    | some block =>
        obtain ⟨after, run, -⟩ := programmerReadMemory_run error installed buf
        have passes := memoryStores_all_iff memData block.info rig
        refine ⟨_, _, after, run, ?_⟩
        constructor
        · intro succeeds
          split at succeeds
          · rename_i all
            refine ⟨error, fun other found => ?_, succeeds⟩
            rw [installed] at found
            cases found
            exact passes.mp all
          · exact absurd succeeds (by decide)
        · intro succeeds
          rw [if_pos (passes.mpr (succeeds.passes block installed))]
          exact succeeds.count
    | none =>
        have useless := not_or.mp (ready installed)
        cases memory : memData.memT with
        | memoryErr => exact absurd memory error
        | memoryEeprom => exact absurd memory useless.2
        | memoryFlash =>
            have nothing : memData.bytesToRead.toNat = 0 :=
              not_not.mp fun some => useless.1 ⟨memory, some⟩
            refine ⟨0, buf, rig, ?_, iff_of_true (Int.le_refl 0) ⟨error, ?_, ?_⟩⟩
            · rw [programmerReadMemory, memory]
              dsimp only
              rw [readFlashMemory, nothing]
              rfl
            · intro block found
              rw [installed] at found
              cases found
            · rw [nothing]
              decide

end Reads

end BigBlackHardware
