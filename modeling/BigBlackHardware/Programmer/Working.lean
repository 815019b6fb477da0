import BigBlackHardware.Programmer.Loading

/-! The session state that the programmer's functions rely on: an installed `mcu_info` and an
enabled SPI module. None of them changes it, apart from entering programming mode.
-/

namespace BigBlackHardware

open Library

/-- A transfer is proper on an enabled SPI module; everything else always is. -/
def RigEvent.Proper : RigEvent → Prop
  | .transfer spiEnabled _ _ => spiEnabled = true
  | _ => True

/-- All that was done since the log was `start` is proper. -/
def Clean (start : List RigEvent) (rig : Rig) : Prop :=
  ∃ added, rig.log = start ++ added ∧ ∀ event ∈ added, event.Proper

/-- The session is established, and what was done since the log was `start` is proper. -/
structure Working (start : List RigEvent) (rig : Rig) : Prop where
  clean : Clean start rig
  enabled : rig.spiEnabled = true
  installed : ∃ block, rig.mcuInfo = some block

/-- The log only grows. -/
def Logs (before after : Rig) : Prop := ∃ added, after.log = before.log ++ added

instance : Std.Refl Logs := ⟨fun rig => ⟨[], by rw [List.append_nil]⟩⟩

instance : IsTrans Rig Logs where
  trans := by
    rintro rig middle after ⟨one, first⟩ ⟨two, second⟩
    exact ⟨one ++ two, by rw [second, first, List.append_assoc]⟩

theorem Clean.refl (rig : Rig) : Clean rig.log rig := ⟨[], by rw [List.append_nil], by simp⟩

/-- A proper event keeps the log clean. -/
theorem Clean.note {start : List RigEvent} {rig : Rig} (clean : Clean start rig)
    (event : RigEvent) (proper : event.Proper) : Clean start (rig.note event) := by
  obtain ⟨added, log, all⟩ := clean
  refine ⟨added ++ [event], by rw [Rig.note, log, List.append_assoc], ?_⟩
  intro other member
  rcases List.mem_append.mp member with old | new
  · exact all other old
  · rw [List.mem_singleton.mp new]
    exact proper

/-- An improper transfer is never made up for: whatever is done later, the log is not clean. -/
theorem not_clean_of_logs {rig after : Rig} {cmd : AvrCommand} (disabled : rig.spiEnabled = false)
    (later : Logs (rig.transferred cmd) after) : ¬ Clean rig.log after := by
  rintro ⟨added, log, all⟩
  obtain ⟨more, grown⟩ := later
  rw [grown, Rig.transferred, Rig.note, List.append_assoc] at log
  have same := List.append_cancel_left log
  have improper := all (.transfer rig.spiEnabled cmd (rig.target rig.log cmd))
    (by rw [← same]; exact List.mem_append_left _ (List.mem_singleton.mpr rfl))
  rw [disabled] at improper
  exact absurd improper Bool.false_ne_true

/-- The programs that use an established session without changing it: sequences of reads of
`mcu_info`, commands, delays and changes of the reset line.
-/
inductive SessionProgram : {α : Type} → RigM α → Prop where
  | pure {α : Type} (a : α) : SessionProgram (pure a)
  | bind {α β : Type} {m : RigM α} {f : α → RigM β} (first : SessionProgram m)
    (next : ∀ a, SessionProgram (f a))
    : SessionProgram (m >>= f)
  | readMcuInfo : SessionProgram readMcuInfo
  | writeRawCmd (cmd : AvrCommand) : SessionProgram (programmerWriteRawCmd cmd)
  | osiSleep (ms : Nat) : SessionProgram (osiSleep ms)
  | sysResetMcu (status : UInt8) : SessionProgram (sysResetMcu status)
  | indeterminate : SessionProgram indeterminate

theorem SessionProgram.ite {α : Type} {c : Prop} [Decidable c] {m n : RigM α}
    (yes : SessionProgram m) (no : SessionProgram n) : SessionProgram (if c then m else n) := by
  split
  · exact yes
  · exact no

/-- In an established session such a program returns, and the session stays established with
proper events only, by induction on the program.
-/
theorem SessionProgram.working {α : Type} {m : RigM α} (program : SessionProgram m)
    (start : List RigEvent)
    : Triple (Working start) m (fun _ => Working start) (fun _ _ => False) := by
  induction program with
  | pure a => exact .pure fun _ working => working
  | bind _ _ first next => exact .bind first next
  | readMcuInfo =>
      intro rig working
      obtain ⟨block, installed⟩ := working.installed
      rw [readMcuInfo_installed installed]
      exact working
  | writeRawCmd cmd =>
      intro rig working
      exact ⟨working.clean.note _ working.enabled, working.enabled, working.installed⟩
  | osiSleep ms =>
      exact .modify fun _ working =>
        ⟨working.clean.note _ trivial, working.enabled, working.installed⟩
  | sysResetMcu status =>
      exact .modify fun _ working =>
        ⟨working.clean.note _ trivial, working.enabled, working.installed⟩
  | indeterminate => exact fun _ working => ⟨working.clean, working.enabled, working.installed⟩

/-- Such a program moves the rig along a relation that holds across every event and every read of an
object that was never stored to, by induction on the program.
-/
theorem SessionProgram.moves {S : Rig → Rig → Prop} [Std.Refl S] [IsTrans Rig S]
    (noted : ∀ rig event, S rig (rig.note event))
    (junk : ∀ rig : Rig, S rig { rig with junk := rig.junk.rest })
    {α : Type} {m : RigM α} (program : SessionProgram m)
    : Moves S m := by
  induction program with
  | pure a => exact .pure a
  | bind _ _ first next => exact .bind first next
  | readMcuInfo =>
      intro rig
      cases installed : rig.mcuInfo with
      | some block =>
          rw [readMcuInfo_installed installed]
          exact Std.Refl.refl rig
      | none =>
          rw [readMcuInfo_none installed]
          exact Std.Refl.refl rig
  | writeRawCmd cmd => exact fun rig => noted rig _
  | osiSleep ms => exact .modify fun rig => noted rig _
  | sysResetMcu status => exact .modify fun rig => noted rig _
  | indeterminate => exact fun rig => junk rig

/-- Such a program only adds to the log. -/
theorem SessionProgram.logs {α : Type} {m : RigM α} (program : SessionProgram m)
    : Moves Logs m :=
  program.moves (fun _ event => ⟨[event], rfl⟩) fun _ => ⟨[], by rw [List.append_nil]⟩

theorem loadMemoryCmd_session (cmd : AvrCommand) (delay : Nat)
    : SessionProgram (loadMemoryCmd cmd delay) := by
  rw [loadMemoryCmd]
  exact .bind (.writeRawCmd cmd) fun _ => .ite (.pure _) (.bind (.osiSleep delay) fun _ => .pure _)

theorem programFlashLoop_session (memData : AvrProgMemData) (fuel : Nat) (i : UInt8)
    (address : UInt32) (status : Int)
    : SessionProgram (programFlashLoop memData fuel i address status) := by
  induction fuel generalizing i address status with
  | zero => exact .pure status
  | succ fuel ih =>
      rw [programFlashLoop]
      refine .ite (.bind .readMcuInfo fun info => ?_) (.pure status)
      refine .bind (loadMemoryCmd_session _ _) fun low => .ite (.pure _) ?_
      refine .bind .readMcuInfo fun info => .bind (loadMemoryCmd_session _ _) fun high => ?_
      exact .ite (.pure _) (ih _ _ _)

theorem programEepromLoop_session (progData : AvrProgMemData) (count i : Nat)
    (address : UInt32) (status : Int)
    : SessionProgram (programEepromLoop progData count i address status) := by
  induction count generalizing i address status with
  | zero => exact .pure status
  | succ count ih =>
      rw [programEepromLoop]
      refine .bind .readMcuInfo fun info => .bind (loadMemoryCmd_session _ _) fun status => ?_
      exact .ite (.pure _) (ih _ _ _)

theorem programmerProgramMemory_session (memData : AvrProgMemData)
    : SessionProgram (programmerProgramMemory memData) := by
  rw [programmerProgramMemory]
  split
  · rw [programFlashMemory]
    exact .ite (.pure _) (.bind .indeterminate fun _ => programFlashLoop_session _ _ _ _ _)
  · rw [programEepromMemory]
    exact .bind .indeterminate fun _ => programEepromLoop_session _ _ _ _ _
  · exact .pure _

theorem readByte_session (cmd : AvrCommand) (buf : Cells UInt8) (offset : Nat)
    : SessionProgram (readByte cmd buf offset) := by
  rw [readByte]
  exact .bind (.writeRawCmd cmd) fun _ => .ite (.pure _) (.pure _)

theorem readFlashLoop_session (count : Nat) (address : UInt32) (answerCounter : UInt8)
    (buf : Cells UInt8) : SessionProgram (readFlashLoop count address answerCounter buf) := by
  induction count generalizing address answerCounter buf with
  | zero => exact .pure _
  | succ count ih =>
      rw [readFlashLoop]
      refine .bind .readMcuInfo fun info => .bind (readByte_session _ _ _) fun high => ?_
      refine .ite (.pure _) (.bind .readMcuInfo fun info => ?_)
      exact .bind (readByte_session _ _ _) fun low => .ite (.pure _) (ih _ _ _)

theorem readEepromLoop_session (readPattern : Cells UInt8) (readPatternLen : UInt8) (count : Nat)
    (address : UInt32) (answerCounter : UInt16) (buf : Cells UInt8)
    : SessionProgram
        (readEepromLoop readPattern readPatternLen count address answerCounter buf) := by
  induction count generalizing address answerCounter buf with
  | zero => exact .pure _
  | succ count ih =>
      rw [readEepromLoop]
      exact .bind (readByte_session _ _ _) fun byte => .ite (.pure _) (ih _ _ _)

theorem programmerReadMemory_session (memData : AvrReadMemData) (buf : Cells UInt8)
    : SessionProgram (programmerReadMemory memData buf) := by
  rw [programmerReadMemory]
  split
  · rw [readFlashMemory]
    exact .bind (readFlashLoop_session _ _ _ _) fun _ => .ite (.pure _) (.pure _)
  · rw [readEepromMemory]
    refine .bind .readMcuInfo fun info => ?_
    exact .bind (readEepromLoop_session _ _ _ _ _ _) fun _ => .ite (.pure _) (.pure _)
  · exact .pure _

theorem enablePgmLoop_session (retries : Nat) : SessionProgram (enablePgmLoop retries) := by
  induction retries with
  | zero => exact .pure false
  | succ retries ih =>
      rw [enablePgmLoop]
      refine .bind .readMcuInfo fun info => .bind (.writeRawCmd _) fun res => ?_
      refine .bind .readMcuInfo fun info => .ite (.pure true) ?_
      refine .bind (.osiSleep _) fun _ => .bind (.sysResetMcu _) fun _ => ?_
      refine .bind (.osiSleep _) fun _ => .bind (.sysResetMcu _) fun _ => ?_
      exact .bind (.osiSleep _) fun _ => ih

-----------------------------------------------------------------------------------------
-- Entering programming mode
-----------------------------------------------------------------------------------------

/-- An installed `mcu_info`, with proper events only since the log was `start`. -/
structure Installed (start : List RigEvent) (rig : Rig) : Prop where
  clean : Clean start rig
  installed : ∃ block, rig.mcuInfo = some block

/-- Entering programming mode needs an installed `mcu_info` only: it enables the SPI module
itself. It returns 0 or 1, so that its caller's loop ends with the first attempt.
-/
theorem programmerEnablePgmMode_installed (start : List RigEvent)
    : Triple (Installed start) programmerEnablePgmMode
        (fun status rig => 0 ≤ status ∧ Installed start rig) (fun _ _ => False) := by
  have off : Triple (Installed start) spiDisable (fun _ => Installed start) (fun _ _ => False) :=
    .modify fun _ h => ⟨h.clean.note _ trivial, h.installed⟩
  have configured
      : Triple (Installed start) (configureSpi 400000) (fun _ => Installed start)
          (fun _ _ => False) :=
    .bind off fun _ => .modify fun _ h =>
      ⟨(h.clean.note .spiReset trivial).note (.spiConfigure 400000) trivial, h.installed⟩
  have ready : Triple (Installed start) spiEnable (fun _ => Working start) (fun _ _ => False) :=
    .modify fun _ h => ⟨h.clean.note _ trivial, rfl, h.installed⟩
  rw [programmerEnablePgmMode]
  refine .bind configured fun _ => .bind ready fun _ => ?_
  refine .bind ((SessionProgram.osiSleep 5).working start) fun _ => ?_
  refine .bind ((SessionProgram.sysResetMcu mcuResetOn).working start) fun _ => ?_
  refine .bind ((SessionProgram.osiSleep 50).working start) fun _ => ?_
  refine .bind ((enablePgmLoop_session pgmEnableRetries).working start) fun entered => ?_
  cases entered with
  | true => exact .pure fun _ h => ⟨by decide, h.clean, h.installed⟩
  | false =>
      have leave
          : Triple (Working start) spiDisable (fun _ => Installed start) (fun _ _ => False) :=
        .modify fun _ h => ⟨h.clean.note _ trivial, h.installed⟩
      exact .bind leave fun _ => .pure fun _ h => ⟨by decide, h⟩

/-- The attempts to enter programming mode: with an installed `mcu_info` the first one returns. -/
theorem enterPgmLoop_installed (start : List RigEvent) (attempts : Nat) (status : Int)
    : Triple (Installed start) (enterPgmLoop attempts status) (fun _ => Installed start)
        (fun _ _ => False) := by
  induction attempts generalizing status with
  | zero => exact .pure fun _ h => h
  | succ attempts ih =>
      rw [enterPgmLoop]
      refine .bind (programmerEnablePgmMode_installed start) fun status => .ite ?_ ?_
      · exact .pure fun _ h => h.2
      · exact (ih status).mono (fun _ h => h.2) (fun _ _ h => h) (fun _ _ h => h)

-----------------------------------------------------------------------------------------
-- Reading memory without a session
-----------------------------------------------------------------------------------------

/-- The run begins with a transfer of the command. -/
def BeginsWith (rig : Rig) (cmd : AvrCommand) {α : Type} (m : RigM α) : Prop :=
  Logs (rig.transferred cmd) (final (m rig))

/-- A first transfer stays the first of a longer program. -/
theorem BeginsWith.bind {rig : Rig} {cmd : AvrCommand} {α β : Type} {m : RigM α}
    {f : α → RigM β} (first : BeginsWith rig cmd m) (next : ∀ a, SessionProgram (f a))
    : BeginsWith rig cmd (m >>= f) := by
  rw [BeginsWith] at first ⊢
  cases run : m rig with
  | ok a middle =>
      rw [run] at first
      rw [bind_ok run]
      exact IsTrans.trans _ _ _ first ((next a).logs middle)
  | error e middle =>
      rw [run] at first
      rw [bind_error run]
      exact first

theorem readByte_begins (rig : Rig) (cmd : AvrCommand) (buf : Cells UInt8) (offset : Nat)
    : BeginsWith rig cmd (readByte cmd buf offset) := by
  rw [readByte]
  refine .bind ?_ fun _ => .ite (.pure _) (.pure _)
  exact Std.Refl.refl (rig.transferred cmd)

theorem readFlashLoop_begins {rig : Rig} {block : McuInfoBlock}
    (installed : rig.mcuInfo = some block) (count : Nat) (address : UInt32)
    (answerCounter : UInt8) (buf : Cells UInt8)
    : BeginsWith rig
        (createMemoryCmd block.info.flashReadHiPattern.bytes block.info.flashReadHiLen address 0)
        (readFlashLoop (count + 1) address answerCounter buf) := by
  rw [readFlashLoop, BeginsWith, bind_ok (readMcuInfo_installed installed)]
  refine (readByte_begins _ _ _ _).bind fun high => .ite (.pure _) ?_
  refine .bind .readMcuInfo fun info => .bind (readByte_session _ _ _) fun low => ?_
  exact .ite (.pure _) (readFlashLoop_session _ _ _ _)

theorem readEepromLoop_begins (rig : Rig) (readPattern : Cells UInt8) (readPatternLen : UInt8)
    (count : Nat) (address : UInt32) (answerCounter : UInt16) (buf : Cells UInt8)
    : BeginsWith rig (createMemoryCmd readPattern readPatternLen address 0)
        (readEepromLoop readPattern readPatternLen (count + 1) address answerCounter buf) := by
  rw [readEepromLoop]
  refine (readByte_begins _ _ _ _).bind fun byte => .ite (.pure _) ?_
  exact readEepromLoop_session _ _ _ _ _ _

/-- What reading a memory of a known type can come to: nothing to read, a `NULL` dereference, or
a transfer first of all, for which `mcu_info` is installed.
-/
theorem programmerReadMemory_cases {memData : AvrReadMemData} (buf : Cells UInt8) (rig : Rig)
    (known : memData.memT ≠ .memoryErr)
    : memData.bytesToRead.toNat = 0 ∧ programmerReadMemory memData buf rig = .ok (0, buf) rig
      ∨ programmerReadMemory memData buf rig = .error .nullMcuInfo rig
      ∨ rig.mcuInfo ≠ none ∧ ∃ cmd, BeginsWith rig cmd (programmerReadMemory memData buf) := by
  rw [programmerReadMemory]
  cases memory : memData.memT with
  | memoryErr => exact absurd memory known
  | memoryFlash =>
      dsimp only
      rw [readFlashMemory]
      cases bytes : memData.bytesToRead.toNat with
      | zero => exact Or.inl ⟨rfl, rfl⟩
      | succ n =>
          have rounds : (n + 1 + 1) / 2 = n / 2 + 1 := by omega
          rw [rounds]
          cases installed : rig.mcuInfo with
          | none =>
              exact Or.inr (Or.inl (bind_error (bind_error (readMcuInfo_none installed))))
          | some block =>
              have begins := readFlashLoop_begins installed (n / 2) memData.startAddress 0 buf
              refine Or.inr (Or.inr ⟨Option.some_ne_none block,
                createMemoryCmd block.info.flashReadHiPattern.bytes block.info.flashReadHiLen
                  memData.startAddress 0, ?_⟩)
              exact begins.bind fun _ => .ite (.pure _) (.pure _)
  | memoryEeprom =>
      dsimp only
      rw [readEepromMemory]
      cases installed : rig.mcuInfo with
      | none => exact Or.inr (Or.inl (bind_error (readMcuInfo_none installed)))
      | some block =>
          cases bytes : memData.bytesToRead.toNat with
          | zero =>
              refine Or.inl ⟨rfl, ?_⟩
              rw [bind_ok (readMcuInfo_installed installed)]
              rfl
          | succ n =>
              have begins := readEepromLoop_begins rig block.info.eepromReadPattern.bytes
                block.info.eepromReadLen n memData.startAddress 0 buf
              have whole := begins.bind (f := fun read =>
                if read.1 < 0 then pure (read.1, read.2) else pure (toI16 (n + 1), read.2))
                fun _ => .ite (.pure _) (.pure _)
              refine Or.inr (Or.inr ⟨Option.some_ne_none block,
                createMemoryCmd block.info.eepromReadPattern.bytes block.info.eepromReadLen
                  memData.startAddress 0, ?_⟩)
              rw [BeginsWith, bind_ok (readMcuInfo_installed installed)]
              exact whole

end BigBlackHardware
