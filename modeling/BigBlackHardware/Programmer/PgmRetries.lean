import BigBlackHardware.Library.Turns
import BigBlackHardware.Programmer.CommandTrace
import BigBlackHardware.Programmer.EnterPgm

/-! Entering programming mode with a target that answers as it likes: how many tries there are, what
they return, and what the reset line and the SPI module do in between.
-/

namespace BigBlackHardware

open Library

/-- The event is a transfer. -/
def RigEvent.isTransfer : RigEvent → Bool
  | .transfer .. => true
  | _ => false

/-- The level that the reset line was set to last. -/
def resetLevel (events : List RigEvent) : Option UInt8 :=
  events.foldl
    (fun level event =>
      match event with
      | .resetLine set => some set
      | _ => level)
    none

/-- The events behind the last transfer, the latest first. -/
def sinceTransfer (events : List RigEvent) : List RigEvent :=
  events.reverse.takeWhile fun event => !event.isTransfer

/-- A transfer sends the command, with the SPI module enabled, the reset line at `MCU_RESET_ON`, and
the target released exactly once since the transfer before.
-/
structure RightTransfer (cmd : AvrCommand) (before : List RigEvent) (event : RigEvent)
    : Prop where
  command : ∃ answer, event = .transfer true cmd answer
  line : resetLevel before = some mcuResetOn
  released
    : (∃ earlier ∈ before, earlier.isTransfer = true) →
      (sinceTransfer before).count (.resetLine mcuResetOff) = 1

/-- The first answer that echoes the command. -/
def FirstEcho (cmd : AvrCommand) (answers : Nat → AvrCommand) (i : Nat) : Prop :=
  Echoes cmd (answers i) ∧ ∀ j < i, ¬ Echoes cmd (answers j)

/-- A call of `programmer_enable_pgm_mode` follows the answers: it tries up to the first echo, or as
often as it may, and leaves the SPI module enabled only with an echo.
-/
structure EntersAsAnswered (cmd : AvrCommand) (answers : Nat → AvrCommand) (status : Int)
    (events : List RigEvent) (spiEnabled : Bool) : Prop where
  entered
    : ∀ i < pgmEnableRetries,
        FirstEcho cmd answers i →
        status = 1 ∧ sentCommands events = List.replicate (i + 1) cmd
  refused
    : (∀ i < pgmEnableRetries, ¬ Echoes cmd (answers i)) →
      status = 0 ∧ sentCommands events = List.replicate pgmEnableRetries cmd
  transfers
    : ∀ before event rest,
        events = before ++ event :: rest →
        event.isTransfer = true →
        RightTransfer cmd before event
  line : resetLevel events = some mcuResetOn
  spiModule : spiEnabled = true ↔ status = 1

-----------------------------------------------------------------------------------------
-- Tries
-----------------------------------------------------------------------------------------

/-- What a try does whose answer is no echo. -/
def missedTry (cmd answer : AvrCommand) : List RigEvent := failedTry (fun _ _ => answer) cmd []

/-- What so many tries do whose answers are those from the `k`-th on. -/
def answeredTries (cmd : AvrCommand) (answers : Nat → AvrCommand) : Nat → Nat → List RigEvent
  | 0, _ => []
  | tries + 1, k =>
      if Echoes cmd (answers k) then [.transfer true cmd (answers k)]
      else missedTry cmd (answers k) ++ answeredTries cmd answers tries (k + 1)

/-- What is required of an event, behind those before it. -/
def RightEvent (cmd : AvrCommand) (before : List RigEvent) (event : RigEvent) : Prop :=
  event.isTransfer = true → RightTransfer cmd before event

/-- The next transfer will be right. -/
structure TransferReady (before : List RigEvent) : Prop where
  line : resetLevel before = some mcuResetOn
  released
    : (∃ earlier ∈ before, earlier.isTransfer = true) →
      (sinceTransfer before).count (.resetLine mcuResetOff) = 1

section Tries

variable {cmd : AvrCommand} {answers : Nat → AvrCommand}

theorem sentCommands_append (log more : List RigEvent)
    : sentCommands (log ++ more) = sentCommands log ++ sentCommands more := by
  rw [sentCommands, List.filterMap_append]
  rfl

/-- A try sends the command once. -/
theorem missedTry_commands (cmd answer : AvrCommand)
    : sentCommands (missedTry cmd answer) = [cmd] := rfl

/-- The tries of a target that gives these answers, by induction on them. -/
theorem triesLog_answered (cmd : AvrCommand) {target : List RigEvent → AvrCommand → AvrCommand}
    {base : Nat}
    (gives : target = fun log _ => answers ((sentCommands log).length - base)) (tries k : Nat)
    (log : List RigEvent) (place : (sentCommands log).length = base + k)
    : triesLog target cmd tries log = answeredTries cmd answers tries k
      ∧ (EchoesWithin target cmd tries log ↔ ∃ i < tries, Echoes cmd (answers (k + i))) := by
  induction tries generalizing k log with
  | zero => exact ⟨rfl, iff_of_false id (by simp)⟩
  | succ tries ih =>
      have answer : target log cmd = answers k := by
        rw [gives]
        dsimp only
        rw [place, Nat.add_sub_cancel_left]
      have failed : failedTry target cmd log = missedTry cmd (answers k) := by
        rw [failedTry, answer]
        rfl
      have next : (sentCommands (log ++ failedTry target cmd log)).length = base + (k + 1) := by
        rw [failed, sentCommands_append, missedTry_commands, List.length_append, place]
        rfl
      obtain ⟨rest, echoes⟩ := ih (k + 1) _ next
      constructor
      · rw [triesLog, answeredTries, answer, rest, failed]
      · have shift (i : Nat) : k + 1 + i = k + (i + 1) := by omega
        rw [EchoesWithin, answer, echoes, Nat.exists_lt_succ_left]
        simp only [shift, Nat.add_zero]

/-- Tries end with the first echo, by induction on them. -/
theorem answeredTries_entered {tries k i : Nat} (inside : i < tries)
    (echo : Echoes cmd (answers (k + i))) (before : ∀ j < i, ¬ Echoes cmd (answers (k + j)))
    : sentCommands (answeredTries cmd answers tries k) = List.replicate (i + 1) cmd := by
  induction tries generalizing k i with
  | zero => exact absurd inside (Nat.not_lt_zero i)
  | succ tries ih =>
      cases i with
      | zero =>
          have here : Echoes cmd (answers k) := echo
          rw [answeredTries, if_pos here]
          rfl
      | succ i =>
          have shift (j : Nat) : k + 1 + j = k + (j + 1) := by omega
          have here : ¬ Echoes cmd (answers k) := before 0 (Nat.succ_pos i)
          have rest := ih (k := k + 1) (Nat.lt_of_succ_lt_succ inside) (by rwa [shift])
            fun j earlier => by
              rw [shift]
              exact before (j + 1) (Nat.succ_lt_succ earlier)
          rw [answeredTries, if_neg here, sentCommands_append, missedTry_commands, rest]
          rfl

/-- Without an echo all tries are made, by induction on them. -/
theorem answeredTries_refused {tries k : Nat}
    (silent : ∀ j < tries, ¬ Echoes cmd (answers (k + j)))
    : sentCommands (answeredTries cmd answers tries k) = List.replicate tries cmd := by
  induction tries generalizing k with
  | zero => rfl
  | succ tries ih =>
      have shift (j : Nat) : k + 1 + j = k + (j + 1) := by omega
      have here : ¬ Echoes cmd (answers k) := silent 0 (Nat.succ_pos tries)
      have rest := ih (k := k + 1) fun j inside => by
        rw [shift]
        exact silent (j + 1) (Nat.succ_lt_succ inside)
      rw [answeredTries, if_neg here, sentCommands_append, missedTry_commands, rest]
      rfl

/-- A transfer of the command is right when it is ready. -/
theorem TransferReady.right {before : List RigEvent} (ready : TransferReady before)
    (answer : AvrCommand) : RightEvent cmd before (.transfer true cmd answer) :=
  fun _ => ⟨⟨answer, rfl⟩, ready.line, ready.released⟩

/-- After a try without an echo the target was released once, and the line is back. -/
theorem TransferReady.missed {before : List RigEvent} (ready : TransferReady before)
    (cmd answer : AvrCommand)
    : EachAfter (RightEvent cmd) before (missedTry cmd answer)
      ∧ TransferReady (before ++ missedTry cmd answer) := by
  refine ⟨⟨ready.right answer, ?_⟩, ?_, fun _ => ?_⟩
  · simp [EachAfter, RightEvent, RigEvent.isTransfer]
  · simp [missedTry, failedTry, resetLevel]
  · simp [missedTry, failedTry, sinceTransfer, RigEvent.isTransfer]
    decide

/-- All transfers of the tries are right, and the line is where it was, by induction on them. -/
theorem answeredTries_right {before : List RigEvent} (ready : TransferReady before)
    (cmd : AvrCommand) (answers : Nat → AvrCommand) (tries k : Nat)
    : EachAfter (RightEvent cmd) before (answeredTries cmd answers tries k)
      ∧ resetLevel (before ++ answeredTries cmd answers tries k) = some mcuResetOn := by
  induction tries generalizing before k with
  | zero =>
      rw [answeredTries, List.append_nil]
      exact ⟨trivial, ready.line⟩
  | succ tries ih =>
      rw [answeredTries]
      split
      · refine ⟨⟨ready.right _, trivial⟩, ?_⟩
        rw [resetLevel, List.foldl_append]
        exact ready.line
      · obtain ⟨missed, next⟩ := ready.missed cmd (answers k)
        obtain ⟨rest, line⟩ := ih next (k + 1)
        rw [← List.append_assoc]
        exact ⟨eachAfter_append.mpr ⟨missed, rest⟩, line⟩

/-- The preparations make no transfer and end with the reset line at `MCU_RESET_ON`. -/
theorem preparations_ready (cmd : AvrCommand)
    : EachAfter (RightEvent cmd) [] preparations ∧ TransferReady preparations := by
  refine ⟨?_, rfl, ?_⟩
  · simp [preparations, EachAfter, RightEvent, RigEvent.isTransfer]
  · simp [preparations, RigEvent.isTransfer]

/-- The events of a whole call, of which the last may disable the SPI module. -/
theorem call_right {tail : List RigEvent} (last : tail = [] ∨ tail = [.spiDisable])
    (cmd : AvrCommand) (answers : Nat → AvrCommand)
    : let events := preparations ++ answeredTries cmd answers pgmEnableRetries 0 ++ tail
      (∀ before event rest,
        events = before ++ event :: rest →
        event.isTransfer = true →
        RightTransfer cmd before event)
      ∧ resetLevel events = some mcuResetOn
      ∧ sentCommands events = sentCommands (answeredTries cmd answers pgmEnableRetries 0) := by
  intro events
  obtain ⟨prepared, ready⟩ := preparations_ready cmd
  obtain ⟨tries, line⟩ := answeredTries_right ready cmd answers pgmEnableRetries 0
  have quiet (before : List RigEvent) : EachAfter (RightEvent cmd) before tail := by
    rcases last with rfl | rfl
    · trivial
    · exact ⟨fun transfer => absurd transfer (by decide), trivial⟩
  refine ⟨fun before event rest split => ?_, ?_, ?_⟩
  · have each : EachAfter (RightEvent cmd) [] events :=
      eachAfter_append.mpr ⟨eachAfter_append.mpr ⟨prepared, tries⟩, quiet _⟩
    exact each.split split
  · have same : resetLevel events
        = resetLevel (preparations ++ answeredTries cmd answers pgmEnableRetries 0) := by
      rw [resetLevel, List.foldl_append]
      rcases last with rfl | rfl
      · rfl
      · rfl
    exact same.trans line
  · have silent : sentCommands tail = [] := by
      rcases last with rfl | rfl
      · rfl
      · rfl
    rw [sentCommands_append, sentCommands_append, silent, List.append_nil]
    rfl

end Tries

section Calls

variable {rig : Rig} {block : McuInfoBlock} (installed : rig.mcuInfo = some block)
  (answers : Nat → AvrCommand)

include installed

/-- A call with answers: its tries, and whether there is an echo among them. -/
theorem programmerEnablePgmMode_tries
    : let cmd := block.info.pgmEnable
      let tried := preparations ++ answeredTries cmd answers pgmEnableRetries 0
      programmerEnablePgmMode (rig.answering answers)
      = if ∃ i < pgmEnableRetries, Echoes cmd (answers i) then
          .ok 1 { rig.answering answers with spiEnabled := true, log := rig.log ++ tried }
        else
          .ok 0
            { rig.answering answers with
              spiEnabled := false
              log := rig.log ++ (tried ++ [.spiDisable]) } := by
  intro cmd tried
  have installed' : (rig.answering answers).mcuInfo = some block := installed
  have gives
      : (rig.answering answers).target
        = fun log _ => answers ((sentCommands log).length - (sentCommands rig.log).length) := rfl
  have place : (sentCommands (rig.log ++ preparations)).length
      = (sentCommands rig.log).length + 0 := by
    rw [sentCommands_append, List.length_append]
    rfl
  obtain ⟨tries, echoes⟩ := triesLog_answered cmd gives pgmEnableRetries 0
    (rig.log ++ preparations) place
  simp only [Nat.zero_add] at echoes
  have call := programmerEnablePgmMode_eq installed'
  have log : (rig.answering answers).log = rig.log := rfl
  dsimp only at call
  rw [call, log, tries]
  simp only [cmd, echoes, tried, List.append_assoc]

end Calls

/-- Entering programming mode follows the answers. Witness: the tries of a target that gives these
answers, and what each of them does to the reset line.
-/
theorem programmerEnablePgmMode_answered (rig : Rig) (block : McuInfoBlock)
    (installed : rig.mcuInfo = some block) (answers : Nat → AvrCommand)
    : ∃ status after events,
        programmerEnablePgmMode (rig.answering answers) = .ok status after
        ∧ after.log = rig.log ++ events
        ∧ EntersAsAnswered block.info.pgmEnable answers status events after.spiEnabled := by
  have call := programmerEnablePgmMode_tries installed answers
  dsimp only at call
  by_cases found : ∃ i < pgmEnableRetries, Echoes block.info.pgmEnable (answers i)
  · rw [if_pos found] at call
    obtain ⟨transfers, line, commands⟩ := call_right (Or.inl rfl) block.info.pgmEnable answers
    rw [List.append_nil] at transfers line commands
    refine ⟨1, _, _, call, rfl, ?_, ?_, transfers, line, iff_of_true rfl rfl⟩
    · rintro i inside ⟨echo, before⟩
      refine ⟨rfl, commands.trans ?_⟩
      exact answeredTries_entered inside (by rwa [Nat.zero_add]) (by simpa only [Nat.zero_add])
    · intro silent
      obtain ⟨i, inside, echo⟩ := found
      exact absurd echo (silent i inside)
  · rw [if_neg found] at call
    obtain ⟨transfers, line, commands⟩ := call_right (Or.inr rfl) block.info.pgmEnable answers
    have silent : ∀ i < pgmEnableRetries, ¬ Echoes block.info.pgmEnable (answers i) :=
      fun i inside echo => found ⟨i, inside, echo⟩
    refine ⟨0, _, _, call, rfl, ?_, ?_, transfers, line,
      iff_of_false Bool.false_ne_true (by decide)⟩
    · intro i inside first
      exact absurd first.1 (silent i inside)
    · intro _
      refine ⟨rfl, commands.trans ?_⟩
      exact answeredTries_refused (by simpa only [Nat.zero_add])

/-- Entering with a target that answers nothing but ones. -/
theorem programmerEnablePgmMode_answered_ones
    : ∃ status after events,
        programmerEnablePgmMode (flashRig.answering fun _ => Vector.replicate avrCmdSize 0xFF)
          = .ok status after
        ∧ after.log = flashRig.log ++ events
        ∧ EntersAsAnswered flashMcuInfo.pgmEnable (fun _ => Vector.replicate avrCmdSize 0xFF) status
            events after.spiEnabled :=
  programmerEnablePgmMode_answered flashRig ⟨0, flashMcuInfo⟩ flashRig_installed _

end BigBlackHardware
