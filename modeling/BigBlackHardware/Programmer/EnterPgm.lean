import BigBlackHardware.Programmer.Rig

/-! Entering programming mode: which answers of the target end the tries, and what one call does. -/

namespace BigBlackHardware

open Library

/-- The answer echoes the second byte of the command in its third byte. -/
def Echoes (cmd answer : AvrCommand) : Prop := answer[2]? = cmd[1]?

instance (cmd answer : AvrCommand) : Decidable (Echoes cmd answer) :=
  inferInstanceAs (Decidable (_ = _))

/-- The event is a transfer of the command that the target echoed. -/
def RigEvent.IsEcho (cmd : AvrCommand) : RigEvent → Prop
  | .transfer _ sent answer => sent = cmd ∧ Echoes cmd answer
  | _ => False

section Tries

variable (target : List RigEvent → AvrCommand → AvrCommand) (cmd : AvrCommand)

/-- What is done before the first try. -/
def preparations : List RigEvent :=
  [.spiDisable, .spiReset, .spiConfigure 400000, .spiEnable, .sleep 5, .resetLine mcuResetOn,
    .sleep 50]

/-- What is done in a try that the target does not echo. -/
def failedTry (log : List RigEvent) : List RigEvent :=
  [.transfer true cmd (target log cmd), .sleep pgmEnableDelayMs, .resetLine mcuResetOff,
    .sleep pgmEnableDelayMs, .resetLine mcuResetOn, .sleep pgmEnableDelayMs]

/-- The target echoes the command in one of so many tries. -/
def EchoesWithin : Nat → List RigEvent → Prop
  | 0, _ => False
  | tries + 1, log =>
      Echoes cmd (target log cmd) ∨ EchoesWithin tries (log ++ failedTry target cmd log)

/-- What is done in so many tries, of which an echoed one is the last. -/
def triesLog : Nat → List RigEvent → List RigEvent
  | 0, _ => []
  | tries + 1, log =>
      if Echoes cmd (target log cmd) then [.transfer true cmd (target log cmd)]
      else failedTry target cmd log ++ triesLog tries (log ++ failedTry target cmd log)

instance decidableEchoesWithin
    : (tries : Nat) → (log : List RigEvent) → Decidable (EchoesWithin target cmd tries log)
  | 0, _ => inferInstanceAs (Decidable False)
  | tries + 1, log =>
      have := decidableEchoesWithin tries (log ++ failedTry target cmd log)
      inferInstanceAs (Decidable (_ ∨ _))

/-- A try that is not echoed is no echo. -/
theorem failedTry_echo_iff (log : List RigEvent)
    : (∃ event ∈ failedTry target cmd log, event.IsEcho cmd) ↔ Echoes cmd (target log cmd) := by
  simp [failedTry, RigEvent.IsEcho]

/-- The tries contain an echo exactly if the target echoes within them, by induction on them. -/
theorem triesLog_echo_iff (tries : Nat) (log : List RigEvent)
    : (∃ event ∈ triesLog target cmd tries log, event.IsEcho cmd)
      ↔ EchoesWithin target cmd tries log := by
  induction tries generalizing log with
  | zero => simp [triesLog, EchoesWithin]
  | succ tries ih =>
      rw [triesLog, EchoesWithin, ← ih]
      by_cases echoed : Echoes cmd (target log cmd)
      · rw [if_pos echoed]
        exact iff_of_true ⟨_, List.mem_singleton_self _, rfl, echoed⟩ (Or.inl echoed)
      · rw [if_neg echoed, ← failedTry_echo_iff target cmd log]
        simp only [List.mem_append, or_and_right, exists_or]

end Tries

section Calls

variable {rig : Rig} {block : McuInfoBlock}

/-- After a try that is not echoed the loop goes on from the log that the try leaves. -/
theorem failedTry_continues (enabled : rig.spiEnabled = true) (cmd : AvrCommand) (tries : Nat)
    : (do
        osiSleep pgmEnableDelayMs
        sysResetMcu mcuResetOff
        osiSleep pgmEnableDelayMs
        sysResetMcu mcuResetOn
        osiSleep pgmEnableDelayMs
        enablePgmLoop tries : RigM Bool) (rig.transferred cmd)
      = enablePgmLoop tries { rig with log := rig.log ++ failedTry rig.target cmd rig.log } := by
  refine congrArg (enablePgmLoop tries) ?_
  simp only [Rig.transferred, Rig.note, enabled, failedTry, List.append_assoc, List.cons_append,
    List.nil_append]

/-- The retry loop reports whether the target echoes within the tries that are left, by induction
on them.
-/
theorem enablePgmLoop_eq (tries : Nat) (rig : Rig) (installed : rig.mcuInfo = some block)
    (enabled : rig.spiEnabled = true)
    : enablePgmLoop tries rig
      = .ok (decide (EchoesWithin rig.target block.info.pgmEnable tries rig.log))
          { rig with
            log := rig.log ++ triesLog rig.target block.info.pgmEnable tries rig.log } := by
  induction tries generalizing rig with
  | zero =>
      rw [triesLog, List.append_nil]
      rfl
  | succ tries ih =>
      let answer := rig.target rig.log block.info.pgmEnable
      have sent : programmerWriteRawCmd block.info.pgmEnable rig
          = .ok (checkCmdStatus block.info.pgmEnable answer, answer)
              (rig.transferred block.info.pgmEnable) := rfl
      have still : (rig.transferred block.info.pgmEnable).mcuInfo = some block := installed
      rw [enablePgmLoop, bind_ok (readMcuInfo_installed installed), bind_ok sent]
      dsimp only
      rw [bind_ok (readMcuInfo_installed still)]
      by_cases same : answer[2] = block.info.pgmEnable[1]
      · have echoed : Echoes block.info.pgmEnable answer := congrArg some same
        have found : EchoesWithin rig.target block.info.pgmEnable (tries + 1) rig.log :=
          Or.inl echoed
        rw [if_pos same, triesLog, if_pos echoed, decide_eq_true found, Rig.transferred, Rig.note,
          enabled]
        rfl
      · have silent : ¬ Echoes block.info.pgmEnable answer :=
          fun echoed => same (Option.some.inj echoed)
        have later : EchoesWithin rig.target block.info.pgmEnable (tries + 1) rig.log
            ↔ EchoesWithin rig.target block.info.pgmEnable tries
                (rig.log ++ failedTry rig.target block.info.pgmEnable rig.log) :=
          or_iff_right silent
        have again := ih
          { rig with log := rig.log ++ failedTry rig.target block.info.pgmEnable rig.log }
          installed enabled
        rw [if_neg same, failedTry_continues enabled, again, triesLog, if_neg silent,
          decide_eq_decide.mpr later, List.append_assoc]

/-- What one call of `programmer_enable_pgm_mode` does to an installed programmer. -/
theorem programmerEnablePgmMode_eq (installed : rig.mcuInfo = some block)
    : let cmd := block.info.pgmEnable
      let ready := rig.log ++ preparations
      let tried := ready ++ triesLog rig.target cmd pgmEnableRetries ready
      programmerEnablePgmMode rig
      = if EchoesWithin rig.target cmd pgmEnableRetries ready then
          .ok 1 { rig with spiEnabled := true, log := tried }
        else .ok 0 { rig with spiEnabled := false, log := tried ++ [.spiDisable] } := by
  intro cmd ready tried
  have prepared : programmerEnablePgmMode rig
      = (do
          let success ← enablePgmLoop pgmEnableRetries
          if success then return 1
          else
            spiDisable
            return 0 : RigM Int) { rig with spiEnabled := true, log := ready } := by
    have log
        : ready
          = rig.log ++ [RigEvent.spiDisable] ++ [RigEvent.spiReset]
            ++ [RigEvent.spiConfigure 400000] ++ [RigEvent.spiEnable] ++ [RigEvent.sleep 5]
            ++ [RigEvent.resetLine mcuResetOn] ++ [RigEvent.sleep 50] := by
      simp only [ready, preparations, List.append_assoc, List.cons_append, List.nil_append]
    rw [log]
    rfl
  have loop := enablePgmLoop_eq pgmEnableRetries { rig with spiEnabled := true, log := ready }
    installed rfl
  rw [prepared, bind_ok loop]
  by_cases found : EchoesWithin rig.target cmd pgmEnableRetries ready
  · rw [decide_eq_true found, if_pos found]
    rfl
  · rw [decide_eq_false found, if_neg found]
    rfl

/-- The first attempt is the only one, as its status is never negative. -/
theorem enterPgmLoop_eq (attempts : Nat) (status : Int) (installed : rig.mcuInfo = some block)
    : enterPgmLoop (attempts + 1) status rig = programmerEnablePgmMode rig := by
  have call := programmerEnablePgmMode_eq installed
  dsimp only at call
  rw [enterPgmLoop]
  split at call
  · rw [bind_ok call, call]
    rfl
  · rw [bind_ok call, call]
    rfl

end Calls

end BigBlackHardware
