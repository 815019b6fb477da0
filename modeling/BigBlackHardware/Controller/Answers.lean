import BigBlackHardware.Controller.Established

/-! The packet handlers never wait: they return, or the device does not go on. -/

namespace BigBlackHardware

open Library

/-- The program returns or stops; it does not wait. -/
abbrev Answers {σ α : Type} (m : EStateM Stop σ α) : Prop :=
  Triple (fun _ => True) m (fun _ _ => True) (fun e _ => e ≠ .waiting)

/-- A program of a session waits for nothing, by induction on the program. -/
theorem SessionProgram.answers {α : Type} {m : RigM α} (program : SessionProgram m)
    : Answers m := by
  induction program with
  | pure a => exact .pure fun _ _ => trivial
  | bind _ _ first next => exact .bind first next
  | readMcuInfo =>
      intro rig _
      cases installed : rig.mcuInfo with
      | some block => rw [readMcuInfo_installed installed]; trivial
      | none => rw [readMcuInfo_none installed]; nofun
  | writeRawCmd _ | osiSleep _ | sysResetMcu _ | indeterminate => exact fun _ _ => trivial

section Handlers

variable (outQueue packet : Nat)

theorem onRig_answers {α : Type} {m : RigM α} (answers : Answers m) : Answers (onRig m) :=
  onRig_triple (E := fun e _ => e ≠ .waiting) answers

theorem onDesk_answers {α : Type} {m : DeskM α} (total : Total m) : Answers (onDesk m) :=
  onDesk_triple (P := fun _ => True) (E := fun e _ => e ≠ .waiting) total

theorem sysAssertCritical_answers (status : Int) : Answers (sysAssertCritical status) := by
  rw [sysAssertCritical]
  exact .ite (.throw fun _ _ same => by cases same) (.pure fun _ _ => trivial)

theorem acknowledge_answers (status : Int)
    : Answers (do
        let status ← onDesk (sendAck status outQueue)
        sysAssertCritical status
        return status) :=
  .bind (onDesk_answers (sendAck_total status outQueue)) fun status =>
    .bind (sysAssertCritical_answers status) fun _ => .pure fun _ _ => trivial

theorem processCmdPacket_answers : Answers (processCmdPacket outQueue packet) := by
  rw [processCmdPacket]
  refine .bind (readPacket_triple packet) fun object => .ite (.pure fun _ _ => trivial) ?_
  have write := (SessionProgram.writeRawCmd (commandOf object)).answers
  refine .bind (onRig_answers write) fun result => ?_
  have reply := onDesk_answers (sendAvrCmd_total result.2 outQueue)
  exact .ite (.bind (onDesk_answers (sendError_total _ outQueue)) fun _ => reply) reply

theorem enterPgmLoop_answers (attempts : Nat) (status : Int)
    : Answers (enterPgmLoop attempts status) := by
  have enable : Answers programmerEnablePgmMode := by
    have silent {m : RigM Unit} (returns : ∀ rig, ∃ after, m rig = .ok () after) : Answers m := by
      intro rig _
      obtain ⟨after, run⟩ := returns rig
      rw [run]
      trivial
    rw [programmerEnablePgmMode]
    refine .bind (silent fun rig => ⟨_, rfl⟩) fun _ => ?_
    refine .bind (silent fun rig => ⟨_, rfl⟩) fun _ => ?_
    refine .bind (SessionProgram.osiSleep 5).answers fun _ => ?_
    refine .bind (SessionProgram.sysResetMcu mcuResetOn).answers fun _ => ?_
    refine .bind (SessionProgram.osiSleep 50).answers fun _ => ?_
    refine .bind (enablePgmLoop_session pgmEnableRetries).answers fun success => ?_
    refine .ite (.pure fun _ _ => trivial) ?_
    exact .bind (silent fun rig => ⟨_, rfl⟩) fun _ => .pure fun _ _ => trivial
  induction attempts generalizing status with
  | zero => exact .pure fun _ _ => trivial
  | succ attempts ih =>
      rw [enterPgmLoop]
      exact .bind enable fun status => .ite (.pure fun _ _ => trivial) (ih status)

theorem processLoadMcuInfoPacket_answers
    : Answers (processLoadMcuInfoPacket outQueue packet) := by
  have load (object : Packet) : Answers (loadMcuInfo object) := fun _ _ => trivial
  have install (info : McuInfoBlock) : Answers (programmerSetMcuInfo info) := fun _ _ => trivial
  rw [processLoadMcuInfoPacket]
  refine .bind (readPacket_triple packet) fun object => ?_
  refine .bind (onRig_answers (load object)) fun loaded => .ite (.pure fun _ _ => trivial) ?_
  refine .bind (onRig_answers (install loaded.2)) fun _ => ?_
  refine .bind (onRig_answers (enterPgmLoop_answers _ loaded.1)) fun status => ?_
  refine .ite ?_ (acknowledge_answers outQueue status)
  refine .bind (onDesk_answers (sendError_total _ outQueue)) fun status => ?_
  exact .bind (sysAssertCritical_answers status) fun _ => acknowledge_answers outQueue status

theorem processProgramMemoryPacket_answers
    : Answers (processProgramMemoryPacket outQueue packet) := by
  have load (object : Packet) : Answers (loadProgMemData object) := fun _ _ => trivial
  rw [processProgramMemoryPacket]
  refine .bind (readPacket_triple packet) fun object => ?_
  refine .bind (onRig_answers (load object)) fun loaded => .ite (.pure fun _ _ => trivial) ?_
  refine .bind (onRig_answers (programmerProgramMemory_session loaded.2).answers) fun status => ?_
  refine .ite ?_ (acknowledge_answers outQueue status)
  refine .bind (onDesk_answers (sendError_total _ outQueue)) fun _ => ?_
  exact .bind (sysAssertCritical_answers status) fun _ => acknowledge_answers outQueue status

theorem processReadMemoryPacket_answers
    : Answers (processReadMemoryPacket outQueue packet) := by
  have fill (memData : AvrReadMemData) (fresh : Nat) : Answers (readMemoryInto memData fresh) := by
    rw [readMemoryInto]
    refine .bind (readPacket_triple fresh) fun object => ?_
    have read := (programmerReadMemory_session memData object.packetData).answers
    refine .bind (onRig_answers read) fun result => ?_
    exact .bind (onDesk_answers fun _ => ⟨_, _, rfl⟩) fun _ => .pure fun _ _ => trivial
  rw [processReadMemoryPacket]
  refine .bind (readPacket_triple packet) fun object => ?_
  cases getReadMemData object with
  | error status => exact .pure fun _ _ => trivial
  | ok memData =>
      have reply := onDesk_answers
        (sendPacket_total packet .memoryPacket memData.bytesToRead.toUInt16 outQueue)
      refine .bind (onDesk_answers (getPacketFromPool_total 0)) fun fresh => ?_
      refine .ite (.pure fun _ _ => trivial) ?_
      refine .bind (fill memData fresh.2) fun status => .ite ?_ ?_
      · refine .bind (onDesk_answers (sendError_total _ outQueue)) fun status => ?_
        exact .ite (.pure fun _ _ => trivial) reply
      · exact .ite (.pure fun _ _ => trivial) reply

/-- `process_packet` does not wait, whatever the type of the packet. -/
theorem processPacket_answers : Answers (processPacket outQueue packet) := by
  rw [processPacket]
  refine .bind (readPacket_triple packet) fun object => ?_
  cases entry : handlerAt object.header.type with
  | none => exact .throw fun _ _ same => by cases same
  | some handler =>
      obtain ⟨type, -, found⟩ := Option.bind_eq_some_iff.mp entry
      cases type with
      | programmerInitPacket | programmerStopPacket | uartInitPacket | uartStopPacket
      | enableEncryptionPacket | enableSignPacket =>
          cases found
          exact fun _ _ => trivial
      | resetPacket =>
          cases found
          have line (status : UInt8) := (SessionProgram.sysResetMcu status).answers
          dsimp only
          rw [processReset]
          refine .bind (readPacket_triple packet) fun object => .ite ?_ (.ite ?_ ?_)
          · exact .bind (onRig_answers (line _)) fun _ => .pure fun _ _ => trivial
          · exact .bind (onRig_answers (line _)) fun _ => .pure fun _ _ => trivial
          · exact .pure fun _ _ => trivial
      | cmdPacket => cases found; exact processCmdPacket_answers outQueue packet
      | loadMcuInfoPacket => cases found; exact processLoadMcuInfoPacket_answers outQueue packet
      | programMemoryPacket => cases found; exact processProgramMemoryPacket_answers outQueue packet
      | readMemoryPacket => cases found; exact processReadMemoryPacket_answers outQueue packet
      | _ => cases found

end Handlers

end BigBlackHardware
