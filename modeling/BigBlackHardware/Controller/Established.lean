import BigBlackHardware.Controller.Session

/-! Handlers in an established session: they stop only for a restart, they keep what they rely on,
and they transfer on an enabled SPI module only.
-/

namespace BigBlackHardware

open Library

/-- The device stops for a restart, with the property still there. -/
abbrev Restarts (P : Rig → Prop) (e : Stop) (device : Device) : Prop :=
  e = .restart ∧ P device.rig

section Keeping

variable {P Q : Rig → Prop}

theorem sysAssertCritical_keeps (status : Int)
    : Triple (fun device => P device.rig) (sysAssertCritical status)
        (fun _ device => P device.rig) (Restarts P) := by
  rw [sysAssertCritical]
  split
  · exact .throw fun _ h => ⟨rfl, h⟩
  · exact .pure fun _ h => h

/-- A desk program keeps what holds of the rig. -/
theorem onDesk_keeps {α : Type} {m : DeskM α} (total : Total m)
    : Triple (fun device => P device.rig) (onDesk m) (fun _ device => P device.rig)
        (Restarts P) :=
  onDesk_triple (E := fun e rig => e = .restart ∧ P rig) total

/-- A rig program that always returns leads from one property to another. -/
theorem onRig_leads {α : Type} {m : RigM α} {E : Stop → Device → Prop}
    (triple : Triple P m (fun _ => Q) (fun _ _ => False))
    : Triple (fun device => P device.rig) (onRig m) (fun _ device => Q device.rig) E :=
  (onRig_triple triple).mono (fun _ h => h) (fun _ _ h => h) (fun _ _ h => h.elim)

/-- The reply at the end of the handlers that acknowledge. -/
theorem acknowledge_keeps (status : Int) (outQueue : Nat)
    : Triple (fun device => P device.rig)
        (do
          let status ← onDesk (sendAck status outQueue)
          sysAssertCritical status
          return status)
        (fun _ device => P device.rig) (Restarts P) :=
  .bind (onDesk_keeps (sendAck_total status outQueue)) fun status =>
    .bind (sysAssertCritical_keeps status) fun _ => .pure fun _ h => h

/-- A CMD request keeps what a command keeps. -/
theorem processCmdPacket_keeps (outQueue packet : Nat)
    (write : ∀ cmd, Triple P (programmerWriteCmd cmd) (fun _ => P) (fun _ _ => False))
    : Triple (fun device => P device.rig) (processCmdPacket outQueue packet)
        (fun _ device => P device.rig) (Restarts P) := by
  rw [processCmdPacket]
  refine .bind (readPacket_triple packet) fun object => .ite (.pure fun _ h => h) ?_
  refine .bind (onRig_leads (write _)) fun result => ?_
  have reply := onDesk_keeps (P := P) (sendAvrCmd_total result.2 outQueue)
  exact .ite (.bind (onDesk_keeps (sendError_total _ outQueue)) fun _ => reply) reply

end Keeping

section Handlers

variable (start : List RigEvent) (outQueue packet : Nat)

/-- A CMD request relies on an enabled SPI module only. -/
theorem processCmdPacket_enabled
    : Triple (fun device => Clean start device.rig ∧ device.rig.spiEnabled = true)
        (processCmdPacket outQueue packet)
        (fun _ device => Clean start device.rig ∧ device.rig.spiEnabled = true)
        (Restarts fun rig => Clean start rig ∧ rig.spiEnabled = true) :=
  processCmdPacket_keeps (P := fun rig => Clean start rig ∧ rig.spiEnabled = true) outQueue packet
    fun _ _ h => ⟨h.1.note _ h.2, h.2⟩

/-- A CMD request in an established session. -/
theorem processCmdPacket_working
    : Triple (fun device => Working start device.rig) (processCmdPacket outQueue packet)
        (fun _ device => Working start device.rig) (Restarts (Working start)) :=
  processCmdPacket_keeps outQueue packet fun cmd =>
    (SessionProgram.writeRawCmd cmd).working start

/-- A LoadMCUInfo request needs no session. -/
theorem processLoadMcuInfoPacket_clean
    : Triple (fun device => Clean start device.rig) (processLoadMcuInfoPacket outQueue packet)
        (fun _ device => Clean start device.rig) (Restarts (Clean start)) := by
  have load (object : Packet)
      : Triple (Clean start) (loadMcuInfo object) (fun _ => Clean start) (fun _ _ => False) :=
    fun _ h => h
  have install (info : McuInfoBlock)
      : Triple (Clean start) (programmerSetMcuInfo info) (fun _ => Installed start)
          (fun _ _ => False) :=
    fun _ h => ⟨h, info, rfl⟩
  have enter (status : Int)
      : Triple (Installed start) (enterPgmLoop enterPgmAttempts status) (fun _ => Clean start)
          (fun _ _ => False) :=
    (enterPgmLoop_installed start enterPgmAttempts status).mono (fun _ h => h)
      (fun _ _ h => h.clean) (fun _ _ h => h)
  rw [processLoadMcuInfoPacket]
  refine .bind (readPacket_triple packet) fun object => ?_
  refine .bind (onRig_leads (load object)) fun loaded => .ite (.pure fun _ h => h) ?_
  refine .bind (onRig_leads (install loaded.2)) fun _ => ?_
  refine .bind (onRig_leads (enter loaded.1)) fun status => .ite ?_ (acknowledge_keeps _ outQueue)
  refine .bind (onDesk_keeps (sendError_total _ outQueue)) fun status => ?_
  exact .bind (sysAssertCritical_keeps status) fun _ => acknowledge_keeps status outQueue

/-- A ProgramMemory request in an established session. -/
theorem processProgramMemoryPacket_working
    : Triple (fun device => Working start device.rig) (processProgramMemoryPacket outQueue packet)
        (fun _ device => Working start device.rig) (Restarts (Working start)) := by
  have load (object : Packet)
      : Triple (Working start) (loadProgMemData object) (fun _ => Working start)
          (fun _ _ => False) :=
    fun _ h => ⟨h.clean, h.enabled, h.installed⟩
  have program (memData : AvrProgMemData) := (programmerProgramMemory_session memData).working start
  rw [processProgramMemoryPacket]
  refine .bind (readPacket_triple packet) fun object => ?_
  refine .bind (onRig_leads (load object)) fun loaded => .ite (.pure fun _ h => h) ?_
  refine .bind (onRig_leads (program loaded.2)) fun status => ?_
  refine .ite ?_ (acknowledge_keeps status outQueue)
  refine .bind (onDesk_keeps (sendError_total "Failed to program memory\r\n" outQueue)) fun _ => ?_
  exact .bind (sysAssertCritical_keeps status) fun _ => acknowledge_keeps status outQueue

theorem readMemoryInto_working (memData : AvrReadMemData)
    : Triple (fun device => Working start device.rig) (readMemoryInto memData packet)
        (fun _ device => Working start device.rig) (Restarts (Working start)) := by
  have read (buf : Cells UInt8) := (programmerReadMemory_session memData buf).working start
  rw [readMemoryInto]
  refine .bind (readPacket_triple packet) fun object => ?_
  refine .bind (onRig_leads (read object.packetData)) fun result => ?_
  exact .bind (onDesk_keeps fun _ => ⟨_, _, rfl⟩) fun _ => .pure fun _ h => h

/-- A ReadMemory request in an established session. -/
theorem processReadMemoryPacket_working
    : Triple (fun device => Working start device.rig) (processReadMemoryPacket outQueue packet)
        (fun _ device => Working start device.rig) (Restarts (Working start)) := by
  rw [processReadMemoryPacket]
  refine .bind (readPacket_triple packet) fun object => ?_
  cases getReadMemData object with
  | error status => exact .pure fun _ h => h
  | ok memData =>
      have reply := onDesk_keeps (P := Working start)
        (sendPacket_total packet .memoryPacket memData.bytesToRead.toUInt16 outQueue)
      refine .bind (onDesk_keeps (getPacketFromPool_total 0)) fun fresh => ?_
      refine .ite (.pure fun _ h => h) ?_
      refine .bind (readMemoryInto_working start fresh.2 memData) fun status => .ite ?_ ?_
      · refine .bind (onDesk_keeps (sendError_total _ outQueue)) fun status => ?_
        exact .ite (.pure fun _ h => h) reply
      · exact .ite (.pure fun _ h => h) reply

end Handlers

section Requests

variable {rig : Rig} {arrival : Arrival}

/-- A handler that stops only for a restart and keeps a property by which the log is clean meets
the contract if it does not come too early.
-/
theorem respects_of_triple {P : Rig → Prop} (established : P rig)
    (triple
      : Triple (fun device => P device.rig)
          (arrival.request.handler arrival.outQueue arrival.packet)
          (fun _ device => P device.rig) (Restarts P))
    (clean : ∀ after, P after → Clean rig.log after) (ready : ¬ TooEarly rig arrival)
    : Respects rig arrival := by
  have run := triple ⟨rig, arrival.desk⟩ established
  refine ⟨?_, ?_, fun early => absurd early ready⟩
  · intro device stopped
    rw [Arrival.handle] at stopped
    rw [stopped] at run
    exact absurd run.1 (by decide)
  · rw [Arrival.handle]
    cases result : arrival.request.handler arrival.outQueue arrival.packet ⟨rig, arrival.desk⟩ with
    | ok status device => rw [result] at run; exact clean _ run
    | error e device => rw [result] at run; exact clean _ run.2

/-- A session is established. -/
theorem working_iff : Working rig.log rig ↔ rig.mcuInfo ≠ none ∧ rig.spiEnabled = true := by
  constructor
  · exact fun working => ⟨Option.ne_none_iff_exists'.mpr working.installed, working.enabled⟩
  · rintro ⟨installed, enabled⟩
    exact ⟨Clean.refl rig, enabled, Option.ne_none_iff_exists'.mp installed⟩

/-- A request that does not come too early finds what its handler relies on. -/
theorem ready_iff
    : ¬ TooEarly rig arrival
      ↔ match arrival.request with
        | .cmd => rig.spiEnabled = true
        | .loadMcuInfo => True
        | .programMemory | .readMemory => Working rig.log rig := by
  have session : ¬ (rig.mcuInfo = none ∨ rig.spiEnabled = false) ↔ Working rig.log rig := by
    rw [working_iff, not_or, Bool.not_eq_false]
  rw [TooEarly]
  cases arrival.request with
  | cmd => exact Bool.not_eq_false _ ▸ Iff.rfl
  | loadMcuInfo => exact iff_of_true id trivial
  | programMemory => exact session
  | readMemory => exact session

/-- A request that finds its session meets the contract. -/
theorem respects_of_ready (ready : ¬ TooEarly rig arrival) : Respects rig arrival := by
  have found := ready_iff.mp ready
  cases request : arrival.request with
  | cmd =>
      rw [request] at found
      have triple := processCmdPacket_enabled rig.log arrival.outQueue arrival.packet
      exact respects_of_triple (P := fun other => Clean rig.log other ∧ other.spiEnabled = true)
        ⟨Clean.refl rig, found⟩ (by rw [request]; exact triple) (fun _ h => h.1) ready
  | loadMcuInfo =>
      have triple := processLoadMcuInfoPacket_clean rig.log arrival.outQueue arrival.packet
      exact respects_of_triple (P := Clean rig.log) (Clean.refl rig)
        (by rw [request]; exact triple) (fun _ h => h) ready
  | programMemory =>
      rw [request] at found
      have triple := processProgramMemoryPacket_working rig.log arrival.outQueue arrival.packet
      exact respects_of_triple (P := Working rig.log) found
        (by rw [request]; exact triple) (fun _ h => h.clean) ready
  | readMemory =>
      rw [request] at found
      have triple := processReadMemoryPacket_working rig.log arrival.outQueue arrival.packet
      exact respects_of_triple (P := Working rig.log) found
        (by rw [request]; exact triple) (fun _ h => h.clean) ready

/-- A request other than LoadMCUInfo that is handled in an established session leaves it
established, unless the device restarts.
-/
theorem handle_working (working : Working rig.log rig) (other : arrival.request ≠ .loadMcuInfo)
    {status : Int} {device : Device} (returns : arrival.handle rig = .ok status device)
    : Working device.rig.log device.rig := by
  have handled
      : Triple (fun device => Working rig.log device.rig)
          (arrival.request.handler arrival.outQueue arrival.packet)
          (fun _ device => Working rig.log device.rig) (Restarts (Working rig.log)) := by
    cases request : arrival.request with
    | cmd => exact processCmdPacket_working _ _ _
    | loadMcuInfo => exact absurd request other
    | programMemory => exact processProgramMemoryPacket_working _ _ _
    | readMemory => exact processReadMemoryPacket_working _ _ _
  have run := handled ⟨rig, arrival.desk⟩ working
  rw [Arrival.handle] at returns
  rw [returns] at run
  exact working_iff.mpr ⟨Option.ne_none_iff_exists'.mpr run.installed, run.enabled⟩

end Requests

end BigBlackHardware
