import BigBlackHardware.Controller.ReadReply
import BigBlackHardware.Controller.Session

/-! Requests that come too early: which of them a handler refuses, and what the others reach. -/

namespace BigBlackHardware

open Library

/-- A CMD request of another size than a command is refused at once. -/
theorem processCmdPacket_refuses {outQueue packet : Nat} {device : Device}
    (size : (device.desk.packets packet).header.dataSize.toUInt8.toNat ≠ avrCmdSize)
    : processCmdPacket outQueue packet device = .ok (-1) device := by
  rw [processCmdPacket, bind_ok (readPacket_eq packet device)]
  dsimp only
  rw [if_pos size]
  rfl

/-- A CMD request of the size of a command sends it. -/
theorem processCmdPacket_transfers {outQueue packet : Nat} {device : Device}
    (size : (device.desk.packets packet).header.dataSize.toUInt8.toNat = avrCmdSize)
    : (final (processCmdPacket outQueue packet device)).rig
      = device.rig.transferred (commandOf (device.desk.packets packet)) := by
  rw [processCmdPacket, bind_ok (readPacket_eq packet device)]
  dsimp only
  rw [if_neg (not_not.mpr size)]
  have sent : programmerWriteCmd (commandOf (device.desk.packets packet)) device.rig
      = .ok _ (device.rig.transferred (commandOf (device.desk.packets packet))) := rfl
  rw [bind_ok (onRig_ok sent)]
  refine Moves.ite (S := SameRig) (.bind (onDesk_sameRig _) fun _ => ?_) ?_ _
  · exact onDesk_sameRig _
  · exact onDesk_sameRig _

/-- A ProgramMemory handler that returns at all does not return a negative status: it restarts
the device instead.
-/
theorem processProgramMemoryPacket_nonneg {outQueue packet : Nat} {device after : Device}
    {status : Int} (returns : processProgramMemoryPacket outQueue packet device = .ok status after)
    : 0 ≤ status := by
  have critical (status : Int)
      : Triple (fun _ : Device => True) (sysAssertCritical status) (fun _ _ => 0 ≤ status)
          (fun _ _ => True) := by
    rw [sysAssertCritical]
    split
    · exact .throw fun _ _ => True.intro
    · exact .pure fun _ _ => by omega
  have acknowledge (status : Int)
      : Triple (fun _ : Device => True)
          (do
            let status ← onDesk (sendAck status outQueue)
            sysAssertCritical status
            return status)
          (fun status _ => 0 ≤ status) (fun _ _ => True) :=
    .bind (.trivial _) fun status => .bind (critical status) fun _ => .pure fun _ h => h
  have load (object : Packet)
      : Triple (fun _ : Device => True) (onRig (loadProgMemData object))
          (fun loaded _ => loaded.1 = 0) (fun _ _ => True) := by
    intro device _
    rw [onRig_ok (loadProgMemData_eq object device.rig)]
    rfl
  have handler : Triple (fun _ : Device => True) (processProgramMemoryPacket outQueue packet)
      (fun status _ => 0 ≤ status) (fun _ _ => True) := by
    rw [processProgramMemoryPacket]
    refine .bind (readPacket_triple packet) fun object => .bind (load object) fun loaded => ?_
    dsimp only
    by_cases failed : loaded.1 < 0
    · rw [if_pos failed]
      exact .pure fun _ h => by omega
    · rw [if_neg failed]
      refine .bind (.trivial _) fun status => .ite ?_ (acknowledge status)
      refine .bind (.trivial _) fun _ => .bind (.trivial _) fun _ => acknowledge status
  have result := handler device True.intro
  rw [returns] at result
  exact result

/-- A ReadMemory request that does not decode is refused at once. -/
theorem processReadMemoryPacket_undecoded {outQueue packet : Nat} {device : Device} {status : Int}
    (undecoded : getReadMemData (device.desk.packets packet) = .error status)
    : processReadMemoryPacket outQueue packet device = .ok status device := by
  rw [processReadMemoryPacket, bind_ok (readPacket_eq packet device)]
  simp only [undecoded]
  rfl

/-- The only status of a request that does not decode. -/
theorem getReadMemData_error {packet : Packet} {status : Int}
    (undecoded : getReadMemData packet = .error status) : status = -1 := by
  rw [getReadMemData] at undecoded
  split at undecoded
  · exact (Except.error.inj undecoded).symm
  · cases undecoded

section Decoded

variable {outQueue packet : Nat} {device : Device} {memData : AvrReadMemData} {rig : Rig}

/-- A read that stops stops the handler. -/
theorem processReadMemoryPacket_stops {e : Stop}
    (decoded : getReadMemData (device.desk.packets packet) = .ok memData)
    (room : ¬ device.desk.UsedUp)
    (stops
      : programmerReadMemory memData
          (device.desk.packets device.desk.memoryPacket).packetData device.rig
        = .error e rig)
    : processReadMemoryPacket outQueue packet device
      = .error e ⟨rig, device.desk.packetGot⟩ := by
  have stopped : readMemoryInto memData device.desk.memoryPacket
      { device with desk := device.desk.packetGot } = .error e ⟨rig, device.desk.packetGot⟩ := by
    rw [readMemoryInto, bind_ok (readPacket_eq _ _)]
    exact bind_error (onRig_error stops)
  rw [processReadMemoryPacket, bind_ok (readPacket_eq packet device)]
  simp only [decoded]
  rw [bind_ok (onDesk_ok (getPacketFromPool_fresh device.desk))]
  dsimp only
  rw [poolGet_status, if_neg room, if_neg (by decide)]
  exact bind_error stopped

/-- The status after a read that returned `read`: it is negative if the read failed and there is no
packet to report that, or if the byte count is no size for the request.
-/
def readReplyStatus (desk : Desk) (memData : AvrReadMemData) (read : Int) : Int :=
  if read < 0 ∧ desk.packetGot.UsedUp then -1
  else if memData.bytesToRead.toUInt16.toNat ≤ plMaxDataLength.toNat then packetSuccess
  else packetWrongSize

/-- A read that returns makes the handler return. -/
theorem processReadMemoryPacket_returns {read : Int} {stored : Cells UInt8}
    (decoded : getReadMemData (device.desk.packets packet) = .ok memData)
    (room : ¬ device.desk.UsedUp)
    (reads
      : programmerReadMemory memData
          (device.desk.packets device.desk.memoryPacket).packetData device.rig
        = .ok (read, stored) rig)
    : ∃ desk,
        processReadMemoryPacket outQueue packet device
        = .ok (readReplyStatus device.desk memData read) ⟨rig, desk⟩ := by
  have reply (desk : Desk)
      : ∃ sent,
          onDesk (sendPacket packet .memoryPacket memData.bytesToRead.toUInt16 outQueue) ⟨rig, desk⟩
          = .ok (if memData.bytesToRead.toUInt16.toNat ≤ plMaxDataLength.toNat then packetSuccess
              else packetWrongSize) ⟨rig, sent⟩ := by
    obtain ⟨sent, run⟩ := sendPacket_status packet .memoryPacket memData.bytesToRead.toUInt16
      outQueue desk
    exact ⟨sent, onDesk_ok run⟩
  rw [readReplyStatus]
  by_cases failed : read < 0
  · by_cases used : device.desk.packetGot.UsedUp
    · rw [if_pos ⟨failed, used⟩]
      exact ⟨_, processReadMemoryPacket_fails_usedUp outQueue decoded room reads failed used⟩
    · rw [if_neg fun h => used h.2,
        processReadMemoryPacket_fails outQueue decoded room reads failed used]
      exact reply _
  · rw [if_neg fun h => failed h.1,
      processReadMemoryPacket_succeeds outQueue decoded room reads (Int.not_lt.mp failed)]
    exact reply _

end Decoded

theorem readReplyStatus_neg_iff {desk : Desk} {memData : AvrReadMemData} {read : Int}
    : readReplyStatus desk memData read < 0
      ↔ read < 0 ∧ desk.packetGot.UsedUp
        ∨ plMaxDataLength.toNat < memData.bytesToRead.toUInt16.toNat := by
  rw [readReplyStatus]
  by_cases unreported : read < 0 ∧ desk.packetGot.UsedUp
  · rw [if_pos unreported]
    exact iff_of_true (by decide) (Or.inl unreported)
  · rw [if_neg unreported]
    by_cases fits : memData.bytesToRead.toUInt16.toNat ≤ plMaxDataLength.toNat
    · rw [if_pos fits]
      exact iff_of_false (by decide) (by rintro (h | h); exacts [unreported h, by omega])
    · rw [if_neg fits]
      exact iff_of_true (by decide) (Or.inr (by omega))

section TooEarly

variable {rig : Rig} {arrival : Arrival}

/-- A handler that returns a negative status and leaves the rig meets the contract at any time. -/
theorem respects_of_refusal {status : Int} {desk : Desk}
    (returns : arrival.handle rig = .ok status ⟨rig, desk⟩) (negative : status < 0)
    : Respects rig arrival where
  noNull device stopped := by rw [returns] at stopped; cases stopped
  clean := by rw [returns]; exact Clean.refl rig
  refused _ := ⟨status, ⟨rig, desk⟩, returns, negative, rfl⟩

/-- A CMD request on a disabled SPI module meets the contract exactly if it has another size than
a command.
-/
theorem cmd_respects_iff (request : arrival.request = .cmd) (early : rig.spiEnabled = false)
    : Respects rig arrival ↔ arrival.object.header.dataSize.toUInt8.toNat ≠ avrCmdSize := by
  have handle : arrival.handle rig
      = processCmdPacket arrival.outQueue arrival.packet ⟨rig, arrival.desk⟩ := by
    rw [Arrival.handle, request, SessionRequest.handler]
  constructor
  · intro respects size
    have sent : (final (arrival.handle rig)).rig = rig.transferred (commandOf arrival.object) := by
      rw [handle]
      exact processCmdPacket_transfers size
    have clean := respects.clean
    rw [sent] at clean
    exact not_clean_of_logs early (Std.Refl.refl _) clean
  · intro size
    exact respects_of_refusal (handle.trans (processCmdPacket_refuses size)) (by decide)

/-- A ProgramMemory request is never refused, so that without a session the contract fails. -/
theorem not_respects_programMemory (request : arrival.request = .programMemory)
    (early : TooEarly rig arrival) : ¬ Respects rig arrival := by
  intro respects
  obtain ⟨status, device, returns, negative, -⟩ := respects.refused early
  rw [Arrival.handle, request] at returns
  have nonnegative := processProgramMemoryPacket_nonneg returns
  omega

/-- The run of a ReadMemory request. -/
theorem handle_readMemory (request : arrival.request = .readMemory)
    : arrival.handle rig
      = processReadMemoryPacket arrival.outQueue arrival.packet ⟨rig, arrival.desk⟩ := by
  rw [Arrival.handle, request, SessionRequest.handler]

/-- A read that returns tells whether the request is refused. -/
theorem readMemory_refused_iff {memData : AvrReadMemData} {read : Int} {stored : Cells UInt8}
    {after : Rig} (request : arrival.request = .readMemory) (early : TooEarly rig arrival)
    (decoded : getReadMemData arrival.object = .ok memData) (room : ¬ arrival.desk.UsedUp)
    (reads
      : programmerReadMemory memData
          (arrival.desk.packets arrival.desk.memoryPacket).packetData rig
        = .ok (read, stored) after)
    (kept : after = rig)
    : Respects rig arrival
      ↔ read < 0 ∧ arrival.desk.packetGot.UsedUp
        ∨ plMaxDataLength.toNat < memData.bytesToRead.toUInt16.toNat := by
  obtain ⟨desk, returns⟩ : ∃ desk,
      processReadMemoryPacket arrival.outQueue arrival.packet ⟨rig, arrival.desk⟩
      = .ok (readReplyStatus arrival.desk memData read) ⟨after, desk⟩ :=
    processReadMemoryPacket_returns decoded room reads
  rw [← handle_readMemory request] at returns
  rw [← readReplyStatus_neg_iff]
  constructor
  · intro respects
    obtain ⟨status, device, refuses, negative, -⟩ := respects.refused early
    rw [returns] at refuses
    cases refuses
    exact negative
  · intro negative
    rw [kept] at returns
    exact respects_of_refusal returns negative

/-- Reading a known memory without a session breaks the contract: the read acknowledges that there
is nothing to read, dereferences `NULL` or begins a transfer.
-/
theorem not_respects_knownMemory {memData : AvrReadMemData}
    (request : arrival.request = .readMemory)
    (early : rig.mcuInfo = none ∨ rig.spiEnabled = false)
    (decoded : getReadMemData arrival.object = .ok memData) (room : ¬ arrival.desk.UsedUp)
    (known : memData.memT ≠ .memoryErr) : ¬ Respects rig arrival := by
  intro respects
  have tooEarly : TooEarly rig arrival := by rwa [TooEarly, request]
  let buf := (arrival.desk.packets arrival.desk.memoryPacket).packetData
  rcases programmerReadMemory_cases buf rig known with
      ⟨nothing, reads⟩ | stops | ⟨installed, cmd, begins⟩
  · rcases (readMemory_refused_iff request tooEarly decoded room reads rfl).mp respects with
        ⟨negative, -⟩ | large
    · exact absurd negative (by decide)
    · rw [UInt32.toNat_toUInt16, nothing] at large
      exact absurd large (by decide)
  · exact respects.noNull _
      ((handle_readMemory request).trans (processReadMemoryPacket_stops decoded room stops))
  · have disabled : rig.spiEnabled = false := early.resolve_left installed
    have handler
        : (final (arrival.handle rig)).rig = final (programmerReadMemory memData buf rig) := by
      rw [handle_readMemory request]
      cases run : programmerReadMemory memData buf rig with
      | error e after => rw [processReadMemoryPacket_stops decoded room run]; rfl
      | ok read after =>
          obtain ⟨desk, returns⟩ : ∃ desk,
              processReadMemoryPacket arrival.outQueue arrival.packet ⟨rig, arrival.desk⟩
              = .ok (readReplyStatus arrival.desk memData read.1) ⟨after, desk⟩ :=
            processReadMemoryPacket_returns decoded room run
          rw [returns]
          rfl
    have clean := respects.clean
    rw [handler] at clean
    exact not_clean_of_logs disabled begins clean

/-- A ReadMemory request without a session meets the contract exactly if it is one of those that
are refused anyway.
-/
theorem readMemory_respects_iff (request : arrival.request = .readMemory)
    (early : rig.mcuInfo = none ∨ rig.spiEnabled = false)
    : Respects rig arrival ↔ ReadRefused arrival := by
  have tooEarly : TooEarly rig arrival := by rwa [TooEarly, request]
  rw [ReadRefused]
  cases decoded : getReadMemData arrival.object with
  | error status =>
      have negative : status < 0 := by rw [getReadMemData_error decoded]; decide
      have refuses : Respects rig arrival := respects_of_refusal
        ((handle_readMemory request).trans (processReadMemoryPacket_undecoded decoded)) negative
      exact iff_of_true refuses True.intro
  | ok memData =>
      dsimp only
      by_cases used : arrival.desk.UsedUp
      · have refuses : Respects rig arrival := respects_of_refusal
          ((handle_readMemory request).trans (processReadMemoryPacket_usedUp decoded used))
          (by decide)
        exact iff_of_true refuses (Or.inl used)
      · by_cases unknown : memData.memT = .memoryErr
        · have reads
              : programmerReadMemory memData
                  (arrival.desk.packets arrival.desk.memoryPacket).packetData rig
                = .ok (-1, (arrival.desk.packets arrival.desk.memoryPacket).packetData) rig := by
            rw [programmerReadMemory, unknown]
            rfl
          rw [readMemory_refused_iff request tooEarly decoded used reads rfl]
          simp [used, unknown]
        · have breaks := not_respects_knownMemory request early decoded used unknown
          exact iff_of_false breaks (by rintro (h | ⟨h, -⟩); exacts [used h, unknown h])

end TooEarly

end BigBlackHardware
