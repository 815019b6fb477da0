import BigBlackHardware.Controller.OneReply
import BigBlackHardware.Programmer.MemoryRoundTrip
import BigBlackHardware.Programmer.PgmRetries

/-! What the requests of programming sessions make of the memory of a target that answers as it
likes.
-/

namespace BigBlackHardware

open Library

variable {set : InstructionSet}

/-- What a ProgramMemory request asks for, with the 8-bit length that the decoder reads. -/
def Packet.progMemData (request : Packet) : AvrProgMemData where
  startAddress := getWord request.packetData 0
  memoryType := getMemoryType (request.packetData 4)
  dataLen := (request.header.dataSize.toUInt32 - progMemFixedSize).toUInt8
  data := ⟨0, fun i => request.packetData (progMemFixedSize.toNat + i)⟩

/-- A request may make these writes. A ProgramMemory request writes some first bytes of its
payload, and all of them if the handler returns.
-/
def Arrival.Writes (set : InstructionSet) (rig : Rig) (arrival : Arrival)
    (writes : List (TargetCell × UInt8)) : Prop :=
  match arrival.request with
  | .loadMcuInfo | .readMemory => writes = []
  | .cmd =>
      writes
      = if arrival.object.header.dataSize.toUInt8.toNat = avrCmdSize then
          (set.write? (commandOf arrival.object)).toList
        else []
  | .programMemory =>
      ∃ m ≤ arrival.object.progMemData.dataLen.toNat,
        writes = set.stores arrival.object.progMemData m
        ∧ ∀ status device,
            arrival.handle rig = .ok status device →
            m = arrival.object.progMemData.dataLen.toNat

/-- The rig at the end of a session. -/
def sessionEnd : Rig → List Arrival → Rig
  | rig, [] => rig
  | rig, arrival :: arrivals =>
      match arrival.handle rig with
      | .ok _ device => sessionEnd device.rig arrivals
      | .error .restart device => sessionEnd device.rig.restarted arrivals
      | .error _ device => device.rig

/-- An installed `mcu_info` speaks the instructions of the target. -/
def Spoken (set : InstructionSet) (rig : Rig) : Prop :=
  ∀ block, rig.mcuInfo = some block → Speaks block.info set

/-- Commands were sent that make these writes, and what is installed is still spoken. -/
structure Wrote (set : InstructionSet) (before : Rig) (writes : List (TargetCell × UInt8))
    (after : Rig) : Prop where
  spoken : Spoken set after
  sent
    : ∃ sent,
        sentCommands after.log = sentCommands before.log ++ sent
        ∧ sent.filterMap set.write? = writes

section Writing

variable {rig after : Rig} {writes : List (TargetCell × UInt8)}

theorem Wrote.memory (wrote : Wrote set rig writes after) (initial : TargetCell → UInt8)
    : set.memory initial after.log = writeAll (set.memory initial rig.log) writes := by
  obtain ⟨sent, log, all⟩ := wrote.sent
  rw [InstructionSet.memory, log, List.filterMap_append, writeAll_append, all]
  rfl

/-- What is sent with what is installed as it was. -/
theorem Sends.wrote {sent : List AvrCommand} (sends : Sends rig sent after)
    (spoken : Spoken set rig) (all : sent.filterMap set.write? = writes)
    : Wrote set rig writes after := by
  refine ⟨fun block installed => spoken block ?_, sent, sends.commands, all⟩
  rw [← sends.mcuInfo, installed]

theorem Wrote.refl (spoken : Spoken set rig) : Wrote set rig [] rig :=
  (Sends.refl rig).wrote spoken rfl

end Writing

-----------------------------------------------------------------------------------------
-- Programmer
-----------------------------------------------------------------------------------------

/-- The tries to enter programming mode send nothing but the command for it, by induction on them.
-/
theorem triesLog_commands (target : List RigEvent → AvrCommand → AvrCommand) (cmd : AvrCommand)
    (tries : Nat) (log : List RigEvent)
    : ∀ sent ∈ sentCommands (triesLog target cmd tries log), sent = cmd := by
  induction tries generalizing log with
  | zero => exact fun sent member => by cases member
  | succ tries ih =>
      have missed : sentCommands (failedTry target cmd log) = [cmd] := rfl
      rw [triesLog]
      split
      · exact fun sent member => List.mem_singleton.mp member
      · rw [sentCommands_append, missed]
        exact List.forall_mem_cons.mpr ⟨rfl, ih _⟩

section Programs

variable {rig : Rig}

/-- Without `mcu_info` programming sends nothing, and its status is negative or there is nothing to
program.
-/
theorem programmerProgramMemory_null (missing : rig.mcuInfo = none) (memData : AvrProgMemData)
    : Sends rig [] (final (programmerProgramMemory memData rig))
      ∧ ∀ status after,
          programmerProgramMemory memData rig = .ok status after →
          0 ≤ status →
          memData.dataLen.toNat = 0 := by
  obtain ⟨begun, junk, silent, -⟩ := indeterminate_sends rig
  have null := readMcuInfo_none (silent.mcuInfo.trans missing)
  have negative {status : Int} {after : Rig} {length : Nat}
      (returns : EStateM.Result.ok (-1) rig = (.ok status after : EStateM.Result Stop Rig Int))
      (passed : 0 ≤ status) : length = 0 := by
    cases returns
    exact absurd passed (by decide)
  rw [programmerProgramMemory]
  cases memory : memData.memoryType with
  | memoryErr => exact ⟨.refl rig, fun _ _ returns passed => negative returns passed⟩
  | memoryEeprom =>
      dsimp only
      rw [programEepromMemory, bind_ok junk]
      cases length : memData.dataLen.toNat with
      | zero => exact ⟨silent, fun _ _ _ _ => rfl⟩
      | succ count =>
          rw [programEepromLoop, bind_error null]
          exact ⟨silent, fun _ _ returns => by cases returns⟩
  | memoryFlash =>
      dsimp only
      rw [programFlashMemory]
      split
      · exact ⟨.refl rig, fun _ _ returns passed => negative returns passed⟩
      rw [bind_ok junk]
      change Sends rig [] (final (programFlashLoop memData (127 + 1) 0 _ _ begun)) ∧ _
      rw [programFlashLoop]
      split
      · rw [bind_error null]
        exact ⟨silent, fun _ _ returns => by cases returns⟩
      · rename_i empty
        refine ⟨silent, fun _ _ _ _ => ?_⟩
        rw [UInt8.lt_iff_toNat_lt] at empty
        exact Nat.eq_zero_of_not_pos empty

/-- Programming writes the first bytes of the request, all of them if its status is not negative.
-/
theorem programmerProgramMemory_wrote (spoken : Spoken set rig) (memData : AvrProgMemData)
    : ∃ m ≤ memData.dataLen.toNat,
        Wrote set rig (set.stores memData m) (final (programmerProgramMemory memData rig))
        ∧ ∀ status after,
            programmerProgramMemory memData rig = .ok status after →
            0 ≤ status →
            m = memData.dataLen.toNat := by
  cases installed : rig.mcuInfo with
  | none =>
      obtain ⟨silent, empty⟩ := programmerProgramMemory_null installed memData
      refine ⟨0, Nat.zero_le _, silent.wrote spoken rfl, fun status after returns passed => ?_⟩
      exact (empty status after returns passed).symm
  | some block =>
      obtain ⟨status, after, said, run, exchanged, stores, comes⟩ :=
        programmerProgramMemory_exchanges installed (spoken block installed) memData
      rw [run]
      refine ⟨said.length, comes.inside, exchanged.sends.wrote spoken stores,
        fun status' after' returns passed => ?_⟩
      cases returns
      exact comes.all passed

/-- The commands of a read store nothing. -/
theorem readCommands_silent {info : AvrMcuInfo} (speaks : Speaks info set)
    (memData : AvrReadMemData) : ∀ cmd ∈ readCommands info memData, set.write? cmd = none := by
  have high (address : UInt32) := InstructionSet.write?_other (by rintro ⟨⟩ ⟨⟩)
    (speaks.encodes .flashReadHi address 0)
  have low (address : UInt32) := InstructionSet.write?_other (by rintro ⟨⟩ ⟨⟩)
    (speaks.encodes .flashReadLo address 0)
  have flash (rounds : Nat) (address : UInt32)
      : ∀ cmd ∈ flashReadCommands info rounds address, set.write? cmd = none := by
    induction rounds generalizing address with
    | zero => exact fun cmd member => by cases member
    | succ rounds ih =>
        exact List.forall_mem_cons.mpr ⟨high _, List.forall_mem_cons.mpr ⟨low _, ih _⟩⟩
  have eeprom (count : Nat) (address : UInt32)
      : ∀ cmd ∈ eepromReadCommands info count address, set.write? cmd = none := by
    induction count generalizing address with
    | zero => exact fun cmd member => by cases member
    | succ count ih =>
        exact List.forall_mem_cons.mpr ⟨eepromReadCommand_silent speaks _, ih _⟩
  rw [readCommands]
  cases memData.memT with
  | memoryFlash => exact flash _ _
  | memoryEeprom => exact eeprom _ _
  | memoryErr => exact fun cmd member => by cases member

/-- A read writes nothing. -/
theorem programmerReadMemory_wrote (spoken : Spoken set rig) (memData : AvrReadMemData)
    (buf : Cells UInt8) : Wrote set rig [] (final (programmerReadMemory memData buf rig)) := by
  by_cases known : memData.memT = .memoryErr
  · rw [programmerReadMemory, known]
    exact .refl spoken
  cases installed : rig.mcuInfo with
  | some block =>
      obtain ⟨after, run, sends⟩ := programmerReadMemory_run known installed buf
      rw [run]
      refine sends.wrote spoken (List.filterMap_eq_nil_iff.mpr fun cmd member => ?_)
      exact readCommands_silent (spoken block installed) memData cmd (List.mem_of_mem_take member)
  | none =>
      by_cases needs : memData.NeedsInfo
      · rw [programmerReadMemory_null buf installed needs]
        exact .refl spoken
      · obtain ⟨useless, notEeprom⟩ := not_or.mp needs
        cases memory : memData.memT with
        | memoryErr => exact absurd memory known
        | memoryEeprom => exact absurd memory notEeprom
        | memoryFlash =>
            have nothing := not_not.mp fun bytes => useless ⟨memory, bytes⟩
            rw [programmerReadMemory, memory]
            dsimp only
            rw [readFlashMemory, nothing]
            exact .refl spoken

end Programs

-----------------------------------------------------------------------------------------
-- Handlers
-----------------------------------------------------------------------------------------

/-- A CMD request writes what its command stores. -/
theorem processCmdPacket_wrote (outQueue packet : Nat) (device : Device)
    (spoken : Spoken set device.rig)
    : let request := device.desk.packets packet
      Wrote set device.rig
        (if request.header.dataSize.toUInt8.toNat = avrCmdSize then
          (set.write? (commandOf request)).toList
        else [])
        (final (processCmdPacket outQueue packet device)).rig := by
  intro request
  by_cases size : request.header.dataSize.toUInt8.toNat = avrCmdSize
  · rw [if_pos size, processCmdPacket_transfers size]
    refine (Sends.transferred device.rig _).wrote spoken ?_
    cases write : set.write? (commandOf request) with
    | none => exact List.filterMap_cons_none write
    | some stored => exact List.filterMap_cons_some write
  · rw [if_neg size, processCmdPacket_refuses size]
    exact .refl spoken

/-- A LoadMCUInfo request that describes the target writes nothing, and what it installs is spoken.
-/
theorem processLoadMcuInfoPacket_wrote (outQueue packet : Nat) (device : Device)
    (described : set.DescribedBy (device.desk.packets packet).packetData)
    : Wrote set device.rig [] (final (processLoadMcuInfoPacket outQueue packet device)).rig := by
  obtain ⟨entered, run, log, installed⟩ := processLoadMcuInfoPacket_eq outQueue packet device
  have speaks : Speaks (requestedInfo (device.desk.packets packet) device.rig.heap) set :=
    getMcuInfo_speaks described _
  rw [run, acknowledge_final]
  refine ⟨fun block found => ?_, ?_⟩
  · rw [found] at installed
    rw [Option.some.inj installed]
    exact speaks
  · rw [log, List.append_assoc, List.append_assoc, sentCommands_append]
    refine ⟨_, rfl, List.filterMap_eq_nil_iff.mpr fun cmd member => ?_⟩
    have only : cmd = set.pgmEnable := by
      rw [sentCommands_append, sentCommands_append] at member
      rcases List.mem_append.mp member with prepared | rest
      · cases prepared
      rcases List.mem_append.mp rest with tried | left
      · rw [triesLog_commands _ _ _ _ cmd tried]
        exact speaks.pgmEnable
      · split at left <;> cases left
    rw [only]
    exact InstructionSet.write?_none set.enable

/-- The first bytes of a decoded request are those of its payload. -/
theorem stores_progMemData (request : Packet) (heap : Heap) {m : Nat}
    (inside : m ≤ request.progMemData.dataLen.toNat)
    : set.stores (getProgMemData request heap).2.1 m = set.stores request.progMemData m := by
  refine List.map_congr_left fun i member => ?_
  have below : i < request.progMemData.dataLen.toNat :=
    Nat.lt_of_lt_of_le (List.mem_range.mp member) inside
  refine Prod.ext rfl ?_
  have length : i - 0 < (request.packetData.load progMemFixedSize.toNat
      request.progMemData.dataLen.toNat).length := by
    rw [Cells.load_length]
    exact below
  refine (Cells.store_inside _ (Nat.zero_le i) length).trans ?_
  rw [Cells.load_getElem]
  rfl

/-- A ProgramMemory request writes the first bytes of its payload, and all of them if the handler
returns: a failure restarts the device.
-/
theorem processProgramMemoryPacket_wrote (outQueue packet : Nat) (device : Device)
    (spoken : Spoken set device.rig)
    : let request := (device.desk.packets packet).progMemData
      let handled := processProgramMemoryPacket outQueue packet device
      ∃ m ≤ request.dataLen.toNat,
        Wrote set device.rig (set.stores request m) (final handled).rig
        ∧ ∀ status after, handled = .ok status after → m = request.dataLen.toNat := by
  intro request handled
  let decoded := getProgMemData (device.desk.packets packet) device.rig.heap
  let loaded : Rig := { device.rig with heap := decoded.2.2 }
  have known : Spoken set loaded := spoken
  obtain ⟨m, inside, wrote, all⟩ := programmerProgramMemory_wrote known decoded.2.1
  rw [stores_progMemData (device.desk.packets packet) device.rig.heap inside] at wrote
  have same : Wrote set device.rig (set.stores request m)
      (final (programmerProgramMemory decoded.2.1 loaded)) := ⟨wrote.spoken, wrote.sent⟩
  refine ⟨m, inside, ?_⟩
  cases run : programmerProgramMemory decoded.2.1 loaded with
  | error e stopped =>
      have stops : handled = .error e { device with rig := stopped } :=
        processProgramMemoryPacket_stops outQueue run
      rw [run] at same
      rw [stops]
      exact ⟨same, fun _ _ returned => by cases returned⟩
  | ok status after =>
      rw [run] at same
      by_cases fails : status < 0
      · obtain ⟨stopped, restarts, rigAfter⟩ : ∃ stopped,
            handled = .error .restart stopped ∧ stopped.rig = after :=
          processProgramMemoryPacket_restarts outQueue run fails
        rw [restarts]
        rw [← rigAfter] at same
        exact ⟨same, fun _ _ returned => by cases returned⟩
      · have acknowledges : handled = _ :=
          processProgramMemoryPacket_acknowledges outQueue run fails
        refine ⟨?_, fun _ _ _ => all status after run (Int.not_lt.mp fails)⟩
        rw [acknowledges, acknowledge_final]
        exact same

/-- A read keeps what was written and what is spoken. -/
theorem programmerReadMemory_keeps {rig : Rig} (memData : AvrReadMemData) (buf : Cells UInt8)
    : Triple (Wrote set rig []) (programmerReadMemory memData buf)
        (fun _ => Wrote set rig []) (fun _ => Wrote set rig []) := by
  intro middle start
  have read := programmerReadMemory_wrote start.spoken memData buf
  obtain ⟨before, logBefore, noneBefore⟩ := start.sent
  obtain ⟨sent, log, none⟩ := read.sent
  have whole : Wrote set rig [] (final (programmerReadMemory memData buf middle)) := by
    refine ⟨read.spoken, before ++ sent, ?_, ?_⟩
    · rw [log, logBefore, List.append_assoc]
    · rw [List.filterMap_append, noneBefore, none, List.append_nil]
  cases run : programmerReadMemory memData buf middle with
  | ok result after => rw [run] at whole; exact whole
  | error e after => rw [run] at whole; exact whole

section Read

variable {α : Type} {start : Rig}

/-- Nothing has been written. -/
abbrev WroteNothing (set : InstructionSet) (start : Rig) (device : Device) : Prop :=
  Wrote set start [] device.rig

theorem onDesk_wroteNothing {m : DeskM α} (total : Total m)
    : Triple (WroteNothing set start) (onDesk m) (fun _ => WroteNothing set start)
        (fun _ => WroteNothing set start) :=
  onDesk_triple (E := fun _ => Wrote set start []) total

theorem readMemoryInto_wroteNothing (memData : AvrReadMemData) (packet : Nat)
    : Triple (WroteNothing set start) (readMemoryInto memData packet)
        (fun _ => WroteNothing set start) (fun _ => WroteNothing set start) := by
  rw [readMemoryInto]
  refine .bind (readPacket_triple packet) fun object => ?_
  refine .bind (onRig_triple (programmerReadMemory_keeps memData object.packetData)) fun read => ?_
  exact .bind (onDesk_wroteNothing fun _ => ⟨_, _, rfl⟩) fun _ => .pure fun _ h => h

/-- A ReadMemory request writes nothing. -/
theorem processReadMemoryPacket_wroteNothing (outQueue packet : Nat)
    : Triple (WroteNothing set start) (processReadMemoryPacket outQueue packet)
        (fun _ => WroteNothing set start) (fun _ => WroteNothing set start) := by
  rw [processReadMemoryPacket]
  refine .bind (readPacket_triple packet) fun object => ?_
  cases getReadMemData object with
  | error status => exact .pure fun _ h => h
  | ok memData =>
      have reply
          : Triple (WroteNothing set start)
              (onDesk (sendPacket packet .memoryPacket memData.bytesToRead.toUInt16 outQueue))
              (fun _ => WroteNothing set start) (fun _ => WroteNothing set start) :=
        onDesk_wroteNothing (sendPacket_total _ _ _ _)
      refine .bind (onDesk_wroteNothing (getPacketFromPool_total 0)) fun fresh => ?_
      refine .ite (.pure fun _ h => h) ?_
      refine .bind (readMemoryInto_wroteNothing memData fresh.2) fun status => .ite ?_ ?_
      · refine .bind (onDesk_wroteNothing (sendError_total _ outQueue)) fun status => ?_
        exact .ite (.pure fun _ h => h) reply
      · exact .ite (.pure fun _ h => h) reply

end Read

theorem processReadMemoryPacket_wrote (outQueue packet : Nat) (device : Device)
    (spoken : Spoken set device.rig)
    : Wrote set device.rig [] (final (processReadMemoryPacket outQueue packet device)).rig := by
  have run := processReadMemoryPacket_wroteNothing outQueue packet device (Wrote.refl spoken)
  cases result : processReadMemoryPacket outQueue packet device with
  | ok status after => rw [result] at run; exact run
  | error e after => rw [result] at run; exact run

/-- Every request makes its writes and no others. -/
theorem handle_wrote {rig : Rig} {arrival : Arrival} (spoken : Spoken set rig)
    (described
      : arrival.request = .loadMcuInfo → set.DescribedBy arrival.object.packetData)
    : ∃ writes,
        arrival.Writes set rig writes
        ∧ Wrote set rig writes (final (arrival.handle rig)).rig := by
  obtain ⟨request, desk, outQueue, packet⟩ := arrival
  cases request with
  | cmd => exact ⟨_, rfl, processCmdPacket_wrote outQueue packet ⟨rig, desk⟩ spoken⟩
  | loadMcuInfo =>
      exact ⟨[], rfl, processLoadMcuInfoPacket_wrote outQueue packet ⟨rig, desk⟩ (described rfl)⟩
  | programMemory =>
      obtain ⟨m, inside, wrote, all⟩ :=
        processProgramMemoryPacket_wrote outQueue packet ⟨rig, desk⟩ spoken
      exact ⟨_, ⟨m, inside, rfl, all⟩, wrote⟩
  | readMemory => exact ⟨[], rfl, processReadMemoryPacket_wrote outQueue packet ⟨rig, desk⟩ spoken⟩

-----------------------------------------------------------------------------------------
-- Sessions
-----------------------------------------------------------------------------------------

/-- Writes of the requests of a session, one list for each request that is handled. -/
abbrev SessionWrites (set : InstructionSet) (rig : Rig) (arrivals : List Arrival)
    (writes : List (List (TargetCell × UInt8))) : Prop :=
  List.Forall₂ (fun step own => step.2.Writes set step.1 own) (sessionRun rig arrivals) writes

/-- A session leaves the memory that the writes of its requests make, by induction on them. -/
theorem sessionEnd_memory {rig : Rig} (spoken : Spoken set rig) {arrivals : List Arrival}
    (described
      : ∀ arrival ∈ arrivals,
          arrival.request = .loadMcuInfo → set.DescribedBy arrival.object.packetData)
    (initial : TargetCell → UInt8)
    : ∃ writes,
        SessionWrites set rig arrivals writes
        ∧ set.memory initial (sessionEnd rig arrivals).log
          = writeAll (set.memory initial rig.log) writes.flatten := by
  induction arrivals generalizing rig with
  | nil => exact ⟨[], .nil, rfl⟩
  | cons arrival arrivals ih =>
      obtain ⟨first, others⟩ := List.forall_mem_cons.mp described
      obtain ⟨own, allowed, wrote⟩ := handle_wrote spoken first
      have memory := wrote.memory initial
      simp only [SessionWrites, sessionRun, sessionEnd]
      -- what a request leaves, a restart apart, is where the next one begins
      cases run : arrival.handle rig with
      | ok status device =>
          rw [run] at wrote memory
          obtain ⟨writes, rest, after⟩ := ih wrote.spoken others
          refine ⟨own :: writes, .cons allowed rest, ?_⟩
          rw [List.flatten_cons, writeAll_append, ← memory]
          exact after
      | error e device =>
          rw [run] at wrote memory
          cases e with
          | restart =>
              have cleared : Spoken set device.rig.restarted := fun block found => by cases found
              obtain ⟨writes, rest, after⟩ := ih cleared others
              refine ⟨own :: writes, .cons allowed rest, ?_⟩
              rw [List.flatten_cons, writeAll_append, ← memory]
              exact after
          | nullMcuInfo | noHandler | waiting =>
              refine ⟨[own], .cons allowed .nil, ?_⟩
              rw [List.flatten_singleton, ← memory]
              rfl

/-- From a reset on, whatever the target answers: if every LoadMCUInfo request describes the target,
its memory is changed by the requests in their order and by nothing else.
-/
theorem sessionRun_memory (target : List RigEvent → AvrCommand → AvrCommand) (heap : Heap)
    (junk : Junk) (arrivals : List Arrival)
    (described
      : ∀ arrival ∈ arrivals,
          arrival.request = .loadMcuInfo → set.DescribedBy arrival.object.packetData)
    (initial : TargetCell → UInt8)
    : ∃ writes,
        SessionWrites set (.boot target heap junk) arrivals writes
        ∧ set.memory initial (sessionEnd (.boot target heap junk) arrivals).log
          = writeAll initial writes.flatten :=
  sessionEnd_memory (fun block found => by cases found) described initial

/-- A request to program two bytes of EEPROM at the address 3. -/
def programmingPacket : Packet where
  header := ⟨PacketType.programMemoryPacket.val, PacketGroup.programmerGroup.val, 7, 0, 0, 0⟩
  rawHeader := fun _ => 0
  packetData := Cells.store (fun _ => 0) 0 [0, 0, 0, 3, plEepromMemoryByte, 0x12, 0x34]

/-- A target is described and programmed. -/
def programmingSession : List Arrival :=
  let arrival (request : SessionRequest) (packet : Packet) : Arrival :=
    ⟨request, .boot (fun _ => packet) (fun _ => 0) ⟨fun _ => 0, 0⟩, 0, 0⟩
  [arrival .loadMcuInfo describingPacket, arrival .programMemory programmingPacket]

theorem programmingSession_described
    : ∀ arrival ∈ programmingSession,
        arrival.request = .loadMcuInfo →
        smallInstructions.DescribedBy arrival.object.packetData := by
  intro arrival member load
  rcases List.mem_cons.mp member with rfl | rest
  · exact describingPacket_describes
  · rw [List.mem_singleton.mp rest] at load
    cases load

/-- What the session makes of an erased target. -/
theorem sessionRun_memory_programmed
    : let boot := Rig.boot (smallInstructions.execute fun _ => 0xFF) (.boot fun _ _ => 0)
        ⟨fun _ => 0, 0⟩
      ∃ writes,
        SessionWrites smallInstructions boot programmingSession writes
        ∧ smallInstructions.memory (fun _ => 0xFF) (sessionEnd boot programmingSession).log
          = writeAll (fun _ => 0xFF) writes.flatten :=
  sessionRun_memory _ _ _ programmingSession programmingSession_described _

example
    : smallInstructions.stores programmingPacket.progMemData 2
      = [((.eeprom, 3), 0x12), ((.eeprom, 4), 0x34)] := by
  decide +kernel

end BigBlackHardware
