import BigBlackHardware.Controller.Answers
import BigBlackHardware.Controller.SessionMemory
import BigBlackHardware.Tasks.CallFrames
import BigBlackHardware.Tasks.Custody

/-! What the packets that arrive make of the memory of the target, with the listening and the
handling task taking turns in any order.
-/

namespace BigBlackHardware

open Library

variable {set : InstructionSet}

-----------------------------------------------------------------------------------------
-- A packet
-----------------------------------------------------------------------------------------

/-- A packet that is handed over may make these writes. A ProgramMemory packet writes some first
bytes of its payload, and all of them if its handler returns.
-/
def Packet.Writes (set : InstructionSet) (packet : Packet) (returned : Prop)
    (writes : List (TargetCell × UInt8)) : Prop :=
  if packet.header.type = PacketType.cmdPacket.val then
    writes
    = if packet.header.dataSize.toUInt8.toNat = avrCmdSize then
        (set.write? (commandOf packet)).toList
      else []
  else if packet.header.type = PacketType.programMemoryPacket.val then
    ∃ m ≤ packet.progMemData.dataLen.toNat,
      writes = set.stores packet.progMemData m
      ∧ (returned → m = packet.progMemData.dataLen.toNat)
  else writes = []

/-- A LoadMCUInfo packet describes the target. -/
def Packet.Describes (set : InstructionSet) (packet : Packet) : Prop :=
  packet.header.type = PacketType.loadMcuInfoPacket.val → set.DescribedBy packet.packetData

section Handed

variable {rig after : Rig} {outQueue packet : Nat} {device : Device}

/-- What sends no command writes nothing. -/
theorem Sends.wroteNothing (sends : Sends rig [] after) (spoken : Spoken set rig)
    : Wrote set rig [] after :=
  sends.wrote spoken rfl

/-- The reset line is no command. -/
theorem processReset_sends
    : Sends device.rig [] (final (processReset outQueue packet device)).rig := by
  have noted (level : UInt8) : Sends device.rig [] (device.rig.note (.resetLine level)) :=
    ⟨by simp [sentCommands, Rig.note], rfl, rfl⟩
  rw [processReset, bind_ok (readPacket_eq packet device)]
  split
  · exact noted _
  · split
    · exact noted _
    · exact .refl device.rig

/-- Every packet that is handed over makes its writes and no others, by the handler that its type
selects.
-/
theorem processPacket_wrote (outQueue packet : Nat) (spoken : Spoken set device.rig)
    (describes : (device.desk.packets packet).Describes set)
    : ∃ writes,
        (device.desk.packets packet).Writes set
          (∃ status after, processPacket outQueue packet device = .ok status after) writes
        ∧ Wrote set device.rig writes (final (processPacket outQueue packet device)).rig := by
  have nothing {returned : Prop}
      (notCmd : (device.desk.packets packet).header.type ≠ PacketType.cmdPacket.val)
      (notProgram : (device.desk.packets packet).header.type ≠ PacketType.programMemoryPacket.val)
      : (device.desk.packets packet).Writes set returned [] := by
    rw [Packet.Writes, if_neg notCmd, if_neg notProgram]
  cases entry : handlerAt (device.desk.packets packet).header.type with
  | none =>
      have run : processPacket outQueue packet device = .error .noHandler device := by
        rw [processPacket, bind_ok (readPacket_eq packet device)]
        simp only [entry]
        rfl
      refine ⟨[], nothing ?_ ?_, run ▸ .refl spoken⟩
      · intro kind
        rw [kind] at entry
        cases entry
      · intro kind
        rw [kind] at entry
        cases entry
  | some handler =>
      obtain ⟨type, listed, found⟩ := Option.bind_eq_some_iff.mp entry
      have kind : (device.desk.packets packet).header.type = type.val :=
        (by simpa using List.find?_some listed : type.val = _).symm
      rw [processPacket_eq kind found]
      have quiet (notCmd : type.val ≠ PacketType.cmdPacket.val)
          (notProgram : type.val ≠ PacketType.programMemoryPacket.val)
          {handled : EStateM.Result Stop Device Int}
          (sends : Sends device.rig [] (final handled).rig)
          : ∃ writes,
              (device.desk.packets packet).Writes set
                (∃ status after, handled = .ok status after) writes
              ∧ Wrote set device.rig writes (final handled).rig :=
        ⟨[], nothing (kind ▸ notCmd) (kind ▸ notProgram), sends.wroteNothing spoken⟩
      have silent : Sends device.rig [] device.rig := .refl device.rig
      have junk : Sends device.rig [] { device.rig with junk := device.rig.junk.rest } :=
        ⟨(List.append_nil _).symm, rfl, rfl⟩
      cases type with
      | programmerInitPacket | programmerStopPacket =>
          cases found
          exact quiet (by decide) (by decide) junk
      | uartInitPacket | uartStopPacket | enableEncryptionPacket | enableSignPacket =>
          cases found
          exact quiet (by decide) (by decide) silent
      | resetPacket =>
          cases found
          exact quiet (by decide) (by decide) processReset_sends
      | loadMcuInfoPacket =>
          cases found
          refine ⟨[], nothing (kind ▸ by decide) (kind ▸ by decide), ?_⟩
          exact processLoadMcuInfoPacket_wrote outQueue packet device (describes kind)
      | readMemoryPacket =>
          cases found
          refine ⟨[], nothing (kind ▸ by decide) (kind ▸ by decide), ?_⟩
          exact processReadMemoryPacket_wrote outQueue packet device spoken
      | programMemoryPacket =>
          cases found
          obtain ⟨m, inside, wrote, all⟩ :=
            processProgramMemoryPacket_wrote outQueue packet device spoken
          refine ⟨_, ?_, wrote⟩
          rw [Packet.Writes, if_neg (kind ▸ by decide), if_pos kind]
          refine ⟨m, inside, rfl, fun returned => ?_⟩
          obtain ⟨status, after, run⟩ := returned
          exact all status after run
      | cmdPacket =>
          cases found
          refine ⟨_, ?_, processCmdPacket_wrote outQueue packet device spoken⟩
          rw [Packet.Writes, if_pos kind]
      | _ => cases found

/-- A handler that returned in one sense did so in the other. -/
theorem Packet.Writes.mono {object : Packet} {returned other : Prop}
    {writes : List (TargetCell × UInt8)} (allowed : object.Writes set returned writes)
    (only : other → returned) : object.Writes set other writes := by
  rw [Packet.Writes] at allowed ⊢
  split
  · rename_i cmd
    rwa [if_pos cmd] at allowed
  · rename_i notCmd
    rw [if_neg notCmd] at allowed
    split
    · rename_i program
      rw [if_pos program] at allowed
      obtain ⟨m, inside, stored, all⟩ := allowed
      exact ⟨m, inside, stored, fun did => all (only did)⟩
    · rename_i notProgram
      rwa [if_neg notProgram] at allowed

end Handed

-----------------------------------------------------------------------------------------
-- A turn
-----------------------------------------------------------------------------------------

/-- What is connected to the programmer is as it was. -/
def SameTarget (before after : Station) : Prop := after.device.rig = before.device.rig

instance : Std.Refl SameTarget := ⟨fun _ => rfl⟩

instance : IsTrans Station SameTarget := ⟨fun _ _ _ one two => Eq.trans two one⟩

theorem sameTarget_frame : CallFrame SameTarget where
  listened station := by rw [SameTarget, (listened_unlistened station).device]
  closed _ _ := rfl
  sent _ _ := rfl
  setConn _ _ _ _ := rfl
  released _ _ := rfl
  dequeued _ := rfl
  entered _ _ _ := rfl
  packetGot _ := rfl
  packetReleased _ _ := rfl
  replyRead _ _ := rfl
  held _ _ _ := rfl
  noted _ _ := rfl

/-- No call but the one of `process_packet` touches the target. -/
theorem handlingStep_sameTarget (answer : Answer) {point : HandlePoint}
    (unhanded : point.Unhanded) : Moves SameTarget (handlingStep answer point) := by
  cases point with
  | processing serving => exact absurd rfl (unhanded serving)
  | receiving serving => exact receivingStep_framed sameTarget_frame answer serving fun _ => rfl
  | _ => exact handlingStep_framed sameTarget_frame answer trivial

theorem listeningCall_sameTarget (refused : Bool) (station : Station)
    : SameTarget station (listeningCall refused station) :=
  listeningCall_moves (S := SameTarget)
    (fun station => congrArg Device.rig (listeningStep_unlistened station).device) (fun _ => rfl)
    refused station

/-- The packet that a turn hands over, if it is one that does. -/
def Tasks.handed (tasks : Tasks) : Turn → Option Packet
  | .listening _ => none
  | .handling _ =>
      match tasks.handling with
      | .processing _ => some tasks.station.object
      | _ => none

/-- The task goes on to the release of the packet that it handed over. -/
def Tasks.Returned (tasks : Tasks) : Prop := ∃ serving, tasks.handling = .putting serving

/-- A turn may make these writes: those of the packet that it hands over. -/
def Tasks.Writes (set : InstructionSet) (tasks : Tasks) (turn : Turn)
    (writes : List (TargetCell × UInt8)) : Prop :=
  match tasks.handed turn with
  | none => writes = []
  | some object => object.Writes set (tasks.step turn).Returned writes

section Turns

variable {tasks : Tasks}

/-- A turn that hands a packet over makes the writes of the packet. -/
theorem Tasks.processing_wrote {serving : Serving} (point : tasks.handling = .processing serving)
    (spoken : Spoken set tasks.station.device.rig)
    (describes : tasks.station.object.Describes set) (answer : Answer)
    : ∃ writes,
        tasks.station.object.Writes set (tasks.step (.handling answer)).Returned writes
        ∧ Wrote set tasks.station.device.rig writes
            (tasks.step (.handling answer)).station.device.rig := by
  let outQueue := tasks.station.queueWord (tasks.station.conns serving.info).outQueue
  obtain ⟨writes, allowed, wrote⟩ :=
    processPacket_wrote outQueue tasks.station.packet spoken describes
  let noted := tasks.station.note (.handed tasks.station.packet tasks.station.object.header.type)
  cases run : processPacket outQueue tasks.station.packet tasks.station.device with
  | ok status device =>
      rw [run] at allowed wrote
      have goes
          : handlingStep answer tasks.handling tasks.station
            = .ok (.putting serving, .other) { noted with device := device } := by
        rw [point]
        have ran : onDevice (processPacket outQueue tasks.station.packet) noted = _ := onPart_ok run
        exact bind_ok ((handOver_eq _ _).trans ran)
      rw [Tasks.step, goes]
      exact ⟨writes, allowed.mono fun _ => ⟨status, device, rfl⟩, wrote⟩
  | error e device =>
      rw [run] at allowed wrote
      have stops
          : handlingStep answer tasks.handling tasks.station
            = .error e { noted with device := device } := by
        rw [point]
        have ran : onDevice (processPacket outQueue tasks.station.packet) noted = _ :=
          onPart_error run
        exact bind_error ((handOver_eq _ _).trans ran)
      have stopped {after : Tasks} (ended : after.handling = .stopped)
          : tasks.station.object.Writes set after.Returned writes := by
        refine allowed.mono fun returned => ?_
        obtain ⟨serving, next⟩ := returned
        rw [ended] at next
        cases next
      rw [Tasks.step, stops]
      cases e with
      | restart | nullMcuInfo | noHandler => exact ⟨writes, stopped rfl, wrote⟩
      | waiting =>
          have answers := processPacket_answers outQueue tasks.station.packet
            tasks.station.device trivial
          rw [run] at answers
          exact absurd rfl answers

/-- No other turn touches the target. -/
theorem Tasks.step_sameTarget {turn : Turn} (none : tasks.handed turn = none)
    : SameTarget tasks.station (tasks.step turn).station := by
  cases turn with
  | listening refused => exact listeningCall_sameTarget refused tasks.station
  | handling answer =>
      have unhanded : tasks.handling.Unhanded := by
        intro serving point
        rw [Tasks.handed, point] at none
        cases none
      exact Tasks.step_handling (handlingStep_sameTarget answer unhanded tasks.station)

/-- Every turn makes its writes and no others. -/
theorem Tasks.step_wrote (spoken : Spoken set tasks.station.device.rig) (turn : Turn)
    (describes : ∀ object, tasks.handed turn = some object → object.Describes set)
    : ∃ writes,
        tasks.Writes set turn writes
        ∧ Wrote set tasks.station.device.rig writes (tasks.step turn).station.device.rig := by
  cases handed : tasks.handed turn with
  | none =>
      refine ⟨[], by rw [Tasks.Writes, handed], ?_⟩
      rw [Tasks.step_sameTarget handed]
      exact .refl spoken
  | some object =>
      suffices made
          : ∃ writes,
              object.Writes set (tasks.step turn).Returned writes
              ∧ Wrote set tasks.station.device.rig writes
                  (tasks.step turn).station.device.rig by
        obtain ⟨writes, allowed, wrote⟩ := made
        exact ⟨writes, by rw [Tasks.Writes, handed]; exact allowed, wrote⟩
      have known := describes object handed
      cases turn with
      | listening refused => cases handed
      | handling answer =>
          cases point : tasks.handling with
          | processing serving =>
              rw [Tasks.handed, point] at handed
              cases handed
              exact Tasks.processing_wrote point spoken known answer
          | _ =>
              rw [Tasks.handed, point] at handed
              cases handed

/-- The turns of a run make their writes one after the other, by induction on the turns. -/
theorem Tasks.run_memory (spoken : Spoken set tasks.station.device.rig) {turns : List Turn}
    (describes
      : ∀ moment ∈ moments Tasks.step turns tasks,
          ∀ object, moment.1.handed moment.2 = some object → object.Describes set)
    (initial : TargetCell → UInt8)
    : ∃ writes,
        List.Forall₂ (fun moment own => moment.1.Writes set moment.2 own)
          (moments Tasks.step turns tasks) writes
        ∧ set.memory initial (afterTurns Tasks.step turns tasks).station.device.rig.log
          = writeAll (set.memory initial tasks.station.device.rig.log) writes.flatten := by
  induction turns generalizing tasks with
  | nil => exact ⟨[], .nil, rfl⟩
  | cons turn turns ih =>
      obtain ⟨first, others⟩ := List.forall_mem_cons.mp describes
      obtain ⟨own, allowed, wrote⟩ := Tasks.step_wrote spoken turn first
      obtain ⟨writes, rest, after⟩ := ih wrote.spoken others
      refine ⟨own :: writes, .cons allowed rest, ?_⟩
      rw [List.flatten_cons, writeAll_append, ← wrote.memory initial]
      exact after

end Turns

/-- From the start of the packet handler on, in whatever order the two tasks take their turns and
whatever the network, the pools and the target do: if every LoadMCUInfo packet that is handed over
describes the target, its memory is changed by the packets that are handed over, in their order,
and by nothing else.
-/
theorem tasks_memory (station : Station) (turns : List Turn)
    (describes
      : ∀ moment ∈ moments Tasks.step turns (.start station),
          ∀ object, moment.1.handed moment.2 = some object → object.Describes set)
    (initial : TargetCell → UInt8)
    : ∃ writes,
        List.Forall₂ (fun moment own => moment.1.Writes set moment.2 own)
          (moments Tasks.step turns (.start station)) writes
        ∧ set.memory initial
            (afterTurns Tasks.step turns (.start station)).station.device.rig.log
          = writeAll initial writes.flatten :=
  Tasks.run_memory (fun block found => by cases found) describes initial

/-- A client that describes the target and has two bytes of its EEPROM programmed. -/
def programmingClient : Socket :=
  let described := [plStartFrameByte, 0, plLoadMcuInfo, 0, 252]
    ++ (smallInstructions.description 5 9).layout
  let programmed :=
    [plStartFrameByte, 0, plProgramMemory, 0, 7, 0, 0, 0, 3, plEepromMemoryByte, 0x12, 0x34]
  ⟨described ++ programmed, [5, 252, 5, 7], [], [5, 1, 5, 1], []⟩

/-- The client connects, and the target is an erased one that executes its instructions. -/
def programmingStation : Station :=
  let station := oneClient programmingClient
  { station with device := { station.device with rig := executingRig } }

/-- The client connects before the handling task serves it. -/
def programmingTurns : List Turn := clientTurns ++ handlingTurns 21 1

/-- What the client's packets make of the target. -/
theorem tasks_memory_programmed
    : let start := Tasks.start programmingStation
      ∃ writes,
        List.Forall₂ (fun moment own => moment.1.Writes smallInstructions moment.2 own)
          (moments Tasks.step programmingTurns start) writes
        ∧ smallInstructions.memory (fun _ => 0xFF)
            (afterTurns Tasks.step programmingTurns start).station.device.rig.log
          = writeAll (fun _ => 0xFF) writes.flatten := by
  let layout := (smallInstructions.description 5 9).layout
  have stands
      : ∀ moment ∈ moments Tasks.step programmingTurns (.start programmingStation),
          ∀ object ∈ moment.1.handed moment.2,
            object.header.type = PacketType.loadMcuInfoPacket.val →
            object.packetData.load 0 layout.length = layout := by
    decide +kernel
  refine tasks_memory programmingStation programmingTurns ?_ _
  exact fun moment member object handed load => ⟨5, 9, stands moment member object handed load⟩

example
    : let tasks := afterTurns Tasks.step programmingTurns (.start programmingStation)
      let memory := smallInstructions.memory (fun _ => 0xFF) tasks.station.device.rig.log
      [memory (.eeprom, 2), memory (.eeprom, 3), memory (.eeprom, 4)] = [0xFF, 0x12, 0x34] := by
  decide +kernel

end BigBlackHardware
