import BigBlackHardware.Controller.Acknowledgement
import BigBlackHardware.Controller.WrongSize
import BigBlackHardware.Programmer.Outcomes

/-! One reply to each request: which requests get exactly one, and the right one. -/

namespace BigBlackHardware

open Library

/-- The packet type of a request. -/
def SessionRequest.type : SessionRequest → PacketType
  | .cmd => .cmdPacket
  | .loadMcuInfo => .loadMcuInfoPacket
  | .programMemory => .programMemoryPacket
  | .readMemory => .readMemoryPacket

/-- The text of the error reply to a request. -/
def SessionRequest.errorText : SessionRequest → String
  | .cmd => "Failed to load command into MCU\r\n"
  | .loadMcuInfo => "Failed to enter PGM mode\r\n"
  | .programMemory => "Failed to program memory\r\n"
  | .readMemory => "Failed to read memory\r\n"

/-- Room for all that a handler takes and queues: two packets and two messages. -/
structure Desk.Room (desk : Desk) (outQueue : Nat) : Prop where
  first : ¬ desk.UsedUp
  second : ¬ desk.packetGot.UsedUp
  accepted : desk.refused outQueue = false
  slots : (waiting desk.messages outQueue).length + 1 < msgQueueSize

/-- The operation that the request asks for succeeds. -/
def SessionRequest.Succeeds (request : SessionRequest) (outQueue packet : Nat) (device : Device)
    : Prop :=
  let object := device.desk.packets packet
  match request with
  | .cmd =>
      object.header.dataSize.toUInt8.toNat = avrCmdSize
      ∧ checkCmdStatus (commandOf object) (device.rig.target device.rig.log (commandOf object)) = 0
  | .loadMcuInfo => SawEcho outQueue packet device
  | .programMemory =>
      ∃ status after,
        programmerProgramMemory (getProgMemData object device.rig.heap).2.1
            { device.rig with heap := (getProgMemData object device.rig.heap).2.2 }
          = .ok status after
        ∧ 0 ≤ status
  | .readMemory =>
      ∃ memData read stored after,
        getReadMemData object = .ok memData
        ∧ programmerReadMemory memData
            (device.desk.packets device.desk.memoryPacket).packetData device.rig
          = .ok (read, stored) after
        ∧ 0 ≤ read

/-- What the success reply is: any packet with the target's answer or with the success byte, or the
packet object that the memory was read into, which is not the request's own, with all the bytes
that were read.
-/
def SessionRequest.IsSuccess (request : SessionRequest) (packet : Nat) (device : Device)
    (reply : Nat) (content : List UInt8) : Prop :=
  let object := device.desk.packets packet
  match request with
  | .cmd => content = (device.rig.target device.rig.log (commandOf object)).toList
  | .loadMcuInfo | .programMemory => content = [plAckSuccess]
  | .readMemory =>
      reply = device.desk.memoryPacket
      ∧ reply ≠ packet
      ∧ ∃ memData read stored after,
          getReadMemData object = .ok memData
          ∧ programmerReadMemory memData
              (device.desk.packets device.desk.memoryPacket).packetData device.rig
            = .ok (read, stored) after
          ∧ content = stored.load 0 memData.bytesToRead.toNat

/-- The reply is the success reply if the operation succeeds and the error reply otherwise. The
packet types are left out, since `create_packet` stores none.
-/
structure RightReply (request : SessionRequest) (outQueue packet : Nat) (device : Device)
    (reply : Nat) (content : List UInt8) : Prop where
  success : request.Succeeds outQueue packet device → request.IsSuccess packet device reply content
  failure : ¬ request.Succeeds outQueue packet device → content = textBytes request.errorText

/-- The handler restarts the device, or it returns with exactly one reply queued, the right one. -/
def OneReply (request : SessionRequest) (outQueue packet : Nat) (device : Device) : Prop :=
  match processPacket outQueue packet device with
  | .ok _ after =>
      ∃ reply,
        after.desk.messages = device.desk.messages ++ [⟨outQueue, reply⟩]
        ∧ RightReply request outQueue packet device reply (after.desk.packets reply).content
  | .error e _ => e = .restart

/-- The requests that get their one reply: a command that the target echoes; an `mcu_info` for
which it enters programming mode in the first attempt; data that does not need a missing
`mcu_info`; and a read of that kind which fails, for a count that no packet can hold.
-/
def Answerable (request : SessionRequest) (packet : Nat) (device : Device) : Prop :=
  let object := device.desk.packets packet
  match request with
  | .cmd =>
      object.header.dataSize.toUInt8.toNat = avrCmdSize
      ∧ checkCmdStatus (commandOf object) (device.rig.target device.rig.log (commandOf object)) = 0
  | .loadMcuInfo =>
      EchoesWithin device.rig.target (requestedInfo object device.rig.heap).pgmEnable
        pgmEnableRetries (device.rig.log ++ preparations)
  | .programMemory =>
      device.rig.mcuInfo = none → ¬ (getProgMemData object device.rig.heap).2.1.NeedsInfo
  | .readMemory =>
      ∃ memData,
        getReadMemData object = .ok memData
        ∧ (device.rig.mcuInfo = none → ¬ memData.NeedsInfo)
        ∧ ¬ ReadSucceeds device.rig memData
        ∧ plMaxDataLength.toNat < memData.bytesToRead.toUInt16.toNat
        -- the refused size is stored in the request all the same
        ∧ device.desk.packetGot.memoryPacket ≠ packet

section Replies

variable {desk : Desk} {outQueue : Nat}

theorem Desk.Room.slot (room : desk.Room outQueue) : desk.HasSlot outQueue :=
  ⟨room.accepted, by have := room.slots; omega⟩

/-- A reply that is sent is one more message. -/
theorem sent_messages (desk : Desk) (data : Cells UInt8) (dataLen : UInt16)
    (slot : desk.HasSlot outQueue)
    : (desk.sent data dataLen outQueue).messages
      = desk.messages ++ [⟨outQueue, desk.memoryPacket⟩] := by
  rw [Desk.sent, written_messages, if_pos]
  · rfl
  · exact slot

/-- Of two slots one is left after the first reply. -/
theorem sent_hasSlot (desk : Desk) (data : Cells UInt8) (dataLen : UInt16)
    (accepted : desk.refused outQueue = false)
    (slots : (waiting desk.messages outQueue).length + 1 < msgQueueSize)
    : (desk.sent data dataLen outQueue).HasSlot outQueue := by
  refine ⟨accepted, ?_⟩
  rw [sent_messages desk data dataLen ⟨accepted, by omega⟩, waiting_append, List.length_append,
    List.length_singleton]
  exact slots

/-- After the first reply there is still room for another one. -/
theorem Desk.Room.sent (room : desk.Room outQueue) (data : Cells UInt8) (dataLen : UInt16)
    : ¬ (desk.sent data dataLen outQueue).UsedUp
      ∧ (desk.sent data dataLen outQueue).HasSlot outQueue :=
  ⟨room.second, sent_hasSlot desk data dataLen room.accepted room.slots⟩

/-- An acknowledgement is one more message. -/
theorem sendAck_messages (room : desk.Room outQueue) {status : Int}
    : (final (sendAck status outQueue desk)).messages
      = desk.messages ++ [⟨outQueue, desk.memoryPacket⟩] := by
  let unset := { desk with junk := desk.junk.rest }
  let data := Cells.store (fun _ => 0) 0 [setAckData desk.junk.value.toUInt8 status]
  have free : ¬ unset.UsedUp := room.first
  have run : sendAck status outQueue desk = createSendPacket .ackPacket data 1 outQueue unset := rfl
  rw [run, createSendPacket_eq free (by decide)]
  exact sent_messages unset data 1 room.slot

/-- The packet of a single new message carries what the new reply does. -/
theorem newReplies_content {before after : Desk} {reply : Nat} {content : List UInt8}
    (queued : after.messages = before.messages ++ [⟨outQueue, reply⟩])
    (one : newReplies before after = [⟨outQueue, content⟩])
    : (after.packets reply).content = content := by
  rw [newReplies_append before after queued, List.singleton_inj] at one
  exact congrArg Reply.content one

/-- A write with a slot is one more message. -/
theorem written_messages_length (desk : Desk) (packet : Nat) (slot : desk.HasSlot outQueue)
    : (desk.written packet outQueue).messages.length = desk.messages.length + 1 := by
  rw [written_messages, if_pos slot, List.length_append, List.length_singleton]

/-- A packet that is sent carries the data. -/
theorem sent_content (desk : Desk) (data : Cells UInt8) (dataLen : UInt16) (outQueue : Nat)
    : ((desk.sent data dataLen outQueue).packets desk.memoryPacket).content
      = data.load 0 dataLen.toNat := by
  have object : (desk.sent data dataLen outQueue).packets desk.memoryPacket
      = desk.createdPacket data dataLen := if_pos rfl
  rw [object, createdPacket_content]

/-- The answer to a command is sent with its four bytes. -/
theorem answer_content (desk : Desk) (answer : AvrCommand) (outQueue : Nat)
    : ((desk.sent (Cells.store (fun _ => 0) 0 answer.toList) avrCmdSize.toUInt16
          outQueue).packets desk.memoryPacket).content
      = answer.toList := by
  have stored := Cells.load_store (fun _ => 0) answer.toList
  rw [Vector.length_toList] at stored
  rw [sent_content]
  exact stored

/-- Two messages are not one. -/
theorem sent_twice_messages (room : desk.Room outQueue) (first second : Cells UInt8)
    (firstLen secondLen : UInt16) (message : Message)
    : ((desk.sent first firstLen outQueue).sent second secondLen outQueue).messages
      ≠ desk.messages ++ [message] := by
  intro single
  have length := congrArg List.length single
  rw [sent_messages _ _ _ (room.sent first firstLen).2, sent_messages _ _ _ room.slot] at length
  simp only [List.length_append, List.length_singleton] at length
  omega

end Replies

section Runs

variable {request : SessionRequest} {outQueue packet : Nat} {device : Device}

/-- A request is dispatched to its handler. -/
theorem processPacket_request
    (kind : (device.desk.packets packet).header.type = request.type.val)
    : processPacket outQueue packet device = request.handler outQueue packet device :=
  processPacket_eq kind (by cases request <;> rfl)

/-- A handler that returns is judged by what it queued. -/
theorem oneReply_ok (kind : (device.desk.packets packet).header.type = request.type.val)
    {status : Int} {after : Device}
    (run : request.handler outQueue packet device = .ok status after)
    : OneReply request outQueue packet device
      ↔ ∃ reply,
          after.desk.messages = device.desk.messages ++ [⟨outQueue, reply⟩]
          ∧ RightReply request outQueue packet device reply
              (after.desk.packets reply).content := by
  rw [OneReply, processPacket_request kind, run]

/-- A handler that stops has to restart the device. -/
theorem oneReply_error (kind : (device.desk.packets packet).header.type = request.type.val)
    {e : Stop} {after : Device}
    (run : request.handler outQueue packet device = .error e after)
    : OneReply request outQueue packet device ↔ e = .restart := by
  rw [OneReply, processPacket_request kind, run]

/-- Without a new message the request is not answered. -/
theorem not_oneReply_of_none (kind : (device.desk.packets packet).header.type = request.type.val)
    {status : Int} {after : Device}
    (run : request.handler outQueue packet device = .ok status after)
    (none : after.desk.messages = device.desk.messages)
    : ¬ OneReply request outQueue packet device := by
  rw [oneReply_ok kind run, none]
  rintro ⟨reply, single, -⟩
  exact absurd single (by simp)

/-- A single new message has to be the right reply. -/
theorem oneReply_single (kind : (device.desk.packets packet).header.type = request.type.val)
    {status : Int} {after : Device} {reply : Nat} {content : List UInt8}
    (run : request.handler outQueue packet device = .ok status after)
    (one : after.desk.messages = device.desk.messages ++ [⟨outQueue, reply⟩])
    (carries : (after.desk.packets reply).content = content)
    : OneReply request outQueue packet device
      ↔ RightReply request outQueue packet device reply content := by
  rw [oneReply_ok kind run, one]
  constructor
  · rintro ⟨other, same, right⟩
    rw [List.append_cancel_left_eq, List.singleton_inj] at same
    cases same
    rwa [carries] at right
  · exact fun right => ⟨reply, rfl, by rwa [carries]⟩

end Runs

section Requests

variable {outQueue packet : Nat} {device : Device}

/-- A CMD request of the size of a command sends the answer, after an error reply if the target
does not echo the command.
-/
theorem processCmdPacket_returns (room : device.desk.Room outQueue)
    (size : (device.desk.packets packet).header.dataSize.toUInt8.toNat = avrCmdSize)
    : let cmd := commandOf (device.desk.packets packet)
      let answer := device.rig.target device.rig.log cmd
      let reported :=
        if checkCmdStatus cmd answer < 0 then
          device.desk.errorSent SessionRequest.cmd.errorText outQueue
        else device.desk
      processCmdPacket outQueue packet device
      = .ok packetSuccess
          { rig := device.rig.transferred cmd
            desk :=
              reported.sent (Cells.store (fun _ => 0) 0 answer.toList) avrCmdSize.toUInt16
                outQueue } := by
  intro cmd answer reported
  have sent : programmerWriteCmd cmd device.rig
      = .ok (checkCmdStatus cmd answer, answer) (device.rig.transferred cmd) := rfl
  have reply {desk : Desk} (free : ¬ desk.UsedUp)
      : onDesk (sendAvrCmd answer outQueue) { rig := device.rig.transferred cmd, desk := desk }
        = .ok packetSuccess
            { rig := device.rig.transferred cmd
              desk :=
                desk.sent (Cells.store (fun _ => 0) 0 answer.toList) avrCmdSize.toUInt16
                  outQueue } :=
    onDesk_ok (createSendPacket_eq free (by decide))
  rw [processCmdPacket, bind_ok (readPacket_eq packet device)]
  dsimp only
  rw [if_neg (not_not.mpr size), bind_ok (onRig_ok sent)]
  dsimp only
  by_cases fails : checkCmdStatus cmd answer < 0
  · have error
        : onDesk (sendError SessionRequest.cmd.errorText outQueue)
            ⟨device.rig.transferred cmd, device.desk⟩
          = .ok packetSuccess _ :=
      sendError_eq (by decide) _ room.first
    rw [if_pos fails]
    refine (bind_ok error).trans ((reply (room.sent _ _).1).trans ?_)
    rw [show reported = _ from if_pos fails]
  · rw [if_neg fails]
    refine Eq.trans ?_ ((reply room.first).trans ?_)
    · rfl
    · rw [show reported = _ from if_neg fails]

/-- A CMD request gets its one reply exactly if the target echoes its command. -/
theorem cmd_oneReply_iff (room : device.desk.Room outQueue)
    (kind : (device.desk.packets packet).header.type = SessionRequest.cmd.type.val)
    : OneReply .cmd outQueue packet device ↔ Answerable .cmd packet device := by
  rw [Answerable]
  by_cases size : (device.desk.packets packet).header.dataSize.toUInt8.toNat = avrCmdSize
  · rw [and_iff_right size]
    let cmd := commandOf (device.desk.packets packet)
    let answer := device.rig.target device.rig.log cmd
    have run := processCmdPacket_returns room size
    dsimp only at run
    by_cases echoed : checkCmdStatus cmd answer = 0
    · have passes : ¬ checkCmdStatus cmd answer < 0 := by rw [echoed]; decide
      have one := sent_messages device.desk (Cells.store (fun _ => 0) 0 answer.toList)
        avrCmdSize.toUInt16 room.slot
      rw [if_neg passes] at run
      rw [oneReply_single kind run one (answer_content device.desk answer outQueue)]
      exact iff_of_true ⟨fun _ => rfl, fun fails => absurd ⟨size, echoed⟩ fails⟩ echoed
    · have fails : checkCmdStatus cmd answer < 0 := (checkCmdStatus_neg_iff _ _).mpr echoed
      rw [if_pos fails] at run
      rw [oneReply_ok kind run]
      refine iff_of_false ?_ echoed
      rintro ⟨reply, single, -⟩
      exact sent_twice_messages room _ _ _ _ _ single
  · refine iff_of_false ?_ fun h => size h.1
    exact not_oneReply_of_none kind (processCmdPacket_refuses size) rfl

/-- A single reply that would do as the success reply is right exactly if the operation succeeds. -/
theorem rightReply_success_iff {request : SessionRequest} {reply : Nat} {content : List UInt8}
    (success : request.IsSuccess packet device reply content)
    (noError : content ≠ textBytes request.errorText)
    : RightReply request outQueue packet device reply content
      ↔ request.Succeeds outQueue packet device := by
  constructor
  · intro right
    by_contra fails
    exact noError (right.failure fails)
  · exact fun succeeds => ⟨fun _ => success, fun fails => absurd succeeds fails⟩

/-- A LoadMCUInfo request gets a success reply, so that it is answered exactly if the target
echoes.
-/
theorem loadMcuInfo_oneReply_iff (room : device.desk.Room outQueue)
    (kind : (device.desk.packets packet).header.type = SessionRequest.loadMcuInfo.type.val)
    : OneReply .loadMcuInfo outQueue packet device ↔ Answerable .loadMcuInfo packet device := by
  obtain ⟨entered, run, -⟩ := processLoadMcuInfoPacket_eq outQueue packet device
  rw [acknowledge_returns _ outQueue { device with rig := entered } room.first] at run
  have one := loadReplies_eq outQueue packet device
  rw [if_pos ⟨room.first, room.slot⟩, loadReplies, run] at one
  have success : SessionRequest.loadMcuInfo.IsSuccess packet device device.desk.memoryPacket
      [plAckSuccess] := rfl
  rw [oneReply_single kind run (sendAck_messages room)
      (newReplies_content (sendAck_messages room) one),
    rightReply_success_iff success (by decide)]
  exact sawEcho_iff outQueue packet device

/-- Decoding a ProgramMemory request succeeds. -/
theorem loadProgMemData_success (request : Packet) (rig : Rig)
    : loadProgMemData request rig
      = .ok (0, (getProgMemData request rig.heap).2.1)
          { rig with heap := (getProgMemData request rig.heap).2.2 } := rfl

section Programmed

variable {status : Int} {after : Rig} (outQueue)

/-- After a failed programming the device restarts. -/
theorem processProgramMemoryPacket_restarts
    (programs
      : programmerProgramMemory (getProgMemData (device.desk.packets packet) device.rig.heap).2.1
          { device.rig with
            heap := (getProgMemData (device.desk.packets packet) device.rig.heap).2.2 }
        = .ok status after)
    (fails : status < 0)
    : ∃ stopped,
        processProgramMemoryPacket outQueue packet device = .error .restart stopped
        ∧ stopped.rig = after := by
  obtain ⟨sent, desk, error⟩ := sendError_total "Failed to program memory\r\n" outQueue device.desk
  have reported
      : onDesk (sendError "Failed to program memory\r\n" outQueue) ⟨after, device.desk⟩
        = .ok sent ⟨after, desk⟩ := onDesk_ok error
  have stops : sysAssertCritical status ⟨after, desk⟩ = .error .restart ⟨after, desk⟩ := by
    rw [sysAssertCritical, if_pos fails]
    rfl
  rw [processProgramMemoryPacket, bind_ok (readPacket_eq packet device),
    bind_ok (onRig_ok (loadProgMemData_success (device.desk.packets packet) device.rig))]
  dsimp only
  rw [if_neg (by decide), bind_ok (onRig_ok programs), if_pos fails, bind_ok reported,
    bind_error stops]
  exact ⟨_, rfl, rfl⟩

/-- Any other status is acknowledged. -/
theorem processProgramMemoryPacket_acknowledges
    (programs
      : programmerProgramMemory (getProgMemData (device.desk.packets packet) device.rig.heap).2.1
          { device.rig with
            heap := (getProgMemData (device.desk.packets packet) device.rig.heap).2.2 }
        = .ok status after)
    (succeeds : ¬ status < 0)
    : processProgramMemoryPacket outQueue packet device
      = (do
          let status ← onDesk (sendAck status outQueue)
          sysAssertCritical status
          return status : DeviceM Int) { device with rig := after } := by
  rw [processProgramMemoryPacket, bind_ok (readPacket_eq packet device),
    bind_ok (onRig_ok (loadProgMemData_success (device.desk.packets packet) device.rig))]
  dsimp only
  rw [if_neg (by decide), bind_ok (onRig_ok programs), if_neg succeeds]

end Programmed

/-- A stop while programming is a stop of the handler. -/
theorem processProgramMemoryPacket_stops (outQueue : Nat) {e : Stop} {stopped : Rig}
    (stops
      : programmerProgramMemory (getProgMemData (device.desk.packets packet) device.rig.heap).2.1
          { device.rig with
            heap := (getProgMemData (device.desk.packets packet) device.rig.heap).2.2 }
        = .error e stopped)
    : processProgramMemoryPacket outQueue packet device
      = .error e { device with rig := stopped } := by
  rw [processProgramMemoryPacket, bind_ok (readPacket_eq packet device),
    bind_ok (onRig_ok (loadProgMemData_success (device.desk.packets packet) device.rig))]
  dsimp only
  rw [if_neg (by decide), bind_error (onRig_error stops)]

/-- A ProgramMemory request is answered, or restarts the device, exactly if it does not need a
missing `mcu_info`.
-/
theorem programMemory_oneReply_iff (room : device.desk.Room outQueue)
    (kind : (device.desk.packets packet).header.type = SessionRequest.programMemory.type.val)
    : OneReply .programMemory outQueue packet device
      ↔ Answerable .programMemory packet device := by
  let memData := (getProgMemData (device.desk.packets packet) device.rig.heap).2.1
  by_cases ready : device.rig.mcuInfo = none → ¬ memData.NeedsInfo
  · refine iff_of_true ?_ ready
    obtain ⟨status, after, programs⟩ := programmerProgramMemory_returns
      { device.rig with
        heap := (getProgMemData (device.desk.packets packet) device.rig.heap).2.2 } ready
    by_cases fails : status < 0
    · obtain ⟨stopped, run, -⟩ := processProgramMemoryPacket_restarts outQueue programs fails
      exact (oneReply_error kind run).mpr rfl
    · have run := processProgramMemoryPacket_acknowledges outQueue programs fails
      rw [acknowledge_returns status outQueue { device with rig := after } room.first] at run
      have one := sendAck_replies status outQueue device.desk
      rw [if_pos ⟨room.first, room.slot⟩, setAckData, if_pos (Int.not_lt.mp fails)] at one
      have success : SessionRequest.programMemory.IsSuccess packet device
          device.desk.memoryPacket [plAckSuccess] := rfl
      rw [oneReply_single kind run (sendAck_messages room)
          (newReplies_content (sendAck_messages room) one),
        rightReply_success_iff success (by decide)]
      exact ⟨status, after, programs, Int.not_lt.mp fails⟩
  · refine iff_of_false ?_ ready
    rw [Classical.not_imp, not_not] at ready
    obtain ⟨stopped, stops⟩ := programmerProgramMemory_stops
      { device.rig with
        heap := (getProgMemData (device.desk.packets packet) device.rig.heap).2.2 }
      ready.1 ready.2
    rw [oneReply_error kind (processProgramMemoryPacket_stops outQueue stops)]
    decide

section Read

variable {memData : AvrReadMemData} {read : Int} {stored : Cells UInt8} {after : Rig}

/-- After a read that succeeded the request comes back, or nothing does. -/
theorem readMemory_succeeded (room : device.desk.Room outQueue)
    (kind : (device.desk.packets packet).header.type = SessionRequest.readMemory.type.val)
    (decoded : getReadMemData (device.desk.packets packet) = .ok memData)
    (reads
      : programmerReadMemory memData
          (device.desk.packets device.desk.memoryPacket).packetData device.rig
        = .ok (read, stored) after)
    (succeeds : 0 ≤ read)
    : ¬ OneReply .readMemory outQueue packet device := by
  have run := processReadMemoryPacket_succeeds outQueue decoded room.first reads succeeds
  by_cases fits : memData.bytesToRead.toUInt16.toNat ≤ plMaxDataLength.toNat
  · let updated := (device.desk.filled stored).updated packet memData.bytesToRead.toUInt16
    have slot : updated.HasSlot outQueue := room.slot
    have one := written_messages updated packet outQueue
    rw [if_pos slot] at one
    rw [onDesk_ok (sendPacket_eq packet .memoryPacket fits outQueue _)] at run
    rw [oneReply_single kind run one rfl]
    intro right
    obtain ⟨-, other, -⟩ :=
      right.success ⟨memData, read, stored, after, decoded, reads, succeeds⟩
    exact other rfl
  · rw [onDesk_ok (sendPacket_refused _ .memoryPacket (Nat.not_le.mp fits))] at run
    exact not_oneReply_of_none kind run rfl

/-- The desk when the error reply of a failed read is queued. -/
def Desk.reported (desk : Desk) (stored : Cells UInt8) (outQueue : Nat) : Desk :=
  (desk.filled stored).errorSent SessionRequest.readMemory.errorText outQueue

/-- The error reply is in the packet behind the one for the memory. -/
theorem reported_messages (room : device.desk.Room outQueue) (stored : Cells UInt8)
    : (device.desk.reported stored outQueue).messages
      = device.desk.messages ++ [⟨outQueue, device.desk.packetGot.memoryPacket⟩] :=
  sent_messages (device.desk.filled stored) _ _ room.slot

section Failed

variable (decoded : getReadMemData (device.desk.packets packet) = .ok memData)
  (reads
    : programmerReadMemory memData
        (device.desk.packets device.desk.memoryPacket).packetData device.rig
      = .ok (read, stored) after)
  (fails : read < 0)

include decoded reads fails

theorem readMemory_notSucceeds : ¬ SessionRequest.readMemory.Succeeds outQueue packet device := by
  rintro ⟨other, status, _, _, valid, run, succeeds⟩
  rw [decoded] at valid
  cases valid
  rw [reads] at run
  cases run
  omega

variable (room : device.desk.Room outQueue)

include room

/-- The handler goes on to send the request with the count of the memory. -/
theorem readMemory_failed_run
    : processReadMemoryPacket outQueue packet device
      = onDesk (sendPacket packet .memoryPacket memData.bytesToRead.toUInt16 outQueue)
          ⟨after, device.desk.reported stored outQueue⟩ :=
  processReadMemoryPacket_fails outQueue decoded room.first reads fails room.second

variable (kind : (device.desk.packets packet).header.type = SessionRequest.readMemory.type.val)

include kind

/-- A count that fits brings a second reply. -/
theorem readMemory_failed_twice
    (fits : memData.bytesToRead.toUInt16.toNat ≤ plMaxDataLength.toNat)
    : ¬ OneReply .readMemory outQueue packet device := by
  have goes := readMemory_failed_run decoded reads fails room
  rw [onDesk_ok (sendPacket_eq packet .memoryPacket fits outQueue _)] at goes
  rw [oneReply_ok kind goes]
  rintro ⟨reply, single, -⟩
  have length := congrArg List.length single
  have another : (device.desk.reported stored outQueue).HasSlot outQueue :=
    sent_hasSlot (device.desk.filled stored) _ _ room.accepted room.slots
  have two := written_messages_length
    ((device.desk.reported stored outQueue).updated packet memData.bytesToRead.toUInt16) packet
    another
  have one := congrArg List.length (reported_messages room stored)
  rw [List.length_append, List.length_singleton] at one
  rw [two, List.length_append, List.length_singleton] at length
  change (device.desk.reported stored outQueue).messages.length + 1 = _ at length
  omega

/-- With a count that does not fit the error reply is still intact if the request, whose size is
stored then, is another packet.
-/
theorem readMemory_failed_once_iff
    (large : plMaxDataLength.toNat < memData.bytesToRead.toUInt16.toNat)
    : OneReply .readMemory outQueue packet device
      ↔ device.desk.packetGot.memoryPacket ≠ packet := by
  let reported := device.desk.reported stored outQueue
  let stamped := (reported.packets packet).withFields 0 0 0 memData.bytesToRead.toUInt16
  have messages := reported_messages room stored
  have failed : ¬ SessionRequest.readMemory.Succeeds outQueue packet device :=
    readMemory_notSucceeds decoded reads fails
  have goes := readMemory_failed_run decoded reads fails room
  rw [onDesk_ok (sendPacket_refused _ .memoryPacket large)] at goes
  rw [oneReply_single kind goes messages rfl]
  constructor
  · intro right same
    have size : ((reported.setPacket packet stamped).packets
        device.desk.packetGot.memoryPacket).content.length
        = memData.bytesToRead.toUInt16.toNat := by
      rw [Packet.content, Cells.load_length, show (reported.setPacket packet stamped).packets
        device.desk.packetGot.memoryPacket = stamped from if_pos same]
      rfl
    have text : (textBytes SessionRequest.readMemory.errorText).length
        ≤ plMaxDataLength.toNat := by decide
    rw [right.failure failed] at size
    omega
  · intro other
    have kept : (reported.setPacket packet stamped).packets device.desk.packetGot.memoryPacket
        = reported.packets device.desk.packetGot.memoryPacket := if_neg other
    have sent : [Reply.mk outQueue
          (reported.packets device.desk.packetGot.memoryPacket).content]
        = [⟨outQueue, textBytes SessionRequest.readMemory.errorText⟩] :=
      (newReplies_append (device.desk.filled stored) reported messages).symm.trans
        (newReplies_errorSent (device.desk.filled stored) (by decide) room.slot)
    rw [List.singleton_inj] at sent
    refine ⟨fun succeeds => absurd succeeds failed, fun _ => ?_⟩
    rw [kept]
    exact congrArg Reply.content sent

/-- After a read that failed the error reply is the only one if no packet can hold the count, and it
is intact.
-/
theorem readMemory_failed_iff
    : OneReply .readMemory outQueue packet device
      ↔ plMaxDataLength.toNat < memData.bytesToRead.toUInt16.toNat
        ∧ device.desk.packetGot.memoryPacket ≠ packet := by
  by_cases fits : memData.bytesToRead.toUInt16.toNat ≤ plMaxDataLength.toNat
  · exact iff_of_false (readMemory_failed_twice decoded reads fails room kind fits)
      fun h => Nat.not_lt.mpr fits h.1
  · have large := Nat.not_le.mp fits
    rw [readMemory_failed_once_iff decoded reads fails room kind large, and_iff_right large]

end Failed

end Read

/-- A ReadMemory request gets its one reply exactly if it decodes, does not need a missing
`mcu_info` and fails for a count that no packet can hold: a second reply follows the error reply
otherwise, and the memory is never sent.
-/
theorem readMemory_oneReply_iff (room : device.desk.Room outQueue)
    (kind : (device.desk.packets packet).header.type = SessionRequest.readMemory.type.val)
    : OneReply .readMemory outQueue packet device ↔ Answerable .readMemory packet device := by
  rw [Answerable]
  cases decoded : getReadMemData (device.desk.packets packet) with
  | error status =>
      refine iff_of_false (not_oneReply_of_none kind (processReadMemoryPacket_undecoded decoded)
        rfl) ?_
      rintro ⟨memData, valid, -⟩
      cases valid
  | ok memData =>
      have only {P : AvrReadMemData → Prop}
          : (∃ other, Except.ok memData = Except.ok (ε := Int) other ∧ P other) ↔ P memData := by
        constructor
        · rintro ⟨other, same, holds⟩
          cases same
          exact holds
        · exact fun holds => ⟨memData, rfl, holds⟩
      rw [only]
      let buf := (device.desk.packets device.desk.memoryPacket).packetData
      by_cases ready : device.rig.mcuInfo = none → ¬ memData.NeedsInfo
      · rw [and_iff_right ready]
        obtain ⟨read, stored, after, reads, status⟩ := programmerReadMemory_returns buf ready
        by_cases succeeds : ReadSucceeds device.rig memData
        · refine iff_of_false ?_ fun h => h.1 succeeds
          exact readMemory_succeeded room kind decoded reads (status.mpr succeeds)
        · have fails : read < 0 := Int.not_le.mp (mt status.mp succeeds)
          rw [readMemory_failed_iff decoded reads fails room kind, and_iff_right succeeds]
      · refine iff_of_false ?_ fun h => ready h.1
        rw [Classical.not_imp, not_not] at ready
        have stops := programmerReadMemory_null buf ready.1 ready.2
        have run : SessionRequest.readMemory.handler outQueue packet device
            = .error .nullMcuInfo ⟨device.rig, device.desk.packetGot⟩ :=
          processReadMemoryPacket_stops decoded room.first stops
        rw [oneReply_error kind run]
        decide

end Requests

/-- With room for the replies, whatever the target answers: a request gets exactly one reply, and
the right one, exactly if it is answerable.
-/
theorem processPacket_oneReply_iff (request : SessionRequest) (outQueue packet : Nat)
    (device : Device) (kind : (device.desk.packets packet).header.type = request.type.val)
    (room : device.desk.Room outQueue)
    : OneReply request outQueue packet device ↔ Answerable request packet device := by
  cases request with
  | cmd => exact cmd_oneReply_iff room kind
  | loadMcuInfo => exact loadMcuInfo_oneReply_iff room kind
  | programMemory => exact programMemory_oneReply_iff room kind
  | readMemory => exact readMemory_oneReply_iff room kind

/-- A device after a reset with a target that gives one answer to everything, and a CMD packet of
four zeros.
-/
def answeringDevice (answer : AvrCommand) : Device :=
  { cmdDevice 4 with rig := .boot (fun _ _ => answer) (.boot fun _ _ => 0) ⟨fun _ => 0, 0⟩ }

/-- After a reset there is room. -/
theorem cmdDevice_room : (cmdDevice 4).desk.Room 0 :=
  ⟨by decide, by decide, rfl, by decide⟩

/-- A command that is echoed gets one reply. -/
theorem processPacket_oneReply_echoed : OneReply .cmd 0 7 (answeringDevice #v[0, 0, 0, 0]) :=
  (processPacket_oneReply_iff .cmd 0 7 (answeringDevice #v[0, 0, 0, 0]) rfl cmdDevice_room).mpr
    ⟨rfl, by decide +kernel⟩

/-- A command that is not echoed gets two. -/
theorem processPacket_replies_twice
    : ¬ OneReply .cmd 0 7 (answeringDevice #v[1, 1, 1, 1]) := by
  intro one
  have room : (answeringDevice #v[1, 1, 1, 1]).desk.Room 0 := cmdDevice_room
  obtain ⟨-, echoed⟩ := (cmd_oneReply_iff room rfl).mp one
  exact absurd echoed (by decide +kernel)

end BigBlackHardware
