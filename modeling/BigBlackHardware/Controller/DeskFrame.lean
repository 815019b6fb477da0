import BigBlackHardware.Controller.Replies

/-! What the handlers can change on the desk. A relation that holds across each kind of change holds
across every handler.
-/

namespace BigBlackHardware

open Library

/-- The relation holds across every change that the handlers make to the desk. -/
structure DeskFrame (S : Desk → Desk → Prop) : Prop where
  got : ∀ desk, S desk desk.packetGot
  stored : ∀ desk address packet, S desk (desk.setPacket address packet)
  written : ∀ desk packet outQueue, S desk (desk.written packet outQueue)
  junk : ∀ desk, S desk { desk with junk := desk.junk.rest }

/-- The relation holds across the changes that a handler makes which replies to this queue. -/
structure ReplyFrame (outQueue : Nat) (S : Desk → Desk → Prop) : Prop where
  got : ∀ desk, S desk desk.packetGot
  stored : ∀ desk address packet, S desk (desk.setPacket address packet)
  written : ∀ desk packet, S desk (desk.written packet outQueue)
  junk : ∀ desk, S desk { desk with junk := desk.junk.rest }

theorem DeskFrame.toReplyFrame {S : Desk → Desk → Prop} (frame : DeskFrame S) (outQueue : Nat)
    : ReplyFrame outQueue S :=
  ⟨frame.got, frame.stored, fun desk packet => frame.written desk packet outQueue, frame.junk⟩

/-- The relation on devices that holds of their desks. -/
def OfDesks (S : Desk → Desk → Prop) (before after : Device) : Prop := S before.desk after.desk

section Replies

variable {S : Desk → Desk → Prop} {outQueue : Nat} (frame : ReplyFrame outQueue S)

include frame

theorem getPacketFromPool_moves (packet : Nat) : Moves S (getPacketFromPool packet) :=
  fun desk => frame.got desk

theorem createPacketAt_moves (packet : Nat) (type : PacketType) (data : Option (Cells UInt8))
    (dataLen : UInt16) : Moves S (createPacketAt packet type data dataLen) :=
  fun desk => frame.stored desk packet _

theorem writePacket_moves (packet : Nat) : Moves S (writePacket packet outQueue) :=
  fun desk => frame.written desk packet

variable [Std.Refl S] [IsTrans Desk S]

theorem createSendPacket_moves (type : PacketType) (data : Cells UInt8) (dataLen : UInt16)
    : Moves S (createSendPacket type data dataLen outQueue) := by
  rw [createSendPacket]
  refine .bind (getPacketFromPool_moves frame 0) fun got => .ite (.pure _) ?_
  refine .bind (createPacketAt_moves frame _ _ _ _) fun status => .ite (.pure _) ?_
  exact .bind (writePacket_moves frame _) fun _ => .pure _

theorem sendPacket_moves (packet : Nat) (type : PacketType) (dataLen : UInt16)
    : Moves S (sendPacket packet type dataLen outQueue) := by
  rw [sendPacket]
  refine .bind (createPacketAt_moves frame _ _ _ _) fun status => .ite (.pure _) ?_
  exact .bind (writePacket_moves frame _) fun _ => .pure _

theorem sendAck_moves (status : Int) : Moves S (sendAck status outQueue) :=
  fun desk => IsTrans.trans _ _ _ (frame.junk desk) (createSendPacket_moves frame .ackPacket _ 1 _)

end Replies

section Handlers

variable {S : Desk → Desk → Prop}

theorem onDesk_ofDesks {α : Type} {m : DeskM α} (moves : Moves S m)
    : Moves (OfDesks S) (onDesk m) :=
  moves.onPart fun _ _ moved => moved

instance [IsTrans Desk S] : IsTrans Device (OfDesks S) :=
  ⟨fun _ _ _ first second => IsTrans.trans (r := S) _ _ _ first second⟩

variable [Std.Refl S]

instance : Std.Refl (OfDesks S) := ⟨fun device => Std.Refl.refl device.desk⟩

theorem onRig_ofDesks {α : Type} (m : RigM α) : Moves (OfDesks S) (onRig m) :=
  Moves.onPart (S := fun _ _ => True) (fun _ => trivial) fun device _ _ =>
    Std.Refl.refl device.desk

theorem readPacket_ofDesks (packet : Nat) : Moves (OfDesks S) (readPacket packet) :=
  fun device => Std.Refl.refl device.desk

variable [IsTrans Desk S]

variable {outQueue : Nat} (frame : ReplyFrame outQueue S) (packet : Nat)

/-- A reply and the reset that follows if it fails. -/
theorem acknowledge_ofDesks {m : DeskM Int} (moves : Moves S m)
    : Moves (OfDesks S)
        (do
          let status ← onDesk m
          sysAssertCritical status
          return status) :=
  .bind (onDesk_ofDesks moves) fun status => .bind (sysAssertCritical_moves status) fun _ => .pure _

theorem processReset_ofDesks (outQueue : Nat)
    : Moves (OfDesks S) (processReset outQueue packet) := by
  rw [processReset]
  refine .bind (readPacket_ofDesks packet) fun object => .ite ?_ (.ite ?_ (.pure _))
  · exact .bind (onRig_ofDesks _) fun _ => .pure _
  · exact .bind (onRig_ofDesks _) fun _ => .pure _

include frame

theorem processCmdPacket_ofDesks : Moves (OfDesks S) (processCmdPacket outQueue packet) := by
  rw [processCmdPacket]
  refine .bind (readPacket_ofDesks packet) fun object => .ite (.pure _) ?_
  refine .bind (onRig_ofDesks _) fun answer => ?_
  have reply := onDesk_ofDesks (createSendPacket_moves frame .cmdPacket
    (Cells.store (fun _ => 0) 0 answer.2.toList) avrCmdSize.toUInt16)
  exact .ite (.bind (onDesk_ofDesks (createSendPacket_moves frame _ _ _)) fun _ => reply) reply

theorem processLoadMcuInfoPacket_ofDesks
    : Moves (OfDesks S) (processLoadMcuInfoPacket outQueue packet) := by
  rw [processLoadMcuInfoPacket]
  refine .bind (readPacket_ofDesks packet) fun object => .bind (onRig_ofDesks _) fun loaded => ?_
  refine .ite (.pure _) (.bind (onRig_ofDesks _) fun _ => .bind (onRig_ofDesks _) fun status => ?_)
  have acknowledge (status : Int) := acknowledge_ofDesks (sendAck_moves frame status)
  refine .ite ?_ (acknowledge status)
  refine .bind (onDesk_ofDesks (createSendPacket_moves frame _ _ _)) fun status => ?_
  exact .bind (sysAssertCritical_moves status) fun _ => acknowledge status

theorem processProgramMemoryPacket_ofDesks
    : Moves (OfDesks S) (processProgramMemoryPacket outQueue packet) := by
  rw [processProgramMemoryPacket]
  refine .bind (readPacket_ofDesks packet) fun object => .bind (onRig_ofDesks _) fun loaded => ?_
  refine .ite (.pure _) (.bind (onRig_ofDesks _) fun status => ?_)
  have acknowledge := acknowledge_ofDesks (sendAck_moves frame status)
  refine .ite ?_ acknowledge
  refine .bind (onDesk_ofDesks (createSendPacket_moves frame _ _ _)) fun _ => ?_
  exact .bind (sysAssertCritical_moves status) fun _ => acknowledge

theorem readMemoryInto_ofDesks (memData : AvrReadMemData)
    : Moves (OfDesks S) (readMemoryInto memData packet) := by
  rw [readMemoryInto]
  refine .bind (readPacket_ofDesks packet) fun object => .bind (onRig_ofDesks _) fun read => ?_
  exact .bind (onDesk_ofDesks (.modify fun desk => frame.stored desk packet _)) fun _ => .pure _

theorem processReadMemoryPacket_ofDesks
    : Moves (OfDesks S) (processReadMemoryPacket outQueue packet) := by
  rw [processReadMemoryPacket]
  refine .bind (readPacket_ofDesks packet) fun object => ?_
  cases getReadMemData object with
  | error status => exact .pure _
  | ok memData =>
      refine .bind (onDesk_ofDesks (getPacketFromPool_moves frame 0)) fun fresh => ?_
      refine .ite (.pure _) (.bind (readMemoryInto_ofDesks frame _ memData) fun status => ?_)
      have reply := onDesk_ofDesks (sendPacket_moves frame packet .memoryPacket
        memData.bytesToRead.toUInt16)
      refine .ite ?_ (.ite (.pure _) reply)
      refine .bind (onDesk_ofDesks (createSendPacket_moves frame _ _ _)) fun status => ?_
      exact .ite (.pure _) reply

/-- A handler changes the desk along the frame, by the handler that the type selects. -/
theorem processPacket_ofReplies : Moves (OfDesks S) (processPacket outQueue packet) := by
  rw [processPacket]
  refine .bind (readPacket_ofDesks packet) fun object => ?_
  cases entry : handlerAt object.header.type with
  | none => exact .throw _
  | some handler =>
      obtain ⟨type, -, found⟩ := Option.bind_eq_some_iff.mp entry
      cases type <;> cases found
      · exact onRig_ofDesks _
      · exact onRig_ofDesks _
      · exact .pure _
      · exact .pure _
      · exact processReset_ofDesks packet outQueue
      · exact .pure _
      · exact .pure _
      · exact processLoadMcuInfoPacket_ofDesks frame packet
      · exact processProgramMemoryPacket_ofDesks frame packet
      · exact processReadMemoryPacket_ofDesks frame packet
      · exact processCmdPacket_ofDesks frame packet

omit frame in
theorem processPacket_ofDesks (all : DeskFrame S) (outQueue packet : Nat)
    : Moves (OfDesks S) (processPacket outQueue packet) :=
  processPacket_ofReplies (all.toReplyFrame outQueue) packet

end Handlers

end BigBlackHardware
