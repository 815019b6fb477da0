import BigBlackHardware.Controller.Replies

/-! The replies that a call queues, as the client receives them. -/

namespace BigBlackHardware

open Library

/-- The bytes that a packet carries. -/
def Packet.content (packet : Packet) : List UInt8 :=
  packet.packetData.load 0 packet.header.dataSize.toNat

/-- The queue that a reply waits in and the bytes that it carries. -/
structure Reply where
  outQueue : Nat
  content : List UInt8
  deriving DecidableEq

/-- The replies that a desk has queued and another one before it had not. -/
def newReplies (before after : Desk) : List Reply :=
  (after.messages.drop before.messages.length).map fun message =>
    ⟨message.queue, (after.packets message.item).content⟩

/-- The kernel accepts a write to the queue. -/
def Desk.HasSlot (desk : Desk) (outQueue : Nat) : Prop :=
  desk.refused outQueue = false ∧ (waiting desk.messages outQueue).length < msgQueueSize

instance (desk : Desk) (outQueue : Nat) : Decidable (desk.HasSlot outQueue) :=
  inferInstanceAs (Decidable (_ ∧ _))

/-- A write queues the pointer if there is a slot for it. -/
theorem written_messages (desk : Desk) (packet outQueue : Nat)
    : (desk.written packet outQueue).messages
      = desk.messages ++ if desk.HasSlot outQueue then [⟨outQueue, packet⟩] else [] := by
  rw [Desk.written, sysQueueWritePtr]
  by_cases slot : desk.HasSlot outQueue
  · rw [if_pos slot, if_neg]
    rintro (refused | full)
    · rw [slot.1] at refused
      cases refused
    · exact Nat.not_le.mpr slot.2 full
  · rw [if_neg slot, List.append_nil, if_pos]
    by_cases refused : desk.refused outQueue = true
    · exact Or.inl refused
    · refine Or.inr (Nat.not_lt.mp fun room => slot ⟨?_, room⟩)
      exact Bool.not_eq_true _ ▸ refused

/-- A desk with the same messages has queued nothing. -/
theorem newReplies_eq_nil {before after : Desk} (same : after.messages = before.messages)
    : newReplies before after = [] := by
  rw [newReplies, same, List.drop_length, List.map_nil]

/-- One more message is one new reply. -/
theorem newReplies_append (before after : Desk) {outQueue item : Nat}
    (messages : after.messages = before.messages ++ [⟨outQueue, item⟩])
    : newReplies before after = [⟨outQueue, (after.packets item).content⟩] := by
  rw [newReplies, messages, List.drop_left, List.map_singleton]

/-- A write of a packet is one new reply if there is a slot for it. -/
theorem newReplies_written (before desk : Desk) (same : desk.messages = before.messages)
    (packet outQueue : Nat)
    : newReplies before (desk.written packet outQueue)
      = if desk.HasSlot outQueue then [⟨outQueue, (desk.packets packet).content⟩] else [] := by
  rw [newReplies, written_messages, same, List.drop_left]
  split
  · rfl
  · rfl

/-- The packet that `create_send_packet` makes of the packet object that it got. -/
def Desk.createdPacket (desk : Desk) (data : Cells UInt8) (dataLen : UInt16) : Packet :=
  let object := (desk.packets desk.memoryPacket).withFields 0 0 0 dataLen
  { object with
    rawHeader := updatedHeader object
    packetData := object.packetData.store 0 (data.load 0 dataLen.toNat) }

/-- The desk after `create_send_packet` with a packet to be had and an accepted size. -/
def Desk.sent (desk : Desk) (data : Cells UInt8) (dataLen : UInt16) (outQueue : Nat) : Desk :=
  (desk.packetGot.setPacket desk.memoryPacket (desk.createdPacket data dataLen)).written
    desk.memoryPacket outQueue

section Sending

variable {type : PacketType} {data : Cells UInt8} {dataLen : UInt16} {outQueue : Nat} {desk : Desk}

/-- Without a packet to be had nothing is sent. -/
theorem createSendPacket_usedUp (used : desk.UsedUp)
    : createSendPacket type data dataLen outQueue desk = .ok (-1) desk.packetGot := by
  rw [createSendPacket, bind_ok (getPacketFromPool_fresh desk)]
  dsimp only
  rw [poolGet_status, if_pos used, if_pos (by decide)]
  rfl

/-- With a packet and an accepted size the data is sent. -/
theorem createSendPacket_eq (room : ¬ desk.UsedUp)
    (fits : dataLen.toNat ≤ plMaxDataLength.toNat)
    : createSendPacket type data dataLen outQueue desk
      = .ok packetSuccess (desk.sent data dataLen outQueue) := by
  have created := createPacketAt_eq desk.memoryPacket type (some data) dataLen desk.packetGot
  rw [if_pos fits] at created
  rw [createSendPacket, bind_ok (getPacketFromPool_fresh desk)]
  dsimp only
  rw [poolGet_status, if_neg room, if_neg (by decide), bind_ok created, if_neg (by decide)]
  rw [createPacket_accepts _ _ _ _ _ _ fits]
  rfl

/-- What is sent carries the data. -/
theorem createdPacket_content (desk : Desk) (data : Cells UInt8) (dataLen : UInt16)
    : (desk.createdPacket data dataLen).content = data.load 0 dataLen.toNat := by
  have stored :=
    ((desk.packets desk.memoryPacket).packetData).load_store (data.load 0 dataLen.toNat)
  rw [Cells.load_length] at stored
  exact stored

/-- What is sent is one new reply if the queue has a slot. -/
theorem newReplies_sent (desk : Desk) (data : Cells UInt8) (dataLen : UInt16) (outQueue : Nat)
    : newReplies desk (desk.sent data dataLen outQueue)
      = if desk.HasSlot outQueue then [⟨outQueue, data.load 0 dataLen.toNat⟩] else [] := by
  let made := desk.packetGot.setPacket desk.memoryPacket (desk.createdPacket data dataLen)
  have object : made.packets desk.memoryPacket = desk.createdPacket data dataLen := if_pos rfl
  have new := newReplies_written desk made rfl desk.memoryPacket outQueue
  rw [object, createdPacket_content] at new
  exact new

/-- The data of an error reply. -/
def errorData (msg : String) : Cells UInt8 := Cells.store (fun _ => 0) 0 (textBytes msg)

/-- The desk after an error reply. -/
abbrev Desk.errorSent (desk : Desk) (msg : String) (outQueue : Nat) : Desk :=
  desk.sent (errorData msg) (textBytes msg).length.toUInt16 outQueue

/-- An error reply is sent if there is a packet for it. -/
theorem sendError_eq {msg : String}
    (fits : (textBytes msg).length.toUInt16.toNat ≤ plMaxDataLength.toNat) (rig : Rig)
    (free : ¬ desk.UsedUp)
    : onDesk (sendError msg outQueue) ⟨rig, desk⟩
      = .ok packetSuccess ⟨rig, desk.errorSent msg outQueue⟩ :=
  onDesk_ok (createSendPacket_eq free fits)

/-- An error reply carries its text. -/
theorem newReplies_errorSent (desk : Desk) {msg : String}
    (length : (textBytes msg).length.toUInt16.toNat = (textBytes msg).length)
    (slot : desk.HasSlot outQueue)
    : newReplies desk (desk.errorSent msg outQueue) = [⟨outQueue, textBytes msg⟩] := by
  rw [newReplies_sent, if_pos slot, length, errorData, Cells.load_store]

/-- A packet of a size that is refused is not queued. -/
theorem sendPacket_refused {packet : Nat} (desk : Desk) (type : PacketType) {dataLen : UInt16}
    (large : plMaxDataLength.toNat < dataLen.toNat)
    : sendPacket packet type dataLen outQueue desk
      = .ok packetWrongSize
          (desk.setPacket packet ((desk.packets packet).withFields 0 0 0 dataLen)) := by
  have created := createPacketAt_eq packet type none dataLen desk
  rw [if_neg (Nat.not_le.mpr large), createPacket_refuses _ _ _ _ _ _ large] at created
  rw [sendPacket, bind_ok created, if_pos (by decide)]
  rfl

end Sending

end BigBlackHardware
