import BigBlackHardware.Controller.StaleBytes

/-! The reply to a ReadMemory request is the request itself with another size, so that a longer
reply carries bytes from behind the data; and which requests are handled without regard to such
bytes.
-/

namespace BigBlackHardware

open Library

/-- The packet object was handed out by the pool and not released. -/
structure Desk.Holds (desk : Desk) (packet : Nat) : Prop where
  allocated : packet < desk.nextBlock
  taken : packet ∉ desk.packetsPool.freeStack

/-- The packet with its headers updated for another size. -/
def Packet.resized (packet : Packet) (dataLen : UInt16) : Packet :=
  { packet.withFields 0 0 0 dataLen with
    rawHeader := updatedHeader (packet.withFields 0 0 0 dataLen) }

/-- The request itself is queued as the reply: a packet can hold the count, and there are a packet
for the memory and a slot; and as many for the error reply before it if the read fails.
-/
structure AnswersWithRequest (outQueue : Nat) (device : Device) (memData : AvrReadMemData)
    : Prop where
  free : ¬ device.desk.UsedUp
  ready : device.rig.mcuInfo = none → ¬ memData.NeedsInfo
  fits : memData.bytesToRead.toUInt16.toNat ≤ plMaxDataLength.toNat
  slot : device.desk.HasSlot outQueue
  second
    : ¬ ReadSucceeds device.rig memData →
      ¬ device.desk.packetGot.UsedUp
      ∧ (waiting device.desk.messages outQueue).length + 1 < msgQueueSize

section Holding

variable {desk : Desk} {packet : Nat}

/-- The pool hands out another packet object than one that is held. -/
theorem Desk.Holds.other (held : desk.Holds packet) (free : ¬ desk.UsedUp)
    : desk.memoryPacket ≠ packet := by
  rw [Desk.memoryPacket]
  rcases poolGet_cases desk.packetsPool desk.nextBlock with
      ⟨none, full, got⟩ | ⟨some, got⟩ | ⟨none, room, got⟩ <;> rw [got]
  · exact absurd ⟨none, full⟩ free
  · rintro rfl
    refine held.taken (List.mem_map.mpr ⟨desk.packetsPool.freeItems - 1, ?_, ?_⟩)
    · exact List.mem_range.mpr (by omega)
    · rw [Nat.zero_add]
      rfl
  · exact Nat.ne_of_gt held.allocated

/-- It is still held after that. -/
theorem Desk.Holds.got (held : desk.Holds packet) : desk.packetGot.Holds packet := by
  obtain ⟨allocated, taken⟩ := held
  constructor
  · rw [Desk.packetGot]
    dsimp only
    split <;> omega
  · intro again
    refine taken ?_
    rw [Desk.packetGot] at again
    rcases poolGet_cases desk.packetsPool desk.nextBlock with
        ⟨none, full, got⟩ | ⟨some, got⟩ | ⟨none, room, got⟩ <;> rw [got] at again
    · exact again
    · obtain ⟨i, below, here⟩ := List.mem_map.mp again
      have inside := List.mem_range.mp below
      exact List.mem_map.mpr ⟨i, List.mem_range.mpr (by dsimp only at inside; omega), here⟩
    · exact again

end Holding

section Requests

variable {packet : Packet} {stale : Cells UInt8}

/-- A ReadMemory request is decoded alike: all that is read of it is data. -/
theorem getReadMemData_refill (packet : Packet) (stale : Cells UInt8)
    : getReadMemData (packet.refill stale) = getReadMemData packet := by
  have size : (packet.refill stale).header.dataSize = packet.header.dataSize := rfl
  rw [getReadMemData, getReadMemData, size]
  by_cases fixed : packet.header.dataSize = readMemFixedSize
  · have nine : packet.header.dataSize.toNat = 9 := congrArg UInt16.toNat fixed
    have agree : AgreeTo packet.packetData (packet.refill stale).packetData 9 :=
      fun i below => packet.refill_data stale (by omega)
    rw [if_neg (not_not.mpr fixed), if_neg (not_not.mpr fixed)]
    dsimp only
    rw [agree 0 (by decide), agree.word _ (by decide), agree.word _ (by decide)]
  · rw [if_pos fixed, if_pos fixed]

/-- A request that is decoded has the fixed size. -/
theorem getReadMemData_size {memData : AvrReadMemData}
    (decoded : getReadMemData packet = .ok memData)
    : packet.header.dataSize.toNat = 9 := by
  rw [getReadMemData] at decoded
  split at decoded
  · cases decoded
  · rename_i fixed
    exact congrArg UInt16.toNat (not_not.mp fixed)

/-- A reply made of the request carries the same bytes as one without the stale bytes exactly if
it is no longer than the request, or the array is.
-/
theorem resized_wire_eq_iff (packet : Packet) (size : packet.header.dataSize.toNat = 9)
    (dataLen : UInt16)
    : (∀ stale, ((packet.refill stale).resized dataLen).wire = (packet.resized dataLen).wire)
      ↔ dataLen.toNat ≤ 9 := by
  constructor
  · intro same
    by_contra long
    let stale : Cells UInt8 := fun _ => packet.packetData 9 + 1
    have contents : (packet.refill stale).packetData.load 0 dataLen.toNat
        = packet.packetData.load 0 dataLen.toNat :=
      (List.append_inj' (same stale) (by rw [Cells.load_length, Cells.load_length]; rfl)).2
    have entry := List.map_inj_left.mp contents 9 (List.mem_range.mpr (by omega))
    rw [Nat.zero_add, packet.refill_stale stale (by omega) (by decide)] at entry
    have next : ¬ packet.packetData 9 + 1 = packet.packetData 9 := by simp
    exact next entry
  · intro short stale
    refine ((packet.refill_alike stale).resized ?_).wire
    refine List.map_congr_left fun i member => packet.refill_data stale ?_
    have below := List.mem_range.mp member
    omega

end Requests

section Reading

variable {outQueue packet : Nat} {device : Device} {memData : AvrReadMemData} {read : Int}
  {stored : Cells UInt8} {after : Rig}

/-- The packets that are queued behind others. -/
theorem queuedFrames_append (before after : Desk) {new : List Message}
    (messages : after.messages = before.messages ++ new)
    : queuedFrames before after
      = new.map fun message => (message.queue, (after.packets message.item).wire) := by
  rw [queuedFrames, messages, List.drop_left]

theorem queuedFrames_eq_nil {before after : Desk} (same : after.messages = before.messages)
    : queuedFrames before after = [] := by
  rw [queuedFrames, same, List.drop_length, List.map_nil]

/-- What is seen of a call that ends by sending the packet, when only other packets were queued
before it.
-/
theorem observed_sendPacket (before : Device) (rig : Rig) (desk : Desk) (dataLen : UInt16)
    {queued : List Message} (messages : desk.messages = before.desk.messages ++ queued)
    (others : ∀ message ∈ queued, message.item ≠ packet) (outQueue : Nat)
    : let fits := dataLen.toNat ≤ plMaxDataLength.toNat
      observed before (onDesk (sendPacket packet .memoryPacket dataLen outQueue) ⟨rig, desk⟩)
      = rig.seen (.ok (if fits then packetSuccess else packetWrongSize))
          (queuedFrames before.desk desk
            ++ if fits ∧ desk.HasSlot outQueue then
                [(outQueue, ((desk.packets packet).resized dataLen).wire)]
              else []) := by
  intro fits
  have frames (after : Desk) (kept : ∀ i, i ≠ packet → after.packets i = desk.packets i)
      : queued.map (fun message => (message.queue, (after.packets message.item).wire))
        = queuedFrames before.desk desk := by
    rw [queuedFrames_append before.desk desk messages]
    refine List.map_congr_left fun message member => ?_
    rw [kept message.item (others message member)]
  by_cases size : fits
  · let updated := desk.updated packet dataLen
    have object : updated.packets packet = (desk.packets packet).resized dataLen := if_pos rfl
    have both : (updated.written packet outQueue).messages
        = before.desk.messages
          ++ (queued ++ if desk.HasSlot outQueue then [⟨outQueue, packet⟩] else []) := by
      rw [written_messages, ← List.append_assoc, ← messages]
      rfl
    rw [onDesk_ok (sendPacket_eq packet .memoryPacket size outQueue _), observed,
      queuedFrames_append before.desk _ both, List.map_append,
      frames _ fun i other => if_neg other, if_pos size, ← object]
    by_cases slot : desk.HasSlot outQueue
    · rw [if_pos slot, if_pos ⟨size, slot⟩]
      rfl
    · rw [if_neg slot, if_neg fun h => slot h.2]
      rfl
  · let stamped := desk.setPacket packet ((desk.packets packet).withFields 0 0 0 dataLen)
    have same : stamped.messages = before.desk.messages ++ queued := messages
    rw [onDesk_ok (sendPacket_refused _ .memoryPacket (Nat.not_le.mp size)), observed,
      queuedFrames_append before.desk stamped same, frames _ fun i other => if_neg other,
      if_neg size, if_neg fun h => size h.1, List.append_nil]

/-- A read that succeeds is seen to queue at most the request, resized. -/
theorem observe_succeeds
    (kind : (device.desk.packets packet).header.type = PacketType.readMemoryPacket.val)
    (held : device.desk.Holds packet) (free : ¬ device.desk.UsedUp)
    (decoded : getReadMemData (device.desk.packets packet) = .ok memData)
    (reads
      : programmerReadMemory memData
          (device.desk.packets device.desk.memoryPacket).packetData device.rig
        = .ok (read, stored) after)
    (succeeds : 0 ≤ read)
    : let dataLen := memData.bytesToRead.toUInt16
      let fits := dataLen.toNat ≤ plMaxDataLength.toNat
      observe outQueue packet device
      = after.seen (.ok (if fits then packetSuccess else packetWrongSize))
          (if fits ∧ device.desk.HasSlot outQueue then
            [(outQueue, ((device.desk.packets packet).resized dataLen).wire)]
          else []) := by
  intro dataLen fits
  have kept : (device.desk.filled stored).packets packet = device.desk.packets packet :=
    if_neg (Ne.symm (held.other free))
  have none : ∀ message ∈ [], Message.item message ≠ packet := List.forall_mem_nil _
  have nothing : queuedFrames device.desk (device.desk.filled stored) = [] :=
    queuedFrames_eq_nil rfl
  have sent := observed_sendPacket device after (device.desk.filled stored) dataLen
    (List.append_nil _).symm none outQueue
  dsimp only at sent
  rw [nothing, List.nil_append, kept] at sent
  rw [observe, processPacket_eq kind rfl,
    processReadMemoryPacket_succeeds outQueue decoded free reads succeeds]
  exact sent

/-- The error reply that a failed read is seen to queue, from the desk with the memory read. -/
def Desk.errorFrame (desk : Desk) : List UInt8 :=
  (desk.createdPacket (errorData SessionRequest.readMemory.errorText)
    (textBytes SessionRequest.readMemory.errorText).length.toUInt16).wire

/-- A read that fails without a second packet is seen to queue nothing. -/
theorem observe_fails_usedUp
    (kind : (device.desk.packets packet).header.type = PacketType.readMemoryPacket.val)
    (free : ¬ device.desk.UsedUp) (used : device.desk.packetGot.UsedUp)
    (decoded : getReadMemData (device.desk.packets packet) = .ok memData)
    (reads
      : programmerReadMemory memData
          (device.desk.packets device.desk.memoryPacket).packetData device.rig
        = .ok (read, stored) after)
    (fails : read < 0)
    : observe outQueue packet device = after.seen (.ok (-1)) [] := by
  rw [observe, processPacket_eq kind rfl,
    processReadMemoryPacket_fails_usedUp outQueue decoded free reads fails used]
  exact congrArg _ (queuedFrames_eq_nil rfl)

/-- After a reply that was queued if there was a slot, there is one if there were two before. -/
theorem second_hasSlot {desk before : Desk} {reply : Nat}
    (refused : desk.refused = before.refused)
    (messages
      : desk.messages
        = before.messages ++ if before.HasSlot outQueue then [⟨outQueue, reply⟩] else [])
    : desk.HasSlot outQueue
      ↔ before.HasSlot outQueue
        ∧ (waiting before.messages outQueue).length + 1 < msgQueueSize := by
  by_cases slot : before.HasSlot outQueue
  · rw [if_pos slot] at messages
    rw [and_iff_right slot, Desk.HasSlot, refused, messages, waiting_append, List.length_append,
      List.length_singleton, and_iff_right slot.1]
  · rw [if_neg slot, List.append_nil] at messages
    have same : desk.HasSlot outQueue ↔ before.HasSlot outQueue := by
      rw [Desk.HasSlot, Desk.HasSlot, refused, messages]
    exact iff_of_false (mt same.mp slot) fun h => slot h.1

/-- A read that fails is seen to queue an error reply and then the request, resized. -/
theorem observe_fails
    (kind : (device.desk.packets packet).header.type = PacketType.readMemoryPacket.val)
    (held : device.desk.Holds packet) (free : ¬ device.desk.UsedUp)
    (second : ¬ device.desk.packetGot.UsedUp)
    (decoded : getReadMemData (device.desk.packets packet) = .ok memData)
    (reads
      : programmerReadMemory memData
          (device.desk.packets device.desk.memoryPacket).packetData device.rig
        = .ok (read, stored) after)
    (fails : read < 0)
    : let dataLen := memData.bytesToRead.toUInt16
      let fits := dataLen.toNat ≤ plMaxDataLength.toNat
      observe outQueue packet device
      = after.seen (.ok (if fits then packetSuccess else packetWrongSize))
          ((if device.desk.HasSlot outQueue then
              [(outQueue, (device.desk.filled stored).errorFrame)]
            else [])
            ++ if fits ∧ device.desk.HasSlot outQueue
                ∧ (waiting device.desk.messages outQueue).length + 1 < msgQueueSize then
                [(outQueue, ((device.desk.packets packet).resized dataLen).wire)]
              else []) := by
  intro dataLen fits
  let filled := device.desk.filled stored
  let reported := filled.errorSent SessionRequest.readMemory.errorText outQueue
  let reply := device.desk.packetGot.memoryPacket
  have other : reply ≠ packet := held.got.other second
  have messages : reported.messages
      = device.desk.messages
        ++ if device.desk.HasSlot outQueue then [⟨outQueue, reply⟩] else [] :=
    written_messages (filled.packetGot.setPacket reply _) reply outQueue
  have kept : reported.packets packet = device.desk.packets packet :=
    (if_neg (Ne.symm other)).trans (if_neg (Ne.symm (held.other free)))
  have errorReply : (reported.packets reply).wire = filled.errorFrame :=
    congrArg Packet.wire (if_pos rfl)
  have first : queuedFrames device.desk reported
      = if device.desk.HasSlot outQueue then [(outQueue, filled.errorFrame)] else [] := by
    rw [queuedFrames_append device.desk reported messages]
    split
    · rw [List.map_singleton, errorReply]
    · rfl
  have others
      : ∀ message ∈ if device.desk.HasSlot outQueue then [Message.mk outQueue reply] else [],
          message.item ≠ packet := by
    intro message member
    split at member
    · rw [List.mem_singleton.mp member]
      exact other
    · cases member
  have again : reported.HasSlot outQueue
      ↔ device.desk.HasSlot outQueue
        ∧ (waiting device.desk.messages outQueue).length + 1 < msgQueueSize :=
    second_hasSlot rfl messages
  have sent := observed_sendPacket device after reported dataLen messages others outQueue
  have run
      : processReadMemoryPacket outQueue packet device
        = onDesk (sendPacket packet .memoryPacket dataLen outQueue) ⟨after, reported⟩ :=
    processReadMemoryPacket_fails outQueue decoded free reads fails second
  simp only [again, first, kept] at sent
  rw [observe, processPacket_eq kind rfl, run]
  exact sent

end Reading

section Refilled

variable {outQueue packet : Nat} {device : Device} {memData : AvrReadMemData}

/-- With its own bytes the packet is as before. -/
theorem Packet.refill_self (packet : Packet) : packet.refill packet.packetData = packet := by
  have same : (packet.refill packet.packetData).packetData = packet.packetData := by
    funext i
    exact ite_self _
  exact congrArg (Packet.mk packet.header packet.rawHeader) same

theorem refill_self (device : Device) (packet : Nat)
    : device.refill packet (device.desk.packets packet).packetData = device := by
  have same : (device.refill packet (device.desk.packets packet).packetData).desk.packets
      = device.desk.packets := by
    funext i
    by_cases here : i = packet
    · subst here
      exact (if_pos rfl).trans (Packet.refill_self _)
    · exact if_neg here
  exact congrArg
    (fun packets => { device with desk := { device.desk with packets := packets } }) same

/-- Requests that are seen to queue the resized request or nothing behind fixed replies. -/
theorem ignoresStale_iff_of_seen {rig : Rig} {ending : Except Stop Int}
    {fixed : List (Nat × List UInt8)} {P : Prop} [Decidable P] {dataLen : UInt16}
    (size : (device.desk.packets packet).header.dataSize.toNat = 9)
    (seen
      : ∀ stale,
          observe outQueue packet (device.refill packet stale)
          = rig.seen ending
              (fixed
                ++ if P then
                    [(outQueue, (((device.desk.packets packet).refill stale).resized dataLen).wire)]
                  else []))
    : IgnoresStale outQueue packet device ↔ (P → dataLen.toNat ≤ 9) := by
  have own := seen (device.desk.packets packet).packetData
  rw [refill_self, Packet.refill_self] at own
  rw [IgnoresStale, own, ← resized_wire_eq_iff _ size]
  constructor
  · intro ignores queued stale
    have same := congrArg Observation.replies ((seen stale).symm.trans (ignores stale))
    rw [if_pos queued, if_pos queued] at same
    have last := List.append_cancel_left same
    rw [List.singleton_inj] at last
    exact congrArg Prod.snd last
  · intro same stale
    rw [seen]
    by_cases queued : P
    · rw [if_pos queued, if_pos queued, same queued]
    · rw [if_neg queued, if_neg queued]

/-- Requests that are always seen to do the same. -/
theorem ignoresStale_of_seen (seen : Observation)
    (all : ∀ stale, observe outQueue packet (device.refill packet stale) = seen)
    : IgnoresStale outQueue packet device := by
  have own := all (device.desk.packets packet).packetData
  rw [refill_self] at own
  intro stale
  rw [all, own]

/-- Another packet object is as before. -/
theorem refill_other (device : Device) (stale : Cells UInt8) {i : Nat} (other : i ≠ packet)
    : (device.refill packet stale).desk.packets i = device.desk.packets i := if_neg other

/-- Also after the memory was read. -/
theorem filled_refill (device : Device) (stale stored : Cells UInt8)
    (memory : device.desk.memoryPacket ≠ packet) {i : Nat} (other : i ≠ packet)
    : ((device.refill packet stale).desk.filled stored).packets i
      = (device.desk.filled stored).packets i := by
  by_cases here : i = device.desk.memoryPacket
  · refine (if_pos here).trans (Eq.trans ?_ (if_pos here).symm)
    exact congrArg (fun object : Packet => { object with packetData := stored })
      (refill_other device stale memory)
  · exact (if_neg here).trans ((refill_other device stale other).trans (if_neg here).symm)

/-- The error reply is as before. -/
theorem errorFrame_refill (device : Device) (stale stored : Cells UInt8)
    (memory : device.desk.memoryPacket ≠ packet)
    (other : device.desk.packetGot.memoryPacket ≠ packet)
    : ((device.refill packet stale).desk.filled stored).errorFrame
      = (device.desk.filled stored).errorFrame := by
  have object : ((device.refill packet stale).desk.filled stored).packets
        ((device.refill packet stale).desk.filled stored).memoryPacket
      = (device.desk.filled stored).packets (device.desk.filled stored).memoryPacket :=
    filled_refill device stale stored memory other
  simp only [Desk.errorFrame, Desk.createdPacket, object]

theorem refill_kind
    (kind : (device.desk.packets packet).header.type = PacketType.readMemoryPacket.val)
    (stale : Cells UInt8)
    : ((device.refill packet stale).desk.packets packet).header.type
      = PacketType.readMemoryPacket.val := by
  rw [refill_packet]
  exact kind

theorem refill_decoded (decoded : getReadMemData (device.desk.packets packet) = .ok memData)
    (stale : Cells UInt8)
    : getReadMemData ((device.refill packet stale).desk.packets packet) = .ok memData := by
  rw [refill_packet, getReadMemData_refill, decoded]

/-- The read for the refilled request finds the same memory packet. -/
theorem refill_reads {rig : Rig} {result : EStateM.Result Stop Rig (Int × Cells UInt8)}
    (memory : device.desk.memoryPacket ≠ packet)
    (reads
      : programmerReadMemory memData (device.desk.packets device.desk.memoryPacket).packetData rig
        = result)
    (stale : Cells UInt8)
    : programmerReadMemory memData
        ((device.refill packet stale).desk.packets
          (device.refill packet stale).desk.memoryPacket).packetData rig
      = result := by
  have object : (device.refill packet stale).desk.packets
        (device.refill packet stale).desk.memoryPacket
      = device.desk.packets device.desk.memoryPacket := refill_other device stale memory
  rw [object, reads]

section Outcomes

variable {read : Int} {stored : Cells UInt8} {after : Rig}
  (kind : (device.desk.packets packet).header.type = PacketType.readMemoryPacket.val)
  (decoded : getReadMemData (device.desk.packets packet) = .ok memData)

include kind decoded

/-- Without a packet for the memory nothing is queued. -/
theorem readMemory_usedUp_ignoresStale (used : device.desk.UsedUp)
    : IgnoresStale outQueue packet device := by
  refine ignoresStale_of_seen (device.rig.seen (.ok (-1)) []) fun stale => ?_
  rw [observe, processPacket_eq (refill_kind kind stale) rfl,
    processReadMemoryPacket_usedUp (refill_decoded decoded stale) used]
  exact congrArg _ (queuedFrames_eq_nil rfl)

variable (held : device.desk.Holds packet) (free : ¬ device.desk.UsedUp)

include held free

/-- A missing `mcu_info` that is needed ends the task with nothing queued. -/
theorem readMemory_null_ignoresStale (missing : device.rig.mcuInfo = none)
    (needs : memData.NeedsInfo) : IgnoresStale outQueue packet device := by
  have stops := programmerReadMemory_null
    (device.desk.packets device.desk.memoryPacket).packetData missing needs
  refine ignoresStale_of_seen (device.rig.seen (.error .nullMcuInfo) []) fun stale => ?_
  rw [observe, processPacket_eq (refill_kind kind stale) rfl,
    processReadMemoryPacket_stops (refill_decoded decoded stale) free
      (refill_reads (held.other free) stops stale)]
  exact congrArg _ (queuedFrames_eq_nil rfl)

variable
  (reads
    : programmerReadMemory memData
        (device.desk.packets device.desk.memoryPacket).packetData device.rig
      = .ok (read, stored) after)

include reads

/-- A read that succeeds: the request is queued if it fits and there is a slot. -/
theorem readMemory_succeeded_ignoresStale_iff (succeeds : 0 ≤ read)
    : IgnoresStale outQueue packet device
      ↔ (memData.bytesToRead.toUInt16.toNat ≤ plMaxDataLength.toNat
            ∧ device.desk.HasSlot outQueue →
          memData.bytesToRead.toUInt16.toNat ≤ 9) := by
  let fits := memData.bytesToRead.toUInt16.toNat ≤ plMaxDataLength.toNat
  have seen (stale : Cells UInt8)
      : observe outQueue packet (device.refill packet stale)
        = after.seen (.ok (if fits then packetSuccess else packetWrongSize))
            ([]
              ++ if fits ∧ device.desk.HasSlot outQueue then
                  [(outQueue,
                    (((device.desk.packets packet).refill stale).resized
                      memData.bytesToRead.toUInt16).wire)]
                else []) := by
    rw [← refill_packet stale device packet]
    exact observe_succeeds (refill_kind kind stale) ⟨held.allocated, held.taken⟩ free
      (refill_decoded decoded stale) (refill_reads (held.other free) reads stale) succeeds
  exact ignoresStale_iff_of_seen (getReadMemData_size decoded) seen

/-- A read that fails without another packet: nothing is queued. -/
theorem readMemory_failed_usedUp_ignoresStale (fails : read < 0)
    (used : device.desk.packetGot.UsedUp) : IgnoresStale outQueue packet device := by
  refine ignoresStale_of_seen (after.seen (.ok (-1)) []) fun stale => ?_
  exact observe_fails_usedUp (refill_kind kind stale) free used (refill_decoded decoded stale)
    (refill_reads (held.other free) reads stale) fails

/-- A read that fails otherwise: the request is queued behind the error reply if it fits and there
are two slots.
-/
theorem readMemory_failed_ignoresStale_iff (fails : read < 0)
    (second : ¬ device.desk.packetGot.UsedUp)
    : IgnoresStale outQueue packet device
      ↔ (memData.bytesToRead.toUInt16.toNat ≤ plMaxDataLength.toNat
            ∧ device.desk.HasSlot outQueue
            ∧ (waiting device.desk.messages outQueue).length + 1 < msgQueueSize →
          memData.bytesToRead.toUInt16.toNat ≤ 9) := by
  let fits := memData.bytesToRead.toUInt16.toNat ≤ plMaxDataLength.toNat
  let two := (waiting device.desk.messages outQueue).length + 1 < msgQueueSize
  have seen (stale : Cells UInt8)
      : observe outQueue packet (device.refill packet stale)
        = after.seen (.ok (if fits then packetSuccess else packetWrongSize))
            ((if device.desk.HasSlot outQueue then
                [(outQueue, (device.desk.filled stored).errorFrame)]
              else [])
              ++ if fits ∧ device.desk.HasSlot outQueue ∧ two then
                  [(outQueue,
                    (((device.desk.packets packet).refill stale).resized
                      memData.bytesToRead.toUInt16).wire)]
                else []) := by
    rw [← refill_packet stale device packet,
      ← errorFrame_refill device stale stored (held.other free) (held.got.other second)]
    exact observe_fails (refill_kind kind stale) ⟨held.allocated, held.taken⟩ free second
      (refill_decoded decoded stale) (refill_reads (held.other free) reads stale) fails
  exact ignoresStale_iff_of_seen (getReadMemData_size decoded) seen

end Outcomes

/-- A ReadMemory request that is decoded is handled without regard to the bytes behind its data
exactly if it is not queued itself or the reply is no longer. The cases are the outcomes of the
read.
-/
theorem readMemory_ignoresStale_iff
    (kind : (device.desk.packets packet).header.type = PacketType.readMemoryPacket.val)
    (held : device.desk.Holds packet)
    (decoded : getReadMemData (device.desk.packets packet) = .ok memData)
    : IgnoresStale outQueue packet device
      ↔ (AnswersWithRequest outQueue device memData →
          memData.bytesToRead.toUInt16.toNat ≤ 9) := by
  by_cases used : device.desk.UsedUp
  · exact iff_of_true (readMemory_usedUp_ignoresStale kind decoded used)
      fun answers => absurd used answers.free
  · let buf := (device.desk.packets device.desk.memoryPacket).packetData
    by_cases ready : device.rig.mcuInfo = none → ¬ memData.NeedsInfo
    · obtain ⟨read, stored, after, reads, status⟩ := programmerReadMemory_returns buf ready
      by_cases succeeds : ReadSucceeds device.rig memData
      · rw [readMemory_succeeded_ignoresStale_iff kind decoded held used reads
          (status.mpr succeeds)]
        refine imp_congr ?_ Iff.rfl
        exact ⟨fun h => ⟨used, ready, h.1, h.2, fun fails => absurd succeeds fails⟩,
          fun answers => ⟨answers.fits, answers.slot⟩⟩
      · have fails : read < 0 := Int.not_le.mp (mt status.mp succeeds)
        by_cases second : device.desk.packetGot.UsedUp
        · exact iff_of_true
            (readMemory_failed_usedUp_ignoresStale kind decoded held used reads fails second)
            fun answers => absurd second (answers.second succeeds).1
        · rw [readMemory_failed_ignoresStale_iff kind decoded held used reads fails second]
          refine imp_congr ?_ Iff.rfl
          exact ⟨fun h => ⟨used, ready, h.1, h.2.1, fun _ => ⟨second, h.2.2⟩⟩,
            fun answers => ⟨answers.fits, answers.slot, (answers.second succeeds).2⟩⟩
    · rw [Classical.not_imp, not_not] at ready
      exact iff_of_true (readMemory_null_ignoresStale kind decoded held used ready.1 ready.2)
        fun answers => absurd ready.2 (answers.ready ready.1)

end Refilled

/-- No byte behind the data steers the handling of a request of the type: the bytes that a reset or
a description is read from are data, or the array has no others; a ProgramMemory request has its
fixed part; and a ReadMemory request is not queued with a larger size.
-/
def Guarded (outQueue packet : Nat) (device : Device) (type : PacketType) : Prop :=
  let object := device.desk.packets packet
  let size := object.header.dataSize.toNat
  match type with
  | .resetPacket => 2 ≤ size ∨ size = 1 ∧ object.packetData 0 = 1
  | .loadMcuInfoPacket => infoEnd object.packetData ≤ size ∨ packetDataLength ≤ size
  | .programMemoryPacket => progMemFixedSize.toNat ≤ size
  | .readMemoryPacket =>
      ∀ memData, getReadMemData object = .ok memData →
        AnswersWithRequest outQueue device memData →
        memData.bytesToRead.toUInt16.toNat ≤ readMemFixedSize.toNat
  | _ => True

section Types

variable {outQueue packet : Nat} {device : Device}

/-- Handlers that do not look at the packet. -/
theorem ignoresStale_of_runs {type : PacketType} {handler : Nat → Nat → DeviceM Int}
    (kind : (device.desk.packets packet).header.type = type.val)
    (entry : packetHandlers type = some handler)
    (runs : TwoRuns (Device.Twin packet) (handler outQueue packet))
    : IgnoresStale outQueue packet device :=
  ignoresStale_of_ends kind entry fun stale => runs _ _ (refill_twin stale device packet)

theorem loadMcuInfo_ignoresStale_iff
    (kind : (device.desk.packets packet).header.type = PacketType.loadMcuInfoPacket.val)
    : IgnoresStale outQueue packet device
      ↔ Guarded outQueue packet device .loadMcuInfoPacket := by
  refine ⟨processLoadMcuInfoPacket_guarded kind, ?_⟩
  rintro (read | full)
  · exact ignoresStale_of_ends kind rfl fun stale => processLoadMcuInfoPacket_ends stale read
  · intro stale
    have same : device.refill packet stale = device.refill packet
        (device.desk.packets packet).packetData := by
      rw [Device.refill, Device.refill, Packet.refill_full _ stale full,
        Packet.refill_full _ _ full]
    rw [same, refill_self]

/-- A ReadMemory request that is not decoded is refused whatever lies behind its data. -/
theorem readMemory_undecoded_ignoresStale
    (kind : (device.desk.packets packet).header.type = PacketType.readMemoryPacket.val)
    {status : Int} (undecoded : getReadMemData (device.desk.packets packet) = .error status)
    : IgnoresStale outQueue packet device := by
  refine ignoresStale_of_ends kind rfl fun stale => ?_
  have undecoded' : getReadMemData ((device.refill packet stale).desk.packets packet)
      = .error status := by
    rw [refill_packet, getReadMemData_refill, undecoded]
  rw [processReadMemoryPacket_undecoded undecoded, processReadMemoryPacket_undecoded undecoded']
  exact .ok (refill_twin stale device packet)

end Types

/-- A request with a handler, in a packet that is held, is handled without regard to the bytes
behind its data exactly if it is guarded.
-/
theorem processPacket_ignoresStale_iff (outQueue packet : Nat) (device : Device)
    (type : PacketType) (kind : (device.desk.packets packet).header.type = type.val)
    (handled : (packetHandlers type).isSome) (held : device.desk.Holds packet)
    : IgnoresStale outQueue packet device ↔ Guarded outQueue packet device type := by
  cases type with
  | resetPacket =>
      exact ⟨processReset_guarded kind, fun guarded =>
        ignoresStale_of_ends kind rfl fun stale => processReset_ends stale guarded⟩
  | loadMcuInfoPacket => exact loadMcuInfo_ignoresStale_iff kind
  | programMemoryPacket =>
      exact ⟨processProgramMemoryPacket_guarded kind, fun guarded =>
        ignoresStale_of_ends kind rfl fun stale => processProgramMemoryPacket_ends stale guarded⟩
  | readMemoryPacket =>
      cases decoded : getReadMemData (device.desk.packets packet) with
      | error status =>
          refine iff_of_true (readMemory_undecoded_ignoresStale kind decoded)
            fun memData valid => ?_
          cases decoded.symm.trans valid
      | ok memData =>
          rw [readMemory_ignoresStale_iff kind held decoded]
          refine ⟨fun short other valid => ?_, fun guarded => guarded memData decoded⟩
          cases decoded.symm.trans valid
          exact short
  | cmdPacket =>
      exact iff_of_true (ignoresStale_of_ends kind rfl fun stale => processCmdPacket_ends stale)
        trivial
  | programmerInitPacket | programmerStopPacket =>
      exact iff_of_true (ignoresStale_of_runs kind rfl (onRig_twins packet _)) trivial
  | uartInitPacket | uartStopPacket | enableEncryptionPacket | enableSignPacket =>
      exact iff_of_true (ignoresStale_of_runs kind rfl (.pure 0)) trivial
  | ackPacket | closeConnectionPacket | networkConfigurationPacket | encryptionConfigPacket
  | signConfigPacket | observerKeyPacket | errorPacket | memoryPacket | uartConfigurationPacket
  | uartDataPacket => cases handled

/-- A device that holds a reset request of `dataSize` zeros. -/
def resetDevice (dataSize : UInt16) : Device :=
  { rig := .boot (fun _ cmd => cmd) (.boot fun _ _ => 0) ⟨fun _ => 0, 0⟩
    desk :=
      { Desk.boot
          (fun _ =>
            { header := ⟨PacketType.resetPacket.val, 0, dataSize, 0, 0, 0⟩
              rawHeader := fun _ => 0
              packetData := fun _ => 0 })
          (fun _ => 0) ⟨fun _ => 0, 0⟩ with
        nextBlock := 8 } }

/-- Two bytes are enough for a reset request. -/
theorem processReset_ignores_two : IgnoresStale 0 7 (resetDevice 2) :=
  (processPacket_ignoresStale_iff 0 7 (resetDevice 2) .resetPacket rfl rfl
    ⟨by decide, by decide⟩).mpr (Or.inl (Nat.le_refl 2))

/-- After a single zero it depends on the byte behind it whether the target is released from
reset.
-/
theorem processReset_steered : ¬ IgnoresStale 0 7 (resetDevice 1) := by
  intro ignores
  rcases processReset_guarded rfl ignores with long | ⟨-, one⟩
  · exact absurd long (by decide)
  · exact absurd one (by decide)

end BigBlackHardware
