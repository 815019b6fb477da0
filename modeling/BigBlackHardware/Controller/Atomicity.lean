import BigBlackHardware.Controller.NewReplies

/-! Whether queueing a packet is all or nothing. Getting the packet, updating its header and writing
its pointer can each fail, and nothing undoes what was done before.
-/

namespace BigBlackHardware

open Library

/-- The packets of the pool that are outstanding. -/
def Desk.packetsOut (desk : Desk) : Int := desk.packetsPool.poolSize - desk.packetsPool.freeItems

/-- A status that is not negative means that exactly one packet with the data was queued, a negative
one that the queue and the number of outstanding packets are as before.
-/
structure AllOrNothing (data : Cells UInt8) (dataLen : UInt16) (outQueue : Nat) (before : Desk)
    (status : Int) (after : Desk) : Prop where
  queued
    : 0 ≤ status
      ↔ ∃ packet,
          after.messages = before.messages ++ [⟨outQueue, packet⟩]
          ∧ (after.packets packet).content = data.load 0 dataLen.toNat
  undone
    : status < 0 → after.messages = before.messages ∧ after.packetsOut = before.packetsOut

section Desks

variable {desk : Desk}

/-- A get that succeeds takes one packet. -/
theorem packetsOut_packetGot (room : ¬ desk.UsedUp)
    : desk.packetGot.packetsOut = desk.packetsOut + 1 := by
  change ((poolGet desk.packetsPool desk.nextBlock).pool.poolSize : Int)
    - (poolGet desk.packetsPool desk.nextBlock).pool.freeItems = _
  rw [Desk.packetsOut]
  rcases poolGet_cases desk.packetsPool desk.nextBlock with
      ⟨none, full, -⟩ | ⟨some, got⟩ | ⟨none, -, got⟩
  · exact absurd ⟨none, full⟩ room
  · rw [got]
    dsimp only
    omega
  · rw [got]
    dsimp only
    omega

/-- A get that fails takes none. -/
theorem packetsOut_usedUp (used : desk.UsedUp) : desk.packetGot.packetsOut = desk.packetsOut := by
  have same : (poolGet desk.packetsPool desk.nextBlock).pool = desk.packetsPool := by
    rw [poolGet, if_pos ⟨used.1, used.2⟩]
  change ((poolGet desk.packetsPool desk.nextBlock).pool.poolSize : Int)
    - (poolGet desk.packetsPool desk.nextBlock).pool.freeItems = _
  rw [same, Desk.packetsOut]

variable {dataLen : UInt16} {outQueue : Nat}

/-- A size that is refused keeps the packet that was got. -/
theorem createSendPacket_refused (type : PacketType) (data : Cells UInt8) (room : ¬ desk.UsedUp)
    (large : plMaxDataLength.toNat < dataLen.toNat)
    : ∃ after,
        createSendPacket type data dataLen outQueue desk = .ok packetWrongSize after
        ∧ after.packetsOut = desk.packetsOut + 1 := by
  have created := createPacketAt_eq desk.memoryPacket type (some data) dataLen desk.packetGot
  rw [if_neg (Nat.not_le.mpr large)] at created
  have run : createSendPacket type data dataLen outQueue desk
      = .ok packetWrongSize
          (desk.packetGot.setPacket desk.memoryPacket
            (createPacket (desk.packetGot.packets desk.memoryPacket) type 0 0 0 (some data)
              dataLen).packet) := by
    rw [createSendPacket, bind_ok (getPacketFromPool_fresh desk)]
    dsimp only
    rw [poolGet_status, if_neg room, if_neg (by decide), bind_ok created, if_pos (by decide)]
    rfl
  exact ⟨_, run, packetsOut_packetGot room⟩

/-- A packet that is sent is queued if there is a slot for it. -/
theorem sent_queued_iff (data : Cells UInt8) (dataLen : UInt16)
    : (∃ packet,
        (desk.sent data dataLen outQueue).messages = desk.messages ++ [⟨outQueue, packet⟩]
        ∧ ((desk.sent data dataLen outQueue).packets packet).content = data.load 0 dataLen.toNat)
      ↔ desk.HasSlot outQueue := by
  let made := desk.packetGot.setPacket desk.memoryPacket (desk.createdPacket data dataLen)
  have messages : (desk.sent data dataLen outQueue).messages
      = desk.messages ++ if desk.HasSlot outQueue then [⟨outQueue, desk.memoryPacket⟩] else [] :=
    written_messages made desk.memoryPacket outQueue
  have object : (desk.sent data dataLen outQueue).packets desk.memoryPacket
      = desk.createdPacket data dataLen := if_pos rfl
  rw [messages]
  constructor
  · rintro ⟨packet, one, -⟩
    by_contra slot
    rw [if_neg slot] at one
    have lengths := congrArg List.length one
    simp at lengths
  · intro slot
    refine ⟨desk.memoryPacket, by rw [if_pos slot], ?_⟩
    rw [object, createdPacket_content]

end Desks

/-- Queueing a packet is all or nothing exactly if there is no packet to be had, or if nothing fails
behind that: the status of the write is dropped, and a packet of a refused size is not released.
-/
theorem createSendPacket_allOrNothing_iff (type : PacketType) (data : Cells UInt8)
    (dataLen : UInt16) (outQueue : Nat) (desk : Desk)
    : (∃ status after,
        createSendPacket type data dataLen outQueue desk = .ok status after
        ∧ AllOrNothing data dataLen outQueue desk status after)
      ↔ desk.UsedUp
        ∨ dataLen.toNat ≤ plMaxDataLength.toNat ∧ desk.HasSlot outQueue := by
  by_cases used : desk.UsedUp
  · refine iff_of_true ⟨-1, _, createSendPacket_usedUp used, ?_, ?_⟩ (Or.inl used)
    · refine iff_of_false (by decide) ?_
      rintro ⟨packet, one, -⟩
      have lengths := congrArg List.length one
      simp [Desk.packetGot] at lengths
    · exact fun _ => ⟨rfl, packetsOut_usedUp used⟩
  · rw [or_iff_right used]
    by_cases fits : dataLen.toNat ≤ plMaxDataLength.toNat
    · have run : createSendPacket type data dataLen outQueue desk = _ :=
        createSendPacket_eq used fits
      rw [and_iff_right fits, ← sent_queued_iff data dataLen]
      constructor
      · rintro ⟨status, after, run', all⟩
        have same := run.symm.trans run'
        injection same with status' after'
        subst status' after'
        exact all.queued.mp (by decide)
      · intro queued
        refine ⟨_, _, run, iff_of_true (by decide) queued, fun negative => ?_⟩
        exact absurd negative (by decide)
    · refine iff_of_false ?_ fun both => fits both.1
      rintro ⟨status, after, run', all⟩
      obtain ⟨after', run, lost⟩ := createSendPacket_refused type data used (Nat.not_le.mp fits)
      have same := run.symm.trans run'
      injection same with status' after''
      subst status' after''
      have kept := (all.undone (by decide)).2
      omega

/-- A desk whose queue is full: all packets of the pool are free, and five pointers wait. -/
def fullDesk : Desk :=
  let blank : Packet := ⟨⟨0, 0, 0, 0, 0, 0⟩, fun _ => 0, fun _ => 0⟩
  { Desk.boot (fun _ => blank) (fun _ => 0) ⟨fun _ => 0, 0⟩ with
    messages := List.replicate msgQueueSize ⟨7, 0⟩ }

/-- An acknowledgement for the full queue is reported as sent, but is not queued. -/
theorem fullDesk_losesReply
    : ¬ ∃ status after,
          createSendPacket .ackPacket (fun _ => 1) 1 7 fullDesk = .ok status after
          ∧ AllOrNothing (fun _ => 1) 1 7 fullDesk status after := by
  rintro ⟨status, after, run, all⟩
  have sent : createSendPacket .ackPacket (fun _ => 1) 1 7 fullDesk = _ :=
    createSendPacket_eq (by decide) (by decide)
  have same := sent.symm.trans run
  injection same with status' after'
  subst status' after'
  have slot := (sent_queued_iff (fun _ => 1) 1).mp (all.queued.mp (by decide))
  exact absurd slot (by decide)

end BigBlackHardware
