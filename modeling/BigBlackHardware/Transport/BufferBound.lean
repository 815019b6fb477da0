import BigBlackHardware.Codec.RoundTrip
import BigBlackHardware.Transport.Framing
import BigBlackHardware.Transport.Receipts

/-! The bound of `packet_data`: which cells a received body and a created packet store to.
-/

namespace BigBlackHardware

open Library

/-- A call of `recv_packet` stored to the cell `i` of `packet_data`: some `recv` of the body did,
and each of them stores from the start of the array on.
-/
def ReceivedPacket.StoresAt (received : ReceivedPacket) (i : Nat) : Prop :=
  ∃ piece ∈ received.bodyPieces, i < piece.length

/-- A header that the decoder accepts is followed by a single `recv` that returns more bytes
than `packet_data` has cells. Only a size from 1025 to `PL_MAX_DATA_LENGTH` lets it.
-/
def Overfills (sock : Socket) (packet : Packet) : Prop :=
  HeaderEnds sock
  ∧ HeaderAccepted sock packet
  ∧ ∃ count ∈ (bodyReceipt sock (headerSize (receivedHeader sock packet))).counts,
      packetDataLength < count

/-- The cells that a received body is stored to are the ones below a count on its receipt. -/
theorem recvPacket_storesAt_iff (sock : Socket) (packet : Packet) (i : Nat)
    : (recvPacket sock packet).StoresAt i
      ↔ HeaderEnds sock
        ∧ HeaderAccepted sock packet
        ∧ ∃ count ∈ (bodyReceipt sock (headerSize (receivedHeader sock packet))).counts,
            i < count := by
  by_cases ends : HeaderEnds sock
  swap
  · simp [recvPacket_without_header packet ends, ReceivedPacket.StoresAt, ends]
  by_cases accepted : HeaderAccepted sock packet
  swap
  · simp [recvPacket_refused ends accepted, ReceivedPacket.StoresAt, accepted]
  simp only [recvPacket_accepted ends accepted, ReceivedPacket.StoresAt, ends, accepted,
    true_and]
  have bound := receipt_sum_le (headerSize (receivedHeader sock packet))
    (sock.inbox.length - (headerReceipt sock).counts.sum) (headerReceipt sock).later
  have lengths := map_length_cut
    (bodyReceipt sock (headerSize (receivedHeader sock packet))).counts (bodyInbox sock)
    (by
      rw [bodyInbox, List.length_drop]
      exact Nat.le_trans bound (Nat.min_le_right _ _))
  constructor
  · rintro ⟨piece, member, below⟩
    refine ⟨piece.length, ?_, below⟩
    rw [← lengths]
    exact List.mem_map_of_mem member
  · rintro ⟨count, member, below⟩
    rw [← lengths, List.mem_map] at member
    obtain ⟨piece, member, rfl⟩ := member
    exact ⟨piece, member, below⟩

/-- The cells that `create_packet` copies to: `data_size` many if there is data and the size is
accepted, none otherwise.
-/
theorem createPacket_copied (packet : Packet) (type : PacketType) (comp sign enc : UInt8)
    (data : Option (Cells UInt8)) (dataSize : UInt16)
    : (createPacket packet type comp sign enc data dataSize).copied
      = if data.isSome ∧ dataSize.toNat ≤ plMaxDataLength.toNat then dataSize.toNat else 0 := by
  by_cases fits : dataSize.toNat ≤ plMaxDataLength.toNat
  · cases data with
    | none => rw [createPacket_header packet type comp sign enc fits]; rfl
    | some data => simp [createPacket_accepts packet type comp sign enc data fits, fits]
  · rw [createPacket_refuses packet type comp sign enc data (by omega)]
    simp [fits]

/-- A receive stays inside `packet_data` exactly when no single `recv` overfills it, and a
creation exactly when it does not copy data of one of the sizes that `update_header` accepts and
`packet_data` cannot hold. A piece's largest index is its length less 1.
-/
theorem packetData_bound_iff
    (sock : Socket) (packet : Packet) (type : PacketType) (comp sign enc : UInt8)
    (data : Option (Cells UInt8)) (dataSize : UInt16)
    : ((∀ i, (recvPacket sock packet).StoresAt i → i < packetDataLength)
        ↔ ¬ Overfills sock packet)
      ∧ ((createPacket packet type comp sign enc data dataSize).copied ≤ packetDataLength
        ↔ ¬ (data.isSome ∧ packetDataLength < dataSize.toNat
              ∧ dataSize.toNat ≤ plMaxDataLength.toNat)) := by
  constructor
  · constructor
    · rintro inside ⟨ends, accepted, count, member, beyond⟩
      have stored : (recvPacket sock packet).StoresAt packetDataLength :=
        (recvPacket_storesAt_iff sock packet _).mpr ⟨ends, accepted, count, member, beyond⟩
      exact absurd (inside packetDataLength stored) (Nat.lt_irrefl _)
    · intro fits i stored
      obtain ⟨ends, accepted, count, member, below⟩ :=
        (recvPacket_storesAt_iff sock packet i).mp stored
      by_contra outside
      exact fits ⟨ends, accepted, count, member, by omega⟩
  · rw [createPacket_copied]
    cases data with
    | none => simp
    | some data =>
        by_cases fits : dataSize.toNat ≤ plMaxDataLength.toNat
        · simp [fits]
        · simp [fits]

/-- A client's stream whose header states the largest size, with the whole body at hand. -/
def largestFrame : Socket where
  inbox := [plStartFrameByte, 0x00, plProgramMemory, 0x04, 0x05] ++ List.replicate 1029 0xFF
  recvResults := [5, 1029]
  outbox := []
  sendResults := []
  closeResults := []

/-- The largest frame overfills the array when it arrives at once, and so does a creation of the
largest size.
-/
theorem packetData_overrun
    : ¬ (∀ i,
          (recvPacket largestFrame ⟨blankHeader, fun _ => 0, fun _ => 0⟩).StoresAt i
            → i < packetDataLength)
      ∧ ¬ (createPacket ⟨blankHeader, fun _ => 0, fun _ => 0⟩ .programMemoryPacket 0 0 0
            (some fun _ => 0xFF) plMaxDataLength).copied ≤ packetDataLength := by
  have length : largestFrame.inbox.length = 1034 := by
    rw [largestFrame, List.length_append, List.length_replicate]
    rfl
  have header : headerReceipt largestFrame = ⟨some success, [5], [1029], [⟨5, 5⟩]⟩ := by
    rw [headerReceipt, length]
    rfl
  have taken : largestFrame.inbox.take 5
      = [plStartFrameByte, 0x00, plProgramMemory, 0x04, 0x05] := by
    rfl
  have raw : receivedHeader largestFrame ⟨blankHeader, fun _ => 0, fun _ => 0⟩
      = Cells.store (fun _ => 0) 0 [plStartFrameByte, 0x00, plProgramMemory, 0x04, 0x05] := by
    rw [receivedHeader, header, cut, cut, taken]
    rfl
  constructor
  · intro inside
    have stored
        : (recvPacket largestFrame ⟨blankHeader, fun _ => 0, fun _ => 0⟩).StoresAt 1028 := by
      rw [recvPacket_storesAt_iff, HeaderAccepted, raw]
      refine ⟨⟨success, congrArg Receipt.status header, by decide⟩, by decide, 1029, ?_, by decide⟩
      rw [bodyReceipt, header, length]
      decide
    exact absurd (inside 1028 stored) (by decide)
  · rw [createPacket_copied]
    decide

end BigBlackHardware
