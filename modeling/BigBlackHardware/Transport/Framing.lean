import BigBlackHardware.Transport.Receiving

/-! Framing over the stream: when successive calls of `recv_packet` return the frames that a
client sent, one by one, for every way in which the network can cut the stream.
-/

namespace BigBlackHardware

open Library

/-- Bytes as the memory they are received into, with zeros behind them. -/
def wire (bytes : List UInt8) : Cells UInt8 := Cells.store (fun _ => 0) 0 bytes

/-- A header object before anything was parsed into it. -/
def blankHeader : PacketHeader := ⟨0, 0, 0, 0, 0, 0⟩

/-- A frame as a client sends it: a header that the decoder accepts, then the body. -/
structure Frame where
  header : List UInt8
  body : List UInt8
  headerLength : header.length = plPacketHeaderSize
  accepted : (parseHeader (wire header) blankHeader).1 = packetSuccess
  bodyLength : body.length = headerSize (wire header)
  small : body.length ≤ packetDataLength

/-- The header fields that the decoder gives for the frame. -/
def Frame.fields (frame : Frame) : PacketHeader := (parseHeader (wire frame.header) blankHeader).2

/-- One call of `recv_packet`: the packet object it is given, the frame it should return and the
results that `recv` offers while the header and the body of the frame arrive.
-/
structure FrameCall where
  before : Packet
  frame : Frame
  headerResults : List Int
  bodyResults : List Int
  headerDelivered : Delivers plPacketHeaderSize headerResults
  bodyDelivered : Delivers frame.body.length bodyResults

/-- The bytes of the call's frame on the stream. -/
def FrameCall.bytes (call : FrameCall) : List UInt8 := call.frame.header ++ call.frame.body

/-- All results offered during the call. -/
def FrameCall.results (call : FrameCall) : List Int := call.headerResults ++ call.bodyResults

/-- Successive calls of `recv_packet` on one socket, each with its own packet object. -/
def recvPackets (sock : Socket) : List Packet → List ReceivedPacket
  | [] => []
  | packet :: packets =>
      let received := recvPacket sock packet
      received :: recvPackets received.socket packets

/-- A call has returned the frame: a status that is not negative, the frame's header fields and
raw header, and the frame's body at the start of the data.
-/
structure ReturnsFrame (frame : Frame) (received : ReceivedPacket) : Prop where
  status : ∃ status, received.status = some status ∧ 0 ≤ status
  fields : received.packet.header = frame.fields
  rawHeader : received.packet.rawHeader.load 0 frame.header.length = frame.header
  body : received.packet.packetData.load 0 frame.body.length = frame.body

/-- Neither the pieces of the header nor those of the body disturb each other: at every index the
last piece that reaches it carries the right byte, or no piece does and the byte was there.
-/
def FrameCall.Undisturbed (call : FrameCall) : Prop :=
  Library.Undisturbed call.before.rawHeader call.frame.header
      (recvCounts plPacketHeaderSize call.headerResults)
  ∧ Library.Undisturbed call.before.packetData call.frame.body
      (recvCounts call.frame.body.length call.bodyResults)

/-- The decoder reads no byte behind the header. -/
theorem parseHeader_congr {left right : Cells UInt8} (packetH : PacketHeader)
    (same : ∀ i < plPacketHeaderSize, left i = right i)
    : parseHeader left packetH = parseHeader right packetH := by
  have start := same 0 (by decide)
  have flags := same 1 (by decide)
  have type := same 2 (by decide)
  have high := same 3 (by decide)
  have low := same 4 (by decide)
  have size : headerSize left = headerSize right := by
    simp only [headerSize, high, low]
  simp only [parseHeader, getSizeFromHeader_eq, size, getTypeFromHeader, getFlagBit,
    plTypeFieldOffset, plFlagsFieldOffset, start, flags, type]

/-- What an accepted header gives does not depend on the header object parsed into. -/
theorem parseHeader_accepted_eq {header : Cells UInt8} {packetH : PacketHeader}
    (accepted : (parseHeader header packetH).1 = packetSuccess) (other : PacketHeader)
    : parseHeader header other = parseHeader header packetH := by
  have known := (parseHeader_success_iff header packetH).mp accepted
  rw [parseHeader_accepts known, parseHeader_accepts known]

/-- Memory that holds a frame's header decodes to the frame's fields. -/
theorem Frame.parseHeader_eq (frame : Frame) {raw : Cells UInt8}
    (held : raw.load 0 frame.header.length = frame.header) (packetH : PacketHeader)
    : parseHeader raw packetH = (packetSuccess, frame.fields) := by
  have same : ∀ i < plPacketHeaderSize, raw i = wire frame.header i := by
    intro i h
    have inside : i < frame.header.length := by rwa [frame.headerLength]
    rw [(raw.load_eq_iff frame.header).mp held i inside, wire,
      Cells.store_inside _ (Nat.zero_le i) (by simpa using inside)]
    rfl
  rw [parseHeader_congr packetH same, parseHeader_accepted_eq frame.accepted]
  exact Prod.ext frame.accepted rfl

theorem Frame.fields_dataSize (frame : Frame)
    : frame.fields.dataSize.toNat = frame.body.length := by
  rw [Frame.fields, (parseHeader_dataSize frame.accepted).1, frame.bodyLength]

/-- The raw header after a call is the buffer that the header's pieces left, on every exit. -/
theorem recvPacket_rawHeader (sock : Socket) (packet : Packet)
    : (recvPacket sock packet).packet.rawHeader
      = (recvNbytes sock packet.rawHeader plPacketHeaderSize.toUInt16).buf := by
  simp only [recvPacket]
  split
  · rfl
  · split
    · rfl
    · split
      · rfl
      · split <;> rfl

/-- A call that is delivered five bytes which leave an acceptable raw header, and then a body of
the size they state, succeeds with the overlays of the pieces in both arrays.
-/
theorem recvPacket_arrives {sock : Socket} {packet : Packet}
    {header body rest : List UInt8} {headerResults bodyResults later : List Int}
    (inbox : sock.inbox = header ++ (body ++ rest))
    (offered : sock.recvResults = headerResults ++ (bodyResults ++ later))
    (headerLength : header.length = plPacketHeaderSize)
    (headerDelivered : Delivers plPacketHeaderSize headerResults)
    {raw : Cells UInt8}
    (left
      : raw
        = packet.rawHeader.overlay (cut (recvCounts plPacketHeaderSize headerResults) header))
    {fields : PacketHeader} (accepted : parseHeader raw packet.header = (packetSuccess, fields))
    (bodyLength : body.length = fields.dataSize.toNat)
    (bodyDelivered : Delivers body.length bodyResults)
    : recvPacket sock packet
      = ⟨some success,
          { header := fields
            rawHeader := raw
            packetData :=
              packet.packetData.overlay (cut (recvCounts body.length bodyResults) body) },
          { sock with inbox := rest, recvResults := later },
          cut (recvCounts plPacketHeaderSize headerResults) header,
          cut (recvCounts body.length bodyResults) body⟩ := by
  obtain ⟨calls, first⟩ := recvNbytes_delivers (n := plPacketHeaderSize.toUInt16) headerDelivered
    (by decide) header (body ++ rest) (bodyResults ++ later) sock packet.rawHeader headerLength
    inbox offered
  obtain ⟨size, bound⟩ := parseHeader_dataSize (congrArg Prod.fst accepted)
  simp only [accepted] at size
  have counts : plPacketHeaderSize.toUInt16.toNat = plPacketHeaderSize := rfl
  rw [counts, ← left] at first
  simp only [recvPacket, first, RecvReport.socket, success, Int.lt_irrefl, ↓reduceIte, accepted,
    packetSuccess]
  by_cases empty : fields.dataSize > 0
  · have limit : plMaxDataLength.toNat = 1029 := rfl
    obtain ⟨calls, second⟩ := recvNbytes_delivers (n := fields.dataSize)
      (bodyLength ▸ bodyDelivered) (by omega) body rest later
      { sock with inbox := body ++ rest, recvResults := bodyResults ++ later }
      packet.packetData bodyLength rfl rfl
    rw [if_pos empty]
    simp only [second, success, bodyLength]
  · have zero : fields.dataSize.toNat = 0 := by
      rw [gt_iff_lt, UInt16.lt_iff_toNat_lt] at empty
      simpa using empty
    rw [zero] at bodyLength
    have nobody : body = [] := List.eq_nil_of_length_eq_zero bodyLength
    subst nobody
    have unused := bodyDelivered.zero
    subst unused
    rw [if_neg empty]
    simp [cut, Cells.overlay]

section Cuts

variable (call : FrameCall)

/-- The counts of the header are those of its bytes. -/
theorem FrameCall.headerCounts_sum
    : (recvCounts plPacketHeaderSize call.headerResults).sum = call.frame.header.length := by
  rw [call.headerDelivered.sum_counts, call.frame.headerLength]

/-- The bytes that come, cut behind the header. -/
theorem FrameCall.bytes_append (rest : List UInt8)
    : call.bytes ++ rest = call.frame.header ++ (call.frame.body ++ rest) := by
  rw [FrameCall.bytes, List.append_assoc]

/-- The results of `recv`, cut behind those of the header. -/
theorem FrameCall.results_append (later : List Int)
    : call.results ++ later = call.headerResults ++ (call.bodyResults ++ later) := by
  rw [FrameCall.results, List.append_assoc]

end Cuts

/-- A call whose frame is not disturbed returns it and leaves the stream right behind it.
Witness: the overlay of the header's pieces reads back as the header, so the decoder accepts it
and asks for exactly the body.
-/
theorem FrameCall.returns (call : FrameCall) (intact : call.Undisturbed) (sock : Socket)
    {rest : List UInt8} {later : List Int} (inbox : sock.inbox = call.bytes ++ rest)
    (offered : sock.recvResults = call.results ++ later)
    : ReturnsFrame call.frame (recvPacket sock call.before)
      ∧ (recvPacket sock call.before).socket
        = { sock with inbox := rest, recvResults := later } := by
  have held :=
    (call.before.rawHeader.load_overlay_iff call.frame.header _ call.headerCounts_sum).mpr intact.1
  have inboxSplit := inbox.trans (call.bytes_append rest)
  have offeredSplit := offered.trans (call.results_append later)
  have arrived := recvPacket_arrives inboxSplit offeredSplit call.frame.headerLength
    call.headerDelivered rfl (call.frame.parseHeader_eq held call.before.header)
    call.frame.fields_dataSize.symm call.bodyDelivered
  rw [arrived]
  refine ⟨{
    status := ⟨success, rfl, Int.le_refl 0⟩
    fields := rfl
    rawHeader := held
    body := ?_
  }, rfl⟩
  exact (call.before.packetData.load_overlay_iff call.frame.body _
    call.bodyDelivered.sum_counts).mpr intact.2

/-- A call that returns its frame was not disturbed. Witness: the raw header it returns is the
overlay of the header's pieces, which then decodes to the frame's size, so that the data it
returns is the overlay of the body's pieces.
-/
theorem FrameCall.undisturbed (call : FrameCall) {sock : Socket}
    {rest : List UInt8} {later : List Int} (inbox : sock.inbox = call.bytes ++ rest)
    (offered : sock.recvResults = call.results ++ later)
    (returned : ReturnsFrame call.frame (recvPacket sock call.before))
    : call.Undisturbed := by
  have inboxSplit := inbox.trans (call.bytes_append rest)
  have offeredSplit := offered.trans (call.results_append later)
  obtain ⟨recvCalls, first⟩ := recvNbytes_delivers (n := plPacketHeaderSize.toUInt16)
    call.headerDelivered (by decide) call.frame.header (call.frame.body ++ rest)
    (call.bodyResults ++ later) sock call.before.rawHeader call.frame.headerLength inboxSplit
    offeredSplit
  have raw := recvPacket_rawHeader sock call.before
  rw [first] at raw
  have held := returned.rawHeader
  rw [raw] at held
  have arrived := recvPacket_arrives inboxSplit offeredSplit call.frame.headerLength
    call.headerDelivered rfl (call.frame.parseHeader_eq held call.before.header)
    call.frame.fields_dataSize.symm call.bodyDelivered
  refine ⟨(call.before.rawHeader.load_overlay_iff _ _ call.headerCounts_sum).mp held, ?_⟩
  have body := returned.body
  rw [arrived] at body
  exact (call.before.packetData.load_overlay_iff _ _ call.bodyDelivered.sum_counts).mp body

/-- Successive calls of `recv_packet` return the frames sent, one by one and in order, exactly
when no call is disturbed. Witness: induction on the calls; a call that returns its frame
leaves the stream at the start of the next one.
-/
theorem recvPackets_return_frames_iff (calls : List FrameCall) (sock : Socket)
    (rest : List UInt8) (later : List Int)
    : List.Forall₂ (fun call received => ReturnsFrame call.frame received) calls
        (recvPackets
          { sock with
            inbox := calls.flatMap FrameCall.bytes ++ rest
            recvResults := calls.flatMap FrameCall.results ++ later }
          (calls.map FrameCall.before))
      ↔ ∀ call ∈ calls, call.Undisturbed := by
  induction calls generalizing sock with
  | nil => simp [recvPackets]
  | cons call calls ih =>
      have inbox : (call :: calls).flatMap FrameCall.bytes ++ rest
          = call.bytes ++ (calls.flatMap FrameCall.bytes ++ rest) := by
        rw [List.flatMap_cons, List.append_assoc]
      have offered : (call :: calls).flatMap FrameCall.results ++ later
          = call.results ++ (calls.flatMap FrameCall.results ++ later) := by
        rw [List.flatMap_cons, List.append_assoc]
      rw [inbox, offered, List.map_cons, recvPackets, List.forall₂_cons, List.forall_mem_cons]
      constructor
      · rintro ⟨returned, others⟩
        have intact := call.undisturbed rfl rfl returned
        rw [(call.returns intact _ rfl rfl).2] at others
        exact ⟨intact, (ih _).mp others⟩
      · rintro ⟨intact, others⟩
        obtain ⟨returned, behind⟩ := call.returns intact
          { sock with
            inbox := call.bytes ++ (calls.flatMap FrameCall.bytes ++ rest)
            recvResults := call.results ++ (calls.flatMap FrameCall.results ++ later) }
          rfl rfl
        refine ⟨returned, ?_⟩
        rw [behind]
        exact (ih _).mpr others

/-- A frame whose header and body each arrive with one count, if at all, is not disturbed. -/
theorem FrameCall.undisturbed_of_whole (call : FrameCall)
    (header : (recvCounts plPacketHeaderSize call.headerResults).length ≤ 1)
    (body : (recvCounts call.frame.body.length call.bodyResults).length ≤ 1)
    : call.Undisturbed :=
  ⟨Library.undisturbed_of_whole header _
      (call.headerDelivered.sum_counts.trans call.frame.headerLength.symm),
    Library.undisturbed_of_whole body _ call.bodyDelivered.sum_counts⟩

/-- The CMD frame of the repository's test client. -/
def cmdFrame : Frame where
  header := [plStartFrameByte, 0x00, plCmd, 0x00, 0x04]
  body := [0x01, 0x02, 0x03, 0x04]
  headerLength := rfl
  accepted := by decide
  bodyLength := by decide
  small := by decide

/-- The CMD frame, with the first two bytes of its header arriving alone. -/
def splitHeaderCall : FrameCall where
  before := ⟨blankHeader, fun _ => 0, fun _ => 0⟩
  frame := cmdFrame
  headerResults := [2, 3]
  bodyResults := [4]
  headerDelivered :=
    .count (c := 2) (by decide) (by decide) (.count (c := 3) (by decide) (by decide) .done)
  bodyDelivered := .count (c := 4) (by decide) (by decide) .done

/-- The split header is not returned: its last three bytes end up at the start of the array. -/
theorem recvPackets_split_header
    : ¬ List.Forall₂ (fun call received => ReturnsFrame call.frame received) [splitHeaderCall]
        (recvPackets ⟨splitHeaderCall.bytes, splitHeaderCall.results, [], [], []⟩
          [splitHeaderCall.before]) := by
  intro returned
  have raw := (List.forall₂_cons.mp returned).1.rawHeader
  exact absurd raw (by decide)

end BigBlackHardware
