import BigBlackHardware.Transport.Receiving

/-! The send functions of `packet_handler.c` over a TCP socket. -/

namespace BigBlackHardware

open Library

/-- The state when a send function ends. -/
structure SendReport where
  /-- The status returned, or `none` if all offered results are used up and it still waits. -/
  status : Option Int
  socket : Socket

/-- The loop of `send_nbytes`. A `send` that is offered a count transmits that many bytes from
the front of the buffer, at most what it is asked for. The recursion is on the results offered.
-/
def sendNbytesLoop : List Int → Socket → Cells UInt8 → Nat → SendReport
  | [], sock, _, _ => ⟨none, { sock with sendResults := [] }⟩
  | result :: results, sock, buf, n =>
      if result = eagain then sendNbytesLoop results sock buf n
      else if result < 0 then ⟨some result, { sock with sendResults := results }⟩
      else
        ⟨some success,
          { sock with
            outbox := sock.outbox ++ buf.load 0 (min result.toNat n)
            sendResults := results }⟩

/-- `send_nbytes`. It does not look at how much of the buffer was taken. -/
def sendNbytes (sock : Socket) (buf : Cells UInt8) (n : UInt16) : SendReport :=
  sendNbytesLoop sock.sendResults sock buf n.toNat

/-- `send_packet` of `packet_handler.c`. -/
def PacketHandler.sendPacket (sock : Socket) (packet : Packet) : SendReport :=
  let header := sendNbytes sock packet.rawHeader plPacketHeaderSize.toUInt16
  match header.status with
  | none => header
  | some status =>
      if status < 0 then header
      else
        let body := sendNbytes header.socket packet.packetData packet.header.dataSize
        match body.status with
        | none => body
        | some status => if status < 0 then body else ⟨some success, body.socket⟩

/-- The first result that is not `EAGAIN`, with the results behind it. -/
def sendAnswer : List Int → Option (Int × List Int)
  | [] => none
  | result :: results =>
      if result = eagain then sendAnswer results else some (result, results)

/-- The answer is what stands behind some `EAGAIN` results, by induction on the results. -/
theorem sendAnswer_eq_some {results later : List Int} {result : Int}
    (answer : sendAnswer results = some (result, later))
    : result ≠ eagain
      ∧ ∃ earlier, results = earlier ++ result :: later ∧ ∀ other ∈ earlier, other = eagain := by
  induction results with
  | nil => cases answer
  | cons first results ih =>
      rw [sendAnswer] at answer
      split at answer
      · rename_i again
        obtain ⟨other, earlier, cutUp, all⟩ := ih answer
        refine ⟨other, first :: earlier, by rw [cutUp, List.cons_append], ?_⟩
        exact List.forall_mem_cons.mpr ⟨again, all⟩
      · rename_i other
        cases answer
        exact ⟨other, [], rfl, fun _ member => by cases member⟩

/-- The loop of `send_nbytes` ends with the first answer, by induction on the results. -/
theorem sendNbytesLoop_eq (results : List Int) (sock : Socket) (buf : Cells UInt8) (n : Nat)
    : sendNbytesLoop results sock buf n
      = match sendAnswer results with
        | none => ⟨none, { sock with sendResults := [] }⟩
        | some (result, later) =>
            if result < 0 then ⟨some result, { sock with sendResults := later }⟩
            else
              ⟨some success,
                { sock with
                  outbox := sock.outbox ++ buf.load 0 (min result.toNat n)
                  sendResults := later }⟩ := by
  induction results with
  | nil => rfl
  | cons result results ih =>
      rw [sendNbytesLoop, sendAnswer]
      split
      · exact ih
      · rfl

/-- The bytes of a packet on the wire: its header and its data. -/
def Packet.wire (packet : Packet) : List UInt8 :=
  packet.rawHeader.load 0 plPacketHeaderSize
    ++ packet.packetData.load 0 packet.header.dataSize.toNat

/-- The status is the first result that is neither a count nor `EAGAIN`, and `later` are the results
behind it.
-/
def SendFails (results : List Int) (status : Int) (later : List Int) : Prop :=
  status < 0
  ∧ status ≠ eagain
  ∧ ∃ earlier,
      results = earlier ++ status :: later ∧ ∀ other ∈ earlier, other = eagain ∨ 0 ≤ other

/-- The contract of a send: success means that the whole packet was transmitted, any other status
is the error of the `send` that failed.
-/
structure SendsCompletely (sock : Socket) (packet : Packet) : Prop where
  complete
    : (PacketHandler.sendPacket sock packet).status = some success →
        (PacketHandler.sendPacket sock packet).socket.outbox = sock.outbox ++ packet.wire
  failed
    : ∀ status,
        (PacketHandler.sendPacket sock packet).status = some status →
        status ≠ success →
        SendFails sock.sendResults status
          (PacketHandler.sendPacket sock packet).socket.sendResults

/-- If neither the header's nor the body's answer is an error, both are full counts. -/
def FullWrites (results : List Int) (size : Nat) : Prop :=
  match sendAnswer results with
  | none => True
  | some (header, later) =>
      match sendAnswer later with
      | none => True
      | some (body, _) =>
          0 ≤ header → 0 ≤ body → plPacketHeaderSize ≤ header.toNat ∧ size ≤ body.toNat

section SendPacket

variable {sock : Socket} (packet : Packet) {header body : Int} {later rest : List Int}

/-- Without an answer for the header the send waits. -/
theorem sendPacket_header_waits (none : sendAnswer sock.sendResults = none)
    : (PacketHandler.sendPacket sock packet).status = Option.none := by
  rw [PacketHandler.sendPacket, sendNbytes, sendNbytesLoop_eq, none]

/-- An error on the header is returned. -/
theorem sendPacket_header_fails (answer : sendAnswer sock.sendResults = some (header, later))
    (failed : header < 0)
    : PacketHandler.sendPacket sock packet
      = ⟨some header, { sock with sendResults := later }⟩ := by
  simp only [PacketHandler.sendPacket, sendNbytes, sendNbytesLoop_eq, answer, failed, ↓reduceIte]

/-- The socket after a send of the header that was offered a count. -/
def Socket.headerSent (sock : Socket) (packet : Packet) (header : Int) (later : List Int)
    : Socket :=
  { sock with
    outbox := sock.outbox ++ packet.rawHeader.load 0 (min header.toNat plPacketHeaderSize)
    sendResults := later }

/-- After a count for the header the body is sent, whatever the count. -/
theorem sendPacket_header_sent (answer : sendAnswer sock.sendResults = some (header, later))
    (sent : ¬ header < 0)
    : PacketHandler.sendPacket sock packet
      = let body :=
          sendNbytes (sock.headerSent packet header later) packet.packetData packet.header.dataSize
        match body.status with
        | none => body
        | some status => if status < 0 then body else ⟨some success, body.socket⟩ := by
  have run : sendNbytes sock packet.rawHeader plPacketHeaderSize.toUInt16
      = ⟨some success, sock.headerSent packet header later⟩ := by
    rw [sendNbytes, sendNbytesLoop_eq, answer]
    exact if_neg sent
  rw [PacketHandler.sendPacket, run]
  rfl

theorem sendPacket_body_waits (answer : sendAnswer sock.sendResults = some (header, later))
    (sent : ¬ header < 0) (none : sendAnswer later = none)
    : (PacketHandler.sendPacket sock packet).status = Option.none := by
  rw [sendPacket_header_sent packet answer sent, sendNbytes, sendNbytesLoop_eq,
    Socket.headerSent, none]

/-- An error on the body is returned. -/
theorem sendPacket_body_fails (answer : sendAnswer sock.sendResults = some (header, later))
    (sent : ¬ header < 0) (next : sendAnswer later = some (body, rest)) (failed : body < 0)
    : (PacketHandler.sendPacket sock packet).status = some body
      ∧ (PacketHandler.sendPacket sock packet).socket.sendResults = rest := by
  rw [sendPacket_header_sent packet answer sent]
  simp only [sendNbytes, sendNbytesLoop_eq, Socket.headerSent, next, failed, ↓reduceIte, and_self]

/-- Two counts are a success, and what they say was transmitted. -/
theorem sendPacket_sent (answer : sendAnswer sock.sendResults = some (header, later))
    (sent : ¬ header < 0) (next : sendAnswer later = some (body, rest)) (all : ¬ body < 0)
    : (PacketHandler.sendPacket sock packet).status = some success
      ∧ (PacketHandler.sendPacket sock packet).socket.outbox
        = sock.outbox
          ++ (packet.rawHeader.load 0 (min header.toNat plPacketHeaderSize)
            ++ packet.packetData.load 0 (min body.toNat packet.header.dataSize.toNat)) := by
  rw [sendPacket_header_sent packet answer sent]
  simp only [sendNbytes, sendNbytesLoop_eq, Socket.headerSent, next, all, ↓reduceIte, success,
    Int.lt_irrefl, List.append_assoc, and_self]

end SendPacket

/-- Two parts of a packet are all of it exactly if each of them is, by their lengths. -/
theorem parts_eq_wire_iff (packet : Packet) (header body : Nat)
    : packet.rawHeader.load 0 (min header plPacketHeaderSize)
          ++ packet.packetData.load 0 (min body packet.header.dataSize.toNat)
        = packet.wire
      ↔ plPacketHeaderSize ≤ header ∧ packet.header.dataSize.toNat ≤ body := by
  constructor
  · intro same
    have lengths := congrArg List.length same
    simp only [Packet.wire, List.length_append, Cells.load_length] at lengths
    omega
  · rintro ⟨full, whole⟩
    rw [Packet.wire, Nat.min_eq_right full, Nat.min_eq_right whole]

/-- A negative answer is the error that a send fails with. -/
theorem sendFails_of_answer {results later : List Int} {status : Int}
    (answer : sendAnswer results = some (status, later)) (failed : status < 0)
    : SendFails results status later := by
  obtain ⟨other, earlier, cutUp, again⟩ := sendAnswer_eq_some answer
  exact ⟨failed, other, earlier, cutUp, fun result member => Or.inl (again result member)⟩

/-- So is one that follows a count. -/
theorem sendFails_of_answers {results later rest : List Int} {header status : Int}
    (answer : sendAnswer results = some (header, later)) (sent : ¬ header < 0)
    (next : sendAnswer later = some (status, rest)) (failed : status < 0)
    : SendFails results status rest := by
  obtain ⟨-, earlier, cutUp, again⟩ := sendAnswer_eq_some answer
  obtain ⟨_, other, between, cutLater, counts⟩ := sendFails_of_answer next failed
  refine ⟨failed, other, earlier ++ header :: between, ?_, ?_⟩
  · rw [cutUp, cutLater, List.append_assoc, List.cons_append]
  · intro result member
    rcases List.mem_append.mp member with first | later
    · exact Or.inl (again result first)
    · rcases List.mem_cons.mp later with rfl | second
      · exact Or.inr (by omega)
      · exact counts result second

section Contract

variable {sock : Socket} {packet : Packet}

/-- A send that waits owes nothing. -/
theorem sendsCompletely_of_waits (waits : (PacketHandler.sendPacket sock packet).status = none)
    : SendsCompletely sock packet where
  complete returns := by rw [waits] at returns; cases returns
  failed _ returns := by rw [waits] at returns; cases returns

/-- A send that returns the error of a `send` meets the contract. -/
theorem sendsCompletely_of_fails {error : Int}
    (run : (PacketHandler.sendPacket sock packet).status = some error)
    (fails
      : SendFails sock.sendResults error (PacketHandler.sendPacket sock packet).socket.sendResults)
    : SendsCompletely sock packet where
  complete returns := by
    rw [run] at returns
    cases returns
    exact absurd fails.1 (by decide)
  failed status returns _ := by
    rw [run] at returns
    cases returns
    exact fails

/-- A send that got two counts meets the contract exactly if they are full. -/
theorem sendsCompletely_of_counts_iff {header body : Int} {later rest : List Int}
    (answer : sendAnswer sock.sendResults = some (header, later)) (sent : ¬ header < 0)
    (next : sendAnswer later = some (body, rest)) (all : ¬ body < 0)
    : SendsCompletely sock packet
      ↔ plPacketHeaderSize ≤ header.toNat ∧ packet.header.dataSize.toNat ≤ body.toNat := by
  obtain ⟨run, transmitted⟩ := sendPacket_sent packet answer sent next all
  have whole := parts_eq_wire_iff packet header.toNat body.toNat
  rw [← List.append_right_inj sock.outbox, ← transmitted] at whole
  constructor
  · exact fun sends => whole.mp (sends.complete run)
  · intro full
    refine ⟨fun _ => whole.mpr full, fun status returns wrong => ?_⟩
    rw [run] at returns
    cases returns
    exact absurd rfl wrong

end Contract

/-- Whatever `send` returns: a success transmits the whole packet, and a failure returns the error,
exactly if no count is short when both parts get one. The cases are the answers for the header and
for the body.
-/
theorem sendPacket_completes_iff (sock : Socket) (packet : Packet)
    : SendsCompletely sock packet
      ↔ FullWrites sock.sendResults packet.header.dataSize.toNat := by
  rw [FullWrites]
  cases answer : sendAnswer sock.sendResults with
  | none =>
      have waits := sendPacket_header_waits packet answer
      exact iff_of_true (sendsCompletely_of_waits waits) trivial
  | some first =>
      obtain ⟨header, later⟩ := first
      dsimp only
      by_cases failed : header < 0
      · have run := sendPacket_header_fails packet answer failed
        have error : SendsCompletely sock packet := by
          have fails := sendFails_of_answer answer failed
          refine sendsCompletely_of_fails (congrArg SendReport.status run) ?_
          rw [run]
          exact fails
        refine iff_of_true error ?_
        cases sendAnswer later with
        | none => trivial
        | some second => exact fun count => absurd failed (by omega)
      · cases next : sendAnswer later with
        | none =>
            have waits := sendPacket_body_waits packet answer failed next
            exact iff_of_true (sendsCompletely_of_waits waits) trivial
        | some second =>
            obtain ⟨body, rest⟩ := second
            dsimp only
            by_cases short : body < 0
            · obtain ⟨run, left⟩ := sendPacket_body_fails packet answer failed next short
              have fails := sendFails_of_answers answer failed next short
              rw [← left] at fails
              exact iff_of_true (sendsCompletely_of_fails run fails)
                fun _ count => absurd short (by omega)
            · rw [sendsCompletely_of_counts_iff answer failed next short,
                forall_prop_of_true (Int.not_lt.mp failed),
                forall_prop_of_true (Int.not_lt.mp short)]

/-- A packet with four data bytes, of which the network takes two. -/
def shortWritten : Socket := ⟨[], [], [], [5, 2], []⟩

/-- Two of the four bytes are transmitted, and the send succeeds. -/
theorem sendPacket_truncates
    : ¬ SendsCompletely shortWritten ⟨⟨0, 0, 4, 0, 0, 0⟩, fun _ => 0, fun _ => 0⟩ := by
  intro sends
  have transmitted := sends.complete (by decide)
  revert transmitted
  decide

end BigBlackHardware
