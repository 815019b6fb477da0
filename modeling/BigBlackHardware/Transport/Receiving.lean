import BigBlackHardware.Codec.HeaderFormat

/-! The receive functions of `packet_handler.c` over a TCP socket. The stream and the results of
the socket calls are inputs: each `recv` takes the next result of a script.
-/

namespace BigBlackHardware

open Library

/-- A connected socket and what its peer and the network are going to do. -/
structure Socket where
  /-- Bytes of the stream that no `recv` has returned yet. -/
  inbox : List UInt8
  /-- The results that the next `recv` calls offer, one each. -/
  recvResults : List Int
  /-- Bytes that `send` has transmitted. -/
  outbox : List UInt8
  /-- The results that the next `send` calls offer, one each. -/
  sendResults : List Int
  /-- The results of the next `close` calls. -/
  closeResults : List Int

/-- One `recv` of at most `len` bytes that is offered `result`: the value returned and the bytes
stored at the buffer address. An offered count is cut to what was asked for and to what the
stream holds; a count with nothing to deliver is `EAGAIN` on a non-blocking socket.
-/
def recv (inbox : List UInt8) (result : Int) (len : Nat) : Int × List UInt8 :=
  if 0 < result then
    let block := inbox.take (min result.toNat len)
    if block = [] then (eagain, []) else (block.length, block)
  else (result, [])

/-- A call of `recv`: the length passed and the value returned. -/
structure RecvCall where
  requested : Int
  returned : Int
  deriving DecidableEq

/-- The state when `recv_nbytes` ends. -/
structure RecvReport where
  /-- The status returned, or `none` if all offered results are used up and it still waits. -/
  status : Option Int
  buf : Cells UInt8
  inbox : List UInt8
  recvResults : List Int
  /-- What each successful `recv` stored at `buf`, in order of the calls. -/
  pieces : List (List UInt8)
  /-- The calls of `recv`, in their order. -/
  calls : List RecvCall

/-- The loop of `recv_nbytes`. Every `recv` stores at `buf` itself: the source passes the same
address each time. The recursion is on the results offered.
-/
def recvNbytesLoop : List Int → List UInt8 → Cells UInt8 → Int → RecvReport
  | [], inbox, buf, remainingBytes =>
      ⟨if remainingBytes = 0 then some success else none, buf, inbox, [], [], []⟩
  | result :: results, inbox, buf, remainingBytes =>
      if remainingBytes = 0 then ⟨some success, buf, inbox, result :: results, [], []⟩
      else
        let (recvBytes, block) := recv inbox result remainingBytes.toNat
        let call : RecvCall := ⟨remainingBytes, recvBytes⟩
        if recvBytes > 0 then
          -- the next piece is stored at `buf` again, over this one
          let rest :=
            recvNbytesLoop results (inbox.drop block.length) (buf.store 0 block)
              (remainingBytes - recvBytes)
          { rest with pieces := block :: rest.pieces, calls := call :: rest.calls }
        -- 0 from a peer that closed is returned here, as a status that is no error
        else if recvBytes ≠ eagain then ⟨some recvBytes, buf, inbox, results, [], [call]⟩
        else
          let rest := recvNbytesLoop results inbox buf remainingBytes
          { rest with calls := call :: rest.calls }

/-- `recv_nbytes`; the unsigned argument becomes a signed 16-bit counter. -/
def recvNbytes (sock : Socket) (buf : Cells UInt8) (n : UInt16) : RecvReport :=
  recvNbytesLoop sock.recvResults sock.inbox buf ((n.toNat : Int).bmod (2 ^ 16))

/-- The socket after a receive. -/
def RecvReport.socket (report : RecvReport) (sock : Socket) : Socket :=
  { sock with inbox := report.inbox, recvResults := report.recvResults }

/-- The state when `recv_packet` ends, with the pieces stored at each of its two buffers. -/
structure ReceivedPacket where
  status : Option Int
  packet : Packet
  socket : Socket
  headerPieces : List (List UInt8)
  bodyPieces : List (List UInt8)

/-- `recv_packet`. -/
def recvPacket (sock : Socket) (packet : Packet) : ReceivedPacket :=
  let header := recvNbytes sock packet.rawHeader plPacketHeaderSize.toUInt16
  let packet := { packet with rawHeader := header.buf }
  let sock := header.socket sock
  match header.status with
  | none => ⟨none, packet, sock, header.pieces, []⟩
  | some status =>
      if status < 0 then ⟨some status, packet, sock, header.pieces, []⟩
      else
        let (status, packetH) := parseHeader packet.rawHeader packet.header
        let packet := { packet with header := packetH }
        if status < 0 then ⟨some status, packet, sock, header.pieces, []⟩
        else
          let packetSize := packet.header.dataSize
          if packetSize > 0 then
            let body := recvNbytes sock packet.packetData packetSize
            ⟨body.status, { packet with packetData := body.buf }, body.socket sock,
              header.pieces, body.pieces⟩
          else ⟨some status, packet, sock, header.pieces, []⟩

/-- The offered results deliver exactly `n` bytes to a receiver that asks for what is missing:
each is `EAGAIN` or a positive count, up to the count that brings the last byte. A count is cut
to the bytes still missing, so these are all ways in which `recv` can return `n` bytes.
-/
inductive Delivers : Nat → List Int → Prop where
  | done : Delivers 0 []
  | again {n results} (missing : 0 < n) (rest : Delivers n results)
    : Delivers n (eagain :: results)
  | count {n c results} (missing : 0 < n) (positive : 0 < c) (rest : Delivers (n - c) results)
    : Delivers n ((c : Int) :: results)

/-- The counts that `recv` returns to a receiver with `missing` bytes to go, as long as the
stream holds them and no call fails.
-/
def recvCounts : Nat → List Int → List Nat
  | _, [] => []
  | missing, result :: results =>
      if missing = 0 then []
      else if 0 < result then
        min result.toNat missing :: recvCounts (missing - result.toNat) results
      else if result = eagain then recvCounts missing results
      else []

@[simp] theorem recvCounts_zero (results : List Int) : recvCounts 0 results = [] := by
  cases results <;> simp [recvCounts]

theorem recvCounts_again {n : Nat} (missing : 0 < n) (results : List Int)
    : recvCounts n (eagain :: results) = recvCounts n results := by
  have wanted : n ≠ 0 := by omega
  simp [recvCounts, wanted, eagain]

theorem recvCounts_count {n c : Nat} (missing : 0 < n) (positive : 0 < c) (results : List Int)
    : recvCounts n ((c : Int) :: results) = min c n :: recvCounts (n - c) results := by
  have wanted : n ≠ 0 := by omega
  simp [recvCounts, wanted, positive]

/-- The returned counts of a delivery add up to the bytes delivered, by induction on it. -/
theorem Delivers.sum_counts {n results} (h : Delivers n results)
    : (recvCounts n results).sum = n := by
  induction h with
  | done => rfl
  | again missing _ ih => rwa [recvCounts_again missing]
  | count missing positive _ ih =>
      rw [recvCounts_count missing positive, List.sum_cons, ih]
      omega

/-- A count that `recv` returns is positive, by induction on the results. -/
theorem recvCounts_pos {missing count : Nat} {results : List Int}
    (member : count ∈ recvCounts missing results) : 0 < count := by
  induction results generalizing missing with
  | nil => cases member
  | cons result results ih =>
      rw [recvCounts] at member
      split at member
      · cases member
      · split at member
        · rcases List.mem_cons.mp member with first | later
          · omega
          · exact ih later
        · split at member
          · exact ih member
          · cases member

/-- A delivery of nothing uses no results. -/
theorem Delivers.zero {results} (h : Delivers 0 results) : results = [] := by
  cases h with
  | done => rfl
  | again missing _ => omega
  | count missing _ _ => omega

/-- A `recv` that is offered a count returns the count, cut to the request and the stream, and
that many next bytes of the stream.
-/
theorem recv_count {c len : Nat} {inbox : List UInt8} (positive : 0 < c) (asked : 0 < len)
    (available : 0 < inbox.length)
    : recv inbox c len
      = (((min c (min len inbox.length) : Nat) : Int),
          inbox.take (min c (min len inbox.length))) := by
  have offered : (0 : Int) < c := by omega
  have block : inbox.take (min c len) = inbox.take (min c (min len inbox.length)) := by
    rw [List.take_eq_take_iff]
    omega
  have size : (inbox.take (min c (min len inbox.length))).length
      = min c (min len inbox.length) := by
    rw [List.length_take]
    omega
  have nonempty : inbox.take (min c (min len inbox.length)) ≠ [] := by
    intro empty
    rw [empty, List.length_nil] at size
    omega
  simp only [recv, offered, ↓reduceIte, Int.toNat_natCast, block, nonempty, size]

/-- One round of the receive loop on a positive result, when bytes are missing and available. -/
theorem recvNbytesLoop_count {n c : Nat} (positive : 0 < c) {inbox : List UInt8}
    (missing : 0 < n) (available : 0 < inbox.length) (results : List Int) (buf : Cells UInt8)
    : recvNbytesLoop ((c : Int) :: results) inbox buf n
      = let taken := min c (min n inbox.length)
        let rest :=
          recvNbytesLoop results (inbox.drop taken) (buf.store 0 (inbox.take taken))
            ((n - taken : Nat) : Int)
        { rest with
          pieces := inbox.take taken :: rest.pieces
          calls := ⟨n, taken⟩ :: rest.calls } := by
  have wanted : (n : Int) ≠ 0 := by omega
  have got : ((min c (min n inbox.length) : Nat) : Int) > 0 := by omega
  have left : (n : Int) - ((min c (min n inbox.length) : Nat) : Int)
      = ((n - min c (min n inbox.length) : Nat) : Int) := by
    omega
  have size : (inbox.take (min c (min n inbox.length))).length
      = min c (min n inbox.length) := by
    rw [List.length_take]
    omega
  rw [recvNbytesLoop, if_neg wanted]
  simp only [Int.toNat_natCast, recv_count positive missing available, got, left, size,
    ↓reduceIte]

/-- A round in which `recv` returns `EAGAIN` is only logged. -/
theorem recvNbytesLoop_retry {n : Nat} (missing : 0 < n) {result : Int} {inbox : List UInt8}
    (retry : recv inbox result n = (eagain, [])) (results : List Int) (buf : Cells UInt8)
    : recvNbytesLoop (result :: results) inbox buf n
      = let rest := recvNbytesLoop results inbox buf n
        { rest with calls := ⟨n, eagain⟩ :: rest.calls } := by
  have wanted : (n : Int) ≠ 0 := by omega
  rw [recvNbytesLoop, if_neg wanted]
  simp [retry, eagain]

/-- The loop ends at once when nothing is missing. -/
theorem recvNbytesLoop_zero (results : List Int) (inbox : List UInt8) (buf : Cells UInt8)
    : recvNbytesLoop results inbox buf 0 = ⟨some success, buf, inbox, results, [], []⟩ := by
  cases results <;> simp [recvNbytesLoop]

/-- The receive loop on a delivery: it succeeds, has consumed exactly the delivered bytes and
results, and leaves the overlay of the pieces in the buffer. Witness: induction on the delivery.
-/
theorem recvNbytesLoop_delivers {n results} (h : Delivers n results) (block rest : List UInt8)
    (later : List Int) (buf : Cells UInt8) (size : block.length = n)
    : ∃ calls,
        recvNbytesLoop (results ++ later) (block ++ rest) buf n
        = ⟨some success, buf.overlay (cut (recvCounts n results) block), rest, later,
            cut (recvCounts n results) block, calls⟩ := by
  induction h generalizing block buf with
  | done =>
      have empty : block = [] := List.eq_nil_of_length_eq_zero size
      subst empty
      exact ⟨[], recvNbytesLoop_zero later rest buf⟩
  | again missing _ ih =>
      obtain ⟨calls, next⟩ := ih block buf size
      rw [List.cons_append, recvNbytesLoop_retry missing rfl, recvCounts_again missing, next]
      exact ⟨_, rfl⟩
  | @count n c results missing positive _ ih =>
      have length : (block ++ rest).length = n + rest.length := by
        rw [List.length_append, size]
      have count : min c (min n (block ++ rest).length) = min c n := by omega
      have taken : (block ++ rest).take (min c n) = block.take (min c n) :=
        List.take_append_of_le_length (by omega)
      have dropped : (block ++ rest).drop (min c n) = block.drop (min c n) ++ rest :=
        List.drop_append_of_le_length (by omega)
      have left : n - min c n = n - c := by omega
      obtain ⟨calls, next⟩ := ih (block.drop (min c n)) (buf.store 0 (block.take (min c n)))
        (by rw [List.length_drop]; omega)
      rw [List.cons_append, recvNbytesLoop_count positive missing (by omega), count]
      simp only [taken, dropped, left, next, recvCounts_count missing positive]
      exact ⟨_, rfl⟩

/-- `recv_nbytes` on a delivery of a length that its counter can hold. -/
theorem recvNbytes_delivers {results} {n : UInt16} (h : Delivers n.toNat results)
    (small : n.toNat < 2 ^ 15) (block rest : List UInt8) (later : List Int)
    (sock : Socket) (buf : Cells UInt8) (size : block.length = n.toNat)
    (inbox : sock.inbox = block ++ rest) (offered : sock.recvResults = results ++ later)
    : ∃ calls,
        recvNbytes sock buf n
        = ⟨some success, buf.overlay (cut (recvCounts n.toNat results) block), rest, later,
            cut (recvCounts n.toNat results) block, calls⟩ := by
  have counter : (n.toNat : Int).bmod (2 ^ 16) = n.toNat := by
    apply Int.bmod_eq_of_le_mul_two <;> omega
  rw [recvNbytes, counter, inbox, offered]
  exact recvNbytesLoop_delivers h block rest later buf size

/-- `recv_nbytes` assembles whatever bytes are delivered, in whatever buffer, exactly if they come
with one count.
-/
theorem recvNbytes_assembles_iff {results} {n : UInt16} (h : Delivers n.toNat results)
    (small : n.toNat < 2 ^ 15)
    : (∀ (sock : Socket) (buf : Cells UInt8) (block : List UInt8), n.toNat = block.length →
        (recvNbytes { sock with inbox := block, recvResults := results } buf n).buf.load 0
          block.length = block)
      ↔ (recvCounts n.toNat results).length ≤ 1 := by
  have assembled (sock : Socket) (buf : Cells UInt8) (block : List UInt8)
      (size : n.toNat = block.length)
      : (recvNbytes { sock with inbox := block, recvResults := results } buf n).buf.load 0
            block.length = block
        ↔ Undisturbed buf block (recvCounts n.toNat results) := by
    obtain ⟨calls, arrives⟩ := recvNbytes_delivers h small block [] []
      { sock with inbox := block, recvResults := results } buf size.symm
      (List.append_nil block).symm (List.append_nil results).symm
    rw [arrives]
    exact buf.load_overlay_iff block _ (h.sum_counts.trans size)
  have : Nontrivial UInt8 := ⟨0, 1, by decide⟩
  rw [← forall_undisturbed_iff (α := UInt8) fun _ member => recvCounts_pos member, h.sum_counts]
  constructor
  · intro safe buf block size
    exact (assembled ⟨[], [], [], [], []⟩ buf block size).mp (safe _ buf block size)
  · intro safe sock buf block size
    exact (assembled sock buf block size).mpr (safe buf block size)

end BigBlackHardware
