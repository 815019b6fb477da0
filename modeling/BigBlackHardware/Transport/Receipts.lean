import BigBlackHardware.Transport.Receiving

/-! Receipts: what the results offered to the receive functions amount to, for every stream and
every sequence of results, a failed or closed connection included.
-/

namespace BigBlackHardware

open Library

/-- What the results offered to one receive amount to, without any memory. -/
structure Receipt where
  /-- The status the receive ends with, or `none` if it still waits. -/
  status : Option Int
  /-- The counts that `recv` returned. -/
  counts : List Nat
  /-- The results not used yet. -/
  later : List Int
  /-- The calls of `recv`. -/
  calls : List RecvCall

/-- The receipt for `missing` bytes when the stream holds `available` bytes. A count is cut to
what is missing and available; a result that is neither a count nor `EAGAIN` ends the receive.
-/
def receipt : Nat → Nat → List Int → Receipt
  | missing, _, [] => ⟨if missing = 0 then some success else none, [], [], []⟩
  | missing, available, result :: results =>
      if missing = 0 then ⟨some success, [], result :: results, []⟩
      else if 0 < result ∧ 0 < available then
        let count := min result.toNat (min missing available)
        let rest := receipt (missing - count) (available - count) results
        { rest with counts := count :: rest.counts, calls := ⟨missing, count⟩ :: rest.calls }
      else if 0 < result ∨ result = eagain then
        let rest := receipt missing available results
        { rest with calls := ⟨missing, eagain⟩ :: rest.calls }
      else ⟨some result, [], results, [⟨missing, result⟩]⟩

@[simp] theorem receipt_zero (available : Nat) (results : List Int)
    : receipt 0 available results = ⟨some success, [], results, []⟩ := by
  cases results <;> simp [receipt]

/-- A result offered while bytes are missing is a count, or there is to be another call, or the
receive ends with it.
-/
theorem offer_cases (result : Int) (inbox : List UInt8)
    : (0 < result ∧ 0 < inbox.length)
      ∨ (¬ (0 < result ∧ 0 < inbox.length) ∧ (0 < result ∨ result = eagain))
      ∨ (¬ 0 < result ∧ result ≠ eagain) := by
  by_cases positive : 0 < result
  · by_cases available : 0 < inbox.length
    · exact Or.inl ⟨positive, available⟩
    · exact Or.inr (Or.inl ⟨fun both => available both.2, Or.inl positive⟩)
  · by_cases again : result = eagain
    · exact Or.inr (Or.inl ⟨fun both => positive both.1, Or.inr again⟩)
    · exact Or.inr (Or.inr ⟨positive, again⟩)

/-- There is to be another call after `EAGAIN`, and after a count when the stream holds nothing. -/
theorem recv_again {result : Int} {inbox : List UInt8}
    (unpaid : ¬ (0 < result ∧ 0 < inbox.length)) (again : 0 < result ∨ result = eagain)
    (len : Nat) : recv inbox result len = (eagain, []) := by
  rw [recv]
  split
  · rename_i positive
    have empty : inbox = [] :=
      List.eq_nil_of_length_eq_zero (Nat.eq_zero_of_not_pos fun some => unpaid ⟨positive, some⟩)
    rw [empty]
    simp
  · rename_i negative
    rw [again.resolve_left negative]

/-- Rule for a recursion that receives `n` bytes call by call: what holds when nothing is missing or
no results are left, and before a call if it holds behind it. Witness: induction on the results.
-/
theorem receive_induction {motive : List Int → List UInt8 → Nat → Prop}
    (waits : ∀ inbox n, motive [] inbox n)
    (done : ∀ results inbox, motive results inbox 0)
    (count
      : ∀ (c : Nat) results inbox n, 0 < c → 0 < n → 0 < inbox.length →
          motive results (inbox.drop (min c (min n inbox.length)))
            (n - min c (min n inbox.length)) →
          motive ((c : Int) :: results) inbox n)
    (again
      : ∀ result results inbox n, 0 < n → ¬ (0 < result ∧ 0 < inbox.length) →
          (0 < result ∨ result = eagain) → motive results inbox n →
          motive (result :: results) inbox n)
    (ends
      : ∀ result results inbox n, 0 < n → ¬ 0 < result → result ≠ eagain →
          motive (result :: results) inbox n)
    (results : List Int) (inbox : List UInt8) (n : Nat) : motive results inbox n := by
  induction results generalizing inbox n with
  | nil => exact waits inbox n
  | cons result results ih =>
      rcases Nat.eq_zero_or_pos n with rfl | missing
      · exact done _ inbox
      rcases offer_cases result inbox with ⟨positive, available⟩ | ⟨unpaid, retry⟩ | ⟨none, stops⟩
      · obtain ⟨c, rfl⟩ : ∃ c : Nat, result = c := ⟨result.toNat, by omega⟩
        exact count c results inbox n (by omega) missing available (ih _ _)
      · exact again result results inbox n missing unpaid retry (ih inbox n)
      · exact ends result results inbox n missing none stops

section Receipt

variable {n : Nat} (missing : 0 < n)

include missing

/-- The receipt of a call that returns a count. -/
theorem receipt_count {c available : Nat} (positive : 0 < c) (some : 0 < available)
    (results : List Int)
    : receipt n available ((c : Int) :: results)
      = let count := min c (min n available)
        let rest := receipt (n - count) (available - count) results
        { rest with counts := count :: rest.counts, calls := ⟨n, count⟩ :: rest.calls } := by
  rw [receipt, if_neg (Nat.ne_of_gt missing), if_pos ⟨by omega, some⟩, Int.toNat_natCast]

/-- The receipt of a call after which there is to be another one. -/
theorem receipt_again {available : Nat} {result : Int} (unpaid : ¬ (0 < result ∧ 0 < available))
    (again : 0 < result ∨ result = eagain) (results : List Int)
    : receipt n available (result :: results)
      = let rest := receipt n available results
        { rest with calls := ⟨n, eagain⟩ :: rest.calls } := by
  rw [receipt, if_neg (Nat.ne_of_gt missing), if_neg unpaid, if_pos again]

/-- The receipt of a call that ends the receive. -/
theorem receipt_ends {result : Int} (none : ¬ 0 < result) (stops : result ≠ eagain)
    (available : Nat) (results : List Int)
    : receipt n available (result :: results)
      = ⟨some result, [], results, [⟨n, result⟩]⟩ := by
  rw [receipt, if_neg (Nat.ne_of_gt missing), if_neg fun both => none both.1,
    if_neg (not_or_intro none stops)]

end Receipt

/-- The receive loop, whatever the results are: it stores consecutive pieces of the stream at
the buffer address, of the lengths on the receipt. Witness: induction on the calls.
-/
theorem recvNbytesLoop_receipt (results : List Int) (inbox : List UInt8) (buf : Cells UInt8)
    (n : Nat)
    : recvNbytesLoop results inbox buf n
      = let slip := receipt n inbox.length results
        ⟨slip.status, buf.overlay (cut slip.counts inbox), inbox.drop slip.counts.sum,
          slip.later, cut slip.counts inbox, slip.calls⟩ := by
  induction results, inbox, n using receive_induction generalizing buf with
  | waits inbox n => simp [recvNbytesLoop, receipt, cut, Cells.overlay]
  | done results inbox =>
      rw [receipt_zero]
      exact recvNbytesLoop_zero _ inbox buf
  | count c results inbox n positive missing available ih =>
      rw [recvNbytesLoop_count positive missing available, receipt_count missing positive available]
      simp only [ih, cut, Cells.overlay, List.foldl_cons, List.sum_cons, List.drop_drop,
        List.length_drop]
  | again result results inbox n missing unpaid again ih =>
      rw [recvNbytesLoop_retry missing (recv_again unpaid again n), ih,
        receipt_again missing unpaid again]
  | ends result results inbox n missing none stops =>
      have wanted : (n : Int) ≠ 0 := by omega
      have failed : recv inbox result n = (result, []) := by
        rw [recv, if_neg none]
      rw [receipt_ends missing none stops, recvNbytesLoop, if_neg wanted]
      simp [failed, none, stops, cut, Cells.overlay]

/-- The counts on a receipt add up to no more than what is missing and what is available. -/
theorem receipt_sum_le (missing available : Nat) (results : List Int)
    : (receipt missing available results).counts.sum ≤ min missing available := by
  induction results generalizing missing available with
  | nil => simp [receipt]
  | cons result results ih =>
      rw [receipt]
      split
      · simp
      split
      · have rest := ih (missing - min result.toNat (min missing available))
          (available - min result.toNat (min missing available))
        simp only [List.sum_cons]
        omega
      split
      · exact ih missing available
      · simp

/-- A receipt for everything that was missing ends with success. -/
theorem receipt_status_of_sum {missing available : Nat} {results : List Int}
    (complete : (receipt missing available results).counts.sum = missing)
    : (receipt missing available results).status = some success := by
  induction results generalizing missing available with
  | nil =>
      have none : missing = 0 := by simpa [receipt] using complete.symm
      simp [receipt, none]
  | cons result results ih =>
      rw [receipt] at complete ⊢
      split
      · rfl
      rename_i wanted
      rw [if_neg wanted] at complete
      split
      · rename_i count
        rw [if_pos count] at complete
        simp only [List.sum_cons] at complete
        exact ih (by omega)
      rename_i unpaid
      rw [if_neg unpaid] at complete
      split
      · rename_i again
        rw [if_pos again] at complete
        exact ih complete
      · rename_i stop
        rw [if_neg stop] at complete
        exact absurd complete.symm wanted

/-- `recv_nbytes` of a length that its counter can hold, for every stream and every results. -/
theorem recvNbytes_receipt (sock : Socket) (buf : Cells UInt8) {n : UInt16}
    (small : n.toNat < 2 ^ 15)
    : recvNbytes sock buf n
      = let slip := receipt n.toNat sock.inbox.length sock.recvResults
        ⟨slip.status, buf.overlay (cut slip.counts sock.inbox),
          sock.inbox.drop slip.counts.sum, slip.later, cut slip.counts sock.inbox, slip.calls⟩ := by
  have counter : (n.toNat : Int).bmod (2 ^ 16) = n.toNat := by
    apply Int.bmod_eq_of_le_mul_two <;> omega
  rw [recvNbytes, counter, recvNbytesLoop_receipt]

/-- The receipt for the header of the next packet. -/
def headerReceipt (sock : Socket) : Receipt :=
  receipt plPacketHeaderSize sock.inbox.length sock.recvResults

/-- The raw header of a packet object after the header's receive. -/
def receivedHeader (sock : Socket) (packet : Packet) : Cells UInt8 :=
  packet.rawHeader.overlay (cut (headerReceipt sock).counts sock.inbox)

/-- The receipt for a body of `size` bytes behind the header. -/
def bodyReceipt (sock : Socket) (size : Nat) : Receipt :=
  receipt size (sock.inbox.length - (headerReceipt sock).counts.sum) (headerReceipt sock).later

/-- The stream behind the header. -/
def bodyInbox (sock : Socket) : List UInt8 := sock.inbox.drop (headerReceipt sock).counts.sum

/-- The header's receive ends with a status that is not negative: the header is complete, or
the peer closed, which `recv` reports as 0.
-/
def HeaderEnds (sock : Socket) : Prop :=
  ∃ status, (headerReceipt sock).status = some status ∧ 0 ≤ status

/-- What `recv_packet` decodes is a header that the decoder accepts. -/
def HeaderAccepted (sock : Socket) (packet : Packet) : Prop :=
  (parseHeader (receivedHeader sock packet) packet.header).1 = packetSuccess

/-- The socket behind the header. -/
def Socket.behindHeader (sock : Socket) : Socket :=
  { sock with inbox := bodyInbox sock, recvResults := (headerReceipt sock).later }

theorem recvNbytes_header (sock : Socket) (packet : Packet)
    : recvNbytes sock packet.rawHeader plPacketHeaderSize.toUInt16
      = ⟨(headerReceipt sock).status, receivedHeader sock packet, bodyInbox sock,
          (headerReceipt sock).later, cut (headerReceipt sock).counts sock.inbox,
          (headerReceipt sock).calls⟩ :=
  recvNbytes_receipt sock packet.rawHeader (by decide)

/-- `recv_packet` when the header's receive fails or waits: nothing is decoded. -/
theorem recvPacket_without_header {sock : Socket} (packet : Packet) (fails : ¬ HeaderEnds sock)
    : recvPacket sock packet
      = ⟨(headerReceipt sock).status, { packet with rawHeader := receivedHeader sock packet },
          sock.behindHeader, cut (headerReceipt sock).counts sock.inbox, []⟩ := by
  rw [recvPacket, recvNbytes_header]
  cases ended : (headerReceipt sock).status with
  | none => rfl
  | some status =>
      have negative : status < 0 := by
        by_contra ends
        exact fails ⟨status, ended, by omega⟩
      simp only [negative, ↓reduceIte]
      rfl

/-- `recv_packet` when the decoder refuses what is in the raw header: its status is the
decoder's, and there is no receive of a body.
-/
theorem recvPacket_refused {sock : Socket} {packet : Packet} (ends : HeaderEnds sock)
    (refused : ¬ HeaderAccepted sock packet)
    : recvPacket sock packet
      = ⟨some (parseHeader (receivedHeader sock packet) packet.header).1,
          { packet with
            rawHeader := receivedHeader sock packet
            header := (parseHeader (receivedHeader sock packet) packet.header).2 },
          sock.behindHeader, cut (headerReceipt sock).counts sock.inbox, []⟩ := by
  obtain ⟨status, ended, nonneg⟩ := ends
  have kept : ¬ status < 0 := by omega
  have negative : (parseHeader (receivedHeader sock packet) packet.header).1 < 0 := by
    by_contra h
    exact refused ((parseHeader_nonneg_iff _ _).mp (by omega))
  rw [recvPacket, recvNbytes_header]
  simp only [ended, kept, negative, ↓reduceIte]
  rfl

/-- `recv_packet` when the decoder accepts: the header object holds the decoded fields, and the
body's pieces overlay the data. For an empty body the receipt is empty, as is the receive.
-/
theorem recvPacket_accepted {sock : Socket} {packet : Packet} (ends : HeaderEnds sock)
    (accepted : HeaderAccepted sock packet)
    : recvPacket sock packet
      = let raw := receivedHeader sock packet
        let body := bodyReceipt sock (headerSize raw)
        ⟨body.status,
          { header := (parseHeader raw packet.header).2
            rawHeader := raw
            packetData := packet.packetData.overlay (cut body.counts (bodyInbox sock)) },
          { sock.behindHeader with
            inbox := (bodyInbox sock).drop body.counts.sum
            recvResults := body.later },
          cut (headerReceipt sock).counts sock.inbox, cut body.counts (bodyInbox sock)⟩ := by
  obtain ⟨status, ended, nonneg⟩ := ends
  have kept : ¬ status < 0 := by omega
  have decoded : (parseHeader (receivedHeader sock packet) packet.header).1 = packetSuccess :=
    accepted
  obtain ⟨size, bound⟩ := parseHeader_dataSize decoded
  have limit : plMaxDataLength.toNat = 1029 := rfl
  rw [recvPacket, recvNbytes_header]
  simp only [ended, kept, ↓reduceIte]
  have positive : ¬ (parseHeader (receivedHeader sock packet) packet.header).1 < 0 := by
    rw [decoded]
    decide
  rw [if_neg positive]
  have length : (bodyInbox sock).length
      = sock.inbox.length - (headerReceipt sock).counts.sum := by
    rw [bodyInbox, List.length_drop]
  have body := recvNbytes_receipt sock.behindHeader packet.packetData
    (n := (parseHeader (receivedHeader sock packet) packet.header).2.dataSize) (by omega)
  simp only [Socket.behindHeader, length, size] at body
  split
  · rw [RecvReport.socket, body]
    rfl
  · rename_i empty
    rw [gt_iff_lt, UInt16.lt_iff_toNat_lt] at empty
    have zero : headerSize (receivedHeader sock packet) = 0 := by
      rw [← size]
      simpa using empty
    simp only [bodyReceipt, zero, receipt_zero, cut, Cells.overlay, List.foldl_nil,
      List.sum_nil, List.drop_zero, decoded]
    rfl

/-- The results offered to `recv` end while it still waits for the header or for the body. -/
def WaitsForever (sock : Socket) (object : Packet) : Prop :=
  (headerReceipt sock).status = none
  ∨ HeaderEnds sock ∧ HeaderAccepted sock object
    ∧ (bodyReceipt sock (headerSize (receivedHeader sock object))).status = none

theorem recvPacket_waits_iff (sock : Socket) (object : Packet)
    : (recvPacket sock object).status = none ↔ WaitsForever sock object := by
  rw [WaitsForever]
  by_cases ends : HeaderEnds sock
  · have ended : (headerReceipt sock).status ≠ none := by
      obtain ⟨status, ended, -⟩ := ends
      rw [ended]
      exact Option.some_ne_none status
    by_cases accepted : HeaderAccepted sock object
    · rw [recvPacket_accepted ends accepted]
      simp [ended, ends, accepted]
    · rw [recvPacket_refused ends accepted]
      simp [ended, accepted]
  · rw [recvPacket_without_header object ends]
    simp [ends]

end BigBlackHardware
