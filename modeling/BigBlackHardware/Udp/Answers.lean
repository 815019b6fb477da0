import BigBlackHardware.Programmer.Commands
import BigBlackHardware.Udp.Resolver

/-! Which datagrams the UDP resolver answers, and to which port. The receive buffer is as long as a
resolve packet, so that the length test cannot tell a longer datagram.
-/

namespace BigBlackHardware.UdpResolver

open Library

/-- The number that bytes stand for, most significant byte first. -/
def bigEndian (bytes : List UInt8) : Nat :=
  bytes.foldl (fun number byte => 256 * number + byte.toNat) 0

/-- The receiver that a resolve datagram asks for: its sender, at the port in its last bytes. -/
def requestedReceiver (delivery : Delivery) : SockAddr where
  addr := delivery.sender.addr
  port := UInt16.ofNat (bigEndian ((delivery.bytes.drop portOffset).take portSize))

/-- A datagram is answered as the format says: with the answer byte if it is a resolve datagram
with the device's key, and not at all otherwise.
-/
structure AnsweredAsSpecified (resolver : Resolver) (delivery : Delivery) : Prop where
  request
    : Matching resolver.key delivery.bytes →
      (resolver.round delivery.reception).answers
        = resolver.answers ++ [⟨[answerByte], requestedReceiver delivery⟩]
  other
    : ¬ Matching resolver.key delivery.bytes →
      (resolver.round delivery.reception).answers = resolver.answers

/-- A datagram that is too long, with a resolve datagram in front. -/
def Oversized (key : Cells UInt8) (bytes : List UInt8) : Prop :=
  resolvePacketSize < bytes.length ∧ Matching key (bytes.take resolvePacketSize)

-----------------------------------------------------------------------------------------
-- The checks
-----------------------------------------------------------------------------------------

/-- Without a NUL in the right one, strings that compare as equal have equal characters, by
induction on their number.
-/
theorem eq_of_strncmpEqual {left right : Cells UInt8} {l r n : Nat}
    (nonNul : ∀ i < n, right (r + i) ≠ 0) (equal : strncmpEqual left right l r n = true)
    : ∀ i < n, left (l + i) = right (r + i) := by
  induction n generalizing l r with
  | zero => exact fun i below => absurd below (Nat.not_lt_zero i)
  | succ n ih =>
      rw [strncmpEqual] at equal
      split at equal
      · cases equal
      · rename_i first
        have same : left l = right r := not_not.mp first
        have goes : left l ≠ 0 := by
          rw [same]
          exact nonNul 0 (Nat.succ_pos n)
        rw [if_neg goes] at equal
        intro i inside
        cases i with
        | zero => exact same
        | succ i =>
            have next := ih (fun i below => by
              have later := nonNul (i + 1) (by omega)
              rwa [Nat.add_right_comm r 1 i]) equal i (by omega)
            rwa [Nat.add_right_comm l 1 i, Nat.add_right_comm r 1 i] at next

/-- The stored block is a resolve packet with the key exactly if it passes the two checks. -/
theorem matching_iff_passes {key : Cells UInt8} (nonNul : ∀ i < keySize, key i ≠ 0)
    (buffer : Cells UInt8) {block : List UInt8} (fits : block.length ≤ resolvePacketSize)
    : Matching key block
      ↔ checkForResolve (buffer.store 0 block) block.length.toUInt16 = true
        ∧ cmpKeys (buffer.store 0 block) key = true := by
  constructor
  · intro matching
    have passes := matching.passes buffer
    rwa [List.take_of_length_le fits] at passes
  · rintro ⟨resolves, known⟩
    rw [checkForResolve] at resolves
    split at resolves
    · cases resolves
    · rename_i accepted
      obtain ⟨size, header⟩ := not_or.mp accepted
      have full : block.length = resolvePacketSize := by
        have same := congrArg UInt16.toNat (not_not.mp size)
        have small : resolvePacketSize = 37 := rfl
        simp only [Nat.toUInt16, UInt16.toNat_ofNat'] at same
        omega
      have stored (i : Nat) (inside : i < resolvePacketSize)
          : block[i]? = some (buffer.store 0 block i) := by
        rw [buffer.store_inside (Nat.zero_le i) (by omega)]
        exact List.getElem?_eq_getElem (by omega)
      refine ⟨full, ?_, fun i inside => ?_⟩
      · rw [stored headerOffset (by decide)]
        exact congrArg some (not_not.mp header)
      · have keyEnd : keyOffset + keySize < resolvePacketSize := by decide
        rw [stored (keyOffset + i) (by omega)]
        have same := eq_of_strncmpEqual (fun i below => by
          rw [Nat.zero_add]
          exact nonNul i below) known i inside
        rw [same, Nat.zero_add]

-----------------------------------------------------------------------------------------
-- The port
-----------------------------------------------------------------------------------------

/-- The masks and shifts of `get_port` assemble the four bytes like a word of a packet. -/
theorem getPort_eq (buf : Cells UInt8) : getPort buf = getWord buf portOffset := by
  have unmasked (byte : UInt8) : byte.toUInt32 &&& 0xFF = byte.toUInt32 := by
    rw [← UInt32.toNat_inj, UInt32.toNat_and, UInt8.toNat_toUInt32]
    exact Nat.and_two_pow_sub_one_of_lt_two_pow byte.toNat_lt
  have loop : List.range portSize = [0, 1, 2, 3] := rfl
  simp only [getPort, loop, List.foldl_cons, List.foldl_nil, unmasked, UInt32.zero_or]
  exact congrArg _ (UInt32.shiftLeft_zero)

/-- A word is the big-endian number of its bytes. -/
theorem wordAt_eq (buf : Cells UInt8) (offset : Nat)
    : wordAt buf offset = bigEndian (buf.load offset 4) := by
  simp only [Cells.load_succ, Cells.load_zero, bigEndian, List.foldl_cons, List.foldl_nil, wordAt,
    Nat.add_assoc, Nat.reduceAdd]
  omega

/-- The port that the task answers to is the low half of the number in the datagram. -/
theorem getPort_stored (buffer : Cells UInt8) {block : List UInt8}
    (full : block.length = resolvePacketSize)
    : (getPort (buffer.store 0 block)).toUInt16
      = UInt16.ofNat (bigEndian ((block.drop portOffset).take portSize)) := by
  have fits : portOffset + 4 ≤ block.length := by
    rw [full]
    decide
  have part := buffer.load_store_part fits
  rw [getPort_eq, getWord_eq, wordAt_eq, part, ← UInt16.toNat_inj]
  simp only [UInt32.toNat_toUInt16, UInt32.toNat_ofNat', UInt16.toNat_ofNat']
  exact Nat.mod_mod_of_dvd _ (by decide)

-----------------------------------------------------------------------------------------
-- Rounds
-----------------------------------------------------------------------------------------

/-- What a round adds to the answers depends on the first bytes of the datagram alone: a resolve
datagram there is answered, and anything else is not.
-/
theorem round_answers (resolver : Resolver) (nonNul : ∀ i < keySize, resolver.key i ≠ 0)
    (delivery : Delivery)
    : (Matching resolver.key (delivery.bytes.take resolvePacketSize) →
        (resolver.round delivery.reception).answers
          = resolver.answers ++ [⟨[answerByte], requestedReceiver delivery⟩])
      ∧ (¬ Matching resolver.key (delivery.bytes.take resolvePacketSize) →
        (resolver.round delivery.reception).answers = resolver.answers) := by
  have fits : (delivery.bytes.take resolvePacketSize).length ≤ resolvePacketSize := by
    rw [List.length_take]
    exact Nat.min_le_left _ _
  have passes := matching_iff_passes nonNul resolver.buffer fits
  have sent : ¬ delivery.sendResult < 0 := Int.not_lt.mpr delivery.sent
  constructor
  · intro matching
    obtain ⟨resolves, known⟩ := passes.mp matching
    have received : ¬ (delivery.bytes.take resolvePacketSize).length ≤ 0 := by
      rw [matching.length]
      decide
    have port := getPort_stored resolver.buffer matching.length
    rw [List.drop_take, List.take_take] at port
    rw [Delivery.reception, Resolver.round, if_neg received, Resolver.handle, if_pos resolves,
      if_pos known, if_neg sent]
    dsimp only
    rw [port]
    rfl
  · intro other
    rw [Delivery.reception, Resolver.round]
    split
    · rfl
    · rw [Resolver.handle]
      split
      · rename_i resolves
        split
        · rename_i known
          exact absurd (passes.mpr ⟨resolves, known⟩) other
        · rfl
      · rfl

/-- With a key without a NUL, a datagram is answered as specified exactly if it is not one that is
too long behind a resolve datagram.
-/
theorem round_answeredAsSpecified_iff (resolver : Resolver)
    (nonNul : ∀ i < keySize, resolver.key i ≠ 0) (delivery : Delivery)
    : AnsweredAsSpecified resolver delivery ↔ ¬ Oversized resolver.key delivery.bytes := by
  obtain ⟨answered, ignored⟩ := round_answers resolver nonNul delivery
  constructor
  · rintro specified ⟨long, matching⟩
    have other : ¬ Matching resolver.key delivery.bytes := fun whole => by
      have size := whole.length
      omega
    have same := answered matching
    rw [specified.other other] at same
    exact List.cons_ne_nil _ _ (List.self_eq_append_right.mp same)
  · intro limited
    by_cases long : resolvePacketSize < delivery.bytes.length
    · have other : ¬ Matching resolver.key delivery.bytes := fun whole => by
        have size := whole.length
        omega
      exact ⟨fun matching => absurd matching other,
        fun _ => ignored fun matching => limited ⟨long, matching⟩⟩
    · rw [List.take_of_length_le (Nat.not_lt.mp long)] at answered ignored
      exact ⟨answered, ignored⟩

/-- A resolver with a key of ones. -/
def onesResolver : Resolver := ⟨fun _ => 1, fun _ => 0, true, true, []⟩

/-- A datagram that asks it to answer at port 1024, with more bytes behind it. -/
def onesRequest (behind : List UInt8) : Delivery where
  bytes := headerByte :: List.replicate 32 1 ++ [0, 0, 4, 0] ++ behind
  sender := ⟨0x0A000001, 7⟩
  sendResult := 1
  sent := by decide

theorem onesRequest_matching : Matching onesResolver.key (onesRequest []).bytes where
  length := rfl
  header := rfl
  key := by decide

/-- The request without anything behind it is answered as specified. -/
theorem round_answers_onesRequest : AnsweredAsSpecified onesResolver (onesRequest []) :=
  (round_answeredAsSpecified_iff onesResolver (by decide) (onesRequest [])).mpr
    (fun oversized => absurd oversized.1 (by decide))

/-- With one more byte behind it, it is answered as well. -/
theorem round_answers_oversized : ¬ AnsweredAsSpecified onesResolver (onesRequest [0]) := by
  intro specified
  have other : ¬ Matching onesResolver.key (onesRequest [0]).bytes := fun matching =>
    absurd matching.length (by decide)
  have answered := (round_answers onesResolver (by decide) (onesRequest [0])).1
    onesRequest_matching
  rw [specified.other other] at answered
  cases answered

end BigBlackHardware.UdpResolver
