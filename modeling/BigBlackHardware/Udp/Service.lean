import BigBlackHardware.Udp.Answers

/-! What the UDP resolver does over a whole run, whatever it receives and whatever its key is. -/

namespace BigBlackHardware.UdpResolver

open Library

/-- The first bytes of the datagram are a resolve packet with the key. A key with less than 32
characters counts up to its NUL, which the datagram has as well.
-/
structure Asks (key : Cells UInt8) (bytes : List UInt8) : Prop where
  long : resolvePacketSize ≤ bytes.length
  header : bytes[headerOffset]? = some headerByte
  key : ∀ i < keySize, (∀ j < i, key j ≠ 0) → bytes[keyOffset + i]? = some (key i)

instance (key : Cells UInt8) (bytes : List UInt8) : Decidable (Asks key bytes) :=
  decidable_of_iff
    (resolvePacketSize ≤ bytes.length
      ∧ bytes[headerOffset]? = some headerByte
      ∧ ∀ i < keySize, (∀ j < i, key j ≠ 0) → bytes[keyOffset + i]? = some (key i))
    ⟨fun h => ⟨h.1, h.2.1, h.2.2⟩, fun h => ⟨h.long, h.header, h.key⟩⟩

/-- The sender's address with the port that the datagram names. -/
def receiverOf (bytes : List UInt8) (sender : SockAddr) : SockAddr :=
  { sender with port := UInt16.ofNat (bigEndian ((bytes.drop portOffset).take portSize)) }

/-- What is sent for a reception. -/
def Reception.answer? (key : Cells UInt8) : Reception → Option Answer
  | .error _ _ => none
  | .datagram bytes sender sendResult =>
      if Asks key bytes ∧ 0 ≤ sendResult then some ⟨[answerByte], receiverOf bytes sender⟩
      else none

/-- The reception ends the task: an error, an empty datagram, or an answer that cannot be sent. -/
def Reception.Ends (key : Cells UInt8) : Reception → Prop
  | .error _ _ => True
  | .datagram bytes _ sendResult => bytes = [] ∨ Asks key bytes ∧ sendResult < 0

instance (key : Cells UInt8) : (reception : Reception) → Decidable (reception.Ends key)
  | .error _ _ => inferInstanceAs (Decidable True)
  | .datagram bytes _ sendResult =>
      inferInstanceAs (Decidable (bytes = [] ∨ Asks key bytes ∧ sendResult < 0))

/-- The receptions up to the one that ends the task, without it. -/
def served (key : Cells UInt8) (receptions : List Reception) : List Reception :=
  receptions.takeWhile fun reception => ¬ reception.Ends key

-----------------------------------------------------------------------------------------
-- The checks
-----------------------------------------------------------------------------------------

/-- `strncmp` finds two strings equal exactly if they are up to the right one's NUL, by induction on
the number of characters.
-/
theorem strncmpEqual_iff {left right : Cells UInt8} {l r n : Nat}
    : strncmpEqual left right l r n = true
      ↔ ∀ i < n, (∀ j < i, right (r + j) ≠ 0) → left (l + i) = right (r + i) := by
  induction n generalizing l r with
  | zero => exact iff_of_true rfl fun i below => absurd below (Nat.not_lt_zero i)
  | succ n ih =>
      rw [strncmpEqual]
      by_cases first : left l = right r
      · rw [if_neg (not_not.mpr first)]
        by_cases ends : left l = 0
        · rw [if_pos ends]
          refine iff_of_true rfl fun i _ before => ?_
          cases i with
          | zero => exact first
          | succ i => exact absurd (first.symm.trans ends) (before 0 (Nat.succ_pos i))
        · rw [if_neg ends, ih]
          constructor
          · intro later i inside before
            cases i with
            | zero => exact first
            | succ i =>
                have next := later i (by omega) fun j below => by
                  have nonNul := before (j + 1) (by omega)
                  rwa [Nat.add_right_comm r 1 j]
                rwa [Nat.add_right_comm l 1 i, Nat.add_right_comm r 1 i] at next
          · intro all i inside before
            have next := all (i + 1) (by omega) fun j below => by
              cases j with
              | zero => exact first ▸ ends
              | succ j =>
                  have nonNul := before j (by omega)
                  rwa [Nat.add_right_comm r 1 j] at nonNul
            rwa [Nat.add_right_comm l 1 i, Nat.add_right_comm r 1 i]
      · rw [if_pos first]
        refine iff_of_false (by decide) fun all => first ?_
        exact all 0 (Nat.succ_pos n) fun j below => absurd below (Nat.not_lt_zero j)

/-- A byte of the buffer that the datagram reaches. -/
theorem stored_iff {buffer : Cells UInt8} {bytes : List UInt8} {i : Nat} {byte : UInt8}
    (long : resolvePacketSize ≤ bytes.length) (inside : i < resolvePacketSize)
    : buffer.store 0 (bytes.take resolvePacketSize) i = byte ↔ bytes[i]? = some byte := by
  have reaches : i - 0 < (bytes.take resolvePacketSize).length := by
    rw [List.length_take]
    omega
  rw [buffer.store_inside (Nat.zero_le i) reaches, List.getElem_take,
    List.getElem?_eq_getElem (by omega)]
  exact Option.some_inj.symm

/-- The task's two checks tell whether the datagram asks. -/
theorem asks_iff_passes (key buffer : Cells UInt8) (bytes : List UInt8)
    : let block := bytes.take resolvePacketSize
      Asks key bytes
      ↔ checkForResolve (buffer.store 0 block) block.length.toUInt16 = true
        ∧ cmpKeys (buffer.store 0 block) key = true := by
  intro block
  have limit : block.length ≤ resolvePacketSize := by
    rw [List.length_take]
    exact Nat.min_le_left _ _
  have size : block.length.toUInt16 = resolvePacketSize.toUInt16
      ↔ resolvePacketSize ≤ bytes.length := by
    have length : block.length = min resolvePacketSize bytes.length := List.length_take
    have small : resolvePacketSize = 37 := rfl
    rw [← UInt16.toNat_inj]
    simp only [Nat.toUInt16, UInt16.toNat_ofNat']
    omega
  rw [checkForResolve, cmpKeys, strncmpEqual_iff]
  constructor
  · intro asks
    refine ⟨?_, fun i inside before => ?_⟩
    · rw [if_neg]
      rintro (short | other)
      · exact short (size.mpr asks.long)
      · exact other ((stored_iff asks.long (by decide)).mpr asks.header)
    · have keyEnd : keyOffset + keySize < resolvePacketSize := by decide
      rw [Nat.zero_add]
      refine (stored_iff asks.long (by omega)).mpr (asks.key i inside fun j below => ?_)
      have nonNul := before j below
      rwa [Nat.zero_add] at nonNul
  · rintro ⟨resolves, equal⟩
    split at resolves
    · cases resolves
    · rename_i accepted
      obtain ⟨length, header⟩ := not_or.mp accepted
      have long := size.mp (not_not.mp length)
      refine ⟨long, (stored_iff long (by decide)).mp (not_not.mp header), fun i inside before => ?_⟩
      have keyEnd : keyOffset + keySize < resolvePacketSize := by decide
      have same := equal i inside fun j below => by
        rw [Nat.zero_add]
        exact before j below
      rw [Nat.zero_add] at same
      exact (stored_iff long (by omega)).mp same

-----------------------------------------------------------------------------------------
-- Rounds
-----------------------------------------------------------------------------------------

section Rounds

variable {resolver : Resolver} {reception : Reception}

/-- A reception that ends the task makes it close its socket, without an answer. -/
theorem round_ends (ends : reception.Ends resolver.key)
    : (resolver.round reception).receiving = false
      ∧ (resolver.round reception).socketOpen = false
      ∧ (resolver.round reception).answers = resolver.answers := by
  cases reception with
  | error status failed => exact ⟨rfl, rfl, rfl⟩
  | datagram bytes sender sendResult =>
      rw [Resolver.round]
      split
      · exact ⟨rfl, rfl, rfl⟩
      · rename_i some
        obtain ⟨asks, failed⟩ := ends.resolve_left fun empty => some (by simp [empty])
        obtain ⟨resolves, known⟩ := (asks_iff_passes resolver.key resolver.buffer bytes).mp asks
        rw [Resolver.handle, if_pos resolves, if_pos known, if_pos failed]
        exact ⟨rfl, rfl, rfl⟩

/-- Any other reception is answered if it asks, and the task goes on with its key and its socket.
-/
theorem round_goes (goes : ¬ reception.Ends resolver.key)
    : (resolver.round reception).receiving = resolver.receiving
      ∧ (resolver.round reception).socketOpen = resolver.socketOpen
      ∧ (resolver.round reception).key = resolver.key
      ∧ (resolver.round reception).answers
        = resolver.answers ++ (reception.answer? resolver.key).toList := by
  cases reception with
  | error status failed => exact absurd trivial goes
  | datagram bytes sender sendResult =>
      obtain ⟨some, sent⟩ := not_or.mp goes
      have passes := asks_iff_passes resolver.key resolver.buffer bytes
      have received : ¬ (bytes.take resolvePacketSize).length ≤ 0 := by
        have positive := List.length_pos_iff.mpr some
        rw [List.length_take, resolvePacketSize, headerSize, keySize, portSize]
        omega
      rw [Resolver.round, if_neg received, Resolver.handle, Reception.answer?]
      by_cases asks : Asks resolver.key bytes
      · obtain ⟨resolves, known⟩ := passes.mp asks
        have accepted : ¬ sendResult < 0 := fun failed => sent ⟨asks, failed⟩
        have full : (bytes.take resolvePacketSize).length = resolvePacketSize := by
          rw [List.length_take]
          exact Nat.min_eq_left asks.long
        have port := getPort_stored resolver.buffer full
        rw [List.drop_take, List.take_take] at port
        rw [if_pos resolves, if_pos known, if_neg accepted, if_pos ⟨asks, Int.not_lt.mp accepted⟩]
        dsimp only
        rw [port]
        exact ⟨rfl, rfl, rfl, rfl⟩
      · rw [if_neg fun both : Asks resolver.key bytes ∧ 0 ≤ sendResult => asks both.1]
        split
        · rename_i resolves
          split
          · rename_i known
            exact absurd (passes.mpr ⟨resolves, known⟩) asks
          · exact ⟨rfl, rfl, rfl, (List.append_nil _).symm⟩
        · exact ⟨rfl, rfl, rfl, (List.append_nil _).symm⟩

end Rounds

/-- The receive loop answers what it serves and ends with the first reception that ends it, by
induction on the receptions.
-/
theorem run_serves {resolver : Resolver} (receiving : resolver.receiving = true)
    (opened : resolver.socketOpen = true) (receptions : List Reception)
    : let after := resolver.run receptions
      after.answers
        = resolver.answers
          ++ (served resolver.key receptions).filterMap (Reception.answer? resolver.key)
      ∧ (after.receiving = true ↔ ∀ reception ∈ receptions, ¬ reception.Ends resolver.key)
      ∧ after.socketOpen = after.receiving := by
  induction receptions generalizing resolver with
  | nil =>
      refine ⟨(List.append_nil _).symm, iff_of_true receiving (fun _ h => by cases h), ?_⟩
      exact opened.trans receiving.symm
  | cons reception receptions ih =>
      dsimp only
      rw [Resolver.run, if_pos receiving, served, List.takeWhile_cons, List.forall_mem_cons]
      by_cases ends : reception.Ends resolver.key
      · obtain ⟨left, closed, same⟩ := round_ends ends
        rw [run_stopped left, if_neg (by simpa using ends), same]
        refine ⟨(List.append_nil _).symm, iff_of_false ?_ fun all => all.1 ends, ?_⟩
        · rw [left]
          decide
        · exact closed.trans left.symm
      · obtain ⟨stays, kept, key, answers⟩ := round_goes ends
        obtain ⟨all, goes, open'⟩ := ih (stays.trans receiving) (kept.trans opened)
        rw [key] at all goes
        refine ⟨?_, ?_, open'⟩
        · rw [all, answers, if_pos (by simpa using ends), List.append_assoc]
          cases answered : reception.answer? resolver.key with
          | none => rw [List.filterMap_cons_none answered]; rfl
          | some answer => rw [List.filterMap_cons_some answered]; rfl
        · rw [goes]
          exact (and_iff_right ends).symm

/-- Whatever its key is, whatever it receives and whatever fails: the resolver answers each
reception before the first one that ends it which asks with the key, in order and to the port that
the datagram names, and nothing else. It keeps receiving, with its socket open, exactly if it came
to its loop and no reception ended it.
-/
theorem udpResolverTask_serves (key buffer : Cells UInt8) (socketResult bindResult : Int)
    (receptions : List Reception)
    : let begins := 0 ≤ socketResult ∧ 0 ≤ bindResult
      let after := udpResolverTask key buffer socketResult bindResult receptions
      after.answers
        = (if begins then served key receptions else []).filterMap (Reception.answer? key)
      ∧ (after.receiving = true
          ↔ begins ∧ ∀ reception ∈ receptions, ¬ reception.Ends key)
      ∧ after.socketOpen = after.receiving := by
  intro begins
  rw [udpResolverTask]
  by_cases created : 0 ≤ socketResult
  · rw [if_neg (Int.not_lt.mpr created)]
    by_cases bound : 0 ≤ bindResult
    · rw [if_neg (Int.not_lt.mpr bound), if_pos (⟨created, bound⟩ : begins)]
      let start : Resolver := ⟨key, buffer, true, true, []⟩
      have opened : start.socketOpen = true := rfl
      obtain ⟨answers, goes, kept⟩ := run_serves (rfl : start.receiving = true) opened receptions
      refine ⟨answers, ?_, kept⟩
      rw [goes]
      exact (and_iff_right ⟨created, bound⟩).symm
    · rw [if_pos (Int.not_le.mp bound), if_neg fun both : begins => bound both.2]
      exact ⟨rfl, iff_of_false Bool.false_ne_true fun both => bound both.1.2, rfl⟩
  · rw [if_pos (Int.not_le.mp created), if_neg fun both : begins => created both.1]
    exact ⟨rfl, iff_of_false Bool.false_ne_true fun both => created both.1.1, rfl⟩

/-- A device with the key "a" answers whatever stands behind the NUL of the datagram's key. -/
example
    : (udpResolverTask (Cells.store (fun _ => 0) 0 [0x61]) (fun _ => 0) 1 0
        [.datagram [headerByte] ⟨1, 7⟩ 1,
          .datagram ([headerByte, 0x61, 0] ++ List.replicate 30 9 ++ [0, 0, 4, 0]) ⟨2, 7⟩ 1,
          .error (-1) (by decide)]).answers
      = [⟨[answerByte], ⟨2, 1024⟩⟩] := by
  decide

end BigBlackHardware.UdpResolver
