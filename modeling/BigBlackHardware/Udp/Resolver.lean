import BigBlackHardware.Library.Cells
import Mathlib.Algebra.Order.Ring.Nat

/-! The UDP resolver of `udp_resolver.c`: a task that answers clients who know the device's key. -/

namespace BigBlackHardware.UdpResolver

open Library

def headerOffset : Nat := 0
def headerSize : Nat := 1
def headerByte : UInt8 := 0xAD

def keyOffset : Nat := headerOffset + headerSize
def keySize : Nat := 32

def portOffset : Nat := keyOffset + keySize
def portSize : Nat := 4

def resolvePacketSize : Nat := headerSize + keySize + portSize
def answerByte : UInt8 := 0xFF

/-- `sockaddr_in`, with the port as a number. -/
structure SockAddr where
  addr : UInt32
  port : UInt16
  deriving DecidableEq

/-- What a call of `recvfrom` brings. -/
inductive Reception where
  /-- A datagram, with the result of `sendto` if it is answered. -/
  | datagram (bytes : List UInt8) (sender : SockAddr) (sendResult : Int)
  /-- A result that ends the loop: an error, or no bytes. -/
  | error (status : Int) (failed : status ≤ 0)

/-- A datagram that `sendto` has sent. -/
structure Answer where
  bytes : List UInt8
  receiver : SockAddr
  deriving DecidableEq

/-- The resolver task and its socket. -/
structure Resolver where
  /-- The string `cfg->key`, with what lies behind it. -/
  key : Cells UInt8
  buffer : Cells UInt8
  /-- The task is in its receive loop. -/
  receiving : Bool
  socketOpen : Bool
  answers : List Answer

/-- `check_for_resolve`. -/
def checkForResolve (buf : Cells UInt8) (size : UInt16) : Bool :=
  if size ≠ resolvePacketSize.toUInt16 ∨ buf headerOffset ≠ headerByte then false else true

/-- `strncmp(left, right, n) == 0` on two strings that begin at a cell. -/
def strncmpEqual (left right : Cells UInt8) (l r : Nat) : Nat → Bool
  | 0 => true
  | n + 1 =>
      if left l ≠ right r then false
      else if left l = 0 then true
      else strncmpEqual left right (l + 1) (r + 1) n

/-- `cmp_keys`. -/
def cmpKeys (buf key : Cells UInt8) : Bool := strncmpEqual buf key keyOffset 0 keySize

/-- `get_port`. -/
def getPort (buf : Cells UInt8) : UInt32 :=
  (List.range portSize).foldl
    (fun port i =>
      port ||| (((buf (portOffset + i)).toUInt32 &&& 0xFF)
        <<< ((portSize - i - 1) * 8).toUInt32))
    0

/-- The exit of the task: it closes its socket. -/
def Resolver.errExit (resolver : Resolver) : Resolver :=
  { resolver with receiving := false, socketOpen := false }

/-- What the task does with `status` bytes in its buffer from a sender. -/
def Resolver.handle (resolver : Resolver) (status : Nat) (sender : SockAddr) (sendResult : Int)
    : Resolver :=
  if checkForResolve resolver.buffer status.toUInt16 then
    if cmpKeys resolver.buffer resolver.key then
      let rmtAddr := { sender with port := (getPort resolver.buffer).toUInt16 }
      if sendResult < 0 then resolver.errExit
      else { resolver with answers := resolver.answers ++ [⟨[answerByte], rmtAddr⟩] }
    else resolver
  else resolver

/-- One round of the receive loop. What does not fit into the buffer is dropped. -/
def Resolver.round (resolver : Resolver) : Reception → Resolver
  | .error _ _ => resolver.errExit
  | .datagram bytes sender sendResult =>
      let block := bytes.take resolvePacketSize
      let resolver := { resolver with buffer := resolver.buffer.store 0 block }
      -- an empty datagram leaves the loop like an error
      if block.length ≤ 0 then resolver.errExit
      else resolver.handle block.length sender sendResult

/-- The receive loop of `udp_resolver_task`; a task that has left it receives nothing more. -/
def Resolver.run : Resolver → List Reception → Resolver
  | resolver, [] => resolver
  | resolver, reception :: receptions =>
      if resolver.receiving then (resolver.round reception).run receptions else resolver

/-- `udp_resolver_task`, with the results of `socket` and `bind`. -/
def udpResolverTask (key buffer : Cells UInt8) (socketResult bindResult : Int)
    (receptions : List Reception)
    : Resolver :=
  let resolver : Resolver := ⟨key, buffer, true, true, []⟩
  if socketResult < 0 then { resolver with receiving := false, socketOpen := false }
  else if bindResult < 0 then resolver.errExit
  else resolver.run receptions

/-- A datagram that a client who knows the key sends. -/
structure Matching (key : Cells UInt8) (bytes : List UInt8) : Prop where
  length : bytes.length = resolvePacketSize
  header : bytes[headerOffset]? = some headerByte
  key : ∀ i < keySize, bytes[keyOffset + i]? = some (key i)

/-- A datagram for which `sendto` succeeds if it is called. -/
structure Delivery where
  bytes : List UInt8
  sender : SockAddr
  sendResult : Int
  sent : 0 ≤ sendResult

def Delivery.reception (delivery : Delivery) : Reception :=
  .datagram delivery.bytes delivery.sender delivery.sendResult

/-- The resolver is still in its receive loop with its socket open, and would answer the next
datagram that matches.
-/
structure Survives (resolver : Resolver) : Prop where
  receiving : resolver.receiving = true
  socketOpen : resolver.socketOpen = true
  answers
    : ∀ delivery : Delivery,
        Matching resolver.key delivery.bytes →
        ∃ receiver,
          receiver.addr = delivery.sender.addr
          ∧ (resolver.round delivery.reception).answers
            = resolver.answers ++ [⟨[answerByte], receiver⟩]

/-- Strings with equal characters compare as equal, by induction on their number. -/
theorem strncmpEqual_of_eq {left right : Cells UInt8} {l r n : Nat}
    (same : ∀ i < n, left (l + i) = right (r + i)) : strncmpEqual left right l r n = true := by
  induction n generalizing l r with
  | zero => rfl
  | succ n ih =>
      have first : left l = right r := same 0 (Nat.succ_pos n)
      rw [strncmpEqual, if_neg (not_not.mpr first)]
      split
      · rfl
      · apply ih
        intro i inside
        have next := same (i + 1) (by omega)
        rwa [Nat.add_right_comm, Nat.add_right_comm r]

section Rounds

variable {key : Cells UInt8} {bytes : List UInt8}

/-- A cell of the buffer that a matching datagram covers holds its byte. -/
theorem Matching.stored (matching : Matching key bytes) (buffer : Cells UInt8) {i : Nat}
    {byte : UInt8} (found : bytes[i]? = some byte)
    : buffer.store 0 (bytes.take resolvePacketSize) i = byte := by
  obtain ⟨inside, same⟩ := List.getElem?_eq_some_iff.mp found
  rw [List.take_of_length_le (Nat.le_of_eq matching.length),
    buffer.store_inside (Nat.zero_le i) (by simpa using inside)]
  simpa using same

/-- A matching datagram passes both checks, whatever the buffer held before. -/
theorem Matching.passes (matching : Matching key bytes) (buffer : Cells UInt8)
    : let block := bytes.take resolvePacketSize
      checkForResolve (buffer.store 0 block) block.length.toUInt16 = true
        ∧ cmpKeys (buffer.store 0 block) key = true := by
  have header : buffer.store 0 (bytes.take resolvePacketSize) headerOffset = headerByte :=
    matching.stored buffer matching.header
  have size : (bytes.take resolvePacketSize).length = resolvePacketSize := by
    rw [List.length_take, matching.length, Nat.min_self]
  constructor
  · rw [checkForResolve, if_neg]
    rintro (other | other)
    · exact other (by rw [size])
    · exact other header
  · refine strncmpEqual_of_eq fun i inside => ?_
    rw [matching.stored buffer (matching.key i inside), Nat.zero_add]

/-- A matching datagram is answered to its sender. -/
theorem round_matching (resolver : Resolver) {delivery : Delivery}
    (matching : Matching resolver.key delivery.bytes)
    : ∃ receiver,
        receiver.addr = delivery.sender.addr
        ∧ (resolver.round delivery.reception).answers
          = resolver.answers ++ [⟨[answerByte], receiver⟩] := by
  obtain ⟨resolves, known⟩ := matching.passes resolver.buffer
  have received : ¬ (delivery.bytes.take resolvePacketSize).length ≤ 0 := by
    rw [List.length_take, matching.length]
    decide
  have sent : ¬ delivery.sendResult < 0 := Int.not_lt.mpr delivery.sent
  let stored := resolver.buffer.store 0 (delivery.bytes.take resolvePacketSize)
  refine ⟨⟨delivery.sender.addr, (getPort stored).toUInt16⟩, rfl, ?_⟩
  rw [Delivery.reception, Resolver.round, if_neg received, Resolver.handle, if_pos resolves,
    if_pos known, if_neg sent]

/-- After any datagram that is not empty the task is where it was. -/
theorem round_receives (resolver : Resolver) {delivery : Delivery} (some : delivery.bytes ≠ [])
    : (resolver.round delivery.reception).receiving = resolver.receiving
      ∧ (resolver.round delivery.reception).socketOpen = resolver.socketOpen := by
  have received : ¬ (delivery.bytes.take resolvePacketSize).length ≤ 0 := by
    have positive := List.length_pos_iff.mpr some
    rw [List.length_take, resolvePacketSize, headerSize, keySize, portSize]
    omega
  have sent : ¬ delivery.sendResult < 0 := Int.not_lt.mpr delivery.sent
  rw [Delivery.reception, Resolver.round, if_neg received, Resolver.handle]
  dsimp only
  rw [if_neg sent]
  split
  · split <;> exact ⟨rfl, rfl⟩
  · exact ⟨rfl, rfl⟩

/-- An empty datagram makes the task leave its loop. -/
theorem round_exits (resolver : Resolver) {delivery : Delivery} (empty : delivery.bytes = [])
    : (resolver.round delivery.reception).receiving = false := by
  rw [Delivery.reception, Resolver.round, empty]
  rfl

/-- A task that has left its loop does not come back. -/
theorem run_stopped {resolver : Resolver} (stopped : resolver.receiving = false)
    (receptions : List Reception) : resolver.run receptions = resolver := by
  cases receptions with
  | nil => rfl
  | cons reception receptions => rw [Resolver.run, stopped]; rfl

end Rounds

/-- A task in its loop survives datagrams exactly if none of them is empty, by induction on them. -/
theorem run_survives_iff {resolver : Resolver} (receiving : resolver.receiving = true)
    (socketOpen : resolver.socketOpen = true) (deliveries : List Delivery)
    : Survives (resolver.run (deliveries.map Delivery.reception))
      ↔ ∀ delivery ∈ deliveries, delivery.bytes ≠ [] := by
  induction deliveries generalizing resolver with
  | nil =>
      refine iff_of_true ⟨receiving, socketOpen, fun delivery => ?_⟩ (fun _ h => by cases h)
      exact round_matching resolver
  | cons delivery deliveries ih =>
      rw [List.map_cons, Resolver.run, if_pos receiving, List.forall_mem_cons]
      by_cases empty : delivery.bytes = []
      · refine iff_of_false (fun survives => ?_) (fun all => all.1 empty)
        have exited := round_exits resolver empty
        have stopped := survives.receiving
        rw [run_stopped exited, exited] at stopped
        cases stopped
      · obtain ⟨stays, opened⟩ := round_receives resolver empty
        rw [ih (stays.trans receiving) (opened.trans socketOpen)]
        exact (and_iff_right empty).symm

/-- Once its socket is created and bound, the task survives a sequence of datagrams exactly if none
of them is empty.
-/
theorem udpResolverTask_survives_iff (key buffer : Cells UInt8) (socketResult bindResult : Int)
    (created : 0 ≤ socketResult) (bound : 0 ≤ bindResult) (deliveries : List Delivery)
    : Survives (udpResolverTask key buffer socketResult bindResult
        (deliveries.map Delivery.reception))
      ↔ ∀ delivery ∈ deliveries, delivery.bytes ≠ [] := by
  rw [udpResolverTask, if_neg (Int.not_lt.mpr created), if_neg (Int.not_lt.mpr bound)]
  exact run_survives_iff rfl rfl deliveries

/-- One byte that is no request does no harm. -/
theorem udpResolverTask_survives_byte
    : Survives (udpResolverTask (fun _ => 0) (fun _ => 0) 1 0
        ([⟨[0], ⟨0, 0⟩, 1, by decide⟩].map Delivery.reception)) :=
  (udpResolverTask_survives_iff (fun _ => 0) (fun _ => 0) 1 0 (by decide) (by decide)
    [⟨[0], ⟨0, 0⟩, 1, by decide⟩]).mpr
    (by
      intro delivery member
      rw [List.mem_singleton.mp member]
      exact List.cons_ne_nil _ _)

/-- An empty datagram ends the task. -/
theorem udpResolverTask_exits
    : ¬ Survives (udpResolverTask (fun _ => 0) (fun _ => 0) 1 0
        ([⟨[], ⟨0, 0⟩, 1, by decide⟩].map Delivery.reception)) := by
  intro survives
  cases survives.receiving

end BigBlackHardware.UdpResolver
