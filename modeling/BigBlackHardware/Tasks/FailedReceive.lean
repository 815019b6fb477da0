import Mathlib.Data.List.Chain
import BigBlackHardware.Tasks.Trace
import BigBlackHardware.Transport.Receipts

/-! Receives that fail, and what the handling task does with the packet object then. -/

namespace BigBlackHardware

open Library

/-- `recv_packet` read a complete header, which `parse_header` accepted, and the complete body. -/
def ReceivedPacket.Whole (received : ReceivedPacket) (object : Packet) : Prop :=
  (received.headerPieces.map List.length).sum = plPacketHeaderSize
  ∧ (parseHeader received.packet.rawHeader object.header).1 = packetSuccess
  ∧ (received.bodyPieces.map List.length).sum = received.packet.header.dataSize.toNat

instance (received : ReceivedPacket) (object : Packet) : Decidable (received.Whole object) :=
  inferInstanceAs (Decidable (_ ∧ _ ∧ _))

/-- The stream and the results offered to `recv` bring a packet: the counts for the header add up
to its five bytes, it is accepted, and the counts for the body add up to the size it states.
-/
def FrameArrives (sock : Socket) (object : Packet) : Prop :=
  let size := headerSize (receivedHeader sock object)
  (headerReceipt sock).counts.sum = plPacketHeaderSize
  ∧ HeaderAccepted sock object
  ∧ (bodyReceipt sock size).counts.sum = size

/-- The pieces that are cut off the stream have the lengths that the receipt counts. -/
theorem receipt_pieces (missing : Nat) (results : List Int) (inbox : List UInt8)
    : ((cut (receipt missing inbox.length results).counts inbox).map List.length).sum
      = (receipt missing inbox.length results).counts.sum := by
  have bound := receipt_sum_le missing inbox.length results
  rw [map_length_cut _ _ (by omega)]

/-- A whole packet is read exactly if one arrives. -/
theorem recvPacket_whole_iff (sock : Socket) (object : Packet)
    : (recvPacket sock object).Whole object ↔ FrameArrives sock object := by
  have header : ((cut (headerReceipt sock).counts sock.inbox).map List.length).sum
      = (headerReceipt sock).counts.sum :=
    receipt_pieces plPacketHeaderSize sock.recvResults sock.inbox
  have complete (sum : (headerReceipt sock).counts.sum = plPacketHeaderSize) : HeaderEnds sock :=
    ⟨success, receipt_status_of_sum sum, Int.le_refl 0⟩
  by_cases ends : HeaderEnds sock
  · by_cases accepted : HeaderAccepted sock object
    · have size := (parseHeader_dataSize accepted).1
      have length : (bodyInbox sock).length
          = sock.inbox.length - (headerReceipt sock).counts.sum := by
        rw [bodyInbox, List.length_drop]
      have body (n : Nat) : ((cut (bodyReceipt sock n).counts (bodyInbox sock)).map List.length).sum
          = (bodyReceipt sock n).counts.sum := by
        rw [bodyReceipt, ← length]
        exact receipt_pieces n _ _
      rw [recvPacket_accepted ends accepted, ReceivedPacket.Whole, FrameArrives]
      dsimp only
      rw [size, header, body]
      rfl
    · rw [recvPacket_refused ends accepted]
      exact iff_of_false (fun whole => accepted whole.2.1) (fun arrives => accepted arrives.2.1)
  · rw [recvPacket_without_header object ends]
    refine iff_of_false (fun whole => ends (complete ?_)) (fun arrives => ends (complete arrives.1))
    exact header.symm.trans whole.1

/-- The packet object that an event acts on. -/
def TaskEvent.acted : TaskEvent → Option Nat
  | .received _ _ _ => none
  | .handed packet _ => some packet
  | .closing packet => some packet

def TaskEvent.isAction (event : TaskEvent) : Bool := event.acted.isSome

/-- The event is a receive of a whole packet. -/
def TaskEvent.isFrame : TaskEvent → Bool
  | .received _ sock object => decide ((recvPacket sock object).Whole object)
  | _ => false

/-- If the second event is an action, the first is a receive of a whole packet into the same packet
object.
-/
def FollowsFrame (before after : TaskEvent) : Prop :=
  ∀ packet, after.acted = some packet →
    ∃ sock object,
      before = .received packet sock object ∧ (recvPacket sock object).Whole object

/-- Each action comes directly after a receive of a whole packet into the same packet object. -/
structure ActsOnFrames (events : List TaskEvent) : Prop where
  first : ∀ event ∈ events.head?, event.acted = none
  next : events.IsChain FollowsFrame

/-- No action on a failed receive: each action comes after a receive of a whole packet, so that
there are no more actions than such receives.
-/
structure NoActionOnFailure (events : List TaskEvent) : Prop where
  acts : ActsOnFrames events
  bounded : events.countP TaskEvent.isAction ≤ events.countP TaskEvent.isFrame

/-- If the event is a receive that does not wait forever, a packet arrives. -/
def TaskEvent.Arrives : TaskEvent → Prop
  | .received _ sock object => WaitsForever sock object ∨ FrameArrives sock object
  | _ => True

theorem followsFrame_received (before : TaskEvent) (packet : Nat) (sock : Socket) (object : Packet)
    : FollowsFrame before (.received packet sock object) := by
  intro other acted
  cases acted

/-- A receive at the end of a trace changes nothing. -/
theorem actsOnFrames_received (events : List TaskEvent) (packet : Nat) (sock : Socket)
    (object : Packet)
    : ActsOnFrames (events ++ [.received packet sock object]) ↔ ActsOnFrames events := by
  constructor
  · rintro ⟨first, next⟩
    refine ⟨fun event member => first event ?_, (List.isChain_append.mp next).1⟩
    rw [Option.mem_def] at member ⊢
    rw [List.head?_append, member]
    rfl
  · rintro ⟨first, next⟩
    refine ⟨fun event member => ?_, List.isChain_append.mpr ⟨next, .singleton _, ?_⟩⟩
    · cases events with
      | nil =>
          cases member
          rfl
      | cons head rest => exact first event member
    · intro before _ after member
      cases member
      exact followsFrame_received before packet sock object

/-- An action right after a receive relies on what was received. -/
theorem actsOnFrames_acted (events : List TaskEvent) (packet : Nat) (sock : Socket)
    (object : Packet) {action : TaskEvent} (acted : action.acted = some packet)
    : ActsOnFrames (events ++ [.received packet sock object] ++ [action])
      ↔ ActsOnFrames (events ++ [.received packet sock object])
        ∧ (recvPacket sock object).Whole object := by
  rw [List.append_assoc, List.singleton_append]
  constructor
  · rintro ⟨first, next⟩
    obtain ⟨earlier, follows, -⟩ := List.isChain_append_cons_cons.mp next
    obtain ⟨_, _, received, whole⟩ := follows packet acted
    cases received
    refine ⟨⟨fun event member => first event ?_, earlier⟩, whole⟩
    cases events <;> exact member
  · rintro ⟨⟨first, next⟩, whole⟩
    refine ⟨fun event member => first event ?_,
      List.isChain_append_cons_cons.mpr ⟨next, ?_, .singleton _⟩⟩
    · cases events <;> exact member
    · intro other same
      cases acted.symm.trans same
      exact ⟨sock, object, rfl, whole⟩

theorem actionFor_acted (packet : Nat) (type : UInt8)
    : (actionFor packet type).acted = some packet := by
  rw [actionFor]
  split <;> rfl

theorem actionFor_isAction (packet : Nat) (type : UInt8)
    : (actionFor packet type).isAction = true := by
  rw [TaskEvent.isAction, actionFor_acted]
  rfl

theorem received_isAction (packet : Nat) (sock : Socket) (object : Packet)
    : (TaskEvent.received packet sock object).isAction = false := rfl

theorem actionFor_arrives (packet : Nat) (type : UInt8) : (actionFor packet type).Arrives := by
  rw [actionFor]
  split <;> exact trivial

/-- A receive that ends has a packet arriving exactly if it reads a whole one. -/
theorem received_arrives_iff {packet : Nat} {sock : Socket} {object : Packet}
    (ends : (recvPacket sock object).status ≠ none)
    : (TaskEvent.received packet sock object).Arrives ↔ (recvPacket sock object).Whole object := by
  rw [TaskEvent.Arrives, recvPacket_whole_iff]
  exact or_iff_right (mt (recvPacket_waits_iff sock object).mpr ends)

/-- In a paired trace the actions follow whole packets exactly if each receive that ends has one
arriving, by induction on the pairs.
-/
theorem Paired.actsOnFrames_iff {events : List TaskEvent} (paired : Paired events)
    : ActsOnFrames events ↔ ∀ event ∈ events, event.Arrives := by
  induction paired with
  | nil => exact iff_of_true ⟨fun _ h => (by cases h), .nil⟩ (fun _ h => by cases h)
  | waiting before packet sock object waits ih =>
      have arrives : (TaskEvent.received packet sock object).Arrives :=
        Or.inl ((recvPacket_waits_iff sock object).mp waits)
      rw [actsOnFrames_received, ih, List.forall_mem_append, List.forall_mem_singleton]
      exact (and_iff_left arrives).symm
  | acted before packet sock object ends ih =>
      have last := actionFor_arrives packet (recvPacket sock object).packet.header.type
      rw [actsOnFrames_acted _ _ _ _ (actionFor_acted packet _), actsOnFrames_received, ih,
        List.forall_mem_append, List.forall_mem_append, List.forall_mem_singleton,
        List.forall_mem_singleton, received_arrives_iff ends, and_iff_left last]

/-- In such a trace there are no more actions than receives of whole packets. -/
theorem Paired.bounded {events : List TaskEvent} (paired : Paired events)
    (arrives : ∀ event ∈ events, event.Arrives)
    : events.countP TaskEvent.isAction ≤ events.countP TaskEvent.isFrame := by
  induction paired with
  | nil => exact Nat.le_refl 0
  | waiting before packet sock object waits ih =>
      have earlier := ih fun event member => arrives event (List.mem_append_left _ member)
      simp only [List.countP_append, List.countP_singleton, received_isAction,
        Bool.false_eq_true, ↓reduceIte]
      omega
  | acted before packet sock object ends ih =>
      rw [List.forall_mem_append, List.forall_mem_append, List.forall_mem_singleton,
        received_arrives_iff ends] at arrives
      have earlier := ih arrives.1.1
      have frame : (TaskEvent.received packet sock object).isFrame = true :=
        decide_eq_true arrives.1.2
      simp only [List.countP_append, List.countP_singleton, frame, actionFor_isAction,
        received_isAction, Bool.false_eq_true, ↓reduceIte]
      omega

/-- Whatever arrives and however the tasks are scheduled: the handling task takes no action on a
failed receive exactly if no receive of its run fails.
-/
theorem vHandlingTask_noActionOnFailure_iff (station : Station) (selections : List Selection)
    : let events := (final (vHandlingTask selections (packetHandlerStart station))).trace
      NoActionOnFailure events ↔ ∀ event ∈ events, event.Arrives := by
  have paired := vHandlingTask_paired station selections
  constructor
  · exact fun good => paired.actsOnFrames_iff.mp good.acts
  · exact fun arrives => ⟨paired.actsOnFrames_iff.mpr arrives, paired.bounded arrives⟩

/-- A client that closes the connection without sending anything. -/
def closedByPeer : Socket := ⟨[], [0], [], [], []⟩

/-- The closed connection is handled like a received packet: the first packet object goes to
`process_packet` although nothing was received into it.
-/
theorem vHandlingTask_acts_on_closed
    : ¬ NoActionOnFailure
          (final (vHandlingTask [⟨1, fun _ => true⟩]
            (packetHandlerStart (oneClient closedByPeer)))).trace := by
  intro good
  have counts := good.bounded
  revert counts
  decide +kernel

end BigBlackHardware
