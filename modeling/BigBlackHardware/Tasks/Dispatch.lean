import BigBlackHardware.Tasks.Trace
import BigBlackHardware.Transport.Receipts

/-! The types with which the handling task calls `process_packet`, and the entries of
`packet_handlers` that they select.
-/

namespace BigBlackHardware

open Library

/-- The packet types that have a handler. -/
def servedTypes : List PacketType :=
  [.programmerInitPacket, .programmerStopPacket, .uartInitPacket, .uartStopPacket, .resetPacket,
    .enableEncryptionPacket, .enableSignPacket, .loadMcuInfoPacket, .programMemoryPacket,
    .readMemoryPacket, .cmdPacket]

/-- The type is below `PacketsNumber` and selects a handler. -/
def Served (type : UInt8) : Prop := type < packetsNumber ∧ (handlerAt type).isSome = true

instance (type : UInt8) : Decidable (Served type) := inferInstanceAs (Decidable (_ ∧ _))

/-- Exactly the served types select a handler, by the table. -/
theorem served_iff (type : UInt8) : Served type ↔ ∃ known ∈ servedTypes, type = known.val := by
  constructor
  · rintro ⟨-, served⟩
    rw [handlerAt] at served
    cases found : PacketType.all.find? (fun known => known.val = type) with
    | none => rw [found] at served; cases served
    | some known =>
        rw [found, Option.bind_some] at served
        have same : known.val = type := by simpa using List.find?_some found
        refine ⟨known, ?_, same.symm⟩
        cases known <;> first | decide | cases served
  · rintro ⟨known, member, rfl⟩
    revert member
    cases known <;> decide

/-- The type that the packet object has after a receive: the one that the tables give for the type
byte of an accepted header, or the one that it had before.
-/
theorem recvPacket_type (sock : Socket) (object : Packet)
    : HeaderEnds sock ∧ HeaderAccepted sock object
        ∧ (recvPacket sock object).packet.header.type
          = decodedType (receivedHeader sock object 2)
      ∨ ¬ (HeaderEnds sock ∧ HeaderAccepted sock object)
        ∧ (recvPacket sock object).packet.header.type = object.header.type := by
  by_cases ends : HeaderEnds sock
  · by_cases accepted : HeaderAccepted sock object
    · have known := (parseHeader_success_iff _ _).mp accepted
      refine Or.inl ⟨ends, accepted, ?_⟩
      rw [recvPacket_accepted ends accepted]
      dsimp only
      rw [parseHeader_accepts known]
      rfl
    · refine Or.inr ⟨fun h => accepted h.2, ?_⟩
      have left := (parseHeader_refuses
        (mt (parseHeader_success_iff (receivedHeader sock object) object.header).mpr accepted)
        object.header).2
      rw [recvPacket_refused ends accepted]
      dsimp only
      rw [left]
  · refine Or.inr ⟨fun h => ends h.1, ?_⟩
    rw [recvPacket_without_header object ends]

/-- The types after which the task does not call `process_packet` through a missing entry. -/
def handledTypes : List PacketType := .closeConnectionPacket :: servedTypes

theorem handledTypes_served {type : PacketType} (member : type ∈ handledTypes)
    : type.group ≠ .uartGroup := by
  revert member
  cases type <;> decide

/-- If the event is a call of `process_packet`, then with a served type. -/
def TaskEvent.Dispatches : TaskEvent → Prop
  | .handed _ type => Served type
  | _ => True

instance (event : TaskEvent) : Decidable event.Dispatches :=
  match event with
  | .handed _ type => inferInstanceAs (Decidable (Served type))
  | .received _ _ _ => .isTrue trivial
  | .closing _ => .isTrue trivial

/-- If the event is a receive that does not wait forever, it brings an accepted header of a handled
type, or it brings none and the packet object has a handled type from before.
-/
def TaskEvent.BringsHandled : TaskEvent → Prop
  | .received _ sock object =>
      WaitsForever sock object
      ∨ HeaderEnds sock ∧ HeaderAccepted sock object
        ∧ (∃ type ∈ handledTypes, receivedHeader sock object 2 = type.wireByte)
      ∨ ¬ (HeaderEnds sock ∧ HeaderAccepted sock object)
        ∧ ∃ type ∈ handledTypes, object.header.type = type.val
  | _ => True

theorem mem_handledTypes_iff {type : PacketType}
    : type ∈ handledTypes ↔ type = .closeConnectionPacket ∨ Served type.val := by
  rw [handledTypes, List.mem_cons, served_iff]
  refine or_congr_right ⟨fun member => ⟨type, member, rfl⟩, ?_⟩
  rintro ⟨known, member, same⟩
  rwa [PacketType.val_injective same]

/-- The action for a type dispatches exactly if the type is handled. -/
theorem actionFor_dispatches_iff (packet : Nat) (type : UInt8)
    : (actionFor packet type).Dispatches ↔ ∃ known ∈ handledTypes, type = known.val := by
  rw [actionFor]
  split
  · rename_i close
    exact iff_of_true trivial ⟨.closeConnectionPacket, List.mem_cons_self, close⟩
  · rename_i other
    rw [TaskEvent.Dispatches]
    constructor
    · intro served
      obtain ⟨known, member, same⟩ := (served_iff type).mp served
      exact ⟨known, List.mem_cons_of_mem _ member, same⟩
    · rintro ⟨known, member, rfl⟩
      rcases mem_handledTypes_iff.mp member with rfl | served
      · exact absurd rfl other
      · exact served

/-- The action after a receive that ended dispatches exactly if the receive brought, or left, a
handled type.
-/
theorem dispatches_iff_bringsHandled (packet : Nat) {sock : Socket} {object : Packet}
    (ends : (recvPacket sock object).status ≠ none)
    : (actionFor packet (recvPacket sock object).packet.header.type).Dispatches
      ↔ (TaskEvent.received packet sock object).BringsHandled := by
  have goes : ¬ WaitsForever sock object := mt (recvPacket_waits_iff sock object).mpr ends
  rw [actionFor_dispatches_iff, TaskEvent.BringsHandled, or_iff_right goes]
  rcases recvPacket_type sock object with ⟨header, accepted, same⟩ | ⟨none, same⟩
  · rw [same]
    constructor
    · rintro ⟨known, member, equal⟩
      exact Or.inl ⟨header, accepted, known, member, (PacketType.of_decodedType equal).1⟩
    · rintro (⟨-, -, known, member, byte⟩ | ⟨none, -⟩)
      · refine ⟨known, member, ?_⟩
        rw [(PacketType.decodedType_eq byte).2, if_neg (handledTypes_served member)]
      · exact absurd ⟨header, accepted⟩ none
  · rw [same]
    constructor
    · exact fun handled => Or.inr ⟨none, handled⟩
    · rintro (⟨header, accepted, -⟩ | ⟨-, handled⟩)
      · exact absurd ⟨header, accepted⟩ none
      · exact handled

/-- In a paired trace every dispatch is served exactly if every receive that ends brings, or
leaves, a handled type, by induction on the pairs.
-/
theorem Paired.dispatches_iff {events : List TaskEvent} (paired : Paired events)
    : (∀ event ∈ events, event.Dispatches) ↔ ∀ event ∈ events, event.BringsHandled := by
  have quiet (packet : Nat) (type : UInt8) : (actionFor packet type).BringsHandled := by
    rw [actionFor]
    split <;> exact trivial
  induction paired with
  | nil => exact iff_of_true (fun _ h => by cases h) (fun _ h => by cases h)
  | waiting before packet sock object waits ih =>
      have brings : (TaskEvent.received packet sock object).BringsHandled :=
        Or.inl ((recvPacket_waits_iff sock object).mp waits)
      have dispatches : (TaskEvent.received packet sock object).Dispatches := trivial
      simp only [List.forall_mem_append, List.forall_mem_singleton, and_iff_left brings,
        and_iff_left dispatches, ih]
  | acted before packet sock object ends ih =>
      have dispatches : (TaskEvent.received packet sock object).Dispatches := trivial
      simp only [List.forall_mem_append, List.forall_mem_singleton, and_iff_left dispatches,
        and_iff_left (quiet packet _), dispatches_iff_bringsHandled packet ends, ih]

/-- Whatever arrives and however the tasks are scheduled: all calls of `process_packet` are served
exactly if every receive of the run that ends brings, or leaves, a handled type.
-/
theorem vHandlingTask_dispatches_iff (station : Station) (selections : List Selection)
    : let events := (final (vHandlingTask selections (packetHandlerStart station))).trace
      (∀ event ∈ events, event.Dispatches) ↔ ∀ event ∈ events, event.BringsHandled :=
  (vHandlingTask_paired station selections).dispatches_iff

/-- A client that sends a Memory packet, which the decoder accepts. -/
def memoryClient : Socket := ⟨[plStartFrameByte, 0, plMemory, 0, 0], [5], [], [], []⟩

/-- Its packet is dispatched to an entry without a handler. -/
theorem vHandlingTask_dispatches_memory
    : ¬ ∀ event ∈ (final (vHandlingTask [⟨1, fun _ => true⟩]
            (packetHandlerStart (oneClient memoryClient)))).trace,
          event.Dispatches := by
  decide +kernel

end BigBlackHardware
