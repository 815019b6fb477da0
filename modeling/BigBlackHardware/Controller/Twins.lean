import BigBlackHardware.Controller.NewReplies
import BigBlackHardware.Library.TwoRuns
import BigBlackHardware.Transport.Sending

/-! Devices that differ in one packet object only, and there only behind the data that its header
states.
-/

namespace BigBlackHardware

open Library

/-- The packets have the same headers and carry the same bytes. -/
structure Packet.Alike (object other : Packet) : Prop where
  header : other.header = object.header
  rawHeader : other.rawHeader = object.rawHeader
  content : other.content = object.content

/-- The other desk differs in one packet object only, which is alike. -/
inductive Desk.Twin (packet : Nat) (desk : Desk) : Desk → Prop where
  | mk (object : Packet) (alike : (desk.packets packet).Alike object)
    : Desk.Twin packet desk (desk.setPacket packet object)

/-- The devices differ in one packet object only, which is alike. -/
structure Device.Twin (packet : Nat) (device other : Device) : Prop where
  rig : other.rig = device.rig
  desk : device.desk.Twin packet other.desk

/-- The packets that a desk has queued and another one before it had not, as they are transmitted:
the queue and the bytes.
-/
def queuedFrames (before after : Desk) : List (Nat × List UInt8) :=
  (after.messages.drop before.messages.length).map fun message =>
    (message.queue, (after.packets message.item).wire)

section Packets

variable {object other : Packet}

theorem Packet.Alike.wire (alike : object.Alike other) : other.wire = object.wire := by
  have content := alike.content
  rw [Packet.content, Packet.content] at content
  rw [Packet.wire, Packet.wire, alike.rawHeader, content]

/-- The updated raw header depends on the headers only. -/
theorem updatedHeader_congr (header : other.header = object.header)
    (rawHeader : other.rawHeader = object.rawHeader)
    : updatedHeader other = updatedHeader object := by
  funext i
  simp only [updatedHeader, header, rawHeader]

/-- Packets created with the same data are alike. -/
theorem Packet.Alike.created (alike : object.Alike other) (type : PacketType) (data : Cells UInt8)
    {dataLen : UInt16} (fits : dataLen.toNat ≤ plMaxDataLength.toNat)
    : (createPacket object type 0 0 0 (some data) dataLen).packet.Alike
        (createPacket other type 0 0 0 (some data) dataLen).packet := by
  have header
      : (other.withFields 0 0 0 dataLen).header = (object.withFields 0 0 0 dataLen).header := by
    simp only [Packet.withFields, alike.header]
  have stored (cells : Cells UInt8)
      : (cells.store 0 (data.load 0 dataLen.toNat)).load 0 dataLen.toNat
        = data.load 0 dataLen.toNat := by
    have kept := cells.load_store (data.load 0 dataLen.toNat)
    rwa [Cells.load_length] at kept
  rw [createPacket_accepts _ _ _ _ _ _ fits, createPacket_accepts _ _ _ _ _ _ fits]
  refine ⟨header, updatedHeader_congr header alike.rawHeader, ?_⟩
  exact (stored _).trans (stored _).symm

/-- Packets of which only the headers are updated are alike if the new size covers equal bytes. -/
theorem Packet.Alike.resized (alike : object.Alike other) {dataLen : UInt16}
    (covered : other.packetData.load 0 dataLen.toNat = object.packetData.load 0 dataLen.toNat)
    : ({ object.withFields 0 0 0 dataLen with
          rawHeader := updatedHeader (object.withFields 0 0 0 dataLen) } : Packet).Alike
        { other.withFields 0 0 0 dataLen with
          rawHeader := updatedHeader (other.withFields 0 0 0 dataLen) } := by
  have header
      : (other.withFields 0 0 0 dataLen).header = (object.withFields 0 0 0 dataLen).header := by
    simp only [Packet.withFields, alike.header]
  exact ⟨header, updatedHeader_congr header alike.rawHeader, covered⟩

end Packets

section Desks

variable {packet : Nat} {desk other : Desk}

/-- A second store of a packet object replaces the first one. -/
theorem setPacket_setPacket (desk : Desk) (packet : Nat) (first second : Packet)
    : (desk.setPacket packet first).setPacket packet second = desk.setPacket packet second := by
  simp only [Desk.setPacket, Desk.mk.injEq, and_self, and_true]
  funext i
  split <;> rfl

/-- Stores of different packet objects commute. -/
theorem setPacket_comm (desk : Desk) {packet address : Nat} (different : address ≠ packet)
    (first second : Packet)
    : (desk.setPacket packet first).setPacket address second
      = (desk.setPacket address second).setPacket packet first := by
  simp only [Desk.setPacket, Desk.mk.injEq, and_self, and_true]
  funext i
  by_cases here : i = address
  · rw [if_pos here, if_neg (by rw [here]; exact different), if_pos here]
  · rw [if_neg here, if_neg here]

/-- A packet object that is replaced in both desks leaves them twins, if it is replaced alike. -/
theorem Desk.Twin.set (twin : desk.Twin packet other) (address : Nat) (f : Packet → Packet)
    (alike : ∀ object other : Packet, object.Alike other → (f object).Alike (f other))
    : (desk.setPacket address (f (desk.packets address))).Twin packet
        (other.setPacket address (f (other.packets address))) := by
  obtain ⟨object, same⟩ := twin
  by_cases here : address = packet
  · subst here
    have mine : (desk.setPacket address object).packets address = object := if_pos rfl
    rw [mine, setPacket_setPacket]
    have twin : (desk.setPacket address (f (desk.packets address))).Twin address
        ((desk.setPacket address (f (desk.packets address))).setPacket address (f object)) := by
      refine Desk.Twin.mk (f object) ?_
      rw [show (desk.setPacket address _).packets address = _ from if_pos rfl]
      exact alike _ _ same
    rwa [setPacket_setPacket] at twin
  · have mine : (desk.setPacket packet object).packets address = desk.packets address :=
      if_neg here
    rw [mine, setPacket_comm desk here]
    refine .mk object ?_
    rwa [show (desk.setPacket address _).packets packet = desk.packets packet from
      if_neg (Ne.symm here)]

/-- Twins have queued the same packets. -/
theorem Desk.Twin.queuedFrames (twin : desk.Twin packet other) {before before' : Desk}
    (same : before'.messages = before.messages)
    : BigBlackHardware.queuedFrames before' other = BigBlackHardware.queuedFrames before desk := by
  obtain ⟨object, alike⟩ := twin
  rw [BigBlackHardware.queuedFrames, BigBlackHardware.queuedFrames, same]
  refine List.map_congr_left fun message _ => ?_
  by_cases here : message.item = packet
  · rw [here, show (desk.setPacket packet object).packets packet = object from if_pos rfl,
      alike.wire]
  · rw [show (desk.setPacket packet object).packets message.item = desk.packets message.item from
      if_neg here]

end Desks

section Runs

variable (packet : Nat)

theorem getPacketFromPool_twins (pointer : Nat)
    : TwoRuns (Desk.Twin packet) (getPacketFromPool pointer) := by
  rintro desk _ ⟨object, alike⟩
  exact .ok (.mk object alike)

theorem writePacket_twins (address outQueue : Nat)
    : TwoRuns (Desk.Twin packet) (writePacket address outQueue) := by
  rintro desk _ ⟨object, alike⟩
  exact .ok (.mk object alike)

theorem createPacketAt_twins (address : Nat) (type : PacketType) (data : Cells UInt8)
    {dataLen : UInt16} (fits : dataLen.toNat ≤ plMaxDataLength.toNat)
    : TwoRuns (Desk.Twin packet) (createPacketAt address type (some data) dataLen) := by
  intro desk other twin
  rw [createPacketAt_eq, createPacketAt_eq]
  exact .ok (twin.set address (fun object =>
    (createPacket object type 0 0 0 (some data) dataLen).packet)
    fun _ _ alike => alike.created type data fits)

/-- A reply is sent alike, also if the pool hands out the packet object itself. -/
theorem createSendPacket_twins (type : PacketType) (data : Cells UInt8) {dataLen : UInt16}
    (fits : dataLen.toNat ≤ plMaxDataLength.toNat) (outQueue : Nat)
    : TwoRuns (Desk.Twin packet) (createSendPacket type data dataLen outQueue) := by
  rw [createSendPacket]
  refine .bind (getPacketFromPool_twins packet 0) fun got => .ite (.pure _) ?_
  refine .bind (createPacketAt_twins packet _ type data fits) fun status => .ite (.pure _) ?_
  exact .bind (writePacket_twins packet _ outQueue) fun _ => .pure _

theorem sendAck_twins (status : Int) (outQueue : Nat)
    : TwoRuns (Desk.Twin packet) (sendAck status outQueue) := by
  rintro desk _ ⟨object, alike⟩
  let unset := { desk with junk := desk.junk.rest }
  let data := Cells.store (fun _ => 0) 0 [setAckData desk.junk.value.toUInt8 status]
  exact createSendPacket_twins packet .ackPacket data (by decide) outQueue unset _
    (.mk object alike)

theorem sendError_twins {msg : String}
    (fits : (textBytes msg).length.toUInt16.toNat ≤ plMaxDataLength.toNat) (outQueue : Nat)
    : TwoRuns (Desk.Twin packet) (sendError msg outQueue) :=
  createSendPacket_twins packet _ _ fits outQueue

theorem sendAvrCmd_twins (cmd : AvrCommand) (outQueue : Nat)
    : TwoRuns (Desk.Twin packet) (sendAvrCmd cmd outQueue) :=
  createSendPacket_twins packet _ _ (by decide) outQueue

variable {α : Type}

theorem onRig_twins (m : RigM α) : TwoRuns (Device.Twin packet) (onRig m) :=
  .onPart (.of_eq m) (fun _ _ twin => twin.rig.symm) fun _ _ _ _ twin same =>
    ⟨same.symm, twin.desk⟩

theorem onDesk_twins {m : DeskM α} (runs : TwoRuns (Desk.Twin packet) m)
    : TwoRuns (Device.Twin packet) (onDesk m) :=
  .onPart runs (fun _ _ twin => twin.desk) fun _ _ _ _ twin desk => ⟨twin.rig, desk⟩

theorem sysAssertCritical_twins (status : Int)
    : TwoRuns (Device.Twin packet) (sysAssertCritical status) := by
  rw [sysAssertCritical]
  exact .ite (.throw _) (.pure _)

/-- The reply at the end of the handlers that acknowledge. -/
theorem acknowledge_twins (status : Int) (outQueue : Nat)
    : TwoRuns (Device.Twin packet)
        (do
          let status ← onDesk (sendAck status outQueue)
          sysAssertCritical status
          return status : DeviceM Int) :=
  .bind (onDesk_twins packet (sendAck_twins packet status outQueue)) fun status =>
    .bind (sysAssertCritical_twins packet status) fun _ => .pure _

variable {packet}

/-- Handlers that decode the packet object to the same thing end alike. -/
theorem readPacket_ends {f : Packet → DeviceM α} {device other : Device}
    (twin : device.Twin packet other)
    (same : f (other.desk.packets packet) = f (device.desk.packets packet))
    (runs : TwoRuns (Device.Twin packet) (f (device.desk.packets packet)))
    : EndsAlike (Device.Twin packet) ((readPacket packet >>= f) device)
        ((readPacket packet >>= f) other) := by
  rw [bind_ok (readPacket_eq packet device), bind_ok (readPacket_eq packet other), same]
  exact runs device other twin

end Runs

end BigBlackHardware
