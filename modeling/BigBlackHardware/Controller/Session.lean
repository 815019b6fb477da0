import BigBlackHardware.Controller.Replies
import BigBlackHardware.Programmer.Working

/-! Programming sessions: CMD, LoadMCUInfo, ProgramMemory and ReadMemory requests in any order, and
what they find of the session that LoadMCUInfo should have established.
-/

namespace BigBlackHardware

open Library

/-- The requests of a programming session. -/
inductive SessionRequest where
  | cmd
  | loadMcuInfo
  | programMemory
  | readMemory
  deriving DecidableEq

/-- The handler of a request. -/
def SessionRequest.handler : SessionRequest → Nat → Nat → DeviceM Int
  | .cmd => processCmdPacket
  | .loadMcuInfo => processLoadMcuInfoPacket
  | .programMemory => processProgramMemoryPacket
  | .readMemory => processReadMemoryPacket

/-- A request as it arrives: the packet object at an address, with the packets, the pool and the
queues as they are at that time.
-/
structure Arrival where
  request : SessionRequest
  desk : Desk
  outQueue : Nat
  packet : Nat

/-- The packet object of a request. -/
def Arrival.object (arrival : Arrival) : Packet := arrival.desk.packets arrival.packet

/-- The handler's run. -/
def Arrival.handle (arrival : Arrival) (rig : Rig) : EStateM.Result Stop Device Int :=
  arrival.request.handler arrival.outQueue arrival.packet ⟨rig, arrival.desk⟩

/-- The rig when the device has been restarted; the target and its history stay. -/
def Rig.restarted (rig : Rig) : Rig := { rig with mcuInfo := none, spiEnabled := false }

/-- The requests that are handled one after the other, each with the rig it finds. A restart goes
on with a new session; after a `NULL` dereference nothing more can be said.
-/
def sessionRun : Rig → List Arrival → List (Rig × Arrival)
  | _, [] => []
  | rig, arrival :: arrivals =>
      (rig, arrival) ::
        match arrival.handle rig with
        | .ok _ device => sessionRun device.rig arrivals
        | .error .restart device => sessionRun device.rig.restarted arrivals
        | .error _ _ => []

/-- The request relies on a session that has not been established. -/
def TooEarly (rig : Rig) (arrival : Arrival) : Prop :=
  match arrival.request with
  | .cmd => rig.spiEnabled = false
  | .loadMcuInfo => False
  | .programMemory | .readMemory => rig.mcuInfo = none ∨ rig.spiEnabled = false

/-- The request is refused with a negative status, and nothing was sent to the target. -/
def Refused (rig : Rig) (arrival : Arrival) : Prop :=
  ∃ status device,
    arrival.handle rig = .ok status device
    ∧ status < 0
    ∧ sentCommands device.rig.log = sentCommands rig.log

/-- The contract of a handler in a session: `mcu_info` is not dereferenced while it is `NULL`, no
transfer is started while the SPI module is not enabled, and a request that comes too early is
refused.
-/
structure Respects (rig : Rig) (arrival : Arrival) : Prop where
  noNull : ∀ device, arrival.handle rig ≠ .error .nullMcuInfo device
  clean : Clean rig.log (final (arrival.handle rig)).rig
  refused : TooEarly rig arrival → Refused rig arrival

/-- A ReadMemory request that the handler refuses without a session: it has another size than a
request, or there is no packet for the memory, or its memory type is unknown and, on top of that,
there is no packet for the error reply or the byte count is no size for the request itself.
-/
def ReadRefused (arrival : Arrival) : Prop :=
  match getReadMemData arrival.object with
  | .error _ => True
  | .ok memData =>
      arrival.desk.UsedUp
      ∨ memData.memT = .memoryErr
        ∧ (arrival.desk.packetGot.UsedUp
          ∨ plMaxDataLength.toNat < memData.bytesToRead.toUInt16.toNat)

/-- The request does not come too early, or it is one of those that are refused anyway: a CMD
request of another size than a command, or a refused ReadMemory request.
-/
def InOrder (rig : Rig) (arrival : Arrival) : Prop :=
  TooEarly rig arrival →
    match arrival.request with
    | .cmd => arrival.object.header.dataSize.toUInt8.toNat ≠ avrCmdSize
    | .loadMcuInfo | .programMemory => False
    | .readMemory => ReadRefused arrival

end BigBlackHardware
