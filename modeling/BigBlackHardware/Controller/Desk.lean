import BigBlackHardware.Programmer.Rig
import BigBlackHardware.Store.Messages
import BigBlackHardware.Store.Pool

/-! The packets pool of `packets.c` and the reply functions of `packet_manager.c`, over the packet
objects in memory and the queues that replies wait in.
-/

namespace BigBlackHardware

open Library

/-- The packet objects, the pool they come from and the queues their pointers wait in. -/
structure Desk where
  /-- The packet object at an address. -/
  packets : Nat → Packet
  packetsPool : Pool
  /-- The address that `mem_Malloc` returns next. -/
  nextBlock : Nat
  messages : List Message
  /-- Queue handles that the kernel refuses to write to. -/
  refused : Nat → Bool
  junk : Junk

abbrev DeskM := EStateM Stop Desk

/-- The desk with another packet object at an address. -/
def Desk.setPacket (desk : Desk) (address : Nat) (packet : Packet) : Desk :=
  { desk with packets := fun i => if i = address then packet else desk.packets i }

/-- `initialize_packets_pool`, on an array and packet objects with any content. -/
def initializePacketsPool (desk : Desk) (data : Cells Nat) (num : Nat) : Desk :=
  { desk with packetsPool := poolCreate data num }

/-- The desk after a reset, once the packets pool is created. -/
def Desk.boot (packets : Nat → Packet) (data : Cells Nat) (junk : Junk) : Desk :=
  initializePacketsPool
    { packets := packets
      packetsPool := poolCreate data 0
      nextBlock := 0
      messages := []
      refused := fun _ => false
      junk := junk }
    data msgPoolSize

/-- The desk after a get from the packets pool. -/
def Desk.packetGot (desk : Desk) : Desk :=
  let got := poolGet desk.packetsPool desk.nextBlock
  { desk with
    packetsPool := got.pool
    nextBlock := if got.constructed then desk.nextBlock + 1 else desk.nextBlock }

/-- `get_packet_from_pool`: the status and the value of the caller's pointer afterwards, which
held `packet` before.
-/
def getPacketFromPool (packet : Nat) : DeskM (Int × Nat) := do
  let desk ← get
  let got := poolGet desk.packetsPool desk.nextBlock
  set desk.packetGot
  return (got.status, got.item.getD packet)

/-- `release_packet`. -/
def releasePacket (packet : Nat) : DeskM Int := do
  let desk ← get
  let (status, pool) := poolRelease desk.packetsPool packet
  set { desk with packetsPool := pool }
  return status

/-- `write_packet`. -/
def writePacket (packet outQueue : Nat) : DeskM Int := do
  let desk ← get
  let (status, messages) :=
    sysQueueWritePtr desk.messages (desk.refused outQueue) msgQueueSize outQueue packet
  set { desk with messages := messages }
  return status

/-- `create_packet` on the packet object at an address, with all flags off. -/
def createPacketAt (packet : Nat) (type : PacketType) (data : Option (Cells UInt8))
    (dataLen : UInt16) : DeskM Int := do
  let desk ← get
  let created := createPacket (desk.packets packet) type 0 0 0 data dataLen
  set (desk.setPacket packet created.packet)
  return created.status

/-- `create_send_packet`. The status of the write is dropped. -/
def createSendPacket (type : PacketType) (data : Cells UInt8) (dataLen : UInt16)
    (outQueue : Nat) : DeskM Int := do
  let (status, packet) ← getPacketFromPool 0
  if status < 0 then return status
  else
    let status ← createPacketAt packet type (some data) dataLen
    if status < 0 then return status
    else
      let _ ← writePacket packet outQueue
      return status

/-- `send_packet` of the packet manager: the packet's data field stays as it is. -/
def sendPacket (packet : Nat) (type : PacketType) (dataLen : UInt16) (outQueue : Nat)
    : DeskM Int := do
  let status ← createPacketAt packet type none dataLen
  if status < 0 then return status
  else
    let _ ← writePacket packet outQueue
    return status

/-- `set_ack_data`. On a negative status it assigns its own parameter and leaves the byte. -/
def setAckData (data : UInt8) (success : Int) : UInt8 :=
  if success ≥ 0 then plAckSuccess else data

/-- `send_ack`; the byte was not stored to before. -/
def sendAck (status : Int) (outQueue : Nat) : DeskM Int := do
  let desk ← get
  set { desk with junk := desk.junk.rest }
  let ackData := setAckData desk.junk.value.toUInt8 status
  createSendPacket .ackPacket (Cells.store (fun _ => 0) 0 [ackData]) 1 outQueue

/-- The bytes of a C string. -/
def textBytes (msg : String) : List UInt8 := msg.toList.map (fun char => char.toNat.toUInt8)

/-- `send_error`. -/
def sendError (msg : String) (outQueue : Nat) : DeskM Int :=
  createSendPacket .errorPacket (Cells.store (fun _ => 0) 0 (textBytes msg))
    (textBytes msg).length.toUInt16 outQueue

/-- `send_avr_cmd`. -/
def sendAvrCmd (cmd : AvrCommand) (outQueue : Nat) : DeskM Int :=
  createSendPacket .cmdPacket (Cells.store (fun _ => 0) 0 cmd.toList) avrCmdSize.toUInt16 outQueue

end BigBlackHardware
