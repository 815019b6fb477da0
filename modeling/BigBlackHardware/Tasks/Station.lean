import BigBlackHardware.Controller.Handlers
import BigBlackHardware.Transport.Sending

/-! The listening and the handling task of `packet_handler.c`, with the connections they pass from
one to the other. The listening task runs between the calls of the handling task, as a schedule
says.
-/

namespace BigBlackHardware

open Library

/-- `HNDL_INACTIVE`. -/
def hndlInactive : Int := -1

/-- `ConnectionInfo`. The queues are kernel handles. -/
structure ConnectionInfo where
  hndl : Int
  group : PacketGroup
  inQueue : Nat
  outQueue : Nat

/-- A result of `accept`, with the new socket behind a valid handle. -/
structure Accept where
  conn : Int
  socket : Socket

/-- Where the listening task is in its loop. -/
inductive ListenPoint where
  /-- Before `accept`. -/
  | accepting
  /-- Before the get from `connections_pool`. -/
  | fetching (conn : Int)
  /-- Before the stores to `hndl` and `group`. -/
  | filling (conn : Int) (info : Nat)
  /-- Before the write to `connections_queue`. -/
  | queueing (info : Nat)

/-- What the handling task does with the packets that it gets. -/
inductive TaskEvent where
  /-- `recv_packet` was called on a packet object with this content. -/
  | received (packet : Nat) (sock : Socket) (object : Packet)
  /-- `process_packet` is called on a packet object of this type. -/
  | handed (packet : Nat) (type : UInt8)
  /-- `close_conn` is called with a packet object. -/
  | closing (packet : Nat)

/-- The device with its two network tasks. -/
structure Station where
  device : Device
  /-- The connection object at an address. -/
  conns : Nat → ConnectionInfo
  connectionsPool : Pool
  /-- The address that `mem_Malloc` returns next for a connection. -/
  nextConn : Nat
  /-- The handle of the kernel's next new queue. -/
  nextQueue : Nat
  /-- What a queue handle points to, read as a queue handle. -/
  queueWord : Nat → Nat
  connectionsQueue : List Message
  /-- The array `conn_info`, `none` for `NULL`. -/
  connInfo : PacketGroup → Option Nat
  sockets : Int → Socket
  listening : ListenPoint
  /-- What the next `accept` calls return. -/
  accepts : List Accept
  /-- How many steps the listening task takes at each of the next calls. -/
  schedule : List Nat
  /-- The variable `packet` of the handling task. -/
  packet : Nat
  junk : Junk
  trace : List TaskEvent

abbrev StationM := EStateM Stop Station

/-- A program on the device. -/
def onDevice {α : Type} (m : DeviceM α) : StationM α :=
  onPart Station.device (fun device station => { station with device := device }) m

/-- The packet object that the handling task's variable points to. -/
def Station.object (station : Station) : Packet := station.device.desk.packets station.packet

def Station.setConn (station : Station) (info : Nat) (conn : ConnectionInfo) : Station :=
  { station with conns := fun i => if i = info then conn else station.conns i }

def Station.setSocket (station : Station) (hndl : Int) (sock : Socket) : Station :=
  { station with sockets := fun i => if i = hndl then sock else station.sockets i }

def Station.note (station : Station) (event : TaskEvent) : Station :=
  { station with trace := station.trace ++ [event] }

/-- The handle of `connections_queue`. -/
def connectionsQueueHandle : Nat := 0

/-- `conn_constructor`: a connection object with two new queues. -/
def connConstructor (station : Station) (info : Nat) : Station :=
  { station.setConn info
      { station.conns info with
        hndl := hndlInactive
        inQueue := station.nextQueue
        outQueue := station.nextQueue + 1 } with
    nextQueue := station.nextQueue + 2 }

/-- `pool_get` on `connections_pool`: the connection object if there is one, as constructed if it
is new.
-/
def getConnection (station : Station) : Option Nat × Station :=
  let got := poolGet station.connectionsPool station.nextConn
  let station := { station with connectionsPool := got.pool }
  if got.constructed then
    (got.item, { connConstructor station station.nextConn with nextConn := station.nextConn + 1 })
  else (got.item, station)

/-- One call of `vListeningTask` and what it does up to the next one. A failed get leaves the
pointer as it happens to be.
-/
def listeningStep (station : Station) : Station :=
  match station.listening with
  | .accepting =>
      match station.accepts with
      | [] => station
      | ⟨conn, sock⟩ :: accepts =>
          let station := { station with accepts := accepts }
          if conn > 0 then { station.setSocket conn sock with listening := .fetching conn }
          else station
  | .fetching conn =>
      match getConnection station with
      | (some info, station) => { station with listening := .filling conn info }
      | (none, station) =>
          { station with
            listening := .filling conn station.junk.value
            junk := station.junk.rest }
  | .filling conn info =>
      { station.setConn info { station.conns info with hndl := conn, group := .controlGroup } with
        listening := .queueing info }
  | .queueing info =>
      { station with
        connectionsQueue :=
          (sysQueueWritePtr station.connectionsQueue false maxTcpConnections
            connectionsQueueHandle info).2
        listening := .accepting }

/-- The station after the listening task has had its steps at a call of the handling task. -/
def Station.listened (station : Station) : Station :=
  match station.schedule with
  | [] => station
  | steps :: schedule => listeningStep^[steps] { station with schedule := schedule }

/-- A call of the handling task, at which the listening task can run. -/
def switchTasks : StationM Unit := modify Station.listened

end BigBlackHardware
