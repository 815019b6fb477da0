import BigBlackHardware.Tasks.Station

/-! `vHandlingTask`: the loop that receives packets, has them processed and sends the replies. -/

namespace BigBlackHardware

open Library

/-- `check_connection`. -/
def checkConnection (station : Station) (info : Option Nat) : Int :=
  match info with
  | none => failure
  | some info => if (station.conns info).hndl = hndlInactive then failure else success

/-- `close`: the socket's next result. -/
def closeSocket (hndl : Int) : StationM Int := do
  switchTasks
  let station ← get
  let sock := station.sockets hndl
  set (station.setSocket hndl { sock with closeResults := sock.closeResults.tail })
  return sock.closeResults.headD success

/-- `disable_connection`. -/
def disableConnection (info : Nat) : StationM Int := do
  let status ← closeSocket ((← get).conns info).hndl
  if status < 0 then return status
  else
    modify fun station =>
      station.setConn info { station.conns info with hndl := hndlInactive }
    return status

/-- `close_conn`, with a packet. -/
def closeConn (info : Nat) : StationM Int := do
  modify fun station =>
    { station with
      connInfo := fun i => if i = (station.conns info).group then none else station.connInfo i }
  let status ← disableConnection info
  if status < 0 then return status
  else
    switchTasks
    let station ← get
    let (status, pool) := poolRelease station.connectionsPool info
    set { station with connectionsPool := pool }
    return status

/-- The groups in the order of their values, as the loops over `conn_info` take them. -/
def packetsGroups : List PacketGroup := [.controlGroup, .programmerGroup, .uartGroup]

/-- `get_read_fd`: the largest handle and the set of handles to read. -/
def getReadFd (station : Station) : Int × List Int :=
  packetsGroups.foldl
    (fun (maxFd, set) i =>
      match station.connInfo i with
      | some info =>
          if checkConnection station (some info) = success then
            (max maxFd (station.conns info).hndl, (station.conns info).hndl :: set)
          else (maxFd, set)
      | none => (maxFd, set))
    (0, [])

/-- The status of a socket function, for which the task waits as long as there is none. -/
def awaitStatus : Option Int → StationM Int
  | some status => return status
  | none => throw .waiting

/-- `get_packet_from_pool` into the variable `packet`. -/
def takePacket : StationM Int := do
  switchTasks
  let (status, packet) ← onDevice (onDesk (getPacketFromPool (← get).packet))
  modify fun station => { station with packet := packet }
  return status

/-- `recv_packet` into the packet object. -/
def receiveInto (hndl : Int) : StationM Int := do
  switchTasks
  let station ← get
  let received := recvPacket (station.sockets hndl) station.object
  set ((station.setSocket hndl received.socket).note
    (.received station.packet (station.sockets hndl) station.object))
  onDevice (onDesk (modify fun desk => desk.setPacket station.packet received.packet))
  awaitStatus received.status

/-- `process_packet` on the packet object. The queue argument is the handle itself where a pointer
to a handle is expected.
-/
def handOver (info : Nat) : StationM Int := do
  let station ← get
  set (station.note (.handed station.packet station.object.header.type))
  onDevice (processPacket (station.queueWord (station.conns info).outQueue) station.packet)

/-- `close_conn` for the connection that the packet object came from. -/
def closeFor (info : Nat) : StationM Int := do
  let station ← get
  set (station.note (.closing station.packet))
  closeConn info

/-- `release_packet` of the packet object. -/
def putPacket : StationM Int := do
  switchTasks
  onDevice (onDesk (releasePacket (← get).packet))

/-- `sys_queue_read_ptr` from a connection's `out_queue` into the variable `packet`, which a failed
read leaves with any value.
-/
def readOutQueue (info : Nat) : StationM Int := do
  switchTasks
  let station ← get
  let (packet, messages) :=
    sysQueueReadPtr station.device.desk.messages (station.conns info).outQueue
  onDevice (onDesk (modify fun desk => { desk with messages := messages }))
  modify fun station =>
    { station with packet := packet.getD station.junk.value, junk := station.junk.rest }
  return if packet.isSome then osiOk else osiOperationFailed

/-- `send_packet` of the packet object. -/
def sendOut (hndl : Int) : StationM Int := do
  switchTasks
  let station ← get
  let sent := PacketHandler.sendPacket (station.sockets hndl) station.object
  set (station.setSocket hndl sent.socket)
  awaitStatus sent.status

-----------------------------------------------------------------------------------------
-- The task's loop
-----------------------------------------------------------------------------------------

/-- What is done with the received packet object, according to its type. -/
def actOn (info : Nat) : StationM Int := do
  let station ← get
  if station.object.header.type = PacketType.closeConnectionPacket.val then closeFor info
  else handOver info

/-- The branch for a connection with data to read. -/
def handleReady (info : Nat) (hndl : Int) : StationM Int := do
  let _ ← takePacket
  -- a negative status is only logged
  let _ ← receiveInto hndl
  let _ ← actOn info
  putPacket

/-- Sending the packet that was read from `out_queue`, if there was one. -/
def sendNext (hndl : Int) (status : Int) : StationM Int :=
  if status ≥ 0 then do
    let _ ← sendOut hndl
    putPacket
  else return status

/-- The loop that sends what waits in `out_queue`, for at most `fuel` packets. -/
def drainLoop (info : Nat) (hndl : Int) : Nat → Int → StationM Int
  | 0, status => return status
  | fuel + 1, status =>
      if status ≥ 0 then do
        let _ ← takePacket
        -- the pointer to the packet just taken is overwritten
        let status ← readOutQueue info
        let _ ← sendNext hndl status
        drainLoop info hndl fuel status
      else return status

/-- The loop with fuel for all its rounds: each but the last takes one message away. -/
def drainQueue (info : Nat) (hndl : Int) (status : Int) : StationM Int := do
  drainLoop info hndl ((← get).device.desk.messages.length + 1) status

/-- The part of a round that reads: the task's status and the handles still to read. -/
def readConnection (info : Nat) (hndl : Int) (status : Int) (readFd : List Int)
    : StationM (Int × List Int) :=
  if hndl ∈ readFd then do
    let status ← handleReady info hndl
    return (status, readFd.filter (· ≠ hndl))
  else return (status, readFd)

/-- The round for one entry of `conn_info`. -/
def serveGroup (i : PacketGroup) (status : Int) (readFd : List Int)
    : StationM (Int × List Int) := do
  let station ← get
  match station.connInfo i with
  | none => return (status, readFd)
  | some info =>
      if checkConnection station (some info) = success then
        let hndl := (station.conns info).hndl
        let (status, readFd) ← readConnection info hndl status readFd
        let status ← drainQueue info hndl status
        return (status, readFd)
      else return (status, readFd)

/-- The rounds for the entries of `conn_info`. -/
def serveGroups : List PacketGroup → Int → List Int → StationM Unit
  | [], _, _ => return ()
  | i :: groups, status, readFd => do
      let (status, readFd) ← serveGroup i status readFd
      serveGroups groups status readFd

/-- `sys_queue_read_ptr` from `connections_queue`. -/
def readConnectionsQueue : StationM (Option Nat) := do
  switchTasks
  let station ← get
  let (info, queue) := sysQueueReadPtr station.connectionsQueue connectionsQueueHandle
  set { station with connectionsQueue := queue }
  return info

/-- The part of the loop that looks for a new connection. -/
def takeConnection : StationM Unit := do
  match ← readConnectionsQueue with
  | none => return ()
  | some info =>
      if (← get).connInfo .controlGroup ≠ none then
        let _ ← disableConnection info
      else
        modify fun station =>
          { station.setConn info { station.conns info with group := .controlGroup } with
            connInfo := fun i => if i = .controlGroup then some info else station.connInfo i }

/-- What `select` reports: its result, and which handles it would find ready. -/
structure Selection where
  status : Int
  ready : Int → Bool

/-- `select` on the read set of the station. -/
def selectReady (selection : Selection) : StationM (List Int) := do
  let (maxFd, readFd) := getReadFd (← get)
  switchTasks
  return readFd.filter (fun fd => fd < maxFd + 1 ∧ selection.ready fd)

/-- The part of the loop that serves the connections, if `select` found any ready. -/
def serveSelected (selection : Selection) (readFd : List Int) : StationM Unit :=
  if selection.status > 0 then serveGroups packetsGroups selection.status readFd else return ()

/-- One round of the task's outer loop. -/
def handlingRound (selection : Selection) : StationM Unit := do
  let readFd ← selectReady selection
  serveSelected selection readFd
  takeConnection

/-- The outer loop, for the given results of `select`. -/
def handlingLoop : List Selection → StationM Unit
  | [] => return ()
  | selection :: selections => do
      handlingRound selection
      handlingLoop selections

/-- What `vHandlingTask` does before its loop: it waits for the first connection. -/
def firstConnection : StationM Unit := do
  match ← readConnectionsQueue with
  | none => throw .waiting
  | some info =>
      modify fun station =>
        { station with
          connInfo := fun i =>
            if i = (station.conns info).group then some info else station.connInfo i }

/-- `vHandlingTask`. -/
def vHandlingTask (selections : List Selection) : StationM Unit := do
  firstConnection
  handlingLoop selections

/-- The station when `packet_handler_start` has created the pools and the tasks; the memory, the
network and the schedule are as they happen to be.
-/
def packetHandlerStart (station : Station) : Station :=
  { station with
    device :=
      { rig := .boot station.device.rig.target station.device.rig.heap station.device.rig.junk
        desk :=
          { Desk.boot station.device.desk.packets station.device.desk.packetsPool.data
              station.device.desk.junk with
            refused := station.device.desk.refused } }
    connectionsPool := poolCreate station.connectionsPool.data maxTcpConnections
    nextConn := 0
    connectionsQueue := []
    connInfo := fun _ => none
    listening := .accepting
    trace := [] }

/-- A station with zeros in its memory and a target that echoes. One client connects before the
handling task looks for its first connection.
-/
def oneClient (sock : Socket) : Station where
  device :=
    { rig := .boot (fun _ cmd => cmd) (.boot fun _ _ => 0) ⟨fun _ => 0, 0⟩
      desk := .boot (fun _ => ⟨⟨0, 0, 0, 0, 0, 0⟩, fun _ => 0, fun _ => 0⟩) (fun _ => 0)
        ⟨fun _ => 0, 0⟩ }
  conns := fun _ => ⟨0, .controlGroup, 0, 0⟩
  connectionsPool := poolCreate (fun _ => 0) maxTcpConnections
  nextConn := 0
  nextQueue := 1
  queueWord := id
  connectionsQueue := []
  connInfo := fun _ => none
  sockets := fun _ => ⟨[], [], [], [], []⟩
  listening := .accepting
  accepts := [⟨1, sock⟩]
  schedule := [4]
  packet := 0
  junk := ⟨fun _ => 0, 0⟩
  trace := []

end BigBlackHardware
