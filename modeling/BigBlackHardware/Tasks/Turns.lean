import BigBlackHardware.Library.Turns
import BigBlackHardware.Tasks.Frames

/-! The listening and the handling task taking turns in any order. A turn is one call of a task and
what the task does up to its next call.
-/

namespace BigBlackHardware

open Library

/-- What the handling task has in its variables while it serves an entry of `conn_info`. -/
structure Serving where
  /-- The entries of `conn_info` behind this one. -/
  later : List PacketGroup
  info : Nat
  hndl : Int
  readFd : List Int

/-- Where the handling task is in its code. -/
inductive HandlePoint where
  /-- Before the read of the first connection. -/
  | awaiting
  /-- Before `select`. -/
  | selecting (maxFd : Int) (readFd : List Int)
  /-- Before the get of a packet for a connection with data to read. -/
  | taking (serving : Serving)
  /-- Before `recv_packet`. -/
  | receiving (serving : Serving)
  /-- Before `process_packet`. -/
  | processing (serving : Serving)
  /-- Before `close` of the handle in `close_conn`, when the entry of `conn_info` is cleared. -/
  | closing (serving : Serving) (hndl : Int)
  /-- Before the release of the connection in `close_conn`. -/
  | releasing (serving : Serving)
  /-- Before the release of the packet that was received. -/
  | putting (serving : Serving)
  /-- Before the get of a packet in the loop that sends. -/
  | drawing (serving : Serving)
  /-- Before the read of `out_queue`. -/
  | reading (serving : Serving)
  /-- Before `send_packet`. -/
  | sending (serving : Serving)
  /-- Before the release of the packet that was sent. -/
  | dropping (serving : Serving)
  /-- Before the read of `connections_queue` at the end of the loop. -/
  | looking
  /-- Before `close` of a second connection's handle. -/
  | refusing (info : Nat) (hndl : Int)
  /-- The task does not go on. -/
  | stopped

/-- What a call of the handling task does to a connection. -/
inductive ConnectionUse where
  /-- The connection came out of `connections_queue`. -/
  | obtained (info : Nat)
  /-- `close` of the connection's handle succeeded in `close_conn`. -/
  | closed (info : Nat) (hndl : Int)
  /-- The connection was given back to `connections_pool`. -/
  | released (info : Nat)
  /-- The connection's `out_queue` was read. -/
  | readOut (info : Nat)
  /-- A packet was sent on the handle. -/
  | sentOn (hndl : Int)
  /-- None of these. -/
  | other
  deriving DecidableEq

/-- What the kernel and the network have for a call of the handling task. -/
structure Answer where
  selection : Selection
  /-- The read of a queue fails, whatever waits in the queue. -/
  missed : Bool

/-- The head of the task's outer loop. -/
def loopHead (station : Station) : HandlePoint :=
  .selecting (getReadFd station).1 (getReadFd station).2

/-- The loop over the entries of `conn_info` up to the next call. -/
def nextEntry (station : Station) (readFd : List Int) (status : Int)
    : List PacketGroup → HandlePoint
  | [] => .looking
  | i :: later =>
      match station.connInfo i with
      | none => nextEntry station readFd status later
      | some info =>
          if checkConnection station (some info) = success then
            let hndl := (station.conns info).hndl
            if hndl ∈ readFd then .taking ⟨later, info, hndl, readFd⟩
            else if status ≥ 0 then .drawing ⟨later, info, hndl, readFd⟩
            else nextEntry station readFd status later
          else nextEntry station readFd status later

/-- The head of the loop that sends. -/
def Serving.drain (serving : Serving) (status : Int) (station : Station) : HandlePoint :=
  if status ≥ 0 then .drawing serving
  else nextEntry station serving.readFd status serving.later

/-- The entry of `conn_info` for a connection's group. -/
def Station.setEntry (station : Station) (info : Nat) (entry : Option Nat) : Station :=
  { station with
    connInfo := fun i => if i = (station.conns info).group then entry else station.connInfo i }

/-- The first read of `connections_queue`, which leaves any pointer if it fails. -/
def awaitConnection (missed : Bool) : StationM Nat := do
  if missed then return (← get).junk.value
  else
    match ← readConnectionsQueue with
    | none => throw .waiting
    | some info => return info

/-- `disable_connection` from its call of `close` on. -/
def disableFrom (info : Nat) (hndl : Int) : StationM Int := do
  let status ← closeSocket hndl
  if status < 0 then return status
  else
    modify fun station =>
      station.setConn info { station.conns info with hndl := hndlInactive }
    return status

/-- `pool_release` on `connections_pool`. -/
def releaseConnection (info : Nat) : StationM Int := do
  switchTasks
  let station ← get
  let (status, pool) := poolRelease station.connectionsPool info
  set { station with connectionsPool := pool }
  return status

/-- A read of an `out_queue` that fails and leaves any pointer. -/
def missPacket : StationM Int := do
  modify fun station => { station with packet := station.junk.value, junk := station.junk.rest }
  return osiOperationFailed

/-- The read of a connection's `out_queue`. -/
def readReply (missed : Bool) (info : Nat) : StationM Int :=
  if missed then missPacket else readOutQueue info

/-- The read of `connections_queue` at the end of the loop. -/
def lookForConnection (missed : Bool) : StationM (Option Nat) :=
  if missed then pure none else readConnectionsQueue

/-- One call of `vHandlingTask` and what it does up to the next one: the next call, and what this
one did to a connection.
-/
def handlingStep (answer : Answer) : HandlePoint → StationM (HandlePoint × ConnectionUse)
  | .awaiting => do
      let info ← awaitConnection answer.missed
      modify fun station => station.setEntry info (some info)
      return (loopHead (← get), if answer.missed then .other else .obtained info)
  | .selecting maxFd readFd => do
      switchTasks
      let { status, ready } := answer.selection
      if status > 0 then
        let readFd := readFd.filter (fun fd => fd < maxFd + 1 ∧ ready fd)
        return (nextEntry (← get) readFd status packetsGroups, .other)
      else return (.looking, .other)
  | .taking serving => do
      let _ ← takePacket
      return (.receiving serving, .other)
  | .receiving serving => do
      let _ ← receiveInto serving.hndl
      let station ← get
      if station.object.header.type = PacketType.closeConnectionPacket.val then
        set ((station.note (.closing station.packet)).setEntry serving.info none)
        return (.closing serving (station.conns serving.info).hndl, .other)
      else return (.processing serving, .other)
  | .processing serving => do
      let _ ← handOver serving.info
      return (.putting serving, .other)
  | .closing serving hndl => do
      let status ← disableFrom serving.info hndl
      if status < 0 then return (.putting serving, .other)
      else return (.releasing serving, .closed serving.info hndl)
  | .releasing serving => do
      let status ← releaseConnection serving.info
      return (.putting serving, if status < 0 then .other else .released serving.info)
  | .putting serving => do
      let status ← putPacket
      let serving := { serving with readFd := serving.readFd.filter (· ≠ serving.hndl) }
      return (serving.drain status (← get), .other)
  | .drawing serving => do
      let _ ← takePacket
      return (.reading serving, .other)
  | .reading serving => do
      let status ← readReply answer.missed serving.info
      if status ≥ 0 then return (.sending serving, .readOut serving.info)
      else
        return (nextEntry (← get) serving.readFd status serving.later, .readOut serving.info)
  | .sending serving => do
      let _ ← sendOut serving.hndl
      return (.dropping serving, .sentOn serving.hndl)
  | .dropping serving => do
      let _ ← putPacket
      return (.drawing serving, .other)
  | .looking => do
      match ← lookForConnection answer.missed with
      | none => return (loopHead (← get), .other)
      | some info =>
          let station ← get
          if station.connInfo .controlGroup ≠ none then
            return (.refusing info (station.conns info).hndl, .obtained info)
          else
            modify fun station =>
              (station.setConn info { station.conns info with group := .controlGroup }).setEntry
                info (some info)
            return (loopHead (← get), .obtained info)
  | .refusing info hndl => do
      let _ ← disableFrom info hndl
      return (loopHead (← get), .other)
  | .stopped => throw .waiting

/-- One call of `vListeningTask`, which finds that the kernel refuses the write or not. -/
def listeningCall (refused : Bool) (station : Station) : Station :=
  match station.listening with
  | .queueing _ =>
      if refused then { station with listening := .accepting } else listeningStep station
  | _ => listeningStep station

/-- Whose turn it is, and what the call finds. -/
inductive Turn where
  | listening (refused : Bool)
  | handling (answer : Answer)

/-- The two tasks. -/
structure Tasks where
  station : Station
  handling : HandlePoint
  /-- What the last `pool_get` of the listening task gave. -/
  given : Option Nat
  /-- What the calls of the handling task did, the oldest first. -/
  uses : List ConnectionUse

/-- A turn. A call that waits is still to be made afterwards, and one that does not return is the
task's last.
-/
def Tasks.step (tasks : Tasks) : Turn → Tasks
  | .listening refused =>
      { tasks with
        station := listeningCall refused tasks.station
        given :=
          match tasks.station.listening with
          | .fetching _ => (getConnection tasks.station).1
          | _ => tasks.given }
  | .handling answer =>
      match handlingStep answer tasks.handling tasks.station with
      | .ok (point, did) station =>
          { tasks with station := station, handling := point, uses := tasks.uses ++ [did] }
      | .error .waiting _ => tasks
      | .error _ station => { tasks with station := station, handling := .stopped }

/-- The tasks when `packet_handler_start` has created them. They take turns; none runs within the
call of the other.
-/
def Tasks.start (station : Station) : Tasks where
  station := { packetHandlerStart station with schedule := [] }
  handling := .awaiting
  given := none
  uses := []

-----------------------------------------------------------------------------------------
-- What a turn can change
-----------------------------------------------------------------------------------------

section Moves

variable {S : Station → Station → Prop} [Std.Refl S] [IsTrans Station S]

theorem awaitConnection_moves (frame : ConnectionFrame S) (missed : Bool)
    : Moves S (awaitConnection missed) := by
  rw [awaitConnection]
  refine .ite (.bind .get fun _ => .pure _) ?_
  refine .bind (readConnectionsQueue_moves frame) fun info => ?_
  cases info with
  | none => exact .throw _
  | some info => exact .pure _

theorem lookForConnection_moves (frame : ConnectionFrame S) (missed : Bool)
    : Moves S (lookForConnection missed) := by
  rw [lookForConnection]
  exact .ite (.pure _) (readConnectionsQueue_moves frame)

theorem disableFrom_moves (frame : ConnectionFrame S) (info : Nat) (hndl : Int)
    : Moves S (disableFrom info hndl) := by
  rw [disableFrom]
  refine .bind (closeSocket_moves frame hndl) fun status => .ite (.pure _) ?_
  exact .bind (.modify fun station => frame.setConn station _ _) fun _ => .pure _

theorem readReply_moves (frame : PacketFrame S) (missed : Bool) (info : Nat)
    : Moves S (readReply missed info) := by
  rw [readReply]
  refine .ite ?_ (readOutQueue_moves frame info)
  exact .bind (.modify fun station => frame.held station _ _) fun _ => .pure _

/-- A call of the handling task moves the station along a frame, by its point. -/
theorem handlingStep_moves
    (frame : TaskFrame S) (noted : ∀ station event, S station (station.note event))
    (entered : ∀ station info entry, S station (station.setEntry info entry)) (answer : Answer)
    (point : HandlePoint) : Moves S (handlingStep answer point) := by
  have packets := frame.toPacketFrame
  have connections := frame.toConnectionFrame
  cases point with
  | awaiting =>
      refine .bind (awaitConnection_moves connections _) fun info => ?_
      exact .bind (.modify fun station => entered station _ _) fun _ => .bind .get fun _ => .pure _
  | selecting maxFd readFd =>
      refine .bind (switchTasks_moves frame.listened) fun _ => .ite ?_ (.pure _)
      exact .bind .get fun _ => .pure _
  | taking serving => exact .bind (takePacket_moves packets) fun _ => .pure _
  | receiving serving =>
      refine .bind (receiveInto_moves packets noted _) fun _ station => ?_
      change S station (final
        ((if station.object.header.type = PacketType.closeConnectionPacket.val then _ else _
          : StationM _) station))
      split
      · exact IsTrans.trans _ _ _ (noted station _) (entered _ _ _)
      · exact Std.Refl.refl station
  | processing serving =>
      refine .bind (fun station => ?_) fun _ => .pure _
      exact IsTrans.trans _ _ _ (noted station _) (onDevice_moves packets _ _)
  | closing serving hndl =>
      refine .bind (disableFrom_moves connections _ _) fun status => ?_
      exact .ite (.pure _) (.pure _)
  | releasing serving =>
      refine .bind (.bind (switchTasks_moves frame.listened) fun _ station => ?_) fun _ => .pure _
      exact frame.connectionsPool station _
  | putting serving => exact .bind (putPacket_moves packets) fun _ => .bind .get fun _ => .pure _
  | drawing serving => exact .bind (takePacket_moves packets) fun _ => .pure _
  | reading serving =>
      refine .bind (readReply_moves packets _ _) fun status => .ite (.pure _) ?_
      exact .bind .get fun _ => .pure _
  | sending serving => exact .bind (sendOut_moves packets _) fun _ => .pure _
  | dropping serving => exact .bind (putPacket_moves packets) fun _ => .pure _
  | looking =>
      refine .bind (lookForConnection_moves connections _) fun found => ?_
      cases found with
      | none => exact .bind .get fun _ => .pure _
      | some info =>
          refine .bind .get fun _ => .ite (.pure _) (.bind (.modify fun station => ?_) fun _ => ?_)
          · exact IsTrans.trans _ _ _ (frame.setConn station info _) (entered _ _ _)
          · exact .bind .get fun _ => .pure _
  | refusing info hndl =>
      exact .bind (disableFrom_moves connections _ _) fun _ => .bind .get fun _ => .pure _
  | stopped => exact .throw _

end Moves

/-- The listening task leaves the schedule alone. -/
theorem listeningStep_schedule (station : Station)
    : (listeningStep station).schedule = station.schedule := by
  rw [listeningStep]
  cases station.listening with
  | accepting =>
      cases station.accepts with
      | nil => rfl
      | cons accept accepts => dsimp only; split <;> rfl
  | fetching conn =>
      have kept : (getConnection station).2.schedule = station.schedule := by
        rw [getConnection]
        split <;> rfl
      cases got : getConnection station with
      | mk info after =>
          rw [got] at kept
          cases info <;> exact kept
  | filling conn info => rfl
  | queueing info => rfl

end BigBlackHardware
