import BigBlackHardware.Tasks.Handling

/-! What the handling task's calls can change. A relation that holds across each kind of change
holds across every call that makes only such changes.
-/

namespace BigBlackHardware

open Library

/-- The relation holds across every change on the side of the connections. -/
structure ConnectionFrame (S : Station → Station → Prop) : Prop where
  listened : ∀ station, S station station.listened
  setSocket : ∀ station hndl sock, S station (station.setSocket hndl sock)
  setConn : ∀ station info conn, S station (station.setConn info conn)
  connectionsPool : ∀ station pool, S station { station with connectionsPool := pool }
  connectionsQueue : ∀ station queue, S station { station with connectionsQueue := queue }
  forgotten
    : ∀ station i,
        S station { station with connInfo := fun j => if j = i then none else station.connInfo j }
  taken
    : ∀ station info,
        S station
          { station with
            connInfo := fun j => if j = .controlGroup then some info else station.connInfo j }

/-- The relation also holds across every change of the device and of the variable `packet`. -/
structure TaskFrame (S : Station → Station → Prop) : Prop extends ConnectionFrame S where
  device : ∀ station device, S station { station with device := device }
  held : ∀ station packet junk, S station { station with packet := packet, junk := junk }

/-- The relation holds across the changes of the calls that move packets. -/
structure PacketFrame (S : Station → Station → Prop) : Prop where
  listened : ∀ station, S station station.listened
  setSocket : ∀ station hndl sock, S station (station.setSocket hndl sock)
  device : ∀ station device, S station { station with device := device }
  held : ∀ station packet junk, S station { station with packet := packet, junk := junk }

theorem TaskFrame.toPacketFrame {S : Station → Station → Prop} (frame : TaskFrame S)
    : PacketFrame S :=
  ⟨frame.listened, frame.setSocket, frame.device, frame.held⟩

section Calls

variable {S : Station → Station → Prop}

theorem switchTasks_moves (listened : ∀ station, S station station.listened)
    : Moves S switchTasks :=
  .modify listened

theorem onDevice_moves {α : Type} (frame : PacketFrame S) (m : DeviceM α) : Moves S (onDevice m) :=
  Moves.onPart (S := fun _ _ => True) (fun _ => trivial) fun station device _ =>
    frame.device station device

theorem awaitStatus_moves [Std.Refl S] (status : Option Int) : Moves S (awaitStatus status) := by
  cases status with
  | some status => exact .pure status
  | none => exact .throw _

variable [IsTrans Station S]

theorem closeSocket_moves (frame : ConnectionFrame S) (hndl : Int) : Moves S (closeSocket hndl) :=
  fun station => IsTrans.trans _ _ _ (frame.listened station) (frame.setSocket station.listened _ _)

theorem readConnectionsQueue_moves (frame : ConnectionFrame S) : Moves S readConnectionsQueue :=
  fun station =>
    IsTrans.trans _ _ _ (frame.listened station) (frame.connectionsQueue station.listened _)

variable [Std.Refl S]

theorem disableConnection_moves (frame : ConnectionFrame S) (info : Nat)
    : Moves S (disableConnection info) := by
  rw [disableConnection]
  refine .bind .get fun station => .bind (closeSocket_moves frame _) fun status => ?_
  exact .ite (.pure _) (.bind (.modify fun station => frame.setConn station _ _) fun _ => .pure _)

theorem closeConn_moves (frame : ConnectionFrame S) (info : Nat) : Moves S (closeConn info) := by
  rw [closeConn]
  refine .bind (.modify fun station => frame.forgotten station _) fun _ => ?_
  refine .bind (disableConnection_moves frame info) fun status => .ite (.pure _) ?_
  intro station
  exact IsTrans.trans _ _ _ (frame.listened station)
    (frame.connectionsPool station.listened _)

theorem takeConnection_moves (frame : ConnectionFrame S) : Moves S takeConnection := by
  rw [takeConnection]
  refine .bind (readConnectionsQueue_moves frame) fun info => ?_
  cases info with
  | none => exact .pure _
  | some info =>
      refine .bind .get fun station => .ite ?_ (.modify fun station => ?_)
      · exact .bind (disableConnection_moves frame info) fun _ => .pure _
      · exact IsTrans.trans _ _ _ (frame.setConn station info _) (frame.taken _ info)

theorem selectReady_moves (frame : ConnectionFrame S) (selection : Selection)
    : Moves S (selectReady selection) := by
  rw [selectReady]
  exact .bind .get fun station => .bind (switchTasks_moves frame.listened) fun _ => .pure _

theorem takePacket_moves (frame : PacketFrame S) : Moves S takePacket := by
  rw [takePacket]
  refine .bind (switchTasks_moves frame.listened) fun _ => .bind .get fun station => ?_
  refine .bind (onDevice_moves frame _) fun got => ?_
  exact .bind (.modify fun station => frame.held station got.2 station.junk) fun _ => .pure _

theorem putPacket_moves (frame : PacketFrame S) : Moves S putPacket := by
  rw [putPacket]
  refine .bind (switchTasks_moves frame.listened) fun _ => ?_
  exact .bind .get fun station => onDevice_moves frame _

theorem readOutQueue_moves (frame : PacketFrame S) (info : Nat) : Moves S (readOutQueue info) := by
  rw [readOutQueue]
  refine .bind (switchTasks_moves frame.listened) fun _ => .bind .get fun station => ?_
  refine .bind (onDevice_moves frame _) fun _ => ?_
  exact .bind (.modify fun station => frame.held station _ _) fun _ => .pure _

theorem sendOut_moves (frame : PacketFrame S) (hndl : Int) : Moves S (sendOut hndl) := by
  rw [sendOut]
  refine .bind (switchTasks_moves frame.listened) fun _ => fun station => ?_
  exact IsTrans.trans _ _ _ (frame.setSocket station hndl _) (awaitStatus_moves _ _)

theorem sendNext_moves (frame : PacketFrame S) (hndl status : Int)
    : Moves S (sendNext hndl status) :=
  .ite (.bind (sendOut_moves frame hndl) fun _ => putPacket_moves frame) (.pure status)

theorem drainLoop_moves (frame : PacketFrame S) (info : Nat) (hndl : Int) (fuel : Nat)
    (status : Int) : Moves S (drainLoop info hndl fuel status) := by
  induction fuel generalizing status with
  | zero => exact .pure status
  | succ fuel ih =>
      rw [drainLoop]
      refine .ite ?_ (.pure status)
      refine .bind (takePacket_moves frame) fun _ => ?_
      refine .bind (readOutQueue_moves frame info) fun status => ?_
      exact .bind (sendNext_moves frame hndl status) fun _ => ih status

theorem drainQueue_moves (frame : PacketFrame S) (info : Nat) (hndl status : Int)
    : Moves S (drainQueue info hndl status) :=
  .bind .get fun _ => drainLoop_moves frame info hndl _ status

end Calls

/-- The station when a receive has stored what it got. -/
def Station.afterReceive (station : Station) (hndl : Int) : Station :=
  let received := recvPacket (station.sockets hndl) station.object
  let noted := (station.setSocket hndl received.socket).note
    (.received station.packet (station.sockets hndl) station.object)
  { noted with
    device :=
      { station.device with
        desk := station.device.desk.setPacket station.packet received.packet } }

theorem receiveInto_eq (hndl : Int) (station : Station)
    : receiveInto hndl station
      = awaitStatus
          (recvPacket (station.listened.sockets hndl) station.listened.object).status
          (station.listened.afterReceive hndl) := rfl

theorem receiveInto_moves {S : Station → Station → Prop} [Std.Refl S] [IsTrans Station S]
    (frame : PacketFrame S) (noted : ∀ station event, S station (station.note event)) (hndl : Int)
    : Moves S (receiveInto hndl) := by
  intro station
  rw [receiveInto_eq]
  let before := station.listened
  let received := recvPacket (before.sockets hndl) before.object
  have emptied := frame.setSocket before hndl received.socket
  have logged := noted (before.setSocket hndl received.socket)
    (.received before.packet (before.sockets hndl) before.object)
  have stored : S before (before.afterReceive hndl) :=
    IsTrans.trans _ _ _ emptied (IsTrans.trans _ _ _ logged (frame.device _ _))
  exact IsTrans.trans _ _ _ (frame.listened station)
    (IsTrans.trans _ _ _ stored (awaitStatus_moves _ _))

section Serving

variable {S : Station → Station → Prop} [Std.Refl S] [IsTrans Station S]
  (frame : TaskFrame S) (noted : ∀ station event, S station (station.note event))

include frame noted

theorem actOn_moves (info : Nat) : Moves S (actOn info) := by
  rw [actOn]
  refine .bind .get fun station => .ite (fun station => ?_) (fun station => ?_)
  · exact IsTrans.trans _ _ _ (noted station _) (closeConn_moves frame.toConnectionFrame info _)
  · exact IsTrans.trans _ _ _ (noted station _) (onDevice_moves frame.toPacketFrame _ _)

theorem serveGroup_moves (i : PacketGroup) (status : Int) (readFd : List Int)
    : Moves S (serveGroup i status readFd) := by
  have ready (info : Nat) (hndl : Int) : Moves S (handleReady info hndl) := by
    rw [handleReady]
    refine .bind (takePacket_moves frame.toPacketFrame) fun _ => ?_
    refine .bind (receiveInto_moves frame.toPacketFrame noted hndl) fun _ => ?_
    exact .bind (actOn_moves frame noted info) fun _ => putPacket_moves frame.toPacketFrame
  rw [serveGroup]
  refine .bind .get fun station => ?_
  cases station.connInfo i with
  | none => exact .pure _
  | some info =>
      refine .ite (.bind ?_ fun read => ?_) (.pure _)
      · exact .ite (.bind (ready info _) fun _ => .pure _) (.pure _)
      · exact .bind (drainQueue_moves frame.toPacketFrame info _ _) fun _ => .pure _

end Serving

-----------------------------------------------------------------------------------------
-- The listening task
-----------------------------------------------------------------------------------------

/-- What the listening task leaves alone: the device, the entries of `conn_info` and the trace. -/
structure Unlistened (before after : Station) : Prop where
  device : after.device = before.device
  connInfo : after.connInfo = before.connInfo
  trace : after.trace = before.trace

theorem Unlistened.refl (station : Station) : Unlistened station station := ⟨rfl, rfl, rfl⟩

theorem getConnection_unlistened (station : Station)
    : Unlistened station (getConnection station).2 := by
  rw [getConnection]
  split <;> exact ⟨rfl, rfl, rfl⟩

/-- The listening task's steps, by its four points. -/
theorem listeningStep_unlistened (station : Station)
    : Unlistened station (listeningStep station) := by
  rw [listeningStep]
  cases station.listening with
  | accepting =>
      cases station.accepts with
      | nil => exact .refl station
      | cons accept accepts => dsimp only; split <;> exact ⟨rfl, rfl, rfl⟩
  | fetching conn =>
      have kept := getConnection_unlistened station
      cases got : getConnection station with
      | mk info after =>
          rw [got] at kept
          cases info <;> exact ⟨kept.device, kept.connInfo, kept.trace⟩
  | filling conn info => exact ⟨rfl, rfl, rfl⟩
  | queueing info => exact ⟨rfl, rfl, rfl⟩

theorem listened_unlistened (station : Station) : Unlistened station station.listened := by
  have steps (n : Nat) (start : Station) : Unlistened start (listeningStep^[n] start) := by
    induction n generalizing start with
    | zero => exact .refl start
    | succ n ih =>
        have first := listeningStep_unlistened start
        have rest := ih (listeningStep start)
        rw [Function.iterate_succ_apply]
        exact ⟨rest.device.trans first.device, rest.connInfo.trans first.connInfo,
          rest.trace.trans first.trace⟩
  rw [Station.listened]
  cases station.schedule with
  | nil => exact .refl station
  | cons n schedule =>
      have run := steps n { station with schedule := schedule }
      exact ⟨run.device, run.connInfo, run.trace⟩

-----------------------------------------------------------------------------------------
-- The drain loop
-----------------------------------------------------------------------------------------

/-- Fewer than `n` messages wait. -/
def Station.Fewer (n : Nat) (station : Station) : Prop :=
  station.device.desk.messages.length < n

theorem listened_fewer {n : Nat} {station : Station} (few : station.Fewer n)
    : station.listened.Fewer n := by
  rw [Station.Fewer, (listened_unlistened station).device]
  exact few

theorem takePacket_fewer (n : Nat)
    : Triple (Station.Fewer n) takePacket (fun _ => Station.Fewer n) (fun _ _ => True) :=
  fun _ few => listened_fewer few

/-- A read that returns a packet leaves fewer messages. -/
theorem readOutQueue_fewer (n : Nat) (info : Nat)
    : Triple (Station.Fewer (n + 1)) (readOutQueue info)
        (fun status station => status < 0 ∨ station.Fewer n) (fun _ _ => True) := by
  intro station few
  let read := sysQueueReadPtr station.listened.device.desk.messages
    (station.listened.conns info).outQueue
  have left : read.2.length + (if read.1.isSome then 1 else 0)
      = station.listened.device.desk.messages.length := sysQueueReadPtr_length _ _
  have before : station.listened.device.desk.messages.length < n + 1 := listened_fewer few
  change (if read.1.isSome then osiOk else osiOperationFailed) < 0 ∨ read.2.length < n
  split at left
  · exact Or.inr (by omega)
  · rename_i none
    rw [if_neg none]
    exact Or.inl (by decide)

theorem sendNext_fewer (n : Nat) (hndl status : Int)
    : Triple (fun station => status < 0 ∨ station.Fewer n) (sendNext hndl status)
        (fun _ station => status < 0 ∨ station.Fewer n) (fun _ _ => True) := by
  intro station either
  rcases either with ended | few
  · rw [sendNext, if_neg (by omega)]
    exact Or.inl ended
  · have send : Triple (Station.Fewer n) (sendOut hndl) (fun _ => Station.Fewer n)
        (fun _ _ => True) := by
      intro station few
      have kept (status : Option Int)
          : Triple (Station.Fewer n) (awaitStatus status) (fun _ => Station.Fewer n)
              (fun _ _ => True) := by
        cases status with
        | some status => exact .pure fun _ h => h
        | none => exact .throw fun _ _ => trivial
      exact kept _ _ (listened_fewer few)
    have put : Triple (Station.Fewer n) putPacket (fun _ => Station.Fewer n) (fun _ _ => True) :=
      fun _ few => listened_fewer few
    have both := Triple.ite (c := status ≥ 0) (send.bind fun _ => put)
      (Triple.pure (a := status) fun _ h => h)
    exact both.mono (fun _ h => h) (fun _ _ h => Or.inr h) (fun _ _ h => h) station few

/-- With fuel for more rounds than messages wait, the loop ends by its own condition. Witness:
induction on the fuel; a round after which the loop goes on took a message away.
-/
theorem drainLoop_ends (info : Nat) (hndl : Int) (fuel : Nat) (status : Int)
    : Triple (fun station => status < 0 ∨ station.Fewer fuel) (drainLoop info hndl fuel status)
        (fun status _ => status < 0) (fun _ _ => True) := by
  induction fuel generalizing status with
  | zero =>
      refine .pure fun station either => either.resolve_right ?_
      exact Nat.not_lt_zero _
  | succ fuel ih =>
      rw [drainLoop]
      split
      · rename_i goes
        have start : Triple (fun station => status < 0 ∨ station.Fewer (fuel + 1)) takePacket
            (fun _ => Station.Fewer (fuel + 1)) (fun _ _ => True) :=
          (takePacket_fewer (fuel + 1)).mono (fun _ h => h.resolve_left (by omega))
            (fun _ _ h => h) (fun _ _ h => h)
        refine start.bind fun _ => .bind (readOutQueue_fewer fuel info) fun status => ?_
        exact .bind (sendNext_fewer fuel hndl status) fun _ => ih status
      · rename_i ended
        exact .pure fun _ _ => by omega

/-- `drainQueue` never runs out of fuel. -/
theorem drainQueue_ends (info : Nat) (hndl status : Int)
    : Triple (fun _ => True) (drainQueue info hndl status) (fun status _ => status < 0)
        (fun _ _ => True) := by
  intro station _
  exact drainLoop_ends info hndl _ status station (Or.inr (Nat.lt_succ_self _))

end BigBlackHardware
