import BigBlackHardware.Tasks.Turns

/-! What the single calls of the handling task can change, apart from the receives and the packets
that are processed.
-/

namespace BigBlackHardware

open Library

/-- The call is neither `recv_packet` nor `process_packet`. -/
def HandlePoint.Plain : HandlePoint → Prop
  | .receiving _ | .processing _ => False
  | _ => True

def Station.setDesk (station : Station) (desk : Desk) : Station :=
  { station with device := { station.device with desk := desk } }

/-- The relation holds across every change that these calls make. -/
structure CallFrame (S : Station → Station → Prop) : Prop where
  listened : ∀ station, S station station.listened
  closed
    : ∀ station hndl,
        S station
          (station.setSocket hndl
            { station.sockets hndl with
              closeResults := (station.sockets hndl).closeResults.tail })
  sent
    : ∀ station hndl,
        S station
          (station.setSocket hndl
            (PacketHandler.sendPacket (station.sockets hndl) station.object).socket)
  setConn
    : ∀ station info hndl group,
        S station
          (station.setConn info { station.conns info with hndl := hndl, group := group })
  released
    : ∀ station info,
        S station
          { station with connectionsPool := (poolRelease station.connectionsPool info).2 }
  dequeued
    : ∀ station,
        S station
          { station with
            connectionsQueue :=
              (sysQueueReadPtr station.connectionsQueue connectionsQueueHandle).2 }
  entered : ∀ station info entry, S station (station.setEntry info entry)
  packetGot : ∀ station, S station (station.setDesk station.device.desk.packetGot)
  packetReleased
    : ∀ station packet,
        let desk := station.device.desk
        S station
          (station.setDesk { desk with packetsPool := (poolRelease desk.packetsPool packet).2 })
  replyRead
    : ∀ station queue,
        let desk := station.device.desk
        S station
          (station.setDesk { desk with messages := (sysQueueReadPtr desk.messages queue).2 })
  held : ∀ station packet junk, S station { station with packet := packet, junk := junk }
  noted : ∀ station event, S station (station.note event)

/-- The handler runs on the device of the task. -/
theorem handOver_eq (info : Nat) (station : Station)
    : handOver info station
      = onDevice (processPacket (station.queueWord (station.conns info).outQueue) station.packet)
          (station.note (.handed station.packet station.object.header.type)) := rfl

section Framed

variable {S : Station → Station → Prop}

variable [IsTrans Station S]

theorem closeSocket_framed (frame : CallFrame S) (hndl : Int) : Moves S (closeSocket hndl) :=
  fun station => IsTrans.trans _ _ _ (frame.listened station) (frame.closed station.listened hndl)

theorem readConnectionsQueue_framed (frame : CallFrame S) : Moves S readConnectionsQueue :=
  fun station =>
    IsTrans.trans _ _ _ (frame.listened station) (frame.dequeued station.listened)

variable [Std.Refl S]

theorem disableFrom_framed (frame : CallFrame S) (info : Nat) (hndl : Int)
    : Moves S (disableFrom info hndl) := by
  rw [disableFrom]
  refine .bind (closeSocket_framed frame hndl) fun status => .ite (.pure _) ?_
  exact .bind (.modify fun station => frame.setConn station info _ _) fun _ => .pure _

omit [Std.Refl S] in
theorem takePacket_framed (frame : CallFrame S) : Moves S takePacket := fun station =>
  IsTrans.trans _ _ _ (frame.listened station)
    (IsTrans.trans _ _ _ (frame.packetGot station.listened) (frame.held _ _ _))

omit [Std.Refl S] in
theorem putPacket_framed (frame : CallFrame S) : Moves S putPacket := fun station =>
  IsTrans.trans _ _ _ (frame.listened station) (frame.packetReleased station.listened _)

theorem readReply_framed (frame : CallFrame S) (missed : Bool) (info : Nat)
    : Moves S (readReply missed info) := by
  rw [readReply]
  refine .ite (.bind (.modify fun station => frame.held station _ _) fun _ => .pure _) ?_
  intro station
  have read := frame.replyRead station.listened (station.listened.conns info).outQueue
  exact IsTrans.trans _ _ _ (frame.listened station)
    (IsTrans.trans _ _ _ read (frame.held _ _ _))

theorem sendOut_framed (frame : CallFrame S) (hndl : Int) : Moves S (sendOut hndl) := by
  rw [sendOut]
  refine .bind (switchTasks_moves frame.listened) fun _ station => ?_
  exact IsTrans.trans _ _ _ (frame.sent station hndl) (awaitStatus_moves _ _)

theorem awaitConnection_framed (frame : CallFrame S) (missed : Bool)
    : Moves S (awaitConnection missed) := by
  rw [awaitConnection]
  refine .ite (.bind .get fun _ => .pure _) ?_
  refine .bind (readConnectionsQueue_framed frame) fun info => ?_
  cases info with
  | none => exact .throw _
  | some info => exact .pure _

theorem lookForConnection_framed (frame : CallFrame S) (missed : Bool)
    : Moves S (lookForConnection missed) := by
  rw [lookForConnection]
  exact .ite (.pure _) (readConnectionsQueue_framed frame)

/-- A plain call of the handling task moves the station along a frame, by its point. -/
theorem handlingStep_framed (frame : CallFrame S) (answer : Answer) {point : HandlePoint}
    (plain : point.Plain) : Moves S (handlingStep answer point) := by
  cases point with
  | receiving serving | processing serving => exact plain.elim
  | awaiting =>
      refine .bind (awaitConnection_framed frame _) fun info => ?_
      exact .bind (.modify fun station => frame.entered station _ _) fun _ =>
        .bind .get fun _ => .pure _
  | selecting maxFd readFd =>
      refine .bind (switchTasks_moves frame.listened) fun _ => .ite ?_ (.pure _)
      exact .bind .get fun _ => .pure _
  | taking serving => exact .bind (takePacket_framed frame) fun _ => .pure _
  | closing serving hndl =>
      refine .bind (disableFrom_framed frame _ _) fun status => ?_
      exact .ite (.pure _) (.pure _)
  | releasing serving =>
      refine .bind (.bind (switchTasks_moves frame.listened) fun _ station => ?_) fun _ => .pure _
      exact frame.released station _
  | putting serving => exact .bind (putPacket_framed frame) fun _ => .bind .get fun _ => .pure _
  | drawing serving => exact .bind (takePacket_framed frame) fun _ => .pure _
  | reading serving =>
      refine .bind (readReply_framed frame _ _) fun status => .ite (.pure _) ?_
      exact .bind .get fun _ => .pure _
  | sending serving => exact .bind (sendOut_framed frame _) fun _ => .pure _
  | dropping serving => exact .bind (putPacket_framed frame) fun _ => .pure _
  | looking =>
      refine .bind (lookForConnection_framed frame _) fun found => ?_
      cases found with
      | none => exact .bind .get fun _ => .pure _
      | some info =>
          refine .bind .get fun _ => .ite (.pure _) (.bind (.modify fun station => ?_) fun _ => ?_)
          · exact IsTrans.trans _ _ _ (frame.setConn station info _ _) (frame.entered _ _ _)
          · exact .bind .get fun _ => .pure _
  | refusing info hndl =>
      exact .bind (disableFrom_framed frame _ _) fun _ => .bind .get fun _ => .pure _
  | stopped => exact .throw _

end Framed

-----------------------------------------------------------------------------------------
-- Receives and the listening task
-----------------------------------------------------------------------------------------

section Receives

variable {S : Station → Station → Prop} [Std.Refl S] [IsTrans Station S]

/-- A receive moves the station along a frame if the store of what it got does. -/
theorem receivingStep_framed (frame : CallFrame S) (answer : Answer) (serving : Serving)
    (stored : ∀ station, S station (station.afterReceive serving.hndl))
    : Moves S (handlingStep answer (.receiving serving)) := by
  refine .bind (fun station => ?_) fun _ station => ?_
  · exact IsTrans.trans _ _ _ (frame.listened station)
      (IsTrans.trans _ _ _ (stored station.listened) (awaitStatus_moves _ _))
  · change S station (final
      ((if station.object.header.type = PacketType.closeConnectionPacket.val then _ else _
        : StationM _) station))
    split
    · exact IsTrans.trans _ _ _ (frame.noted station _) (frame.entered _ _ _)
    · exact Std.Refl.refl station

/-- The relation holds across every change that the listening task makes. -/
structure ListenFrame (S : Station → Station → Prop) : Prop where
  accepted
    : ∀ station accept later,
        station.accepts = accept :: later →
        S station { station with accepts := later }
        ∧ S station
            (Station.setSocket { station with accepts := later } accept.conn accept.socket)
  moved : ∀ station point, S station { station with listening := point }
  got : ∀ station, S station (getConnection station).2
  junk : ∀ station, S station { station with junk := station.junk.rest }
  filled
    : ∀ station info hndl group,
        S station
          (station.setConn info { station.conns info with hndl := hndl, group := group })
  enqueued
    : ∀ station info,
        S station
          { station with
            connectionsQueue :=
              (sysQueueWritePtr station.connectionsQueue false maxTcpConnections
                connectionsQueueHandle info).2 }

/-- A step of the listening task moves the station along a frame, by its four points. -/
theorem listeningStep_framed (frame : ListenFrame S) (station : Station)
    : S station (listeningStep station) := by
  rw [listeningStep]
  cases station.listening with
  | accepting =>
      cases accepts : station.accepts with
      | nil => exact Std.Refl.refl station
      | cons accept later =>
          obtain ⟨refused, opened⟩ := frame.accepted station accept later accepts
          dsimp only
          split
          · exact IsTrans.trans _ _ _ opened (frame.moved _ _)
          · exact IsTrans.trans _ _ _ refused (frame.moved _ .accepting)
  | fetching conn =>
      have got := frame.got station
      cases result : getConnection station with
      | mk info after =>
          rw [result] at got
          cases info with
          | none =>
              have read := IsTrans.trans _ _ _ got (frame.junk after)
              exact IsTrans.trans _ _ _ read (frame.moved _ _)
          | some info => exact IsTrans.trans _ _ _ got (frame.moved _ _)
  | filling conn info =>
      exact IsTrans.trans _ _ _ (frame.filled station info _ _) (frame.moved _ _)
  | queueing info => exact IsTrans.trans _ _ _ (frame.enqueued station info) (frame.moved _ _)

/-- The listening task's steps at a call, by induction on their number. -/
theorem listened_moves (step : ∀ station, S station (listeningStep station))
    (scheduled : ∀ station schedule, S station { station with schedule := schedule })
    (station : Station) : S station station.listened := by
  have steps (n : Nat) (start : Station) : S start (listeningStep^[n] start) := by
    induction n generalizing start with
    | zero => exact Std.Refl.refl start
    | succ n ih =>
        rw [Function.iterate_succ_apply]
        exact IsTrans.trans _ _ _ (step start) (ih _)
  rw [Station.listened]
  cases station.schedule with
  | nil => exact Std.Refl.refl station
  | cons n schedule => exact IsTrans.trans _ _ _ (scheduled station schedule) (steps n _)

omit [Std.Refl S] [IsTrans Station S] in
/-- A turn of the listening task is a step, or the kernel refuses its write. -/
theorem listeningCall_moves (step : ∀ station, S station (listeningStep station))
    (refuses : ∀ station, S station { station with listening := .accepting }) (refused : Bool)
    (station : Station) : S station (listeningCall refused station) := by
  rw [listeningCall]
  split
  · split
    · exact refuses station
    · exact step station
  · exact step station

omit [IsTrans Station S] in
/-- A turn of the handling task moves the station as its call does, or leaves it if the call waits.
-/
theorem Tasks.step_handling {tasks : Tasks} {answer : Answer}
    (moved : S tasks.station (final (handlingStep answer tasks.handling tasks.station)))
    : S tasks.station (tasks.step (.handling answer)).station := by
  rw [Tasks.step]
  cases run : handlingStep answer tasks.handling tasks.station with
  | ok next after =>
      rw [run] at moved
      exact moved
  | error e after =>
      rw [run] at moved
      cases e with
      | waiting => exact Std.Refl.refl tasks.station
      | restart | nullMcuInfo | noHandler => exact moved

end Receives

-----------------------------------------------------------------------------------------
-- Which call follows which
-----------------------------------------------------------------------------------------

/-- Where the loop goes on with that many entries of `conn_info` to come. -/
def HandlePoint.Onward (entries : Nat) : HandlePoint → Prop
  | .taking serving | .drawing serving => serving.later.length < entries
  | .looking => True
  | _ => False

theorem HandlePoint.Onward.mono {fewer entries : Nat} {point : HandlePoint}
    (onward : point.Onward fewer) (less : fewer ≤ entries) : point.Onward entries := by
  cases point with
  | taking serving | drawing serving => exact Nat.lt_of_lt_of_le onward less
  | looking => trivial
  | _ => exact onward.elim

/-- The serving of the connection when its packet was handled. -/
def Serving.handled (serving : Serving) : Serving :=
  { serving with readFd := serving.readFd.filter (· ≠ serving.hndl) }

/-- The control flow of the task: which call can follow a call that returned. -/
def HandlePoint.Leads : HandlePoint → HandlePoint → Prop
  | .awaiting, .selecting _ _ | .looking, .selecting _ _ | .looking, .refusing _ _
  | .refusing _ _, .selecting _ _ => True
  | .selecting _ _, next => next.Onward packetsGroups.length
  | .putting serving, next => next = .drawing serving.handled ∨ next.Onward serving.later.length
  | .reading serving, next => next = .sending serving ∨ next.Onward serving.later.length
  | .taking serving, .receiving same | .receiving serving, .processing same
  | .receiving serving, .closing same _ | .processing serving, .putting same
  | .closing serving _, .releasing same | .closing serving _, .putting same
  | .releasing serving, .putting same | .drawing serving, .reading same
  | .sending serving, .dropping same | .dropping serving, .drawing same => same = serving
  | _, _ => False

/-- `process_packet` is called for what was received on the same connection. -/
theorem HandlePoint.Leads.processing {point : HandlePoint} {serving : Serving}
    (leads : point.Leads (.processing serving)) : point = .receiving serving := by
  cases point with
  | receiving before => exact congrArg _ (Eq.symm leads)
  | putting before | reading before =>
      rcases leads with same | onward
      · cases same
      · exact onward.elim
  | _ => exact leads.elim

/-- A packet is sent that was read for the same connection. -/
theorem HandlePoint.Leads.sending {point : HandlePoint} {serving : Serving}
    (leads : point.Leads (.sending serving)) : point = .reading serving := by
  cases point with
  | putting before =>
      rcases leads with same | onward
      · cases same
      · exact onward.elim
  | reading before =>
      rcases leads with same | onward
      · cases same
        rfl
      · exact onward.elim
  | _ => exact leads.elim

/-- The loop over the entries goes on to a get or to its end, by induction on the entries. -/
theorem nextEntry_onward (station : Station) (readFd : List Int) (status : Int)
    (groups : List PacketGroup)
    : (nextEntry station readFd status groups).Onward groups.length := by
  induction groups with
  | nil => trivial
  | cons group groups ih =>
      have later := ih.mono (Nat.le_succ groups.length)
      rw [nextEntry]
      cases station.connInfo group with
      | none => exact later
      | some info =>
          dsimp only
          split
          · split
            · exact Nat.lt_succ_self groups.length
            · split
              · exact Nat.lt_succ_self groups.length
              · exact later
          · exact later

theorem Serving.drain_leads (serving : Serving) (status : Int) (station : Station)
    : (HandlePoint.putting serving).Leads (serving.handled.drain status station) := by
  rw [Serving.drain]
  split
  · exact Or.inl rfl
  · exact Or.inr (nextEntry_onward _ _ _ _)

/-- A call that returns leads to the next one, by the point of the task. -/
theorem handlingStep_leads (answer : Answer) (point : HandlePoint)
    : Triple (fun _ => True) (handlingStep answer point) (fun next _ => point.Leads next.1)
        (fun _ _ => True) := by
  have goes {next : HandlePoint} {did : ConnectionUse} (leads : point.Leads next)
      : Triple (fun _ => True) (pure (next, did) : StationM (HandlePoint × ConnectionUse))
          (fun next _ => point.Leads next.1) (fun _ _ => True) :=
    .pure fun _ _ => leads
  cases point with
  | awaiting =>
      refine .bind (.trivial _) fun info => .bind (.trivial _) fun _ => ?_
      exact .bind (.trivial _) fun station => goes trivial
  | selecting maxFd readFd =>
      refine .bind (.trivial _) fun _ => .ite (.bind (.trivial _) fun station => ?_) (goes trivial)
      exact goes (nextEntry_onward _ _ _ _)
  | taking serving => exact .bind (.trivial _) fun _ => goes rfl
  | receiving serving =>
      refine .bind (.trivial _) fun _ => .bind (.trivial _) fun station => .ite ?_ (goes rfl)
      exact .bind (.trivial _) fun _ => goes rfl
  | processing serving => exact .bind (.trivial _) fun _ => goes rfl
  | closing serving hndl => exact .bind (.trivial _) fun status => .ite (goes rfl) (goes rfl)
  | releasing serving => exact .bind (.trivial _) fun _ => goes rfl
  | putting serving =>
      refine .bind (.trivial _) fun _ => .bind (.trivial _) fun station => ?_
      exact goes (serving.drain_leads _ _)
  | drawing serving => exact .bind (.trivial _) fun _ => goes rfl
  | reading serving =>
      refine .bind (.trivial _) fun status => .ite (goes (Or.inl rfl)) ?_
      exact .bind (.trivial _) fun station => goes (Or.inr (nextEntry_onward _ _ _ _))
  | sending serving => exact .bind (.trivial _) fun _ => goes rfl
  | dropping serving => exact .bind (.trivial _) fun _ => goes rfl
  | looking =>
      refine .bind (.trivial _) fun found => ?_
      cases found with
      | none => exact .bind (.trivial _) fun station => goes trivial
      | some info =>
          refine .bind (.trivial _) fun station => .ite (goes trivial) ?_
          exact .bind (.trivial _) fun _ => .bind (.trivial _) fun station => goes trivial
  | refusing info hndl =>
      exact .bind (.trivial _) fun _ => .bind (.trivial _) fun station => goes trivial
  | stopped => exact .throw fun _ _ => trivial

/-- The call is not `process_packet`. -/
def HandlePoint.Unhanded (point : HandlePoint) : Prop := ∀ serving, point ≠ .processing serving

end BigBlackHardware
