import BigBlackHardware.Tasks.Ownership
import BigBlackHardware.Tasks.Turns

/-! Where the connection objects are while the two tasks take turns. -/

namespace BigBlackHardware

open Library

/-- The connection that the listening task has taken and not yet queued. -/
def ListenPoint.inHand : ListenPoint → List Nat
  | .filling _ info | .queueing info => [info]
  | .accepting | .fetching _ => []

/-- The connection that the handling task has taken from its place and not yet put to another. -/
def HandlePoint.inHand : HandlePoint → List Nat
  | .closing serving _ | .releasing serving => [serving.info]
  | .refusing info _ => [info]
  | _ => []

/-- The connections that a task is in the middle of handing over. -/
def Tasks.inHand (tasks : Tasks) : List Nat :=
  tasks.station.listening.inHand ++ tasks.handling.inHand

/-- The connections on the pool's free stack, in `connections_queue` and in
`conn_info[ControlGroup]`.
-/
def Station.keptConnections (station : Station) : List Nat :=
  station.connectionsPool.freeStack
    ++ waiting station.connectionsQueue connectionsQueueHandle
    ++ (station.connInfo .controlGroup).toList

/-- Each allocated connection that is not being handed over is at exactly one place, and the
listening task is about to store to a connection only if `pool_get` has just given it.
-/
structure ConnectionsOwned (tasks : Tasks) : Prop where
  once
    : ∀ info < tasks.station.nextConn,
        info ∉ tasks.inHand → tasks.station.keptConnections.count info = 1
  given
    : ∀ conn info, tasks.station.listening = .filling conn info → tasks.given = some info

/-- `pool_get` gives the listening task an object, and `connections_queue` takes it. -/
def ListenPoint.Orderly (station : Station) (refused : Bool) : ListenPoint → Prop
  | .fetching _ =>
      ¬ (station.connectionsPool.freeItems = 0
        ∧ station.connectionsPool.poolSize = station.connectionsPool.maxPoolSize)
  | .queueing _ => refused = false
  | .accepting | .filling _ _ => True

/-- The first read of `connections_queue` succeeds, `close` succeeds in `close_conn`, and no
connection comes while there is one.
-/
def HandlePoint.Orderly (station : Station) (answer : Answer) : HandlePoint → Prop
  | .awaiting => answer.missed = false
  | .closing _ hndl => 0 ≤ (station.sockets hndl).closeResults.headD success
  | .looking =>
      answer.missed = false → waiting station.connectionsQueue connectionsQueueHandle ≠ [] →
        station.connInfo .controlGroup = none
  | _ => True

/-- The turn does not take one of the ways on which a connection gets lost. -/
def Orderly (tasks : Tasks) : Turn → Prop
  | .listening refused => tasks.station.listening.Orderly tasks.station refused
  | .handling answer => tasks.handling.Orderly tasks.station answer

instance (station : Station) (refused : Bool)
    : (point : ListenPoint) → Decidable (point.Orderly station refused)
  | .fetching _ =>
      inferInstanceAs (Decidable
        (¬ (station.connectionsPool.freeItems = 0
          ∧ station.connectionsPool.poolSize = station.connectionsPool.maxPoolSize)))
  | .queueing _ => inferInstanceAs (Decidable (refused = false))
  | .accepting | .filling _ _ => instDecidableTrue

instance (station : Station) (answer : Answer)
    : (point : HandlePoint) → Decidable (point.Orderly station answer)
  | .awaiting => inferInstanceAs (Decidable (answer.missed = false))
  | .closing _ hndl =>
      inferInstanceAs (Decidable (0 ≤ (station.sockets hndl).closeResults.headD success))
  | .looking =>
      inferInstanceAs (Decidable
        (answer.missed = false → waiting station.connectionsQueue connectionsQueueHandle ≠ [] →
          station.connInfo .controlGroup = none))
  | .selecting _ _ | .taking _ | .receiving _ | .processing _ | .releasing _ | .putting _
  | .drawing _ | .reading _ | .sending _ | .dropping _ | .refusing _ _ | .stopped =>
      instDecidableTrue

instance (tasks : Tasks) : (turn : Turn) → Decidable (Orderly tasks turn)
  | .listening refused =>
      inferInstanceAs (Decidable (tasks.station.listening.Orderly tasks.station refused))
  | .handling answer =>
      inferInstanceAs (Decidable (tasks.handling.Orderly tasks.station answer))

/-- What is in `conn_info[ControlGroup]` at a point of the handling task. -/
def HandlePoint.Fits (entry : Option Nat) : HandlePoint → Prop
  | .awaiting => entry = none
  | .taking serving | .receiving serving => entry = some serving.info
  | .refusing _ _ => False
  | _ => True

/-- The connections are all accounted for: those at their places and those in the hands of the tasks
are the allocated ones, each once.
-/
structure Custody (tasks : Tasks) : Prop where
  unscheduled : tasks.station.schedule = []
  allocated : tasks.station.connectionsPool.poolSize = tasks.station.nextConn
  limit : tasks.station.connectionsPool.maxPoolSize = maxTcpConnections
  within : tasks.station.nextConn ≤ maxTcpConnections
  all
    : (tasks.station.keptConnections ++ tasks.inHand).Perm (List.range tasks.station.nextConn)
  control
    : ∀ info,
        info ∈ waiting tasks.station.connectionsQueue connectionsQueueHandle
          ∨ tasks.station.connInfo .controlGroup = some info
          ∨ tasks.station.listening = .queueing info
        → (tasks.station.conns info).group = .controlGroup
  only : OnlyControl tasks.station
  fits : tasks.handling.Fits (tasks.station.connInfo .controlGroup)
  given
    : ∀ conn info, tasks.station.listening = .filling conn info → tasks.given = some info

/-- With custody the connections are owned: in a permutation of different numbers each occurs
once.
-/
theorem Custody.owned {tasks : Tasks} (custody : Custody tasks) : ConnectionsOwned tasks := by
  refine ⟨fun info below free => ?_, custody.given⟩
  have once := custody.all.count_eq info
  rw [List.count_append, List.count_eq_zero_of_not_mem free, Nat.add_zero] at once
  rw [once]
  exact List.count_eq_one_of_mem List.nodup_range (List.mem_range.mpr below)

/-- At the start nothing is allocated. -/
theorem start_custody (station : Station) : Custody (.start station) where
  unscheduled := rfl
  allocated := rfl
  limit := rfl
  within := Nat.zero_le _
  all := .refl []
  control info either := by
    rcases either with queued | entry | queueing
    · cases queued
    · cases entry
    · cases queueing
  only _ _ := rfl
  fits := rfl
  given _ _ point := by cases point

-----------------------------------------------------------------------------------------
-- Turns of the listening task
-----------------------------------------------------------------------------------------

section Listening

variable {tasks : Tasks}

/-- Lists with the same occurrences are permutations of the same list. -/
theorem perm_of_count {left right all : List Nat} (perm : left.Perm all)
    (same : ∀ i, right.count i = left.count i) : right.Perm all :=
  (List.perm_iff_count.mpr same).trans perm

/-- `accept` concerns no connection object. -/
theorem accepting_custody (custody : Custody tasks)
    (point : tasks.station.listening = .accepting) (refused : Bool)
    : Custody (tasks.step (.listening refused)) := by
  obtain ⟨unscheduled, allocated, limit, within, all, control, only, fits, given⟩ := custody
  have moved (listening : ListenPoint) (sockets : Int → Socket) (accepts : List Accept)
      (hand : listening.inHand = []) (next : ∀ info, listening ≠ .queueing info)
      (write : ∀ conn info, listening ≠ .filling conn info)
      : Custody
          { tasks with
            station :=
              { tasks.station with
                listening := listening, sockets := sockets, accepts := accepts } } := by
    refine ⟨unscheduled, allocated, limit, within, ?_, fun info either => ?_, only, fits,
      fun conn info at' => absurd at' (write conn info)⟩
    · rw [Tasks.inHand, point] at all
      rw [Tasks.inHand, hand]
      exact all
    · refine control info ?_
      rcases either with queued | entry | queueing
      · exact Or.inl queued
      · exact Or.inr (Or.inl entry)
      · exact absurd queueing (next info)
  simp only [Tasks.step, listeningCall, listeningStep, point]
  cases tasks.station.accepts with
  | nil =>
      have same : Custody tasks :=
        ⟨unscheduled, allocated, limit, within, all, control, only, fits, given⟩
      exact same
  | cons accept accepts =>
      dsimp only
      split
      · exact moved (.fetching accept.conn) _ _ rfl (fun _ h => by cases h) fun _ _ h => by cases h
      · exact moved .accepting _ _ rfl (fun _ h => by cases h) fun _ _ h => by cases h

/-- What a get of a connection can do: find none, pop one, or construct one. -/
theorem getConnection_cases (station : Station)
    : (station.connectionsPool.freeItems = 0
        ∧ station.connectionsPool.poolSize = station.connectionsPool.maxPoolSize)
      ∨ (∃ n,
          station.connectionsPool.freeItems = n + 1
          ∧ getConnection station
            = (some (station.connectionsPool.data n),
                { station with
                  connectionsPool := { station.connectionsPool with freeItems := n } }))
      ∨ (station.connectionsPool.poolSize ≠ station.connectionsPool.maxPoolSize
        ∧ getConnection station
          = (some station.nextConn,
              { connConstructor
                  { station with
                    connectionsPool :=
                      { station.connectionsPool with
                        poolSize := station.connectionsPool.poolSize + 1 } }
                  station.nextConn with
                nextConn := station.nextConn + 1 })) := by
  rcases poolGet_cases station.connectionsPool station.nextConn with
      ⟨none, full, got⟩ | ⟨some, got⟩ | ⟨none, room, got⟩
  · exact Or.inl ⟨none, full⟩
  · obtain ⟨n, top⟩ := Nat.exists_eq_succ_of_ne_zero (Nat.ne_of_gt some)
    refine Or.inr (Or.inl ⟨n, top, ?_⟩)
    rw [top, Nat.succ_sub_one] at got
    rw [getConnection, got]
    rfl
  · refine Or.inr (Or.inr ⟨room, ?_⟩)
    rw [getConnection, got]
    rfl

/-- `pool_get` takes an object from the free stack into the task's hand, or a new one. -/
theorem fetching_custody (custody : Custody tasks) {conn : Int}
    (point : tasks.station.listening = .fetching conn) {refused : Bool}
    (orderly : Orderly tasks (.listening refused))
    : Custody (tasks.step (.listening refused)) := by
  obtain ⟨unscheduled, allocated, limit, within, all, control, only, fits, given⟩ := custody
  rw [Orderly, point] at orderly
  simp only [Tasks.step, listeningCall, listeningStep, point]
  rcases getConnection_cases tasks.station with usedUp | ⟨n, top, got⟩ | ⟨room, got⟩
  · exact absurd usedUp orderly
  · rw [got]
    simp only [Tasks.inHand, Station.keptConnections, point, Pool.freeStack_pop _ top,
      ListenPoint.inHand, List.nil_append] at all
    refine ⟨unscheduled, allocated, limit, within, perm_of_count all fun i => ?_,
      fun info either => ?_, only, fits, fun _ _ point => by cases point; rfl⟩
    · simp only [Tasks.inHand, Station.keptConnections, ListenPoint.inHand, List.count_append]
      omega
    · rcases either with queued | entry | queueing
      · exact control info (Or.inl queued)
      · exact control info (Or.inr (Or.inl entry))
      · cases queueing
  · rw [got]
    rw [allocated, limit] at room
    simp only [Tasks.inHand, Station.keptConnections, point, ListenPoint.inHand,
      List.nil_append] at all
    refine ⟨unscheduled, congrArg (· + 1) allocated, limit, Nat.lt_of_le_of_ne within room, ?_,
      fun info either => ?_, only, fits, fun _ _ point => by cases point; rfl⟩
    · change List.Perm _ (List.range (tasks.station.nextConn + 1))
      rw [List.range_succ]
      refine perm_of_count (all.append_right [tasks.station.nextConn]) fun i => ?_
      simp only [Tasks.inHand, Station.keptConnections, ListenPoint.inHand, Pool.freeStack,
        connConstructor, Station.setConn, List.count_append]
      omega
    · refine (connConstructor_group _ _ info).trans ?_
      rcases either with queued | entry | queueing
      · exact control info (Or.inl queued)
      · exact control info (Or.inr (Or.inl entry))
      · cases queueing

/-- The stores to the new connection give it the control group. -/
theorem filling_custody (custody : Custody tasks) {conn : Int} {info : Nat}
    (point : tasks.station.listening = .filling conn info) (refused : Bool)
    : Custody (tasks.step (.listening refused)) := by
  obtain ⟨unscheduled, allocated, limit, within, all, control, only, fits, given⟩ := custody
  simp only [Tasks.inHand, point] at all
  simp only [Tasks.step, listeningCall, listeningStep, point]
  refine ⟨unscheduled, allocated, limit, within, all, fun i either => ?_, only, fits,
    fun _ _ point => by cases point⟩
  refine setConn_control tasks.station rfl ?_
  rcases either with queued | entry | queueing
  · exact Or.inl (control i (Or.inl queued))
  · exact Or.inl (control i (Or.inr (Or.inl entry)))
  · cases queueing
    exact Or.inr rfl

/-- The write to `connections_queue` finds room, as there are no more connections than places. -/
theorem queueing_custody (custody : Custody tasks) {info : Nat}
    (point : tasks.station.listening = .queueing info) {refused : Bool}
    (orderly : Orderly tasks (.listening refused))
    : Custody (tasks.step (.listening refused)) := by
  obtain ⟨unscheduled, allocated, limit, within, all, control, only, fits, given⟩ := custody
  rw [Orderly, point] at orderly
  simp only [Tasks.inHand, Station.keptConnections, point, ListenPoint.inHand] at all
  have room
      : ¬ maxTcpConnections
        ≤ (waiting tasks.station.connectionsQueue connectionsQueueHandle).length := by
    have total := all.length_eq
    simp only [List.length_append, List.length_singleton, List.length_range] at total
    omega
  have written
      : sysQueueWritePtr tasks.station.connectionsQueue false maxTcpConnections
          connectionsQueueHandle info
        = (osiOk, tasks.station.connectionsQueue ++ [⟨connectionsQueueHandle, info⟩]) := by
    rw [sysQueueWritePtr, if_neg (by simpa using room)]
  subst orderly
  simp only [Tasks.step, listeningCall, listeningStep, point, written, Bool.false_eq_true,
    ↓reduceIte]
  have queue := waiting_append tasks.station.connectionsQueue connectionsQueueHandle info
  refine ⟨unscheduled, allocated, limit, within, perm_of_count all fun i => ?_,
    fun i either => ?_, only, fits, fun _ _ point => by cases point⟩
  · simp only [Tasks.inHand, Station.keptConnections, ListenPoint.inHand, queue, List.count_append,
      List.count_nil]
    omega
  · rcases either with queued | entry | queueing
    · change i ∈ waiting (_ ++ [_]) _ at queued
      rw [queue] at queued
      rcases List.mem_append.mp queued with old | new
      · exact control i (Or.inl old)
      · rw [List.mem_singleton.mp new]
        exact control info (Or.inr (Or.inr point))
    · exact control i (Or.inr (Or.inl entry))
    · cases queueing

/-- An orderly turn of the listening task, by its four points. -/
theorem listening_custody (custody : Custody tasks) {refused : Bool}
    (orderly : Orderly tasks (.listening refused))
    : Custody (tasks.step (.listening refused)) := by
  cases point : tasks.station.listening with
  | accepting => exact accepting_custody custody point refused
  | fetching conn => exact fetching_custody custody point orderly
  | filling conn info => exact filling_custody custody point refused
  | queueing info => exact queueing_custody custody point orderly

end Listening

-----------------------------------------------------------------------------------------
-- Quiet calls of the handling task
-----------------------------------------------------------------------------------------

/-- The connections and what the listening task does are the same. -/
structure SameConnections (before after : Station) : Prop where
  schedule : after.schedule = before.schedule
  conns : after.conns = before.conns
  connectionsPool : after.connectionsPool = before.connectionsPool
  nextConn : after.nextConn = before.nextConn
  connectionsQueue : after.connectionsQueue = before.connectionsQueue
  connInfo : after.connInfo = before.connInfo
  listening : after.listening = before.listening

/-- While no task is scheduled within a call, the connections stay the same. -/
def KeepsConnections (before after : Station) : Prop :=
  before.schedule = [] → SameConnections before after

instance : Std.Refl KeepsConnections := ⟨fun _ _ => ⟨rfl, rfl, rfl, rfl, rfl, rfl, rfl⟩⟩

instance : IsTrans Station KeepsConnections where
  trans _ _ _ first second unscheduled := by
    have one := first unscheduled
    have two := second (one.schedule.trans unscheduled)
    exact ⟨two.schedule.trans one.schedule, two.conns.trans one.conns,
      two.connectionsPool.trans one.connectionsPool, two.nextConn.trans one.nextConn,
      two.connectionsQueue.trans one.connectionsQueue, two.connInfo.trans one.connInfo,
      two.listening.trans one.listening⟩

theorem listened_of_unscheduled {station : Station} (unscheduled : station.schedule = [])
    : station.listened = station := by
  rw [Station.listened, unscheduled]

/-- Moving packets leaves the connections alone. -/
theorem keepsConnections_frame : PacketFrame KeepsConnections where
  listened station unscheduled := by
    rw [listened_of_unscheduled unscheduled]
    exact Std.Refl.refl (r := KeepsConnections) station unscheduled
  setSocket _ _ _ _ := ⟨rfl, rfl, rfl, rfl, rfl, rfl, rfl⟩
  device _ _ _ := ⟨rfl, rfl, rfl, rfl, rfl, rfl, rfl⟩
  held _ _ _ _ := ⟨rfl, rfl, rfl, rfl, rfl, rfl, rfl⟩

theorem keepsConnections_note (station : Station) (event : TaskEvent)
    : KeepsConnections station (station.note event) :=
  fun _ => ⟨rfl, rfl, rfl, rfl, rfl, rfl, rfl⟩

theorem handOver_keepsConnections (info : Nat) : Moves KeepsConnections (handOver info) :=
  fun station =>
    IsTrans.trans _ _ _ (keepsConnections_note station _)
      (onDevice_moves keepsConnections_frame _ _)

/-- Such a program returns and stops with the connections of the station. -/
theorem sameConnections_of_moves {α : Type} {m : StationM α} (moves : Moves KeepsConnections m)
    {station : Station} (unscheduled : station.schedule = [])
    : Triple (SameConnections station) m (fun _ => SameConnections station)
        (fun _ => SameConnections station) :=
  (moves.triple station).mono (fun _ same _ => same) (fun _ _ kept => kept unscheduled)
    fun _ _ kept => kept unscheduled

/-- The task has no connection in its hands and its point fits the entry. -/
def HandlePoint.Clear (entry : Option Nat) (point : HandlePoint) : Prop :=
  point.inHand = [] ∧ point.Fits entry

theorem stopped_clear (entry : Option Nat) : HandlePoint.stopped.Clear entry :=
  ⟨rfl, True.intro⟩

/-- The next entry of `conn_info` that is served is the control connection, by induction on the
entries.
-/
theorem nextEntry_clear {station : Station} (only : OnlyControl station) (readFd : List Int)
    (status : Int) (groups : List PacketGroup)
    : (nextEntry station readFd status groups).Clear (station.connInfo .controlGroup) := by
  induction groups with
  | nil => exact ⟨rfl, True.intro⟩
  | cons i groups ih =>
      rw [nextEntry]
      cases entry : station.connInfo i with
      | none => exact ih
      | some info =>
          have control : i = .controlGroup := by
            by_contra other
            rw [only i other] at entry
            cases entry
          subst control
          dsimp only
          split
          · split
            · exact ⟨rfl, entry⟩
            · split
              · exact ⟨rfl, True.intro⟩
              · exact ih
          · exact ih

section Handling

variable {tasks : Tasks}

/-- With the same connections, none in the task's hands before or after, custody stays. -/
theorem Custody.same (custody : Custody tasks) {after : Station}
    (same : SameConnections tasks.station after) (empty : tasks.handling.inHand = [])
    {point : HandlePoint} (clear : point.Clear (tasks.station.connInfo .controlGroup))
    (uses : List ConnectionUse)
    : Custody { tasks with station := after, handling := point, uses := uses } where
  unscheduled := same.schedule.trans custody.unscheduled
  allocated := by rw [same.connectionsPool, same.nextConn, custody.allocated]
  limit := by rw [same.connectionsPool, custody.limit]
  within := by rw [same.nextConn]; exact custody.within
  all := by
    have all := custody.all
    rw [Tasks.inHand, empty] at all
    rw [Tasks.inHand, clear.1, same.listening, same.nextConn, Station.keptConnections,
      same.connectionsPool, same.connectionsQueue, same.connInfo]
    exact all
  control := by
    rw [same.conns, same.connectionsQueue, same.connInfo, same.listening]
    exact custody.control
  only := by
    rw [OnlyControl, same.connInfo]
    exact custody.only
  fits := by
    rw [same.connInfo]
    exact clear.2
  given := by
    rw [same.listening]
    exact custody.given

/-- A step of the task that leaves custody, however it ends, is a turn that does. -/
theorem custody_of_triple (custody : Custody tasks) {answer : Answer}
    (step
      : Triple (· = tasks.station) (handlingStep answer tasks.handling)
          (fun next after =>
            Custody
              { tasks with
                station := after, handling := next.1, uses := tasks.uses ++ [next.2] })
          (fun e after =>
            e = .waiting ∨ Custody { tasks with station := after, handling := .stopped }))
    : Custody (tasks.step (.handling answer)) := by
  have ends := step tasks.station rfl
  rw [Tasks.step]
  cases run : handlingStep answer tasks.handling tasks.station with
  | ok next after => rw [run] at ends; exact ends
  | error e after =>
      rw [run] at ends
      cases e with
      | waiting => exact custody
      | _ => exact ends.resolve_left (fun h => by cases h)

/-- A step that only leaves the connections alone and comes to a clear point. -/
theorem quiet_custody (custody : Custody tasks) (empty : tasks.handling.inHand = [])
    {answer : Answer}
    (step
      : Triple (SameConnections tasks.station) (handlingStep answer tasks.handling)
          (fun next after =>
            SameConnections tasks.station after
            ∧ next.1.Clear (tasks.station.connInfo .controlGroup))
          (fun _ => SameConnections tasks.station))
    : Custody (tasks.step (.handling answer)) := by
  refine custody_of_triple custody (step.mono ?_ ?_ ?_)
  · rintro station rfl
    exact ⟨rfl, rfl, rfl, rfl, rfl, rfl, rfl⟩
  · intro next after quiet
    exact custody.same quiet.1 empty quiet.2 _
  · intro e after same
    exact Or.inr (custody.same same empty (stopped_clear _) _)

end Handling

/-- The calls that move packets, and `select`. -/
def HandlePoint.MovesPackets : HandlePoint → Prop
  | .awaiting | .receiving _ | .closing _ _ | .releasing _ | .looking | .refusing _ _ => False
  | _ => True

/-- Such a call leaves the connections alone, by its point. -/
theorem movingStep_clear {station : Station} (unscheduled : station.schedule = [])
    (only : OnlyControl station) {point : HandlePoint} (moves : point.MovesPackets)
    (fits : point.Fits (station.connInfo .controlGroup)) (answer : Answer)
    : Triple (SameConnections station) (handlingStep answer point)
        (fun next after =>
          SameConnections station after ∧ next.1.Clear (station.connInfo .controlGroup))
        (fun _ => SameConnections station) := by
  have frame := keepsConnections_frame
  have keeps {α : Type} {m : StationM α} (moves : Moves KeepsConnections m) :=
    sameConnections_of_moves moves unscheduled
  have leave (point : HandlePoint) (did : ConnectionUse)
      (clear : point.Clear (station.connInfo .controlGroup))
      : Triple (SameConnections station) (pure (point, did) : StationM _)
          (fun next after =>
            SameConnections station after ∧ next.1.Clear (station.connInfo .controlGroup))
          (fun _ => SameConnections station) :=
    .pure fun after same => ⟨same, clear⟩
  have served {after : Station} (same : SameConnections station after) (readFd : List Int)
      (status : Int) (groups : List PacketGroup)
      : (nextEntry after readFd status groups).Clear (station.connInfo .controlGroup) := by
    rw [← same.connInfo]
    refine nextEntry_clear ?_ readFd status groups
    rw [OnlyControl, same.connInfo]
    exact only
  cases point with
  | awaiting | receiving | closing | releasing | looking | refusing => cases moves
  | selecting maxFd readFd =>
      refine .bind (keeps (switchTasks_moves frame.listened)) fun _ => ?_
      refine .ite (fun after same => ?_) (leave _ _ ⟨rfl, True.intro⟩)
      exact ⟨same, served same _ _ _⟩
  | taking serving =>
      exact .bind (keeps (takePacket_moves frame)) fun _ => leave _ _ ⟨rfl, fits⟩
  | processing serving =>
      exact .bind (keeps (handOver_keepsConnections _)) fun _ => leave _ _ ⟨rfl, True.intro⟩
  | putting serving =>
      refine .bind (keeps (putPacket_moves frame)) fun status after same => ⟨same, ?_⟩
      dsimp only [Serving.drain]
      split
      · exact ⟨rfl, True.intro⟩
      · exact served same _ _ _
  | drawing serving =>
      exact .bind (keeps (takePacket_moves frame)) fun _ => leave _ _ ⟨rfl, True.intro⟩
  | reading serving =>
      refine .bind (keeps (readReply_moves frame _ _)) fun status => ?_
      refine .ite ?_ ?_
      · exact leave _ _ ⟨rfl, True.intro⟩
      · exact fun after same => ⟨same, served same _ _ _⟩
  | sending serving =>
      exact .bind (keeps (sendOut_moves frame _)) fun _ => leave _ _ ⟨rfl, True.intro⟩
  | dropping serving =>
      exact .bind (keeps (putPacket_moves frame)) fun _ => leave _ _ ⟨rfl, True.intro⟩
  | stopped => exact .throw fun after same => same

-----------------------------------------------------------------------------------------
-- Calls of the handling task that move a connection
-----------------------------------------------------------------------------------------

theorem readConnectionsQueue_eq {station : Station} (unscheduled : station.schedule = [])
    : readConnectionsQueue station
      = .ok (sysQueueReadPtr station.connectionsQueue connectionsQueueHandle).1
          { station with
            connectionsQueue :=
              (sysQueueReadPtr station.connectionsQueue connectionsQueueHandle).2 } := by
  have run : readConnectionsQueue station
      = .ok (sysQueueReadPtr station.listened.connectionsQueue connectionsQueueHandle).1
          { station.listened with
            connectionsQueue :=
              (sysQueueReadPtr station.listened.connectionsQueue connectionsQueueHandle).2 } :=
    rfl
  rwa [listened_of_unscheduled unscheduled] at run

/-- A read of `connections_queue` finds nothing, or takes the connection that is first in it. -/
theorem readConnectionsQueue_cases {station : Station} (unscheduled : station.schedule = [])
    : readConnectionsQueue station = .ok none station
      ∨ ∃ info queue,
        readConnectionsQueue station
          = .ok (some info) { station with connectionsQueue := queue }
        ∧ waiting station.connectionsQueue connectionsQueueHandle
          = info :: waiting queue connectionsQueueHandle := by
  obtain ⟨head, rest⟩ := sysQueueReadPtr_waiting station.connectionsQueue connectionsQueueHandle
  have run := readConnectionsQueue_eq unscheduled
  cases queued : waiting station.connectionsQueue connectionsQueueHandle with
  | nil =>
      rw [queued] at head
      rw [sysQueueReadPtr_none head, head] at run
      exact Or.inl run
  | cons info later =>
      rw [queued] at head rest
      rw [head] at run
      exact Or.inr ⟨info, _, run, congrArg _ rest.symm⟩

/-- The station when a call of `close` has had its result. -/
def Station.closeTried (station : Station) (hndl : Int) : Station :=
  station.setSocket hndl
    { station.sockets hndl with closeResults := (station.sockets hndl).closeResults.tail }

/-- `disable_connection` by the result of `close`. -/
theorem disableFrom_eq {station : Station} (unscheduled : station.schedule = []) (info : Nat)
    (hndl : Int)
    : disableFrom info hndl station
      = .ok ((station.sockets hndl).closeResults.headD success)
          (if (station.sockets hndl).closeResults.headD success < 0 then station.closeTried hndl
          else
            (station.closeTried hndl).setConn info
              { station.conns info with hndl := hndlInactive }) := by
  have run : closeSocket hndl station
      = .ok ((station.listened.sockets hndl).closeResults.headD success)
          (station.listened.closeTried hndl) :=
    rfl
  rw [listened_of_unscheduled unscheduled] at run
  rw [disableFrom, bind_ok run]
  split
  · rfl
  · rfl

theorem releaseConnection_eq {station : Station} (unscheduled : station.schedule = []) (info : Nat)
    : releaseConnection info station
      = .ok (poolRelease station.connectionsPool info).1
          { station with connectionsPool := (poolRelease station.connectionsPool info).2 } := by
  have run : releaseConnection info station
      = .ok (poolRelease station.listened.connectionsPool info).1
          { station.listened with
            connectionsPool := (poolRelease station.listened.connectionsPool info).2 } :=
    rfl
  rwa [listened_of_unscheduled unscheduled] at run

section Handling

variable {tasks : Tasks}

/-- The oldest connection in the queue becomes the control connection, if there is none. -/
theorem adopted_custody (custody : Custody tasks) (empty : tasks.handling.inHand = [])
    (vacant : tasks.station.connInfo .controlGroup = none) {info : Nat} {queue : List Message}
    (waits
      : waiting tasks.station.connectionsQueue connectionsQueueHandle
        = info :: waiting queue connectionsQueueHandle)
    {conns : Nat → ConnectionInfo}
    (groups
      : ∀ i, (tasks.station.conns i).group = .controlGroup → (conns i).group = .controlGroup)
    (maxFd : Int) (readFd : List Int) (uses : List ConnectionUse)
    : Custody
        { tasks with
          station :=
            { tasks.station with connectionsQueue := queue, conns := conns }.setEntry info
              (some info)
          handling := .selecting maxFd readFd
          uses := uses } := by
  obtain ⟨unscheduled, allocated, limit, within, all, control, only, fits, given⟩ := custody
  have own : (conns info).group = .controlGroup := by
    refine groups info (control info (Or.inl ?_))
    rw [waits]
    exact List.mem_cons_self
  have adopts
      : { tasks.station with connectionsQueue := queue, conns := conns }.setEntry info (some info)
        = { tasks.station with
            connectionsQueue := queue
            conns := conns
            connInfo :=
              fun i => if i = .controlGroup then some info else tasks.station.connInfo i } := by
    rw [Station.setEntry, own]
  rw [adopts]
  refine ⟨unscheduled, allocated, limit, within, perm_of_count all fun i => ?_, ?_, ?_, True.intro,
    given⟩
  · have empties : (HandlePoint.selecting maxFd readFd).inHand = [] := rfl
    simp only [Tasks.inHand, Station.keptConnections, waits, vacant, empty, empties,
      ↓reduceIte, List.count_append, List.count_cons, Option.toList_none, Option.toList_some,
      List.count_nil]
    omega
  · intro i either
    refine groups i (control i ?_)
    rw [waits]
    rcases either with queued | entry | queueing
    · exact Or.inl (List.mem_cons_of_mem _ queued)
    · have same : some info = some i := entry
      rw [Option.some.inj same]
      exact Or.inl List.mem_cons_self
    · exact Or.inr (Or.inr queueing)
  · intro i other
    dsimp only
    rw [if_neg other]
    exact only i other

/-- `close_conn` takes the connection from the entry into the task's hand. -/
theorem forgotten_custody (custody : Custody tasks) {serving : Serving}
    (point : tasks.handling = .receiving serving) (event : TaskEvent) (hndl : Int)
    (uses : List ConnectionUse)
    : Custody
        { tasks with
          station := (tasks.station.note event).setEntry serving.info none
          handling := .closing serving hndl
          uses := uses } := by
  obtain ⟨unscheduled, allocated, limit, within, all, control, only, fits, given⟩ := custody
  rw [point] at fits
  have entry : tasks.station.connInfo .controlGroup = some serving.info := fits
  have own : ((tasks.station.note event).conns serving.info).group = .controlGroup :=
    control serving.info (Or.inr (Or.inl entry))
  rw [Station.setEntry, own]
  refine ⟨unscheduled, allocated, limit, within, perm_of_count all fun i => ?_, ?_, ?_, True.intro,
    given⟩
  · simp only [Tasks.inHand, Station.keptConnections, Station.note, point, entry,
      HandlePoint.inHand, ↓reduceIte, List.count_append, Option.toList_none, Option.toList_some,
      List.count_nil]
    omega
  · intro i either
    rcases either with queued | entered | queueing
    · exact control i (Or.inl queued)
    · cases entered
    · exact control i (Or.inr (Or.inr queueing))
  · intro i other
    dsimp only
    rw [if_neg other]
    exact only i other

/-- A `close` that succeeds leaves the connection in the task's hand, without a handle. -/
theorem disabled_custody (custody : Custody tasks) {serving : Serving} {hndl : Int}
    (point : tasks.handling = .closing serving hndl) {conns : Nat → ConnectionInfo}
    (groups : ∀ i, (conns i).group = (tasks.station.conns i).group) (sockets : Int → Socket)
    (uses : List ConnectionUse)
    : Custody
        { tasks with
          station := { tasks.station with conns := conns, sockets := sockets }
          handling := .releasing serving
          uses := uses } := by
  obtain ⟨unscheduled, allocated, limit, within, all, control, only, fits, given⟩ := custody
  rw [Tasks.inHand, point] at all
  refine ⟨unscheduled, allocated, limit, within, all, fun i either => ?_, only, True.intro, given⟩
  rw [groups]
  exact control i either

/-- `pool_release` puts the connection from the task's hand on the free stack. -/
theorem released_custody (custody : Custody tasks) {serving : Serving}
    (point : tasks.handling = .releasing serving) (uses : List ConnectionUse)
    : Custody
        { tasks with
          station :=
            { tasks.station with
              connectionsPool :=
                { tasks.station.connectionsPool with
                  data :=
                    tasks.station.connectionsPool.data.store
                      tasks.station.connectionsPool.freeItems [serving.info]
                  freeItems := tasks.station.connectionsPool.freeItems + 1 } }
          handling := .putting serving
          uses := uses } := by
  obtain ⟨unscheduled, allocated, limit, within, all, control, only, fits, given⟩ := custody
  refine ⟨unscheduled, allocated, limit, within, perm_of_count all fun i => ?_, control, only,
    True.intro, given⟩
  simp only [Tasks.inHand, Station.keptConnections, point, HandlePoint.inHand,
    Pool.freeStack_push, List.count_append, List.count_nil]
  omega

/-- The first read of `connections_queue` waits or gives the oldest connection in it. -/
theorem awaiting_custody (custody : Custody tasks) (point : tasks.handling = .awaiting)
    {answer : Answer} (hit : answer.missed = false) : Custody (tasks.step (.handling answer)) := by
  have vacant := custody.fits
  rw [point] at vacant
  rcases readConnectionsQueue_cases custody.unscheduled with run | ⟨info, queue, run, queued⟩
  · have waits : awaitConnection false tasks.station = .error .waiting _ := bind_ok run
    have stops : handlingStep answer .awaiting tasks.station = .error .waiting _ :=
      bind_error (hit ▸ waits)
    rw [Tasks.step, point, stops]
    exact custody
  · have takes : awaitConnection false tasks.station = .ok info _ := bind_ok run
    have goes : handlingStep answer .awaiting tasks.station = _ := bind_ok (hit ▸ takes)
    rw [Tasks.step, point, goes]
    exact adopted_custody custody (by rw [point]; rfl) vacant queued (fun _ group => group) _ _ _

/-- `recv_packet` keeps the connection in its entry, unless the packet asks to close it. -/
theorem receiving_custody (custody : Custody tasks) {serving : Serving}
    (point : tasks.handling = .receiving serving) (answer : Answer)
    : Custody (tasks.step (.handling answer)) := by
  have keeps := sameConnections_of_moves
    (receiveInto_moves keepsConnections_frame keepsConnections_note serving.hndl)
    custody.unscheduled
  have empty : tasks.handling.inHand = [] := by
    rw [point]
    rfl
  have fits : (HandlePoint.receiving serving).Clear (tasks.station.connInfo .controlGroup) :=
    ⟨rfl, point ▸ custody.fits⟩
  have processing
      : (HandlePoint.processing serving).Clear (tasks.station.connInfo .controlGroup) :=
    ⟨rfl, True.intro⟩
  refine custody_of_triple custody ?_
  rw [point]
  refine Triple.mono (P := SameConnections tasks.station) ?_ ?_ (fun _ _ h => h) (fun _ _ h => h)
  · refine .bind (keeps.mono (fun _ h => h) (fun _ _ h => h) fun e after kept => ?_)
      fun status => ?_
    · exact Or.inr (custody.same kept empty (stopped_clear _) _)
    · refine .bind .get fun read => .ite ?_ ?_
      · rintro after ⟨rfl, kept⟩
        exact forgotten_custody (custody.same kept empty fits tasks.uses) rfl _ _ _
      · rintro after ⟨rfl, kept⟩
        exact custody.same kept empty processing _
  · rintro station rfl
    exact ⟨rfl, rfl, rfl, rfl, rfl, rfl, rfl⟩

/-- The `close` in `close_conn`, if it succeeds. -/
theorem closing_custody (custody : Custody tasks) {serving : Serving} {hndl : Int}
    (point : tasks.handling = .closing serving hndl) {answer : Answer}
    (orderly : Orderly tasks (.handling answer))
    : Custody (tasks.step (.handling answer)) := by
  rw [Orderly, point] at orderly
  have run := disableFrom_eq custody.unscheduled serving.info hndl
  rw [if_neg (Int.not_lt.mpr orderly)] at run
  have goes : handlingStep answer (.closing serving hndl) tasks.station
      = .ok (.releasing serving, .closed serving.info hndl)
          ((tasks.station.closeTried hndl).setConn serving.info
            { tasks.station.conns serving.info with hndl := hndlInactive }) := by
    refine (bind_ok run).trans ?_
    rw [if_neg (Int.not_lt.mpr orderly)]
    rfl
  rw [Tasks.step, point, goes]
  refine disabled_custody custody point (fun i => ?_) _ _
  exact setConn_group (tasks.station.closeTried hndl) (by rfl) i

/-- The release in `close_conn`: as the object is in the task's hand, the pool has room for it. -/
theorem releasing_custody (custody : Custody tasks) {serving : Serving}
    (point : tasks.handling = .releasing serving) (answer : Answer)
    : Custody (tasks.step (.handling answer)) := by
  have total := custody.all.length_eq
  simp only [Tasks.inHand, Station.keptConnections, point, HandlePoint.inHand, List.length_append,
    List.length_singleton, List.length_range, ← custody.allocated, Pool.length_freeStack] at total
  have run := releaseConnection_eq custody.unscheduled serving.info
  rcases poolRelease_cases tasks.station.connectionsPool serving.info with
      ⟨full, -⟩ | ⟨out, released⟩
  · omega
  · rw [released] at run
    have goes : handlingStep answer (.releasing serving) tasks.station
        = .ok (.putting serving, .released serving.info) _ := bind_ok run
    rw [Tasks.step, point, goes]
    exact released_custody custody point _

/-- The read of `connections_queue` in the loop finds nothing, or a connection while there is no
other.
-/
theorem looking_custody (custody : Custody tasks) (point : tasks.handling = .looking)
    {answer : Answer} (orderly : Orderly tasks (.handling answer))
    : Custody (tasks.step (.handling answer)) := by
  rw [Orderly, point] at orderly
  have empty : tasks.handling.inHand = [] := by
    rw [point]
    rfl
  have nothing (look : lookForConnection answer.missed tasks.station = .ok none tasks.station)
      : Custody (tasks.step (.handling answer)) := by
    have goes : handlingStep answer .looking tasks.station
        = .ok (loopHead tasks.station, .other) tasks.station := bind_ok look
    have clear : (loopHead tasks.station).Clear (tasks.station.connInfo .controlGroup) :=
      ⟨rfl, True.intro⟩
    rw [Tasks.step, point, goes]
    exact custody.same ⟨rfl, rfl, rfl, rfl, rfl, rfl, rfl⟩ empty clear _
  cases missed : answer.missed with
  | true =>
      rw [missed] at nothing
      exact nothing rfl
  | false =>
      rcases readConnectionsQueue_cases custody.unscheduled with run | ⟨info, queue, run, queued⟩
      · rw [missed] at nothing
        exact nothing run
      · have vacant := orderly missed (by rw [queued]; exact List.cons_ne_nil _ _)
        let read : Station := { tasks.station with connectionsQueue := queue }
        let adopted : Station :=
          (read.setConn info { read.conns info with group := .controlGroup }).setEntry info
            (some info)
        have look : lookForConnection answer.missed tasks.station = .ok (some info) read := by
          rw [missed]
          exact run
        have goes : handlingStep answer .looking tasks.station
            = .ok (loopHead adopted, .obtained info) adopted := by
          refine (bind_ok look).trans ?_
          change (if read.connInfo .controlGroup ≠ none then _ else _ : StationM _) read = _
          rw [if_neg (not_not.mpr vacant)]
          rfl
        rw [Tasks.step, point, goes]
        refine adopted_custody custody empty vacant queued (fun i group => ?_) _ _ _
        exact setConn_control read rfl (Or.inl group)

/-- An orderly turn of the handling task, by its point. -/
theorem handling_custody (custody : Custody tasks) {answer : Answer}
    (orderly : Orderly tasks (.handling answer))
    : Custody (tasks.step (.handling answer)) := by
  have moving (moves : tasks.handling.MovesPackets) : Custody (tasks.step (.handling answer)) := by
    have empty : tasks.handling.inHand = [] := by
      cases point : tasks.handling <;> rw [point] at moves <;> first | rfl | cases moves
    refine quiet_custody custody empty ?_
    exact movingStep_clear custody.unscheduled custody.only moves custody.fits answer
  cases point : tasks.handling with
  | awaiting =>
      rw [Orderly, point] at orderly
      exact awaiting_custody custody point orderly
  | receiving serving => exact receiving_custody custody point answer
  | closing serving hndl => exact closing_custody custody point orderly
  | releasing serving => exact releasing_custody custody point answer
  | looking => exact looking_custody custody point orderly
  | refusing info hndl =>
      have fits := custody.fits
      rw [point] at fits
      cases fits
  | _ =>
      rw [point] at moving
      exact moving True.intro

end Handling

-----------------------------------------------------------------------------------------
-- Runs
-----------------------------------------------------------------------------------------

/-- An orderly turn keeps custody. -/
theorem step_custody (tasks : Tasks) (turn : Turn) (custody : Custody tasks)
    (orderly : Orderly tasks turn) : Custody (tasks.step turn) := by
  cases turn with
  | listening refused => exact listening_custody custody orderly
  | handling answer => exact handling_custody custody orderly

/-- In every run of orderly turns, in whatever order the tasks take them, the connections are owned
at each instant.
-/
theorem tasks_connectionsOwned {station : Station} {turns : List Turn}
    (orderly : Obeys Tasks.step Orderly turns (.start station))
    : ∀ tasks ∈ instants Tasks.step turns (.start station), ConnectionsOwned tasks := by
  intro tasks member
  exact (orderly.instants step_custody (start_custody station) tasks member).owned

/-- Two clients that connect one after the other. -/
def twoClients (first second : Socket) : Station :=
  { oneClient first with accepts := [⟨1, first⟩, ⟨2, second⟩] }

/-- The listening task serves one client, from `accept` to the write to `connections_queue`. -/
def clientTurns : List Turn := List.replicate 4 (.listening false)

/-- Calls of the handling task for which `select` finds every socket ready, or none. -/
def handlingTurns (n : Nat) (status : Int) : List Turn :=
  List.replicate n (.handling ⟨⟨status, fun _ => true⟩, false⟩)

/-- A client that sends a packet to close the connection. -/
def closingClient : Socket :=
  ⟨[plStartFrameByte, 0, plCloseConnection, 0, 1, 0], [5, 1], [], [], []⟩

/-- A client that sends nothing. -/
def quietClient : Socket := ⟨[], [], [], [], []⟩

/-- A client closes its connection, and the next one gets the same object. -/
theorem tasks_connectionsOwned_closed
    : ConnectionsOwned
        (afterTurns Tasks.step
          (clientTurns ++ handlingTurns 12 1 ++ clientTurns ++ handlingTurns 2 1)
          (.start (twoClients closingClient quietClient))) :=
  tasks_connectionsOwned (by decide +kernel) _ (afterTurns_mem_instants _ _)

/-- A client connects while another one is connected, and its object is nowhere afterwards. -/
theorem tasks_lose_connection
    : ¬ ∀ tasks ∈ instants Tasks.step
        (clientTurns ++ handlingTurns 1 0 ++ clientTurns ++ handlingTurns 3 0)
        (.start (twoClients quietClient quietClient)),
        ConnectionsOwned tasks := by
  intro owned
  have last := owned _ (afterTurns_mem_instants _ _)
  have allocated
      : 1 < (afterTurns Tasks.step
          (clientTurns ++ handlingTurns 1 0 ++ clientTurns ++ handlingTurns 3 0)
          (.start (twoClients quietClient quietClient))).station.nextConn := by
    decide +kernel
  have once := last.once 1 allocated (by decide +kernel)
  revert once
  decide +kernel

end BigBlackHardware
