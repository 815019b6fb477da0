import Mathlib.Algebra.BigOperators.Group.Finset.Basic
import Mathlib.Algebra.BigOperators.Ring.Finset
import BigBlackHardware.Tasks.Losses

/-! Who owns the packet objects whenever the handling task is at the head of its loop. -/

namespace BigBlackHardware

open Library

/-- The queue is the `out_queue` of an allocated connection. -/
def Station.isOutQueue (station : Station) (queue : Nat) : Bool :=
  (List.range station.nextConn).any fun info => (station.conns info).outQueue = queue

/-- The packets that wait in the `out_queue` of a connection. -/
def Station.outQueued (station : Station) : List Nat :=
  (station.device.desk.messages.filter
    (fun message => station.isOutQueue message.queue)).map Message.item

/-- At how many places a packet is: on the pool's free stack or in an `out_queue`. -/
def Station.places (station : Station) (packet : Nat) : Nat :=
  station.device.desk.packetsPool.freeStack.count packet + station.outQueued.count packet

/-- Each allocated packet is at exactly one place, and a get can only fail while as many packets
as the pool may have are queued.
-/
structure PacketsOwned (station : Station) : Prop where
  once : ∀ packet < station.device.desk.nextBlock, station.places packet = 1
  room : station.device.desk.messages.length < msgPoolSize → ¬ station.device.desk.UsedUp

/-- A station without packets owns them all. -/
theorem packetsOwned_of_fresh {station : Station} (fresh : station.device.desk.Fresh)
    : PacketsOwned station where
  once packet allocated := by
    rw [fresh.nextBlock] at allocated
    exact absurd allocated (Nat.not_lt_zero packet)
  room _ := fresh.room

/-- Different values have at most as many occurrences in a list as it has entries. -/
theorem sum_count_le_length (items : List Nat) (n : Nat)
    : ∑ packet ∈ Finset.range n, items.count packet ≤ items.length := by
  induction items with
  | nil => simp
  | cons item items ih =>
      simp only [List.count_cons, List.length_cons, beq_iff_eq, Finset.sum_add_distrib,
        Finset.sum_ite_eq]
      split <;> omega

/-- With a missing packet not every packet is owned: there are too few places. -/
theorem not_packetsOwned_of_missing {station : Station} (missing : station.Missing 1)
    : ¬ PacketsOwned station := by
  intro owned
  have free := sum_count_le_length station.device.desk.packetsPool.freeStack
    station.device.desk.nextBlock
  have queued := sum_count_le_length station.outQueued station.device.desk.nextBlock
  have total : ∑ packet ∈ Finset.range station.device.desk.nextBlock, station.places packet
      = station.device.desk.nextBlock := by
    rw [Finset.sum_congr rfl fun packet member => owned.once packet (Finset.mem_range.mp member)]
    simp
  have stack := station.device.desk.packetsPool.length_freeStack
  have queues : station.outQueued.length ≤ station.device.desk.messages.length := by
    rw [Station.outQueued, List.length_map]
    exact List.length_filter_le _ _
  simp only [Station.places, Finset.sum_add_distrib] at total
  have allocated := missing.allocated
  have bound := missing.missing
  omega

-----------------------------------------------------------------------------------------
-- Rounds of the loop
-----------------------------------------------------------------------------------------

/-- A round that was completed: the station at the head of the loop before and after it. -/
structure Round where
  head : Station
  selection : Selection
  next : Station

/-- The rounds that the loop completes. -/
def loopRounds : List Selection → Station → List Round
  | [], _ => []
  | selection :: selections, head =>
      match handlingRound selection head with
      | .ok _ next => ⟨head, selection, next⟩ :: loopRounds selections next
      | .error _ _ => []

/-- A loop that returns has completed a round for each result of `select`, by induction on them. -/
theorem handlingLoop_rounds {selections : List Selection} {head after : Station}
    (returns : handlingLoop selections head = .ok () after)
    : (loopRounds selections head).map Round.selection = selections
      ∧ ((loopRounds selections head).map Round.next).getLastD head = after := by
  induction selections generalizing head with
  | nil =>
      cases returns
      exact ⟨rfl, rfl⟩
  | cons selection selections ih =>
      obtain ⟨_, next, round, rest⟩ := bind_eq_ok returns
      rw [loopRounds, round]
      obtain ⟨all, last⟩ := ih rest
      refine ⟨by rw [List.map_cons, all], ?_⟩
      rw [List.map_cons, List.getLastD_cons]
      exact last

/-- In the round no connection is served: `select` finds none, or none is live when it returns. -/
def Round.Idle (round : Round) : Prop :=
  round.selection.status ≤ 0
  ∨ ∀ i, checkConnection round.head.listened (round.head.listened.connInfo i) ≠ success

/-- A group without a live connection is passed over. -/
theorem serveGroup_passed {i : PacketGroup} {station : Station}
    (dead : checkConnection station (station.connInfo i) ≠ success) (status : Int)
    (readFd : List Int)
    : serveGroup i status readFd station = .ok (status, readFd) station := by
  rw [serveGroup, bind_get]
  cases entry : station.connInfo i with
  | none => rfl
  | some info =>
      rw [entry] at dead
      simp only [dead, ↓reduceIte]
      rfl

theorem serveGroups_passed {groups : List PacketGroup} {station : Station}
    (dead : ∀ i ∈ groups, checkConnection station (station.connInfo i) ≠ success) (status : Int)
    (readFd : List Int)
    : serveGroups groups status readFd station = .ok () station := by
  induction groups with
  | nil => rfl
  | cons i groups ih =>
      rw [List.forall_mem_cons] at dead
      rw [serveGroups, bind_ok (serveGroup_passed dead.1 status readFd)]
      exact ih dead.2

/-- What every round starts with. -/
theorem handlingRound_selected (selection : Selection) (head : Station)
    : ∃ readFd,
        handlingRound selection head
        = (do
            serveSelected selection readFd
            takeConnection) head.listened :=
  ⟨_, rfl⟩

/-- An idle round leaves the device alone. -/
theorem idle_sameDevice {round : Round} (idle : round.Idle)
    (returns : handlingRound round.selection round.head = .ok () round.next)
    : round.next.device = round.head.device := by
  obtain ⟨readFd, start⟩ := handlingRound_selected round.selection round.head
  have served : serveSelected round.selection readFd round.head.listened
      = .ok () round.head.listened := by
    rw [serveSelected]
    rcases idle with quiet | dead
    · rw [if_neg (by omega)]
      rfl
    · split
      · exact serveGroups_passed (fun i _ => dead i) _ _
      · rfl
  rw [start, bind_ok served] at returns
  have taken := takeConnection_moves sameDevice_frame round.head.listened
  rw [returns] at taken
  exact taken.trans (listened_unlistened round.head).device

/-- The connections that `conn_info` knows are control connections. -/
def OnlyControl (station : Station) : Prop := ∀ i, i ≠ .controlGroup → station.connInfo i = none

/-- No other connection is added. -/
def NoneAdded (before after : Station) : Prop := OnlyControl before → OnlyControl after

instance : Std.Refl NoneAdded := ⟨fun _ h => h⟩

instance : IsTrans Station NoneAdded := ⟨fun _ _ _ one two h => two (one h)⟩

theorem noneAdded_frame : TaskFrame NoneAdded where
  listened station only i other := by
    rw [(listened_unlistened station).connInfo]
    exact only i other
  setSocket _ _ _ only := only
  setConn _ _ _ only := only
  connectionsPool _ _ only := only
  connectionsQueue _ _ only := only
  forgotten station j only i other := by
    dsimp only
    split
    · rfl
    · exact only i other
  taken station info only i other := by
    dsimp only
    rw [if_neg other]
    exact only i other
  device _ _ only := only
  held _ _ _ only := only

/-- A round adds control connections only. -/
theorem handlingRound_noneAdded (selection : Selection)
    : Moves NoneAdded (handlingRound selection) := by
  have serve (groups : List PacketGroup) (status : Int) (readFd : List Int)
      : Moves NoneAdded (serveGroups groups status readFd) := by
    induction groups generalizing status readFd with
    | nil => exact .pure _
    | cons i groups ih =>
        rw [serveGroups]
        exact .bind (serveGroup_moves noneAdded_frame (fun _ _ h => h) i status readFd)
          fun _ => ih _ _
  rw [handlingRound]
  refine .bind (selectReady_moves noneAdded_frame.toConnectionFrame selection) fun readFd => ?_
  refine .bind ?_ fun _ => takeConnection_moves noneAdded_frame.toConnectionFrame
  exact .ite (serve _ _ _) (.pure _)

theorem checkConnection_none (station : Station) : checkConnection station none ≠ success := by
  change failure ≠ success
  decide

/-- A round that is not idle loses a packet if none was allocated before. -/
theorem busy_loses {round : Round} (fresh : round.head.device.desk.Fresh)
    (only : OnlyControl round.head) (busy : ¬ round.Idle)
    (returns : handlingRound round.selection round.head = .ok () round.next)
    : round.next.Missing 1 := by
  have listened := listened_unlistened round.head
  have known : OnlyControl round.head.listened := noneAdded_frame.listened _ only
  have unknown {station : Station} (only : OnlyControl station) {i : PacketGroup}
      (other : i ≠ .controlGroup) : checkConnection station (station.connInfo i) ≠ success := by
    rw [only i other]
    exact checkConnection_none station
  rw [Round.Idle, not_or] at busy
  obtain ⟨found, served⟩ := busy
  push Not at served
  obtain ⟨i, live⟩ := served
  have control : i = .controlGroup := by
    by_contra other
    exact unknown known other live
  subst control
  obtain ⟨info, entry⟩ : ∃ info, round.head.listened.connInfo .controlGroup = some info := by
    cases entry : round.head.listened.connInfo .controlGroup with
    | none =>
        rw [entry] at live
        exact absurd live (checkConnection_none _)
    | some info => exact ⟨info, rfl⟩
  rw [entry] at live
  obtain ⟨readFd, start⟩ := handlingRound_selected round.selection round.head
  rw [start] at returns
  obtain ⟨_, served, serves, takes⟩ := bind_eq_ok returns
  rw [serveSelected, if_pos (by omega)] at serves
  obtain ⟨⟨status, fds⟩, lost, control, others⟩ := bind_eq_ok serves
  have goes : 0 ≤ round.selection.status := by omega
  have missing := serveGroup_loses goes readFd round.head.listened
    ⟨by rw [listened.device]; exact fresh, entry, live⟩
  rw [control] at missing
  have after : OnlyControl lost := by
    have added := serveGroup_moves noneAdded_frame (fun _ _ h => h) .controlGroup
      round.selection.status readFd round.head.listened known
    rwa [control] at added
  have passed : ∀ i ∈ [PacketGroup.programmerGroup, .uartGroup],
      checkConnection lost (lost.connInfo i) ≠ success := by
    intro i member
    refine unknown after ?_
    rintro rfl
    exact absurd member (by decide)
  dsimp only at others
  rw [serveGroups_passed passed] at others
  cases others
  have taken := takeConnection_moves sameDevice_frame served
  rw [takes] at taken
  rw [Station.Missing, show round.next.device = served.device from taken]
  exact missing

-----------------------------------------------------------------------------------------
-- From the start of the task
-----------------------------------------------------------------------------------------

/-- The connections on their way to the handling task are control connections. -/
structure Grouped (station : Station) : Prop where
  queued
    : ∀ message ∈ station.connectionsQueue,
        (station.conns message.item).group = .controlGroup
  queueing
    : ∀ info, station.listening = .queueing info → (station.conns info).group = .controlGroup

/-- A change of a connection that keeps its group leaves all groups alone. -/
theorem setConn_group (station : Station) {info : Nat} {conn : ConnectionInfo}
    (keeps : conn.group = (station.conns info).group) (i : Nat)
    : ((station.setConn info conn).conns i).group = (station.conns i).group := by
  dsimp only [Station.setConn]
  split
  · rename_i same
    rw [same, keeps]
  · rfl

/-- A connection that is given the control group has it, beside those that had it. -/
theorem setConn_control (station : Station) {info : Nat} {conn : ConnectionInfo}
    (control : conn.group = .controlGroup) {i : Nat}
    (before : (station.conns i).group = .controlGroup ∨ i = info)
    : ((station.setConn info conn).conns i).group = .controlGroup := by
  dsimp only [Station.setConn]
  split
  · exact control
  · rename_i other
    exact before.resolve_right other

/-- A new connection object gets no group. -/
theorem connConstructor_group (station : Station) (new info : Nat)
    : ((connConstructor station new).conns info).group = (station.conns info).group := by
  rw [connConstructor]
  exact setConn_group station (by rfl) info

/-- Getting a connection object leaves the groups and the queue alone. -/
theorem getConnection_group (station : Station) (info : Nat)
    : ((getConnection station).2.conns info).group = (station.conns info).group
      ∧ (getConnection station).2.connectionsQueue = station.connectionsQueue := by
  rw [getConnection]
  split
  · exact ⟨connConstructor_group _ _ info, rfl⟩
  · exact ⟨rfl, rfl⟩

/-- The listening task gives every connection its group before it queues it. -/
theorem listeningStep_grouped {station : Station} (grouped : Grouped station)
    : Grouped (listeningStep station) := by
  obtain ⟨queued, queueing⟩ := grouped
  rw [listeningStep]
  cases point : station.listening with
  | accepting =>
      cases station.accepts with
      | nil => exact ⟨queued, queueing⟩
      | cons accept accepts =>
          dsimp only
          split
          · exact ⟨queued, fun info next => by cases next⟩
          · exact ⟨queued, fun info next => by cases next⟩
  | fetching conn =>
      have kept := getConnection_group station
      cases got : getConnection station with
      | mk item after =>
          rw [got] at kept
          dsimp only at kept
          have same : ∀ message ∈ after.connectionsQueue,
              (after.conns message.item).group = .controlGroup := by
            intro message member
            rw [(kept 0).2] at member
            rw [(kept message.item).1]
            exact queued message member
          cases item with
          | none => exact ⟨same, fun info next => by cases next⟩
          | some item => exact ⟨same, fun info next => by cases next⟩
  | filling conn item =>
      have groups (info : Nat) (before : (station.conns info).group = .controlGroup ∨ info = item)
          : ((station.setConn item
              { station.conns item with hndl := conn, group := .controlGroup }).conns info).group
            = .controlGroup :=
        setConn_control station rfl before
      refine ⟨fun message member => groups _ (Or.inl (queued message member)), ?_⟩
      intro info next
      cases next
      exact groups item (Or.inr rfl)
  | queueing item =>
      refine ⟨?_, fun info next => by cases next⟩
      intro message member
      dsimp only [sysQueueWritePtr] at member
      split at member
      · exact queued message member
      · rcases List.mem_append.mp member with old | new
        · exact queued message old
        · rw [List.mem_singleton.mp new]
          exact queueing item point

theorem listened_grouped {station : Station} (grouped : Grouped station)
    : Grouped station.listened := by
  have steps (n : Nat) (start : Station) (grouped : Grouped start)
      : Grouped (listeningStep^[n] start) := by
    induction n generalizing start with
    | zero => exact grouped
    | succ n ih =>
        rw [Function.iterate_succ_apply]
        exact ih _ (listeningStep_grouped grouped)
  rw [Station.listened]
  cases station.schedule with
  | nil => exact grouped
  | cons n schedule => exact steps n _ ⟨grouped.queued, grouped.queueing⟩

theorem packetHandlerStart_fresh (station : Station)
    : (packetHandlerStart station).device.desk.Fresh := ⟨rfl, rfl, rfl, rfl, rfl⟩

/-- The first connection is a control connection, and no packet is allocated for it. -/
theorem firstConnection_head {station head : Station}
    (returns : firstConnection (packetHandlerStart station) = .ok () head)
    : head.device.desk.Fresh ∧ OnlyControl head := by
  let start := packetHandlerStart station
  have listened := listened_unlistened start
  have grouped : Grouped start.listened :=
    listened_grouped ⟨fun _ member => (by cases member), fun _ next => (by cases next)⟩
  have run : readConnectionsQueue start
      = .ok (sysQueueReadPtr start.listened.connectionsQueue connectionsQueueHandle).1
          { start.listened with
            connectionsQueue :=
              (sysQueueReadPtr start.listened.connectionsQueue connectionsQueueHandle).2 } := rfl
  rw [firstConnection, bind_ok run] at returns
  rw [sysQueueReadPtr] at returns
  cases found : start.listened.connectionsQueue.find?
      (fun message => message.queue = connectionsQueueHandle) with
  | none =>
      rw [found] at returns
      cases returns
  | some message =>
      rw [found] at returns
      cases returns
      have control := grouped.queued message (List.mem_of_find?_eq_some found)
      refine ⟨?_, fun i other => ?_⟩
      · dsimp only
        rw [listened.device]
        exact packetHandlerStart_fresh station
      · dsimp only
        rw [control, if_neg other, listened.connInfo]
        rfl

/-- From a head without packets on, all later heads own their packets exactly if all rounds are
idle: the first round that is not loses a packet. Witness: induction on the results of `select`.
-/
theorem loopRounds_owned_iff (selections : List Selection) {head : Station}
    (fresh : head.device.desk.Fresh) (only : OnlyControl head)
    : (∀ round ∈ loopRounds selections head, PacketsOwned round.next)
      ↔ ∀ round ∈ loopRounds selections head, round.Idle := by
  induction selections generalizing head with
  | nil => exact iff_of_true (fun _ h => by cases h) (fun _ h => by cases h)
  | cons selection selections ih =>
      rw [loopRounds]
      cases returns : handlingRound selection head with
      | error e after => exact iff_of_true (fun _ h => by cases h) (fun _ h => by cases h)
      | ok _ next =>
          let round : Round := ⟨head, selection, next⟩
          rw [List.forall_mem_cons, List.forall_mem_cons]
          by_cases idle : round.Idle
          · have same : next.device = head.device := idle_sameDevice idle returns
            have freshNext : next.device.desk.Fresh := by
              rw [same]
              exact fresh
            have onlyNext : OnlyControl next := by
              have added := handlingRound_noneAdded selection head only
              rwa [returns] at added
            rw [ih freshNext onlyNext]
            exact and_congr_left' (iff_of_true (packetsOwned_of_fresh freshNext) idle)
          · have lost : next.Missing 1 := @busy_loses round fresh only idle returns
            exact iff_of_false (fun h => not_packetsOwned_of_missing lost h.1) (fun h => idle h.1)

/-- The packets are owned whenever the task is at the head of its loop. -/
def HeadsOwned (selections : List Selection) (station : Station) : Prop :=
  ∀ head, firstConnection station = .ok () head →
    PacketsOwned head ∧ ∀ round ∈ loopRounds selections head, PacketsOwned round.next

/-- In no round of the task is a connection served. -/
def RoundsIdle (selections : List Selection) (station : Station) : Prop :=
  ∀ head, firstConnection station = .ok () head →
    ∀ round ∈ loopRounds selections head, round.Idle

/-- Whatever arrives and however the tasks are scheduled: the packets are owned at every head of
the loop exactly if no completed round serves a connection.
-/
theorem vHandlingTask_headsOwned_iff (station : Station) (selections : List Selection)
    : HeadsOwned selections (packetHandlerStart station)
      ↔ RoundsIdle selections (packetHandlerStart station) := by
  refine forall₂_congr fun head returns => ?_
  obtain ⟨fresh, only⟩ := firstConnection_head returns
  rw [loopRounds_owned_iff selections fresh only]
  exact and_iff_right (packetsOwned_of_fresh fresh)

/-- A client that sends a Reset packet, which needs no reply. -/
def resetClient : Socket := ⟨[plStartFrameByte, 0, plReset, 0, 1, 1], [5, 1], [], [], []⟩

/-- The task's loop begins with the connection of that client. -/
def resetHead : Station := final (firstConnection (packetHandlerStart (oneClient resetClient)))

/-- After the round that serves the packet its object is nowhere. -/
theorem vHandlingTask_loses_packet
    : ¬ HeadsOwned [⟨1, fun _ => true⟩] (packetHandlerStart (oneClient resetClient)) := by
  intro owned
  have begins
      : firstConnection (packetHandlerStart (oneClient resetClient)) = .ok () resetHead := rfl
  have places
      : (loopRounds [⟨1, fun _ => true⟩] resetHead).map
          (fun round => (round.next.device.desk.nextBlock, round.next.places 0))
        = [(1, 0)] := by
    decide +kernel
  obtain ⟨round, rounds, result⟩ := List.map_eq_singleton_iff.mp places
  have kept := (owned resetHead begins).2 round (by rw [rounds]; exact List.mem_singleton_self _)
  have once := kept.once 0 (by rw [(Prod.mk.inj result).1]; exact Nat.one_pos)
  rw [(Prod.mk.inj result).2] at once
  cases once

end BigBlackHardware
