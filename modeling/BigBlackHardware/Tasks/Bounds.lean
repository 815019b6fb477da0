import BigBlackHardware.Controller.DeskFrame
import BigBlackHardware.Controller.NewReplies
import BigBlackHardware.Tasks.CallFrames

/-! What the packet handler asks the kernel for is limited, however long it runs: memory blocks for
packets and connections, queues, and places in them.
-/

namespace BigBlackHardware

open Library

/-- The pool has allocated so many objects, and no more than it may. -/
structure Pool.Allocated (pool : Pool) (most count : Nat) : Prop where
  size : pool.poolSize = count
  max : pool.maxPoolSize = most
  within : count ≤ most

section Pools

variable {pool : Pool} {most count : Nat}

/-- A get allocates an object at most while there is room, by its three outcomes. -/
theorem Pool.Allocated.get (allocated : pool.Allocated most count) (block : Nat)
    : (poolGet pool block).pool.Allocated most
        (if (poolGet pool block).constructed then count + 1 else count) := by
  obtain ⟨size, max, within⟩ := allocated
  rcases poolGet_cases pool block with ⟨-, -, got⟩ | ⟨-, got⟩ | ⟨-, room, got⟩
  · rw [got]
    exact ⟨size, max, within⟩
  · rw [got]
    exact ⟨size, max, within⟩
  · rw [got]
    refine ⟨congrArg (· + 1) size, max, ?_⟩
    rw [size, max] at room
    change count + 1 ≤ most
    omega

/-- A release allocates nothing, by its two outcomes. -/
theorem Pool.Allocated.release (allocated : pool.Allocated most count) (item : Nat)
    : (poolRelease pool item).2.Allocated most count := by
  obtain ⟨size, max, within⟩ := allocated
  rcases poolRelease_cases pool item with ⟨-, released⟩ | ⟨-, released⟩ <;> rw [released] <;>
    exact ⟨size, max, within⟩

end Pools

section Queues

variable {messages : List Message} {length : Nat}

/-- A write to a queue that is full fails, so that no queue gets longer than it may. -/
theorem sysQueueWritePtr_within (bound : ∀ queue, (waiting messages queue).length ≤ length)
    (refused : Bool) (target item queue : Nat)
    : (waiting (sysQueueWritePtr messages refused length target item).2 queue).length ≤ length := by
  rw [sysQueueWritePtr]
  split
  · exact bound queue
  · rename_i accepted
    by_cases own : queue = target
    · subst own
      rw [waiting_append, List.length_append, List.length_singleton]
      exact Nat.not_le.mp fun full => accepted (Or.inr full)
    · have skipped : waiting (messages ++ [⟨target, item⟩]) queue = waiting messages queue := by
        simp [waiting, Ne.symm own]
      rw [skipped]
      exact bound queue

theorem sysQueueReadPtr_within (bound : ∀ queue, (waiting messages queue).length ≤ length)
    (read queue : Nat) : (waiting (sysQueueReadPtr messages read).2 queue).length ≤ length := by
  have fewer : (sysQueueReadPtr messages read).2.Sublist messages := by
    rw [sysQueueReadPtr]
    split
    · exact List.Sublist.refl messages
    · exact List.erase_sublist
  refine Nat.le_trans ?_ (bound queue)
  exact ((fewer.filter _).map Message.item).length_le

end Queues

-----------------------------------------------------------------------------------------
-- The desk
-----------------------------------------------------------------------------------------

/-- The packets that were allocated and those that wait in queues are limited. -/
structure Desk.Limited (desk : Desk) : Prop where
  packets : desk.packetsPool.Allocated msgPoolSize desk.nextBlock
  replies : ∀ queue, (waiting desk.messages queue).length ≤ msgQueueSize

/-- Every change that the handlers make keeps the desk within its limits. -/
theorem limited_deskFrame : DeskFrame (Keeps Desk.Limited) where
  got _ limited := ⟨limited.packets.get _, limited.replies⟩
  stored _ _ _ limited := ⟨limited.packets, limited.replies⟩
  written _ packet outQueue limited :=
    ⟨limited.packets, sysQueueWritePtr_within limited.replies _ outQueue packet⟩
  junk _ limited := ⟨limited.packets, limited.replies⟩

-----------------------------------------------------------------------------------------
-- The station
-----------------------------------------------------------------------------------------

/-- The station is within its limits, if the kernel's first new queue had that handle. -/
structure Station.Limited (first : Nat) (station : Station) : Prop where
  desk : station.device.desk.Limited
  conns : station.connectionsPool.Allocated maxTcpConnections station.nextConn
  queues : station.nextQueue = first + 2 * station.nextConn
  connections : ∀ queue, (waiting station.connectionsQueue queue).length ≤ maxTcpConnections

section Station

variable {first : Nat}

/-- What leaves the device, the pool, the queues and their numbers. -/
theorem limited_same {before after : Station} (device : after.device = before.device)
    (pool : after.connectionsPool = before.connectionsPool)
    (conn : after.nextConn = before.nextConn) (queue : after.nextQueue = before.nextQueue)
    (waits : after.connectionsQueue = before.connectionsQueue)
    : Keeps (Station.Limited first) before after := by
  intro limited
  refine ⟨?_, ?_, ?_, ?_⟩
  · rw [device]
    exact limited.desk
  · rw [pool, conn]
    exact limited.conns
  · rw [queue, conn]
    exact limited.queues
  · rw [waits]
    exact limited.connections

/-- What changes the desk within its limits. -/
theorem limited_setDesk {station : Station} {desk : Desk}
    (keeps : Keeps Desk.Limited station.device.desk desk)
    : Keeps (Station.Limited first) station (station.setDesk desk) :=
  fun limited => ⟨keeps limited.desk, limited.conns, limited.queues, limited.connections⟩

/-- A new connection object gets two queues, and an old one keeps its own. -/
theorem getConnection_limited (station : Station)
    : Keeps (Station.Limited first) station (getConnection station).2 := by
  intro limited
  have conns := limited.conns.get station.nextConn
  rw [getConnection]
  dsimp only
  split
  · rename_i constructed
    rw [if_pos constructed] at conns
    refine ⟨limited.desk, conns, ?_, limited.connections⟩
    change station.nextQueue + 2 = first + 2 * (station.nextConn + 1)
    rw [limited.queues]
    omega
  · rename_i old
    rw [if_neg old] at conns
    exact ⟨limited.desk, conns, limited.queues, limited.connections⟩

theorem limited_listenFrame : ListenFrame (Keeps (Station.Limited first)) where
  accepted _ _ _ _ := ⟨limited_same rfl rfl rfl rfl rfl, limited_same rfl rfl rfl rfl rfl⟩
  moved _ _ := limited_same rfl rfl rfl rfl rfl
  got := getConnection_limited
  junk _ := limited_same rfl rfl rfl rfl rfl
  filled _ _ _ _ := limited_same rfl rfl rfl rfl rfl
  enqueued _ info limited :=
    ⟨limited.desk, limited.conns, limited.queues,
      sysQueueWritePtr_within limited.connections false connectionsQueueHandle info⟩

theorem limited_callFrame : CallFrame (Keeps (Station.Limited first)) where
  listened :=
    listened_moves (listeningStep_framed limited_listenFrame) fun _ _ =>
      limited_same rfl rfl rfl rfl rfl
  closed _ _ := limited_same rfl rfl rfl rfl rfl
  sent _ _ := limited_same rfl rfl rfl rfl rfl
  setConn _ _ _ _ := limited_same rfl rfl rfl rfl rfl
  released _ info limited :=
    ⟨limited.desk, limited.conns.release info, limited.queues, limited.connections⟩
  dequeued _ limited :=
    ⟨limited.desk, limited.conns, limited.queues,
      sysQueueReadPtr_within limited.connections connectionsQueueHandle⟩
  entered _ _ _ := limited_same rfl rfl rfl rfl rfl
  packetGot _ := limited_setDesk (limited_deskFrame.got _)
  packetReleased _ packet :=
    limited_setDesk fun limited => ⟨limited.packets.release packet, limited.replies⟩
  replyRead _ queue :=
    limited_setDesk fun limited =>
      ⟨limited.packets, sysQueueReadPtr_within limited.replies queue⟩
  held _ _ _ := limited_same rfl rfl rfl rfl rfl
  noted _ _ := limited_same rfl rfl rfl rfl rfl

/-- Every call of the handling task keeps the limits, by its point. -/
theorem handlingStep_limited (answer : Answer) (point : HandlePoint)
    : Moves (Keeps (Station.Limited first)) (handlingStep answer point) := by
  cases point with
  | processing serving =>
      refine .bind (fun station => ?_) fun _ => .pure _
      rw [handOver_eq]
      have handled : Moves (Keeps (Station.Limited first))
          (onDevice (processPacket (station.queueWord (station.conns serving.info).outQueue)
            station.packet)) :=
        (processPacket_ofDesks limited_deskFrame _ _).onPart fun _ _ keeps limited =>
          ⟨keeps limited.desk, limited.conns, limited.queues, limited.connections⟩
      exact IsTrans.trans _ _ _ (limited_callFrame.noted station _) (handled (station.note _))
  | receiving serving =>
      refine receivingStep_framed limited_callFrame answer serving fun station limited => ?_
      exact ⟨limited_deskFrame.stored _ _ _ limited.desk, limited.conns, limited.queues,
        limited.connections⟩
  | _ => exact handlingStep_framed limited_callFrame answer trivial

/-- Every turn keeps the limits. -/
theorem Tasks.step_limited (tasks : Tasks) (turn : Turn) (limited : tasks.station.Limited first)
    : (tasks.step turn).station.Limited first := by
  cases turn with
  | listening refused =>
      have kept : Keeps (Station.Limited first) tasks.station
          (listeningCall refused tasks.station) :=
        listeningCall_moves (listeningStep_framed limited_listenFrame)
          (fun _ => limited_same rfl rfl rfl rfl rfl) refused tasks.station
      exact kept limited
  | handling answer =>
      exact Tasks.step_handling (handlingStep_limited answer tasks.handling tasks.station) limited

end Station

theorem Tasks.start_limited (station : Station)
    : (Tasks.start station).station.Limited station.nextQueue where
  desk := ⟨⟨rfl, rfl, Nat.zero_le _⟩, fun _ => Nat.zero_le _⟩
  conns := ⟨rfl, rfl, Nat.zero_le _⟩
  queues := rfl
  connections _ := Nat.zero_le _

/-- However long the packet handler runs, whatever the clients and the target do and in whatever
order the two tasks take their turns: it allocates no more packets and connections than its pools
may hold, creates two queues for each of the connections and no others, and no queue gets longer
than it was created for.
-/
theorem tasks_bounded (station : Station) (turns : List Turn)
    : ∀ tasks ∈ instants Tasks.step turns (.start station),
        tasks.station.device.desk.nextBlock ≤ msgPoolSize
        ∧ tasks.station.nextConn ≤ maxTcpConnections
        ∧ tasks.station.nextQueue = station.nextQueue + 2 * tasks.station.nextConn
        ∧ (∀ queue, (waiting tasks.station.device.desk.messages queue).length ≤ msgQueueSize)
        ∧ ∀ queue, (waiting tasks.station.connectionsQueue queue).length ≤ maxTcpConnections := by
  intro tasks member
  have limited := instants_invariant (P := fun tasks => tasks.station.Limited station.nextQueue)
    Tasks.step_limited turns (Tasks.start_limited station) tasks member
  exact ⟨limited.desk.packets.within, limited.conns.within, limited.queues, limited.desk.replies,
    limited.connections⟩

/-- Three clients connect. -/
def threeClients : Tasks :=
  let sock : Socket := ⟨[], [], [], [], []⟩
  afterTurns Tasks.step (List.replicate 12 (.listening false))
    (.start { oneClient sock with accepts := [⟨1, sock⟩, ⟨2, sock⟩, ⟨3, sock⟩] })

/-- Only two of them get a connection object. -/
theorem tasks_bounded_threeClients
    : threeClients.station.device.desk.nextBlock ≤ msgPoolSize
      ∧ threeClients.station.nextConn ≤ maxTcpConnections
      ∧ threeClients.station.nextQueue = 1 + 2 * threeClients.station.nextConn
      ∧ (∀ queue, (waiting threeClients.station.device.desk.messages queue).length ≤ msgQueueSize)
      ∧ ∀ queue,
          (waiting threeClients.station.connectionsQueue queue).length ≤ maxTcpConnections :=
  tasks_bounded _ _ threeClients (afterTurns_mem_instants _ _)

example : threeClients.station.nextConn = 2 ∧ threeClients.station.accepts = [] := by
  decide +kernel

end BigBlackHardware
