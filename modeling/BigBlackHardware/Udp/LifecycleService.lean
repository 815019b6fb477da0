import BigBlackHardware.Udp.Lifecycle
import BigBlackHardware.Udp.Service

/-! The task of a start among the turns of the tasks of other starts: it serves as
`udp_resolver_task` does by itself.
-/

namespace BigBlackHardware.UdpResolver

open Library

-----------------------------------------------------------------------------------------
-- What a task receives and answers
-----------------------------------------------------------------------------------------

/-- The resolve packet in the buffer. -/
def ResolverTask.packet (task : ResolverTask) : List UInt8 := task.buffer.load 0 resolvePacketSize

/-- The reception whose round ends with the task's next step. Its sender is not part of the
lifecycle.
-/
def Lifecycle.roundEnd (system : Lifecycle) (sender : SockAddr) (task : ResolverTask)
    (result : Int) (bytes : List UInt8)
    : Option Reception :=
  match task.stage with
  | .receiving =>
      let buffer := task.buffer.store 0 (bytes.take resolvePacketSize)
      if failed : result ≤ 0 then some (.error result failed)
      else if checkForResolve buffer result.toNat.toUInt16 then none
      else some (.datagram bytes sender 0)
  | .comparing key =>
      if cmpKeys task.buffer (system.memory key) then none
      else some (.datagram task.packet sender 0)
  | .sending => some (.datagram task.packet sender result)
  | _ => none

/-- The reception whose round a turn of the task of this name ends. -/
def Lifecycle.received (sender : SockAddr) (id : Nat) (system : Lifecycle)
    : LifecycleTurn → Option Reception
  | .task other result bytes =>
      if other = id then
        (system.taskOf id).bind fun task => system.roundEnd sender task result bytes
      else none
  | _ => none

/-- The resolve packet that the task answers with its next step. -/
def ResolverTask.answers (task : ResolverTask) (result : Int) : Option (List UInt8) :=
  match task.stage with
  | .sending => if result < 0 then none else some task.packet
  | _ => none

/-- The resolve packet that a turn of the task of this name answers. -/
def Lifecycle.answered (id : Nat) (system : Lifecycle) : LifecycleTurn → Option (List UInt8)
  | .task other result _ =>
      if other = id then (system.taskOf id).bind fun task => task.answers result else none
  | _ => none

/-- The resolve packet of a reception that is answered. -/
def Reception.packet? (key : Cells UInt8) : Reception → Option (List UInt8)
  | .error _ _ => none
  | .datagram bytes _ sendResult =>
      if Asks key bytes ∧ 0 ≤ sendResult then some (bytes.take resolvePacketSize) else none

/-- The task deletes what `udp_handle` names with its next step. -/
def Lifecycle.Deletes (system : Lifecycle) (task : ResolverTask) : Prop :=
  match task.stage with
  | .asserting => system.listenSock < 0
  | .exiting status => status < 0
  | _ => False

/-- The turn leaves the task of this name and its key: nobody calls start or stop, and no other task
deletes it. What `recvfrom` returns to the task is the number of bytes that it stores.
-/
def Lifecycle.Leaves (id : Nat) (system : Lifecycle) : LifecycleTurn → Prop
  | .task other result bytes =>
      ∀ task ∈ system.taskOf other,
        if other = id then
          task.stage = .receiving → 0 < result → result = (bytes.take resolvePacketSize).length
        else system.Deletes task → system.udpHandle ≠ id
  | _ => False

instance : (system : Lifecycle) → (task : ResolverTask) → Decidable (system.Deletes task)
  | system, ⟨_, .asserting, _, _⟩ => inferInstanceAs (Decidable (system.listenSock < 0))
  | _, ⟨_, .exiting status, _, _⟩ => inferInstanceAs (Decidable (status < 0))
  | _, ⟨_, .opening, _, _⟩ | _, ⟨_, .binding, _, _⟩ | _, ⟨_, .receiving, _, _⟩
  | _, ⟨_, .resolving, _, _⟩ | _, ⟨_, .comparing _, _, _⟩ | _, ⟨_, .sending, _, _⟩
  | _, ⟨_, .closing _, _, _⟩ | _, ⟨_, .returned, _, _⟩ => instDecidableFalse

instance (id : Nat) (system : Lifecycle)
    : (turn : LifecycleTurn) → Decidable (system.Leaves id turn)
  | .start _ | .stop | .caller _ _ => instDecidableFalse
  | .task other result bytes =>
      inferInstanceAs
        (Decidable
          (∀ task ∈ system.taskOf other,
            if other = id then
              task.stage = .receiving → 0 < result → result = (bytes.take resolvePacketSize).length
            else system.Deletes task → system.udpHandle ≠ id))

-----------------------------------------------------------------------------------------
-- A task against its resolver
-----------------------------------------------------------------------------------------

/-- The task has a resolve packet in its buffer, which its resolver has not received yet. -/
structure ResolverTask.Holds (task : ResolverTask) (resolver : Resolver) : Prop where
  receiving : resolver.receiving = true
  stored
    : ∃ block : List UInt8,
        block.length = resolvePacketSize ∧ task.buffer = resolver.buffer.store 0 block
  resolves : checkForResolve task.buffer resolvePacketSize.toUInt16 = true

/-- Where a task is in a round, with its resolver before the round. -/
def ResolverTask.Amid (task : ResolverTask) (key : Nat) (resolver : Resolver) : Prop :=
  match task.stage with
  | .receiving => resolver.receiving = true ∧ task.buffer = resolver.buffer
  | .resolving => task.Holds resolver
  | .comparing held => held = key ∧ task.Holds resolver
  | .sending => cmpKeys task.buffer resolver.key = true ∧ task.Holds resolver
  | .closing _ | .exiting _ | .returned =>
      resolver.receiving = false ∧ task.buffer = resolver.buffer
  | .opening | .asserting | .binding => False

/-- The task of this name, if it is left, is where the resolver is, and `cfg.key` is its key. -/
structure Lifecycle.Serves (system : Lifecycle) (id key : Nat) (resolver : Resolver) : Prop where
  points : system.cfgKey = some key
  content : system.memory key = resolver.key
  amid : ∀ task, system.taskOf id = some task → task.Amid key resolver
  gone : system.taskOf id = none → resolver.receiving = false

/-- A reception is received by a resolver that has not left its loop. -/
def Resolver.next (resolver : Resolver) (reception : Reception) : Resolver :=
  if resolver.receiving then resolver.round reception else resolver

/-- The receive loop takes its receptions as turns, by induction on them. -/
theorem run_eq_afterTurns (resolver : Resolver) (receptions : List Reception)
    : resolver.run receptions = afterTurns Resolver.next receptions resolver := by
  induction receptions generalizing resolver with
  | nil => rfl
  | cons reception receptions ih =>
      change _ = afterTurns Resolver.next receptions (resolver.next reception)
      rw [← ih, Resolver.run, Resolver.next]
      split
      · rfl
      · rename_i left
        exact (run_stopped (Bool.eq_false_iff.mpr left) receptions).symm

-----------------------------------------------------------------------------------------
-- Turns of other tasks
-----------------------------------------------------------------------------------------

section Others

variable {system : Lifecycle} {id : Nat}

theorem taskOf_setTask_ne {other : ResolverTask} (others : other.id ≠ id)
    : (system.setTask other).taskOf id = system.taskOf id := by
  have same : (fun task => decide (ResolverTask.id task = id)) ∘ (fun task : ResolverTask =>
      if task.id = other.id then other else task) = fun task => decide (task.id = id) := by
    funext task
    rw [Function.comp_apply]
    split
    · rename_i this
      rw [this]
    · rfl
  rw [Lifecycle.taskOf, Lifecycle.taskOf, Lifecycle.setTask, List.find?_map, same]
  cases found : system.tasks.find? fun task => task.id = id with
  | none => rfl
  | some task =>
      have this : task.id = id := taskOf_id found
      rw [Option.map_some, if_neg fun equal => others (equal.symm.trans this)]

theorem taskOf_deleteTask_ne (others : system.udpHandle ≠ id)
    : system.deleteTask.taskOf id = system.taskOf id := by
  rw [Lifecycle.taskOf, Lifecycle.taskOf, Lifecycle.deleteTask, List.find?_filter]
  congr 1
  funext task
  by_cases this : task.id = id
  · simp [this, Ne.symm others]
  · simp [this]

theorem taskOf_deleteTask (others : system.udpHandle = id)
    : system.deleteTask.taskOf id = none := by
  rw [Lifecycle.taskOf, Lifecycle.deleteTask, List.find?_eq_none]
  intro task member this
  have left := (List.mem_filter.mp member).2
  rw [others] at left
  exact of_decide_eq_true left (of_decide_eq_true this)

/-- What the step of a task does to the tasks. The keys stay as they are. -/
structure Lifecycle.Steps (system : Lifecycle) (task : ResolverTask) (next : Lifecycle) : Prop where
  cfgKey : next.cfgKey = system.cfgKey
  memory : next.memory = system.memory
  created : next.created = system.created
  tasks
    : next.tasks = system.tasks
      ∨ ∃ moved : ResolverTask,
          moved.id = task.id
          ∧ (next.tasks = (system.setTask moved).tasks
            ∨ (system.Deletes task ∧ next.tasks = (system.setTask moved).deleteTask.tasks))

theorem stepOf_steps (system : Lifecycle) (task : ResolverTask) (result : Int) (bytes : List UInt8)
    : system.Steps task (system.stepOf task result bytes) := by
  have moved (stage : ResolverStage) (buffer : Cells UInt8) (sock : Option Nat)
      : system.Steps task (system.setTask ⟨task.id, stage, buffer, sock⟩) :=
    ⟨rfl, rfl, rfl, Or.inr ⟨⟨task.id, stage, buffer, sock⟩, rfl, Or.inl rfl⟩⟩
  have deleted (stage : ResolverStage) (deletes : system.Deletes task)
      : system.Steps task (system.setTask { task with stage := stage }).deleteTask :=
    ⟨rfl, rfl, rfl, Or.inr ⟨{ task with stage := stage }, rfl, Or.inr ⟨deletes, rfl⟩⟩⟩
  rw [Lifecycle.stepOf]
  cases stage : task.stage with
  | opening =>
      dsimp only
      rw [Lifecycle.openSocket]
      split
      · exact ⟨rfl, rfl, rfl, (moved .asserting task.buffer task.sock).tasks⟩
      · exact ⟨rfl, rfl, rfl, (moved .asserting task.buffer (some system.opened)).tasks⟩
  | asserting =>
      dsimp only
      split
      · rename_i failed
        exact deleted .binding (by rwa [Lifecycle.Deletes, stage])
      · exact moved .binding task.buffer task.sock
  | binding | sending =>
      dsimp only
      split <;> exact moved _ task.buffer task.sock
  | receiving =>
      dsimp only
      split
      · exact moved _ task.buffer task.sock
      · exact moved _ _ task.sock
  | resolving =>
      dsimp only
      split
      · exact ⟨rfl, rfl, rfl, Or.inl rfl⟩
      · exact moved _ task.buffer task.sock
  | comparing key =>
      exact ⟨rfl, rfl, rfl, (moved _ task.buffer task.sock).tasks⟩
  | closing status =>
      dsimp only
      rw [Lifecycle.closeListenSock]
      split <;> exact ⟨rfl, rfl, rfl, (moved (.exiting status) task.buffer task.sock).tasks⟩
  | exiting status =>
      dsimp only
      split
      · rename_i failed
        exact deleted .returned (by rwa [Lifecycle.Deletes, stage])
      · exact moved .returned task.buffer task.sock
  | returned => exact ⟨rfl, rfl, rfl, Or.inl rfl⟩

/-- What the resolver of a task depends on is the same in both systems. -/
structure Lifecycle.Alike (id : Nat) (system next : Lifecycle) : Prop where
  cfgKey : next.cfgKey = system.cfgKey
  memory : next.memory = system.memory
  taskOf : next.taskOf id = system.taskOf id

theorem closeListenSock_alike (system : Lifecycle) (id : Nat)
    : system.Alike id system.closeListenSock := by
  rw [Lifecycle.closeListenSock]
  split <;> exact ⟨rfl, rfl, rfl⟩

/-- The step of a task that does not delete this one. -/
theorem Lifecycle.Steps.alike {other : ResolverTask} {next : Lifecycle}
    (steps : system.Steps other next) (others : other.id ≠ id)
    (leaves : system.Deletes other → system.udpHandle ≠ id) : system.Alike id next := by
  refine ⟨steps.cfgKey, steps.memory, ?_⟩
  rcases steps.tasks with same | ⟨moved, named, same | ⟨deletes, same⟩⟩
  · rw [Lifecycle.taskOf, same, Lifecycle.taskOf]
  · have apart : moved.id ≠ id := fun own => others (named.symm.trans own)
    rw [Lifecycle.taskOf, same]
    exact taskOf_setTask_ne apart
  · have apart : moved.id ≠ id := fun own => others (named.symm.trans own)
    have kept : (system.setTask moved).udpHandle ≠ id := leaves deletes
    rw [Lifecycle.taskOf, same]
    exact (taskOf_deleteTask_ne kept).trans (taskOf_setTask_ne apart)

end Others

-----------------------------------------------------------------------------------------
-- The task's own turns
-----------------------------------------------------------------------------------------

section Own

variable {system : Lifecycle} {task : ResolverTask} {id key : Nat} {resolver : Resolver}

theorem ResolverTask.Holds.goTo (holds : task.Holds resolver) (stage : ResolverStage)
    : { task with stage := stage }.Holds resolver :=
  ⟨holds.receiving, holds.stored, holds.resolves⟩

/-- The packet that the task holds is what its resolver is to receive. -/
theorem ResolverTask.Holds.packet (holds : task.Holds resolver)
    : task.packet.take resolvePacketSize = task.packet
      ∧ resolver.buffer.store 0 task.packet = task.buffer := by
  obtain ⟨block, length, stored⟩ := holds.stored
  have same : task.packet = block := by
    rw [ResolverTask.packet, stored, ← length, Cells.load_store]
  rw [same, stored]
  exact ⟨List.take_of_length_le (Nat.le_of_eq length), rfl⟩

theorem ResolverTask.Holds.asks_iff (holds : task.Holds resolver) (key : Cells UInt8)
    : Asks key task.packet ↔ cmpKeys task.buffer key = true := by
  obtain ⟨whole, stored⟩ := holds.packet
  have passes := asks_iff_passes key resolver.buffer task.packet
  dsimp only at passes
  have length : task.packet.length = resolvePacketSize := Cells.load_length _ _ _
  rw [whole, stored, length] at passes
  exact passes.trans (and_iff_right holds.resolves)

/-- The round in which the resolver receives the packet. -/
theorem ResolverTask.Holds.next (holds : task.Holds resolver) (sender : SockAddr)
    (sendResult : Int)
    : resolver.next (.datagram task.packet sender sendResult)
      = { resolver with buffer := task.buffer }.handle resolvePacketSize sender sendResult := by
  obtain ⟨whole, stored⟩ := holds.packet
  have length : task.packet.length = resolvePacketSize := Cells.load_length _ _ _
  rw [Resolver.next, if_pos holds.receiving, Resolver.round, whole, stored, length]
  exact if_neg (by decide)

/-- A block that passes `check_for_resolve` fills the packet. -/
theorem length_of_resolves {buffer : Cells UInt8} {bytes : List UInt8}
    (resolves
      : checkForResolve buffer (bytes.take resolvePacketSize).length.toUInt16 = true)
    : (bytes.take resolvePacketSize).length = resolvePacketSize := by
  have limit : (bytes.take resolvePacketSize).length ≤ resolvePacketSize := by
    rw [List.length_take]
    exact Nat.min_le_left _ _
  rw [checkForResolve] at resolves
  split at resolves
  · cases resolves
  · rename_i accepted
    have same := congrArg UInt16.toNat (not_not.mp (not_or.mp accepted).1)
    have small : resolvePacketSize = 37 := rfl
    simp only [Nat.toUInt16, UInt16.toNat_ofNat'] at same
    omega

theorem Lifecycle.Serves.alike (serves : system.Serves id key resolver) {next : Lifecycle}
    (same : system.Alike id next) : next.Serves id key resolver where
  points := same.cfgKey.trans serves.points
  content := (congrFun same.memory key).trans serves.content
  amid task found := serves.amid task (same.taskOf.symm.trans found)
  gone none := serves.gone (same.taskOf.symm.trans none)

/-- The task can be set where its resolver is. -/
theorem Lifecycle.Serves.setTask {next : ResolverTask} {after : Resolver}
    (serves : system.Serves id key resolver) (found : system.taskOf id = some task)
    (named : next.id = task.id) (same : after.key = resolver.key) (amid : next.Amid key after)
    : (system.setTask next).Serves id key after := by
  have there : (system.setTask next).taskOf id = some next :=
    taskOf_setTask found (named.trans (taskOf_id found))
  refine ⟨serves.points, serves.content.trans same.symm, fun other also => ?_, fun none => ?_⟩
  · cases there.symm.trans also
    exact amid
  · cases there.symm.trans none

/-- What a `recvfrom` that brings bytes does. -/
theorem Lifecycle.Serves.receive (serves : system.Serves id key resolver)
    (found : system.taskOf id = some task) (receiving : task.stage = .receiving)
    (sender : SockAddr) {result : Int} {bytes : List UInt8}
    (stores : 0 < result → result = (bytes.take resolvePacketSize).length)
    : (system.stepOf task result bytes).Serves id key
        ((system.roundEnd sender task result bytes).elim resolver resolver.next) := by
  have stands := serves.amid task found
  rw [ResolverTask.Amid, receiving] at stands
  obtain ⟨going, same⟩ := stands
  rw [Lifecycle.stepOf, Lifecycle.roundEnd, receiving]
  dsimp only
  by_cases failed : result ≤ 0
  · rw [if_pos failed, dif_pos failed, Option.elim_some, Resolver.next, if_pos going,
      Resolver.round]
    exact serves.setTask found rfl rfl ⟨rfl, same⟩
  · have size := stores (Int.not_le.mp failed)
    rw [if_neg failed, dif_neg failed, size, Int.toNat_natCast]
    by_cases resolves : checkForResolve (task.buffer.store 0 (bytes.take resolvePacketSize))
        (bytes.take resolvePacketSize).length.toUInt16 = true
    · have length := length_of_resolves resolves
      rw [if_pos resolves, if_pos resolves, Option.elim_none]
      refine serves.setTask found rfl rfl ⟨going, ⟨_, length, ?_⟩, ?_⟩
      · rw [same]
      · rwa [length] at resolves
    · have some : ¬ (bytes.take resolvePacketSize).length ≤ 0 := by omega
      rw [if_neg resolves, if_neg resolves, Option.elim_some, Resolver.next, if_pos going,
        Resolver.round, if_neg some, ← same, Resolver.handle, if_neg resolves]
      exact serves.setTask found rfl rfl ⟨going, rfl⟩

/-- The task's own step brings it where its resolver is when the round has ended, by cases on where
it is in the round.
-/
theorem Lifecycle.Serves.stepOf (serves : system.Serves id key resolver)
    (found : system.taskOf id = some task) (sender : SockAddr) {result : Int} {bytes : List UInt8}
    (stores
      : task.stage = .receiving → 0 < result → result = (bytes.take resolvePacketSize).length)
    : (system.stepOf task result bytes).Serves id key
        ((system.roundEnd sender task result bytes).elim resolver resolver.next) := by
  have stands := serves.amid task found
  rw [ResolverTask.Amid] at stands
  cases stage : task.stage with
  | opening | asserting | binding =>
      rw [stage] at stands
      exact stands.elim
  | receiving => exact serves.receive found stage sender (stores stage)
  | resolving =>
      rw [stage] at stands
      rw [Lifecycle.stepOf, Lifecycle.roundEnd, stage]
      dsimp only
      rw [serves.points, Option.elim_none]
      exact serves.setTask found rfl rfl ⟨rfl, stands.goTo _⟩
  | comparing held =>
      rw [stage] at stands
      obtain ⟨rfl, holds⟩ := stands
      rw [Lifecycle.stepOf, Lifecycle.roundEnd, stage]
      dsimp only
      rw [serves.content]
      by_cases equal : cmpKeys task.buffer resolver.key = true
      · have after : (system.setTask { task with stage := .sending }).Serves id held resolver :=
          serves.setTask found rfl rfl ⟨equal, holds.goTo _⟩
        rw [if_pos equal, if_pos equal, Option.elim_none]
        exact after.alike ⟨rfl, rfl, rfl⟩
      · have after
            : (system.setTask { task with stage := .receiving }).Serves id held
                { resolver with buffer := task.buffer } :=
          serves.setTask found rfl rfl ⟨holds.receiving, rfl⟩
        rw [if_neg equal, if_neg equal, Option.elim_some, holds.next, Resolver.handle,
          if_pos holds.resolves, if_neg equal]
        exact after.alike ⟨rfl, rfl, rfl⟩
  | sending =>
      rw [stage] at stands
      obtain ⟨equal, holds⟩ := stands
      rw [Lifecycle.stepOf, Lifecycle.roundEnd, stage]
      dsimp only
      rw [Option.elim_some, holds.next, Resolver.handle, if_pos holds.resolves, if_pos equal]
      dsimp only
      by_cases failed : result < 0
      · rw [if_pos failed, if_pos failed]
        exact serves.setTask found rfl rfl ⟨rfl, rfl⟩
      · rw [if_neg failed, if_neg failed]
        exact serves.setTask found rfl rfl ⟨holds.receiving, rfl⟩
  | closing status =>
      rw [stage] at stands
      have after : (system.setTask { task with stage := .exiting status }).Serves id key resolver :=
        serves.setTask found rfl rfl stands
      rw [Lifecycle.stepOf, Lifecycle.roundEnd, stage]
      exact after.alike (closeListenSock_alike _ id)
  | exiting status =>
      rw [stage] at stands
      rw [Lifecycle.stepOf, Lifecycle.roundEnd, stage]
      dsimp only
      have after : (system.setTask { task with stage := .returned }).Serves id key resolver :=
        serves.setTask found rfl rfl stands
      split
      · by_cases own : (system.setTask { task with stage := .returned }).udpHandle = id
        · have deleted := taskOf_deleteTask own
          refine ⟨after.points, after.content, fun other there => ?_, fun _ => stands.1⟩
          cases deleted.symm.trans there
        · exact after.alike ⟨rfl, rfl, taskOf_deleteTask_ne own⟩
      · exact after
  | returned =>
      rw [Lifecycle.stepOf, Lifecycle.roundEnd, stage]
      exact serves

/-- The task answers the packets that ask with its key, by cases on where it is in the round. -/
theorem Lifecycle.Serves.answers (serves : system.Serves id key resolver)
    (found : system.taskOf id = some task) (sender : SockAddr) {result : Int} {bytes : List UInt8}
    (stores
      : task.stage = .receiving → 0 < result → result = (bytes.take resolvePacketSize).length)
    : task.answers result
      = (system.roundEnd sender task result bytes).bind (Reception.packet? resolver.key) := by
  have stands := serves.amid task found
  rw [ResolverTask.Amid] at stands
  rw [ResolverTask.answers, Lifecycle.roundEnd]
  cases stage : task.stage with
  | receiving =>
      dsimp only
      by_cases failed : result ≤ 0
      · rw [dif_pos failed]
        rfl
      · have size := stores stage (Int.not_le.mp failed)
        have passes := asks_iff_passes resolver.key task.buffer bytes
        rw [dif_neg failed, size, Int.toNat_natCast]
        split
        · rfl
        · rename_i refused
          have other : ¬ (Asks resolver.key bytes ∧ (0 : Int) ≤ 0) := fun asks =>
            refused (passes.mp asks.1).1
          exact (if_neg other).symm
  | comparing held =>
      rw [stage] at stands
      obtain ⟨rfl, holds⟩ := stands
      dsimp only
      rw [serves.content]
      split
      · rfl
      · rename_i differ
        have other : ¬ (Asks resolver.key task.packet ∧ (0 : Int) ≤ 0) := fun asks =>
          differ ((holds.asks_iff resolver.key).mp asks.1)
        exact (if_neg other).symm
  | sending =>
      rw [stage] at stands
      obtain ⟨equal, holds⟩ := stands
      have asks := (holds.asks_iff resolver.key).mpr equal
      dsimp only
      rw [Option.bind_some, Reception.packet?, holds.packet.1]
      by_cases failed : result < 0
      · rw [if_pos failed, if_neg fun both => Int.not_le.mpr failed both.2]
      · rw [if_neg failed, if_pos ⟨asks, Int.not_lt.mp failed⟩]
  | opening | asserting | binding | resolving | closing status | exiting status | returned => rfl

end Own

-----------------------------------------------------------------------------------------
-- Runs
-----------------------------------------------------------------------------------------

section Runs

variable {system : Lifecycle} {id key : Nat} {resolver : Resolver}

/-- The resolver keeps its key. -/
theorem next_key (resolver : Resolver) (reception : Reception)
    : (resolver.next reception).key = resolver.key := by
  rw [Resolver.next]
  split
  · cases reception with
    | error status failed => rfl
    | datagram bytes sender sendResult =>
        rw [Resolver.round]
        split
        · rfl
        · rw [Resolver.handle]
          dsimp only
          split
          · split
            · split <;> rfl
            · rfl
          · rfl
  · rfl

/-- A turn that leaves the task brings it where its resolver is. -/
theorem Lifecycle.Serves.turn (sender : SockAddr) (turn : LifecycleTurn)
    (serves : system.Serves id key resolver) (leaves : system.Leaves id turn)
    : (system.turn turn).Serves id key
        ((system.received sender id turn).elim resolver resolver.next) := by
  cases turn with
  | start key => exact leaves.elim
  | stop => exact leaves.elim
  | caller result buffer => exact leaves.elim
  | task other result bytes =>
      change (system.taskStep other result bytes).Serves id key _
      rw [Lifecycle.taskStep, Lifecycle.received]
      cases found : system.taskOf other with
      | none =>
          by_cases own : other = id
          · rw [if_pos own, ← own, found]
            exact own ▸ serves
          · rw [if_neg own]
            exact serves
      | some task =>
          have left := leaves task found
          by_cases own : other = id
          · subst own
            rw [if_pos rfl] at left
            rw [if_pos rfl, found]
            exact serves.stepOf found sender left
          · have others : task.id ≠ id := fun same => own ((taskOf_id found).symm.trans same)
            rw [if_neg own] at left
            rw [if_neg own]
            exact serves.alike ((stepOf_steps system task result bytes).alike others left)

/-- A turn that leaves the task answers what its resolver would. -/
theorem Lifecycle.Serves.answered (sender : SockAddr) (turn : LifecycleTurn)
    (serves : system.Serves id key resolver) (leaves : system.Leaves id turn)
    : system.answered id turn
      = (system.received sender id turn).bind (Reception.packet? resolver.key) := by
  cases turn with
  | start key => rfl
  | stop => rfl
  | caller result buffer => rfl
  | task other result bytes =>
      rw [Lifecycle.answered, Lifecycle.received]
      by_cases own : other = id
      · subst own
        rw [if_pos rfl, if_pos rfl]
        cases found : system.taskOf other with
        | none => rfl
        | some task =>
            have left := leaves task found
            rw [if_pos rfl] at left
            exact serves.answers found sender left
      · rw [if_neg own, if_neg own]
        rfl

/-- Over turns that leave the task it receives as its resolver does, and answers what asks with its
key.
-/
theorem Lifecycle.Serves.run (sender : SockAddr) {turns : List LifecycleTurn}
    (serves : system.Serves id key resolver)
    (obeys : Obeys Lifecycle.turn (Lifecycle.Leaves id) turns system)
    : let receptions := outputs Lifecycle.turn (Lifecycle.received sender id) turns system
      (afterTurns Lifecycle.turn turns system).Serves id key (resolver.run receptions)
      ∧ outputs Lifecycle.turn (Lifecycle.answered id) turns system
        = receptions.filterMap (Reception.packet? resolver.key) := by
  dsimp only
  constructor
  · rw [run_eq_afterTurns]
    exact obeys.follows (R := fun system resolver => Lifecycle.Serves system id key resolver)
      (fun _ turn _ serves leaves => serves.turn sender turn leaves) serves
  · let standing (system : Lifecycle) : Prop :=
      ∃ now : Resolver, now.key = resolver.key ∧ system.Serves id key now
    have keeps (system : Lifecycle) (turn : LifecycleTurn) (stands : standing system)
        (leaves : system.Leaves id turn) : standing (system.turn turn) := by
      obtain ⟨now, same, serves⟩ := stands
      refine ⟨_, ?_, serves.turn sender turn leaves⟩
      cases system.received sender id turn with
      | none => exact same
      | some reception => exact (next_key now reception).trans same
    have reads (system : Lifecycle) (turn : LifecycleTurn) (stands : standing system)
        (leaves : system.Leaves id turn)
        : system.answered id turn
          = (system.received sender id turn).bind (Reception.packet? resolver.key) := by
      obtain ⟨now, same, serves⟩ := stands
      rw [serves.answered sender turn leaves, same]
    exact obeys.outputs_eq keeps reads ⟨resolver, rfl, serves⟩

end Runs

-----------------------------------------------------------------------------------------
-- Starts
-----------------------------------------------------------------------------------------

/-- `udp_resolver_start` with a key, whose task is created with this name, and the task's way to its
receive loop.
-/
def wholeStart (id : Nat) (key buffer : Cells UInt8) (socketResult bindResult : Int)
    : List LifecycleTurn :=
  [.start key, .caller 0 buffer, .caller 0 buffer, .task id socketResult [], .task id 0 [],
    .task id bindResult []]

/-- The system behind such a start. -/
def Lifecycle.begun (system : Lifecycle) (key buffer : Cells UInt8)
    (socketResult bindResult : Int)
    : Lifecycle :=
  afterTurns Lifecycle.turn
    (wholeStart (system.created + 1) key buffer socketResult bindResult) system

/-- The names of the tasks were given before. -/
def Lifecycle.Named (system : Lifecycle) : Prop := ∀ task ∈ system.tasks, task.id ≤ system.created

section Starts

variable {system : Lifecycle}

theorem Lifecycle.Named.setTask (named : system.Named) {moved : ResolverTask}
    (below : moved.id ≤ system.created) : (system.setTask moved).Named := by
  intro task member
  obtain ⟨was, present, rfl⟩ := List.mem_map.mp member
  split
  · exact below
  · exact named was present

theorem Lifecycle.Named.deleteTask (named : system.Named) : system.deleteTask.Named :=
  fun task member => named task (List.mem_of_mem_filter member)

theorem Lifecycle.Named.steps (named : system.Named) {task : ResolverTask}
    (member : task ∈ system.tasks) {next : Lifecycle} (steps : system.Steps task next)
    : next.Named := by
  rw [Lifecycle.Named, steps.created]
  rcases steps.tasks with same | ⟨moved, own, same | ⟨-, same⟩⟩
  · rw [same]
    exact named
  · have below : moved.id ≤ system.created := own ▸ named task member
    rw [same]
    exact named.setTask below
  · have below : moved.id ≤ system.created := own ▸ named task member
    rw [same]
    exact (named.setTask below).deleteTask

theorem Lifecycle.Named.callerStep (named : system.Named) (result : Int) (buffer : Cells UInt8)
    : (system.callerStep result buffer).Named := by
  rw [Lifecycle.callerStep]
  cases system.caller with
  | idle | copying key => exact named
  | creating =>
      dsimp only
      rw [Lifecycle.taskCreate]
      split
      · exact named
      · intro task member
        rcases List.mem_append.mp member with old | new
        · exact Nat.le_succ_of_le (named task old)
        · rw [List.mem_singleton.mp new]
  | freeing =>
      dsimp only
      rw [Lifecycle.freeKey]
      split <;> exact named
  | closing =>
      dsimp only
      rw [Lifecycle.closeListenSock]
      split <;> exact named
  | deleting => exact named.deleteTask

theorem Lifecycle.Named.turn (system : Lifecycle) (turn : LifecycleTurn) (named : system.Named)
    : (system.turn turn).Named := by
  cases turn with
  | start key =>
      change (system.start key).Named
      rw [Lifecycle.start]
      split <;> exact named
  | stop =>
      change system.stop.Named
      rw [Lifecycle.stop]
      split
      · split <;> exact named
      · exact named
  | caller result buffer => exact named.callerStep result buffer
  | task id result bytes =>
      change (system.taskStep id result bytes).Named
      rw [Lifecycle.taskStep]
      split
      · exact named
      · rename_i task found
        exact named.steps (List.mem_of_find?_eq_some found) (stepOf_steps system task result bytes)

/-- A task's step keeps the keys. -/
theorem taskStep_keys (system : Lifecycle) (id : Nat) (result : Int) (bytes : List UInt8)
    : (system.turn (.task id result bytes)).cfgKey = system.cfgKey
      ∧ (system.turn (.task id result bytes)).memory = system.memory := by
  change (system.taskStep id result bytes).cfgKey = _ ∧ (system.taskStep id result bytes).memory = _
  rw [Lifecycle.taskStep]
  split
  · exact ⟨rfl, rfl⟩
  · rename_i task found
    have steps := stepOf_steps system task result bytes
    exact ⟨steps.cfgKey, steps.memory⟩

/-- A start whose task is created. -/
theorem start_creates (idle : system.caller = .idle) (named : system.Named)
    (key buffer : Cells UInt8)
    : let id := system.created + 1
      let after :=
        ((system.turn (.start key)).turn (.caller 0 buffer)).turn (.caller 0 buffer)
      after.cfgKey = some system.allocated
      ∧ after.memory system.allocated = key
      ∧ after.udpHandle = id
      ∧ after.taskOf id = some ⟨id, .opening, buffer, none⟩ := by
  dsimp only
  have begins : system.turn (.start key)
      = { system with
          cfgKey := some system.allocated
          allocated := system.allocated + 1
          caller := .copying key }.note (.allocated system.allocated) := by
    change system.start key = _
    rw [Lifecycle.start, idle]
  rw [begins]
  refine ⟨rfl, if_pos rfl, rfl, ?_⟩
  have fresh : system.tasks.find? (fun task => task.id = system.created + 1) = none := by
    rw [List.find?_eq_none]
    intro task member same
    have below := named task member
    have own := of_decide_eq_true same
    omega
  let created : ResolverTask := ⟨system.created + 1, .opening, buffer, none⟩
  change (system.tasks ++ [created]).find? (fun task => task.id = system.created + 1) = some created
  rw [List.find?_append, fresh]
  simp [created]

theorem udpResolverTask_key (key buffer : Cells UInt8) (socketResult bindResult : Int)
    : (udpResolverTask key buffer socketResult bindResult []).key = key := by
  rw [udpResolverTask]
  split
  · rfl
  · split <;> rfl

/-- The task's way to its loop ends at the assertion if it gets no socket. -/
theorem unopened_gone {id : Nat} {buffer : Cells UInt8}
    (found : system.taskOf id = some ⟨id, .opening, buffer, none⟩) (handle : system.udpHandle = id)
    {socketResult : Int} (failed : socketResult < 0) (bindResult : Int)
    : (((system.turn (.task id socketResult [])).turn (.task id 0 [])).turn
        (.task id bindResult [])).taskOf id = none := by
  let asserting : ResolverTask := ⟨id, .asserting, buffer, none⟩
  let opened := { system with listenSock := socketResult }.setTask asserting
  let deleted := (opened.setTask ⟨id, .binding, buffer, none⟩).deleteTask
  have opens : system.turn (.task id socketResult []) = opened :=
    (turn_task found socketResult []).trans (if_pos failed)
  have there : opened.taskOf id = some asserting := taskOf_setTask found rfl
  have asserts : opened.turn (.task id 0 []) = deleted :=
    (turn_task there 0 []).trans (if_pos failed)
  have gone : deleted.taskOf id = none := taskOf_deleteTask handle
  have stays : deleted.turn (.task id bindResult []) = deleted := by
    change deleted.taskStep id bindResult [] = deleted
    rw [Lifecycle.taskStep, gone]
  rw [opens, asserts, stays, gone]

/-- With a socket it comes to its loop, or behind it if the socket cannot be bound. -/
theorem opened_there {id : Nat} {buffer : Cells UInt8}
    (found : system.taskOf id = some ⟨id, .opening, buffer, none⟩) {socketResult : Int}
    (succeeded : ¬ socketResult < 0) (bindResult : Int)
    : (((system.turn (.task id socketResult [])).turn (.task id 0 [])).turn
        (.task id bindResult [])).taskOf id
      = some ⟨id, if bindResult < 0 then .closing bindResult else .receiving, buffer,
          some system.opened⟩ := by
  let asserting : ResolverTask := ⟨id, .asserting, buffer, some system.opened⟩
  let binding : ResolverTask := ⟨id, .binding, buffer, some system.opened⟩
  let opened := (system.newSocket socketResult).setTask asserting
  have opens : system.turn (.task id socketResult []) = opened :=
    (turn_task found socketResult []).trans (if_neg succeeded)
  have there : opened.taskOf id = some asserting := taskOf_setTask found rfl
  have asserts : opened.turn (.task id 0 []) = opened.setTask binding :=
    (turn_task there 0 []).trans (if_neg succeeded)
  have next : (opened.setTask binding).taskOf id = some binding := taskOf_setTask there rfl
  rw [opens, asserts, turn_task next, Lifecycle.stepOf]
  dsimp only [binding]
  split <;> exact taskOf_setTask next rfl

/-- Behind its start a task is where `udp_resolver_task` comes to before it receives. -/
theorem Lifecycle.begun_serves (idle : system.caller = .idle) (named : system.Named)
    (key buffer : Cells UInt8) (socketResult bindResult : Int)
    : (system.begun key buffer socketResult bindResult).Serves (system.created + 1)
        system.allocated (udpResolverTask key buffer socketResult bindResult []) := by
  obtain ⟨points, content, handle, found⟩ := start_creates idle named key buffer
  simp only [Lifecycle.begun, wholeStart, afterTurns, List.foldl_cons, List.foldl_nil]
  generalize ((system.turn (.start key)).turn (.caller 0 buffer)).turn (.caller 0 buffer) = created
    at points content handle found ⊢
  generalize system.created + 1 = id at handle found ⊢
  obtain ⟨opensPoints, opensContent⟩ := taskStep_keys created id socketResult []
  obtain ⟨assertsPoints, assertsContent⟩ :=
    taskStep_keys (created.turn (.task id socketResult [])) id 0 []
  obtain ⟨bindsPoints, bindsContent⟩ :=
    taskStep_keys ((created.turn (.task id socketResult [])).turn (.task id 0 [])) id bindResult []
  refine ⟨?_, ?_, fun task left => ?_, fun none => ?_⟩
  · rw [bindsPoints, assertsPoints, opensPoints, points]
  · rw [bindsContent, assertsContent, opensContent, content, udpResolverTask_key]
  · by_cases failed : socketResult < 0
    · cases (unopened_gone found handle failed bindResult).symm.trans left
    · cases (opened_there found failed bindResult).symm.trans left
      rw [udpResolverTask, if_neg failed, ResolverTask.Amid]
      by_cases unbound : bindResult < 0
      · rw [if_pos unbound, if_pos unbound]
        exact ⟨rfl, rfl⟩
      · rw [if_neg unbound, if_neg unbound]
        exact ⟨rfl, rfl⟩
  · by_cases failed : socketResult < 0
    · rw [udpResolverTask, if_pos failed]
    · cases (opened_there found failed bindResult).symm.trans none

/-- The receptions come behind the start. -/
theorem udpResolverTask_run (key buffer : Cells UInt8) (socketResult bindResult : Int)
    (receptions : List Reception)
    : udpResolverTask key buffer socketResult bindResult receptions
      = (udpResolverTask key buffer socketResult bindResult []).run receptions := by
  rw [udpResolverTask, udpResolverTask]
  split
  · exact (run_stopped rfl receptions).symm
  · split
    · exact (run_stopped rfl receptions).symm
    · rfl

end Starts

/-- Whatever was started and stopped before: behind a start whose task is created, over all turns
that leave the task, it receives as `udp_resolver_task` does by itself. It answers the receptions
that ask with the key of the start, in their order, and nothing else.
-/
theorem resolver_serves (memory : Nat → Cells UInt8) (history : List LifecycleTurn)
    {system : Lifecycle} (reached : afterTurns Lifecycle.turn history (.boot memory) = system)
    (idle : system.caller = .idle) (key buffer : Cells UInt8) (socketResult bindResult : Int)
    (turns : List LifecycleTurn)
    (leave
      : Obeys Lifecycle.turn (Lifecycle.Leaves (system.created + 1)) turns
          (system.begun key buffer socketResult bindResult))
    (sender : SockAddr)
    : let id := system.created + 1
      let begun := system.begun key buffer socketResult bindResult
      let receptions := outputs Lifecycle.turn (Lifecycle.received sender id) turns begun
      (afterTurns Lifecycle.turn turns begun).Serves id system.allocated
        (udpResolverTask key buffer socketResult bindResult receptions)
      ∧ outputs Lifecycle.turn (Lifecycle.answered id) turns begun
        = receptions.filterMap (Reception.packet? key) := by
  have named : system.Named := by
    rw [← reached]
    exact afterTurns_invariant Lifecycle.Named.turn history fun _ none => by cases none
  have serves := Lifecycle.begun_serves idle named key buffer socketResult bindResult
  obtain ⟨after, answers⟩ := serves.run sender leave
  rw [udpResolverTask_key] at answers
  dsimp only
  rw [udpResolverTask_run]
  exact ⟨after, answers⟩

def noCells : Cells UInt8 := fun _ => 0

/-- A start with another key, before the one with the empty key. -/
def startedBefore : Lifecycle :=
  afterTurns Lifecycle.turn (wholeStart 1 (fun _ => 1) noCells 4 0) (.boot fun _ => noCells)

/-- Both tasks receive a request. Then their receptions fail, and the old one closes `listen_sock`.
-/
def requestsReceived : List LifecycleTurn :=
  let request := headerByte :: List.replicate 36 0
  [.task 2 37 request, .task 1 37 request, .task 1 0 [], .task 2 0 [], .task 2 0 [], .task 1 0 [],
    .task 1 1 [], .task 2 1 [], .task 1 (-1) [], .task 1 0 [], .task 2 (-1) []]

theorem startedBefore_idle : startedBefore.caller = .idle := rfl

theorem requestsReceived_leave
    : Obeys Lifecycle.turn (Lifecycle.Leaves (startedBefore.created + 1)) requestsReceived
        (startedBefore.begun noCells noCells 5 0) := by
  decide

/-- Of the two receptions of the new task it answers the first. -/
theorem resolver_serves_twoTasks
    : outputs Lifecycle.turn (Lifecycle.answered 2) requestsReceived
        (startedBefore.begun noCells noCells 5 0)
      = [headerByte :: List.replicate 36 0] := by
  have serves := resolver_serves (fun _ => noCells) (wholeStart 1 (fun _ => 1) noCells 4 0)
    (rfl : _ = startedBefore) startedBefore_idle noCells noCells 5 0 requestsReceived
    requestsReceived_leave ⟨0, 0⟩
  exact serves.2.trans (by decide)

end BigBlackHardware.UdpResolver
