import BigBlackHardware.Library.Turns
import BigBlackHardware.Udp.Resolver

/-! `udp_resolver_start` and `udp_resolver_stop` beside the tasks that the starts create. They share
`cfg.key`, `listen_sock` and `udp_handle`, and nobody resets them.
-/

namespace BigBlackHardware.UdpResolver

open Library

/-- What becomes of the key buffers and sockets, which are named by their order. -/
inductive LifecycleEvent where
  | allocated (key : Nat)
  | freed (key : Nat)
  | opened (sock : Nat)
  | closed (sock : Nat)
  /-- `cmp_keys` reads a key buffer. -/
  | keyRead (key : Nat)
  deriving DecidableEq

/-- How far a task is. -/
inductive ResolverStage where
  | opening
  /-- At the `OSI_ASSERT_WITH_EXIT` of `listen_sock`. -/
  | asserting
  | binding
  | receiving
  /-- A packet has passed `check_for_resolve`. -/
  | resolving
  /-- In `cmp_keys`, with the pointer that was passed to it. -/
  | comparing (key : Nat)
  | sending
  /-- At `err_exit`. -/
  | closing (status : Int)
  | exiting (status : Int)
  /-- Behind the end of the function, which no task should get to. -/
  | returned
  deriving DecidableEq

/-- A task that was created and not deleted. -/
structure ResolverTask where
  id : Nat
  stage : ResolverStage
  buffer : Cells UInt8
  /-- The socket that the task has opened. -/
  sock : Option Nat

/-- How far the caller is in `udp_resolver_start` or `udp_resolver_stop`. -/
inductive CallerStage where
  | idle
  /-- At the `strcpy` of a key. -/
  | copying (key : Cells UInt8)
  | creating
  /-- Behind the test of `listen_sock`. -/
  | freeing
  | closing
  | deleting

/-- The static variables of `udp_resolver.c`, and who uses them. -/
structure Lifecycle where
  /-- `cfg.key`, `none` for `NULL`. -/
  cfgKey : Option Nat
  /-- What the key buffers hold. -/
  memory : Nat → Cells UInt8
  allocated : Nat
  listenSock : Int
  /-- The socket that a handle was given to last. -/
  handles : Int → Option Nat
  opened : Nat
  udpHandle : Nat
  created : Nat
  tasks : List ResolverTask
  caller : CallerStage
  log : List LifecycleEvent

/-- The system after a reset. -/
def Lifecycle.boot (memory : Nat → Cells UInt8) : Lifecycle where
  cfgKey := none
  memory := memory
  allocated := 0
  listenSock := -1
  handles := fun _ => none
  opened := 0
  udpHandle := 0
  created := 0
  tasks := []
  caller := .idle
  log := []

namespace Lifecycle

def note (system : Lifecycle) (event : LifecycleEvent) : Lifecycle :=
  { system with log := system.log ++ [event] }

/-- The socket that `listen_sock` names, if it is no error. -/
def named (system : Lifecycle) : Option Nat :=
  if system.listenSock < 0 then none else system.handles system.listenSock

/-- `mem_Free(cfg.key)`. -/
def freeKey (system : Lifecycle) : Lifecycle :=
  match system.cfgKey with
  | none => system
  | some key => system.note (.freed key)

/-- `close(listen_sock)`. -/
def closeListenSock (system : Lifecycle) : Lifecycle :=
  match system.named with
  | none => system
  | some sock => system.note (.closed sock)

/-- `osi_TaskDelete(&udp_handle)`. -/
def deleteTask (system : Lifecycle) : Lifecycle :=
  { system with tasks := system.tasks.filter fun task => task.id ≠ system.udpHandle }

/-- The system with another state of a task. -/
def setTask (system : Lifecycle) (task : ResolverTask) : Lifecycle :=
  { system with
    tasks := system.tasks.map fun other => if other.id = task.id then task else other }

-----------------------------------------------------------------------------------------
-- The caller
-----------------------------------------------------------------------------------------

/-- `udp_resolver_start` up to its `strcpy`. The memory is taken never to run out. -/
def start (system : Lifecycle) (key : Cells UInt8) : Lifecycle :=
  match system.caller with
  | .idle =>
      { system with
        cfgKey := some system.allocated
        allocated := system.allocated + 1
        caller := .copying key }.note (.allocated system.allocated)
  | _ => system

/-- `udp_resolver_stop` up to its `mem_Free`. -/
def stop (system : Lifecycle) : Lifecycle :=
  match system.caller with
  | .idle => if system.listenSock ≥ 0 then { system with caller := .freeing } else system
  | _ => system

/-- The system behind `osi_TaskCreate`, with its result and what is on the stack of a new task. -/
def taskCreate (system : Lifecycle) (result : Int) (buffer : Cells UInt8) : Lifecycle :=
  if result < 0 then system
  else
    let id := system.created + 1
    { system with
      created := id
      udpHandle := id
      tasks := system.tasks ++ [⟨id, .opening, buffer, none⟩] }

/-- The caller's next step in the function that it is in. -/
def callerStep (system : Lifecycle) (result : Int) (buffer : Cells UInt8) : Lifecycle :=
  match system.caller with
  | .idle => system
  | .copying key =>
      { system with
        memory := fun i => if system.cfgKey = some i then key else system.memory i
        caller := .creating }
  | .creating => { system.taskCreate result buffer with caller := .idle }
  | .freeing => { system.freeKey with caller := .closing }
  | .closing => { system.closeListenSock with caller := .deleting }
  | .deleting => { system.deleteTask with caller := .idle }

-----------------------------------------------------------------------------------------
-- The tasks
-----------------------------------------------------------------------------------------

/-- The system with a new socket of a handle in `listen_sock`. -/
def newSocket (system : Lifecycle) (handle : Int) : Lifecycle :=
  { system with
    listenSock := handle
    handles := fun other => if other = handle then some system.opened else system.handles other
    opened := system.opened + 1 }.note (.opened system.opened)

/-- `listen_sock = socket(..)`. -/
def openSocket (system : Lifecycle) (task : ResolverTask) (result : Int) : Lifecycle :=
  if result < 0 then { system with listenSock := result }.setTask { task with stage := .asserting }
  else
    (system.newSocket result).setTask
      { task with stage := .asserting, sock := some system.opened }

/-- A task's next step, with the result of the call that it makes there and the bytes that a
`recvfrom` has received.
-/
def stepOf (system : Lifecycle) (task : ResolverTask) (result : Int) (bytes : List UInt8)
    : Lifecycle :=
  let goTo (stage : ResolverStage) := system.setTask { task with stage := stage }
  match task.stage with
  | .opening => system.openSocket task result
  | .asserting =>
      -- the task that is deleted may be another one, and then this one goes on
      if system.listenSock < 0 then (goTo .binding).deleteTask else goTo .binding
  | .binding => if result < 0 then goTo (.closing result) else goTo .receiving
  | .receiving =>
      if result ≤ 0 then goTo (.closing result)
      else
        let buffer := task.buffer.store 0 (bytes.take resolvePacketSize)
        let resolves := checkForResolve buffer result.toNat.toUInt16
        system.setTask
          { task with stage := if resolves then .resolving else .receiving, buffer := buffer }
  | .resolving =>
      match system.cfgKey with
      | none => system
      | some key => goTo (.comparing key)
  | .comparing key =>
      let found := cmpKeys task.buffer (system.memory key)
      (goTo (if found then .sending else .receiving)).note (.keyRead key)
  | .sending => if result < 0 then goTo (.closing result) else goTo .receiving
  | .closing status => (goTo (.exiting status)).closeListenSock
  | .exiting status => if status < 0 then (goTo .returned).deleteTask else goTo .returned
  | .returned => system

/-- The task of a name. -/
def taskOf (system : Lifecycle) (id : Nat) : Option ResolverTask :=
  system.tasks.find? fun task => task.id = id

def taskStep (system : Lifecycle) (id : Nat) (result : Int) (bytes : List UInt8) : Lifecycle :=
  match system.taskOf id with
  | none => system
  | some task => system.stepOf task result bytes

end Lifecycle

/-- What can happen next: the caller begins a call, or the caller or a task goes on. -/
inductive LifecycleTurn where
  | start (key : Cells UInt8)
  | stop
  | caller (result : Int) (buffer : Cells UInt8)
  | task (id : Nat) (result : Int) (bytes : List UInt8)

def Lifecycle.turn (system : Lifecycle) : LifecycleTurn → Lifecycle
  | .start key => system.start key
  | .stop => system.stop
  | .caller result buffer => system.callerStep result buffer
  | .task id result bytes => system.taskStep id result bytes

/-- No key buffer is freed twice, no socket is closed twice, and no key is read from a buffer that
was freed.
-/
structure LifecycleKept (log : List LifecycleEvent) : Prop where
  freedOnce : ∀ key, log.count (.freed key) ≤ 1
  closedOnce : ∀ sock, log.count (.closed sock) ≤ 1
  readsUnfreed
    : ∀ before key later, log = before ++ .keyRead key :: later → .freed key ∉ before

-----------------------------------------------------------------------------------------
-- Rounds
-----------------------------------------------------------------------------------------

/-- The steps of a round of the receive loop, as many as there can be. -/
def Reception.turns (id : Nat) : Reception → List LifecycleTurn
  | .error status _ => [.task id status []]
  | .datagram bytes _ sendResult =>
      [.task id (bytes.take resolvePacketSize).length bytes, .task id 0 [], .task id 0 [],
        .task id sendResult []]

/-- A task is at the end of a round that has left its resolver as it is now. -/
def ResolverTask.Finishes (task : ResolverTask) (resolver : Resolver) : Prop :=
  task.buffer = resolver.buffer
  ∧ if resolver.receiving then task.stage = .receiving else ∃ status, task.stage = .closing status

section Rounds

variable {system : Lifecycle} {task : ResolverTask} {id : Nat}

theorem taskOf_id (found : system.taskOf id = some task) : task.id = id := by
  rw [Lifecycle.taskOf] at found
  have passes := List.find?_some found
  exact of_decide_eq_true passes

/-- The task of a name that is set is found. -/
theorem taskOf_setTask (found : system.taskOf id = some task) {next : ResolverTask}
    (named : next.id = id) : (system.setTask next).taskOf id = some next := by
  have same : (fun other => decide (ResolverTask.id other = id)) ∘ (fun other : ResolverTask =>
      if other.id = next.id then next else other) = fun other => decide (other.id = id) := by
    funext other
    rw [Function.comp_apply]
    split
    · rename_i this
      rw [named, this, named]
    · rfl
  have this : task.id = next.id := (taskOf_id found).trans named.symm
  rw [Lifecycle.taskOf] at found ⊢
  rw [Lifecycle.setTask, List.find?_map, same, found, Option.map_some, if_pos this]

/-- A task's step from a stage. -/
theorem turn_task (found : system.taskOf id = some task) (result : Int) (bytes : List UInt8)
    : system.turn (.task id result bytes) = system.stepOf task result bytes := by
  change system.taskStep id result bytes = _
  rw [Lifecycle.taskStep, found]

/-- What a `recvfrom` that brings bytes does. -/
theorem turn_receiving (found : system.taskOf id = some task) (receiving : task.stage = .receiving)
    {result : Int} (positive : 0 < result) (bytes : List UInt8)
    : system.turn (.task id result bytes)
      = system.setTask
          { task with
            stage :=
              if checkForResolve (task.buffer.store 0 (bytes.take resolvePacketSize))
                  result.toNat.toUInt16
              then .resolving
              else .receiving
            buffer := task.buffer.store 0 (bytes.take resolvePacketSize) } := by
  rw [turn_task found, Lifecycle.stepOf, receiving]
  exact if_neg (Int.not_le.mpr positive)

/-- The steps of a task that has a request in its buffer: it compares the keys and answers. -/
theorem turns_resolving {key : Nat} (found : system.taskOf id = some task)
    (resolving : task.stage = .resolving) (points : system.cfgKey = some key) (sendResult : Int)
    : ∃ n next,
        (afterTurns Lifecycle.turn
              (([.task id 0 [], .task id 0 [], .task id sendResult []]
                : List LifecycleTurn).take n) system).taskOf id = some next
        ∧ next.buffer = task.buffer
        ∧ next.stage
          = if cmpKeys task.buffer (system.memory key) then
              if sendResult < 0 then .closing sendResult else .receiving
            else .receiving := by
  have named := taskOf_id found
  let comparing : ResolverTask := { task with stage := .comparing key }
  have first : system.turn (.task id 0 []) = system.setTask comparing := by
    rw [turn_task found, Lifecycle.stepOf, resolving]
    dsimp only
    rw [points]
  have compares : (system.setTask comparing).taskOf id = some comparing :=
    taskOf_setTask found named
  let compared : ResolverTask :=
    { task with
      stage := if cmpKeys task.buffer (system.memory key) then .sending else .receiving }
  have second : (system.setTask comparing).turn (.task id 0 [])
      = ((system.setTask comparing).setTask compared).note (.keyRead key) := turn_task compares 0 []
  have sends : (((system.setTask comparing).setTask compared).note (.keyRead key)).taskOf id
      = some compared := taskOf_setTask compares named
  by_cases same : cmpKeys task.buffer (system.memory key) = true
  · have sending : compared.stage = .sending := if_pos same
    refine ⟨3, { task with stage := if sendResult < 0 then .closing sendResult else .receiving },
      ?_, rfl, (if_pos same).symm⟩
    change (((system.turn (.task id 0 [])).turn (.task id 0 [])).turn
      (.task id sendResult [])).taskOf id = _
    rw [first, second, turn_task sends, Lifecycle.stepOf, sending]
    dsimp only
    split
    · exact taskOf_setTask sends named
    · exact taskOf_setTask sends named
  · refine ⟨2, compared, ?_, rfl, ?_⟩
    · change ((system.turn (.task id 0 [])).turn (.task id 0 [])).taskOf id = _
      rw [first, second]
      exact sends
    · rw [if_neg same]
      exact if_neg same

/-- Without other turns between them, some of the steps of a round make up the round of the
resolver.
-/
theorem turns_finish {key : Nat} (found : system.taskOf id = some task)
    (receiving : task.stage = .receiving) (points : system.cfgKey = some key)
    (reception : Reception)
    : ∃ n next,
        (afterTurns Lifecycle.turn ((reception.turns id).take n) system).taskOf id = some next
        ∧ next.Finishes
            ((⟨system.memory key, task.buffer, true, true, []⟩ : Resolver).round reception) := by
  have named := taskOf_id found
  have failing {result : Int} (failed : result ≤ 0) (bytes : List UInt8)
      : (system.turn (.task id result bytes)).taskOf id
        = some { task with stage := .closing result } := by
    rw [turn_task found, Lifecycle.stepOf, receiving]
    dsimp only
    rw [if_pos failed]
    exact taskOf_setTask found named
  cases reception with
  | error status failed => exact ⟨1, _, failing failed [], rfl, status, rfl⟩
  | datagram bytes sender sendResult =>
      let block := bytes.take resolvePacketSize
      let stored := task.buffer.store 0 block
      rw [Resolver.round]
      by_cases empty : block.length ≤ 0
      · have nothing : block = [] := List.eq_nil_of_length_eq_zero (Nat.le_zero.mp empty)
        refine ⟨1, _, failing (Int.ofNat_le.mpr empty) bytes, ?_⟩
        rw [if_pos empty]
        refine ⟨?_, _, rfl⟩
        change task.buffer = task.buffer.store 0 block
        rw [nothing, Cells.store_nil]
      have positive : (0 : Int) < block.length := by omega
      let checked : ResolverTask :=
        { task with
          stage := if checkForResolve stored block.length.toUInt16 then .resolving else .receiving
          buffer := stored }
      have first : system.turn (.task id block.length bytes) = system.setTask checked :=
        turn_receiving found receiving positive bytes
      have next : (system.setTask checked).taskOf id = some checked := taskOf_setTask found named
      rw [if_neg empty, Resolver.handle]
      dsimp only
      by_cases resolves : checkForResolve stored block.length.toUInt16 = true
      · obtain ⟨n, last, there, buffer, stage⟩ :=
          turns_resolving next (if_pos resolves) points sendResult
        refine ⟨n + 1, last, ?_, ?_⟩
        · change (afterTurns Lifecycle.turn _ (system.turn _)).taskOf id = _
          rw [first]
          exact there
        · rw [if_pos resolves]
          by_cases same : cmpKeys stored (system.memory key) = true
          · rw [if_pos same]
            rw [show cmpKeys checked.buffer ((system.setTask checked).memory key) = true from same]
              at stage
            by_cases failed : sendResult < 0
            · rw [if_pos failed]
              exact ⟨buffer, sendResult, by rw [stage, if_pos rfl, if_pos failed]⟩
            · rw [if_neg failed]
              exact ⟨buffer, by rw [stage, if_pos rfl, if_neg failed]; rfl⟩
          · rw [if_neg same]
            exact ⟨buffer, stage.trans (if_neg same)⟩
      · refine ⟨1, checked, ?_, ?_⟩
        · change (system.turn (.task id block.length bytes)).taskOf id = _
          rw [first]
          exact next
        · rw [if_neg resolves]
          exact ⟨rfl, if_neg resolves⟩

end Rounds

-----------------------------------------------------------------------------------------
-- Proper turns
-----------------------------------------------------------------------------------------

/-- The task has its `close` still to come. -/
def ResolverTask.beforeClose (task : ResolverTask) : Bool :=
  match task.stage with
  | .exiting _ | .returned => false
  | _ => true

/-- A stop is under way, behind its test of `listen_sock`. -/
def CallerStage.stopping : CallerStage → Bool
  | .freeing | .closing | .deleting => true
  | _ => false

/-- A stop is under way, behind its `mem_Free`. -/
def CallerStage.behindFree : CallerStage → Bool
  | .closing | .deleting => true
  | _ => false

/-- A stop is under way, behind its `close`. -/
def CallerStage.behindClose : CallerStage → Bool
  | .deleting => true
  | _ => false

namespace Lifecycle

/-- `listen_sock` names a socket that is open. -/
def SocketOpen (system : Lifecycle) : Prop :=
  ∃ sock, system.named = some sock ∧ .closed sock ∉ system.log

instance (system : Lifecycle) : Decidable system.SocketOpen :=
  decidable_of_iff (∃ sock ∈ system.named, .closed sock ∉ system.log) Iff.rfl

/-- No other task than the one that `udp_handle` names has its `close` still to come. -/
def OnlyHandle (system : Lifecycle) : Prop :=
  ∀ task ∈ system.tasks, task.beforeClose = true → task.id = system.udpHandle

instance (system : Lifecycle) : Decidable system.OnlyHandle :=
  inferInstanceAs (Decidable (∀ task ∈ system.tasks, _ → _))

/-- A step of a task that gets in nobody's way. It opens no socket while a stop is about to delete
the task, and reads no key that a stop under way has freed. What it closes is the socket that it has
opened itself, and no stop is under way that would close it too.
-/
def ProperStep (system : Lifecycle) (task : ResolverTask) : Prop :=
  match task.stage with
  | .opening => system.caller.behindClose = false
  | .comparing key => system.caller.behindFree = true → system.cfgKey ≠ some key
  | .closing _ =>
      system.named = none ∨ (system.named = task.sock ∧ system.caller.stopping = false)
  | _ => True

instance : (system : Lifecycle) → (task : ResolverTask) → Decidable (system.ProperStep task)
  | system, ⟨_, .opening, _, _⟩ =>
      inferInstanceAs (Decidable (system.caller.behindClose = false))
  | system, ⟨_, .comparing key, _, _⟩ =>
      inferInstanceAs (Decidable (system.caller.behindFree = true → system.cfgKey ≠ some key))
  | system, ⟨_, .closing _, _, sock⟩ =>
      inferInstanceAs
        (Decidable (system.named = none
          ∨ (system.named = sock ∧ system.caller.stopping = false)))
  | _, ⟨_, .asserting, _, _⟩ | _, ⟨_, .binding, _, _⟩ | _, ⟨_, .receiving, _, _⟩
  | _, ⟨_, .resolving, _, _⟩ | _, ⟨_, .sending, _, _⟩ | _, ⟨_, .exiting _, _, _⟩
  | _, ⟨_, .returned, _, _⟩ => instDecidableTrue

/-- The turns that keep the caller and the tasks apart. A stop finds the socket open, and no task
left that it does not delete.
-/
def Proper (system : Lifecycle) : LifecycleTurn → Prop
  | .start _ | .caller _ _ => True
  | .stop =>
      match system.caller with
      | .idle => system.listenSock < 0 ∨ (system.SocketOpen ∧ system.OnlyHandle)
      | _ => True
  | .task id _ _ =>
      match system.taskOf id with
      | none => True
      | some task => system.ProperStep task

instance (system : Lifecycle) : (turn : LifecycleTurn) → Decidable (system.Proper turn)
  | .start _ | .caller _ _ => instDecidableTrue
  | .stop =>
      match stage : system.caller with
      | .idle =>
          decidable_of_iff (system.listenSock < 0 ∨ (system.SocketOpen ∧ system.OnlyHandle))
            (by rw [Proper, stage])
      | .copying _ | .creating | .freeing | .closing | .deleting =>
          isTrue (by rw [Proper, stage]; trivial)
  | .task id _ _ =>
      match found : system.taskOf id with
      | none => isTrue (by rw [Proper, found]; trivial)
      | some task => decidable_of_iff (system.ProperStep task) (by rw [Proper, found])

end Lifecycle

end BigBlackHardware.UdpResolver
