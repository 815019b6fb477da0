import BigBlackHardware.Library.Turns
import BigBlackHardware.Wlan.Status

/-! `wlan_start` and `wlan_stop`, which hand `start_stop_lock` to the tasks they create. Whether
they got the lock themselves they do not look at.
-/

namespace BigBlackHardware

open Library

/-- A call of `wlan_start` or `wlan_stop`. -/
inductive WlanCall where
  | start (config : WlanConfig)
  | stop

/-- How far a task is. -/
inductive TaskStage where
  /-- Before its `osi_LockObjUnlock`. -/
  | atWork
  /-- Between its `osi_LockObjUnlock` and its `osi_TaskDelete`. -/
  | unlocked
  /-- Behind an `osi_TaskDelete` that deleted another task. -/
  | returned
  deriving DecidableEq

/-- A task that was created and not deleted. -/
structure WlanTask where
  id : Nat
  call : WlanCall
  stage : TaskStage

/-- The lock and the handles of `wlan_config.c`, and the calls and tasks that use them. -/
structure WlanSystem where
  /-- `start_stop_lock` is held. -/
  locked : Bool
  wlStatus : WlanStatus
  /-- The calls between `osi_LockObjLock` and `osi_TaskCreate`. -/
  callers : List WlanCall
  tasks : List WlanTask
  /-- How many tasks were created; the next one is named by the number behind it. -/
  created : Nat
  startHandle : Nat
  stopHandle : Nat

/-- The system after `wlan_init`. -/
def wlanInit : WlanSystem where
  locked := false
  wlStatus := .wlanReady
  callers := []
  tasks := []
  created := 0
  startHandle := 0
  stopHandle := 0

/-- `osi_LockObjLock` with timeout 0: the status, and whether the lock is held afterwards. -/
def osiLockObjLock (locked : Bool) : Int × Bool :=
  if locked then (-1, true) else (0, true)

namespace WlanSystem

/-- A call up to its `osi_LockObjLock`. It does not look at the status. -/
def lock (system : WlanSystem) (call : WlanCall) : WlanSystem :=
  { system with
    locked := (osiLockObjLock system.locked).2
    callers := system.callers ++ [call]
    wlStatus :=
      match call with
      | .start _ => .wlanConnecting
      | .stop => system.wlStatus }

/-- The system with a new task for a call. -/
def withTask (system : WlanSystem) (call : WlanCall) : WlanSystem :=
  let id := system.created + 1
  let system :=
    { system with created := id, tasks := system.tasks ++ [WlanTask.mk id call .atWork] }
  match call with
  | .start _ => { system with startHandle := id }
  | .stop => { system with stopHandle := id }

/-- A call that holds a place among the callers goes on to the end, with the result of its
`osi_TaskCreate`. On an error the lock stays held.
-/
def create (system : WlanSystem) (caller : Nat) (result : Int) : WlanSystem :=
  match system.callers[caller]? with
  | none => system
  | some call =>
      let system := { system with callers := system.callers.eraseIdx caller }
      if result < 0 then system else system.withTask call

/-- The task of a name, if it is at a stage. -/
def taskAt (system : WlanSystem) (id : Nat) (stage : TaskStage) : Option WlanTask :=
  system.tasks.find? fun task => task.id = id ∧ task.stage = stage

/-- The tasks with the one of a name moved to a stage. -/
def moved (tasks : List WlanTask) (id : Nat) (stage : TaskStage) : List WlanTask :=
  tasks.map fun task => if task.id = id then { task with stage := stage } else task

/-- A task at work goes on up to its `osi_LockObjUnlock`, with what the SimpleLink calls return and
the checks of the link show to it.
-/
def unlock (system : WlanSystem) (id : Nat) (results : Nat → Int) (checks : Nat → LinkCheck)
    : WlanSystem :=
  match system.taskAt id .atWork with
  | none => system
  | some task =>
      { system with
        locked := false
        tasks := moved system.tasks id .unlocked
        wlStatus :=
          match task.call with
          | .start config =>
              (final (wlanStartTask config
                ⟨results, checks, [], system.wlStatus, .zeroed⟩)).wlStatus
          | .stop => .wlanReady }

/-- A task that has unlocked goes on to its `osi_TaskDelete`, which deletes the task that the handle
names by then.
-/
def delete (system : WlanSystem) (id : Nat) : WlanSystem :=
  match system.taskAt id .unlocked with
  | none => system
  | some task =>
      let handle :=
        match task.call with
        | .start _ => system.startHandle
        | .stop => system.stopHandle
      { system with
        tasks := moved (system.tasks.filter fun other => other.id ≠ handle) id .returned }

end WlanSystem

/-- What can happen next: one call or task goes on to its next call of the operating system. -/
inductive WlanTurn where
  | lock (call : WlanCall)
  | create (caller : Nat) (result : Int)
  | unlock (id : Nat) (results : Nat → Int) (checks : Nat → LinkCheck)
  | delete (id : Nat)

def WlanSystem.turn (system : WlanSystem) : WlanTurn → WlanSystem
  | .lock call => system.lock call
  | .create caller result => system.create caller result
  | .unlock id results checks => system.unlock id results checks
  | .delete id => system.delete id

/-- Whether a task counts as alive: until it is deleted, or until it gives the lock back. -/
def WlanTask.counts (untilDeleted : Bool) (task : WlanTask) : Bool :=
  untilDeleted || task.stage = .atWork

/-- How many tasks are alive. -/
def WlanSystem.alive (untilDeleted : Bool) (system : WlanSystem) : Nat :=
  system.tasks.countP (WlanTask.counts untilDeleted)

/-- At most one task is alive, and the lock is held while one is. -/
def WlanSystem.Exclusive (untilDeleted : Bool) (system : WlanSystem) : Prop :=
  system.alive untilDeleted ≤ 1 ∧ (0 < system.alive untilDeleted → system.locked = true)

/-- The turns that keep the tasks apart: a call finds the lock free. If a task counts until it is
deleted, it does not give the lock back either, since it is alive behind that.
-/
def WlanSystem.Proper (untilDeleted : Bool) (system : WlanSystem) : WlanTurn → Prop
  | .lock _ => system.locked = false
  | .unlock id _ _ => untilDeleted = false ∨ system.taskAt id .atWork = none
  | _ => True

-----------------------------------------------------------------------------------------
-- Turns
-----------------------------------------------------------------------------------------

/-- Whoever is on the way to a task or is one holds the lock, and there is at most one. -/
structure WlanSystem.Guarded (untilDeleted : Bool) (system : WlanSystem) : Prop where
  one : system.callers.length + system.alive untilDeleted ≤ 1
  free : system.locked = false → system.callers.length + system.alive untilDeleted = 0

variable {untilDeleted : Bool} {system : WlanSystem}

theorem wlanInit_guarded (untilDeleted : Bool) : wlanInit.Guarded untilDeleted :=
  ⟨Nat.zero_le 1, fun _ => rfl⟩

theorem WlanSystem.Guarded.exclusive (guarded : system.Guarded untilDeleted)
    : system.Exclusive untilDeleted := by
  obtain ⟨one, free⟩ := guarded
  refine ⟨by omega, fun some => ?_⟩
  cases held : system.locked with
  | true => rfl
  | false =>
      have none := free held
      omega

/-- A task that is moved on to a stage that does not count adds nothing. -/
theorem countP_moved_le (tasks : List WlanTask) (id : Nat) {stage : TaskStage}
    (notAtWork : stage ≠ .atWork)
    : (WlanSystem.moved tasks id stage).countP (WlanTask.counts untilDeleted)
      ≤ tasks.countP (WlanTask.counts untilDeleted) := by
  rw [WlanSystem.moved, List.countP_map]
  refine List.countP_mono_left fun task _ counted => ?_
  cases untilDeleted with
  | true => rfl
  | false =>
      dsimp only [Function.comp_apply] at counted
      split at counted
      · exact absurd (by simpa [WlanTask.counts] using counted) notAtWork
      · exact counted

/-- A call that finds the lock free is the only one. -/
theorem WlanSystem.Guarded.lock (guarded : system.Guarded untilDeleted)
    (free : system.locked = false) (call : WlanCall)
    : (system.lock call).Guarded untilDeleted := by
  have none := guarded.free free
  have alive : (system.lock call).alive untilDeleted = system.alive untilDeleted := rfl
  have held : (system.lock call).locked = true := by
    change (osiLockObjLock system.locked).2 = true
    rw [osiLockObjLock]
    split <;> rfl
  have callers : (system.lock call).callers.length = system.callers.length + 1 :=
    List.length_append
  refine ⟨?_, fun unlocked => ?_⟩
  · rw [alive, callers]
    omega
  · rw [held] at unlocked
    cases unlocked

/-- A caller holds the lock. -/
theorem WlanSystem.Guarded.caller_locked (guarded : system.Guarded untilDeleted)
    (some : 0 < system.callers.length) : system.locked = true := by
  cases held : system.locked with
  | true => rfl
  | false =>
      have none := guarded.free held
      omega

/-- The task of a call takes its place, and nothing does if there is no task. -/
theorem WlanSystem.Guarded.create (guarded : system.Guarded untilDeleted) (caller : Nat)
    (result : Int) : (system.create caller result).Guarded untilDeleted := by
  rw [WlanSystem.create]
  cases found : system.callers[caller]? with
  | none => exact guarded
  | some call =>
      obtain ⟨inside, -⟩ := List.getElem?_eq_some_iff.mp found
      have held := guarded.caller_locked (by omega)
      have left := List.length_eraseIdx_of_lt inside
      have one := guarded.one
      dsimp only
      split
      · refine ⟨?_, fun unlocked => ?_⟩
        · change (system.callers.eraseIdx caller).length + system.alive untilDeleted ≤ 1
          omega
        · exact absurd (held.symm.trans unlocked) (by decide)
      · refine ⟨?_, fun unlocked => ?_⟩
        · have callers
              : ({ system with callers := system.callers.eraseIdx caller }.withTask call).callers
                = system.callers.eraseIdx caller := by
            cases call <;> rfl
          have alive
              : ({ system with callers := system.callers.eraseIdx caller }.withTask call).alive
                  untilDeleted
                = system.alive untilDeleted + 1 := by
            cases call <;> simp [WlanSystem.alive, WlanSystem.withTask, WlanTask.counts]
          rw [callers, alive, left]
          omega
        · have locked
              : ({ system with callers := system.callers.eraseIdx caller }.withTask call).locked
                = system.locked := by
            cases call <;> rfl
          exact absurd (held.symm.trans (locked.symm.trans unlocked)) (by decide)

/-- Of at most one entry with a property there are no two. -/
theorem eq_of_countP_le_one {α : Type} {p : α → Bool} {entries : List α}
    (one : entries.countP p ≤ 1) {a b : α} (left : a ∈ entries) (right : b ∈ entries)
    (first : p a = true) (second : p b = true) : a = b := by
  rw [List.countP_eq_length_filter] at one
  have leftIn : a ∈ entries.filter p := List.mem_filter.mpr ⟨left, first⟩
  have rightIn : b ∈ entries.filter p := List.mem_filter.mpr ⟨right, second⟩
  cases found : entries.filter p with
  | nil =>
      rw [found] at leftIn
      cases leftIn
  | cons x rest =>
      rw [found, List.length_cons] at one
      have none : rest = [] := List.eq_nil_of_length_eq_zero (by omega)
      rw [found, none] at leftIn rightIn
      rw [List.mem_singleton.mp leftIn, List.mem_singleton.mp rightIn]

/-- When the only task at work gives the lock back, none is left at work. -/
theorem WlanSystem.Guarded.unlock (guarded : system.Guarded false) (id : Nat)
    (results : Nat → Int) (checks : Nat → LinkCheck)
    : (system.unlock id results checks).Guarded false := by
  rw [WlanSystem.unlock]
  cases found : system.taskAt id .atWork with
  | none => exact guarded
  | some task =>
      have one := guarded.one
      have member : task ∈ system.tasks := List.mem_of_find?_eq_some found
      have passes := List.find?_some found
      obtain ⟨named, atWork⟩ := of_decide_eq_true passes
      have counted : task.counts false = true := by simp [WlanTask.counts, atWork]
      have alive : 0 < system.alive false := List.countP_pos_iff.mpr ⟨task, member, counted⟩
      have noneLeft : (moved system.tasks id .unlocked).countP (WlanTask.counts false) = 0 := by
        rw [List.countP_eq_zero]
        intro other present
        obtain ⟨before, was, rfl⟩ := List.mem_map.mp present
        split
        · simp [WlanTask.counts]
        · rename_i different
          intro still
          have same := eq_of_countP_le_one (by rw [WlanSystem.alive] at one; omega) was member still
            counted
          exact different (by rw [same, named])
      have none
          : system.callers.length
              + (moved system.tasks id .unlocked).countP (WlanTask.counts false) = 0 := by
        omega
      exact ⟨none.le.trans (Nat.zero_le 1), fun _ => none⟩

/-- A deletion makes no task count that did not. -/
theorem WlanSystem.Guarded.delete (guarded : system.Guarded untilDeleted) (id : Nat)
    : (system.delete id).Guarded untilDeleted := by
  rw [WlanSystem.delete]
  cases found : system.taskAt id .unlocked with
  | none => exact guarded
  | some task =>
      obtain ⟨one, free⟩ := guarded
      have fewer (handle : Nat)
          : (moved (system.tasks.filter fun other => other.id ≠ handle) id .returned).countP
              (WlanTask.counts untilDeleted)
            ≤ system.alive untilDeleted :=
        (countP_moved_le _ id (by decide)).trans (List.filter_sublist.countP_le)
      dsimp only
      generalize (match task.call with
        | .start _ => system.startHandle
        | .stop => system.stopHandle) = handle
      have less := fewer handle
      refine ⟨?_, fun unlocked => ?_⟩
      · change system.callers.length + _ ≤ 1
        exact (Nat.add_le_add_left less _).trans one
      · have none := free unlocked
        change system.callers.length + _ = 0
        refine Nat.eq_zero_of_le_zero ?_
        rw [← none]
        exact Nat.add_le_add_left less _

/-- Every proper turn keeps the system guarded. -/
theorem WlanSystem.Guarded.turn (system : WlanSystem) (turn : WlanTurn)
    (guarded : system.Guarded untilDeleted) (proper : system.Proper untilDeleted turn)
    : (system.turn turn).Guarded untilDeleted := by
  cases turn with
  | lock call => exact guarded.lock proper call
  | create caller result => exact guarded.create caller result
  | unlock id results checks =>
      rcases proper with given | none
      · subst given
        exact guarded.unlock id results checks
      · rw [WlanSystem.turn, WlanSystem.unlock, none]
        exact guarded
  | delete id => exact guarded.delete id

/-- In a run of proper turns the tasks exclude each other at every instant. -/
theorem wlan_exclusive (untilDeleted : Bool) (turns : List WlanTurn)
    (proper
      : Obeys WlanSystem.turn (WlanSystem.Proper untilDeleted) turns wlanInit)
    : ∀ system ∈ instants WlanSystem.turn turns wlanInit, system.Exclusive untilDeleted := by
  intro system instant
  have guarded := proper.instants (P := WlanSystem.Guarded untilDeleted) WlanSystem.Guarded.turn
    (wlanInit_guarded untilDeleted) system instant
  exact guarded.exclusive

/-- A start and then a stop, which comes before the start task deletes itself. -/
def startThenStop : List WlanTurn :=
  [.lock (.start openAp), .create 0 0, .unlock 1 (fun _ => 0) (fun _ => ⟨true, true⟩), .lock .stop,
    .delete 1, .create 0 0, .unlock 2 (fun _ => 0) (fun _ => ⟨true, true⟩), .delete 2]

theorem wlan_exclusive_startThenStop
    : Obeys WlanSystem.turn (WlanSystem.Proper false) startThenStop wlanInit
      ∧ ∀ system ∈ instants WlanSystem.turn startThenStop wlanInit, system.Exclusive false := by
  have proper : Obeys WlanSystem.turn (WlanSystem.Proper false) startThenStop wlanInit :=
    ⟨rfl, trivial, Or.inl rfl, rfl, trivial, trivial, Or.inl rfl, trivial, trivial⟩
  exact ⟨proper, wlan_exclusive false startThenStop proper⟩

/-- A start, and a stop while the start task is at work. -/
def startAndStop : List WlanTurn :=
  [.lock (.start openAp), .create 0 0, .lock .stop, .create 0 0]

/-- Both tasks are alive then, however long a task counts. -/
theorem wlan_startAndStop_together
    : ¬ (∀ system ∈ instants WlanSystem.turn startAndStop wlanInit, system.Exclusive true)
      ∧ ¬ (∀ system ∈ instants WlanSystem.turn startAndStop wlanInit, system.Exclusive false) := by
  have both : afterTurns WlanSystem.turn startAndStop wlanInit
      ∈ instants WlanSystem.turn startAndStop wlanInit := afterTurns_mem_instants _ _
  constructor
  · intro exclusive
    exact absurd (exclusive _ both).1 (by decide)
  · intro exclusive
    exact absurd (exclusive _ both).1 (by decide)

end BigBlackHardware
