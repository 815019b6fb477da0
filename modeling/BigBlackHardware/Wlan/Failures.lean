import BigBlackHardware.Wlan.Exclusion

/-! What a call of `wlan_start` or `wlan_stop` that fails leaves behind. It has taken the lock by
then, and the task that would give it back is never created.
-/

namespace BigBlackHardware

open Library

/-- An `int` as the 8-bit signed integer that it becomes when it is returned as an `_i8`. -/
def toI8 (value : Int) : Int := value.bmod (2 ^ 8)

namespace WlanSystem

/-- `osi_LockObjLock` by its result: without an error the lock is held. -/
def lockObjLock (system : WlanSystem) (result : Int) : WlanSystem :=
  if result < 0 then system else { system with locked := true }

/-- `osi_TaskCreate` by its result: without an error there is a task for the call. -/
def taskCreate (system : WlanSystem) (call : WlanCall) (result : Int) : WlanSystem :=
  if result < 0 then system else system.withTask call

end WlanSystem

/-- The end of both functions, with `OSI_ASSERT_ON_ERROR`. -/
def assertCreated (createResult : Int) : Int :=
  if createResult < 0 then toI8 createResult else success

/-- `wlan_start`, with the results of its calls: the status and the system behind it. -/
def wlanStart (config : WlanConfig) (lockResult createResult : Int) (system : WlanSystem)
    : Int × WlanSystem :=
  let system := { system.lockObjLock lockResult with wlStatus := .wlanConnecting }
  (assertCreated createResult, system.taskCreate (.start config) createResult)

/-- `wlan_stop`, with the results of its calls. -/
def wlanStop (lockResult createResult : Int) (system : WlanSystem) : Int × WlanSystem :=
  let system := system.lockObjLock lockResult
  (assertCreated createResult, system.taskCreate .stop createResult)

/-- The function of a call. -/
def WlanCall.run : WlanCall → Int → Int → WlanSystem → Int × WlanSystem
  | .start config => wlanStart config
  | .stop => wlanStop

/-- If the status is negative, the call has left the status of the WLAN, the lock and the tasks as
they were.
-/
def FailsCleanly (before : WlanSystem) (outcome : Int × WlanSystem) : Prop :=
  outcome.1 < 0 →
    outcome.2.wlStatus = before.wlStatus
    ∧ outcome.2.locked = before.locked
    ∧ outcome.2.tasks = before.tasks

/-- The task is created, or the error is no error any more as an `_i8`. -/
def ReturnsSuccess (createResult : Int) : Prop := 0 ≤ createResult ∨ 0 ≤ toI8 createResult

/-- The call changes nothing before the task is to be created: it does not get the lock, or the lock
was held already, and a start finds the WLAN connecting.
-/
def WlanCall.ChangesNothing (call : WlanCall) (lockResult : Int) (system : WlanSystem) : Prop :=
  (lockResult < 0 ∨ system.locked = true)
  ∧ match call with
    | .start _ => system.wlStatus = .wlanConnecting
    | .stop => True

/-- A call is negative exactly if `osi_TaskCreate` fails with an error that is one as an `_i8`. -/
theorem assertCreated_nonneg_iff (createResult : Int)
    : 0 ≤ assertCreated createResult ↔ ReturnsSuccess createResult := by
  rw [assertCreated, ReturnsSuccess]
  split
  · rename_i failed
    exact (or_iff_right (Int.not_le.mpr failed)).symm
  · rename_i created
    exact iff_of_true (Int.le_refl 0) (Or.inl (Int.not_lt.mp created))

/-- The lock is as it was if the call did not get it or found it held. -/
theorem lockObjLock_locked_iff (system : WlanSystem) (result : Int)
    : (system.lockObjLock result).locked = system.locked
      ↔ result < 0 ∨ system.locked = true := by
  rw [WlanSystem.lockObjLock]
  split
  · rename_i failed
    exact iff_of_true rfl (Or.inl failed)
  · rename_i taken
    rw [or_iff_right taken]
    exact eq_comm

/-- The lock is all that is changed. -/
theorem lockObjLock_keeps (system : WlanSystem) (result : Int)
    : (system.lockObjLock result).wlStatus = system.wlStatus
      ∧ (system.lockObjLock result).tasks = system.tasks := by
  rw [WlanSystem.lockObjLock]
  split <;> exact ⟨rfl, rfl⟩

/-- With the answer that the lock gives, a call is two turns of the system with no other turn
between them.
-/
theorem WlanCall.run_eq_turns (call : WlanCall) (createResult : Int) (system : WlanSystem)
    : (call.run (osiLockObjLock system.locked).1 createResult system).2
      = (system.lock call).create system.callers.length createResult := by
  have found : (system.lock call).callers[system.callers.length]? = some call :=
    List.getElem?_concat_length
  have left
      : (system.callers ++ [call]).eraseIdx system.callers.length = system.callers := by
    rw [List.eraseIdx_append_of_length_le (Nat.le_refl _), Nat.sub_self]
    exact List.append_nil _
  have held
      : system.lockObjLock (osiLockObjLock system.locked).1 = { system with locked := true } := by
    rw [WlanSystem.lockObjLock, osiLockObjLock]
    by_cases before : system.locked = true
    · rw [if_pos before, if_pos (by decide), ← before]
    · rw [if_neg before, if_neg (by decide)]
  have taken : (osiLockObjLock system.locked).2 = true := by
    rw [osiLockObjLock]
    split <;> rfl
  rw [WlanSystem.create, found]
  dsimp only
  rw [show (system.lock call).callers.eraseIdx system.callers.length = system.callers from left]
  cases call with
  | start config =>
      rw [WlanCall.run, wlanStart, held, WlanSystem.lock, taken]
      rfl
  | stop =>
      rw [WlanCall.run, wlanStop, held, WlanSystem.lock, taken]
      rfl

/-- An outcome that is not negative fails cleanly, and another one does if it leaves all as it was.
-/
theorem failsCleanly_iff (before : WlanSystem) (createResult : Int) (after : WlanSystem)
    : FailsCleanly before (assertCreated createResult, after)
      ↔ ReturnsSuccess createResult
        ∨ (after.wlStatus = before.wlStatus
          ∧ after.locked = before.locked
          ∧ after.tasks = before.tasks) := by
  rw [FailsCleanly, ← assertCreated_nonneg_iff]
  dsimp only
  by_cases negative : assertCreated createResult < 0
  · rw [or_iff_right (Int.not_le.mpr negative)]
    exact ⟨fun clean => clean negative, fun clean _ => clean⟩
  · exact iff_of_true (fun given => absurd given negative) (Or.inl (Int.not_lt.mp negative))

/-- The task of a call that is negative was not created. -/
theorem error_of_not_returnsSuccess {createResult : Int}
    (negative : ¬ ReturnsSuccess createResult) : createResult < 0 :=
  Int.not_le.mp fun created => negative (Or.inl created)

section Calls

variable (lockResult createResult : Int) (system : WlanSystem)

/-- A negative `wlan_start` has set the status and has kept the lock if it got it. -/
theorem wlanStart_failsCleanly_iff (config : WlanConfig)
    : FailsCleanly system (wlanStart config lockResult createResult system)
      ↔ ReturnsSuccess createResult
        ∨ (WlanCall.start config).ChangesNothing lockResult system := by
  rw [wlanStart, failsCleanly_iff]
  refine or_congr_right' fun negative => ?_
  have failed := error_of_not_returnsSuccess negative
  rw [WlanSystem.taskCreate, if_pos failed, WlanCall.ChangesNothing, ← lockObjLock_locked_iff]
  have tasks := (lockObjLock_keeps system lockResult).2
  constructor
  · rintro ⟨status, held, -⟩
    exact ⟨held, status.symm⟩
  · rintro ⟨held, status⟩
    exact ⟨status.symm, held, tasks⟩

/-- A negative `wlan_stop` has kept the lock if it got it. -/
theorem wlanStop_failsCleanly_iff
    : FailsCleanly system (wlanStop lockResult createResult system)
      ↔ ReturnsSuccess createResult ∨ WlanCall.stop.ChangesNothing lockResult system := by
  rw [wlanStop, failsCleanly_iff]
  refine or_congr_right' fun negative => ?_
  have failed := error_of_not_returnsSuccess negative
  rw [WlanSystem.taskCreate, if_pos failed, WlanCall.ChangesNothing, ← lockObjLock_locked_iff]
  obtain ⟨status, tasks⟩ := lockObjLock_keeps system lockResult
  constructor
  · rintro ⟨-, held, -⟩
    exact ⟨held, trivial⟩
  · rintro ⟨held, -⟩
    exact ⟨status, held, tasks⟩

/-- A call leaves no trace of a failure exactly if its task is created, or the error is lost in the
`_i8`, or the lock and the status were before the call what it makes of them.
-/
theorem wlanCall_failsCleanly_iff (call : WlanCall)
    : FailsCleanly system (call.run lockResult createResult system)
      ↔ ReturnsSuccess createResult ∨ call.ChangesNothing lockResult system := by
  cases call with
  | start config => exact wlanStart_failsCleanly_iff lockResult createResult system config
  | stop => exact wlanStop_failsCleanly_iff lockResult createResult system

end Calls

/-- The first start, with no memory for its task: the WLAN stays connecting with the lock held. -/
theorem wlanStart_without_task
    : ¬ FailsCleanly wlanInit ((WlanCall.start openAp).run 0 (-1) wlanInit) := by
  intro clean
  have status := (clean (by decide)).1
  cases status

end BigBlackHardware
