import BigBlackHardware.Boot.Initialization

/-! What the initialization task, the task that it creates to bring the WLAN up, the configuration
UART and the updater tasks can make of the device, whoever gets the next turn.
-/

namespace BigBlackHardware

open Library

-----------------------------------------------------------------------------------------
-- The WLAN of a device
-----------------------------------------------------------------------------------------

/-- The WLAN behind a `wlan_start` whose task was not created. -/
def wlanNotCreated (config : WlanConfig) : WlanSystem :=
  { wlanInit.lock (.start config) with callers := [] }

/-- The WLAN with the start task at a stage, or behind its deletion. -/
def wlanStarted (config : WlanConfig) (stage : Option TaskStage) (status : WlanStatus)
    : WlanSystem where
  locked := stage = some .atWork
  wlStatus := status
  callers := []
  tasks := stage.toList.map (WlanTask.mk 1 (.start config))
  created := 1
  startHandle := 1
  stopHandle := 0

/-- The status that a start task leaves of a connection under way. -/
def startedStatus (config : WlanConfig) (results : Nat → Int) (checks : Nat → LinkCheck)
    : WlanStatus :=
  (final (wlanStartTask config (.initial results checks .wlanConnecting .zeroed))).wlStatus

section Started

variable (config : WlanConfig) (results : Nat → Int) (checks : Nat → LinkCheck)

/-- A start task does not leave the WLAN connecting. -/
theorem startedStatus_settled : startedStatus config results checks ≠ .wlanConnecting := by
  rw [startedStatus]
  by_cases started : 0 ≤ (Wlan.initial results checks .wlanConnecting .zeroed).restartResult
  · cases run : configureWlan config
        ((Wlan.initial results checks .wlanConnecting .zeroed).restarted config) with
    | error impossible _ => cases impossible
    | ok status after =>
        rw [wlanStartTask_configured config _ started run]
        dsimp only
        split <;> decide
  · rw [wlanStartTask_notStarted config _ (Int.not_le.mp started)]
    exact WlanStatus.noConfusion

/-- In station mode it leaves the WLAN connected only on a network that is up. -/
theorem startedStatus_network (mode : config.mode = .wlanConfigSta)
    (connected : startedStatus config results checks = .wlanConnected)
    : WlanUp config
        (final (wlanStartTask config (.initial results checks .wlanConnecting .zeroed))) := by
  have truthful
      : Truthful config
          (final (wlanStartTask config (.initial results checks .wlanConnecting .zeroed))) := by
    by_cases started : 0 ≤ results 1
    · exact sta_truthful config results checks .wlanConnecting .zeroed mode started
    · exact notStarted_truthful config results checks .wlanConnecting .zeroed
        (Int.not_le.mp started)
  by_contra down
  have ready : startedStatus config results checks = .wlanReady := truthful.down down
  rw [connected] at ready
  cases ready

/-- The caller goes on to its task, or to none. -/
theorem lock_create (result : Int)
    : (wlanInit.lock (.start config)).create 0 result
      = if result < 0 then wlanNotCreated config
        else wlanStarted config (some .atWork) .wlanConnecting := by
  have caller : (wlanInit.lock (.start config)).callers[0]? = some (.start config) := rfl
  rw [WlanSystem.create, caller]
  dsimp only
  split <;> rfl

/-- No task has a name and a stage that none of the tasks has. -/
theorem WlanSystem.taskAt_none {system : WlanSystem} {id : Nat} {stage : TaskStage}
    (other : ∀ task ∈ system.tasks, task.stage = stage → task.id ≠ id)
    : system.taskAt id stage = none := by
  rw [WlanSystem.taskAt, List.find?_eq_none]
  intro task present found
  obtain ⟨named, here⟩ := of_decide_eq_true found
  exact other task present here named

/-- Only a task at work unlocks. -/
theorem unlock_other {system : WlanSystem} {id : Nat}
    (other : ∀ task ∈ system.tasks, task.stage = .atWork → task.id ≠ id)
    : system.unlock id results checks = system := by
  rw [WlanSystem.unlock, WlanSystem.taskAt_none other]

/-- Only a task that has unlocked deletes one. -/
theorem delete_other {system : WlanSystem} {id : Nat}
    (other : ∀ task ∈ system.tasks, task.stage = .unlocked → task.id ≠ id)
    : system.delete id = system := by
  rw [WlanSystem.delete, WlanSystem.taskAt_none other]

/-- The task that was created. -/
theorem mem_wlanStarted {stage : Option TaskStage} {status : WlanStatus} {task : WlanTask}
    : task ∈ (wlanStarted config stage status).tasks
      ↔ ∃ reached, stage = some reached ∧ task = ⟨1, .start config, reached⟩ := by
  cases stage with
  | none => simp [wlanStarted]
  | some reached => simp [wlanStarted]

/-- The start task leaves a status and unlocks. -/
theorem unlock_started (id : Nat)
    : (wlanStarted config (some .atWork) .wlanConnecting).unlock id results checks
      = if id = 1 then
          wlanStarted config (some .unlocked) (startedStatus config results checks)
        else wlanStarted config (some .atWork) .wlanConnecting := by
  split
  · rename_i named
    subst named
    rfl
  · rename_i other
    refine unlock_other results checks fun task present _ => ?_
    obtain ⟨reached, -, rfl⟩ := (mem_wlanStarted config).mp present
    exact Ne.symm other

/-- When the start task is over, nobody unlocks. -/
theorem unlock_over {task : Option TaskStage} (past : task ≠ some .atWork) (status : WlanStatus)
    (id : Nat)
    : (wlanStarted config task status).unlock id results checks
      = wlanStarted config task status := by
  refine unlock_other results checks fun other present atWork => ?_
  obtain ⟨reached, same, rfl⟩ := (mem_wlanStarted config).mp present
  have here : reached = .atWork := atWork
  rw [here] at same
  exact absurd same past

/-- When it is over, it may delete itself. -/
theorem delete_over {task : Option TaskStage} (past : task ≠ some .atWork) (status : WlanStatus)
    (id : Nat)
    : ∃ rest,
        rest ≠ some .atWork
        ∧ (wlanStarted config task status).delete id = wlanStarted config rest status := by
  by_cases own : task = some .unlocked ∧ id = 1
  · obtain ⟨unlocked, named⟩ := own
    subst unlocked
    subst named
    exact ⟨none, by decide, rfl⟩
  · refine ⟨task, past, delete_other fun other present unlocked named => own ?_⟩
    obtain ⟨reached, same, rfl⟩ := (mem_wlanStarted config).mp present
    have here : reached = .unlocked := unlocked
    rw [here] at same
    exact ⟨same, named.symm⟩

end Started

-----------------------------------------------------------------------------------------
-- Progress
-----------------------------------------------------------------------------------------

/-- The services that are started when the task comes to a stage on a connection. -/
def InitStage.started : InitStage → List Service
  | .udpResolverStart => [.bridge]
  | .packetHandlerStart => [.bridge, .udpResolver]
  | .taskDelete | .deleted => [.bridge, .udpResolver, .packetHandler]
  | _ => []

/-- How far the initialization task and the WLAN are with each other: the stage of the task, the
memory of its configuration, the WLAN and the services. `Connects` is what is known of a
configuration that the WLAN was connected with.
-/
inductive InitProgress (Connects : WlanConfig → Prop) (stage : InitStage) (memory : Cells UInt8)
    (wlan : WlanSystem) (services : List Service)
    : Prop
  /-- `wlan_start` has not been called. -/
  | before
      (place
        : stage ∈ [.sysResetMcu, .wlanInit, .wiredConfStart, .wlanLoadConfig, .wlanLock, .deleted,
            .undefined])
      (idle : wlan = wlanInit)
      (none : services = [])
  /-- `wlan_start` holds the lock. -/
  | calling (config : WlanConfig)
      (holds : WlanConfig.ofMemory memory = some config)
      (place : stage = .wlanCreate)
      (locked : wlan = wlanInit.lock (.start config))
      (none : services = [])
  /-- It could not create its task. -/
  | failed (config : WlanConfig)
      (place : stage ∈ [.wlanStatus, .deleted])
      (alone : wlan = wlanNotCreated config)
      (none : services = [])
  | working (config : WlanConfig)
      (holds : WlanConfig.ofMemory memory = some config)
      (place : stage = .wlanStatus)
      (atWork : wlan = wlanStarted config (some .atWork) .wlanConnecting)
      (none : services = [])
  | ready (config : WlanConfig) (task : Option TaskStage)
      (place : stage ∈ [.wlanStatus, .taskDelete, .deleted])
      (past : task ≠ some .atWork)
      (settled : wlan = wlanStarted config task .wlanReady)
      (none : services = [])
  | connected (config : WlanConfig) (task : Option TaskStage)
      (holds : WlanConfig.ofMemory memory = some config)
      (place
        : stage ∈ [.wlanStatus, .bridgeStart, .udpResolverStart, .packetHandlerStart, .taskDelete,
            .deleted])
      (past : task ≠ some .atWork)
      (settled : wlan = wlanStarted config task .wlanConnected)
      (order : services = stage.started)
      (seen : Connects config)

/-- How far a device is. -/
def Boot.Progress (Connects : WlanConfig → Prop) (boot : Boot) : Prop :=
  InitProgress Connects boot.stage boot.config boot.wlan boot.services

theorem powerOn_progress (Connects : WlanConfig → Prop) (file : ConfigFile) (wired : Wired)
    : (Boot.powerOn file wired).Progress Connects :=
  .before (by simp [Boot.powerOn]) rfl rfl

/-- A start task of a configuration is at work and goes on to its unlock, with what its calls return
and its checks show, and leaves the WLAN connected.
-/
def WlanSystem.ConnectsBy (wlan : WlanSystem) (config : WlanConfig) (id : Nat)
    (results : Nat → Int) (checks : Nat → LinkCheck) : Prop :=
  wlan.taskAt id .atWork = some ⟨id, .start config, .atWork⟩
  ∧ startedStatus config results checks = .wlanConnected

section Progress

variable {Connects : WlanConfig → Prop} {stage : InitStage} {memory : Cells UInt8}
  {wlan : WlanSystem} {services : List Service}

/-- What is known of a connection may change while it is there. -/
theorem InitProgress.imp {Other : WlanConfig → Prop}
    (progress : InitProgress Connects stage memory wlan services)
    (known : wlan.wlStatus = .wlanConnected → ∀ config, Connects config → Other config)
    : InitProgress Other stage memory wlan services := by
  cases progress with
  | before place idle none => exact .before place idle none
  | calling config holds place locked none => exact .calling config holds place locked none
  | failed config place alone none => exact .failed config place alone none
  | working config holds place atWork none => exact .working config holds place atWork none
  | ready config task place past settled none => exact .ready config task place past settled none
  | connected config task holds place past settled order seen =>
      refine .connected config task holds place past settled order (known ?_ config seen)
      rw [settled]
      rfl

/-- A start task at work goes on with the WLAN that it finds. -/
theorem InitProgress.unlock (progress : InitProgress Connects stage memory wlan services)
    {id : Nat} {results : Nat → Int} {checks : Nat → LinkCheck}
    (known : ∀ config, wlan.ConnectsBy config id results checks → Connects config)
    : InitProgress Connects stage memory (wlan.unlock id results checks) services := by
  cases progress with
  | before place idle none =>
      subst idle
      exact .before place rfl none
  | calling config holds place locked none =>
      subst locked
      exact .calling config holds place rfl none
  | failed config place alone none =>
      subst alone
      exact .failed config place rfl none
  | working config holds place atWork none =>
      subst atWork
      rw [unlock_started]
      split
      · rename_i named
        subst named
        cases status : startedStatus config results checks with
        | wlanConnecting => exact absurd status (startedStatus_settled config results checks)
        | wlanReady =>
            refine .ready config (some .unlocked) ?_ (by decide) rfl none
            simp [place]
        | wlanConnected =>
            refine .connected config (some .unlocked) holds ?_ (by decide) rfl ?_
              (known config ⟨rfl, status⟩)
            · simp [place]
            · rw [none, place]
              rfl
      · exact .working config holds place rfl none
  | ready config task place past settled none =>
      subst settled
      rw [unlock_over config results checks past]
      exact .ready config task place past rfl none
  | connected config task holds place past settled order seen =>
      subst settled
      rw [unlock_over config results checks past]
      exact .connected config task holds place past rfl order seen

/-- A task behind its unlock deletes itself. -/
theorem InitProgress.delete (progress : InitProgress Connects stage memory wlan services)
    (id : Nat) : InitProgress Connects stage memory (wlan.delete id) services := by
  cases progress with
  | before place idle none =>
      subst idle
      exact .before place rfl none
  | calling config holds place locked none =>
      subst locked
      exact .calling config holds place rfl none
  | failed config place alone none =>
      subst alone
      exact .failed config place rfl none
  | working config holds place atWork none =>
      subst atWork
      refine .working config holds place ?_ none
      refine delete_other fun task present unlocked => ?_
      obtain ⟨reached, same, rfl⟩ := (mem_wlanStarted config).mp present
      cases same
      cases unlocked
  | ready config task place past settled none =>
      subst settled
      obtain ⟨rest, idle, after⟩ := delete_over config past .wlanReady id
      exact .ready config rest place idle after none
  | connected config task holds place past settled order seen =>
      subst settled
      obtain ⟨rest, idle, after⟩ := delete_over config past .wlanConnected id
      exact .connected config rest holds place idle after order seen

/-- The initialization task goes on by one call. -/
theorem Boot.Progress.vInitializationTask {boot : Boot} (progress : boot.Progress Connects)
    (result : Int) (fs : FsReading) : (boot.vInitializationTask result fs).Progress Connects := by
  obtain ⟨file, stage, config, wlan, wired, updaters, resetLine, services⟩ := boot
  cases progress with
  | before place idle none =>
      dsimp only at place idle none
      subst idle none
      simp only [List.mem_cons, List.not_mem_nil, or_false] at place
      rcases place with rfl | rfl | rfl | rfl | rfl | rfl | rfl
      · exact .before (by simp [Boot.vInitializationTask]) rfl rfl
      · refine .before ?_ rfl rfl
        simp only [Boot.vInitializationTask]
        split <;> simp
      · exact .before (by simp [Boot.vInitializationTask]) rfl rfl
      · exact .before (by simp [Boot.vInitializationTask]) rfl rfl
      · cases holds : WlanConfig.ofMemory config with
        | none =>
            simp only [Boot.vInitializationTask, holds]
            exact .before (by simp) rfl rfl
        | some given =>
            simp only [Boot.vInitializationTask, holds]
            exact .calling given holds rfl rfl rfl
      · exact .before (by simp [Boot.vInitializationTask]) rfl rfl
      · exact .before (by simp [Boot.vInitializationTask]) rfl rfl
  | calling given holds place locked none =>
      dsimp only at holds place locked none
      subst place locked none
      have negative : assertCreated result < 0 → result < 0 := by
        intro failed
        by_contra created
        rw [assertCreated, if_neg created] at failed
        exact absurd failed (by decide)
      by_cases created : result < 0
      · refine .failed given ?_ ?_ rfl
        · simp only [Boot.vInitializationTask]
          split <;> simp
        · exact (lock_create given result).trans (if_pos created)
      · refine .working given holds ?_ ?_ rfl
        · exact if_neg (mt negative created)
        · exact (lock_create given result).trans (if_neg created)
  | failed given place alone none =>
      dsimp only at place alone none
      subst alone none
      rcases List.mem_pair.mp place with rfl | rfl
      · refine .failed given ?_ rfl rfl
        simp [Boot.vInitializationTask, wlanNotCreated, WlanSystem.lock]
      · exact .failed given (by simp [Boot.vInitializationTask]) rfl rfl
  | working given holds place atWork none =>
      dsimp only at holds place atWork none
      subst place atWork none
      exact .working given holds rfl rfl rfl
  | ready given task place past settled none =>
      dsimp only at place settled none
      subst settled none
      simp only [List.mem_cons, List.not_mem_nil, or_false] at place
      rcases place with rfl | rfl | rfl
      · exact .ready given task (by simp [Boot.vInitializationTask, wlanStarted]) past rfl rfl
      · exact .ready given task (by simp [Boot.vInitializationTask]) past rfl rfl
      · exact .ready given task (by simp [Boot.vInitializationTask]) past rfl rfl
  | connected given task holds place past settled order seen =>
      dsimp only at holds place settled order
      subst settled order
      simp only [List.mem_cons, List.not_mem_nil, or_false] at place
      rcases place with rfl | rfl | rfl | rfl | rfl | rfl
      · refine .connected given task holds ?_ past rfl rfl seen
        simp [Boot.vInitializationTask, wlanStarted]
      · exact .connected given task holds (by simp [Boot.vInitializationTask]) past rfl rfl seen
      · have started : ¬ udpResolverStatus result < 0 :=
          Int.not_lt.mpr (Int.emod_nonneg result (by decide))
        refine .connected given task holds ?_ past rfl ?_ seen
        · simp [Boot.vInitializationTask, started]
        · simp [Boot.vInitializationTask, started, InitStage.started]
      · exact .connected given task holds (by simp [Boot.vInitializationTask]) past rfl rfl seen
      · exact .connected given task holds (by simp [Boot.vInitializationTask]) past rfl rfl seen
      · exact .connected given task holds (by simp [Boot.vInitializationTask]) past rfl rfl seen

/-- So does everything else. Behind a restart the task begins again. -/
theorem Boot.Progress.turn {boot : Boot} {turn : BootTurn} (progress : boot.Progress Connects)
    (known
      : ∀ id results checks,
          turn = .wlanUnlock id results checks →
          ∀ config, boot.wlan.ConnectsBy config id results checks → Connects config)
    : (boot.turn turn).Progress Connects := by
  cases turn with
  | initTask result fs => exact progress.vInitializationTask result fs
  | wlanUnlock id results checks =>
      exact InitProgress.unlock progress (known id results checks rfl)
  | wlanDelete id => exact InitProgress.delete progress id
  | receive byte => exact progress
  | update id fs next =>
      rw [Boot.turn, Boot.update]
      split
      · dsimp only
        split
        · exact powerOn_progress Connects _ next
        · exact progress
      · exact progress
  | reset next => exact powerOn_progress Connects boot.file next

end Progress

/-- In a run the turn behind `before` was that of a start task of a configuration, which left the
WLAN connected, and the WLAN has been connected since.
-/
structure ConnectedSince (start : Boot) (turns : List BootTurn) (config : WlanConfig)
    (before : List BootTurn) (id : Nat) (results : Nat → Int) (checks : Nat → LinkCheck)
    (after : List BootTurn) : Prop where
  split : turns = before ++ [.wlanUnlock id results checks] ++ after
  connects : (afterTurns Boot.turn before start).wlan.ConnectsBy config id results checks
  since
    : ∀ later ∈ instants Boot.turn after
            (afterTurns Boot.turn (before ++ [.wlanUnlock id results checks]) start),
        later.wlan.wlStatus = .wlanConnected

/-- The end of a run is one of progress, by induction on the turns from the last one. -/
theorem boot_progress (file : ConfigFile) (wired : Wired) (turns : List BootTurn)
    : (afterTurns Boot.turn turns (.powerOn file wired)).Progress fun config =>
        ∃ before id results checks after,
          ConnectedSince (.powerOn file wired) turns config before id results checks after := by
  induction turns using List.reverseRecOn with
  | nil => exact powerOn_progress _ file wired
  | append_singleton turns turn ih =>
      let start := Boot.powerOn file wired
      let boot := afterTurns Boot.turn turns start
      let Now := fun config =>
        ∃ id results checks,
          turn = .wlanUnlock id results checks ∧ boot.wlan.ConnectsBy config id results checks
      let Before := fun config =>
        ∃ before id results checks after,
          ConnectedSince start turns config before id results checks after
      have progress : boot.Progress fun config => Before config ∨ Now config :=
        InitProgress.imp ih fun _ config known => Or.inl known
      have next : (boot.turn turn).Progress fun config => Before config ∨ Now config :=
        progress.turn fun id results checks same config connects =>
          Or.inr ⟨id, results, checks, same, connects⟩
      have last : afterTurns Boot.turn (turns ++ [turn]) start = boot.turn turn :=
        afterTurns_append turns [turn] start
      change (afterTurns Boot.turn (turns ++ [turn]) start).Progress _
      rw [last]
      refine InitProgress.imp next fun connected config known => ?_
      rcases known with ⟨before, id, results, checks, after, split, connects, since⟩
        | ⟨id, results, checks, same, connects⟩
      · refine ⟨before, id, results, checks, after ++ [turn], ?_, connects, ?_⟩
        · rw [split, List.append_assoc]
        · rw [instants_concat]
          refine List.forall_mem_append.mpr ⟨since, List.forall_mem_singleton.mpr ?_⟩
          rw [← afterTurns_append, ← List.append_assoc, ← split, last]
          exact connected
      · refine ⟨turns, id, results, checks, [], ?_, connects, List.forall_mem_singleton.mpr ?_⟩
        · rw [same, List.append_nil]
        · rw [← same, last]
          exact connected

-----------------------------------------------------------------------------------------
-- Order
-----------------------------------------------------------------------------------------

/-- The configuration of a task at work is the local variable of the initialization task, which is
in its loop then and has not changed it.
-/
def Boot.ConfigAlive (boot : Boot) : Prop :=
  ∀ task ∈ boot.wlan.tasks, task.stage = .atWork →
    boot.stage = .wlanStatus
    ∧ ∃ config, task.call = .start config ∧ WlanConfig.ofMemory boot.config = some config

/-- The tasks of a device get on with each other. -/
structure Boot.Orderly (boot : Boot) : Prop where
  /-- At most one task brings the WLAN up, and it holds the lock. -/
  exclusive : boot.wlan.Exclusive false
  alive : boot.ConfigAlive
  services : boot.services <+: [.bridge, .udpResolver, .packetHandler]
  connected : boot.services ≠ [] → boot.wlan.wlStatus = .wlanConnected
  /-- On a connection the initialization task ends with all services started. -/
  complete
    : boot.stage = .deleted → boot.wlan.wlStatus = .wlanConnected →
        boot.services = [.bridge, .udpResolver, .packetHandler]

section Order

variable {Connects : WlanConfig → Prop} {boot : Boot}

theorem wlanStarted_exclusive (config : WlanConfig) (task : Option TaskStage)
    (status : WlanStatus) : (wlanStarted config task status).Exclusive false := by
  cases task with
  | none => exact ⟨Nat.zero_le 1, fun some => absurd some (Nat.lt_irrefl 0)⟩
  | some reached =>
      refine ⟨List.countP_le_length, fun some => ?_⟩
      obtain ⟨task, present, counted⟩ := List.countP_pos_iff.mp some
      obtain ⟨here, same, rfl⟩ := (mem_wlanStarted config).mp present
      have atWork : here = .atWork := by simpa [WlanTask.counts] using counted
      rw [atWork] at same
      exact decide_eq_true same

/-- Behind the loop the services are those of the stage. -/
theorem InitStage.started_prefix (stage : InitStage)
    : stage.started <+: [.bridge, .udpResolver, .packetHandler] := by
  cases stage <;> simp [started]

/-- Before a connection no service is started. -/
theorem Boot.orderly_of_unserved (none : boot.services = [])
    (unconnected : boot.wlan.wlStatus ≠ .wlanConnected) (exclusive : boot.wlan.Exclusive false)
    (alive : boot.ConfigAlive) : boot.Orderly where
  exclusive := exclusive
  alive := alive
  services := none ▸ List.nil_prefix
  connected some := absurd none some
  complete _ given := absurd given unconnected

/-- Without a task at work nothing points to the configuration. -/
theorem Boot.configAlive_of_over {config : WlanConfig} {task : Option TaskStage}
    {status : WlanStatus} (settled : boot.wlan = wlanStarted config task status)
    (past : task ≠ some .atWork) : boot.ConfigAlive := by
  intro other present atWork
  rw [settled] at present
  obtain ⟨reached, same, rfl⟩ := (mem_wlanStarted config).mp present
  have here : reached = .atWork := atWork
  rw [here] at same
  exact absurd same past

theorem Boot.Progress.orderly (progress : boot.Progress Connects) : boot.Orderly := by
  cases progress with
  | before place idle none =>
      refine Boot.orderly_of_unserved none ?_ ?_ ?_
      · simp [idle, wlanInit]
      · exact idle ▸ (wlanInit_guarded false).exclusive
      · simp [Boot.ConfigAlive, idle, wlanInit]
  | calling config holds place locked none =>
      refine Boot.orderly_of_unserved none ?_ ?_ ?_
      · simp [locked, WlanSystem.lock]
      · exact locked ▸ ((wlanInit_guarded false).lock rfl (.start config)).exclusive
      · simp [Boot.ConfigAlive, locked, wlanInit, WlanSystem.lock]
  | failed config place alone none =>
      refine Boot.orderly_of_unserved none ?_ ?_ ?_
      · simp [alone, wlanNotCreated, WlanSystem.lock]
      · exact alone ▸ ⟨Nat.zero_le 1, fun some => absurd some (Nat.lt_irrefl 0)⟩
      · simp [Boot.ConfigAlive, alone, wlanNotCreated, wlanInit, WlanSystem.lock]
  | working config holds place atWork none =>
      refine Boot.orderly_of_unserved none ?_ ?_ fun task present _ => ⟨place, config, ?_, holds⟩
      · simp [atWork, wlanStarted]
      · exact atWork ▸ wlanStarted_exclusive config _ _
      · rw [atWork] at present
        obtain ⟨reached, -, rfl⟩ := (mem_wlanStarted config).mp present
        rfl
  | ready config task place past settled none =>
      refine Boot.orderly_of_unserved none ?_ ?_ (Boot.configAlive_of_over settled past)
      · simp [settled, wlanStarted]
      · exact settled ▸ wlanStarted_exclusive config _ _
  | connected config task holds place past settled order seen =>
      refine ⟨?_, Boot.configAlive_of_over settled past, ?_, fun _ => ?_, fun deleted _ => ?_⟩
      · exact settled ▸ wlanStarted_exclusive config _ _
      · exact order ▸ boot.stage.started_prefix
      · rw [settled]
        rfl
      · rw [order, deleted]
        rfl

end Order

/-- From a reset on, in whatever order the turns come, the tasks of the device get on with each
other.
-/
theorem boot_orderly (file : ConfigFile) (wired : Wired) (turns : List BootTurn)
    : ∀ boot ∈ instants Boot.turn turns (.powerOn file wired), boot.Orderly := by
  intro boot present
  obtain ⟨past, -, rfl⟩ := exists_prefix_of_mem_instants present
  exact (boot_progress file wired past).orderly

/-- The turns of the initialization task up to its start task, on a working file system. -/
def startTurns (file : ConfigFile) : List BootTurn :=
  List.replicate 6 (.initTask 0 (.working file))

/-- A first start, on a network that takes the device. -/
def servedTurns : List BootTurn :=
  startTurns none
    ++ [.wlanUnlock 1 (fun _ => 0) fun _ => ⟨true, true⟩, .wlanDelete 1]
    ++ List.replicate 5 (.initTask 0 (.working none))

/-- The device behind it. -/
def servedBoot : Boot := afterTurns Boot.turn servedTurns (.powerOn none blankWired)

theorem boot_orderly_served : servedBoot.Orderly :=
  boot_orderly none blankWired servedTurns servedBoot (afterTurns_mem_instants _ _)

example : servedBoot.stage = .deleted ∧ servedBoot.wlan.wlStatus = .wlanConnected := by
  decide +kernel

/-- Where services are started, the turn of a start task of the loaded configuration came before:
the task was at work and left the WLAN connected, and the WLAN has been connected since. In station
mode the network that it was to join was up then: SimpleLink took its calls, and a check saw the
link.
-/
theorem boot_services_network (file : ConfigFile) (wired : Wired) (turns : List BootTurn)
    : ∀ boot ∈ instants Boot.turn turns (.powerOn file wired),
        boot.services ≠ [] →
        ∃ past config before id results checks after,
          past <+: turns
          ∧ boot = afterTurns Boot.turn past (.powerOn file wired)
          ∧ WlanConfig.ofMemory boot.config = some config
          ∧ ConnectedSince (.powerOn file wired) past config before id results checks after
          ∧ (config.mode = .wlanConfigSta →
              WlanUp config
                (final (wlanStartTask config
                  (.initial results checks .wlanConnecting .zeroed)))) := by
  intro boot instant some
  obtain ⟨past, part, rfl⟩ := exists_prefix_of_mem_instants instant
  cases boot_progress file wired past with
  | before place idle none => exact absurd none some
  | calling config holds place locked none => exact absurd none some
  | failed config place alone none => exact absurd none some
  | working config holds place atWork none => exact absurd none some
  | ready config task place past settled none => exact absurd none some
  | connected config task holds place left settled order seen =>
      obtain ⟨before, id, results, checks, after, since⟩ := seen
      exact ⟨past, config, before, id, results, checks, after, part, rfl, holds, since,
        fun mode => startedStatus_network config results checks mode since.connects.2⟩

theorem boot_services_network_served
    : ∃ past config before id results checks after,
        past <+: servedTurns
        ∧ servedBoot = afterTurns Boot.turn past (.powerOn none blankWired)
        ∧ WlanConfig.ofMemory servedBoot.config = some config
        ∧ ConnectedSince (.powerOn none blankWired) past config before id results checks after
        ∧ (config.mode = .wlanConfigSta →
            WlanUp config
              (final (wlanStartTask config
                (.initial results checks .wlanConnecting .zeroed)))) :=
  boot_services_network none blankWired servedTurns servedBoot (afterTurns_mem_instants _ _)
    (by decide +kernel)

end BigBlackHardware
