import BigBlackHardware.Boot.Services

/-! The configuration that a device brings the WLAN up with is the one that stands in its file, over
any number of updates and resets.
-/

namespace BigBlackHardware

open Library

/-- The configuration that a device has with a file, whose strings fit: the default one if there is
none.
-/
inductive ConfigFile.Gives : ConfigFile → WlanConfig → Prop
  | missing : Gives none defaultConfig
  | saved {config : WlanConfig} (fits : config.Fits) : Gives (some config.image) config

/-- A configuration is told by its bytes. -/
theorem image_injective {first second : WlanConfig} (firstTidy : first.Tidy)
    (secondTidy : second.Tidy) (same : first.image = second.image) : first = second := by
  have left := ofMemory_image firstTidy (load_image (fun _ => 0) first)
  have right := ofMemory_image secondTidy (load_image (fun _ => 0) second)
  rw [same, right] at left
  exact (Option.some.inj left).symm

/-- A file gives one configuration. -/
theorem ConfigFile.Gives.unique {file : ConfigFile} {first second : WlanConfig}
    (left : file.Gives first) (right : file.Gives second) : first = second := by
  cases left with
  | missing =>
      cases right
      rfl
  | saved fits =>
      generalize same : some first.image = held at right
      cases right with
      | missing => cases same
      | saved others =>
          exact image_injective fits.toTidy others.toTidy (Option.some.inj same)

/-- The initialization task loads the configuration that the file gives. -/
theorem load_gives {file : ConfigFile} {config : WlanConfig} (gives : file.Gives config)
    {fs : FsReading} (reads : fs.Reads file)
    : WlanConfig.ofMemory
        (if (wlanLoadConfig fs fun _ => 0).1 ≠ success then
          getDefaultConfig (wlanLoadConfig fs fun _ => 0).2
        else (wlanLoadConfig fs fun _ => 0).2)
      = some config := by
  cases gives with
  | missing =>
      obtain ⟨status, negative, failed⟩ := wlanLoadConfig_missing reads fun _ => 0
      have other : status ≠ success := by
        intro same
        rw [same] at negative
        exact absurd negative (by decide)
      rw [failed, if_pos other]
      exact getDefaultConfig_zeroed
  | saved fits =>
      rw [wlanLoadConfig_image reads, if_neg (not_not_intro rfl)]
      exact ofMemory_image fits.toTidy (load_image _ config)

-----------------------------------------------------------------------------------------
-- Calls
-----------------------------------------------------------------------------------------

/-- The calls of `wlan_start` and `wlan_stop` that are under way. -/
def WlanSystem.calls (system : WlanSystem) : List WlanCall :=
  system.callers ++ system.tasks.map WlanTask.call

section Calls

variable (system : WlanSystem)

theorem moved_calls (tasks : List WlanTask) (id : Nat) (stage : TaskStage)
    : (WlanSystem.moved tasks id stage).map WlanTask.call = tasks.map WlanTask.call := by
  rw [WlanSystem.moved, List.map_map]
  refine List.map_congr_left fun task _ => ?_
  dsimp only [Function.comp_apply]
  split <;> rfl

/-- A caller that goes on hands its call to a task. -/
theorem calls_create (caller : Nat) (result : Int)
    : ∀ call ∈ (system.create caller result).calls, call ∈ system.calls := by
  rw [WlanSystem.create]
  cases found : system.callers[caller]? with
  | none => exact fun call under => under
  | some given =>
      have known : given ∈ system.calls :=
        List.mem_append_left _ (List.mem_of_getElem? found)
      have fewer
          : ∀ call ∈ system.callers.eraseIdx caller ++ system.tasks.map WlanTask.call,
              call ∈ system.calls := by
        intro call under
        rcases List.mem_append.mp under with waiting | atWork
        · exact List.mem_append_left _ (List.mem_of_mem_eraseIdx waiting)
        · exact List.mem_append_right _ atWork
      dsimp only
      split
      · exact fewer
      · intro call under
        have split
            : call ∈ system.callers.eraseIdx caller ++ system.tasks.map WlanTask.call
              ∨ call = given := by
          cases given <;> simpa [WlanSystem.calls, WlanSystem.withTask, or_assoc] using under
        rcases split with other | rfl
        · exact fewer call other
        · exact known

theorem calls_unlock (id : Nat) (results : Nat → Int) (checks : Nat → LinkCheck)
    : (system.unlock id results checks).calls = system.calls := by
  rw [WlanSystem.unlock]
  split
  · rfl
  · rw [WlanSystem.calls, moved_calls]
    rfl

theorem calls_delete (id : Nat)
    : ∀ call ∈ (system.delete id).calls, call ∈ system.calls := by
  rw [WlanSystem.delete]
  split
  · exact fun call under => under
  · intro call under
    rw [WlanSystem.calls, moved_calls] at under
    rcases List.mem_append.mp under with waiting | left
    · exact List.mem_append_left _ waiting
    · obtain ⟨task, present, rfl⟩ := List.mem_map.mp left
      exact List.mem_append_right _ (List.mem_map_of_mem (List.mem_of_mem_filter present))

end Calls

-----------------------------------------------------------------------------------------
-- In force
-----------------------------------------------------------------------------------------

/-- A file system and a packet with which an updater task does what it should: the strings of the
packet fit, and the file system reports what it does so that the task understands it.
-/
structure Boot.Saves (boot : Boot) (fs : FsWriting) : Prop where
  fit : boot.wired.cfgPacket.StringsFit
  sound : fs.Sound boot.file
  understood : fs.Understood boot.wired.cfgPacket.networkConfig.image

/-- The file system reads the file as it should, and an updater task that finds a network
configuration can save it.
-/
def Boot.FilesKept (boot : Boot) : BootTurn → Prop
  | .initTask _ fs => boot.stage = .wlanLoadConfig → fs.Reads boot.file
  | .update id fs _ => id ∈ boot.updaters → boot.wired.cfgPacket.IsNetwork → boot.Saves fs
  | _ => True

/-- The file gives a configuration, and no other one is used. -/
structure Boot.InForce (boot : Boot) (config : WlanConfig) : Prop where
  file : boot.file.Gives config
  defined : boot.stage ≠ .undefined
  loaded : boot.stage = .wlanLock → WlanConfig.ofMemory boot.config = some config
  calls : ∀ call ∈ boot.wlan.calls, call = .start config

theorem powerOn_inForce {file : ConfigFile} {config : WlanConfig} (gives : file.Gives config)
    (wired : Wired) : (Boot.powerOn file wired).InForce config where
  file := gives
  defined := InitStage.noConfusion
  loaded := InitStage.noConfusion
  calls _ none := by cases none

/-- The initialization task leaves the file and the updater tasks, and the configurator but for the
call that starts it.
-/
theorem Boot.vInitializationTask_frame (boot : Boot) (result : Int) (fs : FsReading)
    : (boot.vInitializationTask result fs).file = boot.file
      ∧ (boot.vInitializationTask result fs).updaters = boot.updaters
      ∧ (boot.stage ≠ .wiredConfStart →
          (boot.vInitializationTask result fs).wired = boot.wired) := by
  rw [Boot.vInitializationTask]
  cases boot.stage with
  | wiredConfStart => exact ⟨rfl, rfl, fun other => absurd rfl other⟩
  | wlanLock =>
      dsimp only
      split <;> exact ⟨rfl, rfl, fun _ => rfl⟩
  | wlanStatus =>
      dsimp only
      split <;> exact ⟨rfl, rfl, fun _ => rfl⟩
  | _ => exact ⟨rfl, rfl, fun _ => rfl⟩

section InForce

variable {boot : Boot} {config : WlanConfig}

theorem Boot.InForce.vInitializationTask (force : boot.InForce config) (result : Int)
    {fs : FsReading} (reads : boot.stage = .wlanLoadConfig → fs.Reads boot.file)
    : (boot.vInitializationTask result fs).InForce config := by
  obtain ⟨gives, defined, loaded, calls⟩ := force
  rw [Boot.vInitializationTask]
  cases stage : boot.stage with
  | sysResetMcu => exact ⟨gives, InitStage.noConfusion, InitStage.noConfusion, calls⟩
  | wlanInit =>
      dsimp only
      split <;> exact ⟨gives, InitStage.noConfusion, InitStage.noConfusion, calls⟩
  | wiredConfStart => exact ⟨gives, InitStage.noConfusion, InitStage.noConfusion, calls⟩
  | wlanLoadConfig =>
      exact ⟨gives, InitStage.noConfusion, fun _ => load_gives gives (reads stage), calls⟩
  | wlanLock =>
      dsimp only
      rw [loaded stage]
      refine ⟨gives, InitStage.noConfusion, InitStage.noConfusion, fun call under => ?_⟩
      have split : call ∈ boot.wlan.calls ∨ call = .start config := by
        simpa [WlanSystem.calls, WlanSystem.lock, or_assoc, or_comm, or_left_comm] using under
      rcases split with other | same
      · exact calls call other
      · exact same
  | wlanCreate =>
      refine ⟨gives, ?_, ?_, fun call under => calls call (calls_create boot.wlan 0 result _ under)⟩
      · dsimp only
        split <;> exact InitStage.noConfusion
      · dsimp only
        split <;> exact InitStage.noConfusion
  | wlanStatus =>
      dsimp only
      split
      · exact ⟨gives, InitStage.noConfusion, InitStage.noConfusion, calls⟩
      · exact ⟨gives, defined, loaded, calls⟩
      · exact ⟨gives, InitStage.noConfusion, InitStage.noConfusion, calls⟩
  | bridgeStart => exact ⟨gives, InitStage.noConfusion, InitStage.noConfusion, calls⟩
  | udpResolverStart =>
      refine ⟨gives, ?_, ?_, calls⟩
      · dsimp only
        split <;> exact InitStage.noConfusion
      · dsimp only
        split <;> exact InitStage.noConfusion
  | packetHandlerStart => exact ⟨gives, InitStage.noConfusion, InitStage.noConfusion, calls⟩
  | taskDelete => exact ⟨gives, InitStage.noConfusion, InitStage.noConfusion, calls⟩
  | deleted => exact ⟨gives, defined, loaded, calls⟩
  | undefined => exact absurd stage defined

/-- An updater task changes the file only on its way to a reset. -/
theorem Boot.InForce.update (force : boot.InForce config) (id : Nat) {fs : FsWriting}
    (kept : id ∈ boot.updaters → boot.wired.cfgPacket.IsNetwork → boot.Saves fs) (next : Wired)
    : ∃ config, (boot.update id fs next).InForce config := by
  rw [Boot.update]
  split
  · rename_i waits
    dsimp only
    by_cases network : boot.wired.cfgPacket.IsNetwork
    · obtain ⟨fit, sound, understood⟩ := kept waits network
      rcases updaterTask_cases (decide (id = boot.wired.updaterRuns.length)) sound understood
        with ⟨-, -, saved⟩ | ⟨-, -, failed⟩ | refused
      · rw [saved]
        exact ⟨_, powerOn_inForce (.saved fit.fits) next⟩
      · rw [failed]
        exact ⟨config, powerOn_inForce force.file next⟩
      · rw [refused]
        exact ⟨config, force.file, force.defined, force.loaded, force.calls⟩
    · rw [updaterTask_other _ network]
      exact ⟨config, force.file, force.defined, force.loaded, force.calls⟩
  · exact ⟨config, force⟩

theorem Boot.InForce.turn {turn : BootTurn} (force : boot.InForce config)
    (kept : boot.FilesKept turn) : ∃ config, (boot.turn turn).InForce config := by
  cases turn with
  | initTask result fs => exact ⟨config, force.vInitializationTask result kept⟩
  | wlanUnlock id results checks =>
      refine ⟨config, force.file, force.defined, force.loaded, ?_⟩
      rw [Boot.turn, calls_unlock]
      exact force.calls
  | wlanDelete id =>
      refine ⟨config, force.file, force.defined, force.loaded, fun call under => ?_⟩
      exact force.calls call (calls_delete boot.wlan id call under)
  | receive byte => exact ⟨config, force.file, force.defined, force.loaded, force.calls⟩
  | update id fs next => exact force.update id kept next
  | reset next => exact ⟨config, powerOn_inForce force.file next⟩

/-- Every instant of a run has a configuration in force. -/
theorem Boot.InForce.instants (force : boot.InForce config) {turns : List BootTurn}
    (kept : Obeys Boot.turn Boot.FilesKept turns boot)
    : ∀ instant ∈ Library.instants Boot.turn turns boot, ∃ config, instant.InForce config := by
  refine kept.instants (P := fun boot => ∃ config, boot.InForce config)
    (fun boot turn before kept => ?_) ⟨config, force⟩
  obtain ⟨config, force⟩ := before
  exact force.turn kept

end InForce

/-- At every instant the file gives a configuration whose strings fit, and every `wlan_start` under
way has that one: over updates by packets whose strings fit, failed updates and resets, with the
default configuration as long as there is no file. No security type is out of range.
-/
theorem boot_inForce (file : ConfigFile) (config : WlanConfig) (wired : Wired)
    (turns : List BootTurn) (gives : file.Gives config)
    (kept : Obeys Boot.turn Boot.FilesKept turns (.powerOn file wired))
    : ∀ boot ∈ instants Boot.turn turns (.powerOn file wired),
        ∃ config, boot.InForce config :=
  (powerOn_inForce gives wired).instants kept

/-- A start that finds the file keeps it. Witness: each turn of the initialization task does. -/
theorem startTurns_kept {file : ConfigFile} {boot : Boot} (same : boot.file = file)
    : Obeys Boot.turn Boot.FilesKept (startTurns file) boot
      ∧ (afterTurns Boot.turn (startTurns file) boot).file = file := by
  have any (count : Nat)
      : Obeys Boot.turn Boot.FilesKept (List.replicate count (.initTask 0 (.working file))) boot
        ∧ (afterTurns Boot.turn (List.replicate count (.initTask 0 (.working file))) boot).file
          = file := by
    induction count generalizing boot with
    | zero => exact ⟨trivial, same⟩
    | succ count ih =>
        obtain ⟨left, -⟩ := boot.vInitializationTask_frame 0 (.working file)
        obtain ⟨rest, last⟩ := ih (left.trans same)
        exact ⟨⟨fun _ => same ▸ FsReading.working_reads file, rest⟩, last⟩
  exact any 6

/-- After any turns the device may start, be reset and start again. -/
theorem reset_kept {turns : List BootTurn} {boot : Boot} (next : Wired)
    (kept : Obeys Boot.turn Boot.FilesKept turns boot)
    : let file := (afterTurns Boot.turn turns boot).file
      Obeys Boot.turn Boot.FilesKept
        (turns ++ startTurns file ++ [.reset next] ++ startTurns file) boot := by
  intro file
  obtain ⟨started, same⟩ := @startTurns_kept _ (afterTurns Boot.turn turns boot) rfl
  refine obeys_append.mpr ⟨obeys_append.mpr ⟨obeys_append.mpr ⟨kept, started⟩, trivial, trivial⟩,
    (startTurns_kept ?_).1⟩
  rw [afterTurns_append, afterTurns_append]
  exact same

/-- A first start, and the bytes of a network configuration. -/
def configuredTurns : List BootTurn :=
  startTurns none ++ openNetwork.bytes.map .receive

/-- The updater task saves it, and the device starts again. -/
def updatedTurns : List BootTurn :=
  configuredTurns ++ [.update 1 .working blankWired]

def updatedBoot : Boot := afterTurns Boot.turn updatedTurns (.powerOn none blankWired)

/-- The device starts with it, is reset and starts with it again. -/
def resetTurns : List BootTurn :=
  updatedTurns ++ startTurns updatedBoot.file ++ [.reset blankWired]
    ++ startTurns updatedBoot.file

theorem resetTurns_kept
    : Obeys Boot.turn Boot.FilesKept resetTurns (.powerOn none blankWired) := by
  have saves : (afterTurns Boot.turn configuredTurns (.powerOn none blankWired)).Saves .working :=
    ⟨⟨by decide +kernel, by decide +kernel⟩, FsWriting.working_sound _,
      FsWriting.working_understood _⟩
  have received (boot : Boot)
      : Obeys Boot.turn Boot.FilesKept (openNetwork.bytes.map .receive) boot := by
    refine obeys_of_forall fun _ turn member => ?_
    obtain ⟨byte, -, rfl⟩ := List.mem_map.mp member
    trivial
  have updated : Obeys Boot.turn Boot.FilesKept updatedTurns (.powerOn none blankWired) :=
    obeys_append.mpr
      ⟨obeys_append.mpr ⟨(startTurns_kept rfl).1, received _⟩, fun _ _ => saves, trivial⟩
  exact reset_kept blankWired updated

/-- Over a first start, an update and a reset there is a configuration in force. -/
theorem boot_inForce_reset
    : Obeys Boot.turn Boot.FilesKept resetTurns (.powerOn none blankWired)
      ∧ ∀ boot ∈ instants Boot.turn resetTurns (.powerOn none blankWired),
          ∃ config, boot.InForce config :=
  ⟨resetTurns_kept,
    boot_inForce none defaultConfig blankWired resetTurns .missing resetTurns_kept⟩

example : updatedBoot.file ≠ none ∧ updatedBoot.stage = .sysResetMcu := by decide +kernel

end BigBlackHardware
