import BigBlackHardware.Wlan.Status

/-! The SimpleLink calls that `wlan_start_task` makes: however they end, they follow the script of
the configuration up to some place.
-/

namespace BigBlackHardware

open Library

/-- The calls of `configure_ap` or `configure_sta` when none fails but the link does not come up. -/
def WlanConfig.script (config : WlanConfig) : List SlCall :=
  match config.mode with
  | .wlanConfigAp => apSettings config ++ [.start]
  | .wlanConfigSta =>
      [.wlanSetMode roleSta, .stop, .start, staConnect config, .wlanDisconnect, .stop]

/-- The calls that were made. -/
def Wlan.made (wlan : Wlan) : List SlCall := wlan.calls.map Prod.fst

theorem Wlan.calledAll_made (wlan : Wlan) (calls : List SlCall)
    : (wlan.calledAll calls).made = wlan.made ++ calls := by
  induction calls generalizing wlan with
  | nil => exact (List.append_nil _).symm
  | cons call calls ih =>
      have first : (wlan.called call).made = wlan.made ++ [call] := List.map_append
      rw [Wlan.calledAll, List.foldl_cons]
      refine (ih (wlan.called call)).trans ?_
      rw [first, List.append_assoc]
      rfl

section Script

variable (config : WlanConfig) (wlan : Wlan)

/-- An access point is configured along the script. -/
theorem configureAp_script (mode : config.mode = .wlanConfigAp)
    : ∃ configured after,
        configureAp config wlan = .ok configured after
        ∧ ∃ calls, calls <+: config.script ∧ after.made = wlan.made ++ calls := by
  rw [WlanConfig.script, mode]
  rcases assertedCalls_cases (· != 0) (do return (← slCall .start) == roleAp) (apSettings config)
      wlan
    with ⟨k, -, -, run⟩ | ⟨-, run⟩
  · refine ⟨_, _, run, (apSettings config).take (k + 1), ?_, wlan.calledAll_made _⟩
    exact (List.take_prefix _ _).trans (List.prefix_append _ _)
  · refine ⟨_, _, run.trans rfl, apSettings config ++ [.start], List.prefix_rfl, ?_⟩
    have all := wlan.calledAll_made (apSettings config ++ [.start])
    rwa [Wlan.calledAll, List.foldl_append] at all

/-- So is a station. -/
theorem configureSta_script (mode : config.mode = .wlanConfigSta)
    : ∃ status after,
        configureSta config wlan = .ok status after
        ∧ ∃ calls, calls <+: config.script ∧ after.made = wlan.made ++ calls := by
  rw [WlanConfig.script, mode]
  have whole (count : Nat)
      : [SlCall.wlanSetMode roleSta, .stop, .start, staConnect config].take count
        <+: [.wlanSetMode roleSta, .stop, .start, staConnect config, .wlanDisconnect, .stop] :=
    (List.take_prefix _ _).trans ⟨[.wlanDisconnect, .stop], rfl⟩
  rcases configureSta_cases config wlan
    with ⟨-, run⟩ | ⟨-, -, run⟩ | ⟨-, -, -, run⟩ | ⟨-, -, -, ⟨-, run⟩ | ⟨-, run⟩⟩
  · exact ⟨_, _, run, _, whole 1, wlan.calledAll_made _⟩
  · exact ⟨_, _, run, _, whole 2, wlan.calledAll_made _⟩
  · exact ⟨_, _, run, _, whole 4, wlan.calledAll_made _⟩
  · exact ⟨_, _, run, _, whole 4, wlan.calledAll_made _⟩
  · exact ⟨_, _, run, _, List.prefix_rfl, wlan.calledAll_made _⟩

theorem configureWlan_script
    : ∃ status after,
        configureWlan config wlan = .ok status after
        ∧ ∃ calls, calls <+: config.script ∧ after.made = wlan.made ++ calls := by
  cases mode : config.mode with
  | wlanConfigAp =>
      obtain ⟨configured, after, run, script⟩ := configureAp_script config wlan mode
      refine ⟨if configured then 1 else 0, after, ?_, script⟩
      rw [configureWlan, mode]
      exact bind_ok run
  | wlanConfigSta =>
      obtain ⟨status, after, run, script⟩ := configureSta_script config wlan mode
      refine ⟨status, after, ?_, script⟩
      rw [configureWlan, mode]
      exact run

/-- A start task restarts SimpleLink and then follows the script. -/
theorem wlanStartTask_script
    : ∃ calls,
        calls <+: config.script
        ∧ (final (wlanStartTask config wlan)).made = wlan.made ++ [.stop, .start] ++ calls := by
  have begun : (wlan.restarted config).made = wlan.made ++ [.stop, .start] :=
    Wlan.calledAll_made (wlan.copied config) _
  by_cases started : 0 ≤ wlan.restartResult
  · obtain ⟨status, after, run, calls, along, made⟩ :=
      configureWlan_script config (wlan.restarted config)
    rw [wlanStartTask_configured config wlan started run]
    refine ⟨calls, along, ?_⟩
    rw [← begun]
    exact made
  · rw [wlanStartTask_notStarted config wlan (Int.not_le.mp started)]
    refine ⟨[], List.nil_prefix, ?_⟩
    rw [← begun, List.append_nil]
    rfl

end Script

end BigBlackHardware
