import BigBlackHardware.Wlan.StartTask

/-! The status that `wlan_start_task` leaves, compared with what it did. The errors of
`configure_ap` are lost in its `bool`.
-/

namespace BigBlackHardware

open Library

/-- The calls that set up a network. -/
def SlCall.isSetting : SlCall → Bool
  | .wlanSetMode _ => true
  | .wlanSet _ _ => true
  | _ => false

def SlCall.isConnect : SlCall → Bool
  | .wlanConnect _ _ => true
  | _ => false

/-- Calls of a kind were made, and none of them failed. -/
def Succeeded (kind : SlCall → Bool) (calls : List (SlCall × Int)) : Prop :=
  (∃ made ∈ calls, kind made.1 = true) ∧ ∀ made ∈ calls, kind made.1 = true → 0 ≤ made.2

/-- An access point is up: no setting failed, and the last `sl_Start` returned its role. -/
structure ApUp (calls : List (SlCall × Int)) : Prop where
  settings : ∀ made ∈ calls, made.1.isSetting = true → 0 ≤ made.2
  role
    : (calls.filter fun made => made.1 = SlCall.start).getLast? = some (SlCall.start, roleAp)

/-- A station is up: the calls of `configure_sta`, which come behind two others, succeeded, and the
link was seen up before the timeout.
-/
structure StaUp (calls : List (SlCall × Int)) (checks : Nat → LinkCheck) : Prop where
  setMode : Succeeded SlCall.isSetting (calls.drop 2)
  stop : Succeeded (fun call => call = SlCall.stop) (calls.drop 2)
  connect : Succeeded SlCall.isConnect (calls.drop 2)
  link : ∃ k < maxConnectingTime, (checks k).up

/-- The network that was asked for is up. -/
def WlanUp (config : WlanConfig) (wlan : Wlan) : Prop :=
  match config.mode with
  | .wlanConfigAp => ApUp wlan.calls
  | .wlanConfigSta => StaUp wlan.calls wlan.checks

/-- The status says whether the network that was asked for is up. -/
structure Truthful (config : WlanConfig) (wlan : Wlan) : Prop where
  up : WlanUp config wlan → wlan.wlStatus = .wlanConnected
  down : ¬ WlanUp config wlan → wlan.wlStatus = .wlanReady

/-- The results with which an access point comes up: those of the five settings and of the last
`sl_Start`.
-/
def ApResults (results : Nat → Int) : Prop :=
  (∀ n, 2 ≤ n → n < 7 → 0 ≤ results n) ∧ results 7 = roleAp

-----------------------------------------------------------------------------------------
-- Runs
-----------------------------------------------------------------------------------------

/-- The WLAN when the network is configured: the task has restarted SimpleLink. -/
def Wlan.restarted (wlan : Wlan) (config : WlanConfig) : Wlan :=
  (wlan.copied config).calledAll [.stop, .start]

/-- What the restart of SimpleLink returns. -/
def Wlan.restartResult (wlan : Wlan) : Int := wlan.results (wlan.calls.length + 1)

section Runs

variable (config : WlanConfig) (wlan : Wlan) {after : Wlan}

/-- The task behind the restart. -/
theorem wlanStartTask_eq
    : wlanStartTask config wlan
      = (if wlan.restartResult < 0 then setWlStatus .wlanReady
        else do
          let status ← configureWlan config
          if status < 0 then setWlStatus .wlanReady else setWlStatus .wlanConnected)
        (wlan.restarted config) := by
  have place : ((wlan.copied config).called .stop).nextResult = wlan.restartResult := by
    rw [Wlan.nextResult, Wlan.called, List.length_append]
    rfl
  have begun
      : (modify (fun wlan => wlan.copied config) : WlanM PUnit) wlan
        = .ok ⟨⟩ (wlan.copied config) := rfl
  rw [wlanStartTask, bind_ok begun, bind_ok (slCall_eq _ _), bind_ok (slCall_eq _ _), place]
  rfl

/-- Without SimpleLink nothing is configured. -/
theorem wlanStartTask_notStarted (negative : wlan.restartResult < 0)
    : final (wlanStartTask config wlan)
      = { wlan.restarted config with wlStatus := .wlanReady } := by
  rw [wlanStartTask_eq, if_pos negative]
  rfl

/-- With SimpleLink the status is the one that the configuration returns, or so the task takes it.
-/
theorem wlanStartTask_configured (started : 0 ≤ wlan.restartResult) {status : Int}
    (run : configureWlan config (wlan.restarted config) = .ok status after)
    : final (wlanStartTask config wlan)
      = { after with wlStatus := if status < 0 then .wlanReady else .wlanConnected } := by
  rw [wlanStartTask_eq, if_neg (Int.not_lt.mpr started), bind_ok run]
  split <;> rfl

/-- In AP mode the status becomes `WLAN_CONNECTED` whatever `configure_ap` returns. -/
theorem wlanStartTask_ap (mode : config.mode = .wlanConfigAp) (started : 0 ≤ wlan.restartResult)
    {configured : Bool} (run : configureAp config (wlan.restarted config) = .ok configured after)
    : final (wlanStartTask config wlan) = { after with wlStatus := .wlanConnected } := by
  have status : configureWlan config (wlan.restarted config)
      = .ok (if configured then 1 else 0) after := by
    rw [configureWlan, mode]
    exact bind_ok run
  rw [wlanStartTask_configured config wlan started status]
  cases configured <;> rfl

end Runs

-----------------------------------------------------------------------------------------
-- The status
-----------------------------------------------------------------------------------------

/-- The WLAN when its start task begins. -/
def Wlan.initial (results : Nat → Int) (checks : Nat → LinkCheck) (wlStatus : WlanStatus)
    (currentConfig : WlanConfig) : Wlan :=
  ⟨results, checks, [], wlStatus, currentConfig⟩

/-- The settings of an access point, in the order in which they are made. -/
def apSettings (config : WlanConfig) : List SlCall :=
  [.wlanSetMode roleAp, .wlanSet .ssid (config.ssid.load 0 config.ssidLen.toNat),
    .wlanSet .securityType [slSecTypes config.sec],
    .wlanSet .password (config.pwd.load 0 config.pwdLen.toNat), .wlanSet .channel [config.channel]]

theorem apSettings_isSetting (config : WlanConfig)
    : ∀ call ∈ apSettings config, call.isSetting = true := by
  simp [apSettings, SlCall.isSetting]

section Status

/-- The connection of `configure_sta`. -/
def staConnect (config : WlanConfig) : SlCall :=
  .wlanConnect (config.ssid.load 0 config.ssidLen.toNat)
    (if config.sec = .wlanConfigOpen then none
      else some ⟨slSecTypes config.sec, config.pwd.load 0 config.pwdLen.toNat⟩)

/-- How `configure_sta` can end: with the error of one of its three asserted calls, or with what the
loop sees of the link.
-/
theorem configureSta_cases (config : WlanConfig) (wlan : Wlan)
    : let n := wlan.calls.length
      let calls := [.wlanSetMode roleSta, .stop, .start, staConnect config]
      (wlan.results n < 0
        ∧ configureSta config wlan = .ok (wlan.results n) (wlan.calledAll (calls.take 1)))
      ∨ (0 ≤ wlan.results n ∧ wlan.results (n + 1) < 0
        ∧ configureSta config wlan = .ok (wlan.results (n + 1)) (wlan.calledAll (calls.take 2)))
      ∨ (0 ≤ wlan.results n ∧ 0 ≤ wlan.results (n + 1) ∧ wlan.results (n + 3) < 0
        ∧ configureSta config wlan = .ok (wlan.results (n + 3)) (wlan.calledAll calls))
      ∨ (0 ≤ wlan.results n ∧ 0 ≤ wlan.results (n + 1) ∧ 0 ≤ wlan.results (n + 3)
        ∧ ((∃ k < maxConnectingTime, (wlan.checks k).up)
            ∧ configureSta config wlan = .ok success (wlan.calledAll calls)
          ∨ (∀ k < maxConnectingTime, ¬ (wlan.checks k).up)
            ∧ configureSta config wlan
              = .ok failure (wlan.calledAll (calls ++ [.wlanDisconnect, .stop])))) := by
  intro n calls
  have second : (wlan.called (.wlanSetMode roleSta)).nextResult = wlan.results (n + 1) :=
    wlan.calledAll_nextResult [.wlanSetMode roleSta]
  have fourth
      : (wlan.calledAll [.wlanSetMode roleSta, .stop, .start]).nextResult = wlan.results (n + 3) :=
    wlan.calledAll_nextResult [.wlanSetMode roleSta, .stop, .start]
  rcases Int.lt_or_le wlan.nextResult 0 with noMode | set
  · exact Or.inl ⟨noMode, slCallAsserted_fails noMode⟩
  rcases Int.lt_or_le (wlan.results (n + 1)) 0 with running | stopped
  · refine Or.inr (Or.inl ⟨set, running, ?_⟩)
    rw [← second] at running ⊢
    rw [configureSta, slCallAsserted_passes set, slCallAsserted_fails running]
    rfl
  have begun
      : configureSta config wlan
        = slCallAsserted (staConnect config) id (connectLoop maxConnectingTime)
            (wlan.calledAll [.wlanSetMode roleSta, .stop, .start]) := by
    rw [← second] at stopped
    rw [configureSta, slCallAsserted_passes set, slCallAsserted_passes stopped,
      bind_ok (slCall_eq _ _)]
    rfl
  rcases Int.lt_or_le (wlan.results (n + 3)) 0 with refused | connects
  · refine Or.inr (Or.inr (Or.inl ⟨set, stopped, refused, ?_⟩))
    rw [← fourth] at refused ⊢
    rw [begun, slCallAsserted_fails refused]
    rfl
  · refine Or.inr (Or.inr (Or.inr ⟨set, stopped, connects, ?_⟩))
    rw [← fourth] at connects
    rw [begun, slCallAsserted_passes connects]
    have same : ((wlan.calledAll [.wlanSetMode roleSta, .stop, .start]).called
        (staConnect config)).checks = wlan.checks := rfl
    rcases connectLoop_cases ((wlan.calledAll [.wlanSetMode roleSta, .stop, .start]).called
        (staConnect config)) (Nat.le_refl maxConnectingTime)
      with ⟨⟨k, -, inTime, up⟩, run⟩ | ⟨unseen, run⟩
    · exact Or.inl ⟨⟨k, inTime, up⟩, run⟩
    · exact Or.inr ⟨fun k inTime => unseen k (by omega) inTime, run⟩

variable (config : WlanConfig) (results : Nat → Int) (checks : Nat → LinkCheck)
  (wlStatus : WlanStatus) (currentConfig : WlanConfig)

/-- Without SimpleLink there is no network, and the status says so. -/
theorem notStarted_truthful (negative : results 1 < 0)
    : Truthful config
        (final (wlanStartTask config (.initial results checks wlStatus currentConfig))) := by
  rw [wlanStartTask_notStarted config (.initial results checks wlStatus currentConfig) negative]
  refine ⟨fun up => absurd up ?_, fun _ => rfl⟩
  rw [WlanUp]
  cases config.mode with
  | wlanConfigAp =>
      intro up
      have role : (SlCall.start, results 1) = (SlCall.start, roleAp) := Option.some.inj up.role
      have same : results 1 = roleAp := (Prod.mk.inj role).2
      rw [same] at negative
      exact absurd negative (by decide)
  | wlanConfigSta =>
      intro up
      obtain ⟨made, member, -⟩ := up.setMode.1
      cases member

/-- With all settings made the access point is up exactly if the second start brought up that role.
-/
theorem ap_up_iff (mode : config.mode = .wlanConfigAp)
    (settings : ∀ n, 2 ≤ n → n < 7 → 0 ≤ results n)
    : WlanUp config { (((Wlan.initial results checks wlStatus currentConfig).restarted
          config).calledAll (apSettings config)).called .start with wlStatus := .wlanConnected }
      ↔ results 7 = roleAp := by
  rw [WlanUp, mode]
  constructor
  · intro up
    have role : (SlCall.start, results 7) = (SlCall.start, roleAp) := Option.some.inj up.role
    exact (Prod.mk.inj role).2
  · intro role
    refine ⟨?_, ?_⟩
    · intro made member setting
      have all : made ∈ [(SlCall.stop, results 0), (SlCall.start, results 1)]
          ++ (apSettings config).zipIdx.map (fun entry => (entry.1, results (2 + entry.2)))
          ++ [(SlCall.start, results 7)] := member
      rcases List.mem_append.mp all with front | last
      · rcases List.mem_append.mp front with restart | configured
        · rcases List.mem_pair.mp restart with rfl | rfl <;> cases setting
        · obtain ⟨entry, found, rfl⟩ := List.mem_map.mp configured
          have place : entry.2 < 5 := (List.mem_zipIdx' found).1
          exact settings (2 + entry.2) (by omega) (by omega)
      · rw [List.mem_singleton.mp last] at setting
        cases setting
    · exact congrArg (fun result => some (SlCall.start, result)) role

/-- In AP mode the status is right exactly if the access point comes up. -/
theorem ap_truthful_iff (mode : config.mode = .wlanConfigAp) (started : 0 ≤ results 1)
    : Truthful config
        (final (wlanStartTask config (.initial results checks wlStatus currentConfig)))
      ↔ ApResults results := by
  rcases assertedCalls_cases (· != 0) (do return (← slCall .start) == roleAp) (apSettings config)
      ((Wlan.initial results checks wlStatus currentConfig).restarted config)
    with ⟨k, inside, negative, run⟩ | ⟨all, run⟩
  · rw [wlanStartTask_ap config (.initial results checks wlStatus currentConfig) mode started run]
    constructor
    · intro truthful
      have down := truthful.down ?_
      · cases down
      · rw [WlanUp, mode]
        intro up
        have made := Wlan.calledAll_mem
          ((Wlan.initial results checks wlStatus currentConfig).restarted config)
          (List.getElem?_eq_getElem inside)
        have passed := up.settings _ made
          (apSettings_isSetting config _ (List.getElem_mem inside))
        exact absurd negative (Int.not_lt.mpr passed)
    · intro good
      have passed := good.1 (2 + k) (Nat.le_add_right 2 k) (Nat.add_lt_add_left inside 2)
      exact absurd negative (Int.not_lt.mpr passed)
  · have settings : ∀ n, 2 ≤ n → n < 7 → 0 ≤ results n := by
      intro n low high
      have passed := all (n - 2) (by simp only [apSettings, List.length_cons]; omega)
      rwa [show ((Wlan.initial results checks wlStatus currentConfig).restarted config).calls.length
        + (n - 2) = n from Nat.add_sub_of_le low]
        at passed
    rw [wlanStartTask_ap config (.initial results checks wlStatus currentConfig) mode started
      (run.trans rfl)]
    have up := ap_up_iff config results checks wlStatus currentConfig mode settings
    constructor
    · intro truthful
      by_contra wrong
      have down := truthful.down fun isUp => wrong ⟨settings, up.mp isUp⟩
      cases down
    · intro good
      exact ⟨fun _ => rfl, fun down => absurd (up.mpr good.2) down⟩

/-- A negative status and a network that is not up go together, and so do the opposites. -/
theorem sta_truthful_of {after : Wlan} {status : Int} (mode : config.mode = .wlanConfigSta)
    (started : 0 ≤ results 1)
    (run
      : configureSta config ((Wlan.initial results checks wlStatus currentConfig).restarted config)
        = .ok status after)
    (agrees : StaUp after.calls after.checks ↔ 0 ≤ status)
    : Truthful config
        (final (wlanStartTask config (.initial results checks wlStatus currentConfig))) := by
  have configured
      : configureWlan config
          ((Wlan.initial results checks wlStatus currentConfig).restarted config)
        = .ok status after := by
    rw [configureWlan, mode]
    exact run
  rw [wlanStartTask_configured config (.initial results checks wlStatus currentConfig) started
    configured]
  constructor
  · rw [WlanUp, mode]
    exact fun up => if_neg (Int.not_lt.mpr (agrees.mp up))
  · rw [WlanUp, mode]
    exact fun down => if_pos (Int.not_le.mp fun passed => down (agrees.mpr passed))

/-- In station mode the status is right, however the configuration ends. -/
theorem sta_truthful (mode : config.mode = .wlanConfigSta) (started : 0 ≤ results 1)
    : Truthful config
        (final (wlanStartTask config (.initial results checks wlStatus currentConfig))) := by
  have agrees {after : Wlan} {status : Int}
      (run
        : configureSta config
            ((Wlan.initial results checks wlStatus currentConfig).restarted config)
          = .ok status after) :=
    sta_truthful_of config results checks wlStatus currentConfig mode started run
  rcases configureSta_cases config
      ((Wlan.initial results checks wlStatus currentConfig).restarted config)
    with ⟨noMode, run⟩ | ⟨-, running, run⟩ | ⟨-, -, refused, run⟩ | ⟨set, stopped, connects, link⟩
  · refine agrees run (iff_of_false (fun up => ?_) (Int.not_le.mpr noMode))
    exact absurd noMode (Int.not_lt.mpr (up.setMode.2 (.wlanSetMode roleSta, results 2)
      (List.mem_singleton_self _) rfl))
  · refine agrees run (iff_of_false (fun up => ?_) (Int.not_le.mpr running))
    exact absurd running (Int.not_lt.mpr (up.stop.2 (.stop, results 3)
      (List.mem_cons_of_mem _ (List.mem_singleton_self _)) (decide_eq_true rfl)))
  · refine agrees run (iff_of_false (fun up => ?_) (Int.not_le.mpr refused))
    exact absurd refused (Int.not_lt.mpr (up.connect.2 (staConnect config, results 5)
      (List.mem_of_mem_drop (i := 3) (List.mem_singleton_self _)) rfl))
  · rcases link with ⟨seen, run⟩ | ⟨unseen, run⟩
    · refine agrees run (iff_of_true ?_ (Int.le_refl 0))
      have made
          : (((Wlan.initial results checks wlStatus currentConfig).restarted config).calledAll
              [.wlanSetMode roleSta, .stop, .start, staConnect config]).calls.drop 2
            = [(.wlanSetMode roleSta, results 2), (.stop, results 3), (.start, results 4),
                (staConnect config, results 5)] := rfl
      have modeSet : 0 ≤ results 2 := set
      have stopSucceeded : 0 ≤ results 3 := stopped
      have connected : 0 ≤ results 5 := connects
      constructor
      · rw [made]
        simp [Succeeded, SlCall.isSetting, staConnect, modeSet]
      · rw [made]
        simp [Succeeded, staConnect, stopSucceeded]
      · rw [made]
        simp [Succeeded, SlCall.isConnect, staConnect, connected]
      · exact seen
    · refine agrees run (iff_of_false (fun up => ?_) (by decide))
      obtain ⟨k, inTime, linkUp⟩ := up.link
      exact unseen k inTime linkUp

/-- The status tells the truth exactly in station mode, or if SimpleLink does not start, or if the
access point comes up.
-/
theorem wlanStartTask_truthful_iff
    : Truthful config
        (final (wlanStartTask config (.initial results checks wlStatus currentConfig)))
      ↔ config.mode = .wlanConfigSta ∨ results 1 < 0 ∨ ApResults results := by
  by_cases started : 0 ≤ results 1
  · cases mode : config.mode with
    | wlanConfigAp =>
        rw [ap_truthful_iff config results checks wlStatus currentConfig mode started]
        constructor
        · exact fun good => Or.inr (Or.inr good)
        · rintro (other | negative | good)
          · cases other
          · exact absurd negative (Int.not_lt.mpr started)
          · exact good
    | wlanConfigSta =>
        exact iff_of_true
          (sta_truthful config results checks wlStatus currentConfig mode started) (Or.inl rfl)
  · have negative := Int.not_le.mp started
    exact iff_of_true (notStarted_truthful config results checks wlStatus currentConfig negative)
      (Or.inr (Or.inl negative))

end Status

/-- An open access point on channel 1. -/
def openAp : WlanConfig where
  mode := .wlanConfigAp
  sec := .wlanConfigOpen
  channel := 1
  ssid := fun _ => 0x61
  ssidLen := 4
  pwd := fun _ => 0
  pwdLen := 0

/-- All SimpleLink calls fail but the first two, and the WLAN counts as connected. -/
theorem wlanStartTask_untruthful
    : ¬ Truthful openAp
        (final (wlanStartTask openAp
          (.initial (fun n => if n < 2 then 0 else -1) (fun _ => ⟨false, false⟩) .wlanConnecting
            .zeroed))) := by
  intro truthful
  have down := truthful.down fun up : ApUp _ => absurd (up.settings (.wlanSetMode roleAp, -1)
    (by decide) rfl) (by decide)
  cases down

end BigBlackHardware
