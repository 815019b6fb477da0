import BigBlackHardware.Boot.SavedConfig
import BigBlackHardware.Wlan.Script

/-! A network configuration on its way from the UART through an updater task, the file and a reset
to the SimpleLink calls, among the turns of the other tasks.
-/

namespace BigBlackHardware

open Library

-----------------------------------------------------------------------------------------
-- From a body to the calls
-----------------------------------------------------------------------------------------

/-- The calls that bring up a network. -/
def networkScript (mode : WlanMode) (channel : UInt8) (ssid pwd : List UInt8) : List SlCall :=
  let sec := if pwd = [] then WlanSecurityType.wlanConfigOpen else .wlanConfigWpaWpa2
  match mode with
  | .wlanConfigAp =>
      [.wlanSetMode roleAp, .wlanSet .ssid ssid, .wlanSet .securityType [slSecTypes sec],
        .wlanSet .password pwd, .wlanSet .channel [channel], .start]
  | .wlanConfigSta =>
      [.wlanSetMode roleSta, .stop, .start,
        .wlanConnect ssid (if pwd = [] then none else some ⟨slSecTypes sec, pwd⟩),
        .wlanDisconnect, .stop]

section Body

variable {mode : WlanMode} {phy channel : UInt8} {ssid pwd : List UInt8} {packet : Packet}

/-- What is taken of a body besides its strings. -/
theorem networkConfig_front (modeByte : packet.packetData plNetworkModeOffset = mode.wireByte)
    : packet.networkConfig.mode = mode
      ∧ packet.networkConfig.channel = packet.packetData plNetworkChannelOffset
      ∧ packet.networkConfig.sec
        = if bodyPwdLen packet.packetData = 0 then .wlanConfigOpen else .wlanConfigWpaWpa2 := by
  have empty
      : packet.packetData (plNetworkSsidLenOffset + bodySsidLen packet.packetData + 1) = 0
        ↔ bodyPwdLen packet.packetData = 0 := by
    rw [bodyPwdLen, ← UInt8.toNat_inj, UInt8.toNat_zero]
  simp only [← empty, ← ite_not (p := _ = _)]
  unfold Packet.networkConfig getWlanConfigFromPacket
  dsimp only
  rw [modeByte]
  cases mode with
  | wlanConfigAp =>
      have same : WlanMode.wlanConfigAp.wireByte = plNetworkModeAp := rfl
      rw [if_pos same]
      exact ⟨rfl, rfl, rfl⟩
  | wlanConfigSta =>
      have other : WlanMode.wlanConfigSta.wireByte ≠ plNetworkModeAp := by decide
      have same : WlanMode.wlanConfigSta.wireByte = plNetworkModeSta := rfl
      rw [if_neg other, if_pos same]
      exact ⟨rfl, rfl, rfl⟩

section Laid

variable (ssidShort : ssid.length ≤ maxSsidLength) (pwdShort : pwd.length ≤ maxPwdLength)
  (body
    : packet.packetData.load 0 (networkBody mode phy channel ssid pwd).length
      = networkBody mode phy channel ssid pwd)

include ssidShort pwdShort body

/-- The lengths of a body are those of its strings. -/
theorem networkBody_lengths
    : bodySsidLen packet.packetData = ssid.length
      ∧ bodyPwdLen packet.packetData = pwd.length := by
  obtain ⟨-, -, ssidByte⟩ := networkBody_front body
  obtain ⟨-, pwdByte, -⟩ := networkBody_strings body
  have ssidLength : bodySsidLen packet.packetData = ssid.length := by
    rw [bodySsidLen, ssidByte]
    exact lengthByte_toNat ssidShort (by decide)
  refine ⟨ssidLength, ?_⟩
  rw [bodyPwdLen, ssidLength, pwdByte]
  exact lengthByte_toNat pwdShort (by decide)

theorem networkBody_fits : packet.StringsFit := by
  obtain ⟨ssidLength, pwdLength⟩ := networkBody_lengths ssidShort pwdShort body
  exact ⟨ssidLength ▸ ssidShort, pwdLength ▸ pwdShort⟩

omit ssidShort pwdShort in
theorem networkBody_known : KnownMode packet.packetData := by
  obtain ⟨modeByte, -⟩ := networkBody_front body
  cases mode with
  | wlanConfigAp => exact Or.inl modeByte
  | wlanConfigSta => exact Or.inr modeByte

/-- The strings of a body are those of its configuration. -/
theorem networkConfig_strings
    : packet.networkConfig.ssid.load 0 packet.networkConfig.ssidLen.toNat = ssid
      ∧ packet.networkConfig.pwd.load 0 packet.networkConfig.pwdLen.toNat = pwd := by
  obtain ⟨ssidLength, pwdLength⟩ := networkBody_lengths ssidShort pwdShort body
  obtain ⟨ssidText, -, pwdText⟩ := networkBody_strings body
  have fits := networkBody_fits ssidShort pwdShort body
  obtain ⟨ssidStored, ssidLen, pwdStored, pwdLen⟩ := fits.taken
  constructor
  · rw [ssidLen, ssidStored, ssidLength, ssidText]
    exact Cells.load_store _ ssid
  · rw [pwdLen, pwdStored, pwdLength, pwdOff_toNat fits.ssid, ssidLength, pwdText]
    exact Cells.load_store _ pwd

/-- The configuration of a body brings up the network that the body names. -/
theorem networkConfig_script
    : packet.networkConfig.script = networkScript mode channel ssid pwd := by
  obtain ⟨modeByte, channelByte, -⟩ := networkBody_front body
  obtain ⟨modeTaken, channelTaken, secTaken⟩ := networkConfig_front modeByte
  obtain ⟨ssidTaken, pwdTaken⟩ := networkConfig_strings ssidShort pwdShort body
  obtain ⟨-, pwdLength⟩ := networkBody_lengths ssidShort pwdShort body
  have sec
      : packet.networkConfig.sec
        = if pwd = [] then .wlanConfigOpen else .wlanConfigWpaWpa2 := by
    simp only [secTaken, pwdLength, List.length_eq_zero_iff]
  rw [WlanConfig.script, modeTaken]
  cases mode with
  | wlanConfigAp =>
      simp only [networkScript, apSettings, ssidTaken, pwdTaken, sec, channelTaken, channelByte]
      rfl
  | wlanConfigSta =>
      by_cases none : pwd = []
      · simp only [networkScript, staConnect, ssidTaken, sec, if_pos none, if_true]
      · simp only [networkScript, staConnect, ssidTaken, pwdTaken, sec, if_neg none, reduceCtorEq,
          if_false]

end Laid

end Body

-----------------------------------------------------------------------------------------
-- The first frame
-----------------------------------------------------------------------------------------

/-- The configurator after its first frame: one updater task was created, and the packet is the
frame.
-/
structure Wired.HasFirst (wired : Wired) (frame : WiredFrame) : Prop where
  created : wired.updaterRuns.length = 1
  type : wired.cfgPacket.header.type = frame.fields.type
  body : wired.cfgPacket.packetData.load 0 frame.body.length = frame.body

theorem Wired.feed_hasFirst (wired : Wired) (frame : WiredFrame)
    (short : frame.body.length ≤ 255) (created : 0 ≤ wired.taskResults.headD osiOk)
    : ((wiredConfStart wired).feed frame.bytes).HasFirst frame := by
  have narrow : frame.fields.dataSize.toUInt8.toNat = frame.body.length := by
    rw [UInt16.toNat_toUInt8, frame.fields_dataSize]
    exact Nat.mod_eq_of_lt (by omega)
  have some : 0 < frame.fields.dataSize.toUInt8.toNat := narrow.symm ▸ frame.some
  have goes : ¬ wired.taskResults.headD osiOk < 0 := Int.not_lt.mpr created
  rw [WiredFrame.bytes, Wired.feed_append, Wired.feed_header]
  rw [Wired.feed_transfer _ ⟨0, frame.fields.dataSize.toUInt8.toNat, some⟩ (dif_pos some)
    frame.body narrow.symm]
  simp only [uartIrqHdnl, wiredRecv, Wired.setData, if_neg goes]
  exact ⟨rfl, rfl, Cells.load_store _ frame.body⟩

section Runs

variable (wired : Wired)

/-- The interrupt handler creates at most one task. -/
theorem uartIrqHdnl_runs
    : (uartIrqHdnl wired).updaterRuns = wired.updaterRuns
      ∨ ∃ packet, (uartIrqHdnl wired).updaterRuns = wired.updaterRuns ++ [packet] := by
  rw [uartIrqHdnl]
  cases wired.state with
  | stateRecvHeader =>
      dsimp only
      split <;> exact Or.inl rfl
  | stateRecvBody =>
      dsimp only
      split
      · exact Or.inl rfl
      · exact Or.inr ⟨_, rfl⟩

theorem Wired.byte_runs (byte : UInt8)
    : (wired.byte byte).updaterRuns = wired.updaterRuns
      ∨ ∃ packet, (wired.byte byte).updaterRuns = wired.updaterRuns ++ [packet] := by
  rw [Wired.byte]
  split
  · exact Or.inl rfl
  · split
    · exact Or.inl rfl
    · exact uartIrqHdnl_runs _

end Runs

-----------------------------------------------------------------------------------------
-- Turns of the other tasks
-----------------------------------------------------------------------------------------

/-- The byte that arrives in a turn. -/
def BootTurn.received : BootTurn → Option UInt8
  | .receive byte => some byte
  | _ => none

/-- No updater task runs in a turn, and nobody resets the device. -/
def BootTurn.quiet : BootTurn → Bool
  | .update _ _ _ | .reset _ => false
  | _ => true

/-- The initialization task has called `wired_conf_start`. -/
def InitStage.listens : InitStage → Bool
  | .sysResetMcu | .wlanInit | .wiredConfStart => false
  | _ => true

/-- A device that listens and has not run any of its updater tasks. -/
structure Boot.Listening (boot : Boot) : Prop where
  stage : boot.stage.listens = true
  updaters : boot.updaters = List.range' 1 boot.wired.updaterRuns.length

section Quiet

variable {boot : Boot}

/-- It does not come back to that call. -/
theorem Boot.vInitializationTask_listens {boot : Boot} (listens : boot.stage.listens = true)
    (result : Int) (fs : FsReading)
    : (boot.vInitializationTask result fs).stage.listens = true := by
  rw [Boot.vInitializationTask]
  cases stage : boot.stage with
  | sysResetMcu | wlanInit | wiredConfStart =>
      rw [stage] at listens
      cases listens
  | wlanLock =>
      dsimp only
      split <;> rfl
  | wlanCreate | udpResolverStart =>
      dsimp only
      split <;> rfl
  | wlanStatus =>
      dsimp only
      split
      · rfl
      · rw [stage]
        rfl
      · rfl
  | deleted | undefined =>
      dsimp only
      rw [stage]
      rfl
  | wlanLoadConfig | bridgeStart | packetHandlerStart | taskDelete => rfl

theorem Boot.Listening.vInitializationTask (listening : boot.Listening) (result : Int)
    (fs : FsReading)
    : (boot.vInitializationTask result fs).Listening
      ∧ (boot.vInitializationTask result fs).wired = boot.wired
      ∧ (boot.vInitializationTask result fs).file = boot.file := by
  obtain ⟨file, updaters, wired⟩ := boot.vInitializationTask_frame result fs
  have same := wired fun start => by
    have listens := listening.stage
    rw [start] at listens
    cases listens
  refine ⟨⟨Boot.vInitializationTask_listens listening.stage result fs, ?_⟩, same, file⟩
  rw [updaters, same]
  exact listening.updaters

theorem Boot.Listening.receive (listening : boot.Listening) (byte : UInt8)
    : (boot.receive byte).Listening := by
  refine ⟨listening.stage, ?_⟩
  rw [Boot.receive]
  dsimp only
  rcases boot.wired.byte_runs byte with same | ⟨packet, more⟩
  · rw [same, if_neg (Nat.lt_irrefl _)]
    exact listening.updaters
  · rw [more, List.length_append, List.length_singleton, if_pos (Nat.lt_succ_self _),
      listening.updaters, List.range'_concat]
    simp [Nat.add_comm]

/-- Whatever the other tasks do while bytes arrive: the configurator gets the bytes, and the file
stays. By induction on the turns.
-/
theorem Boot.Listening.afterTurns (listening : boot.Listening) (turns : List BootTurn)
    (quiet : ∀ turn ∈ turns, turn.quiet = true)
    : (Library.afterTurns Boot.turn turns boot).Listening
      ∧ (Library.afterTurns Boot.turn turns boot).wired
        = boot.wired.feed (turns.filterMap BootTurn.received)
      ∧ (Library.afterTurns Boot.turn turns boot).file = boot.file := by
  induction turns generalizing boot with
  | nil => exact ⟨listening, rfl, rfl⟩
  | cons turn turns ih =>
      obtain ⟨first, rest⟩ := List.forall_mem_cons.mp quiet
      cases turn with
      | initTask result fs =>
          obtain ⟨next, wired, file⟩ := listening.vInitializationTask result fs
          rw [← wired, ← file]
          exact ih next rest
      | wlanUnlock id results checks => exact ih ⟨listening.stage, listening.updaters⟩ rest
      | wlanDelete id => exact ih ⟨listening.stage, listening.updaters⟩ rest
      | receive byte => exact ih (listening.receive byte) rest
      | update id fs next => cases first
      | reset next => cases first

end Quiet

-----------------------------------------------------------------------------------------
-- From a frame to the calls
-----------------------------------------------------------------------------------------

/-- The calls that bring up the network of a frame. -/
def NetworkFrame.script (frame : NetworkFrame) : List SlCall :=
  networkScript frame.mode frame.channel frame.ssid frame.pwd

/-- The file system opens the file, writes all bytes and says so. -/
structure FsWriting.Works (fs : FsWriting) : Prop where
  opened : fs.opened = 0
  written : ∀ bytes, fs.write bytes = ((bytes.length : Int), some bytes)

theorem wlanSaveConfig_works {fs : FsWriting} (works : fs.Works) (config : WlanConfig)
    (file : ConfigFile)
    : wlanSaveConfig fs config file = (success, some config.image) := by
  have opened : ¬ toI8 0 < 0 := by decide
  have written : ¬ toI8 (wlanConfigSize : Int) < 0 := by decide
  rw [wlanSaveConfig, works.opened, works.written, config.image_length]
  dsimp only
  rw [if_neg opened, if_neg written]

/-- A start task under way restarts SimpleLink and then goes along a script, whatever its calls
return and the checks show.
-/
def WlanCall.Follows (call : WlanCall) (script : List SlCall) : Prop :=
  ∃ config,
    call = .start config
    ∧ ∀ wlan, ∃ calls, calls <+: script
        ∧ (final (wlanStartTask config wlan)).made = wlan.made ++ [.stop, .start] ++ calls

/-- The device restarts with the configuration of a frame in its file. -/
theorem Boot.Listening.update {boot : Boot} (listening : boot.Listening) {frame : NetworkFrame}
    (first : boot.wired.HasFirst frame.toWiredFrame) {fs : FsWriting} (works : fs.Works)
    (next : Wired)
    : boot.update 1 fs next = .powerOn (some boot.wired.cfgPacket.networkConfig.image) next := by
  have network : boot.wired.cfgPacket.header.type = PacketType.networkConfigurationPacket.val :=
    first.type.trans frame.network
  have body := first.body
  rw [frame.laid] at body
  have status := getWlanConfigFromPacket_status boot.wired.cfgPacket.packetData .zeroed
  rw [if_pos (networkBody_known body)] at status
  have saved := wlanSaveConfig_works works boot.wired.cfgPacket.networkConfig boot.file
  have runs
      : updaterTask (decide (1 = boot.wired.updaterRuns.length)) fs boot.wired.cfgPacket boot.file
        = (true, some boot.wired.cfgPacket.networkConfig.image) := by
    rw [Packet.networkConfig] at saved
    rw [updaterTask, if_pos network]
    dsimp only
    rw [status, saved]
    rfl
  have waiting : 1 ∈ boot.updaters := by
    rw [listening.updaters, first.created]
    exact List.mem_singleton_self 1
  rw [Boot.update, if_pos waiting]
  dsimp only
  rw [runs]
  rfl

section Provisioned

variable (frame : NetworkFrame) {boot : Boot} {wired : Wired} (stage : boot.stage.listens = true)
  (waiting : boot.wired = wiredConfStart wired) (none : boot.updaters = [])
  (created : 0 ≤ wired.taskResults.headD osiOk) (turns : List BootTurn)
  (quiet : ∀ turn ∈ turns, turn.quiet = true)
  (bytes : turns.filterMap BootTurn.received = frame.bytes) {fs : FsWriting} (works : fs.Works)
  (next : Wired)

include stage waiting none created quiet bytes works

/-- The device behind the updater task of a frame that arrived among other turns. -/
theorem boot_saves
    : ∃ packet : Packet,
        packet.packetData.load 0 frame.body.length = frame.body
        ∧ afterTurns Boot.turn (turns ++ [.update 1 fs next]) boot
          = .powerOn (some packet.networkConfig.image) next := by
  have start : boot.Listening := by
    refine ⟨stage, ?_⟩
    rw [none, waiting]
    rfl
  obtain ⟨listening, fed, -⟩ := start.afterTurns turns quiet
  have first
      : (afterTurns Boot.turn turns boot).wired.HasFirst frame.toWiredFrame := by
    rw [fed, bytes, waiting]
    exact wired.feed_hasFirst frame.toWiredFrame frame.short created
  refine ⟨_, first.body, ?_⟩
  rw [afterTurns_append]
  exact listening.update first works next

/-- A frame with the configuration of a network arrives among other turns, and the updater task that
it creates gets its turn. Then the device restarts, and as long as the file stays every
`wlan_start` brings up that network.
-/
theorem boot_provisioned (later : List BootTurn)
    (kept
      : Obeys Boot.turn Boot.FilesKept later
          (afterTurns Boot.turn (turns ++ [.update 1 fs next]) boot))
    : let saved := afterTurns Boot.turn (turns ++ [.update 1 fs next]) boot
      saved = .powerOn saved.file next
      ∧ ∀ instant ∈ instants Boot.turn later saved,
          instant.file = saved.file →
          ∀ call ∈ instant.wlan.calls, call.Follows frame.script := by
  obtain ⟨packet, body, saved⟩ :=
    boot_saves frame stage waiting none created turns quiet bytes works next
  rw [frame.laid] at body
  have fit := networkBody_fits frame.ssidShort frame.pwdShort body
  dsimp only
  rw [saved] at kept ⊢
  refine ⟨rfl, fun instant present same call under => ?_⟩
  obtain ⟨config, force⟩ := (powerOn_inForce (.saved fit.fits) next).instants kept instant present
  have gives := force.file
  rw [same] at gives
  have own := gives.unique (.saved fit.fits)
  refine ⟨config, force.calls call under, fun wlan => ?_⟩
  obtain ⟨calls, along, made⟩ := wlanStartTask_script config wlan
  rw [own, networkConfig_script frame.ssidShort frame.pwdShort body] at along
  exact ⟨calls, along, made⟩

end Provisioned

/-- A device with the default configuration that listens. -/
def listeningBoot : Boot :=
  afterTurns Boot.turn ((startTurns none).take 3) (.powerOn none blankWired)

/-- The frame, with a turn of the initialization task before its last byte. -/
def openNetworkTurns : List BootTurn :=
  (openNetwork.bytes.take 10).map .receive ++ [.initTask 0 (.working none)]
    ++ (openNetwork.bytes.drop 10).map .receive

/-- The device behind the updater task. -/
def provisionedBoot : Boot :=
  afterTurns Boot.turn (openNetworkTurns ++ [.update 1 .working blankWired]) listeningBoot

theorem boot_provisioned_openNetwork
    : provisionedBoot = .powerOn provisionedBoot.file blankWired
      ∧ ∀ instant ∈ instants Boot.turn (startTurns provisionedBoot.file) provisionedBoot,
          instant.file = provisionedBoot.file →
          ∀ call ∈ instant.wlan.calls, call.Follows openNetwork.script := by
  have works : FsWriting.working.Works := ⟨rfl, fun _ => rfl⟩
  have stage : listeningBoot.stage.listens = true := by decide
  have created : 0 ≤ blankWired.taskResults.headD osiOk := by decide
  have quiet : ∀ turn ∈ openNetworkTurns, turn.quiet = true := by decide
  have bytes : openNetworkTurns.filterMap BootTurn.received = openNetwork.bytes := by decide
  have kept := (@startTurns_kept _ provisionedBoot rfl).1
  exact boot_provisioned openNetwork stage rfl rfl created openNetworkTurns quiet bytes works
    blankWired (startTurns provisionedBoot.file) kept

end BigBlackHardware
