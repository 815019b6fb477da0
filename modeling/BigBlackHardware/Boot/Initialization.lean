import BigBlackHardware.Controller.Desk
import BigBlackHardware.Programmer.Rig
import BigBlackHardware.Wired.Updater

/-! The device from a reset on: the initialization task of `main.c`, the task that it creates to
bring the WLAN up, the bytes on the configuration UART and the tasks that they create. Each goes on
when it gets its turn. Only the configuration file survives a reset.
-/

namespace BigBlackHardware

open Library

-----------------------------------------------------------------------------------------
-- Default configuration
-----------------------------------------------------------------------------------------

def ssidName : String := "ChtoZaSet"
def ssidPwd : String := "GrEs4242SeRg"

/-- `get_default_config`, on the memory of a configuration. It does not set the channel. -/
def getDefaultConfig (memory : Cells UInt8) : Cells UInt8 :=
  let memory := memory.store 0 [WlanMode.wlanConfigSta.val]
  let memory := memory.store (ssidPlace + maxSsidLength) [(textBytes ssidName).length.toUInt8]
  let memory := memory.store ssidPlace (textBytes ssidName)
  let memory := memory.store (pwdPlace + maxPwdLength) [(textBytes ssidPwd).length.toUInt8]
  let memory := memory.store pwdPlace (textBytes ssidPwd)
  memory.store 1 [WlanSecurityType.wlanConfigWpaWpa2.val]

/-- The default configuration. -/
def defaultConfig : WlanConfig where
  mode := .wlanConfigSta
  sec := .wlanConfigWpaWpa2
  channel := 0
  ssid := zeroPadded (textBytes ssidName)
  ssidLen := (textBytes ssidName).length.toUInt8
  pwd := zeroPadded (textBytes ssidPwd)
  pwdLen := (textBytes ssidPwd).length.toUInt8

theorem defaultConfig_fits : defaultConfig.Fits :=
  ⟨⟨fun _ => zeroPadded_behind (by decide), fun _ => zeroPadded_behind (by decide)⟩, by decide,
    by decide⟩

/-- On cleared memory it is the default configuration that is set. -/
theorem getDefaultConfig_zeroed
    : WlanConfig.ofMemory (getDefaultConfig fun _ => 0) = some defaultConfig :=
  ofMemory_image defaultConfig_fits.toTidy (by decide +kernel)

-----------------------------------------------------------------------------------------
-- State
-----------------------------------------------------------------------------------------

/-- Which call of `vInitializationTask` comes next. -/
inductive InitStage where
  | sysResetMcu
  | wlanInit
  | wiredConfStart
  | wlanLoadConfig
  /-- `wlan_start`, up to its `osi_LockObjLock`. -/
  | wlanLock
  /-- `wlan_start`, from its `osi_TaskCreate` on. -/
  | wlanCreate
  /-- The loop that waits for `WLAN_CONNECTED`. -/
  | wlanStatus
  | bridgeStart
  | udpResolverStart
  | packetHandlerStart
  | taskDelete
  | deleted
  /-- The configuration names a security type behind the end of `sl_sec_types`. -/
  | undefined
  deriving DecidableEq

/-- A service that the initialization task starts. -/
inductive Service where
  | bridge
  | udpResolver
  | packetHandler
  deriving DecidableEq

/-- The device. -/
structure Boot where
  file : ConfigFile
  stage : InitStage
  /-- The local variable `config` of the initialization task. -/
  config : Cells UInt8
  wlan : WlanSystem
  wired : Wired
  /-- The updater tasks that have not run, by the order of their creation; `updater_hdnl` names the
  last that was created.
  -/
  updaters : List Nat
  /-- The level of the target's reset line, if it was set. -/
  resetLine : Option UInt8
  /-- The services that were started, in order. -/
  services : List Service

/-- The device after a reset. The configurator has its initial state, on memory of any content. -/
def Boot.powerOn (file : ConfigFile) (wired : Wired) : Boot where
  file := file
  stage := .sysResetMcu
  config := fun _ => 0
  wlan := wlanInit
  wired := { wired with state := .stateRecvHeader, transfer := none, updaterRuns := [] }
  updaters := []
  resetLine := none
  services := []

/-- `wlan_init`, with the result of `osi_LockObjCreate`. -/
def wlanInitStatus (result : Int) : Int := if result < 0 then toI8 result else success

/-- What `udp_resolver_start` returns, an 8-bit unsigned integer, as an `int`. -/
def udpResolverStatus (result : Int) : Int := result % 256

/-- The initialization task goes on by one call, with what the call returns. -/
def Boot.vInitializationTask (boot : Boot) (result : Int) (fs : FsReading) : Boot :=
  match boot.stage with
  | .sysResetMcu => { boot with resetLine := some mcuResetOff, stage := .wlanInit }
  | .wlanInit =>
      { boot with stage := if wlanInitStatus result < 0 then .deleted else .wiredConfStart }
  | .wiredConfStart => { boot with wired := wiredConfStart boot.wired, stage := .wlanLoadConfig }
  | .wlanLoadConfig =>
      let (status, memory) := wlanLoadConfig fs fun _ => 0
      { boot with
        config := if status ≠ success then getDefaultConfig memory else memory
        stage := .wlanLock }
  | .wlanLock =>
      match WlanConfig.ofMemory boot.config with
      | none => { boot with stage := .undefined }
      | some config => { boot with wlan := boot.wlan.lock (.start config), stage := .wlanCreate }
  | .wlanCreate =>
      { boot with
        wlan := boot.wlan.create 0 result
        stage := if assertCreated result < 0 then .deleted else .wlanStatus }
  | .wlanStatus =>
      match boot.wlan.wlStatus with
      | .wlanConnected => { boot with stage := .bridgeStart }
      | .wlanConnecting => boot
      | .wlanReady => { boot with stage := .taskDelete }
  -- the status of the bridge is not looked at
  | .bridgeStart =>
      { boot with services := boot.services ++ [.bridge], stage := .udpResolverStart }
  | .udpResolverStart =>
      { boot with
        services := boot.services ++ [.udpResolver]
        stage := if udpResolverStatus result < 0 then .deleted else .packetHandlerStart }
  | .packetHandlerStart =>
      { boot with services := boot.services ++ [.packetHandler], stage := .taskDelete }
  | .taskDelete => { boot with stage := .deleted }
  | .deleted | .undefined => boot

/-- A byte on the UART. A body that is complete creates an updater task. -/
def Boot.receive (boot : Boot) (byte : UInt8) : Boot :=
  let wired := boot.wired.byte byte
  let created := wired.updaterRuns.length
  { boot with
    wired := wired
    updaters :=
      if boot.wired.updaterRuns.length < created then boot.updaters ++ [created]
      else boot.updaters }

/-- An updater task that has not run does so. Behind its `osi_TaskDelete` it is gone, and so is the
task that the handle names.
-/
def Boot.update (boot : Boot) (id : Nat) (fs : FsWriting) (next : Wired) : Boot :=
  if id ∈ boot.updaters then
    let handle := boot.wired.updaterRuns.length
    let (restarts, file) := updaterTask (id = handle) fs boot.wired.cfgPacket boot.file
    if restarts then .powerOn file next
    else { boot with file := file, updaters := (boot.updaters.erase id).erase handle }
  else boot

/-- What can happen next. `next` is the memory of the configurator behind a reset. -/
inductive BootTurn where
  | initTask (result : Int) (fs : FsReading)
  | wlanUnlock (id : Nat) (results : Nat → Int) (checks : Nat → LinkCheck)
  | wlanDelete (id : Nat)
  | receive (byte : UInt8)
  | update (id : Nat) (fs : FsWriting) (next : Wired)
  | reset (next : Wired)

def Boot.turn (boot : Boot) : BootTurn → Boot
  | .initTask result fs => boot.vInitializationTask result fs
  | .wlanUnlock id results checks => { boot with wlan := boot.wlan.unlock id results checks }
  | .wlanDelete id => { boot with wlan := boot.wlan.delete id }
  | .receive byte => boot.receive byte
  | .update id fs next => boot.update id fs next
  | .reset next => .powerOn boot.file next

end BigBlackHardware
