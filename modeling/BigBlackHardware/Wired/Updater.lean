import BigBlackHardware.Wired.FrameSequence
import BigBlackHardware.Wlan.ConfigFile

/-! `updater_task` of `wired_configurator.c`, which saves the configuration of a packet and restarts
the device. It finds the packet as it is by the time it runs, and it deletes itself through a
handle that the next task of its kind takes over.
-/

namespace BigBlackHardware

open Library

/-- `updater_task`: whether it restarts the device, and the file. `own` says that `updater_hdnl`
names this task; else the `osi_TaskDelete` of an assertion deletes another task, and this one goes
on.
-/
def updaterTask (own : Bool) (fs : FsWriting) (packet : Packet) (file : ConfigFile)
    : Bool × ConfigFile :=
  if packet.header.type = PacketType.networkConfigurationPacket.val then
    let (status, cfg) := getWlanConfigFromPacket packet.packetData .zeroed
    if status < 0 ∧ own then (false, file)
    else
      let (status, file) := wlanSaveConfig fs cfg file
      if status < 0 ∧ own then (false, file) else (true, file)
  else (false, file)

/-- The configuration that a packet brings, as far as it goes. -/
def Packet.networkConfig (packet : Packet) : WlanConfig :=
  (getWlanConfigFromPacket packet.packetData .zeroed).2

/-- The packet is a network configuration. -/
def Packet.IsNetwork (packet : Packet) : Prop :=
  packet.header.type = PacketType.networkConfigurationPacket.val

instance (packet : Packet) : Decidable packet.IsNetwork := inferInstanceAs (Decidable (_ = _))

/-- The strings of a packet fit in the arrays of a configuration. -/
structure Packet.StringsFit (packet : Packet) : Prop where
  ssid : bodySsidLen packet.packetData ≤ maxSsidLength
  pwd : bodyPwdLen packet.packetData ≤ maxPwdLength

section Updating

variable {fs : FsWriting} {packet : Packet} {file : ConfigFile}

/-- Strings that fit are those of the configuration, and their lengths too. -/
theorem Packet.StringsFit.taken (fit : packet.StringsFit)
    : packet.networkConfig.ssid
        = Cells.store (fun _ => 0) 0
            (packet.packetData.load (plNetworkSsidLenOffset + 1) (bodySsidLen packet.packetData))
      ∧ packet.networkConfig.ssidLen.toNat = bodySsidLen packet.packetData
      ∧ packet.networkConfig.pwd
        = Cells.store (fun _ => 0) 0
            (packet.packetData.load (pwdOff packet.packetData).toNat
              (bodyPwdLen packet.packetData))
      ∧ packet.networkConfig.pwdLen.toNat = bodyPwdLen packet.packetData := by
  obtain ⟨ssid, ssidLen, pwd, pwdLen⟩ :=
    getWlanConfigFromPacket_strings packet.packetData .zeroed
  rw [withStrings_fit _ _ fit.ssid fit.pwd] at ssid ssidLen pwd pwdLen
  rw [Packet.networkConfig, ssid, ssidLen, pwd, pwdLen]
  exact ⟨rfl, rfl, rfl, rfl⟩

/-- The configuration of strings that fit does so. -/
theorem Packet.StringsFit.fits (fit : packet.StringsFit) : packet.networkConfig.Fits := by
  obtain ⟨ssid, ssidLen, pwd, pwdLen⟩ := fit.taken
  refine ⟨⟨fun i behind => ?_, fun i behind => ?_⟩, ssidLen ▸ fit.ssid, pwdLen ▸ fit.pwd⟩
  · rw [ssid]
    refine Cells.store_outside _ (Or.inr ?_)
    rw [Cells.load_length, Nat.zero_add]
    exact fit.ssid.trans behind
  · rw [pwd]
    refine Cells.store_outside _ (Or.inr ?_)
    rw [Cells.load_length, Nat.zero_add]
    exact fit.pwd.trans behind

/-- A task that finds another packet leaves the file and does not restart the device. -/
theorem updaterTask_other (own : Bool) (other : ¬ packet.IsNetwork)
    : updaterTask own fs packet file = (false, file) := if_neg other

/-- A task saves the packet's configuration and restarts the device, or it leaves the file. On its
own handle it saves nothing but a network configuration of a known mode, and without a handle of
its own it restarts the device even if it could not save.
-/
theorem updaterTask_cases (own : Bool) (sound : fs.Sound file)
    (understood : fs.Understood packet.networkConfig.image)
    : (packet.IsNetwork ∧ (own = true → KnownMode packet.packetData)
        ∧ updaterTask own fs packet file = (true, some packet.networkConfig.image))
      ∨ packet.IsNetwork ∧ own = false ∧ updaterTask own fs packet file = (true, file)
      ∨ updaterTask own fs packet file = (false, file) := by
  by_cases network : packet.IsNetwork
  · have type : packet.header.type = PacketType.networkConfigurationPacket.val := network
    rw [updaterTask, if_pos type]
    have status := getWlanConfigFromPacket_status packet.packetData .zeroed
    dsimp only
    rw [status]
    by_cases refused : (if KnownMode packet.packetData then success else failure) < 0 ∧ own = true
    · rw [if_pos refused]
      exact Or.inr (Or.inr rfl)
    · rw [if_neg refused]
      have known : own = true → KnownMode packet.packetData := by
        intro mine
        by_contra unknown
        rw [if_neg unknown] at refused
        exact refused ⟨by decide, mine⟩
      rcases wlanSaveConfig_cases sound understood with saved | ⟨result, negative, failed⟩
      · refine Or.inl ⟨network, known, ?_⟩
        rw [Packet.networkConfig] at saved
        have passed : ¬ success < 0 := by decide
        rw [saved]
        exact if_neg fun failed => passed failed.1
      · rw [Packet.networkConfig] at failed
        rw [failed]
        cases own with
        | true => exact Or.inr (Or.inr (if_pos ⟨negative, rfl⟩))
        | false => exact Or.inr (Or.inl ⟨network, rfl, if_neg fun mine => by cases mine.2⟩)
  · exact Or.inr (Or.inr (updaterTask_other own network))

end Updating

/-- A frame with the configuration of a network, whose strings fit. -/
structure NetworkFrame extends WiredFrame where
  mode : WlanMode
  phy : UInt8
  channel : UInt8
  ssid : List UInt8
  pwd : List UInt8
  ssidShort : ssid.length ≤ maxSsidLength
  pwdShort : pwd.length ≤ maxPwdLength
  network : toFrame.fields.type = PacketType.networkConfigurationPacket.val
  laid : body = networkBody mode phy channel ssid pwd

theorem NetworkFrame.short (frame : NetworkFrame) : frame.body.length ≤ 255 := by
  have ssid := frame.ssidShort
  have pwd := frame.pwdShort
  simp only [maxSsidLength, maxPwdLength] at ssid pwd
  rw [frame.laid]
  simp only [networkBody, List.length_cons, List.length_append]
  omega

/-- A frame with an open network for a station. -/
def openNetwork : NetworkFrame where
  header := [plStartFrameByte, 0, plNetworkConfiguration, 0, 6]
  body := networkBody .wlanConfigSta 1 6 [0x61] []
  headerLength := rfl
  accepted := by decide
  bodyLength := rfl
  small := by decide
  some := by decide
  mode := .wlanConfigSta
  phy := 1
  channel := 6
  ssid := [0x61]
  pwd := []
  ssidShort := by decide
  pwdShort := by decide
  network := by decide
  laid := rfl

end BigBlackHardware
