import BigBlackHardware.Wired.NetworkConfig
import BigBlackHardware.Wlan.Failures

/-! The configuration file of `wlan_config.c`. It holds the bytes of a `WlanConfig` as they stand in
memory. What the SimpleLink file system returns and leaves is an input of the model.
-/

namespace BigBlackHardware

open Library

/-- The bytes of `wlan_config.bin`, if there is such a file. -/
abbrev ConfigFile := Option (List UInt8)

/-- What the file system does when the file is written. -/
structure FsWriting where
  /-- What `sl_FsOpen` returns. -/
  opened : Int
  /-- What `sl_FsWrite` returns for some bytes, and the file that it leaves. -/
  write : List UInt8 → Int × ConfigFile

/-- What the file system does when the file is read. -/
structure FsReading where
  /-- What `sl_FsOpen` returns. -/
  opened : Int
  /-- What `sl_FsRead` returns for a count of bytes, and the bytes that it stores. -/
  read : Nat → Int × List UInt8

/-- `wlan_save_config`: the status and the file. The results are kept as `_i8`. -/
def wlanSaveConfig (fs : FsWriting) (config : WlanConfig) (file : ConfigFile)
    : Int × ConfigFile :=
  let status := toI8 fs.opened
  if status < 0 then (status, file)
  else
    let (written, file) := fs.write config.image
    let status := toI8 written
    if status < 0 then (status, file) else (success, file)

/-- `wlan_load_config`: the status and the memory of the configuration. How many bytes were read is
not looked at.
-/
def wlanLoadConfig (fs : FsReading) (memory : Cells UInt8) : Int × Cells UInt8 :=
  let status := toI8 fs.opened
  if status < 0 then (status, memory)
  else
    let (read, bytes) := fs.read wlanConfigSize
    let memory := memory.store 0 bytes
    let status := toI8 read
    if status < 0 then (status, memory) else (success, memory)

/-- `sl_FsWrite` does what it reports: a negative result leaves the file, and any other one is the
count of the first bytes that the file holds then.
-/
structure FsWriting.Sound (fs : FsWriting) (file : ConfigFile) : Prop where
  failed : ∀ bytes, (fs.write bytes).1 < 0 → (fs.write bytes).2 = file
  wrote
    : ∀ bytes,
        0 ≤ (fs.write bytes).1 →
        (fs.write bytes).2 = some (bytes.take (fs.write bytes).1.toNat)

/-- The result of a write is one that `wlan_save_config` understands: a failure that is negative as
an `_i8` too, or the count of all bytes.
-/
def FsWriting.Understood (fs : FsWriting) (bytes : List UInt8) : Prop :=
  (fs.write bytes).1 < 0 ∧ toI8 (fs.write bytes).1 < 0 ∨ (fs.write bytes).1 = bytes.length

/-- The file system opens and reads the file that there is, and reports a missing one with a result
that is negative as an `_i8` too.
-/
def FsReading.Reads (fs : FsReading) (file : ConfigFile) : Prop :=
  match file with
  | none => fs.opened < 0 ∧ toI8 fs.opened < 0
  | some bytes =>
      fs.opened = 0 ∧ ∀ size, fs.read size = (((bytes.take size).length : Int), bytes.take size)

section File

variable {config : WlanConfig} {file : ConfigFile}

/-- A save on a sound file system whose result is understood writes the file or leaves it. -/
theorem wlanSaveConfig_cases {fs : FsWriting} (sound : fs.Sound file)
    (understood : fs.Understood config.image)
    : wlanSaveConfig fs config file = (success, some config.image)
      ∨ ∃ status < 0, wlanSaveConfig fs config file = (status, file) := by
  rw [wlanSaveConfig]
  dsimp only
  by_cases opened : toI8 fs.opened < 0
  · rw [if_pos opened]
    exact Or.inr ⟨_, opened, rfl⟩
  rw [if_neg opened]
  rcases understood with ⟨failed, negative⟩ | whole
  · rw [if_pos negative, sound.failed _ failed]
    exact Or.inr ⟨_, negative, rfl⟩
  · have written := sound.wrote config.image (whole ▸ Int.natCast_nonneg _)
    have passed : ¬ toI8 (wlanConfigSize : Int) < 0 := by decide
    rw [whole, Int.toNat_natCast, List.take_length] at written
    rw [whole, config.image_length, if_neg passed, written]
    exact Or.inl rfl

/-- A failure that is not negative as an `_i8` is taken for a success. -/
theorem wlanSaveConfig_misunderstood {fs : FsWriting} (sound : fs.Sound file)
    (opened : 0 ≤ toI8 fs.opened) (failed : (fs.write config.image).1 < 0)
    (wraps : 0 ≤ toI8 (fs.write config.image).1)
    : wlanSaveConfig fs config file = (success, file) := by
  rw [wlanSaveConfig]
  dsimp only
  rw [if_neg (Int.not_lt.mpr opened), if_neg (Int.not_lt.mpr wraps), sound.failed _ failed]

/-- A load of a configuration that stands in the file gives its bytes. -/
theorem wlanLoadConfig_image {fs : FsReading} (reads : fs.Reads (some config.image))
    (memory : Cells UInt8)
    : wlanLoadConfig fs memory = (success, memory.store 0 config.image) := by
  obtain ⟨result, read⟩ := fs
  obtain ⟨rfl, bytes⟩ : result = 0
      ∧ ∀ size,
          read size = (((config.image.take size).length : Int), config.image.take size) := reads
  have whole : read wlanConfigSize = ((wlanConfigSize : Int), config.image) := by
    have all : config.image.take wlanConfigSize = config.image := by
      rw [← config.image_length, List.take_length]
    rw [bytes, all, config.image_length]
  have opened : ¬ toI8 0 < 0 := by decide
  have status : ¬ toI8 (wlanConfigSize : Int) < 0 := by decide
  rw [wlanLoadConfig]
  dsimp only
  rw [if_neg opened, whole]
  exact if_neg status

/-- Without a file a load fails and leaves the memory. -/
theorem wlanLoadConfig_missing {fs : FsReading} (reads : fs.Reads none) (memory : Cells UInt8)
    : ∃ status < 0, wlanLoadConfig fs memory = (status, memory) := by
  have missing : toI8 fs.opened < 0 := reads.2
  refine ⟨_, missing, ?_⟩
  rw [wlanLoadConfig]
  exact if_pos missing

/-- The outcome of a save: it succeeds, and the configuration is what every later load gives,
whatever stood in memory; or it fails, says so and leaves the file.
-/
def Persists (saved : Int × ConfigFile) (config : WlanConfig) (file : ConfigFile) : Prop :=
  saved.1 = success
    ∧ (∀ (fs : FsReading) (memory : Cells UInt8),
        fs.Reads saved.2 →
        (wlanLoadConfig fs memory).1 = success
        ∧ WlanConfig.ofMemory (wlanLoadConfig fs memory).2 = some config)
  ∨ saved.1 < 0 ∧ saved.2 = file

/-- A save on a sound file system persists if the result of its write is understood. -/
theorem wlanSaveConfig_persists (tidy : config.Tidy) {fs : FsWriting} (sound : fs.Sound file)
    (understood : fs.Understood config.image)
    : Persists (wlanSaveConfig fs config file) config file := by
  rcases wlanSaveConfig_cases sound understood with written | ⟨status, negative, failed⟩
  · rw [written]
    refine Or.inl ⟨rfl, fun fs memory reads => ?_⟩
    rw [wlanLoadConfig_image reads]
    exact ⟨rfl, ofMemory_image tidy (load_image memory config)⟩
  · rw [failed]
    exact Or.inr ⟨negative, rfl⟩

end File

/-- A file system on which every write succeeds. -/
def FsWriting.working : FsWriting := ⟨0, fun bytes => (bytes.length, some bytes)⟩

/-- A file system that reads the file. -/
def FsReading.working (file : ConfigFile) : FsReading :=
  ⟨if file.isSome then 0 else -11,
    fun size => (((file.getD []).take size).length, (file.getD []).take size)⟩

theorem FsWriting.working_sound (file : ConfigFile) : FsWriting.working.Sound file := by
  constructor
  · intro bytes failed
    exact absurd failed (Int.not_lt.mpr (Int.natCast_nonneg bytes.length))
  · intro bytes _
    exact congrArg some bytes.take_length.symm

theorem FsWriting.working_understood (bytes : List UInt8) : FsWriting.working.Understood bytes :=
  Or.inr rfl

theorem FsReading.working_reads (file : ConfigFile) : (FsReading.working file).Reads file := by
  cases file with
  | none => exact ⟨by decide, by decide⟩
  | some bytes => exact ⟨rfl, fun size => rfl⟩

/-- The configuration of a secured access point. -/
def accessPointConfig : WlanConfig where
  mode := .wlanConfigAp
  sec := .wlanConfigWpaWpa2
  channel := 6
  ssid := zeroPadded [0x61, 0x62]
  ssidLen := 2
  pwd := zeroPadded [0x63, 0x64, 0x65]
  pwdLen := 3

/-- It is saved over another one. -/
theorem wlanSaveConfig_persists_accessPoint
    : Persists
        (wlanSaveConfig .working accessPointConfig (some WlanConfig.zeroed.image))
        accessPointConfig (some WlanConfig.zeroed.image) := by
  have tidy : accessPointConfig.Tidy :=
    ⟨fun _ => zeroPadded_behind (by decide), fun _ => zeroPadded_behind (by decide)⟩
  exact wlanSaveConfig_persists tidy (FsWriting.working_sound _)
    (FsWriting.working_understood accessPointConfig.image)

end BigBlackHardware
