import BigBlackHardware.Wlan.StartTask

/-! A `WlanConfig` in memory: its bytes, and what copies to its arrays make of them. -/

namespace BigBlackHardware

open Library

/-- The value of an enumerator. -/
def WlanMode.val : WlanMode → UInt8
  | .wlanConfigAp => 0
  | .wlanConfigSta => 1

/-- The value of an enumerator. -/
def WlanSecurityType.val : WlanSecurityType → UInt8
  | .wlanConfigOpen => 0
  | .wlanConfigWep => 1
  | .wlanConfigWpaWpa2 => 2

/-- Where the arrays of a `WlanConfig` begin: each enumeration is one byte, and the length of a
string stands behind its array.
-/
def ssidPlace : Nat := 3
def pwdPlace : Nat := ssidPlace + maxSsidLength + 1

/-- `sizeof` of a `WlanConfig`. -/
def wlanConfigSize : Nat := pwdPlace + maxPwdLength + 1

/-- The bytes of a configuration in memory. -/
def WlanConfig.image (config : WlanConfig) : List UInt8 :=
  config.mode.val :: config.sec.val :: config.channel
    :: (config.ssid.load 0 maxSsidLength
      ++ config.ssidLen :: (config.pwd.load 0 maxPwdLength ++ [config.pwdLen]))

/-- The enumerator that a byte stands for. There is none behind the last one, where
`sl_sec_types` ends.
-/
def WlanSecurityType.ofByte (byte : UInt8) : Option WlanSecurityType :=
  if byte = 0 then some .wlanConfigOpen
  else if byte = 1 then some .wlanConfigWep
  else if byte = 2 then some .wlanConfigWpaWpa2
  else none

/-- The configuration that stands in memory. Every mode but `WLAN_CONFIG_AP` is a station. -/
def WlanConfig.ofMemory (memory : Cells UInt8) : Option WlanConfig :=
  (WlanSecurityType.ofByte (memory 1)).map fun sec =>
    { mode := if memory 0 = WlanMode.wlanConfigAp.val then .wlanConfigAp else .wlanConfigSta
      sec := sec
      channel := memory 2
      ssid := fun i => if i < maxSsidLength then memory (ssidPlace + i) else 0
      ssidLen := memory (ssidPlace + maxSsidLength)
      pwd := fun i => if i < maxPwdLength then memory (pwdPlace + i) else 0
      pwdLen := memory (pwdPlace + maxPwdLength) }

/-- Nothing stands behind the arrays. -/
structure WlanConfig.Tidy (config : WlanConfig) : Prop where
  ssid : ∀ i, maxSsidLength ≤ i → config.ssid i = 0
  pwd : ∀ i, maxPwdLength ≤ i → config.pwd i = 0

/-- Nor does a length reach behind its array. -/
structure WlanConfig.Fits (config : WlanConfig) : Prop extends config.Tidy where
  ssidLen : config.ssidLen.toNat ≤ maxSsidLength
  pwdLen : config.pwdLen.toNat ≤ maxPwdLength

theorem WlanConfig.image_length (config : WlanConfig) : config.image.length = wlanConfigSize := by
  simp [image, wlanConfigSize, ssidPlace, pwdPlace, maxSsidLength, maxPwdLength]

section Image

variable {memory : Cells UInt8} {config : WlanConfig}

/-- The bytes of a configuration at their places. -/
theorem image_places (holds : memory.load 0 wlanConfigSize = config.image)
    : memory 0 = config.mode.val ∧ memory 1 = config.sec.val ∧ memory 2 = config.channel
      ∧ (∀ i < maxSsidLength, memory (ssidPlace + i) = config.ssid i)
      ∧ memory (ssidPlace + maxSsidLength) = config.ssidLen
      ∧ (∀ i < maxPwdLength, memory (pwdPlace + i) = config.pwd i)
      ∧ memory (pwdPlace + maxPwdLength) = config.pwdLen := by
  have split
      : config.image
        = [config.mode.val, config.sec.val, config.channel]
          ++ (config.ssid.load 0 maxSsidLength
            ++ ([config.ssidLen] ++ (config.pwd.load 0 maxPwdLength ++ [config.pwdLen]))) := rfl
  have size : wlanConfigSize = 3 + (maxSsidLength + (1 + (maxPwdLength + 1))) := rfl
  rw [split, size] at holds
  simp only [Cells.load_add, Nat.zero_add] at holds
  obtain ⟨front, rest⟩ := List.append_inj holds (by simp)
  obtain ⟨ssid, rest⟩ := List.append_inj rest (by simp)
  obtain ⟨ssidLen, rest⟩ := List.append_inj rest (by simp)
  obtain ⟨pwd, pwdLen⟩ := List.append_inj rest (by simp)
  simp only [Cells.load_succ, Cells.load_zero, List.cons.injEq, and_true] at front
  obtain ⟨mode, sec, channel⟩ := front
  refine ⟨mode, sec, channel, fun i inside => ?_, List.singleton_inj.mp ssidLen,
    fun i inside => ?_, List.singleton_inj.mp pwdLen⟩
  · exact (Cells.eq_of_load_eq ssid inside).trans (congrArg config.ssid (Nat.zero_add i))
  · exact (Cells.eq_of_load_eq pwd inside).trans (congrArg config.pwd (Nat.zero_add i))

/-- A configuration is read back from its bytes. -/
theorem ofMemory_image (tidy : config.Tidy)
    (holds : memory.load 0 wlanConfigSize = config.image)
    : WlanConfig.ofMemory memory = some config := by
  obtain ⟨mode, sec, channel, ssid, ssidLen, pwd, pwdLen⟩ := image_places holds
  have secOf : WlanSecurityType.ofByte config.sec.val = some config.sec := by
    cases config.sec <;> rfl
  have modeOf
      : (if config.mode.val = WlanMode.wlanConfigAp.val then .wlanConfigAp else .wlanConfigSta)
        = config.mode := by
    cases config.mode <;> rfl
  have ssidOf
      : (fun i => if i < maxSsidLength then memory (ssidPlace + i) else 0) = config.ssid := by
    funext i
    split
    · exact ssid i ‹_›
    · exact (tidy.ssid i (Nat.not_lt.mp ‹_›)).symm
  have pwdOf : (fun i => if i < maxPwdLength then memory (pwdPlace + i) else 0) = config.pwd := by
    funext i
    split
    · exact pwd i ‹_›
    · exact (tidy.pwd i (Nat.not_lt.mp ‹_›)).symm
  rw [WlanConfig.ofMemory, sec, secOf, Option.map_some, mode, modeOf, channel, ssidOf, ssidLen,
    pwdOf, pwdLen]

end Image

/-- The bytes of a configuration that are stored are there. -/
theorem load_image (memory : Cells UInt8) (config : WlanConfig)
    : (memory.store 0 config.image).load 0 wlanConfigSize = config.image := by
  rw [← config.image_length]
  exact memory.load_store config.image

-----------------------------------------------------------------------------------------
-- Copies
-----------------------------------------------------------------------------------------

/-- A configuration after `mem_copy` of bytes to a place in or behind its SSID. Bytes for which an
array has no room go to the fields behind it; what comes behind the last field is left out.
-/
def WlanConfig.store (config : WlanConfig) (place : Nat) (bytes : List UInt8) : WlanConfig :=
  let memory := (Cells.store (fun _ => 0) 0 config.image).store place bytes
  { config with
    ssid := fun i => if i < maxSsidLength then memory (ssidPlace + i) else config.ssid i
    ssidLen := memory (ssidPlace + maxSsidLength)
    pwd := fun i => if i < maxPwdLength then memory (pwdPlace + i) else config.pwd i
    pwdLen := memory (pwdPlace + maxPwdLength) }

section Copies

variable (config : WlanConfig) (place : Nat) (bytes : List UInt8)

/-- A cell of the arrays or behind one holds the byte that was copied there, or what it held. -/
theorem store_places
    : (∀ i < maxSsidLength,
        (config.store place bytes).ssid i
        = if place ≤ ssidPlace + i then bytes[ssidPlace + i - place]?.getD (config.ssid i)
          else config.ssid i)
      ∧ (config.store place bytes).ssidLen
        = (if place ≤ ssidPlace + maxSsidLength then
            bytes[ssidPlace + maxSsidLength - place]?.getD config.ssidLen
          else config.ssidLen)
      ∧ (∀ i < maxPwdLength,
        (config.store place bytes).pwd i
        = if place ≤ pwdPlace + i then bytes[pwdPlace + i - place]?.getD (config.pwd i)
          else config.pwd i)
      ∧ (config.store place bytes).pwdLen
        = (if place ≤ pwdPlace + maxPwdLength then
            bytes[pwdPlace + maxPwdLength - place]?.getD config.pwdLen
          else config.pwdLen) := by
  obtain ⟨-, -, -, ssid, ssidLen, pwd, pwdLen⟩ := image_places (load_image (fun _ => 0) config)
  refine ⟨fun i inside => ?_, ?_, fun i inside => ?_, ?_⟩
  · rw [← ssid i inside]
    exact if_pos inside
  · rw [← ssidLen]
    rfl
  · rw [← pwd i inside]
    exact if_pos inside
  · rw [← pwdLen]
    rfl

/-- What stands behind the arrays is not stored to. -/
theorem store_behind
    : (∀ i, maxSsidLength ≤ i → (config.store place bytes).ssid i = config.ssid i)
      ∧ ∀ i, maxPwdLength ≤ i → (config.store place bytes).pwd i = config.pwd i :=
  ⟨fun _ behind => if_neg (Nat.not_lt.mpr behind), fun _ behind => if_neg (Nat.not_lt.mpr behind)⟩

variable {bytes}

/-- The copy ends before the byte. -/
theorem copied_past {n : Nat} (past : bytes.length ≤ n) (byte : UInt8)
    : bytes[n]?.getD byte = byte := by
  rw [List.getElem?_eq_none past, Option.getD_none]

/-- A string for which the SSID has room is stored there and nowhere else. -/
theorem store_ssidPlace (fits : bytes.length ≤ maxSsidLength)
    : config.store ssidPlace bytes = { config with ssid := config.ssid.store 0 bytes } := by
  obtain ⟨ssid, ssidLen, pwd, pwdLen⟩ := store_places config ssidPlace bytes
  obtain ⟨ssidBehind, pwdBehind⟩ := store_behind config ssidPlace bytes
  have room : pwdPlace = ssidPlace + maxSsidLength + 1 := rfl
  have ssidOf : (config.store ssidPlace bytes).ssid = config.ssid.store 0 bytes := by
    funext i
    by_cases inside : i < maxSsidLength
    · rw [ssid i inside, if_pos (Nat.le_add_right _ _), Nat.add_sub_cancel_left]
      rfl
    · rw [ssidBehind i (Nat.not_lt.mp inside), Cells.store_outside _ (Or.inr (by omega))]
  have ssidLenOf : (config.store ssidPlace bytes).ssidLen = config.ssidLen := by
    rw [ssidLen, copied_past (by omega), ite_self]
  have pwdOf : (config.store ssidPlace bytes).pwd = config.pwd := by
    funext i
    by_cases inside : i < maxPwdLength
    · rw [pwd i inside, copied_past (by omega), ite_self]
    · exact pwdBehind i (Nat.not_lt.mp inside)
  have pwdLenOf : (config.store ssidPlace bytes).pwdLen = config.pwdLen := by
    rw [pwdLen, copied_past (by omega), ite_self]
  exact WlanConfig.ext rfl rfl rfl ssidOf ssidLenOf pwdOf pwdLenOf

/-- A string for which the password has room is stored there and nowhere else. -/
theorem store_pwdPlace (fits : bytes.length ≤ maxPwdLength)
    : config.store pwdPlace bytes = { config with pwd := config.pwd.store 0 bytes } := by
  obtain ⟨ssid, ssidLen, pwd, pwdLen⟩ := store_places config pwdPlace bytes
  obtain ⟨ssidBehind, pwdBehind⟩ := store_behind config pwdPlace bytes
  have room : pwdPlace = ssidPlace + maxSsidLength + 1 := rfl
  have ssidOf : (config.store pwdPlace bytes).ssid = config.ssid := by
    funext i
    by_cases inside : i < maxSsidLength
    · rw [ssid i inside, if_neg (by omega)]
    · exact ssidBehind i (Nat.not_lt.mp inside)
  have ssidLenOf : (config.store pwdPlace bytes).ssidLen = config.ssidLen := by
    rw [ssidLen, if_neg (by omega)]
  have pwdOf : (config.store pwdPlace bytes).pwd = config.pwd.store 0 bytes := by
    funext i
    by_cases inside : i < maxPwdLength
    · rw [pwd i inside, if_pos (Nat.le_add_right _ _), Nat.add_sub_cancel_left]
      rfl
    · rw [pwdBehind i (Nat.not_lt.mp inside), Cells.store_outside _ (Or.inr (by omega))]
  have pwdLenOf : (config.store pwdPlace bytes).pwdLen = config.pwdLen := by
    rw [pwdLen, copied_past (by omega), ite_self]
  exact WlanConfig.ext rfl rfl rfl ssidOf ssidLenOf pwdOf pwdLenOf

end Copies

end BigBlackHardware
