import BigBlackHardware.Wlan.ConfigLayout

/-! The network configuration that the wired configurator takes from a packet: what it makes of a
body as `protocol.h` lays it out, and what it reads and stores for any body.
-/

namespace BigBlackHardware

open Library

/-- The last assignments of `get_wlan_config_from_packet`, for a known mode. -/
def WlanConfig.configured (config : WlanConfig) (mode : WlanMode) (pwdLen channel : UInt8)
    : WlanConfig :=
  { config with
    mode := mode
    sec := if pwdLen ≠ 0 then .wlanConfigWpaWpa2 else .wlanConfigOpen
    channel := channel }

/-- `get_wlan_config_from_packet`: the status and the configuration. The strings are copied before
the mode is looked at, each behind its length, which it overwrites if it is too long; the offset of
the password is 8 bits wide. The byte `phy` is read and not used.
-/
def getWlanConfigFromPacket (packet : Cells UInt8) (config : WlanConfig) : Int × WlanConfig :=
  let channel := packet plNetworkChannelOffset
  let mode := packet plNetworkModeOffset
  let ssidLen := packet plNetworkSsidLenOffset
  let pwdLen := packet (plNetworkSsidLenOffset + ssidLen.toNat + 1)
  let pwdOff := (plNetworkSsidLenOffset + ssidLen.toNat + 2).toUInt8
  let ssid := packet.load (plNetworkSsidLenOffset + 1) ssidLen.toNat
  let config := { config with ssidLen := ssidLen }.store ssidPlace ssid
  let pwd := packet.load pwdOff.toNat pwdLen.toNat
  let config := { config with pwdLen := pwdLen }.store pwdPlace pwd
  if mode = plNetworkModeAp then (success, config.configured .wlanConfigAp pwdLen channel)
  else if mode = plNetworkModeSta then
    (success, config.configured .wlanConfigSta pwdLen channel)
  else (failure, config)

-----------------------------------------------------------------------------------------
-- Bodies as protocol.h lays them out
-----------------------------------------------------------------------------------------

/-- The byte of a mode. -/
def WlanMode.wireByte : WlanMode → UInt8
  | .wlanConfigAp => plNetworkModeAp
  | .wlanConfigSta => plNetworkModeSta

/-- The body of a network configuration packet. -/
def networkBody (mode : WlanMode) (phy channel : UInt8) (ssid pwd : List UInt8) : List UInt8 :=
  mode.wireByte :: phy :: channel :: UInt8.ofNat ssid.length
    :: (ssid ++ UInt8.ofNat pwd.length :: pwd)

/-- An array that holds a string followed by zeros. -/
def zeroPadded (text : List UInt8) : Cells UInt8 := fun i => text[i]?.getD 0

/-- A string copied to a zeroed array is followed by zeros. -/
theorem store_zeroed (text : List UInt8)
    : Cells.store (fun _ => 0) 0 text = zeroPadded text := by
  funext i
  simp [Cells.store, zeroPadded]

/-- A string that fits in an array leaves nothing behind it. -/
theorem zeroPadded_behind {text : List UInt8} {limit : Nat} (fits : text.length ≤ limit) {i : Nat}
    (behind : limit ≤ i) : zeroPadded text i = 0 := by
  rw [zeroPadded, List.getElem?_eq_none (fits.trans behind)]
  rfl

section Body

variable {mode : WlanMode} {phy channel : UInt8} {ssid pwd : List UInt8} {packet : Cells UInt8}
  (body
    : packet.load 0 (networkBody mode phy channel ssid pwd).length
      = networkBody mode phy channel ssid pwd)

include body

/-- The bytes in front of the strings. -/
theorem networkBody_front
    : packet plNetworkModeOffset = mode.wireByte
      ∧ packet plNetworkChannelOffset = channel
      ∧ packet plNetworkSsidLenOffset = UInt8.ofNat ssid.length := by
  have cells := (packet.load_eq_iff _).mp body
  refine ⟨cells 0 ?_, cells 2 ?_, cells 3 ?_⟩ <;> simp [networkBody]

/-- The strings and the length between them. -/
theorem networkBody_strings
    : packet.load (plNetworkSsidLenOffset + 1) ssid.length = ssid
      ∧ packet (plNetworkSsidLenOffset + ssid.length + 1) = UInt8.ofNat pwd.length
      ∧ packet.load (plNetworkSsidLenOffset + ssid.length + 2) pwd.length = pwd := by
  have split
      : networkBody mode phy channel ssid pwd
        = [mode.wireByte, phy, channel, UInt8.ofNat ssid.length]
          ++ (ssid ++ ([UInt8.ofNat pwd.length] ++ pwd)) := rfl
  rw [split] at body
  simp only [List.length_append, List.length_cons, List.length_nil, Nat.zero_add, Cells.load_add]
    at body
  obtain ⟨-, strings⟩ := List.append_inj body (by simp)
  obtain ⟨first, behind⟩ := List.append_inj strings (by simp)
  obtain ⟨length, second⟩ := List.append_inj behind (by simp)
  have place : plNetworkSsidLenOffset + ssid.length + 1 = 4 + ssid.length := by
    simp only [plNetworkSsidLenOffset]
    omega
  rw [Nat.add_succ _ 1, place]
  exact ⟨first, List.singleton_inj.mp length, second⟩

end Body

/-- A length of at most 255 as the byte that carries it. -/
theorem lengthByte_toNat {text : List UInt8} {limit : Nat} (short : text.length ≤ limit)
    (fits : limit ≤ 255) : (UInt8.ofNat text.length).toNat = text.length := by
  rw [UInt8.toNat_ofNat']
  omega

/-- Taking the configuration from a body gives back what the body was made of. Witness: the strings
stand where the lengths in front of them say, and no offset wraps.
-/
theorem getWlanConfigFromPacket_body (mode : WlanMode) (phy channel : UInt8)
    (ssid pwd : List UInt8) (ssidShort : ssid.length ≤ maxSsidLength)
    (pwdShort : pwd.length ≤ maxPwdLength) (packet : Cells UInt8)
    (body
      : packet.load 0 (networkBody mode phy channel ssid pwd).length
        = networkBody mode phy channel ssid pwd)
    : getWlanConfigFromPacket packet .zeroed
      = (success,
          { mode := mode
            sec := if pwd = [] then .wlanConfigOpen else .wlanConfigWpaWpa2
            channel := channel
            ssid := zeroPadded ssid
            ssidLen := UInt8.ofNat ssid.length
            pwd := zeroPadded pwd
            pwdLen := UInt8.ofNat pwd.length }) := by
  obtain ⟨modeByte, channelByte, ssidLen⟩ := networkBody_front body
  obtain ⟨ssidText, pwdLen, pwdText⟩ := networkBody_strings body
  have ssidLength := lengthByte_toNat ssidShort (by decide)
  have pwdLength := lengthByte_toNat pwdShort (by decide)
  have offset : (plNetworkSsidLenOffset + ssid.length + 2).toUInt8.toNat
      = plNetworkSsidLenOffset + ssid.length + 2 := by
    have limit : maxSsidLength = 32 := rfl
    have start : plNetworkSsidLenOffset = 3 := rfl
    rw [Nat.toUInt8, UInt8.toNat_ofNat']
    omega
  have sec
      : (if UInt8.ofNat pwd.length ≠ 0 then WlanSecurityType.wlanConfigWpaWpa2 else .wlanConfigOpen)
        = if pwd = [] then .wlanConfigOpen else .wlanConfigWpaWpa2 := by
    have empty : UInt8.ofNat pwd.length = 0 ↔ pwd = [] := by
      rw [← UInt8.toNat_inj, pwdLength, UInt8.toNat_zero, List.length_eq_zero_iff]
    simp only [ne_eq, empty, ite_not]
  simp only [getWlanConfigFromPacket, ssidLen, ssidLength, pwdLen, pwdLength, offset, ssidText,
    pwdText, modeByte, channelByte, store_ssidPlace _ ssidShort, store_pwdPlace _ pwdShort,
    WlanConfig.zeroed, store_zeroed]
  cases mode with
  | wlanConfigAp =>
      have ap : WlanMode.wlanConfigAp.wireByte = plNetworkModeAp := rfl
      rw [if_pos ap, WlanConfig.configured, sec]
  | wlanConfigSta =>
      have notAp : WlanMode.wlanConfigSta.wireByte ≠ plNetworkModeAp := by decide
      have sta : WlanMode.wlanConfigSta.wireByte = plNetworkModeSta := rfl
      rw [if_neg notAp, if_pos sta, WlanConfig.configured, sec]

/-- A body for an access point. -/
def accessPoint : List UInt8 := networkBody .wlanConfigAp 1 6 [0x61, 0x62] [0x63]

/-- It is taken with its strings, and with a secured network as the password is not empty. -/
theorem getWlanConfigFromPacket_accessPoint
    : getWlanConfigFromPacket (Cells.store (fun _ => 0xFF) 0 accessPoint) .zeroed
      = (success,
          { mode := .wlanConfigAp
            sec := if [0x63] = ([] : List UInt8) then .wlanConfigOpen else .wlanConfigWpaWpa2
            channel := 6
            ssid := zeroPadded [0x61, 0x62]
            ssidLen := UInt8.ofNat [0x61, 0x62].length
            pwd := zeroPadded [0x63]
            pwdLen := UInt8.ofNat [0x63].length }) :=
  getWlanConfigFromPacket_body .wlanConfigAp 1 6 [0x61, 0x62] [0x63] (by decide)
    (by decide) _ (Cells.load_store _ accessPoint)

-----------------------------------------------------------------------------------------
-- Any body
-----------------------------------------------------------------------------------------

/-- An access of `get_wlan_config_from_packet` to the body or to an array of the configuration. -/
inductive ConfigAccess where
  | read (index : Nat)
  | ssidStore (index : Nat)
  | pwdStore (index : Nat)
  deriving DecidableEq

/-- The length of the SSID, as the body gives it. -/
def bodySsidLen (packet : Cells UInt8) : Nat := (packet plNetworkSsidLenOffset).toNat

/-- The length of the password, as the body gives it behind the SSID. -/
def bodyPwdLen (packet : Cells UInt8) : Nat :=
  (packet (plNetworkSsidLenOffset + bodySsidLen packet + 1)).toNat

/-- `pwd_off`. -/
def pwdOff (packet : Cells UInt8) : UInt8 :=
  (plNetworkSsidLenOffset + bodySsidLen packet + 2).toUInt8

/-- The configuration when both strings are copied. -/
def WlanConfig.withStrings (config : WlanConfig) (packet : Cells UInt8) : WlanConfig :=
  let named :=
    { config with ssidLen := packet plNetworkSsidLenOffset }.store ssidPlace
      (packet.load (plNetworkSsidLenOffset + 1) (bodySsidLen packet))
  { named with pwdLen := packet (plNetworkSsidLenOffset + bodySsidLen packet + 1) }.store pwdPlace
    (packet.load (pwdOff packet).toNat (bodyPwdLen packet))

/-- `mem_copy` of so many bytes of the body to the start of an array. -/
def copyAccesses (store : Nat → ConfigAccess) (source count : Nat) : List ConfigAccess :=
  (List.range count).flatMap fun i => [.read (source + i), store i]

/-- What `get_wlan_config_from_packet` reads of the body and stores in the arrays. -/
def configAccesses (packet : Cells UInt8) : List ConfigAccess :=
  [ .read plNetworkChannelOffset, .read plNetworkModeOffset, .read plNetworkPhyOffset,
    .read plNetworkSsidLenOffset, .read (plNetworkSsidLenOffset + bodySsidLen packet + 1) ]
  ++ copyAccesses .ssidStore (plNetworkSsidLenOffset + 1) (bodySsidLen packet)
  ++ copyAccesses .pwdStore (pwdOff packet).toNat (bodyPwdLen packet)

/-- The body is read inside its size or refused, the stores stay inside the arrays, and what is
accepted has the lengths and the password of the body.
-/
structure SafelyTaken (packet : Cells UInt8) (size : Nat) (config : WlanConfig) : Prop where
  reads
    : (getWlanConfigFromPacket packet config).1 = failure
      ∨ ∀ i, .read i ∈ configAccesses packet → i < size
  ssidStores : ∀ i, .ssidStore i ∈ configAccesses packet → i < maxSsidLength
  pwdStores : ∀ i, .pwdStore i ∈ configAccesses packet → i < maxPwdLength
  accepted
    : (getWlanConfigFromPacket packet config).1 = success →
      let taken := (getWlanConfigFromPacket packet config).2
      taken.ssidLen.toNat ≤ maxSsidLength
      ∧ taken.pwdLen.toNat ≤ maxPwdLength
      ∧ taken.pwd.load 0 taken.pwdLen.toNat
        = packet.load (plNetworkSsidLenOffset + bodySsidLen packet + 2) taken.pwdLen.toNat

/-- The mode byte is one that `protocol.h` has. -/
def KnownMode (packet : Cells UInt8) : Prop :=
  packet plNetworkModeOffset = plNetworkModeAp ∨ packet plNetworkModeOffset = plNetworkModeSta

instance (packet : Cells UInt8) : Decidable (KnownMode packet) :=
  inferInstanceAs (Decidable (_ ∨ _))

/-- The strings fit in the arrays, and with a known mode the body is as long as they make it. -/
structure StringsFit (packet : Cells UInt8) (size : Nat) : Prop where
  ssid : bodySsidLen packet ≤ maxSsidLength
  pwd : bodyPwdLen packet ≤ maxPwdLength
  body
    : KnownMode packet →
      plNetworkSsidLenOffset + bodySsidLen packet + 2 + bodyPwdLen packet ≤ size

section Accesses

variable {packet : Cells UInt8}

theorem mem_copyAccesses {store : Nat → ConfigAccess} {source count : Nat}
    {access : ConfigAccess}
    : access ∈ copyAccesses store source count
      ↔ ∃ i < count, access = .read (source + i) ∨ access = store i := by
  simp [copyAccesses]

/-- The copies store in each array as many bytes as the body says. -/
theorem ssidStore_mem_iff {i : Nat}
    : .ssidStore i ∈ configAccesses packet ↔ i < bodySsidLen packet := by
  simp [configAccesses, mem_copyAccesses]

theorem pwdStore_mem_iff {i : Nat}
    : .pwdStore i ∈ configAccesses packet ↔ i < bodyPwdLen packet := by
  simp [configAccesses, mem_copyAccesses]

/-- If the SSID fits, the offset of the password does not wrap. -/
theorem pwdOff_toNat (fits : bodySsidLen packet ≤ maxSsidLength)
    : (pwdOff packet).toNat = plNetworkSsidLenOffset + bodySsidLen packet + 2 := by
  have limit : maxSsidLength = 32 := rfl
  have start : plNetworkSsidLenOffset = 3 := rfl
  rw [pwdOff, Nat.toUInt8, UInt8.toNat_ofNat']
  omega

/-- If the SSID fits, all reads are inside a body that reaches to the end of the password. -/
theorem reads_inside_iff {size : Nat} (fits : bodySsidLen packet ≤ maxSsidLength)
    : (∀ i, .read i ∈ configAccesses packet → i < size)
      ↔ plNetworkSsidLenOffset + bodySsidLen packet + 2 + bodyPwdLen packet ≤ size := by
  have channel : plNetworkChannelOffset = 2 := rfl
  have mode : plNetworkModeOffset = 0 := rfl
  have phy : plNetworkPhyOffset = 1 := rfl
  have start : plNetworkSsidLenOffset = 3 := rfl
  have offset := pwdOff_toNat fits
  constructor
  · intro inside
    by_cases empty : bodyPwdLen packet = 0
    · have last := inside (plNetworkSsidLenOffset + bodySsidLen packet + 1)
        (by simp [configAccesses])
      omega
    · have last := inside ((pwdOff packet).toNat + (bodyPwdLen packet - 1)) (by
        refine List.mem_append_right _ (mem_copyAccesses.mpr ⟨_, ?_, Or.inl rfl⟩)
        omega)
      omega
  · intro long i read
    simp only [configAccesses, List.mem_append, List.mem_cons, List.not_mem_nil, or_false,
      mem_copyAccesses, ConfigAccess.read.injEq, reduceCtorEq, offset] at read
    rcases read with (front | ⟨k, inside, rfl⟩) | ⟨k, inside, rfl⟩
    · omega
    · omega
    · omega

end Accesses

section Taking

variable (packet : Cells UInt8) (config : WlanConfig)

/-- A configuration is taken if its mode is known and else refused. -/
theorem getWlanConfigFromPacket_status
    : (getWlanConfigFromPacket packet config).1
      = if KnownMode packet then success else failure := by
  unfold getWlanConfigFromPacket
  dsimp only
  by_cases ap : packet plNetworkModeOffset = plNetworkModeAp
  · have known : KnownMode packet := Or.inl ap
    rw [if_pos ap, if_pos known]
  · rw [if_neg ap]
    by_cases sta : packet plNetworkModeOffset = plNetworkModeSta
    · have known : KnownMode packet := Or.inr sta
      rw [if_pos sta, if_pos known]
    · have unknown : ¬ KnownMode packet := not_or.mpr ⟨ap, sta⟩
      rw [if_neg sta, if_neg unknown]

/-- Whatever the mode, the strings are those that are copied. -/
theorem getWlanConfigFromPacket_strings
    : let taken := (getWlanConfigFromPacket packet config).2
      let copied := config.withStrings packet
      taken.ssid = copied.ssid ∧ taken.ssidLen = copied.ssidLen
      ∧ taken.pwd = copied.pwd ∧ taken.pwdLen = copied.pwdLen := by
  dsimp only
  unfold getWlanConfigFromPacket
  dsimp only
  split
  · exact ⟨rfl, rfl, rfl, rfl⟩
  · split
    · exact ⟨rfl, rfl, rfl, rfl⟩
    · exact ⟨rfl, rfl, rfl, rfl⟩

/-- Strings that fit stand in their arrays and their lengths beside them. -/
theorem withStrings_fit (ssidFits : bodySsidLen packet ≤ maxSsidLength)
    (pwdFits : bodyPwdLen packet ≤ maxPwdLength)
    : config.withStrings packet
      = { config with
          ssidLen := packet plNetworkSsidLenOffset
          ssid :=
            config.ssid.store 0 (packet.load (plNetworkSsidLenOffset + 1) (bodySsidLen packet))
          pwdLen := packet (plNetworkSsidLenOffset + bodySsidLen packet + 1)
          pwd := config.pwd.store 0 (packet.load (pwdOff packet).toNat (bodyPwdLen packet)) } := by
  rw [WlanConfig.withStrings, store_ssidPlace _ (by rwa [Cells.load_length]),
    store_pwdPlace _ (by rwa [Cells.load_length])]

/-- The arrays change only where a store is: one to the array, or one to the SSID that goes on
behind it and over the length.
-/
theorem getWlanConfigFromPacket_frame (i : Nat)
    : let taken := (getWlanConfigFromPacket packet config).2
      (.ssidStore i ∉ configAccesses packet → taken.ssid i = config.ssid i)
      ∧ (.pwdStore i ∉ configAccesses packet →
          .ssidStore (maxSsidLength + 1 + i) ∉ configAccesses packet →
          taken.pwd i = config.pwd i) := by
  obtain ⟨ssid, -, pwd, -⟩ := getWlanConfigFromPacket_strings packet config
  have room : pwdPlace = ssidPlace + maxSsidLength + 1 := rfl
  dsimp only
  rw [ssid, pwd, ssidStore_mem_iff, pwdStore_mem_iff, ssidStore_mem_iff]
  constructor
  · intro outside
    by_cases inside : i < maxSsidLength
    · rw [WlanConfig.withStrings, (store_places _ _ _).1 i inside, if_neg (by omega),
        (store_places _ _ _).1 i inside, copied_past (by rw [Cells.load_length]; omega), ite_self]
    · have behind := Nat.not_lt.mp inside
      rw [WlanConfig.withStrings, (store_behind _ _ _).1 i behind, (store_behind _ _ _).1 i behind]
  · intro outside before
    by_cases inside : i < maxPwdLength
    · rw [WlanConfig.withStrings, (store_places _ _ _).2.2.1 i inside,
        copied_past (by rw [Cells.load_length]; omega), ite_self,
        (store_places _ _ _).2.2.1 i inside, copied_past (by rw [Cells.load_length]; omega),
        ite_self]
    · have behind := Nat.not_lt.mp inside
      rw [WlanConfig.withStrings, (store_behind _ _ _).2 i behind, (store_behind _ _ _).2 i behind]

/-- The length of an SSID that does not fit is lost: its 33rd byte is stored there. -/
theorem getWlanConfigFromPacket_longSsid (long : maxSsidLength < bodySsidLen packet)
    : (getWlanConfigFromPacket packet config).2.ssidLen
      = packet (plNetworkSsidLenOffset + 1 + maxSsidLength) := by
  obtain ⟨-, ssidLen, -, -⟩ := getWlanConfigFromPacket_strings packet config
  have room : pwdPlace = ssidPlace + maxSsidLength + 1 := rfl
  rw [ssidLen, WlanConfig.withStrings, (store_places _ _ _).2.1, if_neg (by omega),
    (store_places _ _ _).2.1, if_pos (Nat.le_add_right _ _), Nat.add_sub_cancel_left,
    List.getElem?_eq_getElem (by rwa [Cells.load_length]), Cells.load_getElem, Option.getD_some]

/-- Bodies that agree wherever the first is read give the same configuration. -/
theorem getWlanConfigFromPacket_reads {other : Cells UInt8}
    (agree : ∀ i, .read i ∈ configAccesses packet → other i = packet i)
    : getWlanConfigFromPacket other config = getWlanConfigFromPacket packet config := by
  have front (i : Nat)
      (read
        : i ∈ [plNetworkChannelOffset, plNetworkModeOffset, plNetworkSsidLenOffset,
                plNetworkSsidLenOffset + bodySsidLen packet + 1])
      : other i = packet i := by
    refine agree i (List.mem_append_left _ (List.mem_append_left _ ?_))
    simp only [List.mem_cons, List.not_mem_nil, or_false] at read
    rcases read with rfl | rfl | rfl | rfl <;> simp
  have copied (store : Nat → ConfigAccess) (source count : Nat)
      (reads : ∀ access ∈ copyAccesses store source count, access ∈ configAccesses packet)
      : other.load source count = packet.load source count := by
    refine List.map_congr_left fun i inside => agree _ (reads _ ?_)
    exact mem_copyAccesses.mpr ⟨i, List.mem_range.mp inside, Or.inl rfl⟩
  have ssid := copied .ssidStore (plNetworkSsidLenOffset + 1) (bodySsidLen packet)
    fun _ here => List.mem_append_left _ (List.mem_append_right _ here)
  have pwd := copied .pwdStore (pwdOff packet).toNat (bodyPwdLen packet)
    fun _ here => List.mem_append_right _ here
  simp only [bodySsidLen, bodyPwdLen, pwdOff] at ssid pwd
  have ssidLen := front plNetworkSsidLenOffset (by simp)
  have pwdLen := front (plNetworkSsidLenOffset + bodySsidLen packet + 1) (by simp)
  rw [bodySsidLen] at pwdLen
  simp only [getWlanConfigFromPacket, front plNetworkChannelOffset (by simp),
    front plNetworkModeOffset (by simp), ssidLen, pwdLen, ssid, pwd]

/-- Any body is taken safely exactly if its strings fit: neither length is checked, against the
array or against the body.
-/
theorem getWlanConfigFromPacket_safe_iff (size : Nat)
    : SafelyTaken packet size config ↔ StringsFit packet size := by
  have status := getWlanConfigFromPacket_status packet config
  constructor
  · intro safe
    have ssidFits : bodySsidLen packet ≤ maxSsidLength := by
      by_contra long
      exact Nat.lt_irrefl _ (safe.ssidStores _ (ssidStore_mem_iff.mpr (Nat.not_le.mp long)))
    refine ⟨ssidFits, ?_, fun known => (reads_inside_iff ssidFits).mp ?_⟩
    · by_contra long
      exact Nat.lt_irrefl _ (safe.pwdStores _ (pwdStore_mem_iff.mpr (Nat.not_le.mp long)))
    · refine safe.reads.resolve_left fun refused => ?_
      rw [status, if_pos known] at refused
      exact absurd refused (by decide)
  · intro fits
    obtain ⟨-, ssidLen, pwd, pwdLen⟩ := getWlanConfigFromPacket_strings packet config
    rw [withStrings_fit packet config fits.ssid fits.pwd] at ssidLen pwd pwdLen
    refine ⟨?_, ?_, ?_, fun _ => ⟨?_, ?_, ?_⟩⟩
    · by_cases known : KnownMode packet
      · exact Or.inr ((reads_inside_iff fits.ssid).mpr (fits.body known))
      · exact Or.inl (status.trans (if_neg known))
    · intro i stored
      exact Nat.lt_of_lt_of_le (ssidStore_mem_iff.mp stored) fits.ssid
    · intro i stored
      exact Nat.lt_of_lt_of_le (pwdStore_mem_iff.mp stored) fits.pwd
    · rw [ssidLen]
      exact fits.ssid
    · rw [pwdLen]
      exact fits.pwd
    · have stored := config.pwd.load_store (packet.load (pwdOff packet).toNat (bodyPwdLen packet))
      rw [Cells.load_length, pwdOff_toNat fits.ssid] at stored
      rw [pwd, pwdLen, pwdOff_toNat fits.ssid]
      exact stored

end Taking

/-- A body that announces an SSID of 33 bytes. -/
def longSsid : Cells UInt8 :=
  Cells.store (fun _ => 0) 0
    (networkBody .wlanConfigSta 1 6 (List.replicate 33 0x61) [])

/-- Its last byte is stored behind the array. -/
theorem longSsid_unsafe : ¬ SafelyTaken longSsid 38 .zeroed := by
  intro safe
  have stored : .ssidStore 32 ∈ configAccesses longSsid := ssidStore_mem_iff.mpr (by decide)
  exact absurd (safe.ssidStores 32 stored) (by decide)

end BigBlackHardware
