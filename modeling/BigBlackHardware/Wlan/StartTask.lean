import BigBlackHardware.Codec.Protocol
import BigBlackHardware.Library.Cells
import BigBlackHardware.Library.Exec

/-! The task of `wlan_config.c` that brings the WLAN up. What the SimpleLink calls return and what
`g_ulStatus` shows are inputs of the model.
-/

namespace BigBlackHardware

open Library

/-- `WlanMode`. -/
inductive WlanMode where
  | wlanConfigAp
  | wlanConfigSta
  deriving DecidableEq

/-- `WlanSecurityType`. -/
inductive WlanSecurityType where
  | wlanConfigOpen
  | wlanConfigWep
  | wlanConfigWpaWpa2
  deriving DecidableEq

/-- `WlanConfig`. -/
@[ext] structure WlanConfig where
  mode : WlanMode
  sec : WlanSecurityType
  channel : UInt8
  ssid : Cells UInt8
  ssidLen : UInt8
  pwd : Cells UInt8
  pwdLen : UInt8

/-- A `WlanConfig` after `mem_set` to 0. -/
def WlanConfig.zeroed : WlanConfig where
  mode := .wlanConfigAp
  sec := .wlanConfigOpen
  channel := 0
  ssid := fun _ => 0
  ssidLen := 0
  pwd := fun _ => 0
  pwdLen := 0

/-- `WlanStatus`. -/
inductive WlanStatus where
  | wlanReady
  | wlanConnecting
  | wlanConnected
  deriving DecidableEq

/-- `sl_sec_types`: the types SimpleLink knows for open, WEP and WPA/WPA2 networks. -/
def slSecTypes : WlanSecurityType → UInt8
  | .wlanConfigOpen => 0
  | .wlanConfigWep => 1
  | .wlanConfigWpaWpa2 => 2

def roleSta : Int := 0
def roleAp : Int := 2

/-- The settings of an access point. -/
inductive WlanApOpt where
  | ssid
  | securityType
  | password
  | channel
  deriving DecidableEq

/-- `SlSecParams_t`. -/
structure SlSecParams where
  type : UInt8
  key : List UInt8
  deriving DecidableEq

/-- A call of the SimpleLink driver. -/
inductive SlCall where
  | wlanSetMode (role : Int)
  | wlanSet (opt : WlanApOpt) (value : List UInt8)
  | start
  | stop
  | wlanConnect (ssid : List UInt8) (secParams : Option SlSecParams)
  | wlanDisconnect
  deriving DecidableEq

/-- What a check of `g_ulStatus` shows of the link. -/
structure LinkCheck where
  isConnected : Bool
  isIpAcquired : Bool

/-- The WLAN as a start task finds it. -/
structure Wlan where
  /-- What the SimpleLink calls return, in the order in which they are made. -/
  results : Nat → Int
  /-- What the checks of the link show, in order. -/
  checks : Nat → LinkCheck
  /-- The SimpleLink calls made, with their results. -/
  calls : List (SlCall × Int)
  wlStatus : WlanStatus
  /-- The static variable `current_config`, which is never read. -/
  currentConfig : WlanConfig

abbrev WlanM := EStateM Empty Wlan

/-- What the next SimpleLink call returns. -/
def Wlan.nextResult (wlan : Wlan) : Int := wlan.results wlan.calls.length

/-- The WLAN after a SimpleLink call. -/
def Wlan.called (wlan : Wlan) (call : SlCall) : Wlan :=
  { wlan with calls := wlan.calls ++ [(call, wlan.nextResult)] }

/-- A call of the SimpleLink driver. -/
def slCall (call : SlCall) : WlanM Int := do
  let wlan ← get
  set (wlan.called call)
  return wlan.nextResult

/-- A call with `OSI_ASSERT_ON_ERROR` behind it, which returns an error as the type of the function
it stands in.
-/
def slCallAsserted {α : Type} (call : SlCall) (errorCode : Int → α) (rest : WlanM α)
    : WlanM α := do
  let status ← slCall call
  if status < 0 then return errorCode status else rest

/-- `configure_ap`, which returns a `bool`. -/
def configureAp (config : WlanConfig) : WlanM Bool :=
  slCallAsserted (.wlanSetMode roleAp) (· != 0) <|
  slCallAsserted (.wlanSet .ssid (config.ssid.load 0 config.ssidLen.toNat)) (· != 0) <|
  slCallAsserted (.wlanSet .securityType [slSecTypes config.sec]) (· != 0) <|
  slCallAsserted (.wlanSet .password (config.pwd.load 0 config.pwdLen.toNat)) (· != 0) <|
  slCallAsserted (.wlanSet .channel [config.channel]) (· != 0) do
    let role ← slCall .start
    return role == roleAp

def maxConnectingTime : Nat := 10

/-- The loop of `configure_sta` that waits for the link, with `left` more checks before its timeout.
-/
def connectLoop : Nat → WlanM Int
  | 0 => do
      let _ ← slCall .wlanDisconnect
      let _ ← slCall .stop
      return failure
  | left + 1 => do
      let check := (← get).checks (maxConnectingTime - (left + 1))
      if !check.isConnected || !check.isIpAcquired then connectLoop left else return success

/-- `configure_sta`. -/
def configureSta (config : WlanConfig) : WlanM Int :=
  slCallAsserted (.wlanSetMode roleSta) id <|
  slCallAsserted .stop id do
    let _ ← slCall .start
    let secParams :=
      if config.sec = .wlanConfigOpen then none
      else some ⟨slSecTypes config.sec, config.pwd.load 0 config.pwdLen.toNat⟩
    slCallAsserted (.wlanConnect (config.ssid.load 0 config.ssidLen.toNat) secParams) id
      (connectLoop maxConnectingTime)

/-- The configuration in the mode that was asked for. The `bool` of `configure_ap` becomes 0 or 1.
-/
def configureWlan (config : WlanConfig) : WlanM Int :=
  match config.mode with
  | .wlanConfigAp => do
      let configured ← configureAp config
      return if configured then 1 else 0
  | .wlanConfigSta => configureSta config

def setWlStatus (status : WlanStatus) : WlanM Unit :=
  modify fun wlan => { wlan with wlStatus := status }

/-- The WLAN with the first byte of a configuration, its mode, in `current_config`. -/
def Wlan.copied (wlan : Wlan) (config : WlanConfig) : Wlan :=
  { wlan with currentConfig := { wlan.currentConfig with mode := config.mode } }

/-- `wlan_start_task`, up to `start_exit`. -/
def wlanStartTask (config : WlanConfig) : WlanM Unit := do
  -- the `mem_copy` is of `sizeof` of what a `void` pointer points to: one byte
  modify fun wlan => wlan.copied config
  let _ ← slCall .stop
  let status ← slCall .start
  if status < 0 then setWlStatus .wlanReady
  else
    let status ← configureWlan config
    if status < 0 then setWlStatus .wlanReady else setWlStatus .wlanConnected

-----------------------------------------------------------------------------------------
-- Calls
-----------------------------------------------------------------------------------------

theorem slCall_eq (call : SlCall) (wlan : Wlan)
    : slCall call wlan = .ok wlan.nextResult (wlan.called call) := rfl

/-- An asserted call that fails returns its error. -/
theorem slCallAsserted_fails {α : Type} {call : SlCall} {errorCode : Int → α} {rest : WlanM α}
    {wlan : Wlan} (negative : wlan.nextResult < 0)
    : slCallAsserted call errorCode rest wlan
      = .ok (errorCode wlan.nextResult) (wlan.called call) := by
  rw [slCallAsserted, bind_ok (slCall_eq call wlan), if_pos negative]
  rfl

/-- Behind an asserted call that succeeds comes the rest. -/
theorem slCallAsserted_passes {α : Type} {call : SlCall} {errorCode : Int → α} {rest : WlanM α}
    {wlan : Wlan} (passed : 0 ≤ wlan.nextResult)
    : slCallAsserted call errorCode rest wlan = rest (wlan.called call) := by
  rw [slCallAsserted, bind_ok (slCall_eq call wlan), if_neg (Int.not_lt.mpr passed)]

/-- The WLAN after several SimpleLink calls. -/
def Wlan.calledAll (wlan : Wlan) (calls : List SlCall) : Wlan := calls.foldl Wlan.called wlan

theorem Wlan.calledAll_results (wlan : Wlan) (calls : List SlCall)
    : (wlan.calledAll calls).results = wlan.results := by
  induction calls generalizing wlan with
  | nil => rfl
  | cons call calls ih => exact ih (wlan.called call)

theorem Wlan.calledAll_length (wlan : Wlan) (calls : List SlCall)
    : (wlan.calledAll calls).calls.length = wlan.calls.length + calls.length := by
  induction calls generalizing wlan with
  | nil => rfl
  | cons call calls ih =>
      rw [Wlan.calledAll, List.foldl_cons]
      refine (ih (wlan.called call)).trans ?_
      rw [Wlan.called, List.length_append, List.length_singleton, List.length_cons]
      omega

/-- What the call behind several others returns. -/
theorem Wlan.calledAll_nextResult (wlan : Wlan) (calls : List SlCall)
    : (wlan.calledAll calls).nextResult = wlan.results (wlan.calls.length + calls.length) := by
  rw [Wlan.nextResult, Wlan.calledAll_results, Wlan.calledAll_length]

/-- A call among several finds the result at its place. -/
theorem Wlan.calledAll_mem (wlan : Wlan) {calls : List SlCall} {k : Nat} {call : SlCall}
    (found : calls[k]? = some call)
    : (call, wlan.results (wlan.calls.length + k))
      ∈ (wlan.calledAll (calls.take (k + 1))).calls := by
  obtain ⟨inside, rfl⟩ := List.getElem?_eq_some_iff.mp found
  have last
      : wlan.calledAll (calls.take (k + 1)) = (wlan.calledAll (calls.take k)).called calls[k] := by
    rw [Wlan.calledAll, List.take_succ_eq_append_getElem inside, List.foldl_append]
    rfl
  have place
      : (wlan.calledAll (calls.take k)).nextResult = wlan.results (wlan.calls.length + k) := by
    rw [Wlan.calledAll_nextResult, List.length_take, Nat.min_eq_left (Nat.le_of_lt inside)]
  rw [last, Wlan.called, place]
  exact List.mem_append_right _ (List.mem_singleton_self _)

/-- Asserted calls one after the other: the first that fails ends them, or they all succeed and the
rest follows. By induction on the calls.
-/
theorem assertedCalls_cases {α : Type} (errorCode : Int → α) (rest : WlanM α)
    (calls : List SlCall) (wlan : Wlan)
    : let run := calls.foldr (fun call rest => slCallAsserted call errorCode rest) rest wlan
      (∃ k < calls.length,
        wlan.results (wlan.calls.length + k) < 0
        ∧ run = .ok (errorCode (wlan.results (wlan.calls.length + k)))
            (wlan.calledAll (calls.take (k + 1))))
      ∨ (∀ k < calls.length, 0 ≤ wlan.results (wlan.calls.length + k))
        ∧ run = rest (wlan.calledAll calls) := by
  induction calls generalizing wlan with
  | nil => exact Or.inr ⟨fun k below => absurd below (Nat.not_lt_zero k), rfl⟩
  | cons call calls ih =>
      dsimp only
      rw [List.foldr_cons]
      by_cases passed : 0 ≤ wlan.nextResult
      · rw [slCallAsserted_passes passed]
        have length : (wlan.called call).calls.length = wlan.calls.length + 1 := by
          rw [Wlan.called, List.length_append, List.length_singleton]
        have shift (k : Nat)
            : (wlan.called call).results ((wlan.called call).calls.length + k)
              = wlan.results (wlan.calls.length + (k + 1)) := by
          rw [length, Nat.add_assoc, Nat.add_comm 1 k]
          rfl
        rcases ih (wlan.called call) with ⟨k, inside, negative, run⟩ | ⟨all, run⟩
        · rw [shift k] at negative run
          exact Or.inl ⟨k + 1, Nat.succ_lt_succ inside, negative, run⟩
        · refine Or.inr ⟨fun k below => ?_, run⟩
          cases k with
          | zero => exact passed
          | succ k =>
              rw [← shift k]
              exact all k (Nat.lt_of_succ_lt_succ below)
      · refine Or.inl ⟨0, Nat.succ_pos _, Int.not_le.mp passed, ?_⟩
        rw [slCallAsserted_fails (Int.not_le.mp passed)]
        rfl

/-- A link that is connected and has an IP. -/
def LinkCheck.up (check : LinkCheck) : Prop :=
  check.isConnected = true ∧ check.isIpAcquired = true

/-- The loop that waits for the link ends with success as soon as a check shows it up, and with its
timeout if none of the remaining checks does.
-/
theorem connectLoop_cases (wlan : Wlan) {left : Nat} (bounded : left ≤ maxConnectingTime)
    : (∃ k, maxConnectingTime - left ≤ k ∧ k < maxConnectingTime ∧ (wlan.checks k).up)
        ∧ connectLoop left wlan = .ok success wlan
      ∨ (∀ k, maxConnectingTime - left ≤ k → k < maxConnectingTime → ¬ (wlan.checks k).up)
        ∧ connectLoop left wlan
          = .ok failure (wlan.calledAll [.wlanDisconnect, .stop]) := by
  induction left with
  | zero => exact Or.inr ⟨fun k low high => by omega, rfl⟩
  | succ left ih =>
      rw [connectLoop, bind_get]
      split
      · rename_i down
        have notUp : ¬ (wlan.checks (maxConnectingTime - (left + 1))).up := by
          rintro ⟨connected, acquired⟩
          simp [connected, acquired] at down
        rcases ih (by omega) with ⟨⟨k, low, high, up⟩, run⟩ | ⟨none, run⟩
        · exact Or.inl ⟨⟨k, by omega, high, up⟩, run⟩
        · refine Or.inr ⟨fun k low high => ?_, run⟩
          rcases Nat.eq_or_lt_of_le low with here | later
          · rw [← here]
            exact notUp
          · exact none k (by omega) high
      · rename_i up
        refine Or.inl ⟨⟨maxConnectingTime - (left + 1), Nat.le_refl _, by omega, ?_⟩, rfl⟩
        simpa [LinkCheck.up] using up

end BigBlackHardware
