import BigBlackHardware.Boot.Provisioning

/-! The first header that the configurator accepts decides for all frames up to the next reset: it
is the one that every updater task finds.
-/

namespace BigBlackHardware

open Library

section Header

variable {wired : Wired}

/-- Behind an accepted header the handler parses no other one. -/
theorem uartIrqHdnl_header (body : wired.state = .stateRecvBody)
    : (uartIrqHdnl wired).cfgPacket.header = wired.cfgPacket.header := by
  rw [uartIrqHdnl]
  simp only [body]
  split <;> rfl

theorem Wired.byte_header (body : wired.state = .stateRecvBody) (byte : UInt8)
    : (wired.byte byte).cfgPacket.header = wired.cfgPacket.header := by
  rw [Wired.byte]
  split
  · rfl
  · rename_i transfer armed
    split
    · rfl
    · have stored : (wired.stored transfer byte).state = .stateRecvBody := body
      exact uartIrqHdnl_header stored

end Header

/-- The configurator has accepted a header, and it is one of another type than a network
configuration.
-/
structure Boot.LockedOut (header : PacketHeader) (boot : Boot) : Prop where
  stage : boot.stage.listens = true
  body : boot.wired.state = .stateRecvBody
  accepted : boot.wired.cfgPacket.header = header
  other : ¬ boot.wired.cfgPacket.IsNetwork

/-- The device is not reset in a turn from outside. -/
def BootTurn.runs : BootTurn → Bool
  | .reset _ => false
  | _ => true

section LockedOut

variable {header : PacketHeader} {boot : Boot}

/-- An updater task that finds another type saves nothing and does not restart the device. -/
theorem Boot.LockedOut.update (locked : boot.LockedOut header) (id : Nat) (fs : FsWriting)
    (next : Wired)
    : (boot.update id fs next).LockedOut header ∧ (boot.update id fs next).file = boot.file := by
  rw [Boot.update]
  split
  · dsimp only
    rw [updaterTask_other _ locked.other]
    exact ⟨⟨locked.stage, locked.body, locked.accepted, locked.other⟩, rfl⟩
  · exact ⟨locked, rfl⟩

theorem Boot.LockedOut.turn (locked : boot.LockedOut header) {turn : BootTurn}
    (runs : turn.runs = true)
    : (boot.turn turn).LockedOut header ∧ (boot.turn turn).file = boot.file := by
  cases turn with
  | initTask result fs =>
      obtain ⟨file, -, wired⟩ := boot.vInitializationTask_frame result fs
      have same := wired fun start => by
        have listens := locked.stage
        rw [start] at listens
        cases listens
      refine ⟨⟨Boot.vInitializationTask_listens locked.stage result fs, ?_, ?_, ?_⟩, file⟩
      · exact same.symm ▸ locked.body
      · exact same.symm ▸ locked.accepted
      · exact same.symm ▸ locked.other
  | wlanUnlock id results checks =>
      exact ⟨⟨locked.stage, locked.body, locked.accepted, locked.other⟩, rfl⟩
  | wlanDelete id => exact ⟨⟨locked.stage, locked.body, locked.accepted, locked.other⟩, rfl⟩
  | receive byte =>
      have same := Wired.byte_header locked.body byte
      refine ⟨⟨locked.stage, Wired.byte_stays locked.body byte, same.trans locked.accepted, ?_⟩,
        rfl⟩
      change ¬ (boot.wired.byte byte).cfgPacket.IsNetwork
      rw [Packet.IsNetwork, same]
      exact locked.other
  | update id fs next => exact locked.update id fs next
  | reset next => cases runs

/-- The device stays so with its file, whatever else happens. -/
theorem Boot.LockedOut.instants (locked : boot.LockedOut header) {turns : List BootTurn}
    (runs : ∀ turn ∈ turns, turn.runs = true)
    : ∀ instant ∈ Library.instants Boot.turn turns boot,
        instant.LockedOut header ∧ instant.file = boot.file := by
  have allowed : Obeys Boot.turn (fun _ turn => turn.runs = true) turns boot :=
    obeys_of_forall fun _ turn member => runs turn member
  refine allowed.instants
    (P := fun instant => instant.LockedOut header ∧ instant.file = boot.file)
    (fun instant turn before running => ?_) ⟨locked, rfl⟩
  obtain ⟨after, same⟩ := before.1.turn running
  exact ⟨after, same.trans before.2⟩

end LockedOut

/-- The header of a frame of another type arrives first, among other turns. From then on the device
takes no network configuration, whatever frames arrive and whatever updater tasks run: until it is
reset from outside its file stays, the header stays, and it does not listen for one again.
-/
theorem boot_lockedOut (frame : Frame)
    (other : frame.fields.type ≠ PacketType.networkConfigurationPacket.val) {boot : Boot}
    {wired : Wired} (stage : boot.stage.listens = true)
    (waiting : boot.wired = wiredConfStart wired) (none : boot.updaters = [])
    (turns : List BootTurn) (quiet : ∀ turn ∈ turns, turn.quiet = true)
    (bytes : turns.filterMap BootTurn.received = frame.header) (later : List BootTurn)
    (runs : ∀ turn ∈ later, turn.runs = true)
    : ∀ instant ∈ instants Boot.turn later (afterTurns Boot.turn turns boot),
        instant.LockedOut frame.fields ∧ instant.file = boot.file := by
  have start : boot.Listening := by
    refine ⟨stage, ?_⟩
    rw [none, waiting]
    rfl
  obtain ⟨listening, fed, file⟩ := start.afterTurns turns quiet
  rw [bytes, waiting, Wired.feed_header] at fed
  have locked : (afterTurns Boot.turn turns boot).LockedOut frame.fields := by
    refine ⟨listening.stage, ?_, ?_, ?_⟩
    · rw [fed]
      rfl
    · rw [fed]
      rfl
    · rw [fed]
      exact other
  intro instant present
  obtain ⟨still, same⟩ := locked.instants runs instant present
  exact ⟨still, same.trans file⟩

/-- The header of a reset packet. -/
def resetFrame : Frame where
  header := [plStartFrameByte, 0, plReset, 0, 1]
  body := [1]
  headerLength := rfl
  accepted := by decide
  bodyLength := rfl
  small := by decide

/-- Its body, a frame with a network configuration behind it, and the updater tasks for both. -/
def openNetworkLater : List BootTurn :=
  (resetFrame.body ++ openNetwork.bytes).map .receive
    ++ [.update 1 .working blankWired, .update 2 .working blankWired]

theorem boot_lockedOut_openNetwork
    : let headed := afterTurns Boot.turn (resetFrame.header.map .receive) listeningBoot
      let instant := afterTurns Boot.turn openNetworkLater headed
      instant.LockedOut resetFrame.fields ∧ instant.file = listeningBoot.file := by
  have other : resetFrame.fields.type ≠ PacketType.networkConfigurationPacket.val := by decide
  exact boot_lockedOut resetFrame other (by decide) rfl rfl (resetFrame.header.map .receive)
    (by decide) (by decide) openNetworkLater (by decide) _ (afterTurns_mem_instants _ _)

end BigBlackHardware
