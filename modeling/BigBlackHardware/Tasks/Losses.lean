import BigBlackHardware.Controller.Balance
import BigBlackHardware.Tasks.Trace

/-! Packets that the calls of the handling task lose: the drain loop takes one from the pool and
then overwrites the only pointer to it.
-/

namespace BigBlackHardware

open Library

/-- At least `k` packets of the station's device are missing. -/
abbrev Station.Missing (k : Nat) (station : Station) : Prop := station.device.desk.Missing k

/-- The device is untouched. -/
def SameDevice (before after : Station) : Prop := after.device = before.device

instance : Std.Refl SameDevice := ⟨fun _ => rfl⟩

instance : IsTrans Station SameDevice := ⟨fun _ _ _ one two => Eq.trans two one⟩

theorem sameDevice_frame : ConnectionFrame SameDevice where
  listened station := (listened_unlistened station).device
  setSocket _ _ _ := rfl
  setConn _ _ _ := rfl
  connectionsPool _ _ := rfl
  connectionsQueue _ _ := rfl
  forgotten _ _ := rfl
  taken _ _ := rfl

theorem listened_missing {k : Nat} {station : Station} (missing : station.Missing k)
    : station.listened.Missing k := by
  rw [Station.Missing, (listened_unlistened station).device]
  exact missing

/-- What a program that does not touch the device leaves missing. -/
theorem missing_of_sameDevice {α : Type} {m : StationM α} (same : Moves SameDevice m) (k : Nat)
    : Triple (Station.Missing k) m (fun _ => Station.Missing k) (fun _ _ => True) := by
  refine (same.preserves fun station after same missing => ?_).mono (fun _ h => h)
    (fun _ _ h => h) fun _ _ _ => True.intro
  have device : after.device = station.device := same
  rwa [Station.Missing, device]

theorem onDevice_missing {α : Type} {j k : Nat} {m : DeviceM α}
    (triple : Triple (Device.Missing k) m (fun _ => Device.Missing j) (fun _ _ => True))
    : Triple (Station.Missing k) (onDevice m) (fun _ => Station.Missing j) (fun _ _ => True) := by
  intro station missing
  have run := triple station.device missing
  cases result : m station.device with
  | ok a device =>
      rw [result] at run
      rw [onDevice, onPart_ok result]
      exact run
  | error e device =>
      rw [onDevice, onPart_error result]
      exact True.intro

/-- A packet taken from a pool that is not used up is missing. -/
theorem takePacket_missing {k : Nat} {station : Station} (missing : station.Missing k)
    : ∃ status after,
        takePacket station = .ok status after
        ∧ after.Missing (if station.device.desk.UsedUp then k else k + 1) := by
  have got := (listened_missing missing).got
  rw [(listened_unlistened station).device] at got
  refine ⟨_, _, rfl, ?_⟩
  change (station.listened.device.desk.packetGot).Missing _
  rw [(listened_unlistened station).device]
  exact got

theorem takePacket_keeps (k : Nat)
    : Triple (Station.Missing k) takePacket (fun _ => Station.Missing k) (fun _ _ => True) := by
  intro station missing
  obtain ⟨status, after, run, kept⟩ := takePacket_missing missing
  rw [run]
  refine kept.mono ?_
  split <;> omega

theorem awaitStatus_missing (k : Nat) (status : Option Int)
    : Triple (Station.Missing k) (awaitStatus status) (fun _ => Station.Missing k)
        (fun _ _ => True) := by
  cases status with
  | some status => exact .pure fun _ h => h
  | none => exact .throw fun _ _ => True.intro

theorem receiveInto_missing (k : Nat) (hndl : Int)
    : Triple (Station.Missing k) (receiveInto hndl) (fun _ => Station.Missing k)
        (fun _ _ => True) := by
  intro station missing
  have listened := listened_missing missing
  rw [receiveInto_eq]
  exact awaitStatus_missing k _ _ ⟨listened.allocated, listened.missing⟩

/-- Neither a handler nor a close makes up for a missing packet. -/
theorem actOn_missing (k : Nat) (info : Nat)
    : Triple (Station.Missing k) (actOn info) (fun _ => Station.Missing k) (fun _ _ => True) := by
  rw [actOn]
  refine .bind (P := Station.Missing k) (Q := fun _ => Station.Missing k) (fun _ h => h)
    fun station => .ite ?_ ?_
  · rw [closeFor]
    intro station missing
    exact missing_of_sameDevice (closeConn_moves sameDevice_frame info) k
      (station.note (.closing station.packet)) missing
  · intro station missing
    exact onDevice_missing (processPacket_missing k _ _)
      (station.note (.handed station.packet station.object.header.type)) missing

/-- A release while a packet is missing succeeds, and the next get will. -/
theorem putPacket_missing (k : Nat)
    : Triple (Station.Missing (k + 1)) putPacket
        (fun status station =>
          0 ≤ status ∧ station.Missing k ∧ 0 < station.device.desk.packetsPool.freeItems)
        (fun _ _ => True) := by
  intro station missing
  obtain ⟨after, released, kept, free⟩ :=
    (listened_missing missing).released station.listened.packet
  have run : putPacket station
      = .ok 0 { station.listened with
          device := { station.listened.device with desk := after } } := by
    rw [putPacket, switchTasks, bind_ok (m := modify Station.listened) rfl,
      bind_get]
    exact onPart_ok (onDesk_ok released)
  rw [run]
  exact ⟨Int.le_refl 0, kept, free⟩

/-- A message read from a queue is missing until it is released. -/
theorem readOutQueue_missing (k : Nat) (info : Nat)
    : Triple (Station.Missing k) (readOutQueue info)
        (fun status => Station.Missing (if status ≥ 0 then k + 1 else k)) (fun _ _ => True) := by
  intro station missing
  have read := (listened_missing missing).read (station.listened.conns info).outQueue
  let found := (sysQueueReadPtr station.listened.device.desk.messages
    (station.listened.conns info).outQueue).1
  have run : ∃ after,
      readOutQueue info station = .ok (if found.isSome then osiOk else osiOperationFailed) after
      ∧ after.Missing (if found.isSome then k + 1 else k) := ⟨_, rfl, read⟩
  obtain ⟨after, returns, kept⟩ := run
  rw [returns]
  by_cases some : found.isSome = true
  · simp only [some, ↓reduceIte, osiOk] at kept ⊢
    exact kept
  · simp only [some, Bool.false_eq_true, ↓reduceIte, osiOperationFailed] at kept ⊢
    exact kept

theorem sendOut_missing (k : Nat) (hndl : Int)
    : Triple (Station.Missing k) (sendOut hndl) (fun _ => Station.Missing k) (fun _ _ => True) := by
  intro station missing
  exact awaitStatus_missing k _ _ (listened_missing missing)

/-- A message is released when it has been sent. -/
theorem sendNext_missing (k : Nat) (hndl status : Int)
    : Triple (Station.Missing (if status ≥ 0 then k + 1 else k)) (sendNext hndl status)
        (fun _ => Station.Missing k) (fun _ _ => True) := by
  rw [sendNext]
  by_cases some : status ≥ 0
  · rw [if_pos some, if_pos some]
    refine .bind (sendOut_missing (k + 1) hndl) fun _ => ?_
    exact (putPacket_missing k).mono (fun _ h => h) (fun _ _ h => h.2.1) (fun _ _ h => h)
  · rw [if_neg some, if_neg some]
    exact .pure fun _ h => h

/-- The rounds of the drain loop do not make up for a missing packet, by induction on them. -/
theorem drainLoop_missing (k : Nat) (info : Nat) (hndl : Int) (fuel : Nat) (status : Int)
    : Triple (Station.Missing k) (drainLoop info hndl fuel status) (fun _ => Station.Missing k)
        (fun _ _ => True) := by
  induction fuel generalizing status with
  | zero => exact .pure fun _ h => h
  | succ fuel ih =>
      rw [drainLoop]
      refine .ite ?_ (.pure fun _ h => h)
      refine .bind (takePacket_keeps k) fun _ => ?_
      refine .bind (readOutQueue_missing k info) fun status => ?_
      exact .bind (sendNext_missing k hndl status) fun _ => ih status

/-- The next get succeeds. -/
structure Station.Stocked (station : Station) : Prop where
  missing : station.Missing 0
  room : ¬ station.device.desk.UsedUp

/-- The first round of the drain loop takes a packet and overwrites its pointer, so that afterwards
one is missing.
-/
theorem drainQueue_loses (info : Nat) (hndl : Int) {status : Int} (goes : 0 ≤ status)
    : Triple Station.Stocked (drainQueue info hndl status) (fun _ => Station.Missing 1)
        (fun _ _ => True) := by
  have rounds (fuel : Nat)
      : Triple Station.Stocked (drainLoop info hndl (fuel + 1) status)
          (fun _ => Station.Missing 1) (fun _ _ => True) := by
    have take : Triple Station.Stocked takePacket (fun _ => Station.Missing 1)
        (fun _ _ => True) := by
      intro station stocked
      obtain ⟨got, after, run, kept⟩ := takePacket_missing stocked.missing
      rw [if_neg stocked.room] at kept
      rw [run]
      exact kept
    rw [drainLoop, if_pos goes]
    refine .bind take fun _ => .bind (readOutQueue_missing 1 info) fun status => ?_
    exact .bind (sendNext_missing 1 hndl status) fun _ => drainLoop_missing 1 info hndl fuel status
  intro station stocked
  exact rounds _ station stocked

/-- No packet has been allocated yet. -/
structure Desk.Fresh (desk : Desk) : Prop where
  free : desk.packetsPool.freeItems = 0
  size : desk.packetsPool.poolSize = 0
  limit : desk.packetsPool.maxPoolSize = msgPoolSize
  nextBlock : desk.nextBlock = 0
  messages : desk.messages = []

theorem Desk.Fresh.missing {desk : Desk} (fresh : desk.Fresh) : desk.Missing 0 where
  allocated := fresh.size.trans fresh.nextBlock.symm
  missing := by rw [fresh.free, fresh.messages]; exact Nat.zero_le _

theorem Desk.Fresh.room {desk : Desk} (fresh : desk.Fresh) : ¬ desk.UsedUp := by
  rintro ⟨-, full⟩
  rw [fresh.size, fresh.limit] at full
  exact absurd full (by decide)

/-- The part of a round that reads leaves a stocked pool. -/
theorem readConnection_stocked (info : Nat) (hndl : Int) {status : Int} (goes : 0 ≤ status)
    (readFd : List Int)
    : Triple (fun station => station.device.desk.Fresh) (readConnection info hndl status readFd)
        (fun read station => 0 ≤ read.1 ∧ station.Stocked) (fun _ _ => True) := by
  have take : Triple (fun station : Station => station.device.desk.Fresh) takePacket
      (fun _ => Station.Missing 1) (fun _ _ => True) := by
    intro station fresh
    obtain ⟨got, after, run, kept⟩ := takePacket_missing (k := 0) fresh.missing
    rw [if_neg fresh.room] at kept
    rw [run]
    exact kept
  rw [readConnection]
  refine .ite ?_ (.pure fun _ fresh => ⟨goes, fresh.missing, fresh.room⟩)
  rw [handleReady]
  refine .bind (Q := fun status station => 0 ≤ status ∧ station.Stocked) ?_ fun status =>
    .pure fun _ h => h
  refine .bind take fun _ => .bind (receiveInto_missing 1 hndl) fun _ => ?_
  refine .bind (actOn_missing 1 info) fun _ => ?_
  refine (putPacket_missing 0).mono (fun _ h => h) (fun _ station h => ?_) (fun _ _ h => h)
  exact ⟨h.1, h.2.1, fun used => absurd used.1 (by have := h.2.2; omega)⟩

/-- Serving a live connection loses a packet. -/
theorem serveGroup_loses {i : PacketGroup} {info : Nat} {status : Int} (goes : 0 ≤ status)
    (readFd : List Int)
    : Triple
        (fun station =>
          station.device.desk.Fresh
          ∧ station.connInfo i = some info
          ∧ checkConnection station (some info) = success)
        (serveGroup i status readFd) (fun _ => Station.Missing 1) (fun _ _ => True) := by
  rintro station ⟨fresh, entry, live⟩
  rw [serveGroup, bind_get, entry]
  simp only [live, ↓reduceIte]
  refine Triple.bind (readConnection_stocked info _ goes readFd) (fun read => ?_) station fresh
  intro station
  rintro ⟨goes, stocked⟩
  refine Triple.bind (drainQueue_loses info _ goes) (fun _ => ?_) station stocked
  exact .pure fun _ h => h

end BigBlackHardware
