import Mathlib.Logic.Relation
import BigBlackHardware.Library.TwoRuns
import BigBlackHardware.Tasks.Turns

/-! Every run of `vHandlingTask` with its schedule is a run of the two tasks taking turns. The
task's code makes one call of `handlingStep` after the other, and a call at which the listening
task runs is some turns of that task and then one of the handling task.
-/

namespace BigBlackHardware

open Library

-----------------------------------------------------------------------------------------
-- The code as a sequence of calls
-----------------------------------------------------------------------------------------

/-- One call of the handling task that returns. -/
def Calls (before after : HandlePoint × Station) : Prop :=
  ∃ answer did, handlingStep answer before.1 before.2 = .ok (after.1, did) after.2

/-- Some calls of the handling task, one after the other. -/
abbrev CallSequence : HandlePoint × Station → HandlePoint × Station → Prop :=
  Relation.ReflTransGen Calls

/-- An answer with which a read of a queue finds what waits in the queue. -/
def Selection.answer (selection : Selection) : Answer := ⟨selection, false⟩

/-- The answer for the calls that ask for no selection. -/
def anyAnswer : Answer := Selection.answer ⟨0, fun _ => false⟩

theorem CallSequence.step (answer : Answer) (did : ConnectionUse) {point point' : HandlePoint}
    {station station' : Station} {last : HandlePoint × Station}
    (call : handlingStep answer point station = .ok (point', did) station')
    (rest : CallSequence (point', station') last)
    : CallSequence (point, station) last :=
  Relation.ReflTransGen.head ⟨answer, did, call⟩ rest

/-- The code before the loop is the call that waits for the first connection. -/
theorem firstConnection_calls {station after : Station} {last : Unit}
    (returns : firstConnection station = .ok last after)
    : CallSequence (.awaiting, station) (loopHead after, after) := by
  obtain ⟨info, found, read, rest⟩ := bind_eq_ok returns
  cases info with
  | none => cases rest
  | some info =>
      cases rest
      have awaits : awaitConnection false station = .ok info found := (bind_ok read).trans rfl
      exact .step anyAnswer (.obtained info) ((bind_ok awaits).trans rfl) .refl

/-- `disable_connection` reads the handle and goes on with it. -/
theorem disableConnection_eq (info : Nat) (station : Station)
    : disableConnection info station = disableFrom info (station.conns info).hndl station := rfl

/-- `close_conn` for the packet in hand: the calls from the one that closes the handle on. -/
theorem closeFor_calls (serving : Serving) {station after : Station} {status : Int}
    (returns : closeFor serving.info station = .ok status after)
    : CallSequence
        (.closing serving (station.conns serving.info).hndl,
          (station.note (.closing station.packet)).setEntry serving.info none)
        (.putting serving, after) := by
  obtain ⟨closed, found, disables, rest⟩ :=
    bind_eq_ok (m := disableConnection serving.info)
      (s := (station.note (.closing station.packet)).setEntry serving.info none) returns
  rw [disableConnection_eq] at disables
  split at rest
  · rename_i failed
    cases rest
    refine .step anyAnswer .other ((bind_ok disables).trans ?_) .refl
    rw [if_pos failed]
    rfl
  · rename_i succeeded
    have releases : releaseConnection serving.info found = .ok status after := rest
    have release : CallSequence (.releasing serving, found) (.putting serving, after) :=
      .step anyAnswer _ ((bind_ok releases).trans rfl) .refl
    refine .step anyAnswer (.closed serving.info (station.conns serving.info).hndl)
      ((bind_ok disables).trans ?_) release
    rw [if_neg succeeded]
    rfl

/-- The task's variables when the handle is not to be read again. -/
def Serving.served (serving : Serving) : Serving :=
  { serving with readFd := serving.readFd.filter (· ≠ serving.hndl) }

/-- The branch for a connection with data to read is the calls from the get of a packet to its
release, on one of the two ways that the packet's type decides.
-/
theorem handleReady_calls (serving : Serving) {station after : Station} {status : Int}
    (returns : handleReady serving.info serving.hndl station = .ok status after)
    : CallSequence (.taking serving, station) (serving.served.drain status after, after) := by
  obtain ⟨_, taken, takes, rest⟩ := bind_eq_ok returns
  obtain ⟨_, received, receives, rest⟩ := bind_eq_ok rest
  obtain ⟨_, acted, acts, puts⟩ := bind_eq_ok rest
  have release
      : CallSequence (.putting serving, acted) (serving.served.drain status after, after) :=
    .step anyAnswer .other ((bind_ok puts).trans rfl) .refl
  refine .step anyAnswer .other ((bind_ok takes).trans rfl) ?_
  rw [actOn, bind_get] at acts
  split at acts
  · rename_i closes
    refine .step anyAnswer .other ((bind_ok receives).trans ?_)
      ((closeFor_calls serving acts).trans release)
    rw [bind_get, if_pos closes]
    rfl
  · rename_i hands
    have handing
        : CallSequence (.processing serving, received) (serving.served.drain status after, after) :=
      .step anyAnswer .other ((bind_ok acts).trans rfl) release
    refine .step anyAnswer .other ((bind_ok receives).trans ?_) handing
    rw [bind_get, if_neg hands]
    rfl

/-- The loop that sends ends by its own condition: its rounds are the calls that send one packet
each. The proof is an induction on the fuel.
-/
theorem drainLoop_calls (serving : Serving) {fuel : Nat} {status last : Int}
    {station after : Station}
    (returns : drainLoop serving.info serving.hndl fuel status station = .ok last after)
    (ended : last < 0)
    : CallSequence (serving.drain status station, station)
        (nextEntry after serving.readFd last serving.later, after) := by
  induction fuel generalizing status station with
  | zero =>
      cases returns
      rw [Serving.drain, if_neg (Int.not_le.mpr ended)]
  | succ fuel ih =>
      rw [drainLoop] at returns
      split at returns
      · rename_i goes
        rw [Serving.drain, if_pos goes]
        obtain ⟨_, taken, takes, rest⟩ := bind_eq_ok returns
        obtain ⟨got, drawn, draws, rest⟩ := bind_eq_ok rest
        obtain ⟨_, sent, sends, rounds⟩ := bind_eq_ok rest
        have further := ih rounds
        refine .step anyAnswer .other ((bind_ok takes).trans rfl) ?_
        have reads : readReply false serving.info taken = .ok got drawn := draws
        rw [sendNext] at sends
        split at sends
        · rename_i some
          obtain ⟨_, passed, passes, puts⟩ := bind_eq_ok sends
          rw [Serving.drain, if_pos some] at further
          have dropping
              : CallSequence (.dropping serving, passed)
                  (nextEntry after serving.readFd last serving.later, after) :=
            .step anyAnswer .other ((bind_ok puts).trans rfl) further
          have sending
              : CallSequence (.sending serving, drawn)
                  (nextEntry after serving.readFd last serving.later, after) :=
            .step anyAnswer (.sentOn serving.hndl) ((bind_ok passes).trans rfl) dropping
          refine .step anyAnswer (.readOut serving.info) ((bind_ok reads).trans ?_) sending
          rw [if_pos some]
          rfl
        · rename_i none
          cases sends
          rw [Serving.drain, if_neg none] at further
          refine .step anyAnswer (.readOut serving.info) ((bind_ok reads).trans ?_) further
          rw [if_neg none]
          rfl
      · rename_i stops
        cases returns
        rw [Serving.drain, if_neg stops]

/-- The round for one entry of `conn_info` leads from the entry to the next one. -/
theorem serveGroup_calls {i : PacketGroup} {later : List PacketGroup} {status : Int}
    {readFd : List Int} {served : Int × List Int} {station after : Station}
    (returns : serveGroup i status readFd station = .ok served after)
    : CallSequence (nextEntry station readFd status (i :: later), station)
        (nextEntry after served.2 served.1 later, after) := by
  rw [serveGroup, bind_get] at returns
  rw [nextEntry]
  cases entry : station.connInfo i with
  | none =>
      rw [entry] at returns
      cases returns
      exact .refl
  | some info =>
      rw [entry] at returns
      dsimp only at returns ⊢
      split at returns
      · rename_i live
        rw [if_pos live]
        obtain ⟨⟨read, unread⟩, received, reads, rest⟩ := bind_eq_ok returns
        obtain ⟨last, drained, drains, rest⟩ := bind_eq_ok rest
        cases rest
        have ended : last < 0 := by
          have ends := drainQueue_ends info (station.conns info).hndl read received True.intro
          rw [drains] at ends
          exact ends
        have rounds
            : drainLoop info (station.conns info).hndl
                (received.device.desk.messages.length + 1) read received = .ok last after :=
          drains
        have sending :=
          drainLoop_calls ⟨later, info, (station.conns info).hndl, unread⟩ rounds ended
        rw [readConnection] at reads
        split at reads
        · rename_i ready
          rw [if_pos ready]
          obtain ⟨status, handled, handles, rest⟩ := bind_eq_ok reads
          cases rest
          have reading :=
            handleReady_calls ⟨later, info, (station.conns info).hndl, readFd⟩ handles
          exact reading.trans sending
        · rename_i idle
          rw [if_neg idle]
          cases reads
          exact sending
      · rename_i dead
        rw [if_neg dead]
        cases returns
        exact .refl

/-- The rounds for the entries of `conn_info`, by induction on the entries. -/
theorem serveGroups_calls {groups : List PacketGroup} {status : Int} {readFd : List Int}
    {station after : Station} {last : Unit}
    (returns : serveGroups groups status readFd station = .ok last after)
    : CallSequence (nextEntry station readFd status groups, station) (.looking, after) := by
  induction groups generalizing status readFd station with
  | nil =>
      cases returns
      exact .refl
  | cons i groups ih =>
      obtain ⟨served, next, serves, rest⟩ := bind_eq_ok returns
      exact (serveGroup_calls serves).trans (ih rest)

/-- The entry of a connection that has just been put into the control group. -/
theorem setEntry_setConn (station : Station) (info : Nat) (conn : ConnectionInfo)
    (entry : Option Nat)
    : (station.setConn info conn).setEntry info entry
      = { station.setConn info conn with
          connInfo := fun i => if i = conn.group then entry else station.connInfo i } := by
  simp only [Station.setEntry, Station.setConn, ↓reduceIte]

/-- The look for a new connection, which may be refused. -/
theorem takeConnection_calls {station after : Station} {last : Unit}
    (returns : takeConnection station = .ok last after)
    : CallSequence (.looking, station) (loopHead after, after) := by
  obtain ⟨got, found, reads, rest⟩ := bind_eq_ok returns
  have looks : lookForConnection false station = .ok got found := reads
  cases got with
  | none =>
      cases rest
      exact .step anyAnswer .other ((bind_ok looks).trans rfl) .refl
  | some info =>
      dsimp only at rest
      rw [bind_get] at rest
      split at rest
      · rename_i taken
        obtain ⟨_, refused, refuses, rest⟩ := bind_eq_ok rest
        cases rest
        rw [disableConnection_eq] at refuses
        have refusing
            : CallSequence (.refusing info (found.conns info).hndl, found)
                (loopHead after, after) :=
          .step anyAnswer .other ((bind_ok refuses).trans rfl) .refl
        refine .step anyAnswer (.obtained info) ((bind_ok looks).trans ?_) refusing
        dsimp only
        rw [bind_get, if_pos taken]
        rfl
      · rename_i free
        cases rest
        refine .step anyAnswer (.obtained info) ((bind_ok looks).trans ?_) .refl
        dsimp only
        rw [bind_get, if_neg free, ← setEntry_setConn]
        rfl

/-- A round of the outer loop: `select`, the entries of `conn_info` and the look for a connection.
-/
theorem handlingRound_calls {selection : Selection} {station after : Station} {last : Unit}
    (returns : handlingRound selection station = .ok last after)
    : CallSequence (loopHead station, station) (loopHead after, after) := by
  let readFd :=
    (getReadFd station).2.filter fun fd => fd < (getReadFd station).1 + 1 ∧ selection.ready fd
  have selects : selectReady selection station = .ok readFd station.listened := rfl
  have call
      : handlingStep selection.answer (loopHead station) station
        = (if selection.status > 0 then do
            return (nextEntry (← get) readFd selection.status packetsGroups, .other)
          else return (.looking, .other) : StationM (HandlePoint × ConnectionUse))
            station.listened := rfl
  rw [handlingRound, bind_ok selects] at returns
  obtain ⟨_, served, serves, takes⟩ := bind_eq_ok returns
  refine .trans ?_ (takeConnection_calls takes)
  rw [serveSelected] at serves
  split at serves
  · rename_i some
    rw [if_pos some] at call
    exact CallSequence.step selection.answer .other call (serveGroups_calls serves)
  · rename_i none
    cases serves
    rw [if_neg none] at call
    exact CallSequence.step selection.answer .other call .refl

/-- The outer loop, by induction on the results of `select`. -/
theorem handlingLoop_calls {selections : List Selection} {station after : Station} {last : Unit}
    (returns : handlingLoop selections station = .ok last after)
    : CallSequence (loopHead station, station) (loopHead after, after) := by
  induction selections generalizing station with
  | nil =>
      cases returns
      exact .refl
  | cons selection selections ih =>
      obtain ⟨_, next, round, rest⟩ := bind_eq_ok returns
      exact (handlingRound_calls round).trans (ih rest)

/-- `vHandlingTask` is a sequence of calls. -/
theorem vHandlingTask_calls {selections : List Selection} {station after : Station} {last : Unit}
    (returns : vHandlingTask selections station = .ok last after)
    : CallSequence (.awaiting, station) (loopHead after, after) := by
  obtain ⟨_, next, first, rest⟩ := bind_eq_ok returns
  exact (firstConnection_calls first).trans (handlingLoop_calls rest)

-----------------------------------------------------------------------------------------
-- A call as turns
-----------------------------------------------------------------------------------------

/-- The station without a schedule. -/
def Station.unscheduled (station : Station) : Station := { station with schedule := [] }

/-- The second station is the first one without its schedule. -/
def Unscheduled (station station' : Station) : Prop := station' = station.unscheduled

/-- What the schedule does within the program, steps of the listening task before it do. -/
def Interleaves {α : Type} (m : StationM α) : Prop :=
  ∀ station,
    ∃ steps,
      EndsAlike Unscheduled (m station) (m (listeningStep^[steps] station.unscheduled))

theorem getConnection_unscheduled (station : Station)
    : getConnection station.unscheduled
      = ((getConnection station).1, (getConnection station).2.unscheduled) := by
  dsimp only [getConnection, Station.unscheduled]
  split <;> rfl

/-- The listening task does not look at the schedule. -/
theorem listeningStep_unscheduled (station : Station)
    : (listeningStep station).unscheduled = listeningStep station.unscheduled := by
  have point : station.unscheduled.listening = station.listening := rfl
  have accepts : station.unscheduled.accepts = station.accepts := rfl
  rw [listeningStep, listeningStep, point, accepts]
  cases station.listening with
  | accepting =>
      cases station.accepts with
      | nil => rfl
      | cons accept accepts => dsimp only; split <;> rfl
  | fetching conn =>
      rw [getConnection_unscheduled]
      cases getConnection station with
      | mk info after => cases info <;> rfl
  | filling conn info => rfl
  | queueing info => rfl

/-- The steps that a schedule gives the listening task at a call are turns of it. -/
theorem listened_unscheduled (station : Station)
    : ∃ steps, station.listened.unscheduled = listeningStep^[steps] station.unscheduled := by
  rw [Station.listened]
  cases station.schedule with
  | nil => exact ⟨0, rfl⟩
  | cons steps schedule =>
      refine ⟨steps, ?_⟩
      exact Function.Semiconj.iterate_right listeningStep_unscheduled steps _

section Interleaves

variable {α β : Type}

theorem Interleaves.of_twoRuns {m : StationM α} (same : TwoRuns Unscheduled m)
    : Interleaves m := fun station => ⟨0, same station _ rfl⟩

/-- The schedule is used up by the one step at which the listening task can run. -/
theorem Interleaves.switchTasks {f : PUnit → StationM α} (rest : TwoRuns Unscheduled (f ⟨⟩))
    : Interleaves (switchTasks >>= f) := by
  intro station
  obtain ⟨steps, same⟩ := listened_unscheduled station
  refine ⟨steps, ?_⟩
  rw [← same]
  exact rest station.listened _ rfl

theorem Interleaves.bind {m : StationM α} {f : α → StationM β} (first : Interleaves m)
    (next : ∀ a, TwoRuns Unscheduled (f a)) : Interleaves (m >>= f) := by
  intro station
  obtain ⟨steps, alike⟩ := first station
  exact ⟨steps, alike.bind next⟩

theorem Interleaves.ite {c : Prop} [Decidable c] {m n : StationM α} (yes : Interleaves m)
    (no : Interleaves n) : Interleaves (if c then m else n) := by
  split
  · exact yes
  · exact no

end Interleaves

/-- A program on the device does not see the schedule. -/
theorem onDevice_twoRuns {α : Type} (m : DeviceM α) : TwoRuns Unscheduled (onDevice m) := by
  refine (TwoRuns.of_eq m).onPart ?_ ?_
  · rintro station _ rfl
    rfl
  · rintro station _ device _ rfl rfl
    rfl

/-- A change that the schedule has no part in. -/
theorem Unscheduled.modify {f : Station → Station}
    (keeps : ∀ station, f station.unscheduled = (f station).unscheduled)
    : TwoRuns Unscheduled (modify f : StationM PUnit) := by
  refine .modify ?_
  rintro station _ rfl
  exact keeps station

/-- A value read from the station that the schedule has no part in. -/
theorem Unscheduled.read {α : Type} {value : Station → α}
    (same : ∀ station, value station.unscheduled = value station)
    : TwoRuns Unscheduled (do return value (← get) : StationM α) := by
  refine .get ?_
  rintro station _ rfl
  rw [same]
  exact .ok rfl

theorem takePacket_interleaves : Interleaves takePacket := by
  refine .switchTasks (.get ?_)
  rintro station _ rfl
  refine EndsAlike.bind (onDevice_twoRuns _ station _ rfl) fun got => ?_
  exact .bind (Unscheduled.modify fun _ => rfl) fun _ => .pure _

theorem awaitStatus_twoRuns (status : Option Int) : TwoRuns Unscheduled (awaitStatus status) := by
  cases status with
  | none => exact .throw _
  | some status => exact .pure _

theorem receiveInto_interleaves (hndl : Int) : Interleaves (receiveInto hndl) := by
  refine .switchTasks (.get ?_)
  rintro station _ rfl
  refine EndsAlike.bind (EndsAlike.ok rfl) fun _ => ?_
  exact .bind (onDevice_twoRuns _) fun _ => awaitStatus_twoRuns _

theorem handOver_twoRuns (info : Nat) : TwoRuns Unscheduled (handOver info) := by
  refine .get ?_
  rintro station _ rfl
  exact EndsAlike.bind (EndsAlike.ok rfl) fun _ => onDevice_twoRuns _

theorem putPacket_interleaves : Interleaves putPacket := by
  refine .switchTasks (.get ?_)
  rintro station _ rfl
  exact onDevice_twoRuns _ station _ rfl

theorem closeSocket_interleaves (hndl : Int) : Interleaves (closeSocket hndl) := by
  refine .switchTasks (.get ?_)
  rintro station _ rfl
  exact EndsAlike.bind (EndsAlike.ok rfl) fun _ => .pure _

theorem disableFrom_interleaves (info : Nat) (hndl : Int)
    : Interleaves (disableFrom info hndl) := by
  refine (closeSocket_interleaves hndl).bind fun status => .ite (.pure _) ?_
  exact .bind (Unscheduled.modify fun _ => rfl) fun _ => .pure _

theorem releaseConnection_interleaves (info : Nat) : Interleaves (releaseConnection info) := by
  refine .switchTasks (.get ?_)
  rintro station _ rfl
  exact EndsAlike.ok rfl

theorem readConnectionsQueue_interleaves : Interleaves readConnectionsQueue := by
  refine .switchTasks (.get ?_)
  rintro station _ rfl
  exact EndsAlike.ok rfl

theorem readReply_interleaves (missed : Bool) (info : Nat)
    : Interleaves (readReply missed info) := by
  refine .ite (.of_twoRuns ?_) (.switchTasks (.get ?_))
  · exact .bind (Unscheduled.modify fun _ => rfl) fun _ => .pure _
  · rintro station _ rfl
    refine EndsAlike.bind (onDevice_twoRuns _ station _ rfl) fun _ => ?_
    exact .bind (Unscheduled.modify fun _ => rfl) fun _ => .pure _

theorem sendOut_interleaves (hndl : Int) : Interleaves (sendOut hndl) := by
  refine .switchTasks (.get ?_)
  rintro station _ rfl
  exact EndsAlike.bind (EndsAlike.ok rfl) fun _ => awaitStatus_twoRuns _

theorem awaitConnection_interleaves (missed : Bool) : Interleaves (awaitConnection missed) := by
  refine .ite (.of_twoRuns (.get ?_)) ?_
  · rintro station _ rfl
    exact EndsAlike.ok rfl
  · refine readConnectionsQueue_interleaves.bind fun info => ?_
    cases info with
    | none => exact .throw _
    | some info => exact .pure _

theorem lookForConnection_interleaves (missed : Bool)
    : Interleaves (lookForConnection missed) :=
  .ite (.of_twoRuns (.pure _)) readConnectionsQueue_interleaves

/-- The loop over the entries does not look at the schedule. -/
theorem nextEntry_unscheduled (station : Station) (readFd : List Int) (status : Int)
    (groups : List PacketGroup)
    : nextEntry station.unscheduled readFd status groups
      = nextEntry station readFd status groups := by
  induction groups with
  | nil => rfl
  | cons i groups ih =>
      have entry : station.unscheduled.connInfo i = station.connInfo i := rfl
      rw [nextEntry, nextEntry, entry, ih]
      rfl

/-- One call of the handling task interleaves, by its point. -/
theorem handlingStep_interleaves (answer : Answer) (point : HandlePoint)
    : Interleaves (handlingStep answer point) := by
  cases point with
  | awaiting =>
      refine (awaitConnection_interleaves _).bind fun info => ?_
      exact .bind (Unscheduled.modify fun _ => rfl) fun _ => Unscheduled.read fun _ => rfl
  | selecting maxFd readFd =>
      refine .switchTasks (.ite (Unscheduled.read fun station => ?_) (.pure _))
      rw [nextEntry_unscheduled]
  | taking serving => exact takePacket_interleaves.bind fun _ => .pure _
  | receiving serving =>
      refine (receiveInto_interleaves _).bind fun _ => .get ?_
      rintro station _ rfl
      have object : station.unscheduled.object = station.object := rfl
      rw [object]
      split
      · exact .ok rfl
      · exact .ok rfl
  | processing serving => exact .of_twoRuns ((handOver_twoRuns _).bind fun _ => .pure _)
  | closing serving hndl =>
      exact (disableFrom_interleaves _ _).bind fun _ => .ite (.pure _) (.pure _)
  | releasing serving => exact (releaseConnection_interleaves _).bind fun _ => .pure _
  | putting serving =>
      refine putPacket_interleaves.bind fun status => Unscheduled.read fun station => ?_
      rw [Serving.drain, Serving.drain, nextEntry_unscheduled]
  | drawing serving => exact takePacket_interleaves.bind fun _ => .pure _
  | reading serving =>
      refine (readReply_interleaves _ _).bind fun status => .ite (.pure _) ?_
      exact Unscheduled.read fun station => by rw [nextEntry_unscheduled]
  | sending serving => exact (sendOut_interleaves _).bind fun _ => .pure _
  | dropping serving => exact putPacket_interleaves.bind fun _ => .pure _
  | looking =>
      refine (lookForConnection_interleaves _).bind fun found => ?_
      cases found with
      | none => exact Unscheduled.read fun _ => rfl
      | some info =>
          refine .get ?_
          rintro station _ rfl
          have entry : station.unscheduled.connInfo = station.connInfo := rfl
          rw [entry]
          split
          · exact .ok rfl
          · exact .ok rfl
  | refusing info hndl =>
      exact (disableFrom_interleaves _ _).bind fun _ => Unscheduled.read fun _ => rfl
  | stopped => exact .of_twoRuns (.throw _)

-----------------------------------------------------------------------------------------
-- The run as turns
-----------------------------------------------------------------------------------------

/-- Some turns lead from one pair of a point and a station to another. -/
def Reaches (before after : HandlePoint × Station) : Prop :=
  ∀ given uses,
    ∃ turns given' uses',
      afterTurns Tasks.step turns ⟨before.2, before.1, given, uses⟩
        = ⟨after.2, after.1, given', uses'⟩

theorem Reaches.refl (here : HandlePoint × Station) : Reaches here here :=
  fun given uses => ⟨[], given, uses, rfl⟩

theorem Reaches.trans {before between after : HandlePoint × Station}
    (first : Reaches before between) (rest : Reaches between after) : Reaches before after := by
  intro given uses
  obtain ⟨turns, given, uses, reached⟩ := first given uses
  obtain ⟨more, given, uses, last⟩ := rest given uses
  refine ⟨turns ++ more, given, uses, ?_⟩
  rw [afterTurns_append, reached, last]

/-- Turns of the listening task alone, by induction on their number. -/
theorem listening_reaches (point : HandlePoint) (steps : Nat) (station : Station)
    : Reaches (point, station) (point, listeningStep^[steps] station) := by
  induction steps generalizing station with
  | zero => exact .refl _
  | succ steps ih =>
      have one : Reaches (point, station) (point, listeningStep station) := by
        intro given uses
        refine ⟨[.listening false],
          (Tasks.step ⟨station, point, given, uses⟩ (.listening false)).given, uses, ?_⟩
        have call : listeningCall false station = listeningStep station := by
          rw [listeningCall]
          cases station.listening <;> rfl
        dsimp only [afterTurns, List.foldl, Tasks.step]
        rw [call]
      exact one.trans (ih _)

/-- A call that returns is some turns, the last one of the handling task. -/
theorem Calls.reaches {point point' : HandlePoint} {station station' : Station}
    (calls : Calls (point, station) (point', station'))
    : Reaches (point, station.unscheduled) (point', station'.unscheduled) := by
  obtain ⟨answer, did, returns⟩ := calls
  obtain ⟨steps, alike⟩ := handlingStep_interleaves answer point station
  rw [returns] at alike
  obtain ⟨_, again, rfl⟩ := alike.of_ok
  refine (listening_reaches point steps _).trans fun given uses => ?_
  refine ⟨[.handling answer], given, uses ++ [did], ?_⟩
  dsimp only [afterTurns, List.foldl, Tasks.step]
  rw [again]

/-- Calls one after the other are turns, by induction on the calls. -/
theorem CallSequence.reaches {before after : HandlePoint × Station}
    (calls : CallSequence before after)
    : Reaches (before.1, before.2.unscheduled) (after.1, after.2.unscheduled) := by
  induction calls with
  | refl => exact .refl _
  | tail _ call ih => exact ih.trans call.reaches

/-- Every run of `vHandlingTask` that returns is a run of the two tasks taking turns, to the head of
its loop and the same station.
-/
theorem vHandlingTask_turns {selections : List Selection} {station after : Station} {last : Unit}
    (returns : vHandlingTask selections (packetHandlerStart station) = .ok last after)
    : ∃ turns,
        (afterTurns Tasks.step turns (.start station)).station = after.unscheduled
        ∧ (afterTurns Tasks.step turns (.start station)).handling = loopHead after := by
  obtain ⟨turns, given, uses, run⟩ := (vHandlingTask_calls returns).reaches none []
  have start
      : Tasks.start station = ⟨(packetHandlerStart station).unscheduled, .awaiting, none, []⟩ :=
    rfl
  refine ⟨turns, ?_⟩
  rw [start, run]
  exact ⟨rfl, rfl⟩

/-- A client that sends a frame without a body. -/
def initClient : Socket := ⟨[plStartFrameByte, 0, plProgrammerInit, 0, 0], [5], [], [], []⟩

/-- Its frame is handled, and the handling task looks for another one in vain. -/
def initServed : EStateM.Result Stop Station Unit :=
  vHandlingTask [⟨1, fun _ => true⟩, ⟨0, fun _ => false⟩]
    (packetHandlerStart (oneClient initClient))

theorem vHandlingTask_turns_init
    : ∃ turns,
        (afterTurns Tasks.step turns (.start (oneClient initClient))).station
          = (final initServed).unscheduled
        ∧ (afterTurns Tasks.step turns (.start (oneClient initClient))).handling
          = loopHead (final initServed) := by
  have back : comesBack initServed = true := by decide +kernel
  obtain ⟨last, returns⟩ := eq_ok_of_comesBack back
  exact vHandlingTask_turns returns

end BigBlackHardware
