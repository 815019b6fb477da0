import BigBlackHardware.Controller.DeskFrame
import BigBlackHardware.Tasks.Custody

/-! What the handling task does with a connection once `close_conn` has given it back: the loop that
sends goes on for the same connection.
-/

namespace BigBlackHardware

open Library

/-- After a connection's socket was closed and its object released, its `out_queue` is not read and
nothing is sent on its handle, until the object comes out of `connections_queue` again.
-/
def NoUseAfterClose (uses : List ConnectionUse) : Prop :=
  ∀ before info hndl middle use after,
    uses = before ++ [.closed info hndl, .released info] ++ middle ++ use :: after →
    use = .readOut info ∨ use = .sentOn hndl →
    .obtained info ∈ middle

/-- The turn is a call of the handling task. -/
def Turn.OfHandling : Turn → Bool
  | .listening _ => false
  | .handling _ => true

/-- The turn is the release in `close_conn`, and something of the pool is handed out. -/
def Releases (tasks : Tasks) : Turn → Prop
  | .listening _ => False
  | .handling _ =>
      (∃ serving, tasks.handling = .releasing serving)
      ∧ tasks.station.connectionsPool.freeItems ≠ tasks.station.connectionsPool.poolSize

/-- After a release in `close_conn` the handling task has at most two more calls. -/
def ReleasesLast : List Turn → Tasks → Prop
  | [], _ => True
  | turn :: turns, tasks =>
      (Releases tasks turn → turns.countP Turn.OfHandling ≤ 2)
      ∧ ReleasesLast turns (tasks.step turn)

-----------------------------------------------------------------------------------------
-- The packets pool
-----------------------------------------------------------------------------------------

/-- The counters of the packets pool are in order. -/
structure Pool.Sound (pool : Pool) : Prop where
  counted : pool.Counted
  limit : pool.maxPoolSize = msgPoolSize

/-- Some packet is not on the free stack. -/
def Pool.Outstanding (pool : Pool) : Prop := pool.freeItems < pool.poolSize

/-- A get keeps the counters in order, by its three outcomes. -/
theorem Pool.Sound.got {pool : Pool} (sound : pool.Sound) (block : Nat)
    : (poolGet pool block).pool.Sound := by
  refine ⟨poolGet_counted sound.counted block, Eq.trans ?_ sound.limit⟩
  rcases poolGet_cases pool block with ⟨-, -, got⟩ | ⟨-, got⟩ | ⟨-, -, got⟩ <;> rw [got]

/-- After a get a packet is outstanding, also if the pool is used up. -/
theorem Pool.Sound.outstanding {pool : Pool} (sound : pool.Sound) (block : Nat)
    : (poolGet pool block).pool.Outstanding := by
  obtain ⟨⟨free, -⟩, limit⟩ := sound
  have some : 0 < msgPoolSize := by decide
  rcases poolGet_cases pool block with ⟨none, full, got⟩ | ⟨items, got⟩ | ⟨none, -, got⟩ <;>
    rw [got, Pool.Outstanding] <;> dsimp only <;> omega

theorem Pool.Sound.released {pool : Pool} (sound : pool.Sound) (packet : Nat)
    : (poolRelease pool packet).2.Sound := by
  refine ⟨poolRelease_counted sound.counted packet, Eq.trans ?_ sound.limit⟩
  rcases poolRelease_cases pool packet with ⟨-, released⟩ | ⟨-, released⟩ <;> rw [released]

/-- The counters stay in order. -/
def KeepsSound (before after : Desk) : Prop :=
  before.packetsPool.Sound → after.packetsPool.Sound

instance : Std.Refl KeepsSound := ⟨fun _ h => h⟩

instance : IsTrans Desk KeepsSound := ⟨fun _ _ _ one two h => two (one h)⟩

theorem keepsSound_frame : DeskFrame KeepsSound where
  got _ sound := sound.got _
  stored _ _ _ sound := sound
  written _ _ _ sound := sound
  junk _ sound := sound

/-- The packets pool is the same. -/
def SamePool (before after : Station) : Prop :=
  after.device.desk.packetsPool = before.device.desk.packetsPool

instance : Std.Refl SamePool := ⟨fun _ => rfl⟩

instance : IsTrans Station SamePool := ⟨fun _ _ _ one two => Eq.trans two one⟩

theorem samePool_frame : ConnectionFrame SamePool where
  listened station := by rw [SamePool, (listened_unlistened station).device]
  setSocket _ _ _ := rfl
  setConn _ _ _ := rfl
  connectionsPool _ _ := rfl
  connectionsQueue _ _ := rfl
  forgotten _ _ := rfl
  taken _ _ := rfl

-----------------------------------------------------------------------------------------
-- The trail of a release
-----------------------------------------------------------------------------------------

/-- What the task has done since it released a connection, and where it is: it releases the packet,
gets another one and reads the `out_queue` of the connection.
-/
inductive Trail (outstanding : Prop) : Nat → List ConnectionUse → HandlePoint → Prop where
  | put (serving : Serving) (held : outstanding)
    : Trail outstanding serving.info [] (.putting serving)
  | draw (serving : Serving) : Trail outstanding serving.info [.other] (.drawing serving)
  | read (serving : Serving)
    : Trail outstanding serving.info [.other, .other] (.reading serving)
  | used (info : Nat) (later : List ConnectionUse) (point : HandlePoint)
    : Trail outstanding info (.other :: .other :: .readOut info :: later) point

/-- From the get of a packet up to the release of the connection. -/
def HandlePoint.Holding : HandlePoint → Prop
  | .receiving _ | .closing _ _ | .releasing _ => True
  | _ => False

/-- A point at which no release is being followed up. -/
def HandlePoint.Apart : HandlePoint → Prop
  | .putting _ | .drawing _ | .reading _ => False
  | _ => True

theorem apart_at {tasks : Tasks} {point : HandlePoint} (here : tasks.handling = point)
    (apart : point.Apart) : tasks.handling.Apart := by
  rwa [here]

/-- Where no packet is held no release comes next. -/
theorem ne_releasing {point : HandlePoint} (free : ¬ point.Holding) (serving : Serving)
    : point ≠ .releasing serving := by
  rintro rfl
  exact free True.intro

/-- Every release directly follows a close of the connection's socket and leaves its trail. -/
structure Trailing (tasks : Tasks) : Prop where
  sound : tasks.station.device.desk.packetsPool.Sound
  held : tasks.handling.Holding → tasks.station.device.desk.packetsPool.Outstanding
  releasing
    : ∀ serving, tasks.handling = .releasing serving →
        ∃ before hndl, tasks.uses = before ++ [.closed serving.info hndl]
  closed
    : ∀ before info after, tasks.uses = before ++ .released info :: after →
        ∃ earlier hndl, before = earlier ++ [.closed info hndl]
  trail
    : ∀ before info after, tasks.uses = before ++ .released info :: after →
        Trail tasks.station.device.desk.packetsPool.Outstanding info after tasks.handling

/-- At a point where a packet is held one is outstanding. -/
theorem Trailing.outstanding {tasks : Tasks} {point : HandlePoint} (trailing : Trailing tasks)
    (here : tasks.handling = point) (holding : point.Holding)
    : tasks.station.device.desk.packetsPool.Outstanding := by
  rw [← here] at holding
  exact trailing.held holding

theorem start_trailing (station : Station) : Trailing (.start station) where
  sound := ⟨poolCreate_counted _ _, rfl⟩
  held h := by cases h
  releasing _ point := by cases point
  closed before _ _ split := by cases before <;> cases split
  trail before _ _ split := by cases before <;> cases split

/-- The listening task leaves the packets and the handling task alone. -/
theorem listening_trailing {tasks : Tasks} (trailing : Trailing tasks) (refused : Bool)
    : Trailing (tasks.step (.listening refused)) := by
  have same : (listeningCall refused tasks.station).device = tasks.station.device := by
    rw [listeningCall]
    split
    · split
      · rfl
      · exact (listeningStep_unlistened tasks.station).device
    · exact (listeningStep_unlistened tasks.station).device
  obtain ⟨sound, held, releasing, closed, trail⟩ := trailing
  rw [← same] at sound held trail
  exact ⟨sound, held, releasing, closed, trail⟩

/-- A trail ends in the last use, or the last use is the release. -/
theorem append_eq_cons_released {uses before after : List ConnectionUse} {did : ConnectionUse}
    {info : Nat} (split : uses ++ [did] = before ++ .released info :: after)
    : (after = [] ∧ uses = before ∧ did = .released info)
      ∨ ∃ trail, after = trail ++ [did] ∧ uses = before ++ .released info :: trail := by
  rcases List.eq_nil_or_concat after with rfl | ⟨trail, last, rfl⟩
  · obtain ⟨same, released⟩ := List.append_inj' split rfl
    exact Or.inl ⟨rfl, same, (List.cons.inj released).1⟩
  · rw [List.concat_eq_append, ← List.cons_append, ← List.append_assoc] at split
    obtain ⟨same, ends⟩ := List.append_inj' split rfl
    rw [(List.cons.inj ends).1]
    exact Or.inr ⟨trail, List.concat_eq_append, same⟩

/-- What a call of the handling task does to the trails of its releases. -/
structure Advance (tasks : Tasks) (next : HandlePoint × ConnectionUse) (after : Station)
    : Prop where
  sound : after.device.desk.packetsPool.Sound
  held : next.1.Holding → after.device.desk.packetsPool.Outstanding
  releasing
    : ∀ serving, next.1 = .releasing serving → ∃ hndl, next.2 = .closed serving.info hndl
  released
    : ∀ info, next.2 = .released info →
        (∃ serving, tasks.handling = .releasing serving ∧ serving.info = info)
        ∧ Trail after.device.desk.packetsPool.Outstanding info [] next.1
  follows
    : ∀ info trail,
        Trail tasks.station.device.desk.packetsPool.Outstanding info trail tasks.handling →
        Trail after.device.desk.packetsPool.Outstanding info (trail ++ [next.2]) next.1

/-- The call returns and advances. -/
def ReturnsAdvanced (tasks : Tasks) (answer : Answer) : Prop :=
  ∃ next after,
    handlingStep answer tasks.handling tasks.station = .ok next after ∧ Advance tasks next after

/-- The call returns and advances, or it does not return at a point apart from the trails. -/
def Advances (tasks : Tasks) (answer : Answer) : Prop :=
  ReturnsAdvanced tasks answer
  ∨ tasks.handling.Apart
    ∧ ∃ e after,
      handlingStep answer tasks.handling tasks.station = .error e after
      ∧ after.device.desk.packetsPool.Sound

/-- A call that advances keeps the trails. -/
theorem Trailing.advance {tasks : Tasks} (trailing : Trailing tasks)
    {next : HandlePoint × ConnectionUse} {after : Station} (advance : Advance tasks next after)
    : Trailing
        { tasks with station := after, handling := next.1, uses := tasks.uses ++ [next.2] } where
  sound := advance.sound
  held := advance.held
  releasing serving point := by
    obtain ⟨hndl, did⟩ := advance.releasing serving point
    exact ⟨tasks.uses, hndl, by rw [← did]⟩
  closed before info trail split := by
    rcases append_eq_cons_released split with ⟨-, same, did⟩ | ⟨trail, -, earlier⟩
    · obtain ⟨⟨serving, point, own⟩, -⟩ := advance.released info did
      rw [← same, ← own]
      exact trailing.releasing serving point
    · exact trailing.closed before info trail earlier
  trail before info trail split := by
    rcases append_eq_cons_released split with ⟨none, -, did⟩ | ⟨trail, more, earlier⟩
    · rw [none]
      exact (advance.released info did).2
    · rw [more]
      exact advance.follows info trail (trailing.trail before info trail earlier)

-----------------------------------------------------------------------------------------
-- The calls of the handling task
-----------------------------------------------------------------------------------------

section Calls

variable {tasks : Tasks} {next : HandlePoint × ConnectionUse} {after : Station}

/-- At a point apart from the trails each has already come to its use. -/
theorem Trail.apart {before after : Prop} {info : Nat} {trail : List ConnectionUse}
    {point next : HandlePoint} (followed : Trail before info trail point) (apart : point.Apart)
    (did : ConnectionUse) : Trail after info (trail ++ [did]) next := by
  cases followed with
  | put | draw | read => cases apart
  | used info later point => exact .used info (later ++ [did]) next

/-- If the task stops at such a point, the trail stays. -/
theorem Trail.stopped {before after : Prop} {info : Nat} {trail : List ConnectionUse}
    {point : HandlePoint} (followed : Trail before info trail point) (apart : point.Apart)
    : Trail after info trail .stopped := by
  cases followed with
  | put | draw | read => cases apart
  | used info later point => exact .used info later .stopped

/-- What a call at such a point has to be, if it does not release. -/
theorem Advance.apart (apart : tasks.handling.Apart)
    (sound : after.device.desk.packetsPool.Sound)
    (held : next.1.Holding → after.device.desk.packetsPool.Outstanding)
    (releasing : ∀ serving, next.1 ≠ .releasing serving) (kept : ∀ info, next.2 ≠ .released info)
    : Advance tasks next after where
  sound := sound
  held := held
  releasing serving point := absurd point (releasing serving)
  released info did := absurd did (kept info)
  follows _ _ followed := followed.apart apart next.2

/-- Such a call that ends where no packet is held. -/
theorem Advance.free {point : HandlePoint} (here : tasks.handling = point) (apart : point.Apart)
    (sound : after.device.desk.packetsPool.Sound) (free : ¬ next.1.Holding)
    (kept : ∀ info, next.2 ≠ .released info) : Advance tasks next after :=
  .apart (apart_at here apart) sound (fun held => absurd held free) (ne_releasing free) kept

/-- The call leaves the packets alone, is no release and ends where no packet is held. -/
structure PassesBy (tasks : Tasks) (next : HandlePoint × ConnectionUse) (after : Station)
    : Prop where
  same : SamePool tasks.station after
  free : ¬ next.1.Holding
  kept : ∀ info, next.2 ≠ .released info

theorem PassesBy.advance (passes : PassesBy tasks next after) (trailing : Trailing tasks)
    (apart : tasks.handling.Apart) : Advance tasks next after := by
  have sound := trailing.sound
  rw [← passes.same] at sound
  exact .free rfl apart sound passes.free passes.kept

/-- The next entry that is served is taken or drained. -/
theorem nextEntry_free (station : Station) (readFd : List Int) (status : Int)
    (groups : List PacketGroup) : ¬ (nextEntry station readFd status groups).Holding := by
  induction groups with
  | nil => exact id
  | cons i groups ih =>
      rw [nextEntry]
      cases station.connInfo i with
      | none => exact ih
      | some info =>
          dsimp only
          split
          · split
            · exact id
            · split
              · exact id
              · exact ih
          · exact ih

/-- The calls for connections outside `close_conn`, `select` and the sending of a packet. -/
def HandlePoint.Passing : HandlePoint → Prop
  | .awaiting | .selecting _ _ | .sending _ | .looking | .refusing _ _ | .stopped => True
  | _ => False

theorem sendOut_samePool (hndl : Int) : Moves SamePool (sendOut hndl) := by
  rw [sendOut]
  refine .bind (switchTasks_moves samePool_frame.listened) fun _ station => ?_
  exact IsTrans.trans _ _ _ (samePool_frame.setSocket station hndl _) (awaitStatus_moves _ _)

/-- Such a call passes, by its point. -/
theorem passing_step (answer : Answer) {point : HandlePoint} (passing : point.Passing)
    : Triple (SamePool tasks.station) (handlingStep answer point)
        (fun next after => PassesBy tasks next after) (fun _ => SamePool tasks.station) := by
  have leave {next : HandlePoint} (free : ¬ next.Holding) {did : ConnectionUse}
      (kept : ∀ info, did ≠ .released info)
      : Triple (SamePool tasks.station) (pure (next, did) : StationM _) (PassesBy tasks)
          (fun _ => SamePool tasks.station) :=
    .pure fun _ same => ⟨same, free, kept⟩
  have frame := samePool_frame
  cases point with
  | taking | receiving | processing | closing | releasing | putting | drawing | reading
  | dropping => cases passing
  | awaiting =>
      refine .bind ((awaitConnection_moves frame answer.missed).triple _) fun info => ?_
      refine .bind (.modify (Q := fun _ => SamePool tasks.station) fun _ same => same) fun _ => ?_
      refine .bind (Moves.get.triple _) fun station => ?_
      refine leave id fun _ did => ?_
      split at did <;> cases did
  | selecting maxFd readFd =>
      refine .bind ((switchTasks_moves frame.listened).triple _) fun _ => .ite ?_ ?_
      · refine .bind (Moves.get.triple _) fun station => ?_
        exact leave (nextEntry_free _ _ _ _) fun _ did => by cases did
      · exact leave id fun _ did => by cases did
  | sending serving =>
      refine .bind ((sendOut_samePool serving.hndl).triple _) fun _ => ?_
      exact leave id fun _ did => by cases did
  | looking =>
      refine .bind ((lookForConnection_moves frame answer.missed).triple _) fun found => ?_
      cases found with
      | none =>
          refine .bind (Moves.get.triple _) fun station => ?_
          exact leave id fun _ did => by cases did
      | some info =>
          refine .bind (Moves.get.triple _) fun station => .ite ?_ ?_
          · exact leave id fun _ did => by cases did
          · refine .bind (.modify (Q := fun _ => SamePool tasks.station) fun _ same => same)
              fun _ => ?_
            refine .bind (Moves.get.triple _) fun station => ?_
            exact leave id fun _ did => by cases did
  | refusing info hndl =>
      refine .bind ((disableFrom_moves frame info hndl).triple _) fun _ => ?_
      refine .bind (Moves.get.triple _) fun station => ?_
      exact leave id fun _ did => by cases did
  | stopped => exact .throw fun _ same => same

theorem takePacket_pool (station : Station)
    : ∃ status after,
        takePacket station = .ok status after
        ∧ after.device.desk.packetsPool
          = (poolGet station.device.desk.packetsPool station.device.desk.nextBlock).pool := by
  refine ⟨_, _, rfl, ?_⟩
  change station.listened.device.desk.packetGot.packetsPool = _
  rw [(listened_unlistened station).device]
  rfl

theorem putPacket_pool (station : Station)
    : ∃ packet after,
        putPacket station = .ok (poolRelease station.device.desk.packetsPool packet).1 after
        ∧ after.device.desk.packetsPool
          = (poolRelease station.device.desk.packetsPool packet).2 := by
  have run : putPacket station
      = .ok (poolRelease station.listened.device.desk.packetsPool station.listened.packet).1
          { station.listened with
            device :=
              { station.listened.device with
                desk :=
                  { station.listened.device.desk with
                    packetsPool :=
                      (poolRelease station.listened.device.desk.packetsPool
                        station.listened.packet).2 } } } :=
    rfl
  rw [(listened_unlistened station).device] at run
  exact ⟨_, _, run, rfl⟩

theorem readReply_pool (missed : Bool) (info : Nat) (station : Station)
    : ∃ status after,
        readReply missed info station = .ok status after ∧ SamePool station after := by
  cases missed with
  | true => exact ⟨_, _, rfl, rfl⟩
  | false =>
      refine ⟨_, _, rfl, ?_⟩
      change station.listened.device.desk.packetsPool = _
      rw [(listened_unlistened station).device]

/-- A handler leaves the counters of the pool in order. -/
theorem handOver_keepsSound (info : Nat)
    : Moves (fun before after => KeepsSound before.device.desk after.device.desk)
        (handOver info) := by
  intro station
  have moves (outQueue packet : Nat)
      : Moves (fun before after : Station => KeepsSound before.device.desk after.device.desk)
          (onDevice (processPacket outQueue packet)) :=
    (processPacket_ofDesks keepsSound_frame outQueue packet).onPart fun _ _ moved => moved
  exact moves _ _ (station.note _)

variable {serving : Serving} (trailing : Trailing tasks) (answer : Answer)

include trailing

/-- The packet for a connection with data to read is held. -/
theorem taking_advance (point : tasks.handling = .taking serving)
    : ReturnsAdvanced tasks answer := by
  obtain ⟨status, after, run, pool⟩ := takePacket_pool tasks.station
  rw [ReturnsAdvanced, point]
  refine ⟨_, after, bind_ok run, .apart (apart_at point True.intro) ?_ (fun _ => ?_) ?_ ?_⟩
  · rw [pool]
    exact trailing.sound.got _
  · rw [pool]
    exact trailing.sound.outstanding _
  · exact fun _ h => by cases h
  · exact fun _ h => by cases h

/-- A release of a packet succeeds while one is outstanding, and the loop that sends begins. -/
theorem putting_advance (point : tasks.handling = .putting serving)
    : ReturnsAdvanced tasks answer := by
  obtain ⟨packet, after, run, pool⟩ := putPacket_pool tasks.station
  let rest : Serving := { serving with readFd := serving.readFd.filter (· ≠ serving.hndl) }
  have free : ¬ (rest.drain (poolRelease tasks.station.device.desk.packetsPool packet).1
      after).Holding := by
    rw [Serving.drain]
    split
    · exact id
    · exact nextEntry_free _ _ _ _
  rw [ReturnsAdvanced, point]
  refine ⟨_, after, bind_ok run, ?_, fun held => absurd held free, fun serving releases => ?_,
    fun info did => ?_, fun info trail followed => ?_⟩
  · rw [pool]
    exact trailing.sound.released packet
  · exact absurd releases (ne_releasing free serving)
  · cases did
  · rw [point] at followed
    cases followed with
    | put serving held =>
        rcases poolRelease_cases tasks.station.device.desk.packetsPool packet with
            ⟨all, -⟩ | ⟨-, released⟩
        · exact absurd all (Nat.ne_of_lt held)
        · rw [released]
          exact .draw rest
    | used info later => exact .used info (later ++ [.other]) _

/-- The loop that sends gets a packet. -/
theorem drawing_advance (point : tasks.handling = .drawing serving)
    : ReturnsAdvanced tasks answer := by
  obtain ⟨status, after, run, pool⟩ := takePacket_pool tasks.station
  rw [ReturnsAdvanced, point]
  refine ⟨_, after, bind_ok run, ?_, fun held => held.elim, fun serving next => ?_,
    fun info did => ?_, fun info trail followed => ?_⟩
  · rw [pool]
    exact trailing.sound.got _
  · cases next
  · cases did
  · rw [point] at followed
    cases followed with
    | draw => exact .read serving
    | used info later => exact .used info (later ++ [.other]) _

/-- The loop that sends reads the `out_queue`. -/
theorem reading_advance (point : tasks.handling = .reading serving)
    : ReturnsAdvanced tasks answer := by
  obtain ⟨status, after, run, pool⟩ := readReply_pool answer.missed serving.info tasks.station
  have step : ∃ next,
      handlingStep answer (.reading serving) tasks.station
        = .ok (next, .readOut serving.info) after
      ∧ ¬ next.Holding := by
    have goes : handlingStep answer (.reading serving) tasks.station
        = (if status ≥ 0 then pure (.sending serving, .readOut serving.info)
            else do
              return (nextEntry (← get) serving.readFd status serving.later, .readOut serving.info)
            : StationM (HandlePoint × ConnectionUse)) after := bind_ok run
    rw [goes]
    split
    · exact ⟨_, rfl, id⟩
    · exact ⟨_, rfl, nextEntry_free _ _ _ _⟩
  obtain ⟨next, step, free⟩ := step
  rw [ReturnsAdvanced, point]
  refine ⟨_, after, step, ?_, fun held => absurd held free, fun serving releases => ?_,
    fun info did => ?_, fun info trail followed => ?_⟩
  · rw [pool]
    exact trailing.sound
  · exact absurd releases (ne_releasing free serving)
  · cases did
  · rw [point] at followed
    cases followed with
    | read => exact .used serving.info [] next
    | used info later => exact .used info (later ++ [_]) _

/-- The packet that was sent is released. -/
theorem dropping_advance (point : tasks.handling = .dropping serving)
    : ReturnsAdvanced tasks answer := by
  obtain ⟨packet, after, run, pool⟩ := putPacket_pool tasks.station
  rw [ReturnsAdvanced, point]
  refine ⟨_, after, bind_ok run, .free point True.intro ?_ id fun _ did => by cases did⟩
  rw [pool]
  exact trailing.sound.released packet

/-- The release in `close_conn` leaves a trail if it succeeds. -/
theorem releasing_advance (point : tasks.handling = .releasing serving)
    : ReturnsAdvanced tasks answer := by
  have run : ∃ status after,
      releaseConnection serving.info tasks.station = .ok status after
      ∧ SamePool tasks.station after := by
    refine ⟨_, _, rfl, ?_⟩
    change tasks.station.listened.device.desk.packetsPool = _
    rw [(listened_unlistened tasks.station).device]
  obtain ⟨status, after, run, pool⟩ := run
  have apart := apart_at point True.intro
  have held := trailing.outstanding point True.intro
  have sound := trailing.sound
  rw [← pool] at held sound
  rw [ReturnsAdvanced, point]
  refine ⟨_, after, bind_ok run, sound, fun held => held.elim, fun _ next => (by cases next),
    fun info did => ?_, fun info trail followed => followed.apart apart _⟩
  dsimp only at did
  split at did
  · cases did
  · cases did
    exact ⟨⟨serving, point, rfl⟩, .put serving held⟩

/-- The packet stays held while it is received. -/
theorem receiving_step (point : tasks.handling = .receiving serving)
    : Triple (SamePool tasks.station) (handlingStep answer tasks.handling) (Advance tasks)
        (fun _ => SamePool tasks.station) := by
  have apart := apart_at point True.intro
  have held := trailing.outstanding point True.intro
  have receive : Moves SamePool (receiveInto serving.hndl) := by
    intro station
    rw [receiveInto_eq]
    have stored : SamePool station.listened (station.listened.afterReceive serving.hndl) := rfl
    exact IsTrans.trans _ _ _ (samePool_frame.listened station)
      (IsTrans.trans _ _ _ stored (awaitStatus_moves _ _))
  rw [point]
  refine .bind (receive.triple _) fun status => .bind .get fun read => .ite ?_ ?_
  · rintro after ⟨rfl, same⟩
    have sound := trailing.sound
    rw [← same] at sound held
    exact .apart apart sound (fun _ => held) (fun _ next => by cases next) fun _ did => by cases did
  · rintro after ⟨rfl, same⟩
    have sound := trailing.sound
    rw [← same] at sound
    exact .free point True.intro sound id fun _ did => by cases did

/-- The handler may get packets. -/
theorem processing_step (point : tasks.handling = .processing serving)
    : Triple (SamePool tasks.station) (handlingStep answer tasks.handling) (Advance tasks)
        (fun _ after => after.device.desk.packetsPool.Sound) := by
  have handles : Triple (SamePool tasks.station) (handOver serving.info)
      (fun _ after => after.device.desk.packetsPool.Sound)
      (fun _ after => after.device.desk.packetsPool.Sound) := by
    have keeps := (handOver_keepsSound serving.info).preserves fun _ _ kept sound => kept sound
    refine keeps.mono (fun station same => ?_) (fun _ _ h => h) fun _ _ h => h
    rw [same]
    exact trailing.sound
  have passes (after : Station) (sound : after.device.desk.packetsPool.Sound)
      : Advance tasks (.putting serving, .other) after :=
    .free point True.intro sound id fun _ did => by cases did
  rw [point]
  exact .bind handles fun _ => .pure passes

/-- The `close` in `close_conn` goes on to the release if it succeeds. -/
theorem closing_step {hndl : Int} (point : tasks.handling = .closing serving hndl)
    : Triple (SamePool tasks.station) (handlingStep answer tasks.handling) (Advance tasks)
        (fun _ => SamePool tasks.station) := by
  have apart := apart_at point True.intro
  have held := trailing.outstanding point True.intro
  have sound {after : Station} (same : SamePool tasks.station after)
      : after.device.desk.packetsPool.Sound ∧ after.device.desk.packetsPool.Outstanding := by
    rw [same]
    exact ⟨trailing.sound, held⟩
  rw [point]
  refine .bind ((disableFrom_moves samePool_frame serving.info hndl).triple _) fun status => ?_
  refine .ite ?_ ?_
  · exact .pure fun after same =>
      .free point True.intro (sound same).1 id fun _ did => by cases did
  · refine .pure fun after same => ⟨(sound same).1, fun _ => (sound same).2, ?_, ?_, ?_⟩
    · intro serving next
      cases next
      exact ⟨_, rfl⟩
    · exact fun _ did => by cases did
    · exact fun info trail followed => followed.apart apart _

end Calls

-----------------------------------------------------------------------------------------
-- Runs
-----------------------------------------------------------------------------------------

/-- Every call of the handling task advances, by its point. -/
theorem handlingStep_advances {tasks : Tasks} (trailing : Trailing tasks) (answer : Answer)
    : Advances tasks answer := by
  have ends (apart : tasks.handling.Apart)
      (step
        : Triple (SamePool tasks.station) (handlingStep answer tasks.handling) (Advance tasks)
            (fun _ after => after.device.desk.packetsPool.Sound))
      : Advances tasks answer := by
    have run := step tasks.station rfl
    cases result : handlingStep answer tasks.handling tasks.station with
    | ok next after =>
        rw [result] at run
        exact Or.inl ⟨next, after, result, run⟩
    | error e after =>
        rw [result] at run
        exact Or.inr ⟨apart, e, after, result, run⟩
  have quiet (apart : tasks.handling.Apart)
      (step
        : Triple (SamePool tasks.station) (handlingStep answer tasks.handling) (Advance tasks)
            (fun _ => SamePool tasks.station))
      : Advances tasks answer := by
    refine ends apart (step.mono (fun _ h => h) (fun _ _ h => h) fun _ after same => ?_)
    rw [same]
    exact trailing.sound
  have passes (passing : tasks.handling.Passing) (apart : tasks.handling.Apart) :=
    quiet apart ((passing_step answer passing).mono (fun _ h => h)
      (fun _ _ passes => passes.advance trailing apart) fun _ _ h => h)
  cases point : tasks.handling with
  | taking serving => exact Or.inl (taking_advance trailing answer point)
  | putting serving => exact Or.inl (putting_advance trailing answer point)
  | drawing serving => exact Or.inl (drawing_advance trailing answer point)
  | reading serving => exact Or.inl (reading_advance trailing answer point)
  | dropping serving => exact Or.inl (dropping_advance trailing answer point)
  | releasing serving => exact Or.inl (releasing_advance trailing answer point)
  | receiving serving =>
      exact quiet (apart_at point True.intro) (receiving_step trailing answer point)
  | closing serving hndl =>
      exact quiet (apart_at point True.intro) (closing_step trailing answer point)
  | processing serving =>
      exact ends (apart_at point True.intro) (processing_step trailing answer point)
  | _ =>
      rw [point] at passes
      exact passes True.intro True.intro

/-- A turn of either task keeps the trails. -/
theorem step_trailing (tasks : Tasks) (turn : Turn) (trailing : Trailing tasks)
    : Trailing (tasks.step turn) := by
  cases turn with
  | listening refused => exact listening_trailing trailing refused
  | handling answer =>
      rw [Tasks.step]
      rcases handlingStep_advances trailing answer with
          ⟨next, after, run, advance⟩ | ⟨apart, e, after, run, sound⟩
      · rw [run]
        exact trailing.advance advance
      · have stopped : Trailing { tasks with station := after, handling := .stopped } :=
          ⟨sound, fun held => held.elim, fun _ point => (by cases point), trailing.closed,
            fun before info trail split => (trailing.trail before info trail split).stopped apart⟩
        rw [run]
        cases e with
        | waiting => exact trailing
        | _ => exact stopped

/-- With `k` more uses, at most two uses follow each release. -/
def Since (k : Nat) (uses : List ConnectionUse) : Prop :=
  ∀ before info after, uses = before ++ .released info :: after → after.length + k ≤ 2

/-- One more use is one that follows each release, or a release itself. -/
theorem since_append {k : Nat} {uses : List ConnectionUse} {did : ConnectionUse}
    : Since k (uses ++ [did]) ↔ Since (k + 1) uses ∧ (∀ info, did = .released info → k ≤ 2) := by
  constructor
  · refine fun since => ⟨fun before info after split => ?_, fun info released => ?_⟩
    · have more := since before info (after ++ [did]) (by rw [split, List.append_assoc]; rfl)
      rw [List.length_append, List.length_singleton] at more
      omega
    · have last := since uses info [] (by rw [released])
      rwa [List.length_nil, Nat.zero_add] at last
  · rintro ⟨since, released⟩ before info after split
    rcases append_eq_cons_released split with ⟨none, -, did⟩ | ⟨trail, more, earlier⟩
    · rw [none, List.length_nil, Nat.zero_add]
      exact released info did
    · have fewer := since before info trail earlier
      rw [more, List.length_append, List.length_singleton]
      omega

/-- At a point apart from the trails every release is followed by more than two uses. -/
theorem Trailing.since_apart {tasks : Tasks} (trailing : Trailing tasks)
    (apart : tasks.handling.Apart) (j k : Nat) : Since j tasks.uses ↔ Since k tasks.uses := by
  have none {k : Nat} (since : Since k tasks.uses) (before : List ConnectionUse) (info : Nat)
      (after : List ConnectionUse) : tasks.uses ≠ before ++ .released info :: after := by
    intro split
    have few := since before info after split
    have trail : Trail True info after .stopped :=
      (trailing.trail before info after split).stopped apart
    cases trail with
    | used info later => simp only [List.length_cons] at few; omega
  exact ⟨fun since _ _ _ split => absurd split (none since _ _ _),
    fun since _ _ _ split => absurd split (none since _ _ _)⟩

/-- The task calls with nothing scheduled within a call. -/
def KeepsUnscheduled (before after : Station) : Prop :=
  before.schedule = [] → after.schedule = []

instance : Std.Refl KeepsUnscheduled := ⟨fun _ h => h⟩

instance : IsTrans Station KeepsUnscheduled := ⟨fun _ _ _ one two h => two (one h)⟩

theorem keepsUnscheduled_frame : TaskFrame KeepsUnscheduled where
  listened station unscheduled := by rwa [listened_of_unscheduled unscheduled]
  setSocket _ _ _ h := h
  setConn _ _ _ h := h
  connectionsPool _ _ h := h
  connectionsQueue _ _ h := h
  forgotten _ _ h := h
  taken _ _ h := h
  device _ _ h := h
  held _ _ _ h := h

theorem step_unscheduled {tasks : Tasks} (unscheduled : tasks.station.schedule = []) (turn : Turn)
    : (tasks.step turn).station.schedule = [] := by
  cases turn with
  | listening refused =>
      change (listeningCall refused tasks.station).schedule = []
      rw [listeningCall]
      split
      · split
        · exact unscheduled
        · rw [listeningStep_schedule, unscheduled]
      · rw [listeningStep_schedule, unscheduled]
  | handling answer =>
      have moved := handlingStep_moves keepsUnscheduled_frame (fun _ _ h => h) (fun _ _ _ h => h)
        answer tasks.handling tasks.station unscheduled
      rw [Tasks.step]
      cases run : handlingStep answer tasks.handling tasks.station with
      | ok next after =>
          rw [run] at moved
          exact moved
      | error e after =>
          rw [run] at moved
          cases e with
          | waiting => exact unscheduled
          | _ => exact moved

/-- The release in `close_conn` succeeds exactly if something of the pool is handed out. -/
theorem releasing_did {station : Station} (unscheduled : station.schedule = []) (answer : Answer)
    (serving : Serving)
    : ∃ after,
        handlingStep answer (.releasing serving) station
        = .ok
            (.putting serving,
              if station.connectionsPool.freeItems = station.connectionsPool.poolSize then .other
              else .released serving.info)
            after := by
  have run := releaseConnection_eq unscheduled serving.info
  have goes : handlingStep answer (.releasing serving) station = _ := bind_ok run
  rcases poolRelease_cases station.connectionsPool serving.info with
      ⟨full, released⟩ | ⟨out, released⟩
  · rw [released] at goes
    rw [if_pos full]
    exact ⟨_, goes⟩
  · rw [released] at goes
    rw [if_neg out]
    exact ⟨_, goes⟩

/-- A turn of the handling task adds a use, which is a release exactly if the turn releases, or none
at a point apart from the trails.
-/
theorem handling_uses {tasks : Tasks} (trailing : Trailing tasks)
    (unscheduled : tasks.station.schedule = []) (answer : Answer)
    : (∃ did,
        (tasks.step (.handling answer)).uses = tasks.uses ++ [did]
        ∧ (Releases tasks (.handling answer) ↔ ∃ info, did = .released info))
      ∨ tasks.handling.Apart
        ∧ (tasks.step (.handling answer)).uses = tasks.uses
        ∧ ¬ Releases tasks (.handling answer) := by
  rcases handlingStep_advances trailing answer with
      ⟨next, after, run, advance⟩ | ⟨apart, e, after, run, -⟩
  · refine Or.inl ⟨next.2, by rw [Tasks.step, run], ?_, ?_⟩
    · rintro ⟨⟨serving, point⟩, out⟩
      obtain ⟨_, goes⟩ := releasing_did unscheduled answer serving
      rw [if_neg out, ← point, run] at goes
      cases goes
      exact ⟨serving.info, rfl⟩
    · rintro ⟨info, did⟩
      obtain ⟨⟨serving, point, -⟩, -⟩ := advance.released info did
      refine ⟨⟨serving, point⟩, fun full => ?_⟩
      obtain ⟨_, goes⟩ := releasing_did unscheduled answer serving
      rw [if_pos full, ← point, run] at goes
      cases goes
      cases did
  · refine Or.inr ⟨apart, ?_, ?_⟩
    · rw [Tasks.step, run]
      cases e <;> rfl
    · rintro ⟨⟨serving, point⟩, -⟩
      obtain ⟨_, _, goes, -⟩ := releasing_advance trailing answer point
      rw [run] at goes
      cases goes

/-- How many uses follow each release at the end of a run, by induction on the turns. -/
theorem since_afterTurns (turns : List Turn) {tasks : Tasks} (trailing : Trailing tasks)
    (unscheduled : tasks.station.schedule = [])
    : Since 0 (afterTurns Tasks.step turns tasks).uses
      ↔ Since (turns.countP Turn.OfHandling) tasks.uses ∧ ReleasesLast turns tasks := by
  induction turns generalizing tasks with
  | nil => exact (and_iff_left True.intro).symm
  | cons turn turns ih =>
      have rest := ih (step_trailing tasks turn trailing) (step_unscheduled unscheduled turn)
      refine rest.trans ?_
      rw [ReleasesLast, ← and_assoc]
      refine and_congr_left' ?_
      cases turn with
      | listening refused => exact (and_iff_left (fun releases => releases.elim)).symm
      | handling answer =>
          rw [List.countP_cons_of_pos rfl]
          rcases handling_uses trailing unscheduled answer with
              ⟨did, uses, releases⟩ | ⟨apart, uses, stays⟩
          · rw [uses, since_append, releases, forall_exists_index]
          · rw [uses, and_iff_left fun releases => absurd releases stays]
            exact trailing.since_apart apart _ _

/-- The third use of a trail, but none before, is of the connection. -/
theorem Trail.third {outstanding : Prop} {info : Nat} {trail : List ConnectionUse}
    {point : HandlePoint} (followed : Trail outstanding info trail point)
    : (trail.length ≤ 2 ∧ ∀ use ∈ trail, use = .other)
      ∨ ∃ later, trail = .other :: .other :: .readOut info :: later := by
  cases followed with
  | put | draw | read => exact Or.inl (by simp)
  | used info later => exact Or.inr ⟨later, rfl⟩

/-- A released connection is used again at the third call. -/
theorem Trailing.noUseAfterClose_iff {tasks : Tasks} (trailing : Trailing tasks)
    : NoUseAfterClose tasks.uses ↔ Since 0 tasks.uses := by
  constructor
  · intro unused before info after split
    rcases (trailing.trail before info after split).third with ⟨few, -⟩ | ⟨later, rfl⟩
    · exact few
    · obtain ⟨earlier, hndl, rfl⟩ := trailing.closed before info _ split
      have again := unused earlier info hndl [.other, .other] (.readOut info) later
        (by rw [split]; simp) (Or.inl rfl)
      simp at again
  · intro since before info hndl middle use after split either
    have released
        : tasks.uses
          = (before ++ [.closed info hndl]) ++ .released info :: (middle ++ use :: after) := by
      rw [split]
      simp
    rcases (trailing.trail _ info _ released).third with ⟨-, others⟩ | ⟨later, used⟩
    · have other := others use (by simp)
      rcases either with rfl | rfl <;> cases other
    · have few := since _ info _ released
      rw [used] at few
      simp only [List.length_cons] at few
      omega

/-- Whatever arrives and however the tasks take turns: no connection is used after its close exactly
if the handling task has at most two calls after each release in `close_conn`.
-/
theorem tasks_noUseAfterClose_iff (station : Station) (turns : List Turn)
    : NoUseAfterClose (afterTurns Tasks.step turns (.start station)).uses
      ↔ ReleasesLast turns (.start station) := by
  have trailing := afterTurns_invariant step_trailing turns (start_trailing station)
  have none (k : Nat) : Since k (Tasks.start station).uses := by
    intro before info after split
    cases before <;> cases split
  rw [trailing.noUseAfterClose_iff, since_afterTurns turns (start_trailing station) rfl,
    and_iff_right (none _)]

/-- A client closes its connection, and the loop that sends reads the `out_queue` of the object that
was given back.
-/
theorem tasks_use_after_close
    : ¬ NoUseAfterClose
        (afterTurns Tasks.step (clientTurns ++ handlingTurns 9 1)
          (.start (twoClients closingClient quietClient))).uses := by
  intro unused
  have uses
      : (afterTurns Tasks.step (clientTurns ++ handlingTurns 9 1)
          (.start (twoClients closingClient quietClient))).uses
        = [ConnectionUse.obtained 0, .other, .other, .other]
          ++ [ConnectionUse.closed 0 1, .released 0]
          ++ [ConnectionUse.other, .other]
          ++ ConnectionUse.readOut 0 :: [] := by
    decide +kernel
  have again := unused _ 0 1 [.other, .other] (.readOut 0) [] uses (Or.inl rfl)
  revert again
  decide

end BigBlackHardware
