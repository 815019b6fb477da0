import BigBlackHardware.Udp.Lifecycle

/-! The invariant behind proper runs of the resolver: who still holds a key buffer or a socket that
can be freed or closed.
-/

namespace BigBlackHardware.UdpResolver

open Library

/-- An event that frees, closes or reads something that is still there. -/
def RightLifecycleEvent (before : List LifecycleEvent) : LifecycleEvent → Prop
  | .freed key => .freed key ∉ before
  | .closed sock => .closed sock ∉ before
  | .keyRead key => .freed key ∉ before
  | _ => True

/-- A log of such events keeps the contract. -/
theorem lifecycleKept_of_each {log : List LifecycleEvent}
    (each : EachAfter RightLifecycleEvent [] log) : LifecycleKept log where
  freedOnce _ := each.count_le_one fun _ right => right
  closedOnce _ := each.count_le_one fun _ right => right
  readsUnfreed _ _ _ split := each.split split

/-- The key that `cmp_keys` was called with, at the stage of it. -/
def ResolverStage.heldKey : ResolverStage → Option Nat
  | .comparing key => some key
  | _ => none

namespace Lifecycle

/-- A task is left that has its `close` still to come. -/
def TaskLeft (system : Lifecycle) : Prop := ∃ task ∈ system.tasks, task.beforeClose = true

/-- The key that `cfg.key` points to is not freed. -/
def KeyFresh (system : Lifecycle) : Prop :=
  ∀ key, system.cfgKey = some key → .freed key ∉ system.log

/-- The socket that `listen_sock` names, if it names one, is not closed. -/
def Closable (system : Lifecycle) : Prop :=
  ∀ sock, system.named = some sock → .closed sock ∉ system.log

/-- What the caller relies on where it is. -/
def CallerSound (system : Lifecycle) : Prop :=
  match system.caller with
  | .idle => system.TaskLeft ∨ system.SocketOpen → system.KeyFresh
  | .copying _ | .creating => system.KeyFresh
  | .freeing => system.KeyFresh ∧ system.Closable ∧ system.OnlyHandle
  | .closing => system.Closable ∧ system.OnlyHandle
  | .deleting => ¬ system.SocketOpen ∧ system.OnlyHandle

/-- The key is there, or a stop under way has freed it. -/
def KeyThere (system : Lifecycle) (key : Nat) : Prop :=
  .freed key ∉ system.log ∨ (system.caller.behindFree = true ∧ system.cfgKey = some key)

/-- What a task relies on. -/
structure TaskSound (system : Lifecycle) (task : ResolverTask) : Prop where
  /-- The socket that it is to close is open, unless a stop is about to delete the task. -/
  unclosed
    : system.caller.behindClose = false → task.beforeClose = true →
        ∀ sock, task.sock = some sock → .closed sock ∉ system.log
  opened : ∀ sock, task.sock = some sock → sock < system.opened
  key : ∀ key, task.stage = .comparing key → system.KeyThere key

/-- The invariant of proper runs. -/
structure Sound (system : Lifecycle) : Prop where
  log : EachAfter RightLifecycleEvent [] system.log
  keyBelow : ∀ key, system.cfgKey = some key → key < system.allocated
  freedBelow : ∀ key, .freed key ∈ system.log → key < system.allocated
  closedBelow : ∀ sock, .closed sock ∈ system.log → sock < system.opened
  namedBelow : ∀ sock, system.named = some sock → sock < system.opened
  tasks : ∀ task ∈ system.tasks, system.TaskSound task
  /-- No two tasks have opened the same socket. -/
  apart
    : ∀ left ∈ system.tasks, ∀ right ∈ system.tasks, ∀ sock,
        left.sock = some sock → right.sock = some sock → left.id = right.id
  caller : system.CallerSound

theorem boot_sound (memory : Nat → Cells UInt8) : (boot memory).Sound where
  log := trivial
  keyBelow _ none := by cases none
  freedBelow _ none := by cases none
  closedBelow _ none := by cases none
  namedBelow _ none := by cases none
  tasks _ none := by cases none
  apart _ none := by cases none
  caller _ _ none := by cases none

-----------------------------------------------------------------------------------------
-- Changes of a part
-----------------------------------------------------------------------------------------

section Changes

variable {system : Lifecycle}

/-- What the caller relies on stays where it changes for the better only. A socket may be opened
while a task is left, unless a stop is behind its `close`.
-/
theorem CallerSound.mono {next : Lifecycle} (sound : system.CallerSound)
    (caller : next.caller = system.caller) (fresh : system.KeyFresh → next.KeyFresh)
    (closable : system.caller.stopping = true → system.Closable → next.Closable)
    (only : system.OnlyHandle → next.OnlyHandle) (left : next.TaskLeft → system.TaskLeft)
    (opened
      : next.SocketOpen →
          system.SocketOpen ∨ (system.caller.behindClose = false ∧ system.TaskLeft))
    : next.CallerSound := by
  rw [CallerSound] at sound ⊢
  rw [caller]
  cases stage : system.caller with
  | idle =>
      rw [stage] at sound
      intro some
      refine fresh (sound ?_)
      rcases some with task | sock
      · exact Or.inl (left task)
      · rcases opened sock with before | ⟨-, task⟩
        · exact Or.inr before
        · exact Or.inl task
  | copying key =>
      rw [stage] at sound
      exact fresh sound
  | creating =>
      rw [stage] at sound
      exact fresh sound
  | freeing =>
      rw [stage] at sound closable
      exact ⟨fresh sound.1, closable rfl sound.2.1, only sound.2.2⟩
  | closing =>
      rw [stage] at sound closable
      exact ⟨closable rfl sound.1, only sound.2⟩
  | deleting =>
      rw [stage] at sound opened
      refine ⟨fun sock => ?_, only sound.2⟩
      rcases opened sock with before | ⟨behind, -⟩
      · exact sound.1 before
      · cases behind

/-- A task that comes from another one and relies on nothing more. -/
structure Follows (system : Lifecycle) (task next : ResolverTask) : Prop where
  id : next.id = task.id
  sock : next.sock = task.sock
  before : next.beforeClose = true → task.beforeClose = true
  key : ∀ key, next.stage = .comparing key → system.KeyThere key

/-- The tasks can change to ones that follow from them. -/
theorem Sound.withTasks (sound : system.Sound) {tasks : List ResolverTask}
    (follow : ∀ next ∈ tasks, ∃ task ∈ system.tasks, system.Follows task next)
    : ({ system with tasks := tasks } : Lifecycle).Sound := by
  refine ⟨sound.log, sound.keyBelow, sound.freedBelow, sound.closedBelow, sound.namedBelow, ?_, ?_,
    ?_⟩
  · intro next member
    obtain ⟨task, was, follows⟩ := follow next member
    have relies := sound.tasks task was
    refine ⟨fun caller before sock own => ?_, fun sock own => ?_, follows.key⟩
    · exact relies.unclosed caller (follows.before before) sock (follows.sock.symm.trans own)
    · exact relies.opened sock (follows.sock.symm.trans own)
  · intro left leftIn right rightIn sock leftOwns rightOwns
    obtain ⟨first, firstIn, fromFirst⟩ := follow left leftIn
    obtain ⟨second, secondIn, fromSecond⟩ := follow right rightIn
    rw [fromFirst.id, fromSecond.id]
    exact sound.apart first firstIn second secondIn sock (fromFirst.sock.symm.trans leftOwns)
      (fromSecond.sock.symm.trans rightOwns)
  · refine sound.caller.mono rfl (fun fresh => fresh) (fun _ closable => closable) ?_ ?_ Or.inl
    · intro only next member before
      obtain ⟨task, was, follows⟩ := follow next member
      exact follows.id.trans (only task was (follows.before before))
    · rintro ⟨next, member, before⟩
      obtain ⟨task, was, follows⟩ := follow next member
      exact ⟨task, was, follows.before before⟩

theorem Sound.follows_refl (sound : system.Sound) {task : ResolverTask}
    (member : task ∈ system.tasks) : system.Follows task task :=
  ⟨rfl, rfl, fun before => before, (sound.tasks task member).key⟩

theorem Sound.setTask (sound : system.Sound) {task next : ResolverTask}
    (member : task ∈ system.tasks) (follows : system.Follows task next)
    : (system.setTask next).Sound := by
  refine sound.withTasks fun other present => ?_
  obtain ⟨was, wasIn, rfl⟩ := List.mem_map.mp present
  split
  · exact ⟨task, member, follows⟩
  · exact ⟨was, wasIn, sound.follows_refl wasIn⟩

theorem Sound.deleteTask (sound : system.Sound) : system.deleteTask.Sound :=
  sound.withTasks fun task present =>
    ⟨task, List.mem_of_mem_filter present, sound.follows_refl (List.mem_of_mem_filter present)⟩

theorem mem_note {event other : LifecycleEvent}
    : other ∈ (system.note event).log ↔ other ∈ system.log ∨ other = event := by
  rw [note, List.mem_append, List.mem_singleton]

theorem each_note {event : LifecycleEvent} (each : EachAfter RightLifecycleEvent [] system.log)
    (right : RightLifecycleEvent system.log event)
    : EachAfter RightLifecycleEvent [] (system.note event).log :=
  eachAfter_append.mpr ⟨each, right, trivial⟩

/-- An event that frees and closes nothing. -/
def Quiet (event : LifecycleEvent) : Prop :=
  (∀ key, event ≠ .freed key) ∧ ∀ sock, event ≠ .closed sock

theorem freed_mem_note {event : LifecycleEvent} (quiet : Quiet event) {key : Nat}
    : .freed key ∈ (system.note event).log ↔ .freed key ∈ system.log := by
  rw [mem_note]
  exact or_iff_left fun same => quiet.1 key same.symm

theorem closed_mem_note {event : LifecycleEvent} (quiet : Quiet event) {sock : Nat}
    : .closed sock ∈ (system.note event).log ↔ .closed sock ∈ system.log := by
  rw [mem_note]
  exact or_iff_left fun same => quiet.2 sock same.symm

/-- Whatever frees and closes nothing can happen if it reads no key that is freed. -/
theorem Sound.note (sound : system.Sound) {event : LifecycleEvent} (quiet : Quiet event)
    (right : RightLifecycleEvent system.log event) : (system.note event).Sound := by
  have freed {key : Nat} : .freed key ∈ (system.note event).log ↔ .freed key ∈ system.log :=
    freed_mem_note quiet
  have closed {sock : Nat} : .closed sock ∈ (system.note event).log ↔ .closed sock ∈ system.log :=
    closed_mem_note quiet
  refine ⟨each_note sound.log right, sound.keyBelow, ?_, ?_, sound.namedBelow, ?_, sound.apart, ?_⟩
  · exact fun key member => sound.freedBelow key (freed.mp member)
  · exact fun sock member => sound.closedBelow sock (closed.mp member)
  · intro task member
    have relies := sound.tasks task member
    refine ⟨fun caller before sock own => ?_, relies.opened, fun key stage => ?_⟩
    · exact (not_congr closed).mpr (relies.unclosed caller before sock own)
    · exact (relies.key key stage).imp_left (not_congr freed).mpr
  · refine sound.caller.mono rfl ?_ ?_ (fun only => only) (fun left => left) ?_
    · exact fun fresh key held => (not_congr freed).mpr (fresh key held)
    · exact fun _ closable sock named => (not_congr closed).mpr (closable sock named)
    · rintro ⟨sock, named, unclosed⟩
      exact Or.inl ⟨sock, named, (not_congr closed).mp unclosed⟩

end Changes

-----------------------------------------------------------------------------------------
-- The caller
-----------------------------------------------------------------------------------------

section Caller

variable {system : Lifecycle}

/-- Before the `mem_Free` of a stop a key that is compared is there. -/
theorem KeyThere.unfreed {key : Nat} (there : system.KeyThere key)
    (outside : system.caller.behindFree = false) : .freed key ∉ system.log := by
  rcases there with unfreed | ⟨behind, -⟩
  · exact unfreed
  · rw [outside] at behind
    cases behind

/-- The caller can go on where nothing is freed or closed, as long as no stop under way has freed
anything.
-/
theorem TaskSound.caller {task : ResolverTask} (relies : system.TaskSound task)
    (outside : system.caller.behindFree = false) {next : Lifecycle} (log : next.log = system.log)
    (opened : next.opened = system.opened) : next.TaskSound task := by
  have open' : system.caller.behindClose = false := by
    cases stage : system.caller <;> rw [stage] at outside <;> first | rfl | cases outside
  refine ⟨fun _ before sock own => ?_, fun sock own => ?_, fun key stage => Or.inl ?_⟩
  · rw [log]
    exact relies.unclosed open' before sock own
  · rw [opened]
    exact relies.opened sock own
  · rw [log]
    exact (relies.key key stage).unfreed outside

/-- A start points `cfg.key` to a new buffer. -/
theorem Sound.start (sound : system.Sound) (key : Cells UInt8) : (system.start key).Sound := by
  rw [Lifecycle.start]
  split
  · rename_i idle
    let next : Lifecycle :=
      { system with
        cfgKey := some system.allocated
        allocated := system.allocated + 1
        caller := .copying key }
    have fresh : next.KeyFresh := by
      rintro key held freed
      obtain rfl := Option.some.inj held
      exact Nat.lt_irrefl _ (sound.freedBelow _ freed)
    have ready : next.Sound := by
      refine ⟨sound.log, ?_, ?_, sound.closedBelow, sound.namedBelow, ?_, sound.apart, fresh⟩
      · rintro key held
        obtain rfl := Option.some.inj held
        exact Nat.lt_succ_self _
      · exact fun key freed => Nat.lt_succ_of_lt (sound.freedBelow key freed)
      · exact fun task member => (sound.tasks task member).caller (by rw [idle]; rfl) rfl rfl
    have quiet : Quiet (.allocated system.allocated) := by simp [Quiet]
    exact ready.note quiet trivial
  · exact sound

/-- A stop goes on only if it finds what it is to free and to close. -/
theorem Sound.stop (sound : system.Sound) (proper : system.Proper .stop) : system.stop.Sound := by
  rw [Lifecycle.stop]
  rw [Proper] at proper
  split
  · rename_i idle
    rw [idle] at proper
    split
    · rename_i names
      obtain ⟨sock, only⟩ := proper.resolve_left (Int.not_lt.mpr names)
      have held := sound.caller
      rw [CallerSound, idle] at held
      refine ⟨sound.log, sound.keyBelow, sound.freedBelow, sound.closedBelow, sound.namedBelow, ?_,
        sound.apart, held (Or.inr sock), ?_, only⟩
      · exact fun task member => (sound.tasks task member).caller (by rw [idle]; rfl) rfl rfl
      · obtain ⟨sock, named, unclosed⟩ := sock
        intro other same
        obtain rfl := Option.some.inj (named.symm.trans same)
        exact unclosed
    · exact sound
  · exact sound

/-- The new task has opened nothing yet. -/
theorem Sound.create (sound : system.Sound) (creating : system.caller = .creating) (result : Int)
    (buffer : Cells UInt8)
    : ({ system.taskCreate result buffer with caller := .idle } : Lifecycle).Sound := by
  have fresh := sound.caller
  rw [CallerSound, creating] at fresh
  have outside : system.caller.behindFree = false := by
    rw [creating]
    rfl
  rw [taskCreate]
  split
  · exact ⟨sound.log, sound.keyBelow, sound.freedBelow, sound.closedBelow, sound.namedBelow,
      fun task member => (sound.tasks task member).caller outside rfl rfl, sound.apart,
      fun _ => fresh⟩
  · refine ⟨sound.log, sound.keyBelow, sound.freedBelow, sound.closedBelow, sound.namedBelow, ?_,
      ?_, fun _ => fresh⟩
    · intro task member
      rcases List.mem_append.mp member with was | new
      · exact (sound.tasks task was).caller outside rfl rfl
      · rw [List.mem_singleton.mp new]
        exact ⟨fun _ _ => nofun, fun _ => nofun, fun _ => nofun⟩
    · intro left leftIn right rightIn sock leftOwns rightOwns
      rcases List.mem_append.mp leftIn with leftWas | leftNew
      · rcases List.mem_append.mp rightIn with rightWas | rightNew
        · exact sound.apart left leftWas right rightWas sock leftOwns rightOwns
        · rw [List.mem_singleton.mp rightNew] at rightOwns
          cases rightOwns
      · rw [List.mem_singleton.mp leftNew] at leftOwns
        cases leftOwns

/-- The key is freed while it is there. -/
theorem Sound.free (sound : system.Sound) (freeing : system.caller = .freeing)
    : ({ system.freeKey with caller := .closing } : Lifecycle).Sound := by
  have held := sound.caller
  rw [CallerSound, freeing] at held
  obtain ⟨fresh, closable, only⟩ := held
  have outside : system.caller.behindFree = false := by
    rw [freeing]
    rfl
  have caller : system.caller.behindClose = false := by
    rw [freeing]
    rfl
  rw [freeKey]
  cases points : system.cfgKey with
  | none =>
      exact ⟨sound.log, sound.keyBelow, sound.freedBelow, sound.closedBelow, sound.namedBelow,
        fun task member => (sound.tasks task member).caller outside rfl rfl, sound.apart, closable,
        only⟩
  | some key =>
      have unfreed := fresh key points
      have closed {sock : Nat}
          : .closed sock ∈ (system.note (.freed key)).log ↔ .closed sock ∈ system.log := by
        rw [mem_note]
        exact or_iff_left nofun
      refine ⟨each_note sound.log unfreed, sound.keyBelow, ?_, ?_, sound.namedBelow, ?_,
        sound.apart, ?_, only⟩
      · intro other freed
        rcases mem_note.mp freed with before | now
        · exact sound.freedBelow other before
        · obtain rfl := LifecycleEvent.freed.inj now
          exact sound.keyBelow other points
      · exact fun sock member => sound.closedBelow sock (closed.mp member)
      · intro task member
        have relies := sound.tasks task member
        refine ⟨fun _ before sock own => ?_, relies.opened, fun other stage => ?_⟩
        · exact (not_congr closed).mpr (relies.unclosed caller before sock own)
        · have there := (relies.key other stage).unfreed outside
          by_cases same : other = key
          · exact Or.inr ⟨rfl, by rw [same]; exact points⟩
          · refine Or.inl fun freed => ?_
            rcases mem_note.mp freed with before | now
            · exact there before
            · exact same (LifecycleEvent.freed.inj now)
      · exact fun sock named => (not_congr closed).mpr (closable sock named)

/-- While it is about to be deleted, a task relies on nothing that a `close` changes. -/
theorem TaskSound.deleting {task : ResolverTask} (relies : system.TaskSound task) {next : Lifecycle}
    (caller : next.caller = .deleting)
    (freed : ∀ key, .freed key ∈ next.log → .freed key ∈ system.log)
    (cfgKey : next.cfgKey = system.cfgKey) (opened : next.opened = system.opened)
    : next.TaskSound task := by
  refine ⟨fun still => ?_, fun sock own => ?_, fun key stage => ?_⟩
  · rw [caller] at still
    cases still
  · rw [opened]
    exact relies.opened sock own
  · rcases relies.key key stage with unfreed | ⟨-, points⟩
    · exact Or.inl fun member => unfreed (freed key member)
    · exact Or.inr ⟨by rw [caller]; rfl, cfgKey.trans points⟩

/-- Behind its `close` a stop leaves no socket open that `listen_sock` names. -/
theorem Sound.close (sound : system.Sound) (closing : system.caller = .closing)
    : ({ system.closeListenSock with caller := .deleting } : Lifecycle).Sound := by
  have held := sound.caller
  rw [CallerSound, closing] at held
  obtain ⟨closable, only⟩ := held
  rw [closeListenSock]
  cases names : system.named with
  | none =>
      refine ⟨sound.log, sound.keyBelow, sound.freedBelow, sound.closedBelow, sound.namedBelow, ?_,
        sound.apart, ?_, only⟩
      · exact fun task member =>
          (sound.tasks task member).deleting rfl (fun _ freed => freed) rfl rfl
      · rintro ⟨sock, named, -⟩
        cases names.symm.trans named
  | some sock =>
      have freed (key : Nat)
          : .freed key ∈ (system.note (.closed sock)).log → .freed key ∈ system.log := by
        intro freed
        rcases mem_note.mp freed with before | now
        · exact before
        · cases now
      refine ⟨each_note sound.log (closable sock names), sound.keyBelow, ?_, ?_, sound.namedBelow,
        ?_, sound.apart, ?_, only⟩
      · exact fun key member => sound.freedBelow key (freed key member)
      · intro other closed
        rcases mem_note.mp closed with before | now
        · exact sound.closedBelow other before
        · obtain rfl := LifecycleEvent.closed.inj now
          exact sound.namedBelow other names
      · exact fun task member => (sound.tasks task member).deleting rfl freed rfl rfl
      · rintro ⟨other, named, unclosed⟩
        obtain rfl := Option.some.inj (names.symm.trans named)
        exact unclosed (mem_note.mpr (Or.inr rfl))

/-- When a stop deletes the task, none is left that would read the key or close the socket. -/
theorem Sound.delete (sound : system.Sound) (deleting : system.caller = .deleting)
    : ({ system.deleteTask with caller := .idle } : Lifecycle).Sound := by
  have held := sound.caller
  rw [CallerSound, deleting] at held
  obtain ⟨unopened, only⟩ := held
  have gone : ∀ task ∈ system.deleteTask.tasks, task.beforeClose = false := by
    intro task member
    obtain ⟨was, other⟩ := List.mem_filter.mp member
    refine Bool.eq_false_iff.mpr fun before => ?_
    exact of_decide_eq_true other (only task was before)
  have left := sound.deleteTask
  refine ⟨left.log, left.keyBelow, left.freedBelow, left.closedBelow, left.namedBelow, ?_,
    left.apart, ?_⟩
  · intro task member
    refine ⟨fun _ before => ?_, (left.tasks task member).opened, fun key stage => ?_⟩
    · rw [gone task member] at before
      cases before
    · have before := gone task member
      rw [ResolverTask.beforeClose, stage] at before
      cases before
  · rintro (⟨task, member, before⟩ | sock)
    · exact absurd (before.symm.trans (gone task member)) (by decide)
    · exact absurd sock unopened

theorem Sound.callerStep (sound : system.Sound) (result : Int) (buffer : Cells UInt8)
    : (system.callerStep result buffer).Sound := by
  rw [Lifecycle.callerStep]
  cases stage : system.caller with
  | idle => exact sound
  | copying key =>
      have fresh := sound.caller
      rw [CallerSound, stage] at fresh
      exact ⟨sound.log, sound.keyBelow, sound.freedBelow, sound.closedBelow, sound.namedBelow,
        fun task member => (sound.tasks task member).caller (by rw [stage]; rfl) rfl rfl,
        sound.apart, fresh⟩
  | creating => exact sound.create stage result buffer
  | freeing => exact sound.free stage
  | closing => exact sound.close stage
  | deleting => exact sound.delete stage

end Caller

-----------------------------------------------------------------------------------------
-- The tasks
-----------------------------------------------------------------------------------------

section Tasks

variable {system : Lifecycle} {task : ResolverTask}

/-- A task's next stage, if it is not the one of `cmp_keys`. -/
theorem follows_goTo (before : task.beforeClose = true) (stage : ResolverStage)
    (elsewhere : stage.heldKey = none) (buffer : Cells UInt8)
    : system.Follows task { task with stage := stage, buffer := buffer } := by
  refine ⟨rfl, rfl, fun _ => before, fun key same => ?_⟩
  have holds : stage = .comparing key := same
  rw [holds] at elsewhere
  cases elsewhere

/-- While a task is left, the key that `cfg.key` points to is there. -/
theorem CallerSound.keyThere (sound : system.CallerSound) (left : system.TaskLeft) {key : Nat}
    (points : system.cfgKey = some key) : system.KeyThere key := by
  rw [CallerSound] at sound
  cases stage : system.caller with
  | idle =>
      rw [stage] at sound
      exact Or.inl (sound (Or.inl left) key points)
  | copying _ =>
      rw [stage] at sound
      exact Or.inl (sound key points)
  | creating =>
      rw [stage] at sound
      exact Or.inl (sound key points)
  | freeing =>
      rw [stage] at sound
      exact Or.inl (sound.1 key points)
  | closing => exact Or.inr ⟨by rw [stage]; rfl, points⟩
  | deleting => exact Or.inr ⟨by rw [stage]; rfl, points⟩

/-- A task can be given a socket that is open and that no task has opened. -/
theorem Sound.giveSock (sound : system.Sound) (member : task ∈ system.tasks)
    (before : task.beforeClose = true) {sock : Nat} (below : sock < system.opened)
    (unclosed : .closed sock ∉ system.log)
    (unowned : ∀ other ∈ system.tasks, other.sock ≠ some sock)
    : (system.setTask { task with stage := .asserting, sock := some sock }).Sound := by
  refine ⟨sound.log, sound.keyBelow, sound.freedBelow, sound.closedBelow, sound.namedBelow, ?_, ?_,
    ?_⟩
  · intro next present
    obtain ⟨was, wasIn, rfl⟩ := List.mem_map.mp present
    split
    · refine ⟨fun _ _ other own => ?_, fun other own => ?_, fun key => nofun⟩
      · obtain rfl := Option.some.inj own
        exact unclosed
      · obtain rfl := Option.some.inj own
        exact below
    · have relies := sound.tasks was wasIn
      exact ⟨relies.unclosed, relies.opened, relies.key⟩
  · intro left leftIn right rightIn other leftOwns rightOwns
    obtain ⟨first, firstIn, rfl⟩ := List.mem_map.mp leftIn
    obtain ⟨second, secondIn, rfl⟩ := List.mem_map.mp rightIn
    split at leftOwns
    · split at rightOwns
      · rename_i one two
        rw [if_pos one, if_pos two]
      · obtain rfl := Option.some.inj leftOwns
        exact absurd rightOwns (unowned second secondIn)
    · split at rightOwns
      · obtain rfl := Option.some.inj rightOwns
        exact absurd leftOwns (unowned first firstIn)
      · rename_i one two
        rw [if_neg one, if_neg two]
        exact sound.apart first firstIn second secondIn other leftOwns rightOwns
  · refine sound.caller.mono rfl (fun fresh => fresh) (fun _ closable => closable) ?_ ?_ Or.inl
    · intro only next present before'
      obtain ⟨was, wasIn, rfl⟩ := List.mem_map.mp present
      split
      · exact only task member before
      · rename_i other
        rw [if_neg other] at before'
        exact only was wasIn before'
    · exact fun _ => ⟨task, member, before⟩

/-- `listen_sock` can become an error. -/
theorem Sound.failedSocket (sound : system.Sound) {result : Int} (failed : result < 0)
    : ({ system with listenSock := result } : Lifecycle).Sound := by
  have unnamed : ({ system with listenSock := result } : Lifecycle).named = none := if_pos failed
  refine ⟨sound.log, sound.keyBelow, sound.freedBelow, sound.closedBelow, ?_, ?_, sound.apart, ?_⟩
  · intro sock named
    cases unnamed.symm.trans named
  · intro task member
    have relies := sound.tasks task member
    exact ⟨relies.unclosed, relies.opened, relies.key⟩
  · refine sound.caller.mono rfl (fun fresh => fresh) ?_ (fun only => only) (fun left => left) ?_
    · intro _ _ sock named
      cases unnamed.symm.trans named
    · rintro ⟨sock, named, -⟩
      cases unnamed.symm.trans named

/-- No socket that is still to be opened is closed. -/
theorem Sound.unclosed (sound : system.Sound) : .closed system.opened ∉ system.log := fun closed =>
  Nat.lt_irrefl _ (sound.closedBelow _ closed)

/-- While a task is left, `listen_sock` can name a new socket, unless a stop is behind its `close`.
-/
theorem Sound.newSocket (sound : system.Sound) (left : system.TaskLeft)
    (proper : system.caller.behindClose = false) {handle : Int} (succeeded : ¬ handle < 0)
    : (system.newSocket handle).Sound := by
  let next : Lifecycle :=
    { system with
      listenSock := handle
      handles := fun other => if other = handle then some system.opened else system.handles other
      opened := system.opened + 1 }
  have named : next.named = some system.opened := (if_neg succeeded).trans (if_pos rfl)
  have ready : next.Sound := by
    refine ⟨sound.log, sound.keyBelow, sound.freedBelow, ?_, ?_, ?_, sound.apart, ?_⟩
    · exact fun sock closed => Nat.lt_succ_of_lt (sound.closedBelow sock closed)
    · intro sock same
      obtain rfl := Option.some.inj (named.symm.trans same)
      exact Nat.lt_succ_self _
    · intro other member
      have relies := sound.tasks other member
      exact ⟨relies.unclosed, fun sock own => Nat.lt_succ_of_lt (relies.opened sock own),
        relies.key⟩
    · refine sound.caller.mono rfl (fun fresh => fresh) ?_ (fun only => only)
        (fun left => left) fun _ => Or.inr ⟨proper, left⟩
      intro _ _ sock same
      obtain rfl := Option.some.inj (named.symm.trans same)
      exact sound.unclosed
  have quiet : Quiet (.opened system.opened) := by simp [Quiet]
  exact ready.note quiet trivial

/-- A task that opens a socket owns it. -/
theorem Sound.openSocket (sound : system.Sound) (member : task ∈ system.tasks)
    (opening : task.stage = .opening) (proper : system.caller.behindClose = false) (result : Int)
    : (system.openSocket task result).Sound := by
  have before : task.beforeClose = true := by
    rw [ResolverTask.beforeClose, opening]
  rw [Lifecycle.openSocket]
  split
  · rename_i failed
    exact (sound.failedSocket failed).setTask member
      (follows_goTo before .asserting rfl task.buffer)
  · rename_i succeeded
    have opened := sound.newSocket ⟨task, member, before⟩ proper succeeded
    have quiet : Quiet (.opened system.opened) := by simp [Quiet]
    refine opened.giveSock member before (Nat.lt_succ_self _) ?_ fun other present own => ?_
    · exact (not_congr (closed_mem_note quiet)).mpr sound.unclosed
    · exact Nat.lt_irrefl _ ((sound.tasks other present).opened _ own)

/-- A task that closes its own socket, outside of a stop. -/
theorem Sound.noteClosed (sound : system.Sound) {sock : Nat} (named : system.named = some sock)
    (unclosed : .closed sock ∉ system.log)
    (unowned : ∀ task ∈ system.tasks, task.beforeClose = true → task.sock ≠ some sock)
    (outside : system.caller.stopping = false) : (system.note (.closed sock)).Sound := by
  have freed {key : Nat}
      : .freed key ∈ (system.note (.closed sock)).log ↔ .freed key ∈ system.log := by
    rw [mem_note]
    exact or_iff_left nofun
  refine ⟨each_note sound.log unclosed, sound.keyBelow, ?_, ?_, sound.namedBelow, ?_, sound.apart,
    ?_⟩
  · exact fun key member => sound.freedBelow key (freed.mp member)
  · intro other closed
    rcases mem_note.mp closed with before | now
    · exact sound.closedBelow other before
    · obtain rfl := LifecycleEvent.closed.inj now
      exact sound.namedBelow other named
  · intro task member
    have relies := sound.tasks task member
    refine ⟨fun caller before other own closed => ?_, relies.opened, fun key stage => ?_⟩
    · rcases mem_note.mp closed with was | now
      · exact relies.unclosed caller before other own was
      · obtain rfl := LifecycleEvent.closed.inj now
        exact unowned task member before own
    · exact (relies.key key stage).imp_left (not_congr freed).mpr
  · refine sound.caller.mono rfl ?_ ?_ (fun only => only) (fun left => left) ?_
    · exact fun fresh key held => (not_congr freed).mpr (fresh key held)
    · intro stopping
      rw [outside] at stopping
      cases stopping
    · rintro ⟨other, same, closed⟩
      obtain rfl := Option.some.inj (named.symm.trans same)
      exact absurd (mem_note.mpr (Or.inr rfl)) closed

/-- A task's `close`: nothing is closed, or the task's own socket, which is open. -/
theorem Sound.closeOwn (sound : system.Sound) (member : task ∈ system.tasks) {status : Int}
    (closing : task.stage = .closing status)
    (proper : system.named = none
      ∨ (system.named = task.sock ∧ system.caller.stopping = false))
    : (system.setTask { task with stage := .exiting status }).closeListenSock.Sound := by
  have before : task.beforeClose = true := by
    rw [ResolverTask.beforeClose, closing]
  have next := sound.setTask member (follows_goTo before (.exiting status) rfl task.buffer)
  rw [closeListenSock]
  cases names : (system.setTask { task with stage := .exiting status }).named with
  | none => exact next
  | some sock =>
      have named : system.named = some sock := names
      obtain ⟨own, outside⟩ := proper.resolve_left (by rw [named]; exact Option.some_ne_none sock)
      have owns : task.sock = some sock := own.symm.trans named
      have behindClose : system.caller.behindClose = false := by
        cases stage : system.caller <;> rw [stage] at outside <;> first | rfl | cases outside
      refine next.noteClosed names ?_ ?_ outside
      · exact (sound.tasks task member).unclosed behindClose before sock owns
      · intro other present open' own'
        obtain ⟨was, wasIn, rfl⟩ := List.mem_map.mp present
        split at own'
        · rename_i same
          rw [if_pos same] at open'
          cases open'
        · rename_i different
          exact different (sound.apart was wasIn task member sock own' owns)

/-- A proper step of a task keeps the invariant, stage by stage. -/
theorem Sound.stepOf (sound : system.Sound) (member : task ∈ system.tasks)
    (proper : system.ProperStep task) (result : Int) (bytes : List UInt8)
    : (system.stepOf task result bytes).Sound := by
  have moved (next : ResolverStage) (elsewhere : next.heldKey = none)
      (before : task.beforeClose = true) (buffer : Cells UInt8)
      : (system.setTask { task with stage := next, buffer := buffer }).Sound :=
    sound.setTask member (follows_goTo before next elsewhere buffer)
  -- a call that fails leads to `err_exit`, and one that succeeds to the receive loop
  have tried (before : task.beforeClose = true)
      : (if result < 0 then system.setTask { task with stage := .closing result }
        else system.setTask { task with stage := .receiving }).Sound := by
    split
    · exact moved (.closing result) rfl before task.buffer
    · exact moved .receiving rfl before task.buffer
  rw [ProperStep] at proper
  rw [Lifecycle.stepOf]
  cases stage : task.stage with
  | opening =>
      rw [stage] at proper
      exact sound.openSocket member stage proper result
  | asserting =>
      have before : task.beforeClose = true := by
        rw [ResolverTask.beforeClose, stage]
      have next := moved .binding rfl before task.buffer
      dsimp only
      split
      · exact next.deleteTask
      · exact next
  | binding => exact tried (by rw [ResolverTask.beforeClose, stage])
  | receiving =>
      have before : task.beforeClose = true := by
        rw [ResolverTask.beforeClose, stage]
      dsimp only
      split
      · exact moved (.closing result) rfl before task.buffer
      · refine moved _ ?_ before _
        split <;> rfl
  | resolving =>
      have before : task.beforeClose = true := by
        rw [ResolverTask.beforeClose, stage]
      dsimp only
      split
      · exact sound
      · rename_i key points
        refine sound.setTask member ⟨rfl, rfl, fun _ => before, fun other same => ?_⟩
        obtain rfl := ResolverStage.comparing.inj same
        exact sound.caller.keyThere ⟨task, member, before⟩ points
  | comparing key =>
      have before : task.beforeClose = true := by
        rw [ResolverTask.beforeClose, stage]
      rw [stage] at proper
      have unfreed : .freed key ∉ system.log := by
        rcases (sound.tasks task member).key key stage with unfreed | ⟨behind, points⟩
        · exact unfreed
        · exact absurd points (proper behind)
      have quiet : Quiet (.keyRead key) := by simp [Quiet]
      dsimp only
      refine Sound.note (moved _ ?_ before task.buffer) quiet unfreed
      split <;> rfl
  | sending => exact tried (by rw [ResolverTask.beforeClose, stage])
  | closing status =>
      rw [stage] at proper
      exact sound.closeOwn member stage proper
  | exiting status =>
      have next : (system.setTask { task with stage := .returned }).Sound :=
        sound.setTask member
          ⟨rfl, rfl, fun before => (by cases before), fun _ same => (by cases same)⟩
      dsimp only
      split
      · exact next.deleteTask
      · exact next
  | returned => exact sound

end Tasks

/-- Every proper turn keeps the invariant. -/
theorem Sound.turn (system : Lifecycle) (turn : LifecycleTurn) (sound : system.Sound)
    (proper : system.Proper turn) : (system.turn turn).Sound := by
  cases turn with
  | start key => exact sound.start key
  | stop => exact sound.stop proper
  | caller result buffer => exact sound.callerStep result buffer
  | task id result bytes =>
      rw [Proper] at proper
      change (system.taskStep id result bytes).Sound
      rw [taskStep]
      cases found : system.taskOf id with
      | none => exact sound
      | some task =>
          rw [found] at proper
          exact sound.stepOf (List.mem_of_find?_eq_some found) proper result bytes

end Lifecycle

/-- In a run of proper turns, up to every instant, no key buffer is freed twice, no socket is closed
twice and no key is read after it was freed.
-/
theorem resolver_lifecycleKept (memory : Nat → Cells UInt8) (turns : List LifecycleTurn)
    (proper : Obeys Lifecycle.turn Lifecycle.Proper turns (.boot memory))
    : ∀ system ∈ instants Lifecycle.turn turns (.boot memory), LifecycleKept system.log := by
  intro system instant
  have sound := proper.instants (P := Lifecycle.Sound) Lifecycle.Sound.turn
    (Lifecycle.boot_sound memory) system instant
  exact lifecycleKept_of_each sound.log

/-- A start and the task that it creates, up to its receive loop. -/
def startedTask (id : Nat) : List LifecycleTurn :=
  [.start fun _ => 0, .caller 0 fun _ => 0, .caller 0 fun _ => 0, .task id 5 [], .task id 0 [],
    .task id 0 []]

/-- The task receives a request with the key and is about to compare the keys. -/
def requestReceived (id : Nat) : List LifecycleTurn :=
  [.task id 37 (headerByte :: List.replicate 36 0), .task id 0 []]

/-- A whole call of `udp_resolver_stop`. -/
def wholeStop : List LifecycleTurn :=
  [.stop, .caller 0 fun _ => 0, .caller 0 fun _ => 0, .caller 0 fun _ => 0]

/-- A task that fails when it answers, and another start, which is stopped. -/
def failedThenStopped : List LifecycleTurn :=
  startedTask 1 ++ requestReceived 1
    ++ [.task 1 0 [], .task 1 (-1) [], .task 1 0 [], .task 1 0 []]
    ++ startedTask 2 ++ wholeStop

theorem resolver_lifecycleKept_failedThenStopped
    : Obeys Lifecycle.turn Lifecycle.Proper failedThenStopped (.boot fun _ _ => 0)
      ∧ ∀ system ∈ instants Lifecycle.turn failedThenStopped (.boot fun _ _ => 0),
          LifecycleKept system.log := by
  have proper : Obeys Lifecycle.turn Lifecycle.Proper failedThenStopped (.boot fun _ _ => 0) := by
    decide
  exact ⟨proper, resolver_lifecycleKept (fun _ _ => 0) failedThenStopped proper⟩

/-- A task that fails in its first `recvfrom`, and then a stop. -/
def stoppedAfterFailure : List LifecycleTurn :=
  startedTask 1 ++ [.task 1 (-1) [], .task 1 0 [], .task 1 0 []] ++ wholeStop

/-- A stop that has freed the key when the task compares it. -/
def stoppedInCmpKeys : List LifecycleTurn :=
  startedTask 1 ++ requestReceived 1 ++ [.stop, .caller 0 fun _ => 0, .task 1 0 []]

/-- A second stop frees the key again, a stop after a failure of the task closes the socket again,
and a stop beside `cmp_keys` leaves it a freed key.
-/
theorem resolver_stops_break
    : ¬ (∀ system ∈ instants Lifecycle.turn (startedTask 1 ++ wholeStop ++ wholeStop)
            (.boot fun _ _ => 0),
          LifecycleKept system.log)
      ∧ ¬ (∀ system ∈ instants Lifecycle.turn stoppedAfterFailure (.boot fun _ _ => 0),
            LifecycleKept system.log)
      ∧ ¬ (∀ system ∈ instants Lifecycle.turn stoppedInCmpKeys (.boot fun _ _ => 0),
            LifecycleKept system.log) := by
  refine ⟨fun kept => ?_, fun kept => ?_, fun kept => ?_⟩
  · have last := kept _ (afterTurns_mem_instants _ _)
    exact absurd (last.freedOnce 0) (by decide)
  · have last := kept _ (afterTurns_mem_instants _ _)
    exact absurd (last.closedOnce 0) (by decide)
  · have last := kept _ (afterTurns_mem_instants _ _)
    exact last.readsUnfreed [.allocated 0, .opened 0, .freed 0] 0 [] (by decide) (by decide)

end BigBlackHardware.UdpResolver
