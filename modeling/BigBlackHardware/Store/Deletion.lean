import BigBlackHardware.Store.Exclusivity

/-! Deleting a pool. The objects are to be taken from the pool one by one and freed; the pointer
that is to take them is itself passed where its address is meant.
-/

namespace BigBlackHardware

open Library

/-- What `pool_delete` does to memory outside the pool. -/
inductive DeleteEvent where
  /-- A store through a pointer. -/
  | store (address value : Nat)
  /-- `mem_Free`. -/
  | free (address : Nat)
  deriving DecidableEq

/-- The outcome of `pool_delete`. -/
structure PoolDelete where
  status : Int
  events : List DeleteEvent
  pool : Pool

/-- The variable `data` of `pool_delete`, which nothing sets: `pool_get` stores through it. -/
def deleteData : Nat := 0

/-- The loop of `pool_delete`, where `malloc` is what `mem_Malloc` returns if it is called. -/
def poolDeleteLoop (malloc : Nat) : Nat → Nat → Pool → List DeleteEvent × Pool
  | 0, _, pool => ([], pool)
  | fuel + 1, i, pool =>
      if i < pool.poolSize then
        let got := poolGet pool malloc
        let rest := poolDeleteLoop malloc fuel (i + 1) got.pool
        (got.item.toList.map (.store deleteData) ++ .free deleteData :: rest.1, rest.2)
      else ([], pool)

/-- `pool_delete`. Each round takes a free object, so that `pool_size` rounds are enough. -/
def poolDelete (pool : Pool) (malloc : Nat) : PoolDelete :=
  if pool.freeItems ≠ pool.poolSize then ⟨-1, [], pool⟩
  else
    let (events, pool) := poolDeleteLoop malloc pool.poolSize 0 pool
    ⟨0, events, pool⟩

/-- The addresses that were passed to `mem_Free`. -/
def freed (events : List DeleteEvent) : List Nat :=
  events.filterMap fun event =>
    match event with
    | .free address => some address
    | .store .. => none

/-- Deleting frees every object once and nothing else, without a store through `NULL`, unless one is
outstanding: then it fails and does nothing.
-/
structure DeletesAll (use : PoolUse) (malloc : Nat) : Prop where
  deletes
    : use.outstanding = [] →
      let deleted := poolDelete use.pool malloc
      deleted.status = 0
      ∧ (freed deleted.events).Perm use.allocated
      ∧ ∀ value, .store 0 value ∉ deleted.events
  refuses
    : use.outstanding ≠ [] →
      let deleted := poolDelete use.pool malloc
      deleted.status = -1 ∧ freed deleted.events = [] ∧ deleted.pool = use.pool

/-- Users release what they hold. -/
def PoolUse.ReleasesHeld (use : PoolUse) : PoolCall → Prop
  | .get _ => True
  | .release item => item ∈ use.outstanding

instance (use : PoolUse) : (call : PoolCall) → Decidable (use.ReleasesHeld call)
  | .get _ => inferInstanceAs (Decidable True)
  | .release item => inferInstanceAs (Decidable (item ∈ use.outstanding))

/-- The objects are outstanding or free, and as many as were allocated. -/
structure PoolUse.Balanced (use : PoolUse) : Prop where
  places : use.outstanding.length + use.pool.freeItems = use.pool.poolSize
  number : use.allocated.length = use.pool.poolSize

section Use

variable {hasConstructor : Bool} {use : PoolUse}

theorem PoolUse.Balanced.get (balanced : use.Balanced) (block : Nat)
    : (use.call hasConstructor (.get block)).Balanced := by
  obtain ⟨places, number⟩ := balanced
  rcases poolGet_cases use.pool block with ⟨-, -, got⟩ | ⟨some, got⟩ | ⟨none, -, got⟩
  · rw [PoolUse.call, got]
    exact ⟨places, number⟩
  · rw [PoolUse.call, got]
    refine ⟨?_, number⟩
    change use.outstanding.length + 1 + (use.pool.freeItems - 1) = use.pool.poolSize
    omega
  · rw [PoolUse.call, got]
    refine ⟨?_, congrArg (· + 1) number⟩
    change use.outstanding.length + 1 + use.pool.freeItems = use.pool.poolSize + 1
    omega

theorem PoolUse.Balanced.release (balanced : use.Balanced) {item : Nat}
    (held : item ∈ use.outstanding) : (use.call hasConstructor (.release item)).Balanced := by
  obtain ⟨places, number⟩ := balanced
  have some := List.length_pos_of_mem held
  have erased := List.length_erase_of_mem held
  rcases poolRelease_cases use.pool item with ⟨all, -⟩ | ⟨-, released⟩
  · omega
  · rw [PoolUse.call, released]
    refine ⟨?_, number⟩
    change (use.outstanding.erase item).length + (use.pool.freeItems + 1) = use.pool.poolSize
    omega

/-- Every call that releases only what is held keeps the balance. -/
theorem PoolUse.Balanced.call (use : PoolUse) (call : PoolCall) (balanced : use.Balanced)
    (allowed : use.ReleasesHeld call) : (use.call hasConstructor call).Balanced := by
  cases call with
  | get block => exact balanced.get block
  | release item => exact balanced.release allowed

end Use

/-- The loop takes the free objects from the last to the first, stores each through `NULL` and frees
`NULL`, by induction on the objects.
-/
theorem poolDeleteLoop_events (malloc n i : Nat) (pool : Pool) (free : pool.freeItems = n)
    (rounds : i + n = pool.poolSize)
    : (poolDeleteLoop malloc n i pool).1
      = pool.freeStack.reverse.flatMap fun item => [.store deleteData item, .free deleteData] := by
  induction n generalizing i pool with
  | zero =>
      rw [Pool.freeStack, free]
      rfl
  | succ n ih =>
      have got : poolGet pool malloc
          = ⟨0, some (pool.data n), false, { pool with freeItems := n }⟩ := by
        rcases poolGet_cases pool malloc with ⟨none, -⟩ | ⟨-, got⟩ | ⟨none, -⟩
        · omega
        · rw [got, free]
          rfl
        · omega
      have rest := ih (i + 1) { pool with freeItems := n } rfl
        (by rw [Nat.add_right_comm, Nat.add_assoc]; exact rounds)
      rw [poolDeleteLoop, if_pos (by omega), got, pool.freeStack_pop free]
      dsimp only
      rw [rest, List.reverse_append, List.reverse_singleton]
      rfl

/-- Deleting a pool that has all its objects stores each of them through `NULL` and frees none. -/
theorem poolDelete_events {pool : Pool} (all : pool.freeItems = pool.poolSize) (malloc : Nat)
    : (poolDelete pool malloc).events
      = pool.freeStack.reverse.flatMap fun item => [.store deleteData item, .free deleteData] := by
  rw [poolDelete, if_neg (not_not.mpr all)]
  exact poolDeleteLoop_events malloc pool.poolSize 0 pool all (Nat.zero_add _)

/-- A pool deletes all that it has exactly if it has nothing, or if an object is outstanding. -/
theorem PoolUse.Balanced.deletesAll_iff {use : PoolUse} (balanced : use.Balanced) (malloc : Nat)
    : DeletesAll use malloc
      ↔ use.pool.poolSize = 0 ∨ use.pool.freeItems ≠ use.pool.poolSize := by
  obtain ⟨places, number⟩ := balanced
  have empty : use.outstanding = [] ↔ use.pool.freeItems = use.pool.poolSize := by
    rw [← List.length_eq_zero_iff]
    omega
  constructor
  · intro deletes
    by_contra bad
    obtain ⟨some, all⟩ := not_or.mp bad
    have all := not_not.mp all
    obtain ⟨item, free⟩ := List.exists_mem_of_length_pos (l := use.pool.freeStack)
      (by rw [Pool.length_freeStack]; omega)
    refine (deletes.deletes (empty.mpr all)).2.2 item ?_
    rw [poolDelete_events all]
    exact List.mem_flatMap.mpr ⟨item, List.mem_reverse.mpr free, List.mem_cons_self⟩
  · rintro (nothing | out)
    · have all : use.pool.freeItems = use.pool.poolSize := by omega
      have deleted : poolDelete use.pool malloc = ⟨0, [], use.pool⟩ := by
        rw [poolDelete, if_neg (not_not.mpr all), nothing]
        rfl
      have none : use.allocated = [] := List.length_eq_zero_iff.mp (number.trans nothing)
      refine ⟨fun _ => ?_, fun outstanding => absurd (empty.mpr all) outstanding⟩
      rw [deleted, none]
      exact ⟨rfl, .nil, fun value => List.not_mem_nil⟩
    · have deleted : poolDelete use.pool malloc = ⟨-1, [], use.pool⟩ := by
        rw [poolDelete, if_pos out]
      refine ⟨fun outstanding => absurd (empty.mp outstanding) out, fun _ => ?_⟩
      rw [deleted]
      exact ⟨rfl, rfl, rfl⟩

/-- At every moment of the use of a pool, deleting it does what it should exactly if no object was
ever allocated or one is outstanding.
-/
theorem poolDelete_deletesAll_iff (data : Cells Nat) (maxPoolSize : Nat) (hasConstructor : Bool)
    (calls : List PoolCall)
    (held
      : Obeys (PoolUse.call hasConstructor) PoolUse.ReleasesHeld calls
          (PoolUse.start data maxPoolSize))
    : ∀ use ∈ instants (PoolUse.call hasConstructor) calls (PoolUse.start data maxPoolSize),
        ∀ malloc,
          DeletesAll use malloc
          ↔ use.pool.poolSize = 0 ∨ use.pool.freeItems ≠ use.pool.poolSize := by
  have start : (PoolUse.start data maxPoolSize).Balanced := ⟨rfl, rfl⟩
  intro use moment malloc
  exact (held.instants PoolUse.Balanced.call start use moment).deletesAll_iff malloc

/-- An object that is taken and released. -/
def takenAndReleased : List PoolCall := [.get 8, .release 8]

theorem poolDelete_deletesAll_takenAndReleased
    : Obeys (PoolUse.call true) PoolUse.ReleasesHeld takenAndReleased (PoolUse.start (fun _ => 0) 2)
      ∧ ∀ use ∈ instants (PoolUse.call true) takenAndReleased (PoolUse.start (fun _ => 0) 2),
          ∀ malloc,
            DeletesAll use malloc
            ↔ use.pool.poolSize = 0 ∨ use.pool.freeItems ≠ use.pool.poolSize := by
  have held
      : Obeys (PoolUse.call true) PoolUse.ReleasesHeld takenAndReleased
          (PoolUse.start (fun _ => 0) 2) := by
    decide
  exact ⟨held, poolDelete_deletesAll_iff (fun _ => 0) 2 true takenAndReleased held⟩

/-- Deleting the pool then stores the object at address 0 and frees `NULL`. -/
theorem takenAndReleased_leaks
    : let use := afterTurns (PoolUse.call true) takenAndReleased (PoolUse.start (fun _ => 0) 2)
      Obeys (PoolUse.call true) PoolUse.ReleasesHeld takenAndReleased
        (PoolUse.start (fun _ => 0) 2)
      ∧ use.outstanding = []
      ∧ (poolDelete use.pool 16).events = [.store 0 8, .free 0]
      ∧ ¬ DeletesAll use 16 := by
  refine ⟨by decide, rfl, by decide, fun deletes => ?_⟩
  exact (deletes.deletes rfl).2.2 8 (by decide)

end BigBlackHardware
