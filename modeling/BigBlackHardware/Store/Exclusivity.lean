import BigBlackHardware.Library.Turns
import BigBlackHardware.Store.Pool

/-! Pools in use: whoever gets an object from a pool is its only holder until the object is
released.
-/

namespace BigBlackHardware

open Library

/-- A pool in use, with what its users and the allocator know of it. -/
structure PoolUse where
  pool : Pool
  /-- The objects that a get returned and that were not released since. -/
  outstanding : List Nat
  /-- The objects that `mem_Malloc` returned. -/
  allocated : List Nat
  /-- The objects on which the constructor ran, once for each run. -/
  constructed : List Nat

/-- A call of a user of the pool. -/
inductive PoolCall where
  /-- `pool_get`, with what `mem_Malloc` returns if it is called. -/
  | get (block : Nat)
  | release (item : Nat)

/-- A pool after `pool_create`. -/
def PoolUse.start (data : Cells Nat) (maxPoolSize : Nat) : PoolUse where
  pool := poolCreate data maxPoolSize
  outstanding := []
  allocated := []
  constructed := []

/-- One call on a pool with or without a constructor. -/
def PoolUse.call (hasConstructor : Bool) (use : PoolUse) : PoolCall → PoolUse
  | .get block =>
      let got := poolGet use.pool block
      { pool := got.pool
        outstanding := got.item.toList ++ use.outstanding
        allocated := if got.constructed then block :: use.allocated else use.allocated
        constructed :=
          if got.constructed && hasConstructor then block :: use.constructed
          else use.constructed }
  | .release item =>
      { use with
        pool := (poolRelease use.pool item).2
        outstanding := use.outstanding.erase item }

/-- Users release what they hold, and new blocks are new and not `NULL`. -/
def PoolUse.Allowed (use : PoolUse) : PoolCall → Prop
  | .get block => block ≠ 0 ∧ block ∉ use.allocated
  | .release item => item ∈ use.outstanding

instance (use : PoolUse) : (call : PoolCall) → Decidable (use.Allowed call)
  | .get block => inferInstanceAs (Decidable (block ≠ 0 ∧ block ∉ use.allocated))
  | .release item => inferInstanceAs (Decidable (item ∈ use.outstanding))

/-- Every object has one place: with one user, or in the free part of the pool's array. A get that
does not fail hands out a free object or the new one.
-/
structure PoolUse.Exclusive (maxPoolSize : Nat) (hasConstructor : Bool) (use : PoolUse)
    : Prop where
  distinct : (use.outstanding ++ use.pool.freeStack).Nodup
  all : ∀ item, item ∈ use.outstanding ++ use.pool.freeStack ↔ item ∈ use.allocated
  number : (use.outstanding ++ use.pool.freeStack).length = use.pool.poolSize
  returned
    : ∀ block item,
        block ∉ use.allocated →
        (poolGet use.pool block).item = some item →
        item ∉ use.outstanding
  handsOut
    : ∀ block,
        0 ≤ (poolGet use.pool block).status →
        ∃ item ∈ block :: use.pool.freeStack, (poolGet use.pool block).item = some item
  constructedOnce
    : ∀ item ∈ use.allocated, use.constructed.count item = if hasConstructor then 1 else 0
  fails
    : ∀ block, (poolGet use.pool block).status < 0 ↔ use.outstanding.length = maxPoolSize

/-- What the calls preserve: the places of the objects are a permutation of the allocations. -/
structure PoolUse.Accounted (maxPoolSize : Nat) (hasConstructor : Bool) (use : PoolUse)
    : Prop where
  places : (use.outstanding ++ use.pool.freeStack).Perm use.allocated
  fresh : use.allocated.Nodup
  number : use.allocated.length = use.pool.poolSize
  limit : use.pool.maxPoolSize = maxPoolSize
  bounded : use.pool.poolSize ≤ maxPoolSize
  constructor : use.constructed = if hasConstructor then use.allocated else []

variable {maxPoolSize : Nat} {hasConstructor : Bool} {use : PoolUse}

theorem start_accounted (data : Cells Nat) (maxPoolSize : Nat) (hasConstructor : Bool)
    : (PoolUse.start data maxPoolSize).Accounted maxPoolSize hasConstructor where
  places := .nil
  fresh := .nil
  number := rfl
  limit := rfl
  bounded := Nat.zero_le maxPoolSize
  constructor := (ite_self _).symm

/-- What is outstanding and what is free make up the pool. -/
theorem PoolUse.Accounted.split (accounted : use.Accounted maxPoolSize hasConstructor)
    : use.outstanding.length + use.pool.freeItems = use.pool.poolSize := by
  have lengths := accounted.places.length_eq
  rwa [List.length_append, Pool.length_freeStack, accounted.number] at lengths

/-- A get keeps the account: it fails, moves the last free object to the user, or adds one. -/
theorem PoolUse.Accounted.get (accounted : use.Accounted maxPoolSize hasConstructor)
    {block : Nat} (new : block ∉ use.allocated)
    : (use.call hasConstructor (.get block)).Accounted maxPoolSize hasConstructor := by
  obtain ⟨places, fresh, number, limit, bounded, constructor⟩ := accounted
  rcases poolGet_cases use.pool block with ⟨-, -, got⟩ | ⟨free, got⟩ | ⟨none, room, got⟩
  · rw [PoolUse.call, got]
    exact ⟨places, fresh, number, limit, bounded, constructor⟩
  · obtain ⟨n, items⟩ := Nat.exists_eq_succ_of_ne_zero (Nat.ne_of_gt free)
    rw [PoolUse.call, got]
    refine ⟨?_, fresh, number, limit, bounded, constructor⟩
    rw [use.pool.freeStack_pop items, ← List.append_assoc] at places
    simp only [items, Nat.succ_eq_add_one, Nat.add_sub_cancel]
    exact (List.perm_append_singleton _ _).symm.trans places
  · rw [PoolUse.call, got]
    refine ⟨places.cons block, List.nodup_cons.mpr ⟨new, fresh⟩, congrArg (· + 1) number, limit,
      ?_, ?_⟩
    · dsimp only
      omega
    · dsimp only
      rw [constructor]
      cases hasConstructor <;> rfl

/-- A release keeps the account: it puts the object behind the free ones. The pool has room for
it, since the object was outstanding.
-/
theorem PoolUse.Accounted.release (accounted : use.Accounted maxPoolSize hasConstructor)
    {item : Nat} (held : item ∈ use.outstanding)
    : (use.call hasConstructor (.release item)).Accounted maxPoolSize hasConstructor := by
  have split := accounted.split
  obtain ⟨places, fresh, number, limit, bounded, constructor⟩ := accounted
  have some := List.length_pos_of_mem held
  rcases poolRelease_cases use.pool item with ⟨all, -⟩ | ⟨-, released⟩
  · omega
  · rw [PoolUse.call, released]
    refine ⟨?_, fresh, number, limit, bounded, constructor⟩
    dsimp only
    rw [Pool.freeStack_push, ← List.append_assoc]
    refine (List.perm_append_singleton _ _).trans (List.Perm.trans ?_ places)
    exact ((List.perm_cons_erase held).append_right use.pool.freeStack).symm

/-- Every allowed call keeps the account. -/
theorem PoolUse.Accounted.call (use : PoolUse) (call : PoolCall)
    (accounted : use.Accounted maxPoolSize hasConstructor) (allowed : use.Allowed call)
    : (use.call hasConstructor call).Accounted maxPoolSize hasConstructor := by
  cases call with
  | get block => exact accounted.get allowed.2
  | release item => exact accounted.release allowed

/-- An accounted pool gives every object one place. -/
theorem PoolUse.Accounted.exclusive (accounted : use.Accounted maxPoolSize hasConstructor)
    : use.Exclusive maxPoolSize hasConstructor := by
  have split := accounted.split
  obtain ⟨places, fresh, number, limit, bounded, constructor⟩ := accounted
  have distinct := places.nodup_iff.mpr fresh
  refine ⟨distinct, fun item => places.mem_iff, places.length_eq.trans number, ?_, ?_, ?_, ?_⟩
  · intro block item new returned held
    rcases poolGet_cases use.pool block with ⟨-, -, got⟩ | ⟨free, got⟩ | ⟨none, -, got⟩
    · rw [got] at returned
      cases returned
    · obtain ⟨n, items⟩ := Nat.exists_eq_succ_of_ne_zero (Nat.ne_of_gt free)
      rw [got, items] at returned
      have last : use.pool.data n = item := Option.some.inj returned
      rw [use.pool.freeStack_pop items, last] at distinct
      obtain ⟨-, -, apart⟩ := List.nodup_append.mp distinct
      exact apart item held item (List.mem_append_right _ (List.mem_singleton_self item)) rfl
    · rw [got] at returned
      have same : block = item := Option.some.inj returned
      rw [← same] at held
      exact new (places.mem_iff.mp (List.mem_append_left _ held))
  · intro block succeeds
    rcases poolGet_cases use.pool block with ⟨-, -, got⟩ | ⟨free, got⟩ | ⟨-, -, got⟩
    · rw [got] at succeeds
      exact absurd succeeds (Int.not_le.mpr (Int.negSucc_lt_zero 0))
    · obtain ⟨n, items⟩ := Nat.exists_eq_succ_of_ne_zero (Nat.ne_of_gt free)
      have last : use.pool.data n ∈ use.pool.freeStack := by
        rw [use.pool.freeStack_pop items]
        exact List.mem_append_right _ (List.mem_singleton_self _)
      rw [got, items]
      exact ⟨_, List.mem_cons_of_mem block last, rfl⟩
    · rw [got]
      exact ⟨block, List.mem_cons_self, rfl⟩
  · intro item member
    rw [constructor]
    cases hasConstructor with
    | false => rfl
    | true => simp [fresh.count, member]
  · intro block
    rcases poolGet_cases use.pool block with ⟨none, full, got⟩ | ⟨free, got⟩ | ⟨none, room, got⟩
    · rw [got]
      exact iff_of_true (Int.negSucc_lt_zero 0) (by omega)
    · rw [got]
      exact iff_of_false (Int.lt_irrefl 0) (by omega)
    · rw [got]
      exact iff_of_false (Int.lt_irrefl 0) (by omega)

/-- At every moment of the use of a pool its objects are exclusive, whatever its array held. -/
theorem pool_exclusive (data : Cells Nat) (maxPoolSize : Nat) (hasConstructor : Bool)
    (calls : List PoolCall)
    (allowed
      : Obeys (PoolUse.call hasConstructor) PoolUse.Allowed calls
          (PoolUse.start data maxPoolSize))
    : ∀ use ∈ instants (PoolUse.call hasConstructor) calls (PoolUse.start data maxPoolSize),
        use.Exclusive maxPoolSize hasConstructor := by
  intro use moment
  have accounted := allowed.instants (P := PoolUse.Accounted maxPoolSize hasConstructor)
    PoolUse.Accounted.call (start_accounted data maxPoolSize hasConstructor) use moment
  exact accounted.exclusive

/-- Two objects, of which the first is released and taken again, and a get too many. -/
def takenAgain : List PoolCall := [.get 8, .get 16, .release 8, .get 24, .get 32]

theorem pool_exclusive_takenAgain
    : Obeys (PoolUse.call true) PoolUse.Allowed takenAgain (PoolUse.start (fun _ => 0) 2)
      ∧ ∀ use ∈ instants (PoolUse.call true) takenAgain (PoolUse.start (fun _ => 0) 2),
          use.Exclusive 2 true := by
  have allowed
      : Obeys (PoolUse.call true) PoolUse.Allowed takenAgain (PoolUse.start (fun _ => 0) 2) := by
    decide
  exact ⟨allowed, pool_exclusive (fun _ => 0) 2 true takenAgain allowed⟩

end BigBlackHardware
