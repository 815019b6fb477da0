import BigBlackHardware.Store.Exclusivity

/-! Pools under any use: whatever pointers are released, and however often, the counters stay in
order and the array is used within its bounds.
-/

namespace BigBlackHardware

open Library

/-- An access to `pool->data`. -/
inductive PoolAccess where
  | read (index : Nat)
  | write (index : Nat)
  deriving DecidableEq

def PoolAccess.index : PoolAccess → Nat
  | .read index => index
  | .write index => index

/-- What `pool_get` does with `pool->data`. -/
def poolGetAccesses (pool : Pool) : List PoolAccess :=
  if pool.freeItems = 0 then [] else [.read (pool.freeItems - 1)]

/-- What `pool_release` does with `pool->data`. -/
def poolReleaseAccesses (pool : Pool) : List PoolAccess :=
  if pool.freeItems = pool.poolSize then [] else [.write pool.freeItems]

/-- A pool and all that was done with its array. -/
structure PoolHistory where
  pool : Pool
  accesses : List PoolAccess

/-- A pool after `pool_create`. -/
def PoolHistory.start (data : Cells Nat) (maxPoolSize : Nat) : PoolHistory where
  pool := poolCreate data maxPoolSize
  accesses := []

/-- One call, with any pointer. -/
def PoolHistory.call (history : PoolHistory) : PoolCall → PoolHistory
  | .get block =>
      { pool := (poolGet history.pool block).pool
        accesses := history.accesses ++ poolGetAccesses history.pool }
  | .release item =>
      { pool := (poolRelease history.pool item).2
        accesses := history.accesses ++ poolReleaseAccesses history.pool }

/-- The counters are in order, the array is used within its bounds and read only where it was
written, and a call that fails does nothing.
-/
structure PoolHistory.Sound (maxPoolSize : Nat) (history : PoolHistory) : Prop where
  free : history.pool.freeItems ≤ history.pool.poolSize
  size : history.pool.poolSize ≤ maxPoolSize
  inside : ∀ access ∈ history.accesses, access.index < maxPoolSize
  written
    : ∀ before index rest,
        history.accesses = before ++ .read index :: rest →
        .write index ∈ before
  getFails
    : ∀ block,
        (poolGet history.pool block).status = -1 →
        (poolGet history.pool block).pool = history.pool
  releaseFails
    : ∀ item,
        (poolRelease history.pool item).1 = -1 →
        (poolRelease history.pool item).2 = history.pool

/-- What a get hands out depends on no entry of the array but those that it reads. -/
theorem poolGet_reads {pool : Pool} {data : Cells Nat}
    (agree : ∀ index, .read index ∈ poolGetAccesses pool → data index = pool.data index)
    (block : Nat)
    : (poolGet { pool with data := data } block).item = (poolGet pool block).item := by
  unfold poolGet
  by_cases none : pool.freeItems = 0
  · simp only [none, true_and, if_true]
    split <;> rfl
  · have top := agree (pool.freeItems - 1) (by simp [poolGetAccesses, none])
    simp only [none, false_and, if_false, top]

/-- A release changes no entry of the array but those that it writes. -/
theorem poolRelease_writes {pool : Pool} {index : Nat}
    (untouched : .write index ∉ poolReleaseAccesses pool) (item : Nat)
    : (poolRelease pool item).2.data index = pool.data index := by
  rcases poolRelease_cases pool item with ⟨-, released⟩ | ⟨some, released⟩
  · rw [released]
  · rw [poolReleaseAccesses, if_neg some] at untouched
    have other : index ≠ pool.freeItems := by
      rintro rfl
      exact untouched (List.mem_singleton_self _)
    rw [released]
    dsimp only
    rw [Cells.store_singleton, if_neg other]

/-- A read is of an entry that was written before. -/
def RightAccess (before : List PoolAccess) (access : PoolAccess) : Prop :=
  ∀ index, access = .read index → .write index ∈ before

/-- What the calls preserve: the free part of the array was written. -/
structure PoolHistory.Kept (maxPoolSize : Nat) (history : PoolHistory) : Prop where
  counted : history.pool.Counted
  limit : history.pool.maxPoolSize = maxPoolSize
  inside : ∀ access ∈ history.accesses, access.index < maxPoolSize
  right : EachAfter RightAccess [] history.accesses
  filled : ∀ index < history.pool.freeItems, .write index ∈ history.accesses

section Calls

variable {maxPoolSize : Nat} {history : PoolHistory}

/-- An access that is right and inside keeps what was so before. -/
theorem accesses_snoc {accesses : List PoolAccess} (access : PoolAccess)
    (inside : ∀ access ∈ accesses, access.index < maxPoolSize)
    (right : EachAfter RightAccess [] accesses) (here : access.index < maxPoolSize)
    (allowed : RightAccess accesses access)
    : (∀ other ∈ accesses ++ [access], other.index < maxPoolSize)
      ∧ EachAfter RightAccess [] (accesses ++ [access]) := by
  constructor
  · intro other member
    rcases List.mem_append.mp member with earlier | last
    · exact inside other earlier
    · rw [List.mem_singleton.mp last]
      exact here
  · exact eachAfter_append.mpr ⟨right, allowed, trivial⟩

/-- A get reads the top of the free part, if there is one. -/
theorem PoolHistory.Kept.get (kept : history.Kept maxPoolSize) (block : Nat)
    : (history.call (.get block)).Kept maxPoolSize := by
  have counted := poolGet_counted kept.counted block
  obtain ⟨⟨free, size⟩, limit, inside, right, filled⟩ := kept
  rcases poolGet_cases history.pool block with ⟨none, -, got⟩ | ⟨some, got⟩ | ⟨none, -, got⟩
  · rw [PoolHistory.call, poolGetAccesses, if_pos none, List.append_nil]
    rw [got] at counted ⊢
    exact ⟨counted, limit, inside, right, filled⟩
  · rw [PoolHistory.call, poolGetAccesses, if_neg (Nat.ne_of_gt some)]
    rw [got] at counted ⊢
    have top : history.pool.freeItems - 1 < history.pool.freeItems := by omega
    obtain ⟨inside', right'⟩ := accesses_snoc (.read (history.pool.freeItems - 1)) inside right
      (show history.pool.freeItems - 1 < maxPoolSize by omega) (by
        rintro index same
        cases same
        exact filled _ top)
    exact ⟨counted, limit, inside', right',
      fun index below => List.mem_append_left _ (filled index (Nat.lt_trans below top))⟩
  · rw [PoolHistory.call, poolGetAccesses, if_pos none, List.append_nil]
    rw [got] at counted ⊢
    exact ⟨counted, limit, inside, right, filled⟩

/-- A release writes behind the free part, if something is outstanding. -/
theorem PoolHistory.Kept.release (kept : history.Kept maxPoolSize) (item : Nat)
    : (history.call (.release item)).Kept maxPoolSize := by
  have counted := poolRelease_counted kept.counted item
  obtain ⟨⟨free, size⟩, limit, inside, right, filled⟩ := kept
  rcases poolRelease_cases history.pool item with ⟨all, released⟩ | ⟨some, released⟩
  · rw [PoolHistory.call, poolReleaseAccesses, if_pos all, List.append_nil]
    rw [released] at counted ⊢
    exact ⟨counted, limit, inside, right, filled⟩
  · rw [PoolHistory.call, poolReleaseAccesses, if_neg some]
    rw [released] at counted ⊢
    obtain ⟨inside', right'⟩ := accesses_snoc (.write history.pool.freeItems) inside right
      (show history.pool.freeItems < maxPoolSize by omega) (by
        rintro index same
        cases same)
    refine ⟨counted, limit, inside', right', fun index below => ?_⟩
    rcases Nat.lt_succ_iff_lt_or_eq.mp below with old | rfl
    · exact List.mem_append_left _ (filled index old)
    · exact List.mem_append_right _ (List.mem_singleton_self _)

/-- Every call keeps it. -/
theorem PoolHistory.Kept.call (history : PoolHistory) (call : PoolCall)
    (kept : history.Kept maxPoolSize) : (history.call call).Kept maxPoolSize := by
  cases call with
  | get block => exact kept.get block
  | release item => exact kept.release item

/-- A get that fails does nothing. -/
theorem poolGet_fails {pool : Pool} {block : Nat} (fails : (poolGet pool block).status = -1)
    : (poolGet pool block).pool = pool := by
  rcases poolGet_cases pool block with ⟨-, -, got⟩ | ⟨-, got⟩ | ⟨-, -, got⟩
  · rw [got]
  · rw [got] at fails
    cases fails
  · rw [got] at fails
    cases fails

/-- A release that fails does nothing. -/
theorem poolRelease_fails {pool : Pool} {item : Nat} (fails : (poolRelease pool item).1 = -1)
    : (poolRelease pool item).2 = pool := by
  rcases poolRelease_cases pool item with ⟨-, released⟩ | ⟨-, released⟩
  · rw [released]
  · rw [released] at fails
    cases fails

/-- A history with what the calls preserve is sound. -/
theorem PoolHistory.Kept.sound (kept : history.Kept maxPoolSize) : history.Sound maxPoolSize where
  free := kept.counted.free
  size := kept.limit ▸ kept.counted.size
  inside := kept.inside
  written _ _ _ split := kept.right.split split _ rfl
  getFails _ := poolGet_fails
  releaseFails _ := poolRelease_fails

end Calls

/-- At every moment of any use of a pool its counters are in order and its array is used within its
bounds.
-/
theorem pool_sound (data : Cells Nat) (maxPoolSize : Nat) (calls : List PoolCall)
    : ∀ history ∈ instants PoolHistory.call calls (.start data maxPoolSize),
        history.Sound maxPoolSize := by
  have start : (PoolHistory.start data maxPoolSize).Kept maxPoolSize :=
    ⟨poolCreate_counted data maxPoolSize, rfl, by simp [PoolHistory.start], trivial,
      fun index below => absurd below (Nat.not_lt_zero index)⟩
  intro history moment
  exact (instants_invariant PoolHistory.Kept.call calls start history moment).sound

/-- An object that is released twice, and a pointer that is not the pool's. -/
def misused : List PoolCall :=
  [.get 8, .get 16, .release 8, .release 8, .get 24, .get 32, .release 40]

theorem pool_sound_misused
    : (afterTurns PoolHistory.call misused (.start (fun _ => 0) 2)).Sound 2 :=
  pool_sound (fun _ => 0) 2 misused _ (afterTurns_mem_instants misused _)

end BigBlackHardware
