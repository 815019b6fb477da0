import BigBlackHardware.Library.Cells

/-! The object pools of `pool.c`: a stack of released objects over an allocator. -/

namespace BigBlackHardware

open Library

/-- `pool_t`. Objects are pointers; `data` holds the released ones, `freeItems` of them. -/
structure Pool where
  data : Cells Nat
  poolSize : Nat
  freeItems : Nat
  maxPoolSize : Nat

/-- `pool_create`. The array is fresh memory, with the content it happens to have. -/
def poolCreate (data : Cells Nat) (maxPoolSize : Nat) : Pool where
  data := data
  poolSize := 0
  freeItems := 0
  maxPoolSize := maxPoolSize

/-- The outcome of `pool_get`. -/
structure PoolGet where
  status : Int
  /-- What was stored through `data`, if anything was. -/
  item : Option Nat
  /-- The object is new, so that the pool's constructor, if it has one, runs on it. -/
  constructed : Bool
  pool : Pool

/-- `pool_get`, where `block` is what `mem_Malloc` returns if it is called. -/
def poolGet (pool : Pool) (block : Nat) : PoolGet :=
  if pool.freeItems = 0 ∧ pool.poolSize = pool.maxPoolSize then ⟨-1, none, false, pool⟩
  else if pool.freeItems = 0 then
    ⟨0, some block, true, { pool with poolSize := pool.poolSize + 1 }⟩
  else
    ⟨0, some (pool.data (pool.freeItems - 1)), false,
      { pool with freeItems := pool.freeItems - 1 }⟩

/-- `pool_release`. -/
def poolRelease (pool : Pool) (data : Nat) : Int × Pool :=
  if pool.freeItems = pool.poolSize then (-1, pool)
  else
    (0,
      { pool with
        data := pool.data.store pool.freeItems [data]
        freeItems := pool.freeItems + 1 })

/-- The released objects that the pool holds. -/
def Pool.freeStack (pool : Pool) : List Nat := pool.data.load 0 pool.freeItems

/-- The counters are in order. -/
structure Pool.Counted (pool : Pool) : Prop where
  free : pool.freeItems ≤ pool.poolSize
  size : pool.poolSize ≤ pool.maxPoolSize

/-- A new pool is counted, by its zero counters. -/
theorem poolCreate_counted (data : Cells Nat) (maxPoolSize : Nat)
    : (poolCreate data maxPoolSize).Counted :=
  ⟨Nat.le_refl 0, Nat.zero_le maxPoolSize⟩

/-- What a get can do: fail on a pool that is used up, hand out the last released object, or
hand out a new one.
-/
theorem poolGet_cases (pool : Pool) (block : Nat)
    : (pool.freeItems = 0 ∧ pool.poolSize = pool.maxPoolSize
        ∧ poolGet pool block = ⟨-1, none, false, pool⟩)
      ∨ (0 < pool.freeItems
        ∧ poolGet pool block
          = ⟨0, some (pool.data (pool.freeItems - 1)), false,
              { pool with freeItems := pool.freeItems - 1 }⟩)
      ∨ (pool.freeItems = 0 ∧ pool.poolSize ≠ pool.maxPoolSize
        ∧ poolGet pool block
          = ⟨0, some block, true, { pool with poolSize := pool.poolSize + 1 }⟩) := by
  by_cases empty : pool.freeItems = 0
  · by_cases full : pool.poolSize = pool.maxPoolSize
    · exact Or.inl ⟨empty, full, by rw [poolGet, if_pos ⟨empty, full⟩]⟩
    · refine Or.inr (Or.inr ⟨empty, full, ?_⟩)
      rw [poolGet, if_neg (fun h => full h.2), if_pos empty]
  · refine Or.inr (Or.inl ⟨Nat.pos_of_ne_zero empty, ?_⟩)
    rw [poolGet, if_neg (fun h => empty h.1), if_neg empty]

/-- What a release can do: fail when nothing is outstanding, or push the object. -/
theorem poolRelease_cases (pool : Pool) (data : Nat)
    : (pool.freeItems = pool.poolSize ∧ poolRelease pool data = (-1, pool))
      ∨ (pool.freeItems ≠ pool.poolSize
        ∧ poolRelease pool data
          = (0,
              { pool with
                data := pool.data.store pool.freeItems [data]
                freeItems := pool.freeItems + 1 })) := by
  by_cases all : pool.freeItems = pool.poolSize
  · exact Or.inl ⟨all, by rw [poolRelease, if_pos all]⟩
  · exact Or.inr ⟨all, by rw [poolRelease, if_neg all]⟩

/-- A get keeps the counters in order, by its three outcomes. -/
theorem poolGet_counted {pool : Pool} (counted : pool.Counted) (block : Nat)
    : (poolGet pool block).pool.Counted := by
  obtain ⟨free, size⟩ := counted
  rcases poolGet_cases pool block with ⟨-, -, got⟩ | ⟨some, got⟩ | ⟨none, room, got⟩ <;>
    rw [got] <;> constructor <;> simp only <;> omega

/-- A release keeps the counters in order, by its two outcomes. -/
theorem poolRelease_counted {pool : Pool} (counted : pool.Counted) (data : Nat)
    : (poolRelease pool data).2.Counted := by
  obtain ⟨free, size⟩ := counted
  rcases poolRelease_cases pool data with ⟨-, released⟩ | ⟨out, released⟩ <;>
    rw [released] <;> constructor <;> simp only <;> omega

@[simp]
theorem Pool.length_freeStack (pool : Pool) : pool.freeStack.length = pool.freeItems := by
  simp [Pool.freeStack]

/-- A get from the free stack takes its last object. -/
theorem Pool.freeStack_pop (pool : Pool) {n : Nat} (some : pool.freeItems = n + 1)
    : pool.freeStack = { pool with freeItems := n }.freeStack ++ [pool.data n] := by
  rw [Pool.freeStack, Pool.freeStack, some, Cells.load, Cells.load, List.range_succ,
    List.map_append, List.map_singleton, Nat.zero_add]

/-- A release puts an object behind the others. -/
theorem Pool.freeStack_push (pool : Pool) (item : Nat)
    : { pool with
        data := pool.data.store pool.freeItems [item]
        freeItems := pool.freeItems + 1 }.freeStack
      = pool.freeStack ++ [item] := by
  rw [Pool.freeStack_pop _ rfl]
  congr 1
  · refine List.map_congr_left fun i member => Cells.store_outside _ (Or.inl ?_)
    rw [Nat.zero_add]
    exact List.mem_range.mp member
  · simp

end BigBlackHardware
