import Mathlib.Data.List.Defs
import BigBlackHardware.Library.Cells

/-! The memory that the modelled functions get from the C library, and the values that C leaves
unspecified. Both are inputs of the model.
-/

namespace BigBlackHardware

open Library

/-- The heap behind `malloc`, `calloc` and `free`. Blocks are named by their order. -/
structure Heap where
  /-- The name of the next block. -/
  next : Nat
  /-- Blocks returned and not freed. -/
  live : List Nat
  /-- What a new block, and the memory behind it, happens to hold. -/
  fresh : Nat → Cells UInt8

/-- The heap after a reset. -/
def Heap.boot (fresh : Nat → Cells UInt8) : Heap := ⟨0, [], fresh⟩

/-- A byte array on the heap: its block and what it holds. -/
structure Block where
  address : Nat
  bytes : Cells UInt8

/-- `malloc`, which is taken never to fail. -/
def Heap.malloc (heap : Heap) : Block × Heap :=
  (⟨heap.next, heap.fresh heap.next⟩,
    { heap with next := heap.next + 1, live := heap.next :: heap.live })

/-- `calloc` of `count` bytes. -/
def Heap.calloc (heap : Heap) (count : Nat) : Block × Heap :=
  let (block, heap) := heap.malloc
  ({ block with bytes := block.bytes.store 0 (List.replicate count 0) }, heap)

/-- `free`. -/
def Heap.free (heap : Heap) (address : Nat) : Heap :=
  { heap with live := heap.live.erase address }

/-- Storing to a heap array; the cells behind its block are stored to as well. -/
def Block.store (block : Block) (offset : Nat) (bytes : List UInt8) : Block :=
  { block with bytes := block.bytes.store offset bytes }

/-- The values that objects hold which the code reads before it stores to them. -/
structure Junk where
  values : Nat → Nat
  used : Nat

/-- The value of the next such object. -/
def Junk.value (junk : Junk) : Nat := junk.values junk.used

/-- The values left after one was read. -/
def Junk.rest (junk : Junk) : Junk := { junk with used := junk.used + 1 }

end BigBlackHardware
