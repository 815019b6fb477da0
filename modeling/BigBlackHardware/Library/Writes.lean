import Mathlib.Data.List.Nodup
import Mathlib.Logic.Function.Basic

/-! Memories that a list of writes goes to. The last write to an address is the one that stays.
-/

namespace BigBlackHardware.Library

variable {α β : Type} [DecidableEq α]

/-- The memory after the writes, one after the other. -/
def writeAll (memory : α → β) (writes : List (α × β)) : α → β :=
  writes.foldl (fun memory write => Function.update memory write.1 write.2) memory

variable {memory : α → β} {writes more : List (α × β)} {a : α} {b : β}

theorem writeAll_nil : writeAll memory [] = memory := rfl

theorem writeAll_cons (write : α × β)
    : writeAll memory (write :: writes)
      = writeAll (Function.update memory write.1 write.2) writes := rfl

theorem writeAll_append
    : writeAll memory (writes ++ more) = writeAll (writeAll memory writes) more :=
  List.foldl_append

/-- What is not written to keeps its value, by induction on the writes. -/
theorem writeAll_untouched (untouched : ∀ write ∈ writes, write.1 ≠ a)
    : writeAll memory writes a = memory a := by
  induction writes generalizing memory with
  | nil => rfl
  | cons write writes ih =>
      obtain ⟨here, others⟩ := List.forall_mem_cons.mp untouched
      rw [writeAll_cons, ih others, Function.update_of_ne (Ne.symm here)]

/-- The last write to an address stays. -/
theorem writeAll_last (later : ∀ write ∈ more, write.1 ≠ a)
    : writeAll memory (writes ++ (a, b) :: more) a = b := by
  rw [writeAll_append, writeAll_cons, writeAll_untouched later, Function.update_self]

/-- Of writes to different addresses all stay. -/
theorem writeAll_distinct (distinct : (writes.map Prod.fst).Nodup) (member : (a, b) ∈ writes)
    : writeAll memory writes a = b := by
  obtain ⟨before, more, rfl⟩ := List.append_of_mem member
  rw [List.map_append, List.map_cons] at distinct
  refine writeAll_last fun write behind same => ?_
  have once := (List.nodup_cons.mp distinct.of_append_right).1
  exact once (List.mem_map.mpr ⟨write, behind, same⟩)

/-- Values that are written to different places, one behind the other, all stay. -/
theorem writeAll_range {place : Nat → α} {value : Nat → β} {count i : Nat}
    (distinct : ∀ j < count, ∀ k < count, place j = place k → j = k) (inside : i < count)
    : writeAll memory ((List.range count).map fun j => (place j, value j)) (place i)
      = value i := by
  refine writeAll_distinct ?_ (List.mem_map.mpr ⟨i, List.mem_range.mpr inside, rfl⟩)
  rw [List.map_map]
  refine List.Nodup.map_on (fun j first k second => ?_) List.nodup_range
  exact distinct j (List.mem_range.mp first) k (List.mem_range.mp second)

end BigBlackHardware.Library
