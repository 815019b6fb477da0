import Mathlib.Algebra.Order.Ring.Nat
import Mathlib.Data.List.Basic
import Mathlib.Data.List.Range

/-! Memory seen from a base address: block stores, block loads, and stores repeated at one base.
The repeated stores are what a receive loop does that never moves its buffer pointer.
-/

namespace BigBlackHardware.Library

/-- The cells from a base address on. An array of fixed length is a prefix of them. -/
abbrev Cells (α : Type) := Nat → α

variable {α : Type}

/-- Copies `block` to the cells from `offset` on and leaves all others. -/
def Cells.store (cells : Cells α) (offset : Nat) (block : List α) : Cells α :=
  fun i => if offset ≤ i then block[i - offset]?.getD (cells i) else cells i

/-- Reads `count` cells from `offset` on. -/
def Cells.load (cells : Cells α) (offset count : Nat) : List α :=
  (List.range count).map (fun i => cells (offset + i))

/-- A cell covered by the block holds the block's entry, by the two range tests. -/
theorem Cells.store_inside (cells : Cells α) {offset i : Nat} {block : List α}
    (low : offset ≤ i) (high : i - offset < block.length)
    : cells.store offset block i = block[i - offset] := by
  simp [Cells.store, low, high]

/-- A cell outside the block keeps its content, by the failing range test. -/
theorem Cells.store_outside (cells : Cells α) {offset i : Nat} {block : List α}
    (outside : i < offset ∨ offset + block.length ≤ i)
    : cells.store offset block i = cells i := by
  unfold Cells.store
  split
  · have beyond : block.length ≤ i - offset := by omega
    simp [beyond]
  · rfl

/-- A one-cell store is a function update at its offset. -/
@[simp] theorem Cells.store_singleton (cells : Cells α) (offset i : Nat) (x : α)
    : cells.store offset [x] i = if i = offset then x else cells i := by
  by_cases same : i = offset
  · subst i
    simp [Cells.store]
  · rw [if_neg same]
    exact cells.store_outside (by simp only [List.length_singleton]; omega)

@[simp] theorem Cells.store_nil (cells : Cells α) (offset : Nat)
    : cells.store offset [] = cells := by
  funext i
  exact cells.store_outside (by simp only [List.length_nil]; omega)

/-- A block is stored by storing its first entry and the others behind it. -/
theorem Cells.store_cons (cells : Cells α) (offset : Nat) (x : α) (block : List α)
    : cells.store offset (x :: block) = (cells.store offset [x]).store (offset + 1) block := by
  funext i
  rcases Nat.lt_trichotomy i offset with before | same | behind
  · rw [cells.store_outside (Or.inl before), Cells.store_outside _ (Or.inl (by omega)),
      cells.store_outside (Or.inl before)]
  · subst i
    rw [Cells.store_outside (cells.store offset [x]) (Or.inl (Nat.lt_succ_self offset))]
    simp [Cells.store]
  · have next : i - offset = (i - (offset + 1)) + 1 := by omega
    have low : offset ≤ i := by omega
    have high : offset + 1 ≤ i := by omega
    simp [Cells.store, low, high, next]

@[simp] theorem Cells.load_length (cells : Cells α) (offset count : Nat)
    : (cells.load offset count).length = count := by
  simp [Cells.load]

@[simp] theorem Cells.load_zero (cells : Cells α) (offset : Nat)
    : cells.load offset 0 = [] := rfl

/-- A load starts with the cell at the offset and goes on behind it. -/
theorem Cells.load_succ (cells : Cells α) (offset count : Nat)
    : cells.load offset (count + 1) = cells offset :: cells.load (offset + 1) count := by
  simp only [Cells.load, List.range_succ_eq_map, List.map_cons, List.map_map, Nat.add_zero]
  congr 1
  apply List.map_congr_left
  intro i _
  simp only [Function.comp_apply]
  congr 1
  omega

/-- A loaded entry is the cell at its offset. -/
theorem Cells.load_getElem (cells : Cells α) (offset count : Nat) {i : Nat}
    (h : i < (cells.load offset count).length)
    : (cells.load offset count)[i] = cells (offset + i) := by
  simp [Cells.load]

/-- A load of two ranges, one behind the other. -/
theorem Cells.load_add (cells : Cells α) (offset m n : Nat)
    : cells.load offset (m + n) = cells.load offset m ++ cells.load (offset + m) n := by
  induction m generalizing offset with
  | zero => rw [Nat.zero_add, Cells.load_zero, List.nil_append, Nat.add_zero]
  | succ m ih =>
      rw [Nat.add_right_comm m 1 n, Cells.load_succ, Cells.load_succ, ih, List.cons_append,
        Nat.add_assoc offset 1 m, Nat.add_comm 1 m]

/-- The rest of a load is a load of the rest. -/
theorem Cells.load_drop (cells : Cells α) (offset count n : Nat)
    : (cells.load offset count).drop n = cells.load (offset + n) (count - n) := by
  apply List.ext_getElem
  · simp
  · intro i left right
    rw [List.getElem_drop, Cells.load_getElem, Cells.load_getElem, Nat.add_assoc]

/-- A load gives a list exactly when every cell holds the list's entry, by extensionality. -/
theorem Cells.load_eq_iff (cells : Cells α) (block : List α)
    : cells.load 0 block.length = block ↔ ∀ i (h : i < block.length), cells i = block[i] := by
  constructor
  · intro same i h
    have entry := cells.load_getElem 0 block.length (i := i) (by simpa using h)
    simp only [Nat.zero_add] at entry
    rw [← entry]
    simp only [same]
  · intro cell
    apply List.ext_getElem (by simp)
    intro i left right
    rw [cells.load_getElem, Nat.zero_add, cell i right]

/-- Equal loads come from equal cells. -/
theorem Cells.eq_of_load_eq {cells other : Cells α} {offset start count : Nat}
    (same : cells.load offset count = other.load start count) {i : Nat} (inside : i < count)
    : cells (offset + i) = other (start + i) := by
  have entry := List.getElem_of_eq same (i := i) (by rwa [Cells.load_length])
  rwa [Cells.load_getElem, Cells.load_getElem] at entry

/-- What a store put down is what a load of the same range reads. -/
theorem Cells.load_store (cells : Cells α) (block : List α)
    : (cells.store 0 block).load 0 block.length = block := by
  rw [Cells.load_eq_iff]
  intro i h
  exact cells.store_inside (Nat.zero_le i) (by simpa using h)

/-- A load of a part of what a store put down reads that part of the block. -/
theorem Cells.load_store_part (cells : Cells α) {block : List α} {offset count : Nat}
    (fits : offset + count ≤ block.length)
    : (cells.store 0 block).load offset count = (block.drop offset).take count := by
  apply List.ext_getElem
  · rw [Cells.load_length, List.length_take, List.length_drop]
    omega
  · intro i left right
    rw [Cells.load_length] at left
    rw [Cells.load_getElem, cells.store_inside (Nat.zero_le _) (by omega)]
    simp

/-- Stores every piece at the base, in order, without moving the base in between. -/
def Cells.overlay (cells : Cells α) (pieces : List (List α)) : Cells α :=
  pieces.foldl (fun memory piece => memory.store 0 piece) cells

/-- Cuts a list into consecutive pieces of the given lengths. -/
def cut : List Nat → List α → List (List α)
  | [], _ => []
  | count :: counts, block => block.take count :: cut counts (block.drop count)

/-- The pieces have the given lengths, by induction on them, if the list is long enough. -/
theorem map_length_cut (counts : List Nat) (block : List α) (size : counts.sum ≤ block.length)
    : (cut counts block).map List.length = counts := by
  induction counts generalizing block with
  | nil => rfl
  | cons count counts ih =>
      simp only [List.sum_cons] at size
      have rest := ih (block.drop count) (by rw [List.length_drop]; omega)
      rw [cut, List.map_cons, rest, List.length_take]
      congr 1
      omega

/-- The position in the block of the entry that ends up in cell `i`: the last piece longer
than `i` wins, and no position means that the cell keeps its old content.
-/
def overlaySource (start : Nat) : List Nat → Nat → Option Nat
  | [], _ => none
  | count :: counts, i =>
      match overlaySource (start + count) counts i with
      | some source => some source
      | none => if i < count then some (start + i) else none

/-- A source position lies inside the block, by induction on the pieces. -/
theorem overlaySource_lt {start i source : Nat} {counts : List Nat}
    (found : overlaySource start counts i = some source)
    : source < start + counts.sum := by
  induction counts generalizing start with
  | nil => simp [overlaySource] at found
  | cons count counts ih =>
      simp only [overlaySource] at found
      simp only [List.sum_cons]
      cases later : overlaySource (start + count) counts i with
      | some position =>
          simp only [later, Option.some.injEq] at found
          subst found
          have bound := ih later
          omega
      | none =>
          simp only [later] at found
          split at found
          · simp only [Option.some.injEq] at found
            omega
          · contradiction

/-- The overlay of the pieces of a block, cell by cell. Witness: induction on the pieces;
`start` counts the entries cut off already, so positions refer to the whole block.
-/
theorem Cells.overlay_cut (cells : Cells α) (block : List α) (start : Nat)
    (counts : List Nat) (size : start + counts.sum ≤ block.length) (i : Nat)
    : cells.overlay (cut counts (block.drop start)) i
      = ((overlaySource start counts i).bind (fun source => block[source]?)).getD (cells i) := by
  induction counts generalizing cells start with
  | nil => rfl
  | cons count counts ih =>
      simp only [List.sum_cons] at size
      have rest := ih (cells.store 0 ((block.drop start).take count)) (start + count) (by omega)
      simp only [cut, Cells.overlay, List.foldl_cons, List.drop_drop]
      simp only [Cells.overlay] at rest
      rw [rest, overlaySource]
      cases later : overlaySource (start + count) counts i with
      | some source =>
          have inside : source < block.length := by
            have bound := overlaySource_lt later
            omega
          simp [inside]
      | none =>
          dsimp only
          split
          · rename_i covered
            have inside : start + i < block.length := by omega
            simp [Cells.store, covered, inside]
          · rename_i uncovered
            simp only [Option.bind_none, Option.getD_none]
            apply cells.store_outside
            simp only [List.length_take, List.length_drop]
            omega

/-- No piece spoils the block: every cell of it receives, from the last piece that reaches
it, an entry equal to the block's own, or already held that entry if no piece reaches it.
-/
def Undisturbed (cells : Cells α) (block : List α) (counts : List Nat) : Prop :=
  ∀ i (h : i < block.length),
    match overlaySource 0 counts i with
    | some source => block[source]? = some block[i]
    | none => cells i = block[i]

/-- The overlay reads back as the block exactly when the pieces leave it undisturbed.
Witness: the cell-by-cell description of the overlay.
-/
theorem Cells.load_overlay_iff (cells : Cells α) (block : List α) (counts : List Nat)
    (size : counts.sum = block.length)
    : (cells.overlay (cut counts block)).load 0 block.length = block
      ↔ Undisturbed cells block counts := by
  rw [Cells.load_eq_iff]
  have cell (i : Nat) := cells.overlay_cut block 0 counts (by omega) i
  simp only [List.drop_zero] at cell
  refine forall_congr' (fun i => forall_congr' (fun h => ?_))
  rw [cell i]
  cases found : overlaySource 0 counts i with
  | none => simp
  | some source =>
      have inside : source < block.length := by
        have bound := overlaySource_lt found
        omega
      simp [inside]

/-- A block that arrives in one piece is never disturbed. -/
theorem undisturbed_of_whole {counts : List Nat} (whole : counts.length ≤ 1)
    (cells : Cells α) {block : List α} (size : counts.sum = block.length)
    : Undisturbed cells block counts := by
  intro i h
  cases counts with
  | nil =>
      rw [List.sum_nil] at size
      omega
  | cons count counts =>
      have last : counts = [] := List.eq_nil_of_length_eq_zero (by simpa using whole)
      subst last
      have all : count = block.length := by simpa using size
      simp [overlaySource, all, h]

/-- A count is smaller than the sum of several positive counts. -/
theorem lt_sum_of_mem {counts : List Nat} (several : 2 ≤ counts.length)
    (positive : ∀ count ∈ counts, 0 < count) {count : Nat} (member : count ∈ counts)
    : count < counts.sum := by
  obtain ⟨before, after, rfl⟩ := List.append_of_mem member
  have some : 0 < (before ++ after).length := by
    simp only [List.length_append, List.length_cons] at several ⊢
    omega
  obtain ⟨other, found⟩ := List.exists_mem_of_length_pos some
  have behind : other ∈ before ++ count :: after := by
    rcases List.mem_append.mp found with left | right
    · exact List.mem_append_left _ left
    · exact List.mem_append_right _ (List.mem_cons_of_mem _ right)
  have rest := List.sum_pos_iff_exists_pos_nat.mpr ⟨other, found, positive other behind⟩
  simp only [List.sum_append, List.sum_cons] at rest ⊢
  omega

/-- No piece reaches a cell that lies behind all of them, by induction on the pieces. -/
theorem overlaySource_eq_none {i : Nat} (start : Nat) {counts : List Nat}
    (short : ∀ count ∈ counts, count ≤ i) : overlaySource start counts i = none := by
  induction counts generalizing start with
  | nil => rfl
  | cons count counts ih =>
      rw [List.forall_mem_cons] at short
      rw [overlaySource, ih (start + count) short.2]
      exact if_neg (Nat.not_lt.mpr short.1)

/-- Only a block in one piece is undisturbed whatever it and the memory hold. Witness: of several
pieces none reaches the last cell.
-/
theorem forall_undisturbed_iff [Nontrivial α] {counts : List Nat}
    (positive : ∀ count ∈ counts, 0 < count)
    : (∀ (cells : Cells α) (block : List α), counts.sum = block.length
        → Undisturbed cells block counts)
      ↔ counts.length ≤ 1 := by
  constructor
  · intro safe
    by_contra cutUp
    have several : 2 ≤ counts.length := by omega
    obtain ⟨first, member⟩ := List.exists_mem_of_length_pos (l := counts) (by omega)
    have total := lt_sum_of_mem several positive member
    obtain ⟨x, y, different⟩ := exists_pair_ne α
    have size : counts.sum = (List.replicate counts.sum y).length := by
      rw [List.length_replicate]
    have last := safe (fun _ => x) _ size (counts.sum - 1) (by omega)
    have short : ∀ count ∈ counts, count ≤ counts.sum - 1 := by
      intro count member
      have bound := lt_sum_of_mem several positive member
      omega
    rw [overlaySource_eq_none 0 short, List.getElem_replicate] at last
    exact different last
  · intro whole cells block size
    exact undisturbed_of_whole whole cells size

-----------------------------------------------------------------------------------------
-- An index that wraps
-----------------------------------------------------------------------------------------

/-- Stores values at indices, one after the other. -/
def Cells.storeEach (cells : Cells α) (stores : List (Nat × α)) : Cells α :=
  stores.foldl (fun cells store => cells.store store.1 [store.2]) cells

/-- Stores `count` values one behind the other, at an index that wraps to 0 at `size`. -/
def Cells.wrapped (cells : Cells α) (size : Nat) (value : Nat → α) : Nat → Cells α
  | 0 => cells
  | count + 1 => (cells.wrapped size value count).store (count % size) [value count]

/-- A cell holds the last value that was stored to it, by induction on the count. -/
theorem Cells.wrapped_latest (cells : Cells α) {size : Nat} (value : Nat → α) {count m : Nat}
    (inside : m < count) (latest : count ≤ m + size)
    : cells.wrapped size value count (m % size) = value m := by
  induction count with
  | zero => exact absurd inside (Nat.not_lt_zero m)
  | succ count ih =>
      rw [Cells.wrapped, Cells.store_singleton]
      rcases Nat.lt_succ_iff_lt_or_eq.mp inside with before | rfl
      · have other : m % size ≠ count % size := by
          intro same
          have whole := Nat.dvd_of_mod_eq_zero (Nat.sub_mod_eq_zero_of_mod_eq same.symm)
          have round := Nat.le_of_dvd (Nat.sub_pos_of_lt before) whole
          omega
        rw [if_neg other]
        exact ih before (by omega)
      · exact if_pos rfl

/-- The cells that the index has not reached keep their content, by induction on the count. -/
theorem Cells.wrapped_ahead (cells : Cells α) {size i : Nat} (value : Nat → α) {count : Nat}
    (first : count ≤ size) (ahead : count ≤ i) : cells.wrapped size value count i = cells i := by
  induction count with
  | zero => rfl
  | succ count ih =>
      rw [Cells.wrapped, Cells.store_singleton, Nat.mod_eq_of_lt first, if_neg (by omega),
        ih (by omega) (by omega)]

/-- The cells from `size` on keep their content, by induction on the count. -/
theorem Cells.wrapped_behind (cells : Cells α) {size i : Nat} (value : Nat → α) (count : Nat)
    (some : 0 < size) (behind : size ≤ i) : cells.wrapped size value count i = cells i := by
  induction count with
  | zero => rfl
  | succ count ih =>
      have before := Nat.mod_lt count some
      rw [Cells.wrapped, Cells.store_singleton, if_neg (by omega), ih]

/-- Stores at each index in turn are stores at the index that wraps, by induction on the count. -/
theorem Cells.storeEach_range (cells : Cells α) (size : Nat) (value : Nat → α) (count : Nat)
    : cells.storeEach ((List.range count).map fun i => (i % size, value i))
      = cells.wrapped size value count := by
  induction count with
  | zero => rfl
  | succ count ih =>
      rw [Cells.storeEach] at ih
      rw [Cells.wrapped, Cells.storeEach, List.range_succ, List.map_append, List.foldl_append, ih]
      rfl

end BigBlackHardware.Library
