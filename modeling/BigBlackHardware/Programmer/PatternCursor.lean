import BigBlackHardware.Programmer.PatternSymbols

/-! The cursor of `create_memory_cmd`. The digit loop moves it past the digits of an address and
steps it back before the `for` loop goes on, all in 8 bits, and only the NUL behind the pattern ends
the digits.
-/

namespace BigBlackHardware

open Library

/-- What `create_memory_cmd` does with its index `j`. -/
inductive CursorEvent where
  /-- A read of `pattern[index]`. -/
  | read (index : Nat)
  /-- A `j++`, with `j` before it. -/
  | up (j : UInt8)
  /-- A `j--`, with `j` before it. -/
  | down (j : UInt8)
  /-- The digit loop is cut short. -/
  | cut
  deriving DecidableEq

/-- The digit loop from an index on, which reads the character for each comparison, and once more
when it stores it.
-/
def digitEvents (pattern : Cells UInt8) : Nat → UInt8 → List CursorEvent
  | 0, _ => [.cut]
  | fuel + 1, j =>
      let digit := pattern j.toNat
      let read : CursorEvent := .read j.toNat
      if 0x30 ≤ digit ∧ digit ≤ 0x39 then
        [read, read, read, .up j] ++ digitEvents pattern fuel (j + 1)
      else if 0x30 ≤ digit then [read, read]
      else [read]

/-- A round of the `for` loop without its own `j++`. -/
def CmdBuilder.symbolEvents (pattern : Cells UInt8) (builder : CmdBuilder) : List CursorEvent :=
  let j := builder.j
  let char := pattern j.toNat
  let read : CursorEvent := .read j.toNat
  if char = 0x31 then [read]
  else if char = 0x30 then [read, read]
  else if char = 0x61 then
    [read, read, read, .up j] ++ digitEvents pattern 256 (j + 1)
      ++ [.down (addressDigits pattern 256 (j + 1)).2]
  else [read, read, read, read]

/-- The rounds of the `for` loop. -/
def createMemoryCmdRounds (pattern : Cells UInt8) (patternLen : UInt8) (addr : UInt32)
    (input : UInt8) : Nat → CmdBuilder → List (List CursorEvent)
  | 0, _ => []
  | fuel + 1, builder =>
      if builder.j < patternLen then
        let after := (builder.symbol pattern addr input).nextBit
        (builder.symbolEvents pattern ++ [.up after.j])
          :: createMemoryCmdRounds pattern patternLen addr input fuel
            { after with j := after.j + 1 }
      else []

/-- Where an event takes the cursor, if it happens there. -/
def CursorEvent.follow (j : UInt8) : CursorEvent → Option UInt8
  | .read index => if index = j.toNat then some j else none
  | .up before => if before = j then some (j + 1) else none
  | .down before => if before = j then some (j - 1) else none
  | .cut => some j

/-- An event that reads no character behind the NUL at the end of the pattern and wraps nothing
around.
-/
def CursorEvent.Sound (patternLen : UInt8) : CursorEvent → Prop
  | .read index => index ≤ patternLen.toNat
  | .up j => j.toNat + 1 < 2 ^ 8
  | .down j => 0 < j.toNat
  | .cut => False

-----------------------------------------------------------------------------------------
-- The events are those of the loop
-----------------------------------------------------------------------------------------

section Follow

variable (pattern : Cells UInt8)

/-- The events of the digit loop lead to the index behind the digits. -/
theorem digitEvents_follow (fuel : Nat) (j : UInt8)
    : (digitEvents pattern fuel j).foldlM CursorEvent.follow j
      = some (addressDigits pattern fuel j).2 := by
  induction fuel generalizing j with
  | zero => rfl
  | succ fuel ih =>
      rw [digitEvents, addressDigits]
      dsimp only
      by_cases digit : 0x30 ≤ pattern j.toNat ∧ pattern j.toNat ≤ 0x39
      · rw [if_pos digit, if_pos digit]
        simp [CursorEvent.follow, ih]
      · rw [if_neg digit, if_neg digit]
        split <;> simp [CursorEvent.follow]

/-- The events of a round lead to the index that the round leaves. -/
theorem symbolEvents_follow (addr : UInt32) (input : UInt8) (builder : CmdBuilder)
    : (builder.symbolEvents pattern).foldlM CursorEvent.follow builder.j
      = some (builder.symbol pattern addr input).nextBit.j := by
  rw [nextBit_keeps_j, CmdBuilder.symbolEvents, CmdBuilder.symbol]
  dsimp only
  split
  · simp [CursorEvent.follow, CmdBuilder.orBits]
  split
  · simp [CursorEvent.follow]
  split
  · simp [CursorEvent.follow, digitEvents_follow, CmdBuilder.orBits]
  · split <;> simp [CursorEvent.follow, CmdBuilder.orBits]

/-- The events of the rounds lead to the index that the loop leaves, by induction on the rounds. -/
theorem createMemoryCmdRounds_follow (len : UInt8) (addr : UInt32) (input : UInt8) (fuel : Nat)
    (builder : CmdBuilder)
    : (createMemoryCmdRounds pattern len addr input fuel builder).flatten.foldlM CursorEvent.follow
        builder.j
      = some (createMemoryCmdLoop pattern len addr input fuel builder).j := by
  induction fuel generalizing builder with
  | zero => rfl
  | succ fuel ih =>
      rw [createMemoryCmdRounds, createMemoryCmdLoop]
      dsimp only
      split
      · rw [List.flatten_cons, List.foldlM_append, List.foldlM_append,
          symbolEvents_follow pattern addr input builder]
        simp [CursorEvent.follow, ← ih]
      · rfl

end Follow

-----------------------------------------------------------------------------------------
-- The events are sound
-----------------------------------------------------------------------------------------

section Sound

variable {pattern : Cells UInt8} {len : UInt8}

theorem read_sound {j : UInt8} (inside : j ≤ len) : (CursorEvent.read j.toNat).Sound len :=
  UInt8.le_iff_toNat_le.mp inside

/-- Before the end of the pattern there is an index that follows. -/
theorem up_sound {j : UInt8} (inside : j < len) : (CursorEvent.up j).Sound len :=
  Nat.lt_of_le_of_lt (UInt8.lt_iff_toNat_lt.mp inside) len.toNat_lt

/-- The digit loop ends at the NUL at the latest. -/
theorem digitEvents_sound (nul : pattern len.toNat = 0) (fuel : Nat) {j : UInt8} (inside : j ≤ len)
    (enough : len.toNat - j.toNat < fuel)
    : ∀ event ∈ digitEvents pattern fuel j, event.Sound len := by
  induction fuel generalizing j with
  | zero => exact absurd enough (Nat.not_lt_zero _)
  | succ fuel ih =>
      have read := read_sound inside
      rw [digitEvents]
      by_cases digit : 0x30 ≤ pattern j.toNat ∧ pattern j.toNat ≤ 0x39
      · have before : j < len := by
          refine UInt8.lt_of_le_of_ne inside fun last => ?_
          rw [last, nul] at digit
          exact absurd digit.1 (by decide)
        have next := next_toNat before
        have below := UInt8.lt_iff_toNat_lt.mp before
        have rest := ih (j := j + 1) (by rw [UInt8.le_iff_toNat_le]; omega) (by omega)
        rw [if_pos digit, List.forall_mem_append]
        refine ⟨?_, rest⟩
        simpa using ⟨read, up_sound before⟩
      · rw [if_neg digit]
        split <;> simpa using read

/-- A round reads its symbol and the character behind it at the farthest. -/
theorem symbolEvents_sound (nul : pattern len.toNat = 0) {builder : CmdBuilder}
    (inside : builder.j < len) : ∀ event ∈ builder.symbolEvents pattern, event.Sound len := by
  have read := read_sound (UInt8.le_of_lt inside)
  have below := UInt8.lt_iff_toNat_lt.mp inside
  have next := next_toNat inside
  have bound := len.toNat_lt
  have within : builder.j + 1 ≤ len := by
    rw [UInt8.le_iff_toNat_le]
    omega
  rw [CmdBuilder.symbolEvents]
  split
  · simpa using read
  split
  · simpa using read
  split
  · have digits := digitEvents_sound nul 256 within (by omega)
    have behind : (CursorEvent.down (addressDigits pattern 256 (builder.j + 1)).2).Sound len := by
      have fits : (builder.j + 1).toNat
          + ((restOf pattern len (builder.j + 1)).takeWhile isDigit).length ≤ len.toNat := by
        have length := (List.takeWhile_sublist isDigit).length_le.trans_eq
          (Cells.load_length pattern (builder.j + 1).toNat (len.toNat - (builder.j + 1).toNat))
        change _ + ((pattern.load _ _).takeWhile isDigit).length ≤ _
        omega
      rw [addressDigits_eq nul 256 within (by omega)]
      change 0 < (builder.j + 1 + _).toNat
      rw [later_toNat fits]
      omega
    rw [List.forall_mem_append, List.forall_mem_append]
    exact ⟨⟨by simpa using ⟨read, up_sound inside⟩, digits⟩, by simpa using behind⟩
  · simpa using read

/-- What the rounds from a cursor on are to keep: the loop ends, with not more rounds than there are
characters left, and every event in them is sound.
-/
structure RoundsSound (pattern : Cells UInt8) (len : UInt8) (addr : UInt32) (input : UInt8)
    (fuel : Nat) (builder : CmdBuilder) : Prop where
  ended : ¬ (createMemoryCmdLoop pattern len addr input fuel builder).j < len
  few
    : (createMemoryCmdRounds pattern len addr input fuel builder).length
      ≤ len.toNat - builder.j.toNat
  sound
    : ∀ round ∈ createMemoryCmdRounds pattern len addr input fuel builder,
        ∀ event ∈ round, event.Sound len

/-- The rounds are sound, by induction on them: each reads at least one character of what is left.
-/
theorem roundsSound (nul : pattern len.toNat = 0) (addr : UInt32) (input : UInt8) (fuel : Nat)
    {builder : CmdBuilder} (inside : builder.j ≤ len)
    (enough : len.toNat - builder.j.toNat ≤ fuel)
    : RoundsSound pattern len addr input fuel builder := by
  refine cursor_induction nul addr input (motive := RoundsSound pattern len addr input) ?_ ?_ fuel
    inside enough
  · intro fuel builder last
    have stop : ¬ builder.j < len := by
      rw [last]
      exact UInt8.lt_irrefl len
    cases fuel with
    | zero => exact ⟨stop, Nat.zero_le _, fun _ none => by cases none⟩
    | succ fuel =>
        refine ⟨?_, ?_, ?_⟩
        · rw [createMemoryCmdLoop, if_neg stop]
          exact stop
        · rw [createMemoryCmdRounds, if_neg stop]
          exact Nat.zero_le _
        · rw [createMemoryCmdRounds, if_neg stop]
          intro round none
          cases none
  · intro fuel builder symbol before reads rest
    obtain ⟨ended, few, sound⟩ := rest
    have longer : 0 < symbol.text.length := by cases symbol <;> exact Nat.succ_pos _
    have moved : (builder.round addr input symbol).j.toNat
        = builder.j.toNat + symbol.text.length := later_toNat reads.fits
    have fits := reads.fits
    have last : (CursorEvent.up (builder.symbol pattern addr input).nextBit.j).Sound len := by
      have next := congrArg (UInt8.toNat ∘ CmdBuilder.j) reads.round
      have bound := (builder.symbol pattern addr input).nextBit.j.toNat_lt
      dsimp only [Function.comp_apply] at next
      rw [moved, UInt8.toNat_add, UInt8.toNat_one] at next
      change _ + 1 < 2 ^ 8
      omega
    refine ⟨?_, ?_, ?_⟩
    · rw [createMemoryCmdLoop, if_pos before]
      dsimp only
      rw [reads.round]
      exact ended
    · rw [createMemoryCmdRounds, if_pos before]
      dsimp only
      rw [reads.round, List.length_cons]
      omega
    · rw [createMemoryCmdRounds, if_pos before]
      dsimp only
      rw [reads.round, List.forall_mem_cons, List.forall_mem_append]
      exact ⟨⟨symbolEvents_sound nul before, by simpa using last⟩, sound⟩

end Sound

/-- With a NUL behind its pattern `create_memory_cmd` ends after at most as many rounds as the
pattern has characters, its index never wraps around, and it reads no character behind the NUL.
-/
theorem createMemoryCmd_cursor (pattern : Cells UInt8) (patternLen : UInt8)
    (nul : pattern patternLen.toNat = 0) (addr : UInt32) (input : UInt8) (fuel : Nat)
    (enough : patternLen.toNat ≤ fuel)
    : ¬ (createMemoryCmdLoop pattern patternLen addr input fuel .initial).j < patternLen
      ∧ (createMemoryCmdRounds pattern patternLen addr input fuel .initial).length
          ≤ patternLen.toNat
      ∧ ∀ round ∈ createMemoryCmdRounds pattern patternLen addr input fuel .initial,
          ∀ event ∈ round, event.Sound patternLen := by
  have start : (0 : UInt8) ≤ patternLen := UInt8.le_iff_toNat_le.mpr (Nat.zero_le _)
  have left : patternLen.toNat - CmdBuilder.initial.j.toNat ≤ fuel :=
    (Nat.sub_le _ _).trans enough
  obtain ⟨ended, few, sound⟩ := roundsSound nul addr input fuel start left
  exact ⟨ended, few, sound⟩

/-- The longest pattern, which ends with the `a` of an address without digits. -/
theorem createMemoryCmd_cursor_longest
    : ¬ (createMemoryCmdLoop (fun i => if i < 255 then 0x61 else 0) 255 0 0 256 .initial).j < 255
      ∧ (createMemoryCmdRounds (fun i => if i < 255 then 0x61 else 0) 255 0 0 256 .initial).length
          ≤ (255 : UInt8).toNat
      ∧ ∀ round ∈
          createMemoryCmdRounds (fun i => if i < 255 then 0x61 else 0) 255 0 0 256 .initial,
          ∀ event ∈ round, event.Sound 255 :=
  createMemoryCmd_cursor _ 255 (by decide) 0 0 256 (by decide)

end BigBlackHardware
