import BigBlackHardware.Programmer.Commands

/-! Which payload bytes the decoders read: `get_mcu_info` does not look at the packet's size. -/

namespace BigBlackHardware

open Library

/-- The position behind a pattern, of which the length stands at `k`. -/
def skipPattern (buf : Cells UInt8) (k : Nat) : Nat := k + 1 + (buf k).toNat

/-- The position of the byte behind the four flash patterns. -/
def flashEnd (buf : Cells UInt8) : Nat :=
  skipPattern buf (skipPattern buf (skipPattern buf (skipPattern buf 0)))

/-- The position of the byte behind the two EEPROM patterns. -/
def eepromEnd (buf : Cells UInt8) : Nat :=
  skipPattern buf (skipPattern buf (flashEnd buf + 1))

/-- How many payload bytes `get_mcu_info` reads. -/
def infoEnd (buf : Cells UInt8) : Nat := eepromEnd buf + 1 + avrCmdSize

/-- The buffers have the same bytes up to a position. -/
def AgreeTo (buf other : Cells UInt8) (k : Nat) : Prop := ∀ i < k, other i = buf i

section Agreement

variable {buf other : Cells UInt8} {k : Nat}

theorem AgreeTo.mono (agree : AgreeTo buf other k) {j : Nat} (less : j ≤ k) : AgreeTo buf other j :=
  fun i below => agree i (Nat.lt_of_lt_of_le below less)

theorem AgreeTo.load (agree : AgreeTo buf other k) (offset count : Nat)
    (inside : offset + count ≤ k) : other.load offset count = buf.load offset count := by
  refine List.map_congr_left fun i member => agree _ ?_
  have below := List.mem_range.mp member
  omega

theorem AgreeTo.word (agree : AgreeTo buf other k) (offset : Nat) (inside : offset + 4 ≤ k)
    : getWord other offset = getWord buf offset := by
  rw [getWord, getWord, agree offset (by omega), agree (offset + 1) (by omega),
    agree (offset + 2) (by omega), agree (offset + 3) (by omega)]

/-- A pattern is read alike from bytes that agree up to its end. -/
theorem getPattern_congr (agree : AgreeTo buf other (skipPattern buf k)) (heap : Heap)
    : getPattern other k heap = getPattern buf k heap := by
  have length : other k = buf k := agree k (by rw [skipPattern]; omega)
  have text : other.load (k + 1) (buf k).toNat = buf.load (k + 1) (buf k).toNat :=
    agree.load _ _ (Nat.le_refl _)
  simp only [getPattern, length, text]

/-- The position behind a pattern that is read. -/
theorem getPattern_position (buf : Cells UInt8) (k : Nat) (heap : Heap)
    : (getPattern buf k heap).2.2.1 = skipPattern buf k := rfl

/-- The text of a pattern that is read. -/
theorem getPattern_text (buf : Cells UInt8) (k : Nat) (heap : Heap) {j : Nat}
    (inside : j < (buf k).toNat)
    : (getPattern buf k heap).2.1.bytes j = buf (k + 1 + j) := by
  have length : j - 0 < (buf.load (k + 1) (buf k).toNat).length := by
    rw [Cells.load_length]
    exact inside
  simp only [getPattern, Block.store]
  rw [Cells.store_inside _ (Nat.zero_le j) length, Cells.load_getElem]
  rfl

/-- A terminator leaves the bytes before it. -/
theorem terminator_behind (block : Block) {i j : Nat} (behind : j < i)
    : (block.store i [0]).bytes j = block.bytes j :=
  block.bytes.store_outside (Or.inl behind)

/-- A pattern ends behind its length byte and its text. -/
theorem lt_skipPattern (buf : Cells UInt8) (k : Nat) : k + (buf k).toNat < skipPattern buf k := by
  rw [skipPattern]
  omega

theorem length_le_skipPattern (buf : Cells UInt8) (k : Nat)
    : (buf k).toNat ≤ skipPattern buf k := by
  have order := lt_skipPattern buf k
  omega

/-- A terminator behind the text of a pattern leaves the text. -/
theorem getPattern_terminated (buf : Cells UInt8) (k : Nat) (heap : Heap) {i : Nat}
    (behind : (buf k).toNat ≤ i)
    : ∀ j < (buf k).toNat,
        ((getPattern buf k heap).2.1.store i [0]).bytes j = (getPattern buf k heap).2.1.bytes j :=
  fun _ inside => terminator_behind _ (Nat.lt_of_lt_of_le inside behind)

/-- So do two terminators. -/
theorem getPattern_terminated_twice (buf : Cells UInt8) (k : Nat) (heap : Heap) {i i' : Nat}
    (behind : (buf k).toNat ≤ i) (behind' : (buf k).toNat ≤ i')
    : ∀ j < (buf k).toNat,
        (((getPattern buf k heap).2.1.store i [0]).store i' [0]).bytes j
        = (getPattern buf k heap).2.1.bytes j :=
  fun j inside =>
    (terminator_behind _ (Nat.lt_of_lt_of_le inside behind')).trans
      (getPattern_terminated buf k heap behind j inside)

/-- Buffers with the same length byte and the same text behind it agree up to the end of the
pattern.
-/
theorem AgreeTo.pattern (agree : AgreeTo buf other k) (length : other k = buf k)
    (text : ∀ j < (buf k).toNat, other (k + 1 + j) = buf (k + 1 + j))
    : AgreeTo buf other (skipPattern buf k) ∧ skipPattern other k = skipPattern buf k := by
  refine ⟨fun i below => ?_, by rw [skipPattern, skipPattern, length]⟩
  rw [skipPattern] at below
  rcases Nat.lt_trichotomy i k with before | here | behind
  · exact agree i before
  · rw [here, length]
  · have same := text (i - (k + 1)) (by omega)
    rwa [show k + 1 + (i - (k + 1)) = i by omega] at same

/-- Buffers from which the same pattern is read at the same position agree up to its end. What was
stored to the patterns afterwards lies behind their texts.
-/
theorem AgreeTo.decoded (agree : AgreeTo buf other k) {k' : Nat} (here : k' = k)
    {pattern pattern' : Block} {heap heap' : Heap} (length : other k' = buf k)
    (same : pattern' = pattern)
    (text
      : ∀ j < (buf k).toNat, pattern.bytes j = (getPattern buf k heap).2.1.bytes j)
    (text'
      : ∀ j < (other k').toNat, pattern'.bytes j = (getPattern other k' heap').2.1.bytes j)
    : AgreeTo buf other (skipPattern buf k) ∧ skipPattern other k' = skipPattern buf k := by
  subst here
  refine agree.pattern length fun j inside => ?_
  have inside' : j < (other k').toNat := by rwa [length]
  rw [← getPattern_text buf k' heap inside, ← getPattern_text other k' heap' inside',
    ← text j inside, ← text' j inside', same]

/-- Buffers that agree on one more byte. -/
theorem AgreeTo.byte (agree : AgreeTo buf other k) (same : other k = buf k)
    : AgreeTo buf other (k + 1) := by
  intro i below
  rcases Nat.lt_succ_iff_lt_or_eq.mp below with before | here
  · exact agree i before
  · rw [here, same]

end Agreement

section Decoding

variable {packet packet' : Packet}

/-- Packets of one size of which all the data agrees are decoded alike, if they are long enough for
the fixed part.
-/
theorem getProgMemData_congr (size : packet'.header.dataSize = packet.header.dataSize)
    (fixed : progMemFixedSize.toNat ≤ packet.header.dataSize.toNat)
    (agree : AgreeTo packet.packetData packet'.packetData packet.header.dataSize.toNat)
    (heap : Heap)
    : getProgMemData packet' heap = getProgMemData packet heap := by
  have five : progMemFixedSize.toNat = 5 := rfl
  have count : (packet.header.dataSize.toUInt32 - progMemFixedSize).toUInt8.toNat
      ≤ packet.header.dataSize.toNat - 5 := by
    have room : progMemFixedSize ≤ packet.header.dataSize.toUInt32 := by
      rw [UInt32.le_iff_toNat_le, UInt16.toNat_toUInt32]
      exact fixed
    rw [UInt32.toNat_toUInt8, UInt32.toNat_sub_of_le _ _ room, UInt16.toNat_toUInt32, five]
    exact Nat.mod_le _ _
  have address := agree.word 0 (by omega)
  have memory := agree 4 (by omega)
  have text := agree.load progMemFixedSize.toNat
    (packet.header.dataSize.toUInt32 - progMemFixedSize).toUInt8.toNat (by omega)
  simp only [getProgMemData, size, address, memory, text]

/-- The patterns and the other bytes follow each other up to the end of the description. -/
theorem infoEnd_order (buf : Cells UInt8)
    : skipPattern buf 0 < flashEnd buf
      ∧ skipPattern buf (skipPattern buf 0) < flashEnd buf
      ∧ skipPattern buf (skipPattern buf (skipPattern buf 0)) < flashEnd buf
      ∧ flashEnd buf + 1 < skipPattern buf (flashEnd buf + 1)
      ∧ skipPattern buf (flashEnd buf + 1) < eepromEnd buf
      ∧ eepromEnd buf + 1 + avrCmdSize = infoEnd buf := by
  have second := lt_skipPattern buf (skipPattern buf 0)
  have third := lt_skipPattern buf (skipPattern buf (skipPattern buf 0))
  have fourth : _ < flashEnd buf := lt_skipPattern buf _
  have write := lt_skipPattern buf (flashEnd buf + 1)
  have read : _ < eepromEnd buf := lt_skipPattern buf _
  exact ⟨by omega, by omega, by omega, by omega, by omega, rfl⟩

/-- The second pattern ends before the byte behind the flash patterns. -/
theorem length_le_flashEnd (buf : Cells UInt8)
    : (buf (skipPattern buf 0)).toNat ≤ flashEnd buf := by
  have order := lt_skipPattern buf (skipPattern buf 0)
  obtain ⟨-, loadHi, -⟩ := infoEnd_order buf
  omega

/-- Packets whose data agrees as far as it is read are decoded alike. -/
theorem getMcuInfo_congr
    (agree : AgreeTo packet.packetData packet'.packetData (infoEnd packet.packetData)) (heap : Heap)
    : getMcuInfo packet' heap = getMcuInfo packet heap := by
  obtain ⟨header, rawHeader, buf⟩ := packet
  obtain ⟨header', rawHeader', other⟩ := packet'
  dsimp only at agree
  obtain ⟨loadHi, readLo, readHi, write, read, all⟩ := infoEnd_order buf
  have same (k : Nat) (inside : skipPattern buf k ≤ infoEnd buf)
      : getPattern other k = getPattern buf k :=
    funext fun heap => getPattern_congr (agree.mono inside) heap
  have readHiEnd : skipPattern buf (skipPattern buf (skipPattern buf (skipPattern buf 0)))
      = flashEnd buf := rfl
  have readEnd : skipPattern buf (skipPattern buf (flashEnd buf + 1)) = eepromEnd buf := rfl
  have get0 := same 0 (by omega)
  have get1 := same (skipPattern buf 0) (by omega)
  have get2 := same (skipPattern buf (skipPattern buf 0)) (by omega)
  have get3 := same (skipPattern buf (skipPattern buf (skipPattern buf 0))) (by omega)
  have get4 := same (flashEnd buf + 1) (by omega)
  have get5 := same (skipPattern buf (flashEnd buf + 1)) (by omega)
  have wait : other (flashEnd buf) = buf (flashEnd buf) := agree _ (by omega)
  have eepromWait : other (eepromEnd buf) = buf (eepromEnd buf) := agree _ (by omega)
  have enable (i : Fin avrCmdSize) : other (eepromEnd buf + 1 + i) = buf (eepromEnd buf + 1 + i) :=
    agree _ (by omega)
  simp only [getMcuInfo, getPattern_position, get0, get1, get2, get3, readHiEnd, wait, get4, get5,
    readEnd, eepromWait, enable]

/-- Packets that are decoded alike agree as far as they are read: each pattern is found at the end
of the one before.
-/
theorem agreeTo_of_getMcuInfo_eq {heap : Heap}
    (decoded : (getMcuInfo packet' heap).2.1 = (getMcuInfo packet heap).2.1)
    : AgreeTo packet.packetData packet'.packetData (infoEnd packet.packetData) := by
  obtain ⟨header, rawHeader, buf⟩ := packet
  obtain ⟨header', rawHeader', other⟩ := packet'
  have start : AgreeTo buf other 0 := fun i below => absurd below (Nat.not_lt_zero i)
  obtain ⟨loadLo, skip0⟩ := start.decoded rfl (congrArg AvrMcuInfo.flashLoadLoLen decoded)
    (congrArg AvrMcuInfo.flashLoadLoPattern decoded)
    (getPattern_terminated _ _ _ (length_le_skipPattern _ _))
    (getPattern_terminated _ _ _ (length_le_skipPattern _ _))
  -- this pattern holds the next but one terminator as well
  obtain ⟨loadHi, skip1⟩ := loadLo.decoded skip0 (congrArg AvrMcuInfo.flashLoadHiLen decoded)
    (congrArg AvrMcuInfo.flashLoadHiPattern decoded)
    (getPattern_terminated_twice _ _ _ (length_le_skipPattern _ _) (length_le_flashEnd _))
    (getPattern_terminated_twice _ _ _ (length_le_skipPattern _ _) (length_le_flashEnd _))
  obtain ⟨readLo, skip2⟩ := loadHi.decoded skip1 (congrArg AvrMcuInfo.flashReadLoLen decoded)
    (congrArg AvrMcuInfo.flashReadLoPattern decoded)
    (getPattern_terminated _ _ _ (length_le_skipPattern _ _))
    (getPattern_terminated _ _ _ (length_le_skipPattern _ _))
  obtain ⟨readHi, skip3⟩ := readLo.decoded skip2 (congrArg AvrMcuInfo.flashReadHiLen decoded)
    (congrArg AvrMcuInfo.flashReadHiPattern decoded) (fun _ _ => rfl) (fun _ _ => rfl)
  have wait : other (flashEnd other) = buf (flashEnd buf) :=
    congrArg AvrMcuInfo.flashWaitMs decoded
  have flash : AgreeTo buf other (flashEnd buf + 1) :=
    readHi.byte ((congrArg other skip3).symm.trans wait)
  obtain ⟨write, skip4⟩ := flash.decoded (congrArg (· + 1) skip3)
    (congrArg AvrMcuInfo.eepromWriteLen decoded)
    (congrArg AvrMcuInfo.eepromWritePattern decoded)
    (getPattern_terminated _ _ _ (length_le_skipPattern _ _))
    (getPattern_terminated _ _ _ (length_le_skipPattern _ _))
  obtain ⟨read, skip5⟩ := write.decoded skip4 (congrArg AvrMcuInfo.eepromReadLen decoded)
    (congrArg AvrMcuInfo.eepromReadPattern decoded)
    (getPattern_terminated _ _ _ (length_le_skipPattern _ _))
    (getPattern_terminated _ _ _ (length_le_skipPattern _ _))
  have eepromWait : other (eepromEnd other) = buf (eepromEnd buf) :=
    congrArg AvrMcuInfo.eepromWaitMs decoded
  have eeprom : AgreeTo buf other (eepromEnd buf + 1) :=
    read.byte ((congrArg other skip5).symm.trans eepromWait)
  have enable : Vector.ofFn (fun i : Fin avrCmdSize => other (eepromEnd other + 1 + i))
      = Vector.ofFn (fun i : Fin avrCmdSize => buf (eepromEnd buf + 1 + i)) :=
    congrArg AvrMcuInfo.pgmEnable decoded
  intro i below
  by_cases before : i < eepromEnd buf + 1
  · exact eeprom i before
  · obtain ⟨j, rfl⟩ := Nat.exists_eq_add_of_le (Nat.not_lt.mp before)
    have inside : j < avrCmdSize := Nat.add_lt_add_iff_left.mp below
    have entry := congrArg (fun cmd => cmd[j]) enable
    simp only [Vector.getElem_ofFn] at entry
    rwa [show eepromEnd other = eepromEnd buf from skip5] at entry

end Decoding

end BigBlackHardware
