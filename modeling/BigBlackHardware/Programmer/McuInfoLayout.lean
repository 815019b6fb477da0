import BigBlackHardware.Programmer.CommandTrace
import BigBlackHardware.Programmer.PayloadBytes

/-! The layout of a description of the target, and what `get_mcu_info` makes of it. -/

namespace BigBlackHardware

open Library

/-- A byte string whose length fits into a length byte. -/
structure ShortText where
  bytes : List UInt8
  short : bytes.length ≤ 255

/-- A description of the target, as a client sees it. -/
structure McuDescription where
  flashLoadLo : ShortText
  flashLoadHi : ShortText
  flashReadLo : ShortText
  flashReadHi : ShortText
  flashWaitMs : UInt8
  eepromWrite : ShortText
  eepromRead : ShortText
  eepromWaitMs : UInt8
  pgmEnable : AvrCommand

/-- A text behind its length byte. -/
def ShortText.layout (text : ShortText) : List UInt8 :=
  UInt8.ofNat text.bytes.length :: text.bytes

/-- The payload that brings a description. -/
def McuDescription.layout (description : McuDescription) : List UInt8 :=
  description.flashLoadLo.layout ++ (description.flashLoadHi.layout
    ++ (description.flashReadLo.layout ++ (description.flashReadHi.layout
      ++ description.flashWaitMs :: (description.eepromWrite.layout
        ++ (description.eepromRead.layout
          ++ description.eepromWaitMs :: description.pgmEnable.toList)))))

/-- A pattern with its length is a text. -/
def HoldsText (len : UInt8) (pattern : Block) (text : ShortText) : Prop :=
  len.toNat = text.bytes.length ∧ pattern.bytes.load 0 text.bytes.length = text.bytes

/-- An `AvrMcuInfo` holds a description. -/
structure Describes (info : AvrMcuInfo) (description : McuDescription) : Prop where
  flashLoadLo : HoldsText info.flashLoadLoLen info.flashLoadLoPattern description.flashLoadLo
  flashLoadHi : HoldsText info.flashLoadHiLen info.flashLoadHiPattern description.flashLoadHi
  flashReadLo : HoldsText info.flashReadLoLen info.flashReadLoPattern description.flashReadLo
  flashReadHi : HoldsText info.flashReadHiLen info.flashReadHiPattern description.flashReadHi
  flashWaitMs : info.flashWaitMs = description.flashWaitMs
  eepromWrite : HoldsText info.eepromWriteLen info.eepromWritePattern description.eepromWrite
  eepromRead : HoldsText info.eepromReadLen info.eepromReadPattern description.eepromRead
  eepromWaitMs : info.eepromWaitMs = description.eepromWaitMs
  pgmEnable : info.pgmEnable = description.pgmEnable

/-- A block stands at a position of a buffer. -/
def StandsAt (buf : Cells UInt8) (k : Nat) (block : List UInt8) : Prop :=
  buf.load k block.length = block

section Cursor

variable {buf : Cells UInt8} {k : Nat}

/-- Two blocks stand behind each other. -/
theorem StandsAt.append {block rest : List UInt8} (stands : StandsAt buf k (block ++ rest))
    : StandsAt buf k block ∧ StandsAt buf (k + block.length) rest := by
  rw [StandsAt, List.length_append, Cells.load_add] at stands
  exact List.append_inj stands (Cells.load_length _ _ _)

theorem StandsAt.cons {byte : UInt8} {rest : List UInt8} (stands : StandsAt buf k (byte :: rest))
    : buf k = byte ∧ StandsAt buf (k + 1) rest := by
  rw [StandsAt, List.length_cons, Cells.load_succ] at stands
  exact List.cons.inj stands

/-- Behind a text the next block stands where the cursor goes from the text. -/
theorem StandsAt.text {text : ShortText} {rest : List UInt8}
    (stands : StandsAt buf k (text.layout ++ rest))
    : (buf k).toNat = text.bytes.length ∧ StandsAt buf (k + 1) text.bytes
      ∧ StandsAt buf (skipPattern buf k) rest := by
  obtain ⟨here, behind⟩ := stands.append
  obtain ⟨length, bytes⟩ := here.cons
  have size : (buf k).toNat = text.bytes.length := by
    have short := text.short
    rw [length, UInt8.toNat_ofNat']
    omega
  refine ⟨size, bytes, ?_⟩
  rwa [ShortText.layout, List.length_cons, Nat.add_comm _ 1, ← Nat.add_assoc, ← size] at behind

/-- A byte of a block that stands somewhere. -/
theorem StandsAt.byte {block : List UInt8} (stands : StandsAt buf k block) {i : Nat}
    (inside : i < block.length) : buf (k + i) = block[i] := by
  have entry := buf.load_getElem k block.length (i := i) (by simpa using inside)
  rw [← entry]
  exact List.getElem_of_eq stands _

/-- The pattern that is read where a text stands is the text. What was stored to it afterwards lies
behind the text.
-/
theorem holdsText {text : ShortText} (size : (buf k).toNat = text.bytes.length)
    (stands : StandsAt buf (k + 1) text.bytes) {heap : Heap} {pattern : Block}
    (same : ∀ j < (buf k).toNat, pattern.bytes j = (getPattern buf k heap).2.1.bytes j)
    : HoldsText (buf k) pattern text := by
  refine ⟨size, ?_⟩
  rw [Cells.load_eq_iff]
  intro i inside
  have below : i < (buf k).toNat := by rwa [size]
  rw [same i below, getPattern_text buf k heap below, stands.byte inside]

/-- Four bytes that are read one by one are the command that stands there. -/
theorem command_ofFn {cmd : AvrCommand} (stands : StandsAt buf k cmd.toList)
    : Vector.ofFn (fun i : Fin avrCmdSize => buf (k + i)) = cmd := by
  apply Vector.ext
  intro i inside
  rw [Vector.getElem_ofFn, stands.byte (by rwa [Vector.length_toList]), Vector.getElem_toList]

end Cursor

/-- A payload that begins with the layout of a description is decoded to it. -/
theorem getMcuInfo_describes (description : McuDescription) (packet : Packet) (heap : Heap)
    (begins : StandsAt packet.packetData 0 description.layout)
    : Describes (getMcuInfo packet heap).2.1 description := by
  obtain ⟨header, rawHeader, buf⟩ := packet
  obtain ⟨loadLo, loadLoText, atLoadHi⟩ := begins.text
  obtain ⟨loadHi, loadHiText, atReadLo⟩ := atLoadHi.text
  obtain ⟨readLo, readLoText, atReadHi⟩ := atReadLo.text
  obtain ⟨readHi, readHiText, atFlashWait⟩ := atReadHi.text
  obtain ⟨flashWait, atWrite⟩ := atFlashWait.cons
  obtain ⟨write, writeText, atRead⟩ := atWrite.text
  obtain ⟨read, readText, atEepromWait⟩ := atRead.text
  obtain ⟨eepromWait, atEnable⟩ := atEepromWait.cons
  exact
    { flashLoadLo :=
        holdsText loadLo loadLoText (getPattern_terminated _ _ _ (length_le_skipPattern _ _))
      -- this pattern holds the next but one terminator as well
      flashLoadHi :=
        holdsText loadHi loadHiText
          (getPattern_terminated_twice _ _ _ (length_le_skipPattern _ _) (length_le_flashEnd _))
      flashReadLo :=
        holdsText readLo readLoText (getPattern_terminated _ _ _ (length_le_skipPattern _ _))
      flashReadHi := holdsText readHi readHiText fun _ _ => rfl
      flashWaitMs := flashWait
      eepromWrite :=
        holdsText write writeText (getPattern_terminated _ _ _ (length_le_skipPattern _ _))
      eepromRead :=
        holdsText read readText (getPattern_terminated _ _ _ (length_le_skipPattern _ _))
      eepromWaitMs := eepromWait
      pgmEnable := command_ofFn atEnable }

/-- The instructions on flash words and on EEPROM bytes, two waits and the command to enter
programming mode.
-/
def wordDescription : McuDescription where
  flashLoadLo := ⟨loadLoPattern, by decide⟩
  flashLoadHi := ⟨loadHiPattern, by decide⟩
  flashReadLo := ⟨readLoPattern, by decide⟩
  flashReadHi := ⟨readHiPattern, by decide⟩
  flashWaitMs := 5
  eepromWrite :=
    ⟨wordPattern [.one, .one, .zero, .zero, .zero, .zero, .zero, .zero] .input, by decide⟩
  eepromRead :=
    ⟨wordPattern [.one, .zero, .one, .zero, .zero, .zero, .zero, .zero] (.other 0x6F),
      by decide⟩
  eepromWaitMs := 9
  pgmEnable := #v[0xAC, 0x53, 0x0F, 0x0F]

theorem getMcuInfo_describes_words
    : Describes
        (getMcuInfo ⟨⟨0, 0, 0, 0, 0, 0⟩, fun _ => 0, fun i => wordDescription.layout[i]?.getD 0⟩
          (.boot fun _ _ => 0)).2.1
        wordDescription :=
  getMcuInfo_describes wordDescription _ (.boot fun _ _ => 0) (by
    rw [StandsAt]
    decide +kernel)

end BigBlackHardware
