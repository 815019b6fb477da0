import BigBlackHardware.Codec.Packets

/-! The header format of `protocol.h`, stated independently of the decoder, and what
`parse_header` makes of it.
-/

namespace BigBlackHardware

open Library

/-- The type byte that `protocol.h` gives a packet type. -/
def PacketType.wireByte : PacketType → UInt8
  | .programmerInitPacket => plProgrammerInit
  | .programmerStopPacket => plProgrammerStop
  | .uartInitPacket => plUartInit
  | .uartStopPacket => plUartStop
  | .resetPacket => plReset
  | .ackPacket => plAckPacket
  | .closeConnectionPacket => plCloseConnection
  | .networkConfigurationPacket => plNetworkConfiguration
  | .enableEncryptionPacket => plEnableEncryption
  | .enableSignPacket => plEnableSign
  | .encryptionConfigPacket => plSetEncryptionKeys
  | .signConfigPacket => plSetSignKeys
  | .observerKeyPacket => plSetObserverKey
  | .errorPacket => plErrorPacket
  | .loadMcuInfoPacket => plLoadMcuInfo
  | .programMemoryPacket => plProgramMemory
  | .readMemoryPacket => plReadMemory
  | .memoryPacket => plMemory
  | .cmdPacket => plCmd
  | .uartConfigurationPacket => plUartConfiguration
  | .uartDataPacket => plUartData

/-- The section of `protocol.h` that lists the type's byte. -/
def PacketType.group : PacketType → PacketGroup
  | .loadMcuInfoPacket
  | .programMemoryPacket
  | .readMemoryPacket
  | .memoryPacket
  | .cmdPacket => .programmerGroup
  | .uartConfigurationPacket
  | .uartDataPacket => .uartGroup
  | _ => .controlGroup

/-- The packet type that a type byte stands for, if any. -/
def PacketType.ofWireByte? (byte : UInt8) : Option PacketType :=
  PacketType.all.find? (fun type => type.wireByte == byte)

/-- The 16-bit size in bytes 3 and 4, big-endian. -/
def headerSize (header : Cells UInt8) : Nat := 256 * (header 3).toNat + (header 4).toNat

/-- The value of a flag bit of byte 1. -/
def headerFlag (header : Cells UInt8) (bit : Nat) : UInt8 :=
  if (header 1).toBitVec.getLsbD bit then 1 else 0

/-- The headers that `protocol.h` describes. -/
structure HeaderFormat (header : Cells UInt8) : Prop where
  start : header 0 = plStartFrameByte
  size : headerSize header ≤ plMaxDataLength.toNat
  typed : ∃ type : PacketType, header 2 = type.wireByte

/-- The header object that the bytes stand for, given the packet type of byte 2. -/
def headerFields (header : Cells UInt8) (type : PacketType) : PacketHeader where
  type := type.val
  group := type.group.val
  dataSize := UInt16.ofNat (headerSize header)
  compression := headerFlag header plFlagCompressionBit
  encryption := headerFlag header plFlagEncryptionBit
  sign := headerFlag header plFlagSignBit

/-- A statement about every byte follows from its 256 instances. -/
theorem forall_byte {P : UInt8 → Prop} (h : ∀ i : Fin 256, P (UInt8.ofFin i)) (byte : UInt8)
    : P byte := by
  simpa using h byte.toFin

/-- The shifts and ors of the size loop compute the big-endian number, since the low byte
does not overlap the shifted high byte.
-/
theorem getSizeFromHeader_toNat (header : Cells UInt8)
    : (getSizeFromHeader header).toNat = headerSize header := by
  have unrolled
      : getSizeFromHeader header
        = ((0 : UInt16) ||| ((header 3).toUInt16 <<< (8 : UInt16)))
          ||| ((header 4).toUInt16 <<< (0 : UInt16)) := rfl
  have high := (header 3).toNat_lt
  have low := (header 4).toNat_lt
  have shift : (8 : UInt16).toNat % 16 = 8 := rfl
  have still : (0 : UInt16).toNat % 16 = 0 := rfl
  rw [unrolled, headerSize, UInt16.toNat_or, UInt16.toNat_or, UInt16.toNat_shiftLeft,
    UInt16.toNat_shiftLeft, UInt8.toNat_toUInt16, UInt8.toNat_toUInt16, shift, still,
    Nat.shiftLeft_zero, UInt16.toNat_zero, Nat.zero_or, Nat.shiftLeft_eq,
    Nat.mod_eq_of_lt (by omega), Nat.mod_eq_of_lt (a := (header 4).toNat) (by omega),
    ← Nat.shiftLeft_eq, ← Nat.shiftLeft_add_eq_or_of_lt (by omega), Nat.shiftLeft_eq]
  omega

theorem getSizeFromHeader_eq (header : Cells UInt8)
    : getSizeFromHeader header = UInt16.ofNat (headerSize header) := by
  rw [← getSizeFromHeader_toNat, UInt16.ofNat_toNat]

/-- Shifting and masking reads the flag bit, by inspection of all bytes. -/
theorem getFlagBit_eq (header : Cells UInt8) (bit : Fin 3)
    : getFlagBit header bit = headerFlag header bit := by
  have bytes (byte : UInt8)
      : (byte >>> (bit : Nat).toUInt8) &&& 0x01
        = if byte.toBitVec.getLsbD bit then 1 else 0 := by
    revert byte
    apply forall_byte
    revert bit
    decide +kernel
  exact bytes (header 1)

/-- The group that the mask tests select for a byte with one of the first two mask bits. -/
def maskGroup (byte : UInt8) : PacketGroup :=
  if byte &&& plControlPacketsMsk ≠ 0 then .controlGroup else .programmerGroup

/-- The type that the tables give for a byte with a mask bit. It is -1, as a byte, if the byte is
unknown or belongs to a UART type.
-/
def decodedType (byte : UInt8) : UInt8 :=
  match PacketType.ofWireByte? byte with
  | some type => if type.group = .uartGroup then -1 else type.val
  | none => -1

/-- What the mask tests and the tables make of each type byte. A UART byte carries the control
mask bit, so it is looked up in the control table, which does not know it; the UART test is
never reached. Witness: inspection of all bytes.
-/
theorem selectType_eq (byte : UInt8)
    : selectType byte
      = if byte &&& plUartPacketsMsk ≠ 0 then some (maskGroup byte, decodedType byte)
        else none := by
  revert byte
  apply forall_byte
  decide +kernel

/-- Looking up a type's own byte finds that type, by inspection of all types. -/
theorem PacketType.ofWireByte?_wireByte (type : PacketType)
    : PacketType.ofWireByte? type.wireByte = some type := by
  cases type <;> rfl

/-- A byte stands for a type exactly when it is that type's byte. -/
theorem PacketType.ofWireByte?_eq_some {byte : UInt8} {type : PacketType}
    : PacketType.ofWireByte? byte = some type ↔ byte = type.wireByte := by
  constructor
  · intro found
    have same := List.find?_some (p := fun type : PacketType => type.wireByte == byte) found
    exact (beq_iff_eq.mp same).symm
  · rintro rfl
    exact PacketType.ofWireByte?_wireByte type

/-- Enumerators lie below `PacketsNumber`, by inspection of all types. -/
theorem PacketType.val_lt (type : PacketType) : type.val < packetsNumber := by
  cases type <;> decide

theorem PacketType.val_injective {left right : PacketType} (same : left.val = right.val)
    : left = right := by
  revert same
  cases left <;> cases right <;> decide

/-- The size test of the decoder is the bound of the format. -/
theorem getSizeFromHeader_gt_iff (header : Cells UInt8)
    : getSizeFromHeader header > plMaxDataLength
      ↔ ¬ headerSize header ≤ plMaxDataLength.toNat := by
  rw [gt_iff_lt, UInt16.lt_iff_toNat_lt, getSizeFromHeader_toNat]
  omega

/-- The headers that the decoder accepts: the type byte need only have a mask bit. -/
structure Accepted (header : Cells UInt8) : Prop where
  start : header 0 = plStartFrameByte
  size : headerSize header ≤ plMaxDataLength.toNat
  masked : header 2 &&& plUartPacketsMsk ≠ 0

/-- The header object that an accepted header gives. -/
def decodedFields (header : Cells UInt8) : PacketHeader where
  type := decodedType (header 2)
  group := (maskGroup (header 2)).val
  dataSize := UInt16.ofNat (headerSize header)
  compression := headerFlag header plFlagCompressionBit
  encryption := headerFlag header plFlagEncryptionBit
  sign := headerFlag header plFlagSignBit

/-- An accepted header gives its fields, whatever the header object held before. -/
theorem parseHeader_accepts {header : Cells UInt8} (accepted : Accepted header)
    (packetH : PacketHeader)
    : parseHeader header packetH = (packetSuccess, decodedFields header) := by
  have sized : ¬ getSizeFromHeader header > plMaxDataLength := by
    rw [getSizeFromHeader_gt_iff]
    exact not_not.mpr accepted.size
  have selected
      : selectType (getTypeFromHeader header)
        = some (maskGroup (header 2), decodedType (header 2)) := by
    rw [getTypeFromHeader, plTypeFieldOffset, selectType_eq, if_pos accepted.masked]
  have kept : ¬ ((decodedType (header 2)).toNat : Int) < 0 := Int.not_lt.mpr (Int.natCast_nonneg _)
  have compression : getFlagBit header plFlagCompressionBit
      = headerFlag header plFlagCompressionBit := getFlagBit_eq header 0
  have encryption : getFlagBit header plFlagEncryptionBit
      = headerFlag header plFlagEncryptionBit := getFlagBit_eq header 1
  have sign : getFlagBit header plFlagSignBit
      = headerFlag header plFlagSignBit := getFlagBit_eq header 2
  simp only [parseHeader, accepted.start, sized, selected, kept, ne_eq, not_true_eq_false,
    ↓reduceIte, compression, encryption, sign]
  rw [getSizeFromHeader_eq]
  rfl

/-- Every other header is refused and leaves the header object alone. -/
theorem parseHeader_refuses {header : Cells UInt8} (refused : ¬ Accepted header)
    (packetH : PacketHeader)
    : (parseHeader header packetH).1 < 0 ∧ (parseHeader header packetH).2 = packetH := by
  by_cases start : header 0 = plStartFrameByte
  swap
  · simp [parseHeader, start, packetWrongStartByte]
  by_cases size : headerSize header ≤ plMaxDataLength.toNat
  swap
  · have large := (getSizeFromHeader_gt_iff header).mpr size
    simp [parseHeader, start, large, packetWrongSize]
  have sized : ¬ getSizeFromHeader header > plMaxDataLength := by
    rw [getSizeFromHeader_gt_iff]
    exact not_not.mpr size
  have unmasked : ¬ header 2 &&& plUartPacketsMsk ≠ 0 := fun masked =>
    refused ⟨start, size, masked⟩
  have selected := selectType_eq (header 2)
  rw [if_neg unmasked] at selected
  simp [parseHeader, start, sized, getTypeFromHeader, plTypeFieldOffset, selected, packetWrongType]

/-- The status is zero or negative, and zero exactly for the headers that are accepted. -/
theorem parseHeader_success_iff (header : Cells UInt8) (packetH : PacketHeader)
    : (parseHeader header packetH).1 = packetSuccess ↔ Accepted header := by
  constructor
  · intro success
    by_contra refused
    have negative := (parseHeader_refuses refused packetH).1
    rw [success] at negative
    exact absurd negative (by decide)
  · intro accepted
    rw [parseHeader_accepts accepted]

/-- The byte of a type has a mask bit, and the tables give the type for it unless it is a UART type.
-/
theorem PacketType.decodedType_eq {byte : UInt8} {type : PacketType} (same : byte = type.wireByte)
    : byte &&& plUartPacketsMsk ≠ 0
      ∧ decodedType byte = if type.group = .uartGroup then -1 else type.val := by
  subst same
  cases type <;> decide

/-- A type that the tables give for a byte has this byte, and is no UART type. -/
theorem PacketType.of_decodedType {byte : UInt8} {type : PacketType}
    (decoded : decodedType byte = type.val) : byte = type.wireByte ∧ type.group ≠ .uartGroup := by
  have small := type.val_lt
  rw [decodedType] at decoded
  cases found : PacketType.ofWireByte? byte with
  | none =>
      rw [found] at decoded
      rw [← decoded] at small
      exact absurd small (by decide)
  | some known =>
      rw [found] at decoded
      dsimp only at decoded
      split at decoded
      · rw [← decoded] at small
        exact absurd small (by decide)
      · cases PacketType.val_injective decoded
        exact ⟨PacketType.ofWireByte?_eq_some.mp found, ‹_›⟩

/-- A control or programmer header gives the fields that its bytes stand for. -/
theorem decodedFields_eq {header : Cells UInt8} {type : PacketType}
    (byte : header 2 = type.wireByte) (served : type.group ≠ .uartGroup)
    : decodedFields header = headerFields header type := by
  have group : maskGroup type.wireByte = type.group := by
    revert served
    cases type <;> decide
  rw [decodedFields, (PacketType.decodedType_eq byte).2, if_neg served, byte, group]
  rfl

/-- A status that is not negative is success. -/
theorem parseHeader_nonneg_iff (header : Cells UInt8) (packetH : PacketHeader)
    : 0 ≤ (parseHeader header packetH).1 ↔ (parseHeader header packetH).1 = packetSuccess := by
  constructor
  · intro accepted
    by_contra failed
    rw [parseHeader_success_iff] at failed
    have negative := (parseHeader_refuses failed packetH).1
    omega
  · intro accepted
    rw [accepted]
    decide

/-- An accepted header gives the size that its bytes stand for, within the limit. -/
theorem parseHeader_dataSize {header : Cells UInt8} {packetH : PacketHeader}
    (accepted : (parseHeader header packetH).1 = packetSuccess)
    : (parseHeader header packetH).2.dataSize.toNat = headerSize header
      ∧ headerSize header ≤ plMaxDataLength.toNat := by
  have known := (parseHeader_success_iff header packetH).mp accepted
  rw [parseHeader_accepts known]
  refine ⟨?_, known.size⟩
  rw [decodedFields, ← getSizeFromHeader_eq, getSizeFromHeader_toNat]

/-- The contract: exactly the described headers are accepted, an accepted header yields the
fields its bytes stand for, and a refused one leaves the header object alone.
-/
def ParsesAsSpecified (header : Cells UInt8) (packetH : PacketHeader) : Prop :=
  ((parseHeader header packetH).1 = packetSuccess ↔ HeaderFormat header)
  ∧ ((parseHeader header packetH).1 = packetSuccess
      → ∃ type : PacketType,
          header 2 = type.wireByte
          ∧ (parseHeader header packetH).2 = headerFields header type)
  ∧ ((parseHeader header packetH).1 < 0 → (parseHeader header packetH).2 = packetH)

/-- The headers on which the decoder keeps its contract: the header fails an earlier test, or its
type byte has none of the mask bits or belongs to the control or programmer section.
-/
def DecoderKnows (header : Cells UInt8) : Prop :=
  header 0 ≠ plStartFrameByte
  ∨ plMaxDataLength.toNat < headerSize header
  ∨ header 2 &&& plUartPacketsMsk = 0
  ∨ ∃ type : PacketType, header 2 = type.wireByte ∧ type.group ≠ .uartGroup

/-- `parse_header` keeps its contract exactly on the headers described. Witness: a refused header
has no type byte and leaves the header object, and of the accepted ones those with a UART byte or an
unknown byte get the type 255.
-/
theorem parseHeader_parsesAsSpecified_iff (header : Cells UInt8) (packetH : PacketHeader)
    : ParsesAsSpecified header packetH ↔ DecoderKnows header := by
  by_cases accepted : Accepted header
  · have result := parseHeader_accepts accepted packetH
    rw [ParsesAsSpecified, result]
    constructor
    · rintro ⟨exactly, gives, -⟩
      obtain ⟨type, byte, fields⟩ := gives rfl
      have decoded : decodedType (header 2) = type.val := congrArg PacketHeader.type fields
      exact Or.inr (Or.inr (Or.inr ⟨type, PacketType.of_decodedType decoded⟩))
    · rintro (start | size | unmasked | ⟨type, byte, served⟩)
      · exact absurd accepted.start start
      · exact absurd accepted.size (Nat.not_le.mpr size)
      · exact absurd unmasked accepted.masked
      · have format : HeaderFormat header := ⟨accepted.start, accepted.size, type, byte⟩
        refine ⟨iff_of_true rfl format, fun _ => ⟨type, byte, decodedFields_eq byte served⟩, ?_⟩
        exact fun negative => absurd negative (Int.lt_irrefl 0)
  · obtain ⟨negative, left⟩ := parseHeader_refuses accepted packetH
    have failed := (parseHeader_success_iff header packetH).not.mpr accepted
    have unformatted : ¬ HeaderFormat header := by
      rintro ⟨start, size, type, byte⟩
      exact accepted ⟨start, size, (PacketType.decodedType_eq byte).1⟩
    refine iff_of_true ⟨iff_of_false failed unformatted, fun success => absurd success failed,
      fun _ => left⟩ ?_
    by_cases start : header 0 = plStartFrameByte
    swap
    · exact Or.inl start
    by_cases size : headerSize header ≤ plMaxDataLength.toNat
    swap
    · exact Or.inr (Or.inl (Nat.not_le.mp size))
    refine Or.inr (Or.inr (Or.inl ?_))
    by_contra masked
    exact accepted ⟨start, size, masked⟩

/-- A UART configuration header without data is accepted with the type 255. -/
theorem parseHeader_mistakes_uartConfiguration
    : ¬ ParsesAsSpecified
        (Cells.store (fun _ => 0) 0 [plStartFrameByte, 0x00, plUartConfiguration, 0x00, 0x00])
        ⟨0, 0, 0, 0, 0, 0⟩ := by
  intro specified
  obtain ⟨type, -, fields⟩ := specified.2.1 (by decide)
  have unknown : (255 : UInt8) = type.val := congrArg PacketHeader.type fields
  exact absurd type.val_lt (by rw [← unknown]; decide)

end BigBlackHardware
