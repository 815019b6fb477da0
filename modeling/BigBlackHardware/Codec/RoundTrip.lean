import BigBlackHardware.Codec.HeaderFormat

/-! Header update and packet creation against the decoder: which fields the encoder writes, and
when decoding undoes encoding.
-/

namespace BigBlackHardware

open Library

/-- The wire value of a flag, `COMPRESSION_ON` or `COMPRESSION_OFF` and so on. -/
def flagByte (on : Bool) : UInt8 := if on then 1 else 0

/-- The size loop stores the high byte and then the low byte, by unrolling it. -/
theorem putSize_eq (rawHeader : Cells UInt8) (dataSize : UInt16)
    : putSize rawHeader dataSize
      = (rawHeader.store 3 [((dataSize >>> 8) &&& 0xFF).toUInt8]).store 4
          [((dataSize >>> 0) &&& 0xFF).toUInt8] := rfl

/-- The two bytes of a size are its quotient and remainder by 256. -/
theorem sizeBytes_toNat (dataSize : UInt16)
    : (((dataSize >>> 8) &&& 0xFF).toUInt8).toNat = dataSize.toNat / 256
      ∧ (((dataSize >>> 0) &&& 0xFF).toUInt8).toNat = dataSize.toNat % 256 := by
  have bound := dataSize.toNat_lt
  have mask (n : Nat) : n &&& 255 = n % 2 ^ 8 := Nat.and_two_pow_sub_one_eq_mod n 8
  constructor
  · simp [UInt16.toNat_toUInt8, Nat.shiftRight_eq_div_pow, mask]
    omega
  · simp [UInt16.toNat_toUInt8, mask]

/-- A conditional flag store changes the flags byte only. -/
theorem setFlagBit_ite (on : Prop) [Decidable on] (rawHeader : Cells UInt8) (bit i : Nat)
    : (if on then setFlagBit rawHeader bit else rawHeader) i
      = if i = 1 then rawHeader 1 ||| (if on then 1 <<< bit.toUInt8 else 0)
        else rawHeader i := by
  by_cases flag : on <;> by_cases one : i = 1 <;>
    simp [flag, one, setFlagBit, plFlagsFieldOffset]

/-- The flags byte that `update_header` builds bit by bit. -/
def flagsByte (compression encryption sign : Bool) : UInt8 :=
  (((0x00 : UInt8) ||| (if compression then 1 <<< plFlagCompressionBit.toUInt8 else 0))
    ||| (if encryption then 1 <<< plFlagEncryptionBit.toUInt8 else 0))
    ||| (if sign then 1 <<< plFlagSignBit.toUInt8 else 0)

/-- Each flag is read back from the flags byte, by inspection of the flag combinations. -/
theorem flagsByte_getLsbD (compression encryption sign : Bool)
    : (flagsByte compression encryption sign).toBitVec.getLsbD plFlagCompressionBit = compression
      ∧ (flagsByte compression encryption sign).toBitVec.getLsbD plFlagEncryptionBit = encryption
      ∧ (flagsByte compression encryption sign).toBitVec.getLsbD plFlagSignBit = sign := by
  revert compression encryption sign
  decide

/-- The raw header after an accepted update: the type byte and the cells behind the header are
the old ones.
-/
def updatedHeader (packet : Packet) : Cells UInt8
  | 0 => plStartFrameByte
  | 1 =>
      flagsByte (packet.header.compression != 0) (packet.header.encryption != 0)
        (packet.header.sign != 0)
  | 3 => ((packet.header.dataSize >>> 8) &&& 0xFF).toUInt8
  | 4 => ((packet.header.dataSize >>> 0) &&& 0xFF).toUInt8
  | i => packet.rawHeader i

/-- A refused size leaves the packet as it was. -/
theorem updateHeader_refuses (packet : Packet)
    (large : plMaxDataLength.toNat < packet.header.dataSize.toNat)
    : updateHeader packet = (packetWrongSize, packet) := by
  have exceeds : packet.header.dataSize > plMaxDataLength := by
    rwa [gt_iff_lt, UInt16.lt_iff_toNat_lt]
  simp [updateHeader, exceeds]

/-- An accepted size succeeds and rewrites the raw header, by following the stores. -/
theorem updateHeader_accepts (packet : Packet)
    (fits : packet.header.dataSize.toNat ≤ plMaxDataLength.toNat)
    : updateHeader packet
      = (packetSuccess, { packet with rawHeader := updatedHeader packet }) := by
  have under : ¬ packet.header.dataSize > plMaxDataLength := by
    rw [gt_iff_lt, UInt16.lt_iff_toNat_lt]
    omega
  simp only [updateHeader, under, ↓reduceIte]
  congr 2
  funext i
  simp only [setFlagBit_ite, putSize_eq]
  match i with
  | 0 | 1 | 2 | 3 | 4 => simp [updatedHeader, flagsByte, plFlagsFieldOffset]
  | i + 5 => simp [updatedHeader, plFlagsFieldOffset]

/-- The updated header carries the size of the header object. -/
theorem headerSize_updatedHeader (packet : Packet)
    : headerSize (updatedHeader packet) = packet.header.dataSize.toNat := by
  obtain ⟨high, low⟩ := sizeBytes_toNat packet.header.dataSize
  simp only [headerSize, updatedHeader, high, low]
  omega

/-- The updated header carries the flags of the header object, where any non-zero value stands
for a set flag.
-/
theorem headerFlag_updatedHeader (packet : Packet)
    : headerFlag (updatedHeader packet) plFlagCompressionBit
        = flagByte (packet.header.compression != 0)
      ∧ headerFlag (updatedHeader packet) plFlagEncryptionBit
        = flagByte (packet.header.encryption != 0)
      ∧ headerFlag (updatedHeader packet) plFlagSignBit
        = flagByte (packet.header.sign != 0) := by
  obtain ⟨compression, encryption, sign⟩ :=
    flagsByte_getLsbD (packet.header.compression != 0) (packet.header.encryption != 0)
      (packet.header.sign != 0)
  simp only [headerFlag, updatedHeader, compression, encryption, sign, flagByte, and_self]

/-- The packet object that `create_packet` hands to `update_header`. -/
def Packet.withFields (packet : Packet) (comp sign enc : UInt8) (dataSize : UInt16) : Packet :=
  { packet with
    header :=
      { packet.header with
        compression := comp
        sign := sign
        encryption := enc
        dataSize := dataSize } }

/-- An accepted creation succeeds, updates the header and copies all data bytes. -/
theorem createPacket_accepts (packet : Packet) (type : PacketType) (comp sign enc : UInt8)
    (data : Cells UInt8) {dataSize : UInt16}
    (fits : dataSize.toNat ≤ plMaxDataLength.toNat)
    : createPacket packet type comp sign enc (some data) dataSize
      = ⟨packetSuccess,
          { header := (packet.withFields comp sign enc dataSize).header
            rawHeader := updatedHeader (packet.withFields comp sign enc dataSize)
            packetData := packet.packetData.store 0 (data.load 0 dataSize.toNat) },
          dataSize.toNat⟩ := by
  have updated := updateHeader_accepts (packet.withFields comp sign enc dataSize) fits
  simp only [createPacket]
  simp only [Packet.withFields] at updated ⊢
  rw [updated]
  by_cases empty : dataSize = 0
  · subst dataSize
    simp [packetSuccess]
  · simp [packetSuccess, empty]

/-- Without data only the header is updated. -/
theorem createPacket_header (packet : Packet) (type : PacketType) (comp sign enc : UInt8)
    {dataSize : UInt16} (fits : dataSize.toNat ≤ plMaxDataLength.toNat)
    : createPacket packet type comp sign enc none dataSize
      = ⟨packetSuccess,
          { packet.withFields comp sign enc dataSize with
            rawHeader := updatedHeader (packet.withFields comp sign enc dataSize) },
          0⟩ := by
  have updated := updateHeader_accepts (packet.withFields comp sign enc dataSize) fits
  simp only [createPacket]
  simp only [Packet.withFields] at updated ⊢
  rw [updated]
  simp [packetSuccess]

/-- A size above the limit is refused with the data untouched; the header object of the packet
already carries the refused size.
-/
theorem createPacket_refuses (packet : Packet) (type : PacketType) (comp sign enc : UInt8)
    (data : Option (Cells UInt8)) {dataSize : UInt16}
    (large : plMaxDataLength.toNat < dataSize.toNat)
    : createPacket packet type comp sign enc data dataSize
      = ⟨packetWrongSize, packet.withFields comp sign enc dataSize, 0⟩ := by
  have refused := updateHeader_refuses (packet.withFields comp sign enc dataSize) large
  simp only [createPacket]
  simp only [Packet.withFields] at refused ⊢
  rw [refused]
  simp [packetWrongSize]

/-- The contract of the codec: a created packet's raw header decodes to the type, the size and
the flags it was created with, and its data bytes are the data.
-/
def DecodesWhatWasCreated (packet : Packet) (type : PacketType) (comp sign enc : Bool)
    (data : Cells UInt8) (size : UInt16)
    : Prop :=
  let created :=
    createPacket packet type (flagByte comp) (flagByte sign) (flagByte enc) (some data) size
  created.status = packetSuccess
  → ∀ packetH : PacketHeader,
      let parsed := parseHeader created.packet.rawHeader packetH
      parsed.1 = packetSuccess
      ∧ parsed.2.type = type.val
      ∧ parsed.2.dataSize = size
      ∧ parsed.2.compression = flagByte comp
      ∧ parsed.2.encryption = flagByte enc
      ∧ parsed.2.sign = flagByte sign
      ∧ created.packet.packetData.load 0 size.toNat = data.load 0 size.toNat

/-- Decoding undoes encoding exactly when the packet object still holds, from its previous use,
the type byte of the type it is created with, and the type is not a UART type. Witness: the
encoder never writes the type byte, the decoder reads nothing else about the type, and it
knows no UART byte; size, flags and data survive in every case.
-/
theorem createPacket_decodes_iff (packet : Packet) (type : PacketType) (comp sign enc : Bool)
    (data : Cells UInt8) (size : UInt16) (small : size.toNat ≤ packetDataLength)
    : DecodesWhatWasCreated packet type comp sign enc data size
      ↔ packet.rawHeader plTypeFieldOffset = type.wireByte ∧ type.group ≠ .uartGroup := by
  have fits : size.toNat ≤ plMaxDataLength.toNat := Nat.le_trans small (by decide)
  have created := createPacket_accepts packet type (flagByte comp) (flagByte sign)
    (flagByte enc) data fits
  let sent := packet.withFields (flagByte comp) (flagByte sign) (flagByte enc) size
  have stale : updatedHeader sent 2 = packet.rawHeader 2 := rfl
  simp only [DecodesWhatWasCreated, created, forall_const, plTypeFieldOffset]
  constructor
  · intro decodes
    obtain ⟨accepted, sameType, _⟩ := decodes sent.header
    have known := (parseHeader_success_iff _ _).mp accepted
    rw [parseHeader_accepts known] at sameType
    obtain ⟨byte, served⟩ := PacketType.of_decodedType sameType
    exact ⟨stale.symm.trans byte, served⟩
  · rintro ⟨byte, served⟩ packetH
    have known : Accepted (updatedHeader sent) := {
      start := rfl
      size := by rw [headerSize_updatedHeader]; exact fits
      masked := (PacketType.decodedType_eq (stale.trans byte)).1
    }
    have fields := parseHeader_accepts known packetH
    rw [decodedFields_eq (stale.trans byte) served] at fields
    obtain ⟨compression, encryption, sign⟩ := headerFlag_updatedHeader sent
    have set (on : Bool) : flagByte (flagByte on != 0) = flagByte on := by cases on <;> rfl
    rw [fields]
    refine ⟨rfl, rfl, ?_, ?_, ?_, ?_, ?_⟩
    · simp only [headerFields, headerSize_updatedHeader, UInt16.ofNat_toNat]
      rfl
    · exact compression.trans (set comp)
    · exact encryption.trans (set enc)
    · exact sign.trans (set _)
    · have copied := packet.packetData.load_store (data.load 0 size.toNat)
      rwa [Cells.load_length] at copied

/-- A fresh packet object holds no CMD type byte, so a CMD packet made in it does not decode. -/
theorem createPacket_cmd_not_decoded
    : ¬ DecodesWhatWasCreated ⟨⟨0, 0, 0, 0, 0, 0⟩, fun _ => 0, fun _ => 0⟩ .cmdPacket
        false false false (fun _ => 0) 4 := by
  intro decodes
  have accepted := (decodes (by decide) ⟨0, 0, 0, 0, 0, 0⟩).1
  exact absurd accepted (by decide)

/-- A packet object last used for a CMD packet can be used for the next one. -/
theorem createPacket_cmd_decoded_again
    : DecodesWhatWasCreated ⟨⟨0, 0, 0, 0, 0, 0⟩, fun _ => plCmd, fun _ => 0⟩ .cmdPacket
        false false false (fun _ => 0) 4 :=
  (createPacket_decodes_iff _ _ _ _ _ _ _ (by decide)).mpr ⟨by decide, by decide⟩

-----------------------------------------------------------------------------------------
-- Encoding what was decoded
-----------------------------------------------------------------------------------------

/-- The packet with the header object that its raw header parses to. -/
def Packet.parsed (packet : Packet) : Packet :=
  { packet with header := (parseHeader packet.rawHeader packet.header).2 }

/-- The bits of the flags byte that have a meaning. -/
def flagsMask : UInt8 := 0x07

/-- Updating a parsed header gives the bytes back, with the reserved flags cleared, and a size above
the limit is refused with the raw header untouched.
-/
structure Reencodes (packet : Packet) : Prop where
  parsed
    : (parseHeader packet.rawHeader packet.header).1 = packetSuccess →
      let updated := updateHeader packet.parsed
      updated.1 = packetSuccess
      ∧ (∀ i ∈ [0, 2, 3, 4], updated.2.rawHeader i = packet.rawHeader i)
      ∧ updated.2.rawHeader plFlagsFieldOffset = packet.rawHeader plFlagsFieldOffset &&& flagsMask
  refused
    : packet.header.dataSize > plMaxDataLength →
      (updateHeader packet).1 = packetWrongSize
      ∧ (updateHeader packet).2.rawHeader = packet.rawHeader

/-- The flags byte of the flags of a byte is that byte without the reserved bits, by inspection of
all bytes.
-/
theorem flagsByte_headerFlag (header : Cells UInt8)
    : flagsByte (headerFlag header plFlagCompressionBit != 0)
        (headerFlag header plFlagEncryptionBit != 0) (headerFlag header plFlagSignBit != 0)
      = header 1 &&& flagsMask := by
  have bytes (byte : UInt8)
      : flagsByte ((if byte.toBitVec.getLsbD plFlagCompressionBit then 1 else 0 : UInt8) != 0)
          ((if byte.toBitVec.getLsbD plFlagEncryptionBit then 1 else 0 : UInt8) != 0)
          ((if byte.toBitVec.getLsbD plFlagSignBit then 1 else 0 : UInt8) != 0)
        = byte &&& flagsMask := by
    revert byte
    apply forall_byte
    decide +kernel
  exact bytes (header 1)

/-- The bytes of the size that two bytes stand for are these bytes. -/
theorem sizeBytes_headerSize (header : Cells UInt8)
    : ((UInt16.ofNat (headerSize header) >>> 8) &&& 0xFF).toUInt8 = header 3
      ∧ ((UInt16.ofNat (headerSize header) >>> 0) &&& 0xFF).toUInt8 = header 4 := by
  obtain ⟨high, low⟩ := sizeBytes_toNat (UInt16.ofNat (headerSize header))
  have first := (header 3).toNat_lt
  have second := (header 4).toNat_lt
  have size : (UInt16.ofNat (headerSize header)).toNat = headerSize header := by
    rw [← getSizeFromHeader_eq, getSizeFromHeader_toNat]
  have sum : headerSize header = 256 * (header 3).toNat + (header 4).toNat := rfl
  rw [size] at high low
  constructor
  · apply UInt8.toNat_inj.mp
    rw [high]
    omega
  · apply UInt8.toNat_inj.mp
    rw [low]
    omega

/-- Every packet's header is re-encoded up to the reserved flags. Witness: the size bytes and the
flags are inverse to each other, and the type byte is never written.
-/
theorem updateHeader_reencodes (packet : Packet) : Reencodes packet where
  parsed := by
    intro accepted updated
    have known := (parseHeader_success_iff packet.rawHeader packet.header).mp accepted
    have fields : packet.parsed.header = decodedFields packet.rawHeader :=
      congrArg Prod.snd (parseHeader_accepts known packet.header)
    have fits : packet.parsed.header.dataSize.toNat ≤ plMaxDataLength.toNat := by
      obtain ⟨size, limit⟩ := parseHeader_dataSize accepted
      exact size.trans_le limit
    have encoded : updated = _ := updateHeader_accepts packet.parsed fits
    obtain ⟨high, low⟩ := sizeBytes_headerSize packet.rawHeader
    rw [encoded]
    refine ⟨rfl, ?_, ?_⟩
    · intro i member
      simp only [List.mem_cons, List.not_mem_nil, or_false] at member
      rcases member with rfl | rfl | rfl | rfl
      · exact known.start.symm
      · rfl
      · simp only [updatedHeader, fields, decodedFields, high]
      · simp only [updatedHeader, fields, decodedFields, low]
    · simp only [updatedHeader, fields, decodedFields, plFlagsFieldOffset]
      exact flagsByte_headerFlag packet.rawHeader
  refused := by
    intro large
    rw [updateHeader_refuses packet (UInt16.lt_iff_toNat_lt.mp large)]
    exact ⟨rfl, rfl⟩

/-- A Reset header with all flag bits set keeps the three that have a meaning. -/
example
    : let packet : Packet :=
        ⟨⟨0, 0, 0, 0, 0, 0⟩, fun i => [0x1B, 0xFF, 0x14, 0, 1][i]?.getD 0, fun _ => 0⟩
      (updateHeader packet.parsed).2.rawHeader.load 0 5 = [0x1B, 0x07, 0x14, 0, 1] := by
  decide

end BigBlackHardware
