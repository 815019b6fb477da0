import BigBlackHardware.Library.Cells
import BigBlackHardware.Codec.Protocol

/-! The packet codec of `packets.c`: header parsing, header update and packet creation. -/

namespace BigBlackHardware

open Library

/-- `PacketGroup`. As all enumerations of the target it is one byte wide. -/
inductive PacketGroup where
  | controlGroup
  | programmerGroup
  | uartGroup
  deriving DecidableEq

/-- The enumerator's value in the C enumeration. -/
def PacketGroup.val : PacketGroup → UInt8
  | .controlGroup => 0
  | .programmerGroup => 1
  | .uartGroup => 2

/-- `PacketType`, in the order of the C enumeration, which is one byte wide. -/
inductive PacketType where
  | programmerInitPacket
  | programmerStopPacket
  | uartInitPacket
  | uartStopPacket
  | resetPacket
  | ackPacket
  | closeConnectionPacket
  | networkConfigurationPacket
  | enableEncryptionPacket
  | enableSignPacket
  | encryptionConfigPacket
  | signConfigPacket
  | observerKeyPacket
  | errorPacket
  | loadMcuInfoPacket
  | programMemoryPacket
  | readMemoryPacket
  | memoryPacket
  | cmdPacket
  | uartConfigurationPacket
  | uartDataPacket
  deriving DecidableEq

/-- All packet types, in enumeration order. -/
def PacketType.all : List PacketType :=
  [.programmerInitPacket, .programmerStopPacket, .uartInitPacket, .uartStopPacket,
    .resetPacket, .ackPacket, .closeConnectionPacket, .networkConfigurationPacket,
    .enableEncryptionPacket, .enableSignPacket, .encryptionConfigPacket, .signConfigPacket,
    .observerKeyPacket, .errorPacket, .loadMcuInfoPacket, .programMemoryPacket,
    .readMemoryPacket, .memoryPacket, .cmdPacket, .uartConfigurationPacket, .uartDataPacket]

/-- The enumerator's value in the C enumeration, which starts at 0. -/
def PacketType.val (type : PacketType) : UInt8 := (PacketType.all.idxOf type).toUInt8

/-- `PacketsNumber`, the enumerator after the last packet type. -/
def packetsNumber : UInt8 := 21

/-- `PacketHeader`. An object of enumeration type is a raw byte, because a header that was never
parsed holds whatever its memory held.
-/
structure PacketHeader where
  type : UInt8
  group : UInt8
  dataSize : UInt16
  compression : UInt8
  encryption : UInt8
  sign : UInt8
  deriving DecidableEq

/-- `Packet`. The arrays are read and written through their base address: `raw_header` is the
first `plPacketHeaderSize` cells, `packet_data` the first `packetDataLength` cells, and later
cells are the memory behind the array.
-/
structure Packet where
  header : PacketHeader
  rawHeader : Cells UInt8
  packetData : Cells UInt8

/-- The size field, most significant byte first. -/
def getSizeFromHeader (header : Cells UInt8) : UInt16 :=
  (List.range plSizeFieldSize).foldl
    (fun size i =>
      size ||| ((header (plSizeFieldOffset + i)).toUInt16
        <<< (8 * (plSizeFieldSize - 1 - i)).toUInt16))
    0

def getTypeFromHeader (header : Cells UInt8) : UInt8 := header plTypeFieldOffset

def getFlagBit (header : Cells UInt8) (bit : Nat) : UInt8 :=
  (header plFlagsFieldOffset >>> bit.toUInt8) &&& 0x01

def setFlagBit (header : Cells UInt8) (bit : Nat) : Cells UInt8 :=
  header.store plFlagsFieldOffset [header plFlagsFieldOffset ||| (1 <<< bit.toUInt8)]

-----------------------------------------------------------------------------------------
-- Mappings from PL to PacketType
-----------------------------------------------------------------------------------------

/-- `get_uart_packet_type`; the `default` case returns -1, which is 255 in a `PacketType`. -/
def getUartPacketType (type : UInt8) : UInt8 :=
  if type = plUartConfiguration then PacketType.uartConfigurationPacket.val
  else if type = plUartData then PacketType.uartDataPacket.val
  else -1

/-- `get_programmer_packet_type`; the `default` case returns -1. -/
def getProgrammerPacketType (type : UInt8) : UInt8 :=
  if type = plLoadMcuInfo then PacketType.loadMcuInfoPacket.val
  else if type = plProgramMemory then PacketType.programMemoryPacket.val
  else if type = plReadMemory then PacketType.readMemoryPacket.val
  else if type = plMemory then PacketType.memoryPacket.val
  else if type = plCmd then PacketType.cmdPacket.val
  else if type = plErrorPacket then PacketType.errorPacket.val
  else -1

/-- `get_control_packet_type`; the `default` case returns -1. -/
def getControlPacketType (type : UInt8) : UInt8 :=
  if type = plProgrammerInit then PacketType.programmerInitPacket.val
  else if type = plProgrammerStop then PacketType.programmerStopPacket.val
  else if type = plUartInit then PacketType.uartInitPacket.val
  else if type = plUartStop then PacketType.uartStopPacket.val
  else if type = plReset then PacketType.resetPacket.val
  else if type = plAckPacket then PacketType.ackPacket.val
  else if type = plCloseConnection then PacketType.closeConnectionPacket.val
  else if type = plNetworkConfiguration then PacketType.networkConfigurationPacket.val
  else if type = plEnableEncryption then PacketType.enableEncryptionPacket.val
  else if type = plEnableSign then PacketType.enableSignPacket.val
  else if type = plSetEncryptionKeys then PacketType.encryptionConfigPacket.val
  else if type = plSetSignKeys then PacketType.signConfigPacket.val
  else if type = plSetObserverKey then PacketType.observerKeyPacket.val
  else if type = plErrorPacket then PacketType.errorPacket.val
  else -1

-----------------------------------------------------------------------------------------
-- parse_header, update_header, create_packet
-----------------------------------------------------------------------------------------

/-- The group that the mask tests of `parse_header` select, with the type that this group's
table gives; `none` when no mask bit is set. The masks are tested in the source's order.
-/
def selectType (type : UInt8) : Option (PacketGroup × UInt8) :=
  if type &&& plControlPacketsMsk ≠ 0 then
    some (.controlGroup, getControlPacketType type)
  else if type &&& plProgrammerPacketsMsk ≠ 0 then
    some (.programmerGroup, getProgrammerPacketType type)
  else if type &&& plUartPacketsMsk ≠ 0 then
    some (.uartGroup, getUartPacketType type)
  else none

/-- `parse_header`: the status and the header object afterwards. The group is stored before
the type is checked, as in the source.
-/
def parseHeader (header : Cells UInt8) (packetH : PacketHeader) : Int × PacketHeader :=
  if header 0 ≠ plStartFrameByte then (packetWrongStartByte, packetH)
  else if getSizeFromHeader header > plMaxDataLength then (packetWrongSize, packetH)
  else
    match selectType (getTypeFromHeader header) with
    | none => (packetWrongType, packetH)
    | some (group, type) =>
        let packetH := { packetH with group := group.val }
        -- no `PacketType` is negative in the `_i16`, not even the -1 of an unknown byte
        if (type.toNat : Int) < 0 then (packetWrongType, packetH)
        else
          (packetSuccess,
            { packetH with
              type := type
              dataSize := getSizeFromHeader header
              compression := getFlagBit header plFlagCompressionBit
              encryption := getFlagBit header plFlagEncryptionBit
              sign := getFlagBit header plFlagSignBit })

/-- The size loop of `update_header`. -/
def putSize (rawHeader : Cells UInt8) (dataSize : UInt16) : Cells UInt8 :=
  (List.range plSizeFieldSize).foldl
    (fun raw i =>
      raw.store (plSizeFieldOffset + i)
        [((dataSize >>> (8 * (plSizeFieldSize - i - 1)).toUInt16) &&& 0xFF).toUInt8])
    rawHeader

/-- `update_header`: writes the start byte, the size and the flags of the packet's header. -/
def updateHeader (packet : Packet) : Int × Packet :=
  let header := packet.header
  if header.dataSize > plMaxDataLength then (packetWrongSize, packet)
  else
    let raw := packet.rawHeader.store 0 [plStartFrameByte]
    let raw := putSize raw header.dataSize
    let raw := raw.store plFlagsFieldOffset [0x00]
    let raw := if header.compression ≠ 0 then setFlagBit raw plFlagCompressionBit else raw
    let raw := if header.encryption ≠ 0 then setFlagBit raw plFlagEncryptionBit else raw
    let raw := if header.sign ≠ 0 then setFlagBit raw plFlagSignBit else raw
    (packetSuccess, { packet with rawHeader := raw })

/-- The outcome of `create_packet`. `copied` is the number of cells of `packet_data` that its
`memcpy` stored to, counted from the start of the array.
-/
structure CreatedPacket where
  status : Int
  packet : Packet
  copied : Nat

/-- `create_packet`; `data` is `none` for a `NULL` pointer. The parameter `type` is not used,
as in the source.
-/
def createPacket (packet : Packet) (_type : PacketType) (comp sign enc : UInt8)
    (data : Option (Cells UInt8)) (dataSize : UInt16)
    : CreatedPacket :=
  let header :=
    { packet.header with
      compression := comp
      sign := sign
      encryption := enc
      dataSize := dataSize }
  let (status, packet) := updateHeader { packet with header := header }
  if status < 0 then ⟨status, packet, 0⟩
  else
    match data with
    | some data =>
        if dataSize ≠ 0 then
          let block := data.load 0 dataSize.toNat
          ⟨status, { packet with packetData := packet.packetData.store 0 block }, block.length⟩
        else ⟨status, packet, 0⟩
    | none => ⟨status, packet, 0⟩

end BigBlackHardware
