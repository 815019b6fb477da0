import Mathlib.Algebra.Order.Ring.Nat

/-! The constants of `protocol.h`, `packets.h`, `config.h`, `programmer_config.h` and
`wlan_config.h` that the modelled code uses, and the SDK values it compares with.
-/

namespace BigBlackHardware

def plControlPacketsMsk : UInt8 := 0x10
def plProgrammerPacketsMsk : UInt8 := 0x20
def plUartPacketsMsk : UInt8 := 0x30

def plProgrammerInit : UInt8 := 0x10
def plProgrammerStop : UInt8 := 0x11
def plUartInit : UInt8 := 0x12
def plUartStop : UInt8 := 0x13
def plReset : UInt8 := 0x14
def plAckPacket : UInt8 := 0x15
def plCloseConnection : UInt8 := 0x16
def plNetworkConfiguration : UInt8 := 0x17
def plSetObserverKey : UInt8 := 0x18
def plSetEncryptionKeys : UInt8 := 0x19
def plSetSignKeys : UInt8 := 0x1A
def plEnableEncryption : UInt8 := 0x1B
def plEnableSign : UInt8 := 0x1C
def plErrorPacket : UInt8 := 0x1D

def plLoadMcuInfo : UInt8 := 0x20
def plProgramMemory : UInt8 := 0x21
def plReadMemory : UInt8 := 0x22
def plMemory : UInt8 := 0x23
def plCmd : UInt8 := 0x24

def plFlashMemoryByte : UInt8 := 0x00
def plEepromMemoryByte : UInt8 := 0x01

def plUartConfiguration : UInt8 := 0x30
def plUartData : UInt8 := 0x31

def plStartFrameByte : UInt8 := 0x1B
def plFlagsFieldOffset : Nat := 1
def plTypeFieldOffset : Nat := 2
def plSizeFieldOffset : Nat := 3
def plSizeFieldSize : Nat := 2
def plPacketHeaderSize : Nat := 5

def plFlagCompressionBit : Nat := 0
def plFlagEncryptionBit : Nat := 1
def plFlagSignBit : Nat := 2

def plMaxDataLength : UInt16 := 1029

def plAckSuccess : UInt8 := 1

def plNetworkModeOffset : Nat := 0
def plNetworkModeSta : UInt8 := 0
def plNetworkModeAp : UInt8 := 1
def plNetworkPhyOffset : Nat := 1
def plNetworkChannelOffset : Nat := 2
def plNetworkSsidLenOffset : Nat := 3

-----------------------------------------------------------------------------------------
-- packets.h, config.h, programmer_config.h, wlan_config.h
-----------------------------------------------------------------------------------------

def packetSuccess : Int := 0
def packetWrongStartByte : Int := -1
def packetWrongSize : Int := -2
def packetWrongType : Int := -3

/-- Length of the `packet_data` array of a `Packet`. -/
def packetDataLength : Nat := 1024

def maxTcpConnections : Nat := 2
def msgQueueSize : Nat := 5
def msgPoolSize : Nat := 2 * msgQueueSize
def enterPgmAttempts : Nat := 10

def avrCmdSize : Nat := 4

def maxSsidLength : Nat := 32
def maxPwdLength : Nat := 64

-----------------------------------------------------------------------------------------
-- Values of the SDK headers: common.h, osi.h and socket.h
-----------------------------------------------------------------------------------------

def success : Int := 0
def failure : Int := -1
def osiOk : Int := 0
def osiOperationFailed : Int := -2

/-- `EAGAIN` of the SimpleLink sockets: no data, or no room, on a non-blocking socket. -/
def eagain : Int := -11

end BigBlackHardware
