import BigBlackHardware.Controller.Desk

/-! The packet handlers of `controller.c` and their dispatch. -/

namespace BigBlackHardware

open Library

/-- The device that requests act on. -/
structure Device where
  rig : Rig
  desk : Desk

abbrev DeviceM := EStateM Stop Device

def onRig {α : Type} (m : RigM α) : DeviceM α :=
  onPart Device.rig (fun rig device => { device with rig := rig }) m

def onDesk {α : Type} (m : DeskM α) : DeviceM α :=
  onPart Device.desk (fun desk device => { device with desk := desk }) m

section Lifting

variable {α : Type} {device : Device} {a : α} {e : Stop}

theorem onRig_ok {m : RigM α} {rig : Rig} (run : m device.rig = .ok a rig)
    : onRig m device = .ok a { device with rig := rig } := onPart_ok run

theorem onRig_error {m : RigM α} {rig : Rig} (run : m device.rig = .error e rig)
    : onRig m device = .error e { device with rig := rig } := onPart_error run

theorem onDesk_ok {m : DeskM α} {desk : Desk} (run : m device.desk = .ok a desk)
    : onDesk m device = .ok a { device with desk := desk } := onPart_ok run

theorem onDesk_error {m : DeskM α} {desk : Desk} (run : m device.desk = .error e desk)
    : onDesk m device = .error e { device with desk := desk } := onPart_error run

end Lifting

/-- Reading the packet object at an address. -/
def readPacket (packet : Nat) : DeviceM Packet := do return (← get).desk.packets packet

/-- Reading a packet object returns it. -/
theorem readPacket_eq (packet : Nat) (device : Device)
    : readPacket packet device = .ok (device.desk.packets packet) device := rfl

/-- `SYS_ASSERT_CRITICAL`. -/
def sysAssertCritical (status : Int) : DeviceM Unit :=
  if status < 0 then throw .restart else return ()

-----------------------------------------------------------------------------------------
-- Control packets
-----------------------------------------------------------------------------------------

/-- `process_prog_init`. The status returned was never set. -/
def processProgInit (_outQueue _packet : Nat) : DeviceM Int :=
  onRig (toI16 <$> indeterminate)

/-- `process_prog_stop`. The status returned was never set. -/
def processProgStop (_outQueue _packet : Nat) : DeviceM Int :=
  onRig (toI16 <$> indeterminate)

/-- `process_uart_init`. -/
def processUartInit (_outQueue _packet : Nat) : DeviceM Int := return 0

/-- `process_uart_stop`. -/
def processUartStop (_outQueue _packet : Nat) : DeviceM Int := return 0

/-- `process_reset`. The second test reads another byte than the first. -/
def processReset (_outQueue packet : Nat) : DeviceM Int := do
  let packet ← readPacket packet
  if packet.packetData 0 = 1 then
    onRig (sysResetMcu mcuResetOn)
    return 0
  else if packet.packetData 1 = 0 then
    onRig (sysResetMcu mcuResetOff)
    return 0
  else return -1

/-- `process_enable_encryption`. -/
def processEnableEncryption (_outQueue _packet : Nat) : DeviceM Int := return 0

/-- `process_enable_sign`. -/
def processEnableSign (_outQueue _packet : Nat) : DeviceM Int := return 0

-----------------------------------------------------------------------------------------
-- Programmer packets
-----------------------------------------------------------------------------------------

/-- The first four data bytes of a packet, as a command. -/
def commandOf (packet : Packet) : AvrCommand := Vector.ofFn (fun i => packet.packetData i)

/-- `process_cmd_packet`. The size is compared after its truncation to 8 bits. -/
def processCmdPacket (outQueue packet : Nat) : DeviceM Int := do
  let packet ← readPacket packet
  let cmdSize := packet.header.dataSize.toUInt8
  if cmdSize.toNat ≠ avrCmdSize then return -1
  else
    let (status, answer) ← onRig (programmerWriteCmd (commandOf packet))
    let _ ←
      -- the error reply is followed by the answer all the same
      if status < 0 then onDesk (sendError "Failed to load command into MCU\r\n" outQueue)
      else pure status
    onDesk (sendAvrCmd answer outQueue)

/-- `malloc` of the structure and `get_mcu_info`. -/
def loadMcuInfo (packet : Packet) : RigM (Int × McuInfoBlock) := do
  let rig ← get
  let (block, heap) := rig.heap.malloc
  let (status, info, heap) := getMcuInfo packet heap
  set { rig with heap := heap }
  return (status, ⟨block.address, info⟩)

/-- `process_load_mcu_info_packet`. -/
def processLoadMcuInfoPacket (outQueue packet : Nat) : DeviceM Int := do
  let packet ← readPacket packet
  let (status, info) ← onRig (loadMcuInfo packet)
  if status < 0 then return status
  else
    onRig (programmerSetMcuInfo info)
    let status ← onRig (enterPgmLoop enterPgmAttempts status)
    let status ←
      if status < 0 then
        -- the status acknowledged below is that of this reply
        let status ← onDesk (sendError "Failed to enter PGM mode\r\n" outQueue)
        sysAssertCritical status
        pure status
      else pure status
    let status ← onDesk (sendAck status outQueue)
    sysAssertCritical status
    return status

/-- `get_prog_mem_data` on the programmer's heap. -/
def loadProgMemData (packet : Packet) : RigM (Int × AvrProgMemData) := do
  let rig ← get
  let (status, memData, heap) := getProgMemData packet rig.heap
  set { rig with heap := heap }
  return (status, memData)

/-- `process_program_memory_packet`. -/
def processProgramMemoryPacket (outQueue packet : Nat) : DeviceM Int := do
  let packet ← readPacket packet
  let (status, memData) ← onRig (loadProgMemData packet)
  if status < 0 then return status
  else
    let status ← onRig (programmerProgramMemory memData)
    let _ ←
      if status < 0 then
        let _ ← onDesk (sendError "Failed to program memory\r\n" outQueue)
        -- the status is still that of the failed programming, so this restarts the device
        sysAssertCritical status
      else pure ()
    let status ← onDesk (sendAck status outQueue)
    sysAssertCritical status
    return status

/-- `programmer_read_memory` into the data of the packet object at an address. -/
def readMemoryInto (memData : AvrReadMemData) (packet : Nat) : DeviceM Int := do
  let object ← readPacket packet
  let (status, data) ← onRig (programmerReadMemory memData object.packetData)
  onDesk (modify fun desk => desk.setPacket packet { object with packetData := data })
  return status

/-- `process_read_memory_packet`. The packet handed to `send_packet` is the request. -/
def processReadMemoryPacket (outQueue packet : Nat) : DeviceM Int := do
  let request ← readPacket packet
  match getReadMemData request with
  | .error status => return status
  | .ok memData =>
      let (status, memoryPacket) ← onDesk (getPacketFromPool 0)
      if status < 0 then return status
      else
        let status ← readMemoryInto memData memoryPacket
        let status ←
          if status < 0 then onDesk (sendError "Failed to read memory\r\n" outQueue)
          else pure status
        if status < 0 then return status
        -- `packet`, not `memoryPacket`, whose pointer is lost here
        else onDesk (sendPacket packet .memoryPacket memData.bytesToRead.toUInt16 outQueue)

-----------------------------------------------------------------------------------------
-- Dispatch
-----------------------------------------------------------------------------------------

/-- `packet_handlers`; entries that the initializer leaves out are `NULL` like those it sets to
`NULL`.
-/
def packetHandlers : PacketType → Option (Nat → Nat → DeviceM Int)
  | .programmerInitPacket => some processProgInit
  | .programmerStopPacket => some processProgStop
  | .uartInitPacket => some processUartInit
  | .uartStopPacket => some processUartStop
  | .resetPacket => some processReset
  | .closeConnectionPacket => none
  | .enableEncryptionPacket => some processEnableEncryption
  | .enableSignPacket => some processEnableSign
  | .errorPacket => none
  | .loadMcuInfoPacket => some processLoadMcuInfoPacket
  | .programMemoryPacket => some processProgramMemoryPacket
  | .readMemoryPacket => some processReadMemoryPacket
  | .memoryPacket => none
  | .cmdPacket => some processCmdPacket
  | .ackPacket | .networkConfigurationPacket | .encryptionConfigPacket | .signConfigPacket
  | .observerKeyPacket | .uartConfigurationPacket | .uartDataPacket => none

/-- The table entry that a byte used as a packet type selects, if there is a handler. -/
def handlerAt (type : UInt8) : Option (Nat → Nat → DeviceM Int) :=
  (PacketType.all.find? (fun known => known.val = type)).bind packetHandlers

/-- `process_packet`. -/
def processPacket (outQueue packet : Nat) : DeviceM Int := do
  let object ← readPacket packet
  match handlerAt object.header.type with
  | some handler => handler outQueue packet
  | none => throw .noHandler

/-- A packet type used as an integer selects its own entry. -/
theorem handlerAt_val (type : PacketType) : handlerAt type.val = packetHandlers type := by
  cases type <;> rfl

/-- A packet of a type with a handler is handled by it. -/
theorem processPacket_eq {outQueue packet : Nat} {device : Device} {type : PacketType}
    {handler : Nat → Nat → DeviceM Int}
    (kind : (device.desk.packets packet).header.type = type.val)
    (entry : packetHandlers type = some handler)
    : processPacket outQueue packet device = handler outQueue packet device := by
  rw [processPacket, bind_ok (readPacket_eq packet device)]
  simp only [kind, handlerAt_val, entry]

end BigBlackHardware
