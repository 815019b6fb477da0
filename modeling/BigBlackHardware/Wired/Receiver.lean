import BigBlackHardware.Codec.HeaderFormat

/-! The wired configurator of `wired_configurator.c`: frames that arrive over the UART, byte by
byte, through DMA transfers that its interrupt handler arms.
-/

namespace BigBlackHardware

open Library

/-- `WiredState`. -/
inductive WiredState where
  | stateRecvHeader
  | stateRecvBody
  deriving DecidableEq

/-- A DMA transfer into `packet_data`: the cell for the next byte, and how many are to come. -/
structure DmaTransfer where
  cell : Nat
  missing : Nat
  some : 0 < missing

/-- The static variables of the configurator, and its DMA channel. -/
structure Wired where
  state : WiredState
  cfgPacket : Packet
  /-- The transfer that is armed, if any. -/
  transfer : Option DmaTransfer
  /-- What a set-up for no bytes leaves armed. Transfers have 1 to 1024 items. -/
  emptySetup : Option DmaTransfer
  /-- The results of the next calls of `osi_TaskCreate`. -/
  taskResults : List Int
  /-- The packet as the runs of `updater_task` have found it. -/
  updaterRuns : List Packet

/-- The configurator with other bytes in `packet_data`. -/
def Wired.setData (wired : Wired) (data : Cells UInt8) : Wired :=
  { wired with cfgPacket := { wired.cfgPacket with packetData := data } }

/-- `wired_recv`. The number of bytes is 8 bits wide. -/
def wiredRecv (wired : Wired) (nBytes offset : UInt8) : Wired :=
  { wired with
    transfer :=
      if some : 0 < nBytes.toNat then .some ⟨offset.toNat, nBytes.toNat, some⟩
      else wired.emptySetup }

/-- `uart_irq_hdnl`, which is called when a transfer is complete. -/
def uartIrqHdnl (wired : Wired) : Wired :=
  let wired := { wired with transfer := none }
  match wired.state with
  | .stateRecvHeader =>
      let (status, header) := parseHeader wired.cfgPacket.packetData wired.cfgPacket.header
      let wired := { wired with cfgPacket := { wired.cfgPacket with header := header } }
      if status < 0 then wired
      else wiredRecv { wired with state := .stateRecvBody } header.dataSize.toUInt8 0
  | .stateRecvBody =>
      let status := wired.taskResults.headD osiOk
      let wired := { wired with taskResults := wired.taskResults.tail }
      if status < 0 then wired
      else
        let wired := { wired with updaterRuns := wired.updaterRuns ++ [wired.cfgPacket] }
        -- `StateRecvHeader` is assigned to `status`; `state` stays as it is
        wiredRecv wired plPacketHeaderSize.toUInt8 0

/-- The configurator with a byte of an armed transfer stored. -/
def Wired.stored (wired : Wired) (transfer : DmaTransfer) (byte : UInt8) : Wired :=
  wired.setData (wired.cfgPacket.packetData.store transfer.cell [byte])

/-- A byte on the UART. Without a transfer nobody fetches it, and the last byte of one raises the
interrupt.
-/
def Wired.byte (wired : Wired) (byte : UInt8) : Wired :=
  match wired.transfer with
  | none => wired
  | some transfer =>
      if more : 1 < transfer.missing then
        { wired.stored transfer byte with
          transfer := some ⟨transfer.cell + 1, transfer.missing - 1, by omega⟩ }
      else uartIrqHdnl (wired.stored transfer byte)

/-- Bytes that arrive one after the other. -/
def Wired.feed (wired : Wired) (bytes : List UInt8) : Wired := bytes.foldl Wired.byte wired

/-- The configurator as the interrupt handler finds it, each time it is called while the bytes
arrive.
-/
def interrupts : Wired → List UInt8 → List Wired
  | _, [] => []
  | wired, byte :: bytes =>
      match wired.transfer with
      | none => interrupts (wired.byte byte) bytes
      | some transfer =>
          if 1 < transfer.missing then interrupts (wired.byte byte) bytes
          else wired.stored transfer byte :: interrupts (wired.byte byte) bytes

/-- `wired_conf_start`, on memory with any content. -/
def wiredConfStart (wired : Wired) : Wired :=
  wiredRecv { wired with state := .stateRecvHeader, updaterRuns := [] }
    plPacketHeaderSize.toUInt8 0

theorem Wired.feed_cons (wired : Wired) (byte : UInt8) (bytes : List UInt8)
    : wired.feed (byte :: bytes) = (wired.byte byte).feed bytes := rfl

theorem Wired.feed_append (wired : Wired) (first second : List UInt8)
    : wired.feed (first ++ second) = (wired.feed first).feed second := List.foldl_append

/-- The bytes of an armed transfer are stored at its cell and then handled, by induction on them. -/
theorem Wired.feed_transfer (wired : Wired) (transfer : DmaTransfer)
    (armed : wired.transfer = some transfer) (bytes : List UInt8)
    (size : bytes.length = transfer.missing)
    : wired.feed bytes
      = uartIrqHdnl
          (wired.setData (wired.cfgPacket.packetData.store transfer.cell bytes)) := by
  induction bytes generalizing wired transfer with
  | nil =>
      have some := transfer.some
      rw [List.length_nil] at size
      omega
  | cons byte bytes ih =>
      rw [List.length_cons] at size
      rw [Wired.feed_cons, Wired.byte, armed]
      dsimp only
      split
      · rw [ih _ _ rfl (by dsimp only; omega), Cells.store_cons]
        rfl
      · have last : bytes = [] := List.eq_nil_of_length_eq_zero (by omega)
        rw [last]
        rfl

-----------------------------------------------------------------------------------------
-- Listening
-----------------------------------------------------------------------------------------

/-- A transfer is armed, of a header or of the body that the header states. -/
def Listening (wired : Wired) : Prop :=
  ∃ transfer,
    wired.transfer = some transfer
    ∧ transfer.missing
      = match wired.state with
        | .stateRecvHeader => plPacketHeaderSize
        | .stateRecvBody => wired.cfgPacket.header.dataSize.toNat

/-- A set-up for the low 8 bits of a size arms a transfer of that size: the size has no other bits,
or the low ones are zero and what is left armed then happens to have the size.
-/
def SetupFits (wired : Wired) (size : Nat) : Prop :=
  1 ≤ size ∧ size ≤ 255
  ∨ size % 256 = 0 ∧ ∃ transfer, wired.emptySetup = some transfer ∧ transfer.missing = size

/-- What the interrupt handler finds when it goes on listening: a header that is accepted with a
size that fits, or a body of five bytes, which is as long as the transfer it arms, and a task for
it.
-/
def Wired.Rearms (wired : Wired) : Prop :=
  match wired.state with
  | .stateRecvHeader =>
      (parseHeader wired.cfgPacket.packetData wired.cfgPacket.header).1 = packetSuccess
      ∧ SetupFits wired (headerSize wired.cfgPacket.packetData)
  | .stateRecvBody =>
      0 ≤ wired.taskResults.headD osiOk
      ∧ wired.cfgPacket.header.dataSize.toNat = plPacketHeaderSize

/-- A set-up arms a transfer of a size exactly if the size fits. -/
theorem wiredRecv_arms_iff (wired : Wired) (size : UInt16)
    : (∃ transfer,
        (wiredRecv wired size.toUInt8 0).transfer = some transfer
        ∧ transfer.missing = size.toNat)
      ↔ SetupFits wired size.toNat := by
  have narrow : size.toUInt8.toNat = size.toNat % 256 := by rw [UInt16.toNat_toUInt8]
  rw [wiredRecv, SetupFits]
  dsimp only
  by_cases low : 0 < size.toUInt8.toNat
  · rw [dif_pos low]
    constructor
    · rintro ⟨transfer, armed, same⟩
      cases armed
      dsimp only at same
      exact Or.inl (by omega)
    · rintro (fits | ⟨multiple, -⟩)
      · exact ⟨_, rfl, by dsimp only; omega⟩
      · omega
  · rw [dif_neg low]
    constructor
    · exact fun armed => Or.inr ⟨by omega, armed⟩
    · rintro (fits | ⟨-, armed⟩)
      · omega
      · exact armed

/-- The handler goes on listening exactly if it finds what it needs. -/
theorem uartIrqHdnl_listening_iff (wired : Wired)
    : Listening (uartIrqHdnl wired) ↔ wired.Rearms := by
  rw [uartIrqHdnl, Wired.Rearms]
  cases state : wired.state with
  | stateRecvHeader =>
      dsimp only
      have status := parseHeader_nonneg_iff wired.cfgPacket.packetData wired.cfgPacket.header
      by_cases accepted
          : (parseHeader wired.cfgPacket.packetData wired.cfgPacket.header).1 = packetSuccess
      · have goes := status.mpr accepted
        have size := (parseHeader_dataSize accepted).1
        rw [if_neg (by omega), and_iff_right accepted, ← size]
        exact wiredRecv_arms_iff _ _
      · have fails := mt status.mp accepted
        rw [if_pos (by omega)]
        refine iff_of_false ?_ (fun finds => accepted finds.1)
        rintro ⟨transfer, armed, -⟩
        cases armed
  | stateRecvBody =>
      dsimp only
      by_cases created : 0 ≤ wired.taskResults.headD osiOk
      · rw [if_neg (by omega), and_iff_right created]
        constructor
        · rintro ⟨transfer, armed, same⟩
          cases armed
          exact same.symm
        · exact fun five => ⟨_, rfl, five.symm⟩
      · rw [if_pos (by omega)]
        refine iff_of_false ?_ (fun finds => created finds.1)
        rintro ⟨transfer, armed, -⟩
        cases armed

/-- Whatever bytes arrive after the start: the configurator is listening after every interrupt
exactly if every interrupt finds what it needs.
-/
theorem wiredConfStart_listens_iff (wired : Wired) (bytes : List UInt8)
    : (∀ irq ∈ interrupts (wiredConfStart wired) bytes, Listening (uartIrqHdnl irq))
      ↔ ∀ irq ∈ interrupts (wiredConfStart wired) bytes, irq.Rearms :=
  forall₂_congr fun irq _ => uartIrqHdnl_listening_iff irq

/-- The configurator with zeros in its memory. -/
def blankWired : Wired where
  state := .stateRecvHeader
  cfgPacket := ⟨⟨0, 0, 0, 0, 0, 0⟩, fun _ => 0, fun _ => 0⟩
  transfer := none
  emptySetup := none
  taskResults := []
  updaterRuns := []

/-- One byte of noise before a header, and no transfer is armed after the five bytes. -/
theorem wiredConfStart_deaf
    : ¬ ∀ irq ∈ interrupts (wiredConfStart blankWired)
            [0xFF, plStartFrameByte, 0, plNetworkConfiguration, 0],
          Listening (uartIrqHdnl irq) := by
  intro listens
  have first := listens _ List.mem_cons_self
  rw [uartIrqHdnl_listening_iff] at first
  exact absurd first.1 (by decide)

end BigBlackHardware
