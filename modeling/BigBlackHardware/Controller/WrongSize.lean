import BigBlackHardware.Controller.Refusals

/-! Requests whose size is not one that their handler can use. -/

namespace BigBlackHardware

open Library

/-- The header is that of a CMD packet that is no command, of a ReadMemory packet that is no read
request, or of a ProgramMemory packet without its fixed fields.
-/
def WrongSize (header : PacketHeader) : Prop :=
  header.type = PacketType.cmdPacket.val ∧ header.dataSize.toNat ≠ avrCmdSize
  ∨ header.type = PacketType.readMemoryPacket.val
    ∧ header.dataSize.toNat ≠ readMemFixedSize.toNat
  ∨ header.type = PacketType.programMemoryPacket.val
    ∧ header.dataSize.toNat < progMemFixedSize.toNat

/-- The packet is refused: its handler returns a negative status and has started no transfer. -/
def RefusedUntouched (outQueue packet : Nat) (device : Device) : Prop :=
  ∃ status after,
    processPacket outQueue packet device = .ok status after
    ∧ status < 0
    ∧ sentCommands after.rig.log = sentCommands device.rig.log

/-- A command was sent by a CMD request that is not refused. -/
theorem transferred_sends (rig : Rig) (cmd : AvrCommand)
    : sentCommands (rig.transferred cmd).log = sentCommands rig.log ++ [cmd] := by
  simp [sentCommands, Rig.transferred, Rig.note]

section Sizes

variable {outQueue packet : Nat} {device : Device}

/-- A CMD packet is refused exactly if its size modulo 256 is not that of a command. -/
theorem cmd_refused_iff (kind : (device.desk.packets packet).header.type = PacketType.cmdPacket.val)
    : RefusedUntouched outQueue packet device
      ↔ (device.desk.packets packet).header.dataSize.toNat % 256 ≠ avrCmdSize := by
  have run : processPacket outQueue packet device = processCmdPacket outQueue packet device :=
    processPacket_eq kind rfl
  have narrow : (device.desk.packets packet).header.dataSize.toUInt8.toNat
      = (device.desk.packets packet).header.dataSize.toNat % 256 := by
    rw [UInt16.toNat_toUInt8]
  rw [RefusedUntouched, run, ← narrow]
  constructor
  · rintro ⟨status, after, returns, -, untouched⟩ size
    have sent : (final (processCmdPacket outQueue packet device)).rig
        = device.rig.transferred (commandOf (device.desk.packets packet)) :=
      processCmdPacket_transfers size
    rw [returns] at sent
    have log := congrArg (fun rig => sentCommands rig.log) sent
    dsimp only [final] at log
    rw [untouched, transferred_sends] at log
    simp at log
  · intro size
    exact ⟨-1, device, processCmdPacket_refuses size, by decide, rfl⟩

/-- A ReadMemory packet of a wrong size is refused. -/
theorem readMemory_refused
    (kind : (device.desk.packets packet).header.type = PacketType.readMemoryPacket.val)
    (wrong : (device.desk.packets packet).header.dataSize.toNat ≠ readMemFixedSize.toNat)
    : RefusedUntouched outQueue packet device := by
  have undecoded : getReadMemData (device.desk.packets packet) = .error (-1) := by
    rw [getReadMemData, if_pos (mt (congrArg UInt16.toNat) wrong)]
  have run : processPacket outQueue packet device
      = processReadMemoryPacket outQueue packet device :=
    processPacket_eq kind rfl
  exact ⟨-1, device, run.trans (processReadMemoryPacket_undecoded undecoded), by decide, rfl⟩

/-- A ProgramMemory packet of whatever size is never refused. -/
theorem not_programMemory_refused
    (kind : (device.desk.packets packet).header.type = PacketType.programMemoryPacket.val)
    : ¬ RefusedUntouched outQueue packet device := by
  have run : processPacket outQueue packet device
      = processProgramMemoryPacket outQueue packet device := processPacket_eq kind rfl
  rintro ⟨status, after, returns, negative, -⟩
  rw [run] at returns
  have nonnegative := processProgramMemoryPacket_nonneg returns
  omega

end Sizes

/-- Of the packets of a wrong size exactly these are refused: the ReadMemory packets, and the CMD
packets whose size modulo 256 is not that of a command either.
-/
theorem wrongSize_refused_iff (outQueue packet : Nat) (device : Device)
    (wrong : WrongSize (device.desk.packets packet).header)
    : RefusedUntouched outQueue packet device
      ↔ (device.desk.packets packet).header.type = PacketType.readMemoryPacket.val
        ∨ (device.desk.packets packet).header.type = PacketType.cmdPacket.val
          ∧ (device.desk.packets packet).header.dataSize.toNat % 256 ≠ avrCmdSize := by
  rcases wrong with ⟨kind, -⟩ | ⟨kind, size⟩ | ⟨kind, -⟩
  · rw [cmd_refused_iff kind, kind]
    exact ⟨fun size => Or.inr ⟨rfl, size⟩, fun either => (either.resolve_left (by decide)).2⟩
  · exact iff_of_true (readMemory_refused kind size) (Or.inl kind)
  · refine iff_of_false (not_programMemory_refused kind) ?_
    rw [kind]
    rintro (read | ⟨cmd, -⟩)
    · exact absurd read (by decide)
    · exact absurd cmd (by decide)

/-- A device after a reset that finds a CMD packet of `dataSize` zeros. -/
def cmdDevice (dataSize : UInt16) : Device where
  rig := .boot (fun _ cmd => cmd) (.boot fun _ _ => 0) ⟨fun _ => 0, 0⟩
  desk :=
    .boot
      (fun _ =>
        { header := ⟨PacketType.cmdPacket.val, 1, dataSize, 0, 0, 0⟩
          rawHeader := fun _ => 0
          packetData := fun _ => 0 })
      (fun _ => 0) ⟨fun _ => 0, 0⟩

/-- Five bytes are no command, and are refused. -/
theorem wrongSize_refused_five : RefusedUntouched 0 7 (cmdDevice 5) :=
  (wrongSize_refused_iff 0 7 (cmdDevice 5) (Or.inl ⟨rfl, by decide⟩)).mpr
    (Or.inr ⟨rfl, by decide⟩)

/-- 260 bytes are no command either, but the first four of them are sent. -/
theorem wrongSize_transfers
    : WrongSize ((cmdDevice 260).desk.packets 7).header
      ∧ ¬ RefusedUntouched 0 7 (cmdDevice 260) := by
  refine ⟨Or.inl ⟨rfl, by decide⟩, fun refused => ?_⟩
  exact (cmd_refused_iff rfl).mp refused (by decide)

end BigBlackHardware
