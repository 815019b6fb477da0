import BigBlackHardware.Transport.Framing
import BigBlackHardware.Wired.Receiver

/-! Sequences of frames over the UART: what the runs of `updater_task` see of them. -/

namespace BigBlackHardware

open Library

/-- A frame with a body. -/
structure WiredFrame extends Frame where
  some : 0 < body.length

def WiredFrame.bytes (frame : WiredFrame) : List UInt8 := frame.header ++ frame.body

/-- A run of `updater_task` has found the frame: its type and its body. -/
structure SeesFrame (found : Packet) (frame : WiredFrame) : Prop where
  type : found.header.type = frame.fields.type
  body : found.packetData.load 0 frame.body.length = frame.body

/-- The contract of the configurator when the frames arrive after its start, each run of the task
being over when the next frame begins: there is one run for each frame, which has found it, and
after each frame the next header is expected.
-/
structure FollowsProtocol (wired : Wired) (frames : List WiredFrame) : Prop where
  runs
    : List.Forall₂ SeesFrame
        ((wiredConfStart wired).feed (frames.flatMap WiredFrame.bytes)).updaterRuns frames
  ready
    : ∀ k < frames.length,
        ((wiredConfStart wired).feed ((frames.take (k + 1)).flatMap WiredFrame.bytes)).state
        = .stateRecvHeader

/-- The handler never goes back to the header. -/
theorem uartIrqHdnl_stays {wired : Wired} (body : wired.state = .stateRecvBody)
    : (uartIrqHdnl wired).state = .stateRecvBody := by
  rw [uartIrqHdnl]
  simp only [body]
  split
  · rfl
  · rfl

theorem Wired.byte_stays {wired : Wired} (body : wired.state = .stateRecvBody) (byte : UInt8)
    : (wired.byte byte).state = .stateRecvBody := by
  rw [Wired.byte]
  split
  · exact body
  · split
    · exact body
    · exact uartIrqHdnl_stays body

/-- Neither do any further bytes, by induction on them. -/
theorem Wired.feed_stays {wired : Wired} (body : wired.state = .stateRecvBody)
    (bytes : List UInt8) : (wired.feed bytes).state = .stateRecvBody := by
  induction bytes generalizing wired with
  | nil => exact body
  | cons byte bytes ih => exact ih (Wired.byte_stays body byte)

/-- After an accepted header its body is expected, with a transfer for the low 8 bits of its size.
-/
theorem Wired.feed_header (wired : Wired) (frame : Frame)
    : (wiredConfStart wired).feed frame.header
      = wiredRecv
          { wired with
            state := .stateRecvBody
            cfgPacket :=
              { wired.cfgPacket with
                header := frame.fields
                packetData := wired.cfgPacket.packetData.store 0 frame.header }
            transfer := none
            updaterRuns := [] }
          frame.fields.dataSize.toUInt8 0 := by
  have held := wired.cfgPacket.packetData.load_store frame.header
  have parsed := frame.parseHeader_eq held wired.cfgPacket.header
  have run := (wiredConfStart wired).feed_transfer ⟨0, plPacketHeaderSize, by decide⟩ rfl
    frame.header frame.headerLength
  have entered
      : uartIrqHdnl ((wiredConfStart wired).setData
          ((wiredConfStart wired).cfgPacket.packetData.store 0 frame.header))
        = let parsed := parseHeader (wired.cfgPacket.packetData.store 0 frame.header)
            wired.cfgPacket.header
          let read : Wired :=
            { wired with
              state := .stateRecvHeader
              cfgPacket :=
                { wired.cfgPacket with
                  header := parsed.2
                  packetData := wired.cfgPacket.packetData.store 0 frame.header }
              transfer := none
              updaterRuns := [] }
          if parsed.1 < 0 then read
          else wiredRecv { read with state := .stateRecvBody } parsed.2.dataSize.toUInt8 0 := rfl
  have accepted : ¬ packetSuccess < 0 := by decide
  rw [run, entered, parsed]
  exact if_neg accepted

/-- A first frame with a body of at most 255 bytes is seen by a run of the task, if it can be
created. The receiver then waits for five bytes and takes them for a body.
-/
theorem Wired.feed_first (wired : Wired) (frame : WiredFrame) (short : frame.body.length ≤ 255)
    (created : 0 ≤ wired.taskResults.headD osiOk)
    : ∃ found after,
        (wiredConfStart wired).feed frame.bytes = wiredRecv after plPacketHeaderSize.toUInt8 0
        ∧ after.updaterRuns = [found]
        ∧ SeesFrame found frame
        ∧ after.state = .stateRecvBody
        ∧ after.cfgPacket.header = frame.fields := by
  have size := frame.fields_dataSize
  have narrow : frame.fields.dataSize.toUInt8.toNat = frame.body.length := by
    rw [UInt16.toNat_toUInt8, size]
    exact Nat.mod_eq_of_lt (by omega)
  have some : 0 < frame.fields.dataSize.toUInt8.toNat := by
    rw [narrow]
    exact frame.some
  let packet : Packet :=
    { wired.cfgPacket with
      header := frame.fields
      packetData := (wired.cfgPacket.packetData.store 0 frame.header).store 0 frame.body }
  let after : Wired :=
    { wired with
      state := .stateRecvBody
      cfgPacket := packet
      transfer := none
      taskResults := wired.taskResults.tail
      updaterRuns := [packet] }
  refine ⟨packet, after, ?_, rfl, ⟨rfl, Cells.load_store _ frame.body⟩, rfl, rfl⟩
  rw [WiredFrame.bytes, Wired.feed_append, Wired.feed_header]
  rw [Wired.feed_transfer _ ⟨0, frame.fields.dataSize.toUInt8.toNat, some⟩ (dif_pos some)
    frame.body narrow.symm]
  exact if_neg (by dsimp only [wiredRecv, Wired.setData]; omega)

/-- Every five bytes that follow are handed to another run of the task with the header of the first
frame, by induction on the groups of five.
-/
theorem Wired.feed_later (wired : Wired) (groups : List (List UInt8))
    (five : ∀ group ∈ groups, group.length = plPacketHeaderSize)
    (body : wired.state = .stateRecvBody)
    (armed : wired.transfer = some ⟨0, plPacketHeaderSize, by decide⟩)
    (created : ∀ status ∈ wired.taskResults, 0 ≤ status)
    : ∃ found,
        (wired.feed groups.flatten).updaterRuns = wired.updaterRuns ++ found
        ∧ List.Forall₂
            (fun run group =>
              run.header = wired.cfgPacket.header
              ∧ run.packetData.load 0 plPacketHeaderSize = group)
            found groups := by
  induction groups generalizing wired with
  | nil => exact ⟨[], (List.append_nil _).symm, .nil⟩
  | cons group groups ih =>
      rw [List.forall_mem_cons] at five
      have goes : 0 ≤ wired.taskResults.headD osiOk := by
        cases results : wired.taskResults with
        | nil => decide
        | cons status later => exact created status (by rw [results]; exact List.mem_cons_self)
      let packet : Packet :=
        { wired.cfgPacket with packetData := wired.cfgPacket.packetData.store 0 group }
      let next : Wired :=
        { wired with
          state := .stateRecvBody
          cfgPacket := packet
          transfer := some ⟨0, plPacketHeaderSize, by decide⟩
          taskResults := wired.taskResults.tail
          updaterRuns := wired.updaterRuns ++ [packet] }
      have run : wired.feed group = next := by
        rw [wired.feed_transfer _ armed group five.1, uartIrqHdnl]
        simp only [Wired.setData, body]
        rw [if_neg (by omega)]
        rfl
      obtain ⟨found, runs, sees⟩ := ih next five.2 rfl rfl
        fun status member => created status (List.mem_of_mem_tail member)
      refine ⟨packet :: found, ?_, .cons ⟨rfl, ?_⟩ sees⟩
      · rw [List.flatten_cons, Wired.feed_append, run, runs, List.append_assoc]
        rfl
      · have held := wired.cfgPacket.packetData.load_store group
        rwa [five.1] at held

/-- The contract holds for no frames only: after the first one the next header is not expected. -/
theorem wiredConfStart_followsProtocol_iff (wired : Wired) (frames : List WiredFrame)
    : FollowsProtocol wired frames ↔ frames = [] := by
  constructor
  · intro follows
    cases frames with
    | nil => rfl
    | cons frame frames =>
        have ready := follows.ready 0 (Nat.succ_pos _)
        have first : ((frame :: frames).take (0 + 1)).flatMap WiredFrame.bytes
            = frame.header ++ frame.body := List.flatMap_singleton _ _
        have header := wired.feed_header frame.toFrame
        have body : ((wiredConfStart wired).feed frame.header).state = .stateRecvBody := by
          rw [header]
          rfl
        rw [first, Wired.feed_append, Wired.feed_stays body] at ready
        cases ready
  · rintro rfl
    exact ⟨.nil, fun k inside => by cases inside⟩

/-- A frame with a network configuration of one byte. -/
def networkFrame : WiredFrame where
  header := [plStartFrameByte, 0, plNetworkConfiguration, 0, 1]
  body := [0]
  headerLength := rfl
  accepted := by decide
  bodyLength := rfl
  small := by decide
  some := by decide

/-- After the frame the receiver is in the state for a body. -/
theorem wiredConfStart_expects_body
    : ((wiredConfStart blankWired).feed networkFrame.bytes).state = .stateRecvBody
      ∧ ¬ FollowsProtocol blankWired [networkFrame] := by
  have body
      : ((wiredConfStart blankWired).feed networkFrame.bytes).state = .stateRecvBody := by
    decide
  refine ⟨body, fun follows => ?_⟩
  have ready := follows.ready 0 Nat.one_pos
  have all : [networkFrame].flatMap WiredFrame.bytes = networkFrame.bytes := rfl
  rw [List.take_one, List.head?_cons, Option.toList_some, all, body] at ready
  cases ready

end BigBlackHardware
