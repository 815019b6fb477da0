import BigBlackHardware.Controller.Answers
import BigBlackHardware.Tasks.CallFrames
import BigBlackHardware.Transport.Framing

/-! The frames of a client on their way to `process_packet`, with the listening and the handling
task taking turns in any order.
-/

namespace BigBlackHardware

open Library

/-- A frame whose header and body each come with one count. -/
structure WholeFrame where
  frame : Frame
  headerResults : List Int
  bodyResults : List Int
  headerDelivered : Delivers plPacketHeaderSize headerResults
  bodyDelivered : Delivers frame.body.length bodyResults
  headerWhole : (recvCounts plPacketHeaderSize headerResults).length ≤ 1
  bodyWhole : (recvCounts frame.body.length bodyResults).length ≤ 1

/-- The call of `recv_packet` that gets the frame. -/
def WholeFrame.call (whole : WholeFrame) (before : Packet) : FrameCall where
  before := before
  frame := whole.frame
  headerResults := whole.headerResults
  bodyResults := whole.bodyResults
  headerDelivered := whole.headerDelivered
  bodyDelivered := whole.bodyDelivered

/-- The bytes of the frame on the stream. -/
def WholeFrame.bytes (whole : WholeFrame) : List UInt8 := whole.frame.header ++ whole.frame.body

/-- The results of `recv` that bring the frame. -/
def WholeFrame.results (whole : WholeFrame) : List Int := whole.headerResults ++ whole.bodyResults

/-- The next that comes on the socket are these frames. -/
structure Brings (sock : Socket) (wholes : List WholeFrame) : Prop where
  bytes : wholes.flatMap WholeFrame.bytes <+: sock.inbox
  results : wholes.flatMap WholeFrame.results <+: sock.recvResults

/-- The packet object holds the frame. -/
structure Packet.Holds (object : Packet) (frame : Frame) : Prop where
  fields : object.header = frame.fields
  rawHeader : object.rawHeader.load 0 frame.header.length = frame.header
  body : object.packetData.load 0 frame.body.length = frame.body

/-- The frames that are for `process_packet`. -/
def forHandlers (wholes : List WholeFrame) : List Frame :=
  (wholes.map WholeFrame.frame).filter fun frame =>
    frame.fields.type ≠ PacketType.closeConnectionPacket.val

/-- `recv_packet` gets the first of the frames, whatever the packet object held before. -/
theorem Brings.received {sock : Socket} {whole : WholeFrame} {wholes : List WholeFrame}
    (brings : Brings sock (whole :: wholes)) (before : Packet)
    : (∃ status, (recvPacket sock before).status = some status)
      ∧ (recvPacket sock before).packet.Holds whole.frame
      ∧ Brings (recvPacket sock before).socket wholes := by
  obtain ⟨rest, bytes⟩ := brings.bytes
  obtain ⟨later, results⟩ := brings.results
  rw [List.flatMap_cons, List.append_assoc] at bytes results
  have intact := (whole.call before).undisturbed_of_whole whole.headerWhole whole.bodyWhole
  obtain ⟨returned, behind⟩ := (whole.call before).returns intact sock bytes.symm results.symm
  obtain ⟨status, ends, -⟩ := returned.status
  refine ⟨⟨status, ends⟩, ⟨returned.fields, returned.rawHeader, returned.body⟩, ?_⟩
  change Brings (recvPacket sock (whole.call before).before).socket wholes
  rw [behind]
  exact ⟨⟨rest, rfl⟩, ⟨later, rfl⟩⟩

-----------------------------------------------------------------------------------------
-- The stream of a connection
-----------------------------------------------------------------------------------------

/-- The frames are the next that come on the handle, which no `accept` returns again. -/
structure Station.Feeds (hndl : Int) (wholes : List WholeFrame) (station : Station) : Prop where
  brings : Brings (station.sockets hndl) wholes
  unopened : ∀ accept ∈ station.accepts, accept.conn ≠ hndl

/-- What came on the handle afterwards comes as it did before. -/
def SameStream (hndl : Int) (before after : Station) : Prop :=
  ∀ wholes, before.Feeds hndl wholes → after.Feeds hndl wholes

instance {hndl : Int} : Std.Refl (SameStream hndl) := ⟨fun _ _ feeds => feeds⟩

instance {hndl : Int} : IsTrans Station (SameStream hndl) :=
  ⟨fun _ _ _ first second wholes feeds => second wholes (first wholes feeds)⟩

section Stream

variable {hndl : Int}

/-- What leaves the streams and the next accepts alone. -/
theorem sameStream_of_eq {before after : Station}
    (inbox : (after.sockets hndl).inbox = (before.sockets hndl).inbox)
    (results : (after.sockets hndl).recvResults = (before.sockets hndl).recvResults)
    (accepts : after.accepts = before.accepts) : SameStream hndl before after := by
  intro wholes feeds
  refine ⟨⟨?_, ?_⟩, ?_⟩
  · rw [inbox]
    exact feeds.brings.bytes
  · rw [results]
    exact feeds.brings.results
  · rw [accepts]
    exact feeds.unopened

/-- The listening task opens other handles. -/
theorem listeningStep_sameStream (station : Station)
    : SameStream hndl station (listeningStep station) :=
  listeningStep_framed
    { accepted := fun station accept later accepts => by
        have without {wholes : List WholeFrame} (feeds : station.Feeds hndl wholes)
            : accept.conn ≠ hndl ∧ ∀ other ∈ later, other.conn ≠ hndl := by
          have unopened := feeds.unopened
          rw [accepts] at unopened
          exact List.forall_mem_cons.mp unopened
        refine ⟨fun wholes feeds => ⟨feeds.brings, (without feeds).2⟩, fun wholes feeds => ?_⟩
        refine ⟨?_, (without feeds).2⟩
        change Brings (if hndl = accept.conn then _ else station.sockets hndl) wholes
        rw [if_neg (Ne.symm (without feeds).1)]
        exact feeds.brings
      moved := fun _ _ => sameStream_of_eq rfl rfl rfl
      got := fun station => by
        rw [getConnection]
        split <;> exact sameStream_of_eq rfl rfl rfl
      junk := fun _ => sameStream_of_eq rfl rfl rfl
      filled := fun _ _ _ _ => sameStream_of_eq rfl rfl rfl
      enqueued := fun _ _ => sameStream_of_eq rfl rfl rfl }
    station

/-- A store to a socket that leaves what is to come. -/
theorem setSocket_sameStream (station : Station) (other : Int) {sock : Socket}
    (inbox : sock.inbox = (station.sockets other).inbox)
    (results : sock.recvResults = (station.sockets other).recvResults)
    : SameStream hndl station (station.setSocket other sock) := by
  by_cases same : hndl = other
  · subst same
    exact sameStream_of_eq ((congrArg Socket.inbox (if_pos rfl)).trans inbox)
      ((congrArg Socket.recvResults (if_pos rfl)).trans results) rfl
  · exact sameStream_of_eq (congrArg Socket.inbox (if_neg same))
      (congrArg Socket.recvResults (if_neg same)) rfl

/-- A send leaves what is to come. -/
theorem sendNbytes_stream (sock : Socket) (buf : Cells UInt8) (n : UInt16)
    : (sendNbytes sock buf n).socket.inbox = sock.inbox
      ∧ (sendNbytes sock buf n).socket.recvResults = sock.recvResults := by
  rw [sendNbytes, sendNbytesLoop_eq]
  cases sendAnswer sock.sendResults with
  | none => exact ⟨rfl, rfl⟩
  | some answer =>
      dsimp only
      split <;> exact ⟨rfl, rfl⟩

theorem sendPacket_stream (sock : Socket) (packet : Packet)
    : (PacketHandler.sendPacket sock packet).socket.inbox = sock.inbox
      ∧ (PacketHandler.sendPacket sock packet).socket.recvResults = sock.recvResults := by
  have header := sendNbytes_stream sock packet.rawHeader plPacketHeaderSize.toUInt16
  rw [PacketHandler.sendPacket]
  split
  · exact header
  · split
    · exact header
    · have body := sendNbytes_stream
        (sendNbytes sock packet.rawHeader plPacketHeaderSize.toUInt16).socket packet.packetData
        packet.header.dataSize
      have both := And.intro (body.1.trans header.1) (body.2.trans header.2)
      dsimp only
      split
      · exact both
      · split <;> exact both

theorem sameStream_frame : CallFrame (SameStream hndl) where
  listened := listened_moves listeningStep_sameStream fun _ _ => sameStream_of_eq rfl rfl rfl
  closed station other := setSocket_sameStream station other rfl rfl
  sent station other :=
    have stream := sendPacket_stream (station.sockets other) station.object
    setSocket_sameStream station other stream.1 stream.2
  setConn _ _ _ _ := sameStream_of_eq rfl rfl rfl
  released _ _ := sameStream_of_eq rfl rfl rfl
  dequeued _ := sameStream_of_eq rfl rfl rfl
  entered _ _ _ := sameStream_of_eq rfl rfl rfl
  packetGot _ := sameStream_of_eq rfl rfl rfl
  packetReleased _ _ := sameStream_of_eq rfl rfl rfl
  replyRead _ _ := sameStream_of_eq rfl rfl rfl
  held _ _ _ := sameStream_of_eq rfl rfl rfl
  noted _ _ := sameStream_of_eq rfl rfl rfl

/-- `process_packet` leaves the stream, and so does a receive on another handle. -/
theorem handlingStep_sameStream (answer : Answer) {point : HandlePoint}
    (elsewhere : ∀ serving, point = .receiving serving → serving.hndl ≠ hndl)
    : Moves (SameStream hndl) (handlingStep answer point) := by
  cases point with
  | processing serving =>
      have run {α : Type} (m : DeviceM α) : Moves (SameStream hndl) (onDevice m) :=
        Moves.onPart (S := fun _ _ => True) (fun _ => trivial) fun _ _ _ =>
          sameStream_of_eq rfl rfl rfl
      refine .bind (fun station => ?_) fun _ => .pure _
      have noted (event : TaskEvent) : SameStream hndl station (station.note event) :=
        sameStream_of_eq rfl rfl rfl
      exact IsTrans.trans _ _ _ (noted _) (run _ _)
  | receiving serving =>
      have other : hndl ≠ serving.hndl := Ne.symm (elsewhere serving rfl)
      refine receivingStep_framed sameStream_frame answer serving fun station => ?_
      exact sameStream_of_eq (congrArg Socket.inbox (if_neg other))
        (congrArg Socket.recvResults (if_neg other)) rfl
  | _ => exact handlingStep_framed sameStream_frame answer trivial

/-- The listening task's turn leaves the stream. -/
theorem listeningCall_sameStream (refused : Bool) (station : Station)
    : SameStream hndl station (listeningCall refused station) :=
  listeningCall_moves listeningStep_sameStream (fun _ => sameStream_of_eq rfl rfl rfl) refused
    station

end Stream

-----------------------------------------------------------------------------------------
-- The frames that are owed
-----------------------------------------------------------------------------------------

/-- The packet object that came from the handle and is about to be handed over. -/
def Tasks.pending (hndl : Int) (tasks : Tasks) : Option Packet :=
  match tasks.handling with
  | .processing serving => if serving.hndl = hndl then some tasks.station.object else none
  | _ => none

/-- What the turn hands over to `process_packet` from the handle. -/
def Tasks.handedFrom (hndl : Int) (tasks : Tasks) : Turn → Option Packet
  | .listening _ => none
  | .handling _ => tasks.pending hndl

/-- These frames are still to be handed over, the one in the packet object first. -/
def Tasks.Owes (hndl : Int) (tasks : Tasks) (frames : List Frame) : Prop :=
  frames = []
  ∨ ∃ wholes,
      tasks.station.Feeds hndl wholes
      ∧ match tasks.pending hndl with
        | none => frames = forHandlers wholes
        | some object =>
            ∃ first, object.Holds first ∧ frames = first :: forHandlers wholes

section Owing

variable {hndl : Int} {tasks : Tasks} {wholes : List WholeFrame}

/-- No packet from the handle is about to be handed over. -/
def HandlePoint.Elsewhere (hndl : Int) (point : HandlePoint) : Prop :=
  ∀ serving, point = .processing serving → serving.hndl ≠ hndl

theorem Tasks.pending_elsewhere (elsewhere : tasks.handling.Elsewhere hndl)
    : tasks.pending hndl = none := by
  rw [Tasks.pending]
  split
  · rename_i serving point
    exact if_neg (elsewhere serving point)
  · rfl

theorem Tasks.pending_processing {serving : Serving} (point : tasks.handling = .processing serving)
    (own : serving.hndl = hndl) : tasks.pending hndl = some tasks.station.object := by
  rw [Tasks.pending, point]
  exact if_pos own

/-- The frames of the stream are owed while no packet is about to be handed over. -/
theorem Tasks.owes_elsewhere (feeds : tasks.station.Feeds hndl wholes)
    (elsewhere : tasks.handling.Elsewhere hndl) : tasks.Owes hndl (forHandlers wholes) := by
  refine Or.inr ⟨wholes, feeds, ?_⟩
  rw [Tasks.pending_elsewhere elsewhere]

/-- The listening task's turn leaves the object of the handling task. -/
theorem listeningCall_object (refused : Bool) (station : Station)
    : (listeningCall refused station).object = station.object := by
  have held (station : Station) : (listeningStep station).packet = station.packet := by
    rw [listeningStep]
    cases station.listening with
    | accepting =>
        cases station.accepts with
        | nil => rfl
        | cons accept accepts => dsimp only; split <;> rfl
    | fetching conn =>
        have kept : (getConnection station).2.packet = station.packet := by
          rw [getConnection]
          split <;> rfl
        cases got : getConnection station with
        | mk info after =>
            rw [got] at kept
            cases info <;> exact kept
    | filling conn info => rfl
    | queueing info => rfl
  refine listeningCall_moves (S := fun before after => after.object = before.object)
    (fun station => ?_) (fun _ => rfl) refused station
  rw [Station.object, held, (listeningStep_unlistened station).device]
  rfl

/-- The listening task's turn leaves what is owed. -/
theorem Tasks.listening_owes {frames : List Frame} (owes : tasks.Owes hndl frames) (refused : Bool)
    : (tasks.step (.listening refused)).Owes hndl frames := by
  rcases owes with rfl | ⟨wholes, feeds, owed⟩
  · exact Or.inl rfl
  · refine Or.inr ⟨wholes, listeningCall_sameStream refused tasks.station wholes feeds, ?_⟩
    have same : (tasks.step (.listening refused)).pending hndl = tasks.pending hndl := by
      rw [Tasks.pending, Tasks.step]
      dsimp only
      rw [listeningCall_object]
      rfl
    rw [same]
    exact owed

/-- A call that gets nothing from the handle leaves the stream, and the next call hands nothing over
from it.
-/
theorem Tasks.handling_owes {answer : Answer} (feeds : tasks.station.Feeds hndl wholes)
    (elsewhere : ∀ serving, tasks.handling = .receiving serving → serving.hndl ≠ hndl)
    (goes
      : ∀ after,
          handlingStep answer tasks.handling tasks.station = .error .waiting after →
          tasks.handling.Elsewhere hndl)
    : (tasks.step (.handling answer)).Owes hndl (forHandlers wholes) := by
  have moved := handlingStep_sameStream answer elsewhere tasks.station wholes feeds
  have leads := handlingStep_leads answer tasks.handling tasks.station trivial
  rw [Tasks.step]
  cases run : handlingStep answer tasks.handling tasks.station with
  | ok next after =>
      rw [run] at moved leads
      refine Tasks.owes_elsewhere moved fun serving same => elsewhere serving ?_
      dsimp only at leads same
      rw [same] at leads
      exact leads.processing
  | error e after =>
      rw [run] at moved
      cases e with
      | waiting => exact Tasks.owes_elsewhere feeds (goes after run)
      | restart | nullMcuInfo | noHandler =>
          exact Tasks.owes_elsewhere moved fun _ same => by cases same

/-- A receive on the handle gets the first frame of the stream, which is then about to be handed
over or asks to close the connection.
-/
theorem Tasks.receiving_owes {serving : Serving} (point : tasks.handling = .receiving serving)
    (own : serving.hndl = hndl) {whole : WholeFrame}
    (feeds : tasks.station.Feeds hndl (whole :: wholes)) (answer : Answer)
    : (tasks.step (.handling answer)).Owes hndl (forHandlers (whole :: wholes)) := by
  have before := sameStream_frame.listened tasks.station _ feeds
  let station := tasks.station.listened
  obtain ⟨⟨status, ends⟩, holds, brings⟩ := before.brings.received station.object
  subst own
  let after := station.afterReceive serving.hndl
  have receives : receiveInto serving.hndl tasks.station = .ok status after := by
    rw [receiveInto_eq, ends]
    rfl
  have rest : after.Feeds serving.hndl wholes := by
    refine ⟨?_, before.unopened⟩
    change Brings (if serving.hndl = serving.hndl then _ else _) wholes
    rw [if_pos rfl]
    exact brings
  have object : after.object.Holds whole.frame := by
    change Packet.Holds (if station.packet = station.packet then _ else _) whole.frame
    rw [if_pos rfl]
    exact holds
  by_cases closes : whole.frame.fields.type = PacketType.closeConnectionPacket.val
  · have goes
        : handlingStep answer tasks.handling tasks.station
          = .ok (.closing serving (after.conns serving.info).hndl, .other)
              ((after.note (.closing after.packet)).setEntry serving.info none) := by
      rw [point]
      refine (bind_ok receives).trans ((bind_get _ after).trans ?_)
      rw [object.fields, if_pos closes]
      rfl
    have left : forHandlers (whole :: wholes) = forHandlers wholes := by
      simp [forHandlers, closes]
    have noted
        : SameStream serving.hndl after
            ((after.note (.closing after.packet)).setEntry serving.info none) :=
      sameStream_of_eq rfl rfl rfl
    rw [Tasks.step, goes, left]
    exact Tasks.owes_elsewhere (noted wholes rest) fun _ same => by cases same
  · have goes
        : handlingStep answer tasks.handling tasks.station
          = .ok (.processing serving, .other) after := by
      rw [point]
      refine (bind_ok receives).trans ((bind_get _ after).trans ?_)
      rw [object.fields, if_neg closes]
      rfl
    have first : forHandlers (whole :: wholes) = whole.frame :: forHandlers wholes := by
      simp [forHandlers, closes]
    rw [Tasks.step, goes]
    refine Or.inr ⟨wholes, rest, ?_⟩
    rw [Tasks.pending_processing rfl rfl]
    exact ⟨whole.frame, object, first⟩

theorem onDevice_answers {α : Type} {m : DeviceM α} (answers : Answers m)
    : Answers (onDevice m) := by
  intro station _
  have run := answers station.device trivial
  cases result : m station.device with
  | ok a device => rw [onDevice, onPart_ok result]; trivial
  | error e device =>
      rw [result] at run
      rw [onDevice, onPart_error result]
      exact run

/-- The call of `process_packet` does not wait. -/
theorem processing_answers (answer : Answer) (serving : Serving)
    : Answers (handlingStep answer (.processing serving)) := by
  have handed : Answers (handOver serving.info) := by
    intro station _
    rw [handOver_eq]
    exact onDevice_answers (processPacket_answers _ _) _ trivial
  exact .bind handed fun _ => .pure fun _ _ => trivial

/-- A turn hands over nothing and the same frames are owed, or it hands over the first of them, by
the point of the task.
-/
theorem Tasks.step_settles (turn : Turn) {first : Frame} {rest : List Frame}
    (owes : tasks.Owes hndl (first :: rest))
    : Settles (Tasks.Owes hndl) (fun frame (object : Packet) => object.Holds frame) first rest
        (tasks.step turn) (tasks.handedFrom hndl turn) := by
  cases turn with
  | listening refused => exact Tasks.listening_owes owes refused
  | handling answer =>
      obtain ⟨wholes, feeds, owed⟩ := owes.resolve_left (List.cons_ne_nil _ _)
      rw [Tasks.handedFrom]
      have hands {serving : Serving} (point : tasks.handling = .processing serving)
          : (tasks.step (.handling answer)).Owes hndl (forHandlers wholes) := by
        refine Tasks.handling_owes feeds (fun _ same => ?_) fun after waits => ?_
        · rw [point] at same
          cases same
        · have answers := processing_answers answer serving tasks.station trivial
          rw [point] at waits
          rw [waits] at answers
          exact absurd rfl answers
      cases pending : tasks.pending hndl with
      | some object =>
          rw [pending] at owed
          obtain ⟨held, holds, same⟩ := owed
          cases same
          refine ⟨holds, ?_⟩
          rw [Tasks.pending] at pending
          split at pending
          · rename_i serving point
            exact hands point
          · cases pending
      | none =>
          rw [pending] at owed
          dsimp only at owed
          rw [Settles, owed]
          cases point : tasks.handling with
          | processing serving => exact hands point
          | receiving serving =>
              by_cases own : serving.hndl = hndl
              · cases wholes with
                | nil => cases owed
                | cons whole wholes => exact Tasks.receiving_owes point own feeds answer
              · refine Tasks.handling_owes feeds (fun other same => ?_) fun _ _ _ same => ?_
                · rw [point] at same
                  cases same
                  exact own
                · rw [point] at same
                  cases same
          | _ =>
              refine Tasks.handling_owes feeds (fun _ same => ?_) fun _ _ _ same => ?_
              · rw [point] at same
                cases same
              · rw [point] at same
                cases same

end Owing

/-- Wherever the tasks are but at the hand-over of a packet that came on the handle before, in
whatever order they take their turns and whatever the handlers do: while whole frames come on a
handle that no `accept` returns again, the packets that are handed over from it are the frames one
by one and in order, those to close a connection left out.
-/
theorem tasks_handFrames {tasks : Tasks} {hndl : Int} {wholes : List WholeFrame}
    (feeds : tasks.station.Feeds hndl wholes) (elsewhere : tasks.handling.Elsewhere hndl)
    (turns : List Turn)
    : ∀ pair ∈ (forHandlers wholes).zip (outputs Tasks.step (Tasks.handedFrom hndl) turns tasks),
        pair.2.Holds pair.1 :=
  outputs_paid (Tasks.Owes hndl) (fun frame (object : Packet) => object.Holds frame)
    (fun _ turn _ _ owes => Tasks.step_settles turn owes) turns
    (Tasks.owes_elsewhere feeds elsewhere)

theorem delivers_whole {length : Nat} (positive : 0 < length) : Delivers length [(length : Int)] :=
  .count positive positive (by rw [Nat.sub_self]; exact .done)

theorem recvCounts_whole {length : Nat} (positive : 0 < length)
    : (recvCounts length [(length : Int)]).length ≤ 1 := by
  simp [recvCounts, Nat.ne_of_gt positive, positive]

/-- A frame in two pieces, the header and the body. -/
def WholeFrame.ofFrame (frame : Frame) (some : 0 < frame.body.length) : WholeFrame where
  frame := frame
  headerResults := [(plPacketHeaderSize : Int)]
  bodyResults := [(frame.body.length : Int)]
  headerDelivered := delivers_whole (Nat.succ_pos 4)
  bodyDelivered := delivers_whole some
  headerWhole := recvCounts_whole (Nat.succ_pos 4)
  bodyWhole := recvCounts_whole some

theorem cmdFrame_body : 0 < cmdFrame.body.length := by decide

/-- The CMD frame of the repository's test client, whole. -/
def wholeCmd : WholeFrame := .ofFrame cmdFrame cmdFrame_body

/-- A client that sends it twice. -/
def cmdClient : Socket :=
  ⟨wholeCmd.bytes ++ wholeCmd.bytes, [5, 4, 5, 4], [], [5, 4, 5, 4], []⟩

/-- The tasks when the client has connected. -/
def cmdConnected : Tasks :=
  afterTurns Tasks.step (List.replicate 4 (.listening false)) (.start (oneClient cmdClient))

/-- The packets that are handed over when the handling task goes on. -/
def cmdHanded : List Packet :=
  outputs Tasks.step (Tasks.handedFrom 1)
    (List.replicate 21 (.handling ⟨⟨1, fun _ => true⟩, false⟩)) cmdConnected

theorem cmdHanded_length : cmdHanded.length = 2 := by decide +kernel

theorem cmdHanded_second : 1 < cmdHanded.length := by
  rw [cmdHanded_length]
  decide

/-- The second one is the second frame. -/
theorem tasks_handFrames_cmd : (cmdHanded.get ⟨1, cmdHanded_second⟩).Holds cmdFrame := by
  have feeds : cmdConnected.station.Feeds 1 [wholeCmd, wholeCmd] :=
    ⟨⟨⟨[], rfl⟩, ⟨[], rfl⟩⟩, fun accept member => by cases member⟩
  have paid := tasks_handFrames feeds (fun _ => nofun)
    (List.replicate 21 (.handling ⟨⟨1, fun _ => true⟩, false⟩))
  have pair
      : (cmdFrame, cmdHanded.get ⟨1, cmdHanded_second⟩) ∈ [cmdFrame, cmdFrame].zip cmdHanded := by
    refine List.mem_iff_getElem.mpr ⟨1, by simp [cmdHanded_length], ?_⟩
    rw [List.getElem_zip]
    rfl
  exact paid _ pair

end BigBlackHardware
