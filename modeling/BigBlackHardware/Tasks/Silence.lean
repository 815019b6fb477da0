import BigBlackHardware.Controller.DeskFrame
import BigBlackHardware.Controller.NewReplies
import BigBlackHardware.Tasks.ClientFrames

/-! Where replies go. The handling task passes the handle of `out_queue` where `process_packet`
takes a pointer to a handle, so that handlers write to the queue whose handle is stored there.
-/

namespace BigBlackHardware

open Library

/-- The queue may be an `out_queue`: a connection object names it, or it is not created yet. -/
def Station.MayAnswer (station : Station) (queue : Nat) : Prop :=
  station.nextQueue ≤ queue ∨ ∃ info, (station.conns info).outQueue = queue

/-- Nothing that may be an `out_queue` holds the handle of one. -/
def Station.Misdirects (station : Station) : Prop :=
  ∀ queue, station.MayAnswer queue → ¬ station.MayAnswer (station.queueWord queue)

/-- Since the start no other queue has become an `out_queue`, and no packet waits in one. -/
structure Mute (start station : Station) : Prop where
  words : station.queueWord = start.queueWord
  queues : ∀ queue, station.MayAnswer queue → start.MayAnswer queue
  unanswered : ∀ message ∈ station.device.desk.messages, ¬ start.MayAnswer message.queue

/-- A station that was mute still is. -/
abbrev StaysMute (start : Station) : Station → Station → Prop := Keeps (Mute start)

section Mute

variable {start before after : Station}

/-- What names no new queue and adds no message. -/
theorem staysMute_of (words : after.queueWord = before.queueWord)
    (queues : ∀ queue, after.MayAnswer queue → before.MayAnswer queue)
    (messages : after.device.desk.messages ⊆ before.device.desk.messages)
    : StaysMute start before after :=
  fun mute =>
    ⟨words.trans mute.words, fun queue may => mute.queues queue (queues queue may),
      fun message member => mute.unanswered message (messages member)⟩

/-- What leaves the connections, the queues and the messages. -/
theorem staysMute_of_eq (words : after.queueWord = before.queueWord)
    (conns : after.conns = before.conns) (next : after.nextQueue = before.nextQueue)
    (messages : after.device.desk.messages ⊆ before.device.desk.messages)
    : StaysMute start before after :=
  staysMute_of words (fun queue may => by rwa [Station.MayAnswer, conns, next] at may) messages

/-- A store to a connection object that leaves its queues. -/
theorem setConn_staysMute (station : Station) (info : Nat) (conn : ConnectionInfo)
    (same : conn.outQueue = (station.conns info).outQueue)
    : StaysMute start station (station.setConn info conn) := by
  refine staysMute_of rfl (fun queue may => may.imp_right ?_) (List.Subset.refl _)
  rintro ⟨i, named⟩
  refine ⟨i, ?_⟩
  rw [← named]
  dsimp only [Station.setConn]
  split
  · rename_i own
    rw [own, same]
  · rfl

/-- A new connection object gets queues that are created for it. -/
theorem connConstructor_staysMute (station : Station) (info : Nat)
    : StaysMute start station (connConstructor station info) := by
  refine staysMute_of rfl (fun queue may => ?_) (List.Subset.refl _)
  rcases may with later | ⟨i, named⟩
  · refine Or.inl (Nat.le_trans ?_ later)
    exact Nat.le_add_right station.nextQueue 2
  · change (if i = info then _ else station.conns i).outQueue = queue at named
    split at named
    · refine Or.inl ?_
      rw [← named]
      exact Nat.le_add_right station.nextQueue 1
    · exact Or.inr ⟨i, named⟩

/-- What leaves the connections, the queues and the device. -/
theorem staysMute_same (words : after.queueWord = before.queueWord)
    (conns : after.conns = before.conns) (next : after.nextQueue = before.nextQueue)
    (device : after.device = before.device) : StaysMute start before after :=
  staysMute_of_eq words conns next (by rw [device]; exact List.Subset.refl _)

theorem getConnection_staysMute (station : Station)
    : StaysMute start station (getConnection station).2 := by
  rw [getConnection]
  dsimp only
  split
  · let taken : Station :=
      { station with
        connectionsPool := (poolGet station.connectionsPool station.nextConn).pool }
    have popped : StaysMute start station taken := staysMute_same rfl rfl rfl rfl
    have constructed : StaysMute start taken (connConstructor taken taken.nextConn) :=
      connConstructor_staysMute taken taken.nextConn
    have counted
        : StaysMute start (connConstructor taken taken.nextConn)
            { connConstructor taken taken.nextConn with nextConn := taken.nextConn + 1 } :=
      staysMute_same rfl rfl rfl rfl
    exact IsTrans.trans _ _ _ popped (IsTrans.trans _ _ _ constructed counted)
  · exact staysMute_same rfl rfl rfl rfl

theorem listeningStep_staysMute (station : Station)
    : StaysMute start station (listeningStep station) :=
  listeningStep_framed
    { accepted := fun _ _ _ _ => ⟨staysMute_same rfl rfl rfl rfl, staysMute_same rfl rfl rfl rfl⟩
      moved := fun _ _ => staysMute_same rfl rfl rfl rfl
      got := getConnection_staysMute
      junk := fun _ => staysMute_same rfl rfl rfl rfl
      filled := fun station info _ _ => setConn_staysMute station info _ rfl
      enqueued := fun _ _ => staysMute_same rfl rfl rfl rfl }
    station

theorem staysMute_frame : CallFrame (StaysMute start) where
  listened := listened_moves listeningStep_staysMute fun _ _ => staysMute_same rfl rfl rfl rfl
  closed _ _ := staysMute_same rfl rfl rfl rfl
  sent _ _ := staysMute_same rfl rfl rfl rfl
  setConn station info _ _ := setConn_staysMute station info _ rfl
  released _ _ := staysMute_same rfl rfl rfl rfl
  dequeued _ := staysMute_same rfl rfl rfl rfl
  entered _ _ _ := staysMute_same rfl rfl rfl rfl
  packetGot _ := staysMute_of_eq rfl rfl rfl (List.Subset.refl _)
  packetReleased _ _ := staysMute_of_eq rfl rfl rfl (List.Subset.refl _)
  replyRead _ _ := staysMute_of_eq rfl rfl rfl (sysQueueReadPtr_subset _ _)
  held _ _ _ := staysMute_same rfl rfl rfl rfl
  noted _ _ := staysMute_same rfl rfl rfl rfl

end Mute

-----------------------------------------------------------------------------------------
-- The handlers
-----------------------------------------------------------------------------------------

/-- New messages wait in this queue only. -/
def AddsTo (outQueue : Nat) (before after : Desk) : Prop :=
  ∀ message ∈ after.messages, message ∈ before.messages ∨ message.queue = outQueue

instance {outQueue : Nat} : Std.Refl (AddsTo outQueue) := ⟨fun _ _ member => Or.inl member⟩

instance {outQueue : Nat} : IsTrans Desk (AddsTo outQueue) :=
  ⟨fun _ _ _ first second message member =>
    (second message member).elim (first message) Or.inr⟩

theorem addsTo_frame (outQueue : Nat) : ReplyFrame outQueue (AddsTo outQueue) where
  got _ _ member := Or.inl member
  stored _ _ _ _ member := Or.inl member
  written desk packet message member := by
    rw [written_messages] at member
    refine (List.mem_append.mp member).imp_right fun new => ?_
    split at new
    · rw [List.mem_singleton.mp new]
    · cases new
  junk _ _ member := Or.inl member

section Calls

variable {start : Station}

/-- Handlers that are misdirected leave the station mute. -/
theorem handOver_staysMute (misdirects : start.Misdirects) (info : Nat)
    : Moves (StaysMute start) (handOver info) := by
  intro station mute
  rw [handOver_eq]
  let noted := station.note (.handed station.packet station.object.header.type)
  let outQueue := station.queueWord (station.conns info).outQueue
  have elsewhere : ¬ start.MayAnswer outQueue := by
    change ¬ start.MayAnswer (station.queueWord (station.conns info).outQueue)
    rw [mute.words]
    exact misdirects _ (mute.queues _ (Or.inr ⟨info, rfl⟩))
  have replies := processPacket_ofReplies (addsTo_frame outQueue) station.packet
  have part : Moves (fun before after : Station =>
      after = { before with device := after.device }
      ∧ AddsTo outQueue before.device.desk after.device.desk)
      (onDevice (processPacket outQueue station.packet)) :=
    replies.onPart fun _ _ adds => ⟨rfl, adds⟩
  obtain ⟨same, adds⟩ := part noted
  rw [same]
  refine ⟨mute.words, mute.queues, fun message member => ?_⟩
  rcases adds message member with old | new
  · exact mute.unanswered message old
  · rw [new]
    exact elsewhere

/-- Every call of the handling task leaves the station mute, by its point. -/
theorem handlingStep_staysMute (misdirects : start.Misdirects) (answer : Answer)
    (point : HandlePoint) : Moves (StaysMute start) (handlingStep answer point) := by
  cases point with
  | processing serving => exact .bind (handOver_staysMute misdirects _) fun _ => .pure _
  | receiving serving =>
      exact receivingStep_framed staysMute_frame answer serving fun station =>
        staysMute_of_eq rfl rfl rfl (List.Subset.refl _)
  | _ => exact handlingStep_framed staysMute_frame answer trivial

/-- On a mute station the read of an `out_queue` finds nothing. -/
theorem readReply_mute (missed : Bool) (info : Nat)
    : Triple (Mute start) (readReply missed info) (fun status _ => status < 0)
        (fun _ _ => True) := by
  intro station mute
  cases missed with
  | true =>
      change osiOperationFailed < 0
      decide
  | false =>
      have listened := staysMute_frame.listened station mute
      have none : (sysQueueReadPtr station.listened.device.desk.messages
          (station.listened.conns info).outQueue).1 = none := by
        rw [sysQueueReadPtr]
        cases found : station.listened.device.desk.messages.find?
            (fun message => message.queue = (station.listened.conns info).outQueue) with
        | none => rfl
        | some message =>
            have own : message.queue = (station.listened.conns info).outQueue := by
              simpa using List.find?_some found
            have other := listened.unanswered message (List.mem_of_find?_eq_some found)
            rw [own] at other
            exact absurd (listened.queues _ (Or.inr ⟨info, rfl⟩)) other
      change (if (sysQueueReadPtr station.listened.device.desk.messages
        (station.listened.conns info).outQueue).1.isSome then osiOk else osiOperationFailed) < 0
      rw [none]
      decide

/-- No call leads to a send. -/
theorem handlingStep_unsent (answer : Answer) (point : HandlePoint)
    : Triple (Mute start) (handlingStep answer point)
        (fun next _ => ∀ serving, next.1 ≠ .sending serving) (fun _ _ => True) := by
  intro station mute
  have leads := handlingStep_leads answer point station trivial
  cases run : handlingStep answer point station with
  | error e after => trivial
  | ok next after =>
      rw [run] at leads
      intro serving same
      dsimp only at leads
      rw [same] at leads
      have reads := leads.sending
      subst reads
      obtain ⟨status, drained, reply, rest⟩ := bind_eq_ok run
      have failed := readReply_mute answer.missed serving.info station mute
      rw [reply] at failed
      rw [if_neg (Int.not_le.mpr failed)] at rest
      cases rest
      have onward := nextEntry_onward after serving.readFd status serving.later
      dsimp only at same
      rw [same] at onward
      exact onward.elim

end Calls

/-- The station is mute and the handling task does not send. -/
structure Tasks.Mute (start : Station) (tasks : Tasks) : Prop where
  station : BigBlackHardware.Mute start tasks.station
  unsent : ∀ serving, tasks.handling ≠ .sending serving

/-- Every turn keeps the tasks mute. -/
theorem Tasks.step_mute {start : Station} (misdirects : start.Misdirects) (tasks : Tasks)
    (turn : Turn) (mute : tasks.Mute start) : (tasks.step turn).Mute start := by
  cases turn with
  | listening refused =>
      refine ⟨?_, mute.unsent⟩
      have step : StaysMute start tasks.station (listeningCall refused tasks.station) :=
        listeningCall_moves listeningStep_staysMute (fun _ => staysMute_same rfl rfl rfl rfl)
          refused tasks.station
      exact step mute.station
  | handling answer =>
      have unsent := handlingStep_unsent answer tasks.handling tasks.station mute.station
      have moved := handlingStep_staysMute misdirects answer tasks.handling tasks.station
      refine ⟨Tasks.step_handling moved mute.station, ?_⟩
      rw [Tasks.step]
      cases run : handlingStep answer tasks.handling tasks.station with
      | ok next after =>
          rw [run] at unsent
          exact unsent
      | error e after =>
          cases e with
          | waiting => exact mute.unsent
          | restart | nullMcuInfo | noHandler => exact fun _ same => by cases same

/-- If nothing that may be an `out_queue` holds the handle of one, then whatever arrives and in
whatever order the two tasks take their turns, no packet is ever sent to a client.
-/
theorem tasks_neverSend {station : Station} (misdirects : station.Misdirects) (turns : List Turn)
    : ∀ tasks ∈ instants Tasks.step turns (.start station),
        ∀ serving, tasks.handling ≠ .sending serving := by
  have start : (Tasks.start station).Mute station :=
    ⟨⟨rfl, fun _ may => may, fun _ member => by cases member⟩, fun _ => nofun⟩
  have mute := instants_invariant (Tasks.step_mute misdirects) turns start
  exact fun tasks member => (mute tasks member).unsent

/-- A client that sends two commands, where the word at every queue handle is 0. -/
def unansweredStation : Station :=
  { oneClient cmdClient with
    conns := fun _ => ⟨0, .controlGroup, 1, 1⟩
    queueWord := fun _ => 0 }

theorem unansweredStation_misdirects : unansweredStation.Misdirects := by
  have named {queue : Nat} (may : unansweredStation.MayAnswer queue) : 1 ≤ queue :=
    may.elim id fun ⟨_, same⟩ => Nat.le_of_eq same
  exact fun queue _ may => absurd (named may) (Nat.lt_irrefl 0)

/-- It connects, and the handling task gets to where it sends the answer to the first command if
the handle stands where the handle points to.
-/
def answeringTurns : List Turn :=
  List.replicate 4 (.listening false) ++ List.replicate 8 (.handling ⟨⟨1, fun _ => true⟩, false⟩)

/-- The task does not send there. -/
theorem tasks_neverSend_unanswered
    : (afterTurns Tasks.step answeringTurns (.start unansweredStation)).handling
      ≠ .sending ⟨[.programmerGroup, .uartGroup], 0, 1, []⟩ :=
  tasks_neverSend unansweredStation_misdirects answeringTurns _ (afterTurns_mem_instants _ _) _

example
    : (afterTurns Tasks.step answeringTurns (.start (oneClient cmdClient))).handling
      = .sending ⟨[.programmerGroup, .uartGroup], 0, 1, []⟩ := rfl

end BigBlackHardware
