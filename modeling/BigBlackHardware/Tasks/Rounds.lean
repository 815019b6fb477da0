import BigBlackHardware.Controller.QueuedReplies
import BigBlackHardware.Tasks.ClientFrames

/-! A round of the handling task ends. The loop that sends goes on as long as packets wait, and a
handler may queue more of them, but no round goes on for ever.
-/

namespace BigBlackHardware

open Library

/-- The number of packets that wait in queues. -/
def Station.queued (station : Station) : Nat := station.device.queued

/-- The task is about to call `select`, or does not go on. -/
def HandlePoint.AtHead : HandlePoint → Prop
  | .selecting _ _ | .stopped => True
  | _ => False

/-- How many calls the round goes on for at most, if no packet waits in a queue. -/
def HandlePoint.calls : HandlePoint → Nat
  | .selecting _ _ | .stopped => 0
  | .awaiting | .refusing _ _ => 1
  | .looking => 2
  | .reading serving => 14 * serving.later.length + 3
  | .drawing serving => 14 * serving.later.length + 4
  | .dropping serving | .putting serving => 14 * serving.later.length + 5
  | .sending serving | .releasing serving => 14 * serving.later.length + 6
  | .closing serving _ => 14 * serving.later.length + 7
  | .processing serving => 14 * serving.later.length + 14
  | .receiving serving => 14 * serving.later.length + 15
  | .taking serving => 14 * serving.later.length + 16

/-- How many packets the call can queue. -/
def HandlePoint.queues : HandlePoint → Nat
  | .processing _ => 2
  | _ => 0

/-- How many packets the call before it took from a queue. -/
def HandlePoint.taken : HandlePoint → Nat
  | .sending _ => 1
  | _ => 0

section Calls

variable {point next : HandlePoint}

/-- Each entry of `conn_info` to come is worth 14 calls. -/
theorem HandlePoint.Onward.calls {entries : Nat} (onward : point.Onward entries)
    : point.calls ≤ 14 * entries + 2 := by
  cases point with
  | taking serving | drawing serving =>
      have fewer : serving.later.length < entries := onward
      simp only [HandlePoint.calls]
      omega
  | looking => exact Nat.le_add_left 2 _
  | _ => exact onward.elim

/-- A call comes nearer to the head of the loop, where a packet to send is worth the 4 calls that
send it. By the point of the task.
-/
theorem HandlePoint.Leads.calls (leads : point.Leads next) (away : ¬ point.AtHead)
    : next.calls + 4 * point.queues + 1 ≤ point.calls + 4 * next.taken := by
  cases point with
  | selecting maxFd readFd | stopped => exact absurd trivial away
  | putting serving =>
      rcases leads with same | onward
      · subst same
        exact Nat.le_refl _
      · have calls := onward.calls
        simp only [HandlePoint.calls, HandlePoint.queues] at calls ⊢
        omega
  | reading serving =>
      rcases leads with same | onward
      · subst same
        exact Nat.le_refl _
      · have calls := onward.calls
        simp only [HandlePoint.calls, HandlePoint.queues] at calls ⊢
        omega
  | awaiting | looking | refusing info hndl =>
      cases next <;> first
        | exact leads.elim
        | simp [HandlePoint.calls, HandlePoint.queues, HandlePoint.taken]
  | taking serving | receiving serving | processing serving | closing serving hndl
  | releasing serving | drawing serving | sending serving | dropping serving =>
      cases next <;> first
        | exact leads.elim
        | (have same := leads
           subst same
           simp only [HandlePoint.calls, HandlePoint.queues]
           omega)

/-- A call that is not at the head is worth what it queues. -/
theorem HandlePoint.calls_pos (away : ¬ point.AtHead) : 4 * point.queues + 1 ≤ point.calls := by
  cases point with
  | selecting maxFd readFd | stopped => exact absurd trivial away
  | _ => simp [HandlePoint.calls, HandlePoint.queues]

/-- The loop over the entries takes no packet out of a queue. -/
theorem HandlePoint.Onward.taken {entries : Nat} (onward : point.Onward entries)
    : point.taken = 0 := by
  cases point with
  | sending serving => exact onward.elim
  | _ => rfl

/-- Only a read of an `out_queue` takes a packet out of it. -/
theorem HandlePoint.Leads.taken (leads : point.Leads next)
    (other : ∀ serving, point ≠ .reading serving) : next.taken = 0 := by
  cases next with
  | sending serving => exact absurd leads.sending (other serving)
  | _ => rfl

end Calls

section Queued

/-- The calls that neither process a packet nor read a reply leave the packets that wait, apart from
what they take away.
-/
theorem queued_frame : CallFrame (Grows Station.queued 0) where
  listened station :=
    Nat.le_of_eq (congrArg Device.queued (listened_unlistened station).device)
  closed _ _ := Nat.le_refl _
  sent _ _ := Nat.le_refl _
  setConn _ _ _ _ := Nat.le_refl _
  released _ _ := Nat.le_refl _
  dequeued _ := Nat.le_refl _
  entered _ _ _ := Nat.le_refl _
  packetGot _ := Nat.le_refl _
  packetReleased _ _ := Nat.le_refl _
  replyRead station queue :=
    Nat.le.intro (sysQueueReadPtr_length station.device.desk.messages queue)
  held _ _ _ := Nat.le_refl _
  noted _ _ := Nat.le_refl _

/-- A read of an `out_queue` that returns a packet takes it out. -/
theorem readReply_queued (missed : Bool) (info most : Nat)
    : Triple (fun station => station.queued ≤ most) (readReply missed info)
        (fun status after => after.queued + (if 0 ≤ status then 1 else 0) ≤ most)
        (fun _ _ => True) := by
  intro station bound
  cases missed with
  | true => exact bound
  | false =>
      have listened : station.listened.queued ≤ most :=
        Nat.le_trans (queued_frame.listened station) bound
      have length := sysQueueReadPtr_length station.listened.device.desk.messages
        (station.listened.conns info).outQueue
      change (sysQueueReadPtr station.listened.device.desk.messages
          (station.listened.conns info).outQueue).2.length
        + (if 0 ≤ (if (sysQueueReadPtr station.listened.device.desk.messages
            (station.listened.conns info).outQueue).1.isSome then osiOk else osiOperationFailed)
          then 1 else 0) ≤ most
      have worth {some : Bool}
          : (if 0 ≤ (if some then osiOk else osiOperationFailed) then 1 else 0)
            = if some then 1 else 0 := by
        cases some <;> rfl
      rw [worth, length]
      exact listened

/-- No call queues more packets than it can, by the point of the task. -/
theorem handlingStep_grows (answer : Answer) (point : HandlePoint)
    : Moves (Grows Station.queued point.queues) (handlingStep answer point) := by
  cases point with
  | processing serving =>
      refine Moves.grows_bind (j := 2) (k := 0) (fun station => ?_) fun _ => .pure _
      rw [handOver_eq]
      have handed : Moves (Grows Station.queued 2) (onDevice (processPacket _ station.packet)) :=
        (processPacket_queues (station.queueWord (station.conns serving.info).outQueue) _).onPart
          fun _ _ queued => queued
      exact handed (station.note (.handed station.packet station.object.header.type))
  | receiving serving =>
      exact receivingStep_framed queued_frame answer serving fun _ => Nat.le_refl _
  | _ => exact handlingStep_framed queued_frame answer trivial

/-- What a call does to the packets that wait: it queues some or takes the one that is sent next. -/
theorem handlingStep_queued (answer : Answer) (point : HandlePoint) (most : Nat)
    : Triple (fun station => station.queued ≤ most) (handlingStep answer point)
        (fun next after => after.queued + next.1.taken ≤ most + point.queues)
        (fun _ _ => True) := by
  intro station bound
  have leads := handlingStep_leads answer point station trivial
  have grown := handlingStep_grows answer point station
  cases run : handlingStep answer point station with
  | error e after => trivial
  | ok next after =>
      rw [run] at leads grown
      dsimp only at leads ⊢
      by_cases reads : ∃ serving, point = .reading serving
      · obtain ⟨serving, rfl⟩ := reads
        obtain ⟨status, drained, reply, rest⟩ := bind_eq_ok run
        have read := readReply_queued answer.missed serving.info most station bound
        rw [reply] at read
        dsimp only at read
        by_cases some : status ≥ 0
        · rw [if_pos some] at rest read
          cases rest
          exact read
        · rw [if_neg some] at rest read
          cases rest
          rw [(nextEntry_onward after serving.readFd status serving.later).taken]
          exact read
      · rw [leads.taken fun serving same => reads ⟨serving, same⟩]
        exact Nat.le_trans grown (Nat.add_le_add_right bound _)

end Queued

-----------------------------------------------------------------------------------------
-- Rounds
-----------------------------------------------------------------------------------------

/-- The call can wait, or the task makes none. -/
def HandlePoint.Waits : HandlePoint → Prop
  | .awaiting | .receiving _ | .sending _ | .stopped => True
  | _ => False

section Answering

theorem closeSocket_answers (hndl : Int) : Answers (closeSocket hndl) := fun _ _ => trivial

theorem disableFrom_answers (info : Nat) (hndl : Int) : Answers (disableFrom info hndl) := by
  rw [disableFrom]
  refine .bind (closeSocket_answers hndl) fun status => .ite (.pure fun _ _ => trivial) ?_
  exact fun _ _ => trivial

theorem readReply_answers (missed : Bool) (info : Nat) : Answers (readReply missed info) := by
  cases missed with
  | true | false => exact fun _ _ => trivial

/-- The other calls return, or the device does not go on. By the point of the task. -/
theorem handlingStep_answers (answer : Answer) {point : HandlePoint} (returns : ¬ point.Waits)
    : Answers (handlingStep answer point) := by
  cases point with
  | awaiting | receiving serving | sending serving | stopped => exact absurd trivial returns
  | selecting maxFd readFd =>
      refine .bind (Q := fun _ _ => True) (fun _ _ => trivial) fun _ => ?_
      exact .ite (fun _ _ => trivial) (.pure fun _ _ => trivial)
  | processing serving => exact processing_answers answer serving
  | closing serving hndl =>
      refine .bind (disableFrom_answers _ _) fun status => ?_
      exact .ite (.pure fun _ _ => trivial) (.pure fun _ _ => trivial)
  | reading serving =>
      refine .bind (readReply_answers _ _) fun status => .ite (.pure fun _ _ => trivial) ?_
      exact fun _ _ => trivial
  | looking =>
      refine .bind (Q := fun _ _ => True) ?_ fun found => ?_
      · rw [lookForConnection]
        exact .ite (.pure fun _ _ => trivial) fun _ _ => trivial
      · cases found with
        | none => exact fun _ _ => trivial
        | some info =>
            refine .bind .get fun _ => .ite (.pure fun _ _ => trivial) ?_
            exact fun _ _ => trivial
  | refusing info hndl => exact .bind (disableFrom_answers _ _) fun _ _ _ => trivial
  | taking serving | releasing serving | putting serving | drawing serving | dropping serving =>
      exact fun _ _ => trivial

end Answering

/-- The turn is none in which the handling task waits for the network: for the first connection, in
a receive or in a send.
-/
def Tasks.goesOn (tasks : Tasks) : Turn → Bool
  | .listening _ => true
  | .handling answer =>
      match tasks.handling with
      | .awaiting | .receiving _ | .sending _ =>
          match handlingStep answer tasks.handling tasks.station with
          | .error .waiting _ => false
          | _ => true
      | _ => true

/-- Then the call does not wait. -/
theorem Tasks.goesOn_returns (tasks : Tasks) {answer : Answer} (away : ¬ tasks.handling.AtHead)
    (goes : tasks.goesOn (.handling answer) = true) (after : Station)
    : handlingStep answer tasks.handling tasks.station ≠ .error .waiting after := by
  intro run
  by_cases waits : tasks.handling.Waits
  · rw [Tasks.goesOn] at goes
    cases point : tasks.handling with
    | awaiting | receiving serving | sending serving =>
        rw [point] at goes run
        dsimp only at goes
        rw [run] at goes
        cases goes
    | stopped =>
        rw [point] at away
        exact away trivial
    | _ =>
        rw [point] at waits
        exact waits
  · have answers := handlingStep_answers answer waits tasks.station trivial
    rw [run] at answers
    exact answers rfl

/-- The turn is one of the handling task. -/
def Turn.handles : Turn → Bool
  | .listening _ => false
  | .handling _ => true

/-- How many calls the round goes on for at most. -/
def Tasks.callsLeft (tasks : Tasks) : Nat := 4 * tasks.station.queued + tasks.handling.calls

/-- The round has fewer calls left behind each call that does not wait, and no more behind a turn of
the listening task.
-/
theorem Tasks.step_callsLeft (tasks : Tasks) (turn : Turn) (away : ¬ tasks.handling.AtHead)
    (goes : tasks.goesOn turn = true)
    : (tasks.step turn).callsLeft + turn.handles.toNat ≤ tasks.callsLeft := by
  cases turn with
  | listening refused =>
      have same : (listeningCall refused tasks.station).queued ≤ tasks.station.queued :=
        listeningCall_moves (S := Grows Station.queued 0)
          (fun station =>
            Nat.le_of_eq (congrArg Device.queued (listeningStep_unlistened station).device))
          (fun _ => Nat.le_refl _) refused tasks.station
      exact Nat.add_le_add_right (Nat.mul_le_mul_left 4 same) _
  | handling answer =>
      have leads := handlingStep_leads answer tasks.handling tasks.station trivial
      have queued := handlingStep_queued answer tasks.handling _ tasks.station (Nat.le_refl _)
      rw [Tasks.step, Tasks.callsLeft, Tasks.callsLeft]
      cases run : handlingStep answer tasks.handling tasks.station with
      | ok next after =>
          rw [run] at leads queued
          have nearer := HandlePoint.Leads.calls leads away
          simp only [Turn.handles, Bool.toNat_true] at queued nearer ⊢
          omega
      | error e after =>
          have worth := HandlePoint.calls_pos away
          have grown := handlingStep_grows answer tasks.handling tasks.station
          rw [run] at grown
          have grown : after.queued ≤ tasks.station.queued + tasks.handling.queues := grown
          cases e with
          | waiting => exact absurd run (tasks.goesOn_returns away goes after)
          | restart | nullMcuInfo | noHandler =>
              change 4 * after.queued + 0 + 1 ≤ 4 * tasks.station.queued + tasks.handling.calls
              omega

/-- Only a task at the head of its loop has no calls left. -/
theorem Tasks.atHead_of_callsLeft {tasks : Tasks} (none : tasks.callsLeft = 0)
    : tasks.handling.AtHead := by
  by_contra away
  have worth := HandlePoint.calls_pos away
  rw [Tasks.callsLeft] at none
  omega

/-- The task comes to the head of its loop with the calls that it has left. -/
theorem Tasks.comesToHead {tasks : Tasks} {turns : List Turn}
    (goes : Obeys Tasks.step (fun tasks turn => tasks.goesOn turn = true) turns tasks)
    (enough : tasks.callsLeft ≤ turns.countP Turn.handles)
    : ∃ instant ∈ instants Tasks.step turns tasks, instant.handling.AtHead :=
  goes.reaches Tasks.step_callsLeft (fun _ => Tasks.atHead_of_callsLeft) enough

/-- Behind `select` there are at most three entries to serve and the packets that waited to send. -/
theorem Tasks.step_selected {tasks : Tasks} {maxFd : Int} {readFd : List Int}
    (head : tasks.handling = .selecting maxFd readFd) (answer : Answer)
    : (tasks.step (.handling answer)).callsLeft ≤ 4 * tasks.station.queued + 44 := by
  have leads := handlingStep_leads answer (.selecting maxFd readFd) tasks.station trivial
  have grown := handlingStep_grows answer (.selecting maxFd readFd) tasks.station
  rw [Tasks.step, head]
  cases run : handlingStep answer (.selecting maxFd readFd) tasks.station with
  | ok next after =>
      rw [run] at leads grown
      have grown : after.queued ≤ tasks.station.queued := grown
      have calls : next.1.calls ≤ 14 * 3 + 2 := HandlePoint.Onward.calls leads
      change 4 * after.queued + next.1.calls ≤ _
      omega
  | error e after =>
      rw [run] at grown
      have grown : after.queued ≤ tasks.station.queued := grown
      cases e with
      | waiting =>
          change 4 * tasks.station.queued + tasks.handling.calls ≤ _
          rw [head]
          exact Nat.add_le_add_left (Nat.zero_le 44) _
      | restart | nullMcuInfo | noHandler =>
          change 4 * after.queued + 0 ≤ _
          omega

/-- Whatever the clients and the target do and in whatever order the two tasks take their turns: as
long as no receive and no send waits, the handling task makes at most 44 calls behind one of
`select`, and 4 for each packet that waits there, before it comes back to `select` or stops.
-/
theorem tasks_roundEnds {tasks : Tasks} {maxFd : Int} {readFd : List Int}
    (head : tasks.handling = .selecting maxFd readFd) (answer : Answer) (turns : List Turn)
    (goes
      : Obeys Tasks.step (fun tasks turn => tasks.goesOn turn = true) turns
          (tasks.step (.handling answer)))
    (enough : 4 * tasks.station.queued + 44 ≤ turns.countP Turn.handles)
    : ∃ instant ∈ instants Tasks.step turns (tasks.step (.handling answer)),
        instant.handling.AtHead :=
  Tasks.comesToHead goes (Nat.le_trans (Tasks.step_selected head answer) enough)

/-- The handling task when it got the connection of the client that sends two commands. -/
def cmdSelecting : Tasks := cmdConnected.step (.handling ⟨⟨0, fun _ => true⟩, false⟩)

/-- It answers the first command and is back at `select`. -/
theorem tasks_roundEnds_cmd
    : ∃ instant ∈ instants Tasks.step
          (List.replicate 11 (.handling ⟨⟨1, fun _ => true⟩, false⟩)
            ++ List.replicate 33 (.handling ⟨⟨0, fun _ => true⟩, true⟩))
          (cmdSelecting.step (.handling ⟨⟨1, fun _ => true⟩, false⟩)),
        instant.handling.AtHead :=
  have head : cmdSelecting.handling = .selecting 1 [1] := rfl
  tasks_roundEnds head _ _ (by decide +kernel) (by decide +kernel)

example
    : .sentOn 1 ∈ (afterTurns Tasks.step
        (List.replicate 12 (.handling ⟨⟨1, fun _ => true⟩, false⟩)) cmdSelecting).uses := by
  decide +kernel

end BigBlackHardware
