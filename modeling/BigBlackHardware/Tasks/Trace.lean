import BigBlackHardware.Tasks.Frames

/-! The trace of the handling task: every receive that ends is followed at once by an action on the
same packet object, and there is no other action.
-/

namespace BigBlackHardware

open Library

def SameTrace (before after : Station) : Prop := after.trace = before.trace

instance : Std.Refl SameTrace := ⟨fun _ => rfl⟩

instance : IsTrans Station SameTrace := ⟨fun _ _ _ one two => Eq.trans two one⟩

/-- Only receives and actions are noted. -/
theorem sameTrace_frame : TaskFrame SameTrace where
  listened station := (listened_unlistened station).trace
  setSocket _ _ _ := rfl
  setConn _ _ _ := rfl
  connectionsPool _ _ := rfl
  connectionsQueue _ _ := rfl
  forgotten _ _ := rfl
  taken _ _ := rfl
  device _ _ := rfl
  held _ _ _ := rfl

/-- The first connection leaves the trace and the device alone. -/
theorem firstConnection_sameTrace : Moves SameTrace firstConnection := by
  rw [firstConnection]
  refine .bind (readConnectionsQueue_moves sameTrace_frame.toConnectionFrame) fun info => ?_
  cases info with
  | none => exact .throw _
  | some info => exact .modify fun _ => rfl

/-- What the task does with a packet of a type. -/
def actionFor (packet : Nat) (type : UInt8) : TaskEvent :=
  if type = PacketType.closeConnectionPacket.val then .closing packet else .handed packet type

/-- The traces in which a receive that ends is followed by the action for the type that the packet
object then has, and a receive that waits forever by nothing.
-/
inductive Paired : List TaskEvent → Prop where
  | nil : Paired []
  | waiting {trace} (before : Paired trace) (packet : Nat) (sock : Socket) (object : Packet)
      (waits : (recvPacket sock object).status = none)
    : Paired (trace ++ [.received packet sock object])
  | acted {trace} (before : Paired trace) (packet : Nat) (sock : Socket) (object : Packet)
      (ends : (recvPacket sock object).status ≠ none)
    : Paired
        (trace ++ [.received packet sock object]
          ++ [actionFor packet (recvPacket sock object).packet.header.type])

/-- The trace is paired, however the program ends. -/
def KeepsPairs {α : Type} (m : StationM α) : Prop :=
  Triple (fun station => Paired station.trace) m (fun _ station => Paired station.trace)
    (fun _ station => Paired station.trace)

theorem keepsPairs_of_sameTrace {α : Type} {m : StationM α} (quiet : Moves SameTrace m)
    : KeepsPairs m :=
  quiet.preserves fun station after same paired => by
    have trace : after.trace = station.trace := same
    rwa [trace]

/-- The station between a receive that ended and its action: the packet object is what the receive
left.
-/
def Pending (station : Station) : Prop :=
  ∃ earlier sock object,
    Paired earlier
    ∧ station.trace = earlier ++ [.received station.packet sock object]
    ∧ (recvPacket sock object).status ≠ none
    ∧ station.object = (recvPacket sock object).packet

theorem afterReceive_object (station : Station) (hndl : Int)
    : (station.afterReceive hndl).object
      = (recvPacket (station.sockets hndl) station.object).packet :=
  if_pos rfl

/-- A receive either ends, with the action pending, or waits forever. -/
theorem receiveInto_pending (hndl : Int)
    : Triple (fun station => Paired station.trace) (receiveInto hndl) (fun _ => Pending)
        (fun _ station => Paired station.trace) := by
  intro station paired
  rw [← (listened_unlistened station).trace] at paired
  rw [receiveInto_eq]
  cases ended : (recvPacket (station.listened.sockets hndl) station.listened.object).status with
  | none => exact paired.waiting _ _ _ ended
  | some status =>
      exact ⟨station.listened.trace, station.listened.sockets hndl, station.listened.object, paired,
        rfl, by rw [ended]; exact Option.some_ne_none status, afterReceive_object _ hndl⟩

/-- The action completes the pair. -/
theorem actOn_keepsPairs (info : Nat)
    : Triple Pending (actOn info) (fun _ station => Paired station.trace)
        (fun _ station => Paired station.trace) := by
  rintro station ⟨earlier, sock, object, paired, trace, ends, stored⟩
  have done := paired.acted station.packet sock object ends
  rw [← stored, ← trace, actionFor] at done
  by_cases close : station.object.header.type = PacketType.closeConnectionPacket.val
  · rw [if_pos close] at done
    have run : actOn info station = closeConn info (station.note (.closing station.packet)) :=
      congrFun (if_pos close) station
    rw [run]
    exact keepsPairs_of_sameTrace (closeConn_moves sameTrace_frame.toConnectionFrame info) _ done
  · rw [if_neg close] at done
    have run : actOn info station = handOver info station := congrFun (if_neg close) station
    rw [run]
    exact keepsPairs_of_sameTrace (onDevice_moves sameTrace_frame.toPacketFrame _)
      (station.note (.handed station.packet station.object.header.type)) done

theorem handleReady_keepsPairs (info : Nat) (hndl : Int) : KeepsPairs (handleReady info hndl) := by
  rw [handleReady]
  have takes := takePacket_moves sameTrace_frame.toPacketFrame
  refine Triple.bind (keepsPairs_of_sameTrace takes) fun _ => ?_
  refine .bind (receiveInto_pending hndl) fun _ => .bind (actOn_keepsPairs info) fun _ => ?_
  exact keepsPairs_of_sameTrace (putPacket_moves sameTrace_frame.toPacketFrame)

theorem serveGroup_keepsPairs (i : PacketGroup) (status : Int) (readFd : List Int)
    : KeepsPairs (serveGroup i status readFd) := by
  rw [serveGroup]
  refine Triple.bind (keepsPairs_of_sameTrace .get) fun station => ?_
  cases station.connInfo i with
  | none => exact .pure fun _ h => h
  | some info =>
      refine .ite ?_ (.pure fun _ h => h)
      have reads (hndl : Int) : KeepsPairs (readConnection info hndl status readFd) := by
        refine Triple.ite ?_ (.pure fun _ h => h)
        exact .bind (handleReady_keepsPairs info hndl) fun _ => .pure fun _ h => h
      refine .bind (reads _) fun read => ?_
      have drains (hndl status : Int) : KeepsPairs (drainQueue info hndl status) :=
        keepsPairs_of_sameTrace (drainQueue_moves sameTrace_frame.toPacketFrame info hndl status)
      exact .bind (drains _ _) fun _ => .pure fun _ h => h

theorem serveGroups_keepsPairs (groups : List PacketGroup) (status : Int) (readFd : List Int)
    : KeepsPairs (serveGroups groups status readFd) := by
  induction groups generalizing status readFd with
  | nil => exact Triple.pure fun _ h => h
  | cons i groups ih =>
      exact Triple.bind (serveGroup_keepsPairs i status readFd) fun _ => ih _ _

/-- One round of the loop keeps the trace paired. -/
theorem handlingRound_keepsPairs (selection : Selection)
    : KeepsPairs (handlingRound selection) := by
  rw [handlingRound]
  have quiet := sameTrace_frame.toConnectionFrame
  have takes := keepsPairs_of_sameTrace (takeConnection_moves quiet)
  refine Triple.bind (keepsPairs_of_sameTrace (selectReady_moves quiet selection)) fun readFd => ?_
  refine .bind ?_ fun _ => takes
  exact Triple.ite (serveGroups_keepsPairs _ _ _) (.pure fun _ h => h)

/-- So does the loop, by induction on the results of `select`. -/
theorem handlingLoop_keepsPairs (selections : List Selection)
    : KeepsPairs (handlingLoop selections) := by
  induction selections with
  | nil => exact Triple.pure fun _ h => h
  | cons selection selections ih =>
      exact Triple.bind (handlingRound_keepsPairs selection) fun _ => ih

/-- The trace of every run of the task is paired. -/
theorem vHandlingTask_paired (station : Station) (selections : List Selection)
    : Paired (final (vHandlingTask selections (packetHandlerStart station))).trace := by
  have run : KeepsPairs (vHandlingTask selections) :=
    Triple.bind (keepsPairs_of_sameTrace firstConnection_sameTrace) fun _ =>
      handlingLoop_keepsPairs selections
  have paired := run (packetHandlerStart station) Paired.nil
  cases result : vHandlingTask selections (packetHandlerStart station) with
  | ok a after => rw [result] at paired; exact paired
  | error e after => rw [result] at paired; exact paired

end BigBlackHardware
