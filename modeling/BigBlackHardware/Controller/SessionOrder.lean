import BigBlackHardware.Controller.Established
import BigBlackHardware.Controller.Refusals

/-! Whole sessions: which orders of requests meet the contract, and how long a session that is
established stays so.
-/

namespace BigBlackHardware

open Library

/-- From an established session on, all requests up to the next LoadMCUInfo or restart meet the
contract. Witness: induction on the requests; each leaves the session established for the next.
-/
theorem sessionRun_established {rig : Rig} (working : Working rig.log rig) (arrivals : List Arrival)
    (others : ∀ arrival ∈ arrivals, arrival.request ≠ .loadMcuInfo)
    (goes
      : ∀ step ∈ sessionRun rig arrivals, ∀ device,
          step.2.handle step.1 ≠ .error .restart device)
    : ∀ step ∈ sessionRun rig arrivals, Respects step.1 step.2 := by
  induction arrivals generalizing rig with
  | nil => exact fun _ member => by cases member
  | cons arrival arrivals ih =>
      rw [List.forall_mem_cons] at others
      rw [sessionRun, List.forall_mem_cons] at goes ⊢
      have ready : ¬ TooEarly rig arrival := by
        obtain ⟨installed, enabled⟩ := working_iff.mp working
        rw [ready_iff]
        cases arrival.request with
        | cmd => exact enabled
        | loadMcuInfo => trivial
        | programMemory => exact working
        | readMemory => exact working
      refine ⟨respects_of_ready ready, ?_⟩
      cases handled : arrival.handle rig with
      | ok status device =>
          rw [handled] at goes
          exact ih (handle_working working others.1 handled) others.2 goes.2
      | error e device =>
          cases e with
          | restart => exact absurd handled (goes.1 device)
          | nullMcuInfo => exact fun _ member => by cases member
          | noHandler => exact fun _ member => by cases member
          | waiting => exact fun _ member => by cases member

/-- One request meets the contract exactly if it comes in order. -/
theorem respects_iff_inOrder (rig : Rig) (arrival : Arrival)
    : Respects rig arrival ↔ InOrder rig arrival := by
  by_cases early : TooEarly rig arrival
  · rw [InOrder, imp_iff_right early]
    cases request : arrival.request with
    | cmd =>
        rw [TooEarly, request] at early
        exact cmd_respects_iff request early
    | loadMcuInfo =>
        rw [TooEarly, request] at early
        exact early.elim
    | programMemory => exact iff_of_false (not_respects_programMemory request early) id
    | readMemory =>
        rw [TooEarly, request] at early
        exact readMemory_respects_iff request early
  · exact iff_of_true (respects_of_ready early) fun h => absurd h early

/-- From a reset on, whatever the target answers and whichever requests arrive: all of them meet
the contract exactly if all of them come in order.
-/
theorem sessionRun_respects_iff (target : List RigEvent → AvrCommand → AvrCommand) (heap : Heap)
    (junk : Junk) (arrivals : List Arrival)
    : (∀ step ∈ sessionRun (.boot target heap junk) arrivals, Respects step.1 step.2)
      ↔ ∀ step ∈ sessionRun (.boot target heap junk) arrivals, InOrder step.1 step.2 :=
  forall₂_congr fun step _ => respects_iff_inOrder step.1 step.2

/-- The request of the test client: a CMD packet with four data bytes, as the first of all. -/
def testClientRequest : Arrival where
  request := .cmd
  desk :=
    .boot
      (fun _ =>
        { header := ⟨PacketType.cmdPacket.val, 0, 4, 0, 0, 0⟩
          rawHeader := fun _ => 0
          packetData := Cells.store (fun _ => 0) 0 [1, 2, 3, 4] })
      (fun _ => 0) ⟨fun _ => 0, 0⟩
  outQueue := 0
  packet := 0

/-- After a reset the first request of the test client transfers its command on a disabled SPI
module.
-/
theorem sessionRun_testClient_transfers
    : ¬ ∀ step ∈ sessionRun (.boot (fun _ cmd => cmd) (.boot fun _ _ => 0) ⟨fun _ => 0, 0⟩)
          [testClientRequest],
        Respects step.1 step.2 := by
  intro respects
  have first := respects _ List.mem_cons_self
  exact (cmd_respects_iff rfl rfl).mp first (by decide)

end BigBlackHardware
