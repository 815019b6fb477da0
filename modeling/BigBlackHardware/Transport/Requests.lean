import Mathlib.Algebra.BigOperators.Group.List.Basic
import BigBlackHardware.Library.Turns
import BigBlackHardware.Transport.Receipts

/-! What `recv_nbytes` asks `recv` for, call by call. However the peer and the network split the
bytes, it asks for what is missing and ends with exactly that.
-/

namespace BigBlackHardware

open Library

/-- The call has returned data. -/
def RecvCall.IsData (call : RecvCall) : Bool := call.returned > 0

/-- How many bytes a call has returned. -/
def RecvCall.bytes (call : RecvCall) : Nat := call.returned.toNat

/-- `EAGAIN`, or a count between 1 and what was requested. -/
def RecvCall.Answered (call : RecvCall) : Prop :=
  call.returned = eagain ∨ (1 ≤ call.returned ∧ call.returned ≤ call.requested)

/-- How many bytes some calls have returned. -/
def received (calls : List RecvCall) : Nat := (calls.map RecvCall.bytes).sum

/-- Behind other calls for `n` bytes a call requests what is missing, which is something, and does
not return more.
-/
def RightRequest (n : Nat) (before : List RecvCall) (call : RecvCall) : Prop :=
  call.requested = (n : Int) - received before
  ∧ 0 < call.requested
  ∧ (call.bytes : Int) ≤ call.requested

/-- The socket with the first results of a sequence without end. -/
def Socket.offered (sock : Socket) (results : Nat → Int) (m : Nat) : Socket :=
  { sock with recvResults := (List.range m).map results }

/-- The connection stays open for `n` bytes: the peer sends them, and `recv` is offered `EAGAIN` and
counts, with no end of counts. A count is cut to what is requested and to what is there, so that
these are all ways in which `recv` can return the bytes.
-/
structure StaysOpen (inbox : List UInt8) (n : Nat) (results : Nat → Int) : Prop where
  stream : n ≤ inbox.length
  answers : ∀ i, results i = eagain ∨ 1 ≤ results i
  goesOn : ∀ i, ∃ j ≥ i, 1 ≤ results j

-----------------------------------------------------------------------------------------
-- Calls
-----------------------------------------------------------------------------------------

/-- The data calls return the counts on the receipt, by induction on the calls. -/
theorem receipt_calls_counts (results : List Int) (inbox : List UInt8) (n : Nat)
    : ((receipt n inbox.length results).calls.filter RecvCall.IsData).map RecvCall.bytes
      = (receipt n inbox.length results).counts := by
  induction results, inbox, n using receive_induction with
  | waits inbox n => rfl
  | done results inbox =>
      rw [receipt_zero]
      rfl
  | count c results inbox n positive missing available ih =>
      have data : RecvCall.IsData ⟨n, (min c (min n inbox.length) : Nat)⟩ = true :=
        decide_eq_true (by dsimp only; omega)
      rw [List.length_drop] at ih
      rw [receipt_count missing positive available]
      dsimp only
      rw [List.filter_cons_of_pos data, List.map_cons, ih]
      rfl
  | again result results inbox n missing unpaid again ih =>
      rw [receipt_again missing unpaid again]
      exact ih
  | ends result results inbox n missing none stops =>
      have noData : ¬ RecvCall.IsData ⟨n, result⟩ = true := fun data =>
        none (of_decide_eq_true data)
      rw [receipt_ends missing none stops, List.filter_cons_of_neg noData]
      rfl

theorem received_append (before : List RecvCall) (call : RecvCall)
    : received (before ++ [call]) = received before + call.bytes := by
  rw [received, List.map_append, List.sum_append]
  rfl

/-- A request for the `n` bytes that are missing, whatever it returns of them. -/
theorem rightRequest_of {before : List RecvCall} {n total : Nat} (sum : received before + n = total)
    (missing : 0 < n) {returned : Int} (bound : returned ≤ n)
    : RightRequest total before ⟨n, returned⟩ := by
  have bytes : ((RecvCall.mk n returned).bytes : Int) ≤ n := by
    change ((returned.toNat : Nat) : Int) ≤ n
    omega
  refine ⟨?_, Int.natCast_pos.mpr missing, bytes⟩
  dsimp only
  omega

/-- Every request is for what is missing, by induction on the calls. -/
theorem receipt_requests (results : List Int) (inbox : List UInt8) (n : Nat) (total : Nat)
    (before : List RecvCall) (sum : received before + n = total)
    : EachAfter (RightRequest total) before (receipt n inbox.length results).calls := by
  induction results, inbox, n using receive_induction generalizing before with
  | waits inbox n => trivial
  | done results inbox =>
      rw [receipt_zero]
      trivial
  | count c results inbox n positive missing available ih =>
      rw [List.length_drop] at ih
      rw [receipt_count missing positive available]
      refine ⟨rightRequest_of sum missing (by omega), ih _ ?_⟩
      rw [received_append]
      change received before + (min c (min n inbox.length) : Nat) + _ = total
      omega
  | again result results inbox n missing unpaid again ih =>
      rw [receipt_again missing unpaid again]
      have none : (RecvCall.mk n eagain).bytes = 0 := rfl
      refine ⟨rightRequest_of sum missing (by rw [eagain]; omega), ih _ ?_⟩
      rw [received_append, none]
      exact sum
  | ends result results inbox n missing none stops =>
      rw [receipt_ends missing none stops]
      exact ⟨rightRequest_of sum missing (by omega), trivial⟩

section Open

variable {results : List Int} (answers : ∀ result ∈ results, result = eagain ∨ 1 ≤ result)

include answers

/-- Results of a connection that stays open answer every call, by induction on the calls. -/
theorem receipt_answered (inbox : List UInt8) (n : Nat)
    : ∀ call ∈ (receipt n inbox.length results).calls, call.Answered := by
  induction results, inbox, n using receive_induction with
  | waits inbox n => exact fun _ member => by cases member
  | done results inbox =>
      rw [receipt_zero]
      exact fun _ member => by cases member
  | count c results inbox n positive missing available ih =>
      have rest := ih fun result member => answers result (List.mem_cons_of_mem _ member)
      rw [List.length_drop] at rest
      rw [receipt_count missing positive available]
      refine List.forall_mem_cons.mpr ⟨Or.inr ⟨?_, ?_⟩, rest⟩
      · change (1 : Int) ≤ (min c (min n inbox.length) : Nat)
        omega
      · change ((min c (min n inbox.length) : Nat) : Int) ≤ (n : Int)
        omega
  | again result results inbox n missing unpaid again ih =>
      have rest := ih fun result member => answers result (List.mem_cons_of_mem _ member)
      rw [receipt_again missing unpaid again]
      exact List.forall_mem_cons.mpr ⟨Or.inl rfl, rest⟩
  | ends result results inbox n missing none stops =>
      rcases answers result List.mem_cons_self with again | positive
      · exact absurd again stops
      · exact absurd positive none

/-- With as many counts as bytes are missing, and a stream that holds them, all are received, by
induction on the calls: each count brings at least one byte.
-/
theorem receipt_of_enough (inbox : List UInt8) (n : Nat) (stream : n ≤ inbox.length)
    (enough : n ≤ results.countP (1 ≤ ·)) : (receipt n inbox.length results).counts.sum = n := by
  induction results, inbox, n using receive_induction with
  | waits inbox n => exact (Nat.le_zero.mp enough).symm
  | done results inbox =>
      rw [receipt_zero]
      rfl
  | count c results inbox n positive missing available ih =>
      have counted : (1 : Int) ≤ c := by omega
      rw [List.countP_cons, if_pos (decide_eq_true counted)] at enough
      have rest := ih (fun result member => answers result (List.mem_cons_of_mem _ member))
        (by rw [List.length_drop]; omega) (by omega)
      rw [List.length_drop] at rest
      rw [receipt_count missing positive available, List.sum_cons, rest]
      omega
  | again result results inbox n missing unpaid again ih =>
      have none : ¬ 1 ≤ result := fun positive => unpaid ⟨positive, by omega⟩
      rw [List.countP_cons_of_neg (by simpa using none)] at enough
      rw [receipt_again missing unpaid again]
      exact ih (fun result member => answers result (List.mem_cons_of_mem _ member)) stream enough
  | ends result results inbox n missing none stops =>
      rcases answers result List.mem_cons_self with again | positive
      · exact absurd again stops
      · exact absurd positive none

end Open

/-- Only data calls count for what was received. -/
theorem received_eq (calls : List RecvCall)
    : received calls = ((calls.filter RecvCall.IsData).map RecvCall.bytes).sum := by
  induction calls with
  | nil => rfl
  | cons call calls ih =>
      rw [received] at ih ⊢
      rw [List.map_cons, List.sum_cons, ih]
      by_cases data : call.IsData = true
      · rw [List.filter_cons_of_pos data, List.map_cons, List.sum_cons]
      · have none : call.bytes = 0 :=
          Int.toNat_of_nonpos (Int.not_lt.mp fun positive => data (decide_eq_true positive))
        rw [List.filter_cons_of_neg data, none, Nat.zero_add]

/-- Each data call returns at least one byte. -/
theorem countP_isData_le (calls : List RecvCall)
    : calls.countP RecvCall.IsData ≤ received calls := by
  have each : ∀ bytes ∈ (calls.filter RecvCall.IsData).map RecvCall.bytes, 1 ≤ bytes := by
    intro bytes member
    obtain ⟨call, present, rfl⟩ := List.mem_map.mp member
    have positive : 0 < call.returned := of_decide_eq_true (List.mem_filter.mp present).2
    change 1 ≤ call.returned.toNat
    omega
  have length := List.length_le_sum_of_one_le _ each
  rwa [List.length_map, ← List.countP_eq_length_filter, ← received_eq] at length

-----------------------------------------------------------------------------------------
-- `recv_nbytes`
-----------------------------------------------------------------------------------------

/-- A sequence with no end of counts has as many as are wanted, by induction on their number. -/
theorem exists_counts {results : Nat → Int} (goesOn : ∀ i, ∃ j ≥ i, 1 ≤ results j) (k : Nat)
    : ∃ m, k ≤ ((List.range m).map results).countP (1 ≤ ·) := by
  induction k with
  | zero => exact ⟨0, Nat.zero_le _⟩
  | succ k ih =>
      obtain ⟨m, some⟩ := ih
      obtain ⟨j, later, count⟩ := goesOn m
      have before : (List.range m).Sublist (List.range j) := List.range_sublist.mpr later
      have more := (before.map results).countP_le (p := fun result => decide (1 ≤ result))
      refine ⟨j + 1, ?_⟩
      rw [List.range_succ, List.map_append, List.countP_append]
      have last : ([j].map results).countP (1 ≤ ·) = 1 := by simp [count]
      omega

/-- On a connection that stays open `recv_nbytes` succeeds with exactly the next `n` bytes of the
stream. Each call is answered with `EAGAIN` or a count up to what it requests, and requests what is
missing; at most `n` calls return data.
-/
theorem recvNbytes_exact (sock : Socket) (buf : Cells UInt8) (n : UInt16)
    (small : n.toNat < 2 ^ 15) (results : Nat → Int)
    (opened : StaysOpen sock.inbox n.toNat results)
    : ∃ m,
        let report := recvNbytes (sock.offered results m) buf n
        report.status = some success
        ∧ received report.calls = n.toNat
        ∧ (∀ call ∈ report.calls, call.Answered)
        ∧ EachAfter (RightRequest n.toNat) [] report.calls
        ∧ report.calls.countP RecvCall.IsData ≤ n.toNat
        ∧ report.inbox = sock.inbox.drop n.toNat := by
  obtain ⟨m, enough⟩ := exists_counts opened.goesOn n.toNat
  have answers : ∀ result ∈ (List.range m).map results, result = eagain ∨ 1 ≤ result := by
    intro result member
    obtain ⟨i, -, rfl⟩ := List.mem_map.mp member
    exact opened.answers i
  let slip := receipt n.toNat sock.inbox.length ((List.range m).map results)
  have sum : slip.counts.sum = n.toNat :=
    receipt_of_enough answers sock.inbox n.toNat opened.stream enough
  have all : received slip.calls = n.toNat := by
    rw [received_eq, receipt_calls_counts, sum]
  refine ⟨m, ?_⟩
  rw [recvNbytes_receipt _ buf small]
  refine ⟨receipt_status_of_sum sum, all, receipt_answered answers sock.inbox n.toNat,
    receipt_requests _ sock.inbox n.toNat n.toNat [] (Nat.zero_add _), ?_, ?_⟩
  · exact (countP_isData_le slip.calls).trans (Nat.le_of_eq all)
  · exact congrArg (fun taken => sock.inbox.drop taken) sum

/-- Three bytes. The first two come together, and the last one only after the socket had none. -/
def lateBytes : Socket := ⟨[7, 8, 9], [], [], [], []⟩

/-- Every other result is `EAGAIN`. -/
def lateResults (i : Nat) : Int := if i % 2 = 0 then 2 else eagain

theorem lateBytes_staysOpen : StaysOpen lateBytes.inbox 3 lateResults where
  stream := Nat.le_refl 3
  answers i := by
    rw [lateResults]
    split
    · exact Or.inr (by decide)
    · exact Or.inl rfl
  goesOn i := by
    refine ⟨2 * i, by omega, ?_⟩
    rw [lateResults, if_pos (by omega)]
    decide

theorem recvNbytes_exact_late
    : ∃ m,
        let report := recvNbytes (lateBytes.offered lateResults m) (fun _ => 0) 3
        report.status = some success
        ∧ received report.calls = (3 : UInt16).toNat
        ∧ (∀ call ∈ report.calls, call.Answered)
        ∧ EachAfter (RightRequest (3 : UInt16).toNat) [] report.calls
        ∧ report.calls.countP RecvCall.IsData ≤ (3 : UInt16).toNat
        ∧ report.inbox = lateBytes.inbox.drop (3 : UInt16).toNat :=
  recvNbytes_exact lateBytes (fun _ => 0) 3 (by decide) lateResults lateBytes_staysOpen

end BigBlackHardware
