import BigBlackHardware.Codec.Protocol

/-! The message queues of the kernel as `sys.c` uses them: pointers are sent by value. All waiting
messages are kept in one list, oldest first, each under the queue it waits in.
-/

namespace BigBlackHardware

/-- A pointer that waits in a queue. -/
structure Message where
  queue : Nat
  item : Nat
  deriving DecidableEq

/-- The pointers that wait in one queue, oldest first. -/
def waiting (messages : List Message) (queue : Nat) : List Nat :=
  (messages.filter (fun message => message.queue = queue)).map Message.item

/-- `sys_queue_write_ptr` on a queue of the given length. It fails when the queue is full for
as long as the caller waits, or when the kernel refuses the handle.
-/
def sysQueueWritePtr (messages : List Message) (refused : Bool) (length queue item : Nat)
    : Int × List Message :=
  if refused ∨ length ≤ (waiting messages queue).length then (osiOperationFailed, messages)
  else (osiOk, messages ++ [⟨queue, item⟩])

/-- `sys_queue_read_ptr`: the pointer read, if the queue has one before the caller stops waiting. -/
def sysQueueReadPtr (messages : List Message) (queue : Nat) : Option Nat × List Message :=
  match messages.find? (fun message => message.queue = queue) with
  | none => (none, messages)
  | some message => (some message.item, messages.erase message)

/-- An added message waits in its own queue. -/
theorem waiting_append (messages : List Message) (outQueue item : Nat)
    : waiting (messages ++ [⟨outQueue, item⟩]) outQueue = waiting messages outQueue ++ [item] := by
  simp [waiting]

/-- A read that returns a pointer takes one message away, any other none. -/
theorem sysQueueReadPtr_length (messages : List Message) (queue : Nat)
    : (sysQueueReadPtr messages queue).2.length
        + (if (sysQueueReadPtr messages queue).1.isSome then 1 else 0)
      = messages.length := by
  rw [sysQueueReadPtr]
  cases found : messages.find? (fun message => message.queue = queue) with
  | none => rfl
  | some message =>
      have member := List.mem_of_find?_eq_some found
      have some := List.length_pos_of_mem member
      simp only [Option.isSome_some, ↓reduceIte, List.length_erase_of_mem member]
      omega

/-- A read adds no message. -/
theorem sysQueueReadPtr_subset (messages : List Message) (queue : Nat)
    : (sysQueueReadPtr messages queue).2 ⊆ messages := by
  rw [sysQueueReadPtr]
  split
  · exact List.Subset.refl messages
  · exact List.erase_subset

/-- A read that returns no pointer leaves the messages. -/
theorem sysQueueReadPtr_none {messages : List Message} {queue : Nat}
    (none : (sysQueueReadPtr messages queue).1 = none)
    : (sysQueueReadPtr messages queue).2 = messages := by
  rw [sysQueueReadPtr] at none ⊢
  cases found : messages.find? (fun message => message.queue = queue) with
  | none => rfl
  | some message =>
      rw [found] at none
      cases none

/-- A read of a queue takes the oldest of its messages, by induction on all messages. -/
theorem sysQueueReadPtr_waiting (messages : List Message) (queue : Nat)
    : (sysQueueReadPtr messages queue).1 = (waiting messages queue).head?
      ∧ waiting (sysQueueReadPtr messages queue).2 queue = (waiting messages queue).tail := by
  induction messages with
  | nil => exact ⟨rfl, rfl⟩
  | cons first messages ih =>
      rw [sysQueueReadPtr] at ih ⊢
      by_cases own : first.queue = queue
      · simp [waiting, own]
      · have skips : waiting (first :: messages) queue = waiting messages queue := by
          simp [waiting, own]
        rw [skips, List.find?_cons_of_neg (by simpa using own)]
        cases found : messages.find? (fun message => message.queue = queue) with
        | none =>
            rw [found] at ih
            exact ⟨ih.1, skips.trans ih.2⟩
        | some message =>
            rw [found] at ih
            have inQueue : message.queue = queue := by simpa using List.find?_some found
            have other : first ≠ message := fun same => own (same ▸ inQueue)
            refine ⟨ih.1, Eq.trans ?_ ih.2⟩
            dsimp only
            rw [List.erase_cons_tail (by simpa using other)]
            simp [waiting, own]

end BigBlackHardware
