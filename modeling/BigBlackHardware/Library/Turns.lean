/-! Systems that take one turn after the other. A claim about every instant of a run follows from
what one turn preserves.
-/

namespace BigBlackHardware.Library

variable {σ τ : Type} (step : σ → τ → σ)

/-- The state after the turns. -/
def afterTurns (turns : List τ) (s : σ) : σ := turns.foldl step s

/-- The instants of a run: the state before the first turn and the state after each turn. -/
def instants : List τ → σ → List σ
  | [], s => [s]
  | turn :: turns, s => s :: instants turns (step s turn)

/-- The turns of a run, each with the state that it is taken in. -/
def moments : List τ → σ → List (σ × τ)
  | [], _ => []
  | turn :: turns, s => (s, turn) :: moments turns (step s turn)

/-- Every turn of the run is taken in a state that allows it. -/
def Obeys (allowed : σ → τ → Prop) : List τ → σ → Prop
  | [], _ => True
  | turn :: turns, s => allowed s turn ∧ Obeys allowed turns (step s turn)

/-- Whether a run obeys a decidable condition is decided turn by turn. -/
instance decidableObeys {allowed : σ → τ → Prop} [∀ s turn, Decidable (allowed s turn)]
    : (turns : List τ) → (s : σ) → Decidable (Obeys step allowed turns s)
  | [], _ => instDecidableTrue
  | turn :: turns, s =>
      have : Decidable (Obeys step allowed turns (step s turn)) := decidableObeys turns _
      inferInstanceAs (Decidable (allowed s turn ∧ Obeys step allowed turns (step s turn)))

variable {step} {allowed : σ → τ → Prop} {P : σ → Prop} {turns : List τ} {s : σ}

/-- What every allowed turn preserves holds at all instants of a run of allowed turns, by induction
on the turns.
-/
theorem Obeys.instants (keeps : ∀ s turn, P s → allowed s turn → P (step s turn))
    (obeys : Obeys step allowed turns s) (start : P s)
    : ∀ instant ∈ Library.instants step turns s, P instant := by
  induction turns generalizing s with
  | nil => exact List.forall_mem_singleton.mpr start
  | cons turn turns ih =>
      refine List.forall_mem_cons.mpr ⟨start, ?_⟩
      exact ih obeys.2 (keeps s turn start obeys.1)

/-- What every turn preserves holds at all instants of a run, by induction on the turns. -/
theorem instants_invariant (keeps : ∀ s turn, P s → P (step s turn)) (turns : List τ)
    (start : P s) : ∀ instant ∈ Library.instants step turns s, P instant := by
  induction turns generalizing s with
  | nil => exact List.forall_mem_singleton.mpr start
  | cons turn turns ih => exact List.forall_mem_cons.mpr ⟨start, ih (keeps s turn start)⟩

/-- A run obeys what each of its turns obeys in any state. -/
theorem obeys_of_forall (all : ∀ s, ∀ turn ∈ turns, allowed s turn)
    : Obeys step allowed turns s := by
  induction turns generalizing s with
  | nil => trivial
  | cons turn turns ih =>
      exact ⟨all s turn List.mem_cons_self,
        ih fun s other member => all s other (List.mem_cons_of_mem _ member)⟩

/-- Turns behind others are obeyed in the state that those leave, by induction on the first. -/
theorem obeys_append {more : List τ}
    : Obeys step allowed (turns ++ more) s
      ↔ Obeys step allowed turns s ∧ Obeys step allowed more (afterTurns step turns s) := by
  induction turns generalizing s with
  | nil => exact (and_iff_right trivial).symm
  | cons turn turns ih => exact (and_congr_right fun _ => ih).trans and_assoc.symm

/-- A run reaches a goal with at most as many turns of a kind as its rank, if rank 0 is at the goal
and elsewhere such turns lower the rank and no turn raises it. By induction on the turns.
-/
theorem Obeys.reaches {rank : σ → Nat} {goal : σ → Prop} {counts : τ → Bool}
    (falls
      : ∀ s turn,
          ¬ goal s → allowed s turn → rank (step s turn) + (counts turn).toNat ≤ rank s)
    (lowest : ∀ s, rank s = 0 → goal s) (obeys : Obeys step allowed turns s)
    (enough : rank s ≤ turns.countP counts)
    : ∃ instant ∈ Library.instants step turns s, goal instant := by
  induction turns generalizing s with
  | nil => exact ⟨s, List.mem_singleton_self s, lowest s (Nat.le_zero.mp enough)⟩
  | cons turn turns ih =>
      by_cases there : goal s
      · exact ⟨s, List.mem_cons_self, there⟩
      · have fallen := falls s turn there obeys.1
        have enough : rank (step s turn) ≤ turns.countP counts := by
          rw [List.countP_cons] at enough
          cases counted : counts turn <;> simp [counted] at fallen enough <;> omega
        obtain ⟨instant, member, there⟩ := ih obeys.2 enough
        exact ⟨instant, List.mem_cons_of_mem _ member, there⟩

theorem afterTurns_append (turns more : List τ) (s : σ)
    : afterTurns step (turns ++ more) s = afterTurns step more (afterTurns step turns s) :=
  List.foldl_append

/-- The state after the turns is the last instant. -/
theorem afterTurns_mem_instants (turns : List τ) (s : σ)
    : afterTurns step turns s ∈ Library.instants step turns s := by
  induction turns generalizing s with
  | nil => exact List.mem_singleton_self s
  | cons turn turns ih => exact List.mem_cons_of_mem _ (ih (step s turn))

/-- One more turn is one more instant, by induction on the turns before it. -/
theorem instants_concat (turns : List τ) (turn : τ) (s : σ)
    : Library.instants step (turns ++ [turn]) s
      = Library.instants step turns s ++ [afterTurns step (turns ++ [turn]) s] := by
  induction turns generalizing s with
  | nil => rfl
  | cons first turns ih => exact congrArg (s :: ·) (ih (step s first))

/-- Every instant of a run is the end of a part of it, by induction on the turns. -/
theorem exists_prefix_of_mem_instants {turns : List τ} {s instant : σ}
    (present : instant ∈ Library.instants step turns s)
    : ∃ past, past <+: turns ∧ instant = afterTurns step past s := by
  induction turns generalizing s with
  | nil => exact ⟨[], List.prefix_rfl, List.mem_singleton.mp present⟩
  | cons turn turns ih =>
      rcases List.mem_cons.mp present with now | later
      · exact ⟨[], List.nil_prefix, now⟩
      · obtain ⟨past, part, ends⟩ := ih later
        exact ⟨turn :: past, List.cons_prefix_cons.mpr ⟨rfl, part⟩, ends⟩

/-- What every turn preserves holds after any turns. -/
theorem afterTurns_invariant (keeps : ∀ s turn, P s → P (step s turn)) (turns : List τ)
    (start : P s) : P (afterTurns step turns s) := by
  induction turns generalizing s with
  | nil => exact start
  | cons turn turns ih => exact ih (keeps s turn start)

-----------------------------------------------------------------------------------------
-- Outputs
-----------------------------------------------------------------------------------------

variable {ω : Type}

/-- What the turns of a run give out, in their order. -/
def outputs (step : σ → τ → σ) (out : σ → τ → Option ω) (turns : List τ) (s : σ) : List ω :=
  (moments step turns s).filterMap fun moment => out moment.1 moment.2

/-- A system goes on as another one does that takes the outputs as its turns, if each of its turns
does. By induction on the turns.
-/
theorem Obeys.follows {α : Type} {R : σ → α → Prop} {next : α → ω → α}
    {out : σ → τ → Option ω}
    (each
      : ∀ s turn a,
          R s a → allowed s turn → R (step s turn) ((out s turn).elim a (next a)))
    (obeys : Obeys step allowed turns s) {a : α} (start : R s a)
    : R (afterTurns step turns s) (afterTurns next (outputs step out turns s) a) := by
  induction turns generalizing s a with
  | nil => exact start
  | cons turn turns ih =>
      have after := ih obeys.2 (each s turn a start obeys.1)
      rw [outputs, moments, List.filterMap_cons]
      dsimp only
      cases given : out s turn with
      | none =>
          rw [given] at after
          exact after
      | some output =>
          rw [given] at after
          exact after

/-- Outputs that each turn reads off another output are read off the list of those, by induction on
the turns.
-/
theorem Obeys.outputs_eq {ν : Type} {out : σ → τ → Option ω} {part : σ → τ → Option ν}
    {read : ω → Option ν} (keeps : ∀ s turn, P s → allowed s turn → P (step s turn))
    (reads : ∀ s turn, P s → allowed s turn → part s turn = (out s turn).bind read)
    (obeys : Obeys step allowed turns s) (start : P s)
    : outputs step part turns s = (outputs step out turns s).filterMap read := by
  induction turns generalizing s with
  | nil => rfl
  | cons turn turns ih =>
      have after := ih obeys.2 (keeps s turn start obeys.1)
      have now := reads s turn start obeys.1
      rw [outputs, outputs] at after ⊢
      rw [moments, List.filterMap_cons, List.filterMap_cons, after]
      dsimp only
      rw [now]
      cases out s turn with
      | none => rfl
      | some output =>
          rw [List.filterMap_cons]
          rfl

section Debts

variable {α : Type} (owes : σ → List α → Prop) (pays : α → ω → Prop)

/-- An output pays the first of what was owed; without one all of it is still owed. -/
def Settles (first : α) (rest : List α) (next : σ) : Option ω → Prop
  | none => owes next (first :: rest)
  | some output => pays first output ∧ owes next rest

/-- A system that owes outputs pays them in their order if every turn settles, by induction on the
turns.
-/
theorem outputs_paid {out : σ → τ → Option ω}
    (settles
      : ∀ s turn first rest,
          owes s (first :: rest) → Settles owes pays first rest (step s turn) (out s turn))
    {debt : List α} (turns : List τ) (start : owes s debt)
    : ∀ pair ∈ debt.zip (outputs step out turns s), pays pair.1 pair.2 := by
  induction turns generalizing s debt with
  | nil => simp [outputs, moments]
  | cons turn turns ih =>
      cases debt with
      | nil => simp
      | cons first rest =>
          have settled := settles s turn first rest start
          rw [outputs, moments, List.filterMap_cons]
          dsimp only
          cases given : out s turn with
          | none =>
              rw [given] at settled
              exact ih settled
          | some output =>
              rw [given] at settled
              exact List.forall_mem_cons.mpr ⟨settled.1, ih settled.2⟩

end Debts

-----------------------------------------------------------------------------------------
-- Traces
-----------------------------------------------------------------------------------------

variable {ε : Type} {right : List ε → ε → Prop}

/-- Each of the events is right behind those before it. -/
def EachAfter (right : List ε → ε → Prop) : List ε → List ε → Prop
  | _, [] => True
  | before, event :: events =>
      right before event ∧ EachAfter right (before ++ [event]) events

/-- Events one list behind the other, by induction on the first. -/
theorem eachAfter_append {before events more : List ε}
    : EachAfter right before (events ++ more)
      ↔ EachAfter right before events ∧ EachAfter right (before ++ events) more := by
  induction events generalizing before with
  | nil => simp [EachAfter]
  | cons event events ih =>
      simp only [List.cons_append, EachAfter, ih, and_assoc, List.append_assoc, List.nil_append]

/-- Every event of the trace is right behind the part of the trace before it. -/
theorem EachAfter.split {before events front rest : List ε} {event : ε}
    (each : EachAfter right before events) (split : events = front ++ event :: rest)
    : right (before ++ front) event := by
  rw [split, eachAfter_append] at each
  exact each.2.1

/-- An event that is right only where it was not before does not come again, by induction on the
events.
-/
theorem EachAfter.not_mem {before events : List ε} {event : ε}
    (once : ∀ before, right before event → event ∉ before)
    (each : EachAfter right before events) (already : event ∈ before) : event ∉ events := by
  induction events generalizing before with
  | nil => exact List.not_mem_nil
  | cons first rest ih =>
      obtain ⟨now, later⟩ := each
      intro again
      rcases List.mem_cons.mp again with rfl | again
      · exact once before now already
      · exact ih later (List.mem_append_left _ already) again

theorem EachAfter.count_le_one [DecidableEq ε] {before events : List ε} {event : ε}
    (once : ∀ before, right before event → event ∉ before)
    (each : EachAfter right before events) : events.count event ≤ 1 := by
  induction events generalizing before with
  | nil => exact Nat.zero_le 1
  | cons first rest ih =>
      obtain ⟨-, later⟩ := each
      by_cases same : first = event
      · subst same
        have gone := later.not_mem once (List.mem_append_right _ (List.mem_singleton_self _))
        exact Nat.le_of_eq (by rw [List.count_cons_self, List.count_eq_zero.mpr gone])
      · rw [List.count_cons_of_ne same]
        exact ih later

end BigBlackHardware.Library
