import BigBlackHardware.Library.Exec

/-! Two runs of one program from related states: they end in the same way, with the same value, and
the states they leave are related again.
-/

namespace BigBlackHardware.Library

variable {ε σ τ α β : Type}

/-- Two ends of runs that an observer of the relation cannot tell apart. -/
inductive EndsAlike (R : σ → σ → Prop) : EStateM.Result ε σ α → EStateM.Result ε σ α → Prop where
  | ok {a : α} {s s' : σ} (related : R s s') : EndsAlike R (.ok a s) (.ok a s')
  | error {e : ε} {s s' : σ} (related : R s s') : EndsAlike R (.error e s) (.error e s')

/-- From related states the program ends alike. -/
def TwoRuns (R : σ → σ → Prop) (m : EStateM ε σ α) : Prop :=
  ∀ s s', R s s' → EndsAlike R (m s) (m s')

variable {R : σ → σ → Prop}

theorem TwoRuns.pure (a : α) : TwoRuns R (pure a : EStateM ε σ α) :=
  fun _ _ related => .ok related

theorem TwoRuns.throw (e : ε) : TwoRuns R (throw e : EStateM ε σ α) :=
  fun _ _ related => .error related

theorem TwoRuns.modify {f : σ → σ} (keeps : ∀ s s', R s s' → R (f s) (f s'))
    : TwoRuns R (modify f : EStateM ε σ PUnit) :=
  fun s s' related => .ok (keeps s s' related)

theorem TwoRuns.get {f : σ → EStateM ε σ α}
    (next : ∀ s s', R s s' → EndsAlike R (f s s) (f s' s')) : TwoRuns R (get >>= f) := next

/-- An end like one that returns returns as well. -/
theorem EndsAlike.of_ok {a : α} {s : σ} {r : EStateM.Result ε σ α}
    (alike : EndsAlike R (.ok a s) r) : ∃ s', r = .ok a s' ∧ R s s' := by
  cases alike with
  | ok related => exact ⟨_, rfl, related⟩

/-- What follows ends that are alike ends alike. -/
theorem EndsAlike.bind {m m' : EStateM ε σ α} {f : α → EStateM ε σ β} {s s' : σ}
    (first : EndsAlike R (m s) (m' s')) (next : ∀ a, TwoRuns R (f a))
    : EndsAlike R ((m >>= f) s) ((m' >>= f) s') := by
  cases run : m s with
  | ok a t =>
      cases run' : m' s' with
      | ok a' t' =>
          rw [run, run'] at first
          cases first with
          | ok related =>
              rw [bind_ok run, bind_ok run']
              exact next a t t' related
      | error e' t' => rw [run, run'] at first; cases first
  | error e t =>
      cases run' : m' s' with
      | ok a' t' => rw [run, run'] at first; cases first
      | error e' t' =>
          rw [run, run'] at first
          cases first with
          | error related =>
              rw [bind_error run, bind_error run']
              exact .error related

theorem TwoRuns.bind {m : EStateM ε σ α} {f : α → EStateM ε σ β} (first : TwoRuns R m)
    (next : ∀ a, TwoRuns R (f a)) : TwoRuns R (m >>= f) :=
  fun s s' related => (first s s' related).bind next

theorem TwoRuns.ite {c : Prop} [Decidable c] {m n : EStateM ε σ α} (yes : TwoRuns R m)
    (no : TwoRuns R n) : TwoRuns R (if c then m else n) := by
  split
  · exact yes
  · exact no

/-- A program on a part ends alike if the parts are related and the wholes are related by what is
put back.
-/
theorem TwoRuns.onPart {view : σ → τ} {put : τ → σ → σ} {m : EStateM ε τ α} {S : τ → τ → Prop}
    (runs : TwoRuns S m) (parts : ∀ s s', R s s' → S (view s) (view s'))
    (wholes : ∀ s s' t t', R s s' → S t t' → R (put t s) (put t' s'))
    : TwoRuns R (onPart view put m) := by
  intro s s' related
  have ends := runs _ _ (parts s s' related)
  cases run : m (view s) with
  | ok a t =>
      cases run' : m (view s') with
      | ok a' t' =>
          rw [run, run'] at ends
          cases ends with
          | ok again =>
              rw [onPart_ok run, onPart_ok run']
              exact .ok (wholes _ _ _ _ related again)
      | error e' t' => rw [run, run'] at ends; cases ends
  | error e t =>
      cases run' : m (view s') with
      | ok a' t' => rw [run, run'] at ends; cases ends
      | error e' t' =>
          rw [run, run'] at ends
          cases ends with
          | error again =>
              rw [onPart_error run, onPart_error run']
              exact .error (wholes _ _ _ _ related again)

/-- Any program ends alike from equal states. -/
theorem TwoRuns.of_eq (m : EStateM ε σ α) : TwoRuns Eq m := by
  rintro s _ rfl
  cases m s with
  | ok a t => exact .ok rfl
  | error e t => exact .error rfl

end BigBlackHardware.Library
