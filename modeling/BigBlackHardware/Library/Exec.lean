import Mathlib.Algebra.Order.Ring.Nat
import Mathlib.Order.Defs.Unbundled

/-! Programs over a state that can stop early. A run is described by its equation, by a triple
with one clause for each exit, or by a relation that the states before and after it satisfy.
-/

namespace BigBlackHardware.Library

variable {ε σ τ α β ι : Type}

/-- The state that a run leaves, whichever way it ends. -/
def final : EStateM.Result ε σ α → σ
  | .ok _ s => s
  | .error _ s => s

/-- Whether a run returned. -/
def comesBack : EStateM.Result ε σ α → Bool
  | .ok _ _ => true
  | .error _ _ => false

theorem eq_ok_of_comesBack {run : EStateM.Result ε σ α} (back : comesBack run = true)
    : ∃ a, run = .ok a (final run) := by
  cases run with
  | ok a s => exact ⟨a, rfl⟩
  | error e s => cases back

/-- A sequence whose first part returns goes on with the second from there. -/
theorem bind_ok {m : EStateM ε σ α} {f : α → EStateM ε σ β} {s t : σ} {a : α}
    (first : m s = .ok a t) : (m >>= f) s = f a t := by
  change EStateM.bind m f s = f a t
  rw [EStateM.bind, first]

/-- A sequence whose first part stops has stopped. -/
theorem bind_error {m : EStateM ε σ α} {f : α → EStateM ε σ β} {s t : σ} {e : ε}
    (first : m s = .error e t) : (m >>= f) s = .error e t := by
  change EStateM.bind m f s = _
  rw [EStateM.bind, first]

/-- A sequence depends on its first part only by how that runs. -/
theorem bind_congr_first {m m' : EStateM ε σ α} (f : α → EStateM ε σ β) {s : σ}
    (same : m s = m' s) : (m >>= f) s = (m' >>= f) s := by
  change EStateM.bind m f s = EStateM.bind m' f s
  rw [EStateM.bind, EStateM.bind, same]

/-- A program that begins by reading the state. -/
theorem bind_get (f : σ → EStateM ε σ β) (s : σ)
    : ((get : EStateM ε σ σ) >>= f) s = f s s := rfl

/-- A sequence that returns is two parts that return, by the two equations above. -/
theorem bind_eq_ok {m : EStateM ε σ α} {f : α → EStateM ε σ β} {s u : σ} {b : β}
    (returns : (m >>= f) s = .ok b u)
    : ∃ a t, m s = .ok a t ∧ f a t = .ok b u := by
  cases first : m s with
  | ok a t => exact ⟨a, t, rfl, by rwa [bind_ok first] at returns⟩
  | error e t => rw [bind_error first] at returns; cases returns

-----------------------------------------------------------------------------------------
-- Triples
-----------------------------------------------------------------------------------------

/-- From every state in `P` the program returns within `Q` or stops within `E`. -/
def Triple (P : σ → Prop) (m : EStateM ε σ α) (Q : α → σ → Prop) (E : ε → σ → Prop) : Prop :=
  ∀ s, P s →
    match m s with
    | .ok a t => Q a t
    | .error e t => E e t

variable {P P' : σ → Prop} {Q Q' : α → σ → Prop} {R : β → σ → Prop} {E E' : ε → σ → Prop}

theorem Triple.pure {a : α} (h : ∀ s, P s → Q a s)
    : Triple P (pure a : EStateM ε σ α) Q E := h

theorem Triple.throw {e : ε} (h : ∀ s, P s → E e s)
    : Triple P (throw e : EStateM ε σ α) Q E := h

theorem Triple.modify {f : σ → σ} {Q : PUnit → σ → Prop} (h : ∀ s, P s → Q ⟨⟩ (f s))
    : Triple P (modify f : EStateM ε σ PUnit) Q E := h

theorem Triple.get : Triple P (get : EStateM ε σ σ) (fun read s => read = s ∧ P s) E :=
  fun _ h => ⟨rfl, h⟩

/-- Triples compose over a sequence: a stop in the first part is a stop of the whole. -/
theorem Triple.bind {m : EStateM ε σ α} {f : α → EStateM ε σ β}
    (first : Triple P m Q E) (next : ∀ a, Triple (Q a) (f a) R E)
    : Triple P (m >>= f) R E := by
  intro s start
  have one := first s start
  cases run : m s with
  | ok a t =>
      rw [run] at one
      rw [bind_ok run]
      exact next a t one
  | error e t =>
      rw [run] at one
      rw [bind_error run]
      exact one

theorem Triple.ite {c : Prop} [Decidable c] {m n : EStateM ε σ α} (yes : Triple P m Q E)
    (no : Triple P n Q E) : Triple P (if c then m else n) Q E := by
  split
  · exact yes
  · exact no

/-- Nothing is claimed of a program with trivial clauses. -/
theorem Triple.trivial (m : EStateM ε σ α)
    : Triple P m (fun _ _ => True) (fun _ _ => True) := by
  intro s _
  cases m s <;> exact True.intro

theorem Triple.mono {m : EStateM ε σ α} (h : Triple P m Q E) (before : ∀ s, P' s → P s)
    (after : ∀ a s, Q a s → Q' a s) (stopped : ∀ e s, E e s → E' e s)
    : Triple P' m Q' E' := by
  intro s start
  have run := h s (before s start)
  cases result : m s with
  | ok a t => exact after a t (by simpa only [result] using run)
  | error e t => exact stopped e t (by simpa only [result] using run)

/-- The program returns from every state. -/
def Total (m : EStateM ε σ α) : Prop := ∀ s, ∃ a t, m s = .ok a t

-----------------------------------------------------------------------------------------
-- Transition bounds
-----------------------------------------------------------------------------------------

/-- Every run moves the state along the relation, whichever way it ends. -/
def Moves (S : σ → σ → Prop) (m : EStateM ε σ α) : Prop := ∀ s, S s (final (m s))

section Moves

variable {S : σ → σ → Prop}

theorem Moves.pure [Std.Refl S] (a : α) : Moves S (pure a : EStateM ε σ α) :=
  fun s => Std.Refl.refl s

theorem Moves.throw [Std.Refl S] (e : ε) : Moves S (throw e : EStateM ε σ α) :=
  fun s => Std.Refl.refl s

theorem Moves.get [Std.Refl S] : Moves S (get : EStateM ε σ σ) :=
  fun s => Std.Refl.refl s

theorem Moves.modify {f : σ → σ} (h : ∀ s, S s (f s))
    : Moves S (modify f : EStateM ε σ PUnit) := h

/-- Moves compose over a sequence, by transitivity. -/
theorem Moves.bind [IsTrans σ S] {m : EStateM ε σ α} {f : α → EStateM ε σ β}
    (first : Moves S m) (next : ∀ a, Moves S (f a))
    : Moves S (m >>= f) := by
  intro s
  have one := first s
  cases run : m s with
  | ok a t =>
      rw [run] at one
      rw [bind_ok run]
      exact IsTrans.trans _ _ _ one (next a t)
  | error e t =>
      rw [run] at one
      rw [bind_error run]
      exact one

theorem Moves.ite {c : Prop} [Decidable c] {m n : EStateM ε σ α} (yes : Moves S m)
    (no : Moves S n) : Moves S (if c then m else n) := by
  split
  · exact yes
  · exact no

/-- What a move preserves holds after the run, whichever way it ends. -/
theorem Moves.preserves {m : EStateM ε σ α} (moves : Moves S m)
    (keeps : ∀ s t, S s t → P s → P t) : Triple P m (fun _ => P) (fun _ => P) := by
  intro s start
  have kept : P (final (m s)) := keeps s _ (moves s) start
  cases run : m s with
  | ok a t => rw [run] at kept; exact kept
  | error e t => rw [run] at kept; exact kept

/-- A state that reaches the one before a run reaches the one after it. -/
theorem Moves.triple [IsTrans σ S] {m : EStateM ε σ α} (moves : Moves S m) (start : σ)
    : Triple (S start) m (fun _ => S start) (fun _ => S start) :=
  moves.preserves fun _ _ moved reached => IsTrans.trans _ _ _ reached moved

end Moves

-----------------------------------------------------------------------------------------
-- Properties that are kept
-----------------------------------------------------------------------------------------

/-- If the property held before, it holds after. -/
def Keeps (P : σ → Prop) (before after : σ) : Prop := P before → P after

instance : Std.Refl (Keeps P) := ⟨fun _ held => held⟩

instance : IsTrans σ (Keeps P) := ⟨fun _ _ _ first second held => second (first held)⟩

-----------------------------------------------------------------------------------------
-- Growth
-----------------------------------------------------------------------------------------

/-- The state is larger than before by no more than that. -/
def Grows (size : σ → Nat) (most : Nat) (before after : σ) : Prop :=
  size after ≤ size before + most

section Grows

variable {size : σ → Nat} {j k : Nat}

instance : Std.Refl (Grows size k) := ⟨fun s => Nat.le_add_right (size s) k⟩

instance : IsTrans σ (Grows size 0) := ⟨fun _ _ _ first second => Nat.le_trans second first⟩

theorem Moves.grows_mono {m : EStateM ε σ α} (moves : Moves (Grows size j) m) (less : j ≤ k)
    : Moves (Grows size k) m :=
  fun s => Nat.le_trans (moves s) (Nat.add_le_add_left less (size s))

/-- A sequence grows the state by no more than its two parts together. -/
theorem Moves.grows_bind {m : EStateM ε σ α} {f : α → EStateM ε σ β}
    (first : Moves (Grows size j) m) (next : ∀ a, Moves (Grows size k) (f a))
    : Moves (Grows size (k + j)) (m >>= f) := by
  intro s
  have one : size (final (m s)) ≤ size s + j := first s
  change size (final ((m >>= f) s)) ≤ size s + (k + j)
  cases run : m s with
  | ok a t =>
      rw [run] at one
      rw [bind_ok run]
      have two : size (final (f a t)) ≤ size t + k := next a t
      rw [final] at one
      omega
  | error e t =>
      rw [run] at one
      rw [bind_error run]
      rw [final] at one ⊢
      omega

end Grows

-----------------------------------------------------------------------------------------
-- Programs on a part of the state
-----------------------------------------------------------------------------------------

/-- Runs a program on the part that `view` shows and puts the part it leaves back. -/
def onPart (view : σ → τ) (put : τ → σ → σ) (m : EStateM ε τ α) : EStateM ε σ α := fun s =>
  match m (view s) with
  | .ok a t => .ok a (put t s)
  | .error e t => .error e (put t s)

theorem onPart_ok {view : σ → τ} {put : τ → σ → σ} {m : EStateM ε τ α} {s : σ} {t : τ} {a : α}
    (run : m (view s) = .ok a t) : onPart view put m s = .ok a (put t s) := by
  rw [onPart, run]

theorem onPart_error {view : σ → τ} {put : τ → σ → σ} {m : EStateM ε τ α} {s : σ} {t : τ}
    {e : ε} (run : m (view s) = .error e t)
    : onPart view put m s = .error e (put t s) := by
  rw [onPart, run]

/-- A program on a part moves the whole by putting back what it moved the part to. -/
theorem Moves.onPart {view : σ → τ} {put : τ → σ → σ} {m : EStateM ε τ α}
    {S : τ → τ → Prop} {S' : σ → σ → Prop} (moves : Moves S m)
    (whole : ∀ s t, S (view s) t → S' s (put t s))
    : Moves S' (onPart view put m) := by
  intro s
  have part := moves (view s)
  cases run : m (view s) with
  | ok a t =>
      rw [run] at part
      rw [onPart_ok run]
      exact whole s t part
  | error e t =>
      rw [run] at part
      rw [onPart_error run]
      exact whole s t part

end BigBlackHardware.Library
