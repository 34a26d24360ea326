import Zhixu.Framework.Interference

/-!
# Code that stops anywhere

A `Process` that has the store to itself may still stop before it is through: the machine goes down
between two of its operations, and what the operations so far have written is what there is.
`stoppedAt n` is the store after at most `n` operations, so a statement about every `n` is one about
every point at which the process may stop.

`Stopped G m s` is such a statement, and goes through sequences: a sequence stops in its first half, or,
if that comes to an answer, in its second (`stopped_bind`). A process that is left to run comes to the
answer of the `Effect` it is made of (`Process.effect`).
-/

namespace Framework

universe u

namespace Process

variable {σ ε α β : Type u}

/-- The store after at most `n` operations. -/
def stoppedAt : ℕ → Process σ ε α → σ → σ
  | 0, _, s => s
  | _ + 1, .answer _, s => s
  | n + 1, .step act next, s => stoppedAt n (next s) (act s)

/-- Wherever the process stops, the store is as `G` says. -/
def Stopped (G : σ → Prop) (m : Process σ ε α) (s : σ) : Prop := ∀ n, G (stoppedAt n m s)

variable {G : σ → Prop}

theorem stopped_answer (result : Except ε α) (s : σ) :
    Stopped G (.answer result : Process σ ε α) s ↔ G s := by
  constructor
  · intro h
    exact h 0
  · intro h n
    cases n with
    | zero => exact h
    | succ n => exact h

theorem stopped_step (act : σ → σ) (next : σ → Process σ ε α) (s : σ) :
    Stopped G (.step act next) s ↔ G s ∧ Stopped G (next s) (act s) := by
  constructor
  · intro h
    exact ⟨h 0, fun n => h (n + 1)⟩
  · rintro ⟨hnow, hlater⟩ n
    cases n with
    | zero => exact hnow
    | succ n => exact hlater n

@[simp] theorem stopped_pure (a : α) (s : σ) :
    Stopped G (pure a : Process σ ε α) s ↔ G s := stopped_answer _ s

@[simp] theorem stopped_once (m : Effect σ ε α) (s : σ) :
    Stopped G (once m) s ↔ G s ∧ G (m.exec s).2 := by
  unfold once
  rw [stopped_step, stopped_answer]

/-- A process that has not started. -/
theorem Stopped.start {m : Process σ ε α} {s : σ} (h : Stopped G m s) : G s := h 0

/-- A process that has come to its answer. -/
theorem Stopped.finish {m : Process σ ε α} {s : σ} (h : Stopped G m s) : G (m.effect.exec s).2 := by
  induction m generalizing s with
  | answer result => exact h.start
  | step act next ih => exact ih s ((stopped_step act next s).mp h).2

/-- **Sequences** stop in the first half, or in the second once the first has its answer. -/
theorem stopped_bind (m : Process σ ε α) (f : α → Process σ ε β) (s : σ) :
    Stopped G (m >>= f) s ↔ Stopped G m s ∧
      ∀ a s', m.effect.exec s = (.ok a, s') → Stopped G (f a) s' := by
  induction m generalizing s with
  | answer result =>
    rw [stopped_answer]
    cases result with
    | ok a =>
      constructor
      · intro h
        refine ⟨h.start, fun a' s' hexec => ?_⟩
        obtain ⟨ha, rfl⟩ := Prod.mk.inj hexec
        obtain rfl := Except.ok.inj ha
        exact h
      · rintro ⟨-, h⟩
        exact h a s rfl
    | error e =>
      constructor
      · intro h
        exact ⟨h.start, fun a' s' hexec => absurd (Prod.mk.inj hexec).1 (by simp)⟩
      · rintro ⟨h, -⟩
        exact (stopped_answer _ s).mpr h
  | step act next ih =>
    change Stopped G (.step act fun s => next s >>= f) s ↔ _
    rw [stopped_step, stopped_step, ih s (act s), and_assoc]
    rfl

/-- **A loop** stops as `G` says, if each of its passes does from where `G` holds. -/
theorem stopped_forEach {xs : List α} {body : α → Process σ ε PUnit}
    (hbody : ∀ x ∈ xs, ∀ s, G s → Stopped G (body x) s) {s : σ} (h : G s) :
    Stopped G (forEach xs body) s := by
  induction xs generalizing s with
  | nil => exact (stopped_pure _ s).mpr h
  | cons x xs ih =>
    have hfirst := hbody x (List.mem_cons_self ..) s h
    change Stopped G (body x >>= fun _ => forEach xs body) s
    refine (stopped_bind _ _ s).mpr ⟨hfirst, fun _ s' hexec => ?_⟩
    have hfinish := hfirst.finish
    rw [hexec] at hfinish
    exact ih (fun y hy => hbody y (List.mem_cons_of_mem x hy)) hfinish

/-- A sequence, its first operation behind it. -/
theorem stoppedAt_once_bind (n : ℕ) (m : Effect σ ε α) (f : α → Process σ ε β) (s : σ) :
    stoppedAt (n + 1) (once m >>= f) s =
      match m.exec s with
      | (.ok a, s') => stoppedAt n (f a) s'
      | (.error _, s') => s' := by
  change stoppedAt n (Process.bind (.answer (m.exec s).1) f) (m.exec s).2 = _
  rcases m.exec s with ⟨_ | a, s'⟩
  · cases n with
    | zero => rfl
    | succ n => rfl
  · rfl

/-- What is only worked out behind the last operation is not a place to stop. -/
theorem stopped_bind_pure (m : Process σ ε α) (f : α → β) (s : σ) :
    Stopped G (m >>= fun a => pure (f a)) s ↔ Stopped G m s := by
  rw [stopped_bind]
  constructor
  · exact And.left
  · intro h
    refine ⟨h, fun a s' hexec => ?_⟩
    have hfinish := h.finish
    rw [hexec] at hfinish
    exact (stopped_pure (f a) s').mpr hfinish

end Process

end Framework
