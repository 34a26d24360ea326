import Zhixu.Framework.Effect

/-!
# Code that others interfere with

An `Effect` runs from its first operation to its last with the store to itself. A service
does not: each of its operations on the store is atomic, and between two of them the store
belongs to everybody else. `Process σ ε α` is such code. It either has its answer, or it
performs one atomic operation (`step`) and goes on as the store it found tells it to.

`Process.run others n s` is a run among others: before the operation that is number `m` of
all, counted from `n`, the others turn the store `t` into `others m t`. What they do may depend
on the moment and on the store, so a statement about every `others` is one about every
schedule. A `Run` has the answer, the store at the moment of the answer, and the operations of
the process itself, each with the store it found and the store it left. The last of these is
there for statements about who did what: nothing in a process looks at it.

* `run_bind` evaluates a sequence, `run_once_bind` one that begins with an atomic operation, and
  `run_forEach_cons` a loop.
* `run_alone` connects the two: a process without others runs like the `Effect` it is made of.
* `Steps R` says that every operation of a process stays within a relation, whatever store it
  finds. It goes through sequences and loops, and gives what the whole run preserves
  (`Steps.store`) and what each of its own operations did (`Steps.own`).
-/

namespace Framework

universe u

/-- Code whose operations on the store are atomic, one by one. `next` goes on from the store that
the operation found. -/
inductive Process (σ ε α : Type u)
  | answer (result : Except ε α)
  | step (act : σ → σ) (next : σ → Process σ ε α)

/-- A run of a process among others. -/
structure Run (σ ε α : Type u) where
  answer : Except ε α
  store : σ
  own : List (σ × σ)

/-- A run that one more operation of the process came before. -/
def Run.after {σ ε α : Type u} (operation : σ × σ) (r : Run σ ε α) : Run σ ε α :=
  { r with own := operation :: r.own }

namespace Process

variable {σ ε α β : Type u}

protected def bind : Process σ ε α → (α → Process σ ε β) → Process σ ε β
  | .answer (.ok a), f => f a
  | .answer (.error e), _ => .answer (.error e)
  | .step act next, f => .step act fun s => (next s).bind f

instance : Monad (Process σ ε) where
  pure a := .answer (.ok a)
  bind := Process.bind

/-- `raise e`. -/
def raise (e : ε) : Process σ ε α := .answer (.error e)

/-- A whole piece of code as one atomic operation. -/
def once (m : Effect σ ε α) : Process σ ε α :=
  .step (fun s => (m.exec s).2) fun s => .answer (m.exec s).1

/-- One transaction. -/
def atomically (t : Transaction σ ε α) : Process σ ε α := once (Effect.atomically t)

/-- A read, which may raise and writes nothing. -/
def query (f : σ → Except ε α) : Process σ ε α := once (Effect.query f)

/-- A computation that does not touch the store. -/
def check (x : Except ε α) : Process σ ε α := .answer x

/-- The `for` loop over a list. -/
def forEach (xs : List α) (body : α → Process σ ε PUnit) : Process σ ε PUnit :=
  match xs with
  | [] => pure ⟨⟩
  | x :: xs => do body x; forEach xs body

/-- The process with the store to itself. -/
def effect : Process σ ε α → Effect σ ε α
  | .answer result => Effect.check result
  | .step act next => ExceptT.mk fun s => (next s).effect.exec (act s)

/-! ### Runs -/

/-- The run of a process among others, from operation number `n` on. -/
def run (others : ℕ → σ → σ) : Process σ ε α → ℕ → σ → Run σ ε α
  | .answer result, _, s => ⟨result, s, []⟩
  | .step act next, n, s =>
    ((next (others n s)).run others (n + 1) (act (others n s))).after
      (others n s, act (others n s))

variable {others : ℕ → σ → σ}

@[simp] theorem run_check (x : Except ε α) (n : ℕ) (s : σ) :
    (check x).run others n s = ⟨x, s, []⟩ := rfl

@[simp] theorem run_pure (a : α) (n : ℕ) (s : σ) :
    (pure a : Process σ ε α).run others n s = ⟨.ok a, s, []⟩ := rfl

@[simp] theorem run_raise (e : ε) (n : ℕ) (s : σ) :
    (raise e : Process σ ε α).run others n s = ⟨.error e, s, []⟩ := rfl

@[simp] theorem run_once (m : Effect σ ε α) (n : ℕ) (s : σ) :
    (once m).run others n s =
      ⟨(m.exec (others n s)).1, (m.exec (others n s)).2,
        [(others n s, (m.exec (others n s)).2)]⟩ := rfl

/-- **Sequences.** The second half starts where the first one left the store, and the others are
as many operations further on. -/
theorem run_bind (m : Process σ ε α) (f : α → Process σ ε β) (n : ℕ) (s : σ) :
    (m >>= f).run others n s =
      match (m.run others n s).answer with
      | .ok a =>
        { answer := ((f a).run others (n + (m.run others n s).own.length)
            (m.run others n s).store).answer
          store := ((f a).run others (n + (m.run others n s).own.length)
            (m.run others n s).store).store
          own := (m.run others n s).own ++
            ((f a).run others (n + (m.run others n s).own.length) (m.run others n s).store).own }
      | .error e => ⟨.error e, (m.run others n s).store, (m.run others n s).own⟩ := by
  induction m generalizing n s with
  | answer result =>
    cases result with
    | ok a => rfl
    | error e => rfl
  | step act next ih =>
    have hnext := ih (others n s) (n + 1) (act (others n s))
    change (((next (others n s)) >>= f).run others (n + 1) (act (others n s))).after _ = _
    rw [hnext]
    change _ = match ((next (others n s)).run others (n + 1) (act (others n s))).answer with
      | .ok a => _
      | .error e => _
    have hlength : n + (((next (others n s)).run others (n + 1) (act (others n s))).after
        (others n s, act (others n s))).own.length =
          n + 1 + ((next (others n s)).run others (n + 1) (act (others n s))).own.length := by
      show n + (_ + 1) = _
      omega
    cases hr : ((next (others n s)).run others (n + 1) (act (others n s))).answer with
    | error e => rfl
    | ok a =>
      simp only [run]
      rw [hlength]
      rfl

/-- A computation ends the code or passes its value on. -/
theorem run_check_bind (x : Except ε α) (f : α → Process σ ε β) (n : ℕ) (s : σ) :
    (check x >>= f).run others n s =
      match x with
      | .ok a => (f a).run others n s
      | .error e => ⟨.error e, s, []⟩ := by
  cases x with
  | ok a => rfl
  | error e => rfl

/-- **An atomic operation and what comes after it.** -/
theorem run_once_bind (m : Effect σ ε α) (f : α → Process σ ε β) (n : ℕ) (s : σ) :
    (once m >>= f).run others n s =
      match m.exec (others n s) with
      | (.ok a, s') => ((f a).run others (n + 1) s').after (others n s, s')
      | (.error e, s') => ⟨.error e, s', [(others n s, s')]⟩ := by
  have hrun : (once m >>= f).run others n s =
      (((Process.answer (m.exec (others n s)).1) >>= f).run others (n + 1)
        (m.exec (others n s)).2).after (others n s, (m.exec (others n s)).2) := rfl
  rw [hrun]
  rcases m.exec (others n s) with ⟨r, s'⟩
  cases r with
  | ok a => rfl
  | error e => rfl

theorem run_query_bind (g : σ → Except ε α) (f : α → Process σ ε β) (n : ℕ) (s : σ) :
    (query g >>= f).run others n s =
      match g (others n s) with
      | .ok a => ((f a).run others (n + 1) (others n s)).after (others n s, others n s)
      | .error e => ⟨.error e, others n s, [(others n s, others n s)]⟩ := by
  unfold query
  rw [run_once_bind, Effect.exec_query]
  cases g (others n s) with
  | ok a => rfl
  | error e => rfl

@[simp] theorem run_forEach_nil (body : α → Process σ ε PUnit) (n : ℕ) (s : σ) :
    (forEach [] body).run others n s = ⟨.ok ⟨⟩, s, []⟩ := rfl

/-- **Loops.** -/
theorem run_forEach_cons (x : α) (xs : List α) (body : α → Process σ ε PUnit) (n : ℕ) (s : σ) :
    (forEach (x :: xs) body).run others n s =
      (body x >>= fun _ => forEach xs body).run others n s := rfl

/-! ### A process on its own -/

theorem effect_bind (m : Process σ ε α) (f : α → Process σ ε β) (s : σ) :
    (m >>= f).effect.exec s = (m.effect >>= fun a => (f a).effect).exec s := by
  rw [Effect.exec_bind]
  induction m generalizing s with
  | answer result =>
    cases result with
    | ok a => rfl
    | error e => rfl
  | step act next ih => exact ih s (act s)

/-- What is only worked out at the end leaves the store. -/
theorem store_bind_pure (m : Process σ ε α) (f : α → β) (s : σ) :
    ((m >>= fun a => pure (f a)).effect.exec s).2 = (m.effect.exec s).2 := by
  rw [effect_bind, Effect.exec_bind]
  rcases m.effect.exec s with ⟨_ | _, s'⟩
  · rfl
  · rfl

@[simp] theorem effect_once (m : Effect σ ε α) (s : σ) : (once m).effect.exec s = m.exec s := rfl

@[simp] theorem effect_check (x : Except ε α) (s : σ) :
    (check x : Process σ ε α).effect.exec s = (x, s) := rfl

theorem effect_forEach (xs : List α) (body : α → Process σ ε PUnit) (s : σ) :
    (forEach xs body).effect.exec s = (Effect.forEach xs fun x => (body x).effect).exec s := by
  induction xs generalizing s with
  | nil => rfl
  | cons x xs ih =>
    rw [Effect.exec_forEach_cons]
    change ((body x) >>= fun _ => forEach xs body).effect.exec s = _
    rw [effect_bind, Effect.exec_bind]
    rcases (body x).effect.exec s with ⟨r, s'⟩
    cases r with
    | ok a => exact ih s'
    | error e => rfl

/-- **A process without others** runs like the `Effect` it is made of. -/
theorem run_alone (m : Process σ ε α) (n : ℕ) (s : σ) :
    ((m.run (fun _ t => t) n s).answer, (m.run (fun _ t => t) n s).store) = m.effect.exec s := by
  induction m generalizing n s with
  | answer result => rfl
  | step act next ih => exact ih s (n + 1) (act s)

/-! ### What every operation of a process does -/

/-- Every operation of the process stays within the relation, whatever store it finds. -/
def Steps (R : σ → σ → Prop) : Process σ ε α → Prop
  | .answer _ => True
  | .step act next => ∀ s, R s (act s) ∧ (next s).Steps R

namespace Steps

variable {R : σ → σ → Prop}

theorem once {m : Effect σ ε α} (h : Effect.Within R m) : Steps R (Process.once m) :=
  fun s => ⟨h s, trivial⟩

theorem check (x : Except ε α) : Steps R (Process.check x : Process σ ε α) := trivial

theorem bind {m : Process σ ε α} {f : α → Process σ ε β} (hm : Steps R m)
    (hf : ∀ a, Steps R (f a)) : Steps R (m >>= f) := by
  induction m with
  | answer result =>
    cases result with
    | ok a => exact hf a
    | error e => exact trivial
  | step act next ih => exact fun s => ⟨(hm s).1, ih s (hm s).2⟩

theorem forEach {xs : List α} {body : α → Process σ ε PUnit} (hbody : ∀ x, Steps R (body x)) :
    Steps R (Process.forEach xs body) := by
  induction xs with
  | nil => exact trivial
  | cons x xs ih => exact Steps.bind (hbody x) fun _ => ih

/-- Each own operation of a run. -/
theorem own {m : Process σ ε α} (h : Steps R m) (n : ℕ) (s : σ) :
    ∀ operation ∈ (m.run others n s).own, R operation.1 operation.2 := by
  induction m generalizing n s with
  | answer result => exact fun operation hmem => absurd hmem List.not_mem_nil
  | step act next ih =>
    intro operation hmem
    rcases List.mem_cons.mp hmem with rfl | hlater
    · exact (h (others n s)).1
    · exact ih (others n s) (h (others n s)).2 (n + 1) (act (others n s)) operation hlater

/-- **What the process and the others preserve**, the run preserves. -/
theorem store {m : Process σ ε α} (h : Steps R m) (hrefl : ∀ s, R s s)
    (htrans : ∀ s s' s'', R s s' → R s' s'' → R s s'') (hothers : ∀ n s, R s (others n s)) (n : ℕ)
    (s : σ) : R s (m.run others n s).store := by
  induction m generalizing n s with
  | answer result => exact hrefl s
  | step act next ih =>
    have hown := (h (others n s)).1
    have hlater := ih (others n s) (h (others n s)).2 (n + 1) (act (others n s))
    exact htrans _ _ _ (hothers n s) (htrans _ _ _ hown hlater)

end Steps

end Process

end Framework
