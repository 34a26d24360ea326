import Mathlib.Logic.Relation
import Zhixu.Framework.Interference

/-!
# Code among others that keep a promise

A `Process` performs its operations one by one, and between two of them the store is everybody
else's. What it achieves then rests on what the others may do (`rely`), and what they achieve rests on
what it may do (`guar`). `Under rely guar Q m s` says that the process `m`, left in the store `s`,

* keeps every one of its operations within `guar`, in whatever store it finds, as long as the others
  have led there from the last store it left (`rely`), and
* answers, where it answers at all, with a value and in a store that meet `Q`.

A process that raises has promised nothing, and one that is killed has kept its promise so far: the
statement is about each operation as it comes, so it holds from the beginning to any point.

`Under.bind`, `Under.once` and `Under.countEach` are the rules for sequences, atomic operations and
loops. `Under.reads` is the one for code that only reads, as most code does most of the time.

`Interleaved` is the system of any number of such processes. Each is started by its first operation,
goes on whenever it is its turn, and may be killed at any moment. Where every program keeps the
promise that it relies on, `Interleaved.keeps` puts the statements about one process together: in
every state that is reached, each process is still `Under` the promise, so what it has answered by
then meets its `Q`. A process is remembered with the store that its first operation found, for `Q`
is about what was the case then.
-/

namespace Framework

universe u

namespace Process

/-- The `for` loop that adds up what its passes return. -/
def countEach {σ ε α : Type} (xs : List α) (body : α → Process σ ε ℕ) : Process σ ε ℕ :=
  match xs with
  | [] => pure 0
  | x :: xs => do
    let first ← body x
    let rest ← countEach xs body
    return first + rest

section Under

variable {σ ε α β : Type u} (rely guar : σ → σ → Prop)

/-- **The process keeps its promise among others that keep theirs.** -/
def Under (Q : α → σ → Prop) : Process σ ε α → σ → Prop
  | .answer (.ok a), s => Q a s
  | .answer (.error _), _ => True
  | .step act next, s => ∀ s', rely s s' → guar s' (act s') ∧ (next s').Under Q (act s')

variable {rely guar} {Q : α → σ → Prop}

namespace Under

theorem pure {a : α} {s : σ} (h : Q a s) : Under rely guar Q (pure a : Process σ ε α) s := h

theorem raise (e : ε) (s : σ) : Under rely guar Q (Process.raise e : Process σ ε α) s := trivial

theorem mono {Q' : α → σ → Prop} {m : Process σ ε α} {s : σ} (h : Under rely guar Q m s)
    (hQ : ∀ a s, Q a s → Q' a s) : Under rely guar Q' m s := by
  induction m generalizing s with
  | answer result =>
    cases result with
    | ok a => exact hQ a s h
    | error e => trivial
  | step act next ih =>
    intro s' hrely
    obtain ⟨hguar, hnext⟩ := h s' hrely
    exact ⟨hguar, ih s' hnext⟩

/-- **Sequences.** -/
theorem bind {R : β → σ → Prop} {m : Process σ ε α} {f : α → Process σ ε β} {s : σ}
    (h : Under rely guar (fun a s => Under rely guar R (f a) s) m s) :
    Under rely guar R (m >>= f) s := by
  induction m generalizing s with
  | answer result =>
    cases result with
    | ok a => exact h
    | error e => trivial
  | step act next ih =>
    intro s' hrely
    obtain ⟨hguar, hnext⟩ := h s' hrely
    exact ⟨hguar, ih s' hnext⟩

/-- A computation that does not touch the store. -/
theorem check {x : Except ε α} {s : σ} (h : ∀ a, x = .ok a → Q a s) :
    Under rely guar Q (Process.check x) s := by
  cases x with
  | ok a => exact h a rfl
  | error e => trivial

/-- **Atomic operations.** -/
theorem once {m : Effect σ ε α} {s : σ}
    (h : ∀ s', rely s s' → guar s' (m.exec s').2 ∧
      ∀ a, (m.exec s').1 = .ok a → Q a (m.exec s').2) :
    Under rely guar Q (Process.once m) s := by
  intro s' hrely
  obtain ⟨hguar, hanswer⟩ := h s' hrely
  refine ⟨hguar, ?_⟩
  show Under rely guar Q (.answer (m.exec s').1) (m.exec s').2
  cases hexec : (m.exec s').1 with
  | ok a => exact hanswer a hexec
  | error e => trivial

/-- A read. -/
theorem query {f : σ → Except ε α} {s : σ} (hrefl : ∀ s, guar s s)
    (h : ∀ s', rely s s' → ∀ a, f s' = .ok a → Q a s') :
    Under rely guar Q (Process.query f) s :=
  once fun s' hrely => ⟨hrefl s', h s' hrely⟩

/-- A transaction. -/
theorem atomically {t : Transaction σ ε α} {s : σ} (hrefl : ∀ s, guar s s)
    (h : ∀ s' a s'', rely s s' → t s' = .ok (a, s'') → guar s' s'' ∧ Q a s'') :
    Under rely guar Q (Process.atomically t) s := by
  refine once fun s' hrely => ?_
  rw [Effect.exec_atomically, StateT.run]
  cases ht : t s' with
  | error e => exact ⟨hrefl s', fun a ha => by cases ha⟩
  | ok outcome =>
    obtain ⟨a, s''⟩ := outcome
    obtain ⟨hguar, hanswer⟩ := h s' a s'' hrely ht
    refine ⟨hguar, fun a' ha => ?_⟩
    obtain rfl := Except.ok.inj ha
    exact hanswer

/-- **Code that only reads** leaves the store to the others. -/
theorem reads {R : σ → σ → Prop} {m : Process σ ε α} (hm : Steps (fun s s' => s' = s) m)
    (hguar : ∀ s, guar s s) (hrefl : ∀ s, R s s) (htrans : ∀ s s' s'', R s s' → R s' s'' → R s s'')
    (hrely : ∀ s s', rely s s' → R s s') (s : σ) :
    Under rely guar (fun _ s' => R s s') m s := by
  induction m generalizing s with
  | answer result =>
    cases result with
    | ok a => exact hrefl s
    | error e => trivial
  | step act next ih =>
    intro s' hothers
    obtain ⟨hsame, hnext⟩ := hm s'
    rw [hsame]
    refine ⟨hguar s', (ih s' hnext s').mono fun _ s'' hlater => ?_⟩
    exact htrans s s' s'' (hrely s s' hothers) hlater

end Under

end Under

/-- **Loops.** `J` says where the loop stands before the passes that are left. -/
theorem Under.countEach {σ ε α : Type} {rely guar : σ → σ → Prop} {body : α → Process σ ε ℕ}
    {J : List α → σ → Prop} {xs : List α} {s : σ} (hJ : J xs s)
    (hpass : ∀ x rest s, J (x :: rest) s → Under rely guar (fun _ s' => J rest s') (body x) s) :
    Under rely guar (fun _ s' => J [] s') (countEach xs body) s := by
  induction xs generalizing s with
  | nil => exact hJ
  | cons x rest ih =>
    refine Under.bind ((hpass x rest s hJ).mono fun _ s' hrest => ?_)
    exact Under.bind ((ih hrest).mono fun _ s'' hdone => hdone)

/-! ### Any number of processes -/

/-- What is promised about a store stays so among others. -/
theorem Under.stable {σ ε α : Type u} {rely guar : σ → σ → Prop} {Q : α → σ → Prop}
    {m : Process σ ε α} {s s' : σ} (htrans : ∀ s s' s'', rely s s' → rely s' s'' → rely s s'')
    (hQ : ∀ a s s', rely s s' → Q a s → Q a s') (h : Under rely guar Q m s) (hrely : rely s s') :
    Under rely guar Q m s' := by
  cases m with
  | answer result =>
    cases result with
    | ok a => exact hQ a s s' hrely h
    | error e => trivial
  | step act next => exact fun s'' hlater => h s'' (htrans s s' s'' hrely hlater)

/-- A process that was started: for what, on which store, and what is left of it. -/
structure Started (ι σ ε α : Type u) where
  input : ι
  found : σ
  rest : Process σ ε α

/-- **Any number of processes among others.** -/
inductive Interleaved {ι σ ε α : Type u} (R : σ → σ → Prop) (program : ι → Process σ ε α) :
    σ × List (Started ι σ ε α) → σ × List (Started ι σ ε α) → Prop
  | others {s s' started} (h : R s s') : Interleaved R program (s, started) (s', started)
  | start {i s act next started} (h : program i = .step act next) :
    Interleaved R program (s, started) (act s, ⟨i, s, next s⟩ :: started)
  | operate {i found act next s before after} :
    Interleaved R program (s, before ++ ⟨i, found, .step act next⟩ :: after)
      (act s, before ++ ⟨i, found, next s⟩ :: after)
  | kill {p s before after} : Interleaved R program (s, before ++ p :: after) (s, before ++ after)

namespace Interleaved

variable {ι σ ε α : Type u} {R : σ → σ → Prop} {program : ι → Process σ ε α} {I : σ → Prop}
  {Q : ι → σ → α → σ → Prop}

/-- The store keeps the invariant, and each process its promise. -/
def Kept (R : σ → σ → Prop) (I : σ → Prop) (Q : ι → σ → α → σ → Prop)
    (state : σ × List (Started ι σ ε α)) : Prop :=
  I state.1 ∧ ∀ p ∈ state.2, Under R R (Q p.input p.found) p.rest state.1

variable (hrefl : ∀ s, R s s) (htrans : ∀ s s' s'', R s s' → R s' s'' → R s s'')
  (hI : ∀ s s', R s s' → I s → I s') (hQ : ∀ i found a s s', R s s' → Q i found a s → Q i found a s')
  (hprogram : ∀ i act next s, program i = .step act next → I s →
    R s (act s) ∧ Under R R (Q i s) (next s) (act s))
include hrefl htrans hI hQ hprogram

/-- One step. The operation of one process is, for all the others, what they rely on. -/
theorem step {x y : σ × List (Started ι σ ε α)} (h : Interleaved R program x y)
    (hx : Kept R I Q x) : Kept R I Q y := by
  have hstable : ∀ (p : Started ι σ ε α) (s s' : σ), R s s' →
      Under R R (Q p.input p.found) p.rest s → Under R R (Q p.input p.found) p.rest s' :=
    fun p s s' hs hp => hp.stable htrans (hQ p.input p.found) hs
  obtain ⟨hinv, hall⟩ := hx
  cases h with
  | others hs => exact ⟨hI _ _ hs hinv, fun p hp => hstable p _ _ hs (hall p hp)⟩
  | start hfirst =>
    obtain ⟨hguar, hrest⟩ := hprogram _ _ _ _ hfirst hinv
    refine ⟨hI _ _ hguar hinv, fun p hp => ?_⟩
    rcases List.mem_cons.mp hp with rfl | hp
    · exact hrest
    · exact hstable p _ _ hguar (hall p hp)
  | operate =>
    obtain ⟨hguar, hrest⟩ := hall _ (List.mem_append_right _ List.mem_cons_self) _ (hrefl _)
    refine ⟨hI _ _ hguar hinv, fun p hp => ?_⟩
    rcases List.mem_append.mp hp with hp | hp
    · exact hstable p _ _ hguar (hall p (List.mem_append_left _ hp))
    · rcases List.mem_cons.mp hp with rfl | hp
      · exact hrest
      · exact hstable p _ _ hguar (hall p (List.mem_append_right _ (List.mem_cons_of_mem _ hp)))
  | kill =>
    refine ⟨hinv, fun p hp => hall p ?_⟩
    rcases List.mem_append.mp hp with hp | hp
    · exact List.mem_append_left _ hp
    · exact List.mem_append_right _ (List.mem_cons_of_mem _ hp)

/-- **Every state that is reached.** -/
theorem keeps {s₀ : σ} {y : σ × List (Started ι σ ε α)} (h₀ : I s₀)
    (hrun : Relation.ReflTransGen (Interleaved R program) (s₀, []) y) : Kept R I Q y := by
  induction hrun with
  | refl => exact ⟨h₀, fun p hp => absurd hp List.not_mem_nil⟩
  | tail _ hstep ih => exact step hrefl htrans hI hQ hprogram hstep ih

end Interleaved

end Process

end Framework
