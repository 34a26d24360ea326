import Zhixu.Framework.Effect

/-!
# Code that can be killed

An exception lets the code around it clean up; a kill does not. `Mortal` code
runs on a `Life`: the store, and how many more operations complete before the
process dies (`none` when it does not die at all). Every operation on the store
goes through `Mortal.step`, so the choice of the number is the choice of the point
at which the process is killed, and a statement about every `Life` is one about
every such point.

`Mortal.rescue` is `try: … except: …; raise` and `Mortal.ensure` is `try: … finally: …`.
Their clean-up runs after an exception, and an exception of its own replaces the first;
after a kill nothing runs.

`Mortal` code is an `Effect`, so `Effect.Within` applies to it. `Keeps` is the form in
which it is used here: a relation between the stores before and after.
-/

namespace Framework

universe u

/-- Why a piece of code stopped without an answer. -/
inductive Stop (ε : Type u)
  | raised (error : ε)
  | killed
deriving DecidableEq, Repr

/-- A store, and the number of operations on it that still complete. -/
structure Life (σ : Type u) where
  store : σ
  remaining : Option ℕ := none

/-- Code of a process that may be killed between two operations. -/
abbrev Mortal (σ ε : Type u) := Effect (Life σ) (Stop ε)

namespace Mortal

variable {σ ε α β : Type u}

/-- The answer of one operation as the answer of mortal code. -/
def lift (r : Except ε α) : Except (Stop ε) α := r.mapError .raised

/-- One operation on the store. -/
def step (m : Effect σ ε α) : Mortal σ ε α :=
  ExceptT.mk fun life =>
    match life.remaining with
    | none => (lift (m.exec life.store).1, { store := (m.exec life.store).2 })
    | some 0 => (.error .killed, life)
    | some (n + 1) =>
      (lift (m.exec life.store).1, { store := (m.exec life.store).2, remaining := some n })

/-- A computation that does not touch the store. -/
def check (x : Except ε α) : Mortal σ ε α := Effect.check (lift x)

/-- `try: m except: cleanup; raise`. -/
def rescue (m : Mortal σ ε α) (cleanup : Mortal σ ε PUnit) : Mortal σ ε α :=
  ExceptT.mk fun life =>
    match m.exec life with
    | (.ok a, life') => (.ok a, life')
    | (.error .killed, life') => (.error .killed, life')
    | (.error (.raised e), life') =>
      (cleanup >>= fun _ => (throw (Stop.raised e) : Mortal σ ε α)).exec life'

/-- `try: m finally: cleanup`. -/
def ensure (m : Mortal σ ε α) (cleanup : Mortal σ ε PUnit) : Mortal σ ε α := do
  let a ← rescue m cleanup
  cleanup
  return a

/-- Every run leaves a store that the relation allows, wherever it stops. -/
def Keeps (R : σ → σ → Prop) (m : Mortal σ ε α) : Prop :=
  Effect.Within (fun life life' => R life.store life'.store) m

section Keeps

variable {R : σ → σ → Prop}

theorem keeps_step (hrefl : ∀ s, R s s) {m : Effect σ ε α} (h : Effect.Within R m) :
    Keeps R (step m) := by
  intro life
  unfold step Effect.exec
  change R life.store (match life.remaining with
    | none => (lift (m.exec life.store).1, ({ store := (m.exec life.store).2 } : Life σ))
    | some 0 => (.error .killed, life)
    | some (n + 1) =>
      (lift (m.exec life.store).1, { store := (m.exec life.store).2, remaining := some n })).2.store
  rcases life.remaining with _ | _ | n
  · exact h life.store
  · exact hrefl life.store
  · exact h life.store

theorem keeps_pure (hrefl : ∀ s, R s s) (a : α) : Keeps R (pure a : Mortal σ ε α) :=
  fun life => hrefl life.store

theorem keeps_throw (hrefl : ∀ s, R s s) (e : Stop ε) : Keeps R (throw e : Mortal σ ε α) :=
  fun life => hrefl life.store

theorem keeps_check (hrefl : ∀ s, R s s) (x : Except ε α) :
    Keeps R (check x : Mortal σ ε α) :=
  fun life => hrefl life.store

theorem keeps_bind (htrans : ∀ s s' s'', R s s' → R s' s'' → R s s'') {m : Mortal σ ε α}
    {f : α → Mortal σ ε β} (hm : Keeps R m) (hf : ∀ a, Keeps R (f a)) : Keeps R (m >>= f) :=
  Effect.Within.bind (fun s s' s'' => htrans s.store s'.store s''.store) hm hf

theorem exec_rescue (m : Mortal σ ε α) (cleanup : Mortal σ ε PUnit) (life : Life σ) :
    (rescue m cleanup).exec life =
      match m.exec life with
      | (.ok a, life') => (.ok a, life')
      | (.error .killed, life') => (.error .killed, life')
      | (.error (.raised e), life') =>
        (cleanup >>= fun _ => (throw (Stop.raised e) : Mortal σ ε α)).exec life' := rfl

theorem keeps_rescue (hrefl : ∀ s, R s s) (htrans : ∀ s s' s'', R s s' → R s' s'' → R s s'')
    {m : Mortal σ ε α} {cleanup : Mortal σ ε PUnit} (hm : Keeps R m)
    (hcleanup : Keeps R cleanup) : Keeps R (rescue m cleanup) := by
  intro life
  have hlife := hm life
  rw [exec_rescue]
  rcases hr : m.exec life with ⟨r, life'⟩
  rw [hr] at hlife
  rcases r with (e | _) | a
  · -- the clean-up runs from where the exception left the store
    have hthen : Keeps R (cleanup >>= fun _ => (throw (Stop.raised e) : Mortal σ ε α)) :=
      keeps_bind htrans hcleanup fun _ => keeps_throw hrefl _
    exact htrans _ _ _ hlife (hthen life')
  · exact hlife
  · exact hlife

theorem keeps_ensure (hrefl : ∀ s, R s s) (htrans : ∀ s s' s'', R s s' → R s' s'' → R s s'')
    {m : Mortal σ ε α} {cleanup : Mortal σ ε PUnit} (hm : Keeps R m)
    (hcleanup : Keeps R cleanup) : Keeps R (ensure m cleanup) :=
  keeps_bind htrans (keeps_rescue hrefl htrans hm hcleanup) fun a =>
    keeps_bind htrans hcleanup fun _ => keeps_pure hrefl a

end Keeps

end Mortal

end Framework
