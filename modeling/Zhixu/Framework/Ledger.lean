import Zhixu.Framework.Effect

/-!
# Code with a ledger

A statement about runs often needs to know what a row was written *for*, which the row itself
need not say. A `Ledger` is a store with notes beside it, oldest first. `Effect.noting` runs a
piece of code on the store and, when the code returns, adds the notes that its answer calls for;
`Effect.silently` adds none. Nothing the code does depends on the notes, and taking them away
gives the code back (`exec_noting_store`).
-/

namespace Framework

universe u

/-- A store, and notes about what has happened to it. -/
structure Ledger (σ γ : Type u) where
  store : σ
  notes : List γ

namespace Effect

variable {σ ε α γ : Type u}

/-- The code on the store of a ledger. What it returns is noted. -/
def noting (note : α → List γ) (m : Effect σ ε α) : Effect (Ledger σ γ) ε α :=
  ExceptT.mk fun s =>
    match m.exec s.store with
    | (.ok a, store) => (.ok a, ⟨store, s.notes ++ note a⟩)
    | (.error e, store) => (.error e, ⟨store, s.notes⟩)

/-- The code on the store of a ledger, without a note. -/
def silently (m : Effect σ ε α) : Effect (Ledger σ γ) ε α := noting (fun _ => []) m

theorem exec_noting (note : α → List γ) (m : Effect σ ε α) (s : Ledger σ γ) :
    (noting note m).exec s =
      match m.exec s.store with
      | (.ok a, store) => (.ok a, ⟨store, s.notes ++ note a⟩)
      | (.error e, store) => (.error e, ⟨store, s.notes⟩) := rfl

theorem exec_silently (m : Effect σ ε α) (s : Ledger σ γ) :
    (silently m : Effect (Ledger σ γ) ε α).exec s =
      ((m.exec s.store).1, ⟨(m.exec s.store).2, s.notes⟩) := by
  unfold silently
  rw [exec_noting]
  rcases m.exec s.store with ⟨r, store⟩
  cases r with
  | ok a => simp
  | error e => rfl

/-- **The notes are beside the code.** -/
theorem exec_noting_store (note : α → List γ) (m : Effect σ ε α) (s : Ledger σ γ) :
    (((noting note m).exec s).1, ((noting note m).exec s).2.store) = m.exec s.store := by
  rw [exec_noting]
  rcases m.exec s.store with ⟨r, store⟩
  cases r with
  | ok a => rfl
  | error e => rfl

end Effect

end Framework
