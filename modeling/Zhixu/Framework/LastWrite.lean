import Mathlib.Data.List.Induction
import Zhixu.Framework.Machine

/-!
# Registers that keep the last write

A store may keep one value for a key, and let each write replace it. `Machine.Registers` is such a view
of a machine: what is read at a key, and what a call writes and where. A call that writes elsewhere, or
nothing, leaves what is read.

Some values should last: once written, they should be read at every later point of the run (`Lasts`).
A store that keeps the last write grants this only as far as nobody writes over them (`NeverReplaced`),
and `lasts_iff` says that this is all it takes. One direction is an induction on the calls that follow
the write; in the other, the write that replaces the value is itself the point at which it is no longer
read.
-/

namespace Framework

universe u v w x y

namespace Machine

variable {σ : Type u} {ε : Type v} {ο : Type w}

/-- The state that a list of calls leads to. -/
def after (M : Machine σ ε ο) (s : σ) (calls : List ε) : σ := (M.replay (start s) calls).state

@[simp] theorem after_nil (M : Machine σ ε ο) (s : σ) : M.after s [] = s := rfl

theorem after_append (M : Machine σ ε ο) (s : σ) (calls : List ε) (call : ε) :
    M.after s (calls ++ [call]) = (M.exec (M.after s calls) call).2 := by
  unfold after
  rw [replay_append]
  rfl

/-- What is read at a key, and what a call writes. -/
structure Registers (M : Machine σ ε ο) (κ : Type x) (ν : Type y) where
  read : σ → κ → Option ν
  writes : σ → ε → Option (κ × ν)
  read_written : ∀ s call k v, writes s call = some (k, v) → read (M.exec s call).2 k = some v
  read_other : ∀ s call k, (∀ v, writes s call ≠ some (k, v)) → read (M.exec s call).2 k = read s k

namespace Registers

variable {M : Machine σ ε ο} {κ : Type x} {ν : Type y} (R : Registers M κ ν) (p : ν → Prop) (s : σ)
  (calls : List ε)

/-- What has been written and has `p` is read ever after. -/
def Lasts : Prop :=
  ∀ done call later k v, done ++ call :: later <+: calls →
    R.writes (M.after s done) call = some (k, v) → p v →
    R.read (M.after s (done ++ call :: later)) k = some v

/-- What has been written and has `p` is never written over with something else. -/
def NeverReplaced : Prop :=
  ∀ done call between last k v v', done ++ call :: (between ++ [last]) <+: calls →
    R.writes (M.after s done) call = some (k, v) → p v →
    R.writes (M.after s (done ++ call :: between)) last = some (k, v') → v' = v

variable {R p s calls}

/-- **A value lasts** exactly if nothing replaces it. -/
theorem lasts_iff : R.Lasts p s calls ↔ R.NeverReplaced p s calls := by
  constructor
  · intro h done call between last k v v' hprefix hwrites hp hlast
    have hread := h done call (between ++ [last]) k v hprefix hwrites hp
    rw [← List.cons_append, ← List.append_assoc, after_append,
      R.read_written _ _ k v' hlast] at hread
    exact Option.some.inj hread
  · intro h done call later k v
    -- each call behind the write either writes elsewhere or writes the value again
    induction later using List.reverseRecOn with
    | nil =>
      intro _ hwrites _
      rw [after_append]
      exact R.read_written _ _ k v hwrites
    | append_singleton between last ih =>
      intro hprefix hwrites hp
      have hearlier : done ++ call :: between <+: calls := by
        refine List.IsPrefix.trans ⟨[last], ?_⟩ hprefix
        simp
      rw [← List.cons_append, ← List.append_assoc, after_append]
      by_cases hlast : ∃ v', R.writes (M.after s (done ++ call :: between)) last = some (k, v')
      · obtain ⟨v', hlast⟩ := hlast
        rw [R.read_written _ _ k v' hlast, h done call between last k v v' hprefix hwrites hp hlast]
      · rw [R.read_other _ _ k fun v' hv' => hlast ⟨v', hv'⟩]
        exact ih hearlier hwrites hp

end Registers

end Machine

end Framework
