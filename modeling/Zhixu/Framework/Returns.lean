import Zhixu.Framework.Effect

/-!
# Total computations

`Returns x P` says that `x` raises nothing and that what it returns has the property `P`. A sequence
returns if its first part does and the second does for whatever that returns, so the property of a
program follows from those of its parts (`Returns.bind`).
-/

namespace Framework

universe u v

variable {ε : Type u} {α β : Type v}

/-- The computation raises nothing, and its value has the property. -/
def Returns (x : Except ε α) (P : α → Prop) : Prop := ∃ a, x = .ok a ∧ P a

theorem returns_ok {P : α → Prop} {a : α} (h : P a) : Returns (.ok a : Except ε α) P := ⟨a, rfl, h⟩

theorem Returns.mono {x : Except ε α} {P Q : α → Prop} (h : Returns x P) (himp : ∀ a, P a → Q a) :
    Returns x Q := by
  obtain ⟨a, rfl, ha⟩ := h
  exact ⟨a, rfl, himp a ha⟩

theorem Returns.bind {x : Except ε α} {f : α → Except ε β} {P : α → Prop} {Q : β → Prop}
    (h : Returns x P) (hf : ∀ a, P a → Returns (f a) Q) : Returns (x >>= f) Q := by
  obtain ⟨a, rfl, ha⟩ := h
  exact hf a ha

theorem Returns.not_error {x : Except ε α} {P : α → Prop} (h : Returns x P) (e : ε) :
    x ≠ .error e := by
  obtain ⟨a, rfl, -⟩ := h
  exact fun heq => nomatch heq

/-- A guard that is off. -/
theorem raiseIf_bind_of_not {ε α : Type u} {c : Prop} [Decidable c] {e : ε}
    {f : PUnit → Except ε α} (h : ¬ c) : raiseIf c e >>= f = f ⟨⟩ := by
  unfold raiseIf
  rw [if_neg h]
  rfl

end Framework
