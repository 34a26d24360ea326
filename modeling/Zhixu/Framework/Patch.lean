import Mathlib.Data.Option.Basic

/-!
# Records with fields, and patches

An update that is handed new values for some fields of a record and keeps the others is a
`Patch`. `Patch.Applied` says that a record is what a patch makes of another one, and
`Patch.Carried` that a record has all the values of a patch.

What a patch does to the values of another one is decided by the fields they touch. When
they are `Disjoint`, applying one neither brings nor removes the values of the other
(`Applied.carried_iff`), so after two patches have been applied to the *same* record, the
values of the first are there only if they were there before.
-/

namespace Framework

universe u

/-- The fields of a type of records. -/
structure Fields (ρ : Type u) where
  Field : Type
  Value : Field → Type
  get : (field : Field) → ρ → Value field

/-- New values for some of the fields. -/
def Patch {ρ : Type u} (fields : Fields ρ) :=
  (field : fields.Field) → Option (fields.Value field)

namespace Patch

variable {ρ : Type u} {fields : Fields ρ} (p q : Patch fields) {before after : ρ}

/-- The second record has the values of the patch, and else those of the first. -/
def Applied (before after : ρ) : Prop :=
  ∀ field, fields.get field after = (p field).getD (fields.get field before)

/-- The record has every value of the patch. -/
def Carried (record : ρ) : Prop :=
  ∀ field value, p field = some value → fields.get field record = value

/-- No field is touched by both. -/
def Disjoint : Prop := ∀ field, p field = none ∨ q field = none

variable {p q}

theorem Disjoint.symm (h : p.Disjoint q) : q.Disjoint p := fun field => (h field).symm

theorem Applied.carried (h : p.Applied before after) : p.Carried after := by
  intro field value hvalue
  rw [h field, hvalue]
  rfl

/-- **A patch leaves the fields of a disjoint one alone.** -/
theorem Applied.carried_iff (h : q.Applied before after) (hdisjoint : p.Disjoint q) :
    p.Carried after ↔ p.Carried before := by
  have hsame : ∀ field value, p field = some value →
      fields.get field after = fields.get field before := by
    intro field value hvalue
    have hother : q field = none := by
      rcases hdisjoint field with hnone | hnone
      · rw [hvalue] at hnone
        cases hnone
      · exact hnone
    rw [h field, hother]
    rfl
  constructor
  · intro hcarried field value hvalue
    rw [← hsame field value hvalue]
    exact hcarried field value hvalue
  · intro hcarried field value hvalue
    rw [hsame field value hvalue]
    exact hcarried field value hvalue

end Patch

end Framework
