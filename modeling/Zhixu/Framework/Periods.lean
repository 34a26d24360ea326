import Mathlib.Algebra.Order.BigOperators.Group.List
import Mathlib.Algebra.Ring.Int.Defs

/-!
# Periods one behind the other

Time is cut into periods of given lengths, and a day is named by the number of its period and the days
since that began (`Periods.At`). Every day up to the end of the last period has such a name
(`exists_at`), and the days are in the order of their names (`At.lt`). Nothing is asked of the lengths
but that none is negative.
-/

namespace Framework

namespace Periods

/-- The day is day `rest` of period `i`, both counted from 0. -/
def At (lengths : List Int) (day : Int) (i : ℕ) (rest : Int) : Prop :=
  ∃ length, lengths[i]? = some length ∧ 0 ≤ rest ∧ rest < length ∧
    day = (lengths.take i).sum + rest

variable {length day day' rest rest' : Int} {lengths : List Int} {i i' : ℕ}

theorem at_zero : At (length :: lengths) day 0 rest ↔ 0 ≤ rest ∧ rest < length ∧ day = rest := by
  unfold At
  simp

theorem at_succ : At (length :: lengths) day (i + 1) rest ↔ At lengths (day - length) i rest := by
  unfold At
  simp only [List.getElem?_cons_succ, List.take_succ_cons, List.sum_cons]
  constructor
  · rintro ⟨l, hl, hpos, hlt, rfl⟩
    exact ⟨l, hl, hpos, hlt, by omega⟩
  · rintro ⟨l, hl, hpos, hlt, hday⟩
    exact ⟨l, hl, hpos, hlt, by omega⟩

/-- Every day is in a period. -/
theorem exists_at (h0 : 0 ≤ day) (h : day < lengths.sum) : ∃ i rest, At lengths day i rest := by
  induction lengths generalizing day with
  | nil =>
    rw [List.sum_nil] at h
    exact absurd h0 (not_le.mpr h)
  | cons length lengths ih =>
    by_cases hfirst : day < length
    · exact ⟨0, day, at_zero.mpr ⟨h0, hfirst, rfl⟩⟩
    · rw [List.sum_cons] at h
      obtain ⟨i, rest, hat⟩ := @ih (day - length) (by omega) (by omega)
      exact ⟨i + 1, rest, at_succ.mpr hat⟩

section Nonneg

variable (hnonneg : ∀ length ∈ lengths, 0 ≤ length)

include hnonneg

theorem At.bounds (h : At lengths day i rest) : 0 ≤ day ∧ day < lengths.sum := by
  induction lengths generalizing day i with
  | nil =>
    obtain ⟨length, hlength, -⟩ := h
    exact absurd hlength (by simp)
  | cons length lengths ih =>
    have hrest : ∀ other ∈ lengths, 0 ≤ other := fun other hother =>
      hnonneg other (List.mem_cons_of_mem _ hother)
    have hsum := List.sum_nonneg hrest
    have hlength := hnonneg length (List.mem_cons_self ..)
    rw [List.sum_cons]
    cases i with
    | zero =>
      obtain ⟨hpos, hlt, rfl⟩ := at_zero.mp h
      omega
    | succ i =>
      obtain ⟨hpos, hlt⟩ := ih hrest (at_succ.mp h)
      omega

/-- **The days are in the order of their periods**, and in one period in the order of its days. -/
theorem At.lt (h : At lengths day i rest) (h' : At lengths day' i' rest')
    (hlt : i < i' ∨ i = i' ∧ rest < rest') : day < day' := by
  induction lengths generalizing day day' i i' with
  | nil =>
    obtain ⟨length, hlength, -⟩ := h
    exact absurd hlength (by simp)
  | cons length lengths ih =>
    have hrest : ∀ other ∈ lengths, 0 ≤ other := fun other hother =>
      hnonneg other (List.mem_cons_of_mem _ hother)
    cases i with
    | zero =>
      obtain ⟨hpos, hday, rfl⟩ := at_zero.mp h
      cases i' with
      | zero =>
        obtain ⟨-, -, rfl⟩ := at_zero.mp h'
        omega
      | succ i' =>
        -- the later period begins behind the end of the first
        obtain ⟨hbehind, -⟩ := At.bounds hrest (at_succ.mp h')
        omega
    | succ i =>
      cases i' with
      | zero => omega
      | succ i' =>
        have hearlier := ih hrest (at_succ.mp h) (at_succ.mp h') (by omega)
        omega

end Nonneg

end Periods

end Framework
