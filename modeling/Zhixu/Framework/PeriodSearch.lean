import Mathlib.Data.Int.ConditionallyCompleteOrder
import Mathlib.Order.ConditionallyCompleteLattice.Indexed
import Mathlib.Order.Bounds.Basic
import Mathlib.Order.Interval.Set.Defs
import Mathlib.Tactic.ByContra

/-!
# Looking for the next date by its period

A recurrence is a set `S` of dates, and every date is in a period: `period` is monotone, but a period
may have any number of the dates. A common way to find the next date of `S` keeps one candidate for a
period, the first, and asks for the candidate of the present period and then for that of the next one
(`FoundBy`).

What it finds is the next date only sometimes. The candidate of a period stands for all the dates of
it, which fails when the first has passed and another has not (`PassTogether`), and a date further
ahead than the next period is never looked at (`ComesSoon`). `foundBy_isLeast_iff` says that these are
the only ways to go wrong.
-/

namespace Framework

universe u

section PeriodSearch

variable {α : Type u} [LinearOrder α] {S : Set α} {period : α → Int}

/-- The first date of a period. -/
def FirstIn (S : Set α) (period : α → Int) (p : Int) (d : α) : Prop :=
  IsLeast {e | e ∈ S ∧ period e = p} d

/-- The candidate of a period: the first date of it, and none only where there is no date. -/
structure Picks (S : Set α) (period : α → Int) (p : Int) (candidate : Option α) : Prop where
  first : ∀ d, candidate = some d → FirstIn S period p d
  empty : candidate = none → ∀ d ∈ S, period d ≠ p

/-- What the search finds: the candidate of the present period if it has not passed, else that of the
next one. -/
def FoundBy (S : Set α) (period : α → Int) (today d : α) : Prop :=
  (FirstIn S period (period today) d ∧ today ≤ d) ∨
    ((∀ e, FirstIn S period (period today) e → ¬ today ≤ e) ∧
      FirstIn S period (period today + 1) d ∧ today ≤ d)

/-- The dates of the present period have passed or lie ahead, all of them. -/
def PassTogether (S : Set α) (period : α → Int) (today : α) : Prop :=
  ∀ d ∈ S, ∀ e ∈ S, period d = period today → period e = period today → d < today → e < today

/-- There is a date ahead, in the present period or in the next one. -/
def ComesSoon (S : Set α) (period : α → Int) (today : α) : Prop :=
  ∃ d ∈ S, today ≤ d ∧ period d ≤ period today + 1

theorem FirstIn.unique {p : Int} {d e : α} (hd : FirstIn S period p d)
    (he : FirstIn S period p e) : d = e :=
  IsLeast.unique hd he

theorem Picks.eq_some_iff {p : Int} {candidate : Option α} (h : Picks S period p candidate) {d : α} :
    candidate = some d ↔ FirstIn S period p d := by
  refine ⟨h.first d, fun hd => ?_⟩
  cases hc : candidate with
  | none => exact absurd hd.1.2 (h.empty hc d hd.1.1)
  | some e => rw [(h.first e hc).unique hd]

variable {today : α}

/-- **The search finds the next date** exactly if the dates of the present period pass together and
one comes soon. -/
theorem foundBy_isLeast_iff (hmono : Monotone period) :
    (∃ n, IsLeast {d | d ∈ S ∧ today ≤ d} n ∧ FoundBy S period today n) ↔
      ((∃ n, IsLeast {d | d ∈ S ∧ today ≤ d} n) ∧ PassTogether S period today ∧
        ComesSoon S period today) := by
  constructor
  · rintro ⟨n, hleast, hfound⟩
    refine ⟨⟨n, hleast⟩, ?_⟩
    rcases hfound with ⟨hfirst, hle⟩ | ⟨-, hfirst, hle⟩
    · -- the first of the period is ahead, so none of the period has passed
      refine ⟨fun d hd e _ hdp _ hlt => ?_, n, hleast.1.1, hle, ?_⟩
      · exact absurd (hfirst.2 ⟨hd, hdp⟩) (not_le.mpr (hlt.trans_le hle))
      · rw [hfirst.1.2]
        exact (Int.lt_succ _).le
    · -- the next date is in the next period, so none of the present one is ahead
      refine ⟨fun d _ e he _ hep _ => ?_, n, hleast.1.1, hle, hfirst.1.2.le⟩
      by_contra hahead
      have hne : n ≤ e := hleast.2 ⟨he, not_lt.mp hahead⟩
      have hperiod := hmono hne
      rw [hfirst.1.2, hep] at hperiod
      exact absurd hperiod (not_le.mpr (Int.lt_succ _))
  · rintro ⟨⟨n, hleast⟩, htogether, d, hd, hahead, hsoon⟩
    refine ⟨n, hleast, ?_⟩
    have hbelow : period n ≤ period today + 1 := (hmono (hleast.2 ⟨hd, hahead⟩)).trans hsoon
    -- whatever is ahead comes after the next date
    have hfirst_of : ∀ e, e ∈ S → today ≤ e → n ≤ e := fun e he hle => hleast.2 ⟨he, hle⟩
    rcases Int.lt_or_eq_of_le hbelow with hlt | hperiod
    · have hperiod : period n = period today :=
        le_antisymm (Int.lt_add_one_iff.mp hlt) (hmono hleast.1.2)
      refine .inl ⟨⟨⟨hleast.1.1, hperiod⟩, fun e he => ?_⟩, hleast.1.2⟩
      by_contra hlt
      have hpassed : e < today := by
        by_contra hle
        exact hlt (hfirst_of e he.1 (not_lt.mp hle))
      exact absurd (htogether e he.1 n hleast.1.1 he.2 hperiod hpassed) (not_lt.mpr hleast.1.2)
    · refine .inr ⟨fun e he hle => ?_, ⟨⟨hleast.1.1, hperiod⟩, fun e he => ?_⟩, hleast.1.2⟩
      · have hpe := hmono (hfirst_of e he.1.1 hle)
        rw [hperiod, he.1.2] at hpe
        exact absurd hpe (not_le.mpr (Int.lt_succ _))
      · refine hfirst_of e he.1 ?_
        by_contra hlt
        have hpe := hmono (not_le.mp hlt).le
        rw [he.2] at hpe
        exact absurd hpe (not_le.mpr (Int.lt_succ _))

/-- Where the dates of the present period pass together, its candidate tells whether this is one of
the dates. -/
theorem PassTogether.firstIn_iff (htogether : PassTogether S period today) :
    FirstIn S period (period today) today ↔ today ∈ S := by
  refine ⟨fun h => h.1.1, fun h => ⟨⟨h, rfl⟩, fun e he => ?_⟩⟩
  by_contra hlt
  exact lt_irrefl today (htogether e he.1 today h he.2 rfl (not_le.mp hlt))

end PeriodSearch

end Framework
