import Mathlib.Tactic.IntervalCases
import Mathlib.Data.Int.Order.Basic

/-!
# The proleptic Gregorian calendar

Dates of the years 1 to 9999, as `(year, month, day)` triples that exist in the
calendar (`IsDate`), and their ordinals: `1` is 1 January of year 1.

`toOrdinal` counts the days before the year, before the month and in the
month. `civil` is its inverse, by the usual decomposition of a day number into
cycles of 400, 100, 4 and 1 years, where the last year of a 4-year and the last
century of a 400-year cycle are one day longer than the division suggests.

Two facts carry everything else: `ordinal_civil` with `isDate_civil` (the
conversion is exact and yields dates that exist), and `ordinal_lt_of_month` (a
date in an earlier month has a smaller ordinal), which is how a scan over months
covers a range of days. Together they give the other direction, `civil_toOrdinal`.
-/

namespace Framework

namespace Calendar

/-- The year has a 29 February. -/
def isLeap (year : Int) : Bool :=
  year % 4 = 0 && (year % 100 ≠ 0 || year % 400 = 0)

/-- `monthrange(year, month)[1]`. -/
def daysInMonth (year month : Int) : Int :=
  if month = 2 then (if isLeap year then 29 else 28)
  else if month = 4 ∨ month = 6 ∨ month = 9 ∨ month = 11 then 30
  else 31

/-- Days before 1 January of the year. -/
def daysBeforeYear (year : Int) : Int :=
  (year - 1) * 365 + (year - 1) / 4 - (year - 1) / 100 + (year - 1) / 400

/-- Days of the year before the first of the month. -/
def daysBeforeMonth (year month : Int) : Int :=
  (if month ≤ 1 then 0
    else if month = 2 then 31
    else if month = 3 then 59
    else if month = 4 then 90
    else if month = 5 then 120
    else if month = 6 then 151
    else if month = 7 then 181
    else if month = 8 then 212
    else if month = 9 then 243
    else if month = 10 then 273
    else if month = 11 then 304
    else 334) + (if 2 < month ∧ isLeap year = true then 1 else 0)

/-- The ordinal of a year, month and day. -/
def toOrdinal (year month day : Int) : Int :=
  daysBeforeYear year + daysBeforeMonth year month + day

/-- A date that exists in the calendar. -/
def IsDate (year month day : Int) : Prop :=
  1 ≤ year ∧ year ≤ 9999 ∧ 1 ≤ month ∧ month ≤ 12 ∧ 1 ≤ day ∧ day ≤ daysInMonth year month

instance (year month day : Int) : Decidable (IsDate year month day) := by
  unfold IsDate; infer_instance

/-- A day of a month, of whatever year. -/
def Fits (year month day : Int) : Prop :=
  (1 ≤ month ∧ month ≤ 12) ∧ 1 ≤ day ∧ day ≤ daysInMonth year month

theorem IsDate.fits {year month day : Int} (h : IsDate year month day) : Fits year month day :=
  ⟨⟨h.2.2.1, h.2.2.2.1⟩, h.2.2.2.2⟩

/-- The ordinals of the calendar: 1 January of year 1 to 31 December 9999. -/
def InCalendar (ordinal : Int) : Prop := 1 ≤ ordinal ∧ ordinal ≤ 3652059

instance (ordinal : Int) : Decidable (InCalendar ordinal) := by
  unfold InCalendar; infer_instance

/-- The year of an ordinal and the number of days of it that precede the day. -/
def yearOf (ordinal : Int) : Int × Int :=
  let n := ordinal - 1
  let n400 := n / 146097
  let n := n % 146097
  let n100 := n / 36524
  let m := n % 36524
  let n4 := m / 1461
  let k := m % 1461
  let n1 := k / 365
  let year := n400 * 400 + n100 * 100 + n4 * 4 + n1 + 1
  if n1 = 4 ∨ n100 = 4 then (year - 1, 365) else (year, k % 365)

/-- The last of the months 1 to `n` that starts on or before the given day of
the year. -/
def monthUpTo (year dayOfYear : Int) : ℕ → Int
  | 0 => 1
  | n + 1 =>
    if daysBeforeMonth year (n + 1) ≤ dayOfYear then n + 1 else monthUpTo year dayOfYear n

/-- The month containing the given day of a year. -/
def monthOf (year dayOfYear : Int) : Int := monthUpTo year dayOfYear 12

/-- The year, month and day of an ordinal. -/
def civil (ordinal : Int) : Int × Int × Int :=
  let y := yearOf ordinal
  let month := monthOf y.1 y.2
  (y.1, month, y.2 - daysBeforeMonth y.1 month + 1)

/-! ### The conversion is exact -/

/-- Days in a year. -/
def daysInYear (year : Int) : Int := if isLeap year then 366 else 365

theorem isLeap_iff {year : Int} :
    isLeap year = true ↔ year % 4 = 0 ∧ (year % 100 ≠ 0 ∨ year % 400 = 0) := by
  simp [isLeap]

theorem daysBeforeYear_succ (year : Int) :
    daysBeforeYear (year + 1) = daysBeforeYear year + daysInYear year := by
  unfold daysBeforeYear daysInYear
  by_cases h : isLeap year = true
  · have hl := isLeap_iff.mp h
    rw [if_pos h]
    omega
  · have hl : ¬ (year % 4 = 0 ∧ (year % 100 ≠ 0 ∨ year % 400 = 0)) := fun hc => h (isLeap_iff.mpr hc)
    rw [if_neg h]
    omega

theorem daysInYear_of_div {year : Int} (h : year % 4 = 0 ∧ (year % 100 ≠ 0 ∨ year % 400 = 0)) :
    daysInYear year = 366 := by
  unfold daysInYear; rw [if_pos (isLeap_iff.mpr h)]

theorem daysInYear_bounds (year : Int) : 365 ≤ daysInYear year ∧ daysInYear year ≤ 366 := by
  unfold daysInYear
  by_cases h : isLeap year = true <;> simp [h]

/-- A year of the 400-, 100- and 4-year cycles, and the days before it. -/
theorem daysBeforeYear_cycles (a b c d : Int) (hb : 0 ≤ b ∧ b ≤ 3) (hc : 0 ≤ c ∧ c ≤ 24)
    (hd : 0 ≤ d ∧ d ≤ 3) :
    daysBeforeYear (a * 400 + b * 100 + c * 4 + d + 1) =
      a * 146097 + b * 36524 + c * 1461 + d * 365 := by
  unfold daysBeforeYear
  have h4 : (a * 400 + b * 100 + c * 4 + d + 1 - 1) / 4 = a * 100 + b * 25 + c := by omega
  have h100 : (a * 400 + b * 100 + c * 4 + d + 1 - 1) / 100 = a * 4 + b := by omega
  have h400 : (a * 400 + b * 100 + c * 4 + d + 1 - 1) / 400 = a := by omega
  rw [h4, h100, h400]
  omega

/-- The decomposition finds the year and how far into it the day lies. -/
theorem yearOf_spec (ordinal : Int) :
    daysBeforeYear (yearOf ordinal).1 + (yearOf ordinal).2 + 1 = ordinal ∧
      0 ≤ (yearOf ordinal).2 ∧ (yearOf ordinal).2 < daysInYear (yearOf ordinal).1 := by
  unfold yearOf
  simp only
  -- the position of the day in each cycle
  obtain ⟨a, r, ha, hr, hn⟩ : ∃ a r : Int, (ordinal - 1) / 146097 = a ∧
      (ordinal - 1) % 146097 = r ∧ ordinal = a * 146097 + r + 1 := ⟨_, _, rfl, rfl, by omega⟩
  have hr' : 0 ≤ r ∧ r < 146097 := by omega
  rw [ha, hr]
  obtain ⟨b, m, hb, hm, hrm⟩ : ∃ b m : Int, r / 36524 = b ∧ r % 36524 = m ∧
      r = b * 36524 + m := ⟨_, _, rfl, rfl, by omega⟩
  have hm' : 0 ≤ m ∧ m < 36524 := by omega
  rw [hb, hm]
  obtain ⟨c, k, hc, hk, hmk⟩ : ∃ c k : Int, m / 1461 = c ∧ m % 1461 = k ∧
      m = c * 1461 + k := ⟨_, _, rfl, rfl, by omega⟩
  have hk' : 0 ≤ k ∧ k < 1461 := by omega
  rw [hc, hk]
  obtain ⟨d, l, hd, hl, hkl⟩ : ∃ d l : Int, k / 365 = d ∧ k % 365 = l ∧
      k = d * 365 + l := ⟨_, _, rfl, rfl, by omega⟩
  have hl' : 0 ≤ l ∧ l < 365 := by omega
  rw [hd, hl]
  have hbd : 0 ≤ b ∧ b ≤ 4 ∧ 0 ≤ c ∧ c ≤ 24 ∧ 0 ≤ d ∧ d ≤ 4 := by omega
  by_cases hlast : d = 4 ∨ b = 4
  · -- the extra day of a 4-year cycle, or of the last century of a 400-year cycle
    rw [if_pos hlast]
    simp only
    rcases hlast with rfl | rfl
    · have hb3 : b ≤ 3 := by omega
      have hc24 : b = 3 ∨ c ≤ 23 := by omega
      have hprev : a * 400 + b * 100 + c * 4 + 4 + 1 - 1 = a * 400 + b * 100 + c * 4 + 3 + 1 := by
        omega
      rw [hprev, daysBeforeYear_cycles a b c 3 (by omega) (by omega) (by omega),
        daysInYear_of_div (by omega)]
      omega
    · have hprev : a * 400 + 4 * 100 + c * 4 + d + 1 - 1 =
          a * 400 + 3 * 100 + 24 * 4 + 3 + 1 := by omega
      rw [hprev, daysBeforeYear_cycles a 3 24 3 (by omega) (by omega) (by omega),
        daysInYear_of_div (by omega)]
      omega
  · rw [if_neg hlast]
    simp only
    have := daysInYear_bounds (a * 400 + b * 100 + c * 4 + d + 1)
    rw [daysBeforeYear_cycles a b c d (by omega) (by omega) (by omega)]
    omega

theorem daysBeforeMonth_succ (year : Int) {month : Int} (h1 : 1 ≤ month) (h11 : month ≤ 11) :
    daysBeforeMonth year (month + 1) = daysBeforeMonth year month + daysInMonth year month := by
  unfold daysBeforeMonth daysInMonth
  by_cases h : isLeap year = true
  · interval_cases month <;> simp [h]
  · interval_cases month <;> simp [h]

theorem daysBeforeMonth_one (year : Int) : daysBeforeMonth year 1 = 0 := by
  simp [daysBeforeMonth]

theorem daysInMonth_bounds (year month : Int) :
    28 ≤ daysInMonth year month ∧ daysInMonth year month ≤ 31 := by
  unfold daysInMonth
  split_ifs <;> omega

/-- December ends the year. -/
theorem daysBeforeMonth_last (year : Int) :
    daysBeforeMonth year 12 + daysInMonth year 12 = daysInYear year := by
  unfold daysBeforeMonth daysInMonth daysInYear
  by_cases h : isLeap year = true <;> simp [h]

/-- What the scan from month `n` downwards has established about the month it
stops at. -/
theorem monthUpTo_spec {year dayOfYear : Int} (h0 : 0 ≤ dayOfYear) (n : ℕ) (hn : n ≤ 12)
    (hlt : n = 0 ∨ dayOfYear < daysBeforeMonth year n + daysInMonth year n) :
    1 ≤ monthUpTo year dayOfYear n ∧ monthUpTo year dayOfYear n ≤ 12 ∧
      daysBeforeMonth year (monthUpTo year dayOfYear n) ≤ dayOfYear ∧
      (1 ≤ n → dayOfYear < daysBeforeMonth year (monthUpTo year dayOfYear n) +
        daysInMonth year (monthUpTo year dayOfYear n)) := by
  induction n with
  | zero =>
    refine ⟨by simp [monthUpTo], by simp [monthUpTo], ?_, by simp⟩
    simpa [monthUpTo, daysBeforeMonth_one] using h0
  | succ n ih =>
    have hcast : ((n + 1 : ℕ) : Int) = n + 1 := by push_cast; rfl
    have hin : dayOfYear < daysBeforeMonth year (n + 1) + daysInMonth year (n + 1) := by
      rw [← hcast]; exact hlt.resolve_left (by omega)
    unfold monthUpTo
    by_cases hstart : daysBeforeMonth year (n + 1) ≤ dayOfYear
    · rw [if_pos hstart]
      exact ⟨by omega, by omega, hstart, fun _ => hin⟩
    · rw [if_neg hstart]
      -- the first month starts with the year, so the scan has not run out
      have hn1 : 1 ≤ n := by
        by_contra hzero
        have : n = 0 := by omega
        subst this
        rw [Int.natCast_zero, Int.zero_add, daysBeforeMonth_one] at hstart
        omega
      have hsucc : daysBeforeMonth year (n + 1) = _ :=
        daysBeforeMonth_succ year (by omega : (1 : Int) ≤ n) (by omega)
      obtain ⟨h1, h2, h3, h4⟩ := ih (by omega) (Or.inr (by omega))
      exact ⟨h1, h2, h3, fun _ => h4 hn1⟩

/-- The month found contains the day. -/
theorem monthOf_spec {year dayOfYear : Int} (h0 : 0 ≤ dayOfYear)
    (h1 : dayOfYear < daysInYear year) :
    1 ≤ monthOf year dayOfYear ∧ monthOf year dayOfYear ≤ 12 ∧
      daysBeforeMonth year (monthOf year dayOfYear) ≤ dayOfYear ∧
      dayOfYear < daysBeforeMonth year (monthOf year dayOfYear) +
        daysInMonth year (monthOf year dayOfYear) := by
  have hlast := daysBeforeMonth_last year
  have hdec : dayOfYear < daysBeforeMonth year (12 : ℕ) + daysInMonth year (12 : ℕ) := by
    rw [Nat.cast_ofNat, hlast]; exact h1
  obtain ⟨hm1, hm12, hle, hlt⟩ := monthUpTo_spec h0 12 (le_refl 12) (Or.inr hdec)
  exact ⟨hm1, hm12, hle, hlt (by omega)⟩

theorem daysBeforeYear_mono {y y' : Int} (h : y < y') :
    daysBeforeYear y + daysInYear y ≤ daysBeforeYear y' := by
  rw [← daysBeforeYear_succ]
  unfold daysBeforeYear
  omega

/-- **The conversion is exact.** The date of an ordinal has that ordinal. -/
theorem ordinal_civil (ordinal : Int) :
    toOrdinal (civil ordinal).1 (civil ordinal).2.1 (civil ordinal).2.2 = ordinal := by
  obtain ⟨hday, -, -⟩ := yearOf_spec ordinal
  unfold civil toOrdinal
  simp only
  omega

/-- An ordinal of the calendar is the ordinal of an existing date. -/
theorem isDate_civil {ordinal : Int} (h : InCalendar ordinal) :
    IsDate (civil ordinal).1 (civil ordinal).2.1 (civil ordinal).2.2 := by
  obtain ⟨hday, hpos, hlt⟩ := yearOf_spec ordinal
  obtain ⟨hm1, hm12, hle, hin⟩ := monthOf_spec hpos hlt
  unfold InCalendar at h
  -- a year outside 1 to 9999 lies wholly outside the ordinals of the calendar
  have hlow : 1 ≤ (yearOf ordinal).1 := by
    by_contra hneg
    have hmono := daysBeforeYear_mono (by omega : (yearOf ordinal).1 < 1)
    have hone : daysBeforeYear 1 = 0 := by decide
    omega
  have hhigh : (yearOf ordinal).1 ≤ 9999 := by
    by_contra hneg
    have hmono := daysBeforeYear_mono (by omega : 9999 < (yearOf ordinal).1)
    have hlast : daysBeforeYear 9999 + daysInYear 9999 = 3652059 := by decide
    omega
  unfold civil IsDate
  simp only
  omega

/-- Any ordinal is the ordinal of a day of a month. -/
theorem fits_civil (ordinal : Int) :
    Fits (civil ordinal).1 (civil ordinal).2.1 (civil ordinal).2.2 := by
  obtain ⟨-, hpos, hlt⟩ := yearOf_spec ordinal
  obtain ⟨hm1, hm12, hle, hin⟩ := monthOf_spec hpos hlt
  unfold civil Fits
  simp only
  omega

/-! ### Ordinals follow the calendar order -/

theorem daysBeforeMonth_mono (year : Int) {m m' : Int} (h1 : 1 ≤ m) (h12 : m' ≤ 12) (h : m < m') :
    daysBeforeMonth year m + daysInMonth year m ≤ daysBeforeMonth year m' := by
  rw [← daysBeforeMonth_succ year h1 (by omega)]
  -- one month at a time, up to the later one
  obtain ⟨n, rfl⟩ : ∃ n : ℕ, m' = m + 1 + n := ⟨(m' - m - 1).toNat, by omega⟩
  induction n with
  | zero => simp
  | succ n ih =>
    have hsucc := daysBeforeMonth_succ year (by omega : 1 ≤ m + 1 + n) (by omega)
    have hlen := daysInMonth_bounds year (m + 1 + n)
    have hcast : m + 1 + ((n + 1 : ℕ) : Int) = m + 1 + n + 1 := by omega
    rw [hcast]
    have := ih (by omega) (by omega)
    omega

/-- A date lies in its year. -/
theorem ordinal_in_year {y m d : Int} (h : Fits y m d) :
    daysBeforeYear y < toOrdinal y m d ∧ toOrdinal y m d ≤ daysBeforeYear y + daysInYear y := by
  obtain ⟨⟨hm1, hm12⟩, hd1, hd⟩ := h
  have hlast := daysBeforeMonth_last y
  have hone := daysBeforeMonth_one y
  have hjan := daysInMonth_bounds y 1
  have hdec := daysInMonth_bounds y 12
  have hstart : 0 ≤ daysBeforeMonth y m := by
    rcases Int.lt_or_eq_of_le hm1 with hm | rfl
    · have := daysBeforeMonth_mono y (le_refl 1) hm12 hm
      omega
    · omega
  have hend : daysBeforeMonth y m + daysInMonth y m ≤ daysInYear y := by
    rcases Int.lt_or_eq_of_le hm12 with hm | rfl
    · have := daysBeforeMonth_mono y hm1 (le_refl 12) hm
      omega
    · omega
  unfold toOrdinal
  omega

/-- A date in an earlier month of the calendar has a smaller ordinal. -/
theorem ordinal_lt_of_month {y m d y' m' d' : Int} (h : Fits y m d) (h' : Fits y' m' d')
    (hlt : y < y' ∨ (y = y' ∧ m < m')) : toOrdinal y m d < toOrdinal y' m' d' := by
  rcases hlt with hy | ⟨rfl, hm⟩
  · -- the earlier year has ended before the later one starts
    calc toOrdinal y m d ≤ daysBeforeYear y + daysInYear y := (ordinal_in_year h).2
      _ ≤ daysBeforeYear y' := daysBeforeYear_mono hy
      _ < toOrdinal y' m' d' := (ordinal_in_year h').1
  · obtain ⟨⟨hm1, -⟩, -, hd⟩ := h
    obtain ⟨⟨-, hm12'⟩, hd1', -⟩ := h'
    have hmonth := daysBeforeMonth_mono y hm1 hm12' hm
    unfold toOrdinal
    omega

/-! ### Dates and ordinals are the same thing -/

/-- **The date of the ordinal of a date is that date.** -/
theorem civil_toOrdinal {y m d : Int} (h : Fits y m d) : civil (toOrdinal y m d) = (y, m, d) := by
  have hfits := fits_civil (toOrdinal y m d)
  have hsame := ordinal_civil (toOrdinal y m d)
  generalize civil (toOrdinal y m d) = date at hfits hsame
  obtain ⟨y', m', d'⟩ := date
  simp only at hfits hsame
  -- of two months one would be earlier, with smaller ordinals
  have hyear : y' = y := by
    by_contra hne
    rcases lt_or_gt_of_ne hne with hlt | hlt
    · exact (ordinal_lt_of_month hfits h (.inl hlt)).ne hsame
    · exact (ordinal_lt_of_month h hfits (.inl hlt)).ne' hsame
  subst hyear
  have hmonth : m' = m := by
    by_contra hne
    rcases lt_or_gt_of_ne hne with hlt | hlt
    · exact (ordinal_lt_of_month hfits h (.inr ⟨rfl, hlt⟩)).ne hsame
    · exact (ordinal_lt_of_month h hfits (.inr ⟨rfl, hlt⟩)).ne' hsame
  subst hmonth
  have hday : d' = d := by
    unfold toOrdinal at hsame
    omega
  rw [hday]

end Calendar

end Framework
