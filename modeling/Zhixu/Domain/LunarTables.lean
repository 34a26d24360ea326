import Mathlib.Data.List.Chain
import Zhixu.Domain.Recurrences
import Zhixu.Framework.Periods
import Zhixu.Framework.Returns

/-!
# Lunar dates and Gregorian dates

`to_solar` and `from_solar` over any table of lunar years. A year of the table has the months that its
row says: twelve, or thirteen with an intercalary one, which stands behind the month of its number
(`LunarYear.place`, `LunarYear.HasMonth`). The loop of `months` counts them out one after another with
a flag for the intercalary month; `monthKey` is what it has counted to at each place, so that its list
has the month at its place and no other there (`hasMonth_of_getElem?`, `getElem?_of_hasMonth`).

A year is then a row of periods, and a lunar date is a day of one of them: `to_solar` adds up the
lengths in front, `from_solar` takes them away again, and the days are in the order of the months and
their days (`Periods.At.lt`). Years that follow each other without a gap do not meet, so the loop over
the years finds the only one that has the date (`fromSolar_of_mem`).

`from_solar` asks for the day behind the last one of a year, and there has to be one: it raises for
every day of a year that ends on 31 December 9999.
-/

open Framework

namespace Zhixu

/-! ### The conversions -/

/-- `_YEARS`: no year twice, and each begins on a date. -/
structure LunarTable where
  years : List (Int × LunarYear)
  distinct : (years.map Prod.fst).Nodup
  dated : ∀ entry ∈ years, Calendar.InCalendar entry.2.firstDay

namespace LunarTable

/-- `_year`. -/
def year (table : LunarTable) (lunarYear : Int) : Except PyError LunarYear :=
  match table.years.lookup lunarYear with
  | some entry => .ok entry
  | none => .error (.validation "lunisolar calendar year is not installed")

/-- `to_solar`. -/
def toSolar (table : LunarTable) (value : LunarDate) (clamp : Bool := false) :
    Except PyError Int := do
  let entry ← table.year value.year
  let date ← toSolarFrom value clamp entry.start 0 entry.months
  raiseIf (¬ Calendar.InCalendar date) .overflow
  return date

/-- The loop of `from_solar` over the months of a year. -/
def monthDay (year : Int) : Int → List (Int × Bool × Int) → Option (Except PyError LunarDate)
  | _, [] => none
  | offset, (number, isLeap, length) :: months =>
    if offset < length then some (LunarDate.checked year number (offset + 1) isLeap)
    else monthDay year (offset - length) months

/-- The loop of `from_solar` over the years. -/
def fromSolarIn (value : Int) : List (Int × LunarYear) → Except PyError LunarDate
  | [] => .error (.validation "lunisolar calendar year is not installed")
  | (year, entry) :: years =>
    if value < entry.firstDay then fromSolarIn value years
    else do
      raiseIf (¬ Calendar.InCalendar (entry.firstDay + entry.span)) .overflow
      if entry.firstDay + entry.span ≤ value then fromSolarIn value years
      else
        match monthDay year (value - entry.firstDay) entry.months with
        | some result => result
        | none => fromSolarIn value years

/-- `sorted(_YEARS)`, with their entries. -/
def sortedYears (table : LunarTable) : List (Int × LunarYear) :=
  table.years.insertionSort fun a b => a.1 ≤ b.1

/-- `from_solar`. -/
def fromSolar (table : LunarTable) (value : Int) : Except PyError LunarDate :=
  fromSolarIn value table.sortedYears

end LunarTable

/-! ### The months of a year -/

namespace LunarYear

/-- The place of a month in its year, counted from 0. The intercalary month stands behind the one of
its number and moves all later months. -/
def place (entry : LunarYear) (month : Int) (leap : Bool) : ℕ :=
  (month - 1).toNat +
    if leap = true ∨ entry.leapMonth ≠ 0 ∧ entry.leapMonth < month then 1 else 0

/-- The year has the month, which is so long. -/
def HasMonth (entry : LunarYear) (month : Int) (leap : Bool) (length : Int) : Prop :=
  (1 ≤ month ∧ month ≤ 12) ∧ (leap = true → month = entry.leapMonth) ∧
    entry.lengths[entry.place month leap]? = some length

/-- Twelve months, or thirteen with an intercalary one. -/
def Regular (entry : LunarYear) : Prop :=
  entry.lengths.length = 12 ∧ entry.leapMonth = 0 ∨
    entry.lengths.length = 13 ∧ 1 ≤ entry.leapMonth ∧ entry.leapMonth ≤ 12

/-- What the loop of `months` has counted to at a place, if it starts at a number. -/
def monthKey (leapMonth number : Int) (seenLeap : Bool) (i : ℕ) : Int × Bool :=
  if seenLeap = true ∨ leapMonth = 0 ∨ leapMonth < number - 1 ∨ number + i ≤ leapMonth then
    (number + i, false)
  else if number + i = leapMonth + 1 then (leapMonth, true)
  else (number + i - 1, false)

theorem getElem?_monthsFrom (leapMonth number : Int) (seenLeap : Bool) (lengths : List Int) (i : ℕ) :
    (monthsFrom leapMonth number seenLeap lengths)[i]? = lengths[i]?.map fun length =>
      ((monthKey leapMonth number seenLeap i).1, (monthKey leapMonth number seenLeap i).2, length) := by
  induction lengths generalizing number seenLeap i with
  | nil => rfl
  | cons length lengths ih =>
    unfold monthsFrom
    by_cases hleap : seenLeap = false ∧ leapMonth ≠ 0 ∧ number - 1 = leapMonth
    · -- the intercalary month is written here, and the number stays
      obtain ⟨rfl, hne, hnumber⟩ := hleap
      rw [if_pos ⟨rfl, hne, hnumber⟩]
      cases i with
      | zero =>
        have hkey : monthKey leapMonth number false 0 = (leapMonth, true) := by
          unfold monthKey
          rw [if_neg (by simp; omega), if_pos (by simp; omega)]
        rw [hkey]
        rfl
      | succ i =>
        have hkey : monthKey leapMonth number false (i + 1) = monthKey leapMonth number true i := by
          unfold monthKey
          rw [if_neg (by simp; omega), if_neg (by push_cast; omega), if_pos (Or.inl rfl)]
          exact Prod.ext (by push_cast; omega) rfl
        rw [List.getElem?_cons_succ, List.getElem?_cons_succ, ih, hkey]
    · rw [if_neg hleap]
      cases i with
      | zero =>
        have hkey : monthKey leapMonth number seenLeap 0 = (number, false) := by
          unfold monthKey
          by_cases hfirst : seenLeap = true ∨ leapMonth = 0 ∨ leapMonth < number - 1 ∨
              number + (0 : ℕ) ≤ leapMonth
          · rw [if_pos hfirst]
            exact Prod.ext (by simp) rfl
          · cases seenLeap with
            | true => exact absurd (Or.inl rfl) hfirst
            | false =>
              simp only [true_and, Bool.false_eq_true, false_or, not_or, not_and] at hleap hfirst
              omega
        rw [hkey]
        rfl
      | succ i =>
        have hkey : monthKey leapMonth number seenLeap (i + 1) =
            monthKey leapMonth (number + 1) seenLeap i := by
          unfold monthKey
          cases seenLeap with
          | true =>
            rw [if_pos (Or.inl rfl), if_pos (Or.inl rfl)]
            exact Prod.ext (by push_cast; omega) rfl
          | false =>
            simp only [true_and, Bool.false_eq_true, false_or, not_and, Nat.cast_add,
              Nat.cast_one] at hleap ⊢
            split_ifs <;> first | rfl | omega | exact Prod.ext (by simp only; omega) rfl
        rw [List.getElem?_cons_succ, List.getElem?_cons_succ, ih, hkey]

/-- Every length has its month. -/
theorem map_monthsFrom (leapMonth number : Int) (seenLeap : Bool) (lengths : List Int) :
    (monthsFrom leapMonth number seenLeap lengths).map (fun m => m.2.2) = lengths := by
  refine List.ext_getElem? fun i => ?_
  rw [List.getElem?_map, getElem?_monthsFrom]
  cases lengths[i]? <;> rfl

variable {entry : LunarYear} {month length : Int} {leap : Bool} {i : ℕ}

theorem lengths_months : entry.months.map (fun m => m.2.2) = entry.lengths :=
  map_monthsFrom ..

theorem place_false (h : entry.leapMonth = 0 ∨ month ≤ entry.leapMonth) :
    entry.place month false = (month - 1).toNat := by
  have hfront : ¬ (false = true ∨ entry.leapMonth ≠ 0 ∧ entry.leapMonth < month) := by
    rintro (hfalse | hlater)
    · cases hfalse
    · omega
  unfold place
  rw [if_neg hfront, Nat.add_zero]

theorem place_moved (h : leap = true ∨ entry.leapMonth ≠ 0 ∧ entry.leapMonth < month) :
    entry.place month leap = (month - 1).toNat + 1 := by
  unfold place
  rw [if_pos h]

theorem monthKey_front {leapMonth : Int} (h : leapMonth = 0 ∨ 1 + i ≤ leapMonth) :
    monthKey leapMonth 1 false i = (1 + (i : Int), false) := by
  unfold monthKey
  rw [if_pos (Or.inr (h.imp_right Or.inr))]

theorem monthKey_leap {leapMonth : Int} (hpos : 1 ≤ leapMonth) (h : i = leapMonth) :
    monthKey leapMonth 1 false i = (leapMonth, true) := by
  have hbehind : ¬ (false = true ∨ leapMonth = 0 ∨ leapMonth < 1 - 1 ∨ 1 + i ≤ leapMonth) := by
    rintro (hfalse | hother)
    · cases hfalse
    · omega
  unfold monthKey
  rw [if_neg hbehind, if_pos (by omega)]

theorem monthKey_behind {leapMonth : Int} (hpos : 1 ≤ leapMonth) (h : leapMonth < i) :
    monthKey leapMonth 1 false i = ((i : Int), false) := by
  have hbehind : ¬ (false = true ∨ leapMonth = 0 ∨ leapMonth < 1 - 1 ∨ 1 + i ≤ leapMonth) := by
    rintro (hfalse | hother)
    · cases hfalse
    · omega
  unfold monthKey
  rw [if_neg hbehind, if_neg (by omega)]
  exact Prod.ext (by simp) rfl

/-- The list of `months` has every month at its place. -/
theorem getElem?_of_hasMonth (hregular : entry.Regular) (h : entry.HasMonth month leap length) :
    entry.months[entry.place month leap]? = some (month, leap, length) := by
  obtain ⟨hmonth, hleap, hlength⟩ := h
  have hkey : monthKey entry.leapMonth 1 false (entry.place month leap) = (month, leap) := by
    unfold Regular at hregular
    cases leap with
    | true =>
      have hsame := hleap rfl
      rw [place_moved (Or.inl rfl), monthKey_leap (by omega) (by push_cast; omega), hsame]
    | false =>
      by_cases hfront : entry.leapMonth = 0 ∨ month ≤ entry.leapMonth
      · have hkey := @monthKey_front (month - 1).toNat entry.leapMonth (by omega)
        rw [place_false hfront, hkey]
        exact Prod.ext (by simp only; omega) rfl
      · have hmoved : entry.leapMonth ≠ 0 ∧ entry.leapMonth < month := by omega
        rw [place_moved (Or.inr hmoved), monthKey_behind (by omega) (by push_cast; omega)]
        exact Prod.ext (by push_cast; omega) rfl
  unfold months
  rw [getElem?_monthsFrom, hlength, hkey]
  rfl

/-- And no other there. -/
theorem hasMonth_of_getElem? (hregular : entry.Regular)
    (h : entry.months[i]? = some (month, leap, length)) :
    entry.HasMonth month leap length ∧ entry.place month leap = i := by
  unfold months at h
  rw [getElem?_monthsFrom] at h
  obtain ⟨found, hfound, hkey⟩ := Option.map_eq_some_iff.mp h
  obtain ⟨hmonth, hkey⟩ := Prod.mk.inj hkey
  obtain ⟨hleap, rfl⟩ := Prod.mk.inj hkey
  have hi := (List.getElem?_eq_some_iff.mp hfound).1
  have hplace : (1 ≤ month ∧ month ≤ 12) ∧ (leap = true → month = entry.leapMonth) ∧
      entry.place month leap = i := by
    unfold Regular at hregular
    by_cases hfront : entry.leapMonth = 0 ∨ 1 + i ≤ entry.leapMonth
    · rw [monthKey_front hfront] at hmonth hleap
      subst hmonth hleap
      exact ⟨by omega, fun h => (nomatch h), by rw [place_false hfront]; omega⟩
    · by_cases hthis : i = entry.leapMonth
      · rw [monthKey_leap (by omega) hthis] at hmonth hleap
        subst hmonth hleap
        exact ⟨by omega, fun _ => rfl, by rw [place_moved (Or.inl rfl)]; omega⟩
      · rw [monthKey_behind (by omega) (by omega)] at hmonth hleap
        subst hmonth hleap
        have hmoved : entry.leapMonth ≠ 0 ∧ entry.leapMonth < (i : Int) := by omega
        exact ⟨by omega, fun h => (nomatch h), by rw [place_moved (Or.inr hmoved)]; omega⟩
  exact ⟨⟨hplace.1, hplace.2.1, by rw [hplace.2.2]; exact hfound⟩, hplace.2.2⟩

/-- The months are in their order, the intercalary one behind the one of its number. -/
theorem place_lt {month' : Int} {leap' : Bool} (hmonth : 1 ≤ month)
    (hleap : leap = true → month = entry.leapMonth) (hleap' : leap' = true → month' = entry.leapMonth)
    (h : month < month' ∨ month = month' ∧ leap = false ∧ leap' = true) :
    entry.place month leap < entry.place month' leap' := by
  unfold place
  cases leap with
  | true =>
    have hsame := hleap rfl
    have hlt : month < month' := by
      rcases h with h | ⟨-, h, -⟩
      · exact h
      · cases h
    rw [if_pos (Or.inl rfl), if_pos (Or.inr (by omega))]
    omega
  | false =>
    by_cases hmoved : entry.leapMonth ≠ 0 ∧ entry.leapMonth < month
    · cases leap' with
      | true =>
        have hsame := hleap' rfl
        omega
      | false =>
        rw [if_pos (Or.inr hmoved), if_pos (Or.inr (by omega))]
        rcases h with h | ⟨-, -, h⟩
        · omega
        · cases h
    · rw [if_neg (by simpa using hmoved)]
      cases leap' with
      | true =>
        rw [if_pos (Or.inl rfl)]
        omega
      | false =>
        rcases h with h | ⟨-, -, h⟩
        · split_ifs <;> omega
        · cases h

end LunarYear

/-! ### The loops over the months -/

/-- `to_solar` stops at the first month of the number and kind. -/
theorem toSolarFrom_of_getElem? {value : LunarDate} {months : List (Int × Bool × Int)} {i : ℕ}
    {length : Int} (clamp : Bool) (start offset : Int)
    (h : months[i]? = some (value.month, value.leap, length))
    (hfirst : ∀ j < i, ∀ other, months[j]? ≠ some (value.month, value.leap, other)) :
    toSolarFrom value clamp start offset months =
      if length < value.day then
        if clamp = true then
          .ok (start + (offset + ((months.map fun m => m.2.2).take i).sum + length - 1) : Int)
        else .error (.validation "lunisolar day does not exist in that month")
      else .ok (start + (offset + ((months.map fun m => m.2.2).take i).sum + value.day - 1) : Int) := by
  induction months generalizing i offset with
  | nil => exact absurd h (by simp)
  | cons m months ih =>
    obtain ⟨number, isLeap, own⟩ := m
    unfold toSolarFrom
    cases i with
    | zero =>
      obtain ⟨rfl, rest⟩ := Prod.mk.inj (Option.some.inj h)
      obtain ⟨rfl, rfl⟩ := Prod.mk.inj rest
      rw [if_pos ⟨rfl, rfl⟩, List.take_zero, List.sum_nil, add_zero]
    | succ i =>
      have hother : ¬ (number = value.month ∧ isLeap = value.leap) := by
        rintro ⟨rfl, rfl⟩
        exact hfirst 0 (Nat.succ_pos i) own rfl
      have hrest := @ih i (offset + own) h fun j hj other =>
        hfirst (j + 1) (Nat.succ_lt_succ hj) other
      rw [if_neg hother, hrest, List.map_cons, List.take_succ_cons, List.sum_cons, add_assoc offset]

/-- `from_solar` stops in the month that the day is in. -/
theorem LunarTable.monthDay_at {months : List (Int × Bool × Int)} {offset rest : Int} {i : ℕ}
    (year : Int) (hnonneg : ∀ m ∈ months, 0 ≤ m.2.2)
    (h : Periods.At (months.map fun m => m.2.2) offset i rest) :
    ∃ number isLeap length, months[i]? = some (number, isLeap, length) ∧
      monthDay year offset months = some (LunarDate.checked year number (rest + 1) isLeap) := by
  induction months generalizing i offset with
  | nil =>
    obtain ⟨length, hlength, -⟩ := h
    exact absurd hlength (by simp)
  | cons m months ih =>
    obtain ⟨number, isLeap, own⟩ := m
    have hbehind : ∀ other ∈ months, 0 ≤ other.2.2 := fun other hother =>
      hnonneg other (List.mem_cons_of_mem _ hother)
    rw [List.map_cons] at h
    unfold monthDay
    cases i with
    | zero =>
      obtain ⟨-, hlt, rfl⟩ := Periods.at_zero.mp h
      exact ⟨number, isLeap, own, rfl, if_pos hlt⟩
    | succ i =>
      have hlater := Periods.at_succ.mp h
      have hlengths : ∀ length ∈ months.map (fun m => m.2.2), 0 ≤ length := by
        intro length hlength
        obtain ⟨other, hother, rfl⟩ := List.mem_map.mp hlength
        exact hbehind other hother
      have hpos : 0 ≤ offset - own := (hlater.bounds hlengths).1
      obtain ⟨number', isLeap', length', hget, hday⟩ := ih hbehind hlater
      refine ⟨number', isLeap', length', hget, ?_⟩
      rw [if_neg (by omega)]
      exact hday

namespace LunarTable

/-! ### Dates of a table -/

variable {table : LunarTable} {value value' : LunarDate} {date date' : Int}

/-- The lunar date exists: the table has the year, the year the month and the month the day. -/
def Exists (table : LunarTable) (value : LunarDate) : Prop :=
  ∃ entry length, (value.year, entry) ∈ table.years ∧
    entry.HasMonth value.month value.leap length ∧ 1 ≤ value.day ∧ value.day ≤ length

/-- The Gregorian date is in a year of the table. -/
def Covers (table : LunarTable) (date : Int) : Prop :=
  ∃ year entry, (year, entry) ∈ table.years ∧
    entry.firstDay ≤ date ∧ date < entry.firstDay + entry.span

/-- **A table of the lunisolar calendar**: each year begins where the one before it ends, and has
twelve months, or thirteen with an intercalary one, of 29 or 30 days. -/
structure WellFormed (table : LunarTable) : Prop where
  contiguous : table.sortedYears.IsChain fun a b => a.2.firstDay + a.2.span = b.2.firstDay
  lengths : ∀ entry ∈ table.years, ∀ length ∈ entry.2.lengths, length = 29 ∨ length = 30
  months : ∀ entry ∈ table.years, entry.2.Regular

/-- The day behind the last one of each year is a date. -/
def Ends (table : LunarTable) : Prop :=
  ∀ entry ∈ table.years, Calendar.InCalendar (entry.2.firstDay + entry.2.span)

/-- The date is the day of the year on which the lunar date falls. -/
def FallsOn (table : LunarTable) (value : LunarDate) (date : Int) : Prop :=
  ∃ entry i length, (value.year, entry) ∈ table.years ∧
    entry.months[i]? = some (value.month, value.leap, length) ∧
    Periods.At entry.lengths (date - entry.firstDay) i (value.day - 1)

theorem Covers.inCalendar (hdate : table.Covers date) (hends : table.Ends) :
    Calendar.InCalendar date := by
  obtain ⟨year, entry, hmem, hlow, hhigh⟩ := hdate
  have hstart : Calendar.InCalendar entry.firstDay := table.dated _ hmem
  have hend : Calendar.InCalendar (entry.firstDay + entry.span) := hends _ hmem
  unfold Calendar.InCalendar at hstart hend ⊢
  omega

theorem year_of_mem {year : Int} {entry : LunarYear} (hmem : (year, entry) ∈ table.years) :
    table.year year = .ok entry := by
  have hlookup : table.years.lookup year = some entry := by
    obtain ⟨before, after, hyears⟩ := List.append_of_mem hmem
    refine List.lookup_eq_some_iff.mpr ⟨before, after, hyears, fun other hother => ?_⟩
    have hdistinct := table.distinct
    rw [hyears, List.map_append, List.map_cons] at hdistinct
    have hne := (List.nodup_append.mp hdistinct).2.2 other.1 (List.mem_map_of_mem hother) year
      (List.mem_cons_self ..)
    simpa using Ne.symm hne
  unfold LunarTable.year
  rw [hlookup]

/-- The loop passes the years that have ended. -/
theorem fromSolarIn_skip {before : List (Int × LunarYear)}
    (h : ∀ earlier ∈ before, earlier.2.firstDay + earlier.2.span ≤ date ∧
      Calendar.InCalendar (earlier.2.firstDay + earlier.2.span))
    (rest : List (Int × LunarYear)) : fromSolarIn date (before ++ rest) = fromSolarIn date rest := by
  induction before with
  | nil => rfl
  | cons first before ih =>
    obtain ⟨hended, hcalendar⟩ := h first (List.mem_cons_self ..)
    have hskip := ih fun earlier hearlier => h earlier (List.mem_cons_of_mem _ hearlier)
    rw [List.cons_append, fromSolarIn]
    by_cases hbefore : date < first.2.firstDay
    · rw [if_pos hbefore, hskip]
    · rw [if_neg hbefore, raiseIf_bind_of_not (not_not.mpr hcalendar), if_pos hended, hskip]

section WellFormed

variable (hformed : table.WellFormed)

include hformed

theorem WellFormed.nonneg {entry : Int × LunarYear} (hmem : entry ∈ table.years) :
    ∀ length ∈ entry.2.lengths, 0 ≤ length := by
  intro length hlength
  rcases hformed.lengths entry hmem length hlength with rfl | rfl <;> decide

/-- A day of a year lies in the year. -/
theorem WellFormed.within {entry : Int × LunarYear} (hmem : entry ∈ table.years) {i : ℕ} {rest : Int}
    (h : Periods.At entry.2.lengths (date - entry.2.firstDay) i rest) :
    entry.2.firstDay ≤ date ∧ date < entry.2.firstDay + entry.2.span := by
  have hbounds := h.bounds (hformed.nonneg hmem)
  unfold LunarYear.span
  omega

/-- Of two years the earlier has ended before the later begins. -/
theorem WellFormed.apart {before after : List (Int × LunarYear)} {entry : Int × LunarYear}
    (hsorted : table.sortedYears = before ++ entry :: after) :
    ∀ earlier ∈ before, earlier.2.firstDay + earlier.2.span ≤ entry.2.firstDay := by
  have hmem : ∀ other ∈ table.sortedYears, other ∈ table.years := fun other hother =>
    (List.mem_insertionSort _).mp hother
  have hspan : ∀ other ∈ table.sortedYears, 0 ≤ other.2.span := fun other hother =>
    List.sum_nonneg (hformed.nonneg (hmem other hother))
  have hchain := hformed.contiguous
  rw [hsorted] at hchain hspan
  clear hsorted hmem
  induction before with
  | nil => simp
  | cons first before ih =>
    have hlater := ih (fun other hother => hspan other (List.mem_cons_of_mem _ hother))
      (List.isChain_cons.mp hchain).2
    intro earlier hearlier
    rcases List.mem_cons.mp hearlier with rfl | hearlier
    · -- the first year ends where the next one begins
      cases before with
      | nil => exact (List.isChain_cons_cons.mp hchain).1.le
      | cons second before =>
        have hnext := (List.isChain_cons_cons.mp hchain).1
        have hsecond := hlater second (List.mem_cons_self ..)
        have hpos := hspan second (List.mem_cons_of_mem _ (List.mem_cons_self ..))
        omega
    · exact hlater earlier hearlier

/-- Every lunar date that exists falls on a date that is covered. -/
theorem WellFormed.exists_date (hvalue : table.Exists value) :
    ∃ date, table.FallsOn value date ∧ table.Covers date := by
  obtain ⟨entry, length, hmem, hmonth, hfirst, hlast⟩ := hvalue
  have hplace := LunarYear.getElem?_of_hasMonth (hformed.months _ hmem) hmonth
  have hat : Periods.At entry.lengths
      ((entry.lengths.take (entry.place value.month value.leap)).sum + (value.day - 1))
      (entry.place value.month value.leap) (value.day - 1) :=
    ⟨length, hmonth.2.2, by omega, by omega, rfl⟩
  have hday : Periods.At entry.lengths (entry.firstDay +
      ((entry.lengths.take (entry.place value.month value.leap)).sum + (value.day - 1)) -
        entry.firstDay) (entry.place value.month value.leap) (value.day - 1) := by
    rwa [add_sub_cancel_left]
  obtain ⟨hlow, hhigh⟩ := hformed.within hmem hday
  exact ⟨_, ⟨entry, _, length, hmem, hplace, hday⟩, ⟨_, entry, hmem, hlow, hhigh⟩⟩

/-- On every date that is covered falls a lunar date that exists. -/
theorem WellFormed.exists_value (hdate : table.Covers date) :
    ∃ value, table.FallsOn value date ∧ table.Exists value := by
  obtain ⟨year, entry, hmem, hlow, hhigh⟩ := hdate
  unfold LunarYear.span at hhigh
  obtain ⟨i, rest, hat⟩ := @Periods.exists_at (date - entry.firstDay) entry.lengths (by omega)
    (by omega)
  obtain ⟨length, hlength, hpos, hlt, hday⟩ := hat
  have hlengths : (entry.months.map fun m => m.2.2)[i]? = some length := by
    rw [LunarYear.lengths_months, hlength]
  rw [List.getElem?_map] at hlengths
  obtain ⟨⟨month, leap, own⟩, hget, rfl⟩ := Option.map_eq_some_iff.mp hlengths
  obtain ⟨hmonth, -⟩ := LunarYear.hasMonth_of_getElem? (hformed.months _ hmem) hget
  change rest < own at hlt
  refine ⟨{ year, month, day := rest + 1, leap }, ⟨entry, i, own, hmem, hget, own, hlength, ?_⟩,
    entry, own, hmem, hmonth, ?_⟩
  · simp only
    omega
  · show 1 ≤ rest + 1 ∧ rest + 1 ≤ own
    omega

/-! ### What the conversions find -/

/-- **`to_solar` finds the date**, clamped or not. -/
theorem WellFormed.toSolar (h : table.FallsOn value date) (hdate : Calendar.InCalendar date)
    (clamp : Bool) : table.toSolar value clamp = .ok date := by
  obtain ⟨entry, i, length, hmem, hget, length', hlength, hfirst, hlast, hday⟩ := h
  have hregular := hformed.months _ hmem
  have hsame : length' = length := by
    have hmap : (entry.months.map fun m => m.2.2)[i]? = some length := by
      rw [List.getElem?_map, hget]
      rfl
    rw [LunarYear.lengths_months, hlength] at hmap
    exact Option.some.inj hmap
  subst hsame
  have hfound := toSolarFrom_of_getElem? clamp entry.start 0 hget fun j hj other hother => by
    -- the month would be at two places
    have hplace := (LunarYear.hasMonth_of_getElem? hregular hget).2
    have hplace' := (LunarYear.hasMonth_of_getElem? hregular hother).2
    omega
  have hstart : (entry.start : Int) = entry.firstDay := rfl
  have hsum : (entry.start + (0 + ((entry.months.map fun m => m.2.2).take i).sum + value.day - 1) :
      Int) = date := by
    rw [LunarYear.lengths_months, hstart]
    change (entry.firstDay + (0 + (entry.lengths.take i).sum + value.day - 1) : Int) = date
    omega
  rw [if_neg (by omega), hsum] at hfound
  unfold LunarTable.toSolar
  rw [year_of_mem hmem]
  show (toSolarFrom value clamp entry.start 0 entry.months >>= _) = _
  rw [hfound]
  exact raiseIf_bind_ok.mpr ⟨not_not.mpr hdate, rfl⟩

/-- **`from_solar` finds the lunar date**: the years before have ended, and the months before too. -/
theorem WellFormed.fromSolar (h : table.FallsOn value date) (hends : table.Ends) :
    table.fromSolar date = .ok value := by
  obtain ⟨entry, i, length, hmem, hget, hat⟩ := h
  obtain ⟨hlow, hhigh⟩ := hformed.within hmem hat
  have hsortedMem : (value.year, entry) ∈ table.sortedYears := (List.mem_insertionSort _).mpr hmem
  obtain ⟨before, after, hsorted⟩ := List.append_of_mem hsortedMem
  have hskip := fromSolarIn_skip (fun earlier hearlier => by
    have hearlierMem : earlier ∈ table.years := by
      refine (List.mem_insertionSort _).mp (?_ : earlier ∈ table.sortedYears)
      rw [hsorted]
      exact List.mem_append_left _ hearlier
    exact ⟨(hformed.apart hsorted earlier hearlier).trans hlow, hends _ hearlierMem⟩)
    ((value.year, entry) :: after)
  unfold LunarTable.fromSolar
  rw [hsorted, hskip, fromSolarIn, if_neg (not_lt.mpr hlow),
    raiseIf_bind_of_not (not_not.mpr (hends _ hmem)), if_neg (not_le.mpr hhigh)]
  -- the months of the year
  have hnonneg : ∀ m ∈ entry.months, 0 ≤ m.2.2 := by
    intro m hm
    refine hformed.nonneg hmem _ ?_
    rw [← LunarYear.lengths_months]
    exact List.mem_map_of_mem hm
  rw [← LunarYear.lengths_months] at hat
  obtain ⟨number, isLeap, own, hget', hday⟩ := monthDay_at value.year hnonneg hat
  rw [hget] at hget'
  cases hget'
  obtain ⟨hmonth, -⟩ := LunarYear.hasMonth_of_getElem? (hformed.months _ hmem) hget
  have hrange : 1 ≤ value.day ∧ value.day ≤ 30 := by
    obtain ⟨length', hlength, hfirst, hlast, -⟩ := hat
    rw [LunarYear.lengths_months] at hlength
    rcases hformed.lengths _ hmem _ (List.mem_of_getElem? hlength) with rfl | rfl <;> omega
  rw [hday]
  show LunarDate.checked value.year value.month (value.day - 1 + 1) value.leap = .ok value
  rw [sub_add_cancel]
  unfold LunarDate.checked checkLunarDate
  rw [bind_assoc, raiseIf_bind_of_not (not_not.mpr hmonth.1),
    raiseIf_bind_of_not (not_not.mpr hrange)]
  rfl

end WellFormed

/-! ### The bijection -/

/-- The calendar order: the intercalary month comes right after the month of its number. -/
def Before (a b : LunarDate) : Prop :=
  a.year < b.year ∨ a.year = b.year ∧ (a.month < b.month ∨ a.month = b.month ∧
    (a.leap = false ∧ b.leap = true ∨ a.leap = b.leap ∧ a.day < b.day))

/-- The dates are in the order of the lunar dates. -/
theorem WellFormed.lt (hformed : table.WellFormed) (h : table.FallsOn value date)
    (h' : table.FallsOn value' date') (hbefore : Before value value') : date < date' := by
  obtain ⟨entry, i, length, hmem, hget, hat⟩ := h
  obtain ⟨entry', i', length', hmem', hget', hat'⟩ := h'
  obtain ⟨hlow, hhigh⟩ := hformed.within hmem hat
  obtain ⟨hlow', hhigh'⟩ := hformed.within hmem' hat'
  rcases hbefore with hyear | ⟨hyear, hbefore⟩
  · -- the earlier year stands in front of the later one
    have hlater : (value'.year, entry') ∈ table.sortedYears := (List.mem_insertionSort _).mpr hmem'
    obtain ⟨before, after, hsorted⟩ := List.append_of_mem hlater
    have horder := List.pairwise_insertionSort (fun a b : Int × LunarYear => a.1 ≤ b.1) table.years
    have hfirst : (value.year, entry) ∈ table.sortedYears := (List.mem_insertionSort _).mpr hmem
    rw [hsorted] at hfirst
    change table.sortedYears.Pairwise _ at horder
    rw [hsorted] at horder
    have hended : entry.firstDay + entry.span ≤ entry'.firstDay := by
      rcases List.mem_append.mp hfirst with hfront | hbehind
      · exact hformed.apart hsorted _ hfront
      · rcases List.mem_cons.mp hbehind with hsame | hbehind
        · exact absurd (congrArg Prod.fst hsame) hyear.ne
        · have hle := (List.pairwise_cons.mp (List.pairwise_append.mp horder).2.1).1 _ hbehind
          exact absurd hyear (not_lt.mpr hle)
    change date < entry.firstDay + entry.span at hhigh
    change entry'.firstDay ≤ date' at hlow'
    omega
  · -- one year has one entry
    have hentry : entry = entry' := by
      have hfound := year_of_mem hmem
      have hfound' := year_of_mem hmem'
      rw [hyear, hfound'] at hfound
      exact (Except.ok.inj hfound).symm
    subst hentry
    obtain ⟨hmonth, rfl⟩ := LunarYear.hasMonth_of_getElem? (hformed.months _ hmem) hget
    obtain ⟨hmonth', rfl⟩ := LunarYear.hasMonth_of_getElem? (hformed.months _ hmem) hget'
    have hplace : entry.place value.month value.leap < entry.place value'.month value'.leap ∨
        entry.place value.month value.leap = entry.place value'.month value'.leap ∧
          value.day - 1 < value'.day - 1 := by
      rcases hbefore with hlt | ⟨hsame, ⟨hleap, hleap'⟩ | ⟨hleap, hday⟩⟩
      · exact Or.inl (LunarYear.place_lt hmonth.1.1 hmonth.2.1 hmonth'.2.1 (Or.inl hlt))
      · exact Or.inl (LunarYear.place_lt hmonth.1.1 hmonth.2.1 hmonth'.2.1
          (Or.inr ⟨hsame, hleap, hleap'⟩))
      · exact Or.inr ⟨by rw [hsame, hleap], by omega⟩
    have hlt := hat.lt (hformed.nonneg hmem) hat' hplace
    omega

/-- A day that the month does not reach is clamped to its last one. -/
theorem WellFormed.clamps (hformed : table.WellFormed) {entry : LunarYear} {length : Int}
    (hmem : (value.year, entry) ∈ table.years)
    (hmonth : entry.HasMonth value.month value.leap length) :
    table.toSolar value true = table.toSolar { value with day := min value.day length } false := by
  have hregular : entry.Regular := hformed.months _ hmem
  have hget := LunarYear.getElem?_of_hasMonth hregular hmonth
  have hfirst : ∀ j < entry.place value.month value.leap, ∀ other,
      entry.months[j]? ≠ some (value.month, value.leap, other) := by
    intro j hj other hother
    have hplace := (LunarYear.hasMonth_of_getElem? hregular hother).2
    omega
  have hclamped := toSolarFrom_of_getElem? true entry.start 0 hget hfirst
  have hplain := @toSolarFrom_of_getElem? { value with day := min value.day length } _ _ _ false
    entry.start 0 hget hfirst
  have hsame : toSolarFrom value true entry.start 0 entry.months =
      toSolarFrom { value with day := min value.day length } false entry.start 0 entry.months := by
    rw [hclamped, hplain, if_neg (not_lt.mpr (min_le_right value.day length)), if_pos rfl]
    by_cases hlong : length < value.day
    · rw [if_pos hlong, min_eq_right hlong.le]
    · rw [if_neg hlong, min_eq_left (not_lt.mp hlong)]
  unfold LunarTable.toSolar
  rw [year_of_mem hmem]
  show (toSolarFrom value true entry.start 0 entry.months >>= _) =
    (toSolarFrom { value with day := min value.day length } false entry.start 0 entry.months >>= _)
  rw [hsame]

/-- **The conversions are inverse to each other.** -/
structure Bijective (table : LunarTable) : Prop where
  /-- every lunar date of the table has its Gregorian date, -/
  solar : ∀ value, table.Exists value → ∃ date, table.Covers date ∧
    table.toSolar value false = .ok date ∧ table.fromSolar date = .ok value
  /-- and every Gregorian date its lunar one -/
  lunar : ∀ date, table.Covers date → ∃ value, table.Exists value ∧
    table.fromSolar date = .ok value ∧ table.toSolar value false = .ok date
  increasing : ∀ value value' date date', table.Exists value → table.Exists value' →
    Before value value' → table.toSolar value false = .ok date →
      table.toSolar value' false = .ok date' → date < date'
  clamps : ∀ value entry length, (value.year, entry) ∈ table.years →
    entry.HasMonth value.month value.leap length →
      table.toSolar value true = table.toSolar { value with day := min value.day length } false

/-- **Lunar conversion is a bijection**, on every table of the calendar whose years all have a day
behind their last one. -/
theorem bijective_of_wellFormed (hformed : table.WellFormed) (hends : table.Ends) :
    table.Bijective where
  solar := by
    intro value hvalue
    obtain ⟨date, hfalls, hcovers⟩ := hformed.exists_date hvalue
    exact ⟨date, hcovers, hformed.toSolar hfalls (hcovers.inCalendar hends) false,
      hformed.fromSolar hfalls hends⟩
  lunar := by
    intro date hcovers
    obtain ⟨value, hfalls, hvalue⟩ := hformed.exists_value hcovers
    exact ⟨value, hvalue, hformed.fromSolar hfalls hends,
      hformed.toSolar hfalls (hcovers.inCalendar hends) false⟩
  increasing := by
    intro value value' date date' hvalue hvalue' hbefore hdate hdate'
    obtain ⟨found, hfalls, hcovers⟩ := hformed.exists_date hvalue
    obtain ⟨found', hfalls', hcovers'⟩ := hformed.exists_date hvalue'
    have hfound := hformed.toSolar hfalls (hcovers.inCalendar hends) false
    have hfound' := hformed.toSolar hfalls' (hcovers'.inCalendar hends) false
    rw [hdate] at hfound
    rw [hdate'] at hfound'
    rw [Except.ok.inj hfound, Except.ok.inj hfound']
    exact hformed.lt hfalls hfalls' hbefore
  clamps := fun _ _ _ hmem hmonth => hformed.clamps hmem hmonth

/-! ### The installed table -/

theorem installed_distinct : (lunarYears.map Prod.fst).Nodup := by decide

theorem installed_dated : ∀ entry ∈ lunarYears, Calendar.InCalendar entry.2.firstDay := by decide

/-- The snapshot that is installed. -/
def installed : LunarTable := ⟨lunarYears, installed_distinct, installed_dated⟩

theorem installed_sorted : installed.sortedYears = lunarYears := by decide +kernel

theorem installed_wellFormed : installed.WellFormed where
  contiguous := by
    rw [installed_sorted]
    decide +kernel
  lengths := by
    show ∀ entry ∈ lunarYears, ∀ length ∈ entry.2.lengths, length = 29 ∨ length = 30
    decide +kernel
  months := by
    show ∀ entry ∈ lunarYears, entry.2.lengths.length = 12 ∧ entry.2.leapMonth = 0 ∨
      entry.2.lengths.length = 13 ∧ 1 ≤ entry.2.leapMonth ∧ entry.2.leapMonth ≤ 12
    decide +kernel

theorem installed_ends : installed.Ends := by
  show ∀ entry ∈ lunarYears, Calendar.InCalendar (entry.2.firstDay + entry.2.span)
  decide +kernel

theorem installed_bijective : installed.Bijective :=
  bijective_of_wellFormed installed_wellFormed installed_ends

/-- A date that the loop finds is in the months that it has before it. -/
theorem toSolarFrom_bounds {clamp : Bool} {start offset : Int} {months : List (Int × Bool × Int)}
    (hpos : ∀ m ∈ months, 1 ≤ m.2.2) (hday : 1 ≤ value.day)
    (h : toSolarFrom value clamp start offset months = .ok date) :
    start + offset ≤ date ∧ date < start + offset + (months.map fun m => m.2.2).sum := by
  induction months generalizing offset with
  | nil => cases h
  | cons m months ih =>
    obtain ⟨number, isLeap, length⟩ := m
    have hlength : 1 ≤ length := hpos _ (List.mem_cons_self ..)
    have hrest : ∀ other ∈ months, 1 ≤ other.2.2 := fun other hother =>
      hpos other (List.mem_cons_of_mem _ hother)
    have hsum : 0 ≤ (months.map fun m => m.2.2).sum := by
      refine List.sum_nonneg fun l hl => ?_
      obtain ⟨other, hother, rfl⟩ := List.mem_map.mp hl
      exact (hrest other hother).trans' (by decide)
    rw [List.map_cons, List.sum_cons]
    unfold toSolarFrom at h
    split at h
    · split at h
      · split at h
        · have hdate : (start + (offset + length - 1) : Int) = date := Except.ok.inj h
          simp only
          omega
        · cases h
      · rename_i hlt
        have hdate : (start + (offset + value.day - 1) : Int) = date := Except.ok.inj h
        have hle : ¬ length < value.day := hlt
        simp only
        omega
    · obtain ⟨hlow, hhigh⟩ := ih hrest h
      simp only
      omega

/-- On the installed table these are the conversions of the important days. -/
theorem toSolar_installed (hday : 1 ≤ value.day) (clamp : Bool) :
    installed.toSolar value clamp = Zhixu.toSolar value clamp := by
  unfold LunarTable.toSolar Zhixu.toSolar
  have hyear : installed.year value.year = lunarYear value.year := rfl
  rw [hyear]
  cases hentry : lunarYear value.year with
  | error err => rfl
  | ok entry =>
    have hmem : (value.year, entry) ∈ installed.years := lunarYear_eq_ok.mp hentry
    show (toSolarFrom value clamp entry.start 0 entry.months >>= _) =
      toSolarFrom value clamp entry.start 0 entry.months
    cases hdate : toSolarFrom value clamp entry.start 0 entry.months with
    | error err => rfl
    | ok date =>
      have hpos : ∀ m ∈ entry.months, 1 ≤ m.2.2 := by
        intro m hm
        have hlength : m.2.2 ∈ entry.lengths := by
          rw [← LunarYear.lengths_months]
          exact List.mem_map_of_mem hm
        rcases installed_wellFormed.lengths _ hmem _ hlength with hlen | hlen <;> omega
      have hbounds := toSolarFrom_bounds hpos hday hdate
      rw [LunarYear.lengths_months] at hbounds
      have hcovers : installed.Covers date := by
        refine ⟨_, entry, hmem, ?_⟩
        unfold LunarYear.firstDay LunarYear.span
        omega
      exact raiseIf_bind_of_not (not_not.mpr (hcovers.inCalendar installed_ends))

/-! ### A year up to the last day of all -/

/-- Twelve months that end on 31 December 9999. -/
def lastYear : LunarYear where
  start := 3651706
  leapMonth := 0
  lengths := [30, 29, 30, 29, 30, 29, 30, 29, 30, 29, 30, 29]

def lastYears : List (Int × LunarYear) := [(9999, lastYear)]

theorem lastYears_distinct : (lastYears.map Prod.fst).Nodup := by decide

theorem lastYears_dated : ∀ entry ∈ lastYears, Calendar.InCalendar entry.2.firstDay := by decide

def upToTheEnd : LunarTable := ⟨lastYears, lastYears_distinct, lastYears_dated⟩

/-- Its first day exists, but the day behind its last one does not. -/
theorem not_bijective_lastYear : ¬ ∀ table : LunarTable, table.WellFormed → table.Bijective := by
  intro hall
  have hformed : upToTheEnd.WellFormed := {
    contiguous := List.isChain_singleton _
    lengths := by
      show ∀ entry ∈ lastYears, ∀ length ∈ entry.2.lengths, length = 29 ∨ length = 30
      decide
    months := by
      show ∀ entry ∈ lastYears, entry.2.lengths.length = 12 ∧ entry.2.leapMonth = 0 ∨
        entry.2.lengths.length = 13 ∧ 1 ≤ entry.2.leapMonth ∧ entry.2.leapMonth ≤ 12
      decide }
  have hcovers : upToTheEnd.Covers 3651706 :=
    ⟨9999, lastYear, List.mem_cons_self .., by decide, by decide⟩
  obtain ⟨value, -, hfound, -⟩ := (hall _ hformed).lunar _ hcovers
  have hraises : upToTheEnd.fromSolar 3651706 = .error .overflow := by decide +kernel
  rw [hraises] at hfound
  cases hfound

end LunarTable

end Zhixu
