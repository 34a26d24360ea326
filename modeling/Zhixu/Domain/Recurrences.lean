import Mathlib.Algebra.Order.BigOperators.Group.List
import Zhixu.Framework.PeriodSearch
import Zhixu.Domain.LunarCalendar

/-!
# The dates an important day recurs on

A solar important day recurs once in every year of the calendar. A lunar one recurs once in every
lunar year that is installed (`LunarYear.RecursOn`): on its day of its month, or on the last day of a
month that is too short, and in the month itself where the intercalary month does not exist.

`occurrenceIn` keeps, for a Gregorian year, the first of these dates. For the lunar calendar this
rests on the table: the dates of a lunar year all come before those of a later one (`recursIn_lt`), and
they fall into the Gregorian year of the same number or the one after it (`year_of_recursIn`). So the
two lunar years that the loop goes through are all that can meet a Gregorian year, and the first that
does has the first date (`occurrenceIn_eq_some`).

`next_occurrence` is then a search by Gregorian years, `FoundBy`, with all its limits.
-/

open Framework

namespace Zhixu

/-! ### The dates -/

namespace LunarYear

/-- New Year, as a number. -/
def firstDay (entry : LunarYear) : Int := entry.start

/-- A month of the year, with the day it begins on and its length. -/
def MonthAt (entry : LunarYear) (month : Int) (isLeap : Bool) (first length : Int) : Prop :=
  ∃ before after, entry.months = before ++ (month, isLeap, length) :: after ∧
    first = entry.firstDay + (before.map fun m => m.2.2).sum

/-- The date of a lunar month and day in a lunar year: in the intercalary month if it is asked for and
exists, and no later than the month ends. -/
def RecursOn (entry : LunarYear) (month day : Int) (leap : Bool) (date : Int) : Prop :=
  ∃ isLeap first length, entry.MonthAt month isLeap first length ∧
    (isLeap = true ↔ leap = true ∧ ∃ first length, entry.MonthAt month true first length) ∧
    date = first + min day length - 1

/-- The days of the year. -/
def span (entry : LunarYear) : Int := entry.lengths.sum

end LunarYear

/-- The date of a lunar month and day in the lunar year of that number. -/
def RecursIn (month day : Int) (leap : Bool) (year date : Int) : Prop :=
  ∃ entry, (year, entry) ∈ lunarYears ∧ entry.RecursOn month day leap date

/-- The date of a solar day in a year: 28 February for a day that the year does not have. -/
def SolarRecursIn (anchor year date : Int) : Prop :=
  let civil := Calendar.civil anchor
  Calendar.IsDate year 1 1 ∧
    date = Calendar.toOrdinal year civil.2.1 (min civil.2.2 (Calendar.daysInMonth year civil.2.1))

/-- **The dates an important day recurs on.** -/
def Anniversary.RecursOn (day : Anniversary) (date : Int) : Prop :=
  match day.calendar with
  | .solar => ∃ year, SolarRecursIn day.anchorDate.ordinal year date
  | .lunar => ∃ month dayOfMonth, day.lunarMonth = some month ∧ day.lunarDay = some dayOfMonth ∧
      ∃ year, RecursIn month dayOfMonth day.lunarLeap year date

/-- The dates as a set. -/
def Anniversary.dates (day : Anniversary) : Set Int := {date | day.RecursOn date}

/-! ### Years of dates -/

theorem yearOfDate_mono : Monotone (fun date : Int => yearOfDate date) := by
  intro d e hle
  by_contra hlt
  have hearlier := Calendar.ordinal_lt_of_month (Calendar.fits_civil e) (Calendar.fits_civil d)
    (.inl (not_le.mp hlt))
  rw [Calendar.ordinal_civil, Calendar.ordinal_civil] at hearlier
  exact absurd hle (not_le.mpr hearlier)

theorem yearOfDate_toOrdinal {year month day : Int} (h : Calendar.Fits year month day) :
    yearOfDate (Calendar.toOrdinal year month day) = year := by
  unfold yearOfDate
  rw [Calendar.civil_toOrdinal h]

/-! ### The table -/

/-- A lunar year has ended when a later one begins. -/
theorem lunarYears_apart : ∀ a ∈ lunarYears, ∀ b ∈ lunarYears, a.1 < b.1 →
    a.2.firstDay + a.2.span ≤ b.2.firstDay := by
  decide +kernel

/-- A lunar year begins in the Gregorian year of its number and ends in the next one, and its months
have no number twice and are never empty. -/
theorem lunarYears_each : ∀ entry ∈ lunarYears, yearOfDate entry.2.firstDay = entry.1 ∧
    yearOfDate (entry.2.firstDay + entry.2.span - 1) ≤ entry.1 + 1 ∧
    (entry.2.months.map fun m => (m.1, m.2.1)).Nodup ∧
    (∀ m ∈ entry.2.months, 1 ≤ m.2.2) ∧ (entry.2.months.map fun m => m.2.2).sum = entry.2.span := by
  decide +kernel

theorem lookup_lunarYears : ∀ entry ∈ lunarYears, lunarYears.lookup entry.1 = some entry.2 := by
  decide +kernel

theorem lunarYear_eq_ok {year : Int} {entry : LunarYear} :
    lunarYear year = .ok entry ↔ (year, entry) ∈ lunarYears := by
  unfold lunarYear
  constructor
  · intro h
    cases hl : lunarYears.lookup year with
    | none => rw [hl] at h; cases h
    | some found =>
      rw [hl] at h
      cases h
      obtain ⟨before, after, heq, -⟩ := List.lookup_eq_some_iff.mp hl
      rw [heq]
      exact List.mem_append_right _ (List.mem_cons_self ..)
  · intro h
    rw [lookup_lunarYears _ h]

/-! ### The months of a lunar year -/

section Months

variable {year : Int} {entry : LunarYear} (hmem : (year, entry) ∈ lunarYears)

include hmem

/-- A month lies in its year. -/
theorem LunarYear.MonthAt.within {month first length : Int} {isLeap : Bool}
    (h : entry.MonthAt month isLeap first length) :
    entry.firstDay ≤ first ∧ 1 ≤ length ∧ first + length ≤ entry.firstDay + entry.span := by
  obtain ⟨-, -, -, hpos, hsum⟩ := lunarYears_each _ hmem
  obtain ⟨before, after, hmonths, rfl⟩ := h
  simp only [hmonths] at hpos hsum
  have hbefore : 0 ≤ (before.map fun m => m.2.2).sum := by
    refine List.sum_nonneg fun length hlength => ?_
    obtain ⟨m, hm, rfl⟩ := List.mem_map.mp hlength
    exact (hpos m (List.mem_append_left _ hm)).trans' (by decide)
  have hafter : 0 ≤ (after.map fun m => m.2.2).sum := by
    refine List.sum_nonneg fun length hlength => ?_
    obtain ⟨m, hm, rfl⟩ := List.mem_map.mp hlength
    exact (hpos m (List.mem_append_right _ (List.mem_cons_of_mem _ hm))).trans' (by decide)
  have hself : 1 ≤ length := hpos _ (List.mem_append_right _ (List.mem_cons_self ..))
  rw [List.map_append, List.sum_append, List.map_cons, List.sum_cons] at hsum
  simp only at hsum
  exact ⟨Int.le_add_of_nonneg_right hbefore, hself, by omega⟩

/-- There is no month twice. -/
theorem LunarYear.MonthAt.unique {month first first' length length' : Int} {isLeap : Bool}
    (h : entry.MonthAt month isLeap first length) (h' : entry.MonthAt month isLeap first' length') :
    first = first' ∧ length = length' := by
  obtain ⟨-, -, hnodup, -⟩ := lunarYears_each _ hmem
  obtain ⟨before, after, hmonths, rfl⟩ := h
  obtain ⟨before', after', hmonths', rfl⟩ := h'
  have hindex : before.length = before'.length := by
    have hget : (entry.months.map fun m => (m.1, m.2.1))[before.length]? = some (month, isLeap) := by
      simp [hmonths]
    have hget' : (entry.months.map fun m => (m.1, m.2.1))[before'.length]? =
        some (month, isLeap) := by
      simp [hmonths']
    have hlt := (List.getElem?_eq_some_iff.mp hget).1
    exact (List.nodup_iff_injective_get.mp hnodup |> fun hinj => by
      have := @hinj ⟨_, hlt⟩ ⟨_, (List.getElem?_eq_some_iff.mp hget').1⟩ (by
        simp only [List.get_eq_getElem]
        rw [(List.getElem?_eq_some_iff.mp hget).2, (List.getElem?_eq_some_iff.mp hget').2])
      exact Fin.mk.inj this)
  obtain ⟨rfl, hrest⟩ := List.append_inj (hmonths.symm.trans hmonths') hindex
  cases hrest
  exact ⟨rfl, rfl⟩

/-- A date of the year lies in the year. -/
theorem LunarYear.RecursOn.within {month day date : Int} {leap : Bool} (hday : 1 ≤ day)
    (h : entry.RecursOn month day leap date) :
    entry.firstDay ≤ date ∧ date < entry.firstDay + entry.span := by
  obtain ⟨isLeap, first, length, hat, -, rfl⟩ := h
  obtain ⟨hstart, hlength, hend⟩ := hat.within hmem
  have hmin : 1 ≤ min day length ∧ min day length ≤ length :=
    ⟨le_min hday hlength, min_le_right _ _⟩
  omega

/-- A year has one date of a month and day. -/
theorem LunarYear.RecursOn.unique {month day date date' : Int} {leap : Bool}
    (h : entry.RecursOn month day leap date) (h' : entry.RecursOn month day leap date') :
    date = date' := by
  obtain ⟨isLeap, first, length, hat, hleap, rfl⟩ := h
  obtain ⟨isLeap', first', length', hat', hleap', rfl⟩ := h'
  have hsame : isLeap = isLeap' := Bool.eq_iff_iff.mpr (hleap.trans hleap'.symm)
  subst hsame
  obtain ⟨rfl, rfl⟩ := hat.unique hmem hat'
  rfl

end Months

/-! ### The loop of the conversion -/

/-- The loop stops at the first month that is asked for. -/
theorem toSolarFrom_eq_ok (value : LunarDate) (start : Int) (months : List (Int × Bool × Int))
    (offset date : Int) : toSolarFrom value true start offset months = .ok date ↔
      ∃ before length after, months = before ++ (value.month, value.leap, length) :: after ∧
        (∀ m ∈ before, ¬ (m.1 = value.month ∧ m.2.1 = value.leap)) ∧
        date = start + (offset + (before.map fun m => m.2.2).sum) + min value.day length - 1 := by
  induction months generalizing offset with
  | nil => simp [toSolarFrom]
  | cons m months ih =>
    obtain ⟨number, isLeap, length⟩ := m
    unfold toSolarFrom
    by_cases hthis : number = value.month ∧ isLeap = value.leap
    · obtain ⟨rfl, rfl⟩ := hthis
      have hvalue : ∀ result : Int, (if length < value.day then
            if true = true then (.ok (start + (offset + length - 1)) : Except PyError Date)
            else .error (.validation "lunisolar day does not exist in that month")
          else .ok (start + (offset + value.day - 1))) = .ok result ↔
          result = start + offset + min value.day length - 1 := by
        intro result
        by_cases hlt : length < value.day
        · rw [if_pos hlt, if_pos rfl, min_eq_right hlt.le, Except.ok.injEq]
          change (start + (offset + length - 1) : Int) = result ↔ _
          exact ⟨fun h => by omega, fun h => by omega⟩
        · rw [if_neg hlt, min_eq_left (not_lt.mp hlt), Except.ok.injEq]
          change (start + (offset + value.day - 1) : Int) = result ↔ _
          exact ⟨fun h => by omega, fun h => by omega⟩
      rw [if_pos ⟨rfl, rfl⟩, hvalue]
      constructor
      · rintro rfl
        exact ⟨[], length, months, rfl, fun m hm => absurd hm List.not_mem_nil, by simp⟩
      · rintro ⟨before, length', after, hmonths, hnone, rfl⟩
        cases before with
        | nil =>
          cases hmonths
          simp
        | cons m before =>
          rw [List.cons_append] at hmonths
          cases hmonths
          exact absurd ⟨rfl, rfl⟩ (hnone _ (List.mem_cons_self ..))
    · rw [if_neg hthis, ih]
      constructor
      · rintro ⟨before, length', after, rfl, hnone, rfl⟩
        refine ⟨(number, isLeap, length) :: before, length', after, rfl, fun m hm => ?_, ?_⟩
        · rcases List.mem_cons.mp hm with rfl | hm
          · exact hthis
          · exact hnone m hm
        · rw [List.map_cons, List.sum_cons]
          simp only
          omega
      · rintro ⟨before, length', after, hmonths, hnone, rfl⟩
        cases before with
        | nil =>
          cases hmonths
          exact absurd ⟨rfl, rfl⟩ hthis
        | cons m before =>
          rw [List.cons_append] at hmonths
          cases hmonths
          refine ⟨before, length', after, rfl, fun m hm => hnone m (List.mem_cons_of_mem _ hm), ?_⟩
          rw [List.map_cons, List.sum_cons]
          simp only
          omega

/-- `to_solar` finds the month, and clamps the day to it. -/
theorem toSolar_eq_ok (value : LunarDate) (date : Int) : toSolar value true = .ok date ↔
    ∃ entry first length, (value.year, entry) ∈ lunarYears ∧
      entry.MonthAt value.month value.leap first length ∧
      date = first + min value.day length - 1 := by
  unfold toSolar
  constructor
  · intro h
    obtain ⟨entry, hentry, h⟩ := bind_eq_ok.mp h
    obtain ⟨before, length, after, hmonths, -, rfl⟩ := (toSolarFrom_eq_ok ..).mp h
    refine ⟨entry, _, length, lunarYear_eq_ok.mp hentry, ⟨before, after, hmonths, rfl⟩, ?_⟩
    unfold LunarYear.firstDay
    rw [Int.zero_add]
  · rintro ⟨entry, first, length, hmem, ⟨before, after, hmonths, rfl⟩, rfl⟩
    rw [lunarYear_eq_ok.mpr hmem]
    refine (toSolarFrom_eq_ok ..).mpr ⟨before, length, after, hmonths, fun m hm hkey => ?_, ?_⟩
    · -- the month would be there twice
      obtain ⟨-, -, hnodup, -⟩ := lunarYears_each _ hmem
      simp only [hmonths, List.map_append, List.map_cons] at hnodup
      have hdisjoint := (List.nodup_append.mp hnodup).2.2
      exact hdisjoint _ (List.mem_map.mpr ⟨m, hm, rfl⟩) _ (List.mem_cons_self ..)
        (Prod.ext hkey.1 hkey.2)
    · unfold LunarYear.firstDay
      rw [Int.zero_add]

/-- Without the intercalary month, the date is in the month itself. -/
theorem recursIn_regular {month day year date : Int} {leap : Bool}
    (hnone : leap = true → ∀ date : Int, toSolar ⟨year, month, day, true⟩ true ≠ .ok date) :
    RecursIn month day leap year date ↔ toSolar ⟨year, month, day, false⟩ true = .ok date := by
  rw [toSolar_eq_ok]
  constructor
  · rintro ⟨entry, hmem, isLeap, first, length, hat, hleap, rfl⟩
    cases isLeap with
    | false => exact ⟨entry, first, length, hmem, hat, rfl⟩
    | true =>
      have hno := hnone (hleap.mp rfl).1 (first + min day length - 1)
      exact absurd ((toSolar_eq_ok ..).mpr ⟨entry, first, length, hmem, hat, rfl⟩) hno
  · rintro ⟨entry, first, length, hmem, hat, rfl⟩
    refine ⟨entry, hmem, false, first, length, hat, ?_, rfl⟩
    refine ⟨fun h => absurd h Bool.false_ne_true, fun h => ?_⟩
    obtain ⟨hleap, first, length, hat⟩ := h
    have htrue : toSolar ⟨year, month, day, true⟩ true = .ok (first + min day length - 1) :=
      (toSolar_eq_ok ..).mpr ⟨entry, first, length, hmem, hat, rfl⟩
    exact absurd htrue (hnone hleap _)

/-- With the intercalary month, the date is in it. -/
theorem recursIn_intercalary {month day year date found : Int}
    (h : toSolar ⟨year, month, day, true⟩ true = .ok found) :
    RecursIn month day true year date ↔ found = date := by
  obtain ⟨entry, first, length, hmem, hat, rfl⟩ := (toSolar_eq_ok ..).mp h
  have hrecurs : entry.RecursOn month day true (first + min day length - 1) :=
    ⟨true, first, length, hat, iff_of_true rfl ⟨rfl, first, length, hat⟩, rfl⟩
  constructor
  · rintro ⟨entry', hmem', hrecurs'⟩
    have hsame : entry = entry' := by
      have hlookup := lookup_lunarYears _ hmem
      rw [lookup_lunarYears _ hmem'] at hlookup
      exact (Option.some.inj hlookup).symm
    subst hsame
    exact hrecurs.unique hmem hrecurs'
  · rintro rfl
    exact ⟨entry, hmem, hrecurs⟩

/-! ### The candidates -/

/-- What one lunar year gives. -/
theorem lunarOccurrence_eq_some {month day : Int} (hcheck : checkLunarDate month day = .ok ())
    (lunarYear : Int) (leap : Bool) (date : Int) :
    lunarOccurrence lunarYear month day leap = some date ↔
      RecursIn month day leap lunarYear date := by
  -- what the loop tries, in the month that is asked for and in the month itself
  obtain ⟨attempt, hloop, hattempt⟩ : ∃ attempt : Bool → Option Date,
      lunarOccurrence lunarYear month day leap =
        (if leap then [true, false] else [false]).findSome? attempt ∧
      ∀ useLeap date, attempt useLeap = some date ↔
        toSolar ⟨lunarYear, month, day, useLeap⟩ true = .ok date := by
    refine ⟨_, rfl, fun useLeap date => ?_⟩
    unfold LunarDate.checked
    simp only [hcheck, bind, Except.bind, pure, Except.pure]
    cases toSolar ⟨lunarYear, month, day, useLeap⟩ true with
    | ok found => simp only [Option.some.injEq, Except.ok.injEq]
    | error e => exact ⟨fun h => (Option.some_ne_none _ h.symm).elim, fun h => by cases h⟩
  have hregular : (leap = true → ∀ date : Int, toSolar ⟨lunarYear, month, day, true⟩ true ≠ .ok date) →
      ([false].findSome? attempt = some date ↔ RecursIn month day leap lunarYear date) := by
    intro hnone
    rw [recursIn_regular hnone, List.findSome?_singleton, hattempt]
  rw [hloop]
  cases leap with
  | false => exact hregular fun h => absurd h Bool.false_ne_true
  | true =>
    rw [if_pos rfl, List.findSome?_cons]
    cases htrue : attempt true with
    | some found =>
      rw [recursIn_intercalary ((hattempt true found).mp htrue)]
      exact ⟨fun h => Option.some.inj h, fun h => congrArg some h⟩
    | none =>
      refine hregular fun _ date hok => ?_
      rw [(hattempt true date).mpr hok] at htrue
      cases htrue

variable {month day : Int} {leap : Bool}

/-- **The dates of a lunar year come before those of a later one.** -/
theorem recursIn_lt (hday : 1 ≤ day) {year year' date date' : Int}
    (h : RecursIn month day leap year date) (h' : RecursIn month day leap year' date')
    (hlt : year < year') : date < date' := by
  obtain ⟨entry, hmem, hrecurs⟩ := h
  obtain ⟨entry', hmem', hrecurs'⟩ := h'
  calc date < entry.firstDay + entry.span := (hrecurs.within hmem hday).2
    _ ≤ entry'.firstDay := lunarYears_apart _ hmem _ hmem' hlt
    _ ≤ date' := (hrecurs'.within hmem' hday).1

/-- **A date of a lunar year** is in the Gregorian year of the number, or the next one. -/
theorem year_of_recursIn (hday : 1 ≤ day) {year date : Int} (h : RecursIn month day leap year date) :
    yearOfDate date = year ∨ yearOfDate date = year + 1 := by
  obtain ⟨entry, hmem, hrecurs⟩ := h
  obtain ⟨hfirst, hlast, -⟩ := lunarYears_each _ hmem
  obtain ⟨hlow, hhigh⟩ := hrecurs.within hmem hday
  have hafter := yearOfDate_mono hlow
  have hbefore := yearOfDate_mono (show date ≤ entry.firstDay + entry.span - 1 by omega)
  simp only at hfirst hlast hafter hbefore
  rw [hfirst] at hafter
  have hle := hbefore.trans hlast
  omega

/-- What the loop of `occurrence_in` finds is the first date of the Gregorian year. -/
theorem lunarOccurrence_picks (hcheck : checkLunarDate month day = .ok ()) (year : Int) :
    Picks {date | ∃ lunarYear, RecursIn month day leap lunarYear date} yearOfDate year
      ([year - 1, year].findSome? fun lunarYear =>
        (lunarOccurrence lunarYear month day leap).filter fun date => yearOfDate date = year) := by
  have hday : 1 ≤ day := by
    obtain ⟨-, h⟩ := raiseIf_bind_ok.mp hcheck
    exact (not_not.mp (raiseIf_eq_ok.mp h)).1
  -- a lunar year meets the Gregorian year in its date, or not at all
  have hfound : ∀ lunarYear date, ((lunarOccurrence lunarYear month day leap).filter
      fun date => yearOfDate date = year) = some date ↔
        RecursIn month day leap lunarYear date ∧ yearOfDate date = year := by
    intro lunarYear date
    rw [Option.filter_eq_some_iff, decide_eq_true_eq,
      lunarOccurrence_eq_some hcheck lunarYear leap date]
  have htwo : ∀ lunarYear date, RecursIn month day leap lunarYear date → yearOfDate date = year →
      lunarYear = year - 1 ∨ lunarYear = year := by
    intro lunarYear date hrecurs hyear
    have hin := year_of_recursIn hday hrecurs
    omega
  rw [List.findSome?_cons, List.findSome?_singleton]
  cases hbefore : (lunarOccurrence (year - 1) month day leap).filter
      fun date => yearOfDate date = year with
  | some found =>
    -- the date of the lunar year that began the year before is the earlier one
    obtain ⟨hrecurs, hyear⟩ := (hfound _ _).mp hbefore
    refine ⟨fun date hdate => ?_, fun hnone => absurd hnone (Option.some_ne_none _)⟩
    cases hdate
    refine ⟨⟨⟨year - 1, hrecurs⟩, hyear⟩, fun date hdate => ?_⟩
    obtain ⟨⟨lunarYear, hrecurs'⟩, hyear'⟩ := hdate
    rcases htwo lunarYear date hrecurs' hyear' with rfl | rfl
    · rw [(hfound _ _).mpr ⟨hrecurs', hyear'⟩] at hbefore
      cases hbefore
      exact le_refl _
    · exact (recursIn_lt hday hrecurs hrecurs' (by omega)).le
  | none =>
    have hnone : ∀ date, RecursIn month day leap (year - 1) date → yearOfDate date ≠ year := by
      intro date hrecurs hyear
      rw [(hfound _ _).mpr ⟨hrecurs, hyear⟩] at hbefore
      cases hbefore
    constructor
    · intro date hdate
      obtain ⟨hrecurs, hyear⟩ := (hfound _ _).mp hdate
      refine ⟨⟨⟨year, hrecurs⟩, hyear⟩, fun date' hdate' => ?_⟩
      obtain ⟨⟨lunarYear, hrecurs'⟩, hyear'⟩ := hdate'
      rcases htwo lunarYear date' hrecurs' hyear' with rfl | rfl
      · exact absurd hyear' (hnone date' hrecurs')
      · rw [(hfound _ _).mpr ⟨hrecurs', hyear'⟩] at hdate
        cases hdate
        exact le_refl _
    · rintro hfinal date ⟨lunarYear, hrecurs⟩ hyear
      rcases htwo lunarYear date hrecurs hyear with rfl | rfl
      · exact hnone date hrecurs hyear
      · rw [(hfound _ _).mpr ⟨hrecurs, hyear⟩] at hfinal
        cases hfinal

/-! ### The solar calendar -/

/-- Only 29 February can be missing in another year. -/
theorem missing_day {anchorYear year month day : Int}
    (hday : day ≤ Calendar.daysInMonth anchorYear month)
    (hmissing : Calendar.daysInMonth year month < day) :
    month = 2 ∧ Calendar.daysInMonth year month = 28 := by
  unfold Calendar.daysInMonth at *
  split_ifs at * <;> omega

/-- A day of the calendar in another year, or 28 February. -/
theorem solarOccurrence_eq_ok {anchor : Int} (hanchor : Calendar.InCalendar anchor)
    (year date : Int) : solarOccurrence anchor year = .ok date ↔ SolarRecursIn anchor year date := by
  obtain ⟨-, -, hmonth1, hmonth12, hday1, hday⟩ := Calendar.isDate_civil hanchor
  unfold solarOccurrence SolarRecursIn
  generalize Calendar.civil anchor = civil at hmonth1 hmonth12 hday1 hday
  obtain ⟨anchorYear, month, day⟩ := civil
  simp only at hmonth1 hmonth12 hday1 hday ⊢
  have hbounds := Calendar.daysInMonth_bounds year
  by_cases hyear : 1 ≤ year ∧ year ≤ 9999
  · have hfirst : Calendar.IsDate year 1 1 := by
      have hjan := hbounds 1
      unfold Calendar.IsDate
      omega
    by_cases hexists : day ≤ Calendar.daysInMonth year month
    · have hdate : Calendar.IsDate year month day := by
        unfold Calendar.IsDate
        omega
      rw [if_pos hdate, min_eq_left hexists, Except.ok.injEq]
      exact ⟨fun h => ⟨hfirst, h.symm⟩, fun h => h.2.symm⟩
    · have hno : ¬ Calendar.IsDate year month day := fun h => hexists h.fits.2.2
      have hfebruary : Calendar.IsDate year 2 28 := by
        have hfeb := hbounds 2
        unfold Calendar.IsDate
        omega
      obtain ⟨rfl, hlast⟩ := missing_day hday (not_le.mp hexists)
      rw [if_neg hno, if_pos hfebruary, min_eq_right (not_le.mp hexists).le, hlast, Except.ok.injEq]
      exact ⟨fun h => ⟨hfirst, h.symm⟩, fun h => h.2.symm⟩
  · have hno : ∀ month day, ¬ Calendar.IsDate year month day := fun _ _ h => hyear ⟨h.1, h.2.1⟩
    rw [if_neg (hno _ _), if_neg (hno _ _)]
    refine ⟨fun h => ?_, fun h => absurd h.1 (hno _ _)⟩
    cases h

/-- The date of a solar day in a year is in that year. -/
theorem year_of_solarRecursIn {anchor year date : Int} (hanchor : Calendar.InCalendar anchor)
    (h : SolarRecursIn anchor year date) : yearOfDate date = year := by
  obtain ⟨-, -, hmonth1, hmonth12, hday1, -⟩ := Calendar.isDate_civil hanchor
  obtain ⟨-, rfl⟩ := h
  have hlast := Calendar.daysInMonth_bounds year (Calendar.civil anchor).2.1
  exact yearOfDate_toOrdinal ⟨⟨hmonth1, hmonth12⟩, le_min hday1 (by omega), min_le_right _ _⟩

/-- A year has one date of a solar day. -/
theorem SolarRecursIn.unique {anchor year date date' : Int} (h : SolarRecursIn anchor year date)
    (h' : SolarRecursIn anchor year date') : date = date' :=
  h.2.trans h'.2.symm

/-! ### Both calendars -/

namespace Anniversary

variable {day : Anniversary}

theorem dates_solar (hcalendar : day.calendar = .solar) :
    day.dates = {date | ∃ year, SolarRecursIn day.anchorDate.ordinal year date} := by
  unfold dates RecursOn
  rw [hcalendar]

/-- A lunar day has a month and a day, and recurs on their dates. -/
theorem exists_dates_lunar (hcalendar : day.calendar = .lunar)
    (hcheck : day.checkCalendar = .ok ()) :
    ∃ month dayOfMonth, day.lunarMonth = some month ∧ day.lunarDay = some dayOfMonth ∧
      checkLunarDate month dayOfMonth = .ok () ∧
      day.dates = {date | ∃ year, RecursIn month dayOfMonth day.lunarLeap year date} := by
  unfold checkCalendar at hcheck
  rw [hcalendar] at hcheck
  cases hmonth : day.lunarMonth with
  | none => rw [hmonth] at hcheck; cases hcheck
  | some month =>
    cases hday : day.lunarDay with
    | none => rw [hmonth, hday] at hcheck; cases hcheck
    | some dayOfMonth =>
      rw [hmonth, hday] at hcheck
      refine ⟨month, dayOfMonth, rfl, rfl, hcheck, Set.ext fun date => ?_⟩
      unfold dates RecursOn
      rw [hcalendar, hmonth, hday]
      simp only [Set.mem_ofPred_eq, Option.some.injEq, exists_and_left, exists_eq_left']

/-- **The candidate of a year** is the first date of it on which the day recurs. -/
theorem occurrenceIn_eq_some (hcheck : day.checkCalendar = .ok ()) (year date : Int) :
    day.occurrenceIn year = .ok (some date) ↔ FirstIn day.dates yearOfDate year date := by
  unfold occurrenceIn
  cases hcalendar : day.calendar with
  | solar =>
    have hyear : ∀ year date, SolarRecursIn day.anchorDate.ordinal year date →
        yearOfDate date = year :=
      fun _ _ => year_of_solarRecursIn day.anchorDate.exists_in_calendar
    have hvalue : (some <$> solarOccurrence day.anchorDate.ordinal year : Except PyError (Option Date))
        = .ok (some date) ↔ SolarRecursIn day.anchorDate.ordinal year date := by
      rw [← solarOccurrence_eq_ok day.anchorDate.exists_in_calendar]
      cases solarOccurrence day.anchorDate.ordinal year with
      | ok found => simp only [Functor.map, Except.map, Except.ok.injEq, Option.some.injEq]
      | error e => simp only [Functor.map, Except.map, reduceCtorEq]
    rw [dates_solar hcalendar]
    simp only
    rw [hvalue]
    constructor
    · intro hrecurs
      refine ⟨⟨⟨year, hrecurs⟩, hyear _ _ hrecurs⟩, fun date' hdate' => ?_⟩
      obtain ⟨⟨year', hrecurs'⟩, hyear'⟩ := hdate'
      obtain rfl := (hyear _ _ hrecurs').symm.trans hyear'
      exact (hrecurs.unique hrecurs').le
    · rintro ⟨⟨⟨year', hrecurs⟩, hyear'⟩, -⟩
      obtain rfl := (hyear _ _ hrecurs).symm.trans hyear'
      exact hrecurs
  | lunar =>
    obtain ⟨month, dayOfMonth, hmonth, hday, hlunar, hdates⟩ := exists_dates_lunar hcalendar hcheck
    rw [hdates, hmonth, hday, ← (lunarOccurrence_picks hlunar year).eq_some_iff]
    exact ⟨fun h => Except.ok.inj h, fun h => congrArg Except.ok h⟩

/-- A lunar day has an answer for any year. -/
theorem exists_occurrenceIn (hcalendar : day.calendar = .lunar)
    (hcheck : day.checkCalendar = .ok ()) (year : Int) :
    ∃ found, day.occurrenceIn year = .ok found := by
  obtain ⟨month, dayOfMonth, hmonth, hday, -⟩ := exists_dates_lunar hcalendar hcheck
  unfold occurrenceIn
  rw [hcalendar, hmonth, hday]
  exact ⟨_, rfl⟩

/-- Any day has an answer for a year of the calendar. -/
theorem exists_occurrenceIn_of_year (hcheck : day.checkCalendar = .ok ()) {year : Int}
    (hyear : 1 ≤ year ∧ year ≤ 9999) : ∃ found, day.occurrenceIn year = .ok found := by
  cases hcalendar : day.calendar with
  | lunar => exact exists_occurrenceIn hcalendar hcheck year
  | solar =>
    have hfirst : Calendar.IsDate year 1 1 := ⟨hyear.1, hyear.2, by decide, by decide, by decide, by
      exact (Calendar.daysInMonth_bounds year 1).1.trans' (by decide)⟩
    have hdate := (solarOccurrence_eq_ok day.anchorDate.exists_in_calendar year _).mpr ⟨hfirst, rfl⟩
    unfold occurrenceIn
    rw [hcalendar]
    simp only
    rw [hdate]
    exact ⟨_, rfl⟩

/-- **The next occurrence** is what the search by years finds. -/
theorem nextOccurrence_eq_some (hcheck : day.checkCalendar = .ok ()) {today : Int}
    (htoday : Calendar.InCalendar today) (date : Int) :
    day.nextOccurrence today = .ok (some date) ↔ FoundBy day.dates yearOfDate today date := by
  have hyear : 1 ≤ yearOfDate today ∧ yearOfDate today ≤ 9999 :=
    ⟨(Calendar.isDate_civil htoday).1, (Calendar.isDate_civil htoday).2.1⟩
  obtain ⟨this, hthis⟩ := exists_occurrenceIn_of_year hcheck hyear
  have hfirst : ∀ e : Int, this = some e ↔ FirstIn day.dates yearOfDate (yearOfDate today) e := by
    intro e
    rw [← occurrenceIn_eq_some hcheck, hthis, Except.ok.injEq]
  unfold nextOccurrence FoundBy
  rw [hthis]
  simp only [bind, Except.bind, pure, Except.pure, ← hfirst, ← occurrenceIn_eq_some hcheck]
  cases hfilter : this.filter fun date => decide ((today : Int) ≤ date) with
  | some found =>
    obtain ⟨hfound, hahead⟩ := Option.filter_eq_some_iff.mp hfilter
    rw [decide_eq_true_eq] at hahead
    simp only [Except.ok.injEq, Option.some.injEq]
    constructor
    · rintro rfl
      exact .inl ⟨hfound, hahead⟩
    · rintro (⟨hdate, -⟩ | ⟨hnone, -⟩)
      · exact Option.some.inj (hfound.symm.trans hdate)
      · exact absurd hahead (hnone found hfound)
  | none =>
    have hnone : ∀ e : Int, this = some e → ¬ today ≤ e := by
      intro e he hle
      rw [he, Option.filter_some_pos (by simpa using hle)] at hfilter
      cases hfilter
    have hor : ∀ P : Prop, ((this = some date ∧ today ≤ date) ∨
        ((∀ e : Int, this = some e → ¬ today ≤ e) ∧ P)) ↔ P := by
      intro P
      exact ⟨fun h => h.elim (fun h => absurd h.2 (hnone date h.1)) And.right,
        fun h => .inr ⟨hnone, h⟩⟩
    rw [hor]
    cases day.occurrenceIn (yearOfDate today + 1) with
    | error e => simp
    | ok next =>
      simp only [Except.ok.injEq, Option.filter_eq_some_iff, decide_eq_true_eq]

/-- A lunar day has an answer for any date. -/
theorem exists_nextOccurrence (hcalendar : day.calendar = .lunar)
    (hcheck : day.checkCalendar = .ok ()) (today : Date) :
    ∃ found, day.nextOccurrence today = .ok found := by
  obtain ⟨this, hthis⟩ := exists_occurrenceIn hcalendar hcheck (yearOfDate today)
  obtain ⟨next, hnext⟩ := exists_occurrenceIn hcalendar hcheck (yearOfDate today + 1)
  unfold nextOccurrence
  rw [hthis, hnext]
  simp only [bind, Except.bind, pure, Except.pure]
  cases this.filter fun date => decide ((today : Int) ≤ date) with
  | some found => exact ⟨_, rfl⟩
  | none => exact ⟨_, rfl⟩

end Anniversary

end Zhixu
