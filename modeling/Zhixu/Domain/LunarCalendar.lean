import Zhixu.Domain.Briefing

/-!
# The lunisolar calendar

A snapshot of the Chinese calendar: for each lunar year the solar date of its first day, the number
of its intercalary month (0 for none), and the lengths of its months in order. An intercalary month
has the number of the month before it.
-/

open Framework

namespace Zhixu

structure LunarDate where
  year : Int
  month : Int
  day : Int
  leap : Bool := false
deriving DecidableEq, Repr

/-- `LunarDate(…)`. -/
def LunarDate.checked (year month day : Int) (leap : Bool) : Except PyError LunarDate := do
  checkLunarDate month day
  return { year, month, day, leap }

structure LunarYear where
  start : Date
  leapMonth : Int
  lengths : List Int
deriving DecidableEq, Repr

namespace LunarYear

/-- The loop of `months`: what it appends for the lengths that are left. -/
def monthsFrom (leapMonth : Int) : Int → Bool → List Int → List (Int × Bool × Int)
  | _, _, [] => []
  | number, seenLeap, length :: lengths =>
    if seenLeap = false ∧ leapMonth ≠ 0 ∧ number - 1 = leapMonth then
      (leapMonth, true, length) :: monthsFrom leapMonth number true lengths
    else (number, false, length) :: monthsFrom leapMonth (number + 1) seenLeap lengths

/-- `months`: the number of each month, whether it is intercalary, and its length. -/
def months (entry : LunarYear) : List (Int × Bool × Int) :=
  monthsFrom entry.leapMonth 1 false entry.lengths

end LunarYear

/-- `_YEARS`. -/
def lunarYears : List (Int × LunarYear) := [
  (2000, ⟨Calendar.toOrdinal 2000 2 5, 0, [30, 30, 29, 29, 30, 29, 29, 30, 29, 30, 30, 29]⟩),
  (2001, ⟨Calendar.toOrdinal 2001 1 24, 4, [30, 30, 29, 30, 29, 30, 29, 29, 30, 29, 30, 29, 30]⟩),
  (2002, ⟨Calendar.toOrdinal 2002 2 12, 0, [30, 30, 29, 30, 29, 30, 29, 29, 30, 29, 30, 29]⟩),
  (2003, ⟨Calendar.toOrdinal 2003 2 1, 0, [30, 30, 29, 30, 30, 29, 30, 29, 29, 30, 29, 30]⟩),
  (2004, ⟨Calendar.toOrdinal 2004 1 22, 2, [29, 30, 29, 30, 30, 29, 30, 29, 30, 29, 30, 29, 30]⟩),
  (2005, ⟨Calendar.toOrdinal 2005 2 9, 0, [29, 30, 29, 30, 29, 30, 30, 29, 30, 29, 30, 29]⟩),
  (2006, ⟨Calendar.toOrdinal 2006 1 29, 7, [30, 29, 30, 29, 30, 29, 30, 29, 30, 30, 29, 30, 30]⟩),
  (2007, ⟨Calendar.toOrdinal 2007 2 18, 0, [29, 29, 30, 29, 29, 30, 29, 30, 30, 30, 29, 30]⟩),
  (2008, ⟨Calendar.toOrdinal 2008 2 7, 0, [30, 29, 29, 30, 29, 29, 30, 29, 30, 30, 29, 30]⟩),
  (2009, ⟨Calendar.toOrdinal 2009 1 26, 5, [30, 30, 29, 29, 30, 29, 29, 30, 29, 30, 29, 30, 30]⟩),
  (2010, ⟨Calendar.toOrdinal 2010 2 14, 0, [30, 29, 30, 29, 30, 29, 29, 30, 29, 30, 29, 30]⟩),
  (2011, ⟨Calendar.toOrdinal 2011 2 3, 0, [30, 29, 30, 30, 29, 30, 29, 29, 30, 29, 30, 29]⟩),
  (2012, ⟨Calendar.toOrdinal 2012 1 23, 4, [30, 29, 30, 30, 29, 30, 29, 30, 29, 30, 29, 30, 29]⟩),
  (2013, ⟨Calendar.toOrdinal 2013 2 10, 0, [30, 29, 30, 29, 30, 30, 29, 30, 29, 30, 29, 30]⟩),
  (2014, ⟨Calendar.toOrdinal 2014 1 31, 9, [29, 30, 29, 30, 29, 30, 29, 30, 30, 29, 30, 29, 30]⟩),
  (2015, ⟨Calendar.toOrdinal 2015 2 19, 0, [29, 30, 29, 29, 30, 29, 30, 30, 30, 29, 30, 29]⟩),
  (2016, ⟨Calendar.toOrdinal 2016 2 8, 0, [30, 29, 30, 29, 29, 30, 29, 30, 30, 29, 30, 30]⟩),
  (2017, ⟨Calendar.toOrdinal 2017 1 28, 6, [29, 30, 29, 30, 29, 29, 30, 29, 30, 29, 30, 30, 30]⟩),
  (2018, ⟨Calendar.toOrdinal 2018 2 16, 0, [29, 30, 29, 30, 29, 29, 30, 29, 30, 29, 30, 30]⟩),
  (2019, ⟨Calendar.toOrdinal 2019 2 5, 0, [30, 29, 30, 29, 30, 29, 29, 30, 29, 29, 30, 30]⟩),
  (2020, ⟨Calendar.toOrdinal 2020 1 25, 4, [29, 30, 30, 30, 29, 30, 29, 29, 30, 29, 30, 29, 30]⟩),
  (2021, ⟨Calendar.toOrdinal 2021 2 12, 0, [29, 30, 30, 29, 30, 29, 30, 29, 30, 29, 30, 29]⟩),
  (2022, ⟨Calendar.toOrdinal 2022 2 1, 0, [30, 29, 30, 29, 30, 30, 29, 30, 29, 30, 29, 30]⟩),
  (2023, ⟨Calendar.toOrdinal 2023 1 22, 2, [29, 30, 29, 29, 30, 30, 29, 30, 30, 29, 30, 29, 30]⟩),
  (2024, ⟨Calendar.toOrdinal 2024 2 10, 0, [29, 30, 29, 29, 30, 29, 30, 30, 29, 30, 30, 29]⟩),
  (2025, ⟨Calendar.toOrdinal 2025 1 29, 6, [30, 29, 30, 29, 29, 30, 29, 30, 29, 30, 30, 30, 29]⟩),
  (2026, ⟨Calendar.toOrdinal 2026 2 17, 0, [30, 29, 30, 29, 29, 30, 29, 29, 30, 30, 30, 29]⟩),
  (2027, ⟨Calendar.toOrdinal 2027 2 6, 0, [30, 30, 29, 30, 29, 29, 30, 29, 29, 30, 30, 29]⟩)]

/-- `_year`. -/
def lunarYear (year : Int) : Except PyError LunarYear :=
  match lunarYears.lookup year with
  | some entry => .ok entry
  | none => .error (.validation "lunisolar calendar year is not installed")

/-- The loop of `to_solar`, `offset` days into the year. -/
def toSolarFrom (value : LunarDate) (clamp : Bool) (start : Date) :
    Int → List (Int × Bool × Int) → Except PyError Date
  | _, [] => .error (.validation "lunisolar month does not exist in that year")
  | offset, (number, isLeap, length) :: months =>
    if number = value.month ∧ isLeap = value.leap then
      if length < value.day then
        if clamp then .ok (start + (offset + length - 1))
        else .error (.validation "lunisolar day does not exist in that month")
      else .ok (start + (offset + value.day - 1))
    else toSolarFrom value clamp start (offset + length) months

/-- `to_solar`. -/
def toSolar (value : LunarDate) (clamp : Bool) : Except PyError Date := do
  let entry ← lunarYear value.year
  toSolarFrom value clamp entry.start 0 entry.months

/-- The new year of 2020 and the first day of its intercalary fourth month. -/
example : toSolar ⟨2020, 1, 1, false⟩ true = .ok (Calendar.toOrdinal 2020 1 25) ∧
    toSolar ⟨2020, 4, 1, true⟩ true = .ok (Calendar.toOrdinal 2020 5 23) := by decide

/-! ### When an important day recurs -/

/-- `_solar_occurrence`: in a year without the date, 28 February. -/
def solarOccurrence (anchor : Date) (year : Int) : Except PyError Date :=
  let date := Calendar.civil anchor
  if Calendar.IsDate year date.2.1 date.2.2 then
    .ok (Calendar.toOrdinal year date.2.1 date.2.2)
  else if Calendar.IsDate year 2 28 then .ok (Calendar.toOrdinal year 2 28)
  else .error .value

/-- `_lunar_occurrence`. Where the intercalary month does not exist, the month itself. -/
def lunarOccurrence (lunarYear month day : Int) (leap : Bool) : Option Date :=
  (if leap then [true, false] else [false]).findSome? fun useLeap =>
    match (do
      let value ← LunarDate.checked lunarYear month day useLeap
      toSolar value true : Except PyError Date) with
    | .ok date => some date
    | .error _ => none

/-- The year of a date. -/
def yearOfDate (date : Date) : Int := (Calendar.civil date).1

/-- `UNKNOWN_YEAR`. -/
def unknownYear : Int := 1

namespace Anniversary

/-- `day_number`. -/
def dayNumber (day : Anniversary) (today : Date) : Int := today - day.anchorDate.ordinal + 1

/-- `counts_elapsed_days`. -/
def countsElapsedDays (day : Anniversary) : Bool := day.kind = .anniversary

/-- `occurrence_in`. -/
def occurrenceIn (day : Anniversary) (year : Int) : Except PyError (Option Date) :=
  match day.calendar with
  | .solar => some <$> solarOccurrence day.anchorDate.ordinal year
  | .lunar =>
    match day.lunarMonth, day.lunarDay with
    | some month, some dayOfMonth =>
      .ok ([year - 1, year].findSome? fun lunarYear =>
        (lunarOccurrence lunarYear month dayOfMonth day.lunarLeap).filter fun date =>
          yearOfDate date = year)
    | _, _ => .error .assertion

/-- `next_occurrence`. -/
def nextOccurrence (day : Anniversary) (today : Date) : Except PyError (Option Date) := do
  let thisYear ← day.occurrenceIn (yearOfDate today)
  match thisYear.filter fun date => decide ((today : Int) ≤ date) with
  | some date => return some date
  | none =>
    let nextYear ← day.occurrenceIn (yearOfDate today + 1)
    return nextYear.filter fun date => decide ((today : Int) ≤ date)

/-- `elapsed_years`. -/
def elapsedYears (day : Anniversary) (occurrence : Date) : Int :=
  if unknownYear < yearOfDate day.anchorDate.ordinal then
    yearOfDate occurrence - yearOfDate day.anchorDate.ordinal
  else 0

/-- `advance_notice_for`. -/
def advanceNoticeFor (day : Anniversary) (today : Date) : Except PyError (Option (Date × Int)) := do
  let next ← day.nextOccurrence today
  return next.bind fun date =>
    if (date - today : Int) ∈ day.advanceDays then some (date, date - today) else none

end Anniversary

end Zhixu
