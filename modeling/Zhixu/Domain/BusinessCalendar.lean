import Zhixu.Domain.Text
import Zhixu.Framework.Calendar
import Zhixu.Framework.Effect

/-!
# Business days

`BusinessCalendar.monthlyBusinessDay` counts business days from either end of a
month over a snapshot of public holidays. Two regions are installed. A snapshot
covers the years 2025 to 2027 and raises in any other, and a month has no
twenty-fifth business day, so the call raises on values that a stored rule may
well hold.

Dates are ordinals. The snapshots are written as in the source, as dates.
-/

open Framework

namespace Zhixu

/-- A calendar date, as its ordinal. -/
abbrev Date := Int

structure BusinessCalendar where
  token : String
  label : String
  supportedYears : List Int
  holidays : List (Int × Int × Int)
deriving DecidableEq, Repr

namespace BusinessCalendar

/-- `is_business_day`, of a date given by its fields. -/
def isBusinessDay (calendar : BusinessCalendar) (year month day : Int) : Except PyError Bool := do
  raiseIf (year ∉ calendar.supportedYears)
    (.validation (calendar.label ++ " holiday calendar year is not installed"))
  return (Calendar.toOrdinal year month day + 6) % 7 < 5 &&
    decide ((year, month, day) ∉ calendar.holidays)

/-- The days of a month: `range(1, monthrange(year, month)[1] + 1)`. -/
def monthDays (year month : Int) : List Int :=
  (List.range (Calendar.daysInMonth year month).toNat).map fun k => (k : Int) + 1

/-- The business days of a month, as ordinals. -/
def businessDays (calendar : BusinessCalendar) (year month : Int) : Except PyError (List Int) :=
  collect (fun day => do
    let isBusiness ← calendar.isBusinessDay year month day
    return if isBusiness then some (Calendar.toOrdinal year month day) else none)
    (monthDays year month)

/-- `days[position - 1] if position > 0 else days[position]`. -/
def atPosition (days : List Int) (position : Int) : Option Int :=
  if 0 < position then days[(position - 1).toNat]?
  else if 0 ≤ days.length + position then days[(days.length + position).toNat]?
  else none

/-- `monthly_business_day`. -/
def monthlyBusinessDay (calendar : BusinessCalendar) (year month position : Int) :
    Except PyError Int := do
  raiseIf (position = 0 ∨ 31 < position.natAbs) (.validation "business-day position is invalid")
  let days ← calendar.businessDays year month
  match atPosition days position with
  | some day => return day
  | none => throw (.validation "business-day position is outside the month")

end BusinessCalendar

def hongKong : BusinessCalendar where
  token := "HK_GENERAL_HOLIDAYS"
  label := "Hong Kong"
  supportedYears := [2025, 2026, 2027]
  holidays := [
    (2025, 1, 1), (2025, 1, 29), (2025, 1, 30), (2025, 1, 31), (2025, 4, 4), (2025, 4, 18),
    (2025, 4, 19), (2025, 4, 21), (2025, 5, 1), (2025, 5, 5), (2025, 5, 31), (2025, 7, 1),
    (2025, 10, 1), (2025, 10, 7), (2025, 10, 29), (2025, 12, 25), (2025, 12, 26), (2026, 1, 1),
    (2026, 2, 17), (2026, 2, 18), (2026, 2, 19), (2026, 4, 3), (2026, 4, 4), (2026, 4, 6),
    (2026, 4, 7), (2026, 5, 1), (2026, 5, 25), (2026, 6, 19), (2026, 7, 1), (2026, 9, 26),
    (2026, 10, 1), (2026, 10, 19), (2026, 12, 25), (2026, 12, 26), (2027, 1, 1), (2027, 2, 6),
    (2027, 2, 8), (2027, 2, 9), (2027, 3, 26), (2027, 3, 27), (2027, 3, 29), (2027, 4, 5),
    (2027, 5, 1), (2027, 5, 13), (2027, 6, 9), (2027, 7, 1), (2027, 9, 16), (2027, 10, 1),
    (2027, 10, 8), (2027, 12, 25), (2027, 12, 27)]

/-- The gazetted holidays of Macau and its compensatory days. -/
def macau : BusinessCalendar where
  token := "MO_GENERAL_HOLIDAYS"
  label := "Macau"
  supportedYears := [2025, 2026, 2027]
  holidays := [
    (2025, 1, 1), (2025, 1, 29), (2025, 1, 30), (2025, 1, 31), (2025, 4, 4), (2025, 4, 18),
    (2025, 4, 19), (2025, 5, 1), (2025, 5, 5), (2025, 5, 31), (2025, 10, 1), (2025, 10, 2),
    (2025, 10, 7), (2025, 10, 29), (2025, 11, 2), (2025, 12, 8), (2025, 12, 20), (2025, 12, 21),
    (2025, 12, 24), (2025, 12, 25), (2026, 1, 1), (2026, 2, 17), (2026, 2, 18), (2026, 2, 19),
    (2026, 4, 3), (2026, 4, 4), (2026, 4, 5), (2026, 5, 1), (2026, 5, 24), (2026, 6, 19),
    (2026, 9, 26), (2026, 10, 1), (2026, 10, 2), (2026, 10, 18), (2026, 11, 2), (2026, 12, 8),
    (2026, 12, 20), (2026, 12, 22), (2026, 12, 24), (2026, 12, 25), (2027, 1, 1), (2027, 2, 6),
    (2027, 2, 7), (2027, 2, 8), (2027, 3, 26), (2027, 3, 27), (2027, 4, 5), (2027, 5, 1),
    (2027, 5, 13), (2027, 6, 9), (2027, 9, 16), (2027, 10, 1), (2027, 10, 2), (2027, 10, 8),
    (2027, 11, 2), (2027, 12, 8), (2027, 12, 20), (2027, 12, 22), (2027, 12, 24), (2027, 12, 25)] ++ [
    (2025, 4, 21), (2025, 6, 2), (2025, 11, 3), (2025, 12, 22), (2025, 12, 23), (2026, 4, 6),
    (2026, 4, 7), (2026, 5, 25), (2026, 9, 28), (2026, 10, 19), (2026, 12, 21), (2027, 2, 9),
    (2027, 2, 10), (2027, 3, 29), (2027, 5, 3), (2027, 10, 4), (2027, 12, 27)]

/-- `BUSINESS_CALENDARS`. -/
def businessCalendars : List BusinessCalendar := [hongKong, macau]

end Zhixu
