import Zhixu.Domain.Agenda

/-!
# Important days and daily briefings

An important day recurs every year, on its solar date or on a date of the
lunisolar calendar. Its anchor is the day the thing happened, and any date that
exists is accepted as one, a future date too.
-/

open Framework

namespace Zhixu

inductive ImportantDayKind
  | anniversary
  | birthday
deriving DecidableEq, Repr

inductive CalendarSystem
  | solar
  | lunar
deriving DecidableEq, Repr

/-- A date of the calendar. -/
structure CalendarDate where
  ordinal : Date
  exists_in_calendar : Calendar.InCalendar ordinal
deriving DecidableEq, Repr

/-- `LunarDate.__post_init__`. -/
def checkLunarDate (month day : Int) : Except PyError Unit := do
  raiseIf (¬ (1 ≤ month ∧ month ≤ 12)) (.validation "lunar month is out of range")
  raiseIf (¬ (1 ≤ day ∧ day ≤ 30)) (.validation "lunar day is out of range")

/-- An important day, as its fields. -/
structure Anniversary where
  id : String
  ownerUserId : String
  creatorUserId : String
  title : String
  anchorDate : CalendarDate
  timezone : String
  kind : ImportantDayKind := .anniversary
  calendar : CalendarSystem := .solar
  lunarMonth : Option Int := none
  lunarDay : Option Int := none
  lunarLeap : Bool := false
  advanceDays : List Int := []
  classification : DataClassification := .personal
  createdAt : Option Instant := none
deriving DecidableEq, Repr

/-- The lunar date belongs to the calendar of the entry. -/
def Anniversary.checkCalendar (day : Anniversary) : Except PyError Unit :=
  match day.calendar with
  | .lunar =>
    match day.lunarMonth, day.lunarDay with
    | some month, some dayOfMonth => checkLunarDate month dayOfMonth
    | _, _ => .error (.validation "a lunisolar important day needs a lunar date")
  | .solar =>
    raiseIf (day.lunarMonth.isSome = true ∨ day.lunarDay.isSome = true)
      (.validation "a solar important day must not carry a lunar date")

/-- `Anniversary.__post_init__`. -/
def Anniversary.validate (zones : TimeZones) (day : Anniversary) : Except PyError Unit := do
  raiseIf ([day.id, day.ownerUserId, day.creatorUserId, day.title].any isBlank = true)
    (.validation "anniversary fields must not be empty")
  zones.requireTimezone day.timezone
  requireOrdinaryStorage day.classification
  day.checkCalendar
  raiseIf (8 < day.advanceDays.length) (.validation "advance notice limit exceeded")
  raiseIf (day.advanceDays.any (fun value => decide (¬ (1 ≤ value ∧ value ≤ 366))) = true)
    (.validation "advance notice days are out of range")
  raiseIf (¬ day.advanceDays.Nodup) (.validation "advance notice days must be distinct")

/-- A daily briefing, as its fields. -/
structure DailyBriefing where
  id : String
  ownerUserId : String
  creatorUserId : String
  targetRef : String
  timeOfDay : TimeOfDay
  timezone : String
  classification : DataClassification := .personal
  enabled : Bool := true
  lastSentOn : Option Date := none
  createdAt : Option Instant := none
  updatedAt : Option Instant := none
deriving DecidableEq, Repr

/-- `DailyBriefing.__post_init__`. -/
def DailyBriefing.validate (zones : TimeZones) (briefing : DailyBriefing) :
    Except PyError Unit := do
  raiseIf ([briefing.id, briefing.ownerUserId, briefing.creatorUserId, briefing.targetRef].any
      isBlank = true)
    (.validation "daily briefing fields must not be empty")
  raiseIf (briefing.timeOfDay.aware = true)
    (.validation "daily briefing wall time must not include timezone")
  zones.requireTimezone briefing.timezone
  requireOrdinaryStorage briefing.classification

end Zhixu
