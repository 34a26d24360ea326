import Zhixu.Domain.Text
import Zhixu.Framework.Calendar
import Zhixu.Framework.Effect

/-!
# Instants, wall clocks and zones

Aware datetimes whose zone nothing reads are kept as instants: microseconds
since the epoch, in UTC. Stored timestamps are of this kind, since every one is
written in UTC and compared as text of one form.

A wall clock reads microseconds too, counted from midnight of 1 January 1970 on
the clock itself. Its fields (`Wall.ordinal`, `Wall.minuteOfDay`, …) are those
of a naive `datetime`.

The zone database is no part of the repository, so it is a parameter:
`TimeZones` has a lookup and the two conversions that `zoneinfo` provides.
`datetime` arithmetic raises outside the years 1 to 9999. `Instant.plus` is the
sum that does, and `TimeZones.toWall` the conversion.
-/

open Framework

namespace Zhixu

/-- An instant: microseconds since the epoch, in UTC. -/
abbrev Instant := Int

/-- A `timedelta` in microseconds. -/
abbrev Duration := Int

/-- A reading of a wall clock: microseconds since 1970-01-01 00:00 on it. -/
abbrev Wall := Int

namespace Duration

def seconds (n : Int) : Int := n * 1000000
def minutes (n : Int) : Int := n * 60000000
def days (n : Int) : Int := n * 86400000000

end Duration

namespace Instant

/-- `datetime.min`, in UTC. -/
def earliest : Int := -62135596800000000

/-- `datetime.max`, in UTC. -/
def latest : Int := 253402300799999999

/-- The instant lies in the years 1 to 9999. -/
def InRange (t : Int) : Prop := earliest ≤ t ∧ t ≤ latest

instance (t : Int) : Decidable (InRange t) := inferInstanceAs (Decidable (_ ∧ _))

/-- `instant + delta`. -/
def plus (t : Int) (delta : Int) : Except PyError Int := do
  raiseIf (¬ InRange (t + delta)) .overflow
  return t + delta

theorem plus_eq_ok {t : Int} {delta : Int} {u : Int} :
    plus t delta = .ok u ↔ InRange (t + delta) ∧ u = t + delta := by
  unfold plus
  rw [raiseIf_bind_ok, not_not]
  constructor
  · rintro ⟨hin, h⟩
    exact ⟨hin, (Except.ok.inj h).symm⟩
  · rintro ⟨hin, rfl⟩
    exact ⟨hin, rfl⟩

end Instant

/-! ### Reading a wall clock -/

namespace Wall

/-- The ordinal of the date: `toordinal()`. -/
def ordinal (w : Int) : Int := w / 86400000000 + 719163

/-- Microseconds since midnight. -/
def timeOfDay (w : Int) : Int := w % 86400000000

/-- The reading at midnight of a date. -/
def midnight (ordinal : Int) : Int := (ordinal - 719163) * 86400000000

def hour (w : Int) : Int := timeOfDay w / 3600000000
def minute (w : Int) : Int := timeOfDay w / 60000000 % 60

/-- `local.hour * 60 + local.minute`. -/
def minuteOfDay (w : Int) : Int := hour w * 60 + minute w

/-- `weekday()`: Monday is 0. -/
def weekday (w : Int) : Int := (ordinal w + 6) % 7

theorem midnight_add_timeOfDay (w : Int) : midnight (ordinal w) + timeOfDay w = w := by
  unfold midnight ordinal timeOfDay
  omega

theorem timeOfDay_bounds (w : Int) : 0 ≤ timeOfDay w ∧ timeOfDay w < 86400000000 := by
  unfold timeOfDay
  omega

/-- The date of a reading in range exists. -/
theorem inCalendar_ordinal {w : Int} (h : Instant.InRange w) : Calendar.InCalendar (ordinal w) := by
  unfold Instant.InRange Instant.earliest Instant.latest at h
  unfold Calendar.InCalendar ordinal
  omega

end Wall

/-! ### Zones -/

/-- What `ZoneInfo(key)` does. -/
inductive ZoneLookup
  | found
  /-- `ZoneInfoNotFoundError` -/
  | missing
  /-- `ValueError`, for a key that is no relative path -/
  | malformed
deriving DecidableEq, Repr

/-- The zone database. -/
structure TimeZones where
  lookup : String → ZoneLookup
  /-- `utcoffset` of a wall reading and its `fold` -/
  utcoffset : String → Wall → Bool → Duration
  /-- the wall reading and the `fold` of an instant -/
  fromutc : String → Instant → Wall × Bool

namespace TimeZones

variable (zones : TimeZones)

/-- `ZoneInfo(key)`. -/
def zoneInfo (key : String) : Except PyError Unit :=
  match zones.lookup key with
  | .found => .ok ⟨⟩
  | .missing => .error .zoneNotFound
  | .malformed => .error .value

/-- `require_timezone`. -/
def requireTimezone (value : String) : Except PyError Unit :=
  match zones.lookup value with
  | .found => .ok ⟨⟩
  | .missing => .error (.validation ("unknown timezone: " ++ value))
  | .malformed => .error .value

/-- `require_timezone`, for a value that may be absent. -/
def requireKnown (value : Option String) : Except PyError Unit :=
  match value with
  | none => .ok ⟨⟩
  | some value => zones.requireTimezone value

/-- `instant.astimezone(zone)`, as its wall reading. -/
def toWall (zone : String) (t : Instant) : Except PyError Wall := do
  raiseIf (¬ Instant.InRange (zones.fromutc zone t).1) .overflow
  return (zones.fromutc zone t).1

/-- A zone of the database whose offset never changes. -/
structure ConstantOffset (key : String) (offset : Int) : Prop where
  utcoffset : ∀ wall fold, zones.utcoffset key wall fold = offset
  fromutc : ∀ t, zones.fromutc key t = (t + offset, false)

end TimeZones

/-! ### Text of dates and times -/

/-- A decimal number of at least two digits. -/
def pad2 (n : Int) : String := if 0 ≤ n ∧ n < 10 then "0" ++ toString n else toString n

namespace Wall

/-- `f"{w:%Y-%m-%d}"`. -/
def dateText (w : Int) : String :=
  let date := Calendar.civil (ordinal w)
  toString date.1 ++ "-" ++ pad2 date.2.1 ++ "-" ++ pad2 date.2.2

/-- `f"{w:%H:%M}"`. -/
def timeText (w : Int) : String := pad2 (hour w) ++ ":" ++ pad2 (minute w)

end Wall

/-- The day of the week in Chinese, Monday first. -/
def weekdayName (weekday : Int) : String :=
  ["一", "二", "三", "四", "五", "六", "日"].getD weekday.toNat ""

end Zhixu
