import Zhixu.Domain.Time

/-!
# Aware datetimes

A `DateTime` is a wall reading with its zone and its `fold`. Most stored
datetimes are read through one zone, but values that arrive in a command carry
zones of their own, and the operators of `datetime` treat the two cases
differently: between values of one zone they look at the wall readings alone,
between values of different zones at the instants. `lt`, `eq` and `sub` keep
that distinction. Adding a `timedelta` moves the wall reading.

`astimezone` and `dump` go through UTC and raise when a reading leaves the years
1 to 9999.
-/

open Framework

namespace Zhixu

/-- A `tzinfo`: a zone of the database, or a fixed offset. -/
inductive Zone
  | named (key : String)
  | fixed (offset : Duration)
deriving DecidableEq, Repr

/-- `datetime.UTC`. -/
def Zone.utc : Zone := .fixed 0

/-- An aware `datetime`. -/
structure DateTime where
  wall : Wall
  zone : Zone
  fold : Bool := false
deriving DecidableEq, Repr

namespace DateTime

/-- `utcoffset()`. -/
def utcoffset (zones : TimeZones) (dt : DateTime) : Int :=
  match dt.zone with
  | .named key => zones.utcoffset key dt.wall dt.fold
  | .fixed offset => offset

/-- The instant of a datetime. -/
def instant (zones : TimeZones) (dt : DateTime) : Int := dt.wall - dt.utcoffset zones

/-- An instant as a datetime in UTC. -/
def ofInstant (t : Instant) : DateTime := { wall := t, zone := .utc }

/-- The reading is ambiguous or skipped in its zone. -/
def foldDependent (zones : TimeZones) (dt : DateTime) : Bool :=
  utcoffset zones { dt with fold := !dt.fold } ≠ dt.utcoffset zones

/-- What `<` compares: walls in one zone, instants otherwise. -/
def lt (zones : TimeZones) (a b : DateTime) : Bool :=
  if a.zone = b.zone then decide ((a.wall : Int) < b.wall)
  else decide (a.instant zones < b.instant zones)

def le (zones : TimeZones) (a b : DateTime) : Bool := !lt zones b a

/-- `==`. Between different zones an ambiguous reading equals nothing. -/
def eq (zones : TimeZones) (a b : DateTime) : Bool :=
  if a.zone = b.zone then decide ((a.wall : Int) = b.wall)
  else !a.foldDependent zones && !b.foldDependent zones &&
    decide (a.instant zones = b.instant zones)

/-- `a - b`. -/
def sub (zones : TimeZones) (a b : DateTime) : Int :=
  if a.zone = b.zone then a.wall - b.wall else a.instant zones - b.instant zones

/-- `dt + delta`. -/
def plus (dt : DateTime) (delta : Int) : Except PyError DateTime := do
  raiseIf (¬ Instant.InRange (dt.wall + delta)) .overflow
  return { wall := dt.wall + delta, zone := dt.zone }

/-- The instant, as a datetime in UTC that has to exist. -/
def toUtc (zones : TimeZones) (dt : DateTime) : Except PyError Int := do
  raiseIf (¬ Instant.InRange (dt.instant zones)) .overflow
  return dt.instant zones

/-- `dt.astimezone(ZoneInfo(key))`. -/
def astimezone (zones : TimeZones) (dt : DateTime) (key : String) : Except PyError DateTime :=
  if dt.zone = .named key then .ok dt
  else do
    let t ← dt.toUtc zones
    raiseIf (¬ Instant.InRange (zones.fromutc key t).1) .overflow
    return { wall := (zones.fromutc key t).1, zone := .named key, fold := (zones.fromutc key t).2 }

/-- `_dump_datetime`, as the instant it writes. -/
def dump (zones : TimeZones) (dt : DateTime) : Except PyError Int := dt.toUtc zones

/-- `_load_datetime` with a zone. -/
def load (zones : TimeZones) (t : Instant) (key : String) : Except PyError DateTime := do
  zones.zoneInfo key
  (ofInstant t).astimezone zones key

end DateTime

end Zhixu
