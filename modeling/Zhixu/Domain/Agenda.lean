import Mathlib.Data.List.Sort
import Zhixu.Domain.BusinessCalendar
import Zhixu.Domain.DateTime
import Zhixu.Domain.Reminder

/-!
# Agenda items and the expansion of recurrences

`occurrencesBetween` expands one item over a window. Its starts come from one
of three places: the item itself, the business-day rule of its recurrence, or
`rrulestr`. Each start is then tested against the window, and only a start that
passes is looked up among the exceptions (`effective`).

`rrulestr` and the zone database are no part of the repository. They are the
fields of a `RecurrenceEngine`. A `RuleSet` is what `rrulestr` returns, as far as
the source uses it: its method `between`.
-/

open Framework

namespace Zhixu

/-! ### Recurrence rules -/

/-- What `rrulestr` returns: `between(after, before, inc=True)`. -/
structure RuleSet where
  between : DateTime → DateTime → Except PyError (List DateTime)

/-- The zone database, the clock of the process, and `rrulestr(value, dtstart=…)`. -/
structure RecurrenceEngine where
  zones : TimeZones
  systemNow : Instant
  rrulestr : String → DateTime → Except PyError RuleSet

structure BusinessDayRule where
  calendar : BusinessCalendar
  position : Int
deriving DecidableEq, Repr

/-- `\d{1,2}$`, where `$` also stands before a last newline. -/
def parseDigits (cs : List Char) : Option Int :=
  match if cs.getLast? = some '\n' then cs.dropLast else cs with
  | [a] => (decimalValue a).map fun n => (n : Int)
  | [a, b] =>
    match decimalValue a, decimalValue b with
    | some m, some n => some (m * 10 + n)
    | _, _ => none
  | _ => none

/-- `-?\d{1,2}$`. -/
def parsePosition : List Char → Option Int
  | '-' :: cs => (parseDigits cs).map fun n => -n
  | cs => parseDigits cs

/-- `parse_business_day_rule`. -/
def parseBusinessDayRule (recurrenceRule : String) : Option BusinessDayRule :=
  let head := "X-BUSINESS-DAY;CALENDAR="
  let middle := ";BYSETPOS="
  let isToken := fun c : Char => ('A' ≤ c && c ≤ 'Z') || c == '_'
  if startsWith recurrenceRule head then
    let rest := recurrenceRule.toList.drop head.length
    let token := String.ofList (rest.takeWhile isToken)
    let rest := rest.dropWhile isToken
    if middle.toList.isPrefixOf rest then
      match parsePosition (rest.drop middle.length) with
      | none => none
      | some position =>
        (businessCalendars.find? fun calendar => calendar.token = token).map
          fun calendar => ⟨calendar, position⟩
    else none
  else none

structure RecurrenceRule where
  value : String
  timezone : String
deriving DecidableEq, Repr

/-- `RecurrenceRule(…)`, with its `__post_init__`. -/
def RecurrenceRule.checked (engine : RecurrenceEngine) (value timezone : String) :
    Except PyError RecurrenceRule := do
  raiseIf (isBlank value = true) (.validation "recurrence rule is required")
  engine.zones.requireTimezone timezone
  match parseBusinessDayRule value with
  | some _ => return { value, timezone }
  | none =>
    let now ← DateTime.load engine.zones engine.systemNow timezone
    match engine.rrulestr value now with
    | .ok _ => return { value, timezone }
    | .error .value => throw (.validation "invalid recurrence rule")
    | .error err => throw err

inductive ExceptionAction
  | cancel
  | replace
deriving DecidableEq, Repr

structure RecurrenceException where
  occurrenceAt : DateTime
  action : ExceptionAction
  replacementStart : Option DateTime := none
  replacementEnd : Option DateTime := none
deriving DecidableEq, Repr

/-- `RecurrenceException(…)`, with its `__post_init__`. -/
def RecurrenceException.checked (zones : TimeZones) (e : RecurrenceException) :
    Except PyError RecurrenceException :=
  match e.action with
  | .cancel => .ok e
  | .replace =>
    match e.replacementStart, e.replacementEnd with
    | some replacementStart, some replacementEnd => do
      raiseIf (replacementEnd.le zones replacementStart = true)
        (.validation "replacement end must be after start")
      return e
    | _, _ => .error (.validation "replacement requires start and end")

theorem RecurrenceException.checked_eq {zones : TimeZones} {e e' : RecurrenceException}
    (h : e.checked zones = .ok e') : e' = e := by
  unfold RecurrenceException.checked at h
  split at h
  · exact (Except.ok.inj h).symm
  · split at h
    · obtain ⟨-, h⟩ := raiseIf_bind_ok.mp h
      exact (Except.ok.inj h).symm
    · cases h

/-! ### Notification leads -/

/-- `DEFAULT_NOTIFICATION_LEAD_MINUTES`: minutes before an occurrence starts, the furthest first. -/
def defaultNotificationLeadMinutes : List Int := [1440, 360, 60, 30, 1, 0]

/-- `normalise_lead_minutes`. -/
def normaliseLeadMinutes (values : List Int) : Except PyError (List Int) := do
  let unique := values.dedup.insertionSort fun a b => b ≤ a
  raiseIf (12 < unique.length) (.validation "notification lead time limit exceeded")
  raiseIf (unique.any (fun value => decide (¬ (0 ≤ value ∧ value ≤ 366 * 24 * 60))) = true)
    (.validation "notification lead time is out of range")
  return unique

/-! ### Items -/

/-- An agenda item, as its fields. -/
structure AgendaItem where
  id : String
  ownerUserId : String
  title : String
  startAt : DateTime
  endAt : DateTime
  timezone : String
  creatorUserId : Option String := none
  allDay : Bool := false
  description : String := ""
  actionLinks : List ActionLink := []
  classification : DataClassification := .personal
  recurrence : Option RecurrenceRule := none
  version : Int := 1
  createdAt : Option Instant := none
  updatedAt : Option Instant := none
deriving DecidableEq, Repr

/-- `AgendaItem.__post_init__`. -/
def AgendaItem.validate (zones : TimeZones) (item : AgendaItem) : Except PyError Unit := do
  raiseIf (isBlank item.id = true ∨ isBlank item.ownerUserId = true ∨ isBlank item.title = true)
    (.validation "agenda id, owner, and title are required")
  raiseIf (item.creatorUserId.any isBlank = true)
    (.validation "agenda creator must not be empty")
  zones.requireTimezone item.timezone
  raiseIf (item.endAt.le zones item.startAt = true)
    (.validation "agenda end must be after start")
  raiseIf (item.version < 1) (.validation "version must be positive")
  requireOrdinaryStorage item.classification
  raiseIf (8 < item.actionLinks.length) (.validation "agenda action link limit exceeded")
  raiseIf (item.recurrence.any (fun r => r.timezone ≠ item.timezone) = true)
    (.validation "recurrence timezone must match agenda timezone")

/-- A time of day, with or without a zone. -/
structure TimeOfDay where
  micros : Int
  aware : Bool := false
  in_day : 0 ≤ micros ∧ micros < 86400000000
deriving DecidableEq, Repr

/-- `isoformat(timespec="minutes")`, read back. -/
def TimeOfDay.toMinutes (t : TimeOfDay) : TimeOfDay where
  micros := t.micros - t.micros % 60000000
  aware := t.aware
  in_day := by
    have h := t.in_day
    omega

/-- A user-written notification before each occurrence of an item. -/
structure AgendaNotificationRule where
  id : String
  agendaItemId : String
  ownerUserId : String
  creatorUserId : String
  targetRef : String
  timeOfDay : TimeOfDay
  dayOffset : Int
  text : String
  timezone : String
  actionLinks : List ActionLink := []
  classification : DataClassification := .personal
  enabled : Bool := true
  createdAt : Option Instant := none
deriving DecidableEq, Repr

/-- `AgendaNotificationRule.__post_init__`. -/
def AgendaNotificationRule.validate (zones : TimeZones) (rule : AgendaNotificationRule) :
    Except PyError Unit := do
  raiseIf ([rule.id, rule.agendaItemId, rule.ownerUserId, rule.creatorUserId, rule.targetRef,
      rule.text].any isBlank = true)
    (.validation "agenda notification fields must not be empty")
  raiseIf (rule.timeOfDay.aware = true)
    (.validation "agenda notification wall time must be timezone-free")
  raiseIf (¬ (-366 ≤ rule.dayOffset ∧ rule.dayOffset ≤ 366))
    (.validation "agenda notification day offset is out of range")
  zones.requireTimezone rule.timezone
  requireOrdinaryStorage rule.classification
  raiseIf (8 < rule.actionLinks.length)
    (.validation "agenda notification action link limit exceeded")

/-! ### Expansion -/

structure AgendaOccurrence where
  agendaItemId : String
  startAt : DateTime
  endAt : DateTime
  title : String := ""
  replaced : Bool := false
  creatorUserId : Option String := none
deriving DecidableEq, Repr

/-- The loop over the months of the window, `count` of them, from a given one. -/
def monthStarts (zones : TimeZones) (rule : BusinessDayRule) (item : AgendaItem)
    (localStart : DateTime) : ℕ → Int → Int → Except PyError (List DateTime)
  | 0, _, _ => .ok []
  | count + 1, year, month => do
    let occurrenceDate ← rule.calendar.monthlyBusinessDay year month rule.position
    let occurrence : DateTime :=
      { localStart with wall := Wall.midnight occurrenceDate + Wall.timeOfDay localStart.wall }
    let rest ←
      if month = 12 then monthStarts zones rule item localStart count (year + 1) 1
      else monthStarts zones rule item localStart count year (month + 1)
    return if item.startAt.le zones occurrence then occurrence :: rest else rest

/-- The starts a business-day rule yields around the window. -/
def businessStarts (zones : TimeZones) (rule : BusinessDayRule) (item : AgendaItem)
    (duration : Int) (windowStart windowEnd : DateTime) : Except PyError (List DateTime) := do
  let localStart ← item.startAt.astimezone zones item.timezone
  let lookBack ← windowStart.plus (-duration)
  let localWindowStart ← lookBack.astimezone zones item.timezone
  let localWindowEnd ← windowEnd.astimezone zones item.timezone
  let first := Calendar.civil (Wall.ordinal localWindowStart.wall)
  let last := Calendar.civil (Wall.ordinal localWindowEnd.wall)
  monthStarts zones rule item localStart
    (last.1 * 12 + last.2.1 - (first.1 * 12 + first.2.1) + 1).toNat first.1 first.2.1

/-- The candidate starts of an item. -/
def candidateStarts (engine : RecurrenceEngine) (item : AgendaItem) (duration : Int)
    (windowStart windowEnd : DateTime) : Except PyError (List DateTime) :=
  match item.recurrence with
  | none =>
    if item.endAt.le engine.zones windowStart || windowEnd.le engine.zones item.startAt then .ok []
    else .ok [item.startAt]
  | some recurrence =>
    match parseBusinessDayRule recurrence.value with
    | some rule => businessStarts engine.zones rule item duration windowStart windowEnd
    | none => do
      let rule ← engine.rrulestr recurrence.value item.startAt
      let lookBack ← windowStart.plus (-duration)
      rule.between lookBack windowEnd

/-- `exception_map.get(start)`: of several exceptions at one moment the last counts. -/
def exceptionAt (zones : TimeZones) (exceptions : List RecurrenceException) (start : DateTime) :
    Option RecurrenceException :=
  (exceptions.filter fun e => e.occurrenceAt.eq zones start).getLast?

/-- One pass of the loop over the starts. -/
def effective (zones : TimeZones) (item : AgendaItem) (duration : Int)
    (windowStart windowEnd : DateTime) (exceptions : List RecurrenceException)
    (start : DateTime) : Except PyError (Option AgendaOccurrence) := do
  let endAt ← start.plus duration
  if endAt.le zones windowStart || windowEnd.le zones start then return none
  else
    match exceptionAt zones exceptions start with
    | none =>
      return some {
        agendaItemId := item.id
        startAt := start
        endAt
        title := item.title
        creatorUserId := item.creatorUserId }
    | some exception =>
      match exception.action, exception.replacementStart, exception.replacementEnd with
      | .cancel, _, _ => return none
      | .replace, some replacementStart, some replacementEnd =>
        if windowStart.lt zones replacementEnd && replacementStart.lt zones windowEnd then
          return some {
            agendaItemId := item.id
            startAt := replacementStart
            endAt := replacementEnd
            title := item.title
            replaced := true
            creatorUserId := item.creatorUserId }
        else return none
      | .replace, _, _ => throw .assertion

/-- `occurrences_between`. -/
def occurrencesBetween (engine : RecurrenceEngine) (item : AgendaItem)
    (windowStart windowEnd : DateTime) (exceptions : List RecurrenceException) :
    Except PyError (List AgendaOccurrence) := do
  raiseIf (windowEnd.le engine.zones windowStart = true)
    (.validation "window end must be after start")
  let duration := item.endAt.sub engine.zones item.startAt
  let starts ← candidateStarts engine item duration windowStart windowEnd
  collect (effective engine.zones item duration windowStart windowEnd exceptions) starts

end Zhixu
