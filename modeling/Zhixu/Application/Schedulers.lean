import Zhixu.Framework.Ledger
import Zhixu.Storage.Schedule

/-!
# The schedulers

Three schedulers turn the agenda into reminders and reminders into deliveries, one tick at a time.
`AgendaNotificationScheduler` announces the occurrences of a day as the notification rules of their
items say, `NotificationLeadScheduler` announces each occurrence of the next two days some minutes
before it starts, and `ReminderScheduler` fires what is due.

A reminder does not say which occurrence it was made for: one from a rule has no start, and that of
one from a lead is a copy. So the ticks run on a `Ledger`, where each reminder that they store is
noted with the item and the start it announces. Nothing in a tick reads the notes.

A tick is a sequence of operations of its own, like any other code. A conflict while a reminder is
stored is passed over, any other exception ends the tick.
-/

open Framework

namespace Zhixu

/-- What the schedulers take from outside. -/
structure Runtime where
  engine : RecurrenceEngine
  sha256 : String → String

namespace Runtime

def zones (runtime : Runtime) : TimeZones := runtime.engine.zones

def platform (runtime : Runtime) : Platform := ⟨runtime.engine.zones, runtime.sha256⟩

end Runtime

/-- What a reminder was made for. -/
structure Announcement where
  reminderId : String
  agendaItemId : String
  startAt : Instant
deriving DecidableEq, Repr

/-- Code of the schedulers. -/
abbrev Tick := Effect (Ledger Database Announcement) PyError

/-- The authorization that both schedulers write for themselves. -/
def schedulerAuthorization (resource : ResourceRef) (now : Instant) : AuthorizedAction where
  actorUserId := "service:agenda-notification"
  action := .create
  resource := resource
  authorizedAt := now

/-- What both schedulers do with a reminder they have composed for a start: build it, authorize it,
store it unless that is a conflict. -/
def announce (zones : TimeZones) (reminder : Reminder) (fireAt : DateTime) (agendaItemId : String)
    (startAt now : Instant) : Tick ℕ := do
  Effect.check (reminder.validate zones)
  let resource ← Effect.check
    (ResourceRef.checked "reminder" reminder.id reminder.ownerUserId reminder.classification)
  let stored ← Effect.check (fireAt.dump zones)
  tryCatch (do
    let _ ← Effect.noting (fun _ => [⟨reminder.id, agendaItemId, startAt⟩])
      (Effect.atomically (ReminderRepository.create { reminder with fireAt := stored }
        (schedulerAuthorization resource now)))
    return 1)
    fun e => if e.isConflict then pure 0 else throw e

/-! ### Notification rules -/

/-- The id of the reminder of a rule for an occurrence. -/
def ruleReminderId (sha256 : String → String) (ruleId : String) (startAt : Instant) : String :=
  "reminder_" ++ takeChars 32 (sha256 (ruleId ++ ":" ++ isoformat startAt))

/-- The reminder of a rule. When it fires is filled in by `announce`. -/
def AgendaNotificationRule.reminder (rule : AgendaNotificationRule) (id : String) : Reminder where
  id := id
  ownerUserId := rule.ownerUserId
  creatorUserId := some rule.creatorUserId
  title := rule.text
  fireAt := 0
  targetRef := rule.targetRef
  actionLinks := rule.actionLinks
  classification := rule.classification
  relatedKind := some "agenda"
  relatedId := some rule.agendaItemId
  timezone := some rule.timezone

/-- One pass of the loop over the occurrences of the day. -/
def materializeRuleOccurrence (runtime : Runtime) (rule : AgendaNotificationRule)
    (localNow : DateTime) (now : Instant) (occurrence : AgendaOccurrence) : Tick ℕ := do
  Effect.check (runtime.zones.zoneInfo "UTC")
  let startAt ← Effect.check (occurrence.startAt.toUtc runtime.zones)
  let reminderId := ruleReminderId runtime.sha256 rule.id startAt
  let existing ← Effect.query fun s => ReminderRepository.get runtime.zones reminderId s.store
  if existing.isSome then return 0
  else
    announce runtime.zones (rule.reminder reminderId)
      { wall := Wall.midnight (Wall.ordinal localNow.wall) + rule.timeOfDay.micros
        zone := .named rule.timezone }
      occurrence.agendaItemId startAt now

/-- `datetime.combine(occurrence_date, time.min, tzinfo=timezone)`: midnight of the day that a rule is
about. -/
def AgendaNotificationRule.occurrenceStart (rule : AgendaNotificationRule) (localNow : DateTime) :
    Except PyError DateTime := do
  let date := Wall.ordinal localNow.wall - rule.dayOffset
  raiseIf (¬ Calendar.InCalendar date) .overflow
  return { wall := Wall.midnight date, zone := .named rule.timezone }

/-- `_materialize_rule`. -/
def materializeRule (runtime : Runtime) (rule : AgendaNotificationRule) (now : Instant) :
    Tick ℕ := do
  let localNow ← Effect.check (DateTime.load runtime.zones now rule.timezone)
  if Wall.timeOfDay localNow.wall < rule.timeOfDay.micros then return 0
  else do
    let occurrenceStart ← Effect.check (rule.occurrenceStart localNow)
    let occurrenceEnd ← Effect.check (occurrenceStart.plus (Duration.days 1))
    let found ← Effect.query fun s => AgendaRepository.occurrences runtime.engine rule.ownerUserId
      occurrenceStart occurrenceEnd s.store
    Effect.countEach (found.filter fun occurrence => occurrence.agendaItemId = rule.agendaItemId)
      (materializeRuleOccurrence runtime rule localNow now)

/-- `AgendaNotificationScheduler.tick`. -/
def notificationTick (runtime : Runtime) (now : Instant) : Tick ℕ := do
  let rules ← Effect.query fun s => AgendaNotificationRepository.listEnabled runtime.zones s.store
  Effect.countEach rules fun rule => materializeRule runtime rule now

/-! ### Notification leads -/

/-- `horizon_days`. -/
def horizonDays : Int := 2

/-- The id of the reminder of a lead for an occurrence. -/
def leadReminderId (sha256 : String → String) (itemId : String) (startAt : Instant)
    (minutes : Int) : String :=
  "reminder_" ++ takeChars 32
    (sha256 ("lead:" ++ itemId ++ ":" ++ isoformat startAt ++ ":" ++ toString minutes))

/-- The reminder of a lead. When it fires is filled in by `announce`. -/
def leadReminder (item : AgendaItem) (occurrence : AgendaOccurrence) (id targetRef : String)
    (startAt : Instant) : Reminder where
  id := id
  ownerUserId := item.ownerUserId
  creatorUserId := creatorOr item.creatorUserId item.ownerUserId
  title := if occurrence.title = "" then item.title else occurrence.title
  fireAt := 0
  targetRef := targetRef
  classification := item.classification
  relatedKind := some "agenda"
  relatedId := some item.id
  relatedStartAt := some startAt
  timezone := some item.timezone

/-- One pass of the loop of `_materialize`. -/
def materializeLead (runtime : Runtime) (item : AgendaItem) (occurrence : AgendaOccurrence)
    (targetRef : String) (now : Instant) (minutes : Int) : Tick ℕ := do
  let fireAt ← Effect.check (occurrence.startAt.plus (-Duration.minutes minutes))
  if fireAt.lt runtime.zones (.ofInstant now) then return 0
  else do
    Effect.check (runtime.zones.zoneInfo "UTC")
    let startAt ← Effect.check (occurrence.startAt.toUtc runtime.zones)
    let reminderId := leadReminderId runtime.sha256 item.id startAt minutes
    let existing ← Effect.query fun s => ReminderRepository.get runtime.zones reminderId s.store
    if existing.isSome then return 0
    else
      announce runtime.zones (leadReminder item occurrence reminderId targetRef startAt) fireAt
        occurrence.agendaItemId startAt now

/-- `_materialize`. -/
def materialize (runtime : Runtime) (item : AgendaItem) (leadMinutes : List Int)
    (targetRef : String) (now : Instant) (occurrence : AgendaOccurrence) : Tick ℕ :=
  Effect.countEach leadMinutes (materializeLead runtime item occurrence targetRef now)

/-- One pass of the loop over the scheduled items. -/
def materializeItem (runtime : Runtime) (now windowEnd : Instant) (item : AgendaItem) :
    Tick ℕ := do
  if item.allDay then return 0
  else do
    let leadMinutes ← Effect.reads fun s =>
      NotificationLeadRepository.resolve item.id item.ownerUserId s.store
    let targetRef ← Effect.reads fun s =>
      DailyBriefingRepository.defaultTargetFor item.ownerUserId s.store
    if leadMinutes = [] ∨ targetRef.getD "" = "" then return 0
    else do
      let found ← Effect.query fun s => AgendaRepository.occurrences runtime.engine
        item.ownerUserId (.ofInstant now) (.ofInstant windowEnd) s.store
      Effect.countEach (found.filter fun occurrence => occurrence.agendaItemId = item.id)
        (materialize runtime item leadMinutes (targetRef.getD "") now)

/-- `NotificationLeadScheduler.tick`. -/
def leadTick (runtime : Runtime) (now : Instant) : Tick ℕ := do
  let windowEnd ← Effect.check (Instant.plus now (Duration.days horizonDays))
  let items ← Effect.query fun s =>
    AgendaRepository.listScheduled runtime.engine now windowEnd s.store
  Effect.countEach items (materializeItem runtime now windowEnd)

/-! ### Firing -/

/-- `ReminderScheduler.tick`. -/
def reminderTick (runtime : Runtime) (lateGraceSeconds : Int) (now : Instant) : Tick ℕ :=
  Effect.silently
    (Effect.atomically (ReminderRepository.enqueueDue runtime.platform now lateGraceSeconds))

end Zhixu
