import Zhixu.Storage.Reminders
import Zhixu.Storage.Repositories
import Zhixu.Storage.Users

/-!
# The agenda as the schedulers read it

What the agenda repositories do besides `get` and `update`: items are created and deleted,
exceptions are set, notification rules are created, and the schedulers ask which items are
about and what their occurrences in a window are. `NotificationLeadRepository` keeps how long
before an occurrence its owner wants to be told.

Four tables refer to an agenda item with `ON DELETE CASCADE` (`cascade`). Reminders do not: they
name the item they are about in columns of no foreign key.

`occurrences` reads every item of an owner that may touch the window and expands each with its
exceptions, so one item that cannot be expanded fails the whole query.
-/

open Framework

namespace Zhixu

/-- `_load_datetime` of a value that may be absent. -/
def loadOptional (zones : TimeZones) (key : String) :
    Option Instant → Except PyError (Option DateTime)
  | none => .ok none
  | some t => some <$> DateTime.load zones t key

namespace AgendaRepository

/-! ### Items and exceptions -/

/-- The row `create` inserts. -/
def inserted (item : AgendaItem) (startAt endAt : Instant) (authorization : AuthorizedAction) :
    AgendaRow where
  id := item.id
  ownerUserId := item.ownerUserId
  creatorUserId := item.creatorUserId
  title := item.title
  description := item.description
  actionLinks := item.actionLinks
  startAt := startAt
  endAt := endAt
  timezone := item.timezone
  allDay := item.allDay
  classification := item.classification
  version := 1
  createdAt := authorization.authorizedAt
  updatedAt := authorization.authorizedAt

/-- `create`. -/
def create (zones : TimeZones) (item : AgendaItem) (authorization : AuthorizedAction) :
    Transaction Database PyError AgendaItem := fun db => do
  requireAuthorization authorization .create "agenda" item.id item.ownerUserId item.classification
  let startAt ← item.startAt.dump zones
  let endAt ← item.endAt.dump zones
  raiseIf (db.hasUser item.ownerUserId = false ∨ item.creatorUserId.any (!db.hasUser ·) = true)
    integrityConflict
  match db.agendaItems.insert? (inserted item startAt endAt authorization) with
  | none => throw integrityConflict
  | some agendaItems =>
    return ({ item with
      version := 1
      createdAt := some authorization.authorizedAt
      updatedAt := some authorization.authorizedAt },
      Database.auditAction (writeRecurrence item { db with agendaItems }) authorization)

/-- What refers to an item goes with it. -/
def cascade (itemId : String) (db : Database) : Database :=
  { db with
    recurrenceRules := db.recurrenceRules.deleteWhere fun r => r.agendaItemId = itemId
    recurrenceExceptions := db.recurrenceExceptions.deleteWhere fun r => r.agendaItemId = itemId
    agendaNotificationRules :=
      db.agendaNotificationRules.deleteWhere fun r => r.agendaItemId = itemId
    agendaNotificationLeads :=
      db.agendaNotificationLeads.deleteWhere fun r => r.agendaItemId = itemId }

/-- `delete`. -/
def delete (itemId : String) (authorization : AuthorizedAction) :
    Transaction Database PyError Unit := fun db => do
  raiseIf (authorization.resource.id ≠ itemId)
    (.permissionDenied "authorization does not match agenda item")
  requireAuthorization authorization .delete "agenda" itemId authorization.resource.ownerUserId
    authorization.resource.classification
  let deletable := fun r : AgendaRow =>
    decide (r.id = itemId) && decide (r.ownerUserId = authorization.resource.ownerUserId)
  raiseIf (db.agendaItems.count deletable ≠ 1) (.notFound "agenda item not found")
  return (⟨⟩, Database.auditAction
    (cascade itemId { db with agendaItems := db.agendaItems.deleteWhere deletable }) authorization)

/-- The row of an exception, when the `CHECK` of the table allows it. -/
def exceptionRow? (agendaItemId : String) (occurrenceAt : Instant) :
    ExceptionAction → Option Instant → Option Instant → Option ExceptionRow
  | .cancel, none, none =>
    some {
      agendaItemId, occurrenceAt
      action := .cancel
      replacementStart := none
      replacementEnd := none
      replaced := ⟨rfl, rfl⟩ }
  | .replace, some replacementStart, some replacementEnd =>
    some {
      agendaItemId, occurrenceAt
      action := .replace
      replacementStart := some replacementStart
      replacementEnd := some replacementEnd
      replaced := ⟨rfl, rfl⟩ }
  | _, _, _ => none

/-- A row that is overwritten keeps its key. -/
theorem key_overwritten (row r : ExceptionRow) :
    ExceptionRow.key { r with
      action := row.action
      replacementStart := row.replacementStart
      replacementEnd := row.replacementEnd
      replaced := row.replaced } = ExceptionRow.key r := rfl

/-- `add_exception`. -/
def addException (zones : TimeZones) (itemId : String) (exception : RecurrenceException)
    (authorization : AuthorizedAction) : Transaction Database PyError Unit := fun db => do
  requireAuthorization authorization .update "agenda" itemId authorization.resource.ownerUserId
    authorization.resource.classification
  raiseIf ((db.agendaItems.find? itemId).isNone = true) (.notFound "agenda item not found")
  let occurrenceAt ← exception.occurrenceAt.dump zones
  let replacementStart ← dumpOptional zones exception.replacementStart
  let replacementEnd ← dumpOptional zones exception.replacementEnd
  match exceptionRow? itemId occurrenceAt exception.action replacementStart replacementEnd with
  | none => throw .integrity
  | some row =>
    return (⟨⟩, Database.auditAction
      { db with
        recurrenceExceptions := db.recurrenceExceptions.upsert row fun r => { r with
          action := row.action
          replacementStart := row.replacementStart
          replacementEnd := row.replacementEnd
          replaced := row.replaced } } authorization)

/-! ### Reading the agenda -/

/-- `_exceptions`: the stored exceptions of an item, in its zone. -/
def exceptions (zones : TimeZones) (db : Database) (item : AgendaItem) :
    Except PyError (List RecurrenceException) :=
  collect (fun row : ExceptionRow => do
    let occurrenceAt ← DateTime.load zones row.occurrenceAt item.timezone
    let replacementStart ← loadOptional zones item.timezone row.replacementStart
    let replacementEnd ← loadOptional zones item.timezone row.replacementEnd
    let exception ← RecurrenceException.checked zones
      { occurrenceAt, action := row.action, replacementStart, replacementEnd }
    return some exception)
    (db.recurrenceExceptions.select (fun r => r.agendaItemId = item.id)
      fun a b => a.occurrenceAt ≤ b.occurrenceAt)

/-- `ORDER BY start_at,id`. -/
def startOrder (a b : AgendaRow) : Bool :=
  a.startAt < b.startAt || (a.startAt = b.startAt && a.id ≤ b.id)

/-- The item has a recurrence rule. -/
def recurs (db : Database) (itemId : String) : Bool := (db.recurrenceRules.find? itemId).isSome

/-- `list_for_owner`. -/
def listForOwner (engine : RecurrenceEngine) (ownerUserId : String) (db : Database) :
    Except PyError (List AgendaItem) :=
  collect (fun row => some <$> fromRow engine db row)
    (db.agendaItems.select (fun r => r.ownerUserId = ownerUserId) startOrder)

/-- `list_scheduled`: the items of every owner that could occur in the window. -/
def listScheduled (engine : RecurrenceEngine) (windowStart windowEnd : Instant) (db : Database) :
    Except PyError (List AgendaItem) :=
  collect (fun row => some <$> fromRow engine db row)
    (db.agendaItems.select
      (fun r => decide (r.startAt ≤ windowEnd) && (recurs db r.id || decide (windowStart ≤ r.endAt)))
      startOrder)

/-- The occurrences of one stored item. -/
def occurrencesOf (engine : RecurrenceEngine) (windowStart windowEnd : DateTime) (db : Database)
    (row : AgendaRow) : Except PyError (List AgendaOccurrence) := do
  let item ← fromRow engine db row
  let exceptions ← exceptions engine.zones db item
  occurrencesBetween engine item windowStart windowEnd exceptions

/-- The order of `sorted(result, key=lambda o: (o.start_at, o.agenda_item_id))`: nothing that comes
first is larger. -/
def occurrenceOrder (zones : TimeZones) (a b : AgendaOccurrence) : Bool :=
  if b.startAt.eq zones a.startAt then a.agendaItemId ≤ b.agendaItemId
  else !b.startAt.lt zones a.startAt

/-- `occurrences`: what an owner has in a window. -/
def occurrences (engine : RecurrenceEngine) (ownerUserId : String) (windowStart windowEnd : DateTime)
    (db : Database) : Except PyError (List AgendaOccurrence) := do
  let windowStart' ← windowStart.dump engine.zones
  let windowEnd' ← windowEnd.dump engine.zones
  let found ← collect (fun row => some <$> occurrencesOf engine windowStart windowEnd db row)
    (db.agendaItems.select
      (fun r => decide (r.ownerUserId = ownerUserId) &&
        (recurs db r.id || (decide (windowStart' < r.endAt) && decide (r.startAt < windowEnd'))))
      startOrder)
  return found.flatten.insertionSort fun a b => occurrenceOrder engine.zones a b = true

end AgendaRepository

/-! ### Notification rules -/

namespace AgendaNotificationRepository

/-- `create`. -/
def create (rule : AgendaNotificationRule) (authorization : AuthorizedAction) :
    Transaction Database PyError AgendaNotificationRule := fun db => do
  requireAuthorization authorization .create "agenda_notification" rule.id rule.ownerUserId
    rule.classification
  let stored := { rule with createdAt := some authorization.authorizedAt }
  match db.agendaItems.find? stored.agendaItemId with
  | none => throw (.notFound "agenda item not found")
  | some agenda =>
    raiseIf (agenda.ownerUserId ≠ stored.ownerUserId)
      (.permissionDenied "agenda notification owner mismatch")
    raiseIf (db.hasUser stored.ownerUserId = false ∨ db.hasUser stored.creatorUserId = false)
      integrityConflict
    match db.agendaNotificationRules.insert?
        { stored with timeOfDay := stored.timeOfDay.toMinutes } with
    | none => throw integrityConflict
    | some agendaNotificationRules =>
      return (stored, Database.auditAction { db with agendaNotificationRules } authorization)

/-- `delete`. -/
def delete (ruleId : String) (authorization : AuthorizedAction) :
    Transaction Database PyError Unit := fun db => do
  requireAuthorization authorization .delete "agenda_notification" ruleId
    authorization.resource.ownerUserId authorization.resource.classification
  raiseIf (db.agendaNotificationRules.count (fun r => r.id = ruleId) ≠ 1)
    (.notFound "agenda notification rule was not found")
  return (⟨⟩, Database.auditAction
    { db with
      agendaNotificationRules := db.agendaNotificationRules.deleteWhere fun r => r.id = ruleId }
    authorization)

/-- `ORDER BY owner_user_id,agenda_item_id,id`. -/
def ruleOrder (a b : AgendaNotificationRule) : Bool :=
  a.ownerUserId < b.ownerUserId || (a.ownerUserId = b.ownerUserId &&
    (a.agendaItemId < b.agendaItemId || (a.agendaItemId = b.agendaItemId && a.id ≤ b.id)))

/-- `list_enabled`. -/
def listEnabled (zones : TimeZones) (db : Database) :
    Except PyError (List AgendaNotificationRule) :=
  collect (fun row => some <$> fromRow zones row)
    (db.agendaNotificationRules.select AgendaNotificationRule.enabled ruleOrder)

end AgendaNotificationRepository

/-! ### Notification leads -/

namespace NotificationLeadRepository

/-- `default_for`. -/
def defaultFor (ownerUserId : String) (db : Database) : Option (List Int) :=
  (db.notificationLeadDefaults.find? ownerUserId).map LeadDefaultRow.leadMinutes

/-- `override_for`. -/
def overrideFor (agendaItemId : String) (db : Database) : Option (List Int) :=
  (db.agendaNotificationLeads.find? agendaItemId).map LeadOverrideRow.leadMinutes

/-- `resolve`: the leads of the item, or those of its owner, or the default ones. -/
def resolve (agendaItemId ownerUserId : String) (db : Database) : List Int :=
  match overrideFor agendaItemId db with
  | some override => override
  | none => (defaultFor ownerUserId db).getD defaultNotificationLeadMinutes

/-- `set_default`. -/
def setDefault (ownerUserId : String) (leadMinutes : List Int) (now : Instant) :
    Transaction Database PyError (List Int) := fun db => do
  let normalised ← normaliseLeadMinutes leadMinutes
  raiseIf (db.hasUser ownerUserId = false) .integrity
  return (normalised, { db with
    notificationLeadDefaults := db.notificationLeadDefaults.upsert
      { ownerUserId, leadMinutes := normalised, updatedAt := now }
      fun r => { r with leadMinutes := normalised, updatedAt := now } })

/-- `set_override`. -/
def setOverride (agendaItemId ownerUserId : String) (leadMinutes : List Int) (now : Instant) :
    Transaction Database PyError (List Int) := fun db => do
  let normalised ← normaliseLeadMinutes leadMinutes
  raiseIf ((db.agendaItems.find? agendaItemId).isNone = true ∨ db.hasUser ownerUserId = false)
    .integrity
  return (normalised, { db with
    agendaNotificationLeads := db.agendaNotificationLeads.upsert
      { agendaItemId, ownerUserId, leadMinutes := normalised, updatedAt := now }
      fun r => { r with leadMinutes := normalised, updatedAt := now } })

end NotificationLeadRepository

namespace ReminderRepository

/-- `CASE status WHEN 'pending' THEN 0 WHEN 'fired' THEN 1 ELSE 2 END`. -/
def statusRank : ReminderStatus → ℕ
  | .pending => 0
  | .fired => 1
  | .cancelled => 2

/-- The order of `list_for_owner`. -/
def listOrder (a b : Reminder) : Bool :=
  statusRank a.status < statusRank b.status ||
    (statusRank a.status = statusRank b.status && fireOrder a b)

/-- `list_for_owner`. -/
def listForOwner (zones : TimeZones) (ownerUserId : String) (db : Database) :
    Except PyError (List Reminder) :=
  collect (fun row => some <$> fromRow zones row)
    (db.reminders.select (fun r => r.ownerUserId = ownerUserId) listOrder)

end ReminderRepository

namespace DailyBriefingRepository

/-- `default_target_for`: where this owner already receives scheduled pushes. -/
def defaultTargetFor (ownerUserId : String) (db : Database) : Option String :=
  ((db.dailyBriefings.select (fun r => decide (r.ownerUserId = ownerUserId) && r.enabled)
    (fun a b => decide (a.timeOfDay.micros < b.timeOfDay.micros) ||
      (decide (a.timeOfDay.micros = b.timeOfDay.micros) && decide (a.id ≤ b.id)))).head?).map
    DailyBriefing.targetRef

end DailyBriefingRepository

end Zhixu
