import Zhixu.Application.Updates
import Zhixu.Framework.Interference
import Zhixu.Storage.Schedule

/-!
# The services of the agenda

`create_agenda`, `delete_agenda`, `set_agenda_exception`, and the services of notification rules
and leads. The updates are among the courses of `Application/Updates`.

`delete_agenda` is the only one with more than one write: it cancels the pending reminders of the
item, each under an authorization and in a transaction of its own, and then deletes the item. It is
a `Process`, so that what others do between its operations can be said. `cancelApart` is
`ReminderRepository.cancel` with its operations apart (`effect_cancelApart`).
-/

open Framework

namespace Zhixu

/-- `_create_owner`. -/
def createOwner (context : CommandContext) (isPrivate : Bool) : String :=
  if isPrivate then context.actorUserId
  else context.sharedOwnerUserId.getD context.actorUserId

/-- `_require_creator_or_manager`. -/
def requireCreatorOrManager (context : CommandContext) (ownerUserId : String)
    (creatorUserId : Option String) : Except PyError Unit :=
  raiseIf (context.actorUserId ≠ ownerUserId ∧ some context.actorUserId ≠ creatorUserId ∧
      ¬ ("group_owner" ∈ context.roles ∨ "project_admin" ∈ context.roles))
    (.permissionDenied "only the creator or a group manager may cancel shared data")

/-! ### Items -/

structure CreateAgenda where
  title : String
  startAt : DateTime
  endAt : DateTime
  timezone : String
  description : String := ""
  actionLinks : List ActionLink := []
  allDay : Bool := false
  recurrenceRule : Option String := none
  classification : DataClassification := .personal
  isPrivate : Bool := false

/-- The item that `create_agenda` builds. -/
def CreateAgenda.item (command : CreateAgenda) (newId : String) (context : CommandContext)
    (recurrence : Option RecurrenceRule) : AgendaItem where
  id := newId
  ownerUserId := createOwner context command.isPrivate
  creatorUserId := some context.actorUserId
  title := command.title
  description := command.description
  actionLinks := command.actionLinks
  startAt := command.startAt
  endAt := command.endAt
  timezone := command.timezone
  allDay := command.allDay
  classification := command.classification
  recurrence := recurrence

/-- `create_agenda`. -/
def createAgenda (engine : RecurrenceEngine) (newId : String) (command : CreateAgenda)
    (now : Instant) (context : CommandContext) : Effect Database PyError AgendaItem := do
  let recurrence ← Effect.check (recurrenceFrom engine command.recurrenceRule command.timezone)
  let item := command.item newId context recurrence
  Effect.check (item.validate engine.zones)
  let ref ← Effect.check (agendaView.ref item)
  let authorization ← Effect.query fun db =>
    db.policyEngine.require (context.at' now) .create ref
  Effect.atomically (AgendaRepository.create engine.zones item authorization)

structure SetAgendaException where
  itemId : String
  exception : RecurrenceException

/-- `set_agenda_exception`. -/
def setAgendaException (engine : RecurrenceEngine) (command : SetAgendaException) (now : Instant)
    (context : CommandContext) : Effect Database PyError Unit := do
  let existing ← Effect.query (AgendaRepository.get engine command.itemId)
  match existing with
  | none => throw (.notFound "agenda item not found")
  | some existing => do
    let ref ← Effect.check (agendaView.ref existing)
    let authorization ← Effect.query fun db =>
      db.policyEngine.require (context.at' now) .update ref
    let exception ← Effect.check (RecurrenceException.checked engine.zones command.exception)
    Effect.atomically (AgendaRepository.addException engine.zones existing.id exception
      authorization)

/-! ### Deletion -/

def reminderView : RecordView Reminder :=
  ⟨"reminder", Reminder.id, Reminder.ownerUserId, Reminder.classification⟩

theorem id_cancelled (r : Reminder) : ({ r with status := .cancelled } : Reminder).id = r.id := rfl

/-- The transaction of `ReminderRepository.cancel`. -/
def cancelRow (reminderId : String) (expectedVersion : Int) (authorization : AuthorizedAction) :
    Transaction Database PyError Unit :=
  ReminderRepository.changeRow reminderId expectedVersion authorization
    (fun status => status = .pending || status = .fired)
    (fun r => { r with status := .cancelled }) id_cancelled
    "reminder is already cancelled" "cancelled"

/-- `ReminderRepository.cancel`, its operations apart. -/
def cancelApart (zones : TimeZones) (reminderId : String) (expectedVersion : Int)
    (authorization : AuthorizedAction) : Process Database PyError Reminder := do
  let existing ← Process.query (ReminderRepository.get zones reminderId)
  match existing with
  | none => Process.raise (.notFound "reminder not found")
  | some existing => do
    Process.check (requireAuthorization authorization .update "reminder" existing.id
      existing.ownerUserId existing.classification)
    Process.atomically (cancelRow reminderId expectedVersion authorization)
    Process.once (ReminderRepository.reload zones reminderId)

/-- The reminder is pending and about the item. -/
def Reminder.isPendingFor (itemId : String) (r : Reminder) : Bool :=
  r.relatedKind = some "agenda" && r.relatedId = some itemId && r.status = .pending

/-- One pass of the loop of `delete_agenda`. -/
def cancelLinked (zones : TimeZones) (current : CommandContext) (reminder : Reminder) :
    Process Database PyError Unit := do
  let ref ← Process.check (reminderView.ref reminder)
  let authorization ← Process.query fun db => db.policyEngine.require current .update ref
  let _ ← cancelApart zones reminder.id reminder.version authorization
  return ⟨⟩

/-- What `delete_agenda` does before its loop: the item, the authorization of the deletion, and the
pending reminders of the item. -/
def prepareDeletion (engine : RecurrenceEngine) (itemId : String) (current : CommandContext) :
    Process Database PyError (AgendaItem × AuthorizedAction × List Reminder) := do
  let existing ← Process.query (AgendaRepository.get engine itemId)
  match existing with
  | none => Process.raise (.notFound "agenda item not found")
  | some existing => do
    Process.check (requireCreatorOrManager current existing.ownerUserId existing.creatorUserId)
    let ref ← Process.check (agendaView.ref existing)
    let authorization ← Process.query fun db => db.policyEngine.require current .delete ref
    let reminders ← Process.query
      (ReminderRepository.listForOwner engine.zones existing.ownerUserId)
    return (existing, authorization, reminders.filter (Reminder.isPendingFor existing.id))

/-- `delete_agenda`. -/
def deleteAgenda (engine : RecurrenceEngine) (itemId : String) (now : Instant)
    (context : CommandContext) : Process Database PyError Unit := do
  let (existing, authorization, reminders) ← prepareDeletion engine itemId (context.at' now)
  Process.forEach reminders (cancelLinked engine.zones (context.at' now))
  Process.atomically (AgendaRepository.delete existing.id authorization)

/-- **`cancel` is its operations, one after the other.** -/
theorem effect_cancelApart (zones : TimeZones) (reminderId : String) (expectedVersion : Int)
    (authorization : AuthorizedAction) (db : Database) :
    (cancelApart zones reminderId expectedVersion authorization).effect.exec db =
      (ReminderRepository.cancel zones reminderId expectedVersion authorization).exec db := by
  unfold cancelApart ReminderRepository.cancel ReminderRepository.changeStatus
  rw [Process.effect_bind, Effect.exec_bind, Effect.exec_bind]
  unfold Process.query
  rw [Process.effect_once, Effect.exec_query]
  cases ReminderRepository.get zones reminderId db with
  | error e => rfl
  | ok existing =>
    cases existing with
    | none => rfl
    | some existing =>
      simp only
      rw [Process.effect_bind, Effect.exec_bind, Effect.exec_bind, Process.effect_check,
        Effect.exec_check]
      cases requireAuthorization authorization .update "reminder" existing.id
          existing.ownerUserId existing.classification with
      | error e => rfl
      | ok u =>
        simp only
        rw [Process.effect_bind, Effect.exec_bind, Effect.exec_bind]
        unfold Process.atomically
        rw [Process.effect_once]
        unfold cancelRow
        rcases (Effect.atomically (ReminderRepository.changeRow reminderId expectedVersion
          authorization _ _ _ _ _)).exec db with ⟨r, db'⟩
        cases r with
        | error e => rfl
        | ok u => rfl

/-! ### Notification rules and leads -/

structure CreateAgendaNotification where
  agendaItemId : String
  timeOfDay : TimeOfDay
  dayOffset : Int
  text : String
  timezone : String
  targetRef : String
  actionLinks : List ActionLink := []
  classification : DataClassification := .personal

/-- `max` of two classifications. -/
def DataClassification.max (a b : DataClassification) : DataClassification := if a < b then b else a

/-- The rule that `create_agenda_notification` builds. -/
def CreateAgendaNotification.rule (command : CreateAgendaNotification) (newId : String)
    (context : CommandContext) (item : AgendaItem) : AgendaNotificationRule where
  id := newId
  agendaItemId := item.id
  ownerUserId := item.ownerUserId
  creatorUserId := context.actorUserId
  targetRef := command.targetRef
  timeOfDay := command.timeOfDay
  dayOffset := command.dayOffset
  text := command.text
  timezone := command.timezone
  actionLinks := command.actionLinks
  classification := item.classification.max command.classification

/-- `create_agenda_notification`. -/
def createAgendaNotification (engine : RecurrenceEngine) (newId : String)
    (command : CreateAgendaNotification) (now : Instant) (context : CommandContext) :
    Effect Database PyError AgendaNotificationRule := do
  let item ← Effect.query (AgendaRepository.get engine command.agendaItemId)
  match item with
  | none => throw (.notFound "agenda item not found")
  | some item => do
    let rule := command.rule newId context item
    Effect.check (rule.validate engine.zones)
    let ref ← Effect.check (agendaNotificationView.ref rule)
    let authorization ← Effect.query fun db =>
      db.policyEngine.require (context.at' now) .create ref
    Effect.atomically (AgendaNotificationRepository.create rule authorization)

/-- `delete_agenda_notification`. -/
def deleteAgendaNotification (zones : TimeZones) (ruleId : String) (now : Instant)
    (context : CommandContext) : Effect Database PyError Unit := do
  let existing ← Effect.query (AgendaNotificationRepository.get zones ruleId)
  match existing with
  | none => throw (.notFound "agenda notification rule was not found")
  | some existing => do
    let ref ← Effect.check (agendaNotificationView.ref existing)
    let authorization ← Effect.query fun db =>
      db.policyEngine.require (context.at' now) .delete ref
    Effect.atomically (AgendaNotificationRepository.delete existing.id authorization)

structure SetNotificationLeads where
  leadMinutes : List Int
  agendaItemId : Option String := none

/-- `set_notification_leads`. -/
def setNotificationLeads (engine : RecurrenceEngine) (command : SetNotificationLeads)
    (now : Instant) (context : CommandContext) : Effect Database PyError (List Int) := do
  let owner := createOwner context false
  match command.agendaItemId with
  | none => do
    let ref ← Effect.check (ResourceRef.checked "notification_lead" owner owner .personal)
    let _ ← Effect.query fun db => db.policyEngine.require (context.at' now) .update ref
    Effect.atomically (NotificationLeadRepository.setDefault owner command.leadMinutes now)
  | some agendaItemId => do
    let item ← Effect.query (AgendaRepository.get engine agendaItemId)
    match item with
    | none => throw (.notFound "agenda item was not found")
    | some item => do
      let ref ← Effect.check (agendaView.ref item)
      let _ ← Effect.query fun db => db.policyEngine.require (context.at' now) .update ref
      Effect.atomically (NotificationLeadRepository.setOverride item.id item.ownerUserId
        command.leadMinutes now)

end Zhixu
