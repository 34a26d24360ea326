import Zhixu.Application.AgendaServices
import Zhixu.Storage.PendingPlans

/-!
# Confirmed plans

What `_execute` does when a plan is confirmed. The plan is looked up and accepted, and then carried
out: a reminder with the reminders that announce it, or an agenda item with its notification rules,
one record after the other, each by a service of its own (`create_reminder`, `create_agenda`,
`create_agenda_notification`); or a change of one reminder.

Each service reads, is authorized, and then writes in one transaction, so it is one operation of the
`Process`; so is accepting the plan. Between the operations the process may stop.

How a stored payload is decoded is a parameter, and so is what plans of other kinds do
(`Elsewhere`), of which is only known that it leaves the reminders of plans alone.
-/

open Framework

namespace Zhixu

/-! ### The services of reminders -/

structure CreateReminder where
  title : String
  fireAt : DateTime
  targetRef : String
  actionLinks : List ActionLink := []
  missedPolicy : MissedReminderPolicy := .fire
  classification : DataClassification := .personal
  relatedKind : Option String := none
  relatedId : Option String := none
  relatedStartAt : Option DateTime := none
  isPrivate : Bool := false

/-- The reminder that `create_reminder` builds. -/
def CreateReminder.reminder (zones : TimeZones) (command : CreateReminder) (newId : String)
    (context : CommandContext) : Reminder where
  id := newId
  ownerUserId := createOwner context command.isPrivate
  creatorUserId := some context.actorUserId
  title := command.title
  fireAt := command.fireAt.instant zones
  targetRef := command.targetRef
  actionLinks := command.actionLinks
  missedPolicy := command.missedPolicy
  classification := command.classification
  relatedKind := command.relatedKind
  relatedId := command.relatedId
  relatedStartAt := command.relatedStartAt.map (DateTime.instant zones)

/-- `create_reminder`. -/
def createReminder (zones : TimeZones) (newId : String) (command : CreateReminder) (now : Instant)
    (context : CommandContext) : Effect Database PyError Reminder := do
  let reminder := command.reminder zones newId context
  Effect.check (reminder.validate zones)
  let ref ← Effect.check (reminderView.ref reminder)
  let authorization ← Effect.query fun db =>
    db.policyEngine.require (context.at' now) .create ref
  let _ ← Effect.check (command.fireAt.dump zones)
  let _ ← Effect.check (dumpOptional zones command.relatedStartAt)
  Effect.atomically (ReminderRepository.create reminder authorization)

/-- What the three services that change a reminder do before they write: the reminder is there, it may
be changed so, and the policy grants the change. -/
def prepareChange (zones : TimeZones) (allowed : Reminder → Except PyError Unit)
    (reminderId : String) (now : Instant) (context : CommandContext) (db : Database) :
    Except PyError (Reminder × AuthorizedAction) := do
  match ← ReminderRepository.get zones reminderId db with
  | none => throw (.notFound "reminder not found")
  | some reminder =>
    allowed reminder
    let ref ← reminderView.ref reminder
    let authorization ← db.policyEngine.require (context.at' now) .update ref
    return (reminder, authorization)

/-- Who may cancel a reminder. -/
def mayCancel (context : CommandContext) (reminder : Reminder) : Except PyError Unit :=
  requireCreatorOrManager context reminder.ownerUserId reminder.creatorUserId

/-- `cancel_reminder`. -/
def cancelReminder (zones : TimeZones) (reminderId : String) (now : Instant)
    (context : CommandContext) : Effect Database PyError Reminder := do
  let (reminder, authorization) ← Effect.query
    (prepareChange zones (mayCancel context) reminderId now context)
  ReminderRepository.cancel zones reminder.id reminder.version authorization

/-- `acknowledge_reminder`. -/
def acknowledgeReminder (zones : TimeZones) (reminderId : String) (now : Instant)
    (context : CommandContext) : Effect Database PyError Reminder := do
  let (reminder, authorization) ← Effect.query
    (prepareChange zones (fun _ => .ok ⟨⟩) reminderId now context)
  ReminderRepository.acknowledge zones reminder.id reminder.version authorization

/-- `snooze_reminder`. -/
def snoozeReminder (zones : TimeZones) (reminderId : String) (fireAt now : Instant)
    (context : CommandContext) : Effect Database PyError Reminder := do
  let (reminder, authorization) ← Effect.query
    (prepareChange zones (fun _ => .ok ⟨⟩) reminderId now context)
  ReminderRepository.snooze zones reminder.id fireAt reminder.version authorization

/-- `REMINDER_LEAD_THRESHOLD`. -/
def reminderLeadThreshold : Int := Duration.minutes 120

/-- `reminder_lead_times`. -/
def reminderLeadTimes (zones : TimeZones) (fireAt : DateTime) (now : Instant)
    (context : CommandContext) (db : Database) : Except PyError (List DateTime) :=
  if fireAt.sub zones (.ofInstant now) ≤ reminderLeadThreshold then .ok []
  else do
    let leads := (NotificationLeadRepository.defaultFor (createOwner context false) db).getD
      defaultNotificationLeadMinutes
    let moments ← (leads.filter fun minutes => 0 < minutes).mapM fun minutes =>
      fireAt.plus (-Duration.minutes minutes)
    return moments.filter fun moment => (DateTime.ofInstant now).lt zones moment

/-! ### The arguments of a plan -/

/-- The arguments of a reminder plan: `none` where a value is not of the type that is asked for. -/
structure ReminderArguments where
  title : String
  fireAt : Option DateTime
  links : Option (List ActionLink) := some []
  isPrivate : Bool := false
  leadAt : Option (List DateTime) := none
  noLeads : Bool := false

/-- `ModelNotificationProposal`. -/
structure NotificationProposal where
  timeOfDay : TimeOfDay
  dayOffset : Int
  text : String

/-- The arguments of an agenda plan. -/
structure AgendaArguments where
  title : String
  startAt : Option DateTime
  endAt : Option DateTime
  recurrenceRule : String
  notifications : Option (List NotificationProposal) := some []
  links : Option (List ActionLink) := some []
  isPrivate : Bool := false

/-- Every reminder belongs to a user, as its foreign key says. -/
def OwnersKnown (db : Database) : Prop :=
  ∀ k r, db.reminders.find? k = some r → db.hasUser r.ownerUserId = true

/-- **What the rest of the application does.** Besides the code of reminder plans, only the schedulers
and the deletion of agenda items write reminders, and they write those about agenda items. -/
structure Elsewhere where
  act : Database → Database
  reminders : ∀ db id r, r.relatedKind ≠ some "agenda" →
    ((act db).reminders.find? id = some r ↔ db.reminders.find? id = some r)
  owners : ∀ db, OwnersKnown db → OwnersKnown (act db)

/-- What a stored plan says is to be done. -/
inductive PlanArguments
  | createReminder (arguments : ReminderArguments)
  | createAgenda (arguments : AgendaArguments)
  | cancelReminder (reminderId : String)
  | acknowledgeReminder (reminderId : String)
  | snoozeReminder (reminderId : String) (fireAt : Instant)
  /-- a plan about tasks, notes, important days, briefings, or the cancellation of an agenda item -/
  | other (perform : Elsewhere)

/-- The code of a reply. -/
inductive PlanReply
  | planUnavailable
  | planNotFound
  | planAlreadyHandled
  | invalidPlan
  | invalidIntent
  | created
  | updated
deriving DecidableEq, Repr

/-- What the creation of a record draws: an id, and the time. -/
structure Draw where
  newId : String
  now : Instant

/-- What carrying out a plan takes from outside. -/
structure PlanRuntime where
  engine : RecurrenceEngine
  /-- `router.timezone.key` -/
  timezone : String
  /-- `IntentAction(stored.action)` and `_decode_plan_value(json.loads(stored.payload_json))` -/
  decode : String → String → Option PlanArguments

namespace PlanRuntime

variable (runtime : PlanRuntime)

def zones : TimeZones := runtime.engine.zones

/-! ### Carrying out -/

/-- `_reminder_leads`. -/
def reminderLeads (arguments : ReminderArguments) (fireAt : DateTime) (now : Instant)
    (context : CommandContext) (db : Database) : Except PyError (List DateTime) :=
  match arguments.leadAt with
  | some chosen => .ok (chosen.filter fun value => (DateTime.ofInstant now).lt runtime.zones value)
  | none =>
    if arguments.noLeads then .ok []
    else reminderLeadTimes runtime.zones fireAt now context db

/-- The command for the reminder of a plan. -/
def mainCommand (arguments : ReminderArguments) (fireAt : DateTime) (links : List ActionLink)
    (targetRef : String) : CreateReminder where
  title := strip arguments.title
  fireAt := fireAt
  targetRef := targetRef
  actionLinks := links
  isPrivate := arguments.isPrivate

/-- The command for a reminder that announces it. -/
def advanceCommand (arguments : ReminderArguments) (fireAt : DateTime) (links : List ActionLink)
    (targetRef reminderId : String) (moment : DateTime) : CreateReminder where
  title := strip arguments.title
  fireAt := moment
  targetRef := targetRef
  actionLinks := links
  isPrivate := arguments.isPrivate
  relatedKind := some "reminder"
  relatedId := some reminderId
  relatedStartAt := some fireAt

/-- One pass of the loop over the leads. -/
def announceAhead (draws : ℕ → Draw) (context : CommandContext)
    (command : DateTime → CreateReminder) (lead : DateTime × ℕ) : Process Database PyError PUnit := do
  let draw := draws (lead.2 + 1)
  let _ ← Process.once
    (createReminder runtime.zones draw.newId (command lead.1) draw.now context)
  return ⟨⟩

/-- `_execute` of `CREATE_REMINDER`. -/
def executeReminder (draws : ℕ → Draw) (arguments : ReminderArguments) (targetRef : String)
    (context : CommandContext) : Process Database PyError PlanReply :=
  match arguments.fireAt, arguments.links with
  | some fireAt, some links =>
    if strip arguments.title = "" ∨ targetRef = "" then return .invalidIntent
    else do
      let reminder ← Process.once (createReminder runtime.zones (draws 0).newId
        (mainCommand arguments fireAt links targetRef) (draws 0).now context)
      let leads ← Process.query
        (runtime.reminderLeads arguments fireAt (draws 0).now context)
      Process.forEach leads.zipIdx (runtime.announceAhead draws context
        (advanceCommand arguments fireAt links targetRef reminder.id))
      return .created
  | _, _ => return .invalidIntent

/-- The item is one of whole days. -/
def isAllDay (startAt endAt : DateTime) : Bool :=
  Wall.timeOfDay startAt.wall = 0 && Wall.timeOfDay endAt.wall = 0 &&
    Duration.days 1 ≤ endAt.sub runtime.zones startAt

/-- The command for the item of a plan. -/
def itemCommand (arguments : AgendaArguments) (startAt endAt : DateTime)
    (links : List ActionLink) : CreateAgenda where
  title := strip arguments.title
  startAt := startAt
  endAt := endAt
  timezone := runtime.timezone
  actionLinks := links
  allDay := runtime.isAllDay startAt endAt
  recurrenceRule := some (strip arguments.recurrenceRule)
  isPrivate := arguments.isPrivate

/-- The command for a notification rule of a plan. -/
def ruleCommand (links : List ActionLink) (targetRef itemId : String)
    (notification : NotificationProposal) : CreateAgendaNotification where
  agendaItemId := itemId
  timeOfDay := notification.timeOfDay
  dayOffset := notification.dayOffset
  text := notification.text
  timezone := runtime.timezone
  targetRef := targetRef
  actionLinks := links

/-- One pass of the loop over the notifications. -/
def addRule (draws : ℕ → Draw) (context : CommandContext)
    (command : NotificationProposal → CreateAgendaNotification) (notification : NotificationProposal × ℕ) :
    Process Database PyError PUnit := do
  let draw := draws (notification.2 + 1)
  let _ ← Process.once
    (createAgendaNotification runtime.engine draw.newId (command notification.1) draw.now context)
  return ⟨⟩

/-- `_execute` of `CREATE_AGENDA`. -/
def executeAgenda (draws : ℕ → Draw) (arguments : AgendaArguments) (targetRef : String)
    (context : CommandContext) : Process Database PyError PlanReply :=
  match arguments.startAt, arguments.endAt, arguments.notifications, arguments.links with
  | some startAt, some endAt, some notifications, some links =>
    if strip arguments.title = "" ∨ strip arguments.recurrenceRule = "" ∨
        notifications ≠ [] ∧ targetRef = "" then
      return .invalidIntent
    else do
      let item ← Process.once (createAgenda runtime.engine (draws 0).newId
        (runtime.itemCommand arguments startAt endAt links) (draws 0).now context)
      Process.forEach notifications.zipIdx (runtime.addRule draws context
        (runtime.ruleCommand links targetRef item.id))
      return .created
  | _, _, _, _ => return .invalidIntent

/-- A change of one reminder. -/
def changing (reminderId : String) (change : Effect Database PyError Reminder) :
    Process Database PyError PlanReply :=
  if strip reminderId = "" then return .invalidIntent
  else do
    let _ ← Process.once change
    return .updated

/-- `_execute` of a confirmed plan. -/
def execute (draws : ℕ → Draw) (targetRef : String) (context : CommandContext) :
    PlanArguments → Process Database PyError PlanReply
  | .createReminder arguments => runtime.executeReminder draws arguments targetRef context
  | .createAgenda arguments => runtime.executeAgenda draws arguments targetRef context
  | .cancelReminder reminderId => changing reminderId
      (cancelReminder runtime.zones (strip reminderId) (draws 0).now context)
  | .acknowledgeReminder reminderId => changing reminderId
      (acknowledgeReminder runtime.zones (strip reminderId) (draws 0).now context)
  | .snoozeReminder reminderId fireAt => changing reminderId
      (snoozeReminder runtime.zones (strip reminderId) fireAt (draws 0).now context)
  | .other perform => do
    Process.once (Effect.write perform.act)
    return .updated

theorem id_accepted (p : PendingPlan) : ({ p with state := .accepted } : PendingPlan).id = p.id := rfl

/-- The database with a plan accepted. -/
def accepting (planId : String) (db : Database) : Database :=
  { db with
    assistantPendingPlans := db.assistantPendingPlans.updateWhere
      (fun p => p.id = planId && p.isOpen) (fun p => { p with state := .accepted }) id_accepted }

/-- `_execute` of `CONFIRM_PLAN`. -/
def confirmPlan (planId targetRef : String) (context : CommandContext) (now : Instant)
    (draws : ℕ → Draw) : Process Database PyError PlanReply :=
  if targetRef = "" then return .planUnavailable
  else do
    let stored ← Process.query (PendingPlanStore.get planId context.actorUserId targetRef now)
    match stored with
    | none => return .planNotFound
    | some stored => do
      let consumed ← Process.atomically (PendingPlanStore.consume planId now)
      if consumed = false then return .planAlreadyHandled
      else
        match runtime.decode stored.action stored.payloadJson with
        | none => return .invalidPlan
        | some arguments =>
          runtime.execute draws targetRef { context with confirmed := true } arguments

/-- A plan that has been found can be accepted. -/
theorem exec_consume {planId actorUserId targetRef : String} {now : Instant} {db : Database}
    {plan : PendingPlan}
    (h : PendingPlanStore.get planId actorUserId targetRef now db = .ok (some plan)) :
    PendingPlanStore.consume planId now db = .ok (true, accepting planId db) := by
  obtain ⟨hid, hread⟩ := PendingPlanStore.get_ok h
  have hfound : db.assistantPendingPlans.find? planId = some plan :=
    Table.find?_eq_some.mpr ⟨hread.stored, hid⟩
  rcases hconsume : PendingPlanStore.consume planId now db with e | ⟨consumed, db'⟩
  · cases hconsume
  · obtain ⟨hiff, rfl⟩ := PendingPlanStore.consume_ok hconsume
    rw [hiff.mpr ⟨plan, hfound, hread.isOpen⟩]
    rfl

end PlanRuntime

end Zhixu
