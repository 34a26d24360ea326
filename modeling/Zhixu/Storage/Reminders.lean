import Zhixu.Application.Labels
import Zhixu.Delivery.Outbox
import Zhixu.Storage.Access

/-!
# The reminder repository

`ReminderRepository`: reminders are created, cancelled, acknowledged and snoozed
one at a time, each under an expected version, and `enqueueDue` fires all that
are due in one transaction. Firing writes two tables: a delivery under the
idempotency key of the reminder and its fire time (`reminderKey`), and the
reminder's status.

Cancelling, acknowledging and snoozing differ in the statuses they start from
and in what they set, so they are one definition (`changeStatus`).
-/

open Framework

namespace Zhixu

/-- What the repository takes from outside: zones, and `sha256(…).hexdigest()`. -/
structure Platform where
  zones : TimeZones
  sha256 : String → String

/-- The idempotency key of a firing. -/
def reminderKey (reminderId : String) (fireAt : Instant) : String :=
  "reminder:" ++ reminderId ++ ":" ++ isoformat fireAt

/-- The id of a firing's delivery. -/
def Platform.deliveryId (platform : Platform) (key : String) : String :=
  "out_" ++ takeChars 24 (platform.sha256 key)

/-- `_timezone_of`: the zone a reminder is read in, and its name for the reader. -/
def timezoneOf (zones : TimeZones) (r : Reminder) : String × String :=
  match r.timezone with
  | none => ("Asia/Shanghai", "北京时间")
  | some timezone =>
    match zones.lookup timezone with
    | .found =>
      (timezone,
        if timezone = "Asia/Shanghai" then "北京时间"
        else if timezone = "Asia/Hong_Kong" then "香港时间"
        else timezone)
    | .missing | .malformed => ("Asia/Shanghai", "北京时间")

/-- `_reminder_notification_text`. -/
def reminderNotificationText (zones : TimeZones) (r : Reminder) : Except PyError String := do
  let (zone, zoneLabel) := timezoneOf zones r
  let localFireAt ← zones.toWall zone r.fireAt
  let title := ("事项", escapeMarkdownText r.title)
  match r.relatedStartAt with
  | some relatedStartAt =>
    let startsAt ← zones.toWall zone relatedStartAt
    let sameDay := Wall.ordinal startsAt = Wall.ordinal localFireAt
    let moment :=
      if sameDay then Wall.timeText startsAt
      else Wall.dateText startsAt ++ " " ++ Wall.timeText startsAt
    return card "日程提醒" [title,
      ("开始", moment ++ " 周" ++ weekdayName (Wall.weekday startsAt) ++
        (if sameDay then "（今天）" else "") ++ "（" ++ zoneLabel ++ "）"),
      ("距开始", humaniseGap (relatedStartAt - r.fireAt))]
  | none =>
    return card "日程提醒" [title,
      ("时间", Wall.dateText localFireAt ++ " " ++ Wall.timeText localFireAt ++
        "（" ++ zoneLabel ++ "）")]

/-- The buttons under a reminder. -/
def reminderButtons (r : Reminder) : List ButtonPayload :=
  r.actionLinks.map (fun link => ⟨link.label, link.url, .openUrl⟩) ++
    (["5", "15", "30", "60"].map fun minutes =>
      ⟨minutes ++ "分钟", "/提醒稍后 " ++ r.id ++ " " ++ minutes ++ "分钟", .command⟩) ++
    [⟨"完成", "/提醒完成 " ++ r.id, .command⟩, ⟨"取消", "/取消提醒 " ++ r.id, .command⟩]

namespace ReminderRepository

/-- The fields of a stored reminder: whoever owns it counts as its creator when
none is recorded. -/
def loaded (row : Reminder) : Reminder :=
  { row with creatorUserId := some (row.creatorUserId.getD row.ownerUserId) }

/-- `_from_row`. -/
def fromRow (zones : TimeZones) (row : Reminder) : Except PyError Reminder := do
  raiseIf (8 < row.actionLinks.length) (.validation "stored action links are invalid")
  (loaded row).checked zones

/-- `get`. -/
def get (zones : TimeZones) (reminderId : String) (db : Database) :
    Except PyError (Option Reminder) :=
  match db.reminders.find? reminderId with
  | none => .ok none
  | some row => some <$> fromRow zones row

/-- The row `create` inserts. -/
def stored (reminder : Reminder) (authorization : AuthorizedAction) : Reminder :=
  { reminder with
    version := 1
    createdAt := some authorization.authorizedAt
    updatedAt := some authorization.authorizedAt }

/-- `create`. A violated constraint is reported as a conflict. -/
def create (reminder : Reminder) (authorization : AuthorizedAction) :
    Transaction Database PyError Reminder := fun db => do
  requireAuthorization authorization .create "reminder" reminder.id reminder.ownerUserId
    reminder.classification
  let row := stored reminder authorization
  let conflict := PyError.conflict "the resource conflicts with existing data"
  raiseIf (db.hasUser row.ownerUserId = false ∨ row.creatorUserId.any (!db.hasUser ·) = true)
    conflict
  match db.reminders.insert? row with
  | none => throw conflict
  | some reminders => return (row, Database.auditAction { db with reminders } authorization)

/-- `UPDATE reminders SET … WHERE id=? AND version=? AND status IN (…)`, which has to
change one row. -/
def changeRow (reminderId : String) (expectedVersion : Int) (authorization : AuthorizedAction)
    (available : ReminderStatus → Bool) (set : Reminder → Reminder)
    (hset : ∀ r, (set r).id = r.id) (refusal reasonCode : String) :
    Transaction Database PyError Unit := fun db =>
  let updatable := fun r : Reminder =>
    decide (r.id = reminderId) && (r.version = expectedVersion && available r.status)
  if db.reminders.count updatable ≠ 1 then .error (.conflict refusal)
  else
    let reminders := db.reminders.updateWhere updatable
      (fun r => { set r with
        version := r.version + 1, updatedAt := some authorization.authorizedAt })
      (fun r => hset r)
    .ok (⟨⟩, Database.auditAction { db with reminders } authorization reasonCode)

/-- The reminder as it is stored now, which the changes return. -/
def reload (zones : TimeZones) (reminderId : String) : Effect Database PyError Reminder := do
  let updated ← Effect.query (get zones reminderId)
  match updated with
  | none => throw .external
  | some updated => return updated

/-- The common body of `cancel`, `acknowledge` and `snooze`. -/
def changeStatus (zones : TimeZones) (reminderId : String) (expectedVersion : Int)
    (authorization : AuthorizedAction) (available : ReminderStatus → Bool)
    (set : Reminder → Reminder) (hset : ∀ r, (set r).id = r.id) (refusal reasonCode : String) :
    Effect Database PyError Reminder := do
  let existing ← Effect.query (get zones reminderId)
  match existing with
  | none => throw (.notFound "reminder not found")
  | some existing =>
    Effect.check (requireAuthorization authorization .update "reminder" existing.id
      existing.ownerUserId existing.classification)
    Effect.atomically (changeRow reminderId expectedVersion authorization available set hset
      refusal reasonCode)
    reload zones reminderId

/-- `cancel`. -/
def cancel (zones : TimeZones) (reminderId : String) (expectedVersion : Int)
    (authorization : AuthorizedAction) : Effect Database PyError Reminder :=
  changeStatus zones reminderId expectedVersion authorization
    (fun status => status = .pending || status = .fired)
    (fun r => { r with status := .cancelled }) (fun _ => rfl)
    "reminder is already cancelled" "cancelled"

/-- `acknowledge`. -/
def acknowledge (zones : TimeZones) (reminderId : String) (expectedVersion : Int)
    (authorization : AuthorizedAction) : Effect Database PyError Reminder :=
  changeStatus zones reminderId expectedVersion authorization (fun status => status = .fired)
    (fun r => { r with status := .cancelled }) (fun _ => rfl)
    "reminder is not awaiting acknowledgement" "acknowledged"

/-- `snooze`. -/
def snooze (zones : TimeZones) (reminderId : String) (fireAt : Instant) (expectedVersion : Int)
    (authorization : AuthorizedAction) : Effect Database PyError Reminder := do
  Effect.check (raiseIf (fireAt ≤ authorization.authorizedAt)
    (.validation "snooze time must be in the future"))
  changeStatus zones reminderId expectedVersion authorization (fun status => status = .fired)
    (fun r => { r with status := .pending, fireAt }) (fun _ => rfl)
    "reminder is not available to snooze" "snoozed"

/-! ### Firing -/

/-- `WHERE status='pending' AND fire_at<=?`. -/
def isDue (now : Instant) (r : Reminder) : Bool := r.status = .pending && r.fireAt ≤ now

/-- `ORDER BY fire_at,id`. -/
def fireOrder (a b : Reminder) : Bool :=
  a.fireAt < b.fireAt || (a.fireAt = b.fireAt && a.id ≤ b.id)

/-- The reminders that are due, in firing order. -/
def due (db : Database) (now : Instant) : List Reminder := db.reminders.select (isDue now) fireOrder

/-- The reminder has been missed by more than the grace, and is not to be fired
late. -/
def isMissed (now : Instant) (lateGraceSeconds : Int) (r : Reminder) : Bool :=
  r.missedPolicy = .skip && Duration.seconds lateGraceSeconds < now - r.fireAt

/-- The channel and account a target was last seen on. -/
def lastRoute (db : Database) (targetRef : String) : Option ChannelRoute :=
  (db.channelRoutes.select (fun r => r.opaqueRef = targetRef)
    (fun a b => b.lastSeenAt ≤ a.lastSeenAt)).head?

/-- The delivery of a firing. -/
def delivery (platform : Platform) (db : Database) (now : Instant) (r : Reminder) (text : String) :
    OutboxDelivery where
  id := platform.deliveryId (reminderKey r.id r.fireAt)
  idempotencyKey := reminderKey r.id r.fireAt
  ownerUserId := r.ownerUserId
  targetRef := r.targetRef
  messageKind := .text
  payload := {
    text
    buttons := reminderButtons r
    attachmentUrl := none
    calendarPreview := none
    dailyAgendaPreview := none
    replyContextRef := "" }
  classification := r.classification
  priority := 10
  status := .pending
  attempts := 0
  maxAttempts := 5
  nextAttemptAt := now
  lastErrorCode := ""
  createdAt := now
  updatedAt := now
  channel := ((lastRoute db r.targetRef).map ChannelRoute.channel).getD ""
  channelAccount := ((lastRoute db r.targetRef).map ChannelRoute.channelAccount).getD ""
  leaseOwner := ""
  leaseToken := ""
  leaseExpiresAt := none
  providerMessageId := ""

/-- `UPDATE reminders SET status=?,… WHERE id=? AND status='pending'`, and its audit
event. -/
def settleRow (db : Database) (now : Instant) (reminderId : String) (status : ReminderStatus)
    (action reasonCode : String) : Database :=
  Database.audit
    { db with
      reminders := db.reminders.updateWhere
        (fun r' => decide (r'.id = reminderId) && decide (r'.status = .pending))
        fun r' => { r' with status, version := r'.version + 1, updatedAt := some now } }
    { occurredAt := now
      actorUserId := "service:scheduler"
      action
      resourceKind := "reminder"
      resourceId := reminderId
      outcome := "completed"
      reasonCode }

/-- One pass of the loop of `enqueue_due`, counting the deliveries inserted. -/
def fireOne (platform : Platform) (now : Instant) (lateGraceSeconds : Int)
    (acc : ℕ × Database) (row : Reminder) : Except PyError (ℕ × Database) := do
  let r ← fromRow platform.zones row
  if isMissed now lateGraceSeconds r = true then
    return (acc.1, settleRow acc.2 now r.id .cancelled "skip" "missed_policy")
  else
    let text ← reminderNotificationText platform.zones r
    match acc.2.insertDelivery? (delivery platform acc.2 now r text) with
    | none => return (acc.1, settleRow acc.2 now r.id .fired "enqueue" "")
    | some db =>
      raiseIf (db.hasUser r.ownerUserId = false) .integrity
      return (acc.1 + 1, settleRow db now r.id .fired "enqueue" "")

/-- `enqueue_due`, one transaction over all due reminders. -/
def enqueueDue (platform : Platform) (now : Instant) (lateGraceSeconds : Int) :
    Transaction Database PyError ℕ := fun db => do
  raiseIf (lateGraceSeconds < 0) (.validation "late grace must not be negative")
  (due db now).foldlM (fireOne platform now lateGraceSeconds) (0, db)

end ReminderRepository

end Zhixu
