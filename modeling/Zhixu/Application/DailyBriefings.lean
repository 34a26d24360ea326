import Zhixu.Application.Schedulers
import Zhixu.Framework.RelyGuarantee
import Zhixu.Storage.Briefings

/-!
# The scheduler of daily briefings

`DailyBriefingScheduler.tick` goes through the briefings that are due. For each it looks up where the
briefing goes, composes the message of the day from what the owner has, puts it into the outbox under
a key made of the briefing and the local date, and notes in the briefing that the date has been sent.
The last two are transactions of their own.

A tick is a `Process`: between any two of its operations on the store anything may happen, and it may
be killed before any of them. A briefing whose target is not known is passed over. An exception ends
the tick.
-/

open Framework

namespace Zhixu

/-- Code that others interfere with, on the database. -/
abbrev Service := Process Database PyError

/-! ### The lines of a briefing -/

/-- `f"{date:%m月%d日}"`. -/
def monthDayText (date : Date) : String :=
  pad2 (Calendar.civil date).2.1 ++ "月" ++ pad2 (Calendar.civil date).2.2 ++ "日"

/-- What `_important_day_lines` says on the day itself. -/
def arrivedLine (title : String) (kind : ImportantDayKind) (years : Int) : String :=
  match kind with
  | .birthday =>
    "🎂 今天是 " ++ title ++ " 的生日" ++
      (if 0 < years then "（" ++ toString years ++ " 岁）" else "") ++ "。"
  | .anniversary =>
    if 0 < years then "🎉 今天是 " ++ title ++ " 的 **" ++ toString years ++ "** 周年。"
    else "🎉 今天是 " ++ title ++ "。"

/-- What `_important_day_lines` says ahead of the day. -/
def upcomingLine (title : String) (kind : ImportantDayKind) (years : Int) (date : Date)
    (remaining : Int) : String :=
  match kind with
  | .birthday =>
    "🎂 " ++ title ++ " 的生日还有 **" ++ toString remaining ++ "** 天（" ++ monthDayText date ++ "）。"
  | .anniversary =>
    if 0 < years then
      "🎉 " ++ title ++ " 的 " ++ toString years ++ " 周年还有 **" ++ toString remaining ++ "** 天（" ++
        monthDayText date ++ "）。"
    else
      "🎉 " ++ title ++ " 还有 **" ++ toString remaining ++ "** 天（" ++ monthDayText date ++ "）。"

/-- The first line of `_important_day_lines`, if there is one. -/
def occurrenceLine (day : Anniversary) (today : Date) : Except PyError (List String) := do
  let title := escapeMarkdownText day.title
  let occurrence ← day.occurrenceIn (yearOfDate today)
  if occurrence = some today then
    return [arrivedLine title day.kind (day.elapsedYears today)]
  else
    let upcoming ← day.advanceNoticeFor today
    return (upcoming.map fun (date, remaining) =>
      upcomingLine title day.kind (day.elapsedYears date) date remaining).toList

/-- `_important_day_lines`. -/
def importantDayLines (day : Anniversary) (today : Date) : Except PyError (List String) := do
  let first ← occurrenceLine day today
  if day.countsElapsedDays = true ∧ (day.anchorDate.ordinal : Int) ≤ today then
    return first ++ ["今天是 " ++ escapeMarkdownText day.title ++ "的第 **" ++
      toString (day.dayNumber today) ++ "** 天。"]
  else return first

/-- `_preview_title`. -/
def previewTitle (value : String) : String :=
  if (compact value).length ≤ 40 then compact value else takeChars 39 (compact value) ++ "…"

/-- `_preview_bounds`, of a day that begins and ends in one zone. -/
def previewBounds (zones : TimeZones) (key : String) (dayStart dayEnd : DateTime)
    (occurrence : AgendaOccurrence) : Except PyError (Int × Int) := do
  let startAt ← occurrence.startAt.astimezone zones key
  let endAt ← occurrence.endAt.astimezone zones key
  let start := (max (startAt.wall : Int) dayStart.wall - dayStart.wall) / 60000000
  let stop := (min (endAt.wall : Int) dayEnd.wall - dayStart.wall) / 60000000
  return (max 0 start, min 1440 (max (start + 1) stop))

/-- The order of the rows of the timeline, as tuples. -/
def DailyEntry.le (a b : DailyEntry) : Bool :=
  a.start < b.start || (a.start = b.start && (a.stop < b.stop || (a.stop = b.stop &&
    (a.kind < b.kind || (a.kind = b.kind && a.title ≤ b.title)))))

/-- A line of the schedule, with the moment it stands for. -/
abbrev ScheduleLine := DateTime × String

def agendaLine (zones : TimeZones) (key : String) (occurrence : AgendaOccurrence) :
    Except PyError ScheduleLine := do
  let startAt ← occurrence.startAt.astimezone zones key
  return (occurrence.startAt, "- `" ++ Wall.timeText startAt.wall ++ "` " ++ agendaMark startAt.wall ++
    " " ++ escapeMarkdownText occurrence.title)

def reminderLine (zones : TimeZones) (key : String) (reminder : Reminder) :
    Except PyError ScheduleLine := do
  let fireAt ← (DateTime.ofInstant reminder.fireAt).astimezone zones key
  return (DateTime.ofInstant reminder.fireAt, "- `" ++ Wall.timeText fireAt.wall ++ "` ⏰ " ++
    escapeMarkdownText reminder.title)

def agendaEntry (zones : TimeZones) (key : String) (dayStart dayEnd : DateTime)
    (occurrence : AgendaOccurrence) : Except PyError DailyEntry := do
  let bounds ← previewBounds zones key dayStart dayEnd occurrence
  return ⟨bounds.1, bounds.2, "agenda", previewTitle occurrence.title⟩

def reminderEntry (zones : TimeZones) (key : String) (reminder : Reminder) :
    Except PyError (Option DailyEntry) := do
  let fireAt ← (DateTime.ofInstant reminder.fireAt).astimezone zones key
  let start := Wall.minuteOfDay fireAt.wall
  return if start < 1440 then
    some ⟨start, min 1440 (start + 15), "reminder", previewTitle reminder.title⟩ else none

/-- The buttons under a briefing. -/
def briefingButtons : List MessageButton := [
  { label := "今天", action := "/今天", nonblank := by decide },
  { label := "月历", action := "/日历", nonblank := by decide },
  { label := "待办", action := "/待办", nonblank := by decide },
  { label := "提醒", action := "/提醒", nonblank := by decide }]

/-- The message of a day. -/
def composeBriefing (zones : TimeZones) (briefing : DailyBriefing) (date : Date)
    (channel : String × String) (dayStart dayEnd : DateTime) (anniversaries : List Anniversary)
    (occurrences : List AgendaOccurrence) (reminders : List Reminder) :
    Except PyError OutboundMessage := do
  let days ← anniversaries.mapM fun day => importantDayLines day date
  let agendaLines ← occurrences.mapM (agendaLine zones briefing.timezone)
  let reminderLines ← reminders.mapM (reminderLine zones briefing.timezone)
  let schedule := (agendaLines ++ reminderLines).insertionSort fun a b => ¬ b.1.lt zones a.1 = true
  let agendaEntries ← occurrences.mapM (agendaEntry zones briefing.timezone dayStart dayEnd)
  let reminderEntries ← collect (reminderEntry zones briefing.timezone) reminders
  let civil := Calendar.civil date
  let preview ← DailyAgendaPreview.checked civil.1 civil.2.1 civil.2.2
    ((agendaEntries ++ reminderEntries).insertionSort fun a b => a.le b = true)
    (anniversaries.map fun day => day.dayNumber date)
  OutboundMessage.checked channel.1 channel.2 briefing.targetRef .button
    (joinLines (("# " ++ toString civil.1 ++ "年" ++ monthDayText date ++ " · 每日简报") ::
      (days.flatten.flatMap fun line => ["", line]) ++ ["", "## 今日日程"] ++
      (if schedule = [] then ["> 今天没有日程或提醒。"] else schedule.map Prod.snd)))
    briefingButtons none "" briefing.classification none (some preview)

/-! ### The tick -/

/-- A reminder that belongs into the briefing of a day. -/
def keptReminder (zones : TimeZones) (key : String) (dayStart dayEnd : DateTime)
    (reminder : Reminder) : Except PyError (Option Reminder) :=
  if reminder.status = .cancelled then .ok none
  else do
    let fireAt ← (DateTime.ofInstant reminder.fireAt).astimezone zones key
    return if (dayStart.wall : Int) ≤ fireAt.wall ∧ (fireAt.wall : Int) < dayEnd.wall ∧
      reminder.classification < .confidential then some reminder else none

/-- The occurrences whose items may be shown. -/
def safeOccurrences (engine : RecurrenceEngine) :
    List AgendaOccurrence → Service (List AgendaOccurrence)
  | [] => pure []
  | occurrence :: occurrences => do
    let item ← Process.query (AgendaRepository.get engine occurrence.agendaItemId)
    let rest ← safeOccurrences engine occurrences
    return if item.any fun item => item.classification < .confidential then occurrence :: rest
      else rest

/-- What a tick reads of the owner's day, and the message it makes of that. -/
def briefingMessage (runtime : Runtime) (briefing : DailyBriefing) (date : Date)
    (channel : String × String) : Service OutboundMessage := do
  Process.check (runtime.zones.zoneInfo briefing.timezone)
  let dayStart : DateTime := { wall := Wall.midnight date, zone := .named briefing.timezone }
  let dayEnd ← Process.check (dayStart.plus (Duration.days 1))
  let occurrences ← Process.query
    (AgendaRepository.occurrences runtime.engine briefing.ownerUserId dayStart dayEnd)
  let listed ← Process.query (ReminderRepository.listForOwner runtime.zones briefing.ownerUserId)
  let reminders ← Process.check
    (collect (keptReminder runtime.zones briefing.timezone dayStart dayEnd) listed)
  let days ← Process.query (AnniversaryRepository.listForOwner runtime.zones briefing.ownerUserId)
  let occurrences ← safeOccurrences runtime.engine occurrences
  Process.check (composeBriefing runtime.zones briefing date channel dayStart dayEnd
    (days.filter fun day => day.classification < .confidential) occurrences reminders)

/-- The idempotency key of a briefing on a local date. -/
def briefingKey (briefingId : String) (date : Date) : String :=
  "daily-briefing:" ++ briefingId ++ ":" ++ isoDate date

/-- The id of the delivery under a key. -/
def Runtime.briefingDeliveryId (runtime : Runtime) (key : String) : String :=
  "delivery_" ++ takeChars 32 (runtime.sha256 key)

/-- What a tick puts into the outbox. -/
def briefingRequest (runtime : Runtime) (now : Instant) (briefing : DailyBriefing) (date : Date)
    (message : OutboundMessage) : EnqueueRequest where
  deliveryId := runtime.briefingDeliveryId (briefingKey briefing.id date)
  idempotencyKey := briefingKey briefing.id date
  ownerUserId := briefing.ownerUserId
  message := message
  now := now
  priority := 20
  actorUserId := "service:daily-briefing"

/-- One pass of the loop of the tick. -/
def deliverBriefing (runtime : Runtime) (now : Instant) (due : DailyBriefing × Date) :
    Service ℕ := do
  let channel ← Process.query fun db =>
    .ok (DailyBriefingRepository.targetChannel due.1.targetRef db)
  match channel with
  | none => return 0
  | some channel => do
    let message ← briefingMessage runtime due.1 due.2 channel
    let created ← Process.atomically
      (OutboxStore.enqueue (briefingRequest runtime now due.1 due.2 message))
    Process.atomically (DailyBriefingRepository.markSent due.1.id due.2 now)
    return if created then 1 else 0

/-- `DailyBriefingScheduler.tick`. -/
def briefingTick (runtime : Runtime) (now : Instant) : Service ℕ := do
  let due ← Process.query (DailyBriefingRepository.due runtime.zones now)
  Process.countEach due (deliverBriefing runtime now)

end Zhixu
