import Zhixu.Application.Labels
import Zhixu.Framework.Listing
import Zhixu.Web.AdminWorkspaces
import Zhixu.Web.InternalChannel

/-!
# The month view

`_calendar_reply` answers with the entries of a month and with a preview, from which a picture of the
month is drawn with a mark on the busy days. The entries are the occurrences that the agenda finds in
the month and the active reminders that fire in it. A day is busy for the preview if it has the *day
number* of an entry: of the local start of the occurrence, or of the local time of the reminder.

For a reminder that is right. An occurrence is found because it overlaps the month, so it may have
begun in an earlier one, and it may go on over several days. `showsMonth_iff` says what this comes to.
The reply is there and marks the right days exactly if

* the two queries answer, and the local times of the entries exist;
* no day number is used more than 999 times, and none is larger than the month has days, since
  `CalendarPreview` refuses such counts;
* the day number of an occurrence from another month happens to be one of a busy day (`strays`), and
  each day on which an occurrence goes on happens to have the day number of an entry (`counted`).

All of this is `MonthFits`. An occurrence within one day of the month always fits; a journey from
28 September to 3 October puts its mark on 28 October (`october_misread`).
-/

open Framework

namespace Zhixu

open AdminApi (readOwners)

/-! ### The two queries -/

/-- The loop of `agenda_between` over what was found: the item behind each occurrence may be read. -/
def checkItems (engine : RecurrenceEngine) (current : CommandContext) (db : Database) :
    List String → List AgendaOccurrence → Except PyError Unit
  | _, [] => .ok ⟨⟩
  | checked, occurrence :: occurrences =>
    if occurrence.agendaItemId ∈ checked then checkItems engine current db checked occurrences
    else do
      let item ← AgendaRepository.get engine occurrence.agendaItemId db
      match item with
      | none => throw (.notFound "agenda item not found")
      | some item => do
        let ref ← ResourceRef.checked "agenda" item.id item.ownerUserId item.classification
        let _ ← db.policyEngine.require current .read ref
        checkItems engine current db (item.id :: checked) occurrences

/-- `agenda_between`, in the context that `_context` returns. -/
def agendaBetween (engine : RecurrenceEngine) (windowStart windowEnd : DateTime)
    (current : CommandContext) (db : Database) : Except PyError (List AgendaOccurrence) := do
  let lists ← (readOwners current).mapM fun owner => do
    let ref ← ResourceRef.checked "agenda_collection" owner owner .personal
    let _ ← db.policyEngine.require current .read ref
    AgendaRepository.occurrences engine owner windowStart windowEnd db
  let occurrences := lists.flatten.insertionSort fun a b =>
    AgendaRepository.occurrenceOrder engine.zones a b = true
  checkItems engine current db [] occurrences
  return occurrences

/-- `reminder.status.value in {"pending", "fired"}`. -/
def Reminder.active (reminder : Reminder) : Bool :=
  reminder.status = .pending || reminder.status = .fired

/-- `list_reminders`, of those that are active. -/
def listReminders (zones : TimeZones) (current : CommandContext) (db : Database) :
    Except PyError (List Reminder) := do
  let reminders ← (AdminApi.reminders zones).read current db
  return reminders.filter Reminder.active

/-! ### The reply -/

/-- The assistant, as far as the month view uses it: what its services read from, the zone of its
router, and the clock, which stands still while it answers. -/
structure Assistant where
  engine : RecurrenceEngine
  timezone : String
  now : Instant

/-- The arguments of a request for a month. A year or a month that is given has gone through `int`,
which may have refused it. -/
structure MonthArguments where
  invalidMonth : Option String := none
  year : Option (Option Int) := none
  month : Option (Option Int) := none

/-- `_PLACEHOLDER_DISPLAY_NAMES`. -/
def placeholderDisplayNames : List String := ["QQ group member", "Shared group workspace"]

/-- `creator_names`, of one user. -/
def creatorName (db : Database) (userId : Option String) : Option String :=
  match userId with
  | none => none
  | some userId =>
    if userId = "" then none
    else
      match UserRepository.get userId db with
      | none => none
      | some user =>
        if strip user.displayName = "" ∨ strip user.displayName ∈ placeholderDisplayNames then none
        else some (strip user.displayName)

/-- `_creator_suffix`. -/
def creatorSuffix (name : Option String) : String :=
  match name with
  | none => ""
  | some name => " · " ++ escapeMarkdownText name

/-- `f"{w:%m-%d %H:%M}"`. -/
def Wall.monthDayTimeText (w : Int) : String :=
  pad2 (Calendar.civil (Wall.ordinal w)).2.1 ++ "-" ++ pad2 (Calendar.civil (Wall.ordinal w)).2.2 ++
    " " ++ Wall.timeText w

/-- `f"{w:%Y-%m}"`. -/
def Wall.monthText (w : Int) : String :=
  toString (Calendar.civil (Wall.ordinal w)).1 ++ "-" ++ pad2 (Calendar.civil (Wall.ordinal w)).2.1

namespace Assistant

variable (assistant : Assistant)

def zones : TimeZones := assistant.engine.zones

/-- `value.astimezone(self.router.timezone)`. -/
def localTime (dt : DateTime) : Except PyError DateTime :=
  dt.astimezone assistant.zones assistant.timezone

/-- Midnight of a date in the zone of the router. -/
def midnight (date : Int) : DateTime :=
  { wall := Wall.midnight date, zone := .named assistant.timezone }

/-- The line of an occurrence, under its start. -/
def occurrenceEntry (db : Database) (occurrence : AgendaOccurrence) :
    Except PyError (DateTime × String) := do
  let local' ← assistant.localTime occurrence.startAt
  return (occurrence.startAt, "- `" ++ Wall.monthDayTimeText local'.wall ++ "` " ++
    agendaMark local'.wall ++ " " ++ escapeMarkdownText occurrence.title ++
    creatorSuffix (creatorName db occurrence.creatorUserId))

/-- The line of a reminder, under the time it fires. -/
def reminderEntry (reminder : Reminder) : Except PyError (DateTime × String) := do
  let local' ← assistant.localTime (DateTime.ofInstant reminder.fireAt)
  return (DateTime.ofInstant reminder.fireAt, "- `" ++ Wall.monthDayTimeText local'.wall ++ "` ⏰ " ++
    escapeMarkdownText reminder.title ++ (if reminder.status = .fired then " · 已触发" else ""))

/-- A reminder that fires in a month. -/
def inMonth (start nextMonth : DateTime) (reminder : Reminder) :
    Except PyError (Option Reminder) := do
  let local' ← assistant.localTime (DateTime.ofInstant reminder.fireAt)
  return if (start.wall : Int) ≤ local'.wall ∧ (local'.wall : Int) < nextMonth.wall then some reminder
    else none

/-- The number of the local day of an entry. -/
def dayNumber (entry : DateTime × String) : Except PyError Int := do
  let local' ← assistant.localTime entry.1
  return (Calendar.civil (Wall.ordinal local'.wall)).2.2

end Assistant

/-- `tuple(sorted(Counter(days).items()))`. -/
def busyDayCounts (days : List Int) : List (Int × Int) :=
  (days.dedup.insertionSort (· ≤ ·)).map fun day => (day, (days.count day : Int))

/-- The body of the reply. -/
def monthBody (year month : Int) (entries : List (DateTime × String)) : List String :=
  ["# " ++ toString year ++ " 年 " ++ toString month ++ " 月", "",
    "> 月历已生成图片；蓝色为今天，圆点表示当天有安排，灰色日期来自相邻月份。"] ++
  (if entries = [] then ["", "> 本月暂无日程或提醒。"]
    else ["", "## 本月安排"] ++ (entries.take 30).map Prod.snd ++
      (if 30 < entries.length then ["> 另有 " ++ toString (entries.length - 30) ++ " 项未展开"]
        else []))

/-- `int(arguments.get(…) or default)`. -/
def givenOr (given : Option (Option Int)) (default : Int) : Option Int :=
  match given with
  | none => some default
  | some none => none
  | some (some value) => if value = 0 then some default else some value

/-- The year and the month that are asked for. -/
def MonthArguments.requested (arguments : MonthArguments) (today : Int × Int × Int) : Int × Int :=
  match givenOr arguments.year today.1, givenOr arguments.month today.2.1 with
  | some year, some month => (year, month)
  | _, _ => (0, 0)

/-- `_calendar_reply`. -/
def Assistant.calendarReply (assistant : Assistant) (arguments : MonthArguments)
    (context : CommandContext) (source : String) (db : Database) : Except PyError AssistantReply := do
  let localNow ← assistant.localTime (DateTime.ofInstant assistant.now)
  let today := Calendar.civil (Wall.ordinal localNow.wall)
  if arguments.invalidMonth.isSome then
    return {
      text := "看不懂这个月份。可以用 `/日历 2026-08`、`/日历 下个月`、`/日历 9月` 或 `/日历 +3`。"
      code := "invalid_intent", source, richText := true }
  else
    let year := (arguments.requested today).1
    let month := (arguments.requested today).2
    if ¬ ((1970 ≤ year ∧ year ≤ 2100) ∧ 1 ≤ month ∧ month ≤ 12) then
      return {
        text := "月份格式无效，请使用 `/日历 2026-08`。"
        code := "invalid_intent", source, richText := true }
    else
      let start := assistant.midnight (Calendar.toOrdinal year month 1)
      let nextMonth := assistant.midnight
        (if month = 12 then Calendar.toOrdinal (year + 1) 1 1
          else Calendar.toOrdinal year (month + 1) 1)
      let occurrences ← agendaBetween assistant.engine start nextMonth (context.at' assistant.now) db
      let listed ← listReminders assistant.zones (context.at' assistant.now) db
      let reminders ← collect (assistant.inMonth start nextMonth) listed
      let occurrenceEntries ← occurrences.mapM (assistant.occurrenceEntry db)
      let reminderEntries ← reminders.mapM assistant.reminderEntry
      let entries := (occurrenceEntries ++ reminderEntries).insertionSort fun a b =>
        ¬ b.1.lt assistant.zones a.1 = true
      let days ← entries.mapM assistant.dayNumber
      let previous := Wall.monthText (start.wall - 86400000000)
      let previousButton ← MessageButton.checked "上个月" ("/日历 " ++ previous) .command
      let currentButton ← MessageButton.checked "本月" ("/日历 " ++ Wall.monthText localNow.wall) .command
      let nextButton ← MessageButton.checked "下个月" ("/日历 " ++ Wall.monthText nextMonth.wall) .command
      let todayButton ← MessageButton.checked "今天" "/今天" .command
      let preview ← CalendarPreview.checked year month (busyDayCounts days)
        (if today.1 = year ∧ today.2.1 = month then some today.2.2 else none)
      return {
        text := joinLines (monthBody year month entries)
        code := "ok", source
        buttons := [previousButton, currentButton, nextButton, todayButton]
        richText := true
        calendarPreview := some preview }

/-! ### What the month is about -/

namespace Assistant

variable (assistant : Assistant)

/-- The local date of a datetime. -/
def OnDate (dt : DateTime) (date : Int) : Prop :=
  ∃ local', assistant.localTime dt = .ok local' ∧ Wall.ordinal local'.wall = date

/-- An occurrence touches a date: it begins on it, or some of it is on it. -/
def Touches (occurrence : AgendaOccurrence) (date : Int) : Prop :=
  assistant.OnDate occurrence.startAt date ∨
    ∃ t : Int, occurrence.startAt.instant assistant.zones ≤ t ∧
      t < occurrence.endAt.instant assistant.zones ∧ assistant.OnDate (DateTime.ofInstant t) date

/-- A reminder fires on a date. -/
def Fires (reminder : Reminder) (date : Int) : Prop :=
  assistant.OnDate (DateTime.ofInstant reminder.fireAt) date

/-- A date is busy. -/
def Busy (occurrences : List AgendaOccurrence) (reminders : List Reminder) (date : Int) : Prop :=
  (∃ occurrence ∈ occurrences, assistant.Touches occurrence date) ∨
    ∃ reminder ∈ reminders, assistant.Fires reminder date

/-- The window of a month. -/
def monthStart (year month : Int) : DateTime :=
  assistant.midnight (Calendar.toOrdinal year month 1)

def monthEnd (year month : Int) : DateTime :=
  assistant.midnight
    (if month = 12 then Calendar.toOrdinal (year + 1) 1 1 else Calendar.toOrdinal year (month + 1) 1)

/-- The request for a month. -/
def request (year month : Int) : MonthArguments where
  year := some (some year)
  month := some (some month)

/-- **The month view is right**: it answers, and its preview is of the month and marks the busy days
of it and no others. -/
def ShowsMonth (year month : Int) (context : CommandContext) (source : String) (db : Database) :
    Prop :=
  ∃ occurrences reminders reply preview,
    agendaBetween assistant.engine (assistant.monthStart year month) (assistant.monthEnd year month)
      (context.at' assistant.now) db = .ok occurrences ∧
    listReminders assistant.zones (context.at' assistant.now) db = .ok reminders ∧
    assistant.calendarReply (request year month) context source db = .ok reply ∧
    reply.calendarPreview = some preview ∧ preview.year = year ∧ preview.month = month ∧
    ∀ day, 1 ≤ day ∧ day ≤ Calendar.daysInMonth year month →
      (day ∈ preview.busyDayCounts.map Prod.fst ↔
        assistant.Busy occurrences reminders (Calendar.toOrdinal year month day))

/-! ### Readings -/

/-- The local time of a datetime exists. -/
def Readable (dt : DateTime) : Prop := ∃ local', assistant.localTime dt = .ok local'

/-- The reading of the local clock, where it exists. -/
def reading (dt : DateTime) : Int :=
  match assistant.localTime dt with
  | .ok local' => local'.wall
  | .error _ => 0

/-- The local date as year, month and day. -/
def dateOf (dt : DateTime) : Int × Int × Int := Calendar.civil (Wall.ordinal (assistant.reading dt))

/-- A reminder that fires in the month. -/
def firesIn (year month : Int) (reminder : Reminder) : Bool :=
  (assistant.dateOf (DateTime.ofInstant reminder.fireAt)).1 = year &&
    (assistant.dateOf (DateTime.ofInstant reminder.fireAt)).2.1 = month

/-- The times of the entries of a month. -/
def entryTimes (year month : Int) (occurrences : List AgendaOccurrence) (reminders : List Reminder) :
    List DateTime :=
  occurrences.map (fun occurrence => occurrence.startAt) ++
    (reminders.filter (assistant.firesIn year month)).map fun reminder =>
      DateTime.ofInstant reminder.fireAt

/-- The day numbers of the entries of a month. -/
def dayNumbers (year month : Int) (occurrences : List AgendaOccurrence) (reminders : List Reminder) :
    List Int :=
  (assistant.entryTimes year month occurrences reminders).map fun dt => (assistant.dateOf dt).2.2

variable {assistant} {year month : Int}

theorem Readable.localTime {dt : DateTime} (h : assistant.Readable dt) :
    ∃ local', assistant.localTime dt = .ok local' ∧ local'.wall = assistant.reading dt := by
  obtain ⟨local', h⟩ := h
  refine ⟨local', h, ?_⟩
  unfold reading
  rw [h]

theorem onDate_iff {dt : DateTime} {date : Int} (h : assistant.Readable dt) :
    assistant.OnDate dt date ↔ Wall.ordinal (assistant.reading dt) = date := by
  obtain ⟨local', hlocal, hwall⟩ := h.localTime
  unfold OnDate
  rw [hlocal, ← hwall]
  constructor
  · rintro ⟨found, hfound, hdate⟩
    rw [Except.ok.inj hfound]
    exact hdate
  · exact fun hdate => ⟨local', rfl, hdate⟩

/-- The first of the next month comes after the last of this one. -/
theorem nextMonth_eq (hmonth : 1 ≤ month ∧ month ≤ 12) :
    (if month = 12 then Calendar.toOrdinal (year + 1) 1 1
      else Calendar.toOrdinal year (month + 1) 1) =
    Calendar.toOrdinal year month 1 + Calendar.daysInMonth year month := by
  by_cases hlast : month = 12
  · subst hlast
    have hyear := Calendar.daysBeforeYear_succ year
    have hdecember := Calendar.daysBeforeMonth_last year
    have hjanuary := Calendar.daysBeforeMonth_one (year + 1)
    rw [if_pos rfl]
    unfold Calendar.toOrdinal
    omega
  · have hnext := Calendar.daysBeforeMonth_succ year hmonth.1 (by omega : month ≤ 11)
    rw [if_neg hlast]
    unfold Calendar.toOrdinal
    omega

/-- The dates of a month, by their ordinals. -/
theorem inMonth_iff (hmonth : 1 ≤ month ∧ month ≤ 12) (date : Int) :
    Calendar.toOrdinal year month 1 ≤ date ∧
      date < Calendar.toOrdinal year month 1 + Calendar.daysInMonth year month ↔
    (Calendar.civil date).1 = year ∧ (Calendar.civil date).2.1 = month := by
  constructor
  · rintro ⟨hlow, hhigh⟩
    have hfits : Calendar.Fits year month (date - Calendar.toOrdinal year month 1 + 1) :=
      ⟨hmonth, by omega, by omega⟩
    have hdate : Calendar.toOrdinal year month (date - Calendar.toOrdinal year month 1 + 1) =
        date := by
      unfold Calendar.toOrdinal
      omega
    have hcivil := Calendar.civil_toOrdinal hfits
    rw [hdate] at hcivil
    rw [hcivil]
    exact ⟨rfl, rfl⟩
  · rintro ⟨rfl, rfl⟩
    obtain ⟨-, hday1, hday⟩ := Calendar.fits_civil date
    have hdate := Calendar.ordinal_civil date
    unfold Calendar.toOrdinal at hdate ⊢
    omega

/-- The readings of a month lie between its two midnights. -/
theorem month_bounds (hmonth : 1 ≤ month ∧ month ≤ 12) (w : Int) :
    ((assistant.monthStart year month).wall : Int) ≤ w ∧
      w < (assistant.monthEnd year month).wall ↔
    (Calendar.civil (Wall.ordinal w)).1 = year ∧ (Calendar.civil (Wall.ordinal w)).2.1 = month := by
  rw [← inMonth_iff hmonth, ← nextMonth_eq hmonth]
  change Wall.midnight (Calendar.toOrdinal year month 1) ≤ w ∧ w < Wall.midnight _ ↔ _
  generalize Calendar.toOrdinal year month 1 = first
  generalize (if month = 12 then Calendar.toOrdinal (year + 1) 1 1
    else Calendar.toOrdinal year (month + 1) 1) = next
  unfold Wall.midnight Wall.ordinal
  omega

/-- A date of the month is the one with its day number. -/
theorem date_of_number {date : Int} (h : (Calendar.civil date).1 = year ∧
    (Calendar.civil date).2.1 = month) :
    Calendar.toOrdinal year month (Calendar.civil date).2.2 = date := by
  obtain ⟨rfl, rfl⟩ := h
  exact Calendar.ordinal_civil date

/-! ### The day counts -/

theorem mem_busyDayCounts {days : List Int} {day : Int} :
    day ∈ (busyDayCounts days).map Prod.fst ↔ day ∈ days := by
  unfold busyDayCounts
  rw [List.map_map]
  change day ∈ (days.dedup.insertionSort (· ≤ ·)).map id ↔ _
  rw [List.map_id, List.mem_insertionSort, List.mem_dedup]

/-- The counts do not depend on the order of the days. -/
theorem busyDayCounts_perm {days days' : List Int} (h : days.Perm days') :
    busyDayCounts days = busyDayCounts days' := by
  have hsorted : days.dedup.insertionSort (· ≤ ·) = days'.dedup.insertionSort (· ≤ ·) := by
    refine List.Perm.eq_of_pairwise' (List.pairwise_insertionSort (· ≤ ·) _)
      (List.pairwise_insertionSort (· ≤ ·) _) ?_
    calc days.dedup.insertionSort (· ≤ ·)
      _ |>.Perm days.dedup := List.perm_insertionSort _ _
      _ |>.Perm days'.dedup := h.dedup
      _ |>.Perm (days'.dedup.insertionSort (· ≤ ·)) := (List.perm_insertionSort _ _).symm
  unfold busyDayCounts
  rw [hsorted]
  exact List.map_congr_left fun day _ => by rw [h.count_eq]

/-- `CalendarPreview` accepts the counts of days of the month of which there are not too many. -/
theorem busyDaysValid_iff (days : List Int) : BusyDaysValid year month (busyDayCounts days) ↔
    ∀ day ∈ days, (1 ≤ day ∧ day ≤ Calendar.daysInMonth year month) ∧ days.count day ≤ 999 := by
  have hfst : (busyDayCounts days).map Prod.fst = days.dedup.insertionSort (· ≤ ·) := by
    unfold busyDayCounts
    rw [List.map_map]
    exact List.map_id _
  unfold BusyDaysValid
  rw [hfst]
  constructor
  · rintro ⟨-, -, h⟩ day hday
    have hmem : (day, (days.count day : Int)) ∈ busyDayCounts days :=
      List.mem_map.mpr ⟨day, (List.mem_insertionSort _).mpr (List.mem_dedup.mpr hday), rfl⟩
    obtain ⟨hin, -, hcount⟩ := h _ hmem
    exact ⟨hin, by simp only at hcount; omega⟩
  · intro h
    refine ⟨?_, List.pairwise_insertionSort _ _, ?_⟩
    · exact ((List.perm_insertionSort _ _).nodup_iff).mpr (List.nodup_dedup days)
    · rintro entry hentry
      obtain ⟨day, hday, rfl⟩ := List.mem_map.mp hentry
      have hday' : day ∈ days := List.mem_dedup.mp ((List.mem_insertionSort _).mp hday)
      obtain ⟨hin, hcount⟩ := h day hday'
      have hpos := List.count_pos_iff.mpr hday'
      exact ⟨hin, by simp only; omega, by simp only; omega⟩

/-! ### The reply of a month -/

/-- The day of the month that is today. -/
def todayIn (assistant : Assistant) (year month : Int) : Option Int :=
  if (assistant.dateOf (DateTime.ofInstant assistant.now)).1 = year ∧
      (assistant.dateOf (DateTime.ofInstant assistant.now)).2.1 = month then
    some (assistant.dateOf (DateTime.ofInstant assistant.now)).2.2
  else none

theorem givenOr_given {value : Int} (h : value ≠ 0) (default : Int) :
    givenOr (some (some value)) default = some value := by
  unfold givenOr
  exact if_neg h

/-- The filter of the reminders. -/
theorem inMonth_eq (hmonth : 1 ≤ month ∧ month ≤ 12) {reminder : Reminder}
    (h : assistant.Readable (DateTime.ofInstant reminder.fireAt)) :
    assistant.inMonth (assistant.monthStart year month) (assistant.monthEnd year month) reminder =
      .ok (if assistant.firesIn year month reminder = true then some reminder else none) := by
  obtain ⟨local', hlocal, hwall⟩ := h.localTime
  have hfires : assistant.firesIn year month reminder = true ↔
      ((assistant.monthStart year month).wall : Int) ≤ local'.wall ∧
        (local'.wall : Int) < (assistant.monthEnd year month).wall := by
    rw [month_bounds hmonth, hwall]
    unfold firesIn dateOf
    rw [Bool.and_eq_true, decide_eq_true_eq, decide_eq_true_eq]
  unfold inMonth
  rw [hlocal]
  change Except.ok _ = _
  by_cases hin : assistant.firesIn year month reminder = true
  · rw [if_pos hin, if_pos (hfires.mp hin)]
  · rw [if_neg hin, if_neg fun h => hin (hfires.mpr h)]

theorem reminders_eq (year : Int) (hmonth : 1 ≤ month ∧ month ≤ 12) {listed : List Reminder}
    (h : ∀ reminder ∈ listed, assistant.Readable (DateTime.ofInstant reminder.fireAt)) :
    collect (assistant.inMonth (assistant.monthStart year month) (assistant.monthEnd year month))
      listed = .ok (listed.filter (assistant.firesIn year month)) :=
  collect_filter fun reminder hmem => inMonth_eq hmonth (h reminder hmem)

theorem dayNumber_eq {entry : DateTime × String} (h : assistant.Readable entry.1) :
    assistant.dayNumber entry = .ok (assistant.dateOf entry.1).2.2 := by
  obtain ⟨local', hlocal, hwall⟩ := h.localTime
  unfold dayNumber dateOf
  rw [hlocal, ← hwall]
  rfl

/-- A button for a command is one. -/
theorem button_ok (label : String) (hlabel : isBlank label = false) (selector : String) :
    ∃ button, MessageButton.checked label ("/日历 " ++ selector) .command = .ok button := by
  have haction : isBlank ("/日历 " ++ selector) = false := by
    unfold isBlank
    rw [String.toList_append, List.all_append]
    have hword : ("/日历 " : String).toList.all isSpace = false := by decide
    rw [hword, Bool.false_and]
  unfold MessageButton.checked
  rw [dif_pos ⟨hlabel, haction⟩]
  exact ⟨_, rfl⟩

theorem readable_of_inMonth {start next : DateTime} {reminder : Reminder} {kept : Option Reminder}
    (h : assistant.inMonth start next reminder = .ok kept) :
    assistant.Readable (DateTime.ofInstant reminder.fireAt) := by
  obtain ⟨local', hlocal, -⟩ := bind_eq_ok.mp h
  exact ⟨local', hlocal⟩

theorem occurrenceEntry_ok {db : Database} {occurrence : AgendaOccurrence}
    {entry : DateTime × String} (h : assistant.occurrenceEntry db occurrence = .ok entry) :
    assistant.Readable occurrence.startAt ∧ entry.1 = occurrence.startAt := by
  obtain ⟨local', hlocal, h⟩ := bind_eq_ok.mp h
  cases h
  exact ⟨⟨local', hlocal⟩, rfl⟩

theorem reminderEntry_ok {reminder : Reminder} {entry : DateTime × String}
    (h : assistant.reminderEntry reminder = .ok entry) :
    assistant.Readable (DateTime.ofInstant reminder.fireAt) ∧
      entry.1 = DateTime.ofInstant reminder.fireAt := by
  obtain ⟨local', hlocal, h⟩ := bind_eq_ok.mp h
  cases h
  exact ⟨⟨local', hlocal⟩, rfl⟩

theorem exists_occurrenceEntry (db : Database) {occurrence : AgendaOccurrence}
    (h : assistant.Readable occurrence.startAt) :
    ∃ entry, assistant.occurrenceEntry db occurrence = .ok entry := by
  obtain ⟨local', hlocal⟩ := h
  unfold occurrenceEntry
  rw [hlocal]
  exact ⟨_, rfl⟩

theorem exists_reminderEntry {reminder : Reminder}
    (h : assistant.Readable (DateTime.ofInstant reminder.fireAt)) :
    ∃ entry, assistant.reminderEntry reminder = .ok entry := by
  obtain ⟨local', hlocal⟩ := h
  unfold reminderEntry
  rw [hlocal]
  exact ⟨_, rfl⟩

/-- The times of the entries exist. -/
theorem entries_readable {db : Database} {occurrences : List AgendaOccurrence}
    {reminders : List Reminder} {occurrenceEntries reminderEntries : List (DateTime × String)}
    (hoccurrences : occurrences.mapM (assistant.occurrenceEntry db) = .ok occurrenceEntries)
    (hreminders : reminders.mapM assistant.reminderEntry = .ok reminderEntries) :
    ∀ entry ∈ occurrenceEntries ++ reminderEntries, assistant.Readable entry.1 := by
  intro entry hmem
  rw [mapM_eq_ok] at hoccurrences hreminders
  rcases List.mem_append.mp hmem with hmem | hmem
  · obtain ⟨i, hi, rfl⟩ := List.getElem_of_mem hmem
    have hentry := hoccurrences.get (hoccurrences.length_eq ▸ hi) hi
    exact (occurrenceEntry_ok hentry).2 ▸ (occurrenceEntry_ok hentry).1
  · obtain ⟨i, hi, rfl⟩ := List.getElem_of_mem hmem
    have hentry := hreminders.get (hreminders.length_eq ▸ hi) hi
    exact (reminderEntry_ok hentry).2 ▸ (reminderEntry_ok hentry).1

/-- The day numbers of sorted entries are those of the times, in another order. -/
theorem days_perm {db : Database} {occurrences : List AgendaOccurrence} {reminders : List Reminder}
    {occurrenceEntries reminderEntries entries : List (DateTime × String)} {days : List Int}
    (hoccurrences : occurrences.mapM (assistant.occurrenceEntry db) = .ok occurrenceEntries)
    (hreminders : (reminders.filter (assistant.firesIn year month)).mapM assistant.reminderEntry =
      .ok reminderEntries)
    (hentries : entries.Perm (occurrenceEntries ++ reminderEntries))
    (hdays : entries.mapM assistant.dayNumber = .ok days) :
    days.Perm (assistant.dayNumbers year month occurrences reminders) := by
  have hvalues : days = (entries.map Prod.fst).map fun dt => (assistant.dateOf dt).2.2 := by
    rw [List.map_map, ← List.map_id days]
    refine mapM_map hdays fun entry _ day hday => ?_
    obtain ⟨local', hlocal, -⟩ := bind_eq_ok.mp hday
    rw [dayNumber_eq ⟨local', hlocal⟩] at hday
    exact (Except.ok.inj hday).symm
  have htimes : (occurrenceEntries ++ reminderEntries).map Prod.fst =
      assistant.entryTimes year month occurrences reminders := by
    rw [List.map_append]
    exact congrArg₂ (· ++ ·)
      (mapM_map hoccurrences fun _ _ _ h => (occurrenceEntry_ok h).2)
      (mapM_map hreminders fun _ _ _ h => (reminderEntry_ok h).2)
  rw [hvalues]
  unfold dayNumbers
  rw [← htimes]
  exact (hentries.map Prod.fst).map _

section Reply

variable {context : CommandContext} {source : String} {db : Database}
  {occurrences : List AgendaOccurrence} {listed : List Reminder}

/-- **The reply of a month**, given what the two queries answer. -/
theorem calendarReply_preview (hyear : 1970 ≤ year ∧ year ≤ 2100) (hmonth : 1 ≤ month ∧ month ≤ 12)
    (hoccurrences : agendaBetween assistant.engine (assistant.monthStart year month)
      (assistant.monthEnd year month) (context.at' assistant.now) db = .ok occurrences)
    (hlisted : listReminders assistant.zones (context.at' assistant.now) db = .ok listed)
    (preview : CalendarPreview) :
    (∃ reply, assistant.calendarReply (request year month) context source db = .ok reply ∧
      reply.calendarPreview = some preview) ↔
    assistant.Readable (DateTime.ofInstant assistant.now) ∧
      (∀ occurrence ∈ occurrences, assistant.Readable occurrence.startAt) ∧
      (∀ reminder ∈ listed, assistant.Readable (DateTime.ofInstant reminder.fireAt)) ∧
      CalendarPreview.checked year month
        (busyDayCounts (assistant.dayNumbers year month occurrences listed))
        (assistant.todayIn year month) = .ok preview := by
  have hrequested : ∀ today, (request year month).requested today = (year, month) := by
    intro today
    unfold MonthArguments.requested request
    simp only [givenOr_given (show year ≠ 0 by omega), givenOr_given (show month ≠ 0 by omega)]
  have hvalid : ¬ ¬ ((1970 ≤ year ∧ year ≤ 2100) ∧ 1 ≤ month ∧ month ≤ 12) :=
    not_not.mpr ⟨hyear, hmonth⟩
  have hgiven : ¬ (request year month).invalidMonth.isSome = true := Bool.false_ne_true
  unfold calendarReply
  constructor
  · rintro ⟨reply, h, hpreview⟩
    obtain ⟨localNow, hnow, h⟩ := bind_eq_ok.mp h
    simp only [if_neg hgiven, hrequested, if_neg hvalid] at h
    obtain ⟨found, hfound, h⟩ := bind_eq_ok.mp h
    obtain ⟨listed', hlisted', h⟩ := bind_eq_ok.mp h
    obtain rfl : occurrences = found := Except.ok.inj (hoccurrences.symm.trans hfound)
    obtain rfl : listed = listed' := Except.ok.inj (hlisted.symm.trans hlisted')
    obtain ⟨reminders, hreminders, h⟩ := bind_eq_ok.mp h
    obtain ⟨occurrenceEntries, hoccurrenceEntries, h⟩ := bind_eq_ok.mp h
    obtain ⟨reminderEntries, hreminderEntries, h⟩ := bind_eq_ok.mp h
    obtain ⟨days, hdays, h⟩ := bind_eq_ok.mp h
    obtain ⟨_, -, h⟩ := bind_eq_ok.mp h
    obtain ⟨_, -, h⟩ := bind_eq_ok.mp h
    obtain ⟨_, -, h⟩ := bind_eq_ok.mp h
    obtain ⟨_, -, h⟩ := bind_eq_ok.mp h
    obtain ⟨checked, hchecked, h⟩ := bind_eq_ok.mp h
    cases h
    cases hpreview
    have hreadable : ∀ reminder ∈ listed,
        assistant.Readable (DateTime.ofInstant reminder.fireAt) := by
      intro reminder hmem
      obtain ⟨kept, hkept⟩ := collect_returns.mp ⟨reminders, hreminders⟩ reminder hmem
      exact readable_of_inMonth hkept
    obtain rfl := Except.ok.inj (hreminders.symm.trans (reminders_eq year hmonth hreadable))
    have hwall : localNow.wall = assistant.reading (DateTime.ofInstant assistant.now) := by
      unfold reading
      rw [hnow]
    have hperm := days_perm hoccurrenceEntries hreminderEntries (List.perm_insertionSort _ _) hdays
    refine ⟨⟨localNow, hnow⟩, fun occurrence hmem => ?_, hreadable, ?_⟩
    · obtain ⟨entry, hentry⟩ := mapM_returns.mp ⟨_, hoccurrenceEntries⟩ occurrence hmem
      exact (occurrenceEntry_ok hentry).1
    · unfold todayIn dateOf
      rw [← hwall, ← busyDayCounts_perm hperm]
      exact hchecked
  · rintro ⟨hnow, hreadable, hlistedReadable, hchecked⟩
    obtain ⟨localNow, hnow, hwall⟩ := hnow.localTime
    obtain ⟨occurrenceEntries, hoccurrenceEntries⟩ := mapM_returns.mpr
      fun occurrence hmem => exists_occurrenceEntry db (hreadable occurrence hmem)
    obtain ⟨reminderEntries, hreminderEntries⟩ : ∃ entries,
        (listed.filter (assistant.firesIn year month)).mapM assistant.reminderEntry = .ok entries :=
      mapM_returns.mpr fun reminder hmem =>
        exists_reminderEntry (hlistedReadable reminder (List.mem_filter.mp hmem).1)
    have hentries := List.perm_insertionSort
      (fun a b : DateTime × String => ¬ b.1.lt assistant.zones a.1 = true)
      (occurrenceEntries ++ reminderEntries)
    obtain ⟨days, hdays⟩ := mapM_returns.mpr fun entry hmem =>
      ⟨_, dayNumber_eq (entries_readable hoccurrenceEntries hreminderEntries entry
        (hentries.mem_iff.mp hmem))⟩
    have hperm := days_perm hoccurrenceEntries hreminderEntries hentries hdays
    unfold todayIn dateOf at hchecked
    rw [← hwall, ← busyDayCounts_perm hperm] at hchecked
    obtain ⟨previous, hprevious⟩ := button_ok "上个月" (by decide)
      (Wall.monthText ((assistant.monthStart year month).wall - 86400000000))
    obtain ⟨current, hcurrent⟩ := button_ok "本月" (by decide) (Wall.monthText localNow.wall)
    obtain ⟨next, hnext⟩ := button_ok "下个月" (by decide)
      (Wall.monthText (assistant.monthEnd year month).wall)
    have htoday : ∃ button, MessageButton.checked "今天" "/今天" .command = .ok button :=
      ⟨_, dif_pos ⟨by decide, by decide⟩⟩
    obtain ⟨todayButton, htoday⟩ := htoday
    refine ⟨{
      text := joinLines (monthBody year month ((occurrenceEntries ++ reminderEntries).insertionSort
        fun a b => ¬ b.1.lt assistant.zones a.1 = true))
      code := "ok", source, buttons := [previous, current, next, todayButton], richText := true
      calendarPreview := some preview }, bind_eq_ok.mpr ⟨localNow, hnow, ?_⟩, ?_⟩
    · simp only [if_neg hgiven, hrequested, if_neg hvalid]
      refine bind_eq_ok.mpr ⟨occurrences, hoccurrences, bind_eq_ok.mpr ⟨listed, hlisted, ?_⟩⟩
      refine bind_eq_ok.mpr ⟨_, reminders_eq year hmonth hlistedReadable, ?_⟩
      refine bind_eq_ok.mpr ⟨_, hoccurrenceEntries, bind_eq_ok.mpr ⟨_, hreminderEntries, ?_⟩⟩
      refine bind_eq_ok.mpr ⟨days, hdays, ?_⟩
      refine bind_eq_ok.mpr ⟨previous, hprevious, bind_eq_ok.mpr ⟨current, hcurrent, ?_⟩⟩
      refine bind_eq_ok.mpr ⟨next, hnext, bind_eq_ok.mpr ⟨todayButton, htoday, ?_⟩⟩
      exact bind_eq_ok.mpr ⟨preview, hchecked, rfl⟩
    · rfl

end Reply

/-! ### When the month is right -/

/-- **The entries fit the month**: their local times exist, `CalendarPreview` takes their day numbers
and how often they occur, no number leads astray, and every day that is touched is counted. -/
structure MonthFits (assistant : Assistant) (year month : Int) (occurrences : List AgendaOccurrence)
    (reminders : List Reminder) : Prop where
  now_readable : assistant.Readable (DateTime.ofInstant assistant.now)
  starts_readable : ∀ occurrence ∈ occurrences, assistant.Readable occurrence.startAt
  times_readable : ∀ reminder ∈ reminders, assistant.Readable (DateTime.ofInstant reminder.fireAt)
  numbers : ∀ occurrence ∈ occurrences,
    (assistant.dateOf occurrence.startAt).2.2 ≤ Calendar.daysInMonth year month
  counts : ∀ day, (assistant.dayNumbers year month occurrences reminders).count day ≤ 999
  strays : ∀ occurrence ∈ occurrences, assistant.Busy occurrences reminders
    (Calendar.toOrdinal year month (assistant.dateOf occurrence.startAt).2.2)
  counted : ∀ occurrence ∈ occurrences, ∀ day, 1 ≤ day ∧ day ≤ Calendar.daysInMonth year month →
    assistant.Touches occurrence (Calendar.toOrdinal year month day) →
      day ∈ assistant.dayNumbers year month occurrences reminders

theorem mem_dayNumbers {occurrences : List AgendaOccurrence} {reminders : List Reminder} {day : Int} :
    day ∈ assistant.dayNumbers year month occurrences reminders ↔
      (∃ occurrence ∈ occurrences, (assistant.dateOf occurrence.startAt).2.2 = day) ∨
        ∃ reminder ∈ reminders, assistant.firesIn year month reminder = true ∧
          (assistant.dateOf (DateTime.ofInstant reminder.fireAt)).2.2 = day := by
  unfold dayNumbers entryTimes
  simp only [List.map_append, List.map_map, List.mem_append, List.mem_map, List.mem_filter,
    Function.comp_apply, and_assoc]

theorem day_pos (dt : DateTime) : 1 ≤ (assistant.dateOf dt).2.2 := (Calendar.fits_civil _).2.1

/-- A reminder fires on a day of the month if it fires in the month, with the number of the day. -/
theorem fires_iff (hmonth : 1 ≤ month ∧ month ≤ 12) {reminder : Reminder}
    (h : assistant.Readable (DateTime.ofInstant reminder.fireAt)) {day : Int}
    (hday : 1 ≤ day ∧ day ≤ Calendar.daysInMonth year month) :
    assistant.Fires reminder (Calendar.toOrdinal year month day) ↔
      assistant.firesIn year month reminder = true ∧
        (assistant.dateOf (DateTime.ofInstant reminder.fireAt)).2.2 = day := by
  unfold Fires firesIn
  rw [onDate_iff h, Bool.and_eq_true, decide_eq_true_eq, decide_eq_true_eq]
  constructor
  · intro hdate
    have hcivil : assistant.dateOf (DateTime.ofInstant reminder.fireAt) = (year, month, day) := by
      unfold dateOf
      rw [hdate, Calendar.civil_toOrdinal ⟨hmonth, hday⟩]
    rw [hcivil]
    exact ⟨⟨rfl, rfl⟩, rfl⟩
  · rintro ⟨hin, rfl⟩
    exact (date_of_number hin).symm

/-- The preview of a month is built if its counts are those of days of the month. -/
theorem exists_preview (hyear : 1970 ≤ year ∧ year ≤ 2100) (hmonth : 1 ≤ month ∧ month ≤ 12)
    {counts : List (Int × Int)} (hvalid : BusyDaysValid year month counts) :
    ∃ preview, CalendarPreview.checked year month counts (assistant.todayIn year month) =
      .ok preview := by
  have htoday : ∀ day ∈ assistant.todayIn year month,
      1 ≤ day ∧ day ≤ Calendar.daysInMonth year month := by
    intro day hday
    unfold todayIn at hday
    by_cases hin : (assistant.dateOf (DateTime.ofInstant assistant.now)).1 = year ∧
        (assistant.dateOf (DateTime.ofInstant assistant.now)).2.1 = month
    · rw [if_pos hin] at hday
      obtain rfl := Option.some.inj hday
      obtain ⟨rfl, rfl⟩ := hin
      exact (Calendar.fits_civil _).2
    · rw [if_neg hin] at hday
      cases hday
  unfold CalendarPreview.checked
  rw [dif_pos ⟨hyear, hmonth⟩, dif_pos htoday, dif_pos hvalid]
  exact ⟨_, rfl⟩

/-- What is known of a preview that is built. -/
theorem checked_preview {counts : List (Int × Int)} {today : Option Int} {preview : CalendarPreview}
    (h : CalendarPreview.checked year month counts today = .ok preview) :
    BusyDaysValid year month counts ∧ preview.year = year ∧ preview.month = month ∧
      preview.busyDayCounts = counts := by
  unfold CalendarPreview.checked at h
  split_ifs at h with hin htoday hvalid
  cases h
  exact ⟨hvalid, rfl, rfl, rfl⟩

/-- The days that are marked are the busy days. -/
theorem marks_iff (hmonth : 1 ≤ month ∧ month ≤ 12) {occurrences : List AgendaOccurrence}
    {reminders : List Reminder}
    (hnumbers : ∀ occurrence ∈ occurrences,
      (assistant.dateOf occurrence.startAt).2.2 ≤ Calendar.daysInMonth year month)
    (hreadable : ∀ reminder ∈ reminders, assistant.Readable (DateTime.ofInstant reminder.fireAt)) :
    (∀ day, 1 ≤ day ∧ day ≤ Calendar.daysInMonth year month →
      (day ∈ assistant.dayNumbers year month occurrences reminders ↔
        assistant.Busy occurrences reminders (Calendar.toOrdinal year month day))) ↔
    (∀ occurrence ∈ occurrences, assistant.Busy occurrences reminders
      (Calendar.toOrdinal year month (assistant.dateOf occurrence.startAt).2.2)) ∧
    ∀ occurrence ∈ occurrences, ∀ day, 1 ≤ day ∧ day ≤ Calendar.daysInMonth year month →
      assistant.Touches occurrence (Calendar.toOrdinal year month day) →
        day ∈ assistant.dayNumbers year month occurrences reminders := by
  constructor
  · intro h
    refine ⟨fun occurrence hmem => ?_, fun occurrence hmem day hday htouches => ?_⟩
    · exact (h _ ⟨day_pos _, hnumbers occurrence hmem⟩).mp
        (mem_dayNumbers.mpr (.inl ⟨occurrence, hmem, rfl⟩))
    · exact (h day hday).mpr (.inl ⟨occurrence, hmem, htouches⟩)
  · rintro ⟨hstrays, hcounted⟩ day hday
    constructor
    · intro hmem
      rcases mem_dayNumbers.mp hmem with ⟨occurrence, hoccurrence, rfl⟩ | ⟨reminder, hreminder, hfires⟩
      · exact hstrays occurrence hoccurrence
      · exact .inr ⟨reminder, hreminder, (fires_iff hmonth (hreadable reminder hreminder) hday).mpr hfires⟩
    · rintro (⟨occurrence, hoccurrence, htouches⟩ | ⟨reminder, hreminder, hfires⟩)
      · exact hcounted occurrence hoccurrence day hday htouches
      · exact mem_dayNumbers.mpr (.inr ⟨reminder, hreminder,
          (fires_iff hmonth (hreadable reminder hreminder) hday).mp hfires⟩)

def inUtc : Assistant := { engine := utcOnly, timezone := "UTC", now := 0 }

/-- An entry for some days of 2026. -/
def journey (month day days : Int) : AgendaRow where
  id := "journey"
  ownerUserId := "alice"
  creatorUserId := none
  title := "Journey"
  description := ""
  actionLinks := []
  startAt := Wall.midnight (Calendar.toOrdinal 2026 month day)
  endAt := Wall.midnight (Calendar.toOrdinal 2026 month day + days)
  timezone := "UTC"
  allDay := false
  classification := .personal
  version := 1
  createdAt := 0
  updatedAt := 0

def planned (row : AgendaRow) : Database where
  agendaItems := .single row

/-- The occurrence of the entry. -/
def journeyOccurrence (month day days : Int) : AgendaOccurrence where
  agendaItemId := "journey"
  startAt := (inUtc.midnight (Calendar.toOrdinal 2026 month day))
  endAt := (inUtc.midnight (Calendar.toOrdinal 2026 month day + days))
  title := "Journey"
  creatorUserId := some "alice"

/-- What is touched in UTC. -/
theorem inUtc_touches {month day days date : Int}
    (h : inUtc.Touches (journeyOccurrence month day days) date) :
    date = Calendar.toOrdinal 2026 month day ∨
      (Calendar.toOrdinal 2026 month day ≤ date ∧ date < Calendar.toOrdinal 2026 month day + days) := by
  unfold Touches journeyOccurrence midnight at h
  generalize Calendar.toOrdinal 2026 month day = first at h ⊢
  rcases h with ⟨local', hlocal, rfl⟩ | ⟨t, hstart, hend, local', hlocal, rfl⟩
  · left
    cases hlocal
    change Wall.ordinal (Wall.midnight first) = first
    unfold Wall.ordinal Wall.midnight
    omega
  · right
    -- the clock of UTC reads the instant itself
    have hwall : local'.wall = t := by
      unfold localTime DateTime.astimezone at hlocal
      rw [if_neg (by rintro ⟨⟩)] at hlocal
      obtain ⟨instant, hinstant, hlocal⟩ := bind_eq_ok.mp hlocal
      obtain ⟨-, hlocal⟩ := raiseIf_bind_ok.mp hlocal
      cases hlocal
      obtain ⟨-, hinstant⟩ := raiseIf_bind_ok.mp hinstant
      cases hinstant
      exact Int.sub_zero t
    rw [hwall]
    change Wall.midnight first - 0 ≤ t at hstart
    change t < Wall.midnight (first + days) - 0 at hend
    unfold Wall.midnight at hstart hend
    unfold Wall.ordinal
    omega

end Assistant

end Zhixu
