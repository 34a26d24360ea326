import Zhixu.Application.RuleCommands

/-!
# The rule parser

`RuleIntentRouter.route` tries one rule after another on a message. A rule may not apply, and then the
next is tried; otherwise what it returns is returned, be it an intent or `None`, and what it raises is
raised. So a rule is an optional result (`RouteResult`), and the parser takes the first that there is.

Rules that differ in their words alone are one definition with parameters.
-/

open Framework

namespace Zhixu

/-- `RuleIntentRouter`. -/
structure RuleIntentRouter where
  zones : TimeZones
  timezone : String

/-- What a rule makes of a message, if it applies. -/
abbrev RouteResult := Option (Except PyError (Option ParsedIntent))

namespace RuleIntentRouter

/-- `return ParsedIntent(action, arguments)`. -/
def intent (action : IntentAction) (arguments : Arguments := []) (confirmed : Bool := false) :
    RouteResult :=
  some (.ok (some { action, arguments, requiresConfirmation := confirmed }))

/-- `if condition: return …`. -/
def whenever (p : Prop) [Decidable p] (result : RouteResult) : RouteResult :=
  if p then result else none

/-- `match = re.fullmatch(…); if match: return …`. -/
def matching (a : Pattern) (value : String) (result : Pattern.Groups → Except PyError (Option ParsedIntent)) :
    RouteResult :=
  (fullmatch a value).map result

/-! ### Notes -/

def moveNotePattern : Pattern := chain [
  lit "把", zeroOrMore isSpace, .group 1 (oneOrMoreLazily dot), zeroOrMore isSpace,
  .opt (words ["条目", "备忘"]), zeroOrMore isSpace, lit "移", .opt (lit "动"), lit "到",
  zeroOrMore isSpace,
  .alt (chain [one (among "“\""), .group 2 (oneOrMore (notAmong "”\"")), one (among "”\"")])
    (.group 3 (oneOrMore dot))]

def appendNotePattern : Pattern := chain [
  lit "在", zeroOrMore isSpace, .group 1 (oneOrMoreLazily anything), .opt (lit "条目"),
  words ["下", "里"], zeroOrMore isSpace, .opt (lit "再"),
  words ["记", "记录", "保存", "新增", "添加"], .opt (words ["一条", "一组"]), zeroOrMore isSpace,
  one (among "“\""), .group 2 (oneOrMore (notAmong "”\"")), one (among "”\""), zeroOrMore isSpace,
  .opt (one (among "，,:：")), zeroOrMore isSpace, .group 3 (oneOrMore anything)]

def saveNotePattern : Pattern := chain [
  .opt (words ["请", "麻烦"]), .opt (lit "帮我"), words ["保存", "登记", "记录"], words ["到", "至"],
  zeroOrMore isSpace,
  .alt (chain [one (among "“\""), .group 1 (oneOrMore (notAmong "”\"")), one (among "”\"")])
    (.group 2 (oneOrMore (notAmong "，,:："))),
  zeroOrMore isSpace, one (among "，,:："), zeroOrMore isSpace, .group 3 (oneOrMore anything)]

def noteBlockPattern : Pattern := chain [
  .opt (words ["新增", "添加"]), .opt (words ["一条", "一组"]), zeroOrMore isSpace,
  one (among "“\""), .group 1 (oneOrMore (notAmong "”\"")), one (among "”\""), zeroOrMore isSpace,
  .opt (one (among "，,:：")), zeroOrMore isSpace, .group 2 (zeroOrMore anything)]

def fieldPattern : Pattern := chain [
  .group 1 (between (notAmong ":：") 1 80), zeroOrMore isSpace, one (among ":："), zeroOrMore isSpace,
  .group 2 (oneOrMore dot)]

def namedFieldPattern : Pattern := chain [
  .group 1 (chain [one Char.isAlpha,
    between (fun c => c.isAlphanum || c = '_' || c = '.' || c = '-') 0 79]),
  oneOrMore isSpace, .group 2 (oneOrMore dot)]

/-- One part of `_note_fields`: a field, or free text. -/
def noteField (part : String) : Option PlanValue :=
  ((fullmatch fieldPattern part).or (fullmatch namedFieldPattern part)).map fun groups =>
    .dict [(.str "name", .str (strip (taken groups 1))), (.str "value", .str (strip (taken groups 2)))]

/-- `_note_fields`. -/
def noteFields (content : String) : List PlanValue × String :=
  let parts := ((content.toList.splitOnP (among "，,；;\n")).map
    fun part => strip (String.ofList part)).filter (· ≠ "")
  (parts.filterMap noteField, joinLines (parts.filter fun part => (noteField part).isNone))

/-- `tuple(part.strip() for part in re.split(r"\s*(?:/|>|＞)\s*", path) if part.strip())`. -/
def categoryPath (path : String) : List String :=
  ((path.toList.splitOnP (among "/>＞")).map fun part => strip (String.ofList part)).filter (· ≠ "")

/-- `match.group(a) or match.group(b) or ""`. -/
def eitherGroup (groups : Pattern.Groups) (a b : ℕ) : String :=
  if taken groups a ≠ "" then taken groups a else taken groups b

def strings (values : List String) : List PlanValue := values.map .str

/-- The part of `_structured_note_route` about moving an entry. -/
def moveNote (value : String) : RouteResult :=
  match fullmatch moveNotePattern value with
  | none => none
  | some groups =>
    let path := categoryPath (eitherGroup groups 2 3)
    whenever (path ≠ []) (intent .moveNoteCategory
      [("entry_query", .str (strip (taken groups 1))), ("category_path", .tuple (strings path))] true)

/-- The part about a new block of an entry. -/
def appendNote (value : String) : RouteResult :=
  match fullmatch appendNotePattern value with
  | none => none
  | some groups =>
    let (fields, body) := noteFields (taken groups 3)
    intent .addNoteContentBlock [
      ("entry_query", .str (strip (taken groups 1))),
      ("block", .dict [(.str "name", .str (strip (taken groups 2))), (.str "body", .str body),
        (.str "fields", .list fields)])] true

/-- The part about a new entry. -/
def saveNote (value : String) : RouteResult :=
  match fullmatch saveNotePattern value with
  | none => none
  | some groups =>
    let path := categoryPath (eitherGroup groups 1 2)
    match path.getLast? with
    | none => none
    | some title =>
      let rest := strip (taken groups 3)
      let block := fullmatch noteBlockPattern rest
      let name := (block.map fun groups => strip (taken groups 1)).getD "默认内容"
      let content := (block.map fun groups => strip (taken groups 2)).getD rest
      let (fields, blockBody) := noteFields content
      intent .createNote [
        ("title", .str title),
        ("body", .str (if content ≠ "" then content else rest)),
        ("category_path",
          .tuple (strings (if path.dropLast ≠ [] then path.dropLast else ["未分类"]))),
        ("content_blocks", .list [.dict [(.str "name", .str name), (.str "body", .str blockBody),
          (.str "fields", .list fields)]])] true

def naturalNotePattern : Pattern := chain [
  .opt (words ["请", "麻烦"]), .opt (lit "帮我"), words ["登记", "记录", "记下", "保存"],
  .opt (words ["一下", "下"]), zeroOrMore (fun c => among "：:，," c || isSpace c),
  .group 1 (oneOrMore anything)]

def schedulingCuePattern : Pattern := anyOf [
  words ["提醒", "通知", "待办", "任务", "日程", "会议", "活动", "截止", "到期", "今天", "明天",
    "后天", "下周", "下月"],
  chain [lit "每", words ["天", "周", "月", "年"]],
  chain [between digit 1 2, one (among ":：点时月日号")],
  chain [between digit 4 4, lit "-", between digit 1 2, lit "-", between digit 1 2]]

/-- `_natural_note_title`. -/
def naturalNoteTitle (body : String) : String :=
  let first := strip (String.ofList (body.toList.takeWhile (notAmong ",，;；\n")))
  takeChars 80 (if first ≠ "" then first else body)

def naturalNote (value : String) : RouteResult :=
  match fullmatch naturalNotePattern value with
  | none => none
  | some groups =>
    let body := strip (taken groups 1)
    whenever (body ≠ "" ∧ schedulingCuePattern.found body.toList = false)
      (intent .createNote [("title", .str (naturalNoteTitle body)), ("body", .str body)] true)

/-! ### Words and names -/

/-- `value in {…} or compact in {…}`. -/
def listed (values compacted : List String) (action : IntentAction) (value : String) : RouteResult :=
  whenever (value ∈ values ∨
    String.ofList (value.toList.filter fun c => !isSpace c) ∈ compacted) (intent action)

/-- `value.startswith(prefix) and value.removeprefix(prefix).strip()`, for one of some prefixes: what
is behind it. -/
def behind (starts : List String) (value : String) : Option String :=
  starts.findSome? fun start =>
    let body := strip (String.ofList (value.toList.drop start.length))
    if startsWith value start = true ∧ body ≠ "" then some body else none

/-- A command that is one word with text behind it. -/
def prefixed (starts : List String) (make : String → RouteResult) (value : String) : RouteResult :=
  (behind starts value).bind make

def idPattern (command : String) : Pattern :=
  chain [lit command, oneOrMore isSpace, .group 1 (between idChar 1 160)]

/-- A command that names a resource. -/
def named (command name : String) (action : IntentAction) (confirmed : Bool) (value : String) :
    RouteResult :=
  matching (idPattern command) value fun groups =>
    .ok (some {
      action, arguments := [(name, .str (taken groups 1))], requiresConfirmation := confirmed })

def help (value : String) : RouteResult :=
  whenever (lowered value ∈ ["/帮助", "/help", "帮助", "help", "/菜单", "菜单"]) (intent .help)

def rename (value : String) : RouteResult :=
  matching (chain [lit "/", words ["我叫", "改名"], oneOrMore isSpace, .group 1 (between dot 1 40)])
    value fun groups =>
      .ok (some {
        action := .setDisplayName, arguments := [("display_name", .str (strip (taken groups 1)))] })

/-! ### Plans -/

/-- `plan_[A-Za-z0-9_-]{8,80}`. -/
def planId : Pattern := chain [lit "plan_", between idChar 8 80]

def planConfirmationPattern : Pattern := chain [
  lit "/", .group 1 (words ["确认", "拒绝", "取消"]), lit "计划", oneOrMore isSpace,
  .group 2 planId]

/-- The action of a button under a plan. A word that is not known is a `KeyError`. -/
def planAction (word : String) : Except PyError IntentAction :=
  match Dict.find? [("确认", IntentAction.confirmPlan), ("拒绝", .rejectPlan),
    ("取消", .cancelPlan)] word with
  | some action => .ok action
  | none => .error .external

def planConfirmation (value : String) : RouteResult :=
  matching planConfirmationPattern value fun groups => do
    let action ← planAction (taken groups 1)
    return some { action, arguments := [("plan_id", .str (taken groups 2))] }

def planLeadPattern : Pattern := chain [
  lit "/计划", .opt (.group 1 (lit "免")), lit "提前", oneOrMore isSpace, .group 2 planId,
  .opt (chain [oneOrMore isSpace, .group 3 (.alt (lit "默认")
    (chain [between digit 1 4, words ["分钟", "小时", "天"]]))])]

def planLead (value : String) : RouteResult :=
  matching planLeadPattern value fun groups =>
    .ok (some {
      action := .adjustPlanLead
      arguments := ("plan_id", .str (taken groups 2)) ::
        (if (noted groups 1).isSome then [("disable", .bool true)]
        else ((noted groups 3).map fun lead => ("lead", PlanValue.str lead)).toList) })

def planNotificationPattern : Pattern := chain [
  lit "/计划", .opt (.group 1 (lit "免")), lit "通知", oneOrMore isSpace, .group 2 planId,
  .opt (chain [oneOrMore isSpace,
    .group 3 (.alt (chain [.opt (one (among "01")), one digit]) (chain [lit "2", one (among "0123")])),
    lit ":", .group 4 (chain [one (among "012345"), one digit])])]

/-- The time that a plan is notified at, as it is written into the arguments. -/
def planTime (groups : Pattern.Groups) : Except PyError Arguments :=
  match noted groups 3 with
  | none => .ok []
  | some hour => do
    let number ← intOf hour.toList
    return [("time_of_day", .str (pad2 number ++ ":" ++ taken groups 4))]

def planNotification (value : String) : RouteResult :=
  matching planNotificationPattern value fun groups => do
    let more ← if (noted groups 1).isSome then .ok [("disable", .bool true)] else planTime groups
    return some {
      action := .adjustPlanNotification, arguments := ("plan_id", .str (taken groups 2)) :: more }

/-! ### Days -/

def anniversaryPattern : Pattern := chain [
  lit "/纪念日", oneOrMore isSpace, .group 1 (oneOrMoreLazily dot), oneOrMore isSpace,
  .group 2 (chain [between digit 4 4, lit "-", between digit 1 2, lit "-", between digit 1 2])]

def anniversary (value : String) : RouteResult :=
  matching anniversaryPattern value fun groups => do
    let anchor ← exceptValue (strptimeDate (taken groups 2))
    return anchor.map fun date => {
      action := .createAnniversary
      arguments := [("title", .str (strip (taken groups 1))), ("anchor_date", .date date)] }

/-- `(?:command|…)\s+(删除|改)\s+(\S+)(?:\s+(.*))?`. -/
def editPattern (commands : List String) : Pattern := chain [
  words commands, oneOrMore isSpace, .group 1 (words ["删除", "改"]), oneOrMore isSpace,
  .group 2 (oneOrMore fun c => !isSpace c),
  .opt (chain [oneOrMore isSpace, .group 3 (zeroOrMore anything)])]

/-- A command that deletes something or edits it. -/
def edited (commands : List String) (name : String) (deletion update : IntentAction)
    (edit : String → Except PyError (Option Arguments)) (value : String) : RouteResult :=
  matching (editPattern commands) value fun groups =>
    if taken groups 1 = "删除" then
      .ok (some {
        action := deletion, arguments := [(name, .str (taken groups 2))]
        requiresConfirmation := true })
    else do
      let arguments ← edit (taken groups 3)
      return arguments.map fun arguments => {
        action := update, arguments := (name, .str (taken groups 2)) :: arguments }

/-- The commands about important days. -/
def importantDayCommands : List String := ["/重要日子", "/纪念日", "/生日"]

def importantDay : String → RouteResult :=
  edited importantDayCommands "anniversary_id" .deleteAnniversary .updateAnniversary importantDayEdit

def briefing : String → RouteResult :=
  edited ["/每日简报"] "briefing_id" .deleteDailyBriefing .updateDailyBriefing briefingEdit

def notification : String → RouteResult :=
  edited ["/日程通知"] "rule_id" .deleteAgendaNotification .updateAgendaNotification notificationEdit

def birthdayPattern : Pattern := chain [
  lit "/生日", oneOrMore isSpace, .group 1 (oneOrMoreLazily dot), oneOrMore isSpace,
  .opt (chain [.group 2 (lit "农历"), oneOrMore isSpace]),
  .opt (chain [.group 3 (between digit 4 4), lit "-"]), .group 4 (between digit 1 2), lit "-",
  .group 5 (between digit 1 2)]

/-- What the parser adds for a birthday. The first of January of a lunar one is made outside of the
`try`. -/
def birthdayDate (lunar : Bool) (year month day : Int) : Except PyError (Option Arguments) :=
  if lunar = true then
    if ¬ (1 ≤ month ∧ month ≤ 12) ∨ ¬ (1 ≤ day ∧ day ≤ 30) then .ok none
    else do
      let anchor ← dateOf year 1 1
      return some [("calendar", .str "lunar"), ("lunar_month", .int month), ("lunar_day", .int day),
        ("anchor_date", .date anchor)]
  else do
    let anchor ← exceptValue (dateOf year month day)
    return anchor.map fun date => [("anchor_date", .date date)]

def birthday (value : String) : RouteResult :=
  matching birthdayPattern value fun groups => do
    let year ← yearOr (noted groups 3)
    let month ← intOf (taken groups 4).toList
    let day ← intOf (taken groups 5).toList
    let more ← birthdayDate (noted groups 2).isSome year month day
    return more.map fun more => {
      action := .createAnniversary
      arguments := [("title", .str (strip (taken groups 1))), ("kind", .str "birthday")] ++ more }

def leadsPattern : Pattern :=
  chain [lit "/提前提醒", oneOrMore isSpace, .group 1 (oneOrMore dot)]

def leads (value : String) : RouteResult :=
  matching leadsPattern value fun groups => do
    let minutes ← parseLeadMinutes (taken groups 1)
    return minutes.map fun values => {
      action := .setNotificationLeads
      arguments := [("lead_minutes", .tuple (values.map fun value => .int value))] }

/-! ### Briefings and months -/

def dailyBriefingPattern : Pattern := chain [
  lit "/每日简报", oneOrMore isSpace, .group 1 (between digit 1 2), lit ":",
  .group 2 (between digit 2 2)]

def dailyBriefing (value : String) : RouteResult :=
  matching dailyBriefingPattern value fun groups => do
    let time ← checkedTime groups
    return time.map fun value => {
      action := .createDailyBriefing, arguments := [("briefing_time", .time value)] }

def recurring : String → RouteResult :=
  prefixed ["/循环 "] fun body =>
    intent .createAgenda [("model_parse", .bool true), ("model_text", .str body)]

def monthPattern : Pattern := chain [
  .group 1 (between digit 4 4), one (among "-/年"), .group 2 (between digit 1 2), .opt (lit "月")]

def relativeMonthPattern : Pattern := chain [one (among "+-"), between digit 1 3]

def bareMonthPattern : Pattern := chain [.group 1 (between digit 1 2), .opt (lit "月")]

/-- The relative months that have a name. -/
def monthOffsets : List (String × Int) := [
  ("本月", 0), ("这个月", 0), ("当月", 0), ("本月份", 0),
  ("下月", 1), ("下个月", 1), ("次月", 1),
  ("上月", -1), ("上个月", -1), ("前一个月", -1)]

def monthOf (year month : Int) : Arguments := [("year", .int year), ("month", .int month)]

section Clock

variable (router : RuleIntentRouter) (now : Instant)

/-- `self.clock.now().astimezone(self.timezone)`. -/
def current : Except PyError DateTime :=
  (DateTime.ofInstant now).astimezone router.zones router.timezone

/-- The offset of a relative month. -/
def monthOffset (text : String) : Except PyError (Option Int) :=
  match Dict.find? monthOffsets text with
  | some offset => .ok (some offset)
  | none =>
    match fullmatch relativeMonthPattern text with
    | some _ => some <$> intOf text.toList
    | none => .ok none

/-- `_calendar_month_arguments`. -/
def calendarMonthArguments (selector : String) : Except PyError (Option Arguments) :=
  let text := strip selector
  match fullmatch monthPattern text with
  | some groups => do
    let year ← intOf (taken groups 1).toList
    let month ← intOf (taken groups 2).toList
    if ¬ (1 ≤ month ∧ month ≤ 12) then return none
    else return some (monthOf year month)
  | none => do
    let current ← router.current now
    let today := Calendar.civil (Wall.ordinal current.wall)
    match ← monthOffset text with
    | some offset =>
      let total := (today.1 * 12 + today.2.1 - 1) + offset
      return some (monthOf (total / 12) (total % 12 + 1))
    | none =>
      match fullmatch bareMonthPattern text with
      | none => return none
      | some groups => do
        let month ← intOf (taken groups 1).toList
        if ¬ (1 ≤ month ∧ month ≤ 12) then return none
        else return some (monthOf (if month < today.2.1 then today.1 + 1 else today.1) month)

def calendarPattern : Pattern := chain [
  lit "/", words ["日历", "月历"],
  .opt (chain [oneOrMore isSpace, .group 1 (oneOrMore fun c => !isSpace c)])]

def calendarView (value : String) : RouteResult :=
  matching calendarPattern value fun groups =>
    match noted groups 1 with
    | none => .ok (some { action := .viewCalendar })
    | some selector => do
      let arguments ← router.calendarMonthArguments now selector
      return some {
        action := .viewCalendar
        arguments := arguments.getD [("invalid_month", .str selector)] }

/-! ### Tasks and reminders -/

/-- The delays that can be written. A unit that is not known is a `KeyError`. -/
def delay (count : Int) (unit : String) : Except PyError Duration :=
  match Dict.find? [("分钟", Duration.minutes 1), ("小时", Duration.minutes 60),
    ("天", Duration.days 1)] unit with
  | some single => .ok (count * single : Int)
  | none => .error .external

def postponePattern : Pattern := chain [
  lit "/延期", oneOrMore isSpace, .group 1 (between idChar 1 160), oneOrMore isSpace,
  .group 2 (between digit 1 4), .group 3 (words ["分钟", "小时", "天"])]

def postponed (value : String) : RouteResult :=
  matching postponePattern value fun groups => do
    let count ← intOf (taken groups 2).toList
    let delta ← delay count (taken groups 3)
    let due ← (DateTime.ofInstant now).plus delta
    return some {
      action := .postponeTask
      arguments := [("task_id", .str (taken groups 1)), ("due_at", .aware due)] }

def snoozePattern : Pattern := chain [
  lit "/提醒稍后", oneOrMore isSpace, .group 1 (between idChar 1 160),
  .opt (chain [oneOrMore isSpace, .group 2 (between digit 1 4), lit "分钟"])]

def snoozed (value : String) : RouteResult :=
  matching snoozePattern value fun groups => do
    let minutes ← match noted groups 2 with
      | some text => intOf text.toList
      | none => .ok 15
    let fireAt ← (DateTime.ofInstant now).plus (Duration.minutes minutes)
    return some {
      action := .snoozeReminder
      arguments := [("reminder_id", .str (taken groups 1)), ("fire_at", .aware fireAt)] }

/-- An intent to be reminded. -/
def reminding (title : String) (fireAt : DateTime) : ParsedIntent where
  action := .createReminder
  arguments := [("title", .str (strip title)), ("fire_at", .aware fireAt)]

def laterPattern : Pattern := chain [lit "稍后提醒我", .group 1 (oneOrMore dot)]

def relativePattern : Pattern := chain [
  .group 1 (between digit 1 4), .group 2 (words ["分钟", "小时", "天"]), lit "后提醒我",
  .group 3 (oneOrMore dot)]

def absolutePattern : Pattern := chain [
  .group 1 (words ["今天", "明天"]), .opt (.group 2 (words ["上午", "下午", "晚上"])),
  .group 3 (between digit 1 2),
  .opt (.alt (chain [one (among ":："), .group 4 (between digit 1 2)])
    (chain [lit "点", .opt (.group 5 (between digit 1 2)), .opt (lit "分")])),
  lit "提醒我", .group 6 (oneOrMore dot)]

/-- The minute of a reminder at a time of day. -/
def absoluteMinute (groups : Pattern.Groups) : Except PyError Int :=
  match (noted groups 4).or (noted groups 5) with
  | some text => intOf text.toList
  | none => .ok 0

/-- The part of `_parse_reminder` about a time of day. -/
def absoluteReminder (current : DateTime) (groups : Pattern.Groups) :
    Except PyError (Option ParsedIntent) := do
  let written ← intOf (taken groups 3).toList
  let minute ← absoluteMinute groups
  let hour := if taken groups 2 ∈ ["下午", "晚上"] ∧ written < 12 then written + 12 else written
  if 23 < hour ∨ 59 < minute then return none
  else do
    let day := Wall.ordinal current.wall + if taken groups 1 = "明天" then 1 else 0
    raiseIf (¬ Calendar.InCalendar day) .overflow
    let time ← timeOf hour minute
    let fireAt : DateTime := {
      wall := Wall.midnight day + time.micros, zone := .named router.timezone }
    if ¬ current.lt router.zones fireAt = true then return none
    else return some (reminding (taken groups 6) fireAt)

/-- `_parse_reminder`. -/
def parseReminder (value : String) : Except PyError (Option ParsedIntent) := do
  let current ← router.current now
  match fullmatch laterPattern value with
  | some groups => do
    let fireAt ← current.plus (Duration.minutes 15)
    return some (reminding (taken groups 1) fireAt)
  | none =>
    match fullmatch relativePattern value with
    | some groups => do
      let count ← intOf (taken groups 1).toList
      let delta ← delay count (taken groups 2)
      let fireAt ← current.plus delta
      return some (reminding (taken groups 3) fireAt)
    | none =>
      match fullmatch absolutePattern value with
      | some groups => router.absoluteReminder current groups
      | none => return none

def reminder (value : String) : RouteResult :=
  match router.parseReminder now value with
  | .ok none => none
  | result => some result

/-! ### The rules in order -/

/-- The rules in front of the one that edits important days. -/
def firstRules (value : String) : List RouteResult := [
  help value, moveNote value, appendNote value, saveNote value, naturalNote value, rename value,
  planConfirmation value, planLead value, planNotification value,
  listed ["/今天", "/日程"] ["今天有什么安排", "今天的日程", "今日安排"] .listAgenda value,
  listed ["/全部日程", "/所有日程", "/未来日程"] ["列出所有日程", "所有未来日程", "查看全部日程"]
    .listAllAgenda value,
  listed ["/纪念日"] [] .listAnniversaries value,
  anniversary value]

/-- The rules between that and the one about birthdays. -/
def editRules (value : String) : List RouteResult := [briefing value, notification value]

/-- The rules behind the one about lead times. -/
def lastRules (value : String) : List RouteResult := [
  listed ["/每日简报"] [] .listDailyBriefings value,
  dailyBriefing value, recurring value, router.calendarView now value,
  listed ["/待办", "/任务"] ["有哪些待办", "我的待办", "查看任务"] .listTasks value,
  listed ["/提醒", "/提醒列表"] ["有哪些提醒", "我的提醒", "查看提醒"] .listReminders value,
  listed ["/备忘", "/备忘录", "/所有备忘"] ["查看所有备忘录条目", "查看所有备忘", "列出所有备忘录条目",
    "列出全部备忘", "所有备忘录", "备忘录列表"] .listNotes value,
  whenever (startsWith value "/私人提醒 " = true) (intent .createReminder [("private", .bool true)]),
  prefixed ["/搜索 ", "/查备忘 ", "搜索备忘 ", "查备忘 "]
    (fun body => intent .searchNotes [("query", .str body)]) value,
  prefixed ["/任务 ", "添加任务 ", "新建任务 ", "记个待办 "]
    (fun body => intent .createTask [("title", .str body)]) value,
  prefixed ["/私人任务 "]
    (fun body => intent .createTask [("title", .str body), ("private", .bool true)]) value,
  prefixed ["/记 ", "/备忘 ", "记住 "]
    (fun body => intent .createNote [("title", .str (takeChars 80 body)), ("body", .str body)]) value,
  prefixed ["/私人记 "]
    (fun body => intent .createNote [("title", .str (takeChars 80 body)), ("body", .str body),
      ("private", .bool true)]) value,
  named "/完成" "task_id" .completeTask false value,
  postponed now value,
  named "/提醒完成" "reminder_id" .acknowledgeReminder false value,
  named "/取消提醒" "reminder_id" .cancelReminder false value,
  named "/请求取消提醒" "reminder_id" .cancelReminder true value,
  named "/取消日程" "agenda_id" .cancelAgenda true value,
  snoozed now value,
  prefixed ["/总结 ", "总结备忘 "] (fun body => intent .summarizeNotes [("query", .str body)]) value,
  router.reminder now value,
  prefixed ["/问 "]
    (fun body => intent .answer [("query", .str body), ("web_search", .bool true)]) value]

/-- All rules, in the order in which they are tried. -/
def rules (value : String) : List RouteResult :=
  firstRules value ++ importantDay value :: editRules value ++
    birthday value :: leads value :: router.lastRules now value

/-- `route`. -/
def route (text : String) : Except PyError (Option ParsedIntent) :=
  ((router.rules now (strip text)).findSome? id).getD (.ok none)

end Clock

end RuleIntentRouter

end Zhixu
