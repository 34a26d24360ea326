import Zhixu.Application.NotificationEdits
import Zhixu.Application.PlanValues

/-!
# Revising a plan

While a plan waits to be confirmed, a message that is no command revises it. The model is shown the
plan and the message and answers with a proposal, which `ModelIntentClassifier.classify` turns into
arguments, as it does for a fresh request; `handle` then lets these arguments replace those of the plan,
by name.

`proposed` lists what a proposal sets. A value that is null, empty or omitted sets nothing, and then the
plan should keep what it had (`KeepsTheRest`). But `classify` fills in what a fresh request should have:
the kind and the calendar of an important day, and flags that are off. An empty text passes for a text,
a flag that is taken back passes for one that was never given, and a message that speaks of the briefing
drops the notifications.

`Agrees` is the question for one argument, and `keepsTheRest_iff` takes it to a list of arguments with
different names. So the exact condition (`DefaultsCoincide`) is found argument by argument.
-/

open Framework

namespace Zhixu

/-! ### Placeholders -/

namespace SecretRedactor

/-- `<SECRET_(\d+)>` at the beginning of a text: the number, what was matched, and what follows. -/
def placeholder (cs : List Char) : Option (ℕ × List Char × List Char) :=
  let mark := "<SECRET_".toList
  if mark.isPrefixOf cs = true then
    let digits := (cs.drop mark.length).takeWhile fun c => (decimalValue c).isSome
    match digitsValue digits, (cs.drop mark.length).drop digits.length with
    | some index, '>' :: rest =>
      if digits = [] then none else some (index, mark ++ digits ++ ['>'], rest)
    | _, _ => none
  else none

/-- `_PLACEHOLDER.sub`, on a text of at most so many characters. -/
def substitute (put : ℕ → List Char → List Char) : ℕ → List Char → List Char
  | 0, _ => []
  | _ + 1, [] => []
  | bound + 1, c :: cs =>
    match placeholder (c :: cs) with
    | some (index, matched, rest) => put index matched ++ substitute put bound rest
    | none => c :: substitute put bound cs

/-- `restore`, with the values that were taken out. -/
def restore (values : List String) (text : String) : String :=
  if text = "" ∨ values = [] then text
  else String.ofList (substitute (fun index matched =>
    if index = 0 then matched else ((values[index - 1]?).map String.toList).getD matched)
      text.length text.toList)

/-- `blank`. -/
def blank (text : String) : String :=
  if text = "" then text
  else String.ofList (substitute (fun _ _ => "（已隐藏）".toList) text.length text.toList)

theorem restore_empty (values : List String) : restore values "" = "" := if_pos (.inl rfl)

example : restore ["pass"] "<SECRET_1> <SECRET_2>" = "pass <SECRET_2>" := by decide +kernel

end SecretRedactor

/-! ### What a message speaks of -/

/-- What is behind one of some words, when a text begins with it. -/
def afterWord (words : List String) (cs : List Char) : Option (List Char) :=
  (words.find? fun word => word.toList.isPrefixOf cs).map fun word => cs.drop word.length

/-- `.{0,n}(?:每日)?(?:早报|简报)(?:中|里)?`, the longest first: what is behind it. -/
def afterBriefing : ℕ → List Char → Option (List Char)
  | n, cs =>
    let ending (cs : List Char) : Option (List Char) :=
      ((afterWord ["每日"] cs).bind (afterWord ["早报", "简报"])).or (afterWord ["早报", "简报"] cs)
    let here := (ending cs).map fun rest => (afterWord ["中", "里"] rest).getD rest
    match n, cs with
    | n + 1, c :: rest => if c = '\n' then here else (afterBriefing n rest).or here
    | _, _ => here

/-- `_BRIEFING_INCLUSION_PATTERN` at the beginning of a text: what is behind the match. -/
def briefingInclusion (cs : List Char) : Option (List Char) :=
  (afterWord ["并入", "纳入", "加入", "放入", "显示在", "出现在"] cs).bind (afterBriefing 8)

/-- `_BRIEFING_INCLUSION_PATTERN.sub("", text)`, on a text of at most so many characters. -/
def withoutInclusion : ℕ → List Char → List Char
  | 0, _ => []
  | _ + 1, [] => []
  | bound + 1, c :: cs =>
    match briefingInclusion (c :: cs) with
    | some rest => withoutInclusion bound rest
    | none => c :: withoutInclusion bound cs

/-- What the redactors make of a message: its text without links and secrets, the values that were taken
out, and the links, each with the label it falls back to. -/
structure MessageReading where
  redactedText : String
  secrets : List String := []
  links : List ActionLink := []

namespace MessageReading

variable (reading : MessageReading)

/-- `briefing_inclusion`. -/
def briefing : Bool := reading.redactedText.toList.tails.any fun cs => (briefingInclusion cs).isSome

/-- `notification_requested`. -/
def notificationRequested : Bool :=
  (withoutInclusion reading.redactedText.length reading.redactedText.toList).tails.any fun cs =>
    (afterWord ["提醒", "通知", "推送", "叫我", "告诉我"] cs).isSome

/-- The message speaks of the briefing and asks for no notification. -/
def dropsNotifications : Bool := reading.briefing && !reading.notificationRequested

end MessageReading

example : MessageReading.briefing { redactedText := "改成纳入每日早报" } = true := by decide +kernel

example : MessageReading.dropsNotifications { redactedText := "并入早报并提醒我" } = false := by
  decide +kernel

/-! ### Proposals -/

/-- The text of a kind of important day. -/
def ImportantDayKind.text : ImportantDayKind → String
  | .anniversary => "anniversary"
  | .birthday => "birthday"

/-- The text of a calendar. -/
def CalendarSystem.text : CalendarSystem → String
  | .solar => "solar"
  | .lunar => "lunar"

/-- `ModelIntentProposal`. A flag that is omitted is `none`. -/
structure ModelIntentProposal where
  action : IntentAction
  confidence : ℚ
  query : Option String := none
  title : Option String := none
  body : Option String := none
  answer : Option String := none
  fireAt : Option DateTime := none
  dueAt : Option DateTime := none
  startAt : Option DateTime := none
  endAt : Option DateTime := none
  recurrenceRule : Option String := none
  anchorDate : Option Int := none
  briefingTime : Option PlanTime := none
  importantDayKind : Option ImportantDayKind := none
  calendarSystem : Option CalendarSystem := none
  lunarMonth : Option Int := none
  lunarDay : Option Int := none
  lunarLeap : Option Bool := none
  viewYear : Option Int := none
  viewMonth : Option Int := none
  notificationDefaulted : Option Bool := none
  categoryPath : Option (List String) := none
  advanceDays : List Int := []
  leadMinutes : List Int := []
  notifications : List NotificationProposal := []
  links : List (ℕ × String) := []
  includeInDailyBriefing : Option Bool := none
  isPrivate : Option Bool := none
  taskId : Option String := none
  reminderId : Option String := none
  resourceId : Option String := none

/-- A link under another label, where that is one. -/
def ActionLink.relabel (link : ActionLink) (label : String) : ActionLink :=
  if label_valid : isBlank label = false ∧ label.length ≤ 40 then { link with label, label_valid }
  else link

/-- A list, unless it is empty. -/
def nonempty (items : List PlanValue) : Option (List PlanValue) :=
  if items.isEmpty = true then none else some items

namespace ModelIntentProposal

variable (reading : MessageReading) (proposal : ModelIntentProposal)

/-- `link_labels.get(index)`. -/
def labelOf (index : ℕ) : Option String :=
  ((proposal.links.filter fun link => link.1 = index ∧ isBlank link.2 = false).getLast?).map fun link =>
    strip link.2

/-- `action_links`. -/
def actionLinks : List ActionLink :=
  reading.links.zipIdx.map fun link =>
    ((proposal.labelOf (link.2 + 1)).map link.1.relabel).getD link.1

/-- The notifications, with what was taken out of the message left out. -/
def blanked : List PlanValue :=
  proposal.notifications.map fun item =>
    .notification { item with text := SecretRedactor.blank item.text }

/-- What `classify` fills in, under the names of the arguments. -/
def entries : List (String × Option PlanValue) :=
  let restored (text : Option String) : Option PlanValue :=
    text.map fun text => .str (SecretRedactor.restore reading.secrets text)
  let notifications := if reading.dropsNotifications = true then [] else proposal.blanked
  [("query", proposal.query.map .str),
    ("title", restored proposal.title),
    ("body", restored proposal.body),
    ("answer", restored proposal.answer),
    ("fire_at", proposal.fireAt.map .aware),
    ("due_at", proposal.dueAt.map .aware),
    ("start_at", proposal.startAt.map .aware),
    ("end_at", proposal.endAt.map .aware),
    ("recurrence_rule", proposal.recurrenceRule.map .str),
    ("anchor_date", proposal.anchorDate.map .date),
    ("briefing_time", proposal.briefingTime.map .time),
    ("notifications", if reading.dropsNotifications = true then some (.list notifications)
      else (nonempty notifications).map .list),
    ("links", (nonempty ((proposal.actionLinks reading).map .actionLink)).map .list),
    ("kind", some (.str (proposal.importantDayKind.getD .anniversary).text)),
    ("calendar", some (.str (proposal.calendarSystem.getD .solar).text)),
    ("lunar_month", proposal.lunarMonth.map .int),
    ("lunar_day", proposal.lunarDay.map .int),
    ("lunar_leap", some (.bool (proposal.lunarLeap.getD false))),
    ("year", proposal.viewYear.map .int),
    ("month", proposal.viewMonth.map .int),
    ("notification_defaulted",
      if proposal.notificationDefaulted.getD false = true then some (.bool true) else none),
    ("category_path", (nonempty ((proposal.categoryPath.getD []).map .str)).map .tuple),
    ("advance_days", (nonempty (proposal.advanceDays.map .int)).map .tuple),
    ("lead_minutes", (nonempty (proposal.leadMinutes.map .int)).map .tuple),
    ("include_in_daily_briefing",
      some (.bool (proposal.includeInDailyBriefing.getD false || reading.briefing))),
    ("private", if proposal.isPrivate.getD false = true then some (.bool true) else none),
    ("task_id", proposal.taskId.map .str),
    ("reminder_id", proposal.reminderId.map .str),
    ("resource_id", proposal.resourceId.map .str)]

/-- A text, unless it is empty. -/
def given (text : Option String) : Option String := text.filter fun text => text ≠ ""

/-- What a proposal sets: what is not null, empty or omitted. The links are those of the message, which
the proposal labels. -/
def proposed : List (String × Option PlanValue) :=
  let restored (text : Option String) : Option PlanValue :=
    (given text).map fun text => .str (SecretRedactor.restore reading.secrets text)
  [("query", (given proposal.query).map .str),
    ("title", restored proposal.title),
    ("body", restored proposal.body),
    ("answer", restored proposal.answer),
    ("fire_at", proposal.fireAt.map .aware),
    ("due_at", proposal.dueAt.map .aware),
    ("start_at", proposal.startAt.map .aware),
    ("end_at", proposal.endAt.map .aware),
    ("recurrence_rule", (given proposal.recurrenceRule).map .str),
    ("anchor_date", proposal.anchorDate.map .date),
    ("briefing_time", proposal.briefingTime.map .time),
    ("notifications", (nonempty proposal.blanked).map .list),
    ("links", (nonempty ((proposal.actionLinks reading).map .actionLink)).map .list),
    ("kind", proposal.importantDayKind.map fun kind => .str kind.text),
    ("calendar", proposal.calendarSystem.map fun calendar => .str calendar.text),
    ("lunar_month", proposal.lunarMonth.map .int),
    ("lunar_day", proposal.lunarDay.map .int),
    ("lunar_leap", proposal.lunarLeap.map .bool),
    ("year", proposal.viewYear.map .int),
    ("month", proposal.viewMonth.map .int),
    ("notification_defaulted", proposal.notificationDefaulted.map .bool),
    ("category_path", (nonempty ((proposal.categoryPath.getD []).map .str)).map .tuple),
    ("advance_days", (nonempty (proposal.advanceDays.map .int)).map .tuple),
    ("lead_minutes", (nonempty (proposal.leadMinutes.map .int)).map .tuple),
    ("include_in_daily_briefing", proposal.includeInDailyBriefing.map .bool),
    ("private", proposal.isPrivate.map .bool),
    ("task_id", (given proposal.taskId).map .str),
    ("reminder_id", (given proposal.reminderId).map .str),
    ("resource_id", (given proposal.resourceId).map .str)]

/-- `classify`, behind the answer of the model: the arguments of a proposal that is sure enough. -/
def arguments (confidenceThreshold : ℚ) : Option Arguments :=
  if proposal.confidence < confidenceThreshold then none
  else some (Dict.present (proposal.entries reading))

/-- The actions that a revision may be about. -/
def creations : List IntentAction :=
  [.createAgenda, .createAnniversary, .createDailyBriefing, .createReminder, .createTask, .createNote]

/-- The revision in `handle`: the arguments of the plan that is staged next, if the proposal is one of
the action that is required. -/
def merged (confidenceThreshold : ℚ) (action : IntentAction) (previous : Arguments) :
    Option Arguments :=
  (proposal.arguments reading confidenceThreshold).bind fun revised =>
    if proposal.action ≠ action ∨ proposal.action ∉ creations then none
    else some (Dict.update previous revised)

end ModelIntentProposal

/-! ### Keeping the rest -/

namespace PlanRevision

/-- What is found is the value, where a flag that is off may also be absent. -/
def Says (found : Option PlanValue) (value : PlanValue) : Prop :=
  found = some value ∨ (value = .bool false ∧ found = none)

/-- An argument has no other value than this one. -/
def Holds (arguments : Arguments) (name : String) (value : PlanValue) : Prop :=
  ∀ found, Dict.find? arguments name = some found → found = value

/-- **A revision keeps the rest.** An argument of the plan that is not set keeps its value, and one that
is set has the value that is set. -/
structure KeepsTheRest (previous merged : Arguments) (settings : List (String × Option PlanValue)) :
    Prop where
  kept : ∀ name value, (Dict.find? settings name).join = none →
    Dict.find? previous name = some value → Dict.find? merged name = some value
  taken : ∀ name value, (Dict.find? settings name).join = some value →
    Says (Dict.find? merged name) value

/-- One argument is kept, or taken. -/
structure Agrees (previous : Arguments) (name : String) (written set : Option PlanValue) : Prop where
  kept : set = none → ∀ value, Dict.find? previous name = some value →
    written.or (Dict.find? previous name) = some value
  taken : ∀ value, set = some value → Says (written.or (Dict.find? previous name)) value

section Lists

/-- What is written for an argument, and what is set. -/
structure Setting where
  name : String
  written : Option PlanValue
  set : Option PlanValue

variable {previous : Arguments}

/-- **A list of arguments** is kept and taken if each of them is. -/
theorem keepsTheRest_iff {settings : List Setting} (hnames : (settings.map Setting.name).Nodup) :
    KeepsTheRest previous
        (Dict.update previous (Dict.present (settings.map fun setting => (setting.name, setting.written))))
        (settings.map fun setting => (setting.name, setting.set)) ↔
      ∀ setting ∈ settings, Agrees previous setting.name setting.written setting.set := by
  have hkeys : ∀ f : Setting → Option PlanValue,
      ((settings.map fun setting => (setting.name, f setting)).map Prod.fst).Nodup := by
    intro f
    rw [List.map_map]
    exact hnames
  -- what is found of the name of a setting, and of any other name
  have hfound : ∀ (f : Setting → Option PlanValue) (setting : Setting), setting ∈ settings →
      (Dict.find? (settings.map fun setting => (setting.name, f setting)) setting.name).join =
        f setting := by
    intro f setting hmem
    rw [Dict.find?_of_mem (hkeys f) (List.mem_map.mpr ⟨setting, hmem, rfl⟩)]
    rfl
  have habsent : ∀ (f : Setting → Option PlanValue) name, name ∉ settings.map Setting.name →
      (Dict.find? (settings.map fun setting => (setting.name, f setting)) name).join = none := by
    intro f name hname
    rw [Dict.find?_eq_none.mpr]
    · rfl
    · rwa [List.map_map]
  have hmerged : ∀ name, Dict.find? (Dict.update previous (Dict.present
      (settings.map fun setting => (setting.name, setting.written)))) name =
        (Dict.find? (settings.map fun setting => (setting.name, setting.written)) name).join.or
          (Dict.find? previous name) := by
    intro name
    rw [Dict.find?_update ((Dict.keys_present _).nodup (hkeys Setting.written)),
      Dict.find?_present (hkeys Setting.written)]
  constructor
  · intro h setting hmem
    refine ⟨fun hset value hvalue => ?_, fun value hvalue => ?_⟩
    · have hkept := h.kept setting.name value ((hfound Setting.set setting hmem).trans hset) hvalue
      rwa [hmerged, hfound Setting.written setting hmem] at hkept
    · have htaken := h.taken setting.name value ((hfound Setting.set setting hmem).trans hvalue)
      rwa [hmerged, hfound Setting.written setting hmem] at htaken
  · intro h
    refine ⟨fun name value hset hvalue => ?_, fun name value hvalue => ?_⟩
    · rw [hmerged]
      by_cases hname : name ∈ settings.map Setting.name
      · obtain ⟨setting, hmem, rfl⟩ := List.mem_map.mp hname
        rw [hfound Setting.set setting hmem] at hset
        rw [hfound Setting.written setting hmem]
        exact (h setting hmem).kept hset value hvalue
      · rw [habsent Setting.written name hname]
        exact hvalue
    · rw [hmerged]
      by_cases hname : name ∈ settings.map Setting.name
      · obtain ⟨setting, hmem, rfl⟩ := List.mem_map.mp hname
        rw [hfound Setting.set setting hmem] at hvalue
        rw [hfound Setting.written setting hmem]
        exact (h setting hmem).taken value hvalue
      · rw [habsent Setting.set name hname] at hvalue
        cases hvalue

end Lists

/-! ### One argument -/

section Argument

variable {previous : Arguments} {name : String}

/-- What is written as it is set. -/
theorem agrees_self (written : Option PlanValue) : Agrees previous name written written := by
  refine ⟨fun hset value hvalue => ?_, fun value hvalue => .inl ?_⟩
  · rw [hset]
    exact hvalue
  · rw [hvalue]
    rfl

/-- What is written anyway, though nothing is set, has to be there already. -/
theorem agrees_none_iff (written : PlanValue) :
    Agrees previous name (some written) none ↔ Holds previous name written := by
  constructor
  · intro h found hfound
    exact (Option.some.inj (h.kept rfl found hfound)).symm
  · intro h
    refine ⟨fun _ value hvalue => ?_, fun value hvalue => nomatch hvalue⟩
    rw [h value hvalue]
    rfl

/-- A text that is empty passes for a text. -/
theorem agrees_text_iff (write : String → PlanValue) (text : Option String) :
    Agrees previous name (text.map write) ((ModelIntentProposal.given text).map write) ↔
      (text = some "" → Holds previous name (write "")) := by
  cases text with
  | none => exact iff_of_true (agrees_self none) fun h => nomatch h
  | some text =>
    by_cases hempty : text = ""
    · subst hempty
      exact (agrees_none_iff (write "")).trans ⟨fun h _ => h, fun h => h rfl⟩
    · have hgiven : ModelIntentProposal.given (some text) = some text := by
        unfold ModelIntentProposal.given
        simp [hempty]
      rw [hgiven]
      exact iff_of_true (agrees_self _) fun h => absurd (Option.some.inj h) hempty

theorem agrees_restored_iff (values : List String) (text : Option String) :
    Agrees previous name (text.map fun text => .str (SecretRedactor.restore values text))
        ((ModelIntentProposal.given text).map fun text => .str (SecretRedactor.restore values text)) ↔
      (text = some "" → Holds previous name (.str "")) := by
  rw [agrees_text_iff, SecretRedactor.restore_empty]

/-- A value that is filled in, where none is set. -/
theorem agrees_default_iff {α : Type} (write : α → PlanValue) (default : α) (value : Option α) :
    Agrees previous name (some (write (value.getD default))) (value.map write) ↔
      (value = none → Holds previous name (write default)) := by
  cases value with
  | none => exact (agrees_none_iff (write default)).trans ⟨fun h _ => h, fun h => h rfl⟩
  | some value => exact iff_of_true (agrees_self _) fun h => nomatch h

/-- A flag that is only ever written when it is on. -/
theorem agrees_flag_iff (value : Option Bool) :
    Agrees previous name (if value.getD false = true then some (.bool true) else none)
        (value.map .bool) ↔
      (value = some false → Holds previous name (.bool false)) := by
  cases value with
  | none => exact iff_of_true (agrees_self none) fun h => nomatch h
  | some value =>
    cases value with
    | true => exact iff_of_true (agrees_self _) fun h => nomatch h
    | false =>
      constructor
      · intro h _ found hfound
        rcases h.taken (.bool false) rfl with hsays | ⟨-, hsays⟩
        · exact Option.some.inj (hfound.symm.trans hsays)
        · exact absurd (hfound.symm.trans hsays) (by simp)
      · intro h
        refine ⟨fun hset => (nomatch hset), fun value hvalue => ?_⟩
        obtain rfl := Option.some.inj hvalue
        change Says (Dict.find? previous name) (.bool false)
        cases hfound : Dict.find? previous name with
        | none => exact .inr ⟨rfl, rfl⟩
        | some found => exact .inl (congrArg some (h rfl found hfound))

/-- A flag that the message may turn on. -/
theorem agrees_or_iff (value : Option Bool) (on : Bool) :
    Agrees previous name (some (.bool (value.getD false || on))) (value.map .bool) ↔
      (value = none → Holds previous name (.bool on)) ∧ (value = some false → on = false) := by
  cases value with
  | none =>
    exact (agrees_none_iff (.bool on)).trans
      ⟨fun h => ⟨fun _ => h, fun hset => nomatch hset⟩, fun h => h.1 rfl⟩
  | some value =>
    cases value with
    | true => exact iff_of_true (agrees_self _) ⟨fun h => (nomatch h), fun h => nomatch h⟩
    | false =>
      constructor
      · intro h
        refine ⟨fun h => (nomatch h), fun _ => ?_⟩
        rcases h.taken (.bool false) rfl with hsays | ⟨-, hsays⟩
        · exact PlanValue.bool.inj (Option.some.inj hsays)
        · cases hsays
      · rintro ⟨-, h⟩
        rw [h rfl]
        exact agrees_self (some (.bool false))

/-- A list that the message may drop. -/
theorem agrees_dropped_iff (items : List PlanValue) (drops : Bool) :
    Agrees previous name
        (if drops = true then some (.list []) else (nonempty items).map .list)
        ((nonempty items).map .list) ↔
      (drops = true → items = [] ∧ Holds previous name (.list [])) := by
  cases drops with
  | false => exact iff_of_true (agrees_self _) fun h => nomatch h
  | true =>
    rw [if_pos rfl]
    cases items with
    | nil => exact (agrees_none_iff (.list [])).trans ⟨fun h _ => ⟨rfl, h⟩, fun h => (h rfl).2⟩
    | cons item rest =>
      refine iff_of_false (fun h => ?_) fun h => nomatch (h rfl).1
      rcases h.taken (.list (item :: rest)) rfl with hsays | ⟨hvalue, -⟩
      · exact nomatch PlanValue.list.inj (Option.some.inj hsays)
      · cases hvalue

end Argument

/-! ### All arguments -/

section Revision

variable (previous : Arguments) (reading : MessageReading) (proposal : ModelIntentProposal)

/-- The texts that a proposal may give. -/
def texts : List (String × Option String) :=
  [("query", proposal.query), ("title", proposal.title), ("body", proposal.body),
    ("answer", proposal.answer), ("recurrence_rule", proposal.recurrenceRule),
    ("task_id", proposal.taskId), ("reminder_id", proposal.reminderId),
    ("resource_id", proposal.resourceId)]

/-- **Where a revision keeps the rest.** An argument of the plan for which `classify` fills something in,
though the proposal sets nothing, is what is filled in; and what the message does not let through is not
proposed. -/
structure DefaultsCoincide : Prop where
  text : ∀ name, (name, some "") ∈ texts proposal → Holds previous name (.str "")
  kind : proposal.importantDayKind = none → Holds previous "kind" (.str "anniversary")
  calendar : proposal.calendarSystem = none → Holds previous "calendar" (.str "solar")
  lunarLeap : proposal.lunarLeap = none → Holds previous "lunar_leap" (.bool false)
  briefing : proposal.includeInDailyBriefing = none →
    Holds previous "include_in_daily_briefing" (.bool reading.briefing)
  briefingOff : proposal.includeInDailyBriefing = some false → reading.briefing = false
  defaulted : proposal.notificationDefaulted = some false →
    Holds previous "notification_defaulted" (.bool false)
  isPrivate : proposal.isPrivate = some false → Holds previous "private" (.bool false)
  notifications : reading.dropsNotifications = true →
    proposal.notifications = [] ∧ Holds previous "notifications" (.list [])

/-- What is written for each argument, beside what is set. -/
def settings : List Setting :=
  List.zipWith (fun entry setting => ⟨entry.1, entry.2, setting.2⟩) (proposal.entries reading)
    (proposal.proposed reading)

variable {previous reading proposal}

/-- **A revision keeps the rest** exactly where the defaults coincide with what the plan has. -/
theorem revision_iff {confidenceThreshold : ℚ} {action : IntentAction} {merged : Arguments}
    (h : proposal.merged reading confidenceThreshold action previous = some merged) :
    KeepsTheRest previous merged (proposal.proposed reading) ↔
      DefaultsCoincide previous reading proposal := by
  obtain ⟨revised, hrevised, hmerged⟩ := Option.bind_eq_some_iff.mp h
  have hentries : revised = Dict.present (proposal.entries reading) := by
    unfold ModelIntentProposal.arguments at hrevised
    split_ifs at hrevised
    exact (Option.some.inj hrevised).symm
  split_ifs at hmerged
  obtain rfl := Option.some.inj hmerged
  rw [hentries]
  have hnames : ((settings reading proposal).map Setting.name).Nodup := by
    change List.Nodup ["query", "title", "body", "answer", "fire_at", "due_at", "start_at", "end_at",
      "recurrence_rule", "anchor_date", "briefing_time", "notifications", "links", "kind", "calendar",
      "lunar_month", "lunar_day", "lunar_leap", "year", "month", "notification_defaulted",
      "category_path", "advance_days", "lead_minutes", "include_in_daily_briefing", "private", "task_id",
      "reminder_id", "resource_id"]
    decide
  refine (keepsTheRest_iff hnames).trans ?_
  unfold settings ModelIntentProposal.entries ModelIntentProposal.proposed
  simp only [List.zipWith_cons_cons, List.zipWith_nil_right, List.forall_mem_cons]
  have hblanked : proposal.blanked = [] ↔ proposal.notifications = [] := List.map_eq_nil_iff
  have hdropped : (if reading.dropsNotifications = true then
      some (PlanValue.list (if reading.dropsNotifications = true then [] else proposal.blanked))
      else (nonempty (if reading.dropsNotifications = true then [] else proposal.blanked)).map .list) =
        if reading.dropsNotifications = true then some (.list []) else
          (nonempty proposal.blanked).map .list := by
    split_ifs <;> rfl
  rw [hdropped, agrees_dropped_iff, hblanked]
  constructor
  · rintro ⟨hquery, htitle, hbody, hanswer, -, -, -, -, hrule, -, -, hnotifications, -, hkind,
      hcalendar, -, -, hleap, -, -, hdefaulted, -, -, -, hbriefing, hprivate, htask, hreminder,
      hresource, -⟩
    refine {
      text := ?_
      kind := (agrees_default_iff (fun kind : ImportantDayKind => PlanValue.str kind.text)
        ImportantDayKind.anniversary _).mp hkind
      calendar := (agrees_default_iff
        (fun calendar : CalendarSystem => PlanValue.str calendar.text) CalendarSystem.solar _).mp hcalendar
      lunarLeap := (agrees_default_iff .bool false _).mp hleap
      briefing := ((agrees_or_iff _ _).mp hbriefing).1
      briefingOff := ((agrees_or_iff _ _).mp hbriefing).2
      defaulted := (agrees_flag_iff _).mp hdefaulted
      isPrivate := (agrees_flag_iff _).mp hprivate
      notifications := hnotifications }
    intro name hname
    simp only [texts, List.mem_cons, Prod.mk.injEq, List.not_mem_nil, or_false] at hname
    rcases hname with ⟨rfl, hempty⟩ | ⟨rfl, hempty⟩ | ⟨rfl, hempty⟩ | ⟨rfl, hempty⟩ |
      ⟨rfl, hempty⟩ | ⟨rfl, hempty⟩ | ⟨rfl, hempty⟩ | ⟨rfl, hempty⟩
    · exact (agrees_text_iff .str _).mp hquery hempty.symm
    · exact (agrees_restored_iff _ _).mp htitle hempty.symm
    · exact (agrees_restored_iff _ _).mp hbody hempty.symm
    · exact (agrees_restored_iff _ _).mp hanswer hempty.symm
    · exact (agrees_text_iff .str _).mp hrule hempty.symm
    · exact (agrees_text_iff .str _).mp htask hempty.symm
    · exact (agrees_text_iff .str _).mp hreminder hempty.symm
    · exact (agrees_text_iff .str _).mp hresource hempty.symm
  · intro h
    have htext : ∀ name text, (name, text) ∈ texts proposal → text = some "" →
        Holds previous name (.str "") := by
      rintro name text hmem rfl
      exact h.text name hmem
    refine ⟨(agrees_text_iff .str _).mpr (htext _ _ ?_),
      (agrees_restored_iff _ _).mpr (htext _ _ ?_), (agrees_restored_iff _ _).mpr (htext _ _ ?_),
      (agrees_restored_iff _ _).mpr (htext _ _ ?_), agrees_self _, agrees_self _, agrees_self _,
      agrees_self _, (agrees_text_iff .str _).mpr (htext _ _ ?_), agrees_self _, agrees_self _,
      h.notifications, agrees_self _,
      (agrees_default_iff (fun kind : ImportantDayKind => PlanValue.str kind.text)
        ImportantDayKind.anniversary _).mpr h.kind,
      (agrees_default_iff (fun calendar : CalendarSystem => PlanValue.str calendar.text)
        CalendarSystem.solar _).mpr h.calendar,
      agrees_self _, agrees_self _, (agrees_default_iff .bool false _).mpr h.lunarLeap, agrees_self _,
      agrees_self _, (agrees_flag_iff _).mpr h.defaulted, agrees_self _, agrees_self _, agrees_self _,
      (agrees_or_iff _ _).mpr ⟨h.briefing, h.briefingOff⟩, (agrees_flag_iff _).mpr h.isPrivate,
      (agrees_text_iff .str _).mpr (htext _ _ ?_), (agrees_text_iff .str _).mpr (htext _ _ ?_),
      (agrees_text_iff .str _).mpr (htext _ _ ?_), fun _ hnil => (nomatch hnil)⟩
    all_goals simp [texts]

end Revision

/-! ### Moving a birthday -/

/-- "Make it the third of May", said of an important day. -/
def thirdOfMay : MessageReading := { redactedText := "改成5月3日" }

def moved : ModelIntentProposal where
  action := .createAnniversary
  confidence := 1
  anchorDate := some (Calendar.toOrdinal 2026 5 3)

/-- A plan for an important day. -/
def importantDay (kind : ImportantDayKind) : Arguments :=
  [("title", .str "Ann"), ("anchor_date", .date (Calendar.toOrdinal 2026 5 2)), ("kind", .str kind.text),
    ("calendar", .str "solar"), ("lunar_leap", .bool false), ("include_in_daily_briefing", .bool false)]

theorem moved_merged (kind : ImportantDayKind) :
    moved.merged thirdOfMay (4 / 5) .createAnniversary (importantDay kind) =
      some (Dict.update (importantDay kind) (Dict.present (moved.entries thirdOfMay))) := by
  have hsure : ¬ moved.confidence < 4 / 5 := by
    change ¬ (1 : ℚ) < 4 / 5
    norm_num
  unfold ModelIntentProposal.merged ModelIntentProposal.arguments
  rw [if_neg hsure]
  rfl

/-- An anniversary is moved, and nothing else. -/
theorem anniversary_moved :
    KeepsTheRest (importantDay .anniversary)
      (Dict.update (importantDay .anniversary) (Dict.present (moved.entries thirdOfMay)))
      (moved.proposed thirdOfMay) := by
  have hbriefing : thirdOfMay.briefing = false := by decide +kernel
  have hdrops : thirdOfMay.dropsNotifications = false := by decide +kernel
  refine (revision_iff (moved_merged .anniversary)).mpr {
    text := ?_
    kind := fun _ found h => (Option.some.inj h).symm
    calendar := fun _ found h => (Option.some.inj h).symm
    lunarLeap := fun _ found h => (Option.some.inj h).symm
    briefing := ?_
    briefingOff := fun _ => hbriefing
    defaulted := fun h => (nomatch h)
    isPrivate := fun h => (nomatch h)
    notifications := fun h => absurd (hdrops.symm.trans h) (by decide) }
  · intro name hname
    simp [texts, moved] at hname
  · rw [hbriefing]
    exact fun _ found h => (Option.some.inj h).symm

/-- A birthday that is moved becomes an anniversary. -/
theorem birthday_lost :
    ∃ merged, moved.merged thirdOfMay (4 / 5) .createAnniversary (importantDay .birthday) = some merged ∧
      ¬ KeepsTheRest (importantDay .birthday) merged (moved.proposed thirdOfMay) := by
  refine ⟨_, moved_merged .birthday, fun h => ?_⟩
  have hkind : some (PlanValue.str "anniversary") = some (PlanValue.str "birthday") :=
    h.kept "kind" (.str "birthday") rfl rfl
  exact absurd (PlanValue.str.inj (Option.some.inj hkind)) (by decide)

end PlanRevision

end Zhixu
