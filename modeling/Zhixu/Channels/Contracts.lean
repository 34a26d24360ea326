import Zhixu.Domain.Policy
import Zhixu.Framework.Calendar

/-!
# Channel contracts

What the application hands to a channel. An `OutboundMessage` and its previews
carry the checks of their `__post_init__` as fields, so a message that exists
is a valid one; the constructor that raises is the function `checked` of each.

The image previews hold calendar data, so their checks lean on the calendar:
`monthrange` bounds the day numbers of a `CalendarPreview`, and a
`DailyAgendaPreview` needs a date that exists. Its last check is the one the
briefing scheduler has to respect: an anniversary is counted from day 1 on, so
the preview of a day before the anniversary's date is refused.

Every `checked_*` lemma says that a constructor accepts the fields of a value
that already exists. This is what makes reading a stored message back safe.
-/

open Framework

namespace Zhixu

/-- The conversation an inbound event belongs to. -/
inductive ConversationKind
  | privateChat
  | group
  | channel
deriving DecidableEq, Repr

inductive MessageKind
  | text
  | markdown
  | button
  | attachment
  | voice
deriving DecidableEq, Repr

/-- The value of the enumeration. -/
def MessageKind.value : MessageKind → String
  | text => "text"
  | markdown => "markdown"
  | button => "button"
  | attachment => "attachment"
  | voice => "voice"

/-- `MessageKind(value)`. -/
def MessageKind.ofValue (value : String) : Except PyError MessageKind :=
  match [text, markdown, button, attachment, voice].find? fun kind => kind.value = value with
  | some kind => .ok kind
  | none => .error .value

inductive ButtonActionKind
  | command
  | openUrl
deriving DecidableEq, Repr

/-- The value of the enumeration. -/
def ButtonActionKind.value : ButtonActionKind → String
  | command => "command"
  | openUrl => "open_url"

/-- `ButtonActionKind(value)`. -/
def ButtonActionKind.ofValue (value : String) : Except PyError ButtonActionKind :=
  match [command, openUrl].find? fun kind => kind.value = value with
  | some kind => .ok kind
  | none => .error .value

@[simp] theorem MessageKind.ofValue_value (kind : MessageKind) :
    MessageKind.ofValue kind.value = .ok kind := by
  cases kind <;> rfl

@[simp] theorem ButtonActionKind.ofValue_value (kind : ButtonActionKind) :
    ButtonActionKind.ofValue kind.value = .ok kind := by
  cases kind <;> rfl

/-- What a channel can show, as far as rendering asks. -/
structure ChannelCapabilities where
  outboundText : Bool := false
  markdown : Bool := false
  buttons : Bool := false
  attachments : Bool := false
deriving DecidableEq, Repr

/-- A normalized message from a channel, with the metadata the application reads. -/
structure InboundEvent where
  eventId : String
  channel : String
  channelAccount : String
  externalActorRef : String
  externalConversationRef : String
  conversationKind : ConversationKind
  messageKind : MessageKind
  receivedAt : Instant
  text : Option String := none
  mentioned : Bool := false
  replyContextRef : String := ""
  refs_nonblank : isBlank eventId = false ∧ isBlank channel = false ∧
    isBlank channelAccount = false ∧ isBlank externalActorRef = false ∧
    isBlank externalConversationRef = false
  text_nonblank : messageKind = .text → isBlank (text.getD "") = false
deriving DecidableEq, Repr

structure MessageButton where
  label : String
  action : String
  kind : ButtonActionKind := .command
  nonblank : isBlank label = false ∧ isBlank action = false
deriving DecidableEq, Repr

/-- `MessageButton(…)`. -/
def MessageButton.checked (label action : String) (kind : ButtonActionKind) :
    Except PyError MessageButton :=
  if h : isBlank label = false ∧ isBlank action = false then
    .ok { label, action, kind, nonblank := h }
  else .error (.validation "button label and action are required")

/-! ### Image previews -/

/-- The day counts of a month image: ascending distinct days of the month, each
with a count that has at most three digits. -/
def BusyDaysValid (year month : Int) (busyDayCounts : List (Int × Int)) : Prop :=
  (busyDayCounts.map Prod.fst).Nodup ∧
    (busyDayCounts.map Prod.fst).Pairwise (· ≤ ·) ∧
    ∀ p ∈ busyDayCounts,
      (1 ≤ p.1 ∧ p.1 ≤ Calendar.daysInMonth year month) ∧ 1 ≤ p.2 ∧ p.2 ≤ 999

instance (year month : Int) (counts : List (Int × Int)) :
    Decidable (BusyDaysValid year month counts) := by
  unfold BusyDaysValid; infer_instance

structure CalendarPreview where
  year : Int
  month : Int
  busyDayCounts : List (Int × Int) := []
  todayDay : Option Int := none
  month_valid : (1970 ≤ year ∧ year ≤ 2100) ∧ 1 ≤ month ∧ month ≤ 12
  today_valid : ∀ d ∈ todayDay, 1 ≤ d ∧ d ≤ Calendar.daysInMonth year month
  counts_valid : BusyDaysValid year month busyDayCounts
deriving DecidableEq, Repr

/-- `CalendarPreview(…)`. -/
def CalendarPreview.checked (year month : Int) (busyDayCounts : List (Int × Int))
    (todayDay : Option Int) : Except PyError CalendarPreview :=
  if hMonth : (1970 ≤ year ∧ year ≤ 2100) ∧ 1 ≤ month ∧ month ≤ 12 then
    if hToday : ∀ d ∈ todayDay, 1 ≤ d ∧ d ≤ Calendar.daysInMonth year month then
      if hCounts : BusyDaysValid year month busyDayCounts then
        .ok {
          year, month, busyDayCounts, todayDay
          month_valid := hMonth, today_valid := hToday, counts_valid := hCounts }
      else .error (.validation "calendar preview busy-day counts are invalid")
    else .error (.validation "calendar preview today is invalid")
  else .error (.validation "calendar preview month is invalid")

/-- One row of the timeline image. -/
structure DailyEntry where
  start : Int
  stop : Int
  kind : String
  title : String
deriving DecidableEq, Repr

/-- A row lies within one day, has a known kind and a title that fits. -/
def DailyEntry.Valid (e : DailyEntry) : Prop :=
  (0 ≤ e.start ∧ e.start < 1440) ∧ (e.start < e.stop ∧ e.stop ≤ 1440) ∧
    e.kind ∈ ["agenda", "reminder"] ∧ e.title.length ≤ 60

instance (e : DailyEntry) : Decidable e.Valid := by
  unfold DailyEntry.Valid; infer_instance

structure DailyAgendaPreview where
  year : Int
  month : Int
  day : Int
  entries : List DailyEntry := []
  anniversaryDayNumbers : List Int := []
  date_valid : Calendar.IsDate year month day
  entries_valid : ∀ e ∈ entries, e.Valid
  anniversaries_valid : ∀ n ∈ anniversaryDayNumbers, 1 ≤ n
deriving DecidableEq, Repr

/-- `DailyAgendaPreview(…)`. -/
def DailyAgendaPreview.checked (year month day : Int) (entries : List DailyEntry)
    (anniversaryDayNumbers : List Int) : Except PyError DailyAgendaPreview :=
  if hDate : Calendar.IsDate year month day then
    if hEntries : ∀ e ∈ entries, e.Valid then
      if hNumbers : ∀ n ∈ anniversaryDayNumbers, 1 ≤ n then
        .ok {
          year, month, day, entries, anniversaryDayNumbers
          date_valid := hDate, entries_valid := hEntries, anniversaries_valid := hNumbers }
      else .error (.validation "daily agenda anniversary count is invalid")
    else .error (.validation "daily agenda preview entry is invalid")
  else .error (.validation "daily agenda preview date is invalid")

/-! ### Messages -/

/-- A message needs a text or something to show in its place. -/
def HasContent (text : String) (attachmentUrl : Option String)
    (calendarPreview : Option CalendarPreview)
    (dailyAgendaPreview : Option DailyAgendaPreview) : Prop :=
  ¬ (isBlank text = true ∧ attachmentUrl = none ∧ calendarPreview = none ∧
    dailyAgendaPreview = none)

instance (text : String) (attachmentUrl : Option String)
    (calendarPreview : Option CalendarPreview)
    (dailyAgendaPreview : Option DailyAgendaPreview) :
    Decidable (HasContent text attachmentUrl calendarPreview dailyAgendaPreview) := by
  unfold HasContent; infer_instance

structure OutboundMessage where
  channel : String
  channelAccount : String
  targetRef : String
  kind : MessageKind
  text : String
  buttons : List MessageButton := []
  attachmentUrl : Option String := none
  replyContextRef : String := ""
  classification : DataClassification := .personal
  calendarPreview : Option CalendarPreview := none
  dailyAgendaPreview : Option DailyAgendaPreview := none
  account_nonblank : isBlank channel = false ∧ isBlank channelAccount = false
  target_nonblank : isBlank targetRef = false
  content : HasContent text attachmentUrl calendarPreview dailyAgendaPreview
  replyContext_short : replyContextRef.length ≤ 160
  ordinary : classification ≤ .confidential
deriving DecidableEq, Repr

theorem noReplyContext_short : "".length ≤ 160 := by decide

theorem personal_ordinary : DataClassification.personal ≤ .confidential := by decide

/-- `OutboundMessage(…)`. -/
def OutboundMessage.checked (channel channelAccount targetRef : String) (kind : MessageKind)
    (text : String) (buttons : List MessageButton) (attachmentUrl : Option String)
    (replyContextRef : String) (classification : DataClassification)
    (calendarPreview : Option CalendarPreview)
    (dailyAgendaPreview : Option DailyAgendaPreview) : Except PyError OutboundMessage :=
  if hAccount : isBlank channel = false ∧ isBlank channelAccount = false then
    if hTarget : isBlank targetRef = false then
      if hContent : HasContent text attachmentUrl calendarPreview dailyAgendaPreview then
        if hReply : replyContextRef.length ≤ 160 then
          if hOrdinary : classification ≤ .confidential then
            .ok {
              channel, channelAccount, targetRef, kind, text, buttons, attachmentUrl
              replyContextRef, classification, calendarPreview, dailyAgendaPreview
              account_nonblank := hAccount, target_nonblank := hTarget, content := hContent
              replyContext_short := hReply, ordinary := hOrdinary }
          else .error (.validation "high-sensitivity data cannot enter channel output")
        else .error (.validation "reply context reference is too long")
      else .error (.validation "outbound message content is required")
    else .error (.validation "outbound target_ref is required")
  else .error (.validation "outbound channel and account are required")

/-- What a channel reports about one delivery. -/
structure ChannelDeliveryResult where
  ok : Bool
  retryable : Bool := false
  providerCode : String := ""
  providerMessageId : String := ""
deriving DecidableEq, Repr

/-! ### Rebuilding a value that exists -/

@[simp] theorem MessageButton.checked_fields (b : MessageButton) :
    MessageButton.checked b.label b.action b.kind = .ok b := by
  unfold MessageButton.checked; rw [dif_pos b.nonblank]

@[simp] theorem CalendarPreview.checked_fields (p : CalendarPreview) :
    CalendarPreview.checked p.year p.month p.busyDayCounts p.todayDay = .ok p := by
  unfold CalendarPreview.checked
  rw [dif_pos p.month_valid, dif_pos p.today_valid, dif_pos p.counts_valid]

@[simp] theorem DailyAgendaPreview.checked_fields (p : DailyAgendaPreview) :
    DailyAgendaPreview.checked p.year p.month p.day p.entries p.anniversaryDayNumbers =
      .ok p := by
  unfold DailyAgendaPreview.checked
  rw [dif_pos p.date_valid, dif_pos p.entries_valid, dif_pos p.anniversaries_valid]

@[simp] theorem OutboundMessage.checked_fields (m : OutboundMessage) :
    OutboundMessage.checked m.channel m.channelAccount m.targetRef m.kind m.text m.buttons
      m.attachmentUrl m.replyContextRef m.classification m.calendarPreview
      m.dailyAgendaPreview = .ok m := by
  unfold OutboundMessage.checked
  rw [dif_pos m.account_nonblank, dif_pos m.target_nonblank, dif_pos m.content,
    dif_pos m.replyContext_short, dif_pos m.ordinary]

end Zhixu
