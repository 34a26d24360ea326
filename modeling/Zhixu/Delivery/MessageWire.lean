import Zhixu.Delivery.Outbox
import Zhixu.Domain.JsonValue

/-!
# Messages as JSON

A message is written as JSON twice: into `payload_json` when it is enqueued (`_message_json`), and
into the answer of the claim endpoint. It is read three times: from the row (`_message_from_row`) and
in the two kinds of channel process (`_message` of `channel_qq` and of `outbound`). The five coders
share the encodings of buttons and previews, and the readers of the previews; they differ in the
members around them, in what they make of a value that is missing or empty, and in the reply context,
which `outbound` does not read.

Each shared piece has its round trip (`buttonFrom_value`, `calendarFrom_value`, `dailyFrom_value`), and
from these:

* `messageFromPayload_dumps` — the text of a payload, read with the columns of its row, is what
  `messageFromRow` makes of the payload, valid or not; so the rows of the model stand for their texts;
* `channelQqMessage_members`, `outboundMessage_members` — what a channel process makes of the members
  of an answer. The attachment is read through its truth, so an empty address reads as none.
-/

open Framework

namespace Zhixu

/-! ### Writing -/

/-- A value that may be `None`. -/
def optionalValue {α : Type} (value : α → Json) : Option α → Json
  | none => .null
  | some a => value a

def buttonMembers (button : ButtonPayload) : List (String × Json) :=
  [("label", .str button.label), ("action", .str button.action), ("kind", .str button.kind.value)]

def calendarMembers (preview : CalendarPayload) : List (String × Json) :=
  [("year", .int preview.year), ("month", .int preview.month),
    ("busy_day_counts", .arr (preview.busyDayCounts.map fun item =>
      .arr [.int item.1, .int item.2])),
    ("today_day", optionalValue Json.int preview.todayDay)]

def dailyMembers (preview : DailyAgendaPayload) : List (String × Json) :=
  [("year", .int preview.year), ("month", .int preview.month), ("day", .int preview.day),
    ("entries", .arr (preview.entries.map fun entry =>
      .arr [.int entry.start, .int entry.stop, .str entry.kind, .str entry.title])),
    ("anniversary_day_numbers", .arr (preview.anniversaryDayNumbers.map Json.int))]

/-- The members both writers have in common, in their order. -/
def payloadMembers (payload : MessagePayload) : List (String × Json) :=
  [("text", .str payload.text),
    ("buttons", .arr (payload.buttons.map fun button => .obj (buttonMembers button))),
    ("attachment_url", optionalValue Json.str payload.attachmentUrl),
    ("calendar_preview",
      optionalValue (fun preview => .obj (calendarMembers preview)) payload.calendarPreview),
    ("daily_agenda_preview",
      optionalValue (fun preview => .obj (dailyMembers preview)) payload.dailyAgendaPreview),
    ("reply_context_ref", .str payload.replyContextRef)]

/-- The text of `payload_json`. -/
def MessagePayload.dumps (payload : MessagePayload) : List Char :=
  Json.dumps (.obj (payloadMembers payload))

/-- The members of `delivery` in the answer of the claim endpoint. -/
def deliveryMembers (deliveryId leaseToken : String) (rendered : OutboundMessage) : List (String × Json) :=
  [("id", .str deliveryId), ("lease_token", .str leaseToken), ("channel", .str rendered.channel),
    ("channel_account", .str rendered.channelAccount), ("target_ref", .str rendered.targetRef),
    ("kind", .str rendered.kind.value)] ++
    payloadMembers (messageJson rendered) ++
    [("classification", .int rendered.classification.rank)]

/-! ### Reading -/

/-- `DataClassification(value)`. -/
def classificationOf (value : Int) : Except PyError DataClassification :=
  match [DataClassification.publicLevel, .personal, .confidential, .secret, .prohibited].find?
    fun level => (level.rank : Int) = value with
  | some level => .ok level
  | none => .error .value

section Readers

variable (coercions : Coercions)

/-- `int(value[key])`. -/
def integerAt (members : List (String × Json)) (key : String) : Except PyError Int :=
  subscript members key >>= coercions.integer

/-- `str(value[key])`. -/
def textAt (members : List (String × Json)) (key : String) : Except PyError String :=
  coercions.text <$> subscript members key

/-- `int(item[index])`. -/
def integerElement (item : Json) (index : ℕ) : Except PyError Int :=
  element item index >>= coercions.integer

/-- `MessageButton(…)` of the members of an item. -/
def buttonFrom (members : List (String × Json)) : Except PyError MessageButton := do
  let label ← textAt coercions members "label"
  let action ← textAt coercions members "action"
  let kind ← ButtonActionKind.ofValue (coercions.textOr (Json.get? members "kind") "command")
  MessageButton.checked label action kind

/-- `(int(item[0]), int(item[1]))`. -/
def countFrom (item : Json) : Except PyError (Int × Int) := do
  let day ← integerElement coercions item 0
  let count ← integerElement coercions item 1
  return (day, count)

/-- `int(value["today_day"])`, unless it is missing or `None`. -/
def todayFrom (members : List (String × Json)) : Except PyError (Option Int) :=
  match Json.get? members "today_day" with
  | none | some .null => .ok none
  | some value => some <$> coercions.integer value

/-- `CalendarPreview(…)` of the members of a value. -/
def calendarOf (members : List (String × Json)) : Except PyError CalendarPreview := do
  let year ← integerAt coercions members "year"
  let month ← integerAt coercions members "month"
  let items ← iteratedMember members "busy_day_counts"
  let counts ← items.mapM (countFrom coercions)
  let today ← todayFrom coercions members
  CalendarPreview.checked year month counts today

/-- `(int(item[0]), int(item[1]), str(item[2]), str(item[3]) if len(item) > 3 else "")`. -/
def entryFrom (item : Json) : Except PyError DailyEntry := do
  let start ← integerElement coercions item 0
  let stop ← integerElement coercions item 1
  let kind ← element item 2
  let length ← size item
  let title ← if 3 < length then coercions.text <$> element item 3 else .ok ""
  return { start, stop, kind := coercions.text kind, title }

/-- `DailyAgendaPreview(…)` of the members of a value. -/
def dailyOf (members : List (String × Json)) : Except PyError DailyAgendaPreview := do
  let year ← integerAt coercions members "year"
  let month ← integerAt coercions members "month"
  let day ← integerAt coercions members "day"
  let items ← iteratedMember members "entries"
  let entries ← items.mapM (entryFrom coercions)
  let numbers ← iteratedMember members "anniversary_day_numbers"
  let numbers ← numbers.mapM coercions.integer
  DailyAgendaPreview.checked year month day entries numbers

/-- A preview that is there when its value is a `dict`. -/
def previewFrom {α : Type} (preview : List (String × Json) → Except PyError α)
    (value : Option Json) : Except PyError (Option α) :=
  (value.bind objectOf).mapM preview

/-- `payload.get("attachment_url")`, taken as it is. The column holds a string or `null`. -/
def storedAttachment (members : List (String × Json)) : Except PyError (Option String) :=
  match Json.get? members "attachment_url" with
  | none | some .null => .ok none
  | some (.str value) => .ok (some value)
  | some _ => .error .external

/-- The members of a value, or an exception: `item["label"]`, `payload.get(…)`. -/
def requireObject (value : Json) : Except PyError (List (String × Json)) :=
  match objectOf value with
  | none => .error .external
  | some members => .ok members

/-- `MessageButton(…)` of an item, which has to be a `dict`. -/
def storedButton (item : Json) : Except PyError MessageButton :=
  requireObject item >>= buttonFrom coercions

/-- `_message_from_row`, from the text of the payload and the columns of the row. -/
def messageFromPayload (text : List Char) (row : OutboxDelivery) :
    Except PyError OutboundMessage := do
  let value ← jsonLoads text
  let members ← requireObject value
  let items ← iteratedMember members "buttons"
  let buttons ← items.mapM (storedButton coercions)
  let attachmentUrl ← storedAttachment members
  let calendarPreview ← previewFrom (calendarOf coercions) (Json.get? members "calendar_preview")
  let dailyAgendaPreview ← previewFrom (dailyOf coercions) (Json.get? members "daily_agenda_preview")
  OutboundMessage.checked row.channel row.channelAccount row.targetRef row.messageKind
    (coercions.textOr (Json.get? members "text")
      (coercions.textOr (Json.get? members "title") ""))
    buttons attachmentUrl (coercions.textOr (Json.get? members "reply_context_ref") "")
    row.classification calendarPreview dailyAgendaPreview

/-- The buttons of an answer: none unless it has a list of them, and of its items the objects. -/
def buttonsOfAnswer (members : List (String × Json)) : Except PyError (List MessageButton) :=
  match Json.get? members "buttons" with
  | some (.arr items) => (items.filterMap objectOf).mapM (buttonFrom coercions)
  | _ => .ok []

/-- `str(value["attachment_url"]) if value.get("attachment_url") else None`. -/
def attachmentOfAnswer (members : List (String × Json)) : Option String :=
  match Json.get? members "attachment_url" with
  | none => none
  | some value => if coercions.truth value = true then some (coercions.text value) else none

/-- The message of an answer, with what is made of its reply context. -/
def messageOfAnswer (replyContext : List (String × Json) → String)
    (members : List (String × Json)) : Except PyError OutboundMessage := do
  let buttons ← buttonsOfAnswer coercions members
  let channel ← textAt coercions members "channel"
  let channelAccount ← textAt coercions members "channel_account"
  let targetRef ← textAt coercions members "target_ref"
  let kindText ← textAt coercions members "kind"
  let kind ← MessageKind.ofValue kindText
  let calendarPreview ← previewFrom (calendarOf coercions) (Json.get? members "calendar_preview")
  let dailyAgendaPreview ← previewFrom (dailyOf coercions) (Json.get? members "daily_agenda_preview")
  let level ← integerAt coercions members "classification"
  let classification ← classificationOf level
  OutboundMessage.checked channel channelAccount targetRef kind
    (coercions.textOr (Json.get? members "text") "") buttons (attachmentOfAnswer coercions members)
    (replyContext members) classification calendarPreview dailyAgendaPreview

/-- `_message` of `runtime/channel_qq.py`. -/
def channelQqMessage (members : List (String × Json)) : Except PyError OutboundMessage :=
  messageOfAnswer coercions
    (fun members => coercions.textOr (Json.get? members "reply_context_ref") "") members

/-- `_message` of `runtime/outbound.py`, which leaves the reply context out. -/
def outboundMessage (members : List (String × Json)) : Except PyError OutboundMessage :=
  messageOfAnswer coercions (fun _ => "") members

end Readers

/-! ### Nothing written has a fraction -/

theorem exact_optional {α : Type} {value : α → Json} (h : ∀ a, Json.Exact (value a))
    (a : Option α) : Json.Exact (optionalValue value a) := by
  cases a with
  | none => exact .null
  | some a => exact h a

theorem exact_map {α : Type} {value : α → Json} (h : ∀ a, Json.Exact (value a)) (xs : List α) :
    Json.Exact (.arr (xs.map value)) := by
  refine .arr fun item hitem => ?_
  obtain ⟨a, -, rfl⟩ := List.mem_map.mp hitem
  exact h a

theorem exact_buttonMembers (button : ButtonPayload) :
    Json.Exact (.obj (buttonMembers button)) := by
  refine .obj fun member hmember => ?_
  simp only [buttonMembers, List.mem_cons, List.not_mem_nil, or_false] at hmember
  rcases hmember with rfl | rfl | rfl <;> exact .str _

theorem exact_calendarMembers (preview : CalendarPayload) :
    Json.Exact (.obj (calendarMembers preview)) := by
  have hpair : ∀ item : Int × Int, Json.Exact (.arr [.int item.1, .int item.2]) := fun item =>
    .arr fun value hvalue => by
      rcases List.mem_pair.mp hvalue with rfl | rfl <;> exact .int _
  refine .obj fun member hmember => ?_
  simp only [calendarMembers, List.mem_cons, List.not_mem_nil, or_false] at hmember
  rcases hmember with rfl | rfl | rfl | rfl
  · exact .int _
  · exact .int _
  · exact exact_map hpair _
  · exact exact_optional .int _

theorem exact_dailyMembers (preview : DailyAgendaPayload) :
    Json.Exact (.obj (dailyMembers preview)) := by
  have hentry : ∀ entry : DailyEntry, Json.Exact
      (.arr [.int entry.start, .int entry.stop, .str entry.kind, .str entry.title]) := fun entry =>
    .arr fun value hvalue => by
      simp only [List.mem_cons, List.not_mem_nil, or_false] at hvalue
      rcases hvalue with rfl | rfl | rfl | rfl
      · exact .int _
      · exact .int _
      · exact .str _
      · exact .str _
  refine .obj fun member hmember => ?_
  simp only [dailyMembers, List.mem_cons, List.not_mem_nil, or_false] at hmember
  rcases hmember with rfl | rfl | rfl | rfl | rfl
  · exact .int _
  · exact .int _
  · exact .int _
  · exact exact_map hentry _
  · exact exact_map .int _

theorem exact_payloadMembers (payload : MessagePayload) :
    ∀ member ∈ payloadMembers payload, Json.Exact member.2 := by
  intro member hmember
  simp only [payloadMembers, List.mem_cons, List.not_mem_nil, or_false] at hmember
  rcases hmember with rfl | rfl | rfl | rfl | rfl | rfl
  · exact .str _
  · exact exact_map exact_buttonMembers _
  · exact exact_optional .str _
  · exact exact_optional exact_calendarMembers _
  · exact exact_optional exact_dailyMembers _
  · exact .str _

theorem exact_deliveryMembers (deliveryId leaseToken : String) (rendered : OutboundMessage) :
    Json.Exact (.obj (deliveryMembers deliveryId leaseToken rendered)) := by
  refine .obj fun member hmember => ?_
  unfold deliveryMembers at hmember
  rw [List.mem_append, List.mem_append] at hmember
  rcases hmember with (hhead | hpayload) | hlast
  · simp only [List.mem_cons, List.not_mem_nil, or_false] at hhead
    rcases hhead with rfl | rfl | rfl | rfl | rfl | rfl <;> exact .str _
  · exact exact_payloadMembers _ member hpayload
  · obtain rfl := List.mem_singleton.mp hlast
    exact .int _

/-! ### The round trips of the pieces -/

theorem mapM_map_ok {α β γ ε : Type} {f : β → Except ε γ} {value : α → β} {g : α → γ}
    (h : ∀ a, f (value a) = .ok (g a)) (xs : List α) : (xs.map value).mapM f = .ok (xs.map g) := by
  induction xs with
  | nil => rfl
  | cons a xs ih =>
    rw [List.map_cons, List.mapM_cons, h, ih]
    rfl

variable (coercions : Coercions)

/-- A string that may be empty reads back, the default being empty. -/
theorem textOr_str (value : String) : coercions.textOr (some (.str value)) "" = value := by
  unfold Coercions.textOr Coercions.truth
  by_cases hempty : value = ""
  · simp [hempty]
  · simp [hempty, Coercions.text]

/-- **A button reads back.** -/
theorem buttonFrom_value (button : ButtonPayload) :
    buttonFrom coercions (buttonMembers button) =
      MessageButton.checked button.label button.action button.kind := by
  have hlabel : textAt coercions (buttonMembers button) "label" = .ok button.label := rfl
  have haction : textAt coercions (buttonMembers button) "action" = .ok button.action := rfl
  have hkind : coercions.textOr (Json.get? (buttonMembers button) "kind") "command" =
      button.kind.value := by
    have hget : Json.get? (buttonMembers button) "kind" = some (.str button.kind.value) := rfl
    rw [hget]
    cases button.kind <;> rfl
  unfold buttonFrom
  rw [hlabel, haction, hkind, ButtonActionKind.ofValue_value]
  rfl

/-- **A calendar preview reads back**, and is checked anew. -/
theorem calendarOf_value (preview : CalendarPayload) :
    calendarOf coercions (calendarMembers preview) =
      CalendarPreview.checked preview.year preview.month preview.busyDayCounts preview.todayDay := by
  have hyear : integerAt coercions (calendarMembers preview) "year" = .ok preview.year := rfl
  have hmonth : integerAt coercions (calendarMembers preview) "month" = .ok preview.month := rfl
  have hitems : iteratedMember (calendarMembers preview) "busy_day_counts" =
      .ok (preview.busyDayCounts.map fun item => .arr [.int item.1, .int item.2]) := rfl
  have hcount : ∀ item : Int × Int,
      countFrom coercions (.arr [.int item.1, .int item.2]) = .ok (id item) := fun _ => rfl
  have hcounts := mapM_map_ok hcount preview.busyDayCounts
  rw [List.map_id] at hcounts
  have htoday : todayFrom coercions (calendarMembers preview) = .ok preview.todayDay := by
    have hget : Json.get? (calendarMembers preview) "today_day" =
        some (optionalValue Json.int preview.todayDay) := rfl
    unfold todayFrom
    rw [hget]
    cases preview.todayDay <;> rfl
  unfold calendarOf
  simp only [hyear, hmonth, hitems, hcounts, htoday, bind, Except.bind]

/-- **A daily preview reads back**, and is checked anew. -/
theorem dailyOf_value (preview : DailyAgendaPayload) :
    dailyOf coercions (dailyMembers preview) =
      DailyAgendaPreview.checked preview.year preview.month preview.day preview.entries
        preview.anniversaryDayNumbers := by
  have hyear : integerAt coercions (dailyMembers preview) "year" = .ok preview.year := rfl
  have hmonth : integerAt coercions (dailyMembers preview) "month" = .ok preview.month := rfl
  have hday : integerAt coercions (dailyMembers preview) "day" = .ok preview.day := rfl
  have hitems : iteratedMember (dailyMembers preview) "entries" =
      .ok (preview.entries.map fun entry =>
        .arr [.int entry.start, .int entry.stop, .str entry.kind, .str entry.title]) := rfl
  have hentry : ∀ entry : DailyEntry, entryFrom coercions
      (.arr [.int entry.start, .int entry.stop, .str entry.kind, .str entry.title]) =
        .ok (id entry) := fun _ => rfl
  have hentries := mapM_map_ok hentry preview.entries
  have hnumberItems : iteratedMember (dailyMembers preview) "anniversary_day_numbers" =
      .ok (preview.anniversaryDayNumbers.map Json.int) := rfl
  have hnumber : ∀ number : Int, coercions.integer (.int number) = .ok (id number) := fun _ => rfl
  have hnumbers := mapM_map_ok hnumber preview.anniversaryDayNumbers
  rw [List.map_id] at hentries hnumbers
  unfold dailyOf
  simp only [hyear, hmonth, hday, hitems, hentries, hnumberItems, hnumbers, bind, Except.bind]

/-- A preview that may be absent. -/
theorem previewFrom_optional {α β : Type} {read : List (String × Json) → Except PyError β}
    {members : α → List (String × Json)} {f : α → Except PyError β}
    (h : ∀ a, read (members a) = f a) (value : Option α) :
    previewFrom read (some (optionalValue (fun a => .obj (members a)) value)) = value.mapM f := by
  cases value with
  | none => rfl
  | some a =>
    show (some (members a)).mapM read = (some a).mapM f
    rw [Option.mapM_some, Option.mapM_some, h]

/-! ### The round trip through a row -/

/-- **The text of a payload is read as the payload.** -/
theorem messageFromPayload_dumps (row : OutboxDelivery) :
    messageFromPayload coercions row.payload.dumps row = messageFromRow row := by
  have hloads : jsonLoads row.payload.dumps = .ok (.obj (payloadMembers row.payload)) :=
    jsonLoads_dumps (.obj (exact_payloadMembers row.payload))
  have hobject : requireObject (.obj (payloadMembers row.payload)) =
      .ok (payloadMembers row.payload) := rfl
  have hitems : iteratedMember (payloadMembers row.payload) "buttons" =
      .ok (row.payload.buttons.map fun button => .obj (buttonMembers button)) := rfl
  have hbuttons : (row.payload.buttons.map fun button => Json.obj (buttonMembers button)).mapM
        (storedButton coercions) =
      row.payload.buttons.mapM fun item =>
        MessageButton.checked item.label item.action item.kind := by
    rw [List.mapM_map]
    congr 1
    funext button
    exact buttonFrom_value coercions button
  have hattachment : storedAttachment (payloadMembers row.payload) =
      .ok row.payload.attachmentUrl := by
    have hget : Json.get? (payloadMembers row.payload) "attachment_url" =
        some (optionalValue Json.str row.payload.attachmentUrl) := rfl
    unfold storedAttachment
    rw [hget]
    cases row.payload.attachmentUrl <;> rfl
  have hcalendar := previewFrom_optional (calendarOf_value coercions) row.payload.calendarPreview
  have hdaily := previewFrom_optional (dailyOf_value coercions) row.payload.dailyAgendaPreview
  have hcalendarValue : Json.get? (payloadMembers row.payload) "calendar_preview" =
      some (optionalValue (fun preview => .obj (calendarMembers preview))
        row.payload.calendarPreview) := rfl
  have hdailyValue : Json.get? (payloadMembers row.payload) "daily_agenda_preview" =
      some (optionalValue (fun preview => .obj (dailyMembers preview))
        row.payload.dailyAgendaPreview) := rfl
  -- the payload has no title, so an empty text stays empty
  have htext : coercions.textOr (Json.get? (payloadMembers row.payload) "text")
      (coercions.textOr (Json.get? (payloadMembers row.payload) "title") "") =
        row.payload.text := textOr_str coercions row.payload.text
  have hreply : coercions.textOr (Json.get? (payloadMembers row.payload) "reply_context_ref") "" =
      row.payload.replyContextRef := textOr_str coercions row.payload.replyContextRef
  unfold messageFromPayload messageFromRow
  simp only [hloads, hobject, hitems, hbuttons, hattachment, hcalendarValue, hcalendar, hdailyValue, hdaily,
    htext, hreply, bind, Except.bind]

/-- **What is enqueued is read back.** -/
theorem enqueued_read_back (request : EnqueueRequest) :
    messageFromPayload coercions request.row.payload.dumps request.row = .ok request.message :=
  (messageFromPayload_dumps coercions request.row).trans (OutboxStore.messageFromRow_row request)

/-! ### What a channel process reads -/

/-- The attachment of a message that has come over the wire: an empty address is none. -/
def attachmentReceived : Option String → Option String
  | none => none
  | some address => if address = "" then none else some address

/-- The objects of a list of objects. -/
theorem filterMap_objectOf {α : Type} (members : α → List (String × Json)) (xs : List α) :
    (xs.map fun a => Json.obj (members a)).filterMap objectOf = xs.map members := by
  induction xs with
  | nil => rfl
  | cons a xs ih =>
    have hobject : objectOf (.obj (members a)) = some (members a) := rfl
    rw [List.map_cons, List.map_cons, List.filterMap_cons_some hobject, ih]

theorem classificationOf_rank (classification : DataClassification) :
    classificationOf classification.rank = .ok classification := by
  cases classification <;> rfl

theorem messageOfAnswer_members (replyContext : List (String × Json) → String)
    (deliveryId leaseToken : String) (m : OutboundMessage) :
    messageOfAnswer coercions replyContext (deliveryMembers deliveryId leaseToken m) =
      OutboundMessage.checked m.channel m.channelAccount m.targetRef m.kind m.text m.buttons
        (attachmentReceived m.attachmentUrl) (replyContext (deliveryMembers deliveryId leaseToken m))
        m.classification m.calendarPreview m.dailyAgendaPreview := by
  have hbuttons : buttonsOfAnswer coercions (deliveryMembers deliveryId leaseToken m) = .ok m.buttons := by
    show (List.filterMap objectOf (List.map _ _)).mapM (buttonFrom coercions) = _
    rw [filterMap_objectOf]
    unfold messageJson
    rw [List.map_map]
    have hread : ∀ b : MessageButton, buttonFrom coercions
        ((buttonMembers ∘ fun b : MessageButton => (⟨b.label, b.action, b.kind⟩ : ButtonPayload)) b) =
          .ok (id b) := by
      intro b
      show buttonFrom coercions (buttonMembers ⟨b.label, b.action, b.kind⟩) = .ok b
      rw [buttonFrom_value]
      exact MessageButton.checked_fields b
    rw [mapM_map_ok hread, List.map_id]
  have hchannel : textAt coercions (deliveryMembers deliveryId leaseToken m) "channel" = .ok m.channel := rfl
  have haccount : textAt coercions (deliveryMembers deliveryId leaseToken m) "channel_account" =
      .ok m.channelAccount := rfl
  have htarget : textAt coercions (deliveryMembers deliveryId leaseToken m) "target_ref" =
      .ok m.targetRef := rfl
  have hkind : textAt coercions (deliveryMembers deliveryId leaseToken m) "kind" = .ok m.kind.value := rfl
  have htext : coercions.textOr (Json.get? (deliveryMembers deliveryId leaseToken m) "text") "" = m.text :=
    textOr_str coercions m.text
  have hattachment : attachmentOfAnswer coercions (deliveryMembers deliveryId leaseToken m) =
      attachmentReceived m.attachmentUrl := by
    have hget : Json.get? (deliveryMembers deliveryId leaseToken m) "attachment_url" =
        some (optionalValue Json.str m.attachmentUrl) := rfl
    unfold attachmentOfAnswer attachmentReceived
    rw [hget]
    cases m.attachmentUrl with
    | none => rfl
    | some address =>
      by_cases hempty : address = ""
      · simp [hempty, optionalValue, Coercions.truth]
      · simp [hempty, optionalValue, Coercions.truth, Coercions.text]
  have hcalendar : previewFrom (calendarOf coercions)
      (Json.get? (deliveryMembers deliveryId leaseToken m) "calendar_preview") = .ok m.calendarPreview := by
    show previewFrom _ (some (optionalValue (fun preview => .obj (calendarMembers preview)) _)) = _
    rw [previewFrom_optional (calendarOf_value coercions)]
    exact OutboxStore.mapM_checked_calendar m.calendarPreview
  have hdaily : previewFrom (dailyOf coercions)
      (Json.get? (deliveryMembers deliveryId leaseToken m) "daily_agenda_preview") =
        .ok m.dailyAgendaPreview := by
    show previewFrom _ (some (optionalValue (fun preview => .obj (dailyMembers preview)) _)) = _
    rw [previewFrom_optional (dailyOf_value coercions)]
    exact OutboxStore.mapM_checked_daily m.dailyAgendaPreview
  have hlevel : integerAt coercions (deliveryMembers deliveryId leaseToken m) "classification" =
      .ok (m.classification.rank : Int) := rfl
  unfold messageOfAnswer
  simp only [hbuttons, hchannel, haccount, htarget, hkind, MessageKind.ofValue_value, hcalendar,
    hdaily, hlevel, classificationOf_rank, htext, hattachment, bind, Except.bind]

/-- **What `channel_qq` reads.** -/
theorem channelQqMessage_members (deliveryId leaseToken : String) (m : OutboundMessage) :
    channelQqMessage coercions (deliveryMembers deliveryId leaseToken m) =
      OutboundMessage.checked m.channel m.channelAccount m.targetRef m.kind m.text m.buttons
        (attachmentReceived m.attachmentUrl) m.replyContextRef m.classification m.calendarPreview
        m.dailyAgendaPreview := by
  have hreply : coercions.textOr
      (Json.get? (deliveryMembers deliveryId leaseToken m) "reply_context_ref") "" = m.replyContextRef :=
    textOr_str coercions m.replyContextRef
  unfold channelQqMessage
  rw [messageOfAnswer_members, hreply]

/-- **What `outbound` reads.** -/
theorem outboundMessage_members (deliveryId leaseToken : String) (m : OutboundMessage) :
    outboundMessage coercions (deliveryMembers deliveryId leaseToken m) =
      OutboundMessage.checked m.channel m.channelAccount m.targetRef m.kind m.text m.buttons
        (attachmentReceived m.attachmentUrl) "" m.classification m.calendarPreview
        m.dailyAgendaPreview := by
  unfold outboundMessage
  rw [messageOfAnswer_members]

end Zhixu
