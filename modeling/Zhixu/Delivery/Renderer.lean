import Zhixu.Channels.Contracts

/-!
# Degrading a message

`render_for_capabilities`: what a channel cannot show is turned into text. Markdown loses its marks,
buttons become a numbered list and an attachment a line with its address; the image previews are
dropped. The result is built anew, so a message can lose its last content here and be refused, and a
channel that cannot show text is refused every message.

The three substitutions of `_plain_markdown` are functions on characters. `dropHeadings` is a
scanner for `^#{1,6}\s*` at every line: the white space behind the marks may run over the ends of
lines, and where it ends with one the next line begins.
-/

open Framework

namespace Zhixu

/-- Where the scanner for headings stands. -/
inductive HeadingScan
  /-- in plain text, which may be the start of a line -/
  | plain (lineStart : Bool)
  /-- behind some marks of a heading -/
  | marks (count : ℕ)
  /-- in the white space behind them, which may have ended a line -/
  | space (lineStart : Bool)
deriving DecidableEq, Repr

/-- `re.sub(r"(?m)^#{1,6}\s*", "", value)`. -/
def dropHeadings : HeadingScan → List Char → List Char
  | _, [] => []
  | .plain lineStart, c :: rest =>
    if lineStart = true ∧ c = '#' then dropHeadings (.marks 1) rest
    else c :: dropHeadings (.plain (c = '\n')) rest
  | .marks count, c :: rest =>
    if c = '#' ∧ count < 6 then dropHeadings (.marks (count + 1)) rest
    else if isSpace c = true then dropHeadings (.space (c = '\n')) rest
    else c :: dropHeadings (.plain (c = '\n')) rest
  | .space lineStart, c :: rest =>
    if isSpace c = true then dropHeadings (.space (c = '\n')) rest
    else if lineStart = true ∧ c = '#' then dropHeadings (.marks 1) rest
    else c :: dropHeadings (.plain (c = '\n')) rest

/-- `text.replace(mark * 2, "")`. -/
def removePairs (mark : Char) : List Char → List Char
  | a :: b :: rest =>
    if a = mark ∧ b = mark then removePairs mark rest else a :: removePairs mark (b :: rest)
  | rest => rest

/-- A backslash in front of a character with a meaning in Markdown is dropped. -/
def unescapeMarkdown : List Char → List Char
  | a :: b :: rest =>
    if a = '\\' ∧ b ∈ markdownSpecials then b :: unescapeMarkdown rest
    else a :: unescapeMarkdown (b :: rest)
  | rest => rest

/-- `_plain_markdown`. -/
def plainMarkdown (value : String) : String :=
  String.ofList (unescapeMarkdown (removePairs '_' (removePairs '*'
    (dropHeadings (.plain true) value.toList))))

/-- The buttons as a numbered list. -/
def buttonChoices (buttons : List MessageButton) : String :=
  joinLines (buttons.mapIdx fun index button =>
    toString (index + 1) ++ ". " ++ button.label ++ " — " ++ button.action)

/-- `render_for_capabilities`. -/
def renderForCapabilities (message : OutboundMessage) (capabilities : ChannelCapabilities) :
    Except PyError OutboundMessage := do
  raiseIf (capabilities.outboundText = false)
    (.validation "channel does not support outbound text")
  let plain := message.kind = .markdown ∧ capabilities.markdown = false
  let listed := message.buttons ≠ [] ∧ capabilities.buttons = false
  -- an empty address is no attachment
  let address := message.attachmentUrl.getD ""
  let linked := address ≠ "" ∧ capabilities.attachments = false
  let text := if plain then plainMarkdown message.text else message.text
  let text := if listed then strip (text ++ "\n" ++ buttonChoices message.buttons) else text
  let text := if linked then strip (text ++ "\n附件：" ++ address) else text
  OutboundMessage.checked message.channel message.channelAccount message.targetRef
    (if plain ∨ listed ∨ linked then .text else message.kind) text
    (if listed then [] else message.buttons)
    (if linked then none else message.attachmentUrl)
    message.replyContextRef message.classification
    (if capabilities.attachments = true then message.calendarPreview else none)
    (if capabilities.attachments = true then message.dailyAgendaPreview else none)

/-- A message that is built has the fields it was built from. -/
theorem OutboundMessage.checked_ok {channel channelAccount targetRef : String} {kind : MessageKind}
    {text : String} {buttons : List MessageButton} {attachmentUrl : Option String}
    {replyContextRef : String} {classification : DataClassification}
    {calendarPreview : Option CalendarPreview} {dailyAgendaPreview : Option DailyAgendaPreview}
    {message : OutboundMessage}
    (h : OutboundMessage.checked channel channelAccount targetRef kind text buttons attachmentUrl
      replyContextRef classification calendarPreview dailyAgendaPreview = .ok message) :
    message.attachmentUrl = attachmentUrl ∧ message.replyContextRef = replyContextRef ∧
      message.channel = channel ∧ message.channelAccount = channelAccount ∧ message.text = text ∧
      message.kind = kind := by
  unfold OutboundMessage.checked at h
  split at h
  · split at h
    · split at h
      · split at h
        · split at h
          · obtain rfl := Except.ok.inj h
            exact ⟨rfl, rfl, rfl, rfl, rfl, rfl⟩
          · cases h
        · cases h
      · cases h
    · cases h
  · cases h

/-- A message is built from valid fields. -/
theorem OutboundMessage.checked_of_valid {channel channelAccount targetRef : String}
    {kind : MessageKind} {text : String} {buttons : List MessageButton}
    {attachmentUrl : Option String} {replyContextRef : String}
    {classification : DataClassification} {calendarPreview : Option CalendarPreview}
    {dailyAgendaPreview : Option DailyAgendaPreview}
    (hAccount : isBlank channel = false ∧ isBlank channelAccount = false)
    (hTarget : isBlank targetRef = false)
    (hContent : HasContent text attachmentUrl calendarPreview dailyAgendaPreview)
    (hReply : replyContextRef.length ≤ 160) (hOrdinary : classification ≤ .confidential) :
    ∃ message, OutboundMessage.checked channel channelAccount targetRef kind text buttons
      attachmentUrl replyContextRef classification calendarPreview dailyAgendaPreview =
        .ok message := by
  unfold OutboundMessage.checked
  rw [dif_pos hAccount, dif_pos hTarget, dif_pos hContent, dif_pos hReply, dif_pos hOrdinary]
  exact ⟨_, rfl⟩

/-- **Rendering keeps an empty address** and makes none. -/
theorem attachmentUrl_of_render {message rendered : OutboundMessage}
    {capabilities : ChannelCapabilities}
    (h : renderForCapabilities message capabilities = .ok rendered) :
    rendered.attachmentUrl = some "" ↔ message.attachmentUrl = some "" := by
  unfold renderForCapabilities at h
  obtain ⟨-, h⟩ := raiseIf_bind_ok.mp h
  rw [(OutboundMessage.checked_ok h).1]
  by_cases hlinked : message.attachmentUrl.getD "" ≠ "" ∧ capabilities.attachments = false
  · rw [if_pos hlinked]
    constructor
    · intro hnone
      cases hnone
    · intro hempty
      rw [hempty] at hlinked
      exact absurd rfl hlinked.1
  · rw [if_neg hlinked]

/-! A heading, emphasis and an escaped mark; seven marks are no heading. -/

example : plainMarkdown "## Plan\n\n**Tea** at 5\\.\n####### x" = "Plan\n\nTea at 5.\n# x" := by decide

end Zhixu
