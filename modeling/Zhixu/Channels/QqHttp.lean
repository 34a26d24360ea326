import Zhixu.Channels.Contracts
import Zhixu.Domain.JsonValue
import Zhixu.Domain.Time
import Zhixu.Storage.Database

/-!
# Sending to QQ

`QQHttpAdapter.send`. A message goes to the contact it is addressed to, as an answer to an event if it
has a reply context, with a token that is asked for when the last one has expired, and after its
picture has been uploaded if it has one. All of this is `prepare`: it ends in a result, or it raises,
or it goes on. Then the message is posted, and posted once more as plain text if QQ takes no
formatting (`post`); and what QQ answered becomes the result (`conclude`), after the reply context has
been removed.

What a sending meets outside is in its `Meeting`: the clock, the answers of QQ, and what the store and
the renderer of pictures raise. An answer is any status and any body; the adapter reads at most a
mebibyte of one, and takes everything that is no JSON object for an empty one. The bodies of the
requests are left out, since QQ may answer anything; the requests themselves are noted with their
answers (`Exchange`), so that it can be said what QQ has been asked and has accepted.
-/

open Framework

namespace Zhixu

/-! ### Contacts -/

/-- `channel_contacts`. -/
structure ContactRow where
  channelAccount : String
  opaqueRef : String
  kind : RouteKind
  externalTargetEnc : String
deriving DecidableEq, Repr

/-- `UNIQUE(channel_account_id, opaque_ref)`. -/
def ContactRow.key (row : ContactRow) : String × String := (row.channelAccount, row.opaqueRef)

/-- `qq_reply_contexts`. -/
structure ReplyContextRow where
  channelAccount : String
  opaqueRef : String
  targetRef : String
  contextKind : String
  externalContextEnc : String
  receivedAt : Instant
deriving DecidableEq, Repr

/-- The primary key of a reply context. -/
def ReplyContextRow.key (row : ReplyContextRow) : String × String :=
  (row.channelAccount, row.opaqueRef)

structure ResolvedQQTarget where
  kind : RouteKind
  identifier : String
deriving DecidableEq, Repr

structure ResolvedQQReplyContext where
  field : String
  identifier : String
deriving DecidableEq, Repr

/-! ### Answers of QQ -/

/-- `MAX_JSON_RESPONSE_BYTES`. -/
def maxJsonResponseBytes : ℕ := 1024 * 1024

/-- An answer over HTTP. -/
structure ProviderAnswer where
  status : ℕ
  body : String
  status_range : 100 ≤ status ∧ status ≤ 999

namespace ProviderAnswer

/-- `value if isinstance(value, dict) else {}` of the body, which may be no JSON. -/
def members (answer : ProviderAnswer) : List (String × Json) :=
  match Json.loads answer.body.toList with
  | some (.obj members) => members
  | _ => []

/-- The answer is read whole. -/
def Fits (answer : ProviderAnswer) : Prop := answer.body.utf8ByteSize ≤ maxJsonResponseBytes

instance (answer : ProviderAnswer) : Decidable answer.Fits := Nat.decLe _ _

/-- `UrllibJsonTransport.request`, of an answer that has come. -/
def read (answer : ProviderAnswer) : Except PyError ProviderAnswer := do
  raiseIf (¬ answer.Fits) .value
  return answer

end ProviderAnswer

/-- What QQ is asked for. -/
inductive RequestKind
  | token
  | upload
  | message
  | fallback
deriving DecidableEq, Repr

/-- A request that has been made, and what came of it. -/
structure Exchange where
  kind : RequestKind
  answer : Except PyError ProviderAnswer

/-- The adapter and its store. -/
structure QqState where
  contacts : Table ContactRow ContactRow.key := ∅
  replyContexts : Table ReplyContextRow ReplyContextRow.key := ∅
  token : String := ""
  tokenExpiresAt : Instant := Instant.earliest
  exchanges : List Exchange := []

/-- What a sending meets outside. -/
structure Meeting where
  /-- `self.clock()` -/
  clock : Instant
  /-- `datetime.now(UTC)` -/
  systemNow : Instant
  token : Except PyError ProviderAnswer
  upload : Except PyError ProviderAnswer
  message : Except PyError ProviderAnswer
  fallback : Except PyError ProviderAnswer
  /-- what the rendering of a preview raises -/
  picture : Except PyError Unit := .ok ⟨⟩
  /-- what reading a contact raises -/
  contact : Except PyError Unit := .ok ⟨⟩
  /-- what reading a reply context raises -/
  replyContext : Except PyError Unit := .ok ⟨⟩
  /-- what the transaction that removes a reply context raises -/
  removal : Except PyError Unit := .ok ⟨⟩

/-- `QQContactStore`. Decryption is a primitive. -/
structure QQContactStore where
  decrypt : String → String → Except PyError String

/-- The text of a kind of contact. -/
def contactKind : RouteKind → String
  | .privateChat => "private"
  | .group => "group"
  | .channel => "channel"
  | .actor => "actor"

namespace QQContactStore

variable (store : QQContactStore) (meeting : Meeting)

/-- `resolve`. -/
def resolve (channelAccount opaqueRef : String) (s : QqState) : Except PyError ResolvedQQTarget := do
  meeting.contact
  match s.contacts.find? (channelAccount, opaqueRef) with
  | none => throw (.notFound "QQ contact was not found")
  | some row =>
    let identifier ← store.decrypt row.externalTargetEnc
      ("qq-contact:" ++ channelAccount ++ ":" ++ contactKind row.kind ++ ":" ++ opaqueRef)
    return { kind := row.kind, identifier }

/-- `resolve_reply_context`. -/
def resolveReplyContext (channelAccount opaqueRef targetRef : String) (s : QqState) :
    Except PyError (Option ResolvedQQReplyContext) := do
  let cutoff ← Instant.plus meeting.clock (-Duration.minutes 10)
  meeting.replyContext
  match (s.replyContexts.find? (channelAccount, opaqueRef)).filter fun row =>
      row.targetRef = targetRef with
  | none => return none
  | some row =>
    if row.receivedAt < cutoff then return none
    else
      let identifier ← store.decrypt row.externalContextEnc
        ("qq-reply:" ++ channelAccount ++ ":" ++ opaqueRef)
      return some { field := row.contextKind, identifier }

/-- `remove_reply_context`. -/
def removeReplyContext (channelAccount opaqueRef : String) : Effect QqState PyError Unit := do
  Effect.check meeting.removal
  Effect.write fun s => { s with
    replyContexts := s.replyContexts.deleteWhere fun row => row.key = (channelAccount, opaqueRef) }

end QQContactStore

/-! ### The adapter -/

structure QQHttpAdapter where
  channelAccount : String
  contacts : QQContactStore
  coercions : Coercions

namespace QQHttpAdapter

variable (adapter : QQHttpAdapter) (meeting : Meeting) (message : OutboundMessage)

/-- `transport.request`. -/
def request (kind : RequestKind) (answer : Except PyError ProviderAnswer) :
    Effect QqState PyError ProviderAnswer := do
  Effect.write fun s => { s with exchanges := s.exchanges ++ [⟨kind, answer⟩] }
  Effect.check (answer >>= ProviderAnswer.read)

/-- `str(value.get(key) or "")`. -/
def textOf (answer : ProviderAnswer) (key : String) : String :=
  adapter.coercions.textOr (Json.get? answer.members key) ""

/-- `current + timedelta(seconds=max(120, int(value.get("expires_in") or 7200)) - 60)`. -/
def tokenExpiry (answer : ProviderAnswer) : Except PyError Instant := do
  let expiresIn ← match Json.get? answer.members "expires_in" with
    | none => pure 7200
    | some value =>
      if adapter.coercions.truth value = true then adapter.coercions.integer value else pure 7200
  Instant.plus meeting.systemNow (Duration.seconds (max 120 expiresIn - 60))

/-- `access_token`. -/
def accessToken : Effect QqState PyError Unit := do
  let fresh ← Effect.reads fun s => s.token ≠ "" && meeting.systemNow < s.tokenExpiresAt
  if fresh then return ⟨⟩
  else do
    let answer ← request .token meeting.token
    let token := adapter.textOf answer "access_token"
    Effect.check (raiseIf (answer.status ≠ 200 ∨ token = "") .external)
    Effect.write fun s => { s with token }
    let tokenExpiresAt ← Effect.check (adapter.tokenExpiry meeting answer)
    Effect.write fun s => { s with tokenExpiresAt }

/-- `_message_endpoint`, whether there is one. -/
def messageEndpoint (target : ResolvedQQTarget) : Except PyError Unit :=
  raiseIf (target.kind = .actor) (.validation "QQ target kind cannot receive messages")

/-- `_file_endpoint`, whether there is one. -/
def hasFileEndpoint (target : ResolvedQQTarget) : Bool :=
  target.kind = .privateChat || target.kind = .group

/-- The message has a picture of its own making. -/
def hasPreview : Bool := message.calendarPreview.isSome || message.dailyAgendaPreview.isSome

/-- `message.attachment_url`, as a truth value. -/
def hasAttachment : Bool := message.attachmentUrl.any fun url => url ≠ ""

/-- A failed request, by its status. -/
def failure (retryable : Bool) (status : ℕ) : ChannelDeliveryResult where
  ok := false
  retryable
  providerCode := "http_" ++ toString status

/-- `status == 429 or status >= 500`. -/
def isTransient (status : ℕ) : Bool := status = 429 || decide (500 ≤ status)

/-- What comes of an upload: a message without its picture is still sent, unless the picture is all
there is, or the upload may be tried again. -/
def uploaded (answer : ProviderAnswer) : Option ChannelDeliveryResult :=
  if answer.status ≠ 200 ∨ adapter.textOf answer "file_info" = "" then
    if hasPreview message = false then some (failure (isTransient answer.status) answer.status)
    else if isTransient answer.status = true then some (failure true answer.status)
    else none
  else none

/-- The upload of a picture, if there is one and a place for it. -/
def upload (target : ResolvedQQTarget) : Effect QqState PyError (Option ChannelDeliveryResult) :=
  if (hasAttachment message || hasPreview message) && hasFileEndpoint target then do
    Effect.check (if hasPreview message = true then meeting.picture else .ok ⟨⟩)
    let answer ← request .upload meeting.upload
    return adapter.uploaded message answer
  else return none

/-- The buttons that QQ shows at most. -/
def keyboardSize : ℕ := 4 * 5

/-- `send` up to the message itself: `none` if it goes on. -/
def prepare : Effect QqState PyError (Option ChannelDeliveryResult) :=
  if message.channel ≠ "qq" ∨ message.channelAccount ≠ adapter.channelAccount then
    return some { ok := false, providerCode := "account_mismatch" }
  else if DataClassification.confidential ≤ message.classification then
    return some { ok := false, providerCode := "classification_blocked" }
  else do
    let target ← Effect.query (adapter.contacts.resolve meeting message.channelAccount
      message.targetRef)
    let replyContext ← Effect.query fun s =>
      if message.replyContextRef = "" then .ok none
      else adapter.contacts.resolveReplyContext meeting message.channelAccount
        message.replyContextRef message.targetRef s
    if message.replyContextRef ≠ "" ∧ replyContext = none then do
      QQContactStore.removeReplyContext meeting message.channelAccount message.replyContextRef
      return some { ok := false, providerCode := "reply_context_unavailable" }
    else do
      adapter.accessToken meeting
      if keyboardSize < message.buttons.length then
        return some { ok := false, providerCode := "keyboard_too_large" }
      else do
        let refused ← adapter.upload meeting message target
        match refused with
        | some result => return some result
        | none => do
          Effect.check (messageEndpoint target)
          return none

/-- `str(value.get("id") or "").strip()`. -/
def providerMessageId (answer : ProviderAnswer) : String := strip (adapter.textOf answer "id")

/-- `200 <= status < 300`. -/
def isSuccess (status : ℕ) : Bool := decide (200 ≤ status) && decide (status < 300)

/-- **QQ has accepted the message.** -/
def Accepts (answer : ProviderAnswer) : Prop :=
  isSuccess answer.status = true ∧ adapter.providerMessageId answer ≠ ""

instance (answer : ProviderAnswer) : Decidable (adapter.Accepts answer) := instDecidableAnd

/-- The message is posted once more, as plain text. -/
def fallsBack (answer : ProviderAnswer) : Bool :=
  (answer.status = 400 || answer.status = 403 ||
      isSuccess answer.status && adapter.providerMessageId answer = "") &&
    (message.kind = .markdown || !message.buttons.isEmpty) &&
    (!hasAttachment message || hasPreview message)

/-- The message is posted. -/
def post : Effect QqState PyError ProviderAnswer := do
  let answer ← request .message meeting.message
  if adapter.fallsBack message answer = true then request .fallback meeting.fallback
  else return answer

/-- `if message.reply_context_ref: self.contacts.remove_reply_context(…)`. -/
def forgetReply : Effect QqState PyError Unit :=
  if message.replyContextRef ≠ "" then
    QQContactStore.removeReplyContext meeting message.channelAccount message.replyContextRef
  else return ⟨⟩

/-- The result of a message that has been posted. -/
def conclude (answer : ProviderAnswer) : Effect QqState PyError ChannelDeliveryResult :=
  if adapter.Accepts answer then do
    forgetReply meeting message
    return {
      ok := true
      providerCode := "ok"
      providerMessageId := adapter.providerMessageId answer }
  else if isSuccess answer.status = true then
    return { ok := false, providerCode := "invalid_provider_response" }
  else if isTransient answer.status = true then return failure true answer.status
  else do
    forgetReply meeting message
    return failure false answer.status

/-- `send`. -/
def send : Effect QqState PyError ChannelDeliveryResult := do
  let refused ← adapter.prepare meeting message
  match refused with
  | some result => return result
  | none => do
    let answer ← adapter.post meeting message
    adapter.conclude meeting message answer

/-- What the delivery thread makes of a sending: an exception counts as a failure that is tried
again. The requests are noted from the start of the sending. -/
def attempt (s : QqState) : ChannelDeliveryResult × QqState :=
  match (adapter.send meeting message).exec { s with exchanges := [] } with
  | (.ok result, s') => (result, s')
  | (.error _, s') => ({ ok := false, retryable := true, providerCode := "adapter_exception" }, s')

/-- QQ has accepted the message in one of the requests that have been made. -/
def AcceptedIn (exchanges : List Exchange) : Prop :=
  ∃ exchange ∈ exchanges, (exchange.kind = .message ∨ exchange.kind = .fallback) ∧
    ∃ answer, exchange.answer = .ok answer ∧ adapter.Accepts answer

/-! ### What a sending needs to reach the message -/

/-- There is a token, or QQ gives one. -/
def HasToken (s : QqState) : Prop :=
  (s.token ≠ "" ∧ meeting.systemNow < s.tokenExpiresAt) ∨
    ∃ answer, meeting.token = .ok answer ∧ answer.Fits ∧ answer.status = 200 ∧
      adapter.textOf answer "access_token" ≠ "" ∧
      ∃ expiry, adapter.tokenExpiry meeting answer = .ok expiry

/-- The picture of a message is uploaded, or dispensed with. -/
def PictureSettled (target : ResolvedQQTarget) : Prop :=
  ((hasAttachment message || hasPreview message) && hasFileEndpoint target) = true →
    (hasPreview message = true → meeting.picture = .ok ⟨⟩) ∧
      ∃ answer, meeting.upload = .ok answer ∧ answer.Fits ∧ adapter.uploaded message answer = none

/-- **A message is posted**: it is one for this account that may be sent, its contact and the event it
answers are known, and there is a token, room for its buttons, and a way around its picture. -/
structure ReachesAt (s : QqState) (target : ResolvedQQTarget) : Prop where
  channel : message.channel = "qq"
  account : message.channelAccount = adapter.channelAccount
  ordinary : ¬ DataClassification.confidential ≤ message.classification
  contact : adapter.contacts.resolve meeting message.channelAccount message.targetRef s = .ok target
  receives : target.kind ≠ .actor
  reply : message.replyContextRef ≠ "" → ∃ context,
    adapter.contacts.resolveReplyContext meeting message.channelAccount message.replyContextRef
      message.targetRef s = .ok (some context)
  token : adapter.HasToken meeting s
  keyboard : message.buttons.length ≤ keyboardSize
  picture : adapter.PictureSettled meeting message target

/-- The answer to the last of the requests in which the message was posted. -/
def Posted (answer : ProviderAnswer) : Prop :=
  (meeting.message = .ok answer ∧ (answer.Fits → adapter.fallsBack message answer = false)) ∨
    ∃ first, meeting.message = .ok first ∧ first.Fits ∧ adapter.fallsBack message first = true ∧
      meeting.fallback = .ok answer

/-- The answer with which QQ accepts a message that is sent. -/
structure Delivers (s : QqState) (answer : ProviderAnswer) : Prop where
  reached : ∃ target, adapter.ReachesAt meeting message s target
  posted : adapter.Posted meeting message answer
  accepts : adapter.Accepts answer

/-- The answer is read, and the reply context removed. -/
def Settled (answer : ProviderAnswer) : Prop :=
  answer.Fits ∧ (message.replyContextRef ≠ "" → meeting.removal = .ok ⟨⟩)

/-- A result that reports no success. -/
structure Refusal (result : ChannelDeliveryResult) : Prop where
  failed : result.ok = false
  code_short : result.providerCode.length ≤ 80
  no_id : result.providerMessageId = ""

/-- No message has been posted on the way. -/
def Quiet (s s' : QqState) : Prop :=
  ∀ exchange ∈ s'.exchanges, exchange ∈ s.exchanges ∨
    exchange.kind = .token ∨ exchange.kind = .upload

/-- Nothing has been asked of QQ on the way. -/
def Unasked (s s' : QqState) : Prop := s'.exchanges = s.exchanges

section Preparing

variable {adapter meeting message}

theorem quiet_refl (s : QqState) : Quiet s s := fun _ h => .inl h

theorem quiet_trans (s s' s'' : QqState) (h : Quiet s s') (h' : Quiet s' s'') : Quiet s s'' := by
  intro exchange hexchange
  rcases h' exchange hexchange with hearlier | hkind
  · exact h exchange hearlier
  · exact .inr hkind

theorem quiet_write {f : QqState → QqState} (h : ∀ s, (f s).exchanges = s.exchanges) :
    Effect.Within Quiet (Effect.write f : Effect QqState PyError PUnit) := by
  intro s exchange hexchange
  have hsame : exchange ∈ (f s).exchanges := hexchange
  rw [h s] at hsame
  exact .inl hsame

/-- What a request leaves and returns. -/
theorem request_exec (kind : RequestKind) (answer : Except PyError ProviderAnswer) (s : QqState) :
    (request kind answer).exec s = (answer >>= ProviderAnswer.read,
      { s with exchanges := s.exchanges ++ [⟨kind, answer⟩] }) := by
  unfold request
  rw [Effect.exec_bind]
  rfl

theorem read_ok {answer : Except PyError ProviderAnswer} {read : ProviderAnswer} :
    answer >>= ProviderAnswer.read = .ok read ↔ answer = .ok read ∧ read.Fits := by
  rw [bind_eq_ok]
  constructor
  · rintro ⟨came, rfl, hread⟩
    obtain ⟨hfits, hsame⟩ := raiseIf_bind_ok.mp hread
    obtain rfl := Except.ok.inj hsame
    exact ⟨rfl, not_not.mp hfits⟩
  · rintro ⟨rfl, hfits⟩
    exact ⟨read, rfl, raiseIf_bind_ok.mpr ⟨not_not.mpr hfits, rfl⟩⟩

/-- An answer that has come and is not too long is returned. -/
theorem request_ok (kind : RequestKind) {answer : Except PyError ProviderAnswer}
    {read : ProviderAnswer} (hanswer : answer = .ok read) (hfits : read.Fits) (s : QqState) :
    (request kind answer).exec s =
      (.ok read, { s with exchanges := s.exchanges ++ [⟨kind, answer⟩] }) := by
  rw [request_exec, read_ok.mpr ⟨hanswer, hfits⟩]

theorem quiet_request {kind : RequestKind} (h : kind = .token ∨ kind = .upload)
    (answer : Except PyError ProviderAnswer) : Effect.Within Quiet (request kind answer) := by
  intro s exchange hexchange
  rw [request_exec] at hexchange
  rcases List.mem_append.mp hexchange with hearlier | hnew
  · exact .inl hearlier
  · obtain rfl := List.mem_singleton.mp hnew
    exact .inr h

theorem quiet_accessToken : Effect.Within Quiet (adapter.accessToken meeting) := by
  unfold accessToken
  refine Effect.Within.reads_bind fun fresh => ?_
  cases fresh with
  | true => exact Effect.Within.pure quiet_refl _
  | false =>
    refine Effect.Within.bind quiet_trans (quiet_request (.inl rfl) _) fun answer => ?_
    refine Effect.Within.check_bind quiet_refl fun _ => ?_
    refine Effect.Within.bind quiet_trans (quiet_write fun _ => rfl) fun _ => ?_
    refine Effect.Within.check_bind quiet_refl fun _ => ?_
    exact quiet_write fun _ => rfl

theorem quiet_upload (target : ResolvedQQTarget) :
    Effect.Within Quiet (adapter.upload meeting message target) := by
  unfold upload
  split
  · refine Effect.Within.check_bind quiet_refl fun _ => ?_
    refine Effect.Within.bind quiet_trans (quiet_request (.inr rfl) _) fun answer => ?_
    exact Effect.Within.pure quiet_refl _
  · exact Effect.Within.pure quiet_refl _

theorem quiet_removeReplyContext (channelAccount opaqueRef : String) :
    Effect.Within Quiet (QQContactStore.removeReplyContext meeting channelAccount opaqueRef) := by
  unfold QQContactStore.removeReplyContext
  exact Effect.Within.check_bind quiet_refl fun _ => quiet_write fun _ => rfl

/-- Before the message itself nothing is posted. -/
theorem quiet_prepare : Effect.Within Quiet (adapter.prepare meeting message) := by
  unfold prepare
  split
  · exact Effect.Within.pure quiet_refl _
  split
  · exact Effect.Within.pure quiet_refl _
  refine Effect.Within.query_bind quiet_refl fun target => ?_
  refine Effect.Within.query_bind quiet_refl fun replyContext => ?_
  split
  · exact Effect.Within.bind quiet_trans (quiet_removeReplyContext _ _) fun _ =>
      Effect.Within.pure quiet_refl _
  refine Effect.Within.bind quiet_trans quiet_accessToken fun _ => ?_
  split
  · exact Effect.Within.pure quiet_refl _
  refine Effect.Within.bind quiet_trans (quiet_upload target) fun refused => ?_
  cases refused with
  | some result => exact Effect.Within.pure quiet_refl _
  | none => exact Effect.Within.check_bind quiet_refl fun _ => Effect.Within.pure quiet_refl _

end Preparing

/-! ### What comes of it -/

section Outcomes

variable {adapter meeting message}

theorem toString_status (answer : ProviderAnswer) : (toString answer.status).length ≤ 3 :=
  (Nat.length_repr_le_iff (by decide)).mpr (Nat.lt_succ_of_le answer.status_range.2)

theorem refusal_failure (retryable : Bool) (answer : ProviderAnswer) :
    Refusal (failure retryable answer.status) where
  failed := rfl
  code_short := by
    have hcode : ("http_" ++ toString answer.status).length =
        "http_".length + (toString answer.status).length := String.length_append _ _
    have hprefix : "http_".length = 5 := by decide
    have hstatus := toString_status answer
    change ("http_" ++ toString answer.status).length ≤ 80
    omega
  no_id := rfl

theorem refusal_code {code : String} (h : code.length ≤ 80) :
    Refusal { ok := false, providerCode := code } := ⟨rfl, h, rfl⟩

/-- The token that is used is there, or has just been given. -/
theorem accessToken_ok {s : QqState} :
    (∃ s', (adapter.accessToken meeting).exec s = (.ok ⟨⟩, s')) ↔ adapter.HasToken meeting s := by
  unfold accessToken HasToken
  rw [Effect.exec_reads_bind]
  by_cases hfresh : s.token ≠ "" ∧ meeting.systemNow < s.tokenExpiresAt
  · have hread : (decide (s.token ≠ "") && decide (meeting.systemNow < s.tokenExpiresAt)) = true :=
      Bool.and_eq_true_iff.mpr ⟨decide_eq_true hfresh.1, decide_eq_true hfresh.2⟩
    rw [if_pos hread]
    exact ⟨fun _ => .inl hfresh, fun _ => ⟨s, rfl⟩⟩
  · have hread : ¬ (decide (s.token ≠ "") && decide (meeting.systemNow < s.tokenExpiresAt)) = true :=
      fun h => hfresh ⟨of_decide_eq_true (Bool.and_eq_true_iff.mp h).1,
        of_decide_eq_true (Bool.and_eq_true_iff.mp h).2⟩
    rw [if_neg hread, or_iff_right hfresh]
    constructor
    · rintro ⟨s', h⟩
      obtain ⟨answer, s₁, hrequest, hchecked⟩ := Effect.exec_bind_ok.mp h
      rw [request_exec] at hrequest
      obtain ⟨hanswer, hfits⟩ := read_ok.mp (Prod.mk.inj hrequest).1
      obtain ⟨_, s₂, hcheck, hwritten⟩ := Effect.exec_bind_ok.mp hchecked
      have hgood := raiseIf_eq_ok.mp (Effect.exec_check_ok.mp hcheck).1
      rw [not_or, not_not] at hgood
      obtain ⟨_, s₃, -, hlater⟩ := Effect.exec_bind_ok.mp hwritten
      obtain ⟨expiry, s₄, hexpiry, -⟩ := Effect.exec_bind_ok.mp hlater
      exact ⟨answer, hanswer, hfits, hgood.1, hgood.2, expiry, (Effect.exec_check_ok.mp hexpiry).1⟩
    · rintro ⟨answer, hanswer, hfits, hstatus, htoken, expiry, hexpiry⟩
      have hgood : raiseIf (answer.status ≠ 200 ∨ adapter.textOf answer "access_token" = "")
          PyError.external = .ok ⟨⟩ := by
        rw [raiseIf_eq_ok, not_or, not_not]
        exact ⟨hstatus, htoken⟩
      rw [Effect.exec_bind, request_ok .token hanswer hfits]
      simp only
      rw [hgood, Effect.exec_check_bind]
      simp only
      rw [Effect.exec_bind, Effect.exec_write]
      simp only
      rw [hexpiry, Effect.exec_check_bind]
      exact ⟨_, rfl⟩

/-- An upload lets the message through exactly when its picture is settled. -/
theorem upload_none {target : ResolvedQQTarget} {s : QqState} :
    (∃ s', (adapter.upload meeting message target).exec s = (.ok none, s')) ↔
      adapter.PictureSettled meeting message target := by
  unfold upload PictureSettled
  by_cases hpicture : ((hasAttachment message || hasPreview message) &&
      hasFileEndpoint target) = true
  · rw [if_pos hpicture]
    have hrendered : (if hasPreview message = true then meeting.picture else .ok ⟨⟩) = .ok ⟨⟩ ↔
        (hasPreview message = true → meeting.picture = .ok ⟨⟩) := by
      by_cases hpreview : hasPreview message = true
      · rw [if_pos hpreview]
        exact ⟨fun h _ => h, fun h => h hpreview⟩
      · rw [if_neg hpreview]
        exact ⟨fun _ h => absurd h hpreview, fun _ => rfl⟩
    constructor
    · rintro ⟨s', h⟩ -
      obtain ⟨_, s₁, hcheck, hasked⟩ := Effect.exec_bind_ok.mp h
      have hrender := (Effect.exec_check_ok.mp hcheck).1
      obtain ⟨answer, s₂, hrequest, hdone⟩ := Effect.exec_bind_ok.mp hasked
      rw [request_exec] at hrequest
      obtain ⟨hanswer, hfits⟩ := read_ok.mp (Prod.mk.inj hrequest).1
      exact ⟨hrendered.mp hrender, answer, hanswer, hfits, Except.ok.inj (Prod.mk.inj hdone).1⟩
    · intro h
      obtain ⟨hrender, answer, hanswer, hfits, hnone⟩ := h hpicture
      rw [hrendered.mpr hrender, Effect.exec_check_bind]
      simp only
      rw [Effect.exec_bind, request_ok .upload hanswer hfits]
      simp only
      rw [hnone]
      exact ⟨_, rfl⟩
  · rw [if_neg hpicture]
    exact ⟨fun _ h => absurd h hpicture, fun _ => ⟨s, rfl⟩⟩

theorem upload_some {target : ResolvedQQTarget} {s s' : QqState} {result : ChannelDeliveryResult}
    (h : (adapter.upload meeting message target).exec s = (.ok (some result), s')) :
    Refusal result := by
  unfold upload at h
  split at h
  · obtain ⟨_, s₁, -, hasked⟩ := Effect.exec_bind_ok.mp h
    obtain ⟨answer, s₂, -, hdone⟩ := Effect.exec_bind_ok.mp hasked
    have hresult := Except.ok.inj (Prod.mk.inj hdone).1
    unfold uploaded at hresult
    split at hresult
    · split at hresult
      · obtain rfl := Option.some.inj hresult
        exact refusal_failure _ _
      · split at hresult
        · obtain rfl := Option.some.inj hresult
          exact refusal_failure _ _
        · cases hresult
    · cases hresult
  · cases (Prod.mk.inj h).1

/-- What ends a sending before its message is no success. -/
theorem prepare_some {s s' : QqState} {result : ChannelDeliveryResult}
    (h : (adapter.prepare meeting message).exec s = (.ok (some result), s')) : Refusal result := by
  have hreturned : ∀ {t : QqState} {code : String}, code.length ≤ 80 →
      ((return some { ok := false, providerCode := code }) :
        Effect QqState PyError (Option ChannelDeliveryResult)).exec t = (.ok (some result), s') →
      Refusal result := by
    intro t code hshort hexec
    obtain rfl := Option.some.inj (Except.ok.inj (Prod.mk.inj hexec).1)
    exact refusal_code hshort
  unfold prepare at h
  split at h
  · exact hreturned (by decide) h
  split at h
  · exact hreturned (by decide) h
  obtain ⟨target, s₁, -, hfound⟩ := Effect.exec_bind_ok.mp h
  obtain ⟨replyContext, s₂, -, hreply⟩ := Effect.exec_bind_ok.mp hfound
  split at hreply
  · obtain ⟨_, s₃, -, hremoved⟩ := Effect.exec_bind_ok.mp hreply
    exact hreturned (by decide) hremoved
  obtain ⟨_, s₃, -, htoken⟩ := Effect.exec_bind_ok.mp hreply
  split at htoken
  · exact hreturned (by decide) htoken
  obtain ⟨refused, s₄, hupload, hrest⟩ := Effect.exec_bind_ok.mp htoken
  cases refused with
  | some refused =>
    obtain rfl := Option.some.inj (Except.ok.inj (Prod.mk.inj hrest).1)
    exact upload_some hupload
  | none =>
    obtain ⟨_, s₅, -, hnone⟩ := Effect.exec_bind_ok.mp hrest
    cases (Prod.mk.inj hnone).1

/-- **A message is posted** exactly when everything on the way is there. -/
theorem prepare_none {s : QqState} :
    (∃ s', (adapter.prepare meeting message).exec s = (.ok none, s')) ↔
      ∃ target, adapter.ReachesAt meeting message s target := by
  unfold prepare
  by_cases haccount : message.channel ≠ "qq" ∨ message.channelAccount ≠ adapter.channelAccount
  · rw [if_pos haccount]
    constructor
    · rintro ⟨s', h⟩
      cases (Prod.mk.inj h).1
    · rintro ⟨target, h⟩
      exact absurd haccount (by rw [not_or, not_not, not_not]; exact ⟨h.channel, h.account⟩)
  rw [if_neg haccount]
  by_cases hordinary : DataClassification.confidential ≤ message.classification
  · rw [if_pos hordinary]
    constructor
    · rintro ⟨s', h⟩
      cases (Prod.mk.inj h).1
    · rintro ⟨target, h⟩
      exact absurd hordinary h.ordinary
  rw [if_neg hordinary]
  rw [not_or, not_not, not_not] at haccount
  constructor
  · rintro ⟨s', h⟩
    obtain ⟨target, s₁, hquery, hfound⟩ := Effect.exec_bind_ok.mp h
    obtain ⟨hcontact, rfl⟩ := Prod.mk.inj hquery
    obtain ⟨replyContext, s₂, hquery, hreply⟩ := Effect.exec_bind_ok.mp hfound
    obtain ⟨hcontext, rfl⟩ := Prod.mk.inj hquery
    split at hreply
    · obtain ⟨_, s₃, -, hremoved⟩ := Effect.exec_bind_ok.mp hreply
      cases (Prod.mk.inj hremoved).1
    rename_i hanswered
    obtain ⟨_, s₃, htoken, hgone⟩ := Effect.exec_bind_ok.mp hreply
    split at hgone
    · cases (Prod.mk.inj hgone).1
    rename_i hkeyboard
    obtain ⟨refused, s₄, hupload, hrest⟩ := Effect.exec_bind_ok.mp hgone
    cases refused with
    | some refused => cases (Prod.mk.inj hrest).1
    | none =>
      obtain ⟨_, s₅, hendpoint, -⟩ := Effect.exec_bind_ok.mp hrest
      refine ⟨target, haccount.1, haccount.2, hordinary, hcontact,
        raiseIf_eq_ok.mp (Effect.exec_check_ok.mp hendpoint).1, ?_, accessToken_ok.mp ⟨s₃, htoken⟩,
        Nat.not_lt.mp hkeyboard, upload_none.mp ⟨s₄, hupload⟩⟩
      intro hreplies
      dsimp only at hcontext
      rw [if_neg hreplies] at hcontext
      cases replyContext with
      | none => exact absurd ⟨hreplies, rfl⟩ hanswered
      | some context => exact ⟨context, hcontext⟩
  · rintro ⟨target, h⟩
    have hcontext : ∃ replyContext, (if message.replyContextRef = "" then
        (.ok none : Except PyError (Option ResolvedQQReplyContext))
      else adapter.contacts.resolveReplyContext meeting message.channelAccount
        message.replyContextRef message.targetRef s) = .ok replyContext ∧
        ¬ (message.replyContextRef ≠ "" ∧ replyContext = none) := by
      by_cases hreplies : message.replyContextRef = ""
      · exact ⟨none, if_pos hreplies, fun hnone => hnone.1 hreplies⟩
      · obtain ⟨context, hresolved⟩ := h.reply hreplies
        exact ⟨some context, (if_neg hreplies).trans hresolved, fun hnone => by cases hnone.2⟩
    obtain ⟨replyContext, hcontext, hanswered⟩ := hcontext
    obtain ⟨s₁, htoken⟩ := accessToken_ok.mpr h.token
    obtain ⟨s₂, hupload⟩ : ∃ s₂, (adapter.upload meeting message target).exec s₁ = (.ok none, s₂) :=
      upload_none.mpr h.picture
    have hendpoint : messageEndpoint target = .ok ⟨⟩ := raiseIf_eq_ok.mpr h.receives
    rw [Effect.exec_bind, Effect.exec_query, h.contact]
    simp only
    rw [Effect.exec_bind, Effect.exec_query, hcontext]
    simp only
    rw [if_neg hanswered, Effect.exec_bind, htoken]
    simp only
    rw [if_neg (Nat.not_lt.mpr h.keyboard), Effect.exec_bind, hupload]
    simp only
    rw [hendpoint, Effect.exec_check_bind]
    exact ⟨_, rfl⟩

/-! ### Posting -/

/-- An answer that accepts a message is not followed by plain text. -/
theorem fallsBack_of_accepts {answer : ProviderAnswer} (h : adapter.Accepts answer) :
    adapter.fallsBack message answer = false := by
  obtain ⟨hsuccess, hid⟩ := h
  unfold isSuccess at hsuccess
  rw [Bool.and_eq_true, decide_eq_true_eq, decide_eq_true_eq] at hsuccess
  have h400 : ¬ answer.status = 400 := by omega
  have h403 : ¬ answer.status = 403 := by omega
  unfold fallsBack
  rw [decide_eq_false h400, decide_eq_false h403, decide_eq_false hid]
  simp

/-- The message has been posted, and the last answer is noted. -/
theorem post_noted {s : QqState} {answer : ProviderAnswer}
    (h : adapter.Posted meeting message answer) :
    ∃ s', (adapter.post meeting message).exec s =
      (.ok answer >>= ProviderAnswer.read, s') ∧
      ∃ exchange ∈ s'.exchanges, (exchange.kind = .message ∨ exchange.kind = .fallback) ∧
        exchange.answer = .ok answer := by
  unfold post
  rcases h with ⟨hmessage, hlast⟩ | ⟨first, hmessage, hfits, hfalls, hfallback⟩
  · by_cases hfits : answer.Fits
    · rw [Effect.exec_bind, request_ok .message hmessage hfits]
      simp only
      rw [if_neg (by rw [hlast hfits]; decide), read_ok.mpr ⟨rfl, hfits⟩]
      exact ⟨_, rfl, _, List.mem_append_right _ (List.mem_singleton_self _), .inl rfl, hmessage⟩
    · obtain ⟨e, hread⟩ : ∃ e, (.ok answer >>= ProviderAnswer.read) = .error e := by
        cases hread : (.ok answer >>= ProviderAnswer.read : Except PyError ProviderAnswer) with
        | error e => exact ⟨e, rfl⟩
        | ok read =>
          obtain ⟨hsame, hread⟩ := read_ok.mp hread
          obtain rfl := Except.ok.inj hsame
          exact absurd hread hfits
      rw [Effect.exec_bind, request_exec, hmessage, hread]
      exact ⟨_, rfl, _, List.mem_append_right _ (List.mem_singleton_self _), .inl rfl, rfl⟩
  · rw [Effect.exec_bind, request_ok .message hmessage hfits]
    simp only
    rw [if_pos hfalls, request_exec, hfallback]
    exact ⟨_, rfl, _, List.mem_append_right _ (List.mem_singleton_self _), .inr rfl, rfl⟩

/-- A message that is accepted in a request was posted with that answer. -/
theorem posted_of_noted {s : QqState} (hnone : ¬ adapter.AcceptedIn s.exchanges)
    (h : adapter.AcceptedIn ((adapter.post meeting message).exec s).2.exchanges) :
    ∃ answer, adapter.Posted meeting message answer ∧ adapter.Accepts answer := by
  obtain ⟨exchange, hexchange, hkind, answer, hanswer, haccepts⟩ := h
  unfold post at hexchange
  rw [Effect.exec_bind, request_exec] at hexchange
  cases hread : meeting.message >>= ProviderAnswer.read with
  | error e =>
    rw [hread] at hexchange
    rcases List.mem_append.mp hexchange with hearlier | hnew
    · exact absurd ⟨exchange, hearlier, hkind, answer, hanswer, haccepts⟩ hnone
    · obtain rfl := List.mem_singleton.mp hnew
      exact ⟨answer, .inl ⟨hanswer, fun _ => fallsBack_of_accepts haccepts⟩, haccepts⟩
  | ok first =>
    rw [hread] at hexchange
    simp only at hexchange
    obtain ⟨hfirst, hfits⟩ := read_ok.mp hread
    by_cases hfalls : adapter.fallsBack message first = true
    · rw [if_pos hfalls, request_exec] at hexchange
      rcases List.mem_append.mp hexchange with hearlier | hnew
      · rcases List.mem_append.mp hearlier with hearlier | hnew
        · exact absurd ⟨exchange, hearlier, hkind, answer, hanswer, haccepts⟩ hnone
        · obtain rfl := List.mem_singleton.mp hnew
          exact ⟨answer, .inl ⟨hanswer, fun _ => fallsBack_of_accepts haccepts⟩, haccepts⟩
      · obtain rfl := List.mem_singleton.mp hnew
        exact ⟨answer, .inr ⟨first, hfirst, hfits, hfalls, hanswer⟩, haccepts⟩
    · rw [if_neg hfalls] at hexchange
      rcases List.mem_append.mp hexchange with hearlier | hnew
      · exact absurd ⟨exchange, hearlier, hkind, answer, hanswer, haccepts⟩ hnone
      · obtain rfl := List.mem_singleton.mp hnew
        exact ⟨answer, .inl ⟨hanswer, fun _ => fallsBack_of_accepts haccepts⟩, haccepts⟩

/-- The answer that posting a message returns. -/
theorem posted_of_post {s s' : QqState} {answer : ProviderAnswer}
    (h : (adapter.post meeting message).exec s = (.ok answer, s')) :
    adapter.Posted meeting message answer := by
  unfold post at h
  obtain ⟨first, s₁, hrequest, hrest⟩ := Effect.exec_bind_ok.mp h
  rw [request_exec] at hrequest
  obtain ⟨hfirst, hfits⟩ := read_ok.mp (Prod.mk.inj hrequest).1
  by_cases hfalls : adapter.fallsBack message first = true
  · rw [if_pos hfalls, request_exec] at hrest
    exact .inr ⟨first, hfirst, hfits, hfalls, (read_ok.mp (Prod.mk.inj hrest).1).1⟩
  · rw [if_neg hfalls] at hrest
    obtain rfl := Except.ok.inj (Prod.mk.inj hrest).1
    exact .inl ⟨hfirst, fun _ => Bool.eq_false_of_not_eq_true hfalls⟩

/-! ### The result -/

/-- A message that is accepted is a success, unless its reply context cannot be removed. -/
theorem conclude_accepts {answer : ProviderAnswer} (h : adapter.Accepts answer) (s : QqState) :
    ((message.replyContextRef ≠ "" → meeting.removal = .ok ⟨⟩) → ∃ s',
      (adapter.conclude meeting message answer).exec s = (.ok {
        ok := true
        providerCode := "ok"
        providerMessageId := adapter.providerMessageId answer }, s') ∧
        s'.exchanges = s.exchanges) ∧
      (¬ (message.replyContextRef ≠ "" → meeting.removal = .ok ⟨⟩) → ∃ e,
        (adapter.conclude meeting message answer).exec s = (.error e, s)) := by
  unfold conclude forgetReply QQContactStore.removeReplyContext
  rw [if_pos h]
  by_cases hreplies : message.replyContextRef ≠ ""
  · rw [if_pos hreplies]
    constructor
    · intro hremoval
      rw [Effect.exec_bind, hremoval hreplies, Effect.exec_check_bind]
      exact ⟨_, rfl, rfl⟩
    · intro hremoval
      cases hraised : meeting.removal with
      | ok u => exact absurd (fun _ => hraised) hremoval
      | error e =>
        rw [Effect.exec_bind, Effect.exec_check_bind]
        exact ⟨e, rfl⟩
  · rw [if_neg hreplies]
    exact ⟨fun _ => ⟨s, rfl, rfl⟩, fun hremoval => absurd (fun h => absurd h hreplies) hremoval⟩

/-- A message that is not accepted is no success. -/
theorem conclude_refuses {answer : ProviderAnswer} (h : ¬ adapter.Accepts answer) {s s' : QqState}
    {result : ChannelDeliveryResult}
    (hexec : (adapter.conclude meeting message answer).exec s = (.ok result, s')) :
    Refusal result := by
  unfold conclude at hexec
  rw [if_neg h] at hexec
  split at hexec
  · obtain rfl := Except.ok.inj (Prod.mk.inj hexec).1
    exact refusal_code (by decide)
  split at hexec
  · obtain rfl := Except.ok.inj (Prod.mk.inj hexec).1
    exact refusal_failure _ _
  · obtain ⟨_, s₁, -, hdone⟩ := Effect.exec_bind_ok.mp hexec
    obtain rfl := Except.ok.inj (Prod.mk.inj hdone).1
    exact refusal_failure _ _

/-- Whatever the result, nothing is asked of QQ any more. -/
theorem unasked_conclude (answer : ProviderAnswer) :
    Effect.Within Unasked (adapter.conclude meeting message answer) := by
  have hrefl : ∀ s, Unasked s s := fun _ => rfl
  have htrans : ∀ s s' s'', Unasked s s' → Unasked s' s'' → Unasked s s'' :=
    fun _ _ _ h h' => h'.trans h
  have hforgotten : Effect.Within Unasked (forgetReply meeting message) := by
    unfold forgetReply QQContactStore.removeReplyContext
    split
    · refine Effect.Within.check_bind hrefl fun _ => ?_
      intro s
      rfl
    · exact Effect.Within.pure hrefl _
  unfold conclude
  split
  · exact Effect.Within.bind htrans hforgotten fun _ => Effect.Within.pure hrefl _
  split
  · exact Effect.Within.pure hrefl _
  split
  · exact Effect.Within.pure hrefl _
  · exact Effect.Within.bind htrans hforgotten fun _ => Effect.Within.pure hrefl _

/-- What is noted of earlier sendings does not matter. -/
theorem reaches_anew {s : QqState} {target : ResolvedQQTarget}
    (h : adapter.ReachesAt meeting message s target) :
    adapter.ReachesAt meeting message { s with exchanges := [] } target :=
  ⟨h.channel, h.account, h.ordinary, h.contact, h.receives, h.reply, h.token, h.keyboard, h.picture⟩

theorem reaches_of_anew {s : QqState} {target : ResolvedQQTarget}
    (h : adapter.ReachesAt meeting message { s with exchanges := [] } target) :
    adapter.ReachesAt meeting message s target :=
  ⟨h.channel, h.account, h.ordinary, h.contact, h.receives, h.reply, h.token, h.keyboard, h.picture⟩

/-- **A message that QQ accepts** is reported as a success if its answer is settled, and as a failure
otherwise; and it is noted that QQ has accepted it. -/
theorem attempt_delivers {s : QqState} {answer : ProviderAnswer}
    (h : adapter.Delivers meeting message s answer) :
    adapter.AcceptedIn (adapter.attempt meeting message s).2.exchanges ∧
      (Settled meeting message answer → (adapter.attempt meeting message s).1 = {
        ok := true
        providerCode := "ok"
        providerMessageId := adapter.providerMessageId answer }) ∧
      (¬ Settled meeting message answer → (adapter.attempt meeting message s).1.ok = false) := by
  obtain ⟨target, hreaches⟩ := h.reached
  obtain ⟨s₁, hprepare⟩ := prepare_none.mpr ⟨target, reaches_anew hreaches⟩
  obtain ⟨s₂, hpost, exchange, hexchange, hkind, hnoted⟩ := post_noted h.posted (s := s₁)
  have hsend : (adapter.send meeting message).exec { s with exchanges := [] } =
      (adapter.post meeting message >>= adapter.conclude meeting message).exec s₁ := by
    unfold send
    rw [Effect.exec_bind, hprepare]
  unfold attempt
  rw [hsend, Effect.exec_bind, hpost]
  cases hread : (.ok answer >>= ProviderAnswer.read : Except PyError ProviderAnswer) with
  | error e =>
    have hlong : ¬ answer.Fits := by
      intro hfits
      rw [read_ok.mpr ⟨rfl, hfits⟩] at hread
      cases hread
    exact ⟨⟨exchange, hexchange, hkind, answer, hnoted, h.accepts⟩,
      fun hsettled => absurd hsettled.1 hlong, fun _ => rfl⟩
  | ok read =>
    obtain ⟨hsame, hfits⟩ := read_ok.mp hread
    obtain rfl := Except.ok.inj hsame
    obtain ⟨hsuccess, hraises⟩ := @conclude_accepts adapter meeting message answer h.accepts s₂
    by_cases hremoval : message.replyContextRef ≠ "" → meeting.removal = .ok ⟨⟩
    · obtain ⟨s₃, hconclude, hsame⟩ := hsuccess hremoval
      simp only [hconclude]
      refine ⟨⟨exchange, ?_, hkind, answer, hnoted, h.accepts⟩, fun _ => trivial,
        fun hsettled => absurd ⟨hfits, hremoval⟩ hsettled⟩
      rw [hsame]
      exact hexchange
    · obtain ⟨e, hconclude⟩ := hraises hremoval
      simp only [hconclude]
      exact ⟨⟨exchange, hexchange, hkind, answer, hnoted, h.accepts⟩,
        fun hsettled => absurd hsettled.2 hremoval, fun _ => trivial⟩

/-- **A message that QQ does not accept** is not reported as a success. -/
theorem attempt_refuses {s : QqState}
    (h : ¬ ∃ answer, adapter.Delivers meeting message s answer) :
    Refusal (adapter.attempt meeting message s).1 ∧
      ¬ adapter.AcceptedIn (adapter.attempt meeting message s).2.exchanges := by
  have hquiet := @quiet_prepare adapter meeting message { s with exchanges := [] }
  have hnothing : ∀ {t : QqState}, Quiet { s with exchanges := [] } t →
      ¬ adapter.AcceptedIn t.exchanges := by
    rintro t hquiet ⟨exchange, hexchange, hkind, -⟩
    rcases hquiet exchange hexchange with hearlier | htoken | hupload
    · cases hearlier
    · rw [htoken] at hkind
      exact absurd hkind (by decide)
    · rw [hupload] at hkind
      exact absurd hkind (by decide)
  have hexception : Refusal { ok := false, retryable := true, providerCode := "adapter_exception" } :=
    ⟨rfl, by decide, rfl⟩
  unfold attempt send
  rw [Effect.exec_bind]
  rcases hprepare : (adapter.prepare meeting message).exec { s with exchanges := [] } with ⟨r, s₁⟩
  rw [hprepare] at hquiet
  cases r with
  | error e => exact ⟨hexception, hnothing hquiet⟩
  | ok refused =>
    cases refused with
    | some result => exact ⟨prepare_some hprepare, hnothing hquiet⟩
    | none =>
      obtain ⟨target, hreaches⟩ := prepare_none.mp ⟨s₁, hprepare⟩
      have hreached : ∃ target, adapter.ReachesAt meeting message s target :=
        ⟨target, reaches_of_anew hreaches⟩
      have hposted : ¬ adapter.AcceptedIn ((adapter.post meeting message).exec s₁).2.exchanges := by
        intro haccepted
        obtain ⟨answer, hposted, haccepts⟩ := posted_of_noted (hnothing hquiet) haccepted
        exact h ⟨answer, hreached, hposted, haccepts⟩
      simp only
      rw [Effect.exec_bind]
      rcases hpost : (adapter.post meeting message).exec s₁ with ⟨answer, s₂⟩
      rw [hpost] at hposted
      cases answer with
      | error e => exact ⟨hexception, hposted⟩
      | ok answer =>
        have hrefused : ¬ adapter.Accepts answer := fun haccepts =>
          h ⟨answer, hreached, posted_of_post hpost, haccepts⟩
        have hunasked := @unasked_conclude adapter meeting message answer s₂
        simp only
        rcases hconclude : (adapter.conclude meeting message answer).exec s₂ with ⟨result, s₃⟩
        rw [hconclude] at hunasked
        have hsame : s₃.exchanges = s₂.exchanges := hunasked
        cases result with
        | error e => exact ⟨hexception, hsame ▸ hposted⟩
        | ok result => exact ⟨conclude_refuses hrefused hconclude, hsame ▸ hposted⟩

end Outcomes

end QQHttpAdapter

end Zhixu
