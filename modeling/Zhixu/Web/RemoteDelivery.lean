import Zhixu.Delivery.MessageWire
import Zhixu.Delivery.OutboxCustody
import Zhixu.Delivery.Worker

/-!
# Deliveries over the internal channel API

The channel processes have no access to the database: they claim a delivery over HTTP, send it and
report the result. `InternalChannelAPI._claim` is `DeliveryWorker.tick` up to the point where the
message is rendered; what it has rendered goes into the answer as JSON, and an exception of the
rendering becomes an error answer like any other. The clients read at most a mebibyte of an answer.

A message survives the wire (`SurvivesWire`) when both kinds of channel process read the message
that was rendered, `outbound` without its reply context. `survivesWire_iff` says when: the readers
take an empty attachment address for none, and a longer answer is not read at all.

The theorem is about a delivery from the moment it is enqueued: whatever the outbox does in between,
its row keeps the message (`KeepsMessages`).
-/

open Framework

namespace Zhixu

/-! ### The claim endpoint -/

structure ClaimPayload where
  channel : String
  channelAccount : String
  workerId : String
  channel_length : 1 ≤ channel.length ∧ channel.length ≤ 40
  channelAccount_length : 1 ≤ channelAccount.length ∧ channelAccount.length ≤ 160
  workerId_length : 1 ≤ workerId.length ∧ workerId.length ≤ 160
deriving Repr

/-- The internal channel API, as far as deliveries go. -/
structure DeliveryAPI where
  outbox : OutboxStore
  quota : QuotaManager
  zones : TimeZones
  capabilities : String → Option ChannelCapabilities

/-- A delivery that is handed out, and its message as the channel shows it. -/
structure HandedOut where
  claimed : ClaimedDelivery
  rendered : OutboundMessage
deriving DecidableEq, Repr

/-- `_claim`. -/
def DeliveryAPI.claim (api : DeliveryAPI) (payload : ClaimPayload) (now : Instant)
    (token : String) : Effect Database PyError (Option HandedOut) :=
  match api.capabilities payload.channel with
  | none => throw (.validation "channel capability contract is unavailable")
  | some capabilities => do
    let claimed ← OutboxStore.claim payload.workerId now defaultLease
      (some [(payload.channel, payload.channelAccount)]) token
    match claimed with
    | none => return none
    | some claimed =>
      let scopes ← Effect.check (deliveryScopes claimed)
      let decision ← api.quota.reserve api.zones scopes now
      if decision.allowed = false then
        Effect.atomically (OutboxStore.deferForQuota claimed decision.nextAvailableAt now
          decision.reasonCode)
        return none
      else
        let rendered ← Effect.check (renderForCapabilities claimed.message capabilities)
        return some { claimed, rendered }

/-- The body of the answer to a claim. -/
def claimBody : Option HandedOut → Json
  | none => .obj [("delivery", .null)]
  | some handed => .obj [("delivery",
      .obj (deliveryMembers handed.claimed.id handed.claimed.leaseToken handed.rendered))]

structure AdminResponse where
  status : ℕ
  body : Json

/-- `_error`. -/
def errorResponse (status : ℕ) (code message : String) : AdminResponse where
  status
  body := .obj [("error", .obj [("code", .str code), ("message", .str message)])]

/-- What `dispatch` answers for an exception. -/
def exceptionResponse (err : PyError) : AdminResponse :=
  if err.isPermissionDenied = true then
    errorResponse 403 "permission_denied" "internal channel request denied"
  else if err.isValidation = true ∨ err = .value then
    errorResponse 422 "validation_error" "internal channel request is invalid"
  else if err.isConflict = true then
    errorResponse 409 "conflict" "delivery lease is no longer valid"
  else errorResponse 500 "internal_error" "internal server error"

/-- The answer of `dispatch`. -/
def claimResponse : Except PyError (Option HandedOut) → AdminResponse
  | .ok handed => { status := 200, body := claimBody handed }
  | .error err => exceptionResponse err

/-! ### The client -/

/-- The most the clients read of an answer, in bytes. -/
def responseLimit : ℕ := 1024 * 1024

/-- The length of an answer in UTF-8. -/
def AdminResponse.size (response : AdminResponse) : ℕ :=
  (String.ofList (Json.dumps response.body)).utf8ByteSize

/-- `_post`: the members of the answer. -/
def received (response : AdminResponse) : Except PyError (List (String × Json)) := do
  raiseIf (300 ≤ response.status) .external
  raiseIf (responseLimit < response.size) .external
  let value ← jsonLoads (Json.dumps response.body)
  requireObject value

/-- `claim` of a client, and the message of what it returns. -/
def fetched (read : List (String × Json) → Except PyError OutboundMessage)
    (response : AdminResponse) : Except PyError (Option OutboundMessage) := do
  let members ← received response
  previewFrom read (Json.get? members "delivery")

/-- The message without its reply context. -/
def OutboundMessage.withoutReply (message : OutboundMessage) : OutboundMessage :=
  { message with replyContextRef := "", replyContext_short := noReplyContext_short }

/-- **What is owed to a message that is handed out**: both kinds of channel process read it. -/
structure SurvivesWire (coercions : Coercions) (handed : HandedOut) : Prop where
  channelQq : fetched (channelQqMessage coercions) (claimResponse (.ok (some handed))) =
    .ok (some handed.rendered)
  outbound : fetched (outboundMessage coercions) (claimResponse (.ok (some handed))) =
    .ok (some handed.rendered.withoutReply)

theorem exact_claimBody (handed : Option HandedOut) : Json.Exact (claimBody handed) := by
  cases handed with
  | none =>
    refine .obj fun member hmember => ?_
    obtain rfl := List.mem_singleton.mp hmember
    exact .null
  | some handed =>
    refine .obj fun member hmember => ?_
    obtain rfl := List.mem_singleton.mp hmember
    exact exact_deliveryMembers _ _ _

/-- A delivery that is handed out is read, when its answer is not too long. -/
theorem fetched_handedOut (read : List (String × Json) → Except PyError OutboundMessage)
    (handed : HandedOut) {message : OutboundMessage} :
    fetched read (claimResponse (.ok (some handed))) = .ok (some message) ↔
      (claimResponse (.ok (some handed))).size ≤ responseLimit ∧
        read (deliveryMembers handed.claimed.id handed.claimed.leaseToken handed.rendered) =
          .ok message := by
  have hloads : jsonLoads (Json.dumps (claimResponse (.ok (some handed))).body) =
      .ok (claimBody (some handed)) := jsonLoads_dumps (exact_claimBody (some handed))
  unfold fetched received
  by_cases hsize : responseLimit < (claimResponse (.ok (some handed))).size
  · have hraise : raiseIf (responseLimit < (claimResponse (.ok (some handed))).size)
        PyError.external = .error .external := if_pos hsize
    rw [hraise]
    constructor
    · intro h
      cases h
    · intro h
      exact absurd h.1 (Nat.not_le.mpr hsize)
  · have hpass : raiseIf (responseLimit < (claimResponse (.ok (some handed))).size)
        PyError.external = .ok ⟨⟩ := if_neg hsize
    rw [hpass, hloads]
    show (some (deliveryMembers handed.claimed.id handed.claimed.leaseToken
      handed.rendered)).mapM read = _ ↔ _
    rw [Option.mapM_some]
    constructor
    · intro h
      refine ⟨Nat.not_lt.mp hsize, ?_⟩
      cases hread : read (deliveryMembers handed.claimed.id handed.claimed.leaseToken
          handed.rendered) with
      | error err => rw [hread] at h; cases h
      | ok found =>
        rw [hread] at h
        rw [Option.some.inj (Except.ok.inj h)]
    · rintro ⟨-, hread⟩
      rw [hread]
      rfl

/-- **What survives.** -/
theorem survivesWire_handedOut (coercions : Coercions) (handed : HandedOut) :
    SurvivesWire coercions handed ↔ handed.rendered.attachmentUrl ≠ some "" ∧
      (claimResponse (.ok (some handed))).size ≤ responseLimit := by
  have hkept : handed.rendered.attachmentUrl ≠ some "" →
      attachmentReceived handed.rendered.attachmentUrl = handed.rendered.attachmentUrl := by
    intro hempty
    cases haddress : handed.rendered.attachmentUrl with
    | none => rfl
    | some address =>
      have hne : address ≠ "" := by
        rintro rfl
        exact hempty haddress
      exact if_neg hne
  constructor
  · intro h
    obtain ⟨hsize, hread⟩ := (fetched_handedOut _ handed).mp h.channelQq
    refine ⟨fun hempty => ?_, hsize⟩
    -- the attachment that was read is none, and the one that was rendered is not
    rw [channelQqMessage_members] at hread
    have hattachment := (OutboundMessage.checked_ok hread).1
    rw [hempty] at hattachment
    cases hattachment
  · rintro ⟨hempty, hsize⟩
    refine ⟨(fetched_handedOut _ handed).mpr ⟨hsize, ?_⟩,
      (fetched_handedOut _ handed).mpr ⟨hsize, ?_⟩⟩
    · rw [channelQqMessage_members, hkept hempty]
      exact OutboundMessage.checked_fields handed.rendered
    · rw [outboundMessage_members, hkept hempty]
      exact OutboundMessage.checked_fields handed.rendered.withoutReply

/-! ### From the queue to the claim -/

/-- Every delivery stays, with its message. -/
def KeepsMessages (db db' : Database) : Prop :=
  ∀ id row, db.outboxDeliveries.find? id = some row →
    ∃ row', db'.outboxDeliveries.find? id = some row' ∧ messageFromRow row' = messageFromRow row

namespace KeepsMessages

theorem refl (db : Database) : KeepsMessages db db := fun _ row hrow => ⟨row, hrow, rfl⟩

theorem trans {db db' db'' : Database} (h : KeepsMessages db db') (h' : KeepsMessages db' db'') :
    KeepsMessages db db'' := by
  intro id row hrow
  obtain ⟨row', hrow', hmessage'⟩ := h id row hrow
  obtain ⟨row'', hrow'', hmessage''⟩ := h' id row' hrow'
  exact ⟨row'', hrow'', hmessage''.trans hmessage'⟩

/-- An update that leaves every message alone. -/
theorem of_updateWhere {db db' : Database} {p : OutboxDelivery → Bool}
    (f : OutboxDelivery → OutboxDelivery) (hf : ∀ r, (f r).id = r.id)
    (h : db'.outboxDeliveries = db.outboxDeliveries.updateWhere p f hf)
    (hmessage : ∀ r, messageFromRow (f r) = messageFromRow r) : KeepsMessages db db' := by
  intro id row hrow
  rw [h, Table.find?_updateWhere, hrow]
  refine ⟨_, rfl, ?_⟩
  beta_reduce
  by_cases hp : p row = true
  · rw [if_pos hp]
    exact hmessage row
  · rw [if_neg hp]

end KeepsMessages

namespace OutboxStore

theorem keeps_claimRow {workerId : String} {now leaseExpires : Instant}
    {accounts : Option (List (String × String))} {token : String} {db db' : Database}
    {found : Option OutboxDelivery}
    (h : claimRow workerId now leaseExpires accounts token db = .ok (found, db')) :
    KeepsMessages db db' := by
  unfold claimRow at h
  split at h
  · obtain ⟨-, rfl⟩ := Prod.mk.inj (Except.ok.inj h)
    exact .refl db
  · simp only at h
    split at h
    · obtain ⟨-, rfl⟩ := Prod.mk.inj (Except.ok.inj h)
      exact .refl db
    · obtain ⟨-, rfl⟩ := Prod.mk.inj (Except.ok.inj h)
      exact .of_updateWhere (leased workerId token now leaseExpires) (fun _ => rfl) rfl
        (messageFromRow_leased workerId token now leaseExpires)

theorem keeps_claim (workerId : String) (now : Instant) (leaseFor : Duration)
    (accounts : Option (List (String × String))) (token : String) :
    Effect.Within KeepsMessages (claim workerId now leaseFor accounts token) := by
  unfold claim
  refine Effect.Within.check_bind .refl fun _ => ?_
  refine Effect.Within.check_bind .refl fun leaseExpires => ?_
  split
  · exact Effect.Within.pure .refl none
  · refine Effect.Within.bind (fun _ _ _ => .trans)
      (Effect.Within.atomically .refl fun _ _ _ => keeps_claimRow) fun claimed => ?_
    cases claimed with
    | none => exact Effect.Within.pure .refl none
    | some refreshed =>
      exact Effect.Within.check_bind .refl fun message => Effect.Within.pure .refl _

theorem keeps_complete (store : OutboxStore) (claimed : ClaimedDelivery)
    (result : ChannelDeliveryResult) (now : Instant) :
    Effect.Within KeepsMessages (Effect.atomically (store.complete claimed result now)) := by
  refine Effect.Within.atomically .refl fun db status db' h => ?_
  obtain ⟨r, -, ⟨-, rfl⟩ | ⟨-, -, nextAttemptAt, rfl⟩ | ⟨-, rfl⟩⟩ := complete_ok h
  · exact .of_updateWhere (markedSent result now) (fun _ => rfl) rfl fun _ => rfl
  · exact .of_updateWhere (retryWaiting nextAttemptAt result now) (fun _ => rfl) rfl fun _ => rfl
  · exact .of_updateWhere (markedDead result now) (fun _ => rfl) rfl fun _ => rfl

/-- **No operation of the outbox touches a message.** -/
theorem keeps_perform (store : OutboxStore) (call : OutboxCall) :
    Effect.Within KeepsMessages (store.perform call) := by
  cases call with
  | enqueue request =>
    refine Effect.Within.map (Effect.Within.atomically .refl fun db accepted db' h => ?_) _
    rcases enqueue_cases h with ⟨-, rfl⟩ | ⟨-, -, hfresh, -, -, hrows⟩
    · exact .refl _
    · intro id row hrow
      have hne : id ≠ request.deliveryId := by
        rintro rfl
        rw [hfresh] at hrow
        cases hrow
      rw [hrows, if_neg hne]
      exact ⟨row, hrow, rfl⟩
  | claim workerId now leaseFor accounts token =>
    exact Effect.Within.map (keeps_claim workerId now leaseFor accounts token) _
  | deferForQuota claimed nextAttemptAt now reasonCode =>
    refine Effect.Within.map (Effect.Within.atomically .refl fun db _ db' h => ?_) _
    obtain ⟨r, -, rfl⟩ := deferForQuota_ok h
    exact .of_updateWhere (quotaWaiting nextAttemptAt now reasonCode) (fun _ => rfl) rfl fun _ => rfl
  | complete claimed result now =>
    exact Effect.Within.map (keeps_complete store claimed result now) _
  | leaseRow deliveryId leaseToken =>
    refine Effect.Within.map (fun db => ?_) _
    rw [Effect.exec_query]
    exact .refl db
  | completeLease deliveryId leaseToken result now =>
    exact Effect.Within.map (Effect.Within.query_bind .refl fun claimed =>
      keeps_complete store claimed result now) _
  | retryDead deadId actorUserId now =>
    refine Effect.Within.map (Effect.Within.atomically .refl fun db found db' h => ?_) _
    rcases retryDead_cases h with ⟨-, rfl⟩ | ⟨-, letter, -, hdeliveries, -⟩
    · exact .refl _
    · exact .of_updateWhere (restarted now) (fun _ => rfl) hdeliveries fun _ => rfl

theorem keepsMessages_of_reaches {store : OutboxStore}
    {guard : Stage Database OutboxCall Answer → OutboxCall → Prop}
    {g g' : Stage Database OutboxCall Answer} (h : store.machine.Reaches guard g g') :
    KeepsMessages g.state g'.state :=
  Machine.Reaches.stable (I := fun g' => KeepsMessages g.state g'.state) (.refl g.state) h
    fun g' call _ hkeeps => hkeeps.trans (store.keeps_perform call g'.state)

end OutboxStore

/-- What a claim hands out is a delivery of the outbox, with the message of its row. -/
theorem OutboxStore.claim_ok {workerId : String} {now : Instant} {leaseFor : Duration}
    {accounts : Option (List (String × String))} {token : String} {db db' : Database}
    {claimed : ClaimedDelivery}
    (h : (claim workerId now leaseFor accounts token).exec db = (.ok (some claimed), db')) :
    ∃ row, db.outboxDeliveries.find? claimed.id = some row ∧
      messageFromRow row = .ok claimed.message := by
  by_cases hvalid : ClaimValid workerId now leaseFor
  · obtain ⟨hidle, hclaimed⟩ := exec_claim_valid hvalid accounts token db
    cases hnext : nextDue db now accounts with
    | none =>
      rw [hidle hnext] at h
      cases h
    | some row =>
      obtain ⟨db₁, hexec, -⟩ := hclaimed row hnext
      rw [hexec] at h
      cases hmessage : messageFromRow row with
      | error e =>
        rw [hmessage] at h
        cases h
      | ok message =>
        rw [hmessage] at h
        obtain rfl := Option.some.inj (Except.ok.inj (Prod.mk.inj h).1)
        exact ⟨row, (nextDue_spec hnext).1, hmessage⟩
  · obtain ⟨e, hexec⟩ := exec_claim_refused hvalid accounts token db
    rw [hexec] at h
    cases h

/-- **What the endpoint hands out**: a delivery of the outbox, whose message it has rendered. -/
theorem DeliveryAPI.claim_ok {api : DeliveryAPI} {payload : ClaimPayload} {now : Instant}
    {token : String} {db db' : Database} {handed : HandedOut}
    (h : (api.claim payload now token).exec db = (.ok (some handed), db')) :
    ∃ capabilities row, api.capabilities payload.channel = some capabilities ∧
      db.outboxDeliveries.find? handed.claimed.id = some row ∧
      messageFromRow row = .ok handed.claimed.message ∧
      renderForCapabilities handed.claimed.message capabilities = .ok handed.rendered := by
  unfold DeliveryAPI.claim at h
  cases hcapabilities : api.capabilities payload.channel with
  | none =>
    rw [hcapabilities] at h
    cases h
  | some capabilities =>
    rw [hcapabilities] at h
    simp only at h
    rw [Effect.exec_bind] at h
    cases hclaim : (OutboxStore.claim payload.workerId now defaultLease
        (some [(payload.channel, payload.channelAccount)]) token).exec db with
    | mk answer db₁ =>
      rw [hclaim] at h
      cases answer with
      | error e => cases h
      | ok claimed =>
        cases claimed with
        | none => cases h
        | some claimed =>
          obtain ⟨row, hrow, hmessage⟩ := OutboxStore.claim_ok hclaim
          simp only at h
          rw [Effect.exec_check_bind] at h
          cases hscopes : deliveryScopes claimed with
          | error e =>
            rw [hscopes] at h
            cases h
          | ok scopes =>
            rw [hscopes] at h
            simp only at h
            rw [Effect.exec_bind] at h
            cases hreserve : (api.quota.reserve api.zones scopes now).exec db₁ with
            | mk reserved db₂ =>
              rw [hreserve] at h
              cases reserved with
              | error e => cases h
              | ok decision =>
                simp only at h
                by_cases hallowed : decision.allowed = false
                · -- a deferred delivery is not handed out
                  rw [if_pos hallowed, Effect.exec_bind] at h
                  cases hdefer : (Effect.atomically (OutboxStore.deferForQuota claimed
                      decision.nextAvailableAt now decision.reasonCode)).exec db₂ with
                  | mk deferred db₃ =>
                    rw [hdefer] at h
                    cases deferred with
                    | error e => cases h
                    | ok _ => cases h
                · rw [if_neg hallowed, Effect.exec_check_bind] at h
                  cases hrender : renderForCapabilities claimed.message capabilities with
                  | error e =>
                    rw [hrender] at h
                    cases h
                  | ok rendered =>
                    rw [hrender] at h
                    obtain rfl := Option.some.inj (Except.ok.inj (Prod.mk.inj h).1)
                    exact ⟨capabilities, row, rfl, hrow, hmessage, hrender⟩

/-- **When a message survives the whole wire.** It is enqueued in any store, the outbox runs on in any
way, and the endpoint hands the delivery out: what it hands out is the message as the channel's
capabilities render it, and both kinds of channel process read it exactly when the message has no
empty attachment address and the answer fits the limit of the clients. -/
theorem survivesWire_iff (coercions : Coercions) (store : OutboxStore)
    {g g' : Stage Database OutboxStore.OutboxCall OutboxStore.Answer} {request : EnqueueRequest}
    {queued : Database}
    (henqueue : (OutboxStore.enqueue request).run g.state = .ok (true, queued))
    {guard : Stage Database OutboxStore.OutboxCall OutboxStore.Answer →
      OutboxStore.OutboxCall → Prop}
    (hrun : store.machine.Reaches guard (store.machine.advance g (.enqueue request)) g')
    {api : DeliveryAPI} {payload : ClaimPayload} {now : Instant} {token : String} {db : Database}
    {handed : HandedOut}
    (hclaim : (api.claim payload now token).exec g'.state = (.ok (some handed), db))
    (hid : handed.claimed.id = request.deliveryId) :
    (∃ capabilities, api.capabilities payload.channel = some capabilities ∧
      renderForCapabilities request.message capabilities = .ok handed.rendered) ∧
    (SurvivesWire coercions handed ↔
      request.message.attachmentUrl ≠ some "" ∧
        (claimResponse (.ok (some handed))).size ≤ responseLimit) := by
  obtain ⟨capabilities, row, hcapabilities, hrow, hmessage, hrender⟩ :=
    DeliveryAPI.claim_ok hclaim
  -- the row that is handed out still has the message that was enqueued
  have hqueued : (store.machine.advance g (.enqueue request)).state = queued := by
    rw [Machine.advance_state]
    show ((OutboxStore.OutboxReply.enqueued <$>
      Effect.atomically (OutboxStore.enqueue request)).exec g.state).2 = queued
    rw [Effect.exec_map, Effect.exec_atomically, henqueue]
  have hfound : queued.outboxDeliveries.find? request.deliveryId = some request.row := by
    rcases OutboxStore.enqueue_cases henqueue with ⟨hfalse, -⟩ | ⟨-, -, -, -, -, hrows⟩
    · cases hfalse
    · rw [hrows, if_pos rfl]
  obtain ⟨row', hrow', hsame⟩ := OutboxStore.keepsMessages_of_reaches hrun request.deliveryId
    request.row (by rw [hqueued]; exact hfound)
  rw [hid, hrow'] at hrow
  obtain rfl := Option.some.inj hrow
  rw [hsame, OutboxStore.messageFromRow_row] at hmessage
  rw [← Except.ok.inj hmessage] at hrender
  refine ⟨⟨capabilities, hcapabilities, hrender⟩, ?_⟩
  rw [survivesWire_handedOut, ne_eq, attachmentUrl_of_render hrender]

/-! Two messages on their way to a channel that shows everything: one without an attachment, and one
with nothing but an empty address. -/

/-- The conversions of the interpreter, none of which is used. -/
def plainCoercions : Coercions where
  repr _ := ""
  int _ := .error .value
  nonzero _ := true

/-- The API for one channel. -/
def showsAll : DeliveryAPI where
  outbox := .standard
  quota := {
    rules := [{ scopeKind := .provider, window := .second, limit := 20, limit_positive := by decide }]
    rules_nonempty := by decide }
  zones := {
    lookup := fun key => if key = "UTC" then .found else .missing
    utcoffset := fun _ _ _ => 0
    fromutc := fun _ t => (t, false) }
  capabilities := fun channel =>
    if channel = "qq" then
      some { outboundText := true, markdown := true, buttons := true, attachments := true }
    else none

/-- A claim for the account. -/
def claimsBot : ClaimPayload where
  channel := "qq"
  channelAccount := "bot"
  workerId := "qq:bot"
  channel_length := by decide
  channelAccount_length := by decide
  workerId_length := by decide

/-- A message with its text and its attachment. -/
def toAlice (text : String) (attachmentUrl : Option String)
    (content : HasContent text attachmentUrl none none) : OutboundMessage where
  channel := "qq"
  channelAccount := "bot"
  targetRef := "qq:alice"
  kind := .text
  text
  attachmentUrl
  account_nonblank := by decide
  target_nonblank := by decide
  content
  replyContext_short := noReplyContext_short
  ordinary := personal_ordinary

/-- Its enqueuing. -/
def enqueueToAlice (message : OutboundMessage) : EnqueueRequest where
  deliveryId := "d1"
  idempotencyKey := "k1"
  ownerUserId := "alice"
  message
  now := 0

/-- The store of one user. -/
def onlyAlice : Database := { users := .single ⟨"alice", "Alice", true⟩ }

theorem survivesWire_greeting :
    ∃ handed db, (showsAll.claim claimsBot 0 "t1").exec
        (showsAll.outbox.machine.advance (Machine.start onlyAlice)
          (.enqueue (enqueueToAlice (toAlice "Hello" none (by decide))))).state =
          (.ok (some handed), db) ∧
      SurvivesWire plainCoercions handed := by
  obtain ⟨handed, db, hclaim, hid, hsize⟩ : ∃ handed db, (showsAll.claim claimsBot 0 "t1").exec
      (showsAll.outbox.machine.advance (Machine.start onlyAlice)
        (.enqueue (enqueueToAlice (toAlice "Hello" none (by decide))))).state =
        (.ok (some handed), db) ∧
      handed.claimed.id = "d1" ∧
      (claimResponse (.ok (some handed))).size ≤ responseLimit :=
    ⟨_, _, rfl, rfl, by decide +kernel⟩
  have hrun : ∀ g : Stage Database OutboxStore.OutboxCall OutboxStore.Answer,
      showsAll.outbox.machine.Reaches (fun _ _ => True) g g := fun _ => .refl
  exact ⟨handed, db, hclaim,
    (survivesWire_iff plainCoercions showsAll.outbox rfl (hrun _) hclaim hid).2.mpr
      ⟨by decide, hsize⟩⟩

/-- **A message that is lost on the wire**: it is enqueued and handed out, and nobody can read it. -/
theorem emptyAddress_lost :
    ∃ handed db, (showsAll.claim claimsBot 0 "t1").exec
        (showsAll.outbox.machine.advance (Machine.start onlyAlice)
          (.enqueue (enqueueToAlice (toAlice "" (some "") (by decide))))).state =
          (.ok (some handed), db) ∧
      (∀ message, fetched (channelQqMessage plainCoercions) (claimResponse (.ok (some handed))) ≠
        .ok (some message)) ∧
      ¬ SurvivesWire plainCoercions handed := by
  obtain ⟨handed, db, hclaim, hrendered⟩ : ∃ handed db, (showsAll.claim claimsBot 0 "t1").exec
      (showsAll.outbox.machine.advance (Machine.start onlyAlice)
        (.enqueue (enqueueToAlice (toAlice "" (some "") (by decide))))).state =
        (.ok (some handed), db) ∧
      handed.rendered = toAlice "" (some "") (by decide) := ⟨_, _, rfl, rfl⟩
  have hlost : ∀ message, fetched (channelQqMessage plainCoercions)
      (claimResponse (.ok (some handed))) ≠ .ok (some message) := by
    intro message h
    obtain ⟨-, hread⟩ := (fetched_handedOut _ handed).mp h
    -- the reader takes the empty address for none, and nothing is left to show
    rw [channelQqMessage_members, hrendered] at hread
    have hrefused : OutboundMessage.checked "qq" "bot" "qq:alice" .text "" [] none "" .personal
        none none = .error (.validation "outbound message content is required") := by decide
    have hmessage : OutboundMessage.checked "qq" "bot" "qq:alice" .text "" [] none "" .personal
        none none = .ok message := hread
    rw [hrefused] at hmessage
    cases hmessage
  exact ⟨handed, db, hclaim, hlost, fun h => hlost _ h.channelQq⟩

end Zhixu
