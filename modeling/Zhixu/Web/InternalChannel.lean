import Zhixu.Channels.Receipts
import Zhixu.Delivery.Outbox
import Zhixu.Framework.Mortal
import Zhixu.Storage.ChannelRoutes

/-!
# The internal channel API: inbound events

`InternalChannelAPI._event`. A channel process hands over one event. The API notes where
it came from (`observe`), decides whether it is admitted and for whom (`admitEvent`), reserves
its receipt, and only then lets the assistant answer and enqueues the reply (`respond`).

Admission is not a pure decision. It issues and consumes one-time codes, provisions group
members and binds identities, each in a transaction of its own, and all of that stands
before the receipt is reserved. `admitEvent` is split along its branches: a group event goes
through `admitGroup`, `admitRoute`, `admitInternal`, `admitMember` and `admitted`, a
private one through `admitDirect` or `unboundPrivate`.

What a delivery of an event reads besides its payload and the database is in its
`Delivery`: the clock, and the random values it draws. The assistant is a parameter:
any code that answers, raises or dies, and that leaves the receipts to `InboundReceiptStore`,
the only component that writes them. Everything from the reserved receipt on is
`Mortal`, so that the process can be killed between any two operations.
-/

open Framework

namespace Zhixu

/-! ### Payloads and decisions -/

/-- `InboundPayload`, with the bounds of its fields. -/
structure InboundPayload where
  eventId : String
  channel : String
  channelAccount : String
  actorRef : String
  conversationRef : String
  conversationKind : ConversationKind
  messageKind : MessageKind
  text : String
  receivedAt : Instant
  mentioned : Bool := false
  replyContextRef : String := ""
  eventId_length : 1 ≤ eventId.length ∧ eventId.length ≤ 512
  channel_length : 1 ≤ channel.length ∧ channel.length ≤ 40
  channelAccount_length : 1 ≤ channelAccount.length ∧ channelAccount.length ≤ 160
  actorRef_length : 1 ≤ actorRef.length ∧ actorRef.length ≤ 160
  conversationRef_length : 1 ≤ conversationRef.length ∧ conversationRef.length ≤ 160
  text_length : 1 ≤ text.length ∧ text.length ≤ 20000
  replyContextRef_length : replyContextRef.length ≤ 160
deriving Repr

/-- `InboundEvent(…)` of a payload, with the checks of its `__post_init__`. -/
def InboundPayload.event (payload : InboundPayload) : Except PyError InboundEvent :=
  if refs_nonblank : isBlank payload.eventId = false ∧ isBlank payload.channel = false ∧
      isBlank payload.channelAccount = false ∧ isBlank payload.actorRef = false ∧
      isBlank payload.conversationRef = false then
    if text_nonblank : payload.messageKind = .text →
        isBlank ((some payload.text).getD "") = false then
      .ok {
        eventId := payload.eventId
        channel := payload.channel
        channelAccount := payload.channelAccount
        externalActorRef := payload.actorRef
        externalConversationRef := payload.conversationRef
        conversationKind := payload.conversationKind
        messageKind := payload.messageKind
        receivedAt := payload.receivedAt
        text := some payload.text
        mentioned := payload.mentioned
        replyContextRef := payload.replyContextRef
        refs_nonblank, text_nonblank }
    else .error (.validation "text events require non-empty text")
  else .error (.validation "inbound event references must not be empty")

structure AssistantReply where
  text : String
  code : String
  source : String
  buttons : List MessageButton := []
  richText : Bool := false
  calendarPreview : Option CalendarPreview := none
deriving DecidableEq, Repr

structure ChannelAdmissionDecision where
  accepted : Bool
  userId : Option String
  reasonCode : String
  roles : List String := []
  sharedOwnerUserId : Option String := none
  readableSharedOwnerUserIds : List String := []
  reply : Option AssistantReply := none
deriving DecidableEq, Repr

/-- The answer to an event. -/
structure EventResponse where
  status : ℕ
  accepted : Bool
  reasonCode : String
deriving DecidableEq, Repr

/-- The actions a guest of a public group may ask for, and the rest. -/
inductive RoutedIntent
  | help
  | answer
  | other
deriving DecidableEq, Repr

/-! ### The API -/

/-- The assistant, as the API uses it: the rules that recognise an intent, whether it
keeps pending plans, and how it handles a text for a context and a target. -/
structure AssistantEngine where
  route : String → Except PyError (Option RoutedIntent)
  pendingPlans : Bool
  handle : String → CommandContext → String → Mortal Database PyError AssistantReply
  /-- the receipts are not the assistant's to write -/
  handle_receipts : ∀ text context target life,
    ((handle text context target).exec life).2.store.inboundEventReceipts =
      life.store.inboundEventReceipts

structure InternalChannelAPI where
  references : OpaqueReferenceFactory
  fieldCipher : Option FieldCipher
  assistant : AssistantEngine
  outbox : OutboxStore

/-- One delivery of an event: its payload, the clock, and what is drawn on the way. -/
structure Delivery where
  payload : InboundPayload
  now : Instant
  /-- `secrets.randbelow(100_000_000)` -/
  code : Fin 100000000
  /-- the nonce of an encryption -/
  nonce : String
  /-- the `uuid4` of a new shared workspace -/
  uuid : String

/-- `f"{code:08d}"`. -/
def Delivery.codeText (delivery : Delivery) : String :=
  let digits := toString delivery.code.val
  String.ofList (List.replicate (8 - digits.length) '0') ++ digits

/-- `re.fullmatch(command + r"\s+(\d{8})", text.strip())`: the eight digits. -/
def codeAfter (command text : String) : Option String :=
  let stripped := (strip text).toList
  if command.toList.isPrefixOf stripped then
    let rest := stripped.drop command.toList.length
    let digits := rest.dropWhile isSpace
    if digits.length < rest.length ∧ digits.length = 8 ∧
        digits.all (fun c => (decimalValue c).isSome) then
      some (String.ofList digits)
    else none
  else none

namespace InternalChannelAPI

variable (api : InternalChannelAPI) (delivery : Delivery)

/-- A decision against an event. -/
def reject (userId : Option String) (reasonCode : String) (roles : List String := []) :
    ChannelAdmissionDecision :=
  { accepted := false, userId, reasonCode, roles }

/-- A deterministic reply. -/
def fixedReply (text code : String) : AssistantReply := { text, code, source := "deterministic" }

/-! ### Groups -/

/-- `event.metadata.get("mentioned") or text.lstrip().startswith("/")`. -/
def explicitlyAddressed (event : InboundEvent) : Bool :=
  event.mentioned ||
    "/".toList.isPrefixOf (lstripChars (event.text.getD "").toList)

/-- `PendingPlanStore.current`: whether there is one. -/
def hasPendingPlan (actorUserId targetRef : String) (now : Instant) (db : Database) : Bool :=
  db.assistantPendingPlans.rows.any fun plan =>
    plan.actorUserId = actorUserId && plan.targetRef = targetRef && plan.state ≠ .accepted &&
      now < plan.expiresAt

/-- The identity an event comes from. -/
def sender (event : InboundEvent) (db : Database) : Option ExternalIdentity :=
  UserRepository.identityByOpaqueRef event.channel event.channelAccount event.externalActorRef db

/-- The route of the conversation. -/
def conversation (event : InboundEvent) (db : Database) : Option ChannelRoute :=
  ChannelRouteStore.get event.channel event.channelAccount event.externalConversationRef db

/-- An event that is not addressed to the assistant goes on only in the middle of a plan. -/
def triggered (event : InboundEvent) (db : Database) : Bool :=
  explicitlyAddressed event || (api.assistant.pendingPlans &&
    (conversation event db).any (fun route =>
      route.commandsEnabled && route.groupMode = .internal) &&
    (sender event db).any fun identity =>
      hasPendingPlan identity.userId event.externalConversationRef delivery.now db)

/-- The context in which the API writes for a user. -/
def ownContext (userId : String) (now : Instant) : Except PyError CommandContext :=
  CommandContext.checked userId [] none [] .channel .privateChat false (some now)

/-- `users.bind_identity(ExternalIdentity(…), policy.require(…))` for a reference that
becomes an identity of a user. -/
def bindIdentity (cipher : FieldCipher) (event : InboundEvent) (userId opaqueRef : String) :
    Effect Database PyError Unit := do
  let identityId ← Effect.check (api.references.create "identity"
    [event.channel, event.channelAccount, opaqueRef])
  let context ← Effect.check (ownContext userId event.receivedAt)
  let subject ← Effect.check (cipher.encrypt delivery.nonce opaqueRef
    ("external-identity:" ++ event.channel ++ ":" ++ event.channelAccount ++ ":" ++ opaqueRef))
  let identity ← Effect.check (ExternalIdentity.checked identityId userId event.channel
    event.channelAccount subject opaqueRef event.receivedAt)
  let ref ← Effect.check (ResourceRef.checked "external_identity" identityId userId .personal)
  let authorization ← Effect.query fun db => db.policyEngine.require context .create ref
  Effect.atomically (UserRepository.bindIdentity identity authorization)

/-- The decision of a group that has just been activated. -/
def activatedDecision (userId : String) (sharedOwnerUserId : String) : ChannelAdmissionDecision where
  accepted := true
  userId := some userId
  reasonCode := "accepted"
  roles := ["project_admin", "group_owner", "internal_group_member", "shared_workspace_member"]
  sharedOwnerUserId := some sharedOwnerUserId
  readableSharedOwnerUserIds := [sharedOwnerUserId]
  reply := some (fixedReply
    "内部群已自动登记。已绑定成员可直接使用，新群成员首次使用时会自动加入本群共享库。"
    "group_activated")

/-- `_activate_group` once the sender is known as the user of the code: the group is
switched on. -/
def enableGroup (event : InboundEvent) (userId : String) (mode : GroupMode) :
    Effect Database PyError (Option ChannelAdmissionDecision) := do
  let _ ← Effect.atomically (ChannelRouteStore.setCommandsEnabled event.channel
    event.channelAccount event.externalConversationRef true userId event.receivedAt (some mode)
    (some [userId]) delivery.uuid)
  let route ← Effect.reads (conversation event)
  return (route.bind ChannelRoute.sharedOwnerUserId).map (activatedDecision userId)

/-- `_activate_group` after the code was consumed. -/
def activateFor (cipher : FieldCipher) (event : InboundEvent) (userId : String)
    (mode : GroupMode) : Effect Database PyError (Option ChannelAdmissionDecision) := do
  let entitled ← Effect.reads fun db =>
    UserRepository.isActive userId db && UserRepository.hasRole userId "project_admin" db
  let identity ← Effect.reads (sender event)
  match entitled, identity with
  | false, _ => return none
  | true, some identity =>
    if identity.userId ≠ userId then return none
    else enableGroup delivery event userId mode
  | true, none => do
    api.bindIdentity delivery cipher event userId event.externalActorRef
    enableGroup delivery event userId mode

/-- `_activate_group`. -/
def activateGroup (event : InboundEvent) (code : String) :
    Effect Database PyError (Option ChannelAdmissionDecision) :=
  match api.fieldCipher with
  | none => return none
  | some cipher => do
    let codeHash ← Effect.check (api.references.create "group_activation"
      [event.channel, event.channelAccount, code])
    let consumed ← Effect.atomically (ChannelRouteStore.consumeActivation codeHash event.channel
      event.channelAccount event.receivedAt)
    match consumed with
    | none => return none
    | some (userId, mode) => api.activateFor delivery cipher event userId mode

/-- `users.create`, where a conflict means that the user is there already. -/
def createMember (memberId : String) (now : Instant) : Effect Database PyError Unit := do
  let context ← Effect.check (ownContext memberId now)
  let known ← Effect.reads fun db => (UserRepository.get memberId db).isSome
  if known then return ⟨⟩
  else do
    let ref ← Effect.check (ResourceRef.checked "user" memberId memberId .personal)
    let authorization ← Effect.query fun db => db.policyEngine.require context .create ref
    Effect.atomically (UserRepository.create ⟨memberId, "QQ group member", true⟩ authorization)

/-- `try: … except ConflictError: …`. -/
def onConflict {α : Type} (m : Effect Database PyError α)
    (handler : Effect Database PyError α) : Effect Database PyError α :=
  ExceptT.mk fun db =>
    match m.exec db with
    | (.ok a, db') => (.ok a, db')
    | (.error e, db') => if e.isConflict then handler.exec db' else (.error e, db')

/-- The end of `_provision_group_member`. -/
def enrolMember (event : InboundEvent) (route : ChannelRoute) (memberId ownerUserId : String) :
    Effect Database PyError (Option ExternalIdentity) := do
  Effect.atomically (ChannelRouteStore.addMember route memberId ownerUserId event.receivedAt)
  Effect.reads (sender event)

/-- `_provision_group_member` once the user exists. -/
def bindMember (cipher : FieldCipher) (event : InboundEvent) (route : ChannelRoute)
    (memberId ownerUserId : String) : Effect Database PyError (Option ExternalIdentity) := do
  let bound ← onConflict
    (do api.bindIdentity delivery cipher event memberId event.externalActorRef; return true)
    (Effect.reads fun db => (sender event db).any fun existing => existing.userId = memberId)
  if bound then enrolMember event route memberId ownerUserId else return none

/-- `_provision_group_member`. -/
def provisionGroupMember (event : InboundEvent) (route : ChannelRoute) :
    Effect Database PyError (Option ExternalIdentity) :=
  match api.fieldCipher, route.ownerUserId with
  | none, _ => return none
  | _, none => return none
  | some cipher, some ownerUserId => do
    let memberId ← Effect.check (api.references.create "group_member"
      [event.channel, event.channelAccount, event.externalActorRef])
    let created ← onConflict (do createMember memberId event.receivedAt; return true)
      (Effect.reads fun db => (UserRepository.get memberId db).isSome)
    if created then api.bindMember delivery cipher event route memberId ownerUserId
    else return none

/-- An answer to a member of an internal group who tried a link code. -/
def linkDecision (userId : String) (roles : List String) (sharedOwnerUserId : String)
    (text code : String) : ChannelAdmissionDecision where
  accepted := true
  userId := some userId
  reasonCode := "accepted"
  roles
  sharedOwnerUserId := some sharedOwnerUserId
  readableSharedOwnerUserIds := [sharedOwnerUserId]
  reply := some (fixedReply text code)

/-- `_bind_private_identity` for a code that was good for a private conversation. -/
def linkPrivate (cipher : FieldCipher) (event : InboundEvent) (userId : String)
    (roles : List String) (sharedOwnerUserId privateActorRef : String) :
    Effect Database PyError ChannelAdmissionDecision := do
  let existing ← Effect.reads (UserRepository.identityByOpaqueRef event.channel
    event.channelAccount privateActorRef)
  let linked := linkDecision userId roles sharedOwnerUserId
    "私聊身份绑定成功。现在可在私聊中使用个人接口和本人已加入群的共享库。" "identity_linked"
  match existing with
  | some existing =>
    if existing.userId ≠ userId then
      return linkDecision userId roles sharedOwnerUserId
        "该私聊身份已绑定到其他用户，操作已拒绝。" "identity_link_conflict"
    else return linked
  | none => do
    api.bindIdentity delivery cipher event userId privateActorRef
    return linked

/-- `_bind_private_identity`. -/
def bindPrivateIdentity (event : InboundEvent) (userId : String) (route : ChannelRoute)
    (code : String) (roles : List String) : Effect Database PyError ChannelAdmissionDecision :=
  match api.fieldCipher, route.sharedOwnerUserId with
  | none, _ => return reject (some userId) "registration_unavailable"
  | _, none => return reject (some userId) "registration_unavailable"
  | some cipher, some sharedOwnerUserId => do
    let codeHash ← Effect.check (api.references.create "private_link"
      [event.channel, event.channelAccount, code])
    let privateActorRef ← Effect.atomically (ChannelRouteStore.consumePrivateLink codeHash
      event.channel event.channelAccount userId event.receivedAt)
    match privateActorRef with
    | none =>
      return linkDecision userId roles sharedOwnerUserId
        "私聊绑定码无效或已过期，请在私聊中重新发送 /申请绑定。" "identity_link_invalid"
    | some privateActorRef =>
      api.linkPrivate delivery cipher event userId roles sharedOwnerUserId privateActorRef

/-- A member of an internal group, admitted. -/
def admitted (event : InboundEvent) (route : ChannelRoute) (userId : String) :
    Effect Database PyError ChannelAdmissionDecision :=
  match route.sharedOwnerUserId with
  | none => return reject (some userId) "group_workspace_unavailable"
  | some sharedOwnerUserId =>
    let roles := ["internal_group_member", "shared_workspace_member"] ++
      (if some userId = route.ownerUserId then ["group_owner"] else [])
    match codeAfter "/绑定私聊" (event.text.getD "") with
    | some code => api.bindPrivateIdentity delivery event userId route code roles
    | none =>
      return {
        accepted := true
        userId := some userId
        reasonCode := "accepted"
        roles
        sharedOwnerUserId := some sharedOwnerUserId
        readableSharedOwnerUserIds := [sharedOwnerUserId] }

/-- The sender of a group event is a known user, who becomes a member of the group. -/
def admitMember (event : InboundEvent) (route : ChannelRoute) (userId : String) :
    Effect Database PyError ChannelAdmissionDecision := do
  let active ← Effect.reads (UserRepository.isActive userId)
  let member ← Effect.reads (ChannelRouteStore.isMember event.channel event.channelAccount
    event.externalConversationRef userId)
  match active, member, route.ownerUserId with
  | false, _, _ => return reject (some userId) "user_disabled"
  | true, true, _ => api.admitted delivery event route userId
  | true, false, none => return reject (some userId) "group_permission_denied"
  | true, false, some ownerUserId => do
    Effect.atomically (ChannelRouteStore.addMember route userId ownerUserId event.receivedAt)
    api.admitted delivery event route userId

/-- An event in an internal group. -/
def admitInternal (event : InboundEvent) (route : ChannelRoute) :
    Effect Database PyError ChannelAdmissionDecision := do
  let identity ← Effect.reads (sender event)
  match identity with
  | some identity => api.admitMember delivery event route identity.userId
  | none => do
    let provisioned ← api.provisionGroupMember delivery event route
    match provisioned with
    | none => return reject none "identity_unbound"
    | some identity => api.admitMember delivery event route identity.userId

/-- An event in a public group. -/
def admitPublic (event : InboundEvent) (route : ChannelRoute) :
    Effect Database PyError ChannelAdmissionDecision := do
  let served ← Effect.reads fun db =>
    route.ownerUserId.any fun owner => UserRepository.isActive owner db
  if served then do
    let intent ← Effect.check (api.assistant.route (event.text.getD ""))
    if intent = some .help ∨ intent = some .answer then
      return {
        accepted := true
        userId := route.ownerUserId
        reasonCode := "accepted"
        roles := ["public_group_guest"] }
    else return reject route.ownerUserId "group_permission_denied" ["public_group_guest"]
  else return reject none "route_owner_unavailable"

/-- A group event that is no activation, by the settings of its route. -/
def admitRoute (event : InboundEvent) (route : Option ChannelRoute) :
    Effect Database PyError ChannelAdmissionDecision :=
  match route with
  | none => return reject none "conversation_disabled"
  | some route =>
    if route.commandsEnabled = false ∨ route.groupMode = .disabled then
      return reject none "conversation_disabled"
    else if route.groupMode = .publicMode then api.admitPublic event route
    else api.admitInternal delivery event route

/-- A group event. The route is read before a code in the text can change it. -/
def admitGroup (event : InboundEvent) : Effect Database PyError ChannelAdmissionDecision := do
  let route ← Effect.reads (conversation event)
  let goesOn ← Effect.reads (api.triggered delivery event)
  match goesOn, codeAfter "/启用内部群" (event.text.getD "") with
  | false, _ => return reject none "group_trigger_required"
  | true, none => api.admitRoute delivery event route
  | true, some code => do
    let activated ← api.activateGroup delivery event code
    match activated with
    | some decision => return decision
    | none => api.admitRoute delivery event route

/-! ### Private conversations -/

/-- A decision for a private conversation that is not bound yet. -/
def pendingDecision (reply : AssistantReply) : ChannelAdmissionDecision where
  accepted := true
  userId := some "service:registration"
  reasonCode := "accepted"
  roles := ["pending_identity"]
  reply := some reply

/-- `_unbound_private` for a request for a code. -/
def issueLink (event : InboundEvent) : Effect Database PyError ChannelAdmissionDecision := do
  let codeHash ← Effect.check (api.references.create "private_link"
    [event.channel, event.channelAccount, delivery.codeText])
  let expiresAt ← Effect.check (Instant.plus event.receivedAt (Duration.minutes 10))
  Effect.atomically (ChannelRouteStore.issuePrivateLink {
    codeHash
    channel := event.channel
    channelAccount := event.channelAccount
    privateActorRef := event.externalActorRef
    expiresAt
    consumedAt := none
    createdAt := event.receivedAt })
  return pendingDecision (fixedReply
    ("私聊绑定码：" ++ delivery.codeText ++ "\n10分钟内由本人在已启用的内部群发送：/绑定私聊 " ++
      delivery.codeText) "identity_link_issued")

/-- `_unbound_private`. -/
def unboundPrivate (event : InboundEvent) : Effect Database PyError ChannelAdmissionDecision := do
  let registered ← Effect.reads (UserRepository.isActive "service:registration")
  if registered = false then return reject none "registration_unavailable"
  else if strip (event.text.getD "") ≠ "/申请绑定" then
    return pendingDecision (fixedReply
      ("当前私聊尚未绑定。请发送 /申请绑定 获取一次性码，" ++
        "再到已启用的内部群发送 /绑定私聊 绑定码。") "identity_link_required")
  else api.issueLink delivery event

/-- `/登记内部群`. -/
def registerGroup (event : InboundEvent) (userId : String) :
    Effect Database PyError ChannelAdmissionDecision := do
  let administers ← Effect.reads (UserRepository.hasRole userId "project_admin")
  if administers then do
    let codeHash ← Effect.check (api.references.create "group_activation"
      [event.channel, event.channelAccount, delivery.codeText])
    let expiresAt ← Effect.check (Instant.plus event.receivedAt (Duration.minutes 10))
    Effect.atomically (ChannelRouteStore.issueActivation {
      codeHash
      userId
      channel := event.channel
      channelAccount := event.channelAccount
      groupMode := .internal
      expiresAt
      consumedAt := none
      createdAt := event.receivedAt
      enabling := GroupMode.internal_enabling })
    return {
      accepted := true
      userId := some userId
      reasonCode := "accepted"
      reply := some (fixedReply
        ("群登记码：" ++ delivery.codeText ++ "\n10分钟内在目标群发送：/启用内部群 " ++
          delivery.codeText) "group_activation_issued") }
  else return reject (some userId) "group_permission_denied"

/-- The decision for a user who writes in private. -/
def privateDecision (userId : String) (db : Database) : ChannelAdmissionDecision :=
  let sharedOwners := ChannelRouteStore.sharedOwnersForMember userId db
  { accepted := true
    userId := some userId
    reasonCode := "accepted"
    roles := (if sharedOwners = [] then [] else ["shared_workspace_member"]) ++
      (if UserRepository.hasRole userId "project_admin" db then ["project_admin"] else [])
    readableSharedOwnerUserIds := sharedOwners }

/-- An event that is not from a group. -/
def admitDirect (event : InboundEvent) : Effect Database PyError ChannelAdmissionDecision := do
  let identity ← Effect.reads (sender event)
  match identity with
  | none =>
    if event.conversationKind = .privateChat then api.unboundPrivate delivery event
    else return reject none "identity_unbound"
  | some identity => do
    let active ← Effect.reads (UserRepository.isActive identity.userId)
    if active = false then return reject (some identity.userId) "user_disabled"
    else if strip (event.text.getD "") = "/申请绑定" then
      return {
        accepted := true
        userId := some identity.userId
        reasonCode := "accepted"
        reply := some (fixedReply "当前私聊身份已经完成绑定，无需重复申请。"
          "identity_already_bound") }
    else if strip (event.text.getD "") = "/登记内部群" then
      api.registerGroup delivery event identity.userId
    else Effect.reads (privateDecision identity.userId)

/-- `_admit`. -/
def admitEvent (event : InboundEvent) : Effect Database PyError ChannelAdmissionDecision :=
  if event.conversationKind = .group then api.admitGroup delivery event
  else api.admitDirect delivery event

/-! ### Events -/

/-- `event.conversation_kind.value` as the kind of a route. -/
def routeKindOf : ConversationKind → RouteKind
  | .privateChat => .privateChat
  | .group => .group
  | .channel => .channel

/-- The two `observe` calls of `_event`. -/
def observeEvent (event : InboundEvent) : Effect Database PyError Unit := do
  Effect.atomically (ChannelRouteStore.observe event.channel event.channelAccount
    event.externalConversationRef (routeKindOf event.conversationKind) event.receivedAt)
  if event.externalActorRef ≠ event.externalConversationRef then
    Effect.atomically (ChannelRouteStore.observe event.channel event.channelAccount
      event.externalActorRef .actor event.receivedAt)
  else return ⟨⟩

/-- `_event` up to the reservation: the decision, and whether the receipt is new. -/
def arrive (event : InboundEvent) :
    Effect Database PyError (ChannelAdmissionDecision × Bool) := do
  observeEvent event
  let decision ← api.admitEvent delivery event
  let fresh ← Effect.atomically (InboundReceiptStore.reserve api.references event
    decision.accepted decision.reasonCode)
  return (decision, fresh)

/-- `_reply_message`. -/
def replyMessage (event : InboundEvent) (reply : AssistantReply) :
    Except PyError OutboundMessage :=
  OutboundMessage.checked event.channel event.channelAccount event.externalConversationRef
    (if reply.buttons ≠ [] then .button else if reply.richText then .markdown else .text)
    reply.text reply.buttons none
    (if event.messageKind = .button then "" else event.replyContextRef) .personal
    reply.calendarPreview none

/-- The reference of the reply to an event, its id in the outbox. -/
def replyRef (event : InboundEvent) : String :=
  api.references.reference "reply" [event.channel, event.channelAccount, event.eventId]

/-- The `CommandContext` of an accepted event. -/
def commandContext (event : InboundEvent) (decision : ChannelAdmissionDecision)
    (userId : String) : Except PyError CommandContext :=
  CommandContext.checked userId decision.roles decision.sharedOwnerUserId
    decision.readableSharedOwnerUserIds .channel
    (if event.conversationKind = .group then .groupChat else .privateChat) false none

/-- The reply to an accepted event. -/
def answer (event : InboundEvent) (decision : ChannelAdmissionDecision) (userId : String) :
    Mortal Database PyError AssistantReply := do
  let context ← Mortal.check (commandContext event decision userId)
  match decision.reply with
  | some reply => return reply
  | none =>
    api.assistant.handle (event.text.getD "") context event.externalConversationRef

/-- The reply goes into the outbox. -/
def enqueueReply (event : InboundEvent) (userId : String) (reply : AssistantReply) :
    Mortal Database PyError EventResponse := do
  let replyRef ← Mortal.check (api.references.create "reply"
    [event.channel, event.channelAccount, event.eventId])
  let message ← Mortal.check (replyMessage event reply)
  let _ ← Mortal.step (Effect.atomically (OutboxStore.enqueue {
    deliveryId := replyRef
    idempotencyKey := replyRef
    ownerUserId := userId
    message
    now := event.receivedAt }))
  return ⟨202, true, "accepted"⟩

/-- `finally: self.receipts.complete(…)`. -/
def completeReceipt (event : InboundEvent) (decision : ChannelAdmissionDecision)
    (intentKind : String) : Mortal Database PyError Unit :=
  Mortal.step (Effect.atomically
    (InboundReceiptStore.complete api.references event decision.reasonCode intentKind))

/-- The `try` block of `_event`, with its `finally`. The intent is known once the reply
is there. -/
def respond (event : InboundEvent) (decision : ChannelAdmissionDecision) :
    Mortal Database PyError EventResponse :=
  match decision.accepted, decision.userId with
  | true, some userId => do
    let reply ← Mortal.rescue (api.answer event decision userId)
      (api.completeReceipt event decision "")
    Mortal.ensure (api.enqueueReply event userId reply)
      (api.completeReceipt event decision reply.code)
  | _, _ =>
    Mortal.ensure (return ⟨200, false, decision.reasonCode⟩)
      (api.completeReceipt event decision "")

/-- The answer to an event whose receipt is not new. -/
def duplicateEvent : EventResponse := ⟨200, false, "duplicate_event"⟩

/-- Code before the reservation, where a kill leaves nothing to lose. -/
def unkilled {α : Type} (m : Effect Database PyError α) : Mortal Database PyError α :=
  ExceptT.mk fun life =>
    (Mortal.lift (m.exec life.store).1, { life with store := (m.exec life.store).2 })

/-- `_event`. -/
def event : Mortal Database PyError EventResponse := do
  let event ← Mortal.check delivery.payload.event
  let (decision, fresh) ← unkilled (api.arrive delivery event)
  if fresh then api.respond event decision else return duplicateEvent

end InternalChannelAPI

end Zhixu
