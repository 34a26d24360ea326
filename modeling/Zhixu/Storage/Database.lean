import Zhixu.Channels.Contracts
import Zhixu.Domain.Briefing
import Zhixu.Domain.Records
import Zhixu.Framework.Table

/-!
# The database

One `Database` value holds every table the modelled code reads or writes, each
a `Table` with the primary key of its `CREATE TABLE`. Rows carry the columns
under their names; a timestamp column is an `Instant`.

Foreign keys are enforced by the inserts that need them, in the modules that
write the tables. `audit_events` only ever grows, so it is a list.
-/

open Framework

namespace Zhixu

/-! ### Users and the audit log -/

structure UserRow where
  id : String
  displayName : String
  active : Bool
deriving DecidableEq, Repr

structure AuditEvent where
  occurredAt : Instant
  actorUserId : String
  action : String
  resourceKind : String
  resourceId : String
  outcome : String
  reasonCode : String := ""
deriving DecidableEq, Repr

/-- `resource_acl`: one grant of one action on one record. -/
structure GrantRow where
  resourceKind : String
  resourceId : String
  subjectUserId : String
  action : Action
  grantedBy : String
  createdAt : Instant
deriving DecidableEq, Repr

/-- The primary key of a grant. -/
def GrantRow.key (r : GrantRow) : String × String × String × Action :=
  (r.resourceKind, r.resourceId, r.subjectUserId, r.action)

/-! ### The outbox -/

inductive DeliveryStatus
  | pending
  | sending
  | sent
  | retryWait
  | quotaWait
  | dead
deriving DecidableEq, Repr

/-- `calendar_preview` of a stored payload. -/
structure CalendarPayload where
  year : Int
  month : Int
  busyDayCounts : List (Int × Int)
  todayDay : Option Int
deriving DecidableEq, Repr

/-- `daily_agenda_preview` of a stored payload. -/
structure DailyAgendaPayload where
  year : Int
  month : Int
  day : Int
  entries : List DailyEntry
  anniversaryDayNumbers : List Int
deriving DecidableEq, Repr

structure ButtonPayload where
  label : String
  action : String
  kind : ButtonActionKind
deriving DecidableEq, Repr

/-- `payload_json`. -/
structure MessagePayload where
  text : String
  buttons : List ButtonPayload
  attachmentUrl : Option String
  calendarPreview : Option CalendarPayload
  dailyAgendaPreview : Option DailyAgendaPayload
  replyContextRef : String
deriving DecidableEq, Repr

/-- `outbox_deliveries`. -/
structure OutboxDelivery where
  id : String
  idempotencyKey : String
  ownerUserId : String
  targetRef : String
  messageKind : MessageKind
  payload : MessagePayload
  classification : DataClassification
  priority : Int
  status : DeliveryStatus
  attempts : Int
  maxAttempts : Int
  nextAttemptAt : Instant
  lastErrorCode : String
  createdAt : Instant
  updatedAt : Instant
  channel : String
  channelAccount : String
  leaseOwner : String
  leaseToken : String
  leaseExpiresAt : Option Instant
  providerMessageId : String
deriving DecidableEq, Repr

/-- `dead_letters`. -/
structure DeadLetter where
  id : String
  deliveryId : String
  reasonCode : String
  createdAt : Instant
  retriedAt : Option Instant
deriving DecidableEq, Repr

/-! ### Quotas -/

/-- What a quota counts for. -/
inductive QuotaScopeKind
  | provider
  | account
  | conversation
  | user
deriving DecidableEq, Repr

inductive QuotaWindow
  | second
  | minute
  | day
deriving DecidableEq, Repr

/-- `quota_usage`. -/
structure QuotaUsage where
  scopeKind : QuotaScopeKind
  scopeRef : String
  windowKind : QuotaWindow
  windowStart : Instant
  used : Int
deriving DecidableEq, Repr

/-- The primary key of a usage. -/
def QuotaUsage.key (usage : QuotaUsage) : QuotaScopeKind × String × QuotaWindow × Instant :=
  (usage.scopeKind, usage.scopeRef, usage.windowKind, usage.windowStart)

/-! ### Budgets of the language model -/

/-- `window_kind` of a budget. -/
inductive BudgetWindow
  | day
  | month
deriving DecidableEq, Repr

structure LlmUsage where
  ownerUserId : String
  modelRef : String
  windowKind : BudgetWindow
  windowStart : Instant
  calls : Int
  inputUnits : Int
  outputUnits : Int
deriving DecidableEq, Repr

/-- The primary key of a usage. -/
def LlmUsage.key (usage : LlmUsage) : String × String × BudgetWindow × Instant :=
  (usage.ownerUserId, usage.modelRef, usage.windowKind, usage.windowStart)

inductive LlmCallReason
  | scheduleParse
  | deterministicParserMiss
  | noteSummaryRequested
  | generalQuestion
deriving DecidableEq, Repr

inductive LlmCallOutcome
  | reserved
  | completed
  | failed
deriving DecidableEq, Repr

structure LlmCallEvent where
  id : ℕ
  occurredAt : Instant
  ownerUserId : String
  modelRef : String
  reason : LlmCallReason
  outcome : LlmCallOutcome
  estimatedInputUnits : Int
  inputUnits : Int
  outputUnits : Int
  cachedInputUnits : Int
deriving DecidableEq, Repr

/-! ### Routes -/

inductive RouteKind
  | privateChat
  | group
  | channel
  | actor
deriving DecidableEq, Repr

inductive GroupMode
  | disabled
  | publicMode
  | internal
deriving DecidableEq, Repr

/-- `channel_routes`. -/
structure ChannelRoute where
  channel : String
  channelAccount : String
  opaqueRef : String
  routeKind : RouteKind
  commandsEnabled : Bool := false
  lastSeenAt : Instant
  ownerUserId : Option String := none
  groupMode : GroupMode := .disabled
  sharedOwnerUserId : Option String := none
deriving DecidableEq, Repr

/-- The primary key of a route. -/
def ChannelRoute.key (r : ChannelRoute) : String × String × String :=
  (r.channel, r.channelAccount, r.opaqueRef)

/-- `channel_route_members`. -/
structure RouteMember where
  channel : String
  channelAccount : String
  opaqueRef : String
  userId : String
  addedByUserId : String
  createdAt : Instant
deriving DecidableEq, Repr

/-- The primary key of a membership. -/
def RouteMember.key (r : RouteMember) : String × String × String × String :=
  (r.channel, r.channelAccount, r.opaqueRef, r.userId)

/-! ### Identities and inbound events -/

/-- `external_identities`, read as the record of the domain with its checks. -/
structure ExternalIdentity where
  id : String
  userId : String
  channel : String
  channelAccount : String
  encryptedSubject : String
  opaqueRef : String
  createdAt : Instant
  encrypted : startsWith encryptedSubject "enc:" = true
  nonblank : isBlank id = false ∧ isBlank userId = false ∧ isBlank channel = false ∧
    isBlank channelAccount = false ∧ isBlank opaqueRef = false
deriving Repr

/-- `ExternalIdentity(…, EncryptedIdentifier(…), …)`. -/
def ExternalIdentity.checked (id userId channel channelAccount encryptedSubject opaqueRef : String)
    (createdAt : Instant) : Except PyError ExternalIdentity :=
  if encrypted : startsWith encryptedSubject "enc:" = true then
    if nonblank : isBlank id = false ∧ isBlank userId = false ∧ isBlank channel = false ∧
        isBlank channelAccount = false ∧ isBlank opaqueRef = false then
      .ok {
        id, userId, channel, channelAccount, encryptedSubject, opaqueRef, createdAt
        encrypted, nonblank }
    else .error (.validation "identity fields must not be empty")
  else .error (.validation "external identifiers must be encrypted before storage")

/-- What a link code of the administration stands for: a registered channel account and a reference
that was observed there, with the encrypted subject. -/
structure LinkSubject where
  channel : String
  channelAccount : String
  opaqueRef : String
  encryptedSubject : String
  encrypted : startsWith encryptedSubject "enc:" = true
  nonblank : isBlank channel = false ∧ isBlank channelAccount = false ∧ isBlank opaqueRef = false
deriving Repr

/-- `identity_link_challenges`. -/
structure IdentityLinkChallenge where
  id : String
  userId : String
  subject : LinkSubject
  challengeHash : String
  expiresAt : Instant
  consumedAt : Option Instant
  attempts : ℕ
deriving Repr

/-- `admin_credentials`. -/
structure AdminCredential where
  userId : String
  passwordHash : String
  updatedAt : Instant
deriving DecidableEq, Repr

/-- `admin_login_state`. -/
structure LoginState where
  userId : String
  windowStartedAt : Instant
  attempts : ℕ
  lockedUntil : Option Instant
deriving DecidableEq, Repr

/-- `role_bindings`. -/
structure RoleBinding where
  userId : String
  roleId : String
  createdAt : Instant
deriving DecidableEq, Repr

/-- The primary key of a role binding. -/
def RoleBinding.key (r : RoleBinding) : String × String := (r.userId, r.roleId)

theorem GroupMode.internal_enabling : GroupMode.internal ≠ .disabled := by decide

/-- `group_activation_challenges`, with the `CHECK` of the table. -/
structure GroupActivationChallenge where
  codeHash : String
  userId : String
  channel : String
  channelAccount : String
  groupMode : GroupMode
  expiresAt : Instant
  consumedAt : Option Instant
  createdAt : Instant
  enabling : groupMode ≠ .disabled
deriving DecidableEq, Repr

/-- `private_link_challenges`. -/
structure PrivateLinkChallenge where
  codeHash : String
  channel : String
  channelAccount : String
  privateActorRef : String
  expiresAt : Instant
  consumedAt : Option Instant
  createdAt : Instant
deriving DecidableEq, Repr

/-- `inbound_event_receipts`. -/
structure InboundEventReceipt where
  channel : String
  channelAccount : String
  eventIdHash : String
  messageHash : String
  actorRef : String
  conversationRef : String
  intentKind : String
  outcome : String
  receivedAt : Instant
deriving DecidableEq, Repr

/-- The primary key of a receipt. -/
def InboundEventReceipt.key (r : InboundEventReceipt) : String × String × String :=
  (r.channel, r.channelAccount, r.eventIdHash)

inductive PlanState
  | pending
  | revising
  | accepted
deriving DecidableEq, Repr

/-- `assistant_pending_plans`. -/
structure PendingPlan where
  id : String
  actorUserId : String
  targetRef : String
  action : String
  payloadJson : String
  state : PlanState
  createdAt : Instant
  expiresAt : Instant
deriving DecidableEq, Repr

/-! ### Agenda, tasks and notes -/

/-- `agenda_items`. -/
structure AgendaRow where
  id : String
  ownerUserId : String
  creatorUserId : Option String
  title : String
  description : String
  actionLinks : List ActionLink
  startAt : Instant
  endAt : Instant
  timezone : String
  allDay : Bool
  classification : DataClassification
  version : Int
  createdAt : Instant
  updatedAt : Instant
deriving DecidableEq, Repr

/-- `recurrence_rules`. -/
structure RecurrenceRow where
  agendaItemId : String
  ruleText : String
  timezone : String
deriving DecidableEq, Repr

/-- `recurrence_exceptions`, with the `CHECK` of the table. -/
structure ExceptionRow where
  agendaItemId : String
  occurrenceAt : Instant
  action : ExceptionAction
  replacementStart : Option Instant
  replacementEnd : Option Instant
  replaced : match action with
    | .cancel => replacementStart = none ∧ replacementEnd = none
    | .replace => replacementStart.isSome = true ∧ replacementEnd.isSome = true

/-- The primary key of an exception. -/
def ExceptionRow.key (r : ExceptionRow) : String × Instant := (r.agendaItemId, r.occurrenceAt)

/-- `tasks`. -/
structure TaskRow where
  id : String
  ownerUserId : String
  creatorUserId : Option String
  title : String
  description : String
  status : TaskStatus
  priority : Int
  dueAt : Option Instant
  classification : DataClassification
  version : Int
  createdAt : Instant
  updatedAt : Instant
deriving DecidableEq, Repr

/-! ### Scheduled jobs -/

inductive JobRunStatus
  | pending
  | running
  | completed
  | failed
  | skipped
deriving DecidableEq, Repr

/-- `scheduled_jobs`. -/
structure ScheduledJobRow where
  id : String
  ownerUserId : String
  jobKind : String
  scheduleSpec : String
  timezone : String
  enabled : Bool
  createdAt : Instant
  updatedAt : Instant
deriving DecidableEq, Repr

/-- `job_runs`. -/
structure JobRunRow where
  id : String
  scheduledJobId : String
  scheduledFor : Instant
  status : JobRunStatus
  startedAt : Option Instant
  completedAt : Option Instant
  errorCode : String
deriving DecidableEq, Repr

/-! ### Notification leads and outbound targets -/

/-- `notification_lead_defaults`. -/
structure LeadDefaultRow where
  ownerUserId : String
  leadMinutes : List Int
  updatedAt : Instant
deriving DecidableEq, Repr

/-- `agenda_notification_leads`. -/
structure LeadOverrideRow where
  agendaItemId : String
  ownerUserId : String
  leadMinutes : List Int
  updatedAt : Instant
deriving DecidableEq, Repr

/-- `outbound_targets`. -/
structure OutboundTargetRow where
  id : String
  channel : String
  channelAccount : String
  opaqueRef : String
  targetEnc : String
  targetKind : String
  createdAt : Instant
  updatedAt : Instant
deriving DecidableEq, Repr

/-! ### All tables -/

structure Database where
  users : Table UserRow UserRow.id := ∅
  auditEvents : List AuditEvent := []
  resourceAcl : Table GrantRow GrantRow.key := ∅
  outboxDeliveries : Table OutboxDelivery OutboxDelivery.id := ∅
  deadLetters : Table DeadLetter DeadLetter.id := ∅
  channelRoutes : Table ChannelRoute ChannelRoute.key := ∅
  reminders : Table Reminder Reminder.id := ∅
  agendaItems : Table AgendaRow AgendaRow.id := ∅
  recurrenceRules : Table RecurrenceRow RecurrenceRow.agendaItemId := ∅
  recurrenceExceptions : Table ExceptionRow ExceptionRow.key := ∅
  agendaNotificationRules : Table AgendaNotificationRule AgendaNotificationRule.id := ∅
  tasks : Table TaskRow TaskRow.id := ∅
  /-- `notes`, each with its category path, blocks, tags and attachments -/
  notes : Table Note Note.id := ∅
  anniversaries : Table Anniversary Anniversary.id := ∅
  dailyBriefings : Table DailyBriefing DailyBriefing.id := ∅
  externalIdentities : Table ExternalIdentity ExternalIdentity.id := ∅
  roleBindings : Table RoleBinding RoleBinding.key := ∅
  channelRouteMembers : Table RouteMember RouteMember.key := ∅
  groupActivationChallenges :
    Table GroupActivationChallenge GroupActivationChallenge.codeHash := ∅
  privateLinkChallenges : Table PrivateLinkChallenge PrivateLinkChallenge.codeHash := ∅
  inboundEventReceipts : Table InboundEventReceipt InboundEventReceipt.key := ∅
  assistantPendingPlans : Table PendingPlan PendingPlan.id := ∅
  notificationLeadDefaults : Table LeadDefaultRow LeadDefaultRow.ownerUserId := ∅
  agendaNotificationLeads : Table LeadOverrideRow LeadOverrideRow.agendaItemId := ∅
  outboundTargets : Table OutboundTargetRow OutboundTargetRow.id := ∅
  quotaUsage : Table QuotaUsage QuotaUsage.key := ∅
  llmUsage : Table LlmUsage LlmUsage.key := ∅
  llmCallEvents : Table LlmCallEvent LlmCallEvent.id := ∅
  identityLinkChallenges : Table IdentityLinkChallenge IdentityLinkChallenge.id := ∅
  adminCredentials : Table AdminCredential AdminCredential.userId := ∅
  adminLoginState : Table LoginState LoginState.userId := ∅
  scheduledJobs : Table ScheduledJobRow ScheduledJobRow.id := ∅
  jobRuns : Table JobRunRow JobRunRow.id := ∅

namespace Database

/-- A `REFERENCES users(id)` that holds. -/
def hasUser (db : Database) (id : String) : Bool := (db.users.find? id).isSome

/-- `INSERT INTO audit_events`. -/
def audit (db : Database) (e : AuditEvent) : Database :=
  { db with auditEvents := db.auditEvents ++ [e] }

@[simp] theorem audit_users (db : Database) (e : AuditEvent) : (db.audit e).users = db.users := rfl
@[simp] theorem audit_outboxDeliveries (db : Database) (e : AuditEvent) :
    (db.audit e).outboxDeliveries = db.outboxDeliveries := rfl
@[simp] theorem audit_deadLetters (db : Database) (e : AuditEvent) :
    (db.audit e).deadLetters = db.deadLetters := rfl
@[simp] theorem audit_channelRoutes (db : Database) (e : AuditEvent) :
    (db.audit e).channelRoutes = db.channelRoutes := rfl
@[simp] theorem audit_reminders (db : Database) (e : AuditEvent) :
    (db.audit e).reminders = db.reminders := rfl

end Database

end Zhixu
