import Zhixu.Storage.Database

/-!
# The transactional outbox

`OutboxStore` with its seven operations, each over the whole database. Every
operation is one transaction, apart from `claim`, which decodes the message
after its transaction has committed, and `completeLease`, which looks the lease
up in one transaction and completes it in another.

A delivery is written by `enqueue`, by the four operations that know a lease
(`claim` issues one; `deferForQuota`, `complete` and `completeLease` end one)
and by `retryDead`, which goes by the dead letter and not by the delivery.

The second half of the file is about one row. `messageFromRow_rowOf` is the
round trip of a message through the store, and the `*_ok` lemmas are the
inversions of the operations: what an accepted call found, and what it wrote.
-/

open Framework

namespace Zhixu

/-! ### Messages in the store -/

/-- `_message_json`. -/
def messageJson (message : OutboundMessage) : MessagePayload where
  text := message.text
  buttons := message.buttons.map fun button => ⟨button.label, button.action, button.kind⟩
  attachmentUrl := message.attachmentUrl
  calendarPreview := message.calendarPreview.map fun p =>
    ⟨p.year, p.month, p.busyDayCounts, p.todayDay⟩
  dailyAgendaPreview := message.dailyAgendaPreview.map fun p =>
    ⟨p.year, p.month, p.day, p.entries, p.anniversaryDayNumbers⟩
  replyContextRef := message.replyContextRef

/-- `_message_from_row`: every part of the message is built, and checked, anew. -/
def messageFromRow (row : OutboxDelivery) : Except PyError OutboundMessage := do
  let buttons ← row.payload.buttons.mapM fun item =>
    MessageButton.checked item.label item.action item.kind
  let calendarPreview ← row.payload.calendarPreview.mapM fun value =>
    CalendarPreview.checked value.year value.month value.busyDayCounts value.todayDay
  let dailyAgendaPreview ← row.payload.dailyAgendaPreview.mapM fun value =>
    DailyAgendaPreview.checked value.year value.month value.day value.entries
      value.anniversaryDayNumbers
  OutboundMessage.checked row.channel row.channelAccount row.targetRef row.messageKind
    row.payload.text buttons row.payload.attachmentUrl row.payload.replyContextRef
    row.classification calendarPreview dailyAgendaPreview

structure ClaimedDelivery where
  id : String
  ownerUserId : String
  idempotencyKey : String
  message : OutboundMessage
  priority : Int
  attempts : Int
  maxAttempts : Int
  leaseToken : String
  leaseExpiresAt : Instant
deriving DecidableEq, Repr

/-- The arguments of `enqueue`. -/
structure EnqueueRequest where
  deliveryId : String
  idempotencyKey : String
  ownerUserId : String
  message : OutboundMessage
  now : Instant
  priority : Int := 30
  maxAttempts : Int := 5
  actorUserId : String := "service:application"
deriving DecidableEq, Repr

/-- The row `enqueue` inserts. -/
def EnqueueRequest.row (request : EnqueueRequest) : OutboxDelivery where
  id := request.deliveryId
  idempotencyKey := request.idempotencyKey
  ownerUserId := request.ownerUserId
  targetRef := request.message.targetRef
  messageKind := request.message.kind
  payload := messageJson request.message
  classification := request.message.classification
  priority := request.priority
  status := .pending
  attempts := 0
  maxAttempts := request.maxAttempts
  nextAttemptAt := request.now
  lastErrorCode := ""
  createdAt := request.now
  updatedAt := request.now
  channel := request.message.channel
  channelAccount := request.message.channelAccount
  leaseOwner := ""
  leaseToken := ""
  leaseExpiresAt := none
  providerMessageId := ""

/-- `INSERT OR IGNORE INTO outbox_deliveries`: `none` when the id or the
idempotency key is taken. -/
def Database.insertDelivery? (db : Database) (row : OutboxDelivery) : Option Database :=
  if db.outboxDeliveries.rows.any fun r => r.idempotencyKey = row.idempotencyKey then none
  else (db.outboxDeliveries.insert? row).map fun deliveries =>
    { db with outboxDeliveries := deliveries }

/-- The id of the dead letter of a delivery. -/
def deadLetterId (deliveryId : String) : String := "dead_" ++ deliveryId

/-- `OutboxStore`: the configured delays, at least one and none negative. -/
structure OutboxStore where
  backoffSeconds : List Int := [5, 30, 120, 600, 1800]
  backoff_valid : backoffSeconds ≠ [] ∧ ∀ delay ∈ backoffSeconds, 0 ≤ delay

namespace OutboxStore

/-- The store with the default delays. -/
def standard : OutboxStore := { backoff_valid := by decide }

variable (store : OutboxStore)

/-- `backoff_seconds[min(max(attempts - 1, 0), len(backoff_seconds) - 1)]`. -/
def backoff (attempts : Int) : Int :=
  store.backoffSeconds.get ⟨min (attempts - 1).toNat (store.backoffSeconds.length - 1), by
    have := List.length_pos_iff.mpr store.backoff_valid.1
    omega⟩

/-- `OutboxStore.enqueue`. -/
def enqueue (request : EnqueueRequest) : Transaction Database PyError Bool := fun db => do
  raiseIf (request.maxAttempts < 1) (.validation "max_attempts must be positive")
  match db.insertDelivery? request.row with
  | none => return (false, db)
  | some db' =>
    raiseIf (db.hasUser request.ownerUserId = false) .integrity
    return (true, db'.audit {
      occurredAt := request.now
      actorUserId := request.actorUserId
      action := "enqueue"
      resourceKind := "outbox_delivery"
      resourceId := request.deliveryId
      outcome := "completed" })

/-- `status IN ('pending','retry_wait','quota_wait')`. -/
def isWaiting (row : OutboxDelivery) : Bool :=
  row.status = .pending || row.status = .retryWait || row.status = .quotaWait

/-- `status='sending' AND lease_expires_at<=?`. -/
def isExpired (now : Instant) (row : OutboxDelivery) : Bool :=
  row.status = .sending && row.leaseExpiresAt.any fun expires => expires ≤ now

/-- The condition of the claim update: the row is waiting, or its lease has
expired. -/
def isAvailable (now : Instant) (row : OutboxDelivery) : Bool :=
  isWaiting row || isExpired now row

/-- The `WHERE` clause of the claim query. -/
def isDue (now : Instant) (accounts : Option (List (String × String)))
    (row : OutboxDelivery) : Bool :=
  ((isWaiting row && row.nextAttemptAt ≤ now) || isExpired now row) &&
    accounts.all fun known => known.contains (row.channel, row.channelAccount)

/-- `ORDER BY priority,created_at,id`. -/
def claimOrder (a b : OutboxDelivery) : Bool :=
  a.priority < b.priority || (a.priority = b.priority &&
    (a.createdAt < b.createdAt || (a.createdAt = b.createdAt && a.id ≤ b.id)))

/-- The row a claim would pick. -/
def nextDue (db : Database) (now : Instant) (accounts : Option (List (String × String))) :
    Option OutboxDelivery :=
  (db.outboxDeliveries.select (isDue now accounts) claimOrder).head?

/-- `SET status='sending',attempts=attempts+1,…`. -/
def leased (workerId token : String) (now leaseExpires : Instant) (row : OutboxDelivery) :
    OutboxDelivery :=
  { row with
    status := .sending
    attempts := row.attempts + 1
    leaseOwner := workerId
    leaseToken := token
    leaseExpiresAt := some leaseExpires
    updatedAt := now }

/-- The transaction of `claim`: the row as it stands after the update. -/
def claimRow (workerId : String) (now : Instant) (leaseExpires : Instant)
    (accounts : Option (List (String × String))) (token : String) :
    Transaction Database PyError (Option OutboxDelivery) := fun db =>
  match nextDue db now accounts with
  | none => .ok (none, db)
  | some row =>
    let updatable := fun r : OutboxDelivery => decide (r.id = row.id) && isAvailable now r
    let deliveries :=
      db.outboxDeliveries.updateWhere updatable (leased workerId token now leaseExpires)
    if db.outboxDeliveries.count updatable ≠ 1 then .ok (none, db)
    else .ok (deliveries.find? row.id, { db with outboxDeliveries := deliveries })

/-- The value `claim` returns for a row it has leased. -/
def handOut (refreshed : OutboxDelivery) (message : OutboundMessage) (token : String)
    (leaseExpires : Instant) : ClaimedDelivery where
  id := refreshed.id
  ownerUserId := refreshed.ownerUserId
  idempotencyKey := refreshed.idempotencyKey
  message
  priority := refreshed.priority
  attempts := refreshed.attempts
  maxAttempts := refreshed.maxAttempts
  leaseToken := token
  leaseExpiresAt := leaseExpires

/-- `OutboxStore.claim`. The message is decoded when the lease is already
written. -/
def claim (workerId : String) (now : Instant) (leaseFor : Duration)
    (accounts : Option (List (String × String))) (token : String) :
    Effect Database PyError (Option ClaimedDelivery) := do
  Effect.check (raiseIf (isBlank workerId = true ∨ leaseFor ≤ 0)
    (.validation "worker and positive lease duration are required"))
  let leaseExpires ← Effect.check (Instant.plus now leaseFor)
  if accounts = some [] then
    return none
  else
    let claimed ← Effect.atomically (claimRow workerId now leaseExpires accounts token)
    match claimed with
    | none => return none
    | some refreshed =>
      let message ← Effect.check (messageFromRow refreshed)
      return some (handOut refreshed message token leaseExpires)

/-- `WHERE id=? AND status='sending' AND lease_token=?`. -/
def underLease (db : Database) (deliveryId leaseToken : String) : Option OutboxDelivery :=
  (db.outboxDeliveries.find? deliveryId).filter fun row =>
    row.status = .sending && row.leaseToken = leaseToken

/-- What every write that ends a lease clears. -/
def unleased (row : OutboxDelivery) : OutboxDelivery :=
  { row with leaseOwner := "", leaseToken := "", leaseExpiresAt := none }

/-- The message of a refused completion or deferral. -/
def leaseLost : PyError := .conflict "outbox lease is no longer owned"

/-- `SET status='quota_wait',attempts=MAX(0,attempts-1),…`. -/
def quotaWaiting (nextAttemptAt now : Instant) (reasonCode : String) (row : OutboxDelivery) :
    OutboxDelivery :=
  { unleased row with
    status := .quotaWait
    attempts := max 0 (row.attempts - 1)
    nextAttemptAt
    lastErrorCode := takeChars 80 reasonCode
    updatedAt := now }

/-- `SET status='sent',…`. -/
def markedSent (result : ChannelDeliveryResult) (now : Instant) (row : OutboxDelivery) :
    OutboxDelivery :=
  { unleased row with
    status := .sent
    lastErrorCode := ""
    providerMessageId := takeChars 160 result.providerMessageId
    updatedAt := now }

/-- `SET status='retry_wait',…`. -/
def retryWaiting (nextAttemptAt : Instant) (result : ChannelDeliveryResult) (now : Instant)
    (row : OutboxDelivery) : OutboxDelivery :=
  { unleased row with
    status := .retryWait
    nextAttemptAt
    lastErrorCode := takeChars 80 result.providerCode
    updatedAt := now }

/-- `SET status='dead',…`. -/
def markedDead (result : ChannelDeliveryResult) (now : Instant) (row : OutboxDelivery) :
    OutboxDelivery :=
  { unleased row with
    status := .dead
    lastErrorCode := takeChars 80 result.providerCode
    updatedAt := now }

/-- `SET status='pending',attempts=0,…`. -/
def restarted (now : Instant) (row : OutboxDelivery) : OutboxDelivery :=
  { unleased row with
    status := .pending
    attempts := 0
    nextAttemptAt := now
    lastErrorCode := ""
    updatedAt := now }

/-- `UPDATE outbox_deliveries SET f WHERE id=?`. -/
def writeDelivery (db : Database) (id : String) (f : OutboxDelivery → OutboxDelivery)
    (hf : ∀ r, (f r).id = r.id := by intro _; rfl) : Database :=
  { db with outboxDeliveries := db.outboxDeliveries.updateWhere (fun r => r.id = id) f hf }

/-- `OutboxStore.defer_for_quota`. -/
def deferForQuota (claimed : ClaimedDelivery) (nextAttemptAt now : Instant)
    (reasonCode : String) : Transaction Database PyError Unit := fun db =>
  match underLease db claimed.id claimed.leaseToken with
  | none => .error leaseLost
  | some _ => .ok (⟨⟩, writeDelivery db claimed.id (quotaWaiting nextAttemptAt now reasonCode))

/-- `INSERT OR REPLACE INTO dead_letters`: a letter of the same id or of the same
delivery makes room. -/
def putDeadLetter (db : Database) (letter : DeadLetter) : Database :=
  let others := db.deadLetters.deleteWhere fun l =>
    l.id = letter.id || l.deliveryId = letter.deliveryId
  { db with deadLetters := (others.insert? letter).getD others }

/-- The letter `complete` leaves for a dead delivery. -/
def deadLetter (deliveryId : String) (result : ChannelDeliveryResult) (now : Instant) :
    DeadLetter where
  id := deadLetterId deliveryId
  deliveryId
  reasonCode := takeChars 80 result.providerCode
  createdAt := now
  retriedAt := none

/-- `OutboxStore.complete`. -/
def complete (claimed : ClaimedDelivery) (result : ChannelDeliveryResult) (now : Instant) :
    Transaction Database PyError DeliveryStatus := fun db =>
  match underLease db claimed.id claimed.leaseToken with
  | none => .error leaseLost
  | some row =>
    if result.ok then
      .ok (.sent, writeDelivery db claimed.id (markedSent result now))
    else if result.retryable ∧ row.attempts < row.maxAttempts then do
      let nextAttemptAt ← Instant.plus now (Duration.seconds (store.backoff row.attempts))
      return (.retryWait, writeDelivery db claimed.id (retryWaiting nextAttemptAt result now))
    else
      .ok (.dead, putDeadLetter (writeDelivery db claimed.id (markedDead result now))
        (deadLetter claimed.id result now))

/-- The read of `complete_lease`, a transaction of its own. -/
def leaseRow (deliveryId leaseToken : String) (db : Database) : Except PyError ClaimedDelivery :=
  match underLease db deliveryId leaseToken with
  | none => .error leaseLost
  | some row => do
    let message ← messageFromRow row
    match row.leaseExpiresAt with
    | none => throw .value
    | some leaseExpiresAt => return handOut row message leaseToken leaseExpiresAt

/-- `OutboxStore.complete_lease`. -/
def completeLease (deliveryId leaseToken : String) (result : ChannelDeliveryResult)
    (now : Instant) : Effect Database PyError DeliveryStatus := do
  let claimed ← Effect.query (leaseRow deliveryId leaseToken)
  Effect.atomically (store.complete claimed result now)

/-- `OutboxStore.retry_dead`. -/
def retryDead (deadId actorUserId : String) (now : Instant) :
    Transaction Database PyError Bool := fun db =>
  match db.deadLetters.find? deadId with
  | none => .ok (false, db)
  | some letter =>
    let db := writeDelivery db letter.deliveryId (restarted now)
    let letters :=
      db.deadLetters.updateWhere (fun l => l.id = deadId) fun l => { l with retriedAt := some now }
    .ok (true, Database.audit { db with deadLetters := letters } {
      occurredAt := now
      actorUserId
      action := "retry"
      resourceKind := "dead_letter"
      resourceId := deadId
      outcome := "completed" })

/-- `OutboxStore.get_status`. -/
def getStatus (db : Database) (deliveryId : String) : Option DeliveryStatus :=
  (db.outboxDeliveries.find? deliveryId).map OutboxDelivery.status

/-! ### One message through the store -/

theorem mapM_checked_buttons (buttons : List MessageButton) :
    (buttons.map fun b => (⟨b.label, b.action, b.kind⟩ : ButtonPayload)).mapM
      (fun item => MessageButton.checked item.label item.action item.kind) = .ok buttons := by
  induction buttons with
  | nil => rfl
  | cons b bs ih =>
    rw [List.map_cons, List.mapM_cons, MessageButton.checked_fields, ih]
    rfl

theorem mapM_checked_calendar (preview : Option CalendarPreview) :
    (preview.map fun p =>
        (⟨p.year, p.month, p.busyDayCounts, p.todayDay⟩ : CalendarPayload)).mapM
      (fun value =>
        CalendarPreview.checked value.year value.month value.busyDayCounts value.todayDay) =
      .ok preview := by
  cases preview with
  | none => rfl
  | some p => rw [Option.map_some, Option.mapM_some, CalendarPreview.checked_fields]; rfl

theorem mapM_checked_daily (preview : Option DailyAgendaPreview) :
    (preview.map fun p =>
        (⟨p.year, p.month, p.day, p.entries, p.anniversaryDayNumbers⟩ :
          DailyAgendaPayload)).mapM
      (fun value =>
        DailyAgendaPreview.checked value.year value.month value.day value.entries
          value.anniversaryDayNumbers) = .ok preview := by
  cases preview with
  | none => rfl
  | some p => rw [Option.map_some, Option.mapM_some, DailyAgendaPreview.checked_fields]; rfl

/-- **Round trip.** The message of a new row is the message enqueued. -/
theorem messageFromRow_row (request : EnqueueRequest) :
    messageFromRow request.row = .ok request.message := by
  unfold messageFromRow EnqueueRequest.row messageJson
  simp only [mapM_checked_buttons, mapM_checked_calendar, mapM_checked_daily]
  exact OutboundMessage.checked_fields request.message

/-! ### Inversions -/

theorem insertDelivery?_eq_some {db db' : Database} {row : OutboxDelivery}
    (h : db.insertDelivery? row = some db') :
    (∀ r ∈ db.outboxDeliveries.rows, r.idempotencyKey ≠ row.idempotencyKey) ∧
      ∃ T, db.outboxDeliveries.insert? row = some T ∧ db' = { db with outboxDeliveries := T } := by
  unfold Database.insertDelivery? at h
  by_cases hkey : (db.outboxDeliveries.rows.any fun r =>
      decide (r.idempotencyKey = row.idempotencyKey)) = true
  · rw [if_pos hkey] at h
    exact absurd h (by simp)
  · rw [if_neg hkey, Option.map_eq_some_iff] at h
    obtain ⟨T, hT, rfl⟩ := h
    refine ⟨fun r hr heq => hkey ?_, T, hT, rfl⟩
    exact List.any_eq_true.mpr ⟨r, hr, decide_eq_true heq⟩

/-- An enqueue is ignored, or adds its row under a free id. -/
theorem enqueue_cases {request : EnqueueRequest} {db db' : Database} {accepted : Bool}
    (h : enqueue request db = .ok (accepted, db')) :
    (accepted = false ∧ db' = db) ∨
      (accepted = true ∧ 1 ≤ request.maxAttempts ∧
        db.outboxDeliveries.find? request.deliveryId = none ∧
        db'.outboxDeliveries.rows = db.outboxDeliveries.rows ++ [request.row] ∧
        db'.deadLetters = db.deadLetters ∧
        ∀ k, db'.outboxDeliveries.find? k =
          if k = request.deliveryId then some request.row else db.outboxDeliveries.find? k) := by
  unfold enqueue at h
  rw [raiseIf_bind_ok] at h
  obtain ⟨hmax, h⟩ := h
  cases hins : db.insertDelivery? request.row with
  | none =>
    rw [hins] at h
    obtain ⟨rfl, rfl⟩ := Prod.mk.inj (Except.ok.inj h)
    exact Or.inl ⟨rfl, rfl⟩
  | some db₁ =>
    rw [hins] at h
    simp only [raiseIf_bind_ok] at h
    obtain ⟨-, h⟩ := h
    obtain ⟨rfl, rfl⟩ := Prod.mk.inj (Except.ok.inj h)
    obtain ⟨-, T, hT, rfl⟩ := insertDelivery?_eq_some hins
    refine Or.inr ⟨rfl, by omega, (Table.insert?_eq_some.mp hT).1, Table.rows_insert hT, rfl, ?_⟩
    exact fun k => Table.find?_insert hT k

theorem nextDue_spec {db : Database} {now : Instant} {accounts : Option (List (String × String))}
    {row : OutboxDelivery} (h : nextDue db now accounts = some row) :
    db.outboxDeliveries.find? row.id = some row ∧ isDue now accounts row = true := by
  have hmem := List.mem_of_mem_head? h
  rw [Table.mem_select] at hmem
  exact ⟨Table.find?_of_mem hmem.1, hmem.2⟩

/-- A row that is due is available. -/
theorem isDue_available {now : Instant} {accounts : Option (List (String × String))}
    {row : OutboxDelivery} (h : isDue now accounts row = true) :
    isAvailable now row = true := by
  unfold isDue at h
  unfold isAvailable
  simp only [Bool.and_eq_true, Bool.or_eq_true] at h ⊢
  rcases h.1 with ⟨hwait, -⟩ | hexp
  · exact Or.inl hwait
  · exact Or.inr hexp

/-- A claim leases the row that is next, if there is one. -/
theorem claimRow_eq (workerId : String) (now leaseExpires : Instant)
    (accounts : Option (List (String × String))) (token : String) (db : Database) :
    ∃ db', claimRow workerId now leaseExpires accounts token db =
        .ok ((nextDue db now accounts).map (leased workerId token now leaseExpires), db') ∧
      (nextDue db now accounts = none → db' = db) ∧
      ∀ row, nextDue db now accounts = some row →
        db'.deadLetters = db.deadLetters ∧ db'.quotaUsage = db.quotaUsage ∧
        ∀ k, db'.outboxDeliveries.find? k =
          if k = row.id then some (leased workerId token now leaseExpires row)
          else db.outboxDeliveries.find? k := by
  unfold claimRow
  cases hnext : nextDue db now accounts with
  | none => exact ⟨db, rfl, fun _ => rfl, by simp⟩
  | some row =>
    obtain ⟨hfind, hdue⟩ := nextDue_spec hnext
    have havail := isDue_available hdue
    have hcount := Table.count_key hfind havail
    have hwrite := Table.find?_updateKeyWhere hfind havail
      (leased workerId token now leaseExpires) (by intro _; rfl)
    have hself := hwrite row.id
    rw [if_pos rfl] at hself
    refine ⟨{ db with
      outboxDeliveries := db.outboxDeliveries.updateWhere
        (fun r => decide (r.id = row.id) && isAvailable now r)
        (leased workerId token now leaseExpires) }, ?_, by simp, ?_⟩
    · simp only
      rw [if_neg (not_not.mpr hcount), hself]
      rfl
    · intro row' hrow'
      obtain rfl := Option.some.inj hrow'
      exact ⟨rfl, rfl, hwrite⟩

theorem messageFromRow_leased (workerId token : String) (now leaseExpires : Instant)
    (row : OutboxDelivery) :
    messageFromRow (leased workerId token now leaseExpires row) = messageFromRow row := rfl

/-- The arguments `claim` does not refuse. -/
def ClaimValid (workerId : String) (now : Instant) (leaseFor : Duration) : Prop :=
  isBlank workerId = false ∧ 0 < leaseFor ∧ Instant.InRange (now + leaseFor)

/-- No row is due for nobody. -/
theorem nextDue_no_accounts (db : Database) (now : Instant) : nextDue db now (some []) = none := by
  cases h : nextDue db now (some []) with
  | none => rfl
  | some row =>
    have hdue := (nextDue_spec h).2
    simp [isDue] at hdue

/-- A claim with arguments that are refused changes nothing. -/
theorem exec_claim_refused {workerId : String} {now : Instant} {leaseFor : Duration}
    (h : ¬ ClaimValid workerId now leaseFor) (accounts : Option (List (String × String)))
    (token : String) (db : Database) :
    ∃ e, (claim workerId now leaseFor accounts token).exec db = (.error e, db) := by
  unfold claim
  rw [Effect.exec_check_bind]
  by_cases hargs : isBlank workerId = true ∨ leaseFor ≤ 0
  · unfold raiseIf
    rw [if_pos hargs]
    exact ⟨_, rfl⟩
  · unfold raiseIf
    rw [if_neg hargs]
    simp only
    rw [Effect.exec_check_bind]
    cases hplus : Instant.plus now leaseFor with
    | error e => exact ⟨e, rfl⟩
    | ok leaseExpires =>
      push Not at hargs
      exact absurd ⟨by simpa using hargs.1, hargs.2, (Instant.plus_eq_ok.mp hplus).1⟩ h

/-- A claim with valid arguments is its transaction, and then the decoding of the row. -/
theorem exec_claim_valid {workerId : String} {now : Instant} {leaseFor : Duration}
    (h : ClaimValid workerId now leaseFor) (accounts : Option (List (String × String)))
    (token : String) (db : Database) :
    (nextDue db now accounts = none →
      (claim workerId now leaseFor accounts token).exec db = (.ok none, db)) ∧
    ∀ row, nextDue db now accounts = some row →
      ∃ db', (claim workerId now leaseFor accounts token).exec db =
          ((messageFromRow row).map fun message =>
            some (handOut (leased workerId token now (now + leaseFor) row) message token
              (now + leaseFor)), db') ∧
        db'.deadLetters = db.deadLetters ∧ db'.quotaUsage = db.quotaUsage ∧
        ∀ k, db'.outboxDeliveries.find? k =
          if k = row.id then some (leased workerId token now (now + leaseFor) row)
          else db.outboxDeliveries.find? k := by
  obtain ⟨hworker, hlease, hrange⟩ := h
  have hargs : ¬ (isBlank workerId = true ∨ leaseFor ≤ 0) := by simp [hworker, hlease]
  have hplus := Instant.plus_eq_ok.mpr ⟨hrange, rfl⟩
  unfold claim
  rw [Effect.exec_check_bind]
  unfold raiseIf
  rw [if_neg hargs]
  simp only
  rw [Effect.exec_check_bind, hplus]
  simp only
  by_cases haccounts : accounts = some []
  · rw [if_pos haccounts, haccounts]
    refine ⟨fun _ => rfl, fun row hrow => ?_⟩
    rw [nextDue_no_accounts] at hrow
    cases hrow
  · rw [if_neg haccounts, Effect.exec_bind, Effect.exec_atomically]
    obtain ⟨db', heq, hnone, hsome⟩ := claimRow_eq workerId now (now + leaseFor) accounts token db
    rw [StateT.run, heq]
    refine ⟨fun hnext => ?_, fun row hnext => ?_⟩
    · rw [hnext, hnone hnext]
      rfl
    · obtain ⟨hletters, husage, hrows⟩ := hsome row hnext
      refine ⟨db', ?_, hletters, husage, hrows⟩
      rw [hnext]
      simp only [Option.map_some]
      rw [Effect.exec_check_bind, messageFromRow_leased]
      cases messageFromRow row <;> rfl

/-- **What a claim does**, in a store whose rows can all be read: with valid
arguments it leases the next row and hands it out; without, or when no row is
due, it changes nothing. -/
theorem claim_cases (workerId : String) (now : Instant) (leaseFor : Duration)
    (accounts : Option (List (String × String))) (token : String) {db : Database}
    (hread : ∀ r ∈ db.outboxDeliveries.rows, ∃ m, messageFromRow r = .ok m) :
    (((claim workerId now leaseFor accounts token).exec db).2 = db ∧
      (∀ d, ((claim workerId now leaseFor accounts token).exec db).1 ≠ .ok (some d)) ∧
      (ClaimValid workerId now leaseFor → nextDue db now accounts = none)) ∨
    ∃ row message, nextDue db now accounts = some row ∧
      ClaimValid workerId now leaseFor ∧
      ((claim workerId now leaseFor accounts token).exec db).1 =
        .ok (some (handOut (leased workerId token now (now + leaseFor) row) message token
          (now + leaseFor))) ∧
      ((claim workerId now leaseFor accounts token).exec db).2.deadLetters = db.deadLetters ∧
      ∀ k, ((claim workerId now leaseFor accounts token).exec db).2.outboxDeliveries.find? k =
        if k = row.id then some (leased workerId token now (now + leaseFor) row)
        else db.outboxDeliveries.find? k := by
  by_cases hvalid : ClaimValid workerId now leaseFor
  · obtain ⟨hidle, hclaimed⟩ := exec_claim_valid hvalid accounts token db
    cases hnext : nextDue db now accounts with
    | none =>
      rw [hidle hnext]
      exact Or.inl ⟨rfl, by simp, fun _ => rfl⟩
    | some row =>
      obtain ⟨db', hexec, hletters, -, hrows⟩ := hclaimed row hnext
      obtain ⟨message, hmsg⟩ := hread row (Table.mem_of_find? (nextDue_spec hnext).1)
      rw [hmsg] at hexec
      rw [hexec]
      exact Or.inr ⟨row, message, rfl, hvalid, rfl, hletters, hrows⟩
  · obtain ⟨e, hexec⟩ := exec_claim_refused hvalid accounts token db
    rw [hexec]
    exact Or.inl ⟨rfl, by simp, fun h => absurd h hvalid⟩

theorem underLease_eq_some {db : Database} {id token : String} {r : OutboxDelivery}
    (h : underLease db id token = some r) :
    db.outboxDeliveries.find? id = some r ∧ r.status = .sending ∧ r.leaseToken = token := by
  unfold underLease at h
  rw [Option.filter_eq_some_iff] at h
  simpa using h

/-- A write of one row leaves the others alone. -/
theorem find?_writeDelivery {db : Database} {id : String} {r : OutboxDelivery}
    (h : db.outboxDeliveries.find? id = some r) (f : OutboxDelivery → OutboxDelivery)
    (hf : ∀ r, (f r).id = r.id) (k : String) :
    (writeDelivery db id f hf).outboxDeliveries.find? k =
      if k = id then some (f r) else db.outboxDeliveries.find? k := by
  unfold writeDelivery
  rw [Table.find?_updateKey f hf k]
  by_cases hk : k = id
  · subst hk; rw [if_pos rfl, if_pos rfl, h, Option.map_some]
  · rw [if_neg hk, if_neg hk]

/-- The letters after a replacing insert: the new one, and those it made no room
for. -/
theorem mem_putDeadLetter {db : Database} {letter l : DeadLetter}
    (h : l ∈ (putDeadLetter db letter).deadLetters.rows) :
    (l ∈ db.deadLetters.rows ∧ l.deliveryId ≠ letter.deliveryId) ∨ l = letter := by
  have hothers : ∀ l ∈ (db.deadLetters.deleteWhere fun l =>
      decide (l.id = letter.id) || decide (l.deliveryId = letter.deliveryId)).rows,
      l ∈ db.deadLetters.rows ∧ l.deliveryId ≠ letter.deliveryId := by
    intro l hl
    obtain ⟨hmem, hcond⟩ := List.mem_filter.mp hl
    simp only [Bool.not_eq_true', Bool.or_eq_false_iff, decide_eq_false_iff_not] at hcond
    exact ⟨hmem, hcond.2⟩
  unfold putDeadLetter at h
  simp only at h
  cases hins : (db.deadLetters.deleteWhere fun l =>
      decide (l.id = letter.id) || decide (l.deliveryId = letter.deliveryId)).insert? letter with
  | none =>
    rw [hins, Option.getD_none] at h
    exact Or.inl (hothers l h)
  | some T =>
    rw [hins, Option.getD_some, Table.rows_insert hins, List.mem_append, List.mem_singleton] at h
    exact h.imp_left (hothers l)

theorem deferForQuota_ok {claimed : ClaimedDelivery} {nextAttemptAt now : Instant}
    {reasonCode : String} {db db' : Database} {u : Unit}
    (h : deferForQuota claimed nextAttemptAt now reasonCode db = .ok (u, db')) :
    ∃ r, underLease db claimed.id claimed.leaseToken = some r ∧
      db' = writeDelivery db claimed.id (quotaWaiting nextAttemptAt now reasonCode) := by
  unfold deferForQuota at h
  cases hlease : underLease db claimed.id claimed.leaseToken with
  | none => rw [hlease] at h; exact absurd h (by simp)
  | some r => rw [hlease] at h; exact ⟨r, rfl, (Prod.mk.inj (Except.ok.inj h)).2.symm⟩

/-- **What an accepted completion found and wrote.** -/
theorem complete_ok {store : OutboxStore} {claimed : ClaimedDelivery}
    {result : ChannelDeliveryResult} {now : Instant} {db db' : Database} {status : DeliveryStatus}
    (h : store.complete claimed result now db = .ok (status, db')) :
    ∃ r, underLease db claimed.id claimed.leaseToken = some r ∧
      ((status = .sent ∧ db' = writeDelivery db claimed.id (markedSent result now)) ∨
        (status = .retryWait ∧ r.attempts < r.maxAttempts ∧
          ∃ nextAttemptAt, db' = writeDelivery db claimed.id
            (retryWaiting nextAttemptAt result now)) ∨
        (status = .dead ∧ db' = putDeadLetter (writeDelivery db claimed.id
          (markedDead result now)) (deadLetter claimed.id result now))) := by
  unfold complete at h
  cases hlease : underLease db claimed.id claimed.leaseToken with
  | none => rw [hlease] at h; exact absurd h (by simp)
  | some r =>
    rw [hlease] at h
    refine ⟨r, rfl, ?_⟩
    simp only at h
    by_cases hok : result.ok = true
    · rw [if_pos hok] at h
      obtain ⟨rfl, rfl⟩ := Prod.mk.inj (Except.ok.inj h)
      exact Or.inl ⟨rfl, rfl⟩
    · rw [if_neg hok] at h
      by_cases hretry : result.retryable = true ∧ r.attempts < r.maxAttempts
      · rw [if_pos hretry, bind_eq_ok] at h
        obtain ⟨nextAttemptAt, -, h⟩ := h
        obtain ⟨rfl, rfl⟩ := Prod.mk.inj (Except.ok.inj h)
        exact Or.inr (Or.inl ⟨rfl, hretry.2, nextAttemptAt, rfl⟩)
      · rw [if_neg hretry] at h
        obtain ⟨rfl, rfl⟩ := Prod.mk.inj (Except.ok.inj h)
        exact Or.inr (Or.inr ⟨rfl, rfl⟩)

theorem leaseRow_ok {deliveryId leaseToken : String} {db : Database} {claimed : ClaimedDelivery}
    (h : leaseRow deliveryId leaseToken db = .ok claimed) :
    claimed.id = deliveryId ∧ claimed.leaseToken = leaseToken := by
  unfold leaseRow at h
  cases hlease : underLease db deliveryId leaseToken with
  | none => rw [hlease] at h; exact absurd h (by simp)
  | some r =>
    rw [hlease] at h
    simp only [bind_eq_ok] at h
    obtain ⟨message, -, h⟩ := h
    cases hexp : r.leaseExpiresAt with
    | none => rw [hexp] at h; exact absurd h (by simp [throw, throwThe, MonadExceptOf.throw])
    | some expires =>
      rw [hexp] at h
      obtain rfl := Except.ok.inj h
      have hkey : r.id = deliveryId := Table.key_of_find? (underLease_eq_some hlease).1
      exact ⟨hkey, rfl⟩

/-- A retry goes by the dead letter: whatever the delivery it names has become,
it starts anew. -/
theorem retryDead_cases {deadId actorUserId : String} {now : Instant} {db db' : Database}
    {found : Bool} (h : retryDead deadId actorUserId now db = .ok (found, db')) :
    (found = false ∧ db' = db) ∨
      (found = true ∧ ∃ letter, db.deadLetters.find? deadId = some letter ∧
        db'.outboxDeliveries =
          (writeDelivery db letter.deliveryId (restarted now)).outboxDeliveries ∧
        db'.deadLetters = db.deadLetters.updateWhere (fun l => l.id = deadId)
          fun l => { l with retriedAt := some now }) := by
  unfold retryDead at h
  cases hletter : db.deadLetters.find? deadId with
  | none =>
    rw [hletter] at h
    obtain ⟨rfl, rfl⟩ := Prod.mk.inj (Except.ok.inj h)
    exact Or.inl ⟨rfl, rfl⟩
  | some letter =>
    rw [hletter] at h
    obtain ⟨rfl, rfl⟩ := Prod.mk.inj (Except.ok.inj h)
    exact Or.inr ⟨rfl, letter, rfl, rfl, rfl⟩

end OutboxStore

end Zhixu
