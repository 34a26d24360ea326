import Zhixu.Delivery.Outbox
import Zhixu.Framework.Custody
import Zhixu.Framework.Machine

/-!
# The outbox keeps custody of its deliveries

The outbox as a `Machine`: any number of workers and administrators, whose
transactions are interleaved in any order, are one sequence of `OutboxCall`s.
`completeLease` is two transactions; its first half alone is `leaseRow`, so an
interrupted call is a `leaseRow` followed, any time later, by a `complete`.

What a log says about one delivery is its `trace`, the accepted calls on it as
events of the custody protocol. The refinement has two halves.

* `written` is the inversion of every call at once: a call writes nothing, or
  creates one row, or changes one row, and the log tells which.
* `Kept` ties the store to the log. The row of every id shows the custody its
  trace leads to, and all traces are lawful. It holds in every stage reachable
  from a store without deliveries (`kept_of_reaches`), with no assumption on
  clocks or tokens.

Results about runs of the outbox are then facts about lawful traces.
-/

open Framework

namespace Zhixu

namespace OutboxStore

/-- A call of the outbox. Tokens are drawn by the caller of `claim`'s
transaction, so they are arguments. -/
inductive OutboxCall
  | enqueue (request : EnqueueRequest)
  | claim (workerId : String) (now : Instant) (leaseFor : Duration)
      (accounts : Option (List (String × String))) (token : String)
  | deferForQuota (claimed : ClaimedDelivery) (nextAttemptAt now : Instant)
      (reasonCode : String)
  | complete (claimed : ClaimedDelivery) (result : ChannelDeliveryResult) (now : Instant)
  | leaseRow (deliveryId leaseToken : String)
  | completeLease (deliveryId leaseToken : String) (result : ChannelDeliveryResult)
      (now : Instant)
  | retryDead (deadId actorUserId : String) (now : Instant)
deriving DecidableEq

inductive OutboxReply
  | enqueued (accepted : Bool)
  | claimed (delivery : Option ClaimedDelivery)
  | deferred
  | completed (status : DeliveryStatus)
  | lease (claimed : ClaimedDelivery)
  | retried (found : Bool)
deriving DecidableEq

/-- The code a call runs. -/
def perform (store : OutboxStore) : OutboxCall → Effect Database PyError OutboxReply
  | .enqueue request => .enqueued <$> Effect.atomically (enqueue request)
  | .claim workerId now leaseFor accounts token =>
    .claimed <$> claim workerId now leaseFor accounts token
  | .deferForQuota claimed nextAttemptAt now reasonCode =>
    (fun _ => .deferred) <$> Effect.atomically (deferForQuota claimed nextAttemptAt now reasonCode)
  | .complete claimed result now =>
    .completed <$> Effect.atomically (store.complete claimed result now)
  | .leaseRow deliveryId leaseToken =>
    .lease <$> Effect.query (leaseRow deliveryId leaseToken)
  | .completeLease deliveryId leaseToken result now =>
    .completed <$> store.completeLease deliveryId leaseToken result now
  | .retryDead deadId actorUserId now =>
    .retried <$> Effect.atomically (retryDead deadId actorUserId now)

abbrev Answer := Except PyError OutboxReply

/-- The outbox as a machine. -/
def machine (store : OutboxStore) : Machine Database OutboxCall Answer where
  exec db call := (store.perform call).exec db

/-! ### What a log says about one delivery -/

/-- How a completion with this status ends a lease. -/
def endedBy (token : String) : DeliveryStatus → CustodyEvent String Instant
  | .sent => .finished token
  | .retryWait => .failed token
  | _ => .buried token

/-- What a log entry means for the delivery `id`. -/
def event (id : String) (e : Entry OutboxCall Answer) : Option (CustodyEvent String Instant) :=
  match e.call, e.outcome with
  | .enqueue request, .ok (.enqueued true) =>
    if id = request.deliveryId then some (.created request.maxAttempts.toNat) else none
  | .claim _ now _ _ _, .ok (.claimed (some d)) =>
    if id = d.id then some (.claimed d.leaseToken now d.leaseExpiresAt) else none
  | .deferForQuota claimed _ _ _, .ok .deferred =>
    if id = claimed.id then some (.returned claimed.leaseToken) else none
  | .complete claimed _ _, .ok (.completed status) =>
    if id = claimed.id then some (endedBy claimed.leaseToken status) else none
  | .completeLease deliveryId leaseToken _ _, .ok (.completed status) =>
    if id = deliveryId then some (endedBy leaseToken status) else none
  | .retryDead deadId _ _, .ok (.retried true) =>
    if deadLetterId id = deadId then some .revived else none
  | _, _ => none

/-- Everything that happened to the delivery `id`, newest first. -/
def trace (id : String) (log : List (Entry OutboxCall Answer)) :
    List (CustodyEvent String Instant) :=
  log.filterMap (event id)

theorem deadLetterId_injective : Function.Injective deadLetterId := by
  intro a b h
  have hlist := congrArg String.toList h
  unfold deadLetterId at hlist
  rw [String.toList_append, String.toList_append] at hlist
  exact String.toList_injective (List.append_cancel_left hlist)

/-! ### What a call writes -/

/-- The row is under the lease of this token. -/
def Under (r : OutboxDelivery) (token : String) : Prop :=
  r.status = .sending ∧ r.leaseToken = token

/-- A change of one row, as the event it is logged as. -/
def RowStep (r r' : OutboxDelivery) : CustodyEvent String Instant → Prop
  | .created _ => False
  | .claimed token now expiresAt =>
    isAvailable now r = true ∧ r'.status = .sending ∧ r'.attempts = r.attempts + 1 ∧
      r'.leaseToken = token ∧ r'.leaseExpiresAt = some expiresAt
  | .returned token =>
    Under r token ∧ r'.status = .quotaWait ∧ r'.attempts = max 0 (r.attempts - 1)
  | .finished token => Under r token ∧ r'.status = .sent ∧ r'.attempts = r.attempts
  | .failed token =>
    Under r token ∧ r.attempts < r.maxAttempts ∧ r'.status = .retryWait ∧
      r'.attempts = r.attempts
  | .buried token => Under r token ∧ r'.status = .dead ∧ r'.attempts = r.attempts
  | .revived => r'.status = .pending ∧ r'.attempts = 0

/-- No change of a row touches its limit or its message. -/
def SameDelivery (r r' : OutboxDelivery) : Prop :=
  r'.id = r.id ∧ r'.maxAttempts = r.maxAttempts ∧ messageFromRow r' = messageFromRow r

/-- What becomes of the dead letters when the delivery `id` goes through an
event. -/
def LetterStep (id : String) (letters letters' : List DeadLetter) :
    CustodyEvent String Instant → Prop
  | .buried _ =>
    ∀ l ∈ letters', (l ∈ letters ∧ l.deliveryId ≠ id) ∨
      (l.id = deadLetterId id ∧ l.deliveryId = id ∧ l.retriedAt = none)
  | .revived =>
    ∀ l ∈ letters', (l ∈ letters ∧ l.deliveryId ≠ id) ∨
      (l.id = deadLetterId id ∧ l.deliveryId = id ∧ l.retriedAt ≠ none)
  | _ => letters' = letters

/-- What a call has written, as far as the outbox and the dead letters go. -/
inductive Written (db : Database) (e : Entry OutboxCall Answer) (db' : Database) : Prop
  | nothing (quiet : ∀ k, event k e = none) (same : db' = db)
  | created (request : EnqueueRequest)
      (logged : ∀ k, event k e =
        if k = request.deliveryId then some (.created request.maxAttempts.toNat) else none)
      (limit : 1 ≤ request.maxAttempts)
      (fresh : db.outboxDeliveries.find? request.deliveryId = none)
      (rows : ∀ k, db'.outboxDeliveries.find? k =
        if k = request.deliveryId then some request.row else db.outboxDeliveries.find? k)
      (letters : db'.deadLetters = db.deadLetters)
  | changed (id : String) (ev : CustodyEvent String Instant) (r r' : OutboxDelivery)
      (logged : ∀ k, event k e = if k = id then some ev else none)
      (found : db.outboxDeliveries.find? id = some r)
      (rows : ∀ k, db'.outboxDeliveries.find? k =
        if k = id then some r' else db.outboxDeliveries.find? k)
      (same : SameDelivery r r')
      (step : RowStep r r' ev)
      (letters : LetterStep id db.deadLetters.rows db'.deadLetters.rows ev)

/-- A call that has no accepted outcome leaves no event. -/
theorem event_error (k : String) (c : OutboxCall) (err : PyError) :
    event k ⟨c, .error err⟩ = none := by
  cases c <;> rfl

/-- A call that is one transaction writes nothing when the transaction raises. -/
theorem written_atomically {α : Type} {store : OutboxStore} {db : Database} {c : OutboxCall}
    {t : Transaction Database PyError α} {reply : α → OutboxReply}
    (hperform : store.perform c = reply <$> Effect.atomically t)
    (hok : ∀ a db', t db = .ok (a, db') → Written db ⟨c, .ok (reply a)⟩ db') :
    Written db (store.machine.entry db c) (store.machine.exec db c).2 := by
  unfold Machine.entry machine
  simp only [hperform, Effect.exec_map, Effect.exec_atomically]
  cases ht : t.run db with
  | error err => exact .nothing (fun k => event_error k c err) rfl
  | ok p => exact hok p.1 p.2 ht

theorem written_enqueue (store : OutboxStore) (db : Database) (request : EnqueueRequest) :
    Written db (store.machine.entry db (.enqueue request))
      (store.machine.exec db (.enqueue request)).2 := by
  refine written_atomically rfl fun accepted db' henq => ?_
  rcases enqueue_cases henq with ⟨rfl, rfl⟩ | ⟨rfl, hmax, hfresh, -, hletters, hrows⟩
  · exact .nothing (fun _ => rfl) rfl
  · exact .created request (fun _ => rfl) hmax hfresh hrows hletters

theorem written_claim (store : OutboxStore) {db : Database}
    (hread : ∀ r ∈ db.outboxDeliveries.rows, ∃ m, messageFromRow r = .ok m)
    (workerId : String) (now : Instant) (leaseFor : Duration)
    (accounts : Option (List (String × String))) (token : String) :
    Written db (store.machine.entry db (.claim workerId now leaseFor accounts token))
      (store.machine.exec db (.claim workerId now leaseFor accounts token)).2 := by
  unfold Machine.entry machine perform
  simp only [Effect.exec_map]
  rcases claim_cases workerId now leaseFor accounts token hread with
    ⟨hsame, hnone, -⟩ | ⟨row, message, hnext, -, hanswer, hletters, hrows⟩
  · refine .nothing (fun k => ?_) hsame
    cases hout : ((claim workerId now leaseFor accounts token).exec db).1 with
    | error err => exact event_error k _ err
    | ok o =>
      cases o with
      | none => rfl
      | some d => exact absurd hout (hnone d)
  · obtain ⟨hfind, hdue⟩ := nextDue_spec hnext
    refine .changed row.id (.claimed token now (now + leaseFor)) row
      (leased workerId token now (now + leaseFor) row) ?_ hfind hrows
      ⟨rfl, rfl, rfl⟩ ⟨isDue_available hdue, rfl, rfl, rfl, rfl⟩ (by rw [hletters]; rfl)
    intro k
    rw [hanswer]
    rfl

theorem written_deferForQuota (store : OutboxStore) (db : Database) (claimed : ClaimedDelivery)
    (nextAttemptAt now : Instant) (reasonCode : String) :
    Written db (store.machine.entry db (.deferForQuota claimed nextAttemptAt now reasonCode))
      (store.machine.exec db (.deferForQuota claimed nextAttemptAt now reasonCode)).2 := by
  refine written_atomically rfl fun u db' hdefer => ?_
  obtain ⟨r, hlease, rfl⟩ := deferForQuota_ok hdefer
  obtain ⟨hfind, hunder⟩ := underLease_eq_some hlease
  exact .changed claimed.id (.returned claimed.leaseToken) r _ (fun _ => rfl) hfind
    (find?_writeDelivery hfind _ _) ⟨rfl, rfl, rfl⟩ ⟨hunder, rfl, rfl⟩ rfl

/-- A completion, however it was asked for, ends the lease of its delivery. -/
theorem written_completion {store : OutboxStore} {db db' : Database} {claimed : ClaimedDelivery}
    {result : ChannelDeliveryResult} {now : Instant} {status : DeliveryStatus}
    {e : Entry OutboxCall Answer}
    (hlogged : ∀ k, event k e =
      if k = claimed.id then some (endedBy claimed.leaseToken status) else none)
    (h : store.complete claimed result now db = .ok (status, db')) : Written db e db' := by
  obtain ⟨r, hlease, hcases⟩ := complete_ok h
  obtain ⟨hfind, hunder⟩ := underLease_eq_some hlease
  rcases hcases with ⟨rfl, rfl⟩ | ⟨rfl, hlt, nextAttemptAt, rfl⟩ | ⟨rfl, rfl⟩
  · exact .changed claimed.id _ r _ hlogged hfind (find?_writeDelivery hfind _ _)
      ⟨rfl, rfl, rfl⟩ ⟨hunder, rfl, rfl⟩ rfl
  · exact .changed claimed.id _ r _ hlogged hfind (find?_writeDelivery hfind _ _)
      ⟨rfl, rfl, rfl⟩ ⟨hunder, hlt, rfl, rfl⟩ rfl
  · refine .changed claimed.id _ r (markedDead result now r) hlogged hfind
      (fun k => find?_writeDelivery hfind (markedDead result now) (by intro _; rfl) k)
      ⟨rfl, rfl, rfl⟩ ⟨hunder, rfl, rfl⟩ ?_
    -- the letter just written is the only new one
    intro l hl
    rcases mem_putDeadLetter hl with hold | rfl
    · exact Or.inl hold
    · exact Or.inr ⟨rfl, rfl, rfl⟩

theorem written_complete (store : OutboxStore) (db : Database) (claimed : ClaimedDelivery)
    (result : ChannelDeliveryResult) (now : Instant) :
    Written db (store.machine.entry db (.complete claimed result now))
      (store.machine.exec db (.complete claimed result now)).2 :=
  written_atomically rfl fun _ _ h => written_completion (fun _ => rfl) h

theorem written_leaseRow (store : OutboxStore) (db : Database) (deliveryId leaseToken : String) :
    Written db (store.machine.entry db (.leaseRow deliveryId leaseToken))
      (store.machine.exec db (.leaseRow deliveryId leaseToken)).2 := by
  unfold Machine.entry machine perform
  simp only [Effect.exec_map, Effect.exec_query]
  refine .nothing (fun k => ?_) rfl
  cases leaseRow deliveryId leaseToken db <;> rfl

theorem written_completeLease (store : OutboxStore) (db : Database)
    (deliveryId leaseToken : String) (result : ChannelDeliveryResult) (now : Instant) :
    Written db (store.machine.entry db (.completeLease deliveryId leaseToken result now))
      (store.machine.exec db (.completeLease deliveryId leaseToken result now)).2 := by
  unfold Machine.entry machine perform completeLease
  simp only [Effect.exec_map, Effect.exec_bind, Effect.exec_query]
  cases hrow : leaseRow deliveryId leaseToken db with
  | error err => exact .nothing (fun k => event_error k _ err) rfl
  | ok claimed =>
    obtain ⟨hid, htoken⟩ := leaseRow_ok hrow
    simp only [Effect.exec_atomically]
    cases hc : (store.complete claimed result now).run db with
    | error err => exact .nothing (fun k => event_error k _ err) rfl
    | ok p =>
      refine written_completion (fun k => ?_) hc
      rw [hid, htoken]
      rfl

theorem written_retryDead (store : OutboxStore) {db : Database}
    (hletters : ∀ l ∈ db.deadLetters.rows, l.id = deadLetterId l.deliveryId ∧
      db.outboxDeliveries.find? l.deliveryId ≠ none)
    (deadId actorUserId : String) (now : Instant) :
    Written db (store.machine.entry db (.retryDead deadId actorUserId now))
      (store.machine.exec db (.retryDead deadId actorUserId now)).2 := by
  refine written_atomically rfl fun found db' hretry => ?_
  rcases retryDead_cases hretry with ⟨rfl, rfl⟩ | ⟨rfl, letter, hfind, hrows, hnew⟩
  · exact .nothing (fun _ => rfl) rfl
  · obtain ⟨hid, hrow⟩ := hletters letter (Table.mem_of_find? hfind)
    have hkey : letter.id = deadId := Table.key_of_find? hfind
    obtain ⟨r, hr⟩ := Option.ne_none_iff_exists'.mp hrow
    refine .changed letter.deliveryId .revived r (restarted now r) (fun k => ?_) hr (fun k => ?_)
      ⟨rfl, rfl, rfl⟩ ⟨rfl, rfl⟩ ?_
    · -- the letter's id determines the delivery
      change (if deadLetterId k = deadId then _ else none) = _
      rw [← hkey, hid]
      simp only [deadLetterId_injective.eq_iff]
    · rw [hrows]
      exact find?_writeDelivery hr _ _ k
    · intro l hl
      rw [hnew] at hl
      obtain ⟨l₀, hl₀, rfl⟩ := List.mem_map.mp hl
      obtain ⟨hid₀, -⟩ := hletters l₀ hl₀
      by_cases hsame : l₀.deliveryId = letter.deliveryId
      · have hdead : l₀.id = deadId := by rw [hid₀, hsame, ← hid, hkey]
        rw [if_pos (by simpa using hdead)]
        exact Or.inr ⟨by rw [← hsame]; exact hid₀, hsame, by simp⟩
      · have hdead : l₀.id ≠ deadId := by
          rw [hid₀, ← hkey, hid]
          exact fun h => hsame (deadLetterId_injective h)
        rw [if_neg (by simpa using hdead)]
        exact Or.inl ⟨hl₀, hsame⟩

/-! ### The invariant -/

/-- The row shows this custody. -/
structure Shows (r : OutboxDelivery) (c : Custody String Instant) : Prop where
  limit : r.maxAttempts = c.limit
  attempts : r.attempts = c.attempts
  phase : match c.phase with
    | .waiting => isWaiting r = true
    | .leased token expiresAt =>
      r.status = .sending ∧ r.leaseToken = token ∧ r.leaseExpiresAt = some expiresAt
    | .finished => r.status = .sent
    | .buried => r.status = .dead

/-- A row that may be missing shows a custody that may not have begun. -/
def Shows? : Option OutboxDelivery → Option (Custody String Instant) → Prop
  | none, none => True
  | some r, some c => Shows r c
  | _, _ => False

/-- The store keeps custody of its deliveries. -/
structure Kept (g : Stage Database OutboxCall Answer) : Prop where
  shows : ∀ id, Shows? (g.state.outboxDeliveries.find? id) (Custody.after (trace id g.log))
  lawful : ∀ id, Custody.Lawful (trace id g.log)
  readable : ∀ r ∈ g.state.outboxDeliveries.rows, ∃ m, messageFromRow r = .ok m
  letters : ∀ l ∈ g.state.deadLetters.rows, l.id = deadLetterId l.deliveryId ∧
    g.state.outboxDeliveries.find? l.deliveryId ≠ none

/-- Every call in one statement. -/
theorem written (store : OutboxStore) {g : Stage Database OutboxCall Answer} (h : Kept g)
    (c : OutboxCall) :
    Written g.state (store.machine.entry g.state c) (store.machine.exec g.state c).2 := by
  cases c with
  | enqueue request => exact written_enqueue store g.state request
  | claim workerId now leaseFor accounts token =>
    exact written_claim store h.readable workerId now leaseFor accounts token
  | deferForQuota claimed nextAttemptAt now reasonCode =>
    exact written_deferForQuota store g.state claimed nextAttemptAt now reasonCode
  | complete claimed result now => exact written_complete store g.state claimed result now
  | leaseRow deliveryId leaseToken => exact written_leaseRow store g.state deliveryId leaseToken
  | completeLease deliveryId leaseToken result now =>
    exact written_completeLease store g.state deliveryId leaseToken result now
  | retryDead deadId actorUserId now =>
    exact written_retryDead store h.letters deadId actorUserId now

theorem Shows.waiting_of {r : OutboxDelivery} {c : Custody String Instant} (h : Shows r c)
    (hwait : isWaiting r = true) : c.phase = .waiting := by
  have hphase := h.phase
  unfold isWaiting at hwait
  cases hp : c.phase with
  | waiting => rfl
  | leased token expiresAt => rw [hp] at hphase; rw [hphase.1] at hwait; exact absurd hwait (by decide)
  | finished => rw [hp] at hphase; rw [hphase] at hwait; exact absurd hwait (by decide)
  | buried => rw [hp] at hphase; rw [hphase] at hwait; exact absurd hwait (by decide)

theorem Shows.leased_of {r : OutboxDelivery} {c : Custody String Instant} (h : Shows r c)
    (hsending : r.status = .sending) :
    ∃ expiresAt, c.phase = .leased r.leaseToken expiresAt ∧ r.leaseExpiresAt = some expiresAt := by
  have hphase := h.phase
  cases hp : c.phase with
  | waiting =>
    rw [hp] at hphase
    simp only [isWaiting, hsending] at hphase
    exact absurd hphase (by decide)
  | leased token expiresAt =>
    rw [hp] at hphase
    obtain ⟨-, rfl, hexp⟩ := hphase
    exact ⟨expiresAt, rfl, hexp⟩
  | finished => rw [hp] at hphase; rw [hphase] at hsending; exact absurd hsending (by decide)
  | buried => rw [hp] at hphase; rw [hphase] at hsending; exact absurd hsending (by decide)

theorem Shows.holds {r : OutboxDelivery} {c : Custody String Instant} (h : Shows r c)
    {token : String} (hunder : Under r token) : Custody.Holds (some c) token := by
  obtain ⟨expiresAt, hphase, -⟩ := h.leased_of hunder.1
  rw [hunder.2] at hphase
  exact ⟨c, rfl, expiresAt, hphase⟩

/-- **Simulation of one change.** What changes a row is enabled in the custody
the row shows, and the changed row shows the custody that follows. -/
theorem Shows.step {r r' : OutboxDelivery} {c : Custody String Instant}
    {ev : CustodyEvent String Instant} (h : Shows r c) (hsame : SameDelivery r r')
    (hstep : RowStep r r' ev) :
    Custody.Enabled (some c) ev ∧ ∃ c', Custody.follow (some c) ev = some c' ∧ Shows r' c' := by
  have hlimit : r'.maxAttempts = c.limit := hsame.2.1.trans h.limit
  have hatt := h.attempts
  cases ev with
  | created limit => exact hstep.elim
  | claimed token now expiresAt =>
    obtain ⟨havail, hstatus, hattempts, htoken, hexp⟩ := hstep
    refine ⟨⟨c, rfl, ?_⟩, _, rfl, hlimit, ?_, hstatus, htoken, hexp⟩
    · -- the update's condition is the protocol's
      unfold isAvailable at havail
      rcases Bool.or_eq_true_iff.mp havail with hwait | hexpired
      · exact Or.inl (h.waiting_of hwait)
      · simp only [isExpired, Bool.and_eq_true, decide_eq_true_eq] at hexpired
        obtain ⟨e, hphase, hre⟩ := h.leased_of hexpired.1
        rw [hre, Option.any_some, decide_eq_true_eq] at hexpired
        exact Or.inr ⟨r.leaseToken, e, hphase, hexpired.2⟩
    · rw [hattempts, hatt]
      push_cast
      rfl
  | returned token =>
    obtain ⟨hunder, hstatus, hattempts⟩ := hstep
    refine ⟨h.holds hunder, _, rfl, hlimit, ?_, by simp [isWaiting, hstatus]⟩
    rw [hattempts, hatt]
    simp only
    omega
  | finished token =>
    obtain ⟨hunder, hstatus, hattempts⟩ := hstep
    exact ⟨h.holds hunder, _, rfl, hlimit, hattempts.trans hatt, hstatus⟩
  | failed token =>
    obtain ⟨hunder, hlt, hstatus, hattempts⟩ := hstep
    refine ⟨⟨h.holds hunder, ?_⟩, _, rfl, hlimit, hattempts.trans hatt, by simp [isWaiting, hstatus]⟩
    intro c' hc'
    obtain rfl := Option.some.inj hc'
    rw [hatt, h.limit] at hlt
    exact_mod_cast hlt
  | buried token =>
    obtain ⟨hunder, hstatus, hattempts⟩ := hstep
    exact ⟨h.holds hunder, _, rfl, hlimit, hattempts.trans hatt, hstatus⟩
  | revived =>
    obtain ⟨hstatus, hattempts⟩ := hstep
    refine ⟨by simp [Custody.Enabled], _, rfl, hlimit, ?_, by simp [isWaiting, hstatus]⟩
    rw [hattempts]
    rfl

/-! ### The invariant holds in every run -/

theorem trace_cons (id : String) (e : Entry OutboxCall Answer)
    (log : List (Entry OutboxCall Answer)) :
    trace id (e :: log) = (event id e).toList ++ trace id log := by
  unfold trace
  rw [List.filterMap_cons]
  cases event id e <;> rfl

theorem Shows?.of_some {r : OutboxDelivery} {c : Option (Custody String Instant)}
    (h : Shows? (some r) c) : ∃ c', c = some c' ∧ Shows r c' := by
  cases c with
  | none => exact h.elim
  | some c => exact ⟨c, rfl, h⟩

theorem Shows?.of_none {c : Option (Custody String Instant)} (h : Shows? none c) : c = none := by
  cases c with
  | none => rfl
  | some c => exact h.elim

/-- The row of a new delivery shows the custody that begins with it. -/
theorem shows_created (request : EnqueueRequest) (hmax : 1 ≤ request.maxAttempts) :
    Shows request.row ⟨request.maxAttempts.toNat, 0, .waiting⟩ where
  limit := by
    change request.maxAttempts = _
    rw [Int.toNat_of_nonneg (by omega)]
  attempts := rfl
  phase := rfl

theorem Kept.initial {db : Database} (hrows : db.outboxDeliveries = ∅)
    (hletters : db.deadLetters = ∅) :
    Kept (Machine.start db : Stage Database OutboxCall Answer) where
  shows id := by rw [Machine.start_state, hrows]; trivial
  lawful id := trivial
  readable r hr := by rw [Machine.start_state, hrows] at hr; exact absurd hr (by simp)
  letters l hl := by rw [Machine.start_state, hletters] at hl; exact absurd hl (by simp)

/-- A table's rows are the rows its keys find. -/
theorem mem_rows_iff {T : Table OutboxDelivery OutboxDelivery.id} {r : OutboxDelivery} :
    r ∈ T.rows ↔ T.find? r.id = some r :=
  ⟨Table.find?_of_mem, Table.mem_of_find?⟩

/-- **One call keeps custody.** -/
theorem Kept.step (store : OutboxStore) {g : Stage Database OutboxCall Answer} (h : Kept g)
    (c : OutboxCall) : Kept (store.machine.advance g c) := by
  cases written store h c with
  | nothing quiet same =>
    have htrace : ∀ k, trace k (store.machine.advance g c).log = trace k g.log := by
      intro k
      rw [Machine.advance_log, trace_cons, quiet k]
      rfl
    have hstate : (store.machine.advance g c).state = g.state := same
    refine ⟨fun k => ?_, fun k => ?_, ?_, ?_⟩
    · rw [htrace, hstate]; exact h.shows k
    · rw [htrace]; exact h.lawful k
    · rw [hstate]; exact h.readable
    · rw [hstate]; exact h.letters
  | created request logged limit fresh rows letters =>
    have hnone : Custody.after (trace request.deliveryId g.log) = none := by
      have hs := h.shows request.deliveryId
      rw [fresh] at hs
      exact hs.of_none
    refine ⟨fun k => ?_, fun k => ?_, fun r hr => ?_, fun l hl => ?_⟩
    · rw [Machine.advance_log, trace_cons, logged k, Machine.advance_state, rows k]
      by_cases hk : k = request.deliveryId
      · rw [if_pos hk, if_pos hk]
        subst hk
        change Shows? _ (Custody.follow (Custody.after (trace _ g.log)) _)
        rw [hnone]
        exact shows_created request limit
      · rw [if_neg hk, if_neg hk]
        exact h.shows k
    · rw [Machine.advance_log, trace_cons, logged k]
      by_cases hk : k = request.deliveryId
      · rw [if_pos hk]
        subst hk
        exact ⟨⟨hnone, by omega⟩, h.lawful _⟩
      · rw [if_neg hk]
        exact h.lawful k
    · rw [Machine.advance_state] at hr
      rw [mem_rows_iff, rows] at hr
      by_cases hk : r.id = request.deliveryId
      · rw [if_pos hk] at hr
        obtain rfl := Option.some.inj hr
        exact ⟨_, messageFromRow_row request⟩
      · rw [if_neg hk] at hr
        exact h.readable r (Table.mem_of_find? hr)
    · rw [Machine.advance_state, letters] at hl
      obtain ⟨hid, hrow⟩ := h.letters l hl
      refine ⟨hid, ?_⟩
      rw [Machine.advance_state, rows]
      by_cases hk : l.deliveryId = request.deliveryId
      · rw [if_pos hk]; simp
      · rw [if_neg hk]; exact hrow
  | changed id ev r r' logged found rows same step letters =>
    obtain ⟨cust, hcust, hshows⟩ : ∃ cust, Custody.after (trace id g.log) = some cust ∧
        Shows r cust := by
      have hs := h.shows id
      rw [found] at hs
      exact hs.of_some
    obtain ⟨henabled, cust', hfollow, hshows'⟩ := hshows.step same step
    have hexists : ∀ k, g.state.outboxDeliveries.find? k ≠ none →
        (store.machine.advance g c).state.outboxDeliveries.find? k ≠ none := by
      intro k hk
      rw [Machine.advance_state, rows k]
      by_cases hkid : k = id
      · rw [if_pos hkid]; simp
      · rw [if_neg hkid]; exact hk
    refine ⟨fun k => ?_, fun k => ?_, fun r₁ hr₁ => ?_, fun l hl => ?_⟩
    · rw [Machine.advance_log, trace_cons, logged k, Machine.advance_state, rows k]
      by_cases hk : k = id
      · rw [if_pos hk, if_pos hk]
        subst hk
        change Shows? _ (Custody.follow (Custody.after (trace _ g.log)) _)
        rw [hcust, hfollow]
        exact hshows'
      · rw [if_neg hk, if_neg hk]
        exact h.shows k
    · rw [Machine.advance_log, trace_cons, logged k]
      by_cases hk : k = id
      · rw [if_pos hk]
        subst hk
        change Custody.Enabled (Custody.after (trace _ g.log)) ev ∧ Custody.Lawful (trace _ g.log)
        rw [hcust]
        exact ⟨henabled, h.lawful _⟩
      · rw [if_neg hk]
        exact h.lawful k
    · rw [Machine.advance_state] at hr₁
      rw [mem_rows_iff, rows] at hr₁
      by_cases hk : r₁.id = id
      · rw [if_pos hk] at hr₁
        obtain rfl := Option.some.inj hr₁
        obtain ⟨m, hm⟩ := h.readable r (Table.mem_of_find? found)
        exact ⟨m, same.2.2.trans hm⟩
      · rw [if_neg hk] at hr₁
        exact h.readable r₁ (Table.mem_of_find? hr₁)
    · have hid : g.state.outboxDeliveries.find? id ≠ none := by rw [found]; simp
      rw [Machine.advance_state] at hl
      -- a letter is an old one, or belongs to the delivery that changed
      have hcases : l ∈ g.state.deadLetters.rows ∨
          (l.id = deadLetterId id ∧ l.deliveryId = id) := by
        cases ev with
        | buried token | revived =>
          exact (letters l hl).imp And.left fun hnew => ⟨hnew.1, hnew.2.1⟩
        | created limit => exact step.elim
        | claimed token now expiresAt => exact Or.inl (letters ▸ hl)
        | returned token | finished token | failed token => exact Or.inl (letters ▸ hl)
      rcases hcases with hold | ⟨hlid, hdel⟩
      · obtain ⟨hlid, hrow⟩ := h.letters l hold
        exact ⟨hlid, hexists _ hrow⟩
      · exact ⟨by rw [hlid, hdel], by rw [hdel]; exact hexists _ hid⟩

/-- **The outbox keeps custody** of every delivery, in every run from a store
that has none. -/
theorem kept_of_reaches {store : OutboxStore} {guard : Stage Database OutboxCall Answer →
    OutboxCall → Prop} {db : Database} {g : Stage Database OutboxCall Answer}
    (hrows : db.outboxDeliveries = ∅) (hletters : db.deadLetters = ∅)
    (h : store.machine.Reaches guard (Machine.start db) g) : Kept g :=
  Machine.Reaches.invariant (Kept.initial hrows hletters) h
    fun _ c _ hkept => hkept.step store c

end OutboxStore

end Zhixu
