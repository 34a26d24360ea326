import Zhixu.Delivery.OutboxCustody

/-!
# Runs of the outbox

Three properties of every run of the outbox from a store without deliveries,
each read off the traces of `Zhixu.Delivery.OutboxCustody`.

**Leases are exclusive** (`lease_exclusive`). A completion or deferral is
accepted only when the last thing that happened to the delivery is the claim
that issued its token, so a claim is ended at most once; any other call raises
`ConflictError` and writes nothing. No delivery is handed out while the claim at
the head of its trace holds an unexpired lease. Fresh tokens are needed only to
tell a worker's own claim from a later one; the clock may run in any direction.

**Sent is final, while letters are retried once** (`sent_final`). `retry_dead`
goes by the dead letter and never looks at the delivery. As long as a retried
letter is not retried again, a letter is unretried exactly while its delivery is
dead (`LettersTell`), so only dead deliveries are restarted and a sent one stays
sent. `sent_is_resent` is the run in which the second retry of an old letter
sends a message again.

**Attempts are bounded, while no exhausted lease is reclaimed**
(`attempts_bounded`). `complete` compares attempts with their limit, `claim`
does not. `attempts_exceed` is the run in which a worker dies on every attempt.
-/

open Framework

namespace Zhixu

namespace OutboxStore

/-! ### Leases are exclusive -/

/-- The delivery and the token of a call that ends a lease. -/
def OutboxCall.ends : OutboxCall → Option (String × String)
  | .deferForQuota claimed .. | .complete claimed .. => some (claimed.id, claimed.leaseToken)
  | .completeLease deliveryId leaseToken .. => some (deliveryId, leaseToken)
  | _ => none

/-- The token an entry hands out. -/
def handedOut (e : Entry OutboxCall Answer) : Option String :=
  match e.outcome with
  | .ok (.claimed (some d)) => some d.leaseToken
  | _ => none

/-- Every claim draws a token that no worker has been given before. -/
def FreshTokens (g : Stage Database OutboxCall Answer) : OutboxCall → Prop
  | .claim _ _ _ _ token => token ∉ g.log.filterMap handedOut
  | _ => True

instance (g : Stage Database OutboxCall Answer) (c : OutboxCall) :
    Decidable (FreshTokens g c) := by
  cases c <;> unfold FreshTokens <;> infer_instance

/-- The token of a claim event. -/
def claimToken : CustodyEvent String Instant → Option String
  | .claimed token _ _ => some token
  | _ => none

/-- An accepted end of a lease found the row under that lease. -/
theorem under_of_ended (store : OutboxStore) (db : Database) {c : OutboxCall}
    {id token : String} (hc : c.ends = some (id, token)) :
    store.machine.exec db c = (.error leaseLost, db) ∨
      ∃ r, underLease db id token = some r := by
  cases hlease : underLease db id token with
  | some r => exact Or.inr ⟨r, rfl⟩
  | none =>
    left
    cases c with
    | deferForQuota claimed nextAttemptAt now reasonCode =>
      obtain ⟨rfl, rfl⟩ := Prod.mk.inj (Option.some.inj hc)
      have hraise : deferForQuota claimed nextAttemptAt now reasonCode db = .error leaseLost := by
        unfold deferForQuota; rw [hlease]
      unfold machine perform
      simp only [Effect.exec_map, Effect.exec_atomically, StateT.run, hraise]
      rfl
    | complete claimed result now =>
      obtain ⟨rfl, rfl⟩ := Prod.mk.inj (Option.some.inj hc)
      have hraise : store.complete claimed result now db = .error leaseLost := by
        unfold complete; rw [hlease]
      unfold machine perform
      simp only [Effect.exec_map, Effect.exec_atomically, StateT.run, hraise]
      rfl
    | completeLease deliveryId leaseToken result now =>
      obtain ⟨rfl, rfl⟩ := Prod.mk.inj (Option.some.inj hc)
      have hraise : leaseRow deliveryId leaseToken db = .error leaseLost := by
        unfold leaseRow; rw [hlease]
      unfold machine perform completeLease
      simp only [Effect.exec_map, Effect.exec_bind, Effect.exec_query, hraise]
      rfl
    | enqueue request => exact absurd hc (by simp [OutboxCall.ends])
    | claim workerId now leaseFor accounts token => exact absurd hc (by simp [OutboxCall.ends])
    | leaseRow deliveryId leaseToken => exact absurd hc (by simp [OutboxCall.ends])
    | retryDead deadId actorUserId now => exact absurd hc (by simp [OutboxCall.ends])

/-- **Ended right after the claim, or refused.** -/
theorem Kept.ends {store : OutboxStore} {g : Stage Database OutboxCall Answer} (h : Kept g)
    {c : OutboxCall} {id token : String} (hc : c.ends = some (id, token)) :
    store.machine.exec g.state c = (.error leaseLost, g.state) ∨
      ∃ now expiresAt old, trace id g.log = .claimed token now expiresAt :: old := by
  rcases under_of_ended store g.state hc with hraise | ⟨r, hlease⟩
  · exact Or.inl hraise
  · obtain ⟨hfind, hunder⟩ := underLease_eq_some hlease
    have hs := h.shows id
    rw [hfind] at hs
    obtain ⟨cust, hcust, hshows⟩ := hs.of_some
    refine Or.inr (Custody.Lawful.ended_after_claim ?_)
    rw [hcust]
    exact hshows.holds hunder

/-- Only a claim hands a token out, and it is the token the claim drew. -/
theorem handedOut_eq_some {store : OutboxStore} {g : Stage Database OutboxCall Answer}
    (h : Kept g) {c : OutboxCall} {token : String}
    (hout : handedOut (store.machine.entry g.state c) = some token) :
    ∃ workerId now leaseFor accounts, c = .claim workerId now leaseFor accounts token := by
  -- no other reply is a claimed one
  have hother : ∀ {α : Type} (reply : α → OutboxReply) (m : Effect Database PyError α),
      (∀ a d, reply a ≠ OutboxReply.claimed (some d)) → store.perform c = reply <$> m → False := by
    intro α reply m hreply hperform
    unfold handedOut Machine.entry machine at hout
    simp only [hperform, Effect.exec_map] at hout
    cases hm : (m.exec g.state).1 with
    | error err => rw [hm] at hout; simp [Except.map] at hout
    | ok a =>
      rw [hm] at hout
      simp only [Except.map] at hout
      split at hout
      · next d heq => exact hreply a d (Except.ok.inj heq)
      · exact absurd hout (by simp)
  cases c with
  | claim workerId now leaseFor accounts token' =>
    refine ⟨workerId, now, leaseFor, accounts, ?_⟩
    rcases claim_cases workerId now leaseFor accounts token' h.readable with
      ⟨-, hnone, -⟩ | ⟨row, message, -, -, hanswer, -, -⟩
    · unfold handedOut Machine.entry machine perform at hout
      simp only [Effect.exec_map] at hout
      split at hout
      · next d heq =>
        cases hclaim : ((claim workerId now leaseFor accounts token').exec g.state).1 with
        | error err => rw [hclaim] at heq; simp [Except.map] at heq
        | ok o =>
          rw [hclaim] at heq
          simp only [Except.map, Except.ok.injEq, OutboxReply.claimed.injEq] at heq
          exact absurd (heq ▸ hclaim) (hnone d)
      · exact absurd hout (by simp)
    · unfold handedOut Machine.entry machine perform at hout
      simp only [Effect.exec_map, hanswer, Except.map, Option.some.injEq] at hout
      rw [← hout]
      rfl
  | enqueue request => exact (hother _ _ (by simp) rfl).elim
  | deferForQuota claimed nextAttemptAt now reasonCode => exact (hother _ _ (by simp) rfl).elim
  | complete claimed result now => exact (hother _ _ (by simp) rfl).elim
  | leaseRow deliveryId leaseToken => exact (hother _ _ (by simp) rfl).elim
  | completeLease deliveryId leaseToken result now => exact (hother _ _ (by simp) rfl).elim
  | retryDead deadId actorUserId now => exact (hother _ _ (by simp) rfl).elim

/-- With fresh tokens no two claims of a run issue the same one. -/
theorem handedOut_nodup {store : OutboxStore} {db : Database}
    {g : Stage Database OutboxCall Answer} (hrows : db.outboxDeliveries = ∅)
    (hletters : db.deadLetters = ∅) (h : store.machine.Reaches FreshTokens (Machine.start db) g) :
    (g.log.filterMap handedOut).Nodup := by
  have hinv : Kept g ∧ (g.log.filterMap handedOut).Nodup := by
    refine Machine.Reaches.invariant (I := fun g => Kept g ∧ (g.log.filterMap handedOut).Nodup)
      ⟨Kept.initial hrows hletters, List.nodup_nil⟩ h ?_
    rintro g c hfresh ⟨hkept, hnodup⟩
    refine ⟨hkept.step store c, ?_⟩
    rw [Machine.advance_log, List.filterMap_cons]
    cases hout : handedOut (store.machine.entry g.state c) with
    | none => exact hnodup
    | some token =>
      obtain ⟨workerId, now, leaseFor, accounts, rfl⟩ := handedOut_eq_some hkept hout
      exact List.nodup_cons.mpr ⟨hfresh, hnodup⟩
  exact hinv.2

theorem endedBy_not_claim (token : String) (status : DeliveryStatus) :
    claimToken (endedBy token status) = none := by
  cases status <;> rfl

/-- What an entry logged as a claim is. -/
theorem event_claim {id token : String} {e : Entry OutboxCall Answer}
    {ev : CustodyEvent String Instant} (hev : event id e = some ev)
    (hclaim : claimToken ev = some token) :
    ∃ workerId now leaseFor accounts drawn d,
      e.call = .claim workerId now leaseFor accounts drawn ∧
      e.outcome = .ok (.claimed (some d)) ∧ d.id = id ∧
      ev = .claimed d.leaseToken now d.leaseExpiresAt := by
  unfold event at hev
  split at hev
  · split_ifs at hev; obtain rfl := Option.some.inj hev; exact absurd hclaim (by simp [claimToken])
  · next workerId now leaseFor accounts drawn d hcall hout =>
    split_ifs at hev with hid
    obtain rfl := Option.some.inj hev
    exact ⟨workerId, now, leaseFor, accounts, drawn, d, hcall, hout, hid.symm, rfl⟩
  · split_ifs at hev; obtain rfl := Option.some.inj hev; exact absurd hclaim (by simp [claimToken])
  · split_ifs at hev; obtain rfl := Option.some.inj hev
    rw [endedBy_not_claim] at hclaim; exact absurd hclaim (by simp)
  · split_ifs at hev; obtain rfl := Option.some.inj hev
    rw [endedBy_not_claim] at hclaim; exact absurd hclaim (by simp)
  · split_ifs at hev; obtain rfl := Option.some.inj hev; exact absurd hclaim (by simp [claimToken])
  · exact absurd hev (by simp)

/-- The claims in a trace are among the hand-outs of the log. -/
theorem claimTokens_sublist (id : String) (log : List (Entry OutboxCall Answer)) :
    ((trace id log).filterMap claimToken).Sublist (log.filterMap handedOut) := by
  induction log with
  | nil => exact .slnil
  | cons e log ih =>
    have htail : (log.filterMap handedOut).Sublist ((e :: log).filterMap handedOut) :=
      (List.sublist_cons_self e log).filterMap _
    rw [trace_cons, List.filterMap_append]
    cases hev : event id e with
    | none => exact ih.trans htail
    | some ev =>
      rw [Option.toList_some, List.filterMap_cons, List.filterMap_nil]
      cases hclaim : claimToken ev with
      | none => exact ih.trans htail
      | some token =>
        obtain ⟨workerId, now, leaseFor, accounts, drawn, d, -, hout, -, rfl⟩ :=
          event_claim hev hclaim
        have htoken : d.leaseToken = token := Option.some.inj hclaim
        have hhanded : handedOut e = some token := by
          unfold handedOut; rw [hout, ← htoken]
        rw [List.filterMap_cons, hhanded]
        exact ih.cons_cons token

/-- **Leases are exclusive.** In every run whose claims draw fresh tokens, for
every delivery:

* a call that ends a lease is accepted only when the claim that issued its
  token is the last thing that happened to the delivery, and is refused, with
  nothing written, otherwise;
* in particular it is refused once the claim has been followed by anything: an
  accepted end, a later claim, a retry;
* a delivery whose last event is a claim is handed out only when that lease
  has expired. -/
theorem lease_exclusive (store : OutboxStore) {db : Database}
    {g : Stage Database OutboxCall Answer} (hrows : db.outboxDeliveries = ∅)
    (hletters : db.deadLetters = ∅)
    (hrun : store.machine.Reaches FreshTokens (Machine.start db) g) (id : String) :
    (∀ c token, c.ends = some (id, token) →
      (∃ now expiresAt old, trace id g.log = .claimed token now expiresAt :: old) ∨
        store.machine.exec g.state c = (.error leaseLost, g.state)) ∧
    (∀ c token now expiresAt new old, c.ends = some (id, token) →
      trace id g.log = new ++ .claimed token now expiresAt :: old → new ≠ [] →
        store.machine.exec g.state c = (.error leaseLost, g.state)) ∧
    (∀ workerId now leaseFor accounts token d held since expiresAt old,
      (store.machine.exec g.state (.claim workerId now leaseFor accounts token)).1 =
        .ok (.claimed (some d)) → d.id = id →
      trace id g.log = .claimed held since expiresAt :: old → expiresAt ≤ now) := by
  have hkept := kept_of_reaches hrows hletters hrun
  refine ⟨fun c token hc => (hkept.ends hc).symm, ?_, ?_⟩
  · intro c token now expiresAt new old hc htrace hnew
    refine (hkept.ends hc).resolve_right ?_
    rintro ⟨now', expiresAt', old', hlast⟩
    -- the token would have been issued twice
    obtain ⟨e, new', rfl⟩ := List.exists_cons_of_ne_nil hnew
    rw [hlast, List.cons_append, List.cons.injEq] at htrace
    obtain ⟨rfl, rfl⟩ := htrace
    have hnodup := (handedOut_nodup hrows hletters hrun).sublist (claimTokens_sublist id g.log)
    rw [hlast] at hnodup
    simp [claimToken] at hnodup
  · intro workerId now leaseFor accounts token d held since expiresAt old hout hid htrace
    have hlawful := (hkept.step store (.claim workerId now leaseFor accounts token)).lawful id
    rw [Machine.advance_log, trace_cons] at hlawful
    have hev : event id (store.machine.entry g.state
        (.claim workerId now leaseFor accounts token)) =
        some (.claimed d.leaseToken now d.leaseExpiresAt) := by
      unfold Machine.entry event
      rw [hout]
      simp [hid]
    rw [hev, htrace] at hlawful
    exact Custody.Lawful.claimed_after_claim hlawful

/-! ### Runs on one delivery -/

/-- A store with one user. -/
def oneUser : Database := { users := .single ⟨"alice", "Alice", true⟩ }

def defaultStore : OutboxStore := .standard

def greeting : OutboundMessage where
  channel := "qq"
  channelAccount := "main"
  targetRef := "actor_1"
  kind := .text
  text := "good morning"
  account_nonblank := by decide
  target_nonblank := by decide
  content := by decide
  replyContext_short := noReplyContext_short
  ordinary := personal_ordinary

/-- The message enqueued for at most `maxAttempts` attempts. -/
def enqueueGreeting (maxAttempts : Int) : OutboxCall :=
  .enqueue {
    deliveryId := "d1", idempotencyKey := "k1", ownerUserId := "alice", message := greeting
    now := 0, maxAttempts }

/-- A claim at a second of the run, for a lease of half a minute. -/
def claimAt (second : Int) (token : String) : OutboxCall :=
  .claim "worker" (Duration.seconds second) (Duration.seconds 30) none token

/-- A completion of the delivery under a token. -/
def completeAt (second : Int) (token : String) (result : ChannelDeliveryResult) : OutboxCall :=
  .complete {
    id := "d1", ownerUserId := "alice", idempotencyKey := "k1", message := greeting
    priority := 30, attempts := 1, maxAttempts := 5, leaseToken := token
    leaseExpiresAt := Duration.seconds (second + 30) } result (Duration.seconds second)

/-- The first worker's lease has run out and a second worker holds the next. -/
def overtaken : List OutboxCall := [enqueueGreeting 5, claimAt 1 "first", claimAt 40 "second"]

/-- A worker that has been overtaken can complete nothing. -/
theorem lease_exclusive_overtaken :
    defaultStore.machine.exec (defaultStore.machine.replay (Machine.start oneUser) overtaken).state
        (completeAt 41 "first" ⟨true, false, "", ""⟩) =
      (.error leaseLost,
        (defaultStore.machine.replay (Machine.start oneUser) overtaken).state) :=
  (lease_exclusive defaultStore rfl rfl (Machine.Reaches.of_follows (by decide)) "d1").2.1
    (completeAt 41 "first" ⟨true, false, "", ""⟩) "first" (Duration.seconds 1)
    (Duration.seconds 31) [.claimed "second" (Duration.seconds 40) (Duration.seconds 70)]
    [.created 5] rfl (by decide) (by decide)

/-! ### Sent is final, while letters are retried once -/

/-- A retry names a letter that has not been retried since it was written. -/
def RetriesOnce (g : Stage Database OutboxCall Answer) : OutboxCall → Prop
  | .retryDead deadId _ _ =>
    ∀ letter, g.state.deadLetters.find? deadId = some letter → letter.retriedAt = none
  | _ => True

instance (g : Stage Database OutboxCall Answer) (c : OutboxCall) :
    Decidable (RetriesOnce g c) := by
  cases c with
  | retryDead deadId actorUserId now =>
    exact decidable_of_iff (∀ l ∈ g.state.deadLetters.find? deadId, l.retriedAt = none) Iff.rfl
  | _ => exact inferInstanceAs (Decidable True)

/-- A dead letter tells whether its delivery is dead: it does until it is
retried. -/
def LettersTell (db : Database) : Prop :=
  ∀ l ∈ db.deadLetters.rows, ∃ r, db.outboxDeliveries.find? l.deliveryId = some r ∧
    (l.retriedAt = none ↔ r.status = .dead)

/-- What an entry logged as a retry is. -/
theorem event_revived {id : String} {e : Entry OutboxCall Answer}
    (hev : event id e = some .revived) :
    ∃ actorUserId now, e.call = .retryDead (deadLetterId id) actorUserId now ∧
      e.outcome = .ok (.retried true) := by
  unfold event at hev
  split at hev
  · split_ifs at hev; exact absurd hev (by simp)
  · split_ifs at hev; exact absurd hev (by simp)
  · split_ifs at hev; exact absurd hev (by simp)
  · next status hcall hout =>
    split_ifs at hev
    cases status <;> exact absurd hev (by simp [endedBy])
  · next status hcall hout =>
    split_ifs at hev
    cases status <;> exact absurd hev (by simp [endedBy])
  · next deadId actorUserId now hcall hout =>
    split_ifs at hev with hid
    exact ⟨actorUserId, now, by rw [hcall, hid], hout⟩
  · exact absurd hev (by simp)

/-- A retry that is accepted found its letter. -/
theorem letter_of_retried {store : OutboxStore} {db : Database} {deadId actorUserId : String}
    {now : Instant}
    (h : (store.machine.exec db (.retryDead deadId actorUserId now)).1 = .ok (.retried true)) :
    ∃ letter, db.deadLetters.find? deadId = some letter := by
  cases hfind : db.deadLetters.find? deadId with
  | some letter => exact ⟨letter, rfl⟩
  | none =>
    have hfalse : retryDead deadId actorUserId now db = .ok (false, db) := by
      unfold retryDead; rw [hfind]
    unfold machine perform at h
    simp only [Effect.exec_map, Effect.exec_atomically, StateT.run, hfalse, Except.map,
      Except.ok.injEq, OutboxReply.retried.injEq] at h
    exact absurd h (by simp)

/-- While letters tell, a retry restarts a dead delivery or none. -/
theorem dead_of_revived {store : OutboxStore} {g : Stage Database OutboxCall Answer}
    (hkept : Kept g) (htell : LettersTell g.state) {c : OutboxCall} (hguard : RetriesOnce g c)
    {id : String} (hev : event id (store.machine.entry g.state c) = some .revived)
    {r : OutboxDelivery} (hr : g.state.outboxDeliveries.find? id = some r) :
    r.status = .dead := by
  obtain ⟨actorUserId, now, hcall, hout⟩ := event_revived hev
  change c = _ at hcall
  subst hcall
  obtain ⟨letter, hfind⟩ := letter_of_retried hout
  obtain ⟨r', hr', htells⟩ := htell letter (Table.mem_of_find? hfind)
  -- the letter found is the one of this delivery
  have hid : deadLetterId letter.deliveryId = deadLetterId id :=
    (hkept.letters letter (Table.mem_of_find? hfind)).1.symm.trans (Table.key_of_find? hfind)
  rw [deadLetterId_injective hid, hr] at hr'
  obtain rfl := Option.some.inj hr'
  exact htells.mp (hguard letter hfind)

/-- Nothing but a retry touches a row that is neither waiting nor leased. -/
theorem RowStep.status {r r' : OutboxDelivery} {ev : CustodyEvent String Instant}
    (h : RowStep r r' ev) (hev : ev ≠ .revived) : r.status ≠ .dead ∧ r.status ≠ .sent := by
  have hunder : ∀ token, Under r token → r.status ≠ .dead ∧ r.status ≠ .sent := by
    intro token hu
    rw [hu.1]
    exact ⟨by decide, by decide⟩
  cases ev with
  | created limit => exact h.elim
  | claimed token now expiresAt =>
    have havail := h.1
    unfold isAvailable isWaiting isExpired at havail
    refine ⟨fun hdead => ?_, fun hsent => ?_⟩
    · rw [hdead] at havail; exact absurd havail (by simp)
    · rw [hsent] at havail; exact absurd havail (by simp)
  | returned token | finished token | failed token | buried token => exact hunder token h.1
  | revived => exact absurd rfl hev

/-- **Letters keep telling**, whatever is called. -/
theorem LettersTell.step {store : OutboxStore} {g : Stage Database OutboxCall Answer}
    (htell : LettersTell g.state) (hkept : Kept g) (c : OutboxCall) :
    LettersTell (store.machine.advance g c).state := by
  rw [Machine.advance_state]
  cases written store hkept c with
  | nothing quiet same => rw [same]; exact htell
  | created request logged limit fresh rows letters =>
    intro l hl
    rw [letters] at hl
    obtain ⟨r, hr, htells⟩ := htell l hl
    refine ⟨r, ?_, htells⟩
    have hne : l.deliveryId ≠ request.deliveryId := by
      intro heq
      rw [heq, fresh] at hr
      exact absurd hr (by simp)
    rw [rows, if_neg hne]
    exact hr
  | changed id ev r r' logged found rows same step letters =>
    have hothers : ∀ l ∈ g.state.deadLetters.rows, l.deliveryId ≠ id →
        ∃ r, (store.machine.exec g.state c).2.outboxDeliveries.find? l.deliveryId = some r ∧
          (l.retriedAt = none ↔ r.status = .dead) := by
      intro l hl hne
      obtain ⟨r₀, hr₀, htells⟩ := htell l hl
      exact ⟨r₀, by rw [rows, if_neg hne]; exact hr₀, htells⟩
    have hrow : (store.machine.exec g.state c).2.outboxDeliveries.find? id = some r' := by
      rw [rows, if_pos rfl]
    -- an event that leaves the letters alone moves between states that are not dead
    have halive : ev ≠ .revived → r'.status ≠ .dead →
        (store.machine.exec g.state c).2.deadLetters.rows = g.state.deadLetters.rows →
        LettersTell (store.machine.exec g.state c).2 := by
      intro hev hr' hsame l hl
      rw [hsame] at hl
      by_cases hid : l.deliveryId = id
      · obtain ⟨r₀, hr₀, htells⟩ := htell l hl
        rw [hid, found] at hr₀
        obtain rfl := Option.some.inj hr₀
        refine ⟨r', by rw [hid]; exact hrow, ?_⟩
        exact ⟨fun hn => absurd (htells.mp hn) (step.status hev).1, fun hd => absurd hd hr'⟩
      · exact hothers l hl hid
    cases ev with
    | created limit => exact step.elim
    | claimed token now expiresAt =>
      exact halive (by simp) (by rw [step.2.1]; decide) letters
    | returned token => exact halive (by simp) (by rw [step.2.1]; decide) letters
    | finished token => exact halive (by simp) (by rw [step.2.1]; decide) letters
    | failed token => exact halive (by simp) (by rw [step.2.2.1]; decide) letters
    | buried token =>
      intro l hl
      rcases letters l hl with ⟨hold, hne⟩ | ⟨-, hid, hnone⟩
      · exact hothers l hold hne
      · exact ⟨r', by rw [hid]; exact hrow, by rw [hnone, step.2.1]; simp⟩
    | revived =>
      intro l hl
      rcases letters l hl with ⟨hold, hne⟩ | ⟨-, hid, hsome⟩
      · exact hothers l hold hne
      · refine ⟨r', by rw [hid]; exact hrow, ?_⟩
        rw [step.1]
        exact ⟨fun hn => absurd hn hsome, fun hd => absurd hd (by decide)⟩

theorem lettersTell_of_reaches {store : OutboxStore} {guard : Stage Database OutboxCall Answer →
    OutboxCall → Prop} {db : Database} {g : Stage Database OutboxCall Answer}
    (hrows : db.outboxDeliveries = ∅) (hletters : db.deadLetters = ∅)
    (h : store.machine.Reaches guard (Machine.start db) g) : Kept g ∧ LettersTell g.state := by
  refine Machine.Reaches.invariant (I := fun g => Kept g ∧ LettersTell g.state)
    ⟨Kept.initial hrows hletters, ?_⟩ h ?_
  · intro l hl
    rw [Machine.start_state, hletters] at hl
    exact absurd hl (by simp)
  · rintro g c - ⟨hkept, htell⟩
    exact ⟨hkept.step store c, htell.step hkept c⟩

/-- An entry that hands a delivery out is logged as a claim of it. -/
theorem event_of_claimed {store : OutboxStore} {g : Stage Database OutboxCall Answer}
    (hkept : Kept g) {c : OutboxCall} {d : ClaimedDelivery}
    (hout : (store.machine.exec g.state c).1 = .ok (.claimed (some d))) :
    ∃ now, event d.id (store.machine.entry g.state c) =
      some (.claimed d.leaseToken now d.leaseExpiresAt) := by
  have hhanded : handedOut (store.machine.entry g.state c) = some d.leaseToken := by
    unfold handedOut Machine.entry
    rw [hout]
  obtain ⟨workerId, now, leaseFor, accounts, rfl⟩ := handedOut_eq_some hkept hhanded
  refine ⟨now, ?_⟩
  unfold Machine.entry event
  rw [hout]
  simp

/-- A sent delivery is left alone by every call but a second retry. -/
theorem sent_step (store : OutboxStore) {g : Stage Database OutboxCall Answer}
    (hkept : Kept g) (htell : LettersTell g.state) {c : OutboxCall} (hguard : RetriesOnce g c)
    {id : String} (hsent : getStatus g.state id = some .sent) :
    getStatus (store.machine.advance g c).state id = some .sent ∧
      event id (store.machine.entry g.state c) = none := by
  unfold getStatus at hsent ⊢
  rw [Option.map_eq_some_iff] at hsent
  obtain ⟨r, hr, hstatus⟩ := hsent
  rw [Machine.advance_state]
  cases written store hkept c with
  | nothing quiet same => rw [same, hr]; exact ⟨by simp [hstatus], quiet id⟩
  | created request logged limit fresh rows letters =>
    have hne : id ≠ request.deliveryId := by
      rintro rfl
      rw [fresh] at hr
      exact absurd hr (by simp)
    rw [rows, logged, if_neg hne, if_neg hne, hr]
    exact ⟨by simp [hstatus], rfl⟩
  | changed id' ev r₁ r' logged found rows same step letters =>
    have hne : id ≠ id' := by
      rintro rfl
      rw [hr] at found
      obtain rfl := Option.some.inj found
      by_cases hev : ev = .revived
      · subst hev
        have hdead := dead_of_revived hkept htell hguard (by rw [logged, if_pos rfl]) hr
        rw [hstatus] at hdead
        exact absurd hdead (by decide)
      · exact (step.status hev).2 hstatus
    rw [rows, logged, if_neg hne, if_neg hne, hr]
    exact ⟨by simp [hstatus], rfl⟩

/-- From one stage to a later one, a sent delivery stays sent and is never handed
out. -/
def SentStays (id : String) (g g' : Stage Database OutboxCall Answer) : Prop :=
  getStatus g.state id = some .sent → getStatus g'.state id = some .sent ∧
    ∀ new, g'.log = new ++ g.log → ∀ e ∈ new, ∀ d, e.outcome = .ok (.claimed (some d)) → d.id ≠ id

/-- A retry leaves every delivery that is not dead as it is. -/
def RestartsOnlyDead (store : OutboxStore) (db : Database) (c : OutboxCall) : Prop :=
  ∀ deadId actorUserId now, c = .retryDead deadId actorUserId now →
    ∀ id r, db.outboxDeliveries.find? id = some r → r.status ≠ .dead →
      (store.machine.exec db c).2.outboxDeliveries.find? id = some r

theorem sentStays_of_reaches {store : OutboxStore} {g g' : Stage Database OutboxCall Answer}
    (hkept : Kept g) (htell : LettersTell g.state)
    (hlater : store.machine.Reaches RetriesOnce g g') (id : String) : SentStays id g g' := by
  intro hsent
  have hinv : (Kept g' ∧ LettersTell g'.state) ∧ getStatus g'.state id = some .sent ∧
      ∃ new, g'.log = new ++ g.log ∧
        ∀ e ∈ new, ∀ d, e.outcome = .ok (.claimed (some d)) → d.id ≠ id := by
    refine Machine.Reaches.stable (I := fun g' => (Kept g' ∧ LettersTell g'.state) ∧
      getStatus g'.state id = some .sent ∧ ∃ new, g'.log = new ++ g.log ∧
        ∀ e ∈ new, ∀ d, e.outcome = .ok (.claimed (some d)) → d.id ≠ id)
      ⟨⟨hkept, htell⟩, hsent, [], rfl, by simp⟩ hlater ?_
    rintro g₁ c hguard ⟨⟨hkept₁, htell₁⟩, hsent₁, new, hlog, hnew⟩
    obtain ⟨hsent₂, hquiet⟩ := sent_step store hkept₁ htell₁ hguard hsent₁
    refine ⟨⟨hkept₁.step store c, htell₁.step hkept₁ c⟩, hsent₂,
      store.machine.entry g₁.state c :: new, by rw [Machine.advance_log, hlog]; rfl, ?_⟩
    intro e he d hout hid
    rcases List.mem_cons.mp he with rfl | he
    · obtain ⟨now, hev⟩ := event_of_claimed hkept₁ hout
      rw [hid, hquiet] at hev
      exact absurd hev (by simp)
    · exact hnew e he d hout hid
  obtain ⟨-, hsent', new, hlog, hnew⟩ := hinv
  refine ⟨hsent', fun new' hlog' => ?_⟩
  rw [hlog, List.append_left_inj] at hlog'
  exact hlog' ▸ hnew

/-- **Sent is final, while letters are retried once.** In every run that retries
no letter a second time, a delivery that is sent stays sent and is never handed
out again, and a retry changes a delivery only if it is dead. The condition is
exact for the second part: a second retry restarts a delivery that is not
dead. -/
theorem sent_final (store : OutboxStore) {db : Database}
    {g g' : Stage Database OutboxCall Answer} (hrows : db.outboxDeliveries = ∅)
    (hletters : db.deadLetters = ∅)
    (hrun : store.machine.Reaches RetriesOnce (Machine.start db) g)
    (hlater : store.machine.Reaches RetriesOnce g g') :
    (∀ id, SentStays id g g') ∧
    (∀ c, RetriesOnce g' c → RestartsOnlyDead store g'.state c) ∧
    (∀ deadId actorUserId now, ¬ RetriesOnce g' (.retryDead deadId actorUserId now) →
      ∃ id r, g'.state.outboxDeliveries.find? id = some r ∧ r.status ≠ .dead ∧
        (store.machine.exec g'.state (.retryDead deadId actorUserId now)).2.outboxDeliveries.find?
          id = some (restarted now r)) := by
  obtain ⟨hkept, htell⟩ := lettersTell_of_reaches hrows hletters hrun
  obtain ⟨hkept', htell'⟩ := lettersTell_of_reaches hrows hletters (hrun.trans hlater)
  refine ⟨sentStays_of_reaches hkept htell hlater, ?_, ?_⟩
  · rintro c hguard deadId actorUserId now rfl id r hr hdead
    cases written store hkept' (.retryDead deadId actorUserId now) with
    | nothing quiet same => rw [same]; exact hr
    | created request logged limit fresh rows letters =>
      have hne : id ≠ request.deliveryId := by
        rintro rfl
        rw [fresh] at hr
        exact absurd hr (by simp)
      rw [rows, if_neg hne]
      exact hr
    | changed id' ev r₁ r' logged found rows same step letters =>
      by_cases hid : id = id'
      · subst hid
        rw [hr] at found
        obtain rfl := Option.some.inj found
        -- only a retry of its own letter changes the row, and then it was dead
        have hev := logged id
        rw [if_pos rfl] at hev
        have hrev : ev = .revived := by
          unfold Machine.entry event at hev
          split at hev
          all_goals first
            | (split_ifs at hev; exact (Option.some.inj hev).symm)
            | simp_all
        subst hrev
        exact absurd (dead_of_revived hkept' htell' hguard hev hr) hdead
      · rw [rows, if_neg hid]
        exact hr
  · intro deadId actorUserId now hguard
    unfold RetriesOnce at hguard
    push Not at hguard
    obtain ⟨letter, hfind, hretried⟩ := hguard
    obtain ⟨r, hr, htells⟩ := htell' letter (Table.mem_of_find? hfind)
    refine ⟨letter.deliveryId, r, hr, fun hdead => hretried (htells.mpr hdead), ?_⟩
    cases hout : retryDead deadId actorUserId now g'.state with
    | error err => unfold retryDead at hout; rw [hfind] at hout; exact absurd hout (by simp)
    | ok p =>
      obtain ⟨found, db'⟩ := p
      rcases retryDead_cases hout with ⟨rfl, -⟩ | ⟨rfl, letter', hfind', hnew, -⟩
      · unfold retryDead at hout; rw [hfind] at hout; simp at hout
      · rw [hfind] at hfind'
        obtain rfl := Option.some.inj hfind'
        unfold machine perform
        simp only [Effect.exec_map, Effect.exec_atomically, StateT.run, hout]
        rw [hnew]
        exact (find?_writeDelivery hr (restarted now) (by intro _; rfl) letter.deliveryId).trans
          (if_pos rfl)

/-- A delivery that dies, is retried by hand, and is then sent. -/
def sentAfterRetry : List OutboxCall :=
  [enqueueGreeting 5, claimAt 1 "first", completeAt 2 "first" ⟨false, false, "blocked", ""⟩,
    .retryDead "dead_d1" "admin" (Duration.seconds 3), claimAt 4 "second",
    completeAt 5 "second" ⟨true, false, "", "m1"⟩]

/-- The administrator retries the old letter once more, and a worker claims. -/
def retriedAgain : List OutboxCall :=
  [.retryDead "dead_d1" "admin" (Duration.seconds 6), claimAt 7 "third"]

theorem sent_final_once :
    SentStays "d1" (defaultStore.machine.replay (Machine.start oneUser) sentAfterRetry)
      (defaultStore.machine.replay
        (defaultStore.machine.replay (Machine.start oneUser) sentAfterRetry)
        [claimAt 6 "third"]) :=
  (sent_final defaultStore rfl rfl (Machine.Reaches.of_follows (by decide))
    (Machine.Reaches.of_follows (by decide))).1 "d1"

/-- **A sent delivery is sent again.** The second retry of a dead letter restarts
a delivery that has been sent, and the next claim hands it out. -/
theorem sent_is_resent :
    ¬ ∀ g g', defaultStore.machine.Reaches (fun _ _ => True) (Machine.start oneUser) g →
      defaultStore.machine.Reaches (fun _ _ => True) g g' → SentStays "d1" g g' := by
  intro hall
  have hfirst : defaultStore.machine.Follows (fun _ _ => True) (Machine.start oneUser)
      sentAfterRetry := by decide
  have hthen : defaultStore.machine.Follows (fun _ _ => True)
      (defaultStore.machine.replay (Machine.start oneUser) sentAfterRetry) retriedAgain := by decide
  have hstays := hall _ _ (Machine.Reaches.of_follows hfirst) (Machine.Reaches.of_follows hthen)
  exact absurd (hstays (by decide)).1 (by decide)

/-! ### Attempts are bounded, while no exhausted lease is reclaimed -/

/-- A claim does not pick a delivery whose last attempt has been used up under a
lease that expired. -/
def SparesExhausted (g : Stage Database OutboxCall Answer) : OutboxCall → Prop
  | .claim workerId now leaseFor accounts _ =>
    ClaimValid workerId now leaseFor → ∀ row, nextDue g.state now accounts = some row →
      row.status = .sending → row.attempts < row.maxAttempts
  | _ => True

instance (workerId : String) (now : Instant) (leaseFor : Duration) :
    Decidable (ClaimValid workerId now leaseFor) := by
  unfold ClaimValid; infer_instance

instance (g : Stage Database OutboxCall Answer) (c : OutboxCall) :
    Decidable (SparesExhausted g c) := by
  cases c with
  | claim workerId now leaseFor accounts token =>
    exact decidable_of_iff (ClaimValid workerId now leaseFor →
      ∀ row ∈ nextDue g.state now accounts,
        row.status = .sending → row.attempts < row.maxAttempts) Iff.rfl
  | _ => exact inferInstanceAs (Decidable True)

/-- The bound on the attempts of a delivery and on its hand-outs for sending: those
since its creation or last retry that were not deferred for quota. -/
def AttemptsBounded (g : Stage Database OutboxCall Answer) : Prop :=
  ∀ id r, g.state.outboxDeliveries.find? id = some r →
    r.attempts ≤ r.maxAttempts ∧
      (Custody.handOuts (trace id g.log) : Int) ≤
        r.maxAttempts + Custody.returns (trace id g.log)

/-- The row a claim hands out is the next one, with one attempt more. -/
theorem claimed_row {store : OutboxStore} {g : Stage Database OutboxCall Answer} (hkept : Kept g)
    {workerId : String} {now : Instant} {leaseFor : Duration}
    {accounts : Option (List (String × String))} {token : String} {d : ClaimedDelivery}
    (hout : (store.machine.exec g.state (.claim workerId now leaseFor accounts token)).1 =
      .ok (.claimed (some d))) :
    ClaimValid workerId now leaseFor ∧
      ∃ row, nextDue g.state now accounts = some row ∧ row.id = d.id := by
  unfold machine perform at hout
  simp only [Effect.exec_map] at hout
  rcases claim_cases workerId now leaseFor accounts token hkept.readable with
    ⟨-, hnone, -⟩ | ⟨row, message, hnext, hvalid, hanswer, -, -⟩
  · cases hclaim : ((claim workerId now leaseFor accounts token).exec g.state).1 with
    | error err => rw [hclaim] at hout; simp [Except.map] at hout
    | ok o =>
      rw [hclaim] at hout
      simp only [Except.map, Except.ok.injEq, OutboxReply.claimed.injEq] at hout
      exact absurd (hout ▸ hclaim) (hnone d)
  · rw [hanswer] at hout
    simp only [Except.map, Except.ok.injEq, OutboxReply.claimed.injEq, Option.some.injEq] at hout
    exact ⟨hvalid, row, hnext, by rw [← hout]; rfl⟩

/-- A claim that spares exhausted deliveries keeps every trace prudent. -/
theorem prudent_step {store : OutboxStore} {g : Stage Database OutboxCall Answer} (hkept : Kept g)
    (hprudent : ∀ id, Custody.Prudent (trace id g.log)) {c : OutboxCall}
    (hguard : SparesExhausted g c) (id : String) :
    Custody.Prudent (trace id (store.machine.advance g c).log) := by
  rw [Machine.advance_log, trace_cons]
  cases hev : event id (store.machine.entry g.state c) with
  | none => exact hprudent id
  | some ev =>
    refine ⟨fun hclaim cust hcust hleased => ?_, hprudent id⟩
    obtain ⟨token, htoken⟩ : ∃ token, claimToken ev = some token := by
      cases ev <;> first | exact ⟨_, rfl⟩ | exact absurd hclaim (by simp [CustodyEvent.isClaim])
    obtain ⟨workerId, now, leaseFor, accounts, drawn, d, hcall, hout, rfl, -⟩ :=
      event_claim hev htoken
    change c = _ at hcall
    subst hcall
    obtain ⟨hvalid, row, hnext, hid⟩ := claimed_row hkept hout
    have hshows : Shows row cust := by
      have hs := hkept.shows d.id
      rw [← hid, (nextDue_spec hnext).1] at hs
      obtain ⟨cust', hcust', hshows⟩ := hs.of_some
      rw [hid] at hcust'
      change Custody.after (trace d.id g.log) = some cust at hcust
      rw [hcust] at hcust'
      obtain rfl := Option.some.inj hcust'
      exact hshows
    -- the row is under an expired lease, so the guard speaks about it
    obtain ⟨token', expiresAt, hphase⟩ := hleased
    have hstatus := hshows.phase
    rw [hphase] at hstatus
    have hlt := hguard hvalid row hnext hstatus.1
    rw [hshows.attempts, hshows.limit] at hlt
    exact_mod_cast hlt

theorem attemptsBounded_of {g : Stage Database OutboxCall Answer} (hkept : Kept g)
    (hprudent : ∀ id, Custody.Prudent (trace id g.log)) : AttemptsBounded g := by
  intro id r hr
  have hs := hkept.shows id
  rw [hr] at hs
  obtain ⟨cust, hcust, hshows⟩ := hs.of_some
  have hle := ((hkept.lawful id).attempts_le (hprudent id) hcust).1
  have hhand := (hkept.lawful id).handOuts_le (hprudent id) hcust
  refine ⟨?_, ?_⟩
  · rw [hshows.attempts, hshows.limit]
    exact_mod_cast hle
  · rw [hshows.limit]
    exact_mod_cast hhand

/-- **Attempts are bounded, while no exhausted lease is reclaimed.** In every run
whose claims spare deliveries that have used up their attempts, no delivery has
more attempts than its limit, and none is handed out for sending more often than
that between its creation or last retry and the next. The condition is exact:
the first claim that does not meet it breaks the bound. -/
theorem attempts_bounded (store : OutboxStore) {db : Database}
    {g : Stage Database OutboxCall Answer} (hrows : db.outboxDeliveries = ∅)
    (hletters : db.deadLetters = ∅)
    (hrun : store.machine.Reaches SparesExhausted (Machine.start db) g) :
    AttemptsBounded g ∧
      ∀ c, AttemptsBounded (store.machine.advance g c) ↔ SparesExhausted g c := by
  have hinv : Kept g ∧ ∀ id, Custody.Prudent (trace id g.log) := by
    refine Machine.Reaches.invariant
      (I := fun g => Kept g ∧ ∀ id, Custody.Prudent (trace id g.log))
      ⟨Kept.initial hrows hletters, fun id => trivial⟩ hrun ?_
    rintro g c hguard ⟨hkept, hprudent⟩
    exact ⟨hkept.step store c, prudent_step hkept hprudent hguard⟩
  obtain ⟨hkept, hprudent⟩ := hinv
  refine ⟨attemptsBounded_of hkept hprudent, fun c => ⟨fun hbound => ?_, fun hguard => ?_⟩⟩
  · cases c with
    | claim workerId now leaseFor accounts token =>
      intro hvalid row hnext hsending
      rcases claim_cases workerId now leaseFor accounts token hkept.readable with
        ⟨-, -, hnone⟩ | ⟨row', message, hnext', -, -, -, hrows'⟩
      · rw [hnone hvalid] at hnext
        exact absurd hnext (by simp)
      · rw [hnext] at hnext'
        obtain rfl := Option.some.inj hnext'
        -- the claim adds one attempt
        have hafter := (hbound row.id (leased workerId token now (now + leaseFor) row) (by
          rw [Machine.advance_state]
          unfold machine perform
          simp only [Effect.exec_map]
          rw [hrows', if_pos rfl])).1
        have hatt : (leased workerId token now (now + leaseFor) row).attempts =
          row.attempts + 1 := rfl
        have hmax : (leased workerId token now (now + leaseFor) row).maxAttempts =
          row.maxAttempts := rfl
        rw [hatt, hmax] at hafter
        omega
    | _ => trivial
  · exact attemptsBounded_of (hkept.step store c) (prudent_step hkept hprudent hguard)

/-- One attempt is allowed, and the worker that makes it never reports back. -/
def workerDies : List OutboxCall := [enqueueGreeting 1, claimAt 1 "first", claimAt 40 "second"]

theorem attempts_bounded_first :
    AttemptsBounded (defaultStore.machine.replay (Machine.start oneUser)
      [enqueueGreeting 1, claimAt 1 "first"]) :=
  (attempts_bounded defaultStore rfl rfl (Machine.Reaches.of_follows (by decide))).1

/-- **Attempts exceed their limit.** The lease of the only attempt expires, and the
next claim hands the delivery out once more. -/
theorem attempts_exceed :
    ¬ ∀ g, defaultStore.machine.Reaches (fun _ _ => True) (Machine.start oneUser) g →
      AttemptsBounded g := by
  intro hall
  have hrun : defaultStore.machine.Follows (fun _ _ => True) (Machine.start oneUser)
      workerDies := by decide
  have hbound := hall _ (Machine.Reaches.of_follows hrun) "d1"
  have hrow : ((defaultStore.machine.replay (Machine.start oneUser)
      workerDies).state.outboxDeliveries.find? "d1").map
        (fun r => (r.attempts, r.maxAttempts)) = some (2, 1) := by decide
  obtain ⟨r, hr, hvals⟩ := Option.map_eq_some_iff.mp hrow
  obtain ⟨hatt, hmax⟩ := Prod.mk.inj hvals
  have hle := (hbound r hr).1
  rw [hatt, hmax] at hle
  exact absurd hle (by decide)

end OutboxStore

end Zhixu
