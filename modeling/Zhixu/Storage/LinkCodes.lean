import Zhixu.Framework.Machine
import Zhixu.Storage.ChannelRoutes

/-!
# Guessing link codes

Two stores hand out one-time codes that link an identity to a user. `IdentityLinkStore` counts the wrong
codes on the row of the challenge. `ChannelRouteStore` counts the denied attempts of a user in the audit
log, over the last ten minutes. This file models the first, and shows for both that codes cannot be
guessed at will or used twice, in any run of both stores (`link_codes_hold`).

The wrong codes at a challenge are as many as its row says (`Counted.wrong`), since a wrong code is the
one answer that is committed although it is an error. A code that is right consumes the challenge.

For the codes of the other store, every attempt that fails leaves a denied event, so a window holds at
most as many failed attempts as denied events (`Limited.denied`). An attempt that is let through has
fewer than five events within the ten minutes before it, and any window of ten minutes that it falls
into begins after that.
-/

open Framework

namespace Zhixu

namespace IdentityLinkStore

open ChannelRouteStore (utcText)

section

-- `_digest`: an HMAC of the id of a challenge and a code, under the key of the store
variable (digest : String → String → String)

/-- `issue`. The answer holds the code, which goes to the user and is not stored. -/
def issue (userId : String) (subject : LinkSubject) (now : Instant) (lifetime : Duration)
    (fresh code : String) : Transaction Database PyError (String × String × Instant) := fun db => do
  utcText (now + lifetime)
  let id := "link_" ++ fresh
  raiseIf (db.hasUser userId = false) .integrity
  match db.identityLinkChallenges.insert? {
    id, userId, subject
    challengeHash := digest id code
    expiresAt := now + lifetime
    consumedAt := none
    attempts := 0 } with
  | none => throw .integrity
  | some identityLinkChallenges =>
    return ((id, code, now + lifetime), { db with identityLinkChallenges })

/-- The message of a wrong code. -/
def codeIsInvalid : PyError := .permissionDenied "identity challenge code is invalid"

/-- The transaction of `consume`: nothing for a wrong code, which is counted. The record of the new
identity passes its checks, since those of the subject and of the authorization are the same
(`checked_redeemed`). -/
def redeem (maxAttempts : ℤ) (challengeId code identityId : String)
    (authorization : AuthorizedAction) : Transaction Database PyError (Option ExternalIdentity) :=
  fun db => do
    let now := authorization.authorizedAt
    match (db.identityLinkChallenges.find? challengeId).filter fun row => row.consumedAt.isNone with
    | none => throw (.permissionDenied "identity challenge is unavailable")
    | some row =>
      raiseIf (row.expiresAt ≤ now) (.permissionDenied "identity challenge expired")
      raiseIf (maxAttempts ≤ row.attempts)
        (.permissionDenied "identity challenge attempt limit reached")
      if row.challengeHash ≠ digest challengeId code then
        return (none, { db with
          identityLinkChallenges := db.identityLinkChallenges.updateWhere
            (fun c => c.id = challengeId) fun c => { c with attempts := c.attempts + 1 } })
      else
        raiseIf (authorization.resource.ownerUserId ≠ row.userId)
          (.permissionDenied "identity challenge user mismatch")
        utcText now
        let identity ← ExternalIdentity.checked identityId row.userId row.subject.channel
          row.subject.channelAccount row.subject.encryptedSubject row.subject.opaqueRef now
        raiseIf ((UserRepository.identityByOpaqueRef row.subject.channel row.subject.channelAccount
          row.subject.opaqueRef db).isSome = true ∨ db.hasUser row.userId = false) .integrity
        match db.externalIdentities.insert? identity with
        | none => throw .integrity
        | some externalIdentities =>
          return (some identity, Database.audit { db with
            externalIdentities
            identityLinkChallenges := db.identityLinkChallenges.updateWhere
              (fun c => c.id = challengeId) fun c => { c with consumedAt := some now } } {
            occurredAt := now
            actorUserId := authorization.actorUserId
            action := "create"
            resourceKind := "external_identity"
            resourceId := identityId
            outcome := "completed"
            reasonCode := "otp_verified" })

/-- `consume`. A wrong code is an error that comes after the transaction. -/
def consume (maxAttempts : ℤ) (challengeId code identityId : String)
    (authorization : AuthorizedAction) : Effect Database PyError ExternalIdentity := do
  Effect.check (raiseIf (authorization.action ≠ .create ∨
    authorization.resource.kind ≠ "external_identity" ∨ authorization.resource.id ≠ identityId)
    (.permissionDenied "identity authorization does not match link"))
  let redeemed ← Effect.atomically (redeem digest maxAttempts challengeId code identityId
    authorization)
  match redeemed with
  | none => throw codeIsInvalid
  | some identity => return identity

end

variable {digest : String → String → String} {maxAttempts : ℤ}

/-! ### What an attempt does -/

theorem issue_ok {userId fresh code : String} {subject : LinkSubject} {now : Instant}
    {lifetime : Duration} {db db' : Database} {answer : String × String × Instant}
    (h : issue digest userId subject now lifetime fresh code db = .ok (answer, db')) :
    ∃ row identityLinkChallenges, row.attempts = 0 ∧ row.consumedAt = none ∧
      db.identityLinkChallenges.insert? row = some identityLinkChallenges ∧
      db' = { db with identityLinkChallenges } := by
  unfold issue at h
  obtain ⟨_, -, h⟩ := bind_eq_ok.mp h
  simp only at h
  obtain ⟨-, h⟩ := raiseIf_bind_ok.mp h
  split at h
  · cases h
  · rename_i identityLinkChallenges hinsert
    obtain ⟨-, rfl⟩ := Prod.mk.inj (Except.ok.inj h)
    exact ⟨_, identityLinkChallenges, rfl, rfl, hinsert, rfl⟩

/-- The identity of a challenge that is redeemed is a record that passes its checks. -/
theorem checked_redeemed (row : IdentityLinkChallenge) {identityId : String}
    (authorization : AuthorizedAction) (hid : authorization.resource.id = identityId)
    (howner : authorization.resource.ownerUserId = row.userId) (now : Instant) :
    ∃ identity, ExternalIdentity.checked identityId row.userId row.subject.channel
      row.subject.channelAccount row.subject.encryptedSubject row.subject.opaqueRef now =
        .ok identity := by
  obtain ⟨-, hresource, huser⟩ := authorization.resource.nonblank
  obtain ⟨hchannel, haccount, href⟩ := row.subject.nonblank
  unfold ExternalIdentity.checked
  rw [dif_pos row.subject.encrypted, dif_pos
    ⟨by rw [← hid]; exact hresource, by rw [← howner]; exact huser, hchannel, haccount, href⟩]
  exact ⟨_, rfl⟩

/-- An open challenge that is neither expired nor used up. -/
structure Redeemable (maxAttempts : ℤ) (challengeId : String) (now : Instant)
    (row : IdentityLinkChallenge) (db : Database) : Prop where
  stored : db.identityLinkChallenges.find? challengeId = some row
  isOpen : row.consumedAt = none
  unexpired : now < row.expiresAt
  attempts : (row.attempts : ℤ) < maxAttempts

/-- **What a transaction at a challenge has done**: it has counted a wrong code, or linked the identity
to the user of the challenge and closed it. -/
theorem redeem_ok {challengeId code identityId : String} {authorization : AuthorizedAction}
    {db db' : Database} {redeemed : Option ExternalIdentity}
    (h : redeem digest maxAttempts challengeId code identityId authorization db =
      .ok (redeemed, db')) :
    ∃ row, Redeemable maxAttempts challengeId authorization.authorizedAt row db ∧
      ((redeemed = none ∧ row.challengeHash ≠ digest challengeId code ∧
          db' = { db with
            identityLinkChallenges := db.identityLinkChallenges.updateWhere
              (fun c => c.id = challengeId) fun c => { c with attempts := c.attempts + 1 } }) ∨
        ∃ identity externalIdentities event, redeemed = some identity ∧
          row.challengeHash = digest challengeId code ∧ identity.userId = row.userId ∧
          db.externalIdentities.insert? identity = some externalIdentities ∧
          db' = Database.audit { db with
            externalIdentities
            identityLinkChallenges := db.identityLinkChallenges.updateWhere
              (fun c => c.id = challengeId)
              fun c => { c with consumedAt := some authorization.authorizedAt } } event) := by
  unfold redeem at h
  simp only at h
  cases hrow : (db.identityLinkChallenges.find? challengeId).filter
      fun row => row.consumedAt.isNone with
  | none =>
    rw [hrow] at h
    cases h
  | some row =>
    rw [hrow] at h
    obtain ⟨hfind, hnone⟩ := Option.filter_eq_some_iff.mp hrow
    simp only at h
    obtain ⟨hexpired, h⟩ := raiseIf_bind_ok.mp h
    obtain ⟨hlimit, h⟩ := raiseIf_bind_ok.mp h
    refine ⟨row, ⟨hfind, Option.isNone_iff_eq_none.mp hnone, lt_of_not_ge hexpired,
      lt_of_not_ge hlimit⟩, ?_⟩
    by_cases hcode : row.challengeHash ≠ digest challengeId code
    · rw [if_pos hcode] at h
      obtain ⟨rfl, rfl⟩ := Prod.mk.inj (Except.ok.inj h)
      exact .inl ⟨rfl, hcode, rfl⟩
    · rw [if_neg hcode] at h
      obtain ⟨-, h⟩ := raiseIf_bind_ok.mp h
      obtain ⟨_, -, h⟩ := bind_eq_ok.mp h
      obtain ⟨identity, hchecked, h⟩ := bind_eq_ok.mp h
      obtain ⟨-, h⟩ := raiseIf_bind_ok.mp h
      cases hinsert : db.externalIdentities.insert? identity with
      | none =>
        rw [hinsert] at h
        cases h
      | some externalIdentities =>
        rw [hinsert] at h
        obtain ⟨rfl, rfl⟩ := Prod.mk.inj (Except.ok.inj h)
        have huser : identity.userId = row.userId := by
          unfold ExternalIdentity.checked at hchecked
          split at hchecked
          · split at hchecked
            · obtain rfl := Except.ok.inj hchecked
              rfl
            · cases hchecked
          · cases hchecked
        exact .inr ⟨identity, externalIdentities, _, rfl, not_not.mp hcode, huser, hinsert, rfl⟩

/-- The transaction itself never says that a code is wrong. -/
theorem redeem_error {challengeId code identityId : String} {authorization : AuthorizedAction}
    {db : Database} {err : PyError}
    (h : redeem digest maxAttempts challengeId code identityId authorization db = .error err) :
    err ≠ codeIsInvalid := by
  unfold redeem at h
  simp only at h
  cases hrow : (db.identityLinkChallenges.find? challengeId).filter
      fun row => row.consumedAt.isNone with
  | none =>
    rw [hrow] at h
    obtain rfl := Except.error.inj h
    decide
  | some row =>
    rw [hrow] at h
    simp only at h
    rcases raiseIf_bind_error.mp h with ⟨-, rfl⟩ | ⟨-, h⟩
    · decide
    rcases raiseIf_bind_error.mp h with ⟨-, rfl⟩ | ⟨-, h⟩
    · decide
    by_cases hcode : row.challengeHash ≠ digest challengeId code
    · rw [if_pos hcode] at h
      cases h
    rw [if_neg hcode] at h
    rcases raiseIf_bind_error.mp h with ⟨-, rfl⟩ | ⟨-, h⟩
    · decide
    rcases bind_eq_error.mp h with hrange | ⟨_, -, h⟩
    · unfold utcText raiseIf at hrange
      split at hrange
      · obtain rfl := Except.error.inj hrange
        decide
      · cases hrange
    rcases bind_eq_error.mp h with hchecked | ⟨identity, -, h⟩
    · unfold ExternalIdentity.checked at hchecked
      split at hchecked
      · split at hchecked
        · cases hchecked
        · obtain rfl := Except.error.inj hchecked
          decide
      · obtain rfl := Except.error.inj hchecked
        decide
    rcases raiseIf_bind_error.mp h with ⟨-, rfl⟩ | ⟨-, h⟩
    · decide
    cases hinsert : db.externalIdentities.insert? identity with
    | none =>
      rw [hinsert] at h
      obtain rfl := Except.error.inj h
      decide
    | some externalIdentities =>
      rw [hinsert] at h
      cases h

/-- **What `consume` does.** It is an error that leaves the identities as they are, or it links the
identity. -/
theorem consume_cases (challengeId code identityId : String) (authorization : AuthorizedAction)
    (db : Database) :
    (∃ err, err ≠ codeIsInvalid ∧
      (consume digest maxAttempts challengeId code identityId authorization).exec db =
        (.error err, db)) ∨
    ∃ redeemed db', redeem digest maxAttempts challengeId code identityId authorization db =
        .ok (redeemed, db') ∧
      (consume digest maxAttempts challengeId code identityId authorization).exec db =
        (match redeemed with
          | none => .error codeIsInvalid
          | some identity => .ok identity, db') := by
  unfold consume
  rw [Effect.exec_check_bind]
  by_cases hmismatch : authorization.action ≠ .create ∨
      authorization.resource.kind ≠ "external_identity" ∨ authorization.resource.id ≠ identityId
  · have hraise : raiseIf (authorization.action ≠ .create ∨
        authorization.resource.kind ≠ "external_identity" ∨ authorization.resource.id ≠ identityId)
        (PyError.permissionDenied "identity authorization does not match link") = .error _ :=
      if_pos hmismatch
    rw [hraise]
    refine .inl ⟨_, ?_, rfl⟩
    decide
  · have hpass : raiseIf (authorization.action ≠ .create ∨
        authorization.resource.kind ≠ "external_identity" ∨ authorization.resource.id ≠ identityId)
        (PyError.permissionDenied "identity authorization does not match link") = .ok ⟨⟩ :=
      if_neg hmismatch
    rw [hpass]
    simp only
    rw [Effect.exec_bind, Effect.exec_atomically, StateT.run]
    cases hrun : redeem digest maxAttempts challengeId code identityId authorization db with
    | error err => exact .inl ⟨err, redeem_error hrun, rfl⟩
    | ok outcome =>
      refine .inr ⟨outcome.1, outcome.2, rfl, ?_⟩
      simp only
      cases outcome.1 with
      | none => rfl
      | some identity => rfl

end IdentityLinkStore

namespace LinkCodes

open ChannelRouteStore (consumePrivateLink deniedAttempts issuePrivateLink linkAttempt usableLink)

/-- The calls of both stores, and what else happens to the tables they use. -/
inductive LinkCall
  | issue (userId : String) (subject : LinkSubject) (now : Instant) (lifetime : Duration)
      (fresh code : String)
  | consume (challengeId code identityId : String) (authorization : AuthorizedAction)
  | issuePrivate (challenge : PrivateLinkChallenge)
  | consumePrivate (codeHash channel channelAccount consumedByUserId : String) (now : Instant)
  /-- identities are bound and unbound and users come in otherwise, and other events are recorded -/
  | elsewhere (externalIdentities : Table ExternalIdentity ExternalIdentity.id)
      (users : Table UserRow UserRow.id) (events : List AuditEvent)

inductive LinkAnswer
  | issued (challenge : String × String × Instant)
  | linked (identity : ExternalIdentity)
  | privateIssued
  /-- whether the code was looked up, and the actor it stands for -/
  | actor (evaluated : Bool) (privateActorRef : Option String)
  | done

/-- Whether a code of a user is looked up, after the attempts of the last ten minutes. -/
def evaluates (db : Database) (userId : String) (now : Instant) : Bool :=
  match Instant.plus now (- Duration.minutes 10) with
  | .error _ => false
  | .ok since => decide (deniedAttempts db userId since < 5)

section

variable (digest : String → String → String) (maxAttempts : ℤ)

def performLink (db : Database) : LinkCall → Effect Database PyError LinkAnswer
  | .issue userId subject now lifetime fresh code =>
    .issued <$> Effect.atomically
      (IdentityLinkStore.issue digest userId subject now lifetime fresh code)
  | .consume challengeId code identityId authorization =>
    .linked <$> IdentityLinkStore.consume digest maxAttempts challengeId code identityId authorization
  | .issuePrivate challenge =>
    (fun _ => .privateIssued) <$> Effect.atomically (issuePrivateLink challenge)
  | .consumePrivate codeHash channel channelAccount consumedByUserId now =>
    .actor (evaluates db consumedByUserId now) <$> Effect.atomically
      (consumePrivateLink codeHash channel channelAccount consumedByUserId now)
  | .elsewhere externalIdentities users events =>
    (fun _ => .done) <$> Effect.write fun db =>
      { db with externalIdentities, users, auditEvents := db.auditEvents ++ events }

def linkMachine : Machine Database LinkCall (Except PyError LinkAnswer) where
  exec db call := (performLink digest maxAttempts db call).exec db

end

variable {digest : String → String → String} {maxAttempts : ℤ}

abbrev LinkEntry := Entry LinkCall (Except PyError LinkAnswer)
abbrev LinkStage := Stage Database LinkCall (Except PyError LinkAnswer)

/-! ### Wrong codes at a challenge -/

/-- A code that was compared with that of a challenge, and is another one. -/
def wrongCode (challengeId : String) (entry : LinkEntry) : Bool :=
  match entry.call, entry.outcome with
  | .consume id .., .error err => id = challengeId && decide (err = IdentityLinkStore.codeIsInvalid)
  | _, _ => false

/-- A call that has linked an identity by a challenge. -/
def redeems (challengeId : String) (entry : LinkEntry) : Bool :=
  match entry.call, entry.outcome with
  | .consume id .., .ok _ => id = challengeId
  | _, _ => false

/-- **What the rows of the challenges count.** -/
structure Counted (maxAttempts : ℤ) (g : LinkStage) : Prop where
  wrong : ∀ row ∈ g.state.identityLinkChallenges.rows,
    g.log.countP (wrongCode row.id) = row.attempts
  bounded : ∀ row ∈ g.state.identityLinkChallenges.rows, row.attempts ≤ maxAttempts.toNat
  once : ∀ row ∈ g.state.identityLinkChallenges.rows,
    g.log.countP (redeems row.id) = if row.consumedAt = none then 0 else 1
  unknown : ∀ id, (∀ row ∈ g.state.identityLinkChallenges.rows, row.id ≠ id) →
    g.log.countP (wrongCode id) = 0 ∧ g.log.countP (redeems id) = 0
  linked : ∀ entry ∈ g.log, ∀ identity, entry.outcome = .ok (.linked identity) →
    ∃ row ∈ g.state.identityLinkChallenges.rows, ∃ code identityId authorization,
      entry.call = .consume row.id code identityId authorization ∧ identity.userId = row.userId ∧
        authorization.authorizedAt < row.expiresAt

/-- A call that is none of a challenge. -/
theorem Counted.quiet {g : LinkStage} (h : Counted maxAttempts g) {call : LinkCall}
    (hrows : ((linkMachine digest maxAttempts).advance g call).state.identityLinkChallenges =
      g.state.identityLinkChallenges)
    (hwrong : ∀ id, wrongCode id ((linkMachine digest maxAttempts).entry g.state call) = false)
    (hredeems : ∀ id, redeems id ((linkMachine digest maxAttempts).entry g.state call) = false)
    (hlinked : ∀ identity,
      ((linkMachine digest maxAttempts).entry g.state call).outcome ≠ .ok (.linked identity)) :
    Counted maxAttempts ((linkMachine digest maxAttempts).advance g call) := by
  have hwrongs : ∀ id, ((linkMachine digest maxAttempts).advance g call).log.countP (wrongCode id) =
      g.log.countP (wrongCode id) := fun id =>
    List.countP_cons_of_neg (by rw [hwrong id]; simp)
  have hredeemed : ∀ id, ((linkMachine digest maxAttempts).advance g call).log.countP (redeems id) =
      g.log.countP (redeems id) := fun id =>
    List.countP_cons_of_neg (by rw [hredeems id]; simp)
  constructor
  · intro row hrow
    rw [hrows] at hrow
    rw [hwrongs]
    exact h.wrong row hrow
  · rw [hrows]
    exact h.bounded
  · intro row hrow
    rw [hrows] at hrow
    rw [hredeemed]
    exact h.once row hrow
  · intro id hid
    rw [hrows] at hid
    rw [hwrongs, hredeemed]
    exact h.unknown id hid
  · intro entry hentry identity houtcome
    rw [hrows]
    rcases List.mem_cons.mp hentry with rfl | hold
    · exact absurd houtcome (hlinked identity)
    · exact h.linked entry hold identity houtcome

/-- A new challenge has not been tried. -/
theorem Counted.issue {g : LinkStage} (h : Counted maxAttempts g) (userId : String)
    (subject : LinkSubject) (now : Instant) (lifetime : Duration) (fresh code : String) :
    Counted maxAttempts ((linkMachine digest maxAttempts).advance g
      (.issue userId subject now lifetime fresh code)) := by
  have hexec : (linkMachine digest maxAttempts).exec g.state
      (.issue userId subject now lifetime fresh code) =
      (LinkAnswer.issued <$> Effect.atomically
        (IdentityLinkStore.issue digest userId subject now lifetime fresh code)).exec g.state := rfl
  rw [Effect.exec_map, Effect.exec_atomically, StateT.run] at hexec
  cases hrun : IdentityLinkStore.issue digest userId subject now lifetime fresh code g.state with
  | error err =>
    rw [hrun] at hexec
    refine h.quiet ?_ (fun _ => rfl) (fun _ => rfl) ?_
    · rw [Machine.advance_state, hexec]
    · intro identity
      rw [Machine.entry_outcome, hexec]
      exact fun hsame => by cases hsame
  | ok outcome =>
    rw [hrun] at hexec
    obtain ⟨row, challenges, hattempts, hopen, hinsert, hafter⟩ := IdentityLinkStore.issue_ok hrun
    obtain ⟨hfree, hrows⟩ := Table.insert?_eq_some.mp hinsert
    have hstate : ((linkMachine digest maxAttempts).advance g
        (.issue userId subject now lifetime fresh code)).state.identityLinkChallenges =
          challenges := by
      rw [Machine.advance_state, hexec]
      simp only
      rw [hafter]
    have hnew : ∀ r ∈ g.state.identityLinkChallenges.rows, r.id ≠ row.id :=
      Table.find?_eq_none.mp hfree
    obtain ⟨hnowrong, hnoredeem⟩ := h.unknown row.id hnew
    constructor
    · intro r hr
      rw [hstate, hrows] at hr
      rw [Machine.advance_log, List.countP_cons_of_neg (by simp [wrongCode])]
      rcases List.mem_append.mp hr with hold | hself
      · exact h.wrong r hold
      · obtain rfl := List.mem_singleton.mp hself
        rw [hnowrong, hattempts]
    · intro r hr
      rw [hstate, hrows] at hr
      rcases List.mem_append.mp hr with hold | hself
      · exact h.bounded r hold
      · obtain rfl := List.mem_singleton.mp hself
        rw [hattempts]
        exact Nat.zero_le _
    · intro r hr
      rw [hstate, hrows] at hr
      rw [Machine.advance_log, List.countP_cons_of_neg (by simp [redeems])]
      rcases List.mem_append.mp hr with hold | hself
      · exact h.once r hold
      · obtain rfl := List.mem_singleton.mp hself
        rw [hnoredeem, if_pos hopen]
    · intro id hid
      rw [hstate, hrows] at hid
      rw [Machine.advance_log, List.countP_cons_of_neg (by simp [wrongCode]),
        List.countP_cons_of_neg (by simp [redeems])]
      exact h.unknown id fun r hr => hid r (List.mem_append_left _ hr)
    · intro entry hentry identity houtcome
      rw [hstate, hrows]
      rcases List.mem_cons.mp hentry with rfl | hold
      · rw [Machine.entry_outcome, hexec] at houtcome
        cases houtcome
      · obtain ⟨r, hr, hrest⟩ := h.linked entry hold identity houtcome
        exact ⟨r, List.mem_append_left _ hr, hrest⟩

/-- The row of a challenge after an update of one. -/
theorem mem_updateChallenge {T : Table IdentityLinkChallenge IdentityLinkChallenge.id}
    {challengeId : String} {f : IdentityLinkChallenge → IdentityLinkChallenge}
    {hf : ∀ r, (f r).id = r.id} {r' : IdentityLinkChallenge}
    (h : r' ∈ (T.updateWhere (fun c => c.id = challengeId) f hf).rows) :
    ∃ r ∈ T.rows, r'.id = r.id ∧ (r.id = challengeId → r' = f r) ∧ (r.id ≠ challengeId → r' = r) := by
  obtain ⟨r, hr, rfl⟩ := List.mem_map.mp h
  refine ⟨r, hr, ?_⟩
  by_cases hid : r.id = challengeId
  · rw [if_pos (decide_eq_true hid)]
    exact ⟨hf r, fun _ => rfl, fun hne => absurd hid hne⟩
  · rw [if_neg (by simpa using hid)]
    exact ⟨rfl, fun hself => absurd hself hid, fun _ => rfl⟩

/-- A call that changes the row of one challenge, and counts for it what it changes. -/
theorem Counted.update {g : LinkStage} (h : Counted maxAttempts g) {call : LinkCall}
    {challengeId : String} {row : IdentityLinkChallenge}
    (hrow : g.state.identityLinkChallenges.find? challengeId = some row)
    (f : IdentityLinkChallenge → IdentityLinkChallenge) (hf : ∀ r, (f r).id = r.id)
    (isWrong isRedeemed : Bool)
    (hrows : ((linkMachine digest maxAttempts).advance g call).state.identityLinkChallenges =
      g.state.identityLinkChallenges.updateWhere (fun c => c.id = challengeId) f hf)
    (hwrong : ∀ id, wrongCode id ((linkMachine digest maxAttempts).entry g.state call) =
      (decide (challengeId = id) && isWrong))
    (hredeems : ∀ id, redeems id ((linkMachine digest maxAttempts).entry g.state call) =
      (decide (challengeId = id) && isRedeemed))
    (hattempts : (f row).attempts = row.attempts + isWrong.toNat)
    (hbounded : (f row).attempts ≤ maxAttempts.toNat)
    (hopen : (if (f row).consumedAt = none then 0 else 1) =
      (if row.consumedAt = none then 0 else 1) + isRedeemed.toNat)
    (hkeeps : ∀ r, (f r).userId = r.userId ∧ (f r).expiresAt = r.expiresAt)
    (hlinked : ∀ identity,
      ((linkMachine digest maxAttempts).entry g.state call).outcome = .ok (.linked identity) →
        ∃ code identityId authorization,
          call = .consume challengeId code identityId authorization ∧
            identity.userId = row.userId ∧ authorization.authorizedAt < row.expiresAt) :
    Counted maxAttempts ((linkMachine digest maxAttempts).advance g call) := by
  obtain ⟨hstored, hid⟩ := Table.find?_eq_some.mp hrow
  have hcons : ∀ (p : LinkEntry → Bool),
      ((linkMachine digest maxAttempts).advance g call).log.countP p = g.log.countP p +
        (p ((linkMachine digest maxAttempts).entry g.state call)).toNat := by
    intro p
    rw [Machine.advance_log, List.countP_cons]
    cases p ((linkMachine digest maxAttempts).entry g.state call) with
    | false => rfl
    | true => rfl
  have hself : ∀ r ∈ g.state.identityLinkChallenges.rows, r.id = challengeId → r = row :=
    fun r hr hsame => g.state.identityLinkChallenges.eq_of_key_eq hr hstored (hsame.trans hid.symm)
  constructor
  · intro r hr
    rw [hrows] at hr
    obtain ⟨r₀, hr₀, hrid, hthis, hother⟩ := mem_updateChallenge hr
    rw [hcons, hwrong, hrid, h.wrong r₀ hr₀]
    by_cases hsame : r₀.id = challengeId
    · obtain rfl := hself r₀ hr₀ hsame
      rw [hthis hsame, hattempts, decide_eq_true hsame.symm, Bool.true_and]
    · rw [hother hsame, decide_eq_false (Ne.symm hsame)]
      rfl
  · intro r hr
    rw [hrows] at hr
    obtain ⟨r₀, hr₀, hrid, hthis, hother⟩ := mem_updateChallenge hr
    by_cases hsame : r₀.id = challengeId
    · obtain rfl := hself r₀ hr₀ hsame
      rw [hthis hsame]
      exact hbounded
    · rw [hother hsame]
      exact h.bounded r₀ hr₀
  · intro r hr
    rw [hrows] at hr
    obtain ⟨r₀, hr₀, hrid, hthis, hother⟩ := mem_updateChallenge hr
    rw [hcons, hredeems, hrid, h.once r₀ hr₀]
    by_cases hsame : r₀.id = challengeId
    · obtain rfl := hself r₀ hr₀ hsame
      rw [hthis hsame, hopen, decide_eq_true hsame.symm, Bool.true_and]
    · rw [hother hsame, decide_eq_false (Ne.symm hsame)]
      rfl
  · intro id hunknown
    rw [hrows] at hunknown
    have hbefore : ∀ r ∈ g.state.identityLinkChallenges.rows, r.id ≠ id := by
      intro r hr
      have hr' := hunknown _ (List.mem_map.mpr ⟨r, hr, rfl⟩)
      by_cases hsame : r.id = challengeId
      · rw [if_pos (decide_eq_true hsame), hf] at hr'
        exact hr'
      · rw [if_neg (by simpa using hsame)] at hr'
        exact hr'
    have hne : challengeId ≠ id := fun hsame => hbefore row hstored (hid.trans hsame)
    rw [hcons, hcons, hwrong, hredeems, decide_eq_false hne]
    exact h.unknown id hbefore
  · intro entry hmem identity houtcome
    rw [hrows]
    rcases List.mem_cons.mp hmem with rfl | hold
    · obtain ⟨code, identityId, authorization, hcall, huser, htime⟩ := hlinked identity houtcome
      refine ⟨_, List.mem_map.mpr ⟨row, hstored, rfl⟩, code, identityId, authorization, ?_⟩
      rw [if_pos (decide_eq_true hid), hf, (hkeeps row).1, (hkeeps row).2, hid]
      exact ⟨hcall, huser, htime⟩
    · obtain ⟨r, hr, code, identityId, authorization, hcall, huser, htime⟩ :=
        h.linked entry hold identity houtcome
      refine ⟨_, List.mem_map.mpr ⟨r, hr, rfl⟩, code, identityId, authorization, ?_⟩
      by_cases hsame : r.id = challengeId
      · rw [if_pos (decide_eq_true hsame), hf, (hkeeps r).1, (hkeeps r).2]
        exact ⟨hcall, huser, htime⟩
      · rw [if_neg (by simpa using hsame)]
        exact ⟨hcall, huser, htime⟩

/-- **An attempt at a challenge is counted.** -/
theorem Counted.consume {g : LinkStage} (h : Counted maxAttempts g)
    (challengeId code identityId : String) (authorization : AuthorizedAction) :
    Counted maxAttempts ((linkMachine digest maxAttempts).advance g
      (.consume challengeId code identityId authorization)) := by
  have hexec : (linkMachine digest maxAttempts).exec g.state
      (.consume challengeId code identityId authorization) =
      (LinkAnswer.linked <$> IdentityLinkStore.consume digest maxAttempts challengeId code identityId
        authorization).exec g.state := rfl
  rw [Effect.exec_map] at hexec
  rcases IdentityLinkStore.consume_cases challengeId code identityId authorization g.state with
    ⟨err, herr, hrun⟩ | ⟨redeemed, db', hredeem, hrun⟩
  · -- an error before the comparison
    rw [hrun] at hexec
    refine h.quiet ?_ (fun id => ?_) (fun id => ?_) ?_
    · rw [Machine.advance_state, hexec]
    · unfold Machine.entry
      rw [hexec]
      show (decide (challengeId = id) && decide (err = IdentityLinkStore.codeIsInvalid)) = false
      rw [decide_eq_false herr]
      exact Bool.and_false _
    · unfold Machine.entry
      rw [hexec]
      rfl
    · intro identity
      rw [Machine.entry_outcome, hexec]
      exact fun hsame => by cases hsame
  · rw [hrun] at hexec
    have hstate : ((linkMachine digest maxAttempts).advance g
        (.consume challengeId code identityId authorization)).state = db' := by
      rw [Machine.advance_state, hexec]
    obtain ⟨row, hrow, ⟨rfl, -, hafter⟩ | ⟨identity, identities, event, rfl, -, huser, -, hafter⟩⟩ :=
      IdentityLinkStore.redeem_ok hredeem
    · -- a wrong code is one more attempt
      have hentry : (linkMachine digest maxAttempts).entry g.state
          (.consume challengeId code identityId authorization) =
            ⟨.consume challengeId code identityId authorization,
              .error IdentityLinkStore.codeIsInvalid⟩ := by
        unfold Machine.entry
        rw [hexec]
        rfl
      have hlimit := hrow.attempts
      refine h.update hrow.stored (fun c => { c with attempts := c.attempts + 1 }) (fun _ => rfl)
        true false ?_ (fun id => ?_) (fun id => ?_) rfl ?_ rfl (fun _ => ⟨rfl, rfl⟩)
        fun identity houtcome => ?_
      · rw [hstate, hafter]
      · rw [hentry]
        rfl
      · rw [hentry]
        exact (Bool.and_false _).symm
      · show row.attempts + 1 ≤ maxAttempts.toNat
        omega
      · rw [hentry] at houtcome
        cases houtcome
    · -- the right code closes the challenge
      have hentry : (linkMachine digest maxAttempts).entry g.state
          (.consume challengeId code identityId authorization) =
            ⟨.consume challengeId code identityId authorization, .ok (.linked identity)⟩ := by
        unfold Machine.entry
        rw [hexec]
        rfl
      refine h.update hrow.stored
        (fun c => { c with consumedAt := some authorization.authorizedAt }) (fun _ => rfl) false true
        ?_ (fun id => ?_) (fun id => ?_) rfl ?_ ?_ (fun _ => ⟨rfl, rfl⟩) fun identityOf houtcome => ?_
      · rw [hstate, hafter]
        rfl
      · rw [hentry]
        exact (Bool.and_false _).symm
      · rw [hentry]
        exact (Bool.and_true _).symm
      · exact h.bounded row (Table.mem_of_find? hrow.stored)
      · rw [if_pos hrow.isOpen]
        rfl
      · rw [hentry] at houtcome
        obtain rfl := LinkAnswer.linked.inj (Except.ok.inj houtcome)
        exact ⟨code, identityId, authorization, rfl, huser, hrow.unexpired⟩

/-- What a call of the machine leaves behind, through its transaction. -/
theorem exec_transaction {α : Type} {f : α → LinkAnswer} {t : Transaction Database PyError α}
    (g : LinkStage) (call : LinkCall)
    (hcall : performLink digest maxAttempts g.state call = f <$> Effect.atomically t) :
    (∃ err, t g.state = .error err ∧
      (linkMachine digest maxAttempts).exec g.state call = (.error err, g.state)) ∨
    ∃ a db', t g.state = .ok (a, db') ∧
      (linkMachine digest maxAttempts).exec g.state call = (.ok (f a), db') := by
  have hexec : (linkMachine digest maxAttempts).exec g.state call =
      (performLink digest maxAttempts g.state call).exec g.state := rfl
  rw [hcall, Effect.exec_map, Effect.exec_atomically, StateT.run] at hexec
  cases hrun : t g.state with
  | error err =>
    rw [hrun] at hexec
    exact .inl ⟨err, rfl, hexec⟩
  | ok outcome =>
    rw [hrun] at hexec
    exact .inr ⟨outcome.1, outcome.2, rfl, hexec⟩

/-- **Every call keeps count.** -/
theorem Counted.advance (g : LinkStage) (call : LinkCall) (h : Counted maxAttempts g) :
    Counted maxAttempts ((linkMachine digest maxAttempts).advance g call) := by
  cases call with
  | issue userId subject now lifetime fresh code => exact h.issue userId subject now lifetime fresh code
  | consume challengeId code identityId authorization =>
    exact h.consume challengeId code identityId authorization
  | issuePrivate challenge =>
    rcases exec_transaction g (.issuePrivate challenge) rfl with
      ⟨err, -, hexec⟩ | ⟨_, db', hrun, hexec⟩
    · refine h.quiet ?_ (fun _ => rfl) (fun _ => rfl) fun identity => ?_
      · rw [Machine.advance_state, hexec]
      · rw [Machine.entry_outcome, hexec]
        exact fun hsame => by cases hsame
    · obtain ⟨_, _, _, -, -, rfl⟩ := ChannelRouteStore.issuePrivateLink_ok hrun
      refine h.quiet ?_ (fun _ => rfl) (fun _ => rfl) fun identity => ?_
      · rw [Machine.advance_state, hexec]
        rfl
      · rw [Machine.entry_outcome, hexec]
        exact fun hsame => by cases hsame
  | consumePrivate codeHash channel channelAccount userId now =>
    rcases exec_transaction g (.consumePrivate codeHash channel channelAccount userId now) rfl with
      ⟨err, -, hexec⟩ | ⟨_, db', hrun, hexec⟩
    · refine h.quiet ?_ (fun _ => rfl) (fun _ => rfl) fun identity => ?_
      · rw [Machine.advance_state, hexec]
      · rw [Machine.entry_outcome, hexec]
        exact fun hsame => by cases hsame
    · have hsame : db'.identityLinkChallenges = g.state.identityLinkChallenges := by
        rcases ChannelRouteStore.consumePrivateLink_ok hrun with
          ⟨_, -, -, rfl, -⟩ | ⟨-, _, _, rfl⟩
        · rfl
        · rfl
      refine h.quiet ?_ (fun _ => rfl) (fun _ => rfl) fun identity => ?_
      · rw [Machine.advance_state, hexec, hsame]
      · rw [Machine.entry_outcome, hexec]
        exact fun hsame => by cases hsame
  | elsewhere externalIdentities users events =>
    exact h.quiet rfl (fun _ => rfl) (fun _ => rfl) fun identity hsame => by cases hsame

/-! ### Failed attempts at the codes of a user -/

/-- A code that a user has tried since a time, that was looked up, and that was none. -/
def failsSince (userId : String) (since : Instant) (entry : LinkEntry) : Bool :=
  match entry.call, entry.outcome with
  | .consumePrivate _ _ _ user now, .ok (.actor true none) => user = userId && decide (since ≤ now)
  | _, _ => false

/-- A code that a user has tried within ten minutes, that was looked up, and that was none. -/
def failsWithin (userId : String) (since : Instant) (entry : LinkEntry) : Bool :=
  match entry.call, entry.outcome with
  | .consumePrivate _ _ _ user now, .ok (.actor true none) =>
    user = userId && decide (since ≤ now ∧ now ≤ since + Duration.minutes 10)
  | _, _ => false

/-- **Failed attempts are on record, and there are not too many.** -/
structure Limited (g : LinkStage) : Prop where
  denied : ∀ userId since, g.log.countP (failsSince userId since) ≤
    deniedAttempts g.state userId since
  window : ∀ userId since, g.log.countP (failsWithin userId since) ≤ 5

/-- More events are no fewer denied attempts. -/
theorem deniedAttempts_mono {db db' : Database} {events : List AuditEvent}
    (h : db'.auditEvents = db.auditEvents ++ events) (userId : String) (since : Instant) :
    deniedAttempts db userId since ≤ deniedAttempts db' userId since := by
  unfold deniedAttempts
  rw [h, List.countP_append]
  exact Nat.le_add_right _ _

/-- A call that is no failed attempt, and removes no events. -/
theorem Limited.quiet {g : LinkStage} (h : Limited g) {call : LinkCall} (events : List AuditEvent)
    (hevents : ((linkMachine digest maxAttempts).advance g call).state.auditEvents =
      g.state.auditEvents ++ events)
    (hsince : ∀ userId since,
      failsSince userId since ((linkMachine digest maxAttempts).entry g.state call) = false)
    (hwithin : ∀ userId since,
      failsWithin userId since ((linkMachine digest maxAttempts).entry g.state call) = false) :
    Limited ((linkMachine digest maxAttempts).advance g call) := by
  constructor
  · intro userId since
    rw [Machine.advance_log, List.countP_cons_of_neg (by rw [hsince]; simp)]
    exact (h.denied userId since).trans (deniedAttempts_mono hevents userId since)
  · intro userId since
    rw [Machine.advance_log, List.countP_cons_of_neg (by rw [hwithin]; simp)]
    exact h.window userId since

/-- **What an attempt at a code does**: there were too many before, or it fails and is on record, or
it returns the actor of a code that was usable. -/
theorem consumePrivateLink_cases {codeHash channel channelAccount userId : String} {now : Instant}
    {db db' : Database} {answer : Option String}
    (h : consumePrivateLink codeHash channel channelAccount userId now db = .ok (answer, db')) :
    (evaluates db userId now = false ∧ answer = none ∧ db' = db) ∨
    (evaluates db userId now = true ∧ Instant.plus now (- Duration.minutes 10) =
        .ok (now - Duration.minutes 10) ∧ deniedAttempts db userId (now - Duration.minutes 10) < 5 ∧
      ((answer = none ∧
          db' = db.audit (linkAttempt userId codeHash now "use" "denied" "invalid_or_expired")) ∨
        ∃ challenge, usableLink db codeHash channel channelAccount now = some challenge ∧
          answer = some challenge.privateActorRef ∧
          db' = Database.audit { db with
            privateLinkChallenges := db.privateLinkChallenges.updateWhere
              (fun c => c.codeHash = codeHash && c.consumedAt.isNone)
              fun c => { c with consumedAt := some now } }
            (linkAttempt userId codeHash now "update" "completed" "identity_bound"))) := by
  unfold consumePrivateLink at h
  obtain ⟨_, -, h⟩ := bind_eq_ok.mp h
  obtain ⟨since, hsince, h⟩ := bind_eq_ok.mp h
  have hten : since = now - Duration.minutes 10 := (Instant.plus_eq_ok.mp hsince).2
  unfold evaluates
  rw [hsince]
  by_cases hmany : 5 ≤ deniedAttempts db userId since
  · rw [if_pos hmany] at h
    obtain ⟨rfl, rfl⟩ := Prod.mk.inj (Except.ok.inj h)
    exact .inl ⟨decide_eq_false (Nat.not_lt.mpr hmany), rfl, rfl⟩
  · rw [if_neg hmany] at h
    have hfew : deniedAttempts db userId since < 5 := Nat.not_le.mp hmany
    refine .inr ⟨decide_eq_true hfew, by rw [hten], by rw [← hten]; exact hfew, ?_⟩
    cases husable : usableLink db codeHash channel channelAccount now with
    | none =>
      rw [husable] at h
      obtain ⟨rfl, rfl⟩ := Prod.mk.inj (Except.ok.inj h)
      exact .inl ⟨rfl, rfl⟩
    | some challenge =>
      rw [husable] at h
      obtain ⟨rfl, rfl⟩ := Prod.mk.inj (Except.ok.inj h)
      exact .inr ⟨challenge, rfl, rfl, rfl⟩

/-- A window that a moment falls into begins at most ten minutes before it. -/
theorem failsSince_of_within {userId : String} {since now : Instant} {entry : LinkEntry}
    (hnow : now ≤ since + Duration.minutes 10) (h : failsWithin userId since entry = true) :
    failsSince userId (now - Duration.minutes 10) entry = true := by
  unfold failsWithin at h
  unfold failsSince
  split at h
  · rename_i user now' hcall houtcome
    simp only [Bool.and_eq_true, decide_eq_true_eq] at h ⊢
    refine ⟨h.1, ?_⟩
    exact le_trans (sub_le_iff_le_add.mpr hnow) h.2.1
  · cases h

/-- **A failed attempt keeps the limit.** -/
theorem Limited.fail {g : LinkStage} (h : Limited g) {codeHash channel channelAccount : String}
    {userId : String} {now : Instant}
    (hfew : deniedAttempts g.state userId (now - Duration.minutes 10) < 5)
    (hexec : (linkMachine digest maxAttempts).exec g.state
        (.consumePrivate codeHash channel channelAccount userId now) =
      (.ok (.actor true none), g.state.audit
        (linkAttempt userId codeHash now "use" "denied" "invalid_or_expired"))) :
    Limited ((linkMachine digest maxAttempts).advance g
      (.consumePrivate codeHash channel channelAccount userId now)) := by
  have hentry : (linkMachine digest maxAttempts).entry g.state
      (.consumePrivate codeHash channel channelAccount userId now) =
        ⟨.consumePrivate codeHash channel channelAccount userId now, .ok (.actor true none)⟩ := by
    unfold Machine.entry
    rw [hexec]
  have hstate : ((linkMachine digest maxAttempts).advance g
      (.consumePrivate codeHash channel channelAccount userId now)).state =
        g.state.audit (linkAttempt userId codeHash now "use" "denied" "invalid_or_expired") := by
    rw [Machine.advance_state, hexec]
  constructor
  · intro user since
    rw [Machine.advance_log, List.countP_cons, hentry, hstate]
    have hevent : deniedAttempts
        (g.state.audit (linkAttempt userId codeHash now "use" "denied" "invalid_or_expired")) user
          since = deniedAttempts g.state user since +
            if (decide (userId = user) && decide (since ≤ now)) = true then 1 else 0 := by
      unfold deniedAttempts Database.audit
      rw [List.countP_append, List.countP_singleton]
      congr 1
      unfold linkAttempt
      by_cases huser : userId = user
      · by_cases htime : since ≤ now
        · simp [huser, htime]
        · simp [huser, htime]
      · simp [huser]
    rw [hevent]
    exact Nat.add_le_add_right (h.denied user since) _
  · intro user since
    rw [Machine.advance_log, List.countP_cons, hentry]
    by_cases hwithin : failsWithin user since
        ⟨.consumePrivate codeHash channel channelAccount userId now, .ok (.actor true none)⟩ = true
    · rw [if_pos hwithin]
      change (decide (userId = user) && decide (since ≤ now ∧ now ≤ since + Duration.minutes 10)) =
        true at hwithin
      simp only [Bool.and_eq_true, decide_eq_true_eq] at hwithin
      obtain ⟨rfl, -, hnow⟩ := hwithin
      have hold : g.log.countP (failsWithin userId since) ≤
          g.log.countP (failsSince userId (now - Duration.minutes 10)) :=
        List.countP_mono_left fun entry _ => failsSince_of_within hnow
      have hdenied := h.denied userId (now - Duration.minutes 10)
      omega
    · rw [if_neg hwithin]
      exact h.window user since

/-- **Every call keeps the limit.** -/
theorem Limited.advance (g : LinkStage) (call : LinkCall) (h : Limited g) :
    Limited ((linkMachine digest maxAttempts).advance g call) := by
  cases call with
  | issue userId subject now lifetime fresh code =>
    rcases exec_transaction g (.issue userId subject now lifetime fresh code) rfl with
      ⟨err, -, hexec⟩ | ⟨_, db', hrun, hexec⟩
    · refine h.quiet [] ?_ (fun _ _ => rfl) fun _ _ => rfl
      rw [Machine.advance_state, hexec, List.append_nil]
    · obtain ⟨_, _, -, -, -, rfl⟩ := IdentityLinkStore.issue_ok hrun
      refine h.quiet [] ?_ (fun _ _ => rfl) fun _ _ => rfl
      rw [Machine.advance_state, hexec, List.append_nil]
  | consume challengeId code identityId authorization =>
    have hexec : (linkMachine digest maxAttempts).exec g.state
        (.consume challengeId code identityId authorization) =
        (LinkAnswer.linked <$> IdentityLinkStore.consume digest maxAttempts challengeId code
          identityId authorization).exec g.state := rfl
    rw [Effect.exec_map] at hexec
    have hevents : ∃ events, ((linkMachine digest maxAttempts).advance g
        (.consume challengeId code identityId authorization)).state.auditEvents =
          g.state.auditEvents ++ events := by
      rw [Machine.advance_state, hexec]
      rcases IdentityLinkStore.consume_cases challengeId code identityId authorization g.state with
        ⟨err, -, hrun⟩ | ⟨redeemed, db', hredeem, hrun⟩
      · rw [hrun]
        exact ⟨[], (List.append_nil _).symm⟩
      · rw [hrun]
        obtain ⟨row, -, ⟨-, -, rfl⟩ | ⟨_, _, event, -, -, -, -, rfl⟩⟩ :=
          IdentityLinkStore.redeem_ok hredeem
        · exact ⟨[], (List.append_nil _).symm⟩
        · exact ⟨[event], rfl⟩
    obtain ⟨events, hevents⟩ := hevents
    exact h.quiet events hevents (fun _ _ => rfl) fun _ _ => rfl
  | issuePrivate challenge =>
    rcases exec_transaction g (.issuePrivate challenge) rfl with
      ⟨err, -, hexec⟩ | ⟨_, db', hrun, hexec⟩
    · refine h.quiet [] ?_ (fun _ _ => rfl) fun _ _ => rfl
      rw [Machine.advance_state, hexec, List.append_nil]
    · obtain ⟨_, _, event, -, -, rfl⟩ := ChannelRouteStore.issuePrivateLink_ok hrun
      refine h.quiet [event] ?_ (fun _ _ => rfl) fun _ _ => rfl
      rw [Machine.advance_state, hexec]
      rfl
  | consumePrivate codeHash channel channelAccount userId now =>
    rcases exec_transaction g (.consumePrivate codeHash channel channelAccount userId now) rfl with
      ⟨err, -, hexec⟩ | ⟨answer, db', hrun, hexec⟩
    · refine h.quiet [] ?_ (fun _ _ => ?_) fun _ _ => ?_
      · rw [Machine.advance_state, hexec, List.append_nil]
      · unfold Machine.entry
        rw [hexec]
        rfl
      · unfold Machine.entry
        rw [hexec]
        rfl
    · rcases consumePrivateLink_cases hrun with ⟨hevaluates, rfl, rfl⟩ |
        ⟨hevaluates, -, hfew, ⟨rfl, rfl⟩ | ⟨challenge, -, rfl, rfl⟩⟩
      · -- the attempt is not let through
        rw [hevaluates] at hexec
        refine h.quiet [] ?_ (fun _ _ => ?_) fun _ _ => ?_
        · rw [Machine.advance_state, hexec, List.append_nil]
        · unfold Machine.entry
          rw [hexec]
          rfl
        · unfold Machine.entry
          rw [hexec]
          rfl
      · rw [hevaluates] at hexec
        exact h.fail hfew hexec
      · refine h.quiet [linkAttempt userId codeHash now "update" "completed" "identity_bound"]
          ?_ (fun _ _ => ?_) fun _ _ => ?_
        · rw [Machine.advance_state, hexec]
          rfl
        · unfold Machine.entry
          rw [hexec, hevaluates]
          rfl
        · unfold Machine.entry
          rw [hexec, hevaluates]
          rfl
  | elsewhere externalIdentities users events =>
    exact h.quiet events rfl (fun _ _ => rfl) fun _ _ => rfl

/-! ### The actor of a code -/

/-- A call that has issued a code. -/
def issues (codeHash : String) (entry : LinkEntry) : Bool :=
  match entry.call, entry.outcome with
  | .issuePrivate challenge, .ok _ => challenge.codeHash = codeHash
  | _, _ => false

/-- A call that has returned the actor of a code. -/
def returns (codeHash : String) (entry : LinkEntry) : Bool :=
  match entry.call, entry.outcome with
  | .consumePrivate hash .., .ok (.actor _ (some _)) => hash = codeHash
  | _, _ => false

/-- How often the actor of a code was returned since the code was issued last. -/
def returnedSince (codeHash : String) : List LinkEntry → ℕ
  | [] => 0
  | entry :: older =>
    if issues codeHash entry then 0 else (returns codeHash entry).toNat + returnedSince codeHash older

theorem returnedSince_cons (codeHash : String) (entry : LinkEntry) (older : List LinkEntry) :
    returnedSince codeHash (entry :: older) =
      if issues codeHash entry then 0
      else (returns codeHash entry).toNat + returnedSince codeHash older := rfl

/-- **A code has returned its actor once at most, and not at all while it is open.** -/
structure Single (g : LinkStage) : Prop where
  once : ∀ codeHash, returnedSince codeHash g.log ≤ 1
  unused : ∀ row ∈ g.state.privateLinkChallenges.rows, row.consumedAt = none →
    returnedSince row.codeHash g.log = 0

/-- A call that neither issues a code nor returns an actor. -/
theorem Single.quiet {g : LinkStage} (h : Single g) {call : LinkCall}
    (hrows : ((linkMachine digest maxAttempts).advance g call).state.privateLinkChallenges =
      g.state.privateLinkChallenges)
    (hissues : ∀ codeHash,
      issues codeHash ((linkMachine digest maxAttempts).entry g.state call) = false)
    (hreturns : ∀ codeHash,
      returns codeHash ((linkMachine digest maxAttempts).entry g.state call) = false) :
    Single ((linkMachine digest maxAttempts).advance g call) := by
  have hsame : ∀ codeHash, returnedSince codeHash
      ((linkMachine digest maxAttempts).advance g call).log = returnedSince codeHash g.log := by
    intro codeHash
    rw [Machine.advance_log, returnedSince_cons, hissues, hreturns]
    exact Nat.zero_add _
  constructor
  · intro codeHash
    rw [hsame]
    exact h.once codeHash
  · intro row hrow hopen
    rw [hrows] at hrow
    rw [hsame]
    exact h.unused row hrow hopen

/-- A new code has returned nothing. -/
theorem Single.issue {g : LinkStage} (h : Single g) (challenge : PrivateLinkChallenge) :
    Single ((linkMachine digest maxAttempts).advance g (.issuePrivate challenge)) := by
  rcases exec_transaction g (.issuePrivate challenge) rfl with
    ⟨err, -, hexec⟩ | ⟨_, db', hrun, hexec⟩
  · refine h.quiet ?_ (fun _ => ?_) fun _ => ?_
    · rw [Machine.advance_state, hexec]
    · unfold Machine.entry
      rw [hexec]
      rfl
    · unfold Machine.entry
      rw [hexec]
      rfl
  · obtain ⟨dayBefore, challenges, event, -, hinsert, rfl⟩ :=
      ChannelRouteStore.issuePrivateLink_ok hrun
    have hstate : ((linkMachine digest maxAttempts).advance g
        (.issuePrivate challenge)).state.privateLinkChallenges = challenges := by
      rw [Machine.advance_state, hexec]
      rfl
    have hreturned : ∀ codeHash, returnedSince codeHash
        ((linkMachine digest maxAttempts).advance g (.issuePrivate challenge)).log =
          if challenge.codeHash = codeHash then 0 else returnedSince codeHash g.log := by
      intro codeHash
      rw [Machine.advance_log, returnedSince_cons]
      unfold Machine.entry
      rw [hexec]
      have hissues : issues codeHash ⟨.issuePrivate challenge, .ok .privateIssued⟩ =
          decide (challenge.codeHash = codeHash) := rfl
      have hreturns : returns codeHash ⟨.issuePrivate challenge, .ok .privateIssued⟩ = false := rfl
      simp only [hissues, hreturns, decide_eq_true_eq]
      by_cases hcode : challenge.codeHash = codeHash
      · rw [if_pos hcode, if_pos hcode]
      · rw [if_neg hcode, if_neg hcode]
        exact Nat.zero_add _
    constructor
    · intro codeHash
      rw [hreturned]
      by_cases hcode : challenge.codeHash = codeHash
      · rw [if_pos hcode]
        exact Nat.zero_le 1
      · rw [if_neg hcode]
        exact h.once codeHash
    · intro row hrow hopen
      rw [hstate, Table.rows_insert hinsert] at hrow
      rw [hreturned]
      by_cases hcode : challenge.codeHash = row.codeHash
      · rw [if_pos hcode]
      · rw [if_neg hcode]
        rcases List.mem_append.mp hrow with hold | hnew
        · exact h.unused row (List.mem_of_mem_filter hold) hopen
        · obtain rfl := List.mem_singleton.mp hnew
          exact absurd rfl hcode

/-- A code that returns its actor is used then. -/
theorem Single.return {g : LinkStage} (h : Single g) {codeHash channel channelAccount : String}
    {userId : String} {now : Instant} {challenge : PrivateLinkChallenge}
    (husable : usableLink g.state codeHash channel channelAccount now = some challenge)
    {evaluated : Bool} {db' : Database} {event : AuditEvent}
    (hafter : db' = Database.audit { g.state with
      privateLinkChallenges := g.state.privateLinkChallenges.updateWhere
        (fun c => c.codeHash = codeHash && c.consumedAt.isNone)
        fun c => { c with consumedAt := some now } } event)
    (hexec : (linkMachine digest maxAttempts).exec g.state
        (.consumePrivate codeHash channel channelAccount userId now) =
      (.ok (.actor evaluated (some challenge.privateActorRef)), db')) :
    Single ((linkMachine digest maxAttempts).advance g
      (.consumePrivate codeHash channel channelAccount userId now)) := by
  obtain ⟨hfind, hconditions⟩ := Option.filter_eq_some_iff.mp husable
  simp only [Bool.and_eq_true, decide_eq_true_eq] at hconditions
  obtain ⟨hstored, hcode⟩ := Table.find?_eq_some.mp hfind
  have hopen : challenge.consumedAt = none := Option.isNone_iff_eq_none.mp hconditions.1.2
  have hbefore : returnedSince codeHash g.log = 0 := by
    rw [← hcode]
    exact h.unused challenge hstored hopen
  have hreturned : ∀ code, returnedSince code ((linkMachine digest maxAttempts).advance g
      (.consumePrivate codeHash channel channelAccount userId now)).log =
        (decide (codeHash = code)).toNat + returnedSince code g.log := by
    intro code
    rw [Machine.advance_log, returnedSince_cons]
    unfold Machine.entry
    rw [hexec]
    rfl
  constructor
  · intro code
    rw [hreturned]
    by_cases hsame : codeHash = code
    · rw [decide_eq_true hsame, ← hsame, hbefore]
      exact le_refl 1
    · rw [decide_eq_false hsame]
      exact (Nat.zero_add _).trans_le (h.once code)
  · intro row hrow hopen'
    rw [Machine.advance_state, hexec] at hrow
    simp only at hrow
    rw [hafter] at hrow
    obtain ⟨r, hr, rfl⟩ := List.mem_map.mp hrow
    by_cases hselected : (decide (r.codeHash = codeHash) && r.consumedAt.isNone) = true
    · rw [if_pos hselected] at hopen'
      cases hopen'
    · rw [if_neg hselected] at hopen' ⊢
      have hother : codeHash ≠ r.codeHash := by
        intro hsame
        rw [← hsame, hopen'] at hselected
        simp at hselected
      rw [hreturned, decide_eq_false hother]
      exact (Nat.zero_add _).trans (h.unused r hr hopen')

/-- **Every call returns an actor once at most.** -/
theorem Single.advance (g : LinkStage) (call : LinkCall) (h : Single g) :
    Single ((linkMachine digest maxAttempts).advance g call) := by
  cases call with
  | issue userId subject now lifetime fresh code =>
    rcases exec_transaction g (.issue userId subject now lifetime fresh code) rfl with
      ⟨err, -, hexec⟩ | ⟨_, db', hrun, hexec⟩
    · refine h.quiet ?_ (fun _ => rfl) fun _ => rfl
      rw [Machine.advance_state, hexec]
    · obtain ⟨_, _, -, -, -, rfl⟩ := IdentityLinkStore.issue_ok hrun
      refine h.quiet ?_ (fun _ => rfl) fun _ => rfl
      rw [Machine.advance_state, hexec]
  | consume challengeId code identityId authorization =>
    have hexec : (linkMachine digest maxAttempts).exec g.state
        (.consume challengeId code identityId authorization) =
        (LinkAnswer.linked <$> IdentityLinkStore.consume digest maxAttempts challengeId code
          identityId authorization).exec g.state := rfl
    rw [Effect.exec_map] at hexec
    refine h.quiet ?_ (fun _ => rfl) fun _ => rfl
    rw [Machine.advance_state, hexec]
    rcases IdentityLinkStore.consume_cases challengeId code identityId authorization g.state with
      ⟨err, -, hrun⟩ | ⟨redeemed, db', hredeem, hrun⟩
    · rw [hrun]
    · rw [hrun]
      obtain ⟨row, -, ⟨-, -, rfl⟩ | ⟨_, _, event, -, -, -, -, rfl⟩⟩ :=
        IdentityLinkStore.redeem_ok hredeem
      · rfl
      · rfl
  | issuePrivate challenge => exact h.issue challenge
  | consumePrivate codeHash channel channelAccount userId now =>
    rcases exec_transaction g (.consumePrivate codeHash channel channelAccount userId now) rfl with
      ⟨err, -, hexec⟩ | ⟨answer, db', hrun, hexec⟩
    · refine h.quiet ?_ (fun _ => rfl) fun _ => ?_
      · rw [Machine.advance_state, hexec]
      · unfold Machine.entry
        rw [hexec]
        rfl
    · rcases consumePrivateLink_cases hrun with ⟨-, rfl, rfl⟩ |
        ⟨-, -, -, ⟨rfl, rfl⟩ | ⟨challenge, husable, rfl, hafter⟩⟩
      · refine h.quiet ?_ (fun _ => rfl) fun _ => ?_
        · rw [Machine.advance_state, hexec]
        · unfold Machine.entry
          rw [hexec]
          rfl
      · refine h.quiet ?_ (fun _ => rfl) fun _ => ?_
        · rw [Machine.advance_state, hexec]
          rfl
        · unfold Machine.entry
          rw [hexec]
          rfl
      · exact h.return husable hafter hexec
  | elsewhere externalIdentities users events => exact h.quiet rfl (fun _ => rfl) fun _ => rfl

/-! ### All runs -/

/-- The stores before any code. -/
def withoutCodes (db : Database) : Database :=
  { db with identityLinkChallenges := ∅, privateLinkChallenges := ∅ }

theorem counted_start (db : Database) : Counted maxAttempts (Machine.start (withoutCodes db)) where
  wrong := fun _ hrow => absurd hrow List.not_mem_nil
  bounded := fun _ hrow => absurd hrow List.not_mem_nil
  once := fun _ hrow => absurd hrow List.not_mem_nil
  unknown := fun _ _ => ⟨rfl, rfl⟩
  linked := fun _ hentry => absurd hentry List.not_mem_nil

/-- The wrong codes at a challenge are within the limit, whether or not it exists. -/
theorem Counted.wrong_le {g : LinkStage} (h : Counted maxAttempts g) (challengeId : String) :
    g.log.countP (wrongCode challengeId) ≤ maxAttempts.toNat := by
  cases hfind : g.state.identityLinkChallenges.find? challengeId with
  | none =>
    rw [(h.unknown challengeId (Table.find?_eq_none.mp hfind)).1]
    exact Nat.zero_le _
  | some row =>
    obtain ⟨hrow, rfl⟩ := Table.find?_eq_some.mp hfind
    rw [h.wrong row hrow]
    exact h.bounded row hrow

theorem Counted.redeems_le {g : LinkStage} (h : Counted maxAttempts g) (challengeId : String) :
    g.log.countP (redeems challengeId) ≤ 1 := by
  cases hfind : g.state.identityLinkChallenges.find? challengeId with
  | none =>
    rw [(h.unknown challengeId (Table.find?_eq_none.mp hfind)).2]
    exact Nat.zero_le _
  | some row =>
    obtain ⟨hrow, rfl⟩ := Table.find?_eq_some.mp hfind
    rw [h.once row hrow]
    by_cases hopen : row.consumedAt = none
    · rw [if_pos hopen]
      exact Nat.zero_le _
    · rw [if_neg hopen]

/-- A challenge that has seen as many wrong codes as it may is closed to every code. -/
theorem Counted.exhausted {g : LinkStage} (h : Counted maxAttempts g) {challengeId : String}
    (hcount : maxAttempts ≤ g.log.countP (wrongCode challengeId)) (code identityId : String)
    (authorization : AuthorizedAction) :
    ∃ err, (linkMachine digest maxAttempts).exec g.state
      (.consume challengeId code identityId authorization) = (.error err, g.state) := by
  have hexec : (linkMachine digest maxAttempts).exec g.state
      (.consume challengeId code identityId authorization) =
      (LinkAnswer.linked <$> IdentityLinkStore.consume digest maxAttempts challengeId code identityId
        authorization).exec g.state := rfl
  rw [Effect.exec_map] at hexec
  rcases IdentityLinkStore.consume_cases challengeId code identityId authorization g.state with
    ⟨err, -, hrun⟩ | ⟨redeemed, db', hredeem, hrun⟩
  · rw [hrun] at hexec
    exact ⟨err, hexec⟩
  · obtain ⟨row, hrow, -⟩ := IdentityLinkStore.redeem_ok hredeem
    obtain ⟨hstored, rfl⟩ := Table.find?_eq_some.mp hrow.stored
    rw [h.wrong row hstored] at hcount
    exact absurd hrow.attempts (not_lt.mpr hcount)

/-- What a call at a challenge does to the identities. -/
theorem consume_identities (g : LinkStage) (challengeId code identityId : String)
    (authorization : AuthorizedAction) :
    (∃ err, ((linkMachine digest maxAttempts).exec g.state
        (.consume challengeId code identityId authorization)).1 = .error err ∧
      ((linkMachine digest maxAttempts).exec g.state
        (.consume challengeId code identityId authorization)).2.externalIdentities =
          g.state.externalIdentities) ∨
    ∃ identity, ((linkMachine digest maxAttempts).exec g.state
        (.consume challengeId code identityId authorization)).1 = .ok (.linked identity) ∧
      ((linkMachine digest maxAttempts).exec g.state
        (.consume challengeId code identityId authorization)).2.externalIdentities.rows =
          g.state.externalIdentities.rows ++ [identity] := by
  have hexec : (linkMachine digest maxAttempts).exec g.state
      (.consume challengeId code identityId authorization) =
      (LinkAnswer.linked <$> IdentityLinkStore.consume digest maxAttempts challengeId code identityId
        authorization).exec g.state := rfl
  rw [Effect.exec_map] at hexec
  rw [hexec]
  rcases IdentityLinkStore.consume_cases challengeId code identityId authorization g.state with
    ⟨err, -, hrun⟩ | ⟨redeemed, db', hredeem, hrun⟩
  · rw [hrun]
    exact .inl ⟨err, rfl, rfl⟩
  · rw [hrun]
    obtain ⟨row, -, ⟨rfl, -, rfl⟩ | ⟨identity, identities, event, rfl, -, -, hinsert, rfl⟩⟩ :=
      IdentityLinkStore.redeem_ok hredeem
    · exact .inl ⟨_, rfl, rfl⟩
    · exact .inr ⟨identity, rfl, Table.rows_insert hinsert⟩

/-- **Link codes cannot be guessed at will or used twice.** At any moment of a run of both stores, with
anything else that happens to the identities, the users and the events: a challenge has compared at most
`maxAttempts` wrong codes, and when it has, it rejects every code; it has linked one identity at most,
to its own user and before it expired; a rejected call leaves the identities as they are, and one that
is not adds one; of the private codes a user has tried, at most five have failed within any ten minutes;
and since a code was issued its actor was returned once at most. -/
theorem link_codes_hold (digest : String → String → String) (maxAttempts : ℤ) (db : Database)
    (calls : List LinkCall) :
    let g := (linkMachine digest maxAttempts).replay (Machine.start (withoutCodes db)) calls
    (∀ challengeId, g.log.countP (wrongCode challengeId) ≤ maxAttempts.toNat) ∧
    (∀ challengeId, maxAttempts ≤ g.log.countP (wrongCode challengeId) →
      ∀ code identityId authorization, ∃ err, (linkMachine digest maxAttempts).exec g.state
        (.consume challengeId code identityId authorization) = (.error err, g.state)) ∧
    (∀ challengeId, g.log.countP (redeems challengeId) ≤ 1) ∧
    (∀ entry ∈ g.log, ∀ identity, entry.outcome = .ok (.linked identity) →
      ∃ row ∈ g.state.identityLinkChallenges.rows, ∃ code identityId authorization,
        entry.call = .consume row.id code identityId authorization ∧ identity.userId = row.userId ∧
          authorization.authorizedAt < row.expiresAt) ∧
    (∀ challengeId code identityId authorization,
      (∃ err, ((linkMachine digest maxAttempts).exec g.state
          (.consume challengeId code identityId authorization)).1 = .error err ∧
        ((linkMachine digest maxAttempts).exec g.state
          (.consume challengeId code identityId authorization)).2.externalIdentities =
            g.state.externalIdentities) ∨
      ∃ identity, ((linkMachine digest maxAttempts).exec g.state
          (.consume challengeId code identityId authorization)).1 = .ok (.linked identity) ∧
        ((linkMachine digest maxAttempts).exec g.state
          (.consume challengeId code identityId authorization)).2.externalIdentities.rows =
            g.state.externalIdentities.rows ++ [identity]) ∧
    (∀ userId since, g.log.countP (failsWithin userId since) ≤ 5) ∧
    ∀ codeHash, returnedSince codeHash g.log ≤ 1 := by
  intro g
  have hcounted : Counted maxAttempts g :=
    Machine.replay_invariant _ Counted.advance (counted_start db) calls
  have hlimited : Limited g := Machine.replay_invariant _ Limited.advance
    ⟨fun _ _ => Nat.zero_le _, fun _ _ => Nat.zero_le _⟩ calls
  have hsingle : Single g := Machine.replay_invariant _ Single.advance
    ⟨fun _ => Nat.zero_le _, fun _ hrow => absurd hrow List.not_mem_nil⟩ calls
  refine ⟨hcounted.wrong_le, fun challengeId hcount code identityId authorization => ?_,
    hcounted.redeems_le, hcounted.linked, fun challengeId code identityId authorization => ?_,
    hlimited.window, hsingle.once⟩
  · exact hcounted.exhausted hcount code identityId authorization
  · exact consume_identities g challengeId code identityId authorization

end LinkCodes

end Zhixu
