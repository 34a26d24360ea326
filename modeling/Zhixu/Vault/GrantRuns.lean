import Zhixu.Framework.Machine
import Zhixu.Vault.Grants

/-!
# Runs of the grant protocol

The two parties in one machine: a call issues a grant, with whatever key, request and random
bytes, or presents a token, with whatever text, secret and action. A run is any sequence of
such calls.

The environment promises two things, each relative to what has been called so far
(`Promised`). Random bytes are never drawn twice. And signatures are ideal: a token whose
signature verifies under a registered key carries bytes that the owner of the key has signed,
that is, bytes of a grant issued before. Nothing else is assumed of a token.

**What a presentation that is accepted has passed** (`Accepted`) is the inversion of
`verify_and_consume`; everything below rests on it. From it, and from the round trip of a
payload, comes what the signature was given for (`accepted_issued`).

The invariant of a run (`Kept`) speaks of the log: the nonces accepted so far are distinct, they
are the ones the table has a row of, each belongs to a grant that was issued, and a nonce
determines the call that issued it. The guarantee is read off it at every stage
(`grants_single_use_and_exact`): no nonce is accepted twice, an accepted presentation is exactly
what was issued and not expired, and an issued grant that has not been spent is accepted for
exactly its values until it expires.
-/

open Framework

namespace Zhixu.Vault

/-- A call of either party. -/
inductive GrantCall
  | issue (issuer : CapabilityGrantIssuer) (request : GrantRequest) (random : Bytes)
  | present (token secretId action : String)

inductive GrantOutcome
  | issued (result : Except VaultError String)
  | presented (result : Except VaultError VerifiedGrant)

/-! ### One presentation -/

/-- What a presentation that is accepted has passed, from a state to the next. -/
structure Accepted (verifier : CapabilityGrantVerifier) (sources : Sources)
    (token secretId action : String) (s : VaultState) (grant : VerifiedGrant) (s' : VaultState)
    (payload : GrantPayload) (expiresAt : Moment) : Prop where
  read : verifier.read token = .ok payload
  audience : payload.audience = verifier.audience
  secret : payload.secretId = secretId
  action_eq : payload.action = action
  expiry : payload.expiresAt.astimezone = .ok expiresAt
  current : (sources.clock s.ticks).1 < expiresAt.1
  nonce : payload.nonce ≠ ""
  subject : payload.subject = some grant.subject
  grant_eq : grant = ⟨payload.issuer, grant.subject, secretId, action, verifier.audience,
    payload.expiresAt, payload.authentication⟩
  consumed : ∃ nonces, s.database.grantNonces.insert?
      ⟨verifier.sha256 payload.nonce, grant.subject, secretId, action, expiresAt,
        sources.clock (s.ticks + 1)⟩ = some nonces ∧
    s' = { s with
      database := { s.database with grantNonces := nonces }
      ticks := s.ticks + 2 }

section Presentation

variable {verifier : CapabilityGrantVerifier} {sources : Sources} {token secretId action : String}
  {s s' : VaultState} {grant : VerifiedGrant}

theorem bound_ok {payload : GrantPayload} {expiresAt : Moment} :
    verifier.bound payload secretId action = .ok expiresAt ↔
      payload.audience = verifier.audience ∧ payload.secretId = secretId ∧
        payload.action = action ∧ payload.expiresAt.astimezone = .ok expiresAt := by
  unfold CapabilityGrantVerifier.bound
  rw [raiseIf_bind_ok, raiseIf_bind_ok, raiseIf_bind_ok, not_not, not_not, not_not]

theorem current_ok {payload : GrantPayload} {expiresAt time : Moment} {u : Unit} :
    payload.current expiresAt time = .ok u ↔ time.1 < expiresAt.1 ∧ payload.nonce ≠ "" := by
  unfold GrantPayload.current
  rw [raiseIf_bind_ok, raiseIf_eq_ok, not_le]

/-- **Inversion of a presentation.** -/
theorem verifyAndConsume_ok :
    (verifier.verifyAndConsume sources token secretId action).exec s = (.ok grant, s') ↔
      ∃ payload expiresAt, Accepted verifier sources token secretId action s grant s' payload
        expiresAt := by
  unfold CapabilityGrantVerifier.verifyAndConsume
  constructor
  · intro h
    obtain ⟨payload, s₁, hstep₁, h₁⟩ := Effect.exec_bind_ok.mp h
    obtain ⟨hread, rfl⟩ := Effect.exec_check_ok.mp hstep₁
    obtain ⟨expiresAt, s₂, hstep₂, h₂⟩ := Effect.exec_bind_ok.mp h₁
    obtain ⟨hbound, rfl⟩ := Effect.exec_check_ok.mp hstep₂
    obtain ⟨time, s₃, hstep₃, h₃⟩ := Effect.exec_bind_ok.mp h₂
    rw [exec_now, Prod.mk.injEq] at hstep₃
    obtain ⟨htime, rfl⟩ := hstep₃
    obtain rfl := Except.ok.inj htime
    obtain ⟨u, s₄, hstep₄, h₄⟩ := Effect.exec_bind_ok.mp h₃
    obtain ⟨hcurrent, rfl⟩ := Effect.exec_check_ok.mp hstep₄
    obtain ⟨subject, s₅, hstep₅, h₅⟩ := Effect.exec_bind_ok.mp h₄
    rw [Effect.exec_pure, Prod.mk.injEq] at h₅
    obtain ⟨hgrant, rfl⟩ := h₅
    obtain rfl := Except.ok.inj hgrant
    -- the transaction, statement by statement
    rw [exec_transaction_ok] at hstep₅
    obtain ⟨subject', s₆, hstep₆, h₆⟩ := Effect.exec_bind_ok.mp hstep₅
    obtain ⟨hsubject, rfl⟩ := Effect.exec_check_ok.mp hstep₆
    obtain ⟨consumedAt, s₇, hstep₇, h₇⟩ := Effect.exec_bind_ok.mp h₆
    rw [exec_now, Prod.mk.injEq] at hstep₇
    obtain ⟨hconsumed, rfl⟩ := hstep₇
    obtain rfl := Except.ok.inj hconsumed
    obtain ⟨u', s₈, hstep₈, h₈⟩ := Effect.exec_bind_ok.mp h₇
    rw [Effect.exec_pure, Prod.mk.injEq] at h₈
    obtain ⟨hsame, rfl⟩ := h₈
    obtain rfl := Except.ok.inj hsame
    obtain ⟨db, hdb, rfl⟩ := exec_statement_ok.mp hstep₈
    obtain ⟨haudience, hsecret, haction, hexpiry⟩ := bound_ok.mp hbound
    obtain ⟨htime, hnonce⟩ := current_ok.mp hcurrent
    have hfound : payload.subject = some subject' := by
      unfold GrantPayload.requireSubject at hsubject
      cases hp : payload.subject with
      | none => rw [hp] at hsubject; exact absurd hsubject (by simp)
      | some found =>
        rw [hp] at hsubject
        rw [Except.ok.inj hsubject]
    refine ⟨payload, expiresAt, hread, haudience, hsecret, haction, hexpiry, htime, hnonce, hfound,
      rfl, ?_⟩
    unfold consumeNonce at hdb
    simp only at hdb
    split at hdb
    · exact absurd hdb (by simp)
    · rename_i nonces hinsert
      exact ⟨nonces, hinsert, by rw [← Except.ok.inj hdb]⟩
  · rintro ⟨payload, expiresAt, h⟩
    obtain ⟨nonces, hinsert, rfl⟩ := h.consumed
    have hbound := bound_ok.mpr ⟨h.audience, h.secret, h.action_eq, h.expiry⟩
    have hcurrent : payload.current expiresAt (sources.clock s.ticks) = .ok () :=
      current_ok.mpr ⟨h.current, h.nonce⟩
    have hsubject : payload.requireSubject = .ok grant.subject := by
      unfold GrantPayload.requireSubject
      rw [h.subject]
    have hconsume : consumeNonce ⟨verifier.sha256 payload.nonce, grant.subject, secretId, action,
        expiresAt, sources.clock (s.ticks + 1)⟩ s.database =
          .ok { s.database with grantNonces := nonces } := by
      unfold consumeNonce
      rw [hinsert]
    rw [Effect.exec_check_bind, h.read]
    simp only
    rw [Effect.exec_check_bind, hbound]
    simp only
    rw [Effect.exec_bind, exec_now]
    simp only
    rw [Effect.exec_check_bind, hcurrent]
    simp only
    rw [Effect.exec_bind, exec_transaction, Effect.exec_check_bind, hsubject]
    simp only
    rw [Effect.exec_bind, exec_now]
    simp only
    rw [Effect.exec_bind, exec_statement, hconsume]
    simp only [Effect.exec_pure]
    rw [h.grant_eq]

/-- **A presentation that is refused** leaves the database as it was. -/
theorem verifyAndConsume_error {e : VaultError}
    (h : (verifier.verifyAndConsume sources token secretId action).exec s = (.error e, s')) :
    s'.database = s.database := by
  unfold CapabilityGrantVerifier.verifyAndConsume at h
  rw [Effect.exec_check_bind] at h
  cases hread : verifier.read token with
  | error e' => rw [hread] at h; simp only [Prod.mk.injEq] at h; rw [← h.2]
  | ok payload =>
    rw [hread] at h
    simp only at h
    rw [Effect.exec_check_bind] at h
    cases hbound : verifier.bound payload secretId action with
    | error e' => rw [hbound] at h; simp only [Prod.mk.injEq] at h; rw [← h.2]
    | ok expiresAt =>
      rw [hbound] at h
      simp only at h
      rw [Effect.exec_bind, exec_now] at h
      simp only at h
      rw [Effect.exec_check_bind] at h
      cases hcurrent : payload.current expiresAt (sources.clock s.ticks) with
      | error e' => rw [hcurrent] at h; simp only [Prod.mk.injEq] at h; rw [← h.2]
      | ok u =>
        rw [hcurrent] at h
        simp only at h
        rw [Effect.exec_bind] at h
        split at h
        · exact absurd h (by simp)
        · rename_i hexec
          have hkept := exec_transaction_error hexec
          simp only [Prod.mk.injEq] at h
          rw [← h.2, hkept]

end Presentation

/-! ### The machine of both parties -/

variable (ed25519 : Ed25519) (rendering : Rendering)
  (fromisoformat : String → Except VaultError Datetime) (issuers : String → Option Bytes)
  (audience : String) (sha256 : String → String) (sources : Sources)

/-- The issuers and the verifier, on the state of the vault. -/
def grantMachine : Machine VaultState GrantCall GrantOutcome where
  exec s
    | .issue issuer request random => (.issued (issuer.issue ed25519 request random), s)
    | .present token secretId action =>
      let verifier := CapabilityGrantVerifier.ofIssuers ed25519 rendering fromisoformat issuers
        audience sha256
      let (result, s') := (verifier.verifyAndConsume sources token secretId action).exec s
      (.presented result, s')

/-- A call of the log issued this grant. -/
def Issued (log : List (Entry GrantCall GrantOutcome)) (issuer : CapabilityGrantIssuer)
    (request : GrantRequest) (random : Bytes) (token : String) : Prop :=
  ⟨.issue issuer request random, .issued (.ok token)⟩ ∈ log

/-- What the environment promises about a call, given the calls before it: random bytes are
new, and what verifies under a registered key has been signed with that key. -/
def Promised (g : Stage VaultState GrantCall GrantOutcome) : GrantCall → Prop
  | .issue _ _ random => random.length = 24 ∧
      ∀ e ∈ g.log, ∀ issuer request random', e.call = .issue issuer request random' →
        random' ≠ random
  | .present token _ _ => ∀ bytes signature name key,
      tokenParts token = some (bytes, signature) → issuers name = some key →
        ed25519.verify key signature bytes = true →
          ∃ issuer request random token', Issued g.log issuer request random token' ∧
            ed25519.publicKey issuer.privateKey = key ∧
            encodedGrant issuer.issuer request random = .ok bytes

/-- The token of an entry that is an accepted presentation. -/
def acceptedToken (e : Entry GrantCall GrantOutcome) : Option String :=
  match e.call, e.outcome with
  | .present token _ _, .presented (.ok _) => some token
  | _, _ => none

/-- The nonce a token carries, as the verifier reads it. -/
def tokenNonce (token : String) : Option String :=
  (readToken ed25519 rendering fromisoformat issuers token).toOption.map GrantPayload.nonce

/-- The nonces accepted so far, newest first. -/
def acceptedNonces (log : List (Entry GrantCall GrantOutcome)) : List String :=
  log.filterMap fun e => (acceptedToken e).bind
    (tokenNonce ed25519 rendering fromisoformat issuers)

/-- A presentation of the signed bytes has been accepted. -/
def Spent (log : List (Entry GrantCall GrantOutcome)) (bytes : Bytes) : Prop :=
  ∃ e ∈ log, ∃ token signature, acceptedToken e = some token ∧
    tokenParts token = some (bytes, signature)

variable {ed25519 rendering fromisoformat issuers audience sha256 sources}

theorem issue_ok {issuer : CapabilityGrantIssuer} {request : GrantRequest} {random : Bytes}
    {token : String} : issuer.issue ed25519 request random = .ok token ↔
      ∃ bytes, encodedGrant issuer.issuer request random = .ok bytes ∧
        token = String.ofList (b64 bytes ++ '.' :: b64 (ed25519.sign issuer.privateKey bytes)) := by
  unfold CapabilityGrantIssuer.issue
  rw [bind_eq_ok]
  constructor
  · rintro ⟨bytes, hbytes, h⟩
    exact ⟨bytes, hbytes, (Except.ok.inj h).symm⟩
  · rintro ⟨bytes, hbytes, rfl⟩
    exact ⟨bytes, hbytes, rfl⟩

theorem encodedGrant_ok {name : String} {request : GrantRequest} {random bytes : Bytes} :
    encodedGrant name request random = .ok bytes ↔
      request.expiresAt.aware = true ∧ ∃ expiresAt, request.expiresAt.astimezone = .ok expiresAt ∧
        bytes = utf8 (Json.writeFields
          (grantFields name request expiresAt (tokenUrlsafe random))) := by
  unfold encodedGrant
  rw [raiseIf_bind_ok, bind_eq_ok, Bool.not_eq_false]
  constructor
  · rintro ⟨haware, expiresAt, hexpiry, h⟩
    exact ⟨haware, expiresAt, hexpiry, (Except.ok.inj h).symm⟩
  · rintro ⟨haware, expiresAt, hexpiry, rfl⟩
    exact ⟨haware, expiresAt, hexpiry, rfl⟩

theorem astimezone_of_utc {value : Datetime} {t : Moment} (h : value.utc = t.1) :
    value.astimezone = .ok t := by
  unfold Datetime.astimezone
  rw [dif_pos (h ▸ t.2)]
  congr 1
  exact Subtype.ext h

/-- The law of the standard library: `fromisoformat` reads back what `isoformat` writes. -/
def ReadsBack (fromisoformat : String → Except VaultError Datetime) : Prop :=
  ∀ t : Moment, ∃ value, fromisoformat (isoformat t) = .ok value ∧ value.utc = t ∧
    value.aware = true

/-- **What a readable token was signed for.** Its fields are those of a grant that was issued,
under the key the verifier knows the issuer by. -/
theorem readToken_issued {g : Stage VaultState GrantCall GrantOutcome}
    {token secretId action : String} {payload : GrantPayload} (hround : ReadsBack fromisoformat)
    (hpromised : Promised ed25519 issuers g (.present token secretId action))
    (hread : readToken ed25519 rendering fromisoformat issuers token = .ok payload) :
    ∃ issuer request random token' bytes signature expiresAt value,
      Issued g.log issuer request random token' ∧
      issuers issuer.issuer = some (ed25519.publicKey issuer.privateKey) ∧
      encodedGrant issuer.issuer request random = .ok bytes ∧
      tokenParts token = some (bytes, signature) ∧
      request.expiresAt.astimezone = .ok expiresAt ∧
      value.astimezone = .ok expiresAt ∧
      payload = issuedPayload issuer.issuer request value (tokenUrlsafe random) := by
  obtain ⟨bytes, ⟨signature, key, hparts, hkey, hverify⟩, members, hmembers, hfields⟩ :=
    readToken_ok hread
  obtain ⟨issuer, request, random, token', hissued, hpublic, hencoded⟩ :=
    hpromised bytes signature payload.issuer key hparts hkey hverify
  obtain ⟨-, expiresAt, hexpiry, hbytes⟩ := encodedGrant_ok.mp hencoded
  obtain ⟨value, hparse, hutc, haware⟩ := hround expiresAt
  -- the bytes are those of an issued payload, so the members and the fields are
  rw [hbytes, payloadMembers_writeFields] at hmembers
  rw [← Option.some.inj hmembers, payloadOf_grantFields hparse haware] at hfields
  have hpayload := (Option.some.inj hfields).symm
  have hissuer : payload.issuer = issuer.issuer := by rw [hpayload]; rfl
  refine ⟨issuer, request, random, token', bytes, signature, expiresAt, value, hissued, ?_,
    hencoded, hparts, hexpiry, astimezone_of_utc hutc, hpayload⟩
  rw [← hissuer, hkey, hpublic]

/-! ### The invariant of a run -/

/-- What holds at every stage of a run. -/
structure Kept (ed25519 : Ed25519) (rendering : Rendering)
    (fromisoformat : String → Except VaultError Datetime) (issuers : String → Option Bytes)
    (sha256 : String → String) (g : Stage VaultState GrantCall GrantOutcome) : Prop where
  once : (acceptedNonces ed25519 rendering fromisoformat issuers g.log).Nodup
  /-- the table has a row for exactly the accepted nonces -/
  rows : ∀ hash, (∃ row, g.state.database.grantNonces.find? hash = some row) ↔
    ∃ nonce ∈ acceptedNonces ed25519 rendering fromisoformat issuers g.log, sha256 nonce = hash
  /-- an accepted nonce is that of a grant that was issued, and whose bytes were accepted -/
  source : ∀ nonce ∈ acceptedNonces ed25519 rendering fromisoformat issuers g.log,
    ∃ issuer request random token bytes, Issued g.log issuer request random token ∧
      encodedGrant issuer.issuer request random = .ok bytes ∧ nonce = tokenUrlsafe random ∧
      Spent g.log bytes
  /-- random bytes determine the call that drew them -/
  drawn : ∀ {issuer request random token issuer' request' token'},
    Issued g.log issuer request random token → Issued g.log issuer' request' random token' →
      issuer = issuer' ∧ request = request'
  nonempty : ∀ {issuer request random token}, Issued g.log issuer request random token →
    random ≠ []
  answered : ∀ {issuer request random token}, Issued g.log issuer request random token →
    issuer.issue ed25519 request random = .ok token

theorem Issued.mono {log : List (Entry GrantCall GrantOutcome)} {e : Entry GrantCall GrantOutcome}
    {issuer : CapabilityGrantIssuer} {request : GrantRequest} {random : Bytes} {token : String}
    (h : Issued log issuer request random token) : Issued (e :: log) issuer request random token :=
  List.mem_cons_of_mem _ h

theorem Spent.mono {log : List (Entry GrantCall GrantOutcome)} {e : Entry GrantCall GrantOutcome}
    {bytes : Bytes} (h : Spent log bytes) : Spent (e :: log) bytes := by
  obtain ⟨e', he', h'⟩ := h
  exact ⟨e', List.mem_cons_of_mem _ he', h'⟩

/-- An entry that accepts nothing adds no nonce. -/
theorem acceptedNonces_cons_none {log : List (Entry GrantCall GrantOutcome)}
    {e : Entry GrantCall GrantOutcome} (h : acceptedToken e = none) :
    acceptedNonces ed25519 rendering fromisoformat issuers (e :: log) =
      acceptedNonces ed25519 rendering fromisoformat issuers log := by
  unfold acceptedNonces
  rw [List.filterMap_cons_none (by rw [h]; rfl)]

/-- One that accepts a token adds its nonce. -/
theorem acceptedNonces_cons_some {log : List (Entry GrantCall GrantOutcome)}
    {e : Entry GrantCall GrantOutcome} {token : String} {payload : GrantPayload}
    (h : acceptedToken e = some token)
    (hread : readToken ed25519 rendering fromisoformat issuers token = .ok payload) :
    acceptedNonces ed25519 rendering fromisoformat issuers (e :: log) =
      payload.nonce :: acceptedNonces ed25519 rendering fromisoformat issuers log := by
  unfold acceptedNonces
  refine List.filterMap_cons_some ?_
  rw [h]
  show tokenNonce ed25519 rendering fromisoformat issuers token = some payload.nonce
  unfold tokenNonce
  rw [hread]
  rfl

/-- The state before anything was accepted. -/
theorem kept_start {s : VaultState} (h : s.database.grantNonces = ∅) :
    Kept ed25519 rendering fromisoformat issuers sha256 (Machine.start s) where
  once := List.nodup_nil
  rows hash := by
    rw [Machine.start_state, h, Table.find?_empty]
    constructor
    · rintro ⟨row, hrow⟩
      exact absurd hrow (by simp)
    · rintro ⟨nonce, hnonce, -⟩
      exact absurd hnonce List.not_mem_nil
  source nonce hnonce := absurd hnonce List.not_mem_nil
  drawn h := absurd h List.not_mem_nil
  nonempty h := absurd h List.not_mem_nil
  answered h := absurd h List.not_mem_nil

/-- A step that issues nothing and accepts nothing keeps the invariant. -/
theorem Kept.quiet {g : Stage VaultState GrantCall GrantOutcome}
    (h : Kept ed25519 rendering fromisoformat issuers sha256 g)
    {e : Entry GrantCall GrantOutcome} {s' : VaultState} (haccepted : acceptedToken e = none)
    (hissued : ∀ {issuer request random token}, Issued (e :: g.log) issuer request random token →
      Issued g.log issuer request random token)
    (hrows : s'.database.grantNonces = g.state.database.grantNonces) :
    Kept ed25519 rendering fromisoformat issuers sha256 ⟨e :: g.log, s'⟩ where
  once := by
    rw [acceptedNonces_cons_none haccepted]
    exact h.once
  rows hash := by
    rw [acceptedNonces_cons_none haccepted]
    show (∃ row, s'.database.grantNonces.find? hash = some row) ↔ _
    rw [hrows]
    exact h.rows hash
  source nonce hnonce := by
    rw [acceptedNonces_cons_none haccepted] at hnonce
    obtain ⟨issuer, request, random, token, bytes, hi, hb, hn, hs⟩ := h.source nonce hnonce
    exact ⟨issuer, request, random, token, bytes, hi.mono, hb, hn, hs.mono⟩
  drawn h₁ h₂ := h.drawn (hissued h₁) (hissued h₂)
  nonempty h₁ := h.nonempty (hissued h₁)
  answered h₁ := h.answered (hissued h₁)

/-- The step that issues a grant. -/
theorem Kept.issue {g : Stage VaultState GrantCall GrantOutcome}
    (h : Kept ed25519 rendering fromisoformat issuers sha256 g) {issuer : CapabilityGrantIssuer}
    {request : GrantRequest} {random : Bytes}
    (hpromised : Promised ed25519 issuers g (.issue issuer request random)) :
    Kept ed25519 rendering fromisoformat issuers sha256
      ((grantMachine ed25519 rendering fromisoformat issuers audience sha256 sources).advance g
        (.issue issuer request random)) := by
  obtain ⟨hlength, hfresh⟩ := hpromised
  have hsame : acceptedNonces ed25519 rendering fromisoformat issuers
      (⟨.issue issuer request random, .issued (issuer.issue ed25519 request random)⟩ :: g.log) =
        acceptedNonces ed25519 rendering fromisoformat issuers g.log :=
    acceptedNonces_cons_none rfl
  -- an issue of the new log is the one just made, or an earlier one with other random bytes
  have hcases : ∀ {issuer' : CapabilityGrantIssuer} {request' : GrantRequest} {random' : Bytes}
      {token' : String},
      Issued (⟨.issue issuer request random, .issued (issuer.issue ed25519 request random)⟩ ::
        g.log) issuer' request' random' token' →
      (issuer' = issuer ∧ request' = request ∧ random' = random ∧
          issuer.issue ed25519 request random = .ok token') ∨
        (Issued g.log issuer' request' random' token' ∧ random' ≠ random) := by
    intro issuer' request' random' token' hmem
    rcases List.mem_cons.mp hmem with heq | hold
    · simp only [Entry.mk.injEq, GrantCall.issue.injEq, GrantOutcome.issued.injEq] at heq
      obtain ⟨⟨rfl, rfl, rfl⟩, htoken⟩ := heq
      exact .inl ⟨rfl, rfl, rfl, htoken.symm⟩
    · exact .inr ⟨hold, hfresh _ hold _ _ _ rfl⟩
  refine ⟨?_, ?_, ?_, ?_, ?_, ?_⟩
  · show (acceptedNonces _ _ _ _ (_ :: g.log)).Nodup
    rw [Machine.entry]
    exact hsame ▸ h.once
  · intro hash
    rw [Machine.advance_log, Machine.entry]
    exact hsame ▸ h.rows hash
  · intro nonce hnonce
    rw [Machine.advance_log, Machine.entry] at hnonce
    obtain ⟨issuer', request', random', token', bytes, hi, hb, hn, hs⟩ :=
      h.source nonce (hsame ▸ hnonce)
    exact ⟨issuer', request', random', token', bytes, hi.mono, hb, hn, hs.mono⟩
  · intro issuer₁ request₁ random₁ token₁ issuer₂ request₂ token₂ h₁ h₂
    rcases hcases h₁ with ⟨rfl, rfl, hr, -⟩ | ⟨hold₁, hne₁⟩
    · rcases hcases h₂ with ⟨rfl, rfl, -, -⟩ | ⟨-, hne₂⟩
      · exact ⟨rfl, rfl⟩
      · exact absurd hr hne₂
    · rcases hcases h₂ with ⟨-, -, hr, -⟩ | ⟨hold₂, -⟩
      · exact absurd hr hne₁
      · exact h.drawn hold₁ hold₂
  · intro issuer' request' random' token' h'
    rcases hcases h' with ⟨-, -, rfl, -⟩ | ⟨hold, -⟩
    · intro hempty
      rw [hempty] at hlength
      exact absurd hlength (by decide)
    · exact h.nonempty hold
  · intro issuer' request' random' token' h'
    rcases hcases h' with ⟨rfl, rfl, rfl, htoken⟩ | ⟨hold, -⟩
    · exact htoken
    · exact h.answered hold

/-- No presentation issues anything. -/
theorem Issued.of_present {log : List (Entry GrantCall GrantOutcome)}
    {token secretId action : String} {outcome : GrantOutcome} {issuer : CapabilityGrantIssuer}
    {request : GrantRequest} {random : Bytes} {token' : String}
    (h : Issued (⟨.present token secretId action, outcome⟩ :: log) issuer request random token') :
    Issued log issuer request random token' := by
  rcases List.mem_cons.mp h with heq | hold
  · simp at heq
  · exact hold

/-- The step that presents a token. -/
theorem Kept.present {g : Stage VaultState GrantCall GrantOutcome}
    (h : Kept ed25519 rendering fromisoformat issuers sha256 g) (hround : ReadsBack fromisoformat)
    {token secretId action : String}
    (hpromised : Promised ed25519 issuers g (.present token secretId action)) :
    Kept ed25519 rendering fromisoformat issuers sha256
      ((grantMachine ed25519 rendering fromisoformat issuers audience sha256 sources).advance g
        (.present token secretId action)) := by
  rcases hexec : ((CapabilityGrantVerifier.ofIssuers ed25519 rendering fromisoformat issuers
    audience sha256).verifyAndConsume sources token secretId action).exec g.state
      with ⟨result, s'⟩
  have hadvance : (grantMachine ed25519 rendering fromisoformat issuers audience sha256
      sources).advance g (.present token secretId action) =
        ⟨⟨.present token secretId action, .presented result⟩ :: g.log, s'⟩ := by
    simp only [Machine.advance, Machine.entry, grantMachine, hexec]
  rw [hadvance]
  cases result with
  | error e =>
    refine h.quiet rfl Issued.of_present ?_
    rw [verifyAndConsume_error hexec]
  | ok grant =>
    obtain ⟨payload, expiresAt, haccepted⟩ := verifyAndConsume_ok.mp hexec
    obtain ⟨nonces, hinsert, rfl⟩ := haccepted.consumed
    have hread : readToken ed25519 rendering fromisoformat issuers token = .ok payload :=
      haccepted.read
    obtain ⟨issuer, request, random, token', bytes, signature, expiry, value, hissued, -, hbytes,
      hparts, -, -, hpayload⟩ := readToken_issued hround hpromised hread
    have hnonces : acceptedNonces ed25519 rendering fromisoformat issuers
        (⟨.present token secretId action, .presented (.ok grant)⟩ :: g.log) =
          payload.nonce :: acceptedNonces ed25519 rendering fromisoformat issuers g.log :=
      acceptedNonces_cons_some rfl hread
    -- the row is new, so its nonce has not been accepted before
    have hfree : g.state.database.grantNonces.find? (sha256 payload.nonce) = none :=
      (Table.insert?_eq_some.mp hinsert).1
    have hnew : payload.nonce ∉
        acceptedNonces ed25519 rendering fromisoformat issuers g.log := by
      intro hmem
      obtain ⟨row, hrow⟩ := (h.rows (sha256 payload.nonce)).mpr ⟨payload.nonce, hmem, rfl⟩
      rw [hfree] at hrow
      exact absurd hrow (by simp)
    refine ⟨?_, ?_, ?_, ?_, ?_, ?_⟩
    · rw [hnonces]
      exact List.nodup_cons.mpr ⟨hnew, h.once⟩
    · intro hash
      show (∃ row, nonces.find? hash = some row) ↔ _
      have hfind := Table.find?_insert hinsert hash
      by_cases hhash : hash = sha256 payload.nonce
      · rw [hnonces, hfind.trans (if_pos hhash)]
        exact ⟨fun _ => ⟨payload.nonce, by simp, hhash.symm⟩, fun _ => ⟨_, rfl⟩⟩
      · rw [hnonces, hfind.trans (if_neg hhash), h.rows hash]
        constructor
        · rintro ⟨nonce, hnonce, heq⟩
          exact ⟨nonce, List.mem_cons_of_mem _ hnonce, heq⟩
        · rintro ⟨nonce, hnonce, heq⟩
          rcases List.mem_cons.mp hnonce with rfl | hold
          · exact absurd heq.symm hhash
          · exact ⟨nonce, hold, heq⟩
    · intro nonce hnonce
      rw [hnonces] at hnonce
      rcases List.mem_cons.mp hnonce with rfl | hold
      · exact ⟨issuer, request, random, token', bytes, hissued.mono, hbytes,
          by rw [hpayload]; rfl, _, List.mem_cons_self, token, signature, rfl, hparts⟩
      · obtain ⟨issuer', request', random', token'', bytes', hi, hb, hn, hs⟩ := h.source nonce hold
        exact ⟨issuer', request', random', token'', bytes', hi.mono, hb, hn, hs.mono⟩
    · exact fun h₁ h₂ => h.drawn h₁.of_present h₂.of_present
    · exact fun h₁ => h.nonempty h₁.of_present
    · exact fun h₁ => h.answered h₁.of_present

/-- **The invariant**, at every stage of a run. -/
theorem kept_of_reaches {s : VaultState} {g : Stage VaultState GrantCall GrantOutcome}
    (hround : ReadsBack fromisoformat) (hempty : s.database.grantNonces = ∅)
    (hrun : (grantMachine ed25519 rendering fromisoformat issuers audience sha256 sources).Reaches
      (Promised ed25519 issuers) (Machine.start s) g) :
    Kept ed25519 rendering fromisoformat issuers sha256 g := by
  refine Machine.Reaches.invariant (kept_start hempty) hrun fun g c hc hkept => ?_
  cases c with
  | issue issuer request random => exact hkept.issue hc
  | present token secretId action => exact hkept.present hround hc

/-! ### The guarantee -/

/-- What a run of grants guarantees at a stage. -/
structure SingleUseAndExact (ed25519 : Ed25519) (rendering : Rendering)
    (fromisoformat : String → Except VaultError Datetime) (issuers : String → Option Bytes)
    (audience : String) (sha256 : String → String) (sources : Sources)
    (g : Stage VaultState GrantCall GrantOutcome) : Prop where
  /-- no nonce has been accepted twice -/
  once : (acceptedNonces ed25519 rendering fromisoformat issuers g.log).Nodup
  /-- a presentation that is accepted is that of a grant its issuer signed for these very
  values, and not expired -/
  exact_values : ∀ {token secretId action grant s'},
    Promised ed25519 issuers g (.present token secretId action) →
    (grantMachine ed25519 rendering fromisoformat issuers audience sha256 sources).exec g.state
      (.present token secretId action) = (.presented (.ok grant), s') →
    ∃ issuer request random issuedToken expiresAt,
      Issued g.log issuer request random issuedToken ∧
      issuers issuer.issuer = some (ed25519.publicKey issuer.privateKey) ∧
      request.secretId = secretId ∧ request.action = action ∧ request.audience = audience ∧
      request.expiresAt.astimezone = .ok expiresAt ∧
      (sources.clock g.state.ticks).1 < expiresAt.1 ∧
      grant.issuer = issuer.issuer ∧ grant.subject = request.subject ∧
      grant.secretId = request.secretId ∧ grant.action = request.action ∧
      grant.audience = request.audience ∧ grant.authentication = request.authentication
  /-- a grant that was issued, and whose bytes have not been accepted, is accepted until it
  expires for exactly its own values, and for no others -/
  verifies : ∀ {issuer request random token bytes expiresAt secretId action},
    Issued g.log issuer request random token →
    issuers issuer.issuer = some (ed25519.publicKey issuer.privateKey) →
    encodedGrant issuer.issuer request random = .ok bytes →
    request.expiresAt.astimezone = .ok expiresAt →
    (sources.clock g.state.ticks).1 < expiresAt.1 →
    ¬ Spent g.log bytes →
    ((∃ grant s', (grantMachine ed25519 rendering fromisoformat issuers audience sha256
        sources).exec g.state (.present token secretId action) = (.presented (.ok grant), s')) ↔
      request.audience = audience ∧ request.secretId = secretId ∧ request.action = action)

theorem exec_present {s s' : VaultState} {token secretId action : String}
    {result : Except VaultError VerifiedGrant} :
    (grantMachine ed25519 rendering fromisoformat issuers audience sha256 sources).exec s
        (.present token secretId action) = (.presented result, s') ↔
      ((CapabilityGrantVerifier.ofIssuers ed25519 rendering fromisoformat issuers audience
        sha256).verifyAndConsume sources token secretId action).exec s = (result, s') := by
  simp only [grantMachine]
  generalize ((CapabilityGrantVerifier.ofIssuers ed25519 rendering fromisoformat issuers audience
    sha256).verifyAndConsume sources token secretId action).exec s = answer
  rcases answer with ⟨result', s''⟩
  simp only [Prod.mk.injEq, GrantOutcome.presented.injEq]

/-- An accepted presentation, at a stage of a run. -/
theorem accepted_issued {g : Stage VaultState GrantCall GrantOutcome} {s' : VaultState}
    {token secretId action : String} {grant : VerifiedGrant} (hround : ReadsBack fromisoformat)
    (hpromised : Promised ed25519 issuers g (.present token secretId action))
    (hexec : (grantMachine ed25519 rendering fromisoformat issuers audience sha256 sources).exec
      g.state (.present token secretId action) = (.presented (.ok grant), s')) :
    ∃ issuer request random issuedToken expiresAt,
      Issued g.log issuer request random issuedToken ∧
      issuers issuer.issuer = some (ed25519.publicKey issuer.privateKey) ∧
      request.secretId = secretId ∧ request.action = action ∧ request.audience = audience ∧
      request.expiresAt.astimezone = .ok expiresAt ∧
      (sources.clock g.state.ticks).1 < expiresAt.1 ∧
      grant.issuer = issuer.issuer ∧ grant.subject = request.subject ∧
      grant.secretId = request.secretId ∧ grant.action = request.action ∧
      grant.audience = request.audience ∧ grant.authentication = request.authentication := by
  obtain ⟨payload, expiresAt, haccepted⟩ := verifyAndConsume_ok.mp (exec_present.mp hexec)
  obtain ⟨issuer, request, random, issuedToken, bytes, signature, expiry, value, hissued, hkey, -,
    -, hexpiry, hvalue, rfl⟩ := readToken_issued hround hpromised haccepted.read
  have hsubject : request.subject = grant.subject := Option.some.inj haccepted.subject
  have hsecret : request.secretId = secretId := haccepted.secret
  have haction : request.action = action := haccepted.action_eq
  have haudience : request.audience = audience := haccepted.audience
  -- the instant the verifier compared is the one the issuer was asked for
  have hsame : expiry = expiresAt := by
    have hread : value.astimezone = .ok expiresAt := haccepted.expiry
    rw [hvalue] at hread
    exact Except.ok.inj hread
  have hgrant := haccepted.grant_eq
  refine ⟨issuer, request, random, issuedToken, expiresAt, hissued, hkey, hsecret, haction,
    haudience, hsame ▸ hexpiry, haccepted.current, ?_, hsubject.symm, ?_, ?_, ?_, ?_⟩
  · rw [hgrant]; rfl
  · rw [hgrant, hsecret]
  · rw [hgrant, haction]
  · rw [hgrant, haudience]; rfl
  · rw [hgrant]; rfl

/-- The nonce of an unspent grant has no row. -/
theorem Kept.free {g : Stage VaultState GrantCall GrantOutcome}
    (h : Kept ed25519 rendering fromisoformat issuers sha256 g)
    (hsha256 : Function.Injective sha256) {issuer : CapabilityGrantIssuer} {request : GrantRequest}
    {random bytes : Bytes} {token : String} (hissued : Issued g.log issuer request random token)
    (hbytes : encodedGrant issuer.issuer request random = .ok bytes)
    (hunspent : ¬ Spent g.log bytes) :
    g.state.database.grantNonces.find? (sha256 (tokenUrlsafe random)) = none := by
  cases hrow : g.state.database.grantNonces.find? (sha256 (tokenUrlsafe random)) with
  | none => rfl
  | some row =>
    obtain ⟨nonce, hnonce, hhash⟩ := (h.rows _).mp ⟨row, hrow⟩
    obtain ⟨issuer', request', random', token', bytes', hi, hb, hn, hs⟩ := h.source nonce hnonce
    -- the hash determines the nonce, the nonce the random bytes, and these the grant
    have hrandom : random' = random :=
      tokenUrlsafe_injective (hn.symm.trans (hsha256 hhash))
    subst hrandom
    obtain ⟨rfl, rfl⟩ := h.drawn hi hissued
    rw [hbytes] at hb
    rw [Except.ok.inj hb] at hunspent
    exact absurd hs hunspent

/-- **Grants are single-use and exact.** At every stage of every run: no nonce has been accepted
twice, what is accepted was signed for exactly what it is accepted for and has not expired, and
a grant that was issued is accepted, once, for exactly its values until it expires. -/
theorem grants_single_use_and_exact (ideal : ed25519.Ideal) (hsha256 : Function.Injective sha256)
    (hround : ReadsBack fromisoformat) {s : VaultState} (hempty : s.database.grantNonces = ∅)
    {g : Stage VaultState GrantCall GrantOutcome}
    (hrun : (grantMachine ed25519 rendering fromisoformat issuers audience sha256 sources).Reaches
      (Promised ed25519 issuers) (Machine.start s) g) :
    SingleUseAndExact ed25519 rendering fromisoformat issuers audience sha256 sources g := by
  have hkept := kept_of_reaches hround hempty hrun
  refine ⟨hkept.once, fun hpromised hexec => accepted_issued hround hpromised hexec, ?_⟩
  intro issuer request random token bytes expiresAt secretId action hissued hkey hbytes hexpiry
    hcurrent hunspent
  have hissue := hkept.answered hissued
  obtain ⟨expiry, value, hexpiry', hutc, hread⟩ : ∃ expiry value,
      request.expiresAt.astimezone = .ok expiry ∧ value.utc = expiry.1 ∧
        readToken ed25519 rendering fromisoformat issuers token =
          .ok (issuedPayload issuer.issuer request value (tokenUrlsafe random)) :=
    readToken_issue ideal hissue hkey hround
  rw [hexpiry] at hexpiry'
  obtain rfl := Except.ok.inj hexpiry'
  constructor
  · rintro ⟨grant, s', hexec⟩
    obtain ⟨payload, expiresAt', haccepted⟩ := verifyAndConsume_ok.mp (exec_present.mp hexec)
    have hpayload : payload = issuedPayload issuer.issuer request value (tokenUrlsafe random) := by
      have hread' : readToken ed25519 rendering fromisoformat issuers token = .ok payload :=
        haccepted.read
      rw [hread] at hread'
      exact (Except.ok.inj hread').symm
    subst hpayload
    exact ⟨haccepted.audience, haccepted.secret, haccepted.action_eq⟩
  · rintro ⟨haudience, hsecret, haction⟩
    have hfree := hkept.free hsha256 hissued hbytes hunspent
    obtain ⟨nonces, hinsert⟩ : ∃ nonces, g.state.database.grantNonces.insert?
        ⟨sha256 (tokenUrlsafe random), request.subject, secretId, action, expiresAt,
          sources.clock (g.state.ticks + 1)⟩ = some nonces := by
      cases hins : g.state.database.grantNonces.insert? ⟨sha256 (tokenUrlsafe random),
        request.subject, secretId, action, expiresAt, sources.clock (g.state.ticks + 1)⟩ with
      | some nonces => exact ⟨nonces, rfl⟩
      | none =>
        obtain ⟨row, hrow⟩ := Table.insert?_eq_none.mp hins
        rw [hfree] at hrow
        exact absurd hrow (by simp)
    have haccepted : Accepted (CapabilityGrantVerifier.ofIssuers ed25519 rendering fromisoformat
        issuers audience sha256) sources token secretId action g.state
        ⟨issuer.issuer, request.subject, secretId, action, audience, value, request.authentication⟩
        { g.state with
          database := { g.state.database with grantNonces := nonces }
          ticks := g.state.ticks + 2 }
        (issuedPayload issuer.issuer request value (tokenUrlsafe random)) expiresAt :=
      ⟨hread, haudience, hsecret, haction, astimezone_of_utc hutc, hcurrent,
        tokenUrlsafe_ne_empty (hkept.nonempty hissued), rfl, rfl, nonces, hinsert, rfl⟩
    exact ⟨_, _, exec_present.mpr (verifyAndConsume_ok.mpr ⟨_, expiresAt, haccepted⟩)⟩

section Example

/-- A scheme that signs by writing the key in front. -/
def prefixSignatures : Ed25519 where
  publicKey key := key
  sign key message := key ++ message
  verify key signature message := signature = key ++ message

theorem prefixSignatures_ideal : prefixSignatures.Ideal where
  verify_sign key message := by simp [prefixSignatures]

open Classical in
/-- The instant a text is the `isoformat` of. -/
noncomputable def parseIso (text : String) : Except VaultError Datetime :=
  if h : ∃ t : Moment, isoformat t = text then .ok ⟨h.choose.1, true⟩
  else .error (.value "Invalid isoformat string")

theorem parseIso_readsBack : ReadsBack parseIso := by
  intro t
  have h : ∃ t' : Moment, isoformat t' = isoformat t := ⟨t, rfl⟩
  refine ⟨⟨h.choose.1, true⟩, dif_pos h, ?_, rfl⟩
  exact isoformat_injective h.choose.2 t.2 h.choose_spec

/-- An issuer whose key is one byte. -/
def exampleIssuer : CapabilityGrantIssuer := ⟨[7], "zhixu"⟩

/-- A grant to use the secret `s` until an hour past the epoch. -/
def exampleRequest : GrantRequest :=
  ⟨"user_a", "s", "use", "zhixu-vault", ⟨3600000000, true⟩, "standard"⟩

/-- A clock that stands still at the epoch. -/
def exampleSources : Sources where
  clock _ := .epoch
  random _ length := List.replicate length 0
  length_random := length_zeros

noncomputable def exampleMachine : Machine VaultState GrantCall GrantOutcome :=
  grantMachine prefixSignatures ⟨fun _ => "", fun _ => false⟩ parseIso
    (fun name => if name = "zhixu" then some [7] else none) "zhixu-vault" id exampleSources

/-- The token of the example's grant is accepted for its values, and for no other action. -/
theorem grants_single_use_and_exact_issued :
    ∃ token, exampleIssuer.issue prefixSignatures exampleRequest (List.replicate 24 1) = .ok token ∧
      ∀ action, (∃ grant s', exampleMachine.exec {} (.present token "s" action) =
        (.presented (.ok grant), s')) ↔ action = "use" := by
  have hexpiry : exampleRequest.expiresAt.astimezone = .ok ⟨3600000000, by decide⟩ := rfl
  have hencoded : encodedGrant exampleIssuer.issuer exampleRequest (List.replicate 24 1) =
      .ok (utf8 (Json.writeFields (grantFields exampleIssuer.issuer exampleRequest
        ⟨3600000000, by decide⟩ (tokenUrlsafe (List.replicate 24 1))))) :=
    encodedGrant_ok.mpr ⟨rfl, _, hexpiry, rfl⟩
  obtain ⟨token, htoken⟩ : ∃ token,
      exampleIssuer.issue prefixSignatures exampleRequest (List.replicate 24 1) = .ok token :=
    ⟨_, issue_ok.mpr ⟨_, hencoded, rfl⟩⟩
  refine ⟨token, htoken, fun action => ?_⟩
  -- the run that issues the grant
  let issueCall : GrantCall := .issue exampleIssuer exampleRequest (List.replicate 24 1)
  have hpromised : Promised prefixSignatures (fun name => if name = "zhixu" then some [7] else none)
      (Machine.start {}) issueCall := ⟨List.length_replicate, fun e he => absurd he (by simp)⟩
  have hrun : exampleMachine.Reaches (Promised prefixSignatures
      fun name => if name = "zhixu" then some [7] else none) (Machine.start {})
        (exampleMachine.advance (Machine.start {}) issueCall) :=
    Machine.Reaches.call .refl hpromised
  have hentry : exampleMachine.advance (Machine.start {}) issueCall =
      ⟨[⟨issueCall, .issued (.ok token)⟩], {}⟩ := by
    rw [← htoken]
    rfl
  rw [hentry] at hrun
  have hexact := grants_single_use_and_exact prefixSignatures_ideal Function.injective_id
    parseIso_readsBack rfl hrun
  have hunspent : ¬ Spent [⟨issueCall, .issued (.ok token)⟩]
      (utf8 (Json.writeFields (grantFields exampleIssuer.issuer exampleRequest
        ⟨3600000000, by decide⟩ (tokenUrlsafe (List.replicate 24 1))))) := by
    rintro ⟨e, he, text, signature, haccepted, -⟩
    obtain rfl := List.mem_singleton.mp he
    exact absurd haccepted (by simp [acceptedToken, issueCall])
  have htime : (0 : Int) < 3600000000 := by decide
  have hverifies : (∃ grant s', exampleMachine.exec {} (.present token "s" action) =
      (.presented (.ok grant), s')) ↔ exampleRequest.audience = "zhixu-vault" ∧
        exampleRequest.secretId = "s" ∧ exampleRequest.action = action :=
    hexact.verifies (List.mem_singleton.mpr rfl) rfl hencoded hexpiry htime hunspent
  refine hverifies.trans ⟨fun h => h.2.2.symm, ?_⟩
  rintro rfl
  exact ⟨rfl, rfl, rfl⟩

end Example

end Zhixu.Vault
