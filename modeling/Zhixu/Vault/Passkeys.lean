import Zhixu.Framework.Machine
import Zhixu.Vault.Grants

/-!
# Passkey ceremonies

A passkey is registered, or used for a step-up proof, in two calls. The first stores a challenge. The
second picks the newest challenge of the user that is still unconsumed, has the response verified
against it, and then consumes it and writes the credential in one transaction. The two tables are
shared by all users and by both purposes. The WebAuthn package that makes options and verifies
responses is a parameter (`PasskeyManager`).

A finishing call reads the clock twice: before the challenge is picked, and again after the response
was verified. What it does is said once (`finishRegistration_cases`, `finishAuthentication_cases`):
either the response is accepted, and then the challenge is consumed at the second reading, or the call
raises and nothing was written.

Two things depend on the second reading. The statement that consumes the challenge asks whether it is
consumed, and does not ask again whether it has expired. And the end of the proof is computed after
the transaction was committed, so a reading in the last five minutes of the year 9999 consumes the
challenge and raises.
-/

open Framework

namespace Zhixu.Vault

/-! ### Rows -/

/-- `purpose` of a challenge. -/
inductive Purpose
  | registration
  | authentication
deriving DecidableEq, Repr

/-- A row of `webauthn_challenges`. -/
structure PasskeyChallenge where
  id : String
  userId : String
  purpose : Purpose
  challenge : List Char
  expiresAt : Moment
  consumedAt : Option Moment
deriving DecidableEq

/-- A row of `webauthn_credentials`. -/
structure PasskeyCredential where
  credentialId : String
  userId : String
  publicKey : List Char
  signCount : Int
  /-- `transports_json` -/
  transports : List String
  createdAt : Moment
  lastUsedAt : Option Moment
deriving DecidableEq

/-- The two tables of the ceremonies. -/
structure PasskeyTables where
  challenges : Table PasskeyChallenge PasskeyChallenge.id := ∅
  credentials : Table PasskeyCredential PasskeyCredential.credentialId := ∅
deriving DecidableEq

/-- What the ceremonies raise. -/
inductive PasskeyError
  | permission (message : String)
  /-- `sqlite3.IntegrityError` -/
  | integrity
  /-- `OverflowError` -/
  | overflow
  /-- `AttributeError` -/
  | attribute
  /-- `json.JSONDecodeError` -/
  | json
  /-- `binascii.Error` -/
  | binascii
  /-- what the WebAuthn package raised -/
  | webauthn (name : String)
deriving DecidableEq, Repr

/-! ### The manager -/

/-- A `credential`: a text, or the members of an object. -/
inductive PasskeyResponse
  | text (value : String)
  | object (members : List (String × Json))

/-- What `verify_registration_response` returns. -/
structure VerifiedRegistration where
  credentialId : Bytes
  credentialPublicKey : Bytes
  signCount : Int

structure StepUpProof where
  userId : String
  credentialId : String
  authenticatedAt : Moment
  expiresAt : Moment
deriving DecidableEq

/-- A `PasskeyManager`. The challenge of a set of options is drawn by the package, so the functions
that make them take it as an argument, and return the JSON text. -/
structure PasskeyManager where
  rpId : String
  rpName : String
  expectedOrigin : String
  challengeTtl : Duration := Duration.minutes 5
  rendering : Rendering
  sha256 : String → Bytes
  generateRegistrationOptions : String → String → Bytes → String → String → List Bytes → Bytes →
    Except PasskeyError String
  generateAuthenticationOptions : String → List Bytes → Bytes → Except PasskeyError String
  registrationVerifier : PasskeyResponse → Bytes → String → String →
    Except PasskeyError VerifiedRegistration
  authenticationVerifier : PasskeyResponse → Bytes → String → String → Bytes → Int →
    Except PasskeyError Int

/-- A verifier that checks the counter: the new count exceeds the stored one, or both are zero. -/
def PasskeyManager.Counting (manager : PasskeyManager) : Prop :=
  ∀ {response challenge rpId origin publicKey stored count},
    manager.authenticationVerifier response challenge rpId origin publicKey stored = .ok count →
      stored < count ∨ stored = 0 ∧ count = 0

/-- Code of the ceremonies. -/
abbrev PasskeyM := Effect PasskeyTables PasskeyError

/-- `_unb64`. -/
def unb64 (text : List Char) : Except PasskeyError Bytes :=
  match b64decode text with
  | none => .error .binascii
  | some bytes => .ok bytes

/-- `_descriptors`. -/
def descriptors (userId : String) (tables : PasskeyTables) : Except PasskeyError (List Bytes) :=
  (tables.credentials.rows.filter fun row => row.userId = userId).mapM fun row =>
    unb64 row.credentialId.toList

/-- `when + delta`. -/
def Moment.plus (time : Moment) (delta : Duration) : Except PasskeyError Moment :=
  if h : Instant.InRange (time.1 + delta) then .ok ⟨time.1 + delta, h⟩ else .error .overflow

/-- `_store_challenge`. -/
def storeChallenge (ttl : Duration) (userId : String) (purpose : Purpose) (challenge : Bytes)
    (token : String) (now : Moment) : PasskeyM Unit :=
  Effect.atomically fun tables => do
    let expiresAt ← now.plus ttl
    match tables.challenges.insert? {
      id := "challenge_" ++ token
      userId, purpose
      challenge := b64 challenge
      expiresAt
      consumedAt := none } with
    | none => throw .integrity
    | some challenges => return ((), { tables with challenges })

/-- A challenge that is open to a user for a purpose. -/
def PasskeyChallenge.pending (userId : String) (purpose : Purpose) (row : PasskeyChallenge) : Bool :=
  row.userId = userId ∧ row.purpose = purpose ∧ row.consumedAt = none

/-- The statement of `_pending_challenge`: `ORDER BY expires_at DESC LIMIT 1`. -/
def newestChallenge (tables : PasskeyTables) (userId : String) (purpose : Purpose) :
    Option PasskeyChallenge :=
  (tables.challenges.select (PasskeyChallenge.pending userId purpose) fun row other =>
    other.expiresAt.1 ≤ row.expiresAt.1).head?

/-- `_pending_challenge`. -/
def pendingChallenge (userId : String) (purpose : Purpose) (now : Moment) (tables : PasskeyTables) :
    Except PasskeyError (String × Bytes) :=
  match newestChallenge tables userId purpose with
  | none => throw (.permission "Passkey challenge is missing or expired")
  | some row => do
    raiseIf (row.expiresAt.1 ≤ now.1) (.permission "Passkey challenge is missing or expired")
    return (row.id, ← unb64 row.challenge)

/-- `UPDATE webauthn_challenges SET consumed_at=? WHERE id=? AND consumed_at IS NULL`. -/
def PasskeyTables.consume (tables : PasskeyTables) (challengeId : String) (now : Moment) :
    PasskeyTables :=
  { tables with
    challenges := tables.challenges.updateWhere
      (fun row => row.id = challengeId && row.consumedAt.isNone) fun row =>
        { row with consumedAt := some now } }

/-- The statement that consumes a challenge, and the check of its row count. -/
def consumeChallenge (challengeId : String) (now : Moment) (tables : PasskeyTables) :
    Except PasskeyError PasskeyTables := do
  raiseIf (tables.challenges.count (fun row => row.id = challengeId && row.consumedAt.isNone) ≠ 1)
    (.permission "Passkey challenge was already consumed")
  return tables.consume challengeId now

/-- The statement that writes the new count of a credential. -/
def PasskeyTables.use (tables : PasskeyTables) (userId credentialId : String) (newSignCount : Int)
    (now : Moment) : PasskeyTables :=
  { tables with
    credentials := tables.credentials.updateWhere
      (fun row => row.credentialId = credentialId && row.userId = userId) fun row =>
        { row with signCount := newSignCount, lastUsedAt := some now } }

/-- The transaction of `finish_registration`. -/
def storeCredential (challengeId : String) (credential : PasskeyCredential) (now : Moment) :
    Transaction PasskeyTables PasskeyError Unit := fun tables => do
  let tables ← consumeChallenge challengeId now tables
  match tables.credentials.insert? credential with
  | none => throw .integrity
  | some credentials => return ((), { tables with credentials })

/-- The transaction of `finish_authentication`. -/
def useCredential (challengeId userId credentialId : String) (newSignCount : Int) (now : Moment) :
    Transaction PasskeyTables PasskeyError Unit := fun tables => do
  let tables ← consumeChallenge challengeId now tables
  return ((), tables.use userId credentialId newSignCount now)

/-- The transports a response names. -/
def PasskeyResponse.transports (rendering : Rendering) : PasskeyResponse → List String
  | .text _ => []
  | .object members =>
    match Json.get? members "response" with
    | some (.obj response) =>
      match Json.get? response "transports" with
      | some (.arr items) => items.map rendering.str
      | _ => []
    | _ => []

/-- `str(value.get("id") or "")`, of the object a response is or reads as. -/
def PasskeyResponse.credentialId (rendering : Rendering) :
    PasskeyResponse → Except PasskeyError String
  | .text value =>
    match Json.loads value.toList with
    | none => .error .json
    | some (.obj members) => .ok (rendering.getOrEmpty members "id")
    | some _ => .error .attribute
  | .object members => .ok (rendering.getOrEmpty members "id")

namespace PasskeyManager

variable (manager : PasskeyManager)

/-- `begin_registration`. -/
def beginRegistration (userId userName displayName : String) (challenge : Bytes) (token : String)
    (now : Moment) : PasskeyM String := do
  let existing ← Effect.query (descriptors userId)
  let options ← Effect.check (manager.generateRegistrationOptions manager.rpId manager.rpName
    (manager.sha256 userId) userName displayName existing challenge)
  storeChallenge manager.challengeTtl userId .registration challenge token now
  return options

/-- The row a registration inserts. -/
def credentialRow (userId : String) (credential : PasskeyResponse) (verification : VerifiedRegistration)
    (now : Moment) : PasskeyCredential where
  credentialId := String.ofList (b64 verification.credentialId)
  userId := userId
  publicKey := b64 verification.credentialPublicKey
  signCount := verification.signCount
  transports := credential.transports manager.rendering
  createdAt := now
  lastUsedAt := none

/-- `finish_registration`: the clock shows `now` when the challenge is picked, and `verified` when the
response has been verified. -/
def finishRegistration (userId : String) (credential : PasskeyResponse) (now verified : Moment) :
    PasskeyM String := do
  let (challengeId, challenge) ← Effect.query (pendingChallenge userId .registration now)
  let verification ← Effect.check (manager.registrationVerifier credential challenge manager.rpId
    manager.expectedOrigin)
  Effect.atomically (storeCredential challengeId
    (manager.credentialRow userId credential verification verified) verified)
  return String.ofList (b64 verification.credentialId)

/-- `begin_authentication`. -/
def beginAuthentication (userId : String) (challenge : Bytes) (token : String) (now : Moment) :
    PasskeyM String := do
  let descriptors ← Effect.query (descriptors userId)
  Effect.check (raiseIf (descriptors = []) (.permission "user has no registered passkey"))
  let options ← Effect.check (manager.generateAuthenticationOptions manager.rpId descriptors challenge)
  storeChallenge manager.challengeTtl userId .authentication challenge token now
  return options

/-- The credential of a user, by its id. -/
def registered (tables : PasskeyTables) (userId credentialId : String) : Option PasskeyCredential :=
  (tables.credentials.find? credentialId).filter fun row => row.userId = userId

/-- The credential of a user, or the refusal. -/
def lookUp (userId credentialId : String) (tables : PasskeyTables) :
    Except PasskeyError PasskeyCredential :=
  match registered tables userId credentialId with
  | none => .error (.permission "Passkey credential is not registered for this user")
  | some row => .ok row

/-- `finish_authentication`. -/
def finishAuthentication (userId : String) (credential : PasskeyResponse) (now verified : Moment) :
    PasskeyM StepUpProof := do
  let credentialId ← Effect.check (credential.credentialId manager.rendering)
  let (challengeId, challenge) ← Effect.query (pendingChallenge userId .authentication now)
  let row ← Effect.query (lookUp userId credentialId)
  let publicKey ← Effect.check (unb64 row.publicKey)
  let newSignCount ← Effect.check (manager.authenticationVerifier credential challenge manager.rpId
    manager.expectedOrigin publicKey row.signCount)
  Effect.atomically (useCredential challengeId userId credentialId newSignCount verified)
  -- the end of the proof is computed when the challenge is already consumed
  let expiresAt ← Effect.check (verified.plus (Duration.minutes 5))
  return { userId, credentialId, authenticatedAt := verified, expiresAt }

end PasskeyManager

/-! ### What a finishing call does -/

section Picking

variable {tables : PasskeyTables} {userId : String} {purpose : Purpose} {now time : Moment}
  {row : PasskeyChallenge} {challenge : Bytes}

/-- The challenge a finishing call picks, with its bytes. -/
structure Picks (tables : PasskeyTables) (userId : String) (purpose : Purpose) (now : Moment)
    (row : PasskeyChallenge) (challenge : Bytes) : Prop where
  newest : newestChallenge tables userId purpose = some row
  current : now.1 < row.expiresAt.1
  bytes : unb64 row.challenge = .ok challenge

theorem pendingChallenge_ok {picked : String × Bytes} :
    pendingChallenge userId purpose now tables = .ok picked ↔
      ∃ row, Picks tables userId purpose now row picked.2 ∧ picked.1 = row.id := by
  unfold pendingChallenge
  constructor
  · intro h
    cases hnewest : newestChallenge tables userId purpose with
    | none => rw [hnewest] at h; exact nomatch h
    | some row =>
      rw [hnewest] at h
      obtain ⟨hcurrent, hread⟩ := raiseIf_bind_ok.mp h
      obtain ⟨challenge, hbytes, hpicked⟩ := bind_eq_ok.mp hread
      obtain rfl := Except.ok.inj hpicked
      exact ⟨row, ⟨hnewest, not_le.mp hcurrent, hbytes⟩, rfl⟩
  · rintro ⟨row, hpicks, hid⟩
    rw [hpicks.newest]
    refine raiseIf_bind_ok.mpr ⟨not_le.mpr hpicks.current, bind_eq_ok.mpr ⟨picked.2, hpicks.bytes, ?_⟩⟩
    rw [← hid]
    rfl

/-- The challenge picked is a row of the table, of that user and purpose, and not consumed. -/
theorem Picks.stored (h : Picks tables userId purpose now row challenge) :
    tables.challenges.find? row.id = some row ∧ row.userId = userId ∧ row.purpose = purpose ∧
      row.consumedAt = none := by
  obtain ⟨hmem, hpending⟩ := Table.mem_select.mp (List.mem_of_head? h.newest)
  have hparts := of_decide_eq_true hpending
  exact ⟨Table.find?_of_mem hmem, hparts⟩

/-- Only one challenge is picked. -/
theorem Picks.unique {row' : PasskeyChallenge} {challenge' : Bytes}
    (h : Picks tables userId purpose now row challenge)
    (h' : Picks tables userId purpose now row' challenge') : row' = row ∧ challenge' = challenge := by
  have hrow : row = row' := Option.some.inj (h.newest.symm.trans h'.newest)
  subst hrow
  exact ⟨rfl, Except.ok.inj (h'.bytes.symm.trans h.bytes)⟩

/-- Calls come one at a time, so the challenge picked is there to be consumed. -/
theorem Picks.consume (h : Picks tables userId purpose now row challenge) :
    consumeChallenge row.id time tables = .ok (tables.consume row.id time) := by
  obtain ⟨hfind, -, -, hopen⟩ := h.stored
  have hcount : tables.challenges.count (fun r => r.id = row.id && r.consumedAt.isNone) = 1 :=
    Table.count_key (q := fun r => r.consumedAt.isNone) hfind (by rw [hopen]; rfl)
  unfold consumeChallenge
  exact raiseIf_bind_ok.mpr ⟨not_not.mpr hcount, rfl⟩

/-- Consuming a challenge rewrites its row and no other. -/
theorem find?_consume (hfind : tables.challenges.find? row.id = some row)
    (hopen : row.consumedAt = none) (id : String) :
    (tables.consume row.id time).challenges.find? id =
      if id = row.id then some { row with consumedAt := some time }
      else tables.challenges.find? id := by
  unfold PasskeyTables.consume
  rw [Table.find?_updateWhere]
  by_cases hid : id = row.id
  · rw [hid, hfind, if_pos rfl, Option.map_some, if_pos]
    rw [hopen]
    simp
  · rw [if_neg hid]
    cases hother : tables.challenges.find? id with
    | none => rfl
    | some other =>
      have hne : ¬ other.id = row.id := fun heq => hid ((Table.key_of_find? hother).symm.trans heq)
      rw [Option.map_some, if_neg (by simp [hne])]

/-- A credential id that is taken takes the whole registration back. -/
theorem storeCredential_run {credential : PasskeyCredential}
    (h : Picks tables userId purpose now row challenge) :
    (storeCredential row.id credential time).run tables =
      match tables.credentials.insert? credential with
      | none => .error .integrity
      | some credentials => .ok ((), { tables.consume row.id time with credentials }) := by
  change (consumeChallenge row.id time tables >>= _) = _
  rw [h.consume]
  change (match tables.credentials.insert? credential with
    | none => _
    | some _ => _) = _
  cases tables.credentials.insert? credential <;> rfl

theorem useCredential_run {credentialId : String} {count : Int}
    (h : Picks tables userId purpose now row challenge) :
    (useCredential row.id userId credentialId count time).run tables =
      .ok ((), (tables.consume row.id time).use userId credentialId count time) := by
  change (consumeChallenge row.id time tables >>= _) = _
  rw [h.consume]
  rfl

@[simp] theorem credentials_consume (id : String) :
    (tables.consume id time).credentials = tables.credentials := rfl

@[simp] theorem challenges_use (credentialId : String) (count : Int) :
    (tables.use userId credentialId count time).challenges = tables.challenges := rfl

end Picking

section Finishing

variable {manager : PasskeyManager} {tables : PasskeyTables} {userId : String}
  {credential : PasskeyResponse} {now verified : Moment}

/-- A registration that goes through: the response is verified against the challenge picked, and
the credential is not known yet. -/
structure Registers (manager : PasskeyManager) (tables : PasskeyTables) (userId : String)
    (credential : PasskeyResponse) (now verified : Moment) (row : PasskeyChallenge)
    (challenge : Bytes) (verification : VerifiedRegistration)
    (credentials : Table PasskeyCredential PasskeyCredential.credentialId) : Prop where
  picks : Picks tables userId .registration now row challenge
  verifies : manager.registrationVerifier credential challenge manager.rpId manager.expectedOrigin =
    .ok verification
  inserts : tables.credentials.insert?
    (manager.credentialRow userId credential verification verified) = some credentials

/-- **A registration, by cases**: the response is accepted, and then the challenge is consumed and the
credential stored, or the call raises and wrote nothing. -/
theorem finishRegistration_cases :
    (∃ row challenge verification credentials,
      Registers manager tables userId credential now verified row challenge verification credentials ∧
        (manager.finishRegistration userId credential now verified).exec tables =
          (.ok (String.ofList (b64 verification.credentialId)),
            { tables.consume row.id verified with credentials })) ∨
    (∀ row challenge verification credentials, ¬ Registers manager tables userId credential now verified
        row challenge verification credentials) ∧
      ∃ e, (manager.finishRegistration userId credential now verified).exec tables =
        (.error e, tables) := by
  unfold PasskeyManager.finishRegistration
  rw [Effect.exec_bind, Effect.exec_query]
  cases hpending : pendingChallenge userId .registration now tables with
  | error e =>
    refine .inr ⟨fun row challenge _ _ h => ?_, e, rfl⟩
    have hok : pendingChallenge userId .registration now tables = .ok (row.id, challenge) :=
      pendingChallenge_ok.mpr ⟨row, h.picks, rfl⟩
    exact nomatch hpending.symm.trans hok
  | ok picked =>
    obtain ⟨row, hpicks, hid⟩ := pendingChallenge_ok.mp hpending
    obtain ⟨challengeId, challenge⟩ := picked
    obtain rfl : challengeId = row.id := hid
    simp only
    rw [Effect.exec_bind, Effect.exec_check]
    cases hverify : manager.registrationVerifier credential challenge manager.rpId
        manager.expectedOrigin with
    | error e =>
      refine .inr ⟨fun row' challenge' _ _ h => ?_, e, rfl⟩
      obtain ⟨-, rfl⟩ := hpicks.unique h.picks
      exact nomatch hverify.symm.trans h.verifies
    | ok verification =>
      simp only
      rw [Effect.exec_bind, Effect.exec_atomically]
      rw [storeCredential_run hpicks]
      cases hinsert : tables.credentials.insert?
          (manager.credentialRow userId credential verification verified) with
      | none =>
        refine .inr ⟨fun row' challenge' verification' credentials h => ?_, .integrity, rfl⟩
        obtain ⟨rfl, rfl⟩ := hpicks.unique h.picks
        obtain rfl := Except.ok.inj (h.verifies.symm.trans hverify)
        exact nomatch hinsert.symm.trans h.inserts
      | some credentials =>
        exact .inl ⟨row, challenge, verification, credentials, ⟨hpicks, hverify, hinsert⟩, rfl⟩

/-- An authentication that goes through: the credential is one of the user, and the response is
verified against the challenge picked. -/
structure Authenticates (manager : PasskeyManager) (tables : PasskeyTables) (userId : String)
    (credential : PasskeyResponse) (now : Moment) (row : PasskeyChallenge) (challenge : Bytes)
    (stored : PasskeyCredential) (publicKey : Bytes) (count : Int) : Prop where
  names : credential.credentialId manager.rendering = .ok stored.credentialId
  picks : Picks tables userId .authentication now row challenge
  found : PasskeyManager.registered tables userId stored.credentialId = some stored
  key : unb64 stored.publicKey = .ok publicKey
  verifies : manager.authenticationVerifier credential challenge manager.rpId manager.expectedOrigin
    publicKey stored.signCount = .ok count

theorem registered_some {credentialId : String} {stored : PasskeyCredential} :
    PasskeyManager.registered tables userId credentialId = some stored ↔
      tables.credentials.find? credentialId = some stored ∧ stored.userId = userId := by
  unfold PasskeyManager.registered
  rw [Option.filter_eq_some_iff, decide_eq_true_eq]

theorem lookUp_ok {credentialId : String} {stored : PasskeyCredential} :
    PasskeyManager.lookUp userId credentialId tables = .ok stored ↔
      PasskeyManager.registered tables userId credentialId = some stored := by
  unfold PasskeyManager.lookUp
  cases PasskeyManager.registered tables userId credentialId <;> simp

/-- What an accepted authentication writes. -/
def stepUp (tables : PasskeyTables) (userId : String) (row : PasskeyChallenge)
    (stored : PasskeyCredential) (count : Int) (verified : Moment) : PasskeyTables :=
  (tables.consume row.id verified).use userId stored.credentialId count verified

/-- **An authentication, by cases**: the response is accepted, and then the challenge is consumed and
the count written, whether or not the end of the proof can be computed; or the call raises and wrote
nothing. -/
theorem finishAuthentication_cases :
    (∃ row challenge stored publicKey count,
      Authenticates manager tables userId credential now row challenge stored publicKey count ∧
        (manager.finishAuthentication userId credential now verified).exec tables =
          ((verified.plus (Duration.minutes 5)).map fun expiresAt =>
              ⟨userId, stored.credentialId, verified, expiresAt⟩,
            stepUp tables userId row stored count verified)) ∨
    (∀ row challenge stored publicKey count,
      ¬ Authenticates manager tables userId credential now row challenge stored publicKey count) ∧
      ∃ e, (manager.finishAuthentication userId credential now verified).exec tables =
        (.error e, tables) := by
  unfold PasskeyManager.finishAuthentication
  rw [Effect.exec_bind, Effect.exec_check]
  cases hid : credential.credentialId manager.rendering with
  | error e => exact .inr ⟨fun _ _ _ _ _ h => (nomatch hid.symm.trans h.names), e, rfl⟩
  | ok credentialId =>
  simp only
  rw [Effect.exec_bind, Effect.exec_query]
  cases hpending : pendingChallenge userId .authentication now tables with
  | error e =>
    refine .inr ⟨fun row challenge _ _ _ h => ?_, e, rfl⟩
    have hok : pendingChallenge userId .authentication now tables = .ok (row.id, challenge) :=
      pendingChallenge_ok.mpr ⟨row, h.picks, rfl⟩
    exact nomatch hpending.symm.trans hok
  | ok picked =>
  obtain ⟨row, hpicks, hrow⟩ := pendingChallenge_ok.mp hpending
  obtain ⟨challengeId, challenge⟩ := picked
  obtain rfl : challengeId = row.id := hrow
  simp only
  rw [Effect.exec_bind, Effect.exec_query]
  cases hfound : PasskeyManager.lookUp userId credentialId tables with
  | error e =>
    refine .inr ⟨fun _ _ stored _ _ h => ?_, e, rfl⟩
    obtain rfl := Except.ok.inj (hid.symm.trans h.names)
    exact nomatch hfound.symm.trans (lookUp_ok.mpr h.found)
  | ok stored =>
  have hregistered := lookUp_ok.mp hfound
  have hkey : stored.credentialId = credentialId :=
    Table.key_of_find? (registered_some.mp hregistered).1
  subst hkey
  simp only
  rw [Effect.exec_bind, Effect.exec_check]
  -- whatever the call would be accepted with is what it found so far
  have hfixed : ∀ {row' challenge' stored' publicKey count},
      Authenticates manager tables userId credential now row' challenge' stored' publicKey count →
        challenge' = challenge ∧ stored' = stored := by
    intro row' challenge' stored' publicKey count h
    have hnames := Except.ok.inj (h.names.symm.trans hid)
    have hfound' := h.found
    rw [hnames] at hfound'
    exact ⟨(hpicks.unique h.picks).2, Option.some.inj (hfound'.symm.trans hregistered)⟩
  cases hpublic : unb64 stored.publicKey with
  | error e =>
    refine .inr ⟨fun _ _ _ _ _ h => ?_, e, rfl⟩
    obtain ⟨-, rfl⟩ := hfixed h
    exact nomatch hpublic.symm.trans h.key
  | ok publicKey =>
  simp only
  rw [Effect.exec_bind, Effect.exec_check]
  cases hverify : manager.authenticationVerifier credential challenge manager.rpId
      manager.expectedOrigin publicKey stored.signCount with
  | error e =>
    refine .inr ⟨fun _ _ _ _ _ h => ?_, e, rfl⟩
    obtain ⟨rfl, rfl⟩ := hfixed h
    obtain rfl := Except.ok.inj (hpublic.symm.trans h.key)
    exact nomatch hverify.symm.trans h.verifies
  | ok count =>
  refine .inl ⟨row, challenge, stored, publicKey, count,
    ⟨hid, hpicks, hregistered, hpublic, hverify⟩, ?_⟩
  simp only
  rw [Effect.exec_bind, Effect.exec_atomically, useCredential_run hpicks]
  simp only
  rw [Effect.exec_bind, Effect.exec_check]
  unfold stepUp
  cases verified.plus (Duration.minutes 5) <;> rfl

end Finishing

end Zhixu.Vault
