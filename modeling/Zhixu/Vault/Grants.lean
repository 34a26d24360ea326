import Zhixu.Framework.Json
import Zhixu.Vault.Database

/-!
# Capability grants

A grant is a signed text: a JSON object in Base64, a dot, and the signature over its bytes.
The application issues it (`CapabilityGrantIssuer.issue`), the vault verifies it and writes
its nonce down (`CapabilityGrantVerifier.verifyAndConsume`).

Reading a token is a pure function (`readToken`): the first `try` of the verifier, which turns
every way a token can be malformed into one and the same exception. What it returns is all that
the rest of the verifier looks at, so `CapabilityGrantVerifier` holds the reader as a field, and
`CapabilityGrantVerifier.ofIssuers` is the verifier of the source.

Ed25519 is a parameter, and so is what Python makes of a JSON value that is no string
(`Rendering`): a signed payload has none.

* `readToken_issue` — an issued token reads back as the payload it was issued for, when the
  verifier knows the issuer's key.
* `readToken_ok` — and a token that reads at all carries a signature of its issuer's key over
  the very bytes its fields are read from.
-/

open Framework

namespace Zhixu.Vault

/-- `Ed25519PrivateKey` and `Ed25519PublicKey`, as their raw bytes. -/
structure Ed25519 where
  publicKey : Bytes → Bytes
  sign : Bytes → Bytes → Bytes
  verify : Bytes → Bytes → Bytes → Bool

/-- A signature verifies under the key that belongs to the signing one. -/
structure Ed25519.Ideal (ed25519 : Ed25519) : Prop where
  verify_sign : ∀ privateKey message,
    ed25519.verify (ed25519.publicKey privateKey) (ed25519.sign privateKey message) message = true

/-- What `str` and `bool` make of numbers with a fraction, of arrays and of objects. -/
structure Rendering where
  repr : Json → String
  isZero : List Char → Bool

namespace Rendering

variable (rendering : Rendering)

/-- `str(value)`. -/
def str : Json → String
  | .null => "None"
  | .bool true => "True"
  | .bool false => "False"
  | .int n => String.ofList (Json.writeInt n)
  | .str s => s
  | value => rendering.repr value

/-- `bool(value)`. -/
def truthy : Json → Bool
  | .null => false
  | .bool b => b
  | .int n => n ≠ 0
  | .float text => !rendering.isZero text
  | .str s => s ≠ ""
  | .arr items => !items.isEmpty
  | .obj members => !members.isEmpty

/-- `str(payload.get(key))`. -/
def get (members : List (String × Json)) (key : String) : String :=
  rendering.str ((Json.get? members key).getD .null)

/-- `str(payload.get(key) or "")`. -/
def getOrEmpty (members : List (String × Json)) (key : String) : String :=
  match Json.get? members key with
  | none => ""
  | some value => if rendering.truthy value then rendering.str value else ""

end Rendering

/-! ### Issuing -/

/-- A `CapabilityGrantIssuer`. -/
structure CapabilityGrantIssuer where
  privateKey : Bytes
  issuer : String
deriving DecidableEq

/-- The arguments of `issue`. -/
structure GrantRequest where
  subject : String
  secretId : String
  action : String
  audience : String
  expiresAt : Datetime
  authentication : String

/-- `_b64`. -/
def b64 (bytes : Bytes) : List Char := Base64.strip (Base64.encode bytes)

/-- `_decode`. -/
def b64decode (text : List Char) : Option Bytes := Base64.decode false (Base64.repad text)

/-- `text.encode()`. -/
def utf8 (text : List Char) : Bytes := text.flatMap String.utf8EncodeChar

/-- `bytes.decode()`. -/
def utf8Decode (bytes : Bytes) : Option (List Char) :=
  bytes.toByteArray.utf8Decode?.map Array.toList

/-- The fields of a payload, in the order of their keys. -/
def grantFields (issuer : String) (request : GrantRequest) (expiresAt : Moment) (nonce : String) :
    List (String × Scalar) :=
  [("action", .str request.action), ("audience", .str request.audience),
    ("authentication", .str request.authentication), ("expires_at", .str (isoformat expiresAt)),
    ("issuer", .str issuer), ("nonce", .str nonce), ("secret_id", .str request.secretId),
    ("subject", .str request.subject)]

/-- `secrets.token_urlsafe`, from its random bytes. -/
def tokenUrlsafe (random : Bytes) : String := String.ofList (b64 random)

/-- The bytes that get signed. -/
def encodedGrant (issuer : String) (request : GrantRequest) (random : Bytes) :
    Except VaultError Bytes := do
  raiseIf (request.expiresAt.aware = false) (.value "grant expiry must be timezone-aware")
  let expiresAt ← request.expiresAt.astimezone
  return utf8 (Json.writeFields (grantFields issuer request expiresAt (tokenUrlsafe random)))

variable (ed25519 : Ed25519)

/-- `CapabilityGrantIssuer.issue`, with the twenty-four bytes the nonce is made of. -/
def CapabilityGrantIssuer.issue (issuer : CapabilityGrantIssuer) (request : GrantRequest)
    (random : Bytes) : Except VaultError String := do
  let encoded ← encodedGrant issuer.issuer request random
  return String.ofList
    (b64 encoded ++ '.' :: b64 (ed25519.sign issuer.privateKey encoded))

/-! ### Reading a token -/

/-- What the verifier looks at in a payload whose signature is good. -/
structure GrantPayload where
  issuer : String
  expiresAt : Datetime
  audience : String
  secretId : String
  action : String
  nonce : String
  /-- `none` where the payload has no subject -/
  subject : Option String
  authentication : String

/-- The two parts of a token, decoded. -/
def tokenParts (token : String) : Option (Bytes × Bytes) :=
  match token.toList.dropWhile (· ≠ '.') with
  | [] => none
  | _ :: signaturePart => do
    let payload ← b64decode (token.toList.takeWhile (· ≠ '.'))
    let signature ← b64decode signaturePart
    return (payload, signature)

/-- `json.loads(payload_bytes)`, of an object. -/
def payloadMembers (payload : Bytes) : Option (List (String × Json)) :=
  match (utf8Decode payload).bind Json.loads with
  | some (.obj members) => some members
  | _ => none

variable (rendering : Rendering) (fromisoformat : String → Except VaultError Datetime)

/-- The fields of a payload. -/
def payloadOf (members : List (String × Json)) : Option GrantPayload := do
  let issuer ← Json.get? members "issuer"
  let text ← Json.get? members "expires_at"
  let expiresAt ← (fromisoformat (rendering.str text)).toOption
  if expiresAt.aware = false then none
  else
    return {
      issuer := rendering.str issuer
      expiresAt := expiresAt
      audience := rendering.get members "audience"
      secretId := rendering.get members "secret_id"
      action := rendering.get members "action"
      nonce := rendering.getOrEmpty members "nonce"
      subject := (Json.get? members "subject").map rendering.str
      authentication := rendering.getOrEmpty members "authentication" }

/-- The body of the first `try`. -/
def readSigned (issuers : String → Option Bytes) (token : String) : Option GrantPayload := do
  let (payload, signature) ← tokenParts token
  let members ← payloadMembers payload
  let issuer ← Json.get? members "issuer"
  let key ← issuers (rendering.str issuer)
  if ed25519.verify key signature payload = false then none
  else payloadOf rendering fromisoformat members

/-- The first `try` of `verify_and_consume`. -/
def readToken (issuers : String → Option Bytes) (token : String) : Except VaultError GrantPayload :=
  match readSigned ed25519 rendering fromisoformat issuers token with
  | none => .error (.permission "capability signature is invalid")
  | some payload => .ok payload

/-! ### Verifying -/

/-- A `VerifiedGrant`. -/
structure VerifiedGrant where
  issuer : String
  subject : String
  secretId : String
  action : String
  audience : String
  expiresAt : Datetime
  authentication : String

/-- A `CapabilityGrantVerifier`: how it reads a token, and the hash it keeps of a nonce. -/
structure CapabilityGrantVerifier where
  read : String → Except VaultError GrantPayload
  audience : String := "zhixu-vault"
  sha256 : String → String

/-- The verifier of the source, for the keys of some issuers. -/
def CapabilityGrantVerifier.ofIssuers (issuers : String → Option Bytes) (audience : String)
    (sha256 : String → String) : CapabilityGrantVerifier where
  read := readToken ed25519 rendering fromisoformat issuers
  audience := audience
  sha256 := sha256

/-- The fields a grant is bound to, against what is asked of it. The expiry, in UTC. -/
def CapabilityGrantVerifier.bound (verifier : CapabilityGrantVerifier) (payload : GrantPayload)
    (secretId action : String) : Except VaultError Moment := do
  raiseIf (payload.audience ≠ verifier.audience) (.permission "capability audience mismatch")
  raiseIf (payload.secretId ≠ secretId) (.permission "capability secret mismatch")
  raiseIf (payload.action ≠ action) (.permission "capability action mismatch")
  payload.expiresAt.astimezone

/-- The expiry and the nonce, at a time. -/
def GrantPayload.current (payload : GrantPayload) (expiresAt time : Moment) :
    Except VaultError Unit := do
  raiseIf (expiresAt.1 ≤ time.1) (.permission "capability expired")
  raiseIf (payload.nonce = "") (.permission "capability nonce is missing")

/-- `INSERT OR IGNORE INTO grant_nonces`, and the check that it inserted. -/
def consumeNonce (row : GrantNonce) (db : VaultDatabase) : Except VaultError VaultDatabase :=
  match db.grantNonces.insert? row with
  | none => .error (.permission "capability nonce was already consumed")
  | some nonces => .ok { db with grantNonces := nonces }

/-- `str(payload["subject"])`. -/
def GrantPayload.requireSubject (payload : GrantPayload) : Except VaultError String :=
  match payload.subject with
  | none => .error (.key "subject")
  | some subject => .ok subject

variable (sources : Sources)

/-- `verify_and_consume`. -/
def CapabilityGrantVerifier.verifyAndConsume (verifier : CapabilityGrantVerifier) (token : String)
    (secretId action : String) : VaultM VerifiedGrant := do
  let payload ← Effect.check (verifier.read token)
  let expiresAt ← Effect.check (verifier.bound payload secretId action)
  let time ← now sources
  Effect.check (payload.current expiresAt time)
  let subject ← transaction do
    let subject ← Effect.check payload.requireSubject
    let consumedAt ← now sources
    statement (consumeNonce
      { nonceHash := verifier.sha256 payload.nonce
        subject := subject
        secretId := secretId
        action := action
        expiresAt := expiresAt
        consumedAt := consumedAt })
    return subject
  return {
    issuer := payload.issuer
    subject := subject
    secretId := secretId
    action := action
    audience := verifier.audience
    expiresAt := payload.expiresAt
    authentication := payload.authentication }

/-! ### What is read back -/

theorem utf8Decode_utf8 (text : List Char) : utf8Decode (utf8 text) = some text := by
  have hbytes : (utf8 text).toByteArray = text.utf8Encode := rfl
  unfold utf8Decode
  rw [hbytes, List.utf8Decode?_utf8Encode]
  rfl

theorem payloadMembers_writeFields (fields : List (String × Scalar)) :
    payloadMembers (utf8 (Json.writeFields fields)) = some (Json.members fields) := by
  unfold payloadMembers
  rw [utf8Decode_utf8, Option.bind_some, Json.loads_writeFields]

theorem b64decode_b64 (bytes : Bytes) : b64decode (b64 bytes) = some bytes := by
  unfold b64decode b64
  rw [Base64.repad_strip_encode, Base64.decode_encode]

/-- No dot stands in Base64. -/
theorem dot_not_mem_b64 (bytes : Bytes) : '.' ∉ b64 bytes := by
  intro h
  have hdot : ∀ n < 64, Base64.digit n ≠ '.' := by decide
  rw [b64, Base64.strip_encode] at h
  obtain ⟨n, hn, hdigit⟩ := Base64.mem_digits h
  exact hdot n hn hdigit.symm

/-- A token is taken apart at its first dot. -/
theorem tokenParts_b64 (payload signature : Bytes) :
    tokenParts (String.ofList (b64 payload ++ '.' :: b64 signature)) = some (payload, signature) := by
  have hletters : ∀ c ∈ b64 payload, decide (c ≠ '.') = true := by
    intro c hc
    rw [decide_eq_true_eq]
    rintro rfl
    exact dot_not_mem_b64 payload hc
  have hfirst : (b64 payload ++ '.' :: b64 signature).takeWhile (· ≠ '.') = b64 payload := by
    rw [List.takeWhile_append_of_pos hletters]
    simp
  have hrest : (b64 payload ++ '.' :: b64 signature).dropWhile (· ≠ '.') = '.' :: b64 signature := by
    rw [List.dropWhile_append_of_pos hletters]
    simp
  unfold tokenParts
  rw [String.toList_ofList, hrest, hfirst]
  simp only [b64decode_b64]
  rfl

/-- A nonce is never empty. -/
theorem tokenUrlsafe_ne_empty {random : Bytes} (h : random ≠ []) : tokenUrlsafe random ≠ "" := by
  intro hempty
  unfold tokenUrlsafe at hempty
  rw [String.ofList_eq_empty_iff] at hempty
  have hdecode := b64decode_b64 random
  rw [hempty] at hdecode
  exact h (Option.some.inj hdecode).symm

theorem tokenUrlsafe_injective : Function.Injective tokenUrlsafe := by
  intro random random' h
  have hdecode := b64decode_b64 random
  rw [String.ofList_injective h, b64decode_b64] at hdecode
  exact (Option.some.inj hdecode).symm

/-- The payload of an issued token, as the verifier reads it. -/
def issuedPayload (issuer : String) (request : GrantRequest) (expiresAt : Datetime)
    (nonce : String) : GrantPayload where
  issuer := issuer
  expiresAt := expiresAt
  audience := request.audience
  secretId := request.secretId
  action := request.action
  nonce := nonce
  subject := some request.subject
  authentication := request.authentication

variable {ed25519 rendering fromisoformat}

/-- A string, or the empty string for a missing or empty one. -/
theorem getOrEmpty_str {members : List (String × Json)} {key s : String}
    (h : Json.get? members key = some (.str s)) : rendering.getOrEmpty members key = s := by
  unfold Rendering.getOrEmpty
  rw [h]
  show (if decide (s ≠ "") = true then s else "") = s
  by_cases hs : s = ""
  · rw [hs]
    rfl
  · rw [if_pos (by simpa using hs)]

/-- **The fields of an issued payload** read back as they were written. -/
theorem payloadOf_grantFields {issuer : String} {request : GrantRequest} {expiresAt : Moment}
    {nonce : String} {value : Datetime} (hparse : fromisoformat (isoformat expiresAt) = .ok value)
    (haware : value.aware = true) :
    payloadOf rendering fromisoformat
        (Json.members (grantFields issuer request expiresAt nonce)) =
      some (issuedPayload issuer request value nonce) := by
  have hauthentication : rendering.getOrEmpty
      (Json.members (grantFields issuer request expiresAt nonce)) "authentication" =
        request.authentication := getOrEmpty_str rfl
  have hnonce : rendering.getOrEmpty
      (Json.members (grantFields issuer request expiresAt nonce)) "nonce" = nonce :=
    getOrEmpty_str rfl
  have hexpiry : rendering.str (.str (isoformat expiresAt)) = isoformat expiresAt := rfl
  unfold payloadOf
  rw [hauthentication, hnonce]
  show (fromisoformat (rendering.str (.str (isoformat expiresAt)))).toOption.bind _ = _
  rw [hexpiry, hparse]
  show (if value.aware = false then none else _) = _
  rw [if_neg (by simp [haware])]
  rfl

/-- What a token that reads has been found to be. -/
structure Signed (ed25519 : Ed25519) (rendering : Rendering)
    (fromisoformat : String → Except VaultError Datetime) (issuers : String → Option Bytes)
    (token : String) (payload : GrantPayload) (bytes : Bytes) : Prop where
  parts : ∃ signature key, tokenParts token = some (bytes, signature) ∧
    issuers payload.issuer = some key ∧ ed25519.verify key signature bytes = true
  fields : ∃ members, payloadMembers bytes = some members ∧
    payloadOf rendering fromisoformat members = some payload

/-- **A token that reads is signed** by the key of the issuer it names, over the bytes its
fields are read from. -/
theorem readToken_ok {issuers : String → Option Bytes} {token : String} {payload : GrantPayload}
    (h : readToken ed25519 rendering fromisoformat issuers token = .ok payload) :
    ∃ bytes, Signed ed25519 rendering fromisoformat issuers token payload bytes := by
  unfold readToken at h
  cases hread : readSigned ed25519 rendering fromisoformat issuers token with
  | none =>
    rw [hread] at h
    exact absurd h (by simp)
  | some found =>
    rw [hread] at h
    obtain rfl := Except.ok.inj h
    unfold readSigned at hread
    simp only [Option.bind_eq_bind, Option.bind_eq_some_iff] at hread
    obtain ⟨⟨bytes, signature⟩, hparts, members, hmembers, issuer, hissuer, key, hkey, hrest⟩ := hread
    split at hrest
    · exact absurd hrest (by simp)
    · rename_i hverify
      -- the issuer whose key was looked up is the one the payload names
      have hname : found.issuer = rendering.str issuer := by
        unfold payloadOf at hrest
        rw [hissuer] at hrest
        simp only [Option.bind_eq_bind, Option.bind_some, Option.bind_eq_some_iff] at hrest
        obtain ⟨text, -, expiresAt, -, hrest⟩ := hrest
        split at hrest
        · exact absurd hrest (by simp)
        · rw [← Option.some.inj hrest]
      refine ⟨bytes, ⟨signature, key, hparts, ?_, ?_⟩, members, hmembers, hrest⟩
      · rw [hname]
        exact hkey
      · simpa using hverify

/-- **An issued token reads back** as what it was issued for, under the issuer's key. -/
theorem readToken_issue (ideal : ed25519.Ideal) {issuers : String → Option Bytes}
    {issuer : CapabilityGrantIssuer} {request : GrantRequest} {random : Bytes} {token : String}
    (hissue : issuer.issue ed25519 request random = .ok token)
    (hkey : issuers issuer.issuer = some (ed25519.publicKey issuer.privateKey))
    (hround : ∀ t : Moment, ∃ value, fromisoformat (isoformat t) = .ok value ∧ value.utc = t ∧
      value.aware = true) :
    ∃ expiresAt value, request.expiresAt.astimezone = .ok expiresAt ∧ value.utc = expiresAt.1 ∧
      readToken ed25519 rendering fromisoformat issuers token =
        .ok (issuedPayload issuer.issuer request value (tokenUrlsafe random)) := by
  unfold CapabilityGrantIssuer.issue at hissue
  obtain ⟨encoded, hencoded, hissue⟩ := bind_eq_ok.mp hissue
  obtain rfl := Except.ok.inj hissue
  unfold encodedGrant at hencoded
  rw [raiseIf_bind_ok] at hencoded
  obtain ⟨expiresAt, hexpiry, hencoded⟩ := bind_eq_ok.mp hencoded.2
  obtain rfl := Except.ok.inj hencoded
  obtain ⟨value, hparse, hutc, haware⟩ := hround expiresAt
  refine ⟨expiresAt, value, hexpiry, hutc, ?_⟩
  have hissuer : Json.get? (Json.members (grantFields issuer.issuer request expiresAt
      (tokenUrlsafe random))) "issuer" = some (.str issuer.issuer) := rfl
  have hread : readSigned ed25519 rendering fromisoformat issuers
      (String.ofList (b64 (utf8 (Json.writeFields (grantFields issuer.issuer request expiresAt
        (tokenUrlsafe random)))) ++ '.' :: b64 (ed25519.sign issuer.privateKey
          (utf8 (Json.writeFields (grantFields issuer.issuer request expiresAt
            (tokenUrlsafe random))))))) =
      some (issuedPayload issuer.issuer request value (tokenUrlsafe random)) := by
    unfold readSigned
    rw [tokenParts_b64]
    simp only [Option.bind_eq_bind, Option.bind_some, payloadMembers_writeFields, hissuer]
    show (issuers issuer.issuer).bind _ = _
    rw [hkey, Option.bind_some, ideal.verify_sign, if_neg (by simp)]
    exact payloadOf_grantFields hparse haware
  unfold readToken
  rw [hread]

end Zhixu.Vault
