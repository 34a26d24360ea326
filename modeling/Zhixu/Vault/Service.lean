import Mathlib.Data.List.Infix
import Zhixu.Vault.Policy
import Zhixu.Vault.Storage

/-!
# The vault service

`VaultService`: every operation verifies and consumes a grant, asks the policy, does its work
on the repository and leaves an audit event. A denial is recorded too, as far as the audit key
can be had.

An executor is code of another boundary: a function of the reading it is called at, the
plaintext and the request, and what it returns is what it does (`Execution`), with what it
leaves in the buffer of the secret. `json.dumps` of the objects it returns is a parameter.

`use` is cut where the plaintext is handed over: `prepareUse` ends with the plaintext in hand,
`finishUse` is what the service does with what the executor made of it.
-/

open Framework

namespace Zhixu.Vault

/-- An `ExecutionResult`. -/
structure ExecutionResult (Data : Type) where
  ok : Bool
  code : String
  data : Data

/-- How a call of an executor ends. -/
inductive ExecutorOutcome (Data : Type)
  | returned (result : ExecutionResult Data)
  /-- an object that is no `ExecutionResult` -/
  | unsupported
  | raised (e : VaultError)

/-- What a call of an executor does: its end, and the buffer of the secret after it. -/
structure Execution (Data : Type) where
  outcome : ExecutorOutcome Data
  buffer : Bytes

/-- A `MachineSecretExecutor`. -/
abbrev MachineSecretExecutor (Data Request : Type) := ℕ → Bytes → Request → Execution Data

/-- A `VaultService`. -/
structure VaultService (Data Request : Type) where
  env : Environment
  verifier : CapabilityGrantVerifier
  executors : String → Option (MachineSecretExecutor Data Request)
  /-- `json.dumps({"code": code, "data": data}, …)` -/
  dumps : String → Data → Except VaultError (List Char)

/-- The text of a kind. -/
def SecretKind.value : SecretKind → String
  | machine => "machine"
  | human => "human"

/-- The text of a classification. -/
def VaultClassification.value : VaultClassification → String
  | machineSecret => "l3_machine"
  | humanSecret => "l3_human"
  | l4HumanOverride => "l4_human_override"
  | prohibited => "l4_prohibited"

/-- `secret.text()`. -/
def secretText (secret : Bytes) : Except VaultError (List Char) :=
  match utf8Decode secret with
  | none => .error .unicode
  | some text => .ok text

namespace VaultService

variable {Data Request : Type} (service : VaultService Data Request)

/-! ### Recording -/

/-- `_record_success`. -/
def recordSuccess (grant : VerifiedGrant) (action : VaultAction) (secretId : String) :
    VaultM Unit :=
  recordAccess service.env grant.subject action.value secretId "completed"

/-- `_record_denial`. -/
def recordDenial (actor : String) (action : VaultAction) (secretId : String)
    (reasonCode : String := "authorization_denied") : VaultM Unit :=
  tryCatch (recordAccess service.env actor action.value secretId "denied" reasonCode)
    fun _ => pure ()

/-- `except Exception: self._record_denial(…); raise`. -/
def orDenied {α : Type} (actor : String) (action : VaultAction) (secretId : String)
    (m : VaultM α) : VaultM α :=
  tryCatch m fun e => do
    service.recordDenial actor action secretId
    throw e

/-- What `_authorize` asks of the database and the policy. -/
def allowed (grant : VerifiedGrant) (secretId : String) (action : VaultAction)
    (db : VaultDatabase) : Except VaultError SecretMetadata := do
  let metadata ← db.getMetadata secretId
  grant.require
    { kind := metadata.kind
      classification := metadata.classification
      ownerUserId := metadata.ownerUserId
      aclAllowed := db.hasAcl secretId grant.subject action.value }
  return metadata

/-- `_authorize`. -/
def authorize (token secretId : String) (action : VaultAction) :
    VaultM (VerifiedGrant × SecretMetadata) := do
  let grant ← service.orDenied "unknown" action secretId
    (service.verifier.verifyAndConsume service.env.sources token secretId action.value)
  let metadata ← service.orDenied grant.subject action secretId
    (Effect.query fun s => allowed grant secretId action s.database)
  return (grant, metadata)

/-! ### Creating -/

/-- The arguments of `create_secret`. -/
structure CreateRequest where
  secretId : String
  ownerUserId : String
  label : String
  kind : SecretKind
  value : Bytes
  classification : Option VaultClassification
  policyOverride : Option String

/-- The checks of `create_secret`: the classification and the override that get stored. -/
def checkCreate (request : CreateRequest) (authentication : String) :
    Except VaultError (VaultClassification × Option String) := do
  raiseIf (isBlank request.secretId = true ∨ 160 < request.secretId.length ∨
      isBlank request.ownerUserId = true ∨ 160 < request.ownerUserId.length ∨
      isBlank request.label = true ∨ 200 < request.label.length ∨ request.value = [])
    (.value "secret metadata or value is invalid")
  raiseIf (authentication ≠ "step_up")
    (.permission "secret creation requires step-up authentication")
  let selected := request.classification.getD
    (if request.kind = .machine then .machineSecret else .humanSecret)
  let stored ← (if selected = .prohibited then do
      raiseIf (request.kind ≠ .human ∨ request.policyOverride ≠ some l4HumanStorageOverride)
        (.permission "L4 secrets require an explicit owner override")
      return (VaultClassification.humanSecret, request.policyOverride)
    else do
      raiseIf (selected = .l4HumanOverride ∨ request.policyOverride ≠ none)
        (.value "L4 policy override is invalid")
      return (selected, none))
  raiseIf ((request.kind = .machine ∧ stored.1 ≠ .machineSecret) ∨
      (request.kind = .human ∧ stored.1 ≠ .humanSecret))
    (.value "secret kind and classification do not match")
  return stored

/-- `create_secret`. -/
def createSecret (request : CreateRequest) (authentication : String) : VaultM SecretMetadata := do
  let stored ← Effect.check (checkCreate request authentication)
  createRecord service.env
    { secretId := request.secretId
      ownerUserId := request.ownerUserId
      label := request.label
      kind := request.kind
      classification := stored.1
      policyOverride := stored.2
      value := request.value
      actor := request.ownerUserId }

/-- `create_with_grant`. -/
def createWithGrant (token : String) (request : CreateRequest) : VaultM SecretMetadata := do
  let grant ← service.orDenied "unknown" .create request.secretId
    (service.verifier.verifyAndConsume service.env.sources token request.secretId
      VaultAction.create.value)
  service.orDenied grant.subject .create request.secretId do
    Effect.check (raiseIf
      (grant.subject ≠ request.ownerUserId ∨ grant.authentication ≠ "step_up")
      (.permission "secret creation grant is invalid"))
    service.createSecret request grant.authentication

/-! ### Reading -/

/-- `list_owned_metadata`. -/
def listOwnedMetadata (token : String) : VaultM (List SecretMetadata) := do
  let grant ← service.orDenied "unknown" .listMetadata "*"
    (service.verifier.verifyAndConsume service.env.sources token "*"
      VaultAction.listMetadata.value)
  service.orDenied grant.subject .listMetadata "*" do
    let values ← Effect.reads fun s => s.database.listMetadata grant.subject
    service.recordSuccess grant .listMetadata "*"
    return values

/-- `list_metadata`. -/
def listMetadata (token secretId : String) : VaultM (List SecretMetadata) := do
  let (grant, metadata) ← service.authorize token secretId .listMetadata
  service.recordSuccess grant .listMetadata secretId
  return [metadata]

/-- `reveal`. -/
def reveal (token secretId : String) : VaultM Bytes := do
  let (grant, _) ← service.authorize token secretId .reveal
  let value ← decrypt service.env secretId
  service.recordSuccess grant .reveal secretId
  return value

/-! ### Using -/

/-- `use`, up to the call of the executor. -/
def prepareUse (token secretId executorName : String) :
    VaultM (VerifiedGrant × MachineSecretExecutor Data Request × Bytes) := do
  let (grant, _) ← service.authorize token secretId .use
  match service.executors executorName with
  | none => do
    service.recordDenial grant.subject .use secretId "executor_unavailable"
    throw (.key "machine secret executor is unavailable")
  | some executor => do
    let secret ← decrypt service.env secretId
    return (grant, executor, secret)

/-- `use`, from the call of the executor on. -/
def finishUse (grant : VerifiedGrant) (secretId : String) (execution : Execution Data) :
    VaultM (ExecutionResult Data) :=
  match execution.outcome with
  | .raised e => throw e
  | .unsupported => throw (.type "executor returned an unsupported result")
  | .returned result => do
    let serialized ← Effect.check (service.dumps result.code result.data)
    let text ← Effect.check (secretText execution.buffer)
    if text ≠ [] ∧ text <:+: serialized then
      service.recordDenial grant.subject .use secretId "secret_echo_blocked"
      throw (.permission "executor attempted to return secret material")
    else
      service.recordSuccess grant .use secretId
      return result

/-- `use`. -/
def use (token secretId executorName : String) (request : Request) :
    VaultM (ExecutionResult Data) := do
  let (grant, executor, secret) ← service.prepareUse token secretId executorName
  let tick ← Effect.reads VaultState.ticks
  service.finishUse grant secretId (executor tick secret request)

/-! ### Changing -/

/-- `update`. -/
def update (token secretId : String) (value : Bytes) (expectedVersion : Int) :
    VaultM SecretMetadata := do
  Effect.check (raiseIf (value = []) (.value "secret value must not be empty"))
  let (grant, _) ← service.authorize token secretId .update
  updateRecord service.env secretId value expectedVersion grant.subject

/-- `delete`. -/
def delete (token secretId : String) : VaultM Unit := do
  let (grant, _) ← service.authorize token secretId .delete
  deleteRecord service.env secretId grant.subject

/-- The payload of an export. -/
def exportPayload (metadata : SecretMetadata) (secret : Bytes) : Bytes :=
  utf8 (Json.writeFields [("classification", .str metadata.classification.value),
    ("id", .str metadata.id), ("kind", .str metadata.kind.value), ("label", .str metadata.label),
    ("value", .str (String.ofList (Base64.encode secret)))])

/-- `export_encrypted`. -/
def exportEncrypted (token secretId exportPassphrase : String) : VaultM Bytes := do
  let (grant, _) ← service.authorize token secretId .exportSecret
  let salt ← urandom service.env.sources 16
  let exportKey ← Effect.check
    (Argon2Parameters.standard.derive service.env.argon2 exportPassphrase salt)
  let metadata ← Effect.query fun s => s.database.getMetadata secretId
  let secret ← decrypt service.env secretId
  let ciphertext ← sealBytes service.env exportKey (exportPayload metadata secret)
    s!"secret-export:{secretId}"
  service.recordSuccess grant .exportSecret secretId
  return utf8 (Json.writeFields [("ciphertext", .str (String.ofList ciphertext)),
    ("format", .str "zhixu-secret-export-v1"), ("salt", .str (String.ofList (Base64.encode salt)))])

/-- `rotate_keys`. -/
def rotateKeys (token secretId passphrase : String) (fault : ℕ → Bool) : VaultM ℕ := do
  let (grant, _) ← service.authorize token secretId .rotate
  let version ← addKeyVersion service.env passphrase
  rewrapDataKeys service.env version grant.subject fault
  return version

/-- `grant_acl`. -/
def grantAcl (token secretId subject : String) (action : VaultAction) : VaultM Unit := do
  let (grant, _) ← service.authorize token secretId .grant
  grantRecord service.env secretId subject action grant.subject

end VaultService

end Zhixu.Vault
