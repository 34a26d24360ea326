import Zhixu.Domain.Text
import Zhixu.Vault.Keyring

/-!
# Envelope-encrypted records

`VaultRepository`: a secret is sealed under a data key of its own, the data key under the
master key of the active version, each with a context that names the record and the version.
Every write appends to the audit log in the same transaction.

The statements of one transaction that stand together are one function on the database
(`insertSecret`, `updateSecret`, `insertAcl`), with the constraints of the schema as
exceptions. `rewrapDataKeys` can be interrupted before any of its statements: `fault` says
where.

Every operation writes the audit log too, so what it does to the keys and the secrets is said apart
from the log (`SameSecrets`, in `Quiet`).
-/

open Framework

namespace Zhixu.Vault

/-- A `SecretMetadata`. -/
structure SecretMetadata where
  id : String
  ownerUserId : String
  label : String
  kind : SecretKind
  classification : VaultClassification
  version : Int
  createdAt : Moment
  updatedAt : Moment
deriving DecidableEq

/-- `text or "unknown"`. -/
def orUnknown (text : String) : String := if text = "" then "unknown" else text

/-- The context of a ciphertext. -/
def valueContext (secretId : String) (version : Int) : String := s!"secret:{secretId}:value:{version}"

/-- The context of a wrapped data key. -/
def dekContext (secretId : String) (keyVersion : ℕ) : String := s!"secret:{secretId}:dek:{keyVersion}"

/-! ### Statements -/

namespace VaultDatabase

/-- `INSERT OR IGNORE INTO secret_acl`. -/
def insertAcl (db : VaultDatabase) (row : SecretAcl) : Except VaultError VaultDatabase :=
  match db.secretAcl.insert? row with
  | none => .ok db
  | some acl =>
    if (db.secretRecords.find? row.secretId).isNone then .error .integrity
    else .ok { db with secretAcl := acl }

/-- `INSERT INTO secret_policy_overrides`. -/
def insertOverride (db : VaultDatabase) (row : PolicyOverride) : Except VaultError VaultDatabase :=
  if row.policy ≠ l4HumanStorageOverride ∨ (db.secretRecords.find? row.secretId).isNone then
    .error .integrity
  else
    match db.secretPolicyOverrides.insert? row with
    | none => .error .integrity
    | some overrides => .ok { db with secretPolicyOverrides := overrides }

/-- `INSERT INTO secret_records`. -/
def insertRecord (db : VaultDatabase) (row : SecretRecord) : Except VaultError VaultDatabase :=
  if (row.classification ≠ .machineSecret ∧ row.classification ≠ .humanSecret) ∨
      (db.keyVersions.find? row.keyVersion).isNone ∨ row.version ≤ 0 then
    .error .integrity
  else
    match db.secretRecords.insert? row with
    | none => .error .integrity
    | some records => .ok { db with secretRecords := records }

/-- The `INSERT`s of `create`. -/
def insertSecret (db : VaultDatabase) (row : SecretRecord) (policyOverride : Option String)
    (ownerActions : List VaultAction) : Except VaultError VaultDatabase := do
  let db ← db.insertRecord row
  let db ← (match policyOverride with
    | none => .ok db
    | some policy => db.insertOverride ⟨row.id, policy, row.createdAt⟩)
  ownerActions.foldlM
    (fun db action => db.insertAcl ⟨row.id, row.ownerUserId, action.value, row.createdAt⟩) db

/-- The `UPDATE` of `update`, and the check that it changed a row. -/
def updateSecret (db : VaultDatabase) (secretId : String) (expectedVersion : Int)
    (ciphertext wrapped : List Char) (keyVersion : ℕ) (time : Moment) :
    Except VaultError VaultDatabase :=
  match db.secretRecords.find? secretId with
  | none => .error (.runtime "secret version conflict")
  | some row =>
    if row.version ≠ expectedVersion then .error (.runtime "secret version conflict")
    else if (db.keyVersions.find? keyVersion).isNone ∨ expectedVersion + 1 ≤ 0 then
      .error .integrity
    else
      .ok { db with
        secretRecords := db.secretRecords.updateWhere (fun row => row.id = secretId) fun row =>
          { row with
            ciphertext := ciphertext
            wrappedDataKey := wrapped
            keyVersion := keyVersion
            version := expectedVersion + 1
            updatedAt := time } }

/-- The `DELETE` of `delete`, and the check that it deleted a row. -/
def removeSecret (db : VaultDatabase) (secretId : String) : Except VaultError VaultDatabase :=
  match db.secretRecords.find? secretId with
  | none => .error (.key "secret not found")
  | some _ => .ok (db.deleteSecret secretId)

/-- The `UPDATE` of `rewrap_data_keys`. -/
def setWrappedDataKey (db : VaultDatabase) (secretId : String) (wrapped : List Char)
    (keyVersion : ℕ) (time : Moment) : Except VaultError VaultDatabase :=
  if (db.keyVersions.find? keyVersion).isNone then .error .integrity
  else
    .ok { db with
      secretRecords := db.secretRecords.updateWhere (fun row => row.id = secretId) fun row =>
        { row with wrappedDataKey := wrapped, keyVersion := keyVersion, updatedAt := time } }

/-- `_metadata`, of the row and its override. -/
def metadata (db : VaultDatabase) (row : SecretRecord) : SecretMetadata where
  id := row.id
  ownerUserId := row.ownerUserId
  label := row.label
  kind := row.kind
  classification :=
    if (db.secretPolicyOverrides.find? row.id).map PolicyOverride.policy =
      some l4HumanStorageOverride then .l4HumanOverride
    else row.classification
  version := row.version
  createdAt := row.createdAt
  updatedAt := row.updatedAt

/-- `get_metadata`. -/
def getMetadata (db : VaultDatabase) (secretId : String) : Except VaultError SecretMetadata :=
  match db.secretRecords.find? secretId with
  | none => .error (.key "secret not found")
  | some row => .ok (db.metadata row)

/-- `list_metadata`. -/
def listMetadata (db : VaultDatabase) (ownerUserId : String) : List SecretMetadata :=
  (db.secretRecords.select (fun row => row.ownerUserId = ownerUserId) fun a b =>
    a.label < b.label ∨ (a.label = b.label ∧ a.id ≤ b.id)).map db.metadata

/-- `has_acl`. -/
def hasAcl (db : VaultDatabase) (secretId subject action : String) : Bool :=
  (db.secretAcl.find? (secretId, subject, action)).isSome

end VaultDatabase

/-! ### The repository -/

variable (env : Environment)

/-- The audit event at the end of a transaction. -/
def appendEvent (event : AuditEvent) : VaultM Unit := do
  let auditKey ← auditKey env
  append env.hmac event auditKey

/-- `record_access`. -/
def recordAccess (actor action secretId outcome : String) (reasonCode : String := "") :
    VaultM Unit := do
  let time ← now env.sources
  transaction (appendEvent env
    { occurredAt := time
      actor := orUnknown (takeChars 160 actor)
      action := takeChars 80 action
      secretId := takeChars 160 secretId
      outcome := takeChars 40 outcome
      reasonCode := takeChars 80 reasonCode })

/-- `owner_actions`. -/
def ownerActions (kind : SecretKind) (policyOverride : Option String) : List VaultAction :=
  [.listMetadata, .update, .delete, .exportSecret, .rotate,
    if kind = .machine then .use else .reveal] ++
    if policyOverride.isNone then [.grant] else []

/-- The arguments of `create`. -/
structure NewSecret where
  secretId : String
  ownerUserId : String
  label : String
  kind : SecretKind
  classification : VaultClassification
  policyOverride : Option String
  value : Bytes
  actor : String

/-- `create`. -/
def createRecord (secret : NewSecret) : VaultM SecretMetadata := do
  let (keyVersion, masterKey) ← active env
  let dataKey ← urandom env.sources 32
  let time ← now env.sources
  let ciphertext ← sealBytes env dataKey secret.value (valueContext secret.secretId 1)
  let wrapped ← sealBytes env masterKey dataKey (dekContext secret.secretId keyVersion)
  transaction do
    statement fun db => db.insertSecret
      { id := secret.secretId
        ownerUserId := secret.ownerUserId
        label := secret.label
        kind := secret.kind
        classification := secret.classification
        ciphertext := ciphertext
        wrappedDataKey := wrapped
        keyVersion := keyVersion
        version := 1
        createdAt := time
        updatedAt := time } secret.policyOverride (ownerActions secret.kind secret.policyOverride)
    appendEvent env
      { occurredAt := time
        actor := secret.actor
        action := "create"
        secretId := secret.secretId
        outcome := "completed"
        reasonCode := if secret.policyOverride.isSome then "l4_policy_override" else "" }
  Effect.query fun s => s.database.getMetadata secret.secretId

/-- `decrypt`. -/
def decrypt (secretId : String) : VaultM Bytes := do
  let row ← Effect.query fun s =>
    match s.database.secretRecords.find? secretId with
    | none => .error (.key "secret not found")
    | some row => .ok row
  let master ← key env row.keyVersion
  let dataKey ← Effect.check
    (openSealed env.aes master row.wrappedDataKey (dekContext secretId row.keyVersion))
  Effect.check (openSealed env.aes dataKey row.ciphertext (valueContext secretId row.version))

/-- `update`. -/
def updateRecord (secretId : String) (value : Bytes) (expectedVersion : Int) (actor : String) :
    VaultM SecretMetadata := do
  let (keyVersion, masterKey) ← active env
  let dataKey ← urandom env.sources 32
  let time ← now env.sources
  transaction do
    let ciphertext ← sealBytes env dataKey value (valueContext secretId (expectedVersion + 1))
    let wrapped ← sealBytes env masterKey dataKey (dekContext secretId keyVersion)
    statement fun db => db.updateSecret secretId expectedVersion ciphertext wrapped keyVersion time
    appendEvent env ⟨time, actor, "update", secretId, "completed", ""⟩
  Effect.query fun s => s.database.getMetadata secretId

/-- `delete`. -/
def deleteRecord (secretId actor : String) : VaultM Unit := do
  let time ← now env.sources
  transaction do
    statement fun db => db.removeSecret secretId
    appendEvent env ⟨time, actor, "delete", secretId, "completed", ""⟩

/-- `grant`. -/
def grantRecord (secretId subject : String) (action : VaultAction) (actor : String) :
    VaultM Unit := do
  let time ← now env.sources
  transaction do
    statement fun db => db.insertAcl ⟨secretId, subject, action.value, time⟩
    appendEvent env ⟨time, actor, "grant", secretId, "completed", ""⟩

/-- `OperationalError`, where a statement is interrupted. -/
def interrupted (fault : ℕ → Bool) (n : ℕ) : VaultM Unit :=
  Effect.check (raiseIf (fault n = true) .operational)

/-- One pass of the loop of `rewrap_data_keys`, the `n`-th. -/
def rewrapRow (fault : ℕ → Bool) (newKeyVersion : ℕ) (newMaster : Bytes) (time : Moment)
    (entry : SecretRecord × ℕ) : VaultM Unit := do
  let row := entry.1
  let master ← key env row.keyVersion
  let dataKey ← Effect.check
    (openSealed env.aes master row.wrappedDataKey (dekContext row.id row.keyVersion))
  let wrapped ← sealBytes env newMaster dataKey (dekContext row.id newKeyVersion)
  interrupted fault entry.2
  statement fun db => db.setWrappedDataKey row.id wrapped newKeyVersion time

/-- `rewrap_data_keys`. -/
def rewrapDataKeys (newKeyVersion : ℕ) (actor : String) (fault : ℕ → Bool) : VaultM Unit := do
  let newMaster ← key env newKeyVersion
  let time ← now env.sources
  transaction do
    let rows ← Effect.reads fun s => s.database.secretRecords.rows
    Effect.forEach rows.zipIdx (rewrapRow env fault newKeyVersion newMaster time)
    interrupted fault rows.length
    appendEvent env ⟨time, actor, "rotate", "*", "completed", ""⟩

end Zhixu.Vault
