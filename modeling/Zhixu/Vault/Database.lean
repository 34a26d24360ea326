import Zhixu.Framework.Table
import Zhixu.Vault.Cryptography

/-!
# The vault database

The tables of the vault, a row each as a structure, and the database as one value. The
primary keys are those of the schema; `ON DELETE CASCADE` is `deleteSecret`, the one delete
the program has. Timestamps that nothing reads back as text are kept as instants; those of
the audit table are kept as the text they are stored as, since the text is what gets
authenticated.

The key ring of a process is state too: the keys it holds while it is unlocked, the Argon2
parameters it would derive a new key with, and the time a key was last used.

Code of the vault runs as an `Effect` on both (`VaultM`). The clock and the random source
are readings numbered in the order they are taken (`now`, `urandom`), so a theorem for every
clock covers every way time can pass, also within one request. `transaction` is the
context manager of the source: an exception takes back what the body wrote to the database,
and nothing else — keys used or locked meanwhile stay so.
-/

open Framework

namespace Zhixu.Vault

/-! ### Enumerations -/

inductive VaultAction
  | listMetadata
  | create
  | use
  | reveal
  | update
  | delete
  | exportSecret
  | grant
  | rotate
deriving DecidableEq, Repr

/-- The text of an action. -/
def VaultAction.value : VaultAction → String
  | listMetadata => "list_metadata"
  | create => "create"
  | use => "use"
  | reveal => "reveal"
  | update => "update"
  | delete => "delete"
  | exportSecret => "export"
  | grant => "grant"
  | rotate => "rotate"

/-- `VaultAction(text)`. -/
def VaultAction.parse (text : String) : Option VaultAction :=
  [listMetadata, create, use, reveal, update, delete, exportSecret, grant, rotate].find?
    fun action => action.value = text

@[simp] theorem VaultAction.parse_value (action : VaultAction) :
    VaultAction.parse action.value = some action := by
  cases action <;> decide

inductive SecretKind
  | machine
  | human
deriving DecidableEq, Repr

inductive VaultClassification
  | machineSecret
  | humanSecret
  | l4HumanOverride
  | prohibited
deriving DecidableEq, Repr

/-- `L4_HUMAN_STORAGE_OVERRIDE`. -/
def l4HumanStorageOverride : String := "owner_explicit_human_storage"

/-! ### Rows -/

inductive KeyStatus
  | active
  | retired
deriving DecidableEq, Repr

/-- A row of `key_versions`. -/
structure KeyVersion where
  version : ℕ
  wrappedMasterKey : List Char
  status : KeyStatus
  createdAt : Moment
deriving DecidableEq

/-- A row of `secret_records`. -/
structure SecretRecord where
  id : String
  ownerUserId : String
  label : String
  kind : SecretKind
  classification : VaultClassification
  ciphertext : List Char
  wrappedDataKey : List Char
  keyVersion : ℕ
  version : Int
  createdAt : Moment
  updatedAt : Moment
deriving DecidableEq

/-- A row of `secret_acl`. -/
structure SecretAcl where
  secretId : String
  subject : String
  action : String
  createdAt : Moment
deriving DecidableEq

/-- The primary key of `secret_acl`. -/
def SecretAcl.key (row : SecretAcl) : String × String × String :=
  (row.secretId, row.subject, row.action)

/-- A row of `secret_policy_overrides`. -/
structure PolicyOverride where
  secretId : String
  policy : String
  createdAt : Moment
deriving DecidableEq

/-- A row of `grant_nonces`. -/
structure GrantNonce where
  nonceHash : String
  subject : String
  secretId : String
  action : String
  expiresAt : Moment
  consumedAt : Moment
deriving DecidableEq

/-- A row of `vault_audit`. -/
structure AuditRow where
  sequence : Int
  occurredAt : String
  actor : String
  action : String
  secretId : String
  outcome : String
  reasonCode : String
  previousMac : String
  eventMac : String
deriving DecidableEq, Repr

/-- The vault database. -/
structure VaultDatabase where
  /-- `argon2_salt` of `vault_meta` -/
  argon2Salt : Option (List Char) := none
  /-- `argon2_parameters` of `vault_meta` -/
  argon2Parameters : Option Argon2Parameters := none
  keyVersions : Table KeyVersion KeyVersion.version := ∅
  secretRecords : Table SecretRecord SecretRecord.id := ∅
  secretAcl : Table SecretAcl SecretAcl.key := ∅
  secretPolicyOverrides : Table PolicyOverride PolicyOverride.secretId := ∅
  grantNonces : Table GrantNonce GrantNonce.nonceHash := ∅
  vaultAudit : Table AuditRow AuditRow.sequence := ∅
  /-- the largest `sequence` there has been: the table is `AUTOINCREMENT` -/
  sqliteSequence : Int := 0

namespace VaultDatabase

/-- `DELETE FROM secret_records WHERE id=?`, with the rows that reference it. -/
def deleteSecret (db : VaultDatabase) (secretId : String) : VaultDatabase :=
  { db with
    secretRecords := db.secretRecords.deleteWhere fun row => row.id = secretId
    secretAcl := db.secretAcl.deleteWhere fun row => row.secretId = secretId
    secretPolicyOverrides := db.secretPolicyOverrides.deleteWhere fun row =>
      row.secretId = secretId }

/-- `INSERT INTO vault_audit`: the next sequence number is larger than any there has been. -/
def insertAudit (db : VaultDatabase) (row : AuditRow) : Except VaultError VaultDatabase :=
  let sequence := db.vaultAudit.rows.foldl (fun top row => max top row.sequence)
    db.sqliteSequence + 1
  if row.eventMac ∈ db.vaultAudit.rows.map AuditRow.eventMac then .error .integrity
  else
    match db.vaultAudit.insert? { row with sequence := sequence } with
    | none => .error .integrity
    | some audit => .ok { db with vaultAudit := audit, sqliteSequence := sequence }

end VaultDatabase

/-! ### The key ring and the state of a run -/

/-- The state of a `VaultKeyring`. -/
structure KeyringState where
  parameters : Argon2Parameters := .standard
  /-- `_keys` -/
  keys : Table (ℕ × Bytes) Prod.fst := ∅
  /-- `_last_used_at` -/
  lastUsedAt : Option Moment := none

/-- The database, the key ring of the process, and how many readings of the clock and of the
random source have been taken. -/
structure VaultState where
  database : VaultDatabase := {}
  keyring : KeyringState := {}
  ticks : ℕ := 0
  draws : ℕ := 0

/-- Code of the vault. -/
abbrev VaultM := Effect VaultState VaultError

/-- The clock and the random source. -/
structure Sources where
  clock : ℕ → Moment
  random : ℕ → ℕ → Bytes
  length_random : ∀ draw length, (random draw length).length = length

theorem length_zeros (_draw length : ℕ) : (List.replicate length (0 : UInt8)).length = length :=
  List.length_replicate

variable (sources : Sources)

/-- `self.now()`. -/
def now : VaultM Moment := do
  let tick ← Effect.reads VaultState.ticks
  Effect.write fun s => { s with ticks := s.ticks + 1 }
  return sources.clock tick

/-- `os.urandom(length)`. -/
def urandom (length : ℕ) : VaultM Bytes := do
  let draw ← Effect.reads VaultState.draws
  Effect.write fun s => { s with draws := s.draws + 1 }
  return sources.random draw length

@[simp] theorem exec_now (s : VaultState) :
    (now sources).exec s = (.ok (sources.clock s.ticks), { s with ticks := s.ticks + 1 }) := rfl

@[simp] theorem exec_urandom (length : ℕ) (s : VaultState) :
    (urandom sources length).exec s =
      (.ok (sources.random s.draws length), { s with draws := s.draws + 1 }) := rfl

/-- A statement that changes the database or raises. -/
def statement (f : VaultDatabase → Except VaultError VaultDatabase) : VaultM Unit :=
  ExceptT.mk fun s =>
    match f s.database with
    | .ok db => (.ok (), { s with database := db })
    | .error e => (.error e, s)

/-- `with database.transaction()`: an exception takes the writes to the database back. -/
def transaction {α : Type} (body : VaultM α) : VaultM α :=
  ExceptT.mk fun s =>
    match body.exec s with
    | (.ok a, s') => (.ok a, s')
    | (.error e, s') => (.error e, { s' with database := s.database })

theorem exec_transaction {α : Type} (body : VaultM α) (s : VaultState) :
    (transaction body).exec s =
      match body.exec s with
      | (.ok a, s') => (.ok a, s')
      | (.error e, s') => (.error e, { s' with database := s.database }) := rfl

/-- A transaction that commits is one whose body succeeded. -/
theorem exec_transaction_ok {α : Type} {body : VaultM α} {s s' : VaultState} {a : α} :
    (transaction body).exec s = (.ok a, s') ↔ body.exec s = (.ok a, s') := by
  rw [exec_transaction]
  rcases body.exec s with ⟨r, s''⟩
  cases r <;> simp

/-- A transaction that raises leaves the database as it was. -/
theorem exec_transaction_error {α : Type} {body : VaultM α} {s s' : VaultState} {e : VaultError}
    (h : (transaction body).exec s = (.error e, s')) : s'.database = s.database := by
  rw [exec_transaction] at h
  rcases hbody : body.exec s with ⟨r, s''⟩
  rw [hbody] at h
  cases r with
  | ok a => simp at h
  | error e' =>
    simp only [Prod.mk.injEq] at h
    rw [← h.2]

theorem exec_statement (f : VaultDatabase → Except VaultError VaultDatabase) (s : VaultState) :
    (statement f).exec s =
      match f s.database with
      | .ok db => (.ok (), { s with database := db })
      | .error e => (.error e, s) := rfl

theorem exec_statement_ok {f : VaultDatabase → Except VaultError VaultDatabase} {s s' : VaultState}
    {u : Unit} : (statement f).exec s = (.ok u, s') ↔
      ∃ db, f s.database = .ok db ∧ s' = { s with database := db } := by
  rw [exec_statement]
  cases f s.database with
  | error e => simp
  | ok db => simp [eq_comm]

end Zhixu.Vault
