import Zhixu.Vault.Audit

/-!
# The key ring

The master keys of the vault, one for each key version, are stored sealed under a key that is
derived from the passphrase. `unlock` opens them into the memory of the process, `lock` wipes
them, and reading any of them (`key`) asks `sealed` first, which locks when the ring has not
been used for the idle timeout.

`Environment` holds what a process runs with: its clock and random source, the timeout, and
the primitives. Every reading of the clock is one of its own, so a ring can expire between two
lines of one function, and it does in these definitions wherever it can in the source.

The lemmas `exec_sealed`, `exec_key_*` and `exec_auditKey_*` say what reading a key does to the
state: it takes readings, it may lock, and, when it succeeds, it marks the ring as used. All
other code changes the ring only through them, through `installKeys` and through
`addKeyVersion`.
-/

open Framework

namespace Zhixu.Vault

/-- What a process of the vault runs with. -/
structure Environment where
  sources : Sources
  /-- `idle_timeout`, in microseconds -/
  idleTimeout : Int
  aes : AesGcm
  argon2 : Argon2
  hmac : Hmac
  /-- `HKDF(SHA256, 32, info).derive(key)` -/
  hkdf : String → Bytes → Bytes

/-- `except Exception: raise e`. -/
def orRaise {α : Type} (e : VaultError) : Except VaultError α → Except VaultError α
  | .ok a => .ok a
  | .error _ => .error e

theorem orRaise_eq_ok {α : Type} {e : VaultError} {x : Except VaultError α} {a : α} :
    orRaise e x = .ok a ↔ x = .ok a := by
  cases x with
  | error e' => simp [orRaise]
  | ok b => simp [orRaise]

/-! ### The rows of the key versions -/

/-- `vault-master-key:{version}`. -/
def masterContext (version : ℕ) : String := s!"vault-master-key:{version}"

/-- `zhixu-vault-audit:{version}`. -/
def auditInfo (version : ℕ) : String := s!"zhixu-vault-audit:{version}"

namespace VaultDatabase

/-- `SELECT … FROM key_versions ORDER BY version`. -/
def keyVersionRows (db : VaultDatabase) : List KeyVersion :=
  db.keyVersions.select (fun _ => true) fun a b => a.version ≤ b.version

/-- `INSERT INTO key_versions`: one version may be active. -/
def insertKeyVersion (db : VaultDatabase) (row : KeyVersion) : Except VaultError VaultDatabase :=
  if row.status = .active ∧ db.keyVersions.rows.any (fun other => other.status = .active) then
    .error .integrity
  else
    match db.keyVersions.insert? row with
    | none => .error .integrity
    | some keyVersions => .ok { db with keyVersions := keyVersions }

/-- `UPDATE key_versions SET status='retired'`. -/
def retireKeyVersions (db : VaultDatabase) : VaultDatabase :=
  { db with
    keyVersions := db.keyVersions.updateWhere (fun _ => true) fun row =>
      { row with status := .retired } }

/-- `UPDATE key_versions SET wrapped_master_key=? WHERE version=?`. -/
def setWrappedMasterKey (db : VaultDatabase) (version : ℕ) (wrapped : List Char) : VaultDatabase :=
  { db with
    keyVersions := db.keyVersions.updateWhere (fun row => row.version = version) fun row =>
      { row with wrappedMasterKey := wrapped } }

/-- `INSERT INTO vault_meta`, of the salt and the parameters. -/
def insertMeta (db : VaultDatabase) (salt : List Char) (parameters : Argon2Parameters) :
    Except VaultError VaultDatabase :=
  if db.argon2Salt.isSome ∨ db.argon2Parameters.isSome then .error .integrity
  else .ok { db with argon2Salt := some salt, argon2Parameters := some parameters }

end VaultDatabase

/-- The dictionary of some keys. -/
def keysOf (keys : List (ℕ × Bytes)) : Table (ℕ × Bytes) Prod.fst :=
  keys.foldl (fun table entry => table.upsert entry fun old => (old.1, entry.2)) ∅

variable (env : Environment)

/-! ### Reading keys -/

/-- `lock`. -/
def lock : VaultM Unit :=
  Effect.write fun s => { s with keyring := { s.keyring with keys := ∅, lastUsedAt := none } }

/-- The ring has not been used for the idle timeout. -/
def expired (used time : Moment) : Prop := env.idleTimeout ≤ time.1 - used.1

instance (used time : Moment) : Decidable (expired env used time) :=
  inferInstanceAs (Decidable (_ ≤ _))

/-- `sealed`. -/
def sealed : VaultM Bool := do
  match ← Effect.reads fun s => s.keyring.lastUsedAt with
  | none => pure ()
  | some used =>
    let time ← now env.sources
    if expired env used time then lock
  Effect.reads fun s => s.keyring.keys.rows.isEmpty

/-- `self._last_used_at = self.now()`. -/
def touch : VaultM Unit := do
  let time ← now env.sources
  Effect.write fun s => { s with keyring := { s.keyring with lastUsedAt := some time } }

/-- The entry of `_keys`. -/
def keyEntry (version : ℕ) : VaultM Bytes :=
  Effect.query fun s =>
    match s.keyring.keys.find? version with
    | none => .error (.key "vault key version is unavailable")
    | some entry => .ok entry.2

/-- `key`. -/
def key (version : ℕ) : VaultM Bytes := do
  if ← sealed env then throw (.permission "vault is sealed")
  let value ← keyEntry version
  touch env
  return value

/-- `active`. -/
def active : VaultM (ℕ × Bytes) := do
  let version ← Effect.query fun s =>
    match s.database.keyVersions.rows.find? fun row => row.status = .active with
    | none => .error (.runtime "vault has no active key")
    | some row => .ok row.version
  let value ← key env version
  return (version, value)

/-- `min(self._keys) if not self.sealed else 1`. -/
def auditVersion : VaultM ℕ := do
  if ← sealed env then return 1
  Effect.reads fun s => ((s.keyring.keys.rows.map Prod.fst).min?).getD 1

/-- `audit_key`. -/
def auditKey (touched : Bool := true) : VaultM Bytes := do
  let version ← auditVersion env
  if ← sealed env then throw (.permission "vault is sealed")
  let master ← (if touched then key env version else keyEntry version)
  return env.hkdf (auditInfo version) master

/-! ### The life of the keys -/

/-- `seal`. -/
def sealBytes (key plaintext : Bytes) (context : String) : VaultM (List Char) := do
  let nonce ← urandom env.sources 12
  return sealWith env.aes nonce key plaintext context

/-- `_install_keys`. -/
def installKeys (keys : List (ℕ × Bytes)) : VaultM Unit := do
  lock
  Effect.write fun s => { s with keyring := { s.keyring with keys := keysOf keys } }
  touch env

/-- `initialize`. -/
def initializeVault (passphrase : String) : VaultM Unit := do
  let masterKey ← transaction do
    let rows ← Effect.reads fun s => s.database.keyVersions.rows
    Effect.check (raiseIf (rows ≠ []) (.runtime "vault is already initialized"))
    let salt ← urandom env.sources 16
    let parameters ← Effect.reads fun s => s.keyring.parameters
    let unlockKey ← Effect.check (parameters.derive env.argon2 passphrase salt)
    let masterKey ← urandom env.sources 32
    let created ← now env.sources
    statement fun db => db.insertMeta (Base64.encode salt) parameters
    let wrapped ← sealBytes env unlockKey masterKey (masterContext 1)
    statement fun db => db.insertKeyVersion
      { version := 1, wrappedMasterKey := wrapped, status := .active, createdAt := created }
    return masterKey
  installKeys env [(1, masterKey)]

/-- The master keys of some rows, opened. -/
def openMasters (unlockKey : Bytes) (rows : List KeyVersion) :
    Except VaultError (List (ℕ × Bytes)) :=
  rows.mapM fun row => do
    let master ← openSealed env.aes unlockKey row.wrappedMasterKey (masterContext row.version)
    return (row.version, master)

/-- `values["argon2_salt"]`, decoded. -/
def storedSalt (db : VaultDatabase) : Except VaultError Bytes :=
  match db.argon2Salt with
  | none => .error (.key "argon2_salt")
  | some text =>
    match Base64.decode false text with
    | none => .error (.value "Incorrect padding")
    | some salt => .ok salt

/-- `Argon2Parameters(**json.loads(values["argon2_parameters"]))`. -/
def storedParameters (db : VaultDatabase) : Except VaultError Argon2Parameters :=
  match db.argon2Parameters with
  | none => .error (.key "argon2_parameters")
  | some parameters => .ok parameters

/-- What `unlock` computes from the database. -/
def unlockedKeys (db : VaultDatabase) (passphrase : String) :
    Except VaultError (Argon2Parameters × List (ℕ × Bytes)) := do
  raiseIf (db.keyVersionRows = []) (.runtime "vault is not initialized")
  let parameters ← storedParameters db
  let salt ← storedSalt db
  let unlockKey ← parameters.derive env.argon2 passphrase salt
  let keys ← orRaise (.permission "vault unlock failed")
    (openMasters env unlockKey db.keyVersionRows)
  return (parameters, keys)

/-- `unlock`. -/
def unlock (passphrase : String) : VaultM Unit := do
  let (parameters, keys) ← Effect.query fun s => unlockedKeys env s.database passphrase
  Effect.write fun s => { s with keyring := { s.keyring with parameters := parameters } }
  installKeys env keys

/-- `_load_derivation`. -/
def loadDerivation (db : VaultDatabase) : Except VaultError (Bytes × Argon2Parameters) := do
  let salt ← storedSalt db
  let parameters ← storedParameters db
  return (salt, parameters)

/-- `max(versions) + 1`. -/
def nextVersion (rows : List KeyVersion) : Except VaultError ℕ :=
  match (rows.map KeyVersion.version).max? with
  | none => .error (.value "max() arg is an empty sequence")
  | some version => .ok (version + 1)

/-- `add_key_version`. -/
def addKeyVersion (passphrase : String) : VaultM ℕ := do
  if ← sealed env then throw (.permission "vault is sealed")
  let (salt, parameters) ← Effect.query fun s => loadDerivation s.database
  let unlockKey ← Effect.check (parameters.derive env.argon2 passphrase salt)
  let (version, master) ← transaction do
    let rows ← Effect.reads fun s => s.database.keyVersionRows
    let _ ← Effect.check (orRaise (.permission "vault passphrase verification failed")
      (openMasters env unlockKey rows))
    let version ← Effect.check (nextVersion rows)
    let master ← urandom env.sources 32
    statement fun db => .ok db.retireKeyVersions
    let wrapped ← sealBytes env unlockKey master (masterContext version)
    let created ← now env.sources
    statement fun db => db.insertKeyVersion
      { version := version, wrappedMasterKey := wrapped, status := .active, createdAt := created }
    return (version, master)
  Effect.write fun s =>
    { s with
      keyring := { s.keyring with
        keys := s.keyring.keys.upsert (version, master) fun old => (old.1, master) } }
  touch env
  return version

/-- One `UPDATE` of `change_passphrase`. -/
def rewrapMaster (newKey : Bytes) (entry : ℕ × Bytes) : VaultM Unit := do
  let wrapped ← sealBytes env newKey entry.2 (masterContext entry.1)
  statement fun db => .ok (db.setWrappedMasterKey entry.1 wrapped)

/-- `change_passphrase`. -/
def changePassphrase (oldPassphrase newPassphrase : String) : VaultM Unit := do
  if ← sealed env then throw (.permission "vault is sealed")
  let (oldSalt, oldParameters) ← Effect.query fun s => loadDerivation s.database
  let oldKey ← Effect.check (oldParameters.derive env.argon2 oldPassphrase oldSalt)
  let newSalt ← urandom env.sources 16
  let parameters ← Effect.reads fun s => s.keyring.parameters
  let newKey ← Effect.check (parameters.derive env.argon2 newPassphrase newSalt)
  transaction do
    let rows ← Effect.reads fun s => s.database.keyVersions.rows
    let plain ← Effect.check (orRaise (.permission "old vault passphrase is invalid")
      (openMasters env oldKey rows))
    Effect.forEach plain (rewrapMaster env newKey)
    statement fun db => .ok { db with argon2Salt := some (Base64.encode newSalt) }

/-! ### What reading a key does -/

/-- The state after the ring has been asked whether it is sealed. -/
def VaultState.checked (s : VaultState) : VaultState :=
  match s.keyring.lastUsedAt with
  | none => s
  | some used =>
    if expired env used (env.sources.clock s.ticks) then
      { s with
        keyring := { s.keyring with keys := ∅, lastUsedAt := none }
        ticks := s.ticks + 1 }
    else { s with ticks := s.ticks + 1 }

/-- The state after a key was read in it. -/
def VaultState.touched (s : VaultState) : VaultState :=
  { s with
    keyring := { s.keyring with lastUsedAt := some (env.sources.clock s.ticks) }
    ticks := s.ticks + 1 }

variable {env}

theorem exec_sealed (s : VaultState) :
    (sealed env).exec s =
      (.ok (s.checked env).keyring.keys.rows.isEmpty, s.checked env) := by
  unfold sealed VaultState.checked
  rw [Effect.exec_reads_bind]
  cases hused : s.keyring.lastUsedAt with
  | none => rfl
  | some used =>
    simp only
    rw [Effect.exec_bind, exec_now]
    by_cases hexpired : expired env used (env.sources.clock s.ticks)
    · simp only [if_pos hexpired]
      rfl
    · simp only [if_neg hexpired]
      rfl

variable (env) in
/-- A check takes nothing but readings, or everything. -/
theorem checked_cases (s : VaultState) :
    (∃ n, s.checked env = { s with ticks := n } ∧ s.ticks ≤ n) ∨
      (∃ used, s.keyring.lastUsedAt = some used ∧
        expired env used (env.sources.clock s.ticks) ∧
        s.checked env = { s with
          keyring := { s.keyring with keys := ∅, lastUsedAt := none }
          ticks := s.ticks + 1 }) := by
  unfold VaultState.checked
  cases hused : s.keyring.lastUsedAt with
  | none => exact .inl ⟨s.ticks, rfl, le_rfl⟩
  | some used =>
    by_cases hexpired : expired env used (env.sources.clock s.ticks)
    · simp only [if_pos hexpired]
      exact .inr ⟨used, rfl, hexpired, trivial⟩
    · simp only [if_neg hexpired]
      exact .inl ⟨s.ticks + 1, rfl, Nat.le_succ _⟩

theorem database_checked (s : VaultState) : (s.checked env).database = s.database := by
  rcases checked_cases env s with ⟨n, hchecked, -⟩ | ⟨used, -, -, hchecked⟩
  · rw [hchecked]
  · rw [hchecked]

/-- A ring that is open and in use stays so through a check. -/
theorem checked_of_open {s : VaultState} {used : Moment} (hused : s.keyring.lastUsedAt = some used)
    (hfresh : ¬ expired env used (env.sources.clock s.ticks)) :
    s.checked env = { s with ticks := s.ticks + 1 } := by
  unfold VaultState.checked
  rw [hused]
  simp only [if_neg hfresh]

theorem isEmpty_checked {s : VaultState} (h : s.keyring.keys = ∅) :
    (s.checked env).keyring.keys = ∅ := by
  rcases checked_cases env s with ⟨n, hchecked, -⟩ | ⟨used, -, -, hchecked⟩
  · rw [hchecked]
    exact h
  · rw [hchecked]

/-- **Inversion of `key`.** -/
theorem key_ok {version : ℕ} {value : Bytes} {s s' : VaultState} :
    (key env version).exec s = (.ok value, s') ↔
      (s.checked env).keyring.keys.rows ≠ [] ∧
      (∃ entry, (s.checked env).keyring.keys.find? version = some entry ∧ value = entry.2) ∧
      s' = (s.checked env).touched env := by
  unfold key
  rw [Effect.exec_bind, exec_sealed]
  simp only
  cases hempty : (s.checked env).keyring.keys.rows.isEmpty with
  | true =>
    rw [List.isEmpty_iff] at hempty
    simp [hempty]
  | false =>
    have hne : (s.checked env).keyring.keys.rows ≠ [] := by
      intro h
      rw [h] at hempty
      exact absurd hempty (by simp)
    simp only [Bool.false_eq_true, if_false]
    unfold keyEntry
    rw [Effect.exec_bind, Effect.exec_query]
    cases hfind : (s.checked env).keyring.keys.find? version with
    | none => simp
    | some entry =>
      simp only [Option.some.injEq]
      constructor
      · intro h
        obtain ⟨hvalue, hstate⟩ := Prod.mk.inj h
        exact ⟨hne, ⟨entry, rfl, (Except.ok.inj hvalue).symm⟩, hstate.symm⟩
      · rintro ⟨-, ⟨found, rfl, rfl⟩, rfl⟩
        rfl

/-- A key that is not read leaves the state as the check left it. -/
theorem key_error {version : ℕ} {e : VaultError} {s s' : VaultState}
    (h : (key env version).exec s = (.error e, s')) : s' = s.checked env := by
  unfold key at h
  rw [Effect.exec_bind, exec_sealed] at h
  simp only at h
  cases hempty : (s.checked env).keyring.keys.rows.isEmpty with
  | true =>
    rw [hempty] at h
    exact (Prod.mk.inj h).2.symm
  | false =>
    rw [hempty] at h
    simp only [Bool.false_eq_true, if_false] at h
    unfold keyEntry at h
    rw [Effect.exec_bind, Effect.exec_query] at h
    cases hfind : (s.checked env).keyring.keys.find? version with
    | none =>
      rw [hfind] at h
      exact (Prod.mk.inj h).2.symm
    | some entry =>
      rw [hfind] at h
      exact absurd (Prod.mk.inj h).1 (by simp)

end Zhixu.Vault
