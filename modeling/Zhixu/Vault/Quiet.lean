import Zhixu.Vault.Processes

/-!
# Calls that leave the keys and the secrets alone

Most code of the vault writes nothing but its audit trail, the nonces of grants and access rows. The
wrapped keys, the derivation of the passphrase and the sealed secrets are as before (`SameSecrets`), in
whatever way the code ends; it is `Untouched`. What is not is named here by what is left over: the
statements that write one of the four, and the operations with such a statement.

To a key ring the same code does one of two things, use a key or lock the ring (`RingKept`). That
holds of all code but what opens a ring or adds a key, so it comes from the rules for rings.
-/

open Framework

namespace Zhixu.Vault.Decryptability

/-- The keys and the secrets are the same. -/
structure SameSecrets (db db' : VaultDatabase) : Prop where
  argon2Salt : db'.argon2Salt = db.argon2Salt
  argon2Parameters : db'.argon2Parameters = db.argon2Parameters
  keyVersions : db'.keyVersions = db.keyVersions
  secretRecords : db'.secretRecords = db.secretRecords

theorem SameSecrets.refl (db : VaultDatabase) : SameSecrets db db := ⟨rfl, rfl, rfl, rfl⟩

theorem SameSecrets.trans {db db' db'' : VaultDatabase} (h : SameSecrets db db')
    (h' : SameSecrets db' db'') : SameSecrets db db'' where
  argon2Salt := h'.argon2Salt.trans h.argon2Salt
  argon2Parameters := h'.argon2Parameters.trans h.argon2Parameters
  keyVersions := h'.keyVersions.trans h.keyVersions
  secretRecords := h'.secretRecords.trans h.secretRecords

/-- A ring has the keys it had, or none. -/
structure RingKept (ring ring' : KeyringState) : Prop where
  parameters : ring'.parameters = ring.parameters
  keys : ring'.keys = ring.keys ∨ ring'.keys = ∅

theorem RingKept.refl (ring : KeyringState) : RingKept ring ring := ⟨rfl, .inl rfl⟩

theorem RingKept.trans {ring ring' ring'' : KeyringState} (h : RingKept ring ring')
    (h' : RingKept ring' ring'') : RingKept ring ring'' := by
  refine ⟨h'.parameters.trans h.parameters, ?_⟩
  rcases h'.keys with hsame | hempty
  · rw [hsame]
    exact h.keys
  · exact .inr hempty

variable {env : Environment}

theorem ringKept_checked (s : VaultState) : RingKept s.keyring (s.checked env).keyring := by
  rcases checked_cases env s with ⟨n, hchecked, -⟩ | ⟨used, -, -, hchecked⟩
  · rw [hchecked]
    exact RingKept.refl _
  · rw [hchecked]
    exact ⟨rfl, .inr rfl⟩

theorem ringKept_touched (s : VaultState) : RingKept s.keyring (s.touched env).keyring :=
  ⟨rfl, .inl rfl⟩

theorem ringRelation_ringKept (env : Environment) :
    RingRelation env (fun s s' => RingKept s.keyring s'.keyring) where
  toRingRule := RingRule.of_ring (fun s => RingKept.refl s.keyring)
    (fun _ _ _ h h' => h.trans h') (fun _ h => h) (fun s => RingKept.refl s.keyring)
    (fun _ s => RingKept.refl s.keyring) fun s => by
      rw [exec_sealed]
      exact ringKept_checked s
  key version s := by
    rcases hexec : (key env version).exec s with ⟨r, s'⟩
    cases r with
    | error e =>
      rw [key_error hexec]
      exact ringKept_checked s
    | ok value =>
      obtain ⟨-, -, rfl⟩ := key_ok.mp hexec
      exact (ringKept_checked s).trans (ringKept_touched _)

/-! ### Code that leaves the secrets alone -/

/-- In whatever way it ends, the keys and the secrets are the same. -/
def Untouched {α : Type} (m : VaultM α) : Prop :=
  Effect.Within (fun s s' => SameSecrets s.database s'.database) m

namespace Untouched

theorem bind {α β : Type} {m : VaultM α} {f : α → VaultM β} (hm : Untouched m)
    (hf : ∀ a, Untouched (f a)) : Untouched (m >>= f) :=
  Effect.Within.bind (fun _ _ _ h h' => h.trans h') hm hf

theorem pure {α : Type} (a : α) : Untouched (Pure.pure a : VaultM α) := fun s => .refl s.database

theorem throw {α : Type} (e : VaultError) : Untouched (throw e : VaultM α) :=
  fun s => .refl s.database

theorem check {α : Type} (x : Except VaultError α) : Untouched (Effect.check x : VaultM α) :=
  fun s => .refl s.database

theorem query {α : Type} (f : VaultState → Except VaultError α) :
    Untouched (Effect.query f : VaultM α) := fun s => .refl s.database

theorem reads {α : Type} (f : VaultState → α) : Untouched (Effect.reads f : VaultM α) :=
  fun s => .refl s.database

theorem tryCatch {α : Type} {m : VaultM α} {handler : VaultError → VaultM α} (hm : Untouched m)
    (hhandler : ∀ e, Untouched (handler e)) : Untouched (tryCatch m handler) :=
  Effect.Within.tryCatch (fun _ _ _ h h' => h.trans h') hm hhandler

theorem transaction {α : Type} {body : VaultM α} (h : Untouched body) :
    Untouched (transaction body) := by
  intro s
  have hbody := h s
  rw [exec_transaction]
  rcases hexec : body.exec s with ⟨r, s'⟩
  rw [hexec] at hbody
  cases r with
  | ok a => exact hbody
  | error e => exact .refl s.database

/-- A statement on the other tables. -/
theorem statement {f : VaultDatabase → Except VaultError VaultDatabase}
    (h : ∀ db db', f db = .ok db' → SameSecrets db db') : Untouched (statement f) := by
  intro s
  rw [exec_statement]
  cases hf : f s.database with
  | error e => exact .refl s.database
  | ok db => exact h _ _ hf

theorem now : Untouched (now env.sources) := fun s => .refl s.database

theorem urandom (length : ℕ) : Untouched (urandom env.sources length) := fun s => .refl s.database

theorem sealed : Untouched (sealed env) := by
  intro s
  rw [exec_sealed]
  show SameSecrets s.database (s.checked env).database
  rw [database_checked]
  exact .refl s.database

theorem touch : Untouched (touch env) := fun s => .refl s.database

theorem key (version : ℕ) : Untouched (key env version) :=
  sealed.bind fun _ => RingRule.ite (throw _)
    ((query _).bind fun _ => touch.bind fun _ => pure _)

theorem active : Untouched (active env) := (query _).bind fun _ => (key _).bind fun _ => pure _

theorem auditVersion : Untouched (auditVersion env) :=
  sealed.bind fun _ => RingRule.ite (pure _) (reads _)

theorem auditKey (touched : Bool) : Untouched (auditKey env touched) :=
  auditVersion.bind fun version => sealed.bind fun _ =>
    RingRule.ite (throw _) (bind (RingRule.ite (key version) (query _)) fun _ => pure _)

theorem sealBytes (key plaintext : Bytes) (context : String) :
    Untouched (sealBytes env key plaintext context) :=
  (urandom 12).bind fun _ => pure _

theorem decrypt (secretId : String) : Untouched (decrypt env secretId) :=
  (query _).bind fun _ => (key _).bind fun _ => (check _).bind fun _ => check _

/-! ### The other tables -/

theorem append (event : AuditEvent) (auditKey : Bytes) :
    Untouched (append env.hmac event auditKey) := by
  refine statement fun db db' h => ?_
  unfold VaultDatabase.insertAudit at h
  simp only at h
  split at h
  · exact absurd h (by simp)
  · split at h
    · exact absurd h (by simp)
    · obtain rfl := Except.ok.inj h
      exact ⟨rfl, rfl, rfl, rfl⟩

theorem consumeNonce (row : GrantNonce) : Untouched (Vault.statement (consumeNonce row)) := by
  refine statement fun db db' h => ?_
  unfold Vault.consumeNonce at h
  split at h
  · exact absurd h (by simp)
  · obtain rfl := Except.ok.inj h
    exact ⟨rfl, rfl, rfl, rfl⟩

theorem sameSecrets_insertAcl {row : SecretAcl} {db db' : VaultDatabase}
    (h : db.insertAcl row = .ok db') : SameSecrets db db' := by
  unfold VaultDatabase.insertAcl at h
  split at h
  · obtain rfl := Except.ok.inj h
    exact .refl db
  · split at h
    · exact absurd h (by simp)
    · obtain rfl := Except.ok.inj h
      exact ⟨rfl, rfl, rfl, rfl⟩

theorem appendEvent (event : AuditEvent) : Untouched (appendEvent env event) :=
  (auditKey true).bind fun key => append event key

theorem recordAccess (actor action secretId outcome reasonCode : String) :
    Untouched (recordAccess env actor action secretId outcome reasonCode) :=
  now.bind fun _ => (appendEvent _).transaction

theorem grantRecord (secretId subject : String) (action : VaultAction) (actor : String) :
    Untouched (grantRecord env secretId subject action actor) :=
  now.bind fun _ => transaction ((statement fun _ _ => sameSecrets_insertAcl).bind fun _ =>
    appendEvent _)

/-! ### The service -/

section Service

variable {Data Request : Type} {service : VaultService Data Request}

theorem recordSuccess (grant : VerifiedGrant) (action : VaultAction) (secretId : String) :
    Untouched (service.recordSuccess grant action secretId) := recordAccess _ _ _ _ _

theorem recordDenial (actor : String) (action : VaultAction) (secretId reasonCode : String) :
    Untouched (service.recordDenial actor action secretId reasonCode) :=
  (recordAccess _ _ _ _ _).tryCatch fun _ => pure _

theorem orDenied {α : Type} {actor : String} {action : VaultAction} {secretId : String}
    {m : VaultM α} (hm : Untouched m) : Untouched (service.orDenied actor action secretId m) :=
  hm.tryCatch fun e => (recordDenial _ _ _ _).bind fun _ => throw e

theorem verifyAndConsume (token secretId action : String) :
    Untouched (service.verifier.verifyAndConsume service.env.sources token secretId action) :=
  (check _).bind fun _ => (check _).bind fun _ => (@now service.env).bind fun _ =>
    (check _).bind fun _ => (transaction ((check _).bind fun _ =>
      (@now service.env).bind fun _ => (consumeNonce _).bind fun _ => pure _)).bind
        fun _ => pure _

theorem authorize (token secretId : String) (action : VaultAction) :
    Untouched (service.authorize token secretId action) :=
  (orDenied (verifyAndConsume _ _ _)).bind fun _ => (orDenied (query _)).bind fun _ => pure _

theorem listOwnedMetadata (token : String) : Untouched (service.listOwnedMetadata token) :=
  (orDenied (verifyAndConsume _ _ _)).bind fun _ =>
    orDenied ((reads _).bind fun _ => (recordSuccess _ _ _).bind fun _ => pure _)

theorem listMetadata (token secretId : String) : Untouched (service.listMetadata token secretId) :=
  (authorize _ _ _).bind fun _ => (recordSuccess _ _ _).bind fun _ => pure _

theorem reveal (token secretId : String) : Untouched (service.reveal token secretId) :=
  (authorize _ _ _).bind fun _ => (decrypt _).bind fun _ => (recordSuccess _ _ _).bind fun _ => pure _

theorem prepareUse (token secretId executorName : String) :
    Untouched (service.prepareUse token secretId executorName) := by
  refine (authorize _ _ _).bind fun authorized => ?_
  cases service.executors executorName with
  | none => exact (recordDenial _ _ _ _).bind fun _ => throw _
  | some executor => exact (decrypt _).bind fun _ => pure _

theorem finishUse (grant : VerifiedGrant) (secretId : String) (execution : Execution Data) :
    Untouched (service.finishUse grant secretId execution) := by
  unfold VaultService.finishUse
  cases execution.outcome with
  | raised e => exact throw e
  | unsupported => exact throw _
  | returned result =>
    refine (check _).bind fun serialized => (check _).bind fun text => ?_
    split
    · exact (recordDenial _ _ _ _).bind fun _ => throw _
    · exact (recordSuccess _ _ _).bind fun _ => pure _

theorem use (token secretId executorName : String) (request : Request) :
    Untouched (service.use token secretId executorName request) :=
  (prepareUse _ _ _).bind fun _ => (reads _).bind fun _ => finishUse _ _ _

theorem exportEncrypted (token secretId exportPassphrase : String) :
    Untouched (service.exportEncrypted token secretId exportPassphrase) :=
  (authorize _ _ _).bind fun _ => (@urandom service.env _).bind fun _ => (check _).bind fun _ =>
    (query _).bind fun _ => (decrypt _).bind fun _ => (sealBytes _ _ _).bind fun _ =>
      (recordSuccess _ _ _).bind fun _ => pure _

theorem grantAcl (token secretId subject : String) (action : VaultAction) :
    Untouched (service.grantAcl token secretId subject action) :=
  (authorize _ _ _).bind fun _ => grantRecord _ _ _ _

theorem writeCheckpoint : Untouched service.writeCheckpoint :=
  sealed.bind fun _ => RingRule.ite (pure _)
    (tryCatch ((auditKey false).bind fun _ => (@now service.env).bind fun _ => pure _)
      fun _ => pure _)

end Service

end Untouched

end Zhixu.Vault.Decryptability
