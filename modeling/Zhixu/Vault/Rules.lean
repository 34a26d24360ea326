import Zhixu.Vault.Service

/-!
# Rules for code of the vault

What a relation between the states before and after has to keep to so that all code of the vault
keeps to it: it is a preorder, a rollback stays in it, and so do the primitives — the clock,
the random source, the check whether the ring is sealed, the reading of a key — and every
statement the program runs on the database (`DatabaseStatement`). What is built from these
follows (`RingRule`, and `RingRelation` for code that reads keys), function by function up to
the operations of the service. A property of runs is then settled at the primitives.

`RingRelation.of_ring` is for relations that do not look at the database, and
`RingRelation.of_database` for those that look at nothing else.
-/

open Framework

namespace Zhixu.Vault

/-- The statements of the program. -/
inductive DatabaseStatement (hmac : Hmac) : VaultM Unit → Prop
  | append (event : AuditEvent) (auditKey : Bytes) :
    DatabaseStatement hmac (append hmac event auditKey)
  | consumeNonce (row : GrantNonce) : DatabaseStatement hmac (statement (consumeNonce row))
  | insertMeta (salt : List Char) (parameters : Argon2Parameters) :
    DatabaseStatement hmac (statement fun db => db.insertMeta salt parameters)
  | insertKeyVersion (row : KeyVersion) :
    DatabaseStatement hmac (statement fun db => db.insertKeyVersion row)
  | retireKeyVersions : DatabaseStatement hmac (statement fun db => .ok db.retireKeyVersions)
  | setWrappedMasterKey (version : ℕ) (wrapped : List Char) :
    DatabaseStatement hmac (statement fun db => .ok (db.setWrappedMasterKey version wrapped))
  | setSalt (salt : List Char) :
    DatabaseStatement hmac (statement fun db => .ok { db with argon2Salt := some salt })
  | insertSecret (row : SecretRecord) (policyOverride : Option String)
    (ownerActions : List VaultAction) :
    DatabaseStatement hmac (statement fun db => db.insertSecret row policyOverride ownerActions)
  | updateSecret (secretId : String) (expectedVersion : Int) (ciphertext wrapped : List Char)
    (keyVersion : ℕ) (time : Moment) :
    DatabaseStatement hmac (statement fun db =>
      db.updateSecret secretId expectedVersion ciphertext wrapped keyVersion time)
  | removeSecret (secretId : String) :
    DatabaseStatement hmac (statement fun db => db.removeSecret secretId)
  | insertAcl (row : SecretAcl) : DatabaseStatement hmac (statement fun db => db.insertAcl row)
  | setWrappedDataKey (secretId : String) (wrapped : List Char) (keyVersion : ℕ) (time : Moment) :
    DatabaseStatement hmac (statement fun db =>
      db.setWrappedDataKey secretId wrapped keyVersion time)

/-- A statement either raises or turns the database into another. -/
theorem DatabaseStatement.exec {hmac : Hmac} {m : VaultM Unit} (h : DatabaseStatement hmac m) :
    ∃ f : VaultDatabase → Except VaultError VaultDatabase, m = statement f := by
  cases h <;> exact ⟨_, rfl⟩

variable {env : Environment}

/-- A relation between the states before and after that the primitives of the vault keep to,
apart from reading a key. -/
structure RingRule (env : Environment) (R : VaultState → VaultState → Prop) : Prop where
  refl : ∀ s, R s s
  trans : ∀ s s' s'', R s s' → R s' s'' → R s s''
  rollback : ∀ {s s'}, R s s' → R s { s' with database := s.database }
  statement : ∀ {m}, DatabaseStatement env.hmac m → Effect.Within R m
  now : Effect.Within R (now env.sources)
  urandom : ∀ length, Effect.Within R (urandom env.sources length)
  sealed : Effect.Within R (sealed env)

/-- One that reading a key keeps to as well: all code of the vault does, apart from what opens
a ring. -/
structure RingRelation (env : Environment) (R : VaultState → VaultState → Prop) : Prop extends
    RingRule env R where
  key : ∀ version, Effect.Within R (key env version)

/-- A relation that does not look at the database. -/
theorem RingRule.of_ring {R : VaultState → VaultState → Prop} (refl : ∀ s, R s s)
    (trans : ∀ s s' s'', R s s' → R s' s'' → R s s'')
    (database : ∀ {s s'} db, R s s' → R s { s' with database := db })
    (now : Effect.Within R (Vault.now env.sources))
    (urandom : ∀ length, Effect.Within R (Vault.urandom env.sources length))
    (sealed : Effect.Within R (Vault.sealed env)) : RingRule env R where
  refl := refl
  trans := trans
  rollback h := database _ h
  statement h s := by
    obtain ⟨f, rfl⟩ := h.exec
    rw [exec_statement]
    cases f s.database with
    | error e => exact refl s
    | ok db => exact database db (refl s)
  now := now
  urandom := urandom
  sealed := sealed

/-- A relation that looks at the database alone. -/
theorem RingRelation.of_database (Q : VaultDatabase → VaultDatabase → Prop) (refl : ∀ db, Q db db)
    (trans : ∀ db db' db'', Q db db' → Q db' db'' → Q db db'')
    (statement : ∀ {m}, DatabaseStatement env.hmac m →
      Effect.Within (fun s s' => Q s.database s'.database) m) :
    RingRelation env (fun s s' => Q s.database s'.database) where
  refl s := refl s.database
  trans _ _ _ := trans _ _ _
  rollback _ := refl _
  statement := statement
  now _ := refl _
  urandom _ _ := refl _
  sealed s := by
    show Q s.database ((Vault.sealed env).exec s).2.database
    rw [exec_sealed, database_checked]
    exact refl _
  key version s := by
    show Q s.database ((Vault.key env version).exec s).2.database
    rcases hexec : (Vault.key env version).exec s with ⟨r, s'⟩
    cases r with
    | error e =>
      rw [key_error hexec, database_checked]
      exact refl _
    | ok value =>
      obtain ⟨-, -, rfl⟩ := key_ok.mp hexec
      show Q s.database (s.checked env).database
      rw [database_checked]
      exact refl _

namespace RingRule

variable {R : VaultState → VaultState → Prop} (rule : RingRule env R)

include rule

theorem bind {α β : Type} {m : VaultM α} {f : α → VaultM β} (hm : Effect.Within R m)
    (hf : ∀ a, Effect.Within R (f a)) : Effect.Within R (m >>= f) :=
  .bind rule.trans hm hf

theorem pure {α : Type} (a : α) : Effect.Within R (Pure.pure a : VaultM α) := .pure rule.refl a

theorem throw {α : Type} (e : VaultError) : Effect.Within R (throw e : VaultM α) :=
  fun s => rule.refl s

theorem check {α : Type} (x : Except VaultError α) :
    Effect.Within R (Effect.check x : VaultM α) := .check rule.refl x

theorem query {α : Type} (f : VaultState → Except VaultError α) :
    Effect.Within R (Effect.query f : VaultM α) :=
  fun s => rule.refl s

theorem reads {α : Type} (f : VaultState → α) : Effect.Within R (Effect.reads f : VaultM α) :=
  fun s => rule.refl s

theorem transaction {α : Type} {body : VaultM α} (h : Effect.Within R body) :
    Effect.Within R (transaction body) := by
  intro s
  have hbody := h s
  rw [exec_transaction]
  rcases hexec : body.exec s with ⟨r, s'⟩
  rw [hexec] at hbody
  cases r with
  | ok a => exact hbody
  | error e => exact rule.rollback hbody

omit rule in
theorem ite {α : Type} {c : Prop} [Decidable c] {m m' : VaultM α} (h : Effect.Within R m)
    (h' : Effect.Within R m') : Effect.Within R (if c then m else m') := by
  split
  · exact h
  · exact h'

theorem forEach {α : Type} (xs : List α) {body : α → VaultM Unit}
    (h : ∀ x, Effect.Within R (body x)) : Effect.Within R (Effect.forEach xs body) := by
  induction xs with
  | nil => exact rule.pure _
  | cons x xs ih => exact rule.bind (h x) fun _ => ih

theorem tryCatch {α : Type} {m : VaultM α}
    {handler : VaultError → VaultM α} (hm : Effect.Within R m)
    (hh : ∀ e, Effect.Within R (handler e)) : Effect.Within R (tryCatch m handler) := by
  intro s
  have hs := hm s
  rw [Effect.exec_tryCatch]
  rcases hexec : m.exec s with ⟨r, s'⟩
  rw [hexec] at hs
  cases r with
  | ok a => exact hs
  | error e => exact rule.trans _ _ _ hs (hh e s')

theorem keyEntry (version : ℕ) : Effect.Within R (keyEntry version) := rule.query _

theorem auditVersion : Effect.Within R (auditVersion env) :=
  rule.bind rule.sealed fun _ => ite (rule.pure _) (rule.reads _)

/-- `audit_key(touch=False)`. -/
theorem auditKeyUntouched : Effect.Within R (auditKey env false) :=
  rule.bind rule.auditVersion fun version => rule.bind rule.sealed fun _ =>
    ite (rule.throw _) (rule.bind (rule.keyEntry version) fun _ => rule.pure _)

theorem sealBytes (key plaintext : Bytes) (context : String) :
    Effect.Within R (sealBytes env key plaintext context) :=
  rule.bind (rule.urandom 12) fun _ => rule.pure _

theorem rewrapMaster (newKey : Bytes) (entry : ℕ × Bytes) :
    Effect.Within R (rewrapMaster env newKey entry) :=
  rule.bind (rule.sealBytes _ _ _) fun _ => rule.statement (.setWrappedMasterKey _ _)

theorem changePassphrase (oldPassphrase newPassphrase : String) :
    Effect.Within R (changePassphrase env oldPassphrase newPassphrase) :=
  rule.bind rule.sealed fun _ => ite (rule.throw _) (rule.bind (rule.query _) fun _ =>
    rule.bind (rule.check _) fun _ => rule.bind (rule.urandom 16) fun _ =>
      rule.bind (rule.reads _) fun _ => rule.bind (rule.check _) fun _ =>
        rule.transaction (rule.bind (rule.reads _) fun _ => rule.bind (rule.check _) fun _ =>
          rule.bind (rule.forEach _ (rule.rewrapMaster _)) fun _ => rule.statement (.setSalt _)))

/-- `add_key_version`, up to what it does to the ring. -/
theorem addKeyVersion (hinstall : ∀ version master, Effect.Within R (do
      Effect.write fun s => { s with
        keyring := { s.keyring with
          keys := s.keyring.keys.upsert (version, master) fun old => (old.1, master) } }
      touch env
      return version : VaultM ℕ)) (passphrase : String) :
    Effect.Within R (addKeyVersion env passphrase) :=
  rule.bind rule.sealed fun _ => ite (rule.throw _) (rule.bind (rule.query _) fun _ =>
    rule.bind (rule.check _) fun _ => rule.bind (rule.transaction
      (rule.bind (rule.reads _) fun _ => rule.bind (rule.check _) fun _ =>
        rule.bind (rule.check _) fun _ => rule.bind (rule.urandom 32) fun _ =>
          rule.bind (rule.statement .retireKeyVersions) fun _ =>
            rule.bind (rule.sealBytes _ _ _) fun _ => rule.bind rule.now fun _ =>
              rule.bind (rule.statement (.insertKeyVersion _)) fun _ => rule.pure _))
      fun _ => hinstall _ _)

/-- `initialize`, up to what it does to the ring. -/
theorem initializeVault (hinstall : ∀ keys, Effect.Within R (installKeys env keys))
    (passphrase : String) : Effect.Within R (initializeVault env passphrase) :=
  rule.bind (rule.transaction (rule.bind (rule.reads _) fun _ => rule.bind (rule.check _) fun _ =>
    rule.bind (rule.urandom 16) fun _ => rule.bind (rule.reads _) fun _ =>
      rule.bind (rule.check _) fun _ => rule.bind (rule.urandom 32) fun _ =>
        rule.bind rule.now fun _ => rule.bind (rule.statement (.insertMeta _ _)) fun _ =>
          rule.bind (rule.sealBytes _ _ _) fun _ =>
            rule.bind (rule.statement (.insertKeyVersion _)) fun _ => rule.pure _))
    fun _ => hinstall _

end RingRule

namespace RingRelation

variable {R : VaultState → VaultState → Prop} (rule : RingRelation env R)

include rule

theorem active : Effect.Within R (active env) :=
  rule.bind (rule.query _) fun version => rule.bind (rule.key version) fun _ => rule.pure _

theorem auditKey (touched : Bool) : Effect.Within R (auditKey env touched) :=
  rule.bind rule.auditVersion fun version => rule.bind rule.sealed fun _ =>
    RingRule.ite (rule.throw _) (rule.bind
      (RingRule.ite (rule.key version) (rule.keyEntry version)) fun _ => rule.pure _)

/-! ### The repository -/

theorem appendEvent (event : AuditEvent) : Effect.Within R (appendEvent env event) :=
  rule.bind (rule.auditKey true) fun _ => rule.statement (.append _ _)

theorem recordAccess (actor action secretId outcome reasonCode : String) :
    Effect.Within R (recordAccess env actor action secretId outcome reasonCode) :=
  rule.bind rule.now fun _ => rule.transaction (rule.appendEvent _)

theorem createRecord (secret : NewSecret) : Effect.Within R (createRecord env secret) :=
  rule.bind rule.active fun _ => rule.bind (rule.urandom 32) fun _ => rule.bind rule.now fun _ =>
    rule.bind (rule.sealBytes _ _ _) fun _ => rule.bind (rule.sealBytes _ _ _) fun _ =>
      rule.bind (rule.transaction (rule.bind (rule.statement (.insertSecret _ _ _)) fun _ => rule.appendEvent _))
        fun _ => rule.query _

theorem decrypt (secretId : String) : Effect.Within R (decrypt env secretId) :=
  rule.bind (rule.query _) fun _ => rule.bind (rule.key _) fun _ => rule.bind (rule.check _)
    fun _ => rule.check _

theorem updateRecord (secretId : String) (value : Bytes) (expectedVersion : Int)
    (actor : String) : Effect.Within R (updateRecord env secretId value expectedVersion actor) :=
  rule.bind rule.active fun _ => rule.bind (rule.urandom 32) fun _ => rule.bind rule.now fun _ =>
    rule.bind (rule.transaction (rule.bind (rule.sealBytes _ _ _) fun _ =>
      rule.bind (rule.sealBytes _ _ _) fun _ => rule.bind (rule.statement (.updateSecret _ _ _ _ _ _)) fun _ =>
        rule.appendEvent _)) fun _ => rule.query _

theorem deleteRecord (secretId actor : String) :
    Effect.Within R (deleteRecord env secretId actor) :=
  rule.bind rule.now fun _ =>
    rule.transaction (rule.bind (rule.statement (.removeSecret _)) fun _ => rule.appendEvent _)

theorem grantRecord (secretId subject : String) (action : VaultAction) (actor : String) :
    Effect.Within R (grantRecord env secretId subject action actor) :=
  rule.bind rule.now fun _ =>
    rule.transaction (rule.bind (rule.statement (.insertAcl _)) fun _ => rule.appendEvent _)

theorem rewrapRow (fault : ℕ → Bool) (newKeyVersion : ℕ) (newMaster : Bytes) (time : Moment)
    (entry : SecretRecord × ℕ) :
    Effect.Within R (rewrapRow env fault newKeyVersion newMaster time entry) :=
  rule.bind (rule.key _) fun _ => rule.bind (rule.check _) fun _ =>
    rule.bind (rule.sealBytes _ _ _) fun _ => rule.bind (rule.check _) fun _ => rule.statement (.setWrappedDataKey _ _ _ _)

theorem rewrapDataKeys (newKeyVersion : ℕ) (actor : String) (fault : ℕ → Bool) :
    Effect.Within R (rewrapDataKeys env newKeyVersion actor fault) :=
  rule.bind (rule.key _) fun _ => rule.bind rule.now fun _ =>
    rule.transaction (rule.bind (rule.reads _) fun _ =>
      rule.bind (rule.forEach _ fun _ => rule.rewrapRow _ _ _ _ _) fun _ =>
        rule.bind (rule.check _) fun _ => rule.appendEvent _)

end RingRelation

/-! ### The service -/

namespace RingRelation

variable {Data Request : Type} {service : VaultService Data Request}
  {R : VaultState → VaultState → Prop} (rule : RingRelation service.env R)

include rule

theorem recordSuccess (grant : VerifiedGrant) (action : VaultAction) (secretId : String) :
    Effect.Within R (service.recordSuccess grant action secretId) := rule.recordAccess _ _ _ _ _

theorem recordDenial (actor : String) (action : VaultAction) (secretId reasonCode : String) :
    Effect.Within R (service.recordDenial actor action secretId reasonCode) :=
  rule.tryCatch (rule.recordAccess _ _ _ _ _) fun _ => rule.pure _

theorem orDenied {α : Type} {actor : String} {action : VaultAction} {secretId : String}
    {m : VaultM α} (hm : Effect.Within R m) :
    Effect.Within R (service.orDenied actor action secretId m) :=
  rule.tryCatch hm fun e => rule.bind (rule.recordDenial _ _ _ _) fun _ => rule.throw e

theorem verifyAndConsume (token secretId action : String) : Effect.Within R
    (service.verifier.verifyAndConsume service.env.sources token secretId action) :=
  rule.bind (rule.check _) fun payload => rule.bind (rule.check _) fun expiresAt =>
    rule.bind rule.now fun time => rule.bind (rule.check _) fun _ =>
      rule.bind (rule.transaction (rule.bind (rule.check _) fun subject =>
        rule.bind rule.now fun consumedAt => rule.bind (rule.statement (.consumeNonce _)) fun _ =>
          rule.pure _))
        fun _ => rule.pure _

theorem authorize (token secretId : String) (action : VaultAction) :
    Effect.Within R (service.authorize token secretId action) :=
  rule.bind (rule.orDenied (rule.verifyAndConsume _ _ _)) fun _ =>
    rule.bind (rule.orDenied (rule.query _)) fun _ => rule.pure _

theorem createWithGrant (token : String) (request : VaultService.CreateRequest) :
    Effect.Within R (service.createWithGrant token request) :=
  rule.bind (rule.orDenied (rule.verifyAndConsume _ _ _)) fun _ =>
    rule.orDenied (rule.bind (rule.check _) fun _ =>
      rule.bind (rule.check _) fun _ => rule.createRecord _)

theorem listOwnedMetadata (token : String) :
    Effect.Within R (service.listOwnedMetadata token) :=
  rule.bind (rule.orDenied (rule.verifyAndConsume _ _ _)) fun _ =>
    rule.orDenied (rule.bind (rule.reads _) fun _ => rule.bind (rule.recordSuccess _ _ _)
      fun _ => rule.pure _)

theorem listMetadata (token secretId : String) :
    Effect.Within R (service.listMetadata token secretId) :=
  rule.bind (rule.authorize _ _ _) fun _ => rule.bind (rule.recordSuccess _ _ _)
    fun _ => rule.pure _

theorem reveal (token secretId : String) : Effect.Within R (service.reveal token secretId) :=
  rule.bind (rule.authorize _ _ _) fun _ => rule.bind (rule.decrypt _) fun _ =>
    rule.bind (rule.recordSuccess _ _ _) fun _ => rule.pure _

theorem prepareUse (token secretId executorName : String) :
    Effect.Within R (service.prepareUse token secretId executorName) := by
  refine rule.bind (rule.authorize _ _ _) fun authorized => ?_
  cases service.executors executorName with
  | none => exact rule.bind (rule.recordDenial _ _ _ _) fun _ => rule.throw _
  | some executor => exact rule.bind (rule.decrypt _) fun _ => rule.pure _

theorem finishUse (grant : VerifiedGrant) (secretId : String) (execution : Execution Data) :
    Effect.Within R (service.finishUse grant secretId execution) := by
  unfold VaultService.finishUse
  cases execution.outcome with
  | raised e => exact rule.throw e
  | unsupported => exact rule.throw _
  | returned result =>
    refine rule.bind (rule.check _) fun serialized => rule.bind (rule.check _) fun text => ?_
    split
    · exact rule.bind (rule.recordDenial _ _ _ _) fun _ => rule.throw _
    · exact rule.bind (rule.recordSuccess _ _ _) fun _ => rule.pure _

theorem use (token secretId executorName : String) (request : Request) :
    Effect.Within R (service.use token secretId executorName request) :=
  rule.bind (rule.prepareUse _ _ _) fun _ => rule.bind (rule.reads _) fun _ =>
    rule.finishUse _ _ _

theorem update (token secretId : String) (value : Bytes) (expectedVersion : Int) :
    Effect.Within R (service.update token secretId value expectedVersion) :=
  rule.bind (rule.check _) fun _ => rule.bind (rule.authorize _ _ _) fun _ =>
    rule.updateRecord _ _ _ _

theorem delete (token secretId : String) : Effect.Within R (service.delete token secretId) :=
  rule.bind (rule.authorize _ _ _) fun _ => rule.deleteRecord _ _

theorem exportEncrypted (token secretId exportPassphrase : String) :
    Effect.Within R (service.exportEncrypted token secretId exportPassphrase) :=
  rule.bind (rule.authorize _ _ _) fun _ => rule.bind (rule.urandom _) fun _ =>
    rule.bind (rule.check _) fun _ => rule.bind (rule.query _) fun _ =>
      rule.bind (rule.decrypt _) fun _ => rule.bind (rule.sealBytes _ _ _) fun _ =>
        rule.bind (rule.recordSuccess _ _ _) fun _ => rule.pure _

theorem rotateKeys (token secretId passphrase : String) (fault : ℕ → Bool)
    (hadd : Effect.Within R (addKeyVersion service.env passphrase)) :
    Effect.Within R (service.rotateKeys token secretId passphrase fault) :=
  rule.bind (rule.authorize _ _ _) fun _ => rule.bind hadd fun _ =>
    rule.bind (rule.rewrapDataKeys _ _ _) fun _ => rule.pure _

theorem grantAcl (token secretId subject : String) (action : VaultAction) :
    Effect.Within R (service.grantAcl token secretId subject action) :=
  rule.bind (rule.authorize _ _ _) fun _ => rule.grantRecord _ _ _ _

end RingRelation

end Zhixu.Vault
