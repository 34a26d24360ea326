import Zhixu.Vault.Checkpoints
import Zhixu.Vault.GrantRuns
import Zhixu.Vault.UnlockWindow

/-!
# The audit of uses

Every hand-over of a plaintext to an executor is to leave exactly one audit event with the
outcome of the use. The event is written behind the executor's answer, and two things can come
between: the service raises before it records anything (the executor raised, returned something
else than a result or something `json.dumps` refuses, or the secret is no text), or the ring
expires between the hand-over and the record, which then finds no audit key. `Recordable` says
that neither happens, and `use_audited_iff` that this is the exact condition.

What is needed besides is that the record itself goes through: a chained log takes every event
(`Chained.exec_append`), and all calls keep the log chained (`chained_viewAfter`).
-/

open Framework

namespace Zhixu.Vault

/-! ### The log stays chained -/

/-- The audit log of one database is that of another. -/
def LogKept (db db' : VaultDatabase) : Prop :=
  db'.vaultAudit = db.vaultAudit ∧ db'.sqliteSequence = db.sqliteSequence

theorem LogKept.trans {db db' db'' : VaultDatabase} (h : LogKept db db') (h' : LogKept db' db'') :
    LogKept db db'' := ⟨h'.1.trans h.1, h'.2.trans h.2⟩

theorem Chained.of_logKept {hmac : Hmac} {db db' : VaultDatabase} (h : Chained hmac db)
    (hkept : LogKept db db') : Chained hmac db' := by
  refine ⟨?_, ?_, ?_⟩
  · rw [hkept.1]
    exact h.increasing
  · rw [hkept.1, hkept.2]
    exact h.top
  · rw [hkept.1]
    exact h.codes

theorem logKept_insertAcl {row : SecretAcl} {db db' : VaultDatabase}
    (h : db.insertAcl row = .ok db') : LogKept db db' := by
  unfold VaultDatabase.insertAcl at h
  split at h
  · rw [← Except.ok.inj h]
    exact ⟨rfl, rfl⟩
  · split at h
    · exact absurd h (by simp)
    · rw [← Except.ok.inj h]
      exact ⟨rfl, rfl⟩

theorem logKept_insertRecord {row : SecretRecord} {db db' : VaultDatabase}
    (h : db.insertRecord row = .ok db') : LogKept db db' := by
  unfold VaultDatabase.insertRecord at h
  split at h
  · exact absurd h (by simp)
  · split at h
    · exact absurd h (by simp)
    · rw [← Except.ok.inj h]
      exact ⟨rfl, rfl⟩

theorem logKept_insertOverride {row : PolicyOverride} {db db' : VaultDatabase}
    (h : db.insertOverride row = .ok db') : LogKept db db' := by
  unfold VaultDatabase.insertOverride at h
  split at h
  · exact absurd h (by simp)
  · split at h
    · exact absurd h (by simp)
    · rw [← Except.ok.inj h]
      exact ⟨rfl, rfl⟩

theorem logKept_insertSecret {row : SecretRecord} {policyOverride : Option String}
    {ownerActions : List VaultAction} {db db' : VaultDatabase}
    (h : db.insertSecret row policyOverride ownerActions = .ok db') : LogKept db db' := by
  unfold VaultDatabase.insertSecret at h
  obtain ⟨db₁, hrecord, h₁⟩ := bind_eq_ok.mp h
  obtain ⟨db₂, hoverride, h₂⟩ := bind_eq_ok.mp h₁
  have hmiddle : LogKept db₁ db₂ := by
    cases policyOverride with
    | none =>
      rw [← Except.ok.inj hoverride]
      exact ⟨rfl, rfl⟩
    | some policy => exact logKept_insertOverride hoverride
  exact ((logKept_insertRecord hrecord).trans hmiddle).trans
    (foldlM_ok LogKept (fun _ => ⟨rfl, rfl⟩) LogKept.trans logKept_insertAcl h₂)

/-- **Every statement keeps the log chained.** -/
theorem chained_statement {hmac : Hmac} (ideal : hmac.Ideal) {m : VaultM Unit}
    (h : DatabaseStatement hmac m) :
    Effect.Within (fun s s' => Chained hmac s.database → Chained hmac s'.database) m := by
  -- a statement that keeps the log keeps it chained
  have hkept : ∀ {f : VaultDatabase → Except VaultError VaultDatabase},
      (∀ db db', f db = .ok db' → LogKept db db') →
      Effect.Within (fun s s' => Chained hmac s.database → Chained hmac s'.database)
        (statement f) := by
    intro f hf s hchained
    rw [exec_statement]
    cases hexec : f s.database with
    | error e => exact hchained
    | ok db => exact hchained.of_logKept (hf _ _ hexec)
  cases h with
  | append event auditKey =>
    intro s hchained
    obtain ⟨audit, -, hexec, hnext⟩ := hchained.exec_append ideal event auditKey
    show Chained hmac ((append hmac event auditKey).exec s).2.database
    rw [hexec]
    exact hnext
  | consumeNonce row =>
    refine hkept fun db db' h => ?_
    unfold consumeNonce at h
    split at h
    · exact absurd h (by simp)
    · rw [← Except.ok.inj h]
      exact ⟨rfl, rfl⟩
  | insertMeta salt parameters =>
    refine hkept fun db db' h => ?_
    unfold VaultDatabase.insertMeta at h
    split at h
    · exact absurd h (by simp)
    · rw [← Except.ok.inj h]
      exact ⟨rfl, rfl⟩
  | insertKeyVersion row =>
    refine hkept fun db db' h => ?_
    unfold VaultDatabase.insertKeyVersion at h
    split at h
    · exact absurd h (by simp)
    · split at h
      · exact absurd h (by simp)
      · rw [← Except.ok.inj h]
        exact ⟨rfl, rfl⟩
  | retireKeyVersions =>
    refine hkept fun db db' h => ?_
    rw [← Except.ok.inj h]
    exact ⟨rfl, rfl⟩
  | setWrappedMasterKey version wrapped =>
    refine hkept fun db db' h => ?_
    rw [← Except.ok.inj h]
    exact ⟨rfl, rfl⟩
  | setSalt salt =>
    refine hkept fun db db' h => ?_
    rw [← Except.ok.inj h]
    exact ⟨rfl, rfl⟩
  | insertSecret row policyOverride ownerActions =>
    exact hkept fun db db' h => logKept_insertSecret h
  | updateSecret secretId expectedVersion ciphertext wrapped keyVersion time =>
    refine hkept fun db db' h => ?_
    unfold VaultDatabase.updateSecret at h
    split at h
    · exact absurd h (by simp)
    · split at h
      · exact absurd h (by simp)
      · split at h
        · exact absurd h (by simp)
        · rw [← Except.ok.inj h]
          exact ⟨rfl, rfl⟩
  | removeSecret secretId =>
    refine hkept fun db db' h => ?_
    unfold VaultDatabase.removeSecret at h
    split at h
    · exact absurd h (by simp)
    · rw [← Except.ok.inj h]
      exact ⟨rfl, rfl⟩
  | insertAcl row => exact hkept fun db db' h => logKept_insertAcl h
  | setWrappedDataKey secretId wrapped keyVersion time =>
    refine hkept fun db db' h => ?_
    unfold VaultDatabase.setWrappedDataKey at h
    split at h
    · exact absurd h (by simp)
    · rw [← Except.ok.inj h]
      exact ⟨rfl, rfl⟩

variable {Data Request : Type} {service : VaultService Data Request}

variable (service) in
/-- **Every call keeps the log chained.** -/
theorem chained_run (ideal : service.env.hmac.Ideal) (call : VaultCall Request) :
    Effect.Within (fun s s' => Chained service.env.hmac s.database →
      Chained service.env.hmac s'.database) (service.run call) :=
  RingRelation.run_database
    (fun db db' => Chained service.env.hmac db → Chained service.env.hmac db')
    (.of_database (fun db db' => Chained service.env.hmac db → Chained service.env.hmac db')
      (fun _ h => h) (fun _ _ _ h h' hc => h' (h hc)) (chained_statement ideal)) call

/-- The log and the rings at every stage of a run. -/
theorem chained_viewAfter (timeouts : ℕ → Int) {host : VaultHost} (ideal : service.env.hmac.Ideal)
    (hchained : Chained service.env.hmac host.database)
    (hnew : ∀ p, Timed (host.view p)) (calls : List (ℕ × VaultCall Request)) (process : ℕ) :
    Chained service.env.hmac (viewAfter service timeouts host process calls).database ∧
      Timed (viewAfter service timeouts host process calls) := by
  induction calls using List.reverseRecOn generalizing process with
  | nil => exact ⟨hchained, hnew process⟩
  | append_singleton calls c ih =>
    obtain ⟨p, call⟩ := c
    have hlog : Chained service.env.hmac
        (afterCalls service timeouts host (calls ++ [(p, call)])).state.database := by
      rw [afterCalls_append]
      exact chained_run (serviceOf service timeouts p) ideal call _ (ih p).1
    refine ⟨hlog, ?_⟩
    by_cases hp : process = p
    · subst hp
      rw [viewAfter_append_self]
      exact (dated_run _ call _).timed (ih process).2
    · obtain ⟨hring, -⟩ := viewAfter_append_ne service timeouts host hp calls call
      unfold Timed
      rw [hring]
      exact (ih process).2

/-! ### When a record goes through -/

section Records

variable {env : Environment} {s : VaultState}

/-- The smallest version of a ring that holds keys is one it holds. -/
theorem exists_minVersion {keys : Table (ℕ × Bytes) Prod.fst} (h : keys.rows ≠ []) :
    ∃ entry, keys.find? (((keys.rows.map Prod.fst).min?).getD 1) = some entry := by
  cases hmin : (keys.rows.map Prod.fst).min? with
  | none =>
    rw [List.min?_eq_none_iff, List.map_eq_nil_iff] at hmin
    exact absurd hmin h
  | some version =>
    obtain ⟨entry, hentry, hversion⟩ := List.mem_map.mp (List.min?_mem hmin)
    exact ⟨entry, Table.find?_eq_some.mpr ⟨hentry, hversion⟩⟩

/-- A ring in use that has not expired at the three checks of the audit key gives it. -/
theorem exec_auditKey_open (hkeys : s.keyring.keys.rows ≠ []) {used : Moment}
    (hused : s.keyring.lastUsedAt = some used)
    (hfresh : ∀ n, s.ticks ≤ n → n ≤ s.ticks + 2 → ¬ expired env used (env.sources.clock n)) :
    ∃ master, (auditKey env true).exec s = (.ok master, { s with
      keyring := { s.keyring with lastUsedAt := some (env.sources.clock (s.ticks + 3)) }
      ticks := s.ticks + 4 }) := by
  obtain ⟨entry, hentry⟩ := exists_minVersion hkeys
  have hopen : s.keyring.keys.rows.isEmpty = false := by
    rw [List.isEmpty_eq_false_iff]
    exact hkeys
  have hfirst : s.checked env = { s with ticks := s.ticks + 1 } :=
    checked_of_open hused (hfresh s.ticks le_rfl (by omega))
  have hsecond : ({ s with ticks := s.ticks + 1 } : VaultState).checked env =
      { s with ticks := s.ticks + 2 } :=
    checked_of_open hused (hfresh (s.ticks + 1) (by omega) (by omega))
  have hthird : ({ s with ticks := s.ticks + 2 } : VaultState).checked env =
      { s with ticks := s.ticks + 3 } :=
    checked_of_open hused (hfresh (s.ticks + 2) (by omega) le_rfl)
  have hversion : (auditVersion env).exec s =
      (.ok (((s.keyring.keys.rows.map Prod.fst).min?).getD 1), { s with ticks := s.ticks + 1 }) := by
    unfold auditVersion
    rw [Effect.exec_bind, exec_sealed, hfirst]
    simp only [hopen, Bool.false_eq_true, if_false]
    rfl
  have hkey : (key env (((s.keyring.keys.rows.map Prod.fst).min?).getD 1)).exec
      { s with ticks := s.ticks + 2 } = (.ok entry.2, { s with
        keyring := { s.keyring with lastUsedAt := some (env.sources.clock (s.ticks + 3)) }
        ticks := s.ticks + 4 }) := by
    rw [key_ok, hthird]
    exact ⟨hkeys, ⟨entry, hentry, rfl⟩, rfl⟩
  unfold auditKey
  rw [Effect.exec_bind, hversion]
  simp only
  rw [Effect.exec_bind, exec_sealed, hsecond]
  simp only [hopen, Bool.false_eq_true, if_false, if_true]
  rw [Effect.exec_bind, hkey]
  exact ⟨_, rfl⟩

/-- A ring that one of the three checks finds sealed does not give the audit key. -/
theorem exec_auditKey_shut (h : ShutWithin env s s.ticks (s.ticks + 2)) :
    ∃ e s', (auditKey env true).exec s = (.error e, s') := by
  rcases hexec : (auditKey env true).exec s with ⟨r, s'⟩
  cases r with
  | error e => exact ⟨e, s', rfl⟩
  | ok master =>
    obtain ⟨version, hversion⟩ := exec_auditVersion env s
    unfold auditKey at hexec
    rw [Effect.exec_bind, hversion] at hexec
    simp only at hexec
    rw [Effect.exec_bind, exec_sealed] at hexec
    simp only at hexec
    cases hempty : ((s.checked env).checked env).keyring.keys.rows.isEmpty with
    | true =>
      rw [hempty] at hexec
      exact absurd (Prod.mk.inj hexec).1 (by simp)
    | false =>
      rw [hempty] at hexec
      simp only [Bool.false_eq_true, if_false, if_true] at hexec
      obtain ⟨value, s₁, hkey, -⟩ := Effect.exec_bind_ok.mp hexec
      obtain ⟨hne, -, -⟩ := key_ok.mp hkey
      -- two checks passed, so the third is the one that finds it sealed
      rw [List.isEmpty_eq_false_iff] at hempty
      rcases h.checked with hfirst | ⟨hshut, hticks, -⟩
      · exact absurd (congrArg Table.rows (isEmpty_checked hfirst)) hempty
      · rcases hshut.checked with hsecond | ⟨hshut', hticks', -⟩
        · exact absurd (congrArg Table.rows hsecond) hempty
        · rcases ShutWithin.checked hshut' with hthird | ⟨-, -, hlt⟩
          · exact absurd (congrArg Table.rows hthird) hne
          · omega

/-- The event of a record. -/
def accessEvent (time : Moment) (actor action secretId outcome reasonCode : String) : AuditEvent where
  occurredAt := time
  actor := orUnknown (takeChars 160 actor)
  action := takeChars 80 action
  secretId := takeChars 160 secretId
  outcome := takeChars 40 outcome
  reasonCode := takeChars 80 reasonCode

/-- **A record that finds the ring open** writes its row. -/
theorem exec_recordAccess_open (ideal : env.hmac.Ideal) (hchained : Chained env.hmac s.database)
    (hkeys : s.keyring.keys.rows ≠ []) {used : Moment} (hused : s.keyring.lastUsedAt = some used)
    (hfresh : ∀ n, s.ticks < n → n ≤ s.ticks + 3 → ¬ expired env used (env.sources.clock n))
    (actor action secretId outcome reasonCode : String) :
    ∃ auditKey s', (recordAccess env actor action secretId outcome reasonCode).exec s =
      (.ok (), s') ∧ s'.database.vaultAudit.rows = s.database.vaultAudit.rows ++
        [nextRow env.hmac s.database (accessEvent (env.sources.clock s.ticks) actor action secretId
          outcome reasonCode) auditKey] := by
  obtain ⟨master, hmaster⟩ : ∃ master, (auditKey env true).exec { s with ticks := s.ticks + 1 } =
      (.ok master, { s with
        keyring := { s.keyring with lastUsedAt := some (env.sources.clock (s.ticks + 1 + 3)) }
        ticks := s.ticks + 1 + 4 }) :=
    exec_auditKey_open (s := { s with ticks := s.ticks + 1 }) hkeys hused fun n hge hle =>
      hfresh n hge (by
        have hle' : n ≤ s.ticks + 1 + 2 := hle
        omega)
  obtain ⟨audit, hrows, happend, -⟩ := Chained.exec_append ideal
    (s := { s with
      keyring := { s.keyring with lastUsedAt := some (env.sources.clock (s.ticks + 1 + 3)) }
      ticks := s.ticks + 1 + 4 }) hchained
    (accessEvent (env.sources.clock s.ticks) actor action secretId outcome reasonCode) master
  refine ⟨master, { s with
    database := { s.database with
      vaultAudit := audit
      sqliteSequence := s.database.sqliteSequence + 1 }
    keyring := { s.keyring with lastUsedAt := some (env.sources.clock (s.ticks + 1 + 3)) }
    ticks := s.ticks + 1 + 4 }, ?_, hrows⟩
  unfold recordAccess appendEvent
  rw [Effect.exec_bind, exec_now]
  simp only
  rw [exec_transaction_ok, Effect.exec_bind, hmaster]
  exact happend

/-- **A record that finds the ring sealed** writes nothing. -/
theorem exec_recordAccess_shut {actor action secretId outcome reasonCode : String}
    (hfound : FoundSealed env s s.ticks) :
    ∃ e s', (recordAccess env actor action secretId outcome reasonCode).exec s = (.error e, s') ∧
      s'.database = s.database := by
  obtain ⟨e, s₁, hkey⟩ : ∃ e s₁, (auditKey env true).exec { s with ticks := s.ticks + 1 } =
      (.error e, s₁) := by
    refine exec_auditKey_shut ?_
    rcases hfound with hempty | ⟨used, hused, n, hlt, hle, hexpired⟩
    · exact .inl hempty
    · exact .inr ⟨used, hused, n, hlt, by
        show n ≤ s.ticks + 1 + 2
        omega, hexpired⟩
  unfold recordAccess appendEvent
  rw [Effect.exec_bind, exec_now]
  simp only
  rw [exec_transaction, Effect.exec_bind, hkey]
  exact ⟨e, _, rfl, rfl⟩

end Records

/-! ### One use -/

/-- A use that hands a plaintext over: what `prepareUse` has found, and the state it ends in. -/
structure HandOver (service : VaultService Data Request) (s : VaultState)
    (token secretId executorName : String) (grant : VerifiedGrant)
    (executor : MachineSecretExecutor Data Request) (secret : Bytes) (s₁ : VaultState) : Prop where
  exec : (service.prepareUse token secretId executorName).exec s =
    (.ok (grant, executor, secret), s₁)

/-- The state the plaintext is handed over in. -/
structure HandedState (env : Environment) (s s₁ : VaultState) : Prop where
  audit : LogKept s.database s₁.database
  keys : s₁.keyring.keys.rows ≠ []
  used : s₁.keyring.lastUsedAt = some (env.sources.clock (s.ticks + 3))
  ticks : s₁.ticks = s.ticks + 4

section Use

variable {s s₁ : VaultState} {token secretId executorName : String} {grant : VerifiedGrant}
  {executor : MachineSecretExecutor Data Request} {secret : Bytes}

theorem exec_orDenied_ok_iff {α : Type} {actor : String} {action : VaultAction} {m : VaultM α}
    {a : α} : (service.orDenied actor action secretId m).exec s = (.ok a, s₁) ↔
      m.exec s = (.ok a, s₁) := by
  constructor
  · intro h
    unfold VaultService.orDenied at h
    rw [Effect.exec_tryCatch] at h
    rcases hexec : m.exec s with ⟨r, s₂⟩
    rw [hexec] at h
    cases r with
    | ok b => exact h
    | error e =>
      simp only at h
      obtain ⟨u, s₃, -, hthrow⟩ := Effect.exec_bind_ok.mp h
      exact absurd (Prod.mk.inj hthrow).1 (by simp)
  · exact exec_orDenied_ok

/-- **Inversion of `_authorize`.** -/
theorem authorize_ok {action : VaultAction} {metadata : SecretMetadata} :
    (service.authorize token secretId action).exec s = (.ok (grant, metadata), s₁) ↔
      (service.verification (.onSecret token secretId action)).exec s = (.ok grant, s₁) ∧
        VaultService.allowed grant secretId action s₁.database = .ok metadata := by
  unfold VaultService.authorize
  constructor
  · intro h
    obtain ⟨grant', s₂, hverified, h₁⟩ := Effect.exec_bind_ok.mp h
    obtain ⟨metadata', s₃, hallowed, h₂⟩ := Effect.exec_bind_ok.mp h₁
    rw [Effect.exec_pure, Prod.mk.injEq] at h₂
    obtain ⟨hpair, rfl⟩ := h₂
    obtain ⟨rfl, rfl⟩ := Prod.mk.inj (Except.ok.inj hpair)
    rw [exec_orDenied_ok_iff] at hverified hallowed
    rw [Effect.exec_query, Prod.mk.injEq] at hallowed
    obtain ⟨hallowed, rfl⟩ := hallowed
    exact ⟨hverified, hallowed⟩
  · rintro ⟨hverified, hallowed⟩
    rw [Effect.exec_bind_ok]
    refine ⟨grant, s₁, exec_orDenied_ok hverified, ?_⟩
    rw [Effect.exec_bind_ok]
    exact ⟨metadata, s₁, exec_orDenied_ok (by rw [Effect.exec_query, hallowed]), rfl⟩

/-- A grant that verifies takes two readings and writes its nonce. -/
theorem verification_ok {check : GrantCheck}
    (h : (service.verification check).exec s = (.ok grant, s₁)) :
    ∃ nonces, s₁ = { s with
      database := { s.database with grantNonces := nonces }
      ticks := s.ticks + 2 } := by
  obtain ⟨payload, expiresAt, haccepted⟩ := verifyAndConsume_ok.mp h
  obtain ⟨nonces, -, hstate⟩ := haccepted.consumed
  exact ⟨nonces, hstate⟩

/-- **Where the plaintext is handed over**, the ring has just been used. -/
theorem handedState (htimed : Timed s)
    (h : HandOver service s token secretId executorName grant executor secret s₁) :
    HandedState service.env s s₁ := by
  have hexec := h.exec
  unfold VaultService.prepareUse at hexec
  obtain ⟨⟨grant', metadata⟩, s₂, hauthorized, hrest⟩ := Effect.exec_bind_ok.mp hexec
  obtain ⟨hverified, -⟩ := authorize_ok.mp hauthorized
  obtain ⟨nonces, rfl⟩ := verification_ok hverified
  simp only at hrest
  cases hexecutor : service.executors executorName with
  | none =>
    rw [hexecutor] at hrest
    obtain ⟨u, s₃, -, hthrow⟩ := Effect.exec_bind_ok.mp hrest
    exact absurd (Prod.mk.inj hthrow).1 (by simp)
  | some found =>
    rw [hexecutor] at hrest
    obtain ⟨plaintext, s₃, hdecrypt, hpure⟩ := Effect.exec_bind_ok.mp hrest
    rw [Effect.exec_pure, Prod.mk.injEq] at hpure
    obtain ⟨-, rfl⟩ := hpure
    unfold decrypt at hdecrypt
    obtain ⟨row, s₄, hrow, hdecrypt⟩ := Effect.exec_bind_ok.mp hdecrypt
    rw [Effect.exec_query, Prod.mk.injEq] at hrow
    obtain ⟨-, rfl⟩ := hrow
    obtain ⟨master, s₅, hkey, hdecrypt⟩ := Effect.exec_bind_ok.mp hdecrypt
    obtain ⟨dataKey, s₆, hdata, hplain⟩ := Effect.exec_bind_ok.mp hdecrypt
    obtain ⟨-, rfl⟩ := Effect.exec_check_ok.mp hdata
    obtain ⟨-, rfl⟩ := Effect.exec_check_ok.mp hplain
    obtain ⟨hne, -, rfl⟩ := key_ok.mp hkey
    -- the check of `key` passed, so it took one reading
    obtain ⟨used, hused⟩ : ∃ used, s.keyring.lastUsedAt = some used := by
      refine Option.ne_none_iff_exists'.mp (htimed fun hempty => hne ?_)
      have hopen : (({ s with
          database := { s.database with grantNonces := nonces }
          ticks := s.ticks + 2 } : VaultState).checked service.env).keyring.keys = ∅ :=
        isEmpty_checked hempty
      exact congrArg Table.rows hopen
    rcases checked_used service.env (s := { s with
        database := { s.database with grantNonces := nonces }
        ticks := s.ticks + 2 }) hused with hempty | ⟨hchecked, -⟩
    · exact absurd (congrArg Table.rows hempty) hne
    · rw [hchecked] at hne ⊢
      exact ⟨⟨rfl, rfl⟩, hne, rfl, rfl⟩

/-- Nothing stands between an execution and its record. -/
structure Recordable (service : VaultService Data Request) (s : VaultState)
    (execution : Execution Data) : Prop where
  /-- the executor returned a result that can be serialised, and the secret is a text -/
  returned : ∃ result serialized text, execution.outcome = .returned result ∧
    service.dumps result.code result.data = .ok serialized ∧
    secretText execution.buffer = .ok text
  /-- the ring does not expire between the hand-over and the record -/
  fresh : ∀ n, s.ticks + 4 < n → n ≤ s.ticks + 7 →
    ¬ expired service.env (service.env.sources.clock (s.ticks + 3)) (service.env.sources.clock n)

/-- The use left exactly one event, of this use and with its outcome. -/
def Audited (s : VaultState) (grant : VerifiedGrant) (secretId : String)
    (answer : Except VaultError (ExecutionResult Data) × VaultState) : Prop :=
  ∃ row, answer.2.database.vaultAudit.rows = s.database.vaultAudit.rows ++ [row] ∧
    row.actor = orUnknown (takeChars 160 grant.subject) ∧ row.action = "use" ∧
    row.secretId = takeChars 160 secretId ∧
    row.outcome = match answer.1 with
      | .ok _ => "completed"
      | .error _ => "denied"

theorem not_audited_of_kept {answer : Except VaultError (ExecutionResult Data) × VaultState}
    (h : answer.2.database.vaultAudit = s.database.vaultAudit) :
    ¬ Audited s grant secretId answer := by
  rintro ⟨row, hrows, -⟩
  rw [h] at hrows
  have hlength := congrArg List.length hrows
  rw [List.length_append, List.length_singleton] at hlength
  omega

/-- What a record of the use leaves behind the state it was handed over in. -/
theorem audited_of_record {s₂ : VaultState} {event : AuditEvent} {auditKey : Bytes}
    {answer : Except VaultError (ExecutionResult Data)}
    (haudit : LogKept s.database s₁.database)
    (hrows : s₂.database.vaultAudit.rows = s₁.database.vaultAudit.rows ++
      [nextRow service.env.hmac s₁.database event auditKey])
    (hactor : event.actor = orUnknown (takeChars 160 grant.subject)) (haction : event.action = "use")
    (hsecret : event.secretId = takeChars 160 secretId)
    (houtcome : event.outcome = match answer with
      | .ok _ => "completed"
      | .error _ => "denied") :
    Audited s grant secretId (answer, s₂) := by
  refine ⟨nextRow service.env.hmac s₁.database event auditKey, ?_, hactor, haction, hsecret,
    houtcome⟩
  rw [hrows, haudit.1]

/-- An execution that does not end in a result that can be recorded leaves no event. -/
theorem not_audited_of_unreturned (hstate : HandedState service.env s s₁)
    {execution : Execution Data}
    (h : ¬ ∃ result serialized text, execution.outcome = .returned result ∧
      service.dumps result.code result.data = .ok serialized ∧
      secretText execution.buffer = .ok text) :
    ¬ Audited s grant secretId ((service.finishUse grant secretId execution).exec s₁) := by
  refine not_audited_of_kept ?_
  unfold VaultService.finishUse
  cases houtcome : execution.outcome with
  | raised e => exact hstate.audit.1
  | unsupported => exact hstate.audit.1
  | returned result =>
    simp only
    rw [Effect.exec_check_bind]
    cases hdumps : service.dumps result.code result.data with
    | error e => exact hstate.audit.1
    | ok serialized =>
      simp only
      rw [Effect.exec_check_bind]
      cases htext : secretText execution.buffer with
      | error e => exact hstate.audit.1
      | ok text => exact absurd ⟨result, serialized, text, houtcome, hdumps, htext⟩ h

/-- A result that can be recorded is, where the ring is still open, and leaves no event where it
is not. -/
theorem audited_returned_iff (ideal : service.env.hmac.Ideal)
    (hchained : Chained service.env.hmac s.database) (hstate : HandedState service.env s s₁)
    {execution : Execution Data} {result : ExecutionResult Data} {serialized text : List Char}
    (houtcome : execution.outcome = .returned result)
    (hdumps : service.dumps result.code result.data = .ok serialized)
    (htext : secretText execution.buffer = .ok text) :
    Audited s grant secretId ((service.finishUse grant secretId execution).exec s₁) ↔
      ∀ n, s.ticks + 4 < n → n ≤ s.ticks + 7 → ¬ expired service.env
        (service.env.sources.clock (s.ticks + 3)) (service.env.sources.clock n) := by
  have hunfold : service.finishUse grant secretId execution = (if text ≠ [] ∧ text <:+: serialized
      then (do
        service.recordDenial grant.subject .use secretId "secret_echo_blocked"
        throw (.permission "executor attempted to return secret material"))
      else (do
        service.recordSuccess grant .use secretId
        return result) : VaultM (ExecutionResult Data)) := by
    unfold VaultService.finishUse
    rw [houtcome]
    simp only [hdumps, htext]
    rfl
  rw [hunfold]
  have hticks := hstate.ticks
  constructor
  · -- a record that fails leaves no event
    intro haudited n hlt hle hexpired
    have hfound : FoundSealed service.env s₁ s₁.ticks :=
      .inr ⟨_, hstate.used, n, by omega, by omega, hexpired⟩
    refine not_audited_of_kept ?_ haudited
    by_cases hecho : text ≠ [] ∧ text <:+: serialized
    · rw [if_pos hecho]
      obtain ⟨e, s₂, hrecord, hsame⟩ : ∃ e s₂, (recordAccess service.env grant.subject
          VaultAction.use.value secretId "denied" "secret_echo_blocked").exec s₁ =
            (.error e, s₂) ∧ s₂.database = s₁.database := exec_recordAccess_shut hfound
      unfold VaultService.recordDenial
      rw [Effect.exec_bind, Effect.exec_tryCatch, hrecord]
      simp only [Effect.exec_pure, Effect.exec_throw]
      rw [hsame]
      exact hstate.audit.1
    · rw [if_neg hecho]
      obtain ⟨e, s₂, hrecord, hsame⟩ : ∃ e s₂, (recordAccess service.env grant.subject
          VaultAction.use.value secretId "completed" "").exec s₁ =
            (.error e, s₂) ∧ s₂.database = s₁.database := exec_recordAccess_shut hfound
      unfold VaultService.recordSuccess
      rw [Effect.exec_bind, hrecord]
      simp only
      rw [hsame]
      exact hstate.audit.1
  · intro hfresh
    have hfresh₁ : ∀ n, s₁.ticks < n → n ≤ s₁.ticks + 3 → ¬ expired service.env
        (service.env.sources.clock (s.ticks + 3)) (service.env.sources.clock n) :=
      fun n hlt hle => hfresh n (by omega) (by omega)
    have hchained₁ := hchained.of_logKept hstate.audit
    by_cases hecho : text ≠ [] ∧ text <:+: serialized
    · rw [if_pos hecho]
      obtain ⟨auditKey, s₂, hrecord, hrows⟩ := exec_recordAccess_open ideal hchained₁ hstate.keys
        hstate.used hfresh₁ grant.subject VaultAction.use.value secretId "denied"
        "secret_echo_blocked"
      unfold VaultService.recordDenial
      rw [Effect.exec_bind, Effect.exec_tryCatch, hrecord]
      simp only [Effect.exec_throw]
      exact audited_of_record hstate.audit hrows rfl rfl rfl rfl
    · rw [if_neg hecho]
      obtain ⟨auditKey, s₂, hrecord, hrows⟩ := exec_recordAccess_open ideal hchained₁ hstate.keys
        hstate.used hfresh₁ grant.subject VaultAction.use.value secretId "completed" ""
      unfold VaultService.recordSuccess
      rw [Effect.exec_bind, hrecord]
      simp only [Effect.exec_pure]
      exact audited_of_record hstate.audit hrows rfl rfl rfl rfl

variable (service) in
/-- **One use** leaves its event exactly when nothing stands between the executor's answer and the
record. -/
theorem audited_iff (ideal : service.env.hmac.Ideal) (htimed : Timed s)
    (hchained : Chained service.env.hmac s.database)
    (h : HandOver service s token secretId executorName grant executor secret s₁)
    (request : Request) :
    Audited s grant secretId ((service.use token secretId executorName request).exec s) ↔
      Recordable service s (executor s₁.ticks secret request) := by
  have hstate := handedState htimed h
  have huse : (service.use token secretId executorName request).exec s =
      (service.finishUse grant secretId (executor s₁.ticks secret request)).exec s₁ := by
    unfold VaultService.use
    rw [Effect.exec_bind, h.exec]
    rfl
  rw [huse]
  by_cases hreturned : ∃ result serialized text,
      (executor s₁.ticks secret request).outcome = .returned result ∧
        service.dumps result.code result.data = .ok serialized ∧
        secretText (executor s₁.ticks secret request).buffer = .ok text
  · obtain ⟨result, serialized, text, houtcome, hdumps, htext⟩ := hreturned
    rw [audited_returned_iff ideal hchained hstate houtcome hdumps htext]
    exact ⟨fun hfresh => ⟨⟨result, serialized, text, houtcome, hdumps, htext⟩, hfresh⟩,
      fun hrecordable => hrecordable.fresh⟩
  · exact ⟨fun haudited => absurd haudited (not_audited_of_unreturned hstate hreturned),
      fun hrecordable => absurd hrecordable.returned hreturned⟩

end Use

/-! ### Every use of a run -/

/-- A property of every hand-over of a run: of the state before the use, what is handed over, and
what the use answers. -/
def EveryHandOver (service : VaultService Data Request) (timeouts : ℕ → Int) (host : VaultHost)
    (calls : List (ℕ × VaultCall Request))
    (P : ℕ → VaultState → VerifiedGrant → String → Execution Data →
      Except VaultError (ExecutionResult Data) × VaultState → Prop) : Prop :=
  ∀ before process token secretId executorName request rest,
    calls = before ++ (process, .use token secretId executorName request) :: rest →
    ∀ grant executor secret s₁,
      HandOver (serviceOf service timeouts process) (viewAfter service timeouts host process before)
        token secretId executorName grant executor secret s₁ →
      P process (viewAfter service timeouts host process before) grant secretId
        (executor s₁.ticks secret request)
        (((serviceOf service timeouts process).use token secretId executorName request).exec
          (viewAfter service timeouts host process before))

/-- **Every hand-over of a run is audited** exactly when at every one of them the executor returns
a result that can be recorded and the ring does not expire before the record. -/
theorem uses_audited_iff {timeouts : ℕ → Int} {host : VaultHost} (ideal : service.env.hmac.Ideal)
    (hchained : Chained service.env.hmac host.database)
    (hnew : ∀ process, Timed (host.view process)) (calls : List (ℕ × VaultCall Request)) :
    EveryHandOver service timeouts host calls
        (fun _ s grant secretId _ answer => Audited s grant secretId answer) ↔
      EveryHandOver service timeouts host calls
        (fun process s _ _ execution _ =>
          Recordable (serviceOf service timeouts process) s execution) := by
  have hstep : ∀ before process token secretId executorName (request : Request) grant executor
      secret s₁, HandOver (serviceOf service timeouts process)
        (viewAfter service timeouts host process before) token secretId executorName grant executor
          secret s₁ →
      (Audited (viewAfter service timeouts host process before) grant secretId
        (((serviceOf service timeouts process).use token secretId executorName request).exec
          (viewAfter service timeouts host process before)) ↔
      Recordable (serviceOf service timeouts process)
        (viewAfter service timeouts host process before) (executor s₁.ticks secret request)) := by
    intro before process token secretId executorName request grant executor secret s₁ h
    obtain ⟨hlog, htimed⟩ := chained_viewAfter timeouts ideal hchained hnew before process
    exact audited_iff (serviceOf service timeouts process) ideal htimed hlog h request
  constructor
  · intro h before process token secretId executorName request rest hcalls grant executor secret s₁
      hand
    exact (hstep _ _ _ _ _ _ _ _ _ _ hand).mp (h before process token secretId executorName request
      rest hcalls grant executor secret s₁ hand)
  · intro h before process token secretId executorName request rest hcalls grant executor secret s₁
      hand
    exact (hstep _ _ _ _ _ _ _ _ _ _ hand).mpr (h before process token secretId executorName
      request rest hcalls grant executor secret s₁ hand)

section Example

theorem handOver_of_answer {service : VaultService Data Request} {s : VaultState}
    {token secretId executorName : String} {grant : VerifiedGrant}
    {executor : MachineSecretExecutor Data Request} {secret : Bytes}
    (h : ((service.prepareUse token secretId executorName).exec s).1 =
      .ok (grant, executor, secret)) :
    HandOver service s token secretId executorName grant executor secret
      ((service.prepareUse token secretId executorName).exec s).2 :=
  ⟨Prod.ext h rfl⟩

/-- The payload of a token that names an action, which is its nonce too. -/
def examplePayload (action : String) : GrantPayload where
  issuer := "zhixu"
  expiresAt := ⟨3600000000, true⟩
  audience := "zhixu-vault"
  secretId := "s"
  action := action
  nonce := action
  subject := some "user_a"
  authentication := "step_up"

/-- A service in whose tokens the action is spelled out, with one executor. -/
def usingService (executor : MachineSecretExecutor Unit Unit) : VaultService Unit Unit where
  env :=
    { sources := exampleSources
      idleTimeout := 600000000
      aes := ⟨fun _ _ data _ => data ++ List.replicate 16 0,
        fun _ _ data _ => some (data.take (data.length - 16))⟩
      argon2 := ⟨fun _ _ salt => salt⟩
      hmac := tableHmac [] []
      hkdf := fun _ key => key }
  verifier :=
    { read := fun token => .ok (examplePayload token)
      audience := "zhixu-vault"
      sha256 := id }
  executors := fun _ => some executor
  dumps := fun _ _ => .ok []

/-- The vault is set up and a machine secret of one byte is stored. -/
def storedCalls : List (ℕ × VaultCall Unit) :=
  [(0, .initializeVault "correct horse"),
    (0, .create "create" ⟨"s", "user_a", "label", .machine, [112], none, none⟩)]

/-- The secret is used. -/
def usedCalls : List (ℕ × VaultCall Unit) := storedCalls ++ [(0, .use "use" "s" "pat" ())]

/-- The grant of the use. -/
def exampleGrant : VerifiedGrant :=
  ⟨"zhixu", "user_a", "s", "use", "zhixu-vault", ⟨3600000000, true⟩, "step_up"⟩

/-- An executor that runs into a timeout. -/
def raisingExecutor : MachineSecretExecutor Unit Unit :=
  fun _ secret _ => ⟨.raised (.executor "TimeoutError"), secret⟩

/-- One that succeeds. -/
def succeedingExecutor : MachineSecretExecutor Unit Unit :=
  fun _ secret _ => ⟨.returned ⟨true, "done", ()⟩, secret⟩

set_option maxRecDepth 20000 in
theorem exec_prepareUse_raising :
    (((serviceOf (usingService raisingExecutor) tenMinutes 0).prepareUse "use" "s" "pat").exec
      (viewAfter (usingService raisingExecutor) tenMinutes newHost 0 storedCalls)).1 =
        .ok (exampleGrant, raisingExecutor, [112]) := by rfl

set_option maxRecDepth 20000 in
theorem exec_prepareUse_succeeding :
    (((serviceOf (usingService succeedingExecutor) tenMinutes 0).prepareUse "use" "s" "pat").exec
      (viewAfter (usingService succeedingExecutor) tenMinutes newHost 0 storedCalls)).1 =
        .ok (exampleGrant, succeedingExecutor, [112]) := by rfl

theorem chained_newHost (executor : MachineSecretExecutor Unit Unit) :
    Chained (usingService executor).env.hmac newHost.database :=
  chained_empty rfl

theorem timed_newHost (process : ℕ) : Timed (newHost.view process) :=
  fun hkeys => absurd rfl hkeys

/-- **An executor that raises has had the plaintext**, and no event says so. -/
theorem uses_audited_counterexample :
    ∃ s₁, HandOver (serviceOf (usingService raisingExecutor) tenMinutes 0)
        (viewAfter (usingService raisingExecutor) tenMinutes newHost 0 storedCalls) "use" "s" "pat"
        exampleGrant raisingExecutor [112] s₁ ∧
      ¬ Audited (viewAfter (usingService raisingExecutor) tenMinutes newHost 0 storedCalls)
        exampleGrant "s"
        (((serviceOf (usingService raisingExecutor) tenMinutes 0).use "use" "s" "pat" ()).exec
          (viewAfter (usingService raisingExecutor) tenMinutes newHost 0 storedCalls)) := by
  have hand : HandOver (serviceOf (usingService raisingExecutor) tenMinutes 0)
      (viewAfter (usingService raisingExecutor) tenMinutes newHost 0 storedCalls) "use" "s" "pat"
      exampleGrant raisingExecutor [112]
      (((serviceOf (usingService raisingExecutor) tenMinutes 0).prepareUse "use" "s" "pat").exec
        (viewAfter (usingService raisingExecutor) tenMinutes newHost 0 storedCalls)).2 :=
    handOver_of_answer exec_prepareUse_raising
  refine ⟨_, hand, ?_⟩
  have hideal : (usingService raisingExecutor).env.hmac.Ideal := tableHmac_ideal
  obtain ⟨hlog, htimed⟩ := chained_viewAfter tenMinutes hideal
    (chained_newHost raisingExecutor) timed_newHost storedCalls 0
  rw [audited_iff (serviceOf (usingService raisingExecutor) tenMinutes 0) hideal htimed hlog hand]
  rintro ⟨⟨result, serialized, text, houtcome, -⟩, -⟩
  exact absurd houtcome (by simp [raisingExecutor])

/-- The guarantee at a run whose executor succeeds. -/
theorem uses_audited_succeeding :
    EveryHandOver (usingService succeedingExecutor) tenMinutes newHost usedCalls
      (fun _ s grant secretId _ answer => Audited s grant secretId answer) := by
  have hideal : (usingService succeedingExecutor).env.hmac.Ideal := tableHmac_ideal
  refine (uses_audited_iff hideal (chained_newHost succeedingExecutor) timed_newHost
    usedCalls).mpr ?_
  intro before process token secretId executorName request rest hcalls grant executor secret s₁ hand
  -- the one use is the last call
  obtain rfl : before = storedCalls := by
    cases before with
    | nil => exact absurd (congrArg Prod.snd (List.cons.inj hcalls).1) (by simp)
    | cons c before =>
      obtain ⟨rfl, htail⟩ := List.cons.inj hcalls
      cases before with
      | nil => exact absurd (congrArg Prod.snd (List.cons.inj htail).1) (by simp)
      | cons c' before =>
        obtain ⟨rfl, htail'⟩ := List.cons.inj htail
        cases before with
        | nil => rfl
        | cons c'' before => exact absurd (List.cons.inj htail').2 (by simp)
  have hlast : ((0, .use "use" "s" "pat" ()) : ℕ × VaultCall Unit) =
      (process, .use token secretId executorName request) :=
    (List.cons.inj (List.append_cancel_left hcalls)).1
  simp only [Prod.mk.injEq, VaultCall.use.injEq] at hlast
  obtain ⟨rfl, rfl, rfl, rfl, -⟩ := hlast
  have hanswer := congrArg Prod.fst hand.exec
  rw [exec_prepareUse_succeeding] at hanswer
  obtain ⟨rfl, rfl, rfl⟩ : exampleGrant = grant ∧ succeedingExecutor = executor ∧
      [112] = secret := by
    simpa using Except.ok.inj hanswer
  refine ⟨⟨⟨true, "done", ()⟩, [], ['p'], rfl, rfl, ?_⟩, fun n _ _ hexpired => ?_⟩
  · show secretText (utf8 ['p']) = .ok ['p']
    unfold secretText
    rw [utf8Decode_utf8]
  · -- the example's clock stands still
    have hstill : ¬ (600000000 : Int) ≤ 0 - 0 := by decide
    exact hstill hexpired

end Example

end Zhixu.Vault
