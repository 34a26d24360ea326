import Zhixu.Vault.KeptKeys
import Zhixu.Vault.UseAudit

/-!
# Every secret can be decrypted

The vault is used by the daemon and by the operator's commands, each a process with a ring of its own,
and its keys are rotated, wrapped again and put under other passphrases while secrets come and go. What
all of this is to keep is said of the contents that the log of a run has committed (`contentsOf`): the
passphrase that is committed unlocks, and no other, and what is decrypted is what was committed last
(`Decryptable`). It holds at every point of every run (`always_decryptable`), and so do two promises to
the callers: what a reveal or a use hands out is committed (`handed_out_committed`), and the audit key
is one and the same all along.

A call keeps the invariant by `KeepsAt.run`, which is the lemma of its operation with what the service
does around it. The rings of the other processes are carried along by `Extends`: a key that was known
stays what it was. The passphrase is determined by its key (`Argon2.Ideal`) for one direction of one
promise alone, that no other passphrase unlocks.
-/

open Framework

namespace Zhixu.Vault.Decryptability

variable {Data Request : Type}

/-! ### What a call commits -/

/-- What a call that succeeds does to the contents. -/
def commits : VaultCall Request → Contents → Contents
  | .create _ request => fun contents => contents.set request.secretId (some request.value)
  | .update _ secretId value _ => fun contents => contents.set secretId (some value)
  | .delete _ secretId => fun contents => contents.set secretId none
  | .initializeVault passphrase => fun contents => contents.opensWith passphrase
  | .changePassphrase _ newPassphrase => fun contents => contents.opensWith newPassphrase
  | _ => fun contents => contents

section Calls

variable {service : VaultService Data Request} {masters : ℕ → Bytes} {contents : Contents}
  {s : VaultState}

/-- A value that may be created is not empty. -/
theorem checkCreate_ok {request : VaultService.CreateRequest} {authentication : String}
    {stored : VaultClassification × Option String}
    (h : VaultService.checkCreate request authentication = .ok stored) : request.value ≠ [] := by
  unfold VaultService.checkCreate at h
  intro hempty
  obtain ⟨hvalid, -⟩ := raiseIf_bind_ok.mp h
  exact hvalid (.inr (.inr (.inr (.inr (.inr (.inr hempty))))))

theorem KeepsAt.createWithGrant (ideal : service.env.aes.Ideal)
    (hs : Sound service.env.aes service.env.argon2 masters contents s) {token : String}
    {request : VaultService.CreateRequest} :
    KeepsAt service.env.aes service.env.argon2 masters contents s
      (service.createWithGrant token request)
      fun contents => contents.set request.secretId (some request.value) := by
  have rule := ringRelation_ringKept service.env
  refine KeepsAt.quiet_bind hs (Untouched.orDenied (Untouched.verifyAndConsume _ _ _))
    (rule.orDenied (rule.verifyAndConsume _ _ _)) fun grant s₁ _ _ hs₁ => ?_
  refine KeepsAt.denied (KeepsAt.check_bind hs₁ fun _ _ => ?_)
  refine KeepsAt.check_bind hs₁ fun stored hstored => ?_
  exact KeepsAt.createRecord ideal hs₁ (checkCreate_ok hstored)

theorem KeepsAt.update (ideal : service.env.aes.Ideal)
    (hs : Sound service.env.aes service.env.argon2 masters contents s) {token secretId : String}
    {value : Bytes} {expectedVersion : Int} :
    KeepsAt service.env.aes service.env.argon2 masters contents s
      (service.update token secretId value expectedVersion)
      fun contents => contents.set secretId (some value) := by
  have rule := ringRelation_ringKept service.env
  refine KeepsAt.check_bind hs fun _ hvalue => ?_
  refine KeepsAt.quiet_bind hs (Untouched.authorize _ _ _) (rule.authorize _ _ _)
    fun grant s₁ _ _ hs₁ => ?_
  exact KeepsAt.updateRecord ideal hs₁ (raiseIf_eq_ok.mp hvalue)

theorem KeepsAt.delete
    (hs : Sound service.env.aes service.env.argon2 masters contents s) {token secretId : String} :
    KeepsAt service.env.aes service.env.argon2 masters contents s (service.delete token secretId)
      fun contents => contents.set secretId none := by
  have rule := ringRelation_ringKept service.env
  exact KeepsAt.quiet_bind hs (Untouched.authorize _ _ _) (rule.authorize _ _ _)
    fun grant s₁ _ _ hs₁ => KeepsAt.deleteRecord hs₁

theorem KeepsAt.rotateKeys (ideal : service.env.aes.Ideal)
    (hs : Sound service.env.aes service.env.argon2 masters contents s)
    {token secretId passphrase : String} {fault : ℕ → Bool} :
    KeepsAt service.env.aes service.env.argon2 masters contents s
      (service.rotateKeys token secretId passphrase fault) fun contents => contents := by
  have rule := ringRelation_ringKept service.env
  refine KeepsAt.quiet_bind hs (Untouched.authorize _ _ _) (rule.authorize _ _ _)
    fun grant s₁ _ _ hs₁ => ?_
  refine KeepsAt.bind (KeepsAt.addKeyVersion ideal hs₁) fun version s₂ masters₂ _ hs₂ _ => ?_
  refine KeepsAt.bind (KeepsAt.rewrapDataKeys ideal hs₂) fun _ s₃ masters₃ _ hs₃ _ => ?_
  exact KeepsAt.of_quiet hs₃ (Untouched.pure _) (rule.pure _)

theorem KeepsAt.restart (hs : Sound service.env.aes service.env.argon2 masters contents s)
    (parameters : Argon2Parameters) :
    KeepsAt service.env.aes service.env.argon2 masters contents s
      (VaultService.start parameters) fun contents => contents :=
  ⟨masters, .refl _ _, hs.kept, ringSound_empty rfl⟩

theorem KeepsAt.lock (hs : Sound service.env.aes service.env.argon2 masters contents s) :
    KeepsAt service.env.aes service.env.argon2 masters contents s Vault.lock
      fun contents => contents :=
  ⟨masters, .refl _ _, hs.kept, ringSound_empty rfl⟩

theorem KeepsAt.checkpoint (hs : Sound service.env.aes service.env.argon2 masters contents s) :
    KeepsAt service.env.aes service.env.argon2 masters contents s service.writeCheckpoint
      fun contents => contents := by
  have rule := ringRelation_ringKept service.env
  refine .of_quiet hs Untouched.writeCheckpoint (rule.bind rule.sealed fun _ => ?_)
  refine RingRule.ite (rule.pure _) (rule.tryCatch (rule.bind (rule.auditKey false) fun _ => ?_)
    fun _ => rule.pure _)
  exact rule.bind rule.now fun _ => rule.pure _

/-- **Every call** keeps a sound state, and commits to the contents what it says. -/
theorem KeepsAt.run (ideal : service.env.aes.Ideal)
    (hs : Sound service.env.aes service.env.argon2 masters contents s)
    (call : VaultCall Request) :
    KeepsAt service.env.aes service.env.argon2 masters contents s (service.run call)
      (commits call) := by
  have rule := ringRelation_ringKept service.env
  cases call with
  | status => exact .map (.of_quiet hs Untouched.sealed rule.sealed) _
  | lock => exact .map (.lock hs) _
  | unlock passphrase => exact .map (.unlock ideal hs) _
  | create token request => exact .map (.createWithGrant ideal hs) _
  | listOwned token =>
    exact .map (.of_quiet hs (Untouched.listOwnedMetadata _) (rule.listOwnedMetadata _)) _
  | list token secretId =>
    exact .map (.of_quiet hs (Untouched.listMetadata _ _) (rule.listMetadata _ _)) _
  | reveal token secretId => exact .map (.of_quiet hs (Untouched.reveal _ _) (rule.reveal _ _)) _
  | use token secretId executorName request =>
    exact .map (.of_quiet hs (Untouched.use _ _ _ _) (rule.use _ _ _ _)) _
  | update token secretId value expectedVersion => exact .map (.update ideal hs) _
  | delete token secretId => exact .map (.delete hs) _
  | exportEncrypted token secretId exportPassphrase =>
    exact .map (.of_quiet hs (Untouched.exportEncrypted _ _ _) (rule.exportEncrypted _ _ _)) _
  | rotate token secretId passphrase fault => exact .map (.rotateKeys ideal hs) _
  | grantAcl token secretId subject action =>
    exact .map (.of_quiet hs (Untouched.grantAcl _ _ _ _) (rule.grantAcl _ _ _ _)) _
  | checkpoint => exact .map (.checkpoint hs) _
  | restart parameters => exact .map (.restart hs parameters) _
  | initializeVault passphrase => exact .map (.initializeVault ideal hs) _
  | addKeyVersion passphrase => exact .map (.addKeyVersion ideal hs) _
  | rewrap keyVersion actor fault => exact .map (.rewrapDataKeys ideal hs) _
  | changePassphrase oldPassphrase newPassphrase => exact .map (.changePassphrase ideal hs) _
  | recordChange =>
    exact .map (.of_quiet hs
      (Untouched.now.bind fun _ => Untouched.transaction (Untouched.appendEvent _))
      (rule.bind rule.now fun _ => rule.transaction (rule.appendEvent _))) _
  | auditKey touched => exact .map (.of_quiet hs (Untouched.auditKey _) (rule.auditKey _)) _

end Calls

/-! ### What a sound state promises -/

section Promises

variable {env : Environment} {masters : ℕ → Bytes} {contents : Contents} {s s' : VaultState}

theorem decrypt_sound (hs : Sound env.aes env.argon2 masters contents s) {secretId : String}
    {value : Bytes} (h : (decrypt env secretId).exec s = (.ok value, s')) :
    contents.values secretId = some value := by
  unfold decrypt at h
  obtain ⟨row, s₁, hquery, hrest⟩ := Effect.exec_bind_ok.mp h
  rw [Effect.exec_query] at hquery
  obtain ⟨hfound, rfl⟩ := Prod.mk.inj hquery
  have hrow : s.database.secretRecords.find? secretId = some row := by
    cases hfind : s.database.secretRecords.find? secretId with
    | none =>
      rw [hfind] at hfound
      cases hfound
    | some found =>
      rw [hfind] at hfound
      rw [Except.ok.inj hfound]
  obtain ⟨master, s₂, hkey, hopening⟩ := Effect.exec_bind_ok.mp hrest
  obtain ⟨-, rfl⟩ := key_sound hs hkey
  obtain ⟨dataKey, s₃, hopen, hreading⟩ := Effect.exec_bind_ok.mp hopening
  obtain ⟨hopened, -⟩ := Effect.exec_check_ok.mp hopen
  obtain ⟨htext, -⟩ := Effect.exec_check_ok.mp hreading
  obtain ⟨-, plaintext, hvalue, dataKey', -, hopened', htext'⟩ := hs.kept.stored secretId row hrow
  obtain rfl := Table.key_of_find? hrow
  obtain rfl : dataKey = dataKey' := Except.ok.inj (hopened.symm.trans hopened')
  rw [hvalue, Except.ok.inj (htext.symm.trans htext')]

/-- What a secret is decrypted to. -/
def answerOf : Option Bytes → Except VaultError Bytes
  | none => .error (.key "secret not found")
  | some value => .ok value

/-- A ring that has all keys and has not expired decrypts every secret. -/
theorem decrypt_complete (hs : Sound env.aes env.argon2 masters contents s)
    (hall : ∀ version, Known s.database version →
      ∃ entry, s.keyring.keys.find? version = some entry) {used : Moment}
    (hused : s.keyring.lastUsedAt = some used)
    (hfresh : ¬ expired env used (env.sources.clock s.ticks)) (secretId : String) :
    ((decrypt env secretId).exec s).1 = answerOf (contents.values secretId) := by
  unfold decrypt
  rw [Effect.exec_bind, Effect.exec_query]
  cases hrow : s.database.secretRecords.find? secretId with
  | none =>
    have hnone : contents.values secretId = none := by
      cases hvalue : contents.values secretId with
      | none => rfl
      | some value =>
        obtain ⟨row, hfound⟩ := hs.kept.covered secretId value hvalue
        rw [hrow] at hfound
        cases hfound
    rw [hnone]
    rfl
  | some row =>
    obtain ⟨hknown, value, hvalue, dataKey, -, hopen, htext⟩ := hs.kept.stored secretId row hrow
    obtain ⟨entry, hentry⟩ := hall row.keyVersion hknown
    obtain ⟨-, hmaster⟩ := hs.ring.entries row.keyVersion entry hentry
    obtain rfl := Table.key_of_find? hrow
    have hchecked := checked_of_open hused hfresh
    have hkey : (key env row.keyVersion).exec s =
        (.ok (masters row.keyVersion), (s.checked env).touched env) := by
      refine key_ok.mpr ⟨?_, ⟨entry, ?_, hmaster.symm⟩, rfl⟩
      · rw [hchecked]
        exact List.ne_nil_of_mem (Table.mem_of_find? hentry)
      · rw [hchecked]
        exact hentry
    simp only [Effect.exec_bind, hkey, Effect.exec_check, hopen, htext, hvalue]
    rfl

/-- **Unlocking** succeeds with the passphrase that is committed and with no other. -/
theorem unlockedKeys_ok_iff (ideal : env.aes.Ideal) (derives : env.argon2.Ideal)
    {db : VaultDatabase} (h : Kept env.aes env.argon2 masters contents db) {passphrase : String} :
    (∃ opened, unlockedKeys env db passphrase = .ok opened) ↔
      contents.passphrase = some passphrase := by
  constructor
  · rintro ⟨⟨parameters, keys⟩, hopened⟩
    obtain ⟨hrows, hparameters, salt, hsalt, -, hopen⟩ := unlockedKeys_ok hopened
    obtain ⟨committed, hcommitted⟩ := h.exists_passphrase hrows
    obtain ⟨hkey, -⟩ := unlockKey_eq ideal h hcommitted (fun _ => keyVersionRows_iff) hopen
    obtain ⟨stored, parameters', hstored, -, -⟩ := (h.unlocks committed hcommitted).derivation
    obtain rfl : stored = salt := Except.ok.inj ((storedSalt_encode hstored).symm.trans hsalt)
    rw [hcommitted, derives.injective (hkey stored parameters hstored hparameters)]
  · intro hcommitted
    have hunlocks := h.unlocks passphrase hcommitted
    obtain ⟨salt, parameters, hsalt, hparameters, hopens⟩ := hunlocks.derivation
    obtain ⟨first, hfirst⟩ := hunlocks.first
    have hmem : first ∈ db.keyVersionRows := by
      rw [keyVersionRows_iff, Table.key_of_find? hfirst]
      exact hfirst
    have hmasters : openMasters env (env.argon2.hash parameters passphrase salt) db.keyVersionRows =
        .ok (db.keyVersionRows.map fun row => (row.version, masters row.version)) := by
      refine mapM_eq_ok.mpr (List.forall₂_map_right_iff.mpr (List.forall₂_same.mpr fun row hrow => ?_))
      rw [hopens row.version row (keyVersionRows_iff.mp hrow)]
      rfl
    refine ⟨(parameters, db.keyVersionRows.map fun row => (row.version, masters row.version)), ?_⟩
    unfold unlockedKeys
    rw [raiseIf_bind_ok]
    refine ⟨List.ne_nil_of_mem hmem, bind_eq_ok.mpr ⟨_, storedParameters_some hparameters, ?_⟩⟩
    refine bind_eq_ok.mpr ⟨_, storedSalt_encode hsalt, ?_⟩
    have hderive : parameters.derive env.argon2 passphrase salt =
        .ok (env.argon2.hash parameters passphrase salt) :=
      Argon2Parameters.derive_eq_ok.mpr ⟨hunlocks.long, rfl⟩
    exact bind_eq_ok.mpr ⟨_, hderive, bind_eq_ok.mpr ⟨_, orRaise_eq_ok.mpr hmasters, rfl⟩⟩

/-- A ring that was unlocked has all keys, as of now. -/
theorem unlock_ok (ideal : env.aes.Ideal) (hs : Sound env.aes env.argon2 masters contents s)
    {passphrase : String} {u : Unit} (h : (unlock env passphrase).exec s = (.ok u, s')) :
    (∃ opened, unlockedKeys env s.database passphrase = .ok opened) ∧
      Sound env.aes env.argon2 masters contents s' ∧
      (∀ version, Known s'.database version →
        ∃ entry, s'.keyring.keys.find? version = some entry) ∧
      s'.keyring.lastUsedAt = some (env.sources.clock s.ticks) := by
  unfold unlock at h
  obtain ⟨⟨parameters, keys⟩, s₁, hquery, hrest⟩ := Effect.exec_bind_ok.mp h
  rw [Effect.exec_query] at hquery
  obtain ⟨hopened, rfl⟩ := Prod.mk.inj hquery
  obtain rfl := (Prod.mk.inj hrest).2
  obtain ⟨hrows, hparameters, salt, -, -, hopen⟩ := unlockedKeys_ok hopened
  obtain ⟨committed, hcommitted⟩ := hs.kept.exists_passphrase hrows
  obtain ⟨-, hkeys⟩ := unlockKey_eq ideal hs.kept hcommitted (fun _ => keyVersionRows_iff) hopen
  have hfirst := (hs.kept.unlocks committed hcommitted).first
  refine ⟨⟨_, hopened⟩, ⟨hs.kept, ringSound_keysOf hkeys hfirst rfl hparameters⟩,
    fun version hknown => ?_, rfl⟩
  refine (find?_keysOf (fun entry hentry => ((hkeys entry).mp hentry).2) version).2 ?_
  exact List.mem_map.mpr ⟨(version, masters version), (hkeys _).mpr ⟨hknown, rfl⟩, rfl⟩

/-- The smallest version of a ring is the first, and so is the one that is asked for without keys. -/
theorem auditVersion_ok (hs : Sound env.aes env.argon2 masters contents s)
    (hpositive : ∀ version, Known s.database version → 1 ≤ version) {version : ℕ}
    (h : (auditVersion env).exec s = (.ok version, s')) : version = 1 ∧ s' = s.checked env := by
  unfold auditVersion at h
  rw [Effect.exec_bind, exec_sealed] at h
  cases hempty : (s.checked env).keyring.keys.rows.isEmpty with
  | true =>
    simp only [hempty, if_true] at h
    obtain ⟨hversion, hstate⟩ := Prod.mk.inj h
    exact ⟨(Except.ok.inj hversion).symm, hstate.symm⟩
  | false =>
    simp only [hempty, Bool.false_eq_true, if_false] at h
    obtain ⟨hversion, hstate⟩ := Prod.mk.inj h
    refine ⟨?_, hstate.symm⟩
    have hring : RingSound masters s.database (s.checked env).keyring :=
      hs.ring.kept (ringKept_checked s)
    have hne : (s.checked env).keyring.keys ≠ ∅ := by
      intro hkeys
      rw [hkeys] at hempty
      cases hempty
    obtain ⟨first, hfirst⟩ := hring.first hne
    have hmin : ((s.checked env).keyring.keys.rows.map Prod.fst).min? = some 1 := by
      refine List.min?_eq_some_iff.mpr ⟨?_, fun other hother => ?_⟩
      · exact List.mem_map.mpr ⟨first, Table.mem_of_find? hfirst, Table.key_of_find? hfirst⟩
      · obtain ⟨entry, hentry, rfl⟩ := List.mem_map.mp hother
        exact hpositive _ (hring.entries entry.1 entry (Table.find?_of_mem hentry)).1
    rw [← Except.ok.inj hversion]
    show (((s.checked env).keyring.keys.rows.map Prod.fst).min?).getD 1 = 1
    rw [hmin]
    rfl

/-- **The audit key** comes from the first master key. -/
theorem auditKey_sound (hs : Sound env.aes env.argon2 masters contents s)
    (hpositive : ∀ version, Known s.database version → 1 ≤ version) {touched : Bool}
    {value : Bytes} (h : (auditKey env touched).exec s = (.ok value, s')) :
    Known s.database 1 ∧ value = env.hkdf (auditInfo 1) (masters 1) := by
  have rule := ringRelation_ringKept env
  unfold auditKey at h
  obtain ⟨version, s₁, hversion, hchecking⟩ := Effect.exec_bind_ok.mp h
  obtain ⟨hsame₁, hs₁⟩ := hs.after hversion Untouched.auditVersion rule.auditVersion
  obtain ⟨rfl, -⟩ := auditVersion_ok hs hpositive hversion
  obtain ⟨closed, s₂, hsealed, hreading⟩ := Effect.exec_bind_ok.mp hchecking
  obtain ⟨hsame₂, hs₂⟩ := hs₁.after hsealed Untouched.sealed rule.sealed
  have hknown : ∀ {version}, Known s₂.database version → Known s.database version :=
    fun hknown => hsame₁.known.mp (hsame₂.known.mp hknown)
  cases closed with
  | true => exact absurd (Prod.mk.inj hreading).1 (by simp)
  | false =>
    obtain ⟨master, s₃, hmaster, hreturn⟩ := Effect.exec_bind_ok.mp hreading
    obtain rfl := Except.ok.inj (Prod.mk.inj hreturn).1
    cases touched with
    | true =>
      obtain ⟨hfirst, rfl⟩ := key_sound hs₂ hmaster
      exact ⟨hknown hfirst, rfl⟩
    | false =>
      have hentry : (keyEntry 1).exec s₂ = (.ok master, s₃) := hmaster
      unfold keyEntry at hentry
      rw [Effect.exec_query] at hentry
      cases hfind : s₂.keyring.keys.find? 1 with
      | none =>
        rw [hfind] at hentry
        exact absurd (Prod.mk.inj hentry).1 (by simp)
      | some entry =>
        rw [hfind] at hentry
        obtain rfl := Except.ok.inj (Prod.mk.inj hentry).1
        obtain ⟨hfirst, hvalue⟩ := hs₂.ring.entries 1 entry hfind
        rw [hvalue]
        exact ⟨hknown hfirst, rfl⟩

end Promises

/-! ### Whole runs -/

section Runs

variable (service : VaultService Data Request) (timeouts : ℕ → Int)

/-- The contents that the calls of a log have committed. -/
def contentsOf :
    List (Entry (ℕ × VaultCall Request) (Except VaultError (VaultAnswer Data))) → Contents
  | [] => {}
  | entry :: older => settled (commits entry.call.2) (contentsOf older) entry.outcome

/-- The state of all processes together. -/
structure Hosted (aes : AesGcm) (argon2 : Argon2) (masters : ℕ → Bytes) (contents : Contents)
    (host : VaultHost) : Prop where
  kept : Kept aes argon2 masters contents host.database
  rings : ∀ process, RingSound masters host.database (host.keyrings process)

variable {service timeouts} {masters : ℕ → Bytes} {contents : Contents} {host : VaultHost}

/-- What a process sees, with its own use of the service. -/
theorem Hosted.view (h : Hosted service.env.aes service.env.argon2 masters contents host)
    (timeouts : ℕ → Int) (process : ℕ) :
    Sound (serviceOf service timeouts process).env.aes (serviceOf service timeouts process).env.argon2
      masters contents (host.view process) :=
  ⟨h.kept, h.rings process⟩

theorem hosted_newHost (masters : ℕ → Bytes) :
    Hosted service.env.aes service.env.argon2 masters {} newHost where
  kept := {
    fresh := fun _ _ ⟨row, hrow⟩ => absurd hrow (Option.some_ne_none row ∘ Eq.symm)
    unlocks := fun _ hpassphrase => absurd hpassphrase (Option.some_ne_none _ ∘ Eq.symm)
    stored := fun _ row hrow => absurd hrow (Option.some_ne_none row ∘ Eq.symm)
    covered := fun _ value hvalue => absurd hvalue (Option.some_ne_none value ∘ Eq.symm) }
  rings _ := ringSound_empty rfl

/-- **One call** of one process. -/
theorem Hosted.exec (ideal : service.env.aes.Ideal)
    (h : Hosted service.env.aes service.env.argon2 masters contents host) (timeouts : ℕ → Int)
    (call : ℕ × VaultCall Request) :
    ∃ masters', Extends masters masters' host.database
        ((vaultMachine service timeouts).exec host call).2.database ∧
      Hosted service.env.aes service.env.argon2 masters'
        (settled (commits call.2) contents ((vaultMachine service timeouts).exec host call).1)
        ((vaultMachine service timeouts).exec host call).2 := by
  have ideal' : (serviceOf service timeouts call.1).env.aes.Ideal := ideal
  obtain ⟨masters', hextends, hsound⟩ := KeepsAt.run ideal' (h.view timeouts call.1) call.2
  refine ⟨masters', hextends, hsound.kept, fun process => ?_⟩
  by_cases hprocess : process = call.1
  · subst hprocess
    show RingSound _ _ (Function.update host.keyrings call.1 _ call.1)
    rw [Function.update_self]
    exact hsound.ring
  · show RingSound _ _ (Function.update host.keyrings call.1 _ process)
    rw [Function.update_of_ne hprocess]
    exact (h.rings process).extends hextends

theorem afterCalls_snoc (calls : List (ℕ × VaultCall Request)) (call : ℕ × VaultCall Request) :
    afterCalls service timeouts newHost (calls ++ [call]) =
      (vaultMachine service timeouts).advance (afterCalls service timeouts newHost calls) call := by
  unfold afterCalls
  rw [Machine.replay_append]
  rfl

/-- **A run**, from any of its points on. -/
theorem hosted_afterCalls (ideal : service.env.aes.Ideal) (timeouts : ℕ → Int)
    (done rest : List (ℕ × VaultCall Request)) {masters : ℕ → Bytes}
    (h : Hosted service.env.aes service.env.argon2 masters
      (contentsOf (afterCalls service timeouts newHost done).log)
      (afterCalls service timeouts newHost done).state) :
    ∃ masters', Extends masters masters' (afterCalls service timeouts newHost done).state.database
        (afterCalls service timeouts newHost (done ++ rest)).state.database ∧
      Hosted service.env.aes service.env.argon2 masters'
        (contentsOf (afterCalls service timeouts newHost (done ++ rest)).log)
        (afterCalls service timeouts newHost (done ++ rest)).state := by
  induction rest using List.reverseRecOn with
  | nil =>
    rw [List.append_nil]
    exact ⟨masters, .refl _ _, h⟩
  | append_singleton rest call ih =>
    obtain ⟨masters₁, hextends₁, h₁⟩ := ih
    obtain ⟨masters₂, hextends₂, h₂⟩ := h₁.exec ideal timeouts call
    rw [← List.append_assoc, afterCalls_snoc]
    exact ⟨masters₂, hextends₁.trans hextends₂, h₂⟩

variable (service timeouts)

/-- **What a vault is for.** The passphrase that is committed unlocks it for every process, and no other
does. A process that has unlocked it decrypts every secret, until the ring expires, and no process ever
decrypts anything but the plaintext that is committed. There is one audit key. -/
structure Decryptable (auditKey : Bytes) (contents : Contents) (host : VaultHost) : Prop where
  unlocks : ∀ process passphrase,
    (∃ s', (unlock (serviceOf service timeouts process).env passphrase).exec (host.view process) =
      (.ok (), s')) ↔ contents.passphrase = some passphrase
  decrypts : ∀ process passphrase s',
    (unlock (serviceOf service timeouts process).env passphrase).exec (host.view process) =
      (.ok (), s') →
    ∃ used, s'.keyring.lastUsedAt = some used ∧
      (¬ expired (serviceOf service timeouts process).env used (service.env.sources.clock s'.ticks) →
        ∀ secretId, ((decrypt (serviceOf service timeouts process).env secretId).exec s').1 =
          answerOf (contents.values secretId))
  faithful : ∀ process secretId value s',
    (decrypt (serviceOf service timeouts process).env secretId).exec (host.view process) =
      (.ok value, s') → contents.values secretId = some value
  audits : ∀ process touched value s',
    (Vault.auditKey (serviceOf service timeouts process).env touched).exec (host.view process) =
      (.ok value, s') → value = auditKey

variable {service timeouts}

theorem Hosted.decryptable (ideal : service.env.aes.Ideal) (derives : service.env.argon2.Ideal)
    (h : Hosted service.env.aes service.env.argon2 masters contents host) {auditKey : Bytes}
    (haudit : Known host.database 1 → auditKey = service.env.hkdf (auditInfo 1) (masters 1)) :
    Decryptable service timeouts auditKey contents host where
  unlocks process passphrase := by
    have ideal' : (serviceOf service timeouts process).env.aes.Ideal := ideal
    have hsound := h.view timeouts process
    rw [← unlockedKeys_ok_iff ideal' derives hsound.kept]
    constructor
    · rintro ⟨s', hunlock⟩
      exact (unlock_ok ideal' hsound hunlock).1
    · rintro ⟨⟨parameters, keys⟩, hopened⟩
      unfold unlock
      rw [Effect.exec_bind, Effect.exec_query, hopened]
      exact ⟨_, rfl⟩
  decrypts process passphrase s' hunlock := by
    have ideal' : (serviceOf service timeouts process).env.aes.Ideal := ideal
    obtain ⟨-, hsound, hall, hused⟩ := unlock_ok ideal' (h.view timeouts process) hunlock
    exact ⟨_, hused, fun hfresh secretId => decrypt_complete hsound hall hused hfresh secretId⟩
  faithful process secretId value s' hdecrypt := decrypt_sound (h.view timeouts process) hdecrypt
  audits process touched value s' hread := by
    have hpositive : ∀ version, Known host.database version → 1 ≤ version := by
      intro version hknown
      obtain ⟨committed, hcommitted⟩ : ∃ committed, contents.passphrase = some committed :=
        Option.ne_none_iff_exists'.mp fun hnone => h.kept.fresh hnone version hknown
      exact ((h.kept.unlocks committed hcommitted).positive version hknown).1
    obtain ⟨hfirst, hvalue⟩ := auditKey_sound (h.view timeouts process) hpositive hread
    rw [hvalue, haudit hfirst]
    rfl

/-- The master keys are determined by the database. -/
theorem Kept.masters_eq {db : VaultDatabase} {masters' : ℕ → Bytes}
    (h : Kept service.env.aes service.env.argon2 masters contents db)
    (h' : Kept service.env.aes service.env.argon2 masters' contents db) {version : ℕ}
    (hknown : Known db version) : masters version = masters' version := by
  obtain ⟨committed, hcommitted⟩ : ∃ committed, contents.passphrase = some committed :=
    Option.ne_none_iff_exists'.mp fun hnone => h.fresh hnone version hknown
  obtain ⟨salt, parameters, hsalt, hparameters, hopens⟩ := (h.unlocks _ hcommitted).derivation
  obtain ⟨salt', parameters', hsalt', hparameters', hopens'⟩ := (h'.unlocks _ hcommitted).derivation
  obtain rfl := Base64.encode_injective (Option.some.inj (hsalt.symm.trans hsalt'))
  obtain rfl := Option.some.inj (hparameters.symm.trans hparameters')
  obtain ⟨row, hrow⟩ := hknown
  exact Except.ok.inj ((hopens version row hrow).symm.trans (hopens' version row hrow))

/-- **The vault can be decrypted at every point of every run**, and has the same audit key at all of
them. -/
theorem always_decryptable (ideal : service.env.aes.Ideal) (derives : service.env.argon2.Ideal)
    (calls : List (ℕ × VaultCall Request)) :
    ∃ auditKey, ∀ done, done <+: calls →
      Decryptable service timeouts auditKey
        (contentsOf (afterCalls service timeouts newHost done).log)
        (afterCalls service timeouts newHost done).state := by
  obtain ⟨final, -, hfinal⟩ :=
    hosted_afterCalls ideal timeouts [] calls (hosted_newHost fun _ => [])
  refine ⟨service.env.hkdf (auditInfo 1) (final 1), fun done hdone => ?_⟩
  obtain ⟨rest, rfl⟩ := hdone
  obtain ⟨masters, -, hhosted⟩ :=
    hosted_afterCalls ideal timeouts [] done (hosted_newHost fun _ => [])
  obtain ⟨masters', hextends, hlater⟩ := hosted_afterCalls ideal timeouts done rest hhosted
  refine hhosted.decryptable ideal derives fun hknown => ?_
  obtain ⟨hstill, hsame⟩ := hextends.known 1 hknown
  rw [hfinal.kept.masters_eq hlater.kept hstill, hsame]

/-- **What is handed out is what was committed.** A reveal, and a use up to its executor, give the
plaintext that was committed last, whatever process serves them and however old its ring is. -/
theorem handed_out_committed (ideal : service.env.aes.Ideal) (before : List (ℕ × VaultCall Request))
    (process : ℕ) (token secretId : String) :
    (∀ value s', ((serviceOf service timeouts process).reveal token secretId).exec
        (viewAfter service timeouts newHost process before) = (.ok value, s') →
      (contentsOf (afterCalls service timeouts newHost before).log).values secretId = some value) ∧
    ∀ executorName grant executor secret s', HandOver (serviceOf service timeouts process)
        (viewAfter service timeouts newHost process before) token secretId executorName grant
          executor secret s' →
      (contentsOf (afterCalls service timeouts newHost before).log).values secretId =
        some secret := by
  obtain ⟨masters, -, hhosted⟩ :=
    hosted_afterCalls ideal timeouts [] before (hosted_newHost fun _ => [])
  have hsound := hhosted.view timeouts process
  have rule := ringRelation_ringKept (serviceOf service timeouts process).env
  constructor
  · intro value s' hreveal
    obtain ⟨authorized, s₁, hauthorize, hrest⟩ := Effect.exec_bind_ok.mp hreveal
    obtain ⟨-, hs₁⟩ := hsound.after hauthorize (Untouched.authorize _ _ _) (rule.authorize _ _ _)
    obtain ⟨found, s₂, hdecrypt, hrecord⟩ := Effect.exec_bind_ok.mp hrest
    obtain ⟨u, s₃, -, hreturn⟩ := Effect.exec_bind_ok.mp hrecord
    obtain rfl := Except.ok.inj (Prod.mk.inj hreturn).1
    exact decrypt_sound hs₁ hdecrypt
  · intro executorName grant executor secret s' hand
    obtain ⟨authorized, s₁, hauthorize, hrest⟩ := Effect.exec_bind_ok.mp hand.exec
    obtain ⟨-, hs₁⟩ := hsound.after hauthorize (Untouched.authorize _ _ _) (rule.authorize _ _ _)
    cases hexecutor : (serviceOf service timeouts process).executors executorName with
    | none =>
      simp only [hexecutor] at hrest
      obtain ⟨u, s₂, -, hthrow⟩ := Effect.exec_bind_ok.mp hrest
      exact absurd (Prod.mk.inj hthrow).1 (by simp)
    | some found =>
      simp only [hexecutor] at hrest
      obtain ⟨value, s₂, hdecrypt, hreturn⟩ := Effect.exec_bind_ok.mp hrest
      obtain ⟨-, hsecret⟩ := Prod.mk.inj (Prod.mk.inj (Except.ok.inj (Prod.mk.inj hreturn).1)).2
      rw [← hsecret]
      exact decrypt_sound hs₁ hdecrypt

end Runs

section Example

/-- A key in front of what follows, with its length. -/
def framed (key : Bytes) : Bytes := List.replicate key.length 1 ++ 0 :: key

theorem replicate_one_append_inj {n m : ℕ} {rest rest' : Bytes}
    (h : List.replicate n 1 ++ 0 :: rest = List.replicate m 1 ++ 0 :: rest') :
    n = m ∧ rest = rest' := by
  induction n generalizing m with
  | zero =>
    cases m with
    | zero => exact ⟨rfl, (List.cons.inj h).2⟩
    | succ m => exact absurd (List.cons.inj h).1 (by decide)
  | succ n ih =>
    cases m with
    | zero => exact absurd (List.cons.inj h).1 (by decide)
    | succ m =>
      obtain ⟨rfl, hrest⟩ := ih (List.cons.inj h).2
      exact ⟨rfl, hrest⟩

theorem framed_append_inj {key key' rest rest' : Bytes}
    (h : framed key ++ rest = framed key' ++ rest') : key = key' ∧ rest = rest' := by
  unfold framed at h
  rw [List.append_assoc, List.append_assoc] at h
  obtain ⟨hlength, htail⟩ := replicate_one_append_inj h
  exact List.append_inj htail hlength

/-- A cipher that shows its key. -/
def framedAes : AesGcm where
  encrypt key _ data _ := framed key ++ (data ++ List.replicate 16 0)
  decrypt key _ ciphertext _ :=
    let data := (ciphertext.drop (framed key).length).take
      (ciphertext.length - (framed key).length - 16)
    if ciphertext = framed key ++ (data ++ List.replicate 16 0) then some data else none

theorem framedAes_ideal : framedAes.Ideal where
  decrypt_encrypt key nonce data context := by
    have hlength : (framed key ++ (data ++ List.replicate 16 0)).length - (framed key).length - 16 =
        data.length := by
      simp only [List.length_append, List.length_replicate]
      omega
    unfold framedAes
    simp only [hlength, List.drop_left, List.take_left, if_true]
  authentic := by
    intro key nonce ciphertext context data h
    unfold framedAes at h
    simp only [Option.ite_none_right_eq_some, Option.some.injEq] at h
    obtain ⟨hcipher, hdata⟩ := h
    rw [hdata] at hcipher
    exact hcipher
  committing h := (framed_append_inj h).1
  length_ge key nonce data context := by
    show _ ≤ (framed key ++ (data ++ List.replicate 16 0)).length
    simp only [List.length_append, List.length_replicate]
    omega

/-- The service with this cipher, and with a derivation that keeps the passphrase. -/
def framedService : VaultService Unit Unit :=
  { usingService succeedingExecutor with
    env := { (usingService succeedingExecutor).env with
      aes := framedAes
      argon2 := ⟨fun _ passphrase _ => utf8 passphrase.toList⟩ } }

theorem framedService_derives : framedService.env.argon2.Ideal where
  injective := by
    intro parameters passphrase passphrase' salt h
    have htext : utf8 passphrase.toList = utf8 passphrase'.toList := h
    have hdecode := congrArg utf8Decode htext
    rw [utf8Decode_utf8, utf8Decode_utf8] at hdecode
    exact String.toList_inj.mp (Option.some.inj hdecode)

/-- A secret is stored, the keys are rotated by hand, and the passphrase is changed. -/
def changedCalls : List (ℕ × VaultCall Unit) :=
  storedCalls ++ [(0, .addKeyVersion "correct horse"),
    (0, .changePassphrase "correct horse" "battery staple")]

theorem always_decryptable_changed : ∃ auditKey,
    Decryptable framedService tenMinutes auditKey
      (contentsOf (afterCalls framedService tenMinutes newHost changedCalls).log)
      (afterCalls framedService tenMinutes newHost changedCalls).state := by
  obtain ⟨auditKey, h⟩ := always_decryptable framedAes_ideal framedService_derives changedCalls
  exact ⟨auditKey, h changedCalls List.prefix_rfl⟩

set_option maxRecDepth 20000 in
theorem exec_prepareUse_framed :
    (((serviceOf framedService tenMinutes 0).prepareUse "use" "s" "pat").exec
      (viewAfter framedService tenMinutes newHost 0 storedCalls)).1 =
        .ok (exampleGrant, succeedingExecutor, [112]) := by rfl

theorem handed_out_committed_stored :
    (contentsOf (afterCalls framedService tenMinutes newHost storedCalls).log).values "s" =
      some [112] :=
  (handed_out_committed framedAes_ideal storedCalls 0 "use" "s").2 "pat" exampleGrant
    succeedingExecutor [112] _ (handOver_of_answer exec_prepareUse_framed)

end Example

end Zhixu.Vault.Decryptability
