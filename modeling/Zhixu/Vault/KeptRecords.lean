import Zhixu.Vault.Contents

/-!
# What writing a record does to the contents

A record is written with a data key of its own, which is wrapped under the master key of the active
version. `Kept.write` says of any write to one record when it realises a write to the contents, and the
three operations of the repository are instances of it: creating and updating seal the new value
(`readable_seal`), deleting leaves none. Whatever a ring gives out on the way is a master key, since the
ring is sound (`key_sound`).
-/

open Framework

namespace Zhixu.Vault.Decryptability

/-- A sealed text opens under one key. -/
theorem openSealed_key {aes : AesGcm} (ideal : aes.Ideal) {key key' plaintext plaintext' : Bytes}
    {value : List Char} {context context' : String}
    (h : openSealed aes key value context = .ok plaintext)
    (h' : openSealed aes key' value context' = .ok plaintext') : key' = key := by
  unfold openSealed at h h'
  obtain ⟨-, h⟩ := raiseIf_bind_ok.mp h
  obtain ⟨-, h'⟩ := raiseIf_bind_ok.mp h'
  cases hraw : Base64.decode true (value.drop sealedPrefix.length) with
  | none =>
    rw [hraw] at h
    exact absurd h (by simp [throw, throwThe, MonadExceptOf.throw])
  | some raw =>
    rw [hraw] at h h'
    obtain ⟨-, h⟩ := raiseIf_bind_ok.mp h
    obtain ⟨-, h'⟩ := raiseIf_bind_ok.mp h'
    cases hopen : aes.decrypt key (raw.take 12) (raw.drop 12) context with
    | none =>
      rw [hopen] at h
      exact absurd h (by simp [throw, throwThe, MonadExceptOf.throw])
    | some found =>
      cases hopen' : aes.decrypt key' (raw.take 12) (raw.drop 12) context' with
      | none =>
        rw [hopen'] at h'
        exact absurd h' (by simp [throw, throwThe, MonadExceptOf.throw])
      | some found' =>
        -- one ciphertext, made with both keys
        have hmade := ideal.authentic hopen
        have hmade' := ideal.authentic hopen'
        exact ideal.committing (hmade'.symm.trans hmade)

variable {env : Environment} {masters : ℕ → Bytes} {contents : Contents} {s s' : VaultState}

theorem sealBytes_ok {key plaintext : Bytes} {context : String} {text : List Char}
    (h : (sealBytes env key plaintext context).exec s = (.ok text, s')) :
    ∃ nonce, nonce.length = 12 ∧ text = sealWith env.aes nonce key plaintext context := by
  unfold sealBytes at h
  obtain ⟨nonce, s₁, hdraw, h⟩ := Effect.exec_bind_ok.mp h
  rw [exec_urandom] at hdraw
  obtain ⟨hnonce, -⟩ := Prod.mk.inj hdraw
  obtain ⟨htext, -⟩ := Prod.mk.inj h
  refine ⟨nonce, ?_, (Except.ok.inj htext).symm⟩
  rw [← Except.ok.inj hnonce]
  exact env.sources.length_random _ _

theorem sealBytes_state {key plaintext : Bytes} {context : String}
    {r : Except VaultError (List Char)}
    (h : (sealBytes env key plaintext context).exec s = (r, s')) :
    s'.database = s.database ∧ s'.keyring = s.keyring := by
  obtain rfl : _ = s' := (Prod.mk.inj h).2
  exact ⟨rfl, rfl⟩

/-- What a ring gives out is the master key. -/
theorem key_sound (hs : Sound env.aes env.argon2 masters contents s) {version : ℕ} {value : Bytes}
    (h : (key env version).exec s = (.ok value, s')) :
    Known s.database version ∧ value = masters version := by
  obtain ⟨-, ⟨entry, hfind, rfl⟩, -⟩ := key_ok.mp h
  exact (hs.ring.kept (ringKept_checked s)).entries version entry hfind

theorem active_sound (hs : Sound env.aes env.argon2 masters contents s) {entry : ℕ × Bytes}
    (h : (active env).exec s = (.ok entry, s')) :
    Known s.database entry.1 ∧ entry.2 = masters entry.1 := by
  unfold active at h
  obtain ⟨version, s₁, hversion, h⟩ := Effect.exec_bind_ok.mp h
  rw [Effect.exec_query] at hversion
  obtain rfl : s = s₁ := (Prod.mk.inj hversion).2
  obtain ⟨value, s₂, hvalue, h⟩ := Effect.exec_bind_ok.mp h
  obtain rfl := Except.ok.inj (Prod.mk.inj h).1
  exact key_sound hs hvalue

/-! ### Writing a record -/

section Records

variable {aes : AesGcm} {argon2 : Argon2} {db : VaultDatabase}

theorem Contents.set_self (contents : Contents) (secretId : String) :
    contents.set secretId (contents.values secretId) = contents := by
  unfold Contents.set
  rw [Function.update_eq_self]

/-- One record is written or deleted, and its plaintext with it. -/
theorem Kept.write (h : Kept aes argon2 masters contents db)
    {records : Table SecretRecord SecretRecord.id} {secretId : String} {row : Option SecretRecord}
    {value : Option Bytes}
    (hfind : ∀ other, records.find? other =
      if other = secretId then row else db.secretRecords.find? other)
    (hrow : ∀ written, row = some written → Known db written.keyVersion ∧
      ∃ plaintext, value = some plaintext ∧ Readable aes masters written plaintext)
    (hvalue : value.isSome = true → ∃ written, row = some written) :
    Kept aes argon2 masters (contents.set secretId value) { db with secretRecords := records } where
  fresh := h.fresh
  unlocks passphrase hpassphrase :=
    have hunlocks := h.unlocks passphrase hpassphrase
    ⟨hunlocks.long, hunlocks.first, hunlocks.positive, hunlocks.derivation⟩
  stored other found hother := by
    rw [hfind] at hother
    rw [Contents.set_values]
    by_cases hsame : other = secretId
    · subst hsame
      rw [if_pos rfl] at hother
      obtain ⟨hknown, plaintext, hplaintext, hreadable⟩ := hrow found hother
      exact ⟨hknown, plaintext, by rw [Function.update_self, hplaintext], hreadable⟩
    · rw [if_neg hsame] at hother
      obtain ⟨hknown, plaintext, hplaintext, hreadable⟩ := h.stored other found hother
      exact ⟨hknown, plaintext, by rwa [Function.update_of_ne hsame], hreadable⟩
  covered other plaintext hplaintext := by
    show ∃ found, records.find? other = some found
    rw [hfind]
    rw [Contents.set_values] at hplaintext
    by_cases hsame : other = secretId
    · subst hsame
      rw [Function.update_self] at hplaintext
      rw [if_pos rfl]
      exact hvalue (by rw [hplaintext]; rfl)
    · rw [Function.update_of_ne hsame] at hplaintext
      rw [if_neg hsame]
      exact h.covered other plaintext hplaintext

/-- What was sealed under a data key, and that under a master key. -/
theorem readable_seal (ideal : aes.Ideal) {row : SecretRecord} {value dataKey nonce nonce' : Bytes}
    (hvalue : value ≠ []) (hdataKey : dataKey ≠ []) (hnonce : nonce.length = 12)
    (hnonce' : nonce'.length = 12)
    (hciphertext : row.ciphertext =
      sealWith aes nonce dataKey value (valueContext row.id row.version))
    (hwrapped : row.wrappedDataKey =
      sealWith aes nonce' (masters row.keyVersion) dataKey (dekContext row.id row.keyVersion)) :
    Readable aes masters row value := by
  refine ⟨dataKey, hdataKey, ?_, ?_⟩
  · rw [hwrapped]
    exact openSealed_seal ideal hnonce' hdataKey _
  · rw [hciphertext]
    exact openSealed_seal ideal hnonce hvalue _

theorem insertOverride_same {db' : VaultDatabase} {row : PolicyOverride}
    (h : db.insertOverride row = .ok db') : SameSecrets db db' := by
  unfold VaultDatabase.insertOverride at h
  split at h
  · exact absurd h (by simp)
  · split at h
    · exact absurd h (by simp)
    · obtain rfl := Except.ok.inj h
      exact ⟨rfl, rfl, rfl, rfl⟩

theorem insertSecret_ok {db' : VaultDatabase} {row : SecretRecord} {policyOverride : Option String}
    {actions : List VaultAction} (h : db.insertSecret row policyOverride actions = .ok db') :
    Known db row.keyVersion ∧ ∃ records, db.secretRecords.insert? row = some records ∧
      SameSecrets { db with secretRecords := records } db' := by
  unfold VaultDatabase.insertSecret at h
  obtain ⟨db₁, hrecord, h⟩ := bind_eq_ok.mp h
  obtain ⟨db₂, hoverride, h⟩ := bind_eq_ok.mp h
  have hacl : SameSecrets db₂ db' :=
    foldlM_ok SameSecrets SameSecrets.refl SameSecrets.trans
      (fun hacl => Untouched.sameSecrets_insertAcl hacl) h
  have hsame : SameSecrets db₁ db₂ := by
    cases policyOverride with
    | none =>
      obtain rfl := Except.ok.inj hoverride
      exact .refl _
    | some policy => exact insertOverride_same hoverride
  unfold VaultDatabase.insertRecord at hrecord
  split at hrecord
  · exact absurd hrecord (by simp)
  · rename_i hchecks
    obtain ⟨-, hrest⟩ := not_or.mp hchecks
    obtain ⟨hversion, -⟩ := not_or.mp hrest
    split at hrecord
    · exact absurd hrecord (by simp)
    · rename_i records hinsert
      obtain rfl := Except.ok.inj hrecord
      refine ⟨?_, records, hinsert, hsame.trans hacl⟩
      exact Option.ne_none_iff_exists'.mp fun hnone => hversion (by rw [hnone]; rfl)

theorem updateSecret_ok {db' : VaultDatabase} {secretId : String} {expectedVersion : Int}
    {ciphertext wrapped : List Char} {keyVersion : ℕ} {time : Moment}
    (h : db.updateSecret secretId expectedVersion ciphertext wrapped keyVersion time = .ok db') :
    Known db keyVersion ∧ ∃ row records, db.secretRecords.find? secretId = some row ∧
      (∀ other, records.find? other = if other = secretId then
        some { row with
          ciphertext := ciphertext
          wrappedDataKey := wrapped
          keyVersion := keyVersion
          version := expectedVersion + 1
          updatedAt := time }
        else db.secretRecords.find? other) ∧
      db' = { db with secretRecords := records } := by
  unfold VaultDatabase.updateSecret at h
  split at h
  · exact absurd h (by simp)
  · rename_i row hrow
    split at h
    · exact absurd h (by simp)
    · split at h
      · exact absurd h (by simp)
      · rename_i hchecks
        obtain ⟨hversion, -⟩ := not_or.mp hchecks
        obtain rfl := Except.ok.inj h
        refine ⟨?_, row, _, hrow, fun other => ?_, rfl⟩
        · exact Option.ne_none_iff_exists'.mp fun hnone => hversion (by rw [hnone]; rfl)
        · rw [Table.find?_updateKey]
          by_cases hother : other = secretId
          · rw [if_pos hother, if_pos hother, hother, hrow]
            rfl
          · rw [if_neg hother, if_neg hother]

end Records

theorem urandom_ne_nil {length : ℕ} (hlength : 0 < length) {value : Bytes}
    (h : (urandom env.sources length).exec s = (.ok value, s')) : value ≠ [] := by
  rw [exec_urandom] at h
  obtain rfl := Except.ok.inj (Prod.mk.inj h).1
  intro hempty
  have hlong := env.sources.length_random s.draws length
  rw [hempty] at hlong
  exact absurd hlong (by rw [List.length_nil]; omega)

/-- A row is written, and an event after it. -/
theorem Sound.write (hs : Sound env.aes env.argon2 masters contents s)
    {records : Table SecretRecord SecretRecord.id} {secretId : String} {row : Option SecretRecord}
    {value : Option Bytes} {db : VaultDatabase} {event : AuditEvent} {a : Unit}
    (hfind : ∀ other, records.find? other =
      if other = secretId then row else s.database.secretRecords.find? other)
    (hrow : ∀ written, row = some written → Known s.database written.keyVersion ∧
      ∃ plaintext, value = some plaintext ∧ Readable env.aes masters written plaintext)
    (hvalue : value.isSome = true → ∃ written, row = some written)
    (hsame : SameSecrets { s.database with secretRecords := records } db)
    (hevent : (appendEvent env event).exec { s with database := db } = (.ok a, s')) :
    Extends masters masters s.database s'.database ∧
      Sound env.aes env.argon2 masters (contents.set secretId value) s' := by
  have hextends : Extends masters masters s.database
      { s.database with secretRecords := records } := ⟨fun _ h => ⟨h, rfl⟩, fun _ h => h⟩
  have hwritten : Sound env.aes env.argon2 masters (contents.set secretId value)
      { s with database := db } :=
    ⟨(hs.kept.write hfind hrow hvalue).same hsame,
      (hs.ring.extends hextends).extends hsame.extends⟩
  have huntouched : Untouched (appendEvent env event) := Untouched.appendEvent event
  have hquiet := huntouched { s with database := db }
  have hring := (ringRelation_ringKept env).appendEvent event { s with database := db }
  rw [hevent] at hquiet hring
  exact ⟨(hextends.trans hsame.extends).trans hquiet.extends, hwritten.quiet hquiet hring⟩

/-- What a committed secret is described by. -/
theorem getMetadata_ok (hs : Sound env.aes env.argon2 masters contents s) {secretId : String}
    {value : Bytes} (hvalue : contents.values secretId = some value) :
    ∃ metadata, (Effect.query (ε := VaultError) fun s : VaultState =>
      s.database.getMetadata secretId).exec s = (.ok metadata, s) := by
  obtain ⟨row, hrow⟩ := hs.kept.covered secretId value hvalue
  refine ⟨s.database.metadata row, ?_⟩
  rw [Effect.exec_query]
  unfold VaultDatabase.getMetadata
  rw [hrow]

/-- **Creating** commits the value. -/
theorem KeepsAt.createRecord (ideal : env.aes.Ideal)
    (hs : Sound env.aes env.argon2 masters contents s)
    {secret : NewSecret} (hvalue : secret.value ≠ []) :
    KeepsAt env.aes env.argon2 masters contents s (createRecord env secret)
      fun contents => contents.set secret.secretId (some secret.value) := by
  have rule := ringRelation_ringKept env
  unfold Vault.createRecord
  refine KeepsAt.quiet_bind hs Untouched.active rule.active fun entry s₁ hactive _ hs₁ => ?_
  obtain ⟨-, hmaster⟩ := active_sound hs hactive
  refine KeepsAt.quiet_bind hs₁ (Untouched.urandom 32) (rule.urandom 32)
    fun dataKey s₂ hdraw _ hs₂ => ?_
  have hdataKey := urandom_ne_nil (by decide) hdraw
  refine KeepsAt.quiet_bind hs₂ Untouched.now rule.now fun time s₃ _ _ hs₃ => ?_
  refine KeepsAt.quiet_bind hs₃ (Untouched.sealBytes _ _ _) (rule.sealBytes _ _ _)
    fun ciphertext s₄ hciphertext _ hs₄ => ?_
  obtain ⟨nonce, hnonce, rfl⟩ := sealBytes_ok hciphertext
  refine KeepsAt.quiet_bind hs₄ (Untouched.sealBytes _ _ _) (rule.sealBytes _ _ _)
    fun wrapped s₅ hwrapped _ hs₅ => ?_
  obtain ⟨nonce', hnonce', rfl⟩ := sealBytes_ok hwrapped
  refine KeepsAt.then_read (KeepsAt.transaction hs₅
    (rule.bind (rule.statement (.insertSecret _ _ _)) fun _ => rule.appendEvent _)
    fun a s₆ hbody => ?_) fun a s₆ masters₆ hs₆ => getMetadata_ok hs₆ (Function.update_self _ _ _)
  obtain ⟨u, s₇, hinsert, hevent⟩ := Effect.exec_bind_ok.mp hbody
  obtain ⟨db, hdb, rfl⟩ := exec_statement_ok.mp hinsert
  obtain ⟨hknown, records, hrecords, hsame⟩ := insertSecret_ok hdb
  refine ⟨masters, hs₅.write (Table.find?_insert hrecords) (fun written hwritten => ?_)
    (fun _ => ⟨_, rfl⟩) hsame hevent⟩
  obtain rfl := Option.some.inj hwritten
  refine ⟨hknown, secret.value, rfl, readable_seal ideal hvalue hdataKey hnonce hnonce' rfl ?_⟩
  show sealWith _ _ entry.2 _ _ = _
  rw [hmaster]

/-- **Updating** commits the value. -/
theorem KeepsAt.updateRecord (ideal : env.aes.Ideal)
    (hs : Sound env.aes env.argon2 masters contents s)
    {secretId : String} {value : Bytes} (hvalue : value ≠ []) {expectedVersion : Int}
    {actor : String} :
    KeepsAt env.aes env.argon2 masters contents s
      (updateRecord env secretId value expectedVersion actor)
      fun contents => contents.set secretId (some value) := by
  have rule := ringRelation_ringKept env
  unfold Vault.updateRecord
  refine KeepsAt.quiet_bind hs Untouched.active rule.active fun entry s₁ hactive _ hs₁ => ?_
  obtain ⟨-, hmaster⟩ := active_sound hs hactive
  refine KeepsAt.quiet_bind hs₁ (Untouched.urandom 32) (rule.urandom 32)
    fun dataKey s₂ hdraw _ hs₂ => ?_
  have hdataKey := urandom_ne_nil (by decide) hdraw
  refine KeepsAt.quiet_bind hs₂ Untouched.now rule.now fun time s₃ _ _ hs₃ => ?_
  refine KeepsAt.then_read (KeepsAt.transaction hs₃
    (rule.bind (rule.sealBytes _ _ _) fun _ => rule.bind (rule.sealBytes _ _ _) fun _ =>
      rule.bind (rule.statement (.updateSecret _ _ _ _ _ _)) fun _ => rule.appendEvent _)
    fun a s' hbody => ?_) fun a s₆ masters₆ hs₆ => getMetadata_ok hs₆ (Function.update_self _ _ _)
  obtain ⟨ciphertext, s₄, hciphertext, hbody⟩ := Effect.exec_bind_ok.mp hbody
  obtain ⟨wrapped, s₅, hwrapped, hbody⟩ := Effect.exec_bind_ok.mp hbody
  obtain ⟨u, s₆, hupdate, hevent⟩ := Effect.exec_bind_ok.mp hbody
  obtain ⟨hsame₄, hs₄⟩ := hs₃.after hciphertext (Untouched.sealBytes _ _ _) (rule.sealBytes _ _ _)
  obtain ⟨hsame₅, hs₅⟩ := hs₄.after hwrapped (Untouched.sealBytes _ _ _) (rule.sealBytes _ _ _)
  obtain ⟨nonce, hnonce, rfl⟩ := sealBytes_ok hciphertext
  obtain ⟨nonce', hnonce', rfl⟩ := sealBytes_ok hwrapped
  obtain ⟨db, hdb, rfl⟩ := exec_statement_ok.mp hupdate
  obtain ⟨hknown, row, records, hrow, hfind, rfl⟩ := updateSecret_ok hdb
  refine ⟨masters, And.imp_left (hsame₄.trans hsame₅).extends.trans
    (hs₅.write hfind (fun written hwritten => ?_) (fun _ => ⟨_, rfl⟩) (.refl _) hevent)⟩
  obtain rfl := Option.some.inj hwritten
  refine ⟨hknown, value, rfl, readable_seal ideal hvalue hdataKey hnonce hnonce' ?_ ?_⟩
  · show sealWith _ _ _ _ _ = sealWith _ _ _ _ (valueContext row.id _)
    rw [Table.key_of_find? hrow]
  · show sealWith _ _ entry.2 _ _ = sealWith _ _ _ _ (dekContext row.id _)
    rw [hmaster, Table.key_of_find? hrow]

/-- **Deleting** commits that there is no value. -/
theorem KeepsAt.deleteRecord (hs : Sound env.aes env.argon2 masters contents s)
    {secretId actor : String} :
    KeepsAt env.aes env.argon2 masters contents s (deleteRecord env secretId actor)
      fun contents => contents.set secretId none := by
  have rule := ringRelation_ringKept env
  unfold Vault.deleteRecord
  refine KeepsAt.quiet_bind hs Untouched.now rule.now fun time s₁ _ _ hs₁ => ?_
  refine KeepsAt.transaction hs₁ (rule.bind (rule.statement (.removeSecret _)) fun _ =>
    rule.appendEvent _) fun a s' hbody => ?_
  obtain ⟨u, s₂, hremove, hevent⟩ := Effect.exec_bind_ok.mp hbody
  obtain ⟨db, hdb, rfl⟩ := exec_statement_ok.mp hremove
  unfold VaultDatabase.removeSecret at hdb
  split at hdb
  · exact absurd hdb (by simp)
  · obtain rfl := Except.ok.inj hdb
    have hsame : SameSecrets
        { s₁.database with
          secretRecords := s₁.database.secretRecords.deleteWhere fun row => row.id = secretId }
        (s₁.database.deleteSecret secretId) := ⟨rfl, rfl, rfl, rfl⟩
    exact ⟨masters, hs₁.write (Table.find?_deleteKey _ _) (fun _ h => absurd h (by simp))
      (fun h => absurd h (by simp)) hsame hevent⟩

end Zhixu.Vault.Decryptability
