import Zhixu.Vault.Quiet

/-!
# What a vault is to keep

The abstract view of the vault is two things: the passphrase that opens it, and for every secret the
plaintext that was last committed (`Contents`). The database realises it through four layers of keys
that change one by one, so the invariant (`Kept`) goes through the master keys, a ghost: every stored
version opens to its master key under the passphrase, and every record opens to its plaintext under
the master key of whatever version it is wrapped with. A key ring holds some of the master keys
(`RingSound`); it may be that of another process, and older than the database.

What code does to a sound state is said by `KeepsAt`: it ends in a sound state, with master keys that
extend the old ones, and with other contents exactly if it succeeds. Code that is `Untouched` keeps the
contents, so what has to be looked at in an operation is its transaction alone.
-/

open Framework

namespace Zhixu.Vault.Decryptability

/-- The passphrase, once there is one, and the plaintexts. -/
structure Contents where
  passphrase : Option String := none
  values : String → Option Bytes := fun _ => none

/-- A secret was committed, or deleted. -/
def Contents.set (contents : Contents) (secretId : String) (value : Option Bytes) : Contents :=
  { contents with values := Function.update contents.values secretId value }

/-- Another passphrase was committed. -/
def Contents.opensWith (contents : Contents) (passphrase : String) : Contents :=
  { contents with passphrase := some passphrase }

@[simp] theorem Contents.set_values (contents : Contents) (secretId : String)
    (value : Option Bytes) :
    (contents.set secretId value).values = Function.update contents.values secretId value := rfl

/-! ### The invariant -/

/-- The version of the master key is stored. -/
def Known (db : VaultDatabase) (version : ℕ) : Prop :=
  ∃ row, db.keyVersions.find? version = some row

section Sound

variable (aes : AesGcm) (argon2 : Argon2) (masters : ℕ → Bytes)

/-- A row of the key versions opens to its master key. -/
def Opens (unlockKey : Bytes) (db : VaultDatabase) : Prop :=
  ∀ version row, db.keyVersions.find? version = some row →
    openSealed aes unlockKey row.wrappedMasterKey (masterContext version) = .ok (masters version)

/-- The passphrase opens all versions. -/
structure Unlockable (passphrase : String) (db : VaultDatabase) : Prop where
  long : 12 ≤ passphrase.length
  first : Known db 1
  positive : ∀ version, Known db version → 1 ≤ version ∧ masters version ≠ []
  derivation : ∃ salt parameters, db.argon2Salt = some (Base64.encode salt) ∧
    db.argon2Parameters = some parameters ∧
      Opens aes masters (argon2.hash parameters passphrase salt) db

/-- The record opens to the plaintext. -/
def Readable (row : SecretRecord) (value : Bytes) : Prop :=
  ∃ dataKey, dataKey ≠ [] ∧
    openSealed aes (masters row.keyVersion) row.wrappedDataKey
      (dekContext row.id row.keyVersion) = .ok dataKey ∧
    openSealed aes dataKey row.ciphertext (valueContext row.id row.version) = .ok value

/-- The database has the contents. -/
structure Kept (contents : Contents) (db : VaultDatabase) : Prop where
  fresh : contents.passphrase = none → ∀ version, ¬ Known db version
  unlocks : ∀ passphrase, contents.passphrase = some passphrase →
    Unlockable aes argon2 masters passphrase db
  stored : ∀ secretId row, db.secretRecords.find? secretId = some row →
    Known db row.keyVersion ∧
      ∃ value, contents.values secretId = some value ∧ Readable aes masters row value
  covered : ∀ secretId value, contents.values secretId = some value →
    ∃ row, db.secretRecords.find? secretId = some row

/-- A ring holds master keys of the database, the first among them, and derives as it does. -/
structure RingSound (db : VaultDatabase) (ring : KeyringState) : Prop where
  entries : ∀ version entry, ring.keys.find? version = some entry →
    Known db version ∧ entry.2 = masters version
  first : ring.keys ≠ ∅ → ∃ entry, ring.keys.find? 1 = some entry
  parameters : ring.keys ≠ ∅ → db.argon2Parameters = some ring.parameters

/-- The state as one process sees it. -/
structure Sound (contents : Contents) (s : VaultState) : Prop where
  kept : Kept aes argon2 masters contents s.database
  ring : RingSound masters s.database s.keyring

end Sound

/-- The versions that are known stay, with their keys. -/
structure Extends (masters masters' : ℕ → Bytes) (db db' : VaultDatabase) : Prop where
  known : ∀ version, Known db version → Known db' version ∧ masters' version = masters version
  parameters : ∀ parameters, db.argon2Parameters = some parameters →
    db'.argon2Parameters = some parameters

theorem Extends.refl (masters : ℕ → Bytes) (db : VaultDatabase) : Extends masters masters db db :=
  ⟨fun _ h => ⟨h, rfl⟩, fun _ h => h⟩

theorem Extends.trans {masters masters' masters'' : ℕ → Bytes} {db db' db'' : VaultDatabase}
    (h : Extends masters masters' db db') (h' : Extends masters' masters'' db' db'') :
    Extends masters masters'' db db'' := by
  refine ⟨fun version hknown => ?_, fun parameters hstored => h'.parameters _ (h.parameters _ hstored)⟩
  obtain ⟨hknown', hmaster⟩ := h.known version hknown
  obtain ⟨hknown'', hmaster'⟩ := h'.known version hknown'
  exact ⟨hknown'', hmaster'.trans hmaster⟩

/-- A ring of another process stays sound. -/
theorem RingSound.extends {masters masters' : ℕ → Bytes} {db db' : VaultDatabase}
    {ring : KeyringState} (h : RingSound masters db ring) (hext : Extends masters masters' db db') :
    RingSound masters' db' ring where
  entries version entry hfind := by
    obtain ⟨hknown, hmaster⟩ := h.entries version entry hfind
    obtain ⟨hknown', hsame⟩ := hext.known version hknown
    exact ⟨hknown', hmaster.trans hsame.symm⟩
  first := h.first
  parameters hne := hext.parameters _ (h.parameters hne)

theorem ringSound_empty {masters : ℕ → Bytes} {db : VaultDatabase} {ring : KeyringState}
    (h : ring.keys = ∅) : RingSound masters db ring where
  entries version entry hfind := by
    rw [h] at hfind
    exact absurd hfind (by simp)
  first hne := absurd h hne
  parameters hne := absurd h hne

theorem RingSound.kept {masters : ℕ → Bytes} {db : VaultDatabase} {ring ring' : KeyringState}
    (h : RingSound masters db ring) (hkept : RingKept ring ring') : RingSound masters db ring' := by
  rcases hkept.keys with hsame | hempty
  · refine ⟨?_, ?_, ?_⟩
    · rw [hsame]
      exact h.entries
    · rw [hsame]
      exact h.first
    · rw [hsame, hkept.parameters]
      exact h.parameters
  · exact ringSound_empty hempty

section Same

variable {aes : AesGcm} {argon2 : Argon2} {masters : ℕ → Bytes} {contents : Contents}
  {db db' : VaultDatabase}

theorem SameSecrets.known (h : SameSecrets db db') {version : ℕ} :
    Known db' version ↔ Known db version := by
  unfold Known
  rw [h.keyVersions]

theorem SameSecrets.extends (h : SameSecrets db db') : Extends masters masters db db' := by
  refine ⟨fun version hknown => ⟨h.known.mpr hknown, rfl⟩, fun parameters hstored => ?_⟩
  rw [h.argon2Parameters]
  exact hstored

theorem Unlockable.same {passphrase : String} (h : Unlockable aes argon2 masters passphrase db)
    (hsame : SameSecrets db db') : Unlockable aes argon2 masters passphrase db' := by
  obtain ⟨salt, parameters, hsalt, hparameters, hopens⟩ := h.derivation
  refine ⟨h.long, hsame.known.mpr h.first, fun version hknown => h.positive version
    (hsame.known.mp hknown), salt, parameters, ?_, ?_, ?_⟩
  · rw [hsame.argon2Salt]
    exact hsalt
  · rw [hsame.argon2Parameters]
    exact hparameters
  · unfold Opens
    rw [hsame.keyVersions]
    exact hopens

theorem Kept.same (h : Kept aes argon2 masters contents db) (hsame : SameSecrets db db') :
    Kept aes argon2 masters contents db' where
  fresh hnone version hknown := h.fresh hnone version (hsame.known.mp hknown)
  unlocks passphrase hpassphrase := (h.unlocks passphrase hpassphrase).same hsame
  stored secretId row hfind := by
    rw [hsame.secretRecords] at hfind
    obtain ⟨hknown, hvalue⟩ := h.stored secretId row hfind
    exact ⟨hsame.known.mpr hknown, hvalue⟩
  covered secretId value hvalue := by
    rw [hsame.secretRecords]
    exact h.covered secretId value hvalue

end Same

/-! ### What code does to a sound state -/

section Keeps

variable (aes : AesGcm) (argon2 : Argon2)

/-- The contents after code that changes them if it succeeds. -/
def settled {α : Type} (commit : Contents → Contents) (contents : Contents) :
    Except VaultError α → Contents
  | .ok _ => commit contents
  | .error _ => contents

/-- From a sound state the code ends in a sound one. -/
def KeepsAt {α : Type} (masters : ℕ → Bytes) (contents : Contents) (s : VaultState) (m : VaultM α)
    (commit : Contents → Contents) : Prop :=
  ∃ masters', Extends masters masters' s.database (m.exec s).2.database ∧
    Sound aes argon2 masters' (settled commit contents (m.exec s).1) (m.exec s).2

end Keeps

section Rules

variable {aes : AesGcm} {argon2 : Argon2} {env : Environment} {masters : ℕ → Bytes}
  {contents : Contents} {commit : Contents → Contents} {s : VaultState} {α β : Type}

/-- The ring keeps its keys or loses them. -/
abbrev KeepsRing (m : VaultM α) : Prop :=
  Effect.Within (fun s s' => RingKept s.keyring s'.keyring) m

theorem Sound.quiet (h : Sound aes argon2 masters contents s) {s' : VaultState}
    (hsame : SameSecrets s.database s'.database) (hring : RingKept s.keyring s'.keyring) :
    Sound aes argon2 masters contents s' where
  kept := h.kept.same hsame
  ring := (h.ring.kept hring).extends hsame.extends

/-- What quiet code leaves, once it is done. -/
theorem Sound.after (h : Sound aes argon2 masters contents s) {m : VaultM α}
    {r : Except VaultError α} {s' : VaultState} (hexec : m.exec s = (r, s')) (hm : Untouched m)
    (hring : KeepsRing m) :
    SameSecrets s.database s'.database ∧ Sound aes argon2 masters contents s' := by
  have hsame := hm s
  have hkept := hring s
  rw [hexec] at hsame hkept
  exact ⟨hsame, h.quiet hsame hkept⟩

theorem settled_id (r : Except VaultError α) : settled (fun contents => contents) contents r =
    contents := by
  cases r <;> rfl

/-- Quiet code keeps everything. -/
theorem KeepsAt.of_quiet (hs : Sound aes argon2 masters contents s) {m : VaultM α}
    (hm : Untouched m) (hring : KeepsRing m) :
    KeepsAt aes argon2 masters contents s m fun contents => contents := by
  refine ⟨masters, (hm s).extends, ?_⟩
  rw [settled_id]
  exact hs.quiet (hm s) (hring s)

/-- **Sequences.** Code that keeps the contents, and then code that may change them. -/
theorem KeepsAt.bind {m : VaultM α} {f : α → VaultM β}
    (hm : KeepsAt aes argon2 masters contents s m fun contents => contents)
    (hf : ∀ a s₁ masters₁, m.exec s = (.ok a, s₁) → Sound aes argon2 masters₁ contents s₁ →
      Extends masters masters₁ s.database s₁.database →
      KeepsAt aes argon2 masters₁ contents s₁ (f a) commit) :
    KeepsAt aes argon2 masters contents s (m >>= f) commit := by
  obtain ⟨masters₁, hext, hsound⟩ := hm
  rw [settled_id] at hsound
  unfold KeepsAt
  rw [Effect.exec_bind]
  rcases hexec : m.exec s with ⟨r, s₁⟩
  rw [hexec] at hext hsound
  cases r with
  | error e => exact ⟨masters₁, hext, hsound⟩
  | ok a =>
    obtain ⟨masters₂, hext', hsound'⟩ := hf a s₁ masters₁ hexec hsound hext
    exact ⟨masters₂, hext.trans hext', hsound'⟩

/-- A sequence whose first half is quiet. -/
theorem KeepsAt.quiet_bind (hs : Sound aes argon2 masters contents s) {m : VaultM α}
    {f : α → VaultM β} (hm : Untouched m) (hring : KeepsRing m)
    (hf : ∀ a s₁, m.exec s = (.ok a, s₁) → SameSecrets s.database s₁.database →
      Sound aes argon2 masters contents s₁ → KeepsAt aes argon2 masters contents s₁ (f a) commit) :
    KeepsAt aes argon2 masters contents s (m >>= f) commit := by
  unfold KeepsAt
  have hsame := hm s
  have hkept := hring s
  rw [Effect.exec_bind]
  rcases hexec : m.exec s with ⟨r, s₁⟩
  rw [hexec] at hsame hkept
  cases r with
  | error e => exact ⟨masters, hsame.extends, hs.quiet hsame hkept⟩
  | ok a =>
    obtain ⟨masters₁, hext, hsound⟩ := hf a s₁ hexec hsame (hs.quiet hsame hkept)
    exact ⟨masters₁, hsame.extends.trans hext, hsound⟩

/-- A reading that raises or is used. -/
theorem KeepsAt.query_bind (hs : Sound aes argon2 masters contents s)
    {f : VaultState → Except VaultError α} {g : α → VaultM β}
    (hg : ∀ a, f s = .ok a → KeepsAt aes argon2 masters contents s (g a) commit) :
    KeepsAt aes argon2 masters contents s (Effect.query f >>= g) commit := by
  refine KeepsAt.quiet_bind hs (Untouched.query f) (fun s => .refl s.keyring)
    fun a s₁ hquery _ _ => ?_
  rw [Effect.exec_query] at hquery
  obtain ⟨ha, rfl⟩ := Prod.mk.inj hquery
  exact hg a ha

theorem KeepsAt.check_bind (hs : Sound aes argon2 masters contents s)
    {x : Except VaultError α} {g : α → VaultM β}
    (hg : ∀ a, x = .ok a → KeepsAt aes argon2 masters contents s (g a) commit) :
    KeepsAt aes argon2 masters contents s (Effect.check x >>= g) commit :=
  KeepsAt.query_bind hs hg

/-- A guard. -/
theorem KeepsAt.guarded (hs : Sound aes argon2 masters contents s) {c : Prop} [Decidable c]
    {e : VaultError} {m : VaultM α}
    (hm : ¬ c → KeepsAt aes argon2 masters contents s m commit) :
    KeepsAt aes argon2 masters contents s (if c then throw e else m) commit := by
  by_cases hc : c
  · rw [if_pos hc]
    exact ⟨masters, .refl _ _, hs⟩
  · rw [if_neg hc]
    exact hm hc

/-- A sequence whose second half reads what the first has committed. -/
theorem KeepsAt.then_read {m : VaultM α} {f : α → VaultM β}
    (hm : KeepsAt aes argon2 masters contents s m commit)
    (hf : ∀ a s₁ masters₁, Sound aes argon2 masters₁ (commit contents) s₁ →
      ∃ b, (f a).exec s₁ = (.ok b, s₁)) :
    KeepsAt aes argon2 masters contents s (m >>= f) commit := by
  obtain ⟨masters₁, hext, hsound⟩ := hm
  unfold KeepsAt
  rw [Effect.exec_bind]
  rcases hexec : m.exec s with ⟨r, s₁⟩
  rw [hexec] at hext hsound
  cases r with
  | error e => exact ⟨masters₁, hext, hsound⟩
  | ok a =>
    obtain ⟨b, hb⟩ := hf a s₁ masters₁ hsound
    simp only [hb]
    exact ⟨masters₁, hext, hsound⟩

/-- **Transactions.** A body that fails has no effect on the database, so it is enough to look at one
that succeeds. -/
theorem KeepsAt.transaction (hs : Sound aes argon2 masters contents s) {body : VaultM α}
    (hring : KeepsRing body)
    (hbody : ∀ a s₁, body.exec s = (.ok a, s₁) →
      ∃ masters', Extends masters masters' s.database s₁.database ∧
        Sound aes argon2 masters' (commit contents) s₁) :
    KeepsAt aes argon2 masters contents s (transaction body) commit := by
  have hkept := hring s
  unfold KeepsAt
  rw [exec_transaction]
  rcases hexec : body.exec s with ⟨r, s₁⟩
  rw [hexec] at hkept
  cases r with
  | error e => exact ⟨masters, Extends.refl _ _, hs.kept, hs.ring.kept hkept⟩
  | ok a => exact hbody a s₁ hexec

/-- A transaction, and what is done when it has committed. -/
theorem KeepsAt.transaction_bind (hs : Sound aes argon2 masters contents s) {body : VaultM α}
    {f : α → VaultM β} (hring : KeepsRing body)
    (hbody : ∀ a s₁, body.exec s = (.ok a, s₁) → ∃ b s₂ masters',
      (f a).exec s₁ = (.ok b, s₂) ∧ Extends masters masters' s.database s₂.database ∧
        Sound aes argon2 masters' (commit contents) s₂) :
    KeepsAt aes argon2 masters contents s (Vault.transaction body >>= f) commit := by
  have hkept := hring s
  unfold KeepsAt
  rw [Effect.exec_bind, exec_transaction]
  rcases hexec : body.exec s with ⟨r, s₁⟩
  rw [hexec] at hkept
  cases r with
  | error e => exact ⟨masters, Extends.refl _ _, hs.kept, hs.ring.kept hkept⟩
  | ok a =>
    obtain ⟨b, s₂, masters', hrest, hextends, hsound⟩ := hbody a s₁ hexec
    simp only [hrest]
    exact ⟨masters', hextends, hsound⟩

theorem KeepsAt.map {m : VaultM α} (h : KeepsAt aes argon2 masters contents s m commit)
    (f : α → β) : KeepsAt aes argon2 masters contents s (f <$> m) commit := by
  obtain ⟨masters', hext, hsound⟩ := h
  unfold KeepsAt
  rw [Effect.exec_map]
  rcases hexec : m.exec s with ⟨r, s₁⟩
  rw [hexec] at hext hsound
  cases r with
  | error e => exact ⟨masters', hext, hsound⟩
  | ok a => exact ⟨masters', hext, hsound⟩

/-- A handler that is quiet and raises again. -/
theorem KeepsAt.denied {Data Request : Type} {service : VaultService Data Request} {actor : String}
    {action : VaultAction} {secretId : String} {m : VaultM α}
    (h : KeepsAt aes argon2 masters contents s m commit) :
    KeepsAt aes argon2 masters contents s (service.orDenied actor action secretId m) commit := by
  obtain ⟨masters', hext, hsound⟩ := h
  unfold KeepsAt VaultService.orDenied
  rw [Effect.exec_tryCatch]
  rcases hexec : m.exec s with ⟨r, s₁⟩
  rw [hexec] at hext hsound
  cases r with
  | ok a => exact ⟨masters', hext, hsound⟩
  | error e =>
    have hquiet : Untouched (service.recordDenial actor action secretId) :=
      Untouched.recordDenial actor action secretId _
    have hkept : KeepsRing (service.recordDenial actor action secretId) :=
      (ringRelation_ringKept service.env).recordDenial actor action secretId _
    have hdenial := hquiet s₁
    have hring := hkept s₁
    simp only [Effect.exec_bind]
    rcases hdeny : (service.recordDenial actor action secretId).exec s₁ with ⟨r', s₂⟩
    rw [hdeny] at hdenial hring
    cases r' with
    | error e' => exact ⟨masters', hext.trans hdenial.extends, hsound.quiet hdenial hring⟩
    | ok u => exact ⟨masters', hext.trans hdenial.extends, hsound.quiet hdenial hring⟩

end Rules

end Zhixu.Vault.Decryptability
