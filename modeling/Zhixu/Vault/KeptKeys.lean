import Zhixu.Vault.KeptRecords

/-!
# What changing a key does to the contents

Four operations change keys and no plaintext. Wrapping the data keys again is a loop over the records as
they were when it began, so its invariant (`Wrapped`) is about these rows: each still has its plaintext,
and its ciphertext still stands. A new version adds a master key, wrapped under what the passphrase
derives; that this is the passphrase of all other versions is what the operation verifies before
(`unlockKey_eq`, since a sealed text opens under one key). Unlocking fills a ring with all master keys.
Changing the passphrase wraps all of them again (`WrappedAgain`) and then stores the other salt.

Initialising is the one operation that starts from nothing: a vault without versions has no records.
-/

open Framework

namespace Zhixu.Vault.Decryptability

variable {env : Environment} {masters : ℕ → Bytes} {contents : Contents} {s s' : VaultState}

/-! ### Wrapping the data keys again -/

/-- The rows that a loop was handed have their plaintexts, and their ciphertexts still stand. -/
structure Wrapped (aes : AesGcm) (masters : ℕ → Bytes) (contents : Contents)
    (rows : List SecretRecord) (db : VaultDatabase) : Prop where
  readable : ∀ row ∈ rows, ∃ value, contents.values row.id = some value ∧
    Readable aes masters row value
  stands : ∀ row ∈ rows, ∃ current, db.secretRecords.find? row.id = some current ∧
    current.ciphertext = row.ciphertext ∧ current.version = row.version

theorem wrapped_rows (hs : Sound env.aes env.argon2 masters contents s) :
    Wrapped env.aes masters contents s.database.secretRecords.rows s.database where
  readable row hrow := (hs.kept.stored row.id row (Table.find?_of_mem hrow)).2
  stands row hrow := ⟨row, Table.find?_of_mem hrow, rfl, rfl⟩

theorem setWrappedDataKey_ok {db db' : VaultDatabase} {secretId : String} {wrapped : List Char}
    {keyVersion : ℕ} {time : Moment}
    (h : db.setWrappedDataKey secretId wrapped keyVersion time = .ok db') :
    ∃ records, db' = { db with secretRecords := records } ∧
      ∀ other, records.find? other = if other = secretId then
        (db.secretRecords.find? secretId).map fun row =>
          { row with wrappedDataKey := wrapped, keyVersion := keyVersion, updatedAt := time }
        else db.secretRecords.find? other := by
  unfold VaultDatabase.setWrappedDataKey at h
  split at h
  · exact absurd h (by simp)
  · obtain rfl := Except.ok.inj h
    refine ⟨_, rfl, fun other => ?_⟩
    rw [Table.find?_updateKey]
    by_cases hother : other = secretId
    · rw [if_pos hother, if_pos hother, hother]
    · rw [if_neg hother, if_neg hother]

theorem interrupted_ok {fault : ℕ → Bool} {n : ℕ} {u : Unit}
    (h : (interrupted fault n).exec s = (.ok u, s')) : s' = s :=
  (Effect.exec_check_ok.mp h).2

/-- **One pass** keeps the contents, and what stands for the rows. -/
theorem sound_rewrapRow (ideal : env.aes.Ideal)
    (hs : Sound env.aes env.argon2 masters contents s) {rows : List SecretRecord}
    (hrows : Wrapped env.aes masters contents rows s.database) {fault : ℕ → Bool}
    {newKeyVersion : ℕ} {time : Moment} {entry : SecretRecord × ℕ} (hentry : entry.1 ∈ rows)
    (hnew : Known s.database newKeyVersion) {u : Unit}
    (h : (rewrapRow env fault newKeyVersion (masters newKeyVersion) time entry).exec s =
      (.ok u, s')) :
    Extends masters masters s.database s'.database ∧
      Sound env.aes env.argon2 masters contents s' ∧
      Wrapped env.aes masters contents rows s'.database := by
  have rule := ringRelation_ringKept env
  unfold rewrapRow at h
  obtain ⟨master, s₁, hkey, hopening⟩ := Effect.exec_bind_ok.mp h
  obtain ⟨-, rfl⟩ := key_sound hs hkey
  obtain ⟨hsame₁, hs₁⟩ := hs.after hkey (Untouched.key _) (rule.key _)
  obtain ⟨dataKey, s₂, hopen, hsealing⟩ := Effect.exec_bind_ok.mp hopening
  obtain ⟨hopened, rfl⟩ := Effect.exec_check_ok.mp hopen
  obtain ⟨wrapped, s₃, hseal, hwriting⟩ := Effect.exec_bind_ok.mp hsealing
  obtain ⟨hsame₃, hs₃⟩ := hs₁.after hseal (Untouched.sealBytes _ _ _) (rule.sealBytes _ _ _)
  obtain ⟨nonce, hnonce, rfl⟩ := sealBytes_ok hseal
  obtain ⟨u₄, s₄, hfault, hwrite⟩ := Effect.exec_bind_ok.mp hwriting
  obtain rfl := interrupted_ok hfault
  obtain ⟨db, hdb, rfl⟩ := exec_statement_ok.mp hwrite
  obtain ⟨records, rfl, hfind⟩ := setWrappedDataKey_ok hdb
  have hsame := hsame₁.trans hsame₃
  obtain ⟨value, hvalue, dataKey', hdataKey, hopened', htext⟩ := hrows.readable entry.1 hentry
  obtain ⟨current, hcurrent, hciphertext, hversion⟩ := hrows.stands entry.1 hentry
  -- the data key that the pass has read is the one of the plaintext
  obtain rfl : dataKey = dataKey' := Except.ok.inj (hopened.symm.trans hopened')
  rw [hsame.secretRecords, hcurrent] at hfind
  have hid := Table.key_of_find? hcurrent
  have hkept : Kept env.aes env.argon2 masters contents
      { s₄.database with secretRecords := records } := by
    rw [← contents.set_self entry.1.id, hvalue]
    refine hs₃.kept.write (by rwa [hsame.secretRecords]) (fun written hwritten => ?_)
      fun _ => ⟨_, rfl⟩
    obtain rfl := Option.some.inj hwritten
    refine ⟨hsame.known.mpr hnew, value, rfl, dataKey, hdataKey, ?_, ?_⟩
    · show openSealed _ _ _ (dekContext current.id _) = _
      rw [hid]
      exact openSealed_seal ideal hnonce hdataKey _
    · show openSealed _ _ current.ciphertext (valueContext current.id current.version) = _
      rw [hid, hciphertext, hversion]
      exact htext
  have hextends : Extends masters masters s₄.database
      { s₄.database with secretRecords := records } := ⟨fun _ hknown => ⟨hknown, rfl⟩, fun _ h => h⟩
  refine ⟨hsame.extends.trans hextends, ⟨hkept, hs₃.ring.extends hextends⟩, hrows.readable, ?_⟩
  intro row hrow
  obtain ⟨stood, hstood, hstoodText, hstoodVersion⟩ := hrows.stands row hrow
  show ∃ found, records.find? row.id = some found ∧ _
  rw [hfind]
  by_cases hsameRow : row.id = entry.1.id
  · rw [if_pos hsameRow]
    rw [hsameRow, hcurrent] at hstood
    obtain rfl := Option.some.inj hstood
    exact ⟨_, rfl, hstoodText, hstoodVersion⟩
  · rw [if_neg hsameRow]
    exact ⟨stood, hstood, hstoodText, hstoodVersion⟩

theorem sound_rewrapRows (ideal : env.aes.Ideal) {rows : List SecretRecord} {fault : ℕ → Bool}
    {newKeyVersion : ℕ} {time : Moment} {entries : List (SecretRecord × ℕ)}
    (hentries : ∀ entry ∈ entries, entry.1 ∈ rows)
    (hs : Sound env.aes env.argon2 masters contents s)
    (hrows : Wrapped env.aes masters contents rows s.database)
    (hnew : Known s.database newKeyVersion) {u : Unit}
    (h : (Effect.forEach entries
      (rewrapRow env fault newKeyVersion (masters newKeyVersion) time)).exec s = (.ok u, s')) :
    Extends masters masters s.database s'.database ∧
      Sound env.aes env.argon2 masters contents s' := by
  induction entries generalizing s with
  | nil =>
    obtain rfl := (Prod.mk.inj h).2
    exact ⟨.refl _ _, hs⟩
  | cons entry entries ih =>
    rw [Effect.exec_forEach_cons] at h
    rcases hpass : (rewrapRow env fault newKeyVersion (masters newKeyVersion) time entry).exec s
      with ⟨r, s₁⟩
    rw [hpass] at h
    cases r with
    | error e => exact absurd (Prod.mk.inj h).1 (by simp)
    | ok u₁ =>
      obtain ⟨hextends, hs₁, hrows₁⟩ :=
        sound_rewrapRow ideal hs hrows (hentries entry List.mem_cons_self) hnew hpass
      obtain ⟨hextends', hs'⟩ := ih (fun other hother => hentries other (List.mem_cons_of_mem _ hother))
        hs₁ hrows₁ (hextends.known _ hnew).1 h
      exact ⟨hextends.trans hextends', hs'⟩

/-- **Wrapping all data keys again** changes no plaintext, wherever it is interrupted. -/
theorem KeepsAt.rewrapDataKeys (ideal : env.aes.Ideal)
    (hs : Sound env.aes env.argon2 masters contents s) {newKeyVersion : ℕ} {actor : String}
    {fault : ℕ → Bool} :
    KeepsAt env.aes env.argon2 masters contents s (rewrapDataKeys env newKeyVersion actor fault)
      fun contents => contents := by
  have rule := ringRelation_ringKept env
  unfold Vault.rewrapDataKeys
  refine KeepsAt.quiet_bind hs (Untouched.key _) (rule.key _) fun master s₁ hkey hsame₁ hs₁ => ?_
  obtain ⟨hnew, rfl⟩ := key_sound hs hkey
  refine KeepsAt.quiet_bind hs₁ Untouched.now rule.now fun time s₂ _ hsame₂ hs₂ => ?_
  refine KeepsAt.transaction hs₂ (rule.bind (rule.reads _) fun rows =>
    rule.bind (rule.forEach _ fun entry => rule.rewrapRow _ _ _ _ _) fun _ =>
      rule.bind (rule.check _) fun _ => rule.appendEvent _) fun a s' hbody => ?_
  rw [Effect.exec_reads_bind] at hbody
  obtain ⟨u, s₃, hloop, hrest⟩ := Effect.exec_bind_ok.mp hbody
  obtain ⟨u', s₄, hfault, hevent⟩ := Effect.exec_bind_ok.mp hrest
  obtain rfl := interrupted_ok hfault
  have hmem : ∀ entry ∈ s₂.database.secretRecords.rows.zipIdx,
      entry.1 ∈ s₂.database.secretRecords.rows := fun entry hentry => List.fst_mem_of_mem_zipIdx hentry
  have hnew₂ := hsame₂.known.mpr (hsame₁.known.mpr hnew)
  obtain ⟨hextends, hs₃⟩ := sound_rewrapRows ideal hmem hs₂ (wrapped_rows hs₂) hnew₂ hloop
  obtain ⟨hsame', hs'⟩ := hs₃.after hevent (Untouched.appendEvent _) (rule.appendEvent _)
  exact ⟨masters, hextends.trans hsame'.extends, hs'⟩

/-! ### A new version of the master key -/

/-- The passphrase that is committed opens every version, and no other key does. -/
theorem master_of_open (ideal : env.aes.Ideal) {db : VaultDatabase} {unlockKey unlockKey' : Bytes}
    (hopens : Opens env.aes masters unlockKey db) {row : KeyVersion}
    (hrow : db.keyVersions.find? row.version = some row) {master : Bytes}
    (h : openSealed env.aes unlockKey' row.wrappedMasterKey (masterContext row.version) =
      .ok master) : unlockKey' = unlockKey ∧ master = masters row.version := by
  have hopen := hopens row.version row hrow
  obtain rfl := openSealed_key ideal hopen h
  exact ⟨rfl, Except.ok.inj (h.symm.trans hopen)⟩

theorem keyVersionRows_iff {db : VaultDatabase} {row : KeyVersion} :
    row ∈ db.keyVersionRows ↔ db.keyVersions.find? row.version = some row := by
  unfold VaultDatabase.keyVersionRows
  rw [Table.mem_select]
  constructor
  · rintro ⟨hrow, -⟩
    exact Table.find?_of_mem hrow
  · intro hfind
    exact ⟨Table.mem_of_find? hfind, rfl⟩

/-- What a list of rows opened to. -/
theorem openMasters_ok {unlockKey : Bytes} {rows : List KeyVersion} {keys : List (ℕ × Bytes)}
    (h : openMasters env unlockKey rows = .ok keys) :
    (∀ row ∈ rows, ∃ master, (row.version, master) ∈ keys ∧
      openSealed env.aes unlockKey row.wrappedMasterKey (masterContext row.version) = .ok master) ∧
    ∀ entry ∈ keys, ∃ row ∈ rows, row.version = entry.1 ∧
      openSealed env.aes unlockKey row.wrappedMasterKey (masterContext row.version) =
        .ok entry.2 := by
  have hall := mapM_eq_ok.mp h
  clear h
  induction hall with
  | nil =>
    exact ⟨fun _ hrow => absurd hrow List.not_mem_nil, fun _ hkey => absurd hkey List.not_mem_nil⟩
  | @cons row entry rows keys hopen _ ih =>
    obtain ⟨master, hmaster, hentry⟩ := bind_eq_ok.mp hopen
    obtain rfl := Except.ok.inj hentry
    constructor
    · intro other hother
      rcases List.mem_cons.mp hother with rfl | hother
      · exact ⟨master, List.mem_cons_self, hmaster⟩
      · obtain ⟨found, hfound, hopened⟩ := ih.1 other hother
        exact ⟨found, List.mem_cons_of_mem _ hfound, hopened⟩
    · intro other hother
      rcases List.mem_cons.mp hother with rfl | hother
      · exact ⟨row, List.mem_cons_self, rfl, hmaster⟩
      · obtain ⟨found, hfound, hopened⟩ := ih.2 other hother
        exact ⟨found, List.mem_cons_of_mem _ hfound, hopened⟩

theorem nextVersion_ok {rows : List KeyVersion} {version : ℕ} (h : nextVersion rows = .ok version) :
    1 ≤ version ∧ ∀ row ∈ rows, row.version < version := by
  unfold nextVersion at h
  split at h
  · exact absurd h (by simp)
  · rename_i newest hmax
    obtain rfl := Except.ok.inj h
    refine ⟨Nat.succ_pos _, fun row hrow => ?_⟩
    exact Nat.lt_succ_of_le ((List.max?_eq_some_iff.mp hmax).2 _ (List.mem_map_of_mem hrow))

theorem insertKeyVersion_ok {db db' : VaultDatabase} {row : KeyVersion}
    (h : db.insertKeyVersion row = .ok db') : ∃ keyVersions,
      db' = { db with keyVersions := keyVersions } ∧
      ∀ version, keyVersions.find? version =
        if version = row.version then some row else db.keyVersions.find? version := by
  unfold VaultDatabase.insertKeyVersion at h
  split at h
  · exact absurd h (by simp)
  · split at h
    · exact absurd h (by simp)
    · rename_i keyVersions hinsert
      obtain rfl := Except.ok.inj h
      exact ⟨keyVersions, rfl, Table.find?_insert hinsert⟩

theorem storedSalt_encode {db : VaultDatabase} {salt : Bytes}
    (h : db.argon2Salt = some (Base64.encode salt)) : storedSalt db = .ok salt := by
  unfold storedSalt
  rw [h]
  simp only [Base64.decode_encode]

theorem storedParameters_some {db : VaultDatabase} {parameters : Argon2Parameters}
    (h : db.argon2Parameters = some parameters) : storedParameters db = .ok parameters := by
  unfold storedParameters
  rw [h]

/-- A ring that is open belongs to a vault with a passphrase. -/
theorem Sound.exists_passphrase (hs : Sound env.aes env.argon2 masters contents s)
    (hopen : s.keyring.keys ≠ ∅) : ∃ passphrase, contents.passphrase = some passphrase := by
  obtain ⟨entry, hfirst⟩ := hs.ring.first hopen
  obtain ⟨hknown, -⟩ := hs.ring.entries 1 entry hfirst
  exact Option.ne_none_iff_exists'.mp fun hnone => hs.kept.fresh hnone 1 hknown

/-- A ring that was found open. -/
theorem keys_of_sealed_false {closed : Bool} (h : (sealed env).exec s = (.ok closed, s'))
    (hclosed : ¬ closed = true) : s'.keyring.keys ≠ ∅ := by
  rw [exec_sealed] at h
  obtain ⟨hempty, rfl⟩ := Prod.mk.inj h
  intro hkeys
  refine hclosed ?_
  rw [← Except.ok.inj hempty, hkeys]
  rfl

/-- A version is added to those that the passphrase opens, which may have been retired. -/
theorem Kept.addVersion {db : VaultDatabase} (h : Kept env.aes env.argon2 masters contents db)
    {passphrase : String} (hpassphrase : contents.passphrase = some passphrase)
    {keyVersions : Table KeyVersion KeyVersion.version} (row : KeyVersion) {master : Bytes}
    (hnew : ¬ Known db row.version) (hpositive : 1 ≤ row.version) (hmaster : master ≠ [])
    (hfind : ∀ version, keyVersions.find? version = if version = row.version then some row
      else (db.keyVersions.find? version).map fun old => { old with status := .retired })
    (hopen : ∀ salt parameters, db.argon2Salt = some (Base64.encode salt) →
      db.argon2Parameters = some parameters →
        openSealed env.aes (env.argon2.hash parameters passphrase salt) row.wrappedMasterKey
          (masterContext row.version) = .ok master) :
    Extends masters (Function.update masters row.version master) db
      { db with keyVersions := keyVersions } ∧
    Known { db with keyVersions := keyVersions } row.version ∧
    Kept env.aes env.argon2 (Function.update masters row.version master) contents
      { db with keyVersions := keyVersions } := by
  have hother : ∀ {version}, Known db version → version ≠ row.version := by
    rintro version hknown rfl
    exact hnew hknown
  have hsame : ∀ {version}, Known db version →
      Function.update masters row.version master version = masters version :=
    fun hknown => Function.update_of_ne (hother hknown) _ _
  have hstay : ∀ {version}, Known db version →
      Known { db with keyVersions := keyVersions } version := by
    intro version hknown
    obtain ⟨old, hold⟩ := hknown
    refine ⟨{ old with status := .retired }, ?_⟩
    show keyVersions.find? version = _
    rw [hfind, if_neg (hother ⟨old, hold⟩), hold]
    rfl
  have hadded : Known { db with keyVersions := keyVersions } row.version :=
    ⟨row, (hfind row.version).trans (if_pos rfl)⟩
  have hunlocks := h.unlocks passphrase hpassphrase
  have hcases : ∀ {version found}, keyVersions.find? version = some found →
      version = row.version ∧ found = row ∨ version ≠ row.version ∧
        ∃ old, db.keyVersions.find? version = some old ∧
          found.wrappedMasterKey = old.wrappedMasterKey := by
    intro version found hfound
    rw [hfind] at hfound
    by_cases hversion : version = row.version
    · rw [if_pos hversion] at hfound
      exact .inl ⟨hversion, (Option.some.inj hfound).symm⟩
    · rw [if_neg hversion] at hfound
      obtain ⟨old, hold, rfl⟩ := Option.map_eq_some_iff.mp hfound
      exact .inr ⟨hversion, old, hold, rfl⟩
  refine ⟨⟨fun version hknown => ⟨hstay hknown, hsame hknown⟩, fun _ hstored => hstored⟩, hadded,
    ?_, ?_, ?_, h.covered⟩
  · intro hnone
    rw [hpassphrase] at hnone
    cases hnone
  · intro other hother
    obtain rfl := Option.some.inj (hpassphrase.symm.trans hother)
    refine ⟨hunlocks.long, hstay hunlocks.first, ?_, ?_⟩
    · rintro version ⟨found, hfound⟩
      rcases hcases hfound with ⟨rfl, -⟩ | ⟨-, old, hold, -⟩
      · rw [Function.update_self]
        exact ⟨hpositive, hmaster⟩
      · rw [hsame ⟨old, hold⟩]
        exact hunlocks.positive version ⟨old, hold⟩
    · obtain ⟨salt, parameters, hsalt, hparameters, hopens⟩ := hunlocks.derivation
      refine ⟨salt, parameters, hsalt, hparameters, fun version found hfound => ?_⟩
      rcases hcases hfound with ⟨rfl, rfl⟩ | ⟨-, old, hold, hwrapped⟩
      · rw [Function.update_self]
        exact hopen salt parameters hsalt hparameters
      · rw [hsame ⟨old, hold⟩, hwrapped]
        exact hopens version old hold
  · intro secretId record hrecord
    obtain ⟨hknown, value, hvalue, dataKey, hdataKey, hwrapped, htext⟩ :=
      h.stored secretId record hrecord
    refine ⟨hstay hknown, value, hvalue, dataKey, hdataKey, ?_, htext⟩
    rw [hsame hknown]
    exact hwrapped

/-- What a passphrase that opened every version derives. -/
theorem unlockKey_eq (ideal : env.aes.Ideal) {db : VaultDatabase}
    (h : Kept env.aes env.argon2 masters contents db) {passphrase : String}
    (hpassphrase : contents.passphrase = some passphrase) {unlockKey : Bytes}
    {rows : List KeyVersion} (hrows : ∀ row, row ∈ rows ↔ db.keyVersions.find? row.version = some row)
    {keys : List (ℕ × Bytes)} (hopened : openMasters env unlockKey rows = .ok keys) :
    (∀ salt parameters, db.argon2Salt = some (Base64.encode salt) →
      db.argon2Parameters = some parameters →
        unlockKey = env.argon2.hash parameters passphrase salt) ∧
    ∀ entry, entry ∈ keys ↔ Known db entry.1 ∧ entry.2 = masters entry.1 := by
  have hunlocks := h.unlocks passphrase hpassphrase
  obtain ⟨salt, parameters, hsalt, hparameters, hopens⟩ := hunlocks.derivation
  obtain ⟨first, hfirst⟩ := hunlocks.first
  obtain ⟨hopenRows, hopenKeys⟩ := openMasters_ok hopened
  have hrow : ∀ {version row}, db.keyVersions.find? version = some row → row.version = version :=
    fun hfind => Table.key_of_find? hfind
  have hmem : ∀ {version row}, db.keyVersions.find? version = some row → row ∈ rows := by
    intro version row hfind
    rw [hrows, hrow hfind]
    exact hfind
  constructor
  · intro salt' parameters' hsalt' hparameters'
    obtain rfl := Option.some.inj (hparameters.symm.trans hparameters')
    obtain rfl := Base64.encode_injective (Option.some.inj (hsalt.symm.trans hsalt'))
    obtain ⟨master, -, hopen⟩ := hopenRows first (hmem hfirst)
    exact (master_of_open ideal hopens ((hrows first).mp (hmem hfirst)) hopen).1
  · intro entry
    constructor
    · intro hentry
      obtain ⟨row, hmemRow, hversion, hopen⟩ := hopenKeys entry hentry
      have hfind := (hrows row).mp hmemRow
      rw [← hversion]
      exact ⟨⟨row, hfind⟩, (master_of_open ideal hopens hfind hopen).2⟩
    · rintro ⟨⟨row, hfind⟩, hmaster⟩
      obtain ⟨master, hentry, hopen⟩ := hopenRows row (hmem hfind)
      have hfound := (master_of_open ideal hopens ((hrows row).mp (hmem hfind)) hopen).2
      rw [hrow hfind] at hentry hfound
      rw [hfound, ← hmaster] at hentry
      exact hentry

/-- A ring that is open takes another key. -/
theorem RingSound.upsert {db : VaultDatabase} {ring : KeyringState}
    (h : RingSound masters db ring) (hopen : ring.keys ≠ ∅) {version : ℕ}
    (hknown : Known db version) (used : Option Moment) :
    RingSound masters db { ring with
      keys := ring.keys.upsert (version, masters version) fun old => (old.1, masters version)
      lastUsedAt := used } where
  entries other entry hfind := by
    rw [Table.find?_upsert] at hfind
    by_cases hother : other = version
    · rw [if_pos hother] at hfind
      obtain rfl := Option.some.inj hfind
      rw [hother]
      refine ⟨hknown, ?_⟩
      cases ring.keys.find? version <;> rfl
    · rw [if_neg hother] at hfind
      exact h.entries other entry hfind
  first _ := by
    obtain ⟨entry, hfirst⟩ := h.first hopen
    rw [Table.find?_upsert]
    by_cases hversion : 1 = version
    · rw [if_pos hversion]
      exact ⟨_, rfl⟩
    · rw [if_neg hversion]
      exact ⟨entry, hfirst⟩
  parameters _ := h.parameters hopen

/-- **A new key version** changes no plaintext. -/
theorem KeepsAt.addKeyVersion (ideal : env.aes.Ideal)
    (hs : Sound env.aes env.argon2 masters contents s) {passphrase : String} :
    KeepsAt env.aes env.argon2 masters contents s (addKeyVersion env passphrase)
      fun contents => contents := by
  have rule := ringRelation_ringKept env
  unfold Vault.addKeyVersion
  refine KeepsAt.quiet_bind hs Untouched.sealed rule.sealed fun closed s₁ hsealed _ hs₁ => ?_
  refine KeepsAt.guarded hs₁ fun hclosed => ?_
  have hring := keys_of_sealed_false hsealed hclosed
  obtain ⟨committed, hcommitted⟩ := hs₁.exists_passphrase hring
  refine KeepsAt.query_bind hs₁ fun derivation hderivation => ?_
  refine KeepsAt.check_bind hs₁ fun unlockKey hunlockKey => ?_
  refine KeepsAt.transaction_bind hs₁ (rule.bind (rule.reads _) fun _ =>
    rule.bind (rule.check _) fun _ => rule.bind (rule.check _) fun _ =>
      rule.bind (rule.urandom 32) fun _ => rule.bind (rule.statement .retireKeyVersions) fun _ =>
        rule.bind (rule.sealBytes _ _ _) fun _ => rule.bind rule.now fun _ =>
          rule.bind (rule.statement (.insertKeyVersion _)) fun _ => rule.pure _)
    fun added s' hbody => ?_
  rw [Effect.exec_reads_bind] at hbody
  obtain ⟨keys, s₂, hverify, hnumbering⟩ := Effect.exec_bind_ok.mp hbody
  obtain ⟨hopened, rfl⟩ := Effect.exec_check_ok.mp hverify
  obtain ⟨version, s₃, hnumber, hdrawing⟩ := Effect.exec_bind_ok.mp hnumbering
  obtain ⟨hversion, rfl⟩ := Effect.exec_check_ok.mp hnumber
  obtain ⟨master, s₄, hdraw, hretiring⟩ := Effect.exec_bind_ok.mp hdrawing
  obtain ⟨hsame₄, hs₄⟩ := hs₁.after hdraw (Untouched.urandom 32) (rule.urandom 32)
  have hmaster := urandom_ne_nil (by decide) hdraw
  obtain ⟨u, s₅, hretire, hsealing⟩ := Effect.exec_bind_ok.mp hretiring
  obtain ⟨retired, hretired, rfl⟩ := exec_statement_ok.mp hretire
  obtain rfl := Except.ok.inj hretired
  obtain ⟨wrapped, s₆, hseal, hdating⟩ := Effect.exec_bind_ok.mp hsealing
  obtain ⟨hdatabase₆, hkeyring₆⟩ := sealBytes_state hseal
  obtain ⟨nonce, hnonce, rfl⟩ := sealBytes_ok hseal
  obtain ⟨created, s₇, hdate, hinserting⟩ := Effect.exec_bind_ok.mp hdating
  obtain ⟨hcreated, rfl⟩ := Prod.mk.inj hdate
  obtain ⟨u', s₈, hinsert, hreturn⟩ := Effect.exec_bind_ok.mp hinserting
  obtain ⟨db, hdb, rfl⟩ := exec_statement_ok.mp hinsert
  obtain ⟨keyVersions, rfl, hfind⟩ := insertKeyVersion_ok hdb
  obtain ⟨hadded, rfl⟩ := Prod.mk.inj hreturn
  obtain rfl := Except.ok.inj hadded
  obtain ⟨hpositive, hnewest⟩ := nextVersion_ok hversion
  obtain ⟨hderived, -⟩ := unlockKey_eq ideal hs₁.kept hcommitted (fun _ => keyVersionRows_iff)
    (orRaise_eq_ok.mp hopened)
  have hnew : ¬ Known s₄.database version := by
    intro hknown
    obtain ⟨row, hrow⟩ := hsame₄.known.mp hknown
    have hkey := Table.key_of_find? hrow
    have hlt := hnewest row (keyVersionRows_iff.mpr (by rw [hkey]; exact hrow))
    omega
  have hfind' : ∀ other, keyVersions.find? other = if other = version then some
        ⟨version, sealWith env.aes nonce unlockKey master (masterContext version), .active, created⟩
      else (s₄.database.keyVersions.find? other).map fun old => { old with status := .retired } := by
    intro other
    rw [hfind, hdatabase₆]
    unfold VaultDatabase.retireKeyVersions
    simp only [Table.find?_updateWhere, if_true]
  have hopen : ∀ salt parameters, s₄.database.argon2Salt = some (Base64.encode salt) →
      s₄.database.argon2Parameters = some parameters →
        openSealed env.aes (env.argon2.hash parameters committed salt)
          (sealWith env.aes nonce unlockKey master (masterContext version))
          (masterContext version) = .ok master := by
    intro salt parameters hsalt hparameters
    rw [hsame₄.argon2Salt] at hsalt
    rw [hsame₄.argon2Parameters] at hparameters
    rw [← hderived salt parameters hsalt hparameters]
    exact openSealed_seal ideal hnonce hmaster _
  obtain ⟨hextends, hknown, hkept⟩ :=
    Kept.addVersion hs₄.kept hcommitted ⟨version, _, .active, created⟩ hnew hpositive hmaster hfind' hopen
  have hring₄ : s₄.keyring.keys ≠ ∅ := by
    rw [exec_urandom] at hdraw
    rw [← (Prod.mk.inj hdraw).2]
    exact hring
  have hupsert := (hs₄.ring.extends hextends).upsert hring₄ hknown
    (some (env.sources.clock (s₆.ticks + 1)))
  rw [Function.update_self] at hupsert
  refine ⟨version, _, Function.update masters version master, rfl, ?_, ?_⟩
  · show Extends _ _ _ { s₆.database with keyVersions := keyVersions }
    rw [hdatabase₆]
    exact hsame₄.extends.trans hextends
  · show Sound _ _ _ _ (VaultState.mk { s₆.database with keyVersions := keyVersions } { s₆.keyring with
      keys := s₆.keyring.keys.upsert (version, master) fun old => (old.1, master)
      lastUsedAt := some (env.sources.clock (s₆.ticks + 1)) } _ _)
    rw [hdatabase₆, hkeyring₆]
    exact ⟨hkept, hupsert⟩

/-! ### Opening a ring -/

/-- The dictionary of keys that are known has the key of each version, and no other. -/
theorem find?_keysOf {keys : List (ℕ × Bytes)} {value : ℕ → Bytes}
    (h : ∀ entry ∈ keys, entry.2 = value entry.1) (version : ℕ) :
    (∀ entry, (keysOf keys).find? version = some entry →
      version ∈ keys.map Prod.fst ∧ entry.2 = value version) ∧
    (version ∈ keys.map Prod.fst → ∃ entry, (keysOf keys).find? version = some entry) := by
  induction keys using List.reverseRecOn with
  | nil =>
    refine ⟨fun entry hfind => absurd hfind ?_, fun hmem => absurd hmem List.not_mem_nil⟩
    show ¬ (∅ : Table (ℕ × Bytes) Prod.fst).find? version = some entry
    rw [Table.find?_empty]
    exact Option.some_ne_none entry ∘ Eq.symm
  | append_singleton keys last ih =>
    obtain ⟨ihSound, ihFound⟩ := ih fun entry hentry => h entry (List.mem_append_left _ hentry)
    have hlast := h last (List.mem_append_right _ List.mem_cons_self)
    have hfold : keysOf (keys ++ [last]) =
        (keysOf keys).upsert last fun old => (old.1, last.2) := by
      unfold keysOf
      rw [List.foldl_append]
      rfl
    rw [hfold, Table.find?_upsert, List.map_append, List.mem_append]
    by_cases hversion : version = last.1
    · rw [if_pos hversion]
      refine ⟨fun entry hentry => ⟨.inr ?_, ?_⟩, fun _ => ⟨_, rfl⟩⟩
      · rw [hversion]
        exact List.mem_cons_self
      · obtain rfl := Option.some.inj hentry
        rw [hversion, ← hlast]
        cases (keysOf keys).find? last.1 <;> rfl
    · rw [if_neg hversion]
      refine ⟨fun entry hentry => ?_, fun hmem => ?_⟩
      · obtain ⟨hmem, hvalue⟩ := ihSound entry hentry
        exact ⟨.inl hmem, hvalue⟩
      · rcases hmem with hmem | hmem
        · exact ihFound hmem
        · exact absurd (List.mem_singleton.mp hmem) hversion

/-- A ring that was filled with all master keys. -/
theorem ringSound_keysOf {db : VaultDatabase} {keys : List (ℕ × Bytes)} {ring : KeyringState}
    (hkeys : ∀ entry, entry ∈ keys ↔ Known db entry.1 ∧ entry.2 = masters entry.1)
    (hfirst : Known db 1) (hring : ring.keys = keysOf keys)
    (hparameters : db.argon2Parameters = some ring.parameters) : RingSound masters db ring := by
  have hfind := find?_keysOf fun entry hentry => ((hkeys entry).mp hentry).2
  refine ⟨fun version entry hentry => ?_, fun _ => ?_, fun _ => hparameters⟩
  · rw [hring] at hentry
    obtain ⟨hmem, hvalue⟩ := (hfind version).1 entry hentry
    obtain ⟨found, hfound, rfl⟩ := List.mem_map.mp hmem
    exact ⟨((hkeys found).mp hfound).1, hvalue⟩
  · rw [hring]
    exact (hfind 1).2 (List.mem_map.mpr ⟨(1, masters 1), (hkeys _).mpr ⟨hfirst, rfl⟩, rfl⟩)

/-- What a passphrase that unlocks has opened. -/
theorem unlockedKeys_ok {db : VaultDatabase} {passphrase : String} {parameters : Argon2Parameters}
    {keys : List (ℕ × Bytes)} (h : unlockedKeys env db passphrase = .ok (parameters, keys)) :
    db.keyVersionRows ≠ [] ∧ db.argon2Parameters = some parameters ∧
      ∃ salt, storedSalt db = .ok salt ∧ 12 ≤ passphrase.length ∧
        openMasters env (env.argon2.hash parameters passphrase salt) db.keyVersionRows =
          .ok keys := by
  unfold unlockedKeys at h
  obtain ⟨hrows, hreading⟩ := raiseIf_bind_ok.mp h
  obtain ⟨stored, hstored, hsalting⟩ := bind_eq_ok.mp hreading
  obtain ⟨salt, hsalt, hderiving⟩ := bind_eq_ok.mp hsalting
  obtain ⟨unlockKey, hderive, hopening⟩ := bind_eq_ok.mp hderiving
  obtain ⟨opened, hopened, hreturn⟩ := bind_eq_ok.mp hopening
  obtain ⟨rfl, rfl⟩ := Prod.mk.inj (Except.ok.inj hreturn)
  obtain ⟨hlong, rfl⟩ := Argon2Parameters.derive_eq_ok.mp hderive
  refine ⟨hrows, ?_, salt, hsalt, hlong, orRaise_eq_ok.mp hopened⟩
  unfold storedParameters at hstored
  split at hstored
  · exact absurd hstored (by simp)
  · rename_i found hfound
    rw [hfound, Except.ok.inj hstored]

/-- A vault with a row has a passphrase. -/
theorem Kept.exists_passphrase {db : VaultDatabase}
    (h : Kept env.aes env.argon2 masters contents db) (hrows : db.keyVersionRows ≠ []) :
    ∃ passphrase, contents.passphrase = some passphrase := by
  obtain ⟨row, hrow⟩ := List.exists_mem_of_ne_nil _ hrows
  exact Option.ne_none_iff_exists'.mp fun hnone =>
    h.fresh hnone row.version ⟨row, keyVersionRows_iff.mp hrow⟩

/-- **Unlocking** opens the ring to the master keys. -/
theorem KeepsAt.unlock (ideal : env.aes.Ideal)
    (hs : Sound env.aes env.argon2 masters contents s) {passphrase : String} :
    KeepsAt env.aes env.argon2 masters contents s (unlock env passphrase)
      fun contents => contents := by
  unfold Vault.unlock
  refine KeepsAt.query_bind hs fun opened hopened => ?_
  obtain ⟨parameters, keys⟩ := opened
  obtain ⟨hrows, hparameters, salt, -, -, hopen⟩ := unlockedKeys_ok hopened
  obtain ⟨committed, hcommitted⟩ := hs.kept.exists_passphrase hrows
  obtain ⟨-, hkeys⟩ := unlockKey_eq ideal hs.kept hcommitted (fun _ => keyVersionRows_iff) hopen
  have hfirst := (hs.kept.unlocks committed hcommitted).first
  exact ⟨masters, .refl _ _, hs.kept, ringSound_keysOf hkeys hfirst rfl hparameters⟩

/-! ### The first passphrase, and another -/

theorem insertMeta_ok {db db' : VaultDatabase} {salt : List Char} {parameters : Argon2Parameters}
    (h : db.insertMeta salt parameters = .ok db') : db.argon2Parameters = none ∧
      db' = { db with argon2Salt := some salt, argon2Parameters := some parameters } := by
  unfold VaultDatabase.insertMeta at h
  split at h
  · exact absurd h (by simp)
  · rename_i hfree
    refine ⟨?_, (Except.ok.inj h).symm⟩
    exact Option.not_isSome_iff_eq_none.mp (not_or.mp hfree).2

/-- A vault without versions has no secrets. -/
theorem Kept.empty {db : VaultDatabase} (h : Kept env.aes env.argon2 masters contents db)
    (hempty : db.keyVersions.rows = []) : (∀ version, ¬ Known db version) ∧
      (∀ secretId row, ¬ db.secretRecords.find? secretId = some row) := by
  have hnone : ∀ version, ¬ Known db version := by
    rintro version ⟨row, hrow⟩
    have hmem := Table.mem_of_find? hrow
    rw [hempty] at hmem
    exact absurd hmem List.not_mem_nil
  exact ⟨hnone, fun secretId row hrow => hnone _ (h.stored secretId row hrow).1⟩

/-- The first version, in a vault that has none. -/
theorem Kept.initialize {db : VaultDatabase} (h : Kept env.aes env.argon2 masters contents db)
    (hempty : db.keyVersions.rows = []) (hfresh : db.argon2Parameters = none)
    {keyVersions : Table KeyVersion KeyVersion.version} (row : KeyVersion) {passphrase : String}
    {salt master : Bytes} {parameters : Argon2Parameters} (hlong : 12 ≤ passphrase.length)
    (hversion : row.version = 1) (hmaster : master ≠ [])
    (hfind : ∀ version, keyVersions.find? version = if version = row.version then some row
      else db.keyVersions.find? version)
    (hopen : openSealed env.aes (env.argon2.hash parameters passphrase salt) row.wrappedMasterKey
      (masterContext 1) = .ok master) {db' : VaultDatabase}
    (hdb : db' = { db with
      argon2Salt := some (Base64.encode salt)
      argon2Parameters := some parameters
      keyVersions := keyVersions }) :
    Extends masters (fun _ => master) db db' ∧ (∀ version, Known db' version ↔ version = 1) ∧
      Kept env.aes env.argon2 (fun _ => master) (contents.opensWith passphrase) db' := by
  subst hdb
  obtain ⟨hnone, hrecords⟩ := h.empty hempty
  have hrow : ∀ {version found}, keyVersions.find? version = some found →
      version = 1 ∧ found = row := by
    intro version found hfound
    rw [hfind, hversion] at hfound
    by_cases hone : version = 1
    · rw [if_pos hone] at hfound
      exact ⟨hone, (Option.some.inj hfound).symm⟩
    · rw [if_neg hone] at hfound
      exact absurd ⟨found, hfound⟩ (hnone version)
  have hone : keyVersions.find? 1 = some row := by rw [hfind, hversion, if_pos rfl]
  refine ⟨⟨fun version hknown => absurd hknown (hnone version), fun parameters hstored => ?_⟩,
    fun version => ⟨fun ⟨found, hfound⟩ => (hrow hfound).1, fun hv => ⟨row, hv ▸ hone⟩⟩,
    fun hnever => absurd hnever (Option.some_ne_none passphrase), ?_, ?_, h.covered⟩
  · rw [hfresh] at hstored
    cases hstored
  · intro other hother
    obtain rfl : passphrase = other := Option.some.inj hother
    refine ⟨hlong, ⟨row, hone⟩, ?_, salt, parameters, rfl, rfl, ?_⟩
    · rintro version ⟨found, hfound⟩
      obtain ⟨rfl, -⟩ := hrow hfound
      exact ⟨le_rfl, hmaster⟩
    · intro version found hfound
      obtain ⟨rfl, rfl⟩ := hrow hfound
      exact hopen
  · intro secretId record hrecord
    exact absurd hrecord (hrecords secretId record)

/-- **Initialising** commits the passphrase. -/
theorem KeepsAt.initializeVault (ideal : env.aes.Ideal)
    (hs : Sound env.aes env.argon2 masters contents s) {passphrase : String} :
    KeepsAt env.aes env.argon2 masters contents s (initializeVault env passphrase)
      fun contents => contents.opensWith passphrase := by
  have rule := ringRelation_ringKept env
  unfold Vault.initializeVault
  refine KeepsAt.transaction_bind hs (rule.bind (rule.reads _) fun _ =>
    rule.bind (rule.check _) fun _ => rule.bind (rule.urandom 16) fun _ =>
      rule.bind (rule.reads _) fun _ => rule.bind (rule.check _) fun _ =>
        rule.bind (rule.urandom 32) fun _ => rule.bind rule.now fun _ =>
          rule.bind (rule.statement (.insertMeta _ _)) fun _ => rule.bind (rule.sealBytes _ _ _)
            fun _ => rule.bind (rule.statement (.insertKeyVersion _)) fun _ => rule.pure _)
    fun master s' hbody => ?_
  rw [Effect.exec_reads_bind] at hbody
  obtain ⟨u, s₁, hguard, hsalting⟩ := Effect.exec_bind_ok.mp hbody
  obtain ⟨hrows, rfl⟩ := Effect.exec_check_ok.mp hguard
  have hempty := not_not.mp (raiseIf_eq_ok.mp hrows)
  obtain ⟨salt, s₂, hsalt, hderiving⟩ := Effect.exec_bind_ok.mp hsalting
  rw [exec_urandom] at hsalt
  obtain ⟨-, rfl⟩ := Prod.mk.inj hsalt
  rw [Effect.exec_reads_bind] at hderiving
  obtain ⟨unlockKey, s₃, hderive, hdrawing⟩ := Effect.exec_bind_ok.mp hderiving
  obtain ⟨hderived, rfl⟩ := Effect.exec_check_ok.mp hderive
  obtain ⟨hlong, rfl⟩ := Argon2Parameters.derive_eq_ok.mp hderived
  obtain ⟨drawn, s₄, hdraw, hdating⟩ := Effect.exec_bind_ok.mp hdrawing
  have hmaster := urandom_ne_nil (by decide) hdraw
  rw [exec_urandom] at hdraw
  obtain ⟨-, rfl⟩ := Prod.mk.inj hdraw
  obtain ⟨created, s₅, hdate, hstoring⟩ := Effect.exec_bind_ok.mp hdating
  obtain ⟨-, rfl⟩ := Prod.mk.inj hdate
  obtain ⟨u₆, s₆, hmeta, hsealing⟩ := Effect.exec_bind_ok.mp hstoring
  obtain ⟨db, hdb, rfl⟩ := exec_statement_ok.mp hmeta
  obtain ⟨hfresh, rfl⟩ := insertMeta_ok hdb
  obtain ⟨wrapped, s₇, hseal, hinserting⟩ := Effect.exec_bind_ok.mp hsealing
  obtain ⟨hdatabase, hkeyring⟩ := sealBytes_state hseal
  obtain ⟨nonce, hnonce, rfl⟩ := sealBytes_ok hseal
  obtain ⟨u₈, s₈, hinsert, hreturn⟩ := Effect.exec_bind_ok.mp hinserting
  obtain ⟨db', hdb', rfl⟩ := exec_statement_ok.mp hinsert
  obtain ⟨keyVersions, rfl, hfind⟩ := insertKeyVersion_ok hdb'
  obtain ⟨hreturned, rfl⟩ := Prod.mk.inj hreturn
  obtain rfl := Except.ok.inj hreturned
  have hdatabase' : { s₇.database with keyVersions := keyVersions } =
      { s₁.database with
        argon2Salt := some (Base64.encode salt)
        argon2Parameters := some s₁.keyring.parameters
        keyVersions := keyVersions } := by rw [hdatabase]
  rw [hdatabase] at hfind
  obtain ⟨hextends, hknown, hkept⟩ := hs.kept.initialize hempty hfresh
    ⟨1, sealWith env.aes nonce (env.argon2.hash s₁.keyring.parameters passphrase salt) drawn
      (masterContext 1), .active, created⟩ hlong rfl hmaster hfind
    (openSealed_seal ideal hnonce hmaster _) hdatabase'
  refine ⟨(), _, _, rfl, hextends, hkept, ?_⟩
  refine ringSound_keysOf (fun entry => ?_) ((hknown 1).mpr rfl) rfl ?_
  · show entry ∈ [(1, drawn)] ↔ Known { s₇.database with keyVersions := keyVersions } entry.1 ∧ _
    rw [hknown, List.mem_singleton, Prod.ext_iff]
  · show { s₇.database with keyVersions := keyVersions }.argon2Parameters = _
    rw [hdatabase', hkeyring]

theorem rewrapMaster_ok {newKey : Bytes} {entry : ℕ × Bytes} {u : Unit}
    (h : (rewrapMaster env newKey entry).exec s = (.ok u, s')) : s'.keyring = s.keyring ∧
      ∃ nonce, nonce.length = 12 ∧ s'.database = s.database.setWrappedMasterKey entry.1
        (sealWith env.aes nonce newKey entry.2 (masterContext entry.1)) := by
  unfold rewrapMaster at h
  obtain ⟨wrapped, s₁, hseal, hwriting⟩ := Effect.exec_bind_ok.mp h
  obtain ⟨hdatabase, hkeyring⟩ := sealBytes_state hseal
  obtain ⟨nonce, hnonce, rfl⟩ := sealBytes_ok hseal
  obtain ⟨db, hdb, rfl⟩ := exec_statement_ok.mp hwriting
  obtain rfl := Except.ok.inj hdb
  refine ⟨hkeyring, nonce, hnonce, ?_⟩
  show s₁.database.setWrappedMasterKey _ _ = _
  rw [hdatabase]

/-- Some versions are wrapped under another key, the others as before. -/
structure WrappedAgain (aes : AesGcm) (masters : ℕ → Bytes) (newKey : Bytes) (versions : List ℕ)
    (old new : Table KeyVersion KeyVersion.version) : Prop where
  same : ∀ version, (∃ row, new.find? version = some row) ↔ ∃ row, old.find? version = some row
  opens : ∀ version row, new.find? version = some row → version ∈ versions →
    openSealed aes newKey row.wrappedMasterKey (masterContext version) = .ok (masters version)
  others : ∀ version row, new.find? version = some row → version ∉ versions →
    old.find? version = some row

/-- **The loop** wraps all versions that it is handed. -/
theorem rewrapMasters_ok (ideal : env.aes.Ideal) {newKey : Bytes} {entries : List (ℕ × Bytes)}
    (hmasters : ∀ entry ∈ entries, entry.2 = masters entry.1 ∧ entry.2 ≠ []) {u : Unit}
    (h : (Effect.forEach entries (rewrapMaster env newKey)).exec s = (.ok u, s')) :
    s'.keyring = s.keyring ∧ ∃ keyVersions,
      s'.database = { s.database with keyVersions := keyVersions } ∧
      WrappedAgain env.aes masters newKey (entries.map Prod.fst) s.database.keyVersions
        keyVersions := by
  induction entries generalizing s with
  | nil =>
    obtain rfl := (Prod.mk.inj h).2
    exact ⟨rfl, _, rfl, fun _ => Iff.rfl, fun _ _ _ hmem => absurd hmem List.not_mem_nil,
      fun _ _ hfind _ => hfind⟩
  | cons entry entries ih =>
    rw [Effect.exec_forEach_cons] at h
    rcases hpass : (rewrapMaster env newKey entry).exec s with ⟨r, s₁⟩
    rw [hpass] at h
    cases r with
    | error e => exact absurd (Prod.mk.inj h).1 (by simp)
    | ok u₁ =>
      obtain ⟨hkeyring, nonce, hnonce, hdatabase⟩ := rewrapMaster_ok hpass
      obtain ⟨hkeyring', keyVersions, hdatabase', hrest⟩ :=
        ih (fun other hother => hmasters other (List.mem_cons_of_mem _ hother)) h
      obtain ⟨hmaster, hne⟩ := hmasters entry List.mem_cons_self
      have hfind : ∀ version, s₁.database.keyVersions.find? version =
          if version = entry.1 then (s.database.keyVersions.find? version).map fun row => { row with
            wrappedMasterKey := sealWith env.aes nonce newKey entry.2 (masterContext entry.1) }
          else s.database.keyVersions.find? version := by
        intro version
        rw [hdatabase]
        unfold VaultDatabase.setWrappedMasterKey
        rw [Table.find?_updateKey]
      refine ⟨hkeyring'.trans hkeyring, keyVersions, ?_, ?_, ?_, ?_⟩
      · rw [hdatabase', hdatabase]
        rfl
      · intro version
        rw [hrest.same, hfind]
        by_cases hversion : version = entry.1
        · rw [if_pos hversion]
          cases s.database.keyVersions.find? version <;> simp
        · rw [if_neg hversion]
      · intro version row hrow hmem
        by_cases hlater : version ∈ entries.map Prod.fst
        · exact hrest.opens version row hrow hlater
        · obtain rfl : version = entry.1 :=
            (List.mem_cons.mp hmem).resolve_right hlater
          have hfound := hrest.others _ row hrow hlater
          rw [hfind, if_pos rfl] at hfound
          obtain ⟨old, -, rfl⟩ := Option.map_eq_some_iff.mp hfound
          rw [← hmaster]
          exact openSealed_seal ideal hnonce hne _
      · intro version row hrow hmem
        obtain ⟨hversion, hlater⟩ := not_or.mp (mt List.mem_cons.mpr hmem)
        have hfound := hrest.others version row hrow hlater
        rwa [hfind, if_neg hversion] at hfound

/-- All versions are wrapped under what another passphrase derives. -/
theorem Kept.rewrap {db : VaultDatabase} (h : Kept env.aes env.argon2 masters contents db)
    {committed passphrase : String} (hcommitted : contents.passphrase = some committed)
    (hlong : 12 ≤ passphrase.length) {salt : Bytes} {parameters : Argon2Parameters}
    (hparameters : db.argon2Parameters = some parameters) {versions : List ℕ}
    (hversions : ∀ version, Known db version → version ∈ versions)
    {keyVersions : Table KeyVersion KeyVersion.version}
    (hwrapped : WrappedAgain env.aes masters (env.argon2.hash parameters passphrase salt) versions
      db.keyVersions keyVersions) {db' : VaultDatabase}
    (hdb : db' = { db with
      argon2Salt := some (Base64.encode salt)
      keyVersions := keyVersions }) :
    Extends masters masters db db' ∧
      Kept env.aes env.argon2 masters (contents.opensWith passphrase) db' := by
  subst hdb
  have hunlocks := h.unlocks committed hcommitted
  refine ⟨⟨fun version hknown => ⟨(hwrapped.same version).mpr hknown, rfl⟩, fun _ h => h⟩,
    fun hnever => absurd hnever (Option.some_ne_none passphrase), ?_, ?_, h.covered⟩
  · intro other hother
    obtain rfl : passphrase = other := Option.some.inj hother
    refine ⟨hlong, (hwrapped.same 1).mpr hunlocks.first,
      fun version hknown => hunlocks.positive version ((hwrapped.same version).mp hknown),
      salt, parameters, rfl, hparameters, fun version row hrow => ?_⟩
    exact hwrapped.opens version row hrow (hversions version ((hwrapped.same version).mp ⟨row, hrow⟩))
  · intro secretId record hrecord
    obtain ⟨hknown, hvalue⟩ := h.stored secretId record hrecord
    exact ⟨(hwrapped.same _).mpr hknown, hvalue⟩

/-- **Changing the passphrase** commits the new one. -/
theorem KeepsAt.changePassphrase (ideal : env.aes.Ideal)
    (hs : Sound env.aes env.argon2 masters contents s) {oldPassphrase newPassphrase : String} :
    KeepsAt env.aes env.argon2 masters contents s
      (changePassphrase env oldPassphrase newPassphrase)
      fun contents => contents.opensWith newPassphrase := by
  have rule := ringRelation_ringKept env
  unfold Vault.changePassphrase
  refine KeepsAt.quiet_bind hs Untouched.sealed rule.sealed fun closed s₁ hsealed _ hs₁ => ?_
  refine KeepsAt.guarded hs₁ fun hclosed => ?_
  have hring := keys_of_sealed_false hsealed hclosed
  obtain ⟨committed, hcommitted⟩ := hs₁.exists_passphrase hring
  refine KeepsAt.query_bind hs₁ fun derivation _ => ?_
  refine KeepsAt.check_bind hs₁ fun oldKey _ => ?_
  refine KeepsAt.quiet_bind hs₁ (Untouched.urandom 16) (rule.urandom 16)
    fun salt s₂ hdraw hsame₂ hs₂ => ?_
  have hring₂ : s₂.keyring.keys ≠ ∅ := by
    rw [exec_urandom] at hdraw
    rw [← (Prod.mk.inj hdraw).2]
    exact hring
  refine KeepsAt.quiet_bind hs₂ (Untouched.reads _) (rule.reads _)
    fun parameters s₃ hparameters _ hs₃ => ?_
  rw [Effect.exec_reads] at hparameters
  obtain ⟨hring₃, rfl⟩ := Prod.mk.inj hparameters
  obtain rfl := Except.ok.inj hring₃
  refine KeepsAt.check_bind hs₃ fun newKey hderive => ?_
  obtain ⟨hlong, rfl⟩ := Argon2Parameters.derive_eq_ok.mp hderive
  refine KeepsAt.transaction hs₃ (rule.bind (rule.reads _) fun _ => rule.bind (rule.check _)
    fun _ => rule.bind (rule.forEach _ (rule.rewrapMaster _)) fun _ =>
      rule.statement (.setSalt _)) fun u s' hbody => ?_
  rw [Effect.exec_reads_bind] at hbody
  obtain ⟨keys, s₄, hverify, hwriting⟩ := Effect.exec_bind_ok.mp hbody
  obtain ⟨hopened, rfl⟩ := Effect.exec_check_ok.mp hverify
  obtain ⟨u₅, s₅, hloop, hsetting⟩ := Effect.exec_bind_ok.mp hwriting
  obtain ⟨db, hdb, rfl⟩ := exec_statement_ok.mp hsetting
  obtain rfl := Except.ok.inj hdb
  obtain ⟨-, hkeys⟩ := unlockKey_eq ideal hs₃.kept hcommitted
    (fun _ => ⟨Table.find?_of_mem, Table.mem_of_find?⟩) (orRaise_eq_ok.mp hopened)
  have hpositive := (hs₃.kept.unlocks committed hcommitted).positive
  have hmasters : ∀ entry ∈ keys, entry.2 = masters entry.1 ∧ entry.2 ≠ [] := by
    intro entry hentry
    obtain ⟨hknown, hmaster⟩ := (hkeys entry).mp hentry
    exact ⟨hmaster, hmaster ▸ (hpositive entry.1 hknown).2⟩
  have hversions : ∀ version, Known s₄.database version → version ∈ keys.map Prod.fst :=
    fun version hknown =>
      List.mem_map.mpr ⟨(version, masters version), (hkeys _).mpr ⟨hknown, rfl⟩, rfl⟩
  obtain ⟨hkeyring, keyVersions, hdatabase, hwrapped⟩ := rewrapMasters_ok ideal hmasters hloop
  have hdatabase' : { s₅.database with argon2Salt := some (Base64.encode salt) } =
      { s₄.database with
        argon2Salt := some (Base64.encode salt)
        keyVersions := keyVersions } := by rw [hdatabase]
  obtain ⟨hextends, hkept⟩ := hs₃.kept.rewrap hcommitted hlong (hs₃.ring.parameters hring₂)
    hversions hwrapped hdatabase'
  refine ⟨masters, hextends, hkept, ?_⟩
  show RingSound _ _ s₅.keyring
  rw [hkeyring]
  exact hs₃.ring.extends hextends

end Zhixu.Vault.Decryptability
