import Mathlib.Data.Int.ConditionallyCompleteOrder
import Zhixu.Vault.Processes

/-!
# The unlock window

A process's ring is to be sealed once nothing has been authorised for the idle timeout. What
counts is a reading of the clock taken by an unlock that succeeded, by an authorised request
or by a command of the operator (`AuthorisedReading`).

The time of the last use is written by `key` and nowhere else, apart from the unlocks, and
`key` asks first whether the ring is sealed. Two relations carry this through all code of the
service: `Dated` says that a new time of use is a reading taken meanwhile, and `ShutKept` that
a ring no reading will find open stays so. A third, `Still`, says that the time of use was
not written, and holds of the calls that are not to extend the window.

One path breaks it. A denial is recorded in the audit log, the record needs the audit key, and
reading that marks the ring as used. So a denied request that finds the ring open extends the
window (`window_counterexample`); the window is kept in every run where each denied request
finds the ring sealed when it is recorded (`FoundSealed`, `window_kept`).
-/

open Framework

namespace Zhixu.Vault

/-! ### Relations on the ring -/

/-- A ring that holds keys has a time of last use. -/
def Timed (s : VaultState) : Prop := s.keyring.keys ≠ ∅ → s.keyring.lastUsedAt ≠ none

/-- Every reading from now on finds the ring sealed. -/
def Shut (env : Environment) (s : VaultState) : Prop :=
  s.keyring.keys = ∅ ∨ ∃ used, s.keyring.lastUsedAt = some used ∧
    ∀ n, s.ticks ≤ n → expired env used (env.sources.clock n)

/-- A new time of last use is a reading taken meanwhile. -/
structure Dated (env : Environment) (s s' : VaultState) : Prop where
  ticks : s.ticks ≤ s'.ticks
  timed : Timed s → Timed s'
  last : s'.keyring.lastUsedAt = none ∨ s'.keyring.lastUsedAt = s.keyring.lastUsedAt ∨
    ∃ n, s.ticks ≤ n ∧ n < s'.ticks ∧ s'.keyring.lastUsedAt = some (env.sources.clock n)

/-- A ring that is shut stays shut. -/
structure ShutKept (env : Environment) (s s' : VaultState) : Prop where
  ticks : s.ticks ≤ s'.ticks
  shut : Shut env s → Shut env s'

/-- The time of last use was not written, unless the ring was locked. -/
structure Still (s s' : VaultState) : Prop where
  ticks : s.ticks ≤ s'.ticks
  timed : Timed s → Timed s'
  last : s'.keyring.lastUsedAt = none ∨ s'.keyring.lastUsedAt = s.keyring.lastUsedAt

section Relations

variable {env : Environment} {s s' s'' : VaultState}

theorem Still.refl (s : VaultState) : Still s s := ⟨le_rfl, fun h => h, .inr rfl⟩

theorem Still.trans (h : Still s s') (h' : Still s' s'') : Still s s'' := by
  refine ⟨h.ticks.trans h'.ticks, fun ht => h'.timed (h.timed ht), ?_⟩
  rcases h'.last with hnone | hsame
  · exact .inl hnone
  · rw [hsame]
    exact h.last

theorem Still.dated (h : Still s s') : Dated env s s' :=
  ⟨h.ticks, h.timed, h.last.imp_right .inl⟩

theorem Dated.trans (h : Dated env s s') (h' : Dated env s' s'') : Dated env s s'' := by
  refine ⟨h.ticks.trans h'.ticks, fun ht => h'.timed (h.timed ht), ?_⟩
  rcases h'.last with hnone | hsame | ⟨n, hge, hlt, hlast⟩
  · exact .inl hnone
  · rw [hsame]
    rcases h.last with hnone | hsame' | ⟨n, hge, hlt, hlast⟩
    · exact .inl hnone
    · exact .inr (.inl hsame')
    · exact .inr (.inr ⟨n, hge, hlt.trans_le h'.ticks, hlast⟩)
  · exact .inr (.inr ⟨n, h.ticks.trans hge, hlt, hlast⟩)

/-- Whether a ring is sealed writes no time of use. -/
theorem still_checked (s : VaultState) : Still s (s.checked env) := by
  rcases checked_cases env s with ⟨n, hchecked, hn⟩ | ⟨used, -, -, hchecked⟩
  · rw [hchecked]
    exact ⟨hn, fun h => h, .inr rfl⟩
  · rw [hchecked]
    exact ⟨Nat.le_succ _, fun _ hkeys => absurd rfl hkeys, .inl rfl⟩

/-- A ring that is shut is found sealed. -/
theorem Shut.checked (h : Shut env s) : (s.checked env).keyring.keys = ∅ := by
  rcases h with hempty | ⟨used, hused, hexpired⟩
  · exact isEmpty_checked hempty
  · unfold VaultState.checked
    rw [hused]
    simp only [if_pos (hexpired s.ticks le_rfl)]

/-- Reading a key marks the ring with a reading of its own. -/
theorem dated_touched (s : VaultState) : Dated env s (s.touched env) :=
  ⟨Nat.le_succ _, fun _ _ => by simp [VaultState.touched],
    .inr (.inr ⟨s.ticks, le_rfl, Nat.lt_succ_self _, rfl⟩)⟩

theorem dated_key (version : ℕ) : Effect.Within (Dated env) (key env version) := by
  intro s
  rcases hexec : (key env version).exec s with ⟨r, s'⟩
  cases r with
  | error e =>
    rw [key_error hexec]
    exact (still_checked s).dated
  | ok value =>
    obtain ⟨-, -, rfl⟩ := key_ok.mp hexec
    exact (still_checked s).dated.trans (dated_touched _)

/-- **New times of use are readings.** -/
theorem ringRelation_dated (env : Environment) : RingRelation env (Dated env) where
  toRingRule := .of_ring (fun s => (Still.refl s).dated) (fun _ _ _ => Dated.trans)
    (fun _ h => ⟨h.ticks, h.timed, h.last⟩)
    (fun _ => ⟨Nat.le_succ _, fun h => h, .inr (.inl rfl)⟩)
    (fun _ _ => ⟨le_rfl, fun h => h, .inr (.inl rfl)⟩)
    (fun s => by
      rw [exec_sealed]
      exact (still_checked s).dated)
  key := dated_key

/-- **What is shut stays shut**, through everything that asks first. -/
theorem ringRelation_shutKept (env : Environment) : RingRelation env (ShutKept env) where
  toRingRule := .of_ring (fun _ => ⟨le_rfl, fun h => h⟩)
    (fun _ _ _ h h' => ⟨h.ticks.trans h'.ticks, fun hs => h'.shut (h.shut hs)⟩)
    (fun _ h => ⟨h.ticks, h.shut⟩)
    (fun _ => ⟨Nat.le_succ _, fun h => h.imp_right fun ⟨used, hused, hexpired⟩ =>
      ⟨used, hused, fun n hn => hexpired n (Nat.le_of_succ_le hn)⟩⟩)
    (fun _ _ => ⟨le_rfl, fun h => h⟩)
    (fun s => by
      rw [exec_sealed]
      exact ⟨(still_checked s).ticks, fun h => .inl h.checked⟩)
  key version s := by
    refine ⟨(dated_key version s).ticks, fun h => ?_⟩
    rcases hexec : (key env version).exec s with ⟨r, s'⟩
    cases r with
    | error e =>
      rw [key_error hexec]
      exact .inl h.checked
    | ok value =>
      obtain ⟨hne, -, -⟩ := key_ok.mp hexec
      rw [h.checked] at hne
      exact absurd rfl hne

theorem within_lock {R : VaultState → VaultState → Prop}
    (h : ∀ s : VaultState, R s { s with keyring := { s.keyring with keys := ∅, lastUsedAt := none } }) :
    Effect.Within R lock := fun s => h s

theorem still_lock : Effect.Within Still lock :=
  within_lock fun _ => ⟨le_rfl, fun _ hkeys => absurd rfl hkeys, .inl rfl⟩

theorem still_start (parameters : Argon2Parameters) :
    Effect.Within Still (VaultService.start parameters) :=
  fun _ => ⟨le_rfl, fun _ hkeys => absurd rfl hkeys, .inl rfl⟩

theorem shutKept_lock : Effect.Within (ShutKept env) lock := fun _ => ⟨le_rfl, fun _ => .inl rfl⟩

theorem shutKept_start (parameters : Argon2Parameters) :
    Effect.Within (ShutKept env) (VaultService.start parameters) :=
  fun _ => ⟨le_rfl, fun _ => .inl rfl⟩

/-- A new key comes with a time of use. -/
theorem dated_addKeyVersion (passphrase : String) :
    Effect.Within (Dated env) (addKeyVersion env passphrase) := by
  have rule := ringRelation_dated env
  have hinstall : ∀ version master, Effect.Within (Dated env) (do
      Effect.write fun s => { s with
        keyring := { s.keyring with
          keys := s.keyring.keys.upsert (version, master) fun old => (old.1, master) } }
      touch env
      return version : VaultM ℕ) := fun version master s =>
    ⟨Nat.le_succ _, fun _ _ => Option.some_ne_none (env.sources.clock s.ticks), .inr (.inr ⟨s.ticks, le_rfl, Nat.lt_succ_self _, rfl⟩)⟩
  exact rule.addKeyVersion hinstall passphrase

/-- A ring that is shut takes no new key. -/
theorem shutKept_addKeyVersion (passphrase : String) :
    Effect.Within (ShutKept env) (addKeyVersion env passphrase) := by
  intro s
  refine ⟨(dated_addKeyVersion passphrase s).ticks, fun h => ?_⟩
  unfold addKeyVersion
  rw [Effect.exec_bind, exec_sealed, h.checked]
  exact .inl h.checked

end Relations

/-! ### What is authorised -/

/-- What a request asks a grant for, and what the grant has to pass besides. -/
structure GrantCheck where
  token : String
  secretId : String
  action : String
  passes : VerifiedGrant → VaultDatabase → Prop

/-- An operation on one secret. -/
def GrantCheck.onSecret (token secretId : String) (action : VaultAction) : GrantCheck where
  token := token
  secretId := secretId
  action := action.value
  passes grant db := ∃ metadata, VaultService.allowed grant secretId action db = .ok metadata

variable {Data Request : Type}

/-- The grant a request rests on. A request without one is refused before it is looked at. -/
def VaultCall.grantCheck : VaultCall Request → Option GrantCheck
  | .create token request => some
    { token := token
      secretId := request.secretId
      action := VaultAction.create.value
      passes := fun grant _ =>
        grant.subject = request.ownerUserId ∧ grant.authentication = "step_up" }
  | .listOwned token => some
    { token := token
      secretId := "*"
      action := VaultAction.listMetadata.value
      passes := fun _ _ => True }
  | .list token secretId => some (.onSecret token secretId .listMetadata)
  | .reveal token secretId => some (.onSecret token secretId .reveal)
  | .use token secretId _ _ => some (.onSecret token secretId .use)
  | .update token secretId value _ =>
    if value = [] then none else some (.onSecret token secretId .update)
  | .delete token secretId => some (.onSecret token secretId .delete)
  | .exportEncrypted token secretId _ => some (.onSecret token secretId .exportSecret)
  | .rotate token secretId _ _ => some (.onSecret token secretId .rotate)
  | .grantAcl token secretId _ _ => some (.onSecret token secretId .grant)
  | _ => none

variable (service : VaultService Data Request)

/-- The verification of a request's grant. -/
def VaultService.verification (check : GrantCheck) : VaultM VerifiedGrant :=
  service.verifier.verifyAndConsume service.env.sources check.token check.secretId check.action

/-- A request is authorised: its grant verifies and passes. -/
def Authorised (check : GrantCheck) (s : VaultState) : Prop :=
  ∃ grant s₁, (service.verification check).exec s = (.ok grant, s₁) ∧
    check.passes grant s₁.database

/-- How many readings of the clock the verification of a grant takes. -/
def CapabilityGrantVerifier.readings (verifier : CapabilityGrantVerifier) (sources : Sources)
    (check : GrantCheck) (tick : ℕ) : ℕ :=
  match verifier.read check.token with
  | .error _ => 0
  | .ok payload =>
    match verifier.bound payload check.secretId check.action with
    | .error _ => 0
    | .ok expiresAt =>
      match payload.current expiresAt (sources.clock tick) with
      | .error _ => 1
      | .ok _ => if payload.subject.isNone then 1 else 2

/-- A ring is found sealed by a record that starts at some reading: it holds no keys, or it has
expired at one of the three readings at which the record asks. -/
def FoundSealed (env : Environment) (s : VaultState) (start : ℕ) : Prop :=
  s.keyring.keys = ∅ ∨ ∃ used, s.keyring.lastUsedAt = some used ∧
    ∃ n, start < n ∧ n ≤ start + 3 ∧ expired env used (env.sources.clock n)

section Denials

variable {service} {s s' : VaultState}

variable (service) in
/-- Verifying takes readings, and does not look at the ring. -/
theorem exec_verification_ring (check : GrantCheck) (s : VaultState) :
    ((service.verification check).exec s).2.keyring = s.keyring ∧
      ((service.verification check).exec s).2.ticks =
        s.ticks + service.verifier.readings service.env.sources check s.ticks := by
  unfold VaultService.verification CapabilityGrantVerifier.verifyAndConsume
    CapabilityGrantVerifier.readings
  rw [Effect.exec_check_bind]
  cases hread : service.verifier.read check.token with
  | error e => exact ⟨rfl, rfl⟩
  | ok payload =>
    simp only
    rw [Effect.exec_check_bind]
    cases hbound : service.verifier.bound payload check.secretId check.action with
    | error e => exact ⟨rfl, rfl⟩
    | ok expiresAt =>
      simp only
      rw [Effect.exec_bind, exec_now]
      simp only
      rw [Effect.exec_check_bind]
      cases hcurrent : payload.current expiresAt (service.env.sources.clock s.ticks) with
      | error e => exact ⟨rfl, rfl⟩
      | ok u =>
        simp only
        rw [Effect.exec_bind, exec_transaction, Effect.exec_check_bind]
        unfold GrantPayload.requireSubject
        cases payload.subject with
        | none => exact ⟨rfl, rfl⟩
        | some subject =>
          simp only
          rw [Effect.exec_bind, exec_now]
          simp only
          rw [Effect.exec_bind, exec_statement]
          -- the nonce is new or not, and the readings are the same
          generalize consumeNonce _ _ = answer
          cases answer with
          | error e => exact ⟨rfl, rfl⟩
          | ok db => exact ⟨rfl, rfl⟩

/-- A key that is found unread leaves the time of use alone. -/
theorem still_key_of_shut {env : Environment} {version : ℕ} {s : VaultState}
    (h : (s.checked env).keyring.keys = ∅) : Still s ((key env version).exec s).2 := by
  rcases hexec : (key env version).exec s with ⟨r, s'⟩
  cases r with
  | error e =>
    rw [key_error hexec]
    exact still_checked s
  | ok value =>
    obtain ⟨hne, -, -⟩ := key_ok.mp hexec
    rw [h] at hne
    exact absurd rfl hne

/-- A ring in use passes a check at which it has not expired, and is empty after one at which it
has. -/
theorem checked_used (env : Environment) {s : VaultState} {used : Moment}
    (hused : s.keyring.lastUsedAt = some used) :
    (s.checked env).keyring.keys = ∅ ∨ s.checked env = { s with ticks := s.ticks + 1 } ∧
      ¬ expired env used (env.sources.clock s.ticks) := by
  by_cases hexpired : expired env used (env.sources.clock s.ticks)
  · left
    unfold VaultState.checked
    rw [hused]
    simp only [if_pos hexpired]
  · exact .inr ⟨checked_of_open hused hexpired, hexpired⟩

/-- The ring is found sealed at one of three checks. -/
def ShutWithin (env : Environment) (s : VaultState) (first last : ℕ) : Prop :=
  s.keyring.keys = ∅ ∨ ∃ used, s.keyring.lastUsedAt = some used ∧
    ∃ n, first ≤ n ∧ n ≤ last ∧ expired env used (env.sources.clock n)

/-- A check at which the ring has not expired leaves it to the next. -/
theorem ShutWithin.checked {env : Environment} {s : VaultState} {last : ℕ}
    (h : ShutWithin env s s.ticks last) :
    (s.checked env).keyring.keys = ∅ ∨
      (ShutWithin env (s.checked env) (s.checked env).ticks last ∧
        (s.checked env).ticks = s.ticks + 1 ∧ s.ticks < last) := by
  rcases h with hempty | ⟨used, hused, n, hge, hle, hexpired⟩
  · exact .inl (isEmpty_checked hempty)
  · rcases checked_used env hused with hempty | ⟨hchecked, hfresh⟩
    · exact .inl hempty
    · have hlt : s.ticks < n := by
        refine lt_of_le_of_ne hge fun heq => hfresh ?_
        rw [heq]
        exact hexpired
      rw [hchecked]
      exact .inr ⟨.inr ⟨used, hused, n, hlt, hle, hexpired⟩, rfl, hlt.trans_le hle⟩

theorem exec_auditVersion (env : Environment) (s : VaultState) :
    ∃ version, (auditVersion env).exec s = (.ok version, s.checked env) := by
  unfold auditVersion
  rw [Effect.exec_bind, exec_sealed]
  cases (s.checked env).keyring.keys.rows.isEmpty with
  | true => exact ⟨_, rfl⟩
  | false => exact ⟨_, rfl⟩

/-- Every version is refused by a ring without keys. -/
theorem exec_sealed_empty {env : Environment} {s : VaultState}
    (h : (s.checked env).keyring.keys = ∅) : (sealed env).exec s = (.ok true, s.checked env) := by
  rw [exec_sealed, h]
  rfl

/-- **An audit key that is not to be had** leaves the time of use alone. -/
theorem still_auditKey {env : Environment} {touched : Bool} {s : VaultState}
    (h : ShutWithin env s s.ticks (s.ticks + 2)) :
    Still s ((auditKey env touched).exec s).2 := by
  obtain ⟨version, hversion⟩ := exec_auditVersion env s
  have hfirst : Still s (s.checked env) := still_checked s
  have hsecond : Still s ((s.checked env).checked env) := hfirst.trans (still_checked _)
  unfold auditKey
  rw [Effect.exec_bind, hversion]
  simp only
  rw [Effect.exec_bind]
  -- the second check either finds the ring sealed, or leaves the third to find it so
  have hrest : ((s.checked env).checked env).keyring.keys = ∅ ∨
      ShutWithin env ((s.checked env).checked env) ((s.checked env).checked env).ticks
        ((s.checked env).checked env).ticks := by
    rcases h.checked with hempty | ⟨hshut, hticks, -⟩
    · exact .inl (isEmpty_checked hempty)
    · rcases hshut.checked with hempty | ⟨hshut', hticks', -⟩
      · exact .inl hempty
      · have hlast : s.ticks + 2 = ((s.checked env).checked env).ticks := by omega
        rw [hlast] at hshut'
        exact .inr hshut'
  rcases hrest with hempty | hshut
  · rw [exec_sealed_empty hempty]
    exact hsecond
  · rw [exec_sealed]
    cases ((s.checked env).checked env).keyring.keys.rows.isEmpty with
    | true => exact hsecond
    | false =>
      simp only [Bool.false_eq_true, if_false]
      rw [Effect.exec_bind]
      have hthird : (((s.checked env).checked env).checked env).keyring.keys = ∅ := by
        rcases hshut.checked with hempty | ⟨-, -, hlt⟩
        · exact hempty
        · exact absurd hlt (lt_irrefl _)
      have hread : Still s ((if touched = true then key env version else keyEntry version).exec
          ((s.checked env).checked env)).2 := by
        cases touched with
        | true => exact hsecond.trans (still_key_of_shut hthird)
        | false => exact hsecond
      rcases hexec : (if touched = true then key env version else keyEntry version).exec
        ((s.checked env).checked env) with ⟨r, s'⟩
      rw [hexec] at hread
      cases r with
      | error e => exact hread
      | ok master => exact hread

/-- **A record that finds the ring sealed** leaves the time of use alone. -/
theorem still_recordAccess {env : Environment} {actor action secretId outcome reasonCode : String}
    {s : VaultState} (hfound : FoundSealed env s s.ticks) :
    Still s ((recordAccess env actor action secretId outcome reasonCode).exec s).2 := by
  -- the reading the record takes for itself
  have hnow : Still s { s with ticks := s.ticks + 1 } := ⟨Nat.le_succ _, fun h => h, .inr rfl⟩
  have hshut : ShutWithin env { s with ticks := s.ticks + 1 } (s.ticks + 1) (s.ticks + 1 + 2) := by
    rcases hfound with hempty | ⟨used, hused, n, hlt, hle, hexpired⟩
    · exact .inl hempty
    · exact .inr ⟨used, hused, n, hlt, hle, hexpired⟩
  have hkey : Still s ((auditKey env true).exec { s with ticks := s.ticks + 1 }).2 :=
    hnow.trans (still_auditKey hshut)
  unfold recordAccess appendEvent
  rw [Effect.exec_bind, exec_now]
  simp only
  rw [exec_transaction, Effect.exec_bind]
  rcases hexec : (auditKey env true).exec { s with ticks := s.ticks + 1 } with ⟨r, s₁⟩
  rw [hexec] at hkey
  cases r with
  | error e => exact ⟨hkey.ticks, hkey.timed, hkey.last⟩
  | ok master =>
    simp only
    unfold append
    rw [exec_statement]
    split
    · rename_i hstatement
      split at hstatement
      · obtain ⟨-, rfl⟩ := Prod.mk.inj hstatement
        exact ⟨hkey.ticks, hkey.timed, hkey.last⟩
      · exact absurd (Prod.mk.inj hstatement).1 (by simp)
    · rename_i hstatement
      split at hstatement
      · exact absurd (Prod.mk.inj hstatement).1 (by simp)
      · obtain ⟨-, rfl⟩ := Prod.mk.inj hstatement
        exact ⟨hkey.ticks, hkey.timed, hkey.last⟩

theorem still_recordDenial {actor secretId reasonCode : String} {action : VaultAction}
    {s : VaultState} (hfound : FoundSealed service.env s s.ticks) :
    Still s ((service.recordDenial actor action secretId reasonCode).exec s).2 := by
  have hrecord : Still s ((recordAccess service.env actor action.value secretId "denied"
      reasonCode).exec s).2 := still_recordAccess hfound
  unfold VaultService.recordDenial
  rw [Effect.exec_tryCatch]
  rcases hexec : (recordAccess service.env actor action.value secretId "denied" reasonCode).exec s
    with ⟨r, s'⟩
  rw [hexec] at hrecord
  cases r with
  | ok u => exact hrecord
  | error e => exact hrecord

/-- What was seen before the ring was asked is what the record finds. -/
theorem FoundSealed.of_ring {env : Environment} {s s₁ : VaultState} {n : ℕ}
    (h : FoundSealed env s (s.ticks + n)) (hring : s₁.keyring = s.keyring)
    (hticks : s₁.ticks = s.ticks + n) : FoundSealed env s₁ s₁.ticks := by
  unfold FoundSealed
  rw [hring, hticks]
  exact h

theorem still_of_ring {s s₁ : VaultState} {n : ℕ} (hring : s₁.keyring = s.keyring)
    (hticks : s₁.ticks = s.ticks + n) : Still s s₁ := by
  refine ⟨by omega, ?_, .inr (by rw [hring])⟩
  unfold Timed
  rw [hring]
  exact fun h => h

/-- A handler that records a denial passes the exception on. -/
theorem exec_orDenied_error {α : Type} {actor secretId : String} {action : VaultAction}
    {m : VaultM α} {s s₁ : VaultState} {e : VaultError} (hm : m.exec s = (.error e, s₁))
    (hfound : FoundSealed service.env s₁ s₁.ticks) :
    ∃ e' s', (service.orDenied actor action secretId m).exec s = (.error e', s') ∧
      Still s₁ s' := by
  have hdenial : Still s₁ ((service.recordDenial actor action secretId).exec s₁).2 :=
    still_recordDenial hfound
  unfold VaultService.orDenied
  rw [Effect.exec_tryCatch, hm]
  simp only
  rw [Effect.exec_bind]
  rcases hexec : (service.recordDenial actor action secretId).exec s₁ with ⟨r, s₂⟩
  rw [hexec] at hdenial
  cases r with
  | ok u => exact ⟨e, s₂, rfl, hdenial⟩
  | error e' => exact ⟨e', s₂, rfl, hdenial⟩

theorem exec_orDenied_ok {α : Type} {actor secretId : String} {action : VaultAction}
    {m : VaultM α} {s s₁ : VaultState} {a : α} (hm : m.exec s = (.ok a, s₁)) :
    (service.orDenied actor action secretId m).exec s = (.ok a, s₁) := by
  unfold VaultService.orDenied
  rw [Effect.exec_tryCatch, hm]

variable {check : GrantCheck} {s : VaultState}
  (hfound : FoundSealed service.env s
    (s.ticks + service.verifier.readings service.env.sources check s.ticks))

include hfound

/-- A request whose grant does not verify, or whose work is refused at once. -/
theorem still_refused {α β : Type} (secretId : String) (action : VaultAction)
    (body : VerifiedGrant → VaultM α) (rest : VerifiedGrant → α → VaultM β)
    (hrefused : ∀ grant s₁, (service.verification check).exec s = (.ok grant, s₁) →
      ∃ e, (body grant).exec s₁ = (.error e, s₁)) :
    ∃ e s', (service.orDenied "unknown" action secretId (service.verification check) >>=
      fun grant => service.orDenied grant.subject action secretId (body grant) >>= rest grant).exec
        s = (.error e, s') ∧ Still s s' := by
  obtain ⟨hring, hticks⟩ := exec_verification_ring service check s
  rcases hexec : (service.verification check).exec s with ⟨r, s₁⟩
  rw [hexec] at hring hticks
  have hfound₁ : FoundSealed service.env s₁ s₁.ticks := hfound.of_ring hring hticks
  have hstill : Still s s₁ := still_of_ring hring hticks
  cases r with
  | error e =>
    obtain ⟨e', s', hdenied, hstill'⟩ := exec_orDenied_error hexec hfound₁
    exact ⟨e', s', by rw [Effect.exec_bind, hdenied], hstill.trans hstill'⟩
  | ok grant =>
    obtain ⟨e, hbody⟩ := hrefused grant s₁ hexec
    obtain ⟨e', s', hdenied, hstill'⟩ := exec_orDenied_error hbody hfound₁
    refine ⟨e', s', ?_, hstill.trans hstill'⟩
    rw [Effect.exec_bind, exec_orDenied_ok hexec]
    simp only
    rw [Effect.exec_bind, hdenied]

omit hfound in
/-- An operation on a secret that is not authorised. -/
theorem still_authorize {α : Type} {token secretId : String} {action : VaultAction}
    (f : VerifiedGrant × SecretMetadata → VaultM α)
    (hfound : FoundSealed service.env s (s.ticks + service.verifier.readings service.env.sources
      (.onSecret token secretId action) s.ticks))
    (hdenied : ¬ Authorised service (.onSecret token secretId action) s) :
    Still s ((service.authorize token secretId action >>= f).exec s).2 := by
  obtain ⟨e, s', hexec, hstill⟩ : ∃ e s',
      (service.authorize token secretId action).exec s = (.error e, s') ∧ Still s s' := by
    refine still_refused hfound secretId action _ _ fun grant s₁ hverified => ?_
    rw [Effect.exec_query]
    cases hallowed : VaultService.allowed grant secretId action s₁.database with
    | error e => exact ⟨e, rfl⟩
    | ok metadata => exact absurd ⟨grant, s₁, hverified, metadata, hallowed⟩ hdenied
  rw [Effect.exec_bind, hexec]
  exact hstill

omit hfound in
theorem still_map {α β : Type} (f : α → β) {m : VaultM α} (h : Still s (m.exec s).2) :
    Still s ((f <$> m).exec s).2 := by
  rw [Effect.exec_map]
  exact h

/-- **A denied request that finds the ring sealed** leaves the time of use alone. -/
theorem still_denied {call : VaultCall Request} (hcheck : call.grantCheck = some check)
    (hdenied : ¬ Authorised service check s) : Still s ((service.run call).exec s).2 := by
  cases call with
  | create token request =>
    obtain rfl := Option.some.inj hcheck
    refine still_map _ ?_
    obtain ⟨e, s', hexec, hstill⟩ := still_refused hfound request.secretId .create
      (fun grant => do
        Effect.check (raiseIf
          (grant.subject ≠ request.ownerUserId ∨ grant.authentication ≠ "step_up")
          (.permission "secret creation grant is invalid"))
        service.createSecret request grant.authentication)
      (fun _ m => pure m) fun grant s₁ hverified => by
        have hpasses : grant.subject ≠ request.ownerUserId ∨ grant.authentication ≠ "step_up" := by
          by_contra hboth
          rw [not_or, not_not, not_not] at hboth
          exact hdenied ⟨grant, s₁, hverified, hboth⟩
        rw [Effect.exec_check_bind]
        unfold raiseIf
        rw [if_pos hpasses]
        exact ⟨_, rfl⟩
    simp only [bind_pure] at hexec
    have hcreate : (service.createWithGrant token request).exec s = (.error e, s') := hexec
    rw [hcreate]
    exact hstill
  | listOwned token =>
    obtain rfl := Option.some.inj hcheck
    refine still_map _ ?_
    obtain ⟨e, s', hexec, hstill⟩ := still_refused hfound "*" .listMetadata
      (fun grant => do
        let values ← Effect.reads fun s => s.database.listMetadata grant.subject
        service.recordSuccess grant .listMetadata "*"
        return values)
      (fun _ m => pure m) fun grant s₁ hverified =>
        absurd ⟨grant, s₁, hverified, trivial⟩ hdenied
    simp only [bind_pure] at hexec
    have hlist : (service.listOwnedMetadata token).exec s = (.error e, s') := hexec
    rw [hlist]
    exact hstill
  | list token secretId =>
    obtain rfl := Option.some.inj hcheck
    exact still_map _ (still_authorize _ hfound hdenied)
  | reveal token secretId =>
    obtain rfl := Option.some.inj hcheck
    exact still_map _ (still_authorize _ hfound hdenied)
  | use token secretId executorName request =>
    obtain rfl := Option.some.inj hcheck
    refine still_map _ ?_
    unfold VaultService.use VaultService.prepareUse
    rw [bind_assoc]
    exact still_authorize _ hfound hdenied
  | update token secretId value expectedVersion =>
    unfold VaultCall.grantCheck at hcheck
    simp only at hcheck
    by_cases hvalue : value = []
    · rw [if_pos hvalue] at hcheck
      exact absurd hcheck (by simp)
    · rw [if_neg hvalue] at hcheck
      obtain rfl := Option.some.inj hcheck
      refine still_map _ ?_
      unfold VaultService.update
      rw [Effect.exec_check_bind]
      unfold raiseIf
      rw [if_neg hvalue]
      exact still_authorize _ hfound hdenied
  | delete token secretId =>
    obtain rfl := Option.some.inj hcheck
    exact still_map _ (still_authorize _ hfound hdenied)
  | exportEncrypted token secretId exportPassphrase =>
    obtain rfl := Option.some.inj hcheck
    exact still_map _ (still_authorize _ hfound hdenied)
  | rotate token secretId passphrase fault =>
    obtain rfl := Option.some.inj hcheck
    exact still_map _ (still_authorize _ hfound hdenied)
  | grantAcl token secretId subject action =>
    obtain rfl := Option.some.inj hcheck
    exact still_map _ (still_authorize _ hfound hdenied)
  | _ => exact absurd hcheck (by simp [VaultCall.grantCheck])

end Denials

/-! ### What does not count leaves the ring alone -/

/-- **Code that reads no key** writes no time of use. -/
theorem ringRule_still (env : Environment) : RingRule env Still :=
  .of_ring Still.refl (fun _ _ _ => Still.trans) (fun _ h => ⟨h.ticks, h.timed, h.last⟩)
    (fun _ => ⟨Nat.le_succ _, fun h => h, .inr rfl⟩) (fun _ _ => ⟨le_rfl, fun h => h, .inr rfl⟩)
    (fun s => by
      rw [exec_sealed]
      exact still_checked s)

section Calls

variable {service} {env : Environment} {s s' : VaultState}

theorem dated_installKeys (keys : List (ℕ × Bytes)) :
    Effect.Within (Dated env) (installKeys env keys) := fun s =>
  ⟨Nat.le_succ _, fun _ _ => Option.some_ne_none (env.sources.clock s.ticks),
    .inr (.inr ⟨s.ticks, le_rfl, Nat.lt_succ_self _, rfl⟩)⟩

theorem dated_unlock (passphrase : String) :
    Effect.Within (Dated env) (unlock env passphrase) := by
  have rule := ringRelation_dated env
  refine rule.bind (rule.query _) fun opened => ?_
  refine rule.bind (fun s => ?_) fun _ => dated_installKeys _
  exact ⟨le_rfl, fun h => h, .inr (.inl rfl)⟩

variable (service) in
/-- **Every call** marks the ring with nothing but a reading of its own. -/
theorem dated_run (call : VaultCall Request) :
    Effect.Within (Dated service.env) (service.run call) := by
  have rule := ringRelation_dated service.env
  by_cases hopens : call.opens = false
  · exact rule.run (fun s => (still_lock s).dated) (fun p s => (still_start p s).dated)
      dated_addKeyVersion hopens
  · cases call with
    | unlock passphrase =>
      intro s
      show Dated service.env s (((fun _ => VaultAnswer.done) <$>
        unlock service.env passphrase).exec s).2
      rw [Effect.exec_map]
      exact dated_unlock passphrase s
    | initializeVault passphrase =>
      intro s
      show Dated service.env s (((fun _ => VaultAnswer.done) <$>
        initializeVault service.env passphrase).exec s).2
      rw [Effect.exec_map]
      exact rule.initializeVault dated_installKeys passphrase s
    | _ => exact absurd rfl hopens

/-- **Every call but an unlock** leaves a shut ring shut. -/
theorem shutKept_run {call : VaultCall Request} (hopens : call.opens = false) :
    Effect.Within (ShutKept service.env) (service.run call) :=
  (ringRelation_shutKept service.env).run shutKept_lock shutKept_start shutKept_addKeyVersion hopens

/-- Code that writes no time of use unless it goes through. -/
def StillUnlessDone {α : Type} (m : VaultM α) : Prop :=
  ∀ s, (∃ a s', m.exec s = (.ok a, s')) ∨ Still s (m.exec s).2

theorem StillUnlessDone.bind {α β : Type} {m : VaultM α} {f : α → VaultM β}
    (hm : Effect.Within Still m) (hf : ∀ a, StillUnlessDone (f a)) :
    StillUnlessDone (m >>= f) := by
  intro s
  have hs := hm s
  rw [Effect.exec_bind]
  rcases hexec : m.exec s with ⟨r, s₁⟩
  rw [hexec] at hs
  cases r with
  | error e => exact .inr hs
  | ok a =>
    rcases hf a s₁ with hdone | hstill
    · exact .inl hdone
    · exact .inr (hs.trans hstill)

theorem StillUnlessDone.of_within {α : Type} {m : VaultM α} (h : Effect.Within Still m) :
    StillUnlessDone m := fun s => .inr (h s)

theorem stillUnlessDone_unlock (passphrase : String) :
    StillUnlessDone (unlock env passphrase) :=
  .bind ((ringRule_still env).query _) fun _ _ => .inl ⟨_, _, rfl⟩

theorem stillUnlessDone_initializeVault (passphrase : String) :
    StillUnlessDone (initializeVault env passphrase) := by
  have rule := ringRule_still env
  exact .bind (rule.transaction (rule.bind (rule.reads _) fun _ => rule.bind (rule.check _)
    fun _ => rule.bind (rule.urandom 16) fun _ => rule.bind (rule.reads _) fun _ =>
      rule.bind (rule.check _) fun _ => rule.bind (rule.urandom 32) fun _ =>
        rule.bind rule.now fun _ => rule.bind (rule.statement (.insertMeta _ _)) fun _ =>
          rule.bind (rule.sealBytes _ _ _) fun _ =>
            rule.bind (rule.statement (.insertKeyVersion _)) fun _ => rule.pure _)) fun _ _ => .inl ⟨_, _, rfl⟩

theorem stillUnlessDone_addKeyVersion (passphrase : String) :
    StillUnlessDone (addKeyVersion env passphrase) := by
  have rule := ringRule_still env
  refine .bind rule.sealed fun closed => ?_
  cases closed with
  | true => exact .of_within (rule.throw _)
  | false =>
    exact .bind (rule.query _) fun _ => .bind (rule.check _) fun _ => .bind (rule.transaction
      (rule.bind (rule.reads _) fun _ => rule.bind (rule.check _) fun _ =>
        rule.bind (rule.check _) fun _ => rule.bind (rule.urandom 32) fun _ =>
          rule.bind (rule.statement .retireKeyVersions) fun _ =>
            rule.bind (rule.sealBytes _ _ _) fun _ => rule.bind rule.now fun _ =>
              rule.bind (rule.statement (.insertKeyVersion _)) fun _ => rule.pure _))
      fun _ _ => .inl ⟨_, _, rfl⟩

/-- What counts as a use of the vault: an unlock that succeeds, an authorised request, a command
of the operator that reads a key. -/
def Counts (service : VaultService Data Request) (s : VaultState) (call : VaultCall Request) :
    Prop :=
  match call with
  | .unlock _ | .initializeVault _ | .addKeyVersion _ =>
    ∃ answer s', (service.run call).exec s = (.ok answer, s')
  | .rewrap .. | .recordChange | .auditKey true => True
  | _ => ∃ check, call.grantCheck = some check ∧ Authorised service check s

/-- A denied request finds the ring sealed when the denial is recorded. -/
def DeniedSealed (service : VaultService Data Request) (s : VaultState)
    (call : VaultCall Request) : Prop :=
  ∀ check, call.grantCheck = some check → ¬ Authorised service check s →
    FoundSealed service.env s
      (s.ticks + service.verifier.readings service.env.sources check s.ticks)

/-- **What does not count** writes no time of use, if denials find the ring sealed. -/
theorem still_run {call : VaultCall Request} (hcounts : ¬ Counts service s call)
    (hdenied : DeniedSealed service s call) : Still s ((service.run call).exec s).2 := by
  have rule := ringRule_still service.env
  -- a request is denied, since it does not count
  have hrequest : ∀ check, call.grantCheck = some check →
      (¬ Authorised service check s → Still s ((service.run call).exec s).2) :=
    fun check hcheck hnot => still_denied (hdenied check hcheck hnot) hcheck hnot
  have hmap : ∀ {α β : Type} (f : α → β) {m : VaultM α}, StillUnlessDone m →
      (¬ ∃ answer s', (f <$> m).exec s = (.ok answer, s')) → Still s ((f <$> m).exec s).2 := by
    intro α β f m hm hnot
    rcases hm s with ⟨a, s', hok⟩ | hstill
    · exact absurd ⟨f a, s', by rw [Effect.exec_map, hok]; rfl⟩ hnot
    · exact still_map f hstill
  cases call with
  | status => exact still_map _ (rule.sealed s)
  | lock => exact still_map _ (still_lock s)
  | unlock passphrase => exact hmap _ (stillUnlessDone_unlock passphrase) hcounts
  | create token request =>
    exact hrequest _ rfl fun h => hcounts ⟨_, rfl, h⟩
  | listOwned token => exact hrequest _ rfl fun h => hcounts ⟨_, rfl, h⟩
  | list token secretId => exact hrequest _ rfl fun h => hcounts ⟨_, rfl, h⟩
  | reveal token secretId => exact hrequest _ rfl fun h => hcounts ⟨_, rfl, h⟩
  | use token secretId executorName request => exact hrequest _ rfl fun h => hcounts ⟨_, rfl, h⟩
  | update token secretId value expectedVersion =>
    by_cases hvalue : value = []
    · -- refused before its grant is looked at
      refine still_map _ ?_
      unfold VaultService.update
      rw [Effect.exec_check_bind]
      unfold raiseIf
      rw [if_pos hvalue]
      exact Still.refl s
    · have hcheck : (VaultCall.update token secretId value expectedVersion :
          VaultCall Request).grantCheck = some (.onSecret token secretId .update) := if_neg hvalue
      exact hrequest _ hcheck fun h => hcounts ⟨_, hcheck, h⟩
  | delete token secretId => exact hrequest _ rfl fun h => hcounts ⟨_, rfl, h⟩
  | exportEncrypted token secretId exportPassphrase =>
    exact hrequest _ rfl fun h => hcounts ⟨_, rfl, h⟩
  | rotate token secretId passphrase fault => exact hrequest _ rfl fun h => hcounts ⟨_, rfl, h⟩
  | grantAcl token secretId subject action => exact hrequest _ rfl fun h => hcounts ⟨_, rfl, h⟩
  | checkpoint =>
    exact still_map _ (rule.bind rule.sealed (fun _ => RingRule.ite (rule.pure _)
      (rule.tryCatch (rule.bind (rule.auditKeyUntouched) fun _ => rule.bind rule.now fun _ =>
        rule.pure _) fun _ => rule.pure _)) s)
  | restart parameters => exact still_map _ (still_start parameters s)
  | initializeVault passphrase => exact hmap _ (stillUnlessDone_initializeVault passphrase) hcounts
  | addKeyVersion passphrase => exact hmap _ (stillUnlessDone_addKeyVersion passphrase) hcounts
  | rewrap keyVersion actor fault => exact absurd trivial hcounts
  | changePassphrase oldPassphrase newPassphrase =>
    exact still_map _ (rule.changePassphrase oldPassphrase newPassphrase s)
  | recordChange => exact absurd trivial hcounts
  | auditKey touched =>
    cases touched with
    | true => exact absurd trivial hcounts
    | false => exact still_map _ (rule.auditKeyUntouched s)

end Calls

/-! ### The window over a run -/

section Window

variable (timeouts : ℕ → Int) (host : VaultHost) (process : ℕ)

/-- The stage that a list of calls leads to. -/
def afterCalls (calls : List (ℕ × VaultCall Request)) :
    Stage VaultHost (ℕ × VaultCall Request) (Except VaultError (VaultAnswer Data)) :=
  (vaultMachine service timeouts).replay (Machine.start host) calls

/-- A process's view, after some calls. -/
def viewAfter (calls : List (ℕ × VaultCall Request)) : VaultState :=
  (afterCalls service timeouts host calls).state.view process

/-- The process's use of the service. -/
def serviceOf : VaultService Data Request := service.withTimeout (timeouts process)

/-- A reading of the clock that a call of the process took, one that counts. -/
def AuthorisedReading (calls : List (ℕ × VaultCall Request)) (n : ℕ) : Prop :=
  ∃ before call rest, calls = before ++ (process, call) :: rest ∧
    Counts (serviceOf service timeouts process) (viewAfter service timeouts host process before)
      call ∧
    (viewAfter service timeouts host process before).ticks ≤ n ∧
    n < (viewAfter service timeouts host process (before ++ [(process, call)])).ticks

/-- Every denied request of the process finds the ring sealed. -/
def DenialsSealed (calls : List (ℕ × VaultCall Request)) : Prop :=
  ∀ before call rest, calls = before ++ (process, call) :: rest →
    DeniedSealed (serviceOf service timeouts process)
      (viewAfter service timeouts host process before) call

/-- Nothing has been authorised for the idle timeout, at the next reading. -/
def Idle (calls : List (ℕ × VaultCall Request)) : Prop :=
  ∀ n, AuthorisedReading service timeouts host process calls n →
    expired (serviceOf service timeouts process).env (service.env.sources.clock n)
      (service.env.sources.clock (viewAfter service timeouts host process calls).ticks)

/-- A ring that is sealed and decrypts nothing. -/
def SealedOff (env : Environment) (s : VaultState) : Prop :=
  (∃ s', (sealed env).exec s = (.ok true, s')) ∧
    ∀ secretId, ∃ e s', (decrypt env secretId).exec s = (.error e, s')

variable {service timeouts host process}

theorem afterCalls_append (calls : List (ℕ × VaultCall Request)) (p : ℕ)
    (call : VaultCall Request) :
    (afterCalls service timeouts host (calls ++ [(p, call)])).state =
      (afterCalls service timeouts host calls).state.settle p
        (((serviceOf service timeouts p).run call).exec
          (viewAfter service timeouts host p calls)).2 := by
  unfold afterCalls
  rw [Machine.replay_append]
  rfl

variable (service timeouts host process) in
theorem viewAfter_append_self (calls : List (ℕ × VaultCall Request)) (call : VaultCall Request) :
    viewAfter service timeouts host process (calls ++ [(process, call)]) =
      (((serviceOf service timeouts process).run call).exec
        (viewAfter service timeouts host process calls)).2 := by
  unfold viewAfter
  rw [afterCalls_append, VaultHost.view_settle]
  rfl

variable (service timeouts host) in
/-- A call of another process takes readings and changes the database. -/
theorem viewAfter_append_ne {p : ℕ} (hp : process ≠ p) (calls : List (ℕ × VaultCall Request))
    (call : VaultCall Request) :
    (viewAfter service timeouts host process (calls ++ [(p, call)])).keyring =
        (viewAfter service timeouts host process calls).keyring ∧
      (viewAfter service timeouts host process calls).ticks ≤
        (viewAfter service timeouts host process (calls ++ [(p, call)])).ticks := by
  have hticks := (dated_run (serviceOf service timeouts p) call
    (viewAfter service timeouts host p calls)).ticks
  unfold viewAfter
  rw [afterCalls_append, VaultHost.view_settle_ne hp]
  exact ⟨rfl, hticks⟩

theorem Still.of_keyring {s s' : VaultState} (hring : s'.keyring = s.keyring)
    (hticks : s.ticks ≤ s'.ticks) : Still s s' := by
  refine ⟨hticks, ?_, .inr (by rw [hring])⟩
  unfold Timed
  rw [hring]
  exact fun h => h

theorem AuthorisedReading.append {calls : List (ℕ × VaultCall Request)} {n : ℕ}
    (h : AuthorisedReading service timeouts host process calls n) (c : ℕ × VaultCall Request) :
    AuthorisedReading service timeouts host process (calls ++ [c]) n := by
  obtain ⟨before, call, rest, rfl, hcounts, hge, hlt⟩ := h
  exact ⟨before, call, rest ++ [c], by simp, hcounts, hge, hlt⟩

/-- **The time of last use is an authorised reading**, while denials find the ring sealed. -/
theorem used_authorised (hnew : host.keyrings process = { parameters :=
      (host.keyrings process).parameters }) (calls : List (ℕ × VaultCall Request))
    (hdenials : DenialsSealed service timeouts host process calls) :
    Timed (viewAfter service timeouts host process calls) ∧
      ((viewAfter service timeouts host process calls).keyring.lastUsedAt = none ∨
        ∃ n, AuthorisedReading service timeouts host process calls n ∧
          (viewAfter service timeouts host process calls).keyring.lastUsedAt =
            some (service.env.sources.clock n)) := by
  induction calls using List.reverseRecOn with
  | nil =>
    have hring : (viewAfter service timeouts host process []).keyring =
        { parameters := (host.keyrings process).parameters } := hnew
    constructor
    · intro hkeys
      rw [hring] at hkeys
      exact absurd rfl hkeys
    · rw [hring]
      exact .inl rfl
  | append_singleton calls c ih =>
    obtain ⟨htimed, hlast⟩ := ih fun before call rest hcalls =>
      hdenials before call (rest ++ [c]) (by rw [hcalls]; simp)
    obtain ⟨p, call⟩ := c
    -- a step that writes no time of use keeps both parts
    have hstill : Still (viewAfter service timeouts host process calls)
        (viewAfter service timeouts host process (calls ++ [(p, call)])) →
        Timed (viewAfter service timeouts host process (calls ++ [(p, call)])) ∧
          ((viewAfter service timeouts host process (calls ++ [(p, call)])).keyring.lastUsedAt =
              none ∨ ∃ n, AuthorisedReading service timeouts host process (calls ++ [(p, call)]) n ∧
            (viewAfter service timeouts host process (calls ++ [(p, call)])).keyring.lastUsedAt =
              some (service.env.sources.clock n)) := by
      intro hstep
      refine ⟨hstep.timed htimed, ?_⟩
      rcases hstep.last with hnone | hsame
      · exact .inl hnone
      · rw [hsame]
        exact hlast.imp_right fun ⟨n, hn, hused⟩ => ⟨n, hn.append _, hused⟩
    by_cases hp : process = p
    · subst hp
      have hstep := viewAfter_append_self service timeouts host process calls call
      by_cases hcounts : Counts (serviceOf service timeouts process)
        (viewAfter service timeouts host process calls) call
      · have hdated := dated_run (serviceOf service timeouts process) call
          (viewAfter service timeouts host process calls)
        rw [← hstep] at hdated
        refine ⟨hdated.timed htimed, ?_⟩
        rcases hdated.last with hnone | hsame | ⟨n, hge, hlt, hused⟩
        · exact .inl hnone
        · rw [hsame]
          exact hlast.imp_right fun ⟨n, hn, hused⟩ => ⟨n, hn.append _, hused⟩
        · exact .inr ⟨n, ⟨calls, call, [], rfl, hcounts, hge, hlt⟩, hused⟩
      · have hrun := still_run hcounts (hdenials calls call [] rfl)
        rw [← hstep] at hrun
        exact hstill hrun
    · obtain ⟨hring, hticks⟩ := viewAfter_append_ne service timeouts host hp calls call
      exact hstill (.of_keyring hring hticks)

/-- A ring without keys decrypts nothing. -/
theorem sealedOff_of_checked {env : Environment} {s : VaultState}
    (h : (s.checked env).keyring.keys = ∅) : SealedOff env s := by
  refine ⟨⟨_, exec_sealed_empty h⟩, fun secretId => ?_⟩
  rcases hexec : (decrypt env secretId).exec s with ⟨r, s'⟩
  cases r with
  | error e => exact ⟨e, s', rfl⟩
  | ok plaintext =>
    unfold decrypt at hexec
    obtain ⟨row, s₁, hrow, hexec⟩ := Effect.exec_bind_ok.mp hexec
    rw [Effect.exec_query, Prod.mk.injEq] at hrow
    obtain ⟨master, s₂, hkey, -⟩ := Effect.exec_bind_ok.mp hexec
    rw [← hrow.2] at hkey
    obtain ⟨hne, -, -⟩ := key_ok.mp hkey
    rw [h] at hne
    exact absurd rfl hne

/-- A ring that is shut stays so while the process does not open it. -/
theorem shut_viewAfter {calls more : List (ℕ × VaultCall Request)}
    (hshut : Shut (serviceOf service timeouts process).env
      (viewAfter service timeouts host process calls))
    (hmore : ∀ c ∈ more, c.1 = process → c.2.opens = false) :
    Shut (serviceOf service timeouts process).env
      (viewAfter service timeouts host process (calls ++ more)) := by
  induction more using List.reverseRecOn with
  | nil =>
    rw [List.append_nil]
    exact hshut
  | append_singleton more c ih =>
    have hshut' := ih fun c' hc' => hmore c' (List.mem_append_left _ hc')
    obtain ⟨p, call⟩ := c
    rw [← List.append_assoc]
    by_cases hp : process = p
    · subst hp
      have hopens : call.opens = false := hmore (process, call) (by simp) rfl
      rw [viewAfter_append_self]
      exact (shutKept_run hopens _).shut hshut'
    · obtain ⟨hring, hticks⟩ := viewAfter_append_ne service timeouts host hp (calls ++ more) call
      unfold Shut
      rw [hring]
      exact hshut'.imp_right fun ⟨used, hused, hexpired⟩ =>
        ⟨used, hused, fun n hn => hexpired n (hticks.trans hn)⟩

/-- What the window promises after some calls. -/
structure WindowKept (service : VaultService Data Request) (timeouts : ℕ → Int) (host : VaultHost)
    (process : ℕ) (calls : List (ℕ × VaultCall Request)) : Prop where
  /-- once idle, the ring is sealed and nothing can be decrypted -/
  sealed_off : Idle service timeouts host process calls →
    SealedOff (serviceOf service timeouts process).env
      (viewAfter service timeouts host process calls)
  /-- and so it stays, while time goes on and the process is not unlocked -/
  stays : Monotone (fun n => (service.env.sources.clock n).1) →
    Idle service timeouts host process calls →
    ∀ more : List (ℕ × VaultCall Request), (∀ c ∈ more, c.1 = process → c.2.opens = false) →
      SealedOff (serviceOf service timeouts process).env
        (viewAfter service timeouts host process (calls ++ more))

/-- **The unlock window** is kept in every run whose denied requests find the ring sealed. -/
theorem window_kept (hnew : host.keyrings process = { parameters :=
      (host.keyrings process).parameters }) (calls : List (ℕ × VaultCall Request))
    (hdenials : DenialsSealed service timeouts host process calls) :
    WindowKept service timeouts host process calls := by
  obtain ⟨htimed, hlast⟩ := used_authorised hnew calls hdenials
  -- once idle, the ring is empty or its time of use has expired
  have hring : Idle service timeouts host process calls →
      (viewAfter service timeouts host process calls).keyring.keys = ∅ ∨
        ∃ used, (viewAfter service timeouts host process calls).keyring.lastUsedAt = some used ∧
          expired (serviceOf service timeouts process).env used (service.env.sources.clock
            (viewAfter service timeouts host process calls).ticks) := by
    intro hidle
    rcases hlast with hnone | ⟨n, hn, hused⟩
    · left
      by_contra hkeys
      exact htimed hkeys hnone
    · exact .inr ⟨_, hused, hidle n hn⟩
  refine ⟨fun hidle => sealedOff_of_checked ?_, fun hclock hidle more hmore => ?_⟩
  · rcases hring hidle with hempty | ⟨used, hused, hexpired⟩
    · exact isEmpty_checked hempty
    · rcases checked_used (serviceOf service timeouts process).env hused with hempty | ⟨-, hfresh⟩
      · exact hempty
      · exact absurd hexpired hfresh
  · have hshut : Shut (serviceOf service timeouts process).env
        (viewAfter service timeouts host process calls) := by
      rcases hring hidle with hempty | ⟨used, hused, hexpired⟩
      · exact .inl hempty
      · refine .inr ⟨used, hused, fun n hn => ?_⟩
        have hlater : (service.env.sources.clock
            (viewAfter service timeouts host process calls).ticks).1 ≤
              (service.env.sources.clock n).1 := hclock hn
        exact le_trans hexpired (sub_le_sub_right hlater used.1)
    exact sealedOff_of_checked (shut_viewAfter hshut hmore).checked

end Window

/-! ### A denied request that extends the window -/

section Example

/-- Reads nothing but garbage. -/
def refusingVerifier : CapabilityGrantVerifier where
  read _ := .error (.permission "capability signature is invalid")
  audience := "zhixu-vault"
  sha256 := id

/-- A clock in steps: the vault is set up at the epoch, the next readings up to a bound are taken
after 400 seconds, and all later ones after 800. -/
def steppedSources (bound : ℕ) : Sources where
  clock n :=
    if n < 2 then .epoch
    else if n < bound then ⟨400000000, by decide⟩
    else ⟨800000000, by decide⟩
  random _ length := List.replicate length 0
  length_random := length_zeros

/-- A service with a timeout of ten minutes, and primitives that write their argument in front
of sixteen bytes. -/
def steppedService (bound : ℕ) : VaultService Unit Unit where
  env :=
    { sources := steppedSources bound
      idleTimeout := 600000000
      aes := ⟨fun _ _ data _ => data ++ List.replicate 16 0,
        fun _ _ data _ => some (data.take (data.length - 16))⟩
      argon2 := ⟨fun _ _ salt => salt⟩
      hmac := ⟨fun _ text => String.ofList text⟩
      hkdf := fun _ key => key }
  verifier := refusingVerifier
  executors := fun _ => none
  dumps := fun _ _ => .ok []

def tenMinutes : ℕ → Int := fun _ => 600000000

def newHost : VaultHost := { keyrings := fun _ => {} }

/-- The vault is set up. -/
def setUpCalls : List (ℕ × VaultCall Unit) := [(0, .initializeVault "correct horse")]

/-- The vault is set up, and a token is refused. -/
def deniedCalls : List (ℕ × VaultCall Unit) := setUpCalls ++ [(0, .list "garbage" "s")]

theorem ring_setUp (bound : ℕ) :
    (viewAfter (steppedService bound) tenMinutes newHost 0 setUpCalls).ticks = 2 := by rfl

theorem ring_denied :
    (viewAfter (steppedService 7) tenMinutes newHost 0 deniedCalls).ticks = 7 := by rfl

/-- The readings of the set-up are the only ones that count. -/
theorem authorisedReading_denied {n : ℕ}
    (h : AuthorisedReading (steppedService 7) tenMinutes newHost 0 deniedCalls n) : n < 2 := by
  obtain ⟨before, call, rest, hcalls, hcounts, hge, hlt⟩ := h
  cases before with
  | nil =>
    obtain ⟨hcall, -⟩ := List.cons.inj hcalls
    obtain rfl := (Prod.mk.inj hcall).2
    exact ring_setUp 7 ▸ hlt
  | cons c before =>
    -- the other call was refused
    obtain ⟨rfl, htail⟩ := List.cons.inj hcalls
    cases before with
    | nil =>
      obtain ⟨hcall, -⟩ := List.cons.inj htail
      obtain rfl := (Prod.mk.inj hcall).2
      obtain ⟨check, hcheck, grant, s₁, hverified, -⟩ := hcounts
      obtain rfl := Option.some.inj hcheck
      have hrefused : ((serviceOf (steppedService 7) tenMinutes 0).verification
          (.onSecret "garbage" "s" .listMetadata)).exec
            (viewAfter (steppedService 7) tenMinutes newHost 0 setUpCalls) =
          (.error (.permission "capability signature is invalid"),
            viewAfter (steppedService 7) tenMinutes newHost 0 setUpCalls) := rfl
      have hverified' := hrefused.symm.trans hverified
      exact absurd (Prod.mk.inj hverified').1 (by simp)
    | cons c' before =>
      obtain ⟨-, hnil⟩ := List.cons.inj htail
      exact absurd hnil (by simp)

/-- **A denied request keeps the ring open.** Nothing has been authorised for 800 seconds of a
window of 600, and the ring is not sealed. -/
theorem window_counterexample :
    Idle (steppedService 7) tenMinutes newHost 0 deniedCalls ∧
      ¬ SealedOff (serviceOf (steppedService 7) tenMinutes 0).env
        (viewAfter (steppedService 7) tenMinutes newHost 0 deniedCalls) := by
  constructor
  · intro n hn
    have hzero : (steppedSources 7).clock n = ⟨0, by decide⟩ :=
      if_pos (authorisedReading_denied hn)
    rw [ring_denied]
    show expired _ ((steppedSources 7).clock n) _
    rw [hzero]
    decide
  · rintro ⟨⟨s', hsealed⟩, -⟩
    have hopen : ((sealed (serviceOf (steppedService 7) tenMinutes 0).env).exec
        (viewAfter (steppedService 7) tenMinutes newHost 0 deniedCalls)).1 = .ok false := by rfl
    rw [hsealed] at hopen
    exact absurd (Except.ok.inj hopen) (by simp)

/-- The guarantee where the vault is set up and then left alone for 800 seconds. -/
theorem window_kept_setUp :
    SealedOff (serviceOf (steppedService 2) tenMinutes 0).env
      (viewAfter (steppedService 2) tenMinutes newHost 0 setUpCalls) := by
  have hdenials : DenialsSealed (steppedService 2) tenMinutes newHost 0 setUpCalls := by
    intro before call rest hcalls check hcheck
    cases before with
    | nil =>
      obtain ⟨hcall, -⟩ := List.cons.inj hcalls
      obtain rfl := (Prod.mk.inj hcall).2
      exact absurd hcheck (by simp [VaultCall.grantCheck])
    | cons c before =>
      obtain ⟨-, hnil⟩ := List.cons.inj hcalls
      exact absurd hnil (by simp)
  refine (window_kept rfl setUpCalls hdenials).sealed_off fun n hn => ?_
  obtain ⟨before, call, rest, hcalls, hcounts, hge, hlt⟩ := hn
  have htwo : n < 2 := by
    cases before with
    | nil =>
      obtain ⟨hcall, -⟩ := List.cons.inj hcalls
      obtain rfl := (Prod.mk.inj hcall).2
      exact ring_setUp 2 ▸ hlt
    | cons c before =>
      obtain ⟨-, hnil⟩ := List.cons.inj hcalls
      exact absurd hnil (by simp)
  have hzero : (steppedSources 2).clock n = ⟨0, by decide⟩ := if_pos htwo
  rw [ring_setUp]
  show expired _ ((steppedSources 2).clock n) _
  rw [hzero]
  decide

end Example

end Zhixu.Vault
