import Zhixu.Framework.Machine
import Zhixu.Vault.Rules

/-!
# The processes of the vault

The daemon serves requests one at a time; the operator's commands are processes of their own
on the same database. So the machine has one database and a key ring for every process, a call
names its process, and a run is any sequence of calls: requests, commands, the daemon's
checkpoints, a process that starts anew. Readings of the clock and of the random source are
numbered through the whole run.

A process may have an idle timeout of its own; the verifier, the executors and the primitives
are common to all.
-/

open Framework

namespace Zhixu.Vault

/-- What a process is asked to do. -/
inductive VaultCall (Request : Type)
  | status
  | lock
  | unlock (passphrase : String)
  | create (token : String) (request : VaultService.CreateRequest)
  | listOwned (token : String)
  | list (token secretId : String)
  | reveal (token secretId : String)
  | use (token secretId executorName : String) (request : Request)
  | update (token secretId : String) (value : Bytes) (expectedVersion : Int)
  | delete (token secretId : String)
  | exportEncrypted (token secretId exportPassphrase : String)
  | rotate (token secretId passphrase : String) (fault : ℕ → Bool)
  | grantAcl (token secretId subject : String) (action : VaultAction)
  /-- the daemon's `_write_checkpoint` -/
  | checkpoint
  /-- a process that starts, with its `parameters` -/
  | restart (parameters : Argon2Parameters)
  | initializeVault (passphrase : String)
  | addKeyVersion (passphrase : String)
  | rewrap (keyVersion : ℕ) (actor : String) (fault : ℕ → Bool)
  | changePassphrase (oldPassphrase newPassphrase : String)
  /-- the event that the command writes when it has changed the passphrase -/
  | recordChange
  /-- `audit_key`, as the commands read it -/
  | auditKey (touched : Bool)

/-- What a call answers. -/
inductive VaultAnswer (Data : Type)
  | done
  | sealed (closed : Bool)
  | items (metadata : List SecretMetadata)
  | bytes (value : Bytes)
  | executed (result : ExecutionResult Data)
  | version (keyVersion : ℕ)

/-- The database, and what each process holds. -/
structure VaultHost where
  database : VaultDatabase := {}
  keyrings : ℕ → KeyringState
  ticks : ℕ := 0
  draws : ℕ := 0

/-- The state as a process sees it. -/
def VaultHost.view (host : VaultHost) (process : ℕ) : VaultState :=
  ⟨host.database, host.keyrings process, host.ticks, host.draws⟩

/-- The state after a process has changed what it sees. -/
def VaultHost.settle (host : VaultHost) (process : ℕ) (s : VaultState) : VaultHost :=
  ⟨s.database, Function.update host.keyrings process s.keyring, s.ticks, s.draws⟩

@[simp] theorem VaultHost.view_settle (host : VaultHost) (process : ℕ) (s : VaultState) :
    (host.settle process s).view process = s := by
  unfold VaultHost.view VaultHost.settle
  simp only [Function.update_self]

theorem VaultHost.view_settle_ne {process other : ℕ} (h : other ≠ process) (host : VaultHost)
    (s : VaultState) : (host.settle process s).view other =
      ⟨s.database, host.keyrings other, s.ticks, s.draws⟩ := by
  unfold VaultHost.view VaultHost.settle
  simp only [Function.update_of_ne h]

namespace VaultService

variable {Data Request : Type} (service : VaultService Data Request)

/-- `_write_checkpoint`, as far as it touches the ring. -/
def writeCheckpoint : VaultM Unit := do
  if ← sealed service.env then return ()
  tryCatch (do
    let _ ← Vault.auditKey service.env false
    let _ ← now service.env.sources
    return ()) fun _ => pure ()

/-- A process starts. -/
def start (parameters : Argon2Parameters) : VaultM Unit :=
  Effect.write fun s => { s with keyring := { parameters := parameters } }

/-- What a process does when it is asked. -/
def run : VaultCall Request → VaultM (VaultAnswer Data)
  | .status => VaultAnswer.sealed <$> sealed service.env
  | .lock => (fun _ => .done) <$> lock
  | .unlock passphrase => (fun _ => .done) <$> unlock service.env passphrase
  | .create token request => (fun m => .items [m]) <$> service.createWithGrant token request
  | .listOwned token => VaultAnswer.items <$> service.listOwnedMetadata token
  | .list token secretId => VaultAnswer.items <$> service.listMetadata token secretId
  | .reveal token secretId => VaultAnswer.bytes <$> service.reveal token secretId
  | .use token secretId executorName request =>
    VaultAnswer.executed <$> service.use token secretId executorName request
  | .update token secretId value expectedVersion =>
    (fun m => .items [m]) <$> service.update token secretId value expectedVersion
  | .delete token secretId => (fun _ => .done) <$> service.delete token secretId
  | .exportEncrypted token secretId exportPassphrase =>
    VaultAnswer.bytes <$> service.exportEncrypted token secretId exportPassphrase
  | .rotate token secretId passphrase fault =>
    VaultAnswer.version <$> service.rotateKeys token secretId passphrase fault
  | .grantAcl token secretId subject action =>
    (fun _ => .done) <$> service.grantAcl token secretId subject action
  | .checkpoint => (fun _ => .done) <$> service.writeCheckpoint
  | .restart parameters => (fun _ => .done) <$> start parameters
  | .initializeVault passphrase => (fun _ => .done) <$> initializeVault service.env passphrase
  | .addKeyVersion passphrase => VaultAnswer.version <$> addKeyVersion service.env passphrase
  | .rewrap keyVersion actor fault =>
    (fun _ => .done) <$> rewrapDataKeys service.env keyVersion actor fault
  | .changePassphrase oldPassphrase newPassphrase =>
    (fun _ => .done) <$> changePassphrase service.env oldPassphrase newPassphrase
  | .recordChange => (fun _ => .done) <$> (do
      let time ← now service.env.sources
      transaction (appendEvent service.env
        ⟨time, "operator:local", "change_passphrase", "*", "completed", ""⟩))
  | .auditKey touched => VaultAnswer.bytes <$> Vault.auditKey service.env touched

/-- The service of a process, with its timeout. -/
def withTimeout (timeout : Int) : VaultService Data Request :=
  { service with env := { service.env with idleTimeout := timeout } }

end VaultService

variable {Data Request : Type} (service : VaultService Data Request) (timeouts : ℕ → Int)

/-- All processes of the vault. -/
def vaultMachine : Machine VaultHost (ℕ × VaultCall Request)
    (Except VaultError (VaultAnswer Data)) where
  exec host call :=
    let answer := ((service.withTimeout (timeouts call.1)).run call.2).exec (host.view call.1)
    (answer.1, host.settle call.1 answer.2)

/-- A call that opens a ring. -/
def VaultCall.opens : VaultCall Request → Bool
  | .unlock _ | .initializeVault _ => true
  | _ => false

/-- **What every other call does to the ring** keeps to a relation that the primitives, the
lock, a start and a new key version keep to. -/
theorem RingRelation.run {service : VaultService Data Request}
    {R : VaultState → VaultState → Prop} (rule : RingRelation service.env R)
    (hlock : Effect.Within R lock)
    (hstart : ∀ parameters, Effect.Within R (VaultService.start parameters))
    (hadd : ∀ passphrase, Effect.Within R (Vault.addKeyVersion service.env passphrase))
    {call : VaultCall Request} (hopens : call.opens = false) :
    Effect.Within R (service.run call) := by
  have hmap : ∀ {α β : Type} (f : α → β) {m : VaultM α}, Effect.Within R m →
      Effect.Within R (f <$> m) := by
    intro α β f m hm s
    rw [Effect.exec_map]
    exact hm s
  cases call with
  | unlock passphrase => exact absurd hopens (by simp [VaultCall.opens])
  | initializeVault passphrase => exact absurd hopens (by simp [VaultCall.opens])
  | status => exact hmap _ rule.sealed
  | lock => exact hmap _ hlock
  | create token request => exact hmap _ (rule.createWithGrant token request)
  | listOwned token => exact hmap _ (rule.listOwnedMetadata token)
  | list token secretId => exact hmap _ (rule.listMetadata token secretId)
  | reveal token secretId => exact hmap _ (rule.reveal token secretId)
  | use token secretId executorName request => exact hmap _ (rule.use _ _ _ _)
  | update token secretId value expectedVersion => exact hmap _ (rule.update _ _ _ _)
  | delete token secretId => exact hmap _ (rule.delete _ _)
  | exportEncrypted token secretId exportPassphrase => exact hmap _ (rule.exportEncrypted _ _ _)
  | rotate token secretId passphrase fault => exact hmap _ (rule.rotateKeys _ _ _ _ (hadd _))
  | grantAcl token secretId subject action => exact hmap _ (rule.grantAcl _ _ _ _)
  | checkpoint =>
    exact hmap _ (rule.bind rule.sealed fun _ => RingRule.ite (rule.pure _)
      (rule.tryCatch (rule.bind (rule.auditKey false) fun _ => rule.bind rule.now fun _ =>
        rule.pure _) fun _ => rule.pure _))
  | restart parameters => exact hmap _ (hstart parameters)
  | addKeyVersion passphrase => exact hmap _ (hadd passphrase)
  | rewrap keyVersion actor fault => exact hmap _ (rule.rewrapDataKeys _ _ _)
  | changePassphrase oldPassphrase newPassphrase =>
    exact hmap _ (rule.changePassphrase oldPassphrase newPassphrase)
  | recordChange =>
    exact hmap _ (rule.bind rule.now fun _ => rule.transaction (rule.appendEvent _))
  | auditKey touched => exact hmap _ (rule.auditKey touched)

/-- **What every call does to the database** keeps to a relation that the statements keep to. -/
theorem RingRelation.run_database {service : VaultService Data Request}
    (Q : VaultDatabase → VaultDatabase → Prop)
    (rule : RingRelation service.env fun s s' => Q s.database s'.database)
    (call : VaultCall Request) :
    Effect.Within (fun s s' => Q s.database s'.database) (service.run call) := by
  by_cases hopens : call.opens = false
  · exact rule.run (fun s => rule.refl s) (fun _ s => rule.refl s)
      (rule.addKeyVersion fun _ _ s => rule.refl s) hopens
  · cases call with
    | unlock passphrase =>
      intro s
      show Q s.database (((fun _ => VaultAnswer.done) <$>
        unlock service.env passphrase).exec s).2.database
      rw [Effect.exec_map]
      have hinstall : ∀ opened : Argon2Parameters × List (ℕ × Bytes),
          Effect.Within (fun s s' => Q s.database s'.database) (do
            Effect.write fun s =>
              { s with keyring := { s.keyring with parameters := opened.1 } }
            installKeys service.env opened.2 : VaultM Unit) := fun _ s => rule.refl s
      exact rule.bind (rule.query _) hinstall s
    | initializeVault passphrase =>
      intro s
      show Q s.database (((fun _ => VaultAnswer.done) <$>
        Vault.initializeVault service.env passphrase).exec s).2.database
      rw [Effect.exec_map]
      exact rule.initializeVault (fun _ s => rule.refl s) passphrase s
    | _ => exact absurd rfl hopens

end Zhixu.Vault
