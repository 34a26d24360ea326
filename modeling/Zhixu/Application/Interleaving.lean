import Zhixu.Application.Updates
import Zhixu.Framework.Machine

/-!
# Service calls of many clients

A service that updates a record reads it in one transaction, asks the policy, and writes
in another transaction. What other clients do in between is up to them. `Course.prepare`
is the reading half of such a service (everything up to the question to the policy), and
`Course.run_eq` says that a call nobody disturbs is its halves one after the other.

`Interleaving` is the machine of any number of clients that take these steps in any
order. Each client has at most one call in flight; a client that reads again has given
up the call it was in. Besides the steps of the clients the database may change from
`outside`. The log of a run records, for each write that went through, the row that the
call had read and the row that it left: nothing in a service looks at these, they are
there for statements about runs.
-/

open Framework

namespace Zhixu

/-- A service call that has read its record: what it asks the policy about, and how it
saves. -/
structure Prepared where
  ref : ResourceRef
  save : AuthorizedAction → Transaction Database PyError Unit

/-- A transaction without its answer. -/
def unanswered {α : Type} (t : Transaction Database PyError α) : Transaction Database PyError Unit :=
  fun db => (fun out => (⟨⟩, out.2)) <$> t db

/-- A course on the record it has read. -/
def Course.prepareFrom {α : Type} (course : Course α) (existing : α) : Except PyError Prepared := do
  course.current existing
  let updated ← course.revise existing
  let ref ← course.view.ref updated
  return ⟨ref, fun authorization => unanswered (course.save updated authorization)⟩

/-- The reading half of a course. -/
def Course.prepare {α : Type} (course : Course α) (db : Database) : Except PyError Prepared :=
  match course.load db with
  | .error e => .error e
  | .ok none => .error (.notFound course.missing)
  | .ok (some existing) => course.prepareFrom existing

theorem Course.prepareFrom_ok {α : Type} {course : Course α} {existing : α} {prepared : Prepared} :
    course.prepareFrom existing = .ok prepared ↔
      ∃ u updated ref, course.current existing = .ok u ∧ course.revise existing = .ok updated ∧
        course.view.ref updated = .ok ref ∧ prepared = ⟨ref, fun authorization =>
          unanswered (course.save updated authorization)⟩ := by
  unfold Course.prepareFrom
  simp only [bind_eq_ok]
  constructor
  · rintro ⟨u, hcurrent, updated, hrevise, ref, href, h⟩
    exact ⟨u, updated, ref, hcurrent, hrevise, href, (Except.ok.inj h).symm⟩
  · rintro ⟨u, updated, ref, hcurrent, hrevise, href, rfl⟩
    exact ⟨u, hcurrent, updated, hrevise, ref, href, rfl⟩

theorem unanswered_ok {α : Type} {t : Transaction Database PyError α} {db db' : Database} {u : Unit} :
    unanswered t db = .ok (u, db') ↔ ∃ a, t db = .ok (a, db') := by
  unfold unanswered
  cases t db with
  | error e => simp
  | ok out =>
    obtain ⟨a, db₁⟩ := out
    simp

theorem exec_unanswered {α : Type} (t : Transaction Database PyError α) (db : Database) :
    (Effect.atomically (unanswered t)).exec db =
      ((fun _ => ⟨⟩) <$> ((Effect.atomically t).exec db).1, ((Effect.atomically t).exec db).2) := by
  have hrun : (unanswered t).run db = (fun out => (⟨⟩, out.2)) <$> t.run db := rfl
  rw [Effect.exec_atomically, Effect.exec_atomically, hrun]
  cases t.run db with
  | error e => rfl
  | ok out => rfl

/-- **A call that nobody disturbs is its halves, one after the other.** -/
theorem Course.run_eq {α : Type} (course : Course α) (now : Instant) (context : CommandContext)
    (db : Database) :
    (do let _ ← course.run now context; return ⟨⟩ : Effect Database PyError Unit).exec db =
      (do
        let prepared ← Effect.query course.prepare
        let authorization ← Effect.query fun db =>
          db.policyEngine.require (context.at' now) .update prepared.ref
        Effect.atomically (prepared.save authorization) : Effect Database PyError Unit).exec db := by
  rw [Effect.exec_bind, Effect.exec_bind]
  unfold Course.run
  rw [Effect.exec_bind, Effect.exec_query, Effect.exec_query]
  unfold Course.prepare
  cases course.load db with
  | error e => rfl
  | ok existing =>
    cases existing with
    | none => rfl
    | some existing =>
      simp only
      rw [Effect.exec_check_bind]
      cases hcurrent : course.current existing with
      | error e =>
        have hprepare : course.prepareFrom existing = .error e := by
          unfold Course.prepareFrom
          rw [hcurrent]
          rfl
        rw [hprepare]
      | ok u =>
        simp only
        rw [Effect.exec_check_bind]
        cases hrevise : course.revise existing with
        | error e =>
          have hprepare : course.prepareFrom existing = .error e := by
            unfold Course.prepareFrom
            rw [hcurrent, hrevise]
            rfl
          rw [hprepare]
        | ok updated =>
          simp only
          rw [Effect.exec_check_bind]
          cases href : course.view.ref updated with
          | error e =>
            have hprepare : course.prepareFrom existing = .error e := by
              unfold Course.prepareFrom
              rw [hcurrent, hrevise]
              change (course.view.ref updated >>= fun _ => _) = _
              rw [href]
              rfl
            rw [hprepare]
          | ok ref =>
            have hprepare : course.prepareFrom existing =
                .ok ⟨ref, fun authorization => unanswered (course.save updated authorization)⟩ := by
              unfold Course.prepareFrom
              rw [hcurrent, hrevise]
              change (course.view.ref updated >>= fun _ => _) = _
              rw [href]
              rfl
            rw [hprepare]
            simp only
            rw [Effect.exec_bind, Effect.exec_bind, Effect.exec_query]
            cases db.policyEngine.require (context.at' now) .update ref with
            | error e => rfl
            | ok authorization =>
              simp only
              rw [exec_unanswered]
              rcases (Effect.atomically (course.save updated authorization)).exec db with ⟨r, db'⟩
              cases r with
              | error e => rfl
              | ok a => rfl

/-! ### The machine -/

/-- Some services: how a call reads, and the stored row it is about. -/
structure Services (Op ρ : Type) where
  prepare : Op → Database → Except PyError Prepared
  target : Op → Database → Option ρ

/-- A call in flight. `base` is the row as it was when the call read it. -/
structure Flight (Op ρ : Type) where
  op : Op
  context : CommandContext
  prepared : Prepared
  base : Option ρ
  authorization : Option AuthorizedAction

/-- The database, and the calls in flight. -/
structure System (Client Op ρ : Type) where
  db : Database
  flights : Client → Option (Flight Op ρ)

/-- The steps. -/
inductive SystemCall (Client Op : Type)
  | read (client : Client) (op : Op) (now : Instant) (context : CommandContext)
  | authorize (client : Client)
  | write (client : Client)
  | outside (db : Database)

inductive SystemOutcome (Op ρ : Type)
  | going
  | raised (error : PyError)
  | written (op : Op) (authorization : AuthorizedAction) (base value : Option ρ)

namespace Interleaving

variable {Client Op ρ : Type} [DecidableEq Client]

/-- The system with another flight of a client. -/
def fly (s : System Client Op ρ) (client : Client) (flight : Option (Flight Op ρ)) :
    System Client Op ρ :=
  { s with flights := Function.update s.flights client flight }

/-- A client whose call raised. -/
def crash (s : System Client Op ρ) (client : Client) (error : PyError) :
    SystemOutcome Op ρ × System Client Op ρ :=
  (.raised error, fly s client none)

variable (services : Services Op ρ)

def read (s : System Client Op ρ) (client : Client) (op : Op) (now : Instant)
    (context : CommandContext) : SystemOutcome Op ρ × System Client Op ρ :=
  match services.prepare op s.db with
  | .error e => crash s client e
  | .ok prepared => (.going, fly s client (some {
      op
      context := context.at' now
      prepared
      base := services.target op s.db
      authorization := none }))

def authorize (s : System Client Op ρ) (client : Client) :
    SystemOutcome Op ρ × System Client Op ρ :=
  match s.flights client with
  | none => (.going, s)
  | some flight =>
    match s.db.policyEngine.require flight.context .update flight.prepared.ref with
    | .error e => crash s client e
    | .ok authorization =>
      (.going, fly s client (some { flight with authorization := some authorization }))

/-- A flight that was authorized writes. -/
def writeFor (s : System Client Op ρ) (client : Client) (flight : Flight Op ρ)
    (authorization : AuthorizedAction) : SystemOutcome Op ρ × System Client Op ρ :=
  match flight.prepared.save authorization s.db with
  | .error e => crash s client e
  | .ok (_, db) =>
    (.written flight.op authorization flight.base (services.target flight.op db),
      fly { s with db } client none)

def write (s : System Client Op ρ) (client : Client) :
    SystemOutcome Op ρ × System Client Op ρ :=
  match s.flights client with
  | none => (.going, s)
  | some flight =>
    match flight.authorization with
    | none => (.going, s)
    | some authorization => writeFor services s client flight authorization

/-- The clients of some services. -/
def machine : Machine (System Client Op ρ) (SystemCall Client Op) (SystemOutcome Op ρ) where
  exec s
    | .read client op now context => read services s client op now context
    | .authorize client => authorize s client
    | .write client => write services s client
    | .outside db => (.going, { s with db })

/-- Nobody has called yet. -/
def idle (db : Database) : System Client Op ρ := ⟨db, fun _ => none⟩

end Interleaving

end Zhixu
