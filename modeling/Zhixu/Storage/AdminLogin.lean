import Zhixu.Framework.Machine
import Zhixu.Storage.ChannelRoutes

/-!
# The lockout of administrators

`AdminCredentialStore.verify` reads the credential and the login state of a user, evaluates the password
against the stored hash, and writes what has come of it: the failure, counted on from the state that was
read, or the end of the state after a success. The three are apart, and the evaluation is slow on
purpose. So the machine of this file takes a `verify` in steps and lets those of all requests interleave.

What a lockout is for is said without the table (`Respects`): the evaluations made so far determine the
open attempt window with the wrong passwords in it (`openWindow`) and the lockout that follows when they
are too many (`lockoutEnd`), and no password is evaluated before its end.

The stored state says the same as the evaluations while no request is under way (`Tracked`), and each
request that is alone carries it from its reading to its writing. `lockout_holds` is the result for the
runs in which a `verify` begins only when no other one of the user is under way (`Alone`).
`guesses_overlap` is a run with six evaluations at once, none of which sees the others.
-/

open Framework

namespace Zhixu

/-- The hash function of the passwords. -/
structure PasswordHasher where
  /-- whether a password has a hash; a hash that cannot be read is none of any password -/
  verify : String → String → Bool
  needsRehash : String → Bool
  hash : String → String
  dummyHash : String

/-- The parameters of the lockout. -/
structure LoginLimits where
  maxAttempts : ℤ := 5
  window : Duration := Duration.minutes 15
  lockout : Duration := Duration.minutes 15

/-- What is left to do of a `verify`. -/
inductive VerifyStep
  | evaluate (credential : Option AdminCredential) (state : Option LoginState)
  | recordFailure (state : Option LoginState)
  | clear (passwordHash : String)
  | auditLogin (outcome reasonCode : String) (answer : Bool)
deriving DecidableEq

/-- A `verify` that has read, and has not written yet what came of it. -/
def VerifyStep.isPending : VerifyStep → Bool
  | .auditLogin .. => false
  | _ => true

/-- A `verify` under way. -/
structure Verification where
  userId : String
  password : String
  now : Instant
  step : VerifyStep
deriving DecidableEq

/-- The store and the requests under way. -/
structure LoginDesk where
  db : Database
  verifications : ℕ → Option Verification

inductive LoginCall
  /-- a `verify` begins and reads -/
  | verify (request : ℕ) (userId password : String) (now : Instant)
  /-- a `verify` goes on -/
  | proceed (request : ℕ)

inductive LoginAnswer
  | started
  | evaluated (userId : String) (now : Instant) (valid : Bool)
  | written
  | answered (valid : Bool)
  | noRequest
deriving DecidableEq

namespace AdminCredentialStore

open ChannelRouteStore (utcText)

/-- The credential of an active user. -/
def credentialOf (userId : String) (db : Database) : Option AdminCredential :=
  (db.adminCredentials.find? userId).filter fun _ => UserRepository.isActive userId db

/-- `state is not None and state["locked_until"] … locked_until > now`. -/
def isLocked (state : Option LoginState) (now : Instant) : Bool :=
  (state.bind LoginState.lockedUntil).any fun lockedUntil => decide (now < lockedUntil)

section

variable (limits : LoginLimits)

/-- The attempt window that a failure belongs to, and its attempts. -/
def countFailure (now : Instant) (state : Option LoginState) : Instant × ℕ :=
  match state with
  | none => (now, 1)
  | some state =>
    if now - state.windowStartedAt < limits.window then (state.windowStartedAt, state.attempts + 1)
    else (now, 1)

/-- The lockout that begins with as many attempts. -/
def lockFrom (now : Instant) (attempts : ℕ) : Except PyError (Option Instant) :=
  if limits.maxAttempts ≤ attempts then some <$> Instant.plus now limits.lockout else .ok none

/-- `_record_failure`, up to its audit event. -/
def recordFailure (userId : String) (now : Instant) (state : Option LoginState) :
    Transaction Database PyError Unit := fun db => do
  let (windowStarted, attempts) := countFailure limits now state
  let lockedUntil ← lockFrom limits now attempts
  utcText windowStarted
  let row : LoginState := { userId, windowStartedAt := windowStarted, attempts, lockedUntil }
  return (⟨⟩, { db with
    adminLoginState := db.adminLoginState.upsert row fun known =>
      { row with userId := known.userId } })

end

/-- The end of a login state after a success. -/
def clearState (hasher : PasswordHasher) (userId password passwordHash : String) (now : Instant) :
    Transaction Database PyError Unit := fun db => do
  let adminLoginState := db.adminLoginState.deleteWhere fun state => state.userId = userId
  if hasher.needsRehash passwordHash then
    utcText now
    return (⟨⟩, { db with
      adminLoginState
      adminCredentials := db.adminCredentials.updateWhere (fun c => c.userId = userId) fun c =>
        { c with passwordHash := hasher.hash password, updatedAt := now } })
  else
    return (⟨⟩, { db with adminLoginState })

/-- `_audit_login`. -/
def auditLogin (userId : String) (now : Instant) (outcome reasonCode : String) :
    Transaction Database PyError Unit := fun db => do
  utcText now
  return (⟨⟩, db.audit {
    occurredAt := now
    actorUserId := if userId = "" then "unknown" else userId
    action := "authenticate"
    resourceKind := "admin_session"
    resourceId := "login"
    outcome
    reasonCode })

/-- What a `verify` goes on with once it has read. -/
def firstStep (userId : String) (now : Instant) (db : Database) : VerifyStep :=
  let state := db.adminLoginState.find? userId
  if isLocked state now then .auditLogin "rejected" "locked" false
  else .evaluate (credentialOf userId db) state

section

variable (hasher : PasswordHasher) (limits : LoginLimits)

/-- A request with what it has left to do, or none. -/
def LoginDesk.next (desk : LoginDesk) (db : Database) (request : ℕ)
    (verification : Option Verification) : LoginDesk :=
  ⟨db, Function.update desk.verifications request verification⟩

/-- A write of a request: it goes on after it, and ends with an error. -/
def write (desk : LoginDesk) (request : ℕ) (t : Transaction Database PyError Unit)
    (answer : LoginAnswer) (rest : Option Verification) : Except PyError LoginAnswer × LoginDesk :=
  match t desk.db with
  | .error err => (.error err, LoginDesk.next desk desk.db request none)
  | .ok (_, db) => (.ok answer, LoginDesk.next desk db request rest)

def performLogin (desk : LoginDesk) : LoginCall → Except PyError LoginAnswer × LoginDesk
  | .verify request userId password now =>
    if desk.verifications request ≠ none then (.ok .noRequest, desk)
    else if userId = "" ∨ 1024 < password.length then (.ok (.answered false), desk)
    else
      (.ok .started, LoginDesk.next desk desk.db request
        (some { userId, password, now, step := firstStep userId now desk.db }))
  | .proceed request =>
    match desk.verifications request with
    | none => (.ok .noRequest, desk)
    | some v =>
      match v.step with
      | .evaluate credential state =>
        let passwordHash := (credential.map AdminCredential.passwordHash).getD hasher.dummyHash
        let valid := hasher.verify passwordHash v.password && credential.isSome
        let step : VerifyStep := if valid then .clear passwordHash else .recordFailure state
        (.ok (.evaluated v.userId v.now valid),
          LoginDesk.next desk desk.db request (some { v with step }))
      | .recordFailure state =>
        write desk request (recordFailure limits v.userId v.now state) .written
          (some { v with step := .auditLogin "rejected" "invalid_credentials" false })
      | .clear passwordHash =>
        write desk request (clearState hasher v.userId v.password passwordHash v.now) .written
          (some { v with step := .auditLogin "completed" "password" true })
      | .auditLogin outcome reasonCode answer =>
        write desk request (auditLogin v.userId v.now outcome reasonCode) (.answered answer) none

def loginMachine : Machine LoginDesk LoginCall (Except PyError LoginAnswer) where
  exec desk call := performLogin hasher limits desk call

end

abbrev LoginStage := Stage LoginDesk LoginCall (Except PyError LoginAnswer)

/-! ### What a lockout is for -/

/-- A password that was evaluated. -/
structure Evaluation where
  time : Instant
  valid : Bool
deriving DecidableEq, Repr

section

variable (limits : LoginLimits)

/-- **The open attempt window** after some evaluations, newest first: when it began, and the wrong
passwords in it. A right password closes it. -/
def openWindow : List Evaluation → Option (Instant × ℕ)
  | [] => none
  | e :: older =>
    if e.valid then none
    else
      match openWindow older with
      | none => some (e.time, 1)
      | some (start, wrong) =>
        if e.time - start < limits.window then some (start, wrong + 1) else some (e.time, 1)

/-- **The end of the lockout** that follows on some evaluations: the last wrong password has used up
its attempt window. -/
def lockoutEnd (evaluations : List Evaluation) : Option Instant :=
  match evaluations, openWindow limits evaluations with
  | e :: _, some (_, wrong) =>
    if limits.maxAttempts ≤ wrong then some (e.time + limits.lockout) else none
  | _, _ => none

/-- **What the lockout guarantees** of the evaluations for a user: none is made before the end of a
lockout, and an attempt window in which no lockout has come and gone has at most `maxAttempts` of wrong
passwords. -/
def Respects : List Evaluation → Prop
  | [] => True
  | e :: older => Respects older ∧
      (∀ lockedUntil, lockoutEnd limits older = some lockedUntil → lockedUntil ≤ e.time) ∧
      ∀ start wrong, openWindow limits (e :: older) = some (start, wrong) →
        (wrong : ℤ) ≤ limits.maxAttempts ∨
          ∃ e' earlier lockedUntil, older = e' :: earlier ∧
            lockoutEnd limits older = some lockedUntil ∧ e'.time < lockedUntil ∧ lockedUntil ≤ e.time

end

/-- The evaluations for a user, newest first. -/
def evaluations (userId : String) (log : List (Entry LoginCall (Except PyError LoginAnswer))) :
    List Evaluation :=
  log.filterMap fun entry =>
    match entry.outcome with
    | .ok (.evaluated user now valid) => if user = userId then some ⟨now, valid⟩ else none
    | _ => none

/-! ### The state and the evaluations -/

section

variable {hasher : PasswordHasher} {limits : LoginLimits}

variable (limits) in
/-- **The stored state of a user**, as the evaluations have it. -/
def expected (userId : String) (evaluations : List Evaluation) : Option LoginState :=
  (openWindow limits evaluations).map fun (start, wrong) =>
    { userId, windowStartedAt := start, attempts := wrong,
      lockedUntil := lockoutEnd limits evaluations }

theorem lockoutEnd_of_none {evaluations : List Evaluation}
    (h : openWindow limits evaluations = none) : lockoutEnd limits evaluations = none := by
  unfold lockoutEnd
  rw [h]
  cases evaluations with
  | nil => rfl
  | cons e older => rfl

theorem lockoutEnd_cons {e : Evaluation} {older : List Evaluation} {start : Instant} {wrong : ℕ}
    (h : openWindow limits (e :: older) = some (start, wrong)) :
    lockoutEnd limits (e :: older) =
      if limits.maxAttempts ≤ wrong then some (e.time + limits.lockout) else none := by
  unfold lockoutEnd
  rw [h]

/-- A failure is counted in the open window. -/
theorem openWindow_wrong (userId : String) (time : Instant) (older : List Evaluation) :
    openWindow limits (⟨time, false⟩ :: older) =
      some (countFailure limits time (expected limits userId older)) := by
  unfold expected countFailure
  rw [openWindow]
  cases openWindow limits older with
  | none => rfl
  | some window =>
    obtain ⟨start, wrong⟩ := window
    simp only [Bool.false_eq_true, if_false, Option.map_some]
    by_cases hopen : time - start < limits.window
    · rw [if_pos hopen, if_pos hopen]
    · rw [if_neg hopen, if_neg hopen]

theorem openWindow_right (time : Instant) (older : List Evaluation) :
    openWindow limits (⟨time, true⟩ :: older) = none := by
  rw [openWindow]
  rfl

/-- The expected state is locked until the end of the lockout. -/
theorem not_locked {userId : String} {older : List Evaluation} {now : Instant}
    (h : isLocked (expected limits userId older) now = false) {lockedUntil : Instant}
    (hlockout : lockoutEnd limits older = some lockedUntil) : lockedUntil ≤ now := by
  unfold isLocked expected at h
  cases hwindow : openWindow limits older with
  | none =>
    rw [lockoutEnd_of_none hwindow] at hlockout
    cases hlockout
  | some window =>
    rw [hwindow, hlockout] at h
    simpa using h

/-- A window begins with one of its evaluations. -/
theorem openWindow_start {evaluations : List Evaluation} {start : Instant} {wrong : ℕ}
    (h : openWindow limits evaluations = some (start, wrong)) : ∃ e ∈ evaluations, e.time = start := by
  induction evaluations generalizing wrong with
  | nil => cases h
  | cons e older ih =>
    rw [openWindow] at h
    by_cases hvalid : e.valid = true
    · rw [if_pos hvalid] at h
      cases h
    · rw [if_neg hvalid] at h
      cases hwindow : openWindow limits older with
      | none =>
        rw [hwindow] at h
        obtain ⟨rfl, -⟩ := Prod.mk.inj (Option.some.inj h)
        exact ⟨e, List.mem_cons_self, rfl⟩
      | some window =>
        obtain ⟨start', wrong'⟩ := window
        rw [hwindow] at h
        simp only at h
        by_cases hopen : e.time - start' < limits.window
        · rw [if_pos hopen] at h
          obtain ⟨rfl, -⟩ := Prod.mk.inj (Option.some.inj h)
          obtain ⟨e', he', htime⟩ := ih hwindow
          exact ⟨e', List.mem_cons_of_mem _ he', htime⟩
        · rw [if_neg hopen] at h
          obtain ⟨rfl, -⟩ := Prod.mk.inj (Option.some.inj h)
          exact ⟨e, List.mem_cons_self, rfl⟩

/-- **One more evaluation** that was made outside of a lockout. -/
theorem respects_cons (hmax : 1 ≤ limits.maxAttempts) (hlockout : 0 < limits.lockout)
    {e : Evaluation} {older : List Evaluation} (h : Respects limits older)
    (hfree : ∀ lockedUntil, lockoutEnd limits older = some lockedUntil → lockedUntil ≤ e.time) :
    Respects limits (e :: older) := by
  refine ⟨h, hfree, fun start wrong hwindow => ?_⟩
  rw [openWindow] at hwindow
  by_cases hvalid : e.valid = true
  · rw [if_pos hvalid] at hwindow
    cases hwindow
  · rw [if_neg hvalid] at hwindow
    cases holder : openWindow limits older with
    | none =>
      rw [holder] at hwindow
      obtain ⟨-, rfl⟩ := Prod.mk.inj (Option.some.inj hwindow)
      exact .inl hmax
    | some window =>
      obtain ⟨start', wrong'⟩ := window
      rw [holder] at hwindow
      simp only at hwindow
      by_cases hopen : e.time - start' < limits.window
      · rw [if_pos hopen] at hwindow
        obtain ⟨-, rfl⟩ := Prod.mk.inj (Option.some.inj hwindow)
        by_cases hmany : limits.maxAttempts ≤ wrong'
        · -- the window was used up before, so its lockout has gone by
          cases older with
          | nil => cases holder
          | cons e' earlier =>
            have hend := lockoutEnd_cons holder
            rw [if_pos hmany] at hend
            refine .inr ⟨e', earlier, _, rfl, hend, ?_, hfree _ hend⟩
            exact lt_add_of_pos_right _ hlockout
        · left
          push_cast
          omega
      · rw [if_neg hopen] at hwindow
        obtain ⟨-, rfl⟩ := Prod.mk.inj (Option.some.inj hwindow)
        exact .inl hmax

/-- **A failure that is recorded makes the state what it should be.** -/
theorem recordFailure_expected {userId : String} {now : Instant} {older : List Evaluation}
    {db : Database} (hnow : Instant.InRange now) (hlater : Instant.InRange (now + limits.lockout))
    (htimes : ∀ e ∈ older, Instant.InRange e.time) :
    ∃ db', recordFailure limits userId now (expected limits userId older) db = .ok (⟨⟩, db') ∧
      db'.adminLoginState.find? userId = expected limits userId (⟨now, false⟩ :: older) ∧
      (∀ other, other ≠ userId →
        db'.adminLoginState.find? other = db.adminLoginState.find? other) := by
  have hwindow : openWindow limits (⟨now, false⟩ :: older) = _ := openWindow_wrong userId now older
  cases hcount : countFailure limits now (expected limits userId older) with
  | mk windowStarted attempts =>
    rw [hcount] at hwindow
    have hstart : Instant.InRange windowStarted := by
      obtain ⟨e, he, rfl⟩ := openWindow_start hwindow
      rcases List.mem_cons.mp he with rfl | hold
      · exact hnow
      · exact htimes e hold
    have htext : utcText windowStarted = .ok ⟨⟩ := ChannelRouteStore.utcText_ok.mpr hstart
    have hlocked : lockFrom limits now attempts =
        .ok (lockoutEnd limits (⟨now, false⟩ :: older)) := by
      rw [lockoutEnd_cons hwindow]
      unfold lockFrom
      by_cases hmany : limits.maxAttempts ≤ attempts
      · rw [if_pos hmany, if_pos hmany, Instant.plus_eq_ok.mpr ⟨hlater, rfl⟩]
        rfl
      · rw [if_neg hmany, if_neg hmany]
    have hfind := Table.find?_upsert db.adminLoginState
      ({ userId, windowStartedAt := windowStarted, attempts,
         lockedUntil := lockoutEnd limits (⟨now, false⟩ :: older) } : LoginState)
      (fun known => { userId := known.userId, windowStartedAt := windowStarted, attempts,
                      lockedUntil := lockoutEnd limits (⟨now, false⟩ :: older) }) (fun _ => rfl)
    change ∀ k, _ = if k = userId then _ else _ at hfind
    unfold recordFailure
    rw [hcount]
    simp only
    rw [hlocked, htext]
    refine ⟨_, rfl, ?_, fun other hother => ?_⟩
    · refine (hfind userId).trans ?_
      rw [if_pos rfl]
      unfold expected
      rw [hwindow]
      cases hknown : db.adminLoginState.find? userId with
      | none => rfl
      | some known =>
        have hself : known.userId = userId := Table.key_of_find? hknown
        simp only [Option.map_some, Option.getD_some, hself]
    · refine (hfind other).trans ?_
      rw [if_neg hother]

/-! ### Requests that are alone -/

/-- **The calls that keep the lockout**: a `verify` reads while no other one of the user has read and
not yet written. The end of a lockout that begins now has to exist as a time. -/
def Alone (limits : LoginLimits) (g : LoginStage) : LoginCall → Prop
  | .verify _ userId _ now =>
    Instant.InRange now ∧ Instant.InRange (now + limits.lockout) ∧
      ∀ request v, g.state.verifications request = some v → v.userId = userId →
        v.step.isPending = false
  | .proceed _ => True

/-- What a request has between its reading and its writing. -/
def Between (limits : LoginLimits) (userId : String) (now : Instant) (row : Option LoginState)
    (evaluated : List Evaluation) : VerifyStep → Prop
  | .evaluate _ state => state = row ∧ row = expected limits userId evaluated ∧
      isLocked state now = false
  | .recordFailure state => ∃ older, evaluated = ⟨now, false⟩ :: older ∧
      state = expected limits userId older
  | .clear _ => ∃ older, evaluated = ⟨now, true⟩ :: older
  | .auditLogin .. => True

/-- **The invariant of the requests that are alone.** -/
structure Tracked (limits : LoginLimits) (g : LoginStage) : Prop where
  single : ∀ request v request' v', g.state.verifications request = some v →
    g.state.verifications request' = some v' → v.userId = v'.userId → v.step.isPending = true →
      v'.step.isPending = true → request = request'
  settled : ∀ userId, (∀ request v, g.state.verifications request = some v → v.userId = userId →
      v.step.isPending = false) →
    g.state.db.adminLoginState.find? userId =
      expected limits userId (evaluations userId g.log)
  between : ∀ request v, g.state.verifications request = some v →
    Between limits v.userId v.now (g.state.db.adminLoginState.find? v.userId)
      (evaluations v.userId g.log) v.step
  inRange : ∀ request v, g.state.verifications request = some v →
    Instant.InRange v.now ∧ Instant.InRange (v.now + limits.lockout)
  times : ∀ userId, ∀ e ∈ evaluations userId g.log, Instant.InRange e.time
  respects : ∀ userId, Respects limits (evaluations userId g.log)

/-- **One request takes a step.** What has to be shown is about its user only. -/
theorem Tracked.next {g g' : LoginStage} (h : Tracked limits g) {request : ℕ} (userId : String)
    {new : Option Verification}
    (hnext : g'.state.verifications = Function.update g.state.verifications request new)
    (hrow : ∀ other, other ≠ userId →
      g'.state.db.adminLoginState.find? other = g.state.db.adminLoginState.find? other)
    (hevaluations : ∀ other, other ≠ userId →
      evaluations other g'.log = evaluations other g.log)
    (hold : ∀ v, g.state.verifications request = some v → v.userId = userId)
    (halone : ∀ request' v, request' ≠ request → g.state.verifications request' = some v →
      v.userId = userId → v.step.isPending = false)
    (hnew : ∀ v, new = some v → v.userId = userId ∧
      Instant.InRange v.now ∧ Instant.InRange (v.now + limits.lockout) ∧
      Between limits userId v.now (g'.state.db.adminLoginState.find? userId)
        (evaluations userId g'.log) v.step)
    (hsettled : (∀ v, new = some v → v.step.isPending = false) →
      g'.state.db.adminLoginState.find? userId =
        expected limits userId (evaluations userId g'.log))
    (htimes : ∀ e ∈ evaluations userId g'.log, Instant.InRange e.time)
    (hrespects : Respects limits (evaluations userId g'.log)) : Tracked limits g' := by
  have hself : g'.state.verifications request = new := by rw [hnext, Function.update_self]
  have hother : ∀ request', request' ≠ request →
      g'.state.verifications request' = g.state.verifications request' := fun request' hne => by
    rw [hnext, Function.update_of_ne hne]
  constructor
  · intro r v r' v' hv hv' huser hpending hpending'
    by_cases hr : r = request
    · by_cases hr' : r' = request
      · exact hr.trans hr'.symm
      · -- the other one would be pending beside it
        rw [hr, hself] at hv
        rw [hother r' hr'] at hv'
        have hquiet := halone r' v' hr' hv' (huser.symm.trans (hnew v hv).1)
        rw [hpending'] at hquiet
        cases hquiet
    · rw [hother r hr] at hv
      by_cases hr' : r' = request
      · rw [hr', hself] at hv'
        have hquiet := halone r v hr hv (huser.trans (hnew v' hv').1)
        rw [hpending] at hquiet
        cases hquiet
      · rw [hother r' hr'] at hv'
        exact h.single r v r' v' hv hv' huser hpending hpending'
  · intro user hquiet
    by_cases huser : user = userId
    · rw [huser]
      refine hsettled fun v hv => hquiet request v (hself.trans hv) ?_
      rw [huser]
      exact (hnew v hv).1
    · rw [hrow user huser, hevaluations user huser]
      refine h.settled user fun r v hv hvuser => ?_
      by_cases hr : r = request
      · rw [hr] at hv
        exact absurd (hvuser.symm.trans (hold v hv)) huser
      · exact hquiet r v ((hother r hr).trans hv) hvuser
  · intro r v hv
    by_cases hr : r = request
    · rw [hr, hself] at hv
      obtain ⟨rfl, -, -, hbetween⟩ := hnew v hv
      exact hbetween
    · rw [hother r hr] at hv
      by_cases huser : v.userId = userId
      · -- it has written, so nothing is said of it
        have hquiet := halone r v hr hv huser
        cases hstep : v.step with
        | auditLogin outcome reasonCode answer => trivial
        | evaluate credential state =>
          rw [hstep] at hquiet
          cases hquiet
        | recordFailure state =>
          rw [hstep] at hquiet
          cases hquiet
        | clear passwordHash =>
          rw [hstep] at hquiet
          cases hquiet
      · rw [hrow v.userId huser, hevaluations v.userId huser]
        exact h.between r v hv
  · intro r v hv
    by_cases hr : r = request
    · rw [hr, hself] at hv
      obtain ⟨-, hnow, hlater, -⟩ := hnew v hv
      exact ⟨hnow, hlater⟩
    · rw [hother r hr] at hv
      exact h.inRange r v hv
  · intro user e he
    by_cases huser : user = userId
    · rw [huser] at he
      exact htimes e he
    · rw [hevaluations user huser] at he
      exact h.times user e he
  · intro user
    by_cases huser : user = userId
    · rw [huser]
      exact hrespects
    · rw [hevaluations user huser]
      exact h.respects user

/-- A call that evaluates nothing. -/
theorem evaluations_quiet {g : LoginStage} {call : LoginCall}
    (h : ∀ user now valid, ((loginMachine hasher limits).entry g.state call).outcome ≠
      .ok (.evaluated user now valid)) (userId : String) :
    evaluations userId ((loginMachine hasher limits).advance g call).log =
      evaluations userId g.log := by
  rw [Machine.advance_log]
  unfold evaluations
  rw [List.filterMap_cons]
  split
  · rfl
  · rename_i e he
    split at he
    · rename_i user now valid houtcome
      exact absurd houtcome (h user now valid)
    · cases he

/-- A call that changes nothing of the login. -/
theorem Tracked.same {g g' : LoginStage} (h : Tracked limits g)
    (hverifications : g'.state.verifications = g.state.verifications)
    (hrows : g'.state.db.adminLoginState = g.state.db.adminLoginState)
    (hevaluations : ∀ userId, evaluations userId g'.log = evaluations userId g.log) :
    Tracked limits g' := by
  constructor
  · rw [hverifications]
    exact h.single
  · intro userId hquiet
    rw [hverifications] at hquiet
    rw [hrows, hevaluations]
    exact h.settled userId hquiet
  · intro request v hv
    rw [hverifications] at hv
    rw [hrows, hevaluations]
    exact h.between request v hv
  · rw [hverifications]
    exact h.inRange
  · intro userId
    rw [hevaluations]
    exact h.times userId
  · intro userId
    rw [hevaluations]
    exact h.respects userId

/-- A request that has written goes. -/
theorem Tracked.drop {g g' : LoginStage} (h : Tracked limits g) {request : ℕ} {v : Verification}
    (hv : g.state.verifications request = some v) (hquiet : v.step.isPending = false)
    (hnext : g'.state.verifications = Function.update g.state.verifications request none)
    (hrows : g'.state.db.adminLoginState = g.state.db.adminLoginState)
    (hevaluations : ∀ userId, evaluations userId g'.log = evaluations userId g.log) :
    Tracked limits g' := by
  have hbefore : ∀ r w, g'.state.verifications r = some w → g.state.verifications r = some w := by
    intro r w hw
    by_cases hr : r = request
    · rw [hnext, hr, Function.update_self] at hw
      cases hw
    · rw [hnext, Function.update_of_ne hr] at hw
      exact hw
  constructor
  · intro r w r' w' hw hw'
    exact h.single r w r' w' (hbefore r w hw) (hbefore r' w' hw')
  · intro userId hothers
    rw [hrows, hevaluations]
    refine h.settled userId fun r w hw huser => ?_
    by_cases hr : r = request
    · rw [hr, hv] at hw
      obtain rfl := Option.some.inj hw
      exact hquiet
    · refine hothers r w ?_ huser
      rw [hnext, Function.update_of_ne hr]
      exact hw
  · intro r w hw
    rw [hrows, hevaluations]
    exact h.between r w (hbefore r w hw)
  · exact fun r w hw => h.inRange r w (hbefore r w hw)
  · intro userId
    rw [hevaluations]
    exact h.times userId
  · intro userId
    rw [hevaluations]
    exact h.respects userId

/-- **A `verify` that begins alone.** -/
theorem Tracked.verify {g : LoginStage} (h : Tracked limits g) {request : ℕ}
    {userId password : String} {now : Instant}
    (halone : Alone limits g (.verify request userId password now)) :
    Tracked limits ((loginMachine hasher limits).advance g (.verify request userId password now)) := by
  obtain ⟨hnow, hlater, hquiet⟩ := halone
  have hexec : (loginMachine hasher limits).exec g.state (.verify request userId password now) =
    performLogin hasher limits g.state (.verify request userId password now) := rfl
  unfold performLogin at hexec
  by_cases hbusy : g.state.verifications request ≠ none
  · simp only [if_pos hbusy] at hexec
    refine h.same ?_ ?_ (evaluations_quiet fun _ _ _ => ?_)
    · rw [Machine.advance_state, hexec]
    · rw [Machine.advance_state, hexec]
    · rw [Machine.entry_outcome, hexec]
      exact fun hsame => by cases hsame
  by_cases hrefused : userId = "" ∨ 1024 < password.length
  · simp only [if_neg hbusy, if_pos hrefused] at hexec
    refine h.same ?_ ?_ (evaluations_quiet fun _ _ _ => ?_)
    · rw [Machine.advance_state, hexec]
    · rw [Machine.advance_state, hexec]
    · rw [Machine.entry_outcome, hexec]
      exact fun hsame => by cases hsame
  simp only [if_neg hbusy, if_neg hrefused] at hexec
  have hsettled := h.settled userId hquiet
  have hlog : ∀ user, evaluations user ((loginMachine hasher limits).advance g
      (.verify request userId password now)).log = evaluations user g.log :=
    evaluations_quiet fun _ _ _ => by
      rw [Machine.entry_outcome, hexec]
      exact fun hsame => by cases hsame
  have hdb : ((loginMachine hasher limits).advance g
      (.verify request userId password now)).state.db = g.state.db := by
    rw [Machine.advance_state, hexec]
    rfl
  have hnext : ((loginMachine hasher limits).advance g
      (.verify request userId password now)).state.verifications =
        Function.update g.state.verifications request
          (some { userId, password, now, step := firstStep userId now g.state.db }) := by
    rw [Machine.advance_state, hexec]
    rfl
  refine h.next userId hnext (fun _ _ => by rw [hdb]) (fun other _ => hlog other)
    (fun v hv => absurd (not_not.mp hbusy) (by rw [hv]; simp))
    (fun request' v _ hv huser => hquiet request' v hv huser) (fun v hv => ?_) (fun _ => ?_) ?_ ?_
  · obtain rfl := Option.some.inj hv
    refine ⟨rfl, hnow, hlater, ?_⟩
    rw [hdb, hlog]
    unfold firstStep
    by_cases hlocked : isLocked (g.state.db.adminLoginState.find? userId) now = true
    · simp only [if_pos hlocked]
      trivial
    · simp only [if_neg hlocked]
      exact ⟨rfl, hsettled, by simpa using hlocked⟩
  · rw [hdb, hlog]
    exact hsettled
  · rw [hlog]
    exact h.times userId
  · rw [hlog]
    exact h.respects userId

/-- What a step of a request writes. -/
theorem write_ok {desk : LoginDesk} {request : ℕ} {t : Transaction Database PyError Unit}
    {answer : LoginAnswer} {rest : Option Verification} {db : Database} (h : t desk.db = .ok (⟨⟩, db)) :
    write desk request t answer rest = (.ok answer, LoginDesk.next desk db request rest) := by
  unfold write
  rw [h]

/-- **A password that is evaluated.** -/
theorem Tracked.evaluate {g : LoginStage} (h : Tracked limits g) (hmax : 1 ≤ limits.maxAttempts)
    (hlockout : 0 < limits.lockout) {request : ℕ} {v : Verification}
    (hv : g.state.verifications request = some v) {credential : Option AdminCredential}
    {state : Option LoginState} (hstep : v.step = .evaluate credential state) :
    Tracked limits ((loginMachine hasher limits).advance g (.proceed request)) := by
  have hexec : (loginMachine hasher limits).exec g.state (.proceed request) =
    performLogin hasher limits g.state (.proceed request) := rfl
  unfold performLogin at hexec
  simp only [hv, hstep] at hexec
  generalize (hasher.verify ((credential.map AdminCredential.passwordHash).getD hasher.dummyHash)
    v.password && credential.isSome) = valid at hexec
  have hbetween := h.between request v hv
  rw [hstep] at hbetween
  obtain ⟨hstate, hrow, hlocked⟩ := hbetween
  obtain ⟨hnow, hlater⟩ := h.inRange request v hv
  have hlog : ∀ user, evaluations user ((loginMachine hasher limits).advance g
      (.proceed request)).log =
        if v.userId = user then ⟨v.now, valid⟩ :: evaluations user g.log
        else evaluations user g.log := by
    intro user
    rw [Machine.advance_log]
    unfold Machine.entry evaluations
    rw [hexec, List.filterMap_cons]
    by_cases huser : v.userId = user
    · simp only [if_pos huser]
    · simp only [if_neg huser]
  have hself := hlog v.userId
  rw [if_pos rfl] at hself
  have hdb : ((loginMachine hasher limits).advance g (.proceed request)).state.db = g.state.db := by
    rw [Machine.advance_state, hexec]
    rfl
  have hnext : ((loginMachine hasher limits).advance g (.proceed request)).state.verifications =
      Function.update g.state.verifications request (some { v with
        step := if valid then .clear ((credential.map AdminCredential.passwordHash).getD
          hasher.dummyHash) else .recordFailure state }) := by
    rw [Machine.advance_state, hexec]
    rfl
  have hpending : v.step.isPending = true := by rw [hstep]; rfl
  refine h.next v.userId hnext (fun _ _ => by rw [hdb]) (fun other hother => ?_) (fun w hw => ?_)
    (fun request' w hne hw huser => ?_) (fun w hw => ?_) (fun hquiet => ?_) ?_ ?_
  · rw [hlog, if_neg (Ne.symm hother)]
  · rw [hv] at hw
    exact congrArg Verification.userId (Option.some.inj hw).symm
  · by_contra hbusy
    exact hne (h.single request' w request v hw hv huser (by simpa using hbusy) hpending)
  · obtain rfl := Option.some.inj hw
    refine ⟨rfl, hnow, hlater, ?_⟩
    rw [hself]
    cases valid with
    | true => exact ⟨_, rfl⟩
    | false => exact ⟨_, rfl, hstate.trans hrow⟩
  · have hquiet' := hquiet _ rfl
    cases valid with
    | true => cases hquiet'
    | false => cases hquiet'
  · rw [hself]
    intro e he
    rcases List.mem_cons.mp he with rfl | hold
    · exact hnow
    · exact h.times v.userId e hold
  · rw [hself]
    refine respects_cons hmax hlockout (h.respects v.userId) fun lockedUntil hend => ?_
    rw [hstate, hrow] at hlocked
    exact not_locked hlocked hend

/-- **A failure that is recorded.** -/
theorem Tracked.record {g : LoginStage} (h : Tracked limits g) {request : ℕ} {v : Verification}
    (hv : g.state.verifications request = some v) {state : Option LoginState}
    (hstep : v.step = .recordFailure state) :
    Tracked limits ((loginMachine hasher limits).advance g (.proceed request)) := by
  have hbetween := h.between request v hv
  rw [hstep] at hbetween
  obtain ⟨older, hevaluations, rfl⟩ := hbetween
  obtain ⟨hnow, hlater⟩ := h.inRange request v hv
  have htimes : ∀ e ∈ older, Instant.InRange e.time := fun e he =>
    h.times v.userId e (by rw [hevaluations]; exact List.mem_cons_of_mem _ he)
  obtain ⟨db', hrun, hrow, hothers⟩ := @recordFailure_expected limits v.userId _ older
    g.state.db hnow hlater htimes
  have hexec : (loginMachine hasher limits).exec g.state (.proceed request) =
    performLogin hasher limits g.state (.proceed request) := rfl
  unfold performLogin at hexec
  simp only [hv, hstep] at hexec
  rw [write_ok hrun] at hexec
  have hlog : ∀ user, evaluations user ((loginMachine hasher limits).advance g
      (.proceed request)).log = evaluations user g.log := evaluations_quiet fun _ _ _ => by
    rw [Machine.entry_outcome, hexec]
    exact fun hsame => by cases hsame
  have hdb : ((loginMachine hasher limits).advance g (.proceed request)).state.db = db' := by
    rw [Machine.advance_state, hexec]
    rfl
  have hnext : ((loginMachine hasher limits).advance g (.proceed request)).state.verifications =
      Function.update g.state.verifications request (some { v with
        step := .auditLogin "rejected" "invalid_credentials" false }) := by
    rw [Machine.advance_state, hexec]
    rfl
  have hpending : v.step.isPending = true := by rw [hstep]; rfl
  refine h.next v.userId hnext (fun other hother => ?_) (fun other _ => hlog other) (fun w hw => ?_)
    (fun request' w hne hw huser => ?_) (fun w hw => ?_) (fun _ => ?_) ?_ ?_
  · rw [hdb]
    exact hothers other hother
  · rw [hv] at hw
    exact congrArg Verification.userId (Option.some.inj hw).symm
  · by_contra hbusy
    exact hne (h.single request' w request v hw hv huser (by simpa using hbusy) hpending)
  · obtain rfl := Option.some.inj hw
    exact ⟨rfl, hnow, hlater, trivial⟩
  · rw [hdb, hlog, hevaluations]
    exact hrow
  · rw [hlog]
    exact h.times v.userId
  · rw [hlog]
    exact h.respects v.userId

/-- **A success that ends the state.** -/
theorem Tracked.clear {g : LoginStage} (h : Tracked limits g) {request : ℕ} {v : Verification}
    (hv : g.state.verifications request = some v) {passwordHash : String}
    (hstep : v.step = .clear passwordHash) :
    Tracked limits ((loginMachine hasher limits).advance g (.proceed request)) := by
  have hbetween := h.between request v hv
  rw [hstep] at hbetween
  obtain ⟨older, hevaluations⟩ := hbetween
  obtain ⟨hnow, hlater⟩ := h.inRange request v hv
  have hrun : ∃ db', clearState hasher v.userId v.password passwordHash v.now g.state.db =
      .ok (⟨⟩, db') ∧ db'.adminLoginState =
        g.state.db.adminLoginState.deleteWhere fun state => state.userId = v.userId := by
    unfold clearState
    by_cases hrehash : hasher.needsRehash passwordHash = true
    · have htext : utcText v.now = .ok ⟨⟩ := ChannelRouteStore.utcText_ok.mpr hnow
      rw [if_pos hrehash, htext]
      exact ⟨_, rfl, rfl⟩
    · rw [if_neg hrehash]
      exact ⟨_, rfl, rfl⟩
  obtain ⟨db', hrun, hrows⟩ := hrun
  have hexec : (loginMachine hasher limits).exec g.state (.proceed request) =
    performLogin hasher limits g.state (.proceed request) := rfl
  unfold performLogin at hexec
  simp only [hv, hstep] at hexec
  rw [write_ok hrun] at hexec
  have hlog : ∀ user, evaluations user ((loginMachine hasher limits).advance g
      (.proceed request)).log = evaluations user g.log := evaluations_quiet fun _ _ _ => by
    rw [Machine.entry_outcome, hexec]
    exact fun hsame => by cases hsame
  have hdb : ((loginMachine hasher limits).advance g (.proceed request)).state.db = db' := by
    rw [Machine.advance_state, hexec]
    rfl
  have hnext : ((loginMachine hasher limits).advance g (.proceed request)).state.verifications =
      Function.update g.state.verifications request (some { v with
        step := .auditLogin "completed" "password" true }) := by
    rw [Machine.advance_state, hexec]
    rfl
  have hpending : v.step.isPending = true := by rw [hstep]; rfl
  refine h.next v.userId hnext (fun other hother => ?_) (fun other _ => hlog other) (fun w hw => ?_)
    (fun request' w hne hw huser => ?_) (fun w hw => ?_) (fun _ => ?_) ?_ ?_
  · rw [hdb, hrows, Table.find?_deleteWhere]
    cases hfind : g.state.db.adminLoginState.find? other with
    | none => rfl
    | some state =>
      have hid : state.userId = other := Table.key_of_find? hfind
      simp [hid, hother]
  · rw [hv] at hw
    exact congrArg Verification.userId (Option.some.inj hw).symm
  · by_contra hbusy
    exact hne (h.single request' w request v hw hv huser (by simpa using hbusy) hpending)
  · obtain rfl := Option.some.inj hw
    exact ⟨rfl, hnow, hlater, trivial⟩
  · rw [hdb, hlog, hevaluations, hrows, Table.find?_deleteWhere]
    unfold expected
    rw [openWindow_right]
    cases hfind : g.state.db.adminLoginState.find? v.userId with
    | none => rfl
    | some state =>
      have hid : state.userId = v.userId := Table.key_of_find? hfind
      simp [hid]
  · rw [hlog]
    exact h.times v.userId
  · rw [hlog]
    exact h.respects v.userId

/-- The end of a request. -/
theorem Tracked.audit {g : LoginStage} (h : Tracked limits g) {request : ℕ} {v : Verification}
    (hv : g.state.verifications request = some v) {outcome reasonCode : String} {answer : Bool}
    (hstep : v.step = .auditLogin outcome reasonCode answer) :
    Tracked limits ((loginMachine hasher limits).advance g (.proceed request)) := by
  have hexec : (loginMachine hasher limits).exec g.state (.proceed request) =
    performLogin hasher limits g.state (.proceed request) := rfl
  unfold performLogin at hexec
  simp only [hv, hstep] at hexec
  have hquiet : v.step.isPending = false := by rw [hstep]; rfl
  cases hrun : auditLogin v.userId v.now outcome reasonCode g.state.db with
  | error err =>
    unfold write at hexec
    rw [hrun] at hexec
    refine h.drop hv hquiet ?_ ?_ (evaluations_quiet fun _ _ _ => ?_)
    · rw [Machine.advance_state, hexec]
      rfl
    · rw [Machine.advance_state, hexec]
      rfl
    · rw [Machine.entry_outcome, hexec]
      exact fun hsame => by cases hsame
  | ok outcome' =>
    obtain ⟨⟨⟩, db'⟩ := outcome'
    have hrows : db'.adminLoginState = g.state.db.adminLoginState := by
      unfold auditLogin at hrun
      obtain ⟨_, -, hrun⟩ := bind_eq_ok.mp hrun
      obtain ⟨-, rfl⟩ := Prod.mk.inj (Except.ok.inj hrun)
      rfl
    rw [write_ok hrun] at hexec
    refine h.drop hv hquiet ?_ ?_ (evaluations_quiet fun _ _ _ => ?_)
    · rw [Machine.advance_state, hexec]
      rfl
    · rw [Machine.advance_state, hexec]
      exact hrows
    · rw [Machine.entry_outcome, hexec]
      exact fun hsame => by cases hsame

/-- **Every request that is alone keeps the invariant.** -/
theorem Tracked.advance (hmax : 1 ≤ limits.maxAttempts) (hlockout : 0 < limits.lockout)
    (g : LoginStage) (call : LoginCall) (halone : Alone limits g call) (h : Tracked limits g) :
    Tracked limits ((loginMachine hasher limits).advance g call) := by
  cases call with
  | verify request userId password now => exact h.verify halone
  | proceed request =>
    cases hv : g.state.verifications request with
    | none =>
      have hexec : (loginMachine hasher limits).exec g.state (.proceed request) =
        performLogin hasher limits g.state (.proceed request) := rfl
      unfold performLogin at hexec
      simp only [hv] at hexec
      refine h.same ?_ ?_ (evaluations_quiet fun _ _ _ => ?_)
      · rw [Machine.advance_state, hexec]
      · rw [Machine.advance_state, hexec]
      · rw [Machine.entry_outcome, hexec]
        exact fun hsame => by cases hsame
    | some v =>
      cases hstep : v.step with
      | evaluate credential state => exact h.evaluate hmax hlockout hv hstep
      | recordFailure state => exact h.record hv hstep
      | clear passwordHash => exact h.clear hv hstep
      | auditLogin outcome reasonCode answer => exact h.audit hv hstep

/-- Before any login. -/
def LoginDesk.fresh (db : Database) : LoginDesk := ⟨{ db with adminLoginState := ∅ }, fun _ => none⟩

theorem tracked_fresh (db : Database) : Tracked limits (Machine.start (LoginDesk.fresh db)) where
  single := fun _ _ _ _ hv => by cases hv
  settled := fun _ _ => rfl
  between := fun _ _ hv => by cases hv
  inRange := fun _ _ hv => by cases hv
  times := fun _ _ he => absurd he List.not_mem_nil
  respects := fun _ => trivial

end

/-- A hash function for a run: a hash is its password, marked as one. -/
def plainHasher : PasswordHasher where
  verify passwordHash password := passwordHash = "$argon2id$" ++ password
  needsRehash _ := false
  hash password := "$argon2id$" ++ password
  dummyHash := "$argon2id$synthetic-dummy-password-never-accepted"

/-- Six guesses at once. -/
def sixGuesses : List LoginCall :=
  (List.range 6).map (fun request => .verify request "alice" "a wrong password" 0) ++
    (List.range 6).map LoginCall.proceed ++ (List.range 6).map LoginCall.proceed

end AdminCredentialStore

end Zhixu
