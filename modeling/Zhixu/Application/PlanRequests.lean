import Zhixu.Framework.Machine
import Zhixu.Storage.PendingPlans

/-!
# Requests for a pending plan

A button below a plan, or a word of its actor, makes a request: confirm the plan, reject it, cancel it,
or adjust its notifications. The engine reads the plan in one transaction and answers the request in
another one, with the plan as it was read. What lies between is time in which other requests come
through, for the same plan or for others of the conversation. So the machine of this file takes a
request in two calls, `read` and `finish`, keeps what was read in between (`PlanDesk`), and lets the
calls of all requests interleave. The operations of the store are calls of their own as well, with any
arguments.

Two results:

* `pendingPlans_settle` — a conversation has one open plan of an actor at most, an accepted plan stays
  as it is, no plan is consumed twice, and a plan is executed for its actor in its conversation, by a
  request that came before it expired. The invariant is `Settled`. All of it comes from the rows
  continuing (`PlansContinue`), and from a plan being open when it is consumed.
* `executes_stored_iff` — which runs execute what is stored. A confirmation executes the payload it has
  read, and the plan is consumed whatever its payload is by then. So the two agree exactly if no
  adjustment has come between that changed the payload (`Undisturbed`).
-/

open Framework

namespace Zhixu

/-- What a request does with the plan it reads. -/
inductive PlanIntent
  | confirm
  | reject
  | cancel
  /-- a message that takes the current plan back -/
  | cancelByText
  /-- the payload an adjustment makes of the plan, if it makes one -/
  | adjust (rewrite : PendingPlan → Option String)

/-- A request that has read its plan. -/
structure Reading where
  intent : PlanIntent
  actorUserId : String
  targetRef : String
  now : Instant
  plan : PendingPlan

/-- The store and the requests under way. -/
structure PlanDesk where
  db : Database
  readings : ℕ → Option Reading

/-- Before any plan. -/
def PlanDesk.fresh (db : Database) : PlanDesk :=
  ⟨{ db with assistantPendingPlans := ∅ }, fun _ => none⟩

inductive PlanCall
  /-- `_stage_plan` puts a plan -/
  | stage (actorUserId targetRef action payloadJson : String) (now : Instant) (ttl : Duration)
      (fresh : String)
  /-- a request with the id of a plan reads it -/
  | read (request : ℕ) (intent : PlanIntent) (planId actorUserId targetRef : String) (now : Instant)
  /-- a message reads the current plan of its conversation and takes it back -/
  | readCurrent (request : ℕ) (actorUserId targetRef : String) (now : Instant)
  /-- a request does what it has come for -/
  | finish (request : ℕ)
  | updatePayload (planId actorUserId targetRef payloadJson : String) (now : Instant)
  | reject (planId : String) (now : Instant)
  | consume (planId : String) (now : Instant)

inductive PlanAnswer
  | staged (plan : PendingPlan)
  | found (plan : Option PendingPlan)
  /-- the plan of the reading is executed, with the payload that was read -/
  | executed (reading : Reading)
  /-- the plan is consumed, but its payload is none -/
  | invalidPlan (planId : String)
  | cancelled (planId : String) (consumed : Bool)
  | alreadyHandled
  | revising
  | adjusted (plan : PendingPlan)
  /-- an adjustment that writes nothing -/
  | unwritten
  | consumed (planId : String) (consumed : Bool)
  | noRequest

/-- The answer to an adjustment. -/
def PlanAnswer.ofUpdate : Option PendingPlan → PlanAnswer
  | none => .alreadyHandled
  | some plan => .adjusted plan

namespace AssistantEngine

open PendingPlanStore

section

-- whether an action and its payload can be decoded, as `_decode_plan_value` and `IntentAction` do
variable (runnable : String → String → Bool)

/-- The rest of a request, once it has read its plan. -/
def finishRequest (reading : Reading) : Effect Database PyError PlanAnswer :=
  match reading.intent with
  | .confirm =>
    (fun consumed =>
      if consumed = false then .alreadyHandled
      else if runnable reading.plan.action reading.plan.payloadJson then .executed reading
      else .invalidPlan reading.plan.id) <$>
        Effect.atomically (consume reading.plan.id reading.now)
  | .reject => (fun _ => .revising) <$> Effect.atomically (reject reading.plan.id reading.now)
  | .cancel =>
    (fun consumed =>
      if consumed = false then .alreadyHandled else .cancelled reading.plan.id consumed) <$>
        Effect.atomically (consume reading.plan.id reading.now)
  | .cancelByText =>
    .cancelled reading.plan.id <$> Effect.atomically (consume reading.plan.id reading.now)
  | .adjust rewrite =>
    match rewrite reading.plan with
    | none => pure .unwritten
    | some payloadJson =>
      PlanAnswer.ofUpdate <$>
        Effect.atomically (updatePayload reading.plan.id reading.actorUserId reading.targetRef
          payloadJson reading.now)

/-- A request keeps the plan it finds. -/
def takeReading (desk : PlanDesk) (request : ℕ) (intent : PlanIntent)
    (actorUserId targetRef : String) (now : Instant) (found : Except PyError (Option PendingPlan)) :
    Except PyError PlanAnswer × PlanDesk :=
  match found with
  | .error err => (.error err, desk)
  | .ok none => (.ok (.found none), desk)
  | .ok (some plan) =>
    (.ok (.found (some plan)), { desk with
      readings := Function.update desk.readings request
        (some { intent, actorUserId, targetRef, now, plan }) })

/-- A call of the store. -/
def onStore (desk : PlanDesk) (m : Effect Database PyError PlanAnswer) :
    Except PyError PlanAnswer × PlanDesk :=
  ((m.exec desk.db).1, { desk with db := (m.exec desk.db).2 })

def performPlan (desk : PlanDesk) : PlanCall → Except PyError PlanAnswer × PlanDesk
  | .stage actorUserId targetRef action payloadJson now ttl fresh =>
    onStore desk (.staged <$>
      Effect.atomically (put actorUserId targetRef action payloadJson now ttl fresh))
  | .read request intent planId actorUserId targetRef now =>
    takeReading desk request intent actorUserId targetRef now
      (get planId actorUserId targetRef now desk.db)
  | .readCurrent request actorUserId targetRef now =>
    takeReading desk request .cancelByText actorUserId targetRef now
      (current actorUserId targetRef now desk.db)
  | .finish request =>
    match desk.readings request with
    | none => (.ok .noRequest, desk)
    | some reading =>
      onStore { desk with readings := Function.update desk.readings request none }
        (finishRequest runnable reading)
  | .updatePayload planId actorUserId targetRef payloadJson now =>
    onStore desk (PlanAnswer.ofUpdate <$>
      Effect.atomically (updatePayload planId actorUserId targetRef payloadJson now))
  | .reject planId now =>
    onStore desk ((fun _ => .revising) <$> Effect.atomically (reject planId now))
  | .consume planId now =>
    onStore desk (.consumed planId <$> Effect.atomically (consume planId now))

def planMachine : Machine PlanDesk PlanCall (Except PyError PlanAnswer) where
  exec desk call := performPlan runnable desk call

end

abbrev PlanStage := Stage PlanDesk PlanCall (Except PyError PlanAnswer)

variable {runnable : String → String → Bool}

/-! ### One call -/

/-- A transaction continues the plans if it does when it succeeds. -/
theorem plansContinue_transaction {α : Type} {f : α → PlanAnswer}
    {t : Transaction Database PyError α} {db : Database}
    (h : ∀ a db', t db = .ok (a, db') →
      PlansContinue db.assistantPendingPlans db'.assistantPendingPlans) :
    PlansContinue db.assistantPendingPlans
      ((f <$> Effect.atomically t).exec db).2.assistantPendingPlans := by
  rw [Effect.exec_map]
  refine Effect.exec_atomically_keeps (P := fun after : Database =>
    PlansContinue db.assistantPendingPlans after.assistantPendingPlans) (.refl _) h

/-- What a request does to the plans. -/
theorem plansContinue_finishRequest (reading : Reading) (db : Database) :
    PlansContinue db.assistantPendingPlans
      ((finishRequest runnable reading).exec db).2.assistantPendingPlans := by
  unfold finishRequest
  have hself : PlansContinue db.assistantPendingPlans db.assistantPendingPlans := .refl _
  cases reading.intent with
  | confirm =>
    exact plansContinue_transaction fun _ _ => plansContinue_consume
  | reject =>
    exact plansContinue_transaction fun _ _ => plansContinue_reject
  | cancel =>
    exact plansContinue_transaction fun _ _ => plansContinue_consume
  | cancelByText =>
    exact plansContinue_transaction fun _ _ => plansContinue_consume
  | adjust rewrite =>
    simp only
    cases rewrite reading.plan with
    | none => exact hself
    | some payloadJson =>
      exact plansContinue_transaction fun _ _ => plansContinue_updatePayload

theorem takeReading_db (desk : PlanDesk) (request : ℕ) (intent : PlanIntent)
    (actorUserId targetRef : String) (now : Instant) (found : Except PyError (Option PendingPlan)) :
    (takeReading desk request intent actorUserId targetRef now found).2.db = desk.db := by
  unfold takeReading
  cases found with
  | error err => rfl
  | ok plan =>
    cases plan with
    | none => rfl
    | some plan => rfl

/-- **Every call continues the plans.** -/
theorem plansContinue_advance (g : PlanStage) (call : PlanCall) :
    PlansContinue g.state.db.assistantPendingPlans
      ((planMachine runnable).advance g call).state.db.assistantPendingPlans := by
  show PlansContinue _ (performPlan runnable g.state call).2.db.assistantPendingPlans
  have hself : PlansContinue g.state.db.assistantPendingPlans g.state.db.assistantPendingPlans :=
    .refl _
  unfold performPlan
  cases call with
  | stage actorUserId targetRef action payloadJson now ttl fresh =>
    exact plansContinue_transaction fun _ _ => plansContinue_put
  | read request intent planId actorUserId targetRef now =>
    simp only
    rw [takeReading_db]
    exact hself
  | readCurrent request actorUserId targetRef now =>
    simp only
    rw [takeReading_db]
    exact hself
  | finish request =>
    simp only
    cases g.state.readings request with
    | none => exact hself
    | some reading => exact plansContinue_finishRequest reading g.state.db
  | updatePayload planId actorUserId targetRef payloadJson now =>
    exact plansContinue_transaction fun _ _ => plansContinue_updatePayload
  | reject planId now =>
    exact plansContinue_transaction fun _ _ => plansContinue_reject
  | consume planId now =>
    exact plansContinue_transaction fun _ _ => plansContinue_consume

/-- What a stored plan is after more calls. -/
theorem continues_replay {g : PlanStage} {p : PendingPlan}
    (hp : p ∈ g.state.db.assistantPendingPlans.rows) (calls : List PlanCall) :
    ∃ q ∈ ((planMachine runnable).replay g calls).state.db.assistantPendingPlans.rows,
      Continues p q := by
  induction calls generalizing g p with
  | nil => exact ⟨p, hp, .refl p⟩
  | cons call calls ih =>
    obtain ⟨q, hq, hcontinues⟩ := (@plansContinue_advance runnable g call).kept p hp
    obtain ⟨r, hr, hlater⟩ := ih hq
    exact ⟨r, hr, hcontinues.trans hlater⟩

/-! ### Consuming a plan -/

/-- The calls that have consumed a plan. -/
def consumes (planId : String) (entry : Entry PlanCall (Except PyError PlanAnswer)) : Bool :=
  match entry.outcome with
  | .ok (.executed reading) => reading.plan.id = planId
  | .ok (.invalidPlan id) => id = planId
  | .ok (.cancelled id consumed) => id = planId && consumed
  | .ok (.consumed id consumed) => id = planId && consumed
  | _ => false

/-- A plan that is consumed was open, and is accepted from then on. -/
structure Consumed (planId : String) (T U : Plans) : Prop where
  wasOpen : ∃ p ∈ T.rows, p.id = planId ∧ p.isOpen = true
  isAccepted : ∃ q ∈ U.rows, q.id = planId ∧ q.state = .accepted

theorem consumed_of_ok {planId : String} {now : Instant} {db db' : Database}
    (h : consume planId now db = .ok (true, db')) :
    Consumed planId db.assistantPendingPlans db'.assistantPendingPlans := by
  obtain ⟨hconsumed, hafter⟩ := consume_ok h
  obtain ⟨p, hp, hopen⟩ := hconsumed.mp rfl
  obtain ⟨hmem, hid⟩ := Table.find?_eq_some.mp hp
  refine ⟨⟨p, hmem, hid, hopen⟩, { p with state := .accepted }, ?_, hid, rfl⟩
  rw [hafter]
  refine List.mem_map.mpr ⟨p, hmem, ?_⟩
  rw [if_pos]
  simp [hid, hopen]

/-- A transaction that has answered was carried out. -/
theorem answer_transaction {α : Type} {f : α → PlanAnswer} {t : Transaction Database PyError α}
    {db : Database} {answer : PlanAnswer}
    (h : ((f <$> Effect.atomically t).exec db).1 = .ok answer) :
    ∃ a db', t db = .ok (a, db') ∧ f a = answer ∧ ((f <$> Effect.atomically t).exec db).2 = db' := by
  rw [Effect.exec_map, Effect.exec_atomically, StateT.run] at h
  rw [Effect.exec_map, Effect.exec_atomically, StateT.run]
  cases hrun : t db with
  | error err =>
    rw [hrun] at h
    cases h
  | ok outcome =>
    rw [hrun] at h
    exact ⟨outcome.1, outcome.2, rfl, Except.ok.inj h, rfl⟩

/-- Where the answers of a transaction consume nothing, it has consumed nothing. -/
theorem not_consumes_transaction {α : Type} {f : α → PlanAnswer}
    {t : Transaction Database PyError α} {db : Database} {planId : String} {call : PlanCall}
    (hf : ∀ a, consumes planId ⟨call, .ok (f a)⟩ = false)
    (h : consumes planId ⟨call, ((f <$> Effect.atomically t).exec db).1⟩ = true) : False := by
  cases hanswer : ((f <$> Effect.atomically t).exec db).1 with
  | error err =>
    rw [hanswer] at h
    cases h
  | ok answer =>
    rw [hanswer] at h
    obtain ⟨a, -, -, rfl, -⟩ := answer_transaction hanswer
    rw [hf a] at h
    cases h

/-- Where the answers of a `consume` say of its plan whether it was consumed, they say it rightly. -/
theorem consumed_transaction {f : Bool → PlanAnswer} {id planId : String} (now : Instant)
    {db : Database} {call : PlanCall}
    (hf : ∀ consumed, consumes planId ⟨call, .ok (f consumed)⟩ = true →
      id = planId ∧ consumed = true)
    (h : consumes planId ⟨call, ((f <$> Effect.atomically (consume id now)).exec db).1⟩ = true) :
    Consumed planId db.assistantPendingPlans
      ((f <$> Effect.atomically (consume id now)).exec db).2.assistantPendingPlans := by
  cases hanswer : ((f <$> Effect.atomically (consume id now)).exec db).1 with
  | error err =>
    rw [hanswer] at h
    cases h
  | ok answer =>
    rw [hanswer] at h
    obtain ⟨consumed, db', hrun, rfl, hafter⟩ := answer_transaction hanswer
    obtain ⟨rfl, rfl⟩ := hf consumed h
    rw [hafter]
    exact consumed_of_ok hrun

theorem consumed_finishRequest {reading : Reading} {db : Database} {planId : String}
    {call : PlanCall}
    (h : consumes planId ⟨call, ((finishRequest runnable reading).exec db).1⟩ = true) :
    Consumed planId db.assistantPendingPlans
      ((finishRequest runnable reading).exec db).2.assistantPendingPlans := by
  unfold finishRequest at h ⊢
  cases hintent : reading.intent with
  | confirm =>
    simp only [hintent] at h
    refine consumed_transaction reading.now (fun consumed hconsumes => ?_) h
    cases consumed with
    | false => cases hconsumes
    | true =>
      by_cases hrun : runnable reading.plan.action reading.plan.payloadJson = true
      · rw [if_neg (by simp), if_pos hrun] at hconsumes
        exact ⟨of_decide_eq_true hconsumes, rfl⟩
      · rw [if_neg (by simp), if_neg hrun] at hconsumes
        exact ⟨of_decide_eq_true hconsumes, rfl⟩
  | reject =>
    simp only [hintent] at h
    exact (not_consumes_transaction (fun _ => rfl) h).elim
  | cancel =>
    simp only [hintent] at h
    refine consumed_transaction reading.now (fun consumed hconsumes => ?_) h
    cases consumed with
    | false => cases hconsumes
    | true =>
      unfold consumes at hconsumes
      simpa using hconsumes
  | cancelByText =>
    simp only [hintent] at h
    refine consumed_transaction reading.now (fun consumed hconsumes => ?_) h
    unfold consumes at hconsumes
    simpa using hconsumes
  | adjust rewrite =>
    simp only [hintent] at h
    cases hrewrite : rewrite reading.plan with
    | none =>
      simp only [hrewrite] at h
      cases h
    | some payloadJson =>
      simp only [hrewrite] at h
      exact (not_consumes_transaction (fun updated => by cases updated <;> rfl) h).elim

theorem not_consumes_takeReading {desk : PlanDesk} {request : ℕ} {intent : PlanIntent}
    {actorUserId targetRef planId : String} {now : Instant}
    {found : Except PyError (Option PendingPlan)} {call : PlanCall} :
    consumes planId
      ⟨call, (takeReading desk request intent actorUserId targetRef now found).1⟩ = false := by
  unfold takeReading
  cases found with
  | error err => rfl
  | ok plan =>
    cases plan with
    | none => rfl
    | some plan => rfl

/-- **A call that consumes a plan finds it open and leaves it accepted.** -/
theorem consumed_advance {g : PlanStage} {call : PlanCall} {planId : String}
    (h : consumes planId ((planMachine runnable).entry g.state call) = true) :
    Consumed planId g.state.db.assistantPendingPlans
      ((planMachine runnable).advance g call).state.db.assistantPendingPlans := by
  change consumes planId ⟨call, (performPlan runnable g.state call).1⟩ = true at h
  show Consumed planId _ (performPlan runnable g.state call).2.db.assistantPendingPlans
  unfold performPlan at h ⊢
  cases call with
  | stage actorUserId targetRef action payloadJson now ttl fresh =>
    exact (not_consumes_transaction (fun _ => rfl) h).elim
  | read request intent planId actorUserId targetRef now =>
    simp only at h
    rw [not_consumes_takeReading] at h
    cases h
  | readCurrent request actorUserId targetRef now =>
    simp only at h
    rw [not_consumes_takeReading] at h
    cases h
  | finish request =>
    cases hreading : g.state.readings request with
    | none =>
      simp only [hreading] at h
      cases h
    | some reading =>
      simp only [hreading] at h ⊢
      exact consumed_finishRequest h
  | updatePayload planId actorUserId targetRef payloadJson now =>
    exact (not_consumes_transaction (fun updated => by cases updated <;> rfl) h).elim
  | reject planId now => exact (not_consumes_transaction (fun _ => rfl) h).elim
  | consume planId now =>
    refine consumed_transaction now (fun consumed hconsumes => ?_) h
    unfold consumes at hconsumes
    simpa using hconsumes

/-! ### Readings -/

theorem takeReading_readings {desk : PlanDesk} {request request' : ℕ} {intent : PlanIntent}
    {actorUserId targetRef : String} {now : Instant} {found : Except PyError (Option PendingPlan)}
    {reading : Reading}
    (h : (takeReading desk request intent actorUserId targetRef now found).2.readings request' =
      some reading) :
    desk.readings request' = some reading ∨
      (request' = request ∧ ∃ plan, found = .ok (some plan) ∧
        reading = { intent, actorUserId, targetRef, now, plan }) := by
  unfold takeReading at h
  cases found with
  | error err => exact .inl h
  | ok plan =>
    cases plan with
    | none => exact .inl h
    | some plan =>
      change Function.update desk.readings request _ request' = _ at h
      by_cases hrequest : request' = request
      · rw [hrequest, Function.update_self] at h
        exact .inr ⟨hrequest, plan, rfl, (Option.some.inj h).symm⟩
      · rw [Function.update_of_ne hrequest] at h
        exact .inl h

/-- **Where a reading comes from**: it was there before, or the call has made it. -/
theorem readings_advance {g : PlanStage} {call : PlanCall} {request : ℕ} {reading : Reading}
    (h : ((planMachine runnable).advance g call).state.readings request = some reading) :
    g.state.readings request = some reading ∨
      (Readable reading.actorUserId reading.targetRef reading.now reading.plan g.state.db ∧
        (reading.intent = .cancelByText ∨ call = .read request reading.intent reading.plan.id
          reading.actorUserId reading.targetRef reading.now)) := by
  change (performPlan runnable g.state call).2.readings request = some reading at h
  unfold performPlan at h
  cases call with
  | stage actorUserId targetRef action payloadJson now ttl fresh => exact .inl h
  | read request' intent planId actorUserId targetRef now =>
    rcases takeReading_readings h with hbefore | ⟨rfl, plan, hget, rfl⟩
    · exact .inl hbefore
    · obtain ⟨rfl, hreadable⟩ := get_ok hget
      exact .inr ⟨hreadable, .inr rfl⟩
  | readCurrent request' actorUserId targetRef now =>
    rcases takeReading_readings h with hbefore | ⟨rfl, plan, hcurrent, rfl⟩
    · exact .inl hbefore
    · exact .inr ⟨current_ok hcurrent, .inl rfl⟩
  | finish request' =>
    cases hreading : g.state.readings request' with
    | none =>
      simp only [hreading] at h
      exact .inl h
    | some reading' =>
      simp only [hreading, onStore] at h
      by_cases hrequest : request = request'
      · rw [hrequest, Function.update_self] at h
        cases h
      · rw [Function.update_of_ne hrequest] at h
        exact .inl h
  | updatePayload planId actorUserId targetRef payloadJson now => exact .inl h
  | reject planId now => exact .inl h
  | consume planId now => exact .inl h

/-- **What executes a plan**: a request that confirms it. -/
theorem executed_entry {g : PlanStage} {call : PlanCall} {reading : Reading}
    (h : ((planMachine runnable).entry g.state call).outcome = .ok (.executed reading)) :
    ∃ request, call = .finish request ∧ g.state.readings request = some reading ∧
      reading.intent = .confirm ∧
      runnable reading.plan.action reading.plan.payloadJson = true := by
  change (performPlan runnable g.state call).1 = _ at h
  unfold performPlan at h
  cases call with
  | stage actorUserId targetRef action payloadJson now ttl fresh =>
    obtain ⟨_, _, -, hanswer, -⟩ := answer_transaction h
    cases hanswer
  | read request intent planId actorUserId targetRef now =>
    simp only [takeReading] at h
    split at h <;> cases h
  | readCurrent request actorUserId targetRef now =>
    simp only [takeReading] at h
    split at h <;> cases h
  | finish request =>
    refine ⟨request, rfl, ?_⟩
    cases hreading : g.state.readings request with
    | none =>
      simp only [hreading] at h
      cases h
    | some reading' =>
      simp only [hreading, onStore] at h
      unfold finishRequest at h
      cases hintent : reading'.intent with
      | confirm =>
        simp only [hintent] at h
        obtain ⟨consumed, _, -, hanswer, -⟩ := answer_transaction h
        cases consumed with
        | false => cases hanswer
        | true =>
          by_cases hrun : runnable reading'.plan.action reading'.plan.payloadJson = true
          · rw [if_neg (by simp), if_pos hrun] at hanswer
            obtain rfl := PlanAnswer.executed.inj hanswer
            exact ⟨rfl, hintent, hrun⟩
          · rw [if_neg (by simp), if_neg hrun] at hanswer
            cases hanswer
      | reject =>
        simp only [hintent] at h
        obtain ⟨_, _, -, hanswer, -⟩ := answer_transaction h
        cases hanswer
      | cancel =>
        simp only [hintent] at h
        obtain ⟨consumed, _, -, hanswer, -⟩ := answer_transaction h
        cases consumed with
        | false => cases hanswer
        | true => cases hanswer
      | cancelByText =>
        simp only [hintent] at h
        obtain ⟨_, _, -, hanswer, -⟩ := answer_transaction h
        cases hanswer
      | adjust rewrite =>
        simp only [hintent] at h
        cases hrewrite : rewrite reading'.plan with
        | none =>
          simp only [hrewrite] at h
          cases h
        | some payloadJson =>
          simp only [hrewrite] at h
          obtain ⟨updated, _, -, hanswer, -⟩ := answer_transaction h
          cases updated with
          | none => cases hanswer
          | some plan => cases hanswer
  | updatePayload planId actorUserId targetRef payloadJson now =>
    obtain ⟨updated, _, -, hanswer, -⟩ := answer_transaction h
    cases updated with
    | none => cases hanswer
    | some plan => cases hanswer
  | reject planId now =>
    obtain ⟨_, _, -, hanswer, -⟩ := answer_transaction h
    cases hanswer
  | consume planId now =>
    obtain ⟨_, _, -, hanswer, -⟩ := answer_transaction h
    cases hanswer

/-! ### All runs -/

/-- What is known of a request that has read a plan: it is from the actor of the plan, in its
conversation, in time, and the plan is there still. -/
structure Held (g : PlanStage) (request : ℕ) (reading : Reading) : Prop where
  actor : reading.plan.actorUserId = reading.actorUserId
  target : reading.plan.targetRef = reading.targetRef
  unexpired : reading.now < reading.plan.expiresAt
  stored : ∃ q ∈ g.state.db.assistantPendingPlans.rows, Continues reading.plan q
  asked : reading.intent = .cancelByText ∨ ∃ entry ∈ g.log, entry.call = .read request
    reading.intent reading.plan.id reading.actorUserId reading.targetRef reading.now

theorem Held.advance {g : PlanStage} {request : ℕ} {reading : Reading} (h : Held g request reading)
    (call : PlanCall) : Held ((planMachine runnable).advance g call) request reading := by
  obtain ⟨p, hp, hcontinues⟩ := h.stored
  obtain ⟨q, hq, hlater⟩ := (@plansContinue_advance runnable g call).kept p hp
  refine ⟨h.actor, h.target, h.unexpired, ⟨q, hq, hcontinues.trans hlater⟩, ?_⟩
  rcases h.asked with htext | ⟨entry, hentry, hcall⟩
  · exact .inl htext
  · exact .inr ⟨entry, List.mem_cons_of_mem _ hentry, hcall⟩

/-- **The invariant of the plans and their requests.** -/
structure Settled (g : PlanStage) : Prop where
  oneOpen : OneOpen g.state.db.assistantPendingPlans
  once : ∀ planId, g.log.countP (consumes planId) ≤ 1
  gone : ∀ planId, 0 < g.log.countP (consumes planId) →
    ∃ p ∈ g.state.db.assistantPendingPlans.rows, p.id = planId ∧ p.state = .accepted
  held : ∀ request reading, g.state.readings request = some reading → Held g request reading
  executed : ∀ entry ∈ g.log, ∀ reading, entry.outcome = .ok (.executed reading) →
    reading.intent = .confirm ∧ ∃ request, entry.call = .finish request ∧ Held g request reading

theorem settled_fresh (db : Database) : Settled (Machine.start (PlanDesk.fresh db)) where
  oneOpen := fun _ hp => absurd hp List.not_mem_nil
  once := fun _ => Nat.zero_le 1
  gone := fun _ h => absurd h (Nat.lt_irrefl 0)
  held := fun _ _ h => by cases h
  executed := fun _ h => absurd h List.not_mem_nil

/-- A plan that was consumed is not consumed again, since it is not open any more. -/
theorem Settled.count_advance {g : PlanStage} (h : Settled g) (call : PlanCall) (planId : String) :
    ((planMachine runnable).advance g call).log.countP (consumes planId) ≤ 1 ∧
      (0 < ((planMachine runnable).advance g call).log.countP (consumes planId) →
        ∃ p ∈ ((planMachine runnable).advance g call).state.db.assistantPendingPlans.rows,
          p.id = planId ∧ p.state = .accepted) := by
  rw [Machine.advance_log]
  by_cases hnew : consumes planId ((planMachine runnable).entry g.state call) = true
  · have hconsumed := consumed_advance hnew
    obtain ⟨p, hp, hid, hopen⟩ := hconsumed.wasOpen
    have hnone : g.log.countP (consumes planId) = 0 := by
      by_contra hsome
      obtain ⟨q, hq, hqid, hstate⟩ := h.gone planId (Nat.pos_of_ne_zero hsome)
      obtain rfl := g.state.db.assistantPendingPlans.eq_of_key_eq hp hq (hid.trans hqid.symm)
      exact PendingPlan.isOpen_iff.mp hopen hstate
    rw [List.countP_cons_of_pos hnew, hnone]
    exact ⟨le_refl 1, fun _ => hconsumed.isAccepted⟩
  · rw [List.countP_cons_of_neg hnew]
    refine ⟨h.once planId, fun hpos => ?_⟩
    obtain ⟨p, hp, hid, hstate⟩ := h.gone planId hpos
    obtain ⟨q, hq, hcontinues⟩ := (@plansContinue_advance runnable g call).kept p hp
    obtain rfl := hcontinues.settled hstate
    exact ⟨q, hq, hid, hstate⟩

/-- **Every call keeps the invariant.** -/
theorem Settled.advance (g : PlanStage) (call : PlanCall) (h : Settled g) :
    Settled ((planMachine runnable).advance g call) where
  oneOpen := (plansContinue_advance g call).oneOpen h.oneOpen
  once := fun planId => (h.count_advance call planId).1
  gone := fun planId => (h.count_advance call planId).2
  held := by
    intro request reading hreading
    rcases readings_advance hreading with hbefore | ⟨hreadable, hasked⟩
    · exact (h.held request reading hbefore).advance call
    · obtain ⟨q, hq, hcontinues⟩ :=
        (@plansContinue_advance runnable g call).kept _ hreadable.stored
      refine ⟨hreadable.actor, hreadable.target, hreadable.unexpired, ⟨q, hq, hcontinues⟩, ?_⟩
      rcases hasked with htext | hcall
      · exact .inl htext
      · exact .inr ⟨_, List.mem_cons_self, hcall⟩
  executed := by
    intro entry hentry reading hexecuted
    rcases List.mem_cons.mp hentry with rfl | hold
    · obtain ⟨request, hcall, hreading, hintent, -⟩ := executed_entry hexecuted
      exact ⟨hintent, request, hcall, (h.held request reading hreading).advance call⟩
    · obtain ⟨hintent, request, hcall, hheld⟩ := h.executed entry hold reading hexecuted
      exact ⟨hintent, request, hcall, hheld.advance call⟩

theorem settled_replay (db : Database) (calls : List PlanCall) :
    Settled ((planMachine runnable).replay (Machine.start (PlanDesk.fresh db)) calls) :=
  Machine.replay_invariant (planMachine runnable) Settled.advance (settled_fresh db) calls

/-- What an execution is entitled by: the plan is one of the actor in the conversation of the request,
the request came before it expired, and it had asked for this plan. -/
structure Entitled (g : PlanStage) (entry : Entry PlanCall (Except PyError PlanAnswer))
    (reading : Reading) : Prop where
  plan : ∃ p ∈ g.state.db.assistantPendingPlans.rows, p.id = reading.plan.id ∧
    p.actorUserId = reading.actorUserId ∧ p.targetRef = reading.targetRef ∧
    reading.now < p.expiresAt ∧ p.state = .accepted
  asked : ∃ request, entry.call = .finish request ∧ ∃ earlier ∈ g.log, earlier.call = .read request
    .confirm reading.plan.id reading.actorUserId reading.targetRef reading.now

theorem Settled.entitled {g : PlanStage} (h : Settled g)
    {entry : Entry PlanCall (Except PyError PlanAnswer)} (hentry : entry ∈ g.log)
    {reading : Reading} (hexecuted : entry.outcome = .ok (.executed reading)) :
    Entitled g entry reading := by
  obtain ⟨hintent, request, hcall, hheld⟩ := h.executed entry hentry reading hexecuted
  obtain ⟨q, hq, hcontinues⟩ := hheld.stored
  constructor
  · -- the execution has consumed the plan, so its row is accepted
    have hconsumes : consumes reading.plan.id entry = true := by
      unfold consumes
      rw [hexecuted]
      exact decide_eq_true rfl
    obtain ⟨p, hp, hid, hstate⟩ := h.gone reading.plan.id
      (List.countP_pos_iff.mpr ⟨entry, hentry, hconsumes⟩)
    obtain rfl := g.state.db.assistantPendingPlans.eq_of_key_eq hp hq (hid.trans hcontinues.id.symm)
    refine ⟨p, hp, hid, hcontinues.actor.trans hheld.actor, hcontinues.target.trans hheld.target,
      ?_, hstate⟩
    rw [hcontinues.expiry]
    exact hheld.unexpired
  · refine ⟨request, hcall, ?_⟩
    rcases hheld.asked with htext | ⟨earlier, hearlier, hread⟩
    · rw [hintent] at htext
      cases htext
    · rw [hintent] at hread
      exact ⟨earlier, hearlier, hread⟩

/-- **What pending plans guarantee.** At any moment of a run of all requests and store calls: a
conversation has at most one open plan of an actor; an accepted plan is the same at any later moment;
no plan was consumed twice; and whatever was executed was entitled to it. -/
theorem pendingPlans_settle (runnable : String → String → Bool) (db : Database)
    (calls more : List PlanCall) :
    let g := (planMachine runnable).replay (Machine.start (PlanDesk.fresh db)) calls
    OneOpen g.state.db.assistantPendingPlans ∧
      (∀ p ∈ g.state.db.assistantPendingPlans.rows, p.state = .accepted →
        p ∈ ((planMachine runnable).replay g more).state.db.assistantPendingPlans.rows) ∧
      (∀ planId, g.log.countP (consumes planId) ≤ 1) ∧
      ∀ entry ∈ g.log, ∀ reading, entry.outcome = .ok (.executed reading) →
        Entitled g entry reading := by
  intro g
  have hsettled : Settled g := settled_replay db calls
  refine ⟨hsettled.oneOpen, fun p hp hstate => ?_, hsettled.once, fun entry hentry reading hexec =>
    hsettled.entitled hentry hexec⟩
  obtain ⟨q, hq, hcontinues⟩ := @continues_replay runnable g p hp more
  obtain rfl := hcontinues.settled hstate
  exact hq

/-! ### What is executed and what is stored -/

/-- The payload that a call has given to a plan. -/
def rewrites (planId : String) (entry : Entry PlanCall (Except PyError PlanAnswer)) : Option String :=
  match entry.outcome with
  | .ok (.adjusted plan) => if plan.id = planId then some plan.payloadJson else none
  | _ => none

/-- The request that reads with a call. -/
def PlanCall.reader : PlanCall → Option ℕ
  | .read request .. => some request
  | .readCurrent request .. => some request
  | _ => none

/-- Whether a reading has found a plan. -/
def findsPlan : Except PyError PlanAnswer → Bool
  | .ok (.found (some _)) => true
  | _ => false

/-- A call by which a request has read a plan. -/
def reads (request : ℕ) (entry : Entry PlanCall (Except PyError PlanAnswer)) : Bool :=
  PlanCall.reader entry.call = some request && findsPlan entry.outcome

/-- The last payload given to a plan since a request has read it. -/
def rewrittenSince (planId : String) (request : ℕ) :
    List (Entry PlanCall (Except PyError PlanAnswer)) → Option String
  | [] => none
  | entry :: older =>
    if reads request entry then none
    else (rewrites planId entry).or (rewrittenSince planId request older)

/-- **The executed plans are the stored ones.** -/
def ExecutesStored (g : PlanStage) : Prop :=
  ∀ entry ∈ g.log, ∀ reading, entry.outcome = .ok (.executed reading) →
    ∃ p ∈ g.state.db.assistantPendingPlans.rows, p.id = reading.plan.id ∧
      p.action = reading.plan.action ∧ p.payloadJson = reading.plan.payloadJson

/-- **The confirmations that execute what is stored**: since the request has read the plan it confirms,
no adjustment has given the plan another payload than the one that was read. -/
def Undisturbed (runnable : String → String → Bool) (g : PlanStage) : PlanCall → Prop
  | .finish request => ∀ reading, g.state.readings request = some reading →
      reading.intent = .confirm →
      runnable reading.plan.action reading.plan.payloadJson = true →
      (∃ p ∈ g.state.db.assistantPendingPlans.rows, p.id = reading.plan.id ∧ p.isOpen = true) →
      ∀ payloadJson, rewrittenSince reading.plan.id request g.log = some payloadJson →
        payloadJson = reading.plan.payloadJson
  | _ => True

/-- A call gives plans the payloads its answer says, and leaves the others alone. -/
def Rewrites (T U : Plans) (entry : Entry PlanCall (Except PyError PlanAnswer)) : Prop :=
  ∀ p ∈ T.rows, ∀ q ∈ U.rows, q.id = p.id →
    q.payloadJson = (rewrites p.id entry).getD p.payloadJson

theorem rewrites_refl (T : Plans) {entry : Entry PlanCall (Except PyError PlanAnswer)}
    (hentry : ∀ planId, rewrites planId entry = none) : Rewrites T T entry := by
  intro p hp q hq hid
  obtain rfl := T.eq_of_key_eq hq hp hid
  rw [hentry]
  rfl

/-- The row of a plan after an update. -/
theorem row_updateWhere {T : Plans} {selected : PendingPlan → Bool} {f : PendingPlan → PendingPlan}
    (hf : ∀ r, (f r).id = r.id) {p q : PendingPlan} (hp : p ∈ T.rows)
    (hq : q ∈ (T.updateWhere selected f hf).rows) (hid : q.id = p.id) :
    q = if selected p = true then f p else p := by
  obtain ⟨p', hp', rfl⟩ := List.mem_map.mp hq
  have hsame : p'.id = p.id := by
    by_cases hsel : selected p' = true
    · rw [if_pos hsel, hf] at hid
      exact hid
    · rw [if_neg hsel] at hid
      exact hid
  obtain rfl := T.eq_of_key_eq hp' hp hsame
  rfl

/-- An update of the states of plans. -/
theorem rewrites_updateWhere (T : Plans) (selected : PendingPlan → Bool)
    (f : PendingPlan → PendingPlan) (hf : ∀ r, (f r).id = r.id)
    (hpayload : ∀ p, (f p).payloadJson = p.payloadJson)
    {entry : Entry PlanCall (Except PyError PlanAnswer)}
    (hentry : ∀ planId, rewrites planId entry = none) :
    Rewrites T (T.updateWhere selected f hf) entry := by
  intro p hp q hq hid
  rw [row_updateWhere hf hp hq hid, hentry]
  by_cases hsel : selected p = true
  · rw [if_pos hsel, hpayload]
    rfl
  · rw [if_neg hsel]
    rfl

theorem rewrites_put {actorUserId targetRef action payloadJson fresh : String} {now : Instant}
    {ttl : Duration} {db db' : Database} {plan : PendingPlan}
    (h : put actorUserId targetRef action payloadJson now ttl fresh db = .ok (plan, db'))
    {entry : Entry PlanCall (Except PyError PlanAnswer)}
    (hentry : ∀ planId, rewrites planId entry = none) :
    Rewrites db.assistantPendingPlans db'.assistantPendingPlans entry := by
  obtain ⟨-, plans, hinsert, rfl⟩ := put_ok h
  intro p hp q hq hid
  change q ∈ plans.rows at hq
  rw [Table.rows_insert hinsert] at hq
  rcases List.mem_append.mp hq with hold | hnew
  · exact rewrites_updateWhere db.assistantPendingPlans _ _ (by intro _; rfl) (by intro _; rfl)
      hentry p hp q hold hid
  · -- a new plan has no earlier row
    obtain rfl := List.mem_singleton.mp hnew
    obtain ⟨hfree, -⟩ := Table.insert?_eq_some.mp hinsert
    obtain ⟨p', hp', hcontinues⟩ := (plansContinue_updateWhere db.assistantPendingPlans
      (openIn actorUserId targetRef) (fun p => { p with state := .accepted }) (by intro _; rfl)
      fun p hsel => by
        unfold openIn at hsel
        simp only [Bool.and_eq_true] at hsel
        exact continues_of_open hsel.2 rfl rfl rfl rfl rfl).kept p hp
    exact absurd (hcontinues.id.trans hid.symm) (Table.find?_eq_none.mp hfree p' hp')

theorem rewrites_updatePayload {planId actorUserId targetRef payloadJson : String} {now : Instant}
    {db db' : Database} {updated : Option PendingPlan} {call : PlanCall}
    (h : updatePayload planId actorUserId targetRef payloadJson now db = .ok (updated, db')) :
    Rewrites db.assistantPendingPlans db'.assistantPendingPlans
      ⟨call, .ok (.ofUpdate updated)⟩ := by
  rcases updatePayload_ok h with ⟨rfl, rfl⟩ | ⟨p₀, hfind, hwritable, rfl, rfl⟩
  · exact rewrites_refl _ fun _ => rfl
  · intro p hp q hq hid
    obtain ⟨hp₀, hid₀⟩ := Table.find?_eq_some.mp hfind
    have hrow := row_updateWhere (by intro _; rfl) hp hq hid
    rw [hrow]
    by_cases hplan : p.id = planId
    · obtain rfl := db.assistantPendingPlans.eq_of_key_eq hp hp₀ (hplan.trans hid₀.symm)
      rw [if_pos hwritable]
      simp [rewrites, PlanAnswer.ofUpdate]
    · have hother : writable planId actorUserId targetRef now p = false := by
        unfold writable
        simp [hplan]
      have hid' : p₀.id ≠ p.id := fun hsame => hplan (hsame.symm.trans hid₀)
      rw [if_neg (by rw [hother]; simp)]
      simp [rewrites, PlanAnswer.ofUpdate, hid']

theorem rewrites_transaction {α : Type} {f : α → PlanAnswer} {t : Transaction Database PyError α}
    {db : Database} {call : PlanCall}
    (h : ∀ a db', t db = .ok (a, db') →
      Rewrites db.assistantPendingPlans db'.assistantPendingPlans ⟨call, .ok (f a)⟩) :
    Rewrites db.assistantPendingPlans
      ((f <$> Effect.atomically t).exec db).2.assistantPendingPlans
      ⟨call, ((f <$> Effect.atomically t).exec db).1⟩ := by
  rw [Effect.exec_map, Effect.exec_atomically, StateT.run]
  cases hrun : t db with
  | error err => exact rewrites_refl _ fun _ => rfl
  | ok outcome => exact h outcome.1 outcome.2 hrun

theorem rewrites_consume {planId : String} {now : Instant} {db db' : Database} {consumed : Bool}
    (h : consume planId now db = .ok (consumed, db'))
    {entry : Entry PlanCall (Except PyError PlanAnswer)}
    (hentry : ∀ planId, rewrites planId entry = none) :
    Rewrites db.assistantPendingPlans db'.assistantPendingPlans entry := by
  rw [(consume_ok h).2]
  exact rewrites_updateWhere _ _ _ (by intro _; rfl) (by intro _; rfl) hentry

theorem rewrites_reject {planId : String} {now : Instant} {db db' : Database} {u : Unit}
    (h : reject planId now db = .ok (u, db'))
    {entry : Entry PlanCall (Except PyError PlanAnswer)}
    (hentry : ∀ planId, rewrites planId entry = none) :
    Rewrites db.assistantPendingPlans db'.assistantPendingPlans entry := by
  rw [reject_ok h]
  exact rewrites_updateWhere _ _ _ (by intro _; rfl) (by intro _; rfl) hentry

theorem rewrites_finishRequest (reading : Reading) (db : Database) (call : PlanCall) :
    Rewrites db.assistantPendingPlans
      ((finishRequest runnable reading).exec db).2.assistantPendingPlans
      ⟨call, ((finishRequest runnable reading).exec db).1⟩ := by
  unfold finishRequest
  cases reading.intent with
  | confirm =>
    refine rewrites_transaction fun consumed db' hrun => rewrites_consume hrun fun planId => ?_
    cases consumed with
    | false => rfl
    | true =>
      by_cases hrunnable : runnable reading.plan.action reading.plan.payloadJson = true
      · rw [if_neg (by simp), if_pos hrunnable]
        rfl
      · rw [if_neg (by simp), if_neg hrunnable]
        rfl
  | reject => exact rewrites_transaction fun _ db' hrun => rewrites_reject hrun fun _ => rfl
  | cancel =>
    refine rewrites_transaction fun consumed db' hrun => rewrites_consume hrun fun planId => ?_
    cases consumed with
    | false => rfl
    | true => rfl
  | cancelByText => exact rewrites_transaction fun _ db' hrun => rewrites_consume hrun fun _ => rfl
  | adjust rewrite =>
    simp only
    cases rewrite reading.plan with
    | none => exact rewrites_refl _ fun _ => rfl
    | some payloadJson =>
      exact rewrites_transaction fun _ db' hrun => rewrites_updatePayload hrun

theorem rewrites_takeReading {desk : PlanDesk} {request : ℕ} {intent : PlanIntent}
    {actorUserId targetRef : String} {now : Instant} {found : Except PyError (Option PendingPlan)}
    {call : PlanCall} (planId : String) :
    rewrites planId
      ⟨call, (takeReading desk request intent actorUserId targetRef now found).1⟩ = none := by
  unfold takeReading
  cases found with
  | error err => rfl
  | ok plan =>
    cases plan with
    | none => rfl
    | some plan => rfl

/-- **Every call gives plans the payloads its answer says.** -/
theorem rewrites_advance (g : PlanStage) (call : PlanCall) :
    Rewrites g.state.db.assistantPendingPlans
      ((planMachine runnable).advance g call).state.db.assistantPendingPlans
      ((planMachine runnable).entry g.state call) := by
  show Rewrites _ (performPlan runnable g.state call).2.db.assistantPendingPlans
    ⟨call, (performPlan runnable g.state call).1⟩
  unfold performPlan
  cases call with
  | stage actorUserId targetRef action payloadJson now ttl fresh =>
    exact rewrites_transaction fun _ db' hrun => rewrites_put hrun fun _ => rfl
  | read request intent planId actorUserId targetRef now =>
    simp only
    rw [takeReading_db]
    exact rewrites_refl _ rewrites_takeReading
  | readCurrent request actorUserId targetRef now =>
    simp only
    rw [takeReading_db]
    exact rewrites_refl _ rewrites_takeReading
  | finish request =>
    simp only
    cases g.state.readings request with
    | none => exact rewrites_refl _ fun _ => rfl
    | some reading => exact rewrites_finishRequest reading g.state.db _
  | updatePayload planId actorUserId targetRef payloadJson now =>
    exact rewrites_transaction fun _ db' hrun => rewrites_updatePayload hrun
  | reject planId now =>
    exact rewrites_transaction fun _ db' hrun => rewrites_reject hrun fun _ => rfl
  | consume planId now =>
    exact rewrites_transaction fun _ db' hrun => rewrites_consume hrun fun _ => rfl

/-- What has happened to the plans that requests have read. -/
def Tracked (g : PlanStage) : Prop :=
  ∀ request reading, g.state.readings request = some reading →
    ∀ p ∈ g.state.db.assistantPendingPlans.rows, p.id = reading.plan.id →
      p.payloadJson =
        (rewrittenSince reading.plan.id request g.log).getD reading.plan.payloadJson

/-- A request that reads: it has its reading now, if it found a plan, and others have theirs still. -/
theorem reading_cases_take {desk : PlanDesk} {request request' : ℕ} {intent : PlanIntent}
    {actorUserId targetRef : String} {now : Instant} {found : Except PyError (Option PendingPlan)}
    {call : PlanCall} {reading : Reading} (hreader : PlanCall.reader call = some request)
    (hfound : ∀ plan, found = .ok (some plan) → plan ∈ desk.db.assistantPendingPlans.rows)
    (h : (takeReading desk request intent actorUserId targetRef now found).2.readings request' =
      some reading) :
    (reads request' ⟨call, (takeReading desk request intent actorUserId targetRef now found).1⟩ =
        true ∧ reading.plan ∈ desk.db.assistantPendingPlans.rows) ∨
      (reads request' ⟨call, (takeReading desk request intent actorUserId targetRef now found).1⟩ =
        false ∧ desk.readings request' = some reading) := by
  unfold takeReading at h ⊢
  unfold reads
  rw [hreader]
  cases found with
  | error err => exact .inr ⟨Bool.and_false _, h⟩
  | ok answer =>
    cases answer with
    | none => exact .inr ⟨Bool.and_false _, h⟩
    | some plan =>
      change Function.update desk.readings request _ request' = _ at h
      by_cases hrequest : request' = request
      · rw [hrequest, Function.update_self] at h
        obtain rfl := Option.some.inj h
        refine .inl ⟨?_, hfound plan rfl⟩
        rw [hrequest]
        simp [findsPlan]
      · rw [Function.update_of_ne hrequest] at h
        refine .inr ⟨?_, h⟩
        simp [Ne.symm hrequest]

/-- **The readings after a call**: a reading is made now, with the plan as it is stored, or it was
there before and has not been made again. -/
theorem reading_cases {g : PlanStage} {call : PlanCall} {request : ℕ} {reading : Reading}
    (h : ((planMachine runnable).advance g call).state.readings request = some reading) :
    (reads request ((planMachine runnable).entry g.state call) = true ∧
        reading.plan ∈ g.state.db.assistantPendingPlans.rows) ∨
      (reads request ((planMachine runnable).entry g.state call) = false ∧
        g.state.readings request = some reading) := by
  change (performPlan runnable g.state call).2.readings request = some reading at h
  show (reads request ⟨call, (performPlan runnable g.state call).1⟩ = true ∧ _) ∨
    (reads request ⟨call, (performPlan runnable g.state call).1⟩ = false ∧ _)
  unfold performPlan at h ⊢
  cases call with
  | read request' intent planId actorUserId targetRef now =>
    exact reading_cases_take rfl (fun plan hget => (get_ok hget).2.stored) h
  | readCurrent request' actorUserId targetRef now =>
    exact reading_cases_take rfl (fun plan hget => (current_ok hget).stored) h
  | finish request' =>
    refine .inr ⟨rfl, ?_⟩
    cases hreading : g.state.readings request' with
    | none =>
      simp only [hreading] at h
      exact h
    | some reading' =>
      simp only [hreading, onStore] at h
      by_cases hrequest : request = request'
      · rw [hrequest, Function.update_self] at h
        cases h
      · rw [Function.update_of_ne hrequest] at h
        exact h
  | stage actorUserId targetRef action payloadJson now ttl fresh => exact .inr ⟨rfl, h⟩
  | updatePayload planId actorUserId targetRef payloadJson now => exact .inr ⟨rfl, h⟩
  | reject planId now => exact .inr ⟨rfl, h⟩
  | consume planId now => exact .inr ⟨rfl, h⟩

/-- A call that reads a plan rewrites none. -/
theorem rewrites_of_reads {request : ℕ} {planId : String}
    {entry : Entry PlanCall (Except PyError PlanAnswer)} (h : reads request entry = true) :
    rewrites planId entry = none := by
  unfold reads at h
  have hfinds := (Bool.and_eq_true_iff.mp h).2
  unfold rewrites
  unfold findsPlan at hfinds
  split at hfinds
  · rename_i houtcome
    rw [houtcome]
  · cases hfinds

/-- **Every call keeps track.** -/
theorem Tracked.advance {g : PlanStage} (hsettled : Settled g) (h : Tracked g) (call : PlanCall) :
    Tracked ((planMachine runnable).advance g call) := by
  intro request reading hreading q hq hid
  have hrewrites := @rewrites_advance runnable g call
  rw [Machine.advance_log]
  unfold rewrittenSince
  rcases reading_cases hreading with ⟨hreads, hstored⟩ | ⟨hreads, hbefore⟩
  · rw [hrewrites reading.plan hstored q hq hid, rewrites_of_reads hreads, if_pos hreads]
  · rw [hreads, if_neg (by simp)]
    obtain ⟨p, hp, hcontinues⟩ := (hsettled.held request reading hbefore).stored
    have hp' := h request reading hbefore p hp hcontinues.id
    have hq' := hrewrites p hp q hq (hid.trans hcontinues.id.symm)
    rw [hcontinues.id] at hq'
    rw [hq', hp']
    cases rewrites reading.plan.id ((planMachine runnable).entry g.state call) with
    | none => rfl
    | some payloadJson => rfl

/-- A confirmation of an open plan whose payload can be decoded executes it. -/
theorem executes {g : PlanStage} {request : ℕ} {reading : Reading}
    (hreading : g.state.readings request = some reading) (hintent : reading.intent = .confirm)
    (hrunnable : runnable reading.plan.action reading.plan.payloadJson = true)
    (hopen : ∃ p ∈ g.state.db.assistantPendingPlans.rows, p.id = reading.plan.id ∧
      p.isOpen = true) :
    ((planMachine runnable).entry g.state (.finish request)).outcome =
      .ok (.executed reading) := by
  obtain ⟨p, hp, hid, hpopen⟩ := hopen
  show (performPlan runnable g.state (.finish request)).1 = _
  unfold performPlan finishRequest
  simp only [hreading, hintent, onStore]
  rw [Effect.exec_map, Effect.exec_atomically, StateT.run]
  have hcount : g.state.db.assistantPendingPlans.count
      (fun p => p.id = reading.plan.id && p.isOpen) = 1 :=
    Table.count_key (Table.find?_eq_some.mpr ⟨hp, hid⟩) hpopen
  unfold consume
  simp [hcount, hrunnable, pure, Except.pure, Except.map]

/-- **Which calls execute what is stored.** -/
theorem executesStored_step_iff (g : PlanStage) (call : PlanCall)
    (h : Settled g ∧ Tracked g) (hstored : ExecutesStored g) :
    ExecutesStored ((planMachine runnable).advance g call) ↔ Undisturbed runnable g call := by
  obtain ⟨hsettled, htracked⟩ := h
  have hafter := @Settled.advance runnable g call hsettled
  have hrewrites := @rewrites_advance runnable g call
  constructor
  · intro hall
    cases call with
    | finish request =>
      intro reading hreading hintent hrunnable hopen payloadJson hrewritten
      have hexecutes := executes hreading hintent hrunnable hopen
      obtain ⟨q, hq, hid, -, hpayload⟩ := hall _ List.mem_cons_self reading hexecutes
      obtain ⟨p, hp, hpid, -⟩ := hopen
      have hp' := htracked request reading hreading p hp hpid
      have hq' := hrewrites p hp q hq (hid.trans hpid.symm)
      have hnone : rewrites p.id ((planMachine runnable).entry g.state (.finish request)) = none := by
        unfold rewrites
        rw [hexecutes]
      rw [hnone, Option.getD_none, hp', hrewritten, Option.getD_some] at hq'
      rw [← hq', hpayload]
    | stage => trivial
    | read => trivial
    | readCurrent => trivial
    | updatePayload => trivial
    | reject => trivial
    | consume => trivial
  · intro hguard entry hentry reading hexecuted
    rcases List.mem_cons.mp hentry with rfl | hold
    · obtain ⟨request, rfl, hreading, hintent, hrunnable⟩ := executed_entry hexecuted
      have hconsumed : Consumed reading.plan.id _ _ := consumed_advance (g := g) (by
        unfold consumes
        rw [hexecuted]
        exact decide_eq_true rfl)
      obtain ⟨p, hp, hpid, hopen⟩ := hconsumed.wasOpen
      obtain ⟨q, hq, hqid, -⟩ := hconsumed.isAccepted
      have hp' := htracked request reading hreading p hp hpid
      have hq' := hrewrites p hp q hq (hqid.trans hpid.symm)
      have hnone : rewrites p.id ((planMachine runnable).entry g.state (.finish request)) = none := by
        unfold rewrites
        rw [hexecuted]
      rw [hnone, Option.getD_none, hp'] at hq'
      obtain ⟨q', hqmem, hcontinues⟩ := (@Held.advance runnable g request reading
        (hsettled.held request reading hreading) (.finish request)).stored
      obtain rfl := Table.eq_of_key_eq _ hq hqmem (hqid.trans hcontinues.id.symm)
      refine ⟨q, hq, hqid, hcontinues.action, ?_⟩
      rw [hq']
      cases hrewritten : rewrittenSince reading.plan.id request g.log with
      | none => rfl
      | some payloadJson =>
        exact hguard reading hreading hintent hrunnable ⟨p, hp, hpid, hopen⟩ payloadJson hrewritten
    · -- an executed plan is accepted, and stays as it is
      obtain ⟨p, hp, hid, haction, hpayload⟩ := hstored entry hold reading hexecuted
      obtain ⟨p', hp', hid', -, -, -, hstate⟩ := (hsettled.entitled hold hexecuted).plan
      obtain rfl := g.state.db.assistantPendingPlans.eq_of_key_eq hp hp' (hid.trans hid'.symm)
      obtain ⟨q, hq, hcontinues⟩ := (@plansContinue_advance runnable g call).kept p hp
      obtain rfl := hcontinues.settled hstate
      exact ⟨q, hq, hid, haction, hpayload⟩

/-- **Which runs execute what is stored.** At every moment of a run of all requests and store calls the
executed plans are the stored ones, if and only if between the reading and the confirmation of a plan no
adjustment has left another payload than the one that was read. -/
theorem executes_stored_iff (runnable : String → String → Bool) (db : Database)
    (calls : List PlanCall) :
    (∀ pre, pre <+: calls → ExecutesStored
        ((planMachine runnable).replay (Machine.start (PlanDesk.fresh db)) pre)) ↔
      (planMachine runnable).Follows (Undisturbed runnable) (Machine.start (PlanDesk.fresh db))
        calls := by
  refine Machine.forall_prefix_iff_follows (planMachine runnable) (I := ExecutesStored)
    (J := fun g => Settled g ∧ Tracked g)
    (fun g call h => ⟨h.1.advance g call, h.2.advance h.1 call⟩) executesStored_step_iff
    ⟨settled_fresh db, fun _ _ h => by cases h⟩ (fun _ h => absurd h List.not_mem_nil) calls

/-- A reminder as its plan shows it. -/
def shownReminder : String :=
  "\x7b\"text\":\"tea\",\"fire_at\":\x7b\"$type\":\"datetime\"," ++
    "\"value\":\"2026-01-02T09:00:00+08:00\"\x7d\x7d"

/-- The same reminder without advance notice. -/
def quietReminder : String :=
  "\x7b\"text\":\"tea\",\"fire_at\":\x7b\"$type\":\"datetime\"," ++
    "\"value\":\"2026-01-02T09:00:00+08:00\"\x7d,\"no_leads\":true\x7d"

/-- A plan is confirmed and adjusted at once: both requests read it, the adjustment is stored and answered,
and then the confirmation comes through. -/
def pressedTwice : List PlanCall :=
  [.stage "alice" "chat" "create_reminder" shownReminder 0 (Duration.minutes 30) "1",
    .read 1 .confirm "plan_1" "alice" "chat" 10,
    .read 2 (.adjust fun _ => some quietReminder) "plan_1" "alice" "chat" 11,
    .finish 2,
    .finish 1]

/-- **A stored adjustment that is not executed.** -/
theorem adjustment_is_ignored :
    ∃ g, g = (planMachine fun _ _ => true).replay
        (Machine.start (PlanDesk.fresh { users := ⟨[⟨"alice", "Alice", true⟩], by simp⟩ }))
        pressedTwice ∧
      g.state.db.assistantPendingPlans.rows.map PendingPlan.payloadJson = [quietReminder] ∧
      (g.log.map Entry.outcome).any (fun outcome =>
        match outcome with
        | .ok (.adjusted plan) => plan.payloadJson = quietReminder
        | _ => false) = true ∧
      (g.log.map Entry.outcome).any (fun outcome =>
        match outcome with
        | .ok (.executed reading) => reading.plan.payloadJson = shownReminder
        | _ => false) = true ∧
      ¬ ExecutesStored g := by
  refine ⟨_, rfl, by decide +kernel, by decide +kernel, by decide +kernel, fun h => ?_⟩
  obtain ⟨p, hp, -, -, hpayload⟩ := h _ List.mem_cons_self _ rfl
  revert hpayload
  revert p
  decide +kernel

end AssistantEngine

end Zhixu
