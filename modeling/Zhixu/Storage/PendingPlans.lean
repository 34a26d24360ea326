import Zhixu.Storage.ChannelRoutes

/-!
# Plans that wait for a confirmation

`PendingPlanStore`. A plan is put in a conversation by its actor and is open until it is accepted.
`put` closes what was open in the conversation before; `updatePayload` and `reject` change an open plan
in place; `consume` accepts it.

The writes look at different columns of the row: `updatePayload` at actor, conversation and expiry,
`reject` at the expiry only, `consume` at neither. What they have in common is `Continues`, the relation
between a row and the row of the same plan later on: the plan stays where it is, and an accepted row
stays as it is. Each write makes the whole table continue (`PlansContinue`), which is all that later
results use. From it follows that a conversation never has two open plans (`OneOpen`).
-/

open Framework

namespace Zhixu

/-- `state IN ('pending','revising')`. -/
def PendingPlan.isOpen (plan : PendingPlan) : Bool := plan.state = .pending || plan.state = .revising

theorem PendingPlan.isOpen_iff {plan : PendingPlan} :
    plan.isOpen = true ↔ plan.state ≠ .accepted := by
  unfold PendingPlan.isOpen
  cases plan.state with
  | pending => simp
  | revising => simp
  | accepted => simp

namespace PendingPlanStore

open ChannelRouteStore (utcText)

/-- The open plans of an actor in a conversation. -/
def openIn (actorUserId targetRef : String) (plan : PendingPlan) : Bool :=
  plan.actorUserId = actorUserId && plan.targetRef = targetRef && plan.isOpen

/-- The row of a plan that its actor can still see and change in the conversation. -/
def writable (planId actorUserId targetRef : String) (now : Instant) (plan : PendingPlan) : Bool :=
  plan.id = planId && (openIn actorUserId targetRef plan && decide (now < plan.expiresAt))

/-- `put`. -/
def put (actorUserId targetRef action payloadJson : String) (now : Instant) (ttl : Duration)
    (fresh : String) : Transaction Database PyError PendingPlan := fun db => do
  utcText now
  utcText (now + ttl)
  let plan : PendingPlan := {
    id := "plan_" ++ fresh
    actorUserId, targetRef, action, payloadJson
    state := .pending
    createdAt := now
    expiresAt := now + ttl }
  let closed := db.assistantPendingPlans.updateWhere (openIn actorUserId targetRef) fun p =>
    { p with state := .accepted }
  raiseIf (db.hasUser actorUserId = false) .integrity
  match closed.insert? plan with
  | none => throw .integrity
  | some assistantPendingPlans => return (plan, { db with assistantPendingPlans })

/-- `get`. -/
def get (planId actorUserId targetRef : String) (now : Instant) (db : Database) :
    Except PyError (Option PendingPlan) := do
  utcText now
  return db.assistantPendingPlans.rows.find? (writable planId actorUserId targetRef now)

/-- `current`. -/
def current (actorUserId targetRef : String) (now : Instant) (db : Database) :
    Except PyError (Option PendingPlan) := do
  utcText now
  return (db.assistantPendingPlans.select
    (fun p => openIn actorUserId targetRef p && decide (now < p.expiresAt))
    fun a b => decide (b.createdAt ≤ a.createdAt)).head?

/-- `update_payload`. -/
def updatePayload (planId actorUserId targetRef payloadJson : String) (now : Instant) :
    Transaction Database PyError (Option PendingPlan) := fun db => do
  utcText now
  let changed := db.assistantPendingPlans.count (writable planId actorUserId targetRef now)
  let assistantPendingPlans := db.assistantPendingPlans.updateWhere
    (writable planId actorUserId targetRef now) fun p => { p with payloadJson }
  if changed = 0 then
    return (none, db)
  else
    return (assistantPendingPlans.find? planId, { db with assistantPendingPlans })

/-- `reject`. -/
def reject (planId : String) (now : Instant) : Transaction Database PyError Unit := fun db => do
  utcText now
  return (⟨⟩, { db with
    assistantPendingPlans := db.assistantPendingPlans.updateWhere
      (fun p => p.id = planId && (decide (p.state = .pending) && decide (now < p.expiresAt)))
      fun p => { p with state := .revising } })

/-- `consume`. The time is not looked at. -/
def consume (planId : String) (_now : Instant) : Transaction Database PyError Bool := fun db =>
  let changed := db.assistantPendingPlans.count fun p => p.id = planId && p.isOpen
  return (decide (changed = 1), { db with
    assistantPendingPlans := db.assistantPendingPlans.updateWhere
      (fun p => p.id = planId && p.isOpen) fun p => { p with state := .accepted } })

/-! ### What a write does to the plans -/

/-- **A plan later on.** -/
structure Continues (p q : PendingPlan) : Prop where
  id : q.id = p.id
  actor : q.actorUserId = p.actorUserId
  target : q.targetRef = p.targetRef
  action : q.action = p.action
  expiry : q.expiresAt = p.expiresAt
  settled : p.state = .accepted → q = p

theorem Continues.refl (p : PendingPlan) : Continues p p :=
  ⟨rfl, rfl, rfl, rfl, rfl, fun _ => rfl⟩

theorem Continues.trans {p q r : PendingPlan} (h : Continues p q) (h' : Continues q r) :
    Continues p r := by
  refine ⟨h'.id.trans h.id, h'.actor.trans h.actor, h'.target.trans h.target,
    h'.action.trans h.action, h'.expiry.trans h.expiry, fun hstate => ?_⟩
  obtain rfl := h.settled hstate
  exact h'.settled hstate

/-- No plan is opened again. -/
theorem Continues.wasOpen {p q : PendingPlan} (h : Continues p q) (hopen : q.isOpen = true) :
    p.isOpen = true := by
  rw [PendingPlan.isOpen_iff] at hopen ⊢
  intro hstate
  obtain rfl := h.settled hstate
  exact hopen hstate

abbrev Plans := Table PendingPlan PendingPlan.id

/-- **The plans later on**: every plan is there still, and a new one is the only open one in its
conversation. -/
structure PlansContinue (T U : Plans) : Prop where
  kept : ∀ p ∈ T.rows, ∃ q ∈ U.rows, Continues p q
  grown : ∀ q ∈ U.rows, (∃ p ∈ T.rows, Continues p q) ∨
    ∀ r ∈ U.rows, r.actorUserId = q.actorUserId → r.targetRef = q.targetRef → r.isOpen = true → r = q

theorem PlansContinue.refl (T : Plans) : PlansContinue T T :=
  ⟨fun p hp => ⟨p, hp, .refl p⟩, fun q hq => .inl ⟨q, hq, .refl q⟩⟩

/-- An update that changes open plans only. -/
theorem plansContinue_updateWhere (T : Plans) (selected : PendingPlan → Bool)
    (f : PendingPlan → PendingPlan) (hf : ∀ r, (f r).id = r.id)
    (h : ∀ p, selected p = true → Continues p (f p)) :
    PlansContinue T (T.updateWhere selected f hf) := by
  have hrow : ∀ p, Continues p (if selected p = true then f p else p) := by
    intro p
    by_cases hp : selected p = true
    · rw [if_pos hp]
      exact h p hp
    · rw [if_neg hp]
      exact .refl p
  constructor
  · intro p hp
    exact ⟨_, List.mem_map.mpr ⟨p, hp, rfl⟩, hrow p⟩
  · intro q hq
    obtain ⟨p, hp, rfl⟩ := List.mem_map.mp hq
    exact .inl ⟨p, hp, hrow p⟩

/-- An open plan that changes its state or its payload. -/
theorem continues_of_open {p q : PendingPlan} (hopen : p.isOpen = true) (hid : q.id = p.id)
    (hactor : q.actorUserId = p.actorUserId) (htarget : q.targetRef = p.targetRef)
    (haction : q.action = p.action) (hexpiry : q.expiresAt = p.expiresAt) : Continues p q :=
  ⟨hid, hactor, htarget, haction, hexpiry, fun hstate =>
    absurd hstate (PendingPlan.isOpen_iff.mp hopen)⟩

/-- **An accepted `put`**: the plans of the conversation are closed, and the new one is there. -/
theorem put_ok {actorUserId targetRef action payloadJson fresh : String} {now : Instant}
    {ttl : Duration} {db db' : Database} {plan : PendingPlan}
    (h : put actorUserId targetRef action payloadJson now ttl fresh db = .ok (plan, db')) :
    plan = { id := "plan_" ++ fresh, actorUserId, targetRef, action, payloadJson, state := .pending,
             createdAt := now, expiresAt := now + ttl } ∧
      ∃ plans, (db.assistantPendingPlans.updateWhere (openIn actorUserId targetRef) fun p =>
          { p with state := .accepted }).insert? plan = some plans ∧
        db' = { db with assistantPendingPlans := plans } := by
  unfold put at h
  obtain ⟨_, -, h⟩ := bind_eq_ok.mp h
  obtain ⟨_, -, h⟩ := bind_eq_ok.mp h
  obtain ⟨-, h⟩ := raiseIf_bind_ok.mp h
  split at h
  · cases h
  · rename_i plans hinsert
    obtain ⟨rfl, rfl⟩ := Prod.mk.inj (Except.ok.inj h)
    exact ⟨rfl, plans, hinsert, rfl⟩

theorem plansContinue_put {actorUserId targetRef action payloadJson fresh : String} {now : Instant}
    {ttl : Duration} {db db' : Database} {plan : PendingPlan}
    (h : put actorUserId targetRef action payloadJson now ttl fresh db = .ok (plan, db')) :
    PlansContinue db.assistantPendingPlans db'.assistantPendingPlans := by
  obtain ⟨hplan, plans, hinsert, rfl⟩ := put_ok h
  have hclosed := plansContinue_updateWhere db.assistantPendingPlans
    (openIn actorUserId targetRef) (fun p => { p with state := .accepted })
    (fun _ => rfl) fun p hp => by
      unfold openIn at hp
      simp only [Bool.and_eq_true] at hp
      exact continues_of_open hp.2 rfl rfl rfl rfl rfl
  have hrows := Table.rows_insert hinsert
  constructor
  · intro p hp
    obtain ⟨q, hq, hcontinues⟩ := hclosed.kept p hp
    refine ⟨q, ?_, hcontinues⟩
    show q ∈ plans.rows
    rw [hrows]
    exact List.mem_append_left _ hq
  · intro q hq
    change q ∈ plans.rows at hq
    rw [hrows] at hq
    rcases List.mem_append.mp hq with hold | hnew
    · rcases hclosed.grown q hold with hbefore | hfree
      · exact .inl hbefore
      · obtain ⟨p, hp, rfl⟩ := List.mem_map.mp hold
        refine .inl ⟨p, hp, ?_⟩
        by_cases hsel : openIn actorUserId targetRef p = true
        · rw [if_pos hsel]
          unfold openIn at hsel
          simp only [Bool.and_eq_true] at hsel
          exact continues_of_open hsel.2 rfl rfl rfl rfl rfl
        · rw [if_neg hsel]
          exact .refl p
    · obtain rfl := List.mem_singleton.mp hnew
      refine .inr fun r hr hactor htarget hopen => ?_
      change r ∈ plans.rows at hr
      rw [hrows] at hr
      rcases List.mem_append.mp hr with hold | hsame
      · -- what was open in the conversation has just been closed
        obtain ⟨p, hp, rfl⟩ := List.mem_map.mp hold
        by_cases hsel : openIn actorUserId targetRef p = true
        · rw [if_pos hsel] at hopen
          cases hopen
        · rw [if_neg hsel] at hactor htarget hopen
          rw [hplan] at hactor htarget
          simp only at hactor htarget
          unfold openIn at hsel
          simp [hactor, htarget, hopen] at hsel
      · exact List.mem_singleton.mp hsame

/-- **An accepted `update_payload`** has changed the payload of an open plan, or nothing. -/
theorem updatePayload_ok {planId actorUserId targetRef payloadJson : String} {now : Instant}
    {db db' : Database} {answer : Option PendingPlan}
    (h : updatePayload planId actorUserId targetRef payloadJson now db = .ok (answer, db')) :
    (answer = none ∧ db' = db) ∨
      ∃ p, db.assistantPendingPlans.find? planId = some p ∧
        writable planId actorUserId targetRef now p = true ∧ answer = some { p with payloadJson } ∧
        db' = { db with
          assistantPendingPlans := db.assistantPendingPlans.updateWhere
            (writable planId actorUserId targetRef now) fun p => { p with payloadJson } } := by
  unfold updatePayload at h
  obtain ⟨_, -, h⟩ := bind_eq_ok.mp h
  by_cases hchanged :
      db.assistantPendingPlans.count (writable planId actorUserId targetRef now) = 0
  · rw [if_pos hchanged] at h
    obtain ⟨rfl, rfl⟩ := Prod.mk.inj (Except.ok.inj h)
    exact .inl ⟨rfl, rfl⟩
  · rw [if_neg hchanged] at h
    obtain ⟨rfl, rfl⟩ := Prod.mk.inj (Except.ok.inj h)
    obtain ⟨p, hp, hwritable⟩ := List.countP_pos_iff.mp (Nat.pos_of_ne_zero hchanged)
    have hid : p.id = planId := by
      unfold writable at hwritable
      simp only [Bool.and_eq_true, decide_eq_true_eq] at hwritable
      exact hwritable.1
    have hfind : db.assistantPendingPlans.find? planId = some p :=
      Table.find?_eq_some.mpr ⟨hp, hid⟩
    refine .inr ⟨p, hfind, hwritable, ?_, rfl⟩
    rw [Table.find?_updateWhere, hfind, Option.map_some, if_pos hwritable]

theorem plansContinue_updatePayload {planId actorUserId targetRef payloadJson : String}
    {now : Instant} {db db' : Database} {answer : Option PendingPlan}
    (h : updatePayload planId actorUserId targetRef payloadJson now db = .ok (answer, db')) :
    PlansContinue db.assistantPendingPlans db'.assistantPendingPlans := by
  rcases updatePayload_ok h with ⟨-, rfl⟩ | ⟨_, -, -, -, rfl⟩
  · exact .refl _
  · refine plansContinue_updateWhere _ _ _ (by intro _; rfl) fun p hp => ?_
    unfold writable openIn at hp
    simp only [Bool.and_eq_true] at hp
    exact continues_of_open hp.2.1.2 rfl rfl rfl rfl rfl

theorem reject_ok {planId : String} {now : Instant} {db db' : Database} {u : Unit}
    (h : reject planId now db = .ok (u, db')) : db' = { db with
      assistantPendingPlans := db.assistantPendingPlans.updateWhere
        (fun p => p.id = planId && (decide (p.state = .pending) && decide (now < p.expiresAt)))
        fun p => { p with state := .revising } } := by
  unfold reject at h
  obtain ⟨_, -, h⟩ := bind_eq_ok.mp h
  exact (Prod.mk.inj (Except.ok.inj h)).2.symm

theorem plansContinue_reject {planId : String} {now : Instant} {db db' : Database} {u : Unit}
    (h : reject planId now db = .ok (u, db')) :
    PlansContinue db.assistantPendingPlans db'.assistantPendingPlans := by
  rw [reject_ok h]
  refine plansContinue_updateWhere _ _ _ (by intro _; rfl) fun p hp => ?_
  simp only [Bool.and_eq_true, decide_eq_true_eq] at hp
  exact continues_of_open (PendingPlan.isOpen_iff.mpr (by rw [hp.2.1]; simp)) rfl rfl rfl rfl rfl

/-- **`consume`** succeeds for a plan that is open, which is accepted then. -/
theorem consume_ok {planId : String} {now : Instant} {db db' : Database} {consumed : Bool}
    (h : consume planId now db = .ok (consumed, db')) :
    (consumed = true ↔ ∃ p, db.assistantPendingPlans.find? planId = some p ∧ p.isOpen = true) ∧
      db' = { db with
        assistantPendingPlans := db.assistantPendingPlans.updateWhere
          (fun p => p.id = planId && p.isOpen) fun p => { p with state := .accepted } } := by
  obtain ⟨rfl, rfl⟩ := Prod.mk.inj (Except.ok.inj h)
  refine ⟨?_, rfl⟩
  rw [decide_eq_true_eq]
  constructor
  · exact Table.exists_of_count_key
  · rintro ⟨p, hp, hopen⟩
    exact Table.count_key hp hopen

theorem plansContinue_consume {planId : String} {now : Instant} {db db' : Database} {consumed : Bool}
    (h : consume planId now db = .ok (consumed, db')) :
    PlansContinue db.assistantPendingPlans db'.assistantPendingPlans := by
  rw [(consume_ok h).2]
  refine plansContinue_updateWhere _ _ _ (by intro _; rfl) fun p hp => ?_
  simp only [Bool.and_eq_true] at hp
  exact continues_of_open hp.2 rfl rfl rfl rfl rfl

/-- **What a plan that was read is**: a row of the actor in the conversation, open and not expired. -/
structure Readable (actorUserId targetRef : String) (now : Instant) (plan : PendingPlan)
    (db : Database) : Prop where
  stored : plan ∈ db.assistantPendingPlans.rows
  actor : plan.actorUserId = actorUserId
  target : plan.targetRef = targetRef
  isOpen : plan.isOpen = true
  unexpired : now < plan.expiresAt

theorem get_ok {planId actorUserId targetRef : String} {now : Instant} {db : Database}
    {plan : PendingPlan} (h : get planId actorUserId targetRef now db = .ok (some plan)) :
    plan.id = planId ∧ Readable actorUserId targetRef now plan db := by
  unfold get at h
  obtain ⟨_, -, h⟩ := bind_eq_ok.mp h
  have hfind := Except.ok.inj h
  have hwritable := List.find?_some hfind
  unfold writable openIn at hwritable
  simp only [Bool.and_eq_true, decide_eq_true_eq] at hwritable
  obtain ⟨hid, ⟨⟨hactor, htarget⟩, hopen⟩, hunexpired⟩ := hwritable
  exact ⟨hid, List.mem_of_find?_eq_some hfind, hactor, htarget, hopen, hunexpired⟩

theorem current_ok {actorUserId targetRef : String} {now : Instant} {db : Database}
    {plan : PendingPlan} (h : current actorUserId targetRef now db = .ok (some plan)) :
    Readable actorUserId targetRef now plan db := by
  unfold current at h
  obtain ⟨_, -, h⟩ := bind_eq_ok.mp h
  obtain ⟨hstored, hselected⟩ := Table.mem_select.mp (List.mem_of_mem_head? (Except.ok.inj h))
  unfold openIn at hselected
  simp only [Bool.and_eq_true, decide_eq_true_eq] at hselected
  obtain ⟨⟨⟨hactor, htarget⟩, hopen⟩, hunexpired⟩ := hselected
  exact ⟨hstored, hactor, htarget, hopen, hunexpired⟩

/-! ### One open plan in a conversation -/

/-- **At most one plan of an actor is open in a conversation.** -/
def OneOpen (T : Plans) : Prop :=
  ∀ p ∈ T.rows, ∀ q ∈ T.rows, p.isOpen = true → q.isOpen = true →
    p.actorUserId = q.actorUserId → p.targetRef = q.targetRef → p = q

/-- **A write keeps it.** Only a new plan is opened, and it is alone. -/
theorem PlansContinue.oneOpen {T U : Plans} (h : PlansContinue T U) (hone : OneOpen T) :
    OneOpen U := by
  intro p hp q hq hpopen hqopen hactor htarget
  rcases h.grown p hp with ⟨p₀, hp₀, hcontp⟩ | halone
  · rcases h.grown q hq with ⟨q₀, hq₀, hcontq⟩ | halone
    · have hsame : p₀ = q₀ := by
        refine hone p₀ hp₀ q₀ hq₀ (hcontp.wasOpen hpopen) (hcontq.wasOpen hqopen) ?_ ?_
        · rw [← hcontp.actor, ← hcontq.actor, hactor]
        · rw [← hcontp.target, ← hcontq.target, htarget]
      refine U.eq_of_key_eq hp hq ?_
      rw [hcontp.id, hcontq.id, hsame]
    · exact halone p hp hactor htarget hpopen
  · exact (halone q hq hactor.symm htarget.symm hqopen).symm

end PendingPlanStore

end Zhixu
