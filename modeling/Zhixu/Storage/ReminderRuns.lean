import Zhixu.Storage.Reminders
import Zhixu.Framework.Machine

/-!
# Reminders fire exactly once

Runs of the reminder repository: reminders are created, snoozed, acknowledged
and cancelled, and `enqueue_due` is called any number of times.

The firing transaction is understood in two steps. `enqueueDue_ok` says what
one successful pass writes when nothing in the outbox stands in its way
(`Clear`): every due reminder is `settled`, and the deliveries added are those
of the reminders not skipped, one each, in firing order. The invariant `Timely`
then says why nothing ever stands in the way. Every delivery of a reminder was
written under a fire time that has passed, and a reminder that is pending again
was snoozed to a later one, so its next key is new.

`fires_exactly_once` states the result for every reachable stage and every
call. The clock does not run backwards and delivery ids, which are digests of
the keys, do not collide in the call at hand (`InOrder`).
-/

open Framework

namespace Zhixu

namespace ReminderRepository

/-! ### One firing transaction -/

/-- What firing does to a reminder. -/
def settled (now : Instant) (lateGraceSeconds : Int) (r : Reminder) : Reminder :=
  { r with
    status := if isMissed now lateGraceSeconds r then .cancelled else .fired
    version := r.version + 1
    updatedAt := some now }

/-- The delivery of a reminder's firing. -/
structure IsDelivery (platform : Platform) (r : Reminder) (row : OutboxDelivery) : Prop where
  key : row.idempotencyKey = reminderKey r.id r.fireAt
  id : row.id = platform.deliveryId (reminderKey r.id r.fireAt)
  owner : row.ownerUserId = r.ownerUserId
  target : row.targetRef = r.targetRef
  classification : row.classification = r.classification
  pending : row.status = .pending

/-- Nothing in the outbox stands in the way of the deliveries of the due
reminders, and they do not stand in each other's. -/
structure Clear (platform : Platform) (db : Database) (now : Instant) : Prop where
  key_free : ∀ r ∈ due db now, ∀ row ∈ db.outboxDeliveries.rows,
    row.idempotencyKey ≠ reminderKey r.id r.fireAt
  id_free : ∀ r ∈ due db now, ∀ row ∈ db.outboxDeliveries.rows,
    row.id ≠ platform.deliveryId (reminderKey r.id r.fireAt)
  keys_apart : ∀ r ∈ due db now, ∀ r' ∈ due db now, r ≠ r' →
    reminderKey r.id r.fireAt ≠ reminderKey r'.id r'.fireAt
  ids_apart : ∀ r ∈ due db now, ∀ r' ∈ due db now, r ≠ r' →
    platform.deliveryId (reminderKey r.id r.fireAt) ≠
      platform.deliveryId (reminderKey r'.id r'.fireAt)

theorem fromRow_ok {zones : TimeZones} {row r : Reminder} (h : fromRow zones row = .ok r) :
    (loaded row).validate zones = .ok ⟨⟩ ∧ r = loaded row := by
  unfold fromRow at h
  rw [raiseIf_bind_ok, Reminder.checked_ok] at h
  exact h.2

theorem mem_due {db : Database} {now : Instant} {r : Reminder} :
    r ∈ due db now ↔ r ∈ db.reminders.rows ∧ r.status = .pending ∧ r.fireAt ≤ now := by
  unfold due isDue
  rw [Table.mem_select]
  simp

theorem nodup_due (db : Database) (now : Instant) : (due db now).Nodup := by
  unfold due Table.select
  exact (List.perm_insertionSort _ _).nodup_iff.mpr
    ((List.Nodup.of_map _ db.reminders.nodup).filter _)

/-- Where the loop stands after the reminders `done`. -/
structure Firing (platform : Platform) (db : Database) (now : Instant) (lateGraceSeconds : Int)
    (done : List Reminder) (acc : ℕ × Database) : Prop where
  users : acc.2.users = db.users
  reminders : ∀ k, acc.2.reminders.find? k = (db.reminders.find? k).map fun r =>
    if r ∈ done then settled now lateGraceSeconds r else r
  deliveries : ∃ new, acc.2.outboxDeliveries.rows = db.outboxDeliveries.rows ++ new ∧
    List.Forall₂ (IsDelivery platform)
      (done.filter fun r => !isMissed now lateGraceSeconds r) new ∧ acc.1 = new.length

/-- Settling one pending reminder leaves the others alone. -/
theorem find?_settleRow {db : Database} {now : Instant} {reminderId : String} {row : Reminder}
    (hrow : db.reminders.find? reminderId = some row) (hpending : row.status = .pending)
    (status : ReminderStatus) (action reasonCode : String) (k : String) :
    (settleRow db now reminderId status action reasonCode).reminders.find? k =
      if k = reminderId then some { row with
        status, version := row.version + 1, updatedAt := some now }
      else db.reminders.find? k := by
  unfold settleRow
  rw [Database.audit_reminders]
  exact Table.find?_updateKeyWhere (q := fun r' => decide (r'.status = .pending)) hrow
    (by simpa using hpending) _ (by intro _; rfl) k

/-- Settling the next reminder of the loop, which is still as it was when the loop started. -/
theorem find?_settle_next {db : Database} {now : Instant} {lateGraceSeconds : Int}
    {done : List Reminder} {row : Reminder} (hmem : row ∈ db.reminders.rows)
    (hpending : row.status = .pending) (hnew : row ∉ done) {db' : Database}
    (hdone : ∀ k, db'.reminders.find? k = (db.reminders.find? k).map fun r =>
      if r ∈ done then settled now lateGraceSeconds r else r)
    {status : ReminderStatus}
    (hstatus : status = if isMissed now lateGraceSeconds row then .cancelled else .fired)
    (action reason : String) (k : String) :
    (settleRow db' now row.id status action reason).reminders.find? k =
      (db.reminders.find? k).map fun r =>
        if r ∈ done ++ [row] then settled now lateGraceSeconds r else r := by
  have hfind : db'.reminders.find? row.id = some row := by
    rw [hdone, Table.find?_of_mem hmem, Option.map_some, if_neg hnew]
  rw [find?_settleRow hfind hpending]
  by_cases hk : k = row.id
  · subst hk
    rw [if_pos rfl, Table.find?_of_mem hmem, Option.map_some, if_pos (by simp), hstatus]
    rfl
  · rw [if_neg hk, hdone k]
    refine Option.map_congr fun r hkr => ?_
    have hne : r ≠ row := by
      rintro rfl
      exact hk (Table.key_of_find? hkr).symm
    simp [hne]

theorem forall₂_exists_left {α β : Type} {R : α → β → Prop} {as : List α} {bs : List β}
    (h : List.Forall₂ R as bs) {b : β} (hb : b ∈ bs) : ∃ a ∈ as, R a b := by
  induction h with
  | nil => exact absurd hb (by simp)
  | @cons a b' as bs hab htail ih =>
    rcases List.mem_cons.mp hb with rfl | hmem
    · exact ⟨a, by simp, hab⟩
    · obtain ⟨a', ha', hR⟩ := ih hmem
      exact ⟨a', by simp [ha'], hR⟩

/-- An insert whose key and id are free is not ignored. -/
theorem insertDelivery?_free (db : Database) {row : OutboxDelivery} {key id : String}
    (hkey : row.idempotencyKey = key) (hid : row.id = id)
    (hfree : ∀ row' ∈ db.outboxDeliveries.rows, row'.idempotencyKey ≠ key ∧ row'.id ≠ id) :
    ∃ db', db.insertDelivery? row = some db' ∧
      db'.outboxDeliveries.rows = db.outboxDeliveries.rows ++ [row] ∧
      db'.users = db.users ∧ db'.reminders = db.reminders := by
  unfold Database.insertDelivery?
  have hany : ¬ (db.outboxDeliveries.rows.any fun r =>
      decide (r.idempotencyKey = row.idempotencyKey)) = true := by
    rw [List.any_eq_true]
    rintro ⟨r, hr, heq⟩
    exact (hfree r hr).1 ((of_decide_eq_true heq).trans hkey)
  rw [if_neg hany]
  cases hins : db.outboxDeliveries.insert? row with
  | none =>
    obtain ⟨r, hr⟩ := Table.insert?_eq_none.mp hins
    obtain ⟨hmem, hrid⟩ := Table.find?_eq_some.mp hr
    exact absurd (hrid.trans hid) (hfree r hmem).2
  | some T => exact ⟨{ db with outboxDeliveries := T }, rfl, Table.rows_insert hins, rfl, rfl⟩

/-- **One pass of the loop, inverted.** The reminder is valid, and it is skipped, or fired with a
delivery that is ignored, or fired with a delivery. -/
theorem fireOne_cases {platform : Platform} {now : Instant} {lateGraceSeconds : Int}
    {acc acc' : ℕ × Database} {row : Reminder}
    (h : fireOne platform now lateGraceSeconds acc row = .ok acc') :
    (loaded row).validate platform.zones = .ok ⟨⟩ ∧
      ((isMissed now lateGraceSeconds row = true ∧
          acc' = (acc.1, settleRow acc.2 now row.id .cancelled "skip" "missed_policy")) ∨
        isMissed now lateGraceSeconds row = false ∧
          ∃ text, reminderNotificationText platform.zones (loaded row) = .ok text ∧
            ((acc.2.insertDelivery? (delivery platform acc.2 now (loaded row) text) = none ∧
                acc' = (acc.1, settleRow acc.2 now row.id .fired "enqueue" "")) ∨
              ∃ db, acc.2.insertDelivery? (delivery platform acc.2 now (loaded row) text) = some db ∧
                acc' = (acc.1 + 1, settleRow db now row.id .fired "enqueue" ""))) := by
  unfold fireOne at h
  obtain ⟨r, hr, h⟩ := bind_eq_ok.mp h
  obtain ⟨hvalid, rfl⟩ := fromRow_ok hr
  refine ⟨hvalid, ?_⟩
  by_cases hmissed : isMissed now lateGraceSeconds (loaded row) = true
  · rw [if_pos hmissed] at h
    exact .inl ⟨hmissed, (Except.ok.inj h).symm⟩
  · rw [if_neg hmissed] at h
    obtain ⟨text, htext, h⟩ := bind_eq_ok.mp h
    refine .inr ⟨Bool.eq_false_iff.mpr hmissed, text, htext, ?_⟩
    cases hinsert : acc.2.insertDelivery? (delivery platform acc.2 now (loaded row) text) with
    | none =>
      rw [hinsert] at h
      exact .inl ⟨rfl, (Except.ok.inj h).symm⟩
    | some db =>
      rw [hinsert] at h
      obtain ⟨-, h⟩ := raiseIf_bind_ok.mp h
      exact .inr ⟨db, rfl, (Except.ok.inj h).symm⟩

/-- **One pass of the loop.** -/
theorem Firing.step {platform : Platform} {db : Database} {now : Instant}
    {lateGraceSeconds : Int} {done : List Reminder} {row : Reminder} {acc acc' : ℕ × Database}
    (h : Firing platform db now lateGraceSeconds done acc) (hclear : Clear platform db now)
    (hdone : ∀ r ∈ done, r ∈ due db now) (hrow : row ∈ due db now) (hnew : row ∉ done)
    (hstep : fireOne platform now lateGraceSeconds acc row = .ok acc') :
    Firing platform db now lateGraceSeconds (done ++ [row]) acc' := by
  obtain ⟨hmem, hpending, -⟩ := mem_due.mp hrow
  have hreminders : ∀ (db' : Database) (status : ReminderStatus) (action reason : String),
      db'.reminders = acc.2.reminders →
      status = (if isMissed now lateGraceSeconds row then .cancelled else .fired) →
      ∀ k, (settleRow db' now row.id status action reason).reminders.find? k =
        (db.reminders.find? k).map fun r =>
          if r ∈ done ++ [row] then settled now lateGraceSeconds r else r := by
    intro db' status action reason hsame hstatus
    refine find?_settle_next hmem hpending hnew (fun k => ?_) hstatus action reason
    rw [hsame]
    exact h.reminders k
  obtain ⟨new, hrows, hnewrows, hcount⟩ := h.deliveries
  obtain ⟨-, ⟨hmissed, rfl⟩ | ⟨hmissed, text, -, hinsert⟩⟩ := fireOne_cases hstep
  · refine ⟨h.users, hreminders _ _ _ _ rfl (by rw [if_pos hmissed]), new, hrows, ?_, hcount⟩
    rw [List.filter_append]
    simpa [hmissed] using hnewrows
  · have hdelivery : IsDelivery platform row (delivery platform acc.2 now (loaded row) text) :=
      ⟨rfl, rfl, rfl, rfl, rfl, rfl⟩
    -- the way is clear: neither the old deliveries nor those of this pass have the key or the id
    have hfree : ∀ row' ∈ acc.2.outboxDeliveries.rows,
        row'.idempotencyKey ≠ reminderKey row.id row.fireAt ∧
          row'.id ≠ platform.deliveryId (reminderKey row.id row.fireAt) := by
      intro row' hrow'
      rw [hrows, List.mem_append] at hrow'
      rcases hrow' with hold | hthis
      · exact ⟨hclear.key_free row hrow row' hold, hclear.id_free row hrow row' hold⟩
      · obtain ⟨r', hr', hisd⟩ := forall₂_exists_left hnewrows hthis
        have hr'done := (List.mem_filter.mp hr').1
        have hne : r' ≠ row := by
          rintro rfl
          exact hnew hr'done
        rw [hisd.key, hisd.id]
        exact ⟨hclear.keys_apart r' (hdone r' hr'done) row hrow hne,
          hclear.ids_apart r' (hdone r' hr'done) row hrow hne⟩
    obtain ⟨db₁, hins, hinsrows, husers, hsame⟩ :=
      insertDelivery?_free acc.2 hdelivery.key hdelivery.id hfree
    obtain ⟨hignored, -⟩ | ⟨db₂, hinserted, rfl⟩ := hinsert
    · rw [hins] at hignored
      cases hignored
    rw [hins] at hinserted
    obtain rfl := Option.some.inj hinserted
    refine ⟨husers.trans h.users, hreminders _ _ _ _ hsame (by rw [hmissed]; rfl),
      new ++ [delivery platform acc.2 now (loaded row) text], ?_, ?_, ?_⟩
    · change db₁.outboxDeliveries.rows = _
      rw [hinsrows, hrows, List.append_assoc]
    · rw [List.filter_append]
      refine List.rel_append hnewrows ?_
      simpa [hmissed] using hdelivery
    · rw [List.length_append, List.length_singleton, hcount]

/-- **What a successful firing writes**, when the way is clear: every due reminder is
settled, and one delivery is added for each that was not missed. -/
theorem enqueueDue_ok {platform : Platform} {now : Instant} {lateGraceSeconds : Int}
    {db db' : Database} {n : ℕ} (hclear : Clear platform db now)
    (h : enqueueDue platform now lateGraceSeconds db = .ok (n, db')) :
    Firing platform db now lateGraceSeconds (due db now) (n, db') := by
  unfold enqueueDue at h
  rw [raiseIf_bind_ok] at h
  refine foldlM_invariant (Firing platform db now lateGraceSeconds) (nodup_due db now)
    (fun done row acc acc' hdone hrow hnew hfiring hstep =>
      hfiring.step hclear hdone hrow hnew hstep) ?_ h.2
  refine ⟨rfl, fun k => ?_, [], by simp, by simp, rfl⟩
  cases hk : db.reminders.find? k <;> simp

/-! ### Runs -/

inductive ReminderCall
  | create (reminder : Reminder) (authorization : AuthorizedAction)
  | enqueueDue (now : Instant) (lateGraceSeconds : Int)
  | snooze (reminderId : String) (fireAt : Instant) (expectedVersion : Int)
      (authorization : AuthorizedAction)
  | acknowledge (reminderId : String) (expectedVersion : Int) (authorization : AuthorizedAction)
  | cancel (reminderId : String) (expectedVersion : Int) (authorization : AuthorizedAction)

/-- The moment of a call. -/
def ReminderCall.time : ReminderCall → Instant
  | .enqueueDue now _ => now
  | .create _ authorization | .snooze _ _ _ authorization | .acknowledge _ _ authorization
  | .cancel _ _ authorization => authorization.authorizedAt

inductive ReminderReply
  | reminder (r : Reminder)
  | enqueued (inserted : ℕ)

/-- The code a call runs. -/
def perform (platform : Platform) : ReminderCall → Effect Database PyError ReminderReply
  | .create reminder authorization =>
    .reminder <$> Effect.atomically (create reminder authorization)
  | .enqueueDue now lateGraceSeconds =>
    .enqueued <$> Effect.atomically (enqueueDue platform now lateGraceSeconds)
  | .snooze reminderId fireAt expectedVersion authorization =>
    .reminder <$> snooze platform.zones reminderId fireAt expectedVersion authorization
  | .acknowledge reminderId expectedVersion authorization =>
    .reminder <$> acknowledge platform.zones reminderId expectedVersion authorization
  | .cancel reminderId expectedVersion authorization =>
    .reminder <$> cancel platform.zones reminderId expectedVersion authorization

/-- The repository as a machine. -/
def machine (platform : Platform) :
    Machine Database ReminderCall (Except PyError ReminderReply) where
  exec db call := (perform platform call).exec db

abbrev ReminderStage := Stage Database ReminderCall (Except PyError ReminderReply)

/-- What a run may rely on at a call: the clock does not run backwards, a fire time
is a `datetime`, and the delivery ids of the due reminders do not collide with
each other's or with those of other keys. -/
def InOrder (platform : Platform) (g : ReminderStage) (c : ReminderCall) : Prop :=
  (∀ e ∈ g.log, e.call.time ≤ c.time) ∧
    match c with
    | .create reminder _ => Instant.InRange reminder.fireAt
    | .snooze _ fireAt _ _ => Instant.InRange fireAt
    | .enqueueDue now _ =>
      ∀ r ∈ due g.state now,
        (∀ row ∈ g.state.outboxDeliveries.rows,
          row.id = platform.deliveryId (reminderKey r.id r.fireAt) →
            row.idempotencyKey = reminderKey r.id r.fireAt) ∧
        ∀ r' ∈ due g.state now,
          platform.deliveryId (reminderKey r.id r.fireAt) =
              platform.deliveryId (reminderKey r'.id r'.fireAt) →
            reminderKey r.id r.fireAt = reminderKey r'.id r'.fireAt
    | _ => True

instance (platform : Platform) (g : ReminderStage) (c : ReminderCall) :
    Decidable (InOrder platform g c) :=
  match c with
  | .create reminder _ => inferInstanceAs (Decidable (_ ∧ Instant.InRange reminder.fireAt))
  | .snooze _ fireAt _ _ => inferInstanceAs (Decidable (_ ∧ Instant.InRange fireAt))
  | .enqueueDue now _ => inferInstanceAs (Decidable (_ ∧ ∀ r ∈ due g.state now, _))
  | .acknowledge .. => inferInstanceAs (Decidable (_ ∧ True))
  | .cancel .. => inferInstanceAs (Decidable (_ ∧ True))

/-- The reminders that went from pending to fired between two states. -/
def firedBetween (db db' : Database) : List Reminder :=
  db.reminders.rows.filter fun r =>
    r.status = .pending && (db'.reminders.find? r.id).any fun r' => r'.status = .fired

/-- Every delivery of a reminder was fired at a time that has passed, and a
reminder that waits again waits for a later one. -/
structure Timely (g : ReminderStage) : Prop where
  in_range : ∀ r ∈ g.state.reminders.rows, Instant.InRange r.fireAt
  passed : ∀ row ∈ g.state.outboxDeliveries.rows, ∀ id f, Instant.InRange f →
    row.idempotencyKey = reminderKey id f →
      (∃ e ∈ g.log, f ≤ e.call.time) ∧
        ∃ r, g.state.reminders.find? id = some r ∧ (r.status = .pending → f < r.fireAt)

/-- **Keys are unambiguous.** -/
theorem reminderKey_inj {id id' : String} {f f' : Instant} (hf : Instant.InRange f)
    (hf' : Instant.InRange f') (h : reminderKey id f = reminderKey id' f') : id = id' ∧ f = f' := by
  have hlist : ("reminder:" ++ id ++ ":").toList ++ (isoformat f).toList =
      ("reminder:" ++ id' ++ ":").toList ++ (isoformat f').toList := by
    rw [← String.toList_append, ← String.toList_append]
    exact congrArg String.toList h
  obtain ⟨hhead, htime⟩ := append_isoformat_inj hf hf' hlist
  refine ⟨?_, htime⟩
  rw [String.toList_append, String.toList_append, String.toList_append,
    String.toList_append] at hhead
  exact String.toList_injective
    (List.append_cancel_left (List.append_cancel_right hhead))

/-- **The way is always clear.** -/
theorem Timely.clear {platform : Platform} {g : ReminderStage} (h : Timely g) {now : Instant}
    {lateGraceSeconds : Int} (horder : InOrder platform g (.enqueueDue now lateGraceSeconds)) :
    Clear platform g.state now := by
  have hkey : ∀ r ∈ due g.state now, ∀ row ∈ g.state.outboxDeliveries.rows,
      row.idempotencyKey ≠ reminderKey r.id r.fireAt := by
    intro r hr row hrow heq
    obtain ⟨hmem, hpending, -⟩ := mem_due.mp hr
    obtain ⟨-, r', hr', hlater⟩ := h.passed row hrow r.id r.fireAt (h.in_range r hmem) heq
    rw [Table.find?_of_mem hmem] at hr'
    obtain rfl := Option.some.inj hr'
    exact absurd (hlater hpending) (lt_irrefl _)
  have hapart : ∀ r ∈ due g.state now, ∀ r' ∈ due g.state now, r ≠ r' →
      reminderKey r.id r.fireAt ≠ reminderKey r'.id r'.fireAt := by
    intro r hr r' hr' hne heq
    obtain ⟨hmem, -, -⟩ := mem_due.mp hr
    obtain ⟨hmem', -, -⟩ := mem_due.mp hr'
    obtain ⟨hid, -⟩ := reminderKey_inj (h.in_range r hmem) (h.in_range r' hmem') heq
    exact hne (g.state.reminders.eq_of_key_eq hmem hmem' hid)
  refine ⟨hkey, ?_, hapart, ?_⟩
  · intro r hr row hrow heq
    exact hkey r hr row hrow ((horder.2 r hr).1 row hrow heq)
  · intro r hr r' hr' hne heq
    exact hapart r hr r' hr' hne ((horder.2 r hr).2 r' hr' heq)

/-! ### What a call changes -/

/-- A change of one reminder that fires nothing. -/
inductive Moved (c : ReminderCall) (r r' : Reminder) : Prop
  | cancelled (status : r'.status = .cancelled) (same : r'.fireAt = r.fireAt)
  | snoozed (fired : r.status = .fired) (later : c.time < r'.fireAt)
      (range : Instant.InRange r'.fireAt)

/-- What a call leaves behind, as far as reminders and deliveries go. -/
inductive Change (platform : Platform) (db : Database) (c : ReminderCall) (db' : Database) : Prop
  | nothing (reminders : db'.reminders = db.reminders)
      (deliveries : db'.outboxDeliveries = db.outboxDeliveries)
  | created (r : Reminder) (fresh : db.reminders.find? r.id = none)
      (range : Instant.InRange r.fireAt)
      (reminders : ∀ k, db'.reminders.find? k = if k = r.id then some r else db.reminders.find? k)
      (deliveries : db'.outboxDeliveries = db.outboxDeliveries)
  | moved (id : String) (r r' : Reminder) (found : db.reminders.find? id = some r)
      (move : Moved c r r')
      (reminders : ∀ k, db'.reminders.find? k = if k = id then some r' else db.reminders.find? k)
      (deliveries : db'.outboxDeliveries = db.outboxDeliveries)
  | fired (now : Instant) (lateGraceSeconds : Int) (n : ℕ) (call : c.time = now)
      (firing : Firing platform db now lateGraceSeconds (due db now) (n, db'))

theorem changeRow_ok {reminderId : String} {expectedVersion : Int}
    {authorization : AuthorizedAction} {available : ReminderStatus → Bool}
    {set : Reminder → Reminder} {hset : ∀ r, (set r).id = r.id} {refusal reasonCode : String}
    {db db' : Database}
    (h : changeRow reminderId expectedVersion authorization available set hset refusal reasonCode
      db = .ok ((), db')) :
    ∃ r, db.reminders.find? reminderId = some r ∧ available r.status = true ∧
      db'.outboxDeliveries = db.outboxDeliveries ∧
      ∀ k, db'.reminders.find? k =
        if k = reminderId then some { set r with
          version := r.version + 1, updatedAt := some authorization.authorizedAt }
        else db.reminders.find? k := by
  unfold changeRow at h
  by_cases hcount : db.reminders.count (fun r => decide (r.id = reminderId) &&
      (r.version = expectedVersion && available r.status)) = 1
  · rw [if_neg (not_not.mpr hcount)] at h
    obtain ⟨r, hr, hq⟩ := Table.exists_of_count_key hcount
    obtain rfl := (Prod.mk.inj (Except.ok.inj h)).2
    have havailable : available r.status = true := (Bool.and_eq_true _ _ ▸ hq).2
    refine ⟨r, hr, havailable, rfl, fun k => ?_⟩
    exact Table.find?_updateKeyWhere hr hq (fun r => { set r with
      version := r.version + 1, updatedAt := some authorization.authorizedAt })
      (fun r => hset r) k
  · rw [if_pos hcount] at h
    cases h

@[simp] theorem exec_reload (zones : TimeZones) (reminderId : String) (db : Database) :
    ((reload zones reminderId).exec db).2 = db := by
  unfold reload
  rw [Effect.exec_bind, Effect.exec_query]
  cases get zones reminderId db with
  | error err => rfl
  | ok updated => cases updated <;> rfl

/-- **A change of status**: it raises and leaves the store alone, or commits
the update of the row. -/
theorem changeStatus_cases (zones : TimeZones) (reminderId : String) (expectedVersion : Int)
    (authorization : AuthorizedAction) (available : ReminderStatus → Bool)
    (set : Reminder → Reminder) (hset : ∀ r, (set r).id = r.id) (refusal reasonCode : String)
    (db : Database) :
    (∃ err, (changeStatus zones reminderId expectedVersion authorization available set hset refusal
      reasonCode).exec db = (.error err, db)) ∨
    ∃ db', changeRow reminderId expectedVersion authorization available set hset refusal
        reasonCode db = .ok ((), db') ∧
      ((changeStatus zones reminderId expectedVersion authorization available set hset refusal
        reasonCode).exec db).2 = db' := by
  unfold changeStatus
  rw [Effect.exec_bind, Effect.exec_query]
  cases hget : get zones reminderId db with
  | error err => exact Or.inl ⟨err, rfl⟩
  | ok existing =>
    cases existing with
    | none => exact Or.inl ⟨_, rfl⟩
    | some existing =>
      simp only
      rw [Effect.exec_check_bind]
      cases requireAuthorization authorization .update "reminder" existing.id
          existing.ownerUserId existing.classification with
      | error err => exact Or.inl ⟨err, rfl⟩
      | ok _ =>
        simp only
        rw [Effect.exec_bind, Effect.exec_atomically]
        cases hrow : (changeRow reminderId expectedVersion authorization available set hset refusal
            reasonCode).run db with
        | error err => exact Or.inl ⟨err, rfl⟩
        | ok p =>
          obtain ⟨_, db'⟩ := p
          exact Or.inr ⟨db', hrow, exec_reload zones reminderId db'⟩

/-- A committed change of status moves one reminder. -/
theorem Change.of_changeStatus (platform : Platform) {c : ReminderCall} {reminderId : String}
    {expectedVersion : Int} {authorization : AuthorizedAction}
    {available : ReminderStatus → Bool} {set : Reminder → Reminder}
    {hset : ∀ r, (set r).id = r.id} {refusal reasonCode : String} (db : Database)
    (hmove : ∀ r : Reminder, available r.status = true → ∀ version updatedAt,
      Moved c r { set r with version, updatedAt }) :
    Change platform db c
      ((changeStatus platform.zones reminderId expectedVersion authorization available set hset
        refusal reasonCode).exec db).2 := by
  rcases changeStatus_cases platform.zones reminderId expectedVersion authorization available set
    hset refusal reasonCode db with ⟨err, herr⟩ | ⟨db', hrow, hexec⟩
  · rw [herr]
    exact .nothing rfl rfl
  · rw [hexec]
    obtain ⟨r, hr, havailable, hdeliveries, hreminders⟩ := changeRow_ok hrow
    exact .moved reminderId r _ hr (hmove r havailable _ _) hreminders hdeliveries

theorem create_ok {reminder stored' : Reminder} {authorization : AuthorizedAction}
    {db db' : Database} (h : create reminder authorization db = .ok (stored', db')) :
    db.reminders.find? reminder.id = none ∧
      db'.outboxDeliveries = db.outboxDeliveries ∧
      ∀ k, db'.reminders.find? k =
        if k = reminder.id then some (stored reminder authorization)
        else db.reminders.find? k := by
  unfold create at h
  rw [bind_eq_ok] at h
  obtain ⟨_, -, h⟩ := h
  rw [raiseIf_bind_ok] at h
  obtain ⟨-, h⟩ := h
  cases hins : db.reminders.insert? (stored reminder authorization) with
  | none =>
    rw [hins] at h
    cases h
  | some T =>
    rw [hins] at h
    obtain rfl := (Prod.mk.inj (Except.ok.inj h)).2
    exact ⟨(Table.insert?_eq_some.mp hins).1, rfl, Table.find?_insert hins⟩

/-- **Every call makes one of these changes.** -/
theorem Timely.change {platform : Platform} {g : ReminderStage} {c : ReminderCall}
    (h : Timely g) (horder : InOrder platform g c) :
    Change platform g.state c ((machine platform).exec g.state c).2 := by
  unfold machine
  cases c with
  | create reminder authorization =>
    simp only [perform]
    rw [Effect.exec_map, Effect.exec_atomically]
    cases hcreate : (create reminder authorization).run g.state with
    | error err => exact .nothing rfl rfl
    | ok p =>
      obtain ⟨row, db'⟩ := p
      obtain ⟨hfresh, hdeliveries, hreminders⟩ := create_ok hcreate
      exact .created (stored reminder authorization) hfresh horder.2 hreminders hdeliveries
  | enqueueDue now lateGraceSeconds =>
    simp only [perform]
    rw [Effect.exec_map, Effect.exec_atomically]
    cases hdue : (enqueueDue platform now lateGraceSeconds).run g.state with
    | error err => exact .nothing rfl rfl
    | ok p =>
      obtain ⟨n, db'⟩ := p
      exact .fired now lateGraceSeconds n rfl (enqueueDue_ok (h.clear horder) hdue)
  | snooze reminderId fireAt expectedVersion authorization =>
    simp only [perform]
    rw [Effect.exec_map]
    unfold snooze
    rw [Effect.exec_check_bind]
    unfold raiseIf
    by_cases hlate : fireAt ≤ authorization.authorizedAt
    · rw [if_pos hlate]
      exact .nothing rfl rfl
    · rw [if_neg hlate]
      refine Change.of_changeStatus platform g.state fun r hfired version updatedAt => ?_
      exact .snoozed (of_decide_eq_true hfired) (not_le.mp hlate) horder.2
  | acknowledge reminderId expectedVersion authorization =>
    simp only [perform]
    rw [Effect.exec_map]
    exact Change.of_changeStatus platform g.state fun r _ version updatedAt => .cancelled rfl rfl
  | cancel reminderId expectedVersion authorization =>
    simp only [perform]
    rw [Effect.exec_map]
    exact Change.of_changeStatus platform g.state fun r _ version updatedAt => .cancelled rfl rfl

theorem settled_not_pending (now : Instant) (lateGraceSeconds : Int) (r : Reminder) :
    (settled now lateGraceSeconds r).status ≠ .pending := by
  unfold settled
  by_cases hmissed : isMissed now lateGraceSeconds r = true <;> simp [hmissed]

/-- What a reminder becomes in a call: it keeps its key, it stays cancelled, and it
is not pending afterwards for an earlier time than before. -/
theorem Change.follow {platform : Platform} {db db' : Database} {c : ReminderCall}
    (h : Change platform db c db') {id : String} {r : Reminder}
    (hr : db.reminders.find? id = some r) :
    ∃ r', db'.reminders.find? id = some r' ∧
      (r.status = .cancelled → r'.status = .cancelled) ∧
      (r'.status = .pending → (r.status = .pending ∧ r'.fireAt = r.fireAt) ∨
        c.time < r'.fireAt) := by
  have hsame : ∃ r', some r = some r' ∧ (r.status = .cancelled → r'.status = .cancelled) ∧
      (r'.status = .pending → (r.status = .pending ∧ r'.fireAt = r.fireAt) ∨
        c.time < r'.fireAt) :=
    ⟨r, rfl, fun hcancelled => hcancelled, fun hpending => Or.inl ⟨hpending, rfl⟩⟩
  cases h with
  | nothing hreminders _ =>
    rw [hreminders, hr]
    exact hsame
  | created r₀ hfresh _ hreminders _ =>
    have hne : id ≠ r₀.id := by
      rintro rfl
      rw [hfresh] at hr
      cases hr
    rw [hreminders, if_neg hne, hr]
    exact hsame
  | moved id₀ r₀ r₁ hfound hmove hreminders _ =>
    rw [hreminders]
    by_cases hid : id = id₀
    · subst hid
      rw [hr] at hfound
      obtain rfl := Option.some.inj hfound
      rw [if_pos rfl]
      refine ⟨r₁, rfl, ?_⟩
      cases hmove with
      | cancelled hstatus _ =>
        exact ⟨fun _ => hstatus, fun hpending => absurd (hstatus.symm.trans hpending) (by simp)⟩
      | snoozed hfired hlater _ =>
        exact ⟨fun hcancelled => absurd (hfired.symm.trans hcancelled) (by simp),
          fun _ => Or.inr hlater⟩
    · rw [if_neg hid, hr]
      exact hsame
  | fired now lateGraceSeconds n hcall firing =>
    rw [firing.reminders, hr, Option.map_some]
    by_cases hdue : r ∈ due db now
    · rw [if_pos hdue]
      refine ⟨_, rfl, fun hcancelled => ?_, fun hpending => ?_⟩
      · have hpending := (mem_due.mp hdue).2.1
        exact absurd (hcancelled.symm.trans hpending) (by simp)
      · exact absurd hpending (settled_not_pending now lateGraceSeconds r)
    · rw [if_neg hdue]
      exact hsame

/-- The deliveries a call adds are those of the reminders that it took from pending to
fired. -/
theorem Change.deliveries {platform : Platform} {db db' : Database} {c : ReminderCall}
    (h : Change platform db c db') :
    ∃ order new, order.Perm (firedBetween db db') ∧
      db'.outboxDeliveries.rows = db.outboxDeliveries.rows ++ new ∧
      List.Forall₂ (IsDelivery platform) order new ∧
      ∀ r ∈ order, r.fireAt ≤ c.time := by
  have hquiet (hdeliveries : db'.outboxDeliveries = db.outboxDeliveries)
      (hnone : ∀ r r', db.reminders.find? r.id = some r → r.status = .pending →
        db'.reminders.find? r.id = some r' → r'.status ≠ .fired) :
      ∃ order new, order.Perm (firedBetween db db') ∧
        db'.outboxDeliveries.rows = db.outboxDeliveries.rows ++ new ∧
        List.Forall₂ (IsDelivery platform) order new ∧ ∀ r ∈ order, r.fireAt ≤ c.time := by
    have hempty : firedBetween db db' = [] := by
      unfold firedBetween
      rw [List.filter_eq_nil_iff]
      intro r hr hcond
      rw [Bool.and_eq_true, decide_eq_true_eq, Option.any_eq_true] at hcond
      obtain ⟨hpending, r', hr', hfired⟩ := hcond
      exact hnone r r' (Table.find?_of_mem hr) hpending hr' (of_decide_eq_true hfired)
    refine ⟨[], [], ?_, ?_, .nil, by simp⟩
    · rw [hempty]
    · rw [hdeliveries, List.append_nil]
  cases h with
  | nothing hreminders hdeliveries =>
    refine hquiet hdeliveries fun r r' hr hpending hr' hfired => ?_
    rw [hreminders, hr] at hr'
    obtain rfl := Option.some.inj hr'
    exact absurd (hpending.symm.trans hfired) (by simp)
  | created r₀ hfresh _ hreminders hdeliveries =>
    refine hquiet hdeliveries fun r r' hr hpending hr' hfired => ?_
    have hne : r.id ≠ r₀.id := by
      intro heq
      rw [heq, hfresh] at hr
      cases hr
    rw [hreminders, if_neg hne, hr] at hr'
    obtain rfl := Option.some.inj hr'
    exact absurd (hpending.symm.trans hfired) (by simp)
  | moved id₀ r₀ r₁ hfound hmove hreminders hdeliveries =>
    refine hquiet hdeliveries fun r r' hr hpending hr' hfired => ?_
    rw [hreminders] at hr'
    by_cases hid : r.id = id₀
    · rw [if_pos hid] at hr'
      obtain rfl := Option.some.inj hr'
      rw [hid, hfound] at hr
      obtain rfl := Option.some.inj hr
      cases hmove with
      | cancelled hstatus _ => exact absurd (hstatus.symm.trans hfired) (by simp)
      | snoozed hwas _ _ => exact absurd (hpending.symm.trans hwas) (by simp)
    · rw [if_neg hid, hr] at hr'
      obtain rfl := Option.some.inj hr'
      exact absurd (hpending.symm.trans hfired) (by simp)
  | fired now lateGraceSeconds n hcall firing =>
    obtain ⟨new, hrows, hnew, -⟩ := firing.deliveries
    refine ⟨_, new, ?_, hrows, hnew, ?_⟩
    · refine (List.perm_ext_iff_of_nodup ((nodup_due db now).filter _)
        ((List.Nodup.of_map _ db.reminders.nodup).filter _)).mpr fun r => ?_
      rw [List.mem_filter, List.mem_filter, mem_due]
      constructor
      · rintro ⟨⟨hmem, hpending, htime⟩, hkept⟩
        refine ⟨hmem, ?_⟩
        have hdue : r ∈ due db now := mem_due.mpr ⟨hmem, hpending, htime⟩
        have hkept' : isMissed now lateGraceSeconds r = false := by simpa using hkept
        rw [firing.reminders, Table.find?_of_mem hmem, Option.map_some, if_pos hdue]
        simp [hpending, settled, hkept']
      · rintro ⟨hmem, hcond⟩
        rw [firing.reminders, Table.find?_of_mem hmem, Option.map_some, Bool.and_eq_true,
          decide_eq_true_eq] at hcond
        obtain ⟨hpending, hfired⟩ := hcond
        by_cases hdue : r ∈ due db now
        · rw [if_pos hdue] at hfired
          refine ⟨mem_due.mp hdue, ?_⟩
          cases hmissed : isMissed now lateGraceSeconds r with
          | false => rfl
          | true => simp [settled, hmissed] at hfired
        · rw [if_neg hdue] at hfired
          simp [hpending] at hfired
    · intro r hr
      rw [hcall]
      exact (mem_due.mp (List.mem_filter.mp hr).1).2.2

/-- Fire times stay `datetime`s. -/
theorem Change.in_range {platform : Platform} {db db' : Database} {c : ReminderCall}
    (h : Change platform db c db')
    (hrange : ∀ r ∈ db.reminders.rows, Instant.InRange r.fireAt) :
    ∀ r ∈ db'.reminders.rows, Instant.InRange r.fireAt := by
  intro r' hr'
  have hold : ∀ k r, db.reminders.find? k = some r → Instant.InRange r.fireAt :=
    fun k r hr => hrange r (Table.mem_of_find? hr)
  have hfind := Table.find?_of_mem hr'
  cases h with
  | nothing hreminders _ =>
    rw [hreminders] at hfind
    exact hold _ _ hfind
  | created r₀ _ hr₀ hreminders _ =>
    rw [hreminders] at hfind
    by_cases hid : r'.id = r₀.id
    · rw [if_pos hid] at hfind
      obtain rfl := Option.some.inj hfind
      exact hr₀
    · rw [if_neg hid] at hfind
      exact hold _ _ hfind
  | moved id₀ r₀ r₁ hfound hmove hreminders _ =>
    rw [hreminders] at hfind
    by_cases hid : r'.id = id₀
    · rw [if_pos hid] at hfind
      obtain rfl := Option.some.inj hfind
      cases hmove with
      | cancelled _ hsame =>
        rw [hsame]
        exact hold _ _ hfound
      | snoozed _ _ hr₁ => exact hr₁
    · rw [if_neg hid] at hfind
      exact hold _ _ hfind
  | fired now lateGraceSeconds n _ firing =>
    rw [firing.reminders] at hfind
    obtain ⟨r, hr, hsettled⟩ := Option.map_eq_some_iff.mp hfind
    have hsame : r'.fireAt = r.fireAt := by
      rw [← hsettled]
      by_cases hdue : r ∈ due db now
      · rw [if_pos hdue]
        rfl
      · rw [if_neg hdue]
    rw [hsame]
    exact hold _ _ hr

/-- **Every step keeps the deliveries timely.** -/
theorem Timely.step {platform : Platform} {g : ReminderStage} {c : ReminderCall}
    (h : Timely g) (horder : InOrder platform g c) :
    Timely ((machine platform).advance g c) := by
  have hchange := h.change horder
  obtain ⟨order, new, hperm, hrows, hnew, htimes⟩ := hchange.deliveries
  refine ⟨?_, ?_⟩
  · intro r' hr'
    rw [Machine.advance_state] at hr'
    exact hchange.in_range h.in_range r' hr'
  · intro row hrow id f hf hkey
    rw [Machine.advance_state, hrows, List.mem_append] at hrow
    rcases hrow with hold | hthis
    · -- an older delivery: its reminder may by now wait for a later time
      obtain ⟨⟨e, he, hpast⟩, r, hr, hlater⟩ := h.passed row hold id f hf hkey
      refine ⟨⟨e, List.mem_cons_of_mem _ he, hpast⟩, ?_⟩
      obtain ⟨r', hr', -, hmoved⟩ := hchange.follow hr
      refine ⟨r', hr', fun hpending => ?_⟩
      rcases hmoved hpending with ⟨hwas, hsame⟩ | hafter
      · rw [hsame]
        exact hlater hwas
      · exact lt_of_le_of_lt (hpast.trans (horder.1 e he)) hafter
    · -- a delivery of this pass: its reminder is no longer pending
      obtain ⟨r, hr, hisd⟩ := forall₂_exists_left hnew hthis
      obtain ⟨hmem, hcond⟩ := List.mem_filter.mp (hperm.mem_iff.mp hr)
      obtain ⟨rfl, rfl⟩ := reminderKey_inj hf (h.in_range r hmem) (hkey.symm.trans hisd.key)
      refine ⟨⟨_, List.mem_cons_self .., htimes r hr⟩, ?_⟩
      rw [Bool.and_eq_true, Option.any_eq_true] at hcond
      obtain ⟨-, r', hr', hfired⟩ := hcond
      refine ⟨r', hr', fun hpending => ?_⟩
      exact absurd (hpending.symm.trans (of_decide_eq_true hfired)) (by simp)

/-! ### Exactly once -/

/-- A run that starts without reminders, and without deliveries that pass for theirs. -/
structure Fresh (db : Database) : Prop where
  no_reminders : db.reminders = ∅
  no_deliveries : ∀ row ∈ db.outboxDeliveries.rows, ∀ id f, Instant.InRange f →
    row.idempotencyKey ≠ reminderKey id f

theorem timely_of_reaches {platform : Platform} {db : Database} {g : ReminderStage}
    (hfresh : Fresh db)
    (hrun : (machine platform).Reaches (InOrder platform) (Machine.start db) g) : Timely g := by
  refine Machine.Reaches.invariant ?_ hrun fun g c horder h => h.step horder
  refine ⟨?_, ?_⟩
  · intro r hr
    rw [Machine.start_state, hfresh.no_reminders] at hr
    exact absurd hr (by simp)
  · intro row hrow id f hf hkey
    exact absurd hkey (hfresh.no_deliveries row hrow id f hf)

/-- The delivery is keyed as one of this reminder. -/
def IsFor (id : String) (row : OutboxDelivery) : Prop :=
  ∃ f, Instant.InRange f ∧ row.idempotencyKey = reminderKey id f

/-- Where a reminder that is over stands at a later stage. -/
structure Silent (id : String) (rows : List OutboxDelivery) (g : ReminderStage) : Prop where
  timely : Timely g
  ended : ∃ r, g.state.reminders.find? id = some r ∧ r.status = .cancelled
  deliveries : ∃ new, g.state.outboxDeliveries.rows = rows ++ new ∧ ∀ row ∈ new, ¬ IsFor id row

theorem Silent.step {platform : Platform} {id : String} {rows : List OutboxDelivery}
    {g : ReminderStage} {c : ReminderCall} (h : Silent id rows g)
    (horder : InOrder platform g c) : Silent id rows ((machine platform).advance g c) := by
  have hchange := h.timely.change horder
  obtain ⟨r, hr, hover⟩ := h.ended
  obtain ⟨r', hr', hstays, -⟩ := hchange.follow hr
  obtain ⟨order, added, hperm, hadded, hdeliveries, -⟩ := hchange.deliveries
  obtain ⟨new, hrows, hsilent⟩ := h.deliveries
  refine ⟨h.timely.step horder, ⟨r', hr', hstays hover⟩, new ++ added, ?_, ?_⟩
  · rw [Machine.advance_state, hadded, hrows, List.append_assoc]
  · rintro row hrow ⟨f, hf, hkey⟩
    rcases List.mem_append.mp hrow with hold | hthis
    · exact hsilent row hold ⟨f, hf, hkey⟩
    · -- the delivery would be that of a reminder that was pending
      obtain ⟨r₁, hr₁, hisd⟩ := forall₂_exists_left hdeliveries hthis
      obtain ⟨hmem, hcond⟩ := List.mem_filter.mp (hperm.mem_iff.mp hr₁)
      obtain ⟨hid, -⟩ := reminderKey_inj hf (h.timely.in_range r₁ hmem)
        (hkey.symm.trans hisd.key)
      rw [hid, Table.find?_of_mem hmem] at hr
      obtain rfl := Option.some.inj hr
      rw [Bool.and_eq_true, decide_eq_true_eq] at hcond
      exact absurd (hcond.1.symm.trans hover) (by simp)

/-- A call that ends a reminder. -/
def Ends (c : ReminderCall) (id : String) : Prop :=
  ∃ expectedVersion authorization,
    c = .acknowledge id expectedVersion authorization ∨ c = .cancel id expectedVersion authorization

/-- A successful change of status leaves its reminder with the new status. -/
theorem changeStatus_ok {zones : TimeZones} {reminderId : String} {expectedVersion : Int}
    {authorization : AuthorizedAction} {available : ReminderStatus → Bool}
    {set : Reminder → Reminder} {hset : ∀ r, (set r).id = r.id} {refusal reasonCode : String}
    {db db' : Database} {r : Reminder}
    (h : (changeStatus zones reminderId expectedVersion authorization available set hset refusal
      reasonCode).exec db = (.ok r, db')) {status : ReminderStatus}
    (hstatus : ∀ r, (set r).status = status) :
    ∃ r', db'.reminders.find? reminderId = some r' ∧ r'.status = status := by
  rcases changeStatus_cases zones reminderId expectedVersion authorization available set hset
    refusal reasonCode db with ⟨err, herr⟩ | ⟨db₁, hrow, hexec⟩
  · rw [herr] at h
    cases h
  · rw [h] at hexec
    obtain rfl : db' = db₁ := hexec
    obtain ⟨r₀, -, -, -, hreminders⟩ := changeRow_ok hrow
    rw [hreminders, if_pos rfl]
    exact ⟨_, rfl, hstatus r₀⟩

theorem over_of_ends {platform : Platform} {c : ReminderCall} {id : String} (hends : Ends c id)
    {db : Database} {reply : ReminderReply}
    (hreply : ((machine platform).exec db c).1 = .ok reply) :
    ∃ r, ((machine platform).exec db c).2.reminders.find? id = some r ∧
      r.status = .cancelled := by
  unfold machine at hreply ⊢
  obtain ⟨expectedVersion, authorization, rfl | rfl⟩ := hends
  all_goals
    simp only [perform, cancel, acknowledge] at hreply ⊢
    rw [Effect.exec_map] at hreply ⊢
    simp only at hreply ⊢
    generalize hexec : Effect.exec _ db = answer at hreply ⊢
    obtain ⟨outcome, db'⟩ := answer
    cases outcome with
    | error err => cases hreply
    | ok r => exact changeStatus_ok hexec fun _ => rfl

/-- **Reminders fire exactly once.** At any stage of any run, the deliveries a call
adds are, one each, those of the reminders it takes from pending to fired. A
reminder that was acknowledged or cancelled is over, and one that is over gets no
delivery in any later run. -/
theorem fires_exactly_once (platform : Platform) {db : Database} (hfresh : Fresh db)
    {g : ReminderStage}
    (hrun : (machine platform).Reaches (InOrder platform) (Machine.start db) g) :
    (∀ c, InOrder platform g c →
      ∃ order new,
        order.Perm (firedBetween g.state ((machine platform).advance g c).state) ∧
        ((machine platform).advance g c).state.outboxDeliveries.rows =
          g.state.outboxDeliveries.rows ++ new ∧
        List.Forall₂ (IsDelivery platform) order new) ∧
    (∀ c id, Ends c id → ∀ reply, ((machine platform).exec g.state c).1 = .ok reply →
      ∃ r, ((machine platform).advance g c).state.reminders.find? id = some r ∧
        r.status = .cancelled) ∧
    ∀ id r, g.state.reminders.find? id = some r → r.status = .cancelled →
      ∀ g', (machine platform).Reaches (InOrder platform) g g' →
        ∃ new, g'.state.outboxDeliveries.rows = g.state.outboxDeliveries.rows ++ new ∧
          ∀ row ∈ new, ¬ IsFor id row := by
  have htimely := timely_of_reaches hfresh hrun
  refine ⟨?_, ?_, ?_⟩
  · intro c horder
    obtain ⟨order, new, hperm, hrows, hdeliveries, -⟩ := (htimely.change horder).deliveries
    exact ⟨order, new, hperm, hrows, hdeliveries⟩
  · intro c id hends reply hreply
    exact over_of_ends hends hreply
  · intro id r hr hover g' hlater
    have hsilent : Silent id g.state.outboxDeliveries.rows g :=
      ⟨htimely, ⟨r, hr, hover⟩, [], by simp, by simp⟩
    have hsilent' : Silent id g.state.outboxDeliveries.rows g' :=
      Machine.Reaches.stable hsilent hlater fun g c horder h => h.step horder
    exact hsilent'.deliveries

/-! A run on one reminder: it fires, is snoozed, fires again and is acknowledged. -/

/-- A zone database with Shanghai, and the digests of two keys. -/
def shanghai : Platform where
  zones := {
    lookup := fun key => if key = "Asia/Shanghai" then .found else .missing
    utcoffset := fun _ _ _ => Duration.minutes 480
    fromutc := fun _ t => (t + Duration.minutes 480, false) }
  sha256 := fun key =>
    if key = "reminder:r1:1970-01-01T00:01:00+00:00" then
      "0aba5bb9dc51f43c39d3b9a01da070dcea206ec92109c94c397255b7a4ddd7fa"
    else if key = "reminder:r1:1970-01-01T00:02:00+00:00" then
      "4d40e38f8f0c62d5ea3fbb1030a374aef5600c4fe5630ff1a2fce70dc1054250"
    else ""

def alone : Database := { users := .single ⟨"alice", "Alice", true⟩ }

def water : Reminder :=
  { id := "r1", ownerUserId := "alice", title := "Water the plants"
    fireAt := Duration.minutes 1, targetRef := "qq:alice" }

def byAlice (action : Action) (at' : Instant) : AuthorizedAction :=
  { actorUserId := "alice", action, authorizedAt := at'
    resource := { kind := "reminder", id := "r1", ownerUserId := "alice", nonblank := by decide } }

def firedTwice : List ReminderCall :=
  [.create water (byAlice .create 0), .enqueueDue (Duration.minutes 1) 300,
    .snooze "r1" (Duration.minutes 2) 2 (byAlice .update (Duration.minutes 1)),
    .enqueueDue (Duration.minutes 2) 300, .enqueueDue (Duration.minutes 2) 300]

theorem fires_exactly_once_snoozed :
    ∃ r, ((machine shanghai).advance
        ((machine shanghai).replay (Machine.start alone) firedTwice)
        (.acknowledge "r1" 4 (byAlice .update (Duration.minutes 3)))).state.reminders.find? "r1" =
          some r ∧
      r.status = .cancelled :=
  (fires_exactly_once shanghai ⟨rfl, fun _ hrow => absurd hrow (by simp [alone])⟩
    (Machine.Reaches.of_follows (by decide))).2.1
    _ "r1" ⟨4, byAlice .update (Duration.minutes 3), Or.inl rfl⟩ _ rfl

end ReminderRepository

end Zhixu
