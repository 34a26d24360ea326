import Zhixu.Application.ConfirmedPlans
import Zhixu.Framework.Machine
import Zhixu.Storage.ReminderRuns

/-!
# Advance reminders

A reminder plan leaves a reminder and the reminders that announce it ahead of time. The latter are
independent rows, which name the reminder they announce (`relatedId`) and the time it was to fire at
(`relatedStartAt`). `AdvancesFollow` says that they agree: whoever is announced is pending, for the
time announced.

None of the commands looks at the rows that announce a reminder, so each of them can break the
agreement. `Keeps` says of each when it does not: cancelling, when nobody announces the reminder;
snoozing a reminder that announces, when what it announces is still ahead; a firing pass, when what is
announced later on does not fire now. Everything else is harmless, a plan in particular: what it
writes agrees from the start.

The condition is exact because of what holds anyway (`Linked`): every advance reminder names a row,
one that announces nothing itself, and rows are never deleted.
-/

open Framework

namespace Zhixu

open ReminderRepository (due settled isMissed loaded stored fireOne enqueueDue changeRow changeStatus
  fromRow)

/-! ### Agreement -/

/-- What a reminder announces is pending, for the time it names. -/
def Announced (db : Database) (a : Reminder) : Prop :=
  ∃ id main, a.relatedId = some id ∧ db.reminders.find? id = some main ∧ main.status = .pending ∧
    a.relatedStartAt = some main.fireAt

/-- A reminder announces another one and has not fired. -/
def Reminder.Announces (a : Reminder) : Prop := a.relatedKind = some "reminder" ∧ a.status = .pending

/-- **Advance reminders follow their reminders.** -/
def AdvancesFollow (db : Database) : Prop :=
  ∀ k a, db.reminders.find? k = some a → a.Announces → Announced db a

/-- The row that an advance reminder names is there, and is not about anything else. -/
def NamesMain (db : Database) (a : Reminder) : Prop :=
  ∃ id main, a.relatedId = some id ∧ db.reminders.find? id = some main ∧ main.relatedKind = none

/-- What holds whatever is done. -/
structure Linked (db : Database) : Prop where
  owners : OwnersKnown db
  named : ∀ k a, db.reminders.find? k = some a → a.relatedKind = some "reminder" → NamesMain db a

/-! ### What the commands write -/

/-- A row has been inserted. -/
structure Inserted (r : Reminder) (db db' : Database) : Prop where
  fresh : db.reminders.find? r.id = none
  owner : db.hasUser r.ownerUserId = true
  users : db'.users = db.users
  rows : ∀ k, db'.reminders.find? k = if k = r.id then some r else db.reminders.find? k
  written : ∃ reminders auditEvents, db.reminders.insert? r = some reminders ∧
    db' = { db with reminders, auditEvents }

/-- **`create_reminder`** raises and leaves everything alone, or inserts its row. -/
theorem createReminder_cases (zones : TimeZones) (newId : String) (command : CreateReminder)
    (now : Instant) (context : CommandContext) (db : Database) :
    (∃ e, (createReminder zones newId command now context).exec db = (.error e, db)) ∨
      ∃ authorization db',
        (createReminder zones newId command now context).exec db =
          (.ok (stored (command.reminder zones newId context) authorization), db') ∧
        Inserted (stored (command.reminder zones newId context) authorization) db db' := by
  unfold createReminder
  rw [Effect.exec_check_bind]
  cases (command.reminder zones newId context).validate zones with
  | error e => exact .inl ⟨e, rfl⟩
  | ok u =>
    simp only
    rw [Effect.exec_check_bind]
    cases reminderView.ref (command.reminder zones newId context) with
    | error e => exact .inl ⟨e, rfl⟩
    | ok ref =>
      simp only
      rw [Effect.exec_bind, Effect.exec_query]
      cases db.policyEngine.require (context.at' now) .create ref with
      | error e => exact .inl ⟨e, rfl⟩
      | ok authorization =>
        simp only
        rw [Effect.exec_check_bind]
        cases command.fireAt.dump zones with
        | error e => exact .inl ⟨e, rfl⟩
        | ok fireAt =>
          simp only
          rw [Effect.exec_check_bind]
          cases dumpOptional zones command.relatedStartAt with
          | error e => exact .inl ⟨e, rfl⟩
          | ok startAt =>
            simp only
            rw [Effect.exec_atomically]
            cases hcreate : (ReminderRepository.create (command.reminder zones newId context)
                authorization).run db with
            | error e => exact .inl ⟨e, rfl⟩
            | ok out =>
              obtain ⟨r, db'⟩ := out
              have hcreate' : ReminderRepository.create (command.reminder zones newId context)
                authorization db = .ok (r, db') := hcreate
              obtain ⟨hfresh, -, hrows⟩ := ReminderRepository.create_ok hcreate'
              unfold ReminderRepository.create at hcreate'
              obtain ⟨_, -, hcreate'⟩ := bind_eq_ok.mp hcreate'
              obtain ⟨hknown, hcreate'⟩ := raiseIf_bind_ok.mp hcreate'
              split at hcreate'
              · cases hcreate'
              · rename_i reminders hinsert
                obtain ⟨rfl, rfl⟩ := Prod.mk.inj (Except.ok.inj hcreate')
                refine .inr ⟨authorization, _, rfl, hfresh, ?_, rfl, hrows, reminders, _, hinsert, rfl⟩
                exact Bool.eq_true_of_not_eq_false fun hunknown => hknown (.inl hunknown)

/-- Two databases have the same reminders. -/
structure SameReminders (db db' : Database) : Prop where
  users : db'.users = db.users
  rows : ∀ k, db'.reminders.find? k = db.reminders.find? k

/-- A row has been changed by `set`, if it is to be changed. -/
inductive Rewritten (id : String) (row : Reminder) (changes : Prop) (set : Reminder → Reminder)
    (db db' : Database) : Prop
  | kept (no : ¬ changes) (same : SameReminders db db')
  | made (yes : changes) (users : db'.users = db.users) (version : Int)
      (updatedAt : Option Instant)
      (rows : ∀ k, db'.reminders.find? k =
        if k = id then some { set row with version, updatedAt } else db.reminders.find? k)

/-- **The update of a row**, at its version, is made if its status allows it. -/
theorem changeRow_cases {reminderId : String} {row : Reminder} {db : Database}
    (hrow : db.reminders.find? reminderId = some row) (authorization : AuthorizedAction)
    (available : ReminderStatus → Bool) (set : Reminder → Reminder) (hset : ∀ r, (set r).id = r.id)
    (refusal reasonCode : String) :
    (available row.status = false ∧
      changeRow reminderId row.version authorization available set hset refusal reasonCode db =
        .error (.conflict refusal)) ∨
    available row.status = true ∧ ∃ db',
      changeRow reminderId row.version authorization available set hset refusal reasonCode db =
        .ok (⟨⟩, db') ∧ db'.users = db.users ∧
      ∀ k, db'.reminders.find? k = if k = reminderId then some { set row with
        version := row.version + 1, updatedAt := some authorization.authorizedAt }
        else db.reminders.find? k := by
  unfold changeRow
  cases havailable : available row.status with
  | false =>
    refine .inl ⟨rfl, ?_⟩
    dsimp only
    rw [if_pos]
    intro hcount
    obtain ⟨r, hr, hq⟩ := Table.exists_of_count_key hcount
    rw [hrow] at hr
    obtain rfl := Option.some.inj hr
    rw [havailable, Bool.and_false] at hq
    exact absurd hq (by simp)
  | true =>
    have hq : (decide (row.version = row.version) && available row.status) = true := by
      rw [havailable]
      simp
    refine .inr ⟨rfl, ?_⟩
    dsimp only
    rw [if_neg (not_not.mpr (Table.count_key
      (q := fun r => decide (r.version = row.version) && available r.status) hrow hq))]
    refine ⟨_, rfl, rfl, fun k => ?_⟩
    exact Table.find?_updateKeyWhere hrow hq (fun r => { set r with
      version := r.version + 1, updatedAt := some authorization.authorizedAt })
      (fun r => hset r) k

/-- What is known once a change has been prepared. -/
structure PreparedChange (zones : TimeZones) (reminderId : String) (now : Instant) (db : Database)
    (reminder : Reminder) (authorization : AuthorizedAction) (row : Reminder) : Prop where
  found : db.reminders.find? reminderId = some row
  loaded : reminder = loaded row
  id : reminder.id = reminderId
  valid : fromRow zones row = .ok reminder
  authorized : requireAuthorization authorization .update "reminder" reminder.id reminder.ownerUserId
    reminder.classification = .ok ⟨⟩
  time : authorization.authorizedAt = now

theorem prepareChange_ok {zones : TimeZones} {allowed : Reminder → Except PyError Unit}
    {reminderId : String} {now : Instant} {context : CommandContext} {db : Database}
    {reminder : Reminder} {authorization : AuthorizedAction}
    (h : prepareChange zones allowed reminderId now context db = .ok (reminder, authorization)) :
    ∃ row, PreparedChange zones reminderId now db reminder authorization row := by
  unfold prepareChange at h
  obtain ⟨found, hfound, h⟩ := bind_eq_ok.mp h
  cases found with
  | none => cases h
  | some r =>
    obtain ⟨_, -, h⟩ := bind_eq_ok.mp h
    obtain ⟨ref, href, h⟩ := bind_eq_ok.mp h
    obtain ⟨granted, hgranted, h⟩ := bind_eq_ok.mp h
    obtain ⟨rfl, rfl⟩ := Prod.mk.inj (Except.ok.inj h)
    unfold ReminderRepository.get at hfound
    cases hrow : db.reminders.find? reminderId with
    | none =>
      rw [hrow] at hfound
      cases hfound
    | some row =>
      rw [hrow] at hfound
      obtain ⟨r', hr', hsome⟩ := bind_eq_ok.mp hfound
      obtain rfl := Option.some.inj (Except.ok.inj hsome)
      obtain ⟨-, -, -, t, ht, rfl⟩ := PolicyEngine.require_ok_iff.mp hgranted
      have hloaded := (ReminderRepository.fromRow_ok hr').2
      refine ⟨row, hrow, hloaded, ?_, hr', ?_, ?_⟩
      · rw [hloaded]
        show row.id = reminderId
        exact Table.key_of_find? hrow
      · exact requireAuthorization_ok.mpr ⟨rfl, href⟩
      · exact (Option.some.inj ht).symm

/-- **A prepared change** is made if the row is in one of the statuses it may start from. -/
theorem exec_changeStatus_prepared {zones : TimeZones} {reminderId : String} {now : Instant}
    {db : Database} {reminder row : Reminder} {authorization : AuthorizedAction}
    (h : PreparedChange zones reminderId now db reminder authorization row)
    (available : ReminderStatus → Bool) (set : Reminder → Reminder) (hset : ∀ r, (set r).id = r.id)
    (refusal reasonCode : String) :
    Rewritten reminderId row (available row.status = true) set db
      ((changeStatus zones reminder.id reminder.version authorization available set hset refusal
        reasonCode).exec db).2 := by
  have hget : ReminderRepository.get zones reminderId db = .ok (some reminder) := by
    unfold ReminderRepository.get
    rw [h.found]
    show some <$> fromRow zones row = _
    rw [h.valid]
    rfl
  have hversion : reminder.version = row.version := by rw [h.loaded]; rfl
  unfold changeStatus
  rw [h.id, hversion, Effect.exec_bind, Effect.exec_query, hget]
  simp only
  rw [Effect.exec_check_bind, h.authorized]
  simp only
  rw [Effect.exec_bind, Effect.exec_atomically, StateT.run]
  rcases changeRow_cases h.found authorization available set hset refusal reasonCode with
    ⟨hno, hchange⟩ | ⟨hyes, db', hchange, husers, hrows⟩
  · rw [hchange]
    exact .kept (by simp [hno]) ⟨rfl, fun _ => rfl⟩
  · rw [hchange]
    simp only [ReminderRepository.exec_reload]
    exact .made hyes husers _ _ hrows

/-! ### What a write does to the agreement -/

section Writes

variable {db db' : Database} {id : String} {row : Reminder} {changes : Prop}
  {set : Reminder → Reminder}

theorem SameReminders.refl (db : Database) : SameReminders db db := ⟨rfl, fun _ => rfl⟩

theorem SameReminders.linked (h : SameReminders db db') (hlinked : Linked db) : Linked db' := by
  refine ⟨fun k r hr => ?_, fun k a ha hkind => ?_⟩
  · rw [h.rows] at hr
    show (db'.users.find? r.ownerUserId).isSome = true
    rw [h.users]
    exact hlinked.owners k r hr
  · rw [h.rows] at ha
    obtain ⟨id, main, hid, hmain, hnone⟩ := hlinked.named k a ha hkind
    exact ⟨id, main, hid, (h.rows id).trans hmain, hnone⟩

theorem SameReminders.follow_iff (h : SameReminders db db') :
    AdvancesFollow db' ↔ AdvancesFollow db := by
  unfold AdvancesFollow Announced
  simp only [h.rows]

/-- A change that leaves alone what a reminder is about, and whose it is. -/
structure KeepsLinks (set : Reminder → Reminder) : Prop where
  owner : ∀ r, (set r).ownerUserId = r.ownerUserId
  kind : ∀ r, (set r).relatedKind = r.relatedKind
  related : ∀ r, (set r).relatedId = r.relatedId

/-- A change of a row keeps the links. -/
theorem Rewritten.linked (h : Rewritten id row changes set db db')
    (hfound : db.reminders.find? id = some row) (hset : KeepsLinks set) (hlinked : Linked db) :
    Linked db' := by
  cases h with
  | kept _ same => exact same.linked hlinked
  | made _ users version updatedAt rows =>
    have hnamed : ∀ a, NamesMain db a → NamesMain db' a := by
      rintro a ⟨main, r, hmain, hr, hnone⟩
      by_cases hid : main = id
      · subst hid
        rw [hfound] at hr
        obtain rfl := Option.some.inj hr
        exact ⟨main, _, hmain, (rows main).trans (if_pos rfl), (hset.kind row).trans hnone⟩
      · exact ⟨main, r, hmain, (rows main).trans ((if_neg hid).trans hr), hnone⟩
    refine ⟨fun k r hr => ?_, fun k a ha hkind => ?_⟩
    · show (db'.users.find? r.ownerUserId).isSome = true
      rw [users]
      rw [rows] at hr
      by_cases hk : k = id
      · rw [if_pos hk] at hr
        obtain rfl := Option.some.inj hr
        show (db.users.find? (set row).ownerUserId).isSome = true
        rw [hset.owner]
        exact hlinked.owners id row hfound
      · rw [if_neg hk] at hr
        exact hlinked.owners k r hr
    · rw [rows] at ha
      by_cases hk : k = id
      · rw [if_pos hk] at ha
        obtain rfl := Option.some.inj ha
        obtain ⟨main, r, hmain, hr, hnone⟩ :=
          hnamed row (hlinked.named id row hfound ((hset.kind row).symm.trans hkind))
        exact ⟨main, r, (hset.related row).trans hmain, hr, hnone⟩
      · rw [if_neg hk] at ha
        exact hnamed a (hlinked.named k a ha hkind)

/-- **Cancelling** keeps the agreement unless the reminder is pending and announced. -/
theorem Rewritten.cancelled_iff
    (h : Rewritten id row changes (fun r => { r with status := .cancelled }) db db')
    (hfound : db.reminders.find? id = some row) (hlinked : Linked db) (hfollow : AdvancesFollow db) :
    AdvancesFollow db' ↔ (changes → row.status = .pending →
      ∀ k a, db.reminders.find? k = some a → a.Announces → a.relatedId ≠ some id) := by
  cases h with
  | kept no same =>
    rw [same.follow_iff]
    exact iff_of_true hfollow fun yes => absurd yes no
  | made yes _ version updatedAt rows =>
    constructor
    · intro hafter _ hpending k a ha hannounces hrelated
      -- the reminder announces nothing itself, so whoever announces it is another row
      have hother : k ≠ id := by
        rintro rfl
        obtain ⟨main, r, hmain, hr, hnone⟩ := hlinked.named k a ha hannounces.1
        rw [hrelated] at hmain
        obtain rfl := Option.some.inj hmain
        rw [ha] at hr
        obtain rfl := Option.some.inj hr
        rw [hannounces.1] at hnone
        exact absurd hnone (by simp)
      obtain ⟨main, r, hmain, hr, hstatus, -⟩ :=
        hafter k a ((rows k).trans ((if_neg hother).trans ha)) hannounces
      rw [hrelated] at hmain
      obtain rfl := Option.some.inj hmain
      rw [rows, if_pos rfl] at hr
      obtain rfl := Option.some.inj hr
      exact absurd hstatus (by simp)
    · intro hnobody k a ha hannounces
      rw [rows] at ha
      by_cases hk : k = id
      · rw [if_pos hk] at ha
        obtain rfl := Option.some.inj ha
        exact absurd hannounces.2 (by simp)
      · rw [if_neg hk] at ha
        obtain ⟨main, r, hmain, hr, hstatus, hstart⟩ := hfollow k a ha hannounces
        have hother : main ≠ id := by
          rintro rfl
          rw [hfound] at hr
          obtain rfl := Option.some.inj hr
          exact hnobody yes hstatus k a ha hannounces hmain
        exact ⟨main, r, hmain, (rows main).trans ((if_neg hother).trans hr), hstatus, hstart⟩

/-- **Snoozing** keeps the agreement unless the reminder announces one that is not ahead any more. -/
theorem Rewritten.snoozed_iff {fireAt : Instant}
    (h : Rewritten id row changes (fun r => { r with status := .pending, fireAt }) db db')
    (hfound : db.reminders.find? id = some row) (hfired : changes → row.status = .fired)
    (hlinked : Linked db) (hfollow : AdvancesFollow db) :
    AdvancesFollow db' ↔ (changes → row.relatedKind = some "reminder" → Announced db row) := by
  cases h with
  | kept no same =>
    rw [same.follow_iff]
    exact iff_of_true hfollow fun yes => absurd yes no
  | made yes _ version updatedAt rows =>
    -- what is announced is another row, because this one has fired
    have hsame : ∀ a : Reminder, a.relatedId ≠ some id →
        (Announced db' a ↔ Announced db a) := by
      intro a ha
      unfold Announced
      constructor
      · rintro ⟨main, r, hmain, hr, hrest⟩
        have hother : main ≠ id := fun heq => ha (heq ▸ hmain)
        rw [rows, if_neg hother] at hr
        exact ⟨main, r, hmain, hr, hrest⟩
      · rintro ⟨main, r, hmain, hr, hrest⟩
        have hother : main ≠ id := fun heq => ha (heq ▸ hmain)
        exact ⟨main, r, hmain, (rows main).trans ((if_neg hother).trans hr), hrest⟩
    have hself : row.relatedKind = some "reminder" → row.relatedId ≠ some id := by
      intro hkind hrelated
      obtain ⟨main, r, hmain, hr, hnone⟩ := hlinked.named id row hfound hkind
      rw [hrelated] at hmain
      obtain rfl := Option.some.inj hmain
      rw [hfound] at hr
      obtain rfl := Option.some.inj hr
      rw [hkind] at hnone
      exact absurd hnone (by simp)
    constructor
    · intro hafter _ hkind
      have hannounced := hafter id _ ((rows id).trans (if_pos rfl)) ⟨hkind, rfl⟩
      exact (hsame row (hself hkind)).mp hannounced
    · intro hahead k a ha hannounces
      rw [rows] at ha
      by_cases hk : k = id
      · rw [if_pos hk] at ha
        obtain rfl := Option.some.inj ha
        exact (hsame row (hself hannounces.1)).mpr (hahead yes hannounces.1)
      · rw [if_neg hk] at ha
        have hannounced := hfollow k a ha hannounces
        refine (hsame a fun hrelated => ?_).mpr hannounced
        obtain ⟨main, r, hmain, hr, hstatus, -⟩ := hannounced
        rw [hrelated] at hmain
        obtain rfl := Option.some.inj hmain
        rw [hfound] at hr
        obtain rfl := Option.some.inj hr
        rw [hfired yes] at hstatus
        exact absurd hstatus (by simp)

end Writes

/-! ### Insertions -/

section Insertions

variable {db db' : Database} {r : Reminder}

/-- A row that has been inserted has not moved the others. -/
theorem Inserted.other (h : Inserted r db db') {k : String} {a : Reminder}
    (ha : db.reminders.find? k = some a) : db'.reminders.find? k = some a := by
  rw [h.rows, if_neg, ha]
  rintro rfl
  rw [h.fresh] at ha
  exact absurd ha (by simp)

theorem Inserted.linked (h : Inserted r db db')
    (hnamed : r.relatedKind = some "reminder" → NamesMain db r) (hlinked : Linked db) :
    Linked db' := by
  have hstill : ∀ a, NamesMain db a → NamesMain db' a := by
    rintro a ⟨main, m, hmain, hm, hnone⟩
    exact ⟨main, m, hmain, h.other hm, hnone⟩
  refine ⟨fun k a ha => ?_, fun k a ha hkind => ?_⟩
  · show (db'.users.find? a.ownerUserId).isSome = true
    rw [h.users]
    rw [h.rows] at ha
    by_cases hk : k = r.id
    · rw [if_pos hk] at ha
      obtain rfl := Option.some.inj ha
      exact h.owner
    · rw [if_neg hk] at ha
      exact hlinked.owners k a ha
  · rw [h.rows] at ha
    by_cases hk : k = r.id
    · rw [if_pos hk] at ha
      obtain rfl := Option.some.inj ha
      exact hstill _ (hnamed hkind)
    · rw [if_neg hk] at ha
      exact hstill a (hlinked.named k a ha hkind)

theorem Inserted.follow (h : Inserted r db db') (hannounced : r.Announces → Announced db r)
    (hfollow : AdvancesFollow db) : AdvancesFollow db' := by
  have hstill : ∀ a, Announced db a → Announced db' a := by
    rintro a ⟨main, m, hmain, hm, hrest⟩
    exact ⟨main, m, hmain, h.other hm, hrest⟩
  intro k a ha hannounces
  rw [h.rows] at ha
  by_cases hk : k = r.id
  · rw [if_pos hk] at ha
    obtain rfl := Option.some.inj ha
    exact hstill _ (hannounced hannounces)
  · rw [if_neg hk] at ha
    exact hstill a (hfollow k a ha hannounces)

end Insertions

/-! ### Firing passes -/

section Passes

variable {platform : Platform} {db db' : Database} {now : Instant} {lateGraceSeconds : Int}

/-- **What a firing pass leaves**: the reminders that were due are settled. -/
theorem enqueueDue_rows {n : ℕ} (h : enqueueDue platform now lateGraceSeconds db = .ok (n, db')) :
    db'.users = db.users ∧ ∀ k, db'.reminders.find? k = (db.reminders.find? k).map fun r =>
      if r ∈ due db now then settled now lateGraceSeconds r else r := by
  unfold enqueueDue at h
  rw [raiseIf_bind_ok] at h
  refine foldlM_invariant (fun done (acc : ℕ × Database) => acc.2.users = db.users ∧
      ∀ k, acc.2.reminders.find? k = (db.reminders.find? k).map fun r =>
        if r ∈ done then settled now lateGraceSeconds r else r)
    (ReminderRepository.nodup_due db now) ?_ ?_ h.2
  · rintro done row acc acc' - hrow hnew ⟨husers, hrows⟩ hstep
    obtain ⟨hmem, hpending, -⟩ := ReminderRepository.mem_due.mp hrow
    obtain ⟨-, ⟨hmissed, rfl⟩ | ⟨hmissed, text, -, hinsert⟩⟩ := ReminderRepository.fireOne_cases hstep
    · exact ⟨husers, ReminderRepository.find?_settle_next hmem hpending hnew hrows
        (by rw [if_pos hmissed]) "skip" "missed_policy"⟩
    · obtain ⟨-, rfl⟩ | ⟨db₁, hinserted, rfl⟩ := hinsert
      · exact ⟨husers, ReminderRepository.find?_settle_next hmem hpending hnew hrows
          (by rw [hmissed]; rfl) "enqueue" ""⟩
      · obtain ⟨-, deliveries, -, rfl⟩ := OutboxStore.insertDelivery?_eq_some hinserted
        exact ⟨husers, ReminderRepository.find?_settle_next hmem hpending hnew hrows
          (by rw [hmissed]; rfl) "enqueue" ""⟩
  · refine ⟨rfl, fun k => ?_⟩
    cases db.reminders.find? k with
    | none => rfl
    | some r => simp

/-- A reminder that a pass can fire: its row can be read, and, unless it has been missed, its text
can be written. -/
structure Fireable (platform : Platform) (now : Instant) (lateGraceSeconds : Int) (row : Reminder) :
    Prop where
  valid : fromRow platform.zones row = .ok (loaded row)
  readable : isMissed now lateGraceSeconds row = false →
    ∃ text, reminderNotificationText platform.zones (loaded row) = .ok text

theorem fireOne_ok {acc : ℕ × Database} {row : Reminder}
    (howner : acc.2.hasUser row.ownerUserId = true) :
    (∃ acc', fireOne platform now lateGraceSeconds acc row = .ok acc') ↔
      Fireable platform now lateGraceSeconds row := by
  constructor
  · rintro ⟨acc', h⟩
    have hcases := ReminderRepository.fireOne_cases h
    unfold fireOne at h
    obtain ⟨r, hr, -⟩ := bind_eq_ok.mp h
    obtain ⟨-, rfl⟩ := ReminderRepository.fromRow_ok hr
    refine ⟨hr, fun hmissed => ?_⟩
    obtain ⟨-, ⟨hyes, -⟩ | ⟨-, text, htext, -⟩⟩ := hcases
    · rw [hmissed] at hyes
      exact absurd hyes (by simp)
    · exact ⟨text, htext⟩
  · rintro ⟨hvalid, hreadable⟩
    unfold fireOne
    rw [hvalid]
    show ∃ acc', (if isMissed now lateGraceSeconds (loaded row) = true then _ else _) = _
    by_cases hmissed : isMissed now lateGraceSeconds (loaded row) = true
    · rw [if_pos hmissed]
      exact ⟨_, rfl⟩
    · obtain ⟨text, htext⟩ := hreadable (Bool.eq_false_iff.mpr hmissed)
      rw [if_neg hmissed, htext]
      dsimp only [bind, Except.bind]
      cases hinsert : acc.2.insertDelivery?
          (ReminderRepository.delivery platform acc.2 now (loaded row) text) with
      | none => exact ⟨_, rfl⟩
      | some db₁ =>
        obtain ⟨-, deliveries, -, rfl⟩ := OutboxStore.insertDelivery?_eq_some hinsert
        exact ⟨_, raiseIf_bind_ok.mpr ⟨by rw [Bool.not_eq_false]; exact howner, rfl⟩⟩

theorem fireOne_users {acc acc' : ℕ × Database} {row : Reminder}
    (h : fireOne platform now lateGraceSeconds acc row = .ok acc') :
    acc'.2.users = acc.2.users := by
  obtain ⟨-, ⟨-, rfl⟩ | ⟨-, text, -, hinsert⟩⟩ := ReminderRepository.fireOne_cases h
  · rfl
  · obtain ⟨-, rfl⟩ | ⟨db₁, hinserted, rfl⟩ := hinsert
    · rfl
    · obtain ⟨-, deliveries, -, rfl⟩ := OutboxStore.insertDelivery?_eq_some hinserted
      rfl

/-- **When a firing pass goes through**: when each of the reminders that are due can be fired. -/
theorem enqueueDue_iff (howners : OwnersKnown db) :
    (∃ out, enqueueDue platform now lateGraceSeconds db = .ok out) ↔
      0 ≤ lateGraceSeconds ∧ ∀ r ∈ due db now, Fireable platform now lateGraceSeconds r := by
  have hfold : ∀ (rest : List Reminder) (acc : ℕ × Database), acc.2.users = db.users →
      (∀ r ∈ rest, db.hasUser r.ownerUserId = true) →
      ((∃ out, rest.foldlM (fireOne platform now lateGraceSeconds) acc = .ok out) ↔
        ∀ r ∈ rest, Fireable platform now lateGraceSeconds r) := by
    intro rest
    induction rest with
    | nil => exact fun acc _ _ => iff_of_true ⟨acc, rfl⟩ fun r hr => absurd hr List.not_mem_nil
    | cons row rest ih =>
      intro acc husers hknown
      have howner : acc.2.hasUser row.ownerUserId = true := by
        show (acc.2.users.find? row.ownerUserId).isSome = true
        rw [husers]
        exact hknown row List.mem_cons_self
      rw [List.forall_mem_cons, ← fireOne_ok howner]
      constructor
      · rintro ⟨out, h⟩
        rw [List.foldlM_cons] at h
        obtain ⟨acc', hstep, hrest⟩ := bind_eq_ok.mp h
        exact ⟨⟨acc', hstep⟩, (ih acc' ((fireOne_users hstep).trans husers) fun r hr =>
          hknown r (List.mem_cons_of_mem _ hr)).mp ⟨out, hrest⟩⟩
      · rintro ⟨⟨acc', hstep⟩, hothers⟩
        obtain ⟨out, hrest⟩ := (ih acc' ((fireOne_users hstep).trans husers)
          fun r hr => hknown r (List.mem_cons_of_mem _ hr)).mpr hothers
        refine ⟨out, ?_⟩
        rw [List.foldlM_cons]
        exact bind_eq_ok.mpr ⟨acc', hstep, hrest⟩
  have hdue := hfold (due db now) (0, db) rfl fun r hr =>
    howners r.id r (Table.find?_of_mem (ReminderRepository.mem_due.mp hr).1)
  rw [← hdue]
  unfold enqueueDue
  constructor
  · rintro ⟨out, h⟩
    obtain ⟨hgrace, hrest⟩ := raiseIf_bind_ok.mp h
    exact ⟨by omega, out, hrest⟩
  · rintro ⟨hgrace, out, hrest⟩
    exact ⟨out, raiseIf_bind_ok.mpr ⟨by omega, hrest⟩⟩

theorem settled_status (now : Instant) (lateGraceSeconds : Int) (r : Reminder) :
    (settled now lateGraceSeconds r).status ≠ .pending := by
  unfold settled
  by_cases hmissed : isMissed now lateGraceSeconds r = true
  · rw [if_pos hmissed]
    exact ReminderStatus.noConfusion
  · rw [if_neg hmissed]
    exact ReminderStatus.noConfusion

theorem linked_of_enqueueDue {n : ℕ}
    (h : enqueueDue platform now lateGraceSeconds db = .ok (n, db')) (hlinked : Linked db) :
    Linked db' := by
  obtain ⟨husers, hrows⟩ := enqueueDue_rows h
  have hnamed : ∀ a, NamesMain db a → NamesMain db' a := by
    rintro a ⟨main, m, hmain, hm, hnone⟩
    refine ⟨main, _, hmain, (hrows main).trans (congrArg _ hm), ?_⟩
    show (if m ∈ due db now then settled now lateGraceSeconds m else m).relatedKind = none
    by_cases hdue : m ∈ due db now
    · rw [if_pos hdue]
      exact hnone
    · rw [if_neg hdue]
      exact hnone
  refine ⟨fun k r hr => ?_, fun k a ha hkind => ?_⟩
  · show (db'.users.find? r.ownerUserId).isSome = true
    rw [husers]
    rw [hrows] at hr
    obtain ⟨r₀, hr₀, rfl⟩ := Option.map_eq_some_iff.mp hr
    by_cases hdue : r₀ ∈ due db now
    · rw [if_pos hdue]
      exact hlinked.owners k r₀ hr₀
    · rw [if_neg hdue]
      exact hlinked.owners k r₀ hr₀
  · rw [hrows] at ha
    obtain ⟨a₀, ha₀, rfl⟩ := Option.map_eq_some_iff.mp ha
    by_cases hdue : a₀ ∈ due db now
    · rw [if_pos hdue] at hkind ⊢
      obtain ⟨main, m, hmain, hm, hnone⟩ := hnamed a₀ (hlinked.named k a₀ ha₀ hkind)
      exact ⟨main, m, hmain, hm, hnone⟩
    · rw [if_neg hdue] at hkind ⊢
      exact hnamed a₀ (hlinked.named k a₀ ha₀ hkind)

/-- **A firing pass** keeps the agreement unless it fires what is announced later on. -/
theorem follow_enqueueDue_iff {n : ℕ}
    (h : enqueueDue platform now lateGraceSeconds db = .ok (n, db')) (hfollow : AdvancesFollow db) :
    AdvancesFollow db' ↔ ∀ k a, db.reminders.find? k = some a → a.Announces → now < a.fireAt →
      ∀ id main, a.relatedId = some id → db.reminders.find? id = some main → now < main.fireAt := by
  obtain ⟨-, hrows⟩ := enqueueDue_rows h
  -- a pending reminder that is not due stays as it is
  have hstays : ∀ k r, db.reminders.find? k = some r → now < r.fireAt →
      db'.reminders.find? k = some r := by
    intro k r hr hlater
    rw [hrows, hr, Option.map_some, if_neg]
    intro hdue
    exact absurd (ReminderRepository.mem_due.mp hdue).2.2 (not_le.mpr hlater)
  -- and one that is pending afterwards is such a one
  have hwas : ∀ k r, db'.reminders.find? k = some r → r.status = .pending →
      db.reminders.find? k = some r ∧ now < r.fireAt := by
    intro k r hr hpending
    rw [hrows] at hr
    obtain ⟨r₀, hr₀, hsettled⟩ := Option.map_eq_some_iff.mp hr
    by_cases hdue : r₀ ∈ due db now
    · rw [if_pos hdue] at hsettled
      rw [← hsettled] at hpending
      exact absurd hpending (settled_status now lateGraceSeconds r₀)
    · rw [if_neg hdue] at hsettled
      obtain rfl := hsettled
      refine ⟨hr₀, not_le.mp fun hle => hdue ?_⟩
      exact ReminderRepository.mem_due.mpr ⟨Table.mem_of_find? hr₀, hpending, hle⟩
  constructor
  · intro hafter k a ha hannounces hlater id main hid hmain
    obtain ⟨id', main', hid', hmain', hpending, -⟩ :=
      hafter k a (hstays k a ha hlater) hannounces
    rw [hid] at hid'
    obtain rfl := Option.some.inj hid'
    obtain ⟨hwas', hahead⟩ := hwas id main' hmain' hpending
    rw [hmain] at hwas'
    obtain rfl := Option.some.inj hwas'
    exact hahead
  · intro hahead k a ha hannounces
    obtain ⟨hbefore, hlater⟩ := hwas k a ha hannounces.2
    obtain ⟨id, main, hid, hmain, hpending, hstart⟩ := hfollow k a hbefore hannounces
    have hmainLater := hahead k a hbefore hannounces hlater id main hid hmain
    exact ⟨id, main, hid, hstays id main hmain hmainLater, hpending, hstart⟩

end Passes

/-! ### The rest of the application -/

theorem Elsewhere.linked (change : Elsewhere) {db : Database} (hlinked : Linked db) :
    Linked (change.act db) := by
  refine ⟨change.owners db hlinked.owners, fun k a ha hkind => ?_⟩
  have hnot : a.relatedKind ≠ some "agenda" := by
    rw [hkind]
    decide
  have hbefore := (change.reminders db k a hnot).mp ha
  obtain ⟨main, m, hmain, hm, hnone⟩ := hlinked.named k a hbefore hkind
  refine ⟨main, m, hmain, (change.reminders db main m ?_).mpr hm, hnone⟩
  rw [hnone]
  decide

theorem Elsewhere.follow_iff (change : Elsewhere) {db : Database} (hlinked : Linked db) :
    AdvancesFollow (change.act db) ↔ AdvancesFollow db := by
  -- whoever is announced is not about the agenda, so both databases have the row
  have hmain : ∀ {k a}, db.reminders.find? k = some a → a.relatedKind = some "reminder" →
      (Announced (change.act db) a ↔ Announced db a) := by
    intro k a ha hkind
    obtain ⟨main, m, hid, hm, hnone⟩ := hlinked.named k a ha hkind
    have hnot : m.relatedKind ≠ some "agenda" := by
      rw [hnone]
      decide
    have hm' := (change.reminders db main m hnot).mpr hm
    unfold Announced
    constructor
    · rintro ⟨id, r, hid', hr, hrest⟩
      rw [hid] at hid'
      obtain rfl := Option.some.inj hid'
      rw [hm'] at hr
      obtain rfl := Option.some.inj hr
      exact ⟨main, m, hid, hm, hrest⟩
    · rintro ⟨id, r, hid', hr, hrest⟩
      rw [hid] at hid'
      obtain rfl := Option.some.inj hid'
      rw [hm] at hr
      obtain rfl := Option.some.inj hr
      exact ⟨main, m, hid, hm', hrest⟩
  have hsame : ∀ k a, a.relatedKind = some "reminder" →
      ((change.act db).reminders.find? k = some a ↔ db.reminders.find? k = some a) := by
    intro k a hkind
    refine change.reminders db k a ?_
    rw [hkind]
    decide
  constructor
  · intro h k a ha hannounces
    exact (hmain ha hannounces.1).mp (h k a ((hsame k a hannounces.1).mpr ha) hannounces)
  · intro h k a ha hannounces
    have hbefore := (hsame k a hannounces.1).mp ha
    exact (hmain hbefore hannounces.1).mpr (h k a hbefore hannounces)


/-! ### Steps -/

/-- A step keeps the links, and the agreement exactly under a condition. -/
structure KeepsIf (condition : Prop) (db db' : Database) : Prop where
  linked : Linked db → Linked db'
  follow : Linked db → AdvancesFollow db → (AdvancesFollow db' ↔ condition)

namespace KeepsIf

variable {condition : Prop} {db db' db'' : Database}

theorem of_same (h : SameReminders db db') : KeepsIf True db db' :=
  ⟨h.linked, fun _ hfollow => iff_of_true (h.follow_iff.mpr hfollow) trivial⟩

theorem refl (db : Database) : KeepsIf True db db := of_same (SameReminders.refl db)

theorem trans (h : KeepsIf True db db') (h' : KeepsIf condition db' db'') :
    KeepsIf condition db db'' :=
  ⟨fun hlinked => h'.linked (h.linked hlinked), fun hlinked hfollow =>
    h'.follow (h.linked hlinked) ((h.follow hlinked hfollow).mpr trivial)⟩

theorem congr {condition' : Prop} (h : KeepsIf condition db db') (hiff : condition ↔ condition') :
    KeepsIf condition' db db' :=
  ⟨h.linked, fun hlinked hfollow => (h.follow hlinked hfollow).trans hiff⟩

end KeepsIf

/-- When cancelling a reminder keeps the agreement: it is refused, or the reminder has fired, or
nobody announces it. -/
def CancelKeeps (zones : TimeZones) (reminderId : String) (now : Instant) (context : CommandContext)
    (db : Database) : Prop :=
  ∀ reminder authorization,
    prepareChange zones (mayCancel context) reminderId now context db =
      .ok (reminder, authorization) → reminder.status = .pending →
    ∀ k a, db.reminders.find? k = some a → a.Announces → a.relatedId ≠ some reminderId

/-- When snoozing a reminder keeps the agreement: it is refused, or the reminder announces none, or
one that is still ahead. -/
def SnoozeKeeps (zones : TimeZones) (reminderId : String) (fireAt now : Instant)
    (context : CommandContext) (db : Database) : Prop :=
  ∀ reminder authorization,
    prepareChange zones (fun _ => .ok ⟨⟩) reminderId now context db =
      .ok (reminder, authorization) → now < fireAt → reminder.status = .fired →
    reminder.relatedKind = some "reminder" → Announced db reminder

/-- When a firing pass keeps the agreement: it is refused, or none of those it fires is announced by a
reminder that fires later on. -/
def PassKeeps (platform : Platform) (now : Instant) (lateGraceSeconds : Int) (db : Database) : Prop :=
  0 ≤ lateGraceSeconds → (∀ r ∈ due db now, Fireable platform now lateGraceSeconds r) →
    ∀ k a, db.reminders.find? k = some a → a.Announces → now < a.fireAt →
      ∀ id main, a.relatedId = some id → db.reminders.find? id = some main → now < main.fireAt

section Commands

variable (zones : TimeZones) (reminderId : String) (now : Instant) (context : CommandContext)
  (db : Database)

theorem keepsIf_cancelReminder :
    KeepsIf (CancelKeeps zones reminderId now context db) db
      ((cancelReminder zones reminderId now context).exec db).2 := by
  unfold cancelReminder CancelKeeps
  rw [Effect.exec_bind, Effect.exec_query]
  cases hprepared : prepareChange zones (mayCancel context) reminderId now context db with
  | error e => exact (KeepsIf.refl db).congr (iff_of_true trivial fun r a h => by cases h)
  | ok p =>
    obtain ⟨reminder, authorization⟩ := p
    obtain ⟨row, hrow⟩ := prepareChange_ok hprepared
    have hwritten := exec_changeStatus_prepared hrow
      (fun status => status = .pending || status = .fired)
      (fun r => { r with status := .cancelled }) (fun _ => rfl)
      "reminder is already cancelled" "cancelled"
    refine ⟨hwritten.linked hrow.found ⟨fun _ => rfl, fun _ => rfl, fun _ => rfl⟩,
      fun hlinked hfollow => (hwritten.cancelled_iff hrow.found hlinked hfollow).trans ?_⟩
    have hstatus : reminder.status = row.status := by rw [hrow.loaded]; rfl
    constructor
    · rintro h r a hprepared' hpending
      obtain ⟨rfl, rfl⟩ := Prod.mk.inj (Except.ok.inj hprepared')
      rw [hstatus] at hpending
      exact h (by simp [hpending]) hpending
    · intro h _ hpending
      exact h reminder authorization rfl (hstatus.trans hpending)

theorem keepsIf_acknowledgeReminder :
    KeepsIf True db ((acknowledgeReminder zones reminderId now context).exec db).2 := by
  unfold acknowledgeReminder
  rw [Effect.exec_bind, Effect.exec_query]
  cases hprepared : prepareChange zones (fun _ => .ok ⟨⟩) reminderId now context db with
  | error e => exact KeepsIf.refl db
  | ok p =>
    obtain ⟨reminder, authorization⟩ := p
    obtain ⟨row, hrow⟩ := prepareChange_ok hprepared
    have hwritten := exec_changeStatus_prepared hrow (fun status => status = .fired)
      (fun r => { r with status := .cancelled }) (fun _ => rfl)
      "reminder is not awaiting acknowledgement" "acknowledged"
    refine ⟨hwritten.linked hrow.found ⟨fun _ => rfl, fun _ => rfl, fun _ => rfl⟩,
      fun hlinked hfollow => (hwritten.cancelled_iff hrow.found hlinked hfollow).trans ?_⟩
    -- a reminder that has fired is not pending
    refine iff_of_true (fun hfired hpending => ?_) trivial
    rw [hpending] at hfired
    exact absurd hfired (by decide)

theorem keepsIf_snoozeReminder (fireAt : Instant) :
    KeepsIf (SnoozeKeeps zones reminderId fireAt now context db) db
      ((snoozeReminder zones reminderId fireAt now context).exec db).2 := by
  unfold snoozeReminder SnoozeKeeps
  rw [Effect.exec_bind, Effect.exec_query]
  cases hprepared : prepareChange zones (fun _ => .ok ⟨⟩) reminderId now context db with
  | error e => exact (KeepsIf.refl db).congr (iff_of_true trivial fun r a h => by cases h)
  | ok p =>
    obtain ⟨reminder, authorization⟩ := p
    obtain ⟨row, hrow⟩ := prepareChange_ok hprepared
    simp only
    unfold ReminderRepository.snooze
    rw [Effect.exec_check_bind, hrow.time]
    by_cases hpast : fireAt ≤ now
    · rw [raiseIf, if_pos hpast]
      exact (KeepsIf.refl db).congr (iff_of_true trivial fun r a _ hlater =>
        absurd hlater (not_lt.mpr hpast))
    · rw [raiseIf, if_neg hpast]
      have hwritten := exec_changeStatus_prepared hrow (fun status => status = .fired)
        (fun r => { r with status := .pending, fireAt }) (fun _ => rfl)
        "reminder is not available to snooze" "snoozed"
      refine ⟨hwritten.linked hrow.found ⟨fun _ => rfl, fun _ => rfl, fun _ => rfl⟩,
        fun hlinked hfollow => (hwritten.snoozed_iff hrow.found
          (fun hfired => of_decide_eq_true hfired) hlinked hfollow).trans ?_⟩
      constructor
      · rintro h r a hprepared' _ hfired hkind
        obtain ⟨rfl, rfl⟩ := Prod.mk.inj (Except.ok.inj hprepared')
        rw [hrow.loaded] at hfired hkind ⊢
        exact h (decide_eq_true hfired) hkind
      · intro h hfired hkind
        have hannounced := h reminder authorization rfl (not_le.mp hpast)
        rw [hrow.loaded] at hannounced
        exact hannounced (of_decide_eq_true hfired) hkind

end Commands

theorem keepsIf_enqueueDue (platform : Platform) (now : Instant) (lateGraceSeconds : Int)
    (db : Database) (howners : OwnersKnown db) :
    KeepsIf (PassKeeps platform now lateGraceSeconds db) db
      ((Effect.atomically (enqueueDue platform now lateGraceSeconds)).exec db).2 := by
  have hiff : (∃ out, enqueueDue platform now lateGraceSeconds db = .ok out) ↔
      0 ≤ lateGraceSeconds ∧ ∀ r ∈ due db now, Fireable platform now lateGraceSeconds r :=
    enqueueDue_iff howners
  rw [Effect.exec_atomically, StateT.run]
  cases hpass : enqueueDue platform now lateGraceSeconds db with
  | error e =>
    refine (KeepsIf.refl db).congr (iff_of_true trivial fun hgrace hfireable => ?_)
    obtain ⟨out, hout⟩ := hiff.mpr ⟨hgrace, hfireable⟩
    rw [hpass] at hout
    cases hout
  | ok out =>
    obtain ⟨n, db'⟩ := out
    obtain ⟨hgrace, hfireable⟩ := hiff.mp ⟨_, hpass⟩
    refine ⟨linked_of_enqueueDue hpass, fun _ hfollow => ?_⟩
    exact (follow_enqueueDue_iff hpass hfollow).trans
      ⟨fun h _ _ => h, fun h => h hgrace hfireable⟩

theorem keepsIf_elsewhere (change : Elsewhere) (db : Database) : KeepsIf True db (change.act db) :=
  ⟨change.linked, fun hlinked hfollow =>
    iff_of_true ((change.follow_iff hlinked).mpr hfollow) trivial⟩

/-! ### Plans -/

/-- The reminder of a plan, while the plan is carried out. -/
def Ready (id : String) (fireAt : Instant) (db : Database) : Prop :=
  ∃ main, db.reminders.find? id = some main ∧ main.relatedKind = none ∧ main.status = .pending ∧
    main.fireAt = fireAt

/-- A reminder that announces nothing. -/
theorem keepsIf_inserted_main {r : Reminder} {db db' : Database} (h : Inserted r db db')
    (hkind : r.relatedKind = none) : KeepsIf True db db' :=
  ⟨h.linked fun hadvance => absurd (hkind.symm.trans hadvance) (by simp), fun _ hfollow =>
    iff_of_true (h.follow (fun hannounces => absurd (hkind.symm.trans hannounces.1) (by simp))
      hfollow) trivial⟩

/-- A reminder that announces the one of the plan. -/
theorem keepsIf_inserted_advance {r : Reminder} {id : String} {fireAt : Instant}
    {db db' : Database} (h : Inserted r db db') (hready : Ready id fireAt db)
    (hid : r.relatedId = some id) (hstart : r.relatedStartAt = some fireAt) :
    KeepsIf True db db' := by
  obtain ⟨main, hmain, hnone, hpending, htime⟩ := hready
  refine ⟨h.linked fun _ => ⟨id, main, hid, hmain, hnone⟩, fun _ hfollow =>
    iff_of_true (h.follow (fun _ => ⟨id, main, hid, hmain, hpending, ?_⟩) hfollow) trivial⟩
  rw [hstart, htime]

namespace PlanRuntime

variable (runtime : PlanRuntime)

/-- One pass of the loop over the leads. -/
theorem announceAhead_keeps (draws : ℕ → Draw) (arguments : ReminderArguments) (fireAt : DateTime)
    (links : List ActionLink) (targetRef reminderId : String) (context : CommandContext)
    (lead : DateTime × ℕ) {db : Database}
    (hready : Ready reminderId (fireAt.instant runtime.zones) db) :
    Ready reminderId (fireAt.instant runtime.zones) ((runtime.announceAhead draws context
        (advanceCommand arguments fireAt links targetRef reminderId) lead).effect.exec db).2 ∧
      KeepsIf True db ((runtime.announceAhead draws context
        (advanceCommand arguments fireAt links targetRef reminderId) lead).effect.exec db).2 := by
  unfold announceAhead
  rw [Process.effect_bind, Effect.exec_bind, Process.effect_once]
  rcases createReminder_cases runtime.zones (draws (lead.2 + 1)).newId
    (advanceCommand arguments fireAt links targetRef reminderId lead.1) (draws (lead.2 + 1)).now
    context db with ⟨e, hexec⟩ | ⟨authorization, db₁, hexec, hinserted⟩
  · rw [hexec]
    exact ⟨hready, KeepsIf.refl db⟩
  · rw [hexec]
    refine ⟨?_, keepsIf_inserted_advance hinserted hready rfl rfl⟩
    obtain ⟨main, hmain, hrest⟩ := hready
    exact ⟨main, hinserted.other hmain, hrest⟩

/-- **A reminder plan** writes what agrees from the start. -/
theorem keepsIf_executeReminder (draws : ℕ → Draw) (arguments : ReminderArguments)
    (targetRef : String) (context : CommandContext) (db : Database) :
    KeepsIf True db
      ((runtime.executeReminder draws arguments targetRef context).effect.exec db).2 := by
  unfold executeReminder
  cases arguments.fireAt with
  | none => exact KeepsIf.refl db
  | some fireAt =>
    cases arguments.links with
    | none => exact KeepsIf.refl db
    | some links =>
      simp only
      by_cases hinvalid : strip arguments.title = "" ∨ targetRef = ""
      · rw [if_pos hinvalid]
        exact KeepsIf.refl db
      rw [if_neg hinvalid, Process.effect_bind, Effect.exec_bind, Process.effect_once]
      rcases createReminder_cases runtime.zones (draws 0).newId
        (mainCommand arguments fireAt links targetRef) (draws 0).now context db with
        ⟨e, hexec⟩ | ⟨authorization, db₁, hexec, hinserted⟩
      · rw [hexec]
        exact KeepsIf.refl db
      rw [hexec]
      simp only
      have hmain := keepsIf_inserted_main hinserted rfl
      refine hmain.trans ?_
      rw [Process.effect_bind, Effect.exec_bind]
      unfold Process.query
      rw [Process.effect_once, Effect.exec_query]
      cases runtime.reminderLeads arguments fireAt (draws 0).now context db₁ with
      | error e => exact KeepsIf.refl db₁
      | ok leads =>
        simp only
        rw [Process.store_bind_pure, Process.effect_forEach]
        have hready : Ready (draws 0).newId (fireAt.instant runtime.zones) db₁ :=
          ⟨_, (hinserted.rows _).trans (if_pos rfl), rfl, rfl, rfl⟩
        have hloop := Effect.exec_forEach_invariant
          (I := fun s => Ready (draws 0).newId (fireAt.instant runtime.zones) s ∧
            KeepsIf True db₁ s) leads.zipIdx db₁ ⟨hready, KeepsIf.refl db₁⟩
          fun lead _ s hs => by
            obtain ⟨hnext, hkeeps⟩ := runtime.announceAhead_keeps draws arguments fireAt links
              targetRef (draws 0).newId context lead hs.1
            exact ⟨hnext, hs.2.trans hkeeps⟩
        exact hloop.2

theorem createAgenda_same (engine : RecurrenceEngine) (newId : String) (command : CreateAgenda)
    (now : Instant) (context : CommandContext) :
    Effect.Within SameReminders (createAgenda engine newId command now context) := by
  unfold createAgenda
  refine Effect.Within.check_bind SameReminders.refl fun recurrence => ?_
  refine Effect.Within.check_bind SameReminders.refl fun _ => ?_
  refine Effect.Within.check_bind SameReminders.refl fun ref => ?_
  refine Effect.Within.query_bind SameReminders.refl fun authorization => ?_
  refine Effect.Within.atomically SameReminders.refl fun db item db' h => ?_
  unfold AgendaRepository.create at h
  obtain ⟨_, -, h⟩ := bind_eq_ok.mp h
  obtain ⟨startAt, -, h⟩ := bind_eq_ok.mp h
  obtain ⟨endAt, -, h⟩ := bind_eq_ok.mp h
  obtain ⟨-, h⟩ := raiseIf_bind_ok.mp h
  split at h
  · cases h
  · obtain rfl := (Prod.mk.inj (Except.ok.inj h)).2
    unfold AgendaRepository.writeRecurrence
    cases (command.item newId context recurrence).recurrence with
    | none => exact ⟨rfl, fun _ => rfl⟩
    | some recurrence => exact ⟨rfl, fun _ => rfl⟩

theorem createAgendaNotification_same (engine : RecurrenceEngine) (newId : String)
    (command : CreateAgendaNotification) (now : Instant) (context : CommandContext) :
    Effect.Within SameReminders (createAgendaNotification engine newId command now context) := by
  unfold createAgendaNotification
  refine Effect.Within.query_bind SameReminders.refl fun item => ?_
  cases item with
  | none => exact SameReminders.refl
  | some item =>
    refine Effect.Within.check_bind SameReminders.refl fun _ => ?_
    refine Effect.Within.check_bind SameReminders.refl fun ref => ?_
    refine Effect.Within.query_bind SameReminders.refl fun authorization => ?_
    refine Effect.Within.atomically SameReminders.refl fun db rule db' h => ?_
    unfold AgendaNotificationRepository.create at h
    obtain ⟨_, -, h⟩ := bind_eq_ok.mp h
    simp only at h
    split at h
    · cases h
    · obtain ⟨-, h⟩ := raiseIf_bind_ok.mp h
      obtain ⟨-, h⟩ := raiseIf_bind_ok.mp h
      split at h
      · cases h
      · obtain rfl := (Prod.mk.inj (Except.ok.inj h)).2
        exact ⟨rfl, fun _ => rfl⟩

/-- **An agenda plan** leaves the reminders alone. -/
theorem keepsIf_executeAgenda (draws : ℕ → Draw) (arguments : AgendaArguments) (targetRef : String)
    (context : CommandContext) (db : Database) :
    KeepsIf True db
      ((runtime.executeAgenda draws arguments targetRef context).effect.exec db).2 := by
  unfold executeAgenda
  split
  · rename_i startAt endAt notifications links _ _ _ _
    split
    · exact KeepsIf.refl db
    · rw [Process.effect_bind, Effect.exec_bind, Process.effect_once]
      have hitem := createAgenda_same runtime.engine (draws 0).newId
        (runtime.itemCommand arguments startAt endAt links) (draws 0).now context db
      rcases hexec : (createAgenda runtime.engine (draws 0).newId
        (runtime.itemCommand arguments startAt endAt links) (draws 0).now context).exec db with
        ⟨_ | item, db₁⟩
      · rw [hexec] at hitem
        exact KeepsIf.of_same hitem
      · rw [hexec] at hitem
        refine (KeepsIf.of_same hitem).trans ?_
        simp only
        rw [Process.store_bind_pure, Process.effect_forEach]
        refine Effect.exec_forEach_invariant (I := KeepsIf True db₁) _ db₁ (KeepsIf.refl db₁)
          fun notification _ s hs => hs.trans ?_
        unfold addRule
        rw [Process.store_bind_pure, Process.effect_once]
        exact KeepsIf.of_same (createAgendaNotification_same runtime.engine _ _ _ context s)
  · exact KeepsIf.refl db

/-- When carrying out a plan keeps the agreement. -/
def PlanKeeps (draws : ℕ → Draw) (context : CommandContext) (db : Database) :
    PlanArguments → Prop
  | .cancelReminder reminderId => strip reminderId ≠ "" →
      CancelKeeps runtime.zones (strip reminderId) (draws 0).now context db
  | .snoozeReminder reminderId fireAt => strip reminderId ≠ "" →
      SnoozeKeeps runtime.zones (strip reminderId) fireAt (draws 0).now context db
  | _ => True

theorem keepsIf_changing {condition : Prop} {change : Effect Database PyError Reminder}
    {db : Database} (reminderId : String) (h : KeepsIf condition db (change.exec db).2) :
    KeepsIf (strip reminderId ≠ "" → condition) db
      ((changing reminderId change).effect.exec db).2 := by
  unfold changing
  by_cases hblank : strip reminderId = ""
  · rw [if_pos hblank]
    exact (KeepsIf.refl db).congr (iff_of_true trivial fun hne => absurd hblank hne)
  · rw [if_neg hblank, Process.store_bind_pure, Process.effect_once]
    exact h.congr ⟨fun hc _ => hc, fun hc => hc hblank⟩

theorem keepsIf_execute (draws : ℕ → Draw) (targetRef : String) (context : CommandContext)
    (arguments : PlanArguments) (db : Database) :
    KeepsIf (runtime.PlanKeeps draws context db arguments) db
      ((runtime.execute draws targetRef context arguments).effect.exec db).2 := by
  cases arguments with
  | createReminder arguments =>
    exact runtime.keepsIf_executeReminder draws arguments targetRef context db
  | createAgenda arguments =>
    exact runtime.keepsIf_executeAgenda draws arguments targetRef context db
  | cancelReminder reminderId =>
    exact keepsIf_changing reminderId
      (keepsIf_cancelReminder runtime.zones (strip reminderId) (draws 0).now context db)
  | acknowledgeReminder reminderId =>
    exact (keepsIf_changing reminderId (keepsIf_acknowledgeReminder runtime.zones
      (strip reminderId) (draws 0).now context db)).congr (iff_of_true (fun _ => trivial) trivial)
  | snoozeReminder reminderId fireAt =>
    exact keepsIf_changing reminderId
      (keepsIf_snoozeReminder runtime.zones (strip reminderId) (draws 0).now context db fireAt)
  | other perform => exact keepsIf_elsewhere perform db

/-- When confirming a plan keeps the agreement. -/
def ConfirmKeeps (planId targetRef : String) (context : CommandContext) (now : Instant)
    (draws : ℕ → Draw) (db : Database) : Prop :=
  targetRef ≠ "" → ∀ stored arguments,
    PendingPlanStore.get planId context.actorUserId targetRef now db = .ok (some stored) →
    runtime.decode stored.action stored.payloadJson = some arguments →
    runtime.PlanKeeps draws { context with confirmed := true } db arguments

/-- **Confirming a plan.** -/
theorem keepsIf_confirmPlan (planId targetRef : String) (context : CommandContext) (now : Instant)
    (draws : ℕ → Draw) (db : Database) :
    KeepsIf (runtime.ConfirmKeeps planId targetRef context now draws db) db
      ((runtime.confirmPlan planId targetRef context now draws).effect.exec db).2 := by
  unfold confirmPlan ConfirmKeeps
  by_cases htarget : targetRef = ""
  · rw [if_pos htarget]
    exact (KeepsIf.refl db).congr (iff_of_true trivial fun hne => absurd htarget hne)
  rw [if_neg htarget, Process.effect_bind, Effect.exec_bind]
  unfold Process.query
  rw [Process.effect_once, Effect.exec_query]
  cases hget : PendingPlanStore.get planId context.actorUserId targetRef now db with
  | error e => exact (KeepsIf.refl db).congr (iff_of_true trivial fun _ p a h => by cases h)
  | ok found =>
    cases found with
    | none => exact (KeepsIf.refl db).congr (iff_of_true trivial fun _ p a h => by cases h)
    | some plan =>
      simp only
      rw [Process.effect_bind, Effect.exec_bind]
      unfold Process.atomically
      rw [Process.effect_once, Effect.exec_atomically, StateT.run, exec_consume hget]
      simp only
      have hsame : KeepsIf True db (accepting planId db) :=
        KeepsIf.of_same ⟨rfl, fun _ => rfl⟩
      cases hdecode : runtime.decode plan.action plan.payloadJson with
      | none =>
        refine hsame.congr (iff_of_true trivial fun _ p a hfound hdecoded => ?_)
        obtain rfl := Option.some.inj (Except.ok.inj hfound)
        rw [hdecode] at hdecoded
        cases hdecoded
      | some arguments =>
        have hexecute := runtime.keepsIf_execute draws targetRef
          { context with confirmed := true } arguments (accepting planId db)
        -- accepting the plan is nothing to what is read from now on
        have hreads : runtime.PlanKeeps draws { context with confirmed := true }
            (accepting planId db) arguments =
            runtime.PlanKeeps draws { context with confirmed := true } db arguments := by
          cases arguments <;> rfl
        rw [hreads] at hexecute
        refine (hsame.trans hexecute).congr ?_
        constructor
        · rintro h - p a hfound hdecoded
          obtain rfl := Option.some.inj (Except.ok.inj hfound)
          rw [hdecode] at hdecoded
          obtain rfl := Option.some.inj hdecoded
          exact h
        · intro h
          exact h htarget plan arguments rfl hdecode

end PlanRuntime

/-! ### Runs -/

/-- What happens to reminders. -/
inductive ReminderRequest
  | confirm (planId targetRef : String) (context : CommandContext) (now : Instant) (draws : ℕ → Draw)
  | cancel (reminderId : String) (now : Instant) (context : CommandContext)
  | acknowledge (reminderId : String) (now : Instant) (context : CommandContext)
  | snooze (reminderId : String) (fireAt now : Instant) (context : CommandContext)
  | enqueueDue (now : Instant) (lateGraceSeconds : Int)
  | elsewhere (change : Elsewhere)

namespace ReminderRequest

variable (runtime : PlanRuntime) (sha256 : String → String)

/-- The code a request runs. -/
def perform : ReminderRequest → Effect Database PyError Unit
  | .confirm planId targetRef context now draws =>
    (fun _ => ⟨⟩) <$> (runtime.confirmPlan planId targetRef context now draws).effect
  | .cancel reminderId now context =>
    (fun _ => ⟨⟩) <$> cancelReminder runtime.zones reminderId now context
  | .acknowledge reminderId now context =>
    (fun _ => ⟨⟩) <$> acknowledgeReminder runtime.zones reminderId now context
  | .snooze reminderId fireAt now context =>
    (fun _ => ⟨⟩) <$> snoozeReminder runtime.zones reminderId fireAt now context
  | .enqueueDue now lateGraceSeconds =>
    (fun _ => ⟨⟩) <$> Effect.atomically
      (ReminderRepository.enqueueDue ⟨runtime.zones, sha256⟩ now lateGraceSeconds)
  | .elsewhere change => Effect.write change.act

/-- When a request keeps the agreement. -/
def Keeps (db : Database) : ReminderRequest → Prop
  | .confirm planId targetRef context now draws =>
    runtime.ConfirmKeeps planId targetRef context now draws db
  | .cancel reminderId now context => CancelKeeps runtime.zones reminderId now context db
  | .acknowledge .. => True
  | .snooze reminderId fireAt now context =>
    SnoozeKeeps runtime.zones reminderId fireAt now context db
  | .enqueueDue now lateGraceSeconds => PassKeeps ⟨runtime.zones, sha256⟩ now lateGraceSeconds db
  | .elsewhere _ => True

/-- The reminders as a machine. -/
def machine : Machine Database ReminderRequest (Except PyError Unit) where
  exec db request := (request.perform runtime sha256).exec db

theorem keepsIf_perform (request : ReminderRequest) {db : Database} (hlinked : Linked db) :
    KeepsIf (request.Keeps runtime sha256 db) db
      ((request.perform runtime sha256).exec db).2 := by
  cases request with
  | confirm planId targetRef context now draws =>
    rw [perform, Effect.exec_map]
    exact runtime.keepsIf_confirmPlan planId targetRef context now draws db
  | cancel reminderId now context =>
    rw [perform, Effect.exec_map]
    exact keepsIf_cancelReminder runtime.zones reminderId now context db
  | acknowledge reminderId now context =>
    rw [perform, Effect.exec_map]
    exact keepsIf_acknowledgeReminder runtime.zones reminderId now context db
  | snooze reminderId fireAt now context =>
    rw [perform, Effect.exec_map]
    exact keepsIf_snoozeReminder runtime.zones reminderId now context db fireAt
  | enqueueDue now lateGraceSeconds =>
    rw [perform, Effect.exec_map]
    exact keepsIf_enqueueDue ⟨runtime.zones, sha256⟩ now lateGraceSeconds db hlinked.owners
  | elsewhere change => exact keepsIf_elsewhere change db

end ReminderRequest

/-- A database without reminders. -/
def Database.withoutReminders (db : Database) : Database := { db with reminders := ∅ }

/-- **Advance reminders follow their reminders** all along a run exactly if every request of it keeps
the agreement. -/
theorem advances_follow_iff (runtime : PlanRuntime) (sha256 : String → String) (db : Database)
    (requests : List ReminderRequest) :
    (∀ pre, pre <+: requests → AdvancesFollow ((ReminderRequest.machine runtime sha256).replay
        (Machine.start db.withoutReminders) pre).state) ↔
      (ReminderRequest.machine runtime sha256).Follows
        (fun g request => request.Keeps runtime sha256 g.state)
        (Machine.start db.withoutReminders) requests := by
  have hlinked : Linked db.withoutReminders :=
    ⟨fun k r hr => absurd hr (by simp [Database.withoutReminders]),
      fun k a ha => absurd ha (by simp [Database.withoutReminders])⟩
  have hfollow : AdvancesFollow db.withoutReminders :=
    fun k a ha => absurd ha (by simp [Database.withoutReminders])
  exact Machine.forall_prefix_iff_follows (I := fun g => AdvancesFollow g.state)
    (J := fun g => Linked g.state) _
    (fun g request h => (request.keepsIf_perform runtime sha256 h).linked h)
    (fun g request h hf => (request.keepsIf_perform runtime sha256 h).follow h hf)
    hlinked hfollow requests

/-! A reminder of noon that is announced at eleven, and cancelled at ten. -/

/-- The runtime of one plan. -/
def noonRuntime : PlanRuntime where
  engine := {
    zones := ReminderRepository.shanghai.zones
    systemNow := Duration.minutes 0
    rrulestr := fun _ _ => .error .external }
  timezone := "Asia/Shanghai"
  decode := fun _ _ => some (.createReminder {
    title := "Call"
    fireAt := some (.ofInstant (Duration.minutes 720))
    leadAt := some [.ofInstant (Duration.minutes 660)] })

def aliceInPrivate : CommandContext where
  actorUserId := "alice"
  actor_nonblank := @rfl Bool false
  sharedOwner_nonblank := CommandContext.noSharedOwner_nonblank
  readable_nonblank := CommandContext.noReadable_nonblank
  readable_nodup := List.nodup_nil

/-- Alice has the plan before her. -/
def noonPlanned : Database where
  users := .single ⟨"alice", "Alice", true⟩
  assistantPendingPlans := ⟨[{
    id := "plan_noon"
    actorUserId := "alice"
    targetRef := "qq:alice"
    action := "create_reminder"
    payloadJson := ""
    state := .pending
    createdAt := Duration.minutes 0
    expiresAt := Duration.minutes 30 }], by simp⟩

def noonDraws (n : ℕ) : Draw where
  newId := if n = 0 then "reminder_noon" else "reminder_eleven"
  now := Duration.minutes 1

/-- She confirms it, and then cancels the reminder. -/
def noonCancelled : List ReminderRequest :=
  [.confirm "plan_noon" "qq:alice" aliceInPrivate (Duration.minutes 1) noonDraws,
    .cancel "reminder_noon" (Duration.minutes 600) aliceInPrivate]

theorem cancelled_reminder_is_announced :
    ¬ ∀ pre, pre <+: noonCancelled → AdvancesFollow ((ReminderRequest.machine noonRuntime id).replay
      (Machine.start noonPlanned.withoutReminders) pre).state := by
  intro h
  have hend := h noonCancelled List.prefix_rfl
  revert hend
  generalize hfinal : ((ReminderRequest.machine noonRuntime id).replay
    (Machine.start noonPlanned.withoutReminders) noonCancelled).state = final
  have hlead : (final.reminders.find? "reminder_eleven").map
      (fun a => (a.relatedKind, a.relatedId, a.status)) =
        some (some "reminder", some "reminder_noon", .pending) := by
    rw [← hfinal]
    decide
  have hmain : (final.reminders.find? "reminder_noon").map Reminder.status = some .cancelled := by
    rw [← hfinal]
    decide
  intro hend
  obtain ⟨lead, hfound, hfields⟩ := Option.map_eq_some_iff.mp hlead
  obtain ⟨hkind, hrest⟩ := Prod.mk.inj hfields
  obtain ⟨hid, hstatus⟩ := Prod.mk.inj hrest
  obtain ⟨id, main, hid', hmain', hpending, -⟩ := hend _ lead hfound ⟨hkind, hstatus⟩
  rw [hid] at hid'
  obtain rfl := Option.some.inj hid'
  rw [hmain', Option.map_some, hpending] at hmain
  exact absurd hmain (by decide)

end Zhixu
