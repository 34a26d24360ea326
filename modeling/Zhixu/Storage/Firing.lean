import Zhixu.Storage.ReminderRuns

/-!
# What a firing pass leaves alone

`enqueue_due` writes reminders, deliveries and audit events. Of a reminder it changes the status, the
version and the time of the last change, and only when the reminder is pending: `Reminder.Follows`
says what may have become of a reminder in the meantime, and `Fires` says it of a whole database,
the tables of the agenda and the grants being untouched. Both hold of any number of passes.
-/

open Framework

namespace Zhixu

/-- What firing passes may make of a reminder: nothing, or one that is pending no more and has a later
version. -/
inductive Reminder.Follows (r : Reminder) : Reminder → Prop
  | same : Follows r r
  | fired (status : ReminderStatus) (version : Int) (updatedAt : Option Instant)
      (pending : r.status = .pending) (ended : status ≠ .pending) (later : r.version < version) :
      Follows r { r with status, version, updatedAt }

namespace Reminder.Follows

variable {r r' r'' : Reminder}

theorem trans (h : Follows r r') (h' : Follows r' r'') : Follows r r'' := by
  cases h with
  | same => exact h'
  | fired status version updatedAt hpending hover hlater =>
    cases h' with
    | same => exact .fired status version updatedAt hpending hover hlater
    | fired _ _ _ hpending' => exact absurd hpending' hover

theorem id_eq (h : Follows r r') : r'.id = r.id := by cases h <;> rfl

theorem owner_eq (h : Follows r r') : r'.ownerUserId = r.ownerUserId := by cases h <;> rfl

theorem classification_eq (h : Follows r r') : r'.classification = r.classification := by
  cases h <;> rfl

/-- What is pending has not been touched. -/
theorem eq_of_pending (h : Follows r r') (hpending : r'.status = .pending) : r' = r := by
  cases h with
  | same => rfl
  | fired _ _ _ _ hover => exact absurd hpending hover

/-- What has the version it had has not been touched. -/
theorem eq_of_version (h : Follows r r') (hversion : r'.version = r.version) : r' = r := by
  cases h with
  | same => rfl
  | fired _ version _ _ _ hlater =>
    have hlate : r.version < r.version := lt_of_lt_of_eq hlater hversion
    exact absurd hlate (lt_irrefl _)

end Reminder.Follows

/-- What firing passes may make of a database. -/
structure Fires (db db' : Database) : Prop where
  agendaItems : db'.agendaItems = db.agendaItems
  recurrenceRules : db'.recurrenceRules = db.recurrenceRules
  recurrenceExceptions : db'.recurrenceExceptions = db.recurrenceExceptions
  agendaNotificationRules : db'.agendaNotificationRules = db.agendaNotificationRules
  resourceAcl : db'.resourceAcl = db.resourceAcl
  reminders : ∀ id, (db'.reminders.find? id = none ∧ db.reminders.find? id = none) ∨
    ∃ r r', db.reminders.find? id = some r ∧ db'.reminders.find? id = some r' ∧ r.Follows r'

namespace Fires

theorem refl (db : Database) : Fires db db where
  agendaItems := rfl
  recurrenceRules := rfl
  recurrenceExceptions := rfl
  agendaNotificationRules := rfl
  resourceAcl := rfl
  reminders id := by
    cases h : db.reminders.find? id with
    | none => exact .inl ⟨rfl, rfl⟩
    | some r => exact .inr ⟨r, r, rfl, rfl, .same⟩

theorem trans {db db' db'' : Database} (h : Fires db db') (h' : Fires db' db'') : Fires db db'' where
  agendaItems := h'.agendaItems.trans h.agendaItems
  recurrenceRules := h'.recurrenceRules.trans h.recurrenceRules
  recurrenceExceptions := h'.recurrenceExceptions.trans h.recurrenceExceptions
  agendaNotificationRules := h'.agendaNotificationRules.trans h.agendaNotificationRules
  resourceAcl := h'.resourceAcl.trans h.resourceAcl
  reminders id := by
    rcases h.reminders id with ⟨hnone', hnone⟩ | ⟨r, r', hr, hr', hfollows⟩
    · rcases h'.reminders id with ⟨hnone'', -⟩ | ⟨r', -, hr', -⟩
      · exact .inl ⟨hnone'', hnone⟩
      · rw [hnone'] at hr'
        cases hr'
    · rcases h'.reminders id with ⟨-, hnone⟩ | ⟨s, s', hs, hs', hfollows'⟩
      · rw [hnone] at hr'
        cases hr'
      · rw [hr'] at hs
        obtain rfl := Option.some.inj hs
        exact .inr ⟨r, s', hr, hs', hfollows.trans hfollows'⟩

/-- A reminder of the database before is one of the database after. -/
theorem forward {db db' : Database} (h : Fires db db') {id : String} {r : Reminder}
    (hr : db.reminders.find? id = some r) : ∃ r', db'.reminders.find? id = some r' ∧ r.Follows r' := by
  rcases h.reminders id with ⟨-, hnone⟩ | ⟨s, s', hs, hs', hfollows⟩
  · rw [hnone] at hr
    cases hr
  · rw [hs] at hr
    obtain rfl := Option.some.inj hr
    exact ⟨s', hs', hfollows⟩

/-- A reminder of the database after was one of the database before. -/
theorem backward {db db' : Database} (h : Fires db db') {id : String} {r' : Reminder}
    (hr' : db'.reminders.find? id = some r') : ∃ r, db.reminders.find? id = some r ∧ r.Follows r' := by
  rcases h.reminders id with ⟨hnone, -⟩ | ⟨s, s', hs, hs', hfollows⟩
  · rw [hnone] at hr'
    cases hr'
  · rw [hs'] at hr'
    obtain rfl := Option.some.inj hr'
    exact ⟨s, hs, hfollows⟩

end Fires

namespace ReminderRepository

theorem fires_settleRow (db : Database) (now : Instant) (reminderId : String)
    {status : ReminderStatus} (hstatus : status ≠ .pending) (action reasonCode : String) :
    Fires db (settleRow db now reminderId status action reasonCode) where
  agendaItems := rfl
  recurrenceRules := rfl
  recurrenceExceptions := rfl
  agendaNotificationRules := rfl
  resourceAcl := rfl
  reminders id := by
    unfold settleRow
    rw [Database.audit_reminders, Table.find?_updateWhere]
    cases hr : db.reminders.find? id with
    | none => exact .inl ⟨rfl, rfl⟩
    | some r =>
      refine .inr ⟨r, _, rfl, rfl, ?_⟩
      beta_reduce
      by_cases hsettled : (decide (r.id = reminderId) && decide (r.status = .pending)) = true
      · rw [if_pos hsettled]
        simp only [Bool.and_eq_true, decide_eq_true_eq] at hsettled
        have hlater : r.version < r.version + 1 := by omega
        exact .fired status (r.version + 1) (some now) hsettled.2 hstatus hlater
      · rw [if_neg hsettled]
        exact .same

theorem fires_insertDelivery? {db db' : Database} {row : OutboxDelivery}
    (h : db.insertDelivery? row = some db') : Fires db db' := by
  unfold Database.insertDelivery? at h
  split at h
  · cases h
  · obtain ⟨deliveries, -, rfl⟩ := Option.map_eq_some_iff.mp h
    exact ⟨rfl, rfl, rfl, rfl, rfl, (Fires.refl db).reminders⟩

/-- One pass of the loop. -/
theorem fires_fireOne {platform : Platform} {now : Instant} {lateGraceSeconds : Int}
    {acc acc' : ℕ × Database} {row : Reminder}
    (h : fireOne platform now lateGraceSeconds acc row = .ok acc') : Fires acc.2 acc'.2 := by
  obtain ⟨-, ⟨-, rfl⟩ | ⟨-, text, -, ⟨-, rfl⟩ | ⟨db, hinsert, rfl⟩⟩⟩ := fireOne_cases h
  · exact fires_settleRow acc.2 now row.id (by decide) "skip" "missed_policy"
  · exact fires_settleRow acc.2 now row.id (by decide) "enqueue" ""
  · exact (fires_insertDelivery? hinsert).trans
      (fires_settleRow db now row.id (by decide) "enqueue" "")

/-- **A firing pass only fires.** -/
theorem fires_enqueueDue {platform : Platform} {now : Instant} {lateGraceSeconds : Int}
    {db db' : Database} {count : ℕ}
    (h : enqueueDue platform now lateGraceSeconds db = .ok (count, db')) : Fires db db' := by
  unfold enqueueDue at h
  obtain ⟨-, h⟩ := raiseIf_bind_ok.mp h
  exact foldlM_ok (fun acc acc' : ℕ × Database => Fires acc.2 acc'.2) (fun acc => Fires.refl acc.2)
    (fun hab hbc => hab.trans hbc) fires_fireOne h

/-- Any number of firing passes, each at its time and with its grace. A pass that raises writes
nothing. -/
def firings (platform : Platform) (passes : List (Instant × Int)) (db : Database) : Database :=
  passes.foldl (fun db pass =>
    ((Effect.atomically (enqueueDue platform pass.1 pass.2)).exec db).2) db

theorem fires_firings (platform : Platform) (passes : List (Instant × Int)) (db : Database) :
    Fires db (firings platform passes db) := by
  induction passes generalizing db with
  | nil => exact Fires.refl db
  | cons pass passes ih =>
    have hpass : Fires db ((Effect.atomically (enqueueDue platform pass.1 pass.2)).exec db).2 := by
      rw [Effect.exec_atomically]
      cases hexec : (enqueueDue platform pass.1 pass.2).run db with
      | error e => exact Fires.refl db
      | ok out => exact fires_enqueueDue hexec
    exact hpass.trans (ih _)

end ReminderRepository

end Zhixu
