import Zhixu.Application.AgendaServices
import Zhixu.Application.UpdatePolicy
import Zhixu.Storage.Firing

/-!
# Deleting an agenda item among firing reminders

`delete_agenda` is meant to be all or nothing: either the item is gone with every pending reminder of
it, or nothing has happened (`AllOrNothing`). Its operations are separate transactions, and
`enqueue_due` may run between any two of them, so this is a statement about a `Process` and every
schedule of firing passes.

What decides is the loop over the pending reminders of the item. A reminder *passes* (`Passes`) when the
actor may update it and it has not been fired between the listing and its turn. If all pass, the loop
ends with each of them cancelled (`run_forEach_allPass`), and the deletion goes through; pending
reminders of the item that remain belong to another owner, whom the listing did not ask about. If one
does not pass, the loop raises there, and what came before it stays cancelled
(`run_forEach_not_allPass`): nothing has happened exactly when it was the first.

`deletion_allOrNothing_iff` puts this together for every database, actor and schedule.
-/

open Framework

namespace Zhixu

/-! ### The statement -/

/-- The reminder is about the item. -/
def Reminder.isFor (itemId : String) (r : Reminder) : Prop :=
  r.relatedKind = some "agenda" ∧ r.relatedId = some itemId

/-- An operation that cancels a reminder of the item. -/
def Cancels (itemId : String) (operation : Database × Database) : Prop :=
  ∃ r r', operation.1.reminders.find? r.id = some r ∧ r.isFor itemId ∧ r.status ≠ .cancelled ∧
    operation.2.reminders.find? r.id = some r' ∧ r'.status = .cancelled

/-- Items, their rules and their exceptions are as they were, and so are the grants. -/
structure SameAgenda (db db' : Database) : Prop where
  agendaItems : db'.agendaItems = db.agendaItems
  recurrenceRules : db'.recurrenceRules = db.recurrenceRules
  recurrenceExceptions : db'.recurrenceExceptions = db.recurrenceExceptions
  agendaNotificationRules : db'.agendaNotificationRules = db.agendaNotificationRules
  resourceAcl : db'.resourceAcl = db.resourceAcl

/-- **All or nothing**, for a run of the deletion that began on `db`. -/
structure AllOrNothing (db : Database) (itemId : String) (r : Run Database PyError Unit) : Prop where
  raised : ∀ e, r.answer = .error e →
    (∀ operation ∈ r.own, ¬ Cancels itemId operation) ∧ SameAgenda db r.store
  returned : ∀ u, r.answer = .ok u →
    r.store.agendaItems.find? itemId = none ∧
      ∀ reminder ∈ r.store.reminders.rows, reminder.isPendingFor itemId = false

/-! ### The agenda during a deletion -/

namespace SameAgenda

theorem refl (db : Database) : SameAgenda db db := ⟨rfl, rfl, rfl, rfl, rfl⟩

theorem trans {db db' db'' : Database} (h : SameAgenda db db') (h' : SameAgenda db' db'') :
    SameAgenda db db'' :=
  ⟨h'.agendaItems.trans h.agendaItems, h'.recurrenceRules.trans h.recurrenceRules,
    h'.recurrenceExceptions.trans h.recurrenceExceptions,
    h'.agendaNotificationRules.trans h.agendaNotificationRules, h'.resourceAcl.trans h.resourceAcl⟩

theorem policyEngine {db db' : Database} (h : SameAgenda db db') :
    db'.policyEngine = db.policyEngine := by
  unfold Database.policyEngine GrantRepository.hasGrant
  rw [h.resourceAcl]

end SameAgenda

theorem Fires.sameAgenda {db db' : Database} (h : Fires db db') : SameAgenda db db' :=
  ⟨h.agendaItems, h.recurrenceRules, h.recurrenceExceptions, h.agendaNotificationRules,
    h.resourceAcl⟩

/-- Nothing becomes pending: what is pending in the end was so, as it is, in the beginning. -/
def PendingKept (db db' : Database) : Prop :=
  ∀ id r, db'.reminders.find? id = some r → r.status = .pending → db.reminders.find? id = some r

theorem Fires.pendingKept {db db' : Database} (h : Fires db db') : PendingKept db db' := by
  intro id r hr hpending
  obtain ⟨r₀, hr₀, hfollows⟩ := h.backward hr
  rw [hfollows.eq_of_pending hpending]
  exact hr₀

/-! ### Cancelling one reminder -/

section Cancel

variable {zones : TimeZones} {db db' : Database} {row r : Reminder}
  {authorization : AuthorizedAction}

/-- A reminder that can be read can still be read after it was fired or cancelled. -/
theorem fromRow_follows {row' : Reminder} (h : ReminderRepository.fromRow zones row = .ok r)
    (hfollows : row.Follows row') :
    ReminderRepository.fromRow zones row' = .ok (ReminderRepository.loaded row') := by
  have hr := (ReminderRepository.fromRow_ok h).2
  cases hfollows with
  | same => rw [h, hr]
  | fired status version updatedAt hpending hover hlater =>
    unfold ReminderRepository.fromRow at h ⊢
    obtain ⟨hlinks, h⟩ := raiseIf_bind_ok.mp h
    obtain ⟨hvalid, -⟩ := Reminder.checked_ok.mp h
    refine raiseIf_bind_ok.mpr ⟨hlinks, Reminder.checked_ok.mpr ⟨?_, rfl⟩⟩
    -- only the version is checked among what has changed
    unfold Reminder.validate at hvalid ⊢
    obtain ⟨hfields, hvalid⟩ := raiseIf_bind_ok.mp hvalid
    obtain ⟨hcreator, hvalid⟩ := raiseIf_bind_ok.mp hvalid
    obtain ⟨hrelated, hvalid⟩ := raiseIf_bind_ok.mp hvalid
    obtain ⟨_, hknown, hvalid⟩ := bind_eq_ok.mp hvalid
    obtain ⟨hstart, hvalid⟩ := raiseIf_bind_ok.mp hvalid
    obtain ⟨hversion, hvalid⟩ := raiseIf_bind_ok.mp hvalid
    have hversion' : ¬ version < 1 := by
      have hloaded : ¬ row.version < 1 := hversion
      omega
    exact raiseIf_bind_ok.mpr ⟨hfields, raiseIf_bind_ok.mpr ⟨hcreator, raiseIf_bind_ok.mpr
      ⟨hrelated, bind_eq_ok.mpr ⟨_, hknown, raiseIf_bind_ok.mpr ⟨hstart, raiseIf_bind_ok.mpr
        ⟨hversion', hvalid⟩⟩⟩⟩⟩⟩

/-- A pending reminder at the expected version is cancelled. -/
theorem cancelRow_pending (authorization : AuthorizedAction)
    (hrow : db.reminders.find? row.id = some row)
    (hpending : row.status = .pending) :
    ∃ db', cancelRow row.id row.version authorization db = .ok (⟨⟩, db') := by
  have hquery : (decide (row.version = row.version) &&
      (decide (row.status = .pending) || decide (row.status = .fired))) = true := by
    simp [hpending]
  have hcount := Table.count_key (q := fun r : Reminder => decide (r.version = row.version) &&
    (decide (r.status = .pending) || decide (r.status = .fired))) hrow hquery
  unfold cancelRow ReminderRepository.changeRow
  rw [if_neg (not_not.mpr hcount)]
  exact ⟨_, rfl⟩

/-- A reminder at another version is not. -/
theorem cancelRow_version {expectedVersion : Int} (authorization : AuthorizedAction)
    (hrow : db.reminders.find? row.id = some row) (hversion : row.version ≠ expectedVersion) :
    cancelRow row.id expectedVersion authorization db =
      .error (.conflict "reminder is already cancelled") := by
  unfold cancelRow ReminderRepository.changeRow
  rw [if_pos]
  intro hcount
  obtain ⟨found, hfound, hquery⟩ := Table.exists_of_count_key hcount
  rw [hrow] at hfound
  obtain rfl := Option.some.inj hfound
  simp only [Bool.and_eq_true, decide_eq_true_eq] at hquery
  exact hversion hquery.1

theorem cancelRow_reminders {reminderId : String} {expectedVersion : Int}
    (h : cancelRow reminderId expectedVersion authorization db = .ok (⟨⟩, db')) :
    ∃ r, db.reminders.find? reminderId = some r ∧ ∀ k, db'.reminders.find? k =
      if k = reminderId then some { r with
        status := .cancelled, version := r.version + 1
        updatedAt := some authorization.authorizedAt }
      else db.reminders.find? k := by
  obtain ⟨r, hr, -, -, hreminders⟩ := ReminderRepository.changeRow_ok h
  exact ⟨r, hr, hreminders⟩

theorem cancelRow_sameAgenda {reminderId : String} {expectedVersion : Int}
    (h : cancelRow reminderId expectedVersion authorization db = .ok (⟨⟩, db')) :
    SameAgenda db db' := by
  unfold cancelRow ReminderRepository.changeRow at h
  simp only at h
  split at h
  · cases h
  · obtain rfl := (Prod.mk.inj (Except.ok.inj h)).2
    exact ⟨rfl, rfl, rfl, rfl, rfl⟩

theorem cancelRow_pendingKept {reminderId : String} {expectedVersion : Int}
    (h : cancelRow reminderId expectedVersion authorization db = .ok (⟨⟩, db')) :
    PendingKept db db' := by
  obtain ⟨r, -, hreminders⟩ := cancelRow_reminders h
  intro id r' hr' hpending
  rw [hreminders] at hr'
  by_cases hid : id = reminderId
  · rw [if_pos hid] at hr'
    obtain rfl := Option.some.inj hr'
    cases hpending
  · rw [if_neg hid] at hr'
    exact hr'

end Cancel

/-! ### One pass of the loop -/

/-- What the transaction of a pass finds: the two operations before it only read. -/
def turn (others : ℕ → Database → Database) (n : ℕ) (s : Database) : Database :=
  others (n + 2) (others (n + 1) (others n s))

/-- The actor may update the reminder. -/
def Allowed (db : Database) (current : CommandContext) (reminder : Reminder) : Prop :=
  ∃ ref authorization, reminderView.ref reminder = .ok ref ∧
    db.policyEngine.require current .update ref = .ok authorization

/-- A listed reminder passes: the actor may update it, and when its turn comes it has not been fired
since it was listed. -/
structure Passes (others : ℕ → Database → Database) (current : CommandContext) (n : ℕ)
    (s : Database) (reminder : Reminder) : Prop where
  allowed : Allowed s current reminder
  unfired : ((turn others n s).reminders.find? reminder.id).map Reminder.version =
    some reminder.version

/-- The reminder was read from a pending row, of which only firing passes have made something since. -/
structure Listed (zones : TimeZones) (s : Database) (reminder row row' : Reminder) : Prop where
  read : ReminderRepository.fromRow zones row = .ok reminder
  pending : row.status = .pending
  found : s.reminders.find? reminder.id = some row'
  follows : row.Follows row'

section Pass

variable {zones : TimeZones} {others : ℕ → Database → Database} {current : CommandContext}
  {n : ℕ} {s : Database} {reminder row row' : Reminder}

theorem Listed.loaded (h : Listed zones s reminder row row') :
    reminder = ReminderRepository.loaded row :=
  (ReminderRepository.fromRow_ok h.read).2

theorem Listed.later (hothers : ∀ n s, Fires s (others n s))
    (h : Listed zones s reminder row row') (n : ℕ) :
    ∃ row'', Listed zones (others n s) reminder row row'' := by
  obtain ⟨row'', hrow'', hfollows⟩ := (hothers n s).forward h.found
  exact ⟨row'', h.read, h.pending, hrow'', h.follows.trans hfollows⟩

/-- A listed reminder can be read again. -/
theorem Listed.get (h : Listed zones s reminder row row') :
    ReminderRepository.get zones reminder.id s = .ok (some (ReminderRepository.loaded row')) := by
  unfold ReminderRepository.get
  rw [h.found]
  simp only
  rw [fromRow_follows h.read h.follows]
  rfl

/-- What authorizes an update of the reminder authorizes it for the row as it is now. -/
theorem Listed.requireAuthorization {ref : ResourceRef} {authorization : AuthorizedAction}
    (h : Listed zones s reminder row row') (href : reminderView.ref reminder = .ok ref)
    (hrequire : s.policyEngine.require current .update ref = .ok authorization) :
    requireAuthorization authorization .update "reminder" (ReminderRepository.loaded row').id
      (ReminderRepository.loaded row').ownerUserId
      (ReminderRepository.loaded row').classification = .ok ⟨⟩ := by
  obtain ⟨-, -, -, t, -, rfl⟩ := PolicyEngine.require_ok_iff.mp hrequire
  refine requireAuthorization_ok.mpr ⟨rfl, ?_⟩
  have hsame : (ReminderRepository.loaded row').id = reminder.id ∧
      (ReminderRepository.loaded row').ownerUserId = reminder.ownerUserId ∧
      (ReminderRepository.loaded row').classification = reminder.classification := by
    rw [h.loaded]
    exact ⟨h.follows.id_eq, h.follows.owner_eq, h.follows.classification_eq⟩
  rw [hsame.1, hsame.2.1, hsame.2.2]
  exact href

theorem run_cancelApart {authorization : AuthorizedAction} {existing : Reminder}
    (expectedVersion : Int)
    (hget : ReminderRepository.get zones reminder.id (others n s) = .ok (some existing))
    (hauthorized : requireAuthorization authorization .update "reminder" existing.id
      existing.ownerUserId existing.classification = .ok ⟨⟩) :
    (cancelApart zones reminder.id expectedVersion authorization).run others n s =
      (match (Effect.atomically (cancelRow reminder.id expectedVersion authorization)).exec
          (others (n + 1) (others n s)) with
        | (.ok _, s') => ((Process.once (ReminderRepository.reload zones reminder.id)).run others
            (n + 2) s').after (others (n + 1) (others n s), s')
        | (.error e, s') => ⟨.error e, s', [(others (n + 1) (others n s), s')]⟩).after
        (others n s, others n s) := by
  unfold cancelApart
  rw [Process.run_query_bind, hget]
  simp only
  rw [Process.run_check_bind, hauthorized]
  simp only
  unfold Process.atomically
  rw [Process.run_once_bind]
  rcases (Effect.atomically (cancelRow reminder.id expectedVersion authorization)).exec
    (others (n + 1) (others n s)) with ⟨r, s'⟩
  cases r with
  | ok u => rfl
  | error e => rfl

/-- **A reminder that passes is cancelled.** -/
theorem run_cancelLinked_passes (hothers : ∀ n s, Fires s (others n s))
    (hlisted : Listed zones s reminder row row') (h : Passes others current n s reminder) :
    ∃ authorization db' own,
      cancelRow reminder.id reminder.version authorization (turn others n s) = .ok (⟨⟩, db') ∧
      (turn others n s, db') ∈ own ∧ own.length = 4 ∧
      (cancelLinked zones current reminder).run others n s = ⟨.ok ⟨⟩, others (n + 3) db', own⟩ := by
  obtain ⟨ref, authorization, href, hrequire⟩ := h.allowed
  obtain ⟨row₁, hlisted₁⟩ := hlisted.later hothers n
  obtain ⟨row₂, hlisted₂⟩ := hlisted₁.later hothers (n + 1)
  obtain ⟨row₃, hlisted₃⟩ := hlisted₂.later hothers (n + 2)
  have hrequire₁ : (others n s).policyEngine.require current .update ref = .ok authorization := by
    rw [(hothers n s).sameAgenda.policyEngine]
    exact hrequire
  have hrequire₂ : (others (n + 1) (others n s)).policyEngine.require current .update ref =
      .ok authorization := by
    rw [(hothers (n + 1) (others n s)).sameAgenda.policyEngine]
    exact hrequire₁
  -- it has not been fired, so the transaction finds the row that was listed
  have hrow₃ : row₃ = row := by
    have hversion := h.unfired
    unfold turn at hversion
    rw [hlisted₃.found] at hversion
    refine hlisted₃.follows.eq_of_version ?_
    rw [Option.map_some, Option.some.injEq] at hversion
    rw [hversion, hlisted₃.loaded]
    rfl
  subst hrow₃
  have hid : row₃.id = reminder.id := by
    rw [hlisted₃.loaded]
    rfl
  have hversion : row₃.version = reminder.version := by
    rw [hlisted₃.loaded]
    rfl
  have hfound₃ : (turn others n s).reminders.find? row₃.id = some row₃ := by
    rw [hid]
    exact hlisted₃.found
  obtain ⟨db', hcancel⟩ := cancelRow_pending authorization hfound₃ hlisted₃.pending
  rw [hid, hversion] at hcancel
  -- the cancelled row can be read back, whatever has been fired in between
  obtain ⟨r, hr, hreminders⟩ := cancelRow_reminders hcancel
  have hcancelled : Listed zones db' reminder row₃ { r with
      status := .cancelled, version := r.version + 1
      updatedAt := some authorization.authorizedAt } := by
    have hsame : r = row₃ := by
      rw [← hid, hfound₃] at hr
      exact (Option.some.inj hr).symm
    subst hsame
    have hlater : r.version < r.version + 1 := by omega
    refine ⟨hlisted₃.read, hlisted₃.pending, ?_, ?_⟩
    · rw [hreminders, if_pos rfl]
    · exact .fired .cancelled (r.version + 1) (some authorization.authorizedAt) hlisted₃.pending
        (by decide) hlater
  obtain ⟨row₄, hlisted₄⟩ := hcancelled.later hothers (n + 3)
  have hreload : (ReminderRepository.reload zones reminder.id).exec (others (n + 3) db') =
      (.ok (ReminderRepository.loaded row₄), others (n + 3) db') := by
    unfold ReminderRepository.reload
    rw [Effect.exec_bind, Effect.exec_query, hlisted₄.get]
    rfl
  have hrun := run_cancelApart reminder.version hlisted₂.get
    (hlisted₂.requireAuthorization href hrequire₂)
  have hexec : (Effect.atomically (cancelRow reminder.id reminder.version authorization)).exec
      (others (n + 1 + 1) (others (n + 1) (others n s))) = (.ok ⟨⟩, db') :=
    Effect.exec_atomically_ok.mpr hcancel
  rw [hexec] at hrun
  simp only at hrun
  rw [Process.run_once] at hrun
  have hreload' : (ReminderRepository.reload zones reminder.id).exec (others (n + 1 + 2) db') =
      (.ok (ReminderRepository.loaded row₄), others (n + 3) db') := hreload
  rw [hreload'] at hrun
  refine ⟨authorization, db', [(others n s, others n s),
    (others (n + 1) (others n s), others (n + 1) (others n s)), (turn others n s, db'),
    (others (n + 3) db', others (n + 3) db')], hcancel, by simp, rfl, ?_⟩
  unfold cancelLinked
  rw [Process.run_check_bind, href]
  simp only
  rw [Process.run_query_bind, hrequire₁]
  simp only
  rw [Process.run_bind, hrun]
  rfl

/-- **A reminder that does not pass** stops the loop, and its own pass has changed nothing. -/
theorem run_cancelLinked_not_passes (hothers : ∀ n s, Fires s (others n s))
    (hlisted : Listed zones s reminder row row') (h : ¬ Passes others current n s reminder) :
    ∃ e, ((cancelLinked zones current reminder).run others n s).answer = .error e ∧
      ∀ operation ∈ ((cancelLinked zones current reminder).run others n s).own,
        operation.1 = operation.2 := by
  obtain ⟨row₁, hlisted₁⟩ := hlisted.later hothers n
  obtain ⟨row₂, hlisted₂⟩ := hlisted₁.later hothers (n + 1)
  obtain ⟨row₃, hlisted₃⟩ := hlisted₂.later hothers (n + 2)
  unfold cancelLinked
  rw [Process.run_check_bind]
  cases href : reminderView.ref reminder with
  | error e => exact ⟨e, rfl, fun operation hmem => absurd hmem List.not_mem_nil⟩
  | ok ref =>
    simp only
    rw [Process.run_query_bind]
    have hengine := (hothers n s).sameAgenda.policyEngine
    cases hrequire : (others n s).policyEngine.require current .update ref with
    | error e =>
      refine ⟨e, rfl, fun operation hmem => ?_⟩
      rw [List.mem_singleton.mp hmem]
    | ok authorization =>
      simp only
      have hrequire₂ : (others (n + 1) (others n s)).policyEngine.require current .update ref =
          .ok authorization := by
        rw [(hothers (n + 1) (others n s)).sameAgenda.policyEngine]
        exact hrequire
      -- the actor is allowed, so the reminder has been fired
      have hfired : row₃.version ≠ reminder.version := by
        intro hversion
        refine h ⟨⟨ref, authorization, href, ?_⟩, ?_⟩
        · rw [← hengine]
          exact hrequire
        · unfold turn
          rw [hlisted₃.found, Option.map_some, hversion]
      have hid : row₃.id = reminder.id := by
        rw [hlisted₃.follows.id_eq, hlisted₃.loaded]
        rfl
      have hfound₃ : (turn others n s).reminders.find? row₃.id = some row₃ := by
        rw [hid]
        exact hlisted₃.found
      have hrefused := cancelRow_version authorization hfound₃ hfired
      rw [hid] at hrefused
      have hrun := run_cancelApart reminder.version hlisted₂.get
        (hlisted₂.requireAuthorization href hrequire₂)
      have hexec : (Effect.atomically (cancelRow reminder.id reminder.version authorization)).exec
          (others (n + 1 + 1) (others (n + 1) (others n s))) =
            (.error (.conflict "reminder is already cancelled"), turn others n s) :=
        Effect.exec_atomically_raises hrefused
      rw [hexec] at hrun
      simp only at hrun
      rw [Process.run_bind, hrun]
      refine ⟨_, rfl, fun operation hmem => ?_⟩
      have hmem' : operation ∈ [(others n s, others n s),
          (others (n + 1) (others n s), others (n + 1) (others n s)),
          (turn others n s, turn others n s)] := hmem
      simp only [List.mem_cons, List.not_mem_nil, or_false] at hmem'
      rcases hmem' with rfl | rfl | rfl <;> rfl

end Pass

/-! ### The loop -/

/-- Every reminder of a list passes when its turn comes. -/
def AllPass (zones : TimeZones) (others : ℕ → Database → Database) (current : CommandContext) :
    List Reminder → ℕ → Database → Prop
  | [], _, _ => True
  | reminder :: rest, n, s =>
    Passes others current n s reminder ∧
      AllPass zones others current rest (n + 4)
        ((cancelLinked zones current reminder).run others n s).store

section Loop

variable {zones : TimeZones} {others : ℕ → Database → Database} {current : CommandContext}
  {reminder : Reminder} {reminders rest : List Reminder}

/-- A pass writes nothing but its transaction. -/
theorem steps_cancelLinked {R : Database → Database → Prop} (hrefl : ∀ s, R s s)
    (hcancel : ∀ {db db' id version authorization},
      cancelRow id version authorization db = .ok (⟨⟩, db') → R db db') (reminder : Reminder) :
    Process.Steps R (cancelLinked zones current reminder) := by
  refine Process.Steps.bind (Process.Steps.check _) fun ref => ?_
  refine Process.Steps.bind (Process.Steps.once fun s => hrefl s) fun authorization => ?_
  refine Process.Steps.bind ?_ fun _ => Process.Steps.check _
  refine Process.Steps.bind (Process.Steps.once fun s => hrefl s) fun existing => ?_
  cases existing with
  | none => exact Process.Steps.check _
  | some existing =>
    refine Process.Steps.bind (Process.Steps.check _) fun _ => ?_
    refine Process.Steps.bind (Process.Steps.once ?_) fun _ => Process.Steps.once fun s => ?_
    · exact Effect.Within.atomically hrefl fun db _ db' h => hcancel h
    · rw [ReminderRepository.exec_reload]
      exact hrefl s

theorem PendingKept.refl (db : Database) : PendingKept db db := fun _ _ hr _ => hr

theorem PendingKept.trans {db db' db'' : Database} (h : PendingKept db db')
    (h' : PendingKept db' db'') : PendingKept db db'' :=
  fun id r hr hpending => h id r (h' id r hr hpending) hpending

theorem pendingKept_forEach (hothers : ∀ n s, Fires s (others n s)) (n : ℕ) (s : Database) :
    PendingKept s
      ((Process.forEach reminders (cancelLinked zones current)).run others n s).store :=
  Process.Steps.store (Process.Steps.forEach fun reminder =>
      steps_cancelLinked PendingKept.refl cancelRow_pendingKept reminder)
    PendingKept.refl (fun _ _ _ => PendingKept.trans) (fun n s => (hothers n s).pendingKept) n s

theorem sameAgenda_forEach (hothers : ∀ n s, Fires s (others n s)) (n : ℕ) (s : Database) :
    SameAgenda s ((Process.forEach reminders (cancelLinked zones current)).run others n s).store :=
  Process.Steps.store (Process.Steps.forEach fun reminder =>
      steps_cancelLinked SameAgenda.refl cancelRow_sameAgenda reminder)
    SameAgenda.refl (fun _ _ _ => SameAgenda.trans) (fun n s => (hothers n s).sameAgenda) n s

/-- Cancelling one reminder leaves the others listed. -/
theorem Listed.cancel {s s' : Database} {row row' : Reminder} {id : String} {version : Int}
    {authorization : AuthorizedAction} (h : Listed zones s reminder row row')
    (hcancel : cancelRow id version authorization s = .ok (⟨⟩, s')) (hne : reminder.id ≠ id) :
    Listed zones s' reminder row row' := by
  obtain ⟨r, -, hreminders⟩ := cancelRow_reminders hcancel
  refine ⟨h.read, h.pending, ?_, h.follows⟩
  rw [hreminders, if_neg hne]
  exact h.found

/-- Where a pass leaves the loop: its reminder is pending no more, the rest is still listed. -/
theorem after_pass (hothers : ∀ n s, Fires s (others n s)) {n : ℕ} {s : Database}
    (hnodup : ((reminder :: rest).map Reminder.id).Nodup)
    (hlisted : ∀ r ∈ reminder :: rest, ∃ row row', Listed zones s r row row')
    (h : Passes others current n s reminder) :
    ∃ store own, (cancelLinked zones current reminder).run others n s = ⟨.ok ⟨⟩, store, own⟩ ∧
      own.length = 4 ∧ (∀ r ∈ rest, ∃ row row', Listed zones store r row row') ∧
      (∀ r', store.reminders.find? reminder.id = some r' → r'.status ≠ .pending) ∧
      ∀ itemId, reminder.isFor itemId → ∃ operation ∈ own, Cancels itemId operation := by
  obtain ⟨row, row', hreminder⟩ := hlisted reminder List.mem_cons_self
  obtain ⟨authorization, db', own, hcancel, hmem, hlength, hrun⟩ :=
    run_cancelLinked_passes hothers hreminder h
  obtain ⟨found, hfound, hreminders⟩ := cancelRow_reminders hcancel
  refine ⟨_, own, hrun, hlength, fun r hr => ?_, fun r' hr' hpending => ?_, fun itemId hfor => ?_⟩
  · obtain ⟨row₁, row₂, hr'⟩ := hlisted r (List.mem_cons_of_mem _ hr)
    have hne : r.id ≠ reminder.id := fun heq =>
      (List.nodup_cons.mp hnodup).1 (heq ▸ List.mem_map.mpr ⟨r, hr, rfl⟩)
    obtain ⟨row₃, h₃⟩ := hr'.later hothers n
    obtain ⟨row₄, h₄⟩ := h₃.later hothers (n + 1)
    obtain ⟨row₅, h₅⟩ := h₄.later hothers (n + 2)
    obtain ⟨row₆, h₆⟩ := (h₅.cancel hcancel hne).later hothers (n + 3)
    exact ⟨row₁, row₆, h₆⟩
  · have hkept := (hothers (n + 3) db').pendingKept reminder.id r' hr' hpending
    rw [hreminders, if_pos rfl] at hkept
    obtain rfl := Option.some.inj hkept
    cases hpending
  · -- the transaction found the row that was listed, which is pending
    obtain ⟨row₁, h₁⟩ := hreminder.later hothers n
    obtain ⟨row₂, h₂⟩ := h₁.later hothers (n + 1)
    obtain ⟨row₃, h₃⟩ := h₂.later hothers (n + 2)
    have hfound₃ : found = row₃ := by
      have hturn : (turn others n s).reminders.find? reminder.id = some row₃ := h₃.found
      rw [hturn] at hfound
      exact (Option.some.inj hfound).symm
    subst hfound₃
    have hid : found.id = reminder.id := Table.key_of_find? hfound
    have hrow : found = row := by
      refine h₃.follows.eq_of_version ?_
      have hversion := h.unfired
      rw [hfound, Option.map_some, Option.some.injEq] at hversion
      rw [hversion, hreminder.loaded]
      rfl
    have hrelated : found.relatedKind = reminder.relatedKind ∧
        found.relatedId = reminder.relatedId := by
      rw [hrow, hreminder.loaded]
      exact ⟨rfl, rfl⟩
    refine ⟨_, hmem, found, { found with
      status := .cancelled, version := found.version + 1
      updatedAt := some authorization.authorizedAt }, ?_,
      ⟨hrelated.1.trans hfor.1, hrelated.2.trans hfor.2⟩, ?_, ?_, rfl⟩
    · show (turn others n s).reminders.find? found.id = some found
      rw [hid]
      exact hfound
    · rw [hrow, hreminder.pending]
      decide
    · have hafter := hreminders found.id
      rw [if_pos hid] at hafter
      exact hafter

/-- **When all pass**, the loop ends with each of them pending no more. -/
theorem run_forEach_allPass (hothers : ∀ n s, Fires s (others n s)) {n : ℕ} {s : Database}
    (hnodup : (reminders.map Reminder.id).Nodup)
    (hlisted : ∀ r ∈ reminders, ∃ row row', Listed zones s r row row')
    (h : AllPass zones others current reminders n s) :
    ((Process.forEach reminders (cancelLinked zones current)).run others n s).answer = .ok ⟨⟩ ∧
      ∀ r ∈ reminders, ∀ r',
        ((Process.forEach reminders (cancelLinked zones current)).run others n s).store.reminders.find?
          r.id = some r' → r'.status ≠ .pending := by
  induction reminders generalizing n s with
  | nil => exact ⟨rfl, fun r hr => absurd hr List.not_mem_nil⟩
  | cons reminder rest ih =>
    obtain ⟨store, own, hrun, hlength, hrest, hover, -⟩ := after_pass hothers hnodup hlisted h.1
    have hallPass : AllPass zones others current rest (n + 4) store := by
      have htail := h.2
      rw [hrun] at htail
      exact htail
    obtain ⟨hanswer, hcancelled⟩ := ih (List.nodup_cons.mp hnodup).2 hrest hallPass
    rw [Process.run_forEach_cons, Process.run_bind, hrun]
    simp only
    rw [hlength]
    refine ⟨hanswer, fun r hr r' hr' => ?_⟩
    rcases List.mem_cons.mp hr with rfl | hmem
    · -- the rest of the loop makes nothing pending
      intro hpending
      exact hover r' (pendingKept_forEach hothers (n + 4) store r.id r' hr' hpending) hpending
    · exact hcancelled r hmem r' hr'

/-- **When one does not pass**, the loop raises. -/
theorem run_forEach_not_allPass (hothers : ∀ n s, Fires s (others n s)) {n : ℕ} {s : Database}
    (hnodup : (reminders.map Reminder.id).Nodup)
    (hlisted : ∀ r ∈ reminders, ∃ row row', Listed zones s r row row')
    (h : ¬ AllPass zones others current reminders n s) :
    ∃ e, ((Process.forEach reminders (cancelLinked zones current)).run others n s).answer =
      .error e := by
  induction reminders generalizing n s with
  | nil => exact absurd trivial h
  | cons reminder rest ih =>
    rw [Process.run_forEach_cons, Process.run_bind]
    by_cases hpasses : Passes others current n s reminder
    · obtain ⟨store, own, hrun, hlength, hrest, -, -⟩ := after_pass hothers hnodup hlisted hpasses
      have hnot : ¬ AllPass zones others current rest (n + 4) store := by
        intro hall
        refine h ⟨hpasses, ?_⟩
        rw [hrun]
        exact hall
      rw [hrun]
      simp only
      rw [hlength]
      exact ih (List.nodup_cons.mp hnodup).2 hrest hnot
    · obtain ⟨row, row', hreminder⟩ := hlisted reminder List.mem_cons_self
      obtain ⟨e, hanswer, -⟩ := run_cancelLinked_not_passes hothers hreminder hpasses
      rw [hanswer]
      exact ⟨e, rfl⟩

/-- A loop whose first reminder does not pass has changed nothing. -/
theorem own_forEach_not_passes (hothers : ∀ n s, Fires s (others n s)) {n : ℕ} {s : Database}
    (hlisted : ∀ r ∈ reminder :: rest, ∃ row row', Listed zones s r row row')
    (h : ¬ Passes others current n s reminder) :
    ∀ operation ∈
      ((Process.forEach (reminder :: rest) (cancelLinked zones current)).run others n s).own,
        operation.1 = operation.2 := by
  obtain ⟨row, row', hreminder⟩ := hlisted reminder List.mem_cons_self
  obtain ⟨e, hanswer, hidle⟩ := run_cancelLinked_not_passes hothers hreminder h
  rw [Process.run_forEach_cons, Process.run_bind, hanswer]
  exact hidle

/-- A loop whose first reminder passes has cancelled it. -/
theorem own_forEach_passes (hothers : ∀ n s, Fires s (others n s)) {n : ℕ} {s : Database}
    (hnodup : ((reminder :: rest).map Reminder.id).Nodup)
    (hlisted : ∀ r ∈ reminder :: rest, ∃ row row', Listed zones s r row row')
    (h : Passes others current n s reminder) {itemId : String} (hfor : reminder.isFor itemId) :
    ∃ operation ∈
      ((Process.forEach (reminder :: rest) (cancelLinked zones current)).run others n s).own,
        Cancels itemId operation := by
  obtain ⟨store, own, hrun, -, -, -, hcancels⟩ := after_pass hothers hnodup hlisted h
  obtain ⟨operation, hmem, hoperation⟩ := hcancels itemId hfor
  rw [Process.run_forEach_cons, Process.run_bind, hrun]
  exact ⟨operation, List.mem_append_left _ hmem, hoperation⟩

end Loop

/-! ### The deletion -/

section Deletion

variable {engine : RecurrenceEngine} {others : ℕ → Database → Database} {itemId : String}
  {now : Instant} {context : CommandContext} {db : Database}

/-- Up to the loop nothing is written. -/
theorem steps_prepareDeletion {R : Database → Database → Prop} (hrefl : ∀ s, R s s)
    (engine : RecurrenceEngine) (itemId : String) (current : CommandContext) :
    Process.Steps R (prepareDeletion engine itemId current) := by
  refine Process.Steps.bind (Process.Steps.once fun s => hrefl s) fun existing => ?_
  cases existing with
  | none => exact Process.Steps.check _
  | some existing =>
    refine Process.Steps.bind (Process.Steps.check _) fun _ => ?_
    refine Process.Steps.bind (Process.Steps.check _) fun ref => ?_
    refine Process.Steps.bind (Process.Steps.once fun s => hrefl s) fun authorization => ?_
    exact Process.Steps.bind (Process.Steps.once fun s => hrefl s) fun reminders =>
      Process.Steps.check _

/-- What the deletion knows when it comes to its loop. -/
structure AtLoop (engine : RecurrenceEngine) (itemId : String) (db s : Database)
    (existing : AgendaItem) (authorization : AuthorizedAction) (reminders : List Reminder) :
    Prop where
  item : ∃ row, db.agendaItems.find? itemId = some row ∧ existing.id = itemId ∧
    row.ownerUserId = existing.ownerUserId
  authorized : authorization.action = .delete ∧ agendaView.ref existing = .ok authorization.resource
  listed : ∃ all, ReminderRepository.listForOwner engine.zones existing.ownerUserId s = .ok all ∧
    reminders = all.filter (Reminder.isPendingFor itemId)

theorem prepareDeletion_ok {current : CommandContext} {existing : AgendaItem}
    {authorization : AuthorizedAction} {reminders : List Reminder} {n : ℕ}
    (h : ((prepareDeletion engine itemId current).run others n db).answer =
      .ok (existing, authorization, reminders)) :
    AtLoop engine itemId (others n db)
      ((prepareDeletion engine itemId current).run others n db).store existing authorization
      reminders := by
  revert h
  unfold prepareDeletion
  rw [Process.run_query_bind]
  cases hget : AgendaRepository.get engine itemId (others n db) with
  | error e => exact fun h => absurd h (by simp)
  | ok found =>
    cases found with
    | none => exact fun h => absurd h (by simp [Run.after])
    | some found =>
      simp only
      rw [Process.run_check_bind]
      cases requireCreatorOrManager current found.ownerUserId found.creatorUserId with
      | error e => exact fun h => absurd h (by simp [Run.after])
      | ok u =>
        simp only
        rw [Process.run_check_bind]
        cases href : agendaView.ref found with
        | error e => exact fun h => absurd h (by simp [Run.after])
        | ok ref =>
          simp only
          rw [Process.run_query_bind]
          cases hrequire : (others (n + 1) (others n db)).policyEngine.require current .delete
              ref with
          | error e => exact fun h => absurd h (by simp [Run.after])
          | ok granted =>
            simp only
            rw [Process.run_query_bind]
            cases hlist : ReminderRepository.listForOwner engine.zones found.ownerUserId
                (others (n + 1 + 1) (others (n + 1) (others n db))) with
            | error e => exact fun h => absurd h (by simp [Run.after])
            | ok all =>
              intro h
              obtain ⟨rfl, rfl, rfl⟩ : found = existing ∧ granted = authorization ∧
                  all.filter (Reminder.isPendingFor found.id) = reminders := by
                simpa [Run.after] using h
              obtain ⟨row, hrow, hbuild⟩ := getRow_some.mp hget
              obtain ⟨hid, howner, -, -⟩ := AgendaRepository.fromRow_ok hbuild
              have hkey : row.id = itemId := Table.key_of_find? hrow
              obtain ⟨-, -, -, t, -, rfl⟩ := PolicyEngine.require_ok_iff.mp hrequire
              refine ⟨⟨row, hrow, hid.trans hkey, howner.symm⟩, ⟨rfl, href⟩, all, hlist, ?_⟩
              rw [hid, hkey]

/-- Reading keeps the ids. -/
theorem ids_of_read {zones : TimeZones} {rows all : List Reminder}
    (h : List.Forall₂ (fun row r => ReminderRepository.fromRow zones row = .ok r) rows all) :
    all.map Reminder.id = rows.map Reminder.id := by
  induction h with
  | nil => rfl
  | cons hrow _ ih =>
    rw [List.map_cons, List.map_cons, ih, (ReminderRepository.fromRow_ok hrow).2]
    rfl

/-- Every row of a listing can be read. -/
theorem exists_read {zones : TimeZones} {rows all : List Reminder}
    (h : List.Forall₂ (fun row r => ReminderRepository.fromRow zones row = .ok r) rows all)
    {row : Reminder} (hrow : row ∈ rows) : ∃ r, ReminderRepository.fromRow zones row = .ok r := by
  induction h with
  | nil => exact absurd hrow List.not_mem_nil
  | cons hhead _ ih =>
    rcases List.mem_cons.mp hrow with rfl | htail
    · exact ⟨_, hhead⟩
    · exact ih htail

/-- What holds before the first operation holds before the others came. -/
theorem AtLoop.before {db₀ s : Database} {existing : AgendaItem} {authorization : AuthorizedAction}
    {reminders : List Reminder} (h : AtLoop engine itemId db s existing authorization reminders)
    (hsame : SameAgenda db₀ db) : AtLoop engine itemId db₀ s existing authorization reminders := by
  refine ⟨?_, h.authorized, h.listed⟩
  rw [← hsame.agendaItems]
  exact h.item

/-- What the loop of the deletion is about. -/
theorem AtLoop.reminders {s : Database} {existing : AgendaItem}
    {authorization : AuthorizedAction} {reminders : List Reminder}
    (h : AtLoop engine itemId db s existing authorization reminders) :
    (reminders.map Reminder.id).Nodup ∧
      (∀ r ∈ reminders, r.isFor itemId ∧ ∃ row row', Listed engine.zones s r row row') ∧
      ∀ row ∈ s.reminders.rows, row.ownerUserId = existing.ownerUserId →
        row.isPendingFor itemId = true → ReminderRepository.loaded row ∈ reminders := by
  obtain ⟨all, hlist, rfl⟩ := h.listed
  have hread := collect_some hlist
  have hnodup : (all.map Reminder.id).Nodup := by
    rw [ids_of_read hread]
    unfold Table.select
    refine ((List.perm_insertionSort _ _).map Reminder.id).nodup_iff.mpr ?_
    exact (List.Sublist.map Reminder.id List.filter_sublist).nodup s.reminders.nodup
  have hmem : ∀ {r}, r ∈ all ↔ ∃ row ∈ s.reminders.select
      (fun r => decide (r.ownerUserId = existing.ownerUserId)) ReminderRepository.listOrder,
      (some <$> ReminderRepository.fromRow engine.zones row : Except PyError _) = .ok (some r) :=
    fun {r} => mem_collect hlist
  refine ⟨(List.Sublist.map Reminder.id List.filter_sublist).nodup hnodup, fun r hr => ?_,
    fun row hrow howner hpending => ?_⟩
  · obtain ⟨hall, hpending⟩ := List.mem_filter.mp hr
    obtain ⟨row, hrow, hfrom⟩ := hmem.mp hall
    have hfrom' : ReminderRepository.fromRow engine.zones row = .ok r := by
      cases hread' : ReminderRepository.fromRow engine.zones row with
      | error e => rw [hread'] at hfrom; cases hfrom
      | ok r' =>
        rw [hread'] at hfrom
        obtain rfl := Option.some.inj (Except.ok.inj hfrom)
        rfl
    have hloaded := (ReminderRepository.fromRow_ok hfrom').2
    unfold Reminder.isPendingFor at hpending
    simp only [Bool.and_eq_true, decide_eq_true_eq] at hpending
    have hstatus : row.status = .pending := by
      rw [hloaded] at hpending
      exact hpending.2
    have hfound : s.reminders.find? r.id = some row := by
      rw [hloaded]
      exact Table.find?_of_mem (Table.mem_select.mp hrow).1
    exact ⟨hpending.1, row, row, hfrom', hstatus, hfound, .same⟩
  · have hselected : row ∈ s.reminders.select
        (fun r => decide (r.ownerUserId = existing.ownerUserId)) ReminderRepository.listOrder :=
      Table.mem_select.mpr ⟨hrow, by simpa using howner⟩
    obtain ⟨r, hfrom⟩ := exists_read hread hselected
    have hloaded := (ReminderRepository.fromRow_ok hfrom).2
    refine List.mem_filter.mpr ⟨hmem.mpr ⟨row, hselected, ?_⟩, hpending⟩
    rw [hfrom, hloaded]
    rfl

/-- The last operation goes through, whatever has become of the reminders. -/
theorem AtLoop.delete {s last : Database} {existing : AgendaItem}
    {authorization : AuthorizedAction} {reminders : List Reminder}
    (h : AtLoop engine itemId db s existing authorization reminders) (hsame : SameAgenda db last) :
    ∃ db', AgendaRepository.delete existing.id authorization last = .ok (⟨⟩, db') ∧
      db'.agendaItems.find? itemId = none ∧ db'.reminders = last.reminders := by
  obtain ⟨row, hrow, hid, howner⟩ := h.item
  obtain ⟨haction, href⟩ := h.authorized
  obtain ⟨-, hrefId, hrefOwner, -⟩ := ResourceRef.checked_ok.mp href
  have hrefId' : authorization.resource.id = existing.id := hrefId
  have hrefOwner' : authorization.resource.ownerUserId = existing.ownerUserId := hrefOwner
  have hkey : row.id = itemId := Table.key_of_find? hrow
  have hlast : last.agendaItems.find? existing.id = some row := by
    rw [hid, hsame.agendaItems]
    exact hrow
  have hquery : decide (row.ownerUserId = authorization.resource.ownerUserId) = true := by
    rw [hrefOwner', decide_eq_true_eq]
    exact howner
  have hcount := Table.count_key
    (q := fun r : AgendaRow => decide (r.ownerUserId = authorization.resource.ownerUserId)) hlast
    hquery
  have hauthorized : requireAuthorization authorization .delete "agenda" existing.id
      authorization.resource.ownerUserId authorization.resource.classification = .ok ⟨⟩ := by
    refine requireAuthorization_ok.mpr ⟨haction, ?_⟩
    obtain ⟨hkind, -, -, -⟩ := ResourceRef.checked_ok.mp href
    exact ResourceRef.checked_ok.mpr ⟨hkind, hrefId', rfl, rfl⟩
  refine ⟨_, raiseIf_bind_ok.mpr ⟨not_not.mpr hrefId', bind_eq_ok.mpr ⟨_, hauthorized,
    raiseIf_bind_ok.mpr ⟨not_not.mpr hcount, rfl⟩⟩⟩, ?_, rfl⟩
  show ((last.agendaItems.deleteWhere fun r => decide (r.id = existing.id) &&
    decide (r.ownerUserId = authorization.resource.ownerUserId)).find? itemId) = none
  rw [Table.find?_deleteWhere, ← hid, hlast]
  have hdrop : (decide (row.id = existing.id) &&
      decide (row.ownerUserId = authorization.resource.ownerUserId)) = true := by
    rw [hquery, hid, hkey]
    simp
  simp [Option.filter, hdrop]

/-- What the loop leaves to the last operation. -/
def atLast (zones : TimeZones) (others : ℕ → Database → Database) (current : CommandContext)
    (reminders : List Reminder) (n : ℕ) (s : Database) : Database :=
  let loop := (Process.forEach reminders (cancelLinked zones current)).run others n s
  others (n + loop.own.length) loop.store

/-- When the deletion keeps its promise, from its loop on: the first reminder does not pass, or all
pass and nobody else has a pending reminder of the item. -/
inductive Kept (zones : TimeZones) (others : ℕ → Database → Database) (current : CommandContext)
    (itemId : String) (existing : AgendaItem) (reminders : List Reminder) (n : ℕ) (s : Database) :
    Prop
  | refused (first : Reminder) (rest : List Reminder) (hreminders : reminders = first :: rest)
      (hfirst : ¬ Passes others current n s first)
  | done (hall : AllPass zones others current reminders n s)
      (howners : ∀ row ∈ (atLast zones others current reminders n s).reminders.rows,
        row.isPendingFor itemId = true → row.ownerUserId = existing.ownerUserId)

theorem not_cancels_of_idle {operation : Database × Database}
    (h : operation.1 = operation.2) : ¬ Cancels itemId operation := by
  rintro ⟨r, r', hr, -, hstatus, hr', hstatus'⟩
  rw [h, hr'] at hr
  obtain rfl := Option.some.inj hr
  exact hstatus hstatus'

/-- The end of a deletion whose loop raised. -/
theorem allOrNothing_of_raised {e : PyError} {store : Database} {own : List (Database × Database)}
    (hsame : SameAgenda db store) :
    AllOrNothing db itemId ⟨.error e, store, own⟩ ↔
      ∀ operation ∈ own, ¬ Cancels itemId operation := by
  constructor
  · intro h
    exact (h.raised e rfl).1
  · intro h
    exact ⟨fun _ _ => ⟨h, hsame⟩, fun u hu => by cases hu⟩

/-- Once all have passed, the owner of the item has no pending reminder of it. -/
theorem AtLoop.settled (hothers : ∀ n s, Fires s (others n s)) {current : CommandContext}
    {s : Database} {existing : AgendaItem} {authorization : AuthorizedAction}
    {reminders : List Reminder} {n : ℕ}
    (h : AtLoop engine itemId db s existing authorization reminders)
    (hall : AllPass engine.zones others current reminders n s) :
    ∀ row ∈ (atLast engine.zones others current reminders n s).reminders.rows,
      row.isPendingFor itemId = true → row.ownerUserId ≠ existing.ownerUserId := by
  intro row hrow hpending howner
  obtain ⟨hnodup, hreminders, hown⟩ := h.reminders
  have hstatus : row.status = .pending := by
    unfold Reminder.isPendingFor at hpending
    simp only [Bool.and_eq_true, decide_eq_true_eq] at hpending
    exact hpending.2
  -- it was pending when the owner's reminders were listed, and so it has been cancelled
  have hfound := (hothers _ _).pendingKept row.id row (Table.find?_of_mem hrow) hstatus
  have hbefore := pendingKept_forEach hothers n s row.id row hfound hstatus
  have hmem := hown row (Table.mem_of_find? hbefore) howner hpending
  exact (run_forEach_allPass hothers hnodup (fun r hr => (hreminders r hr).2) hall).2 _ hmem row
    hfound hstatus

/-- From the loop on. -/
theorem AtLoop.allOrNothing_iff (hothers : ∀ n s, Fires s (others n s)) {s : Database}
    {existing : AgendaItem} {authorization : AuthorizedAction} {reminders : List Reminder}
    {own : List (Database × Database)}
    (h : AtLoop engine itemId db s existing authorization reminders) (current : CommandContext)
    (n : ℕ) (hsame : SameAgenda db s) (hidle : ∀ operation ∈ own, operation.1 = operation.2) :
    let r := (Process.forEach reminders (cancelLinked engine.zones current) >>= fun _ =>
      Process.atomically (AgendaRepository.delete existing.id authorization)).run others n s
    AllOrNothing db itemId { answer := r.answer, store := r.store, own := own ++ r.own } ↔
      Kept engine.zones others current itemId existing reminders n s := by
  intro r
  obtain ⟨hnodup, hreminders, -⟩ := h.reminders
  have hlisted : ∀ r ∈ reminders, ∃ row row', Listed engine.zones s r row row' :=
    fun r hr => (hreminders r hr).2
  have hloop : SameAgenda s
      ((Process.forEach reminders (cancelLinked engine.zones current)).run others n s).store :=
    sameAgenda_forEach hothers n s
  have hquiet : ∀ operation ∈ own, ¬ Cancels itemId operation :=
    fun operation hmem => not_cancels_of_idle (hidle operation hmem)
  have hr : r = _ := Process.run_bind _ _ n s
  clear_value r
  cases hanswer : ((Process.forEach reminders (cancelLinked engine.zones current)).run others n
      s).answer with
  | error e =>
    rw [hanswer] at hr
    subst hr
    rw [allOrNothing_of_raised (hsame.trans hloop)]
    constructor
    · intro hnothing
      cases reminders with
      | nil => cases hanswer
      | cons first rest =>
        refine .refused first rest rfl fun hpasses => ?_
        -- the first one would have been cancelled
        obtain ⟨operation, hmem, hcancels⟩ := own_forEach_passes hothers hnodup hlisted hpasses
          (hreminders first List.mem_cons_self).1
        exact hnothing operation (List.mem_append_right _ hmem) hcancels
    · intro hkept operation hmem
      cases hkept with
      | refused first rest heq hfirst =>
        subst heq
        rcases List.mem_append.mp hmem with hbefore | hin
        · exact hquiet operation hbefore
        · exact not_cancels_of_idle (own_forEach_not_passes hothers hlisted hfirst operation hin)
      | done hall howners =>
        rw [(run_forEach_allPass hothers hnodup hlisted hall).1] at hanswer
        cases hanswer
  | ok u =>
    have hall : AllPass engine.zones others current reminders n s := by
      by_contra hnot
      obtain ⟨e, herror⟩ := run_forEach_not_allPass hothers hnodup hlisted hnot
      rw [herror] at hanswer
      cases hanswer
    have hlast : SameAgenda s (atLast engine.zones others current reminders n s) :=
      hloop.trans (hothers _ _).sameAgenda
    obtain ⟨db', hdelete, hgone, hkeeps⟩ := h.delete (hsame.trans hlast)
    rw [hanswer] at hr
    simp only at hr
    unfold Process.atomically at hr
    have hexec : (Effect.atomically (AgendaRepository.delete existing.id authorization)).exec
        (atLast engine.zones others current reminders n s) = (.ok ⟨⟩, db') :=
      Effect.exec_atomically_ok.mpr hdelete
    unfold atLast at hexec
    rw [Process.run_once, hexec] at hr
    subst hr
    constructor
    · intro hdone
      refine .done hall fun row hrow hpending => ?_
      -- after the deletion no reminder of the item may be pending
      have hnone := (hdone.returned ⟨⟩ rfl).2 row (by
        show row ∈ db'.reminders.rows
        rw [hkeeps]
        exact hrow)
      rw [hnone] at hpending
      cases hpending
    · intro hkept
      refine ⟨fun e he => (by cases he), fun _ _ => ⟨hgone, fun row hrow => ?_⟩⟩
      by_contra hpending
      have hpending' : row.isPendingFor itemId = true := by simpa using hpending
      have hrow' : row ∈ (atLast engine.zones others current reminders n s).reminders.rows := by
        rw [← hkeeps]
        exact hrow
      cases hkept with
      | refused first rest heq hfirst =>
        subst heq
        exact hfirst hall.1
      | done _ howners =>
        exact h.settled hothers hall row hrow' hpending' (howners row hrow' hpending')

end Deletion

/-- **When deleting an agenda item is all or nothing.** -/
theorem deletion_allOrNothing_iff (engine : RecurrenceEngine) (sha256 : String → String)
    (passes : ℕ → List (Instant × Int)) (itemId : String) (now : Instant)
    (context : CommandContext) (db : Database) :
    let others := fun n => ReminderRepository.firings ⟨engine.zones, sha256⟩ (passes n)
    let start := (prepareDeletion engine itemId (context.at' now)).run others 0 db
    AllOrNothing db itemId ((deleteAgenda engine itemId now context).run others 0 db) ↔
      ∀ existing authorization reminders,
        start.answer = .ok (existing, authorization, reminders) →
          Kept engine.zones others (context.at' now) itemId existing reminders start.own.length
            start.store := by
  intro others start
  have hothers : ∀ n s, Fires s (others n s) := fun n s =>
    ReminderRepository.fires_firings _ _ _
  have hidle : ∀ operation ∈ start.own, operation.1 = operation.2 :=
    (steps_prepareDeletion (fun _ => rfl) engine itemId (context.at' now)).own 0 db
  have hsame : SameAgenda db start.store :=
    (steps_prepareDeletion SameAgenda.refl engine itemId (context.at' now)).store SameAgenda.refl
      (fun _ _ _ => SameAgenda.trans) (fun n s => (hothers n s).sameAgenda) 0 db
  have hsplit : (deleteAgenda engine itemId now context).run others 0 db = _ :=
    Process.run_bind (prepareDeletion engine itemId (context.at' now))
      (fun prepared =>
        Process.forEach prepared.2.2 (cancelLinked engine.zones (context.at' now)) >>= fun _ =>
          Process.atomically (AgendaRepository.delete prepared.1.id prepared.2.1)) 0 db
  rw [hsplit]
  cases hanswer : start.answer with
  | error e =>
    simp only
    constructor
    · intro _ existing authorization reminders h
      cases h
    · intro _
      exact (allOrNothing_of_raised hsame).mpr fun operation hmem =>
        not_cancels_of_idle (hidle operation hmem)
  | ok out =>
    obtain ⟨existing, authorization, reminders⟩ := out
    have hok : ((prepareDeletion engine itemId (context.at' now)).run others 0 db).answer =
        .ok (existing, authorization, reminders) := hanswer
    have hloop := (prepareDeletion_ok hok).before (hothers 0 db).sameAgenda
    have hiff := hloop.allOrNothing_iff hothers (context.at' now) start.own.length hsame hidle
    simp only [Nat.zero_add]
    refine hiff.trans ⟨fun hkept e a r heq => ?_, fun hkept => hkept _ _ _ rfl⟩
    obtain ⟨rfl, rfl, rfl⟩ : existing = e ∧ authorization = a ∧ reminders = r := by
      simpa using heq
    exact hkept

/-! A personal dinner with two reminders, the second of which is confidential. The owner may delete
the dinner from a chat and cancel the first reminder, but not the second one. -/

def dinnerRow : AgendaRow where
  id := "dinner"
  ownerUserId := "alice"
  creatorUserId := some "alice"
  title := "dinner"
  description := ""
  actionLinks := []
  startAt := 3600000000
  endAt := 7200000000
  timezone := "UTC"
  allDay := false
  classification := .personal
  version := 1
  createdAt := 0
  updatedAt := 0

def bookTable : Reminder where
  id := "book"
  ownerUserId := "alice"
  title := "book a table"
  fireAt := 1800000000
  targetRef := "chat"
  relatedKind := some "agenda"
  relatedId := some "dinner"
  createdAt := some 0
  updatedAt := some 0

def buyRing : Reminder := { bookTable with
  id := "ring"
  title := "buy the ring"
  fireAt := 2700000000
  classification := .confidential }

def dinnerPlanned : Database where
  agendaItems := ⟨[dinnerRow], by simp⟩
  reminders := ⟨[bookTable, buyRing], by simp [bookTable, buyRing]⟩

/-- The deletion has been confirmed. -/
def aliceConfirms : CommandContext := { aliceByChat with confirmed := true }

set_option maxRecDepth 20000 in
/-- **A deletion can be left half done.** It is refused, and one of the two reminders is gone. -/
theorem deletion_half_done :
    ¬ ∀ engine sha256 (passes : ℕ → List (Instant × Int)) itemId now context db,
      AllOrNothing db itemId ((deleteAgenda engine itemId now context).run
        (fun n => ReminderRepository.firings ⟨engine.zones, sha256⟩ (passes n)) 0 db) := by
  intro hall
  have hnothing := hall utcOnly id (fun _ => []) "dinner" 0 aliceConfirms dinnerPlanned
  have hrefused : ((deleteAgenda utcOnly "dinner" 0 aliceConfirms).run
      (fun _ => ReminderRepository.firings ⟨utcOnly.zones, id⟩ []) 0 dinnerPlanned).answer =
        .error (.permissionDenied "step-up authentication is required") := by rfl
  -- of its operations the sixth is the transaction on the first reminder
  obtain ⟨operation, hoperation, hcancels⟩ : ∃ operation,
      ((deleteAgenda utcOnly "dinner" 0 aliceConfirms).run
        (fun _ => ReminderRepository.firings ⟨utcOnly.zones, id⟩ []) 0 dinnerPlanned).own[5]? =
          some operation ∧ Cancels "dinner" operation :=
    ⟨_, rfl, bookTable, { bookTable with
      status := .cancelled, version := 2, updatedAt := some 0 }, rfl, ⟨rfl, rfl⟩, by decide, rfl,
      rfl⟩
  exact (hnothing.raised _ hrefused).1 operation (List.mem_of_getElem? hoperation) hcancels

end Zhixu
