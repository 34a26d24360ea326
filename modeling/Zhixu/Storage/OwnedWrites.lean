import Zhixu.Storage.Jobs
import Zhixu.Storage.ReminderRuns
import Zhixu.Storage.Schedule
import Zhixu.Storage.Users

/-!
# Whose records a write reaches

A repository write presents an authorization for one record, `authorization.resource`, and the
authorization says who owns that record. The store says so too, in the row. Nothing makes the two
agree but the write itself: it puts the owner into its `WHERE` clause, or it reads the row and
compares. Where it does neither, an authorization for one's own record of an id reaches whatever
record is stored under that id.

`RepositoryWrite` lists the writes on records that are stored already, and `perform` runs one. What
is stored under a reference is a `RecordContents`: the row, the rows that hang on it without a name of
their own (the recurrence, the exceptions and the leads of an agenda item, the runs of a job), and
the grants that name it. A write keeps to its owner when every record it changes belongs to the
owner of its authorization (`WritesOwnRecords`).

## The argument

A write changes the record of one reference only (`TouchesOnly`), so the question is about that
record alone (`TouchesOnly.writesOwn_iff`). Two writes are exceptions. Deleting an agenda item also
deletes the notification rules of the item, which are records with owners of their own; and a grant
names a record by the text of its kind.

For a table of records by id there are two lemmas, `Holds.update_iff` and `Holds.delete_iff`. They
take the condition that the statement puts on the row besides its id. Where that condition names the
owner of the authorization there is nothing left to ask, and where there is none the question stays:
`OwnerBound`.
-/

open Framework

namespace Zhixu

/-! ### Records and what is stored of them -/

/-- The kinds of records that a repository writes on. -/
inductive RecordKind
  | user
  | externalIdentity
  | agenda
  | agendaNotification
  | task
  | note
  | reminder
  | anniversary
  | dailyBriefing
  | scheduledJob
deriving DecidableEq, Repr

namespace RecordKind

/-- The kind as a `ResourceRef` spells it. -/
def name : RecordKind → String
  | user => "user"
  | externalIdentity => "external_identity"
  | agenda => "agenda"
  | agendaNotification => "agenda_notification"
  | task => "task"
  | note => "note"
  | reminder => "reminder"
  | anniversary => "anniversary"
  | dailyBriefing => "daily_briefing"
  | scheduledJob => "scheduled_job"

/-- The row of a record, with the rows that hang on it. -/
def Row : RecordKind → Type
  | user => Option UserRow
  | externalIdentity => Option ExternalIdentity
  | agenda =>
    Option AgendaRow × Option RecurrenceRow × (Instant → Option ExceptionRow) ×
      Option LeadOverrideRow
  | agendaNotification => Option AgendaNotificationRule
  | task => Option TaskRow
  | note => Option Note
  | reminder => Option Reminder
  | anniversary => Option Anniversary
  | dailyBriefing => Option DailyBriefing
  | scheduledJob => Option ScheduledJobRow × List JobRunRow

end RecordKind

/-- A record as it is stored. -/
structure RecordContents (kind : RecordKind) where
  row : kind.Row
  grants : String → Action → Option GrantRow

namespace Database

/-- The row that is stored under an id, with the rows that hang on it. -/
def storedRow (db : Database) : (kind : RecordKind) → String → kind.Row
  | .user, id => db.users.find? id
  | .externalIdentity, id => db.externalIdentities.find? id
  | .agenda, id =>
    (db.agendaItems.find? id, db.recurrenceRules.find? id,
      fun occurrenceAt => db.recurrenceExceptions.find? (id, occurrenceAt),
      db.agendaNotificationLeads.find? id)
  | .agendaNotification, id => db.agendaNotificationRules.find? id
  | .task, id => db.tasks.find? id
  | .note, id => db.notes.find? id
  | .reminder, id => db.reminders.find? id
  | .anniversary, id => db.anniversaries.find? id
  | .dailyBriefing, id => db.dailyBriefings.find? id
  | .scheduledJob, id =>
    (db.scheduledJobs.find? id, db.jobRuns.rows.filter fun r => r.scheduledJobId = id)

/-- What is stored under a reference. -/
def stored (db : Database) (kind : RecordKind) (id : String) : RecordContents kind where
  row := db.storedRow kind id
  grants := fun subjectUserId action =>
    db.resourceAcl.find? (kind.name, id, subjectUserId, action)

/-- `owner_user_id` of a stored record. Users own themselves. -/
def ownerOf (db : Database) : RecordKind → String → Option String
  | .user, id => (db.users.find? id).map UserRow.id
  | .externalIdentity, id => (db.externalIdentities.find? id).map ExternalIdentity.userId
  | .agenda, id => (db.agendaItems.find? id).map AgendaRow.ownerUserId
  | .agendaNotification, id =>
    (db.agendaNotificationRules.find? id).map AgendaNotificationRule.ownerUserId
  | .task, id => (db.tasks.find? id).map TaskRow.ownerUserId
  | .note, id => (db.notes.find? id).map Note.ownerUserId
  | .reminder, id => (db.reminders.find? id).map Reminder.ownerUserId
  | .anniversary, id => (db.anniversaries.find? id).map Anniversary.ownerUserId
  | .dailyBriefing, id => (db.dailyBriefings.find? id).map DailyBriefing.ownerUserId
  | .scheduledJob, id => (db.scheduledJobs.find? id).map ScheduledJobRow.ownerUserId

@[simp] theorem stored_audit (db : Database) (e : AuditEvent) (kind : RecordKind) (id : String) :
    (db.audit e).stored kind id = db.stored kind id := by
  cases kind <;> rfl

@[simp] theorem stored_auditAction (db : Database) (authorization : AuthorizedAction)
    (reasonCode : String) (kind : RecordKind) (id : String) :
    (db.auditAction authorization reasonCode).stored kind id = db.stored kind id :=
  stored_audit db _ kind id

end Database

/-! ### The writes -/

/-- A write on a stored record, with its arguments besides the authorization. -/
inductive RepositoryWrite
  | updateAgenda (item : AgendaItem) (expectedVersion : Int)
  | deleteAgenda (itemId : String)
  | addException (itemId : String) (exception : RecurrenceException)
  | updateNotification (rule : AgendaNotificationRule)
  | deleteNotification (ruleId : String)
  | updateTask (task : Task) (expectedVersion : Int)
  | deleteTask (taskId : String)
  | updateNote (note : Note) (expectedVersion : Int)
  | deleteNote (noteId : String)
  | cancel (reminderId : String) (expectedVersion : Int)
  | acknowledge (reminderId : String) (expectedVersion : Int)
  | snooze (reminderId : String) (fireAt : Instant) (expectedVersion : Int)
  | updateAnniversary (anniversary : Anniversary)
  | deleteAnniversary (anniversaryId : String)
  | updateBriefing (briefing : DailyBriefing) (now : Instant)
  | deleteBriefing (briefingId : String)
  | rename (userId displayName : String)
  | unbindIdentity (identityId : String)
  | grant (subjectUserId : String) (action : Action)
  | revoke (subjectUserId : String) (action : Action)
  | createRun (job : ScheduledJob) (scheduledFor : DateTime)

/-- A transaction as a whole, without its answer. -/
def committing {α : Type} (t : Transaction Database PyError α) : Effect Database PyError Unit :=
  (fun _ => ()) <$> Effect.atomically t

/-- The write, under an authorization. -/
def RepositoryWrite.perform (platform : Platform) (authorization : AuthorizedAction) :
    RepositoryWrite → Effect Database PyError Unit
  | updateAgenda item expectedVersion =>
    committing (AgendaRepository.update platform.zones item expectedVersion authorization)
  | deleteAgenda itemId => committing (AgendaRepository.delete itemId authorization)
  | addException itemId exception =>
    committing (AgendaRepository.addException platform.zones itemId exception authorization)
  | updateNotification rule => committing (AgendaNotificationRepository.update rule authorization)
  | deleteNotification ruleId =>
    committing (AgendaNotificationRepository.delete ruleId authorization)
  | updateTask task expectedVersion =>
    committing (TaskRepository.update platform.zones task expectedVersion authorization)
  | deleteTask taskId => committing (TaskRepository.delete taskId authorization)
  | updateNote note expectedVersion =>
    committing (NoteRepository.update note expectedVersion authorization)
  | deleteNote noteId => committing (NoteRepository.delete noteId authorization)
  | cancel reminderId expectedVersion => (fun _ => ()) <$>
    ReminderRepository.cancel platform.zones reminderId expectedVersion authorization
  | acknowledge reminderId expectedVersion => (fun _ => ()) <$>
    ReminderRepository.acknowledge platform.zones reminderId expectedVersion authorization
  | snooze reminderId fireAt expectedVersion => (fun _ => ()) <$>
    ReminderRepository.snooze platform.zones reminderId fireAt expectedVersion authorization
  | updateAnniversary anniversary =>
    committing (AnniversaryRepository.update anniversary authorization)
  | deleteAnniversary anniversaryId =>
    committing (AnniversaryRepository.delete anniversaryId authorization)
  | updateBriefing briefing now =>
    committing (DailyBriefingRepository.update briefing now authorization)
  | deleteBriefing briefingId => committing (DailyBriefingRepository.delete briefingId authorization)
  | rename userId displayName =>
    committing (UserRepository.rename userId displayName authorization)
  | unbindIdentity identityId => committing (UserRepository.unbindIdentity identityId authorization)
  | grant subjectUserId action =>
    committing (GrantRepository.grant subjectUserId action authorization)
  | revoke subjectUserId action =>
    committing (GrantRepository.revoke subjectUserId action authorization)
  | createRun job scheduledFor =>
    committing (ScheduledJobRepository.createRun platform job scheduledFor authorization)

/-- Every stored record that differs afterwards belongs to the owner. -/
def OwnRecordsOnly (ownerUserId : String) (db db' : Database) : Prop :=
  ∀ kind id owner, db.ownerOf kind id = some owner →
    db'.stored kind id ≠ db.stored kind id → owner = ownerUserId

/-- **A write that keeps to its owner**: each stored record that it changes, or attaches something
to, belongs to the owner of the record it was authorized for. -/
def WritesOwnRecords (platform : Platform) (write : RepositoryWrite)
    (authorization : AuthorizedAction) (db : Database) : Prop :=
  OwnRecordsOnly authorization.resource.ownerUserId db
    ((write.perform platform authorization).exec db).2

/-! ### When a write keeps to its owner -/

/-- The row of an important day after an update. -/
def AnniversaryRepository.rewritten (anniversary row : Anniversary) : Anniversary :=
  { row with
    title := anniversary.title
    anchorDate := anniversary.anchorDate
    timezone := anniversary.timezone
    classification := anniversary.classification
    kind := anniversary.kind
    calendar := anniversary.calendar
    lunarMonth := anniversary.lunarMonth
    lunarDay := anniversary.lunarDay
    lunarLeap := anniversary.lunarLeap
    advanceDays := anniversary.advanceDays }

/-- The row of a briefing after an update. -/
def DailyBriefingRepository.rewritten (briefing : DailyBriefing) (now : Instant)
    (row : DailyBriefing) : DailyBriefing :=
  { row with
    targetRef := briefing.targetRef
    timeOfDay := briefing.timeOfDay.toMinutes
    timezone := briefing.timezone
    classification := briefing.classification
    enabled := briefing.enabled
    updatedAt := some now }

/-- The row of a notification rule after an update. -/
def AgendaNotificationRepository.rewritten (rule row : AgendaNotificationRule) :
    AgendaNotificationRule :=
  { row with
    targetRef := rule.targetRef
    timeOfDay := rule.timeOfDay.toMinutes
    dayOffset := rule.dayOffset
    text := rule.text
    timezone := rule.timezone
    classification := rule.classification
    enabled := rule.enabled }

/-- The row that `add_exception` writes for an exception, when it can be written. -/
def AgendaRepository.writtenException (zones : TimeZones) (itemId : String)
    (exception : RecurrenceException) : Option ExceptionRow :=
  match exception.occurrenceAt.dump zones, dumpOptional zones exception.replacementStart,
      dumpOptional zones exception.replacementEnd with
  | .ok occurrenceAt, .ok replacementStart, .ok replacementEnd =>
    exceptionRow? itemId occurrenceAt exception.action replacementStart replacementEnd
  | _, _, _ => none

/-- **The condition.** Where a write names the owner it was authorized for in its statement, or
compares the stored owner with it, nothing is asked. Elsewhere the record that is stored under the
id has to be the owner's, unless the authorization does not match the arguments or what would be
written is there already. -/
def OwnerBound (platform : Platform) (authorization : AuthorizedAction) (db : Database) :
    RepositoryWrite → Prop
  | .updateAgenda .. | .updateTask .. | .deleteTask .. | .updateNote .. | .deleteNote ..
  | .cancel .. | .acknowledge .. | .snooze .. | .unbindIdentity .. => True
  | .deleteAgenda itemId =>
    -- the rules of the item go with it
    ∀ item, db.agendaItems.find? itemId = some item →
      item.ownerUserId = authorization.resource.ownerUserId →
      requireAuthorization authorization .delete "agenda" itemId authorization.resource.ownerUserId
        authorization.resource.classification = .ok ⟨⟩ →
      ∀ rule ∈ db.agendaNotificationRules.rows, rule.agendaItemId = itemId →
        rule.ownerUserId = authorization.resource.ownerUserId
  | .addException itemId exception =>
    ∀ item, db.agendaItems.find? itemId = some item →
      requireAuthorization authorization .update "agenda" itemId authorization.resource.ownerUserId
        authorization.resource.classification = .ok ⟨⟩ →
      ∀ row, AgendaRepository.writtenException platform.zones itemId exception = some row →
        db.recurrenceExceptions.find? row.key ≠ some row →
        item.ownerUserId = authorization.resource.ownerUserId
  | .updateNotification rule =>
    ∀ row, db.agendaNotificationRules.find? rule.id = some row →
      requireAuthorization authorization .update "agenda_notification" rule.id rule.ownerUserId
        rule.classification = .ok ⟨⟩ →
      AgendaNotificationRepository.rewritten rule row ≠ row →
      row.ownerUserId = authorization.resource.ownerUserId
  | .deleteNotification ruleId =>
    ∀ row, db.agendaNotificationRules.find? ruleId = some row →
      requireAuthorization authorization .delete "agenda_notification" ruleId
        authorization.resource.ownerUserId authorization.resource.classification = .ok ⟨⟩ →
      row.ownerUserId = authorization.resource.ownerUserId
  | .updateAnniversary anniversary =>
    ∀ row, db.anniversaries.find? anniversary.id = some row →
      requireAuthorization authorization .update "anniversary" anniversary.id
        anniversary.ownerUserId anniversary.classification = .ok ⟨⟩ →
      AnniversaryRepository.rewritten anniversary row ≠ row →
      row.ownerUserId = authorization.resource.ownerUserId
  | .deleteAnniversary anniversaryId =>
    ∀ row, db.anniversaries.find? anniversaryId = some row →
      requireAuthorization authorization .delete "anniversary" anniversaryId
        authorization.resource.ownerUserId authorization.resource.classification = .ok ⟨⟩ →
      row.ownerUserId = authorization.resource.ownerUserId
  | .updateBriefing briefing now =>
    ∀ row, db.dailyBriefings.find? briefing.id = some row →
      requireAuthorization authorization .update "daily_briefing" briefing.id briefing.ownerUserId
        briefing.classification = .ok ⟨⟩ →
      DailyBriefingRepository.rewritten briefing now row ≠ row →
      row.ownerUserId = authorization.resource.ownerUserId
  | .deleteBriefing briefingId =>
    ∀ row, db.dailyBriefings.find? briefingId = some row →
      requireAuthorization authorization .delete "daily_briefing" briefingId
        authorization.resource.ownerUserId authorization.resource.classification = .ok ⟨⟩ →
      row.ownerUserId = authorization.resource.ownerUserId
  | .rename userId displayName =>
    -- the authorization is not looked at
    ∀ user, db.users.find? userId = some user →
      ∀ name, UserRepository.cleaned displayName = .ok name → name ≠ user.displayName →
        userId = authorization.resource.ownerUserId
  | .grant subjectUserId action =>
    ∀ kind owner, kind.name = authorization.resource.kind →
      db.ownerOf kind authorization.resource.id = some owner →
      authorization.action = .grant →
      GrantRepository.hasGrant db subjectUserId action authorization.resource = false →
      db.hasUser subjectUserId = true → db.hasUser authorization.actorUserId = true →
      owner = authorization.resource.ownerUserId
  | .revoke subjectUserId action =>
    ∀ kind owner, kind.name = authorization.resource.kind →
      db.ownerOf kind authorization.resource.id = some owner →
      authorization.action = .grant →
      GrantRepository.hasGrant db subjectUserId action authorization.resource = true →
      owner = authorization.resource.ownerUserId
  | .createRun job scheduledFor =>
    ∀ row, db.scheduledJobs.find? job.id = some row →
      requireAuthorization authorization .update "scheduled_job" job.id job.ownerUserId .personal =
        .ok ⟨⟩ →
      ∀ time, scheduledFor.dump platform.zones = .ok time →
        (ScheduledJobRepository.noted? platform job.id time db).isSome = true →
        (∃ run, ScheduledJobRepository.runFromRow
          (ScheduledJobRepository.pendingRun platform job.id time) = .ok run) →
        row.ownerUserId = authorization.resource.ownerUserId

/-! ### One record -/

namespace OwnRecordsOnly

variable {owner : String} {db db' : Database}

theorem refl (owner : String) (db : Database) : OwnRecordsOnly owner db db :=
  fun _ _ _ _ hchanged => absurd rfl hchanged

/-- The audit log is not part of any record. -/
theorem auditAction_iff (authorization : AuthorizedAction) (reasonCode : String) :
    OwnRecordsOnly owner db (db'.auditAction authorization reasonCode) ↔
      OwnRecordsOnly owner db db' := by
  unfold OwnRecordsOnly
  simp only [Database.stored_auditAction]

/-- A transaction is judged by what it commits. -/
theorem committing_iff {α : Type} {t : Transaction Database PyError α} :
    OwnRecordsOnly owner db ((committing t).exec db).2 ↔
      ∀ a db', t db = .ok (a, db') → OwnRecordsOnly owner db db' := by
  unfold committing
  rw [Effect.exec_map, Effect.exec_atomically, StateT.run]
  cases ht : t db with
  | error err => exact ⟨fun _ _ _ h => (by cases h), fun _ => refl owner db⟩
  | ok outcome =>
    obtain ⟨a, db'⟩ := outcome
    constructor
    · intro h a' db'' hout
      obtain ⟨rfl, rfl⟩ := Prod.mk.inj (Except.ok.inj hout)
      exact h
    · exact fun h => h a db' rfl

end OwnRecordsOnly

/-- At most the record of one reference differs. -/
def TouchesOnly (kind : RecordKind) (id : String) (db db' : Database) : Prop :=
  ∀ k i, k ≠ kind ∨ i ≠ id → db'.stored k i = db.stored k i

/-- Where one record may differ, the question is about that record. -/
theorem TouchesOnly.ownRecordsOnly_iff {kind : RecordKind} {id owner : String} {db db' : Database}
    (h : TouchesOnly kind id db db') :
    OwnRecordsOnly owner db db' ↔
      ∀ o, db.ownerOf kind id = some o → db'.stored kind id ≠ db.stored kind id → o = owner := by
  constructor
  · exact fun hown o => hown kind id o
  · intro hone k i o howner hchanged
    by_cases hkind : k = kind
    · by_cases hid : i = id
      · subst hkind hid
        exact hone o howner hchanged
      · exact absurd (h k i (.inr hid)) hchanged
    · exact absurd (h k i (.inl hkind)) hchanged

/-! ### A table of records by id -/

/-- A table holds the records of a kind, and nothing else of any record. -/
structure Holds (kind : RecordKind) {ρ : Type} {key : ρ → String} (slot : Slot key)
    (owner : ρ → String) : Prop where
  ownerOf : ∀ db id, db.ownerOf kind id = ((slot.table db).find? id).map owner
  others : ∀ db T k id, k ≠ kind → (slot.set db T).stored k id = db.stored k id
  self : ∀ db T id, (slot.set db T).stored kind id = db.stored kind id ↔
    T.find? id = (slot.table db).find? id

namespace Holds

variable {kind : RecordKind} {ρ : Type} {key : ρ → String} {slot : Slot key} {owner : ρ → String}
  {i o : String} {db : Database}

/-- A table whose rows under other ids are the same. -/
theorem touchesOnly (h : Holds kind slot owner) {T : Table ρ key}
    (hT : ∀ j, j ≠ i → T.find? j = (slot.table db).find? j) :
    TouchesOnly kind i db (slot.set db T) := by
  intro k j hne
  by_cases hkind : k = kind
  · subst hkind
    refine (h.self db T j).mpr (hT j ?_)
    exact hne.resolve_left (not_not.mpr rfl)
  · exact h.others db T k j hkind

/-- What a statement on the row of one i has to say of its owner. -/
theorem ownRecordsOnly_iff (h : Holds kind slot owner) {T : Table ρ key}
    (hT : ∀ j, j ≠ i → T.find? j = (slot.table db).find? j) :
    OwnRecordsOnly o db (slot.set db T) ↔
      ∀ row, (slot.table db).find? i = some row → T.find? i ≠ some row → owner row = o := by
  rw [(h.touchesOnly hT).ownRecordsOnly_iff, h.ownerOf]
  constructor
  · intro hone row hrow hne
    refine hone (owner row) (by rw [hrow]; rfl) fun hsame => hne ?_
    rw [(h.self db T i).mp hsame, hrow]
  · intro hrows o' howner hchanged
    obtain ⟨row, hrow, rfl⟩ := Option.map_eq_some_iff.mp howner
    refine hrows row hrow fun hfind => hchanged ((h.self db T i).mpr ?_)
    rw [hfind, hrow]

/-- **An update of one row.** It keeps to the owner when the row it finds is the owner's, or stays
as it is. -/
theorem update_iff (h : Holds kind slot owner) {p q : ρ → Bool}
    (hp : ∀ r, p r = (decide (key r = i) && q r)) {f : ρ → ρ} {hf : ∀ r, key (f r) = key r}
    {refusal : PyError} {authorization : AuthorizedAction} :
    (∀ u db', updateOne slot p f hf refusal id authorization db = .ok (u, db') →
      OwnRecordsOnly o db db') ↔
      ∀ row, (slot.table db).find? i = some row → q row = true → f row ≠ row → owner row = o := by
  obtain rfl : p = fun r => decide (key r = i) && q r := funext hp
  have hfind : ∀ j, ((slot.table db).updateWhere (fun r => decide (key r = i) && q r) f hf).find? j
      = ((slot.table db).find? j).map fun r => if decide (key r = i) && q r then f r else r :=
    Table.find?_updateWhere _ _ f hf
  have hothers : ∀ j, j ≠ i →
      ((slot.table db).updateWhere (fun r => decide (key r = i) && q r) f hf).find? j =
        (slot.table db).find? j := by
    intro j hne
    refine Table.find?_updateWhere_of_not fun r hr => ?_
    simp [hr, hne]
  constructor
  · intro hcommitted row hrow hq hchanged
    have hcount := Table.count_key hrow hq
    have hown := hcommitted ⟨⟩ _ (by unfold updateOne; rw [if_neg (not_not.mpr hcount)])
    rw [OwnRecordsOnly.auditAction_iff, id_eq, h.ownRecordsOnly_iff hothers] at hown
    refine hown row hrow ?_
    rw [hfind, hrow]
    simpa [Table.key_of_find? hrow, hq] using hchanged
  · intro hrows u db' hrun
    unfold updateOne at hrun
    by_cases hcount : (slot.table db).count (fun r => decide (key r = i) && q r) = 1
    · rw [if_neg (not_not.mpr hcount)] at hrun
      obtain rfl := (Prod.mk.inj (Except.ok.inj hrun)).2
      rw [OwnRecordsOnly.auditAction_iff, id_eq, h.ownRecordsOnly_iff hothers]
      intro row hrow hchanged
      obtain ⟨row', hrow', hq⟩ := Table.exists_of_count_key hcount
      obtain rfl := Option.some.inj (hrow.symm.trans hrow')
      rw [hfind, hrow] at hchanged
      refine hrows row hrow hq fun hsame => hchanged ?_
      simp [Table.key_of_find? hrow, hq, hsame]
    · rw [if_pos hcount] at hrun
      cases hrun

/-- **A deletion of one row.** It keeps to the owner when the row it finds is the owner's. -/
theorem delete_iff (h : Holds kind slot owner) {p q : ρ → Bool}
    (hp : ∀ r, p r = (decide (key r = i) && q r)) {refusal : PyError}
    {authorization : AuthorizedAction} :
    (∀ u db', deleteOne slot p refusal authorization db = .ok (u, db') → OwnRecordsOnly o db db') ↔
      ∀ row, (slot.table db).find? i = some row → q row = true → owner row = o := by
  obtain rfl : p = fun r => decide (key r = i) && q r := funext hp
  have hfind : ∀ j, ((slot.table db).deleteWhere fun r => decide (key r = i) && q r).find? j =
      ((slot.table db).find? j).filter fun r => !(decide (key r = i) && q r) :=
    Table.find?_deleteWhere _ _
  have hothers : ∀ j, j ≠ i →
      ((slot.table db).deleteWhere fun r => decide (key r = i) && q r).find? j =
        (slot.table db).find? j := by
    intro j hne
    refine Table.find?_deleteWhere_of_not fun r hr => ?_
    simp [hr, hne]
  constructor
  · intro hcommitted row hrow hq
    have hcount := Table.count_key hrow hq
    have hown := hcommitted ⟨⟩ _ (by unfold deleteOne; rw [if_neg (not_not.mpr hcount)])
    rw [OwnRecordsOnly.auditAction_iff, h.ownRecordsOnly_iff hothers] at hown
    refine hown row hrow ?_
    rw [hfind, hrow]
    simp [Table.key_of_find? hrow, hq]
  · intro hrows u db' hrun
    unfold deleteOne at hrun
    by_cases hcount : (slot.table db).count (fun r => decide (key r = i) && q r) = 1
    · rw [if_neg (not_not.mpr hcount)] at hrun
      obtain rfl := (Prod.mk.inj (Except.ok.inj hrun)).2
      rw [OwnRecordsOnly.auditAction_iff, h.ownRecordsOnly_iff hothers]
      intro row hrow _
      obtain ⟨row', hrow', hq⟩ := Table.exists_of_count_key hcount
      obtain rfl := Option.some.inj (hrow.symm.trans hrow')
      exact hrows row hrow hq
    · rw [if_pos hcount] at hrun
      cases hrun

end Holds

theorem holds_tasks : Holds .task TaskRepository.slot TaskRow.ownerUserId where
  ownerOf := fun _ _ => rfl
  others := fun db T k id hne => by cases k <;> first | rfl | exact absurd rfl hne
  self := fun db T id =>
    ⟨fun h => congrArg RecordContents.row h, fun h => congrArg (fun row => RecordContents.mk row _) h⟩

theorem holds_notes : Holds .note NoteRepository.slot Note.ownerUserId where
  ownerOf := fun _ _ => rfl
  others := fun db T k id hne => by cases k <;> first | rfl | exact absurd rfl hne
  self := fun db T id =>
    ⟨fun h => congrArg RecordContents.row h, fun h => congrArg (fun row => RecordContents.mk row _) h⟩

theorem holds_anniversaries :
    Holds .anniversary AnniversaryRepository.slot Anniversary.ownerUserId where
  ownerOf := fun _ _ => rfl
  others := fun db T k id hne => by cases k <;> first | rfl | exact absurd rfl hne
  self := fun db T id =>
    ⟨fun h => congrArg RecordContents.row h, fun h => congrArg (fun row => RecordContents.mk row _) h⟩

theorem holds_briefings :
    Holds .dailyBriefing DailyBriefingRepository.slot DailyBriefing.ownerUserId where
  ownerOf := fun _ _ => rfl
  others := fun db T k id hne => by cases k <;> first | rfl | exact absurd rfl hne
  self := fun db T id =>
    ⟨fun h => congrArg RecordContents.row h, fun h => congrArg (fun row => RecordContents.mk row _) h⟩

theorem holds_notifications :
    Holds .agendaNotification AgendaNotificationRepository.slot
      AgendaNotificationRule.ownerUserId where
  ownerOf := fun _ _ => rfl
  others := fun db T k id hne => by cases k <;> first | rfl | exact absurd rfl hne
  self := fun db T id =>
    ⟨fun h => congrArg RecordContents.row h, fun h => congrArg (fun row => RecordContents.mk row _) h⟩

theorem holds_users :
    Holds .user (⟨Database.users, fun db users => { db with users }⟩ : Slot UserRow.id)
      UserRow.id where
  ownerOf := fun _ _ => rfl
  others := fun db T k id hne => by cases k <;> first | rfl | exact absurd rfl hne
  self := fun db T id =>
    ⟨fun h => congrArg RecordContents.row h, fun h => congrArg (fun row => RecordContents.mk row _) h⟩

theorem holds_identities :
    Holds .externalIdentity (⟨Database.externalIdentities, fun db externalIdentities =>
      { db with externalIdentities }⟩ : Slot ExternalIdentity.id) ExternalIdentity.userId where
  ownerOf := fun _ _ => rfl
  others := fun db T k id hne => by cases k <;> first | rfl | exact absurd rfl hne
  self := fun db T id =>
    ⟨fun h => congrArg RecordContents.row h, fun h => congrArg (fun row => RecordContents.mk row _) h⟩

theorem holds_reminders :
    Holds .reminder (⟨Database.reminders, fun db reminders => { db with reminders }⟩ :
      Slot Reminder.id) Reminder.ownerUserId where
  ownerOf := fun _ _ => rfl
  others := fun db T k id hne => by cases k <;> first | rfl | exact absurd rfl hne
  self := fun db T id =>
    ⟨fun h => congrArg RecordContents.row h, fun h => congrArg (fun row => RecordContents.mk row _) h⟩

/-! ### The writes, one by one -/

/-- An authorization that matches a write names the owner of the record in it. -/
theorem requireAuthorization_owner {authorization : AuthorizedAction} {action : Action}
    {kind id owner : String} {classification : DataClassification} {u : Unit}
    (h : requireAuthorization authorization action kind id owner classification = .ok u) :
    authorization.resource.ownerUserId = owner :=
  (ResourceRef.checked_ok.mp (requireAuthorization_ok.mp h).2).2.2.1

section Writes

variable {platform : Platform} {authorization : AuthorizedAction} {db : Database}

/-- A transaction that compares the authorization before anything else. -/
theorem guarded_iff {α : Type} {guard : Except PyError Unit}
    {t : Except PyError (α × Database)} {owner : String} :
    (∀ a db', (do guard; t : Except PyError (α × Database)) = .ok (a, db') →
      OwnRecordsOnly owner db db') ↔
      (guard = .ok ⟨⟩ → ∀ a db', t = .ok (a, db') → OwnRecordsOnly owner db db') := by
  constructor
  · exact fun h hguard a db' ht => h a db' (bind_eq_ok.mpr ⟨⟨⟩, hguard, ht⟩)
  · intro h a db' hrun
    obtain ⟨_, hguard, ht⟩ := bind_eq_ok.mp hrun
    exact h hguard a db' ht

/-- The record a write returns does not matter. -/
theorem returning_iff {α β : Type} {t : Except PyError (β × Database)} {record : α}
    {owner : String} :
    (∀ a db', (do let (_, db') ← t; return (record, db') : Except PyError (α × Database)) =
      .ok (a, db') → OwnRecordsOnly owner db db') ↔
      ∀ b db', t = .ok (b, db') → OwnRecordsOnly owner db db' := by
  constructor
  · exact fun h b db' ht => h record db' (bind_eq_ok.mpr ⟨(b, db'), ht, rfl⟩)
  · intro h a db' hrun
    obtain ⟨⟨b, db''⟩, ht, hout⟩ := bind_eq_ok.mp hrun
    obtain ⟨-, rfl⟩ := Prod.mk.inj (Except.ok.inj hout)
    exact h b db'' ht

/-- **Important days**: an update looks for the id only. -/
theorem updateAnniversary_iff (anniversary : Anniversary) :
    WritesOwnRecords platform (.updateAnniversary anniversary) authorization db ↔
      OwnerBound platform authorization db (.updateAnniversary anniversary) := by
  unfold WritesOwnRecords RepositoryWrite.perform
  rw [OwnRecordsOnly.committing_iff]
  unfold AnniversaryRepository.update
  rw [guarded_iff, returning_iff, holds_anniversaries.update_iff (i := anniversary.id)
    (q := fun _ => true) (by simp)]
  constructor
  · exact fun h row hrow hauthorized hchanged => h hauthorized row hrow rfl hchanged
  · exact fun h hauthorized row hrow _ hchanged => h row hrow hauthorized hchanged

/-- **Briefings**: an update looks for the id only. -/
theorem updateBriefing_iff (briefing : DailyBriefing) (now : Instant) :
    WritesOwnRecords platform (.updateBriefing briefing now) authorization db ↔
      OwnerBound platform authorization db (.updateBriefing briefing now) := by
  unfold WritesOwnRecords RepositoryWrite.perform
  rw [OwnRecordsOnly.committing_iff]
  unfold DailyBriefingRepository.update
  rw [guarded_iff, returning_iff, holds_briefings.update_iff (i := briefing.id)
    (q := fun _ => true) (by simp)]
  constructor
  · exact fun h row hrow hauthorized hchanged => h hauthorized row hrow rfl hchanged
  · exact fun h hauthorized row hrow _ hchanged => h row hrow hauthorized hchanged

/-- **Notification rules**: an update looks for the id only. -/
theorem updateNotification_iff (rule : AgendaNotificationRule) :
    WritesOwnRecords platform (.updateNotification rule) authorization db ↔
      OwnerBound platform authorization db (.updateNotification rule) := by
  unfold WritesOwnRecords RepositoryWrite.perform
  rw [OwnRecordsOnly.committing_iff]
  unfold AgendaNotificationRepository.update
  rw [guarded_iff, returning_iff, holds_notifications.update_iff (i := rule.id)
    (q := fun _ => true) (by simp)]
  constructor
  · exact fun h row hrow hauthorized hchanged => h hauthorized row hrow rfl hchanged
  · exact fun h hauthorized row hrow _ hchanged => h row hrow hauthorized hchanged

/-- **Important days**: a deletion looks for the id only. -/
theorem deleteAnniversary_iff (anniversaryId : String) :
    WritesOwnRecords platform (.deleteAnniversary anniversaryId) authorization db ↔
      OwnerBound platform authorization db (.deleteAnniversary anniversaryId) := by
  unfold WritesOwnRecords RepositoryWrite.perform
  rw [OwnRecordsOnly.committing_iff]
  unfold AnniversaryRepository.delete
  rw [guarded_iff, holds_anniversaries.delete_iff (i := anniversaryId) (q := fun _ => true)
    (by simp)]
  constructor
  · exact fun h row hrow hauthorized => h hauthorized row hrow rfl
  · exact fun h hauthorized row hrow _ => h row hrow hauthorized

/-- **Briefings**: a deletion looks for the id only. -/
theorem deleteBriefing_iff (briefingId : String) :
    WritesOwnRecords platform (.deleteBriefing briefingId) authorization db ↔
      OwnerBound platform authorization db (.deleteBriefing briefingId) := by
  unfold WritesOwnRecords RepositoryWrite.perform
  rw [OwnRecordsOnly.committing_iff]
  unfold DailyBriefingRepository.delete
  rw [guarded_iff, holds_briefings.delete_iff (i := briefingId) (q := fun _ => true) (by simp)]
  constructor
  · exact fun h row hrow hauthorized => h hauthorized row hrow rfl
  · exact fun h hauthorized row hrow _ => h row hrow hauthorized

/-- The deletion of a notification rule is the deletion of one row. -/
theorem deleteNotification_eq (ruleId : String) :
    AgendaNotificationRepository.delete ruleId authorization db = (do
      requireAuthorization authorization .delete "agenda_notification" ruleId
        authorization.resource.ownerUserId authorization.resource.classification
      deleteOne AgendaNotificationRepository.slot (fun r => r.id = ruleId)
        (.notFound "agenda notification rule was not found") authorization db) := by
  unfold AgendaNotificationRepository.delete
  refine congrArg (bind _) (funext fun _ => ?_)
  show (raiseIf ((AgendaNotificationRepository.slot.table db).count (fun r => r.id = ruleId) ≠ 1)
    _ >>= _) = _
  unfold deleteOne raiseIf
  split_ifs <;> rfl

/-- **Notification rules**: a deletion looks for the id only. -/
theorem deleteNotification_iff (ruleId : String) :
    WritesOwnRecords platform (.deleteNotification ruleId) authorization db ↔
      OwnerBound platform authorization db (.deleteNotification ruleId) := by
  unfold WritesOwnRecords RepositoryWrite.perform
  rw [OwnRecordsOnly.committing_iff]
  simp only [deleteNotification_eq]
  rw [guarded_iff, holds_notifications.delete_iff (i := ruleId) (q := fun _ => true) (by simp)]
  constructor
  · exact fun h row hrow hauthorized => h hauthorized row hrow rfl
  · exact fun h hauthorized row hrow _ => h row hrow hauthorized

/-- **Tasks**: both writes name the owner in their statement. -/
theorem updateTask_owned (task : Task) (expectedVersion : Int) :
    WritesOwnRecords platform (.updateTask task expectedVersion) authorization db := by
  refine OwnRecordsOnly.committing_iff.mpr fun _ db' hrun => ?_
  unfold TaskRepository.update at hrun
  obtain ⟨_, hauthorized, hrun⟩ := bind_eq_ok.mp hrun
  obtain ⟨-, hrun⟩ := raiseIf_bind_ok.mp hrun
  obtain ⟨_, -, hrun⟩ := bind_eq_ok.mp hrun
  obtain ⟨⟨_, db''⟩, hupdate, hout⟩ := bind_eq_ok.mp hrun
  obtain ⟨-, rfl⟩ := Prod.mk.inj (Except.ok.inj hout)
  refine (holds_tasks.update_iff (fun _ => rfl)).mpr (fun row _ hq _ => ?_) _ _ hupdate
  rw [requireAuthorization_owner hauthorized]
  exact of_decide_eq_true (Bool.and_eq_true _ _ ▸ hq).1

theorem deleteTask_owned (taskId : String) :
    WritesOwnRecords platform (.deleteTask taskId) authorization db := by
  refine OwnRecordsOnly.committing_iff.mpr fun _ db' hrun => ?_
  unfold TaskRepository.delete at hrun
  obtain ⟨_, -, hdelete⟩ := bind_eq_ok.mp hrun
  refine (holds_tasks.delete_iff (fun _ => rfl)).mpr (fun row _ hq => ?_) _ _ hdelete
  exact of_decide_eq_true hq

/-- **Notes**: both writes name the owner in their statement. -/
theorem updateNote_owned (note : Note) (expectedVersion : Int) :
    WritesOwnRecords platform (.updateNote note expectedVersion) authorization db := by
  refine OwnRecordsOnly.committing_iff.mpr fun _ db' hrun => ?_
  unfold NoteRepository.update at hrun
  obtain ⟨_, hauthorized, hrun⟩ := bind_eq_ok.mp hrun
  obtain ⟨-, hrun⟩ := raiseIf_bind_ok.mp hrun
  obtain ⟨⟨_, db''⟩, hupdate, hout⟩ := bind_eq_ok.mp hrun
  obtain ⟨-, rfl⟩ := Prod.mk.inj (Except.ok.inj hout)
  refine (holds_notes.update_iff (fun _ => rfl)).mpr (fun row _ hq _ => ?_) _ _ hupdate
  rw [requireAuthorization_owner hauthorized]
  exact of_decide_eq_true (Bool.and_eq_true _ _ ▸ hq).1

theorem deleteNote_owned (noteId : String) :
    WritesOwnRecords platform (.deleteNote noteId) authorization db := by
  refine OwnRecordsOnly.committing_iff.mpr fun _ db' hrun => ?_
  unfold NoteRepository.delete at hrun
  obtain ⟨_, -, hdelete⟩ := bind_eq_ok.mp hrun
  refine (holds_notes.delete_iff (fun _ => rfl)).mpr (fun row _ hq => ?_) _ _ hdelete
  exact of_decide_eq_true hq

/-- **Users**: a rename looks for the id only, and not at the authorization. -/
theorem rename_iff (userId displayName : String) :
    WritesOwnRecords platform (.rename userId displayName) authorization db ↔
      OwnerBound platform authorization db (.rename userId displayName) := by
  unfold WritesOwnRecords RepositoryWrite.perform
  rw [OwnRecordsOnly.committing_iff]
  have hrenamed : ∀ name, OwnRecordsOnly authorization.resource.ownerUserId db
      { db with
        users := db.users.updateWhere (fun r => r.id = userId) fun r => { r with displayName := name } } ↔
      ∀ user, db.users.find? userId = some user → name ≠ user.displayName →
        userId = authorization.resource.ownerUserId := by
    intro name
    have hfind : ∀ j, (db.users.updateWhere (fun r => r.id = userId)
        fun r => { r with displayName := name }).find? j =
        if j = userId then (db.users.find? j).map fun r => { r with displayName := name }
        else db.users.find? j := Table.find?_updateKey _ (by intro _; rfl)
    have hiff := @Holds.ownRecordsOnly_iff _ _ _ _ _ userId authorization.resource.ownerUserId db
      holds_users _ fun j hne => (hfind j).trans (if_neg hne)
    refine hiff.trans ⟨fun h user huser hname => ?_, fun h user huser hchanged => ?_⟩
    · rw [← Table.key_of_find? huser]
      refine h user huser ?_
      rw [hfind, if_pos rfl, huser]
      intro hsame
      exact hname (congrArg UserRow.displayName (Option.some.inj hsame))
    · rw [Table.key_of_find? huser]
      refine h user huser fun hname => hchanged ?_
      rw [hfind, if_pos rfl, huser, hname]
      rfl
  unfold UserRepository.rename
  constructor
  · intro h user huser name hname hchanged
    have hown := h true _ (bind_eq_ok.mpr ⟨name, hname, by rw [huser]; rfl⟩)
    rw [OwnRecordsOnly.auditAction_iff] at hown
    exact (hrenamed name).mp hown user huser hchanged
  · intro h _ db' hrun
    obtain ⟨name, hname, hrun⟩ := bind_eq_ok.mp hrun
    cases huser : db.users.find? userId with
    | none =>
      rw [huser] at hrun
      obtain ⟨-, rfl⟩ := Prod.mk.inj (Except.ok.inj hrun)
      exact OwnRecordsOnly.refl _ db
    | some user =>
      rw [huser] at hrun
      obtain ⟨-, rfl⟩ := Prod.mk.inj (Except.ok.inj hrun)
      rw [OwnRecordsOnly.auditAction_iff]
      exact (hrenamed name).mpr fun user huser => h user huser name hname

/-- **Identities**: the stored owner is compared before anything is deleted. -/
theorem unbindIdentity_owned (identityId : String) :
    WritesOwnRecords platform (.unbindIdentity identityId) authorization db := by
  refine OwnRecordsOnly.committing_iff.mpr fun _ db' hrun => ?_
  unfold UserRepository.unbindIdentity at hrun
  obtain ⟨_, -, hrun⟩ := bind_eq_ok.mp hrun
  cases hrow : db.externalIdentities.find? identityId with
  | none =>
    rw [hrow] at hrun
    obtain ⟨-, rfl⟩ := Prod.mk.inj (Except.ok.inj hrun)
    exact fun kind id owner _ hchanged => absurd (Database.stored_audit _ _ _ _) hchanged
  | some row =>
    rw [hrow] at hrun
    obtain ⟨howner, hrun⟩ := raiseIf_bind_ok.mp hrun
    obtain ⟨-, rfl⟩ := Prod.mk.inj (Except.ok.inj hrun)
    rw [OwnRecordsOnly.auditAction_iff]
    refine (holds_identities.ownRecordsOnly_iff (i := identityId) fun j hne => ?_).mpr
      fun row' hrow' _ => ?_
    · exact (Table.find?_deleteKey _ identityId j).trans (if_neg hne)
    · obtain rfl := Option.some.inj (hrow.symm.trans hrow')
      exact not_not.mp howner

/-- A change of a reminder's status that went through was authorized for the stored owner. -/
theorem changeStatus_owned {reminderId : String} {expectedVersion : Int}
    {available : ReminderStatus → Bool} {set : Reminder → Reminder}
    {hset : ∀ r, (set r).id = r.id} {refusal reasonCode : String} :
    OwnRecordsOnly authorization.resource.ownerUserId db
      ((ReminderRepository.changeStatus platform.zones reminderId expectedVersion authorization
        available set hset refusal reasonCode).exec db).2 := by
  unfold ReminderRepository.changeStatus
  rw [Effect.exec_bind, Effect.exec_query]
  cases hget : ReminderRepository.get platform.zones reminderId db with
  | error err => exact OwnRecordsOnly.refl _ db
  | ok found =>
    cases found with
    | none => exact OwnRecordsOnly.refl _ db
    | some existing =>
      simp only
      rw [Effect.exec_check_bind]
      cases hauthorized : requireAuthorization authorization .update "reminder" existing.id
          existing.ownerUserId existing.classification with
      | error err => exact OwnRecordsOnly.refl _ db
      | ok _ =>
        simp only
        rw [Effect.exec_bind, Effect.exec_atomically, StateT.run]
        cases hrow : ReminderRepository.changeRow reminderId expectedVersion authorization available
            set hset refusal reasonCode db with
        | error err => exact OwnRecordsOnly.refl _ db
        | ok committed =>
          obtain ⟨_, db'⟩ := committed
          simp only [ReminderRepository.exec_reload]
          unfold ReminderRepository.changeRow at hrow
          dsimp only at hrow
          split_ifs at hrow
          obtain ⟨-, rfl⟩ := Prod.mk.inj (Except.ok.inj hrow)
          rw [OwnRecordsOnly.auditAction_iff]
          refine (holds_reminders.ownRecordsOnly_iff (i := reminderId) fun j hne => ?_).mpr
            fun row hfind _ => ?_
          · exact Table.find?_updateWhere_of_not fun r hr => by simp [hr, hne]
          · -- the row whose owner the authorization was compared with
            have hfound : db.reminders.find? reminderId = some row := hfind
            rw [ReminderRepository.get, hfound] at hget
            obtain ⟨r, hr, hsome⟩ := bind_eq_ok.mp hget
            obtain ⟨-, rfl⟩ := ReminderRepository.fromRow_ok hr
            obtain rfl := Option.some.inj (Except.ok.inj hsome)
            exact (requireAuthorization_owner hauthorized).symm

/-- **Reminders**: the stored owner is read and compared. -/
theorem cancel_owned (reminderId : String) (expectedVersion : Int) :
    WritesOwnRecords platform (.cancel reminderId expectedVersion) authorization db := by
  unfold WritesOwnRecords RepositoryWrite.perform
  rw [Effect.exec_map]
  exact changeStatus_owned

theorem acknowledge_owned (reminderId : String) (expectedVersion : Int) :
    WritesOwnRecords platform (.acknowledge reminderId expectedVersion) authorization db := by
  unfold WritesOwnRecords RepositoryWrite.perform
  rw [Effect.exec_map]
  exact changeStatus_owned

theorem snooze_owned (reminderId : String) (fireAt : Instant) (expectedVersion : Int) :
    WritesOwnRecords platform (.snooze reminderId fireAt expectedVersion) authorization db := by
  unfold WritesOwnRecords RepositoryWrite.perform
  rw [Effect.exec_map]
  unfold ReminderRepository.snooze
  rw [Effect.exec_check_bind]
  cases raiseIf (fireAt ≤ authorization.authorizedAt)
      (PyError.validation "snooze time must be in the future") with
  | error err => exact OwnRecordsOnly.refl _ db
  | ok _ => exact changeStatus_owned

/-! ### Agenda items -/

/-- The recurrence of an item is written under the item. -/
theorem touchesOnly_updateAgenda {T : Table AgendaRow AgendaRow.id} {item : AgendaItem}
    (hT : ∀ j, j ≠ item.id → T.find? j = db.agendaItems.find? j) :
    TouchesOnly .agenda item.id db
      (AgendaRepository.writeRecurrence item { db with agendaItems := T }) := by
  have hrules : ∀ j, j ≠ item.id →
      (AgendaRepository.writeRecurrence item
        { db with agendaItems := T }).recurrenceRules.find? j = db.recurrenceRules.find? j := by
    intro j hne
    unfold AgendaRepository.writeRecurrence
    cases item.recurrence with
    | none => exact (Table.find?_deleteKey _ item.id j).trans (if_neg hne)
    | some recurrence => exact (Table.find?_upsert _ _ _ _ j).trans (if_neg hne)
  have hitems : (AgendaRepository.writeRecurrence item { db with agendaItems := T }).agendaItems =
      T := by
    unfold AgendaRepository.writeRecurrence
    cases item.recurrence <;> rfl
  intro k j hne
  cases k with
  | agenda =>
    have hj : j ≠ item.id := hne.resolve_left (not_not.mpr rfl)
    have hrow : (AgendaRepository.writeRecurrence item { db with agendaItems := T }).storedRow
        .agenda j = db.storedRow .agenda j := by
      show (Prod.mk _ (Prod.mk _ _) : RecordKind.Row .agenda) = Prod.mk _ (Prod.mk _ _)
      rw [hrules j hj, hitems, hT j hj]
      unfold AgendaRepository.writeRecurrence
      cases item.recurrence <;> rfl
    unfold Database.stored
    rw [hrow]
    unfold AgendaRepository.writeRecurrence
    cases item.recurrence <;> rfl
  | _ =>
    unfold AgendaRepository.writeRecurrence
    cases item.recurrence <;> rfl

/-- **Agenda items**: an update names the owner in its statement. -/
theorem updateAgenda_owned (item : AgendaItem) (expectedVersion : Int) :
    WritesOwnRecords platform (.updateAgenda item expectedVersion) authorization db := by
  refine OwnRecordsOnly.committing_iff.mpr fun _ db' hrun => ?_
  unfold AgendaRepository.update at hrun
  obtain ⟨_, hauthorized, hrun⟩ := bind_eq_ok.mp hrun
  obtain ⟨-, hrun⟩ := raiseIf_bind_ok.mp hrun
  obtain ⟨startAt, -, hrun⟩ := bind_eq_ok.mp hrun
  obtain ⟨endAt, -, hrun⟩ := bind_eq_ok.mp hrun
  obtain ⟨⟨_, db''⟩, hupdate, hout⟩ := bind_eq_ok.mp hrun
  obtain ⟨-, rfl⟩ := Prod.mk.inj (Except.ok.inj hout)
  unfold updateOne at hupdate
  split_ifs at hupdate with hcount
  obtain ⟨-, rfl⟩ := Prod.mk.inj (Except.ok.inj hupdate)
  rw [OwnRecordsOnly.auditAction_iff]
  obtain ⟨row, hrow, hq⟩ := Table.exists_of_count_key (not_not.mp hcount)
  refine (touchesOnly_updateAgenda fun j hne => ?_).ownRecordsOnly_iff.mpr
    fun owner howner _ => ?_
  · exact Table.find?_updateWhere_of_not fun r hr => by simp [hr, hne]
  · have hfound : db.agendaItems.find? item.id = some row := hrow
    rw [Database.ownerOf, hfound] at howner
    obtain rfl := Option.some.inj howner
    rw [requireAuthorization_owner hauthorized]
    exact of_decide_eq_true (Bool.and_eq_true _ _ ▸ hq).1

/-- What the deletion of an agenda item leaves of other records: all but the rules of the item. -/
theorem stored_cascade {T : Table AgendaRow AgendaRow.id} {itemId : String}
    (hT : ∀ j, j ≠ itemId → T.find? j = db.agendaItems.find? j) {kind : RecordKind} {j : String}
    (hitem : kind = .agenda → j ≠ itemId)
    (hrule : kind = .agendaNotification → ∀ rule, db.agendaNotificationRules.find? j = some rule →
      rule.agendaItemId ≠ itemId) :
    (AgendaRepository.cascade itemId { db with agendaItems := T }).stored kind j =
      db.stored kind j := by
  cases kind with
  | agenda =>
    have hj : j ≠ itemId := hitem rfl
    have hrow : (AgendaRepository.cascade itemId { db with agendaItems := T }).storedRow .agenda j =
        db.storedRow .agenda j := by
      show (Prod.mk _ (Prod.mk _ (Prod.mk _ _)) : RecordKind.Row .agenda) = _
      refine congrArg₂ Prod.mk (hT j hj) (congrArg₂ Prod.mk ?_ (congrArg₂ Prod.mk ?_ ?_))
      · exact (Table.find?_deleteKey _ itemId j).trans (if_neg hj)
      · funext occurrenceAt
        refine Table.find?_deleteWhere_of_not fun r hr => ?_
        have hid : r.agendaItemId = j := congrArg Prod.fst hr
        simp [hid, hj]
      · exact (Table.find?_deleteKey _ itemId j).trans (if_neg hj)
    unfold Database.stored
    rw [hrow]
    rfl
  | agendaNotification =>
    have hrow : (AgendaRepository.cascade itemId { db with agendaItems := T }).storedRow
        .agendaNotification j = db.storedRow .agendaNotification j := by
      show (db.agendaNotificationRules.deleteWhere _).find? j = db.agendaNotificationRules.find? j
      rw [Table.find?_deleteWhere]
      cases hfind : db.agendaNotificationRules.find? j with
      | none => rfl
      | some rule => simp [hrule rfl rule hfind]
    unfold Database.stored
    rw [hrow]
    rfl
  | _ => rfl

/-- **Agenda items**: a deletion names the owner of the item in its statement, and takes the rules
of the item along, whoever owns them. -/
theorem deleteAgenda_iff (itemId : String) :
    WritesOwnRecords platform (.deleteAgenda itemId) authorization db ↔
      OwnerBound platform authorization db (.deleteAgenda itemId) := by
  unfold WritesOwnRecords RepositoryWrite.perform
  rw [OwnRecordsOnly.committing_iff]
  unfold AgendaRepository.delete
  constructor
  · intro h item hitem howner hauthorized rule hrule hof
    have hid : authorization.resource.id = itemId :=
      (ResourceRef.checked_ok.mp (requireAuthorization_ok.mp hauthorized).2).2.1
    have hcount := Table.count_key (q := fun r : AgendaRow =>
      decide (r.ownerUserId = authorization.resource.ownerUserId)) hitem (by simpa using howner)
    have hown := h ⟨⟩ _ (raiseIf_bind_ok.mpr ⟨not_not.mpr hid, bind_eq_ok.mpr ⟨_, hauthorized,
      raiseIf_bind_ok.mpr ⟨not_not.mpr hcount, rfl⟩⟩⟩)
    rw [OwnRecordsOnly.auditAction_iff] at hown
    have hfind := Table.find?_of_mem hrule
    refine hown .agendaNotification rule.id rule.ownerUserId ?_ fun hsame => ?_
    · rw [Database.ownerOf, hfind]
      rfl
    · have hgone := congrArg RecordContents.row hsame
      change (db.agendaNotificationRules.deleteWhere _).find? rule.id =
        db.agendaNotificationRules.find? rule.id at hgone
      rw [Table.find?_deleteWhere, hfind] at hgone
      simp [hof] at hgone
  · intro h _ db' hrun
    obtain ⟨-, hrun⟩ := raiseIf_bind_ok.mp hrun
    obtain ⟨_, hauthorized, hrun⟩ := bind_eq_ok.mp hrun
    obtain ⟨hcount, hrun⟩ := raiseIf_bind_ok.mp hrun
    obtain ⟨-, rfl⟩ := Prod.mk.inj (Except.ok.inj hrun)
    obtain ⟨item, hitem, hq⟩ := Table.exists_of_count_key (not_not.mp hcount)
    have howner := of_decide_eq_true hq
    rw [OwnRecordsOnly.auditAction_iff]
    intro kind j o ho hchanged
    by_contra hother
    refine hchanged (stored_cascade (fun j hne => ?_) ?_ ?_)
    · exact Table.find?_deleteWhere_of_not fun r hr => by simp [hr, hne]
    · rintro rfl rfl
      have hfound : db.agendaItems.find? j = some item := hitem
      rw [Database.ownerOf, hfound] at ho
      exact hother ((Option.some.inj ho).symm.trans howner)
    · rintro rfl rule hrule hof
      rw [Database.ownerOf, hrule] at ho
      exact hother ((Option.some.inj ho).symm.trans
        (h item hitem howner hauthorized rule (Table.mem_of_find? hrule) hof))

/-- An exception is written under its item. -/
theorem AgendaRepository.writtenException_item {zones : TimeZones} {itemId : String}
    {exception : RecurrenceException} {row : ExceptionRow}
    (h : AgendaRepository.writtenException zones itemId exception = some row) :
    row.agendaItemId = itemId := by
  unfold AgendaRepository.writtenException at h
  split at h
  · unfold AgendaRepository.exceptionRow? at h
    split at h
    · obtain rfl := Option.some.inj h
      rfl
    · obtain rfl := Option.some.inj h
      rfl
    · cases h
  · cases h

/-- The table of exceptions after `add_exception`. -/
def AgendaRepository.withException (row : ExceptionRow) (db : Database) : Database :=
  { db with
    recurrenceExceptions := db.recurrenceExceptions.upsert row (fun r => { r with
      action := row.action
      replacementStart := row.replacementStart
      replacementEnd := row.replacementEnd
      replaced := row.replaced }) (AgendaRepository.key_overwritten row) }

theorem AgendaRepository.addException_ok_iff {zones : TimeZones} {itemId : String}
    {exception : RecurrenceException} {u : Unit} {db' : Database} :
    AgendaRepository.addException zones itemId exception authorization db = .ok (u, db') ↔
      requireAuthorization authorization .update "agenda" itemId authorization.resource.ownerUserId
        authorization.resource.classification = .ok ⟨⟩ ∧
      (∃ item, db.agendaItems.find? itemId = some item) ∧
      ∃ row, AgendaRepository.writtenException zones itemId exception = some row ∧
        db' = (AgendaRepository.withException row db).auditAction authorization := by
  unfold AgendaRepository.addException AgendaRepository.writtenException
  constructor
  · intro h
    obtain ⟨_, hauthorized, h⟩ := bind_eq_ok.mp h
    obtain ⟨hfound, h⟩ := raiseIf_bind_ok.mp h
    obtain ⟨occurrenceAt, hoccurrence, h⟩ := bind_eq_ok.mp h
    obtain ⟨replacementStart, hstart, h⟩ := bind_eq_ok.mp h
    obtain ⟨replacementEnd, hend, h⟩ := bind_eq_ok.mp h
    rw [hoccurrence, hstart, hend]
    refine ⟨hauthorized, Option.ne_none_iff_exists'.mp (by simpa using hfound), ?_⟩
    cases hrow : AgendaRepository.exceptionRow? itemId occurrenceAt exception.action
        replacementStart replacementEnd with
    | none => rw [hrow] at h; cases h
    | some row =>
      rw [hrow] at h
      exact ⟨row, hrow, (Prod.mk.inj (Except.ok.inj h)).2.symm⟩
  · rintro ⟨hauthorized, ⟨item, hitem⟩, row, hrow, rfl⟩
    refine bind_eq_ok.mpr ⟨_, hauthorized, raiseIf_bind_ok.mpr ⟨by simp [hitem], ?_⟩⟩
    split at hrow
    · rename_i occurrenceAt replacementStart replacementEnd hoccurrence hstart hend
      refine bind_eq_ok.mpr ⟨_, hoccurrence, bind_eq_ok.mpr ⟨_, hstart,
        bind_eq_ok.mpr ⟨_, hend, ?_⟩⟩⟩
      rw [hrow]
      rfl
    · cases hrow

/-- What is stored of an exception after it has been written. -/
theorem AgendaRepository.find?_withException (row : ExceptionRow) (key : String × Instant) :
    (AgendaRepository.withException row db).recurrenceExceptions.find? key =
      if key = row.key then some row else db.recurrenceExceptions.find? key := by
  refine (Table.find?_upsert db.recurrenceExceptions row _ _ key).trans ?_
  by_cases hkey : key = row.key
  · rw [if_pos hkey, if_pos hkey]
    cases hfind : db.recurrenceExceptions.find? key with
    | none => rfl
    | some old =>
      -- the key is all that the update keeps of the old row
      have hsame : (old.agendaItemId, old.occurrenceAt) = (row.agendaItemId, row.occurrenceAt) :=
        (Table.key_of_find? hfind).trans hkey
      obtain ⟨hitem, htime⟩ := Prod.mk.inj hsame
      simp only [Option.map_some, Option.getD_some, hitem, htime]
  · rw [if_neg hkey, if_neg hkey]

/-- **Exceptions**: the item is looked for by its id only. -/
theorem addException_iff (itemId : String) (exception : RecurrenceException) :
    WritesOwnRecords platform (.addException itemId exception) authorization db ↔
      OwnerBound platform authorization db (.addException itemId exception) := by
  have htouches : ∀ row : ExceptionRow, row.agendaItemId = itemId →
      TouchesOnly .agenda itemId db (AgendaRepository.withException row db) := by
    intro row hitem kind j hne
    cases kind with
    | agenda =>
      have hj : j ≠ itemId := hne.resolve_left (not_not.mpr rfl)
      refine congrArg (fun exceptions => @RecordContents.mk .agenda
        (db.agendaItems.find? j, db.recurrenceRules.find? j, exceptions,
          db.agendaNotificationLeads.find? j) _) (funext fun occurrenceAt => ?_)
      rw [AgendaRepository.find?_withException, if_neg]
      exact fun hkey => hj ((congrArg Prod.fst hkey).trans hitem)
    | _ => rfl
  unfold WritesOwnRecords RepositoryWrite.perform
  rw [OwnRecordsOnly.committing_iff]
  constructor
  · intro h item hitem hauthorized row hrow hnew
    have hof := AgendaRepository.writtenException_item hrow
    have hown := h ⟨⟩ _ (AgendaRepository.addException_ok_iff.mpr
      ⟨hauthorized, ⟨item, hitem⟩, row, hrow, rfl⟩)
    rw [OwnRecordsOnly.auditAction_iff, (htouches row hof).ownRecordsOnly_iff] at hown
    refine hown item.ownerUserId (by rw [Database.ownerOf, hitem]; rfl) fun hsame => hnew ?_
    have hexceptions := congrArg (fun contents : RecordContents .agenda =>
      contents.row.2.2.1 row.occurrenceAt) hsame
    change (AgendaRepository.withException row db).recurrenceExceptions.find?
      (itemId, row.occurrenceAt) = db.recurrenceExceptions.find? (itemId, row.occurrenceAt)
      at hexceptions
    rw [← hof] at hexceptions
    exact hexceptions.symm.trans ((AgendaRepository.find?_withException row row.key).trans
      (if_pos rfl))
  · intro h _ db' hrun
    obtain ⟨hauthorized, ⟨item, hitem⟩, row, hrow, rfl⟩ :=
      AgendaRepository.addException_ok_iff.mp hrun
    have hof := AgendaRepository.writtenException_item hrow
    rw [OwnRecordsOnly.auditAction_iff, (htouches row hof).ownRecordsOnly_iff]
    intro owner howner hchanged
    rw [Database.ownerOf, hitem] at howner
    obtain rfl := Option.some.inj howner
    refine h item hitem hauthorized row hrow fun hthere => hchanged ?_
    refine congrArg (fun exceptions => @RecordContents.mk .agenda
      (db.agendaItems.find? itemId, db.recurrenceRules.find? itemId, exceptions,
        db.agendaNotificationLeads.find? itemId) _) (funext fun occurrenceAt => ?_)
    rw [AgendaRepository.find?_withException]
    split_ifs with hkey
    · rw [hkey, hthere]
    · rfl

/-! ### Grants -/

theorem requireGranting_ok :
    GrantRepository.requireGranting authorization = .ok ⟨⟩ ↔ authorization.action = .grant := by
  unfold GrantRepository.requireGranting
  rw [requireAuthorization_ok, ResourceRef.checked_ok]
  exact ⟨And.left, fun h => ⟨h, rfl, rfl, rfl, rfl⟩⟩

/-- Where only grants differ, a record differs when a grant that names it does. -/
theorem stored_grants {T : Table GrantRow GrantRow.key} {kind : RecordKind} {id : String} :
    ({ db with resourceAcl := T } : Database).stored kind id = db.stored kind id ↔
      ∀ subjectUserId action, T.find? (kind.name, id, subjectUserId, action) =
        db.resourceAcl.find? (kind.name, id, subjectUserId, action) := by
  have hrow : ({ db with resourceAcl := T } : Database).storedRow kind id =
      db.storedRow kind id := by cases kind <;> rfl
  constructor
  · exact fun h subjectUserId action => congrFun (congrFun (congrArg RecordContents.grants h) _) _
  · intro h
    unfold Database.stored
    rw [hrow]
    exact congrArg _ (funext fun subjectUserId => funext fun action => h subjectUserId action)

/-- **Grants**: one names a record by its kind and id, whoever the authorization says owns it. -/
theorem grant_iff (subjectUserId : String) (action : Action) :
    WritesOwnRecords platform (.grant subjectUserId action) authorization db ↔
      OwnerBound platform authorization db (.grant subjectUserId action) := by
  unfold WritesOwnRecords RepositoryWrite.perform
  rw [OwnRecordsOnly.committing_iff]
  unfold GrantRepository.grant
  constructor
  · intro h kind owner hkind howner haction hfree hsubject hgranter
    have hnone : db.resourceAcl.find? (GrantRepository.granted subjectUserId action
        authorization).key = none :=
      Option.isNone_iff_eq_none.mp (Option.isSome_eq_false_iff.mp hfree)
    cases hinsert : db.resourceAcl.insert? (GrantRepository.granted subjectUserId action
        authorization) with
    | none =>
      obtain ⟨row, hrow⟩ := Table.insert?_eq_none.mp hinsert
      rw [hnone] at hrow
      cases hrow
    | some T =>
      have hown := h ⟨⟩ _ (bind_eq_ok.mpr ⟨_, requireGranting_ok.mpr haction, by
        rw [hinsert]
        exact raiseIf_bind_ok.mpr ⟨by simp [hsubject, hgranter], rfl⟩⟩)
      rw [OwnRecordsOnly.auditAction_iff] at hown
      refine hown kind authorization.resource.id owner howner fun hsame => ?_
      have hgrant := stored_grants.mp hsame subjectUserId action
      rw [hkind] at hgrant
      have hself := Table.find?_insert_self hinsert
      rw [show (GrantRepository.granted subjectUserId action authorization).key =
        (authorization.resource.kind, authorization.resource.id, subjectUserId, action) from rfl]
        at hself hnone
      rw [hself, hnone] at hgrant
      cases hgrant
  · intro h _ db' hrun
    obtain ⟨_, haction, hrun⟩ := bind_eq_ok.mp hrun
    cases hinsert : db.resourceAcl.insert? (GrantRepository.granted subjectUserId action
        authorization) with
    | none =>
      rw [hinsert] at hrun
      obtain ⟨-, rfl⟩ := Prod.mk.inj (Except.ok.inj hrun)
      exact (OwnRecordsOnly.auditAction_iff _ _).mpr (OwnRecordsOnly.refl _ db)
    | some T =>
      rw [hinsert] at hrun
      obtain ⟨husers, hrun⟩ := raiseIf_bind_ok.mp hrun
      obtain ⟨-, rfl⟩ := Prod.mk.inj (Except.ok.inj hrun)
      rw [OwnRecordsOnly.auditAction_iff]
      simp only [not_or, Bool.not_eq_false] at husers
      intro kind id owner howner hchanged
      by_contra hother
      refine hchanged (stored_grants.mpr fun subject granted => ?_)
      rw [Table.find?_insert hinsert, if_neg]
      intro hkey
      obtain ⟨hkind, hrest⟩ := Prod.mk.inj hkey
      obtain ⟨rfl, -⟩ := Prod.mk.inj hrest
      refine hother (h kind owner hkind howner (requireGranting_ok.mp haction) ?_ husers.1 husers.2)
      have hfree := (Table.insert?_eq_some.mp hinsert).1
      exact Option.isSome_eq_false_iff.mpr (Option.isNone_iff_eq_none.mpr hfree)

theorem revoke_iff (subjectUserId : String) (action : Action) :
    WritesOwnRecords platform (.revoke subjectUserId action) authorization db ↔
      OwnerBound platform authorization db (.revoke subjectUserId action) := by
  unfold WritesOwnRecords RepositoryWrite.perform
  rw [OwnRecordsOnly.committing_iff]
  unfold GrantRepository.revoke
  constructor
  · intro h kind owner hkind howner haction hgranted
    obtain ⟨row, hrow⟩ := Option.isSome_iff_exists.mp hgranted
    have hown := h true _ (bind_eq_ok.mpr ⟨_, requireGranting_ok.mpr haction, by
      dsimp only
      rw [hrow]
      rfl⟩)
    rw [OwnRecordsOnly.auditAction_iff] at hown
    refine hown kind authorization.resource.id owner howner fun hsame => ?_
    have hgrant := stored_grants.mp hsame subjectUserId action
    rw [hkind, Table.find?_deleteKey, if_pos rfl, hrow] at hgrant
    cases hgrant
  · intro h _ db' hrun
    obtain ⟨_, haction, hrun⟩ := bind_eq_ok.mp hrun
    cases hrow : db.resourceAcl.find?
        (authorization.resource.kind, authorization.resource.id, subjectUserId, action) with
    | none =>
      dsimp only at hrun
      rw [hrow] at hrun
      obtain ⟨-, rfl⟩ := Prod.mk.inj (Except.ok.inj hrun)
      exact fun kind id owner _ hchanged => absurd (Database.stored_audit _ _ _ _) hchanged
    | some row =>
      dsimp only at hrun
      rw [hrow] at hrun
      obtain ⟨-, rfl⟩ := Prod.mk.inj (Except.ok.inj hrun)
      rw [OwnRecordsOnly.auditAction_iff]
      intro kind id owner howner hchanged
      by_contra hother
      refine hchanged (stored_grants.mpr fun subject granted => ?_)
      rw [Table.find?_deleteKey, if_neg]
      intro hkey
      obtain ⟨hkind, hrest⟩ := Prod.mk.inj hkey
      obtain ⟨rfl, -⟩ := Prod.mk.inj hrest
      exact hother (h kind owner hkind howner (requireGranting_ok.mp haction)
        (Option.isSome_iff_exists.mpr ⟨row, hrow⟩))

/-! ### Runs of jobs -/

/-- **Jobs**: a run is attached to the job of an id. -/
theorem createRun_iff (job : ScheduledJob) (scheduledFor : DateTime) :
    WritesOwnRecords platform (.createRun job scheduledFor) authorization db ↔
      OwnerBound platform authorization db (.createRun job scheduledFor) := by
  -- a new run is seen in the runs of its job only
  have hseen : ∀ (time : Instant) (T : Table JobRunRow JobRunRow.id) (kind : RecordKind)
      (id : String), ScheduledJobRepository.noted? platform job.id time db = some T →
      (({ db with jobRuns := T } : Database).stored kind id ≠ db.stored kind id ↔
        kind = .scheduledJob ∧ id = job.id) := by
    intro time T kind id hnoted
    have hinsert : db.jobRuns.insert? (ScheduledJobRepository.pendingRun platform job.id time) =
        some T := by
      unfold ScheduledJobRepository.noted? at hnoted
      split_ifs at hnoted
      exact hnoted
    have hrows := Table.rows_insert hinsert
    cases kind with
    | scheduledJob =>
      by_cases hid : id = job.id
      · refine ⟨fun _ => ⟨rfl, hid⟩, fun _ hsame => ?_⟩
        have hruns := congrArg (fun contents : RecordContents .scheduledJob =>
          contents.row.2.length) hsame
        change (T.rows.filter _).length = (db.jobRuns.rows.filter _).length at hruns
        rw [hrows, List.filter_append, List.length_append, List.filter_cons_of_pos (by
          simp [ScheduledJobRepository.pendingRun, hid])] at hruns
        simp at hruns
      · refine ⟨fun hchanged => absurd ?_ hchanged, fun h => absurd h.2 hid⟩
        refine congrArg (fun runs => @RecordContents.mk .scheduledJob
          (db.scheduledJobs.find? id, runs) _) ?_
        rw [hrows, List.filter_append, List.filter_cons_of_neg (by
          exact fun hsame => hid (of_decide_eq_true hsame).symm)]
        simp
    | _ => exact ⟨fun hchanged => absurd rfl hchanged, fun h => absurd h.1 (by simp)⟩
  unfold WritesOwnRecords RepositoryWrite.perform
  rw [OwnRecordsOnly.committing_iff]
  unfold ScheduledJobRepository.createRun
  constructor
  · intro h row hrow hauthorized time htime hnew hvalid
    obtain ⟨T, hnoted⟩ := Option.isSome_iff_exists.mp hnew
    obtain ⟨run, hrun⟩ := hvalid
    have hown := h _ _ (bind_eq_ok.mpr ⟨_, hauthorized, bind_eq_ok.mpr ⟨time, htime, by
      rw [hnoted]
      exact raiseIf_bind_ok.mpr ⟨by simp [hrow], bind_eq_ok.mpr ⟨run, hrun, rfl⟩⟩⟩⟩)
    rw [OwnRecordsOnly.auditAction_iff] at hown
    exact hown .scheduledJob job.id row.ownerUserId (by rw [Database.ownerOf, hrow]; rfl)
      ((hseen time T .scheduledJob job.id hnoted).mpr ⟨rfl, rfl⟩)
  · intro h _ db' hrun
    obtain ⟨_, hauthorized, hrun⟩ := bind_eq_ok.mp hrun
    obtain ⟨time, htime, hrun⟩ := bind_eq_ok.mp hrun
    cases hnoted : ScheduledJobRepository.noted? platform job.id time db with
    | some T =>
      rw [hnoted] at hrun
      obtain ⟨-, hrun⟩ := raiseIf_bind_ok.mp hrun
      obtain ⟨run, hvalid, hrun⟩ := bind_eq_ok.mp hrun
      obtain ⟨-, rfl⟩ := Prod.mk.inj (Except.ok.inj hrun)
      rw [OwnRecordsOnly.auditAction_iff]
      intro kind id owner howner hchanged
      obtain ⟨rfl, rfl⟩ := (hseen time T kind id hnoted).mp hchanged
      obtain ⟨row, hrow, rfl⟩ := Option.map_eq_some_iff.mp howner
      exact h row hrow hauthorized time htime (by rw [hnoted]; rfl) ⟨run, hvalid⟩
    | none =>
      rw [hnoted] at hrun
      cases hfound : ScheduledJobRepository.runAt job.id time db with
      | none =>
        rw [hfound] at hrun
        cases hrun
      | some row =>
        rw [hfound] at hrun
        obtain ⟨run, -, hrun⟩ := bind_eq_ok.mp hrun
        obtain ⟨-, rfl⟩ := Prod.mk.inj (Except.ok.inj hrun)
        exact OwnRecordsOnly.refl _ db

/-! ### All writes -/

/-- **Whose records a write reaches.** A write keeps to the owner it was authorized for exactly
where it binds itself to that owner, or where the record it finds under the id is that owner's. -/
theorem writesOwnRecords_iff (platform : Platform) (write : RepositoryWrite)
    (authorization : AuthorizedAction) (db : Database) :
    WritesOwnRecords platform write authorization db ↔
      OwnerBound platform authorization db write := by
  cases write with
  | updateAgenda item expectedVersion => exact iff_of_true (updateAgenda_owned _ _) trivial
  | deleteAgenda itemId => exact deleteAgenda_iff itemId
  | addException itemId exception => exact addException_iff itemId exception
  | updateNotification rule => exact updateNotification_iff rule
  | deleteNotification ruleId => exact deleteNotification_iff ruleId
  | updateTask task expectedVersion => exact iff_of_true (updateTask_owned _ _) trivial
  | deleteTask taskId => exact iff_of_true (deleteTask_owned _) trivial
  | updateNote note expectedVersion => exact iff_of_true (updateNote_owned _ _) trivial
  | deleteNote noteId => exact iff_of_true (deleteNote_owned _) trivial
  | cancel reminderId expectedVersion => exact iff_of_true (cancel_owned _ _) trivial
  | acknowledge reminderId expectedVersion => exact iff_of_true (acknowledge_owned _ _) trivial
  | snooze reminderId fireAt expectedVersion => exact iff_of_true (snooze_owned _ _ _) trivial
  | updateAnniversary anniversary => exact updateAnniversary_iff anniversary
  | deleteAnniversary anniversaryId => exact deleteAnniversary_iff anniversaryId
  | updateBriefing briefing now => exact updateBriefing_iff briefing now
  | deleteBriefing briefingId => exact deleteBriefing_iff briefingId
  | rename userId displayName => exact rename_iff userId displayName
  | unbindIdentity identityId => exact iff_of_true (unbindIdentity_owned _) trivial
  | grant subjectUserId action => exact grant_iff subjectUserId action
  | revoke subjectUserId action => exact revoke_iff subjectUserId action
  | createRun job scheduledFor => exact createRun_iff job scheduledFor

end Writes

/-- An important day of Bob's. -/
def bobsDay : Anniversary where
  id := "anniversary_1"
  ownerUserId := "user_bob"
  creatorUserId := "user_bob"
  title := "生日"
  anchorDate := ⟨Calendar.toOrdinal 2020 5 1, by decide⟩
  timezone := "UTC"
  createdAt := some 0

/-- Alice's authorization to delete the important day of that id, as her own. -/
def alicesDeletion : AuthorizedAction where
  actorUserId := "user_alice"
  action := .delete
  resource := {
    kind := "anniversary"
    id := "anniversary_1"
    ownerUserId := "user_alice"
    nonblank := by decide }
  authorizedAt := 0

/-- A deletion that was authorized for a record of Alice's deletes Bob's. -/
theorem foreign_day_is_deleted :
    ¬ ∀ (platform : Platform) (write : RepositoryWrite) (authorization : AuthorizedAction)
      (db : Database), WritesOwnRecords platform write authorization db := by
  intro hall
  let db : Database := {
    users := ⟨[⟨"user_alice", "Alice", true⟩, ⟨"user_bob", "Bob", true⟩], by decide⟩
    anniversaries := ⟨[bobsDay], by decide⟩ }
  have hchanged : (((RepositoryWrite.deleteAnniversary "anniversary_1").perform
      ReminderRepository.shanghai alicesDeletion).exec db).2.stored .anniversary "anniversary_1" ≠
      db.stored .anniversary "anniversary_1" := by
    intro hsame
    have hrow := congrArg RecordContents.row hsame
    change (none : Option Anniversary) = some bobsDay at hrow
    cases hrow
  have howner := hall ReminderRepository.shanghai (.deleteAnniversary "anniversary_1")
    alicesDeletion db .anniversary "anniversary_1" "user_bob" rfl hchanged
  exact absurd howner (by decide)

end Zhixu
