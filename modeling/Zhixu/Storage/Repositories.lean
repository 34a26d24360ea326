import Zhixu.Storage.Access

/-!
# The repositories of records that are updated in place

Reading a row builds the domain record anew, so every `get` raises on a row
whose values do not pass the checks of the record. Every `update` compares the
authorization with the record it is handed, then changes exactly one row. They
share `updateOne`: the statement, its row count, and the audit event. Deletes
share `deleteOne`.

Agenda items, tasks and notes carry a version, which the statement compares.
Important days, briefings and notification rules do not.
-/

open Framework

namespace Zhixu

/-- One table of the database. -/
structure Slot {ρ κ : Type} (key : ρ → κ) where
  table : Database → Table ρ key
  set : Database → Table ρ key → Database

/-- `UPDATE … SET … WHERE …`, which has to change one row. `also` is what the
transaction writes besides, before the audit event. -/
def updateOne {ρ κ : Type} {key : ρ → κ} (slot : Slot key) (p : ρ → Bool) (f : ρ → ρ)
    (hf : ∀ r, key (f r) = key r) (refusal : PyError) (also : Database → Database)
    (authorization : AuthorizedAction) : Transaction Database PyError Unit := fun db =>
  if (slot.table db).count p ≠ 1 then .error refusal
  else .ok (⟨⟩, Database.auditAction
    (also (slot.set db ((slot.table db).updateWhere p f hf))) authorization)

/-- `DELETE FROM … WHERE …`, which has to delete one row. -/
def deleteOne {ρ κ : Type} {key : ρ → κ} (slot : Slot key) (p : ρ → Bool) (refusal : PyError)
    (authorization : AuthorizedAction) : Transaction Database PyError Unit := fun db =>
  if (slot.table db).count p ≠ 1 then .error refusal
  else .ok (⟨⟩, Database.auditAction (slot.set db ((slot.table db).deleteWhere p)) authorization)

/-- An update succeeds exactly when it finds its one row. -/
theorem updateOne_ok {ρ κ : Type} {key : ρ → κ} (slot : Slot key) (p : ρ → Bool) (f : ρ → ρ)
    (hf : ∀ r, key (f r) = key r) (refusal : PyError) (also : Database → Database)
    (authorization : AuthorizedAction) (db : Database) :
    (∃ db', updateOne slot p f hf refusal also authorization db = .ok (⟨⟩, db')) ↔
      (slot.table db).count p = 1 := by
  unfold updateOne
  by_cases hcount : (slot.table db).count p = 1
  · rw [if_neg (not_not.mpr hcount)]
    exact ⟨fun _ => hcount, fun _ => ⟨_, rfl⟩⟩
  · rw [if_pos hcount]
    exact ⟨fun ⟨_, h⟩ => absurd h (by simp), fun h => absurd h hcount⟩

/-- `SELECT * … WHERE id=?`, and the record built from the row. -/
def getRow {ρ κ α : Type} [DecidableEq κ] {key : ρ → κ} (slot : Slot key)
    (build : ρ → Except PyError α) (k : κ) (db : Database) : Except PyError (Option α) :=
  match (slot.table db).find? k with
  | none => .ok none
  | some row => some <$> build row

theorem getRow_some {ρ κ α : Type} [DecidableEq κ] {key : ρ → κ} {slot : Slot key}
    {build : ρ → Except PyError α} {k : κ} {db : Database} {record : α} :
    getRow slot build k db = .ok (some record) ↔
      ∃ row, (slot.table db).find? k = some row ∧ build row = .ok record := by
  unfold getRow
  cases (slot.table db).find? k with
  | none => simp
  | some row =>
    cases hbuild : build row with
    | error err => simp [hbuild]
    | ok record' => simp [hbuild, eq_comm]

/-- `creator_user_id`, or the owner where none is recorded. -/
def creatorOr (creatorUserId : Option String) (ownerUserId : String) : Option String :=
  some (creatorUserId.getD ownerUserId)

/-- A datetime that may be absent, as the instant written for it. -/
def dumpOptional (zones : TimeZones) : Option DateTime → Except PyError (Option Instant)
  | none => .ok none
  | some value => some <$> value.dump zones

/-- An update under an authorization for the record. -/
theorem update_ok_iff {ρ κ α : Type} {key : ρ → κ} {slot : Slot key} {p : ρ → Bool}
    {f : ρ → ρ} {hf : ∀ r, key (f r) = key r} {refusal : PyError} {also : Database → Database}
    {authorization : AuthorizedAction} {db : Database} {record : α} :
    (∃ out, (do
      let (_, db') ← updateOne slot p f hf refusal also authorization db
      return (record, db') : Except PyError (α × Database)) = .ok out) ↔
      (slot.table db).count p = 1 := by
  rw [← updateOne_ok slot p f hf refusal also authorization db]
  constructor
  · rintro ⟨out, h⟩
    obtain ⟨⟨_, db'⟩, hdb', -⟩ := bind_eq_ok.mp h
    exact ⟨db', hdb'⟩
  · rintro ⟨db', hdb'⟩
    exact ⟨(record, db'), bind_eq_ok.mpr ⟨_, hdb', rfl⟩⟩

/-! ### Agenda items -/

namespace AgendaRepository

def slot : Slot AgendaRow.id := ⟨Database.agendaItems, fun db agendaItems => { db with agendaItems }⟩

/-- The recurrence rule of an item, as `_from_row` reads it. -/
def recurrenceOf (engine : RecurrenceEngine) (db : Database) (itemId : String) :
    Except PyError (Option RecurrenceRule) :=
  match db.recurrenceRules.find? itemId with
  | none => .ok none
  | some row => some <$> RecurrenceRule.checked engine row.ruleText row.timezone

/-- `_from_row`. -/
def fromRow (engine : RecurrenceEngine) (db : Database) (row : AgendaRow) :
    Except PyError AgendaItem := do
  let recurrence ← recurrenceOf engine db row.id
  let startAt ← DateTime.load engine.zones row.startAt row.timezone
  let endAt ← DateTime.load engine.zones row.endAt row.timezone
  raiseIf (8 < row.actionLinks.length) (.validation "stored action links are invalid")
  let item : AgendaItem := {
    id := row.id
    ownerUserId := row.ownerUserId
    creatorUserId := creatorOr row.creatorUserId row.ownerUserId
    title := row.title
    description := row.description
    actionLinks := row.actionLinks
    startAt, endAt
    timezone := row.timezone
    allDay := row.allDay
    classification := row.classification
    recurrence
    version := row.version
    createdAt := some row.createdAt
    updatedAt := some row.updatedAt }
  item.validate engine.zones
  return item

theorem fromRow_ok {engine : RecurrenceEngine} {db : Database} {row : AgendaRow}
    {item : AgendaItem} (h : fromRow engine db row = .ok item) :
    item.id = row.id ∧ item.ownerUserId = row.ownerUserId ∧ item.version = row.version ∧
      item.validate engine.zones = .ok ⟨⟩ := by
  obtain ⟨recurrence, -, h⟩ := bind_eq_ok.mp h
  obtain ⟨startAt, -, h⟩ := bind_eq_ok.mp h
  obtain ⟨endAt, -, h⟩ := bind_eq_ok.mp h
  obtain ⟨-, h⟩ := raiseIf_bind_ok.mp h
  obtain ⟨_, hvalid, h⟩ := bind_eq_ok.mp h
  obtain rfl := Except.ok.inj h
  exact ⟨rfl, rfl, rfl, hvalid⟩

/-- `get`. -/
def get (engine : RecurrenceEngine) (itemId : String) (db : Database) :
    Except PyError (Option AgendaItem) :=
  getRow slot (fromRow engine db) itemId db

/-- `_write_recurrence`. -/
def writeRecurrence (item : AgendaItem) (db : Database) : Database :=
  match item.recurrence with
  | none =>
    { db with recurrenceRules := db.recurrenceRules.deleteWhere fun r => r.agendaItemId = item.id }
  | some recurrence =>
    { db with
      recurrenceRules := db.recurrenceRules.upsert
        { agendaItemId := item.id, ruleText := recurrence.value, timezone := recurrence.timezone }
        fun r => { r with ruleText := recurrence.value, timezone := recurrence.timezone } }

/-- `update`. -/
def update (zones : TimeZones) (item : AgendaItem) (expectedVersion : Int)
    (authorization : AuthorizedAction) : Transaction Database PyError AgendaItem := fun db => do
  requireAuthorization authorization .update "agenda" item.id item.ownerUserId item.classification
  raiseIf (item.version ≠ expectedVersion + 1)
    (.validation "updated agenda version must increment exactly once")
  let startAt ← item.startAt.dump zones
  let endAt ← item.endAt.dump zones
  let (_, db) ← updateOne slot
    (fun r => decide (r.id = item.id) &&
      (r.ownerUserId = item.ownerUserId && decide (r.version = expectedVersion)))
    (fun r => { r with
      title := item.title
      description := item.description
      actionLinks := item.actionLinks
      startAt, endAt
      timezone := item.timezone
      allDay := item.allDay
      classification := item.classification
      version := item.version
      updatedAt := authorization.authorizedAt })
    (fun _ => rfl) (.concurrencyConflict "agenda item changed or does not exist")
    (writeRecurrence item) authorization db
  return ({ item with updatedAt := some authorization.authorizedAt }, db)

theorem update_ok {zones : TimeZones} {item : AgendaItem} {expectedVersion : Int}
    {authorization : AuthorizedAction} {db : Database} :
    (∃ out, update zones item expectedVersion authorization db = .ok out) ↔
      requireAuthorization authorization .update "agenda" item.id item.ownerUserId
        item.classification = .ok ⟨⟩ ∧
      item.version = expectedVersion + 1 ∧ (∃ t, item.startAt.dump zones = .ok t) ∧
      (∃ t, item.endAt.dump zones = .ok t) ∧
      db.agendaItems.count (fun r => decide (r.id = item.id) &&
        (r.ownerUserId = item.ownerUserId && decide (r.version = expectedVersion))) = 1 := by
  constructor
  · intro h
    obtain ⟨_, hauthorized, h⟩ := exists_bind_ok.mp h
    obtain ⟨hversion, h⟩ := exists_raiseIf_bind_ok.mp h
    obtain ⟨t, ht, h⟩ := exists_bind_ok.mp h
    obtain ⟨u, hu, h⟩ := exists_bind_ok.mp h
    exact ⟨hauthorized, not_not.mp hversion, ⟨t, ht⟩, ⟨u, hu⟩, update_ok_iff.mp h⟩
  · rintro ⟨hauthorized, hversion, ⟨t, ht⟩, ⟨u, hu⟩, hcount⟩
    refine exists_bind_ok.mpr ⟨_, hauthorized, ?_⟩
    refine exists_raiseIf_bind_ok.mpr ⟨not_not.mpr hversion, ?_⟩
    exact exists_bind_ok.mpr ⟨t, ht, exists_bind_ok.mpr ⟨u, hu, update_ok_iff.mpr hcount⟩⟩

end AgendaRepository

/-! ### Tasks -/

namespace TaskRepository

def slot : Slot TaskRow.id := ⟨Database.tasks, fun db tasks => { db with tasks }⟩

/-- `_from_row`. -/
def fromRow (row : TaskRow) : Except PyError Task := do
  let task : Task := {
    id := row.id
    ownerUserId := row.ownerUserId
    creatorUserId := creatorOr row.creatorUserId row.ownerUserId
    title := row.title
    description := row.description
    status := row.status
    priority := row.priority
    dueAt := row.dueAt.map DateTime.ofInstant
    classification := row.classification
    version := row.version
    createdAt := some row.createdAt
    updatedAt := some row.updatedAt }
  task.validate
  return task

theorem fromRow_ok {row : TaskRow} {task : Task} (h : fromRow row = .ok task) :
    task.id = row.id ∧ task.ownerUserId = row.ownerUserId ∧ task.version = row.version ∧
      task.validate = .ok ⟨⟩ := by
  obtain ⟨_, hvalid, h⟩ := bind_eq_ok.mp h
  obtain rfl := Except.ok.inj h
  exact ⟨rfl, rfl, rfl, hvalid⟩

/-- `get`. -/
def get (taskId : String) (db : Database) : Except PyError (Option Task) :=
  getRow slot fromRow taskId db

/-- `update`. -/
def update (zones : TimeZones) (task : Task) (expectedVersion : Int)
    (authorization : AuthorizedAction) : Transaction Database PyError Task := fun db => do
  requireAuthorization authorization .update "task" task.id task.ownerUserId task.classification
  raiseIf (task.version ≠ expectedVersion + 1)
    (.validation "updated task version must increment exactly once")
  let dueAt ← dumpOptional zones task.dueAt
  let (_, db) ← updateOne slot
    (fun r => decide (r.id = task.id) &&
      (r.ownerUserId = task.ownerUserId && decide (r.version = expectedVersion)))
    (fun r => { r with
      title := task.title
      description := task.description
      status := task.status
      priority := task.priority
      dueAt
      classification := task.classification
      version := task.version
      updatedAt := authorization.authorizedAt })
    (fun _ => rfl) (.concurrencyConflict "task changed or does not exist") id authorization db
  return ({ task with updatedAt := some authorization.authorizedAt }, db)

theorem update_ok {zones : TimeZones} {task : Task} {expectedVersion : Int}
    {authorization : AuthorizedAction} {db : Database} :
    (∃ out, update zones task expectedVersion authorization db = .ok out) ↔
      requireAuthorization authorization .update "task" task.id task.ownerUserId
        task.classification = .ok ⟨⟩ ∧
      task.version = expectedVersion + 1 ∧ (∃ t, dumpOptional zones task.dueAt = .ok t) ∧
      db.tasks.count (fun r => decide (r.id = task.id) &&
        (r.ownerUserId = task.ownerUserId && decide (r.version = expectedVersion))) = 1 := by
  constructor
  · intro h
    obtain ⟨_, hauthorized, h⟩ := exists_bind_ok.mp h
    obtain ⟨hversion, h⟩ := exists_raiseIf_bind_ok.mp h
    obtain ⟨t, ht, h⟩ := exists_bind_ok.mp h
    exact ⟨hauthorized, not_not.mp hversion, ⟨t, ht⟩, update_ok_iff.mp h⟩
  · rintro ⟨hauthorized, hversion, ⟨t, ht⟩, hcount⟩
    refine exists_bind_ok.mpr ⟨_, hauthorized, ?_⟩
    refine exists_raiseIf_bind_ok.mpr ⟨not_not.mpr hversion, ?_⟩
    exact exists_bind_ok.mpr ⟨t, ht, update_ok_iff.mpr hcount⟩

/-- `delete`. -/
def delete (taskId : String) (authorization : AuthorizedAction) :
    Transaction Database PyError Unit := fun db => do
  requireAuthorization authorization .delete "task" taskId authorization.resource.ownerUserId
    authorization.resource.classification
  deleteOne slot
    (fun r => decide (r.id = taskId) && decide (r.ownerUserId = authorization.resource.ownerUserId))
    (.notFound "task not found") authorization db

end TaskRepository

/-! ### Notes -/

namespace NoteRepository

def slot : Slot Note.id := ⟨Database.notes, fun db notes => { db with notes }⟩

/-- The fields of a stored note, its attachments by id. -/
def loaded (row : Note) : Note :=
  { row with
    creatorUserId := creatorOr row.creatorUserId row.ownerUserId
    attachments := row.attachments.insertionSort fun a b => a.id ≤ b.id }

/-- `_from_row`. -/
def fromRow (row : Note) : Except PyError Note := do
  (loaded row).validate
  return loaded row

theorem fromRow_ok {row note : Note} (h : fromRow row = .ok note) :
    note.id = row.id ∧ note.ownerUserId = row.ownerUserId ∧ note.version = row.version ∧
      note.validate = .ok ⟨⟩ := by
  obtain ⟨_, hvalid, h⟩ := bind_eq_ok.mp h
  obtain rfl := Except.ok.inj h
  exact ⟨rfl, rfl, rfl, hvalid⟩

/-- `get`. -/
def get (noteId : String) (db : Database) : Except PyError (Option Note) :=
  getRow slot fromRow noteId db

/-- `tuple(sorted(set(note.tags)))`. -/
def sortedTags (tags : List String) : List String := tags.dedup.insertionSort fun a b => a ≤ b

/-- `update`. -/
def update (note : Note) (expectedVersion : Int) (authorization : AuthorizedAction) :
    Transaction Database PyError Note := fun db => do
  requireAuthorization authorization .update "note" note.id note.ownerUserId note.classification
  raiseIf (note.version ≠ expectedVersion + 1)
    (.validation "updated note version must increment exactly once")
  let tags := sortedTags note.tags
  let (_, db) ← updateOne slot
    (fun r => decide (r.id = note.id) &&
      (r.ownerUserId = note.ownerUserId && decide (r.version = expectedVersion)))
    (fun r => { r with
      title := note.title
      body := note.body
      classification := note.classification
      version := note.version
      categoryPath := note.categoryPath.map strip
      tags
      attachments := note.attachments
      contentBlocks := note.contentBlocks
      updatedAt := some authorization.authorizedAt })
    (fun _ => rfl) (.concurrencyConflict "note changed or does not exist") id authorization db
  return ({ note with tags, updatedAt := some authorization.authorizedAt }, db)

theorem update_ok {note : Note} {expectedVersion : Int} {authorization : AuthorizedAction}
    {db : Database} :
    (∃ out, update note expectedVersion authorization db = .ok out) ↔
      requireAuthorization authorization .update "note" note.id note.ownerUserId
        note.classification = .ok ⟨⟩ ∧
      note.version = expectedVersion + 1 ∧
      db.notes.count (fun r => decide (r.id = note.id) &&
        (r.ownerUserId = note.ownerUserId && decide (r.version = expectedVersion))) = 1 := by
  constructor
  · intro h
    obtain ⟨_, hauthorized, h⟩ := exists_bind_ok.mp h
    obtain ⟨hversion, h⟩ := exists_raiseIf_bind_ok.mp h
    exact ⟨hauthorized, not_not.mp hversion, update_ok_iff.mp h⟩
  · rintro ⟨hauthorized, hversion, hcount⟩
    refine exists_bind_ok.mpr ⟨_, hauthorized, ?_⟩
    exact exists_raiseIf_bind_ok.mpr ⟨not_not.mpr hversion, update_ok_iff.mpr hcount⟩

/-- `delete`. -/
def delete (noteId : String) (authorization : AuthorizedAction) :
    Transaction Database PyError Unit := fun db => do
  requireAuthorization authorization .delete "note" noteId authorization.resource.ownerUserId
    authorization.resource.classification
  deleteOne slot
    (fun r => decide (r.id = noteId) && decide (r.ownerUserId = authorization.resource.ownerUserId))
    (.notFound "note not found") authorization db

end NoteRepository

/-! ### Important days -/

namespace AnniversaryRepository

def slot : Slot Anniversary.id :=
  ⟨Database.anniversaries, fun db anniversaries => { db with anniversaries }⟩

/-- `_from_row`. -/
def fromRow (zones : TimeZones) (row : Anniversary) : Except PyError Anniversary := do
  row.validate zones
  return row

/-- `get`. -/
def get (zones : TimeZones) (anniversaryId : String) (db : Database) :
    Except PyError (Option Anniversary) :=
  getRow slot (fromRow zones) anniversaryId db

/-- `update`. -/
def update (anniversary : Anniversary) (authorization : AuthorizedAction) :
    Transaction Database PyError Anniversary := fun db => do
  requireAuthorization authorization .update "anniversary" anniversary.id anniversary.ownerUserId
    anniversary.classification
  let (_, db) ← updateOne slot (fun r => r.id = anniversary.id)
    (fun r => { r with
      title := anniversary.title
      anchorDate := anniversary.anchorDate
      timezone := anniversary.timezone
      classification := anniversary.classification
      kind := anniversary.kind
      calendar := anniversary.calendar
      lunarMonth := anniversary.lunarMonth
      lunarDay := anniversary.lunarDay
      lunarLeap := anniversary.lunarLeap
      advanceDays := anniversary.advanceDays })
    (fun _ => rfl) (.notFound "anniversary was not found") id authorization db
  return (anniversary, db)

theorem update_ok {anniversary : Anniversary}
    {authorization : AuthorizedAction} {db : Database} :
    (∃ out, update anniversary authorization db = .ok out) ↔
      requireAuthorization authorization .update "anniversary" anniversary.id anniversary.ownerUserId
        anniversary.classification = .ok ⟨⟩ ∧
      db.anniversaries.count (fun r => r.id = anniversary.id) = 1 := by
  constructor
  · intro h
    obtain ⟨_, hauthorized, h⟩ := exists_bind_ok.mp h
    exact ⟨hauthorized, update_ok_iff.mp h⟩
  · rintro ⟨hauthorized, hcount⟩
    exact exists_bind_ok.mpr ⟨_, hauthorized, update_ok_iff.mpr hcount⟩

/-- `delete`. -/
def delete (anniversaryId : String) (authorization : AuthorizedAction) :
    Transaction Database PyError Unit := fun db => do
  requireAuthorization authorization .delete "anniversary" anniversaryId
    authorization.resource.ownerUserId authorization.resource.classification
  deleteOne slot (fun r => r.id = anniversaryId) (.notFound "anniversary was not found")
    authorization db

end AnniversaryRepository

/-! ### Daily briefings -/

namespace DailyBriefingRepository

def slot : Slot DailyBriefing.id :=
  ⟨Database.dailyBriefings, fun db dailyBriefings => { db with dailyBriefings }⟩

/-- `_from_row`. -/
def fromRow (zones : TimeZones) (row : DailyBriefing) : Except PyError DailyBriefing := do
  row.validate zones
  return row

/-- `get`. -/
def get (zones : TimeZones) (briefingId : String) (db : Database) :
    Except PyError (Option DailyBriefing) :=
  getRow slot (fromRow zones) briefingId db

/-- `update`. -/
def update (briefing : DailyBriefing) (now : Instant) (authorization : AuthorizedAction) :
    Transaction Database PyError DailyBriefing := fun db => do
  requireAuthorization authorization .update "daily_briefing" briefing.id briefing.ownerUserId
    briefing.classification
  let (_, db) ← updateOne slot (fun r => r.id = briefing.id)
    (fun r => { r with
      targetRef := briefing.targetRef
      timeOfDay := briefing.timeOfDay.toMinutes
      timezone := briefing.timezone
      classification := briefing.classification
      enabled := briefing.enabled
      updatedAt := some now })
    (fun _ => rfl) (.notFound "daily briefing was not found") id authorization db
  return ({ briefing with updatedAt := some now }, db)

theorem update_ok {briefing : DailyBriefing} {now : Instant}
    {authorization : AuthorizedAction} {db : Database} :
    (∃ out, update briefing now authorization db = .ok out) ↔
      requireAuthorization authorization .update "daily_briefing" briefing.id briefing.ownerUserId
        briefing.classification = .ok ⟨⟩ ∧
      db.dailyBriefings.count (fun r => r.id = briefing.id) = 1 := by
  constructor
  · intro h
    obtain ⟨_, hauthorized, h⟩ := exists_bind_ok.mp h
    exact ⟨hauthorized, update_ok_iff.mp h⟩
  · rintro ⟨hauthorized, hcount⟩
    exact exists_bind_ok.mpr ⟨_, hauthorized, update_ok_iff.mpr hcount⟩

/-- `delete`. -/
def delete (briefingId : String) (authorization : AuthorizedAction) :
    Transaction Database PyError Unit := fun db => do
  requireAuthorization authorization .delete "daily_briefing" briefingId
    authorization.resource.ownerUserId authorization.resource.classification
  deleteOne slot (fun r => r.id = briefingId) (.notFound "daily briefing was not found")
    authorization db

end DailyBriefingRepository

/-! ### Agenda notification rules -/

namespace AgendaNotificationRepository

def slot : Slot AgendaNotificationRule.id :=
  ⟨Database.agendaNotificationRules, fun db agendaNotificationRules =>
    { db with agendaNotificationRules }⟩

/-- `_from_row`. -/
def fromRow (zones : TimeZones) (row : AgendaNotificationRule) :
    Except PyError AgendaNotificationRule := do
  raiseIf (8 < row.actionLinks.length) (.validation "stored action links are invalid")
  row.validate zones
  return row

/-- `get`. -/
def get (zones : TimeZones) (ruleId : String) (db : Database) :
    Except PyError (Option AgendaNotificationRule) :=
  getRow slot (fromRow zones) ruleId db

/-- `update`. -/
def update (rule : AgendaNotificationRule) (authorization : AuthorizedAction) :
    Transaction Database PyError AgendaNotificationRule := fun db => do
  requireAuthorization authorization .update "agenda_notification" rule.id rule.ownerUserId
    rule.classification
  let (_, db) ← updateOne slot (fun r => r.id = rule.id)
    (fun r => { r with
      targetRef := rule.targetRef
      timeOfDay := rule.timeOfDay.toMinutes
      dayOffset := rule.dayOffset
      text := rule.text
      timezone := rule.timezone
      classification := rule.classification
      enabled := rule.enabled })
    (fun _ => rfl) (.notFound "agenda notification rule was not found") id authorization db
  return (rule, db)

theorem update_ok {rule : AgendaNotificationRule}
    {authorization : AuthorizedAction} {db : Database} :
    (∃ out, update rule authorization db = .ok out) ↔
      requireAuthorization authorization .update "agenda_notification" rule.id rule.ownerUserId
        rule.classification = .ok ⟨⟩ ∧
      db.agendaNotificationRules.count (fun r => r.id = rule.id) = 1 := by
  constructor
  · intro h
    obtain ⟨_, hauthorized, h⟩ := exists_bind_ok.mp h
    exact ⟨hauthorized, update_ok_iff.mp h⟩
  · rintro ⟨hauthorized, hcount⟩
    exact exists_bind_ok.mpr ⟨_, hauthorized, update_ok_iff.mpr hcount⟩

end AgendaNotificationRepository

end Zhixu
