import Zhixu.Storage.Repositories

/-!
# Stored records with a version

Agenda items, tasks and notes are updated under a version. What the database holds of one
of them is a `StoredRecord` (an agenda item is its row together with its recurrence rule),
and `storedAt` looks it up by its kind and id.

`Versions` gathers what the three repositories have in common: how a record is built from
what is stored, and what an update leaves there (`written`). `Versions.Lawful` is their
common contract. An update that goes through has found the record at the version that its
caller expected, leaves what `written` says at the next version, and touches no other
record; the three repositories keep it (`lawful_agendaVersions`, `lawful_taskVersions`,
`lawful_noteVersions`).
-/

open Framework

namespace Zhixu

inductive VersionedKind
  | agenda
  | task
  | note
deriving DecidableEq, Repr

/-- The kind and the id of a record. -/
abbrev RecordKey := VersionedKind × String

/-- What is stored of a record. -/
inductive StoredRecord
  | agenda (row : AgendaRow) (rule : Option RecurrenceRow)
  | task (row : TaskRow)
  | note (row : Note)
deriving Repr

def StoredRecord.version : StoredRecord → Int
  | .agenda row _ => row.version
  | .task row => row.version
  | .note row => row.version

/-- The stored record under a key. -/
def storedAt (key : RecordKey) (db : Database) : Option StoredRecord :=
  match key.1 with
  | .agenda => (db.agendaItems.find? key.2).map fun row => .agenda row (db.recurrenceRules.find? key.2)
  | .task => (db.tasks.find? key.2).map .task
  | .note => (db.notes.find? key.2).map .note

/-! ### What an update leaves -/

/-- The columns of an agenda update. -/
def AgendaRepository.rewritten (item : AgendaItem) (startAt endAt : Instant)
    (authorization : AuthorizedAction) (row : AgendaRow) : AgendaRow :=
  { row with
    title := item.title
    description := item.description
    actionLinks := item.actionLinks
    startAt, endAt
    timezone := item.timezone
    allDay := item.allDay
    classification := item.classification
    version := item.version
    updatedAt := authorization.authorizedAt }

/-- The row an agenda update leaves, and its recurrence rule. -/
def AgendaRepository.written (zones : TimeZones) (item : AgendaItem)
    (authorization : AuthorizedAction) (stored : AgendaRow × Option RecurrenceRow) :
    Except PyError (AgendaRow × Option RecurrenceRow) := do
  let startAt ← item.startAt.dump zones
  let endAt ← item.endAt.dump zones
  return (rewritten item startAt endAt authorization stored.1,
    item.recurrence.map fun recurrence =>
      { agendaItemId := item.id, ruleText := recurrence.value, timezone := recurrence.timezone })

/-- The columns of a task update. -/
def TaskRepository.rewritten (task : Task) (dueAt : Option Instant)
    (authorization : AuthorizedAction) (row : TaskRow) : TaskRow :=
  { row with
    title := task.title
    description := task.description
    status := task.status
    priority := task.priority
    dueAt
    classification := task.classification
    version := task.version
    updatedAt := authorization.authorizedAt }

/-- The row a task update leaves. -/
def TaskRepository.written (zones : TimeZones) (task : Task) (authorization : AuthorizedAction)
    (row : TaskRow) : Except PyError TaskRow := do
  let dueAt ← dumpOptional zones task.dueAt
  return rewritten task dueAt authorization row

/-- The columns of a note update. -/
def NoteRepository.rewritten (note : Note) (authorization : AuthorizedAction) (row : Note) : Note :=
  { row with
    title := note.title
    body := note.body
    classification := note.classification
    version := note.version
    categoryPath := note.categoryPath.map strip
    tags := sortedTags note.tags
    attachments := note.attachments
    contentBlocks := note.contentBlocks
    updatedAt := some authorization.authorizedAt }

/-! ### The common contract -/

/-- A repository of versioned records: how they are stored, and its two operations. -/
structure Versions (α ρ : Type) where
  kind : VersionedKind
  store : ρ → StoredRecord
  unstore : StoredRecord → Option ρ
  build : ρ → Except PyError α
  written : α → AuthorizedAction → ρ → Except PyError ρ
  id : α → String
  version : α → Int
  get : String → Database → Except PyError (Option α)
  update : α → Int → AuthorizedAction → Transaction Database PyError α

/-- The contract of a repository of versioned records. -/
structure Versions.Lawful {α ρ : Type} (versions : Versions α ρ) : Prop where
  unstore_store : ∀ stored, versions.unstore (versions.store stored) = some stored
  get_some : ∀ {id db record}, versions.get id db = .ok (some record) →
    ∃ stored, storedAt (versions.kind, id) db = some (versions.store stored) ∧
      versions.build stored = .ok record ∧ versions.id record = id ∧
      versions.version record = (versions.store stored).version
  update_ok : ∀ {record expected authorization db out db'},
    versions.update record expected authorization db = .ok (out, db') →
    ∃ stored written,
      storedAt (versions.kind, versions.id record) db = some (versions.store stored) ∧
      (versions.store stored).version = expected ∧
      versions.written record authorization stored = .ok written ∧
      storedAt (versions.kind, versions.id record) db' = some (versions.store written) ∧
      (versions.store written).version = expected + 1
  update_frame : ∀ {record expected authorization db out db' key},
    versions.update record expected authorization db = .ok (out, db') →
    key ≠ (versions.kind, versions.id record) → storedAt key db' = storedAt key db

/-- An update that went through has found the row of its key, and has rewritten it. -/
theorem updateOne_written {ρ κ : Type} [DecidableEq κ] {key : ρ → κ} {slot : Slot key} {k : κ}
    {q : ρ → Bool} {f : ρ → ρ} {hf : ∀ r, key (f r) = key r} {refusal : PyError}
    {also : Database → Database} {authorization : AuthorizedAction} {db db' : Database} {u : Unit}
    (h : updateOne slot (fun r => decide (key r = k) && q r) f hf refusal also authorization db =
      .ok (u, db')) :
    ∃ row table, (slot.table db).find? k = some row ∧ q row = true ∧
      (∀ k', table.find? k' = if k' = k then some (f row) else (slot.table db).find? k') ∧
      db' = Database.auditAction (also (slot.set db table)) authorization := by
  unfold updateOne at h
  by_cases hcount : (slot.table db).count (fun r => decide (key r = k) && q r) = 1
  · rw [if_neg (not_not.mpr hcount)] at h
    obtain ⟨row, hrow, hguard⟩ := Table.exists_of_count_key hcount
    exact ⟨row, _, hrow, hguard, Table.find?_updateKeyWhere hrow hguard f hf,
      (Prod.mk.inj (Except.ok.inj h)).2.symm⟩
  · rw [if_pos hcount] at h
    cases h

/-! ### Agenda items -/

namespace AgendaRepository

/-- A database that holds nothing but a recurrence rule. -/
def onlyRule : Option RecurrenceRow → Database
  | none => {}
  | some rule => { recurrenceRules := ⟨[rule], by simp⟩ }

/-- `_from_row`, of a row and its recurrence rule. -/
def fromStored (engine : RecurrenceEngine) (stored : AgendaRow × Option RecurrenceRow) :
    Except PyError AgendaItem :=
  fromRow engine (onlyRule stored.2) stored.1

/-- Of the database, reading a row looks at its recurrence rule only. -/
theorem fromRow_eq (engine : RecurrenceEngine) (db : Database) (row : AgendaRow) :
    fromRow engine db row = fromStored engine (row, db.recurrenceRules.find? row.id) := by
  have hrule : recurrenceOf engine db row.id =
      recurrenceOf engine (onlyRule (db.recurrenceRules.find? row.id)) row.id := by
    unfold recurrenceOf
    cases hfind : db.recurrenceRules.find? row.id with
    | none => rfl
    | some rule =>
      have hkey : rule.agendaItemId = row.id := Table.key_of_find? hfind
      have hsame : (onlyRule (some rule)).recurrenceRules.find? row.id = some rule := by
        rw [← hkey]
        exact Table.find?_of_mem (T := (onlyRule (some rule)).recurrenceRules)
          List.mem_cons_self
      rw [hsame]
  unfold fromStored fromRow
  rw [hrule]

/-- What is left of the recurrence rules after an update. -/
theorem find?_writeRecurrence (item : AgendaItem) (db : Database) (id : String) :
    (writeRecurrence item db).recurrenceRules.find? id =
      if id = item.id then item.recurrence.map fun recurrence =>
        { agendaItemId := item.id, ruleText := recurrence.value, timezone := recurrence.timezone }
      else db.recurrenceRules.find? id := by
  unfold writeRecurrence
  cases hrecurrence : item.recurrence with
  | none =>
    change (db.recurrenceRules.deleteWhere fun r => r.agendaItemId = item.id).find? id = _
    rw [Table.find?_deleteWhere]
    cases hfind : db.recurrenceRules.find? id with
    | none => simp
    | some rule =>
      have hkey : rule.agendaItemId = id := Table.key_of_find? hfind
      by_cases hid : id = item.id
      · simp [hid, hkey, Option.filter]
      · simp [hid, hkey, Option.filter]
  | some recurrence =>
    refine (Table.find?_upsert db.recurrenceRules
      { agendaItemId := item.id, ruleText := recurrence.value, timezone := recurrence.timezone }
      (fun r => { r with ruleText := recurrence.value, timezone := recurrence.timezone })
      (fun _ => rfl) id).trans ?_
    by_cases hid : id = item.id
    · rw [if_pos hid, if_pos hid]
      cases hfind : db.recurrenceRules.find? id with
      | none => rfl
      | some rule =>
        have hkey : rule.agendaItemId = item.id := (Table.key_of_find? hfind).trans hid
        simp [← hkey]
    · rw [if_neg hid, if_neg hid]

end AgendaRepository

def agendaVersions (engine : RecurrenceEngine) :
    Versions AgendaItem (AgendaRow × Option RecurrenceRow) where
  kind := .agenda
  store stored := .agenda stored.1 stored.2
  unstore
    | .agenda row rule => some (row, rule)
    | _ => none
  build := AgendaRepository.fromStored engine
  written := AgendaRepository.written engine.zones
  id := AgendaItem.id
  version := AgendaItem.version
  get := AgendaRepository.get engine
  update := AgendaRepository.update engine.zones

/-- Two lookups, of the row and of its rule. -/
theorem storedAt_agenda {id : String} {db : Database} {row : AgendaRow}
    {rule : Option RecurrenceRow} (hrow : db.agendaItems.find? id = some row)
    (hrule : db.recurrenceRules.find? id = rule) :
    storedAt (.agenda, id) db = some (.agenda row rule) := by
  change (db.agendaItems.find? id).map
    (fun row => StoredRecord.agenda row (db.recurrenceRules.find? id)) = _
  rw [hrow, hrule]
  rfl

theorem lawful_agendaVersions (engine : RecurrenceEngine) : (agendaVersions engine).Lawful where
  unstore_store _ := rfl
  get_some := by
    intro id db item h
    obtain ⟨row, hrow, hbuild⟩ := getRow_some.mp h
    obtain ⟨hid, -, hversion, -⟩ := AgendaRepository.fromRow_ok hbuild
    have hkey : row.id = id := Table.key_of_find? hrow
    rw [AgendaRepository.fromRow_eq, hkey] at hbuild
    exact ⟨(row, db.recurrenceRules.find? id), storedAt_agenda hrow rfl, hbuild,
      hid.trans hkey, hversion⟩
  update_ok := by
    intro item expected authorization db out db' h
    obtain ⟨_, -, h⟩ := bind_eq_ok.mp h
    obtain ⟨hversion, h⟩ := raiseIf_bind_ok.mp h
    obtain ⟨startAt, hstart, h⟩ := bind_eq_ok.mp h
    obtain ⟨endAt, hend, h⟩ := bind_eq_ok.mp h
    obtain ⟨⟨_, db''⟩, hupdate, h⟩ := bind_eq_ok.mp h
    obtain ⟨-, rfl⟩ := Prod.mk.inj (Except.ok.inj h)
    obtain ⟨row, table, hrow, hguard, htable, rfl⟩ := updateOne_written hupdate
    simp only [Bool.and_eq_true, decide_eq_true_eq] at hguard
    refine ⟨(row, db.recurrenceRules.find? item.id),
      (AgendaRepository.rewritten item startAt endAt authorization row,
        item.recurrence.map fun recurrence =>
          { agendaItemId := item.id, ruleText := recurrence.value,
            timezone := recurrence.timezone }),
      storedAt_agenda hrow rfl, hguard.2, ?_, ?_, not_not.mp hversion⟩
    · change AgendaRepository.written engine.zones item authorization _ = _
      unfold AgendaRepository.written
      rw [hstart, hend]
      rfl
    · refine storedAt_agenda ?_ ((AgendaRepository.find?_writeRecurrence item _ item.id).trans
        (if_pos rfl))
      have hitems : (AgendaRepository.writeRecurrence item
          (AgendaRepository.slot.set db table)).agendaItems = table := by
        unfold AgendaRepository.writeRecurrence
        cases item.recurrence <;> rfl
      change (AgendaRepository.writeRecurrence item _).agendaItems.find? item.id = _
      rw [hitems, htable, if_pos rfl]
      rfl
  update_frame := by
    intro item expected authorization db out db' key h hkey
    obtain ⟨_, -, h⟩ := bind_eq_ok.mp h
    obtain ⟨-, h⟩ := raiseIf_bind_ok.mp h
    obtain ⟨startAt, -, h⟩ := bind_eq_ok.mp h
    obtain ⟨endAt, -, h⟩ := bind_eq_ok.mp h
    obtain ⟨⟨_, db''⟩, hupdate, h⟩ := bind_eq_ok.mp h
    obtain ⟨-, rfl⟩ := Prod.mk.inj (Except.ok.inj h)
    obtain ⟨row, table, -, -, htable, rfl⟩ := updateOne_written hupdate
    obtain ⟨kind, id⟩ := key
    have hwritten : ∃ rules, AgendaRepository.writeRecurrence item
        (AgendaRepository.slot.set db table) = { db with agendaItems := table, recurrenceRules := rules } := by
      unfold AgendaRepository.writeRecurrence
      cases item.recurrence with
      | none => exact ⟨_, rfl⟩
      | some recurrence => exact ⟨_, rfl⟩
    have hrules := AgendaRepository.find?_writeRecurrence item (AgendaRepository.slot.set db table) id
    obtain ⟨rules, hwritten⟩ := hwritten
    rw [hwritten] at hrules ⊢
    cases kind with
    | task => rfl
    | note => rfl
    | agenda =>
      have hid : id ≠ item.id := fun h => hkey (by rw [h]; rfl)
      rw [if_neg hid] at hrules
      change (table.find? id).map (fun row => StoredRecord.agenda row (rules.find? id)) =
        (db.agendaItems.find? id).map (fun row => .agenda row (db.recurrenceRules.find? id))
      have hrow : table.find? id = db.agendaItems.find? id := (htable id).trans (if_neg hid)
      have hrule : rules.find? id = db.recurrenceRules.find? id := hrules
      rw [hrow, hrule]

/-! ### Tasks and notes -/

def taskVersions (zones : TimeZones) : Versions Task TaskRow where
  kind := .task
  store := .task
  unstore
    | .task row => some row
    | _ => none
  build := TaskRepository.fromRow
  written := TaskRepository.written zones
  id := Task.id
  version := Task.version
  get := TaskRepository.get
  update := TaskRepository.update zones

theorem lawful_taskVersions (zones : TimeZones) : (taskVersions zones).Lawful where
  unstore_store _ := rfl
  get_some := by
    intro id db task h
    obtain ⟨row, hrow, hbuild⟩ := getRow_some.mp h
    obtain ⟨hid, -, hversion, -⟩ := TaskRepository.fromRow_ok hbuild
    refine ⟨row, ?_, hbuild, hid.trans (Table.key_of_find? hrow), hversion⟩
    exact congrArg (Option.map StoredRecord.task) hrow
  update_ok := by
    intro task expected authorization db out db' h
    obtain ⟨_, -, h⟩ := bind_eq_ok.mp h
    obtain ⟨hversion, h⟩ := raiseIf_bind_ok.mp h
    obtain ⟨dueAt, hdue, h⟩ := bind_eq_ok.mp h
    obtain ⟨⟨_, db''⟩, hupdate, h⟩ := bind_eq_ok.mp h
    obtain ⟨-, rfl⟩ := Prod.mk.inj (Except.ok.inj h)
    obtain ⟨row, table, hrow, hguard, htable, rfl⟩ := updateOne_written hupdate
    simp only [Bool.and_eq_true, decide_eq_true_eq] at hguard
    refine ⟨row, TaskRepository.rewritten task dueAt authorization row,
      congrArg (Option.map StoredRecord.task) hrow, hguard.2, ?_, ?_, not_not.mp hversion⟩
    · change TaskRepository.written zones task authorization row = _
      unfold TaskRepository.written
      rw [hdue]
      rfl
    · exact congrArg (Option.map StoredRecord.task) ((htable task.id).trans (if_pos rfl))
  update_frame := by
    intro task expected authorization db out db' key h hkey
    obtain ⟨_, -, h⟩ := bind_eq_ok.mp h
    obtain ⟨-, h⟩ := raiseIf_bind_ok.mp h
    obtain ⟨dueAt, -, h⟩ := bind_eq_ok.mp h
    obtain ⟨⟨_, db''⟩, hupdate, h⟩ := bind_eq_ok.mp h
    obtain ⟨-, rfl⟩ := Prod.mk.inj (Except.ok.inj h)
    obtain ⟨row, table, -, -, htable, rfl⟩ := updateOne_written hupdate
    obtain ⟨kind, id⟩ := key
    cases kind with
    | agenda => rfl
    | note => rfl
    | task =>
      have hid : id ≠ task.id := fun h => hkey (by rw [h]; rfl)
      exact congrArg (Option.map StoredRecord.task) ((htable id).trans (if_neg hid))

def noteVersions : Versions Note Note where
  kind := .note
  store := .note
  unstore
    | .note row => some row
    | _ => none
  build := NoteRepository.fromRow
  written note authorization row := .ok (NoteRepository.rewritten note authorization row)
  id := Note.id
  version := Note.version
  get := NoteRepository.get
  update := NoteRepository.update

theorem lawful_noteVersions : noteVersions.Lawful where
  unstore_store _ := rfl
  get_some := by
    intro id db note h
    obtain ⟨row, hrow, hbuild⟩ := getRow_some.mp h
    obtain ⟨hid, -, hversion, -⟩ := NoteRepository.fromRow_ok hbuild
    refine ⟨row, ?_, hbuild, hid.trans (Table.key_of_find? hrow), hversion⟩
    exact congrArg (Option.map StoredRecord.note) hrow
  update_ok := by
    intro note expected authorization db out db' h
    obtain ⟨_, -, h⟩ := bind_eq_ok.mp h
    obtain ⟨hversion, h⟩ := raiseIf_bind_ok.mp h
    obtain ⟨⟨_, db''⟩, hupdate, h⟩ := bind_eq_ok.mp h
    obtain ⟨-, rfl⟩ := Prod.mk.inj (Except.ok.inj h)
    obtain ⟨row, table, hrow, hguard, htable, rfl⟩ := updateOne_written hupdate
    simp only [Bool.and_eq_true, decide_eq_true_eq] at hguard
    exact ⟨row, NoteRepository.rewritten note authorization row,
      congrArg (Option.map StoredRecord.note) hrow, hguard.2, rfl,
      congrArg (Option.map StoredRecord.note) ((htable note.id).trans (if_pos rfl)),
      not_not.mp hversion⟩
  update_frame := by
    intro note expected authorization db out db' key h hkey
    obtain ⟨_, -, h⟩ := bind_eq_ok.mp h
    obtain ⟨-, h⟩ := raiseIf_bind_ok.mp h
    obtain ⟨⟨_, db''⟩, hupdate, h⟩ := bind_eq_ok.mp h
    obtain ⟨-, rfl⟩ := Prod.mk.inj (Except.ok.inj h)
    obtain ⟨row, table, -, -, htable, rfl⟩ := updateOne_written hupdate
    obtain ⟨kind, id⟩ := key
    cases kind with
    | agenda => rfl
    | task => rfl
    | note =>
      have hid : id ≠ note.id := fun h => hkey (by rw [h]; rfl)
      exact congrArg (Option.map StoredRecord.note) ((htable id).trans (if_neg hid))

end Zhixu
