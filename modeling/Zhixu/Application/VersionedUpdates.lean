import Zhixu.Application.Interleaving
import Zhixu.Application.UpdatePolicy
import Zhixu.Framework.Optimistic
import Zhixu.Storage.Versions

/-!
# Updates of versioned records, interleaved

Seven services read an agenda item, a task or a note in one transaction and write it in
another: `update_agenda`, `update_task`, `transition_task`, `postpone_task`,
`update_note`, `add_note_content_block` and `move_note_category`. Five of them are handed
the version that the client has seen, two go by the version that they read themselves.

The plan. `Versioned` is what makes a service safe: it saves under the version of the
record that it computed from, whichever way it came by it. Every service has it
(`VersionedUpdate.versioned`), so a call in flight is `Sound`: whenever it is allowed to
write, the stored record has the version of the row that the call had read. The invariant
of a run, `Consistent`, says that the commits of each record form a `Commit.Serial`
history and that each flight has read what some part of that history had left. A write
then goes through only if nobody has written in between (`Commit.Serial.eq_of_version`),
which keeps the history serial.
-/

open Framework

namespace Zhixu

/-! ### The other four services -/

structure TransitionTask where
  taskId : String
  expectedVersion : Int
  status : TaskStatus

/-- `transition_task`. -/
def transitionTask (zones : TimeZones) (now : Instant) (command : TransitionTask) :
    Course Task where
  view := taskView
  load := TaskRepository.get command.taskId
  missing := "task not found"
  current task :=
    raiseIf (task.version ≠ command.expectedVersion) (.concurrencyConflict "task changed")
  revise task := task.transition command.status now
  storable := True
  save updated := TaskRepository.update zones updated command.expectedVersion

structure PostponeTask where
  taskId : String
  expectedVersion : Int
  dueAt : DateTime

/-- `postpone_task`. -/
def postponeTask (zones : TimeZones) (now : Instant) (command : PostponeTask) : Course Task where
  view := taskView
  load := TaskRepository.get command.taskId
  missing := "task not found"
  current task :=
    raiseIf (task.version ≠ command.expectedVersion) (.concurrencyConflict "task changed")
  revise task := task.postpone command.dueAt now
  storable := Instant.InRange (command.dueAt.instant zones)
  save updated := TaskRepository.update zones updated command.expectedVersion

structure AddNoteContentBlock where
  noteId : String
  name : String
  body : String := ""
  fields : List NoteField := []

/-- `add_note_content_block`. `blockId` is what `id_factory` returns. The version is the
one of the note that was read, which is one less than the version of the updated note. -/
def addNoteContentBlock (blockId : String) (command : AddNoteContentBlock) : Course Note where
  view := noteView
  load := NoteRepository.get command.noteId
  missing := "note not found"
  current note :=
    raiseIf (note.contentBlocks.any (fun block => block.name = command.name) = true)
      (.validation "note content block name already exists")
  revise note := do
    let block ← NoteContentBlock.checked command.name command.body command.fields blockId
    let updated : Note :=
      { note with contentBlocks := note.contentBlocks ++ [block], version := note.version + 1 }
    updated.validate
    return updated
  storable := True
  save updated := NoteRepository.update updated (updated.version - 1)

structure MoveNoteCategory where
  noteId : String
  categoryPath : List String

/-- `move_note_category`. -/
def moveNoteCategory (command : MoveNoteCategory) : Course Note where
  view := noteView
  load := NoteRepository.get command.noteId
  missing := "note not found"
  current _ := .ok ⟨⟩
  revise note := do
    let updated : Note :=
      { note with categoryPath := command.categoryPath, version := note.version + 1 }
    updated.validate
    return updated
  storable := True
  save updated := NoteRepository.update updated (updated.version - 1)

/-! ### The seven services -/

/-- A call of one of the services, with the time it reads and the id it draws. -/
inductive VersionedUpdate
  | updateAgenda (command : UpdateAgenda)
  | updateTask (command : UpdateTask)
  | transitionTask (now : Instant) (command : TransitionTask)
  | postponeTask (now : Instant) (command : PostponeTask)
  | updateNote (command : UpdateNote)
  | addNoteContentBlock (blockId : String) (command : AddNoteContentBlock)
  | moveNoteCategory (command : MoveNoteCategory)

/-- A course, the id of its record, and the repository it works on. -/
structure VersionedService where
  {α ρ : Type}
  versions : Versions α ρ
  id : String
  course : Course α

namespace VersionedService

variable (service : VersionedService)

def key : RecordKey := (service.versions.kind, service.id)

/-- What the service makes of a stored record. -/
def apply (authorization : AuthorizedAction) (stored : StoredRecord) :
    Except PyError StoredRecord :=
  match service.versions.unstore stored with
  | none => .error .assertion
  | some row => do
    let record ← service.versions.build row
    service.course.current record
    let updated ← service.course.revise record
    service.versions.store <$> service.versions.written updated authorization row

/-- The service works on its repository, and saves under the version of the record that
it computed from. -/
structure Versioned : Prop where
  lawful : service.versions.Lawful
  load_eq : service.course.load = service.versions.get service.id
  save_eq : ∀ {record updated u}, service.course.current record = .ok u →
    service.course.revise record = .ok updated →
    service.versions.id updated = service.versions.id record ∧
      service.course.save updated =
        service.versions.update updated (service.versions.version record)

end VersionedService

namespace VersionedUpdate

def service (engine : RecurrenceEngine) : VersionedUpdate → VersionedService
  | .updateAgenda command =>
    ⟨agendaVersions engine, command.itemId, Zhixu.updateAgenda engine command⟩
  | .updateTask command =>
    ⟨taskVersions engine.zones, command.taskId, Zhixu.updateTask engine.zones command⟩
  | .transitionTask now command =>
    ⟨taskVersions engine.zones, command.taskId, Zhixu.transitionTask engine.zones now command⟩
  | .postponeTask now command =>
    ⟨taskVersions engine.zones, command.taskId, Zhixu.postponeTask engine.zones now command⟩
  | .updateNote command => ⟨noteVersions, command.noteId, Zhixu.updateNote command⟩
  | .addNoteContentBlock blockId command =>
    ⟨noteVersions, command.noteId, Zhixu.addNoteContentBlock blockId command⟩
  | .moveNoteCategory command => ⟨noteVersions, command.noteId, Zhixu.moveNoteCategory command⟩

/-- The record that a call is about. -/
def key (engine : RecurrenceEngine) (op : VersionedUpdate) : RecordKey := (op.service engine).key

/-- What a call makes of a stored record. -/
def apply (engine : RecurrenceEngine) (op : VersionedUpdate) (authorization : AuthorizedAction) :
    StoredRecord → Except PyError StoredRecord :=
  (op.service engine).apply authorization

/-- A service that compares the version with the one it was handed. -/
theorem versioned_of_expected {α ρ : Type} {versions : Versions α ρ} {id : String}
    {course : Course α} {expected : Int} {refusal : PyError} (hlawful : versions.Lawful)
    (hload : course.load = versions.get id)
    (hcurrent : ∀ record, course.current record =
      raiseIf (versions.version record ≠ expected) refusal)
    (hrevise : ∀ record updated, course.revise record = .ok updated →
      versions.id updated = versions.id record)
    (hsave : ∀ updated, course.save updated = versions.update updated expected) :
    VersionedService.Versioned ⟨versions, id, course⟩ where
  lawful := hlawful
  load_eq := hload
  save_eq := by
    intro record updated u hread hupdated
    rw [hcurrent] at hread
    have hversion : versions.version record = expected := not_not.mp (raiseIf_eq_ok.mp hread)
    refine ⟨hrevise record updated hupdated, ?_⟩
    change course.save updated = versions.update updated (versions.version record)
    rw [hversion, hsave]

theorem transition_ok {task updated : Task} {status : TaskStatus} {now : Instant}
    (h : task.transition status now = .ok updated) : updated.id = task.id := by
  obtain ⟨-, h⟩ := raiseIf_bind_ok.mp h
  obtain ⟨_, -, h⟩ := bind_eq_ok.mp h
  obtain rfl := Except.ok.inj h
  rfl

theorem postpone_ok {task updated : Task} {dueAt : DateTime} {now : Instant}
    (h : task.postpone dueAt now = .ok updated) : updated.id = task.id := by
  obtain ⟨-, h⟩ := raiseIf_bind_ok.mp h
  obtain ⟨_, -, h⟩ := bind_eq_ok.mp h
  obtain rfl := Except.ok.inj h
  rfl

theorem addNoteContentBlock_revise {blockId : String} {command : AddNoteContentBlock}
    {note updated : Note} (h : (Zhixu.addNoteContentBlock blockId command).revise note = .ok updated) :
    updated.id = note.id ∧ updated.version = note.version + 1 := by
  obtain ⟨_, -, h⟩ := bind_eq_ok.mp h
  obtain ⟨_, -, h⟩ := bind_eq_ok.mp h
  obtain rfl := Except.ok.inj h
  exact ⟨rfl, rfl⟩

theorem moveNoteCategory_revise {command : MoveNoteCategory} {note updated : Note}
    (h : (Zhixu.moveNoteCategory command).revise note = .ok updated) :
    updated.id = note.id ∧ updated.version = note.version + 1 := by
  obtain ⟨_, -, h⟩ := bind_eq_ok.mp h
  obtain rfl := Except.ok.inj h
  exact ⟨rfl, rfl⟩

/-- A note service that goes by the version it read. -/
theorem versioned_of_read {id : String} {course : Course Note}
    (hload : course.load = NoteRepository.get id)
    (hrevise : ∀ note updated, course.revise note = .ok updated →
      updated.id = note.id ∧ updated.version = note.version + 1)
    (hsave : ∀ updated, course.save updated =
      NoteRepository.update updated (updated.version - 1)) :
    VersionedService.Versioned ⟨noteVersions, id, course⟩ where
  lawful := lawful_noteVersions
  load_eq := hload
  save_eq := by
    intro note updated u _ hupdated
    obtain ⟨hid, hversion⟩ := hrevise note updated hupdated
    refine ⟨hid, ?_⟩
    change course.save updated = NoteRepository.update updated note.version
    rw [hsave, hversion, add_sub_cancel_right]

/-- **Every service saves under the version of what it computed from.** -/
theorem versioned (engine : RecurrenceEngine) (op : VersionedUpdate) :
    (op.service engine).Versioned := by
  cases op with
  | updateAgenda command =>
    exact versioned_of_expected (lawful_agendaVersions engine) rfl (fun _ => rfl)
      (fun _ _ h => (updateAgenda_revise h).1) fun _ => rfl
  | updateTask command =>
    exact versioned_of_expected (lawful_taskVersions engine.zones) rfl (fun _ => rfl)
      (fun _ _ h => (updateTask_revise h).1) fun _ => rfl
  | transitionTask now command =>
    exact versioned_of_expected (lawful_taskVersions engine.zones) rfl (fun _ => rfl)
      (fun _ _ h => transition_ok h) fun _ => rfl
  | postponeTask now command =>
    exact versioned_of_expected (lawful_taskVersions engine.zones) rfl (fun _ => rfl)
      (fun _ _ h => postpone_ok h) fun _ => rfl
  | updateNote command =>
    exact versioned_of_expected lawful_noteVersions rfl (fun _ => rfl)
      (fun _ _ h => (updateNote_revise h).1) fun _ => rfl
  | addNoteContentBlock blockId command =>
    exact versioned_of_read rfl (fun _ _ h => addNoteContentBlock_revise h) fun _ => rfl
  | moveNoteCategory command =>
    exact versioned_of_read rfl (fun _ _ h => moveNoteCategory_revise h) fun _ => rfl

/-! ### Calls in flight -/

/-- What a call that has read `base` does when it writes: it finds its record at the version
of `base`, leaves the next version there, which is what the service makes of `base` if that
is still what is stored, and touches no other record. -/
def SavesFrom (engine : RecurrenceEngine) (op : VersionedUpdate) (base : StoredRecord)
    (prepared : Prepared) : Prop :=
  ∀ {authorization db u db'}, prepared.save authorization db = .ok (u, db') →
    ∃ stored value, storedAt (op.key engine) db = some stored ∧ stored.version = base.version ∧
      storedAt (op.key engine) db' = some value ∧ value.version = base.version + 1 ∧
      (stored = base → op.apply engine authorization base = .ok value) ∧
      ∀ key, key ≠ op.key engine → storedAt key db' = storedAt key db

/-- **What a call reads is what it computes from**, and the version it read is the one it
insists on. -/
theorem prepare_ok {engine : RecurrenceEngine} {op : VersionedUpdate} {db : Database}
    {prepared : Prepared} (h : (op.service engine).course.prepare db = .ok prepared) :
    ∃ base, storedAt (op.key engine) db = some base ∧ SavesFrom engine op base prepared := by
  obtain ⟨hlawful, hload, hsave⟩ := op.versioned engine
  unfold Course.prepare at h
  rw [hload] at h
  rcases hget : (op.service engine).versions.get (op.service engine).id db with e | existing
  · rw [hget] at h; cases h
  · rw [hget] at h
    cases existing with
    | none => cases h
    | some record =>
      obtain ⟨row, hstored, hbuild, hid, hversion⟩ := hlawful.get_some hget
      obtain ⟨u, updated, ref, hcurrent, hrevise, -, rfl⟩ := Course.prepareFrom_ok.mp h
      obtain ⟨hsameId, hupdate⟩ := hsave hcurrent hrevise
      refine ⟨(op.service engine).versions.store row, hstored, ?_⟩
      intro authorization db₁ _ db₂ hwrite
      obtain ⟨out, hwrite⟩ := unanswered_ok.mp hwrite
      rw [hupdate, hversion] at hwrite
      have hkey : ((op.service engine).versions.kind, (op.service engine).versions.id updated) =
          op.key engine := by
        rw [hsameId, hid]
        rfl
      obtain ⟨stored, written, hfound, hexpected, hwritten, hleft, hnext⟩ :=
        hlawful.update_ok hwrite
      rw [hkey] at hfound hleft
      refine ⟨_, _, hfound, hexpected, hleft, hnext, fun hsame => ?_, fun key hne => ?_⟩
      · -- both come from one stored record
        have hrow : stored = row := by
          have hunstore := congrArg (op.service engine).versions.unstore hsame
          rw [hlawful.unstore_store, hlawful.unstore_store] at hunstore
          exact Option.some.inj hunstore
        subst hrow
        change VersionedService.apply _ _ _ = _
        unfold VersionedService.apply
        rw [hlawful.unstore_store]
        simp only
        rw [hbuild]
        change ((op.service engine).course.current record >>= fun _ => _) = _
        rw [hcurrent]
        change ((op.service engine).course.revise record >>= fun _ => _) = _
        rw [hrevise]
        change (op.service engine).versions.store <$> (op.service engine).versions.written updated
          authorization stored = _
        rw [hwritten]
        rfl
      · exact hlawful.update_frame hwrite (by rw [hkey]; exact hne)

end VersionedUpdate

/-! ### Runs -/

section Runs

variable {Client : Type} [DecidableEq Client] (engine : RecurrenceEngine)

/-- The seven services. -/
def versionedServices : Services VersionedUpdate StoredRecord where
  prepare op := (op.service engine).course.prepare
  target op := storedAt (op.key engine)

/-- The clients of the seven services. -/
def versionedClients : Machine (System Client VersionedUpdate StoredRecord)
    (SystemCall Client VersionedUpdate) (SystemOutcome VersionedUpdate StoredRecord) :=
  Interleaving.machine (versionedServices engine)

/-- What else goes on leaves the versioned records alone. -/
def OthersKeep (g : Stage (System Client VersionedUpdate StoredRecord)
    (SystemCall Client VersionedUpdate) (SystemOutcome VersionedUpdate StoredRecord)) :
    SystemCall Client VersionedUpdate → Prop
  | .outside db => ∀ key, storedAt key db = storedAt key g.state.db
  | _ => True

/-- The commit of a record in an outcome. -/
def commitOf (key : RecordKey) : SystemOutcome VersionedUpdate StoredRecord →
    Option (Commit (VersionedUpdate × AuthorizedAction) StoredRecord)
  | .written op authorization (some base) (some value) =>
    if op.key engine = key then some ⟨(op, authorization), base, value⟩ else none
  | _ => none

/-- The commits of a record in a log, newest first. -/
def commitsOf (key : RecordKey) (log : List (Entry (SystemCall Client VersionedUpdate)
    (SystemOutcome VersionedUpdate StoredRecord))) :
    List (Commit (VersionedUpdate × AuthorizedAction) StoredRecord) :=
  log.filterMap fun entry => commitOf engine key entry.outcome

/-- The writer of a commit, as a function of what it is applied to. -/
def applyWriter (writer : VersionedUpdate × AuthorizedAction) :
    StoredRecord → Except PyError StoredRecord :=
  writer.1.apply engine writer.2

/-- A flight has read what some part of the history of its record had left. -/
def Sound (initial : RecordKey → Option StoredRecord)
    (commits : RecordKey → List (Commit (VersionedUpdate × AuthorizedAction) StoredRecord))
    (flight : Flight VersionedUpdate StoredRecord) : Prop :=
  ∃ first older, initial (flight.op.key engine) = some first ∧
    older <:+ commits (flight.op.key engine) ∧ flight.base = some (Commit.current first older) ∧
    flight.op.SavesFrom engine (Commit.current first older) flight.prepared

/-- The commits of a record are a serial history that ends with what is stored. -/
structure History (first : StoredRecord)
    (log : List (Commit (VersionedUpdate × AuthorizedAction) StoredRecord))
    (stored : Option StoredRecord) : Prop where
  serial : Commit.Serial StoredRecord.version first log
  stored_eq : stored = some (Commit.current first log)
  applied : ∀ commit ∈ log, applyWriter engine commit.writer commit.base = .ok commit.value

/-- The invariant of a run from a database. -/
structure Consistent (db : Database) (g : Stage (System Client VersionedUpdate StoredRecord)
    (SystemCall Client VersionedUpdate) (SystemOutcome VersionedUpdate StoredRecord)) : Prop where
  history : ∀ key first, storedAt key db = some first →
    History engine first (commitsOf engine key g.log) (storedAt key g.state.db)
  absent : ∀ key, storedAt key db = none → storedAt key g.state.db = none
  sound : ∀ client flight, g.state.flights client = some flight →
    Sound engine (fun key => storedAt key db) (fun key => commitsOf engine key g.log) flight
  recorded : ∀ entry ∈ g.log, ∀ op authorization base value,
    entry.outcome = .written op authorization base value →
      ∃ b v, base = some b ∧ value = some v

variable {engine} {db : Database} {g : Stage (System Client VersionedUpdate StoredRecord)
  (SystemCall Client VersionedUpdate) (SystemOutcome VersionedUpdate StoredRecord)}

omit [DecidableEq Client] in
/-- A step that writes nothing keeps the commits. -/
theorem commitsOf_cons_of_none {entry : Entry (SystemCall Client VersionedUpdate)
    (SystemOutcome VersionedUpdate StoredRecord)} {log} {key : RecordKey}
    (h : commitOf engine key entry.outcome = none) :
    commitsOf engine key (entry :: log) = commitsOf engine key log := by
  unfold commitsOf
  rw [List.filterMap_cons, h]

/-- **A step that writes nothing**: the stored records stay, and so do the flights that it
does not start itself. -/
theorem Consistent.quiet {call : SystemCall Client VersionedUpdate}
    (h : Consistent engine db g)
    (hquiet : ∀ op authorization base value,
      ((versionedClients engine).exec g.state call).1 ≠ .written op authorization base value)
    (hstored : ∀ key, storedAt key ((versionedClients engine).exec g.state call).2.db =
      storedAt key g.state.db)
    (hflights : ∀ client flight,
      ((versionedClients engine).exec g.state call).2.flights client = some flight →
        Sound engine (fun key => storedAt key db) (fun key => commitsOf engine key g.log) flight) :
    Consistent engine db ((versionedClients engine).advance g call) := by
  have hcommits : ∀ key, commitsOf engine key ((versionedClients engine).advance g call).log =
      commitsOf engine key g.log := by
    intro key
    refine commitsOf_cons_of_none ?_
    change commitOf engine key ((versionedClients engine).exec g.state call).1 = none
    cases hout : ((versionedClients engine).exec g.state call).1 with
    | going => rfl
    | raised e => rfl
    | written op authorization base value => exact absurd hout (hquiet op authorization base value)
  refine ⟨fun key first hfirst => ?_, fun key hnone => ?_, fun client flight hflight => ?_, ?_⟩
  · rw [hcommits]
    change History engine first _ (storedAt key ((versionedClients engine).exec g.state call).2.db)
    rw [hstored]
    exact h.history key first hfirst
  · exact (hstored key).trans (h.absent key hnone)
  · simp only [hcommits]
    exact hflights client flight hflight
  · intro entry hentry op authorization base value hout
    cases List.mem_cons.mp hentry with
    | inl heq => exact absurd (by rw [← hout, heq]; rfl) (hquiet op authorization base value)
    | inr hmem => exact h.recorded entry hmem op authorization base value hout

/-- Ending or starting the flight of one client leaves the others in the air. -/
theorem flights_fly {s : System Client VersionedUpdate StoredRecord} {client : Client}
    {new : Option (Flight VersionedUpdate StoredRecord)} {P : Flight VersionedUpdate StoredRecord → Prop}
    (hold : ∀ client flight, s.flights client = some flight → P flight)
    (hnew : ∀ flight, new = some flight → P flight) (other : Client)
    (flight : Flight VersionedUpdate StoredRecord)
    (h : (Interleaving.fly s client new).flights other = some flight) : P flight := by
  change Function.update s.flights client new other = some flight at h
  by_cases hother : other = client
  · rw [hother, Function.update_self] at h
    exact hnew flight h
  · rw [Function.update_of_ne hother] at h
    exact hold other flight h

/-- A call that reads has the current value of its record, so it is sound. -/
theorem Consistent.read (h : Consistent engine db g) (client : Client) (op : VersionedUpdate)
    (now : Instant) (context : CommandContext) :
    Consistent engine db
      ((versionedClients engine).advance g (.read client op now context)) := by
  have hexec : (versionedClients engine).exec g.state (.read client op now context) =
      Interleaving.read (versionedServices engine) g.state client op now context := rfl
  unfold Interleaving.read at hexec
  cases hprepare : (versionedServices engine).prepare op g.state.db with
  | error e =>
    rw [hprepare] at hexec
    refine h.quiet (by rw [hexec]; simp [Interleaving.crash]) (fun _ => by rw [hexec]; rfl) ?_
    rw [hexec]
    exact flights_fly h.sound (by simp)
  | ok prepared =>
    rw [hprepare] at hexec
    refine h.quiet (by rw [hexec]; simp) (fun _ => by rw [hexec]; rfl) ?_
    rw [hexec]
    refine flights_fly h.sound fun flight hflight => ?_
    obtain rfl := Option.some.inj hflight
    obtain ⟨base, hbase, hsaves⟩ := VersionedUpdate.prepare_ok hprepare
    -- a record that is there now was there in the beginning
    cases hfirst : storedAt (op.key engine) db with
    | none =>
      rw [h.absent _ hfirst] at hbase
      cases hbase
    | some first =>
      have hcurrent := (h.history _ first hfirst).stored_eq
      rw [hbase] at hcurrent
      obtain rfl := Option.some.inj hcurrent
      exact ⟨first, _, hfirst, List.suffix_rfl, hbase, hsaves⟩

/-- A flight that was authorized is the same flight. -/
theorem Consistent.authorize (h : Consistent engine db g) (client : Client) :
    Consistent engine db ((versionedClients engine).advance g (.authorize client)) := by
  have hexec : (versionedClients engine).exec g.state (.authorize client) =
      Interleaving.authorize g.state client := rfl
  unfold Interleaving.authorize at hexec
  cases hflight : g.state.flights client with
  | none =>
    rw [hflight] at hexec
    refine h.quiet (by rw [hexec]; simp) (fun _ => by rw [hexec]) ?_
    rw [hexec]
    exact h.sound
  | some flight =>
    rw [hflight] at hexec
    simp only at hexec
    cases hrequire : g.state.db.policyEngine.require flight.context .update flight.prepared.ref with
    | error e =>
      rw [hrequire] at hexec
      refine h.quiet (by rw [hexec]; simp [Interleaving.crash]) (fun _ => by rw [hexec]; rfl) ?_
      rw [hexec]
      exact flights_fly h.sound (by simp)
    | ok authorization =>
      rw [hrequire] at hexec
      refine h.quiet (by rw [hexec]; simp) (fun _ => by rw [hexec]; rfl) ?_
      rw [hexec]
      refine flights_fly h.sound fun flight' hflight' => ?_
      obtain rfl := Option.some.inj hflight'
      obtain ⟨first, older, hfirst, hsuffix, hbase, hsaves⟩ := h.sound client flight hflight
      exact ⟨first, older, hfirst, hsuffix, hbase, hsaves⟩

/-- What goes on outside leaves the records alone. -/
theorem Consistent.outside (h : Consistent engine db g) {db' : Database}
    (hkeep : ∀ key, storedAt key db' = storedAt key g.state.db) :
    Consistent engine db ((versionedClients engine).advance g (.outside db')) :=
  h.quiet (by simp [versionedClients, Interleaving.machine]) hkeep h.sound

omit [DecidableEq Client] in
/-- **A write that goes through was computed from what is stored.** It finds the version
that its call had read, so nothing was written in between. -/
theorem Consistent.committed (h : Consistent engine db g) {client : Client}
    {flight : Flight VersionedUpdate StoredRecord} (hflight : g.state.flights client = some flight)
    {authorization : AuthorizedAction} {u : Unit} {db' : Database}
    (hwrite : flight.prepared.save authorization g.state.db = .ok (u, db')) :
    ∃ first value, storedAt (flight.op.key engine) db = some first ∧
      flight.base =
        some (Commit.current first (commitsOf engine (flight.op.key engine) g.log)) ∧
      storedAt (flight.op.key engine) db' = some value ∧
      value.version =
        (Commit.current first (commitsOf engine (flight.op.key engine) g.log)).version + 1 ∧
      flight.op.apply engine authorization
        (Commit.current first (commitsOf engine (flight.op.key engine) g.log)) = .ok value ∧
      ∀ key, key ≠ flight.op.key engine → storedAt key db' = storedAt key g.state.db := by
  obtain ⟨first, older, hfirst, hsuffix, hbase, hsaves⟩ := h.sound client flight hflight
  obtain ⟨stored, value, hstored, hversion, hleft, hnext, happly, hframe⟩ := hsaves hwrite
  have history := h.history _ first hfirst
  rw [history.stored_eq] at hstored
  obtain rfl := Option.some.inj hstored
  obtain rfl := history.serial.eq_of_version hsuffix hversion.symm
  exact ⟨first, value, hfirst, hbase, hleft, hnext, happly rfl, hframe⟩

/-- One more commit on a history. -/
theorem History.commit {first base value : StoredRecord}
    {log : List (Commit (VersionedUpdate × AuthorizedAction) StoredRecord)}
    {stored : Option StoredRecord} (h : History engine first log stored)
    {writer : VersionedUpdate × AuthorizedAction} (hbase : base = Commit.current first log)
    (hnext : value.version = base.version + 1)
    (happly : applyWriter engine writer base = .ok value) :
    History engine first (⟨writer, base, value⟩ :: log) (some value) where
  serial := ⟨hbase, hnext, h.serial⟩
  stored_eq := rfl
  applied := by
    intro commit hcommit
    cases List.mem_cons.mp hcommit with
    | inl heq => rw [heq]; exact happly
    | inr hmem => exact h.applied commit hmem

theorem Consistent.writeFor (h : Consistent engine db g) {client : Client}
    {flight : Flight VersionedUpdate StoredRecord} (hflight : g.state.flights client = some flight)
    {authorization : AuthorizedAction}
    (hauthorized : flight.authorization = some authorization) :
    Consistent engine db ((versionedClients engine).advance g (.write client)) := by
  have hexec : (versionedClients engine).exec g.state (.write client) =
      Interleaving.writeFor (versionedServices engine) g.state client flight authorization := by
    change Interleaving.write (versionedServices engine) g.state client = _
    unfold Interleaving.write
    rw [hflight]
    simp only
    rw [hauthorized]
  unfold Interleaving.writeFor at hexec
  cases hwrite : flight.prepared.save authorization g.state.db with
  | error e =>
    rw [hwrite] at hexec
    refine h.quiet (by rw [hexec]; simp [Interleaving.crash]) (fun _ => by rw [hexec]; rfl) ?_
    rw [hexec]
    exact flights_fly h.sound (by simp)
  | ok out =>
    obtain ⟨u, db'⟩ := out
    rw [hwrite] at hexec
    obtain ⟨first, value, hfirst, hbase, hleft, hnext, happly, hframe⟩ := h.committed hflight hwrite
    have hlog : ((versionedClients engine).advance g (.write client)).log =
        ⟨.write client, .written flight.op authorization flight.base (some value)⟩ :: g.log := by
      rw [Machine.advance_log]
      unfold Machine.entry
      rw [hexec]
      rw [← hleft]
      rfl
    have hstate : ((versionedClients engine).advance g (.write client)).state =
        Interleaving.fly { g.state with db := db' } client none := by
      rw [Machine.advance_state, hexec]
    have hcommits : ∀ key, commitsOf engine key ((versionedClients engine).advance g
        (.write client)).log = if flight.op.key engine = key then
          ⟨(flight.op, authorization), Commit.current first (commitsOf engine
            (flight.op.key engine) g.log), value⟩ :: commitsOf engine key g.log
          else commitsOf engine key g.log := by
      intro key
      rw [hlog, hbase]
      unfold commitsOf
      have hcommit : ∀ base value, commitOf engine key
          (.written flight.op authorization (some base) (some value)) =
            if flight.op.key engine = key then some ⟨(flight.op, authorization), base, value⟩
            else none := fun _ _ => rfl
      rw [List.filterMap_cons, hcommit]
      by_cases hkey : flight.op.key engine = key
      · rw [if_pos hkey, if_pos hkey]
      · rw [if_neg hkey, if_neg hkey]
    refine ⟨fun key first' hfirst' => ?_, fun key hnone => ?_, fun other flight' hflight' => ?_, ?_⟩
    · rw [hcommits, hstate]
      change History engine first' _ (storedAt key db')
      by_cases hkey : flight.op.key engine = key
      · subst hkey
        obtain rfl : first = first' := Option.some.inj (hfirst.symm.trans hfirst')
        rw [if_pos rfl, hleft]
        exact (h.history _ first hfirst).commit rfl hnext happly
      · rw [if_neg hkey, hframe key (Ne.symm hkey)]
        exact h.history key first' hfirst'
    · rw [hstate]
      change storedAt key db' = none
      have hkey : key ≠ flight.op.key engine := by
        rintro rfl
        rw [hfirst] at hnone
        cases hnone
      rw [hframe key hkey]
      exact h.absent key hnone
    · -- a longer history has the same beginnings
      rw [hstate] at hflight'
      obtain ⟨first', older, hfirst', hsuffix, hbase', hsaves⟩ :=
        flights_fly (s := { g.state with db := db' }) h.sound (by simp) other flight' hflight'
      refine ⟨first', older, hfirst', ?_, hbase', hsaves⟩
      simp only [hcommits]
      by_cases hkey : flight.op.key engine = flight'.op.key engine
      · rw [if_pos hkey]
        exact hsuffix.trans (List.suffix_cons _ _)
      · rw [if_neg hkey]
        exact hsuffix
    · intro entry hentry op authorization' base value' hout
      rw [hlog] at hentry
      cases List.mem_cons.mp hentry with
      | inl heq =>
        rw [heq] at hout
        injection hout with _ _ hb hv
        exact ⟨_, _, hb ▸ hbase, hv.symm⟩
      | inr hmem => exact h.recorded entry hmem op authorization' base value' hout

/-- **Every step keeps the invariant.** -/
theorem Consistent.step (h : Consistent engine db g) {call : SystemCall Client VersionedUpdate}
    (hguard : OthersKeep g call) : Consistent engine db ((versionedClients engine).advance g call) := by
  cases call with
  | read client op now context => exact h.read client op now context
  | authorize client => exact h.authorize client
  | outside db' => exact h.outside hguard
  | write client =>
    have hidle : (∀ flight authorization, g.state.flights client = some flight →
        flight.authorization = some authorization → False) →
        (versionedClients engine).exec g.state (.write client) = (.going, g.state) := by
      intro hnone
      change Interleaving.write (versionedServices engine) g.state client = _
      unfold Interleaving.write
      cases hflight : g.state.flights client with
      | none => rfl
      | some flight =>
        simp only
        cases hauthorized : flight.authorization with
        | none => rfl
        | some authorization => exact absurd hauthorized fun ha => hnone flight _ hflight ha
    by_cases hready : ∃ flight authorization, g.state.flights client = some flight ∧
        flight.authorization = some authorization
    · obtain ⟨flight, authorization, hflight, hauthorized⟩ := hready
      exact h.writeFor hflight hauthorized
    · have hexec := hidle fun flight authorization hflight hauthorized =>
        hready ⟨flight, authorization, hflight, hauthorized⟩
      refine h.quiet (by rw [hexec]; simp) (fun _ => by rw [hexec]) ?_
      rw [hexec]
      exact h.sound

omit [DecidableEq Client] in
theorem Consistent.initial (db : Database) : Consistent engine db
    (Machine.start (Interleaving.idle db : System Client VersionedUpdate StoredRecord)) where
  history _ _ hfirst := ⟨trivial, hfirst, by simp [commitsOf]⟩
  absent _ hnone := hnone
  sound _ _ h := by cases h
  recorded _ h := by cases h

/-! ### No lost update -/

/-- What a log says about a record that was there in the beginning. -/
structure Serialised (engine : RecurrenceEngine) (key : RecordKey) (first : StoredRecord)
    (g : Stage (System Client VersionedUpdate StoredRecord) (SystemCall Client VersionedUpdate)
      (SystemOutcome VersionedUpdate StoredRecord)) : Prop where
  /-- every version since the beginning was written by one committed call, and no other was -/
  versions : ∀ n, (commitsOf engine key g.log).countP (fun commit => commit.value.version = n) =
    if first.version < n ∧ n ≤ (Commit.current first (commitsOf engine key g.log)).version then 1
    else 0
  /-- every committed call computed its value from what was stored at the version before -/
  based : ∀ newer commit older, commitsOf engine key g.log = newer ++ commit :: older →
    commit.base = Commit.current first older ∧
      commit.value.version = commit.base.version + 1 ∧
      applyWriter engine commit.writer commit.base = .ok commit.value
  /-- the stored record is the last value committed -/
  stored : storedAt key g.state.db = some (Commit.current first (commitsOf engine key g.log))
  /-- which is the result of all committed calls, one after the other -/
  replayed : Commit.replay first (applyWriter engine) (commitsOf engine key g.log) =
    .ok (Commit.current first (commitsOf engine key g.log))
  /-- and the commits are all the calls that have written the record -/
  recorded : ∀ entry ∈ g.log, ∀ op authorization base value,
    entry.outcome = .written op authorization base value → op.key engine = key →
      ∃ commit ∈ commitsOf engine key g.log, commit.writer = (op, authorization) ∧
        base = some commit.base ∧ value = some commit.value

/-- **No update of a versioned record is lost.** In every interleaving of the seven
services by any number of clients, the committed calls on a record are serialised by its
versions. -/
theorem no_lost_update {key : RecordKey} {first : StoredRecord}
    (hrun : (versionedClients engine).Reaches OthersKeep
      (Machine.start (Interleaving.idle db)) g)
    (hfirst : storedAt key db = some first) : Serialised engine key first g := by
  have hconsistent : Consistent engine db g :=
    Machine.Reaches.invariant (Consistent.initial db) hrun fun _ _ hguard h => h.step hguard
  obtain ⟨hserial, hstored, happlied⟩ := hconsistent.history key first hfirst
  refine ⟨hserial.countP_version, fun newer commit older hlog => ?_, hstored,
    hserial.replay_eq happlied, fun entry hentry op authorization base value hout hkey => ?_⟩
  · have happly := happlied commit (by rw [hlog]; simp)
    rw [hlog] at hserial
    exact ⟨hserial.base_eq, hserial.next_version, happly⟩
  · obtain ⟨b, v, rfl, rfl⟩ := hconsistent.recorded entry hentry op authorization base value hout
    refine ⟨⟨(op, authorization), b, v⟩, ?_, rfl, rfl, rfl⟩
    refine List.mem_filterMap.mpr ⟨entry, hentry, ?_⟩
    rw [hout]
    exact if_pos hkey

end Runs

/-! ### Two clients of one task -/

def planTask : TaskRow where
  id := "t1"
  ownerUserId := "alice"
  creatorUserId := none
  title := "plan"
  description := ""
  status := .pending
  priority := 0
  dueAt := none
  classification := .personal
  version := 1
  createdAt := 0
  updatedAt := 0

def taskStored : Database where
  tasks := ⟨[planTask], by simp⟩

/-- Both clients read the task, then both try to write it. -/
def overlapping : List (SystemCall Bool VersionedUpdate) :=
  [.read true (.updateTask retitle) 0 aliceByChat,
    .read false (.transitionTask 0 ⟨"t1", 1, .completed⟩) 0 aliceByChat,
    .authorize true, .authorize false, .write false, .write true]

/-- The first of the two writes is committed, the other one is refused. -/
theorem no_lost_update_overlapping :
    Serialised utcOnly (.task, "t1") (.task planTask)
        ((versionedClients utcOnly).replay (Machine.start (Interleaving.idle taskStored)) overlapping) ∧
      (commitsOf utcOnly (.task, "t1") ((versionedClients utcOnly).replay
        (Machine.start (Interleaving.idle taskStored)) overlapping).log).length = 1 := by
  refine ⟨no_lost_update (Machine.Reaches.of_follows ?_) rfl, rfl⟩
  exact ⟨trivial, trivial, trivial, trivial, trivial, trivial, trivial⟩

end Zhixu
