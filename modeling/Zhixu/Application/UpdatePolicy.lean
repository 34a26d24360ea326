import Zhixu.Application.Updates

/-!
# What an update needs of the stored record

An update *upholds* the stored classification when its success implies that the
policy would also have allowed it on the record as stored. `Course.Lowers` is the
one way to fail: everything else about the request is in order, the stored record
is confidential, the new one is not, and the context is a group chat or has no
step-up. `Course.upholds_iff` proves the two complementary for every lawful
course.

A course is lawful (`Course.Lawful`) when loading checks the record, revising
keeps its id and owner, and saving an authorized update succeeds exactly when its
times can be written. The six services are lawful, each by one lemma, and
`update_upholds_iff` is the result for all of them.
-/

open Framework

namespace Zhixu

namespace Course

variable {α : Type}

/-- If the update succeeds, the policy also allows it on the record as stored. -/
def Upholds (course : Course α) (now : Instant) (context : CommandContext) (db : Database) :
    Prop :=
  ∀ record db', (course.run now context).exec db = (.ok record, db') →
    ∃ existing ref authorization, course.load db = .ok (some existing) ∧
      course.view.ref existing = .ok ref ∧
      db.policyEngine.require (context.at' now) .update ref = .ok authorization

/-- An update in order that takes a confidential record below confidential, in a
context that may not handle confidential records. -/
structure Lowers (course : Course α) (context : CommandContext) (db : Database)
    (existing updated : α) : Prop where
  found : course.load db = .ok (some existing)
  current : course.current existing = .ok ⟨⟩
  valid : course.revise existing = .ok updated
  storable : course.storable
  standing : ∃ ref, course.view.ref existing = .ok ref ∧
    db.policyEngine.Standing context .update ref
  confidential : course.view.classification existing = .confidential
  lowered : course.view.classification updated < .confidential
  unproven : context.requestChannel = .groupChat ∨ context.authentication ≠ .stepUp

/-- What the result asks of a course. -/
structure Lawful (course : Course α) : Prop where
  named : ∀ db existing, course.load db = .ok (some existing) →
    isBlank course.view.kind = false ∧ isBlank (course.view.id existing) = false ∧
      isBlank (course.view.owner existing) = false
  ordinary : ∀ db existing, course.load db = .ok (some existing) →
    course.view.classification existing ≤ .confidential
  same : ∀ existing updated, course.revise existing = .ok updated →
    course.view.id updated = course.view.id existing ∧
      course.view.owner updated = course.view.owner existing
  saves : ∀ db existing updated ref authorization, course.load db = .ok (some existing) →
    course.current existing = .ok ⟨⟩ → course.revise existing = .ok updated →
    course.view.ref updated = .ok ref → authorization.action = .update →
    authorization.resource = ref →
    ((∃ out, course.save updated authorization db = .ok out) ↔ course.storable)

/-- **Inversion of an update.** -/
theorem run_ok {course : Course α} {now : Instant} {context : CommandContext}
    {db db' : Database} {record : α} :
    (course.run now context).exec db = (.ok record, db') ↔
      ∃ existing updated ref authorization, course.load db = .ok (some existing) ∧
        course.current existing = .ok ⟨⟩ ∧ course.revise existing = .ok updated ∧
        course.view.ref updated = .ok ref ∧
        db.policyEngine.require (context.at' now) .update ref = .ok authorization ∧
        course.save updated authorization db = .ok (record, db') := by
  unfold run
  rw [Effect.exec_bind, Effect.exec_query]
  cases hload : course.load db with
  | error err => simp
  | ok existing =>
    cases existing with
    | none => simp
    | some existing =>
      simp only
      rw [Effect.exec_check_bind]
      cases hcurrent : course.current existing with
      | error err => simp [hcurrent]
      | ok u =>
        simp only
        rw [Effect.exec_check_bind]
        cases hrevise : course.revise existing with
        | error err => simp [hrevise]
        | ok updated =>
          simp only
          rw [Effect.exec_check_bind]
          cases href : course.view.ref updated with
          | error err => simp [hrevise, href]
          | ok ref =>
            simp only
            rw [Effect.exec_bind, Effect.exec_query]
            cases hrequire : db.policyEngine.require (context.at' now) .update ref with
            | error err => simp [hrevise, href, hrequire]
            | ok authorization =>
              simp only
              rw [Effect.exec_atomically_ok]
              constructor
              · intro hsave
                exact ⟨existing, updated, ref, authorization, rfl, hcurrent, hrevise, href,
                  hrequire, hsave⟩
              · rintro ⟨existing', updated', ref', authorization', hload', -, hrevise', href',
                  hrequire', hsave⟩
                obtain rfl := Option.some.inj (Except.ok.inj hload')
                rw [hrevise] at hrevise'
                obtain rfl := Except.ok.inj hrevise'
                rw [href] at href'
                obtain rfl := Except.ok.inj href'
                rw [hrequire] at hrequire'
                obtain rfl := Except.ok.inj hrequire'
                exact hsave

/-- When the policy grants an update of a record the context has a standing on. -/
theorem require_update_ok {db : Database} {context : CommandContext} {now : Instant}
    {ref : ResourceRef} {authorization : AuthorizedAction} :
    db.policyEngine.require (context.at' now) .update ref = .ok authorization ↔
      PolicyEngine.Handled context ref.classification ∧
        db.policyEngine.Standing context .update ref ∧
        authorization = ⟨context.actorUserId, .update, ref, now⟩ := by
  rw [PolicyEngine.require_ok_iff]
  constructor
  · rintro ⟨hhandled, hstanding, -, t, ht, rfl⟩
    obtain rfl := Option.some.inj ht
    exact ⟨hhandled, hstanding, rfl⟩
  · rintro ⟨hhandled, hstanding, rfl⟩
    exact ⟨hhandled, hstanding, PolicyEngine.actionAllowed_update _, now, rfl, rfl⟩

/-- A classification up to confidential that a context may not handle is confidential,
and the context is a group chat or has no step-up. -/
theorem not_handled_iff {context : CommandContext} {c : DataClassification}
    (hc : c ≤ .confidential) :
    ¬ PolicyEngine.Handled context c ↔ c = .confidential ∧
      (context.requestChannel = .groupChat ∨ context.authentication ≠ .stepUp) := by
  unfold PolicyEngine.Handled
  constructor
  · intro hnot
    have hlevel : DataClassification.confidential ≤ c := by
      by_contra hlow
      exact hnot ⟨hc, fun h => absurd h hlow⟩
    have heq : c = .confidential := by
      cases c <;> first | rfl | exact absurd hc (by decide) | exact absurd hlevel (by decide)
    refine ⟨heq, ?_⟩
    by_contra hproven
    rw [not_or, not_not] at hproven
    exact hnot ⟨hc, fun _ => hproven⟩
  · rintro ⟨rfl, hunproven⟩ ⟨-, hproven⟩
    obtain ⟨hchannel, hstep⟩ := hproven (by decide)
    exact hunproven.elim hchannel fun h => h hstep

/-- **When an update upholds the stored classification.** -/
theorem upholds_iff {course : Course α} (h : course.Lawful) (now : Instant)
    (context : CommandContext) (db : Database) :
    course.Upholds now context db ↔
      ¬ ∃ existing updated, course.Lowers context db existing updated := by
  constructor
  · rintro hupholds ⟨existing, updated, hlowers⟩
    -- the request is in order, so it succeeds
    obtain ⟨hid, howner⟩ := h.same existing updated hlowers.valid
    obtain ⟨ref, href, hstanding⟩ := hlowers.standing
    obtain ⟨hkind', hid', howner', -⟩ := ResourceRef.checked_ok.mp href
    let newRef : ResourceRef := { ref with classification := course.view.classification updated }
    have hnewRef : course.view.ref updated = .ok newRef :=
      ResourceRef.checked_ok.mpr ⟨hkind', hid'.trans hid.symm, howner'.trans howner.symm, rfl⟩
    have hstanding' : db.policyEngine.Standing context .update newRef :=
      (Database.standing_congr rfl rfl rfl).mpr hstanding
    have hrequire : db.policyEngine.require (context.at' now) .update newRef =
        .ok ⟨context.actorUserId, .update, newRef, now⟩ :=
      require_update_ok.mpr ⟨PolicyEngine.Handled.of_lt hlowers.lowered, hstanding', rfl⟩
    obtain ⟨⟨record, db'⟩, hsave⟩ :=
      (h.saves db existing updated newRef ⟨context.actorUserId, .update, newRef, now⟩
        hlowers.found hlowers.current hlowers.valid hnewRef rfl rfl).mpr hlowers.storable
    obtain ⟨existing', ref', authorization, hload, href', hallowed⟩ := hupholds record db'
      (run_ok.mpr ⟨existing, updated, newRef, _, hlowers.found, hlowers.current, hlowers.valid,
        hnewRef, hrequire, hsave⟩)
    -- yet the stored record may not be handled here
    rw [hlowers.found] at hload
    obtain rfl := Option.some.inj (Except.ok.inj hload)
    have hhandled := (require_update_ok.mp hallowed).1
    rw [(ResourceRef.checked_ok.mp href').2.2.2] at hhandled
    exact (not_handled_iff (h.ordinary db existing hlowers.found)).mpr
      ⟨hlowers.confidential, hlowers.unproven⟩ hhandled
  · intro hnone record db' hrun
    obtain ⟨existing, updated, newRef, authorization, hload, hcurrent, hrevise, hnewRef, hrequire,
      hsave⟩ := run_ok.mp hrun
    obtain ⟨hhandled, hstanding, rfl⟩ := require_update_ok.mp hrequire
    obtain ⟨hid, howner⟩ := h.same existing updated hrevise
    obtain ⟨hkind', hid', howner', hclass'⟩ := ResourceRef.checked_ok.mp hnewRef
    let ref : ResourceRef := { newRef with classification := course.view.classification existing }
    have href : course.view.ref existing = .ok ref :=
      ResourceRef.checked_ok.mpr ⟨hkind', hid'.trans hid, howner'.trans howner, rfl⟩
    have hstanding' : db.policyEngine.Standing context .update ref :=
      (Database.standing_congr rfl rfl rfl).mp hstanding
    refine ⟨existing, ref, _, hload, href, require_update_ok.mpr ⟨?_, hstanding', rfl⟩⟩
    by_contra hnot
    obtain ⟨hconfidential, hunproven⟩ :=
      (not_handled_iff (h.ordinary db existing hload)).mp hnot
    refine hnone ⟨existing, updated, hload, hcurrent, hrevise, ?_, ⟨ref, href, hstanding'⟩,
      hconfidential, ?_, hunproven⟩
    · exact (h.saves db existing updated newRef _ hload hcurrent hrevise hnewRef rfl rfl).mp
        ⟨_, hsave⟩
    · -- the new classification was handled, so it is lower
      rw [hclass'] at hhandled
      by_contra hlow
      have hproven := hhandled.2 (Nat.not_lt.mp hlow)
      exact hunproven.elim hproven.1 fun h => h hproven.2

end Course

/-! ### The six services are lawful

Each record has a lemma on what its checks and its loading say, and each service
one on what its revision keeps. -/

/-- The authorization for a record passes the comparison of its repository. -/
theorem RecordView.authorized {α : Type} (view : RecordView α) {record : α} {ref : ResourceRef}
    {authorization : AuthorizedAction} (href : view.ref record = .ok ref)
    (haction : authorization.action = .update) (hresource : authorization.resource = ref) :
    requireAuthorization authorization .update view.kind (view.id record) (view.owner record)
      (view.classification record) = .ok ⟨⟩ :=
  requireAuthorization_ok.mpr ⟨haction, hresource ▸ href⟩

theorem DateTime.dump_ok {zones : TimeZones} {dt : DateTime} :
    (∃ t, dt.dump zones = .ok t) ↔ Instant.InRange (dt.instant zones) := by
  constructor
  · intro h
    exact not_not.mp (exists_raiseIf_bind_ok.mp h).1
  · intro h
    exact exists_raiseIf_bind_ok.mpr ⟨not_not.mpr h, _, rfl⟩

theorem dumpOptional_ok {zones : TimeZones} {value : Option DateTime} :
    (∃ t, dumpOptional zones value = .ok t) ↔ ∀ dt ∈ value, Instant.InRange (dt.instant zones) := by
  cases value with
  | none => exact ⟨fun _ dt hdt => absurd hdt (by simp), fun _ => ⟨none, rfl⟩⟩
  | some dt =>
    refine exists_map_ok.trans (DateTime.dump_ok.trans ?_)
    simp

theorem Task.validate_ok {task : Task} {u : Unit} (h : task.validate = .ok u) :
    isBlank task.id = false ∧ isBlank task.ownerUserId = false ∧
      task.classification ≤ .confidential := by
  unfold Task.validate at h
  simp only [raiseIf_bind_ok, PolicyEngine.requireOrdinaryStorage_ok, not_or,
    Bool.not_eq_true] at h
  obtain ⟨⟨hid, howner, -⟩, -, -, -, hordinary⟩ := h
  exact ⟨hid, howner, hordinary⟩

theorem updateTask_revise {zones : TimeZones} {command : UpdateTask} {existing updated : Task}
    (h : (updateTask zones command).revise existing = .ok updated) :
    updated.id = existing.id ∧ updated.ownerUserId = existing.ownerUserId ∧
      updated.version = command.expectedVersion + 1 ∧ updated.dueAt = command.dueAt := by
  obtain ⟨_, -, h⟩ := bind_eq_ok.mp h
  obtain rfl := Except.ok.inj h
  exact ⟨rfl, rfl, rfl, rfl⟩

theorem lawful_updateTask (zones : TimeZones) (command : UpdateTask) :
    (updateTask zones command).Lawful := by
  refine ⟨?_, ?_, ?_, ?_⟩
  · intro db existing h
    obtain ⟨row, -, hbuild⟩ := getRow_some.mp h
    obtain ⟨-, -, -, hvalid⟩ := TaskRepository.fromRow_ok hbuild
    obtain ⟨hid, howner, -⟩ := Task.validate_ok hvalid
    have hkind : isBlank "task" = false := by decide
    exact ⟨hkind, hid, howner⟩
  · intro db existing h
    obtain ⟨row, -, hbuild⟩ := getRow_some.mp h
    exact (Task.validate_ok (TaskRepository.fromRow_ok hbuild).2.2.2).2.2
  · intro existing updated h
    obtain ⟨hid, howner, -⟩ := updateTask_revise h
    exact ⟨hid, howner⟩
  · intro db existing updated ref authorization h hcurrent hrevise href haction hresource
    obtain ⟨row, hrow, hbuild⟩ := getRow_some.mp h
    obtain ⟨hid, howner, hversion, -⟩ := TaskRepository.fromRow_ok hbuild
    obtain ⟨hid', howner', hversion', hdue⟩ := updateTask_revise hrevise
    have hexpected : existing.version = command.expectedVersion :=
      not_not.mp (raiseIf_eq_ok.mp hcurrent)
    -- the row is there at the expected version, so one row changes
    have hcount : db.tasks.count (fun r => decide (r.id = updated.id) &&
        (r.ownerUserId = updated.ownerUserId && decide (r.version = command.expectedVersion))) =
          1 := by
      have hkey : updated.id = command.taskId := by
        rw [hid', hid]
        exact Table.key_of_find? hrow
      rw [hkey]
      exact Table.count_key hrow (by simp [howner', howner, ← hversion, hexpected])
    refine TaskRepository.update_ok.trans ?_
    rw [dumpOptional_ok, hdue]
    exact ⟨fun hsaved => hsaved.2.2.1, fun hstorable =>
      ⟨taskView.authorized href haction hresource, hversion', hstorable,
        hcount⟩⟩

theorem AgendaItem.validate_ok {zones : TimeZones} {item : AgendaItem} {u : Unit}
    (h : item.validate zones = .ok u) :
    isBlank item.id = false ∧ isBlank item.ownerUserId = false ∧
      item.classification ≤ .confidential := by
  unfold AgendaItem.validate at h
  rw [raiseIf_bind_ok, not_or, not_or, Bool.not_eq_true, Bool.not_eq_true] at h
  obtain ⟨⟨hid, howner, -⟩, h⟩ := h
  obtain ⟨-, h⟩ := raiseIf_bind_ok.mp h
  obtain ⟨_, -, h⟩ := bind_eq_ok.mp h
  obtain ⟨-, h⟩ := raiseIf_bind_ok.mp h
  obtain ⟨-, h⟩ := raiseIf_bind_ok.mp h
  obtain ⟨_, hordinary, -⟩ := bind_eq_ok.mp h
  exact ⟨hid, howner, PolicyEngine.requireOrdinaryStorage_ok.mp hordinary⟩

theorem updateAgenda_revise {engine : RecurrenceEngine} {command : UpdateAgenda}
    {existing updated : AgendaItem}
    (h : (updateAgenda engine command).revise existing = .ok updated) :
    updated.id = existing.id ∧ updated.ownerUserId = existing.ownerUserId ∧
      updated.version = command.expectedVersion + 1 ∧ updated.startAt = command.startAt ∧
      updated.endAt = command.endAt := by
  obtain ⟨_, -, h⟩ := bind_eq_ok.mp h
  obtain ⟨_, -, h⟩ := bind_eq_ok.mp h
  obtain rfl := Except.ok.inj h
  exact ⟨rfl, rfl, rfl, rfl, rfl⟩

theorem lawful_updateAgenda (engine : RecurrenceEngine) (command : UpdateAgenda) :
    (updateAgenda engine command).Lawful := by
  refine ⟨?_, ?_, ?_, ?_⟩
  · intro db existing h
    obtain ⟨row, -, hbuild⟩ := getRow_some.mp h
    obtain ⟨-, -, -, hvalid⟩ := AgendaRepository.fromRow_ok hbuild
    obtain ⟨hid, howner, -⟩ := AgendaItem.validate_ok hvalid
    have hkind : isBlank "agenda" = false := by decide
    exact ⟨hkind, hid, howner⟩
  · intro db existing h
    obtain ⟨row, -, hbuild⟩ := getRow_some.mp h
    exact (AgendaItem.validate_ok (AgendaRepository.fromRow_ok hbuild).2.2.2).2.2
  · intro existing updated h
    obtain ⟨hid, howner, -⟩ := updateAgenda_revise h
    exact ⟨hid, howner⟩
  · intro db existing updated ref authorization h hcurrent hrevise href haction hresource
    obtain ⟨row, hrow, hbuild⟩ := getRow_some.mp h
    obtain ⟨hid, howner, hversion, -⟩ := AgendaRepository.fromRow_ok hbuild
    obtain ⟨hid', howner', hversion', hstart, hend⟩ := updateAgenda_revise hrevise
    have hexpected : existing.version = command.expectedVersion :=
      not_not.mp (raiseIf_eq_ok.mp hcurrent)
    have hcount : db.agendaItems.count (fun r => decide (r.id = updated.id) &&
        (r.ownerUserId = updated.ownerUserId && decide (r.version = command.expectedVersion))) =
          1 := by
      have hkey : updated.id = command.itemId := by
        rw [hid', hid]
        exact Table.key_of_find? hrow
      rw [hkey]
      exact Table.count_key hrow (by simp [howner', howner, ← hversion, hexpected])
    refine AgendaRepository.update_ok.trans ?_
    rw [DateTime.dump_ok, DateTime.dump_ok, hstart, hend]
    exact ⟨fun hsaved => ⟨hsaved.2.2.1, hsaved.2.2.2.1⟩, fun hstorable =>
      ⟨agendaView.authorized href haction hresource, hversion', hstorable.1, hstorable.2,
        hcount⟩⟩

theorem Note.validate_ok {note : Note} {u : Unit} (h : note.validate = .ok u) :
    isBlank note.id = false ∧ isBlank note.ownerUserId = false ∧
      note.classification ≤ .confidential := by
  unfold Note.validate at h
  simp only [raiseIf_bind_ok, PolicyEngine.requireOrdinaryStorage_ok] at h
  obtain ⟨hnames, -, -, -, -, -, -, -, -, -, hordinary⟩ := h
  rw [not_or, Bool.not_eq_true, Bool.not_eq_true] at hnames
  exact ⟨hnames.1, hnames.2, hordinary⟩

theorem updateNote_revise {command : UpdateNote} {existing updated : Note}
    (h : (updateNote command).revise existing = .ok updated) :
    updated.id = existing.id ∧ updated.ownerUserId = existing.ownerUserId ∧
      updated.version = command.expectedVersion + 1 := by
  obtain ⟨_, -, h⟩ := bind_eq_ok.mp h
  obtain rfl := Except.ok.inj h
  exact ⟨rfl, rfl, rfl⟩

theorem lawful_updateNote (command : UpdateNote) : (updateNote command).Lawful := by
  refine ⟨?_, ?_, ?_, ?_⟩
  · intro db existing h
    obtain ⟨row, -, hbuild⟩ := getRow_some.mp h
    obtain ⟨-, -, -, hvalid⟩ := NoteRepository.fromRow_ok hbuild
    obtain ⟨hid, howner, -⟩ := Note.validate_ok hvalid
    have hkind : isBlank "note" = false := by decide
    exact ⟨hkind, hid, howner⟩
  · intro db existing h
    obtain ⟨row, -, hbuild⟩ := getRow_some.mp h
    exact (Note.validate_ok (NoteRepository.fromRow_ok hbuild).2.2.2).2.2
  · intro existing updated h
    obtain ⟨hid, howner, -⟩ := updateNote_revise h
    exact ⟨hid, howner⟩
  · intro db existing updated ref authorization h hcurrent hrevise href haction hresource
    obtain ⟨row, hrow, hbuild⟩ := getRow_some.mp h
    obtain ⟨hid, howner, hversion, -⟩ := NoteRepository.fromRow_ok hbuild
    obtain ⟨hid', howner', hversion'⟩ := updateNote_revise hrevise
    have hexpected : existing.version = command.expectedVersion :=
      not_not.mp (raiseIf_eq_ok.mp hcurrent)
    have hcount : db.notes.count (fun r => decide (r.id = updated.id) &&
        (r.ownerUserId = updated.ownerUserId && decide (r.version = command.expectedVersion))) =
          1 := by
      have hkey : updated.id = command.noteId := by
        rw [hid', hid]
        exact Table.key_of_find? hrow
      rw [hkey]
      exact Table.count_key hrow (by simp [howner', howner, ← hversion, hexpected])
    refine NoteRepository.update_ok.trans ?_
    exact ⟨fun _ => trivial, fun _ =>
      ⟨noteView.authorized href haction hresource, hversion', hcount⟩⟩

/-! Important days, briefings and notification rules are stored as they are read, and
have no version. -/

/-- The common proof for records without a version. -/
theorem lawful_unversioned {α : Type} {course : Course α}
    (hnames : ∀ db existing, course.load db = .ok (some existing) →
      isBlank course.view.kind = false ∧ isBlank (course.view.id existing) = false ∧
        isBlank (course.view.owner existing) = false ∧
        course.view.classification existing ≤ .confidential)
    (hsame : ∀ existing updated, course.revise existing = .ok updated →
      course.view.id updated = course.view.id existing ∧
        course.view.owner updated = course.view.owner existing)
    (hstorable : course.storable)
    (hsaves : ∀ db existing updated authorization, course.load db = .ok (some existing) →
      course.view.id updated = course.view.id existing →
      requireAuthorization authorization .update course.view.kind (course.view.id updated)
        (course.view.owner updated) (course.view.classification updated) = .ok ⟨⟩ →
      ∃ out, course.save updated authorization db = .ok out) :
    course.Lawful := by
  refine ⟨?_, ?_, hsame, ?_⟩
  · intro db existing h
    obtain ⟨hkind, hid, howner, -⟩ := hnames db existing h
    exact ⟨hkind, hid, howner⟩
  · intro db existing h
    exact (hnames db existing h).2.2.2
  · intro db existing updated ref authorization h _ hrevise href haction hresource
    have hsaved := hsaves db existing updated authorization h (hsame existing updated hrevise).1
      (course.view.authorized href haction hresource)
    exact ⟨fun _ => hstorable, fun _ => hsaved⟩

theorem Anniversary.validate_ok {zones : TimeZones} {day : Anniversary} {u : Unit}
    (h : day.validate zones = .ok u) :
    isBlank day.id = false ∧ isBlank day.ownerUserId = false ∧
      day.classification ≤ .confidential := by
  obtain ⟨hnames, h⟩ := raiseIf_bind_ok.mp h
  obtain ⟨_, -, h⟩ := bind_eq_ok.mp h
  obtain ⟨_, hordinary, -⟩ := bind_eq_ok.mp h
  simp only [List.any_cons, Bool.not_eq_true, Bool.or_eq_false_iff] at hnames
  exact ⟨hnames.1, hnames.2.1, PolicyEngine.requireOrdinaryStorage_ok.mp hordinary⟩

theorem lawful_updateAnniversary (zones : TimeZones) (command : UpdateAnniversary) :
    (updateAnniversary zones command).Lawful := by
  have hload : ∀ db existing,
      (updateAnniversary zones command).load db = .ok (some existing) →
      db.anniversaries.find? command.anniversaryId = some existing ∧
        existing.validate zones = .ok ⟨⟩ := by
    intro db existing h
    obtain ⟨row, hrow, hbuild⟩ := getRow_some.mp h
    obtain ⟨_, hvalid, hbuild⟩ := bind_eq_ok.mp hbuild
    obtain rfl := Except.ok.inj hbuild
    exact ⟨hrow, hvalid⟩
  refine lawful_unversioned ?_ ?_ trivial ?_
  · intro db existing h
    have hkind : isBlank "anniversary" = false := by decide
    exact ⟨hkind, Anniversary.validate_ok (hload db existing h).2⟩
  · intro existing updated h
    obtain ⟨_, -, h⟩ := bind_eq_ok.mp h
    obtain rfl := Except.ok.inj h
    exact ⟨rfl, rfl⟩
  · intro db existing updated authorization h hid hauthorized
    obtain ⟨hrow, -⟩ := hload db existing h
    refine AnniversaryRepository.update_ok.mpr ⟨hauthorized, ?_⟩
    have hid' : updated.id = existing.id := hid
    rw [hid', Table.key_of_find? hrow]
    exact Table.count_of_key hrow

theorem DailyBriefing.validate_ok {zones : TimeZones} {briefing : DailyBriefing} {u : Unit}
    (h : briefing.validate zones = .ok u) :
    isBlank briefing.id = false ∧ isBlank briefing.ownerUserId = false ∧
      briefing.classification ≤ .confidential := by
  obtain ⟨hnames, h⟩ := raiseIf_bind_ok.mp h
  obtain ⟨-, h⟩ := raiseIf_bind_ok.mp h
  obtain ⟨_, -, hordinary⟩ := bind_eq_ok.mp h
  simp only [List.any_cons, Bool.not_eq_true, Bool.or_eq_false_iff] at hnames
  exact ⟨hnames.1, hnames.2.1, PolicyEngine.requireOrdinaryStorage_ok.mp hordinary⟩

theorem lawful_updateDailyBriefing (zones : TimeZones) (now : Instant)
    (command : UpdateDailyBriefing) : (updateDailyBriefing zones now command).Lawful := by
  have hload : ∀ db existing,
      (updateDailyBriefing zones now command).load db = .ok (some existing) →
      db.dailyBriefings.find? command.briefingId = some existing ∧
        existing.validate zones = .ok ⟨⟩ := by
    intro db existing h
    obtain ⟨row, hrow, hbuild⟩ := getRow_some.mp h
    obtain ⟨_, hvalid, hbuild⟩ := bind_eq_ok.mp hbuild
    obtain rfl := Except.ok.inj hbuild
    exact ⟨hrow, hvalid⟩
  refine lawful_unversioned ?_ ?_ trivial ?_
  · intro db existing h
    have hkind : isBlank "daily_briefing" = false := by decide
    exact ⟨hkind, DailyBriefing.validate_ok (hload db existing h).2⟩
  · intro existing updated h
    obtain ⟨_, -, h⟩ := bind_eq_ok.mp h
    obtain rfl := Except.ok.inj h
    exact ⟨rfl, rfl⟩
  · intro db existing updated authorization h hid hauthorized
    obtain ⟨hrow, -⟩ := hload db existing h
    refine DailyBriefingRepository.update_ok.mpr ⟨hauthorized, ?_⟩
    have hid' : updated.id = existing.id := hid
    rw [hid', Table.key_of_find? hrow]
    exact Table.count_of_key hrow

theorem AgendaNotificationRule.validate_ok {zones : TimeZones} {rule : AgendaNotificationRule}
    {u : Unit} (h : rule.validate zones = .ok u) :
    isBlank rule.id = false ∧ isBlank rule.ownerUserId = false ∧
      rule.classification ≤ .confidential := by
  obtain ⟨hnames, h⟩ := raiseIf_bind_ok.mp h
  obtain ⟨-, h⟩ := raiseIf_bind_ok.mp h
  obtain ⟨-, h⟩ := raiseIf_bind_ok.mp h
  obtain ⟨_, -, h⟩ := bind_eq_ok.mp h
  obtain ⟨_, hordinary, -⟩ := bind_eq_ok.mp h
  simp only [List.any_cons, Bool.not_eq_true, Bool.or_eq_false_iff] at hnames
  exact ⟨hnames.1, hnames.2.2.1, PolicyEngine.requireOrdinaryStorage_ok.mp hordinary⟩

theorem lawful_updateAgendaNotification (zones : TimeZones) (command : UpdateAgendaNotification) :
    (updateAgendaNotification zones command).Lawful := by
  have hload : ∀ db existing,
      (updateAgendaNotification zones command).load db = .ok (some existing) →
      db.agendaNotificationRules.find? command.ruleId = some existing ∧
        existing.validate zones = .ok ⟨⟩ := by
    intro db existing h
    obtain ⟨row, hrow, hbuild⟩ := getRow_some.mp h
    obtain ⟨-, hbuild⟩ := raiseIf_bind_ok.mp hbuild
    obtain ⟨_, hvalid, hbuild⟩ := bind_eq_ok.mp hbuild
    obtain rfl := Except.ok.inj hbuild
    exact ⟨hrow, hvalid⟩
  refine lawful_unversioned ?_ ?_ trivial ?_
  · intro db existing h
    have hkind : isBlank "agenda_notification" = false := by decide
    exact ⟨hkind, AgendaNotificationRule.validate_ok (hload db existing h).2⟩
  · intro existing updated h
    obtain ⟨_, -, h⟩ := bind_eq_ok.mp h
    obtain rfl := Except.ok.inj h
    exact ⟨rfl, rfl⟩
  · intro db existing updated authorization h hid hauthorized
    obtain ⟨hrow, -⟩ := hload db existing h
    refine AgendaNotificationRepository.update_ok.mpr ⟨hauthorized, ?_⟩
    have hid' : updated.id = existing.id := hid
    rw [hid', Table.key_of_find? hrow]
    exact Table.count_of_key hrow

/-! ### All updates -/

/-- A command of one of the six services. -/
inductive UpdateCommand
  | agenda (command : UpdateAgenda)
  | task (command : UpdateTask)
  | note (command : UpdateNote)
  | importantDay (command : UpdateAnniversary)
  | dailyBriefing (command : UpdateDailyBriefing)
  | agendaNotification (command : UpdateAgendaNotification)

/-- The record a command updates, and how. -/
def UpdateCommand.course (engine : RecurrenceEngine) (now : Instant) :
    UpdateCommand → Σ α : Type, Course α
  | .agenda command => ⟨_, updateAgenda engine command⟩
  | .task command => ⟨_, updateTask engine.zones command⟩
  | .note command => ⟨_, updateNote command⟩
  | .importantDay command => ⟨_, updateAnniversary engine.zones command⟩
  | .dailyBriefing command => ⟨_, updateDailyBriefing engine.zones now command⟩
  | .agendaNotification command => ⟨_, updateAgendaNotification engine.zones command⟩

theorem UpdateCommand.lawful (engine : RecurrenceEngine) (now : Instant)
    (command : UpdateCommand) : (command.course engine now).2.Lawful := by
  cases command with
  | agenda command => exact lawful_updateAgenda engine command
  | task command => exact lawful_updateTask engine.zones command
  | note command => exact lawful_updateNote command
  | importantDay command => exact lawful_updateAnniversary engine.zones command
  | dailyBriefing command => exact lawful_updateDailyBriefing engine.zones now command
  | agendaNotification command => exact lawful_updateAgendaNotification engine.zones command

/-- **When an update declassifies.** For every command, context and database, an
update that succeeds would also have been allowed on the stored record, unless it
takes a confidential record below confidential in a group chat or without a
step-up. -/
theorem update_upholds_iff (engine : RecurrenceEngine) (now : Instant) (command : UpdateCommand)
    (context : CommandContext) (db : Database) :
    (command.course engine now).2.Upholds now context db ↔
      ¬ ∃ existing updated,
        (command.course engine now).2.Lowers context db existing updated :=
  Course.upholds_iff (command.lawful engine now) now context db

/-! A confidential task whose title is changed from a chat. The new classification is
the default of the command. -/

def utcOnly : RecurrenceEngine where
  zones := {
    lookup := fun key => if key = "UTC" then .found else .missing
    utcoffset := fun _ _ _ => 0
    fromutc := fun _ t => (t, false) }
  systemNow := 0
  rrulestr := fun _ _ => .ok ⟨fun _ _ => .ok []⟩

def confidentialPlan : Task where
  id := "t1"
  ownerUserId := "alice"
  creatorUserId := some "alice"
  title := "plan"
  classification := .confidential
  createdAt := some 0
  updatedAt := some 0

def planStored : Database where
  tasks := ⟨[{
    id := "t1"
    ownerUserId := "alice"
    creatorUserId := none
    title := "plan"
    description := ""
    status := .pending
    priority := 0
    dueAt := none
    classification := .confidential
    version := 1
    createdAt := 0
    updatedAt := 0 }], by simp⟩

def aliceByChat : CommandContext where
  actorUserId := "alice"
  actor_nonblank := @rfl Bool false
  sharedOwner_nonblank := CommandContext.noSharedOwner_nonblank
  readable_nonblank := CommandContext.noReadable_nonblank
  readable_nodup := List.nodup_nil

def retitle : UpdateTask := { taskId := "t1", expectedVersion := 1, title := "new plan" }

/-- **A chat declassifies a confidential task.** The update succeeds without a
step-up, which the policy asks for on the stored task. -/
theorem update_declassifies :
    ¬ ∀ engine now (command : UpdateCommand) context db,
      (command.course engine now).2.Upholds now context db := by
  intro hall
  have hupholds : (updateTask utcOnly.zones retitle).Upholds 0 aliceByChat planStored :=
    hall utcOnly 0 (.task retitle) aliceByChat planStored
  have hsucceeds : (((updateTask utcOnly.zones retitle).run 0 aliceByChat).exec
      planStored).1.isOk = true := by decide
  have hstored : (updateTask utcOnly.zones retitle).load planStored =
      .ok (some confidentialPlan) := by decide
  have hrefused : ∀ ref, taskView.ref confidentialPlan = .ok ref →
      ¬ PolicyEngine.Handled aliceByChat ref.classification := by
    intro ref href
    rw [(ResourceRef.checked_ok.mp href).2.2.2]
    decide
  cases hrun : ((updateTask utcOnly.zones retitle).run 0 aliceByChat).exec planStored with
  | mk outcome db' =>
    rw [hrun] at hsucceeds
    cases outcome with
    | error err => exact absurd hsucceeds (by simp [Except.isOk, Except.toBool])
    | ok record =>
      obtain ⟨existing, ref, authorization, hload, href, hallowed⟩ := hupholds record db' hrun
      rw [hstored] at hload
      obtain rfl := Option.some.inj (Except.ok.inj hload)
      exact hrefused ref href (Course.require_update_ok.mp hallowed).1

end Zhixu
