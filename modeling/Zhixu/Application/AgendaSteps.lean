import Zhixu.Application.AgendaDeletion
import Zhixu.Application.Announcements

/-!
# What the services of the agenda do to items and reminders

Between two ticks the agenda changes under the reminders that have been announced. `Keeps touched`
says what a service leaves alone: no reminder disappears or becomes pending, and every item that is not
touched stays with its schedule. Each service has a lemma that names the one item it touches, and what
it does to that one: a creation takes a free id (`Created`), an update writes the schedule of its
command (`Revised`), an exception is written into the schedule (`Excepted`), and a deletion that
returns has left its owner no pending reminder of the item (`deleteAgenda_within`).

A service that raises has written nothing, with one exception: a deletion may have cancelled reminders.
-/

open Framework

namespace Zhixu

/-! ### What is left alone -/

/-- No reminder is lost or becomes pending, and the items that are not touched stay as they are, with
their schedules. -/
structure Keeps (touched : String → Prop) (db db' : Database) : Prop where
  present : ∀ id r, db.reminders.find? id = some r → ∃ r', db'.reminders.find? id = some r'
  pending : PendingKept db db'
  items : ∀ id, ¬ touched id → db'.agendaItems.find? id = db.agendaItems.find? id
  schedules : ∀ row : AgendaRow, ¬ touched row.id → AgendaSchedule.stored db' row = AgendaSchedule.stored db row

namespace Keeps

theorem refl (touched : String → Prop) (db : Database) : Keeps touched db db :=
  ⟨fun _ r hr => ⟨r, hr⟩, PendingKept.refl db, fun _ _ => rfl, fun _ _ => rfl⟩

theorem trans {touched : String → Prop} {db db' db'' : Database} (h : Keeps touched db db')
    (h' : Keeps touched db' db'') : Keeps touched db db'' where
  present id r hr := by
    obtain ⟨r', hr'⟩ := h.present id r hr
    exact h'.present id r' hr'
  pending := h.pending.trans h'.pending
  items id hid := (h'.items id hid).trans (h.items id hid)
  schedules row hrow := (h'.schedules row hrow).trans (h.schedules row hrow)

/-- Nothing that matters has changed. -/
theorem of_same {touched : String → Prop} {db db' : Database}
    (hreminders : db'.reminders = db.reminders) (hitems : db'.agendaItems = db.agendaItems)
    (hrules : db'.recurrenceRules = db.recurrenceRules)
    (hexceptions : db'.recurrenceExceptions = db.recurrenceExceptions) : Keeps touched db db' where
  present id r hr := ⟨r, by rw [hreminders]; exact hr⟩
  pending id r hr _ := by
    rw [← hreminders]
    exact hr
  items id _ := by rw [hitems]
  schedules row _ := by
    unfold AgendaSchedule.stored
    rw [hrules, hexceptions]

end Keeps

theorem Fires.keeps {touched : String → Prop} {db db' : Database} (h : Fires db db') :
    Keeps touched db db' where
  present id r hr := by
    obtain ⟨r', hr', -⟩ := h.forward hr
    exact ⟨r', hr'⟩
  pending := h.pendingKept
  items id _ := by rw [h.agendaItems]
  schedules row _ := by
    unfold AgendaSchedule.stored
    rw [h.recurrenceRules, h.recurrenceExceptions]

/-- Reading and writing the rule of another item. -/
theorem find?_writeRecurrence (item : AgendaItem) (db : Database) {itemId : String}
    (h : itemId ≠ item.id) :
    (AgendaRepository.writeRecurrence item db).recurrenceRules.find? itemId =
      db.recurrenceRules.find? itemId := by
  unfold AgendaRepository.writeRecurrence
  cases item.recurrence with
  | none =>
    show ((db.recurrenceRules.deleteWhere _).find? itemId) = _
    rw [Table.find?_deleteWhere]
    cases hrule : db.recurrenceRules.find? itemId with
    | none => rfl
    | some rule =>
      have hkey : rule.agendaItemId = itemId := Table.key_of_find? hrule
      rw [Option.filter_some, if_pos]
      simp [hkey, h]
  | some recurrence =>
    show ((db.recurrenceRules.upsert _ _ _).find? itemId) = _
    rw [Table.find?_upsert, if_neg h]

/-- Reading the rule that was written. -/
theorem find?_writeRecurrence_self (item : AgendaItem) (db : Database) :
    ((AgendaRepository.writeRecurrence item db).recurrenceRules.find? item.id).map
        (fun r => (r.ruleText, r.timezone)) =
      item.recurrence.map fun recurrence => (recurrence.value, recurrence.timezone) := by
  unfold AgendaRepository.writeRecurrence
  cases item.recurrence with
  | none =>
    show ((db.recurrenceRules.deleteWhere _).find? item.id).map _ = _
    rw [Table.find?_deleteWhere]
    cases hrule : db.recurrenceRules.find? item.id with
    | none => rfl
    | some rule =>
      have hkey : rule.agendaItemId = item.id := Table.key_of_find? hrule
      rw [Option.filter_some, if_neg]
      · rfl
      · simp [hkey]
  | some recurrence =>
    show ((db.recurrenceRules.upsert _ _ _).find? item.id).map _ = _
    rw [Table.find?_upsert, if_pos rfl]
    cases db.recurrenceRules.find? item.id with
    | none => rfl
    | some rule => rfl

theorem writeRecurrence_rest (item : AgendaItem) (db : Database) :
    (AgendaRepository.writeRecurrence item db).agendaItems = db.agendaItems ∧
      (AgendaRepository.writeRecurrence item db).recurrenceExceptions = db.recurrenceExceptions ∧
      (AgendaRepository.writeRecurrence item db).reminders = db.reminders ∧
      (AgendaRepository.writeRecurrence item db).agendaNotificationRules =
        db.agendaNotificationRules := by
  unfold AgendaRepository.writeRecurrence
  cases item.recurrence with
  | none => exact ⟨rfl, rfl, rfl, rfl⟩
  | some recurrence => exact ⟨rfl, rfl, rfl, rfl⟩

/-! ### Creations -/

/-- An item has been created under a free id. -/
structure Created (newId : String) (db db' : Database) : Prop where
  free : db.agendaItems.find? newId = none
  keeps : Keeps (fun id => id = newId) db db'
  rules : db'.agendaNotificationRules = db.agendaNotificationRules

theorem createAgenda_within (engine : RecurrenceEngine) (newId : String) (command : CreateAgenda)
    (now : Instant) (context : CommandContext) :
    Effect.Within (fun db db' => db' = db ∨ Created newId db db')
      (createAgenda engine newId command now context) := by
  unfold createAgenda
  refine Effect.Within.check_bind (fun _ => .inl rfl) fun recurrence => ?_
  refine Effect.Within.check_bind (fun _ => .inl rfl) fun _ => ?_
  refine Effect.Within.check_bind (fun _ => .inl rfl) fun ref => ?_
  refine Effect.Within.query_bind (fun _ => .inl rfl) fun authorization => ?_
  refine Effect.Within.atomically (fun _ => .inl rfl) fun db item db' h => .inr ?_
  unfold AgendaRepository.create at h
  obtain ⟨_, -, h⟩ := bind_eq_ok.mp h
  obtain ⟨startAt, -, h⟩ := bind_eq_ok.mp h
  obtain ⟨endAt, -, h⟩ := bind_eq_ok.mp h
  obtain ⟨-, h⟩ := raiseIf_bind_ok.mp h
  split at h
  · cases h
  · rename_i agendaItems hinsert
    obtain rfl := (Prod.mk.inj (Except.ok.inj h)).2
    obtain ⟨hitems, hexceptions, hreminders, hrules⟩ := writeRecurrence_rest
      (command.item newId context recurrence) { db with agendaItems }
    refine ⟨(Table.insert?_eq_some.mp hinsert).1, ⟨fun id r hr => ⟨r, ?_⟩, fun id r hr _ => ?_,
      fun id hid => ?_, fun row hrow => ?_⟩, hrules⟩
    · show (AgendaRepository.writeRecurrence _ _).reminders.find? id = some r
      rw [hreminders]
      exact hr
    · have hr' : (AgendaRepository.writeRecurrence (command.item newId context recurrence)
          { db with agendaItems }).reminders.find? id = some r := hr
      rw [hreminders] at hr'
      exact hr'
    · show (AgendaRepository.writeRecurrence _ _).agendaItems.find? id = _
      rw [hitems]
      exact (Table.find?_insert hinsert id).trans (if_neg hid)
    · have hother := find?_writeRecurrence (command.item newId context recurrence)
        { db with agendaItems } hrow
      unfold AgendaSchedule.stored
      show AgendaSchedule.mk _ _ _ (Option.map _
        ((AgendaRepository.writeRecurrence _ _).recurrenceRules.find? row.id))
        ((AgendaRepository.writeRecurrence _ _).recurrenceExceptions.select _ _) = _
      rw [hother, hexceptions]

/-! ### Updates of an item -/

/-- The rule that a command writes. -/
def writtenRule (recurrenceRule : Option String) (timezone : String) : Option (String × String) :=
  match recurrenceRule with
  | none => none
  | some value => if value = "" then none else some (value, timezone)

/-- The schedule that a command writes, with the exceptions it keeps. -/
def UpdateAgenda.schedule (zones : TimeZones) (command : UpdateAgenda)
    (exceptions : List ExceptionRow) : AgendaSchedule where
  startAt := command.startAt.instant zones
  endAt := command.endAt.instant zones
  timezone := command.timezone
  rule := writtenRule command.recurrenceRule command.timezone
  exceptions := exceptions

/-- An item has been revised as a command says. -/
structure Revised (zones : TimeZones) (command : UpdateAgenda) (row : AgendaRow)
    (db db' : Database) : Prop where
  found : db.agendaItems.find? command.itemId = some row
  keeps : Keeps (fun id => id = command.itemId) db db'
  written : ∃ row', db'.agendaItems.find? command.itemId = some row' ∧
    row'.ownerUserId = row.ownerUserId ∧ row'.classification = command.classification ∧
    AgendaSchedule.stored db' row' = command.schedule zones (AgendaSchedule.stored db row).exceptions
  rules : db'.agendaNotificationRules = db.agendaNotificationRules

theorem recurrenceFrom_ok {engine : RecurrenceEngine} {recurrenceRule : Option String}
    {timezone : String} {recurrence : Option RecurrenceRule}
    (h : recurrenceFrom engine recurrenceRule timezone = .ok recurrence) :
    recurrence.map (fun r => (r.value, r.timezone)) = writtenRule recurrenceRule timezone := by
  unfold recurrenceFrom at h
  unfold writtenRule
  cases recurrenceRule with
  | none =>
    obtain rfl := Except.ok.inj h
    rfl
  | some value =>
    simp only at h ⊢
    split_ifs at h ⊢ with hempty
    · obtain rfl := Except.ok.inj h
      rfl
    · cases hrule : RecurrenceRule.checked engine value timezone with
      | error e => rw [hrule] at h; cases h
      | ok rule =>
        rw [hrule] at h
        obtain rfl := Except.ok.inj h
        -- whichever way it is checked, the rule is the text and the zone it was given
        have hsame : rule = ⟨value, timezone⟩ := by
          unfold RecurrenceRule.checked at hrule
          obtain ⟨-, hrule⟩ := raiseIf_bind_ok.mp hrule
          obtain ⟨_, -, hrule⟩ := bind_eq_ok.mp hrule
          split at hrule
          · exact (Except.ok.inj hrule).symm
          · obtain ⟨now, -, hrule⟩ := bind_eq_ok.mp hrule
            split at hrule
            · exact (Except.ok.inj hrule).symm
            · cases hrule
            · cases hrule
        rw [hsame]
        rfl

/-- How a service of one course ends: it raises and has written nothing, or it has saved. -/
theorem Course.outcome {α : Type} {course : Course α} {now : Instant} {context : CommandContext}
    {db : Database} {P : Except PyError α → Database → Prop} (hraises : ∀ e, P (.error e) db)
    (hsaves : ∀ existing updated authorization record db',
      course.load db = .ok (some existing) → course.current existing = .ok ⟨⟩ →
      course.revise existing = .ok updated →
      course.save updated authorization db = .ok (record, db') → P (.ok record) db') :
    P ((course.run now context).exec db).1 ((course.run now context).exec db).2 := by
  unfold Course.run
  rw [Effect.exec_bind, Effect.exec_query]
  cases hload : course.load db with
  | error e => exact hraises e
  | ok found =>
    cases found with
    | none => exact hraises _
    | some existing =>
      simp only
      rw [Effect.exec_check_bind]
      cases hcurrent : course.current existing with
      | error e => exact hraises e
      | ok u =>
        simp only
        rw [Effect.exec_check_bind]
        cases hrevise : course.revise existing with
        | error e => exact hraises e
        | ok updated =>
          simp only
          rw [Effect.exec_check_bind]
          cases course.view.ref updated with
          | error e => exact hraises e
          | ok ref =>
            simp only
            rw [Effect.exec_bind, Effect.exec_query]
            cases db.policyEngine.require (context.at' now) .update ref with
            | error e => exact hraises e
            | ok authorization =>
              simp only
              rw [Effect.exec_atomically]
              cases hsaved : (course.save updated authorization).run db with
              | error e => exact hraises e
              | ok out =>
                exact hsaves existing updated authorization out.1 out.2 hload hcurrent hrevise
                  hsaved

/-- What a saved item has become. -/
theorem AgendaRepository.update_written {zones : TimeZones} {item record : AgendaItem}
    {expectedVersion : Int} {authorization : AuthorizedAction} {db db' : Database}
    (h : AgendaRepository.update zones item expectedVersion authorization db = .ok (record, db')) :
    ∃ row row', db.agendaItems.find? item.id = some row ∧
      db'.agendaItems.find? item.id = some row' ∧ row'.ownerUserId = row.ownerUserId ∧
      row'.classification = item.classification ∧
      AgendaSchedule.stored db' row' = {
        startAt := item.startAt.instant zones
        endAt := item.endAt.instant zones
        timezone := item.timezone
        rule := item.recurrence.map fun r => (r.value, r.timezone)
        exceptions := (AgendaSchedule.stored db row).exceptions } ∧
      Keeps (fun id => id = item.id) db db' ∧
      db'.agendaNotificationRules = db.agendaNotificationRules := by
  unfold AgendaRepository.update at h
  obtain ⟨_, -, h⟩ := bind_eq_ok.mp h
  obtain ⟨-, h⟩ := raiseIf_bind_ok.mp h
  obtain ⟨startAt, hstartAt, h⟩ := bind_eq_ok.mp h
  obtain ⟨endAt, hendAt, h⟩ := bind_eq_ok.mp h
  obtain ⟨⟨_, db''⟩, hupdate, h⟩ := bind_eq_ok.mp h
  obtain ⟨-, rfl⟩ := Prod.mk.inj (Except.ok.inj h)
  unfold updateOne at hupdate
  split at hupdate
  · cases hupdate
  · rename_i hcount
    obtain rfl := (Prod.mk.inj (Except.ok.inj hupdate)).2
    obtain ⟨row, hrow, hquery⟩ := Table.exists_of_count_key (not_not.mp hcount)
    obtain rfl := toUtc_ok hstartAt
    obtain rfl := toUtc_ok hendAt
    have hkey : row.id = item.id := Table.key_of_find? hrow
    set write : AgendaRow → AgendaRow := fun r => { r with
      title := item.title
      description := item.description
      actionLinks := item.actionLinks
      startAt := item.startAt.instant zones
      endAt := item.endAt.instant zones
      timezone := item.timezone
      allDay := item.allDay
      classification := item.classification
      version := item.version
      updatedAt := authorization.authorizedAt }
    have hwrite : ∀ r, (write r).id = r.id := fun _ => rfl
    have hfind : ∀ id, (db.agendaItems.updateWhere (fun r => decide (r.id = item.id) &&
        (decide (r.ownerUserId = item.ownerUserId) && decide (r.version = expectedVersion)))
        write hwrite).find? id = if id = item.id then some (write row) else
          db.agendaItems.find? id := fun id =>
      Table.find?_updateKeyWhere (q := fun r : AgendaRow =>
        decide (r.ownerUserId = item.ownerUserId) && decide (r.version = expectedVersion)) hrow
        hquery write hwrite id
    set agendaItems := db.agendaItems.updateWhere (fun r => decide (r.id = item.id) &&
      (decide (r.ownerUserId = item.ownerUserId) && decide (r.version = expectedVersion)))
      write hwrite
    obtain ⟨hitems, hexceptions, hreminders, hrules⟩ :=
      writeRecurrence_rest item { db with agendaItems }
    have hself := find?_writeRecurrence_self item { db with agendaItems }
    refine ⟨row, write row, hrow, ?_, rfl, rfl, ?_, ⟨fun id r hr => ⟨r, ?_⟩, fun id r hr _ => ?_,
      fun id hid => ?_, fun other hother => ?_⟩, hrules⟩
    · show (AgendaRepository.writeRecurrence item { db with agendaItems }).agendaItems.find? _ = _
      rw [hitems]
      exact (hfind item.id).trans (if_pos rfl)
    · unfold AgendaSchedule.stored
      show AgendaSchedule.mk _ _ _ (Option.map _
        ((AgendaRepository.writeRecurrence item { db with agendaItems }).recurrenceRules.find?
          row.id)) ((AgendaRepository.writeRecurrence item
            { db with agendaItems }).recurrenceExceptions.select _ _) = _
      rw [hkey, hself, hexceptions]
    · show (AgendaRepository.writeRecurrence item { db with agendaItems }).reminders.find? id = _
      rw [hreminders]
      exact hr
    · have hr' : (AgendaRepository.writeRecurrence item { db with agendaItems }).reminders.find? id =
          some r := hr
      rw [hreminders] at hr'
      exact hr'
    · show (AgendaRepository.writeRecurrence item { db with agendaItems }).agendaItems.find? id = _
      rw [hitems]
      exact (hfind id).trans (if_neg hid)
    · unfold AgendaSchedule.stored
      show AgendaSchedule.mk _ _ _ (Option.map _
        ((AgendaRepository.writeRecurrence item { db with agendaItems }).recurrenceRules.find?
          other.id)) ((AgendaRepository.writeRecurrence item
            { db with agendaItems }).recurrenceExceptions.select _ _) = _
      rw [find?_writeRecurrence item { db with agendaItems } hother, hexceptions]

theorem updateAgenda_outcome (engine : RecurrenceEngine) (command : UpdateAgenda) (now : Instant)
    (context : CommandContext) (db : Database) :
    (((updateAgenda engine command).run now context).exec db).2 = db ∨
      (∃ record, (((updateAgenda engine command).run now context).exec db).1 = .ok record) ∧
        ∃ row, Revised engine.zones command row db
          (((updateAgenda engine command).run now context).exec db).2 := by
  refine Course.outcome (P := fun answer db' => db' = db ∨ (∃ record, answer = .ok record) ∧
    ∃ row, Revised engine.zones command row db db') (fun _ => .inl rfl)
    fun existing updated authorization record db' hload hcurrent hrevise hsaved =>
      .inr ⟨⟨record, rfl⟩, ?_⟩
  obtain ⟨row, hrow, hbuild⟩ := getRow_some.mp hload
  have hid : existing.id = command.itemId :=
    (AgendaRepository.fromRow_ok hbuild).1.trans (Table.key_of_find? hrow)
  obtain ⟨recurrence, hrecurrence, hrevise⟩ := bind_eq_ok.mp hrevise
  obtain ⟨_, -, hrevise⟩ := bind_eq_ok.mp hrevise
  obtain rfl := Except.ok.inj hrevise
  obtain ⟨row, row', hfound, hwritten, howner, hclassification, hschedule, hkeeps, hrules⟩ :=
    AgendaRepository.update_written hsaved
  simp only [hid] at hfound hwritten hkeeps
  refine ⟨row, hfound, hkeeps, ⟨row', hwritten, howner, hclassification, ?_⟩, hrules⟩
  rw [hschedule, recurrenceFrom_ok hrecurrence]
  rfl

/-! ### Exceptions -/

/-- The row that a command writes, when the table takes it. -/
def SetAgendaException.row (zones : TimeZones) (command : SetAgendaException) :
    Option ExceptionRow :=
  AgendaRepository.exceptionRow? command.itemId (command.exception.occurrenceAt.instant zones)
    command.exception.action (command.exception.replacementStart.map (DateTime.instant zones))
    (command.exception.replacementEnd.map (DateTime.instant zones))

/-- The exceptions of the item once a row has been written. -/
def ExceptionRow.written (row : ExceptionRow) (db : Database) : List ExceptionRow :=
  (db.recurrenceExceptions.upsert row (fun r => { r with
    action := row.action
    replacementStart := row.replacementStart
    replacementEnd := row.replacementEnd
    replaced := row.replaced }) (AgendaRepository.key_overwritten row)).select (fun r => r.agendaItemId = row.agendaItemId)
      fun a b => a.occurrenceAt ≤ b.occurrenceAt

/-- An exception of an item has been set as a command says. -/
structure Excepted (zones : TimeZones) (command : SetAgendaException) (db db' : Database) :
    Prop where
  keeps : Keeps (fun id => id = command.itemId) db db'
  items : db'.agendaItems = db.agendaItems
  written : ∃ exception, command.row zones = some exception ∧
    ∀ row, db.agendaItems.find? command.itemId = some row → AgendaSchedule.stored db' row =
      { AgendaSchedule.stored db row with exceptions := exception.written db }
  rules : db'.agendaNotificationRules = db.agendaNotificationRules

theorem dumpOptional_map {zones : TimeZones} {value : Option DateTime} {t : Option Instant}
    (h : dumpOptional zones value = .ok t) : t = value.map (DateTime.instant zones) := by
  cases value with
  | none => exact (Except.ok.inj h).symm
  | some dt =>
    unfold dumpOptional at h
    simp only at h
    cases hdump : dt.dump zones with
    | error e => rw [hdump] at h; cases h
    | ok u =>
      rw [hdump] at h
      obtain rfl := Except.ok.inj h
      rw [toUtc_ok hdump]
      rfl

theorem exceptionRow?_itemId {itemId : String} {occurrenceAt : Instant} {action : ExceptionAction}
    {replacementStart replacementEnd : Option Instant} {row : ExceptionRow}
    (h : AgendaRepository.exceptionRow? itemId occurrenceAt action replacementStart replacementEnd =
      some row) : row.agendaItemId = itemId := by
  unfold AgendaRepository.exceptionRow? at h
  split at h
  · rw [← Option.some.inj h]
  · rw [← Option.some.inj h]
  · cases h

/-- What an exception that was added has changed. -/
theorem AgendaRepository.addException_written {zones : TimeZones} {command : SetAgendaException}
    {authorization : AuthorizedAction} {db : Database} {out : Unit × Database}
    (h : AgendaRepository.addException zones command.itemId command.exception authorization db =
      .ok out) : Excepted zones command db out.2 := by
  unfold AgendaRepository.addException at h
  obtain ⟨_, -, h⟩ := bind_eq_ok.mp h
  obtain ⟨-, h⟩ := raiseIf_bind_ok.mp h
  obtain ⟨occurrenceAt, hoccurrenceAt, h⟩ := bind_eq_ok.mp h
  obtain ⟨replacementStart, hstart, h⟩ := bind_eq_ok.mp h
  obtain ⟨replacementEnd, hend, h⟩ := bind_eq_ok.mp h
  obtain rfl := toUtc_ok hoccurrenceAt
  rw [dumpOptional_map hstart, dumpOptional_map hend] at h
  split at h
  · cases h
  · rename_i exception hexception
    obtain rfl := Except.ok.inj h
    have hitem : exception.agendaItemId = command.itemId := exceptionRow?_itemId hexception
    refine ⟨⟨fun id r hr => ⟨r, hr⟩, fun id r hr _ => hr, fun _ _ => rfl, fun other hother => ?_⟩,
      rfl, ⟨exception, hexception, fun row hrow => ?_⟩, rfl⟩
    · -- the exceptions of another item are selected as before
      have hselect := Table.select_upsert db.recurrenceExceptions (r := exception)
        (p := fun r => decide (r.agendaItemId = other.id)) (f := fun r => { r with
          action := exception.action
          replacementStart := exception.replacementStart
          replacementEnd := exception.replacementEnd
          replaced := exception.replaced }) (fun _ => rfl)
        (fun a b => decide (a.occurrenceAt ≤ b.occurrenceAt)) (by simp [hitem, Ne.symm hother])
        (fun r hr => by
          have hsame : r.agendaItemId = exception.agendaItemId := congrArg Prod.fst hr
          simp [hsame, hitem, Ne.symm hother])
      unfold AgendaSchedule.stored
      rw [← hselect]
      rfl
    · have hkey : row.id = command.itemId := Table.key_of_find? hrow
      unfold AgendaSchedule.stored ExceptionRow.written
      rw [hitem, hkey]
      rfl

theorem setAgendaException_outcome (engine : RecurrenceEngine) (command : SetAgendaException)
    (now : Instant) (context : CommandContext) (db : Database) :
    ((setAgendaException engine command now context).exec db).2 = db ∨
      ((setAgendaException engine command now context).exec db).1 = .ok ⟨⟩ ∧
        Excepted engine.zones command db
          ((setAgendaException engine command now context).exec db).2 := by
  unfold setAgendaException
  rw [Effect.exec_bind, Effect.exec_query]
  cases hload : AgendaRepository.get engine command.itemId db with
  | error e => exact .inl rfl
  | ok found =>
    cases found with
    | none => exact .inl rfl
    | some existing =>
      simp only
      obtain ⟨row, hrow, hbuild⟩ := getRow_some.mp hload
      have hid : existing.id = command.itemId :=
        (AgendaRepository.fromRow_ok hbuild).1.trans (Table.key_of_find? hrow)
      rw [Effect.exec_check_bind]
      cases agendaView.ref existing with
      | error e => exact .inl rfl
      | ok ref =>
        simp only
        rw [Effect.exec_bind, Effect.exec_query]
        cases db.policyEngine.require (context.at' now) .update ref with
        | error e => exact .inl rfl
        | ok authorization =>
          simp only
          rw [Effect.exec_check_bind]
          cases hexception : RecurrenceException.checked engine.zones command.exception with
          | error e => exact .inl rfl
          | ok exception =>
            simp only
            rw [Effect.exec_atomically]
            cases hadd : (AgendaRepository.addException engine.zones existing.id exception
                authorization).run db with
            | error e => exact .inl rfl
            | ok out =>
              rw [RecurrenceException.checked_eq hexception, hid] at hadd
              exact .inr ⟨rfl, AgendaRepository.addException_written hadd⟩

/-! ### Notification rules and leads -/

/-- What the services of notification rules and leads leave alone. -/
structure Quiet (db db' : Database) : Prop where
  reminders : db'.reminders = db.reminders
  agendaItems : db'.agendaItems = db.agendaItems
  recurrenceRules : db'.recurrenceRules = db.recurrenceRules
  recurrenceExceptions : db'.recurrenceExceptions = db.recurrenceExceptions

theorem Quiet.keeps {touched : String → Prop} {db db' : Database} (h : Quiet db db') :
    Keeps touched db db' :=
  .of_same h.reminders h.agendaItems h.recurrenceRules h.recurrenceExceptions

/-- Every rule of the second database is one of the first, or the one that has been written. -/
def RulesFrom (written : AgendaNotificationRule → Prop) (db db' : Database) : Prop :=
  ∀ rule ∈ db'.agendaNotificationRules.rows, rule ∈ db.agendaNotificationRules.rows ∨ written rule

theorem Quiet.refl (db : Database) : Quiet db db := ⟨rfl, rfl, rfl, rfl⟩

theorem RulesFrom.refl (written : AgendaNotificationRule → Prop) (db : Database) :
    RulesFrom written db db := fun _ hrule => .inl hrule

theorem DataClassification.le_max (a b : DataClassification) : a ≤ a.max b := by
  cases a <;> cases b <;> decide

theorem createAgendaNotification_within (engine : RecurrenceEngine) (newId : String)
    (command : CreateAgendaNotification) (now : Instant) (context : CommandContext) :
    Effect.Within (fun db db' => Quiet db db' ∧ RulesFrom (fun rule => ∃ row,
        db.agendaItems.find? rule.agendaItemId = some row ∧
          row.classification ≤ rule.classification) db db')
      (createAgendaNotification engine newId command now context) := by
  intro db
  unfold createAgendaNotification
  rw [Effect.exec_bind, Effect.exec_query]
  cases hload : AgendaRepository.get engine command.agendaItemId db with
  | error e => exact ⟨Quiet.refl db, RulesFrom.refl _ db⟩
  | ok found =>
    cases found with
    | none => exact ⟨Quiet.refl db, RulesFrom.refl _ db⟩
    | some item =>
      simp only
      obtain ⟨row, hrow, hbuild⟩ := getRow_some.mp hload
      have hid : item.id = row.id := (AgendaRepository.fromRow_ok hbuild).1
      have hkey : row.id = command.agendaItemId := Table.key_of_find? hrow
      rw [Effect.exec_check_bind]
      cases (command.rule newId context item).validate engine.zones with
      | error e => exact ⟨Quiet.refl db, RulesFrom.refl _ db⟩
      | ok u =>
        simp only
        rw [Effect.exec_check_bind]
        cases agendaNotificationView.ref (command.rule newId context item) with
        | error e => exact ⟨Quiet.refl db, RulesFrom.refl _ db⟩
        | ok ref =>
          simp only
          rw [Effect.exec_bind, Effect.exec_query]
          cases db.policyEngine.require (context.at' now) .create ref with
          | error e => exact ⟨Quiet.refl db, RulesFrom.refl _ db⟩
          | ok authorization =>
            simp only
            rw [Effect.exec_atomically]
            cases hcreate : (AgendaNotificationRepository.create (command.rule newId context item)
                authorization).run db with
            | error e => exact ⟨Quiet.refl db, RulesFrom.refl _ db⟩
            | ok out =>
              obtain ⟨_, -, hcreate⟩ := bind_eq_ok.mp hcreate
              simp only at hcreate
              split at hcreate
              · cases hcreate
              · obtain ⟨-, hcreate⟩ := raiseIf_bind_ok.mp hcreate
                obtain ⟨-, hcreate⟩ := raiseIf_bind_ok.mp hcreate
                split at hcreate
                · cases hcreate
                · rename_i rules hinsert
                  obtain rfl := Except.ok.inj hcreate
                  refine ⟨⟨rfl, rfl, rfl, rfl⟩, fun rule hrule => ?_⟩
                  have hrows : rules.rows = _ := Table.rows_insert hinsert
                  have hrule' : rule ∈ rules.rows := hrule
                  rw [hrows] at hrule'
                  rcases List.mem_append.mp hrule' with hold | hnew
                  · exact .inl hold
                  · -- the new rule is as protected as the item
                    obtain rfl := List.mem_singleton.mp hnew
                    refine .inr ⟨row, ?_, ?_⟩
                    · show db.agendaItems.find? item.id = some row
                      rw [hid, hkey]
                      exact hrow
                    · rw [AgendaRepository.fromRow_classification hbuild]
                      exact DataClassification.le_max _ _

theorem updateAgendaNotification_outcome (zones : TimeZones) (command : UpdateAgendaNotification)
    (now : Instant) (context : CommandContext) (db : Database) :
    (((updateAgendaNotification zones command).run now context).exec db).2 = db ∨
      (∃ record,
        (((updateAgendaNotification zones command).run now context).exec db).1 = .ok record) ∧
      Quiet db (((updateAgendaNotification zones command).run now context).exec db).2 ∧
      RulesFrom (fun rule => ∃ stored, db.agendaNotificationRules.find? command.ruleId = some stored ∧
          rule.agendaItemId = stored.agendaItemId ∧
          rule.classification = command.classification.getD stored.classification) db
        (((updateAgendaNotification zones command).run now context).exec db).2 := by
  refine Course.outcome (P := fun answer db' => db' = db ∨ (∃ record, answer = .ok record) ∧
    Quiet db db' ∧ RulesFrom _ db db') (fun _ => .inl rfl)
    fun existing updated authorization record db' hload _ hrevise hsaved =>
      .inr ⟨⟨record, rfl⟩, ?_⟩
  obtain ⟨stored, hstored, hbuild⟩ := getRow_some.mp hload
  obtain ⟨-, hbuild⟩ := raiseIf_bind_ok.mp hbuild
  obtain ⟨_, -, hbuild⟩ := bind_eq_ok.mp hbuild
  obtain rfl := Except.ok.inj hbuild
  obtain ⟨_, -, hrevise⟩ := bind_eq_ok.mp hrevise
  obtain rfl := Except.ok.inj hrevise
  obtain ⟨_, -, hsaved⟩ := bind_eq_ok.mp hsaved
  obtain ⟨⟨_, db''⟩, hupdate, hsaved⟩ := bind_eq_ok.mp hsaved
  obtain ⟨-, rfl⟩ := Prod.mk.inj (Except.ok.inj hsaved)
  unfold updateOne at hupdate
  split at hupdate
  · cases hupdate
  · obtain rfl := (Prod.mk.inj (Except.ok.inj hupdate)).2
    refine ⟨⟨rfl, rfl, rfl, rfl⟩, fun rule hrule => ?_⟩
    obtain ⟨old, hold, hrule⟩ := List.mem_map.mp hrule
    split_ifs at hrule with hsame
    · -- the row that is rewritten is the one that was read
      have hid : old.id = stored.id := by simpa using hsame
      have hkey : stored.id = command.ruleId := Table.key_of_find? hstored
      have hfound := Table.find?_of_mem hold
      rw [hid, hkey] at hfound
      obtain rfl := Option.some.inj (hstored.symm.trans hfound)
      subst hrule
      exact .inr ⟨stored, hstored, rfl, rfl⟩
    · rw [← hrule]
      exact .inl hold

theorem deleteAgendaNotification_within (zones : TimeZones) (ruleId : String) (now : Instant)
    (context : CommandContext) :
    Effect.Within (fun db db' => Quiet db db' ∧ RulesFrom (fun _ => False) db db')
      (deleteAgendaNotification zones ruleId now context) := by
  have hrefl : ∀ db : Database, Quiet db db ∧ RulesFrom (fun _ => False) db db :=
    fun db => ⟨Quiet.refl db, RulesFrom.refl _ db⟩
  unfold deleteAgendaNotification
  refine Effect.Within.query_bind hrefl fun existing => ?_
  cases existing with
  | none => exact fun db => hrefl db
  | some existing =>
    refine Effect.Within.check_bind hrefl fun ref => ?_
    refine Effect.Within.query_bind hrefl fun authorization => ?_
    refine Effect.Within.atomically hrefl fun db _ db' h => ?_
    obtain ⟨_, -, h⟩ := bind_eq_ok.mp h
    obtain ⟨-, h⟩ := raiseIf_bind_ok.mp h
    obtain rfl := (Prod.mk.inj (Except.ok.inj h)).2
    refine ⟨⟨rfl, rfl, rfl, rfl⟩, fun rule hrule => .inl ?_⟩
    exact List.mem_of_mem_filter hrule

theorem setNotificationLeads_within (engine : RecurrenceEngine) (command : SetNotificationLeads)
    (now : Instant) (context : CommandContext) :
    Effect.Within (fun db db' => Quiet db db' ∧ RulesFrom (fun _ => False) db db')
      (setNotificationLeads engine command now context) := by
  have hrefl : ∀ db : Database, Quiet db db ∧ RulesFrom (fun _ => False) db db :=
    fun db => ⟨Quiet.refl db, RulesFrom.refl _ db⟩
  unfold setNotificationLeads
  split
  · refine Effect.Within.check_bind hrefl fun ref => ?_
    refine Effect.Within.query_bind hrefl fun _ => ?_
    refine Effect.Within.atomically hrefl fun db _ db' h => ?_
    obtain ⟨normalised, -, h⟩ := bind_eq_ok.mp h
    obtain ⟨-, h⟩ := raiseIf_bind_ok.mp h
    obtain rfl := (Prod.mk.inj (Except.ok.inj h)).2
    exact ⟨⟨rfl, rfl, rfl, rfl⟩, fun rule hrule => .inl hrule⟩
  · refine Effect.Within.query_bind hrefl fun item => ?_
    cases item with
    | none => exact fun db => hrefl db
    | some item =>
      refine Effect.Within.check_bind hrefl fun ref => ?_
      refine Effect.Within.query_bind hrefl fun _ => ?_
      refine Effect.Within.atomically hrefl fun db _ db' h => ?_
      obtain ⟨normalised, -, h⟩ := bind_eq_ok.mp h
      obtain ⟨-, h⟩ := raiseIf_bind_ok.mp h
      obtain rfl := (Prod.mk.inj (Except.ok.inj h)).2
      exact ⟨⟨rfl, rfl, rfl, rfl⟩, fun rule hrule => .inl hrule⟩

/-! ### Deletions -/

/-- A deletion that has not come to its end has left the agenda as it was. -/
theorem SameAgenda.keeps {touched : String → Prop} {db db' : Database} (h : SameAgenda db db')
    (hpresent : ∀ id r, db.reminders.find? id = some r → ∃ r', db'.reminders.find? id = some r')
    (hpending : PendingKept db db') : Keeps touched db db' where
  present := hpresent
  pending := hpending
  items id _ := by rw [h.agendaItems]
  schedules row _ := by
    unfold AgendaSchedule.stored
    rw [h.recurrenceRules, h.recurrenceExceptions]

/-- An item has been deleted, and its owner has no pending reminder of it. -/
structure Deleted (itemId : String) (row : AgendaRow) (db db' : Database) : Prop where
  found : db.agendaItems.find? itemId = some row
  keeps : Keeps (fun id => id = itemId) db db'
  settled : ∀ r ∈ db'.reminders.rows, r.isPendingFor itemId = true →
    r.ownerUserId ≠ row.ownerUserId
  rules : ∀ rule ∈ db'.agendaNotificationRules.rows,
    rule ∈ db.agendaNotificationRules.rows ∧ rule.agendaItemId ≠ itemId

/-- What a deletion does to the agenda but for its last operation. -/
structure Cancelling (db db' : Database) : Prop where
  same : SameAgenda db db'
  present : ∀ id r, db.reminders.find? id = some r → ∃ r', db'.reminders.find? id = some r'
  pending : PendingKept db db'

theorem Cancelling.refl (db : Database) : Cancelling db db :=
  ⟨SameAgenda.refl db, fun _ r hr => ⟨r, hr⟩, PendingKept.refl db⟩

theorem Cancelling.trans (db db' db'' : Database) (h : Cancelling db db')
    (h' : Cancelling db' db'') : Cancelling db db'' where
  same := h.same.trans h'.same
  present id r hr := by
    obtain ⟨r', hr'⟩ := h.present id r hr
    exact h'.present id r' hr'
  pending := h.pending.trans h'.pending

theorem cancelRow_cancelling {db db' : Database} {id : String} {version : Int}
    {authorization : AuthorizedAction}
    (h : cancelRow id version authorization db = .ok (⟨⟩, db')) : Cancelling db db' := by
  refine ⟨cancelRow_sameAgenda h, fun id' r hr => ?_, cancelRow_pendingKept h⟩
  obtain ⟨found, -, hreminders⟩ := cancelRow_reminders h
  rw [hreminders]
  split_ifs
  · exact ⟨_, rfl⟩
  · exact ⟨r, hr⟩

/-- What the last operation does. -/
theorem AgendaRepository.delete_ok {itemId : String} {authorization : AuthorizedAction}
    {db db' : Database} (h : AgendaRepository.delete itemId authorization db = .ok (⟨⟩, db')) :
    Keeps (fun id => id = itemId) db db' ∧ db'.reminders = db.reminders ∧
      ∀ rule ∈ db'.agendaNotificationRules.rows,
        rule ∈ db.agendaNotificationRules.rows ∧ rule.agendaItemId ≠ itemId := by
  obtain ⟨-, h⟩ := raiseIf_bind_ok.mp h
  obtain ⟨_, -, h⟩ := bind_eq_ok.mp h
  obtain ⟨-, h⟩ := raiseIf_bind_ok.mp h
  obtain rfl := (Prod.mk.inj (Except.ok.inj h)).2
  refine ⟨⟨fun id r hr => ⟨r, hr⟩, fun id r hr _ => hr, fun id hid => ?_, fun row hrow => ?_⟩, rfl,
    fun rule hrule => ?_⟩
  · show (db.agendaItems.deleteWhere _).find? id = _
    rw [Table.find?_deleteWhere]
    cases hfound : db.agendaItems.find? id with
    | none => rfl
    | some row =>
      have hkey : row.id = id := Table.key_of_find? hfound
      rw [Option.filter_some, if_pos]
      simp [hkey, hid]
  · have hrules : (db.recurrenceRules.deleteWhere fun r => r.agendaItemId = itemId).find? row.id =
        db.recurrenceRules.find? row.id := by
      rw [Table.find?_deleteWhere]
      cases hfound : db.recurrenceRules.find? row.id with
      | none => rfl
      | some rule =>
        have hkey : rule.agendaItemId = row.id := Table.key_of_find? hfound
        rw [Option.filter_some, if_pos]
        simp [hkey, hrow]
    have hexceptions := Table.select_deleteWhere db.recurrenceExceptions
      (p := fun r => decide (r.agendaItemId = row.id))
      (q := fun r => decide (r.agendaItemId = itemId))
      (fun a b => decide (a.occurrenceAt ≤ b.occurrenceAt)) (fun r hr => by
        have hid : r.agendaItemId = row.id := by simpa using hr
        simp [hid, hrow])
    unfold AgendaSchedule.stored
    rw [← hrules, ← hexceptions]
    rfl
  · obtain ⟨hmem, hother⟩ := List.mem_filter.mp hrule
    exact ⟨hmem, by simpa using hother⟩

theorem deleteAgenda_within (engine : RecurrenceEngine) (itemId : String) (now : Instant)
    (context : CommandContext) :
    Effect.Within (fun db db' => Cancelling db db' ∨ ∃ row, Deleted itemId row db db')
      (deleteAgenda engine itemId now context).effect := by
  intro db
  -- the run among others who do nothing
  obtain ⟨others, hidle⟩ : ∃ others : ℕ → Database → Database, others = fun _ t => t := ⟨_, rfl⟩
  have hothers : ∀ n s, Fires s (others n s) := by
    intro n s
    rw [hidle]
    exact Fires.refl s
  have hcancelling : ∀ n s, Cancelling s (others n s) := by
    intro n s
    rw [hidle]
    exact Cancelling.refl s
  have hstore : ((deleteAgenda engine itemId now context).run others 0 db).store =
      ((deleteAgenda engine itemId now context).effect.exec db).2 := by
    rw [hidle]
    exact congrArg Prod.snd (Process.run_alone (deleteAgenda engine itemId now context) 0 db)
  have hsplit : (deleteAgenda engine itemId now context).run others 0 db = _ :=
    Process.run_bind (prepareDeletion engine itemId (context.at' now))
      (fun prepared =>
        Process.forEach prepared.2.2 (cancelLinked engine.zones (context.at' now)) >>= fun _ =>
          Process.atomically (AgendaRepository.delete prepared.1.id prepared.2.1)) 0 db
  have hprepared :=
    (steps_prepareDeletion Cancelling.refl engine itemId (context.at' now)).store Cancelling.refl
      Cancelling.trans hcancelling 0 db
  rw [← hstore, hsplit]
  cases hanswer : ((prepareDeletion engine itemId (context.at' now)).run others 0 db).answer with
  | error e => exact .inl hprepared
  | ok out =>
    obtain ⟨existing, authorization, reminders⟩ := out
    have hatLoop := (prepareDeletion_ok hanswer).before (hothers 0 db).sameAgenda
    generalize ((prepareDeletion engine itemId (context.at' now)).run others 0 db).store = s at *
    generalize 0 + ((prepareDeletion engine itemId (context.at' now)).run others 0 db).own.length =
      n at *
    have hloop : Cancelling s ((Process.forEach reminders
        (cancelLinked engine.zones (context.at' now))).run others n s).store :=
      (Process.Steps.forEach fun reminder =>
        steps_cancelLinked Cancelling.refl cancelRow_cancelling reminder).store Cancelling.refl
          Cancelling.trans hcancelling n s
    simp only
    rw [Process.run_bind]
    cases hanswer' : ((Process.forEach reminders
        (cancelLinked engine.zones (context.at' now))).run others n s).answer with
    | error e => exact .inl (Cancelling.trans _ _ _ hprepared hloop)
    | ok u =>
      obtain ⟨hnodup, hreminders, -⟩ := hatLoop.reminders
      have hall : AllPass engine.zones others (context.at' now) reminders n s := by
        by_contra hnot
        obtain ⟨e, herror⟩ := run_forEach_not_allPass hothers hnodup
          (fun r hr => (hreminders r hr).2) hnot
        rw [herror] at hanswer'
        cases hanswer'
      have hlast : Cancelling db (atLast engine.zones others (context.at' now) reminders n s) :=
        Cancelling.trans _ _ _ (Cancelling.trans _ _ _ hprepared hloop) (hcancelling _ _)
      obtain ⟨db', hdelete, -, -⟩ := hatLoop.delete hlast.same
      obtain ⟨hkeeps, hsame, hrules⟩ := AgendaRepository.delete_ok hdelete
      have hexec : (Effect.atomically (AgendaRepository.delete existing.id authorization)).exec
          (atLast engine.zones others (context.at' now) reminders n s) = (.ok ⟨⟩, db') :=
        Effect.exec_atomically_ok.mpr hdelete
      unfold atLast at hexec
      unfold Process.atomically
      rw [Process.run_once, hexec]
      obtain ⟨row, hrow, hid, howner⟩ := hatLoop.item
      rw [hid] at hkeeps hrules
      refine .inr ⟨row, hrow, (hlast.same.keeps hlast.present hlast.pending).trans hkeeps,
        fun r hr hpending => ?_, fun rule hrule => ?_⟩
      · have hr' : r ∈ db'.reminders.rows := hr
        rw [hsame] at hr'
        rw [howner]
        exact hatLoop.settled hothers hall r hr' hpending
      · obtain ⟨hmem, hother⟩ := hrules rule hrule
        rw [hlast.same.agendaNotificationRules] at hmem
        exact ⟨hmem, hother⟩

end Zhixu
