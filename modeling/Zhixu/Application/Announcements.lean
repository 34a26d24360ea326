import Zhixu.Application.Schedulers

/-!
# What a tick announces

A `AgendaSchedule` is all that the expansion of an item looks at: when it starts and ends, its zone, its
rule and its exceptions. `AgendaSchedule.Has` says that some window shows an occurrence of it that starts
at a given instant, and `AgendaSchedule.stored` is the schedule of a stored item. An occurrence that a query
of the agenda finds is one of the schedule stored (`mem_occurrences`).

What a tick of the two agenda schedulers may do is `Announces`: it adds reminders and audit events and
nothing else, and every reminder it notes is `Apt`. It is linked to its item, belongs to whoever owns
the item, announces an occurrence that the schedule of the item has, and is as protected as the item
or as one of its notification rules. `announces_notificationTick` and `announces_leadTick` say so of
every tick from every state, raising or not.

The loops of a tick run on stores that differ from the first one by what the tick has added, so the
statement about a pass speaks of a `base` with which the store agrees.
-/

open Framework

namespace Zhixu

/-! ### Schedules -/

/-- All that the expansion of an item looks at. -/
structure AgendaSchedule where
  startAt : Instant
  endAt : Instant
  timezone : String
  rule : Option (String × String)
  exceptions : List ExceptionRow

namespace AgendaSchedule

/-- The schedule of a stored item. -/
def stored (db : Database) (row : AgendaRow) : AgendaSchedule where
  startAt := row.startAt
  endAt := row.endAt
  timezone := row.timezone
  rule := (db.recurrenceRules.find? row.id).map fun r => (r.ruleText, r.timezone)
  exceptions := db.recurrenceExceptions.select (fun r => r.agendaItemId = row.id)
    fun a b => a.occurrenceAt ≤ b.occurrenceAt

/-- The rule of a schedule, as `_from_row` reads it. -/
def recurrence (engine : RecurrenceEngine) (schedule : AgendaSchedule) :
    Except PyError (Option RecurrenceRule) :=
  match schedule.rule with
  | none => .ok none
  | some (ruleText, timezone) => some <$> RecurrenceRule.checked engine ruleText timezone

/-- An exception, as `_exceptions` reads it. -/
def loadException (zones : TimeZones) (timezone : String) (row : ExceptionRow) :
    Except PyError (Option RecurrenceException) := do
  let occurrenceAt ← DateTime.load zones row.occurrenceAt timezone
  let replacementStart ← loadOptional zones timezone row.replacementStart
  let replacementEnd ← loadOptional zones timezone row.replacementEnd
  let exception ← RecurrenceException.checked zones
    { occurrenceAt, action := row.action, replacementStart, replacementEnd }
  return some exception

/-- The item and the exceptions have been read from the schedule. -/
structure Describes (engine : RecurrenceEngine) (schedule : AgendaSchedule) (item : AgendaItem)
    (exceptions : List RecurrenceException) : Prop where
  startAt : DateTime.load engine.zones schedule.startAt schedule.timezone = .ok item.startAt
  endAt : DateTime.load engine.zones schedule.endAt schedule.timezone = .ok item.endAt
  timezone : item.timezone = schedule.timezone
  recurrence : schedule.recurrence engine = .ok item.recurrence
  exceptions : collect (loadException engine.zones schedule.timezone) schedule.exceptions =
    .ok exceptions

/-- Some window shows an occurrence of the schedule that starts at the instant. -/
def Has (engine : RecurrenceEngine) (schedule : AgendaSchedule) (startAt : Instant) : Prop :=
  ∃ item exceptions windowStart windowEnd found, schedule.Describes engine item exceptions ∧
    occurrencesBetween engine item windowStart windowEnd exceptions = .ok found ∧
    ∃ occurrence ∈ found, occurrence.startAt.instant engine.zones = startAt

end AgendaSchedule

theorem AgendaRepository.fromRow_classification {engine : RecurrenceEngine} {db : Database}
    {row : AgendaRow} {item : AgendaItem} (h : fromRow engine db row = .ok item) :
    row.classification = item.classification := by
  obtain ⟨recurrence, -, h⟩ := bind_eq_ok.mp h
  obtain ⟨startAt, -, h⟩ := bind_eq_ok.mp h
  obtain ⟨endAt, -, h⟩ := bind_eq_ok.mp h
  obtain ⟨-, h⟩ := raiseIf_bind_ok.mp h
  obtain ⟨_, -, h⟩ := bind_eq_ok.mp h
  rw [← Except.ok.inj h]

/-! ### Occurrences that a query finds -/

section Queries

variable {engine : RecurrenceEngine} {db : Database} {row : AgendaRow} {item : AgendaItem}
  {windowStart windowEnd : DateTime} {found : List AgendaOccurrence} {occurrence : AgendaOccurrence}

/-- An occurrence bears the id of its item. -/
theorem agendaItemId_of_occurrencesBetween {exceptions : List RecurrenceException}
    (h : occurrencesBetween engine item windowStart windowEnd exceptions = .ok found)
    (hmem : occurrence ∈ found) : occurrence.agendaItemId = item.id := by
  unfold occurrencesBetween at h
  obtain ⟨-, h⟩ := raiseIf_bind_ok.mp h
  obtain ⟨starts, -, h⟩ := bind_eq_ok.mp h
  obtain ⟨start, -, heffective⟩ := (mem_collect h).mp hmem
  unfold effective at heffective
  obtain ⟨endAt, -, heffective⟩ := bind_eq_ok.mp heffective
  split at heffective
  · cases heffective
  · split at heffective
    · obtain rfl := Option.some.inj (Except.ok.inj heffective)
      rfl
    · split at heffective
      · cases heffective
      · split at heffective
        · obtain rfl := Option.some.inj (Except.ok.inj heffective)
          rfl
        · cases heffective
      · cases heffective

/-- What expands a stored item expands its schedule. -/
theorem AgendaSchedule.stored_has
    (h : AgendaRepository.occurrencesOf engine windowStart windowEnd db row = .ok found)
    (hmem : occurrence ∈ found) :
    occurrence.agendaItemId = row.id ∧
      (AgendaSchedule.stored db row).Has engine (occurrence.startAt.instant engine.zones) := by
  unfold AgendaRepository.occurrencesOf at h
  obtain ⟨item, hitem, h⟩ := bind_eq_ok.mp h
  obtain ⟨exceptions, hexceptions, h⟩ := bind_eq_ok.mp h
  have hid := (AgendaRepository.fromRow_ok hitem).1
  refine ⟨(agendaItemId_of_occurrencesBetween h hmem).trans hid, item, exceptions, windowStart,
    windowEnd, found, ?_, h, occurrence, hmem, rfl⟩
  obtain ⟨recurrence, hrecurrence, hitem⟩ := bind_eq_ok.mp hitem
  obtain ⟨startAt, hstartAt, hitem⟩ := bind_eq_ok.mp hitem
  obtain ⟨endAt, hendAt, hitem⟩ := bind_eq_ok.mp hitem
  obtain ⟨-, hitem⟩ := raiseIf_bind_ok.mp hitem
  obtain ⟨_, -, hitem⟩ := bind_eq_ok.mp hitem
  obtain rfl := Except.ok.inj hitem
  refine ⟨hstartAt, hendAt, rfl, ?_, hexceptions⟩
  rw [← hrecurrence]
  unfold AgendaSchedule.recurrence AgendaSchedule.stored AgendaRepository.recurrenceOf
  cases db.recurrenceRules.find? row.id with
  | none => rfl
  | some r => rfl

/-- **An occurrence that a query finds** is one of an item of the owner. -/
theorem mem_occurrences {ownerUserId : String}
    (h : AgendaRepository.occurrences engine ownerUserId windowStart windowEnd db = .ok found)
    (hmem : occurrence ∈ found) :
    ∃ row, db.agendaItems.find? occurrence.agendaItemId = some row ∧
      row.ownerUserId = ownerUserId ∧
      (AgendaSchedule.stored db row).Has engine (occurrence.startAt.instant engine.zones) := by
  unfold AgendaRepository.occurrences at h
  obtain ⟨start', -, h⟩ := bind_eq_ok.mp h
  obtain ⟨end', -, h⟩ := bind_eq_ok.mp h
  obtain ⟨lists, hlists, h⟩ := bind_eq_ok.mp h
  obtain rfl := Except.ok.inj h
  obtain ⟨list, hlist, hin⟩ := List.mem_flatten.mp ((List.mem_insertionSort _).mp hmem)
  obtain ⟨row, hrow, hfound⟩ := (mem_collect hlists).mp hlist
  obtain ⟨hstored, hselected⟩ := Table.mem_select.mp hrow
  have hexpand : AgendaRepository.occurrencesOf engine windowStart windowEnd db row = .ok list := by
    cases hof : AgendaRepository.occurrencesOf engine windowStart windowEnd db row with
    | error e => rw [hof] at hfound; cases hfound
    | ok list' =>
      rw [hof] at hfound
      obtain rfl := Option.some.inj (Except.ok.inj hfound)
      rfl
  obtain ⟨hid, hhas⟩ := AgendaSchedule.stored_has hexpand hin
  refine ⟨row, ?_, ?_, hhas⟩
  · rw [hid]
    exact Table.find?_of_mem hstored
  · simp only [Bool.and_eq_true, decide_eq_true_eq] at hselected
    exact hselected.1

end Queries

/-! ### What a tick may do -/

/-- The databases differ in reminders and audit events only. -/
def Agrees (db db' : Database) : Prop :=
  ∃ reminders auditEvents, db' = { db with reminders, auditEvents }

theorem Agrees.refl (db : Database) : Agrees db db := ⟨db.reminders, db.auditEvents, rfl⟩

theorem Agrees.trans {db db' db'' : Database} (h : Agrees db db') (h' : Agrees db' db'') :
    Agrees db db'' := by
  obtain ⟨reminders, auditEvents, rfl⟩ := h
  obtain ⟨reminders', auditEvents', rfl⟩ := h'
  exact ⟨reminders', auditEvents', rfl⟩

/-- A reminder that suits what it was made for, an item of the base. -/
structure Apt (engine : RecurrenceEngine) (base : Database) (a : Announcement) (r : Reminder)
    (row : AgendaRow) : Prop where
  related : r.relatedKind = some "agenda" ∧ r.relatedId = some a.agendaItemId
  item : base.agendaItems.find? a.agendaItemId = some row
  owner : r.ownerUserId = row.ownerUserId
  occurs : (AgendaSchedule.stored base row).Has engine a.startAt
  source : r.classification = row.classification ∨
    ∃ rule ∈ base.agendaNotificationRules.rows, rule.agendaItemId = a.agendaItemId ∧
      r.classification = rule.classification

/-- What a tick may do to a ledger: add reminders, and note those that it adds. -/
structure Announces (engine : RecurrenceEngine) (base : Database)
    (s s' : Ledger Database Announcement) : Prop where
  rest : Agrees s.store s'.store
  kept : ∀ id r, s.store.reminders.find? id = some r → s'.store.reminders.find? id = some r
  noted : ∃ new, s'.notes = s.notes ++ new ∧ ∀ a ∈ new, ∃ r row,
    s'.store.reminders.find? a.reminderId = some r ∧ Apt engine base a r row

/-- What a piece of a tick may do from where the store agrees with the base. -/
def TickStep (engine : RecurrenceEngine) (base : Database) (s s' : Ledger Database Announcement) :
    Prop :=
  Agrees base s.store → Announces engine base s s'

section Steps

variable {engine : RecurrenceEngine} {base : Database}

theorem Announces.refl (s : Ledger Database Announcement) : Announces engine base s s :=
  ⟨Agrees.refl s.store, fun _ _ hr => hr, [], by simp, fun _ ha => absurd ha List.not_mem_nil⟩

theorem Announces.trans {s s' s'' : Ledger Database Announcement} (h : Announces engine base s s')
    (h' : Announces engine base s' s'') : Announces engine base s s'' := by
  obtain ⟨new, hnotes, hnew⟩ := h.noted
  obtain ⟨new', hnotes', hnew'⟩ := h'.noted
  refine ⟨h.rest.trans h'.rest, fun id r hr => h'.kept id r (h.kept id r hr), new ++ new', ?_,
    fun a ha => ?_⟩
  · rw [hnotes', hnotes, List.append_assoc]
  · rcases List.mem_append.mp ha with hold | hlate
    · obtain ⟨r, row, hr, hapt⟩ := hnew a hold
      exact ⟨r, row, h'.kept _ r hr, hapt⟩
    · exact hnew' a hlate

theorem TickStep.refl (s : Ledger Database Announcement) : TickStep engine base s s :=
  fun _ => Announces.refl s

theorem TickStep.trans (s s' s'' : Ledger Database Announcement) (h : TickStep engine base s s')
    (h' : TickStep engine base s' s'') : TickStep engine base s s'' := fun hagrees =>
  (h hagrees).trans (h' (hagrees.trans (h hagrees).rest))

/-- Storing an apt reminder. -/
theorem tickStep_announce {reminder : Reminder} {fireAt : DateTime} {agendaItemId : String}
    {startAt now : Instant} {row : AgendaRow}
    (hapt : Apt engine base ⟨reminder.id, agendaItemId, startAt⟩ reminder row) :
    Effect.Within (TickStep engine base)
      (announce engine.zones reminder fireAt agendaItemId startAt now) := by
  unfold announce
  refine Effect.Within.check_bind TickStep.refl fun _ => ?_
  refine Effect.Within.check_bind TickStep.refl fun resource => ?_
  refine Effect.Within.check_bind TickStep.refl fun stored => ?_
  refine Effect.Within.tryCatch TickStep.trans ?_ fun e => ?_
  · refine Effect.Within.bind TickStep.trans ?_ fun _ => Effect.Within.pure TickStep.refl 1
    intro s hagrees
    rw [Effect.exec_noting, Effect.exec_atomically]
    cases hcreate : (ReminderRepository.create { reminder with fireAt := stored }
        (schedulerAuthorization resource now)).run s.store with
    | error e => exact Announces.refl s
    | ok out =>
      obtain ⟨created, store⟩ := out
      simp only
      unfold ReminderRepository.create at hcreate
      obtain ⟨_, -, hcreate⟩ := bind_eq_ok.mp hcreate
      obtain ⟨-, hcreate⟩ := raiseIf_bind_ok.mp hcreate
      split at hcreate
      · cases hcreate
      · rename_i reminders hinsert
        obtain ⟨rfl, rfl⟩ := Prod.mk.inj (Except.ok.inj hcreate)
        have hfind := Table.find?_insert hinsert
        have hfresh := (Table.insert?_eq_some.mp hinsert).1
        refine ⟨⟨reminders, _, rfl⟩, fun id r hr => ?_, _, rfl, fun a ha => ?_⟩
        · show reminders.find? id = some r
          have hne : id ≠ reminder.id := by
            intro hid
            rw [hid] at hr
            exact absurd (hfresh.symm.trans hr) (by simp)
          exact (hfind id).trans ((if_neg hne).trans hr)
        · obtain rfl := List.mem_singleton.mp ha
          have hself := Table.find?_insert_self hinsert
          exact ⟨_, row, hself, hapt.related, hapt.item, hapt.owner, hapt.occurs, hapt.source⟩
  · split_ifs
    · exact Effect.Within.pure TickStep.refl 0
    · exact fun s => TickStep.refl s

/-- A read at which the base would answer the same. -/
theorem tickStep_query {α β : Type} {f : Ledger Database Announcement → Except PyError α}
    {g : Database → Except PyError α} {m : α → Tick β}
    (hf : ∀ s, Agrees base s.store → f s = g base)
    (hm : ∀ a, g base = .ok a → Effect.Within (TickStep engine base) (m a)) :
    Effect.Within (TickStep engine base) (Effect.query f >>= m) := by
  intro s hagrees
  rw [Effect.exec_bind, Effect.exec_query, hf s hagrees]
  cases hg : g base with
  | error e => exact Announces.refl s
  | ok a => exact hm a hg s hagrees

/-- The queries of the ticks read neither reminders nor audit events. -/
theorem Agrees.occurrences {db : Database} (h : Agrees base db) (ownerUserId : String)
    (windowStart windowEnd : DateTime) :
    AgendaRepository.occurrences engine ownerUserId windowStart windowEnd db =
      AgendaRepository.occurrences engine ownerUserId windowStart windowEnd base := by
  obtain ⟨reminders, auditEvents, rfl⟩ := h
  rfl

end Steps

/-! ### The two ticks -/

section Ticks

variable {runtime : Runtime} {base : Database}

/-- An occurrence of the base, which a pass of a tick is about. -/
def Found (runtime : Runtime) (base : Database) (ownerUserId : String)
    (occurrence : AgendaOccurrence) (row : AgendaRow) : Prop :=
  base.agendaItems.find? occurrence.agendaItemId = some row ∧ row.ownerUserId = ownerUserId ∧
    (AgendaSchedule.stored base row).Has runtime.engine (occurrence.startAt.instant runtime.engine.zones)

theorem toUtc_ok {zones : TimeZones} {dt : DateTime} {t : Int} (h : dt.toUtc zones = .ok t) :
    t = dt.instant zones := by
  unfold DateTime.toUtc at h
  obtain ⟨-, h⟩ := raiseIf_bind_ok.mp h
  exact (Except.ok.inj h).symm

theorem tickStep_materializeRuleOccurrence {rule : AgendaNotificationRule} {localNow : DateTime}
    {now : Instant} {occurrence : AgendaOccurrence} {row : AgendaRow}
    (hrule : rule ∈ base.agendaNotificationRules.rows)
    (hfound : Found runtime base rule.ownerUserId occurrence row)
    (hitem : occurrence.agendaItemId = rule.agendaItemId) :
    Effect.Within (TickStep runtime.engine base)
      (materializeRuleOccurrence runtime rule localNow now occurrence) := by
  unfold materializeRuleOccurrence
  refine Effect.Within.check_bind TickStep.refl fun _ => ?_
  intro s
  rw [Effect.exec_check_bind]
  cases hstart : occurrence.startAt.toUtc runtime.zones with
  | error e => exact TickStep.refl s
  | ok startAt =>
    refine Effect.Within.query_bind TickStep.refl (fun existing => ?_) s
    split_ifs
    · exact Effect.Within.pure TickStep.refl 0
    · refine tickStep_announce ⟨⟨rfl, ?_⟩, hfound.1, hfound.2.1.symm, ?_,
        .inr ⟨rule, hrule, hitem.symm, rfl⟩⟩
      · rw [hitem]
        rfl
      · rw [toUtc_ok hstart]
        exact hfound.2.2

theorem tickStep_materializeRule {rule : AgendaNotificationRule} {now : Instant}
    (hrule : rule ∈ base.agendaNotificationRules.rows) :
    Effect.Within (TickStep runtime.engine base) (materializeRule runtime rule now) := by
  unfold materializeRule
  refine Effect.Within.check_bind TickStep.refl fun localNow => ?_
  split_ifs
  · exact Effect.Within.pure TickStep.refl 0
  · refine Effect.Within.check_bind TickStep.refl fun occurrenceStart => ?_
    refine Effect.Within.check_bind TickStep.refl fun occurrenceEnd => ?_
    refine tickStep_query (fun s hagrees => hagrees.occurrences rule.ownerUserId occurrenceStart
      occurrenceEnd) fun found hfound => ?_
    refine Effect.Within.countEach TickStep.refl TickStep.trans fun occurrence hmem => ?_
    obtain ⟨hin, hitem⟩ := List.mem_filter.mp hmem
    obtain ⟨row, hrow⟩ := mem_occurrences hfound hin
    exact tickStep_materializeRuleOccurrence hrule hrow (by simpa using hitem)

/-- **What a tick of the notification rules announces.** -/
theorem announces_notificationTick (runtime : Runtime) (now : Instant)
    (s : Ledger Database Announcement) :
    Announces runtime.engine s.store s ((notificationTick runtime now).exec s).2 := by
  have hwithin : Effect.Within (TickStep runtime.engine s.store) (notificationTick runtime now) := by
    unfold notificationTick
    refine tickStep_query
      (g := fun db => AgendaNotificationRepository.listEnabled runtime.zones db)
      (fun s hagrees => ?_) fun rules hrules => ?_
    · obtain ⟨reminders, auditEvents, hstore⟩ := hagrees
      rw [hstore]
      rfl
    · refine Effect.Within.countEach TickStep.refl TickStep.trans fun rule hmem => ?_
      -- an enabled rule is read as it is stored
      obtain ⟨row, hrow, hread⟩ := (mem_collect hrules).mp hmem
      have hrule : rule = row := by
        cases hfrom : AgendaNotificationRepository.fromRow runtime.zones row with
        | error e => rw [hfrom] at hread; cases hread
        | ok rule' =>
          rw [hfrom] at hread
          obtain rfl := Option.some.inj (Except.ok.inj hread)
          unfold AgendaNotificationRepository.fromRow at hfrom
          obtain ⟨-, hfrom⟩ := raiseIf_bind_ok.mp hfrom
          obtain ⟨_, -, hfrom⟩ := bind_eq_ok.mp hfrom
          exact (Except.ok.inj hfrom).symm
      rw [hrule]
      exact tickStep_materializeRule (Table.mem_select.mp hrow).1
  exact hwithin s (Agrees.refl s.store)

/-- An item that a tick is about: it has been read from a row of the base. -/
def ReadFrom (base : Database) (item : AgendaItem) : Prop :=
  ∃ row, base.agendaItems.find? item.id = some row ∧ row.ownerUserId = item.ownerUserId ∧
    row.classification = item.classification

theorem tickStep_materializeLead {item : AgendaItem} {occurrence : AgendaOccurrence}
    {targetRef : String} {now : Instant} {minutes : Int} {row : AgendaRow}
    (hclassification : row.classification = item.classification)
    (hfound : Found runtime base item.ownerUserId occurrence row)
    (hitem : occurrence.agendaItemId = item.id) :
    Effect.Within (TickStep runtime.engine base)
      (materializeLead runtime item occurrence targetRef now minutes) := by
  unfold materializeLead
  refine Effect.Within.check_bind TickStep.refl fun fireAt => ?_
  split_ifs
  · exact Effect.Within.pure TickStep.refl 0
  · refine Effect.Within.check_bind TickStep.refl fun _ => ?_
    intro s
    rw [Effect.exec_check_bind]
    cases hstart : occurrence.startAt.toUtc runtime.zones with
    | error e => exact TickStep.refl s
    | ok startAt =>
      refine Effect.Within.query_bind TickStep.refl (fun existing => ?_) s
      split_ifs
      · exact Effect.Within.pure TickStep.refl 0
      · refine tickStep_announce ⟨⟨rfl, ?_⟩, hfound.1, hfound.2.1.symm, ?_,
          .inl hclassification.symm⟩
        · rw [hitem]
          rfl
        · rw [toUtc_ok hstart]
          exact hfound.2.2

theorem tickStep_materializeItem {item : AgendaItem} {now windowEnd : Instant}
    (hread : ReadFrom base item) :
    Effect.Within (TickStep runtime.engine base) (materializeItem runtime now windowEnd item) := by
  unfold materializeItem
  split_ifs
  · exact Effect.Within.pure TickStep.refl 0
  · refine Effect.Within.reads_bind fun leadMinutes => Effect.Within.reads_bind fun targetRef => ?_
    split_ifs
    · exact Effect.Within.pure TickStep.refl 0
    · refine tickStep_query (fun s hagrees => hagrees.occurrences item.ownerUserId _ _)
        fun found hfound => ?_
      refine Effect.Within.countEach TickStep.refl TickStep.trans fun occurrence hmem => ?_
      obtain ⟨hin, hitem⟩ := List.mem_filter.mp hmem
      have hitem' : occurrence.agendaItemId = item.id := by simpa using hitem
      obtain ⟨row, hrow⟩ := mem_occurrences hfound hin
      obtain ⟨row', hrow', -, hclassification⟩ := hread
      -- the occurrence is one of the item
      have hsame : row = row' := by
        have hfind := hrow.1
        rw [hitem', hrow'] at hfind
        exact (Option.some.inj hfind).symm
      rw [← hsame] at hclassification
      exact Effect.Within.countEach TickStep.refl TickStep.trans fun minutes _ =>
        tickStep_materializeLead hclassification hrow hitem'

/-- **What a tick of the leads announces.** -/
theorem announces_leadTick (runtime : Runtime) (now : Instant) (s : Ledger Database Announcement) :
    Announces runtime.engine s.store s ((leadTick runtime now).exec s).2 := by
  have hwithin : Effect.Within (TickStep runtime.engine s.store) (leadTick runtime now) := by
    unfold leadTick
    refine Effect.Within.check_bind TickStep.refl fun windowEnd => ?_
    refine tickStep_query
      (g := fun db => AgendaRepository.listScheduled runtime.engine now windowEnd db)
      (fun s hagrees => ?_) fun items hitems => ?_
    · obtain ⟨reminders, auditEvents, hstore⟩ := hagrees
      rw [hstore]
      rfl
    · refine Effect.Within.countEach TickStep.refl TickStep.trans fun item hmem => ?_
      obtain ⟨row, hrow, hread⟩ := (mem_collect hitems).mp hmem
      refine tickStep_materializeItem ?_
      cases hfrom : AgendaRepository.fromRow runtime.engine s.store row with
      | error e => rw [hfrom] at hread; cases hread
      | ok item' =>
        rw [hfrom] at hread
        obtain rfl := Option.some.inj (Except.ok.inj hread)
        obtain ⟨hid, howner, -, -⟩ := AgendaRepository.fromRow_ok hfrom
        refine ⟨row, ?_, howner.symm, AgendaRepository.fromRow_classification hfrom⟩
        rw [hid]
        exact Table.find?_of_mem (Table.mem_select.mp hrow).1
  exact hwithin s (Agrees.refl s.store)

end Ticks

end Zhixu
