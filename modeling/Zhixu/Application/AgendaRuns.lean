import Zhixu.Application.AgendaSteps
import Zhixu.Framework.Machine

/-!
# Runs of the agenda

The services of the agenda and the three schedulers, as one machine on a ledger: a run is any sequence
of calls and ticks, by anybody and at any times. Two things ought to hold in every state of every run.
No pending reminder announces an occurrence that its item does not have (`NoStale`), and whatever has
been derived from an item is as protected as the item (`Protected`).

Both are of one form. `Anchored P` says that every pending reminder that has been announced belongs to
an item of its owner, and that `P` holds of the two. What keeps the items and the reminders (`Keeps`)
keeps it but for the item touched (`Anchored.keeps`), and a tick establishes it for what it announces
(`Anchored.announces`).

What remains is the item touched. A creation takes a free id, and a deletion leaves no pending reminder
behind. An update or an exception writes a new schedule without a look at the reminders, so `NoStale`
depends on the new schedule having what has been announced (`KeepsAnnounced`). In the same way an
update of an item or of a rule writes a classification without a look at the others, and `Protected`
depends on the order being respected (`KeepsProtected`).
-/

open Framework

namespace Zhixu

/-! ### The machine -/

/-- A call of a service of the agenda. -/
inductive AgendaCall
  | createAgenda (newId : String) (command : CreateAgenda)
  | updateAgenda (command : UpdateAgenda)
  | deleteAgenda (itemId : String)
  | setAgendaException (command : SetAgendaException)
  | createAgendaNotification (newId : String) (command : CreateAgendaNotification)
  | updateAgendaNotification (command : UpdateAgendaNotification)
  | deleteAgendaNotification (ruleId : String)
  | setNotificationLeads (command : SetNotificationLeads)

/-- What may happen next: somebody calls a service, or a scheduler ticks. -/
inductive AgendaEvent
  | call (call : AgendaCall) (now : Instant) (context : CommandContext)
  | notificationTick (now : Instant)
  | leadTick (now : Instant)
  | reminderTick (lateGraceSeconds : Int) (now : Instant)

/-- The answer of code, and where it leaves the store, but for the value it returns. -/
def settled {σ α : Type} (out : Except PyError α × σ) : Except PyError Unit × σ :=
  (out.1.map fun _ => ⟨⟩, out.2)

theorem settled_ok {σ α : Type} {out : Except PyError α × σ} {a : α} (h : out.1 = .ok a) :
    (settled out).1 = .ok ⟨⟩ := by
  unfold settled
  rw [h]
  rfl

/-- A service, on the database. -/
def AgendaCall.exec (engine : RecurrenceEngine) (now : Instant) (context : CommandContext)
    (db : Database) : AgendaCall → Except PyError Unit × Database
  | .createAgenda newId command =>
    settled ((Zhixu.createAgenda engine newId command now context).exec db)
  | .updateAgenda command => settled (((Zhixu.updateAgenda engine command).run now context).exec db)
  | .deleteAgenda itemId =>
    settled ((Zhixu.deleteAgenda engine itemId now context).effect.exec db)
  | .setAgendaException command =>
    settled ((Zhixu.setAgendaException engine command now context).exec db)
  | .createAgendaNotification newId command =>
    settled ((Zhixu.createAgendaNotification engine newId command now context).exec db)
  | .updateAgendaNotification command =>
    settled (((Zhixu.updateAgendaNotification engine.zones command).run now context).exec db)
  | .deleteAgendaNotification ruleId =>
    settled ((Zhixu.deleteAgendaNotification engine.zones ruleId now context).exec db)
  | .setNotificationLeads command =>
    settled ((Zhixu.setNotificationLeads engine command now context).exec db)

/-- The agenda, its services and its schedulers. -/
def agendaMachine (runtime : Runtime) :
    Machine (Ledger Database Announcement) AgendaEvent (Except PyError Unit) where
  exec s
    | .call call now context =>
      let out := call.exec runtime.engine now context s.store
      (out.1, ⟨out.2, s.notes⟩)
    | .notificationTick now => settled ((Zhixu.notificationTick runtime now).exec s)
    | .leadTick now => settled ((Zhixu.leadTick runtime now).exec s)
    | .reminderTick lateGraceSeconds now =>
      settled ((Zhixu.reminderTick runtime lateGraceSeconds now).exec s)

/-! ### Announced reminders and their items -/

/-- A reminder belongs to an item of its owner, and they are in a relation. -/
structure Anchor (P : AgendaSchedule → AgendaRow → Announcement → Reminder → Prop) (db : Database)
    (a : Announcement) (r : Reminder) (row : AgendaRow) : Prop where
  related : r.relatedKind = some "agenda" ∧ r.relatedId = some a.agendaItemId
  item : db.agendaItems.find? a.agendaItemId = some row
  owner : r.ownerUserId = row.ownerUserId
  holds : P (AgendaSchedule.stored db row) row a r

/-- Every announced reminder is there, and where it is pending it belongs to an item. -/
structure Anchored (P : AgendaSchedule → AgendaRow → Announcement → Reminder → Prop)
    (s : Ledger Database Announcement) : Prop where
  noted : ∀ a ∈ s.notes, ∃ r, s.store.reminders.find? a.reminderId = some r
  pending : ∀ a ∈ s.notes, ∀ r, s.store.reminders.find? a.reminderId = some r →
    r.status = .pending → ∃ row, Anchor P s.store a r row

section Invariants

variable {P : AgendaSchedule → AgendaRow → Announcement → Reminder → Prop}
  {engine : RecurrenceEngine} {s s' : Ledger Database Announcement} {db' : Database}

theorem Anchored.initial (db : Database) : Anchored P ⟨db, []⟩ :=
  ⟨fun _ ha => absurd ha List.not_mem_nil, fun _ ha => absurd ha List.not_mem_nil⟩

/-- **What keeps items and reminders** keeps the anchors, but for the items touched. -/
theorem Anchored.keeps (h : Anchored P s) (touched : String → Prop)
    (hkeeps : Keeps touched s.store db')
    (htouched : ∀ a ∈ s.notes, touched a.agendaItemId → ∀ r row,
      db'.reminders.find? a.reminderId = some r → r.status = .pending → Anchor P s.store a r row →
        ∃ row', Anchor P db' a r row') : Anchored P ⟨db', s.notes⟩ := by
  refine ⟨fun a ha => ?_, fun a ha r hr hpending => ?_⟩
  · obtain ⟨r, hr⟩ := h.noted a ha
    exact hkeeps.present _ r hr
  · have hbefore := hkeeps.pending _ r hr hpending
    obtain ⟨row, hanchor⟩ := h.pending a ha r hbefore hpending
    by_cases hitem : touched a.agendaItemId
    · exact htouched a ha hitem r row hr hpending hanchor
    · have hkey : row.id = a.agendaItemId := Table.key_of_find? hanchor.item
      refine ⟨row, hanchor.related, (hkeeps.items _ hitem).trans hanchor.item, hanchor.owner, ?_⟩
      rw [hkeeps.schedules row (hkey ▸ hitem)]
      exact hanchor.holds

/-- **A tick anchors what it announces.** -/
theorem Anchored.announces (h : Anchored P s) (hannounces : Announces engine s.store s s')
    (hapt : ∀ a r row, Apt engine s.store a r row → P (AgendaSchedule.stored s.store row) row a r) :
    Anchored P s' := by
  obtain ⟨new, hnotes, hnew⟩ := hannounces.noted
  obtain ⟨reminders, auditEvents, hstore⟩ := hannounces.rest
  refine ⟨fun a ha => ?_, fun a ha r hr hpending => ?_⟩
  · rw [hnotes] at ha
    rcases List.mem_append.mp ha with hold | hlate
    · obtain ⟨r, hr⟩ := h.noted a hold
      exact ⟨r, hannounces.kept _ r hr⟩
    · obtain ⟨r, -, hr, -⟩ := hnew a hlate
      exact ⟨r, hr⟩
  · rw [hnotes] at ha
    rcases List.mem_append.mp ha with hold | hlate
    · -- an old reminder is as it was
      obtain ⟨r', hr'⟩ := h.noted a hold
      obtain rfl := Option.some.inj ((hannounces.kept _ r' hr').symm.trans hr)
      obtain ⟨row, hanchor⟩ := h.pending a hold r' hr' hpending
      refine ⟨row, hanchor.related, ?_, hanchor.owner, ?_⟩
      · rw [hstore]
        exact hanchor.item
      · rw [hstore]
        exact hanchor.holds
    · obtain ⟨r', row, hr', hapt'⟩ := hnew a hlate
      obtain rfl := Option.some.inj (hr'.symm.trans hr)
      refine ⟨row, hapt'.related, ?_, hapt'.owner, ?_⟩
      · rw [hstore]
        exact hapt'.item
      · rw [hstore]
        exact hapt a r' row hapt'

/-- A creation takes a free id, which no anchored reminder refers to. -/
theorem Anchored.created {newId : String} (h : Anchored P s) (hcreated : Created newId s.store db') :
    Anchored P ⟨db', s.notes⟩ := by
  refine h.keeps _ hcreated.keeps fun a _ hitem r row _ _ hanchor => ?_
  have hfound := hanchor.item
  rw [hitem, hcreated.free] at hfound
  cases hfound

/-- A deletion leaves no pending reminder of its item behind. -/
theorem Anchored.deleted {itemId : String} {row : AgendaRow} (h : Anchored P s)
    (hdeleted : Deleted itemId row s.store db') : Anchored P ⟨db', s.notes⟩ := by
  refine h.keeps _ hdeleted.keeps fun a _ hitem r row' hr hpending hanchor => ?_
  have hfound := hanchor.item
  rw [hitem, hdeleted.found] at hfound
  obtain rfl := Option.some.inj hfound
  refine absurd hanchor.owner (hdeleted.settled r (Table.mem_of_find? hr) ?_)
  unfold Reminder.isPendingFor
  simp [hanchor.related, hitem, hpending]

/-- An update leaves the reminders of its item as they are, and gives the item another schedule. -/
theorem Anchored.revised {zones : TimeZones} {command : UpdateAgenda} {row : AgendaRow}
    (h : Anchored P s) (hrevised : Revised zones command row s.store db')
    (hholds : ∀ a ∈ s.notes, a.agendaItemId = command.itemId → ∀ r,
      s.store.reminders.find? a.reminderId = some r → r.status = .pending →
        ∀ row', row'.classification = command.classification →
          P (command.schedule zones (AgendaSchedule.stored s.store row).exceptions) row' a r) :
    Anchored P ⟨db', s.notes⟩ := by
  refine h.keeps _ hrevised.keeps fun a ha hitem r row' hr hpending hanchor => ?_
  obtain ⟨written, hwritten, howner, hclassification, hschedule⟩ := hrevised.written
  have hfound := hanchor.item
  rw [hitem, hrevised.found] at hfound
  obtain rfl := Option.some.inj hfound
  refine ⟨written, hanchor.related, ?_, hanchor.owner.trans howner.symm, ?_⟩
  · rw [hitem]
    exact hwritten
  · rw [hschedule]
    exact hholds a ha hitem r (hrevised.keeps.pending _ r hr hpending) hpending written
      hclassification

/-- An exception leaves the item as it is, with one more exception in its schedule. -/
theorem Anchored.excepted {zones : TimeZones} {command : SetAgendaException} (h : Anchored P s)
    (hexcepted : Excepted zones command s.store db')
    (hholds : ∀ exception, command.row zones = some exception → ∀ a ∈ s.notes,
      a.agendaItemId = command.itemId → ∀ r, s.store.reminders.find? a.reminderId = some r →
        r.status = .pending → ∀ row, s.store.agendaItems.find? command.itemId = some row →
          P (AgendaSchedule.stored s.store row) row a r →
          P { AgendaSchedule.stored s.store row with exceptions := exception.written s.store } row
            a r) : Anchored P ⟨db', s.notes⟩ := by
  refine h.keeps _ hexcepted.keeps fun a ha hitem r row hr hpending hanchor => ?_
  obtain ⟨exception, hexception, hwritten⟩ := hexcepted.written
  have hfound : s.store.agendaItems.find? command.itemId = some row := hitem ▸ hanchor.item
  refine ⟨row, hanchor.related, ?_, hanchor.owner, ?_⟩
  · rw [hexcepted.items]
    exact hanchor.item
  · rw [hwritten row hfound]
    exact hholds exception hexception a ha hitem r (hexcepted.keeps.pending _ r hr hpending)
      hpending row hfound hanchor.holds

theorem Anchored.cancelling (h : Anchored P s) (hcancelling : Cancelling s.store db') :
    Anchored P ⟨db', s.notes⟩ :=
  h.keeps (fun _ => False)
    (hcancelling.same.keeps hcancelling.present hcancelling.pending) fun _ _ hfalse => hfalse.elim

theorem Anchored.quiet (h : Anchored P s) (hquiet : Quiet s.store db') : Anchored P ⟨db', s.notes⟩ :=
  h.keeps (fun _ => False) hquiet.keeps fun _ _ hfalse => hfalse.elim

/-- A tick of the reminder scheduler fires, and notes nothing. -/
theorem fires_reminderTick (runtime : Runtime) (lateGraceSeconds : Int) (now : Instant)
    (s : Ledger Database Announcement) :
    Fires s.store ((reminderTick runtime lateGraceSeconds now).exec s).2.store := by
  unfold Zhixu.reminderTick
  rw [Effect.exec_silently, Effect.exec_atomically]
  cases hrun : (ReminderRepository.enqueueDue runtime.platform now lateGraceSeconds).run s.store with
  | error e => exact Fires.refl _
  | ok out => exact ReminderRepository.fires_enqueueDue hrun

theorem Anchored.reminderTick (runtime : Runtime) (lateGraceSeconds : Int) (now : Instant)
    (h : Anchored P s) : Anchored P ((reminderTick runtime lateGraceSeconds now).exec s).2 := by
  have hfires := fires_reminderTick runtime lateGraceSeconds now s
  unfold Zhixu.reminderTick at hfires ⊢
  rw [Effect.exec_silently] at hfires ⊢
  exact h.keeps (fun _ => False) hfires.keeps fun _ _ hfalse => hfalse.elim

end Invariants

/-! ### No stale reminder -/

/-- No pending reminder announces an occurrence that its item does not have. -/
def NoStale (engine : RecurrenceEngine) (s : Ledger Database Announcement) : Prop :=
  ∀ a ∈ s.notes, ∀ r, s.store.reminders.find? a.reminderId = some r → r.status = .pending →
    ∃ row, s.store.agendaItems.find? a.agendaItemId = some row ∧
      (AgendaSchedule.stored s.store row).Has engine a.startAt

/-- The schedule still has what the pending reminders of the item announce. -/
def HasAnnounced (engine : RecurrenceEngine) (s : Ledger Database Announcement) (itemId : String)
    (schedule : AgendaRow → AgendaSchedule) : Prop :=
  ∀ a ∈ s.notes, a.agendaItemId = itemId → ∀ r, s.store.reminders.find? a.reminderId = some r →
    r.status = .pending → ∀ row, s.store.agendaItems.find? itemId = some row →
      (schedule row).Has engine a.startAt

/-- An update or an exception that goes through writes a schedule that still has what the pending
reminders of the item announce. -/
def KeepsAnnounced (runtime : Runtime) (s : Ledger Database Announcement) (event : AgendaEvent) :
    Prop :=
  ((agendaMachine runtime).exec s event).1 = .ok ⟨⟩ →
    match event with
    | .call (.updateAgenda command) _ _ => HasAnnounced runtime.engine s command.itemId fun row =>
      command.schedule runtime.zones (AgendaSchedule.stored s.store row).exceptions
    | .call (.setAgendaException command) _ _ =>
      ∀ exception, command.row runtime.zones = some exception →
        HasAnnounced runtime.engine s command.itemId fun row =>
          { AgendaSchedule.stored s.store row with exceptions := exception.written s.store }
    | _ => True

/-- The schedule of the item has what is announced. -/
def Occurs (engine : RecurrenceEngine) (schedule : AgendaSchedule) (_ : AgendaRow)
    (a : Announcement) (_ : Reminder) : Prop :=
  schedule.Has engine a.startAt

section Stale

variable {runtime : Runtime} {s : Ledger Database Announcement}

/-- One step of a run. -/
theorem Anchored.occurs_step (h : Anchored (Occurs runtime.engine) s) {event : AgendaEvent}
    (hkeeps : KeepsAnnounced runtime s event) :
    Anchored (Occurs runtime.engine) ((agendaMachine runtime).exec s event).2 := by
  cases event with
  | notificationTick now =>
    exact h.announces (announces_notificationTick runtime now s) fun a r row hapt => hapt.occurs
  | leadTick now =>
    exact h.announces (announces_leadTick runtime now s) fun a r row hapt => hapt.occurs
  | reminderTick lateGraceSeconds now => exact h.reminderTick runtime lateGraceSeconds now
  | call call now context =>
    have hstays : ∀ db', db' = s.store → Anchored (Occurs runtime.engine) ⟨db', s.notes⟩ := by
      rintro _ rfl
      exact h
    cases call with
    | createAgenda newId command =>
      rcases createAgenda_within runtime.engine newId command now context s.store with hsame | hcreated
      · exact hstays _ hsame
      · exact h.created hcreated
    | updateAgenda command =>
      rcases updateAgenda_outcome runtime.engine command now context s.store with
        hsame | ⟨⟨record, hok⟩, row, hrevised⟩
      · exact hstays _ hsame
      · exact h.revised hrevised fun a ha hitem r hr hpending row' _ =>
          hkeeps (settled_ok hok) a ha hitem r hr hpending row hrevised.found
    | deleteAgenda itemId =>
      rcases deleteAgenda_within runtime.engine itemId now context s.store with
        hcancelling | ⟨row, hdeleted⟩
      · exact h.cancelling hcancelling
      · exact h.deleted hdeleted
    | setAgendaException command =>
      rcases setAgendaException_outcome runtime.engine command now context s.store with
        hsame | ⟨hok, hexcepted⟩
      · exact hstays _ hsame
      · exact h.excepted hexcepted fun exception hexception a ha hitem r hr hpending row hrow _ =>
          hkeeps (settled_ok hok) exception hexception a ha hitem r hr hpending row hrow
    | createAgendaNotification newId command =>
      exact h.quiet
        (createAgendaNotification_within runtime.engine newId command now context s.store).1
    | updateAgendaNotification command =>
      rcases updateAgendaNotification_outcome runtime.engine.zones command now context s.store with
        hsame | ⟨-, hquiet, -⟩
      · exact hstays _ hsame
      · exact h.quiet hquiet
    | deleteAgendaNotification ruleId =>
      exact h.quiet
        (deleteAgendaNotification_within runtime.engine.zones ruleId now context s.store).1
    | setNotificationLeads command =>
      exact h.quiet (setNotificationLeads_within runtime.engine command now context s.store).1

/-- **No stale reminder**, in every run whose updates and exceptions keep what has been announced. -/
theorem no_stale_of_keepsAnnounced {db : Database}
    {g : Stage (Ledger Database Announcement) AgendaEvent (Except PyError Unit)}
    (hrun : (agendaMachine runtime).Reaches (fun g event => KeepsAnnounced runtime g.state event)
      (Machine.start ⟨db, []⟩) g) : NoStale runtime.engine g.state := by
  have hanchored : Anchored (Occurs runtime.engine) g.state :=
    Machine.Reaches.invariant (I := fun g => Anchored (Occurs runtime.engine) g.state)
      (Anchored.initial db) hrun fun g event hkeeps h => h.occurs_step hkeeps
  intro a ha r hr hpending
  obtain ⟨row, hanchor⟩ := hanchored.pending a ha r hr hpending
  exact ⟨row, hanchor.item, hanchor.holds⟩

end Stale

/-! A dinner at three, announced half an hour before it, is moved to five. -/

def utcRuntime : Runtime := ⟨utcOnly, fun _ => "digest"⟩

/-- Alice has somewhere to send reminders to, and wants them half an hour before. -/
def alicePlans : Database where
  users := .single ⟨"alice", "Alice", true⟩
  dailyBriefings := ⟨[{
    id := "morning"
    ownerUserId := "alice"
    creatorUserId := "alice"
    targetRef := "chat"
    timeOfDay := ⟨0, false, by decide⟩
    timezone := "UTC" }], by simp⟩
  notificationLeadDefaults := ⟨[⟨"alice", [30], 0⟩], by simp⟩

/-- A full hour of the first of January 1970. -/
def atHour (hour : Int) : DateTime where
  wall := hour * 3600000000
  zone := .utc

def planDinner : CreateAgenda where
  title := "dinner"
  startAt := atHour 3
  endAt := atHour 4
  timezone := "UTC"

def moveDinner : UpdateAgenda where
  itemId := "dinner"
  expectedVersion := 1
  title := "dinner"
  startAt := atHour 5
  endAt := atHour 6
  timezone := "UTC"

/-- The dinner is planned, and a tick announces it. -/
def announced : List AgendaEvent :=
  [.call (.createAgenda "dinner" planDinner) 0 aliceByChat, .leadTick 0]

def dinnerAtThree : Announcement where
  reminderId := "reminder_digest"
  agendaItemId := "dinner"
  startAt := 10800000000

def dinnerReminder : Reminder where
  id := "reminder_digest"
  ownerUserId := "alice"
  title := "dinner"
  fireAt := 9000000000
  targetRef := "chat"
  creatorUserId := some "alice"
  relatedKind := some "agenda"
  relatedId := some "dinner"
  relatedStartAt := some 10800000000
  timezone := some "UTC"
  createdAt := some 0
  updatedAt := some 0

/-- What has been announced, and not moved, still occurs. -/
theorem no_stale_dinner :
    NoStale utcRuntime.engine ((agendaMachine utcRuntime).replay
        (Machine.start ⟨alicePlans, []⟩) announced).state ∧
      ((agendaMachine utcRuntime).replay (Machine.start ⟨alicePlans, []⟩) announced).state.notes =
        [dinnerAtThree] := by
  refine ⟨no_stale_of_keepsAnnounced (Machine.Reaches.of_follows ?_), by decide +kernel⟩
  exact ⟨fun _ => trivial, fun _ => trivial, trivial⟩

/-- A schedule without a rule and without exceptions has one occurrence. -/
theorem AgendaSchedule.has_single {engine : RecurrenceEngine} {schedule : AgendaSchedule}
    {t : Instant} (hrule : schedule.rule = none) (hexceptions : schedule.exceptions = [])
    (h : schedule.Has engine t) :
    ∃ start, DateTime.load engine.zones schedule.startAt schedule.timezone = .ok start ∧
      t = start.instant engine.zones := by
  obtain ⟨item, exceptions, windowStart, windowEnd, found, hdescribes, hfound, occurrence, hmem,
    rfl⟩ := h
  refine ⟨item.startAt, hdescribes.startAt, ?_⟩
  have hrecurrence := hdescribes.recurrence
  unfold AgendaSchedule.recurrence at hrecurrence
  rw [hrule] at hrecurrence
  have hnone : item.recurrence = none := (Except.ok.inj hrecurrence).symm
  have hread := hdescribes.exceptions
  rw [hexceptions] at hread
  obtain rfl := Except.ok.inj hread
  unfold occurrencesBetween at hfound
  obtain ⟨-, hfound⟩ := raiseIf_bind_ok.mp hfound
  obtain ⟨starts, hstarts, hfound⟩ := bind_eq_ok.mp hfound
  obtain ⟨start, hstart, heffective⟩ := (mem_collect hfound).mp hmem
  have hsame : start = item.startAt := by
    unfold candidateStarts at hstarts
    rw [hnone] at hstarts
    simp only at hstarts
    split_ifs at hstarts
    · obtain rfl := Except.ok.inj hstarts
      exact absurd hstart List.not_mem_nil
    · obtain rfl := Except.ok.inj hstarts
      exact List.mem_singleton.mp hstart
  unfold effective at heffective
  obtain ⟨endAt, -, heffective⟩ := bind_eq_ok.mp heffective
  split at heffective
  · cases heffective
  · obtain rfl := Option.some.inj (Except.ok.inj heffective)
    rw [← hsame]

/-- Then it is moved. -/
def moved : List AgendaEvent :=
  [.call (.createAgenda "dinner" planDinner) 0 aliceByChat, .leadTick 0,
    .call (.updateAgenda moveDinner) 0 aliceByChat]

def movedDinner : AgendaRow where
  id := "dinner"
  ownerUserId := "alice"
  creatorUserId := some "alice"
  title := "dinner"
  description := ""
  actionLinks := []
  startAt := 18000000000
  endAt := 21600000000
  timezone := "UTC"
  allDay := false
  classification := .personal
  version := 2
  createdAt := 0
  updatedAt := 0

/-- **A moved dinner is announced at its old time.** -/
theorem stale_dinner :
    ¬ ∀ runtime db (g : Stage (Ledger Database Announcement) AgendaEvent (Except PyError Unit)),
      (agendaMachine runtime).Reaches (fun _ _ => True) (Machine.start ⟨db, []⟩) g →
        NoStale runtime.engine g.state := by
  intro hall
  obtain ⟨g, hg⟩ : ∃ g, g = (agendaMachine utcRuntime).replay (Machine.start ⟨alicePlans, []⟩)
      moved := ⟨_, rfl⟩
  have hreaches : (agendaMachine utcRuntime).Reaches (fun _ _ => True)
      (Machine.start ⟨alicePlans, []⟩) g := by
    rw [hg]
    exact Machine.Reaches.of_follows ⟨trivial, trivial, trivial, trivial⟩
  have hnotes : g.state.notes = [dinnerAtThree] := by
    rw [hg]
    decide +kernel
  have hrows : g.state.store.reminders.rows = [dinnerReminder] := by
    rw [hg]
    decide +kernel
  have hr : g.state.store.reminders.find? "reminder_digest" = some dinnerReminder :=
    Table.find?_of_mem (hrows ▸ List.mem_singleton.mpr rfl)
  have hdinner : g.state.store.agendaItems.find? "dinner" = some movedDinner := by
    rw [hg]
    decide +kernel
  have hrule : (AgendaSchedule.stored g.state.store movedDinner).rule = none := by
    rw [hg]
    decide +kernel
  have hexceptions : (AgendaSchedule.stored g.state.store movedDinner).exceptions = [] := by
    refine List.length_eq_zero_iff.mp ?_
    rw [hg]
    decide +kernel
  obtain ⟨row, hrow, hhas⟩ := hall utcRuntime alicePlans g hreaches dinnerAtThree
    (hnotes ▸ List.mem_singleton.mpr rfl) dinnerReminder hr rfl
  obtain rfl := Option.some.inj (hrow.symm.trans hdinner)
  -- its only occurrence starts at five
  obtain ⟨start, hstart, heq⟩ := AgendaSchedule.has_single hrule hexceptions hhas
  have hfive : DateTime.load utcOnly.zones 18000000000 "UTC" =
      .ok { wall := 18000000000, zone := .named "UTC" } := by rfl
  obtain rfl := Except.ok.inj (hfive.symm.trans hstart)
  revert heq
  decide

/-! ### Derived notifications and their source -/

/-- What has been derived from an item is as protected as the item. -/
structure Protected (s : Ledger Database Announcement) : Prop where
  rules : ∀ rule ∈ s.store.agendaNotificationRules.rows, ∀ row,
    s.store.agendaItems.find? rule.agendaItemId = some row → row.classification ≤ rule.classification
  reminders : ∀ a ∈ s.notes, ∀ r, s.store.reminders.find? a.reminderId = some r →
    r.status = .pending → ∀ row, s.store.agendaItems.find? a.agendaItemId = some row →
      row.classification ≤ r.classification

/-- Every rule is one of an item, and as protected as the item. -/
def RulesProtected (db : Database) : Prop :=
  ∀ rule ∈ db.agendaNotificationRules.rows, ∃ row,
    db.agendaItems.find? rule.agendaItemId = some row ∧ row.classification ≤ rule.classification

/-- An update of an item that goes through does not take the item above its rules and its announced
reminders, and an update of a rule does not take the rule below its item. -/
def KeepsProtected (runtime : Runtime) (s : Ledger Database Announcement) (event : AgendaEvent) :
    Prop :=
  ((agendaMachine runtime).exec s event).1 = .ok ⟨⟩ →
    match event with
    | .call (.updateAgenda command) _ _ =>
      (∀ rule ∈ s.store.agendaNotificationRules.rows, rule.agendaItemId = command.itemId →
        command.classification ≤ rule.classification) ∧
      ∀ a ∈ s.notes, a.agendaItemId = command.itemId → ∀ r,
        s.store.reminders.find? a.reminderId = some r → r.status = .pending →
          command.classification ≤ r.classification
    | .call (.updateAgendaNotification command) _ _ => ∀ stored,
      s.store.agendaNotificationRules.find? command.ruleId = some stored → ∀ row,
        s.store.agendaItems.find? stored.agendaItemId = some row →
          row.classification ≤ command.classification.getD stored.classification
    | _ => True

/-- The reminder is as protected as the item. -/
def AsProtected (_ : AgendaSchedule) (row : AgendaRow) (_ : Announcement) (r : Reminder) : Prop :=
  row.classification ≤ r.classification

section Derived

variable {runtime : Runtime} {s : Ledger Database Announcement} {db db' : Database}

/-- Rules that are among those there were, of items that stay. -/
theorem RulesProtected.keeps (h : RulesProtected db) (touched : String → Prop)
    (hkeeps : Keeps touched db db')
    (hrules : ∀ rule ∈ db'.agendaNotificationRules.rows,
      rule ∈ db.agendaNotificationRules.rows ∧ ¬ touched rule.agendaItemId) : RulesProtected db' := by
  intro rule hrule
  obtain ⟨hmem, hitem⟩ := hrules rule hrule
  obtain ⟨row, hrow, hle⟩ := h rule hmem
  exact ⟨row, (hkeeps.items _ hitem).trans hrow, hle⟩

theorem RulesProtected.created {newId : String} (h : RulesProtected db)
    (hcreated : Created newId db db') : RulesProtected db' := by
  refine h.keeps _ hcreated.keeps fun rule hrule => ?_
  rw [hcreated.rules] at hrule
  refine ⟨hrule, fun hitem => ?_⟩
  obtain ⟨row, hrow, -⟩ := h rule hrule
  rw [hitem, hcreated.free] at hrow
  cases hrow

theorem RulesProtected.revised {zones : TimeZones} {command : UpdateAgenda} {row : AgendaRow}
    (h : RulesProtected db) (hrevised : Revised zones command row db db')
    (hle : ∀ rule ∈ db.agendaNotificationRules.rows, rule.agendaItemId = command.itemId →
      command.classification ≤ rule.classification) : RulesProtected db' := by
  intro rule hrule
  rw [hrevised.rules] at hrule
  by_cases hitem : rule.agendaItemId = command.itemId
  · obtain ⟨written, hwritten, -, hclassification, -⟩ := hrevised.written
    refine ⟨written, ?_, ?_⟩
    · rw [hitem]
      exact hwritten
    · rw [hclassification]
      exact hle rule hrule hitem
  · obtain ⟨row', hrow', hle'⟩ := h rule hrule
    exact ⟨row', (hrevised.keeps.items _ hitem).trans hrow', hle'⟩

/-- A tick reads and writes no rule and no item. -/
theorem RulesProtected.agrees (h : RulesProtected db) (hagrees : Agrees db db') :
    RulesProtected db' := by
  obtain ⟨reminders, auditEvents, rfl⟩ := hagrees
  exact h

theorem RulesProtected.fires (h : RulesProtected db) (hfires : Fires db db') :
    RulesProtected db' := by
  intro rule hrule
  rw [hfires.agendaNotificationRules] at hrule
  rw [hfires.agendaItems]
  exact h rule hrule

theorem RulesProtected.quiet {written : AgendaNotificationRule → Prop} (h : RulesProtected db)
    (hquiet : Quiet db db') (hrules : RulesFrom written db db')
    (hwritten : ∀ rule, written rule → ∃ row, db.agendaItems.find? rule.agendaItemId = some row ∧
      row.classification ≤ rule.classification) : RulesProtected db' := by
  intro rule hrule
  rw [hquiet.agendaItems]
  rcases hrules rule hrule with hold | hnew
  · exact h rule hold
  · exact hwritten rule hnew

/-- What a tick announces is as protected as the item, since the rules are. -/
theorem RulesProtected.apt {a : Announcement} {r : Reminder} {row : AgendaRow}
    (h : RulesProtected db) (hapt : Apt runtime.engine db a r row) :
    row.classification ≤ r.classification := by
  rcases hapt.source with hitem | ⟨rule, hrule, hid, hclassification⟩
  · rw [hitem]
    exact Nat.le_refl _
  · obtain ⟨row', hrow', hle⟩ := h rule hrule
    rw [hid, hapt.item] at hrow'
    obtain rfl := Option.some.inj hrow'
    rw [hclassification]
    exact hle

/-- One step of a run. -/
theorem Anchored.asProtected_step (h : Anchored AsProtected s) (hrules : RulesProtected s.store)
    {event : AgendaEvent} (hkeeps : KeepsProtected runtime s event) :
    Anchored AsProtected ((agendaMachine runtime).exec s event).2 ∧
      RulesProtected ((agendaMachine runtime).exec s event).2.store := by
  cases event with
  | notificationTick now =>
    have htick := announces_notificationTick runtime now s
    exact ⟨h.announces htick fun a r row hapt => hrules.apt hapt, hrules.agrees htick.rest⟩
  | leadTick now =>
    have htick := announces_leadTick runtime now s
    exact ⟨h.announces htick fun a r row hapt => hrules.apt hapt, hrules.agrees htick.rest⟩
  | reminderTick lateGraceSeconds now =>
    exact ⟨h.reminderTick runtime lateGraceSeconds now, hrules.fires (fires_reminderTick _ _ _ s)⟩
  | call call now context =>
    have hstays : ∀ db', db' = s.store → Anchored AsProtected ⟨db', s.notes⟩ ∧ RulesProtected db' := by
      rintro _ rfl
      exact ⟨h, hrules⟩
    cases call with
    | createAgenda newId command =>
      rcases createAgenda_within runtime.engine newId command now context s.store with hsame | hcreated
      · exact hstays _ hsame
      · exact ⟨h.created hcreated, hrules.created hcreated⟩
    | updateAgenda command =>
      rcases updateAgenda_outcome runtime.engine command now context s.store with
        hsame | ⟨⟨record, hok⟩, row, hrevised⟩
      · exact hstays _ hsame
      · obtain ⟨hbelowRules, hbelowReminders⟩ := hkeeps (settled_ok hok)
        refine ⟨h.revised hrevised fun a ha hitem r hr hpending row' hclassification => ?_,
          hrules.revised hrevised hbelowRules⟩
        show row'.classification ≤ r.classification
        rw [hclassification]
        exact hbelowReminders a ha hitem r hr hpending
    | deleteAgenda itemId =>
      rcases deleteAgenda_within runtime.engine itemId now context s.store with
        hcancelling | ⟨row, hdeleted⟩
      · refine ⟨h.cancelling hcancelling, hrules.keeps (fun _ => False)
          (hcancelling.same.keeps hcancelling.present hcancelling.pending) fun rule hrule => ?_⟩
        have hsame := hcancelling.same.agendaNotificationRules
        exact ⟨hsame ▸ hrule, id⟩
      · exact ⟨h.deleted hdeleted, hrules.keeps _ hdeleted.keeps hdeleted.rules⟩
    | setAgendaException command =>
      rcases setAgendaException_outcome runtime.engine command now context s.store with
        hsame | ⟨-, hexcepted⟩
      · exact hstays _ hsame
      · refine ⟨h.excepted hexcepted fun _ _ _ _ _ _ _ _ _ _ hle => hle, fun rule hrule => ?_⟩
        have hrule' : rule ∈ ((setAgendaException runtime.engine command now context).exec
            s.store).2.agendaNotificationRules.rows := hrule
        rw [hexcepted.rules] at hrule'
        obtain ⟨row, hrow, hle⟩ := hrules rule hrule'
        refine ⟨row, ?_, hle⟩
        have hitems := hexcepted.items
        rw [← hitems] at hrow
        exact hrow
    | createAgendaNotification newId command =>
      obtain ⟨hquiet, hfrom⟩ :=
        createAgendaNotification_within runtime.engine newId command now context s.store
      exact ⟨h.quiet hquiet, hrules.quiet hquiet hfrom fun rule hrule => hrule⟩
    | updateAgendaNotification command =>
      rcases updateAgendaNotification_outcome runtime.engine.zones command now context s.store with
        hsame | ⟨⟨record, hok⟩, hquiet, hfrom⟩
      · exact hstays _ hsame
      · refine ⟨h.quiet hquiet, hrules.quiet hquiet hfrom fun rule hrule => ?_⟩
        obtain ⟨stored, hstored, hitem, hclassification⟩ := hrule
        obtain ⟨row, hrow, -⟩ := hrules stored (Table.mem_of_find? hstored)
        refine ⟨row, ?_, ?_⟩
        · rw [hitem]
          exact hrow
        · rw [hclassification]
          exact hkeeps (settled_ok hok) stored hstored row hrow
    | deleteAgendaNotification ruleId =>
      obtain ⟨hquiet, hfrom⟩ :=
        deleteAgendaNotification_within runtime.engine.zones ruleId now context s.store
      exact ⟨h.quiet hquiet, hrules.quiet hquiet hfrom fun _ hfalse => hfalse.elim⟩
    | setNotificationLeads command =>
      obtain ⟨hquiet, hfrom⟩ := setNotificationLeads_within runtime.engine command now context s.store
      exact ⟨h.quiet hquiet, hrules.quiet hquiet hfrom fun _ hfalse => hfalse.elim⟩

/-- **Derived notifications are as protected as their source**, in every run whose updates respect the
order of the classifications. -/
theorem protected_of_keepsProtected
    {g : Stage (Ledger Database Announcement) AgendaEvent (Except PyError Unit)}
    (hdb : RulesProtected db)
    (hrun : (agendaMachine runtime).Reaches (fun g event => KeepsProtected runtime g.state event)
      (Machine.start ⟨db, []⟩) g) : Protected g.state := by
  obtain ⟨hanchored, hrules⟩ : Anchored AsProtected g.state ∧ RulesProtected g.state.store :=
    Machine.Reaches.invariant
      (I := fun g => Anchored AsProtected g.state ∧ RulesProtected g.state.store)
      ⟨Anchored.initial db, hdb⟩ hrun fun g event hkeeps h => h.1.asProtected_step h.2 hkeeps
  refine ⟨fun rule hrule row hrow => ?_, fun a ha r hr hpending row hrow => ?_⟩
  · obtain ⟨row', hrow', hle⟩ := hrules rule hrule
    obtain rfl := Option.some.inj (hrow'.symm.trans hrow)
    exact hle
  · obtain ⟨row', hanchor⟩ := hanchored.pending a ha r hr hpending
    obtain rfl := Option.some.inj (hanchor.item.symm.trans hrow)
    exact hanchor.holds

end Derived

/-! The dinner becomes confidential after it has been announced. -/

def aliceStepsUp : CommandContext := { aliceByChat with authentication := .stepUp }

def hideDinner : UpdateAgenda where
  itemId := "dinner"
  expectedVersion := 1
  title := "dinner"
  startAt := atHour 3
  endAt := atHour 4
  timezone := "UTC"
  classification := .confidential

/-- What has been announced, and not raised, is as protected as its item. -/
theorem protected_dinner :
    Protected ((agendaMachine utcRuntime).replay
        (Machine.start ⟨alicePlans, []⟩) announced).state ∧
      ((agendaMachine utcRuntime).replay (Machine.start ⟨alicePlans, []⟩) announced).state.notes =
        [dinnerAtThree] := by
  refine ⟨protected_of_keepsProtected (fun rule hrule => absurd hrule List.not_mem_nil)
    (Machine.Reaches.of_follows ?_), by decide +kernel⟩
  exact ⟨fun _ => trivial, fun _ => trivial, trivial⟩

/-- **A dinner that becomes confidential keeps its personal reminder.** -/
theorem exposed_dinner :
    ¬ ∀ runtime db (g : Stage (Ledger Database Announcement) AgendaEvent (Except PyError Unit)),
      RulesProtected db →
      (agendaMachine runtime).Reaches (fun _ _ => True) (Machine.start ⟨db, []⟩) g →
        Protected g.state := by
  intro hall
  obtain ⟨g, hg⟩ : ∃ g, g = (agendaMachine utcRuntime).replay (Machine.start ⟨alicePlans, []⟩)
      [.call (.createAgenda "dinner" planDinner) 0 aliceByChat, .leadTick 0,
        .call (.updateAgenda hideDinner) 0 aliceStepsUp] := ⟨_, rfl⟩
  have hreaches : (agendaMachine utcRuntime).Reaches (fun _ _ => True)
      (Machine.start ⟨alicePlans, []⟩) g := by
    rw [hg]
    exact Machine.Reaches.of_follows ⟨trivial, trivial, trivial, trivial⟩
  have hnotes : g.state.notes = [dinnerAtThree] := by
    rw [hg]
    decide +kernel
  have hrows : g.state.store.reminders.rows = [dinnerReminder] := by
    rw [hg]
    decide +kernel
  have hr : g.state.store.reminders.find? "reminder_digest" = some dinnerReminder :=
    Table.find?_of_mem (hrows ▸ List.mem_singleton.mpr rfl)
  have hitem : (g.state.store.agendaItems.find? "dinner").map AgendaRow.classification =
      some .confidential := by
    rw [hg]
    decide +kernel
  obtain ⟨row, hrow, hconfidential⟩ := Option.map_eq_some_iff.mp hitem
  have hle := (hall utcRuntime alicePlans g (fun rule hrule => absurd hrule List.not_mem_nil)
    hreaches).reminders dinnerAtThree (hnotes ▸ List.mem_singleton.mpr rfl) dinnerReminder hr rfl
      row hrow
  rw [hconfidential] at hle
  revert hle
  decide

end Zhixu
