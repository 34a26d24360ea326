import Zhixu.Application.AdvanceReminders
import Zhixu.Application.UpdatePolicy
import Zhixu.Framework.Crash

/-!
# Whole plans

A plan with several records is carried out record by record, after it has been accepted. `Whole` says
that everything a plan creates is there, `Untouched` that nothing of it is, and `AllOrNothing` that a
store is one or the other: all of it, with the plan accepted, or nothing, with the plan still open.

A confirmation that comes to its end with `created` has written the whole plan (`whole_of_created`).
But accepting the plan is a transaction of its own, and comes first: between it and the first record
the plan can no longer be confirmed, and nothing of it is there. So a confirmation is all or nothing
at every point at which it may stop exactly if there is nothing to be created.
-/

open Framework

namespace Zhixu

open ReminderRepository (stored)

/-! ### What a plan creates -/

/-- The row of a command for a reminder. -/
def CreateReminder.IsRow (zones : TimeZones) (context : CommandContext) (command : CreateReminder)
    (row : Reminder) : Prop :=
  ∃ authorization, row = stored (command.reminder zones row.id context) authorization

/-- The row of a command for an agenda item. -/
def CreateAgenda.IsRow (engine : RecurrenceEngine) (context : CommandContext)
    (command : CreateAgenda) (row : AgendaRow) : Prop :=
  ∃ recurrence startAt endAt authorization,
    recurrenceFrom engine command.recurrenceRule command.timezone = .ok recurrence ∧
      command.startAt.dump engine.zones = .ok startAt ∧
      command.endAt.dump engine.zones = .ok endAt ∧
      row = AgendaRepository.inserted (command.item row.id context recurrence) startAt endAt
        authorization

/-- The row of a command for a notification rule. -/
def CreateAgendaNotification.IsRow (context : CommandContext) (command : CreateAgendaNotification)
    (row : AgendaNotificationRule) : Prop :=
  ∃ item createdAt, row =
    { command.rule row.id context item with
      createdAt := some createdAt
      timeOfDay := command.timeOfDay.toMinutes }

namespace PlanRuntime

variable (runtime : PlanRuntime)

/-- The reminder of a plan and those that announce it have been added. -/
def RemindersAdded (arguments : ReminderArguments) (fireAt : DateTime) (links : List ActionLink)
    (targetRef : String) (context : CommandContext) (now : Instant) (db db' : Database) : Prop :=
  ∃ main rest leads,
    db'.reminders.rows = db.reminders.rows ++ main :: rest ∧
      (mainCommand arguments fireAt links targetRef).IsRow runtime.zones context main ∧
      runtime.reminderLeads arguments fireAt now context db = .ok leads ∧
      List.Forall₂ (fun moment row =>
        (advanceCommand arguments fireAt links targetRef main.id moment).IsRow runtime.zones context
          row) leads rest

/-- The item of a plan and its notification rules have been added. -/
def ItemAdded (arguments : AgendaArguments) (startAt endAt : DateTime)
    (notifications : List NotificationProposal) (links : List ActionLink) (targetRef : String)
    (context : CommandContext) (db db' : Database) : Prop :=
  ∃ item rules,
    db'.agendaItems.rows = db.agendaItems.rows ++ [item] ∧
      (runtime.itemCommand arguments startAt endAt links).IsRow runtime.engine context item ∧
      db'.agendaNotificationRules.rows = db.agendaNotificationRules.rows ++ rules ∧
      List.Forall₂ (fun notification row =>
        (runtime.ruleCommand links targetRef item.id notification).IsRow context row)
        notifications rules

/-- **Everything a plan creates is there.** -/
def Whole (planId targetRef : String) (context : CommandContext) (now : Instant) (db db' : Database) :
    PlanArguments → Prop
  | .createReminder arguments => ∀ fireAt ∈ arguments.fireAt, ∀ links ∈ arguments.links,
      runtime.RemindersAdded arguments fireAt links targetRef context now db db'
  | .createAgenda arguments => ∀ startAt ∈ arguments.startAt, ∀ endAt ∈ arguments.endAt,
      ∀ notifications ∈ arguments.notifications, ∀ links ∈ arguments.links,
        runtime.ItemAdded arguments startAt endAt notifications links targetRef context db db'
  | .other perform => db' = perform.act (accepting planId db)
  | _ => True

/-- **A plan creates something**: its arguments are complete. -/
def Creates (planId targetRef : String) (db : Database) : PlanArguments → Prop
  | .createReminder arguments =>
    arguments.fireAt.isSome = true ∧ arguments.links.isSome = true ∧ strip arguments.title ≠ ""
  | .createAgenda arguments =>
    arguments.startAt.isSome = true ∧ arguments.endAt.isSome = true ∧ arguments.links.isSome = true ∧
      strip arguments.title ≠ "" ∧ strip arguments.recurrenceRule ≠ "" ∧
      ∃ notifications, arguments.notifications = some notifications ∧
        (notifications ≠ [] → targetRef ≠ "")
  | .other perform => perform.act (accepting planId db) ≠ accepting planId db
  | _ => False

/-- Nothing of a plan has been written. -/
structure Untouched (db db' : Database) : Prop where
  reminders : db'.reminders.rows = db.reminders.rows
  items : db'.agendaItems.rows = db.agendaItems.rows
  rules : db'.agendaNotificationRules.rows = db.agendaNotificationRules.rows

/-- What a confirmation finds: a plan that is open and can be read. -/
structure Found (planId targetRef : String) (context : CommandContext) (now : Instant)
    (db : Database) (plan : PendingPlan) (arguments : PlanArguments) : Prop where
  target : targetRef ≠ ""
  stored : PendingPlanStore.get planId context.actorUserId targetRef now db = .ok (some plan)
  decoded : runtime.decode plan.action plan.payloadJson = some arguments

/-- The plan has been accepted. -/
def Accepted (planId : String) (db : Database) : Prop :=
  ∃ plan, db.assistantPendingPlans.find? planId = some plan ∧ plan.state = .accepted

/-- **All or nothing.** A store, with respect to the one a confirmation has started in: of a plan that
creates something, everything is there and it is accepted, or nothing is there and it can still be
confirmed. -/
def AllOrNothing (planId targetRef : String) (context : CommandContext) (now : Instant)
    (draws : ℕ → Draw) (db db' : Database) : Prop :=
  ∀ plan arguments, runtime.Found planId targetRef context now db plan arguments →
    Creates planId targetRef db arguments →
      (Accepted planId db' ∧ runtime.Whole planId targetRef { context with confirmed := true }
        (draws 0).now db db' arguments) ∨
      Untouched db db' ∧ runtime.Found planId targetRef context now db' plan arguments

/-! ### Between acceptance and the first record -/

variable {runtime} {planId targetRef : String} {context : CommandContext} {now : Instant}
  {draws : ℕ → Draw} {db : Database} {plan : PendingPlan} {arguments : PlanArguments}

/-- The second operation of a confirmation accepts the plan. -/
theorem stoppedAt_two (draws : ℕ → Draw)
    (h : runtime.Found planId targetRef context now db plan arguments) :
    Process.stoppedAt 2 (runtime.confirmPlan planId targetRef context now draws) db =
      accepting planId db := by
  unfold confirmPlan
  rw [if_neg h.target]
  unfold Process.query Process.atomically
  rw [Process.stoppedAt_once_bind, Effect.exec_query, h.stored]
  simp only
  rw [Process.stoppedAt_once_bind, Effect.exec_atomically, StateT.run, exec_consume h.stored]
  rfl

/-- A plan that has been accepted is not found again. -/
theorem not_found_accepting :
    ¬ runtime.Found planId targetRef context now (accepting planId db) plan arguments := by
  intro h
  obtain ⟨hid, hread⟩ := PendingPlanStore.get_ok h.stored
  obtain ⟨p, -, hp⟩ := List.mem_map.mp hread.stored
  by_cases hselected : (decide (p.id = planId) && p.isOpen) = true
  · rw [if_pos hselected] at hp
    rw [← hp] at hread
    exact absurd hread.isOpen Bool.false_ne_true
  · rw [if_neg hselected] at hp
    rw [hp] at hselected
    exact hselected (by simp [hid, hread.isOpen])

/-- Nothing that a plan creates is there when the plan has only been accepted. -/
theorem not_whole_accepting (hcreates : Creates planId targetRef db arguments) :
    ¬ runtime.Whole planId targetRef context now db (accepting planId db) arguments := by
  intro hwhole
  cases arguments with
  | createReminder arguments =>
    obtain ⟨hfire, hlinks, -⟩ := hcreates
    obtain ⟨fireAt, hfireAt⟩ := Option.isSome_iff_exists.mp hfire
    obtain ⟨links, hlinks⟩ := Option.isSome_iff_exists.mp hlinks
    obtain ⟨main, rest, leads, hrows, -⟩ := hwhole fireAt hfireAt links hlinks
    exact absurd (List.self_eq_append_right.mp hrows) (List.cons_ne_nil main rest)
  | createAgenda arguments =>
    obtain ⟨hstart, hend, hlinks, -, -, notifications, hnotifications, -⟩ := hcreates
    obtain ⟨startAt, hstartAt⟩ := Option.isSome_iff_exists.mp hstart
    obtain ⟨endAt, hendAt⟩ := Option.isSome_iff_exists.mp hend
    obtain ⟨links, hlinks⟩ := Option.isSome_iff_exists.mp hlinks
    obtain ⟨item, rules, hrows, -⟩ :=
      hwhole startAt hstartAt endAt hendAt notifications hnotifications links hlinks
    exact absurd (List.self_eq_append_right.mp hrows) (List.cons_ne_nil item [])
  | cancelReminder => exact hcreates
  | acknowledgeReminder => exact hcreates
  | snoozeReminder => exact hcreates
  | other perform => exact hcreates hwhole.symm

/-! ### A confirmation that comes to its end -/

/-- The tables that plans are carried out in, apart from the reminders. -/
structure OnlyReminders (db db' : Database) : Prop where
  plans : db'.assistantPendingPlans = db.assistantPendingPlans
  leads : db'.notificationLeadDefaults = db.notificationLeadDefaults

/-- A reminder that has been created is the row that has been added. -/
theorem reminder_added {newId : String} {command : CreateReminder} {row : Reminder} {db' : Database}
    (h : (createReminder runtime.zones newId command now context).exec db = (.ok row, db')) :
    db'.reminders.rows = db.reminders.rows ++ [row] ∧ command.IsRow runtime.zones context row ∧
      row.id = newId ∧ OnlyReminders db db' := by
  rcases createReminder_cases runtime.zones newId command now context db with
    ⟨e, hexec⟩ | ⟨authorization, db₁, hexec, hinserted⟩
  · rw [h] at hexec
    exact absurd (Prod.mk.inj hexec).1 (by simp)
  · rw [h] at hexec
    obtain ⟨hrow, rfl⟩ := Prod.mk.inj hexec
    obtain rfl := Except.ok.inj hrow
    obtain ⟨reminders, auditEvents, hinsert, rfl⟩ := hinserted.written
    exact ⟨Table.rows_insert hinsert, ⟨authorization, rfl⟩, rfl, rfl, rfl⟩

/-- A loop over leads that comes to its end. -/
theorem leads_added {command : DateTime → CreateReminder} {leads : List (DateTime × ℕ)}
    {u : PUnit} {db' : Database}
    (h : (Process.forEach leads (runtime.announceAhead draws context command)).effect.exec db =
      (.ok u, db')) :
    ∃ rest, db'.reminders.rows = db.reminders.rows ++ rest ∧ OnlyReminders db db' ∧
      List.Forall₂ (fun lead row => (command lead.1).IsRow runtime.zones context row) leads rest := by
  induction leads generalizing db with
  | nil =>
    obtain ⟨-, rfl⟩ := Prod.mk.inj h
    exact ⟨[], (List.append_nil _).symm, ⟨rfl, rfl⟩, .nil⟩
  | cons lead leads ih =>
    change (runtime.announceAhead draws context command lead >>= fun _ =>
      Process.forEach leads (runtime.announceAhead draws context command)).effect.exec db = _ at h
    rw [Process.effect_bind] at h
    obtain ⟨_, db₁, hfirst, hothers⟩ := Effect.exec_bind_ok.mp h
    unfold announceAhead at hfirst
    rw [Process.effect_bind] at hfirst
    obtain ⟨row, db₂, hcreate, hpure⟩ := Effect.exec_bind_ok.mp hfirst
    obtain ⟨-, rfl⟩ := Prod.mk.inj hpure
    obtain ⟨hrow, his, -, hplans, hleads⟩ := reminder_added hcreate
    obtain ⟨rest, hrest, ⟨hplans', hleads'⟩, hall⟩ := ih hothers
    refine ⟨row :: rest, ?_, ⟨hplans'.trans hplans, hleads'.trans hleads⟩, .cons his hall⟩
    rw [hrest, hrow, List.append_assoc, List.singleton_append]

/-- A confirmed plan goes on from its acceptance. -/
theorem exec_confirmPlan (h : runtime.Found planId targetRef context now db plan arguments) :
    (runtime.confirmPlan planId targetRef context now draws).effect.exec db =
      (runtime.execute draws targetRef { context with confirmed := true } arguments).effect.exec
        (accepting planId db) := by
  unfold confirmPlan
  rw [if_neg h.target]
  unfold Process.query Process.atomically
  rw [Process.effect_bind, Effect.exec_bind, Process.effect_once, Effect.exec_query, h.stored]
  simp only
  rw [Process.effect_bind, Effect.exec_bind, Process.effect_once, Effect.exec_atomically, StateT.run,
    exec_consume h.stored]
  simp only
  rw [if_neg (by decide), h.decoded]

/-- The plan is accepted. -/
theorem accepted_accepting (h : runtime.Found planId targetRef context now db plan arguments) :
    Accepted planId (accepting planId db) := by
  obtain ⟨hid, hread⟩ := PendingPlanStore.get_ok h.stored
  have hfound : db.assistantPendingPlans.find? planId = some plan :=
    Table.find?_eq_some.mpr ⟨hread.stored, hid⟩
  refine ⟨{ plan with state := .accepted }, ?_, rfl⟩
  have hrow := Table.find?_updateKeyWhere (q := PendingPlan.isOpen) hfound hread.isOpen
    (fun p => { p with state := .accepted }) (fun _ => rfl) planId
  exact hrow.trans (if_pos rfl)

theorem reminderLeads_congr {arguments : ReminderArguments} {fireAt : DateTime} {db' : Database}
    (h : db'.notificationLeadDefaults = db.notificationLeadDefaults) :
    runtime.reminderLeads arguments fireAt now context db' =
      runtime.reminderLeads arguments fireAt now context db := by
  unfold reminderLeads reminderLeadTimes NotificationLeadRepository.defaultFor
  rw [h]

/-- A reminder plan that has been carried out. -/
theorem remindersAdded_of_created {arguments : ReminderArguments} {fireAt : DateTime}
    {links : List ActionLink} {db' : Database} (hfire : arguments.fireAt = some fireAt)
    (hlinks : arguments.links = some links)
    (h : (runtime.executeReminder draws arguments targetRef context).effect.exec db =
      (.ok .created, db')) :
    runtime.RemindersAdded arguments fireAt links targetRef context (draws 0).now db db' ∧
      db'.assistantPendingPlans = db.assistantPendingPlans := by
  unfold executeReminder at h
  rw [hfire, hlinks] at h
  simp only at h
  by_cases hinvalid : strip arguments.title = "" ∨ targetRef = ""
  · rw [if_pos hinvalid] at h
    exact absurd (Prod.mk.inj h).1 (by simp)
  rw [if_neg hinvalid, Process.effect_bind] at h
  obtain ⟨main, db₁, hmain, h⟩ := Effect.exec_bind_ok.mp h
  rw [Process.effect_bind] at h
  obtain ⟨leads, db₂, hread, h⟩ := Effect.exec_bind_ok.mp h
  rw [Process.effect_bind] at h
  obtain ⟨_, db₃, hloop, hpure⟩ := Effect.exec_bind_ok.mp h
  obtain ⟨-, rfl⟩ := Prod.mk.inj hpure
  unfold Process.query at hread
  rw [Process.effect_once, Effect.exec_query] at hread
  obtain ⟨hleads, rfl⟩ := Prod.mk.inj hread
  obtain ⟨hrow, his, -, hplans, hdefaults⟩ := reminder_added hmain
  obtain ⟨rest, hrest, honly, hall⟩ := leads_added hloop
  refine ⟨⟨main, rest, leads, ?_, his, ?_, ?_⟩, honly.plans.trans hplans⟩
  · rw [hrest, hrow, List.append_assoc, List.singleton_append]
  · rw [← reminderLeads_congr hdefaults]
    exact hleads
  · have hfst : leads = leads.zipIdx.map Prod.fst := (List.zipIdx_map_fst 0 leads).symm
    rw [hfst]
    exact List.forall₂_map_left_iff.mpr hall

/-- An item that has been created. -/
theorem item_added {newId : String} {command : CreateAgenda} {item : AgendaItem} {db' : Database}
    (h : (createAgenda runtime.engine newId command now context).exec db = (.ok item, db')) :
    ∃ row, db'.agendaItems.rows = db.agendaItems.rows ++ [row] ∧
      command.IsRow runtime.engine context row ∧ row.id = item.id ∧
      db'.agendaNotificationRules = db.agendaNotificationRules ∧
      db'.assistantPendingPlans = db.assistantPendingPlans := by
  unfold createAgenda at h
  obtain ⟨recurrence, db₁, hcheck, h⟩ := Effect.exec_bind_ok.mp h
  obtain ⟨hrecurrence, rfl⟩ := Prod.mk.inj hcheck
  obtain ⟨_, db₁, hcheck, h⟩ := Effect.exec_bind_ok.mp h
  obtain ⟨-, rfl⟩ := Prod.mk.inj hcheck
  obtain ⟨ref, db₁, hcheck, h⟩ := Effect.exec_bind_ok.mp h
  obtain ⟨-, rfl⟩ := Prod.mk.inj hcheck
  obtain ⟨authorization, db₁, hquery, h⟩ := Effect.exec_bind_ok.mp h
  obtain ⟨-, rfl⟩ := Prod.mk.inj hquery
  have hcreate := Effect.exec_atomically_ok.mp h
  unfold AgendaRepository.create at hcreate
  obtain ⟨_, -, hcreate⟩ := bind_eq_ok.mp hcreate
  obtain ⟨startAt, hstart, hcreate⟩ := bind_eq_ok.mp hcreate
  obtain ⟨endAt, hend, hcreate⟩ := bind_eq_ok.mp hcreate
  obtain ⟨-, hcreate⟩ := raiseIf_bind_ok.mp hcreate
  split at hcreate
  · cases hcreate
  · rename_i agendaItems hinsert
    obtain ⟨rfl, rfl⟩ := Prod.mk.inj (Except.ok.inj hcreate)
    have hrest : (AgendaRepository.writeRecurrence (command.item newId context recurrence)
          { db with agendaItems }).agendaItems = agendaItems ∧
        (AgendaRepository.writeRecurrence (command.item newId context recurrence)
          { db with agendaItems }).agendaNotificationRules = db.agendaNotificationRules ∧
        (AgendaRepository.writeRecurrence (command.item newId context recurrence)
          { db with agendaItems }).assistantPendingPlans = db.assistantPendingPlans := by
      unfold AgendaRepository.writeRecurrence
      cases (command.item newId context recurrence).recurrence with
      | none => exact ⟨rfl, rfl, rfl⟩
      | some recurrence => exact ⟨rfl, rfl, rfl⟩
    refine ⟨_, (congrArg _ hrest.1).trans (Table.rows_insert hinsert), ?_, rfl, hrest.2⟩
    exact ⟨recurrence, startAt, endAt, authorization, hrecurrence, hstart, hend, rfl⟩

/-- A rule that has been created is the row that has been added. -/
theorem rule_added {newId : String} {command : CreateAgendaNotification}
    {rule : AgendaNotificationRule} {db' : Database}
    (h : (createAgendaNotification runtime.engine newId command now context).exec db =
      (.ok rule, db')) :
    ∃ row, db'.agendaNotificationRules.rows = db.agendaNotificationRules.rows ++ [row] ∧
      command.IsRow context row ∧ db'.agendaItems = db.agendaItems ∧
      db'.assistantPendingPlans = db.assistantPendingPlans := by
  unfold createAgendaNotification at h
  obtain ⟨found, db₁, hquery, h⟩ := Effect.exec_bind_ok.mp h
  obtain ⟨-, rfl⟩ := Prod.mk.inj hquery
  cases found with
  | none => exact absurd (Prod.mk.inj h).1 (by simp)
  | some item =>
    obtain ⟨_, db₁, hcheck, h⟩ := Effect.exec_bind_ok.mp h
    obtain ⟨-, rfl⟩ := Prod.mk.inj hcheck
    obtain ⟨ref, db₁, hcheck, h⟩ := Effect.exec_bind_ok.mp h
    obtain ⟨-, rfl⟩ := Prod.mk.inj hcheck
    obtain ⟨authorization, db₁, hquery, h⟩ := Effect.exec_bind_ok.mp h
    obtain ⟨-, rfl⟩ := Prod.mk.inj hquery
    have hcreate := Effect.exec_atomically_ok.mp h
    unfold AgendaNotificationRepository.create at hcreate
    obtain ⟨_, -, hcreate⟩ := bind_eq_ok.mp hcreate
    simp only at hcreate
    split at hcreate
    · cases hcreate
    · obtain ⟨-, hcreate⟩ := raiseIf_bind_ok.mp hcreate
      obtain ⟨-, hcreate⟩ := raiseIf_bind_ok.mp hcreate
      split at hcreate
      · cases hcreate
      · rename_i rules hinsert
        obtain ⟨rfl, rfl⟩ := Prod.mk.inj (Except.ok.inj hcreate)
        exact ⟨_, Table.rows_insert hinsert, ⟨item, authorization.authorizedAt, rfl⟩, rfl, rfl⟩

/-- A loop over notifications that comes to its end. -/
theorem rules_added {command : NotificationProposal → CreateAgendaNotification}
    {notifications : List (NotificationProposal × ℕ)} {u : PUnit} {db' : Database}
    (h : (Process.forEach notifications (runtime.addRule draws context command)).effect.exec db =
      (.ok u, db')) :
    ∃ rest, db'.agendaNotificationRules.rows = db.agendaNotificationRules.rows ++ rest ∧
      List.Forall₂ (fun notification row => (command notification.1).IsRow context row)
        notifications rest ∧
      db'.agendaItems = db.agendaItems ∧ db'.assistantPendingPlans = db.assistantPendingPlans := by
  induction notifications generalizing db with
  | nil =>
    obtain ⟨-, rfl⟩ := Prod.mk.inj h
    exact ⟨[], (List.append_nil _).symm, .nil, rfl, rfl⟩
  | cons notification notifications ih =>
    change (runtime.addRule draws context command notification >>= fun _ =>
      Process.forEach notifications (runtime.addRule draws context command)).effect.exec db = _ at h
    rw [Process.effect_bind] at h
    obtain ⟨_, db₁, hfirst, hothers⟩ := Effect.exec_bind_ok.mp h
    unfold addRule at hfirst
    rw [Process.effect_bind] at hfirst
    obtain ⟨rule, db₂, hcreate, hpure⟩ := Effect.exec_bind_ok.mp hfirst
    obtain ⟨-, rfl⟩ := Prod.mk.inj hpure
    obtain ⟨row, hrow, his, hitems, hplans⟩ := rule_added hcreate
    obtain ⟨rest, hrest, hall, hitems', hplans'⟩ := ih hothers
    refine ⟨row :: rest, ?_, .cons his hall, hitems'.trans hitems, hplans'.trans hplans⟩
    rw [hrest, hrow, List.append_assoc, List.singleton_append]

/-- An agenda plan that has been carried out. -/
theorem itemAdded_of_created {arguments : AgendaArguments} {startAt endAt : DateTime}
    {notifications : List NotificationProposal} {links : List ActionLink} {db' : Database}
    (hstart : arguments.startAt = some startAt) (hend : arguments.endAt = some endAt)
    (hnotifications : arguments.notifications = some notifications)
    (hlinks : arguments.links = some links)
    (h : (runtime.executeAgenda draws arguments targetRef context).effect.exec db =
      (.ok .created, db')) :
    runtime.ItemAdded arguments startAt endAt notifications links targetRef context db db' ∧
      db'.assistantPendingPlans = db.assistantPendingPlans := by
  unfold executeAgenda at h
  rw [hstart, hend, hnotifications, hlinks] at h
  simp only at h
  split at h
  · exact absurd (Prod.mk.inj h).1 (by simp)
  · rw [Process.effect_bind] at h
    obtain ⟨item, db₁, hitem, h⟩ := Effect.exec_bind_ok.mp h
    rw [Process.effect_once] at hitem
    rw [Process.effect_bind] at h
    obtain ⟨_, db₂, hloop, hpure⟩ := Effect.exec_bind_ok.mp h
    obtain ⟨-, rfl⟩ := Prod.mk.inj hpure
    obtain ⟨row, hrow, his, hid, hrules, hplans⟩ := item_added hitem
    obtain ⟨rest, hrest, hall, hitems, hplans'⟩ := rules_added hloop
    refine ⟨⟨row, rest, ?_, his, ?_, ?_⟩, hplans'.trans hplans⟩
    · rw [hitems, hrow]
    · rw [hrest, hrules]
    · rw [hid]
      have hfst : notifications = notifications.zipIdx.map Prod.fst :=
        (List.zipIdx_map_fst 0 notifications).symm
      rw [hfst]
      exact List.forall₂_map_left_iff.mpr hall

/-- **A confirmation that reports `created`** has accepted the plan and written all of it. -/
theorem whole_of_created (h : runtime.Found planId targetRef context now db plan arguments)
    {db' : Database} (hcreates : Creates planId targetRef db arguments)
    (hexec : (runtime.confirmPlan planId targetRef context now draws).effect.exec db =
      (.ok .created, db')) :
    Accepted planId db' ∧ runtime.Whole planId targetRef { context with confirmed := true }
      (draws 0).now db db' arguments := by
  have haccepted : ∀ db', db'.assistantPendingPlans = (accepting planId db).assistantPendingPlans →
      Accepted planId db' := by
    intro db' hsame
    obtain ⟨plan, hplan, hstate⟩ := accepted_accepting h
    exact ⟨plan, hsame ▸ hplan, hstate⟩
  rw [exec_confirmPlan h] at hexec
  cases arguments with
  | createReminder arguments =>
    obtain ⟨hfire, hlinks, -⟩ := hcreates
    obtain ⟨fireAt, hfireAt⟩ := Option.isSome_iff_exists.mp hfire
    obtain ⟨links, hlinks⟩ := Option.isSome_iff_exists.mp hlinks
    obtain ⟨hadded, hplans⟩ := remindersAdded_of_created hfireAt hlinks hexec
    refine ⟨haccepted db' hplans, ?_⟩
    intro fireAt' hfireAt' links' hlinks'
    obtain rfl := Option.mem_unique hfireAt hfireAt'
    obtain rfl := Option.mem_unique hlinks hlinks'
    exact hadded
  | createAgenda arguments =>
    obtain ⟨hstart, hend, hlinks, -, -, notifications, hnotifications, -⟩ := hcreates
    obtain ⟨startAt, hstartAt⟩ := Option.isSome_iff_exists.mp hstart
    obtain ⟨endAt, hendAt⟩ := Option.isSome_iff_exists.mp hend
    obtain ⟨links, hlinks⟩ := Option.isSome_iff_exists.mp hlinks
    obtain ⟨hadded, hplans⟩ := itemAdded_of_created hstartAt hendAt hnotifications hlinks hexec
    refine ⟨haccepted db' hplans, ?_⟩
    intro startAt' hstartAt' endAt' hendAt' notifications' hnotifications' links' hlinks'
    obtain rfl := Option.mem_unique hstartAt hstartAt'
    obtain rfl := Option.mem_unique hendAt hendAt'
    obtain rfl := Option.mem_unique hnotifications hnotifications'
    obtain rfl := Option.mem_unique hlinks hlinks'
    exact hadded
  | cancelReminder => exact hcreates.elim
  | acknowledgeReminder => exact hcreates.elim
  | snoozeReminder => exact hcreates.elim
  | other perform => exact absurd (Prod.mk.inj hexec).1 (by simp)

end PlanRuntime

/-- **A confirmation is all or nothing**, wherever it stops, exactly if it finds no plan that creates
something. -/
theorem confirm_all_or_nothing_iff (runtime : PlanRuntime) (planId targetRef : String)
    (context : CommandContext) (now : Instant) (draws : ℕ → Draw) (db : Database) :
    Process.Stopped (runtime.AllOrNothing planId targetRef context now draws db)
        (runtime.confirmPlan planId targetRef context now draws) db ↔
      ¬ ∃ plan arguments, runtime.Found planId targetRef context now db plan arguments ∧
        PlanRuntime.Creates planId targetRef db arguments := by
  constructor
  · rintro hstopped ⟨plan, arguments, hfound, hcreates⟩
    have hafter := hstopped 2
    rw [PlanRuntime.stoppedAt_two draws hfound] at hafter
    rcases hafter plan arguments hfound hcreates with ⟨-, hwhole⟩ | ⟨-, hagain⟩
    · exact PlanRuntime.not_whole_accepting hcreates hwhole
    · exact PlanRuntime.not_found_accepting hagain
  · intro hnone n plan arguments hfound hcreates
    exact absurd ⟨plan, arguments, hfound, hcreates⟩ hnone

/-! A weekly hour at the gym, with a notification whose text is a blank: the proposal takes a text of
one character, the rule wants one that says something. -/

def gymArguments : AgendaArguments where
  title := "Gym"
  startAt := some (.ofInstant (Duration.minutes 720))
  endAt := some (.ofInstant (Duration.minutes 780))
  recurrenceRule := "FREQ=WEEKLY"
  notifications := some [{
    timeOfDay := ⟨36000000000, false, by decide⟩
    dayOffset := 0
    text := " " }]

def gymRuntime : PlanRuntime where
  engine := utcOnly
  timezone := "UTC"
  decode := fun _ _ => some (.createAgenda gymArguments)

def gymPlan : PendingPlan where
  id := "plan_gym"
  actorUserId := "alice"
  targetRef := "qq:alice"
  action := "create_agenda"
  payloadJson := ""
  state := .pending
  createdAt := Duration.minutes 0
  expiresAt := Duration.minutes 30

/-- Alice has the plan before her. -/
def gymPlanned : Database where
  users := .single ⟨"alice", "Alice", true⟩
  assistantPendingPlans := ⟨[gymPlan], by simp⟩

def gymDraws (n : ℕ) : Draw where
  newId := if n = 0 then "agenda_gym" else "rule_gym"
  now := Duration.minutes 1

/-- The item is there, its rule is not, and the plan cannot be confirmed again. -/
theorem blank_notification_breaks_plan :
    ¬ Process.Stopped
      (gymRuntime.AllOrNothing "plan_gym" "qq:alice" aliceInPrivate (Duration.minutes 1) gymDraws
        gymPlanned)
      (gymRuntime.confirmPlan "plan_gym" "qq:alice" aliceInPrivate (Duration.minutes 1) gymDraws)
      gymPlanned := by
  intro h
  have hfound : gymRuntime.Found "plan_gym" "qq:alice" aliceInPrivate (Duration.minutes 1)
      gymPlanned gymPlan (.createAgenda gymArguments) :=
    ⟨by decide, by decide, rfl⟩
  have hcreates : PlanRuntime.Creates "plan_gym" "qq:alice" gymPlanned
      (.createAgenda gymArguments) :=
    ⟨rfl, rfl, rfl, by decide, by decide, _, rfl, fun _ => by decide⟩
  have hend := h 4 _ _ hfound hcreates
  revert hend
  generalize hfinal : Process.stoppedAt 4 (gymRuntime.confirmPlan "plan_gym" "qq:alice"
    aliceInPrivate (Duration.minutes 1) gymDraws) gymPlanned = final
  have hitems : final.agendaItems.rows.length = 1 := by
    rw [← hfinal]
    decide
  have hrules : final.agendaNotificationRules.rows.length = 0 := by
    rw [← hfinal]
    decide
  rintro (⟨-, hwhole⟩ | ⟨huntouched, -⟩)
  · -- the one proposal would have its rule
    obtain ⟨item, rules, -, -, hadded, hall⟩ := hwhole _ rfl _ rfl _ rfl _ rfl
    have hone : rules.length = 1 := hall.length_eq.symm
    rw [hadded, List.length_append, hone] at hrules
    exact absurd hrules (by decide)
  · rw [huntouched.items] at hitems
    exact absurd hitems (by decide)

/-- The hour without a notification. -/
def quietArguments : AgendaArguments := { gymArguments with notifications := some [] }

def quietRuntime : PlanRuntime := { gymRuntime with decode := fun _ _ => some (.createAgenda quietArguments) }

def quietRun : Except PyError PlanReply × Database :=
  (quietRuntime.confirmPlan "plan_gym" "qq:alice" aliceInPrivate (Duration.minutes 1)
    gymDraws).effect.exec gymPlanned

theorem whole_of_created_quiet : PlanRuntime.Accepted "plan_gym" quietRun.2 ∧
    quietRuntime.Whole "plan_gym" "qq:alice" { aliceInPrivate with confirmed := true }
      (Duration.minutes 1) gymPlanned quietRun.2 (.createAgenda quietArguments) := by
  have hfound : quietRuntime.Found "plan_gym" "qq:alice" aliceInPrivate (Duration.minutes 1)
      gymPlanned gymPlan (.createAgenda quietArguments) := ⟨by decide, by decide, rfl⟩
  have hcreates : PlanRuntime.Creates "plan_gym" "qq:alice" gymPlanned
      (.createAgenda quietArguments) :=
    ⟨rfl, rfl, rfl, by decide, by decide, _, rfl, fun hne => absurd rfl hne⟩
  have hcreated : quietRun = (.ok .created, quietRun.2) := Prod.ext (by decide) rfl
  exact PlanRuntime.whole_of_created hfound hcreates hcreated

end Zhixu
