import Mathlib.Data.List.Induction
import Zhixu.Application.AgendaRuns

/-!
# The day of a rule's reminder

A notification rule announces each occurrence of its item some days from the day on which the
occurrence starts, at a time of day. `AgendaNotificationScheduler` works from the other end. Once the
time of day has come, a tick looks back by the offset of the rule, takes the occurrences that the item
has on that day, and composes for each a reminder of this very day. An occurrence that began on an
earlier day and lasts until that day is among them.

`Selects` says which occurrences a tick takes for a rule, and `MadeFor` which reminder it composes for
one. `Tied` is what a reader expects of that reminder: its local day is the one on which the occurrence
starts, moved by the offset, and its local time is the time of day of the rule. `Aligned` is the
condition on what a tick sees.

The argument has two parts. A tick adds no reminder but those it composes (`RuleStep`, which goes
through the loops of the tick like the statement about announcements does), so that what holds of
`MadeFor` holds of all it creates. And the identity of a reminder is a digest of the rule and the start
of the occurrence, while no event of the agenda takes a stored reminder away (`present_step`); so for a
rule and a start there is one reminder at most. `remindersTied_iff` puts both over every run.
-/

open Framework

namespace Zhixu

/-! ### What a tick composes -/

namespace AgendaNotificationRule

/-- The day of a moment, in the zone of the rule. -/
def localDay (zones : TimeZones) (rule : AgendaNotificationRule) (t : Instant) : Int :=
  Wall.ordinal (zones.fromutc rule.timezone t).1

/-- The time of day of a moment, in the zone of the rule. -/
def localTime (zones : TimeZones) (rule : AgendaNotificationRule) (t : Instant) : Int :=
  Wall.timeOfDay (zones.fromutc rule.timezone t).1

/-- The moment that a tick composes: the time of day of the rule, on the day of the tick. -/
def firesAt (rule : AgendaNotificationRule) (localNow : DateTime) : DateTime where
  wall := Wall.midnight (Wall.ordinal localNow.wall) + rule.timeOfDay.micros
  zone := .named rule.timezone

end AgendaNotificationRule

/-- A tick takes an occurrence for an enabled rule. -/
structure Selects (runtime : Runtime) (now : Instant) (db : Database) (rule : AgendaNotificationRule)
    (localNow : DateTime) (occurrence : AgendaOccurrence) : Prop where
  enabled : ∃ rules, AgendaNotificationRepository.listEnabled runtime.zones db = .ok rules ∧
    rule ∈ rules
  localNow_eq : DateTime.load runtime.zones now rule.timezone = .ok localNow
  due : rule.timeOfDay.micros ≤ Wall.timeOfDay localNow.wall
  found : ∃ occurrenceStart occurrenceEnd found,
    rule.occurrenceStart localNow = .ok occurrenceStart ∧
    occurrenceStart.plus (Duration.days 1) = .ok occurrenceEnd ∧
    AgendaRepository.occurrences runtime.engine rule.ownerUserId occurrenceStart occurrenceEnd db =
      .ok found ∧ occurrence ∈ found
  item : occurrence.agendaItemId = rule.agendaItemId

/-- A reminder is the one that a tick composes for a rule and an occurrence. -/
structure MadeFor (runtime : Runtime) (now : Instant) (db : Database) (rule : AgendaNotificationRule)
    (localNow : DateTime) (occurrence : AgendaOccurrence) (r : Reminder) : Prop where
  selects : Selects runtime now db rule localNow occurrence
  id : r.id = ruleReminderId runtime.sha256 rule.id (occurrence.startAt.instant runtime.zones)
  fireAt : r.fireAt = (rule.firesAt localNow).instant runtime.zones
  title : r.title = rule.text
  target : r.targetRef = rule.targetRef
  related : r.relatedId = some rule.agendaItemId

/-- **What a reader expects.** The reminder fires on the day on which the occurrence starts, moved by
the offset of the rule, and at its time of day. -/
def Tied (zones : TimeZones) (rule : AgendaNotificationRule) (occurrence : AgendaOccurrence)
    (r : Reminder) : Prop :=
  rule.localDay zones r.fireAt =
      rule.localDay zones (occurrence.startAt.instant zones) + rule.dayOffset ∧
    rule.localTime zones r.fireAt = rule.timeOfDay.micros

/-- The occurrence starts on the day that the tick looks at, and the moment composed is read as it was
composed. Where it is not, because the zone has skipped it, it may still be read at that time of day,
on another day; then the occurrence has to start accordingly. -/
def Aligned (zones : TimeZones) (rule : AgendaNotificationRule) (localNow : DateTime)
    (occurrence : AgendaOccurrence) : Prop :=
  let composed := rule.firesAt localNow
  let read := (zones.fromutc rule.timezone (composed.instant zones)).1
  let startDay := rule.localDay zones (occurrence.startAt.instant zones)
  (read = composed.wall ∧ startDay = Wall.ordinal localNow.wall - rule.dayOffset) ∨
    (read ≠ composed.wall ∧ Wall.timeOfDay read = rule.timeOfDay.micros ∧
      startDay = Wall.ordinal read - rule.dayOffset)

section Composed

variable {runtime : Runtime} {now : Instant} {db : Database} {rule : AgendaNotificationRule}
  {localNow : DateTime} {occurrence : AgendaOccurrence} {r : Reminder}

/-- The moment composed is on the day of the tick. -/
theorem ordinal_firesAt (rule : AgendaNotificationRule) (localNow : DateTime) :
    Wall.ordinal (rule.firesAt localNow).wall = Wall.ordinal localNow.wall ∧
      Wall.timeOfDay (rule.firesAt localNow).wall = rule.timeOfDay.micros := by
  have hday := rule.timeOfDay.in_day
  simp only [AgendaNotificationRule.firesAt, Wall.midnight, Wall.ordinal, Wall.timeOfDay]
  omega

/-- **One reminder** is tied exactly if its occurrence is aligned. -/
theorem MadeFor.tied_iff (h : MadeFor runtime now db rule localNow occurrence r) :
    Tied runtime.zones rule occurrence r ↔ Aligned runtime.zones rule localNow occurrence := by
  obtain ⟨hday, htime⟩ := ordinal_firesAt rule localNow
  simp only [Tied, Aligned, AgendaNotificationRule.localDay, AgendaNotificationRule.localTime, h.fireAt]
  by_cases hread : (runtime.zones.fromutc rule.timezone
      ((rule.firesAt localNow).instant runtime.zones)).1 = (rule.firesAt localNow).wall
  · rw [hread, hday, htime]
    constructor
    · rintro ⟨heq, -⟩
      exact .inl ⟨rfl, by omega⟩
    · rintro (⟨-, heq⟩ | ⟨hne, -⟩)
      · exact ⟨by omega, rfl⟩
      · exact absurd rfl hne
  · constructor
    · rintro ⟨heq, hclock⟩
      exact .inr ⟨hread, hclock, by omega⟩
    · rintro (⟨hsame, -⟩ | ⟨-, hclock, heq⟩)
      · exact absurd hsame hread
      · exact ⟨by omega, hclock⟩

end Composed

/-! ### What a tick adds -/

/-- Every reminder that a piece of a tick adds is composed for a rule and an occurrence that the base
has. -/
def RuleStep (runtime : Runtime) (now : Instant) (base : Database)
    (s s' : Ledger Database Announcement) : Prop :=
  Agrees base s.store → Agrees base s'.store ∧ ∀ id r, s'.store.reminders.find? id = some r →
    s.store.reminders.find? id = some r ∨
      ∃ rule localNow occurrence, MadeFor runtime now base rule localNow occurrence r

section Steps

variable {runtime : Runtime} {now : Instant} {base : Database}

theorem RuleStep.refl (s : Ledger Database Announcement) : RuleStep runtime now base s s :=
  fun hagrees => ⟨hagrees, fun _ _ hr => .inl hr⟩

theorem RuleStep.trans (s s' s'' : Ledger Database Announcement)
    (h : RuleStep runtime now base s s') (h' : RuleStep runtime now base s' s'') :
    RuleStep runtime now base s s'' := by
  intro hagrees
  obtain ⟨hmid, hadded⟩ := h hagrees
  obtain ⟨hlast, hadded'⟩ := h' hmid
  refine ⟨hlast, fun id r hr => ?_⟩
  rcases hadded' id r hr with hold | hmade
  · exact hadded id r hold
  · exact .inr hmade

/-- A read at which the base would answer the same. -/
theorem ruleStep_query {α β : Type} {f : Ledger Database Announcement → Except PyError α}
    {g : Database → Except PyError α} {m : α → Tick β}
    (hf : ∀ s, Agrees base s.store → f s = g base)
    (hm : ∀ a, g base = .ok a → Effect.Within (RuleStep runtime now base) (m a)) :
    Effect.Within (RuleStep runtime now base) (Effect.query f >>= m) := by
  intro s hagrees
  rw [Effect.exec_bind, Effect.exec_query, hf s hagrees]
  cases hg : g base with
  | error e => exact RuleStep.refl s hagrees
  | ok a => exact hm a hg s hagrees

/-- Storing a reminder that has been composed. -/
theorem ruleStep_announce {reminder : Reminder} {fireAt : DateTime} {agendaItemId : String}
    {startAt : Instant}
    (hmade : ∀ r : Reminder, r.id = reminder.id → r.fireAt = fireAt.instant runtime.zones →
      r.title = reminder.title → r.targetRef = reminder.targetRef →
      r.relatedId = reminder.relatedId →
      ∃ rule localNow occurrence, MadeFor runtime now base rule localNow occurrence r) :
    Effect.Within (RuleStep runtime now base)
      (announce runtime.zones reminder fireAt agendaItemId startAt now) := by
  unfold announce
  refine Effect.Within.check_bind RuleStep.refl fun _ => ?_
  refine Effect.Within.check_bind RuleStep.refl fun resource => ?_
  intro s
  rw [Effect.exec_check_bind]
  cases hdump : fireAt.dump runtime.zones with
  | error e => exact RuleStep.refl s
  | ok stored =>
    refine Effect.Within.tryCatch RuleStep.trans ?_ (fun e => ?_) s
    · refine Effect.Within.bind RuleStep.trans ?_ fun _ => Effect.Within.pure RuleStep.refl 1
      intro s hagrees
      rw [Effect.exec_noting, Effect.exec_atomically]
      cases hcreate : (ReminderRepository.create { reminder with fireAt := stored }
          (schedulerAuthorization resource now)).run s.store with
      | error e => exact RuleStep.refl s hagrees
      | ok out =>
        obtain ⟨created, store⟩ := out
        simp only
        unfold ReminderRepository.create at hcreate
        obtain ⟨_, -, hcreate⟩ := bind_eq_ok.mp hcreate
        obtain ⟨-, hcreate⟩ := raiseIf_bind_ok.mp hcreate
        split at hcreate
        · cases hcreate
        · rename_i reminders hinsert
          obtain ⟨rfl, rfl⟩ := Prod.mk.inj (Except.ok.inj hcreate)
          refine ⟨hagrees.trans ⟨reminders, _, rfl⟩, fun id r hr => ?_⟩
          change reminders.find? id = some r at hr
          rw [Table.find?_insert hinsert] at hr
          by_cases hid : id = reminder.id
          · -- the row that was inserted
            refine .inr (hmade r ?_ ?_ ?_ ?_ ?_) <;>
              rw [← Option.some.inj ((if_pos hid).symm.trans hr)]
            · rfl
            · exact toUtc_ok hdump
            all_goals rfl
          · exact .inl ((if_neg hid).symm.trans hr)
    · split_ifs
      · exact Effect.Within.pure RuleStep.refl 0
      · exact fun s => RuleStep.refl s

theorem ruleStep_materializeRuleOccurrence {rule : AgendaNotificationRule} {localNow : DateTime}
    {occurrence : AgendaOccurrence} (h : Selects runtime now base rule localNow occurrence) :
    Effect.Within (RuleStep runtime now base)
      (materializeRuleOccurrence runtime rule localNow now occurrence) := by
  unfold materializeRuleOccurrence
  refine Effect.Within.check_bind RuleStep.refl fun _ => ?_
  intro s
  rw [Effect.exec_check_bind]
  cases hstart : occurrence.startAt.toUtc runtime.zones with
  | error e => exact RuleStep.refl s
  | ok startAt =>
    refine Effect.Within.query_bind RuleStep.refl (fun existing => ?_) s
    split_ifs
    · exact Effect.Within.pure RuleStep.refl 0
    · refine ruleStep_announce fun r hid hfires htitle htarget hrelated =>
        ⟨rule, localNow, occurrence, h, ?_, hfires, htitle, htarget, hrelated⟩
      rw [hid, ← toUtc_ok hstart]
      rfl

theorem ruleStep_materializeRule {rule : AgendaNotificationRule}
    (henabled : ∃ rules, AgendaNotificationRepository.listEnabled runtime.zones base = .ok rules ∧
      rule ∈ rules) :
    Effect.Within (RuleStep runtime now base) (materializeRule runtime rule now) := by
  unfold materializeRule
  intro s
  rw [Effect.exec_check_bind]
  cases hnow : DateTime.load runtime.zones now rule.timezone with
  | error e => exact RuleStep.refl s
  | ok localNow =>
    simp only
    by_cases hdue : Wall.timeOfDay localNow.wall < rule.timeOfDay.micros
    · rw [if_pos hdue]
      exact Effect.Within.pure RuleStep.refl 0 s
    · rw [if_neg hdue, Effect.exec_check_bind]
      cases hstart : rule.occurrenceStart localNow with
      | error e => exact RuleStep.refl s
      | ok occurrenceStart =>
        simp only
        rw [Effect.exec_check_bind]
        cases hend : occurrenceStart.plus (Duration.days 1) with
        | error e => exact RuleStep.refl s
        | ok occurrenceEnd =>
          refine ruleStep_query (fun s hagrees => hagrees.occurrences rule.ownerUserId
            occurrenceStart occurrenceEnd) (fun found hfound => ?_) s
          refine Effect.Within.countEach RuleStep.refl RuleStep.trans fun occurrence hmem => ?_
          obtain ⟨hin, hitem⟩ := List.mem_filter.mp hmem
          exact ruleStep_materializeRuleOccurrence {
            enabled := henabled
            localNow_eq := hnow
            due := not_lt.mp hdue
            found := ⟨occurrenceStart, occurrenceEnd, found, hstart, hend, hfound, hin⟩
            item := by simpa using hitem }

/-- **What a tick adds** is composed for rules and occurrences of the store it found. -/
theorem ruleStep_notificationTick (s : Ledger Database Announcement) :
    RuleStep runtime now s.store s ((notificationTick runtime now).exec s).2 := by
  have hwithin : Effect.Within (RuleStep runtime now s.store) (notificationTick runtime now) := by
    unfold notificationTick
    refine ruleStep_query
      (g := fun db => AgendaNotificationRepository.listEnabled runtime.zones db)
      (fun s hagrees => ?_) fun rules hrules => ?_
    · obtain ⟨reminders, auditEvents, hstore⟩ := hagrees
      rw [hstore]
      rfl
    · exact Effect.Within.countEach RuleStep.refl RuleStep.trans fun rule hmem =>
        ruleStep_materializeRule ⟨rules, hrules, hmem⟩
  exact hwithin s

end Steps

/-! ### Runs -/

section Runs

variable {runtime : Runtime} {db : Database} {events : List AgendaEvent}

/-- No event takes a stored reminder away. -/
theorem present_step {s : Ledger Database Announcement} (event : AgendaEvent) {id : String}
    {r : Reminder} (hr : s.store.reminders.find? id = some r) :
    ∃ r', ((agendaMachine runtime).exec s event).2.store.reminders.find? id = some r' := by
  have hsame : ∀ db', db' = s.store → ∃ r', db'.reminders.find? id = some r' := by
    rintro _ rfl
    exact ⟨r, hr⟩
  cases event with
  | notificationTick now => exact ⟨r, (announces_notificationTick runtime now s).kept id r hr⟩
  | leadTick now => exact ⟨r, (announces_leadTick runtime now s).kept id r hr⟩
  | reminderTick lateGraceSeconds now =>
    obtain ⟨r', hr', -⟩ := (fires_reminderTick runtime lateGraceSeconds now s).forward hr
    exact ⟨r', hr'⟩
  | call call now context =>
    cases call with
    | createAgenda newId command =>
      rcases createAgenda_within runtime.engine newId command now context s.store with h | h
      · exact hsame _ h
      · exact h.keeps.present id r hr
    | updateAgenda command =>
      rcases updateAgenda_outcome runtime.engine command now context s.store with h | ⟨-, row, h⟩
      · exact hsame _ h
      · exact h.keeps.present id r hr
    | deleteAgenda itemId =>
      rcases deleteAgenda_within runtime.engine itemId now context s.store with h | ⟨row, h⟩
      · exact h.present id r hr
      · exact h.keeps.present id r hr
    | setAgendaException command =>
      rcases setAgendaException_outcome runtime.engine command now context s.store with h | ⟨-, h⟩
      · exact hsame _ h
      · exact h.keeps.present id r hr
    | createAgendaNotification newId command =>
      rw [← (createAgendaNotification_within runtime.engine newId command now context
        s.store).1.reminders] at hr
      exact ⟨r, hr⟩
    | updateAgendaNotification command =>
      rcases updateAgendaNotification_outcome runtime.engine.zones command now context s.store with
        h | ⟨-, h, -⟩
      · exact hsame _ h
      · rw [← h.reminders] at hr
        exact ⟨r, hr⟩
    | deleteAgendaNotification ruleId =>
      rw [← (deleteAgendaNotification_within runtime.engine.zones ruleId now context
        s.store).1.reminders] at hr
      exact ⟨r, hr⟩
    | setNotificationLeads command =>
      rw [← (setNotificationLeads_within runtime.engine command now context s.store).1.reminders] at hr
      exact ⟨r, hr⟩

/-- The ledger after a run of the agenda. -/
def agendaAfter (runtime : Runtime) (db : Database) (events : List AgendaEvent) :
    Ledger Database Announcement :=
  ((agendaMachine runtime).replay (Machine.start ⟨db, []⟩) events).state

theorem agendaAfter_append (done : List AgendaEvent) (event : AgendaEvent) :
    agendaAfter runtime db (done ++ [event]) =
      ((agendaMachine runtime).exec (agendaAfter runtime db done) event).2 := by
  unfold agendaAfter
  rw [Machine.replay_append]
  rfl

/-- A reminder stays for the rest of the run. -/
theorem present_after {done later : List AgendaEvent} (h : done <+: later) {id : String} {r : Reminder}
    (hr : (agendaAfter runtime db done).store.reminders.find? id = some r) :
    ∃ r', (agendaAfter runtime db later).store.reminders.find? id = some r' := by
  obtain ⟨rest, rfl⟩ := h
  induction rest using List.reverseRecOn with
  | nil => exact ⟨r, by rwa [List.append_nil]⟩
  | append_singleton rest event ih =>
    obtain ⟨r', hr'⟩ := ih
    rw [← List.append_assoc, agendaAfter_append]
    exact present_step event hr'

/-- A tick behind `done` creates a reminder. -/
structure TickCreates (runtime : Runtime) (db : Database) (done : List AgendaEvent) (now : Instant)
    (r : Reminder) : Prop where
  before : (agendaAfter runtime db done).store.reminders.find? r.id = none
  after : (agendaAfter runtime db (done ++ [.notificationTick now])).store.reminders.find? r.id = some r

/-- The reminder that a tick behind `done` composes. -/
abbrev MadeAt (runtime : Runtime) (db : Database) (done : List AgendaEvent) (now : Instant) :=
  MadeFor runtime now (agendaAfter runtime db done).store

/-- **Rule reminders are tied to the right day.** Every reminder that a tick of the run creates is
composed for some rule and occurrence, and tied to the day of the occurrence. For a rule and a start
there is one such reminder in the run. -/
structure RemindersTied (runtime : Runtime) (db : Database) (events : List AgendaEvent) : Prop where
  made : ∀ done now r, done ++ [.notificationTick now] <+: events → TickCreates runtime db done now r →
    ∃ rule localNow occurrence, MadeAt runtime db done now rule localNow occurrence r
  tied : ∀ done now r, done ++ [.notificationTick now] <+: events → TickCreates runtime db done now r →
    ∀ rule localNow occurrence, MadeAt runtime db done now rule localNow occurrence r →
      Tied runtime.zones rule occurrence r
  once : ∀ done now r done' now' r', done ++ [.notificationTick now] <+: events →
    done' ++ [.notificationTick now'] <+: events → TickCreates runtime db done now r →
    TickCreates runtime db done' now' r' →
    ∀ rule localNow occurrence rule' localNow' occurrence',
      MadeAt runtime db done now rule localNow occurrence r →
      MadeAt runtime db done' now' rule' localNow' occurrence' r' → rule'.id = rule.id →
      occurrence'.startAt.instant runtime.zones = occurrence.startAt.instant runtime.zones →
        r' = r ∧ done' = done

/-- Whenever a tick creates a reminder, the occurrence is aligned. -/
def CreatesAligned (runtime : Runtime) (db : Database) (events : List AgendaEvent) : Prop :=
  ∀ done now r, done ++ [.notificationTick now] <+: events → TickCreates runtime db done now r →
    ∀ rule localNow occurrence, MadeAt runtime db done now rule localNow occurrence r →
      Aligned runtime.zones rule localNow occurrence

/-- What a tick of the run creates is composed. -/
theorem TickCreates.made {done : List AgendaEvent} {now : Instant} {r : Reminder}
    (h : TickCreates runtime db done now r) :
    ∃ rule localNow occurrence, MadeAt runtime db done now rule localNow occurrence r := by
  obtain ⟨-, hadded⟩ := @ruleStep_notificationTick runtime now (agendaAfter runtime db done)
    (Agrees.refl _)
  have hafter := h.after
  rw [agendaAfter_append] at hafter
  rcases hadded r.id r hafter with hold | hmade
  · rw [h.before] at hold
    exact absurd hold (by simp)
  · exact hmade

/-- A reminder that a tick creates is there when a later one runs. -/
theorem TickCreates.same {done done' : List AgendaEvent} {now now' : Instant} {r r' : Reminder}
    (h : TickCreates runtime db done now r) (h' : TickCreates runtime db done' now' r')
    (hid : r'.id = r.id) (hdone : done ++ [.notificationTick now] <+: events)
    (hdone' : done' ++ [.notificationTick now'] <+: events) : r' = r ∧ done' = done := by
  -- behind the first of the two ticks the id is taken, and before the second it is free
  have hfirst : ∀ {a b : List AgendaEvent} {t t' : Instant} {q q' : Reminder},
      TickCreates runtime db a t q → TickCreates runtime db b t' q' → q'.id = q.id →
      ¬ a ++ [.notificationTick t] <+: b := by
    intro a b t t' q q' hq hq' hsame hprefix
    obtain ⟨r'', hr''⟩ := present_after hprefix hq.after
    rw [← hsame, hq'.before] at hr''
    exact absurd hr'' (by simp)
  have hlength : done'.length = done.length := by
    by_contra hne
    rcases Nat.lt_or_gt_of_ne hne with hlt | hlt
    · refine hfirst h' h hid.symm ?_
      exact List.prefix_of_prefix_length_le hdone' ((List.prefix_append _ _).trans hdone)
        (by simpa using Nat.succ_le_of_lt hlt)
    · refine hfirst h h' hid ?_
      exact List.prefix_of_prefix_length_le hdone ((List.prefix_append _ _).trans hdone')
        (by simpa using Nat.succ_le_of_lt hlt)
  obtain ⟨hsame, hlast⟩ := List.append_inj ((List.prefix_of_prefix_length_le hdone' hdone
    (by simp [hlength])).eq_of_length (by simp [hlength])) hlength
  obtain rfl := hsame
  have hnow : now' = now := by simpa using hlast
  obtain rfl := hnow
  have hafter' := h'.after
  rw [hid, h.after] at hafter'
  exact ⟨(Option.some.inj hafter').symm, rfl⟩

/-- **Every run** of the agenda ties the reminders of its rules, exactly if what its ticks create is
aligned. -/
theorem remindersTied_iff (runtime : Runtime) (db : Database) (events : List AgendaEvent) :
    RemindersTied runtime db events ↔ CreatesAligned runtime db events := by
  constructor
  · intro h done now r hdone hcreates rule localNow occurrence hmade
    exact hmade.tied_iff.mp (h.tied done now r hdone hcreates rule localNow occurrence hmade)
  · intro h
    refine ⟨fun done now r _ hcreates => hcreates.made, ?_, ?_⟩
    · intro done now r hdone hcreates rule localNow occurrence hmade
      exact hmade.tied_iff.mpr (h done now r hdone hcreates rule localNow occurrence hmade)
    · intro done now r done' now' r' hdone hdone' hcreates hcreates' rule localNow occurrence rule'
        localNow' occurrence' hmade hmade' hrule hstart
      refine hcreates.same hcreates' ?_ hdone hdone'
      rw [hmade'.id, hmade.id, hrule, hstart]

end Runs

/-! ### A journey of two days -/

/-- From the first of January 1970 at three to the second at four. -/
def journey : AgendaRow where
  id := "journey"
  ownerUserId := "alice"
  creatorUserId := some "alice"
  title := "journey"
  description := ""
  actionLinks := []
  startAt := 10800000000
  endAt := 100800000000
  timezone := "UTC"
  allDay := false
  classification := .personal
  version := 1
  createdAt := 0
  updatedAt := 0

theorem two_in_day : (0 : Int) ≤ 7200000000 ∧ (7200000000 : Int) < 86400000000 := by decide

/-- At two, on the day of the journey. -/
def packRule : AgendaNotificationRule where
  id := "pack"
  agendaItemId := "journey"
  ownerUserId := "alice"
  creatorUserId := "alice"
  targetRef := "chat"
  timeOfDay := ⟨7200000000, false, two_in_day⟩
  dayOffset := 0
  text := "pack"
  timezone := "UTC"

/-- Alice has written the rule after two on the first day. -/
def aliceTravels : Database where
  users := .single ⟨"alice", "Alice", true⟩
  agendaItems := .single journey
  agendaNotificationRules := .single packRule

def journeyOccurrence : AgendaOccurrence where
  agendaItemId := "journey"
  startAt := { wall := 10800000000, zone := .named "UTC" }
  endAt := { wall := 100800000000, zone := .named "UTC" }
  title := "journey"
  creatorUserId := some "alice"

/-- Two on the second of January. -/
def secondDay : Instant := 93600000000

def packReminder : Reminder where
  id := "reminder_digest"
  ownerUserId := "alice"
  title := "pack"
  fireAt := 93600000000
  targetRef := "chat"
  creatorUserId := some "alice"
  relatedKind := some "agenda"
  relatedId := some "journey"
  timezone := some "UTC"
  createdAt := some 93600000000
  updatedAt := some 93600000000

/-- The journey is announced on its second day. -/
theorem journey_late : ¬ RemindersTied utcRuntime aliceTravels [.notificationTick secondDay] := by
  intro h
  have hcreates : TickCreates utcRuntime aliceTravels [] secondDay packReminder := by
    refine ⟨by decide +kernel, ?_⟩
    decide +kernel
  have hmade : MadeAt utcRuntime aliceTravels [] secondDay packRule
      { wall := 93600000000, zone := .named "UTC" } journeyOccurrence packReminder := by
    refine ⟨⟨⟨[packRule], ?_, by simp⟩, rfl, by decide, ⟨{ wall := 86400000000, zone := .named "UTC" },
      { wall := 172800000000, zone := .named "UTC" }, [journeyOccurrence], ?_, ?_, ?_, by simp⟩, rfl⟩,
      ?_, ?_, rfl, rfl, rfl⟩
    all_goals decide +kernel
  have htied := (h.tied [] secondDay packReminder List.prefix_rfl hcreates _ _ _ hmade).1
  exact absurd htied (by decide +kernel)

end Zhixu
