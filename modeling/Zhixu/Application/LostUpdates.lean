import Zhixu.Application.Interleaving
import Zhixu.Framework.Patch
import Zhixu.Storage.Versions

/-!
# Updates of records without a version, interleaved

Important days, daily briefings and notification rules are updated like the versioned
records, read in one transaction and written in another, but the write compares nothing:
it puts the whole record there that the call has computed from what it had read.

Two calls with disjoint patches on one record, in any interleaving. Each leaves its patch
applied to what it had read (`prepare_writes`). When one call is over before the other
begins, the second has read what the first wrote, and both patches are there in the end.
Otherwise both have read the record before either wrote (`split_interleaving`), and what
the first to write had changed is gone (`both_kept_iff`), unless it was there already.
-/

open Framework

namespace Zhixu

/-- The records that are updated without a version. -/
inductive UnversionedKind
  | importantDay
  | dailyBriefing
  | notificationRule
deriving DecidableEq, Repr

/-! ### Fields and patches -/

inductive ImportantDayField
  | title
  | anchorDate
  | timezone
  | classification
  | kind
  | calendar
  | lunarMonth
  | lunarDay
  | lunarLeap
  | advanceDays
deriving DecidableEq, Repr

def importantDayFields : Fields Anniversary where
  Field := ImportantDayField
  Value
    | .title => String
    | .anchorDate => CalendarDate
    | .timezone => String
    | .classification => DataClassification
    | .kind => ImportantDayKind
    | .calendar => CalendarSystem
    | .lunarMonth => Option Int
    | .lunarDay => Option Int
    | .lunarLeap => Bool
    | .advanceDays => List Int
  get
    | .title, day => day.title
    | .anchorDate, day => day.anchorDate
    | .timezone, day => day.timezone
    | .classification, day => day.classification
    | .kind, day => day.kind
    | .calendar, day => day.calendar
    | .lunarMonth, day => day.lunarMonth
    | .lunarDay, day => day.lunarDay
    | .lunarLeap, day => day.lunarLeap
    | .advanceDays, day => day.advanceDays

/-- A text that is given and not empty. -/
def givenText (value : Option String) : Option String := value.filter (· ≠ "")

theorem orStored_eq (value : Option String) (stored : String) :
    orStored value stored = (givenText value).getD stored := by
  unfold orStored givenText
  cases value with
  | none => rfl
  | some text =>
    by_cases htext : text = ""
    · simp [htext, Option.filter]
    · simp [htext, Option.filter]

/-- What `update_anniversary` changes. A new calendar brings the whole lunar date. -/
def UpdateAnniversary.patch (command : UpdateAnniversary) : Patch importantDayFields
  | .title => givenText command.title
  | .anchorDate => command.anchorDate
  | .timezone => givenText command.timezone
  | .classification => command.classification
  | .kind => command.kind
  | .calendar => command.calendar
  | .lunarMonth =>
    if command.calendar.isSome then some command.lunarMonth else command.lunarMonth.map some
  | .lunarDay =>
    if command.calendar.isSome then some command.lunarDay else command.lunarDay.map some
  | .lunarLeap =>
    if command.calendar.isSome then some (command.lunarLeap.getD false) else command.lunarLeap
  | .advanceDays => command.advanceDays

inductive BriefingField
  | timeOfDay
  | targetRef
  | timezone
  | enabled
  | classification
deriving DecidableEq, Repr

/-- The times of a briefing and of a rule are stored to the minute. -/
def briefingFields : Fields DailyBriefing where
  Field := BriefingField
  Value
    | .timeOfDay => TimeOfDay
    | .targetRef => String
    | .timezone => String
    | .enabled => Bool
    | .classification => DataClassification
  get
    | .timeOfDay, briefing => briefing.timeOfDay.toMinutes
    | .targetRef, briefing => briefing.targetRef
    | .timezone, briefing => briefing.timezone
    | .enabled, briefing => briefing.enabled
    | .classification, briefing => briefing.classification

/-- What `update_daily_briefing` changes. -/
def UpdateDailyBriefing.patch (command : UpdateDailyBriefing) : Patch briefingFields
  | .timeOfDay => command.timeOfDay.map TimeOfDay.toMinutes
  | .targetRef => givenText command.targetRef
  | .timezone => givenText command.timezone
  | .enabled => command.enabled
  | .classification => command.classification

inductive RuleField
  | text
  | timeOfDay
  | dayOffset
  | targetRef
  | timezone
  | enabled
  | classification
deriving DecidableEq, Repr

def ruleFields : Fields AgendaNotificationRule where
  Field := RuleField
  Value
    | .text => String
    | .timeOfDay => TimeOfDay
    | .dayOffset => Int
    | .targetRef => String
    | .timezone => String
    | .enabled => Bool
    | .classification => DataClassification
  get
    | .text, rule => rule.text
    | .timeOfDay, rule => rule.timeOfDay.toMinutes
    | .dayOffset, rule => rule.dayOffset
    | .targetRef, rule => rule.targetRef
    | .timezone, rule => rule.timezone
    | .enabled, rule => rule.enabled
    | .classification, rule => rule.classification

/-- What `update_agenda_notification` changes. -/
def UpdateAgendaNotification.patch (command : UpdateAgendaNotification) : Patch ruleFields
  | .text => givenText command.text
  | .timeOfDay => command.timeOfDay.map TimeOfDay.toMinutes
  | .dayOffset => command.dayOffset
  | .targetRef => givenText command.targetRef
  | .timezone => givenText command.timezone
  | .enabled => command.enabled
  | .classification => command.classification

namespace UnversionedKind

def Record : UnversionedKind → Type
  | .importantDay => Anniversary
  | .dailyBriefing => DailyBriefing
  | .notificationRule => AgendaNotificationRule

def Command : UnversionedKind → Type
  | .importantDay => UpdateAnniversary
  | .dailyBriefing => UpdateDailyBriefing
  | .notificationRule => UpdateAgendaNotification

/-- The record a command is about. -/
def recordId : (kind : UnversionedKind) → kind.Command → String
  | .importantDay, command => UpdateAnniversary.anniversaryId command
  | .dailyBriefing, command => UpdateDailyBriefing.briefingId command
  | .notificationRule, command => UpdateAgendaNotification.ruleId command

def fields : (kind : UnversionedKind) → Fields kind.Record
  | .importantDay => importantDayFields
  | .dailyBriefing => briefingFields
  | .notificationRule => ruleFields

def patch : (kind : UnversionedKind) → kind.Command → Patch kind.fields
  | .importantDay, command => UpdateAnniversary.patch command
  | .dailyBriefing, command => UpdateDailyBriefing.patch command
  | .notificationRule, command => UpdateAgendaNotification.patch command

/-- The service, which reads the clock once more to mark a briefing. -/
def course (zones : TimeZones) (now : Instant) :
    (kind : UnversionedKind) → kind.Command → Course kind.Record
  | .importantDay, command => updateAnniversary zones command
  | .dailyBriefing, command => updateDailyBriefing zones now command
  | .notificationRule, command => updateAgendaNotification zones command

/-- The stored record. -/
def stored : (kind : UnversionedKind) → String → Database → Option kind.Record
  | .importantDay, id, db => db.anniversaries.find? id
  | .dailyBriefing, id, db => db.dailyBriefings.find? id
  | .notificationRule, id, db => db.agendaNotificationRules.find? id

/-! ### What a call leaves -/

theorem toMinutes_toMinutes (t : TimeOfDay) : t.toMinutes.toMinutes = t.toMinutes := by
  unfold TimeOfDay.toMinutes
  congr 1
  simp only
  omega

theorem toMinutes_getD (given : Option TimeOfDay) (stored : TimeOfDay) :
    (given.getD stored).toMinutes = (given.map TimeOfDay.toMinutes).getD stored.toMinutes := by
  cases given <;> rfl

/-- A part of a lunar date: a new calendar brings its own, else what is not given stays. -/
theorem lunarPart_eq (calendar : Option CalendarSystem) (given stored : Option Int) :
    (if calendar.isSome then given else given.orElse fun _ => stored) =
      (if calendar.isSome then some given else given.map some).getD stored := by
  cases calendar with
  | some _ => rfl
  | none => cases given <;> rfl

theorem lunarLeap_eq (calendar : Option CalendarSystem) (given : Option Bool) (stored : Bool) :
    (if calendar.isSome then given.getD false else given.getD stored) =
      (if calendar.isSome then some (given.getD false) else given).getD stored := by
  cases calendar <;> rfl

/-- **A service applies the patch of its command.** -/
theorem revise_applied {zones : TimeZones} {now : Instant} {kind : UnversionedKind}
    {command : kind.Command} {existing updated : kind.Record}
    (h : (kind.course zones now command).revise existing = .ok updated) :
    (kind.patch command).Applied existing updated := by
  cases kind with
  | importantDay =>
    obtain ⟨_, -, h⟩ := bind_eq_ok.mp h
    obtain rfl := Except.ok.inj h
    intro field
    cases field with
    | title => exact orStored_eq _ _
    | timezone => exact orStored_eq _ _
    | lunarMonth => exact lunarPart_eq _ _ _
    | lunarDay => exact lunarPart_eq _ _ _
    | lunarLeap => exact lunarLeap_eq _ _ _
    | anchorDate => rfl
    | classification => rfl
    | kind => rfl
    | calendar => rfl
    | advanceDays => rfl
  | dailyBriefing =>
    obtain ⟨_, -, h⟩ := bind_eq_ok.mp h
    obtain rfl := Except.ok.inj h
    intro field
    cases field with
    | timeOfDay => exact toMinutes_getD _ _
    | targetRef => exact orStored_eq _ _
    | timezone => exact orStored_eq _ _
    | enabled => rfl
    | classification => rfl
  | notificationRule =>
    obtain ⟨_, -, h⟩ := bind_eq_ok.mp h
    obtain rfl := Except.ok.inj h
    intro field
    cases field with
    | text => exact orStored_eq _ _
    | timeOfDay => exact toMinutes_getD _ _
    | targetRef => exact orStored_eq _ _
    | timezone => exact orStored_eq _ _
    | dayOffset => rfl
    | enabled => rfl
    | classification => rfl

/-- An update of the row of a key, whatever is there. -/
theorem updateOne_replaced {ρ κ : Type} [DecidableEq κ] {key : ρ → κ} {slot : Slot key} {k : κ}
    {f : ρ → ρ} {hf : ∀ r, key (f r) = key r} {refusal : PyError} {also : Database → Database}
    {authorization : AuthorizedAction} {db db' : Database} {u : Unit}
    (h : updateOne slot (fun r => decide (key r = k)) f hf refusal also authorization db =
      .ok (u, db')) :
    ∃ row table, table.find? k = some (f row) ∧
      db' = Database.auditAction (also (slot.set db table)) authorization := by
  have hguard : (fun r => decide (key r = k)) = fun r => decide (key r = k) && true := by
    funext r
    rw [Bool.and_true]
  have hupdate : ∃ f' hf', f' = f ∧ updateOne slot (fun r => decide (key r = k) && true) f' hf'
      refusal also authorization db = .ok (u, db') := by
    refine ⟨f, hf, rfl, ?_⟩
    rw [← hguard]
    exact h
  obtain ⟨_, _, rfl, hupdate⟩ := hupdate
  obtain ⟨row, table, -, -, htable, rfl⟩ := updateOne_written (q := fun _ => true) hupdate
  exact ⟨row, table, (htable k).trans (if_pos rfl), rfl⟩

/-- Who updates a record has read it under the id of its command. -/
theorem load_ok {zones : TimeZones} {now : Instant} {kind : UnversionedKind}
    {command : kind.Command} {db : Database} {existing : kind.Record}
    (h : (kind.course zones now command).load db = .ok (some existing)) :
    kind.stored (kind.recordId command) db = some existing := by
  cases kind with
  | importantDay =>
    obtain ⟨row, hrow, hbuild⟩ := getRow_some.mp h
    obtain ⟨_, -, hbuild⟩ := bind_eq_ok.mp hbuild
    obtain rfl := Except.ok.inj hbuild
    exact hrow
  | dailyBriefing =>
    obtain ⟨row, hrow, hbuild⟩ := getRow_some.mp h
    obtain ⟨_, -, hbuild⟩ := bind_eq_ok.mp hbuild
    obtain rfl := Except.ok.inj hbuild
    exact hrow
  | notificationRule =>
    obtain ⟨row, hrow, hbuild⟩ := getRow_some.mp h
    obtain ⟨-, hbuild⟩ := raiseIf_bind_ok.mp hbuild
    obtain ⟨_, -, hbuild⟩ := bind_eq_ok.mp hbuild
    obtain rfl := Except.ok.inj hbuild
    exact hrow

/-- **A write puts every field of the updated record there**, whatever was there. -/
theorem save_ok {zones : TimeZones} {now : Instant} {kind : UnversionedKind}
    {command : kind.Command} {existing updated out : kind.Record}
    {authorization : AuthorizedAction} {id : String} {db db₀ db' : Database}
    (hexisting : kind.stored id db₀ = some existing)
    (hrevise : (kind.course zones now command).revise existing = .ok updated)
    (h : (kind.course zones now command).save updated authorization db = .ok (out, db')) :
    ∃ row, kind.stored id db' = some row ∧
      ∀ field, kind.fields.get field row = kind.fields.get field updated := by
  cases kind with
  | importantDay =>
    obtain ⟨_, -, hrevise⟩ := bind_eq_ok.mp hrevise
    obtain rfl := Except.ok.inj hrevise
    obtain ⟨_, -, h⟩ := bind_eq_ok.mp h
    obtain ⟨⟨_, _⟩, hupdate, h⟩ := bind_eq_ok.mp h
    obtain ⟨-, rfl⟩ := Prod.mk.inj (Except.ok.inj h)
    obtain ⟨row, table, htable, rfl⟩ := updateOne_replaced hupdate
    have hid : Anniversary.id existing = id := Table.key_of_find? hexisting
    refine ⟨_, hid ▸ htable, fun field => ?_⟩
    cases field <;> rfl
  | dailyBriefing =>
    obtain ⟨_, -, hrevise⟩ := bind_eq_ok.mp hrevise
    obtain rfl := Except.ok.inj hrevise
    obtain ⟨_, -, h⟩ := bind_eq_ok.mp h
    obtain ⟨⟨_, _⟩, hupdate, h⟩ := bind_eq_ok.mp h
    obtain ⟨-, rfl⟩ := Prod.mk.inj (Except.ok.inj h)
    obtain ⟨row, table, htable, rfl⟩ := updateOne_replaced hupdate
    have hid : DailyBriefing.id existing = id := Table.key_of_find? hexisting
    refine ⟨_, hid ▸ htable, fun field => ?_⟩
    cases field with
    | timeOfDay => exact toMinutes_toMinutes _
    | targetRef => rfl
    | timezone => rfl
    | enabled => rfl
    | classification => rfl
  | notificationRule =>
    obtain ⟨_, -, hrevise⟩ := bind_eq_ok.mp hrevise
    obtain rfl := Except.ok.inj hrevise
    obtain ⟨_, -, h⟩ := bind_eq_ok.mp h
    obtain ⟨⟨_, _⟩, hupdate, h⟩ := bind_eq_ok.mp h
    obtain ⟨-, rfl⟩ := Prod.mk.inj (Except.ok.inj h)
    obtain ⟨row, table, htable, rfl⟩ := updateOne_replaced hupdate
    have hid : AgendaNotificationRule.id existing = id := Table.key_of_find? hexisting
    refine ⟨_, hid ▸ htable, fun field => ?_⟩
    cases field with
    | timeOfDay => exact toMinutes_toMinutes _
    | text => rfl
    | dayOffset => rfl
    | targetRef => rfl
    | timezone => rfl
    | enabled => rfl
    | classification => rfl

/-- **A call leaves its patch applied to what it had read.** -/
theorem prepare_writes {zones : TimeZones} {now : Instant} {kind : UnversionedKind}
    {command : kind.Command} {dbRead db db' : Database} {prepared : Prepared}
    {authorization : AuthorizedAction} {u : Unit}
    (hprepare : (kind.course zones now command).prepare dbRead = .ok prepared)
    (hsave : prepared.save authorization db = .ok (u, db')) :
    ∃ before after, kind.stored (kind.recordId command) dbRead = some before ∧
      kind.stored (kind.recordId command) db' = some after ∧
      (kind.patch command).Applied before after := by
  unfold Course.prepare at hprepare
  cases hload : (kind.course zones now command).load dbRead with
  | error e => rw [hload] at hprepare; cases hprepare
  | ok existing =>
    rw [hload] at hprepare
    cases existing with
    | none => cases hprepare
    | some existing =>
      have hstored := load_ok hload
      obtain ⟨_, updated, _, -, hrevise, -, rfl⟩ := Course.prepareFrom_ok.mp hprepare
      obtain ⟨_, hsave⟩ := unanswered_ok.mp hsave
      obtain ⟨row, hrow, hfields⟩ := save_ok hstored hrevise hsave
      refine ⟨existing, row, hstored, hrow, fun field => ?_⟩
      rw [hfields]
      exact revise_applied hrevise field

end UnversionedKind

/-! ### Schedules of two calls -/

/-- The steps of a call. -/
inductive CallPhase
  | read
  | authorize
  | write
deriving DecidableEq, Repr

/-- An order of the steps of two calls, told apart by a `Bool`. -/
abbrev Schedule := List (Bool × CallPhase)

namespace Schedule

/-- The steps that one of the calls takes. -/
def steps (schedule : Schedule) (side : Bool) : List CallPhase :=
  (schedule.filter fun step => step.1 = side).map Prod.snd

/-- Every interleaving of two calls: each takes its three steps in their order. -/
def Interleaves (schedule : Schedule) : Prop :=
  ∀ side, schedule.steps side = [.read, .authorize, .write]

/-- The three steps of one call. -/
def whole (side : Bool) : Schedule := [(side, .read), (side, .authorize), (side, .write)]

/-- One call is over before the other begins. -/
def Apart (schedule : Schedule) : Prop := ∃ side, schedule = whole side ++ whole !side

/-- The call that writes first. -/
def firstWriter (schedule : Schedule) : Option Bool :=
  (schedule.find? fun step => step.2 = .write).map Prod.fst

instance (schedule : Schedule) : Decidable schedule.Interleaves := by
  unfold Interleaves
  infer_instance

theorem steps_append (before after : Schedule) (side : Bool) :
    steps (before ++ after) side = before.steps side ++ after.steps side := by
  unfold steps
  rw [List.filter_append, List.map_append]

theorem steps_self (side : Bool) (phase : CallPhase) (after : Schedule) :
    steps ((side, phase) :: after) side = phase :: after.steps side := by
  simp [steps]

theorem steps_other (side : Bool) (phase : CallPhase) (after : Schedule) :
    steps ((side, phase) :: after) (!side) = after.steps (!side) := by
  cases side <;> simp [steps]

theorem mem_steps {schedule : Schedule} {side : Bool} {phase : CallPhase} :
    phase ∈ schedule.steps side ↔ (side, phase) ∈ schedule := by
  unfold steps
  simp

/-- A schedule of one call is the steps of that call. -/
theorem eq_of_steps_nil {schedule : Schedule} {side : Bool} (h : schedule.steps side = []) :
    schedule = (schedule.steps (!side)).map (Prod.mk !side) := by
  induction schedule with
  | nil => rfl
  | cons step rest ih =>
    obtain ⟨other, phase⟩ := step
    by_cases hother : other = side
    · rw [hother, steps_self] at h
      cases h
    · obtain rfl : other = !side := by cases other <;> cases side <;> simp_all
      have hrest : steps rest side = [] := by
        have hstep := steps_other (!side) phase rest
        rw [Bool.not_not] at hstep
        rw [← hstep]
        exact h
      rw [steps_self, List.map_cons, ← ih hrest]

/-- **An interleaving splits at its first write.** Before it, the writer has read and asked
the policy. The other call has its remaining steps behind it. -/
theorem split_interleaving {schedule : Schedule} (h : schedule.Interleaves) :
    ∃ (side : Bool) (before : Schedule) (rest : List CallPhase),
      schedule = before ++ (side, .write) :: (rest.map (Prod.mk !side) ++ [(!side, .write)]) ∧
      schedule.firstWriter = some side ∧ (∀ step ∈ before, step.2 ≠ .write) ∧
      before.steps side = [.read, .authorize] ∧
      before.steps (!side) ++ rest = [.read, .authorize] := by
  have hwrites : (schedule.find? fun step => step.2 = .write).isSome = true := by
    rw [List.find?_isSome]
    have hmem : CallPhase.write ∈ schedule.steps true := by rw [h true]; decide
    exact ⟨_, mem_steps.mp hmem, by simp⟩
  obtain ⟨⟨side, phase⟩, hfind⟩ := Option.isSome_iff_exists.mp hwrites
  obtain ⟨hphase, before, after, hschedule, hbefore⟩ := List.find?_eq_some_iff_append.mp hfind
  obtain rfl : phase = .write := by simpa using hphase
  have hquiet : ∀ step ∈ before, step.2 ≠ .write := by
    intro step hstep
    simpa using hbefore step hstep
  have hnot : ∀ side, CallPhase.write ∉ steps before side := fun side hmem =>
    hquiet _ (mem_steps.mp hmem) rfl
  -- the writer has nothing left to do
  have hself := h side
  rw [hschedule, steps_append, steps_self] at hself
  have hcut : [CallPhase.read, .authorize] ++ .write :: [] =
      steps before side ++ CallPhase.write :: steps after side := hself.symm
  rw [List.append_cons_inj_of_notMem (by decide) (by simp)] at hcut
  obtain ⟨hdone, -, hnothing⟩ := hcut
  -- and the other one still has to write
  have hother := h (!side)
  rw [hschedule, steps_append, steps_other] at hother
  have hrest : ∃ rest, steps after (!side) = rest ++ [.write] ∧
      steps before (!side) ++ rest = [.read, .authorize] := by
    have hcut : steps before (!side) ++ steps after (!side) =
        [.read, .authorize] ++ [.write] := hother
    rcases List.append_eq_append_iff.mp hcut with ⟨rest, hleft, hright⟩ | ⟨rest, hleft, hright⟩
    · exact ⟨rest, hright, hleft.symm⟩
    · cases rest with
      | nil => exact ⟨[], hright.symm, by rw [hleft, List.append_nil, List.append_nil]⟩
      | cons phase rest =>
        obtain ⟨rfl, -⟩ := List.cons.inj hright
        exact absurd (by rw [hleft]; simp) (hnot !side)
  obtain ⟨rest, hafter, hread⟩ := hrest
  refine ⟨side, before, rest, ?_, by unfold firstWriter; rw [hfind]; rfl, hquiet,
    hdone.symm, hread⟩
  rw [hschedule, eq_of_steps_nil hnothing.symm, hafter, List.map_append]
  rfl

/-- Two calls are apart when the one that writes last has done nothing before the other one
wrote. -/
theorem apart_iff {side : Bool} {before : Schedule} {rest : List CallPhase}
    (hquiet : ∀ step ∈ before, step.2 ≠ .write) (hdone : before.steps side = [.read, .authorize])
    (hrest : before.steps (!side) ++ rest = [.read, .authorize]) :
    Apart (before ++ (side, .write) :: (rest.map (Prod.mk !side) ++ [(!side, .write)])) ↔
      before.steps (!side) = [] := by
  constructor
  · rintro ⟨other, hapart⟩
    -- both sides up to their first write
    have hcut := congrArg (List.takeWhile fun step => step.2 ≠ .write) hapart
    rw [List.takeWhile_append_of_pos (by simpa using hquiet)] at hcut
    have hbefore : before = [(other, .read), (other, .authorize)] := by
      simpa [whole, List.takeWhile_cons] using hcut
    rw [hbefore] at hdone ⊢
    cases other <;> cases side <;> simp [steps] at hdone ⊢
  · intro hnone
    rw [hnone, List.nil_append] at hrest
    have hself := eq_of_steps_nil hnone
    rw [Bool.not_not, hdone] at hself
    rw [hself, hrest]
    exact ⟨side, rfl⟩

end Schedule

/-! ### Two calls -/

/-- A call of an update, with the time it reads. -/
structure UpdateCall (kind : UnversionedKind) where
  command : kind.Command
  now : Instant
  context : CommandContext

section Runs

variable (zones : TimeZones) {kind : UnversionedKind} (calls : Bool → UpdateCall kind)

def unversionedServices (kind : UnversionedKind) : Services (UpdateCall kind) kind.Record where
  prepare call := (kind.course zones call.now call.command).prepare
  target call := kind.stored (kind.recordId call.command)

def unversionedClients (kind : UnversionedKind) : Machine (System Bool (UpdateCall kind) kind.Record)
    (SystemCall Bool (UpdateCall kind)) (SystemOutcome (UpdateCall kind) kind.Record) :=
  Interleaving.machine (unversionedServices zones kind)

/-- A step of one of the two calls. -/
def stepOf : Bool × CallPhase → SystemCall Bool (UpdateCall kind)
  | (side, .read) => .read side (calls side) (calls side).now (calls side).context
  | (side, .authorize) => .authorize side
  | (side, .write) => .write side

abbrev UpdateStage (kind : UnversionedKind) : Type :=
  Stage (System Bool (UpdateCall kind) kind.Record) (SystemCall Bool (UpdateCall kind))
    (SystemOutcome (UpdateCall kind) kind.Record)

/-- The steps of a schedule, from some stage on. -/
def follow (g : UpdateStage kind) (schedule : Schedule) : UpdateStage kind :=
  (unversionedClients zones kind).replay g (schedule.map (stepOf calls))

/-- The run of a schedule on a database. -/
def runCalls (db : Database) (schedule : Schedule) : UpdateStage kind :=
  follow zones calls (Machine.start (Interleaving.idle db)) schedule

/-- One of the calls has written. -/
def Succeeded (side : Bool) (g : UpdateStage kind) : Prop :=
  ∃ entry ∈ g.log, entry.call = .write side ∧
    ∃ op authorization base value, entry.outcome = .written op authorization base value

/-- The calls in flight have read some database each. -/
def ReadsFrom (dbs : Bool → Database) (s : System Bool (UpdateCall kind) kind.Record) : Prop :=
  ∀ side flight, s.flights side = some flight →
    (kind.course zones (calls side).now (calls side).command).prepare (dbs side) =
      .ok flight.prepared

variable {zones calls} {g : UpdateStage kind} {dbs : Bool → Database}

theorem follow_append (schedule rest : Schedule) :
    follow zones calls g (schedule ++ rest) = follow zones calls (follow zones calls g schedule) rest := by
  unfold follow
  rw [List.map_append, Machine.replay_append]

/-- Only a write changes the database. -/
theorem step_db {side : Bool} {phase : CallPhase} (h : phase ≠ .write) :
    (follow zones calls g [(side, phase)]).state.db = g.state.db := by
  cases phase with
  | write => exact absurd rfl h
  | read =>
    change (Interleaving.read (unversionedServices zones kind) g.state side _ _ _).2.db = _
    unfold Interleaving.read
    cases (unversionedServices zones kind).prepare (calls side) g.state.db <;> rfl
  | authorize =>
    change (Interleaving.authorize g.state side).2.db = _
    unfold Interleaving.authorize
    cases g.state.flights side with
    | none => rfl
    | some flight =>
      simp only
      cases g.state.db.policyEngine.require flight.context .update flight.prepared.ref <;> rfl

theorem readsFrom_fly {s : System Bool (UpdateCall kind) kind.Record} {side : Bool}
    {new : Option (Flight (UpdateCall kind) kind.Record)}
    (h : ∀ other flight, other ≠ side → s.flights other = some flight →
      (kind.course zones (calls other).now (calls other).command).prepare (dbs other) =
        .ok flight.prepared)
    (hnew : ∀ flight, new = some flight →
      (kind.course zones (calls side).now (calls side).command).prepare (dbs side) =
        .ok flight.prepared) :
    ReadsFrom zones calls dbs (Interleaving.fly s side new) := by
  intro other flight hflight
  change Function.update s.flights side new other = some flight at hflight
  by_cases hother : other = side
  · subst hother
    rw [Function.update_self] at hflight
    exact hnew flight hflight
  · rw [Function.update_of_ne hother] at hflight
    exact h other flight hother hflight

/-- A read reads the database as it is, whatever its call had read before. -/
theorem readsFrom_read (side : Bool) (h : ReadsFrom zones calls dbs g.state) :
    ReadsFrom zones calls (Function.update dbs side g.state.db)
      (follow zones calls g [(side, .read)]).state := by
  have hothers : ∀ other flight, other ≠ side → g.state.flights other = some flight →
      (kind.course zones (calls other).now (calls other).command).prepare
        (Function.update dbs side g.state.db other) = .ok flight.prepared := by
    intro other flight hother hflight
    rw [Function.update_of_ne hother]
    exact h other flight hflight
  change ReadsFrom zones calls _ (Interleaving.read (unversionedServices zones kind) g.state side
    (calls side) (calls side).now (calls side).context).2
  unfold Interleaving.read
  cases hprepare : (unversionedServices zones kind).prepare (calls side) g.state.db with
  | error e => exact readsFrom_fly hothers (by simp)
  | ok prepared =>
    refine readsFrom_fly hothers fun flight hflight => ?_
    obtain rfl := Option.some.inj hflight
    rw [Function.update_self]
    exact hprepare

theorem readsFrom_authorize {side : Bool} (h : ReadsFrom zones calls dbs g.state) :
    ReadsFrom zones calls dbs (follow zones calls g [(side, .authorize)]).state := by
  change ReadsFrom zones calls dbs (Interleaving.authorize g.state side).2
  unfold Interleaving.authorize
  cases hflight : g.state.flights side with
  | none => exact h
  | some flight =>
    simp only
    cases g.state.db.policyEngine.require flight.context .update flight.prepared.ref with
    | error e => exact readsFrom_fly (fun other f _ => h other f) (by simp)
    | ok authorization =>
      refine readsFrom_fly (fun other f _ => h other f) fun flight' hflight' => ?_
      obtain rfl := Option.some.inj hflight'
      exact h side flight hflight

/-- **A write that goes through** leaves the patch of its call applied to the record that
the call had read, and the other call has read what it had read. -/
theorem write_ok {side : Bool} {op : UpdateCall kind} {authorization : AuthorizedAction}
    {base value : Option kind.Record} (h : ReadsFrom zones calls dbs g.state)
    (hwritten : ((unversionedClients zones kind).exec g.state (.write side)).1 =
      .written op authorization base value) :
    ReadsFrom zones calls dbs (follow zones calls g [(side, .write)]).state ∧
    ∃ before after,
      kind.stored (kind.recordId (calls side).command) (dbs side) = some before ∧
      kind.stored (kind.recordId (calls side).command)
        (follow zones calls g [(side, .write)]).state.db = some after ∧
      (kind.patch (calls side).command).Applied before after := by
  have hstate : (follow zones calls g [(side, .write)]).state =
      ((unversionedClients zones kind).exec g.state (.write side)).2 := rfl
  have hexec : (unversionedClients zones kind).exec g.state (.write side) =
      Interleaving.write (unversionedServices zones kind) g.state side := rfl
  unfold Interleaving.write at hexec
  rw [hstate]
  cases hflight : g.state.flights side with
  | none => rw [hexec, hflight] at hwritten; cases hwritten
  | some flight =>
    rw [hflight] at hexec
    simp only at hexec
    cases hauthorized : flight.authorization with
    | none => rw [hexec, hauthorized] at hwritten; cases hwritten
    | some authorization' =>
      rw [hauthorized] at hexec
      simp only at hexec
      unfold Interleaving.writeFor at hexec
      cases hsave : flight.prepared.save authorization' g.state.db with
      | error e => rw [hexec, hsave] at hwritten; cases hwritten
      | ok out =>
        obtain ⟨u, db'⟩ := out
        rw [hsave] at hexec
        obtain ⟨before, after, hbefore, hafter, happlied⟩ :=
          UnversionedKind.prepare_writes (h side flight hflight) hsave
        rw [hexec]
        exact ⟨readsFrom_fly (s := { g.state with db := db' }) (fun other f _ => h other f) (by simp), before, after, hbefore,
          hafter, happlied⟩

/-- Before the first write every call has read the database as it was. -/
theorem readsFrom_quiet {schedule : Schedule} {db : Database}
    (hquiet : ∀ step ∈ schedule, step.2 ≠ .write) (hdb : g.state.db = db)
    (h : ReadsFrom zones calls (fun _ => db) g.state) :
    (follow zones calls g schedule).state.db = db ∧
      ReadsFrom zones calls (fun _ => db) (follow zones calls g schedule).state := by
  induction schedule generalizing g with
  | nil => exact ⟨hdb, h⟩
  | cons step rest ih =>
    obtain ⟨side, phase⟩ := step
    have hphase : phase ≠ .write := hquiet (side, phase) List.mem_cons_self
    have hstep : ReadsFrom zones calls (fun _ => db) (follow zones calls g [(side, phase)]).state := by
      cases phase with
      | read =>
        have hread := readsFrom_read side h
        rw [hdb, Function.update_eq_self_iff.mpr rfl] at hread
        exact hread
      | authorize => exact readsFrom_authorize h
      | write => exact absurd rfl hphase
    exact ih (fun s hs => hquiet s (List.mem_cons_of_mem _ hs)) ((step_db hphase).trans hdb) hstep

/-- What a run says about a write stands where the write is. -/
theorem succeeded_at {db : Database} {pre post : Schedule} {side : Bool}
    (hpre : (side, CallPhase.write) ∉ pre) (hpost : (side, CallPhase.write) ∉ post)
    (h : Succeeded side (runCalls zones calls db (pre ++ (side, .write) :: post))) :
    ∃ op authorization base value, ((unversionedClients zones kind).exec
      (runCalls zones calls db pre).state (.write side)).1 = .written op authorization base value := by
  obtain ⟨entry, hentry, hcall, op, authorization, base, value, hout⟩ := h
  have hwrite : ∀ schedule : Schedule, (side, CallPhase.write) ∉ schedule →
      SystemCall.write side ∉ schedule.map (stepOf calls) := by
    intro schedule hnot hmem
    obtain ⟨⟨other, phase⟩, hstep, heq⟩ := List.mem_map.mp hmem
    cases phase with
    | read => cases heq
    | authorize => cases heq
    | write =>
      obtain rfl : other = side := SystemCall.write.inj heq
      exact hnot hstep
  unfold runCalls follow at hentry
  rw [Machine.mem_log_replay] at hentry
  rcases hentry with hnone | ⟨pre', call, post', hsplit, rfl⟩
  · cases hnone
  · obtain rfl : call = .write side := hcall
    rw [List.map_append, List.map_cons] at hsplit
    have hcut := (List.append_cons_inj_of_notMem (hwrite pre hpre) (hwrite post hpost)).mp hsplit
    obtain ⟨rfl, -, -⟩ := hcut
    exact ⟨op, authorization, base, value, hout⟩

/-- **When two disjoint updates are both kept.** Two calls update one record, in any
interleaving, and both succeed. The stored record has the values of both in the end
exactly when one call was over before the other began, or the values of the one that
wrote first had been there from the start. -/
theorem both_kept_iff {db : Database} {schedule : Schedule} {id : String}
    (hid : ∀ side, kind.recordId (calls side).command = id)
    (hdisjoint : (kind.patch (calls true).command).Disjoint (kind.patch (calls false).command))
    (hschedule : schedule.Interleaves)
    (hsuccess : ∀ side, Succeeded side (runCalls zones calls db schedule)) :
    (∃ record, kind.stored id (runCalls zones calls db schedule).state.db = some record ∧
      ∀ side, (kind.patch (calls side).command).Carried record) ↔
    schedule.Apart ∨ ∃ side record, schedule.firstWriter = some side ∧
      kind.stored id db = some record ∧ (kind.patch (calls side).command).Carried record := by
  have hboth : ∀ side, (kind.patch (calls side).command).Disjoint
      (kind.patch (calls !side).command) := by
    intro side
    cases side
    · exact hdisjoint.symm
    · exact hdisjoint
  obtain ⟨first, before, rest, hsplit, hfirst, hquiet, hdone, hrest⟩ :=
    Schedule.split_interleaving hschedule
  have hbeforeNot : ∀ side, (side, CallPhase.write) ∉ before := fun side hmem => hquiet _ hmem rfl
  have hrestQuiet : ∀ step ∈ rest.map (Prod.mk !first), step.2 ≠ CallPhase.write := by
    intro step hstep hwrite
    obtain ⟨phase, hphase, rfl⟩ := List.mem_map.mp hstep
    have hmem : phase ∈ Schedule.steps before (!first) ++ rest := List.mem_append_right _ hphase
    rw [hrest, show phase = CallPhase.write from hwrite] at hmem
    exact absurd hmem (by decide)
  have hrestNot : ∀ side, (side, CallPhase.write) ∉ rest.map (Prod.mk !first) :=
    fun side hmem => hrestQuiet _ hmem rfl
  subst hsplit
  -- up to the first write, which its call computed from the record as it was
  obtain ⟨-, hread⟩ : (runCalls zones calls db before).state.db = db ∧
      ReadsFrom zones calls (fun _ => db) (runCalls zones calls db before).state :=
    readsFrom_quiet hquiet rfl fun _ _ h => by cases h
  have hpost : (first, CallPhase.write) ∉ rest.map (Prod.mk !first) ++ [(!first, .write)] := by
    simp
  obtain ⟨op, authorization, base, value, hwritten⟩ :=
    succeeded_at (hbeforeNot first) hpost (hsuccess first)
  obtain ⟨hread, start, middle, hstart, hmiddle, happlied⟩ := write_ok hread hwritten
  rw [hid] at hstart hmiddle
  -- up to the second write
  have hpre : (!first, CallPhase.write) ∉
      before ++ (first, .write) :: rest.map (Prod.mk !first) := by
    intro hmem
    rcases List.mem_append.mp hmem with hmem | hmem
    · exact hbeforeNot _ hmem
    · rcases List.mem_cons.mp hmem with hmem | hmem
      · simp at hmem
      · exact hrestNot _ hmem
  have hschedule' : before ++ (first, .write) :: (rest.map (Prod.mk !first) ++ [(!first, .write)]) =
      (before ++ (first, .write) :: rest.map (Prod.mk !first)) ++ (!first, .write) :: [] := by
    simp
  have hsecond := hsuccess !first
  rw [hschedule'] at hsecond
  obtain ⟨op', authorization', base', value', hwritten'⟩ := succeeded_at hpre (by simp) hsecond
  have hrun : runCalls zones calls db (before ++ (first, .write) :: rest.map (Prod.mk !first)) =
      follow zones calls (follow zones calls (runCalls zones calls db before) [(first, .write)])
        (rest.map (Prod.mk !first)) := by
    unfold runCalls
    rw [follow_append]
    exact follow_append [(first, .write)] _
  have hfinal : runCalls zones calls db (before ++ (first, .write) ::
      (rest.map (Prod.mk !first) ++ [(!first, .write)])) =
      follow zones calls (runCalls zones calls db
        (before ++ (first, .write) :: rest.map (Prod.mk !first))) [(!first, .write)] := by
    rw [hschedule']
    unfold runCalls
    rw [follow_append]
  -- whatever the second call has read, its patch is there in the end
  have hend : ∀ dbs : Bool → Database, ReadsFrom zones calls dbs (runCalls zones calls db
      (before ++ (first, .write) :: rest.map (Prod.mk !first))).state →
      ∀ seen, kind.stored id (dbs !first) = some seen →
      ((∃ record, kind.stored id (runCalls zones calls db (before ++ (first, .write) ::
          (rest.map (Prod.mk !first) ++ [(!first, .write)]))).state.db = some record ∧
        ∀ side, (kind.patch (calls side).command).Carried record) ↔
      (kind.patch (calls first).command).Carried seen) := by
    intro dbs hread seen hseen
    obtain ⟨-, seen', last, hseen', hlast, hpatched⟩ := write_ok hread hwritten'
    rw [hid] at hseen' hlast
    obtain rfl : seen = seen' := Option.some.inj (hseen.symm.trans hseen')
    rw [hfinal, hlast]
    have hkept := hpatched.carried_iff (hboth first)
    constructor
    · rintro ⟨record, hrecord, hcarried⟩
      obtain rfl := Option.some.inj hrecord
      exact hkept.mp (hcarried first)
    · intro hcarried
      refine ⟨last, rfl, fun side => ?_⟩
      by_cases hside : side = first
      · rw [hside]
        exact hkept.mpr hcarried
      · obtain rfl : side = !first := by cases side <;> cases first <;> simp_all
        exact hpatched.carried
  rw [Schedule.apart_iff hquiet hdone hrest, hfirst]
  by_cases hnone : Schedule.steps before (!first) = []
  · -- the second call reads what the first one wrote
    have hrest' : rest = [.read, .authorize] := by
      rw [hnone] at hrest
      exact hrest
    have hfresh : ReadsFrom zones calls (Function.update (fun _ => db) (!first)
        (follow zones calls (runCalls zones calls db before) [(first, .write)]).state.db)
        (runCalls zones calls db (before ++ (first, .write) :: rest.map (Prod.mk !first))).state := by
      rw [hrun, hrest']
      exact readsFrom_authorize (readsFrom_read _ hread)
    rw [hend _ hfresh middle (by rw [Function.update_self]; exact hmiddle)]
    exact ⟨fun _ => .inl hnone, fun _ => happlied.carried⟩
  · -- the second call has read the record as it was
    have hstale : ReadsFrom zones calls (fun _ => db)
        (runCalls zones calls db (before ++ (first, .write) :: rest.map (Prod.mk !first))).state := by
      rw [hrun]
      have hcases : rest = [.authorize] ∨ rest = [] := by
        cases hbefore : Schedule.steps before (!first) with
        | nil => exact absurd hbefore hnone
        | cons phase phases =>
          rw [hbefore] at hrest
          obtain ⟨-, hrest⟩ := List.cons.inj hrest
          cases phases with
          | nil => exact .inl hrest
          | cons phase phases =>
            obtain ⟨-, hrest⟩ := List.cons.inj hrest
            exact .inr (List.append_eq_nil_iff.mp hrest).2
      rcases hcases with rfl | rfl
      · exact readsFrom_authorize hread
      · exact hread
    rw [hend _ hstale start hstart]
    constructor
    · intro hcarried
      exact .inr ⟨first, start, rfl, hstart, hcarried⟩
    · rintro (hapart | ⟨side, record, hside, hrecord, hcarried⟩)
      · exact absurd hapart hnone
      · obtain rfl := Option.some.inj hside
        obtain rfl : start = record := Option.some.inj (hstart.symm.trans hrecord)
        exact hcarried

end Runs

/-! ### Two clients of one important day -/

/-- The zones of a process that knows UTC only. -/
def utcZones : TimeZones where
  lookup key := if key = "UTC" then .found else .missing
  utcoffset _ _ _ := 0
  fromutc _ t := (t, false)

def birthday : Anniversary where
  id := "d1"
  ownerUserId := "alice"
  creatorUserId := "alice"
  title := "birthday"
  anchorDate := ⟨730120, by decide⟩
  timezone := "UTC"

def birthdayStored : Database where
  anniversaries := ⟨[birthday], by simp⟩

def ownerContext : CommandContext where
  actorUserId := "alice"
  actor_nonblank := @rfl Bool false
  sharedOwner_nonblank := CommandContext.noSharedOwner_nonblank
  readable_nonblank := CommandContext.noReadable_nonblank
  readable_nodup := List.nodup_nil

/-- One client changes the title, the other one the advance notice. -/
def birthdayCalls : Bool → UpdateCall .importantDay
  | true => ⟨({ anniversaryId := "d1", title := some "party" } : UpdateAnniversary), 0, ownerContext⟩
  | false => ⟨({ anniversaryId := "d1", advanceDays := some [3] } : UpdateAnniversary), 0, ownerContext⟩

/-- Both read the day before either writes it. -/
def bothRead : Schedule :=
  [(true, .read), (false, .read), (true, .authorize), (false, .authorize), (true, .write),
    (false, .write)]

theorem birthdayCalls_disjoint :
    (UnversionedKind.patch .importantDay (birthdayCalls true).command).Disjoint
      (UnversionedKind.patch .importantDay (birthdayCalls false).command) := by
  intro field
  cases field <;> first | exact .inl rfl | exact .inr rfl

theorem birthdayCalls_succeed (side : Bool) :
    Succeeded side (runCalls utcZones birthdayCalls birthdayStored bothRead) := by
  cases side with
  | true => exact ⟨_, List.mem_cons_of_mem _ List.mem_cons_self, rfl, _, _, _, _, rfl⟩
  | false => exact ⟨_, List.mem_cons_self, rfl, _, _, _, _, rfl⟩

theorem both_kept_iff_birthday :
    (∃ record, UnversionedKind.stored .importantDay "d1"
      (runCalls utcZones birthdayCalls birthdayStored bothRead).state.db = some record ∧
      ∀ side, (UnversionedKind.patch .importantDay (birthdayCalls side).command).Carried record) ↔
    bothRead.Apart ∨ ∃ side record, bothRead.firstWriter = some side ∧
      UnversionedKind.stored .importantDay "d1" birthdayStored = some record ∧
      (UnversionedKind.patch .importantDay (birthdayCalls side).command).Carried record :=
  both_kept_iff (fun side => by cases side <;> rfl) birthdayCalls_disjoint (by decide)
    birthdayCalls_succeed

/-- **The title is lost.** The two calls change different fields of the day and both
succeed, and the stored day has its old title. -/
theorem overlapping_update_loses_title :
    bothRead.Interleaves ∧
    (∀ side, Succeeded side (runCalls utcZones birthdayCalls birthdayStored bothRead)) ∧
    (UnversionedKind.patch .importantDay (birthdayCalls true).command).Disjoint
      (UnversionedKind.patch .importantDay (birthdayCalls false).command) ∧
    ¬ ∃ record, UnversionedKind.stored .importantDay "d1"
      (runCalls utcZones birthdayCalls birthdayStored bothRead).state.db = some record ∧
      ∀ side, (UnversionedKind.patch .importantDay (birthdayCalls side).command).Carried record := by
  refine ⟨by decide, birthdayCalls_succeed, birthdayCalls_disjoint, ?_⟩
  rintro ⟨record, hrecord, hcarried⟩
  have hlast : UnversionedKind.stored .importantDay "d1"
      (runCalls utcZones birthdayCalls birthdayStored bothRead).state.db =
        some ({ birthday with advanceDays := [3] } : Anniversary) := rfl
  rw [hlast] at hrecord
  obtain rfl := Option.some.inj hrecord
  have htitle : "birthday" = "party" := hcarried true .title "party" rfl
  exact absurd htitle (by decide)

end Zhixu
