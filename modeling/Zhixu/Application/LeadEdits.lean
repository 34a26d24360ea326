import Zhixu.Application.PlanCompletion
import Zhixu.Application.PlanPayloads

/-!
# Editing the lead of a reminder plan

While a plan for a reminder waits, its user may choose how long before the reminder it is announced, or
revise the plan. A choice is stored as a moment, worked out from the time of the reminder as it is then
(`_adjust_plan_lead`); a revision replaces arguments by name and leaves that moment alone; and what is
confirmed in the end is announced at the moments that are stored, or by default at the leads that the
owner has set.

`PlanWorld` is the store together with what has been chosen for each plan, which the store does not say:
how long before, and when the reminder was due then. `PlanWorld.Step` is one message, or one thing that
happens elsewhere. `Proper` is the invariant of one plan: its arguments can be written, and they have the
moment of the choice that stands. It is kept by every step (`Step.lawful`).

A confirmation then creates the announcements of the leads that `leads_chosen` and `leads_default`
describe. Those of the defaults come first always, since a decoded time has a fixed offset. The one that
was chosen comes first, at the distance chosen, exactly if it is past, or the time of the reminder is the
one it was chosen for and the distance is not zero (`OnTime`).
-/

open Framework

namespace Zhixu

/-! ### Adjusting -/

/-- `_LEAD_UNITS`. -/
def leadUnits : List (String × Int) := [("分钟", 1), ("小时", 60), ("天", 1440)]

/-- `_lead_delta`. -/
def leadDelta (value : String) : Option Int :=
  let digits := value.toList.takeWhile fun c => (decimalValue c).isSome
  if 1 ≤ digits.length ∧ digits.length ≤ 4 then
    match digitsValue digits,
        Dict.find? leadUnits (String.ofList (value.toList.drop digits.length)) with
    | some number, some unit => some (Duration.minutes (number * unit))
    | _, _ => none
  else none

example : leadDelta "2小时" = some (Duration.minutes 120) ∧ leadDelta "0天" = some 0 ∧
    leadDelta "12345分钟" = none := by decide +kernel

/-- The arguments of `ADJUST_PLAN_LEAD`. -/
structure LeadRequest where
  disable : Bool := false
  lead : String := ""

/-- A lead that has been chosen: how long before, and when the reminder was due then. -/
structure LeadChoice where
  delta : Int
  dueAt : Int

/-- A datetime. The time of a plan has a zone, as its proposal had. -/
def PlanValue.moment : PlanValue → Option DateTime
  | .aware value => some value
  | _ => Option.none

/-- What the assistant works with. -/
structure PlanAssistant where
  engine : RecurrenceEngine
  /-- `router.timezone.key` -/
  timezone : String
  standing : String → Option Int
  validUrl : String → Bool
  coercions : Coercions
  /-- `confidence_threshold` -/
  confidenceThreshold : ℚ
  /-- `str` -/
  str : PlanValue → String
  /-- what a plan that is not for a reminder says is to be done -/
  other : String → String → Option PlanArguments

/-- `bool(value)`. -/
def PlanValue.truthy (coercions : Coercions) : PlanValue → Bool
  | .none => false
  | .bool value => value
  | .int value => value ≠ 0
  | .float text => coercions.nonzero text.toList
  | .str value => value ≠ ""
  | .list items => !items.isEmpty
  | .tuple items => !items.isEmpty
  | .dict entries => !entries.isEmpty
  | _ => true

/-- A link, if it is one. -/
def PlanValue.link : PlanValue → Option ActionLink
  | .actionLink value => some value
  | _ => Option.none

/-- `IntentAction.CREATE_REMINDER`. -/
def createReminderAction : String := "create_reminder"

namespace PlanAssistant

variable (assistant : PlanAssistant)

def zones : TimeZones := assistant.engine.zones

def codec : PlanCodec where
  zones := assistant.zones
  standing := assistant.standing
  validUrl := assistant.validUrl
  coercions := assistant.coercions

/-- `bool(arguments.get(name))`. -/
def flag (arguments : Arguments) (name : String) : Bool :=
  (Dict.find? arguments name).any (PlanValue.truthy assistant.coercions)

/-- The arguments that `_execute` reads for `CREATE_REMINDER`. -/
def reminderArguments (arguments : Arguments) : ReminderArguments where
  title :=
    match Dict.find? arguments "title" with
    | some (.str title) => title
    | some value => if value.truthy assistant.coercions = true then assistant.str value else ""
    | none => ""
  fireAt := (Dict.find? arguments "fire_at").bind PlanValue.moment
  links :=
    if assistant.flag arguments "links" = true then
      match Dict.find? arguments "links" with
      | some (.list items) => items.mapM PlanValue.link
      | some (.tuple items) => items.mapM PlanValue.link
      | _ => none
    else some []
  isPrivate := assistant.flag arguments "private"
  leadAt :=
    match Dict.find? arguments "lead_at" with
    | some (.list chosen) => some (chosen.filterMap PlanValue.moment)
    | _ => none
  noLeads := assistant.flag arguments "no_leads"

/-- Plans are decoded as the codec does. -/
def runtime : PlanRuntime where
  engine := assistant.engine
  timezone := assistant.timezone
  decode action payloadJson :=
    if action = createReminderAction then
      (assistant.codec.readPayload payloadJson).map fun arguments =>
        .createReminder (assistant.reminderArguments arguments)
    else assistant.other action payloadJson

/-- What `_adjust_plan_lead` makes of the arguments of a plan, and what has been chosen then. -/
def adjustLead (request : LeadRequest) (arguments : Arguments) :
    Except PyError (Option (Arguments × Option LeadChoice)) :=
  if request.disable = true then
    .ok (some (Dict.erase (Dict.set arguments "no_leads" (.bool true)) "lead_at", none))
  else if request.lead = "默认" then
    .ok (some (Dict.erase (Dict.erase arguments "no_leads") "lead_at", none))
  else
    match leadDelta request.lead, (Dict.find? arguments "fire_at").bind PlanValue.moment with
    | some delta, some fireAt => do
      let moment ← fireAt.plus (-delta)
      return some (Dict.set (Dict.erase arguments "no_leads") "lead_at" (.list [.aware moment]),
        some ⟨delta, fireAt.instant assistant.zones⟩)
    | _, _ => .ok none

/-- `_adjust_plan_lead`, behind `_execute`: what has been chosen, if the plan is changed. -/
def adjustPlanLead (request : LeadRequest) (planId actorUserId targetRef : String) (now : Instant) :
    Transaction Database PyError (Option (Option LeadChoice)) := fun db => do
  match ← PendingPlanStore.get planId actorUserId targetRef now db with
  | none => return (none, db)
  | some stored =>
    match assistant.codec.readPayload stored.payloadJson with
    | none => return (none, db)
    | some arguments =>
      if stored.action ≠ createReminderAction then return (none, db)
      else
        match ← assistant.adjustLead request arguments with
        | none => return (none, db)
        | some (adjusted, choice) => do
          let (updated, db') ← PendingPlanStore.updatePayload stored.id actorUserId targetRef
            (assistant.codec.payload adjusted) now db
          return (updated.map fun _ => choice, db')

/-- Adjusting the lead of a plan that is found and read. -/
theorem adjustPlanLead_eq {request : LeadRequest} {planId actorUserId targetRef : String}
    {now : Instant} {db : Database} {stored : PendingPlan} {arguments adjusted : Arguments}
    {choice : Option LeadChoice}
    (hget : PendingPlanStore.get planId actorUserId targetRef now db = .ok (some stored))
    (hread : assistant.codec.readPayload stored.payloadJson = some arguments)
    (haction : stored.action = createReminderAction)
    (hadjust : assistant.adjustLead request arguments = .ok (some (adjusted, choice))) :
    assistant.adjustPlanLead request planId actorUserId targetRef now db =
      (PendingPlanStore.updatePayload stored.id actorUserId targetRef
        (assistant.codec.payload adjusted) now db).map fun updated =>
          (updated.1.map fun _ => choice, updated.2) := by
  unfold adjustPlanLead
  rw [hget]
  simp only [bind, Except.bind, hread]
  rw [if_neg (not_not.mpr haction), hadjust]
  rfl

/-! ### Staging and revising -/

/-- `_stage_plan` of a reminder: the plan, unless it is too large. -/
def stagePlan (arguments : Arguments) (actorUserId targetRef : String) (now : Instant)
    (ttl : Duration) (fresh : String) : Transaction Database PyError (Option PendingPlan) := fun db =>
  let payloadJson := assistant.codec.payload arguments
  if 16384 < payloadJson.utf8ByteSize then return (none, db)
  else do
    let (plan, db') ← PendingPlanStore.put actorUserId targetRef createReminderAction payloadJson now
      ttl fresh db
    return (some plan, db')

/-- A request for a reminder, in `handle`. -/
def stageReminder (reading : MessageReading) (proposal : ModelIntentProposal) (isPrivate : Bool)
    (actorUserId targetRef : String) (now : Instant) (ttl : Duration) (fresh : String) :
    Transaction Database PyError (Option PendingPlan) := fun db =>
  match proposal.arguments reading assistant.confidenceThreshold with
  | none => return (none, db)
  | some arguments =>
    if proposal.action ≠ .createReminder then return (none, db)
    else
      assistant.stagePlan
        (if isPrivate = true then Dict.set arguments "private" (.bool true) else arguments)
        actorUserId targetRef now ttl fresh db

/-- A message that revises a plan for a reminder, in `handle`: the plan before and the plan after. -/
def revisePlan (reading : MessageReading) (proposal : ModelIntentProposal)
    (actorUserId targetRef : String) (now : Instant) (ttl : Duration) (fresh : String) :
    Transaction Database PyError (Option (PendingPlan × PendingPlan)) := fun db => do
  match ← PendingPlanStore.current actorUserId targetRef now db with
  | none => return (none, db)
  | some revising =>
    match assistant.codec.readPayload revising.payloadJson,
        proposal.arguments reading assistant.confidenceThreshold with
    | some original, some revised =>
      if revising.action ≠ createReminderAction then return (none, db)
      else do
        -- a proposal of another action is refused, and the plan staged again as it was
        let (plan, db') ← assistant.stagePlan
          (if proposal.action ≠ .createReminder then original else Dict.update original revised)
          actorUserId targetRef now ttl fresh db
        return (plan.map fun plan => (revising, plan), db')
    | _, _ => return (none, db)

/-- Revising a plan that is found and read, with a proposal for a reminder. -/
theorem revisePlan_eq {reading : MessageReading} {proposal : ModelIntentProposal}
    {actorUserId targetRef fresh : String} {now : Instant} {ttl : Duration} {db : Database}
    {revising : PendingPlan} {original revised merged : Arguments}
    (hcurrent : PendingPlanStore.current actorUserId targetRef now db = .ok (some revising))
    (hread : assistant.codec.readPayload revising.payloadJson = some original)
    (hrevised : proposal.arguments reading assistant.confidenceThreshold = some revised)
    (haction : revising.action = createReminderAction) (hkind : proposal.action = .createReminder)
    (hmerged : Dict.update original revised = merged)
    (hsize : ¬ 16384 < (assistant.codec.payload merged).utf8ByteSize) :
    assistant.revisePlan reading proposal actorUserId targetRef now ttl fresh db =
      (PendingPlanStore.put actorUserId targetRef createReminderAction
        (assistant.codec.payload merged) now ttl fresh db).map fun staged =>
          (some (revising, staged.1), staged.2) := by
  unfold revisePlan
  rw [hcurrent]
  simp only [bind, Except.bind, hread, hrevised]
  rw [if_neg (not_not.mpr haction), if_neg (not_not.mpr hkind), hmerged]
  unfold stagePlan
  simp only
  rw [if_neg hsize]
  cases PendingPlanStore.put actorUserId targetRef createReminderAction
    (assistant.codec.payload merged) now ttl fresh db <;> rfl

end PlanAssistant

/-! ### Runs -/

/-- The store, and what has been chosen for each plan. -/
structure PlanWorld where
  db : Database
  chosen : String → Option LeadChoice

namespace PlanWorld

variable (assistant : PlanAssistant)

/-- One message, or what happens elsewhere. A confirmation is `consume`, and what it writes then is
elsewhere, for it leaves the plans alone. -/
inductive Step (world : PlanWorld) : PlanWorld → Prop
  | stage {reading proposal isPrivate actorUserId targetRef now ttl fresh plan db'}
      (typed : proposal.Typed assistant.codec reading)
      (done : assistant.stageReminder reading proposal isPrivate actorUserId targetRef now ttl fresh
        world.db = .ok (some plan, db')) :
      Step world ⟨db', Function.update world.chosen plan.id none⟩
  | adjust {request planId actorUserId targetRef now choice db'}
      (done : assistant.adjustPlanLead request planId actorUserId targetRef now world.db =
        .ok (some choice, db')) :
      Step world ⟨db', Function.update world.chosen planId choice⟩
  | revise {reading proposal actorUserId targetRef now ttl fresh before plan db'}
      (typed : proposal.Typed assistant.codec reading)
      (done : assistant.revisePlan reading proposal actorUserId targetRef now ttl fresh world.db =
        .ok (some (before, plan), db')) :
      Step world ⟨db', Function.update world.chosen plan.id (world.chosen before.id)⟩
  | stageOther {action payloadJson actorUserId targetRef now ttl fresh plan db'}
      (other : action ≠ createReminderAction)
      (done : PendingPlanStore.put actorUserId targetRef action payloadJson now ttl fresh world.db =
        .ok (plan, db')) :
      Step world ⟨db', world.chosen⟩
  | reject {planId now u db'}
      (done : PendingPlanStore.reject planId now world.db = .ok (u, db')) : Step world ⟨db', world.chosen⟩
  | consume {planId now consumed db'}
      (done : PendingPlanStore.consume planId now world.db = .ok (consumed, db')) :
      Step world ⟨db', world.chosen⟩
  | elsewhere {db'} (same : db'.assistantPendingPlans = world.db.assistantPendingPlans) :
      Step world ⟨db', world.chosen⟩

/-- What is reached from a store without open plans. -/
inductive Reachable : PlanWorld → Prop
  | start {db chosen} (closed : ∀ p ∈ db.assistantPendingPlans.rows, p.isOpen = false) :
      Reachable ⟨db, chosen⟩
  | step {world world'} (before : Reachable world) (step : Step assistant world world') :
      Reachable world'

end PlanWorld

/-! ### What a confirmation should create -/

/-- **Advance reminders come first.** Every one that has been added is to fire later than now and before
the reminder that it announces, and if a lead was chosen, just so long before. -/
def AnnouncedAhead (db : Database) (now : Instant) (choice : Option LeadChoice) (db' : Database) :
    Prop :=
  ∀ row ∈ db'.reminders.rows, row ∉ db.reminders.rows → row.relatedKind = some "reminder" →
    ∀ main ∈ db'.reminders.rows, row.relatedId = some main.id →
      (now : Int) < row.fireAt ∧ (row.fireAt : Int) < main.fireAt ∧
        ∀ c ∈ choice, (row.fireAt : Int) = main.fireAt - c.delta

/-- The chosen moment is past, or the lead is not zero and the reminder is due when it was due when the
lead was chosen. -/
def OnTime (zones : TimeZones) (choice : Option LeadChoice) (arguments : ReminderArguments)
    (now : Instant) : Prop :=
  ∀ c ∈ choice, ∀ fireAt ∈ arguments.fireAt,
    c.dueAt - c.delta ≤ now ∨ (0 < c.delta ∧ fireAt.instant zones = c.dueAt)

/-! ### Times with a fixed offset -/

/-- A datetime that has been moved with its fixed offset. -/
structure DateTime.Moved (zones : TimeZones) (value moved : DateTime) (delta : Int) : Prop where
  zone : moved.zone = value.zone
  in_range : Instant.InRange moved.wall
  offset : moved.utcoffset zones = value.utcoffset zones
  instant : moved.instant zones = value.instant zones + delta

theorem DateTime.plus_of_fixed (zones : TimeZones) {value moved : DateTime} {offset : Duration}
    {delta : Int} (hzone : value.zone = .fixed offset) (h : value.plus delta = .ok moved) :
    DateTime.Moved zones value moved delta := by
  obtain ⟨hrange, hmoved⟩ := raiseIf_bind_ok.mp h
  obtain rfl := Except.ok.inj hmoved
  have hoffset : DateTime.utcoffset zones { wall := value.wall + delta, zone := value.zone } =
      value.utcoffset zones := by
    unfold DateTime.utcoffset
    rw [hzone]
  refine ⟨rfl, not_not.mp hrange, hoffset, ?_⟩
  have hlater : ∀ wall delta offset : Int, wall + delta - offset = wall - offset + delta := by
    intro wall delta offset
    omega
  unfold DateTime.instant
  rw [hoffset]
  exact hlater _ _ _

/-- Where one of them has a fixed offset, and the other is in UTC, instants are compared. -/
theorem DateTime.lt_ofInstant (zones : TimeZones) {value : DateTime} {offset : Duration}
    (hzone : value.zone = .fixed offset) (now : Instant) :
    (DateTime.ofInstant now).lt zones value = true ↔ (now : Int) < value.instant zones := by
  have hvalue : value.instant zones = value.wall - offset := by
    unfold DateTime.instant DateTime.utcoffset
    rw [hzone]
  have hnow : (DateTime.ofInstant now).instant zones = now := sub_zero (now : Int)
  unfold DateTime.lt
  split_ifs with hsame
  · rw [decide_eq_true_eq, hvalue]
    have hzero : (Zone.fixed 0) = .fixed offset := hsame.trans hzone
    obtain rfl := Zone.fixed.inj hzero
    change (now : Int) < value.wall ↔ (now : Int) < value.wall - 0
    rw [sub_zero]
  · rw [decide_eq_true_eq, hnow]

/-! ### The arguments of a plan -/

/-- **The arguments of a plan** under the choice that stands. -/
structure Proper (codec : PlanCodec) (arguments : Arguments) (choice : Option LeadChoice) : Prop where
  writable : codec.Writable arguments
  due : ∀ value, Dict.find? arguments "fire_at" = some value → ∃ fireAt, value = .aware fireAt
  unchosen : choice = none → Dict.find? arguments "lead_at" = none
  chosen : ∀ c, choice = some c → ∃ moment : DateTime,
    Dict.find? arguments "lead_at" = some (.list [.aware moment]) ∧
      moment.instant codec.zones = c.dueAt - c.delta

namespace Proper

variable {codec : PlanCodec} {arguments : Arguments} {choice : Option LeadChoice}

/-- What survives is proper. -/
theorem kept (h : Proper codec arguments choice) : Proper codec (codec.kept arguments) choice := by
  refine ⟨h.writable.kept, fun value hvalue => ?_, fun hnone => ?_, fun c hc => ?_⟩
  · rw [PlanCodec.find?_kept] at hvalue
    obtain ⟨before, hbefore, rfl⟩ := Option.map_eq_some_iff.mp hvalue
    obtain ⟨fireAt, rfl⟩ := h.due before hbefore
    exact ⟨_, rfl⟩
  · rw [PlanCodec.find?_kept, h.unchosen hnone]
    rfl
  · obtain ⟨moment, hfound, hinstant⟩ := h.chosen c hc
    refine ⟨{ wall := moment.wall, zone := .fixed (moment.utcoffset codec.zones) }, ?_, hinstant⟩
    rw [PlanCodec.find?_kept, hfound]
    rfl

/-- A time that has been read has a fixed offset. -/
theorem fixed_of_kept (h : Proper codec arguments choice) {fireAt : DateTime}
    (hfound : Dict.find? (codec.kept arguments) "fire_at" = some (.aware fireAt)) :
    ∃ offset, fireAt.zone = .fixed offset := by
  rw [PlanCodec.find?_kept] at hfound
  obtain ⟨before, hbefore, hstored⟩ := Option.map_eq_some_iff.mp hfound
  obtain ⟨moment, rfl⟩ := h.due before hbefore
  obtain rfl := PlanValue.aware.inj hstored
  exact ⟨_, rfl⟩

/-- Another argument is set. -/
theorem set (h : Proper codec arguments choice) {name : String} {value : PlanValue}
    (hname : name ≠ "$type" ∧ name ≠ "fire_at" ∧ name ≠ "lead_at") (hvalue : codec.Storable value) :
    Proper codec (Dict.set arguments name value) choice := by
  obtain ⟨htype, hfire, hlead⟩ := hname
  refine ⟨h.writable.set htype hvalue, fun value hfound => ?_, fun hnone => ?_, fun c hc => ?_⟩
  · rw [Dict.find?_set, if_neg hfire] at hfound
    exact h.due value hfound
  · rw [Dict.find?_set, if_neg hlead]
    exact h.unchosen hnone
  · obtain ⟨moment, hfound, hinstant⟩ := h.chosen c hc
    refine ⟨moment, ?_, hinstant⟩
    rw [Dict.find?_set, if_neg hlead]
    exact hfound

/-- Another argument is taken out. -/
theorem erase (h : Proper codec arguments choice) {name : String}
    (hname : name ≠ "fire_at" ∧ name ≠ "lead_at") : Proper codec (Dict.erase arguments name) choice := by
  obtain ⟨hfire, hlead⟩ := hname
  refine ⟨h.writable.erase name, fun value hfound => ?_, fun hnone => ?_, fun c hc => ?_⟩
  · rw [Dict.find?_erase, if_neg hfire] at hfound
    exact h.due value hfound
  · rw [Dict.find?_erase, if_neg hlead]
    exact h.unchosen hnone
  · obtain ⟨moment, hfound, hinstant⟩ := h.chosen c hc
    refine ⟨moment, ?_, hinstant⟩
    rw [Dict.find?_erase, if_neg hlead]
    exact hfound

/-- The moment is taken out, and with it the choice. -/
theorem forget (h : Proper codec arguments choice) :
    Proper codec (Dict.erase arguments "lead_at") none := by
  refine ⟨h.writable.erase _, fun value hfound => ?_, fun _ => ?_, fun c hc => nomatch hc⟩
  · rw [Dict.find?_erase, if_neg (by decide)] at hfound
    exact h.due value hfound
  · rw [Dict.find?_erase, if_pos rfl]

/-- A moment is chosen. -/
theorem choose (h : Proper codec arguments choice) {moment : DateTime} {c : LeadChoice}
    (hexists : DateTime.Exists codec.zones moment)
    (hinstant : moment.instant codec.zones = c.dueAt - c.delta) :
    Proper codec (Dict.set arguments "lead_at" (.list [.aware moment])) (some c) := by
  have hstorable : codec.Storable (.list [.aware moment]) :=
    .list (List.forall_mem_singleton.mpr (.aware hexists.in_range hexists.offset_fits))
  refine ⟨h.writable.set (by decide) hstorable, fun value hfound => ?_, fun hnone => (nomatch hnone),
    fun c' hc' => ?_⟩
  · rw [Dict.find?_set, if_neg (by decide)] at hfound
    exact h.due value hfound
  · obtain rfl := Option.some.inj hc'
    refine ⟨moment, ?_, hinstant⟩
    rw [Dict.find?_set, if_pos rfl]

end Proper

/-- What the arguments of a proposal say of the time and the leads of a reminder. -/
theorem ModelIntentProposal.find?_arguments {reading : MessageReading} {proposal : ModelIntentProposal} :
    Dict.find? (Dict.present (proposal.entries reading)) "fire_at" = proposal.fireAt.map .aware ∧
      Dict.find? (Dict.present (proposal.entries reading)) "lead_at" = none := by
  have hnodup : ((proposal.entries reading).map Prod.fst).Nodup := by
    rw [names_entries]
    decide
  constructor
  · rw [Dict.find?_present hnodup]
    rfl
  · rw [Dict.find?_present hnodup]
    rfl

theorem ModelIntentProposal.arguments_eq {reading : MessageReading} {proposal : ModelIntentProposal}
    {confidenceThreshold : ℚ} {arguments : Arguments}
    (h : proposal.arguments reading confidenceThreshold = some arguments) :
    arguments = Dict.present (proposal.entries reading) := by
  unfold ModelIntentProposal.arguments at h
  split_ifs at h
  exact (Option.some.inj h).symm

/-- The arguments of a request. -/
theorem Proper.fresh {codec : PlanCodec} {reading : MessageReading} {proposal : ModelIntentProposal}
    (h : proposal.Typed codec reading) :
    Proper codec (Dict.present (proposal.entries reading)) none := by
  obtain ⟨hfire, hlead⟩ := @ModelIntentProposal.find?_arguments reading proposal
  refine ⟨h.writable, fun value hfound => ?_, fun _ => hlead, fun c hc => nomatch hc⟩
  rw [hfire] at hfound
  obtain ⟨fireAt, -, rfl⟩ := Option.map_eq_some_iff.mp hfound
  exact ⟨fireAt, rfl⟩

/-- A revision leaves the choice. -/
theorem Proper.revised {codec : PlanCodec} {arguments : Arguments} {choice : Option LeadChoice}
    {reading : MessageReading} {proposal : ModelIntentProposal} (h : Proper codec arguments choice)
    (htyped : proposal.Typed codec reading) :
    Proper codec (Dict.update arguments (Dict.present (proposal.entries reading))) choice := by
  obtain ⟨hfire, hlead⟩ := @ModelIntentProposal.find?_arguments reading proposal
  have hfind := @Dict.find?_update String PlanValue _ arguments _ htyped.writable.distinct
  refine ⟨h.writable.update htyped.writable, fun value hfound => ?_, fun hnone => ?_, fun c hc => ?_⟩
  · rw [hfind, hfire] at hfound
    cases hproposed : proposal.fireAt with
    | none =>
      rw [hproposed] at hfound
      exact h.due value hfound
    | some fireAt =>
      rw [hproposed] at hfound
      exact ⟨fireAt, (Option.some.inj hfound).symm⟩
  · rw [hfind, hlead]
    exact h.unchosen hnone
  · obtain ⟨moment, hfound, hinstant⟩ := h.chosen c hc
    refine ⟨moment, ?_, hinstant⟩
    rw [hfind, hlead]
    exact hfound

/-- **Adjusting the lead** of a plan that has been read. -/
theorem Proper.adjusted {assistant : PlanAssistant} {arguments adjusted : Arguments}
    {choice choice' : Option LeadChoice} {request : LeadRequest}
    (h : Proper assistant.codec arguments choice)
    (hadjusted : assistant.adjustLead request (assistant.codec.kept arguments) =
      .ok (some (adjusted, choice'))) : Proper assistant.codec adjusted choice' := by
  have hkept := h.kept
  unfold PlanAssistant.adjustLead at hadjusted
  by_cases hdisable : request.disable = true
  · rw [if_pos hdisable] at hadjusted
    obtain ⟨rfl, rfl⟩ := Prod.mk.inj (Option.some.inj (Except.ok.inj hadjusted))
    exact (hkept.set (by decide) (.bool true)).forget
  rw [if_neg hdisable] at hadjusted
  by_cases hdefault : request.lead = "默认"
  · rw [if_pos hdefault] at hadjusted
    obtain ⟨rfl, rfl⟩ := Prod.mk.inj (Option.some.inj (Except.ok.inj hadjusted))
    exact (hkept.erase (by decide)).forget
  rw [if_neg hdefault] at hadjusted
  split at hadjusted
  · rename_i delta fireAt hdelta hfire
    obtain ⟨moment, hplus, hrest⟩ := bind_eq_ok.mp hadjusted
    obtain ⟨rfl, rfl⟩ := Prod.mk.inj (Option.some.inj (Except.ok.inj hrest))
    obtain ⟨value, hvalue, hmoment⟩ := Option.bind_eq_some_iff.mp hfire
    obtain ⟨fireAt', rfl⟩ := hkept.due value hvalue
    obtain rfl : fireAt' = fireAt := Option.some.inj hmoment
    obtain ⟨offset, hzone⟩ := h.fixed_of_kept hvalue
    have hmoved := DateTime.plus_of_fixed assistant.zones hzone hplus
    have hfits : |fireAt'.utcoffset assistant.zones| < 86400000000 := by
      have hstorable := hkept.writable.all _ (Dict.mem_of_find? hvalue)
      cases hstorable with
      | aware _ offset_fits => exact offset_fits
    refine (hkept.erase (by decide)).choose ⟨hmoved.in_range, ?_⟩ ?_
    · rw [← hmoved.offset] at hfits
      exact hfits
    · exact hmoved.instant
  · cases hadjusted

/-! ### Steps -/

/-- A plan that is open after a `put` is the new one, or was there. -/
theorem PendingPlanStore.open_after_put {actorUserId targetRef action payloadJson fresh : String}
    {now : Instant} {ttl : Duration} {db db' : Database} {plan q : PendingPlan}
    (h : put actorUserId targetRef action payloadJson now ttl fresh db = .ok (plan, db'))
    (hq : q ∈ db'.assistantPendingPlans.rows) (hopen : q.isOpen = true) :
    q = plan ∨ (q ∈ db.assistantPendingPlans.rows ∧ q.id ≠ plan.id) := by
  obtain ⟨-, plans, hinsert, rfl⟩ := put_ok h
  change q ∈ plans.rows at hq
  have hrows := Table.rows_insert hinsert
  have hplan : plan ∈ plans.rows := by
    rw [hrows]
    exact List.mem_append_right _ (List.mem_singleton_self plan)
  by_cases hsame : q.id = plan.id
  · exact .inl (plans.eq_of_key_eq hq hplan hsame)
  · refine .inr ⟨?_, hsame⟩
    rw [hrows] at hq
    rcases List.mem_append.mp hq with hold | hnew
    · obtain ⟨p, hp, rfl⟩ := List.mem_map.mp hold
      -- what was open in the conversation is closed now
      by_cases hselected : openIn actorUserId targetRef p = true
      · rw [if_pos hselected] at hopen
        cases hopen
      · rw [if_neg hselected]
        exact hp
    · exact absurd (congrArg PendingPlan.id (List.mem_singleton.mp hnew)) hsame

namespace PlanWorld

variable {assistant : PlanAssistant} {world : PlanWorld}

/-- **The open plans for reminders are proper.** -/
def Lawful (assistant : PlanAssistant) (world : PlanWorld) : Prop :=
  ∀ p ∈ world.db.assistantPendingPlans.rows, p.isOpen = true → p.action = createReminderAction →
    ∃ arguments, p.payloadJson = assistant.codec.payload arguments ∧
      Proper assistant.codec arguments (world.chosen p.id)

/-- A new plan. -/
theorem Lawful.put (h : Lawful assistant world) {actorUserId targetRef action payloadJson fresh : String}
    {now : Instant} {ttl : Duration} {db' : Database} {plan : PendingPlan}
    (hput : PendingPlanStore.put actorUserId targetRef action payloadJson now ttl fresh world.db =
      .ok (plan, db')) (choice : Option LeadChoice)
    (hproper : action = createReminderAction → ∃ arguments,
      payloadJson = assistant.codec.payload arguments ∧ Proper assistant.codec arguments choice) :
    Lawful assistant ⟨db', Function.update world.chosen plan.id choice⟩ := by
  intro q hq hopen haction
  rcases PendingPlanStore.open_after_put hput hq hopen with rfl | ⟨hold, hne⟩
  · obtain ⟨arguments, hwritten, harguments⟩ := hproper (by
      obtain ⟨rfl, -⟩ := PendingPlanStore.put_ok hput
      exact haction)
    refine ⟨arguments, ?_, ?_⟩
    · obtain ⟨rfl, -⟩ := PendingPlanStore.put_ok hput
      exact hwritten
    · change Proper assistant.codec arguments (Function.update world.chosen q.id choice q.id)
      rw [Function.update_self]
      exact harguments
  · change ∃ arguments, _ ∧ Proper assistant.codec arguments
      (Function.update world.chosen plan.id choice q.id)
    rw [Function.update_of_ne hne]
    exact h q hold hopen haction

/-- Plans that are only closed, or marked, or left alone. -/
theorem Lawful.spared (h : Lawful assistant world) {db' : Database}
    (hspared : ∀ q ∈ db'.assistantPendingPlans.rows, q.isOpen = true →
      ∃ p ∈ world.db.assistantPendingPlans.rows, p.isOpen = true ∧ p.id = q.id ∧
        p.action = q.action ∧ p.payloadJson = q.payloadJson) :
    Lawful assistant ⟨db', world.chosen⟩ := by
  intro q hq hopen haction
  obtain ⟨p, hp, hpopen, hid, hsame, hpayload⟩ := hspared q hq hopen
  obtain ⟨arguments, hwritten, hproper⟩ := h p hp hpopen (hsame.trans haction)
  refine ⟨arguments, hpayload.symm.trans hwritten, ?_⟩
  rw [← hid]
  exact hproper

/-- What `_stage_plan` stages. -/
theorem Lawful.staged (h : Lawful assistant world) {arguments : Arguments}
    {actorUserId targetRef fresh : String} {now : Instant} {ttl : Duration} {db' : Database}
    {plan : PendingPlan} {choice : Option LeadChoice}
    (hstaged : assistant.stagePlan arguments actorUserId targetRef now ttl fresh world.db =
      .ok (some plan, db')) (hproper : Proper assistant.codec arguments choice) :
    Lawful assistant ⟨db', Function.update world.chosen plan.id choice⟩ := by
  unfold PlanAssistant.stagePlan at hstaged
  simp only at hstaged
  split_ifs at hstaged
  · exact nomatch (Prod.mk.inj (Except.ok.inj hstaged)).1
  · obtain ⟨⟨put, db₁⟩, hput, hrest⟩ := bind_eq_ok.mp hstaged
    obtain ⟨hplan, rfl⟩ := Prod.mk.inj (Except.ok.inj hrest)
    obtain rfl := Option.some.inj hplan
    exact h.put hput choice fun _ => ⟨arguments, rfl, hproper⟩

/-- A plan that has been found, as it is read. -/
theorem Lawful.read (h : Lawful assistant world) {plan : PendingPlan} {arguments : Arguments}
    (hmem : plan ∈ world.db.assistantPendingPlans.rows) (hopen : plan.isOpen = true)
    (haction : plan.action = createReminderAction)
    (hread : assistant.codec.readPayload plan.payloadJson = some arguments) :
    ∃ written, arguments = assistant.codec.kept written ∧
      Proper assistant.codec written (world.chosen plan.id) := by
  obtain ⟨written, hpayload, hproper⟩ := h plan hmem hopen haction
  rw [hpayload, PlanCodec.readPayload_payload hproper.writable] at hread
  exact ⟨written, (Option.some.inj hread).symm, hproper⟩

theorem Lawful.adjusted (h : Lawful assistant world) {request : LeadRequest}
    {planId actorUserId targetRef : String} {now : Instant} {choice : Option LeadChoice}
    {db' : Database}
    (hdone : assistant.adjustPlanLead request planId actorUserId targetRef now world.db =
      .ok (some choice, db')) :
    Lawful assistant ⟨db', Function.update world.chosen planId choice⟩ := by
  unfold PlanAssistant.adjustPlanLead at hdone
  obtain ⟨found, hget, hdone⟩ := bind_eq_ok.mp hdone
  cases found with
  | none => exact nomatch (Prod.mk.inj (Except.ok.inj hdone)).1
  | some stored =>
    obtain ⟨hid, hreadable⟩ := PendingPlanStore.get_ok hget
    simp only at hdone
    split at hdone
    · exact nomatch (Prod.mk.inj (Except.ok.inj hdone)).1
    · rename_i arguments hread
      split_ifs at hdone with haction
      · exact nomatch (Prod.mk.inj (Except.ok.inj hdone)).1
      obtain ⟨written, rfl, hproper⟩ :=
        h.read hreadable.stored hreadable.isOpen (not_not.mp haction) hread
      obtain ⟨outcome, hadjust, hdone⟩ := bind_eq_ok.mp hdone
      cases outcome with
      | none => exact nomatch (Prod.mk.inj (Except.ok.inj hdone)).1
      | some adjustment =>
        obtain ⟨adjusted, choice'⟩ := adjustment
        obtain ⟨⟨updated, db₁⟩, hupdate, hdone⟩ := bind_eq_ok.mp hdone
        obtain ⟨hchoice, rfl⟩ := Prod.mk.inj (Except.ok.inj hdone)
        obtain ⟨_, hupdated, rfl⟩ := Option.map_eq_some_iff.mp hchoice
        have hadjusted := hproper.adjusted hadjust
        rcases PendingPlanStore.updatePayload_ok hupdate with ⟨hnone, -⟩ | ⟨p, hfind, hwritable, -, rfl⟩
        · rw [hnone] at hupdated
          cases hupdated
        rw [hid] at hfind hwritable
        intro q hq hopen hqaction
        obtain ⟨r, hr, rfl⟩ := List.mem_map.mp hq
        by_cases hsame : r.id = planId
        · -- the row of the plan is the one that has been changed
          have hrow : r = p := Table.eq_of_key_eq _ hr (Table.mem_of_find? hfind)
            (hsame.trans (Table.key_of_find? hfind).symm)
          subst hrow
          rw [hid, if_pos hwritable]
          refine ⟨adjusted, rfl, ?_⟩
          change Proper assistant.codec adjusted (Function.update world.chosen planId choice' r.id)
          rw [hsame, Function.update_self]
          exact hadjusted
        · have hother : PendingPlanStore.writable planId actorUserId targetRef now r = false := by
            unfold PendingPlanStore.writable
            rw [decide_eq_false hsame]
            rfl
          rw [hid, hother] at hopen hqaction ⊢
          obtain ⟨arguments, hwritten, harguments⟩ := h r hr hopen hqaction
          refine ⟨arguments, hwritten, ?_⟩
          change Proper assistant.codec arguments (Function.update world.chosen planId choice' r.id)
          rw [Function.update_of_ne hsame]
          exact harguments

theorem Lawful.revised (h : Lawful assistant world) {reading : MessageReading}
    {proposal : ModelIntentProposal} {actorUserId targetRef fresh : String} {now : Instant}
    {ttl : Duration} {before plan : PendingPlan} {db' : Database}
    (htyped : proposal.Typed assistant.codec reading)
    (hdone : assistant.revisePlan reading proposal actorUserId targetRef now ttl fresh world.db =
      .ok (some (before, plan), db')) :
    Lawful assistant ⟨db', Function.update world.chosen plan.id (world.chosen before.id)⟩ := by
  unfold PlanAssistant.revisePlan at hdone
  obtain ⟨found, hcurrent, hdone⟩ := bind_eq_ok.mp hdone
  cases found with
  | none => exact nomatch (Prod.mk.inj (Except.ok.inj hdone)).1
  | some revising =>
    have hreadable := PendingPlanStore.current_ok hcurrent
    simp only at hdone
    split at hdone
    · rename_i original revised hread hrevised
      by_cases haction : revising.action ≠ createReminderAction
      · rw [if_pos haction] at hdone
        exact nomatch (Prod.mk.inj (Except.ok.inj hdone)).1
      rw [if_neg haction] at hdone
      obtain ⟨⟨staged, db₁⟩, hstaged, hrest⟩ := bind_eq_ok.mp hdone
      obtain ⟨hplans, rfl⟩ := Prod.mk.inj (Except.ok.inj hrest)
      obtain ⟨_, rfl, hpair⟩ := Option.map_eq_some_iff.mp hplans
      obtain ⟨rfl, rfl⟩ := Prod.mk.inj hpair
      obtain ⟨written, rfl, hproper⟩ :=
        h.read hreadable.stored hreadable.isOpen (not_not.mp haction) hread
      obtain rfl := ModelIntentProposal.arguments_eq hrevised
      refine h.staged hstaged ?_
      split_ifs
      · exact hproper.kept
      · exact hproper.kept.revised htyped
    · exact nomatch (Prod.mk.inj (Except.ok.inj hdone)).1

/-- **A step keeps the open plans proper.** -/
theorem Step.lawful {world' : PlanWorld} (hstep : Step assistant world world')
    (h : Lawful assistant world) : Lawful assistant world' := by
  cases hstep with
  | @stage reading proposal isPrivate actorUserId targetRef now ttl fresh plan db' typed done =>
    unfold PlanAssistant.stageReminder at done
    split at done
    · exact nomatch (Prod.mk.inj (Except.ok.inj done)).1
    · rename_i arguments harguments
      by_cases haction : proposal.action ≠ .createReminder
      · rw [if_pos haction] at done
        exact nomatch (Prod.mk.inj (Except.ok.inj done)).1
      rw [if_neg haction] at done
      obtain rfl := ModelIntentProposal.arguments_eq harguments
      refine h.staged done ?_
      split_ifs
      · exact (Proper.fresh typed).set (by decide) (.bool true)
      · exact Proper.fresh typed
  | adjust done => exact h.adjusted done
  | revise typed done => exact h.revised typed done
  | @stageOther _ _ _ _ _ _ _ plan db' other done =>
    have hput := h.put done (world.chosen plan.id) fun haction => absurd haction other
    rw [Function.update_eq_self] at hput
    exact hput
  | reject done =>
    obtain rfl := PendingPlanStore.reject_ok done
    refine h.spared fun q hq hopen => ?_
    obtain ⟨p, hp, rfl⟩ := List.mem_map.mp hq
    split_ifs at hopen ⊢ with hselected
    · -- only what is pending is marked for a revision
      simp only [Bool.and_eq_true, decide_eq_true_eq] at hselected
      have hpending : p.isOpen = true := by
        unfold PendingPlan.isOpen
        rw [hselected.2.1]
        rfl
      exact ⟨p, hp, hpending, rfl, rfl, rfl⟩
    · exact ⟨p, hp, hopen, rfl, rfl, rfl⟩
  | consume done =>
    obtain ⟨-, rfl⟩ := PendingPlanStore.consume_ok done
    refine h.spared fun q hq hopen => ?_
    obtain ⟨p, hp, rfl⟩ := List.mem_map.mp hq
    split_ifs at hopen ⊢ with hselected
    · cases hopen
    · exact ⟨p, hp, hopen, rfl, rfl, rfl⟩
  | @elsewhere db' same =>
    refine h.spared fun q hq hopen => ⟨q, ?_, hopen, rfl, rfl, rfl⟩
    rw [same] at hq
    exact hq

theorem Reachable.lawful (h : Reachable assistant world) : Lawful assistant world := by
  induction h with
  | start closed =>
    intro p hp hopen
    rw [closed p hp] at hopen
    cases hopen
  | step _ hstep ih => exact hstep.lawful ih

end PlanWorld

/-! ### The leads of a confirmation -/

/-- **Leads come first**, and at the distance that was chosen. -/
def LeadsAhead (zones : TimeZones) (now : Instant) (fireAt : DateTime) (choice : Option LeadChoice)
    (leads : List DateTime) : Prop :=
  ∀ moment ∈ leads, (now : Int) < moment.instant zones ∧ moment.instant zones < fireAt.instant zones ∧
    ∀ c ∈ choice, moment.instant zones = fireAt.instant zones - c.delta

/-- Default leads come first. -/
theorem leads_default {zones : TimeZones} {fireAt : DateTime} {offset : Duration}
    (hzone : fireAt.zone = .fixed offset) {now : Instant} {context : CommandContext} {db : Database}
    {leads : List DateTime} (h : reminderLeadTimes zones fireAt now context db = .ok leads) :
    LeadsAhead zones now fireAt none leads := by
  unfold reminderLeadTimes at h
  split_ifs at h
  · obtain rfl := Except.ok.inj h
    exact fun _ hnil => nomatch hnil
  · obtain ⟨moments, hmoments, hfiltered⟩ := bind_eq_ok.mp h
    obtain rfl := Except.ok.inj hfiltered
    intro moment hmoment
    obtain ⟨hmem, hlater⟩ := List.mem_filter.mp hmoment
    obtain ⟨i, hplace⟩ := List.mem_iff_getElem?.mp hmem
    obtain ⟨minutes, hminutes, hplus⟩ := (mapM_get hmoments i).2 moment hplace
    have hmoved := DateTime.plus_of_fixed zones hzone hplus
    obtain ⟨-, hpositive⟩ := List.mem_filter.mp (List.mem_of_getElem? hminutes)
    refine ⟨?_, ?_, fun c hc => nomatch hc⟩
    · exact (DateTime.lt_ofInstant zones (hmoved.zone.trans hzone) now).mp hlater
    · have hpos : 0 < minutes := of_decide_eq_true hpositive
      rw [hmoved.instant]
      unfold Duration.minutes
      omega

section Confirmation

variable {assistant : PlanAssistant} {written : Arguments} {choice : Option LeadChoice}
  {context : CommandContext} {now : Instant} {db : Database} {fireAt : DateTime}
  {leads : List DateTime}

/-- The time of a plan that has been read. -/
theorem Proper.fixed_fireAt (h : Proper assistant.codec written choice)
    (hfire : (assistant.reminderArguments (assistant.codec.kept written)).fireAt = some fireAt) :
    ∃ offset, fireAt.zone = .fixed offset := by
  obtain ⟨value, hvalue, hmoment⟩ := Option.bind_eq_some_iff.mp hfire
  obtain ⟨moment, rfl⟩ := h.kept.due value hvalue
  obtain rfl := Option.some.inj hmoment
  exact h.fixed_of_kept hvalue

/-- **The lead that was chosen** is announced unless it is past. -/
theorem leads_chosen {c : LeadChoice} (h : Proper assistant.codec written (some c))
    (hleads : assistant.runtime.reminderLeads (assistant.reminderArguments (assistant.codec.kept written))
      fireAt now context db = .ok leads) :
    ∃ moment : DateTime, moment.instant assistant.zones = c.dueAt - c.delta ∧
      ∀ lead, lead ∈ leads ↔ lead = moment ∧ (now : Int) < moment.instant assistant.zones := by
  obtain ⟨before, hfound, hinstant⟩ := h.chosen c rfl
  have hstored : Dict.find? (assistant.codec.kept written) "lead_at" =
      some (.list [.aware { wall := before.wall, zone := .fixed (before.utcoffset assistant.zones) }]) := by
    rw [PlanCodec.find?_kept, hfound]
    rfl
  refine ⟨{ wall := before.wall, zone := .fixed (before.utcoffset assistant.zones) }, hinstant, ?_⟩
  intro lead
  have hlead : (assistant.reminderArguments (assistant.codec.kept written)).leadAt =
      some [{ wall := before.wall, zone := .fixed (before.utcoffset assistant.zones) }] := by
    unfold PlanAssistant.reminderArguments
    simp only [hstored]
    rfl
  unfold PlanRuntime.reminderLeads at hleads
  rw [hlead] at hleads
  obtain rfl := Except.ok.inj hleads
  rw [List.mem_filter, List.mem_singleton]
  constructor
  · rintro ⟨rfl, hlater⟩
    exact ⟨rfl, (DateTime.lt_ofInstant assistant.zones rfl now).mp hlater⟩
  · rintro ⟨rfl, hlater⟩
    exact ⟨rfl, (DateTime.lt_ofInstant assistant.zones rfl now).mpr hlater⟩

/-- **The leads of a confirmation come first** if what was chosen is on time. -/
theorem leads_ahead (h : Proper assistant.codec written choice)
    (hfire : (assistant.reminderArguments (assistant.codec.kept written)).fireAt = some fireAt)
    (hontime : OnTime assistant.zones choice
      (assistant.reminderArguments (assistant.codec.kept written)) now)
    (hleads : assistant.runtime.reminderLeads (assistant.reminderArguments (assistant.codec.kept written))
      fireAt now context db = .ok leads) :
    LeadsAhead assistant.zones now fireAt choice leads := by
  cases choice with
  | none =>
    have hunchosen : (assistant.reminderArguments (assistant.codec.kept written)).leadAt = none := by
      unfold PlanAssistant.reminderArguments
      simp only [h.kept.unchosen rfl]
    obtain ⟨offset, hzone⟩ := h.fixed_fireAt hfire
    unfold PlanRuntime.reminderLeads at hleads
    rw [hunchosen] at hleads
    simp only at hleads
    split_ifs at hleads
    · obtain rfl := Except.ok.inj hleads
      exact fun _ hnil => absurd hnil List.not_mem_nil
    · exact leads_default hzone hleads
  | some c =>
    obtain ⟨moment, hinstant, hmem⟩ := leads_chosen h hleads
    intro lead hlead
    obtain ⟨rfl, hlater⟩ := (hmem lead).mp hlead
    rcases hontime c rfl fireAt hfire with hpast | ⟨hpositive, hsame⟩
    · rw [hinstant] at hlater
      exact absurd hlater (not_lt.mpr hpast)
    · refine ⟨hlater, ?_, fun c' hc' => ?_⟩
      · rw [hinstant, hsame]
        omega
      · obtain rfl := Option.some.inj hc'
        rw [hinstant, hsame]

end Confirmation

/-! ### What a confirmation creates -/

namespace PlanRuntime

variable {runtime : PlanRuntime} {planId targetRef : String} {context : CommandContext}
  {now : Instant} {draws : ℕ → Draw} {db db' : Database} {plan : PendingPlan}

/-- A confirmation stops before the plan is accepted, or behind that. -/
theorem stopped_confirmPlan {G : Database → Prop} {arguments : PlanArguments}
    (h : runtime.Found planId targetRef context now db plan arguments) (hbefore : G db)
    (hbehind : Process.Stopped G
      (runtime.execute draws targetRef { context with confirmed := true } arguments)
      (accepting planId db)) :
    Process.Stopped G (runtime.confirmPlan planId targetRef context now draws) db := by
  unfold confirmPlan
  rw [if_neg h.target]
  refine (Process.stopped_bind _ _ db).mpr ⟨?_, fun found db₁ hfound => ?_⟩
  · unfold Process.query
    exact (Process.stopped_once _ db).mpr ⟨hbefore, hbefore⟩
  unfold Process.query at hfound
  rw [Process.effect_once, Effect.exec_query, h.stored] at hfound
  obtain ⟨hplan, rfl⟩ := Prod.mk.inj hfound
  obtain rfl := Except.ok.inj hplan
  refine (Process.stopped_bind _ _ db).mpr ⟨?_, fun consumed db₁ hconsumed => ?_⟩
  · unfold Process.atomically
    refine (Process.stopped_once _ db).mpr ⟨hbefore, ?_⟩
    rw [Effect.exec_atomically, StateT.run, exec_consume h.stored]
    exact hbehind.start
  · unfold Process.atomically at hconsumed
    rw [Process.effect_once, Effect.exec_atomically, StateT.run, exec_consume h.stored] at hconsumed
    obtain ⟨hyes, rfl⟩ := Prod.mk.inj hconsumed
    obtain rfl := Except.ok.inj hyes
    rw [if_neg (by decide)]
    simp only [h.decoded]
    exact hbehind

/-- The reminder of a plan has been added, and some of those that announce it. -/
def SomeAdded (runtime : PlanRuntime) (context : CommandContext) (main : Reminder)
    (command : DateTime → CreateReminder) (leads : List DateTime) (db db' : Database) : Prop :=
  ∃ rest, db'.reminders.rows = db.reminders.rows ++ main :: rest ∧
    ∀ row ∈ rest, ∃ moment ∈ leads, (command moment).IsRow runtime.zones context row

/-- One pass of the loop over the leads. -/
theorem stopped_announceAhead {command : DateTime → CreateReminder} {leads : List DateTime}
    {main : Reminder} {lead : DateTime × ℕ} (hlead : lead.1 ∈ leads) {s : Database}
    (h : SomeAdded runtime context main command leads db s) :
    Process.Stopped (SomeAdded runtime context main command leads db)
      (runtime.announceAhead draws context command lead) s := by
  unfold announceAhead
  refine (Process.stopped_bind_pure _ _ s).mpr ((Process.stopped_once _ s).mpr ⟨h, ?_⟩)
  rcases hcreate : (createReminder runtime.zones (draws (lead.2 + 1)).newId (command lead.1)
      (draws (lead.2 + 1)).now context).exec s with ⟨e | row, s'⟩
  · rcases createReminder_cases runtime.zones (draws (lead.2 + 1)).newId (command lead.1)
      (draws (lead.2 + 1)).now context s with ⟨_, hsame⟩ | ⟨_, _, hok, -⟩
    · rw [hcreate] at hsame
      obtain ⟨-, rfl⟩ := Prod.mk.inj hsame
      exact h
    · rw [hcreate] at hok
      exact absurd (Prod.mk.inj hok).1 (by simp)
  · obtain ⟨hrow, his, -, -⟩ := reminder_added hcreate
    obtain ⟨rest, hrest, hall⟩ := h
    refine ⟨rest ++ [row], ?_, ?_⟩
    · rw [hrow, hrest, List.append_assoc, List.cons_append]
    · intro other hother
      rcases List.mem_append.mp hother with hold | hnew
      · exact hall other hold
      · obtain rfl := List.mem_singleton.mp hnew
        exact ⟨lead.1, hlead, his⟩

variable (runtime targetRef context draws db) in
/-- **Wherever the carrying out of a reminder plan stops**, nothing has been added, or the reminder
and some of those that announce it. -/
theorem stopped_executeReminder (arguments : ReminderArguments) :
    Process.Stopped (fun db' => db'.reminders.rows = db.reminders.rows ∨
        ∃ fireAt links main leads, arguments.fireAt = some fireAt ∧
          (mainCommand arguments fireAt links targetRef).IsRow runtime.zones context main ∧
          (leads = [] ∨
            ∃ db₁, runtime.reminderLeads arguments fireAt (draws 0).now context db₁ = .ok leads) ∧
          SomeAdded runtime context main (advanceCommand arguments fireAt links targetRef main.id)
            leads db db')
      (runtime.executeReminder draws arguments targetRef context) db := by
  unfold executeReminder
  cases hfire : arguments.fireAt with
  | none => exact (Process.stopped_pure _ db).mpr (.inl rfl)
  | some fireAt =>
    cases hlinks : arguments.links with
    | none => exact (Process.stopped_pure _ db).mpr (.inl rfl)
    | some links =>
      simp only
      split_ifs
      · exact (Process.stopped_pure _ db).mpr (.inl rfl)
      refine (Process.stopped_bind _ _ db).mpr
        ⟨(Process.stopped_once _ db).mpr ⟨.inl rfl, ?_⟩, fun main db₁ hmain => ?_⟩
      · rcases hcreate : (createReminder runtime.zones (draws 0).newId
          (mainCommand arguments fireAt links targetRef) (draws 0).now context).exec db with
          ⟨e | main, db₁⟩
        · rcases createReminder_cases runtime.zones (draws 0).newId
            (mainCommand arguments fireAt links targetRef) (draws 0).now context db with
            ⟨_, hsame⟩ | ⟨_, _, hok, -⟩
          · rw [hcreate] at hsame
            obtain ⟨-, rfl⟩ := Prod.mk.inj hsame
            exact .inl rfl
          · rw [hcreate] at hok
            exact absurd (Prod.mk.inj hok).1 (by simp)
        · obtain ⟨hrow, his, -, -⟩ := reminder_added hcreate
          exact .inr ⟨fireAt, links, main, [], rfl, his, .inl rfl, [], hrow,
            fun _ hnil => nomatch hnil⟩
      · obtain ⟨hrow, his, -, -⟩ := reminder_added hmain
        have hadded : ∀ leads, SomeAdded runtime context main
            (advanceCommand arguments fireAt links targetRef main.id) leads db db₁ :=
          fun leads => ⟨[], hrow, fun _ hnil => nomatch hnil⟩
        refine (Process.stopped_bind _ _ db₁).mpr ⟨?_, fun leads db₂ hread => ?_⟩
        · unfold Process.query
          refine (Process.stopped_once _ db₁).mpr (and_self_iff.mpr ?_)
          exact .inr ⟨fireAt, links, main, [], rfl, his, .inl rfl, hadded []⟩
        unfold Process.query at hread
        rw [Process.effect_once, Effect.exec_query] at hread
        obtain ⟨hleads, rfl⟩ := Prod.mk.inj hread
        refine (Process.stopped_bind_pure _ _ db₁).mpr fun n => ?_
        refine .inr ⟨fireAt, links, main, leads, rfl, his, .inr ⟨db₁, hleads⟩, ?_⟩
        exact Process.stopped_forEach (G := SomeAdded runtime context main
          (advanceCommand arguments fireAt links targetRef main.id) leads db)
          (fun lead hlead s h => stopped_announceAhead (List.fst_mem_of_mem_zipIdx hlead) h)
          (hadded leads) n

/-- Reminders that announce another one, at leads that come first. -/
theorem announcedAhead_of_added {arguments : ReminderArguments} {fireAt : DateTime}
    {links : List ActionLink} {main : Reminder} {leads : List DateTime} {choice : Option LeadChoice}
    (hmain : (mainCommand arguments fireAt links targetRef).IsRow runtime.zones context main)
    (hadded : SomeAdded runtime context main
      (advanceCommand arguments fireAt links targetRef main.id) leads db db')
    (hahead : LeadsAhead runtime.zones now fireAt choice leads) :
    AnnouncedAhead db now choice db' := by
  intro row hrow hnew hkind other hother hid
  obtain ⟨rest, hrows, hall⟩ := hadded
  have hmem : main ∈ db'.reminders.rows := by
    rw [hrows]
    exact List.mem_append_right _ (List.mem_cons_self ..)
  obtain ⟨_, hmainrow⟩ := hmain
  rw [hrows] at hrow
  rcases List.mem_append.mp hrow with hold | hadded
  · exact absurd hold hnew
  rcases List.mem_cons.mp hadded with rfl | hrest
  · rw [hmainrow] at hkind
    cases hkind
  · obtain ⟨moment, hmoment, _, hadvance⟩ := hall row hrest
    have hnamed : row.relatedId = some main.id := by
      rw [hadvance]
      rfl
    have hsame : other = main :=
      db'.reminders.eq_of_key_eq hother hmem (Option.some.inj (hid.symm.trans hnamed))
    have hfires : row.fireAt = moment.instant runtime.zones := by
      rw [hadvance]
      rfl
    have hdue : main.fireAt = fireAt.instant runtime.zones := by
      rw [hmainrow]
      rfl
    rw [hsame, hfires, hdue]
    exact hahead moment hmoment

/-- What a confirmation that comes to its end has added. -/
theorem added_of_created {arguments : ReminderArguments} {fireAt : DateTime}
    (hfire : arguments.fireAt = some fireAt)
    (h : (runtime.executeReminder draws arguments targetRef context).effect.exec db =
      (.ok .created, db')) :
    ∃ links main rest leads, db'.reminders.rows = db.reminders.rows ++ main :: rest ∧
      (mainCommand arguments fireAt links targetRef).IsRow runtime.zones context main ∧
      runtime.reminderLeads arguments fireAt (draws 0).now context db = .ok leads ∧
      ∀ moment ∈ leads, ∃ row ∈ rest,
        (advanceCommand arguments fireAt links targetRef main.id moment).IsRow runtime.zones context
          row := by
  cases hlinks : arguments.links with
  | none =>
    unfold executeReminder at h
    rw [hfire, hlinks] at h
    exact absurd (Prod.mk.inj h).1 (by simp)
  | some links =>
    obtain ⟨⟨main, rest, leads, hrows, hmain, hleads, hall⟩, -⟩ :=
      remindersAdded_of_created hfire hlinks h
    refine ⟨links, main, rest, leads, hrows, hmain, hleads, fun moment hmoment => ?_⟩
    clear hrows hleads
    induction hall with
    | nil => cases hmoment
    | @cons lead row _ rest hfirst _ ih =>
      rcases List.mem_cons.mp hmoment with rfl | hlater
      · exact ⟨row, List.mem_cons_self .., hfirst⟩
      · obtain ⟨other, hother, his⟩ := ih hlater
        exact ⟨other, List.mem_cons_of_mem _ hother, his⟩

end PlanRuntime

/-- A plan for a reminder that has been found. -/
theorem PlanWorld.Lawful.found {assistant : PlanAssistant} {world : PlanWorld}
    (h : PlanWorld.Lawful assistant world) {planId targetRef : String} {context : CommandContext}
    {now : Instant} {plan : PendingPlan} {arguments : ReminderArguments}
    (hfound : assistant.runtime.Found planId targetRef context now world.db plan
      (.createReminder arguments)) (haction : plan.action = createReminderAction) :
    ∃ written, arguments = assistant.reminderArguments (assistant.codec.kept written) ∧
      Proper assistant.codec written (world.chosen planId) := by
  obtain ⟨hid, hreadable⟩ := PendingPlanStore.get_ok hfound.stored
  have hdecoded := hfound.decoded
  unfold PlanAssistant.runtime at hdecoded
  simp only at hdecoded
  rw [if_pos haction] at hdecoded
  obtain ⟨read, hread, hcreate⟩ := Option.map_eq_some_iff.mp hdecoded
  obtain ⟨written, rfl, hproper⟩ := h.read hreadable.stored hreadable.isOpen haction hread
  rw [hid] at hproper
  exact ⟨written, (PlanArguments.createReminder.inj hcreate).symm, hproper⟩

/-- **Advance reminders come first** in every confirmation of a plan whose chosen lead is on time,
wherever it stops, and in no other confirmation that comes to its end. -/
theorem announcedAhead_iff (assistant : PlanAssistant) {world : PlanWorld}
    (hreach : PlanWorld.Reachable assistant world) {planId targetRef : String}
    {context : CommandContext} {now : Instant} {draws : ℕ → Draw} {plan : PendingPlan}
    {arguments : ReminderArguments}
    (hfound : assistant.runtime.Found planId targetRef context now world.db plan
      (.createReminder arguments)) (haction : plan.action = createReminderAction) :
    (OnTime assistant.zones (world.chosen planId) arguments (draws 0).now →
        Process.Stopped (AnnouncedAhead world.db (draws 0).now (world.chosen planId))
          (assistant.runtime.confirmPlan planId targetRef context now draws) world.db) ∧
      ∀ db', (assistant.runtime.confirmPlan planId targetRef context now draws).effect.exec world.db =
          (.ok .created, db') →
        (AnnouncedAhead world.db (draws 0).now (world.chosen planId) db' ↔
          OnTime assistant.zones (world.chosen planId) arguments (draws 0).now) := by
  obtain ⟨written, rfl, hproper⟩ := hreach.lawful.found hfound haction
  have hstopped (hontime : OnTime assistant.zones (world.chosen planId)
      (assistant.reminderArguments (assistant.codec.kept written)) (draws 0).now) :
      Process.Stopped (AnnouncedAhead world.db (draws 0).now (world.chosen planId))
        (assistant.runtime.confirmPlan planId targetRef context now draws) world.db := by
    have hsame : ∀ db' : Database, db'.reminders.rows = world.db.reminders.rows →
        AnnouncedAhead world.db (draws 0).now (world.chosen planId) db' := by
      intro db' hrows row hrow hnew
      rw [hrows] at hrow
      exact absurd hrow hnew
    refine PlanRuntime.stopped_confirmPlan hfound (hsame _ rfl) fun n => ?_
    rcases PlanRuntime.stopped_executeReminder assistant.runtime targetRef
      { context with confirmed := true } draws (PlanRuntime.accepting planId world.db)
      (assistant.reminderArguments (assistant.codec.kept written)) n with hrows | ⟨fireAt, links, main, leads, hfire, hmain, hleads, hadded⟩
    · exact hsame _ hrows
    · refine PlanRuntime.announcedAhead_of_added hmain hadded ?_
      rcases hleads with rfl | ⟨db₁, hleads⟩
      · exact fun _ hnil => nomatch hnil
      · exact leads_ahead hproper hfire hontime hleads
  refine ⟨hstopped, fun db' hexec => ⟨fun hahead c hc fireAt hfire => ?_, fun hontime => ?_⟩⟩
  · by_cases hpast : c.dueAt - c.delta ≤ (draws 0).now
    · exact .inl hpast
    have hlater : ((draws 0).now : Int) < c.dueAt - c.delta := not_le.mp hpast
    rw [PlanRuntime.exec_confirmPlan hfound] at hexec
    obtain ⟨links, main, rest, leads, hrows, ⟨_, hmain⟩, hleads, hall⟩ :=
      PlanRuntime.added_of_created hfire hexec
    rw [hc] at hproper
    obtain ⟨moment, hinstant, hmem⟩ := leads_chosen hproper hleads
    -- the moment that was chosen is still to come, so it is announced
    obtain ⟨row, hrow, _, hadvance⟩ := hall moment ((hmem moment).mpr ⟨rfl, hinstant ▸ hlater⟩)
    have hold : row ∉ world.db.reminders.rows := by
      intro hmem
      have hnodup := db'.reminders.nodup
      rw [hrows, List.map_append] at hnodup
      exact (List.nodup_append.mp hnodup).2.2 _ (List.mem_map.mpr ⟨row, hmem, rfl⟩) _
        (List.mem_map.mpr ⟨row, List.mem_cons_of_mem _ hrow, rfl⟩) rfl
    have hthere : ∀ added ∈ main :: rest, added ∈ db'.reminders.rows := by
      intro added hadded
      rw [hrows]
      exact List.mem_append_right _ hadded
    obtain ⟨-, hbefore, hdistance⟩ := hahead row (hthere row (List.mem_cons_of_mem _ hrow)) hold
      (by rw [hadvance]; rfl) main (hthere main (List.mem_cons_self ..)) (by rw [hadvance]; rfl)
    have hfires : row.fireAt = moment.instant assistant.zones := by
      rw [hadvance]
      rfl
    have hdue : main.fireAt = fireAt.instant assistant.zones := by
      rw [hmain]
      rfl
    have hchosen : c.dueAt - c.delta = fireAt.instant assistant.zones - c.delta := by
      rw [← hinstant, ← hfires, ← hdue]
      exact hdistance c hc
    have hfirst : c.dueAt - c.delta < fireAt.instant assistant.zones := by
      rw [← hinstant, ← hfires, ← hdue]
      exact hbefore
    exact .inr ⟨by omega, by omega⟩
  · have hfinish := (hstopped hontime).finish
    rw [hexec] at hfinish
    exact hfinish

/-! ### A call that is moved

A call at noon is to be announced an hour before, and is then moved to half past ten. -/

def callAssistant : PlanAssistant where
  engine := utcOnly
  timezone := "UTC"
  standing _ := none
  validUrl _ := true
  coercions := PlanCodec.utcCodec.coercions
  confidenceThreshold := 4 / 5
  str _ := ""
  other _ _ := none

def callReading : MessageReading := { redactedText := "打电话" }

/-- A call at a minute of the first day. -/
def callAt (minute : Int) : ModelIntentProposal where
  action := .createReminder
  confidence := 1
  title := some "Call"
  fireAt := some (.ofInstant (Duration.minutes minute))

/-- The arguments of a call, and those that say when it is announced. -/
def callArguments (minute : Int) (announced : List (String × PlanValue)) : Arguments :=
  [("title", .str "Call"), ("fire_at", .aware (.ofInstant (Duration.minutes minute))),
    ("kind", .str "anniversary"), ("calendar", .str "solar"), ("lunar_leap", .bool false),
    ("include_in_daily_briefing", .bool false)] ++ announced

/-- Announced at eleven. -/
def atEleven : List (String × PlanValue) :=
  [("lead_at", .list [.aware (.ofInstant (Duration.minutes 660))])]

theorem callAt_arguments (minute : Int) :
    (callAt minute).arguments callReading callAssistant.confidenceThreshold =
      some (callArguments minute []) := by
  have hsure : ¬ (callAt minute).confidence < callAssistant.confidenceThreshold := by
    change ¬ (1 : ℚ) < 4 / 5
    norm_num
  have hbriefing : callReading.briefing = false := by decide +kernel
  unfold ModelIntentProposal.arguments
  rw [if_neg hsure]
  unfold ModelIntentProposal.entries MessageReading.dropsNotifications
  rw [hbriefing]
  rfl

theorem callAt_typed {minute : Int} (h : Instant.InRange (Duration.minutes minute)) :
    (callAt minute).Typed callAssistant.codec callReading where
  fireAt := by
    rintro _ ⟨⟩
    refine ⟨h, ?_⟩
    change |(0 : Int)| < 86400000000
    decide
  dueAt _ h := nomatch h
  startAt _ h := nomatch h
  endAt _ h := nomatch h
  anchorDate _ h := nomatch h
  briefingTime _ h := nomatch h
  notifications _ h := nomatch h
  links _ h := nomatch h

theorem callArguments_writable {minute : Int} (h : Instant.InRange (Duration.minutes minute)) :
    callAssistant.codec.Writable (callArguments minute atEleven) := by
  have hwritable := (callAt_typed h).writable
  rw [← ModelIntentProposal.arguments_eq (callAt_arguments minute)] at hwritable
  have heleven : callAssistant.codec.Storable
      (.list [.aware (.ofInstant (Duration.minutes 660))]) :=
    .list (List.forall_mem_singleton.mpr (.aware (by decide) (by decide)))
  have hset := @PlanCodec.Writable.set callAssistant.codec _ hwritable "lead_at" _ (by decide) heleven
  exact hset

/-- The plan of a call. -/
def callPlan (id : String) (createdAt : Instant) (arguments : Arguments) : PendingPlan where
  id := id
  actorUserId := "alice"
  targetRef := "qq:alice"
  action := createReminderAction
  payloadJson := callAssistant.codec.payload arguments
  state := .pending
  createdAt := createdAt
  expiresAt := createdAt + Duration.minutes 30

/-- Alice, and her plan. -/
def callStore (plan : Option PendingPlan) : Database where
  users := .single ⟨"alice", "Alice", true⟩
  assistantPendingPlans := (plan.map Table.single).getD ∅

/-- Alice asks for a call at noon. -/
def callAsked : PlanWorld :=
  ⟨callStore (some (callPlan "plan_noon" (Duration.minutes 1) (callArguments 720 []))),
    Function.update (fun _ => none) "plan_noon" none⟩

/-- She chooses an hour before. -/
def callChosen : PlanWorld :=
  ⟨callStore (some (callPlan "plan_noon" (Duration.minutes 1) (callArguments 720 atEleven))),
    Function.update callAsked.chosen "plan_noon" (some ⟨Duration.minutes 60, Duration.minutes 720⟩)⟩

/-- A payload is kept as it is: its only times are in UTC. -/
theorem readPayload_call {minute : Int} (h : Instant.InRange (Duration.minutes minute)) :
    callAssistant.codec.readPayload (callAssistant.codec.payload (callArguments minute [])) =
        some (callArguments minute []) ∧
      callAssistant.codec.readPayload (callAssistant.codec.payload (callArguments minute atEleven)) =
        some (callArguments minute atEleven) := by
  have hwritable := (callAt_typed h).writable
  rw [← ModelIntentProposal.arguments_eq (callAt_arguments minute)] at hwritable
  exact ⟨PlanCodec.readPayload_payload hwritable,
    PlanCodec.readPayload_payload (callArguments_writable h)⟩

theorem callAsked_reachable : PlanWorld.Reachable callAssistant callAsked := by
  refine @PlanWorld.Reachable.step callAssistant ⟨callStore none, fun _ => none⟩ _
    (.start fun p hp => nomatch hp) ?_
  refine @PlanWorld.Step.stage callAssistant _ callReading (callAt 720) false "alice" "qq:alice"
    (Duration.minutes 1) (Duration.minutes 30) "noon"
    (callPlan "plan_noon" (Duration.minutes 1) (callArguments 720 [])) _ (callAt_typed (by decide)) ?_
  have hsize : ¬ 16384 < (callAssistant.codec.payload (callArguments 720 [])).utf8ByteSize := by
    decide +kernel
  unfold PlanAssistant.stageReminder
  rw [callAt_arguments]
  simp only
  rw [if_neg (by decide), if_neg (by decide)]
  unfold PlanAssistant.stagePlan
  simp only
  rw [if_neg hsize]
  rfl

theorem callChosen_reachable : PlanWorld.Reachable callAssistant callChosen := by
  refine .step callAsked_reachable ?_
  refine @PlanWorld.Step.adjust callAssistant _ { lead := "1小时" } "plan_noon" "alice" "qq:alice"
    (Duration.minutes 2) (some ⟨Duration.minutes 60, Duration.minutes 720⟩) _ ?_
  have hdelta : leadDelta "1小时" = some (Duration.minutes 60) := by decide +kernel
  have hget : PendingPlanStore.get "plan_noon" "alice" "qq:alice" (Duration.minutes 2) callAsked.db =
      .ok (some (callPlan "plan_noon" (Duration.minutes 1) (callArguments 720 []))) := rfl
  have hadjust : callAssistant.adjustLead { lead := "1小时" } (callArguments 720 []) =
      .ok (some (callArguments 720 atEleven, some ⟨Duration.minutes 60, Duration.minutes 720⟩)) := by
    unfold PlanAssistant.adjustLead
    rw [if_neg (by decide), if_neg (by decide), hdelta]
    rfl
  refine (callAssistant.adjustPlanLead_eq hget (readPayload_call (by decide)).1 rfl hadjust).trans ?_
  rfl

/-- What a confirmation of the plan reads. -/
def callRead (minute : Int) : ReminderArguments where
  title := "Call"
  fireAt := some (.ofInstant (Duration.minutes minute))
  leadAt := some [.ofInstant (Duration.minutes 660)]

theorem callRead_eq (minute : Int) :
    callAssistant.reminderArguments (callArguments minute atEleven) = callRead minute := rfl

theorem call_found {world : PlanWorld} {planId : String} {createdAt now : Instant} {minute : Int}
    (hrange : Instant.InRange (Duration.minutes minute))
    (h : PendingPlanStore.get planId "alice" "qq:alice" now world.db =
      .ok (some (callPlan planId createdAt (callArguments minute atEleven)))) :
    callAssistant.runtime.Found planId "qq:alice" aliceInPrivate now world.db
      (callPlan planId createdAt (callArguments minute atEleven)) (.createReminder (callRead minute)) := by
  refine ⟨by decide, h, ?_⟩
  unfold PlanAssistant.runtime callPlan
  simp only
  rw [if_pos trivial, (readPayload_call hrange).2, Option.map_some, callRead_eq]

theorem callChosen_found : callAssistant.runtime.Found "plan_noon" "qq:alice" aliceInPrivate
    (Duration.minutes 3) callChosen.db
    (callPlan "plan_noon" (Duration.minutes 1) (callArguments 720 atEleven))
    (.createReminder (callRead 720)) := call_found (by decide) rfl

theorem callChosen_onTime : OnTime callAssistant.zones (callChosen.chosen "plan_noon") (callRead 720)
    (noonDraws 0).now := by
  intro c hc fireAt hfire
  obtain rfl := Option.some.inj hc
  obtain rfl := Option.some.inj hfire
  exact .inr ⟨by decide, by decide⟩

/-- The call at noon is announced an hour before. -/
theorem call_announced :
    Process.Stopped (AnnouncedAhead callChosen.db (noonDraws 0).now (callChosen.chosen "plan_noon"))
      (callAssistant.runtime.confirmPlan "plan_noon" "qq:alice" aliceInPrivate (Duration.minutes 3)
        noonDraws) callChosen.db :=
  (announcedAhead_iff callAssistant callChosen_reachable callChosen_found rfl).1 callChosen_onTime

/-- She moves the call to half past ten. -/
def callMoved : PlanWorld :=
  ⟨{ callChosen.db with
      assistantPendingPlans := ⟨[{ callPlan "plan_noon" (Duration.minutes 1) (callArguments 720 atEleven) with
          state := .accepted },
        callPlan "plan_moved" (Duration.minutes 3) (callArguments 630 atEleven)], by decide⟩ },
    Function.update callChosen.chosen "plan_moved" (callChosen.chosen "plan_noon")⟩

theorem callMoved_reachable : PlanWorld.Reachable callAssistant callMoved := by
  refine .step callChosen_reachable ?_
  refine @PlanWorld.Step.revise callAssistant _ callReading (callAt 630) "alice" "qq:alice"
    (Duration.minutes 3) (Duration.minutes 30) "moved"
    (callPlan "plan_noon" (Duration.minutes 1) (callArguments 720 atEleven))
    (callPlan "plan_moved" (Duration.minutes 3) (callArguments 630 atEleven)) _
    (callAt_typed (by decide)) ?_
  have hsize : ¬ 16384 < (callAssistant.codec.payload (callArguments 630 atEleven)).utf8ByteSize := by
    decide +kernel
  have hmerged : Dict.update (callArguments 720 atEleven) (callArguments 630 []) =
      callArguments 630 atEleven := rfl
  have hcurrent : PendingPlanStore.current "alice" "qq:alice" (Duration.minutes 3) callChosen.db =
      .ok (some (callPlan "plan_noon" (Duration.minutes 1) (callArguments 720 atEleven))) := rfl
  refine (callAssistant.revisePlan_eq hcurrent (readPayload_call (by decide)).2
    (callAt_arguments 630) rfl rfl hmerged hsize).trans ?_
  rfl

theorem callMoved_found : callAssistant.runtime.Found "plan_moved" "qq:alice" aliceInPrivate
    (Duration.minutes 4) callMoved.db
    (callPlan "plan_moved" (Duration.minutes 3) (callArguments 630 atEleven))
    (.createReminder (callRead 630)) := call_found (by decide) rfl

/-- The call at half past ten is announced at eleven. -/
theorem call_announced_late :
    PlanWorld.Reachable callAssistant callMoved ∧
      callAssistant.runtime.Found "plan_moved" "qq:alice" aliceInPrivate (Duration.minutes 4) callMoved.db
        (callPlan "plan_moved" (Duration.minutes 3) (callArguments 630 atEleven))
        (.createReminder (callRead 630)) ∧
      ¬ Process.Stopped (AnnouncedAhead callMoved.db (noonDraws 0).now (callMoved.chosen "plan_moved"))
        (callAssistant.runtime.confirmPlan "plan_moved" "qq:alice" aliceInPrivate (Duration.minutes 4)
          noonDraws) callMoved.db := by
  refine ⟨callMoved_reachable, callMoved_found, fun hstopped => ?_⟩
  have hfinish := hstopped.finish
  rw [PlanRuntime.exec_confirmPlan callMoved_found] at hfinish
  revert hfinish
  generalize hfinal : ((callAssistant.runtime.execute noonDraws "qq:alice"
    { aliceInPrivate with confirmed := true } (.createReminder (callRead 630))).effect.exec
      (PlanRuntime.accepting "plan_moved" callMoved.db)).2 = final
  intro hahead
  have hlead : (final.reminders.find? "reminder_eleven").map
      (fun a => (a.relatedKind, a.relatedId, a.fireAt)) =
        some (some "reminder", some "reminder_noon", Duration.minutes 660) := by
    rw [← hfinal]
    decide +kernel
  have hmain : (final.reminders.find? "reminder_noon").map Reminder.fireAt =
      some (Duration.minutes 630) := by
    rw [← hfinal]
    decide +kernel
  obtain ⟨lead, hlead, hfields⟩ := Option.map_eq_some_iff.mp hlead
  obtain ⟨hkind, hrest⟩ := Prod.mk.inj hfields
  obtain ⟨hid, hfires⟩ := Prod.mk.inj hrest
  obtain ⟨main, hmain, hdue⟩ := Option.map_eq_some_iff.mp hmain
  have hnamed : lead.relatedId = some main.id := by
    rw [hid, Table.key_of_find? hmain]
  obtain ⟨-, hbefore, -⟩ := hahead lead (Table.mem_of_find? hlead) (by simp [callMoved, callChosen, callStore])
    hkind main (Table.mem_of_find? hmain) hnamed
  rw [hfires, hdue] at hbefore
  exact absurd hbefore (by decide)

end Zhixu
