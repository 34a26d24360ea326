import Zhixu.Framework.Calendar
import Zhixu.Framework.Machine
import Zhixu.Storage.Database
import Mathlib.Tactic.Ring

/-!
# Budgets of the language model

`SQLiteLLMUsage`: a call is reserved before the model is asked, and its result is recorded afterwards.
`reserve` reads the usage of the current window of every limit, and when none is used up it charges
one call and the estimated input to each and writes an event. `record_result` finalizes the event and
adds the output to the windows that are current *then*.

A usage is exact when it is the sum over the events that were reserved in its window (`Accounted`).
`accounted_iff` is about both operations: a step keeps all usages exact if and only if it is `Kept`.
A reservation is, when its limits name each kind of window once, so that it is charged once to its
day and once to its month; and a completion is, when it has no output or comes in the day and the
month of its reservation. From there the statement about whole runs is the rule
`Machine.forall_prefix_iff_follows`.

The sums are over the rows of the event table. `total_map` and `total_append` say what becomes of a
sum when a row is rewritten and when one is added, which is all the two operations do.
-/

open Framework

namespace Zhixu

/-- `_window_start`. -/
def budgetWindowStart (now : Instant) : BudgetWindow → Instant
  | .day => Wall.midnight (Wall.ordinal now)
  | .month =>
    let date := Calendar.civil (Wall.ordinal now)
    Wall.midnight (Calendar.toOrdinal date.1 date.2.1 1)

structure LlmBudgetLimit where
  windowKind : BudgetWindow
  calls : Int
  inputUnits : Int
  outputUnits : Int
deriving DecidableEq, Repr

/-- The arguments of `reserve`. -/
structure ReserveCall where
  ownerUserId : String
  modelRef : String
  reason : LlmCallReason
  estimatedInputUnits : Int
  limits : List LlmBudgetLimit
deriving DecidableEq, Repr

/-- The arguments of `record_result`. -/
structure RecordResult where
  callId : ℕ
  ownerUserId : String
  modelRef : String
  /-- `reserved` stands for every text that is no outcome -/
  outcome : LlmCallOutcome
  inputUnits : Int
  outputUnits : Int
  cachedInputUnits : Int
deriving DecidableEq, Repr

namespace LlmUsageStore

/-- The primary key of a usage: its owner, model, kind of window and beginning. -/
abbrev WindowKey := String × String × BudgetWindow × Instant

/-- The usage of a window, as a row with nothing in it when there is none. -/
def usageOf (db : Database) (key : WindowKey) : LlmUsage :=
  (db.llmUsage.find? key).getD
    { ownerUserId := key.1, modelRef := key.2.1, windowKind := key.2.2.1, windowStart := key.2.2.2,
      calls := 0, inputUnits := 0, outputUnits := 0 }

/-- The window of a limit that is current for a call. -/
def limitKey (now : Instant) (call : ReserveCall) (limit : LlmBudgetLimit) : WindowKey :=
  (call.ownerUserId, call.modelRef, limit.windowKind, budgetWindowStart now limit.windowKind)

/-- A limit that one more call would break. -/
def usedUp (db : Database) (now : Instant) (call : ReserveCall) (limit : LlmBudgetLimit) : Bool :=
  let usage := usageOf db (limitKey now call limit)
  decide (usage.calls + 1 > limit.calls ∨
    usage.inputUnits + call.estimatedInputUnits > limit.inputUnits ∨
    usage.outputUnits ≥ limit.outputUnits)

/-- `INSERT INTO llm_usage … ON CONFLICT … DO UPDATE SET calls=calls+1,…`. -/
def charge (now : Instant) (call : ReserveCall) (db : Database) (limit : LlmBudgetLimit) :
    Database :=
  { db with
    llmUsage := db.llmUsage.upsert
      { ownerUserId := call.ownerUserId
        modelRef := call.modelRef
        windowKind := limit.windowKind
        windowStart := budgetWindowStart now limit.windowKind
        calls := 1
        inputUnits := call.estimatedInputUnits
        outputUnits := 0 }
      fun row => { row with
        calls := row.calls + 1
        inputUnits := row.inputUnits + call.estimatedInputUnits } }

/-- `AUTOINCREMENT`: no event is ever deleted. -/
def nextCallId (db : Database) : ℕ :=
  (db.llmCallEvents.rows.map LlmCallEvent.id).foldr max 0 + 1

/-- The event of a reservation. -/
def reservedEvent (id : ℕ) (now : Instant) (call : ReserveCall) : LlmCallEvent where
  id
  occurredAt := now
  ownerUserId := call.ownerUserId
  modelRef := call.modelRef
  reason := call.reason
  outcome := .reserved
  estimatedInputUnits := call.estimatedInputUnits
  inputUnits := 0
  outputUnits := 0
  cachedInputUnits := 0

/-- `reserve`. -/
def reserve (now : Instant) (call : ReserveCall) : Transaction Database PyError (Option ℕ) :=
  fun db =>
    if call.limits.any (usedUp db now call) then .ok (none, db)
    else do
      raiseIf (db.hasUser call.ownerUserId = false ∨ call.estimatedInputUnits < 0) .integrity
      let charged := call.limits.foldl (charge now call) db
      match charged.llmCallEvents.insert? (reservedEvent (nextCallId db) now call) with
      | none => throw .integrity
      | some events => return (some (nextCallId db), { charged with llmCallEvents := events })

/-- The event is the one a result is for, and has none yet. -/
def awaits (result : RecordResult) (event : LlmCallEvent) : Bool :=
  event.id = result.callId && (event.ownerUserId = result.ownerUserId &&
    event.modelRef = result.modelRef && event.outcome = .reserved)

/-- `recorded_output`. -/
def recordedOutput (result : RecordResult) : Int :=
  if result.outcome = .completed then max 0 result.outputUnits else 0

/-- `recorded_input`. -/
def recordedInput (result : RecordResult) : Int :=
  if result.outcome = .completed then max 0 result.inputUnits else 0

/-- `recorded_cached_input`. -/
def recordedCachedInput (result : RecordResult) : Int :=
  if result.outcome = .completed then min (recordedInput result) (max 0 result.cachedInputUnits)
  else 0

/-- `UPDATE llm_usage SET output_units=output_units+?`, in the current window of a kind. -/
def addOutput (now : Instant) (result : RecordResult) (db : Database) (kind : BudgetWindow) :
    Database :=
  { db with
    llmUsage := db.llmUsage.updateWhere
      (fun row => row.key = (result.ownerUserId, result.modelRef, kind, budgetWindowStart now kind))
      fun row => { row with outputUnits := row.outputUnits + recordedOutput result } }

/-- The output of a completed call goes to the current day and the current month. -/
def addOutputs (now : Instant) (result : RecordResult) (db : Database) : Database :=
  if result.outcome = .completed then [BudgetWindow.day, .month].foldl (addOutput now result) db
  else db

/-- The event with its result. -/
def finalized (result : RecordResult) (event : LlmCallEvent) : LlmCallEvent :=
  { event with
    outcome := result.outcome
    inputUnits := recordedInput result
    outputUnits := recordedOutput result
    cachedInputUnits := recordedCachedInput result }

/-- `record_result`. -/
def recordResult (now : Instant) (result : RecordResult) : Transaction Database PyError Unit :=
  fun db => do
    raiseIf (result.outcome = .reserved) .value
    raiseIf (db.llmCallEvents.count (awaits result) ≠ 1) .external
    return (⟨⟩, { addOutputs now result db with
      llmCallEvents := db.llmCallEvents.updateWhere (awaits result) (finalized result) })

/-! ### The machine -/

/-- A call of either operation, with the time the clock shows. -/
inductive UsageCall
  | reserve (now : Instant) (call : ReserveCall)
  | recordResult (now : Instant) (result : RecordResult)
deriving DecidableEq, Repr

/-- The store that a call leaves. -/
def perform : UsageCall → Effect Database PyError (Option ℕ)
  | .reserve now call => Effect.atomically (reserve now call)
  | .recordResult now result => (fun _ => none) <$> Effect.atomically (recordResult now result)

def machine : Machine Database UsageCall (Except PyError (Option ℕ)) where
  exec db call := (perform call).exec db

/-! ### What a usage should be -/

/-- The window of a kind that an event was reserved in. -/
def eventKey (kind : BudgetWindow) (event : LlmCallEvent) : WindowKey :=
  (event.ownerUserId, event.modelRef, kind, budgetWindowStart event.occurredAt kind)

/-- The sum over the events that were reserved in a window. -/
def total (units : LlmCallEvent → Int) (events : List LlmCallEvent) (key : WindowKey) : Int :=
  ((events.filter fun event => eventKey key.2.2.1 event = key).map units).sum

/-- **Every usage is the sum over the events of its window.** -/
structure Accounted (db : Database) : Prop where
  calls : ∀ key, (usageOf db key).calls = total (fun _ => 1) db.llmCallEvents.rows key
  inputUnits : ∀ key, (usageOf db key).inputUnits =
    total LlmCallEvent.estimatedInputUnits db.llmCallEvents.rows key
  outputUnits : ∀ key, (usageOf db key).outputUnits =
    total LlmCallEvent.outputUnits db.llmCallEvents.rows key

/-- An event without a result has no output. -/
def Silent (db : Database) : Prop :=
  ∀ event ∈ db.llmCallEvents.rows, event.outcome = .reserved → event.outputUnits = 0

/-- **The calls that keep all usages exact.** A reservation that is not refused names each kind of
window once; a result with output comes in the windows of its reservation. -/
def Kept (g : Stage Database UsageCall (Except PyError (Option ℕ))) : UsageCall → Prop
  | .reserve now call =>
    call.limits.any (usedUp g.state now call) = false → g.state.hasUser call.ownerUserId = true →
      0 ≤ call.estimatedInputUnits →
        ∀ kind, call.limits.countP (fun limit => limit.windowKind = kind) = 1
  | .recordResult now result =>
    ∀ event ∈ g.state.llmCallEvents.rows, awaits result event = true →
      recordedOutput result = 0 ∨
        ∀ kind, budgetWindowStart event.occurredAt kind = budgetWindowStart now kind

/-! ### Sums -/

theorem total_append (units : LlmCallEvent → Int) (events : List LlmCallEvent)
    (event : LlmCallEvent) (key : WindowKey) :
    total units (events ++ [event]) key =
      total units events key + if eventKey key.2.2.1 event = key then units event else 0 := by
  unfold total
  rw [List.filter_append, List.map_append, List.sum_append]
  by_cases hkey : eventKey key.2.2.1 event = key
  · simp [hkey]
  · simp [hkey]

/-- One row of a table is rewritten, and stays in its window. -/
theorem total_update {units : LlmCallEvent → Int} {rewrite : LlmCallEvent → LlmCallEvent}
    {p : LlmCallEvent → Bool} {events : List LlmCallEvent} {event : LlmCallEvent}
    (hnodup : (events.map LlmCallEvent.id).Nodup) (hmem : event ∈ events)
    (hp : ∀ e ∈ events, p e = true ↔ e = event)
    (hwindow : ∀ kind, eventKey kind (rewrite event) = eventKey kind event) (key : WindowKey) :
    total units (events.map fun e => if p e = true then rewrite e else e) key =
      total units events key +
        if eventKey key.2.2.1 event = key then units (rewrite event) - units event else 0 := by
  have hcons : ∀ e rest, total units (e :: rest) key =
      (if eventKey key.2.2.1 e = key then units e else 0) + total units rest key := by
    intro e rest
    unfold total
    by_cases hkey : eventKey key.2.2.1 e = key
    · simp [hkey]
    · simp [hkey]
  induction events with
  | nil => cases hmem
  | cons e rest ih =>
    rw [List.map_cons, hcons, hcons]
    rw [List.map_cons, List.nodup_cons] at hnodup
    by_cases he : e = event
    · -- the row itself: the others are not rewritten
      subst he
      have hothers : (rest.map fun e' => if p e' = true then rewrite e' else e') = rest := by
        conv_rhs => rw [← List.map_id rest]
        refine List.map_congr_left fun e' he' => ?_
        have hne : ¬ p e' = true := fun hpe' => by
          obtain rfl := (hp e' (List.mem_cons_of_mem _ he')).mp hpe'
          exact hnodup.1 (List.mem_map.mpr ⟨e', he', rfl⟩)
        rw [if_neg hne]
        rfl
      rw [hothers, if_pos ((hp e List.mem_cons_self).mpr rfl), hwindow]
      by_cases hkey : eventKey key.2.2.1 e = key
      · simp only [if_pos hkey]
        omega
      · simp only [if_neg hkey]
        omega
    · have hrest := ih hnodup.2 ((List.mem_cons.mp hmem).resolve_left fun h => he h.symm)
        fun e' he' => hp e' (List.mem_cons_of_mem _ he')
      have hne : ¬ p e = true := fun hpe => he ((hp e List.mem_cons_self).mp hpe)
      rw [hrest, if_neg hne]
      omega

/-! ### Reservations -/

/-- A charge adds one call to its window. -/
theorem usageOf_charge (now : Instant) (call : ReserveCall) (db : Database) (limit : LlmBudgetLimit)
    (key : WindowKey) :
    (usageOf (charge now call db limit) key).calls = (usageOf db key).calls +
        (if limitKey now call limit = key then 1 else 0) ∧
      (usageOf (charge now call db limit) key).inputUnits = (usageOf db key).inputUnits +
        (if limitKey now call limit = key then call.estimatedInputUnits else 0) ∧
      (usageOf (charge now call db limit) key).outputUnits = (usageOf db key).outputUnits := by
  have hfind : (charge now call db limit).llmUsage.find? key = _ :=
    Table.find?_upsert db.llmUsage _ (fun row => { row with
      calls := row.calls + 1
      inputUnits := row.inputUnits + call.estimatedInputUnits }) (fun _ => rfl) key
  change _ = if key = limitKey now call limit then _ else _ at hfind
  unfold usageOf
  rw [hfind]
  by_cases hkey : limitKey now call limit = key
  · rw [if_pos hkey, if_pos hkey, if_pos hkey.symm]
    cases db.llmUsage.find? key with
    | none => simp
    | some row => simp
  · have hother : ¬ key = limitKey now call limit := fun h => hkey h.symm
    rw [if_neg hkey, if_neg hkey, if_neg hother]
    simp

/-- The charges of all limits. -/
theorem usageOf_charges (now : Instant) (call : ReserveCall) (limits : List LlmBudgetLimit)
    (db : Database) (key : WindowKey) :
    (usageOf (limits.foldl (charge now call) db) key).calls = (usageOf db key).calls +
        (limits.countP fun limit => limitKey now call limit = key : ℕ) ∧
      (usageOf (limits.foldl (charge now call) db) key).inputUnits = (usageOf db key).inputUnits +
        (limits.countP fun limit => limitKey now call limit = key : ℕ) * call.estimatedInputUnits ∧
      (usageOf (limits.foldl (charge now call) db) key).outputUnits =
        (usageOf db key).outputUnits := by
  induction limits generalizing db with
  | nil => simp
  | cons limit limits ih =>
    obtain ⟨hcalls, hinput, houtput⟩ := ih (charge now call db limit)
    obtain ⟨hcalls', hinput', houtput'⟩ := usageOf_charge now call db limit key
    rw [List.foldl_cons, List.countP_cons]
    by_cases hkey : limitKey now call limit = key
    · rw [if_pos hkey] at hcalls' hinput'
      rw [hcalls, hinput, houtput, hcalls', hinput', houtput']
      simp only [hkey, decide_true, if_true]
      push_cast
      refine ⟨by ring, by ring, trivial⟩
    · rw [if_neg hkey] at hcalls' hinput'
      rw [hcalls, hinput, houtput, hcalls', hinput', houtput']
      simp [hkey]

theorem events_charges (now : Instant) (call : ReserveCall) (limits : List LlmBudgetLimit)
    (db : Database) :
    (limits.foldl (charge now call) db).llmCallEvents = db.llmCallEvents := by
  induction limits generalizing db with
  | nil => rfl
  | cons limit limits ih => exact ih (charge now call db limit)

/-- The next id is free. -/
theorem insert_nextCallId (db : Database) (now : Instant) (call : ReserveCall) :
    ∃ events, db.llmCallEvents.insert? (reservedEvent (nextCallId db) now call) = some events := by
  cases hinsert : db.llmCallEvents.insert? (reservedEvent (nextCallId db) now call) with
  | some events => exact ⟨events, rfl⟩
  | none =>
    obtain ⟨event, hevent⟩ := Table.insert?_eq_none.mp hinsert
    have hbound : ∀ (ids : List ℕ) (id : ℕ), id ∈ ids → id ≤ ids.foldr max 0 := by
      intro ids
      induction ids with
      | nil => intro id hid; cases hid
      | cons id' ids ih =>
        intro id hid
        rw [List.foldr_cons]
        rcases List.mem_cons.mp hid with rfl | hid
        · exact le_max_left _ _
        · exact (ih id hid).trans (le_max_right _ _)
    have hmem : event.id ∈ db.llmCallEvents.rows.map LlmCallEvent.id :=
      List.mem_map.mpr ⟨event, Table.mem_of_find? hevent, rfl⟩
    have hle := hbound _ _ hmem
    have hid : event.id = nextCallId db := Table.key_of_find? hevent
    rw [hid] at hle
    unfold nextCallId at hle
    omega

/-- **A reservation keeps the usages exact exactly when it charges every kind of window once.** -/
theorem accounted_reserve_iff {g : Stage Database UsageCall (Except PyError (Option ℕ))}
    (h : Accounted g.state) (now : Instant) (call : ReserveCall) :
    Accounted (machine.advance g (.reserve now call)).state ↔ Kept g (.reserve now call) := by
  have hadvance : (machine.advance g (.reserve now call)).state =
      ((Effect.atomically (reserve now call)).exec g.state).2 := rfl
  rw [hadvance, Effect.exec_atomically, StateT.run]
  unfold reserve Kept
  cases hfull : call.limits.any (usedUp g.state now call) with
  | true =>
    simp only [if_true]
    refine ⟨fun _ hfree => ?_, fun _ => h⟩
    rw [hfull] at hfree
    cases hfree
  | false =>
    simp only [Bool.false_eq_true, if_false]
    by_cases hrefused : g.state.hasUser call.ownerUserId = false ∨ call.estimatedInputUnits < 0
    · have hraise : raiseIf (g.state.hasUser call.ownerUserId = false ∨
          call.estimatedInputUnits < 0) PyError.integrity = .error .integrity := if_pos hrefused
      rw [hraise]
      refine ⟨fun _ _ huser hestimate => ?_, fun _ => h⟩
      rcases hrefused with hnobody | hnegative
      · rw [hnobody] at huser
        cases huser
      · omega
    · have hpass : raiseIf (g.state.hasUser call.ownerUserId = false ∨
          call.estimatedInputUnits < 0) PyError.integrity = .ok ⟨⟩ := if_neg hrefused
      obtain ⟨events, hevents⟩ := insert_nextCallId g.state now call
      rw [hpass]
      simp only [events_charges, hevents, bind, Except.bind, pure, Except.pure]
      have hrows := Table.rows_insert hevents
      -- how often each window is charged, and how often it should be
      have hexact : Accounted { call.limits.foldl (charge now call) g.state with
            llmCallEvents := events } ↔
          ∀ key, (call.limits.countP fun limit => limitKey now call limit = key) =
            if eventKey key.2.2.1 (reservedEvent (nextCallId g.state) now call) = key then 1
            else 0 := by
        have husage : ∀ key, usageOf { call.limits.foldl (charge now call) g.state with
              llmCallEvents := events } key =
            usageOf (call.limits.foldl (charge now call) g.state) key := fun _ => rfl
        constructor
        · intro hexact key
          have hcalls := hexact.calls key
          rw [husage, (usageOf_charges now call call.limits g.state key).1, h.calls key, hrows,
            total_append] at hcalls
          have hcancel := Int.add_left_cancel hcalls
          split at hcancel
          · rw [if_pos (by assumption)]
            exact_mod_cast hcancel
          · rw [if_neg (by assumption)]
            exact_mod_cast hcancel
        · intro hcount
          constructor
          · intro key
            rw [husage, (usageOf_charges now call call.limits g.state key).1, h.calls key, hrows,
              total_append, hcount key]
            split
            · rfl
            · rfl
          · intro key
            rw [husage, (usageOf_charges now call call.limits g.state key).2.1, h.inputUnits key,
              hrows, total_append, hcount key]
            split
            · show _ + ((1 : ℕ) : Int) * call.estimatedInputUnits = _ + call.estimatedInputUnits
              push_cast
              ring
            · push_cast
              ring
          · intro key
            rw [husage, (usageOf_charges now call call.limits g.state key).2.2, h.outputUnits key,
              hrows, total_append]
            split
            · exact (Int.add_zero _).symm
            · exact (Int.add_zero _).symm
      show Accounted { call.limits.foldl (charge now call) g.state with llmCallEvents := events } ↔ _
      rw [hexact]
      have huser : g.state.hasUser call.ownerUserId = true := by
        cases hcase : g.state.hasUser call.ownerUserId with
        | true => rfl
        | false => exact absurd (Or.inl hcase) hrefused
      constructor
      · intro hcount _ _ _ kind
        have hkind := hcount (call.ownerUserId, call.modelRef, kind, budgetWindowStart now kind)
        have hcurrent : eventKey kind (reservedEvent (nextCallId g.state) now call) =
            (call.ownerUserId, call.modelRef, kind, budgetWindowStart now kind) := rfl
        rw [if_pos hcurrent] at hkind
        rw [← hkind]
        refine List.countP_congr fun limit _ => ?_
        unfold limitKey
        constructor
        · intro heq
          obtain rfl := of_decide_eq_true heq
          simp
        · intro heq
          have htuple := of_decide_eq_true heq
          simp only [Prod.mk.injEq] at htuple
          exact decide_eq_true htuple.2.2.1
      · intro hkept key
        have honce := hkept hfull huser (by omega) key.2.2.1
        split
        · next hkey =>
          rw [← honce]
          refine List.countP_congr fun limit _ => ?_
          constructor
          · intro heq
            have htuple := of_decide_eq_true heq
            refine decide_eq_true ?_
            rw [← htuple]
            rfl
          · intro heq
            have hkind := of_decide_eq_true heq
            refine decide_eq_true ?_
            rw [← hkey]
            unfold limitKey
            rw [hkind]
            rfl
        · next hkey =>
          rw [List.countP_eq_zero]
          intro limit _ heq
          have htuple := of_decide_eq_true heq
          refine hkey ?_
          rw [← htuple]
          rfl

/-! ### Results -/

/-- The output goes to the windows that are current, where they have a row. -/
theorem usageOf_addOutput (now : Instant) (result : RecordResult) (db : Database)
    (kind : BudgetWindow) (key : WindowKey) :
    (usageOf (addOutput now result db kind) key).calls = (usageOf db key).calls ∧
      (usageOf (addOutput now result db kind) key).inputUnits = (usageOf db key).inputUnits ∧
      (usageOf (addOutput now result db kind) key).outputUnits = (usageOf db key).outputUnits +
        (if key = (result.ownerUserId, result.modelRef, kind, budgetWindowStart now kind) ∧
            (db.llmUsage.find? key).isSome then recordedOutput result else 0) ∧
      ((addOutput now result db kind).llmUsage.find? key).isSome =
        (db.llmUsage.find? key).isSome := by
  have hfind : (addOutput now result db kind).llmUsage.find? key =
      if key = (result.ownerUserId, result.modelRef, kind, budgetWindowStart now kind) then
        (db.llmUsage.find? key).map fun row =>
          { row with outputUnits := row.outputUnits + recordedOutput result }
      else db.llmUsage.find? key :=
    Table.find?_updateKey (T := db.llmUsage)
      (fun row => { row with outputUnits := row.outputUnits + recordedOutput result })
      (fun _ => rfl) key
  unfold usageOf
  rw [hfind]
  by_cases hkey : key = (result.ownerUserId, result.modelRef, kind, budgetWindowStart now kind)
  · rw [if_pos hkey]
    cases hrow : db.llmUsage.find? key with
    | none => simp
    | some row => simp [hkey]
  · rw [if_neg hkey]
    simp [hkey]

/-- The window is current for a result, and has a row. -/
def IsCurrent (now : Instant) (result : RecordResult) (db : Database) (key : WindowKey) : Prop :=
  key = (result.ownerUserId, result.modelRef, key.2.2.1, budgetWindowStart now key.2.2.1) ∧
    (db.llmUsage.find? key).isSome

instance (now : Instant) (result : RecordResult) (db : Database) (key : WindowKey) :
    Decidable (IsCurrent now result db key) := by
  unfold IsCurrent
  infer_instance

theorem usageOf_addOutputs (now : Instant) (result : RecordResult) (db : Database)
    (key : WindowKey) :
    (usageOf (addOutputs now result db) key).calls = (usageOf db key).calls ∧
      (usageOf (addOutputs now result db) key).inputUnits = (usageOf db key).inputUnits ∧
      (usageOf (addOutputs now result db) key).outputUnits = (usageOf db key).outputUnits +
        if IsCurrent now result db key then recordedOutput result else 0 := by
  unfold addOutputs
  by_cases hcompleted : result.outcome = .completed
  · rw [if_pos hcompleted]
    obtain ⟨hcalls, hinput, houtput, hrow⟩ := usageOf_addOutput now result db .day key
    obtain ⟨hcalls', hinput', houtput', -⟩ :=
      usageOf_addOutput now result (addOutput now result db .day) .month key
    refine ⟨hcalls'.trans hcalls, hinput'.trans hinput, ?_⟩
    show (usageOf (addOutput now result (addOutput now result db .day) .month) key).outputUnits = _
    rw [houtput', houtput, hrow, Int.add_assoc]
    congr 1
    unfold IsCurrent
    obtain ⟨owner, model, kind, start⟩ := key
    -- a window is of one kind, so at most one of the two updates is its own
    cases kind with
    | day => simp
    | month => simp
  · have hzero : recordedOutput result = 0 := if_neg hcompleted
    rw [if_neg hcompleted, hzero]
    simp

/-- What a result that is recorded does to the sums. -/
theorem total_finalized {db : Database} {result : RecordResult} {event : LlmCallEvent}
    (hevent : db.llmCallEvents.find? result.callId = some event) (hawaits : awaits result event)
    (units : LlmCallEvent → Int) (key : WindowKey) :
    total units (db.llmCallEvents.updateWhere (awaits result) (finalized result)).rows key =
      total units db.llmCallEvents.rows key +
        if eventKey key.2.2.1 event = key then units (finalized result event) - units event
        else 0 := by
  refine total_update db.llmCallEvents.nodup (Table.mem_of_find? hevent) (fun e he => ?_)
    (fun _ => rfl) key
  constructor
  · intro hawaited
    have hid : e.id = result.callId := by
      unfold awaits at hawaited
      simp only [Bool.and_eq_true, decide_eq_true_eq] at hawaited
      exact hawaited.1
    exact db.llmCallEvents.eq_of_key_eq he (Table.mem_of_find? hevent)
      (hid.trans (Table.key_of_find? hevent).symm)
  · rintro rfl
    exact hawaits

/-- The usages that are exact have a row where there is an event. -/
theorem row_of_event {db : Database} (h : Accounted db) {event : LlmCallEvent}
    (hmem : event ∈ db.llmCallEvents.rows) (kind : BudgetWindow) :
    (db.llmUsage.find? (eventKey kind event)).isSome := by
  cases hrow : db.llmUsage.find? (eventKey kind event) with
  | some row => rfl
  | none =>
    have hcalls := h.calls (eventKey kind event)
    have hzero : (usageOf db (eventKey kind event)).calls = 0 := by
      unfold usageOf
      rw [hrow]
      rfl
    have hlength : total (fun _ => 1) db.llmCallEvents.rows (eventKey kind event) =
        (db.llmCallEvents.rows.filter fun e => eventKey kind e = eventKey kind event).length := by
      unfold total
      simp [eventKey]
    have hfiltered : event ∈ db.llmCallEvents.rows.filter
        fun e => eventKey kind e = eventKey kind event :=
      List.mem_filter.mpr ⟨hmem, decide_eq_true rfl⟩
    have hpos := List.length_pos_of_mem hfiltered
    rw [hzero, hlength] at hcalls
    omega

/-- **A result keeps the usages exact exactly when its output comes in the windows of its call.** -/
theorem accounted_recordResult_iff {g : Stage Database UsageCall (Except PyError (Option ℕ))}
    (h : Accounted g.state) (hsilent : Silent g.state) (now : Instant) (result : RecordResult) :
    Accounted (machine.advance g (.recordResult now result)).state ↔
      Kept g (.recordResult now result) := by
  have hadvance : (machine.advance g (.recordResult now result)).state =
      ((Effect.atomically (recordResult now result)).exec g.state).2 := by
    show ((_ <$> Effect.atomically (recordResult now result)).exec g.state).2 = _
    rw [Effect.exec_map]
  rw [hadvance, Effect.exec_atomically, StateT.run]
  unfold recordResult Kept
  by_cases hinvalid : result.outcome = .reserved
  · have hraise : raiseIf (result.outcome = .reserved) PyError.value = .error .value :=
      if_pos hinvalid
    rw [hraise]
    refine ⟨fun _ event _ _ => Or.inl ?_, fun _ => h⟩
    unfold recordedOutput
    rw [hinvalid]
    rfl
  · have hvalid : raiseIf (result.outcome = .reserved) PyError.value = .ok ⟨⟩ := if_neg hinvalid
    rw [hvalid]
    simp only [bind, Except.bind, pure, Except.pure]
    by_cases hcount : g.state.llmCallEvents.count (awaits result) ≠ 1
    · have hraise : raiseIf (g.state.llmCallEvents.count (awaits result) ≠ 1) PyError.external =
          .error .external := if_pos hcount
      rw [hraise]
      refine ⟨fun _ event hmem hawaits => ?_, fun _ => h⟩
      -- an event that waits is the only one
      have hid : event.id = result.callId := by
        unfold awaits at hawaits
        simp only [Bool.and_eq_true, decide_eq_true_eq] at hawaits
        exact hawaits.1
      have hfind := Table.find?_of_mem hmem
      rw [hid] at hfind
      have hq : (fun e : LlmCallEvent => e.ownerUserId = result.ownerUserId &&
          e.modelRef = result.modelRef && e.outcome = .reserved) event = true := by
        unfold awaits at hawaits
        exact (Bool.and_eq_true_iff.mp hawaits).2
      exact absurd (Table.count_key hfind hq) hcount
    · have hpass : raiseIf (g.state.llmCallEvents.count (awaits result) ≠ 1) PyError.external =
          .ok ⟨⟩ := if_neg hcount
      rw [hpass]
      simp only
      obtain ⟨event, hevent, hwaiting⟩ := Table.exists_of_count_key (not_not.mp hcount)
      have hmem := Table.mem_of_find? hevent
      have hawaits : awaits result event = true := by
        unfold awaits
        exact Bool.and_eq_true_iff.mpr ⟨decide_eq_true (Table.key_of_find? hevent), hwaiting⟩
      obtain ⟨howner, hmodel, hreserved⟩ : event.ownerUserId = result.ownerUserId ∧
          event.modelRef = result.modelRef ∧ event.outcome = .reserved := by
        simp only [Bool.and_eq_true, decide_eq_true_eq] at hwaiting
        exact ⟨hwaiting.1.1, hwaiting.1.2, hwaiting.2⟩
      have hnone : event.outputUnits = 0 := hsilent event hmem hreserved
      -- what the windows gain, and what they should
      have husage : ∀ key, usageOf { addOutputs now result g.state with
            llmCallEvents :=
              g.state.llmCallEvents.updateWhere (awaits result) (finalized result) } key =
          usageOf (addOutputs now result g.state) key := fun _ => rfl
      have htotal := fun units => total_finalized hevent hawaits units
      have hexact : Accounted { addOutputs now result g.state with
            llmCallEvents :=
              g.state.llmCallEvents.updateWhere (awaits result) (finalized result) } ↔
          ∀ key, (if IsCurrent now result g.state key then recordedOutput result else 0) =
            if eventKey key.2.2.1 event = key then recordedOutput result else 0 := by
        constructor
        · intro hexact key
          have hgain := hexact.outputUnits key
          rw [htotal, husage, (usageOf_addOutputs now result g.state key).2.2,
            h.outputUnits key] at hgain
          have hcancel := Int.add_left_cancel hgain
          rw [hnone, Int.sub_zero] at hcancel
          exact hcancel
        · intro hgain
          constructor
          · intro key
            rw [husage, htotal, (usageOf_addOutputs now result g.state key).1, h.calls key]
            simp
          · intro key
            rw [husage, htotal, (usageOf_addOutputs now result g.state key).2.1, h.inputUnits key]
            simp [finalized]
          · intro key
            rw [husage, htotal, (usageOf_addOutputs now result g.state key).2.2,
              h.outputUnits key, hnone, Int.sub_zero, hgain key]
            rfl
      rw [hexact]
      constructor
      · intro hgain event' hmem' hawaits'
        have hid : event'.id = result.callId := by
          unfold awaits at hawaits'
          simp only [Bool.and_eq_true, decide_eq_true_eq] at hawaits'
          exact hawaits'.1
        obtain rfl := g.state.llmCallEvents.eq_of_key_eq hmem' hmem
          (hid.trans (Table.key_of_find? hevent).symm)
        by_cases hzero : recordedOutput result = 0
        · exact Or.inl hzero
        · refine Or.inr fun kind => ?_
          have hkind := hgain (eventKey kind event')
          rw [if_pos (show eventKey (eventKey kind event').2.2.1 event' = eventKey kind event'
            from rfl)] at hkind
          by_cases hcurrent : IsCurrent now result g.state (eventKey kind event')
          · exact congrArg (fun key : WindowKey => key.2.2.2) hcurrent.1
          · rw [if_neg hcurrent] at hkind
            exact absurd hkind.symm hzero
      · intro hkept key
        rcases hkept event hmem hawaits with hzero | hwindows
        · rw [hzero]
          simp
        · have hsame : IsCurrent now result g.state key ↔ eventKey key.2.2.1 event = key := by
            unfold IsCurrent
            constructor
            · rintro ⟨hkey, -⟩
              rw [hkey]
              unfold eventKey
              rw [howner, hmodel, hwindows]
            · intro hkey
              refine ⟨?_, ?_⟩
              · rw [← howner, ← hmodel, ← hwindows]
                exact hkey.symm
              · rw [← hkey]
                exact row_of_event h hmem _
          simp only [hsame]

/-! ### All runs -/

theorem silent_advance {g : Stage Database UsageCall (Except PyError (Option ℕ))}
    (h : Silent g.state) (call : UsageCall) : Silent (machine.advance g call).state := by
  cases call with
  | reserve now call =>
    show Silent ((Effect.atomically (reserve now call)).exec g.state).2
    rw [Effect.exec_atomically, StateT.run]
    unfold reserve
    split
    · next outcome db' hok =>
      split at hok
      · obtain ⟨-, rfl⟩ := Prod.mk.inj (Except.ok.inj hok)
        exact h
      · obtain ⟨-, hok⟩ := raiseIf_bind_ok.mp hok
        obtain ⟨events, hevents⟩ := insert_nextCallId g.state now call
        simp only [events_charges, hevents] at hok
        obtain ⟨-, rfl⟩ := Prod.mk.inj (Except.ok.inj hok)
        intro event hmem hreserved
        have hrows : event ∈ g.state.llmCallEvents.rows ++
            [reservedEvent (nextCallId g.state) now call] := by
          rw [← Table.rows_insert hevents]
          exact hmem
        rcases List.mem_append.mp hrows with hold | hnew
        · exact h event hold hreserved
        · obtain rfl := List.mem_singleton.mp hnew
          rfl
    · exact h
  | recordResult now result =>
    show Silent ((_ <$> Effect.atomically (recordResult now result)).exec g.state).2
    rw [Effect.exec_map, Effect.exec_atomically, StateT.run]
    unfold recordResult
    split
    · next outcome db' hok =>
      obtain ⟨hvalid, hok⟩ := raiseIf_bind_ok.mp hok
      obtain ⟨-, hok⟩ := raiseIf_bind_ok.mp hok
      obtain ⟨-, rfl⟩ := Prod.mk.inj (Except.ok.inj hok)
      intro event hmem hreserved
      obtain ⟨event₀, hmem₀, rfl⟩ := List.mem_map.mp hmem
      by_cases hawaits : awaits result event₀ = true
      · -- an event that got its result is not reserved any more
        rw [if_pos hawaits] at hreserved
        exact absurd hreserved hvalid
      · rw [if_neg hawaits] at hreserved ⊢
        exact h event₀ hmem₀ hreserved
    · exact h

/-- **When the accounting is exact.** In a run from an empty accounting, every usage is the sum over
the events reserved in its window, at every moment, if and only if every reservation that is not
refused names each kind of window once and every result with output comes in the day and the month of
its reservation. -/
theorem accounted_iff (db : Database) (calls : List UsageCall) :
    (∀ pre, pre <+: calls → Accounted (machine.replay
        (Machine.start { db with llmUsage := ∅, llmCallEvents := ∅ }) pre).state) ↔
      machine.Follows Kept (Machine.start { db with llmUsage := ∅, llmCallEvents := ∅ }) calls := by
  refine Machine.forall_prefix_iff_follows machine (I := fun g => Accounted g.state)
    (J := fun g => Silent g.state) (fun _ call hsilent => silent_advance hsilent call)
    (fun g call hsilent haccounted => ?_) (fun _ hmem => absurd hmem List.not_mem_nil)
    ⟨fun _ => rfl, fun _ => rfl, fun _ => rfl⟩ calls
  cases call with
  | reserve now call => exact accounted_reserve_iff haccounted now call
  | recordResult now result => exact accounted_recordResult_iff haccounted hsilent now result

/-- A call at the end of a day. -/
def lateCall : ReserveCall where
  ownerUserId := "alice"
  modelRef := "local:model"
  reason := .generalQuestion
  estimatedInputUnits := 3
  limits := [⟨.day, 200, 200000, 200000⟩, ⟨.month, 3000, 3000000, 3000000⟩]

/-- Its result. -/
def lateResult : RecordResult where
  callId := 1
  ownerUserId := "alice"
  modelRef := "local:model"
  outcome := .completed
  inputUnits := 4
  outputUnits := 10
  cachedInputUnits := 0

/-- **A call that runs past midnight**: its output is in no budget. -/
theorem lost_at_midnight :
    ∃ g, g = machine.replay (Machine.start { users := ⟨[⟨"alice", "Alice", true⟩], by simp⟩ })
        [.reserve (Duration.days 1 - 1) lateCall, .recordResult (Duration.days 1) lateResult] ∧
      (usageOf g.state ("alice", "local:model", .day, 0)).outputUnits = 0 ∧
      total LlmCallEvent.outputUnits g.state.llmCallEvents.rows
        ("alice", "local:model", .day, 0) = 10 ∧
      ¬ Accounted g.state := by
  refine ⟨_, rfl, by decide +kernel, by decide +kernel, fun h => ?_⟩
  have houtput := h.outputUnits ("alice", "local:model", .day, 0)
  exact absurd houtput (by decide +kernel)

end LlmUsageStore

end Zhixu
