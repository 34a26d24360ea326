import Zhixu.Delivery.Quota
import Zhixu.Framework.Machine
import Mathlib.Tactic.Linarith

/-!
# What a quota counts

A history of `QuotaManager.reserve` is a run of a machine whose calls are the reservations asked for
and whose log has the decisions. A rule is about the reservations that were allowed for the scope of a
call in the rule's current window (`reservedIn`); the code has a counter for every scope, kind of
window and beginning of a window instead, and every rule of every allowed reservation adds one to the
counter its window has.

The two agree when every counter belongs to one rule. What a counter holds is an invariant of all runs
(`used_eq_charged`): the number of rules, over all allowed reservations, whose window had that counter.
So a call is refused exactly when one of these sums reaches its limit (`refused_iff_charged`), and the
sum is the number the rule is about when the call is `Separate` from the history: none of its rules
shares a counter with *another* rule of an earlier reservation, and an earlier reservation lies in the
window of a rule exactly when its own window begins where that one does (`charged_eq_reservedIn`).

The second half of `Separate` is about clocks that are set back. In a zone whose offset does not
change it holds of every reservation (`window_of_constantOffset`). It fails where midnight happens
twice: the two passes through the repeated hour begin their day at different instants.
-/

open Framework

namespace Zhixu

/-- What a reservation is asked for. -/
structure Reservation where
  scopes : List QuotaScope
  now : Instant
deriving Repr

namespace Reservation

/-- `by_kind.get(kind)`. -/
def scope? (r : Reservation) (kind : QuotaScopeKind) : Option QuotaScope :=
  r.scopes.find? fun scope => scope.kind = kind

end Reservation

namespace QuotaManager

variable (quota : QuotaManager) (zones : TimeZones)

/-- The manager as a machine over the store. -/
def machine : Machine Database Reservation (Except PyError QuotaDecision) where
  exec db r := (quota.reserve zones r.scopes r.now).exec db

/-- The key of the counter a check is about. -/
def counter (check : QuotaCheck) : QuotaScopeKind × String × QuotaWindow × Instant :=
  (usage check 0).key

/-- What a counter holds. -/
def used (db : Database) (key : QuotaScopeKind × String × QuotaWindow × Instant) : Int :=
  ((db.quotaUsage.find? key).map QuotaUsage.used).getD 0

/-- The checks of a reservation, none when one of them raises. -/
def checksOf (r : Reservation) : List QuotaCheck :=
  match quota.checks zones r.scopes r.now with
  | .ok checks => checks
  | .error _ => []

/-- The outcome is an allowed reservation. -/
def isAllowed : Except PyError QuotaDecision → Bool
  | .ok decision => decision.allowed
  | .error _ => false

/-- The reservations that were allowed, newest first. -/
def allowed (log : List (Entry Reservation (Except PyError QuotaDecision))) : List Reservation :=
  (log.filter fun entry => isAllowed entry.outcome).map Entry.call

/-- How often the allowed reservations were charged to a counter. -/
def charged (log : List (Entry Reservation (Except PyError QuotaDecision)))
    (key : QuotaScopeKind × String × QuotaWindow × Instant) : ℕ :=
  ((allowed log).map fun r => (quota.checksOf zones r).countP fun check => counter check = key).sum

/-- **What a rule is about**: the reservations allowed for the scope of a check within its window. -/
def reservedIn (log : List (Entry Reservation (Except PyError QuotaDecision)))
    (check : QuotaCheck) : ℕ :=
  (allowed log).countP fun r =>
    (r.scope? check.rule.scopeKind).map QuotaScope.ref = some check.scope.ref ∧
      check.start ≤ r.now ∧ r.now < check.stop

/-- **A call whose rules have counters of their own.** -/
structure Separate (log : List (Entry Reservation (Except PyError QuotaDecision)))
    (call : Reservation) : Prop where
  /-- no two rules share a counter, whichever reservation charges it -/
  counters : ∀ r ∈ allowed log, ∀ i j : ℕ, i ≠ j →
    ∀ check, (quota.checksOf zones call)[i]? = some check →
      ∀ check', (quota.checksOf zones r)[j]? = some check' → counter check' ≠ counter check
  /-- the window that is current has one beginning -/
  windows : ∀ check ∈ quota.checksOf zones call, ∀ r ∈ allowed log,
    (r.scope? check.rule.scopeKind).map QuotaScope.ref = some check.scope.ref →
      ((check.start ≤ r.now ∧ r.now < check.stop) ↔
        ∃ stop, quotaWindow zones r.now check.rule = .ok (check.start, stop))

/-! ### One reservation -/

/-- A counter is charged by one. -/
theorem used_charge (db : Database) (check : QuotaCheck)
    (key : QuotaScopeKind × String × QuotaWindow × Instant) :
    used (charge db check) key = used db key + if counter check = key then 1 else 0 := by
  have hfind : (charge db check).quotaUsage.find? key = _ :=
    Table.find?_upsert db.quotaUsage (usage check 1) (fun row => { row with used := row.used + 1 })
      (fun _ => rfl) key
  unfold used
  rw [hfind]
  by_cases hkey : counter check = key
  · have hself : key = (usage check 1).key := hkey.symm
    rw [if_pos hself, if_pos hkey]
    cases db.quotaUsage.find? key with
    | none => rfl
    | some row => rfl
  · have hother : ¬ key = (usage check 1).key := fun h => hkey h.symm
    rw [if_neg hother, if_neg hkey, add_zero]

theorem used_charges (checks : List QuotaCheck) (db : Database)
    (key : QuotaScopeKind × String × QuotaWindow × Instant) :
    used (checks.foldl charge db) key =
      used db key + (checks.countP fun check => counter check = key : ℕ) := by
  induction checks generalizing db with
  | nil => simp
  | cons check checks ih =>
    rw [List.foldl_cons, ih, used_charge, List.countP_cons]
    by_cases hkey : counter check = key
    · simp only [hkey, if_true, decide_true]
      push_cast
      omega
    · simp [hkey]

/-- The code looks at the counter of a check. -/
theorem exhausted_iff (db : Database) (check : QuotaCheck) :
    exhausted db check = true ↔ check.rule.limit ≤ used db (counter check) := by
  unfold exhausted used counter
  have hlimit := check.rule.limit_positive
  cases db.quotaUsage.find? (usage check 0).key with
  | none =>
    simp only [Option.any_none, Option.map_none, Option.getD_none]
    constructor
    · intro h
      cases h
    · intro h
      omega
  | some row => simp

/-- **What the transaction does**: it refuses and writes nothing, or charges every check. -/
theorem decide_ok {checks : List QuotaCheck} {now : Instant} {db db' : Database}
    {decision : QuotaDecision} (h : decide checks now db = .ok (decision, db')) :
    (decision.allowed = false ∧ db' = db ∧ ∃ check ∈ checks, exhausted db check = true) ∨
      (decision.allowed = true ∧ db' = checks.foldl charge db ∧
        ∀ check ∈ checks, ¬ exhausted db check = true) := by
  unfold decide at h
  cases hblocked : checks.filter (exhausted db) with
  | nil =>
    rw [hblocked] at h
    obtain ⟨rfl, rfl⟩ := Prod.mk.inj (Except.ok.inj h)
    exact Or.inr ⟨rfl, rfl, List.filter_eq_nil_iff.mp hblocked⟩
  | cons first rest =>
    rw [hblocked] at h
    obtain ⟨rfl, rfl⟩ := Prod.mk.inj (Except.ok.inj h)
    have hfirst : first ∈ checks.filter (exhausted db) := by
      rw [hblocked]
      exact List.mem_cons_self
    exact Or.inl ⟨rfl, rfl, first, (List.mem_filter.mp hfirst).1, (List.mem_filter.mp hfirst).2⟩

/-- A reservation raises and writes nothing, or is the transaction over its checks. -/
theorem exec_reserve (r : Reservation) (db : Database) :
    (∃ err, (quota.reserve zones r.scopes r.now).exec db = (.error err, db)) ∨
      (quota.checks zones r.scopes r.now = .ok (quota.checksOf zones r) ∧
        ∃ decision db', (quota.reserve zones r.scopes r.now).exec db = (.ok decision, db') ∧
          decide (quota.checksOf zones r) r.now db = .ok (decision, db')) := by
  unfold reserve
  rw [Effect.exec_check_bind]
  by_cases hkinds : ¬ (r.scopes.map QuotaScope.kind).Nodup
  · have hraise : raiseIf (¬ (r.scopes.map QuotaScope.kind).Nodup)
        (PyError.validation "quota scopes must be unique by kind") = .error _ := if_pos hkinds
    rw [hraise]
    exact Or.inl ⟨_, rfl⟩
  · have hpass : raiseIf (¬ (r.scopes.map QuotaScope.kind).Nodup)
        (PyError.validation "quota scopes must be unique by kind") = .ok ⟨⟩ := if_neg hkinds
    rw [hpass]
    simp only
    rw [Effect.exec_check_bind]
    unfold checksOf
    cases hchecks : quota.checks zones r.scopes r.now with
    | error err => exact Or.inl ⟨err, rfl⟩
    | ok checks =>
      refine Or.inr ⟨rfl, ?_⟩
      simp only
      rw [Effect.exec_atomically]
      -- the transaction itself does not raise
      obtain ⟨decision, db', hdecide⟩ : ∃ decision db', decide checks r.now db =
          .ok (decision, db') := by
        unfold decide
        cases checks.filter (exhausted db) with
        | nil => exact ⟨_, _, rfl⟩
        | cons first rest => exact ⟨_, _, rfl⟩
      refine ⟨decision, db', ?_, hdecide⟩
      rw [StateT.run, hdecide]

/-- A decision is that of the transaction. -/
theorem reserve_ok {r : Reservation} {db db' : Database} {decision : QuotaDecision}
    (h : (quota.reserve zones r.scopes r.now).exec db = (.ok decision, db')) :
    quota.checks zones r.scopes r.now = .ok (quota.checksOf zones r) ∧
      decide (quota.checksOf zones r) r.now db = .ok (decision, db') := by
  rcases quota.exec_reserve zones r db with ⟨err, hexec⟩ | ⟨hchecks, decision', db'', hexec, hdecide⟩
  · rw [hexec] at h
    cases h
  · rw [hexec] at h
    obtain ⟨hdecision, rfl⟩ := Prod.mk.inj h
    obtain rfl := Except.ok.inj hdecision
    exact ⟨hchecks, hdecide⟩

/-! ### All runs -/

/-- The counters of a store hold what the log says. -/
structure Counted (log : List (Entry Reservation (Except PyError QuotaDecision)))
    (db : Database) : Prop where
  used_eq : ∀ key, used db key = quota.charged zones log key
  checked : ∀ r ∈ allowed log, quota.checks zones r.scopes r.now = .ok (quota.checksOf zones r)

theorem allowed_refused {o : Except PyError QuotaDecision} (h : isAllowed o = false)
    (call : Reservation) (log : List (Entry Reservation (Except PyError QuotaDecision))) :
    allowed (⟨call, o⟩ :: log) = allowed log := by
  unfold allowed
  rw [List.filter_cons_of_neg (by simp [h])]

theorem allowed_allowed {o : Except PyError QuotaDecision} (h : isAllowed o = true)
    (call : Reservation) (log : List (Entry Reservation (Except PyError QuotaDecision))) :
    allowed (⟨call, o⟩ :: log) = call :: allowed log := by
  unfold allowed
  have hkeep : isAllowed (Entry.outcome ⟨call, o⟩) = true := h
  simp only [List.filter_cons, hkeep, if_true, List.map_cons]

/-- A call that is refused, or raises, leaves the store and the allowed reservations alone. -/
theorem counted_of_refused {log : List (Entry Reservation (Except PyError QuotaDecision))}
    {db : Database} (hcounted : quota.Counted zones log db) {o : Except PyError QuotaDecision}
    (h : isAllowed o = false) (call : Reservation) :
    quota.Counted zones (⟨call, o⟩ :: log) db := by
  constructor
  · intro key
    unfold charged
    rw [allowed_refused h]
    exact hcounted.used_eq key
  · rw [allowed_refused h]
    exact hcounted.checked

theorem counted_advance {g : Stage Database Reservation (Except PyError QuotaDecision)}
    (hcounted : quota.Counted zones g.log g.state) (call : Reservation) :
    quota.Counted zones ((quota.machine zones).advance g call).log
      ((quota.machine zones).advance g call).state := by
  rw [Machine.advance_state, Machine.advance_log]
  show quota.Counted zones
    (⟨call, ((quota.reserve zones call.scopes call.now).exec g.state).1⟩ :: g.log)
    ((quota.reserve zones call.scopes call.now).exec g.state).2
  rcases quota.exec_reserve zones call g.state with
    ⟨err, hexec⟩ | ⟨hchecks, decision, db', hexec, hdecide⟩
  · rw [hexec]
    exact quota.counted_of_refused zones hcounted rfl call
  · rw [hexec]
    rcases decide_ok hdecide with ⟨hrefused, rfl, -⟩ | ⟨hallowed, rfl, -⟩
    · exact quota.counted_of_refused zones hcounted (o := .ok decision) hrefused call
    · constructor
      · intro key
        unfold charged
        rw [allowed_allowed (o := .ok decision) hallowed, List.map_cons, List.sum_cons, used_charges,
          hcounted.used_eq key]
        unfold charged
        push_cast
        omega
      · rw [allowed_allowed (o := .ok decision) hallowed]
        intro r hr
        rcases List.mem_cons.mp hr with rfl | hr
        · exact hchecks
        · exact hcounted.checked r hr

/-- **What a counter holds**, after any history on a store without counters. -/
theorem used_eq_charged {db : Database}
    {guard : Stage Database Reservation (Except PyError QuotaDecision) → Reservation → Prop}
    {g : Stage Database Reservation (Except PyError QuotaDecision)}
    (h : (quota.machine zones).Reaches guard (Machine.start { db with quotaUsage := ∅ }) g) :
    quota.Counted zones g.log g.state :=
  Machine.Reaches.invariant (I := fun g => quota.Counted zones g.log g.state)
    ⟨fun _ => rfl, fun _ hr => absurd hr List.not_mem_nil⟩ h
    fun _ call _ hcounted => quota.counted_advance zones hcounted call

/-- A call is refused exactly when one of its counters has been charged up to the limit. -/
theorem refused_iff_charged {g : Stage Database Reservation (Except PyError QuotaDecision)}
    (hcounted : quota.Counted zones g.log g.state) {call : Reservation} {decision : QuotaDecision}
    {db' : Database}
    (h : (quota.reserve zones call.scopes call.now).exec g.state = (.ok decision, db')) :
    decision.allowed = false ↔ ∃ check ∈ quota.checksOf zones call,
      check.rule.limit ≤ quota.charged zones g.log (counter check) := by
  obtain ⟨-, hdecide⟩ := quota.reserve_ok zones h
  have hexhausted : ∀ check, exhausted g.state check = true ↔
      check.rule.limit ≤ quota.charged zones g.log (counter check) := fun check => by
    rw [exhausted_iff, hcounted.used_eq]
  rcases decide_ok hdecide with ⟨hrefused, -, check, hmem, hfull⟩ | ⟨hallowed, -, hfree⟩
  · exact ⟨fun _ => ⟨check, hmem, (hexhausted check).mp hfull⟩, fun _ => hrefused⟩
  · constructor
    · intro hrefused
      rw [hallowed] at hrefused
      cases hrefused
    · rintro ⟨check, hmem, hlimit⟩
      exact absurd ((hexhausted check).mpr hlimit) (hfree check hmem)

/-! ### One rule -/

/-- What a check is made of. -/
structure IsCheck (r : Reservation) (check : QuotaCheck) : Prop where
  scope : r.scope? check.rule.scopeKind = some check.scope
  window : quotaWindow zones r.now check.rule = .ok (check.start, check.stop)

theorem isCheck_of_built {r : Reservation} {rule : QuotaRule} {check : QuotaCheck}
    (h : (match r.scopes.find? fun scope => scope.kind = rule.scopeKind with
      | none => Except.error (PyError.validation ("missing quota scope: " ++ rule.scopeKind.value))
      | some scope => do
        let window ← quotaWindow zones r.now rule
        return ({ rule, scope, start := window.1, stop := window.2 } : QuotaCheck)) = .ok check) :
    check.rule = rule ∧ IsCheck zones r check := by
  cases hscope : r.scopes.find? fun scope => scope.kind = rule.scopeKind with
  | none =>
    rw [hscope] at h
    cases h
  | some scope =>
    rw [hscope] at h
    obtain ⟨window, hwindow, hcheck⟩ := bind_eq_ok.mp h
    obtain rfl := Except.ok.inj hcheck
    exact ⟨rfl, ⟨hscope, hwindow⟩⟩

/-- The checks of a reservation are those of the rules, in their order. -/
theorem checksOf_get {r : Reservation} (hchecks : quota.checks zones r.scopes r.now =
    .ok (quota.checksOf zones r)) (i : ℕ) :
    (∀ rule, quota.rules[i]? = some rule → ∃ check, (quota.checksOf zones r)[i]? = some check ∧
      check.rule = rule ∧ IsCheck zones r check) ∧
      ∀ check, (quota.checksOf zones r)[i]? = some check →
        quota.rules[i]? = some check.rule ∧ IsCheck zones r check := by
  unfold checks at hchecks
  obtain ⟨hrules, hvalues⟩ := mapM_get hchecks i
  constructor
  · intro rule hrule
    obtain ⟨check, hcheck, hbuilt⟩ := hrules rule hrule
    exact ⟨check, hcheck, isCheck_of_built zones hbuilt⟩
  · intro check hcheck
    obtain ⟨rule, hrule, hbuilt⟩ := hvalues check hcheck
    obtain ⟨rfl, hmade⟩ := isCheck_of_built zones hbuilt
    exact ⟨hrule, hmade⟩

/-- Two checks of one rule have one counter when their scopes and their windows agree. -/
theorem counter_eq_iff {r call : Reservation} {check' check : QuotaCheck}
    (h' : IsCheck zones r check') (h : IsCheck zones call check) (hrule : check'.rule = check.rule) :
    counter check' = counter check ↔
      (r.scope? check.rule.scopeKind).map QuotaScope.ref = some check.scope.ref ∧
        ∃ stop, quotaWindow zones r.now check.rule = .ok (check.start, stop) := by
  have hscope' := h'.scope
  have hwindow' := h'.window
  rw [hrule] at hscope' hwindow'
  have hkind' : check'.scope.kind = check.rule.scopeKind := by
    simpa using List.find?_some hscope'
  have hkind : check.scope.kind = check.rule.scopeKind := by
    simpa using List.find?_some h.scope
  rw [hscope', hwindow']
  unfold counter usage QuotaUsage.key
  constructor
  · intro heq
    obtain ⟨-, href, -, hstart⟩ := by simpa using heq
    exact ⟨by rw [Option.map_some, href], check'.stop, by rw [hstart]⟩
  · rintro ⟨href, stop, hwindow⟩
    have hstart : check'.start = check.start := (Prod.mk.inj (Except.ok.inj hwindow)).1
    rw [Option.map_some] at href
    rw [hkind', hkind, Option.some.inj href, hrule, hstart]

/-- A list with at most one element that counts, at a known place. -/
theorem countP_of_place {α : Type} {p : α → Bool} {xs : List α} {i : ℕ} {a : α}
    (ha : xs[i]? = some a) (hothers : ∀ j, i ≠ j → ∀ b, xs[j]? = some b → p b = false) :
    xs.countP p = if p a = true then 1 else 0 := by
  induction xs generalizing i with
  | nil => simp at ha
  | cons x xs ih =>
    rw [List.countP_cons]
    cases i with
    | zero =>
      obtain rfl := Option.some.inj ha
      have hrest : xs.countP p = 0 := by
        rw [List.countP_eq_zero]
        intro b hb
        obtain ⟨j, hj⟩ := List.mem_iff_getElem?.mp hb
        have hfalse := hothers (j + 1) (by omega) b (by rw [List.getElem?_cons_succ]; exact hj)
        simp [hfalse]
      rw [hrest, Nat.zero_add]
    | succ i =>
      rw [List.getElem?_cons_succ] at ha
      have hx : p x = false := hothers 0 (by omega) x rfl
      have hrest := ih ha fun j hj b hb =>
        hothers (j + 1) (by omega) b (by rw [List.getElem?_cons_succ]; exact hb)
      rw [hrest, hx]
      rfl

theorem sum_map_eq_countP {α : Type} {f : α → ℕ} {p : α → Bool} {xs : List α}
    (h : ∀ x ∈ xs, f x = if p x = true then 1 else 0) : (xs.map f).sum = xs.countP p := by
  induction xs with
  | nil => rfl
  | cons x xs ih =>
    rw [List.map_cons, List.sum_cons, List.countP_cons, h x List.mem_cons_self,
      ih fun y hy => h y (List.mem_cons_of_mem _ hy), Nat.add_comm]

/-- **The counter of a rule holds what the rule is about**, when the call is separate. -/
theorem charged_eq_reservedIn {log : List (Entry Reservation (Except PyError QuotaDecision))}
    (hchecked : ∀ r ∈ allowed log,
      quota.checks zones r.scopes r.now = .ok (quota.checksOf zones r))
    {call : Reservation} (hcall : quota.checks zones call.scopes call.now =
      .ok (quota.checksOf zones call)) (hseparate : quota.Separate zones log call)
    {check : QuotaCheck} (hmem : check ∈ quota.checksOf zones call) :
    quota.charged zones log (counter check) = reservedIn log check := by
  obtain ⟨i, hi⟩ := List.mem_iff_getElem?.mp hmem
  obtain ⟨hrule, hmade⟩ := (quota.checksOf_get zones hcall i).2 check hi
  -- every earlier reservation charged the counter once or not at all, by the same rule
  have hone : ∀ r ∈ allowed log,
      ((quota.checksOf zones r).countP fun check' => counter check' = counter check) =
        if (r.scope? check.rule.scopeKind).map QuotaScope.ref = some check.scope.ref ∧
          check.start ≤ r.now ∧ r.now < check.stop then 1 else 0 := by
    intro r hr
    obtain ⟨check', hi', hrule', hmade'⟩ :=
      (quota.checksOf_get zones (hchecked r hr) i).1 check.rule hrule
    rw [countP_of_place hi' fun j hj other hother => by
      simpa using hseparate.counters r hr i j hj check hi other hother]
    have hcounter := counter_eq_iff zones hmade' hmade hrule'
    have hiff : (Decidable.decide (counter check' = counter check) = true) ↔
        ((r.scope? check.rule.scopeKind).map QuotaScope.ref = some check.scope.ref ∧
          check.start ≤ r.now ∧ r.now < check.stop) := by
      rw [decide_eq_true_iff, hcounter]
      constructor
      · rintro ⟨href, hwindow⟩
        exact ⟨href, (hseparate.windows check hmem r hr href).mpr hwindow⟩
      · rintro ⟨href, hin⟩
        exact ⟨href, (hseparate.windows check hmem r hr href).mp hin⟩
    simp only [hiff]
  unfold charged reservedIn
  exact sum_map_eq_countP fun r hr => by
    simp only [decide_eq_true_eq]
    exact hone r hr

/-! ### Clocks that are not set back -/

/-- The window of a rule in such a zone. -/
theorem quotaWindow_of_constantOffset {rule : QuotaRule} {offset : Int}
    (hzone : zones.ConstantOffset rule.timezone offset) {t start stop : Instant}
    (h : quotaWindow zones t rule = .ok (start, stop)) :
    start = rule.window.floor (t + offset) - offset ∧ stop = start + rule.window.length := by
  unfold quotaWindow at h
  obtain ⟨-, -, h⟩ := bind_eq_ok.mp h
  obtain ⟨reading, hreading, h⟩ := bind_eq_ok.mp h
  have hlocal : reading = { wall := t + offset, zone := .named rule.timezone } := by
    unfold DateTime.astimezone at hreading
    rw [if_neg (by rintro ⟨⟩)] at hreading
    obtain ⟨utc, hutc, hreading⟩ := bind_eq_ok.mp hreading
    obtain ⟨-, hreading⟩ := raiseIf_bind_ok.mp hreading
    obtain ⟨-, hvalue⟩ := raiseIf_bind_ok.mp hutc
    obtain rfl := Except.ok.inj hvalue
    obtain rfl := Except.ok.inj hreading
    have hnow : (DateTime.ofInstant t).instant zones = t := Int.sub_zero t
    rw [hnow, hzone.fromutc]
  subst hlocal
  obtain ⟨stopReading, hstop, h⟩ := bind_eq_ok.mp h
  obtain ⟨startUtc, hstartUtc, h⟩ := bind_eq_ok.mp h
  obtain ⟨stopUtc, hstopUtc, h⟩ := bind_eq_ok.mp h
  obtain ⟨rfl, rfl⟩ := Prod.mk.inj (Except.ok.inj h)
  obtain ⟨-, hplus⟩ := raiseIf_bind_ok.mp hstop
  obtain rfl := Except.ok.inj hplus
  obtain ⟨-, hstart⟩ := raiseIf_bind_ok.mp hstartUtc
  obtain ⟨-, hend⟩ := raiseIf_bind_ok.mp hstopUtc
  have hstart' : startUtc = rule.window.floor (t + offset) - offset := by
    rw [← Except.ok.inj hstart]
    show _ - zones.utcoffset _ _ _ = _
    rw [hzone.utcoffset]
  refine ⟨hstart', ?_⟩
  rw [← Except.ok.inj hend, hstart']
  show _ + _ - zones.utcoffset _ _ _ = _
  rw [hzone.utcoffset]
  exact add_sub_right_comm _ _ _

/-- A window is one block of the clock. -/
theorem block_iff (window : QuotaWindow) (now t offset : Int) :
    (window.floor (now + offset) - offset ≤ t ∧
        t < window.floor (now + offset) - offset + window.length) ↔
      window.floor (t + offset) - offset = window.floor (now + offset) - offset := by
  have hblock : ∀ size : Int, 0 < size → ∀ x y : Int,
      (x - x % size ≤ y ∧ y < x - x % size + size) ↔ y - y % size = x - x % size := by
    intro size hsize x y
    have hx := Int.emod_nonneg x hsize.ne'
    have hy := Int.emod_nonneg y hsize.ne'
    have hy' := Int.emod_lt_of_pos y hsize
    have hdx := Int.mul_ediv_add_emod x size
    have hdy := Int.mul_ediv_add_emod y size
    constructor
    · rintro ⟨hle, hlt⟩
      have hdiv : y / size = x / size := by
        rw [Int.ediv_eq_iff_of_pos hsize]
        rw [Int.mul_comm] at hdx
        constructor
        · linarith
        · linarith
      rw [hdiv] at hdy
      linarith
    · intro heq
      constructor
      · linarith
      · linarith
  have hwindow : window.floor (now + offset) = now + offset - (now + offset) % window.length ∧
      window.floor (t + offset) = t + offset - (t + offset) % window.length ∧
      0 < window.length := by
    cases window with
    | second => exact ⟨rfl, rfl, by decide⟩
    | minute => exact ⟨rfl, rfl, by decide⟩
    | day => exact ⟨rfl, rfl, by decide⟩
  obtain ⟨hnow, ht, hlength⟩ := hwindow
  have h := hblock window.length hlength (now + offset) (t + offset)
  rw [hnow, ht]
  constructor
  · rintro ⟨hle, hlt⟩
    have heq := h.mp ⟨by linarith, by linarith⟩
    rw [heq]
  · intro heq
    obtain ⟨hle, hlt⟩ := h.mpr (by linarith)
    exact ⟨by linarith, by linarith⟩

/-- **In a zone whose offset does not change, a window has one beginning.** -/
theorem window_of_constantOffset {rule : QuotaRule} {offset : Int}
    (hzone : zones.ConstantOffset rule.timezone offset) {t now start stop start' stop' : Instant}
    (h : quotaWindow zones now rule = .ok (start, stop))
    (h' : quotaWindow zones t rule = .ok (start', stop')) :
    (start ≤ t ∧ t < stop) ↔ ∃ stop, quotaWindow zones t rule = .ok (start, stop) := by
  obtain ⟨hstart, hstop⟩ := quotaWindow_of_constantOffset zones hzone h
  obtain ⟨hstart', -⟩ := quotaWindow_of_constantOffset zones hzone h'
  have hsame : (∃ stop, quotaWindow zones t rule = .ok (start, stop)) ↔ start' = start := by
    rw [h']
    constructor
    · rintro ⟨stop, hstop⟩
      exact (Prod.mk.inj (Except.ok.inj hstop)).1
    · rintro rfl
      exact ⟨stop', rfl⟩
  rw [hsame, hstart', hstop, hstart]
  exact block_iff rule.window now t offset

/-! ### The quota is exact -/

/-- **When a quota refuses exactly what its rules say.** After any history of reservations on a store
without counters, a call that is separate from it is refused if and only if for some rule the
reservations allowed for its scope in its current window have reached the limit. A refusal leaves the
store as it was, separate or not. -/
theorem refuses_iff_limit_reached {db : Database}
    {g : Stage Database Reservation (Except PyError QuotaDecision)}
    (hrun : (quota.machine zones).Reaches (fun _ _ => True)
      (Machine.start { db with quotaUsage := ∅ }) g)
    {call : Reservation} {decision : QuotaDecision} {db' : Database}
    (hcall : (quota.reserve zones call.scopes call.now).exec g.state = (.ok decision, db')) :
    (quota.Separate zones g.log call →
      (decision.allowed = false ↔ ∃ check ∈ quota.checksOf zones call,
        check.rule.limit ≤ reservedIn g.log check)) ∧
      (decision.allowed = false → db' = g.state) := by
  have hcounted := quota.used_eq_charged zones hrun
  obtain ⟨hchecks, hdecide⟩ := quota.reserve_ok zones hcall
  constructor
  · intro hseparate
    rw [quota.refused_iff_charged zones hcounted hcall]
    have hsame : ∀ check ∈ quota.checksOf zones call,
        (check.rule.limit ≤ (quota.charged zones g.log (counter check) : ℕ) ↔
          check.rule.limit ≤ (reservedIn g.log check : ℕ)) := fun check hmem => by
      rw [quota.charged_eq_reservedIn zones hcounted.checked hchecks hseparate hmem]
    constructor
    · rintro ⟨check, hmem, hlimit⟩
      exact ⟨check, hmem, (hsame check hmem).mp hlimit⟩
    · rintro ⟨check, hmem, hlimit⟩
      exact ⟨check, hmem, (hsame check hmem).mpr hlimit⟩
  · intro hrefused
    rcases decide_ok hdecide with ⟨-, rfl, -⟩ | ⟨hallowed, -, -⟩
    · rfl
    · rw [hallowed] at hrefused
      cases hrefused

/-! A manager with two limits for the minutes of a user, one of them in another zone. The zone
database has offsets of whole hours, so both rules count in the same counter. -/

/-- Two zones an hour apart. -/
def twoZones : TimeZones where
  lookup _ := .found
  utcoffset key _ _ := if key = "UTC" then 0 else Duration.minutes 60
  fromutc key t := (t + if key = "UTC" then 0 else Duration.minutes 60, false)

/-- Two messages a minute. -/
def twicePerMinute (timezone : String) : QuotaRule where
  scopeKind := .user
  window := .minute
  limit := 2
  timezone
  limit_positive := by decide

def oneRule : QuotaManager := ⟨[twicePerMinute "UTC"], by decide⟩

def sharedCounter : QuotaManager := ⟨[twicePerMinute "UTC", twicePerMinute "Europe/Paris"], by decide⟩

def forAlice (now : Instant) : Reservation :=
  ⟨[{ kind := .user, ref := "alice", ref_nonblank := @rfl Bool false }], now⟩

theorem refuses_third : ∃ decision db',
    (oneRule.reserve twoZones (forAlice 3).scopes 3).exec
        ((oneRule.machine twoZones).replay (Machine.start {}) [forAlice 1, forAlice 2]).state =
      (.ok decision, db') ∧ decision.allowed = false ∧
    ∃ check ∈ oneRule.checksOf twoZones (forAlice 3), check.rule.limit ≤
      reservedIn ((oneRule.machine twoZones).replay (Machine.start {}) [forAlice 1, forAlice 2]).log
        check := by
  obtain ⟨decision, db', hcall, hrefused⟩ : ∃ decision db',
      (oneRule.reserve twoZones (forAlice 3).scopes 3).exec
        ((oneRule.machine twoZones).replay (Machine.start {}) [forAlice 1, forAlice 2]).state =
      (.ok decision, db') ∧ decision.allowed = false := ⟨_, _, rfl, rfl⟩
  have hrun : (oneRule.machine twoZones).Reaches (fun _ _ => True)
      (Machine.start { ({} : Database) with quotaUsage := ∅ })
      ((oneRule.machine twoZones).replay (Machine.start {}) [forAlice 1, forAlice 2]) :=
    Machine.Reaches.of_follows ⟨trivial, trivial, trivial⟩
  have hallowed : allowed ((oneRule.machine twoZones).replay (Machine.start {})
      [forAlice 1, forAlice 2]).log = [forAlice 2, forAlice 1] := rfl
  have hseparate : oneRule.Separate twoZones ((oneRule.machine twoZones).replay (Machine.start {})
      [forAlice 1, forAlice 2]).log (forAlice 3) := by
    constructor
    · intro r hr i j hij check hi check' hj
      -- there is one rule only
      have hlength : ∀ r, (oneRule.checksOf twoZones r).length ≤ 1 := fun r => by
        unfold checksOf
        cases hchecks : oneRule.checks twoZones r.scopes r.now with
        | error err => exact Nat.zero_le 1
        | ok checks => exact (mapM_eq_ok.mp hchecks).length_eq.ge
      have hi' := (List.getElem?_eq_some_iff.mp hi).1
      have hj' := (List.getElem?_eq_some_iff.mp hj).1
      have hcall := hlength (forAlice 3)
      have hr := hlength r
      omega
    · intro check hcheck r hr _
      have hzone : twoZones.ConstantOffset check.rule.timezone
          (if check.rule.timezone = "UTC" then 0 else Duration.minutes 60) :=
        ⟨fun _ _ => rfl, fun _ => rfl⟩
      rw [hallowed] at hr
      have hwindow : quotaWindow twoZones 3 check.rule = .ok (check.start, check.stop) := by
        obtain rfl := List.mem_singleton.mp hcheck
        rfl
      have hearlier : ∃ w, quotaWindow twoZones r.now check.rule = .ok w := by
        obtain rfl := List.mem_singleton.mp hcheck
        rcases List.mem_pair.mp hr with rfl | rfl
        · exact ⟨_, rfl⟩
        · exact ⟨_, rfl⟩
      obtain ⟨w, hw⟩ := hearlier
      exact window_of_constantOffset twoZones hzone hwindow hw
  exact ⟨decision, db', hcall, hrefused,
    ((oneRule.refuses_iff_limit_reached twoZones hrun hcall).1 hseparate).mp hrefused⟩

/-- **Two rules that share a counter**: the second reservation of two is refused. -/
theorem refuses_early : ∃ decision db',
    (sharedCounter.reserve twoZones (forAlice 2).scopes 2).exec
        ((sharedCounter.machine twoZones).replay (Machine.start {}) [forAlice 1]).state =
      (.ok decision, db') ∧ decision.allowed = false ∧
    ¬ ∃ check ∈ sharedCounter.checksOf twoZones (forAlice 2), check.rule.limit ≤
      reservedIn ((sharedCounter.machine twoZones).replay (Machine.start {}) [forAlice 1]).log
        check := by
  refine ⟨_, _, rfl, rfl, ?_⟩
  decide

end QuotaManager

end Zhixu
