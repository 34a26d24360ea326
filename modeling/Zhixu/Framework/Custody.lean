import Mathlib.Data.List.Basic
import Mathlib.Data.List.Infix
import Mathlib.Tactic.ByContra

/-!
# Custody of one work item

The life of a work item that is handed out to workers under leases, seen from
the item: the list of everything that happened to it, newest event first (its
*trace*), and the `Custody` the trace leads to. Tokens name leases and times
are only compared, so both are parameters.

A trace is `Lawful` when every event was `Enabled` in the custody before it: an
item is handed out only while nobody holds an unexpired lease on it, and a
lease is ended only by its own token. Nothing is said about who checks this;
a store that claims to implement the protocol shows that its traces are lawful.

Two facts about lawful traces are used by such a store:

* `Lawful.ended_after_claim` — whoever ends a lease holds the token of the
  claim that is the last event of the trace. So a lease is ended at most once,
  and a worker that has been overtaken by any other event can end nothing;
* `Lawful.counted` — attempts are the hand-outs since the item was created or
  revived, less those returned unused. They stay within the limit in a
  `Prudent` trace, where no exhausted item was handed out on an expired lease
  (`Lawful.attempts_le`, `Lawful.handOuts_le`).
-/

namespace Framework

universe u v

/-- What can happen to a work item. The token of an ending event is the one its
worker presented. -/
inductive CustodyEvent (τ : Type u) (θ : Type v)
  | created (limit : ℕ)
  | claimed (token : τ) (now expiresAt : θ)
  /-- handed back unused: the hand-out does not count as an attempt -/
  | returned (token : τ)
  | finished (token : τ)
  /-- the attempt failed and the item waits for the next one -/
  | failed (token : τ)
  /-- the attempt failed and there will be no next one -/
  | buried (token : τ)
  | revived
deriving DecidableEq, Repr

/-- The event hands the item out. -/
def CustodyEvent.isClaim {τ : Type u} {θ : Type v} : CustodyEvent τ θ → Bool
  | .claimed .. => true
  | _ => false

/-- The event hands the item back unused. -/
def CustodyEvent.isReturn {τ : Type u} {θ : Type v} : CustodyEvent τ θ → Bool
  | .returned _ => true
  | _ => false

/-- Where a work item is. -/
inductive CustodyPhase (τ : Type u) (θ : Type v)
  | waiting
  | leased (token : τ) (expiresAt : θ)
  | finished
  | buried
deriving DecidableEq, Repr

structure Custody (τ : Type u) (θ : Type v) where
  limit : ℕ
  attempts : ℕ
  phase : CustodyPhase τ θ
deriving DecidableEq, Repr

namespace Custody

variable {τ : Type u} {θ : Type v}

/-- The custody after an event. -/
def follow : Option (Custody τ θ) → CustodyEvent τ θ → Option (Custody τ θ)
  | _, .created limit => some ⟨limit, 0, .waiting⟩
  | none, _ => none
  | some c, .claimed token _ expiresAt =>
    some { c with attempts := c.attempts + 1, phase := .leased token expiresAt }
  | some c, .returned _ => some { c with attempts := c.attempts - 1, phase := .waiting }
  | some c, .finished _ => some { c with phase := .finished }
  | some c, .failed _ => some { c with phase := .waiting }
  | some c, .buried _ => some { c with phase := .buried }
  | some c, .revived => some { c with attempts := 0, phase := .waiting }

/-- The custody a trace (newest event first) leads to. -/
def after : List (CustodyEvent τ θ) → Option (Custody τ θ)
  | [] => none
  | e :: es => follow (after es) e

@[simp] theorem after_nil : after ([] : List (CustodyEvent τ θ)) = none := rfl
@[simp] theorem after_cons (e : CustodyEvent τ θ) (es : List (CustodyEvent τ θ)) :
    after (e :: es) = follow (after es) e := rfl

/-- The lease is held by this token. -/
def Holds (c : Option (Custody τ θ)) (token : τ) : Prop :=
  ∃ c', c = some c' ∧ ∃ expiresAt, c'.phase = .leased token expiresAt

variable [LE θ]

/-- When the item may be handed out: nobody waits for it, or whoever holds it
has let the lease expire. -/
def Free (c : Option (Custody τ θ)) (now : θ) : Prop :=
  ∃ c', c = some c' ∧
    (c'.phase = .waiting ∨ ∃ token expiresAt, c'.phase = .leased token expiresAt ∧ expiresAt ≤ now)

/-- Which events the protocol allows in a custody. -/
def Enabled (c : Option (Custody τ θ)) : CustodyEvent τ θ → Prop
  | .created limit => c = none ∧ 0 < limit
  | .claimed _ now _ => Free c now
  | .returned token | .finished token | .buried token => Holds c token
  | .failed token => Holds c token ∧ ∀ c', c = some c' → c'.attempts < c'.limit
  | .revived => c ≠ none

/-- Every event of the trace was enabled when it happened. -/
def Lawful : List (CustodyEvent τ θ) → Prop
  | [] => True
  | e :: es => Enabled (after es) e ∧ Lawful es

namespace Lawful

omit [LE θ] in
/-- An item is leased exactly when its trace ends with the claim that issued the
lease. -/
theorem after_leased {es : List (CustodyEvent τ θ)} {c : Custody τ θ} {token : τ} {expiresAt : θ}
    (hc : after es = some c) (hphase : c.phase = .leased token expiresAt) :
    ∃ now old, es = .claimed token now expiresAt :: old := by
  cases es with
  | nil => exact absurd hc (by simp)
  | cons e old =>
    rw [after_cons] at hc
    -- only a claim leads to a lease
    cases e with
    | created limit =>
      cases hold : after old <;> rw [hold] at hc <;> simp only [follow, Option.some.injEq] at hc <;>
        subst hc <;> exact absurd hphase (by simp)
    | claimed token' now expiresAt' =>
      cases hold : after old with
      | none => rw [hold] at hc; exact absurd hc (by simp [follow])
      | some c' =>
        rw [hold] at hc
        simp only [follow, Option.some.injEq] at hc
        subst hc
        simp only [CustodyPhase.leased.injEq] at hphase
        obtain ⟨rfl, rfl⟩ := hphase
        exact ⟨now, old, rfl⟩
    | returned token' | finished token' | failed token' | buried token' | revived =>
      cases hold : after old with
      | none => rw [hold] at hc; exact absurd hc (by simp [follow])
      | some c' =>
        rw [hold] at hc
        simp only [follow, Option.some.injEq] at hc
        subst hc
        exact absurd hphase (by simp)

omit [LE θ] in
/-- **A lease is ended right after its claim.** Whoever presents the token of
the lease in force presents the one issued by the last event of the trace. -/
theorem ended_after_claim {es : List (CustodyEvent τ θ)} {token : τ}
    (h : Holds (after es) token) : ∃ now expiresAt old, es = .claimed token now expiresAt :: old := by
  obtain ⟨c, hc, expiresAt, hphase⟩ := h
  obtain ⟨now, old, hes⟩ := after_leased hc hphase
  exact ⟨now, expiresAt, old, hes⟩

/-- **No hand-out under a lease in force.** -/
theorem claimed_after_claim {token token' : τ} {now now' expiresAt expiresAt' : θ}
    {es : List (CustodyEvent τ θ)}
    (h : Lawful (.claimed token' now' expiresAt' :: .claimed token now expiresAt :: es)) :
    expiresAt ≤ now' := by
  obtain ⟨⟨c, hc, hfree⟩, -⟩ := h
  rw [after_cons] at hc
  cases hold : after es with
  | none => rw [hold] at hc; exact absurd hc (by simp [follow])
  | some c' =>
    rw [hold] at hc
    simp only [follow, Option.some.injEq] at hc
    subst hc
    rcases hfree with hwait | ⟨t, e, hlease, hle⟩
    · exact absurd hwait (by simp)
    · simp only [CustodyPhase.leased.injEq] at hlease
      obtain ⟨-, rfl⟩ := hlease
      exact hle

end Lawful

/-! ### Attempts and hand-outs -/

omit [LE θ] in
/-- The events since the item was last created or revived. -/
def sinceStart : List (CustodyEvent τ θ) → List (CustodyEvent τ θ)
  | [] => []
  | .created _ :: _ => []
  | .revived :: _ => []
  | e :: es => e :: sinceStart es

omit [LE θ] in
/-- How often the item has been handed out since then. -/
def handOuts (es : List (CustodyEvent τ θ)) : ℕ := (sinceStart es).countP CustodyEvent.isClaim

omit [LE θ] in
/-- How many of these hand-outs were given back unused. -/
def returns (es : List (CustodyEvent τ θ)) : ℕ := (sinceStart es).countP CustodyEvent.isReturn

/-- No item whose attempts are exhausted was handed out on an expired lease. -/
def Prudent : List (CustodyEvent τ θ) → Prop
  | [] => True
  | e :: es =>
    (e.isClaim = true → ∀ c, after es = some c →
      (∃ token expiresAt, c.phase = .leased token expiresAt) → c.attempts < c.limit) ∧ Prudent es

/-- What the attempts of an item say about it. -/
structure Counted (c : Custody τ θ) (es : List (CustodyEvent τ θ)) : Prop where
  limit_pos : 0 < c.limit
  balance : handOuts es = c.attempts + returns es
  leased_pos : ∀ token expiresAt, c.phase = .leased token expiresAt → 0 < c.attempts

/-- **The balance of hand-outs.** Attempts are the hand-outs that were not
returned. -/
theorem Lawful.counted {es : List (CustodyEvent τ θ)} (h : Lawful es) {c : Custody τ θ}
    (hc : after es = some c) : Counted c es := by
  induction es generalizing c with
  | nil => exact absurd hc (by simp)
  | cons e es ih =>
    obtain ⟨hen, hlaw⟩ := h
    rw [after_cons] at hc
    cases hold : after es with
    | none =>
      -- an item that does not exist can only be created
      rw [hold] at hc hen
      cases e with
      | created limit =>
        simp only [follow, Option.some.injEq] at hc
        subst hc
        exact ⟨hen.2, by simp [handOuts, returns, sinceStart], by simp⟩
      | claimed token now expiresAt => exact absurd hc (by simp [follow])
      | returned token | finished token | failed token | buried token | revived =>
        exact absurd hc (by simp [follow])
    | some c' =>
      rw [hold] at hc hen
      have hcount := ih hlaw hold
      have hbal := hcount.balance
      unfold handOuts returns at hbal
      cases e with
      | created limit => exact absurd hen.1 (by simp)
      | claimed token now expiresAt =>
        simp only [follow, Option.some.injEq] at hc
        subst hc
        refine ⟨hcount.limit_pos, ?_, by simp⟩
        simp only [handOuts, returns, sinceStart, List.countP_cons, CustodyEvent.isClaim,
          CustodyEvent.isReturn]
        simp only [if_true, Bool.false_eq_true, if_false]
        omega
      | returned token =>
        -- what is given back was leased, so there is an attempt to take off
        obtain ⟨c'', hc'', expiresAt, hleased⟩ := hen
        obtain rfl := Option.some.inj hc''
        have hpos := hcount.leased_pos _ _ hleased
        simp only [follow, Option.some.injEq] at hc
        subst hc
        refine ⟨hcount.limit_pos, ?_, by simp⟩
        simp only [handOuts, returns, sinceStart, List.countP_cons, CustodyEvent.isClaim,
          CustodyEvent.isReturn]
        simp only [if_true, Bool.false_eq_true, if_false]
        omega
      | finished token | failed token | buried token =>
        simp only [follow, Option.some.injEq] at hc
        subst hc
        refine ⟨hcount.limit_pos, ?_, by simp⟩
        simpa [handOuts, returns, sinceStart, CustodyEvent.isClaim, CustodyEvent.isReturn]
          using hbal
      | revived =>
        simp only [follow, Option.some.injEq] at hc
        subst hc
        exact ⟨hcount.limit_pos, by simp [handOuts, returns, sinceStart], by simp⟩

/-- **Attempts stay within the limit** in a prudent trace, and a waiting item
has an attempt left. -/
theorem Lawful.attempts_le {es : List (CustodyEvent τ θ)} (h : Lawful es) (hp : Prudent es)
    {c : Custody τ θ} (hc : after es = some c) :
    c.attempts ≤ c.limit ∧ (c.phase = .waiting → c.attempts < c.limit) := by
  induction es generalizing c with
  | nil => exact absurd hc (by simp)
  | cons e es ih =>
    have hcount := h.counted hc
    obtain ⟨hen, hlaw⟩ := h
    obtain ⟨hpe, hpes⟩ := hp
    rw [after_cons] at hc
    cases hold : after es with
    | none =>
      rw [hold] at hc hen
      cases e with
      | created limit =>
        simp only [follow, Option.some.injEq] at hc
        subst hc
        exact ⟨Nat.zero_le _, fun _ => hen.2⟩
      | claimed token now expiresAt => exact absurd hc (by simp [follow])
      | returned token | finished token | failed token | buried token | revived =>
        exact absurd hc (by simp [follow])
    | some c' =>
      rw [hold] at hc hen
      obtain ⟨hle, hwait⟩ := ih hlaw hpes hold
      cases e with
      | created limit => exact absurd hen.1 (by simp)
      | claimed token now expiresAt =>
        -- a waiting item has an attempt left; for an expired lease prudence says so
        have hlt : c'.attempts < c'.limit := by
          obtain ⟨c'', hc'', hfree⟩ := hen
          obtain rfl := Option.some.inj hc''
          rcases hfree with hw | ⟨t, ex, hl, -⟩
          · exact hwait hw
          · exact hpe rfl c' hold ⟨t, ex, hl⟩
        simp only [follow, Option.some.injEq] at hc
        subst hc
        exact ⟨hlt, by simp⟩
      | returned token =>
        obtain ⟨c'', hc'', expiresAt, hleased⟩ := hen
        obtain rfl := Option.some.inj hc''
        have hpos := (hlaw.counted hold).leased_pos _ _ hleased
        simp only [follow, Option.some.injEq] at hc
        subst hc
        refine ⟨?_, fun _ => ?_⟩
        · simp only; omega
        · simp only; omega
      | failed token =>
        have hlt := hen.2 c' rfl
        simp only [follow, Option.some.injEq] at hc
        subst hc
        exact ⟨hle, fun _ => hlt⟩
      | finished token | buried token =>
        simp only [follow, Option.some.injEq] at hc
        subst hc
        exact ⟨hle, by simp⟩
      | revived =>
        simp only [follow, Option.some.injEq] at hc
        subst hc
        exact ⟨Nat.zero_le _, fun _ => hcount.limit_pos⟩

/-- **Hand-outs stay within the limit**, those returned unused not counted. -/
theorem Lawful.handOuts_le {es : List (CustodyEvent τ θ)} (h : Lawful es) (hp : Prudent es)
    {c : Custody τ θ} (hc : after es = some c) : handOuts es ≤ c.limit + returns es := by
  rw [(h.counted hc).balance]
  exact Nat.add_le_add_right (h.attempts_le hp hc).1 _

end Custody

end Framework
