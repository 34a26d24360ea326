import Mathlib.Logic.Relation
import Mathlib.Data.List.Basic

/-!
# Logged runs of a deterministic machine

A `Machine` answers a call with an outcome and a next state. A run is recorded
as a `Stage`: the log of all calls made so far with the outcome each received,
newest entry first, and the state they lead to. `Machine.Step` extends a stage
by one call that meets a guard; the guard sees the whole stage, so it can state
what an environment promises about a call relative to the past (a clock that
does not run backwards, a token never drawn before).

`Machine.Reaches` is the reflexive transitive closure. Two rules carry every
result about runs:

* `Reaches.invariant` — a predicate on stages that holds at the start and is
  preserved by every guarded step holds at every stage reached;
* `Reaches.stable` — its relative form, between two stages of one run.

Where a guard is exactly what a step needs to keep an invariant, `forall_prefix_iff_follows` makes it
exactly what a list of calls needs to keep the invariant all along.
-/

namespace Framework

universe u v w

/-- A deterministic machine: the outcome of a call and the state after it. -/
structure Machine (σ : Type u) (ε : Type v) (ο : Type w) where
  exec : σ → ε → ο × σ

/-- One line of a log. -/
structure Entry (ε : Type v) (ο : Type w) where
  call : ε
  outcome : ο
deriving DecidableEq, Repr

/-- A point of a run: what was called and answered so far (newest first), and
the state reached. -/
structure Stage (σ : Type u) (ε : Type v) (ο : Type w) where
  log : List (Entry ε ο)
  state : σ

namespace Machine

variable {σ : Type u} {ε : Type v} {ο : Type w}

/-- The stage before any call. -/
def start (s : σ) : Stage σ ε ο := ⟨[], s⟩

@[simp] theorem start_log (s : σ) : (start s : Stage σ ε ο).log = [] := rfl
@[simp] theorem start_state (s : σ) : (start s : Stage σ ε ο).state = s := rfl

variable (M : Machine σ ε ο)

/-- The log entry a call produces in a state. -/
def entry (s : σ) (c : ε) : Entry ε ο := ⟨c, (M.exec s c).1⟩

/-- A stage extended by one call. -/
def advance (g : Stage σ ε ο) (c : ε) : Stage σ ε ο :=
  ⟨M.entry g.state c :: g.log, (M.exec g.state c).2⟩

@[simp] theorem advance_log (g : Stage σ ε ο) (c : ε) :
    (M.advance g c).log = M.entry g.state c :: g.log := rfl

@[simp] theorem advance_state (g : Stage σ ε ο) (c : ε) :
    (M.advance g c).state = (M.exec g.state c).2 := rfl

@[simp] theorem entry_call (s : σ) (c : ε) : (M.entry s c).call = c := rfl

@[simp] theorem entry_outcome (s : σ) (c : ε) :
    (M.entry s c).outcome = (M.exec s c).1 := rfl

/-- A stage extended by a list of calls, in order. -/
def replay (g : Stage σ ε ο) : List ε → Stage σ ε ο
  | [] => g
  | c :: cs => replay (M.advance g c) cs

theorem replay_append (g : Stage σ ε ο) (cs ds : List ε) :
    M.replay g (cs ++ ds) = M.replay (M.replay g cs) ds := by
  induction cs generalizing g with
  | nil => rfl
  | cons c cs ih => exact ih (M.advance g c)

/-- What a replay adds to the log: each of its calls, answered where it stands. -/
theorem mem_log_replay {g : Stage σ ε ο} {cs : List ε} {e : Entry ε ο} :
    e ∈ (M.replay g cs).log ↔
      e ∈ g.log ∨ ∃ pre c post, cs = pre ++ c :: post ∧ e = M.entry (M.replay g pre).state c := by
  induction cs generalizing g with
  | nil =>
    constructor
    · intro h
      exact .inl h
    · rintro (h | ⟨pre, c, post, hnil, -⟩)
      · exact h
      · simp at hnil
  | cons c cs ih =>
    change e ∈ (M.replay (M.advance g c) cs).log ↔ _
    rw [ih, advance_log, List.mem_cons]
    constructor
    · rintro ((rfl | h) | ⟨pre, d, post, rfl, rfl⟩)
      · exact .inr ⟨[], c, cs, rfl, rfl⟩
      · exact .inl h
      · exact .inr ⟨c :: pre, d, post, rfl, rfl⟩
    · rintro (h | ⟨pre, d, post, hcs, rfl⟩)
      · exact .inl (.inr h)
      · cases pre with
        | nil =>
          obtain ⟨rfl, -⟩ := List.cons.inj hcs
          exact .inl (.inl rfl)
        | cons b pre =>
          obtain ⟨rfl, rfl⟩ := List.cons.inj hcs
          exact .inr ⟨pre, d, post, rfl, rfl⟩

/-- Every call of a list meets the guard when its turn comes. -/
def Follows (guard : Stage σ ε ο → ε → Prop) (g : Stage σ ε ο) : List ε → Prop
  | [] => True
  | c :: cs => guard g c ∧ Follows guard (M.advance g c) cs

/-- A guard that every call meets where it stands, place by place. -/
theorem follows_iff {guard : Stage σ ε ο → ε → Prop} {g : Stage σ ε ο} {cs : List ε} :
    M.Follows guard g cs ↔ ∀ pre c post, cs = pre ++ c :: post → guard (M.replay g pre) c := by
  induction cs generalizing g with
  | nil =>
    constructor
    · intro _ pre c post hnil
      simp at hnil
    · intro _
      exact trivial
  | cons c cs ih =>
    constructor
    · rintro ⟨hc, hcs⟩ pre d post hsplit
      cases pre with
      | nil =>
        obtain ⟨rfl, -⟩ := List.cons.inj hsplit
        exact hc
      | cons b pre =>
        obtain ⟨rfl, hrest⟩ := List.cons.inj hsplit
        exact ih.mp hcs pre d post hrest
    · intro h
      refine ⟨h [] c cs rfl, ih.mpr fun pre d post hsplit => ?_⟩
      exact h (c :: pre) d post (by rw [hsplit]; rfl)

/-- What every call moves one way, a replay moves that way. -/
theorem replay_moves {R : σ → σ → Prop} (hrefl : ∀ s, R s s)
    (htrans : ∀ s s' s'', R s s' → R s' s'' → R s s'') (hstep : ∀ s c, R s (M.exec s c).2)
    (g : Stage σ ε ο) (cs : List ε) : R g.state (M.replay g cs).state := by
  induction cs generalizing g with
  | nil => exact hrefl _
  | cons c cs ih => exact htrans _ _ _ (hstep g.state c) (ih (M.advance g c))

/-- One guarded step of a run. -/
def Step (guard : Stage σ ε ο → ε → Prop) (g g' : Stage σ ε ο) : Prop :=
  ∃ c, guard g c ∧ g' = M.advance g c

/-- Every stage that guarded steps reach. -/
abbrev Reaches (guard : Stage σ ε ο → ε → Prop) : Stage σ ε ο → Stage σ ε ο → Prop :=
  Relation.ReflTransGen (M.Step guard)

/-- Whether a list of calls meets a guard can be computed when the guard can. -/
def decidableFollows {guard : Stage σ ε ο → ε → Prop} (dec : ∀ g c, Decidable (guard g c)) :
    ∀ (g : Stage σ ε ο) (cs : List ε), Decidable (M.Follows guard g cs)
  | _, [] => .isTrue trivial
  | g, c :: cs =>
    match dec g c, decidableFollows dec (M.advance g c) cs with
    | .isTrue hc, .isTrue hcs => .isTrue ⟨hc, hcs⟩
    | .isFalse hc, _ => .isFalse fun h => hc h.1
    | _, .isFalse hcs => .isFalse fun h => hcs h.2

instance {guard : Stage σ ε ο → ε → Prop} [dec : ∀ g c, Decidable (guard g c)]
    (g : Stage σ ε ο) (cs : List ε) : Decidable (M.Follows guard g cs) :=
  M.decidableFollows dec g cs

/-- **Exact guards.** When a step keeps a property exactly if it meets the guard, given what holds in
every run, the property holds all along a list of calls exactly if every call meets the guard. -/
theorem forall_prefix_iff_follows {guard : Stage σ ε ο → ε → Prop} {I J : Stage σ ε ο → Prop}
    (hkeep : ∀ g c, J g → J (M.advance g c))
    (hstep : ∀ g c, J g → I g → (I (M.advance g c) ↔ guard g c)) {g : Stage σ ε ο} (hJ : J g)
    (hI : I g) (cs : List ε) :
    (∀ pre, pre <+: cs → I (M.replay g pre)) ↔ M.Follows guard g cs := by
  induction cs generalizing g with
  | nil =>
    constructor
    · intro _
      exact trivial
    · intro _ pre hpre
      obtain rfl := List.prefix_nil.mp hpre
      exact hI
  | cons c cs ih =>
    constructor
    · intro h
      have hfirst : I (M.advance g c) := h [c] ⟨cs, rfl⟩
      refine ⟨(hstep g c hJ hI).mp hfirst, (ih (hkeep g c hJ) hfirst).mp fun pre hpre => ?_⟩
      exact h (c :: pre) ((List.prefix_cons_inj c).mpr hpre)
    · rintro ⟨hguard, hfollows⟩ pre hpre
      have hfirst := (hstep g c hJ hI).mpr hguard
      cases pre with
      | nil => exact hI
      | cons c' pre =>
        obtain ⟨rfl, htail⟩ := List.cons_prefix_cons.mp hpre
        exact (ih (hkeep g _ hJ) hfirst).mpr hfollows pre htail

/-- What every call keeps holds after a replay. -/
theorem replay_invariant {J : Stage σ ε ο → Prop} (hkeep : ∀ g c, J g → J (M.advance g c))
    {g : Stage σ ε ο} (hJ : J g) (cs : List ε) : J (M.replay g cs) := by
  induction cs generalizing g with
  | nil => exact hJ
  | cons c cs ih => exact ih (hkeep g c hJ)

namespace Reaches

variable {M} {guard : Stage σ ε ο → ε → Prop} {g g' g'' : Stage σ ε ο}

theorem call (h : M.Reaches guard g g') {c : ε} (hc : guard g' c) :
    M.Reaches guard g (M.advance g' c) :=
  h.tail ⟨c, hc, rfl⟩

/-- A list of calls that meet the guard is a run. -/
theorem of_follows {cs : List ε} {g : Stage σ ε ο} (h : M.Follows guard g cs) :
    M.Reaches guard g (M.replay g cs) := by
  induction cs generalizing g with
  | nil => exact .refl
  | cons c cs ih => exact .head ⟨c, h.1, rfl⟩ (ih h.2)

/-- **Invariant rule.** -/
theorem stable {I : Stage σ ε ο → Prop} (hI : I g) (h : M.Reaches guard g g')
    (hstep : ∀ g c, guard g c → I g → I (M.advance g c)) : I g' := by
  induction h with
  | refl => exact hI
  | tail _ hlast ih =>
    obtain ⟨c, hc, rfl⟩ := hlast
    exact hstep _ c hc ih

theorem invariant {I : Stage σ ε ο → Prop} {s : σ} (hI : I (start s))
    (h : M.Reaches guard (start s) g)
    (hstep : ∀ g c, guard g c → I g → I (M.advance g c)) : I g :=
  stable hI h hstep

end Reaches

end Machine

end Framework
