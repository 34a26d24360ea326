import Mathlib.Data.List.Basic
import Mathlib.Tactic.Ring

/-!
# Optimistic concurrency

A register holds a value that carries a version. A writer reads the value, computes
another one from it, and writes that back later, provided that the register still has
the version it read; the new value has the next version. This file is about what such a
register has been through, as the list of its `Commit`s, newest first.

`Serial` says that each commit was computed from what the commits before it had left and
raised the version by one. Three facts make it worth keeping as an invariant:

* `Serial.eq_of_version`: a value read at some point of a history whose version is still
  the current one *is* the current value, and no commit came in between. This is what
  a comparison of versions buys, and the step by which `Serial` is preserved;
* `Serial.countP_version`: each version in the span of the history was written by exactly
  one commit;
* `Serial.replay`: the current value is what comes of applying the writers one after the
  other, in the order of their versions.
-/

namespace Framework

universe u v w

/-- A write that went through: who made it, the value it was computed from, and the value
it left. -/
structure Commit (ω : Type u) (α : Type v) where
  writer : ω
  base : α
  value : α
deriving DecidableEq, Repr

namespace Commit

variable {ω : Type u} {α : Type v}

/-- The value after a history of commits. -/
def current (initial : α) : List (Commit ω α) → α
  | [] => initial
  | commit :: _ => commit.value

variable (version : α → ℤ) (initial : α)

/-- Each commit was computed from what the ones before it had left, and raised the version
by one. -/
def Serial : List (Commit ω α) → Prop
  | [] => True
  | commit :: older =>
    commit.base = current initial older ∧ version commit.value = version commit.base + 1 ∧
      Serial older

/-- Applying the writers of a history in the order in which they committed. -/
def replay {ε : Type w} (apply : ω → α → Except ε α) : List (Commit ω α) → Except ε α
  | [] => .ok initial
  | commit :: older => replay apply older >>= apply commit.writer

variable {version initial} {log : List (Commit ω α)}

namespace Serial

/-- The version counts the commits. -/
theorem version_current (h : Serial version initial log) :
    version (current initial log) = version initial + log.length := by
  induction log with
  | nil => simp [current]
  | cons commit older ih =>
    obtain ⟨hbase, hnext, holder⟩ := h
    have hcount : version (current initial older) = version initial + older.length := ih holder
    change version commit.value = _
    rw [hnext, hbase, hcount, List.length_cons]
    push_cast
    ring

/-- What came before the last commits of a history is a history. -/
theorem of_append {newer : List (Commit ω α)} (h : Serial version initial (newer ++ log)) :
    Serial version initial log := by
  induction newer with
  | nil => exact h
  | cons commit newer ih => exact ih h.2.2

theorem suffix {older : List (Commit ω α)} (h : Serial version initial log)
    (hsuffix : older <:+ log) : Serial version initial older := by
  obtain ⟨newer, rfl⟩ := hsuffix
  exact h.of_append

/-- **A version that is still current has not been overtaken.** -/
theorem eq_of_version {older : List (Commit ω α)} (h : Serial version initial log)
    (hsuffix : older <:+ log)
    (hversion : version (current initial older) = version (current initial log)) :
    older = log := by
  rw [(h.suffix hsuffix).version_current, h.version_current] at hversion
  exact hsuffix.eq_of_length (by omega)

/-- The base of a commit is the value that the commits before it left. -/
theorem base_eq {newer older : List (Commit ω α)} {commit : Commit ω α}
    (h : Serial version initial (newer ++ commit :: older)) :
    commit.base = current initial older :=
  h.of_append.1

theorem next_version {newer older : List (Commit ω α)} {commit : Commit ω α}
    (h : Serial version initial (newer ++ commit :: older)) :
    version commit.value = version commit.base + 1 :=
  h.of_append.2.1

/-- **Each version since the beginning was written once**, and no other was. -/
theorem countP_version (h : Serial version initial log) (n : ℤ) :
    log.countP (fun commit => version commit.value = n) =
      if version initial < n ∧ n ≤ version (current initial log) then 1 else 0 := by
  induction log with
  | nil =>
    have hempty : ¬ (version initial < n ∧ n ≤ version (current initial ([] : List (Commit ω α)))) := by
      change ¬ (version initial < n ∧ n ≤ version initial)
      omega
    rw [if_neg hempty]
    rfl
  | cons commit older ih =>
    obtain ⟨hbase, hnext, holder⟩ := h
    have hcount := holder.version_current
    rw [List.countP_cons, ih holder]
    change _ = if version initial < n ∧ n ≤ version commit.value then 1 else 0
    rw [hnext, hbase, hcount]
    simp only [decide_eq_true_eq]
    split_ifs <;> omega

/-- **The current value is the result of the writers, one after the other.** -/
theorem replay_eq {ε : Type w} {apply : ω → α → Except ε α} (h : Serial version initial log)
    (happly : ∀ commit ∈ log, apply commit.writer commit.base = .ok commit.value) :
    replay initial apply log = .ok (current initial log) := by
  induction log with
  | nil => rfl
  | cons commit older ih =>
    obtain ⟨hbase, -, holder⟩ := h
    have hbefore := ih holder fun c hc => happly c (List.mem_cons_of_mem _ hc)
    change replay initial apply older >>= apply commit.writer = .ok commit.value
    rw [hbefore]
    change apply commit.writer (current initial older) = _
    rw [← hbase]
    exact happly commit List.mem_cons_self

end Serial

end Commit

end Framework
