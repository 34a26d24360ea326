import Mathlib.Data.List.Induction
import Mathlib.Logic.Function.Basic

/-!
# Chains of authentication codes

A log whose entries carry, each, a code of their own content and of the code before.
`head tag origin events` is the code of the last of them, and `origin` stands where there
is none before.

A code is *binding* when it is injective in the content and the code before together, and
never the origin. Both are what a collision-free keyed hash promises of the texts it is
given. Under them a head determines the whole log (`head_injective`): compare the last
entries, which agree in content and in the code before, and go on with that one. No
position enters the argument, so it does not matter how the entries are numbered.

What an append needs is the converse view: the codes of all entries (`codes`), and that the next
one is none of them (`head_concat_not_mem`).

`Verifies` is the check a reader makes, entry by entry from the front; a log that passes
stores exactly the codes it should (`Verifies.codes`), so an entry somewhere in the middle
whose code is a head authenticates everything in front of it
(`Verifies.prefix_of_code`), and with the entries the codes agree too
(`Verifies.prefix_of_entries`). A list that is not where another begins departs from it at a first
element (`exists_departure`).
-/

namespace Framework

universe u v w

variable {ε : Type u} {τ : Type v}

/-- What authenticates an entry together with the code before it. -/
structure Binding (tag : ε → τ → τ) (origin : τ) : Prop where
  injective : ∀ {e e' previous previous'}, tag e previous = tag e' previous' →
    e = e' ∧ previous = previous'
  ne_origin : ∀ e previous, tag e previous ≠ origin

namespace Chain

/-- The code of the last entry of a log. -/
def head (tag : ε → τ → τ) (origin : τ) (events : List ε) : τ :=
  events.foldl (fun previous e => tag e previous) origin

variable {tag : ε → τ → τ} {origin : τ}

@[simp] theorem head_nil : head tag origin ([] : List ε) = origin := rfl

theorem head_concat (events : List ε) (e : ε) :
    head tag origin (events ++ [e]) = tag e (head tag origin events) := by
  unfold head
  rw [List.foldl_append]
  rfl

/-- **A head determines the log.** -/
theorem head_injective (binding : Binding tag origin) :
    Function.Injective (head tag origin) := by
  intro events
  induction events using List.reverseRecOn with
  | nil =>
    intro events' h
    cases events' using List.reverseRecOn with
    | nil => rfl
    | append_singleton events' e' =>
      rw [head_nil, head_concat] at h
      exact absurd h.symm (binding.ne_origin e' _)
  | append_singleton events e ih =>
    intro events' h
    cases events' using List.reverseRecOn with
    | nil =>
      rw [head_nil, head_concat] at h
      exact absurd h (binding.ne_origin e _)
    | append_singleton events' e' =>
      rw [head_concat, head_concat] at h
      obtain ⟨rfl, hprevious⟩ := binding.injective h
      rw [ih hprevious]

/-- The codes of all entries of a log. -/
def codes (tag : ε → τ → τ) : τ → List ε → List τ
  | _, [] => []
  | previous, e :: events => tag e previous :: codes tag (tag e previous) events

theorem codes_concat (previous : τ) (events : List ε) (e : ε) :
    codes tag previous (events ++ [e]) =
      codes tag previous events ++ [head tag previous (events ++ [e])] := by
  induction events generalizing previous with
  | nil => rfl
  | cons e' events ih =>
    show tag e' previous :: codes tag (tag e' previous) (events ++ [e]) = _
    rw [ih]
    rfl

/-- Every code is the head of a part of the log. -/
theorem mem_codes {previous c : τ} {events : List ε} (h : c ∈ codes tag previous events) :
    ∃ front back, events = front ++ back ∧ c = head tag previous front := by
  induction events using List.reverseRecOn with
  | nil => exact absurd h List.not_mem_nil
  | append_singleton events e ih =>
    rw [codes_concat, List.mem_append, List.mem_singleton] at h
    rcases h with hold | rfl
    · obtain ⟨front, back, rfl, hc⟩ := ih hold
      exact ⟨front, back ++ [e], by simp, hc⟩
    · exact ⟨events ++ [e], [], by simp, rfl⟩

/-- The last code is the head. -/
theorem getLast_codes (events : List ε) :
    (codes tag origin events).getLast?.getD origin = head tag origin events := by
  induction events using List.reverseRecOn with
  | nil => rfl
  | append_singleton events e _ =>
    rw [codes_concat, List.getLast?_concat]
    rfl

/-- **The next code is new.** -/
theorem head_concat_not_mem (binding : Binding tag origin) (events : List ε) (e : ε) :
    head tag origin (events ++ [e]) ∉ codes tag origin events := by
  intro h
  obtain ⟨front, back, hsplit, hhead⟩ := mem_codes h
  have hlog := congrArg List.length (head_injective binding hhead)
  rw [hsplit] at hlog
  simp only [List.length_append, List.length_singleton] at hlog
  omega

/-! ### A stored log -/

variable {ρ : Type w}

/-- The check of a stored log, row by row, behind a code `previous`: every row has an
entry, names the code before it and has the code of both. -/
def Verifies (tag : ε → τ → τ) (entry : ρ → Option ε) (before code : ρ → τ) :
    τ → List ρ → Prop
  | _, [] => True
  | previous, r :: rows =>
    before r = previous ∧
      ∃ e, entry r = some e ∧ code r = tag e previous ∧
        Verifies tag entry before code (tag e previous) rows

variable {entry : ρ → Option ε} {before code : ρ → τ}

/-- **The rows of a log that passes**: all have an entry, and the code of each is the head
of the log up to it. -/
theorem Verifies.codes {rows : List ρ} {earlier : List ε}
    (h : Verifies tag entry before code (head tag origin earlier) rows) :
    ∃ events : List ε, rows.map entry = events.map some ∧
      ∀ front r back, rows = front ++ r :: back →
        code r = head tag origin (earlier ++ events.take (front.length + 1)) := by
  induction rows generalizing earlier with
  | nil => exact ⟨[], rfl, fun front r back h => absurd h (by simp)⟩
  | cons r rows ih =>
    obtain ⟨-, e, hentry, hcode, hrest⟩ := h
    have hhead : head tag origin (earlier ++ [e]) = tag e (head tag origin earlier) :=
      head_concat earlier e
    rw [← hhead] at hcode hrest
    obtain ⟨events, hevents, hcodes⟩ := ih hrest
    refine ⟨e :: events, by rw [List.map_cons, List.map_cons, hentry, hevents], ?_⟩
    intro front r' back hsplit
    cases front with
    | nil =>
      obtain ⟨rfl, -⟩ := List.cons.inj hsplit
      simpa using hcode
    | cons r₀ front =>
      obtain ⟨-, hsplit⟩ := List.cons.inj hsplit
      have := hcodes front r' back hsplit
      simpa [List.append_assoc] using this

/-- **A code in the middle authenticates what is in front of it.** If a row of a log that
passes has the head of `events` for its code, then the log begins with `events`. -/
theorem Verifies.prefix_of_code (binding : Binding tag origin) {rows : List ρ}
    (h : Verifies tag entry before code origin rows) {r : ρ} (hr : r ∈ rows) {events : List ε}
    (hcode : code r = head tag origin events) :
    events.map some <+: rows.map entry := by
  have h : Verifies tag entry before code (head tag origin []) _ := h
  obtain ⟨found, hfound, hcodes⟩ := h.codes
  obtain ⟨front, back, hsplit⟩ := List.append_of_mem hr
  have hhead := hcodes front r back hsplit
  rw [List.nil_append, hcode] at hhead
  rw [head_injective binding hhead, hfound]
  exact (List.take_prefix _ _).map some

/-- The last code of a log that passes is its head. -/
theorem Verifies.last (rows : List ρ) {r : ρ}
    (h : Verifies tag entry before code origin (rows ++ [r])) :
    ∃ events : List ε, (rows ++ [r]).map entry = events.map some ∧
      code r = head tag origin events := by
  have h : Verifies tag entry before code (head tag origin []) _ := h
  obtain ⟨events, hevents, hcodes⟩ := h.codes
  refine ⟨events, hevents, ?_⟩
  have hlength := congrArg List.length hevents
  rw [List.length_map, List.length_map, List.length_append, List.length_singleton] at hlength
  rw [hcodes rows r [] rfl, List.nil_append, hlength, List.take_length]

/-- Where the entries of two logs that pass agree, so do the codes they store. -/
theorem Verifies.prefix_of_entries {rows rows' : List ρ} {previous : τ}
    (h : Verifies tag entry before code previous rows)
    (h' : Verifies tag entry before code previous rows')
    (hprefix₀ : rows.map entry <+: rows'.map entry) :
    rows.map (fun r => (entry r, before r, code r)) <+:
      rows'.map fun r => (entry r, before r, code r) := by
  induction rows generalizing rows' previous with
  | nil => exact List.nil_prefix
  | cons r rows ih =>
    cases rows' with
    | nil => exact absurd (List.prefix_nil.mp hprefix₀) (by simp)
    | cons r' rows' =>
      obtain ⟨hbefore, e, hentry, hcode, hrest⟩ := h
      obtain ⟨hbefore', e', hentry', hcode', hrest'⟩ := h'
      rw [List.map_cons, List.map_cons, List.cons_prefix_cons] at hprefix₀
      obtain ⟨hhead, htail⟩ := hprefix₀
      have he : e = e' := by
        rw [hentry, hentry'] at hhead
        exact Option.some.inj hhead
      subst he
      rw [List.map_cons, List.map_cons, List.cons_prefix_cons]
      refine ⟨?_, ih hrest hrest' htail⟩
      rw [hhead, hbefore, hbefore', hcode, hcode']

/-- **A code of another log authenticates what leads up to it.** If the last row of a log that passes
has a code that a row of a second such log has, then the first log is where the second begins. -/
theorem Verifies.prefix_of_last (binding : Binding tag origin) {rows front : List ρ} {r : ρ}
    (h : Verifies tag entry before code origin rows)
    (hfront : Verifies tag entry before code origin (front ++ [r]))
    (hcode : ∃ r' ∈ rows, code r' = code r) :
    (front ++ [r]).map (fun r => (entry r, before r, code r)) <+:
      rows.map fun r => (entry r, before r, code r) := by
  obtain ⟨r', hr', hsame⟩ := hcode
  obtain ⟨events, hevents, hlast⟩ := hfront.last
  have hentries := h.prefix_of_code binding hr' (hsame.trans hlast)
  rw [← hevents] at hentries
  exact hfront.prefix_of_entries h hentries

/-- Where a list departs from another: the first element that is not what the other goes on with. -/
theorem exists_departure {α : Type u} {β : Type v} {f : α → β} {xs : List α} {ys : List β}
    (h : ¬ xs.map f <+: ys) :
    ∃ front x back, xs = front ++ x :: back ∧ front.map f <+: ys ∧
      ¬ (front ++ [x]).map f <+: ys := by
  induction xs using List.reverseRecOn with
  | nil => exact absurd List.nil_prefix h
  | append_singleton xs x ih =>
    by_cases hfront : xs.map f <+: ys
    · exact ⟨xs, x, [], rfl, hfront, h⟩
    · obtain ⟨front, y, back, rfl, hagree, hdepart⟩ := ih hfront
      exact ⟨front, y, back ++ [x], by simp, hagree, hdepart⟩

end Chain

end Framework
