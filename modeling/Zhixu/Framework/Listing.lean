import Mathlib.Data.List.Forall2
import Mathlib.Data.List.Nodup
import Mathlib.Data.List.Perm.Subperm
import Zhixu.Framework.Effect

/-!
# Complete listings

A query answers with a list of values, and the question is whether it has left something out. What it
should answer with is given by a predicate `P` on the things that have a value, and by the relation
between a thing and its value: the answer *lists* `P` when its entries are the values of exactly the
things with `P`, each of them once. `ListsInOrder` is about a list as it stands, `Lists` about a list
that has been sorted since.

The things with `P` need not be enumerable in any useful way. What carries the reasoning is the
counting argument `lists_iff`: an answer that lists some `Q ⊆ P` lists `P` if and only if nothing with
`P` lacks `Q`, since two listings by the same list have the same length. So it is enough to say what a
query does list.

For that there are two rules. `lists_collect` is for a comprehension over a list, and
`listsInOrder_flatten` for the concatenation of the answers to several queries. Besides, it is said
here when a comprehension or a map goes through (`collect_returns`, `mapM_returns`), and what is known
of its values (`collect_filter`, `collect_pairwise`, `mapM_map`).
-/

namespace Framework

universe u v w

section Listing

variable {α : Type u} {β : Type v} {P Q : α → Prop} {value : α → β → Prop} {found : List β}

/-- The list consists of the values of exactly the things with `P`, each once. -/
def ListsInOrder (P : α → Prop) (value : α → β → Prop) (found : List β) : Prop :=
  ∃ all : List α, all.Nodup ∧ (∀ x, x ∈ all ↔ P x) ∧ List.Forall₂ value all found

/-- The list consists of the values of exactly the things with `P`, each once, in some order. -/
def Lists (P : α → Prop) (value : α → β → Prop) (found : List β) : Prop :=
  ∃ values, ListsInOrder P value values ∧ found.Perm values

theorem ListsInOrder.congr (h : ListsInOrder P value found) (hiff : ∀ x, P x ↔ Q x) :
    ListsInOrder Q value found := by
  obtain ⟨all, hnodup, hall, hvalues⟩ := h
  exact ⟨all, hnodup, fun x => (hall x).trans (hiff x), hvalues⟩

theorem ListsInOrder.imp {value' : α → β → Prop} (h : ListsInOrder P value found)
    (himp : ∀ x y, value x y → value' x y) : ListsInOrder P value' found := by
  obtain ⟨all, hnodup, hall, hvalues⟩ := h
  exact ⟨all, hnodup, hall, hvalues.imp himp⟩

/-- What is listed has its value in the list. -/
theorem Lists.exists_value (h : Lists P value found) {x : α} (hx : P x) :
    ∃ y ∈ found, value x y := by
  obtain ⟨values, ⟨all, -, hall, hvalues⟩, hperm⟩ := h
  obtain ⟨i, hi, rfl⟩ := List.getElem_of_mem ((hall x).mpr hx)
  have hi' : i < values.length := by rwa [← hvalues.length_eq]
  exact ⟨values[i], hperm.mem_iff.mpr (List.getElem_mem hi'), hvalues.get hi hi'⟩

/-- **Nothing is missing.** An answer that lists `Q` lists the larger `P` exactly if nothing with `P`
lacks `Q`. -/
theorem lists_iff (hQ : Lists Q value found) (hsub : ∀ x, Q x → P x) :
    Lists P value found ↔ ∀ x, P x → Q x := by
  obtain ⟨values, ⟨some, hnodup, hsome, hvalues⟩, hperm⟩ := hQ
  constructor
  · rintro ⟨values', ⟨all, -, hall, hvalues'⟩, hperm'⟩ x hx
    -- both listings are as long as the answer
    have hlength : all.length ≤ some.length := by
      exact Nat.le_of_eq (by
        rw [hvalues.length_eq, hvalues'.length_eq, ← hperm.length_eq, hperm'.length_eq])
    have hsubset : some ⊆ all := fun y hy => (hall y).mpr (hsub y ((hsome y).mp hy))
    have hsame : some.Perm all :=
      (List.subperm_of_subset hnodup hsubset).perm_of_length_le hlength
    exact (hsome x).mp (hsame.mem_iff.mpr ((hall x).mpr hx))
  · intro h
    exact ⟨values, ⟨some, hnodup, fun x => (hsome x).trans ⟨hsub x, h x⟩, hvalues⟩, hperm⟩

/-- A comprehension goes through if it does at every element. -/
theorem collect_returns {ε α β : Type u} {f : α → Except ε (Option β)} {xs : List α} :
    (∃ ys, collect f xs = .ok ys) ↔ ∀ x ∈ xs, ∃ y, f x = .ok y := by
  induction xs with
  | nil => exact ⟨fun _ x hx => absurd hx List.not_mem_nil, fun _ => ⟨[], rfl⟩⟩
  | cons x xs ih =>
    have hcons : (∃ ys, collect f (x :: xs) = .ok ys) ↔
        (∃ y, f x = .ok y) ∧ ∃ ys, collect f xs = .ok ys := by
      constructor
      · rintro ⟨ys, h⟩
        unfold collect at h
        obtain ⟨y, hy, hrest⟩ := bind_eq_ok.mp h
        obtain ⟨ys', hys', -⟩ := bind_eq_ok.mp hrest
        exact ⟨⟨y, hy⟩, ys', hys'⟩
      · rintro ⟨⟨y, hy⟩, ys, hys⟩
        refine ⟨y.toList ++ ys, ?_⟩
        unfold collect
        exact bind_eq_ok.mpr ⟨y, hy, bind_eq_ok.mpr ⟨ys, hys, rfl⟩⟩
    rw [hcons, ih, List.forall_mem_cons]

/-- A comprehension with a condition is a filter. -/
theorem collect_filter {ε α : Type u} {f : α → Except ε (Option α)} {p : α → Bool} {xs : List α}
    (h : ∀ x ∈ xs, f x = .ok (if p x = true then some x else none)) :
    collect f xs = .ok (xs.filter p) := by
  induction xs with
  | nil => rfl
  | cons x xs ih =>
    have hrest := ih fun y hy => h y (List.mem_cons_of_mem _ hy)
    unfold collect
    rw [h x (List.mem_cons_self ..), hrest]
    by_cases hp : p x = true
    · rw [List.filter_cons_of_pos hp, if_pos hp]
      rfl
    · rw [List.filter_cons_of_neg hp, if_neg hp]
      rfl

/-- A map goes through if it does at every element. -/
theorem mapM_returns {ε : Type v} {α : Type w} {β : Type u} {f : α → Except ε β} {xs : List α} :
    (∃ ys, xs.mapM f = .ok ys) ↔ ∀ x ∈ xs, ∃ y, f x = .ok y := by
  simp only [mapM_eq_ok]
  constructor
  · rintro ⟨ys, h⟩ x hx
    obtain ⟨i, hi, rfl⟩ := List.getElem_of_mem hx
    have hi' : i < ys.length := by rwa [← h.length_eq]
    exact ⟨ys[i], h.get hi hi'⟩
  · intro h
    induction xs with
    | nil => exact ⟨[], .nil⟩
    | cons x xs ih =>
      obtain ⟨y, hy⟩ := h x (List.mem_cons_self ..)
      obtain ⟨ys, hys⟩ := ih fun z hz => h z (List.mem_cons_of_mem _ hz)
      exact ⟨y :: ys, .cons hy hys⟩

/-- Two maps that agree at every element are one. -/
theorem mapM_congr {ε : Type v} {α : Type w} {β : Type u} {f g : α → Except ε β} {xs : List α}
    (h : ∀ x ∈ xs, f x = g x) : xs.mapM f = xs.mapM g := by
  induction xs with
  | nil => rfl
  | cons x xs ih =>
    rw [List.mapM_cons, List.mapM_cons, h x (List.mem_cons_self ..),
      ih fun z hz => h z (List.mem_cons_of_mem _ hz)]

/-- What is known of the values of a map is known of its list. -/
theorem mapM_map {ε : Type v} {α : Type w} {β : Type u} {γ : Type*} {f : α → Except ε β}
    {g : α → γ} {k : β → γ} {xs : List α} {ys : List β} (h : xs.mapM f = .ok ys)
    (hf : ∀ x ∈ xs, ∀ y, f x = .ok y → k y = g x) : ys.map k = xs.map g := by
  rw [mapM_eq_ok] at h
  induction h with
  | nil => rfl
  | cons hxy _ ih =>
    rw [List.map_cons, List.map_cons, hf _ (List.mem_cons_self ..) _ hxy,
      ih fun x hx => hf x (List.mem_cons_of_mem _ hx)]

/-- The values of a sorted list are in order. -/
theorem collect_pairwise {ε α β : Type u} {f : α → Except ε (Option β)} {R : α → α → Prop}
    {S : β → β → Prop} {xs : List α} {ys : List β} (hxs : xs.Pairwise R)
    (hf : ∀ x x' y y', R x x' → f x = .ok (some y) → f x' = .ok (some y') → S y y')
    (h : collect f xs = .ok ys) : ys.Pairwise S := by
  induction xs generalizing ys with
  | nil =>
    obtain rfl := Except.ok.inj h
    exact .nil
  | cons x xs ih =>
    obtain ⟨hhead, htail⟩ := List.pairwise_cons.mp hxs
    unfold collect at h
    obtain ⟨y, hy, hrest⟩ := bind_eq_ok.mp h
    obtain ⟨ys', hys', hdone⟩ := bind_eq_ok.mp hrest
    obtain rfl := Except.ok.inj hdone
    cases y with
    | none => exact ih htail hys'
    | some y =>
      refine List.pairwise_cons.mpr ⟨fun y' hy' => ?_, ih htail hys'⟩
      obtain ⟨x', hx', hvalue⟩ := (mem_collect hys').mp hy'
      exact hf x x' y y' (hhead x' hx') hy hvalue

/-- A comprehension lists the elements that have a value. -/
theorem lists_collect {ε α β : Type u} {f : α → Except ε (Option β)} {xs : List α} {ys : List β}
    (hnodup : xs.Nodup) (h : collect f xs = .ok ys) :
    ListsInOrder (fun x => x ∈ xs ∧ ∃ y, f x = .ok (some y)) (fun x y => f x = .ok (some y)) ys := by
  induction xs generalizing ys with
  | nil =>
    obtain rfl := Except.ok.inj h
    exact ⟨[], .nil, by simp, .nil⟩
  | cons x xs ih =>
    unfold collect at h
    obtain ⟨y, hy, hrest⟩ := bind_eq_ok.mp h
    obtain ⟨ys', hys', hdone⟩ := bind_eq_ok.mp hrest
    obtain rfl := Except.ok.inj hdone
    rw [List.nodup_cons] at hnodup
    obtain ⟨all, hall, hmem, hvalues⟩ := ih hnodup.2 hys'
    cases y with
    | none =>
      refine ⟨all, hall, fun z => ?_, hvalues⟩
      show z ∈ all ↔ z ∈ x :: xs ∧ ∃ y, f z = .ok (some y)
      rw [hmem, List.mem_cons]
      constructor
      · rintro ⟨hz, hvalue⟩
        exact ⟨.inr hz, hvalue⟩
      · rintro ⟨rfl | hz, y', hvalue⟩
        · rw [hy] at hvalue
          cases hvalue
        · exact ⟨hz, y', hvalue⟩
    | some y =>
      have hx : x ∉ all := fun hx => hnodup.1 ((hmem x).mp hx).1
      refine ⟨x :: all, List.nodup_cons.mpr ⟨hx, hall⟩, fun z => ?_, .cons hy hvalues⟩
      show z ∈ x :: all ↔ z ∈ x :: xs ∧ ∃ y, f z = .ok (some y)
      rw [List.mem_cons, List.mem_cons, hmem]
      constructor
      · rintro (rfl | ⟨hz, hvalue⟩)
        · exact ⟨.inl rfl, y, hy⟩
        · exact ⟨.inr hz, hvalue⟩
      · rintro ⟨rfl | hz, hvalue⟩
        · exact .inl rfl
        · exact .inr ⟨hz, hvalue⟩

/-- The answers to several queries, one after the other, list the things of each. -/
theorem listsInOrder_flatten {ρ : Type w} {P : ρ → α → Prop} {value : ρ → α → β → Prop}
    {rows : List ρ} {answers : List (List β)} (hnodup : rows.Nodup)
    (h : List.Forall₂ (fun r answer => ListsInOrder (P r) (value r) answer) rows answers) :
    ListsInOrder (fun p : ρ × α => p.1 ∈ rows ∧ P p.1 p.2) (fun p => value p.1 p.2)
      answers.flatten := by
  induction h with
  | nil => exact ⟨[], .nil, by simp, .nil⟩
  | @cons r answer rows answers hr _ ih =>
    rw [List.nodup_cons] at hnodup
    obtain ⟨all, hall, hmem, hvalues⟩ := ih hnodup.2
    obtain ⟨here, hhere, hmem', hvalues'⟩ := hr
    refine ⟨here.map (fun x => (r, x)) ++ all, ?_, fun p => ?_, ?_⟩
    · -- what belongs to another row is another pair
      refine List.nodup_append'.mpr ⟨hhere.map fun x y h => (Prod.mk.inj h).2, hall, ?_⟩
      intro p hp hp'
      obtain ⟨x, -, rfl⟩ := List.mem_map.mp hp
      exact hnodup.1 ((hmem _).mp hp').1
    · show p ∈ here.map (fun x => (r, x)) ++ all ↔ p.1 ∈ r :: rows ∧ P p.1 p.2
      rw [List.mem_append, List.mem_map, hmem, List.mem_cons]
      constructor
      · rintro (⟨x, hx, rfl⟩ | ⟨hp, hP⟩)
        · exact ⟨.inl rfl, (hmem' x).mp hx⟩
        · exact ⟨.inr hp, hP⟩
      · rintro ⟨hp | hp, hP⟩
        · exact .inl ⟨p.2, (hmem' _).mpr (hp ▸ hP), by rw [← hp]⟩
        · exact .inr ⟨hp, hP⟩
    · rw [List.flatten_cons]
      refine List.rel_append ?_ hvalues
      rw [List.forall₂_map_left_iff]
      exact hvalues'

end Listing

end Framework
