import Mathlib.Data.List.Sort

/-!
# Ranks

The rank of an element of a list is the number of elements before it in an order. A list that is
sorted and then cut off after `n` elements keeps exactly those of a rank below `n`
(`mem_take_insertionSort`): an `ORDER BY … LIMIT n` can be understood without its sort.

The order is given by a coordinate in a linear order, and no two elements have the same coordinate.
-/

namespace Framework

namespace Rank

variable {α β : Type*} [LinearOrder β]

/-- The number of elements whose coordinate is below a bound. -/
def below (f : α → β) (l : List α) (bound : β) : ℕ := l.countP fun y => f y < bound

theorem below_perm {f : α → β} {l l' : List α} (h : l.Perm l') (bound : β) :
    below f l bound = below f l' bound :=
  h.countP_eq _

/-- In a list that is sorted, an element comes after those below it and nothing else. -/
theorem below_of_sorted {f : α → β} {before after : List α} {x : α}
    (hsorted : (before ++ x :: after).Pairwise fun a b => f a < f b) :
    below f (before ++ x :: after) (f x) = before.length := by
  obtain ⟨-, hright, hacross⟩ := List.pairwise_append.mp hsorted
  obtain ⟨hafter, -⟩ := List.pairwise_cons.mp hright
  have hbefore : before.countP (fun y => decide (f y < f x)) = before.length :=
    List.countP_eq_length.mpr fun y hy =>
      decide_eq_true (hacross y hy x List.mem_cons_self)
  have hrest : (x :: after).countP (fun y => decide (f y < f x)) = 0 := by
    rw [List.countP_eq_zero]
    intro y hy
    rw [decide_eq_true_eq]
    rcases List.mem_cons.mp hy with rfl | hy
    · exact lt_irrefl _
    · exact (hafter y hy).not_gt
  unfold below
  rw [List.countP_append, hbefore, hrest, Nat.add_zero]

/-- A sorted list cut off after `n` elements. -/
theorem mem_take_of_sorted {f : α → β} {l : List α}
    (hsorted : l.Pairwise fun a b => f a < f b) {n : ℕ} {x : α} :
    x ∈ l.take n ↔ x ∈ l ∧ below f l (f x) < n := by
  constructor
  · intro hx
    refine ⟨List.mem_of_mem_take hx, ?_⟩
    obtain ⟨before, after, hsplit⟩ := List.append_of_mem hx
    have hall : l = before ++ x :: (after ++ l.drop n) := by
      calc l = l.take n ++ l.drop n := (List.take_append_drop n l).symm
        _ = before ++ x :: (after ++ l.drop n) := by
          rw [hsplit, List.append_assoc, List.cons_append]
    rw [hall] at hsorted
    have hlength : before.length < (l.take n).length := by
      rw [hsplit, List.length_append, List.length_cons]
      exact Nat.lt_add_of_pos_right (Nat.succ_pos _)
    rw [hall, below_of_sorted hsorted]
    exact hlength.trans_le (List.length_take_le n l)
  · rintro ⟨hx, hrank⟩
    obtain ⟨before, after, rfl⟩ := List.append_of_mem hx
    rw [below_of_sorted hsorted] at hrank
    rw [List.take_append, List.take_cons (Nat.sub_pos_of_lt hrank)]
    exact List.mem_append_right _ List.mem_cons_self

/-- **A list that is sorted and cut off** keeps the elements of a small rank. -/
theorem mem_take_insertionSort {f : α → β} {l : List α} (hnodup : (l.map f).Nodup) {n : ℕ} {x : α} :
    x ∈ (l.insertionSort fun a b => f a ≤ f b).take n ↔ x ∈ l ∧ below f l (f x) < n := by
  have hperm : (l.insertionSort fun a b => f a ≤ f b).Perm l := List.perm_insertionSort _ l
  have hle : (l.insertionSort fun a b => f a ≤ f b).Pairwise fun a b => f a ≤ f b :=
    List.pairwise_insertionSort _ l
  have hne : (l.insertionSort fun a b => f a ≤ f b).Pairwise fun a b => f a ≠ f b :=
    List.pairwise_map.mp ((hperm.map f).nodup_iff.mpr hnodup)
  have hsorted := (hle.and hne).imp fun ⟨h, h'⟩ => lt_of_le_of_ne h h'
  rw [mem_take_of_sorted hsorted, List.mem_insertionSort, below_perm hperm]

/-- The number of elements whose coordinate is above a bound. -/
def above (f : α → β) (l : List α) (bound : β) : ℕ := l.countP fun y => bound < f y

/-- In a list that is sorted, an element comes before those above it and nothing else. -/
theorem above_of_sorted {f : α → β} {before after : List α} {x : α}
    (hsorted : (before ++ x :: after).Pairwise fun a b => f a < f b) :
    above f (before ++ x :: after) (f x) = after.length := by
  obtain ⟨-, hright, hacross⟩ := List.pairwise_append.mp hsorted
  obtain ⟨hafter, -⟩ := List.pairwise_cons.mp hright
  have hall : after.countP (fun y => decide (f x < f y)) = after.length :=
    List.countP_eq_length.mpr fun y hy => decide_eq_true (hafter y hy)
  have hbefore : before.countP (fun y => decide (f x < f y)) = 0 := by
    rw [List.countP_eq_zero]
    intro y hy
    rw [decide_eq_true_eq]
    exact (hacross y hy x List.mem_cons_self).not_gt
  have hself : decide (f x < f x) = false := decide_eq_false (lt_irrefl _)
  unfold above
  rw [List.countP_append, List.countP_cons, hbefore, hall, hself]
  simp

/-- **The place of an element in a sorted list** is its rank. -/
theorem getElem?_iff_below {f : α → β} {l : List α} (hsorted : l.Pairwise fun a b => f a < f b)
    {k : ℕ} {x : α} : l[k]? = some x ↔ x ∈ l ∧ below f l (f x) = k := by
  constructor
  · intro h
    obtain ⟨hk, hx⟩ := List.getElem?_eq_some_iff.mp h
    have hsplit : l = l.take k ++ x :: l.drop (k + 1) := by
      calc l = l.take k ++ l.drop k := (List.take_append_drop k l).symm
        _ = l.take k ++ x :: l.drop (k + 1) := by rw [List.drop_eq_getElem_cons hk, hx]
    refine ⟨List.mem_of_getElem? h, ?_⟩
    rw [hsplit] at hsorted
    rw [hsplit, below_of_sorted hsorted, List.length_take, Nat.min_eq_left hk.le]
  · rintro ⟨hx, hrank⟩
    obtain ⟨before, after, rfl⟩ := List.append_of_mem hx
    rw [below_of_sorted hsorted] at hrank
    rw [← hrank, List.getElem?_append_right (Nat.le_refl _), Nat.sub_self, List.getElem?_cons_zero]

/-- Every other element of a sorted list is below or above. -/
theorem below_add_above {f : α → β} {l : List α} (hsorted : l.Pairwise fun a b => f a < f b)
    {x : α} (hx : x ∈ l) : below f l (f x) + above f l (f x) + 1 = l.length := by
  obtain ⟨before, after, rfl⟩ := List.append_of_mem hx
  rw [below_of_sorted hsorted, above_of_sorted hsorted, List.length_append, List.length_cons,
    Nat.add_assoc]

end Rank

end Framework
