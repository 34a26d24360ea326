import Zhixu.Framework.Table

/-!
# Rows that hang on another row

A record that is spread over tables has one row of its own and, in other tables, rows that hang on it.
Two things happen to those tables when a record is written.

* A table that all records share only ever gains rows. `Table.Grows` says that a row, once found by
  its key, is found ever after, so whatever refers to it goes on meaning the same.
* A table of rows that belong to one record each has the rows of the written record taken out and new
  ones put in. `Replaced` says so, and the two questions a reader can ask are answered once: the rows
  of that record are the new ones, in the order in which they were put in
  (`Replaced.filter_own`), and the rows of another record are what they were
  (`Replaced.filter_other`).

`filter_flatMap_key` is the same for rows that hang on the rows that hang: among the rows that a list
of parents brings, those of one parent are the ones that parent brings.
-/

namespace Framework

universe u v w

/-! ### Tables that gain rows -/

namespace Table

variable {ρ : Type u} {κ : Type v} {key : ρ → κ} [DecidableEq κ]

/-- Every row that was found is found. -/
def Grows (T U : Table ρ key) : Prop := ∀ k r, T.find? k = some r → U.find? k = some r

theorem Grows.refl (T : Table ρ key) : Grows T T := fun _ _ h => h

theorem Grows.trans {T U V : Table ρ key} (h : Grows T U) (h' : Grows U V) : Grows T V :=
  fun k r hr => h' k r (h k r hr)

theorem Grows.mem {T U : Table ρ key} (h : Grows T U) {r : ρ} (hr : r ∈ T.rows) : r ∈ U.rows :=
  mem_of_find? (h (key r) r (find?_of_mem hr))

theorem grows_insert {T U : Table ρ key} {r : ρ} (h : T.insert? r = some U) : Grows T U := by
  intro k r' hr'
  have hne : k ≠ key r := by
    rintro rfl
    rw [(insert?_eq_some.mp h).1] at hr'
    exact absurd hr' (by simp)
  rw [find?_insert h, if_neg hne]
  exact hr'

end Table

/-! ### Rows that are replaced together -/

section Replaced

variable {ρ : Type u}

/-- The rows with `own` are taken out, and `new` ones with `own` are put in. -/
structure Replaced (own : ρ → Bool) (new rows rows' : List ρ) : Prop where
  eq : rows' = (rows.filter fun r => !own r) ++ new
  own_new : ∀ r ∈ new, own r = true

variable {own : ρ → Bool} {new rows rows' : List ρ}

theorem Replaced.filter_own (h : Replaced own new rows rows') : rows'.filter own = new := by
  rw [h.eq, List.filter_append, List.filter_filter, List.filter_eq_self.mpr h.own_new]
  have hnone : (rows.filter fun r => own r && !own r) = [] := by
    rw [List.filter_eq_nil_iff]
    intro r _
    simp
  rw [hnone, List.nil_append]

theorem Replaced.filter_other (h : Replaced own new rows rows') {p : ρ → Bool}
    (hp : ∀ r, p r = true → own r = false) : rows'.filter p = rows.filter p := by
  have hnone : new.filter p = [] := by
    rw [List.filter_eq_nil_iff]
    intro r hr hpr
    exact absurd ((h.own_new r hr).symm.trans (hp r hpr)) (by simp)
  rw [h.eq, List.filter_append, List.filter_filter, hnone, List.append_nil]
  refine List.filter_congr fun r _ => ?_
  cases hpr : p r with
  | true => rw [hp r hpr]; rfl
  | false => rfl

theorem Replaced.mem (h : Replaced own new rows rows') {r : ρ} (hr : r ∈ rows') :
    (r ∈ rows ∧ own r = false) ∨ r ∈ new := by
  rw [h.eq] at hr
  refine (List.mem_append.mp hr).imp_left fun hold => ?_
  obtain ⟨hmem, hown⟩ := List.mem_filter.mp hold
  exact ⟨hmem, by simpa using hown⟩

end Replaced

/-! ### Rows that hang on rows that hang -/

/-- Among the rows that a list of parents brings, those of one parent are the ones it brings. -/
theorem filter_flatMap_key {α : Type u} {ρ : Type v} {κ : Type w} [DecidableEq κ] {key : α → κ}
    {parent : ρ → κ} {bring : α → List ρ} (hbring : ∀ x, ∀ r ∈ bring x, parent r = key x)
    {xs : List α} (hnodup : (xs.map key).Nodup) {x : α} (hx : x ∈ xs) :
    (xs.flatMap bring).filter (fun r => parent r = key x) = bring x := by
  -- no row that another parent brings has this key
  have hother : ∀ ys : List α, key x ∉ ys.map key →
      (ys.flatMap bring).filter (fun r => parent r = key x) = [] := by
    intro ys hys
    rw [List.filter_eq_nil_iff]
    intro r hr hkey
    obtain ⟨y, hy, hry⟩ := List.mem_flatMap.mp hr
    have hyx : key y = key x := (hbring y r hry).symm.trans (by simpa using hkey)
    exact hys (hyx ▸ List.mem_map_of_mem hy)
  induction xs with
  | nil => exact absurd hx (by simp)
  | cons y ys ih =>
    rw [List.map_cons, List.nodup_cons] at hnodup
    obtain ⟨hy, hys⟩ := hnodup
    rw [List.flatMap_cons, List.filter_append]
    rcases List.mem_cons.mp hx with rfl | hmem
    · have hself : (bring x).filter (fun r => parent r = key x) = bring x :=
        List.filter_eq_self.mpr fun r hr => by simpa using hbring x r hr
      rw [hself, hother ys hy, List.append_nil]
    · have hne : key y ≠ key x := by
        intro heq
        rw [heq] at hy
        exact hy (List.mem_map_of_mem hmem)
      have hnone : (bring y).filter (fun r => parent r = key x) = [] := by
        rw [List.filter_eq_nil_iff]
        intro r hr hkey
        exact hne ((hbring y r hr).symm.trans (by simpa using hkey))
      rw [hnone, List.nil_append, ih hys hmem]

end Framework
