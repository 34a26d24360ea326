import Mathlib.Data.List.Nodup

/-!
# Dictionaries

A dictionary is its list of entries, in the order in which the keys were first set. `set` replaces the
value of a key where it stands, or puts a new entry at the end, and `update` sets the entries of another
dictionary one after another. `ofEntries` is the comprehension that makes a dictionary of entries, of
which the later wins where two have one key.

`find?_update` says what is found after an update: what the new entries have, else what was there. The
entries of a comprehension are those it was made of as long as their keys differ
(`ofEntries_of_nodup`). `present` is the comprehension that leaves out what is `None`.
-/

namespace Framework

universe u v w

namespace Dict

variable {κ : Type u} {ν : Type v} [DecidableEq κ]

/-- The value of a key. -/
def find? : List (κ × ν) → κ → Option ν
  | [], _ => none
  | (k, v) :: rest, key => if k = key then some v else find? rest key

/-- `d[key] = value`. -/
def set : List (κ × ν) → κ → ν → List (κ × ν)
  | [], key, value => [(key, value)]
  | (k, v) :: rest, key, value =>
    if k = key then (k, value) :: rest else (k, v) :: set rest key value

/-- `d.update(new)`. -/
def update (entries new : List (κ × ν)) : List (κ × ν) :=
  new.foldl (fun d entry => set d entry.1 entry.2) entries

/-- `d.pop(key, None)`. -/
def erase (entries : List (κ × ν)) (key : κ) : List (κ × ν) := entries.filter fun entry => entry.1 ≠ key

/-- The dictionary of a list of entries. -/
def ofEntries (entries : List (κ × ν)) : List (κ × ν) := update [] entries

@[simp] theorem find?_nil (key : κ) : find? ([] : List (κ × ν)) key = none := rfl

theorem find?_cons (k : κ) (v : ν) (rest : List (κ × ν)) (key : κ) :
    find? ((k, v) :: rest) key = if k = key then some v else find? rest key := rfl

theorem find?_eq_none {entries : List (κ × ν)} {key : κ} :
    find? entries key = none ↔ key ∉ entries.map Prod.fst := by
  induction entries with
  | nil => simp
  | cons entry rest ih =>
    obtain ⟨k, v⟩ := entry
    rw [find?_cons, List.map_cons, List.mem_cons, not_or]
    split_ifs with hk
    · subst hk
      simp
    · rw [ih]
      simp [Ne.symm hk]

theorem mem_of_find? {entries : List (κ × ν)} {key : κ} {value : ν}
    (h : find? entries key = some value) : (key, value) ∈ entries := by
  induction entries with
  | nil => cases h
  | cons entry rest ih =>
    obtain ⟨k, v⟩ := entry
    rw [find?_cons] at h
    split_ifs at h with hk
    · obtain rfl := Option.some.inj h
      rw [hk]
      exact List.mem_cons_self ..
    · exact List.mem_cons_of_mem _ (ih h)

theorem find?_of_mem {entries : List (κ × ν)} (h : (entries.map Prod.fst).Nodup) {key : κ} {value : ν}
    (hmem : (key, value) ∈ entries) : find? entries key = some value := by
  induction entries with
  | nil => cases hmem
  | cons entry rest ih =>
    obtain ⟨k, v⟩ := entry
    obtain ⟨hfresh, hrest⟩ := List.nodup_cons.mp h
    rw [find?_cons]
    rcases List.mem_cons.mp hmem with heq | hin
    · obtain ⟨rfl, rfl⟩ := Prod.mk.inj heq
      exact if_pos rfl
    · rw [if_neg, ih hrest hin]
      rintro rfl
      exact hfresh (List.mem_map.mpr ⟨_, hin, rfl⟩)

theorem find?_set (entries : List (κ × ν)) (key : κ) (value : ν) (k : κ) :
    find? (set entries key value) k = if key = k then some value else find? entries k := by
  induction entries with
  | nil => rfl
  | cons entry rest ih =>
    obtain ⟨k', v'⟩ := entry
    unfold set
    by_cases hset : k' = key
    · rw [if_pos hset, find?_cons, find?_cons, hset]
      split_ifs <;> rfl
    · rw [if_neg hset, find?_cons, find?_cons, ih]
      by_cases hk : k' = k
      · have hne : key ≠ k := fun h => hset (hk.trans h.symm)
        rw [if_pos hk, if_pos hk, if_neg hne]
      · rw [if_neg hk, if_neg hk]

/-- **After an update** the new entries are found, and else what was there. -/
theorem find?_update {entries new : List (κ × ν)} (hnew : (new.map Prod.fst).Nodup) (key : κ) :
    find? (update entries new) key = (find? new key).or (find? entries key) := by
  induction new generalizing entries with
  | nil => rfl
  | cons entry rest ih =>
    obtain ⟨k, v⟩ := entry
    obtain ⟨hfresh, hrest⟩ := List.nodup_cons.mp hnew
    change find? (update (set entries k v) rest) key = _
    rw [ih hrest, find?_set, find?_cons]
    by_cases hk : k = key
    · subst hk
      rw [if_pos rfl, if_pos rfl, find?_eq_none.mpr hfresh]
      rfl
    · rw [if_neg hk, if_neg hk]

theorem find?_erase (entries : List (κ × ν)) (key k : κ) :
    find? (erase entries key) k = if key = k then none else find? entries k := by
  induction entries with
  | nil => simp [erase]
  | cons entry rest ih =>
    obtain ⟨k', v'⟩ := entry
    unfold erase at ih ⊢
    rw [List.filter_cons]
    by_cases hkey : k' = key
    · rw [if_neg (by simp [hkey]), ih, find?_cons]
      by_cases hk : key = k
      · rw [if_pos hk, if_pos hk]
      · rw [if_neg hk, if_neg hk, if_neg (fun h => hk (hkey.symm.trans h))]
    · rw [if_pos (by simp [hkey]), find?_cons, find?_cons, ih]
      by_cases hk : k' = k
      · have hne : key ≠ k := fun h => hkey (hk.trans h.symm)
        rw [if_pos hk, if_pos hk, if_neg hne]
      · rw [if_neg hk, if_neg hk]

theorem find?_map {μ : Type w} (f : ν → μ) (entries : List (κ × ν)) (key : κ) :
    find? (entries.map fun entry => (entry.1, f entry.2)) key = (find? entries key).map f := by
  induction entries with
  | nil => rfl
  | cons entry rest ih =>
    obtain ⟨k, v⟩ := entry
    rw [List.map_cons, find?_cons, find?_cons, ih]
    split_ifs <;> rfl

/-- An entry of a dictionary in which a key has been set. -/
theorem mem_set {entries : List (κ × ν)} {key : κ} {value : ν} {entry : κ × ν}
    (h : entry ∈ set entries key value) : entry ∈ entries ∨ entry = (key, value) := by
  induction entries with
  | nil => exact .inr (List.mem_singleton.mp h)
  | cons other rest ih =>
    obtain ⟨k, v⟩ := other
    unfold set at h
    by_cases hk : k = key
    · rw [if_pos hk] at h
      rcases List.mem_cons.mp h with rfl | hrest
      · exact .inr (by rw [hk])
      · exact .inl (List.mem_cons_of_mem _ hrest)
    · rw [if_neg hk] at h
      rcases List.mem_cons.mp h with rfl | hrest
      · exact .inl (List.mem_cons_self ..)
      · exact (ih hrest).imp_left (List.mem_cons_of_mem _)

/-- Setting a key leaves the keys, or puts a new one at the end. -/
theorem keys_set (entries : List (κ × ν)) (key : κ) (value : ν) :
    (set entries key value).map Prod.fst =
      if key ∈ entries.map Prod.fst then entries.map Prod.fst
      else entries.map Prod.fst ++ [key] := by
  induction entries with
  | nil => rfl
  | cons entry rest ih =>
    obtain ⟨k, v⟩ := entry
    unfold set
    by_cases hk : k = key
    · subst hk
      rw [if_pos rfl, List.map_cons, List.map_cons, if_pos (List.mem_cons_self ..)]
    · rw [if_neg hk, List.map_cons, List.map_cons, ih]
      by_cases hmem : key ∈ rest.map Prod.fst
      · rw [if_pos hmem, if_pos (List.mem_cons_of_mem _ hmem)]
      · rw [if_neg hmem, if_neg fun h => ((List.mem_cons.mp h).elim (fun h => hk h.symm) hmem)]
        rfl

theorem nodup_set {entries : List (κ × ν)} (h : (entries.map Prod.fst).Nodup) (key : κ) (value : ν) :
    ((set entries key value).map Prod.fst).Nodup := by
  rw [keys_set]
  split_ifs with hmem
  · exact h
  · exact List.nodup_append.mpr ⟨h, List.nodup_singleton _, fun a ha b hb hab =>
      hmem (by rw [List.mem_singleton] at hb; rw [← hb, ← hab]; exact ha)⟩

/-- A new key goes to the end. -/
theorem set_of_fresh {entries : List (κ × ν)} {key : κ} (h : key ∉ entries.map Prod.fst) (value : ν) :
    set entries key value = entries ++ [(key, value)] := by
  induction entries with
  | nil => rfl
  | cons entry rest ih =>
    obtain ⟨k, v⟩ := entry
    rw [List.map_cons, List.mem_cons, not_or] at h
    unfold set
    rw [if_neg (Ne.symm h.1), ih h.2, List.cons_append]

theorem update_of_nodup {entries new : List (κ × ν)} (h : ((entries ++ new).map Prod.fst).Nodup) :
    update entries new = entries ++ new := by
  induction new generalizing entries with
  | nil => exact (List.append_nil entries).symm
  | cons entry rest ih =>
    obtain ⟨k, v⟩ := entry
    have hassoc : entries ++ [(k, v)] ++ rest = entries ++ (k, v) :: rest := by simp
    have hfresh : k ∉ entries.map Prod.fst := by
      rw [List.map_append, List.map_cons] at h
      exact fun hmem => (List.nodup_append.mp h).2.2 k hmem k (List.mem_cons_self ..) rfl
    change update (set entries k v) rest = _
    rw [set_of_fresh hfresh, ih (by rw [hassoc]; exact h), hassoc]

/-- **A comprehension keeps its entries** where their keys differ. -/
theorem ofEntries_of_nodup {entries : List (κ × ν)} (h : (entries.map Prod.fst).Nodup) :
    ofEntries entries = entries := update_of_nodup h

/-! ### What is present -/

/-- `{key: value for key, value in fields if value is not None}`. -/
def present (fields : List (κ × Option ν)) : List (κ × ν) :=
  fields.filterMap fun field => field.2.map fun value => (field.1, value)

omit [DecidableEq κ] in
theorem keys_present (fields : List (κ × Option ν)) :
    ((present fields).map Prod.fst).Sublist (fields.map Prod.fst) := by
  induction fields with
  | nil => exact List.Sublist.slnil
  | cons field rest ih =>
    obtain ⟨k, value⟩ := field
    cases value with
    | none => exact ih.cons _
    | some v => exact ih.cons_cons _

theorem find?_present {fields : List (κ × Option ν)} (h : (fields.map Prod.fst).Nodup) (key : κ) :
    find? (present fields) key = (find? fields key).join := by
  induction fields with
  | nil => rfl
  | cons field rest ih =>
    obtain ⟨k, value⟩ := field
    obtain ⟨hfresh, hrest⟩ := List.nodup_cons.mp h
    rw [find?_cons]
    by_cases hk : k = key
    · subst hk
      rw [if_pos rfl]
      cases value with
      | none =>
        change find? (present rest) k = none
        exact find?_eq_none.mpr fun hmem => hfresh ((keys_present rest).subset hmem)
      | some v => exact if_pos rfl
    · rw [if_neg hk, ← ih hrest]
      cases value with
      | none => rfl
      | some v => exact if_neg hk

end Dict

end Framework
