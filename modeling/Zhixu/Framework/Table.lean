import Mathlib.Data.List.Sort
import Mathlib.Data.List.Nodup

/-!
# Keyed tables

A relational table with a primary key, as a list of rows whose keys are
pairwise distinct. The distinctness is a field of the structure, so a table
with two rows of one key cannot be built, and every operation below carries
its own proof of it.

Four writes are provided, each reading like the SQL statement it stands for:

* `Table.insert?` — `INSERT`, refused (`none`) when the key is taken;
* `Table.updateWhere` — `UPDATE … SET f WHERE p`, for an `f` that keeps keys;
* `Table.deleteWhere` — `DELETE … WHERE p`;
* `Table.upsert` — `INSERT … ON CONFLICT (key) DO UPDATE SET f`.

Reads go through `Table.find?` (by key) and `Table.select` (a filter with an
order). All four writes are characterised by what they do to `find?`
(`find?_insert`, `find?_updateWhere`, `find?_deleteWhere`, `find?_upsert`), so
a client never looks at the list of rows to know what a row became.
-/

namespace Framework

universe u v

/-- A table: rows with pairwise distinct keys. -/
structure Table (ρ : Type u) {κ : Type v} (key : ρ → κ) where
  rows : List ρ
  nodup : (rows.map key).Nodup

namespace Table

variable {ρ : Type u} {κ : Type v} {key : ρ → κ}

@[ext] theorem ext {T U : Table ρ key} (h : T.rows = U.rows) : T = U := by
  cases T; cases U; cases h; rfl

instance [DecidableEq ρ] : DecidableEq (Table ρ key) :=
  fun _ _ => decidable_of_iff _ ⟨ext, congrArg rows⟩

instance [Repr ρ] : Repr (Table ρ key) := ⟨fun T n => reprPrec T.rows n⟩

/-- The table without rows. -/
def empty : Table ρ key := ⟨[], by simp⟩

/-- The table of one row. -/
def single (r : ρ) : Table ρ key := ⟨[r], by simp⟩

instance : Inhabited (Table ρ key) := ⟨empty⟩
instance : EmptyCollection (Table ρ key) := ⟨empty⟩

@[simp] theorem rows_empty : (∅ : Table ρ key).rows = [] := rfl

/-- Two rows of one table with the same key are the same row. -/
theorem eq_of_key_eq (T : Table ρ key) {r r' : ρ} (hr : r ∈ T.rows) (hr' : r' ∈ T.rows)
    (h : key r = key r') : r = r' :=
  List.inj_on_of_nodup_map T.nodup hr hr' h

/-! ### Writes -/

/-- `UPDATE … SET f WHERE p`. The update has to keep the key of every row. -/
def updateWhere (T : Table ρ key) (p : ρ → Bool) (f : ρ → ρ)
    (hf : ∀ r, key (f r) = key r := by intro _; rfl) : Table ρ key where
  rows := T.rows.map fun r => if p r then f r else r
  nodup := by
    have hkey : (T.rows.map fun r => if p r then f r else r).map key = T.rows.map key := by
      rw [List.map_map]
      refine List.map_congr_left fun r _ => ?_
      by_cases hp : p r = true <;> simp [hp, hf]
    rw [hkey]; exact T.nodup

/-- `DELETE … WHERE p`. -/
def deleteWhere (T : Table ρ key) (p : ρ → Bool) : Table ρ key where
  rows := T.rows.filter fun r => !p r
  nodup := (List.Sublist.map key List.filter_sublist).nodup T.nodup

variable [DecidableEq κ]

/-- The row with a given key. -/
def find? (T : Table ρ key) (k : κ) : Option ρ :=
  T.rows.find? fun r => key r = k

/-- `INSERT`, refused when the key is taken. -/
def insert? (T : Table ρ key) (r : ρ) : Option (Table ρ key) :=
  if h : key r ∉ T.rows.map key then
    some ⟨T.rows ++ [r], by
      rw [List.map_append, List.map_singleton]
      exact List.nodup_append.mpr ⟨T.nodup, List.nodup_singleton _, fun a ha b hb hab =>
        h (by rw [List.mem_singleton] at hb; subst hb; subst hab; exact ha)⟩⟩
  else none

/-- `INSERT … ON CONFLICT (key) DO UPDATE SET f`. -/
def upsert (T : Table ρ key) (r : ρ) (f : ρ → ρ)
    (hf : ∀ r, key (f r) = key r := by intro _; rfl) : Table ρ key :=
  match T.insert? r with
  | some U => U
  | none => T.updateWhere (fun r' => key r' = key r) f hf

/-! ### Reads -/

omit [DecidableEq κ] in
/-- `SELECT … WHERE p ORDER BY le`. -/
def select (T : Table ρ key) (p : ρ → Bool) (le : ρ → ρ → Bool) : List ρ :=
  (T.rows.filter p).insertionSort fun a b => le a b = true

omit [DecidableEq κ] in
theorem mem_select {T : Table ρ key} {p : ρ → Bool} {le : ρ → ρ → Bool} {r : ρ} :
    r ∈ T.select p le ↔ r ∈ T.rows ∧ p r = true := by
  unfold select
  rw [List.mem_insertionSort, List.mem_filter]

omit [DecidableEq κ] in
/-- No row is selected twice. -/
theorem nodup_select (T : Table ρ key) (p : ρ → Bool) (le : ρ → ρ → Bool) :
    (T.select p le).Nodup := by
  unfold select
  rw [(List.perm_insertionSort _ _).nodup_iff]
  exact (List.Nodup.of_map key T.nodup).filter p

omit [DecidableEq κ] in
/-- The number of rows a `WHERE p` selects. -/
def count (T : Table ρ key) (p : ρ → Bool) : ℕ := T.rows.countP p

theorem find?_eq_some {T : Table ρ key} {k : κ} {r : ρ} :
    T.find? k = some r ↔ r ∈ T.rows ∧ key r = k := by
  constructor
  · intro h
    exact ⟨List.mem_of_find?_eq_some h, by simpa using List.find?_some h⟩
  · rintro ⟨hr, rfl⟩
    cases hf : T.find? (key r) with
    | none =>
      have hnone := List.find?_eq_none.mp hf r hr
      simp at hnone
    | some r' =>
      have hmem := List.mem_of_find?_eq_some hf
      have hkey : key r' = key r := by simpa using List.find?_some hf
      rw [T.eq_of_key_eq hmem hr hkey]

theorem find?_eq_none {T : Table ρ key} {k : κ} :
    T.find? k = none ↔ ∀ r ∈ T.rows, key r ≠ k := by
  unfold find?
  rw [List.find?_eq_none]
  simp

theorem find?_of_mem {T : Table ρ key} {r : ρ} (h : r ∈ T.rows) : T.find? (key r) = some r :=
  find?_eq_some.mpr ⟨h, rfl⟩

theorem key_of_find? {T : Table ρ key} {k : κ} {r : ρ} (h : T.find? k = some r) : key r = k :=
  (find?_eq_some.mp h).2

theorem mem_of_find? {T : Table ρ key} {k : κ} {r : ρ} (h : T.find? k = some r) : r ∈ T.rows :=
  (find?_eq_some.mp h).1

/-- A condition on the key selects at most the row of that key. -/
theorem count_key {T : Table ρ key} {k : κ} {q : ρ → Bool} {r : ρ} (h : T.find? k = some r)
    (hq : q r = true) : T.count (fun r => key r = k && q r) = 1 := by
  obtain ⟨hmem, hkey⟩ := find?_eq_some.mp h
  have hfilter : T.rows.filter (fun r => decide (key r = k) && q r) = [r] := by
    have hnodup : (T.rows.filter fun r => decide (key r = k) && q r).Nodup :=
      (List.Nodup.of_map key T.nodup).filter _
    refine List.perm_singleton.mp ((List.perm_ext_iff_of_nodup hnodup
      (List.nodup_singleton r)).mpr fun r' => ?_)
    rw [List.mem_filter, List.mem_singleton]
    constructor
    · rintro ⟨hmem', hcond⟩
      simp only [Bool.and_eq_true, decide_eq_true_eq] at hcond
      exact T.eq_of_key_eq hmem' hmem (hcond.1.trans hkey.symm)
    · rintro rfl
      exact ⟨hmem, by simp [hkey, hq]⟩
  unfold count
  rw [List.countP_eq_length_filter, hfilter, List.length_singleton]

/-- A key selects the row of that key. -/
theorem count_of_key {T : Table ρ key} {k : κ} {r : ρ} (h : T.find? k = some r) :
    T.count (fun r => key r = k) = 1 := by
  have hcount := count_key (q := fun _ => true) h rfl
  simpa using hcount

/-- A condition on the key that selects a row selects the row of that key. -/
theorem exists_of_count_key {T : Table ρ key} {k : κ} {q : ρ → Bool}
    (h : T.count (fun r => key r = k && q r) = 1) : ∃ r, T.find? k = some r ∧ q r = true := by
  have hpos : 0 < T.rows.countP fun r => decide (key r = k) && q r := by
    change 0 < T.count fun r => decide (key r = k) && q r
    rw [h]
    exact Nat.one_pos
  obtain ⟨r, hr, hcond⟩ := List.countP_pos_iff.mp hpos
  simp only [Bool.and_eq_true, decide_eq_true_eq] at hcond
  exact ⟨r, find?_eq_some.mpr ⟨hr, hcond.1⟩, hcond.2⟩

@[simp] theorem find?_empty (k : κ) : (∅ : Table ρ key).find? k = none := rfl

/-- An update rewrites the row of a key when the row meets the condition, and
leaves it alone otherwise. -/
theorem find?_updateWhere (T : Table ρ key) (p : ρ → Bool) (f : ρ → ρ)
    (hf : ∀ r, key (f r) = key r) (k : κ) :
    (T.updateWhere p f hf).find? k = (T.find? k).map fun r => if p r then f r else r := by
  cases h : T.find? k with
  | none =>
    rw [Option.map_none, find?_eq_none]
    intro r hr
    obtain ⟨r₀, hr₀, rfl⟩ := List.mem_map.mp hr
    have hne := find?_eq_none.mp h r₀ hr₀
    by_cases hp : p r₀ = true <;> simpa [hp, hf] using hne
  | some r =>
    obtain ⟨hmem, hkey⟩ := find?_eq_some.mp h
    rw [Option.map_some, find?_eq_some]
    refine ⟨List.mem_map.mpr ⟨r, hmem, rfl⟩, ?_⟩
    by_cases hp : p r = true <;> simp [hp, hf, hkey]

/-- An update drops no row. -/
theorem exists_find?_updateWhere {T : Table ρ key} {k : κ} {r : ρ} (h : T.find? k = some r)
    (p : ρ → Bool) (f : ρ → ρ) (hf : ∀ r, key (f r) = key r) :
    ∃ r', (T.updateWhere p f hf).find? k = some r' := by
  rw [find?_updateWhere, h]
  exact ⟨_, rfl⟩

/-- `UPDATE … WHERE key = k₀ AND q` on a table whose row of that key meets `q`. -/
theorem find?_updateKeyWhere {T : Table ρ key} {k₀ : κ} {r : ρ} (h : T.find? k₀ = some r)
    {q : ρ → Bool} (hq : q r = true) (f : ρ → ρ) (hf : ∀ r, key (f r) = key r) (k : κ) :
    (T.updateWhere (fun r => key r = k₀ && q r) f hf).find? k =
      if k = k₀ then some (f r) else T.find? k := by
  rw [find?_updateWhere]
  by_cases hk : k = k₀
  · subst hk
    rw [h, if_pos rfl, Option.map_some]
    simp [key_of_find? h, hq]
  · rw [if_neg hk]
    cases hr' : T.find? k with
    | none => rfl
    | some r' =>
      have hne : key r' ≠ k₀ := by rw [key_of_find? hr']; exact hk
      simp [hne]

/-- `UPDATE … WHERE key = k₀`. -/
theorem find?_updateKey {T : Table ρ key} {k₀ : κ} (f : ρ → ρ)
    (hf : ∀ r, key (f r) = key r) (k : κ) :
    (T.updateWhere (fun r => key r = k₀) f hf).find? k =
      if k = k₀ then (T.find? k).map f else T.find? k := by
  rw [find?_updateWhere]
  cases hr : T.find? k with
  | none => simp
  | some r =>
    have hkey := key_of_find? hr
    by_cases hk : k = k₀
    · simp [hkey, hk]
    · simp [hkey, hk]

/-- A delete drops the row of a key when the row meets the condition. -/
theorem find?_deleteWhere (T : Table ρ key) (p : ρ → Bool) (k : κ) :
    (T.deleteWhere p).find? k = (T.find? k).filter fun r => !p r := by
  cases h : T.find? k with
  | none =>
    rw [Option.filter_none, find?_eq_none]
    exact fun r hr => find?_eq_none.mp h r (List.mem_of_mem_filter hr)
  | some r =>
    obtain ⟨hmem, hkey⟩ := find?_eq_some.mp h
    by_cases hp : p r = true
    · rw [Option.filter_some, if_neg (by simp [hp]), find?_eq_none]
      intro r' hr' hkey'
      obtain ⟨hmem', hp'⟩ := List.mem_filter.mp hr'
      rw [T.eq_of_key_eq hmem' hmem (hkey'.trans hkey.symm), hp] at hp'
      simp at hp'
    · rw [Option.filter_some, if_pos (by simp [hp]), find?_eq_some]
      exact ⟨List.mem_filter.mpr ⟨hmem, by simp [hp]⟩, hkey⟩

/-- An update whose condition no row of a key meets. -/
theorem find?_updateWhere_of_not {T : Table ρ key} {p : ρ → Bool} {f : ρ → ρ}
    {hf : ∀ r, key (f r) = key r} {k : κ} (h : ∀ r, key r = k → p r = false) :
    (T.updateWhere p f hf).find? k = T.find? k := by
  rw [find?_updateWhere]
  cases hr : T.find? k with
  | none => rfl
  | some r => simp [h r (key_of_find? hr)]

/-- A delete whose condition no row of a key meets. -/
theorem find?_deleteWhere_of_not {T : Table ρ key} {p : ρ → Bool} {k : κ}
    (h : ∀ r, key r = k → p r = false) : (T.deleteWhere p).find? k = T.find? k := by
  rw [find?_deleteWhere]
  cases hr : T.find? k with
  | none => rfl
  | some r => simp [h r (key_of_find? hr)]

/-- `DELETE … WHERE key = k₀`. -/
theorem find?_deleteKey (T : Table ρ key) (k₀ k : κ) :
    (T.deleteWhere fun r => key r = k₀).find? k = if k = k₀ then none else T.find? k := by
  by_cases hk : k = k₀
  · subst hk
    rw [find?_deleteWhere, if_pos rfl]
    cases hr : T.find? k with
    | none => rfl
    | some r => simp [key_of_find? hr]
  · rw [if_neg hk, find?_deleteWhere_of_not]
    intro r hr
    simp [hr, hk]

theorem insert?_eq_some {T U : Table ρ key} {r : ρ} :
    T.insert? r = some U ↔ T.find? (key r) = none ∧ U.rows = T.rows ++ [r] := by
  unfold insert?
  have hfree : key r ∉ T.rows.map key ↔ T.find? (key r) = none := by
    rw [find?_eq_none]
    constructor
    · exact fun h r' hr' hk => h (List.mem_map.mpr ⟨r', hr', hk⟩)
    · intro h hmem
      obtain ⟨r', hr', hk⟩ := List.mem_map.mp hmem
      exact h r' hr' hk
  by_cases h : key r ∉ T.rows.map key
  · rw [dif_pos h, Option.some.injEq]
    constructor
    · rintro rfl
      exact ⟨hfree.mp h, rfl⟩
    · exact fun hU => ext hU.2.symm
  · rw [dif_neg h]
    constructor
    · exact fun hn => absurd hn (by simp)
    · exact fun hU => absurd (hfree.mpr hU.1) h

theorem insert?_eq_none {T : Table ρ key} {r : ρ} :
    T.insert? r = none ↔ ∃ r', T.find? (key r) = some r' := by
  cases hi : T.insert? r with
  | some U =>
    obtain ⟨hfree, -⟩ := insert?_eq_some.mp hi
    simp [hfree]
  | none =>
    cases hf : T.find? (key r) with
    | some r' => simp
    | none =>
      have hU : T.insert? r = some ⟨T.rows ++ [r], by
          have h := find?_eq_none.mp hf
          rw [List.map_append, List.map_singleton]
          refine List.nodup_append.mpr ⟨T.nodup, List.nodup_singleton _, ?_⟩
          intro a ha b hb hab
          obtain ⟨r', hr', rfl⟩ := List.mem_map.mp ha
          rw [List.mem_singleton] at hb
          exact h r' hr' (hab.trans hb)⟩ := insert?_eq_some.mpr ⟨hf, rfl⟩
      rw [hU] at hi
      exact absurd hi (by simp)

/-- An accepted insert adds its row and nothing else. -/
theorem find?_insert {T U : Table ρ key} {r : ρ} (h : T.insert? r = some U) (k : κ) :
    U.find? k = if k = key r then some r else T.find? k := by
  obtain ⟨hfree, hrows⟩ := insert?_eq_some.mp h
  by_cases hk : k = key r
  · subst hk
    rw [if_pos rfl, find?_eq_some, hrows]
    exact ⟨by simp, rfl⟩
  · rw [if_neg hk]
    unfold find?
    rw [hrows, List.find?_append]
    have hne : ¬ key r = k := fun hkr => hk hkr.symm
    simp [hne]

/-- The row that was inserted. -/
theorem find?_insert_self {T U : Table ρ key} {r : ρ} (h : T.insert? r = some U) :
    U.find? (key r) = some r :=
  (find?_insert h (key r)).trans (if_pos rfl)

theorem rows_insert {T U : Table ρ key} {r : ρ} (h : T.insert? r = some U) :
    U.rows = T.rows ++ [r] :=
  (insert?_eq_some.mp h).2

/-- An upsert writes the new row where the key was free and updates the row
that had it otherwise. -/
theorem find?_upsert (T : Table ρ key) (r : ρ) (f : ρ → ρ) (hf : ∀ r, key (f r) = key r)
    (k : κ) :
    (T.upsert r f hf).find? k =
      if k = key r then some (((T.find? k).map f).getD r) else T.find? k := by
  unfold upsert
  cases hi : T.insert? r with
  | some U =>
    obtain ⟨hfree, -⟩ := insert?_eq_some.mp hi
    simp only
    rw [find?_insert hi]
    by_cases hk : k = key r
    · subst hk; simp [hfree]
    · simp [hk]
  | none =>
    obtain ⟨r', hr'⟩ := insert?_eq_none.mp hi
    simp only
    rw [find?_updateWhere]
    by_cases hk : k = key r
    · subst hk
      simp [hr', key_of_find? hr']
    · rw [if_neg hk]
      cases hf' : T.find? k with
      | none => rfl
      | some r'' =>
        have hne : ¬ key r'' = key r := by
          rw [key_of_find? hf']; exact hk
        simp [hne]

/-! ### What a selection does not see -/

/-- A selection of rows that are not deleted. -/
theorem select_deleteWhere (T : Table ρ key) {p q : ρ → Bool} (le : ρ → ρ → Bool)
    (h : ∀ r, p r = true → q r = false) : (T.deleteWhere q).select p le = T.select p le := by
  have hrows : (T.rows.filter fun r => !q r).filter p = T.rows.filter p := by
    rw [List.filter_filter]
    refine List.filter_congr fun r _ => ?_
    cases hp : p r with
    | true => simp [h r hp]
    | false => rfl
  unfold select
  show ((T.rows.filter fun r => !q r).filter p).insertionSort _ = _
  rw [hrows]

/-- A selection of rows that are not updated. -/
theorem select_updateWhere (T : Table ρ key) {p q : ρ → Bool} {f : ρ → ρ}
    (hf : ∀ r, key (f r) = key r) (le : ρ → ρ → Bool)
    (h : ∀ r, q r = true → p r = false ∧ p (f r) = false) :
    (T.updateWhere q f hf).select p le = T.select p le := by
  have hrows : ∀ rows : List ρ,
      (rows.map fun r => if q r then f r else r).filter p = rows.filter p := by
    intro rows
    induction rows with
    | nil => rfl
    | cons r rows ih =>
      rw [List.map_cons]
      by_cases hq : q r = true
      · rw [if_pos hq, List.filter_cons_of_neg (by simp [(h r hq).2]),
          List.filter_cons_of_neg (by simp [(h r hq).1])]
        exact ih
      · rw [if_neg hq]
        by_cases hp : p r = true
        · rw [List.filter_cons_of_pos hp, List.filter_cons_of_pos hp, ih]
        · rw [List.filter_cons_of_neg hp, List.filter_cons_of_neg hp]
          exact ih
  unfold select
  show ((T.rows.map fun r => if q r then f r else r).filter p).insertionSort _ = _
  rw [hrows]

/-- A selection of rows that are not written. -/
theorem select_upsert (T : Table ρ key) {r : ρ} {p : ρ → Bool} {f : ρ → ρ}
    (hf : ∀ r, key (f r) = key r) (le : ρ → ρ → Bool) (hr : p r = false)
    (h : ∀ r', key r' = key r → p r' = false ∧ p (f r') = false) :
    (T.upsert r f hf).select p le = T.select p le := by
  unfold upsert
  cases hi : T.insert? r with
  | some U =>
    simp only
    unfold select
    rw [rows_insert hi, List.filter_append, List.filter_cons_of_neg (by simp [hr]),
      List.filter_nil, List.append_nil]
  | none =>
    simp only
    exact select_updateWhere T hf le fun r' hr' => h r' (by simpa using hr')

end Table

end Framework
