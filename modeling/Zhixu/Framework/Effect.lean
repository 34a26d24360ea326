import Mathlib.Data.List.Forall2
import Mathlib.Data.List.ReduceOption

/-!
# Fallible code over a shared store

Two monads, for two ways an exception treats the store.

* `Transaction σ ε` — the body of one atomic transaction. An exception
  discards every write of the body: `StateT` over `Except`.
* `Effect σ ε` — ordinary code around transactions. An exception propagates,
  but what earlier transactions committed stays: `ExceptT` over `State`.

`Effect.atomically` runs a transaction inside the surrounding code, committing
on success and rolling back on an exception; `Effect.query` is a read that
writes nothing. `Effect.exec` runs a piece of code on a store, and the `exec_*`
lemmas evaluate it construct by construct. `exec_bind_ok` is the inversion
rule: a sequence succeeds exactly when its first half does and the second half
succeeds from the store the first half left.

`Effect.forEach` is the `for` loop over a list, with the invariant rule
`exec_forEach_invariant` for what a loop preserves, whether or not it ends in
an exception.

`Effect.Within` says where the store of a run can end, whatever its answer: within
a relation that is reflexive and transitive, so that it goes through sequences
(`Within.bind`) and is settled by the transactions (`Within.atomically`).

`raiseIf` is the guard `if c: raise e`. A chain of guards is inverted one guard
at a time by `raiseIf_bind_ok`, and any other step of a pure computation by
`bind_eq_ok`.
-/

namespace Framework

universe u

/-- The body of one atomic transaction: an exception discards the writes. -/
abbrev Transaction (σ ε : Type u) := StateT σ (Except ε)

/-- Code that runs transactions: an exception keeps what was committed. -/
abbrev Effect (σ ε : Type u) := ExceptT ε (StateM σ)

section Guards

variable {ε α β : Type u}

/-- The guard `if c: raise e`. -/
def raiseIf (c : Prop) [Decidable c] (e : ε) : Except ε PUnit :=
  if c then .error e else .ok ⟨⟩

/-- **Inversion of a pure sequence.** -/
theorem bind_eq_ok {x : Except ε α} {f : α → Except ε β} {b : β} :
    x >>= f = .ok b ↔ ∃ a, x = .ok a ∧ f a = .ok b := by
  cases x with
  | error e => simp [bind, Except.bind]
  | ok a => simp [bind, Except.bind]

/-- A guarded computation succeeds exactly when the guard is off and the rest
succeeds. -/
theorem raiseIf_bind_ok {c : Prop} [Decidable c] {e : ε} {f : PUnit → Except ε β} {b : β} :
    raiseIf c e >>= f = .ok b ↔ ¬ c ∧ f ⟨⟩ = .ok b := by
  unfold raiseIf
  by_cases h : c
  · simp [h, bind, Except.bind]
  · simp [h, bind, Except.bind]

/-- **Inversion of a pure sequence that raises.** -/
theorem bind_eq_error {x : Except ε α} {f : α → Except ε β} {e : ε} :
    x >>= f = .error e ↔ x = .error e ∨ ∃ a, x = .ok a ∧ f a = .error e := by
  cases x with
  | error e' => simp [bind, Except.bind]
  | ok a => simp [bind, Except.bind]

/-- A guarded computation raises what its guard or its rest raises. -/
theorem raiseIf_bind_error {c : Prop} [Decidable c] {e e' : ε} {f : PUnit → Except ε β} :
    raiseIf c e >>= f = .error e' ↔ (c ∧ e = e') ∨ (¬ c ∧ f ⟨⟩ = .error e') := by
  unfold raiseIf
  by_cases h : c
  · simp [h, bind, Except.bind]
  · simp [h, bind, Except.bind]

theorem exists_bind_ok {x : Except ε α} {f : α → Except ε β} :
    (∃ b, x >>= f = .ok b) ↔ ∃ a, x = .ok a ∧ ∃ b, f a = .ok b := by
  simp only [bind_eq_ok]
  exact ⟨fun ⟨b, a, ha, hb⟩ => ⟨a, ha, b, hb⟩, fun ⟨a, ha, b, hb⟩ => ⟨b, a, ha, hb⟩⟩

theorem exists_map_ok {x : Except ε α} {f : α → β} :
    (∃ b, f <$> x = .ok b) ↔ ∃ a, x = .ok a := by
  cases x <;> simp

theorem exists_raiseIf_bind_ok {c : Prop} [Decidable c] {e : ε} {f : PUnit → Except ε β} :
    (∃ b, raiseIf c e >>= f = .ok b) ↔ ¬ c ∧ ∃ b, f ⟨⟩ = .ok b := by
  simp only [raiseIf_bind_ok]
  exact ⟨fun ⟨b, hc, hb⟩ => ⟨hc, b, hb⟩, fun ⟨hc, b, hb⟩ => ⟨b, hc, hb⟩⟩

theorem raiseIf_eq_ok {c : Prop} [Decidable c] {e : ε} {u : PUnit} :
    raiseIf c e = .ok u ↔ ¬ c := by
  unfold raiseIf
  by_cases h : c <;> simp [h]

/-- `[y for x in xs if (y := f(x)) is not None]`, for an `f` that may raise. -/
def collect (f : α → Except ε (Option β)) : List α → Except ε (List β)
  | [] => .ok []
  | x :: xs => do
    let y ← f x
    let ys ← collect f xs
    return y.toList ++ ys

/-- **What a collection holds.** It succeeds exactly when no element raises, and then
holds the values of those that have one, in their order. -/
theorem collect_eq_ok {f : α → Except ε (Option β)} {xs : List α} {ys : List β} :
    collect f xs = .ok ys ↔
      ∃ values : List (Option β), List.Forall₂ (fun x y => f x = .ok y) xs values ∧
        ys = values.reduceOption := by
  induction xs generalizing ys with
  | nil => simp [collect, eq_comm]
  | cons x xs ih =>
    unfold collect
    rw [bind_eq_ok]
    constructor
    · rintro ⟨y, hy, h⟩
      rw [bind_eq_ok] at h
      obtain ⟨ys', hys', h⟩ := h
      obtain ⟨values, hvalues, rfl⟩ := ih.mp hys'
      obtain rfl := Except.ok.inj h
      refine ⟨y :: values, .cons hy hvalues, ?_⟩
      cases y <;> simp
    · rintro ⟨values, hvalues, rfl⟩
      cases hvalues with
      | @cons _ y _ values hy hvalues =>
        refine ⟨y, hy, ?_⟩
        rw [ih.mpr ⟨values, hvalues, rfl⟩]
        cases y <;> rfl

theorem mem_collect {f : α → Except ε (Option β)} {xs : List α} {ys : List β}
    (h : collect f xs = .ok ys) {y : β} : y ∈ ys ↔ ∃ x ∈ xs, f x = .ok (some y) := by
  obtain ⟨values, hvalues, rfl⟩ := collect_eq_ok.mp h
  rw [List.reduceOption_mem_iff]
  clear h
  induction hvalues with
  | nil => simp
  | @cons x y' xs values hx _ ih =>
    rw [List.mem_cons, ih]
    constructor
    · rintro (rfl | ⟨x', hx', hy⟩)
      · exact ⟨x, by simp, hx⟩
      · exact ⟨x', by simp [hx'], hy⟩
    · rintro ⟨x', hx', hy⟩
      rcases List.mem_cons.mp hx' with rfl | hmem
      · rw [hx] at hy
        exact Or.inl (Except.ok.inj hy).symm
      · exact Or.inr ⟨x', hmem, hy⟩

/-- **A loop that builds a list** succeeds exactly when it does at every element. -/
theorem mapM_eq_ok {ε : Type v} {α : Type w} {f : α → Except ε β} {xs : List α} {ys : List β} :
    xs.mapM f = .ok ys ↔ List.Forall₂ (fun x y => f x = .ok y) xs ys := by
  induction xs generalizing ys with
  | nil =>
    rw [List.mapM_nil, List.forall₂_nil_left_iff]
    constructor
    · intro h
      exact (Except.ok.inj h).symm
    · rintro rfl
      rfl
  | cons x xs ih =>
    rw [List.mapM_cons, List.forall₂_cons_left_iff]
    constructor
    · intro h
      cases hx : f x with
      | error e => rw [hx] at h; cases h
      | ok y =>
        rw [hx] at h
        cases hxs : xs.mapM f with
        | error e => rw [hxs] at h; cases h
        | ok ys' =>
          rw [hxs] at h
          exact ⟨y, ys', rfl, ih.mp hxs, (Except.ok.inj h).symm⟩
    · rintro ⟨y, ys', hy, hys, rfl⟩
      rw [hy, ih.mpr hys]
      rfl

/-- The value at a place is that of the element there. -/
theorem mapM_get {ε : Type v} {α : Type w} {f : α → Except ε β} {xs : List α} {ys : List β}
    (h : xs.mapM f = .ok ys) (i : ℕ) :
    (∀ x, xs[i]? = some x → ∃ y, ys[i]? = some y ∧ f x = .ok y) ∧
      ∀ y, ys[i]? = some y → ∃ x, xs[i]? = some x ∧ f x = .ok y := by
  have hall := mapM_eq_ok.mp h
  clear h
  induction hall generalizing i with
  | nil => simp
  | @cons x y xs ys hxy _ ih =>
    cases i with
    | zero =>
      constructor
      · intro x' hx'
        obtain rfl := Option.some.inj hx'
        exact ⟨y, rfl, hxy⟩
      · intro y' hy'
        obtain rfl := Option.some.inj hy'
        exact ⟨x, rfl, hxy⟩
    | succ i =>
      simp only [List.getElem?_cons_succ]
      exact ih i

/-- A collection that drops nothing holds the value of every element. -/
theorem collect_some {f : α → Except ε β} {xs : List α} {ys : List β}
    (h : collect (fun x => some <$> f x) xs = .ok ys) :
    List.Forall₂ (fun x y => f x = .ok y) xs ys := by
  induction xs generalizing ys with
  | nil =>
    obtain rfl := Except.ok.inj h
    exact .nil
  | cons x xs ih =>
    unfold collect at h
    obtain ⟨y, hy, h⟩ := bind_eq_ok.mp h
    obtain ⟨rest, hrest, h⟩ := bind_eq_ok.mp h
    obtain rfl := Except.ok.inj h
    cases hx : f x with
    | error e => rw [hx] at hy; cases hy
    | ok value =>
      rw [hx] at hy
      obtain rfl := Except.ok.inj hy
      exact .cons hx (ih hrest)

/-- A fold of fallible steps that each keep to a preorder keeps to it. -/
theorem foldlM_ok {α β ε : Type} (R : β → β → Prop) (refl : ∀ b, R b b)
    (trans : ∀ {b b' b''}, R b b' → R b' b'' → R b b'') {f : β → α → Except ε β}
    (hf : ∀ {a b b'}, f b a = .ok b' → R b b') {xs : List α} {b b' : β}
    (h : xs.foldlM f b = .ok b') : R b b' := by
  induction xs generalizing b with
  | nil =>
    rw [List.foldlM_nil] at h
    rw [← Except.ok.inj h]
    exact refl b
  | cons x xs ih =>
    rw [List.foldlM_cons, bind_eq_ok] at h
    obtain ⟨b₁, hstep, hrest⟩ := h
    exact trans (hf hstep) (ih hrest)

/-- The invariant of a fold over a list without duplicates: it says where the fold stands after the
elements `done`, and every element is new when its turn comes. -/
theorem foldlM_invariant {α β ε : Type} {f : β → α → Except ε β} {xs : List α}
    (P : List α → β → Prop) (hnodup : xs.Nodup)
    (hstep : ∀ done x b b', (∀ y ∈ done, y ∈ xs) → x ∈ xs → x ∉ done → P done b →
      f b x = .ok b' → P (done ++ [x]) b')
    {b b' : β} (hstart : P [] b) (h : xs.foldlM f b = .ok b') : P xs b' := by
  have hrest : ∀ (rest done : List α) (b b' : β), P done b → xs = done ++ rest →
      rest.foldlM f b = .ok b' → P xs b' := by
    intro rest
    induction rest with
    | nil =>
      intro done b b' hdone hsplit hfold
      rw [List.append_nil] at hsplit
      obtain rfl := Except.ok.inj hfold
      rw [hsplit]
      exact hdone
    | cons x rest ih =>
      intro done b b' hdone hsplit hfold
      rw [List.foldlM_cons, bind_eq_ok] at hfold
      obtain ⟨b₁, hx, hfold⟩ := hfold
      have hsub : ∀ y ∈ done, y ∈ xs := by
        intro y hy
        rw [hsplit]
        exact List.mem_append_left _ hy
      have hmem : x ∈ xs := by rw [hsplit]; simp
      have hnew : x ∉ done := by
        intro hold
        rw [hsplit] at hnodup
        exact (List.nodup_append.mp hnodup).2.2 x hold x (by simp) rfl
      refine ih (done ++ [x]) b₁ b' (hstep done x b b₁ hsub hmem hnew hdone hx) ?_ hfold
      rw [hsplit, List.append_assoc]
      rfl
  exact hrest xs [] b b' hstart rfl h

end Guards

namespace Effect

variable {σ ε α β : Type u}

/-- The answer of a piece of code on a store, and the store it leaves. -/
def exec (m : Effect σ ε α) (s : σ) : Except ε α × σ := m.run.run s

/-- Run one transaction: commit on success, roll back on an exception. -/
def atomically (t : Transaction σ ε α) : Effect σ ε α :=
  ExceptT.mk fun s =>
    match t.run s with
    | .ok (a, s') => (.ok a, s')
    | .error e => (.error e, s)

/-- A read, which may raise and writes nothing. -/
def query (f : σ → Except ε α) : Effect σ ε α :=
  ExceptT.mk fun s => (f s, s)

/-- A read that does not raise. -/
def reads (f : σ → α) : Effect σ ε α := ExceptT.mk fun s => (.ok (f s), s)

/-- A computation that does not touch the store. -/
def check (x : Except ε α) : Effect σ ε α := ExceptT.mk fun s => (x, s)

/-- A write outside any transaction, which does not raise. -/
def write (f : σ → σ) : Effect σ ε PUnit := ExceptT.mk fun s => (.ok ⟨⟩, f s)

/-- `try: m except: f; raise`. -/
def onError (m : Effect σ ε α) (f : σ → σ) : Effect σ ε α :=
  ExceptT.mk fun s =>
    match m.run.run s with
    | (.ok a, s') => (.ok a, s')
    | (.error e, s') => (.error e, f s')

/-- The `for` loop over a list: `body` once for every element, in order, until
one raises. -/
def forEach (xs : List α) (body : α → Effect σ ε PUnit) : Effect σ ε PUnit :=
  match xs with
  | [] => pure ⟨⟩
  | x :: xs => do body x; forEach xs body

/-- The `for` loop that adds up what its passes count. -/
def countEach {σ ε α : Type} (xs : List α) (body : α → Effect σ ε ℕ) : Effect σ ε ℕ :=
  match xs with
  | [] => pure 0
  | x :: xs => do
    let count ← body x
    let rest ← countEach xs body
    return count + rest

@[simp] theorem exec_pure (a : α) (s : σ) : (pure a : Effect σ ε α).exec s = (.ok a, s) := rfl

@[simp] theorem exec_throw (e : ε) (s : σ) :
    (throw e : Effect σ ε α).exec s = (.error e, s) := rfl

@[simp] theorem exec_query (f : σ → Except ε α) (s : σ) :
    (query f : Effect σ ε α).exec s = (f s, s) := rfl

@[simp] theorem exec_reads (f : σ → α) (s : σ) :
    (reads f : Effect σ ε α).exec s = (.ok (f s), s) := rfl

@[simp] theorem exec_write (f : σ → σ) (s : σ) :
    (write f : Effect σ ε PUnit).exec s = (.ok ⟨⟩, f s) := rfl

@[simp] theorem exec_check (x : Except ε α) (s : σ) :
    (check x : Effect σ ε α).exec s = (x, s) := rfl

theorem exec_onError (m : Effect σ ε α) (f : σ → σ) (s : σ) :
    (onError m f).exec s =
      match m.exec s with
      | (.ok a, s') => (.ok a, s')
      | (.error e, s') => (.error e, f s') := rfl

theorem exec_atomically (t : Transaction σ ε α) (s : σ) :
    (atomically t).exec s =
      match t.run s with
      | .ok (a, s') => (.ok a, s')
      | .error e => (.error e, s) := rfl

/-- What a transaction keeps when it succeeds is kept. -/
theorem exec_atomically_keeps {P : σ → Prop} {t : Transaction σ ε α} {s : σ} (hP : P s)
    (h : ∀ a s', t s = .ok (a, s') → P s') : P ((atomically t).exec s).2 := by
  rw [exec_atomically, StateT.run]
  cases hrun : t s with
  | error err => exact hP
  | ok outcome => exact h outcome.1 outcome.2 hrun

theorem exec_bind (m : Effect σ ε α) (f : α → Effect σ ε β) (s : σ) :
    (m >>= f).exec s =
      match m.exec s with
      | (.ok a, s') => (f a).exec s'
      | (.error e, s') => (.error e, s') := by
  unfold exec ExceptT.run StateT.run
  simp only [bind, ExceptT.bind, ExceptT.mk, StateT.bind]
  cases m s with
  | mk r s' => cases r <;> rfl

/-- A check ends the code or passes its value on. -/
theorem exec_check_bind (x : Except ε α) (f : α → Effect σ ε β) (s : σ) :
    (check x >>= f).exec s =
      match x with
      | .ok a => (f a).exec s
      | .error e => (.error e, s) := by
  rw [exec_bind]
  cases x <;> rfl

/-- A read passes on what it found. -/
@[simp] theorem exec_reads_bind (g : σ → α) (f : α → Effect σ ε β) (s : σ) :
    (reads g >>= f).exec s = (f (g s)).exec s := rfl

theorem exec_map (f : α → β) (m : Effect σ ε α) (s : σ) :
    (f <$> m).exec s = ((m.exec s).1.map f, (m.exec s).2) := by
  rw [map_eq_pure_bind, exec_bind]
  rcases m.exec s with ⟨r, s'⟩
  cases r <;> rfl

/-- A handler takes over from the store the exception left. -/
theorem exec_tryCatch (m : Effect σ ε α) (h : ε → Effect σ ε α) (s : σ) :
    (tryCatch m h).exec s =
      match m.exec s with
      | (.ok a, s') => (.ok a, s')
      | (.error e, s') => (h e).exec s' := by
  unfold exec ExceptT.run StateT.run
  simp only [tryCatch, tryCatchThe, MonadExceptOf.tryCatch, ExceptT.tryCatch, ExceptT.mk, bind,
    StateT.bind]
  cases m s with
  | mk r s' => cases r <;> rfl

/-- **Inversion of a sequence.** It succeeds exactly when its first half does
and the second half succeeds on the store the first half left. -/
theorem exec_bind_ok {m : Effect σ ε α} {f : α → Effect σ ε β} {s s'' : σ} {b : β} :
    (m >>= f).exec s = (.ok b, s'') ↔
      ∃ a s', m.exec s = (.ok a, s') ∧ (f a).exec s' = (.ok b, s'') := by
  rw [exec_bind]
  rcases m.exec s with ⟨r, s'⟩
  cases r with
  | ok a => simp
  | error e => simp

/-- A check that succeeds leaves the store alone. -/
theorem exec_check_ok {x : Except ε α} {s s' : σ} {a : α} :
    (check x).exec s = (.ok a, s') ↔ x = .ok a ∧ s' = s := by
  rw [exec_check, Prod.mk.injEq, eq_comm (a := s)]

/-- A committed transaction is one whose body succeeded. -/
theorem exec_atomically_ok {t : Transaction σ ε α} {s s' : σ} {a : α} :
    (atomically t).exec s = (.ok a, s') ↔ t.run s = .ok (a, s') := by
  rw [exec_atomically]
  cases t.run s with
  | error e => simp
  | ok p => obtain ⟨b, s''⟩ := p; simp

/-- A transaction whose body raises is rolled back. -/
theorem exec_atomically_raises {t : Transaction σ ε α} {s : σ} {e : ε}
    (h : t.run s = .error e) : (atomically t).exec s = (.error e, s) := by
  rw [exec_atomically, h]

@[simp] theorem exec_forEach_nil (body : α → Effect σ ε PUnit) (s : σ) :
    (forEach [] body).exec s = (.ok ⟨⟩, s) := rfl

theorem exec_forEach_cons (x : α) (xs : List α) (body : α → Effect σ ε PUnit) (s : σ) :
    (forEach (x :: xs) body).exec s =
      match (body x).exec s with
      | (.ok _, s') => (forEach xs body).exec s'
      | (.error e, s') => (.error e, s') := by
  change (body x >>= fun _ => forEach xs body).exec s = _
  rw [exec_bind]
  rcases (body x).exec s with ⟨r, s'⟩
  cases r <;> rfl

/-- **Loop rule.** What every pass of the body preserves, raising or not, the
whole loop preserves. -/
theorem exec_forEach_invariant {body : α → Effect σ ε PUnit} {I : σ → Prop} :
    ∀ (xs : List α) (s : σ), I s →
      (∀ x ∈ xs, ∀ s, I s → I ((body x).exec s).2) → I ((forEach xs body).exec s).2 := by
  intro xs
  induction xs with
  | nil => exact fun s hs _ => hs
  | cons x xs ih =>
    intro s hs hbody
    rw [exec_forEach_cons]
    have hx := hbody x (by simp) s hs
    rcases hr : (body x).exec s with ⟨r, s'⟩
    rw [hr] at hx
    cases r with
    | error e => exact hx
    | ok _ => exact ih s' hx fun y hy => hbody y (by simp [hy])

/-! ### Where a run ends, whatever its answer -/

/-- Every run, raising or not, ends in a store that the relation allows from the store
it started in. -/
def Within (R : σ → σ → Prop) (m : Effect σ ε α) : Prop := ∀ s, R s (m.exec s).2

section Within

variable {R : σ → σ → Prop}

theorem Within.mono {S : σ → σ → Prop} {m : Effect σ ε α} (h : Within R m)
    (hRS : ∀ s s', R s s' → S s s') : Within S m :=
  fun s => hRS _ _ (h s)

theorem Within.pure (hrefl : ∀ s, R s s) (a : α) : Within R (pure a : Effect σ ε α) :=
  fun s => hrefl s

theorem Within.check (hrefl : ∀ s, R s s) (x : Except ε α) : Within R (check x) :=
  fun s => hrefl s

theorem Within.reads_bind {f : σ → α} {m : α → Effect σ ε β} (h : ∀ a, Within R (m a)) :
    Within R (reads f >>= m) :=
  fun s => h (f s) s

theorem Within.check_bind (hrefl : ∀ s, R s s) {x : Except ε α} {m : α → Effect σ ε β}
    (h : ∀ a, Within R (m a)) : Within R (Effect.check x >>= m) := by
  intro s
  rw [exec_check_bind]
  cases x with
  | error e => exact hrefl s
  | ok a => exact h a s

theorem Within.query_bind (hrefl : ∀ s, R s s) {f : σ → Except ε α} {m : α → Effect σ ε β}
    (h : ∀ a, Within R (m a)) : Within R (Effect.query f >>= m) := by
  intro s
  rw [exec_bind, exec_query]
  cases f s with
  | error e => exact hrefl s
  | ok a => exact h a s

theorem Within.map {m : Effect σ ε α} (h : Within R m) (f : α → β) : Within R (f <$> m) := by
  intro s
  rw [exec_map]
  exact h s

/-- **Sequences.** What both halves allow, the whole does. -/
theorem Within.bind (htrans : ∀ s s' s'', R s s' → R s' s'' → R s s'') {m : Effect σ ε α}
    {f : α → Effect σ ε β} (hm : Within R m) (hf : ∀ a, Within R (f a)) :
    Within R (m >>= f) := by
  intro s
  rw [exec_bind]
  have hs := hm s
  rcases hr : m.exec s with ⟨r, s'⟩
  rw [hr] at hs
  cases r with
  | error e => exact hs
  | ok a => exact htrans _ _ _ hs (hf a s')

/-- **Loops.** What every pass allows, the loop does. -/
theorem Within.countEach {σ ε α : Type} {R : σ → σ → Prop} (hrefl : ∀ s, R s s)
    (htrans : ∀ s s' s'', R s s' → R s' s'' → R s s'') {xs : List α} {body : α → Effect σ ε ℕ}
    (hbody : ∀ x ∈ xs, Within R (body x)) : Within R (countEach xs body) := by
  induction xs with
  | nil => exact Within.pure hrefl 0
  | cons x xs ih =>
    have hrest := ih fun y hy => hbody y (List.mem_cons_of_mem x hy)
    exact Within.bind htrans (hbody x List.mem_cons_self) fun _ =>
      Within.bind htrans hrest fun _ => Within.pure hrefl _

/-- A handler starts from the store the exception left. -/
theorem Within.tryCatch (htrans : ∀ s s' s'', R s s' → R s' s'' → R s s'') {m : Effect σ ε α}
    {handler : ε → Effect σ ε α} (hm : Within R m) (hhandler : ∀ e, Within R (handler e)) :
    Within R (tryCatch m handler) := by
  intro s
  rw [exec_tryCatch]
  have hs := hm s
  rcases hr : m.exec s with ⟨r, s'⟩
  rw [hr] at hs
  cases r with
  | error e => exact htrans _ _ _ hs (hhandler e s')
  | ok a => exact hs

/-- **Transactions.** Only what is committed counts. -/
theorem Within.atomically (hrefl : ∀ s, R s s) {t : Transaction σ ε α}
    (h : ∀ s a s', t.run s = .ok (a, s') → R s s') : Within R (atomically t) := by
  intro s
  rw [exec_atomically]
  cases ht : t.run s with
  | error e => exact hrefl s
  | ok p => exact h s p.1 p.2 ht

end Within

end Effect

end Framework
