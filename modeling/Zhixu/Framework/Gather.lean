import Zhixu.Framework.Effect

/-!
# The first few distinct finds of a search

A loop looks at one element after another. Some have something to offer, some have not, and some raise.
What is offered is kept unless its key is that of something kept before, and the loop ends when it has
as many as it wants.

`keysOf` are the keys on offer in a list. What has been kept, when the loop comes to an element, has the
distinct keys of the elements before it (`Kept`), so the loop looks at an element exactly if these are too
few (`Looked`). From one step (`gather_cons`) follows by induction what a whole loop does: it comes to an
end exactly if no element it looks at raises (`gather_ok_iff`), the keys it ends with are the first few
distinct ones on offer (`keys_gather`), and it ends with what was on offer the first time for its key
(`mem_gather_iff`).
-/

namespace Framework

universe u

section Gather

variable {ε α β κ : Type u} [DecidableEq κ] (f : α → Except ε (Option β)) (key : β → κ) (limit : ℕ)

/-- `for x in xs: …; if len(found) >= limit: break`. -/
def gather : List β → List α → Except ε (List β)
  | found, [] => .ok found
  | found, x :: xs => do
    match ← f x with
    | none => gather found xs
    | some y =>
      if key y ∈ found.map key then gather found xs
      else if limit ≤ (found ++ [y]).length then return found ++ [y]
      else gather (found ++ [y]) xs

/-- The key that an element has on offer. -/
def keyOf (x : α) : Option κ :=
  match f x with
  | .ok (some y) => some (key y)
  | _ => none

/-- The keys on offer. -/
def keysOf (xs : List α) : List κ := xs.filterMap (keyOf f key)

/-- The loop comes to what is behind these elements. -/
def Looked (pre : List α) : Prop := (keysOf f key pre).eraseDups.length < limit

/-- What has been kept behind some elements. -/
structure Kept (pre : List α) (found : List β) : Prop where
  keys : found.map key = (keysOf f key pre).eraseDups
  first : ∀ y, y ∈ found ↔ ∃ before x after, pre = before ++ x :: after ∧ f x = .ok (some y) ∧
    key y ∉ keysOf f key before

variable {f key limit}

omit [DecidableEq κ] in
theorem keysOf_append (pre : List α) (x : α) :
    keysOf f key (pre ++ [x]) = keysOf f key pre ++ (keyOf f key x).toList := by
  unfold keysOf
  rw [List.filterMap_append]
  cases hkey : keyOf f key x <;> simp [hkey]

omit [DecidableEq κ] in
theorem keyOf_of_offer {x : α} {y : β} (h : f x = .ok (some y)) : keyOf f key x = some (key y) := by
  unfold keyOf
  rw [h]

theorem eraseDups_append_singleton (keys : List κ) (k : κ) :
    (keys ++ [k]).eraseDups = if k ∈ keys then keys.eraseDups else keys.eraseDups ++ [k] := by
  rw [List.eraseDups_append]
  unfold List.removeAll
  split_ifs with hmem
  · simp [hmem]
  · simp [hmem, List.eraseDups_cons]

/-- A part that is an extension by one element. -/
theorem eq_append_singleton {pre before after : List α} {x z : α}
    (h : pre ++ [x] = before ++ z :: after) :
    (after = [] ∧ pre = before ∧ z = x) ∨ ∃ after', after = after' ++ [x] ∧ pre = before ++ z :: after' := by
  rcases List.eq_nil_or_concat after with rfl | ⟨after', last, rfl⟩
  · obtain ⟨hpre, hx⟩ := List.append_inj' h rfl
    exact .inl ⟨rfl, hpre, (List.singleton_inj.mp hx).symm⟩
  · rw [List.concat_eq_append] at h ⊢
    have hassoc : before ++ z :: (after' ++ [last]) = (before ++ z :: after') ++ [last] := by simp
    rw [hassoc] at h
    obtain ⟨hpre, hx⟩ := List.append_inj' h rfl
    obtain rfl := List.singleton_inj.mp hx
    exact .inr ⟨after', rfl, hpre⟩

theorem Kept.nil : Kept f key [] [] := by
  refine ⟨rfl, fun y => ⟨fun h => (nomatch h), ?_⟩⟩
  rintro ⟨before, x, after, hnil, -⟩
  exact absurd hnil.symm (List.append_ne_nil_of_right_ne_nil _ (List.cons_ne_nil _ _))

/-- An element that has nothing new on offer. -/
theorem Kept.skip {pre : List α} {found : List β} (h : Kept f key pre found) {x : α}
    (hskip : ∀ y, f x = .ok (some y) → key y ∈ keysOf f key pre) :
    Kept f key (pre ++ [x]) found := by
  have hkeys : (keysOf f key (pre ++ [x])).eraseDups = (keysOf f key pre).eraseDups := by
    rw [keysOf_append]
    cases hkey : keyOf f key x with
    | none => exact congrArg List.eraseDups (List.append_nil _)
    | some k =>
      have hmem : k ∈ keysOf f key pre := by
        unfold keyOf at hkey
        split at hkey
        · rename_i y hy
          obtain rfl := Option.some.inj hkey
          exact hskip y hy
        · cases hkey
      exact (eraseDups_append_singleton _ k).trans (if_pos hmem)
  refine ⟨h.keys.trans hkeys.symm, fun y => (h.first y).trans ⟨?_, ?_⟩⟩
  · rintro ⟨before, z, after, rfl, hz⟩
    exact ⟨before, z, after ++ [x], by simp, hz⟩
  · rintro ⟨before, z, after, hpre, hz, hnew⟩
    rcases eq_append_singleton hpre with ⟨-, rfl, rfl⟩ | ⟨after', -, hpre⟩
    · exact absurd (hskip y hz) hnew
    · exact ⟨before, z, after', hpre, hz, hnew⟩

/-- An element that has something new on offer. -/
theorem Kept.add {pre : List α} {found : List β} (h : Kept f key pre found) {x : α} {y : β}
    (hoffer : f x = .ok (some y)) (hnew : key y ∉ keysOf f key pre) :
    Kept f key (pre ++ [x]) (found ++ [y]) := by
  constructor
  · rw [keysOf_append, keyOf_of_offer hoffer, Option.toList_some, eraseDups_append_singleton,
      if_neg hnew, ← h.keys, List.map_append, List.map_singleton]
  · intro y'
    rw [List.mem_append, List.mem_singleton, h.first]
    constructor
    · rintro (⟨before, z, after, rfl, hz⟩ | rfl)
      · exact ⟨before, z, after ++ [x], by simp, hz⟩
      · exact ⟨pre, x, [], rfl, hoffer, hnew⟩
    · rintro ⟨before, z, after, hpre, hz, hfresh⟩
      rcases eq_append_singleton hpre with ⟨-, rfl, rfl⟩ | ⟨after', -, hpre⟩
      · rw [hoffer] at hz
        exact .inr (Option.some.inj (Except.ok.inj hz)).symm
      · exact .inl ⟨before, z, after', hpre, hz, hfresh⟩

/-- **One step** of a loop that looks at an element: it raises, or keeps what there is, and either ends
with the element or goes on. -/
theorem gather_cons {pre : List α} {found : List β} (hkept : Kept f key pre found)
    (hlooked : Looked f key limit pre) (x : α) (xs : List α) :
    (∃ e, f x = .error e ∧ gather f key limit found (x :: xs) = .error e) ∨
      ∃ found', Kept f key (pre ++ [x]) found' ∧ (∃ r, f x = .ok r) ∧
        ((Looked f key limit (pre ++ [x]) ∧
            gather f key limit found (x :: xs) = gather f key limit found' xs) ∨
          (found'.length = limit ∧ gather f key limit found (x :: xs) = .ok found')) := by
  have hmem : ∀ y, key y ∈ found.map key ↔ key y ∈ keysOf f key pre := by
    intro y
    rw [hkept.keys, List.mem_eraseDups]
  have hlength : found.length < limit := by
    rw [← List.length_map (f := key), hkept.keys]
    exact hlooked
  have hagain : ∀ {found'}, Kept f key (pre ++ [x]) found' → found'.length < limit →
      Looked f key limit (pre ++ [x]) := by
    intro found' hkept' hshort
    unfold Looked
    rw [← hkept'.keys, List.length_map]
    exact hshort
  cases hx : f x with
  | error e =>
    refine .inl ⟨e, rfl, ?_⟩
    unfold gather
    rw [hx]
    rfl
  | ok offer =>
    refine .inr ?_
    cases offer with
    | none =>
      have hskip := hkept.skip (x := x) fun y hy => by
        rw [hx] at hy
        cases hy
      refine ⟨found, hskip, ⟨none, rfl⟩, .inl ⟨hagain hskip hlength, ?_⟩⟩
      rw [gather, hx]
      rfl
    | some y =>
      have hgather : gather f key limit found (x :: xs) =
          if key y ∈ found.map key then gather f key limit found xs
          else if limit ≤ (found ++ [y]).length then .ok (found ++ [y])
          else gather f key limit (found ++ [y]) xs := by
        rw [gather, hx]
        rfl
      rw [hgather]
      by_cases hknown : key y ∈ found.map key
      · have hskip := hkept.skip (x := x) fun y' hy' => by
          rw [hx] at hy'
          obtain rfl := Option.some.inj (Except.ok.inj hy')
          exact (hmem y).mp hknown
        rw [if_pos hknown]
        exact ⟨found, hskip, ⟨_, rfl⟩, .inl ⟨hagain hskip hlength, rfl⟩⟩
      · have hadd := hkept.add hx fun h => hknown ((hmem y).mpr h)
        have hone : (found ++ [y]).length = found.length + 1 := by simp
        rw [if_neg hknown]
        refine ⟨found ++ [y], hadd, ⟨_, rfl⟩, ?_⟩
        by_cases hfull : limit ≤ (found ++ [y]).length
        · rw [if_pos hfull]
          exact .inr ⟨by omega, rfl⟩
        · rw [if_neg hfull]
          exact .inl ⟨hagain hadd (by omega), rfl⟩

/-- Where the elements that are looked at stand. -/
theorem looked_of_front {pre more : List α} (h : Looked f key limit (pre ++ more)) :
    Looked f key limit pre := by
  unfold Looked keysOf at h ⊢
  rw [List.filterMap_append, List.eraseDups_append, List.length_append] at h
  exact Nat.lt_of_le_of_lt (Nat.le_add_right _ _) h

/-- Where a loop has ended: all elements up to there have been looked at, none of them raised, and they
were all, or as many have been kept as are wanted. -/
structure Ended (f : α → Except ε (Option β)) (key : β → κ) (limit : ℕ) (pre behind rest : List α)
    (found : List β) : Prop where
  kept : Kept f key (pre ++ behind) found
  looked : ∀ before x after, behind = before ++ x :: after →
    Looked f key limit (pre ++ before) ∧ ∃ r, f x = .ok r
  short : found.length ≤ limit
  full : rest = [] ∨ found.length = limit

/-- **A whole loop**, from where some elements are behind it: it raises at an element that it looks at, or
it ends. -/
theorem gather_from {pre : List α} {found : List β} (hkept : Kept f key pre found)
    (hlooked : Looked f key limit pre) (xs : List α) :
    (∃ e before x after, xs = before ++ x :: after ∧ Looked f key limit (pre ++ before) ∧
        f x = .error e ∧ gather f key limit found xs = .error e) ∨
      ∃ found' behind rest, xs = behind ++ rest ∧ gather f key limit found xs = .ok found' ∧
        Ended f key limit pre behind rest found' := by
  induction xs generalizing pre found with
  | nil =>
    have hlength : found.length < limit := by
      rw [← List.length_map (f := key), hkept.keys]
      exact hlooked
    refine .inr ⟨found, [], [], rfl, rfl, ?_, ?_, Nat.le_of_lt hlength, .inl rfl⟩
    · rw [List.append_nil]
      exact hkept
    · intro before x after hnil
      exact absurd hnil.symm (List.append_ne_nil_of_right_ne_nil _ (List.cons_ne_nil _ _))
  | cons x xs ih =>
    rcases gather_cons hkept hlooked x xs with ⟨e, hx, hraise⟩ | ⟨found', hkept', hx, hgoes⟩
    · exact .inl ⟨e, [], x, xs, rfl, by rwa [List.append_nil], hx, hraise⟩
    have hassoc : ∀ more, pre ++ [x] ++ more = pre ++ x :: more := fun more => by simp
    rcases hgoes with ⟨hlooked', hgather⟩ | ⟨hfull, hgather⟩
    · rcases ih hkept' hlooked' with ⟨e, before, z, after, rfl, hbefore, hz, hraise⟩ |
        ⟨found'', behind, rest, rfl, hend, hended⟩
      · rw [hassoc] at hbefore
        exact .inl ⟨e, x :: before, z, after, rfl, hbefore, hz, hgather.trans hraise⟩
      · refine .inr ⟨found'', x :: behind, rest, rfl, hgather.trans hend, ?_, ?_, hended.short,
          hended.full⟩
        · rw [← hassoc]
          exact hended.kept
        · intro before z after hbehind
          cases before with
          | nil =>
            obtain ⟨rfl, -⟩ := List.cons.inj hbehind
            exact ⟨by rwa [List.append_nil], hx⟩
          | cons first before =>
            obtain ⟨rfl, hlater⟩ := List.cons.inj hbehind
            rw [← hassoc]
            exact hended.looked before z after hlater
    · refine .inr ⟨found', [x], xs, rfl, hgather, hkept', ?_, Nat.le_of_eq hfull, .inr hfull⟩
      intro before z after hbehind
      cases before with
      | nil =>
        obtain ⟨rfl, -⟩ := List.cons.inj hbehind
        exact ⟨by rwa [List.append_nil], hx⟩
      | cons first before =>
        obtain ⟨-, hnil⟩ := List.cons.inj hbehind
        exact absurd hnil.symm (List.append_ne_nil_of_right_ne_nil _ (List.cons_ne_nil _ _))

/-- An element that is looked at stands where the loop has been. -/
theorem Ended.within {behind rest : List α} {found : List β}
    (h : Ended f key limit [] behind rest found) {before : List α} {x : α} {after : List α}
    (hxs : behind ++ rest = before ++ x :: after) (hlooked : Looked f key limit before) :
    ∃ after', behind = before ++ x :: after' := by
  have hstop : Looked f key limit behind → rest = [] := by
    intro hmore
    rcases h.full with hnil | hfull
    · exact hnil
    · unfold Looked at hmore
      have hkeys : (keysOf f key behind).eraseDups.length = limit := by
        rw [← hfull, ← List.length_map (f := key), h.kept.keys]
        rfl
      omega
  rcases List.append_eq_append_iff.mp hxs with ⟨more, rfl, hrest⟩ | ⟨more, hbehind, hmore⟩
  · rw [hstop (looked_of_front hlooked)] at hrest
    exact absurd hrest.symm (List.append_ne_nil_of_right_ne_nil _ (List.cons_ne_nil _ _))
  · cases more with
    | nil =>
      rw [List.append_nil] at hbehind
      subst hbehind
      rw [hstop hlooked] at hmore
      cases hmore
    | cons z more =>
      obtain ⟨rfl, -⟩ := List.cons.inj hmore
      exact ⟨more, hbehind⟩

section Whole

variable {xs : List α} {found : List β}

/-- **A loop comes to an end** exactly if no element that it looks at raises. -/
theorem gather_ok_iff (hlimit : 0 < limit) :
    (∃ found, gather f key limit [] xs = .ok found) ↔
      ∀ before x after, xs = before ++ x :: after → Looked f key limit before → ∃ r, f x = .ok r := by
  rcases @gather_from ε α β κ _ f key limit [] [] Kept.nil hlimit xs with
    ⟨e, before, x, after, rfl, hlooked, hx, hraise⟩ | ⟨found, behind, rest, rfl, hend, hended⟩
  · refine iff_of_false ?_ fun h => ?_
    · rintro ⟨found, hok⟩
      rw [hraise] at hok
      cases hok
    · obtain ⟨r, hr⟩ := h before x after rfl hlooked
      rw [hx] at hr
      cases hr
  · refine iff_of_true ⟨found, hend⟩ fun before x after hxs hlooked => ?_
    obtain ⟨after', hbehind⟩ := hended.within hxs hlooked
    exact (hended.looked before x after' hbehind).2

/-- What a loop that comes to an end has kept. -/
theorem gather_ended (hlimit : 0 < limit) (h : gather f key limit [] xs = .ok found) :
    ∃ behind rest, xs = behind ++ rest ∧ Ended f key limit [] behind rest found := by
  rcases @gather_from ε α β κ _ f key limit [] [] Kept.nil hlimit xs with
    ⟨e, _, _, _, -, -, -, hraise⟩ | ⟨found', behind, rest, hxs, hend, hended⟩
  · rw [h] at hraise
    cases hraise
  · rw [h] at hend
    obtain rfl := Except.ok.inj hend
    exact ⟨behind, rest, hxs, hended⟩

/-- **The keys of what is kept** are the first distinct ones on offer. -/
theorem keys_gather (hlimit : 0 < limit) (h : gather f key limit [] xs = .ok found) :
    found.map key = (keysOf f key xs).eraseDups.take limit := by
  obtain ⟨behind, rest, rfl, hended⟩ := gather_ended hlimit h
  have hkeys : found.map key = (keysOf f key behind).eraseDups := hended.kept.keys
  have hlength : (keysOf f key behind).eraseDups.length = found.length := by
    rw [← hkeys, List.length_map]
  rw [hkeys]
  rcases hended.full with rfl | hfull
  · rw [List.append_nil, List.take_of_length_le]
    rw [hlength]
    exact hended.short
  · unfold keysOf at hlength ⊢
    rw [List.filterMap_append, List.eraseDups_append, List.take_left']
    rw [hlength, hfull]

/-- **What is kept** was on offer the first time for its key, where the loop looked. -/
theorem mem_gather_iff (hlimit : 0 < limit) (h : gather f key limit [] xs = .ok found) (y : β) :
    y ∈ found ↔ ∃ before x after, xs = before ++ x :: after ∧ Looked f key limit before ∧
      f x = .ok (some y) ∧ key y ∉ keysOf f key before := by
  obtain ⟨behind, rest, rfl, hended⟩ := gather_ended hlimit h
  rw [hended.kept.first]
  constructor
  · rintro ⟨before, x, after, hbehind, hx, hnew⟩
    refine ⟨before, x, after ++ rest, ?_, (hended.looked before x after hbehind).1, hx, hnew⟩
    change [] ++ behind ++ rest = _
    rw [hbehind, List.append_assoc, List.cons_append]
  · rintro ⟨before, x, after, hxs, hlooked, hx, hnew⟩
    obtain ⟨after', hbehind⟩ := hended.within hxs hlooked
    exact ⟨before, x, after', hbehind, hx, hnew⟩

end Whole

end Gather

end Framework
