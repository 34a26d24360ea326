import Mathlib.Data.List.Infix

/-!
# Patterns

Regular expressions the way a backtracking matcher reads them. The repeated part of a pattern is a set
of characters, so a match is found by recursion on the pattern alone.

`Pattern.runs` lists every way in which a pattern can take characters from the front of a text, in the
order in which the matcher tries them, each with what the groups have noted. A full match is the first
way that takes everything.

What such a match tells is in two lemmas.

* `runs_sound`: what was taken is a word of the pattern (`Accepts`), and what a group has noted is a
  word of the pattern inside that group.
* `fullmatch_none_of_opens`: a text that starts in a certain way matches no pattern whose words cannot
  start so. `opens` computes, for a start that is given, what can be left of it behind the words of a
  pattern.
-/

namespace Framework

/-- A regular expression. -/
inductive Pattern
  /-- these characters -/
  | text (cs : List Char)
  /-- characters with a property, the most of them first or the fewest -/
  | many (p : Char → Bool) (least : ℕ) (most : Option ℕ) (greedy : Bool)
  | seq (a b : Pattern)
  | alt (a b : Pattern)
  /-- once, or else not at all -/
  | opt (a : Pattern)
  /-- what is taken is noted under a number -/
  | group (index : ℕ) (a : Pattern)

namespace Pattern

/-- What the groups have noted. -/
abbrev Groups := List (ℕ × List Char)

/-! ### Matching -/

/-- How many characters a repetition can take. -/
def counts (p : Char → Bool) (least : ℕ) (most : Option ℕ) (cs : List Char) : List ℕ :=
  (List.range ((cs.takeWhile p).length + 1)).filter fun n =>
    least ≤ n ∧ ∀ bound ∈ most, n ≤ bound

/-- The ways to take characters from the front, the first to be tried first. -/
def runs : Pattern → List Char → List (Groups × List Char)
  | text t, cs => if t.isPrefixOf cs = true then [([], cs.drop t.length)] else []
  | many p least most greedy, cs =>
    let ns := counts p least most cs
    (if greedy = true then ns.reverse else ns).map fun n => ([], cs.drop n)
  | seq a b, cs =>
    (a.runs cs).flatMap fun first =>
      (b.runs first.2).map fun second => (first.1 ++ second.1, second.2)
  | alt a b, cs => a.runs cs ++ b.runs cs
  | opt a, cs => a.runs cs ++ [([], cs)]
  | group index a, cs =>
    (a.runs cs).map fun run =>
      (run.1 ++ [(index, cs.take (cs.length - run.2.length))], run.2)

/-- The first way that takes everything. -/
def fullmatch (a : Pattern) (cs : List Char) : Option Groups :=
  ((a.runs cs).find? fun run => run.2.isEmpty).map Prod.fst

/-- Whether the pattern can be found somewhere. -/
def found (a : Pattern) (cs : List Char) : Bool :=
  cs.tails.any fun tail => !(a.runs tail).isEmpty

/-! ### Words -/

/-- The words of a pattern. -/
def Accepts : Pattern → List Char → Prop
  | text t, w => w = t
  | many p least most _, w =>
    (∀ c ∈ w, p c = true) ∧ least ≤ w.length ∧ ∀ bound ∈ most, w.length ≤ bound
  | seq a b, w => ∃ u v, w = u ++ v ∧ a.Accepts u ∧ b.Accepts v
  | alt a b, w => a.Accepts w ∨ b.Accepts w
  | opt a, w => w = [] ∨ a.Accepts w
  | group _ a, w => a.Accepts w

/-- What stands inside a group. -/
def captures : Pattern → ℕ → List Pattern
  | text _, _ => []
  | many .., _ => []
  | seq a b, index => a.captures index ++ b.captures index
  | alt a b, index => a.captures index ++ b.captures index
  | opt a, index => a.captures index
  | group own a, index => (if own = index then [a] else []) ++ a.captures index

/-- What a repetition takes is a run of characters with the property. -/
theorem mem_counts {p : Char → Bool} {least : ℕ} {most : Option ℕ} {cs : List Char} {n : ℕ} :
    n ∈ counts p least most cs ↔
      n ≤ (cs.takeWhile p).length ∧ least ≤ n ∧ ∀ bound ∈ most, n ≤ bound := by
  unfold counts
  rw [List.mem_filter, List.mem_range, Nat.lt_succ_iff, decide_eq_true_eq]

theorem take_takeWhile {p : Char → Bool} {cs : List Char} {n : ℕ}
    (h : n ≤ (cs.takeWhile p).length) :
    (cs.take n).length = n ∧ ∀ c ∈ cs.take n, p c = true := by
  obtain ⟨rest, hrest⟩ := List.takeWhile_prefix (l := cs) p
  have htake : cs.take n = (cs.takeWhile p).take n := by
    conv_lhs => rw [← hrest]
    exact List.take_append_of_le_length h
  rw [htake]
  refine ⟨by rw [List.length_take, Nat.min_eq_left h], fun c hc => ?_⟩
  exact List.all_eq_true.mp List.all_takeWhile c (List.mem_of_mem_take hc)

/-- **What is taken is a word of the pattern**, and what is noted one of the pattern in its group. -/
theorem runs_sound {a : Pattern} {cs rest : List Char} {groups : Groups}
    (h : (groups, rest) ∈ a.runs cs) : (∃ w, cs = w ++ rest ∧ a.Accepts w) ∧
      ∀ index w, (index, w) ∈ groups → ∃ b ∈ a.captures index, b.Accepts w := by
  induction a generalizing cs rest groups with
  | text t =>
    unfold runs at h
    split at h
    · rename_i hprefix
      obtain ⟨more, rfl⟩ := List.isPrefixOf_iff_prefix.mp hprefix
      obtain ⟨rfl, rfl⟩ := Prod.mk.inj (List.mem_singleton.mp h)
      exact ⟨⟨t, by rw [List.drop_left], rfl⟩, fun _ _ hmem => absurd hmem List.not_mem_nil⟩
    · exact absurd h List.not_mem_nil
  | many p least most greedy =>
    unfold runs at h
    obtain ⟨n, hn, heq⟩ := List.mem_map.mp h
    obtain ⟨rfl, rfl⟩ := Prod.mk.inj heq
    have hcount : n ∈ counts p least most cs := by
      split at hn
      · exact List.mem_reverse.mp hn
      · exact hn
    obtain ⟨hrun, hleast, hmost⟩ := mem_counts.mp hcount
    obtain ⟨hlength, hall⟩ := take_takeWhile hrun
    refine ⟨⟨cs.take n, (List.take_append_drop n cs).symm, hall, ?_, ?_⟩,
      fun _ _ hmem => absurd hmem List.not_mem_nil⟩
    · rw [hlength]
      exact hleast
    · rw [hlength]
      exact hmost
  | seq a b iha ihb =>
    unfold runs at h
    obtain ⟨⟨firstGroups, middle⟩, hfirst, h⟩ := List.mem_flatMap.mp h
    obtain ⟨⟨secondGroups, last⟩, hsecond, heq⟩ := List.mem_map.mp h
    obtain ⟨rfl, rfl⟩ := Prod.mk.inj heq
    obtain ⟨⟨u, rfl, hu⟩, hnotedFirst⟩ := iha hfirst
    obtain ⟨⟨v, rfl, hv⟩, hnotedSecond⟩ := ihb hsecond
    refine ⟨⟨u ++ v, (List.append_assoc ..).symm, u, v, rfl, hu, hv⟩, fun index w hmem => ?_⟩
    rcases List.mem_append.mp hmem with hmem | hmem
    · obtain ⟨c, hc, hword⟩ := hnotedFirst index w hmem
      exact ⟨c, List.mem_append_left _ hc, hword⟩
    · obtain ⟨c, hc, hword⟩ := hnotedSecond index w hmem
      exact ⟨c, List.mem_append_right _ hc, hword⟩
  | alt a b iha ihb =>
    unfold runs at h
    rcases List.mem_append.mp h with h | h
    · obtain ⟨⟨w, hcs, hw⟩, hnoted⟩ := iha h
      refine ⟨⟨w, hcs, Or.inl hw⟩, fun index v hmem => ?_⟩
      obtain ⟨c, hc, hword⟩ := hnoted index v hmem
      exact ⟨c, List.mem_append_left _ hc, hword⟩
    · obtain ⟨⟨w, hcs, hw⟩, hnoted⟩ := ihb h
      refine ⟨⟨w, hcs, Or.inr hw⟩, fun index v hmem => ?_⟩
      obtain ⟨c, hc, hword⟩ := hnoted index v hmem
      exact ⟨c, List.mem_append_right _ hc, hword⟩
  | opt a iha =>
    unfold runs at h
    rcases List.mem_append.mp h with h | h
    · obtain ⟨⟨w, hcs, hw⟩, hnoted⟩ := iha h
      exact ⟨⟨w, hcs, Or.inr hw⟩, hnoted⟩
    · obtain ⟨rfl, rfl⟩ := Prod.mk.inj (List.mem_singleton.mp h)
      exact ⟨⟨[], rfl, Or.inl rfl⟩, fun _ _ hmem => absurd hmem List.not_mem_nil⟩
  | group own a iha =>
    unfold runs at h
    obtain ⟨⟨inner, last⟩, hinner, heq⟩ := List.mem_map.mp h
    obtain ⟨rfl, rfl⟩ := Prod.mk.inj heq
    obtain ⟨⟨w, rfl, hw⟩, hnoted⟩ := iha hinner
    refine ⟨⟨w, rfl, hw⟩, fun index v hmem => ?_⟩
    rcases List.mem_append.mp hmem with hmem | hmem
    · obtain ⟨c, hc, hword⟩ := hnoted index v hmem
      exact ⟨c, List.mem_append_right _ hc, hword⟩
    · obtain ⟨rfl, rfl⟩ := Prod.mk.inj (List.mem_singleton.mp hmem)
      have htaken : (w ++ last).take ((w ++ last).length - last.length) = w := by
        rw [List.length_append, Nat.add_sub_cancel, List.take_left]
      refine ⟨a, List.mem_append_left _ ?_, htaken.symm ▸ hw⟩
      rw [if_pos rfl]
      exact List.mem_singleton.mpr rfl

/-- A full match takes a word of the pattern. -/
theorem fullmatch_sound {a : Pattern} {cs : List Char} {groups : Groups}
    (h : a.fullmatch cs = some groups) : a.Accepts cs ∧
      ∀ index w, (index, w) ∈ groups → ∃ b ∈ a.captures index, b.Accepts w := by
  unfold fullmatch at h
  obtain ⟨⟨found, rest⟩, hfind, rfl⟩ := Option.map_eq_some_iff.mp h
  have hrest : rest = [] := by simpa using List.find?_some hfind
  subst hrest
  obtain ⟨⟨w, rfl, hw⟩, hnoted⟩ := runs_sound (List.mem_of_find?_eq_some hfind)
  rw [List.append_nil]
  exact ⟨hw, hnoted⟩

/-- What a group has noted in a full match. -/
theorem accepts_of_lookup {a : Pattern} {cs w : List Char} {groups : Groups} {index : ℕ}
    (h : a.fullmatch cs = some groups) (hnoted : groups.lookup index = some w) :
    ∃ b ∈ a.captures index, b.Accepts w := by
  have hmem : (index, w) ∈ groups := by
    obtain ⟨before, after, rfl, -⟩ := List.lookup_eq_some_iff.mp hnoted
    exact List.mem_append_right _ (List.mem_cons_self ..)
  exact (fullmatch_sound h).2 index w hmem

/-- The group takes part in every match. -/
def always : Pattern → ℕ → Bool
  | text _, _ => false
  | many .., _ => false
  | seq a b, index => a.always index || b.always index
  | alt a b, index => a.always index && b.always index
  | opt _, _ => false
  | group own a, index => own == index || a.always index

theorem exists_noted {a : Pattern} {index : ℕ} (halways : a.always index = true)
    {cs rest : List Char} {groups : Groups} (h : (groups, rest) ∈ a.runs cs) :
    ∃ w, (index, w) ∈ groups := by
  induction a generalizing cs rest groups with
  | text t => exact absurd halways (by simp [always])
  | many p least most greedy => exact absurd halways (by simp [always])
  | seq a b iha ihb =>
    unfold runs at h
    obtain ⟨⟨firstGroups, middle⟩, hfirst, h⟩ := List.mem_flatMap.mp h
    obtain ⟨⟨secondGroups, last⟩, hsecond, heq⟩ := List.mem_map.mp h
    obtain ⟨rfl, rfl⟩ := Prod.mk.inj heq
    rcases Bool.or_eq_true_iff.mp halways with ha | hb
    · obtain ⟨w, hw⟩ := iha ha hfirst
      exact ⟨w, List.mem_append_left _ hw⟩
    · obtain ⟨w, hw⟩ := ihb hb hsecond
      exact ⟨w, List.mem_append_right _ hw⟩
  | alt a b iha ihb =>
    unfold runs at h
    obtain ⟨ha, hb⟩ := Bool.and_eq_true_iff.mp halways
    rcases List.mem_append.mp h with h | h
    · exact iha ha h
    · exact ihb hb h
  | opt a iha => exact absurd halways (by simp [always])
  | group own a iha =>
    unfold runs at h
    obtain ⟨⟨inner, last⟩, hinner, heq⟩ := List.mem_map.mp h
    obtain ⟨rfl, rfl⟩ := Prod.mk.inj heq
    rcases Bool.or_eq_true_iff.mp halways with hown | ha
    · rw [beq_iff_eq] at hown
      subst hown
      exact ⟨_, List.mem_append_right _ (List.mem_singleton.mpr rfl)⟩
    · obtain ⟨w, hw⟩ := iha ha hinner
      exact ⟨w, List.mem_append_left _ hw⟩

theorem exists_of_noted {groups : Groups} {index : ℕ} {w : List Char} (h : (index, w) ∈ groups) :
    ∃ v, groups.lookup index = some v := by
  cases hlookup : groups.lookup index with
  | some v => exact ⟨v, rfl⟩
  | none => exact absurd (List.lookup_eq_none_iff.mp hlookup (index, w) h) (by simp)

/-- What a group has noted that takes part in every match. -/
theorem exists_lookup {a : Pattern} {index : ℕ} (halways : a.always index = true) {cs : List Char}
    {groups : Groups} (h : a.fullmatch cs = some groups) : ∃ w, groups.lookup index = some w := by
  unfold fullmatch at h
  obtain ⟨⟨found, rest⟩, hfind, rfl⟩ := Option.map_eq_some_iff.mp h
  obtain ⟨w, hw⟩ := exists_noted halways (List.mem_of_find?_eq_some hfind)
  exact exists_of_noted hw

/-- Whenever the first group takes part, so does the second. -/
def together : Pattern → ℕ → ℕ → Bool
  | text _, _, _ => true
  | many .., _, _ => true
  | seq a b, i, j => a.together i j && b.together i j || a.always j || b.always j
  | alt a b, i, j => a.together i j && b.together i j
  | opt a, i, j => a.together i j
  | group own a, i, j => own == j || a.always j || own != i && a.together i j

theorem exists_noted_of_together {a : Pattern} {i j : ℕ} (htogether : a.together i j = true)
    {cs rest w : List Char} {groups : Groups} (h : (groups, rest) ∈ a.runs cs)
    (hnoted : (i, w) ∈ groups) : ∃ v, (j, v) ∈ groups := by
  -- a pattern in which the second group always takes part
  have halways : ∀ {b : Pattern} {cs rest : List Char} {groups : Groups}, b.always j = true →
      (groups, rest) ∈ b.runs cs → ∃ v, (j, v) ∈ groups := fun hb hruns => exists_noted hb hruns
  induction a generalizing cs rest groups with
  | text t =>
    unfold runs at h
    split at h
    · obtain ⟨rfl, -⟩ := Prod.mk.inj (List.mem_singleton.mp h)
      exact absurd hnoted List.not_mem_nil
    · exact absurd h List.not_mem_nil
  | many p least most greedy =>
    unfold runs at h
    obtain ⟨n, -, heq⟩ := List.mem_map.mp h
    obtain ⟨rfl, -⟩ := Prod.mk.inj heq
    exact absurd hnoted List.not_mem_nil
  | seq a b iha ihb =>
    unfold runs at h
    obtain ⟨⟨firstGroups, middle⟩, hfirst, h⟩ := List.mem_flatMap.mp h
    obtain ⟨⟨secondGroups, last⟩, hsecond, heq⟩ := List.mem_map.mp h
    obtain ⟨rfl, rfl⟩ := Prod.mk.inj heq
    rcases Bool.or_eq_true_iff.mp htogether with hboth | hb
    · rcases Bool.or_eq_true_iff.mp hboth with hboth | ha
      · obtain ⟨ha, hb⟩ := Bool.and_eq_true_iff.mp hboth
        rcases List.mem_append.mp hnoted with hnoted | hnoted
        · obtain ⟨v, hv⟩ := iha ha hfirst hnoted
          exact ⟨v, List.mem_append_left _ hv⟩
        · obtain ⟨v, hv⟩ := ihb hb hsecond hnoted
          exact ⟨v, List.mem_append_right _ hv⟩
      · obtain ⟨v, hv⟩ := halways ha hfirst
        exact ⟨v, List.mem_append_left _ hv⟩
    · obtain ⟨v, hv⟩ := halways hb hsecond
      exact ⟨v, List.mem_append_right _ hv⟩
  | alt a b iha ihb =>
    unfold runs at h
    obtain ⟨ha, hb⟩ := Bool.and_eq_true_iff.mp htogether
    rcases List.mem_append.mp h with h | h
    · exact iha ha h hnoted
    · exact ihb hb h hnoted
  | opt a iha =>
    unfold runs at h
    rcases List.mem_append.mp h with h | h
    · exact iha htogether h hnoted
    · obtain ⟨rfl, -⟩ := Prod.mk.inj (List.mem_singleton.mp h)
      exact absurd hnoted List.not_mem_nil
  | group own a iha =>
    unfold runs at h
    obtain ⟨⟨inner, last⟩, hinner, heq⟩ := List.mem_map.mp h
    obtain ⟨rfl, rfl⟩ := Prod.mk.inj heq
    rcases Bool.or_eq_true_iff.mp htogether with hfirst | hinside
    · rcases Bool.or_eq_true_iff.mp hfirst with hown | ha
      · rw [beq_iff_eq] at hown
        subst hown
        exact ⟨_, List.mem_append_right _ (List.mem_singleton.mpr rfl)⟩
      · obtain ⟨v, hv⟩ := halways ha hinner
        exact ⟨v, List.mem_append_left _ hv⟩
    · -- the group is another one, so it is inside that the first was noted
      obtain ⟨hother, ha⟩ := Bool.and_eq_true_iff.mp hinside
      rcases List.mem_append.mp hnoted with hnoted | hnoted
      · obtain ⟨v, hv⟩ := iha ha hinner hnoted
        exact ⟨v, List.mem_append_left _ hv⟩
      · have hsame : i = own := (Prod.mk.inj (List.mem_singleton.mp hnoted)).1
        exact absurd hsame.symm (bne_iff_ne.mp hother)

theorem lookup_together {a : Pattern} {i j : ℕ} (htogether : a.together i j = true)
    {cs w : List Char} {groups : Groups} (h : a.fullmatch cs = some groups)
    (hnoted : groups.lookup i = some w) : ∃ v, groups.lookup j = some v := by
  have hmem : (i, w) ∈ groups := by
    obtain ⟨before, after, rfl, -⟩ := List.lookup_eq_some_iff.mp hnoted
    exact List.mem_append_right _ (List.mem_cons_self ..)
  unfold fullmatch at h
  obtain ⟨⟨found, rest⟩, hfind, rfl⟩ := Option.map_eq_some_iff.mp h
  obtain ⟨v, hv⟩ := exists_noted_of_together htogether (List.mem_of_find?_eq_some hfind) hmem
  exact exists_of_noted hv

/-! ### How a word can start -/

/-- What can be left of the start of a text behind a word of the pattern; nothing, where the word goes
on behind that start. -/
def opens : Pattern → List Char → List (List Char)
  | text t, start =>
    if start.isPrefixOf t = true then [[]]
    else if t.isPrefixOf start = true then [start.drop t.length]
    else []
  | many p least most _, start =>
    (if start.all p = true ∧ ∀ bound ∈ most, start.length ≤ bound then [[]] else []) ++
      (counts p least most start).map fun n => start.drop n
  | seq a b, start => (a.opens start).flatMap b.opens
  | alt a b, start => a.opens start ++ b.opens start
  | opt a, start => a.opens start ++ [start]
  | group _ a, start => a.opens start

theorem mem_opens {a : Pattern} {w more start : List Char} (hw : a.Accepts w)
    (hstart : start <+: w ++ more) : ∃ left ∈ a.opens start, left <+: more := by
  induction a generalizing w more start with
  | text t =>
    obtain rfl : w = t := hw
    unfold opens
    rcases List.prefix_or_prefix_of_prefix hstart (List.prefix_append w more) with h | h
    · rw [if_pos (List.isPrefixOf_iff_prefix.mpr h)]
      exact ⟨[], List.mem_singleton.mpr rfl, List.nil_prefix⟩
    · by_cases hwhole : start.isPrefixOf w = true
      · rw [if_pos hwhole]
        exact ⟨[], List.mem_singleton.mpr rfl, List.nil_prefix⟩
      · rw [if_neg hwhole, if_pos (List.isPrefixOf_iff_prefix.mpr h)]
        obtain ⟨left, rfl⟩ := h
        rw [List.drop_left]
        exact ⟨left, List.mem_singleton.mpr rfl, (List.prefix_append_right_inj w).mp hstart⟩
  | many p least most greedy =>
    obtain ⟨hall, hleast, hmost⟩ := hw
    unfold opens
    rcases List.prefix_or_prefix_of_prefix hstart (List.prefix_append w more) with h | h
    · -- the start is used up
      have hused : start.all p = true ∧ ∀ bound ∈ most, start.length ≤ bound :=
        ⟨List.all_eq_true.mpr fun c hc => hall c (h.subset hc),
          fun bound hbound => h.length_le.trans (hmost bound hbound)⟩
      rw [if_pos hused]
      exact ⟨[], List.mem_append_left _ (List.mem_singleton.mpr rfl), List.nil_prefix⟩
    · obtain ⟨left, rfl⟩ := h
      refine ⟨left, List.mem_append_right _ (List.mem_map.mpr ⟨w.length, ?_, List.drop_left ..⟩),
        (List.prefix_append_right_inj w).mp hstart⟩
      have hrun : w.length ≤ ((w ++ left).takeWhile p).length := by
        rw [List.takeWhile_append_of_pos hall, List.length_append]
        exact Nat.le_add_right ..
      exact mem_counts.mpr ⟨hrun, hleast, hmost⟩
  | seq a b iha ihb =>
    obtain ⟨u, v, rfl, hu, hv⟩ := hw
    rw [List.append_assoc] at hstart
    obtain ⟨middle, hmiddle, hopen⟩ := iha hu hstart
    obtain ⟨left, hleft, hmore⟩ := ihb hv hopen
    exact ⟨left, List.mem_flatMap.mpr ⟨middle, hmiddle, hleft⟩, hmore⟩
  | alt a b iha ihb =>
    rcases hw with hw | hw
    · obtain ⟨left, hleft, hmore⟩ := iha hw hstart
      exact ⟨left, List.mem_append_left _ hleft, hmore⟩
    · obtain ⟨left, hleft, hmore⟩ := ihb hw hstart
      exact ⟨left, List.mem_append_right _ hleft, hmore⟩
  | opt a iha =>
    rcases hw with rfl | hw
    · exact ⟨start, List.mem_append_right _ (List.mem_singleton.mpr rfl), hstart⟩
    · obtain ⟨left, hleft, hmore⟩ := iha hw hstart
      exact ⟨left, List.mem_append_left _ hleft, hmore⟩
  | group own a iha => exact iha hw hstart

/-- **A text that starts as no word does** is not matched. -/
theorem fullmatch_none_of_opens {a : Pattern} {start cs : List Char} (hopens : [] ∉ a.opens start)
    (hstart : start <+: cs) : a.fullmatch cs = none := by
  cases hmatch : a.fullmatch cs with
  | none => rfl
  | some groups =>
    have hwhole : start <+: cs ++ [] := by rwa [List.append_nil]
    obtain ⟨left, hleft, hnil⟩ := mem_opens (fullmatch_sound hmatch).1 hwhole
    rw [List.prefix_nil.mp hnil] at hleft
    exact absurd hleft hopens

end Pattern

end Framework
