import Mathlib.Data.List.Chain
import Mathlib.Data.List.Infix
import Zhixu.Domain.Text

/-!
# White space and escapes in a text

What `strip`, the collapsing of white space and the escaping of Markdown do to a text, on characters.

A text is `Collapsed` when no two of its white characters stand side by side and each is a blank. The
collapsing makes a text collapsed and leaves a collapsed one alone, and so does all that only cuts off
at the ends, such as `strip`; hence collapsing and stripping twice is the same as once
(`compactChars_idem`). None of this loses, adds or moves a character that is not white
(`count_compactChars`), whereas escaping adds a backslash for every special one
(`count_escapeChars`).
-/

namespace Zhixu

/-! ### Strip -/

theorem all_isSpace_lstripChars (cs : List Char) :
    (lstripChars cs).all isSpace = cs.all isSpace := by
  unfold lstripChars
  induction cs with
  | nil => rfl
  | cons c cs ih =>
    by_cases hc : isSpace c = true
    · rw [List.dropWhile_cons_of_pos hc, ih, List.all_cons, hc, Bool.true_and]
    · rw [List.dropWhile_cons_of_neg hc]

theorem isBlank_strip (s : String) : isBlank (strip s) = isBlank s := by
  unfold isBlank strip stripChars
  rw [String.toList_ofList, List.all_reverse, all_isSpace_lstripChars, List.all_reverse,
    all_isSpace_lstripChars]

theorem isBlank_append (s t : String) : isBlank (s ++ t) = (isBlank s && isBlank t) := by
  unfold isBlank
  rw [String.toList_append, List.all_append]

theorem length_strip_le (s : String) : (strip s).length ≤ s.length := by
  have hle : ∀ cs : List Char, (lstripChars cs).length ≤ cs.length :=
    fun cs => (List.dropWhile_suffix isSpace).length_le
  unfold strip stripChars
  rw [String.length_ofList, List.length_reverse, ← String.length_toList]
  refine (hle _).trans ?_
  rw [List.length_reverse]
  exact hle _

/-- Stripping only cuts off. -/
theorem stripChars_within (cs : List Char) : stripChars cs <:+: cs := by
  have hright : (lstripChars (lstripChars cs).reverse).reverse <+: lstripChars cs := by
    rw [← List.reverse_suffix, List.reverse_reverse]
    exact List.dropWhile_suffix isSpace
  exact hright.isInfix.trans (List.dropWhile_suffix isSpace).isInfix

/-- What starts with no white character is not stripped at its left. -/
theorem lstripChars_of_head {cs : List Char} (h : ∀ c, cs.head? = some c → isSpace c = false) :
    lstripChars cs = cs := by
  cases cs with
  | nil => rfl
  | cons c cs =>
    unfold lstripChars
    rw [List.dropWhile_cons_of_neg (by simp [h c rfl])]

theorem head_lstripChars {cs : List Char} {c : Char} (h : (lstripChars cs).head? = some c) :
    isSpace c = false := by
  induction cs with
  | nil => exact absurd h (by simp [lstripChars])
  | cons d cs ih =>
    unfold lstripChars at h ih
    by_cases hd : isSpace d = true
    · rw [List.dropWhile_cons_of_pos hd] at h
      exact ih h
    · rw [List.dropWhile_cons_of_neg hd] at h
      obtain rfl := Option.some.inj h
      exact (Bool.not_eq_true _).mp hd

/-- The first and the last character of what is left are not white. -/
theorem stripChars_of_ends {cs : List Char} (hhead : ∀ c, cs.head? = some c → isSpace c = false)
    (hlast : ∀ c, cs.getLast? = some c → isSpace c = false) : stripChars cs = cs := by
  unfold stripChars
  rw [lstripChars_of_head hhead, lstripChars_of_head, List.reverse_reverse]
  rw [List.head?_reverse]
  exact hlast

theorem stripChars_idem (cs : List Char) : stripChars (stripChars cs) = stripChars cs := by
  refine stripChars_of_ends (fun c hc => ?_) fun c hc => ?_
  · -- the first character is the first of what was stripped at the left
    have hprefix : stripChars cs <+: lstripChars cs := by
      unfold stripChars
      rw [← List.reverse_suffix, List.reverse_reverse]
      exact List.dropWhile_suffix isSpace
    obtain ⟨rest, hrest⟩ := hprefix
    have hhead : (lstripChars cs).head? = some c := by
      rw [← hrest, List.head?_append, hc]
      rfl
    exact head_lstripChars hhead
  · unfold stripChars at hc
    rw [List.getLast?_reverse] at hc
    exact head_lstripChars hc

/-! ### Collapse -/

/-- No two white characters side by side, and no white character but the blank. -/
structure Collapsed (cs : List Char) : Prop where
  apart : cs.IsChain fun a b => isSpace a = true → isSpace b = false
  blank : ∀ c ∈ cs, isSpace c = true → c = ' '

theorem Collapsed.within {cs ds : List Char} (h : Collapsed ds) (hsub : cs <:+: ds) :
    Collapsed cs := by
  refine ⟨?_, fun c hc => h.blank c (hsub.subset hc)⟩
  exact List.IsChain.infix h.apart hsub

theorem isSpace_blank : isSpace ' ' = true := by decide

/-- What is left is collapsed, and behind a white character it does not start with one. -/
theorem collapsed_collapseChars (gap : Bool) (cs : List Char) :
    Collapsed (collapseChars gap cs) ∧
      (gap = true → ∀ c, (collapseChars gap cs).head? = some c → isSpace c = false) := by
  induction cs generalizing gap with
  | nil => exact ⟨⟨List.isChain_nil, by simp [collapseChars]⟩, by simp [collapseChars]⟩
  | cons d cs ih =>
    unfold collapseChars
    by_cases hd : isSpace d = true
    · rw [if_pos hd]
      cases gap with
      | true => exact ih true
      | false =>
        obtain ⟨hcollapsed, hhead⟩ := ih true
        refine ⟨⟨?_, ?_⟩, by simp⟩
        · exact List.isChain_cons.mpr ⟨fun c hc _ => hhead rfl c hc, hcollapsed.apart⟩
        · intro c hc hspace
          rcases List.mem_cons.mp hc with rfl | hc
          · rfl
          · exact hcollapsed.blank c hc hspace
    · rw [if_neg hd]
      obtain ⟨hcollapsed, -⟩ := ih false
      refine ⟨⟨?_, ?_⟩, fun _ c hc => ?_⟩
      · exact List.isChain_cons.mpr ⟨fun c _ hspace => absurd hspace hd, hcollapsed.apart⟩
      · intro c hc hspace
        rcases List.mem_cons.mp hc with rfl | hc
        · exact absurd hspace hd
        · exact hcollapsed.blank c hc hspace
      · obtain rfl := Option.some.inj hc
        exact (Bool.not_eq_true _).mp hd

/-- A collapsed text is left as it is. -/
theorem collapseChars_of_collapsed {gap : Bool} {cs : List Char} (h : Collapsed cs)
    (hgap : gap = true → ∀ c, cs.head? = some c → isSpace c = false) : collapseChars gap cs = cs := by
  induction cs generalizing gap with
  | nil => cases gap <;> rfl
  | cons d cs ih =>
    obtain ⟨hapart, hrest⟩ := List.isChain_cons.mp h.apart
    have htail : Collapsed cs := ⟨hrest, fun c hc => h.blank c (List.mem_cons_of_mem _ hc)⟩
    unfold collapseChars
    by_cases hd : isSpace d = true
    · have hopen : gap ≠ true := fun hgap' => by
        rw [hgap hgap' d rfl] at hd
        exact absurd hd (by simp)
      rw [if_pos hd, if_neg hopen, ih htail fun _ c hc => hapart c hc hd,
        ← h.blank d (List.mem_cons_self ..) hd]
    · rw [if_neg hd, ih htail fun hfalse => absurd hfalse (by simp)]

/-- `re.sub(r"\s+", " ", value).strip()`, on characters. -/
def compactChars (cs : List Char) : List Char := stripChars (collapseChars false cs)

theorem toList_compact (s : String) : (compact s).toList = compactChars s.toList := by
  unfold compact compactChars
  rw [String.toList_ofList]

theorem collapsed_compactChars (cs : List Char) : Collapsed (compactChars cs) :=
  (collapsed_collapseChars false cs).1.within (stripChars_within _)

/-- Twice is once. -/
theorem compactChars_idem (cs : List Char) : compactChars (compactChars cs) = compactChars cs := by
  have hsame : collapseChars false (compactChars cs) = compactChars cs :=
    collapseChars_of_collapsed (collapsed_compactChars cs) fun h => absurd h (by simp)
  unfold compactChars at hsame ⊢
  rw [hsame, stripChars_idem]

/-! ### What is not white -/

/-- Cutting white characters off at the left loses no other. -/
theorem count_lstripChars {c : Char} (hc : isSpace c = false) (cs : List Char) :
    (lstripChars cs).count c = cs.count c := by
  unfold lstripChars
  induction cs with
  | nil => rfl
  | cons d cs ih =>
    by_cases hd : isSpace d = true
    · have hne : d ≠ c := by
        rintro rfl
        rw [hc] at hd
        exact absurd hd (by simp)
      rw [List.dropWhile_cons_of_pos hd, ih, List.count_cons_of_ne hne]
    · rw [List.dropWhile_cons_of_neg hd]

theorem count_collapseChars {c : Char} (hc : isSpace c = false) (gap : Bool) (cs : List Char) :
    (collapseChars gap cs).count c = cs.count c := by
  have hblank : ' ' ≠ c := by
    rintro rfl
    rw [isSpace_blank] at hc
    exact absurd hc (by simp)
  induction cs generalizing gap with
  | nil => cases gap <;> rfl
  | cons d cs ih =>
    unfold collapseChars
    by_cases hd : isSpace d = true
    · have hne : d ≠ c := by
        rintro rfl
        rw [hc] at hd
        exact absurd hd (by simp)
      rw [if_pos hd, List.count_cons_of_ne hne]
      cases gap with
      | true => exact ih true
      | false => exact (List.count_cons_of_ne hblank).trans (ih true)
    · rw [if_neg hd, List.count_cons, List.count_cons, ih]

theorem count_compactChars {c : Char} (hc : isSpace c = false) (cs : List Char) :
    (compactChars cs).count c = cs.count c := by
  unfold compactChars stripChars
  rw [List.count_reverse, count_lstripChars hc, List.count_reverse, count_lstripChars hc,
    count_collapseChars hc]

/-- A character that is not white is in the collapsed text exactly if it was in the text. -/
theorem mem_compactChars {c : Char} (hc : isSpace c = false) {cs : List Char} :
    c ∈ compactChars cs ↔ c ∈ cs := by
  rw [← List.count_pos_iff, count_compactChars hc, List.count_pos_iff]

/-! ### Escapes -/

/-- `escape_markdown`, on characters. -/
def escapeChars (cs : List Char) : List Char :=
  cs.flatMap fun c => if c ∈ markdownSpecials then ['\\', c] else [c]

theorem toList_escapeMarkdown (s : String) : (escapeMarkdown s).toList = escapeChars s.toList := by
  unfold escapeMarkdown escapeChars
  rw [String.toList_ofList]

@[simp] theorem escapeChars_nil : escapeChars [] = [] := rfl

theorem escapeChars_cons (c : Char) (cs : List Char) :
    escapeChars (c :: cs) = (if c ∈ markdownSpecials then ['\\', c] else [c]) ++ escapeChars cs :=
  List.flatMap_cons ..

theorem escapeChars_of_plain {cs : List Char} (h : ∀ c ∈ cs, c ∉ markdownSpecials) :
    escapeChars cs = cs := by
  induction cs with
  | nil => rfl
  | cons c cs ih =>
    rw [escapeChars_cons, if_neg (h c (List.mem_cons_self ..)),
      ih fun d hd => h d (List.mem_cons_of_mem _ hd), List.singleton_append]

/-- Every special character brings a backslash. -/
theorem count_escapeChars (cs : List Char) :
    (escapeChars cs).count '\\' = cs.count '\\' + cs.countP (· ∈ markdownSpecials) := by
  induction cs with
  | nil => rfl
  | cons c cs ih =>
    rw [escapeChars_cons, List.count_append, ih, List.count_cons, List.countP_cons]
    by_cases hc : c ∈ markdownSpecials
    · simp only [hc, if_true, decide_true, List.count_cons, List.count_nil, beq_self_eq_true]
      omega
    · simp only [hc, if_false, decide_false, List.count_cons, List.count_nil, Bool.false_eq_true]
      omega

theorem count_escapeChars_of_ne {d : Char} (hd : d ≠ '\\') (cs : List Char) :
    (escapeChars cs).count d = cs.count d := by
  induction cs with
  | nil => rfl
  | cons c cs ih =>
    rw [escapeChars_cons, List.count_append, ih, List.count_cons]
    by_cases hc : c ∈ markdownSpecials
    · rw [if_pos hc, List.count_cons_of_ne (Ne.symm hd), List.count_singleton, Nat.add_comm]
    · rw [if_neg hc, List.count_singleton, Nat.add_comm]

/-- Only backslashes come to what was there. -/
theorem mem_escapeChars {c : Char} (hc : c ≠ '\\') {cs : List Char} :
    c ∈ escapeChars cs ↔ c ∈ cs := by
  unfold escapeChars
  rw [List.mem_flatMap]
  constructor
  · rintro ⟨d, hd, hmem⟩
    by_cases hspecial : d ∈ markdownSpecials
    · rw [if_pos hspecial] at hmem
      rcases List.mem_pair.mp hmem with rfl | rfl
      · exact absurd rfl hc
      · exact hd
    · rw [if_neg hspecial, List.mem_singleton] at hmem
      exact hmem ▸ hd
  · intro hmem
    refine ⟨c, hmem, ?_⟩
    split <;> simp

/-- A property of all characters of a fixed text is checked along the text. -/
theorem forall_mem_of_all {p : Char → Prop} [DecidablePred p] {cs : List Char}
    (h : cs.all (fun c => decide (p c)) = true) : ∀ c ∈ cs, p c := fun c hc =>
  of_decide_eq_true (List.all_eq_true.mp h c hc)

theorem special_not_white {c : Char} (h : c ∈ markdownSpecials) : isSpace c = false := by
  unfold markdownSpecials at h
  simp only [List.mem_cons, List.not_mem_nil, or_false] at h
  rcases h with rfl | rfl | rfl | rfl | rfl | rfl | rfl | rfl | rfl | rfl | rfl | rfl | rfl | rfl |
    rfl | rfl | rfl <;> decide

end Zhixu
