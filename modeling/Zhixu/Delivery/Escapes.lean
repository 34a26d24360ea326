import Zhixu.Delivery.PlainText

/-!
# Escaping and unescaping

`_escape_markdown_text` makes Markdown of a string of the user, and `_plain_markdown` makes a string of
Markdown. The two agree: an escaped string comes back with its white space collapsed
(`plainMarkdown_escaped`), and a text may be read line by line.

For the second, each of the three substitutions is taken apart at the end of a line. No pair of marks
and no escape reaches over it (`removePairs_over`, `unescapeMarkdown_over`), since a line break is no
mark and has no meaning in Markdown. Only a heading does, whose white space may run over the line. So
what is asked of the text of the program's own is that it has no line break and starts no heading
(`PlainWords`); an escaped string has none and starts none.
-/

open Framework

namespace Zhixu

/-! ### One string -/

theorem dropHeadings_of_headless {cs : List Char} (h : headless true cs = true) :
    dropHeadings (.plain true) cs = cs := by
  have happend := dropHeadings_append h []
  rw [List.append_nil] at happend
  rw [happend, dropHeadings, List.append_nil]

/-- An escaped text is unescaped again. -/
theorem plainMarkdown_escaped (s : String) : plainMarkdown (escapeMarkdown s) = s := by
  have hquiet := quiet_escapeChars s.toList
  have hback : unescapeMarkdown (escapeChars s.toList) = s.toList := by
    have happend := unescapeMarkdown_escapeChars s.toList []
    rw [List.append_nil] at happend
    rw [happend]
    exact List.append_nil _
  unfold plainMarkdown
  rw [toList_escapeMarkdown, dropHeadings_of_headless hquiet.headless,
    removePairs_of_chain hquiet.stars.2, removePairs_of_chain hquiet.underscores.2, hback,
    String.ofList_toList]

/-! ### Line by line -/

/-- No pair of marks reaches over a character between. -/
theorem removePairs_over {mark c : Char} (hc : c ≠ mark) (as bs : List Char) :
    removePairs mark (as ++ c :: bs) = removePairs mark as ++ c :: removePairs mark bs := by
  have hstart : removePairs mark (c :: bs) = c :: removePairs mark bs := by
    cases bs with
    | nil => rfl
    | cons b bs => rw [removePairs, if_neg fun h => hc h.1]
  induction as using removePairs.induct mark with
  | case1 a b rest hpair ih =>
    show removePairs mark (a :: b :: (rest ++ c :: bs)) = removePairs mark (a :: b :: rest) ++ _
    rw [removePairs, if_pos hpair, removePairs, if_pos hpair, ih]
  | case2 a b rest hother ih =>
    show removePairs mark (a :: b :: (rest ++ c :: bs)) = removePairs mark (a :: b :: rest) ++ _
    rw [removePairs, if_neg hother, removePairs, if_neg hother]
    exact congrArg (a :: ·) ih
  | case3 cs hshort =>
    cases cs with
    | nil => exact hstart
    | cons a cs =>
      cases cs with
      | cons b rest => exact absurd rfl (hshort a b rest)
      | nil =>
        show removePairs mark (a :: c :: bs) = a :: c :: removePairs mark bs
        rw [removePairs, if_neg fun h => hc h.2, hstart]

/-- No escape does, if the character has no meaning in Markdown. -/
theorem unescapeMarkdown_over {c : Char} (hslash : c ≠ '\\') (hc : c ∉ markdownSpecials)
    (as bs : List Char) :
    unescapeMarkdown (as ++ c :: bs) = unescapeMarkdown as ++ c :: unescapeMarkdown bs := by
  have hstart : unescapeMarkdown (c :: bs) = c :: unescapeMarkdown bs :=
    unescapeMarkdown_cons hslash bs
  induction as using unescapeMarkdown.induct with
  | case1 a b rest hescape ih =>
    show unescapeMarkdown (a :: b :: (rest ++ c :: bs)) = unescapeMarkdown (a :: b :: rest) ++ _
    rw [unescapeMarkdown, if_pos hescape, unescapeMarkdown, if_pos hescape, ih]
    rfl
  | case2 a b rest hother ih =>
    show unescapeMarkdown (a :: b :: (rest ++ c :: bs)) = unescapeMarkdown (a :: b :: rest) ++ _
    rw [unescapeMarkdown, if_neg hother, unescapeMarkdown, if_neg hother]
    exact congrArg (a :: ·) ih
  | case3 cs hshort =>
    cases cs with
    | nil => exact hstart
    | cons a cs =>
      cases cs with
      | cons b rest => exact absurd rfl (hshort a b rest)
      | nil =>
        show unescapeMarkdown (a :: c :: bs) = a :: c :: unescapeMarkdown bs
        rw [unescapeMarkdown, if_neg fun h => hc h.2, hstart]

theorem intercalate_newline (line next : List Char) (lines : List (List Char)) :
    ['\n'].intercalate (line :: next :: lines) =
      line ++ '\n' :: ['\n'].intercalate (next :: lines) := by
  rw [List.intercalate_cons_cons]
  simp

/-- What is taken apart at every line break is done line by line. -/
theorem intercalate_over {f : List Char → List Char} (hnil : f [] = [])
    (hover : ∀ as bs, f (as ++ '\n' :: bs) = f as ++ '\n' :: f bs) (lines : List (List Char)) :
    f (['\n'].intercalate lines) = ['\n'].intercalate (lines.map f) := by
  induction lines with
  | nil => exact hnil
  | cons line lines ih =>
    cases lines with
    | nil => rw [List.intercalate_singleton, List.map_singleton, List.intercalate_singleton]
    | cons next lines =>
      rw [intercalate_newline, hover, ih]
      exact (intercalate_newline (f line) (f next) (lines.map f)).symm

/-- A line that is one line and no heading. -/
structure Unheaded (cs : List Char) : Prop where
  oneLine : '\n' ∉ cs
  headless : headless true cs = true

theorem unheaded_nil : Unheaded [] := ⟨List.not_mem_nil, rfl⟩

theorem Unheaded.append {as bs : List Char} (ha : Unheaded as) (hb : Unheaded bs) :
    Unheaded (as ++ bs) where
  oneLine := fun h => (List.mem_append.mp h).elim ha.oneLine hb.oneLine
  headless := additive_headless.append ha.headless hb.headless

theorem headless_intercalate {lines : List (List Char)}
    (h : ∀ line ∈ lines, headless true line = true) :
    headless true (['\n'].intercalate lines) = true := by
  induction lines with
  | nil => rfl
  | cons line lines ih =>
    have hline := h line (List.mem_cons_self ..)
    cases lines with
    | nil =>
      rw [List.intercalate_singleton]
      exact hline
    | cons next lines =>
      rw [List.intercalate_cons_cons, List.append_assoc]
      exact additive_headless.append hline (additive_headless.append rfl
        (ih fun other hother => h other (List.mem_cons_of_mem _ hother)))

/-- The substitutions behind the one of the headings. -/
def unmarkedChars (cs : List Char) : List Char :=
  unescapeMarkdown (removePairs '_' (removePairs '*' cs))

theorem unmarkedChars_over (as bs : List Char) :
    unmarkedChars (as ++ '\n' :: bs) = unmarkedChars as ++ '\n' :: unmarkedChars bs := by
  unfold unmarkedChars
  rw [removePairs_over (by decide), removePairs_over (by decide),
    unescapeMarkdown_over (by decide) (by decide)]

theorem plainMarkdown_headless {s : String} (h : headless true s.toList = true) :
    plainMarkdown s = String.ofList (unmarkedChars s.toList) := by
  unfold plainMarkdown unmarkedChars
  rw [dropHeadings_of_headless h]

/-- **`_plain_markdown` works line by line**, where no line is a heading. -/
theorem plainMarkdown_joinLines {lines : List String} (h : ∀ line ∈ lines, Unheaded line.toList) :
    plainMarkdown (joinLines lines) = joinLines (lines.map plainMarkdown) := by
  have hchars : (joinLines lines).toList = ['\n'].intercalate (lines.map String.toList) := by
    unfold joinLines
    rw [String.toList_intercalate]
    rfl
  have hheadless : headless true (joinLines lines).toList = true := by
    rw [hchars]
    refine headless_intercalate fun line hline => ?_
    obtain ⟨text, htext, rfl⟩ := List.mem_map.mp hline
    exact (h text htext).headless
  have hlines : (lines.map plainMarkdown).map String.toList =
      (lines.map String.toList).map unmarkedChars := by
    rw [List.map_map, List.map_map]
    refine List.map_congr_left fun line hline => ?_
    show (plainMarkdown line).toList = unmarkedChars line.toList
    rw [plainMarkdown_headless (h line hline).headless, String.toList_ofList]
  rw [plainMarkdown_headless hheadless, hchars, intercalate_over rfl unmarkedChars_over, ← hlines,
    ← String.toList_inj, String.toList_ofList]
  unfold joinLines
  rw [String.toList_intercalate]
  rfl

/-! ### Lines of fixed text and escaped strings -/

/-- Text of the program's own, on one line and no heading. -/
structure PlainWords where
  value : String
  oneLine : '\n' ∉ value.toList
  unheaded : ∀ c ∈ value.toList.head?, c ≠ '#'

/-- A part of such a line. -/
inductive LinePart
  | fixed (words : PlainWords)
  | escaped (value : String)

def LinePart.text : LinePart → String
  | fixed words => words.value
  | escaped value => escapeMarkdownText value

/-- The text of a line. -/
def lineText (parts : List LinePart) : String :=
  String.ofList (parts.flatMap fun part => part.text.toList)

theorem headless_of_oneLine {cs : List Char} (h : '\n' ∉ cs) : headless false cs = true := by
  induction cs with
  | nil => rfl
  | cons c cs ih =>
    obtain ⟨hc, hcs⟩ := not_or.mp (List.mem_cons.not.mp h)
    have hbreak : (c == '\n') = false := beq_eq_false_iff_ne.mpr (Ne.symm hc)
    refine headless_cons.mpr ⟨fun hstart => absurd hstart.1 (by decide), ?_⟩
    rw [hbreak]
    exact ih hcs

theorem PlainWords.unheaded_chars (words : PlainWords) : Unheaded words.value.toList := by
  refine ⟨words.oneLine, ?_⟩
  have hstart := words.unheaded
  have hline := words.oneLine
  generalize words.value.toList = cs at hstart hline
  cases cs with
  | nil => rfl
  | cons c cs =>
    obtain ⟨hc, hcs⟩ := not_or.mp (List.mem_cons.not.mp hline)
    have hbreak : (c == '\n') = false := beq_eq_false_iff_ne.mpr (Ne.symm hc)
    refine headless_cons.mpr ⟨fun hmark => hstart c rfl hmark.2, ?_⟩
    rw [hbreak]
    exact headless_of_oneLine hcs

/-- What is escaped has been put on one line before. -/
theorem unheaded_escapeMarkdownText (s : String) : Unheaded (escapeMarkdownText s).toList := by
  unfold escapeMarkdownText
  rw [toList_escapeMarkdown, toList_compact]
  refine ⟨fun h => ?_, (quiet_escapeChars _).headless⟩
  have hmem := (mem_escapeChars (by decide)).mp h
  have hblank := (collapsed_compactChars s.toList).blank _ hmem (by decide)
  exact absurd hblank (by decide)

theorem unheaded_lineText (parts : List LinePart) : Unheaded (lineText parts).toList := by
  unfold lineText
  rw [String.toList_ofList]
  induction parts with
  | nil => exact unheaded_nil
  | cons part parts ih =>
    rw [List.flatMap_cons]
    refine Unheaded.append ?_ ih
    cases part with
    | fixed words => exact words.unheaded_chars
    | escaped value => exact unheaded_escapeMarkdownText value

/-- **Escape and unescape agree.** An escaped string comes back with its white space collapsed, and a
text of lines is read line by line. -/
theorem escape_unescape_agree :
    (∀ s : String, plainMarkdown (escapeMarkdownText s) = compact s) ∧
      ∀ lines : List (List LinePart), plainMarkdown (joinLines (lines.map lineText)) =
        joinLines (lines.map fun parts => plainMarkdown (lineText parts)) := by
  refine ⟨fun s => plainMarkdown_escaped (compact s), fun lines => ?_⟩
  have hlines : ∀ line ∈ lines.map lineText, Unheaded line.toList := by
    intro line hline
    obtain ⟨parts, -, rfl⟩ := List.mem_map.mp hline
    exact unheaded_lineText parts
  rw [plainMarkdown_joinLines hlines, List.map_map]
  rfl

example : plainMarkdown (escapeMarkdownText " a**b\n_c_ #1\\ ") = "a**b _c_ #1\\" := by decide

end Zhixu
