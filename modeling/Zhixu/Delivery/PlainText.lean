import Zhixu.Delivery.Renderer
import Zhixu.Domain.Spacing

/-!
# Messages on a channel without Markdown

Every card, briefing and reply is a text in Markdown: lines with the marks of a heading in front, words
between two stars, and strings of the user, in which every special character is escaped. A channel
that knows no Markdown is to show the words alone, and each string of the user as it was written.

Such a text is described by its `TextLine`s. They are read twice, once as the program writes them
(`written`) and once as a reader should see them (`plain`): without the marks, and with the strings of
the user as they are. A value in the row of a card is a case of its own (`Piece.spanned`), since `field`
drops the backticks of what it is given, and a backtick that was escaped leaves its backslash behind.

The argument has two halves.

* **What `_plain_markdown` does** (`plainMarkdown_written`). The heading marks are found since no other
  line starts with one (`headless`). Two stars of emphasis can be cut out of any text without a change
  to what `removePairs` makes of it (`removePairs_cancel`), and behind that no pair is left, since each
  mark of a user's has a backslash in front (`Unstyled`). So the backslashes of the escape are all that
  comes to the last substitution.
* **When it is not called** a text keeps what it was written with. Each heading mark, star and
  backslash can be counted, and nothing that is done to the text behind takes one away.
-/

open Framework

namespace Zhixu

/-! ### Headings -/

/-- No line starts with the mark of a heading. `start` says whether the text starts a line. -/
def headless : Bool → List Char → Bool
  | _, [] => true
  | start, c :: rest => !(start && c == '#') && headless (c == '\n') rest

/-- Whether what follows a text starts a line. -/
def endsLine : Bool → List Char → Bool
  | start, [] => start
  | _, c :: rest => endsLine (c == '\n') rest

theorem headless_cons {start : Bool} {c : Char} {rest : List Char} :
    headless start (c :: rest) = true ↔
      ¬ (start = true ∧ c = '#') ∧ headless (c == '\n') rest = true := by
  rw [headless, Bool.and_eq_true, Bool.not_eq_true', ← Bool.not_eq_true, Bool.and_eq_true,
    beq_iff_eq]

theorem headless_append (start : Bool) (as bs : List Char) :
    headless start (as ++ bs) = (headless start as && headless (endsLine start as) bs) := by
  induction as generalizing start with
  | nil => rfl
  | cons a as ih =>
    show (_ && headless (a == '\n') (as ++ bs)) = _
    rw [ih, ← Bool.and_assoc]
    rfl

/-- Inside a line there is less to ask. -/
theorem headless_of_start {cs : List Char} (h : headless true cs = true) (start : Bool) :
    headless start cs = true := by
  cases cs with
  | nil => rfl
  | cons c cs =>
    obtain ⟨hc, hrest⟩ := headless_cons.mp h
    exact headless_cons.mpr ⟨fun ⟨_, hmark⟩ => hc ⟨rfl, hmark⟩, hrest⟩

theorem dropHeadings_plain {start : Bool} {c : Char} (h : ¬ (start = true ∧ c = '#'))
    (rest : List Char) : dropHeadings (.plain start) (c :: rest) =
      c :: dropHeadings (.plain (c == '\n')) rest := by
  have hsame : decide (c = '\n') = (c == '\n') := by
    rw [Bool.eq_iff_iff]
    simp
  rw [dropHeadings, if_neg h, hsame]

theorem dropHeadings_append {start : Bool} {cs : List Char} (h : headless start cs = true)
    (rest : List Char) : dropHeadings (.plain start) (cs ++ rest) =
      cs ++ dropHeadings (.plain (endsLine start cs)) rest := by
  induction cs generalizing start with
  | nil => rfl
  | cons c cs ih =>
    obtain ⟨hc, hrest⟩ := headless_cons.mp h
    show dropHeadings (.plain start) (c :: (cs ++ rest)) =
      c :: (cs ++ dropHeadings (.plain (endsLine (c == '\n') cs)) rest)
    rw [dropHeadings_plain hc, ih hrest]

/-- What stands in front of a heading. -/
def headingMarks (level : ℕ) : List Char :=
  if level = 0 then [] else List.replicate level '#' ++ [' ']

theorem dropHeadings_marks {count level : ℕ} (hfew : count + level ≤ 6) {c : Char}
    (hc : isSpace c = false) (rest : List Char) :
    dropHeadings (.marks count) (List.replicate level '#' ++ ' ' :: c :: rest) =
      c :: dropHeadings (.plain (c == '\n')) rest := by
  induction level generalizing count with
  | zero =>
    have hblank : ¬ (' ' = '#' ∧ count < 6) := fun h => absurd h.1 (by decide)
    have hwhite : isSpace c ≠ true := by
      rw [hc]
      decide
    show dropHeadings (.marks count) (' ' :: c :: rest) = _
    rw [dropHeadings, if_neg hblank, if_pos isSpace_blank, dropHeadings, if_neg hwhite,
      if_neg fun h => absurd h.1 (by decide)]
    rfl
  | succ level ih =>
    have hmark : '#' = '#' ∧ count < 6 := ⟨rfl, by omega⟩
    show dropHeadings (.marks count) ('#' :: (List.replicate level '#' ++ ' ' :: c :: rest)) = _
    rw [dropHeadings, if_pos hmark]
    exact ih (by omega)

/-! ### Pairs of marks -/

/-- No two of the marks stand side by side, and none at the start. -/
def Apart (mark : Char) (cs : List Char) : Prop :=
  (∀ c ∈ cs.head?, c ≠ mark) ∧ cs.IsChain fun a b => a = mark → b ≠ mark

instance (mark : Char) (cs : List Char) : Decidable (Apart mark cs) :=
  @instDecidableAnd _ _ (Option.decidableForallMem cs.head?)
    (inferInstanceAs (Decidable (cs.IsChain fun a b => a = mark → b ≠ mark)))

theorem Apart.append {mark : Char} {as bs : List Char} (ha : Apart mark as) (hb : Apart mark bs) :
    Apart mark (as ++ bs) := by
  refine ⟨?_, List.isChain_append.mpr ⟨ha.2, hb.2, fun _ _ b hmem _ => hb.1 b hmem⟩⟩
  cases as with
  | nil => exact hb.1
  | cons a as => exact ha.1

/-- Nothing is removed where no two marks stand together. -/
theorem removePairs_of_chain {mark : Char} {cs : List Char}
    (h : cs.IsChain fun a b => a = mark → b ≠ mark) : removePairs mark cs = cs := by
  induction cs with
  | nil => rfl
  | cons a cs ih =>
    cases cs with
    | nil => rfl
    | cons b cs =>
      obtain ⟨hab, hrest⟩ := List.isChain_cons_cons.mp h
      rw [removePairs, if_neg fun hboth => hab hboth.1 hboth.2, ih hrest]

/-- **A pair can be cut out anywhere**: what is left of a run of marks depends on their number alone. -/
theorem removePairs_cancel (mark : Char) (as bs : List Char) :
    removePairs mark (as ++ mark :: mark :: bs) = removePairs mark (as ++ bs) := by
  induction as using removePairs.induct mark with
  | case1 a b rest hpair ih =>
    show removePairs mark (a :: b :: (rest ++ mark :: mark :: bs)) =
      removePairs mark (a :: b :: (rest ++ bs))
    rw [removePairs, if_pos hpair, removePairs, if_pos hpair, ih]
  | case2 a b rest hother ih =>
    show removePairs mark (a :: b :: (rest ++ mark :: mark :: bs)) =
      removePairs mark (a :: b :: (rest ++ bs))
    rw [removePairs, if_neg hother, removePairs, if_neg hother]
    exact congrArg (a :: ·) ih
  | case3 cs hshort =>
    -- one character at most stands in front
    cases cs with
    | nil =>
      show removePairs mark (mark :: mark :: bs) = removePairs mark bs
      rw [removePairs, if_pos ⟨rfl, rfl⟩]
    | cons a cs =>
      cases cs with
      | cons b rest => exact absurd rfl (hshort a b rest)
      | nil =>
        show removePairs mark (a :: mark :: mark :: bs) = removePairs mark (a :: bs)
        by_cases ha : a = mark
        · rw [removePairs, if_pos ⟨ha, rfl⟩, ha]
        · rw [removePairs, if_neg fun h => ha h.1, removePairs, if_pos ⟨rfl, rfl⟩]
          cases bs with
          | nil => rfl
          | cons b bs => rw [removePairs, if_neg fun h => ha h.1]

/-! ### What the substitutions leave alone -/

/-- A text in which nothing but backslashes is to be removed. -/
structure Unstyled (cs : List Char) : Prop where
  headless : headless true cs = true
  stars : Apart '*' cs
  underscores : Apart '_' cs

theorem quiet_newline : Unstyled ['\n'] := ⟨by decide, by decide, by decide⟩

/-- A property of texts that those have which are put together from parts that have it. -/
structure Additive (P : List Char → Prop) : Prop where
  nil : P []
  append : ∀ {as bs}, P as → P bs → P (as ++ bs)

theorem Additive.flatMap {P : List Char → Prop} (hP : Additive P) {α : Type} {f : α → List Char}
    {xs : List α} (h : ∀ x ∈ xs, P (f x)) : P (xs.flatMap f) := by
  induction xs with
  | nil => exact hP.nil
  | cons x xs ih =>
    rw [List.flatMap_cons]
    exact hP.append (h x (List.mem_cons_self ..)) (ih fun y hy => h y (List.mem_cons_of_mem _ hy))

theorem Additive.of_chars {P : List Char → Prop} (hP : Additive P) {cs : List Char}
    (h : ∀ c ∈ cs, P [c]) : P cs := by
  have hcs : cs.flatMap (fun c => [c]) = cs := by simp
  rw [← hcs]
  exact hP.flatMap h

theorem additive_headless : Additive fun cs => headless true cs = true where
  nil := rfl
  append := fun {as bs} ha hb => by
    rw [headless_append, ha, headless_of_start hb]
    rfl

theorem additive_apart (mark : Char) : Additive (Apart mark) where
  nil := ⟨by simp, List.isChain_nil⟩
  append := Apart.append

theorem additive_quiet : Additive Unstyled where
  nil := ⟨additive_headless.nil, (additive_apart _).nil, (additive_apart _).nil⟩
  append := fun ha hb => ⟨additive_headless.append ha.headless hb.headless,
    ha.stars.append hb.stars, ha.underscores.append hb.underscores⟩

theorem headless_of_ne {cs : List Char} (h : ∀ c ∈ cs, c ≠ '#') : headless true cs = true :=
  additive_headless.of_chars fun c hc => headless_cons.mpr ⟨fun hmark => h c hc hmark.2, rfl⟩

theorem apart_of_ne {mark : Char} {cs : List Char} (h : ∀ c ∈ cs, c ≠ mark) : Apart mark cs :=
  (additive_apart mark).of_chars fun c hc => ⟨by simpa using h c hc, List.isChain_singleton _⟩

/-- A text without any of the marks. -/
theorem quiet_of_unmarked {cs : List Char} (h : ∀ c ∈ cs, c ≠ '#' ∧ c ≠ '*' ∧ c ≠ '_') :
    Unstyled cs where
  headless := headless_of_ne fun c hc => (h c hc).1
  stars := apart_of_ne fun c hc => (h c hc).2.1
  underscores := apart_of_ne fun c hc => (h c hc).2.2

/-- One character of an escaped text. -/
theorem quiet_escape {c : Char} :
    Unstyled (if c ∈ markdownSpecials then ['\\', c] else [c]) ∧
      Unstyled ((if c ∈ markdownSpecials then ['\\', c] else [c]).filter (· ≠ '`')) := by
  by_cases hc : c ∈ markdownSpecials
  · rw [if_pos hc]
    unfold markdownSpecials at hc
    simp only [List.mem_cons, List.not_mem_nil, or_false] at hc
    rcases hc with rfl | rfl | rfl | rfl | rfl | rfl | rfl | rfl | rfl | rfl | rfl | rfl | rfl |
      rfl | rfl | rfl | rfl <;>
      exact ⟨⟨by decide, by decide, by decide⟩, ⟨by decide, by decide, by decide⟩⟩
  · rw [if_neg hc]
    have hplain : ∀ d ∈ [c], d ≠ '#' ∧ d ≠ '*' ∧ d ≠ '_' := by
      intro d hd
      rw [List.mem_singleton.mp hd]
      refine ⟨?_, ?_, ?_⟩ <;>
        · rintro rfl
          exact hc (by decide)
    exact ⟨quiet_of_unmarked hplain,
      quiet_of_unmarked fun d hd => hplain d (List.mem_of_mem_filter hd)⟩

theorem quiet_escapeChars (cs : List Char) : Unstyled (escapeChars cs) :=
  additive_quiet.flatMap fun _ _ => quiet_escape.1

theorem quiet_filter_escapeChars (cs : List Char) :
    Unstyled ((escapeChars cs).filter (· ≠ '`')) := by
  unfold escapeChars
  rw [List.filter_flatMap]
  exact additive_quiet.flatMap fun _ _ => quiet_escape.2

/-! ### Backslashes -/

theorem unescapeMarkdown_cons {c : Char} (hc : c ≠ '\\') (rest : List Char) :
    unescapeMarkdown (c :: rest) = c :: unescapeMarkdown rest := by
  cases rest with
  | nil => rfl
  | cons d rest => rw [unescapeMarkdown, if_neg fun h => hc h.1]

theorem unescapeMarkdown_append {cs : List Char} (h : '\\' ∉ cs) (rest : List Char) :
    unescapeMarkdown (cs ++ rest) = cs ++ unescapeMarkdown rest := by
  induction cs with
  | nil => rfl
  | cons c cs ih =>
    obtain ⟨hc, hcs⟩ := not_or.mp (List.mem_cons.not.mp h)
    rw [List.cons_append, unescapeMarkdown_cons (Ne.symm hc), ih hcs, List.cons_append]

/-- **Unescaping undoes the escape**, in front of anything. -/
theorem unescapeMarkdown_escapeChars (cs rest : List Char) :
    unescapeMarkdown (escapeChars cs ++ rest) = cs ++ unescapeMarkdown rest := by
  induction cs with
  | nil => rfl
  | cons c cs ih =>
    rw [escapeChars_cons, List.append_assoc]
    by_cases hc : c ∈ markdownSpecials
    · rw [if_pos hc]
      show unescapeMarkdown ('\\' :: c :: (escapeChars cs ++ rest)) = _
      rw [unescapeMarkdown, if_pos ⟨rfl, hc⟩, ih, List.cons_append]
    · have hslash : c ≠ '\\' := by
        rintro rfl
        exact hc (by decide)
      rw [if_neg hc, List.singleton_append, unescapeMarkdown_cons hslash, ih, List.cons_append]

/-! ### Lines and their pieces -/

/-- Text of the program's own, without any Markdown. -/
structure FixedText where
  value : String
  quiet : Unstyled value.toList
  unescaped : '\\' ∉ value.toList

/-- A part of a line. -/
inductive Piece
  | fixed (text : FixedText)
  /-- the two stars in front of emphasised words or behind them -/
  | emphasis
  /-- a string of the user, escaped -/
  | user (value : String)
  /-- the same as the value in the row of a card, where it loses its backticks -/
  | spanned (value : String)

namespace Piece

/-- As the program writes it. -/
def written : Piece → List Char
  | fixed text => text.value.toList
  | emphasis => ['*', '*']
  | user value => escapeChars value.toList
  | spanned value => (escapeChars value.toList).filter (· ≠ '`')

/-- As a reader should see it. -/
def plain : Piece → List Char
  | fixed text => text.value.toList
  | emphasis => []
  | user value | spanned value => value.toList

/-- Without emphasis, but still escaped. -/
def unstarred : Piece → List Char
  | emphasis => []
  | piece => piece.written

/-- Nothing in it is Markdown. -/
def Bare : Piece → Prop
  | fixed _ => True
  | emphasis => False
  | user value | spanned value => ∀ c ∈ value.toList, c ∉ markdownSpecials

/-- `field` takes no character from it. -/
def Legible : Piece → Prop
  | spanned value => '`' ∉ value.toList
  | _ => True

end Piece

/-- A line: the marks of a heading, none at level 0, and what stands behind them. -/
structure TextLine where
  level : ℕ := 0
  pieces : List Piece
  level_le : level ≤ 6
  /-- a heading starts with a word -/
  titled : 0 < level →
    ∃ c rest, pieces.flatMap Piece.written = c :: rest ∧ isSpace c = false

namespace TextLine

def written (line : TextLine) : List Char :=
  headingMarks line.level ++ line.pieces.flatMap Piece.written

def plain (line : TextLine) : List Char := line.pieces.flatMap Piece.plain

def Bare (line : TextLine) : Prop := line.level = 0 ∧ ∀ piece ∈ line.pieces, piece.Bare

def Legible (line : TextLine) : Prop := ∀ piece ∈ line.pieces, piece.Legible

end TextLine

/-- Lines one below the other. -/
def joined (reading : TextLine → List Char) (lines : List TextLine) : List Char :=
  ['\n'].intercalate (lines.map reading)

theorem joined_singleton (reading : TextLine → List Char) (line : TextLine) :
    joined reading [line] = reading line :=
  List.intercalate_singleton

theorem joined_cons_cons (reading : TextLine → List Char) (line next : TextLine)
    (lines : List TextLine) : joined reading (line :: next :: lines) =
      reading line ++ '\n' :: joined reading (next :: lines) := by
  unfold joined
  rw [List.map_cons, List.map_cons, List.intercalate_cons_cons]
  simp

theorem Additive.joined {P : List Char → Prop} (hP : Additive P) (hnewline : P ['\n'])
    {reading : TextLine → List Char} {lines : List TextLine}
    (h : ∀ line ∈ lines, P (reading line)) : P (joined reading lines) := by
  induction lines with
  | nil => exact hP.nil
  | cons line lines ih =>
    have hline := h line (List.mem_cons_self ..)
    cases lines with
    | nil =>
      rw [joined_singleton]
      exact hline
    | cons next lines =>
      rw [joined_cons_cons]
      exact hP.append hline
        (hP.append hnewline (ih fun other hother => h other (List.mem_cons_of_mem _ hother)))

/-! ### What `_plain_markdown` makes of them -/

theorem Piece.quiet_unstarred (piece : Piece) : Unstyled piece.unstarred := by
  cases piece with
  | fixed text => exact text.quiet
  | emphasis => exact additive_quiet.nil
  | user value => exact quiet_escapeChars _
  | spanned value => exact quiet_filter_escapeChars _

/-- Two stars start no heading either. -/
theorem Piece.headless_written (piece : Piece) : headless true piece.written = true := by
  cases piece with
  | fixed text => exact text.quiet.headless
  | emphasis => decide
  | user value => exact (quiet_escapeChars _).headless
  | spanned value => exact (quiet_filter_escapeChars _).headless

theorem headless_pieces (pieces : List Piece) :
    headless true (pieces.flatMap Piece.written) = true :=
  additive_headless.flatMap fun piece _ => piece.headless_written

/-- The heading of a line is dropped. -/
theorem TextLine.dropHeadings_written (line : TextLine) (rest : List Char) :
    ∃ start, dropHeadings (.plain true) (line.written ++ rest) =
      line.pieces.flatMap Piece.written ++ dropHeadings (.plain start) rest := by
  have hbody := headless_pieces line.pieces
  unfold written headingMarks
  by_cases hlevel : line.level = 0
  · rw [if_pos hlevel, List.nil_append]
    exact ⟨_, dropHeadings_append hbody rest⟩
  · obtain ⟨c, word, hword, hc⟩ := line.titled (Nat.pos_of_ne_zero hlevel)
    obtain ⟨level, hsucc⟩ := Nat.exists_eq_succ_of_ne_zero hlevel
    have hle := line.level_le
    rw [hword] at hbody
    rw [if_neg hlevel, hword]
    refine ⟨endsLine (c == '\n') word, ?_⟩
    have hrest := (headless_cons.mp hbody).2
    rw [hsucc]
    show dropHeadings (.plain true)
      ('#' :: (List.replicate level '#' ++ [' '] ++ (c :: word) ++ rest)) = _
    rw [dropHeadings, if_pos ⟨rfl, rfl⟩, List.append_assoc, List.append_assoc]
    show dropHeadings (.marks 1) (List.replicate level '#' ++ ' ' :: c :: (word ++ rest)) =
      c :: (word ++ _)
    rw [dropHeadings_marks (by omega) hc, dropHeadings_append hrest]

theorem dropHeadings_joined (lines : List TextLine) :
    dropHeadings (.plain true) (joined TextLine.written lines) =
      joined (fun line => line.pieces.flatMap Piece.written) lines := by
  induction lines with
  | nil => rfl
  | cons line lines ih =>
    cases lines with
    | nil =>
      obtain ⟨start, hline⟩ := line.dropHeadings_written []
      rw [joined_singleton, joined_singleton, ← List.append_nil line.written, hline]
      simp [dropHeadings]
    | cons next lines =>
      obtain ⟨start, hline⟩ :=
        line.dropHeadings_written ('\n' :: joined TextLine.written (next :: lines))
      rw [joined_cons_cons, joined_cons_cons, hline,
        dropHeadings_plain fun h => absurd h.2 (by decide)]
      -- the next line starts behind the end of this one
      exact congrArg (_ ++ '\n' :: ·) ih

/-- Emphasis disappears with its stars, wherever it stands. -/
theorem removePairs_pieces (pieces : List Piece) (before after : List Char) :
    removePairs '*' (before ++ pieces.flatMap Piece.written ++ after) =
      removePairs '*' (before ++ pieces.flatMap Piece.unstarred ++ after) := by
  induction pieces generalizing before with
  | nil => rfl
  | cons piece pieces ih =>
    have hsame : piece.unstarred = piece.written →
        removePairs '*' (before ++ (piece :: pieces).flatMap Piece.written ++ after) =
          removePairs '*' (before ++ (piece :: pieces).flatMap Piece.unstarred ++ after) := by
      intro hpiece
      rw [List.flatMap_cons, List.flatMap_cons, hpiece, ← List.append_assoc, ← List.append_assoc]
      exact ih _
    cases piece with
    | emphasis =>
      show removePairs '*' (before ++ '*' :: '*' :: pieces.flatMap Piece.written ++ after) =
        removePairs '*' (before ++ pieces.flatMap Piece.unstarred ++ after)
      rw [List.append_assoc, List.cons_append, List.cons_append, removePairs_cancel,
        ← List.append_assoc]
      exact ih before
    | fixed text => exact hsame rfl
    | user value => exact hsame rfl
    | spanned value => exact hsame rfl

theorem removePairs_joined (lines : List TextLine) (before : List Char) :
    removePairs '*' (before ++ joined (fun line => line.pieces.flatMap Piece.written) lines) =
      removePairs '*' (before ++ joined (fun line => line.pieces.flatMap Piece.unstarred) lines) := by
  induction lines generalizing before with
  | nil => rfl
  | cons line lines ih =>
    cases lines with
    | nil =>
      have hline := removePairs_pieces line.pieces before []
      rw [List.append_nil, List.append_nil] at hline
      rw [joined_singleton, joined_singleton, hline]
    | cons next lines =>
      have hrest := ih (before ++ line.pieces.flatMap Piece.unstarred ++ ['\n'])
      rw [joined_cons_cons, joined_cons_cons, ← List.append_assoc, removePairs_pieces,
        ← List.append_assoc]
      simpa only [List.append_assoc, List.singleton_append] using hrest

theorem quiet_joined (lines : List TextLine) :
    Unstyled (joined (fun line => line.pieces.flatMap Piece.unstarred) lines) :=
  additive_quiet.joined quiet_newline fun _ _ =>
    additive_quiet.flatMap fun piece _ => piece.quiet_unstarred

/-- A string of the user comes back as it was written, unless `field` took a backtick from it. -/
theorem Piece.unescapeMarkdown_unstarred {piece : Piece} (h : piece.Legible) (rest : List Char) :
    unescapeMarkdown (piece.unstarred ++ rest) = piece.plain ++ unescapeMarkdown rest := by
  cases piece with
  | fixed text => exact unescapeMarkdown_append text.unescaped rest
  | emphasis => rfl
  | user value => exact unescapeMarkdown_escapeChars _ rest
  | spanned value =>
    have hkept : (escapeChars value.toList).filter (· ≠ '`') = escapeChars value.toList := by
      refine List.filter_eq_self.mpr fun c hc => ?_
      have hne : c ≠ '`' := by
        rintro rfl
        exact h ((mem_escapeChars (by decide)).mp hc)
      simpa using hne
    show unescapeMarkdown ((escapeChars value.toList).filter (· ≠ '`') ++ rest) = _
    rw [hkept]
    exact unescapeMarkdown_escapeChars _ rest

theorem TextLine.unescapeMarkdown_pieces {pieces : List Piece}
    (h : ∀ piece ∈ pieces, piece.Legible) (rest : List Char) :
    unescapeMarkdown (pieces.flatMap Piece.unstarred ++ rest) =
      pieces.flatMap Piece.plain ++ unescapeMarkdown rest := by
  induction pieces with
  | nil => rfl
  | cons piece pieces ih =>
    rw [List.flatMap_cons, List.flatMap_cons, List.append_assoc, List.append_assoc,
      Piece.unescapeMarkdown_unstarred (h piece (List.mem_cons_self ..)),
      ih fun other hother => h other (List.mem_cons_of_mem _ hother)]

theorem unescapeMarkdown_joined {lines : List TextLine} (h : ∀ line ∈ lines, line.Legible) :
    unescapeMarkdown (joined (fun line => line.pieces.flatMap Piece.unstarred) lines) =
      joined TextLine.plain lines := by
  induction lines with
  | nil => rfl
  | cons line lines ih =>
    have hline := h line (List.mem_cons_self ..)
    have hrest := ih fun other hother => h other (List.mem_cons_of_mem _ hother)
    cases lines with
    | nil =>
      have hpieces := TextLine.unescapeMarkdown_pieces hline []
      rw [List.append_nil] at hpieces
      rw [joined_singleton, joined_singleton, hpieces]
      exact List.append_nil _
    | cons next lines =>
      rw [joined_cons_cons, joined_cons_cons, TextLine.unescapeMarkdown_pieces hline,
        unescapeMarkdown_cons (by decide), hrest]
      rfl

/-- **`_plain_markdown` leaves the words**, and each string of the user as it was written. -/
theorem plainMarkdown_written {lines : List TextLine} (h : ∀ line ∈ lines, line.Legible) :
    plainMarkdown (String.ofList (joined TextLine.written lines)) =
      String.ofList (joined TextLine.plain lines) := by
  have hquiet := quiet_joined lines
  have hstars := removePairs_joined lines []
  rw [List.nil_append, List.nil_append] at hstars
  unfold plainMarkdown
  rw [String.toList_ofList, dropHeadings_joined, hstars, removePairs_of_chain hquiet.stars.2,
    removePairs_of_chain hquiet.underscores.2, unescapeMarkdown_joined h]

/-! ### What can be counted -/

theorem count_dropHeadings {c : Char} (hmark : c ≠ '#') (hc : isSpace c = false) (cs : List Char)
    (scan : HeadingScan) : (dropHeadings scan cs).count c = cs.count c := by
  have hwhite : ∀ {d : Char}, isSpace d = true → d ≠ c := by
    rintro d hd rfl
    rw [hc] at hd
    exact absurd hd (by decide)
  have hhash : ∀ {p : Prop} {d : Char}, p ∧ d = '#' → d ≠ c := fun h heq => hmark (heq ▸ h.2)
  induction cs generalizing scan with
  | nil => cases scan <;> rfl
  | cons d cs ih =>
    cases scan with
    | plain lineStart =>
      by_cases h : lineStart = true ∧ d = '#'
      · rw [dropHeadings, if_pos h, ih, List.count_cons_of_ne (hhash h)]
      · rw [dropHeadings, if_neg h, List.count_cons, List.count_cons, ih]
    | marks count =>
      by_cases h : d = '#' ∧ count < 6
      · rw [dropHeadings, if_pos h, ih, List.count_cons_of_ne (hhash h.symm)]
      · by_cases hd : isSpace d = true
        · rw [dropHeadings, if_neg h, if_pos hd, ih, List.count_cons_of_ne (hwhite hd)]
        · rw [dropHeadings, if_neg h, if_neg hd, List.count_cons, List.count_cons, ih]
    | space lineStart =>
      by_cases hd : isSpace d = true
      · rw [dropHeadings, if_pos hd, ih, List.count_cons_of_ne (hwhite hd)]
      · by_cases h : lineStart = true ∧ d = '#'
        · rw [dropHeadings, if_neg hd, if_pos h, ih, List.count_cons_of_ne (hhash h)]
        · rw [dropHeadings, if_neg hd, if_neg h, List.count_cons, List.count_cons, ih]

theorem count_removePairs {c mark : Char} (hc : c ≠ mark) (cs : List Char) :
    (removePairs mark cs).count c = cs.count c := by
  induction cs using removePairs.induct mark with
  | case1 a b rest hpair ih =>
    rw [removePairs, if_pos hpair, ih, hpair.1, hpair.2, List.count_cons_of_ne (Ne.symm hc),
      List.count_cons_of_ne (Ne.symm hc)]
  | case2 a b rest hother ih =>
    rw [removePairs, if_neg hother, List.count_cons, ih, ← List.count_cons]
  | case3 cs hshort =>
    cases cs with
    | nil => rfl
    | cons a cs =>
      cases cs with
      | nil => rfl
      | cons b rest => exact absurd rfl (hshort a b rest)

theorem count_unescapeMarkdown {c : Char} (hc : c ≠ '\\') (cs : List Char) :
    (unescapeMarkdown cs).count c = cs.count c := by
  induction cs using unescapeMarkdown.induct with
  | case1 a b rest hescape ih =>
    rw [unescapeMarkdown, if_pos hescape, List.count_cons, ih, hescape.1,
      List.count_cons_of_ne (Ne.symm hc), ← List.count_cons]
  | case2 a b rest hother ih =>
    rw [unescapeMarkdown, if_neg hother, List.count_cons, ih, ← List.count_cons]
  | case3 cs hshort =>
    cases cs with
    | nil => rfl
    | cons a cs =>
      cases cs with
      | nil => rfl
      | cons b rest => exact absurd rfl (hshort a b rest)

/-- `_plain_markdown` takes no backtick away. -/
theorem count_plainMarkdown (value : String) :
    (plainMarkdown value).toList.count '`' = value.toList.count '`' := by
  unfold plainMarkdown
  rw [String.toList_ofList, count_unescapeMarkdown (by decide), count_removePairs (by decide),
    count_removePairs (by decide), count_dropHeadings (by decide) (by decide)]

theorem count_joined {c : Char} (hc : c ≠ '\n') (reading : TextLine → List Char)
    (lines : List TextLine) :
    (joined reading lines).count c = (lines.flatMap reading).count c := by
  induction lines with
  | nil => rfl
  | cons line lines ih =>
    cases lines with
    | nil => rw [joined_singleton, List.flatMap_singleton]
    | cons next lines =>
      have hcons : (line :: next :: lines).flatMap reading =
          reading line ++ (next :: lines).flatMap reading := List.flatMap_cons ..
      rw [joined_cons_cons, List.count_append, List.count_cons_of_ne (Ne.symm hc), ih, hcons,
        List.count_append]

section Parts

variable {α : Type} {f g : α → List Char} {c : Char} {xs : List α}

theorem count_flatMap_le (h : ∀ x ∈ xs, (g x).count c ≤ (f x).count c) :
    (xs.flatMap g).count c ≤ (xs.flatMap f).count c := by
  induction xs with
  | nil => exact le_rfl
  | cons x xs ih =>
    rw [List.flatMap_cons, List.flatMap_cons, List.count_append, List.count_append]
    exact Nat.add_le_add (h x (List.mem_cons_self ..)) (ih fun y hy => h y (List.mem_cons_of_mem _ hy))

/-- Where the whole has as many and no part has fewer, each part has as many. -/
theorem count_of_flatMap (h : ∀ x ∈ xs, (g x).count c ≤ (f x).count c)
    (heq : (xs.flatMap f).count c = (xs.flatMap g).count c) :
    ∀ x ∈ xs, (f x).count c = (g x).count c := by
  induction xs with
  | nil => simp
  | cons x xs ih =>
    have hx := h x (List.mem_cons_self ..)
    have htail : ∀ y ∈ xs, (g y).count c ≤ (f y).count c := fun y hy => h y (List.mem_cons_of_mem _ hy)
    have hxs := count_flatMap_le htail
    rw [List.flatMap_cons, List.flatMap_cons, List.count_append, List.count_append] at heq
    intro y hy
    rcases List.mem_cons.mp hy with rfl | hy
    · omega
    · exact ih htail (by omega) y hy

end Parts

/-! ### What a text that is sent as it was written shows -/

namespace Piece

theorem count_hash (piece : Piece) : piece.plain.count '#' = piece.written.count '#' := by
  cases piece with
  | fixed text => rfl
  | emphasis => decide
  | user value => exact (count_escapeChars_of_ne (by decide) _).symm
  | spanned value =>
    show _ = ((escapeChars value.toList).filter (· ≠ '`')).count '#'
    rw [List.count_filter (by decide)]
    exact (count_escapeChars_of_ne (by decide) _).symm

/-- The stars and the backslashes of a piece that are not the user's. -/
theorem count_marks (piece : Piece) :
    piece.plain.count '*' ≤ piece.written.count '*' ∧
      piece.plain.count '\\' ≤ piece.written.count '\\' ∧
      (piece.written.count '*' = piece.plain.count '*' →
        piece.written.count '\\' = piece.plain.count '\\' → piece.Bare) := by
  have hstars : ∀ value : String, (escapeChars value.toList).count '*' = value.toList.count '*' :=
    fun value => count_escapeChars_of_ne (by decide) _
  have hslashes : ∀ value : String, (escapeChars value.toList).count '\\' =
      value.toList.count '\\' + value.toList.countP (· ∈ markdownSpecials) :=
    fun value => count_escapeChars _
  have hspecials : ∀ value : String, value.toList.countP (· ∈ markdownSpecials) = 0 →
      ∀ c ∈ value.toList, c ∉ markdownSpecials := fun value hnone c hc => by
    simpa using List.countP_eq_zero.mp hnone c hc
  cases piece with
  | fixed text => exact ⟨le_rfl, le_rfl, fun _ _ => trivial⟩
  | emphasis =>
    refine ⟨by decide, by decide, fun h _ => ?_⟩
    exact absurd h (by decide)
  | user value =>
    show value.toList.count '*' ≤ (escapeChars value.toList).count '*' ∧
      value.toList.count '\\' ≤ (escapeChars value.toList).count '\\' ∧ (_ →
        (escapeChars value.toList).count '\\' = value.toList.count '\\' → _)
    rw [hstars, hslashes]
    exact ⟨le_rfl, Nat.le_add_right .., fun _ h => hspecials value (by omega)⟩
  | spanned value =>
    show value.toList.count '*' ≤ ((escapeChars value.toList).filter (· ≠ '`')).count '*' ∧
      value.toList.count '\\' ≤ ((escapeChars value.toList).filter (· ≠ '`')).count '\\' ∧ (_ →
        ((escapeChars value.toList).filter (· ≠ '`')).count '\\' = value.toList.count '\\' → _)
    rw [List.count_filter (by decide), List.count_filter (by decide), hstars, hslashes]
    exact ⟨le_rfl, Nat.le_add_right .., fun _ h => hspecials value (by omega)⟩

/-- The backticks of a piece: the row of a card has lost those of its value. -/
theorem count_backtick (piece : Piece) :
    piece.written.count '`' ≤ piece.plain.count '`' ∧
      (piece.plain.count '`' = piece.written.count '`' → piece.Legible) := by
  cases piece with
  | fixed text => exact ⟨le_rfl, fun _ => trivial⟩
  | emphasis => exact ⟨by decide, fun _ => trivial⟩
  | user value => exact ⟨(count_escapeChars_of_ne (by decide) _).le, fun _ => trivial⟩
  | spanned value =>
    have hnone : ((escapeChars value.toList).filter (· ≠ '`')).count '`' = 0 :=
      List.count_eq_zero_of_not_mem (by simp)
    show ((escapeChars value.toList).filter (· ≠ '`')).count '`' ≤ _ ∧
      (value.toList.count '`' = ((escapeChars value.toList).filter (· ≠ '`')).count '`' → _)
    rw [hnone]
    exact ⟨Nat.zero_le _, fun h => List.count_eq_zero.mp h⟩

theorem written_of_bare {piece : Piece} (h : piece.Bare) : piece.written = piece.plain := by
  cases piece with
  | fixed text => rfl
  | emphasis => exact h.elim
  | user value => exact escapeChars_of_plain h
  | spanned value =>
    show (escapeChars value.toList).filter (· ≠ '`') = value.toList
    rw [escapeChars_of_plain h]
    refine List.filter_eq_self.mpr fun c hc => ?_
    have hne : c ≠ '`' := by
      rintro rfl
      exact h _ hc (by decide)
    simpa using hne

end Piece

theorem TextLine.written_of_bare {line : TextLine} (h : line.Bare) : line.written = line.plain := by
  have hmarks : headingMarks line.level = [] := by
    unfold headingMarks
    rw [if_pos h.1]
  unfold written plain
  rw [hmarks, List.nil_append]
  have hpieces : ∀ pieces : List Piece, (∀ piece ∈ pieces, piece.Bare) →
      pieces.flatMap Piece.written = pieces.flatMap Piece.plain := by
    intro pieces hbare
    rw [List.flatMap_def, List.flatMap_def,
      List.map_congr_left fun piece hpiece => Piece.written_of_bare (hbare piece hpiece)]
  exact hpieces _ h.2

theorem count_headingMarks (level : ℕ) :
    (headingMarks level).count '#' = level ∧ (headingMarks level).count '*' = 0 ∧
      (headingMarks level).count '\\' = 0 ∧ (headingMarks level).count '`' = 0 := by
  unfold headingMarks
  by_cases hlevel : level = 0
  · rw [if_pos hlevel, hlevel]
    decide
  · rw [if_neg hlevel]
    simp [List.count_replicate]

/-- **Each mark can be counted**: a text with no more of them than its reader should see is written
without any. -/
theorem bare_of_counts {lines : List TextLine} (h : ∀ c ∈ ['#', '*', '\\'],
    (joined TextLine.written lines).count c = (joined TextLine.plain lines).count c) :
    ∀ line ∈ lines, line.Bare := by
  have hcount : ∀ c ∈ ['#', '*', '\\'], (lines.flatMap TextLine.written).count c =
      (lines.flatMap TextLine.plain).count c := by
    intro c hc
    have hline : c ≠ '\n' := by
      rintro rfl
      exact absurd hc (by decide)
    rw [← count_joined hline, ← count_joined hline, h c hc]
  have hwritten : ∀ (line : TextLine) (c : Char), line.written.count c =
      (headingMarks line.level).count c + (line.pieces.flatMap Piece.written).count c :=
    fun line c => List.count_append
  have hhash : ∀ line : TextLine, line.plain.count '#' =
      (line.pieces.flatMap Piece.written).count '#' := fun line => le_antisymm
    (count_flatMap_le fun piece _ => piece.count_hash.le)
    (count_flatMap_le fun piece _ => piece.count_hash.ge)
  have hstars : ∀ line : TextLine, line.plain.count '*' ≤
      (line.pieces.flatMap Piece.written).count '*' :=
    fun line => count_flatMap_le fun piece _ => piece.count_marks.1
  have hslashes : ∀ line : TextLine, line.plain.count '\\' ≤
      (line.pieces.flatMap Piece.written).count '\\' :=
    fun line => count_flatMap_le fun piece _ => piece.count_marks.2.1
  intro line hline
  obtain ⟨hlevel, hstar, hslash, -⟩ := count_headingMarks line.level
  have hzero : line.level = 0 := by
    have heq := count_of_flatMap (fun line _ => by
      rw [hwritten, hhash]
      exact Nat.le_add_left ..) (hcount '#' (by decide)) line hline
    rw [hwritten, hhash, hlevel] at heq
    omega
  have hstarEq : (line.pieces.flatMap Piece.written).count '*' = line.plain.count '*' := by
    have heq := count_of_flatMap (fun line _ => by
      rw [hwritten]
      exact (hstars line).trans (Nat.le_add_left ..)) (hcount '*' (by decide)) line hline
    rw [hwritten, hstar] at heq
    omega
  have hslashEq : (line.pieces.flatMap Piece.written).count '\\' = line.plain.count '\\' := by
    have heq := count_of_flatMap (fun line _ => by
      rw [hwritten]
      exact (hslashes line).trans (Nat.le_add_left ..)) (hcount '\\' (by decide)) line hline
    rw [hwritten, hslash] at heq
    omega
  refine ⟨hzero, fun piece hpiece => piece.count_marks.2.2 ?_ ?_⟩
  · exact count_of_flatMap (fun piece _ => piece.count_marks.1) hstarEq piece hpiece
  · exact count_of_flatMap (fun piece _ => piece.count_marks.2.1) hslashEq piece hpiece

/-- The backticks that `field` drops are missed. -/
theorem legible_of_count {lines : List TextLine} (h : (joined TextLine.written lines).count '`' =
    (joined TextLine.plain lines).count '`') : ∀ line ∈ lines, line.Legible := by
  rw [count_joined (by decide), count_joined (by decide)] at h
  have hwritten : ∀ line : TextLine, line.written.count '`' =
      (line.pieces.flatMap Piece.written).count '`' := by
    intro line
    show (headingMarks line.level ++ line.pieces.flatMap Piece.written).count '`' = _
    rw [List.count_append, (count_headingMarks line.level).2.2.2, Nat.zero_add]
  have hle : ∀ line : TextLine, line.written.count '`' ≤ line.plain.count '`' := by
    intro line
    rw [hwritten]
    exact count_flatMap_le fun piece _ => piece.count_backtick.1
  intro line hline piece hpiece
  have heq := count_of_flatMap (fun line _ => hle line) h.symm line hline
  rw [hwritten] at heq
  exact piece.count_backtick.2
    (count_of_flatMap (fun piece _ => piece.count_backtick.1) heq piece hpiece)

/-! ### Rendering -/

/-- A text that the program composes of lines, with something to read in it. -/
structure Composed where
  lines : List TextLine
  speaks : (joined TextLine.plain lines).all isSpace = false

namespace Composed

/-- As the program writes it. -/
def written (text : Composed) : String := String.ofList (joined TextLine.written text.lines)

/-- As a reader should see it. -/
def plain (text : Composed) : String := String.ofList (joined TextLine.plain text.lines)

def Bare (text : Composed) : Prop := ∀ line ∈ text.lines, line.Bare

def Legible (text : Composed) : Prop := ∀ line ∈ text.lines, line.Legible

end Composed

/-- The buttons and the attachment that a channel cannot show, as lines behind a text. -/
def appended (message : OutboundMessage) (capabilities : ChannelCapabilities) (text : String) :
    String :=
  let text :=
    if message.buttons ≠ [] ∧ capabilities.buttons = false then
      strip (text ++ "\n" ++ buttonChoices message.buttons)
    else text
  if message.attachmentUrl.getD "" ≠ "" ∧ capabilities.attachments = false then
    strip (text ++ "\n附件：" ++ message.attachmentUrl.getD "")
  else text

/-- **The channel receives plain text**: the message is rendered, and what it says is what the reader
should see, with the buttons and the attachment behind it. -/
def ReadsPlain (text : Composed) (message : OutboundMessage) (capabilities : ChannelCapabilities) :
    Prop :=
  ∃ rendered, renderForCapabilities message capabilities = .ok rendered ∧
    rendered.text = appended message capabilities text.plain

/-- Only for one kind of message the text is changed. -/
theorem text_of_render {message rendered : OutboundMessage} {capabilities : ChannelCapabilities}
    (h : renderForCapabilities message capabilities = .ok rendered) :
    rendered.text = appended message capabilities
      (if message.kind = .markdown ∧ capabilities.markdown = false then plainMarkdown message.text
        else message.text) := by
  unfold renderForCapabilities at h
  obtain ⟨-, h⟩ := raiseIf_bind_ok.mp h
  obtain ⟨-, -, -, -, htext, -⟩ := OutboundMessage.checked_ok h
  rw [htext]
  rfl

theorem isBlank_appended {message : OutboundMessage} {capabilities : ChannelCapabilities}
    {text : String} (h : isBlank text = false) :
    isBlank (appended message capabilities text) = false := by
  have hmore : ∀ s t u : String, isBlank s = false → isBlank (strip (s ++ t ++ u)) = false := by
    intro s t u hs
    rw [isBlank_strip, isBlank_append, isBlank_append, hs]
    rfl
  unfold appended
  simp only
  split
  · refine hmore _ _ _ ?_
    split
    · exact hmore _ _ _ h
    · exact h
  · split
    · exact hmore _ _ _ h
    · exact h

/-- A message with something to read in it is rendered. -/
theorem render_of_speaks {message : OutboundMessage} {capabilities : ChannelCapabilities}
    (houtbound : capabilities.outboundText = true)
    (hspeaks : isBlank (if message.kind = .markdown ∧ capabilities.markdown = false then
      plainMarkdown message.text else message.text) = false) :
    ∃ rendered, renderForCapabilities message capabilities = .ok rendered := by
  have hblank : isBlank (appended message capabilities
      (if message.kind = .markdown ∧ capabilities.markdown = false then plainMarkdown message.text
        else message.text)) = false := isBlank_appended hspeaks
  have hcontent : ∀ attachmentUrl calendarPreview dailyAgendaPreview,
      HasContent (appended message capabilities
        (if message.kind = .markdown ∧ capabilities.markdown = false then plainMarkdown message.text
          else message.text)) attachmentUrl calendarPreview dailyAgendaPreview := by
    rintro attachmentUrl calendarPreview dailyAgendaPreview ⟨hnone, -⟩
    rw [hblank] at hnone
    exact absurd hnone (by decide)
  have hraise : raiseIf (capabilities.outboundText = false)
      (PyError.validation "channel does not support outbound text") = .ok () :=
    raiseIf_eq_ok.mpr (by rw [houtbound]; decide)
  unfold renderForCapabilities
  rw [hraise]
  exact OutboundMessage.checked_of_valid message.account_nonblank message.target_nonblank
    (hcontent _ _ _) message.replyContext_short message.ordinary

/-- What is added does not depend on the text, and takes none of its characters but white ones. -/
theorem count_appended (message : OutboundMessage) (capabilities : ChannelCapabilities) {c : Char}
    (hc : isSpace c = false) : ∃ added, ∀ text,
      (appended message capabilities text).toList.count c = text.toList.count c + added := by
  have hstrip : ∀ s : String, (strip s).toList.count c = s.toList.count c := by
    intro s
    unfold strip stripChars
    rw [String.toList_ofList, List.count_reverse, count_lstripChars hc, List.count_reverse,
      count_lstripChars hc]
  have hmore : ∀ (p : Prop) [Decidable p] (t u : String), ∃ added, ∀ s : String,
      (if p then strip (s ++ t ++ u) else s).toList.count c = s.toList.count c + added := by
    intro p _ t u
    by_cases hp : p
    · refine ⟨t.toList.count c + u.toList.count c, fun s => ?_⟩
      rw [if_pos hp, hstrip, String.toList_append, String.toList_append, List.count_append,
        List.count_append, Nat.add_assoc]
    · exact ⟨0, fun s => by rw [if_neg hp, Nat.add_zero]⟩
  obtain ⟨listed, hlisted⟩ := hmore (message.buttons ≠ [] ∧ capabilities.buttons = false) "\n"
    (buttonChoices message.buttons)
  obtain ⟨linked, hlinked⟩ := hmore
    (message.attachmentUrl.getD "" ≠ "" ∧ capabilities.attachments = false) "\n附件："
    (message.attachmentUrl.getD "")
  refine ⟨listed + linked, fun text => ?_⟩
  unfold appended
  simp only
  rw [hlinked, hlisted, Nat.add_assoc]

section Degraded

variable {text : Composed} {message : OutboundMessage} {capabilities : ChannelCapabilities}

theorem Composed.isBlank_plain (text : Composed) : isBlank text.plain = false := by
  unfold isBlank plain
  rw [String.toList_ofList]
  exact text.speaks

theorem Composed.written_of_bare (h : text.Bare) : text.written = text.plain := by
  unfold written plain joined
  rw [List.map_congr_left fun line hline => TextLine.written_of_bare (h line hline)]

theorem Composed.legible_of_bare (h : text.Bare) : text.Legible := by
  intro line hline piece hpiece
  have hbare := (h line hline).2 piece hpiece
  cases piece with
  | fixed text => trivial
  | emphasis => trivial
  | user value => trivial
  | spanned value => exact fun hmem => hbare _ hmem (by decide)

/-- The words that are sent count for the reader's. -/
theorem ReadsPlain.counts (h : ReadsPlain text message capabilities) {sent : String}
    (hsent : (if message.kind = .markdown ∧ capabilities.markdown = false then
      plainMarkdown message.text else message.text) = sent) {c : Char} (hc : isSpace c = false) :
    sent.toList.count c = text.plain.toList.count c := by
  obtain ⟨rendered, hrender, hreads⟩ := h
  obtain ⟨added, hadded⟩ := count_appended message capabilities hc
  have hboth := (text_of_render hrender).symm.trans hreads
  rw [hsent] at hboth
  have hcounts := congrArg (fun s : String => s.toList.count c) hboth
  simp only [hadded] at hcounts
  omega

/-- **A message of another kind keeps its Markdown**, so it can only have none. -/
theorem bare_of_readsPlain (htext : message.text = text.written) (hkind : message.kind ≠ .markdown)
    (h : ReadsPlain text message capabilities) : text.Bare := by
  refine bare_of_counts fun c hc => ?_
  have hwhite : isSpace c = false := by
    simp only [List.mem_cons, List.not_mem_nil, or_false] at hc
    rcases hc with rfl | rfl | rfl <;> decide
  have hcounts := h.counts (if_neg fun hplain => hkind hplain.1) hwhite
  rw [htext] at hcounts
  unfold Composed.written Composed.plain at hcounts
  rwa [String.toList_ofList, String.toList_ofList] at hcounts

theorem legible_of_readsPlain (htext : message.text = text.written)
    (hplain : capabilities.markdown = false) (h : ReadsPlain text message capabilities) :
    text.Legible := by
  by_cases hkind : message.kind = .markdown
  · refine legible_of_count ?_
    have hcounts := h.counts (if_pos ⟨hkind, hplain⟩) (c := '`') (by decide)
    rw [count_plainMarkdown, htext] at hcounts
    unfold Composed.written Composed.plain at hcounts
    rwa [String.toList_ofList, String.toList_ofList] at hcounts
  · exact Composed.legible_of_bare (bare_of_readsPlain htext hkind h)

theorem readsPlain_of_sent (houtbound : capabilities.outboundText = true)
    (hsent : (if message.kind = .markdown ∧ capabilities.markdown = false then
      plainMarkdown message.text else message.text) = text.plain) :
    ReadsPlain text message capabilities := by
  have hspeaks : isBlank (if message.kind = .markdown ∧ capabilities.markdown = false then
      plainMarkdown message.text else message.text) = false := by
    rw [hsent]
    exact text.isBlank_plain
  obtain ⟨rendered, hrender⟩ := render_of_speaks houtbound hspeaks
  exact ⟨rendered, hrender, by rw [text_of_render hrender, hsent]⟩

/-- **A plain channel receives plain text** exactly if the message is of the kind that Markdown has
and no value in the row of a card has a backtick, or if there is no Markdown in the text. -/
theorem readsPlain_iff (htext : message.text = text.written)
    (houtbound : capabilities.outboundText = true) (hplain : capabilities.markdown = false) :
    ReadsPlain text message capabilities ↔
      message.kind = .markdown ∧ text.Legible ∨ text.Bare := by
  constructor
  · intro h
    by_cases hkind : message.kind = .markdown
    · exact Or.inl ⟨hkind, legible_of_readsPlain htext hplain h⟩
    · exact Or.inr (bare_of_readsPlain htext hkind h)
  · intro h
    refine readsPlain_of_sent houtbound ?_
    have hlegible : text.Legible := h.elim And.right Composed.legible_of_bare
    by_cases hkind : message.kind = .markdown
    · rw [if_pos ⟨hkind, hplain⟩, htext]
      exact plainMarkdown_written hlegible
    · rw [if_neg fun hboth => hkind hboth.1, htext]
      exact Composed.written_of_bare (h.resolve_left fun hboth => hkind hboth.1)

end Degraded

/-! A heading with emphasis and an escaped point. -/

theorem itemLabel_quiet : Unstyled "事项：".toList :=
  quiet_of_unmarked (forall_mem_of_all (by decide))

theorem itemLabel_unescaped : '\\' ∉ "事项：".toList := by decide

def itemLabel : FixedText := ⟨"事项：", itemLabel_quiet, itemLabel_unescaped⟩

def releasePieces : List Piece := [.fixed itemLabel, .emphasis, .user "v1.0", .emphasis]

theorem release_level : 1 ≤ 6 := by decide

theorem release_titled (_ : 0 < 1) :
    ∃ c rest, releasePieces.flatMap Piece.written = c :: rest ∧ isSpace c = false :=
  ⟨'事', _, rfl, by decide⟩

def releaseLine : TextLine := ⟨1, releasePieces, release_level, release_titled⟩

theorem release_speaks : (joined TextLine.plain [releaseLine]).all isSpace = false := by decide

def release : Composed := ⟨[releaseLine], release_speaks⟩

theorem release_account : isBlank "qq" = false ∧ isBlank "main" = false := by decide

theorem release_target : isBlank "conversation" = false := by decide

theorem release_content : HasContent "# 事项：**v1\\.0**" none none none := by decide

def releaseMessage : OutboundMessage where
  channel := "qq"
  channelAccount := "main"
  targetRef := "conversation"
  kind := .markdown
  text := "# 事项：**v1\\.0**"
  account_nonblank := release_account
  target_nonblank := release_target
  content := release_content
  replyContext_short := noReplyContext_short
  ordinary := personal_ordinary

theorem release_readsPlain : ReadsPlain release releaseMessage { outboundText := true } := by
  have hlegible : release.Legible := by
    intro line hline piece hpiece
    rw [List.mem_singleton.mp hline] at hpiece
    rcases List.mem_cons.mp hpiece with rfl | hpiece
    · trivial
    · rcases List.mem_cons.mp hpiece with rfl | hpiece
      · trivial
      · rcases List.mem_pair.mp hpiece with rfl | rfl <;> trivial
  exact (readsPlain_iff (by decide +kernel) rfl rfl).mpr (Or.inl ⟨rfl, hlegible⟩)

/-! ### What the reader sees -/

/-- The strings of the user, in the order of the text. -/
def Piece.strings : Piece → List String
  | user value | spanned value => [value]
  | _ => []

namespace Composed

variable {text : Composed}

/-- Each string of the user stands in the text as it was written. -/
theorem verbatim {line : TextLine} (hline : line ∈ text.lines) {piece : Piece}
    (hpiece : piece ∈ line.pieces) {value : String} (hvalue : value ∈ piece.strings) :
    value.toList <:+: text.plain.toList := by
  have hself : piece.plain = value.toList := by
    cases piece with
    | user own => rw [List.mem_singleton.mp hvalue]; rfl
    | spanned own => rw [List.mem_singleton.mp hvalue]; rfl
    | fixed own => exact absurd hvalue List.not_mem_nil
    | emphasis => exact absurd hvalue List.not_mem_nil
  have hin : piece.plain <:+: line.plain := by
    unfold TextLine.plain
    rw [List.flatMap_def]
    exact List.infix_of_mem_flatten (List.mem_map_of_mem hpiece)
  have hjoined : ∀ lines : List TextLine, line ∈ lines →
      line.plain <:+: joined TextLine.plain lines := by
    intro lines
    induction lines with
    | nil => exact fun hmem => absurd hmem List.not_mem_nil
    | cons first lines ih =>
      intro hmem
      cases lines with
      | nil =>
        rw [List.mem_singleton.mp hmem, joined_singleton]
      | cons next lines =>
        rw [joined_cons_cons]
        rcases List.mem_cons.mp hmem with rfl | hmem
        · exact (List.prefix_append _ _).isInfix
        · exact (ih hmem).trans ((List.suffix_cons _ _).trans (List.suffix_append _ _)).isInfix
  unfold plain
  rw [String.toList_ofList, ← hself]
  exact hin.trans (hjoined _ hline)

/-- **No mark is left** but those of the user's own strings: where these have none, no line starts
with the mark of a heading, no two stars stand together, and there is no backslash. -/
theorem unmarked (h : ∀ line ∈ text.lines, ∀ piece ∈ line.pieces, ∀ value ∈ piece.strings,
    ∀ c ∈ value.toList, c ≠ '#' ∧ c ≠ '*' ∧ c ≠ '\\') :
    headless true text.plain.toList = true ∧ Apart '*' text.plain.toList ∧
      '\\' ∉ text.plain.toList := by
  -- what holds of every piece holds of the text
  have hparts : ∀ P : List Char → Prop, Additive P → P ['\n'] →
      (∀ fixed : FixedText, P fixed.value.toList) →
      (∀ cs : List Char, (∀ c ∈ cs, c ≠ '#' ∧ c ≠ '*' ∧ c ≠ '\\') → P cs) →
      P text.plain.toList := by
    intro P hP hnewline hfixed hstring
    unfold plain
    rw [String.toList_ofList]
    refine hP.joined hnewline fun line hline => hP.flatMap fun piece hpiece => ?_
    have hown := h line hline piece hpiece
    cases piece with
    | fixed own => exact hfixed own
    | emphasis => exact hP.nil
    | user own => exact hstring _ (hown own (List.mem_singleton.mpr rfl))
    | spanned own => exact hstring _ (hown own (List.mem_singleton.mpr rfl))
  have hslash : Additive fun cs => '\\' ∉ cs := ⟨List.not_mem_nil, fun ha hb hmem =>
    (List.mem_append.mp hmem).elim ha hb⟩
  refine ⟨hparts _ additive_headless (by decide) (fun own => own.quiet.headless) fun cs hcs =>
      headless_of_ne fun c hc => (hcs c hc).1,
    hparts _ (additive_apart '*') (by decide) (fun own => own.quiet.stars) fun cs hcs =>
      apart_of_ne fun c hc => (hcs c hc).2.1,
    hparts _ hslash (by decide) (fun own => own.unescaped) fun cs hcs hmem => (hcs _ hmem).2.2 rfl⟩

end Composed

end Zhixu
