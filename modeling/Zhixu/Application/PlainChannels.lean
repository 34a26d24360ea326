import Zhixu.Application.CardValues
import Zhixu.Application.DailyBriefings
import Zhixu.Delivery.PlainText

/-!
# Briefings and reminder cards on a plain channel

The texts of the schedulers are composed of lines as `Composed` has them: a heading of the program's
own words, and below it lines in which every string of the user was escaped. So what
`render_for_capabilities` makes of them is known. The daily briefing is a message with buttons and the
card of a reminder that fires is a plain one, by its kind, and neither kind has its Markdown taken out:
a plain channel shows the marks of their headings whatever else they say
(`briefing_not_plain`, `reminderCard_not_plain`).

A line is taken apart from the left. `Pieced` texts can be put together, and the constant parts of a
line are `Unmarked` but for the stars of emphasis.
-/

open Framework

namespace Zhixu

/-! ### Words of the program's own -/

/-- No character of the text is a mark. -/
def Unmarked (s : String) : Prop :=
  ∀ c ∈ s.toList, c ≠ '#' ∧ c ≠ '*' ∧ c ≠ '_' ∧ c ≠ '\\'

instance (s : String) : Decidable (Unmarked s) :=
  List.decidableBAll (fun c => c ≠ '#' ∧ c ≠ '*' ∧ c ≠ '_' ∧ c ≠ '\\') s.toList

theorem Unmarked.append {s t : String} (hs : Unmarked s) (ht : Unmarked t) : Unmarked (s ++ t) := by
  intro c hc
  rw [String.toList_append] at hc
  exact (List.mem_append.mp hc).elim (hs c) (ht c)

/-- Unmarked text as a piece. -/
theorem Unmarked.fixed {s : String} (h : Unmarked s) : ∃ text : FixedText, text.value = s :=
  ⟨⟨s, quiet_of_unmarked fun c hc => ⟨(h c hc).1, (h c hc).2.1, (h c hc).2.2.1⟩,
    fun hmem => (h _ hmem).2.2.2 rfl⟩, rfl⟩

/-- A number is written with digits and a sign. -/
theorem mem_toString_int {n : Int} {c : Char} (h : c ∈ (toString n).toList) :
    c.isDigit = true ∨ c = '-' := by
  have hnat : ∀ k : ℕ, c ∈ (toString (k : Int)).toList → c.isDigit = true := by
    intro k hk
    have htext : (toString (k : Int)).toList = Nat.toDigits 10 k := Nat.toList_repr
    rw [htext] at hk
    exact Nat.isDigit_of_mem_toDigits (by decide) (by decide) hk
  cases n with
  | ofNat k => exact Or.inl (hnat k h)
  | negSucc k =>
    have htext : toString (Int.negSucc k) = "-" ++ toString ((k + 1 : ℕ) : Int) := rfl
    rw [htext, String.toList_append] at h
    rcases List.mem_append.mp h with h | h
    · exact Or.inr (List.mem_singleton.mp h)
    · exact Or.inl (hnat _ h)

theorem unmarked_number (n : Int) : Unmarked (toString n) := by
  intro c hc
  have hdigit := mem_toString_int hc
  refine ⟨?_, ?_, ?_, ?_⟩ <;>
    · rintro rfl
      exact absurd hdigit (by decide)

theorem unmarked_pad2 (n : Int) : Unmarked (pad2 n) := by
  unfold pad2
  split
  · exact Unmarked.append (by decide) (unmarked_number n)
  · exact unmarked_number n

theorem unmarked_monthDayText (date : Date) : Unmarked (monthDayText date) :=
  (((unmarked_pad2 _).append (by decide)).append (unmarked_pad2 _)).append (by decide)

theorem unmarked_timeText (w : Int) : Unmarked (Wall.timeText w) :=
  ((unmarked_pad2 _).append (by decide)).append (unmarked_pad2 _)

theorem unmarked_dateText (w : Int) : Unmarked (Wall.dateText w) :=
  ((((unmarked_number _).append (by decide)).append (unmarked_pad2 _)).append (by decide)).append
    (unmarked_pad2 _)

theorem unmarked_weekdayName (weekday : Int) : Unmarked (weekdayName weekday) := by
  have hall : ∀ s ∈ ["一", "二", "三", "四", "五", "六", "日"], Unmarked s := by decide
  unfold weekdayName
  rw [List.getD_eq_getElem?_getD]
  cases hday : (["一", "二", "三", "四", "五", "六", "日"] : List String)[weekday.toNat]? with
  | none => exact fun c hc => absurd hc List.not_mem_nil
  | some day => exact hall day (List.mem_of_getElem? hday)

theorem unmarked_humaniseGap (gap : Int) : Unmarked (humaniseGap gap) := by
  have hopen : Unmarked "还有 " := by decide
  unfold humaniseGap
  simp only
  split
  · decide
  · split
    · exact (hopen.append (unmarked_number _)).append (by decide)
    · split
      · refine ((hopen.append (unmarked_number _)).append (by decide)).append ?_
        split
        · decide
        · exact (Unmarked.append (by decide) (unmarked_number _)).append (by decide)
      · refine ((hopen.append (unmarked_number _)).append (by decide)).append ?_
        split
        · decide
        · exact (Unmarked.append (by decide) (unmarked_number _)).append (by decide)

/-! ### Lines put together -/

/-- The text is written with pieces. -/
def Pieced (s : String) : Prop :=
  ∃ pieces : List Piece, pieces.flatMap Piece.written = s.toList

theorem Pieced.append {s t : String} (hs : Pieced s) (ht : Pieced t) : Pieced (s ++ t) := by
  obtain ⟨as, ha⟩ := hs
  obtain ⟨bs, hb⟩ := ht
  exact ⟨as ++ bs, by rw [List.flatMap_append, ha, hb, String.toList_append]⟩

theorem Unmarked.pieced {s : String} (h : Unmarked s) : Pieced s := by
  obtain ⟨text, rfl⟩ := h.fixed
  exact ⟨[.fixed text], List.append_nil _⟩

theorem pieced_stars : Pieced "**" := ⟨[.emphasis], rfl⟩

theorem pieced_escaped (title : String) : Pieced (escapeMarkdownText title) :=
  ⟨[.user (compact title)], by
    unfold escapeMarkdownText
    rw [toList_escapeMarkdown]
    exact List.append_nil _⟩

/-- Words with the stars of emphasis behind them, or in front. -/
theorem Unmarked.opening {s t : String} (h : Unmarked s) (ht : t = s ++ "**") : Pieced t :=
  ht ▸ h.pieced.append pieced_stars

theorem Unmarked.closing {s t : String} (h : Unmarked s) (ht : t = "**" ++ s) : Pieced t :=
  ht ▸ pieced_stars.append h.pieced

/-- The text is a line. -/
def Lined (s : String) : Prop := ∃ line : TextLine, line.written = s.toList

theorem Pieced.lined {s : String} (h : Pieced s) : Lined s := by
  obtain ⟨pieces, hpieces⟩ := h
  refine ⟨⟨0, pieces, Nat.zero_le 6, fun hlevel => absurd hlevel (Nat.lt_irrefl 0)⟩, ?_⟩
  exact hpieces

/-- A title starts with a character that is not white. -/
def StartsWord (s : String) : Prop := ∃ c rest, s.toList = c :: rest ∧ isSpace c = false

/-- A heading of the program's own words. -/
theorem exists_heading {title : String} (h : Unmarked title) (hword : StartsWord title) {level : ℕ}
    (hpos : 0 < level) (hle : level ≤ 6) : ∃ line : TextLine, line.level = level ∧
      line.written = List.replicate level '#' ++ ' ' :: title.toList ∧
      line.plain.all isSpace = false := by
  obtain ⟨text, rfl⟩ := h.fixed
  obtain ⟨c, rest, htitle, hc⟩ := hword
  have hpieces : [Piece.fixed text].flatMap Piece.written = c :: rest := by
    rw [← htitle]
    exact List.append_nil _
  refine ⟨⟨level, [.fixed text], hle, fun _ => ⟨c, rest, hpieces, hc⟩⟩, rfl, ?_, ?_⟩
  · show headingMarks level ++ _ = _
    unfold headingMarks
    rw [if_neg (Nat.ne_of_gt hpos), hpieces, htitle]
    simp
  · have hplain : [Piece.fixed text].flatMap Piece.plain = c :: rest := hpieces
    show ([Piece.fixed text].flatMap Piece.plain).all isSpace = false
    rw [hplain, List.all_cons, hc, Bool.false_and]

theorem joined_map {lines : List String} (h : ∀ s ∈ lines, Lined s) :
    ∃ composed : List TextLine, composed.map TextLine.written = lines.map String.toList := by
  induction lines with
  | nil => exact ⟨[], rfl⟩
  | cons s lines ih =>
    obtain ⟨line, hline⟩ := h s (List.mem_cons_self ..)
    obtain ⟨composed, hcomposed⟩ := ih fun t ht => h t (List.mem_cons_of_mem _ ht)
    exact ⟨line :: composed, by rw [List.map_cons, List.map_cons, hline, hcomposed]⟩

/-- **A heading with lines below it** is a composed text, and not without Markdown. -/
theorem exists_composed {title : String} (htitle : Unmarked title) (hword : StartsWord title)
    {lines : List String} (h : ∀ s ∈ lines, Lined s) : ∃ text : Composed,
      text.written = joinLines (("# " ++ title) :: lines) ∧ ¬ text.Bare := by
  obtain ⟨heading, hlevel, hwritten, hspeaks⟩ :=
    exists_heading htitle hword (by decide : 0 < 1) (by decide)
  obtain ⟨composed, hcomposed⟩ := joined_map h
  have hsays : (joined TextLine.plain (heading :: composed)).all isSpace = false := by
    cases composed with
    | nil =>
      rw [joined_singleton]
      exact hspeaks
    | cons next composed =>
      rw [joined_cons_cons, List.all_append, hspeaks, Bool.false_and]
  refine ⟨⟨heading :: composed, hsays⟩, ?_, fun hbare => ?_⟩
  · have hfirst : heading.written = ("# " ++ title).toList := by
      rw [hwritten, String.toList_append]
      rfl
    unfold Composed.written joined joinLines
    rw [List.map_cons, hcomposed, hfirst, ← List.map_cons, ← String.toList_inj,
      String.toList_ofList, String.toList_intercalate]
    rfl
  · have hzero := (hbare heading (List.mem_cons_self ..)).1
    rw [hlevel] at hzero
    exact absurd hzero (by decide)

/-! ### The daily briefing -/

section Briefing

variable {zones : TimeZones} {key : String} {today : Date}

theorem pieced_arrivedLine {title : String} (h : Pieced title) (kind : ImportantDayKind)
    (years : Int) : Pieced (arrivedLine title kind years) := by
  have hnumber := (unmarked_number years).pieced
  have hopen : Pieced "🎉 今天是 " := Unmarked.pieced (by decide)
  cases kind with
  | birthday =>
    have hage : Unmarked (if 0 < years then "（" ++ toString years ++ " 岁）" else "") := by
      split
      · exact (Unmarked.append (by decide) (unmarked_number _)).append (by decide)
      · decide
    exact (((Unmarked.pieced (by decide) : Pieced "🎂 今天是 ").append h).append
      (Unmarked.pieced (by decide))).append hage.pieced |>.append (Unmarked.pieced (by decide))
  | anniversary =>
    have hstars : Pieced " 的 **" := Unmarked.opening (by decide : Unmarked " 的 ") rfl
    have hclose : Pieced "** 周年。" := Unmarked.closing (by decide : Unmarked " 周年。") rfl
    unfold arrivedLine
    simp only
    split
    · exact (((hopen.append h).append hstars).append hnumber).append hclose
    · exact (hopen.append h).append (Unmarked.pieced (by decide))

theorem pieced_upcomingLine {title : String} (h : Pieced title) (kind : ImportantDayKind)
    (years : Int) (date : Date) (remaining : Int) :
    Pieced (upcomingLine title kind years date remaining) := by
  have hnumber := (unmarked_number remaining).pieced
  have hdate := (unmarked_monthDayText date).pieced
  have hclose : Pieced "** 天（" := Unmarked.closing (by decide : Unmarked " 天（") rfl
  have hend : Pieced "）。" := Unmarked.pieced (by decide)
  have hopen : Pieced "🎉 " := Unmarked.pieced (by decide)
  cases kind with
  | birthday =>
    have hstars : Pieced " 的生日还有 **" := Unmarked.opening (by decide : Unmarked " 的生日还有 ") rfl
    exact ((((((Unmarked.pieced (by decide) : Pieced "🎂 ").append h).append hstars).append
      hnumber).append hclose).append hdate).append hend
  | anniversary =>
    have hyears : Pieced " 周年还有 **" := Unmarked.opening (by decide : Unmarked " 周年还有 ") rfl
    have hstars : Pieced " 还有 **" := Unmarked.opening (by decide : Unmarked " 还有 ") rfl
    unfold upcomingLine
    simp only
    split
    · exact (((((((hopen.append h).append (Unmarked.pieced (by decide))).append
        (unmarked_number years).pieced).append hyears).append hnumber).append hclose).append
        hdate).append hend
    · exact (((((hopen.append h).append hstars).append hnumber).append hclose).append hdate).append
        hend

theorem pieced_importantDayLines {day : Anniversary} {lines : List String}
    (h : importantDayLines day today = .ok lines) : ∀ line ∈ lines, Pieced line := by
  have htitle := pieced_escaped day.title
  unfold importantDayLines at h
  obtain ⟨first, hfirst, h⟩ := bind_eq_ok.mp h
  have hpieced : ∀ line ∈ first, Pieced line := by
    unfold occurrenceLine at hfirst
    obtain ⟨occurrence, -, hfirst⟩ := bind_eq_ok.mp hfirst
    by_cases harrived : occurrence = some today
    · rw [if_pos harrived] at hfirst
      obtain rfl := Except.ok.inj hfirst
      intro line hline
      rw [List.mem_singleton.mp hline]
      exact pieced_arrivedLine htitle _ _
    · rw [if_neg harrived] at hfirst
      obtain ⟨upcoming, -, hfirst⟩ := bind_eq_ok.mp hfirst
      obtain rfl := Except.ok.inj hfirst
      intro line hline
      obtain ⟨notice, -, rfl⟩ := Option.map_eq_some_iff.mp (Option.mem_toList.mp hline)
      exact pieced_upcomingLine htitle _ _ _ _
  by_cases hcounts : day.countsElapsedDays = true ∧ (day.anchorDate.ordinal : Int) ≤ today
  · rw [if_pos hcounts] at h
    obtain rfl := Except.ok.inj h
    intro line hline
    rcases List.mem_append.mp hline with hline | hline
    · exact hpieced line hline
    · have hstars : Pieced "的第 **" := Unmarked.opening (by decide : Unmarked "的第 ") rfl
      have hclose : Pieced "** 天。" := Unmarked.closing (by decide : Unmarked " 天。") rfl
      have hopen : Pieced "今天是 " := Unmarked.pieced (by decide)
      rw [List.mem_singleton.mp hline]
      exact (((hopen.append htitle).append hstars).append (unmarked_number _).pieced).append hclose
  · rw [if_neg hcounts] at h
    obtain rfl := Except.ok.inj h
    exact hpieced

theorem unmarked_agendaMark (w : Int) : Unmarked (agendaMark w) := by
  -- the faces of the clock are the 24 characters from the first one on
  have hall : ∀ face < 24, Unmarked (String.ofList [Char.ofNat (0x1F550 + face)]) := by decide
  have hface : ∀ hour base : Int, 1 ≤ hour → hour ≤ 12 → base = 0x1F550 ∨ base = 0x1F55C →
      ∃ face < 24, (base + hour - 1).toNat = 0x1F550 + face := by
    intro hour base hlow hhigh hbase
    exact ⟨(base + hour - 1).toNat - 0x1F550, by omega, by omega⟩
  obtain ⟨face, hlt, hmark⟩ := hface
    (if Wall.hour w % 12 = 0 then 12 else Wall.hour w % 12)
    (if 30 ≤ Wall.minute w then 0x1F55C else 0x1F550) (by omega) (by omega) (by omega)
  show Unmarked (String.ofList [Char.ofNat (Int.toNat _)])
  rw [hmark]
  exact hall face hlt

theorem pieced_agendaLine {occurrence : AgendaOccurrence} {line : ScheduleLine}
    (h : agendaLine zones key occurrence = .ok line) : Pieced line.2 := by
  unfold agendaLine at h
  obtain ⟨startAt, -, h⟩ := bind_eq_ok.mp h
  obtain rfl := Except.ok.inj h
  have hopen : Pieced "- `" := Unmarked.pieced (by decide)
  exact ((((hopen.append (unmarked_timeText _).pieced).append (Unmarked.pieced (by decide))).append
    (unmarked_agendaMark _).pieced).append (Unmarked.pieced (by decide))).append (pieced_escaped _)

theorem pieced_reminderLine {reminder : Reminder} {line : ScheduleLine}
    (h : reminderLine zones key reminder = .ok line) : Pieced line.2 := by
  unfold reminderLine at h
  obtain ⟨fireAt, -, h⟩ := bind_eq_ok.mp h
  obtain rfl := Except.ok.inj h
  have hopen : Pieced "- `" := Unmarked.pieced (by decide)
  exact ((hopen.append (unmarked_timeText _).pieced).append (Unmarked.pieced (by decide))).append
    (pieced_escaped _)

/-- What each of several computations gives has a property that each result has. -/
theorem forall_mapM {α β : Type} {f : α → Except PyError β} {P : β → Prop}
    (hf : ∀ x y, f x = .ok y → P y) {xs : List α} {ys : List β} (h : xs.mapM f = .ok ys) :
    ∀ y ∈ ys, P y := by
  intro y hy
  obtain ⟨i, hi⟩ := List.mem_iff_getElem?.mp hy
  obtain ⟨x, -, hx⟩ := (mapM_get h i).2 y hi
  exact hf x y hx

/-- The year in front of the heading starts it with a digit or a sign. -/
theorem startsWord_number (n : Int) {more : String} (hmore : StartsWord more) :
    StartsWord (toString n ++ more) := by
  unfold StartsWord
  rw [String.toList_append]
  cases hdigits : (toString n).toList with
  | nil => exact hmore
  | cons c rest =>
    have hc := mem_toString_int (n := n) (c := c) (hdigits ▸ List.mem_cons_self ..)
    refine ⟨c, rest ++ more.toList, rfl, (Bool.not_eq_true _).mp fun hspace => ?_⟩
    rcases hc with hc | rfl
    · -- the digits lie behind every white character of ASCII and in front of all others
      unfold isSpace at hspace
      unfold Char.isDigit at hc
      simp only [Bool.and_eq_true, Bool.or_eq_true, decide_eq_true_eq, beq_iff_eq] at hspace hc
      have hlow : 48 ≤ c.toNat := hc.1
      have hhigh : c.toNat ≤ 57 := hc.2
      omega
    · exact absurd hspace (by decide)

/-- **The text of a briefing** is composed, and not without Markdown. -/
theorem composed_of_briefing {briefing : DailyBriefing} {channel : String × String}
    {dayStart dayEnd : DateTime} {anniversaries : List Anniversary}
    {occurrences : List AgendaOccurrence} {reminders : List Reminder} {message : OutboundMessage}
    (h : composeBriefing zones briefing today channel dayStart dayEnd anniversaries occurrences
      reminders = .ok message) :
    message.kind = .button ∧ ∃ text : Composed, text.written = message.text ∧ ¬ text.Bare := by
  unfold composeBriefing at h
  obtain ⟨days, hdays, h⟩ := bind_eq_ok.mp h
  obtain ⟨agendaLines, hagenda, h⟩ := bind_eq_ok.mp h
  obtain ⟨reminderLines, hreminders, h⟩ := bind_eq_ok.mp h
  obtain ⟨agendaEntries, -, h⟩ := bind_eq_ok.mp h
  obtain ⟨reminderEntries, -, h⟩ := bind_eq_ok.mp h
  obtain ⟨preview, -, h⟩ := bind_eq_ok.mp h
  obtain ⟨-, -, -, -, htext, hkind⟩ := OutboundMessage.checked_ok h
  refine ⟨hkind, ?_⟩
  rw [htext]
  have hmonth := unmarked_monthDayText today
  have hyear := unmarked_number (Calendar.civil today).1
  have htitle : Unmarked (toString (Calendar.civil today).1 ++ "年" ++ monthDayText today ++
      " · 每日简报") := ((hyear.append (by decide)).append hmonth).append (by decide)
  have hword : StartsWord (toString (Calendar.civil today).1 ++ "年" ++ monthDayText today ++
      " · 每日简报") := by
    have hyearMark : "年".toList = ['年'] := rfl
    rw [String.append_assoc, String.append_assoc]
    refine startsWord_number _ ⟨'年', (monthDayText today ++ " · 每日简报").toList, ?_, by decide⟩
    rw [String.toList_append, hyearMark, List.singleton_append]
  have hempty : Lined "" := Pieced.lined ⟨[], rfl⟩
  -- the lines of the schedule, in the order of their moments
  have hschedule : ∀ line ∈ agendaLines ++ reminderLines, Pieced line.2 := by
    intro line hline
    rcases List.mem_append.mp hline with hline | hline
    · exact forall_mapM (P := fun line => Pieced line.2) (fun _ _ => pieced_agendaLine) hagenda
        line hline
    · exact forall_mapM (P := fun line => Pieced line.2) (fun _ _ => pieced_reminderLine) hreminders
        line hline
  have hlines : ∀ line ∈ (days.flatten.flatMap fun line => ["", line]) ++ ["", "## 今日日程"] ++
      (if (agendaLines ++ reminderLines).insertionSort (fun a b => ¬ b.1.lt zones a.1 = true) = []
        then ["> 今天没有日程或提醒。"]
        else ((agendaLines ++ reminderLines).insertionSort
          fun a b => ¬ b.1.lt zones a.1 = true).map Prod.snd), Lined line := by
    intro line hline
    rcases List.mem_append.mp hline with hline | hline
    · rcases List.mem_append.mp hline with hline | hline
      · obtain ⟨own, hown, hline⟩ := List.mem_flatMap.mp hline
        rcases List.mem_pair.mp hline with rfl | rfl
        · exact hempty
        · obtain ⟨lines, hlines, hown⟩ := List.mem_flatten.mp hown
          exact (forall_mapM (P := fun lines => ∀ line ∈ lines, Pieced line)
            (fun _ _ => pieced_importantDayLines) hdays lines hlines line hown).lined
      · rcases List.mem_pair.mp hline with rfl | rfl
        · exact hempty
        · have hunmarked : Unmarked "今日日程" := by decide
          obtain ⟨heading, -, hwritten, -⟩ := exists_heading hunmarked ⟨'今', _, rfl, by decide⟩
            (by decide : 0 < 2) (by decide)
          exact ⟨heading, hwritten⟩
    · split at hline
      · rw [List.mem_singleton.mp hline]
        exact (Unmarked.pieced (by decide)).lined
      · obtain ⟨entry, hentry, rfl⟩ := List.mem_map.mp hline
        exact (hschedule entry ((List.mem_insertionSort _).mp hentry)).lined
  obtain ⟨text, hwritten, hbare⟩ := exists_composed htitle hword hlines
  refine ⟨text, hwritten.trans ?_, hbare⟩
  simp only [String.append_assoc, List.cons_append]

/-- **A plain channel shows the marks of a briefing**, whatever the day holds. -/
theorem briefing_not_plain {briefing : DailyBriefing} {channel : String × String}
    {dayStart dayEnd : DateTime} {anniversaries : List Anniversary}
    {occurrences : List AgendaOccurrence} {reminders : List Reminder} {message : OutboundMessage}
    (h : composeBriefing zones briefing today channel dayStart dayEnd anniversaries occurrences
      reminders = .ok message) (capabilities : ChannelCapabilities) :
    ∃ text : Composed, message.text = text.written ∧ ¬ ReadsPlain text message capabilities := by
  obtain ⟨hkind, text, hwritten, hbare⟩ := composed_of_briefing h
  refine ⟨text, hwritten.symm, fun hreads => hbare ?_⟩
  refine bare_of_readsPlain hwritten.symm ?_ hreads
  rw [hkind]
  decide

/-- The briefing of a day without entries, on a channel that shows text only. -/
theorem emptyBriefing_not_plain : ¬ ∀ (text : Composed) (message : OutboundMessage)
    (capabilities : ChannelCapabilities), message.text = text.written →
      capabilities.outboundText = true → capabilities.markdown = false →
        ReadsPlain text message capabilities := by
  intro h
  have hcomposed : ∃ message, composeBriefing ReminderRepository.shanghai.zones
      { id := "b1", ownerUserId := "alice", creatorUserId := "alice", targetRef := "conversation"
        timeOfDay := { micros := 0, in_day := by decide }, timezone := "Asia/Shanghai" } 739894
      ("telegram", "main") ⟨0, .utc, false⟩ ⟨0, .utc, false⟩ [] [] [] = .ok message := ⟨_, rfl⟩
  obtain ⟨message, hmessage⟩ := hcomposed
  obtain ⟨text, htext, hnot⟩ := briefing_not_plain hmessage { outboundText := true }
  exact hnot (h text message { outboundText := true } htext rfl rfl)

end Briefing

/-! ### The card of a reminder -/

/-- A value that `field` writes with pieces. -/
def Spanned (value : String) : Prop :=
  ∃ pieces : List Piece, pieces.flatMap Piece.written = value.toList.filter (· ≠ '`')

theorem Spanned.append {s t : String} (hs : Spanned s) (ht : Spanned t) : Spanned (s ++ t) := by
  obtain ⟨as, ha⟩ := hs
  obtain ⟨bs, hb⟩ := ht
  refine ⟨as ++ bs, ?_⟩
  rw [List.flatMap_append, ha, hb, String.toList_append, List.filter_append]

theorem spanned_escaped (title : String) : Spanned (escapeMarkdownText title) :=
  ⟨[.spanned (compact title)], by
    unfold escapeMarkdownText
    rw [toList_escapeMarkdown]
    exact List.append_nil _⟩

/-- Unmarked values are words of the program's own. -/
theorem Unmarked.spanned {s : String} (h : Unmarked s) : Spanned s := by
  have hkept : Unmarked (String.ofList (s.toList.filter (· ≠ '`'))) := by
    intro c hc
    rw [String.toList_ofList] at hc
    exact h c (List.mem_of_mem_filter hc)
  obtain ⟨text, htext⟩ := hkept.fixed
  refine ⟨[.fixed text], ?_⟩
  show text.value.toList ++ [] = _
  rw [htext, String.toList_ofList, List.append_nil]

theorem pieced_field {label value : String} (hlabel : Unmarked label) (hvalue : Spanned value) :
    Pieced (field label value) := by
  obtain ⟨pieces, hpieces⟩ := hvalue
  have hspan : Pieced (String.ofList (value.toList.filter (· ≠ '`'))) :=
    ⟨pieces, by rw [hpieces, String.toList_ofList]⟩
  have hclose : Pieced "：** `" := by
    have hparts : Pieced ("：" ++ "**" ++ " `") :=
      ((Unmarked.pieced (by decide)).append pieced_stars).append (Unmarked.pieced (by decide))
    exact hparts
  exact (((pieced_stars.append hlabel.pieced).append hclose).append hspan).append
    (Unmarked.pieced (by decide))

/-- **A card** whose labels are words of the program's own is composed, and not without Markdown. -/
theorem composed_of_card {title : String} (htitle : Unmarked title) (hword : StartsWord title)
    {fields : List (String × String)} (h : ∀ f ∈ fields, Unmarked f.1 ∧ Spanned f.2) :
    ∃ text : Composed, text.written = card title fields ∧ ¬ text.Bare := by
  have hlines : ∀ line ∈ fields.flatMap fun f => ["", field f.1 f.2], Lined line := by
    intro line hline
    obtain ⟨f, hf, hline⟩ := List.mem_flatMap.mp hline
    rcases List.mem_pair.mp hline with rfl | rfl
    · exact Pieced.lined ⟨[], rfl⟩
    · exact (pieced_field (h f hf).1 (h f hf).2).lined
  obtain ⟨text, hwritten, hbare⟩ := exists_composed htitle hword hlines
  exact ⟨text, hwritten, hbare⟩

/-- The card of a reminder. The name of a zone is not escaped: it has to be free of Markdown itself. -/
theorem composed_of_reminderCard {zones : TimeZones} {r : Reminder} {text : String}
    (hzone : Spanned (timezoneOf zones r).2) (h : reminderNotificationText zones r = .ok text) :
    ∃ composed : Composed, composed.written = text ∧ ¬ composed.Bare := by
  have hword : StartsWord "日程提醒" := ⟨'日', _, rfl, by decide⟩
  have htitle : Unmarked "事项" ∧ Spanned (escapeMarkdownText r.title) :=
    ⟨by decide, spanned_escaped _⟩
  unfold reminderNotificationText at h
  obtain ⟨localFireAt, -, h⟩ := bind_eq_ok.mp h
  cases hrelated : r.relatedStartAt with
  | none =>
    rw [hrelated] at h
    obtain rfl := Except.ok.inj h
    refine composed_of_card (by decide) hword fun f hf => ?_
    rcases List.mem_pair.mp hf with rfl | rfl
    · exact htitle
    · have hmoment := ((unmarked_dateText localFireAt).append (by decide : Unmarked " ")).append
        (unmarked_timeText localFireAt)
      have hopen := hmoment.append (by decide : Unmarked "（")
      exact ⟨(by decide : Unmarked "时间"),
        (hopen.spanned.append hzone).append (Unmarked.spanned (by decide))⟩
  | some relatedStartAt =>
    rw [hrelated] at h
    obtain ⟨startsAt, -, h⟩ := bind_eq_ok.mp h
    obtain rfl := Except.ok.inj h
    refine composed_of_card (by decide) hword fun f hf => ?_
    have hmoment : Unmarked (if Wall.ordinal startsAt = Wall.ordinal localFireAt then
        Wall.timeText startsAt else Wall.dateText startsAt ++ " " ++ Wall.timeText startsAt) := by
      split
      · exact unmarked_timeText _
      · exact ((unmarked_dateText _).append (by decide)).append (unmarked_timeText _)
    have htoday : Unmarked
        (if Wall.ordinal startsAt = Wall.ordinal localFireAt then "（今天）" else "") := by
      split <;> decide
    have hopen := (((hmoment.append (by decide : Unmarked " 周")).append
      (unmarked_weekdayName (Wall.weekday startsAt))).append htoday).append
        (by decide : Unmarked "（")
    rcases List.mem_cons.mp hf with rfl | hf
    · exact htitle
    · rcases List.mem_pair.mp hf with rfl | rfl
      · exact ⟨(by decide : Unmarked "开始"), (hopen.spanned.append hzone).append (Unmarked.spanned (by decide))⟩
      · exact ⟨(by decide : Unmarked "距开始"), (unmarked_humaniseGap _).spanned⟩

/-- **A plain channel shows the marks of the card** of a reminder that fires, which is sent as a text. -/
theorem reminderCard_not_plain {zones : TimeZones} {r : Reminder} {message : OutboundMessage}
    (hzone : Spanned (timezoneOf zones r).2)
    (h : reminderNotificationText zones r = .ok message.text) (hkind : message.kind = .text)
    (capabilities : ChannelCapabilities) :
    ∃ text : Composed, message.text = text.written ∧ ¬ ReadsPlain text message capabilities := by
  obtain ⟨text, hwritten, hbare⟩ := composed_of_reminderCard hzone h
  refine ⟨text, hwritten.symm, fun hreads => hbare ?_⟩
  refine bare_of_readsPlain hwritten.symm ?_ hreads
  rw [hkind]
  decide

end Zhixu
