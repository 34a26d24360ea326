import Mathlib.Data.Int.LeastGreatest
import Zhixu.Application.DailyBriefings
import Zhixu.Domain.Recurrences

/-!
# What a briefing says about an important day

`_important_day_lines` looks whether the day recurs today, else whether it is to be announced ahead of
time, and an anniversary has its days counted as well. What a line says is fixed by its text
(`Announces`): the three kinds of line are told apart by how they begin and end, and the one that looks
ahead carries the number of days that remain.

Both results here rest on the search by years of `next_occurrence` (`nextOccurrence_eq_some`).

* For the lunar calendar the search is right, and the line of the day itself is there on exactly the
  right days, as long as no recurrence of today's year has passed with another one ahead, and there is
  one ahead in this year or the next (`recursExactly_iff`). A lunar day can recur twice in a Gregorian
  year, or not at all.
* Nothing in the search looks at the year of the anchor, only the count of days does. So a date before
  the anchor comes up whenever there is one to be found (`neverBefore_iff`).
-/

open Framework

namespace Zhixu

/-! ### Numbers in a text -/

/-- The digits of a number end where the digits end. -/
theorem toString_append_inj {m n : Int} (hm : 0 ≤ m) (hn : 0 ≤ n) {c d : Char} {s t : List Char}
    (hc : c.isDigit = false) (hd : d.isDigit = false)
    (h : (toString m).toList ++ c :: s = (toString n).toList ++ d :: t) :
    m = n ∧ c :: s = d :: t := by
  obtain ⟨m, rfl⟩ := Int.eq_ofNat_of_zero_le hm
  obtain ⟨n, rfl⟩ := Int.eq_ofNat_of_zero_le hn
  have htext : ∀ k : ℕ, (toString (k : Int)).toList = Nat.toDigits 10 k := fun k => Nat.toList_repr
  have htake : ∀ (k : ℕ) (c : Char) (rest : List Char), c.isDigit = false →
      (Nat.toDigits 10 k ++ c :: rest).takeWhile Char.isDigit = Nat.toDigits 10 k := by
    intro k c rest hc
    have hdigits : ∀ c ∈ Nat.toDigits 10 k, c.isDigit = true := fun c hc =>
      Nat.isDigit_of_mem_toDigits (by decide) (by decide) hc
    rw [List.takeWhile_append_of_pos hdigits, List.takeWhile_cons_of_neg (by simp [hc]),
      List.append_nil]
  rw [htext, htext] at h
  have hsame : Nat.toDigits 10 m = Nat.toDigits 10 n := by
    rw [← htake m c s hc, h, htake n d t hd]
  have hvalue : m = n := by
    rw [← Nat.ofDigitChars_ten_toDigits (n := m), hsame, Nat.ofDigitChars_ten_toDigits]
  subst hvalue
  exact ⟨rfl, List.append_cancel_left h⟩

/-! ### The lines -/

/-- What `_important_day_lines` says of the days since the anchor. -/
def elapsedLine (title : String) (number : Int) : String :=
  "今天是 " ++ title ++ "的第 **" ++ toString number ++ "** 天。"

/-- The texts of the lines ahead of the day determine the days that remain. -/
theorem upcomingLine_inj {title : String} {kind : ImportantDayKind} {years years' : Int}
    {date date' : Date} {remaining remaining' : Int} (h0 : 0 ≤ remaining) (h0' : 0 ≤ remaining')
    (h : upcomingLine title kind years date remaining =
      upcomingLine title kind years' date' remaining') : remaining = remaining' := by
  have hlist := congrArg String.toList h
  have hstars : ("** 天（" : String).toList = '*' :: ("* 天（" : String).toList := rfl
  have hyears : (" 周年还有 **" : String).toList = ' ' :: ("周年还有 **" : String).toList := rfl
  -- with years the title is followed by one word, without them by another
  have hwith : (" 的 " : String).toList = ' ' :: '的' :: (" " : String).toList := rfl
  have hwithout : (" 还有 **" : String).toList = ' ' :: '还' :: ("有 **" : String).toList := rfl
  unfold upcomingLine at hlist
  cases kind with
  | birthday =>
    simp only [String.toList_append, List.append_assoc, List.append_cancel_left_eq, hstars,
      List.cons_append] at hlist
    exact (toString_append_inj h0 h0' (by decide) (by decide) hlist).1
  | anniversary =>
    by_cases hpos : 0 < years
    · by_cases hpos' : 0 < years'
      · simp only [if_pos hpos, if_pos hpos', String.toList_append, List.append_assoc,
          List.append_cancel_left_eq, hyears, List.cons_append] at hlist
        obtain ⟨-, hlist⟩ :=
          toString_append_inj hpos.le hpos'.le (by decide) (by decide) hlist
        rw [List.cons.injEq, List.append_cancel_left_eq, hstars] at hlist
        exact (toString_append_inj h0 h0' (by decide) (by decide) hlist.2).1
      · simp only [if_pos hpos, if_neg hpos', String.toList_append, List.append_assoc,
          List.append_cancel_left_eq, hwith, hwithout, List.cons_append, List.cons.injEq] at hlist
        exact absurd hlist.2.1 (by decide)
    · by_cases hpos' : 0 < years'
      · simp only [if_neg hpos, if_pos hpos', String.toList_append, List.append_assoc,
          List.append_cancel_left_eq, hwith, hwithout, List.cons_append, List.cons.injEq] at hlist
        exact absurd hlist.2.1 (by decide)
      · simp only [if_neg hpos, if_neg hpos', String.toList_append, List.append_assoc,
          List.append_cancel_left_eq, hstars, List.cons_append] at hlist
        exact (toString_append_inj h0 h0' (by decide) (by decide) hlist).1

/-- A line ahead of the day ends in a date. -/
theorem upcomingLine_end (title : String) (kind : ImportantDayKind) (years : Int) (date : Date)
    (remaining : Int) : ∃ front : List Char, title.toList.length + 8 ≤ front.length ∧
      (upcomingLine title kind years date remaining).toList = front ++ ['日', '）', '。'] := by
  have hdate : (monthDayText date).toList = (pad2 (Calendar.civil date).2.1).toList ++ '月' ::
      (pad2 (Calendar.civil date).2.2).toList ++ ['日'] := by
    unfold monthDayText
    simp only [String.toList_append]
    rw [show ("月" : String).toList = ['月'] from rfl, show ("日" : String).toList = ['日'] from rfl]
    simp
  have hclose : ("）。" : String).toList = ['）', '。'] := rfl
  have hsplit : ∀ front : List Char, front ++ (monthDayText date).toList ++ ['）', '。'] =
      (front ++ (pad2 (Calendar.civil date).2.1).toList ++ '月' ::
        (pad2 (Calendar.civil date).2.2).toList) ++ ['日', '）', '。'] := by
    intro front
    rw [hdate]
    simp
  unfold upcomingLine
  cases kind with
  | birthday =>
    simp only [String.toList_append, hclose]
    refine ⟨_, ?_, hsplit _⟩
    simp
  | anniversary =>
    by_cases hpos : 0 < years
    · simp only [if_pos hpos, String.toList_append, hclose]
      refine ⟨_, ?_, hsplit _⟩
      simp
      omega
    · simp only [if_neg hpos, String.toList_append, hclose]
      refine ⟨_, ?_, hsplit _⟩
      simp

/-- The line of the day itself is not one ahead of it. -/
theorem arrivedLine_ne_upcomingLine (title : String) (kind : ImportantDayKind) (years years' : Int)
    (date : Date) (remaining : Int) :
    arrivedLine title kind years ≠ upcomingLine title kind years' date remaining := by
  intro h
  obtain ⟨front, hlong, hend⟩ := upcomingLine_end title kind years' date remaining
  rw [← h] at hend
  have hlast := congrArg (fun text => text.reverse.take 3) hend
  unfold arrivedLine at hend hlast
  cases kind with
  | birthday =>
    by_cases hpos : 0 < years
    · simp [hpos] at hlast
    · simp [hpos] at hlast
  | anniversary =>
    by_cases hpos : 0 < years
    · simp [hpos] at hlast
    · -- here the title may end like a date, but then the line is too short
      have hlength := congrArg List.length hend
      simp [hpos] at hlength
      omega

/-- The count of the days is neither of the other two. -/
theorem head_lines (title : String) (kind : ImportantDayKind) (years number remaining : Int)
    (date : Date) : (arrivedLine title kind years).toList.head? ≠ some '今' ∧
      (upcomingLine title kind years date remaining).toList.head? ≠ some '今' ∧
      (elapsedLine title number).toList.head? = some '今' := by
  refine ⟨?_, ?_, ?_⟩
  · unfold arrivedLine
    cases kind with
    | birthday => simp
    | anniversary => by_cases hpos : 0 < years <;> simp [hpos]
  · unfold upcomingLine
    cases kind with
    | birthday => simp
    | anniversary => by_cases hpos : 0 < years <;> simp [hpos]
  · unfold elapsedLine
    simp

/-! ### The lines of a day -/

namespace Anniversary

variable {day : Anniversary}

/-- The line of the day itself. -/
def arrived (day : Anniversary) (today : Int) : String :=
  arrivedLine (escapeMarkdownText day.title) day.kind (day.elapsedYears today)

/-- The line that announces a date. -/
def upcoming (day : Anniversary) (today date : Int) : String :=
  upcomingLine (escapeMarkdownText day.title) day.kind (day.elapsedYears date) date (date - today)

/-- The line with the number of the day. -/
def elapsed (day : Anniversary) (today : Int) : String :=
  elapsedLine (escapeMarkdownText day.title) (day.dayNumber today)

/-- **What a line of a briefing is about**: the day itself, a date that is not past, or the days up to
today. -/
inductive Announces (day : Anniversary) (today : Int) (line : String) : Int → Prop
  | arrived : line = day.arrived today → Announces day today line today
  | upcoming {date : Int} : today ≤ date → line = day.upcoming today date →
      Announces day today line date
  | elapsed : line = day.elapsed today → Announces day today line today

/-- The notice of a date is given out on one of the notice days. -/
theorem advanceNoticeFor_eq_some {today date remaining : Int} :
    day.advanceNoticeFor today = .ok (some (date, remaining)) ↔
      day.nextOccurrence today = .ok (some date) ∧ remaining = date - today ∧
        remaining ∈ day.advanceDays := by
  unfold advanceNoticeFor
  cases day.nextOccurrence today with
  | error e => simp
  | ok next =>
    cases next with
    | none => simp
    | some found =>
      simp only [bind, Except.bind, pure, Except.pure, Option.bind_some, Except.ok.injEq,
        Option.some.injEq]
      by_cases hnotice : (found - today : Int) ∈ day.advanceDays
      · rw [if_pos hnotice, Option.some.injEq, Prod.mk.injEq]
        constructor
        · rintro ⟨rfl, rfl⟩
          exact ⟨rfl, rfl, hnotice⟩
        · rintro ⟨rfl, rfl, -⟩
          exact ⟨rfl, rfl⟩
      · rw [if_neg hnotice]
        refine ⟨fun h => absurd h.symm (Option.some_ne_none _), ?_⟩
        rintro ⟨rfl, rfl, hmem⟩
        exact absurd hmem hnotice

/-- **The lines of a day.** -/
theorem mem_importantDayLines {today : Int} {lines : List String}
    (h : importantDayLines day today = .ok lines) (line : String) : line ∈ lines ↔
      (day.occurrenceIn (yearOfDate today) = .ok (some today) ∧ line = day.arrived today) ∨
      (day.occurrenceIn (yearOfDate today) ≠ .ok (some today) ∧ ∃ date : Int,
        day.nextOccurrence today = .ok (some date) ∧ (date - today) ∈ day.advanceDays ∧
        line = day.upcoming today date) ∨
      (day.countsElapsedDays = true ∧ day.anchorDate.ordinal ≤ today ∧ line = day.elapsed today) := by
  unfold importantDayLines at h
  obtain ⟨first, hfirst, h⟩ := bind_eq_ok.mp h
  have hline : line ∈ lines ↔ line ∈ first ∨
      (day.countsElapsedDays = true ∧ day.anchorDate.ordinal ≤ today ∧
        line = day.elapsed today) := by
    by_cases hcounts : day.countsElapsedDays = true ∧ (day.anchorDate.ordinal : Int) ≤ today
    · rw [if_pos hcounts] at h
      cases h
      rw [List.mem_append, List.mem_singleton, ← and_assoc]
      exact or_congr_right ⟨fun h => ⟨hcounts, h⟩, And.right⟩
    · rw [if_neg hcounts] at h
      cases h
      exact ⟨.inl, fun h => h.elim (fun h => h) fun h => absurd ⟨h.1, h.2.1⟩ hcounts⟩
  rw [hline, ← or_assoc]
  refine or_congr_left ?_
  unfold occurrenceLine at hfirst
  obtain ⟨occurrence, hoccurrence, hfirst⟩ := bind_eq_ok.mp hfirst
  rw [hoccurrence, Except.ok.injEq]
  by_cases htoday : occurrence = some today
  · rw [if_pos htoday] at hfirst
    cases hfirst
    rw [List.mem_singleton]
    exact ⟨fun h => .inl ⟨htoday, h⟩, fun h => h.elim And.right fun h => absurd (congrArg _ htoday) h.1⟩
  · rw [if_neg htoday] at hfirst
    obtain ⟨upcoming, hupcoming, hfirst⟩ := bind_eq_ok.mp hfirst
    cases hfirst
    rw [or_iff_right fun h => htoday h.1]
    constructor
    · intro hline
      rw [Option.mem_toList, Option.map_eq_some_iff] at hline
      obtain ⟨⟨date, remaining⟩, hsome, rfl⟩ := hline
      rw [hsome] at hupcoming
      obtain ⟨hnext, rfl, hnotice⟩ := advanceNoticeFor_eq_some.mp hupcoming
      exact ⟨fun h => htoday (Except.ok.inj h), date, hnext, hnotice, rfl⟩
    · rintro ⟨-, date, hnext, hnotice, rfl⟩
      have hsome := hupcoming.symm.trans (advanceNoticeFor_eq_some.mpr ⟨hnext, rfl, hnotice⟩)
      cases hsome
      exact List.mem_singleton.mpr rfl

theorem arrived_ne_elapsed (today : Int) : day.arrived today ≠ day.elapsed today := by
  intro h
  obtain ⟨hno, -, hyes⟩ := head_lines (escapeMarkdownText day.title) day.kind
    (day.elapsedYears today) (day.dayNumber today) 0 0
  exact hno ((congrArg (fun text => text.toList.head?) h).trans hyes)

theorem upcoming_ne_elapsed (today date : Int) : day.upcoming today date ≠ day.elapsed today := by
  intro h
  obtain ⟨-, hno, hyes⟩ := head_lines (escapeMarkdownText day.title) day.kind
    (day.elapsedYears date) (day.dayNumber today) (date - today) date
  exact hno ((congrArg (fun text => text.toList.head?) h).trans hyes)

theorem arrived_ne_upcoming (today date : Int) : day.arrived today ≠ day.upcoming today date :=
  arrivedLine_ne_upcomingLine _ _ _ _ _ _

/-- The line of the day itself is there if the day is the candidate of its year. -/
theorem arrived_mem_iff {today : Int} {lines : List String}
    (h : importantDayLines day today = .ok lines) :
    day.arrived today ∈ lines ↔ day.occurrenceIn (yearOfDate today) = .ok (some today) := by
  rw [mem_importantDayLines h]
  constructor
  · rintro (⟨hoccurrence, -⟩ | ⟨-, date, -, -, hsame⟩ | ⟨-, -, hsame⟩)
    · exact hoccurrence
    · exact absurd hsame (arrived_ne_upcoming today date)
    · exact absurd hsame (arrived_ne_elapsed today)
  · exact fun hoccurrence => .inl ⟨hoccurrence, rfl⟩

/-! ### A lunar day -/

/-- **The recurrence is exact**: the next occurrence is the least of the dates from today on, and the
briefing has the line of the day itself exactly on them. -/
structure RecursExactly (day : Anniversary) (today : Int) : Prop where
  next : ∃ date : Int, IsLeast {date | day.RecursOn date ∧ today ≤ date} date ∧
    day.nextOccurrence today = .ok (some date)
  arrived : ∃ lines, importantDayLines day today = .ok lines ∧
    (day.arrived today ∈ lines ↔ day.RecursOn today)

/-- The dates around today are in lunar years that are installed. -/
structure InstalledAround (day : Anniversary) (today : Int) : Prop where
  begun : ∃ entry ∈ lunarYears, entry.2.firstDay ≤ today
  ahead : ∃ date : Int, day.RecursOn date ∧ today ≤ date

theorem exists_importantDayLines (hcalendar : day.calendar = .lunar)
    (hcheck : day.checkCalendar = .ok ()) (today : Int) :
    ∃ lines, importantDayLines day today = .ok lines := by
  obtain ⟨occurrence, hoccurrence⟩ := exists_occurrenceIn hcalendar hcheck (yearOfDate today)
  obtain ⟨next, hnext⟩ := exists_nextOccurrence hcalendar hcheck today
  have hnotice : ∃ notice, day.advanceNoticeFor today = .ok notice := by
    unfold advanceNoticeFor
    rw [hnext]
    exact ⟨_, rfl⟩
  obtain ⟨notice, hnotice⟩ := hnotice
  unfold importantDayLines occurrenceLine
  rw [hoccurrence]
  simp only [bind, Except.bind, hnotice]
  by_cases htoday : occurrence = some today
  · rw [if_pos htoday]
    split_ifs <;> exact ⟨_, rfl⟩
  · rw [if_neg htoday]
    split_ifs <;> exact ⟨_, rfl⟩

/-- **A lunar day recurs exactly** if the dates of today's year pass together, and there is one ahead
in this year or the next. -/
theorem recursExactly_iff (day : Anniversary) (hcalendar : day.calendar = .lunar)
    (hcheck : day.checkCalendar = .ok ()) (today : CalendarDate)
    (hinstalled : day.InstalledAround today.ordinal) : day.RecursExactly today.ordinal ↔
      PassTogether day.dates yearOfDate (today.ordinal : Int) ∧
        ComesSoon day.dates yearOfDate (today.ordinal : Int) := by
  obtain ⟨lines, hlines⟩ := exists_importantDayLines hcalendar hcheck today.ordinal
  have hleast : ∃ date : Int, IsLeast {date | day.RecursOn date ∧ today.ordinal ≤ date} date := by
    obtain ⟨date, hdate, hmin⟩ := Int.exists_least_of_bdd
      (P := fun date => day.RecursOn date ∧ today.ordinal ≤ date) ⟨today.ordinal, fun _ h => h.2⟩
      hinstalled.ahead
    exact ⟨date, hdate, fun date' h => hmin date' h⟩
  have hsearch := @foundBy_isLeast_iff Int _ day.dates yearOfDate today.ordinal yearOfDate_mono
  simp only [← nextOccurrence_eq_some hcheck today.exists_in_calendar] at hsearch
  constructor
  · intro h
    exact (hsearch.mp h.next).2
  · intro h
    refine ⟨hsearch.mpr ⟨hleast, h⟩, lines, hlines, ?_⟩
    rw [arrived_mem_iff hlines, occurrenceIn_eq_some hcheck]
    exact h.1.firstIn_iff

theorem exists_newYear : Calendar.InCalendar (Calendar.toOrdinal 2020 1 25) := by decide

/-- A lunar day since 2020. -/
def onLunarDate (month dayOfMonth : Int) : Anniversary where
  id := "anniversary_1"
  ownerUserId := "user_1"
  creatorUserId := "user_1"
  title := "纪念日"
  anchorDate := ⟨Calendar.toOrdinal 2020 1 25, exists_newYear⟩
  timezone := "Asia/Shanghai"
  calendar := .lunar
  lunarMonth := some month
  lunarDay := some dayOfMonth

/-- On 1 September 2026 the fifteenth of the eighth month is ahead. -/
theorem midAutumn_recurs :
    (onLunarDate 8 15).RecursExactly (Calendar.toOrdinal 2026 9 1) := by
  have hfirst : FirstIn (onLunarDate 8 15).dates yearOfDate 2026 (Calendar.toOrdinal 2026 9 25) :=
    (occurrenceIn_eq_some (by decide) 2026 _).mp (by decide +kernel)
  have hyear : yearOfDate (Calendar.toOrdinal 2026 9 1) = 2026 := by decide
  refine (recursExactly_iff (onLunarDate 8 15) (by decide) (by decide)
    ⟨Calendar.toOrdinal 2026 9 1, by decide⟩ ⟨?_, ?_⟩).mpr ⟨?_, ?_⟩
  · exact ⟨(2026, _), List.mem_of_getElem? (i := 26) rfl, by decide⟩
  · exact ⟨_, hfirst.1.1, by decide⟩
  · intro date hdate _ _ hin _ hpassed
    have hlow : Calendar.toOrdinal 2026 9 25 ≤ date := hfirst.2 ⟨hdate, hin.trans hyear⟩
    exact absurd (hlow.trans_lt hpassed) (by decide)
  · exact ⟨_, hfirst.1.1, by decide, by rw [hfirst.1.2]; decide⟩

/-- The first of the twelfth month is on 8 January 2027 and on 28 December 2027. In June of that year
the second one is not found. -/
theorem twelfthMonth_missed : ¬ ∀ (day : Anniversary), day.calendar = .lunar →
    day.checkCalendar = .ok () → ∀ today : CalendarDate, day.InstalledAround today.ordinal →
    day.RecursExactly today.ordinal := by
  intro hall
  have hfirst : ∃ year, RecursIn 12 1 false year (Calendar.toOrdinal 2027 12 28) :=
    ⟨2027, (lunarOccurrence_eq_some (by decide) 2027 false _).mp (by decide +kernel)⟩
  have hexact := hall (onLunarDate 12 1) (by decide) (by decide)
    ⟨Calendar.toOrdinal 2027 6 1, by decide⟩
    ⟨⟨(2027, _), List.mem_of_getElem? (i := 27) rfl, by decide⟩,
      ⟨_, ⟨12, 1, rfl, rfl, hfirst⟩, by decide⟩⟩
  obtain ⟨date, -, hnext⟩ := hexact.next
  have hnone : (onLunarDate 12 1).nextOccurrence (Calendar.toOrdinal 2027 6 1) = .ok none := by
    decide +kernel
  rw [hnone] at hnext
  cases hnext

/-! ### Before the anchor -/

/-- **Nothing happens before the anchor**: no date before it is the occurrence of the year, the next
one from today, or given notice of, and no line of the briefing is about one. -/
structure NeverBefore (day : Anniversary) (today year : Int) : Prop where
  occurrence : ∀ date : Int, day.occurrenceIn year = .ok (some date) →
    (day.anchorDate.ordinal : Int) ≤ date
  next : ∀ date : Int, day.nextOccurrence today = .ok (some date) →
    (day.anchorDate.ordinal : Int) ≤ date
  notice : ∀ date remaining : Int, day.advanceNoticeFor today = .ok (some (date, remaining)) →
    (day.anchorDate.ordinal : Int) ≤ date
  briefing : ∀ lines, importantDayLines day today = .ok lines → ∀ line ∈ lines, ∀ date : Int,
    day.Announces today line date → (day.anchorDate.ordinal : Int) ≤ date

/-- The dates of a year are not before the anchor. -/
def YearAfterAnchor (day : Anniversary) (year : Int) : Prop :=
  ∀ date ∈ day.dates, yearOfDate date = year → (day.anchorDate.ordinal : Int) ≤ date

/-- The first date of today's year is not before the anchor, unless it is past. -/
def FirstAfterAnchor (day : Anniversary) (today : Int) : Prop :=
  ∀ date : Int, FirstIn day.dates yearOfDate (yearOfDate today) date → today ≤ date →
    (day.anchorDate.ordinal : Int) ≤ date

/-- A year with a date has a first one. -/
theorem exists_firstIn {date : Int} (h : date ∈ day.dates) :
    ∃ first : Int, FirstIn day.dates yearOfDate (yearOfDate date) first ∧ first ≤ date := by
  have hbound : ∀ e : Int, e ∈ day.dates ∧ yearOfDate e = yearOfDate date →
      Calendar.daysBeforeYear (yearOfDate date) ≤ e := by
    rintro e ⟨-, hyear⟩
    have hin := (Calendar.ordinal_in_year (Calendar.fits_civil e)).1
    rw [Calendar.ordinal_civil] at hin
    rw [← hyear]
    exact hin.le
  obtain ⟨first, hfirst, hmin⟩ := Int.exists_least_of_bdd ⟨_, hbound⟩ ⟨date, h, rfl⟩
  exact ⟨first, ⟨hfirst, fun e he => hmin e he⟩, hmin date ⟨h, rfl⟩⟩

theorem yearAfterAnchor_iff (hcheck : day.checkCalendar = .ok ()) (year : Int) :
    day.YearAfterAnchor year ↔ ∀ date : Int, day.occurrenceIn year = .ok (some date) →
      (day.anchorDate.ordinal : Int) ≤ date := by
  simp only [occurrenceIn_eq_some hcheck]
  constructor
  · exact fun h date hfirst => h date hfirst.1.1 hfirst.1.2
  · intro h date hdate hyear
    obtain ⟨first, hfirst, hle⟩ := exists_firstIn hdate
    rw [hyear] at hfirst
    exact (h first hfirst).trans hle

/-- The dates of a solar day in a year are not before the anchor from the year of the anchor on. -/
theorem yearAfterAnchor_solar (hcalendar : day.calendar = .solar) {year : Int}
    (hyear : 1 ≤ year ∧ year ≤ 9999) :
    day.YearAfterAnchor year ↔ yearOfDate day.anchorDate.ordinal ≤ year := by
  have hanchor := Calendar.fits_civil day.anchorDate.ordinal
  have hself := Calendar.ordinal_civil day.anchorDate.ordinal
  have hlast := Calendar.daysInMonth_bounds year (Calendar.civil day.anchorDate.ordinal).2.1
  -- the one date of the year
  obtain ⟨date, hrecurs⟩ : ∃ date, SolarRecursIn day.anchorDate.ordinal year date := by
    refine ⟨_, ⟨hyear.1, hyear.2, by decide, by decide, by decide, ?_⟩, rfl⟩
    exact (Calendar.daysInMonth_bounds year 1).1.trans' (by decide)
  have hin := year_of_solarRecursIn day.anchorDate.exists_in_calendar hrecurs
  have honly : day.YearAfterAnchor year ↔ (day.anchorDate.ordinal : Int) ≤ date := by
    unfold YearAfterAnchor
    rw [dates_solar hcalendar]
    constructor
    · exact fun h => h date ⟨year, hrecurs⟩ hin
    · rintro h date' ⟨year', hrecurs'⟩ hyear'
      rw [year_of_solarRecursIn day.anchorDate.exists_in_calendar hrecurs'] at hyear'
      subst hyear'
      exact h.trans (hrecurs.unique hrecurs').le
  rw [honly]
  constructor
  · intro h
    have hmono := yearOfDate_mono h
    simp only [hin] at hmono
    exact hmono
  · intro h
    obtain ⟨-, rfl⟩ := hrecurs
    rcases Int.lt_or_eq_of_le h with hlt | heq
    · -- a later year
      have hfits : Calendar.Fits year (Calendar.civil day.anchorDate.ordinal).2.1
          (min (Calendar.civil day.anchorDate.ordinal).2.2
            (Calendar.daysInMonth year (Calendar.civil day.anchorDate.ordinal).2.1)) :=
        ⟨hanchor.1, le_min hanchor.2.1 (by omega), min_le_right _ _⟩
      have hlater := Calendar.ordinal_lt_of_month hanchor hfits (.inl hlt)
      rw [hself] at hlater
      exact hlater.le
    · -- the year of the anchor, which has the anchor
      have hday := hanchor.2.2
      unfold yearOfDate at heq
      rw [heq] at hday hself
      rw [min_eq_left hday, hself]

/-- What is found from today on is not before the anchor. -/
theorem next_afterAnchor_iff (hcheck : day.checkCalendar = .ok ()) {today : Int}
    (htoday : Calendar.InCalendar today) :
    (∀ date : Int, day.nextOccurrence today = .ok (some date) →
      (day.anchorDate.ordinal : Int) ≤ date) ↔
    day.FirstAfterAnchor today ∧ day.YearAfterAnchor (yearOfDate today + 1) := by
  simp only [nextOccurrence_eq_some hcheck htoday, yearAfterAnchor_iff hcheck,
    occurrenceIn_eq_some hcheck]
  constructor
  · intro h
    have hthis : day.FirstAfterAnchor today := fun date hfirst hle => h date (.inl ⟨hfirst, hle⟩)
    refine ⟨hthis, fun date hfirst => ?_⟩
    have hahead : today < date := by
      by_contra hle
      have hmono := yearOfDate_mono (not_lt.mp hle)
      simp only [hfirst.1.2] at hmono
      exact absurd hmono (not_le.mpr (Int.lt_succ _))
    by_cases hcandidate : ∃ e : Int, FirstIn day.dates yearOfDate (yearOfDate today) e ∧ today ≤ e
    · -- the candidate of this year comes even before
      obtain ⟨e, he, hle⟩ := hcandidate
      have hearlier : e < date := by
        by_contra hge
        have hmono := yearOfDate_mono (not_lt.mp hge)
        simp only [hfirst.1.2, he.1.2] at hmono
        exact absurd hmono (not_le.mpr (Int.lt_succ _))
      exact (hthis e he hle).trans hearlier.le
    · exact h date (.inr ⟨fun e he hle => hcandidate ⟨e, he, hle⟩, hfirst, hahead.le⟩)
  · rintro ⟨hthis, hafter⟩ date (⟨hfirst, hle⟩ | ⟨-, hfirst, -⟩)
    · exact hthis date hfirst hle
    · exact hafter date hfirst

/-- **Nothing happens before the anchor** exactly if the dates of the year are not before it, nor
those of the year after today's, nor the first date of today's year while it is ahead. -/
theorem neverBefore_iff (day : Anniversary) (hcheck : day.checkCalendar = .ok ())
    (today : CalendarDate) (year : Int) : day.NeverBefore today.ordinal year ↔
      day.YearAfterAnchor year ∧ day.FirstAfterAnchor today.ordinal ∧
        day.YearAfterAnchor (yearOfDate today.ordinal + 1) := by
  rw [yearAfterAnchor_iff hcheck, ← next_afterAnchor_iff hcheck today.exists_in_calendar]
  constructor
  · exact fun h => ⟨h.occurrence, h.next⟩
  · rintro ⟨hoccurrence, hnext⟩
    refine ⟨hoccurrence, hnext, fun date remaining h => ?_, fun lines hlines line hline date h => ?_⟩
    · exact hnext date (advanceNoticeFor_eq_some.mp h).1
    · -- a line of one kind is not one of another
      rcases (mem_importantDayLines hlines line).mp hline with
        ⟨htoday, rfl⟩ | ⟨-, found, hfound, -, rfl⟩ | ⟨-, hpast, rfl⟩
      · have hfirst := (occurrenceIn_eq_some hcheck _ _).mp htoday
        have hafter := hnext _
          ((nextOccurrence_eq_some hcheck today.exists_in_calendar _).mpr (.inl ⟨hfirst, le_refl _⟩))
        cases h with
        | arrived hsame => exact hafter
        | upcoming hle hsame => exact absurd hsame (arrived_ne_upcoming _ _)
        | elapsed hsame => exact hafter
      · cases h with
        | arrived hsame => exact absurd hsame.symm (arrived_ne_upcoming _ _)
        | upcoming hle hsame =>
          have hahead := (nextOccurrence_eq_some hcheck today.exists_in_calendar _).mp hfound
          have hle' : (today.ordinal : Int) ≤ found := hahead.elim And.right fun h => h.2.2
          have hsub := upcomingLine_inj (Int.sub_nonneg_of_le hle') (Int.sub_nonneg_of_le hle) hsame
          rw [← show found = date by omega]
          exact hnext found hfound
        | elapsed hsame => exact absurd hsame (upcoming_ne_elapsed _ _)
      · cases h with
        | arrived hsame => exact hpast
        | upcoming hle hsame => exact absurd hsame.symm (upcoming_ne_elapsed _ _)
        | elapsed hsame => exact hpast

/-- A solar day since the new year of 2020, announced a week ahead. -/
def onSolarDate : Anniversary where
  id := "anniversary_2"
  ownerUserId := "user_1"
  creatorUserId := "user_1"
  title := "纪念日"
  anchorDate := ⟨Calendar.toOrdinal 2020 1 25, exists_newYear⟩
  timezone := "Asia/Shanghai"
  advanceDays := [7]

/-- In 2026 the day has happened. -/
theorem onSolarDate_neverBefore : onSolarDate.NeverBefore (Calendar.toOrdinal 2026 9 1) 2026 := by
  have hthis : ∀ year : Int, 2020 ≤ year ∧ year ≤ 9999 → onSolarDate.YearAfterAnchor year := by
    intro year hyear
    refine (yearAfterAnchor_solar rfl ⟨by omega, hyear.2⟩).mpr ?_
    rw [show yearOfDate onSolarDate.anchorDate.ordinal = 2020 by decide]
    exact hyear.1
  have hyear : yearOfDate (Calendar.toOrdinal 2026 9 1) = 2026 := by decide
  refine (neverBefore_iff onSolarDate (by decide) ⟨Calendar.toOrdinal 2026 9 1, by decide⟩ 2026).mpr
    ⟨hthis 2026 (by decide), fun date hfirst _ => ?_, ?_⟩
  · exact hthis 2026 (by decide) date hfirst.1.1 (hfirst.1.2.trans hyear)
  · rw [show yearOfDate (Calendar.toOrdinal 2026 9 1) + 1 = 2027 by decide]
    exact hthis 2027 (by decide)

/-- In 2019 it has not, and it is announced all the same. -/
theorem announced_before : ¬ ∀ (day : Anniversary), day.checkCalendar = .ok () →
    unknownYear < yearOfDate day.anchorDate.ordinal → ∀ (today : CalendarDate) (year : Int),
    day.NeverBefore today.ordinal year := by
  intro hall
  have hbefore := hall onSolarDate (by decide) (by decide)
    ⟨Calendar.toOrdinal 2019 1 18, by decide⟩ 2019
  exact absurd (hbefore.notice (Calendar.toOrdinal 2019 1 25) 7 (by decide +kernel)) (by decide)

end Anniversary

end Zhixu
