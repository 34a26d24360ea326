import Zhixu.Domain.Expansion

/-!
# The expansion of business-day rules

A rule of business days is checked for its syntax only when an item is stored. The expansion walks
month by month from the window's start back by the length of the item to the window's end, and asks
each month for the day of the position. So one rule whose position some month lacks, or one window
that reaches into a year whose holidays are not installed, makes the expansion raise. `expands_iff`
says exactly when it returns.

Where it does return, the question is whether the walk is long enough. On a clock that keeps its
offset a later reading is a later instant, and what overlaps the window has started in a month that
is walked through, up to its last (`monthNumber_le_last`). At the other end the length of the item
is subtracted on the clock of the *window*. If that clock has been set forward meanwhile the result
is an hour late, and an occurrence that began in that hour of another month is lost. Nothing else is
(`expandsExactly_iff`), and nothing is where the clock has not been set forward
(`noneEarlier_of_offset`).
-/

open Framework

namespace Zhixu

variable {engine : RecurrenceEngine} {zones : TimeZones} {item : AgendaItem}
  {exceptions : List RecurrenceException} {windowStart windowEnd start : DateTime}

/-! ### Every rule of business days can be expanded, or not -/

/-- **An expansion of a business-day rule** is one comprehension over the months of the walk and
another over the starts that it has found. -/
theorem expansion_eq_ok {recurrence : RecurrenceRule} {rule : BusinessDayRule}
    {found : List AgendaOccurrence} (hrecurrence : item.recurrence = some recurrence)
    (hrule : parseBusinessDayRule recurrence.value = some rule)
    (hwindow : windowStart.lt engine.zones windowEnd = true) :
    occurrencesBetween engine item windowStart windowEnd exceptions = .ok found ↔
      ∃ localStart localFirst localLast starts,
        Span engine.zones item windowStart windowEnd localStart localFirst localLast ∧
        collect (monthStart engine.zones rule item localStart) (walk localFirst localLast) =
          .ok starts ∧
        collect (effective engine.zones item (item.duration engine.zones) windowStart windowEnd
          exceptions) starts = .ok found := by
  have hcandidates : candidateStarts engine item (item.duration engine.zones) windowStart windowEnd =
      businessStarts engine.zones rule item (item.duration engine.zones) windowStart windowEnd := by
    unfold candidateStarts
    rw [hrecurrence]
    simp only
    rw [hrule]
  rw [occurrencesBetween_eq_ok, hcandidates, and_iff_right hwindow]
  constructor
  · rintro ⟨starts, hstarts, hfound⟩
    obtain ⟨localStart, localFirst, localLast, hspan, hwalk⟩ := businessStarts_eq_ok.mp hstarts
    exact ⟨localStart, localFirst, localLast, starts, hspan, hwalk, hfound⟩
  · rintro ⟨localStart, localFirst, localLast, starts, hspan, hwalk, hfound⟩
    exact ⟨starts, businessStarts_eq_ok.mpr ⟨localStart, localFirst, localLast, hspan, hwalk⟩, hfound⟩

/-- The ends of every start that the walk finds exist. -/
def EndsExist (zones : TimeZones) (item : AgendaItem) (rule : BusinessDayRule)
    (localStart localFirst localLast : DateTime) : Prop :=
  ∀ year month day start, Walked localFirst localLast year month →
    rule.Starts zones item localStart year month day start →
    Instant.InRange (start.wall + item.duration zones)

/-- **An item of a business-day rule can be expanded over a window**: every month of the walk is one
of an installed year and has the position, and no datetime on the way is out of range. -/
def Expandable (zones : TimeZones) (item : AgendaItem) (rule : BusinessDayRule)
    (windowStart windowEnd : DateTime) : Prop :=
  ∃ localStart localFirst localLast,
    Span zones item windowStart windowEnd localStart localFirst localLast ∧
      PositionsExist rule localFirst localLast ∧
      EndsExist zones item rule localStart localFirst localLast

/-- The loop over the starts goes through if their ends exist. -/
theorem starts_return {rule : BusinessDayRule} {localStart localFirst localLast : DateTime}
    {starts : List DateTime} (hexceptions : ∀ e ∈ exceptions, e.checked zones = .ok e)
    (hwalk : collect (monthStart zones rule item localStart) (walk localFirst localLast) =
      .ok starts) :
    (∃ found, collect (effective zones item (item.duration zones) windowStart windowEnd exceptions)
      starts = .ok found) ↔ EndsExist zones item rule localStart localFirst localLast := by
  rw [collect_returns]
  constructor
  · intro h year month day start hwalked hstarts
    exact (effective_returns hexceptions).mp
      (h start ((mem_starts hwalk).mpr ⟨year, month, day, hwalked, hstarts⟩))
  · intro h start hstart
    obtain ⟨year, month, day, hwalked, hstarts⟩ := (mem_starts hwalk).mp hstart
    exact (effective_returns hexceptions).mpr (h year month day start hwalked hstarts)

/-- **One rule fails every listing.** The expansion of a business-day rule returns if and only if all
months it walks through have the position and an installed year. -/
theorem expands_iff (engine : RecurrenceEngine) (item : AgendaItem) (recurrence : RecurrenceRule)
    (rule : BusinessDayRule) (exceptions : List RecurrenceException)
    (windowStart windowEnd : DateTime) (hrecurrence : item.recurrence = some recurrence)
    (hrule : parseBusinessDayRule recurrence.value = some rule)
    (hexceptions : ∀ e ∈ exceptions, e.checked engine.zones = .ok e)
    (hwindow : windowStart.lt engine.zones windowEnd = true) :
    (∃ found, occurrencesBetween engine item windowStart windowEnd exceptions = .ok found) ↔
      Expandable engine.zones item rule windowStart windowEnd := by
  constructor
  · rintro ⟨found, h⟩
    obtain ⟨localStart, localFirst, localLast, starts, hspan, hwalk, hfound⟩ :=
      (expansion_eq_ok hrecurrence hrule hwindow).mp h
    exact ⟨localStart, localFirst, localLast, hspan, walk_returns.mp ⟨starts, hwalk⟩,
      (starts_return hexceptions hwalk).mp ⟨found, hfound⟩⟩
  · rintro ⟨localStart, localFirst, localLast, hspan, hpositions, hends⟩
    obtain ⟨starts, hwalk⟩ := walk_returns.mpr hpositions
    obtain ⟨found, hfound⟩ := (starts_return hexceptions hwalk).mpr hends
    exact ⟨found, (expansion_eq_ok hrecurrence hrule hwindow).mpr
      ⟨localStart, localFirst, localLast, starts, hspan, hwalk, hfound⟩⟩

/-! The clocks of Greenwich and of London, which is an hour ahead in the summer of 2025, and an item
of half an hour on a business day. -/

/-- An hour ahead from 30 March to 26 October 2025. -/
def summerTime (key : String) (t : Int) : Int :=
  if key = "Europe/London" ∧ Wall.midnight (Calendar.toOrdinal 2025 3 30) + Duration.minutes 60 ≤ t ∧
      t < Wall.midnight (Calendar.toOrdinal 2025 10 26) + Duration.minutes 60 then
    Duration.minutes 60
  else 0

def london : RecurrenceEngine where
  zones := {
    lookup := fun key => if key = "UTC" ∨ key = "Europe/London" then .found else .missing
    utcoffset := fun key wall _ => summerTime key wall
    fromutc := fun key t => (t + summerTime key t, false) }
  systemNow := 0
  rrulestr _ _ := .error .value

/-- A reading on the clock of a zone. -/
def reading (zone : String) (year month day minute : Int) : DateTime :=
  { wall := Wall.midnight (Calendar.toOrdinal year month day) + Duration.minutes minute
    zone := .named zone }

/-- A business day of Hong Kong. -/
def onBusinessDay (position : String) : RecurrenceRule :=
  { value := "X-BUSINESS-DAY;CALENDAR=HK_GENERAL_HOLIDAYS;BYSETPOS=" ++ position, timezone := "UTC" }

/-- An item at half past eleven in the evening, for a number of days. -/
def review (position : String) (days : Int) : AgendaItem where
  id := "review"
  ownerUserId := "alice"
  title := "Review"
  startAt := reading "UTC" 2025 1 2 1410
  endAt := reading "UTC" 2025 1 2 (1410 + days * 1440)
  timezone := "UTC"
  recurrence := some (onBusinessDay position)

theorem greenwich : london.zones.ConstantOffset "UTC" 0 := by
  have hwinter : ∀ t, summerTime "UTC" t = 0 := fun t => if_neg fun h => absurd h.1 (by decide)
  refine ⟨fun wall _ => hwinter wall, fun t => ?_⟩
  show (t + summerTime "UTC" t, false) = (t + 0, false)
  rw [hwinter]

theorem expands_first :
    (∃ found, occurrencesBetween london (review "1" 1) (reading "UTC" 2026 1 1 0)
      (reading "UTC" 2026 2 1 0) [] = .ok found) ↔
    Expandable london.zones (review "1" 1) ⟨hongKong, 1⟩ (reading "UTC" 2026 1 1 0)
      (reading "UTC" 2026 2 1 0) :=
  expands_iff london (review "1" 1) (onBusinessDay "1") ⟨hongKong, 1⟩ [] (reading "UTC" 2026 1 1 0)
    (reading "UTC" 2026 2 1 0) rfl (by decide +kernel) (fun e he => absurd he List.not_mem_nil)
    (by decide +kernel)

/-- **No month has a twenty-fifth business day**, but a rule may ask for it. -/
theorem twentyFifth_raises :
    ¬ ∀ (engine : RecurrenceEngine) (item : AgendaItem) (recurrence : RecurrenceRule)
      (rule : BusinessDayRule) (windowStart windowEnd : DateTime),
      item.validate engine.zones = .ok () →
      RecurrenceRule.checked engine recurrence.value recurrence.timezone = .ok recurrence →
      item.recurrence = some recurrence → parseBusinessDayRule recurrence.value = some rule →
      windowStart.lt engine.zones windowEnd = true →
      ∃ found, occurrencesBetween engine item windowStart windowEnd [] = .ok found := by
  intro h
  obtain ⟨found, hfound⟩ := h london (review "25" 1) (onBusinessDay "25") ⟨hongKong, 25⟩
    (reading "UTC" 2026 1 1 0) (reading "UTC" 2026 2 1 0) (by decide +kernel) (by decide +kernel) rfl
    (by decide +kernel) (by decide +kernel)
  have hraises : occurrencesBetween london (review "25" 1) (reading "UTC" 2026 1 1 0)
      (reading "UTC" 2026 2 1 0) [] =
        .error (.validation "business-day position is outside the month") := by decide +kernel
  rw [hraises] at hfound
  cases hfound

/-! ### The expansion of a business-day rule -/

/-- **An expansion is exact**: it returns, in order, what takes place in the window of the starts of
the rule. -/
def ExpandsExactly (engine : RecurrenceEngine) (item : AgendaItem) (rule : BusinessDayRule)
    (windowStart windowEnd : DateTime) : Prop :=
  ∃ found, occurrencesBetween engine item windowStart windowEnd [] = .ok found ∧
    found.Pairwise (fun a b => a.startAt.lt engine.zones b.startAt = true) ∧
    ∀ occurrence, occurrence ∈ found ↔ ∃ start, rule.Yields engine.zones item start ∧
      TakesPlace engine.zones item [] start occurrence ∧
      occurrence.Overlaps engine.zones windowStart windowEnd

/-- No start in a month before the walk is still going on in the window. -/
def NoneEarlier (zones : TimeZones) (item : AgendaItem) (rule : BusinessDayRule)
    (windowStart windowEnd localStart localFirst : DateTime) : Prop :=
  ∀ year month day start occurrence, rule.Starts zones item localStart year month day start →
    TakesPlace zones item [] start occurrence → occurrence.Overlaps zones windowStart windowEnd →
    localFirst.monthNumber ≤ monthNumber year month

section Constant

variable {offset : Int} {rule : BusinessDayRule} {localStart localFirst localLast : DateTime}

theorem instant_named (hzone : zones.ConstantOffset item.timezone offset) {dt : DateTime}
    (h : dt.zone = .named item.timezone) : dt.instant zones = dt.wall - offset := by
  unfold DateTime.instant DateTime.utcoffset
  rw [h]
  simp only
  rw [hzone.utcoffset]

/-- A datetime on the clock of the item. -/
theorem astimezone_ok (hzone : zones.ConstantOffset item.timezone offset) {dt converted : DateTime}
    (h : dt.astimezone zones item.timezone = .ok converted) :
    converted.zone = .named item.timezone ∧ converted.wall = dt.instant zones + offset := by
  unfold DateTime.astimezone at h
  split at h
  · rename_i hsame
    obtain rfl := Except.ok.inj h
    rw [instant_named hzone hsame]
    exact ⟨hsame, (sub_add_cancel _ _).symm⟩
  · obtain ⟨t, ht, h⟩ := bind_eq_ok.mp h
    obtain rfl := (Except.ok.inj (raiseIf_bind_ok.mp ht).2)
    obtain rfl := (Except.ok.inj (raiseIf_bind_ok.mp h).2)
    rw [hzone.fromutc]
    exact ⟨rfl, rfl⟩

/-- On the clock of the item, what is compared are the instants. -/
theorem lt_iff_instant (hzone : zones.ConstantOffset item.timezone offset) {a b : DateTime}
    (h : a.zone = .named item.timezone ∨ b.zone = .named item.timezone) :
    a.lt zones b = true ↔ a.instant zones < b.instant zones := by
  unfold DateTime.lt
  split
  · rename_i hsame
    have ha : a.zone = .named item.timezone := h.elim id fun hb => hsame.trans hb
    rw [decide_eq_true_eq, instant_named hzone ha, instant_named hzone (hsame.symm.trans ha)]
    exact Int.sub_lt_sub_right_iff.symm
  · rw [decide_eq_true_eq]

/-- **The walk starts early enough** where the clock of the window is not set forward meanwhile: the
subtraction of the length is done on that clock. -/
theorem noneEarlier_of_offset (hzone : zones.ConstantOffset item.timezone offset)
    (hspan : Span zones item windowStart windowEnd localStart localFirst localLast)
    (hclock : ∀ lookBack, windowStart.plus (-item.duration zones) = .ok lookBack →
      windowStart.utcoffset zones ≤ lookBack.utcoffset zones) :
    NoneEarlier zones item rule windowStart windowEnd localStart localFirst := by
  intro year month day start occurrence hstarts hplace hoverlaps
  obtain ⟨lookBack, hback, hfirst⟩ := hspan.first
  have hoffsets := hclock lookBack hback
  obtain rfl := Except.ok.inj (raiseIf_bind_ok.mp hback).2
  have hlocal := (astimezone_ok hzone hfirst).2
  have hnamed : start.zone = .named item.timezone :=
    hstarts.zone.trans (astimezone_ok hzone hspan.start).1
  rw [← hstarts.monthNumber]
  refine Wall.monthNumber_mono ?_
  cases hplace with
  | kept endAt hunexcepted hend =>
    have hlength := Except.ok.inj (raiseIf_bind_ok.mp hend).2
    have hendNamed : endAt.zone = .named item.timezone := by
      rw [← hlength]
      exact hnamed
    have hended := (lt_iff_instant hzone (.inr hendNamed)).mp hoverlaps.1
    rw [instant_named hzone hendNamed, ← hlength] at hended
    rw [hlocal]
    -- the length is taken off the reading, and the offset off the result
    have hback : DateTime.instant zones
        { wall := windowStart.wall + -item.duration zones, zone := windowStart.zone } ≤
          windowStart.instant zones - item.duration zones := by
      unfold DateTime.instant
      simp only
      omega
    simp only at hended
    omega
  | replaced exception _ _ hexcepted => cases hexcepted

/-- What takes place in the window has started by the end of the walk. -/
theorem monthNumber_le_last (hzone : zones.ConstantOffset item.timezone offset)
    (hspan : Span zones item windowStart windowEnd localStart localFirst localLast)
    {year month day : Int} {occurrence : AgendaOccurrence}
    (hstarts : rule.Starts zones item localStart year month day start)
    (hplace : TakesPlace zones item [] start occurrence)
    (hoverlaps : occurrence.Overlaps zones windowStart windowEnd) :
    monthNumber year month ≤ localLast.monthNumber := by
  have hlocal := (astimezone_ok hzone hspan.last).2
  have hnamed : start.zone = .named item.timezone :=
    hstarts.zone.trans (astimezone_ok hzone hspan.start).1
  rw [← hstarts.monthNumber]
  refine Wall.monthNumber_mono ?_
  cases hplace with
  | kept endAt hunexcepted hend =>
    have hbegun := (lt_iff_instant hzone (.inl hnamed)).mp hoverlaps.2
    rw [instant_named hzone hnamed] at hbegun
    rw [hlocal]
    omega
  | replaced exception _ _ hexcepted => cases hexcepted

/-- With no exceptions, an instance takes place as it stands. -/
theorem takesPlace_nil {occurrence : AgendaOccurrence} :
    TakesPlace zones item [] start occurrence ↔
      ∃ endAt, start.plus (item.duration zones) = .ok endAt ∧ occurrence = {
        agendaItemId := item.id
        startAt := start
        endAt
        title := item.title
        creatorUserId := item.creatorUserId } := by
  constructor
  · intro h
    cases h with
    | kept endAt _ hend => exact ⟨endAt, hend, rfl⟩
    | replaced exception _ _ hexcepted => cases hexcepted
  · rintro ⟨endAt, hend, rfl⟩
    exact .kept endAt rfl hend

/-- One pass of the loop, with no exceptions. -/
theorem effective_nil {occurrence : AgendaOccurrence} :
    effective zones item (item.duration zones) windowStart windowEnd [] start =
        .ok (some occurrence) ↔
      TakesPlace zones item [] start occurrence ∧
        occurrence.Overlaps zones windowStart windowEnd := by
  rw [effective_eq_some]
  refine and_iff_right_of_imp ?_
  rintro ⟨hplace, hoverlaps⟩
  obtain ⟨endAt, hend, rfl⟩ := takesPlace_nil.mp hplace
  exact ⟨endAt, hend, hoverlaps⟩

/-- **What the expansion finds** is what takes place in the window in the months of the walk. -/
theorem mem_expansion {starts : List DateTime} {found : List AgendaOccurrence}
    (hwalk : collect (monthStart zones rule item localStart) (walk localFirst localLast) = .ok starts)
    (hfound : collect (effective zones item (item.duration zones) windowStart windowEnd []) starts =
      .ok found) {occurrence : AgendaOccurrence} :
    occurrence ∈ found ↔ ∃ year month day start, Walked localFirst localLast year month ∧
      rule.Starts zones item localStart year month day start ∧
      TakesPlace zones item [] start occurrence ∧ occurrence.Overlaps zones windowStart windowEnd := by
  rw [mem_collect hfound]
  constructor
  · rintro ⟨start, hstart, heffective⟩
    obtain ⟨year, month, day, hwalked, hstarts⟩ := (mem_starts hwalk).mp hstart
    exact ⟨year, month, day, start, hwalked, hstarts, effective_nil.mp heffective⟩
  · rintro ⟨year, month, day, start, hwalked, hstarts, hplace⟩
    exact ⟨start, (mem_starts hwalk).mpr ⟨year, month, day, hwalked, hstarts⟩,
      effective_nil.mpr hplace⟩

/-- The answer is in order. -/
theorem expansion_sorted {starts : List DateTime} {found : List AgendaOccurrence}
    (hwalk : collect (monthStart zones rule item localStart) (walk localFirst localLast) = .ok starts)
    (hfound : collect (effective zones item (item.duration zones) windowStart windowEnd []) starts =
      .ok found) : found.Pairwise fun a b => a.startAt.lt zones b.startAt = true := by
  refine collect_pairwise (starts_sorted hwalk) (fun a b x y hlt hx hy => ?_) hfound
  obtain ⟨endAt, -, rfl⟩ := takesPlace_nil.mp (effective_nil.mp hx).1
  obtain ⟨endAt', -, rfl⟩ := takesPlace_nil.mp (effective_nil.mp hy).1
  exact hlt

/-- **The expansion is exact** if and only if no start before the walk is still going on in the
window, and the ends of the starts exist. -/
theorem expandsExactly_iff (engine : RecurrenceEngine) (item : AgendaItem)
    (recurrence : RecurrenceRule) (rule : BusinessDayRule) (offset : Int)
    (windowStart windowEnd localStart localFirst localLast : DateTime)
    (hrecurrence : item.recurrence = some recurrence)
    (hrule : parseBusinessDayRule recurrence.value = some rule)
    (hwindow : windowStart.lt engine.zones windowEnd = true)
    (hzone : engine.zones.ConstantOffset item.timezone offset)
    (hspan : Span engine.zones item windowStart windowEnd localStart localFirst localLast)
    (hpositions : PositionsExist rule localFirst localLast) :
    ExpandsExactly engine item rule windowStart windowEnd ↔
      NoneEarlier engine.zones item rule windowStart windowEnd localStart localFirst ∧
        EndsExist engine.zones item rule localStart localFirst localLast := by
  have hvalid : ∀ e ∈ ([] : List RecurrenceException), e.checked engine.zones = .ok e :=
    fun e he => absurd he List.not_mem_nil
  obtain ⟨starts, hwalk⟩ := walk_returns.mpr hpositions
  constructor
  · rintro ⟨found, h, -, hexact⟩
    obtain ⟨localStart', localFirst', localLast', starts', hspan', hwalk', hfound⟩ :=
      (expansion_eq_ok hrecurrence hrule hwindow).mp h
    obtain ⟨rfl, rfl, rfl⟩ := hspan.unique hspan'
    refine ⟨?_, (starts_return hvalid hwalk').mp ⟨found, hfound⟩⟩
    intro year month day start occurrence hstarts hplace hoverlaps
    have hmem := (hexact occurrence).mpr
      ⟨start, ⟨localStart, year, month, day, hspan.start, hstarts⟩, hplace, hoverlaps⟩
    -- it was found in some month of the walk, and it is in no other
    obtain ⟨year', month', day', start', hwalked, hstarts', hplace', -⟩ :=
      (mem_expansion hwalk' hfound).mp hmem
    obtain ⟨endAt, -, rfl⟩ := takesPlace_nil.mp hplace
    obtain ⟨endAt', -, hsame⟩ := takesPlace_nil.mp hplace'
    obtain rfl : start = start' := congrArg AgendaOccurrence.startAt hsame
    rw [← hstarts.monthNumber, hstarts'.monthNumber]
    exact hwalked.2.1
  · rintro ⟨hearlier, hends⟩
    obtain ⟨found, hfound⟩ := (starts_return hvalid hwalk).mpr hends
    refine ⟨found, (expansion_eq_ok hrecurrence hrule hwindow).mpr
      ⟨localStart, localFirst, localLast, starts, hspan, hwalk, hfound⟩,
      expansion_sorted hwalk hfound, fun occurrence => ?_⟩
    rw [mem_expansion hwalk hfound]
    constructor
    · rintro ⟨year, month, day, start, -, hstarts, hplace⟩
      exact ⟨start, ⟨localStart, year, month, day, hspan.start, hstarts⟩, hplace⟩
    · rintro ⟨start, ⟨localStart', year, month, day, hlocal, hstarts⟩, hplace, hoverlaps⟩
      obtain rfl := Except.ok.inj (hspan.start.symm.trans hlocal)
      exact ⟨year, month, day, start, ⟨hstarts.in_year,
        hearlier year month day start occurrence hstarts hplace hoverlaps,
        monthNumber_le_last hzone hspan hstarts hplace hoverlaps⟩, hstarts, hplace, hoverlaps⟩

end Constant

theorem exact_first :
    ExpandsExactly london (review "1" 1) ⟨hongKong, 1⟩ (reading "UTC" 2026 1 1 0)
      (reading "UTC" 2026 2 1 0) ↔
    NoneEarlier london.zones (review "1" 1) ⟨hongKong, 1⟩ (reading "UTC" 2026 1 1 0)
      (reading "UTC" 2026 2 1 0) (reading "UTC" 2025 1 2 1410) (reading "UTC" 2025 12 31 0) ∧
    EndsExist london.zones (review "1" 1) ⟨hongKong, 1⟩ (reading "UTC" 2025 1 2 1410)
      (reading "UTC" 2025 12 31 0) (reading "UTC" 2026 2 1 0) :=
  expandsExactly_iff london (review "1" 1) (onBusinessDay "1") ⟨hongKong, 1⟩ 0
    (reading "UTC" 2026 1 1 0) (reading "UTC" 2026 2 1 0) (reading "UTC" 2025 1 2 1410)
    (reading "UTC" 2025 12 31 0) (reading "UTC" 2026 2 1 0) rfl (by decide +kernel)
    (by decide +kernel) greenwich ⟨by decide +kernel, ⟨_, rfl, by decide +kernel⟩, by decide +kernel⟩
    (by decide +kernel)

/-- **June does not show what began in February.** The window is a month of London, the item one of
Greenwich that goes on for 92 days. -/
theorem june_misses_february :
    ¬ ∀ (engine : RecurrenceEngine) (item : AgendaItem) (recurrence : RecurrenceRule)
      (rule : BusinessDayRule) (offset : Int)
      (windowStart windowEnd localStart localFirst localLast : DateTime),
      item.validate engine.zones = .ok () → item.recurrence = some recurrence →
      parseBusinessDayRule recurrence.value = some rule →
      windowStart.lt engine.zones windowEnd = true →
      engine.zones.ConstantOffset item.timezone offset →
      Span engine.zones item windowStart windowEnd localStart localFirst localLast →
      PositionsExist rule localFirst localLast →
      ExpandsExactly engine item rule windowStart windowEnd := by
  intro h
  obtain ⟨found, hfound, -, hexact⟩ := h london (review "-1" 92) (onBusinessDay "-1") ⟨hongKong, -1⟩ 0
    (reading "Europe/London" 2025 6 1 0) (reading "Europe/London" 2025 7 1 0)
    (reading "UTC" 2025 1 2 1410) (reading "UTC" 2025 3 1 0) (reading "UTC" 2025 6 30 1380)
    (by decide +kernel) rfl (by decide +kernel) (by decide +kernel) greenwich
    ⟨by decide +kernel, ⟨_, rfl, by decide +kernel⟩, by decide +kernel⟩ (by decide +kernel)
  -- on 28 February at half past eleven, until half past eleven on 31 May
  have hfebruary := (hexact _).mpr ⟨reading "UTC" 2025 2 28 1410,
    ⟨reading "UTC" 2025 1 2 1410, 2025, 2, 28, by decide +kernel, by decide,
      ⟨by decide, by decide, by decide +kernel, by decide +kernel⟩, by decide +kernel,
      by decide +kernel⟩,
    takesPlace_nil.mpr ⟨_, rfl, rfl⟩, by decide +kernel⟩
  -- nothing that is found began then
  have hfound' : (occurrencesBetween london (review "-1" 92) (reading "Europe/London" 2025 6 1 0)
      (reading "Europe/London" 2025 7 1 0) []).map (fun found => found.any fun occurrence =>
        occurrence.startAt = reading "UTC" 2025 2 28 1410) = .ok false := by decide +kernel
  rw [hfound] at hfound'
  have hnone := List.any_eq_false.mp (Except.ok.inj hfound') _ hfebruary
  exact hnone (decide_eq_true rfl)

end Zhixu
