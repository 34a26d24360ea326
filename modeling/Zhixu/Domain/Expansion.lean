import Zhixu.Domain.BusinessDays
import Zhixu.Framework.Listing

/-!
# What an expansion leaves out

`occurrencesBetween` looks for the starts of an item around a window, keeps those whose *original*
interval overlaps the window, and only then looks at their exceptions. Here is what it answers with,
set against what takes place in the window.

An item has its instances (`IsInstance`), which no window cuts off: its own start, the starts of its
rule set, or one business day for each month. An instance takes place as it stands, or where its
exception has put it, or not at all (`TakesPlace`). The expansion does not ask for all of them.

* An instance has to be among the starts that are looked for (`Sought`): from the window back by the
  length of the item, on the clock of the window.
* It has to overlap the window where it stands (`StandsIn`).

`occurrencesBetween_lists` says that the expansion lists exactly the instances that take place in the
window and meet both conditions, each once. For the starts of a rule set this is what `rrulestr` is
relied on for (`RecurrenceEngine.Lawful`), and for the business days it is an induction over the
months, which keeps that no two of them have a date in common.
-/

open Framework

namespace Zhixu

/-! ### Instances -/

/-- A start of the rule set, whatever window brings it up. -/
def RuleSet.Yields (rule : RuleSet) (start : DateTime) : Prop :=
  ∃ after before starts, rule.between after before = .ok starts ∧ start ∈ starts

/-- `between(after, before, inc=True)` is every start from the one to the other, once. -/
def RuleSet.Lawful (zones : TimeZones) (rule : RuleSet) : Prop :=
  ∀ after before starts, rule.between after before = .ok starts → starts.Nodup ∧
    ∀ start, start ∈ starts ↔
      rule.Yields start ∧ after.le zones start = true ∧ start.le zones before = true

/-- What `rrulestr` returns is lawful. -/
def RecurrenceEngine.Lawful (engine : RecurrenceEngine) : Prop :=
  ∀ value start rule, engine.rrulestr value start = .ok rule → rule.Lawful engine.zones

/-- How long an item lasts. -/
def AgendaItem.duration (zones : TimeZones) (item : AgendaItem) : Int :=
  item.endAt.sub zones item.startAt

/-- A time of day on a date. -/
def DateTime.onDate (localStart : DateTime) (date : Int) : DateTime :=
  { localStart with wall := Wall.midnight date + Wall.timeOfDay localStart.wall }

/-- The number of a month, counted through all years. -/
def monthNumber (year month : Int) : Int := year * 12 + month

/-- The number of the month a reading is in. -/
def Wall.monthNumber (w : Int) : Int :=
  Zhixu.monthNumber (Calendar.civil (ordinal w)).1 (Calendar.civil (ordinal w)).2.1

/-- The number of the month a datetime is in. -/
def DateTime.monthNumber (dt : DateTime) : Int := Wall.monthNumber dt.wall

/-- A business day of the rule, at the local time of the item and not before the item starts. -/
structure BusinessDayRule.Starts (zones : TimeZones) (rule : BusinessDayRule) (item : AgendaItem)
    (localStart : DateTime) (year month day : Int) (start : DateTime) : Prop where
  in_year : 1 ≤ month ∧ month ≤ 12
  falls : rule.calendar.FallsOn rule.position year month day
  starts : start = localStart.onDate (Calendar.toOrdinal year month day)
  begun : item.startAt.le zones start = true

/-- A start of the rule, in whatever month. -/
def BusinessDayRule.Yields (zones : TimeZones) (rule : BusinessDayRule) (item : AgendaItem)
    (start : DateTime) : Prop :=
  ∃ localStart year month day, item.startAt.astimezone zones item.timezone = .ok localStart ∧
    rule.Starts zones item localStart year month day start

/-- **An instance of an item.** -/
def IsInstance (engine : RecurrenceEngine) (item : AgendaItem) (start : DateTime) : Prop :=
  match item.recurrence with
  | none => start = item.startAt
  | some recurrence =>
    match parseBusinessDayRule recurrence.value with
    | some rule => rule.Yields engine.zones item start
    | none => ∃ rule, engine.rrulestr recurrence.value item.startAt = .ok rule ∧ rule.Yields start

theorem isInstance_business {engine : RecurrenceEngine} {item : AgendaItem} {start : DateTime}
    {recurrence : RecurrenceRule} {rule : BusinessDayRule}
    (hrecurrence : item.recurrence = some recurrence)
    (hrule : parseBusinessDayRule recurrence.value = some rule) :
    IsInstance engine item start ↔ rule.Yields engine.zones item start := by
  unfold IsInstance
  rw [hrecurrence]
  simp only
  rw [hrule]

/-- **Where an instance takes place.** One that is cancelled does not. -/
inductive TakesPlace (zones : TimeZones) (item : AgendaItem) (exceptions : List RecurrenceException)
    (start : DateTime) : AgendaOccurrence → Prop
  | kept (endAt : DateTime) (unexcepted : exceptionAt zones exceptions start = none)
      (ends : start.plus (item.duration zones) = .ok endAt) :
      TakesPlace zones item exceptions start {
        agendaItemId := item.id
        startAt := start
        endAt
        title := item.title
        creatorUserId := item.creatorUserId }
  | replaced (exception : RecurrenceException) (replacementStart replacementEnd : DateTime)
      (excepted : exceptionAt zones exceptions start = some exception)
      (action : exception.action = .replace)
      (starts : exception.replacementStart = some replacementStart)
      (ends : exception.replacementEnd = some replacementEnd) :
      TakesPlace zones item exceptions start {
        agendaItemId := item.id
        startAt := replacementStart
        endAt := replacementEnd
        title := item.title
        replaced := true
        creatorUserId := item.creatorUserId }

/-- An occurrence overlaps a window. -/
def AgendaOccurrence.Overlaps (zones : TimeZones) (windowStart windowEnd : DateTime)
    (occurrence : AgendaOccurrence) : Prop :=
  windowStart.lt zones occurrence.endAt = true ∧ occurrence.startAt.lt zones windowEnd = true

instance (zones : TimeZones) (windowStart windowEnd : DateTime) (occurrence : AgendaOccurrence) :
    Decidable (occurrence.Overlaps zones windowStart windowEnd) := inferInstanceAs (Decidable (_ ∧ _))

/-- **An instance shows in a window**: it takes place there. -/
def ShowsIn (engine : RecurrenceEngine) (item : AgendaItem) (exceptions : List RecurrenceException)
    (windowStart windowEnd start : DateTime) : Prop :=
  IsInstance engine item start ∧ ∃ occurrence,
    TakesPlace engine.zones item exceptions start occurrence ∧
      occurrence.Overlaps engine.zones windowStart windowEnd

/-! ### What the expansion looks for -/

/-- An instance overlaps the window where it stands, whatever its exception says. -/
def StandsIn (zones : TimeZones) (item : AgendaItem) (windowStart windowEnd start : DateTime) :
    Prop :=
  ∃ endAt, start.plus (item.duration zones) = .ok endAt ∧
    windowStart.lt zones endAt = true ∧ start.lt zones windowEnd = true

/-- An instance is among the starts that are looked for: an item that does not recur has to overlap
the window itself, and another has to start in the window or as long before it as the item lasts, by
its months if its rule is one of business days. -/
def Sought (engine : RecurrenceEngine) (item : AgendaItem) (windowStart windowEnd start : DateTime) :
    Prop :=
  match item.recurrence with
  | none =>
    windowStart.lt engine.zones item.endAt = true ∧ item.startAt.lt engine.zones windowEnd = true
  | some recurrence =>
    ∃ lookBack, windowStart.plus (-item.duration engine.zones) = .ok lookBack ∧
      match parseBusinessDayRule recurrence.value with
      | some _ => ∃ localLookBack localEnd,
        lookBack.astimezone engine.zones item.timezone = .ok localLookBack ∧
        windowEnd.astimezone engine.zones item.timezone = .ok localEnd ∧
        localLookBack.monthNumber ≤ start.monthNumber ∧ start.monthNumber ≤ localEnd.monthNumber
      | none => lookBack.le engine.zones start = true ∧ start.le engine.zones windowEnd = true

variable {engine : RecurrenceEngine} {zones : TimeZones} {item : AgendaItem}
  {exceptions : List RecurrenceException} {windowStart windowEnd start : DateTime}

/-! ### The walk over the months -/

theorem onDate_ordinal (localStart : DateTime) (date : Int) :
    Wall.ordinal (localStart.onDate date).wall = date := by
  have hbounds := Wall.timeOfDay_bounds localStart.wall
  show (Wall.midnight date + Wall.timeOfDay localStart.wall) / 86400000000 + 719163 = date
  unfold Wall.midnight
  omega

/-- The months from one on, `count` of them. -/
def monthsFrom : ℕ → Int → List Int
  | 0, _ => []
  | count + 1, n => n :: monthsFrom count (n + 1)

theorem mem_monthsFrom {count : ℕ} {n k : Int} :
    k ∈ monthsFrom count n ↔ n ≤ k ∧ k < n + count := by
  induction count generalizing n with
  | zero =>
    constructor
    · intro h
      cases h
    · intro h
      omega
  | succ count ih =>
    unfold monthsFrom
    rw [List.mem_cons, ih]
    omega

theorem monthsFrom_sorted (count : ℕ) (n : Int) : (monthsFrom count n).Pairwise (· < ·) := by
  induction count generalizing n with
  | zero => exact .nil
  | succ count ih =>
    refine List.pairwise_cons.mpr ⟨fun k hk => ?_, ih (n + 1)⟩
    have := mem_monthsFrom.mp hk
    omega

theorem yearOf_monthNumber {month : Int} (year : Int) (hmonth : 1 ≤ month ∧ month ≤ 12) :
    (monthNumber year month - 1) / 12 = year := by
  unfold monthNumber
  omega

theorem monthOf_monthNumber {month : Int} (year : Int) (hmonth : 1 ≤ month ∧ month ≤ 12) :
    (monthNumber year month - 1) % 12 + 1 = month := by
  unfold monthNumber
  omega

/-- One pass of the walk, at the month of a number. -/
def monthStart (zones : TimeZones) (rule : BusinessDayRule) (item : AgendaItem)
    (localStart : DateTime) (n : Int) : Except PyError (Option DateTime) := do
  let date ← rule.calendar.monthlyBusinessDay ((n - 1) / 12) ((n - 1) % 12 + 1) rule.position
  return if item.startAt.le zones (localStart.onDate date) then some (localStart.onDate date)
    else none

/-- The walk is a comprehension over the numbers of the months. -/
theorem monthStarts_eq (rule : BusinessDayRule) (localStart : DateTime) (count : ℕ)
    {year month : Int} (hmonth : 1 ≤ month ∧ month ≤ 12) :
    monthStarts zones rule item localStart count year month =
      collect (monthStart zones rule item localStart)
        (monthsFrom count (monthNumber year month)) := by
  induction count generalizing year month with
  | zero => rfl
  | succ count ih =>
    have hnext : ∀ next : Except PyError (List DateTime),
        next = collect (monthStart zones rule item localStart)
          (monthsFrom count (monthNumber year month + 1)) →
        (do
          let date ← rule.calendar.monthlyBusinessDay year month rule.position
          let rest ← next
          return if item.startAt.le zones (localStart.onDate date) then
            localStart.onDate date :: rest else rest) =
        collect (monthStart zones rule item localStart)
          (monthsFrom (count + 1) (monthNumber year month)) := by
      rintro _ rfl
      have hpass : monthStart zones rule item localStart (monthNumber year month) = do
          let date ← rule.calendar.monthlyBusinessDay year month rule.position
          return if item.startAt.le zones (localStart.onDate date) then
            some (localStart.onDate date) else none := by
        unfold monthStart
        rw [yearOf_monthNumber year hmonth, monthOf_monthNumber year hmonth]
      show _ = collect _ (monthNumber year month :: monthsFrom count (monthNumber year month + 1))
      rw [collect, hpass]
      generalize collect (monthStart zones rule item localStart)
        (monthsFrom count (monthNumber year month + 1)) = rest
      cases rule.calendar.monthlyBusinessDay year month rule.position with
      | error err => rfl
      | ok date =>
        show (rest >>= fun rest => pure _) = ((pure _ : Except PyError _) >>= fun y => _)
        rw [pure_bind]
        cases item.startAt.le zones (localStart.onDate date) with
        | false => rfl
        | true => rfl
    unfold monthStarts
    by_cases hlast : month = 12
    · subst hlast
      refine hnext (monthStarts zones rule item localStart count (year + 1) 1) ?_
      have hnumber : monthNumber (year + 1) 1 = monthNumber year 12 + 1 := by
        unfold monthNumber
        omega
      rw [ih (by omega), hnumber]
    · simp only [if_neg hlast]
      refine hnext (monthStarts zones rule item localStart count year (month + 1)) ?_
      have hnumber : monthNumber year (month + 1) = monthNumber year month + 1 := by
        unfold monthNumber
        omega
      rw [ih (by omega), hnumber]

/-- **One pass finds** the business day of its month, if the item has begun by then. -/
theorem monthStart_eq_some {rule : BusinessDayRule} {localStart : DateTime} {n : Int} :
    monthStart zones rule item localStart n = .ok (some start) ↔
      ∃ day, rule.Starts zones item localStart ((n - 1) / 12) ((n - 1) % 12 + 1) day start := by
  unfold monthStart
  rw [bind_eq_ok]
  constructor
  · rintro ⟨date, hdate, h⟩
    obtain ⟨day, hfalls, rfl⟩ := BusinessCalendar.monthlyBusinessDay_eq_ok.mp hdate
    obtain ⟨hbegun, hstart⟩ := Option.ite_none_right_eq_some.mp (Except.ok.inj h)
    obtain rfl := Option.some.inj hstart
    exact ⟨day, ⟨by omega, hfalls, rfl, hbegun⟩⟩
  · rintro ⟨day, hstarts⟩
    refine ⟨_, BusinessCalendar.monthlyBusinessDay_eq_ok.mpr ⟨day, hstarts.falls, rfl⟩, ?_⟩
    obtain rfl := hstarts.starts
    rw [if_pos hstarts.begun]
    rfl

/-- One pass goes through if the month has the position. -/
theorem monthStart_returns {rule : BusinessDayRule} {localStart : DateTime} {n : Int} :
    (∃ found, monthStart zones rule item localStart n = .ok found) ↔
      rule.calendar.HasPosition rule.position ((n - 1) / 12) ((n - 1) % 12 + 1) := by
  rw [← BusinessCalendar.monthlyBusinessDay_returns]
  unfold monthStart
  rw [exists_bind_ok]
  exact exists_congr fun date => and_iff_left ⟨_, rfl⟩

/-- **The ends of a walk**: the start of the item, the first and the last moment that the walk looks
at, on the clock of the item. -/
structure Span (zones : TimeZones) (item : AgendaItem) (windowStart windowEnd : DateTime)
    (localStart localFirst localLast : DateTime) : Prop where
  start : item.startAt.astimezone zones item.timezone = .ok localStart
  first : ∃ lookBack, windowStart.plus (-item.duration zones) = .ok lookBack ∧
    lookBack.astimezone zones item.timezone = .ok localFirst
  last : windowEnd.astimezone zones item.timezone = .ok localLast

theorem Span.unique {localStart localFirst localLast localStart' localFirst' localLast' : DateTime}
    (h : Span zones item windowStart windowEnd localStart localFirst localLast)
    (h' : Span zones item windowStart windowEnd localStart' localFirst' localLast') :
    localStart = localStart' ∧ localFirst = localFirst' ∧ localLast = localLast' := by
  obtain ⟨lookBack, hback, hfirst⟩ := h.first
  obtain ⟨lookBack', hback', hfirst'⟩ := h'.first
  obtain rfl := Except.ok.inj (hback.symm.trans hback')
  exact ⟨Except.ok.inj (h.start.symm.trans h'.start), Except.ok.inj (hfirst.symm.trans hfirst'),
    Except.ok.inj (h.last.symm.trans h'.last)⟩

/-- The months of a walk. -/
def Walked (localFirst localLast : DateTime) (year month : Int) : Prop :=
  (1 ≤ month ∧ month ≤ 12) ∧ localFirst.monthNumber ≤ monthNumber year month ∧
    monthNumber year month ≤ localLast.monthNumber

/-- The numbers of the months of a walk. -/
def walk (localFirst localLast : DateTime) : List Int :=
  monthsFrom (localLast.monthNumber - localFirst.monthNumber + 1).toNat localFirst.monthNumber

theorem mem_walk {localFirst localLast : DateTime} {n : Int} :
    n ∈ walk localFirst localLast ↔ Walked localFirst localLast ((n - 1) / 12) ((n - 1) % 12 + 1) := by
  unfold walk Walked monthNumber
  rw [mem_monthsFrom]
  omega

theorem walked_iff {localFirst localLast : DateTime} {year month : Int}
    (hmonth : 1 ≤ month ∧ month ≤ 12) : Walked localFirst localLast year month ↔
      monthNumber year month ∈ walk localFirst localLast := by
  rw [mem_walk, yearOf_monthNumber year hmonth, monthOf_monthNumber year hmonth]

/-- **The starts of a business-day rule** are found by a comprehension over the months of the walk. -/
theorem businessStarts_eq_ok {rule : BusinessDayRule} {starts : List DateTime} :
    businessStarts zones rule item (item.duration zones) windowStart windowEnd = .ok starts ↔
      ∃ localStart localFirst localLast,
        Span zones item windowStart windowEnd localStart localFirst localLast ∧
          collect (monthStart zones rule item localStart) (walk localFirst localLast) = .ok starts := by
  unfold businessStarts
  constructor
  · intro h
    obtain ⟨localStart, hstart, h⟩ := bind_eq_ok.mp h
    obtain ⟨lookBack, hlookBack, h⟩ := bind_eq_ok.mp h
    obtain ⟨localFirst, hfirst, h⟩ := bind_eq_ok.mp h
    obtain ⟨localLast, hlast, h⟩ := bind_eq_ok.mp h
    rw [monthStarts_eq rule localStart _ (Calendar.fits_civil _).1] at h
    exact ⟨localStart, localFirst, localLast, ⟨hstart, ⟨lookBack, hlookBack, hfirst⟩, hlast⟩, h⟩
  · rintro ⟨localStart, localFirst, localLast, ⟨hstart, ⟨lookBack, hlookBack, hfirst⟩, hlast⟩, h⟩
    refine bind_eq_ok.mpr ⟨localStart, hstart, bind_eq_ok.mpr ⟨lookBack, hlookBack,
      bind_eq_ok.mpr ⟨localFirst, hfirst, bind_eq_ok.mpr ⟨localLast, hlast, ?_⟩⟩⟩⟩
    rw [monthStarts_eq rule localStart _ (Calendar.fits_civil _).1]
    exact h

/-! ### The exceptions -/

theorem not_le_or_iff {endAt : DateTime} :
    ¬ ((endAt.le zones windowStart || windowEnd.le zones start) = true) ↔
      windowStart.lt zones endAt = true ∧ start.lt zones windowEnd = true := by
  unfold DateTime.le
  cases windowStart.lt zones endAt <;> cases start.lt zones windowEnd <;> decide

/-- **One pass of the loop** finds an instance that stands in the window and takes place in it. -/
theorem effective_eq_some {occurrence : AgendaOccurrence} :
    effective zones item (item.duration zones) windowStart windowEnd exceptions start =
        .ok (some occurrence) ↔
      StandsIn zones item windowStart windowEnd start ∧
        TakesPlace zones item exceptions start occurrence ∧
        occurrence.Overlaps zones windowStart windowEnd := by
  unfold effective
  rw [bind_eq_ok]
  constructor
  · rintro ⟨endAt, hend, h⟩
    split at h
    · cases h
    · rename_i houtside
      have hstands := not_le_or_iff.mp houtside
      refine ⟨⟨endAt, hend, hstands⟩, ?_⟩
      cases hexception : exceptionAt zones exceptions start with
      | none =>
        rw [hexception] at h
        obtain rfl := Option.some.inj (Except.ok.inj h)
        exact ⟨.kept endAt hexception hend, hstands⟩
      | some exception =>
        rw [hexception] at h
        simp only at h
        split at h
        · cases h
        · rename_i replacementStart replacementEnd haction hstart hstop
          split at h
          · rename_i hinside
            obtain rfl := Option.some.inj (Except.ok.inj h)
            rw [Bool.and_eq_true] at hinside
            exact ⟨.replaced exception _ _ hexception haction hstart hstop, hinside⟩
          · cases h
        · cases h
  · rintro ⟨⟨endAt, hend, hstands⟩, hplace, hoverlaps⟩
    refine ⟨endAt, hend, ?_⟩
    rw [if_neg (not_le_or_iff.mpr hstands)]
    cases hplace with
    | kept endAt' hexception hend' =>
      obtain rfl := Except.ok.inj (hend.symm.trans hend')
      rw [hexception]
      rfl
    | replaced exception replacementStart replacementEnd hexception haction hstart hstop =>
      rw [hexception]
      simp only
      rw [haction, hstart, hstop]
      simp only
      rw [if_pos (by rw [Bool.and_eq_true]; exact hoverlaps)]
      rfl

/-- A start raises in the loop only if its end is after the year 9999: an exception that replaces an
occurrence says where to. -/
theorem effective_returns
    (hexceptions : ∀ e ∈ exceptions, e.checked zones = .ok e) {duration : Int} :
    (∃ found, effective zones item duration windowStart windowEnd exceptions start = .ok found) ↔
      Instant.InRange (start.wall + duration) := by
  unfold effective
  rw [exists_bind_ok]
  constructor
  · rintro ⟨endAt, hend, -⟩
    exact not_not.mp (raiseIf_bind_ok.mp hend).1
  · intro hrange
    refine ⟨{ wall := start.wall + duration, zone := start.zone },
      raiseIf_bind_ok.mpr ⟨not_not_intro hrange, rfl⟩, ?_⟩
    split
    · exact ⟨_, rfl⟩
    · cases hexception : exceptionAt zones exceptions start with
      | none => exact ⟨_, rfl⟩
      | some exception =>
        have hmem : exception ∈ exceptions :=
          (List.mem_filter.mp (List.mem_of_getLast? hexception)).1
        have hchecked := hexceptions exception hmem
        unfold RecurrenceException.checked at hchecked
        simp only
        cases haction : exception.action with
        | cancel => exact ⟨_, rfl⟩
        | replace =>
          rw [haction] at hchecked
          cases hstart : exception.replacementStart with
          | none =>
            rw [hstart] at hchecked
            cases hchecked
          | some replacementStart =>
            cases hstop : exception.replacementEnd with
            | none =>
              rw [hstart, hstop] at hchecked
              cases hchecked
            | some replacementEnd =>
              simp only
              split
              · exact ⟨_, rfl⟩
              · exact ⟨_, rfl⟩

/-! ### Months in order -/

/-- A later reading is in no earlier month. -/
theorem Wall.monthNumber_mono {v w : Int} (h : v ≤ w) : monthNumber v ≤ monthNumber w := by
  by_contra hlater
  have hfits := Calendar.fits_civil (ordinal v)
  have hfits' := Calendar.fits_civil (ordinal w)
  have hordinal : ordinal v ≤ ordinal w := by
    unfold ordinal
    omega
  -- a date in an earlier month has a smaller ordinal
  have hmonths : (Calendar.civil (ordinal w)).1 < (Calendar.civil (ordinal v)).1 ∨
      (Calendar.civil (ordinal w)).1 = (Calendar.civil (ordinal v)).1 ∧
        (Calendar.civil (ordinal w)).2.1 < (Calendar.civil (ordinal v)).2.1 := by
    obtain ⟨hmonth, -⟩ := hfits
    obtain ⟨hmonth', -⟩ := hfits'
    unfold monthNumber Zhixu.monthNumber at hlater
    omega
  have hlt := Calendar.ordinal_lt_of_month hfits' hfits hmonths
  rw [Calendar.ordinal_civil, Calendar.ordinal_civil] at hlt
  omega

namespace BusinessDayRule.Starts

variable {rule : BusinessDayRule} {localStart start' : DateTime} {year month day : Int}

/-- A start is in its month. -/
theorem monthNumber (h : rule.Starts zones item localStart year month day start) :
    start.monthNumber = Zhixu.monthNumber year month := by
  have hcivil := Calendar.civil_toOrdinal ⟨h.in_year, h.falls.exists_day⟩
  rw [h.starts]
  unfold DateTime.monthNumber Wall.monthNumber
  rw [onDate_ordinal, hcivil]

/-- It is on the clock of the item. -/
theorem zone (h : rule.Starts zones item localStart year month day start) :
    start.zone = localStart.zone := by
  rw [h.starts]
  rfl

/-- The start of a later month is later. -/
theorem wall_lt {year' month' day' : Int}
    (h : rule.Starts zones item localStart year month day start)
    (h' : rule.Starts zones item localStart year' month' day' start')
    (hlt : Zhixu.monthNumber year month < Zhixu.monthNumber year' month') :
    (start.wall : Int) < start'.wall := by
  have hin := h.in_year
  have hin' := h'.in_year
  have hordinal := Calendar.ordinal_lt_of_month ⟨h.in_year, h.falls.exists_day⟩
    ⟨h'.in_year, h'.falls.exists_day⟩ (by unfold Zhixu.monthNumber at hlt; omega)
  rw [h.starts, h'.starts]
  show Wall.midnight _ + _ < Wall.midnight _ + _
  unfold Wall.midnight
  omega

end BusinessDayRule.Starts

/-! ### The starts that a walk finds -/

/-- Every month of the walk has the position. -/
def PositionsExist (rule : BusinessDayRule) (localFirst localLast : DateTime) : Prop :=
  ∀ year month, Walked localFirst localLast year month →
    rule.calendar.HasPosition rule.position year month

theorem positionsExist_iff {rule : BusinessDayRule} {localFirst localLast : DateTime} :
    PositionsExist rule localFirst localLast ↔ ∀ n ∈ walk localFirst localLast,
      rule.calendar.HasPosition rule.position ((n - 1) / 12) ((n - 1) % 12 + 1) := by
  constructor
  · intro h n hn
    exact h _ _ (mem_walk.mp hn)
  · intro h year month hwalked
    have hposition := h _ ((walked_iff hwalked.1).mp hwalked)
    rwa [yearOf_monthNumber year hwalked.1, monthOf_monthNumber year hwalked.1] at hposition

instance (rule : BusinessDayRule) (localFirst localLast : DateTime) :
    Decidable (PositionsExist rule localFirst localLast) :=
  decidable_of_iff _ positionsExist_iff.symm

/-- The walk goes through if its months have the position. -/
theorem walk_returns {rule : BusinessDayRule} {localStart localFirst localLast : DateTime} :
    (∃ starts, collect (monthStart zones rule item localStart) (walk localFirst localLast) =
      .ok starts) ↔ PositionsExist rule localFirst localLast := by
  rw [collect_returns, positionsExist_iff]
  exact forall₂_congr fun n _ => monthStart_returns

/-- What a walk finds. -/
theorem mem_starts {rule : BusinessDayRule} {localStart localFirst localLast : DateTime}
    {starts : List DateTime}
    (hwalk : collect (monthStart zones rule item localStart) (walk localFirst localLast) =
      .ok starts) :
    start ∈ starts ↔ ∃ year month day, Walked localFirst localLast year month ∧
      rule.Starts zones item localStart year month day start := by
  rw [mem_collect hwalk]
  constructor
  · rintro ⟨n, hn, hpass⟩
    obtain ⟨day, hstarts⟩ := monthStart_eq_some.mp hpass
    exact ⟨_, _, day, mem_walk.mp hn, hstarts⟩
  · rintro ⟨year, month, day, hwalked, hstarts⟩
    refine ⟨_, (walked_iff hwalked.1).mp hwalked, monthStart_eq_some.mpr ⟨day, ?_⟩⟩
    rwa [yearOf_monthNumber year hwalked.1, monthOf_monthNumber year hwalked.1]

/-- The starts are in order. -/
theorem starts_sorted {rule : BusinessDayRule} {localStart localFirst localLast : DateTime}
    {starts : List DateTime}
    (hwalk : collect (monthStart zones rule item localStart) (walk localFirst localLast) =
      .ok starts) : starts.Pairwise fun a b => a.lt zones b = true := by
  refine collect_pairwise (monthsFrom_sorted _ _) (fun n n' a b hlt ha hb => ?_) hwalk
  obtain ⟨day, ha⟩ := monthStart_eq_some.mp ha
  obtain ⟨day', hb⟩ := monthStart_eq_some.mp hb
  unfold DateTime.lt
  rw [if_pos (ha.zone.trans hb.zone.symm), decide_eq_true_eq]
  refine ha.wall_lt hb ?_
  unfold monthNumber
  omega

/-! ### The expansion of any item -/

/-- **The starts of an item can be found**: the walk goes through, or `rrulestr` and `between` do. -/
def StartsExist (engine : RecurrenceEngine) (item : AgendaItem) (windowStart windowEnd : DateTime) :
    Prop :=
  match item.recurrence with
  | none => True
  | some recurrence =>
    match parseBusinessDayRule recurrence.value with
    | some rule => ∃ localStart localFirst localLast,
      Span engine.zones item windowStart windowEnd localStart localFirst localLast ∧
        PositionsExist rule localFirst localLast
    | none => ∃ rule lookBack starts, engine.rrulestr recurrence.value item.startAt = .ok rule ∧
      windowStart.plus (-item.duration engine.zones) = .ok lookBack ∧
      rule.between lookBack windowEnd = .ok starts

theorem candidateStarts_returns :
    (∃ starts, candidateStarts engine item (item.duration engine.zones) windowStart windowEnd =
      .ok starts) ↔ StartsExist engine item windowStart windowEnd := by
  unfold candidateStarts StartsExist
  cases item.recurrence with
  | none =>
    simp only [iff_true]
    split
    · exact ⟨_, rfl⟩
    · exact ⟨_, rfl⟩
  | some recurrence =>
    simp only
    cases parseBusinessDayRule recurrence.value with
    | some rule =>
      simp only [businessStarts_eq_ok]
      constructor
      · rintro ⟨starts, localStart, localFirst, localLast, hspan, hwalk⟩
        exact ⟨localStart, localFirst, localLast, hspan, walk_returns.mp ⟨starts, hwalk⟩⟩
      · rintro ⟨localStart, localFirst, localLast, hspan, hpositions⟩
        obtain ⟨starts, hwalk⟩ := walk_returns.mpr hpositions
        exact ⟨starts, localStart, localFirst, localLast, hspan, hwalk⟩
    | none =>
      simp only
      constructor
      · rintro ⟨starts, h⟩
        obtain ⟨rule, hrule, h⟩ := bind_eq_ok.mp h
        obtain ⟨lookBack, hback, hbetween⟩ := bind_eq_ok.mp h
        exact ⟨rule, lookBack, starts, hrule, hback, hbetween⟩
      · rintro ⟨rule, lookBack, starts, hrule, hback, hbetween⟩
        exact ⟨starts, bind_eq_ok.mpr ⟨rule, hrule, bind_eq_ok.mpr ⟨lookBack, hback, hbetween⟩⟩⟩

/-- A list in the order of the clock has no start twice. -/
theorem nodup_of_sorted {starts : List DateTime}
    (hsorted : starts.Pairwise fun a b => a.lt zones b = true) : starts.Nodup := by
  refine hsorted.imp fun {a b} hlt hsame => ?_
  subst hsame
  unfold DateTime.lt at hlt
  rw [if_pos rfl, decide_eq_true_eq] at hlt
  exact lt_irrefl _ hlt

/-- **The starts that are looked for** are the instances that are sought, each once. -/
theorem candidateStarts_spec (hlawful : engine.Lawful) {starts : List DateTime}
    (h : candidateStarts engine item (item.duration engine.zones) windowStart windowEnd = .ok starts) :
    starts.Nodup ∧ ∀ start, start ∈ starts ↔
      IsInstance engine item start ∧ Sought engine item windowStart windowEnd start := by
  unfold candidateStarts at h
  unfold IsInstance Sought
  cases hrecurrence : item.recurrence with
  | none =>
    rw [hrecurrence] at h
    simp only at h ⊢
    split at h
    · rename_i houtside
      obtain rfl := Except.ok.inj h
      refine ⟨List.nodup_nil, fun start => ?_⟩
      have hnot := mt not_le_or_iff.mpr (not_not_intro houtside)
      constructor
      · intro hmem
        cases hmem
      · rintro ⟨-, hsought⟩
        exact absurd hsought hnot
    · rename_i hinside
      obtain rfl := Except.ok.inj h
      refine ⟨List.nodup_singleton _, fun start => ?_⟩
      rw [List.mem_singleton]
      exact (and_iff_left (not_le_or_iff.mp hinside)).symm
  | some recurrence =>
    rw [hrecurrence] at h
    simp only at h ⊢
    cases hrule : parseBusinessDayRule recurrence.value with
    | some rule =>
      rw [hrule] at h
      simp only at h ⊢
      obtain ⟨localStart, localFirst, localLast, hspan, hwalk⟩ := businessStarts_eq_ok.mp h
      refine ⟨nodup_of_sorted (starts_sorted hwalk), fun start => ?_⟩
      rw [mem_starts hwalk]
      constructor
      · rintro ⟨year, month, day, hwalked, hstarts⟩
        obtain ⟨lookBack, hback, hfirst⟩ := hspan.first
        refine ⟨⟨localStart, year, month, day, hspan.start, hstarts⟩, lookBack, hback, localFirst,
          localLast, hfirst, hspan.last, ?_⟩
        rw [hstarts.monthNumber]
        exact hwalked.2
      · rintro ⟨⟨localStart', year, month, day, hlocal, hstarts⟩, lookBack, hback, localFirst',
          localLast', hfirst, hlast, hbounds⟩
        obtain ⟨rfl, rfl, rfl⟩ := hspan.unique ⟨hlocal, ⟨lookBack, hback, hfirst⟩, hlast⟩
        rw [hstarts.monthNumber] at hbounds
        exact ⟨year, month, day, ⟨hstarts.in_year, hbounds⟩, hstarts⟩
    | none =>
      rw [hrule] at h
      simp only at h ⊢
      obtain ⟨rule, hset, h⟩ := bind_eq_ok.mp h
      obtain ⟨lookBack, hback, hbetween⟩ := bind_eq_ok.mp h
      obtain ⟨hnodup, hmem⟩ := hlawful _ _ _ hset _ _ _ hbetween
      refine ⟨hnodup, fun start => ?_⟩
      rw [hmem]
      constructor
      · rintro ⟨hyields, hbounds⟩
        exact ⟨⟨rule, hset, hyields⟩, lookBack, hback, hbounds⟩
      · rintro ⟨⟨rule', hset', hyields⟩, lookBack', hback', hbounds⟩
        obtain rfl := Except.ok.inj (hset.symm.trans hset')
        obtain rfl := Except.ok.inj (hback.symm.trans hback')
        exact ⟨hyields, hbounds⟩

/-- **An expansion returns** if its starts can be found and their ends exist. -/
def Expands (engine : RecurrenceEngine) (item : AgendaItem) (windowStart windowEnd : DateTime) :
    Prop :=
  windowStart.lt engine.zones windowEnd = true ∧ StartsExist engine item windowStart windowEnd ∧
    ∀ start, IsInstance engine item start → Sought engine item windowStart windowEnd start →
      Instant.InRange (start.wall + item.duration engine.zones)

theorem occurrencesBetween_eq_ok {found : List AgendaOccurrence} :
    occurrencesBetween engine item windowStart windowEnd exceptions = .ok found ↔
      windowStart.lt engine.zones windowEnd = true ∧ ∃ starts,
        candidateStarts engine item (item.duration engine.zones) windowStart windowEnd = .ok starts ∧
        collect (effective engine.zones item (item.duration engine.zones) windowStart windowEnd
          exceptions) starts = .ok found := by
  unfold occurrencesBetween
  rw [raiseIf_bind_ok]
  have hopen : ¬ (windowEnd.le engine.zones windowStart = true) ↔
      windowStart.lt engine.zones windowEnd = true := by
    unfold DateTime.le
    rw [Bool.not_eq_true', Bool.not_eq_false]
  exact and_congr hopen bind_eq_ok

theorem occurrencesBetween_returns (hlawful : engine.Lawful)
    (hexceptions : ∀ e ∈ exceptions, e.checked engine.zones = .ok e) :
    (∃ found, occurrencesBetween engine item windowStart windowEnd exceptions = .ok found) ↔
      Expands engine item windowStart windowEnd := by
  simp only [occurrencesBetween_eq_ok]
  constructor
  · rintro ⟨found, hwindow, starts, hstarts, hfound⟩
    refine ⟨hwindow, candidateStarts_returns.mp ⟨starts, hstarts⟩, fun start hinstance hsought => ?_⟩
    exact (effective_returns hexceptions).mp (collect_returns.mp ⟨found, hfound⟩ start
      (((candidateStarts_spec hlawful hstarts).2 start).mpr ⟨hinstance, hsought⟩))
  · rintro ⟨hwindow, hexist, hends⟩
    obtain ⟨starts, hstarts⟩ := candidateStarts_returns.mpr hexist
    obtain ⟨found, hfound⟩ := collect_returns.mpr fun start hmem =>
      (effective_returns hexceptions).mpr
        (hends start (((candidateStarts_spec hlawful hstarts).2 start).mp hmem).1
          (((candidateStarts_spec hlawful hstarts).2 start).mp hmem).2)
    exact ⟨found, hwindow, starts, hstarts, hfound⟩

/-- **What an expansion lists** are the instances that show in the window, are sought and stand
there. -/
theorem occurrencesBetween_lists (hlawful : engine.Lawful) {found : List AgendaOccurrence}
    (h : occurrencesBetween engine item windowStart windowEnd exceptions = .ok found) :
    ListsInOrder (fun start => ShowsIn engine item exceptions windowStart windowEnd start ∧
        Sought engine item windowStart windowEnd start ∧
        StandsIn engine.zones item windowStart windowEnd start)
      (TakesPlace engine.zones item exceptions) found := by
  obtain ⟨-, starts, hstarts, hfound⟩ := occurrencesBetween_eq_ok.mp h
  obtain ⟨hnodup, hmem⟩ := candidateStarts_spec hlawful hstarts
  refine ((lists_collect hnodup hfound).congr fun start => ?_).imp fun start occurrence heffective =>
    (effective_eq_some.mp heffective).2.1
  simp only [effective_eq_some, hmem]
  constructor
  · rintro ⟨⟨hinstance, hsought⟩, occurrence, hstands, hplace, hoverlaps⟩
    exact ⟨⟨hinstance, occurrence, hplace, hoverlaps⟩, hsought, hstands⟩
  · rintro ⟨⟨hinstance, occurrence, hplace, hoverlaps⟩, hsought, hstands⟩
    exact ⟨⟨hinstance, hsought⟩, occurrence, hstands, hplace, hoverlaps⟩

end Zhixu
