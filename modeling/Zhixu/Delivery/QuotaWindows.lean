import Mathlib.Order.Bounds.Basic
import Zhixu.Delivery.QuotaRuns

/-!
# Windows around a change of the clock

A window is a block of readings of a clock, a second, a minute or a day, and `_window` turns the two
ends of the block into instants. The beginning is read with the `fold` of the moment it is asked for.
The end is a sum, and a sum has no `fold`: it is read as if it were passed for the first time.

On a clock that keeps its offset this gives one interval for all instants of the block. Where the
clock is changed the two ends may be read on different sides of the change, or one of them twice.
`ChangesOnce` describes a clock that is changed at most once in the days around an instant, as the
database of time zones has it, with the readings that are skipped or come twice.

The window of an instant is an interval with the same window throughout if and only if its block is
`Undisturbed` by the change (`windowHolds_iff`), which depends on where the ends of the block lie among
the readings that are skipped or come twice. If it is not, the moment of the change is in the window
and has another, or the first moment past the readings that come twice has, or now itself is outside
(`undisturbed_of_alike`). The other direction compares ends, and uses nothing but that the blocks cover
all readings without an overlap (`floor_eq_iff`, `floor_cases`).

When a reservation is refused, the answer names the end of the last of the windows that block
(`refusal_isLeast`), whatever the clocks do.
-/

open Framework

namespace Zhixu

/-! ### Blocks -/

theorem QuotaWindow.length_bounds (window : QuotaWindow) :
    0 < window.length ∧ window.length ≤ 86400000000 := by
  cases window <;> decide

/-- The blocks cover all readings, and none of them twice. -/
theorem QuotaWindow.floor_eq_iff (window : QuotaWindow) {w x : Int} :
    window.floor x = window.floor w ↔
      window.floor w ≤ x ∧ x < window.floor w + window.length := by
  cases window with
  | second =>
    show x - x % 1000000 = w - w % 1000000 ↔ w - w % 1000000 ≤ x ∧ x < w - w % 1000000 + 1 * 1000000
    omega
  | minute =>
    show x - x % 60000000 = w - w % 60000000 ↔
      w - w % 60000000 ≤ x ∧ x < w - w % 60000000 + 1 * 60000000
    omega
  | day =>
    show x - x % 86400000000 = w - w % 86400000000 ↔
      w - w % 86400000000 ≤ x ∧ x < w - w % 86400000000 + 1 * 86400000000
    omega

/-- Of two blocks one ends before the other begins. -/
theorem QuotaWindow.floor_cases (window : QuotaWindow) (w x : Int) :
    window.floor x + window.length ≤ window.floor w ∨ window.floor x = window.floor w ∨
      window.floor w + window.length ≤ window.floor x := by
  cases window with
  | second =>
    show x - x % 1000000 + 1 * 1000000 ≤ w - w % 1000000 ∨ x - x % 1000000 = w - w % 1000000 ∨
      w - w % 1000000 + 1 * 1000000 ≤ x - x % 1000000
    omega
  | minute =>
    show x - x % 60000000 + 1 * 60000000 ≤ w - w % 60000000 ∨
      x - x % 60000000 = w - w % 60000000 ∨
      w - w % 60000000 + 1 * 60000000 ≤ x - x % 60000000
    omega
  | day =>
    show x - x % 86400000000 + 1 * 86400000000 ≤ w - w % 86400000000 ∨
      x - x % 86400000000 = w - w % 86400000000 ∨
      w - w % 86400000000 + 1 * 86400000000 ≤ x - x % 86400000000
    omega

/-- The first block of the calendar begins with it. -/
theorem QuotaWindow.inRange_floor (window : QuotaWindow) {w : Int} (h : Instant.InRange w) :
    Instant.InRange (window.floor w) := by
  unfold Instant.InRange Instant.earliest Instant.latest at h ⊢
  cases window with
  | second =>
    show _ ≤ w - w % 1000000 ∧ w - w % 1000000 ≤ _
    omega
  | minute =>
    show _ ≤ w - w % 60000000 ∧ w - w % 60000000 ≤ _
    omega
  | day =>
    show _ ≤ w - w % 86400000000 ∧ w - w % 86400000000 ≤ _
    omega

/-! ### What the source computes -/

section Ends

variable (zones : TimeZones) (rule : QuotaRule)

/-- The reading at which the block of an instant begins. -/
def blockStart (now : Instant) : Int := rule.window.floor (zones.fromutc rule.timezone now).1

/-- The instant for which the beginning of the block is taken. -/
def windowStart (now : Instant) : Int :=
  blockStart zones rule now -
    zones.utcoffset rule.timezone (blockStart zones rule now) (zones.fromutc rule.timezone now).2

/-- The instant for which the end of the block is taken. -/
def windowStop (now : Instant) : Int :=
  blockStart zones rule now + rule.window.length -
    zones.utcoffset rule.timezone (blockStart zones rule now + rule.window.length) false

/-- The readings and the instants of a window exist, in the years 1 to 9999. -/
def InYears (now : Instant) : Prop :=
  Instant.InRange now ∧ Instant.InRange (zones.fromutc rule.timezone now).1 ∧
    Instant.InRange (blockStart zones rule now + rule.window.length) ∧
    Instant.InRange (windowStart zones rule now) ∧ Instant.InRange (windowStop zones rule now)

variable {zones rule}

theorem quotaWindow_eq_ok (hfound : zones.lookup rule.timezone = .found) {now start stop : Instant} :
    quotaWindow zones now rule = .ok (start, stop) ↔ InYears zones rule now ∧
      start = windowStart zones rule now ∧ stop = windowStop zones rule now := by
  have hknown : zones.zoneInfo rule.timezone = .ok ⟨⟩ := by
    unfold TimeZones.zoneInfo
    rw [hfound]
  have hself : (DateTime.ofInstant now).instant zones = now := Int.sub_zero now
  have hnamed : ¬ ((DateTime.ofInstant now).zone = .named rule.timezone) := by
    rintro ⟨⟩
  unfold quotaWindow
  rw [hknown]
  constructor
  · intro h
    obtain ⟨-, -, h⟩ := bind_eq_ok.mp h
    obtain ⟨reading, hreading, h⟩ := bind_eq_ok.mp h
    obtain ⟨stopReading, hstop, h⟩ := bind_eq_ok.mp h
    obtain ⟨startUtc, hstartUtc, h⟩ := bind_eq_ok.mp h
    obtain ⟨stopUtc, hstopUtc, h⟩ := bind_eq_ok.mp h
    obtain ⟨rfl, rfl⟩ := Prod.mk.inj (Except.ok.inj h)
    unfold DateTime.astimezone at hreading
    rw [if_neg hnamed] at hreading
    obtain ⟨utc, hutc, hreading⟩ := bind_eq_ok.mp hreading
    obtain ⟨hnow, hutc⟩ := raiseIf_bind_ok.mp hutc
    obtain rfl := Except.ok.inj hutc
    rw [hself] at hnow hreading
    obtain ⟨hlocal, hreading⟩ := raiseIf_bind_ok.mp hreading
    obtain rfl := Except.ok.inj hreading
    obtain ⟨hsum, hplus⟩ := raiseIf_bind_ok.mp hstop
    obtain rfl := Except.ok.inj hplus
    obtain ⟨hstart, hvalue⟩ := raiseIf_bind_ok.mp hstartUtc
    obtain ⟨hend, hvalue'⟩ := raiseIf_bind_ok.mp hstopUtc
    exact ⟨⟨not_not.mp hnow, not_not.mp hlocal, not_not.mp hsum, not_not.mp hstart, not_not.mp hend⟩,
      (Except.ok.inj hvalue).symm, (Except.ok.inj hvalue').symm⟩
  · rintro ⟨⟨hnow, hlocal, hsum, hstart, hend⟩, rfl, rfl⟩
    refine bind_eq_ok.mpr ⟨⟨⟩, rfl, bind_eq_ok.mpr ⟨{
      wall := (zones.fromutc rule.timezone now).1
      zone := .named rule.timezone
      fold := (zones.fromutc rule.timezone now).2 }, ?_, ?_⟩⟩
    · unfold DateTime.astimezone
      rw [if_neg hnamed]
      refine bind_eq_ok.mpr ⟨now, raiseIf_bind_ok.mpr ⟨?_, congrArg Except.ok hself⟩,
        raiseIf_bind_ok.mpr ⟨not_not_intro hlocal, rfl⟩⟩
      rw [hself]
      exact not_not_intro hnow
    · exact bind_eq_ok.mpr ⟨_, raiseIf_bind_ok.mpr ⟨not_not_intro hsum, rfl⟩,
        bind_eq_ok.mpr ⟨_, raiseIf_bind_ok.mpr ⟨not_not_intro hstart, rfl⟩,
        bind_eq_ok.mpr ⟨_, raiseIf_bind_ok.mpr ⟨not_not_intro hend, rfl⟩, rfl⟩⟩⟩

end Ends

/-! ### A clock that is changed once -/

/-- A change of a clock: an instant, and the offsets before it and from it on. -/
structure ClockChange where
  change : Int
  before : Int
  after : Int

namespace ClockChange

variable (c : ClockChange)

/-- The offset in force at an instant. -/
def offsetAt (t : Int) : Int := if t < c.change then c.before else c.after

/-- The clock was there before the change already. -/
def foldAt (t : Int) : Bool := decide (c.change ≤ t ∧ t + c.after < c.change + c.before)

/-- The offset of a reading. One that is skipped or comes twice has the offset from before the change
without its `fold`, and that from after it with it. -/
def offsetOf (reading : Int) (fold : Bool) : Int :=
  if fold then
    if reading < c.change + c.before ∧ reading < c.change + c.after then c.before else c.after
  else if reading < c.change + c.before ∨ reading < c.change + c.after then c.before else c.after

/-- **The change does not disturb a block** for an instant that reads in it. Readings from
`change + before` up to `change + after` are skipped, readings from `change + after` up to
`change + before` come twice. -/
structure Undisturbed (start stop now : Int) : Prop where
  /-- Before the change: the block does not end among the readings that are skipped, and does not
  begin among those that come twice unless it ends among them too. -/
  early : now < c.change → ¬ (c.change + c.before < stop ∧ stop < c.change + c.after) ∧
    ¬ (c.change + c.after ≤ start ∧ c.change + c.before ≤ stop)
  /-- While readings come again: the block ends with them, or it has all of them. -/
  again : c.change ≤ now → now + c.after < c.change + c.before →
    (c.change + c.after ≤ start ∧ stop = c.change + c.before) ∨
      (start < c.change + c.after ∧ c.change + c.before ≤ stop)
  /-- After that: the block does not begin among the readings that came twice, nor so late among
  those that were skipped that it has not begun yet by the old offset. -/
  late : c.change ≤ now → c.change + c.before ≤ now + c.after →
    ¬ (c.change + c.after ≤ start ∧ start < c.change + c.before) ∧
      ¬ (c.change + c.before < start ∧ start < c.change + c.after ∧ now < start - c.before)

/-- An instant is before the change, in the readings that come again, or past them. -/
theorem phases (t : Int) :
    (t < c.change ∧ c.offsetAt t = c.before ∧ c.foldAt t = false) ∨
    (c.change ≤ t ∧ t + c.after < c.change + c.before ∧ c.offsetAt t = c.after ∧
      c.foldAt t = true) ∨
    (c.change ≤ t ∧ c.change + c.before ≤ t + c.after ∧ c.offsetAt t = c.after ∧
      c.foldAt t = false) := by
  unfold offsetAt foldAt
  by_cases hearly : t < c.change
  · exact .inl ⟨hearly, if_pos hearly, decide_eq_false fun h => by omega⟩
  · rw [if_neg hearly]
    by_cases hagain : t + c.after < c.change + c.before
    · exact .inr (.inl ⟨by omega, hagain, rfl, decide_eq_true ⟨by omega, hagain⟩⟩)
    · exact .inr (.inr ⟨by omega, by omega, rfl, decide_eq_false fun h => by omega⟩)

theorem offsetOf_first (reading : Int) :
    ((reading < c.change + c.before ∨ reading < c.change + c.after) ∧
      c.offsetOf reading false = c.before) ∨
    (c.change + c.before ≤ reading ∧ c.change + c.after ≤ reading ∧
      c.offsetOf reading false = c.after) := by
  unfold offsetOf
  rw [if_neg Bool.false_ne_true]
  split <;> omega

theorem offsetOf_second (reading : Int) :
    (reading < c.change + c.before ∧ reading < c.change + c.after ∧
      c.offsetOf reading true = c.before) ∨
    ((c.change + c.before ≤ reading ∨ c.change + c.after ≤ reading) ∧
      c.offsetOf reading true = c.after) := by
  unfold offsetOf
  rw [if_pos rfl]
  split <;> omega

variable {c} {now start stop t : Int}

/-- In a block that is not disturbed, now is between the instants of its ends. -/
theorem Undisturbed.between (h : c.Undisturbed start stop now)
    (hstart : start ≤ now + c.offsetAt now) (hstop : now + c.offsetAt now < stop) :
    start - c.offsetOf start (c.foldAt now) ≤ now ∧ now < stop - c.offsetOf stop false := by
  have hend := c.offsetOf_first stop
  rcases c.phases now with ⟨hside, hoffset, hfold⟩ | ⟨hside, hpass, hoffset, hfold⟩ |
      ⟨hside, hpass, hoffset, hfold⟩
  · have hearly := h.early hside
    have hfirst := c.offsetOf_first start
    rw [hoffset] at hstart hstop
    rw [hfold]
    omega
  · have hagain := h.again hside hpass
    have hsecond := c.offsetOf_second start
    rw [hoffset] at hstart hstop
    rw [hfold]
    omega
  · have hlate := h.late hside hpass
    have hfirst := c.offsetOf_first start
    rw [hoffset] at hstart hstop
    rw [hfold]
    omega

/-- And every instant between them reads in the block and has its beginning read alike. -/
theorem Undisturbed.reads (h : c.Undisturbed start stop now)
    (hstart : start ≤ now + c.offsetAt now) (hstop : now + c.offsetAt now < stop)
    (ht : start - c.offsetOf start (c.foldAt now) ≤ t) (ht' : t < stop - c.offsetOf stop false) :
    (start ≤ t + c.offsetAt t ∧ t + c.offsetAt t < stop) ∧
      c.offsetOf start (c.foldAt t) = c.offsetOf start (c.foldAt now) := by
  have hend := c.offsetOf_first stop
  have hfirst := c.offsetOf_first start
  have hsecond := c.offsetOf_second start
  rcases c.phases now with ⟨hside, hoffset, hfold⟩ | ⟨hside, hpass, hoffset, hfold⟩ |
      ⟨hside, hpass, hoffset, hfold⟩
  · have hearly := h.early hside
    rw [hoffset] at hstart hstop
    rw [hfold] at ht ⊢
    rcases c.phases t with ⟨hside', hoffset', hfold'⟩ | ⟨hside', hpass', hoffset', hfold'⟩ |
        ⟨hside', hpass', hoffset', hfold'⟩
    all_goals
      rw [hoffset', hfold']
      omega
  · have hagain := h.again hside hpass
    rw [hoffset] at hstart hstop
    rw [hfold] at ht ⊢
    rcases c.phases t with ⟨hside', hoffset', hfold'⟩ | ⟨hside', hpass', hoffset', hfold'⟩ |
        ⟨hside', hpass', hoffset', hfold'⟩
    all_goals
      rw [hoffset', hfold']
      omega
  · have hlate := h.late hside hpass
    rw [hoffset] at hstart hstop
    rw [hfold] at ht ⊢
    rcases c.phases t with ⟨hside', hoffset', hfold'⟩ | ⟨hside', hpass', hoffset', hfold'⟩ |
        ⟨hside', hpass', hoffset', hfold'⟩
    all_goals
      rw [hoffset', hfold']
      omega

/-! ### A block that is disturbed -/

/-- **A disturbed block shows**: now is not in its own window, or the moment of the change is in it and
has another, whose block is that of `readings`, or the first moment past the readings that come twice
has. -/
theorem undisturbed_of_alike {length readings : Int} (hlength : 0 < length)
    (hstart : start ≤ now + c.offsetAt now) (hstop : now + c.offsetAt now < start + length)
    (hreadings : readings ≤ c.change + c.after ∧ c.change + c.after < readings + length)
    (hblocks : readings + length ≤ start ∨ readings = start ∨ start + length ≤ readings)
    (hin : start - c.offsetOf start (c.foldAt now) ≤ now ∧
      now < start + length - c.offsetOf (start + length) false)
    (hchange : start - c.offsetOf start (c.foldAt now) ≤ c.change →
      c.change < start + length - c.offsetOf (start + length) false →
      readings - c.offsetOf readings (c.foldAt c.change) =
        start - c.offsetOf start (c.foldAt now))
    (hpast : c.after ≤ c.before → start ≤ c.change + c.before →
      c.change + c.before < start + length →
      start - c.offsetOf start (c.foldAt now) ≤ c.change + c.before - c.after →
      c.change + c.before - c.after < start + length - c.offsetOf (start + length) false →
      c.offsetOf start false = c.offsetOf start (c.foldAt now)) :
    c.Undisturbed start (start + length) now := by
  have hend := c.offsetOf_first (start + length)
  have hfirst := c.offsetOf_first start
  have hfirst' := c.offsetOf_first readings
  have hsecond' := c.offsetOf_second readings
  rcases c.phases now with ⟨hside, hoffset, hfold⟩ | ⟨hside, hpass, hoffset, hfold⟩ |
      ⟨hside, hpass, hoffset, hfold⟩
  · rw [hoffset] at hstart hstop
    rw [hfold] at hin hchange hpast
    refine ⟨fun _ => ?_, fun h => by omega, fun h => by omega⟩
    rcases c.phases c.change with ⟨hnot, -, -⟩ | ⟨-, htwice, -, hfold'⟩ | ⟨-, honce, -, hfold'⟩
    · exact absurd hnot (lt_irrefl _)
    · rw [hfold'] at hchange
      omega
    · rw [hfold'] at hchange
      omega
  · have hsecond := c.offsetOf_second start
    rw [hoffset] at hstart hstop
    rw [hfold] at hin hchange hpast
    refine ⟨fun h => by omega, fun _ _ => ?_, fun _ h => by omega⟩
    omega
  · rw [hoffset] at hstart hstop
    rw [hfold] at hin hchange hpast
    refine ⟨fun h => by omega, fun _ h => by omega, fun _ _ => ?_⟩
    rcases c.phases c.change with ⟨hnot, -, -⟩ | ⟨-, htwice, -, hfold'⟩ | ⟨-, honce, -, hfold'⟩
    · exact absurd hnot (lt_irrefl _)
    · rw [hfold'] at hchange
      omega
    · rw [hfold'] at hchange
      omega

end ClockChange

/-! ### Windows of a zone -/

/-- A moment, or a reading, within some days of an instant. -/
def Near (days now t : Int) : Prop := now - days * 86400000000 ≤ t ∧ t ≤ now + days * 86400000000

/-- **The clock of a zone is changed at most once** in the five days before and after an instant. -/
structure ChangesOnce (zones : TimeZones) (key : String) (now : Instant) (c : ClockChange) : Prop where
  found : zones.lookup key = .found
  /-- An offset is less than a day. -/
  offsets : (-86400000000 < c.before ∧ c.before < 86400000000) ∧
    -86400000000 < c.after ∧ c.after < 86400000000
  fromutc : ∀ t, Near 5 now t → zones.fromutc key t = (t + c.offsetAt t, c.foldAt t)
  utcoffset : ∀ reading fold, Near 5 now reading →
    zones.utcoffset key reading fold = c.offsetOf reading fold

/-- **The window of an instant holds**: it is an interval with the instant in it, and every instant of
it has the same window. -/
def WindowHolds (zones : TimeZones) (rule : QuotaRule) (now : Instant) : Prop :=
  ∃ start stop, quotaWindow zones now rule = .ok (start, stop) ∧ start ≤ now ∧ now < stop ∧
    ∀ t, start ≤ t → t < stop → quotaWindow zones t rule = .ok (start, stop)

section Zone

variable {zones : TimeZones} {rule : QuotaRule} {now : Instant} {c : ClockChange}

theorem near_self (now : Int) : Near 5 now now := by
  unfold Near
  omega

theorem ChangesOnce.blockStart (h : ChangesOnce zones rule.timezone now c) {t : Int}
    (ht : Near 5 now t) : blockStart zones rule t = rule.window.floor (t + c.offsetAt t) := by
  unfold Zhixu.blockStart
  rw [h.fromutc t ht]

theorem ChangesOnce.offsetAt_bounds (h : ChangesOnce zones rule.timezone now c) (t : Int) :
    -86400000000 < c.offsetAt t ∧ c.offsetAt t < 86400000000 := by
  obtain ⟨hbefore, hafter⟩ := h.offsets
  unfold ClockChange.offsetAt
  split
  · exact hbefore
  · exact hafter

theorem ChangesOnce.offsetOf_bounds (h : ChangesOnce zones rule.timezone now c) (reading : Int)
    (fold : Bool) : -86400000000 < c.offsetOf reading fold ∧ c.offsetOf reading fold < 86400000000 := by
  obtain ⟨hbefore, hafter⟩ := h.offsets
  unfold ClockChange.offsetOf
  split_ifs
  · exact hbefore
  · exact hafter
  · exact hbefore
  · exact hafter

/-- The ends of the window of an instant nearby. -/
theorem ChangesOnce.ends (h : ChangesOnce zones rule.timezone now c) {t : Int}
    (ht : Near 3 now t) :
    windowStart zones rule t = rule.window.floor (t + c.offsetAt t) -
        c.offsetOf (rule.window.floor (t + c.offsetAt t)) (c.foldAt t) ∧
      windowStop zones rule t = rule.window.floor (t + c.offsetAt t) + rule.window.length -
        c.offsetOf (rule.window.floor (t + c.offsetAt t) + rule.window.length) false := by
  have hlength := rule.window.length_bounds
  have hoffset := h.offsetAt_bounds t
  have hblock := rule.window.floor_eq_iff.mp (rfl : rule.window.floor (t + c.offsetAt t) = _)
  -- the ends of its block are less than two days further
  have hnear : Near 5 now t ∧ Near 5 now (rule.window.floor (t + c.offsetAt t)) ∧
      Near 5 now (rule.window.floor (t + c.offsetAt t) + rule.window.length) := by
    unfold Near at *
    omega
  unfold windowStart windowStop
  rw [h.blockStart hnear.1, h.fromutc t hnear.1, h.utcoffset _ _ hnear.2.1,
    h.utcoffset _ _ hnear.2.2]
  exact ⟨rfl, rfl⟩

/-- **When the window of an instant holds**: where the clock is changed at most once around it, if and
only if the change does not disturb its block, and the readings are of the years 1 to 9999. -/
theorem windowHolds_iff (h : ChangesOnce zones rule.timezone now c) :
    WindowHolds zones rule now ↔ InYears zones rule now ∧
      c.Undisturbed (rule.window.floor (now + c.offsetAt now))
        (rule.window.floor (now + c.offsetAt now) + rule.window.length) now := by
  have hlength := rule.window.length_bounds
  have hnow := rule.window.floor_eq_iff.mp (rfl : rule.window.floor (now + c.offsetAt now) = _)
  have hoffset := h.offsetAt_bounds now
  have hfirst := h.offsetOf_bounds (rule.window.floor (now + c.offsetAt now)) (c.foldAt now)
  have hend := h.offsetOf_bounds (rule.window.floor (now + c.offsetAt now) + rule.window.length) false
  have hself : Near 3 now now := by
    unfold Near
    omega
  obtain ⟨hstart, hstop⟩ := h.ends hself
  -- no instant of the window is far away
  have hnear : ∀ t, windowStart zones rule now ≤ t → t < windowStop zones rule now →
      Near 3 now t := by
    intro t ht ht'
    rw [hstart] at ht
    rw [hstop] at ht'
    unfold Near
    omega
  constructor
  · rintro ⟨start, stop, hwindow, hle, hlt, hsame⟩
    obtain ⟨hyears, rfl, rfl⟩ := (quotaWindow_eq_ok h.found).mp hwindow
    have halike : ∀ t, windowStart zones rule now ≤ t → t < windowStop zones rule now →
        rule.window.floor (t + c.offsetAt t) -
          c.offsetOf (rule.window.floor (t + c.offsetAt t)) (c.foldAt t) =
        rule.window.floor (now + c.offsetAt now) -
          c.offsetOf (rule.window.floor (now + c.offsetAt now)) (c.foldAt now) := by
      intro t ht ht'
      obtain ⟨-, hsameStart, -⟩ := (quotaWindow_eq_ok h.found).mp (hsame t ht ht')
      rw [← (h.ends (hnear t ht ht')).1, ← hsameStart, hstart]
    rw [hstart, hstop] at halike
    rw [hstart] at hle
    rw [hstop] at hlt
    refine ⟨hyears, ClockChange.undisturbed_of_alike hlength.1 hnow.1 hnow.2
      (rule.window.floor_eq_iff.mp (rfl : rule.window.floor (c.change + c.after) = _))
      (rule.window.floor_cases _ _) ⟨hle, hlt⟩ (fun hin hin' => ?_) fun hback hfrom hto hpast hpast' => ?_⟩
    · have hchange := halike c.change hin hin'
      rwa [show c.offsetAt c.change = c.after from if_neg (lt_irrefl _)] at hchange
    · -- the first moment past the readings that come twice reads where they end
      have hsamePast := halike (c.change + c.before - c.after) hpast hpast'
      have hoffset' : c.offsetAt (c.change + c.before - c.after) = c.after :=
        if_neg (by omega)
      have hfold : c.foldAt (c.change + c.before - c.after) = false :=
        decide_eq_false fun hcontra => by omega
      rw [hoffset', hfold, sub_add_cancel, rule.window.floor_eq_iff.mpr ⟨hfrom, hto⟩] at hsamePast
      omega
  · rintro ⟨hyears, hquiet⟩
    obtain ⟨hle, hlt⟩ := hquiet.between hnow.1 hnow.2
    refine ⟨windowStart zones rule now, windowStop zones rule now,
      (quotaWindow_eq_ok h.found).mpr ⟨hyears, rfl, rfl⟩, by rwa [hstart], by rwa [hstop],
      fun t ht ht' => (quotaWindow_eq_ok h.found).mpr ?_⟩
    have hn := hnear t ht ht'
    have hnear' : Near 5 now t ∧ Near 5 now now := by
      unfold Near at *
      omega
    obtain ⟨hstart', hstop'⟩ := h.ends hn
    have hreads := hquiet.reads hnow.1 hnow.2 (le_of_eq_of_le hstart.symm ht)
      (lt_of_lt_of_eq ht' hstop)
    have hfloor : rule.window.floor (t + c.offsetAt t) =
        rule.window.floor (now + c.offsetAt now) := rule.window.floor_eq_iff.mpr hreads.1
    have hsameStart : windowStart zones rule t = windowStart zones rule now := by
      rw [hstart', hstart, hfloor, hreads.2]
    have hsameStop : windowStop zones rule t = windowStop zones rule now := by
      rw [hstop', hstop, hfloor]
    refine ⟨?_, hsameStart.symm, hsameStop.symm⟩
    obtain ⟨hrange, hrange', hsum, hfirst, hlast⟩ := hyears
    have hblock := rule.window.inRange_floor hrange'
    unfold InYears
    rw [hsameStart, hsameStop]
    have hstartNow := h.blockStart hnear'.2
    rw [hstartNow] at hsum
    rw [h.blockStart hnear'.1, hfloor, h.fromutc t hnear'.1]
    change Instant.InRange (blockStart zones rule now) at hblock
    rw [hstartNow] at hblock
    -- what lies between the ends exists as they do
    exact ⟨⟨hfirst.1.trans ht, ht'.le.trans hlast.2⟩,
      ⟨hblock.1.trans hreads.1.1, hreads.1.2.le.trans hsum.2⟩, hsum, hfirst, hlast⟩

end Zone

/-! ### When a refusal ends -/

/-- The last of several ends. -/
theorem isLeast_foldl_max (first : Int) (rest : List Int) :
    IsLeast {t : Int | ∀ stop ∈ first :: rest, stop ≤ t} (rest.foldl max first) := by
  induction rest generalizing first with
  | nil =>
    refine ⟨fun stop hstop => ?_, fun t ht => ht first List.mem_cons_self⟩
    exact (List.mem_singleton.mp hstop).le
  | cons next rest ih =>
    obtain ⟨hupper, hleast⟩ := ih (max first next)
    refine ⟨fun stop hstop => ?_, fun t ht => hleast fun stop hstop => ?_⟩
    · have hmax : max first next ≤ rest.foldl max (max first next) := hupper _ List.mem_cons_self
      rcases List.mem_cons.mp hstop with rfl | hstop
      · exact (le_max_left _ _).trans hmax
      · rcases List.mem_cons.mp hstop with rfl | hstop
        · exact (le_max_right _ _).trans hmax
        · exact hupper stop (List.mem_cons_of_mem _ hstop)
    · rcases List.mem_cons.mp hstop with rfl | hstop
      · exact max_le (ht _ List.mem_cons_self) (ht _ (List.mem_cons_of_mem _ List.mem_cons_self))
      · exact ht stop (List.mem_cons_of_mem _ (List.mem_cons_of_mem _ hstop))

namespace QuotaManager

variable (quota : QuotaManager) (zones : TimeZones) (scopes : List QuotaScope) (now : Instant)
  (db : Database)

/-- **A refusal says when it ends**: at the first instant at which every blocking window has ended. -/
theorem refusal_isLeast {decision : QuotaDecision} {db' : Database} {checks : List QuotaCheck}
    (h : (quota.reserve zones scopes now).exec db = (.ok decision, db'))
    (hchecks : quota.checks zones scopes now = .ok checks) (hrefused : decision.allowed = false) :
    IsLeast {t : Int | ∀ check ∈ checks, exhausted db check = true → check.stop ≤ t}
      decision.nextAvailableAt := by
  obtain ⟨hchecks', hdecide⟩ := quota.reserve_ok zones (r := ⟨scopes, now⟩) h
  obtain rfl := Except.ok.inj (hchecks.symm.trans hchecks')
  unfold decide at hdecide
  cases hblocked : (quota.checksOf zones ⟨scopes, now⟩).filter (exhausted db) with
  | nil =>
    rw [hblocked] at hdecide
    obtain ⟨rfl, -⟩ := Prod.mk.inj (Except.ok.inj hdecide)
    cases hrefused
  | cons first rest =>
    rw [hblocked] at hdecide
    obtain ⟨rfl, -⟩ := Prod.mk.inj (Except.ok.inj hdecide)
    obtain ⟨hupper, hleast⟩ := isLeast_foldl_max first.stop (rest.map QuotaCheck.stop)
    have hstops : ∀ t : Int, (∀ stop ∈ first.stop :: rest.map QuotaCheck.stop, stop ≤ t) ↔
        ∀ check ∈ quota.checksOf zones ⟨scopes, now⟩, exhausted db check = true →
          check.stop ≤ t := by
      intro t
      rw [← List.map_cons, ← hblocked, List.forall_mem_map]
      refine forall_congr' fun check => ?_
      rw [List.mem_filter, and_imp]
    exact ⟨(hstops _).mp hupper, fun t ht => hleast ((hstops t).mpr ht)⟩

/-- **The windows of a manager hold at an instant**: those of its rules do, and a refusal ends when
the windows that block have ended. -/
structure KeepsWindows : Prop where
  windows : ∀ rule ∈ quota.rules, WindowHolds zones rule now
  refusal : ∀ decision db' checks, (quota.reserve zones scopes now).exec db = (.ok decision, db') →
    quota.checks zones scopes now = .ok checks → decision.allowed = false →
    IsLeast {t : Int | ∀ check ∈ checks, exhausted db check = true → check.stop ≤ t}
      decision.nextAvailableAt

/-- **Quota windows partition time** as far as no change of a clock disturbs them. -/
theorem keepsWindows_iff (changes : QuotaRule → ClockChange)
    (hchanges : ∀ rule ∈ quota.rules, ChangesOnce zones rule.timezone now (changes rule)) :
    quota.KeepsWindows zones scopes now db ↔ ∀ rule ∈ quota.rules, InYears zones rule now ∧
      (changes rule).Undisturbed (blockStart zones rule now)
        (blockStart zones rule now + rule.window.length) now := by
  constructor
  · intro h rule hrule
    rw [(hchanges rule hrule).blockStart (near_self now)]
    exact (windowHolds_iff (hchanges rule hrule)).mp (h.windows rule hrule)
  · intro h
    refine ⟨fun rule hrule => (windowHolds_iff (hchanges rule hrule)).mpr ?_,
      fun decision db' checks hcall hchecks hrefused =>
        refusal_isLeast quota zones scopes now db hcall hchecks hrefused⟩
    rw [← (hchanges rule hrule).blockStart (near_self now)]
    exact h rule hrule

/-! London on 26 October 2025, where an hour comes twice. -/

/-- A zone whose clock is changed once. -/
def zoneOf (c : ClockChange) : TimeZones where
  lookup _ := .found
  utcoffset _ reading fold := c.offsetOf reading fold
  fromutc _ t := (t + c.offsetAt t, c.foldAt t)

theorem changesOnce_zoneOf {c : ClockChange}
    (hoffsets : (-86400000000 < c.before ∧ c.before < 86400000000) ∧
      -86400000000 < c.after ∧ c.after < 86400000000) (key : String) (now : Instant) :
    ChangesOnce (zoneOf c) key now c :=
  ⟨rfl, hoffsets, fun _ _ => rfl, fun _ _ _ => rfl⟩

/-- At one o'clock in UTC, from an hour ahead to none. -/
def october : ClockChange where
  change := Wall.midnight (Calendar.toOrdinal 2025 10 26) + Duration.minutes 60
  before := Duration.minutes 60
  after := 0

/-- Two messages a minute, on the clock of London. -/
def eachMinute : QuotaManager := ⟨[twicePerMinute "Europe/London"], List.cons_ne_nil _ _⟩

/-- Half past one, the second time. -/
def halfPastOne : Instant := october.change + Duration.minutes 30 + Duration.seconds 30

theorem october_keeps :
    eachMinute.KeepsWindows (zoneOf october) (forAlice 0).scopes halfPastOne {} ↔
      ∀ rule ∈ eachMinute.rules, InYears (zoneOf october) rule halfPastOne ∧
        october.Undisturbed (blockStart (zoneOf october) rule halfPastOne)
          (blockStart (zoneOf october) rule halfPastOne + rule.window.length) halfPastOne :=
  eachMinute.keepsWindows_iff (zoneOf october) (forAlice 0).scopes halfPastOne {} (fun _ => october)
    fun rule _ => changesOnce_zoneOf (by decide) rule.timezone halfPastOne

/-- **The minute has ended an hour before it is asked for.** -/
theorem october_ends_early :
    ¬ ∀ (quota : QuotaManager) (zones : TimeZones) (scopes : List QuotaScope) (now : Instant)
      (db : Database), (∀ rule ∈ quota.rules, zones.lookup rule.timezone = .found) →
        quota.KeepsWindows zones scopes now db := by
  intro h
  have hkeeps := h eachMinute (zoneOf october) (forAlice 0).scopes halfPastOne {} fun _ _ => rfl
  obtain ⟨start, stop, hwindow, -, hlt, -⟩ := hkeeps.windows _ List.mem_cons_self
  have hends : quotaWindow (zoneOf october) halfPastOne (twicePerMinute "Europe/London") =
      .ok (halfPastOne - Duration.seconds 30, halfPastOne - Duration.minutes 60 +
        Duration.seconds 30) := by decide +kernel
  obtain ⟨-, rfl⟩ := Prod.mk.inj (Except.ok.inj (hends.symm.trans hwindow))
  revert hlt
  decide

end QuotaManager

end Zhixu
