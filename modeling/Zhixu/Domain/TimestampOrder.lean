import Zhixu.Domain.DateTime
import Zhixu.Domain.Timestamp
import Mathlib.Data.String.Basic

/-!
# Stored timestamps sort by time

The queries of the stores compare timestamps as texts (`expires_at <= ?`, `ORDER BY fire_at`), and the
models of these queries compare instants. Both come to the same, which is proved here.

The text of an instant is a row of numbers of fixed width with the same signs between them, up to the
second. Texts of the same length that differ in their first number are in the order of these numbers,
whatever follows (`number_lt`), so the texts up to the second are in the order of the seconds. Within
one second the shorter text has no fraction. It goes on with a plus sign where the longer one has its
point, and the plus sign is the smaller of the two characters.
-/

open Framework

namespace Zhixu

/-! ### Texts in the order of their characters -/

/-- Of two texts of the same length the smaller one is smaller in front of anything. -/
theorem append_lt_append {as bs : List Char} (hlength : as.length = bs.length) (h : as < bs)
    (cs ds : List Char) : as ++ cs < bs ++ ds := by
  induction as generalizing bs with
  | nil =>
    rw [List.eq_nil_of_length_eq_zero hlength.symm] at h
    exact absurd h (lt_irrefl _)
  | cons a as ih =>
    cases bs with
    | nil => exact absurd hlength (by simp)
    | cons b bs =>
      rw [List.cons_append, List.cons_append, List.cons_lt_cons_iff]
      rcases List.cons_lt_cons_iff.mp h with hab | ⟨hab, hrest⟩
      · exact Or.inl hab
      · exact Or.inr ⟨hab, ih (Nat.succ.inj hlength) hrest⟩

theorem digitChar_lt {a b : ℕ} (hb : b < 10) (h : a < b) : Nat.digitChar a < Nat.digitChar b := by
  have hall : ∀ b < 10, ∀ a < b, Nat.digitChar a < Nat.digitChar b := by decide
  exact hall b hb a h

/-- **The digits of the smaller number** are the smaller text. -/
theorem digits_lt {width m n : ℕ} (hn : n < 10 ^ width) (h : m < n) :
    digits width m < digits width n := by
  induction width generalizing m n with
  | zero =>
    rw [pow_zero] at hn
    omega
  | succ width ih =>
    rw [digits, digits]
    rw [pow_succ] at hn
    rcases Nat.lt_or_eq_of_le (Nat.div_le_div_right (c := 10) h.le) with hdiv | hdiv
    · exact append_lt_append (by simp) (ih (by omega) hdiv) _ _
    · -- the numbers differ in their last digit
      rw [hdiv]
      refine List.append_left_lt (List.cons_lt_cons_iff.mpr (Or.inl ?_))
      exact digitChar_lt (Nat.mod_lt n (by decide)) (by omega)

/-- A number and what follows it, in the order of the numbers and then of what follows. -/
theorem number_lt {width : ℕ} {m n : Int} (hm : 0 ≤ m) (hn : 0 ≤ n ∧ n < 10 ^ width)
    {cs ds : List Char} (h : m < n ∨ m = n ∧ cs < ds) :
    digits width m.toNat ++ cs < digits width n.toNat ++ ds := by
  rcases h with hlt | ⟨rfl, hrest⟩
  · refine append_lt_append (by simp) (digits_lt ?_ (by omega)) _ _
    have hcast : ((n.toNat : ℕ) : Int) < ((10 ^ width : ℕ) : Int) := by
      push_cast
      omega
    exact_mod_cast hcast
  · exact List.append_left_lt hrest

/-! ### Dates in the order of their parts -/

/-- The earlier of two ordinals has the earlier date: an earlier year, or in one year an earlier month,
or in one month an earlier day. -/
theorem civil_lt {d e : Int} (h : d < e) :
    (Calendar.civil d).1 < (Calendar.civil e).1 ∨ (Calendar.civil d).1 = (Calendar.civil e).1 ∧
      ((Calendar.civil d).2.1 < (Calendar.civil e).2.1 ∨
        (Calendar.civil d).2.1 = (Calendar.civil e).2.1 ∧
          (Calendar.civil d).2.2 < (Calendar.civil e).2.2) := by
  have hd := Calendar.fits_civil d
  have he := Calendar.fits_civil e
  have hsame := Calendar.ordinal_civil d
  have hsame' := Calendar.ordinal_civil e
  -- otherwise the date of `e` would be in an earlier month, or earlier in the same one
  by_contra hnot
  by_cases hmonth : (Calendar.civil e).1 < (Calendar.civil d).1 ∨
      ((Calendar.civil e).1 = (Calendar.civil d).1 ∧
        (Calendar.civil e).2.1 < (Calendar.civil d).2.1)
  · have hlt := Calendar.ordinal_lt_of_month he hd hmonth
    omega
  · have hyear : (Calendar.civil d).1 = (Calendar.civil e).1 := by omega
    have hmonth' : (Calendar.civil d).2.1 = (Calendar.civil e).2.1 := by omega
    have hday : (Calendar.civil e).2.2 ≤ (Calendar.civil d).2.2 := by omega
    rw [hyear, hmonth'] at hsame
    unfold Calendar.toOrdinal at hsame hsame'
    omega

/-! ### Timestamps -/

/-- What comes first decides; of equal firsts what comes behind the sign between. -/
theorem sign_lt {m n : Int} {sign : Char} {cs ds : List Char} (h : m < n ∨ m = n ∧ cs < ds) :
    m < n ∨ m = n ∧ sign :: cs < sign :: ds :=
  h.imp_right fun ⟨hsame, hrest⟩ => ⟨hsame, List.cons_lt_cons_self.mpr hrest⟩

/-- The seconds of two times in one day. -/
theorem clock_lt {t u : Int} (h : Wall.timeOfDay t / 1000000 < Wall.timeOfDay u / 1000000) :
    Wall.timeOfDay t / 3600000000 < Wall.timeOfDay u / 3600000000 ∨
      Wall.timeOfDay t / 3600000000 = Wall.timeOfDay u / 3600000000 ∧
        (Wall.timeOfDay t / 60000000 % 60 < Wall.timeOfDay u / 60000000 % 60 ∨
          Wall.timeOfDay t / 60000000 % 60 = Wall.timeOfDay u / 60000000 % 60 ∧
            Wall.timeOfDay t / 1000000 % 60 < Wall.timeOfDay u / 1000000 % 60) := by
  omega

/-- The texts of two instants up to their seconds. -/
theorem isoSeconds_lt {t u : Int} (ht : Instant.InRange t) (hu : Instant.InRange u)
    (h : t / 1000000 < u / 1000000) : isoSeconds t < isoSeconds u := by
  obtain ⟨hy1, hy2, hm1, hm2, hd1, hd2⟩ := Calendar.isDate_civil (Wall.inCalendar_ordinal ht)
  obtain ⟨hy1', hy2', hm1', hm2', hd1', hd2'⟩ := Calendar.isDate_civil (Wall.inCalendar_ordinal hu)
  have hdays' := Calendar.daysInMonth_bounds (Calendar.civil (Wall.ordinal u)).1
    (Calendar.civil (Wall.ordinal u)).2.1
  have htod := Wall.timeOfDay_bounds t
  have htod' := Wall.timeOfDay_bounds u
  have hsplit := Wall.midnight_add_timeOfDay t
  have hsplit' := Wall.midnight_add_timeOfDay u
  have hdate : Wall.ordinal t < Wall.ordinal u ∨
      Wall.ordinal t = Wall.ordinal u ∧ Wall.timeOfDay t / 1000000 < Wall.timeOfDay u / 1000000 := by
    unfold Wall.midnight at hsplit hsplit'
    omega
  -- one number after another, until the first that differs
  unfold isoSeconds
  rcases hdate with hday | ⟨hday, hclock⟩
  · have hcivil := civil_lt hday
    refine number_lt (by omega) (by omega) (sign_lt (hcivil.imp_right fun ⟨hyear, hcivil⟩ =>
      ⟨hyear, number_lt (by omega) (by omega) (sign_lt (hcivil.imp_right fun ⟨hmonth, hcivil⟩ =>
        ⟨hmonth, number_lt (by omega) (by omega) (Or.inl hcivil)⟩))⟩))
  · have hclock := clock_lt hclock
    rw [hday]
    refine number_lt (by omega) (by omega) (Or.inr ⟨rfl, List.cons_lt_cons_self.mpr ?_⟩)
    refine number_lt (by omega) (by omega) (Or.inr ⟨rfl, List.cons_lt_cons_self.mpr ?_⟩)
    refine number_lt (by omega) (by omega) (Or.inr ⟨rfl, List.cons_lt_cons_self.mpr ?_⟩)
    refine number_lt (by omega) (by omega) (sign_lt (hclock.imp_right fun ⟨hhour, hclock⟩ =>
      ⟨hhour, number_lt (by omega) (by omega) (sign_lt (hclock.imp_right fun ⟨hminute, hclock⟩ =>
        ⟨hminute, ?_⟩))⟩))
    have hnumber : digits 2 (Wall.timeOfDay t / 1000000 % 60).toNat ++ [] <
        digits 2 (Wall.timeOfDay u / 1000000 % 60).toNat ++ [] :=
      number_lt (by omega) (by omega) (Or.inl hclock)
    rwa [List.append_nil, List.append_nil] at hnumber

/-- The text up to the second knows no more than the second. -/
theorem isoSeconds_congr {t u : Int} (h : t / 1000000 = u / 1000000) :
    isoSeconds t = isoSeconds u := by
  have hday : Wall.ordinal t = Wall.ordinal u := by
    unfold Wall.ordinal
    omega
  have hhour : Wall.timeOfDay t / 3600000000 = Wall.timeOfDay u / 3600000000 := by
    unfold Wall.timeOfDay
    omega
  have hminute : Wall.timeOfDay t / 60000000 = Wall.timeOfDay u / 60000000 := by
    unfold Wall.timeOfDay
    omega
  have hsecond : Wall.timeOfDay t / 1000000 = Wall.timeOfDay u / 1000000 := by
    unfold Wall.timeOfDay
    omega
  unfold isoSeconds
  rw [hday, hhour, hminute, hsecond]

/-- Within one second the fraction decides, and a text without one is the smallest. -/
theorem isoTail_lt {t u : Int} (h : t % 1000000 < u % 1000000) : isoTail t < isoTail u := by
  have hfraction : ¬ u % 1000000 = 0 := by omega
  unfold isoTail
  rw [if_neg hfraction]
  by_cases hzero : t % 1000000 = 0
  · rw [if_pos hzero]
    show '+' :: _ < '.' :: _
    exact List.cons_lt_cons_iff.mpr (Or.inl (by decide))
  · rw [if_neg hzero]
    exact List.cons_lt_cons_self.mpr (number_lt (by omega) (by omega) (Or.inl h))

/-- **The text of the earlier instant is the smaller one**, with or without a fraction. -/
theorem isoformat_lt {t u : Int} (ht : Instant.InRange t) (hu : Instant.InRange u) (h : t < u) :
    isoformat t < isoformat u := by
  rw [String.lt_iff_toList_lt]
  unfold isoformat
  rw [String.toList_ofList, String.toList_ofList]
  rcases Int.lt_or_eq_of_le (Int.ediv_le_ediv (by decide : (0 : Int) < 1000000) h.le) with hsec | hsec
  · exact append_lt_append (by simp) (isoSeconds_lt ht hu hsec) _ _
  · rw [isoSeconds_congr hsec]
    exact List.append_left_lt (isoTail_lt (by omega))

theorem isoformat_lt_iff {t u : Int} (ht : Instant.InRange t) (hu : Instant.InRange u) :
    isoformat t < isoformat u ↔ t < u := by
  refine ⟨fun h => ?_, isoformat_lt ht hu⟩
  rcases lt_trichotomy t u with hlt | rfl | hgt
  · exact hlt
  · exact absurd h (lt_irrefl _)
  · exact absurd h (lt_asymm (isoformat_lt hu ht hgt))

namespace DateTime

/-- `_dump_datetime`, and `_dump` of the outbox: the text that is stored. -/
def dumpText (zones : TimeZones) (dt : DateTime) : Except PyError String := do
  let t ← dt.toUtc zones
  return isoformat t

theorem dumpText_eq_ok {zones : TimeZones} {dt : DateTime} {text : String} :
    dt.dumpText zones = .ok text ↔
      Instant.InRange (dt.instant zones) ∧ text = isoformat (dt.instant zones) := by
  unfold dumpText toUtc
  rw [bind_assoc, raiseIf_bind_ok, not_not]
  constructor
  · rintro ⟨hrange, htext⟩
    exact ⟨hrange, (Except.ok.inj htext).symm⟩
  · rintro ⟨hrange, rfl⟩
    exact ⟨hrange, rfl⟩

/-- **Stored timestamps sort by time.** -/
theorem dumpText_order {zones : TimeZones} {a b : DateTime} {x y : String}
    (ha : a.dumpText zones = .ok x) (hb : b.dumpText zones = .ok y) :
    (x < y ↔ a.instant zones < b.instant zones) ∧
      (x = y ↔ a.instant zones = b.instant zones) := by
  obtain ⟨hrange, rfl⟩ := dumpText_eq_ok.mp ha
  obtain ⟨hrange', rfl⟩ := dumpText_eq_ok.mp hb
  refine ⟨isoformat_lt_iff hrange hrange', isoformat_injective hrange hrange', fun h => ?_⟩
  rw [h]

/-- The zones of the example. -/
def eastern : TimeZones where
  lookup := fun _ => .found
  utcoffset := fun _ _ _ => Duration.minutes 480
  fromutc := fun _ t => (t + Duration.minutes 480, false)

/-- Noon of 1 March 2026 in UTC, and half a second later as 20:00:00.5 in a zone eight hours ahead. -/
theorem dumpText_order_noon :
    "2026-03-01T12:00:00+00:00" < "2026-03-01T12:00:00.500000+00:00" := by
  have hnoon : dumpText eastern { wall := 1772366400000000, zone := .utc } =
      .ok "2026-03-01T12:00:00+00:00" := dumpText_eq_ok.mpr ⟨by decide, by decide +kernel⟩
  have hlater : dumpText eastern { wall := 1772395200500000, zone := .named "Asia/Shanghai" } =
      .ok "2026-03-01T12:00:00.500000+00:00" := dumpText_eq_ok.mpr ⟨by decide, by decide +kernel⟩
  exact (dumpText_order hnoon hlater).1.mpr (by decide)

end DateTime

end Zhixu
