import Zhixu.Domain.Agenda
import Zhixu.Framework.Rank

/-!
# The position of a business day

`monthlyBusinessDay` builds the list of the working days of a month and takes an element of it.
Here is what it answers with, without the list: the day has as many working days before it in its
month as the position says, or as many after it for a position that is counted from the end
(`FallsOn`, `monthlyBusinessDay_eq_ok`). It answers at all in the years whose holidays are installed
and where the month has that many working days (`monthlyBusinessDay_returns`).

A month has at most one such day (`FallsOn.unique`).
-/

open Framework

namespace Zhixu

namespace BusinessCalendar

/-! ### Working days -/

/-- The region works on a day. -/
def WorksOn (calendar : BusinessCalendar) (year month day : Int) : Prop :=
  (Calendar.toOrdinal year month day + 6) % 7 < 5 ∧ (year, month, day) ∉ calendar.holidays

instance (calendar : BusinessCalendar) (year month day : Int) :
    Decidable (calendar.WorksOn year month day) := inferInstanceAs (Decidable (_ ∧ _))

/-- The working days of a month. -/
def workingDays (calendar : BusinessCalendar) (year month : Int) : List Int :=
  (monthDays year month).filter fun day => decide (calendar.WorksOn year month day)

/-- **The business day of a position**, counted from the first working day of the month or, if the
position is negative, from the last. -/
structure FallsOn (calendar : BusinessCalendar) (position year month day : Int) : Prop where
  installed : year ∈ calendar.supportedYears
  exists_day : 1 ≤ day ∧ day ≤ Calendar.daysInMonth year month
  works : calendar.WorksOn year month day
  counted : (Rank.below id (calendar.workingDays year month) day : Int) + 1 = position ∨
    (Rank.above id (calendar.workingDays year month) day : Int) + 1 = -position

/-- A month has a business day of the position. -/
def HasPosition (calendar : BusinessCalendar) (position year month : Int) : Prop :=
  year ∈ calendar.supportedYears ∧ position ≠ 0 ∧
    position.natAbs ≤ (calendar.workingDays year month).length

instance (calendar : BusinessCalendar) (position year month : Int) :
    Decidable (calendar.HasPosition position year month) :=
  inferInstanceAs (Decidable (_ ∧ _ ∧ _))

variable {calendar : BusinessCalendar} {year month day position : Int}

theorem monthDays_eq (year month : Int) : monthDays year month =
    (List.range (Calendar.daysInMonth year month).toNat).map (fun k : ℕ => (k : Int) + 1) := by
  unfold monthDays
  rw [List.bind_eq_flatMap]
  simp only [List.pure_def, List.map_flatMap, List.map_cons, List.map_nil]
  exact List.flatMap_pure_eq_map _ _

theorem mem_monthDays : day ∈ monthDays year month ↔
    1 ≤ day ∧ day ≤ Calendar.daysInMonth year month := by
  rw [monthDays_eq, List.mem_map]
  constructor
  · rintro ⟨k, hk, rfl⟩
    rw [List.mem_range] at hk
    omega
  · rintro ⟨h1, hlast⟩
    refine ⟨(day - 1).toNat, ?_, by omega⟩
    rw [List.mem_range]
    omega

theorem monthDays_sorted (year month : Int) : (monthDays year month).Pairwise (· < ·) := by
  rw [monthDays_eq, List.pairwise_map]
  exact List.pairwise_lt_range.imp fun h => by omega

theorem length_monthDays (year month : Int) :
    ((monthDays year month).length : Int) = Calendar.daysInMonth year month := by
  have hbounds := Calendar.daysInMonth_bounds year month
  rw [monthDays_eq, List.length_map, List.length_range]
  omega

theorem mem_workingDays : day ∈ calendar.workingDays year month ↔
    (1 ≤ day ∧ day ≤ Calendar.daysInMonth year month) ∧ calendar.WorksOn year month day := by
  unfold workingDays
  rw [List.mem_filter, mem_monthDays, decide_eq_true_eq]

theorem workingDays_sorted (calendar : BusinessCalendar) (year month : Int) :
    (calendar.workingDays year month).Pairwise fun a b => id a < id b :=
  (monthDays_sorted year month).filter _

theorem length_workingDays (calendar : BusinessCalendar) (year month : Int) :
    (calendar.workingDays year month).length ≤ 31 := by
  have hshorter : (calendar.workingDays year month).length ≤ (monthDays year month).length :=
    List.length_filter_le _ _
  have hlength := length_monthDays year month
  have hbounds := Calendar.daysInMonth_bounds year month
  omega

/-! ### Counting -/

/-- The element of a list that a position stands for has the right number of elements on one side. -/
theorem atPosition_eq_some {days : List Int} (hsorted : days.Pairwise fun a b => id a < id b) :
    atPosition days position = some day ↔ day ∈ days ∧
      ((Rank.below id days day : Int) + 1 = position ∨
        (Rank.above id days day : Int) + 1 = -position) := by
  unfold atPosition
  by_cases hpos : 0 < position
  · rw [if_pos hpos, Rank.getElem?_iff_below hsorted]
    refine and_congr_right fun _ => ?_
    show Rank.below id days day = (position - 1).toNat ↔ _
    omega
  · rw [if_neg hpos]
    by_cases hin : 0 ≤ days.length + position
    · rw [if_pos hin, Rank.getElem?_iff_below hsorted]
      refine and_congr_right fun hmem => ?_
      -- what is not below the day is above it
      have hsplit := Rank.below_add_above hsorted hmem
      rw [id_eq] at hsplit
      show Rank.below id days day = (days.length + position).toNat ↔ _
      omega
    · rw [if_neg hin]
      constructor
      · intro h
        cases h
      · rintro ⟨hmem, hcount⟩
        have hsplit := Rank.below_add_above hsorted hmem
        rw [id_eq] at hsplit
        omega

/-- A list has an element at a position if it is long enough, and none at zero. -/
theorem exists_atPosition (days : List Int) (hne : position ≠ 0) :
    (∃ day, atPosition days position = some day) ↔ position.natAbs ≤ days.length := by
  rw [← Option.isSome_iff_exists]
  unfold atPosition
  split_ifs with hpos hin
  · rw [Option.isSome_iff_ne_none, ne_eq, List.getElem?_eq_none_iff]
    omega
  · rw [Option.isSome_iff_ne_none, ne_eq, List.getElem?_eq_none_iff]
    omega
  · simp only [Option.isSome_none, Bool.false_eq_true, false_iff]
    omega

/-! ### What the source computes -/

theorem isBusinessDay_installed (h : year ∈ calendar.supportedYears) :
    calendar.isBusinessDay year month day = .ok (decide (calendar.WorksOn year month day)) := by
  unfold isBusinessDay
  rw [raiseIf_bind_ok]
  exact ⟨not_not_intro h, congrArg Except.ok (Bool.decide_and _ _).symm⟩

/-- In an installed year the list holds the working days. -/
theorem businessDays_installed (h : year ∈ calendar.supportedYears) :
    calendar.businessDays year month =
      .ok ((calendar.workingDays year month).map (Calendar.toOrdinal year month)) := by
  unfold businessDays workingDays
  induction monthDays year month with
  | nil => rfl
  | cons day days ih =>
    unfold collect
    rw [ih, isBusinessDay_installed h]
    by_cases hworks : calendar.WorksOn year month day
    · have hkept : decide (calendar.WorksOn year month day) = true := decide_eq_true hworks
      rw [List.filter_cons, if_pos hkept, hkept]
      rfl
    · have hdropped : decide (calendar.WorksOn year month day) = false := decide_eq_false hworks
      rw [List.filter_cons, hdropped]
      rfl

/-- In any other year there is no list: a month has a first day, and it raises there. -/
theorem businessDays_missing (h : year ∉ calendar.supportedYears) :
    calendar.businessDays year month =
      .error (.validation (calendar.label ++ " holiday calendar year is not installed")) := by
  have hlength := length_monthDays year month
  have hbounds := Calendar.daysInMonth_bounds year month
  unfold businessDays
  cases hdays : monthDays year month with
  | nil =>
    rw [hdays, List.length_nil] at hlength
    omega
  | cons day days =>
    unfold collect
    refine bind_eq_error.mpr (.inl (bind_eq_error.mpr (.inl ?_)))
    unfold isBusinessDay
    exact raiseIf_bind_error.mpr (.inl ⟨h, rfl⟩)

/-- The list is in order of the days. -/
theorem businessDays_sorted (calendar : BusinessCalendar) (year month : Int) :
    ((calendar.workingDays year month).map (Calendar.toOrdinal year month)).Pairwise
      fun a b => id a < id b := by
  rw [List.pairwise_map]
  refine (workingDays_sorted calendar year month).imp fun h => ?_
  show Calendar.toOrdinal year month _ < Calendar.toOrdinal year month _
  unfold Calendar.toOrdinal
  rw [id_eq, id_eq] at h
  omega

/-- The ranks of an ordinal in the list are those of the day in the month. -/
theorem rank_ordinals (calendar : BusinessCalendar) (year month day : Int) :
    Rank.below id ((calendar.workingDays year month).map (Calendar.toOrdinal year month))
        (Calendar.toOrdinal year month day) = Rank.below id (calendar.workingDays year month) day ∧
      Rank.above id ((calendar.workingDays year month).map (Calendar.toOrdinal year month))
        (Calendar.toOrdinal year month day) = Rank.above id (calendar.workingDays year month) day := by
  unfold Rank.below Rank.above Calendar.toOrdinal
  rw [List.countP_map, List.countP_map]
  constructor
  · refine List.countP_congr fun other _ => ?_
    simp
  · refine List.countP_congr fun other _ => ?_
    simp

/-- In an installed year the answer is the element of the list. -/
theorem monthlyBusinessDay_installed (hyear : year ∈ calendar.supportedYears) {date : Int} :
    calendar.monthlyBusinessDay year month position = .ok date ↔
      ¬ (position = 0 ∨ 31 < position.natAbs) ∧
        atPosition ((calendar.workingDays year month).map (Calendar.toOrdinal year month))
          position = some date := by
  unfold monthlyBusinessDay
  rw [raiseIf_bind_ok, businessDays_installed hyear, bind_eq_ok]
  refine and_congr_right fun _ => ?_
  cases hat : atPosition ((calendar.workingDays year month).map (Calendar.toOrdinal year month))
      position with
  | none => simp [hat]
  | some found => simp [hat, pure, Except.pure]

/-- **What `monthly_business_day` answers with** is the business day of the position. -/
theorem monthlyBusinessDay_eq_ok {date : Int} :
    calendar.monthlyBusinessDay year month position = .ok date ↔
      ∃ day, calendar.FallsOn position year month day ∧
        date = Calendar.toOrdinal year month day := by
  by_cases hyear : year ∈ calendar.supportedYears
  · rw [monthlyBusinessDay_installed hyear,
      atPosition_eq_some (businessDays_sorted calendar year month), List.mem_map]
    constructor
    · rintro ⟨-, ⟨day, hmem, rfl⟩, hcount⟩
      obtain ⟨hday, hworks⟩ := mem_workingDays.mp hmem
      obtain ⟨hbelow, habove⟩ := rank_ordinals calendar year month day
      rw [hbelow, habove] at hcount
      exact ⟨day, ⟨hyear, hday, hworks, hcount⟩, rfl⟩
    · rintro ⟨day, hfalls, rfl⟩
      have hmem := mem_workingDays.mpr ⟨hfalls.exists_day, hfalls.works⟩
      have hcount := hfalls.counted
      obtain ⟨hbelow, habove⟩ := rank_ordinals calendar year month day
      have hsplit := Rank.below_add_above (workingDays_sorted calendar year month) hmem
      have hlength := length_workingDays calendar year month
      rw [id_eq] at hsplit
      refine ⟨by omega, ⟨day, hmem, rfl⟩, ?_⟩
      rw [hbelow, habove]
      exact hcount
  · unfold monthlyBusinessDay
    rw [raiseIf_bind_ok, businessDays_missing hyear]
    constructor
    · rintro ⟨-, h⟩
      cases h
    · rintro ⟨day, hfalls, -⟩
      exact absurd hfalls.installed hyear

/-- **It answers** where the year is installed and the month has the position. -/
theorem monthlyBusinessDay_returns :
    (∃ date, calendar.monthlyBusinessDay year month position = .ok date) ↔
      calendar.HasPosition position year month := by
  have hlength := length_workingDays calendar year month
  constructor
  · rintro ⟨date, h⟩
    obtain ⟨day, hfalls, -⟩ := monthlyBusinessDay_eq_ok.mp h
    have hmem := mem_workingDays.mpr ⟨hfalls.exists_day, hfalls.works⟩
    have hcount := hfalls.counted
    have hsplit := Rank.below_add_above (workingDays_sorted calendar year month) hmem
    rw [id_eq] at hsplit
    exact ⟨hfalls.installed, by omega, by omega⟩
  · rintro ⟨hyear, hne, hlong⟩
    -- the list is long enough for the position
    obtain ⟨date, hdate⟩ := (exists_atPosition ((calendar.workingDays year month).map
      (Calendar.toOrdinal year month)) hne).mpr (by rwa [List.length_map])
    exact ⟨date, (monthlyBusinessDay_installed hyear).mpr ⟨by omega, hdate⟩⟩

/-- A month has one business day of a position. -/
theorem FallsOn.unique {day' : Int} (h : calendar.FallsOn position year month day)
    (h' : calendar.FallsOn position year month day') : day = day' := by
  have hsame := (monthlyBusinessDay_eq_ok.mpr ⟨day, h, rfl⟩).symm.trans
    (monthlyBusinessDay_eq_ok.mpr ⟨day', h', rfl⟩)
  have hordinal := Except.ok.inj hsame
  unfold Calendar.toOrdinal at hordinal
  omega

end BusinessCalendar

end Zhixu
