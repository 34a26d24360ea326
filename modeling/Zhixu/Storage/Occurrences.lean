import Zhixu.Domain.BusinessExpansion
import Zhixu.Storage.Schedule

/-!
# What an owner has in a window

`AgendaRepository.occurrences` selects the items of an owner by their stored times, expands each with
its stored exceptions, and sorts what it gets. `occurrences_complete_iff` says when the answer holds
everything that takes place in the window: each instance of each item that shows there, once.

What the query does list follows from its parts. A selected item contributes the instances that its
expansion lists (`occurrencesBetween_lists`), the answers for the items are put together
(`listsInOrder_flatten`), and sorting moves them about. So the question is what shows in the window
and is left out, which `lists_iff` answers: an instance of an item that the query does not select, one
that the expansion does not look for, or one that does not stand in the window. The last is what
happens to an occurrence that its exception has moved into the window from elsewhere.
-/

open Framework

namespace Zhixu

namespace AgendaRepository

/-! ### What is to be listed -/

/-- What a row and its exceptions are read as. -/
structure ReadAs (engine : RecurrenceEngine) (db : Database) (row : AgendaRow) (item : AgendaItem)
    (found : List RecurrenceException) : Prop where
  record : fromRow engine db row = .ok item
  stored : exceptions engine.zones db item = .ok found

/-- **An instance of an item of the owner shows in the window.** -/
def OwnerShows (engine : RecurrenceEngine) (ownerUserId : String) (windowStart windowEnd : DateTime)
    (db : Database) (p : AgendaRow × DateTime) : Prop :=
  p.1 ∈ db.agendaItems.rows ∧ p.1.ownerUserId = ownerUserId ∧ ∃ item found,
    ReadAs engine db p.1 item found ∧ ShowsIn engine item found windowStart windowEnd p.2

/-- Where it takes place. -/
def OwnerPlace (engine : RecurrenceEngine) (db : Database) (p : AgendaRow × DateTime)
    (occurrence : AgendaOccurrence) : Prop :=
  ∃ item found, ReadAs engine db p.1 item found ∧
    TakesPlace engine.zones item found p.2 occurrence

/-- The condition of the query on a row. -/
def Selected (db : Database) (ownerUserId : String) (windowStart windowEnd : Instant)
    (row : AgendaRow) : Prop :=
  row.ownerUserId = ownerUserId ∧
    (recurs db row.id = true ∨ windowStart < row.endAt ∧ row.startAt < windowEnd)

/-- **The answer is complete and exact.** -/
def ListsOccurrences (engine : RecurrenceEngine) (ownerUserId : String)
    (windowStart windowEnd : DateTime) (db : Database) : Prop :=
  ∃ found, occurrences engine ownerUserId windowStart windowEnd db = .ok found ∧
    Lists (OwnerShows engine ownerUserId windowStart windowEnd db) (OwnerPlace engine db) found

variable {engine : RecurrenceEngine} {ownerUserId : String} {windowStart windowEnd : DateTime}
  {db : Database} {row : AgendaRow} {item : AgendaItem} {stored : List RecurrenceException}

/-! ### One item -/

theorem ReadAs.unique {item' : AgendaItem} {stored' : List RecurrenceException}
    (h : ReadAs engine db row item stored) (h' : ReadAs engine db row item' stored') :
    item = item' ∧ stored = stored' := by
  obtain rfl := Except.ok.inj (h.record.symm.trans h'.record)
  exact ⟨rfl, Except.ok.inj (h.stored.symm.trans h'.stored)⟩

/-- A stored exception was checked when it was read. -/
theorem ReadAs.checked (h : ReadAs engine db row item stored) :
    ∀ e ∈ stored, e.checked engine.zones = .ok e := by
  intro e he
  obtain ⟨r, -, hr⟩ := (mem_collect h.stored).mp he
  obtain ⟨occurrenceAt, -, hr⟩ := bind_eq_ok.mp hr
  obtain ⟨replacementStart, -, hr⟩ := bind_eq_ok.mp hr
  obtain ⟨replacementEnd, -, hr⟩ := bind_eq_ok.mp hr
  obtain ⟨exception, hchecked, hr⟩ := bind_eq_ok.mp hr
  obtain rfl := Option.some.inj (Except.ok.inj hr)
  obtain rfl := RecurrenceException.checked_eq hchecked
  exact hchecked

/-- The expansion of a stored item. -/
theorem occurrencesOf_eq_ok {found : List AgendaOccurrence} :
    occurrencesOf engine windowStart windowEnd db row = .ok found ↔
      ∃ item stored, ReadAs engine db row item stored ∧
        occurrencesBetween engine item windowStart windowEnd stored = .ok found := by
  unfold occurrencesOf
  constructor
  · intro h
    obtain ⟨item, hitem, h⟩ := bind_eq_ok.mp h
    obtain ⟨stored, hstored, h⟩ := bind_eq_ok.mp h
    exact ⟨item, stored, ⟨hitem, hstored⟩, h⟩
  · rintro ⟨item, stored, ⟨hitem, hstored⟩, h⟩
    exact bind_eq_ok.mpr ⟨item, hitem, bind_eq_ok.mpr ⟨stored, hstored, h⟩⟩

/-- What the expansion of a stored item lists. -/
theorem occurrencesOf_lists (hlawful : engine.Lawful) {found : List AgendaOccurrence}
    (h : occurrencesOf engine windowStart windowEnd db row = .ok found) :
    ListsInOrder (fun start => ∃ item stored, ReadAs engine db row item stored ∧
        ShowsIn engine item stored windowStart windowEnd start ∧
        Sought engine item windowStart windowEnd start ∧
        StandsIn engine.zones item windowStart windowEnd start)
      (fun start => OwnerPlace engine db (row, start)) found := by
  obtain ⟨item, stored, hread, hfound⟩ := occurrencesOf_eq_ok.mp h
  refine ((occurrencesBetween_lists hlawful hfound).congr fun start => ?_).imp
    fun start occurrence hplace => ⟨item, stored, hread, hplace⟩
  constructor
  · intro hshows
    exact ⟨item, stored, hread, hshows⟩
  · rintro ⟨item', stored', hread', hshows⟩
    obtain ⟨rfl, rfl⟩ := hread.unique hread'
    exact hshows

/-! ### The query -/

/-- The query returns if its window can be written, and every item it selects can be read and
expanded. -/
structure Answers (engine : RecurrenceEngine) (ownerUserId : String)
    (windowStart windowEnd : DateTime) (from' to' : Instant) (db : Database) : Prop where
  start : windowStart.dump engine.zones = .ok from'
  stop : windowEnd.dump engine.zones = .ok to'
  each : ∀ row ∈ db.agendaItems.rows, Selected db ownerUserId from' to' row →
    ∃ item stored, ReadAs engine db row item stored ∧ Expands engine item windowStart windowEnd

/-- The query leaves nothing out: what shows in the window is an instance of an item that it selects,
is looked for, and stands there. -/
def LeavesNothingOut (engine : RecurrenceEngine) (ownerUserId : String)
    (windowStart windowEnd : DateTime) (from' to' : Instant) (db : Database) : Prop :=
  ∀ row ∈ db.agendaItems.rows, row.ownerUserId = ownerUserId →
    ∀ item stored start, ReadAs engine db row item stored →
      ShowsIn engine item stored windowStart windowEnd start →
      Selected db ownerUserId from' to' row ∧ Sought engine item windowStart windowEnd start ∧
        StandsIn engine.zones item windowStart windowEnd start

/-- The rows that the query selects. -/
theorem mem_selected {from' to' : Instant} :
    row ∈ db.agendaItems.select (fun r => decide (r.ownerUserId = ownerUserId) &&
        (recurs db r.id || (decide (from' < r.endAt) && decide (r.startAt < to')))) startOrder ↔
      row ∈ db.agendaItems.rows ∧ Selected db ownerUserId from' to' row := by
  rw [Table.mem_select]
  unfold Selected
  simp only [Bool.and_eq_true, Bool.or_eq_true, decide_eq_true_eq]

theorem occurrences_eq_ok {found : List AgendaOccurrence} :
    occurrences engine ownerUserId windowStart windowEnd db = .ok found ↔
      ∃ from' to' answers, windowStart.dump engine.zones = .ok from' ∧
        windowEnd.dump engine.zones = .ok to' ∧
        collect (fun row => some <$> occurrencesOf engine windowStart windowEnd db row)
          (db.agendaItems.select (fun r => decide (r.ownerUserId = ownerUserId) &&
            (recurs db r.id || (decide (from' < r.endAt) && decide (r.startAt < to')))) startOrder) =
          .ok answers ∧
        found = answers.flatten.insertionSort fun a b => occurrenceOrder engine.zones a b = true := by
  unfold occurrences
  constructor
  · intro h
    obtain ⟨from', hfrom, h⟩ := bind_eq_ok.mp h
    obtain ⟨to', hto, h⟩ := bind_eq_ok.mp h
    obtain ⟨answers, hanswers, h⟩ := bind_eq_ok.mp h
    exact ⟨from', to', answers, hfrom, hto, hanswers, (Except.ok.inj h).symm⟩
  · rintro ⟨from', to', answers, hfrom, hto, hanswers, rfl⟩
    exact bind_eq_ok.mpr ⟨from', hfrom, bind_eq_ok.mpr ⟨to', hto,
      bind_eq_ok.mpr ⟨answers, hanswers, rfl⟩⟩⟩

/-- **When the query returns.** -/
theorem occurrences_returns (hlawful : engine.Lawful) :
    (∃ found, occurrences engine ownerUserId windowStart windowEnd db = .ok found) ↔
      ∃ from' to', Answers engine ownerUserId windowStart windowEnd from' to' db := by
  have heach : ∀ row, (∃ answer, some <$> occurrencesOf engine windowStart windowEnd db row =
      .ok answer) ↔ ∃ item stored, ReadAs engine db row item stored ∧
        Expands engine item windowStart windowEnd := by
    intro row
    rw [exists_map_ok]
    simp only [occurrencesOf_eq_ok]
    constructor
    · rintro ⟨found, item, stored, hread, hfound⟩
      exact ⟨item, stored, hread, (occurrencesBetween_returns hlawful hread.checked).mp ⟨found, hfound⟩⟩
    · rintro ⟨item, stored, hread, hexpands⟩
      obtain ⟨found, hfound⟩ := (occurrencesBetween_returns hlawful hread.checked).mpr hexpands
      exact ⟨found, item, stored, hread, hfound⟩
  simp only [occurrences_eq_ok]
  constructor
  · rintro ⟨found, from', to', answers, hfrom, hto, hanswers, -⟩
    refine ⟨from', to', hfrom, hto, fun row hrow hselected => (heach row).mp ?_⟩
    exact collect_returns.mp ⟨answers, hanswers⟩ row (mem_selected.mpr ⟨hrow, hselected⟩)
  · rintro ⟨from', to', hanswers⟩
    obtain ⟨answers, hfound⟩ := collect_returns.mpr fun row hmem =>
      (heach row).mpr (hanswers.each row (mem_selected.mp hmem).1 (mem_selected.mp hmem).2)
    exact ⟨_, from', to', answers, hanswers.start, hanswers.stop, hfound, rfl⟩

/-- **What the query lists**: of the items it selects, what shows in the window, is looked for and
stands there. -/
theorem occurrences_lists (hlawful : engine.Lawful) {from' to' : Instant}
    (hfrom : windowStart.dump engine.zones = .ok from') (hto : windowEnd.dump engine.zones = .ok to')
    {found : List AgendaOccurrence}
    (h : occurrences engine ownerUserId windowStart windowEnd db = .ok found) :
    Lists (fun p : AgendaRow × DateTime =>
        (p.1 ∈ db.agendaItems.rows ∧ Selected db ownerUserId from' to' p.1) ∧
        ∃ item stored, ReadAs engine db p.1 item stored ∧
          ShowsIn engine item stored windowStart windowEnd p.2 ∧
          Sought engine item windowStart windowEnd p.2 ∧
          StandsIn engine.zones item windowStart windowEnd p.2)
      (OwnerPlace engine db) found := by
  obtain ⟨from'', to'', answers, hfrom', hto', hanswers, rfl⟩ := occurrences_eq_ok.mp h
  obtain rfl := Except.ok.inj (hfrom.symm.trans hfrom')
  obtain rfl := Except.ok.inj (hto.symm.trans hto')
  have hrows : (db.agendaItems.select (fun r => decide (r.ownerUserId = ownerUserId) &&
      (recurs db r.id || (decide (from' < r.endAt) && decide (r.startAt < to')))) startOrder).Nodup :=
    Table.nodup_select _ _ _
  have hall := listsInOrder_flatten hrows
    ((collect_some hanswers).imp fun row answer hof => occurrencesOf_lists hlawful hof)
  exact ⟨_, hall.congr fun p => and_congr_left fun _ => mem_selected, List.perm_insertionSort _ _⟩

/-- **The query is complete** if and only if it returns and leaves nothing out. -/
theorem occurrences_complete_iff (engine : RecurrenceEngine) (hlawful : engine.Lawful)
    (ownerUserId : String) (windowStart windowEnd : DateTime) (db : Database) :
    ListsOccurrences engine ownerUserId windowStart windowEnd db ↔
      ∃ from' to', Answers engine ownerUserId windowStart windowEnd from' to' db ∧
        LeavesNothingOut engine ownerUserId windowStart windowEnd from' to' db := by
  have hcomplete : ∀ from' to', windowStart.dump engine.zones = .ok from' →
      windowEnd.dump engine.zones = .ok to' → ∀ found,
      occurrences engine ownerUserId windowStart windowEnd db = .ok found →
      (Lists (OwnerShows engine ownerUserId windowStart windowEnd db) (OwnerPlace engine db) found ↔
        LeavesNothingOut engine ownerUserId windowStart windowEnd from' to' db) := by
    intro from' to' hfrom hto found hfound
    rw [lists_iff (occurrences_lists hlawful hfrom hto hfound) fun p => ?_]
    · constructor
      · rintro h row hrow howner item stored start hread hshows
        obtain ⟨⟨-, hselected⟩, item', stored', hread', -, hrest⟩ :=
          h (row, start) ⟨hrow, howner, item, stored, hread, hshows⟩
        obtain ⟨rfl, rfl⟩ := hread.unique hread'
        exact ⟨hselected, hrest⟩
      · rintro h ⟨row, start⟩ ⟨hrow, howner, item, stored, hread, hshows⟩
        obtain ⟨hselected, hrest⟩ := h row hrow howner item stored start hread hshows
        exact ⟨⟨hrow, hselected⟩, item, stored, hread, hshows, hrest⟩
    · rintro ⟨⟨hrow, hselected⟩, item, stored, hread, hshows, -⟩
      exact ⟨hrow, hselected.1, item, stored, hread, hshows⟩
  constructor
  · rintro ⟨found, hfound, hlists⟩
    obtain ⟨from', to', hanswers⟩ := (occurrences_returns hlawful).mp ⟨found, hfound⟩
    exact ⟨from', to', hanswers,
      (hcomplete from' to' hanswers.start hanswers.stop found hfound).mp hlists⟩
  · rintro ⟨from', to', hanswers, hnothing⟩
    obtain ⟨found, hfound⟩ := (occurrences_returns hlawful).mpr ⟨from', to', hanswers⟩
    exact ⟨found, hfound,
      (hcomplete from' to' hanswers.start hanswers.stop found hfound).mpr hnothing⟩

/-! An item on the first business day of each month, the one of January moved to 3 February. -/

/-- The item as it is stored. -/
def firstDays : AgendaRow where
  id := "review"
  ownerUserId := "alice"
  creatorUserId := none
  title := "Review"
  description := ""
  actionLinks := []
  startAt := (reading "UTC" 2025 1 2 600).wall
  endAt := (reading "UTC" 2025 1 2 660).wall
  timezone := "UTC"
  allDay := false
  classification := .personal
  version := 1
  createdAt := 0
  updatedAt := 0

/-- The exception. -/
def postponed : ExceptionRow where
  agendaItemId := "review"
  occurrenceAt := (reading "UTC" 2026 1 2 600).wall
  action := .replace
  replacementStart := some (reading "UTC" 2026 2 3 600).wall
  replacementEnd := some (reading "UTC" 2026 2 3 660).wall
  replaced := ⟨rfl, rfl⟩

/-- The store. -/
def agenda : Database where
  agendaItems := .single firstDays
  recurrenceRules := .single
    { agendaItemId := "review", ruleText := (onBusinessDay "1").value, timezone := "UTC" }
  recurrenceExceptions := .single postponed

/-- What the item is read as. -/
def firstDaysItem : AgendaItem where
  id := "review"
  ownerUserId := "alice"
  creatorUserId := some "alice"
  title := "Review"
  startAt := reading "UTC" 2025 1 2 600
  endAt := reading "UTC" 2025 1 2 660
  timezone := "UTC"
  recurrence := some (onBusinessDay "1")
  createdAt := some 0
  updatedAt := some 0

/-- What the exception is read as. -/
def postponement : RecurrenceException where
  occurrenceAt := reading "UTC" 2026 1 2 600
  action := .replace
  replacementStart := some (reading "UTC" 2026 2 3 600)
  replacementEnd := some (reading "UTC" 2026 2 3 660)

theorem london_lawful : london.Lawful := fun _ _ _ h => by cases h

theorem january_complete :
    ListsOccurrences london "alice" (reading "UTC" 2026 1 1 0) (reading "UTC" 2026 2 1 0) agenda ↔
      ∃ from' to', Answers london "alice" (reading "UTC" 2026 1 1 0) (reading "UTC" 2026 2 1 0)
        from' to' agenda ∧
        LeavesNothingOut london "alice" (reading "UTC" 2026 1 1 0) (reading "UTC" 2026 2 1 0)
          from' to' agenda :=
  occurrences_complete_iff london london_lawful "alice" (reading "UTC" 2026 1 1 0)
    (reading "UTC" 2026 2 1 0) agenda

/-- **February does not show what was moved there from January.** -/
theorem february_incomplete :
    ¬ ∀ (engine : RecurrenceEngine) (ownerUserId : String) (windowStart windowEnd : DateTime)
      (db : Database), engine.Lawful → windowStart.lt engine.zones windowEnd = true →
        ListsOccurrences engine ownerUserId windowStart windowEnd db := by
  intro h
  obtain ⟨found, hfound, hlists⟩ := h london "alice" (reading "UTC" 2026 2 1 0)
    (reading "UTC" 2026 3 1 0) agenda london_lawful (by decide +kernel)
  have hread : ReadAs london agenda firstDays firstDaysItem [postponement] :=
    ⟨by decide +kernel, by decide +kernel⟩
  -- the instance of 2 January takes place on 3 February
  have hplace : TakesPlace london.zones firstDaysItem [postponement] (reading "UTC" 2026 1 2 600) _ :=
    .replaced postponement (reading "UTC" 2026 2 3 600) (reading "UTC" 2026 2 3 660)
      (by decide +kernel) rfl rfl rfl
  have hinstance : IsInstance london firstDaysItem (reading "UTC" 2026 1 2 600) :=
    (isInstance_business (show firstDaysItem.recurrence = some (onBusinessDay "1") from rfl)
      (by decide +kernel : _ = some ⟨hongKong, 1⟩)).mpr
      ⟨reading "UTC" 2025 1 2 600, 2026, 1, 2, by decide +kernel, by decide,
        ⟨by decide, by decide, by decide +kernel, by decide +kernel⟩, by decide +kernel,
        by decide +kernel⟩
  obtain ⟨occurrence, hmem, item, stored, hread', hplace'⟩ := hlists.exists_value
    (show OwnerShows london "alice" _ _ agenda (firstDays, reading "UTC" 2026 1 2 600) from
      ⟨List.mem_singleton_self _, rfl, firstDaysItem, [postponement], hread, hinstance, _, hplace,
        by decide +kernel⟩)
  obtain ⟨rfl, rfl⟩ := hread.unique hread'
  -- and nothing that is found begins then
  have hnone : (occurrences london "alice" (reading "UTC" 2026 2 1 0) (reading "UTC" 2026 3 1 0)
      agenda).map (fun found => found.any fun o => o.startAt = reading "UTC" 2026 2 3 600) =
        .ok false := by decide +kernel
  rw [hfound] at hnone
  have hnot := List.any_eq_false.mp (Except.ok.inj hnone) occurrence hmem
  cases hplace' with
  | kept _ hunexcepted => exact absurd hunexcepted (by decide +kernel)
  | replaced exception _ _ hexcepted _ hstart =>
    obtain rfl : postponement = exception :=
      Option.some.inj ((by decide +kernel : exceptionAt london.zones [postponement]
        (reading "UTC" 2026 1 2 600) = some postponement).symm.trans hexcepted)
    obtain rfl := Option.some.inj hstart
    exact hnot (decide_eq_true rfl)

end AgendaRepository

end Zhixu
