import Zhixu.Application.RuleReturns

/-!
# When the rule parser raises

`RuleIntentRouter.route` is called before a message is recorded, so a message it raises for is
delivered again and again. Here the messages are named for which it does: for every other one it
returns nothing or an intent whose arguments keep to the ranges that the parser checks
(`route_returns_iff`).

There are three kinds, each one conversion that its guard does not cover.

* `NoticeUnreadable`: the days of notice of an important day are digits for `str.isdigit`, but not all
  of them for `int`.
* `LunarYearZero`: a lunar birthday is given the year 0000, whose first of January is no date.
* `LeadsOverflow`: the number of a lead time is infinite as a float.

All other rules are `Safe` whatever the message is. For the converse the rules in front of the one that
raises must not apply. They are ruled out by the start of the message alone: no word of their patterns
starts so (`Pattern.fullmatch_none_of_opens`).

The clock has to be early enough for the longest delay that can be written (`Timely`).
-/

open Framework

namespace Zhixu

namespace RuleIntentRouter

/-! ### Rules that return -/

/-- If the rule applies, it returns, and the arguments are as promised. -/
def Safe (rule : RouteResult) : Prop := ∀ result ∈ rule, Returns result InRanges

theorem safe_none : Safe none := fun _ h => nomatch h

theorem safe_some {result : Except PyError (Option ParsedIntent)} (h : Returns result InRanges) :
    Safe (some result) := by
  intro other hother
  obtain rfl := Option.some.inj hother
  exact h

theorem safe_intent {action : IntentAction} {arguments : Arguments} {confirmed : Bool}
    (h : Kept action arguments) : Safe (intent action arguments confirmed) :=
  safe_some (returns_ok (inRanges_some h))

theorem safe_whenever {p : Prop} [Decidable p] {rule : RouteResult} (h : Safe rule) :
    Safe (whenever p rule) := by
  unfold whenever
  split
  · exact h
  · exact safe_none

theorem safe_matching {a : Pattern} {value : String}
    {result : Pattern.Groups → Except PyError (Option ParsedIntent)}
    (h : ∀ groups, fullmatch a value = some groups → Returns (result groups) InRanges) :
    Safe (matching a value result) := by
  unfold matching
  cases hmatch : fullmatch a value with
  | none => exact safe_none
  | some groups => exact safe_some (h groups hmatch)

/-- The names of the arguments that the parser checks. -/
def checkedArguments : List String :=
  ["lead_minutes", "advance_days", "day_offset", "month", "lunar_month", "lunar_day", "briefing_time",
    "time_of_day"]

theorem promise_unchecked {action : IntentAction} {name : String} (h : name ∉ checkedArguments)
    (value : PlanValue) : Promise action name value := by
  have hne : ∀ checked ∈ checkedArguments, name ≠ checked := by
    rintro checked hchecked rfl
    exact h hchecked
  unfold Promise
  rw [if_neg (hne _ (by decide)), if_neg (hne _ (by decide)), if_neg (hne _ (by decide)),
    if_neg (hne _ (by decide)), if_neg (fun hname => hne _ (by decide) hname.1),
    if_neg (fun hname => hne _ (by decide) hname.1), if_neg, if_neg (hne _ (by decide))]
  · trivial
  · rintro (hname | hname)
    · exact hne _ (by decide) hname
    · exact hne _ (by decide) hname.1

theorem kept_unchecked {action : IntentAction} {arguments : Arguments}
    (h : ∀ name ∈ arguments.map Prod.fst, name ∉ checkedArguments) : Kept action arguments :=
  fun argument hargument =>
    promise_unchecked (h argument.1 (List.mem_map_of_mem hargument)) argument.2

/-! ### Rules without a conversion -/

section Plain

variable (value : String)

theorem safe_listed (values compacted : List String) (action : IntentAction) :
    Safe (listed values compacted action value) :=
  safe_whenever (safe_intent kept_nil)

theorem safe_prefixed (starts : List String) {make : String → RouteResult} (h : ∀ body, Safe (make body)) :
    Safe (prefixed starts make value) := by
  unfold prefixed
  cases behind starts value with
  | none => exact safe_none
  | some body => exact h body

theorem safe_named (command : String) {name : String} (hname : name ∉ checkedArguments)
    (action : IntentAction) (confirmed : Bool) : Safe (named command name action confirmed value) := by
  refine safe_matching fun groups _ => returns_ok (inRanges_some (Kept.cons ?_ kept_nil))
  exact promise_unchecked hname _

theorem safe_help : Safe (help value) := safe_whenever (safe_intent kept_nil)

theorem safe_rename : Safe (rename value) :=
  safe_matching fun _ _ => returns_ok (inRanges_some (kept_unchecked (by simp [checkedArguments])))

theorem safe_moveNote : Safe (moveNote value) := by
  unfold moveNote
  split
  · exact safe_none
  · exact safe_whenever (safe_intent (kept_unchecked (by simp [checkedArguments])))

theorem safe_appendNote : Safe (appendNote value) := by
  unfold appendNote
  split
  · exact safe_none
  · exact safe_intent (kept_unchecked (by simp [checkedArguments]))

theorem safe_saveNote : Safe (saveNote value) := by
  unfold saveNote
  split
  · exact safe_none
  · simp only
    split
    · exact safe_none
    · exact safe_intent (kept_unchecked (by simp [checkedArguments]))

theorem safe_naturalNote : Safe (naturalNote value) := by
  unfold naturalNote
  split
  · exact safe_none
  · exact safe_whenever (safe_intent (kept_unchecked (by simp [checkedArguments])))

/-- The words that a plan's buttons can have are all known. -/
theorem safe_planConfirmation : Safe (planConfirmation value) := by
  refine safe_matching fun groups hmatch => ?_
  have hword : taken groups 1 ∈ ["确认", "拒绝", "取消"] := word_taken hmatch rfl rfl
  have haction : Returns (planAction (taken groups 1)) fun _ => True := by
    rcases List.mem_cons.mp hword with hword | hword
    · rw [hword]
      exact ⟨_, rfl, trivial⟩
    · rcases List.mem_cons.mp hword with hword | hword
      · rw [hword]
        exact ⟨_, rfl, trivial⟩
      · rw [List.mem_singleton.mp hword]
        exact ⟨_, rfl, trivial⟩
  exact haction.bind fun action _ =>
    returns_ok (inRanges_some (kept_unchecked (by simp [checkedArguments])))

theorem safe_planLead : Safe (planLead value) := by
  refine safe_matching fun groups _ => returns_ok (inRanges_some (kept_unchecked fun name hname => ?_))
  rcases List.mem_cons.mp hname with rfl | hname
  · show "plan_id" ∉ checkedArguments
    decide
  · obtain ⟨argument, hargument, rfl⟩ := List.mem_map.mp hname
    split at hargument
    · rw [List.mem_singleton.mp hargument]
      show "disable" ∉ checkedArguments
      decide
    · cases hlead : noted groups 3 with
      | none =>
        rw [hlead] at hargument
        exact absurd hargument List.not_mem_nil
      | some lead =>
        rw [hlead] at hargument
        rw [List.mem_singleton.mp hargument]
        show "lead" ∉ checkedArguments
        decide

end Plain

/-! ### The time that a plan is notified at -/

theorem accepts_one {p : Char → Bool} {w : List Char} (h : (one p).Accepts w) :
    ∃ c, w = [c] ∧ p c = true := by
  obtain ⟨hall, hleast, hmost⟩ := h
  obtain ⟨c, rfl⟩ := List.length_eq_one_iff.mp (Nat.le_antisymm (hmost 1 rfl) hleast)
  exact ⟨c, rfl, hall c (List.mem_cons_self ..)⟩

theorem exists_decimalValue {c : Char} (h : digit c = true) : ∃ d < 10, decimalValue c = some d := by
  obtain ⟨d, hd⟩ := Option.isSome_iff_exists.mp h
  exact ⟨d, decimalValue_lt hd, hd⟩

/-- The value of a digit from a class of them. -/
theorem exists_value_among {s : String} {k : ℕ} {c : Char} (h : among s c = true)
    (hs : (s.toList.all fun c => (decimalValue c).elim false fun d => d ≤ k) = true) :
    ∃ d ≤ k, decimalValue c = some d := by
  have hvalue := List.all_eq_true.mp hs c (of_decide_eq_true h)
  cases hd : decimalValue c with
  | none =>
    rw [hd] at hvalue
    exact absurd hvalue (by simp)
  | some d =>
    rw [hd] at hvalue
    exact ⟨d, of_decide_eq_true hvalue, rfl⟩

theorem digit_of_value {c : Char} {d : ℕ} (h : decimalValue c = some d) : digit c = true := by
  unfold digit
  rw [h]
  rfl

theorem digitsValue_one {c : Char} {d : ℕ} (h : decimalValue c = some d) :
    digitsValue [c] = some d := by
  unfold digitsValue
  rw [List.mapM_cons, List.mapM_nil, h]
  show some (10 * 0 + d) = some d
  rw [Nat.mul_zero, Nat.zero_add]

theorem digitsValue_two {c e : Char} {d n : ℕ} (hc : decimalValue c = some d)
    (he : decimalValue e = some n) : digitsValue [c, e] = some (10 * d + n) := by
  unfold digitsValue
  rw [List.mapM_cons, List.mapM_cons, List.mapM_nil, hc, he]
  show some (10 * (10 * 0 + d) + n) = some (10 * d + n)
  rw [Nat.mul_zero, Nat.zero_add]

theorem intOf_value {cs : List Char} {n : ℕ} (h : ∀ c ∈ cs, digit c = true) (hpos : 1 ≤ cs.length)
    (hlength : cs.length ≤ maxStrDigits) (hvalue : digitsValue cs = some n) :
    Returns (intOf cs) fun value => value = n := by
  refine (intOf_digits h hpos hlength).mono ?_
  rintro value ⟨m, rfl, hm, -⟩
  rw [hvalue] at hm
  rw [Option.some.inj hm]

/-- The hours that the pattern of a plan's time has. -/
def hourPattern : Pattern :=
  .alt (chain [.opt (one (among "01")), one digit]) (chain [lit "2", one (among "0123")])

theorem hour_returns {text : String} (h : hourPattern.Accepts text.toList) :
    Returns (intOf text.toList) fun hour => 0 ≤ hour ∧ hour ≤ 23 := by
  have htwo : ∀ {c e : Char} {d n : ℕ}, decimalValue c = some d → decimalValue e = some n →
      10 * d + n ≤ 23 → Returns (intOf [c, e]) fun hour => 0 ≤ hour ∧ hour ≤ 23 := by
    intro c e d n hc he hle
    have hdigits : ∀ x ∈ [c, e], digit x = true := by
      intro x hx
      rcases List.mem_cons.mp hx with rfl | hx
      · exact digit_of_value hc
      · rw [List.mem_singleton.mp hx]
        exact digit_of_value he
    refine (intOf_value hdigits (by simp) (by simp [maxStrDigits]) (digitsValue_two hc he)).mono ?_
    rintro hour rfl
    omega
  rcases h with ⟨tens, units, htext, htens, hunits⟩ | ⟨two, units, htext, rfl, hunits⟩
  · obtain ⟨e, rfl, he⟩ := accepts_one hunits
    obtain ⟨n, hn, he⟩ := exists_decimalValue he
    rcases htens with rfl | htens
    · rw [htext]
      have hdigits : ∀ x ∈ [e], digit x = true := fun x hx => by
        rw [List.mem_singleton.mp hx]
        exact digit_of_value he
      refine (intOf_value hdigits (by simp) (by simp [maxStrDigits]) (digitsValue_one he)).mono ?_
      rintro hour rfl
      omega
    · obtain ⟨c, rfl, hc⟩ := accepts_one htens
      obtain ⟨d, hd, hc⟩ := exists_value_among (k := 1) hc (by decide +kernel)
      rw [htext]
      exact htwo hc he (by omega)
  · obtain ⟨e, rfl, he⟩ := accepts_one hunits
    obtain ⟨n, hn, he⟩ := exists_value_among (k := 3) he (by decide +kernel)
    have hc : decimalValue '2' = some 2 := by decide +kernel
    rw [htext]
    exact htwo hc he (by omega)

theorem minute_value {text : String}
    (h : (chain [one (among "012345"), one digit]).Accepts text.toList) :
    text.length = 2 ∧ ∃ n, digitsValue text.toList = some n ∧ n ≤ 59 := by
  obtain ⟨tens, units, htext, htens, hunits⟩ := h
  obtain ⟨c, rfl, hc⟩ := accepts_one htens
  obtain ⟨e, rfl, he⟩ := accepts_one hunits
  obtain ⟨d, hd, hc⟩ := exists_value_among (k := 5) hc (by decide +kernel)
  obtain ⟨n, hn, he⟩ := exists_decimalValue he
  refine ⟨?_, 10 * d + n, ?_, by omega⟩
  · rw [← String.length_toList, htext]
    rfl
  · rw [htext]
    exact digitsValue_two hc he

theorem planTime_returns {value : String} {groups : Pattern.Groups}
    (h : fullmatch planNotificationPattern value = some groups) :
    Returns (planTime groups) (Kept .adjustPlanNotification) := by
  unfold planTime
  cases hhour : noted groups 3 with
  | none => exact returns_ok kept_nil
  | some hour =>
    obtain ⟨b, hb, haccepts⟩ := noted_accepts h hhour
    obtain rfl : b = hourPattern := List.mem_singleton.mp hb
    obtain ⟨minute, hminute⟩ := noted_together (j := 4) h hhour rfl
    obtain ⟨c, hc, hminuteAccepts⟩ := noted_accepts h hminute
    obtain rfl : c = chain [one (among "012345"), one digit] := List.mem_singleton.mp hc
    have htaken : taken groups 4 = minute := by
      unfold taken
      rw [hminute]
      rfl
    refine (hour_returns haccepts).bind fun number hnumber => returns_ok ?_
    refine Kept.cons ?_ kept_nil
    have hpromise := minute_value hminuteAccepts
    rw [htaken]
    simpa [Promise] using ⟨number, minute, rfl, hnumber, hpromise⟩

theorem safe_planNotification (value : String) : Safe (planNotification value) := by
  refine safe_matching fun groups hmatch => ?_
  have hintent : ∀ more, Kept .adjustPlanNotification more → Returns (.ok (some {
      action := .adjustPlanNotification, arguments := ("plan_id", .str (taken groups 2)) :: more }) :
      Except PyError (Option ParsedIntent)) InRanges := fun more hmore =>
    returns_ok (inRanges_some (Kept.cons (promise_unchecked (by decide) _) hmore))
  simp only
  split
  · exact hintent _ (kept_unchecked (by simp [checkedArguments]))
  · exact (planTime_returns hmatch).bind hintent

/-! ### Days and lead times -/

theorem safe_anniversary (value : String) : Safe (anniversary value) := by
  refine safe_matching fun groups _ => ?_
  refine (exceptValue_returns fun _ => strptimeDate_error).bind fun anchor _ => returns_ok ?_
  cases anchor with
  | none => exact inRanges_none
  | some date => exact inRanges_some (kept_unchecked (by simp [checkedArguments]))

theorem editResult_returns {name identifier : String} {update : IntentAction}
    (hname : name ∉ checkedArguments) {edit : Except PyError (Option Arguments)}
    (h : Returns edit (EditKept update)) : Returns (do
      let arguments ← edit
      return arguments.map fun arguments => ({
        action := update, arguments := (name, .str identifier) :: arguments } : ParsedIntent))
      InRanges := by
  refine h.bind fun arguments harguments => returns_ok ?_
  cases arguments with
  | none => exact inRanges_none
  | some arguments =>
    exact inRanges_some (Kept.cons (promise_unchecked hname _) (harguments arguments rfl))

/-- An edit command returns if its edit does, where there is one. -/
theorem safe_edited {commands : List String} {name : String} {deletion update : IntentAction}
    {edit : String → Except PyError (Option Arguments)} {value : String}
    (hname : name ∉ checkedArguments)
    (h : ∀ groups, fullmatch (editPattern commands) value = some groups → taken groups 1 ≠ "删除" →
      Returns (edit (taken groups 3)) (EditKept update)) :
    Safe (edited commands name deletion update edit value) := by
  refine safe_matching fun groups hmatch => ?_
  split
  · exact returns_ok (inRanges_some (Kept.cons (promise_unchecked hname _) kept_nil))
  · rename_i hedit
    exact editResult_returns hname (h groups hmatch hedit)

theorem safe_briefing (value : String) : Safe (briefing value) :=
  safe_edited (by decide) fun groups _ _ => briefingEdit_returns (taken groups 3)

theorem safe_notification (value : String) : Safe (notification value) :=
  safe_edited (by decide) fun groups _ _ => notificationEdit_returns (taken groups 3)

/-- **The days of notice cannot be read.** -/
def NoticeUnreadable (value : String) : Prop :=
  fullmatch anniversaryPattern value = none ∧
    ∃ groups, fullmatch (editPattern importantDayCommands) value = some groups ∧
      taken groups 1 ≠ "删除" ∧ NoticeRefused (taken groups 3)

theorem safe_importantDay {value : String} (hanniversary : fullmatch anniversaryPattern value = none)
    (h : ¬ NoticeUnreadable value) : Safe (importantDay value) :=
  safe_edited (by decide) fun groups hmatch hedit =>
    importantDayEdit_returns fun hrefused => h ⟨hanniversary, groups, hmatch, hedit, hrefused⟩

theorem importantDay_raises {value : String} (h : NoticeUnreadable value) :
    importantDay value = some (.error .value) := by
  obtain ⟨-, groups, hmatch, hedit, hrefused⟩ := h
  unfold importantDay edited matching
  rw [hmatch, Option.map_some, if_neg hedit, importantDayEdit_raises hrefused]
  rfl

/-- The month and the day of a lunar birthday are possible. -/
def LunarDay (groups : Pattern.Groups) : Prop :=
  ∃ month day, intOf (taken groups 4).toList = .ok month ∧ intOf (taken groups 5).toList = .ok day ∧
    (1 ≤ month ∧ month ≤ 12) ∧ 1 ≤ day ∧ day ≤ 30

/-- **The year of a lunar birthday is zero.** -/
def LunarYearZero (value : String) : Prop :=
  fullmatch (editPattern importantDayCommands) value = none ∧
    ∃ groups, fullmatch birthdayPattern value = some groups ∧ (noted groups 2).isSome = true ∧
      (∃ year, noted groups 3 = some year ∧ digitsValue year.toList = some 0) ∧ LunarDay groups

theorem isDate_first {year : Int} (h : 1 ≤ year ∧ year ≤ 9999) : Calendar.IsDate year 1 1 := by
  refine ⟨h.1, h.2, by decide, by decide, by decide, ?_⟩
  show (1 : Int) ≤ 31
  decide

theorem birthdayDate_returns {lunar : Bool} {year month day : Int}
    (h : lunar = true → (1 ≤ month ∧ month ≤ 12) ∧ 1 ≤ day ∧ day ≤ 30 → 1 ≤ year ∧ year ≤ 9999) :
    Returns (birthdayDate lunar year month day) (EditKept .createAnniversary) := by
  unfold birthdayDate
  cases lunar with
  | false =>
    refine (exceptValue_returns fun _ => dateOf_error).bind fun anchor _ => returns_ok ?_
    cases anchor with
    | none => exact editKept_none
    | some date => exact editKept_some (kept_unchecked (by simp [checkedArguments]))
  | true =>
    rw [if_pos rfl]
    by_cases hrange : ¬ (1 ≤ month ∧ month ≤ 12) ∨ ¬ (1 ≤ day ∧ day ≤ 30)
    · rw [if_pos hrange]
      exact returns_ok editKept_none
    · rw [if_neg hrange]
      obtain ⟨hmonth, hday⟩ := not_or.mp hrange
      have hyear := h rfl ⟨not_not.mp hmonth, not_not.mp hday⟩
      have hdate : dateOf year 1 1 = .ok (Calendar.toOrdinal year 1 1) := by
        unfold dateOf
        rw [if_pos (isDate_first hyear)]
      rw [hdate]
      refine returns_ok (editKept_some ?_)
      refine Kept.cons (promise_unchecked (by decide) _) ?_
      refine Kept.cons ?_ (Kept.cons ?_ (Kept.cons (promise_unchecked (by decide) _) kept_nil))
      · simpa [Promise] using not_not.mp hmonth
      · simpa [Promise] using not_not.mp hday

/-- A year that was written is zero, or one that a date can have. -/
theorem year_range {text : String} {year : Int} (h : Reads text 4 year)
    (hzero : digitsValue text.toList ≠ some 0) : 1 ≤ year ∧ year ≤ 9999 := by
  obtain ⟨n, rfl, hn, hlt⟩ := h
  have hne : n ≠ 0 := by
    rintro rfl
    exact hzero hn
  omega

theorem safe_birthday {value : String} (hedit : fullmatch (editPattern importantDayCommands) value = none)
    (h : ¬ LunarYearZero value) : Safe (birthday value) := by
  refine safe_matching fun groups hmatch => ?_
  have hyears : birthdayPattern.captures 3 = [between digit 4 4] := rfl
  have hmonths : birthdayPattern.captures 4 = [between digit 1 2] := rfl
  have hdays : birthdayPattern.captures 5 = [between digit 1 2] := rfl
  obtain ⟨year, hyear, hwritten, hunknown⟩ := yearOr_returns hmatch hyears
  obtain ⟨month, hmonth, -⟩ := number_taken hmatch rfl hmonths (by decide) (by decide)
  obtain ⟨day, hday, -⟩ := number_taken hmatch rfl hdays (by decide) (by decide)
  rw [hyear, hmonth, hday]
  have hdate : Returns (birthdayDate (noted groups 2).isSome year month day)
      (EditKept .createAnniversary) := by
    refine birthdayDate_returns fun hlunar hpossible => ?_
    cases hnoted : noted groups 3 with
    | none =>
      rw [hunknown hnoted]
      decide
    | some text =>
      refine year_range (hwritten text hnoted) fun hzero => ?_
      exact h ⟨hedit, groups, hmatch, hlunar, ⟨text, hnoted, hzero⟩, month, day, hmonth, hday,
        hpossible⟩
  refine hdate.bind fun more hmore => returns_ok ?_
  cases more with
  | none => exact inRanges_none
  | some more =>
    have htitle : Kept .createAnniversary
        [("title", .str (strip (taken groups 1))), ("kind", .str "birthday")] :=
      kept_unchecked (by simp [checkedArguments])
    exact inRanges_some (htitle.append (hmore more rfl))

theorem birthday_raises {value : String} (h : LunarYearZero value) :
    birthday value = some (.error .value) := by
  obtain ⟨-, groups, hmatch, hlunar, ⟨text, htext, hzero⟩, month, day, hmonth, hday, hpossible⟩ := h
  have hyears : birthdayPattern.captures 3 = [between digit 4 4] := rfl
  obtain ⟨year, hyear, hwritten, -⟩ := yearOr_returns hmatch hyears
  obtain rfl : year = 0 := by
    obtain ⟨n, rfl, hn, -⟩ := hwritten text htext
    rw [hzero] at hn
    rw [← Option.some.inj hn]
    rfl
  -- there is no year 0
  have hdate : birthdayDate true 0 month day = .error .value := by
    unfold birthdayDate
    rw [if_pos rfl, if_neg (not_or.mpr ⟨not_not.mpr hpossible.1, not_not.mpr hpossible.2⟩)]
    exact raises_first (by decide)
  unfold birthday matching
  rw [hmatch, Option.map_some, hyear]
  refine congrArg some (raises_second rfl ?_)
  refine raises_second hmonth (raises_second hday ?_)
  rw [hlunar]
  exact raises_first hdate

/-- **The number of a lead time is infinite.** -/
def LeadsOverflow (value : String) : Prop :=
  ∃ groups, fullmatch leadsPattern value = some groups ∧
    FirstOverflows (splitParts listSeparator (strip (taken groups 1)))

theorem safe_leads {value : String} (h : ¬ LeadsOverflow value) : Safe (leads value) := by
  refine safe_matching fun groups hmatch => ?_
  refine (parseLeadMinutes_returns fun hoverflows => h ⟨groups, hmatch, hoverflows⟩).bind
    fun minutes hminutes => returns_ok ?_
  cases minutes with
  | none => exact inRanges_none
  | some minutes =>
    refine inRanges_some (Kept.cons ?_ kept_nil)
    simpa only [Promise, if_true] using ⟨minutes, rfl, hminutes minutes rfl⟩

theorem leads_raises {value : String} (h : LeadsOverflow value) :
    leads value = some (.error .overflow) := by
  obtain ⟨groups, hmatch, hoverflows⟩ := h
  unfold leads matching
  rw [hmatch, Option.map_some, parseLeadMinutes_raises hoverflows]
  rfl

theorem safe_dailyBriefing (value : String) : Safe (dailyBriefing value) := by
  refine safe_matching fun groups hmatch => ?_
  refine (checkedTime_returns hmatch rfl rfl rfl rfl).bind fun time htime => returns_ok ?_
  cases time with
  | none => exact inRanges_none
  | some time =>
    refine inRanges_some (Kept.cons ?_ kept_nil)
    simpa [Promise] using htime time rfl

/-! ### The clock -/

section Clock

variable {router : RuleIntentRouter} {now : Instant}

/-- The longest delay that can be written is 9999 days. It can be added to the clock, in UTC and in the
zone of the parser. -/
structure Timely (router : RuleIntentRouter) (now : Instant) : Prop where
  utc : ∀ delta : Int, 0 ≤ delta → delta ≤ Duration.days 9999 → Instant.InRange (now + delta)
  inZone : ∀ delta : Int, 0 ≤ delta → delta ≤ Duration.days 9999 →
    Instant.InRange ((router.zones.fromutc router.timezone now).1 + delta)

/-- The reading of the clock in the zone of the parser. -/
theorem current_returns (h : Timely router now) : Returns (router.current now) fun current =>
    current.wall = (router.zones.fromutc router.timezone now).1 ∧
      current.zone = .named router.timezone := by
  have hutc : Instant.InRange now := by
    have hnow := h.utc 0 (by decide) (by decide)
    rwa [Int.add_zero] at hnow
  have hlocal : Instant.InRange (router.zones.fromutc router.timezone now).1 := by
    have hnow := h.inZone 0 (by decide) (by decide)
    rwa [Int.add_zero] at hnow
  have hinstant : (DateTime.ofInstant now).instant router.zones = now := Int.sub_zero now
  have hread : (DateTime.ofInstant now).toUtc router.zones = .ok now := by
    unfold DateTime.toUtc
    rw [hinstant, raiseIf_bind_of_not (not_not.mpr hutc)]
    rfl
  unfold current DateTime.astimezone
  rw [if_neg (by simp [DateTime.ofInstant, Zone.utc]), hread]
  refine ⟨_, raiseIf_bind_of_not (not_not.mpr hlocal), rfl, rfl⟩

/-- A delay of at most 9999 of a unit. -/
theorem delay_returns {count : Int} {unit : String} (hunit : unit ∈ ["分钟", "小时", "天"])
    (hcount : 0 ≤ count ∧ count ≤ 9999) : Returns (delay count unit) fun delta =>
      0 ≤ delta ∧ delta ≤ Duration.days 9999 := by
  rcases List.mem_cons.mp hunit with rfl | hunit
  · refine ⟨count * 60000000, rfl, ?_⟩
    show (0 : Int) ≤ count * 60000000 ∧ count * 60000000 ≤ 9999 * 86400000000
    omega
  · rcases List.mem_cons.mp hunit with rfl | hunit
    · refine ⟨count * 3600000000, rfl, ?_⟩
      show (0 : Int) ≤ count * 3600000000 ∧ count * 3600000000 ≤ 9999 * 86400000000
      omega
    · rw [List.mem_singleton.mp hunit]
      refine ⟨count * 86400000000, rfl, ?_⟩
      show (0 : Int) ≤ count * 86400000000 ∧ count * 86400000000 ≤ 9999 * 86400000000
      omega

theorem count_range {text : String} {count : Int} (h : Reads text 4 count) :
    0 ≤ count ∧ count ≤ 9999 := by
  obtain ⟨n, rfl, -, hlt⟩ := h
  omega

theorem plus_returns {dt : DateTime} {delta : Int} (h : Instant.InRange (dt.wall + delta)) :
    Returns (dt.plus delta) fun _ => True := by
  unfold DateTime.plus
  exact ⟨_, raiseIf_bind_of_not (not_not.mpr h), trivial⟩

/-- What is read of a relative month. -/
theorem monthOffset_returns (text : String) : Returns (monthOffset text) fun _ => True := by
  unfold monthOffset
  split
  · exact returns_ok trivial
  · cases hmatch : fullmatch relativeMonthPattern text with
    | none => exact returns_ok trivial
    | some groups =>
      obtain ⟨sign, digits, htext, hsign, hdigits, hleast, hmost⟩ := (Pattern.fullmatch_sound hmatch).1
      obtain ⟨c, rfl, hc⟩ := accepts_one hsign
      have hc : c = '-' ∨ c = '+' := by
        have hmem : c ∈ "+-".toList := of_decide_eq_true hc
        simpa [or_comm] using hmem
      have hlength : digits.length ≤ maxStrDigits := (hmost 3 rfl).trans (by decide)
      obtain ⟨offset, hoffset, -⟩ := intOf_signed hc hdigits hleast hlength
      rw [htext]
      exact ⟨some offset, by rw [List.singleton_append, hoffset]; rfl, trivial⟩

theorem kept_month {year month : Int} (h : 1 ≤ month ∧ month ≤ 12) :
    Kept .viewCalendar (monthOf year month) := by
  refine Kept.cons (promise_unchecked (by decide) _) (Kept.cons ?_ kept_nil)
  simpa [Promise] using h

theorem calendarMonthArguments_returns (h : Timely router now) (selector : String) :
    Returns (router.calendarMonthArguments now selector) (EditKept .viewCalendar) := by
  unfold calendarMonthArguments
  simp only
  cases hmonth : fullmatch monthPattern (strip selector) with
  | some groups =>
    have hyears : monthPattern.captures 1 = [between digit 4 4] := rfl
    have hmonths : monthPattern.captures 2 = [between digit 1 2] := rfl
    refine (number_taken hmonth rfl hyears (by decide) (by decide)).bind fun year _ => ?_
    refine (number_taken hmonth rfl hmonths (by decide) (by decide)).bind fun month _ => ?_
    split
    · exact returns_ok editKept_none
    · rename_i hrange
      exact returns_ok (editKept_some (kept_month (not_not.mp hrange)))
  | none =>
    refine (current_returns h).bind fun current _ => ?_
    refine (monthOffset_returns (strip selector)).bind fun offset _ => ?_
    cases offset with
    | some offset =>
      refine returns_ok (editKept_some (kept_month ?_))
      omega
    | none =>
      cases hbare : fullmatch bareMonthPattern (strip selector) with
      | none => exact returns_ok editKept_none
      | some groups =>
        have hmonths : bareMonthPattern.captures 1 = [between digit 1 2] := rfl
        refine (number_taken hbare rfl hmonths (by decide) (by decide)).bind fun month _ => ?_
        split
        · exact returns_ok editKept_none
        · rename_i hrange
          exact returns_ok (editKept_some (kept_month (not_not.mp hrange)))

theorem safe_calendarView (h : Timely router now) (value : String) :
    Safe (router.calendarView now value) := by
  refine safe_matching fun groups _ => ?_
  split
  · exact returns_ok (inRanges_some kept_nil)
  · refine (calendarMonthArguments_returns h _).bind fun arguments harguments => returns_ok ?_
    cases arguments with
    | none => exact inRanges_some (kept_unchecked (by simp [checkedArguments]))
    | some arguments => exact inRanges_some (harguments arguments rfl)

theorem safe_postponed (h : Timely router now) (value : String) : Safe (postponed now value) := by
  refine safe_matching fun groups hmatch => ?_
  have hcounts : postponePattern.captures 2 = [between digit 1 4] := rfl
  have hunit : taken groups 3 ∈ ["分钟", "小时", "天"] := word_taken hmatch rfl rfl
  refine (number_taken hmatch rfl hcounts (by decide) (by decide)).bind fun count hcount => ?_
  refine (delay_returns hunit (count_range hcount)).bind fun delta hdelta => ?_
  refine (plus_returns (h.utc delta hdelta.1 hdelta.2)).bind fun due _ => ?_
  exact returns_ok (inRanges_some (kept_unchecked (by simp [checkedArguments])))

theorem safe_snoozed (h : Timely router now) (value : String) : Safe (snoozed now value) := by
  refine safe_matching fun groups hmatch => ?_
  have hcounts : snoozePattern.captures 2 = [between digit 1 4] := rfl
  have hintent : ∀ minutes : Int, 0 ≤ minutes ∧ minutes ≤ 9999 → Returns (do
      let fireAt ← (DateTime.ofInstant now).plus (Duration.minutes minutes)
      return some ({
        action := .snoozeReminder
        arguments := [("reminder_id", .str (taken groups 1)), ("fire_at", .aware fireAt)] } :
          ParsedIntent)) InRanges := by
    intro minutes hminutes
    have hdelta : 0 ≤ minutes * 60000000 ∧ minutes * 60000000 ≤ 9999 * 86400000000 := by omega
    refine (plus_returns (h.utc (minutes * 60000000) hdelta.1 hdelta.2)).bind fun fireAt _ => ?_
    exact returns_ok (inRanges_some (kept_unchecked (by simp [checkedArguments])))
  simp only
  cases hnoted : noted groups 2 with
  | none => exact hintent 15 (by decide)
  | some text =>
    exact (number_noted hmatch hcounts (by decide) (by decide) hnoted).bind fun minutes hminutes =>
      hintent minutes (count_range hminutes)

theorem kept_reminding (title : String) (fireAt : DateTime) : InRanges (some (reminding title fireAt)) :=
  inRanges_some (kept_unchecked (by simp [reminding, checkedArguments]))

theorem absoluteMinute_returns {value : String} {groups : Pattern.Groups}
    (h : fullmatch absolutePattern value = some groups) :
    Returns (absoluteMinute groups) fun minute => 0 ≤ minute := by
  have hcolon : absolutePattern.captures 4 = [between digit 1 2] := rfl
  have hpoint : absolutePattern.captures 5 = [between digit 1 2] := rfl
  unfold absoluteMinute
  cases hfirst : noted groups 4 with
  | some text =>
    exact (number_noted h hcolon (by decide) (by decide) hfirst).mono fun _ hread => hread.nonneg
  | none =>
    cases hsecond : noted groups 5 with
    | some text =>
      exact (number_noted h hpoint (by decide) (by decide) hsecond).mono fun _ hread => hread.nonneg
    | none => exact returns_ok (by decide)

theorem ordinal_next (wall : Int) : Wall.ordinal (wall + 86400000000) = Wall.ordinal wall + 1 := by
  unfold Wall.ordinal
  omega

theorem absoluteReminder_returns (h : Timely router now) {current : DateTime}
    (hwall : current.wall = (router.zones.fromutc router.timezone now).1) {value : String}
    {groups : Pattern.Groups} (hmatch : fullmatch absolutePattern value = some groups) :
    Returns (router.absoluteReminder current groups) InRanges := by
  have hhours : absolutePattern.captures 3 = [between digit 1 2] := rfl
  unfold absoluteReminder
  refine (number_taken hmatch rfl hhours (by decide) (by decide)).bind fun written hwritten => ?_
  refine (absoluteMinute_returns hmatch).bind fun minute hminute => ?_
  simp only
  generalize hhour : (if taken groups 2 ∈ ["下午", "晚上"] ∧ written < 12 then written + 12
    else written) = hour
  have hnonneg : 0 ≤ hour := by
    have hwritten' := hwritten.nonneg
    rw [← hhour]
    split
    · omega
    · exact hwritten'
  by_cases hlarge : 23 < hour ∨ 59 < minute
  · rw [if_pos hlarge]
    exact returns_ok inRanges_none
  · rw [if_neg hlarge]
    -- today and tomorrow are both in the calendar
    have hday : Calendar.InCalendar (Wall.ordinal current.wall +
        if taken groups 1 = "明天" then 1 else 0) := by
      rw [hwall]
      split
      · rw [← ordinal_next]
        exact Wall.inCalendar_ordinal (h.inZone 86400000000 (by decide) (by decide))
      · rw [Int.add_zero]
        have hnow := h.inZone 0 (by decide) (by decide)
        rw [Int.add_zero] at hnow
        exact Wall.inCalendar_ordinal hnow
    generalize (if taken groups 1 = "明天" then (1 : Int) else 0) = offset at hday ⊢
    have htime : Returns (timeOf hour minute) fun _ => True :=
      (timeOf_returns (by omega)).mono fun _ _ => trivial
    rw [raiseIf_bind_of_not (not_not.mpr hday)]
    refine htime.bind fun time _ => ?_
    split
    · exact returns_ok inRanges_none
    · exact returns_ok (kept_reminding _ _)

theorem parseReminder_returns (h : Timely router now) (value : String) :
    Returns (router.parseReminder now value) InRanges := by
  unfold parseReminder
  refine (current_returns h).bind fun current hcurrent => ?_
  have hplus : ∀ delta : Int, 0 ≤ delta ∧ delta ≤ Duration.days 9999 →
      Returns (current.plus delta) fun _ => True := by
    intro delta hdelta
    refine plus_returns ?_
    rw [hcurrent.1]
    exact h.inZone delta hdelta.1 hdelta.2
  cases hlater : fullmatch laterPattern value with
  | some groups =>
    refine (hplus (Duration.minutes 15) (by decide)).bind fun fireAt _ => ?_
    exact returns_ok (kept_reminding _ _)
  | none =>
    cases hrelative : fullmatch relativePattern value with
    | some groups =>
      have hcounts : relativePattern.captures 1 = [between digit 1 4] := rfl
      have hunit : taken groups 2 ∈ ["分钟", "小时", "天"] := word_taken hrelative rfl rfl
      refine (number_taken hrelative rfl hcounts (by decide) (by decide)).bind fun count hcount => ?_
      refine (delay_returns hunit (count_range hcount)).bind fun delta hdelta => ?_
      refine (hplus delta hdelta).bind fun fireAt _ => ?_
      exact returns_ok (kept_reminding _ _)
    | none =>
      cases habsolute : fullmatch absolutePattern value with
      | some groups => exact absoluteReminder_returns h hcurrent.1 habsolute
      | none => exact returns_ok inRanges_none

theorem safe_reminder (h : Timely router now) (value : String) : Safe (router.reminder now value) := by
  have hreturns := parseReminder_returns h value
  unfold reminder
  split
  · exact safe_none
  · exact safe_some hreturns

/-! ### All rules -/

theorem safe_firstRules (value : String) : ∀ rule ∈ firstRules value, Safe rule := by
  unfold firstRules
  simp only [List.forall_mem_cons]
  exact ⟨safe_help value, safe_moveNote value, safe_appendNote value, safe_saveNote value,
    safe_naturalNote value, safe_rename value, safe_planConfirmation value, safe_planLead value,
    safe_planNotification value, safe_listed value _ _ _, safe_listed value _ _ _,
    safe_listed value _ _ _, safe_anniversary value, fun _ h => absurd h List.not_mem_nil⟩

theorem safe_lastRules (h : Timely router now) (value : String) :
    ∀ rule ∈ router.lastRules now value, Safe rule := by
  have hplain : ∀ {action : IntentAction} {arguments : Arguments},
      (∀ name ∈ arguments.map Prod.fst, name ∉ checkedArguments) → Safe (intent action arguments) :=
    fun hnames => safe_intent (kept_unchecked hnames)
  unfold lastRules
  simp only [List.forall_mem_cons]
  refine ⟨safe_listed value _ _ _, safe_dailyBriefing value, ?_, safe_calendarView h value,
    safe_listed value _ _ _, safe_listed value _ _ _, safe_listed value _ _ _, ?_, ?_, ?_, ?_, ?_, ?_,
    safe_named value _ (by decide) _ _, safe_postponed h value, safe_named value _ (by decide) _ _,
    safe_named value _ (by decide) _ _, safe_named value _ (by decide) _ _,
    safe_named value _ (by decide) _ _, safe_snoozed h value, ?_, safe_reminder h value, ?_,
    fun _ h => absurd h List.not_mem_nil⟩
  · exact safe_prefixed value _ fun body => hplain (by simp [checkedArguments])
  · exact safe_whenever (hplain (by simp [checkedArguments]))
  · exact safe_prefixed value _ fun body => hplain (by simp [checkedArguments])
  · exact safe_prefixed value _ fun body => hplain (by simp [checkedArguments])
  · exact safe_prefixed value _ fun body => hplain (by simp [checkedArguments])
  · exact safe_prefixed value _ fun body => hplain (by simp [checkedArguments])
  · exact safe_prefixed value _ fun body => hplain (by simp [checkedArguments])
  · exact safe_prefixed value _ fun body => hplain (by simp [checkedArguments])
  · exact safe_prefixed value _ fun body => hplain (by simp [checkedArguments])

/-- What the first rule returns that applies. -/
def first (rules : List RouteResult) : Except PyError (Option ParsedIntent) :=
  (rules.findSome? id).getD (.ok none)

/-- The rules behind some that return are tried only if none of these applies. -/
theorem first_append_returns {front rules : List RouteResult} (hfront : ∀ rule ∈ front, Safe rule)
    (h : (∀ rule ∈ front, rule = none) → Returns (first rules) InRanges) :
    Returns (first (front ++ rules)) InRanges := by
  induction front with
  | nil => exact h fun _ hrule => absurd hrule List.not_mem_nil
  | cons rule front ih =>
    cases hrule : rule with
    | none =>
      refine ih (fun other hother => hfront other (List.mem_cons_of_mem _ hother)) fun hnone => h ?_
      intro other hother
      rcases List.mem_cons.mp hother with rfl | hother
      · exact hrule
      · exact hnone other hother
    | some result => exact hfront rule (List.mem_cons_self ..) result hrule

theorem first_returns {rules : List RouteResult} (h : ∀ rule ∈ rules, Safe rule) :
    Returns (first rules) InRanges := by
  rw [← List.append_nil rules]
  exact first_append_returns h fun _ => returns_ok inRanges_none

theorem first_append_of_none {front rules : List RouteResult} (h : ∀ rule ∈ front, rule = none) :
    first (front ++ rules) = first rules := by
  induction front with
  | nil => rfl
  | cons rule front ih =>
    obtain rfl := h rule (List.mem_cons_self ..)
    exact ih fun other hother => h other (List.mem_cons_of_mem _ hother)

/-- The rules that can raise come one behind the other. -/
theorem route_eq (text : String) : router.route now text =
    first (firstRules (strip text) ++ (importantDay (strip text) :: (editRules (strip text) ++
      (birthday (strip text) :: leads (strip text) :: router.lastRules now (strip text))))) := by
  show first (router.rules now (strip text)) = _
  unfold rules
  rw [List.append_assoc, List.cons_append]

/-- The message makes the parser raise. -/
inductive Raises (value : String) : Prop
  | notice (h : NoticeUnreadable value)
  | birthday (h : LunarYearZero value)
  | leads (h : LeadsOverflow value)

theorem edited_eq_none {commands : List String} {name : String} {deletion update : IntentAction}
    {edit : String → Except PyError (Option Arguments)} {value : String} :
    edited commands name deletion update edit value = none ↔
      fullmatch (editPattern commands) value = none := by
  unfold edited matching
  exact Option.map_eq_none_iff

/-- **The parser returns** for every other message, and what it returns is as promised. -/
theorem route_returns (h : Timely router now) {text : String} (hraises : ¬ Raises (strip text)) :
    Returns (router.route now text) InRanges := by
  rw [route_eq]
  generalize strip text = value at hraises ⊢
  refine first_append_returns (safe_firstRules value) fun hfirst => ?_
  have hanniversary : fullmatch anniversaryPattern value = none := by
    have hnone : anniversary value = none := hfirst _ (by simp [firstRules])
    exact Option.map_eq_none_iff.mp hnone
  have himportant : ∀ rule ∈ [importantDay value], Safe rule := by
    intro rule hrule
    rw [List.mem_singleton.mp hrule]
    exact safe_importantDay hanniversary fun hnotice => hraises (.notice hnotice)
  refine first_append_returns himportant fun hedit => ?_
  have hnoEdit : fullmatch (editPattern importantDayCommands) value = none :=
    edited_eq_none.mp (hedit _ (List.mem_singleton.mpr rfl))
  refine first_returns ?_
  show ∀ rule ∈ briefing value :: notification value :: birthday value :: leads value ::
    router.lastRules now value, Safe rule
  simp only [List.forall_mem_cons]
  exact ⟨safe_briefing value, safe_notification value,
    safe_birthday hnoEdit fun hbirthday => hraises (.birthday hbirthday),
    safe_leads fun hleads => hraises (.leads hleads), safe_lastRules h value⟩

/-! ### The rules in front of one that raises -/

/-- How the messages start that can make the parser raise. -/
def raisingStarts : List String := ["/重要日子", "/纪念日", "/生日", "/提前提醒"]

section Starts

variable {start value : String}

theorem listed_none {values compacted : List String} {action : IntentAction}
    (hstart : start.toList <+: value.toList) (hspace : ∀ c ∈ start.toList, isSpace c = false)
    (hvalues : ∀ v ∈ values, ¬ start.toList <+: v.toList)
    (hcompacted : ∀ v ∈ compacted, ¬ start.toList <+: v.toList) :
    listed values compacted action value = none := by
  refine if_neg ?_
  rintro (hvalue | hcompact)
  · exact hvalues value hvalue hstart
  · refine hcompacted _ hcompact ?_
    -- the start has no white space that would be taken out
    have hfilter := hstart.filter fun c => !isSpace c
    have hkept : (start.toList.filter fun c => !isSpace c) = start.toList :=
      List.filter_eq_self.mpr fun c hc => by rw [hspace c hc]; rfl
    rw [hkept] at hfilter
    rwa [String.toList_ofList]

theorem help_none (hstart : start.toList <+: value.toList)
    (hwords : ∀ v ∈ ["/帮助", "/help", "帮助", "help", "/菜单", "菜单"],
      ¬ start.toList.map Char.toLower <+: v.toList) : help value = none := by
  refine if_neg fun hlowered => hwords _ hlowered ?_
  have hmap := hstart.map Char.toLower
  unfold lowered
  rwa [String.toList_ofList]

theorem starts_without_space : ∀ start ∈ raisingStarts, start.toList.all (fun c => !isSpace c) = true := by
  decide +kernel

theorem firstRules_none (hmem : start ∈ raisingStarts) (hstart : start.toList <+: value.toList)
    (hlist : value ≠ "/纪念日") (hanniversary : fullmatch anniversaryPattern value = none) :
    ∀ rule ∈ firstRules value, rule = none := by
  have hspace : ∀ c ∈ start.toList, isSpace c = false := fun c hc => by
    have hall := List.all_eq_true.mp (starts_without_space start hmem) c hc
    simpa using hall
  have hopens : ∀ {a : Pattern}, (∀ start ∈ raisingStarts, [] ∉ a.opens start.toList) →
      fullmatch a value = none :=
    fun hnone => Pattern.fullmatch_none_of_opens (hnone start hmem) hstart
  have hmove : fullmatch moveNotePattern value = none := hopens (by decide +kernel)
  have happend : fullmatch appendNotePattern value = none := hopens (by decide +kernel)
  have hsave : fullmatch saveNotePattern value = none := hopens (by decide +kernel)
  have hnatural : fullmatch naturalNotePattern value = none := hopens (by decide +kernel)
  have hwords : ∀ start ∈ raisingStarts,
      ∀ v ∈ ["/帮助", "/help", "帮助", "help", "/菜单", "菜单"],
        ¬ start.toList.map Char.toLower <+: v.toList := by decide +kernel
  have hagenda : ∀ start ∈ raisingStarts, ∀ v ∈ ["/今天", "/日程", "今天有什么安排", "今天的日程",
      "今日安排", "/全部日程", "/所有日程", "/未来日程", "列出所有日程", "所有未来日程",
      "查看全部日程"], ¬ start.toList <+: v.toList := by decide +kernel
  have hagendas : ∀ {values compacted : List String} {action : IntentAction},
      values ++ compacted ⊆ ["/今天", "/日程", "今天有什么安排", "今天的日程", "今日安排",
        "/全部日程", "/所有日程", "/未来日程", "列出所有日程", "所有未来日程", "查看全部日程"] →
      listed values compacted action value = none := fun hsub =>
    listed_none hstart hspace
      (fun v hv => hagenda start hmem v (hsub (List.mem_append_left _ hv)))
      (fun v hv => hagenda start hmem v (hsub (List.mem_append_right _ hv)))
  unfold firstRules
  simp only [List.forall_mem_cons]
  refine ⟨help_none hstart (hwords start hmem), ?_, ?_, ?_, ?_, ?_, ?_, ?_, ?_, ?_, ?_, ?_, ?_,
    fun _ h => absurd h List.not_mem_nil⟩
  · unfold moveNote
    rw [hmove]
  · unfold appendNote
    rw [happend]
  · unfold saveNote
    rw [hsave]
  · unfold naturalNote
    rw [hnatural]
  · exact Option.map_eq_none_iff.mpr (hopens (by decide +kernel))
  · exact Option.map_eq_none_iff.mpr (hopens (by decide +kernel))
  · exact Option.map_eq_none_iff.mpr (hopens (by decide +kernel))
  · exact Option.map_eq_none_iff.mpr (hopens (by decide +kernel))
  · exact hagendas (by decide)
  · exact hagendas (by decide)
  · refine if_neg ?_
    rintro (hvalue | hcompact)
    · exact hlist (List.mem_singleton.mp hvalue)
    · exact absurd hcompact List.not_mem_nil
  · exact Option.map_eq_none_iff.mpr hanniversary

theorem starts_of_words {ws : List String} {b : Pattern} {groups : Pattern.Groups}
    (h : fullmatch (.seq (words ws) b) value = some groups) :
    ∃ start ∈ ws, start.toList <+: value.toList := by
  obtain ⟨u, v, hvalue, hu, -⟩ := (Pattern.fullmatch_sound h).1
  refine ⟨String.ofList u, accepts_words (by rwa [String.toList_ofList]), ?_⟩
  rw [String.toList_ofList, hvalue]
  exact List.prefix_append u v

theorem starts_of_lit {b : Pattern} {groups : Pattern.Groups}
    (h : fullmatch (.seq (lit start) b) value = some groups) : start.toList <+: value.toList := by
  obtain ⟨u, v, hvalue, rfl, -⟩ := (Pattern.fullmatch_sound h).1
  rw [hvalue]
  exact List.prefix_append _ v

end Starts

theorem route_notice {text : String} (h : NoticeUnreadable (strip text)) :
    router.route now text = .error .value := by
  rw [route_eq]
  generalize strip text = value at h ⊢
  obtain ⟨hanniversary, groups, hmatch, -⟩ := id h
  obtain ⟨start, hcommand, hstart⟩ := starts_of_words hmatch
  have hmem : ∀ start ∈ importantDayCommands, start ∈ raisingStarts := by decide
  have hlist : value ≠ "/纪念日" := by
    rintro rfl
    have hnone : (fullmatch (editPattern importantDayCommands) "/纪念日").isNone = true := by
      decide +kernel
    rw [hmatch] at hnone
    exact absurd hnone (by simp)
  rw [first_append_of_none (firstRules_none (hmem start hcommand) hstart hlist hanniversary),
    importantDay_raises h]
  rfl

theorem route_birthday {text : String} (h : LunarYearZero (strip text)) :
    router.route now text = .error .value := by
  rw [route_eq]
  generalize strip text = value at h ⊢
  obtain ⟨hedit, groups, hmatch, -⟩ := id h
  have hstart : "/生日".toList <+: value.toList := starts_of_lit hmatch
  have hopens : ∀ {a : Pattern}, [] ∉ a.opens "/生日".toList → fullmatch a value = none :=
    fun hnone => Pattern.fullmatch_none_of_opens hnone hstart
  have hlist : value ≠ "/纪念日" := by
    rintro rfl
    exact absurd hstart (by decide +kernel)
  have hbriefing : briefing value = none := edited_eq_none.mpr (hopens (by decide +kernel))
  have hnotification : notification value = none := edited_eq_none.mpr (hopens (by decide +kernel))
  have himportant : importantDay value = none := edited_eq_none.mpr hedit
  rw [first_append_of_none (firstRules_none (by decide) hstart hlist (hopens (by decide +kernel))),
    himportant, editRules, hbriefing, hnotification, birthday_raises h]
  rfl

theorem route_leads {text : String} (h : LeadsOverflow (strip text)) :
    router.route now text = .error .overflow := by
  rw [route_eq]
  generalize strip text = value at h ⊢
  obtain ⟨groups, hmatch, -⟩ := id h
  have hstart : "/提前提醒".toList <+: value.toList := starts_of_lit hmatch
  have hopens : ∀ {a : Pattern}, [] ∉ a.opens "/提前提醒".toList → fullmatch a value = none :=
    fun hnone => Pattern.fullmatch_none_of_opens hnone hstart
  have hlist : value ≠ "/纪念日" := by
    rintro rfl
    exact absurd hstart (by decide +kernel)
  have himportant : importantDay value = none := edited_eq_none.mpr (hopens (by decide +kernel))
  have hbriefing : briefing value = none := edited_eq_none.mpr (hopens (by decide +kernel))
  have hnotification : notification value = none := edited_eq_none.mpr (hopens (by decide +kernel))
  have hbirthday : birthday value = none :=
    Option.map_eq_none_iff.mpr (hopens (by decide +kernel))
  rw [first_append_of_none (firstRules_none (by decide) hstart hlist (hopens (by decide +kernel))),
    himportant, editRules, hbriefing, hnotification, hbirthday, leads_raises h]
  rfl

/-- **The parser is total, up to three kinds of messages.** For every text it returns nothing or an
intent whose arguments are as promised, unless the text asks for unreadable days of notice, for a lunar
birthday in the year zero, or for an infinite lead time; then it raises. -/
theorem route_returns_iff (h : Timely router now) (text : String) :
    Returns (router.route now text) InRanges ↔ ¬ Raises (strip text) := by
  constructor
  · intro hreturns hraises
    cases hraises with
    | notice hnotice => exact hreturns.not_error _ (route_notice hnotice)
    | birthday hbirthday => exact hreturns.not_error _ (route_birthday hbirthday)
    | leads hleads => exact hreturns.not_error _ (route_leads hleads)
  · exact route_returns h

end Clock

/-- A parser with the clock of Coordinated Universal Time. -/
def utcRouter : RuleIntentRouter where
  zones := {
    lookup := fun _ => .found
    utcoffset := fun _ _ _ => 0
    fromutc := fun _ t => (t, false) }
  timezone := "UTC"

theorem timely_utcRouter : Timely utcRouter 1700000000000000 := by
  have hrange : ∀ delta : Int, 0 ≤ delta → delta ≤ Duration.days 9999 →
      Instant.InRange (1700000000000000 + delta) := by
    intro delta hdelta hlong
    unfold Duration.days at hlong
    unfold Instant.InRange Instant.earliest Instant.latest
    omega
  exact ⟨hrange, hrange⟩

/-- The same command with the year 1990 and with the year 0000. -/
theorem route_returns_iff_years :
    Returns (utcRouter.route 1700000000000000 "/生日 妈妈 农历 1990-05-05") InRanges ∧
      ¬ Returns (utcRouter.route 1700000000000000 "/生日 妈妈 农历 0000-05-05") InRanges := by
  constructor
  · refine (route_returns_iff timely_utcRouter _).mpr fun hraises => ?_
    have hbirthday : fullmatch birthdayPattern (strip "/生日 妈妈 农历 1990-05-05") =
        some [(1, "妈妈".toList), (2, "农历".toList), (3, "1990".toList), (4, "05".toList),
          (5, "05".toList)] := by decide +kernel
    have hnoEdit : fullmatch (editPattern importantDayCommands)
        (strip "/生日 妈妈 农历 1990-05-05") = none := by decide +kernel
    have hnoLeads : fullmatch leadsPattern (strip "/生日 妈妈 农历 1990-05-05") = none := by
      decide +kernel
    cases hraises with
    | notice hnotice =>
      obtain ⟨-, groups, hmatch, -⟩ := hnotice
      rw [hnoEdit] at hmatch
      cases hmatch
    | birthday hzero =>
      obtain ⟨-, groups, hmatch, -, ⟨year, hyear, hzero⟩, -⟩ := hzero
      rw [hbirthday] at hmatch
      obtain rfl := Option.some.inj hmatch
      obtain rfl : "1990" = year := Option.some.inj hyear
      exact absurd hzero (by decide +kernel)
    | leads hleads =>
      obtain ⟨groups, hmatch, -⟩ := hleads
      rw [hnoLeads] at hmatch
      cases hmatch
  · intro hreturns
    refine (route_returns_iff timely_utcRouter _).mp hreturns (.birthday ⟨by decide +kernel, ?_⟩)
    refine ⟨[(1, "妈妈".toList), (2, "农历".toList), (3, "0000".toList), (4, "05".toList),
      (5, "05".toList)], by decide +kernel, rfl, ⟨"0000", rfl, by decide +kernel⟩, 5, 5, ?_⟩
    decide +kernel

end RuleIntentRouter

end Zhixu
