import Zhixu.Application.RuleRouter
import Zhixu.Framework.Returns

/-!
# What the conversions of a command return

The regular expressions of the rule parser let through more than their authors may have thought of, and
the conversions behind them refuse more. Here each conversion is shown to return for whatever a match
can have noted. A group that has to take part has noted a word of the pattern inside it
(`taken_accepts`), so what is known of a number is that it is made of so many decimal digits
(`number_taken`), and that is enough for `int`, `time` and the moments.

Two parts of a command can be refused. A day of notice is found to be a number by `str.isdigit`, which
has characters that `int` does not know, and more digits than `int` reads (`noticeDays_raises_iff`). A
lead time is read with `float`, and an infinite one is no `int` (`leadPart_raises_iff`).
-/

open Framework

namespace Zhixu

namespace RuleIntentRouter

/-! ### Numbers -/

theorem decimalValue_lt {c : Char} {d : ℕ} (h : decimalValue c = some d) : d < 10 := by
  unfold decimalValue at h
  obtain ⟨first, hfind, rfl⟩ := Option.map_eq_some_iff.mp h
  have hrange := List.find?_some hfind
  simp only [Bool.and_eq_true, decide_eq_true_eq] at hrange
  omega

/-- The digits of a text. -/
theorem exists_digits {cs : List Char} (h : ∀ c ∈ cs, digit c = true) :
    ∃ ds : List ℕ, cs.mapM decimalValue = some ds ∧ ds.length = cs.length ∧ ∀ d ∈ ds, d < 10 := by
  induction cs with
  | nil => exact ⟨[], rfl, rfl, by simp⟩
  | cons c cs ih =>
    obtain ⟨d, hd⟩ := Option.isSome_iff_exists.mp (h c (List.mem_cons_self ..))
    obtain ⟨ds, hds, hlength, hsmall⟩ := ih fun e he => h e (List.mem_cons_of_mem _ he)
    refine ⟨d :: ds, ?_, by rw [List.length_cons, List.length_cons, hlength], fun e he => ?_⟩
    · rw [List.mapM_cons, hd, hds]
      rfl
    · rcases List.mem_cons.mp he with rfl | he
      · exact decimalValue_lt hd
      · exact hsmall e he

theorem foldl_digits_lt {ds : List ℕ} (h : ∀ d ∈ ds, d < 10) (n : ℕ) :
    ds.foldl (fun n digit => 10 * n + digit) n < (n + 1) * 10 ^ ds.length := by
  induction ds generalizing n with
  | nil => simp
  | cons d ds ih =>
    have hd := h d (List.mem_cons_self ..)
    have hrest := ih (fun e he => h e (List.mem_cons_of_mem _ he)) (10 * n + d)
    calc (d :: ds).foldl (fun n digit => 10 * n + digit) n
        < (10 * n + d + 1) * 10 ^ ds.length := hrest
      _ ≤ ((n + 1) * 10) * 10 ^ ds.length := Nat.mul_le_mul_right _ (by omega)
      _ = (n + 1) * 10 ^ (d :: ds).length := by
        rw [List.length_cons, Nat.pow_succ, Nat.mul_assoc, Nat.mul_comm 10]

/-- A number has a value below a power of ten. -/
theorem digitsValue_of_digits {cs : List Char} (h : ∀ c ∈ cs, digit c = true) :
    ∃ n, digitsValue cs = some n ∧ n < 10 ^ cs.length := by
  obtain ⟨ds, hds, hlength, hsmall⟩ := exists_digits h
  refine ⟨_, by unfold digitsValue; rw [hds]; rfl, ?_⟩
  have hlt := foldl_digits_lt hsmall 0
  rwa [Nat.zero_add, Nat.one_mul, hlength] at hlt

theorem digitsValue_eq_none {cs : List Char} {c : Char} (hc : c ∈ cs) (hdigit : digit c = false) :
    digitsValue cs = none := by
  have hmap : cs.mapM decimalValue = none := by
    induction cs with
    | nil => exact absurd hc List.not_mem_nil
    | cons d cs ih =>
      rw [List.mapM_cons]
      rcases List.mem_cons.mp hc with rfl | hc
      · have hnone : decimalValue c = none := by
          unfold digit at hdigit
          exact Option.not_isSome_iff_eq_none.mp (by rw [hdigit]; decide)
        rw [hnone]
        rfl
      · rw [ih hc]
        cases decimalValue d <;> rfl
  unfold digitsValue
  rw [hmap]
  rfl

/-- **`int` reads every number** that is not too long. -/
theorem natOf_digits {cs : List Char} (h : ∀ c ∈ cs, digit c = true) (hpos : 1 ≤ cs.length)
    (hlength : cs.length ≤ maxStrDigits) :
    Returns (natOf cs) fun n => digitsValue cs = some n ∧ n < 10 ^ cs.length := by
  obtain ⟨n, hn, hlt⟩ := digitsValue_of_digits h
  have hread : ¬ (cs = [] ∨ maxStrDigits < cs.length) := by
    rintro (rfl | hlong)
    · exact absurd hpos (by decide)
    · exact absurd hlength (Nat.not_le.mpr hlong)
  unfold natOf
  rw [if_neg hread, hn]
  exact returns_ok ⟨rfl, hlt⟩

theorem intOf_digits {cs : List Char} (h : ∀ c ∈ cs, digit c = true) (hpos : 1 ≤ cs.length)
    (hlength : cs.length ≤ maxStrDigits) : Returns (intOf cs) fun value =>
      ∃ n : ℕ, value = n ∧ digitsValue cs = some n ∧ n < 10 ^ cs.length := by
  have hread := natOf_digits h hpos hlength
  cases cs with
  | nil => exact absurd hpos (by decide)
  | cons c cs =>
    -- a digit is no sign
    have hc := h c (List.mem_cons_self ..)
    have hminus : c ≠ '-' := by
      rintro rfl
      exact absurd hc (by decide +kernel)
    have hplus : c ≠ '+' := by
      rintro rfl
      exact absurd hc (by decide +kernel)
    have hself : intOf (c :: cs) = (natOf (c :: cs) >>= fun value => return (value : Int)) := by
      unfold intOf
      split
      · rename_i heq
        exact absurd (List.cons.inj heq).1 hminus
      · rename_i heq
        exact absurd (List.cons.inj heq).1 hplus
      · rfl
    rw [hself]
    exact hread.bind fun n hn => returns_ok ⟨n, rfl, hn.1, hn.2⟩

/-- A number behind a sign. -/
theorem intOf_signed {sign : Char} (hsign : sign = '-' ∨ sign = '+') {cs : List Char}
    (h : ∀ c ∈ cs, digit c = true) (hpos : 1 ≤ cs.length) (hlength : cs.length ≤ maxStrDigits) :
    Returns (intOf (sign :: cs)) fun _ => True := by
  rcases hsign with rfl | rfl
  · exact (natOf_digits h hpos hlength).bind fun _ _ => returns_ok trivial
  · exact (natOf_digits h hpos hlength).bind fun _ _ => returns_ok trivial

/-! ### What a match has noted -/

section Noted

variable {a : Pattern} {value : String} {groups : Pattern.Groups} {index : ℕ}

/-- A group that has to take part has noted a word of the pattern in it. -/
theorem taken_accepts (h : fullmatch a value = some groups) (halways : a.always index = true) :
    ∃ b ∈ a.captures index, b.Accepts (taken groups index).toList := by
  obtain ⟨w, hw⟩ := Pattern.exists_lookup halways h
  obtain ⟨b, hb, haccepts⟩ := Pattern.accepts_of_lookup h hw
  refine ⟨b, hb, ?_⟩
  unfold taken noted
  rw [hw]
  show b.Accepts (String.ofList w).toList
  rwa [String.toList_ofList]

theorem noted_accepts (h : fullmatch a value = some groups) {text : String}
    (hnoted : noted groups index = some text) :
    ∃ b ∈ a.captures index, b.Accepts text.toList := by
  unfold noted at hnoted
  obtain ⟨w, hw, rfl⟩ := Option.map_eq_some_iff.mp hnoted
  rw [String.toList_ofList]
  exact Pattern.accepts_of_lookup h hw

/-- A group that takes part whenever another one does. -/
theorem noted_together {j : ℕ} (h : fullmatch a value = some groups) {text : String}
    (hnoted : noted groups index = some text) (htogether : a.together index j = true) :
    ∃ other, noted groups j = some other := by
  unfold noted at hnoted
  obtain ⟨w, hw, -⟩ := Option.map_eq_some_iff.mp hnoted
  obtain ⟨v, hv⟩ := Pattern.lookup_together htogether h hw
  refine ⟨String.ofList v, ?_⟩
  unfold noted
  rw [hv]
  rfl

/-- What is read of a number of so many digits. -/
def Reads (text : String) (most : ℕ) (value : Int) : Prop :=
  ∃ n : ℕ, value = n ∧ digitsValue text.toList = some n ∧ n < 10 ^ most

theorem intOf_between {text : String} {least most : ℕ} (hpos : 0 < least)
    (hmost : most ≤ maxStrDigits) (h : (between digit least most).Accepts text.toList) :
    Returns (intOf text.toList) (Reads text most) := by
  obtain ⟨hall, hleast, hbound⟩ := h
  have hle := hbound most rfl
  refine (intOf_digits hall (hpos.trans_le hleast) (hle.trans hmost)).mono ?_
  rintro value ⟨n, rfl, hn, hlt⟩
  exact ⟨n, rfl, hn, hlt.trans_le (Nat.pow_le_pow_right (by decide) hle)⟩

/-- **A number that a match has noted** is read. -/
theorem number_taken {least most : ℕ} (h : fullmatch a value = some groups)
    (halways : a.always index = true) (hcaptures : a.captures index = [between digit least most])
    (hpos : 0 < least) (hmost : most ≤ maxStrDigits) :
    Returns (intOf (taken groups index).toList) (Reads (taken groups index) most) := by
  obtain ⟨b, hb, haccepts⟩ := taken_accepts h halways
  rw [hcaptures] at hb
  rw [List.mem_singleton.mp hb] at haccepts
  exact intOf_between hpos hmost haccepts

theorem number_noted {least most : ℕ} (h : fullmatch a value = some groups)
    (hcaptures : a.captures index = [between digit least most]) (hpos : 0 < least)
    (hmost : most ≤ maxStrDigits) {text : String} (hnoted : noted groups index = some text) :
    Returns (intOf text.toList) (Reads text most) := by
  obtain ⟨b, hb, haccepts⟩ := noted_accepts h hnoted
  rw [hcaptures] at hb
  rw [List.mem_singleton.mp hb] at haccepts
  exact intOf_between hpos hmost haccepts

theorem accepts_anyOf {as : List Pattern} {w : List Char} (h : (anyOf as).Accepts w) :
    ∃ b ∈ as, b.Accepts w := by
  induction as with
  | nil =>
    -- nothing is in the empty choice
    obtain ⟨hall, hleast, -⟩ := h
    cases w with
    | nil => exact absurd hleast (by decide)
    | cons c w => exact absurd (hall c (List.mem_cons_self ..)) (by simp)
  | cons b as ih =>
    cases as with
    | nil => exact ⟨b, List.mem_cons_self .., h⟩
    | cons next as =>
      rcases h with h | h
      · exact ⟨b, List.mem_cons_self .., h⟩
      · obtain ⟨c, hc, haccepts⟩ := ih h
        exact ⟨c, List.mem_cons_of_mem _ hc, haccepts⟩

theorem accepts_words {ws : List String} {text : String} (h : (words ws).Accepts text.toList) :
    text ∈ ws := by
  obtain ⟨b, hb, haccepts⟩ := accepts_anyOf h
  obtain ⟨w, hw, rfl⟩ := List.mem_map.mp hb
  obtain rfl : text = w := String.toList_inj.mp haccepts
  exact hw

/-- A word that a match has noted is one of the words. -/
theorem word_taken {ws : List String} (h : fullmatch a value = some groups)
    (halways : a.always index = true) (hcaptures : a.captures index = [words ws]) :
    taken groups index ∈ ws := by
  obtain ⟨b, hb, haccepts⟩ := taken_accepts h halways
  rw [hcaptures] at hb
  rw [List.mem_singleton.mp hb] at haccepts
  exact accepts_words haccepts

end Noted

/-! ### Times and dates -/

/-- A time of day, as its hour and its minute. -/
def IsTime (time : PlanTime) : Prop :=
  ∃ hour minute : Int, time.micros = hour * 3600000000 + minute * 60000000 ∧
    (0 ≤ hour ∧ hour ≤ 23) ∧ 0 ≤ minute ∧ minute ≤ 59

theorem timeOf_returns {hour minute : Int} (h : (0 ≤ hour ∧ hour ≤ 23) ∧ 0 ≤ minute ∧ minute ≤ 59) :
    Returns (timeOf hour minute) fun time =>
      time.micros = hour * 3600000000 + minute * 60000000 := by
  unfold timeOf
  rw [dif_pos h]
  exact returns_ok rfl

theorem Reads.nonneg {text : String} {most : ℕ} {value : Int} (h : Reads text most value) :
    0 ≤ value := by
  obtain ⟨n, rfl, -⟩ := h
  exact Int.natCast_nonneg n

/-- The hour and the minute of a match are checked before the time is made. -/
theorem checkedTime_returns {a : Pattern} {value : String} {groups : Pattern.Groups}
    (h : fullmatch a value = some groups) (hhour : a.always 1 = true)
    (hhourCaptures : a.captures 1 = [between digit 1 2]) (hminute : a.always 2 = true)
    (hminuteCaptures : a.captures 2 = [between digit 2 2]) :
    Returns (checkedTime groups) fun time => ∀ found ∈ time, IsTime found := by
  refine (number_taken h hhour hhourCaptures (by decide) (by decide)).bind fun hour hhour => ?_
  refine (number_taken h hminute hminuteCaptures (by decide) (by decide)).bind fun minute hminute => ?_
  by_cases hlarge : 23 < hour ∨ 59 < minute
  · rw [if_pos hlarge]
    exact returns_ok (by simp)
  · rw [if_neg hlarge]
    have hrange : (0 ≤ hour ∧ hour ≤ 23) ∧ 0 ≤ minute ∧ minute ≤ 59 := by
      have hhour' := hhour.nonneg
      have hminute' := hminute.nonneg
      omega
    obtain ⟨time, htime, hmicros⟩ := timeOf_returns hrange
    rw [htime]
    refine returns_ok fun found hfound => ?_
    obtain rfl := Option.some.inj hfound
    exact ⟨hour, minute, hmicros, hrange⟩

theorem wallTime_returns (value : String) :
    Returns (wallTime value) fun time => ∀ found ∈ time, IsTime found := by
  unfold wallTime
  cases hmatch : fullmatch wallTimePattern (strip value) with
  | none => exact returns_ok (by simp)
  | some groups => exact checkedTime_returns hmatch rfl rfl rfl rfl

/-- What an `except ValueError` around a conversion returns. -/
theorem exceptValue_returns {α : Type} {x : Except PyError α}
    (h : ∀ err, x = .error err → err = .value) : Returns (exceptValue x) fun _ => True := by
  cases x with
  | ok value => exact returns_ok trivial
  | error err =>
    obtain rfl := h err rfl
    exact returns_ok trivial

theorem natOf_error {cs : List Char} {err : PyError} (h : natOf cs = .error err) : err = .value := by
  unfold natOf at h
  split at h
  · exact (Except.error.inj h).symm
  · split at h
    · cases h
    · exact (Except.error.inj h).symm

theorem dateOf_error {year month day : Int} {err : PyError}
    (h : dateOf year month day = .error err) : err = .value := by
  unfold dateOf at h
  split at h
  · cases h
  · exact (Except.error.inj h).symm

/-- What a sequence raises is raised by its first part, or by the second. -/
theorem bind_error {α β : Type} {x : Except PyError α} {f : α → Except PyError β} {err : PyError}
    (h : x >>= f = .error err) : x = .error err ∨ ∃ a, x = .ok a ∧ f a = .error err := by
  cases x with
  | error e =>
    have hsame : (Except.error e : Except PyError β) = .error err := h
    exact Or.inl (congrArg Except.error (Except.error.inj hsame))
  | ok a => exact Or.inr ⟨a, rfl, h⟩

theorem raises_first {α β : Type} {x : Except PyError α} {f : α → Except PyError β} {err : PyError}
    (h : x = .error err) : x >>= f = .error err := by
  rw [h]
  rfl

theorem raises_second {α β : Type} {x : Except PyError α} {f : α → Except PyError β} {a : α}
    {err : PyError} (h : x = .ok a) (hf : f a = .error err) : x >>= f = .error err := by
  rw [h]
  exact hf

theorem strptimeDate_error {text : String} {err : PyError} (h : strptimeDate text = .error err) :
    err = .value := by
  unfold strptimeDate at h
  split at h
  · exact (Except.error.inj h).symm
  · rcases bind_error h with h | ⟨year, -, h⟩
    · exact natOf_error h
    · rcases bind_error h with h | ⟨month, -, h⟩
      · exact natOf_error h
      · rcases bind_error h with h | ⟨day, -, h⟩
        · exact natOf_error h
        · exact dateOf_error h

/-- The year of a match, if it has one. -/
theorem yearOr_returns {a : Pattern} {value : String} {groups : Pattern.Groups} {index : ℕ}
    (h : fullmatch a value = some groups) (hcaptures : a.captures index = [between digit 4 4]) :
    Returns (yearOr (noted groups index)) fun year =>
      (∀ text, noted groups index = some text → Reads text 4 year) ∧
        (noted groups index = none → year = 1) := by
  cases hnoted : noted groups index with
  | none => exact returns_ok ⟨fun _ h => (nomatch h), fun _ => rfl⟩
  | some text =>
    refine (number_noted h hcaptures (by decide) (by decide) hnoted).mono fun year hyear => ?_
    refine ⟨fun other hother => ?_, fun h => (nomatch h)⟩
    obtain rfl := Option.some.inj hother
    exact hyear

/-! ### Days of notice -/

/-- `int` does not read a part that `str.isdigit` lets through: a character is no decimal digit, or
there are too many. -/
def Unreadable (part : String) : Prop :=
  maxStrDigits < part.length ∨ ∃ c ∈ part.toList, digit c = false

theorem natOf_part {part : String} (hne : part ≠ "") :
    (Unreadable part → natOf part.toList = .error .value) ∧
      (¬ Unreadable part → Returns (natOf part.toList) fun _ => True) := by
  constructor
  · rintro (hlong | ⟨c, hc, hdigit⟩)
    · unfold natOf
      rw [if_pos (Or.inr (by rwa [String.length_toList]))]
    · unfold natOf
      split
      · rfl
      · rw [digitsValue_eq_none hc hdigit]
  · intro hread
    obtain ⟨hlong, hall⟩ := not_or.mp hread
    have hdigits : ∀ c ∈ part.toList, digit c = true := by
      intro c hc
      by_contra hdigit
      exact hall ⟨c, hc, (Bool.not_eq_true _).mp hdigit⟩
    have hpos : 1 ≤ part.toList.length := by
      rw [Nat.one_le_iff_ne_zero]
      intro hzero
      exact hne (String.toList_inj.mp (List.eq_nil_of_length_eq_zero hzero))
    refine (natOf_digits hdigits hpos ?_).mono fun _ _ => trivial
    rw [String.length_toList]
    exact Nat.not_lt.mp hlong

theorem ne_empty_of_mem_splitParts {separates : Char → Bool} {value part : String}
    (h : part ∈ splitParts separates value) : part ≠ "" := by
  unfold splitParts at h
  obtain ⟨cs, hcs, rfl⟩ := List.mem_map.mp h
  intro hempty
  have hnil : cs = [] := by
    rw [← String.toList_ofList (l := cs), hempty]
    rfl
  rw [hnil] at hcs
  exact absurd (List.of_mem_filter hcs) (by decide)

/-- What the field `预告` promises of its days. -/
def NoticeDays (arguments : Arguments) : Prop :=
  ∃ days : List ℕ, arguments = [("advance_days", .tuple (days.map fun day => .int day))] ∧
    days.length ≤ 8 ∧ ∀ day ∈ days, 1 ≤ day ∧ day ≤ 366

/-- The field has days, and all of them are digits for `str.isdigit`. -/
def AllDigits (body : String) : Prop :=
  splitParts listSeparator body ≠ [] ∧
    ∀ part ∈ splitParts listSeparator body, ∀ c ∈ part.toList, isDigit c = true

theorem mapM_returns {α β : Type} {f : α → Except PyError β} {xs : List α}
    (h : ∀ x ∈ xs, Returns (f x) fun _ => True) : Returns (xs.mapM f) fun _ => True := by
  induction xs with
  | nil => exact ⟨[], rfl, trivial⟩
  | cons x xs ih =>
    rw [List.mapM_cons]
    exact (h x (List.mem_cons_self ..)).bind fun _ _ =>
      (ih fun y hy => h y (List.mem_cons_of_mem _ hy)).bind fun _ _ => returns_ok trivial

/-- One element that raises is enough, if no other raises anything else. -/
theorem mapM_error {α β : Type} {f : α → Except PyError β} {xs : List α} {e : PyError}
    (h : ∀ x ∈ xs, ∀ err, f x = .error err → err = e) {x : α} (hx : x ∈ xs) (hraise : f x = .error e) :
    xs.mapM f = .error e := by
  induction xs with
  | nil => exact absurd hx List.not_mem_nil
  | cons y ys ih =>
    rw [List.mapM_cons]
    cases hy : f y with
    | error err =>
      obtain rfl := h y (List.mem_cons_self ..) err hy
      rfl
    | ok value =>
      rcases List.mem_cons.mp hx with rfl | hx
      · rw [hraise] at hy
        cases hy
      · have hrest := ih (fun z hz => h z (List.mem_cons_of_mem _ hz)) hx
        exact raises_second rfl (raises_first hrest)

/-- **The days of notice are refused** exactly if they are digits and one of them is not readable. -/
theorem noticeDays_returns {body : String}
    (h : AllDigits body → ∀ part ∈ splitParts listSeparator body, ¬ Unreadable part) :
    Returns (noticeDays body) fun edit => ∀ arguments ∈ edit, NoticeDays arguments := by
  unfold noticeDays
  simp only
  by_cases hskip : splitParts listSeparator body = [] ∨
      (splitParts listSeparator body).any
        (fun part => part.toList.any fun c => !isDigit c) = true
  · rw [if_pos hskip]
    exact returns_ok (by simp)
  · rw [if_neg hskip]
    obtain ⟨hne, hother⟩ := not_or.mp hskip
    have hdigits : AllDigits body := by
      refine ⟨hne, fun part hpart c hc => ?_⟩
      by_contra hdigit
      exact hother (List.any_eq_true.mpr ⟨part, hpart, List.any_eq_true.mpr ⟨c, hc, by
        rw [(Bool.not_eq_true _).mp hdigit]
        rfl⟩⟩)
    refine (mapM_returns fun part hpart =>
      (natOf_part (ne_empty_of_mem_splitParts hpart)).2 (h hdigits part hpart)).bind
        fun numbers _ => ?_
    by_cases hrange : ((numbers.dedup.insertionSort fun a b => b ≤ a).any
        (fun day => decide (¬ (1 ≤ day ∧ day ≤ 366))) = true) ∨
        8 < (numbers.dedup.insertionSort fun a b => b ≤ a).length
    · rw [if_pos hrange]
      exact returns_ok (by simp)
    · rw [if_neg hrange]
      obtain ⟨hdays, hfew⟩ := not_or.mp hrange
      refine returns_ok fun arguments harguments => ?_
      obtain rfl := Option.some.inj harguments
      refine ⟨_, rfl, Nat.not_lt.mp hfew, fun day hday => ?_⟩
      by_contra hout
      exact hdays (List.any_eq_true.mpr ⟨day, hday, decide_eq_true hout⟩)

theorem noticeDays_raises {body : String} (hdigits : AllDigits body) {part : String}
    (hpart : part ∈ splitParts listSeparator body) (hunreadable : Unreadable part) :
    noticeDays body = .error .value := by
  have hskip : ¬ (splitParts listSeparator body = [] ∨
      (splitParts listSeparator body).any
        (fun part => part.toList.any fun c => !isDigit c) = true) := by
    rintro (hnil | hany)
    · exact hdigits.1 hnil
    · obtain ⟨other, hother, hany⟩ := List.any_eq_true.mp hany
      obtain ⟨c, hc, hdigit⟩ := List.any_eq_true.mp hany
      rw [hdigits.2 other hother c hc] at hdigit
      exact absurd hdigit (by decide)
  have hmap := mapM_error (f := fun part : String => natOf part.toList)
    (fun _ _ _ herr => natOf_error herr) hpart
    ((natOf_part (ne_empty_of_mem_splitParts hpart)).1 hunreadable)
  unfold noticeDays
  simp only
  rw [if_neg hskip, hmap]
  rfl

/-! ### Lead times -/

/-- A part of a list of lead times whose number is infinite as a float. -/
def Overflows (part : String) : Prop :=
  part ∉ ["准点", "开始时", "0"] ∧ ∃ groups unit number, fullmatch leadPattern part = some groups ∧
    Dict.find? leadUnits (lowered (taken groups 2)) = some unit ∧
    floatOf (taken groups 1).toList = .ok number ∧ Infinite (timesFloat number unit)

/-- The number of a lead time is made of digits, with or without a point. -/
theorem floatOf_returns {part : String} {groups : Pattern.Groups}
    (h : fullmatch leadPattern part = some groups) :
    Returns (floatOf (taken groups 1).toList) fun _ => True := by
  obtain ⟨b, hb, haccepts⟩ := taken_accepts h (rfl : leadPattern.always 1 = true)
  rw [List.mem_singleton.mp hb] at haccepts
  obtain ⟨whole, fraction, hwhole, ⟨hdigits, -, -⟩, hfraction⟩ := haccepts
  have hpoint : ∀ c ∈ whole, c ≠ '.' := by
    rintro c hc rfl
    exact absurd (hdigits _ hc) (by decide +kernel)
  have hparts : ∃ more : List Char, (∀ c ∈ more, digit c = true) ∧
      (taken groups 1).toList.takeWhile (· ≠ '.') = whole ∧
      ((taken groups 1).toList.dropWhile (· ≠ '.')).drop 1 = more := by
    have hkept : ∀ c ∈ whole, (decide (c ≠ '.')) = true := fun c hc => decide_eq_true (hpoint c hc)
    rw [hwhole, List.takeWhile_append_of_pos hkept, List.dropWhile_append_of_pos hkept]
    rcases hfraction with rfl | ⟨point, more, rfl, hpoint, hmore, -, -⟩
    · exact ⟨[], by simp, by simp, rfl⟩
    · obtain rfl : point = ['.'] := hpoint
      exact ⟨more, hmore, by simp, by simp⟩
  obtain ⟨more, hmore, htake, hdrop⟩ := hparts
  have hboth : ∀ c ∈ whole ++ more, digit c = true := fun c hc =>
    (List.mem_append.mp hc).elim (hdigits c) (hmore c)
  obtain ⟨n, hn, -⟩ := digitsValue_of_digits hboth
  unfold floatOf
  simp only
  rw [htake, hdrop, hn]
  exact returns_ok trivial

theorem wholeOf_returns {units : ℕ} (h : ¬ Infinite units) :
    Returns (wholeOf units) fun _ => True := by
  unfold wholeOf
  rw [if_neg h]
  split
  · exact returns_ok trivial
  · exact returns_ok trivial

theorem wholeOf_raises {units : ℕ} (h : Infinite units) : wholeOf units = .error .overflow := by
  unfold wholeOf
  rw [if_pos h]

theorem leadPart_returns {part : String} (h : ¬ Overflows part) :
    Returns (leadPart part) fun _ => True := by
  unfold leadPart
  by_cases hword : part ∈ ["准点", "开始时", "0"]
  · rw [if_pos hword]
    exact returns_ok trivial
  · rw [if_neg hword]
    cases hmatch : fullmatch leadPattern part with
    | none => exact returns_ok trivial
    | some groups =>
      simp only
      cases hunit : Dict.find? leadUnits (lowered (taken groups 2)) with
      | none => exact returns_ok trivial
      | some unit =>
        obtain ⟨number, hnumber, -⟩ := floatOf_returns hmatch
        have hfinite : ¬ Infinite (timesFloat number unit) := fun hinfinite =>
          h ⟨hword, groups, unit, number, hmatch, hunit, hnumber, hinfinite⟩
        refine Returns.bind (P := fun read => read = number) ⟨number, hnumber, rfl⟩ ?_
        rintro read rfl
        exact (wholeOf_returns hfinite).bind fun _ _ => returns_ok trivial

theorem leadPart_raises {part : String} (h : Overflows part) : leadPart part = .error .overflow := by
  obtain ⟨hword, groups, unit, number, hmatch, hunit, hnumber, hinfinite⟩ := h
  unfold leadPart
  rw [if_neg hword, hmatch]
  simp only [hunit]
  exact raises_second hnumber (raises_first (wholeOf_raises hinfinite))

/-- The first part that cannot be read as minutes has an infinite number. -/
def FirstOverflows (parts : List String) : Prop :=
  ∃ before part after, parts = before ++ part :: after ∧
    (∀ earlier ∈ before, ∃ minutes, leadPart earlier = .ok (some minutes)) ∧ Overflows part

theorem leadParts_returns {parts : List String} (h : ¬ FirstOverflows parts) :
    Returns (leadParts parts) fun _ => True := by
  induction parts with
  | nil => exact returns_ok trivial
  | cons part parts ih =>
    have hpart : ¬ Overflows part := fun hoverflows => h ⟨[], part, parts, rfl, by simp, hoverflows⟩
    obtain ⟨minutes, hminutes, -⟩ := leadPart_returns hpart
    unfold leadParts
    rw [hminutes]
    cases minutes with
    | none => exact returns_ok trivial
    | some minutes =>
      refine (ih ?_).bind fun _ _ => returns_ok trivial
      -- the parts behind a part that was read
      rintro ⟨before, other, after, rfl, hbefore, hoverflows⟩
      refine h ⟨part :: before, other, after, rfl, fun earlier hearlier => ?_, hoverflows⟩
      rcases List.mem_cons.mp hearlier with rfl | hearlier
      · exact ⟨minutes, hminutes⟩
      · exact hbefore earlier hearlier

theorem leadParts_raises {parts : List String} (h : FirstOverflows parts) :
    leadParts parts = .error .overflow := by
  obtain ⟨before, part, after, rfl, hbefore, hoverflows⟩ := h
  induction before with
  | nil =>
    show leadParts (part :: after) = _
    unfold leadParts
    rw [leadPart_raises hoverflows]
    rfl
  | cons first before ih =>
    obtain ⟨minutes, hminutes⟩ := hbefore first (List.mem_cons_self ..)
    have hrest := ih fun earlier hearlier => hbefore earlier (List.mem_cons_of_mem _ hearlier)
    show leadParts (first :: (before ++ part :: after)) = _
    unfold leadParts
    rw [hminutes]
    exact raises_second rfl (raises_first hrest)

/-- What the command promises of its lead times. -/
def LeadMinutes (minutes : List Int) : Prop :=
  minutes.length ≤ 12 ∧ ∀ value ∈ minutes, 0 ≤ value ∧ value ≤ 366 * 24 * 60

theorem normaliseLeadMinutes_returns (values : List Int) :
    Returns (exceptValidation (normaliseLeadMinutes values)) fun minutes =>
      ∀ found ∈ minutes, LeadMinutes found := by
  cases hresult : normaliseLeadMinutes values with
  | error err =>
    -- both of its errors are caught
    unfold normaliseLeadMinutes at hresult
    rcases raiseIf_bind_error.mp hresult with ⟨-, rfl⟩ | ⟨-, hresult⟩
    · exact returns_ok (by simp)
    · rcases raiseIf_bind_error.mp hresult with ⟨-, rfl⟩ | ⟨-, hresult⟩
      · exact returns_ok (by simp)
      · cases hresult
  | ok minutes =>
    refine returns_ok fun found hfound => ?_
    obtain rfl := Option.some.inj hfound
    unfold normaliseLeadMinutes at hresult
    obtain ⟨hfew, hresult⟩ := raiseIf_bind_ok.mp hresult
    obtain ⟨hrange, hresult⟩ := raiseIf_bind_ok.mp hresult
    obtain rfl := Except.ok.inj hresult
    refine ⟨Nat.not_lt.mp hfew, fun value hvalue => ?_⟩
    by_contra hout
    exact hrange (List.any_eq_true.mpr ⟨value, hvalue, decide_eq_true hout⟩)

theorem parseLeadMinutes_returns {value : String}
    (h : ¬ FirstOverflows (splitParts listSeparator (strip value))) :
    Returns (parseLeadMinutes value) fun minutes => ∀ found ∈ minutes, LeadMinutes found := by
  unfold parseLeadMinutes
  simp only
  by_cases hnone : splitParts listSeparator (strip value) = []
  · rw [if_pos hnone]
    exact returns_ok (by simp)
  · rw [if_neg hnone]
    refine (leadParts_returns h).bind fun minutes _ => ?_
    cases minutes with
    | none => exact returns_ok (by simp)
    | some minutes => exact normaliseLeadMinutes_returns minutes

theorem parseLeadMinutes_raises {value : String}
    (h : FirstOverflows (splitParts listSeparator (strip value))) :
    parseLeadMinutes value = .error .overflow := by
  have hne : splitParts listSeparator (strip value) ≠ [] := by
    obtain ⟨before, part, after, heq, -⟩ := h
    rw [heq]
    simp
  unfold parseLeadMinutes
  simp only
  rw [if_neg hne, leadParts_raises h]
  rfl

/-! ### What the checks promise -/

/-- The range of an argument that the parser checks itself. -/
def Promise (action : IntentAction) (name : String) (value : PlanValue) : Prop :=
  if name = "lead_minutes" then
    ∃ minutes, value = .tuple (minutes.map fun minute => .int minute) ∧ LeadMinutes minutes
  else if name = "advance_days" then
    ∃ days : List ℕ, value = .tuple (days.map fun day => .int day) ∧ days.length ≤ 8 ∧
      ∀ day ∈ days, 1 ≤ day ∧ day ≤ 366
  else if name = "day_offset" then ∃ offset, value = .int offset ∧ -366 ≤ offset ∧ offset ≤ 366
  else if name = "month" then ∃ month, value = .int month ∧ 1 ≤ month ∧ month ≤ 12
  else if name = "lunar_month" ∧ action = .createAnniversary then
    ∃ month, value = .int month ∧ 1 ≤ month ∧ month ≤ 12
  else if name = "lunar_day" ∧ action = .createAnniversary then
    ∃ day, value = .int day ∧ 1 ≤ day ∧ day ≤ 30
  else if name = "briefing_time" ∨ name = "time_of_day" ∧ action ≠ .adjustPlanNotification then
    ∃ time, value = .time time ∧ IsTime time
  else if name = "time_of_day" then
    ∃ (hour : Int) (minute : String), value = .str (pad2 hour ++ ":" ++ minute) ∧
      (0 ≤ hour ∧ hour ≤ 23) ∧ minute.length = 2 ∧ ∃ n, digitsValue minute.toList = some n ∧ n ≤ 59
  else True

/-- All arguments are as promised. -/
def Kept (action : IntentAction) (arguments : Arguments) : Prop :=
  ∀ argument ∈ arguments, Promise action argument.1 argument.2

/-- The arguments of the intent are as promised, if there is one. -/
def InRanges (result : Option ParsedIntent) : Prop :=
  ∀ intent ∈ result, Kept intent.action intent.arguments

section Kept

variable {action : IntentAction}

theorem kept_nil : Kept action [] := fun _ h => absurd h List.not_mem_nil

theorem Kept.cons {name : String} {value : PlanValue} {arguments : Arguments}
    (h : Promise action name value) (hrest : Kept action arguments) :
    Kept action ((name, value) :: arguments) := by
  intro argument hargument
  rcases List.mem_cons.mp hargument with rfl | hargument
  · exact h
  · exact hrest argument hargument

theorem Kept.append {first second : Arguments} (h : Kept action first) (hsecond : Kept action second) :
    Kept action (first ++ second) :=
  fun argument hargument => (List.mem_append.mp hargument).elim (h argument) (hsecond argument)

theorem inRanges_none : InRanges none := fun _ h => nomatch h

theorem inRanges_some {intent : ParsedIntent} (h : Kept intent.action intent.arguments) :
    InRanges (some intent) := by
  intro other hother
  obtain rfl := Option.some.inj hother
  exact h

end Kept

/-! ### Edits -/

/-- The edit is about days of notice, which are digits and not all readable. -/
def NoticeRefused (rest : String) : Prop :=
  (partition rest).1 = "预告" ∧ (partition rest).2 ∉ ["关闭", "关", "无"] ∧
    AllDigits (partition rest).2 ∧
    ∃ part ∈ splitParts listSeparator (partition rest).2, Unreadable part

/-- What an edit returns: nothing, or arguments that keep the promises. -/
def EditKept (action : IntentAction) (edit : Option Arguments) : Prop :=
  ∀ arguments ∈ edit, Kept action arguments

theorem editKept_none {action : IntentAction} : EditKept action none := fun _ h => nomatch h

theorem editKept_some {action : IntentAction} {arguments : Arguments} (h : Kept action arguments) :
    EditKept action (some arguments) := by
  intro other hother
  obtain rfl := Option.some.inj hother
  exact h

theorem importantDate_returns (body : String) :
    Returns (importantDate body) (EditKept .updateAnniversary) := by
  unfold importantDate
  cases hlunar : fullmatch lunarPattern body with
  | some groups =>
    have hmonth : lunarPattern.captures 2 = [between digit 1 2] := rfl
    have hday : lunarPattern.captures 3 = [between digit 1 2] := rfl
    refine (number_taken hlunar rfl hmonth (by decide) (by decide)).bind fun month _ => ?_
    refine (number_taken hlunar rfl hday (by decide) (by decide)).bind fun day _ => ?_
    refine returns_ok (editKept_some ?_)
    exact Kept.cons (by simp [Promise]) (Kept.cons (by simp [Promise]) (Kept.cons (by simp [Promise])
      (Kept.cons (by simp [Promise]) kept_nil)))
  | none =>
    cases hsolar : fullmatch solarPattern body with
    | none => exact returns_ok editKept_none
    | some groups =>
      have hmonths : solarPattern.captures 2 = [between digit 1 2] := rfl
      have hdays : solarPattern.captures 3 = [between digit 1 2] := rfl
      refine (yearOr_returns hsolar rfl).bind fun year _ => ?_
      refine (exceptValue_returns fun err herr => ?_).bind fun anchor _ => ?_
      · rcases bind_error herr with herr | ⟨month, -, herr⟩
        · obtain ⟨month, hmonth, -⟩ :=
            number_taken hsolar rfl hmonths (by decide) (by decide)
          rw [hmonth] at herr
          cases herr
        · rcases bind_error herr with herr | ⟨day, -, herr⟩
          · obtain ⟨day, hday, -⟩ :=
              number_taken hsolar rfl hdays (by decide) (by decide)
            rw [hday] at herr
            cases herr
          · exact dateOf_error herr
      · refine returns_ok ?_
        cases anchor with
        | none => exact editKept_none
        | some date =>
          exact editKept_some (Kept.cons (by simp [Promise]) (Kept.cons (by simp [Promise]) kept_nil))

theorem importantDayEdit_returns {rest : String} (h : ¬ NoticeRefused rest) :
    Returns (importantDayEdit rest) (EditKept .updateAnniversary) := by
  have hone : ∀ {name : String} {value : PlanValue}, Promise .updateAnniversary name value →
      Returns (.ok (some [(name, value)]) : Except PyError (Option Arguments))
        (EditKept .updateAnniversary) :=
    fun hpromise => returns_ok (editKept_some (Kept.cons hpromise kept_nil))
  unfold importantDayEdit
  simp only
  by_cases htitle : (partition rest).1 = "名称" ∧ (partition rest).2 ≠ ""
  · rw [if_pos htitle]
    exact hone (by simp [Promise])
  · rw [if_neg htitle]
    by_cases hkind : (partition rest).1 = "类型"
    · rw [if_pos hkind]
      split
      · exact hone (by simp [Promise])
      · split
        · exact hone (by simp [Promise])
        · exact returns_ok editKept_none
    · rw [if_neg hkind]
      by_cases hnotice : (partition rest).1 = "预告"
      · rw [if_pos hnotice]
        by_cases hoff : (partition rest).2 ∈ ["关闭", "关", "无"]
        · rw [if_pos hoff]
          refine hone ?_
          simp only [Promise, String.reduceEq, if_false, if_true]
          exact ⟨[], rfl, by decide, fun _ hday => absurd hday List.not_mem_nil⟩
        · rw [if_neg hoff]
          refine (noticeDays_returns fun hdigits part hpart hunreadable =>
            h ⟨hnotice, hoff, hdigits, part, hpart, hunreadable⟩).mono fun edit hedit => ?_
          intro arguments harguments
          obtain ⟨days, rfl, hfew, hrange⟩ := hedit arguments harguments
          refine Kept.cons ?_ kept_nil
          simpa only [Promise, String.reduceEq, if_false, if_true] using ⟨days, rfl, hfew, hrange⟩
      · rw [if_neg hnotice]
        split
        · exact importantDate_returns _
        · exact returns_ok editKept_none

theorem importantDayEdit_raises {rest : String} (h : NoticeRefused rest) :
    importantDayEdit rest = .error .value := by
  obtain ⟨hnotice, hoff, hdigits, part, hpart, hunreadable⟩ := h
  unfold importantDayEdit
  simp only
  rw [hnotice, if_neg (fun hname => absurd hname.1 (by decide)), if_neg (by decide), if_pos rfl,
    if_neg hoff]
  exact noticeDays_raises hdigits hpart hunreadable

theorem time_returns {action : IntentAction} {name body : String}
    (hname : ∀ time, IsTime time → Promise action name (.time time)) :
    Returns (do
      let time ← wallTime body
      return time.map fun value => [(name, PlanValue.time value)]) (EditKept action) := by
  refine (wallTime_returns body).bind fun time htime => returns_ok ?_
  cases time with
  | none => exact editKept_none
  | some time => exact editKept_some (Kept.cons (hname time (htime time rfl)) kept_nil)

theorem switch_returns {action : IntentAction} {name body : String}
    (hname : ∀ value, Promise action name (.bool value)) :
    Returns (.ok ((parseSwitch body).map fun value => [(name, PlanValue.bool value)]) :
      Except PyError (Option Arguments)) (EditKept action) := by
  refine returns_ok ?_
  cases parseSwitch body with
  | none => exact editKept_none
  | some value => exact editKept_some (Kept.cons (hname value) kept_nil)

theorem briefingEdit_returns (rest : String) :
    Returns (briefingEdit rest) (EditKept .updateDailyBriefing) := by
  unfold briefingEdit
  simp only
  split
  · exact time_returns fun time htime => by simpa [Promise] using htime
  · split
    · exact switch_returns fun value => by simp [Promise]
    · exact returns_ok editKept_none

theorem offset_returns {body : String} {groups : Pattern.Groups}
    (h : fullmatch offsetPattern body = some groups) :
    Returns (intOf body.toList) fun _ => True := by
  have haccepts := (Pattern.fullmatch_sound h).1
  obtain ⟨sign, digits, hbody, hsign, hdigits, hleast, hmost⟩ := haccepts
  have hlength : digits.length ≤ maxStrDigits := (hmost 3 rfl).trans (by decide)
  rw [hbody]
  rcases hsign with rfl | hsign
  · exact (intOf_digits hdigits hleast hlength).mono fun _ _ => trivial
  · obtain rfl : sign = ['-'] := hsign
    exact intOf_signed (Or.inl rfl) hdigits hleast hlength

theorem notificationEdit_returns (rest : String) :
    Returns (notificationEdit rest) (EditKept .updateAgendaNotification) := by
  unfold notificationEdit
  simp only
  split
  · exact returns_ok (editKept_some (Kept.cons (by simp [Promise]) kept_nil))
  · split
    · exact time_returns fun time htime => by simpa [Promise] using htime
    · split
      · cases hmatch : fullmatch offsetPattern (partition rest).2 with
        | none => exact returns_ok editKept_none
        | some groups =>
          refine (offset_returns hmatch).bind fun offset _ => ?_
          by_cases hrange : ¬ (-366 ≤ offset ∧ offset ≤ 366)
          · rw [if_pos hrange]
            exact returns_ok editKept_none
          · rw [if_neg hrange]
            refine returns_ok (editKept_some (Kept.cons ?_ kept_nil))
            simpa [Promise] using not_not.mp hrange
      · split
        · exact switch_returns fun value => by simp [Promise]
        · exact returns_ok editKept_none

end RuleIntentRouter

end Zhixu
