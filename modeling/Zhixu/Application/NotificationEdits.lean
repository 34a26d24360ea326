import Zhixu.Application.ImportantDays
import Zhixu.Application.RuleReminders

/-!
# What an edit of a notification means

`/日程通知 改 … 提前 n` sets the offset of a rule to `n`. Four places read that offset. The scheduler adds
it to the day of the occurrence, and the preview of a plan says so: a positive offset is so many days
after the event. The command and the text that confirms it say the opposite, that the reminder comes so
many days ahead.

`Says` is what a phrase tells a reader, as the day of the reminder counted from the day of the event.
`wordingsAgree_iff` finds that the phrases agree with the offset when it is zero, and then only.
`edit_means_opposite` takes the value from the command to the reminder: whatever rule is edited with a
positive number, no reminder made for an occurrence comes that many days before it, and the texts
contradict each other.

A reminder composed for an occurrence is so many days behind a day that the occurrence reaches. To say
where this is from the day of its start, something has to be known of zones. `ZoneLaws` asks for as
little as that a clock is never a day ahead of where it should be.
-/

open Framework

namespace Zhixu

/-! ### The command -/

/-- What `_parse_notification_edit` returns. -/
inductive NotificationEdit
  | text (text : String)
  | timeOfDay (timeOfDay : TimeOfDay)
  | dayOffset (dayOffset : Int)
  | enabled (enabled : Bool)
deriving DecidableEq, Repr

/-- The value of a run of decimal digits. -/
def digitsValue (cs : List Char) : Option ℕ :=
  (cs.mapM decimalValue).map fun digits => digits.foldl (fun n digit => 10 * n + digit) 0

/-- `time(hour, minute)`. -/
def clockTime (hour minute : ℕ) : Option TimeOfDay :=
  let micros : Int := hour * 3600000000 + minute * 60000000
  if in_day : 0 ≤ micros ∧ micros < 86400000000 then some ⟨micros, false, in_day⟩ else none

/-- `_parse_wall_time`. -/
def parseWallTime (value : String) : Option TimeOfDay :=
  let chars := stripChars value.toList
  let hours := chars.takeWhile (· ≠ ':')
  match chars.dropWhile (· ≠ ':') with
  | [':', m₁, m₂] =>
    if hours.length = 1 ∨ hours.length = 2 then
      match digitsValue hours, digitsValue [m₁, m₂] with
      | some hour, some minute => if 23 < hour ∨ 59 < minute then none else clockTime hour minute
      | _, _ => none
    else none
  | _ => none

/-- `_parse_switch`. -/
def parseSwitch (value : String) : Option Bool :=
  if value ∈ ["开", "启用", "on", "开启"] then some true
  else if value ∈ ["关", "停用", "off", "关闭"] then some false
  else none

/-- A number of at most three digits, with or without a sign, in the range of an offset. -/
def parseOffset (body : String) : Option Int :=
  let negative := body.toList.head? = some '-'
  let digits := if negative then body.toList.tail else body.toList
  if 1 ≤ digits.length ∧ digits.length ≤ 3 then
    match digitsValue digits with
    | none => none
    | some value =>
      let offset : Int := if negative then -value else value
      if -366 ≤ offset ∧ offset ≤ 366 then some offset else none
  else none

/-- `_parse_notification_edit`. -/
def parseNotificationEdit (rest : String) : Option NotificationEdit :=
  let chars := stripChars rest.toList
  let field := String.ofList (chars.takeWhile (· ≠ ' '))
  let body := String.ofList (stripChars ((chars.dropWhile (· ≠ ' ')).drop 1))
  if field = "文本" ∧ body ≠ "" then some (.text body)
  else if field = "时间" then (parseWallTime body).map .timeOfDay
  else if field = "提前" then (parseOffset body).map .dayOffset
  else if field = "开关" then (parseSwitch body).map .enabled
  else none

/-- The command that `_execute` makes of an edit. -/
def NotificationEdit.command (ruleId : String) : NotificationEdit → UpdateAgendaNotification
  | .text value => { ruleId, text := some value }
  | .timeOfDay value => { ruleId, timeOfDay := some value }
  | .dayOffset value => { ruleId, dayOffset := some value }
  | .enabled value => { ruleId, enabled := some value }

/-- `/日程通知 改`: the command for a rule and the text of an edit. -/
def notificationEdit (ruleId rest : String) : Option UpdateAgendaNotification :=
  (parseNotificationEdit rest).map (·.command ruleId)

example : parseNotificationEdit "提前 3" = some (.dayOffset 3) := by decide +kernel

example : parseNotificationEdit "时间 8:30" = (clockTime 8 30).map .timeOfDay := by decide +kernel

/-! ### The wordings -/

/-- How the answer to the command puts an offset. -/
def replyRelation (dayOffset : Int) : String :=
  if dayOffset = 0 then "当天" else "提前 " ++ toString dayOffset ++ " 天"

/-- The answer to the command. -/
def notificationUpdatedText (rule : AgendaNotificationRule) : String :=
  "已更新日程通知：" ++ replyRelation rule.dayOffset ++ " " ++ Wall.timeText rule.timeOfDay.micros ++
    " · " ++ (if rule.enabled then "启用" else "停用") ++ "。"

/-- How the preview of a plan puts an offset. -/
def previewRelation (dayOffset : Int) : String :=
  if dayOffset = 0 then "事件当天"
  else if dayOffset < 0 then "事件前 " ++ toString (-dayOffset) ++ " 天"
  else "事件后 " ++ toString dayOffset ++ " 天"

/-- The row of a notification in the preview of a plan. -/
def notificationPreview (index : ℕ) (defaulted : Bool) (rule : AgendaNotificationRule) : String :=
  field ("通知 " ++ toString index) (previewRelation rule.dayOffset ++ " " ++
    Wall.timeText rule.timeOfDay.micros ++ (if defaulted then " · 默认" else "") ++ " · " ++ rule.text)

/-- What a phrase says: on which day, counted from the day of the event, the reminder comes. -/
inductive Says : String → Int → Prop
  | sameDay : Says "当天" 0
  | eventDay : Says "事件当天" 0
  | ahead (days : Int) : Says ("提前 " ++ toString days ++ " 天") (-days)
  | before (days : Int) : Says ("事件前 " ++ toString days ++ " 天") (-days)
  | after (days : Int) : Says ("事件后 " ++ toString days ++ " 天") days

/-- Both texts say of a rule what the scheduler makes of it. -/
structure WordingsAgree (dayOffset : Int) : Prop where
  reply : Says (replyRelation dayOffset) dayOffset
  preview : Says (previewRelation dayOffset) dayOffset

/-- A signed number ends where its digits end. -/
theorem toString_blank_inj {m n : Int} {s t : List Char}
    (h : (toString m).toList ++ ' ' :: s = (toString n).toList ++ ' ' :: t) : m = n := by
  have hneg : ∀ k : ℕ, (toString (Int.negSucc k)).toList =
      '-' :: (toString ((k + 1 : ℕ) : Int)).toList := by
    intro k
    have htext : toString (Int.negSucc k) = "-" ++ toString ((k + 1 : ℕ) : Int) := rfl
    rw [htext, String.toList_append]
    rfl
  have hdigit : ∀ k : ℕ, ∀ rest : List Char,
      ∃ c cs, (toString (k : Int)).toList ++ rest = c :: cs ∧ c ≠ '-' := by
    intro k rest
    have htext : (toString (k : Int)).toList = Nat.toDigits 10 k := Nat.toList_repr
    have hne : Nat.toDigits 10 k ≠ [] := Nat.toDigits_ne_nil
    obtain ⟨c, cs, hcs⟩ := List.exists_cons_of_ne_nil hne
    refine ⟨c, cs ++ rest, by rw [htext, hcs, List.cons_append], ?_⟩
    rintro rfl
    have hisDigit := Nat.isDigit_of_mem_toDigits (b := 10) (n := k) (by decide) (by decide)
      (hcs ▸ List.mem_cons_self ..)
    exact absurd hisDigit (by decide)
  cases m with
  | ofNat m =>
    cases n with
    | ofNat n =>
      exact (toString_append_inj (Int.natCast_nonneg m) (Int.natCast_nonneg n) (by decide) (by decide)
        h).1
    | negSucc n =>
      obtain ⟨c, cs, hcs, hc⟩ := hdigit m (' ' :: s)
      rw [hneg] at h
      exact absurd (List.cons.inj (hcs.symm.trans h)).1 hc
  | negSucc m =>
    cases n with
    | ofNat n =>
      obtain ⟨c, cs, hcs, hc⟩ := hdigit n (' ' :: t)
      rw [hneg] at h
      exact absurd (List.cons.inj (hcs.symm.trans h.symm)).1 hc
    | negSucc n =>
      rw [hneg, hneg] at h
      have hsame := (toString_append_inj (Int.natCast_nonneg (m + 1)) (Int.natCast_nonneg (n + 1))
        (by decide) (by decide) (List.cons.inj h).2).1
      omega

/-- "So many days ahead" says one thing. -/
theorem says_ahead {days k : Int} (h : Says ("提前 " ++ toString days ++ " 天") k) : k = -days := by
  generalize htext : "提前 " ++ toString days ++ " 天" = text at h
  have hlist := congrArg String.toList htext
  have hahead : "提前 ".toList = ['提', '前', ' '] := rfl
  have hdays : " 天".toList = ' ' :: ['天'] := rfl
  simp only [String.toList_append, hahead, hdays, List.cons_append, List.nil_append] at hlist
  cases h with
  | sameDay => exact absurd (List.cons.inj hlist).1 (by decide)
  | eventDay => exact absurd (List.cons.inj hlist).1 (by decide)
  | ahead days' =>
    simp only [String.toList_append, hahead, hdays, List.cons_append, List.nil_append] at hlist
    rw [toString_blank_inj (List.cons.inj (List.cons.inj (List.cons.inj hlist).2).2).2]
  | before days' =>
    have hbefore : "事件前 ".toList = ['事', '件', '前', ' '] := rfl
    simp only [String.toList_append, hbefore, List.cons_append] at hlist
    exact absurd (List.cons.inj hlist).1 (by decide)
  | after =>
    have hafter : "事件后 ".toList = ['事', '件', '后', ' '] := rfl
    simp only [String.toList_append, hafter, List.cons_append] at hlist
    exact absurd (List.cons.inj hlist).1 (by decide)

/-- The preview says what the scheduler does. -/
theorem previewRelation_says (dayOffset : Int) : Says (previewRelation dayOffset) dayOffset := by
  unfold previewRelation
  by_cases hzero : dayOffset = 0
  · rw [if_pos hzero, hzero]
    exact .eventDay
  · rw [if_neg hzero]
    by_cases hneg : dayOffset < 0
    · rw [if_pos hneg]
      have hsays := Says.before (-dayOffset)
      rwa [neg_neg] at hsays
    · rw [if_neg hneg]
      exact .after dayOffset

/-- **The wordings agree** on the day of the event only. -/
theorem wordingsAgree_iff (dayOffset : Int) : WordingsAgree dayOffset ↔ dayOffset = 0 := by
  constructor
  · intro h
    by_contra hzero
    have hreply := h.reply
    unfold replyRelation at hreply
    rw [if_neg hzero] at hreply
    have hopposite := says_ahead hreply
    omega
  · rintro rfl
    exact ⟨.sameDay, previewRelation_says 0⟩

/-! ### The reminder -/

/-- What is asked of the zones: a moment given by a reading is read there or later, and no more than a
day later, and before the moment of a reading no clock shows a whole day more. -/
structure ZoneLaws (zones : TimeZones) : Prop where
  later : ∀ key w, (w : Int) ≤ (zones.fromutc key (w - zones.utcoffset key w false)).1
  soon : ∀ key w fold,
    ((zones.fromutc key (w - zones.utcoffset key w fold)).1 : Int) ≤ w + Duration.days 1
  orderly : ∀ key w t, (t : Int) < w - zones.utcoffset key w false →
    ((zones.fromutc key t).1 : Int) < w + Duration.days 1

/-- What a window shows starts before it ends. -/
theorem start_of_occurrencesBetween {engine : RecurrenceEngine} {item : AgendaItem}
    {windowStart windowEnd : DateTime} {exceptions : List RecurrenceException}
    {found : List AgendaOccurrence} {occurrence : AgendaOccurrence}
    (h : occurrencesBetween engine item windowStart windowEnd exceptions = .ok found)
    (hmem : occurrence ∈ found) : occurrence.startAt.lt engine.zones windowEnd = true := by
  unfold occurrencesBetween at h
  obtain ⟨-, h⟩ := raiseIf_bind_ok.mp h
  obtain ⟨starts, -, h⟩ := bind_eq_ok.mp h
  obtain ⟨start, -, heffective⟩ := (mem_collect h).mp hmem
  unfold effective at heffective
  obtain ⟨endAt, -, heffective⟩ := bind_eq_ok.mp heffective
  split at heffective
  · cases heffective
  · rename_i hshown
    split at heffective
    · obtain rfl := Option.some.inj (Except.ok.inj heffective)
      simp only [DateTime.le, Bool.or_eq_true, Bool.not_eq_true', not_or] at hshown
      simpa using hshown.2
    · split at heffective
      · cases heffective
      · split at heffective
        · rename_i hreplaced
          obtain rfl := Option.some.inj (Except.ok.inj heffective)
          exact (Bool.and_eq_true_iff.mp hreplaced).2
        · cases heffective
      · cases heffective

theorem start_of_occurrences {engine : RecurrenceEngine} {ownerUserId : String}
    {windowStart windowEnd : DateTime} {db : Database} {found : List AgendaOccurrence}
    {occurrence : AgendaOccurrence}
    (h : AgendaRepository.occurrences engine ownerUserId windowStart windowEnd db = .ok found)
    (hmem : occurrence ∈ found) : occurrence.startAt.lt engine.zones windowEnd = true := by
  unfold AgendaRepository.occurrences at h
  obtain ⟨start', -, h⟩ := bind_eq_ok.mp h
  obtain ⟨end', -, h⟩ := bind_eq_ok.mp h
  obtain ⟨lists, hlists, h⟩ := bind_eq_ok.mp h
  obtain rfl := Except.ok.inj h
  obtain ⟨list, hlist, hin⟩ := List.mem_flatten.mp ((List.mem_insertionSort _).mp hmem)
  obtain ⟨row, -, hfound⟩ := (mem_collect hlists).mp hlist
  cases hof : AgendaRepository.occurrencesOf engine windowStart windowEnd db row with
  | error e => rw [hof] at hfound; cases hfound
  | ok list' =>
    rw [hof] at hfound
    obtain rfl := Option.some.inj (Except.ok.inj hfound)
    obtain ⟨item, -, hof⟩ := bind_eq_ok.mp hof
    obtain ⟨exceptions, -, hof⟩ := bind_eq_ok.mp hof
    exact start_of_occurrencesBetween hof hin

section Reminders

variable {runtime : Runtime} {now : Instant} {db : Database} {rule : AgendaNotificationRule}
  {localNow : DateTime} {occurrence : AgendaOccurrence} {r : Reminder}

/-- An occurrence that a tick takes starts, at the latest, on the day behind the one looked at. -/
theorem Selects.startDay_le (hlaws : ZoneLaws runtime.zones)
    (h : Selects runtime now db rule localNow occurrence) :
    rule.localDay runtime.zones (occurrence.startAt.instant runtime.zones) ≤
      Wall.ordinal localNow.wall - rule.dayOffset + 1 := by
  obtain ⟨occurrenceStart, occurrenceEnd, found, hstart, hend, hfound, hmem⟩ := h.found
  obtain ⟨-, hstart⟩ := raiseIf_bind_ok.mp hstart
  obtain rfl := Except.ok.inj hstart
  obtain ⟨-, hend⟩ := raiseIf_bind_ok.mp hend
  obtain rfl := Except.ok.inj hend
  have hbefore := start_of_occurrences hfound hmem
  -- the reading of the start is less than a day behind the end of the day looked at
  have hread : ((runtime.zones.fromutc rule.timezone
      (occurrence.startAt.instant runtime.zones)).1 : Int) <
        Wall.midnight (Wall.ordinal localNow.wall - rule.dayOffset) + Duration.days 1 +
          Duration.days 1 := by
    unfold DateTime.lt at hbefore
    by_cases hzone : occurrence.startAt.zone = .named rule.timezone
    · rw [if_pos hzone, decide_eq_true_eq] at hbefore
      have hoffset : occurrence.startAt.utcoffset runtime.zones =
          runtime.zones.utcoffset rule.timezone occurrence.startAt.wall occurrence.startAt.fold := by
        unfold DateTime.utcoffset
        rw [hzone]
      have hsoon := hlaws.soon rule.timezone occurrence.startAt.wall occurrence.startAt.fold
      rw [← hoffset] at hsoon
      exact lt_of_le_of_lt hsoon (Int.add_lt_add_right hbefore _)
    · rw [if_neg hzone, decide_eq_true_eq] at hbefore
      exact hlaws.orderly rule.timezone _ _ hbefore
  have hday : ∀ reading day : Int, reading < (day - 719163) * 86400000000 + 86400000000 + 86400000000 →
      reading / 86400000000 + 719163 ≤ day + 1 := by
    intro reading day h
    omega
  exact hday _ _ hread

/-- A reminder fires on the day of its tick, or later. -/
theorem MadeFor.fireDay_ge (hlaws : ZoneLaws runtime.zones)
    (h : MadeFor runtime now db rule localNow occurrence r) :
    Wall.ordinal localNow.wall ≤ rule.localDay runtime.zones r.fireAt := by
  obtain ⟨hday, -⟩ := ordinal_firesAt rule localNow
  have hlater := hlaws.later rule.timezone (rule.firesAt localNow).wall
  change ((rule.firesAt localNow).wall : Int) ≤ (runtime.zones.fromutc rule.timezone
    ((rule.firesAt localNow).instant runtime.zones)).1 at hlater
  rw [← hday, AgendaNotificationRule.localDay, h.fireAt]
  exact Int.add_le_add_right (Int.ediv_le_ediv (show (0 : Int) < 86400000000 by decide) hlater) 719163

/-- The reminder comes so many days before the day on which the occurrence starts. -/
def FiresBefore (zones : TimeZones) (rule : AgendaNotificationRule) (days : Int)
    (occurrence : AgendaOccurrence) (r : Reminder) : Prop :=
  rule.localDay zones r.fireAt = rule.localDay zones (occurrence.startAt.instant zones) - days

/-- The rule that an edit of the offset leaves has the offset. -/
theorem dayOffset_of_update {zones : TimeZones} {ruleId : String} {n : Int} {now : Instant}
    {context : CommandContext} {record : AgendaNotificationRule}
    (h : (((updateAgendaNotification zones
      ((NotificationEdit.dayOffset n).command ruleId)).run now context).exec db).1 = .ok record) :
    record.dayOffset = n := by
  revert h
  refine Course.outcome (P := fun answer _ => answer = .ok record → record.dayOffset = n)
    (fun e he => absurd he (by simp)) fun existing updated authorization written db' _ _ hrevise hsaved
      hrecord => ?_
  obtain rfl := Except.ok.inj hrecord
  obtain ⟨_, -, hrevise⟩ := bind_eq_ok.mp hrevise
  obtain rfl := Except.ok.inj hrevise
  obtain ⟨_, -, hsaved⟩ := bind_eq_ok.mp hsaved
  obtain ⟨⟨_, db''⟩, -, hsaved⟩ := bind_eq_ok.mp hsaved
  obtain ⟨rfl, -⟩ := Prod.mk.inj (Except.ok.inj hsaved)
  rfl

end Reminders

/-- What a reader of the command expects: behind `提前 n` every reminder of the rule comes `n` days before
the day on which the occurrence starts, and the texts say so. -/
def EditsMeanWhatTheySay (runtime : Runtime) : Prop :=
  ∀ (rest ruleId : String) (n : Int) (command : UpdateAgendaNotification) (edited : Instant)
    (context : CommandContext) (stored : Database) (rule : AgendaNotificationRule),
    parseNotificationEdit rest = some (.dayOffset n) → 0 < n →
    notificationEdit ruleId rest = some command →
    (((updateAgendaNotification runtime.zones command).run edited context).exec stored).1 = .ok rule →
      (∀ (now : Instant) (db : Database) (localNow : DateTime) (occurrence : AgendaOccurrence)
        (r : Reminder), MadeFor runtime now db rule localNow occurrence r →
          FiresBefore runtime.zones rule n occurrence r) ∧
        WordingsAgree rule.dayOffset

/-- **An edit means the opposite** of what it says. A rule edited with a positive number has no
reminder that comes so many days before an occurrence, and its texts contradict what the scheduler
does. -/
theorem edit_means_opposite {zones : TimeZones} (hlaws : ZoneLaws zones) {rest ruleId : String} {n : Int}
    (hparse : parseNotificationEdit rest = some (.dayOffset n)) (hn : 0 < n)
    {command : UpdateAgendaNotification} (hcommand : notificationEdit ruleId rest = some command)
    {edited : Instant} {context : CommandContext} {stored : Database} {rule : AgendaNotificationRule}
    (hupdate : (((updateAgendaNotification zones command).run edited context).exec stored).1 =
      .ok rule) :
    (∀ (runtime : Runtime) (now : Instant) (db : Database) (localNow : DateTime)
        (occurrence : AgendaOccurrence) (r : Reminder), runtime.zones = zones →
      MadeFor runtime now db rule localNow occurrence r → ¬ FiresBefore zones rule n occurrence r) ∧
      ¬ WordingsAgree rule.dayOffset := by
  unfold notificationEdit at hcommand
  rw [hparse] at hcommand
  obtain rfl := Option.some.inj hcommand
  have hoffset := dayOffset_of_update hupdate
  refine ⟨fun runtime now db localNow occurrence r hzones hmade hfires => ?_, fun hagree => ?_⟩
  · -- the occurrence starts at most a day behind `today - n`, and the reminder fires today or later
    obtain rfl := hzones
    have hstart := hmade.selects.startDay_le hlaws
    have hfire := hmade.fireDay_ge hlaws
    unfold FiresBefore at hfires
    omega
  · have hzero := (wordingsAgree_iff _).mp hagree
    omega

/-! ### A day after the journey began -/

/-- In UTC a moment is read as it was given. -/
theorem utcOnly_zoneLaws : ZoneLaws utcOnly.zones where
  later _ w := le_of_eq (Int.sub_zero w).symm
  soon _ w _ := by
    change (w : Int) - 0 ≤ w + 86400000000
    exact Int.le_add_of_nonneg_right (by decide) |>.trans' (le_of_eq (Int.sub_zero w))
  orderly _ w t h := by
    change (t : Int) < w - 0 at h
    rw [Int.sub_zero] at h
    exact Int.lt_of_lt_of_le h (Int.le_add_of_nonneg_right (by decide))

/-- The rule of the journey, behind `/日程通知 改 pack 提前 1`. -/
def earlierPack : AgendaNotificationRule := { packRule with dayOffset := 1 }

/-- Alice has changed her rule. -/
def aliceChanged : Database := { aliceTravels with agendaNotificationRules := .single earlierPack }

theorem ahead_parsed : parseNotificationEdit "提前 1" = some (.dayOffset 1) := by decide +kernel

theorem ahead_commanded :
    notificationEdit "pack" "提前 1" = some { ruleId := "pack", dayOffset := some 1 } := by
  unfold notificationEdit
  rw [ahead_parsed]
  rfl

/-- No reminder of the changed rule comes a day before an occurrence. -/
theorem earlierPack_not_before :
    (∀ (runtime : Runtime) (now : Instant) (db : Database) (localNow : DateTime)
        (occurrence : AgendaOccurrence) (r : Reminder), runtime.zones = utcOnly.zones →
      MadeFor runtime now db earlierPack localNow occurrence r →
        ¬ FiresBefore utcOnly.zones earlierPack 1 occurrence r) ∧
      ¬ WordingsAgree earlierPack.dayOffset :=
  @edit_means_opposite utcOnly.zones utcOnly_zoneLaws "提前 1" "pack" 1 ahead_parsed (by decide)
    { ruleId := "pack", dayOffset := some 1 } ahead_commanded 0 aliceByChat aliceTravels earlierPack
    (by decide +kernel)

/-- Changed to a day ahead, the rule announces the journey a day behind its start. -/
theorem edits_say_otherwise : ¬ EditsMeanWhatTheySay utcRuntime := by
  intro h
  have hmade : MadeFor utcRuntime secondDay aliceChanged earlierPack
      { wall := 93600000000, zone := .named "UTC" } journeyOccurrence packReminder := by
    refine ⟨⟨⟨[earlierPack], ?_, by simp⟩, rfl, by decide,
      ⟨{ wall := 0, zone := .named "UTC" }, { wall := 86400000000, zone := .named "UTC" },
        [journeyOccurrence], ?_, ?_, ?_, by simp⟩, rfl⟩, ?_, ?_, rfl, rfl, rfl⟩
    all_goals decide +kernel
  have hbefore := (h "提前 1" "pack" 1 { ruleId := "pack", dayOffset := some 1 } 0 aliceByChat
    aliceTravels earlierPack ahead_parsed (by decide) ahead_commanded (by decide +kernel)).1 _ _ _ _ _ hmade
  unfold FiresBefore at hbefore
  exact absurd hbefore (by decide +kernel)

end Zhixu
