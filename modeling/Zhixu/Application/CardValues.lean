import Zhixu.Domain.Spacing
import Zhixu.Storage.ReminderRuns

/-!
# What a card shows of a title

A card puts each value into a code span, which shows what is in it as it is written. So `field` does
not escape the value and only drops its backticks, which would close the span. Both callers that put
the title of a reminder there escape it first all the same, and the reader sees the backslashes. The
card of a reminder that fires collapses the white space of the title before; the card that confirms a
new one does not, and a title of two lines leaves its row.

`ShowsTitle` is what a reader of the card may expect of its first row: one line, a code span that
nothing in the title closes, and in it the title up to white space and backticks. `cardsShowTitle_iff`
says for which titles both cards keep it. The proof counts backslashes: of those that the escape
brings (`count_escapeChars`), none is lost on the way to the span, and none may be there.
-/

open Framework

namespace Zhixu

/-! ### The card of a new reminder -/

/-- `local_moment`. -/
def localMoment (zones : TimeZones) (timezone : String) (value : Instant)
    (withWeekday : Bool := true) : Except PyError String := do
  let w ← zones.toWall timezone value
  let stamp := Wall.dateText w ++ " " ++ Wall.timeText w
  return if withWeekday then stamp ++ " 周" ++ weekdayName (Wall.weekday w) else stamp

/-- The card with which `_execute` answers a created reminder. `timezone` is the one of the router. -/
def reminderSetText (zones : TimeZones) (timezone actorUserId : String) (reminder : Reminder)
    (leads : List Instant) : Except PyError String := do
  let moment ← localMoment zones timezone reminder.fireAt
  let announced ← leads.mapM fun lead => localMoment zones timezone lead false
  return card "提醒已设置" ([("事项", escapeMarkdown reminder.title), ("时间", moment),
    ("范围", if reminder.ownerUserId = actorUserId then "私人库" else "当前内部群共享库")] ++
      if leads = [] then []
      else [("提前通知", toString leads.length ++ " 次 · " ++
        escapeMarkdown (String.intercalate "、" announced))])

/-! ### Reading a card -/

/-- Where a line of the card ends. -/
def isLineBreak (c : Char) : Bool := c = '\n' || c = '\r'

/-- The lines of a card. -/
def cardLines (text : String) : List (List Char) := text.toList.splitOnP isLineBreak

/-- A text without its backticks, and its white space collapsed. -/
def bare (cs : List Char) : List Char := compactChars (cs.filter (· ≠ '`'))

/-- The first row of the card is one line, with a code span that holds the title. -/
def ShowsTitle (text title : String) : Prop :=
  ∃ heading value rest,
    cardLines text = heading :: [] :: ("**事项：** `".toList ++ value ++ ['`']) :: rest ∧
      '`' ∉ value ∧ bare value = bare title.toList

/-! ### The first row -/

/-- The start of a card, behind which everything else follows on new lines. -/
theorem card_start (heading value : String) (f : String × String) (fields : List (String × String)) :
    ∃ rest, (card heading (("事项", value) :: f :: fields)).toList =
      ("# " ++ heading).toList ++ '\n' :: [] ++ '\n' ::
        ("**事项：** `".toList ++ value.toList.filter (· ≠ '`') ++ ['`']) ++ '\n' :: rest := by
  have hnewline : "\n".toList = ['\n'] := rfl
  have hempty : "".toList = [] := rfl
  have htick : "`".toList = ['`'] := rfl
  have hlabel : "**事项：** `".toList = "**".toList ++ ("事项".toList ++ "：** `".toList) := rfl
  refine ⟨(joinLines ("" :: field f.1 f.2 :: fields.flatMap fun f => ["", field f.1 f.2])).toList, ?_⟩
  unfold card joinLines
  simp only [if_true, List.flatMap_cons, List.cons_append, List.nil_append]
  rw [String.intercalate_cons_cons, String.intercalate_cons_cons, String.intercalate_cons_cons]
  simp only [field, String.toList_append, String.toList_ofList, hnewline, hempty, htick, hlabel,
    List.append_assoc, List.cons_append, List.nil_append]

theorem reminderNotificationText_start {zones : TimeZones} {r : Reminder} {text : String}
    (h : reminderNotificationText zones r = .ok text) :
    ∃ f fields, text = card "日程提醒" (("事项", escapeMarkdownText r.title) :: f :: fields) := by
  unfold reminderNotificationText at h
  obtain ⟨localFireAt, -, h⟩ := bind_eq_ok.mp h
  cases hrelated : r.relatedStartAt with
  | none =>
    rw [hrelated] at h
    obtain rfl := Except.ok.inj h
    exact ⟨_, _, rfl⟩
  | some relatedStartAt =>
    rw [hrelated] at h
    obtain ⟨startsAt, -, h⟩ := bind_eq_ok.mp h
    obtain rfl := Except.ok.inj h
    exact ⟨_, _, rfl⟩

theorem reminderSetText_start {zones : TimeZones} {timezone actorUserId : String} {r : Reminder}
    {leads : List Instant} {text : String}
    (h : reminderSetText zones timezone actorUserId r leads = .ok text) :
    ∃ f fields, text = card "提醒已设置" (("事项", escapeMarkdown r.title) :: f :: fields) := by
  unfold reminderSetText at h
  obtain ⟨moment, -, h⟩ := bind_eq_ok.mp h
  obtain ⟨announced, -, h⟩ := bind_eq_ok.mp h
  obtain rfl := Except.ok.inj h
  exact ⟨_, _, rfl⟩

/-! ### When the title is shown -/

/-- A row whose value has no line break is one line of the card. -/
theorem cardLines_start {heading : List Char} (hheading : ∀ c ∈ heading, isLineBreak c = false)
    {row rest : List Char} (hrow : ∀ c ∈ row, isLineBreak c = false) :
    (heading ++ '\n' :: [] ++ '\n' :: row ++ '\n' :: rest).splitOnP isLineBreak =
      heading :: [] :: row :: rest.splitOnP isLineBreak := by
  have hbreak : isLineBreak '\n' = true := by decide
  simp only [List.append_assoc, List.cons_append, List.nil_append]
  rw [List.splitOnP_append_cons_of_forall_mem hheading _ hbreak, List.splitOnP_cons_eq_if_modifyHead, if_pos hbreak,
    List.splitOnP_append_cons_of_forall_mem hrow _ hbreak]

/-- Otherwise the line of the row ends where the value breaks. -/
theorem cardLines_broken {heading : List Char} (hheading : ∀ c ∈ heading, isLineBreak c = false)
    {label value rest : List Char} (hlabel : ∀ c ∈ label, isLineBreak c = false)
    (hvalue : ∃ c ∈ value, isLineBreak c = true) :
    ∃ start more, start <+: value ∧
      (heading ++ '\n' :: [] ++ '\n' :: (label ++ value ++ rest)).splitOnP isLineBreak =
        heading :: [] :: (label ++ start) :: more := by
  have hbreak : isLineBreak '\n' = true := by decide
  -- the value up to its first line break
  obtain ⟨start, c, more, rfl, hstart, hc⟩ : ∃ start c more, value = start ++ c :: more ∧
      (∀ d ∈ start, isLineBreak d = false) ∧ isLineBreak c = true := by
    obtain ⟨c, hmem, hc⟩ := hvalue
    obtain ⟨d, hfind⟩ : ∃ d, value.find? isLineBreak = some d := by
      rw [← Option.isSome_iff_exists, List.find?_isSome]
      exact ⟨c, hmem, hc⟩
    obtain ⟨hd, start, more, hvalue, hstart⟩ := List.find?_eq_some_iff_append.mp hfind
    exact ⟨start, d, more, hvalue, fun e he => by simpa using hstart e he, hd⟩
  refine ⟨start, (more ++ rest).splitOnP isLineBreak, List.prefix_append .., ?_⟩
  have hboth : ∀ d ∈ label ++ start, isLineBreak d = false := by
    intro d hd
    rcases List.mem_append.mp hd with hd | hd
    · exact hlabel d hd
    · exact hstart d hd
  have hassoc : label ++ (start ++ c :: more) ++ rest = (label ++ start) ++ c :: (more ++ rest) := by
    simp
  rw [hassoc]
  simp only [List.append_assoc, List.cons_append, List.nil_append]
  rw [List.splitOnP_append_cons_of_forall_mem hheading _ hbreak, List.splitOnP_cons_eq_if_modifyHead, if_pos hbreak,
    ← List.append_assoc, List.splitOnP_append_cons_of_forall_mem hboth _ hc]

/-- No special character and no line break. -/
def Inert (title : String) : Prop :=
  ∀ c ∈ title.toList, c ∉ markdownSpecials ∧ isLineBreak c = false

theorem count_bare (cs : List Char) : (bare cs).count '\\' = cs.count '\\' := by
  unfold bare
  rw [count_compactChars (by decide), List.count_filter (by decide)]

/-- **A span shows a text that was escaped** exactly if there was nothing to escape. -/
theorem bare_escaped_iff {cs title : List Char}
    (hcount : cs.count '\\' = title.count '\\')
    (hspecial : ∀ c ∈ markdownSpecials, c ∈ cs ↔ c ∈ title)
    (hsame : (∀ c ∈ cs, c ∉ markdownSpecials) → bare cs = bare title) :
    bare ((escapeChars cs).filter (· ≠ '`')) = bare title ↔ ∀ c ∈ title, c ∉ markdownSpecials := by
  have hiff : (∀ c ∈ cs, c ∉ markdownSpecials) ↔ ∀ c ∈ title, c ∉ markdownSpecials :=
    ⟨fun h c hc hmem => h c ((hspecial c hmem).mpr hc) hmem,
      fun h c hc hmem => h c ((hspecial c hmem).mp hc) hmem⟩
  rw [← hiff]
  constructor
  · intro h
    have hcounts := congrArg (List.count '\\') h
    rw [count_bare, count_bare, List.count_filter (by decide), count_escapeChars, hcount] at hcounts
    have hnone : cs.countP (· ∈ markdownSpecials) = 0 := by omega
    intro c hc
    simpa using List.countP_eq_zero.mp hnone c hc
  · intro h
    rw [escapeChars_of_plain h]
    have hfilter : bare (cs.filter (· ≠ '`')) = bare cs := by
      unfold bare
      rw [List.filter_filter]
      simp
    rw [hfilter, hsame h]

/-- A backtick is no line break, so a value breaks its line with or without them. -/
theorem exists_break_filter {cs : List Char} :
    (∃ c ∈ cs.filter (· ≠ '`'), isLineBreak c = true) ↔ ∃ c ∈ cs, isLineBreak c = true := by
  refine ⟨fun ⟨c, hc, hbreak⟩ => ⟨c, List.mem_of_mem_filter hc, hbreak⟩, fun ⟨c, hc, hbreak⟩ => ?_⟩
  refine ⟨c, List.mem_filter.mpr ⟨hc, ?_⟩, hbreak⟩
  have hne : c ≠ '`' := by
    rintro rfl
    exact absurd hbreak (by decide)
  simpa using hne

/-- **The first row of a card** shows a title when its value has no line break and is, up to white
space and backticks, the title. -/
theorem showsTitle_card {heading value title : String}
    (hheading : ∀ c ∈ ("# " ++ heading).toList, isLineBreak c = false) (f : String × String)
    (fields : List (String × String)) :
    ShowsTitle (card heading (("事项", value) :: f :: fields)) title ↔
      (∀ c ∈ value.toList, isLineBreak c = false) ∧
        bare (value.toList.filter (· ≠ '`')) = bare title.toList := by
  have hlabel : ∀ c ∈ "**事项：** `".toList, isLineBreak c = false :=
    forall_mem_of_all (by decide)
  obtain ⟨rest, hcard⟩ := card_start heading value f fields
  unfold ShowsTitle cardLines
  rw [hcard]
  by_cases hbreaks : ∃ c ∈ value.toList, isLineBreak c = true
  · -- the line of the row ends in the value, and not with a backtick
    have hbroken := exists_break_filter.mpr hbreaks
    obtain ⟨start, more, hstart, hlines⟩ :=
      @cardLines_broken _ hheading _ _ (['`'] ++ '\n' :: rest) hlabel hbroken
    constructor
    · rintro ⟨heading', value', rest', heq, hvalue', -⟩
      have hassoc : ∀ cs : List Char, ("# " ++ heading).toList ++ '\n' :: [] ++ '\n' ::
          ("**事项：** `".toList ++ cs ++ ['`']) ++ '\n' :: rest =
            ("# " ++ heading).toList ++ '\n' :: [] ++ '\n' ::
              ("**事项：** `".toList ++ cs ++ (['`'] ++ '\n' :: rest)) := by
        intro cs
        simp
      rw [hassoc, hlines] at heq
      have hrow := (List.cons.inj (List.cons.inj (List.cons.inj heq).2).2).1
      rw [List.append_assoc] at hrow
      have hstarts : start = value' ++ ['`'] := List.append_cancel_left hrow
      have htick : '`' ∈ start := by simp [hstarts]
      exact absurd (hstart.subset htick) (by simp)
    · rintro ⟨hvalue, -⟩
      obtain ⟨c, hc, hbreak⟩ := hbreaks
      rw [hvalue c hc] at hbreak
      exact absurd hbreak (by simp)
  · have hvalue : ∀ c ∈ value.toList, isLineBreak c = false :=
      fun c hc => (Bool.not_eq_true _).mp fun hbreak => hbreaks ⟨c, hc, hbreak⟩
    have hrow : ∀ c ∈ "**事项：** `".toList ++ value.toList.filter (· ≠ '`') ++ ['`'],
        isLineBreak c = false := by
      intro c hc
      rcases List.mem_append.mp hc with hc | hc
      · rcases List.mem_append.mp hc with hc | hc
        · exact hlabel c hc
        · exact hvalue c (List.mem_of_mem_filter hc)
      · rw [List.mem_singleton.mp hc]
        decide
    rw [cardLines_start hheading hrow]
    constructor
    · rintro ⟨heading', value', rest', heq, -, hsame⟩
      have hrows := (List.cons.inj (List.cons.inj (List.cons.inj heq).2).2).1
      rw [List.append_assoc, List.append_assoc] at hrows
      have hends := List.append_cancel_left hrows
      rw [List.append_cancel_right hends]
      exact ⟨hvalue, hsame⟩
    · rintro ⟨-, hsame⟩
      exact ⟨_, _, _, rfl, by simp, hsame⟩

theorem bare_compactChars {cs : List Char} (h : ∀ c ∈ cs, c ∉ markdownSpecials) :
    bare (compactChars cs) = bare cs := by
  have htick : '`' ∉ cs := fun hmem => h _ hmem (by decide)
  have hnone : ∀ ds : List Char, '`' ∉ ds → ds.filter (· ≠ '`') = ds := by
    intro ds hds
    rw [List.filter_eq_self]
    intro c hc
    have hne : c ≠ '`' := fun heq => hds (heq ▸ hc)
    simpa using hne
  unfold bare
  rw [hnone cs htick, hnone _ fun hmem => htick ((mem_compactChars (by decide)).mp hmem),
    compactChars_idem]

/-- The card of a reminder that fires, whose title is collapsed before. -/
theorem showsTitle_notification {zones : TimeZones} {r : Reminder} {text : String}
    (h : reminderNotificationText zones r = .ok text) :
    ShowsTitle text r.title ↔ ∀ c ∈ r.title.toList, c ∉ markdownSpecials := by
  obtain ⟨f, fields, rfl⟩ := reminderNotificationText_start h
  have hvalue : (escapeMarkdownText r.title).toList = escapeChars (compactChars r.title.toList) := by
    unfold escapeMarkdownText
    rw [toList_escapeMarkdown, toList_compact]
  have hlines : ∀ c ∈ escapeChars (compactChars r.title.toList), isLineBreak c = false := by
    intro c hc
    refine (Bool.not_eq_true _).mp fun hbreak => ?_
    -- a line break is white, and the only white character left is the blank
    have hcases : c = '\n' ∨ c = '\r' := by simpa [isLineBreak] using hbreak
    have hne : c ≠ '\\' := by rcases hcases with rfl | rfl <;> decide
    have hspace : isSpace c = true := by rcases hcases with rfl | rfl <;> decide
    have hblank := (collapsed_compactChars _).blank c ((mem_escapeChars hne).mp hc) hspace
    rcases hcases with rfl | rfl <;> exact absurd hblank (by decide)
  rw [showsTitle_card (forall_mem_of_all (by decide)), hvalue, and_iff_right hlines]
  refine bare_escaped_iff (count_compactChars (by decide) _)
    (fun c hc => mem_compactChars (special_not_white hc)) fun hplain => bare_compactChars ?_
  exact fun c hc hmem => hplain c ((mem_compactChars (special_not_white hmem)).mpr hc) hmem

/-- The card of a new reminder, whose title is escaped as it is. -/
theorem showsTitle_reminderSet {zones : TimeZones} {timezone actorUserId : String} {r : Reminder}
    {leads : List Instant} {text : String}
    (h : reminderSetText zones timezone actorUserId r leads = .ok text) :
    ShowsTitle text r.title ↔ Inert r.title := by
  obtain ⟨f, fields, rfl⟩ := reminderSetText_start h
  have hlines : (∀ c ∈ escapeChars r.title.toList, isLineBreak c = false) ↔
      ∀ c ∈ r.title.toList, isLineBreak c = false := by
    refine ⟨fun hall c hc => ?_, fun hall c hc => ?_⟩
    · by_cases hslash : c = '\\'
      · rw [hslash]
        decide
      · exact hall c ((mem_escapeChars hslash).mpr hc)
    · by_cases hslash : c = '\\'
      · rw [hslash]
        decide
      · exact hall c ((mem_escapeChars hslash).mp hc)
  rw [showsTitle_card (forall_mem_of_all (by decide)), toList_escapeMarkdown, hlines,
    bare_escaped_iff rfl (fun _ _ => Iff.rfl) fun _ => rfl]
  exact ⟨fun ⟨hbreaks, hspecials⟩ c hc => ⟨hspecials c hc, hbreaks c hc⟩,
    fun hinert => ⟨fun c hc => (hinert c hc).2, fun c hc => (hinert c hc).1⟩⟩

/-- **Card values are shown as written**, on both cards of a reminder, exactly if its title has no
character that Markdown knows and no line break. -/
theorem cardsShowTitle_iff {zones : TimeZones} {timezone actorUserId : String} {r : Reminder}
    {leads : List Instant} {fired confirmed : String}
    (hfired : reminderNotificationText zones r = .ok fired)
    (hconfirmed : reminderSetText zones timezone actorUserId r leads = .ok confirmed) :
    (ShowsTitle fired r.title ∧ ShowsTitle confirmed r.title) ↔ Inert r.title := by
  rw [showsTitle_notification hfired, showsTitle_reminderSet hconfirmed]
  exact and_iff_right_of_imp fun hinert c hc => (hinert c hc).1

theorem water_shown :
    ShowsTitle "# 日程提醒\n\n**事项：** `Water the plants`\n\n**时间：** `1970-01-01 08:01（北京时间）`"
        ReminderRepository.water.title ∧
      ShowsTitle ("# 提醒已设置\n\n**事项：** `Water the plants`\n\n" ++
        "**时间：** `1970-01-01 08:01 周四`\n\n**范围：** `私人库`") ReminderRepository.water.title :=
  (cardsShowTitle_iff
    (show reminderNotificationText ReminderRepository.shanghai.zones ReminderRepository.water =
      .ok _ by decide +kernel)
    (show reminderSetText ReminderRepository.shanghai.zones "Asia/Shanghai" "alice"
      ReminderRepository.water [] = .ok _ by decide +kernel)).mpr
    (forall_mem_of_all (by decide +kernel))

/-- The reader of this card sees `v1\.0`. -/
theorem version_not_shown : ¬ ∀ (zones : TimeZones) (timezone actorUserId : String) (r : Reminder)
    (leads : List Instant) (fired confirmed : String),
    reminderNotificationText zones r = .ok fired →
    reminderSetText zones timezone actorUserId r leads = .ok confirmed →
      ShowsTitle fired r.title ∧ ShowsTitle confirmed r.title := by
  intro h
  have hfired : ∃ text, reminderNotificationText ReminderRepository.shanghai.zones
      { ReminderRepository.water with title := "v1.0" } = .ok text := ⟨_, rfl⟩
  have hconfirmed : ∃ text, reminderSetText ReminderRepository.shanghai.zones "Asia/Shanghai" "alice"
      { ReminderRepository.water with title := "v1.0" } [] = .ok text := ⟨_, rfl⟩
  obtain ⟨fired, hfired⟩ := hfired
  obtain ⟨confirmed, hconfirmed⟩ := hconfirmed
  have hshown := (h _ _ _ _ _ _ _ hfired hconfirmed).1
  exact (showsTitle_notification hfired).mp hshown '.' (by decide) (by decide)

end Zhixu
