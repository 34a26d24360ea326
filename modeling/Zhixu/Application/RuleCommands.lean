import Zhixu.Application.NotificationEdits
import Zhixu.Application.PlanValues
import Zhixu.Framework.Pattern

/-!
# Reading the parts of a command

What the rule parser does with the parts of a message that its regular expressions have found: the
conversions of the language, each with the exceptions it raises, and the functions of the parser that
read a list of lead times, a time of day, or an edit.

`int` refuses a character that is no decimal digit, and more than 4300 digits. `float` takes any number
of them and may be infinite, which `int` refuses in turn; a float is a multiple of `2 ^ -1074` here. A
`date` has to exist, and the year of one is at least 1.

The characters that `\d` matches are the decimal digits. `str.isdigit` has more: raised and lowered
digits, circled ones and others (`isDigit`).
-/

open Framework

namespace Zhixu

/-- `ParsedIntent`. -/
structure ParsedIntent where
  action : IntentAction
  arguments : Arguments := []
  source : String := "deterministic"
  requiresConfirmation : Bool := false

namespace RuleIntentRouter

/-! ### Regular expressions -/

/-- `\d`. -/
def digit (c : Char) : Bool := (decimalValue c).isSome

/-- `.`, without `DOTALL`. -/
def dot (c : Char) : Bool := c ≠ '\n'

/-- `.`, with it. -/
def anything (_ : Char) : Bool := true

/-- `[…]`. -/
def among (s : String) (c : Char) : Bool := c ∈ s.toList

/-- `[^…]`. -/
def notAmong (s : String) (c : Char) : Bool := c ∉ s.toList

/-- `[A-Za-z0-9_-]`. -/
def idChar (c : Char) : Bool := c.isAlphanum || c = '_' || c = '-'

def lit (s : String) : Pattern := .text s.toList

def one (p : Char → Bool) : Pattern := .many p 1 (some 1) true

/-- `p{least,most}`. -/
def between (p : Char → Bool) (least most : ℕ) : Pattern := .many p least (some most) true

/-- `p+`. -/
def oneOrMore (p : Char → Bool) : Pattern := .many p 1 none true

/-- `p*`. -/
def zeroOrMore (p : Char → Bool) : Pattern := .many p 0 none true

/-- `p+?`. -/
def oneOrMoreLazily (p : Char → Bool) : Pattern := .many p 1 none false

/-- One pattern behind the other. -/
def chain : List Pattern → Pattern
  | [] => .text []
  | [a] => a
  | a :: as => .seq a (chain as)

/-- `(?:a|b|…)`. -/
def anyOf : List Pattern → Pattern
  | [] => .many (fun _ => false) 1 none true
  | [a] => a
  | a :: as => .alt a (anyOf as)

/-- `(?:word|word|…)`. -/
def words (ws : List String) : Pattern := anyOf (ws.map lit)

/-- What a group has noted, as a string. -/
def noted (groups : Pattern.Groups) (index : ℕ) : Option String := (groups.lookup index).map String.ofList

/-- `match.group(index)`, of a group that always takes part. -/
def taken (groups : Pattern.Groups) (index : ℕ) : String := (noted groups index).getD ""

/-- `re.fullmatch`. -/
def fullmatch (a : Pattern) (value : String) : Option Pattern.Groups := a.fullmatch value.toList

/-- `[part for part in re.split(r"[…]+", value) if part]`. -/
def splitParts (separates : Char → Bool) (value : String) : List String :=
  ((value.toList.splitOnP separates).filter fun part => !part.isEmpty).map String.ofList

/-- `value.strip().partition(" ")`, as the field and the stripped text behind it. -/
def partition (value : String) : String × String :=
  let chars := stripChars value.toList
  (String.ofList (chars.takeWhile (· ≠ ' ')),
    String.ofList (stripChars ((chars.dropWhile (· ≠ ' ')).drop 1)))

/-- `value.lower()`, for a comparison with Chinese words and with English ones that have no `k`: no
other character has the lower case of one of their letters. -/
def lowered (value : String) : String := String.ofList (value.toList.map Char.toLower)

/-! ### Conversions -/

/-- The characters that are digits and not decimal ones. -/
def otherDigits : List (ℕ × ℕ) := [
  (0xb2, 0xb3), (0xb9, 0xb9), (0x1369, 0x1371), (0x19da, 0x19da), (0x2070, 0x2070), (0x2074, 0x2079),
  (0x2080, 0x2089), (0x2460, 0x2468), (0x2474, 0x247c), (0x2488, 0x2490), (0x24ea, 0x24ea),
  (0x24f5, 0x24fd), (0x24ff, 0x24ff), (0x2776, 0x277e), (0x2780, 0x2788), (0x278a, 0x2792),
  (0x10a40, 0x10a43), (0x10e60, 0x10e68), (0x11052, 0x1105a), (0x1f100, 0x1f10a)]

/-- `str.isdigit`, of a text that is not empty. -/
def isDigit (c : Char) : Bool :=
  digit c || otherDigits.any fun range => range.1 ≤ c.toNat && c.toNat ≤ range.2

/-- `sys.get_int_max_str_digits()`. -/
def maxStrDigits : ℕ := 4300

/-- `int(text)`, of a text without a sign. -/
def natOf (cs : List Char) : Except PyError ℕ :=
  if cs = [] ∨ maxStrDigits < cs.length then .error .value
  else
    match digitsValue cs with
    | some value => .ok value
    | none => .error .value

/-- `int(text)`. -/
def intOf : List Char → Except PyError Int
  | '-' :: cs => do
    let value ← natOf cs
    return -value
  | '+' :: cs => do
    let value ← natOf cs
    return value
  | cs => do
    let value ← natOf cs
    return value

theorem time_in_day {hour minute : Int} (h : (0 ≤ hour ∧ hour ≤ 23) ∧ 0 ≤ minute ∧ minute ≤ 59) :
    0 ≤ hour * 3600000000 + minute * 60000000 ∧
      hour * 3600000000 + minute * 60000000 < 86400000000 := by
  omega

/-- `time(hour, minute)`. -/
def timeOf (hour minute : Int) : Except PyError PlanTime :=
  if h : (0 ≤ hour ∧ hour ≤ 23) ∧ 0 ≤ minute ∧ minute ≤ 59 then
    .ok { micros := hour * 3600000000 + minute * 60000000, in_day := time_in_day h }
  else .error .value

/-- `date(year, month, day)`. -/
def dateOf (year month day : Int) : Except PyError Int :=
  if Calendar.IsDate year month day then .ok (Calendar.toOrdinal year month day) else .error .value

/-- `try: … except ValueError: return None`. -/
def exceptValue {α : Type} : Except PyError α → Except PyError (Option α)
  | .ok value => .ok (some value)
  | .error .value => .ok none
  | .error err => .error err

/-- `try: … except ValidationError: return None`. -/
def exceptValidation {α : Type} : Except PyError α → Except PyError (Option α)
  | .ok value => .ok (some value)
  | .error (.validation _) => .ok none
  | .error err => .error err

/-- The regular expression that `strptime` makes of `%Y-%m-%d`. -/
def strptimePattern : Pattern := chain [
  .group 1 (between digit 4 4), lit "-",
  .group 2 (anyOf [chain [lit "1", one (among "012")], chain [lit "0", one (among "123456789")],
    one (among "123456789")]), lit "-",
  .group 3 (anyOf [chain [lit "3", one (among "01")], chain [one (among "12"), one digit],
    chain [lit "0", one (among "123456789")], one (among "123456789"),
    chain [lit " ", one (among "123456789")]])]

/-- `datetime.strptime(text, "%Y-%m-%d").date()`. A day with a blank in front cannot be in the text. -/
def strptimeDate (text : String) : Except PyError Int :=
  match fullmatch strptimePattern text with
  | none => .error .value
  | some groups => do
    let year ← natOf (taken groups 1).toList
    let month ← natOf (taken groups 2).toList
    let day ← natOf (taken groups 3).toList
    dateOf year month day

/-! ### Floats -/

/-- The float next to `n / d`, of two of the same distance the even one. -/
def nearest (n d : ℕ) : ℕ :=
  let quantum := 2 ^ (Nat.log2 (n / d) - 52)
  let below := n / (d * quantum)
  let rest := n % (d * quantum)
  let up := d * quantum < 2 * rest ∨ d * quantum = 2 * rest ∧ below % 2 = 1
  (if up then below + 1 else below) * quantum

/-- `1.0`. -/
@[irreducible] def floatOne : ℕ := 2 ^ 1074

/-- The float is too large. -/
@[irreducible] def Infinite (units : ℕ) : Prop := 2 ^ 1024 * floatOne ≤ units

instance (units : ℕ) : Decidable (Infinite units) := by
  unfold Infinite; infer_instance

/-- `float(text)`, of digits with or without a fraction. -/
def floatOf (cs : List Char) : Except PyError ℕ :=
  let whole := cs.takeWhile (· ≠ '.')
  let fraction := (cs.dropWhile (· ≠ '.')).drop 1
  match digitsValue (whole ++ fraction) with
  | some value => .ok (nearest (value * floatOne) (10 ^ fraction.length))
  | none => .error .value

/-- The product of a float and a small number. -/
def timesFloat (units factor : ℕ) : ℕ :=
  if Infinite units then units else nearest (units * factor) 1

/-- `int(value)`, if it is `value`. -/
def wholeOf (units : ℕ) : Except PyError (Option ℕ) :=
  if Infinite units then .error .overflow
  else if units % floatOne ≠ 0 then .ok none
  else .ok (some (units / floatOne))

/-! ### Lead times -/

/-- `_LEAD_UNITS`. -/
def leadUnits : List (String × ℕ) := [
  ("分钟", 1), ("分", 1), ("min", 1), ("m", 1),
  ("小时", 60), ("时", 60), ("h", 60), ("hour", 60),
  ("天", 1440), ("日", 1440), ("d", 1440), ("day", 1440)]

/-- `[\s,，、]`. -/
def listSeparator (c : Char) : Bool := isSpace c || c ∈ [',', '，', '、']

/-- `(\d+(?:\.\d+)?)\s*([^\d\s]+)`. -/
def leadPattern : Pattern := chain [
  .group 1 (chain [oneOrMore digit, .opt (chain [lit ".", oneOrMore digit])]),
  zeroOrMore isSpace,
  .group 2 (oneOrMore fun c => !digit c && !isSpace c)]

/-- One pass of the loop of `_parse_lead_minutes`: the minutes, unless it returns. -/
def leadPart (part : String) : Except PyError (Option Int) :=
  if part ∈ ["准点", "开始时", "0"] then .ok (some 0)
  else
    match fullmatch leadPattern part with
    | none => .ok none
    | some groups =>
      match Dict.find? leadUnits (lowered (taken groups 2)) with
      | none => .ok none
      | some unit => do
        let number ← floatOf (taken groups 1).toList
        let minutes ← wholeOf (timesFloat number unit)
        return minutes.map fun value => (value : Int)

/-- The loop of `_parse_lead_minutes`. -/
def leadParts : List String → Except PyError (Option (List Int))
  | [] => .ok (some [])
  | part :: parts => do
    match ← leadPart part with
    | none => return none
    | some minutes => do
      let rest ← leadParts parts
      return rest.map (minutes :: ·)

/-- `_parse_lead_minutes`. -/
def parseLeadMinutes (value : String) : Except PyError (Option (List Int)) := do
  let parts := splitParts listSeparator (strip value)
  if parts = [] then return none
  else
    match ← leadParts parts with
    | none => return none
    | some minutes => exceptValidation (normaliseLeadMinutes minutes)

/-! ### Edits -/

/-- `(\d{1,2}):(\d{2})`. -/
def wallTimePattern : Pattern := chain [
  .group 1 (between digit 1 2), lit ":", .group 2 (between digit 2 2)]

/-- The time of day of an hour and a minute that were written, if there is one. -/
def checkedTime (groups : Pattern.Groups) : Except PyError (Option PlanTime) := do
  let hour ← intOf (taken groups 1).toList
  let minute ← intOf (taken groups 2).toList
  if 23 < hour ∨ 59 < minute then return none
  else some <$> timeOf hour minute

/-- `_parse_wall_time`. -/
def wallTime (value : String) : Except PyError (Option PlanTime) :=
  match fullmatch wallTimePattern (strip value) with
  | none => .ok none
  | some groups => checkedTime groups

/-- The days of the field `预告`. -/
def noticeDays (body : String) : Except PyError (Option Arguments) :=
  let days := splitParts listSeparator body
  if days = [] ∨ days.any (fun part => part.toList.any fun c => !isDigit c) = true then .ok none
  else do
    let numbers ← days.mapM fun part => natOf part.toList
    let values := numbers.dedup.insertionSort fun a b => b ≤ a
    if values.any (fun day => decide (¬ (1 ≤ day ∧ day ≤ 366))) = true ∨ 8 < values.length then
      return none
    else return some [("advance_days", .tuple (values.map fun day => .int day))]

/-- `农历\s+(闰)?(\d{1,2})-(\d{1,2})`. -/
def lunarPattern : Pattern := chain [
  lit "农历", oneOrMore isSpace, .opt (.group 1 (lit "闰")), .group 2 (between digit 1 2), lit "-",
  .group 3 (between digit 1 2)]

/-- `(?:(\d{4})-)?(\d{1,2})-(\d{1,2})`. -/
def solarPattern : Pattern := chain [
  .opt (chain [.group 1 (between digit 4 4), lit "-"]), .group 2 (between digit 1 2), lit "-",
  .group 3 (between digit 1 2)]

/-- `int(year) if year else UNKNOWN_YEAR`. -/
def yearOr (year : Option String) : Except PyError Int :=
  match year with
  | some text => intOf text.toList
  | none => .ok unknownYear

/-- The field `日期`. -/
def importantDate (body : String) : Except PyError (Option Arguments) :=
  match fullmatch lunarPattern body with
  | some groups => do
    let month ← intOf (taken groups 2).toList
    let day ← intOf (taken groups 3).toList
    return some [("calendar", .str "lunar"), ("lunar_leap", .bool (noted groups 1).isSome),
      ("lunar_month", .int month), ("lunar_day", .int day)]
  | none =>
    match fullmatch solarPattern body with
    | none => .ok none
    | some groups => do
      let year ← yearOr (noted groups 1)
      let anchor ← exceptValue do
        let month ← intOf (taken groups 2).toList
        let day ← intOf (taken groups 3).toList
        dateOf year month day
      return anchor.map fun date => [("calendar", .str "solar"), ("anchor_date", .date date)]

/-- `_parse_important_day_edit`. -/
def importantDayEdit (rest : String) : Except PyError (Option Arguments) :=
  let (field, body) := partition rest
  if field = "名称" ∧ body ≠ "" then .ok (some [("title", .str body)])
  else if field = "类型" then
    if body ∈ ["生日", "birthday"] then .ok (some [("kind", .str "birthday")])
    else if body ∈ ["纪念日", "anniversary"] then .ok (some [("kind", .str "anniversary")])
    else .ok none
  else if field = "预告" then
    if body ∈ ["关闭", "关", "无"] then .ok (some [("advance_days", .tuple [])])
    else noticeDays body
  else if field = "日期" then importantDate body
  else .ok none

/-- `_parse_briefing_edit`. -/
def briefingEdit (rest : String) : Except PyError (Option Arguments) :=
  let (field, body) := partition rest
  if field = "时间" then do
    let time ← wallTime body
    return time.map fun value => [("briefing_time", .time value)]
  else if field = "开关" then
    .ok ((parseSwitch body).map fun value => [("enabled", .bool value)])
  else .ok none

/-- `-?\d{1,3}`. -/
def offsetPattern : Pattern := chain [.opt (lit "-"), between digit 1 3]

/-- `_parse_notification_edit`. -/
def notificationEdit (rest : String) : Except PyError (Option Arguments) :=
  let (field, body) := partition rest
  if field = "文本" ∧ body ≠ "" then .ok (some [("text", .str body)])
  else if field = "时间" then do
    let time ← wallTime body
    return time.map fun value => [("time_of_day", .time value)]
  else if field = "提前" then
    match fullmatch offsetPattern body with
    | none => .ok none
    | some _ => do
      let offset ← intOf body.toList
      if ¬ (-366 ≤ offset ∧ offset ≤ 366) then return none
      else return some [("day_offset", .int offset)]
  else if field = "开关" then
    .ok ((parseSwitch body).map fun value => [("enabled", .bool value)])
  else .ok none

end RuleIntentRouter

end Zhixu
