import Zhixu.Domain.DateTime
import Zhixu.Storage.Database

/-!
# Quotas

`QuotaManager`: a rule limits the deliveries of one scope (a provider, an account, a conversation or
a user) in a window of the wall clock of its zone. `reserve` first finds the window of every rule,
which can raise, and then decides and counts in one transaction: when no rule is exhausted each is
charged, and when one is nothing is written and the caller is told when the last of the exhausted
windows ends.
-/

open Framework

namespace Zhixu

/-- The value of the enumeration. -/
def QuotaScopeKind.value : QuotaScopeKind → String
  | provider => "provider"
  | account => "account"
  | conversation => "conversation"
  | user => "user"

/-- The value of the enumeration. -/
def QuotaWindow.value : QuotaWindow → String
  | second => "second"
  | minute => "minute"
  | day => "day"

structure QuotaScope where
  kind : QuotaScopeKind
  ref : String
  ref_nonblank : isBlank ref = false
deriving Repr

/-- `QuotaScope(…)`. -/
def QuotaScope.checked (kind : QuotaScopeKind) (ref : String) : Except PyError QuotaScope :=
  if h : isBlank ref = false then .ok { kind, ref, ref_nonblank := h }
  else .error (.validation "quota scope reference is required")

structure QuotaRule where
  scopeKind : QuotaScopeKind
  window : QuotaWindow
  limit : Int
  timezone : String := "UTC"
  limit_positive : 1 ≤ limit
deriving DecidableEq, Repr

structure QuotaDecision where
  allowed : Bool
  nextAvailableAt : Instant
  reasonCode : String
deriving DecidableEq, Repr

/-- The reading at which the window of a reading begins. -/
def QuotaWindow.floor : QuotaWindow → Int → Int
  | second, w => w - w % 1000000
  | minute, w => w - w % 60000000
  | day, w => w - w % 86400000000

/-- How long a window lasts. -/
def QuotaWindow.length : QuotaWindow → Int
  | second => Duration.seconds 1
  | minute => Duration.minutes 1
  | day => Duration.days 1

/-- `_window`. -/
def quotaWindow (zones : TimeZones) (now : Instant) (rule : QuotaRule) :
    Except PyError (Instant × Instant) := do
  zones.zoneInfo rule.timezone
  let local' ← (DateTime.ofInstant now).astimezone zones rule.timezone
  let start := { local' with wall := rule.window.floor local'.wall }
  let stop ← start.plus rule.window.length
  let startUtc ← start.toUtc zones
  let stopUtc ← stop.toUtc zones
  return (startUtc, stopUtc)

/-- `QuotaManager`. -/
structure QuotaManager where
  rules : List QuotaRule
  rules_nonempty : rules ≠ []

/-- A rule with the scope it applies to and its window. -/
structure QuotaCheck where
  rule : QuotaRule
  scope : QuotaScope
  start : Instant
  stop : Instant
deriving Repr

namespace QuotaManager

variable (quota : QuotaManager)

/-- The scope, rule and window of every rule. -/
def checks (zones : TimeZones) (scopes : List QuotaScope) (now : Instant) :
    Except PyError (List QuotaCheck) :=
  quota.rules.mapM fun rule =>
    match scopes.find? fun scope => scope.kind = rule.scopeKind with
    | none => .error (.validation ("missing quota scope: " ++ rule.scopeKind.value))
    | some scope => do
      let window ← quotaWindow zones now rule
      return { rule, scope, start := window.1, stop := window.2 }

/-- The usage row of a check. -/
def usage (check : QuotaCheck) (used : Int) : QuotaUsage where
  scopeKind := check.scope.kind
  scopeRef := check.scope.ref
  windowKind := check.rule.window
  windowStart := check.start
  used

/-- The window of a check is used up. -/
def exhausted (db : Database) (check : QuotaCheck) : Bool :=
  (db.quotaUsage.find? (usage check 0).key).any fun row => check.rule.limit ≤ row.used

/-- `INSERT … VALUES(?,?,?,?,1) ON CONFLICT … DO UPDATE SET used=used+1`. -/
def charge (db : Database) (check : QuotaCheck) : Database :=
  { db with
    quotaUsage := db.quotaUsage.upsert (usage check 1) fun row => { row with used := row.used + 1 } }

/-- The reason of a refusal. -/
def exhaustedReason (blocked : List QuotaCheck) : String :=
  "quota_exhausted:" ++ String.intercalate ","
    ((blocked.map fun check =>
      check.scope.kind.value ++ ":" ++ check.rule.window.value).insertionSort (· ≤ ·))

/-- The transaction of `reserve`. -/
def decide (checks : List QuotaCheck) (now : Instant) :
    Transaction Database PyError QuotaDecision := fun db =>
  match checks.filter (exhausted db) with
  | [] => .ok (⟨true, now, "reserved"⟩, checks.foldl charge db)
  | first :: rest =>
    .ok (⟨false, (rest.map QuotaCheck.stop).foldl max first.stop, exhaustedReason (first :: rest)⟩, db)

/-- `reserve`. -/
def reserve (zones : TimeZones) (scopes : List QuotaScope) (now : Instant) :
    Effect Database PyError QuotaDecision := do
  Effect.check (raiseIf (¬ (scopes.map QuotaScope.kind).Nodup)
    (.validation "quota scopes must be unique by kind"))
  let checks ← Effect.check (quota.checks zones scopes now)
  Effect.atomically (decide checks now)

end QuotaManager

end Zhixu
