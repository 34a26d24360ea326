import Zhixu.Domain.Policy

/-!
# Reminders

The domain records of reminders and of the links attached to them. A record
read from the store is built, and therefore checked, anew: `Reminder.checked`
is the constructor with its `__post_init__`, over a zone database.
-/

open Framework

namespace Zhixu

/-- A link with a short label and a URL of printable characters. The syntax of
the URL is not looked at. -/
structure ActionLink where
  label : String
  url : String
  label_valid : isBlank label = false ∧ label.length ≤ 40
  url_valid : isBlank url = false ∧ url.length ≤ 2048 ∧ ∀ c ∈ url.toList, 32 ≤ c.toNat
deriving DecidableEq, Repr

inductive ReminderStatus
  | pending
  | fired
  | cancelled
deriving DecidableEq, Repr

inductive MissedReminderPolicy
  | fire
  | skip
deriving DecidableEq, Repr

/-- A reminder, as its fields. -/
structure Reminder where
  id : String
  ownerUserId : String
  title : String
  fireAt : Instant
  targetRef : String
  creatorUserId : Option String := none
  actionLinks : List ActionLink := []
  status : ReminderStatus := .pending
  missedPolicy : MissedReminderPolicy := .fire
  classification : DataClassification := .personal
  relatedKind : Option String := none
  relatedId : Option String := none
  relatedStartAt : Option Instant := none
  timezone : Option String := none
  version : Int := 1
  createdAt : Option Instant := none
  updatedAt : Option Instant := none
deriving DecidableEq, Repr

/-- `Reminder.__post_init__`. -/
def Reminder.validate (zones : TimeZones) (r : Reminder) : Except PyError Unit := do
  raiseIf (isBlank r.id = true ∨ isBlank r.ownerUserId = true ∨ isBlank r.title = true ∨
      isBlank r.targetRef = true)
    (.validation "reminder id, owner, title, and target are required")
  raiseIf (r.creatorUserId.any isBlank = true) (.validation "reminder creator must not be empty")
  raiseIf (r.relatedKind.isNone ≠ r.relatedId.isNone)
    (.validation "related kind and id must be supplied together")
  zones.requireKnown r.timezone
  raiseIf (r.relatedStartAt.isSome = true ∧ r.relatedId = none)
    (.validation "a related start time needs the resource it belongs to")
  raiseIf (r.version < 1) (.validation "version must be positive")
  requireOrdinaryStorage r.classification
  raiseIf (8 < r.actionLinks.length) (.validation "reminder action link limit exceeded")

/-- `Reminder(…)`: the fields, when they are valid. -/
def Reminder.checked (zones : TimeZones) (r : Reminder) : Except PyError Reminder := do
  r.validate zones
  return r

theorem Reminder.checked_ok {zones : TimeZones} {r r' : Reminder} :
    r.checked zones = .ok r' ↔ r.validate zones = .ok ⟨⟩ ∧ r' = r := by
  unfold Reminder.checked
  rw [bind_eq_ok]
  constructor
  · rintro ⟨_, hvalid, h⟩
    exact ⟨hvalid, (Except.ok.inj h).symm⟩
  · rintro ⟨hvalid, rfl⟩
    exact ⟨⟨⟩, hvalid, rfl⟩

end Zhixu
