import Zhixu.Domain.DateTime
import Zhixu.Domain.Policy

/-!
# Tasks and notes

The two records with optimistic concurrency besides agenda items. A note's
parts (attachments, content blocks with their fields) check themselves when they
are built, so their checks are fields here.
-/

open Framework

namespace Zhixu

/-! ### Tasks -/

inductive TaskStatus
  | pending
  | inProgress
  | completed
  | cancelled
  | archived
deriving DecidableEq, Repr

structure Task where
  id : String
  ownerUserId : String
  title : String
  creatorUserId : Option String := none
  status : TaskStatus := .pending
  priority : Int := 0
  dueAt : Option DateTime := none
  description : String := ""
  classification : DataClassification := .personal
  version : Int := 1
  createdAt : Option Instant := none
  updatedAt : Option Instant := none
deriving DecidableEq, Repr

/-- `Task.__post_init__`. -/
def Task.validate (task : Task) : Except PyError Unit := do
  raiseIf (isBlank task.id = true ∨ isBlank task.ownerUserId = true ∨ isBlank task.title = true)
    (.validation "task id, owner, and title are required")
  raiseIf (task.creatorUserId.any isBlank = true) (.validation "task creator must not be empty")
  raiseIf (¬ (0 ≤ task.priority ∧ task.priority ≤ 4))
    (.validation "priority must be between 0 and 4")
  raiseIf (task.version < 1) (.validation "version must be positive")
  requireOrdinaryStorage task.classification

/-- The value of a status. -/
def TaskStatus.value : TaskStatus → String
  | .pending => "pending"
  | .inProgress => "in_progress"
  | .completed => "completed"
  | .cancelled => "cancelled"
  | .archived => "archived"

/-- `ALLOWED_TRANSITIONS`. -/
def allowedTransitions : TaskStatus → List TaskStatus
  | .pending => [.inProgress, .completed, .cancelled]
  | .inProgress => [.pending, .completed, .cancelled]
  | .completed => [.archived]
  | .cancelled => [.archived]
  | .archived => []

/-- `Task.transition`. -/
def Task.transition (task : Task) (status : TaskStatus) (now : Instant) : Except PyError Task := do
  raiseIf (status ∉ allowedTransitions task.status)
    (.invalidTransition ("cannot transition from " ++ task.status.value ++ " to " ++ status.value))
  let updated : Task := { task with status, version := task.version + 1, updatedAt := some now }
  updated.validate
  return updated

/-- `Task.postpone`. -/
def Task.postpone (task : Task) (dueAt : DateTime) (now : Instant) : Except PyError Task := do
  raiseIf (task.status ∈ [TaskStatus.completed, .cancelled, .archived])
    (.invalidTransition ("cannot postpone a " ++ task.status.value ++ " task"))
  let updated : Task :=
    { task with dueAt := some dueAt, version := task.version + 1, updatedAt := some now }
  updated.validate
  return updated

/-! ### Notes -/

structure NoteAttachment where
  id : String
  filename : String
  mediaType : String
  sizeBytes : Int
  contentRef : String
  valid : isBlank id = false ∧ id.length ≤ 160 ∧ isBlank filename = false ∧
    filename.length ≤ 500 ∧ isBlank mediaType = false ∧ mediaType.length ≤ 200 ∧
    isBlank contentRef = false ∧ contentRef.length ≤ 500
  size_valid : 0 ≤ sizeBytes ∧ sizeBytes ≤ 10737418240
deriving DecidableEq, Repr

/-- One named value of a content block. -/
structure NoteField where
  name : String
  value : String
  name_valid : isBlank name = false ∧ name.length ≤ 80
  value_valid : isBlank value = false ∧ value.length ≤ 200000
deriving DecidableEq, Repr

structure NoteContentBlock where
  name : String
  body : String := ""
  fields : List NoteField := []
  id : String := ""
  name_valid : isBlank name = false ∧ name.length ≤ 120
  id_valid : id.length ≤ 160
  body_valid : body.length ≤ 200000 ∧ (isBlank body = true → fields ≠ [])
  fields_nodup : (fields.map NoteField.name).Nodup
deriving Repr

/-- `NoteContentBlock(…)`, with its `__post_init__`. -/
def NoteContentBlock.checked (name body : String) (fields : List NoteField) (id : String) :
    Except PyError NoteContentBlock :=
  if name_valid : isBlank name = false ∧ name.length ≤ 120 then
    if id_valid : id.length ≤ 160 then
      if body_valid : body.length ≤ 200000 ∧ (isBlank body = true → fields ≠ []) then
        if fields_nodup : (fields.map NoteField.name).Nodup then
          .ok { name, body, fields, id, name_valid, id_valid, body_valid, fields_nodup }
        else .error (.validation "note field names must be unique within a block")
      else .error (.validation "note content block requires body or fields")
    else .error (.validation "note content block id is invalid")
  else .error (.validation "note content block name is invalid")

structure Note where
  id : String
  ownerUserId : String
  title : String
  body : String
  categoryPath : List String := ["未分类"]
  contentBlocks : List NoteContentBlock := []
  creatorUserId : Option String := none
  tags : List String := []
  attachments : List NoteAttachment := []
  classification : DataClassification := .personal
  version : Int := 1
  createdAt : Option Instant := none
  updatedAt : Option Instant := none
deriving Repr

/-- `Note.__post_init__`. -/
def Note.validate (note : Note) : Except PyError Unit := do
  raiseIf (isBlank note.id = true ∨ isBlank note.ownerUserId = true)
    (.validation "note id and owner are required")
  raiseIf (note.creatorUserId.any isBlank = true) (.validation "note creator must not be empty")
  raiseIf (isBlank note.title = true ∧ isBlank note.body = true)
    (.validation "note title or body is required")
  raiseIf (note.categoryPath = [] ∨ 8 < note.categoryPath.length)
    (.validation "note category path is invalid")
  raiseIf (note.categoryPath.any (fun part => isBlank part || decide (80 < part.length)) = true)
    (.validation "note category path is invalid")
  raiseIf (¬ ((note.contentBlocks.map NoteContentBlock.id).filter (· ≠ "")).Nodup)
    (.validation "note content block ids must be unique")
  raiseIf (note.version < 1) (.validation "version must be positive")
  raiseIf (note.tags.any isBlank = true) (.validation "tags must not be empty")
  raiseIf (¬ note.tags.Nodup) (.validation "tags must be unique")
  raiseIf (¬ (note.attachments.map NoteAttachment.id).Nodup)
    (.validation "note attachment ids must be unique")
  requireOrdinaryStorage note.classification

end Zhixu
