import Zhixu.Storage.Repositories
import Zhixu.Storage.Users

/-!
# The tables of a note

Elsewhere in this development a stored note is one record. Here it is what it is in the database: a
row of `notes`, a chain of rows of `note_categories` that all notes of an owner share, rows of
`note_content_blocks` and `note_content_fields`, rows of `resource_tags` that refer to the `tags` of
the owner, rows of `note_attachments`, and a row of the index `notes_fts`.

A write of a note is one transaction. It finds or makes the chain of categories, writes the row of the
note, and replaces all that hangs on it: what was there is deleted and what the note has is inserted.
A constraint that is violated ends the transaction, and nothing has been written.
-/

open Framework

namespace Zhixu

/-! ### The rows -/

/-- `notes`. -/
structure NoteRow where
  id : String
  ownerUserId : String
  creatorUserId : Option String
  title : String
  body : String
  classification : DataClassification
  version : Int
  createdAt : Instant
  updatedAt : Instant
  categoryId : Option String
deriving DecidableEq, Repr

/-- `note_categories`. -/
structure CategoryRow where
  id : String
  ownerUserId : String
  parentId : Option String
  name : String
  createdAt : Instant
deriving DecidableEq, Repr

/-- `note_content_blocks`. -/
structure BlockRow where
  id : String
  noteId : String
  name : String
  body : String
  position : ℕ
  createdAt : Instant
  updatedAt : Instant
deriving DecidableEq, Repr

/-- `note_content_fields`, with the name and the value as the field they make. -/
structure FieldRow where
  blockId : String
  field : NoteField
  position : ℕ
deriving DecidableEq, Repr

/-- `tags`. -/
structure TagRow where
  id : ℕ
  ownerUserId : String
  name : String
deriving DecidableEq, Repr

/-- `resource_tags`. -/
structure ResourceTagRow where
  resourceKind : String
  resourceId : String
  tagId : ℕ
deriving DecidableEq, Repr

/-- `note_attachments`, with the columns as the attachment they make. -/
structure AttachmentRow where
  noteId : String
  attachment : NoteAttachment
deriving DecidableEq, Repr

/-- `notes_fts`. -/
structure FtsRow where
  noteId : String
  ownerUserId : String
  title : String
  body : String
deriving DecidableEq, Repr

def FieldRow.key (row : FieldRow) : String × String := (row.blockId, row.field.name)

def ResourceTagRow.key (row : ResourceTagRow) : String × String × ℕ :=
  (row.resourceKind, row.resourceId, row.tagId)

def AttachmentRow.key (row : AttachmentRow) : String × String := (row.noteId, row.attachment.id)

/-- The tables that notes are kept in, and the ids of the users they refer to. -/
structure NoteTables where
  users : List String := []
  notes : Table NoteRow NoteRow.id := ∅
  categories : Table CategoryRow CategoryRow.id := ∅
  blocks : Table BlockRow BlockRow.id := ∅
  fields : Table FieldRow FieldRow.key := ∅
  tags : Table TagRow TagRow.id := ∅
  resourceTags : Table ResourceTagRow ResourceTagRow.key := ∅
  attachments : Table AttachmentRow AttachmentRow.key := ∅
  fts : List FtsRow := []

namespace NoteTables

/-- `INSERT`. -/
def insertRow {ρ κ : Type} {key : ρ → κ} [DecidableEq κ] (table : Table ρ key) (row : ρ) :
    Except PyError (Table ρ key) :=
  match table.insert? row with
  | some table => .ok table
  | none => .error .integrity

/-- `executemany` of an `INSERT`. -/
def insertRows {ρ κ : Type} {key : ρ → κ} [DecidableEq κ] (table : Table ρ key) (rows : List ρ) :
    Except PyError (Table ρ key) :=
  rows.foldlM insertRow table

/-! ### Reading -/

/-- `_tags`. -/
def tagsOf (store : NoteTables) (noteId : String) : List String :=
  ((store.resourceTags.rows.filter fun row =>
      row.resourceKind = "note" && row.resourceId = noteId).filterMap fun row =>
    (store.tags.find? row.tagId).map TagRow.name).insertionSort fun a b => a ≤ b

/-- `_attachments`. -/
def attachmentsOf (store : NoteTables) (noteId : String) : List NoteAttachment :=
  (store.attachments.select (fun row => row.noteId = noteId)
    fun a b => a.attachment.id ≤ b.attachment.id).map AttachmentRow.attachment

/-- The recursive query of `_category_path`: a category and what is above it, the uppermost first. A
chain has no more categories than there are, which bounds the recursion. -/
def chainOf (categories : Table CategoryRow CategoryRow.id) : ℕ → String → List String
  | 0, _ => []
  | fuel + 1, categoryId =>
    match categories.find? categoryId with
    | none => []
    | some row =>
      match row.parentId with
      | none => [row.name]
      | some parentId => chainOf categories fuel parentId ++ [row.name]

/-- `_category_path`. -/
def categoryPath (store : NoteTables) (categoryId : Option String) : List String :=
  match categoryId with
  | none => ["未分类"]
  | some categoryId =>
    if categoryId = "" then ["未分类"]
    else
      match chainOf store.categories store.categories.rows.length categoryId with
      | [] => ["未分类"]
      | names => names

/-- The fields of a block. -/
def fieldsOf (store : NoteTables) (blockId : String) : List NoteField :=
  (store.fields.select (fun row => row.blockId = blockId) fun a b =>
    decide (a.position < b.position) ||
      (decide (a.position = b.position) && decide (a.field.name ≤ b.field.name))).map FieldRow.field

/-- A block as it is loaded. -/
def loadBlock (store : NoteTables) (row : BlockRow) : Except PyError NoteContentBlock :=
  NoteContentBlock.checked row.name row.body (store.fieldsOf row.id) row.id

/-- `_content_blocks`. -/
def contentBlocks (store : NoteTables) (noteId : String) : Except PyError (List NoteContentBlock) :=
  (store.blocks.select (fun row => row.noteId = noteId) fun a b =>
    decide (a.position < b.position) ||
      (decide (a.position = b.position) && decide (a.id ≤ b.id))).mapM store.loadBlock

/-- `_from_row`. -/
def fromRow (store : NoteTables) (row : NoteRow) : Except PyError Note := do
  let contentBlocks ← store.contentBlocks row.id
  let note : Note := {
    id := row.id
    ownerUserId := row.ownerUserId
    creatorUserId := creatorOr row.creatorUserId row.ownerUserId
    title := row.title
    body := row.body
    categoryPath := store.categoryPath row.categoryId
    contentBlocks
    tags := store.tagsOf row.id
    attachments := store.attachmentsOf row.id
    classification := row.classification
    version := row.version
    createdAt := some row.createdAt
    updatedAt := some row.updatedAt }
  note.validate
  return note

/-- `get`. -/
def get (store : NoteTables) (noteId : String) : Except PyError (Option Note) :=
  match store.notes.find? noteId with
  | none => .ok none
  | some row => some <$> store.fromRow row

/-! ### Writing -/

/-- `tuple(sorted(set(note.tags)))`. -/
def sortedTags (tags : List String) : List String := NoteRepository.sortedTags tags

/-- The tag of an owner, made if it is not there. -/
def ensureTag (store : NoteTables) (ownerUserId name : String) : Except PyError (ℕ × NoteTables) :=
  match store.tags.rows.find? fun row => row.ownerUserId = ownerUserId && row.name = name with
  | some row => .ok (row.id, store)
  | none => do
    let id := store.tags.rows.foldl (fun next row => max next row.id) 0 + 1
    raiseIf (ownerUserId ∉ store.users) .integrity
    let tags ← insertRow store.tags { id, ownerUserId, name }
    return (id, { store with tags })

/-- One pass of the loop of `_write_tags`. -/
def writeTag (note : Note) (store : NoteTables) (name : String) : Except PyError NoteTables := do
  let tag ← store.ensureTag note.ownerUserId name
  let resourceTags ← insertRow tag.2.resourceTags
    { resourceKind := "note", resourceId := note.id, tagId := tag.1 }
  return { tag.2 with resourceTags }

/-- `_write_tags`. -/
def writeTags (note : Note) (store : NoteTables) : Except PyError NoteTables :=
  note.tags.foldlM (writeTag note) { store with
    resourceTags := store.resourceTags.deleteWhere fun row =>
      row.resourceKind = "note" && row.resourceId = note.id }

/-- `_write_attachments`. -/
def writeAttachments (note : Note) (store : NoteTables) : Except PyError NoteTables := do
  let attachments ← insertRows (store.attachments.deleteWhere fun row => row.noteId = note.id)
    (note.attachments.map fun attachment => { noteId := note.id, attachment })
  return { store with attachments }

/-- `_category_id`. -/
def categoryIdOf (sha256 : String → String) (ownerUserId : String) (parentId : Option String)
    (name : String) : String :=
  "category_" ++ takeChars 32 (sha256 (ownerUserId ++ "\x1f" ++ parentId.getD "" ++ "\x1f" ++ name))

/-- The category of a name under a parent. -/
def findCategory (store : NoteTables) (ownerUserId : String) (parentId : Option String)
    (name : String) : Option CategoryRow :=
  store.categories.rows.find? fun row =>
    row.ownerUserId = ownerUserId && row.parentId = parentId && row.name = name

/-- `INSERT OR IGNORE INTO note_categories`. Only a foreign key is not ignored. -/
def insertCategory (store : NoteTables) (row : CategoryRow) : Except PyError NoteTables :=
  if (store.findCategory row.ownerUserId row.parentId row.name).isSome then .ok store
  else
    match store.categories.insert? row with
    | none => .ok store
    | some categories => do
      raiseIf (row.ownerUserId ∉ store.users ∨
        ∃ parentId ∈ row.parentId, store.categories.find? parentId = none) .integrity
      return { store with categories }

/-- The loop of `_ensure_category_path`. -/
def ensurePathFrom (sha256 : String → String) (ownerUserId : String) (createdAt : Instant) :
    Option String → List String → NoteTables → Except PyError (Option String × NoteTables)
  | parentId, [], store => .ok (parentId, store)
  | parentId, rawName :: names, store => do
    let name := strip rawName
    let store ← store.insertCategory {
      id := categoryIdOf sha256 ownerUserId parentId name, ownerUserId, parentId, name, createdAt }
    match store.findCategory ownerUserId parentId name with
    | none => throw .assertion
    | some row => ensurePathFrom sha256 ownerUserId createdAt (some row.id) names store

/-- `_ensure_category_path`. -/
def ensureCategoryPath (sha256 : String → String) (note : Note) (store : NoteTables) :
    Except PyError (String × NoteTables) :=
  match note.createdAt.or note.updatedAt with
  | none => .error .assertion
  | some createdAt => do
    let found ← ensurePathFrom sha256 note.ownerUserId createdAt none note.categoryPath store
    match found.1 with
    | none => throw .assertion
    | some categoryId => return (categoryId, found.2)

/-- One pass of the loop of `_write_content_blocks`. -/
def writeBlock (note : Note) (createdAt updatedAt : Instant) (store : NoteTables)
    (block : NoteContentBlock × ℕ) : Except PyError NoteTables := do
  raiseIf (store.blocks.rows.any (fun row => row.noteId = note.id && row.name = block.1.name) = true)
    .integrity
  let blocks ← insertRow store.blocks {
    id := block.1.id, noteId := note.id, name := block.1.name, body := block.1.body
    position := block.2, createdAt, updatedAt }
  let fields ← insertRows store.fields
    (block.1.fields.zipIdx.map fun field => {
      blockId := block.1.id, field := field.1, position := field.2 })
  return { store with blocks, fields }

/-- `_write_content_blocks`. The fields of a block go with it. -/
def writeContentBlocks (note : Note) (store : NoteTables) : Except PyError NoteTables :=
  match note.createdAt.or note.updatedAt, note.updatedAt.or note.createdAt with
  | some createdAt, some updatedAt =>
    let gone := (store.blocks.rows.filter fun row => row.noteId = note.id).map BlockRow.id
    note.contentBlocks.zipIdx.foldlM (writeBlock note createdAt updatedAt) { store with
      blocks := store.blocks.deleteWhere fun row => row.noteId = note.id
      fields := store.fields.deleteWhere fun row => decide (row.blockId ∈ gone) }
  | _, _ => .error .assertion

/-- The text that `_write_fts` indexes. -/
def indexedText (note : Note) : String :=
  joinLines (note.categoryPath ++ [note.body] ++ note.contentBlocks.flatMap fun block =>
    [block.name, block.body] ++ block.fields.flatMap fun field => [field.name, field.value])

/-- `_write_fts`. -/
def writeFts (note : Note) (store : NoteTables) : NoteTables :=
  { store with
    fts := store.fts.filter (fun row => row.noteId ≠ note.id) ++
      [{ noteId := note.id, ownerUserId := note.ownerUserId, title := note.title
         body := indexedText note }] }

/-- What `create` and `update` write after the row of the note. -/
def writeParts (note : Note) (store : NoteTables) : Except PyError NoteTables := do
  let store ← writeTags note store
  let store ← writeAttachments note store
  let store ← writeContentBlocks note store
  return writeFts note store

/-- The note that `create` stores and returns. -/
def created (note : Note) (authorization : AuthorizedAction) : Note :=
  { note with
    tags := sortedTags note.tags
    version := 1
    createdAt := some authorization.authorizedAt
    updatedAt := some authorization.authorizedAt }

/-- `except sqlite3.IntegrityError: raise _raise_conflict(exc)`. -/
def orConflict {α : Type} (result : Except PyError α) : Except PyError α :=
  match result with
  | .error .integrity => .error integrityConflict
  | result => result

/-- `create`. -/
def create (sha256 : String → String) (note : Note) (authorization : AuthorizedAction)
    (store : NoteTables) : Except PyError (Note × NoteTables) := do
  requireAuthorization authorization .create "note" note.id note.ownerUserId note.classification
  let stored := created note authorization
  orConflict do
    let category ← ensureCategoryPath sha256 stored store
    raiseIf (stored.ownerUserId ∉ store.users ∨
      ∃ creatorUserId ∈ stored.creatorUserId, creatorUserId ∉ store.users) .integrity
    let notes ← insertRow category.2.notes {
      id := stored.id, ownerUserId := stored.ownerUserId, creatorUserId := stored.creatorUserId
      title := stored.title, body := stored.body, classification := stored.classification
      version := stored.version, createdAt := authorization.authorizedAt
      updatedAt := authorization.authorizedAt, categoryId := some category.1 }
    let store ← writeParts stored { category.2 with notes }
    return (stored, store)

/-- The note that `update` stores and returns. -/
def updated (note : Note) (authorization : AuthorizedAction) : Note :=
  { note with
    tags := sortedTags note.tags
    updatedAt := some authorization.authorizedAt }

/-- `update`. -/
def update (sha256 : String → String) (note : Note) (expectedVersion : Int)
    (authorization : AuthorizedAction) (store : NoteTables) : Except PyError (Note × NoteTables) := do
  requireAuthorization authorization .update "note" note.id note.ownerUserId note.classification
  raiseIf (note.version ≠ expectedVersion + 1)
    (.validation "updated note version must increment exactly once")
  let stored := updated note authorization
  let category ← ensureCategoryPath sha256 stored store
  let hits := fun row : NoteRow => decide (row.id = stored.id) &&
    (row.ownerUserId = stored.ownerUserId && decide (row.version = expectedVersion))
  raiseIf (category.2.notes.count hits ≠ 1)
    (.concurrencyConflict "note changed or does not exist")
  let notes := category.2.notes.updateWhere hits fun row => { row with
    title := stored.title
    body := stored.body
    classification := stored.classification
    version := stored.version
    updatedAt := authorization.authorizedAt
    categoryId := some category.1 }
  let store ← writeParts stored { category.2 with notes }
  return (stored, store)

end NoteTables

end Zhixu
