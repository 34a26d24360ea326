import Zhixu.Notes.Tables
import Zhixu.Framework.Rows

/-!
# What a write of a note does to its tables

One specification for each writer, in the terms of `Framework.Rows`: the tables that notes share grow
(`Table.Grows`), and of the rows that hang on notes those of the written one are replaced
(`Replaced`). `Parted` collects what the writers after the row of the note do together, and is all
that the reading back of notes uses of them. `writeParts_parted` is its one proof.

The categories come first and are apart. A chain of them is described by `PathTo`, which reads it from
its lower end as `_category_path` does, and `ensurePathFrom_path` is the induction over the loop that
makes it: what has been found or made so far is a path to the last category, under the names that have
been read, without the space around them.
-/

open Framework

namespace Zhixu

namespace NoteTables

/-! ### Inserts -/

section Inserts

variable {ρ κ : Type} {key : ρ → κ} [DecidableEq κ]

theorem insertRow_ok {table table' : Table ρ key} {row : ρ} :
    insertRow table row = .ok table' ↔ table.insert? row = some table' := by
  unfold insertRow
  cases table.insert? row with
  | none => simp
  | some _ => simp

/-- What `executemany` inserts is appended. -/
theorem insertRows_rows {rows : List ρ} {table table' : Table ρ key}
    (h : insertRows table rows = .ok table') : table'.rows = table.rows ++ rows := by
  unfold insertRows at h
  induction rows generalizing table with
  | nil =>
    obtain rfl := Except.ok.inj h
    rw [List.append_nil]
  | cons row rows ih =>
    rw [List.foldlM_cons] at h
    obtain ⟨next, hnext, h⟩ := bind_eq_ok.mp h
    rw [ih h, Table.rows_insert (insertRow_ok.mp hnext), List.append_assoc, List.singleton_append]

end Inserts

/-! ### Categories -/

section Categories

variable {categories categories' : Table CategoryRow CategoryRow.id}

/-- The names of a category and of what is above it, the uppermost first. -/
inductive PathTo (categories : Table CategoryRow CategoryRow.id) : Option String → List String → Prop
  | root : PathTo categories none []
  | under {row : CategoryRow} {names : List String} (found : row ∈ categories.rows)
      (above : PathTo categories row.parentId names) :
      PathTo categories (some row.id) (names ++ [row.name])

theorem PathTo.grows {categoryId : Option String} {names : List String}
    (h : PathTo categories categoryId names) (hgrows : categories.Grows categories') :
    PathTo categories' categoryId names := by
  induction h with
  | root => exact .root
  | under found above ih => exact .under (hgrows.mem found) ih

/-- A category has one path. -/
theorem PathTo.unique {categoryId : Option String} {names names' : List String}
    (h : PathTo categories categoryId names) (h' : PathTo categories categoryId names') :
    names = names' := by
  induction h generalizing names' with
  | root =>
    cases h' with
    | root => rfl
  | @under row names found above ih =>
    generalize hid : some row.id = categoryId at h'
    cases h' with
    | root => exact absurd hid (by simp)
    | @under row' names' found' above' =>
      obtain rfl := categories.eq_of_key_eq found found' (Option.some.inj hid)
      rw [ih above']

/-- The recursive query finds the path, when it may take as many steps as the path is long. -/
theorem PathTo.chainOf {categoryId : Option String} {names : List String}
    (h : PathTo categories categoryId names) {id : String} (hid : categoryId = some id) {fuel : ℕ}
    (hfuel : names.length ≤ fuel) : chainOf categories fuel id = names := by
  induction h generalizing id fuel with
  | root => exact absurd hid (by simp)
  | @under row names found above ih =>
    obtain rfl := Option.some.inj hid
    rw [List.length_append, List.length_singleton] at hfuel
    obtain ⟨fuel, rfl⟩ : ∃ n, fuel = n + 1 := ⟨fuel - 1, by omega⟩
    have hfound : categories.find? row.id = some row := Table.find?_of_mem found
    cases hparent : row.parentId with
    | none =>
      rw [hparent] at above
      cases above
      simp [NoteTables.chainOf, hfound, hparent]
    | some parentId =>
      have habove := ih hparent (show names.length ≤ fuel by omega)
      simp [NoteTables.chainOf, hfound, hparent, habove]

/-- Every category hangs, over others, on an uppermost one, and no path is longer than there are
categories. -/
def Rooted (categories : Table CategoryRow CategoryRow.id) : Prop :=
  ∀ row ∈ categories.rows, row.id ≠ "" ∧
    ∃ names, PathTo categories (some row.id) names ∧ names.length ≤ categories.rows.length

theorem Rooted.length_le (h : Rooted categories) {categoryId : Option String} {names : List String}
    (hpath : PathTo categories categoryId names) : names.length ≤ categories.rows.length := by
  cases hpath with
  | root => exact Nat.zero_le _
  | @under row names found above =>
    obtain ⟨-, names', hpath', hlength⟩ := h row found
    rw [(PathTo.under found above).unique hpath']
    exact hlength

/-- A category under a path may be added. -/
theorem Rooted.insert (h : Rooted categories) {row : CategoryRow} (hid : row.id ≠ "")
    {names : List String} (habove : PathTo categories row.parentId names)
    (hinsert : categories.insert? row = some categories') : Rooted categories' := by
  have hgrows := Table.grows_insert hinsert
  have hrows := Table.rows_insert hinsert
  intro row' hrow'
  rw [hrows, List.mem_append, List.mem_singleton] at hrow'
  rcases hrow' with hold | rfl
  · obtain ⟨hid', names', hpath, hlength⟩ := h row' hold
    refine ⟨hid', names', hpath.grows hgrows, ?_⟩
    rw [hrows, List.length_append]
    exact Nat.le_add_right_of_le hlength
  · have hmem : row' ∈ categories'.rows := by
      rw [hrows]
      simp
    refine ⟨hid, names ++ [row'.name], .under hmem (habove.grows hgrows), ?_⟩
    rw [hrows, List.length_append, List.length_append]
    exact Nat.add_le_add_right (h.length_le habove) 1

end Categories

/-- What is read of a category is its path. -/
theorem categoryPath_of_path {store : NoteTables} (hrooted : Rooted store.categories)
    {categoryId : String} {names : List String}
    (hpath : PathTo store.categories (some categoryId) names) :
    store.categoryPath (some categoryId) = names := by
  have hlength := hrooted.length_le hpath
  have hchain := hpath.chainOf rfl hlength
  obtain ⟨hid, hne⟩ : categoryId ≠ "" ∧ names ≠ [] := by
    generalize hsome : some categoryId = found at hpath
    cases hpath with
    | root => exact absurd hsome (by simp)
    | @under row names found above =>
      obtain rfl := Option.some.inj hsome
      exact ⟨(hrooted row found).1, by simp⟩
  unfold NoteTables.categoryPath
  simp only [hid, hchain, if_false]

theorem insertCategory_spec {store store' : NoteTables} {row : CategoryRow}
    (h : store.insertCategory row = .ok store') (hrooted : Rooted store.categories)
    (hid : row.id ≠ "") {names : List String} (habove : PathTo store.categories row.parentId names) :
    ∃ categories, store' = { store with categories } ∧ store.categories.Grows categories ∧
      Rooted categories := by
  -- an insert that is ignored leaves the table as it is
  have hsame : ∃ categories, store = { store with categories } ∧
      store.categories.Grows categories ∧ Rooted categories :=
    ⟨store.categories, rfl, Table.Grows.refl _, hrooted⟩
  unfold insertCategory at h
  by_cases hfound : (store.findCategory row.ownerUserId row.parentId row.name).isSome = true
  · rw [if_pos hfound] at h
    cases h
    exact hsame
  · rw [if_neg hfound] at h
    cases hinsert : store.categories.insert? row with
    | none =>
      simp only [hinsert] at h
      cases h
      exact hsame
    | some categories =>
      simp only [hinsert] at h
      obtain ⟨-, h⟩ := raiseIf_bind_ok.mp h
      cases h
      exact ⟨categories, rfl, Table.grows_insert hinsert, hrooted.insert hid habove hinsert⟩

/-- **The loop of `_ensure_category_path`**, by induction on the names that are left. -/
theorem ensurePathFrom_path {sha256 : String → String} {ownerUserId : String} {createdAt : Instant}
    {rawNames : List String} {parentId found : Option String} {store store' : NoteTables}
    (h : ensurePathFrom sha256 ownerUserId createdAt parentId rawNames store = .ok (found, store'))
    (hrooted : Rooted store.categories) {above : List String}
    (habove : PathTo store.categories parentId above) :
    ∃ categories, store' = { store with categories } ∧ store.categories.Grows categories ∧
      Rooted categories ∧ PathTo categories found (above ++ rawNames.map strip) := by
  induction rawNames generalizing parentId store above with
  | nil =>
    cases h
    rw [List.map_nil, List.append_nil]
    exact ⟨_, rfl, Table.Grows.refl _, hrooted, habove⟩
  | cons rawName rawNames ih =>
    obtain ⟨next, hnext, h⟩ := bind_eq_ok.mp h
    obtain ⟨categories, rfl, hgrows, hrooted'⟩ :=
      insertCategory_spec hnext hrooted (by simp [categoryIdOf]) habove
    cases hrow : findCategory { store with categories } ownerUserId parentId (strip rawName) with
    | none =>
      simp only [hrow] at h
      exact absurd h (by simp [throw, throwThe, MonadExceptOf.throw])
    | some row =>
      simp only [hrow] at h
      -- the row that was found is the next of the path, whether it was made here or not
      have hmem : row ∈ categories.rows := List.mem_of_find?_eq_some hrow
      have hcond := List.find?_some hrow
      simp only [Bool.and_eq_true, decide_eq_true_eq] at hcond
      obtain ⟨⟨-, hparent⟩, hname⟩ := hcond
      have hpath : PathTo categories (some row.id) (above ++ [strip rawName]) := by
        rw [← hname]
        exact .under hmem (hparent ▸ habove.grows hgrows)
      obtain ⟨categories', rfl, hgrows', hrooted'', hpath'⟩ := ih h hrooted' hpath
      refine ⟨categories', rfl, hgrows.trans hgrows', hrooted'', ?_⟩
      rw [List.append_assoc, List.singleton_append] at hpath'
      exact hpath'

theorem ensureCategoryPath_spec {sha256 : String → String} {note : Note} {categoryId : String}
    {store store' : NoteTables} (h : ensureCategoryPath sha256 note store = .ok (categoryId, store'))
    (hrooted : Rooted store.categories) :
    ∃ categories, store' = { store with categories } ∧ store.categories.Grows categories ∧
      Rooted categories ∧ PathTo categories (some categoryId) (note.categoryPath.map strip) := by
  unfold ensureCategoryPath at h
  cases hcreated : note.createdAt.or note.updatedAt with
  | none => simp [hcreated] at h
  | some createdAt =>
    simp only [hcreated] at h
    obtain ⟨⟨found, next⟩, hfound, h⟩ := bind_eq_ok.mp h
    cases found with
    | none => exact absurd h (by simp [throw, throwThe, MonadExceptOf.throw])
    | some id =>
      cases h
      exact ensurePathFrom_path hfound hrooted .root

/-! ### Tags -/

theorem ensureTag_spec {store store' : NoteTables} {ownerUserId name : String} {id : ℕ}
    (h : store.ensureTag ownerUserId name = .ok (id, store')) :
    ∃ tags, store' = { store with tags } ∧ store.tags.Grows tags ∧
      ∃ tag, tags.find? id = some tag ∧ tag.name = name := by
  unfold ensureTag at h
  cases hfound : store.tags.rows.find? fun row => row.ownerUserId = ownerUserId && row.name = name with
  | some row =>
    simp only [hfound] at h
    cases h
    have hname := List.find?_some hfound
    simp only [Bool.and_eq_true, decide_eq_true_eq] at hname
    exact ⟨store.tags, rfl, Table.Grows.refl _, row,
      Table.find?_of_mem (List.mem_of_find?_eq_some hfound), hname.2⟩
  | none =>
    simp only [hfound] at h
    obtain ⟨-, h⟩ := raiseIf_bind_ok.mp h
    obtain ⟨tags, htags, h⟩ := bind_eq_ok.mp h
    cases h
    have hinsert := insertRow_ok.mp htags
    exact ⟨tags, rfl, Table.grows_insert hinsert, _, Table.find?_insert_self hinsert, rfl⟩

/-- A row of `resource_tags` gives a note the tag of a name. -/
def Names (note : Note) (tags : Table TagRow TagRow.id) (row : ResourceTagRow) (name : String) :
    Prop :=
  row.resourceKind = "note" ∧ row.resourceId = note.id ∧
    ∃ tag, tags.find? row.tagId = some tag ∧ tag.name = name

theorem Names.grows {note : Note} {tags tags' : Table TagRow TagRow.id} {row : ResourceTagRow}
    {name : String} (h : Names note tags row name) (hgrows : tags.Grows tags') :
    Names note tags' row name := by
  obtain ⟨hkind, hid, tag, htag, hname⟩ := h
  exact ⟨hkind, hid, tag, hgrows _ _ htag, hname⟩

/-- The rows of `resource_tags` of a note. -/
def isTagOf (noteId : String) (row : ResourceTagRow) : Bool :=
  row.resourceKind = "note" && row.resourceId = noteId

theorem Names.isTagOf {note : Note} {tags : Table TagRow TagRow.id} {row : ResourceTagRow}
    {name : String} (h : Names note tags row name) : isTagOf note.id row = true := by
  obtain ⟨hkind, hid, -⟩ := h
  simp [NoteTables.isTagOf, hkind, hid]

theorem writeTag_spec {note : Note} {store store' : NoteTables} {name : String}
    (h : writeTag note store name = .ok store') :
    ∃ tags resourceTags row, store' = { store with tags, resourceTags } ∧
      store.tags.Grows tags ∧ resourceTags.rows = store.resourceTags.rows ++ [row] ∧
      Names note tags row name := by
  obtain ⟨⟨id, next⟩, hensure, h⟩ := bind_eq_ok.mp h
  obtain ⟨resourceTags, hinsert, h⟩ := bind_eq_ok.mp h
  cases h
  obtain ⟨tags, rfl, hgrows, tag, htag, hname⟩ := ensureTag_spec hensure
  exact ⟨tags, resourceTags, _, rfl, hgrows, Table.rows_insert (insertRow_ok.mp hinsert), rfl, rfl,
    tag, htag, hname⟩

/-- The loop of `_write_tags`, by induction on the names: one row for each, in their order. -/
theorem writeTag_fold {note : Note} {names : List String} {store store' : NoteTables}
    (h : names.foldlM (writeTag note) store = .ok store') :
    ∃ tags resourceTags rows, store' = { store with tags, resourceTags } ∧
      store.tags.Grows tags ∧ resourceTags.rows = store.resourceTags.rows ++ rows ∧
      List.Forall₂ (Names note tags) rows names := by
  induction names generalizing store with
  | nil =>
    cases h
    exact ⟨_, _, [], rfl, Table.Grows.refl _, (List.append_nil _).symm, List.Forall₂.nil⟩
  | cons name names ih =>
    rw [List.foldlM_cons] at h
    obtain ⟨next, hnext, h⟩ := bind_eq_ok.mp h
    obtain ⟨tags, resourceTags, row, rfl, hgrows, hrows, hrow⟩ := writeTag_spec hnext
    obtain ⟨tags', resourceTags', rows, rfl, hgrows', hrows', hnamed⟩ := ih h
    refine ⟨tags', resourceTags', row :: rows, rfl, hgrows.trans hgrows', ?_,
      List.Forall₂.cons (hrow.grows hgrows') hnamed⟩
    change resourceTags'.rows = resourceTags.rows ++ rows at hrows'
    rw [hrows', hrows, List.append_assoc, List.singleton_append]

theorem writeTags_spec {note : Note} {store store' : NoteTables}
    (h : writeTags note store = .ok store') :
    ∃ tags resourceTags rows, store' = { store with tags, resourceTags } ∧
      store.tags.Grows tags ∧
      Replaced (isTagOf note.id) rows store.resourceTags.rows resourceTags.rows ∧
      List.Forall₂ (Names note tags) rows note.tags := by
  obtain ⟨tags, resourceTags, rows, rfl, hgrows, hrows, hnamed⟩ := writeTag_fold h
  have hown : ∀ row ∈ rows, isTagOf note.id row = true :=
    ((List.forall₂_and_left _ _).mp (hnamed.imp fun _ _ hrow => ⟨hrow.isTagOf, hrow⟩)).1
  exact ⟨tags, resourceTags, rows, rfl, hgrows, ⟨hrows, hown⟩, hnamed⟩

/-! ### Attachments -/

theorem writeAttachments_spec {note : Note} {store store' : NoteTables}
    (h : writeAttachments note store = .ok store') :
    ∃ attachments, store' = { store with attachments } ∧
      Replaced (fun row : AttachmentRow => row.noteId = note.id)
        (note.attachments.map fun attachment => { noteId := note.id, attachment })
        store.attachments.rows attachments.rows := by
  obtain ⟨attachments, hinsert, h⟩ := bind_eq_ok.mp h
  cases h
  refine ⟨attachments, rfl, insertRows_rows hinsert, fun row hrow => ?_⟩
  obtain ⟨attachment, -, rfl⟩ := List.mem_map.mp hrow
  simp

/-! ### Content blocks -/

/-- The row that a block at a position is written as. -/
def blockRow (note : Note) (createdAt updatedAt : Instant) (block : NoteContentBlock × ℕ) :
    BlockRow where
  id := block.1.id
  noteId := note.id
  name := block.1.name
  body := block.1.body
  position := block.2
  createdAt := createdAt
  updatedAt := updatedAt

/-- The rows that the fields of a block are written as. -/
def fieldRows (block : NoteContentBlock) : List FieldRow :=
  block.fields.zipIdx.map fun field => {
    blockId := block.id, field := field.1, position := field.2 }

theorem writeBlock_spec {note : Note} {createdAt updatedAt : Instant} {store store' : NoteTables}
    {block : NoteContentBlock × ℕ}
    (h : writeBlock note createdAt updatedAt store block = .ok store') :
    ∃ blocks fields, store' = { store with blocks, fields } ∧
      blocks.rows = store.blocks.rows ++ [blockRow note createdAt updatedAt block] ∧
      fields.rows = store.fields.rows ++ fieldRows block.1 := by
  obtain ⟨-, h⟩ := raiseIf_bind_ok.mp h
  obtain ⟨blocks, hblocks, h⟩ := bind_eq_ok.mp h
  obtain ⟨fields, hfields, h⟩ := bind_eq_ok.mp h
  cases h
  exact ⟨blocks, fields, rfl, Table.rows_insert (insertRow_ok.mp hblocks), insertRows_rows hfields⟩

/-- The loop of `_write_content_blocks`, by induction on the blocks. -/
theorem writeBlock_fold {note : Note} {createdAt updatedAt : Instant}
    {placed : List (NoteContentBlock × ℕ)} {store store' : NoteTables}
    (h : placed.foldlM (writeBlock note createdAt updatedAt) store = .ok store') :
    ∃ blocks fields, store' = { store with blocks, fields } ∧
      blocks.rows = store.blocks.rows ++ placed.map (blockRow note createdAt updatedAt) ∧
      fields.rows = store.fields.rows ++ (placed.map Prod.fst).flatMap fieldRows := by
  induction placed generalizing store with
  | nil =>
    cases h
    exact ⟨_, _, rfl, (List.append_nil _).symm, (List.append_nil _).symm⟩
  | cons block placed ih =>
    rw [List.foldlM_cons] at h
    obtain ⟨next, hnext, h⟩ := bind_eq_ok.mp h
    obtain ⟨blocks, fields, rfl, hblocks, hfields⟩ := writeBlock_spec hnext
    obtain ⟨blocks', fields', rfl, hblocks', hfields'⟩ := ih h
    change blocks'.rows = blocks.rows ++ _ at hblocks'
    change fields'.rows = fields.rows ++ _ at hfields'
    refine ⟨blocks', fields', rfl, ?_, ?_⟩
    · rw [hblocks', hblocks, List.append_assoc, List.map_cons, List.singleton_append]
    · rw [hfields', hfields, List.append_assoc, List.map_cons, List.flatMap_cons]

/-- The ids of the blocks of a note. -/
def blockIds (store : NoteTables) (noteId : String) : List String :=
  (store.blocks.rows.filter fun row => row.noteId = noteId).map BlockRow.id

theorem writeContentBlocks_spec {note : Note} {store store' : NoteTables}
    (h : writeContentBlocks note store = .ok store') :
    ∃ blocks fields createdAt updatedAt, store' = { store with blocks, fields } ∧
      Replaced (fun row : BlockRow => row.noteId = note.id)
        (note.contentBlocks.zipIdx.map (blockRow note createdAt updatedAt))
        store.blocks.rows blocks.rows ∧
      fields.rows = (store.fields.rows.filter fun row => !decide (row.blockId ∈ store.blockIds note.id))
        ++ note.contentBlocks.flatMap fieldRows := by
  unfold writeContentBlocks at h
  cases hcreated : note.createdAt.or note.updatedAt with
  | none => simp [hcreated] at h
  | some createdAt =>
    cases hupdated : note.updatedAt.or note.createdAt with
    | none => simp [hcreated, hupdated] at h
    | some updatedAt =>
      simp only [hcreated, hupdated] at h
      obtain ⟨blocks, fields, rfl, hblocks, hfields⟩ := writeBlock_fold h
      rw [List.zipIdx_map_fst] at hfields
      refine ⟨blocks, fields, createdAt, updatedAt, rfl, ⟨hblocks, fun row hrow => ?_⟩, hfields⟩
      obtain ⟨block, -, rfl⟩ := List.mem_map.mp hrow
      simp [blockRow]

/-! ### All that hangs on a note -/

/-- **What a write does to the tables that hang on the note.** -/
structure Parted (note : Note) (store store' : NoteTables) : Prop where
  tags : store.tags.Grows store'.tags
  tagged : ∃ rows, Replaced (isTagOf note.id) rows store.resourceTags.rows store'.resourceTags.rows ∧
    List.Forall₂ (Names note store'.tags) rows note.tags
  attached : Replaced (fun row : AttachmentRow => row.noteId = note.id)
    (note.attachments.map fun attachment => { noteId := note.id, attachment })
    store.attachments.rows store'.attachments.rows
  blocks : ∃ createdAt updatedAt, Replaced (fun row : BlockRow => row.noteId = note.id)
    (note.contentBlocks.zipIdx.map (blockRow note createdAt updatedAt))
    store.blocks.rows store'.blocks.rows
  fields : store'.fields.rows =
    (store.fields.rows.filter fun row => !decide (row.blockId ∈ store.blockIds note.id)) ++
      note.contentBlocks.flatMap fieldRows
  fts : store'.fts = store.fts.filter (fun row => row.noteId ≠ note.id) ++
    [{ noteId := note.id, ownerUserId := note.ownerUserId, title := note.title
       body := indexedText note }]

theorem writeParts_parted {note : Note} {store store' : NoteTables}
    (h : writeParts note store = .ok store') :
    Parted note store store' ∧ store'.users = store.users ∧ store'.notes = store.notes ∧
      store'.categories = store.categories := by
  obtain ⟨tagged, htags, h⟩ := bind_eq_ok.mp h
  obtain ⟨attached, hattachments, h⟩ := bind_eq_ok.mp h
  obtain ⟨filled, hblocks, h⟩ := bind_eq_ok.mp h
  cases h
  obtain ⟨tags, resourceTags, rows, rfl, hgrows, hreplaced, hnamed⟩ := writeTags_spec htags
  obtain ⟨attachments, rfl, hattached⟩ := writeAttachments_spec hattachments
  obtain ⟨blocks, fields, createdAt, updatedAt, rfl, hblocks, hfields⟩ :=
    writeContentBlocks_spec hblocks
  refine ⟨?_, rfl, rfl, rfl⟩
  exact {
    tags := hgrows
    tagged := ⟨rows, hreplaced, hnamed⟩
    attached := hattached
    blocks := ⟨createdAt, updatedAt, hblocks⟩
    fields := hfields
    fts := rfl }

end NoteTables

end Zhixu
