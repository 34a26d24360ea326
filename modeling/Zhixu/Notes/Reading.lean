import Zhixu.Domain.Spacing
import Zhixu.Notes.Writes
import Zhixu.Framework.Listing

/-!
# What is read of a note after a write

A note is read from the rows that hang on it, so that what is read after a write has two halves. Of
the note that was written, every reader finds what its writer put there, in the order that the reader
asks for (`Parted.tagsOf_own`, `Parted.attachmentsOf_own`, `Parted.contentBlocks_own`). Of every other
note it finds what it found before (`Parted.tagsOf_other` and its like).

The second half is not for nothing, as categories and tags are shared and fields do not say to which
note they belong. `Sound` is what it takes: whatever a row refers to is there. A field whose block has
gone would come up again under the next block of that id, and a category that is a member of its own
path would never be read to its end.
-/

open Framework

namespace Zhixu

/-- The fields of a block pass the checks of a block. -/
theorem NoteContentBlock.checked_self (block : NoteContentBlock) :
    NoteContentBlock.checked block.name block.body block.fields block.id = .ok block := by
  unfold NoteContentBlock.checked
  rw [dif_pos block.name_valid, dif_pos block.id_valid, dif_pos block.body_valid,
    dif_pos block.fields_nodup]

namespace NoteTables

/-- **Whatever a row refers to is there.** -/
structure Sound (store : NoteTables) : Prop where
  rooted : Rooted store.categories
  filed : ∀ row ∈ store.notes.rows, ∃ categoryId names, row.categoryId = some categoryId ∧
    PathTo store.categories (some categoryId) names
  tagged : ∀ row ∈ store.resourceTags.rows, ∃ tag, store.tags.find? row.tagId = some tag
  placed : ∀ row ∈ store.fields.rows, ∃ block ∈ store.blocks.rows, block.id = row.blockId
  named : ∀ row ∈ store.notes.rows, row.creatorUserId.any isBlank = false

section Parted

variable {note : Note} {store store' : NoteTables}

/-! ### Tags -/

/-- The rows that give a note its tags give it these names. -/
theorem filterMap_names {tags : Table TagRow TagRow.id} {rows : List ResourceTagRow}
    {names : List String} (h : List.Forall₂ (Names note tags) rows names) :
    (rows.filterMap fun row => (tags.find? row.tagId).map TagRow.name) = names := by
  induction h with
  | nil => rfl
  | cons hrow _ ih =>
    obtain ⟨-, -, tag, htag, hname⟩ := hrow
    rw [List.filterMap_cons, htag, Option.map_some, hname, ih]

theorem Parted.tagsOf_own (h : Parted note store store') :
    store'.tagsOf note.id = note.tags.insertionSort fun a b => a ≤ b := by
  obtain ⟨rows, hreplaced, hnamed⟩ := h.tagged
  have hrows : (store'.resourceTags.rows.filter fun row =>
      row.resourceKind = "note" && row.resourceId = note.id) = rows := hreplaced.filter_own
  unfold tagsOf
  rw [hrows, filterMap_names hnamed]

theorem Parted.tagsOf_other (h : Parted note store store') (hsound : Sound store) {noteId : String}
    (hother : noteId ≠ note.id) : store'.tagsOf noteId = store.tagsOf noteId := by
  obtain ⟨rows, hreplaced, -⟩ := h.tagged
  have hrows : (store'.resourceTags.rows.filter fun row =>
      row.resourceKind = "note" && row.resourceId = noteId) =
        store.resourceTags.rows.filter fun row =>
          row.resourceKind = "note" && row.resourceId = noteId := by
    refine hreplaced.filter_other fun row hrow => ?_
    simp only [Bool.and_eq_true, decide_eq_true_eq] at hrow
    simp [isTagOf, hrow.2, hother]
  have hnames : ∀ row ∈ store.resourceTags.rows.filter fun row =>
      row.resourceKind = "note" && row.resourceId = noteId,
      (store'.tags.find? row.tagId).map TagRow.name =
        (store.tags.find? row.tagId).map TagRow.name := by
    intro row hrow
    obtain ⟨tag, htag⟩ := hsound.tagged row (List.mem_of_mem_filter hrow)
    rw [htag, h.tags _ _ htag]
  unfold tagsOf
  rw [hrows, List.filterMap_congr hnames]

/-! ### Attachments -/

/-- Attachments in the order in which they are read. -/
def sortedAttachments (attachments : List NoteAttachment) : List NoteAttachment :=
  attachments.insertionSort fun a b => a.id ≤ b.id

theorem Parted.attachmentsOf_own (h : Parted note store store') :
    store'.attachmentsOf note.id = sortedAttachments note.attachments := by
  unfold attachmentsOf Table.select
  rw [h.attached.filter_own, sortedAttachments]
  rw [← List.map_insertionSort (fun a b : NoteAttachment => a.id ≤ b.id) _
    (fun attachment => ({ noteId := note.id, attachment } : AttachmentRow)) note.attachments]
  · rw [List.map_map]
    exact List.map_id _
  · intro a _ b _
    simp

theorem Parted.attachmentsOf_other (h : Parted note store store') {noteId : String}
    (hother : noteId ≠ note.id) : store'.attachmentsOf noteId = store.attachmentsOf noteId := by
  unfold attachmentsOf Table.select
  rw [h.attached.filter_other fun row hrow => ?_]
  have hid : row.noteId = noteId := by simpa using hrow
  simp [hid, hother]

/-! ### Content blocks -/

/-- A block of another note has the id of no block that was written. -/
theorem Parted.block_id_ne (h : Parted note store store') {row : BlockRow}
    (hrow : row ∈ store.blocks.rows) (hother : row.noteId ≠ note.id) {block : NoteContentBlock}
    (hblock : block ∈ note.contentBlocks) : row.id ≠ block.id := by
  obtain ⟨createdAt, updatedAt, hreplaced⟩ := h.blocks
  have hnodup := store'.blocks.nodup
  rw [hreplaced.eq, List.map_append] at hnodup
  have hkept : row.id ∈ (store.blocks.rows.filter fun row => !decide (row.noteId = note.id)).map
      BlockRow.id :=
    List.mem_map_of_mem (List.mem_filter.mpr ⟨hrow, by simp [hother]⟩)
  have hnew : block.id ∈
      (note.contentBlocks.zipIdx.map (blockRow note createdAt updatedAt)).map BlockRow.id := by
    rw [List.map_map]
    obtain ⟨i, hi, rfl⟩ := List.getElem_of_mem hblock
    exact List.mem_map.mpr ⟨(note.contentBlocks[i], i), by
      simp [List.mk_mem_zipIdx_iff_getElem?], rfl⟩
  intro heq
  rw [heq] at hkept
  exact (List.nodup_append.mp hnodup).2.2 _ hkept _ hnew rfl

/-- Nor the id of a block that was taken out. -/
theorem not_mem_blockIds {row : BlockRow} (hrow : row ∈ store.blocks.rows) {noteId : String}
    (hother : row.noteId ≠ noteId) : row.id ∉ store.blockIds noteId := by
  intro hmem
  obtain ⟨row', hrow', hid⟩ := List.mem_map.mp hmem
  obtain ⟨hmem', hnote⟩ := List.mem_filter.mp hrow'
  obtain rfl := store.blocks.eq_of_key_eq hmem' hrow hid
  exact hother (by simpa using hnote)

/-- The ids of the blocks that were written differ. -/
theorem Parted.nodup_ids (h : Parted note store store') :
    (note.contentBlocks.map NoteContentBlock.id).Nodup := by
  obtain ⟨createdAt, updatedAt, hreplaced⟩ := h.blocks
  have hnodup := store'.blocks.nodup
  rw [hreplaced.eq, List.map_append, List.map_map] at hnodup
  have hids : note.contentBlocks.zipIdx.map (BlockRow.id ∘ blockRow note createdAt updatedAt) =
      note.contentBlocks.map NoteContentBlock.id := by
    rw [← List.zipIdx_map_fst 0 note.contentBlocks, List.map_map, List.zipIdx_map_fst]
    rfl
  rw [hids] at hnodup
  exact (List.nodup_append.mp hnodup).2.1

theorem fieldRows_blockId {block : NoteContentBlock} {row : FieldRow} (h : row ∈ fieldRows block) :
    row.blockId = block.id := by
  obtain ⟨field, -, rfl⟩ := List.mem_map.mp h
  rfl

/-- What is placed one after the other is selected in that order. -/
theorem pairwise_zipIdx {α : Type} {R : α × ℕ → α × ℕ → Prop} (hR : ∀ a b, a.2 < b.2 → R a b)
    (xs : List α) : xs.zipIdx.Pairwise R := by
  rw [List.pairwise_iff_getElem]
  intro i j hi hj hij
  refine hR _ _ ?_
  rw [List.getElem_zipIdx, List.getElem_zipIdx]
  simpa using hij

theorem Parted.fieldsOf_own (h : Parted note store store') (hsound : Sound store)
    {block : NoteContentBlock} (hblock : block ∈ note.contentBlocks) :
    store'.fieldsOf block.id = block.fields := by
  -- a field that was there hangs on a block that is there, whose id this one cannot have
  have hkept : (store.fields.rows.filter fun row =>
      !decide (row.blockId ∈ store.blockIds note.id)).filter
        (fun row => row.blockId = block.id) = [] := by
    rw [List.filter_eq_nil_iff]
    intro row hrow hid
    obtain ⟨hmem, hgone⟩ := List.mem_filter.mp hrow
    obtain ⟨placed, hplaced, hplacedId⟩ := hsound.placed row hmem
    have hblockId : row.blockId = block.id := by simpa using hid
    by_cases hnote : placed.noteId = note.id
    · have hin : row.blockId ∈ store.blockIds note.id := by
        rw [← hplacedId]
        exact List.mem_map_of_mem (List.mem_filter.mpr ⟨hplaced, by simpa using hnote⟩)
      simp [hin] at hgone
    · exact h.block_id_ne hplaced hnote hblock (hplacedId.trans hblockId)
  have hrows : (store'.fields.rows.filter fun row => row.blockId = block.id) = fieldRows block := by
    rw [h.fields, List.filter_append, hkept, List.nil_append]
    exact filter_flatMap_key (fun _ _ hrow => fieldRows_blockId hrow) h.nodup_ids hblock
  unfold fieldsOf Table.select
  rw [hrows, List.Pairwise.insertionSort_eq]
  · unfold fieldRows
    rw [List.map_map]
    exact List.zipIdx_map_fst 0 block.fields
  · exact List.pairwise_map.mpr (pairwise_zipIdx (fun a b hab => by simp [hab]) _)

theorem Parted.fieldsOf_other (h : Parted note store store') {row : BlockRow}
    (hrow : row ∈ store.blocks.rows) (hother : row.noteId ≠ note.id) :
    store'.fieldsOf row.id = store.fieldsOf row.id := by
  have hnew : (note.contentBlocks.flatMap fieldRows).filter (fun field => field.blockId = row.id) =
      [] := by
    rw [List.filter_eq_nil_iff]
    intro field hfield hid
    obtain ⟨block, hblock, hmem⟩ := List.mem_flatMap.mp hfield
    have hblockId : field.blockId = row.id := by simpa using hid
    exact h.block_id_ne hrow hother hblock (hblockId.symm.trans (fieldRows_blockId hmem))
  unfold fieldsOf Table.select
  rw [h.fields, List.filter_append, hnew, List.append_nil, List.filter_filter]
  congr 2
  refine List.filter_congr fun field _ => ?_
  by_cases hid : field.blockId = row.id
  · simp [hid, not_mem_blockIds hrow hother]
  · simp [hid]

theorem Parted.contentBlocks_own (h : Parted note store store') (hsound : Sound store) :
    store'.contentBlocks note.id = .ok note.contentBlocks := by
  obtain ⟨createdAt, updatedAt, hreplaced⟩ := h.blocks
  unfold contentBlocks Table.select
  rw [hreplaced.filter_own, List.Pairwise.insertionSort_eq]
  · rw [mapM_eq_ok, List.forall₂_map_left_iff]
    have hload : ∀ block ∈ note.contentBlocks.zipIdx,
        store'.loadBlock (blockRow note createdAt updatedAt block) = .ok block.1 := by
      intro block hblock
      have hmem : block.1 ∈ note.contentBlocks := List.fst_mem_of_mem_zipIdx hblock
      unfold loadBlock blockRow
      rw [h.fieldsOf_own hsound hmem]
      exact NoteContentBlock.checked_self block.1
    have hall : List.Forall₂ (fun (block : NoteContentBlock × ℕ) loaded =>
        store'.loadBlock (blockRow note createdAt updatedAt block) = .ok loaded)
        note.contentBlocks.zipIdx (note.contentBlocks.zipIdx.map Prod.fst) :=
      List.forall₂_map_right_iff.mpr (List.forall₂_same.mpr hload)
    rwa [List.zipIdx_map_fst] at hall
  · exact List.pairwise_map.mpr (pairwise_zipIdx (fun a b hab => by simp [blockRow, hab]) _)

theorem Parted.contentBlocks_other (h : Parted note store store') {noteId : String}
    (hother : noteId ≠ note.id) : store'.contentBlocks noteId = store.contentBlocks noteId := by
  obtain ⟨createdAt, updatedAt, hreplaced⟩ := h.blocks
  have hrows : (store'.blocks.rows.filter fun row => row.noteId = noteId) =
      store.blocks.rows.filter fun row => row.noteId = noteId := by
    refine hreplaced.filter_other fun row hrow => ?_
    have hid : row.noteId = noteId := by simpa using hrow
    simp [hid, hother]
  unfold contentBlocks Table.select
  rw [hrows]
  refine mapM_congr fun row hrow => ?_
  rw [List.mem_insertionSort, List.mem_filter] at hrow
  have hid : row.noteId = noteId := by simpa using hrow.2
  unfold loadBlock
  rw [h.fieldsOf_other hrow.1 (hid.trans_ne hother)]

/-! ### What is kept -/

theorem Parted.tagged_kept (h : Parted note store store') (hsound : Sound store) :
    ∀ row ∈ store'.resourceTags.rows, ∃ tag, store'.tags.find? row.tagId = some tag := by
  obtain ⟨rows, hreplaced, hnamed⟩ := h.tagged
  intro row hrow
  rcases hreplaced.mem hrow with ⟨hold, -⟩ | hnew
  · obtain ⟨tag, htag⟩ := hsound.tagged row hold
    exact ⟨tag, h.tags _ _ htag⟩
  · have hall : ∀ row ∈ rows, ∃ tag, store'.tags.find? row.tagId = some tag :=
      ((List.forall₂_and_left _ _).mp (hnamed.imp fun _ _ hname =>
        ⟨hname.2.2.imp fun _ => And.left, hname⟩)).1
    exact hall row hnew

theorem Parted.placed_kept (h : Parted note store store') (hsound : Sound store) :
    ∀ row ∈ store'.fields.rows, ∃ block ∈ store'.blocks.rows, block.id = row.blockId := by
  obtain ⟨createdAt, updatedAt, hreplaced⟩ := h.blocks
  intro row hrow
  rw [h.fields, List.mem_append] at hrow
  rw [hreplaced.eq]
  rcases hrow with hold | hnew
  · obtain ⟨hmem, hgone⟩ := List.mem_filter.mp hold
    obtain ⟨block, hblock, hid⟩ := hsound.placed row hmem
    have hnote : block.noteId ≠ note.id := by
      intro hnote
      have hin : row.blockId ∈ store.blockIds note.id := by
        rw [← hid]
        exact List.mem_map_of_mem (List.mem_filter.mpr ⟨hblock, by simpa using hnote⟩)
      simp [hin] at hgone
    exact ⟨block, List.mem_append_left _ (List.mem_filter.mpr ⟨hblock, by simpa using hnote⟩), hid⟩
  · obtain ⟨block, hblock, hmem⟩ := List.mem_flatMap.mp hnew
    obtain ⟨i, hi, rfl⟩ := List.getElem_of_mem hblock
    refine ⟨blockRow note createdAt updatedAt (note.contentBlocks[i], i),
      List.mem_append_right _ (List.mem_map_of_mem ?_), (fieldRows_blockId hmem).symm⟩
    simp [List.mk_mem_zipIdx_iff_getElem?]

end Parted

end NoteTables

end Zhixu
