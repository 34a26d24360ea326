import Zhixu.Notes.RoundTrip

/-!
# The search index

`notes_fts` is a table without foreign keys that `create`, `update` and `delete` keep by hand: a row
for each note, with the note's owner, its title and one text of all that can be searched.

`Indexed` says what the index should be, in terms of what is read of the notes. Every note that is
stored has one row, the one that belongs to the note as it is loaded, and no other row is there. A call
that raises changes nothing, a deletion keeps it (`Deleted.indexed`), and so does a write, with one
exception: the text is made of the names of the categories as they were handed in, while
`_ensure_category_path` stores them without the white space around. The lengths of the two texts tell
them apart (`indexRow_readBack`), so a write keeps the index exactly if its names are `Trimmed`.
-/

open Framework

namespace Zhixu

namespace NoteTables

/-! ### Deletion -/

/-- `delete`. What has a foreign key to the note goes with it; the tags have none and stay. -/
def delete (noteId : String) (authorization : AuthorizedAction) (store : NoteTables) :
    Except PyError NoteTables := do
  requireAuthorization authorization .delete "note" noteId authorization.resource.ownerUserId
    authorization.resource.classification
  let hits := fun row : NoteRow => decide (row.id = noteId) &&
    decide (row.ownerUserId = authorization.resource.ownerUserId)
  raiseIf (store.notes.count hits ≠ 1) (.notFound "note not found")
  let gone := store.blockIds noteId
  return { store with
    notes := store.notes.deleteWhere hits
    blocks := store.blocks.deleteWhere fun row => row.noteId = noteId
    fields := store.fields.deleteWhere fun row => decide (row.blockId ∈ gone)
    attachments := store.attachments.deleteWhere fun row => row.noteId = noteId
    fts := store.fts.filter fun row => row.noteId ≠ noteId }

/-- **A committed deletion**: the note, and what hangs on it. -/
structure Deleted (noteId : String) (store store' : NoteTables) : Prop where
  row_own : store'.notes.find? noteId = none
  row_other : ∀ other, other ≠ noteId → store'.notes.find? other = store.notes.find? other
  categories : store'.categories = store.categories
  tags : store'.tags = store.tags
  resourceTags : store'.resourceTags = store.resourceTags
  blocks : store'.blocks = store.blocks.deleteWhere fun row => row.noteId = noteId
  fields : store'.fields =
    store.fields.deleteWhere fun row => decide (row.blockId ∈ store.blockIds noteId)
  attachments : store'.attachments = store.attachments.deleteWhere fun row => row.noteId = noteId
  fts : store'.fts = store.fts.filter fun row => row.noteId ≠ noteId

theorem delete_deleted {noteId : String} {authorization : AuthorizedAction}
    {store store' : NoteTables} (h : delete noteId authorization store = .ok store') :
    Deleted noteId store store' := by
  obtain ⟨-, -, h⟩ := bind_eq_ok.mp h
  obtain ⟨hcount, h⟩ := raiseIf_bind_ok.mp h
  obtain rfl := Except.ok.inj h
  obtain ⟨old, hold, hhits⟩ := Table.exists_of_count_key (not_not.mp hcount)
  refine ⟨?_, fun other hother => ?_, rfl, rfl, rfl, rfl, rfl, rfl, rfl⟩
  · show (store.notes.deleteWhere _).find? noteId = none
    rw [Table.find?_deleteWhere, hold, Option.filter_some, if_neg]
    rw [Table.key_of_find? hold, hhits]
    simp
  · refine Table.find?_deleteWhere_of_not fun row hrow => ?_
    rw [hrow, decide_eq_false hother, Bool.false_and]

section Deleted

variable {noteId other : String} {store store' : NoteTables}

/-- A note that is left is the note it was. -/
theorem Deleted.mem_notes (h : Deleted noteId store store') {row : NoteRow} :
    row ∈ store'.notes.rows ↔ row ∈ store.notes.rows ∧ row.id ≠ noteId := by
  constructor
  · intro hrow
    have hfound := Table.find?_of_mem hrow
    have hother : row.id ≠ noteId := by
      intro hid
      rw [hid, h.row_own] at hfound
      cases hfound
    rw [h.row_other _ hother] at hfound
    exact ⟨Table.mem_of_find? hfound, hother⟩
  · rintro ⟨hrow, hother⟩
    have hfound := Table.find?_of_mem hrow
    rw [← h.row_other _ hother] at hfound
    exact Table.mem_of_find? hfound

/-- The fields of a block of another note stay. -/
theorem Deleted.fieldsOf_other (h : Deleted noteId store store') {row : BlockRow}
    (hrow : row ∈ store.blocks.rows) (hother : row.noteId ≠ noteId) :
    store'.fieldsOf row.id = store.fieldsOf row.id := by
  unfold fieldsOf
  rw [h.fields, Table.select_deleteWhere _ _ fun field hfield => ?_]
  have hid : field.blockId = row.id := by simpa using hfield
  rw [hid]
  exact decide_eq_false (not_mem_blockIds hrow hother)

theorem Deleted.contentBlocks_other (h : Deleted noteId store store') (hother : other ≠ noteId) :
    store'.contentBlocks other = store.contentBlocks other := by
  unfold contentBlocks
  rw [h.blocks, Table.select_deleteWhere _ _ fun row hrow => ?_]
  · refine mapM_congr fun row hrow => ?_
    obtain ⟨hmem, hnote⟩ := Table.mem_select.mp hrow
    have hid : row.noteId = other := by simpa using hnote
    unfold loadBlock
    rw [h.fieldsOf_other hmem (hid.trans_ne hother)]
  · have hid : row.noteId = other := by simpa using hrow
    simp [hid, hother]

/-- Any other note is read as before. -/
theorem Deleted.get_other (h : Deleted noteId store store') (hother : other ≠ noteId) :
    store'.get other = store.get other := by
  unfold NoteTables.get
  rw [h.row_other other hother]
  cases hrow : store.notes.find? other with
  | none => rfl
  | some row =>
    have hid : row.id ≠ noteId := (Table.key_of_find? hrow).trans_ne hother
    have hattachments : store'.attachmentsOf row.id = store.attachmentsOf row.id := by
      unfold attachmentsOf
      rw [h.attachments, Table.select_deleteWhere _ _ fun attached hattached => ?_]
      have hnote : attached.noteId = row.id := by simpa using hattached
      simp [hnote, hid]
    have hpath : store'.categoryPath row.categoryId = store.categoryPath row.categoryId := by
      unfold NoteTables.categoryPath
      rw [h.categories]
    have htags : store'.tagsOf row.id = store.tagsOf row.id := by
      unfold tagsOf
      rw [h.tags, h.resourceTags]
    unfold fromRow
    simp only [h.contentBlocks_other hid, hattachments, hpath, htags]

theorem Deleted.sound (h : Deleted noteId store store') (hsound : Sound store) : Sound store' := by
  refine ⟨?_, fun row hrow => ?_, ?_, fun row hrow => ?_, fun row hrow => ?_⟩
  · rw [h.categories]
    exact hsound.rooted
  · rw [h.categories]
    exact hsound.filed row (h.mem_notes.mp hrow).1
  · rw [h.resourceTags, h.tags]
    exact hsound.tagged
  · rw [h.fields] at hrow
    obtain ⟨hmem, hkept⟩ := List.mem_filter.mp hrow
    obtain ⟨block, hblock, hid⟩ := hsound.placed row hmem
    -- the block would have taken its field with it
    have hnote : block.noteId ≠ noteId := by
      intro hnote
      have hin : row.blockId ∈ store.blockIds noteId := by
        rw [← hid]
        exact List.mem_map_of_mem (List.mem_filter.mpr ⟨hblock, by simpa using hnote⟩)
      simp [hin] at hkept
    rw [h.blocks]
    exact ⟨block, List.mem_filter.mpr ⟨hblock, by simpa using hnote⟩, hid⟩
  · exact hsound.named row (h.mem_notes.mp hrow).1

end Deleted

/-! ### The index of what is read -/

/-- The row of the index that belongs to a note. -/
def indexRow (note : Note) : FtsRow where
  noteId := note.id
  ownerUserId := note.ownerUserId
  title := note.title
  body := indexedText note

/-- **The index is that of the notes.** -/
structure Indexed (store : NoteTables) : Prop where
  /-- every note has exactly the row that belongs to it as it is read, -/
  each : ∀ row ∈ store.notes.rows, ∃ note, store.get row.id = .ok (some note) ∧
    store.fts.filter (fun entry => entry.noteId = row.id) = [indexRow note]
  /-- and there is no row of another note -/
  only : ∀ entry ∈ store.fts, ∃ row ∈ store.notes.rows, row.id = entry.noteId

/-- **A deletion keeps the index.** -/
theorem Deleted.indexed {noteId : String} {store store' : NoteTables}
    (h : Deleted noteId store store') (hindexed : Indexed store) : Indexed store' := by
  refine ⟨fun row hrow => ?_, fun entry hentry => ?_⟩
  · obtain ⟨hmem, hother⟩ := h.mem_notes.mp hrow
    obtain ⟨note, hget, hentries⟩ := hindexed.each row hmem
    refine ⟨note, (h.get_other hother).trans hget, ?_⟩
    rw [h.fts, List.filter_filter, ← hentries]
    refine List.filter_congr fun entry _ => ?_
    by_cases hid : entry.noteId = row.id
    · simp [hid, hother]
    · simp [hid]
  · rw [h.fts] at hentry
    obtain ⟨hmem, hkept⟩ := List.mem_filter.mp hentry
    obtain ⟨row, hrow, hid⟩ := hindexed.only entry hmem
    have hother : entry.noteId ≠ noteId := by simpa using hkept
    exact ⟨row, h.mem_notes.mpr ⟨hrow, hid.trans_ne hother⟩, hid⟩

/-! ### The text of a note -/

/-- No name of a category has white space around it. -/
def Trimmed (note : Note) : Prop := ∀ name ∈ note.categoryPath, strip name = name

theorem eq_of_length_strip {s : String} (h : (strip s).length = s.length) : strip s = s := by
  have hsub := stripChars_within s.toList
  unfold strip at h ⊢
  rw [String.length_ofList, ← String.length_toList] at h
  rw [hsub.eq_of_length h, String.ofList_toList]

/-- The lengths of some texts together. -/
def totalLength (lines : List String) : ℕ := (lines.map String.length).sum

theorem totalLength_cons (line : String) (lines : List String) :
    totalLength (line :: lines) = line.length + totalLength lines := List.sum_cons

theorem totalLength_append (lines lines' : List String) :
    totalLength (lines ++ lines') = totalLength lines + totalLength lines' := by
  unfold totalLength
  rw [List.map_append, List.sum_append]

theorem totalLength_strip_le (names : List String) :
    totalLength (names.map strip) ≤ totalLength names := by
  induction names with
  | nil => exact le_rfl
  | cons name names ih =>
    rw [List.map_cons, totalLength_cons, totalLength_cons]
    exact Nat.add_le_add (length_strip_le name) ih

/-- Names that are as long together without the white space around them have none. -/
theorem trimmed_of_length {names : List String}
    (h : totalLength (names.map strip) = totalLength names) : ∀ name ∈ names, strip name = name := by
  induction names with
  | nil => simp
  | cons name names ih =>
    have hname := length_strip_le name
    have hnames := totalLength_strip_le names
    rw [List.map_cons, totalLength_cons, totalLength_cons] at h
    intro other hother
    rcases List.mem_cons.mp hother with rfl | hother
    · exact eq_of_length_strip (by omega)
    · exact ih (by omega) other hother

theorem length_joinLines (lines : List String) :
    (joinLines lines).length = totalLength lines + (lines.length - 1) := by
  induction lines with
  | nil => rfl
  | cons line lines ih =>
    cases lines with
    | nil => simp [joinLines, totalLength]
    | cons next lines =>
      have hnewline : "\n".length = 1 := rfl
      unfold joinLines at ih ⊢
      rw [String.intercalate_cons_cons, String.length_append, String.length_append, ih, hnewline,
        totalLength_cons line]
      simp only [List.length_cons]
      omega

/-- **The row of a note as it is read** is the one that was written, exactly if the names of its
categories are trimmed. -/
theorem indexRow_readBack {note : Note} {row : NoteRow} :
    indexRow (readBack note row) = indexRow note ↔ Trimmed note := by
  constructor
  · intro h
    have htext : indexedText (readBack note row) = indexedText note := congrArg FtsRow.body h
    have hlength := congrArg String.length htext
    unfold indexedText readBack at hlength
    rw [length_joinLines, length_joinLines] at hlength
    simp only [totalLength_append, List.length_append, List.length_map] at hlength
    exact trimmed_of_length (by omega)
  · intro h
    have hpath : note.categoryPath.map strip = note.categoryPath := by
      conv_rhs => rw [← List.map_id note.categoryPath]
      exact List.map_congr_left h
    unfold indexRow readBack indexedText
    simp only [hpath]

/-! ### Writes -/

/-- What a committed write has recorded. -/
theorem Write.recorded {sha256 : String → String} {write : Write} {stored : Note}
    {store store' : NoteTables} (hsound : Sound store) (hvalid : write.note.validate = .ok ⟨⟩)
    (h : write.run sha256 store = .ok (stored, store')) :
    ∃ row, Recorded stored row store store' ∧ row.creatorUserId.any isBlank = false ∧
      stored.validate = .ok ⟨⟩ ∧ stored.categoryPath = write.note.categoryPath := by
  cases write with
  | create note authorization =>
    obtain ⟨rfl, row, hrecorded, hcreator, -⟩ := create_recorded h hsound
    exact ⟨row, hrecorded, hcreator ▸ creator_named hvalid, stamped_valid hvalid le_rfl, rfl⟩
  | update note expectedVersion authorization =>
    obtain ⟨rfl, old, row, hold, hrecorded, hcreator, -⟩ := update_recorded h hsound
    have hnamed := hsound.named old (Table.mem_of_find? hold)
    exact ⟨row, hrecorded, hcreator ▸ hnamed, stamped_valid hvalid (version_pos hvalid), rfl⟩

/-- **A write keeps the index** exactly if the names of its categories are trimmed. -/
theorem Recorded.indexed_iff {note : Note} {row : NoteRow} {store store' : NoteTables}
    (h : Recorded note row store store') (hsound : Sound store) (hindexed : Indexed store)
    (hvalid : note.validate = .ok ⟨⟩) (hcreator : row.creatorUserId.any isBlank = false) :
    Indexed store' ↔ Trimmed note := by
  have hown := h.get_own hsound hvalid hcreator
  have hentries : store'.fts.filter (fun entry => entry.noteId = note.id) = [indexRow note] := by
    rw [h.parts.fts, List.filter_append, List.filter_filter]
    have hnone : (store.fts.filter fun entry =>
        decide (entry.noteId = note.id) && decide (entry.noteId ≠ note.id)) = [] := by
      rw [List.filter_eq_nil_iff]
      intro entry _
      simp
    rw [hnone, List.nil_append, List.filter_cons_of_pos (by simp), List.filter_nil]
    rfl
  have hrow : row ∈ store'.notes.rows := Table.mem_of_find? h.row_own
  constructor
  · intro hafter
    obtain ⟨loaded, hget, hloaded⟩ := hafter.each row hrow
    rw [h.holds.id, hown] at hget
    rw [h.holds.id, hentries] at hloaded
    obtain rfl := Option.some.inj (Except.ok.inj hget)
    exact indexRow_readBack.mp (List.singleton_inj.mp hloaded).symm
  · intro htrimmed
    refine ⟨fun other hother => ?_, fun entry hentry => ?_⟩
    · have hfound := Table.find?_of_mem hother
      by_cases hid : other.id = note.id
      · rw [hid]
        refine ⟨_, hown, ?_⟩
        rw [hentries, indexRow_readBack.mpr htrimmed]
      · rw [h.row_other _ hid] at hfound
        obtain ⟨loaded, hget, hloaded⟩ := hindexed.each other (Table.mem_of_find? hfound)
        refine ⟨loaded, (h.get_other hsound hid).trans hget, ?_⟩
        have hnew : ([{ noteId := note.id, ownerUserId := note.ownerUserId, title := note.title
                        body := indexedText note }] : List FtsRow).filter
            (fun entry => entry.noteId = other.id) = [] := by
          rw [List.filter_eq_nil_iff]
          intro entry hentry
          rw [List.mem_singleton.mp hentry]
          simpa using Ne.symm hid
        rw [h.parts.fts, List.filter_append, hnew, List.append_nil, List.filter_filter, ← hloaded]
        refine List.filter_congr fun entry _ => ?_
        by_cases hentry : entry.noteId = other.id
        · simp [hentry, hid]
        · simp [hentry]
    · rw [h.parts.fts] at hentry
      rcases List.mem_append.mp hentry with hold | hnew
      · obtain ⟨hmem, hkept⟩ := List.mem_filter.mp hold
        have hother : entry.noteId ≠ note.id := by simpa using hkept
        obtain ⟨other, hmem', hid⟩ := hindexed.only entry hmem
        have hfound := Table.find?_of_mem hmem'
        rw [← h.row_other _ (hid.trans_ne hother)] at hfound
        exact ⟨other, Table.mem_of_find? hfound, hid⟩
      · rw [List.mem_singleton.mp hnew]
        exact ⟨row, hrow, h.holds.id⟩

/-! ### Every run -/

/-- A call of `create`, `update` or `delete`. -/
inductive Call
  | write (write : Write)
  | delete (noteId : String) (authorization : AuthorizedAction)

/-- The tables after a call. A call that raises has changed nothing. -/
def after (sha256 : String → String) (store : NoteTables) : Call → NoteTables
  | .write write =>
    match write.run sha256 store with
    | .ok out => out.2
    | .error _ => store
  | .delete noteId authorization =>
    match NoteTables.delete noteId authorization store with
    | .ok store => store
    | .error _ => store

/-- A sequence of calls on tables without notes. -/
def reached (sha256 : String → String) (users : List String) (calls : List Call) : NoteTables :=
  calls.foldl (after sha256) { users }

variable {sha256 : String → String} {users : List String} {calls : List Call}

theorem reached_append (done : List Call) (call : Call) :
    reached sha256 users (done ++ [call]) = after sha256 (reached sha256 users done) call := by
  unfold reached
  rw [List.foldl_append]
  rfl

/-- The note that a call is handed passes the checks of a note. -/
def Call.Valid : Call → Prop
  | .write w => w.note.validate = .ok ⟨⟩
  | .delete _ _ => True

/-- The names of a write are trimmed, if it is committed. -/
def Call.Trims (sha256 : String → String) (store : NoteTables) : Call → Prop
  | .write w => (∃ out, w.run sha256 store = .ok out) → Trimmed w.note
  | .delete _ _ => True

theorem after_written {store store' : NoteTables} {write : Write} {stored : Note}
    (h : write.run sha256 store = .ok (stored, store')) :
    after sha256 store (.write write) = store' := by
  simp only [after, h]

theorem after_raised {store : NoteTables} {write : Write} {err : PyError}
    (h : write.run sha256 store = .error err) : after sha256 store (.write write) = store := by
  simp only [after, h]

/-- One call. -/
theorem after_spec {store : NoteTables} {call : Call} (hsound : Sound store) (hvalid : call.Valid) :
    Sound (after sha256 store call) ∧
      (Indexed store → (Indexed (after sha256 store call) ↔ call.Trims sha256 store)) := by
  cases call with
  | write write =>
    cases hrun : write.run sha256 store with
    | error err =>
      rw [after_raised hrun]
      refine ⟨hsound, fun hindexed => iff_of_true hindexed ?_⟩
      rintro ⟨out, hout⟩
      rw [hrun] at hout
      cases hout
    | ok out =>
      obtain ⟨stored, store'⟩ := out
      obtain ⟨row, hrecorded, hcreator, hstored, hpath⟩ := Write.recorded hsound hvalid hrun
      rw [after_written hrun]
      refine ⟨hrecorded.sound hsound hcreator, fun hindexed => ?_⟩
      have htrims : Call.Trims sha256 store (.write write) ↔ Trimmed write.note :=
        forall_prop_of_true ⟨_, hrun⟩
      have hsame : Trimmed stored ↔ Trimmed write.note := by
        unfold Trimmed
        rw [hpath]
      rw [hrecorded.indexed_iff hsound hindexed hstored hcreator, hsame, htrims]
  | delete noteId authorization =>
    cases hrun : NoteTables.delete noteId authorization store with
    | error err =>
      have hsame : after sha256 store (.delete noteId authorization) = store := by
        simp only [after, hrun]
      rw [hsame]
      exact ⟨hsound, fun hindexed => iff_of_true hindexed trivial⟩
    | ok store' =>
      have hafter : after sha256 store (.delete noteId authorization) = store' := by
        simp only [after, hrun]
      have hdeleted := delete_deleted hrun
      rw [hafter]
      exact ⟨hdeleted.sound hsound,
        fun hindexed => iff_of_true (hdeleted.indexed hindexed) trivial⟩

theorem reached_sound (hvalid : ∀ call ∈ calls, call.Valid) : Sound (reached sha256 users calls) := by
  induction calls using List.reverseRecOn with
  | nil => exact sound_start users
  | append_singleton done call ih =>
    rw [reached_append]
    exact (after_spec (ih fun other hother => hvalid other (List.mem_append_left _ hother))
      (hvalid call (by simp))).1

theorem indexed_start (users : List String) : Indexed { users } where
  each := fun _ hrow => absurd hrow (by simp)
  only := fun _ hentry => absurd hentry (by simp)

/-- **The index is consistent in every state that is reached**, exactly if every write that is
committed has trimmed names of categories. -/
theorem searchIndex_iff (hvalid : ∀ call ∈ calls, call.Valid) :
    (∀ done, done <+: calls → Indexed (reached sha256 users done)) ↔
      ∀ done call, done ++ [call] <+: calls → call.Trims sha256 (reached sha256 users done) := by
  have hstep : ∀ done call, done ++ [call] <+: calls → done <+: calls ∧ call.Valid ∧
      Sound (reached sha256 users done) := by
    intro done call hdone
    have hbefore := (List.prefix_append done [call]).trans hdone
    exact ⟨hbefore, hvalid call (hdone.subset (by simp)),
      reached_sound fun other hother => hvalid other (hbefore.subset hother)⟩
  constructor
  · intro h done call hdone
    obtain ⟨hbefore, hcall, hsound⟩ := hstep done call hdone
    have hafter := h _ hdone
    rw [reached_append] at hafter
    exact ((after_spec hsound hcall).2 (h done hbefore)).mp hafter
  · intro h done
    induction done using List.reverseRecOn with
    | nil => exact fun _ => indexed_start users
    | append_singleton done call ih =>
      intro hdone
      obtain ⟨hbefore, hcall, hsound⟩ := hstep done call hdone
      rw [reached_append]
      exact ((after_spec hsound hcall).2 (ih hbefore)).mpr (h done call hdone)

/-! ### A note that is written and deleted -/

def deleteN1 : AuthorizedAction := { createN1 with action := .delete, authorizedAt := 60000000 }

def writtenAndDeleted : List Call := [.write inOrder, .delete "n1" deleteN1]

theorem searchIndex_writtenAndDeleted :
    Indexed (reached digest ["alice"] writtenAndDeleted) := by
  have hvalid : ∀ call ∈ writtenAndDeleted, call.Valid := by
    have hwrite : inOrder.note.validate = .ok ⟨⟩ := by decide +kernel
    intro call hcall
    rcases List.mem_cons.mp hcall with rfl | hcall
    · exact hwrite
    · rw [List.mem_singleton.mp hcall]
      trivial
  refine (searchIndex_iff hvalid).mpr (fun done call hdone => ?_) writtenAndDeleted
    List.prefix_rfl
  have htrimmed : Trimmed inOrder.note := by
    unfold Trimmed
    decide +kernel
  have hmem : call ∈ writtenAndDeleted := hdone.subset (by simp)
  rcases List.mem_cons.mp hmem with rfl | hcall
  · exact fun _ => htrimmed
  · rw [List.mem_singleton.mp hcall]
    trivial

/-- A note in a category whose name has white space around it. -/
def padded : Write := .create { scanned [] with categoryPath := [" A "] } createN1

/-- The index has the name as it was handed in. -/
theorem not_searchIndex_padded : ¬ ∀ (sha256 : String → String) (users : List String) (calls : List Call),
    (∀ call ∈ calls, call.Valid) → Indexed (reached sha256 users calls) := by
  intro h
  have hvalid : Call.Valid (.write padded) := by
    show padded.note.validate = .ok ⟨⟩
    decide +kernel
  have hafter := h digest ["alice"] [.write padded] fun call hcall => by
    rwa [List.mem_singleton.mp hcall]
  have htrims :=
    ((after_spec (sound_start ["alice"]) hvalid).2 (indexed_start ["alice"])).mp hafter
  have hrun : ((padded.run digest { users := ["alice"] }).toOption.map fun _ => true) = some true := by
    decide +kernel
  obtain ⟨out, hout, -⟩ := Option.map_eq_some_iff.mp hrun
  have hok : padded.run digest { users := ["alice"] } = .ok out := by
    cases hresult : padded.run digest { users := ["alice"] } with
    | error err =>
      rw [hresult] at hout
      cases hout
    | ok found =>
      rw [hresult] at hout
      rw [Option.some.inj hout]
  have htrimmed : Trimmed padded.note := htrims ⟨out, hok⟩
  have hname : strip " A " ≠ " A " := by decide +kernel
  exact hname (htrimmed " A " (List.mem_singleton.mpr rfl))

end NoteTables

end Zhixu
