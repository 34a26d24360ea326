import Mathlib.Data.List.Dedup
import Mathlib.Data.List.Induction
import Mathlib.Data.String.Basic
import Zhixu.Notes.Reading

/-!
# What is stored of a note and read back

A value that `create` or `update` returns is the note it was handed, with its tags sorted and its time
set. The tables hold less than that: the space around the name of a category is gone, attachments come
back by id, and an update leaves `created_at` alone. `readBack` is what `get` returns after a committed
write, in terms of the value the write returned, and `SameNote` is the equality that one would expect
between the two.

A history is the tables and, for each note, the value that its last committed write returned. The two
facts about one write are `Recorded.get_own` and `Recorded.get_other`: a committed write is read back
as `readBack` says, and nothing else that is read changes. `Tidy` and `Write.Plain` say when `readBack`
is the value itself. `roundTrips_iff` puts them together over every sequence of writes: all that is
read in any state is what was returned, exactly if every write that was committed was plain.
-/

open Framework

namespace Zhixu

namespace NoteTables

/-! ### The value that is read -/

/-- What is read of a note that was written, with its row. -/
def readBack (note : Note) (row : NoteRow) : Note :=
  { note with
    creatorUserId := creatorOr row.creatorUserId row.ownerUserId
    categoryPath := note.categoryPath.map strip
    tags := note.tags.insertionSort fun a b => a ≤ b
    attachments := sortedAttachments note.attachments
    createdAt := some row.createdAt }

/-- It passes the checks of a note, as the note did. -/
theorem readBack_valid {note : Note} {row : NoteRow} (howner : row.ownerUserId = note.ownerUserId)
    (hcreator : row.creatorUserId.any isBlank = false) (h : note.validate = .ok ⟨⟩) :
    (readBack note row).validate = .ok ⟨⟩ := by
  unfold Note.validate at h ⊢
  simp only [raiseIf_bind_ok] at h ⊢
  obtain ⟨hid, -, htitle, hpath, hparts, hblocks, hversion, htags, hunique, hattachments, hclass⟩ := h
  rw [not_or, Bool.not_eq_true, Bool.not_eq_true] at hid
  refine ⟨by simpa [readBack] using hid, ?_, htitle, ?_, ?_, hblocks, hversion, ?_, ?_, ?_, hclass⟩
  · -- the creator, or the owner in its place
    cases hsome : row.creatorUserId with
    | none => simpa [readBack, creatorOr, hsome, howner] using hid.2
    | some creatorUserId => simpa [readBack, creatorOr, hsome] using hcreator
  · simpa [readBack] using hpath
  · simp only [List.any_eq_true, not_exists, not_and] at hparts ⊢
    intro part hpart
    obtain ⟨raw, hraw, rfl⟩ := List.mem_map.mp hpart
    have hgood := hparts raw hraw
    simp only [Bool.or_eq_true, decide_eq_true_eq, not_or] at hgood ⊢
    rw [isBlank_strip]
    exact ⟨hgood.1, fun hlong => hgood.2 (hlong.trans_le (length_strip_le raw))⟩
  · simp only [List.any_eq_true, not_exists, not_and] at htags ⊢
    exact fun tag htag => htags tag ((List.mem_insertionSort _).mp htag)
  · rw [not_not] at hunique ⊢
    exact (List.perm_insertionSort _ _).nodup_iff.mpr hunique
  · rw [not_not] at hattachments ⊢
    exact ((List.perm_insertionSort _ note.attachments).map NoteAttachment.id).nodup_iff.mpr
      hattachments

/-- The row of a note holds its scalars. -/
structure NoteRow.Holds (row : NoteRow) (note : Note) : Prop where
  id : row.id = note.id
  owner : row.ownerUserId = note.ownerUserId
  title : row.title = note.title
  body : row.body = note.body
  classification : row.classification = note.classification
  version : row.version = note.version
  updated : some row.updatedAt = note.updatedAt

/-- **A committed write**: the row of the note, its category, and what hangs on it. -/
structure Recorded (note : Note) (row : NoteRow) (store store' : NoteTables) : Prop where
  holds : NoteRow.Holds row note
  row_own : store'.notes.find? note.id = some row
  row_other : ∀ noteId, noteId ≠ note.id → store'.notes.find? noteId = store.notes.find? noteId
  categories : store.categories.Grows store'.categories
  rooted : Rooted store'.categories
  filed : ∃ categoryId, row.categoryId = some categoryId ∧
    PathTo store'.categories (some categoryId) (note.categoryPath.map strip)
  parts : Parted note store store'

section Recorded

variable {note : Note} {row : NoteRow} {store store' : NoteTables}

/-- **The note that was written** is read back. -/
theorem Recorded.get_own (h : Recorded note row store store') (hsound : Sound store)
    (hvalid : note.validate = .ok ⟨⟩) (hcreator : row.creatorUserId.any isBlank = false) :
    store'.get note.id = .ok (some (readBack note row)) := by
  obtain ⟨hid, howner, htitle, hbody, hclass, hversion, hupdated⟩ := h.holds
  obtain ⟨categoryId, hcategory, hpath⟩ := h.filed
  have hblocks : store'.contentBlocks row.id = .ok note.contentBlocks := by
    rw [hid]
    exact h.parts.contentBlocks_own hsound
  have hread : store'.fromRow row = .ok (readBack note row) := by
    refine bind_eq_ok.mpr ⟨note.contentBlocks, hblocks, ?_⟩
    rw [hcategory, categoryPath_of_path h.rooted hpath, hid, h.parts.tagsOf_own,
      h.parts.attachmentsOf_own, howner, htitle, hbody, hclass, hversion, hupdated]
    refine bind_eq_ok.mpr ⟨⟨⟩, ?_, ?_⟩
    · have hback := readBack_valid howner hcreator hvalid
      rwa [readBack, howner] at hback
    · rw [readBack, howner]
      rfl
  unfold NoteTables.get
  rw [h.row_own]
  simp only [hread]
  rfl

/-- **Any other note** is read as before. -/
theorem Recorded.get_other (h : Recorded note row store store') (hsound : Sound store)
    {noteId : String} (hother : noteId ≠ note.id) : store'.get noteId = store.get noteId := by
  unfold NoteTables.get
  rw [h.row_other noteId hother]
  cases hrow : store.notes.find? noteId with
  | none => rfl
  | some other =>
    obtain ⟨hmem, hid⟩ := Table.find?_eq_some.mp hrow
    obtain ⟨categoryId, names, hcategory, hpath⟩ := hsound.filed other hmem
    have hotherId : other.id ≠ note.id := hid.trans_ne hother
    have hread : store'.fromRow other = store.fromRow other := by
      unfold fromRow
      rw [hcategory, categoryPath_of_path h.rooted (hpath.grows h.categories),
        categoryPath_of_path hsound.rooted hpath, h.parts.contentBlocks_other hotherId,
        h.parts.tagsOf_other hsound hotherId, h.parts.attachmentsOf_other hotherId]
    simp only [hread]

theorem Recorded.sound (h : Recorded note row store store') (hsound : Sound store)
    (hcreator : row.creatorUserId.any isBlank = false) : Sound store' := by
  -- a row of `notes` is the one that was written, or was there
  have hnotes : ∀ other ∈ store'.notes.rows, other = row ∨ other ∈ store.notes.rows := by
    intro other hother
    have hfound := Table.find?_of_mem hother
    by_cases hid : other.id = note.id
    · rw [hid, h.row_own] at hfound
      exact .inl (Option.some.inj hfound).symm
    · rw [h.row_other other.id hid] at hfound
      exact .inr (Table.mem_of_find? hfound)
  refine ⟨h.rooted, fun other hother => ?_, h.parts.tagged_kept hsound, h.parts.placed_kept hsound,
    fun other hother => ?_⟩
  · rcases hnotes other hother with rfl | hold
    · obtain ⟨categoryId, hcategory, hpath⟩ := h.filed
      exact ⟨categoryId, _, hcategory, hpath⟩
    · obtain ⟨categoryId, names, hcategory, hpath⟩ := hsound.filed other hold
      exact ⟨categoryId, names, hcategory, hpath.grows h.categories⟩
  · rcases hnotes other hother with rfl | hold
    · exact hcreator
    · exact hsound.named other hold

end Recorded

/-! ### The two writes -/

/-- A conflict is no success. -/
theorem orConflict_ok {α : Type} {result : Except PyError α} {value : α} :
    orConflict result = .ok value ↔ result = .ok value := by
  unfold orConflict
  split <;> simp

/-- The row that `create` inserts. -/
def createdRow (note : Note) (authorization : AuthorizedAction) (categoryId : String) : NoteRow where
  id := note.id
  ownerUserId := note.ownerUserId
  creatorUserId := note.creatorUserId
  title := note.title
  body := note.body
  classification := note.classification
  version := 1
  createdAt := authorization.authorizedAt
  updatedAt := authorization.authorizedAt
  categoryId := some categoryId

theorem create_recorded {sha256 : String → String} {note stored : Note}
    {authorization : AuthorizedAction} {store store' : NoteTables}
    (h : create sha256 note authorization store = .ok (stored, store')) (hsound : Sound store) :
    stored = created note authorization ∧ ∃ row, Recorded stored row store store' ∧
      row.creatorUserId = note.creatorUserId ∧ some row.createdAt = stored.createdAt := by
  obtain ⟨-, -, h⟩ := bind_eq_ok.mp h
  obtain ⟨⟨categoryId, filed⟩, hcategory, h⟩ := bind_eq_ok.mp (orConflict_ok.mp h)
  obtain ⟨-, h⟩ := raiseIf_bind_ok.mp h
  obtain ⟨notes, hnotes, h⟩ := bind_eq_ok.mp h
  obtain ⟨written, hparts, h⟩ := bind_eq_ok.mp h
  obtain ⟨rfl, rfl⟩ := Prod.mk.inj (Except.ok.inj h)
  obtain ⟨categories, rfl, hgrows, hrooted, hpath⟩ := ensureCategoryPath_spec hcategory hsound.rooted
  obtain ⟨hparted, -, hsame, hkept⟩ := writeParts_parted hparts
  have hinsert := insertRow_ok.mp hnotes
  refine ⟨rfl, createdRow note authorization categoryId, ?_, rfl, rfl⟩
  exact {
    holds := ⟨rfl, rfl, rfl, rfl, rfl, rfl, rfl⟩
    row_own := by
      rw [hsame]
      exact Table.find?_insert_self hinsert
    row_other := fun noteId hother => by
      rw [hsame]
      exact (Table.find?_insert hinsert noteId).trans (if_neg hother)
    categories := by rw [hkept]; exact hgrows
    rooted := by rw [hkept]; exact hrooted
    filed := ⟨categoryId, rfl, by rw [hkept]; exact hpath⟩
    parts := ⟨hparted.tags, hparted.tagged, hparted.attached, hparted.blocks, hparted.fields,
      hparted.fts⟩ }

/-- The row that `update` leaves. -/
def updatedRow (note : Note) (authorization : AuthorizedAction) (categoryId : String)
    (row : NoteRow) : NoteRow :=
  { row with
    title := note.title
    body := note.body
    classification := note.classification
    version := note.version
    updatedAt := authorization.authorizedAt
    categoryId := some categoryId }

theorem update_recorded {sha256 : String → String} {note stored : Note} {expectedVersion : Int}
    {authorization : AuthorizedAction} {store store' : NoteTables}
    (h : update sha256 note expectedVersion authorization store = .ok (stored, store'))
    (hsound : Sound store) :
    stored = updated note authorization ∧ ∃ old row, store.notes.find? note.id = some old ∧
      Recorded stored row store store' ∧ row.creatorUserId = old.creatorUserId ∧
        row.createdAt = old.createdAt := by
  obtain ⟨-, -, h⟩ := bind_eq_ok.mp h
  obtain ⟨-, h⟩ := raiseIf_bind_ok.mp h
  obtain ⟨⟨categoryId, filed⟩, hcategory, h⟩ := bind_eq_ok.mp h
  obtain ⟨hcount, h⟩ := raiseIf_bind_ok.mp h
  obtain ⟨written, hparts, h⟩ := bind_eq_ok.mp h
  obtain ⟨rfl, rfl⟩ := Prod.mk.inj (Except.ok.inj h)
  obtain ⟨categories, rfl, hgrows, hrooted, hpath⟩ := ensureCategoryPath_spec hcategory hsound.rooted
  obtain ⟨hparted, -, hsame, hkept⟩ := writeParts_parted hparts
  obtain ⟨old, hold, hhits⟩ := Table.exists_of_count_key (not_not.mp hcount)
  have hid : old.id = note.id := Table.key_of_find? hold
  have howner : old.ownerUserId = note.ownerUserId := by
    simp only [Bool.and_eq_true, decide_eq_true_eq] at hhits
    exact hhits.1
  have hfind := Table.find?_updateKeyWhere (q := fun row : NoteRow =>
    decide (row.ownerUserId = (updated note authorization).ownerUserId) &&
      decide (row.version = expectedVersion)) hold hhits
        (updatedRow note authorization categoryId) fun _ => rfl
  refine ⟨rfl, old, updatedRow note authorization categoryId old, hold, ?_, rfl, rfl⟩
  exact {
    holds := ⟨hid, howner, rfl, rfl, rfl, rfl, rfl⟩
    row_own := by
      rw [hsame]
      exact (hfind note.id).trans (if_pos rfl)
    row_other := fun noteId hother => by
      rw [hsame]
      exact (hfind noteId).trans (if_neg hother)
    categories := by rw [hkept]; exact hgrows
    rooted := by rw [hkept]; exact hrooted
    filed := ⟨categoryId, rfl, by rw [hkept]; exact hpath⟩
    parts := ⟨hparted.tags, hparted.tagged, hparted.attached, hparted.blocks, hparted.fields,
      hparted.fts⟩ }

/-! ### Histories -/

/-- A call of `create` or `update`. -/
inductive Write
  | create (note : Note) (authorization : AuthorizedAction)
  | update (note : Note) (expectedVersion : Int) (authorization : AuthorizedAction)

/-- The note that a call is handed. -/
def Write.note : Write → Note
  | .create note _ => note
  | .update note _ _ => note

def Write.run (sha256 : String → String) : Write → NoteTables → Except PyError (Note × NoteTables)
  | .create note authorization => NoteTables.create sha256 note authorization
  | .update note expectedVersion authorization =>
    NoteTables.update sha256 note expectedVersion authorization

/-- The tables, and what the last committed write of each note returned. -/
structure History where
  store : NoteTables
  returned : String → Option Note

/-- The history after one more call. A call that raises has written nothing. -/
def History.after (sha256 : String → String) (history : History) (write : Write) : History :=
  match write.run sha256 history.store with
  | .ok (note, store) => ⟨store, Function.update history.returned note.id (some note)⟩
  | .error _ => history

/-- A sequence of calls on tables without notes. -/
def history (sha256 : String → String) (users : List String) (writes : List Write) : History :=
  writes.foldl (History.after sha256) ⟨{ users }, fun _ => none⟩

theorem history_append (sha256 : String → String) (users : List String) (done : List Write)
    (write : Write) :
    history sha256 users (done ++ [write]) = (history sha256 users done).after sha256 write := by
  unfold history
  rw [List.foldl_append]
  rfl

/-- All that is read of a note but its creator is what was returned. -/
def SameNote (returned loaded : Note) : Prop :=
  { loaded with creatorUserId := returned.creatorUserId } = returned

/-- Every note is read back. -/
def History.Faithful (history : History) : Prop :=
  ∀ noteId returned, history.returned noteId = some returned →
    ∃ loaded, history.store.get noteId = .ok (some loaded) ∧ SameNote returned loaded

/-- **The round trip.** In every state of a run, what is read of a note is what its last committed
write returned, and no write changes what is read of another note. -/
structure RoundTrips (sha256 : String → String) (users : List String) (writes : List Write) : Prop where
  reads : ∀ done, done <+: writes → (history sha256 users done).Faithful
  others : ∀ done write, done ++ [write] <+: writes → ∀ noteId, noteId ≠ write.note.id →
    (history sha256 users (done ++ [write])).store.get noteId =
      (history sha256 users done).store.get noteId

/-- The attachments are in the order of their ids, and no name of a category has space around it. -/
def Tidy (note : Note) : Prop :=
  note.attachments.Pairwise (fun a b => a.id ≤ b.id) ∧ ∀ name ∈ note.categoryPath, strip name = name

/-- A call whose note is tidy and, in an update, has the stored time of creation. -/
def Write.Plain (store : NoteTables) : Write → Prop
  | .create note _ => Tidy note
  | .update note _ _ => Tidy note ∧
    ∀ row, store.notes.find? note.id = some row → note.createdAt = some row.createdAt

/-- Every call that is committed is plain. -/
def AllPlain (sha256 : String → String) (users : List String) (writes : List Write) : Prop :=
  ∀ done write, done ++ [write] <+: writes →
    (∃ out, write.run sha256 (history sha256 users done).store = .ok out) →
      write.Plain (history sha256 users done).store

/-! ### When a value is read back -/

theorem sortedAttachments_eq_self {attachments : List NoteAttachment} :
    sortedAttachments attachments = attachments ↔
      attachments.Pairwise fun a b => a.id ≤ b.id := by
  unfold sortedAttachments
  constructor
  · intro h
    have : Std.Total fun a b : NoteAttachment => a.id ≤ b.id := ⟨fun a b => le_total a.id b.id⟩
    have : IsTrans NoteAttachment fun a b => a.id ≤ b.id := ⟨fun a b c => le_trans⟩
    have hsorted := List.pairwise_insertionSort (fun a b : NoteAttachment => a.id ≤ b.id) attachments
    rwa [h] at hsorted
  · exact List.Pairwise.insertionSort_eq

theorem sortedTags_sorted (tags : List String) :
    (sortedTags tags).insertionSort (fun a b => a ≤ b) = sortedTags tags :=
  List.Pairwise.insertionSort_eq (List.pairwise_insertionSort _ _)

/-- **What is read is the value**, exactly if the value is tidy and has the stored time. -/
theorem sameNote_readBack {note : Note} {row : NoteRow}
    (htags : note.tags.insertionSort (fun a b => a ≤ b) = note.tags) :
    SameNote note (readBack note row) ↔ Tidy note ∧ some row.createdAt = note.createdAt := by
  have hpath : note.categoryPath.map strip = note.categoryPath ↔
      ∀ name ∈ note.categoryPath, strip name = name := by
    have hiff := List.map_inj_left (f := strip) (g := id) (l := note.categoryPath)
    rwa [List.map_id] at hiff
  unfold SameNote readBack Tidy
  rw [Note.mk.injEq, htags, ← sortedAttachments_eq_self, ← hpath]
  tauto

/-- The tags that are stored of a valid note, and its times, leave it valid. -/
theorem stamped_valid {note : Note} {version : Int} {createdAt updatedAt : Option Instant}
    (h : note.validate = .ok ⟨⟩) (hversion : 1 ≤ version) :
    Note.validate { note with tags := sortedTags note.tags, version, createdAt, updatedAt } =
      .ok ⟨⟩ := by
  unfold Note.validate at h ⊢
  simp only [raiseIf_bind_ok] at h ⊢
  obtain ⟨hid, hcreator, htitle, hpath, hparts, hblocks, -, htags, -, hattachments, hclass⟩ := h
  refine ⟨hid, hcreator, htitle, hpath, hparts, hblocks, not_lt.mpr hversion, ?_, ?_, hattachments,
    hclass⟩
  · simp only [List.any_eq_true, not_exists, not_and] at htags ⊢
    intro tag htag
    exact htags tag (List.mem_dedup.mp ((List.mem_insertionSort _).mp htag))
  · rw [not_not]
    exact (List.perm_insertionSort _ _).nodup_iff.mpr (List.nodup_dedup _)

theorem version_pos {note : Note} (h : note.validate = .ok ⟨⟩) : 1 ≤ note.version := by
  unfold Note.validate at h
  simp only [raiseIf_bind_ok] at h
  exact not_lt.mp h.2.2.2.2.2.2.1

theorem creator_named {note : Note} (h : note.validate = .ok ⟨⟩) :
    note.creatorUserId.any isBlank = false := by
  unfold Note.validate at h
  simp only [raiseIf_bind_ok] at h
  exact Bool.eq_false_of_not_eq_true h.2.1

/-! ### One call -/

/-- **One committed call.** It keeps the tables sound, its note is read back exactly if the call is
plain, and the others are read as before. -/
theorem Write.run_spec {sha256 : String → String} {write : Write} {stored : Note}
    {store store' : NoteTables} (hsound : Sound store) (hvalid : write.note.validate = .ok ⟨⟩)
    (h : write.run sha256 store = .ok (stored, store')) :
    stored.id = write.note.id ∧ Sound store' ∧
      (∃ loaded, store'.get stored.id = .ok (some loaded) ∧
        (SameNote stored loaded ↔ write.Plain store)) ∧
      ∀ noteId, noteId ≠ write.note.id → store'.get noteId = store.get noteId := by
  cases write with
  | create note authorization =>
    obtain ⟨rfl, row, hrecorded, hcreator, hcreated⟩ := create_recorded h hsound
    have hnamed : row.creatorUserId.any isBlank = false := by
      rw [hcreator]
      exact creator_named hvalid
    refine ⟨rfl, hrecorded.sound hsound hnamed, ⟨_, hrecorded.get_own hsound
      (stamped_valid hvalid le_rfl) hnamed, ?_⟩, fun noteId hother =>
        hrecorded.get_other hsound hother⟩
    rw [sameNote_readBack (sortedTags_sorted note.tags)]
    exact and_iff_left hcreated
  | update note expectedVersion authorization =>
    obtain ⟨rfl, old, row, hold, hrecorded, hcreator, hcreated⟩ := update_recorded h hsound
    have hnamed : row.creatorUserId.any isBlank = false := by
      rw [hcreator]
      exact hsound.named old (Table.mem_of_find? hold)
    refine ⟨rfl, hrecorded.sound hsound hnamed, ⟨_, hrecorded.get_own hsound
      (stamped_valid hvalid (version_pos hvalid)) hnamed, ?_⟩, fun noteId hother =>
        hrecorded.get_other hsound hother⟩
    rw [sameNote_readBack (sortedTags_sorted note.tags), hcreated]
    refine and_congr Iff.rfl ⟨fun htime row hrow => ?_, fun htime => (htime old hold).symm⟩
    obtain rfl := Option.some.inj (hold.symm.trans hrow)
    exact htime.symm

/-! ### Every run -/

/-- The tables of a run are sound, and what was returned under an id has that id. -/
structure History.Kept (history : History) : Prop where
  sound : Sound history.store
  ids : ∀ noteId returned, history.returned noteId = some returned → returned.id = noteId

theorem sound_start (users : List String) : Sound { users } where
  rooted := fun _ hrow => absurd hrow (by simp)
  filed := fun _ hrow => absurd hrow (by simp)
  tagged := fun _ hrow => absurd hrow (by simp)
  placed := fun _ hrow => absurd hrow (by simp)
  named := fun _ hrow => absurd hrow (by simp)

/-- What one call does to a history that is kept. -/
theorem History.Kept.after {sha256 : String → String} {history : History} (h : history.Kept)
    {write : Write} (hvalid : write.note.validate = .ok ⟨⟩) :
    (history.after sha256 write).Kept ∧
      (∀ noteId, noteId ≠ write.note.id →
        (history.after sha256 write).store.get noteId = history.store.get noteId) ∧
      (history.Faithful → ((history.after sha256 write).Faithful ↔
        ((∃ out, write.run sha256 history.store = .ok out) → write.Plain history.store))) := by
  unfold History.after
  cases hrun : write.run sha256 history.store with
  | error err =>
    refine ⟨h, fun _ _ => rfl, fun hfaithful => iff_of_true hfaithful ?_⟩
    rintro ⟨out, hout⟩
    cases hout
  | ok out =>
    obtain ⟨stored, store'⟩ := out
    obtain ⟨hid, hsound, ⟨loaded, hget, hsame⟩, hothers⟩ := Write.run_spec h.sound hvalid hrun
    refine ⟨⟨hsound, fun noteId returned hreturned => ?_⟩, hothers, fun hfaithful => ?_⟩
    · change Function.update history.returned stored.id (some stored) noteId = some returned
        at hreturned
      by_cases hnote : noteId = stored.id
      · rw [hnote, Function.update_self] at hreturned
        rw [hnote, Option.some.inj hreturned]
      · rw [Function.update_of_ne hnote] at hreturned
        exact h.ids noteId returned hreturned
    · rw [forall_prop_of_true ⟨_, rfl⟩, ← hsame]
      constructor
      · intro hafter
        obtain ⟨loaded', hget', hsame'⟩ := hafter stored.id stored (Function.update_self ..)
        change store'.get stored.id = _ at hget'
        obtain rfl := Option.some.inj (Except.ok.inj (hget.symm.trans hget'))
        exact hsame'
      · intro hown noteId returned hreturned
        change Function.update history.returned stored.id (some stored) noteId = some returned
          at hreturned
        by_cases hnote : noteId = stored.id
        · subst hnote
          rw [Function.update_self] at hreturned
          obtain rfl := Option.some.inj hreturned
          exact ⟨loaded, hget, hown⟩
        · rw [Function.update_of_ne hnote] at hreturned
          obtain ⟨loaded', hget', hsame'⟩ := hfaithful noteId returned hreturned
          exact ⟨loaded', (hothers noteId (hid ▸ hnote)).trans hget', hsame'⟩

variable {sha256 : String → String} {users : List String} {writes : List Write}

theorem history_kept (hvalid : ∀ write ∈ writes, write.note.validate = .ok ⟨⟩) :
    (history sha256 users writes).Kept := by
  induction writes using List.reverseRecOn with
  | nil => exact ⟨sound_start users, fun _ _ h => absurd h (by simp [history])⟩
  | append_singleton done write ih =>
    rw [history_append]
    exact (ih fun w hw => hvalid w (List.mem_append_left _ hw)).after
      (hvalid write (by simp)) |>.1

/-- **Note storage round trip.** -/
theorem roundTrips_iff (hvalid : ∀ write ∈ writes, write.note.validate = .ok ⟨⟩) :
    RoundTrips sha256 users writes ↔ AllPlain sha256 users writes := by
  have hkept : ∀ done, done <+: writes → (history sha256 users done).Kept :=
    fun done hdone => history_kept fun write hwrite => hvalid write (hdone.subset hwrite)
  have hlast : ∀ done write, done ++ [write] <+: writes →
      done <+: writes ∧ write.note.validate = .ok ⟨⟩ := by
    intro done write hdone
    exact ⟨(List.prefix_append done [write]).trans hdone, hvalid write (hdone.subset (by simp))⟩
  constructor
  · intro h done write hdone
    obtain ⟨hbefore, hwrite⟩ := hlast done write hdone
    have hafter := h.reads _ hdone
    rw [history_append] at hafter
    exact ((hkept done hbefore).after hwrite).2.2 (h.reads done hbefore) |>.mp hafter
  · intro h
    refine ⟨fun done => ?_, fun done write hdone noteId hother => ?_⟩
    · induction done using List.reverseRecOn with
      | nil => exact fun _ _ _ hreturned => absurd hreturned (by simp [history])
      | append_singleton done write ih =>
        intro hdone
        obtain ⟨hbefore, hwrite⟩ := hlast done write hdone
        rw [history_append]
        exact ((hkept done hbefore).after hwrite).2.2 (ih hbefore) |>.mpr (h done write hdone)
    · obtain ⟨hbefore, hwrite⟩ := hlast done write hdone
      rw [history_append]
      exact ((hkept done hbefore).after hwrite).2.1 noteId hother

/-! ### Two attachments -/

theorem attachmentId_valid (id : String) (h : isBlank id = false ∧ id.length ≤ 160) :
    isBlank id = false ∧ id.length ≤ 160 ∧ isBlank "scan.png" = false ∧ "scan.png".length ≤ 500 ∧
      isBlank "image/png" = false ∧ "image/png".length ≤ 200 ∧ isBlank "blob:1" = false ∧
      "blob:1".length ≤ 500 := by
  refine ⟨h.1, h.2, ?_⟩
  decide +kernel

theorem attachmentSize_valid : (0 : Int) ≤ 12 ∧ (12 : Int) ≤ 10737418240 := by decide

def attachment (id : String) (h : isBlank id = false ∧ id.length ≤ 160) : NoteAttachment where
  id := id
  filename := "scan.png"
  mediaType := "image/png"
  sizeBytes := 12
  contentRef := "blob:1"
  valid := attachmentId_valid id h
  size_valid := attachmentSize_valid

theorem idA_valid : isBlank "a" = false ∧ "a".length ≤ 160 := by decide +kernel

theorem idB_valid : isBlank "b" = false ∧ "b".length ≤ 160 := by decide +kernel

/-- A note with two attachments. -/
def scanned (attachments : List NoteAttachment) : Note where
  id := "n1"
  ownerUserId := "alice"
  title := "Receipts"
  body := "March"
  attachments := attachments

theorem note_nonblank : isBlank "note" = false ∧ isBlank "n1" = false ∧ isBlank "alice" = false := by
  decide +kernel

def createN1 : AuthorizedAction where
  actorUserId := "alice"
  action := .create
  resource := { kind := "note", id := "n1", ownerUserId := "alice", nonblank := note_nonblank }
  authorizedAt := 0

/-- The digest of the one category of these notes. -/
def digest (_ : String) : String := "f4f40cc8e43aa609023d7ef9c76d4f596aaf188b2049aed2063e4234f1795207"

def inOrder : Write := .create (scanned [attachment "a" idA_valid, attachment "b" idB_valid]) createN1

def backwards : Write :=
  .create (scanned [attachment "b" idB_valid, attachment "a" idA_valid]) createN1

theorem roundTrips_inOrder : RoundTrips digest ["alice"] [inOrder] := by
  have hvalid : ∀ write ∈ [inOrder], write.note.validate = .ok ⟨⟩ := by
    simp only [List.mem_singleton, forall_eq]
    decide +kernel
  refine (roundTrips_iff hvalid).mpr fun done write hdone _ => ?_
  obtain rfl : write = inOrder := List.mem_singleton.mp (hdone.subset (by simp))
  change Tidy _
  unfold Tidy
  decide +kernel

/-- The attachments come back in another order. -/
theorem not_roundTrips_backwards : ¬ RoundTrips digest ["alice"] [backwards] := by
  intro h
  let ids := fun note : Note => note.attachments.map NoteAttachment.id
  have hwritten : ((history digest ["alice"] [backwards]).returned "n1").map ids =
      some ["b", "a"] := by
    decide +kernel
  have hread : ((history digest ["alice"] [backwards]).store.get "n1").toOption.join.map ids =
      some ["a", "b"] := by
    decide +kernel
  obtain ⟨returned, hreturned, hids⟩ := Option.map_eq_some_iff.mp hwritten
  obtain ⟨loaded, hget, hsame⟩ := h.reads [backwards] List.prefix_rfl "n1" returned hreturned
  rw [hget] at hread
  have hloaded : ids loaded = ["a", "b"] := Option.some.inj hread
  rw [← hsame] at hids
  exact absurd (hids.symm.trans hloaded) (by decide)

end NoteTables

end Zhixu
