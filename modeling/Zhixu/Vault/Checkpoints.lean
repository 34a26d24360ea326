import Zhixu.Vault.Audit

/-!
# Audit checkpoints

A checkpoint is a file outside the database: the number of the last audit row and its hash,
under a keyed hash of the file's own. `writeCheckpoint` writes one and keeps the newest few,
`verifyLatestCheckpoint` holds the newest one against the log.

Files and the directory they lie in are values here (`CheckpointDirectory`): the names, the
times of modification that order them, and the texts. `writeCheckpoint` is an `Effect` on the
directory, with the name of the new file and its time of modification as arguments.

**What a checkpoint detects.** Let a checkpoint be written over a log, and let it later be the
newest one and hold against a log that anyone may have rewritten
(`checkpoint_detects_rewrite`). Both logs passed `verify`, so both are chains. The file reads
back as it was written (`readCheckpoint_payload`), so some row of the later log has the hash of
the last row of the earlier one. The number under which it is found plays no role: a hash
determines the chain up to it. Hence the earlier log is where the later one begins, row by row
in everything the hashes cover.

An empty log is the case of number zero. A log whose last row has the number zero leaves a
checkpoint that never holds, since its hash is not empty.
-/

open Framework

namespace Zhixu.Vault

/-! ### Files -/

/-- A file of the checkpoint directory with a name that `audit-*.zac` matches. -/
structure CheckpointFile where
  name : String
  /-- `S_ISREG` -/
  regular : Bool := true
  /-- `st_mtime_ns` -/
  modified : Int
  size : ℕ
  /-- the text of the file, if it is one -/
  content : Option (List Char)

/-- The checkpoint directory. -/
structure CheckpointDirectory where
  /-- `S_ISDIR` -/
  real : Bool := true
  files : List CheckpointFile := []

/-- The fields of a checkpoint. -/
structure Checkpoint where
  format : String
  sequence : Int
  headEventMac : String
  createdAt : String
  checkpointMac : String
deriving DecidableEq, Repr

/-- `_CHECKPOINT_FORMAT`. -/
def checkpointFormat : String := "zhixu-vault-audit-checkpoint-v1"

/-- `_MAX_CHECKPOINT_BYTES`. -/
def maxCheckpointBytes : ℕ := 64 * 1024

namespace Checkpoint

/-- What the keyed hash of a checkpoint is taken of: its other fields, behind a prefix that
no event begins with. -/
def canonical (checkpoint : Checkpoint) : List Char :=
  "vault-audit-checkpoint:".toList ++
    Json.writeFields [("created_at", .str checkpoint.createdAt),
      ("format", .str checkpoint.format), ("head_event_mac", .str checkpoint.headEventMac),
      ("sequence", .int checkpoint.sequence)]

/-- The fields of the file, in the order of their keys. -/
def fields (checkpoint : Checkpoint) : List (String × Scalar) :=
  [("checkpoint_mac", .str checkpoint.checkpointMac), ("created_at", .str checkpoint.createdAt),
    ("format", .str checkpoint.format), ("head_event_mac", .str checkpoint.headEventMac),
    ("sequence", .int checkpoint.sequence)]

/-- The text of the file. -/
def payload (checkpoint : Checkpoint) : List Char := Json.writeFields checkpoint.fields

/-- The keys a file has to have, no more and no less. -/
def keys : List String :=
  ["format", "sequence", "head_event_mac", "created_at", "checkpoint_mac"]

end Checkpoint

variable (hmac : Hmac) (fromisoformat : String → Except VaultError Datetime)

/-- `_checkpoint_files`: the newest first. -/
def checkpointFiles (directory : CheckpointDirectory) : Except VaultError (List CheckpointFile) := do
  raiseIf (∃ file ∈ directory.files, file.regular = false)
    (.value "audit checkpoint entry is invalid")
  return directory.files.insertionSort fun a b => b.modified ≤ a.modified

/-- The fields of a parsed checkpoint, with their checks. -/
def checkpointOf (members : List (String × Json)) : Except VaultError Checkpoint := do
  raiseIf (¬ (members.map Prod.fst).Nodup) (.value "audit checkpoint contains a duplicate key")
  raiseIf (¬ (Checkpoint.keys ⊆ members.map Prod.fst ∧ members.map Prod.fst ⊆ Checkpoint.keys))
    (.value "audit checkpoint schema is invalid")
  match Json.get? members "format" with
  | some (.str format) =>
    raiseIf (format ≠ checkpointFormat) (.value "audit checkpoint format is unsupported")
    match Json.get? members "sequence", Json.get? members "head_event_mac",
      Json.get? members "created_at", Json.get? members "checkpoint_mac" with
    | some (.int sequence), some (.str headEventMac), some (.str createdAt),
        some (.str checkpointMac) =>
      raiseIf (sequence < 0 ∨ 64 < headEventMac.length ∨ checkpointMac.length ≠ 64)
        (.value "audit checkpoint values are invalid")
      let value ← fromisoformat createdAt
      raiseIf (value.aware = false) (.value "audit checkpoint time is invalid")
      return ⟨format, sequence, headEventMac, createdAt, checkpointMac⟩
    | _, _, _, _ => throw (.value "audit checkpoint values are invalid")
  | _ => throw (.value "audit checkpoint format is unsupported")

/-- `_read_checkpoint`. -/
def readCheckpoint (file : CheckpointFile) : Except VaultError Checkpoint := do
  raiseIf (file.regular = false ∨ file.size = 0 ∨ maxCheckpointBytes < file.size)
    (.value "audit checkpoint file is invalid")
  match file.content.bind Json.loads with
  | none => throw (.value "audit checkpoint JSON is invalid")
  | some (.obj members) => checkpointOf fromisoformat members
  | some _ => throw (.value "audit checkpoint schema is invalid")

/-! ### Writing and verifying -/

/-- `_head`. -/
def auditHead (audit : Table AuditRow AuditRow.sequence) : Int × String :=
  match lastRow audit with
  | none => (0, "")
  | some row => (row.sequence, row.eventMac)

/-- The checkpoint of a log, at a time. -/
def checkpointFor (audit : Table AuditRow AuditRow.sequence) (auditKey : Bytes) (now : Moment) :
    Checkpoint :=
  let body : Checkpoint :=
    { format := checkpointFormat
      sequence := (auditHead audit).1
      headEventMac := (auditHead audit).2
      createdAt := isoformat now
      checkpointMac := "" }
  { body with checkpointMac := hmac.hexdigest auditKey body.canonical }

/-- `_retain`. -/
def retain (keep : ℕ) : Effect CheckpointDirectory VaultError Unit := do
  let files ← Effect.query checkpointFiles
  Effect.write fun directory => { directory with files := files.take keep }

/-- `write_checkpoint`, to a file of a given name and time of modification. -/
def writeCheckpoint (audit : Table AuditRow AuditRow.sequence) (auditKey : Bytes) (now : Moment)
    (keep : ℕ) (name : String) (modified : Int) : Effect CheckpointDirectory VaultError Unit := do
  Effect.check (raiseIf (¬ (2 ≤ keep ∧ keep ≤ 3650))
    (.value "audit checkpoint retention is invalid"))
  let valid ← Effect.check (verify hmac fromisoformat audit auditKey)
  Effect.check (raiseIf (valid = false) (.runtime "vault audit chain is invalid"))
  let payload := (checkpointFor hmac audit auditKey now).payload
  let directory ← Effect.reads id
  Effect.check (raiseIf (directory.real = false)
    (.permission "audit checkpoint directory must not be a symlink"))
  Effect.check (raiseIf (name ∈ directory.files.map CheckpointFile.name) .os)
  Effect.write fun directory =>
    { directory with
      files := directory.files ++
        [{ name := name, modified := modified, size := payload.length, content := some payload }] }
  retain keep

/-- The body of `verify_latest_checkpoint`, in front of its `except`. -/
def checkLatestCheckpoint (audit : Table AuditRow AuditRow.sequence)
    (directory : CheckpointDirectory) (auditKey : Bytes) : Except VaultError Bool :=
  if directory.real = false then .ok false
  else do
    let candidates ← checkpointFiles directory
    match candidates with
    | [] => return false
    | newest :: _ =>
      let checkpoint ← readCheckpoint fromisoformat newest
      let expected := hmac.hexdigest auditKey checkpoint.canonical
      let genuine ← compareDigest expected checkpoint.checkpointMac
      if genuine = false then return false
      else do
        let valid ← verify hmac fromisoformat audit auditKey
        if valid = false then return false
        else if checkpoint.sequence = 0 then return checkpoint.headEventMac = ""
        else
          match audit.find? checkpoint.sequence with
          | none => return false
          | some row => compareDigest checkpoint.headEventMac row.eventMac

/-- `verify_latest_checkpoint`. -/
def verifyLatestCheckpoint (audit : Table AuditRow AuditRow.sequence)
    (directory : CheckpointDirectory) (auditKey : Bytes) : Except VaultError Bool :=
  match checkLatestCheckpoint hmac fromisoformat audit directory auditKey with
  | .ok result => .ok result
  | .error e => if e.isValueError ∨ e = .os then .ok false else .error e

/-! ### What a file reads back as -/

variable {hmac fromisoformat}

/-- The fields of a payload, in the order they are written. -/
theorem checkpointOf_members (checkpoint : Checkpoint) :
    checkpointOf fromisoformat (Json.members checkpoint.fields) =
      (do
        raiseIf (checkpoint.format ≠ checkpointFormat)
          (.value "audit checkpoint format is unsupported")
        raiseIf (checkpoint.sequence < 0 ∨ 64 < checkpoint.headEventMac.length ∨
          checkpoint.checkpointMac.length ≠ 64) (.value "audit checkpoint values are invalid")
        let value ← fromisoformat checkpoint.createdAt
        raiseIf (value.aware = false) (.value "audit checkpoint time is invalid")
        return checkpoint) := by
  have hkeys : (Json.members checkpoint.fields).map Prod.fst =
      ["checkpoint_mac", "created_at", "format", "head_event_mac", "sequence"] := rfl
  have hnodup : ["checkpoint_mac", "created_at", "format", "head_event_mac", "sequence"].Nodup := by
    decide
  have hschema : Checkpoint.keys ⊆
        ["checkpoint_mac", "created_at", "format", "head_event_mac", "sequence"] ∧
      ["checkpoint_mac", "created_at", "format", "head_event_mac", "sequence"] ⊆
        Checkpoint.keys := by
    decide
  unfold checkpointOf
  rw [hkeys]
  simp only [raiseIf, hnodup, hschema, not_true_eq_false, if_false]
  rfl

/-- **A file reads back as the checkpoint it was written for**, or not at all. -/
theorem readCheckpoint_payload {file : CheckpointFile} {checkpoint found : Checkpoint}
    (hcontent : file.content = some checkpoint.payload)
    (h : readCheckpoint fromisoformat file = .ok found) : found = checkpoint := by
  unfold readCheckpoint at h
  rw [raiseIf_bind_ok] at h
  obtain ⟨-, h⟩ := h
  have hloads : file.content.bind Json.loads = some (.obj (Json.members checkpoint.fields)) := by
    rw [hcontent]
    exact Json.loads_writeFields checkpoint.fields
  rw [hloads] at h
  simp only at h
  rw [checkpointOf_members] at h
  rw [raiseIf_bind_ok] at h
  obtain ⟨-, h⟩ := h
  rw [raiseIf_bind_ok] at h
  obtain ⟨-, h⟩ := h
  obtain ⟨value, -, h⟩ := bind_eq_ok.mp h
  rw [raiseIf_bind_ok] at h
  exact (Except.ok.inj h.2).symm

/-! ### What was written and what held -/

theorem mem_retain {keep : ℕ} {directory : CheckpointDirectory} {file : CheckpointFile}
    (h : file ∈ ((retain keep).exec directory).2.files) : file ∈ directory.files := by
  unfold retain at h
  rw [Effect.exec_bind, Effect.exec_query] at h
  cases hfiles : checkpointFiles directory with
  | error e =>
    rw [hfiles] at h
    exact h
  | ok files =>
    rw [hfiles] at h
    have hkept : file ∈ files.take keep := h
    unfold checkpointFiles at hfiles
    rw [raiseIf_bind_ok] at hfiles
    have hsorted := Except.ok.inj hfiles.2
    rw [← hsorted] at hkept
    exact (List.mem_insertionSort _).mp (List.mem_of_mem_take hkept)

/-- **What a new file says.** A file that `write_checkpoint` has put into the directory is the
checkpoint of a log that passed. -/
theorem written_checkpoint {audit : Table AuditRow AuditRow.sequence} {auditKey : Bytes}
    {now : Moment} {keep : ℕ} {name : String} {modified : Int} {directory : CheckpointDirectory}
    {file : CheckpointFile} (hnew : file ∉ directory.files)
    (h : file ∈ ((writeCheckpoint hmac fromisoformat audit auditKey now keep name modified).exec
      directory).2.files) :
    verify hmac fromisoformat audit auditKey = .ok true ∧
      file.content = some (checkpointFor hmac audit auditKey now).payload := by
  -- every exit in front of the write leaves the directory as it was
  have hstop : ∀ {c : Prop} [Decidable c] {e : VaultError}
      {rest : PUnit → Effect CheckpointDirectory VaultError Unit},
      file ∈ ((Effect.check (raiseIf c e) >>= rest).exec directory).2.files →
        file ∈ ((rest ⟨⟩).exec directory).2.files := by
    intro c _ e rest hfile
    rw [Effect.exec_check_bind] at hfile
    by_cases hc : c
    · rw [raiseIf, if_pos hc] at hfile
      exact absurd hfile hnew
    · rw [raiseIf, if_neg hc] at hfile
      exact hfile
  unfold writeCheckpoint at h
  have h := hstop h
  rw [Effect.exec_check_bind] at h
  cases hverify : verify hmac fromisoformat audit auditKey with
  | error e =>
    rw [hverify] at h
    exact absurd h hnew
  | ok valid =>
    rw [hverify] at h
    simp only at h
    cases valid with
    | false =>
      rw [Effect.exec_check_bind, raiseIf, if_pos rfl] at h
      exact absurd h hnew
    | true =>
      refine ⟨rfl, ?_⟩
      have h := hstop h
      rw [Effect.exec_reads_bind] at h
      have h := hstop (hstop h)
      rw [Effect.exec_bind, Effect.exec_write] at h
      have hfile := mem_retain h
      rcases List.mem_append.mp hfile with hold | hwritten
      · exact absurd hold hnew
      · rw [List.mem_singleton.mp hwritten]

/-- What a checkpoint that held has passed. -/
structure Held (hmac : Hmac) (fromisoformat : String → Except VaultError Datetime)
    (audit : Table AuditRow AuditRow.sequence) (auditKey : Bytes) (checkpoint : Checkpoint) :
    Prop where
  genuine : hmac.hexdigest auditKey checkpoint.canonical = checkpoint.checkpointMac
  valid : verify hmac fromisoformat audit auditKey = .ok true
  found : checkpoint.headEventMac = "" ∨
    ∃ row ∈ audit.rows, row.eventMac = checkpoint.headEventMac

theorem verifyLatestCheckpoint_ok {audit : Table AuditRow AuditRow.sequence}
    {directory : CheckpointDirectory} {auditKey : Bytes} {newest : CheckpointFile}
    {older : List CheckpointFile} (hnewest : checkpointFiles directory = .ok (newest :: older))
    (h : verifyLatestCheckpoint hmac fromisoformat audit directory auditKey = .ok true) :
    ∃ checkpoint, readCheckpoint fromisoformat newest = .ok checkpoint ∧
      Held hmac fromisoformat audit auditKey checkpoint := by
  have hcheck : checkLatestCheckpoint hmac fromisoformat audit directory auditKey = .ok true := by
    unfold verifyLatestCheckpoint at h
    cases hresult : checkLatestCheckpoint hmac fromisoformat audit directory auditKey with
    | ok result =>
      rw [hresult] at h
      exact h
    | error e =>
      rw [hresult] at h
      simp only at h
      split at h
      · exact absurd (Except.ok.inj h) (by simp)
      · exact absurd h (by simp)
  unfold checkLatestCheckpoint at hcheck
  split at hcheck
  · exact absurd (Except.ok.inj hcheck) (by simp)
  rw [hnewest] at hcheck
  obtain ⟨candidates, hcandidates, hcheck⟩ := bind_eq_ok.mp hcheck
  obtain rfl := Except.ok.inj hcandidates
  simp only at hcheck
  obtain ⟨checkpoint, hread, hcheck⟩ := bind_eq_ok.mp hcheck
  obtain ⟨genuine, hgenuine, hcheck⟩ := bind_eq_ok.mp hcheck
  refine ⟨checkpoint, hread, ?_⟩
  cases genuine with
  | false => exact absurd (Except.ok.inj hcheck) (by simp)
  | true =>
    rw [if_neg (by simp)] at hcheck
    obtain ⟨valid, hvalid, hcheck⟩ := bind_eq_ok.mp hcheck
    cases valid with
    | false => exact absurd (Except.ok.inj hcheck) (by simp)
    | true =>
      rw [if_neg (by simp)] at hcheck
      refine ⟨compareDigest_eq_ok hgenuine, hvalid, ?_⟩
      by_cases hzero : checkpoint.sequence = 0
      · rw [if_pos hzero] at hcheck
        exact .inl (of_decide_eq_true (Except.ok.inj hcheck))
      · rw [if_neg hzero] at hcheck
        cases hrow : audit.find? checkpoint.sequence with
        | none =>
          rw [hrow] at hcheck
          exact absurd (Except.ok.inj hcheck) (by simp)
        | some row =>
          rw [hrow] at hcheck
          exact .inr ⟨row, Table.mem_of_find? hrow, (compareDigest_eq_ok hcheck).symm⟩

/-! ### The guarantee -/

/-- What the hash of a row covers: its event, with the instant for the text of its time, and
the hash it names as the one before. -/
def AuditRow.authenticated (fromisoformat : String → Except VaultError Datetime)
    (row : AuditRow) : Option AuditEvent × String :=
  ((row.event fromisoformat).toOption, row.previousMac)

theorem mem_auditRows {audit : Table AuditRow AuditRow.sequence} {row : AuditRow} :
    row ∈ auditRows audit ↔ row ∈ audit.rows := by
  unfold auditRows
  rw [Table.mem_select]
  simp

/-- **A checkpoint detects every rewrite of what it covers.** Let a file be written as the
checkpoint of one log, and let a file of the same text be the newest when the checkpoint holds
against another log. Then, in everything the hashes cover, the first log is where the second
begins. -/
theorem checkpoint_detects_rewrite (ideal : hmac.Ideal)
    {log log' : Table AuditRow AuditRow.sequence} {auditKey auditKey' : Bytes} {now : Moment}
    {keep : ℕ} {name : String} {modified : Int} {directory directory' : CheckpointDirectory}
    {file newest : CheckpointFile} {older : List CheckpointFile}
    (hnew : file ∉ directory.files)
    (hwritten : file ∈ ((writeCheckpoint hmac fromisoformat log auditKey now keep name
      modified).exec directory).2.files)
    (hnewest : checkpointFiles directory' = .ok (newest :: older))
    (hsame : newest.content = file.content)
    (hholds : verifyLatestCheckpoint hmac fromisoformat log' directory' auditKey' = .ok true) :
    (auditRows log).map (AuditRow.authenticated fromisoformat) <+:
      (auditRows log').map (AuditRow.authenticated fromisoformat) := by
  obtain ⟨hvalid, hcontent⟩ := written_checkpoint hnew hwritten
  obtain ⟨checkpoint, hread, hheld⟩ := verifyLatestCheckpoint_ok hnewest hholds
  -- the checkpoint that held is the one that was written
  obtain rfl := readCheckpoint_payload (hsame.trans hcontent) hread
  have hkey : auditKey' = auditKey := (ideal.injective hheld.genuine).1
  subst hkey
  have hchain := verifyFrom_ok hvalid
  have hchain' := verifyFrom_ok hheld.valid
  have hbinding := eventMac_binding ideal auditKey'
  have hhead : (checkpointFor hmac log auditKey' now).headEventMac = (auditHead log).2 := rfl
  have hfound := hheld.found
  rw [hhead] at hfound
  unfold auditHead at hfound
  cases hlast : (auditRows log).getLast? with
  | none =>
    -- nothing was covered
    rw [List.getLast?_eq_none_iff] at hlast
    rw [hlast]
    exact List.nil_prefix
  | some last =>
    obtain ⟨front, hfront⟩ := List.getLast?_eq_some_iff.mp hlast
    rw [hfront] at hchain
    obtain ⟨events, hevents, hcode⟩ := hchain.last
    have hrow : lastRow log = some last := hlast
    rw [hrow] at hfound
    simp only at hfound
    rcases hfound with hempty | ⟨row, hmem, hmac'⟩
    · -- the last row of a chain has a hash
      cases events using List.reverseRecOn with
      | nil => simp at hevents
      | append_singleton events event =>
        rw [Chain.head_concat] at hcode
        exact absurd (hcode.symm.trans hempty) (ideal.nonempty _ _)
    · have hprefix₀ := hchain'.prefix_of_code hbinding (mem_auditRows.mpr hmem)
        (hmac'.trans hcode)
      rw [← hevents, ← hfront] at hprefix₀
      rw [← hfront] at hchain
      have hall := hchain.prefix_of_entries hchain' hprefix₀
      have hpairs := hall.map fun entry => (entry.1, entry.2.1)
      rw [List.map_map, List.map_map] at hpairs
      exact hpairs

/-! ### What holds

The other direction, one function at a time: a file that says what it should is read, and a
checkpoint whose row is still there holds. -/

theorem compareDigest_self {a : String} (h : a.toList.all (fun c => c.toNat < 128) = true) :
    compareDigest a a = .ok true := by
  unfold compareDigest
  rw [if_pos ⟨h, h⟩, decide_eq_true rfl]

theorem checkpointFiles_singleton (file : CheckpointFile) (hregular : file.regular = true) :
    checkpointFiles { files := [file] } = .ok [file] := by
  unfold checkpointFiles raiseIf
  rw [if_neg (by simp [hregular])]
  rfl

theorem readCheckpoint_of_payload {file : CheckpointFile} {checkpoint : Checkpoint}
    {value : Datetime} (hcontent : file.content = some checkpoint.payload)
    (hregular : file.regular = true) (hsize : 0 < file.size ∧ file.size ≤ maxCheckpointBytes)
    (hformat : checkpoint.format = checkpointFormat)
    (hvalues : 0 ≤ checkpoint.sequence ∧ checkpoint.headEventMac.length ≤ 64 ∧
      checkpoint.checkpointMac.length = 64)
    (htime : fromisoformat checkpoint.createdAt = .ok value) (haware : value.aware = true) :
    readCheckpoint fromisoformat file = .ok checkpoint := by
  obtain ⟨hsequence, hhead, hmac'⟩ := hvalues
  have hloads : file.content.bind Json.loads = some (.obj (Json.members checkpoint.fields)) := by
    rw [hcontent]
    exact Json.loads_writeFields checkpoint.fields
  unfold readCheckpoint
  rw [raiseIf_bind_ok]
  refine ⟨by rw [hregular]; simp; omega, ?_⟩
  rw [hloads]
  show checkpointOf fromisoformat (Json.members checkpoint.fields) = _
  rw [checkpointOf_members, raiseIf_bind_ok]
  refine ⟨not_not.mpr hformat, raiseIf_bind_ok.mpr ⟨by omega, ?_⟩⟩
  rw [htime]
  exact raiseIf_bind_ok.mpr ⟨by simp [haware], rfl⟩

/-- A checkpoint whose row is still there holds against a log that passes. -/
theorem verifyLatestCheckpoint_held {audit : Table AuditRow AuditRow.sequence}
    {directory : CheckpointDirectory} {auditKey : Bytes} {newest : CheckpointFile}
    {older : List CheckpointFile} {checkpoint : Checkpoint} {row : AuditRow}
    (hreal : directory.real = true) (hnewest : checkpointFiles directory = .ok (newest :: older))
    (hread : readCheckpoint fromisoformat newest = .ok checkpoint)
    (hgenuine : hmac.hexdigest auditKey checkpoint.canonical = checkpoint.checkpointMac)
    (hascii : checkpoint.checkpointMac.toList.all (fun c => c.toNat < 128) = true)
    (hvalid : verify hmac fromisoformat audit auditKey = .ok true)
    (hsequence : checkpoint.sequence ≠ 0) (hrow : audit.find? checkpoint.sequence = some row)
    (hmac' : row.eventMac = checkpoint.headEventMac)
    (hascii' : checkpoint.headEventMac.toList.all (fun c => c.toNat < 128) = true) :
    verifyLatestCheckpoint hmac fromisoformat audit directory auditKey = .ok true := by
  have hcheck : checkLatestCheckpoint hmac fromisoformat audit directory auditKey = .ok true := by
    unfold checkLatestCheckpoint
    rw [if_neg (by simp [hreal]), hnewest]
    show readCheckpoint fromisoformat newest >>= _ = _
    rw [hread]
    show compareDigest (hmac.hexdigest auditKey checkpoint.canonical) _ >>= _ = _
    rw [hgenuine, compareDigest_self hascii]
    show verify hmac fromisoformat audit auditKey >>= _ = _
    rw [hvalid]
    show (if checkpoint.sequence = 0 then _ else _) = _
    rw [if_neg hsequence, hrow]
    show compareDigest checkpoint.headEventMac row.eventMac = _
    rw [hmac', compareDigest_self hascii']
  unfold verifyLatestCheckpoint
  rw [hcheck]

/-- The first checkpoint of a log that passes is written. -/
theorem writeCheckpoint_empty {audit : Table AuditRow AuditRow.sequence} {auditKey : Bytes}
    {keep : ℕ} (now : Moment) (name : String) (modified : Int)
    (hvalid : verify hmac fromisoformat audit auditKey = .ok true)
    (hkeep : 2 ≤ keep ∧ keep ≤ 3650) :
    { name := name, modified := modified
      size := (checkpointFor hmac audit auditKey now).payload.length
      content := some (checkpointFor hmac audit auditKey now).payload } ∈
      ((writeCheckpoint hmac fromisoformat audit auditKey now keep name modified).exec {}).2.files := by
  unfold writeCheckpoint
  rw [Effect.exec_check_bind, raiseIf, if_neg (not_not.mpr hkeep), hvalid]
  generalize (checkpointFor hmac audit auditKey now).payload = payload
  show ({ name := name, modified := modified, size := payload.length
          content := some payload } : CheckpointFile) ∈
    ((retain keep).exec { files := [{ name := name, modified := modified, size := payload.length
                                      content := some payload }] }).2.files
  unfold retain
  rw [Effect.exec_bind, Effect.exec_query, checkpointFiles_singleton _ rfl]
  obtain ⟨k, rfl⟩ : ∃ k, keep = k + 1 := ⟨keep - 1, by omega⟩
  exact List.mem_cons_self

/-! ### A log that went on

One event, a checkpoint, and a second event behind it. The keyed hash of the example spells
out what it is taken of, except for the two texts whose hashes a checkpoint stores: these get
sixty-four letters, as a checkpoint demands. -/

/-- The bytes of a key, two digits each, up to a closing zero, and a text behind them. -/
def spell : Bytes → List Char → List Char
  | [], text => '0' :: text
  | b :: key, text =>
    '1' :: Nat.digitChar (b.toNat / 16) :: Nat.digitChar (b.toNat % 16) :: spell key text

/-- A hash that can be read. -/
def spelledDigest (key : Bytes) (text : List Char) : String := String.ofList (spell key text)

/-- The readable hash, with sixty-four letters for two texts under the empty key. -/
def tableHmac (first second : List Char) : Hmac where
  hexdigest key text :=
    if key = [] ∧ text = first then String.ofList (List.replicate 64 'a')
    else if key = [] ∧ text = second then String.ofList (List.replicate 64 'b')
    else spelledDigest key text

theorem digitChar_byte_inj {m n : ℕ} (hm : m < 16) (hn : n < 16)
    (h : Nat.digitChar m = Nat.digitChar n) : m = n := by
  have hall : ∀ m < 16, ∀ n < 16, Nat.digitChar m = Nat.digitChar n → m = n := by decide
  exact hall m hm n hn h

theorem spell_injective {key key' : Bytes} {text text' : List Char}
    (h : spell key text = spell key' text') : key = key' ∧ text = text' := by
  induction key generalizing key' with
  | nil =>
    cases key' with
    | nil => exact ⟨rfl, (List.cons.inj h).2⟩
    | cons b' key' => exact absurd (List.cons.inj h).1 (by decide)
  | cons b key ih =>
    cases key' with
    | nil => exact absurd (List.cons.inj h).1 (by decide)
    | cons b' key' =>
      simp only [spell, List.cons.injEq, true_and] at h
      obtain ⟨hhigh, hlow, hrest⟩ := h
      obtain ⟨rfl, rfl⟩ := ih hrest
      have hb := b.toNat_lt
      have hb' := b'.toNat_lt
      have hhigh := digitChar_byte_inj (by omega) (by omega) hhigh
      have hlow := digitChar_byte_inj (by omega) (by omega) hlow
      have hbyte : b = b' := UInt8.toNat_inj.mp (by omega)
      exact ⟨by rw [hbyte], rfl⟩

theorem spelledDigest_injective {key key' : Bytes} {text text' : List Char}
    (h : spelledDigest key text = spelledDigest key' text') : key = key' ∧ text = text' :=
  spell_injective (String.ofList_injective h)

/-- A readable hash begins with a digit. -/
theorem spelledDigest_head (key : Bytes) (text : List Char) :
    ∃ c tail, spelledDigest key text = String.ofList (c :: tail) ∧ (c = '0' ∨ c = '1') := by
  cases key with
  | nil => exact ⟨'0', text, rfl, .inl rfl⟩
  | cons b key => exact ⟨'1', _, rfl, .inr rfl⟩

theorem spelledDigest_ne_letters (key : Bytes) (text : List Char) {c : Char}
    (hc : c = 'a' ∨ c = 'b') :
    String.ofList (List.replicate 64 c) ≠ spelledDigest key text := by
  intro h
  obtain ⟨d, tail, hspelled, hd⟩ := spelledDigest_head key text
  rw [hspelled] at h
  have hhead := (List.cons.inj (String.ofList_injective h)).1
  rcases hc with rfl | rfl <;> rcases hd with rfl | rfl <;> exact absurd hhead (by decide)

theorem tableHmac_ideal {first second : List Char} : (tableHmac first second).Ideal where
  injective := by
    intro key key' text text' h
    have hab : String.ofList (List.replicate 64 'a') ≠ String.ofList (List.replicate 64 'b') :=
      fun hletters => absurd (String.ofList_injective hletters) (by decide)
    have ha := fun key text => spelledDigest_ne_letters key text (.inl rfl : 'a' = 'a' ∨ _)
    have hb := fun key text => spelledDigest_ne_letters key text (.inr rfl : _ ∨ 'b' = 'b')
    unfold tableHmac at h
    simp only at h
    split_ifs at h with h1 h2 h3 h4 h5 h6 h7 h8
    · exact ⟨h1.1.trans h2.1.symm, h1.2.trans h2.2.symm⟩
    · exact absurd h hab
    · exact absurd h (ha _ _)
    · exact absurd h.symm hab
    · exact ⟨h4.1.trans h6.1.symm, h4.2.trans h6.2.symm⟩
    · exact absurd h (hb _ _)
    · exact absurd h.symm (ha _ _)
    · exact absurd h.symm (hb _ _)
    · exact spelledDigest_injective h
  nonempty := by
    intro key text hempty
    obtain ⟨c, tail, hspelled, -⟩ := spelledDigest_head key text
    unfold tableHmac at hempty
    simp only at hempty
    split_ifs at hempty
    · exact absurd hempty (by decide)
    · exact absurd hempty (by decide)
    · rw [hspelled, String.ofList_eq_empty_iff] at hempty
      exact absurd hempty (by simp)

/-- The hash of the event a checkpoint is written behind. -/
def firstMac : String := String.ofList (List.replicate 64 'a')

theorem tableHmac_first (first second : List Char) :
    (tableHmac first second).hexdigest [] first = firstMac := if_pos ⟨rfl, rfl⟩

def loggedAt : Moment := .epoch

/-- The event a checkpoint is written behind. -/
def firstEvent : AuditEvent := ⟨loggedAt, "user_a", "create", "s", "completed", ""⟩

/-- The event that comes later. -/
def secondEvent : AuditEvent := ⟨loggedAt, "user_b", "delete", "s", "denied", ""⟩

def secondMac : String := spelledDigest [] (eventText secondEvent firstMac)

def exampleHmac : Hmac :=
  tableHmac (eventText firstEvent "")
    (Checkpoint.canonical ⟨checkpointFormat, 1, firstMac, isoformat loggedAt, ""⟩)

/-- A parser that knows the one time of the example. -/
def parseLoggedAt (text : String) : Except VaultError Datetime :=
  if text = isoformat loggedAt then .ok ⟨loggedAt, true⟩
  else .error (.value "Invalid isoformat string")

/-- The row of an event. -/
def eventRow (sequence : Int) (event : AuditEvent) (previous mac : String) : AuditRow :=
  { sequence := sequence, occurredAt := isoformat event.occurredAt, actor := event.actor
    action := event.action, secretId := event.secretId, outcome := event.outcome
    reasonCode := event.reasonCode, previousMac := previous, eventMac := mac }

def oneEvent : Table AuditRow AuditRow.sequence := ⟨[eventRow 1 firstEvent "" firstMac], by decide⟩

def twoEvents : Table AuditRow AuditRow.sequence :=
  ⟨[eventRow 1 firstEvent "" firstMac, eventRow 7 secondEvent firstMac secondMac], by decide⟩

def exampleCheckpoint : Checkpoint :=
  ⟨checkpointFormat, 1, firstMac, isoformat loggedAt, String.ofList (List.replicate 64 'b')⟩

def exampleFile : CheckpointFile :=
  { name := "audit-1.zac", modified := 5, size := exampleCheckpoint.payload.length
    content := some exampleCheckpoint.payload }

theorem parse_loggedAt : parseLoggedAt (isoformat loggedAt) = .ok ⟨loggedAt, true⟩ := if_pos rfl

theorem mac_firstEvent : eventMac exampleHmac [] firstEvent "" = firstMac :=
  tableHmac_first (eventText firstEvent "") _

set_option maxRecDepth 20000 in
theorem mac_secondEvent : eventMac exampleHmac [] secondEvent firstMac = secondMac := by rfl

theorem mac_checkpoint : exampleHmac.hexdigest [] (Checkpoint.canonical exampleCheckpoint) =
    String.ofList (List.replicate 64 'b') := by decide +kernel

theorem letters_ascii (c : Char) (hc : c.toNat < 128) :
    (String.ofList (List.replicate 64 c)).toList.all (fun c => c.toNat < 128) = true := by
  rw [String.toList_ofList, List.all_replicate]
  simp [hc]

theorem secondMac_ascii : secondMac.toList.all (fun c => c.toNat < 128) = true := by
  rw [secondMac, spelledDigest, String.toList_ofList]
  decide +kernel

/-- A row that is as `append` writes it passes. -/
theorem verifyFrom_eventRow {hmac : Hmac} {fromisoformat : String → Except VaultError Datetime}
    {auditKey : Bytes} (sequence : Int) (event : AuditEvent) {previous mac : String}
    {rows : List AuditRow} (hparse : fromisoformat (isoformat event.occurredAt) =
      .ok ⟨event.occurredAt, true⟩) (hmac' : eventMac hmac auditKey event previous = mac)
    (hascii : mac.toList.all (fun c => c.toNat < 128) = true) :
    verifyFrom hmac fromisoformat auditKey previous (eventRow sequence event previous mac :: rows) =
      verifyFrom hmac fromisoformat auditKey mac rows := by
  have hmoment : Datetime.astimezone ⟨event.occurredAt, true⟩ = .ok event.occurredAt := by
    unfold Datetime.astimezone
    rw [dif_pos event.occurredAt.2]
  have hevent : (eventRow sequence event previous mac).event fromisoformat = .ok event := by
    unfold AuditRow.event
    show fromisoformat (isoformat event.occurredAt) >>= _ = _
    rw [hparse]
    show Datetime.astimezone ⟨event.occurredAt, true⟩ >>= _ = _
    rw [hmoment]
    rfl
  have hprevious : (eventRow sequence event previous mac).previousMac = previous := rfl
  rw [verifyFrom, if_neg (not_not.mpr hprevious), hevent]
  show compareDigest (eventMac hmac auditKey event previous) mac >>= _ = _
  rw [hmac', compareDigest_self hascii]
  rfl

theorem verify_oneEvent : verify exampleHmac parseLoggedAt oneEvent [] = .ok true :=
  verifyFrom_eventRow 1 firstEvent parse_loggedAt mac_firstEvent (letters_ascii 'a' (by decide))

theorem verify_twoEvents : verify exampleHmac parseLoggedAt twoEvents [] = .ok true := by
  show verifyFrom exampleHmac parseLoggedAt [] ""
    [eventRow 1 firstEvent "" firstMac, eventRow 7 secondEvent firstMac secondMac] = _
  rw [verifyFrom_eventRow 1 firstEvent parse_loggedAt mac_firstEvent
      (letters_ascii 'a' (by decide)),
    verifyFrom_eventRow 7 secondEvent parse_loggedAt mac_secondEvent secondMac_ascii]
  rfl

/-- The checkpoint of the first event is the example's. -/
theorem checkpointFor_oneEvent : checkpointFor exampleHmac oneEvent [] loggedAt = exampleCheckpoint := by
  show (⟨checkpointFormat, 1, firstMac, isoformat loggedAt,
    exampleHmac.hexdigest [] (Checkpoint.canonical exampleCheckpoint)⟩ : Checkpoint) = _
  rw [mac_checkpoint]
  rfl

theorem length_payload : exampleCheckpoint.payload.length = 266 := by decide +kernel

theorem read_exampleFile : readCheckpoint parseLoggedAt exampleFile = .ok exampleCheckpoint := by
  have hlength : exampleFile.size = 266 := length_payload
  refine readCheckpoint_of_payload rfl rfl ?_ rfl (by decide) parse_loggedAt rfl
  rw [hlength]
  decide

theorem find_firstRow :
    twoEvents.find? exampleCheckpoint.sequence = some (eventRow 1 firstEvent "" firstMac) := rfl

/-- The checkpoint of the first event holds against the log that went on. -/
theorem held_exampleFile :
    verifyLatestCheckpoint exampleHmac parseLoggedAt twoEvents { files := [exampleFile] } [] =
      .ok true :=
  verifyLatestCheckpoint_held rfl (checkpointFiles_singleton exampleFile rfl) read_exampleFile
    mac_checkpoint (letters_ascii 'b' (by decide)) verify_twoEvents (by decide) find_firstRow rfl
    (letters_ascii 'a' (by decide))

/-- Writing the checkpoint of the first event makes the file. -/
theorem mem_written_exampleFile :
    exampleFile ∈ ((writeCheckpoint exampleHmac parseLoggedAt oneEvent [] loggedAt 2 "audit-1.zac"
      5).exec {}).2.files := by
  have hkeep : 2 ≤ 2 ∧ 2 ≤ 3650 := by decide
  have hfile := writeCheckpoint_empty loggedAt "audit-1.zac" 5 verify_oneEvent hkeep
  rw [checkpointFor_oneEvent] at hfile
  exact hfile

/-- The guarantee at the log that went on: its first row is the one the checkpoint covers. -/
theorem checkpoint_detects_rewrite_extended :
    (auditRows oneEvent).map (AuditRow.authenticated parseLoggedAt) <+:
      (auditRows twoEvents).map (AuditRow.authenticated parseLoggedAt) := by
  have hideal : exampleHmac.Ideal := tableHmac_ideal
  have hfiles : checkpointFiles { files := [exampleFile] } = .ok [exampleFile] :=
    checkpointFiles_singleton exampleFile rfl
  have hnew : exampleFile ∉ ({} : CheckpointDirectory).files := List.not_mem_nil
  exact checkpoint_detects_rewrite hideal hnew mem_written_exampleFile hfiles rfl held_exampleFile

end Zhixu.Vault
