import Zhixu.Framework.Chain
import Zhixu.Framework.Json
import Zhixu.Vault.Database

/-!
# The audit log

Every audit row carries a keyed hash of its own fields and of the hash of the row before it.
`append` writes the next row, `verify` recomputes the hashes from the first row on.

The table is what an adversary may have rewritten, so nothing is assumed of its rows: not
the numbering, not the texts. `datetime.fromisoformat` is a parameter for the same reason;
the hash covers the instant that it makes of a row's text (`AuditRow.event`), not the text.

What the hashes are taken of determines what it was written for: `eventText_injective` for
an event with the hash before it, from the round trip of JSON texts. `verifyFrom_ok` turns a
passed `verify` into the chain of the library, whose codes `eventMac_binding` binds.
-/

open Framework

namespace Zhixu.Vault

/-- An `AuditEvent`. -/
structure AuditEvent where
  occurredAt : Moment
  actor : String
  action : String
  secretId : String
  outcome : String
  reasonCode : String := ""
deriving DecidableEq

/-- `_event_bytes`: the keys in their order, without blanks. -/
def eventText (event : AuditEvent) (previous : String) : List Char :=
  Json.writeFields [("action", .str event.action), ("actor", .str event.actor),
    ("occurred_at", .str (isoformat event.occurredAt)), ("outcome", .str event.outcome),
    ("previous_mac", .str previous), ("reason_code", .str event.reasonCode),
    ("secret_id", .str event.secretId)]

/-- **The text of an event determines it**, and the hash before it. -/
theorem eventText_injective {event event' : AuditEvent} {previous previous' : String}
    (h : eventText event previous = eventText event' previous') :
    event = event' ∧ previous = previous' := by
  have hfields := Json.writeFields_injective h
  simp only [List.cons.injEq, Prod.mk.injEq, Scalar.str.injEq, true_and, and_true] at hfields
  obtain ⟨haction, hactor, htime, houtcome, hprevious, hreason, hsecret⟩ := hfields
  have hinstant : event.occurredAt = event'.occurredAt :=
    Subtype.ext (isoformat_injective event.occurredAt.2 event'.occurredAt.2 htime)
  refine ⟨?_, hprevious⟩
  cases event
  cases event'
  simp_all

/-! ### The log -/

/-- `SELECT … FROM vault_audit ORDER BY sequence`. -/
def auditRows (audit : Table AuditRow AuditRow.sequence) : List AuditRow :=
  audit.select (fun _ => true) fun a b => a.sequence ≤ b.sequence

/-- `SELECT … ORDER BY sequence DESC LIMIT 1`. -/
def lastRow (audit : Table AuditRow AuditRow.sequence) : Option AuditRow :=
  (auditRows audit).getLast?

variable (hmac : Hmac) (fromisoformat : String → Except VaultError Datetime)

/-- The hash of an event behind another hash. -/
def eventMac (auditKey : Bytes) (event : AuditEvent) (previous : String) : String :=
  hmac.hexdigest auditKey (eventText event previous)

/-- `VaultAuditLog.append`. -/
def append (event : AuditEvent) (auditKey : Bytes) : VaultM Unit :=
  statement fun db =>
    let previous := ((lastRow db.vaultAudit).map AuditRow.eventMac).getD ""
    db.insertAudit
      { sequence := 0
        occurredAt := isoformat event.occurredAt
        actor := event.actor
        action := event.action
        secretId := event.secretId
        outcome := event.outcome
        reasonCode := event.reasonCode
        previousMac := previous
        eventMac := eventMac hmac auditKey event previous }

/-- `hmac.compare_digest` of two texts: both have to be ASCII. -/
def compareDigest (a b : String) : Except VaultError Bool :=
  if a.toList.all (fun c => c.toNat < 128) ∧ b.toList.all (fun c => c.toNat < 128) then
    .ok (a = b)
  else .error (.type "comparing strings with non-ASCII characters is not supported")

/-- The event of a row, as `verify` reads it. -/
def AuditRow.event (row : AuditRow) : Except VaultError AuditEvent := do
  let value ← fromisoformat row.occurredAt
  let occurredAt ← value.astimezone
  return ⟨occurredAt, row.actor, row.action, row.secretId, row.outcome, row.reasonCode⟩

/-- The loop of `verify`, behind a hash. -/
def verifyFrom (auditKey : Bytes) : String → List AuditRow → Except VaultError Bool
  | _, [] => .ok true
  | previous, row :: rows =>
    if row.previousMac ≠ previous then .ok false
    else do
      let event ← row.event fromisoformat
      let expected := eventMac hmac auditKey event previous
      let same ← compareDigest expected row.eventMac
      if same then verifyFrom auditKey expected rows else return false

/-- `VaultAuditLog.verify`. -/
def verify (audit : Table AuditRow AuditRow.sequence) (auditKey : Bytes) :
    Except VaultError Bool :=
  verifyFrom hmac fromisoformat auditKey "" (auditRows audit)

theorem compareDigest_eq_ok {a b : String} (h : compareDigest a b = .ok true) : a = b := by
  unfold compareDigest at h
  split at h
  · exact of_decide_eq_true (Except.ok.inj h)
  · exact absurd h (by simp)

variable {hmac fromisoformat}

/-- **The hash of an event binds it** to the one before. -/
theorem eventMac_binding (ideal : hmac.Ideal) (auditKey : Bytes) :
    Binding (eventMac hmac auditKey) "" where
  injective h := eventText_injective (ideal.injective h).2
  ne_origin _ _ := ideal.nonempty _ _

/-- **A log that passes is a chain.** -/
theorem verifyFrom_ok {auditKey : Bytes} {previous : String} {rows : List AuditRow}
    (h : verifyFrom hmac fromisoformat auditKey previous rows = .ok true) :
    Chain.Verifies (eventMac hmac auditKey) (fun row => (row.event fromisoformat).toOption)
      AuditRow.previousMac AuditRow.eventMac previous rows := by
  induction rows generalizing previous with
  | nil => trivial
  | cons row rows ih =>
    unfold verifyFrom at h
    by_cases hprevious : row.previousMac = previous
    · rw [if_neg (not_not.mpr hprevious)] at h
      obtain ⟨event, hevent, h⟩ := bind_eq_ok.mp h
      obtain ⟨same, hsame, h⟩ := bind_eq_ok.mp h
      cases same with
      | false => exact absurd (Except.ok.inj h) (by simp)
      | true =>
        have hcode := compareDigest_eq_ok hsame
        refine ⟨hprevious, event, ?_, hcode.symm, ih h⟩
        show (row.event fromisoformat).toOption = some event
        rw [hevent]
        rfl
    · rw [if_pos hprevious] at h
      exact absurd (Except.ok.inj h) (by simp)

/-! ### The log as it is appended to -/

variable (hmac) in
/-- The hash of an event under a key, behind another hash. -/
def stampedMac (stamped : Bytes × AuditEvent) (previous : String) : String :=
  eventMac hmac stamped.1 stamped.2 previous

/-- Whatever the keys, the hash of an event binds it and its key to the one before. -/
theorem stampedMac_binding (ideal : hmac.Ideal) : Binding (stampedMac hmac) "" where
  injective h := by
    obtain ⟨hkey, htext⟩ := ideal.injective h
    obtain ⟨hevent, hprevious⟩ := eventText_injective htext
    exact ⟨Prod.ext hkey hevent, hprevious⟩
  ne_origin _ _ := ideal.nonempty _ _

/-- A log as `append` leaves it: numbered upwards, every hash that of an event behind the hash
before. -/
structure Chained (hmac : Hmac) (db : VaultDatabase) : Prop where
  increasing : (db.vaultAudit.rows.map AuditRow.sequence).Pairwise (· < ·)
  top : ∀ row ∈ db.vaultAudit.rows, row.sequence ≤ db.sqliteSequence
  codes : ∃ events, db.vaultAudit.rows.map AuditRow.eventMac =
    Chain.codes (stampedMac hmac) "" events

theorem chained_empty {db : VaultDatabase} (h : db.vaultAudit = ∅) : Chained hmac db where
  increasing := by
    rw [h]
    exact List.Pairwise.nil
  top row hrow := by
    rw [h] at hrow
    exact absurd hrow List.not_mem_nil
  codes := ⟨[], by rw [h]; rfl⟩

/-- A log that is numbered upwards is read in the order it was written in. -/
theorem auditRows_of_increasing {audit : Table AuditRow AuditRow.sequence}
    (h : (audit.rows.map AuditRow.sequence).Pairwise (· < ·)) : auditRows audit = audit.rows := by
  have hsorted : audit.rows.Pairwise fun a b => decide (a.sequence ≤ b.sequence) = true := by
    rw [List.pairwise_map] at h
    exact h.imp fun hlt => decide_eq_true hlt.le
  unfold auditRows Table.select
  rw [List.filter_true]
  exact hsorted.insertionSort_eq

/-- The largest number is the one the table remembers. -/
theorem Chained.foldl_max {db : VaultDatabase} (h : Chained hmac db) :
    db.vaultAudit.rows.foldl (fun top row => max top row.sequence) db.sqliteSequence =
      db.sqliteSequence := by
  have hall : ∀ rows : List AuditRow, (∀ row ∈ rows, row.sequence ≤ db.sqliteSequence) →
      rows.foldl (fun top row => max top row.sequence) db.sqliteSequence = db.sqliteSequence := by
    intro rows
    induction rows with
    | nil => exact fun _ => rfl
    | cons row rows ih =>
      intro hrows
      rw [List.foldl_cons, max_eq_left (hrows row List.mem_cons_self)]
      exact ih fun row' hrow' => hrows row' (List.mem_cons_of_mem _ hrow')
  exact hall _ h.top

/-- The row that `append` writes. -/
def nextRow (hmac : Hmac) (db : VaultDatabase) (event : AuditEvent) (auditKey : Bytes) : AuditRow :=
  let previous := ((lastRow db.vaultAudit).map AuditRow.eventMac).getD ""
  { sequence := db.sqliteSequence + 1
    occurredAt := isoformat event.occurredAt
    actor := event.actor
    action := event.action
    secretId := event.secretId
    outcome := event.outcome
    reasonCode := event.reasonCode
    previousMac := previous
    eventMac := eventMac hmac auditKey event previous }

/-- The hash of the next row is the head of the log that it closes. -/
theorem Chained.nextMac {db : VaultDatabase} (h : Chained hmac db)
    {events : List (Bytes × AuditEvent)} (hcodes : db.vaultAudit.rows.map AuditRow.eventMac =
      Chain.codes (stampedMac hmac) "" events) (event : AuditEvent) (auditKey : Bytes) :
    (nextRow hmac db event auditKey).eventMac =
      Chain.head (stampedMac hmac) "" (events ++ [(auditKey, event)]) := by
  have hlast : ((lastRow db.vaultAudit).map AuditRow.eventMac).getD "" =
      Chain.head (stampedMac hmac) "" events := by
    rw [← Chain.getLast_codes, ← hcodes, List.getLast?_map]
    unfold lastRow
    rw [auditRows_of_increasing h.increasing]
  rw [Chain.head_concat, ← hlast]
  rfl

/-- **An append goes through**: the log gains its row and nothing else changes. -/
theorem Chained.exec_append (ideal : hmac.Ideal) {s : VaultState} (h : Chained hmac s.database)
    (event : AuditEvent) (auditKey : Bytes) :
    ∃ audit : Table AuditRow AuditRow.sequence,
      audit.rows = s.database.vaultAudit.rows ++ [nextRow hmac s.database event auditKey] ∧
      (append hmac event auditKey).exec s = (.ok (), { s with
        database := { s.database with
          vaultAudit := audit
          sqliteSequence := s.database.sqliteSequence + 1 } }) ∧
      Chained hmac { s.database with
        vaultAudit := audit
        sqliteSequence := s.database.sqliteSequence + 1 } := by
  obtain ⟨events, hcodes⟩ := h.codes
  have hmac_next := h.nextMac hcodes event auditKey
  -- neither the hash nor the number has been used
  have hnew : (nextRow hmac s.database event auditKey).eventMac ∉
      s.database.vaultAudit.rows.map AuditRow.eventMac := by
    rw [hmac_next, hcodes]
    exact Chain.head_concat_not_mem (stampedMac_binding ideal) events (auditKey, event)
  have hfree : s.database.vaultAudit.find? (nextRow hmac s.database event auditKey).sequence =
      none := by
    rw [Table.find?_eq_none]
    intro row hrow
    exact ne_of_lt (lt_of_le_of_lt (h.top row hrow) (lt_add_one s.database.sqliteSequence))
  obtain ⟨audit, haudit⟩ : ∃ audit,
      s.database.vaultAudit.insert? (nextRow hmac s.database event auditKey) = some audit := by
    cases hinsert : s.database.vaultAudit.insert? (nextRow hmac s.database event auditKey) with
    | some audit => exact ⟨audit, rfl⟩
    | none =>
      obtain ⟨row, hrow⟩ := Table.insert?_eq_none.mp hinsert
      rw [hfree] at hrow
      exact absurd hrow (by simp)
  have hrows := Table.rows_insert haudit
  refine ⟨audit, hrows, ?_, ?_, ?_, ?_⟩
  · have hinsertAudit : s.database.insertAudit
        { nextRow hmac s.database event auditKey with sequence := 0 } =
          .ok { s.database with
            vaultAudit := audit
            sqliteSequence := s.database.sqliteSequence + 1 } := by
      unfold VaultDatabase.insertAudit
      simp only
      rw [h.foldl_max, if_neg hnew]
      have hsame : s.database.vaultAudit.insert?
          { nextRow hmac s.database event auditKey with
            sequence := s.database.sqliteSequence + 1 } = some audit := haudit
      rw [hsame]
    exact exec_statement_ok.mpr ⟨_, hinsertAudit, rfl⟩
  · show (audit.rows.map AuditRow.sequence).Pairwise (· < ·)
    rw [hrows, List.map_append, List.pairwise_append]
    refine ⟨h.increasing, List.pairwise_singleton _ _, ?_⟩
    intro a ha b hb
    obtain ⟨row, hrow, rfl⟩ := List.mem_map.mp ha
    rw [List.map_singleton, List.mem_singleton] at hb
    rw [hb]
    exact lt_of_le_of_lt (h.top row hrow) (lt_add_one _)
  · intro row hrow
    rw [hrows, List.mem_append, List.mem_singleton] at hrow
    rcases hrow with hold | rfl
    · exact (h.top row hold).trans (le_of_lt (lt_add_one _))
    · exact le_rfl
  · refine ⟨events ++ [(auditKey, event)], ?_⟩
    show audit.rows.map AuditRow.eventMac = _
    rw [hrows, List.map_append, List.map_singleton, hmac_next, hcodes, Chain.codes_concat]

end Zhixu.Vault
