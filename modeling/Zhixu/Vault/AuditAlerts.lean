import Zhixu.Vault.Checkpoints

/-!
# Alerts about the audit log

`verify_or_alert` verifies the log and raises the alarm when it does not hold. What it reads may have
been written by anybody, so the question is what it does with a table that is not the log.

`covered` is what the rows say, as far as verification reads them: the event, with the instant for the
text of its time, and the two hashes. A table that is where the log begins is beyond detection, since
the log may have ended there. Every other table departs from the log at a first row
(`Chain.exists_departure`), and the rows before that one pass, as they do in the log
(`verifyFrom_of_covered`, `verifyFrom_append`). Whether the alarm is raised is decided at that row:

* if it does not name the hash before it, verification ends there;
* otherwise it is parsed and its hash compared, and both may raise;
* if neither does, the hashes differ. A hash that is right is one of the log's, as nobody without the
  key makes another, and a table that leads up to it is where the log begins
  (`Chain.Verifies.prefix_of_last`).

So the alarm is raised exactly if the row breaks the chain or can be read (`alertsOnce_iff`).
-/

open Framework

namespace Zhixu.Vault

variable (hmac : Hmac) (fromisoformat : String → Except VaultError Datetime)

/-- `verify_or_alert`. The effect keeps the codes that `alert` was called with. -/
def verifyOrAlert (audit : Table AuditRow AuditRow.sequence) (auditKey : Bytes) :
    Effect (List String) VaultError Bool := do
  let valid ← Effect.check (verify hmac fromisoformat audit auditKey)
  if valid = true then return valid
  else do
    Effect.write fun alerts => alerts ++ ["vault_audit_chain_invalid"]
    return valid

/-- The alert is called once, and the answer is `False`. -/
def AlertsOnce (audit : Table AuditRow AuditRow.sequence) (auditKey : Bytes) : Prop :=
  (verifyOrAlert hmac fromisoformat audit auditKey).exec [] =
    (.ok false, ["vault_audit_chain_invalid"])

/-- A log: events one after the other under one key. -/
def appendAll (events : List AuditEvent) (auditKey : Bytes) : VaultM Unit :=
  Effect.forEach events fun event => append hmac event auditKey

/-- What verification reads of a row. -/
def AuditRow.covered (row : AuditRow) : Option AuditEvent × String × String :=
  ((row.event fromisoformat).toOption, row.previousMac, row.eventMac)

/-- What a table says that is not where the log begins. -/
def Altered (log audit : Table AuditRow AuditRow.sequence) : Prop :=
  ¬ (auditRows audit).map (AuditRow.covered fromisoformat) <+:
    (auditRows log).map (AuditRow.covered fromisoformat)

/-- Hashes that are right for some event were taken from the log. -/
def Unforged (auditKey : Bytes) (log audit : Table AuditRow AuditRow.sequence) : Prop :=
  ∀ row ∈ audit.rows, ∀ event previous, row.eventMac = eventMac hmac auditKey event previous →
    row.eventMac ∈ log.rows.map AuditRow.eventMac

/-- A row that verification gets through: its time is a time, in the years 1 to 9999, and its hash is
ASCII. -/
def AuditRow.Readable (row : AuditRow) : Prop :=
  (∃ event, row.event fromisoformat = .ok event) ∧
    row.eventMac.toList.all (fun c => c.toNat < 128) = true

/-- The hash that the rows so far end with, behind another hash. -/
def lastMac (previous : String) (rows : List AuditRow) : String :=
  (rows.getLast?.map AuditRow.eventMac).getD previous

/-- The first row that departs from the log breaks the chain or can be read. -/
def DepartsReadably (log audit : Table AuditRow AuditRow.sequence) : Prop :=
  ∀ front row back, auditRows audit = front ++ row :: back →
    front.map (AuditRow.covered fromisoformat) <+:
      (auditRows log).map (AuditRow.covered fromisoformat) →
    ¬ (front ++ [row]).map (AuditRow.covered fromisoformat) <+:
      (auditRows log).map (AuditRow.covered fromisoformat) →
    row.previousMac ≠ lastMac "" front ∨ row.Readable fromisoformat

variable {hmac fromisoformat}

/-! ### Rows that pass -/

/-- A row that passes is taken for what it says, and verification goes on behind it. -/
theorem verifyFrom_cons {auditKey : Bytes} {row : AuditRow} {event : AuditEvent}
    (hevent : row.event fromisoformat = .ok event)
    (hcode : compareDigest (eventMac hmac auditKey event row.previousMac) row.eventMac = .ok true)
    (rows : List AuditRow) :
    verifyFrom hmac fromisoformat auditKey row.previousMac (row :: rows) =
      verifyFrom hmac fromisoformat auditKey row.eventMac rows := by
  rw [verifyFrom, if_neg (not_not.mpr rfl), hevent]
  show compareDigest (eventMac hmac auditKey event row.previousMac) row.eventMac >>= _ = _
  rw [hcode, compareDigest_eq_ok hcode]
  rfl

theorem verifyFrom_cons_ok {auditKey : Bytes} {previous : String} {row : AuditRow}
    {rows : List AuditRow}
    (h : verifyFrom hmac fromisoformat auditKey previous (row :: rows) = .ok true) :
    row.previousMac = previous ∧ ∃ event, row.event fromisoformat = .ok event ∧
      compareDigest (eventMac hmac auditKey event row.previousMac) row.eventMac = .ok true ∧
      verifyFrom hmac fromisoformat auditKey row.eventMac rows = .ok true := by
  rw [verifyFrom] at h
  by_cases hprevious : row.previousMac = previous
  · rw [if_neg (not_not.mpr hprevious)] at h
    obtain ⟨event, hevent, h⟩ := bind_eq_ok.mp h
    obtain ⟨same, hsame, h⟩ := bind_eq_ok.mp h
    rw [← hprevious] at hsame
    cases same with
    | false => exact absurd (Except.ok.inj h) (by simp)
    | true =>
      refine ⟨hprevious, event, hevent, hsame, ?_⟩
      rw [← compareDigest_eq_ok hsame, hprevious]
      exact h
  · rw [if_pos hprevious] at h
    exact absurd (Except.ok.inj h) (by simp)

@[simp] theorem lastMac_nil (previous : String) : lastMac previous [] = previous := rfl

theorem lastMac_cons (previous : String) (row : AuditRow) (rows : List AuditRow) :
    lastMac previous (row :: rows) = lastMac row.eventMac rows := by
  unfold lastMac
  rw [List.getLast?_cons]
  cases rows.getLast? with
  | none => rfl
  | some last => rfl

/-- Verification of rows that pass goes on behind the last of them. -/
theorem verifyFrom_append {auditKey : Bytes} {previous : String} {front : List AuditRow}
    (h : verifyFrom hmac fromisoformat auditKey previous front = .ok true) (back : List AuditRow) :
    verifyFrom hmac fromisoformat auditKey previous (front ++ back) =
      verifyFrom hmac fromisoformat auditKey (lastMac previous front) back := by
  induction front generalizing previous with
  | nil => rfl
  | cons row front ih =>
    obtain ⟨rfl, event, hevent, hcode, hrest⟩ := verifyFrom_cons_ok h
    rw [List.cons_append, verifyFrom_cons hevent hcode, ih hrest, lastMac_cons]

/-- The first rows of a log that passes pass. -/
theorem verifyFrom_front {auditKey : Bytes} {previous : String} {front back : List AuditRow}
    (h : verifyFrom hmac fromisoformat auditKey previous (front ++ back) = .ok true) :
    verifyFrom hmac fromisoformat auditKey previous front = .ok true := by
  induction front generalizing previous with
  | nil => rfl
  | cons row front ih =>
    obtain ⟨rfl, event, hevent, hcode, hrest⟩ := verifyFrom_cons_ok h
    rw [verifyFrom_cons hevent hcode]
    exact ih hrest

/-- Rows that say what rows that pass say pass as well. -/
theorem verifyFrom_of_covered {auditKey : Bytes} {previous : String} {rows rows' : List AuditRow}
    (h : verifyFrom hmac fromisoformat auditKey previous rows = .ok true)
    (hsame : rows'.map (AuditRow.covered fromisoformat) =
      rows.map (AuditRow.covered fromisoformat)) :
    verifyFrom hmac fromisoformat auditKey previous rows' = .ok true := by
  induction rows' generalizing previous rows with
  | nil => rfl
  | cons row' rows' ih =>
    cases rows with
    | nil => exact absurd hsame (by simp)
    | cons row rows =>
      obtain ⟨rfl, event, hevent, hcode, hrest⟩ := verifyFrom_cons_ok h
      rw [List.map_cons, List.map_cons, List.cons.injEq] at hsame
      obtain ⟨hrow, hrows⟩ := hsame
      simp only [AuditRow.covered, Prod.mk.injEq, hevent, Except.toOption] at hrow
      obtain ⟨hevent', hprevious, hmac'⟩ := hrow
      have hevent' : row'.event fromisoformat = .ok event := by
        cases hparse : row'.event fromisoformat with
        | error e =>
          rw [hparse] at hevent'
          exact absurd hevent' (by simp)
        | ok found =>
          rw [hparse] at hevent'
          rw [Option.some.inj hevent']
      rw [← hprevious, ← hmac'] at hcode
      rw [← hmac'] at hrest
      rw [← hprevious, verifyFrom_cons hevent' hcode]
      exact ih hrest hrows

/-! ### The log -/

/-- **A log as it is appended to passes.** -/
theorem exec_appendAll (ideal : hmac.Ideal)
    (hascii : ∀ key text, (hmac.hexdigest key text).toList.all (fun c => c.toNat < 128) = true)
    {events : List AuditEvent} (auditKey : Bytes)
    (hparse : ∀ event ∈ events, fromisoformat (isoformat event.occurredAt) =
      .ok ⟨event.occurredAt, true⟩)
    {s : VaultState} (hchained : Chained hmac s.database)
    (hpasses : verify hmac fromisoformat s.database.vaultAudit auditKey = .ok true) :
    ((appendAll hmac events auditKey).exec s).1 = .ok () ∧
      Chained hmac ((appendAll hmac events auditKey).exec s).2.database ∧
      verify hmac fromisoformat ((appendAll hmac events auditKey).exec s).2.database.vaultAudit
        auditKey = .ok true := by
  unfold appendAll
  induction events generalizing s with
  | nil => exact ⟨rfl, hchained, hpasses⟩
  | cons event events ih =>
    obtain ⟨audit, hrows, hexec, hchained'⟩ := hchained.exec_append ideal event auditKey
    rw [Effect.exec_forEach_cons, hexec]
    refine ih (fun event' hevent' => hparse event' (List.mem_cons_of_mem _ hevent')) hchained' ?_
    -- the new row comes behind rows that pass, and is as `append` writes it
    have hlog := auditRows_of_increasing hchained.increasing
    show verifyFrom hmac fromisoformat auditKey "" (auditRows audit) = .ok true
    unfold verify at hpasses
    rw [auditRows_of_increasing hchained'.increasing]
    show verifyFrom hmac fromisoformat auditKey "" audit.rows = .ok true
    rw [hlog] at hpasses
    rw [hrows, verifyFrom_append hpasses]
    have hprevious : lastMac "" s.database.vaultAudit.rows =
        ((lastRow s.database.vaultAudit).map AuditRow.eventMac).getD "" := by
      unfold lastRow
      rw [hlog]
      rfl
    rw [hprevious]
    refine Eq.trans (verifyFrom_eventRow (s.database.sqliteSequence + 1) event
      (hparse event List.mem_cons_self) rfl (hascii _ _)) ?_
    rfl

/-! ### The row that departs -/

theorem exec_verifyOrAlert (audit : Table AuditRow AuditRow.sequence) (auditKey : Bytes) :
    AlertsOnce hmac fromisoformat audit auditKey ↔
      verify hmac fromisoformat audit auditKey = .ok false := by
  unfold AlertsOnce verifyOrAlert
  rw [Effect.exec_check_bind]
  cases verify hmac fromisoformat audit auditKey with
  | error e =>
    constructor
    · intro h
      exact absurd (congrArg Prod.fst h) (by simp)
    · intro h
      exact absurd h (by simp)
  | ok valid =>
    cases valid with
    | true =>
      constructor
      · intro h
        exact absurd (congrArg Prod.fst h) (by simp)
      · intro h
        exact absurd (Except.ok.inj h) (by simp)
    | false =>
      constructor
      · intro _
        rfl
      · intro _
        rfl

/-- How verification goes on at a row that does not pass: it stops if the row does not name the hash
before it, and otherwise it gets through the row exactly if that can be read. -/
theorem verifyFrom_stops_iff
    (hascii : ∀ key text, (hmac.hexdigest key text).toList.all (fun c => c.toNat < 128) = true)
    {auditKey : Bytes} {previous : String} {row : AuditRow} (back : List AuditRow)
    (hfails : verifyFrom hmac fromisoformat auditKey previous [row] ≠ .ok true) :
    verifyFrom hmac fromisoformat auditKey previous (row :: back) = .ok false ↔
      row.previousMac ≠ previous ∨ row.Readable fromisoformat := by
  rw [verifyFrom]
  by_cases hprevious : row.previousMac = previous
  · rw [if_neg (not_not.mpr hprevious)]
    constructor
    · intro h
      obtain ⟨event, hevent, h⟩ := bind_eq_ok.mp h
      obtain ⟨same, hsame, -⟩ := bind_eq_ok.mp h
      unfold compareDigest at hsame
      split at hsame
      · rename_i hboth
        exact .inr ⟨⟨event, hevent⟩, hboth.2⟩
      · exact absurd hsame (by simp)
    · rintro (hbreaks | ⟨⟨event, hevent⟩, hmac'⟩)
      · exact absurd hprevious hbreaks
      have hcompare : compareDigest (eventMac hmac auditKey event previous) row.eventMac =
          .ok (eventMac hmac auditKey event previous = row.eventMac) := by
        unfold compareDigest
        exact if_pos ⟨hascii _ _, hmac'⟩
      -- the hash is another one, for the row does not pass
      have hother : eventMac hmac auditKey event previous ≠ row.eventMac := by
        intro hsame
        refine hfails ?_
        rw [decide_eq_true hsame, ← hprevious] at hcompare
        rw [← hprevious, verifyFrom_cons hevent hcompare]
        rfl
      rw [decide_eq_false hother] at hcompare
      rw [hevent]
      show compareDigest (eventMac hmac auditKey event previous) row.eventMac >>= _ = _
      rw [hcompare]
      rfl
  · rw [if_pos hprevious]
    exact ⟨fun _ => .inl hprevious, fun _ => rfl⟩

/-- **Verification of an altered table ends at the row that departs from the log.** -/
theorem verify_departure_iff (ideal : hmac.Ideal)
    (hascii : ∀ key text, (hmac.hexdigest key text).toList.all (fun c => c.toNat < 128) = true)
    {auditKey : Bytes} {log audit : Table AuditRow AuditRow.sequence}
    (hpasses : verify hmac fromisoformat log auditKey = .ok true)
    (hunforged : Unforged hmac auditKey log audit) {front back : List AuditRow} {row : AuditRow}
    (hsplit : auditRows audit = front ++ row :: back)
    (hagree : front.map (AuditRow.covered fromisoformat) <+:
      (auditRows log).map (AuditRow.covered fromisoformat))
    (hdepart : ¬ (front ++ [row]).map (AuditRow.covered fromisoformat) <+:
      (auditRows log).map (AuditRow.covered fromisoformat)) :
    verify hmac fromisoformat audit auditKey = .ok false ↔
      row.previousMac ≠ lastMac "" front ∨ row.Readable fromisoformat := by
  have hfront : verifyFrom hmac fromisoformat auditKey "" front = .ok true := by
    obtain ⟨rest, hrest⟩ := hagree
    obtain ⟨first, later, hlog, hfirst, -⟩ := List.map_eq_append_iff.mp hrest.symm
    have hall : verifyFrom hmac fromisoformat auditKey "" (first ++ later) = .ok true := by
      rw [← hlog]
      exact hpasses
    exact verifyFrom_of_covered (verifyFrom_front hall) hfirst.symm
  have hfails : verifyFrom hmac fromisoformat auditKey (lastMac "" front) [row] ≠ .ok true := by
    intro hrow
    rw [← verifyFrom_append hfront] at hrow
    have hchain := verifyFrom_ok hrow
    -- the hash of the row is right, so it is one of the log's
    obtain ⟨events, -, hcode⟩ := hchain.last
    have hmem : row ∈ audit.rows := mem_auditRows.mp (by rw [hsplit]; simp)
    have htaken : row.eventMac ∈ log.rows.map AuditRow.eventMac := by
      cases events using List.reverseRecOn with
      | nil =>
        obtain ⟨-, event, -, hsame, -⟩ := verifyFrom_cons_ok
          (by rw [← verifyFrom_append hfront]; exact hrow :
            verifyFrom hmac fromisoformat auditKey (lastMac "" front) [row] = .ok true)
        exact hunforged row hmem event _ (compareDigest_eq_ok hsame).symm
      | append_singleton events event =>
        rw [Chain.head_concat] at hcode
        exact hunforged row hmem event _ hcode
    obtain ⟨taken, htaken, hsame⟩ := List.mem_map.mp htaken
    exact hdepart ((verifyFrom_ok hpasses).prefix_of_last (eventMac_binding ideal auditKey) hchain
      ⟨taken, mem_auditRows.mpr htaken, hsame⟩)
  show verifyFrom hmac fromisoformat auditKey "" (auditRows audit) = .ok false ↔ _
  rw [hsplit, verifyFrom_append hfront]
  exact verifyFrom_stops_iff hascii back hfails

/-! ### The alarm -/

/-- A table with no fewer rows that says something else is altered: texts changed, rows inserted or
doubled. -/
theorem altered_of_length {log audit : Table AuditRow AuditRow.sequence}
    (hlength : (auditRows log).length ≤ (auditRows audit).length)
    (hother : (auditRows audit).map (AuditRow.covered fromisoformat) ≠
      (auditRows log).map (AuditRow.covered fromisoformat)) :
    Altered fromisoformat log audit := by
  intro hagree
  refine hother (hagree.eq_of_length_le ?_)
  rw [List.length_map, List.length_map]
  exact hlength

/-- **When the alarm is raised.** Let a log be appended to under one key, and let a table take its
place that says something else, with no hash in it that is right and not the log's. The alert is
called once and the answer is `False`, exactly if the first row that departs from the log breaks the
chain or can be read. -/
theorem alertsOnce_iff (ideal : hmac.Ideal)
    (hascii : ∀ key text, (hmac.hexdigest key text).toList.all (fun c => c.toNat < 128) = true)
    {events : List AuditEvent} {auditKey : Bytes}
    (hparse : ∀ event ∈ events, fromisoformat (isoformat event.occurredAt) =
      .ok ⟨event.occurredAt, true⟩)
    {s : VaultState} (hempty : s.database.vaultAudit = ∅)
    {log audit : Table AuditRow AuditRow.sequence}
    (hlog : log = ((appendAll hmac events auditKey).exec s).2.database.vaultAudit)
    (hunforged : Unforged hmac auditKey log audit) (haltered : Altered fromisoformat log audit) :
    AlertsOnce hmac fromisoformat audit auditKey ↔ DepartsReadably fromisoformat log audit := by
  have hpasses : verify hmac fromisoformat log auditKey = .ok true := by
    rw [hlog]
    refine (exec_appendAll ideal hascii auditKey hparse (chained_empty hempty) ?_).2.2
    rw [hempty]
    rfl
  rw [exec_verifyOrAlert]
  constructor
  · intro h front row back hsplit hagree hdepart
    exact (verify_departure_iff ideal hascii hpasses hunforged hsplit hagree hdepart).mp h
  · intro h
    obtain ⟨front, row, back, hsplit, hagree, hdepart⟩ := Chain.exists_departure haltered
    exact (verify_departure_iff ideal hascii hpasses hunforged hsplit hagree hdepart).mpr
      (h front row back hsplit hagree hdepart)

/-! ### One event, and two ways to rewrite it -/

/-- A text of two characters for any: as many marks as the number of each character says. -/
def marked (text : List Char) : List Char :=
  text.flatMap fun c => List.replicate c.toNat '1' ++ ['0']

theorem marked_injective : Function.Injective marked := by
  have hhead : ∀ {m n : ℕ} {xs ys : List Char},
      List.replicate m '1' ++ '0' :: xs = List.replicate n '1' ++ '0' :: ys → m = n ∧ xs = ys := by
    intro m
    induction m with
    | zero =>
      intro n xs ys h
      cases n with
      | zero => exact ⟨rfl, (List.cons.inj h).2⟩
      | succ n => exact absurd (List.cons.inj h).1 (by decide)
    | succ m ih =>
      intro n xs ys h
      cases n with
      | zero => exact absurd (List.cons.inj h).1 (by decide)
      | succ n =>
        obtain ⟨hmn, hrest⟩ := ih (List.cons.inj h).2
        exact ⟨congrArg Nat.succ hmn, hrest⟩
  intro text
  induction text with
  | nil =>
    intro text' h
    cases text' with
    | nil => rfl
    | cons c text' => exact absurd h (by simp [marked])
  | cons c text ih =>
    intro text' h
    cases text' with
    | nil => exact absurd h (by simp [marked])
    | cons c' text' =>
      simp only [marked, List.flatMap_cons, List.append_assoc, List.singleton_append] at h
      obtain ⟨hchar, hrest⟩ := hhead h
      rw [Char.toNat_inj.mp hchar, ih hrest]

/-- A hash that can be read, in ASCII. -/
def markedHmac : Hmac := ⟨fun key text => spelledDigest key (marked text)⟩

theorem markedHmac_ideal : markedHmac.Ideal where
  injective h := by
    obtain ⟨hkey, htext⟩ := spelledDigest_injective h
    exact ⟨hkey, marked_injective htext⟩
  nonempty key text hempty := by
    obtain ⟨c, tail, hspelled, -⟩ := spelledDigest_head key (marked text)
    rw [show markedHmac.hexdigest key text = spelledDigest key (marked text) from rfl, hspelled,
      String.ofList_eq_empty_iff] at hempty
    exact absurd hempty (by simp)

theorem markedHmac_ascii (key : Bytes) (text : List Char) :
    (markedHmac.hexdigest key text).toList.all (fun c => c.toNat < 128) = true := by
  have hdigit : ∀ n < 16, (Nat.digitChar n).toNat < 128 := by decide
  have hmarked : ∀ c ∈ marked text, c.toNat < 128 := by
    intro c hc
    obtain ⟨d, -, hd⟩ := List.mem_flatMap.mp hc
    rcases List.mem_append.mp hd with hone | hzero
    · rw [(List.mem_replicate.mp hone).2]
      decide
    · rw [List.mem_singleton.mp hzero]
      decide
  show (String.ofList (spell key (marked text))).toList.all _ = true
  rw [String.toList_ofList, List.all_eq_true]
  induction key with
  | nil =>
    intro c hc
    rcases List.mem_cons.mp hc with rfl | hc
    · decide
    · exact decide_eq_true (hmarked c hc)
  | cons b key ih =>
    intro c hc
    have hb := b.toNat_lt
    simp only [spell, List.mem_cons] at hc
    rcases hc with rfl | rfl | rfl | hc
    · decide
    · exact decide_eq_true (hdigit _ (by omega))
    · exact decide_eq_true (hdigit _ (by omega))
    · exact ih c hc

/-- A log of one event. -/
def shortLog : Table AuditRow AuditRow.sequence :=
  ((appendAll markedHmac [firstEvent] []).exec {}).2.database.vaultAudit

/-- The row of the log. -/
def shortRow : AuditRow := nextRow markedHmac {} firstEvent []

theorem rows_shortLog : shortLog.rows = [shortRow] := by
  obtain ⟨audit, hrows, hexec, -⟩ :=
    Chained.exec_append markedHmac_ideal (chained_empty rfl : Chained markedHmac ({} : VaultState).database) firstEvent []
  unfold shortLog appendAll
  rw [Effect.exec_forEach_cons, hexec]
  exact hrows

/-- The log with a rewritten row. -/
def rewrittenLog (f : AuditRow → AuditRow) (hf : ∀ r, (f r).sequence = r.sequence) :
    Table AuditRow AuditRow.sequence :=
  shortLog.updateWhere (fun _ => true) f hf

theorem auditRows_shortLog : auditRows shortLog = [shortRow] := by
  unfold auditRows Table.select
  rw [rows_shortLog]
  rfl

theorem auditRows_rewrittenLog (f : AuditRow → AuditRow) (hf : ∀ r, (f r).sequence = r.sequence) :
    auditRows (rewrittenLog f hf) = [f shortRow] := by
  have hrows : (rewrittenLog f hf).rows = [f shortRow] := by
    show shortLog.rows.map _ = _
    rw [rows_shortLog]
    rfl
  unfold auditRows Table.select
  rw [hrows]
  rfl

theorem previousMac_shortRow : shortRow.previousMac = "" := rfl

theorem parse_firstEvent : ∀ event ∈ [firstEvent], parseLoggedAt (isoformat event.occurredAt) =
    .ok ⟨event.occurredAt, true⟩ := by
  intro event hevent
  rw [List.mem_singleton.mp hevent]
  exact parse_loggedAt

/-- A row that keeps its hash forges none. -/
theorem unforged_rewrittenLog {f : AuditRow → AuditRow} {hf : ∀ r, (f r).sequence = r.sequence}
    (hkeeps : (f shortRow).eventMac = shortRow.eventMac) :
    Unforged markedHmac [] shortLog (rewrittenLog f hf) := by
  intro row hrow event previous _
  rw [← mem_auditRows, auditRows_rewrittenLog, List.mem_singleton] at hrow
  rw [hrow, hkeeps, rows_shortLog]
  exact List.mem_singleton.mpr rfl

theorem altered_rewrittenLog {f : AuditRow → AuditRow} {hf : ∀ r, (f r).sequence = r.sequence}
    (hother : (f shortRow).covered parseLoggedAt ≠ shortRow.covered parseLoggedAt) :
    Altered parseLoggedAt shortLog (rewrittenLog f hf) := by
  refine altered_of_length ?_ ?_
  · rw [auditRows_rewrittenLog, auditRows_shortLog]
    rfl
  · rw [auditRows_rewrittenLog, auditRows_shortLog]
    exact fun hsame => hother (List.cons.inj hsame).1

/-- The log with another text for the time of its event. -/
def misdatedLog : Table AuditRow AuditRow.sequence :=
  rewrittenLog (fun row => { row with occurredAt := "yesterday" }) fun _ => rfl

/-- The log with another text for the hash before its event. -/
def unlinkedLog : Table AuditRow AuditRow.sequence :=
  rewrittenLog (fun row => { row with previousMac := "x" }) fun _ => rfl

theorem parse_yesterday :
    parseLoggedAt "yesterday" = .error (.value "Invalid isoformat string") := by
  refine if_neg fun h => ?_
  have hlength := congrArg String.length h
  exact absurd hlength (by decide)

theorem event_misdated : ({ shortRow with occurredAt := "yesterday" } : AuditRow).event parseLoggedAt =
    .error (.value "Invalid isoformat string") := by
  unfold AuditRow.event
  show parseLoggedAt "yesterday" >>= _ = _
  rw [parse_yesterday]
  rfl

theorem event_shortRow : shortRow.event parseLoggedAt = .ok firstEvent := by
  unfold AuditRow.event
  show parseLoggedAt (isoformat loggedAt) >>= _ = _
  rw [parse_loggedAt]
  rfl

/-- **A time that is none raises instead of the alarm.** The one event of a log gets another text for
its time, and `verify_or_alert` ends in a `ValueError`. -/
theorem misdated_log_raises :
    Altered parseLoggedAt shortLog misdatedLog ∧ Unforged markedHmac [] shortLog misdatedLog ∧
      (verifyOrAlert markedHmac parseLoggedAt misdatedLog []).exec [] =
        (.error (.value "Invalid isoformat string"), []) ∧
      ¬ AlertsOnce markedHmac parseLoggedAt misdatedLog [] := by
  have hraises : (verifyOrAlert markedHmac parseLoggedAt misdatedLog []).exec [] =
      (.error (.value "Invalid isoformat string"), []) := by
    have hverify : verify markedHmac parseLoggedAt misdatedLog [] =
        .error (.value "Invalid isoformat string") := by
      have hprevious : ¬ ({ shortRow with occurredAt := "yesterday" } : AuditRow).previousMac ≠ "" :=
        not_not.mpr previousMac_shortRow
      unfold verify misdatedLog
      rw [auditRows_rewrittenLog, verifyFrom, if_neg hprevious, event_misdated]
      rfl
    unfold verifyOrAlert
    rw [Effect.exec_check_bind, hverify]
  refine ⟨altered_rewrittenLog ?_, unforged_rewrittenLog rfl, hraises, ?_⟩
  · intro hsame
    have hevent := congrArg Prod.fst hsame
    simp only [AuditRow.covered, event_misdated, event_shortRow, Except.toOption] at hevent
    exact absurd hevent (by simp)
  · intro halerts
    unfold AlertsOnce at halerts
    rw [hraises] at halerts
    exact absurd (congrArg Prod.fst halerts) (by simp)

/-- The log whose event names another hash before it. -/
theorem unlinked_log_alerts : AlertsOnce markedHmac parseLoggedAt unlinkedLog [] := by
  have hother : ({ shortRow with previousMac := "x" } : AuditRow).covered parseLoggedAt ≠
      shortRow.covered parseLoggedAt := by
    intro hsame
    have hprevious := (Prod.mk.inj (Prod.mk.inj hsame).2).1
    rw [previousMac_shortRow] at hprevious
    exact absurd hprevious (by decide)
  have hunforged : Unforged markedHmac [] shortLog unlinkedLog := unforged_rewrittenLog rfl
  have haltered : Altered parseLoggedAt shortLog unlinkedLog := altered_rewrittenLog hother
  have hempty : ({} : VaultState).database.vaultAudit = ∅ := rfl
  have hlog : shortLog =
      ((appendAll markedHmac [firstEvent] []).exec {}).2.database.vaultAudit := rfl
  refine (alertsOnce_iff markedHmac_ideal markedHmac_ascii parse_firstEvent hempty hlog hunforged
    haltered).mpr ?_
  intro front row back hsplit _ _
  unfold unlinkedLog at hsplit
  rw [auditRows_rewrittenLog] at hsplit
  cases front with
  | nil =>
    rw [← (List.cons.inj hsplit).1]
    exact .inl (by decide : "x" ≠ "")
  | cons first front => exact absurd (List.cons.inj hsplit).2 (by simp)

end Zhixu.Vault
