import Zhixu.Domain.Time
import Zhixu.Framework.Crash
import Zhixu.Framework.Table

/-!
# Migrations

`migrate` brings a database up to date: it executes every script that is not recorded in
`schema_migrations` and records it. Each statement of a script commits at once, and the record is a
write of its own, so a process that stops in between leaves a script half done and not recorded. The
next `migrate` executes that script again, from its beginning.

What SQL statements do is a parameter (`Migrator.execute`), as is the way a text splits into them. A
statement here is what commits at once; a transaction that a script spells out would be one.

The bookkeeping is the part that works: scripts that have been recorded are skipped, and from any
point at which `migrate` may stop, the next one goes on with the script it stopped in
(`migrateEach_skip`, `migrateEach_congr`). What is left is a question about scripts alone, whether a
script that has been begun can be executed again (`Resumes`), and the main result is that `migrate` is
resumable exactly if every one of them can.
-/

open Framework

namespace Zhixu

/-- `schema_migrations`. -/
structure SchemaMigration where
  version : ℕ
  name : String
  checksum : String
  appliedAt : Instant
deriving DecidableEq, Repr

/-- A database with migrations: what the scripts write, and the table of those applied, if there is
one. -/
structure MigratedDatabase (σ : Type) where
  content : σ
  schemaMigrations : Option (Table SchemaMigration SchemaMigration.version) := none

/-- A file of the migrations directory, its name taken apart. -/
structure MigrationFile where
  version : ℕ
  name : String
  script : String
deriving DecidableEq, Repr

/-- The exceptions of a migration. -/
inductive MigrationError (ε : Type)
  /-- a statement fails -/
  | statement (e : ε)
  /-- `MigrationDriftError` -/
  | drift (message : String)
  /-- `RuntimeError` -/
  | runtime (message : String)
  /-- `sqlite3.IntegrityError` -/
  | integrity
  /-- `sqlite3.OperationalError` -/
  | operational

/-- What a migration rests on. -/
structure Migrator (Stmt σ ε : Type) where
  /-- the statements of a script -/
  statements : String → List Stmt
  /-- what a statement does -/
  execute : Stmt → σ → Except ε σ
  sha256 : String → String
  /-- when a version is recorded -/
  clock : ℕ → Instant

namespace Migrator

variable {Stmt σ ε : Type} (migrator : Migrator Stmt σ ε) (drifted : ℕ → MigrationError ε)

/-! ### The code -/

/-- Code of a migration. -/
abbrev Code (σ ε : Type) := Process (MigratedDatabase σ) (MigrationError ε)

/-- `CREATE TABLE IF NOT EXISTS schema_migrations`. -/
def createTable : Code σ ε PUnit :=
  Process.once (Effect.write fun db =>
    { db with schemaMigrations := some (db.schemaMigrations.getD ∅) })

/-- `SELECT version,name,checksum FROM schema_migrations`. -/
def selectApplied : Code σ ε (Table SchemaMigration SchemaMigration.version) :=
  Process.query fun db =>
    match db.schemaMigrations with
    | none => .error .operational
    | some applied => .ok applied

/-- One statement, which commits. -/
def executeStatement (statement : Stmt) : Code σ ε PUnit :=
  Process.atomically fun db =>
    match migrator.execute statement db.content with
    | .ok content => .ok (⟨⟩, { db with content })
    | .error e => .error (.statement e)

/-- `connection.executescript(script)`. -/
def executeScript (statements : List Stmt) : Code σ ε PUnit :=
  Process.forEach statements migrator.executeStatement

/-- The row of a file. -/
def recorded (file : MigrationFile) : SchemaMigration where
  version := file.version
  name := file.name
  checksum := migrator.sha256 file.script
  appliedAt := migrator.clock file.version

/-- `INSERT INTO schema_migrations`. -/
def record (file : MigrationFile) : Code σ ε PUnit :=
  Process.atomically fun db =>
    match db.schemaMigrations with
    | none => .error .operational
    | some applied =>
      match applied.insert? (migrator.recorded file) with
      | none => .error .integrity
      | some applied => .ok (⟨⟩, { db with schemaMigrations := some applied })

/-- A row is that of a file. -/
def Matches (row : SchemaMigration) (file : MigrationFile) : Prop :=
  row.name = file.name ∧ row.checksum = migrator.sha256 file.script

instance (row : SchemaMigration) (file : MigrationFile) : Decidable (migrator.Matches row file) :=
  inferInstanceAs (Decidable (_ ∧ _))

/-- The loop of `migrate`, over the files in their order. -/
def migrateEach (applied : Table SchemaMigration SchemaMigration.version) :
    List MigrationFile → Code σ ε (List ℕ)
  | [] => pure []
  | file :: files =>
    match applied.find? file.version with
    | some row =>
      if migrator.Matches row file then migrateEach applied files
      else Process.raise (drifted file.version)
    | none => do
      migrator.executeScript (migrator.statements file.script)
      migrator.record file
      let rest ← migrateEach applied files
      return file.version :: rest

/-- `migrate`. -/
def migrate (files : List MigrationFile) : Code σ ε (List ℕ) := do
  createTable
  let applied ← selectApplied
  migrator.migrateEach drifted applied files

end Migrator

/-- `Database.migrate`. -/
def Database.migrate {Stmt σ ε : Type} (migrator : Migrator Stmt σ ε) (files : List MigrationFile) :
    Migrator.Code σ ε (List ℕ) :=
  migrator.migrate (fun version =>
    .drift s!"applied migration {version} does not match source") files

/-- `VaultDatabase.migrate`. -/
def Vault.VaultDatabase.migrate {Stmt σ ε : Type} (migrator : Migrator Stmt σ ε)
    (files : List MigrationFile) : Migrator.Code σ ε (List ℕ) :=
  migrator.migrate (fun version => .runtime s!"vault migration drift at version {version}") files

namespace Migrator

variable {Stmt σ ε : Type} (migrator : Migrator Stmt σ ε) (drifted : ℕ → MigrationError ε)

/-! ### Scripts -/

/-- What a script does to the content, up to a statement that fails. -/
def runScript : List Stmt → σ → σ × Option ε
  | [], content => (content, none)
  | statement :: statements, content =>
    match migrator.execute statement content with
    | .ok content => runScript statements content
    | .error e => (content, some e)

/-- What scripts do, one after the other. -/
def runEach : List (List Stmt) → σ → σ × Option ε
  | [], content => (content, none)
  | script :: scripts, content =>
    match migrator.runScript script content with
    | (content, none) => runEach scripts content
    | (content, some e) => (content, some e)

/-- The scripts can be begun again: wherever one of them is left, it and those after it come from
there to where they come from its beginning. -/
def Resumes : List (List Stmt) → σ → Prop
  | [], _ => True
  | script :: scripts, content =>
    (∀ k, migrator.runEach (script :: scripts) (migrator.runScript (script.take k) content).1 =
      migrator.runEach (script :: scripts) content) ∧
    Resumes scripts (migrator.runScript script content).1

/-- The files that are not recorded yet. -/
def pending (applied : Table SchemaMigration SchemaMigration.version) (files : List MigrationFile) :
    List MigrationFile :=
  files.filter fun file => (applied.find? file.version).isNone

/-- The scripts of files. -/
def scripts (files : List MigrationFile) : List (List Stmt) :=
  files.map fun file => migrator.statements file.script

/-! ### One script -/

theorem exec_executeScript (statements : List Stmt) (db : MigratedDatabase σ) :
    (migrator.executeScript statements).effect.exec db =
      match migrator.runScript statements db.content with
      | (content, none) => (.ok ⟨⟩, { db with content })
      | (content, some e) => (.error (.statement e), { db with content }) := by
  induction statements generalizing db with
  | nil => rfl
  | cons statement statements ih =>
    change (migrator.executeStatement statement >>= fun _ =>
      migrator.executeScript statements).effect.exec db = _
    rw [Process.effect_bind, Effect.exec_bind]
    unfold executeStatement Process.atomically
    rw [Process.effect_once, Effect.exec_atomically, runScript]
    cases hstatement : migrator.execute statement db.content with
    | error e =>
      simp only [StateT.run, hstatement]
    | ok content =>
      simp only [StateT.run, hstatement]
      exact ih { db with content }

/-- **Where a script stops**: behind any number of its statements. -/
theorem stopped_executeScript {G : MigratedDatabase σ → Prop} (statements : List Stmt)
    (db : MigratedDatabase σ) :
    Process.Stopped G (migrator.executeScript statements) db ↔
      ∀ k, G { db with content := (migrator.runScript (statements.take k) db.content).1 } := by
  induction statements generalizing db with
  | nil =>
    change Process.Stopped G (pure PUnit.unit) db ↔ _
    rw [Process.stopped_pure]
    constructor
    · intro h k
      rw [List.take_nil]
      exact h
    · intro h
      exact h 0
  | cons statement statements ih =>
    change Process.Stopped G (migrator.executeStatement statement >>= fun _ =>
      migrator.executeScript statements) db ↔ _
    rw [Process.stopped_bind]
    unfold executeStatement Process.atomically
    rw [Process.stopped_once, Process.effect_once, Effect.exec_atomically]
    cases hstatement : migrator.execute statement db.content with
    | error e =>
      simp only [StateT.run, hstatement]
      constructor
      · rintro ⟨⟨h, -⟩, -⟩ k
        cases k with
        | zero => exact h
        | succ k =>
          rw [List.take_succ_cons, runScript, hstatement]
          exact h
      · intro h
        exact ⟨⟨h 0, h 0⟩, fun a s' hexec => absurd (Prod.mk.inj hexec).1 (by simp)⟩
    | ok content =>
      simp only [StateT.run, hstatement]
      constructor
      · rintro ⟨⟨h, -⟩, hrest⟩ k
        cases k with
        | zero => exact h
        | succ k =>
          rw [List.take_succ_cons, runScript, hstatement]
          exact (ih { db with content }).mp (hrest ⟨⟩ _ rfl) k
      · intro h
        have hlater : ∀ k, G { db with
            content := (migrator.runScript (statements.take k) content).1 } := by
          intro k
          have hk := h (k + 1)
          rw [List.take_succ_cons, runScript, hstatement] at hk
          exact hk
        refine ⟨⟨h 0, hlater 0⟩, fun a s' hexec => ?_⟩
        obtain ⟨-, rfl⟩ := Prod.mk.inj hexec
        exact (ih { db with content }).mpr hlater

/-! ### The bookkeeping -/

/-- What the bookkeeping asks of a list of files: the ones recorded are as recorded, and the others
can be. -/
structure Bookable (applied table : Table SchemaMigration SchemaMigration.version)
    (files : List MigrationFile) : Prop where
  matching : ∀ file ∈ files, ∀ row, applied.find? file.version = some row → migrator.Matches row file
  nodup : ((pending applied files).map MigrationFile.version).Nodup
  free : ∀ file ∈ pending applied files, table.find? file.version = none

variable {migrator drifted}
variable {applied table : Table SchemaMigration SchemaMigration.version} {file : MigrationFile}
  {files : List MigrationFile}

theorem pending_cons_applied {row : SchemaMigration} (h : applied.find? file.version = some row) :
    pending applied (file :: files) = pending applied files := by
  unfold pending
  rw [List.filter_cons, h]
  rfl

theorem pending_cons_new (h : applied.find? file.version = none) :
    pending applied (file :: files) = file :: pending applied files := by
  unfold pending
  rw [List.filter_cons, h]
  rfl

theorem migrateEach_applied {row : SchemaMigration} (h : applied.find? file.version = some row)
    (hmatches : migrator.Matches row file) :
    migrator.migrateEach drifted applied (file :: files) =
      migrator.migrateEach drifted applied files := by
  rw [migrateEach, h]
  exact if_pos hmatches

theorem migrateEach_new (h : applied.find? file.version = none) :
    migrator.migrateEach drifted applied (file :: files) = (do
      migrator.executeScript (migrator.statements file.script)
      migrator.record file
      let rest ← migrator.migrateEach drifted applied files
      return file.version :: rest) := by
  rw [migrateEach, h]

/-- **Files that are recorded are skipped.** -/
theorem migrateEach_skip {done rest : List MigrationFile}
    (h : ∀ file ∈ done, ∃ row, applied.find? file.version = some row ∧ migrator.Matches row file) :
    migrator.migrateEach drifted applied (done ++ rest) =
      migrator.migrateEach drifted applied rest := by
  induction done with
  | nil => rfl
  | cons file done ih =>
    obtain ⟨row, hrow, hmatches⟩ := h file List.mem_cons_self
    rw [List.cons_append, migrateEach_applied hrow hmatches]
    exact ih fun file' hfile' => h file' (List.mem_cons_of_mem _ hfile')

/-- The loop asks of the records only those of its files. -/
theorem migrateEach_congr (h : ∀ file ∈ files, table.find? file.version = applied.find? file.version) :
    migrator.migrateEach drifted table files = migrator.migrateEach drifted applied files := by
  induction files with
  | nil => rfl
  | cons file files ih =>
    rw [migrateEach, migrateEach, h file List.mem_cons_self,
      ih fun file' hfile' => h file' (List.mem_cons_of_mem _ hfile')]

theorem runScript_of_runEach {script : List Stmt} {later : List (List Stmt)} {content final : σ}
    (h : migrator.runEach (script :: later) content = (final, none)) :
    migrator.runScript script content = ((migrator.runScript script content).1, none) := by
  rw [runEach] at h
  rcases hscript : migrator.runScript script content with ⟨content', _ | e⟩
  · rfl
  · rw [hscript] at h
    exact absurd (Prod.mk.inj h).2 (by simp)

theorem runEach_of_runScript {script : List Stmt} {later : List (List Stmt)} {content content' : σ}
    (h : migrator.runScript script content = (content', none)) :
    migrator.runEach (script :: later) content = migrator.runEach later content' := by
  rw [runEach, h]

namespace Bookable

theorem tail_applied {row : SchemaMigration} (h : migrator.Bookable applied table (file :: files))
    (hfind : applied.find? file.version = some row) : migrator.Bookable applied table files where
  matching := fun file' hfile' => h.matching file' (List.mem_cons_of_mem _ hfile')
  nodup := pending_cons_applied hfind ▸ h.nodup
  free := pending_cons_applied hfind ▸ h.free

/-- A new file can be recorded. -/
theorem insert (h : migrator.Bookable applied table (file :: files))
    (hfind : applied.find? file.version = none) :
    ∃ table', table.insert? (migrator.recorded file) = some table' := by
  have hfree : table.find? file.version = none := by
    refine h.free file ?_
    rw [pending_cons_new hfind]
    exact List.mem_cons_self
  cases hinsert : table.insert? (migrator.recorded file) with
  | some table' => exact ⟨table', rfl⟩
  | none =>
    obtain ⟨row, hrow⟩ := Table.insert?_eq_none.mp hinsert
    exact absurd (hrow.symm.trans hfree) (by simp)

theorem tail_new {table' : Table SchemaMigration SchemaMigration.version}
    (h : migrator.Bookable applied table (file :: files))
    (hfind : applied.find? file.version = none)
    (hinsert : table.insert? (migrator.recorded file) = some table') :
    migrator.Bookable applied table' files := by
  have hnodup := h.nodup
  have hfree := h.free
  rw [pending_cons_new hfind, List.map_cons, List.nodup_cons] at hnodup
  rw [pending_cons_new hfind] at hfree
  refine ⟨fun file' hfile' => h.matching file' (List.mem_cons_of_mem _ hfile'), hnodup.2, ?_⟩
  intro file' hfile'
  have hne : file'.version ≠ (migrator.recorded file).version := by
    intro heq
    exact hnodup.1 (List.mem_map.mpr ⟨file', hfile', heq⟩)
  rw [Table.find?_insert hinsert, if_neg hne]
  exact hfree file' (List.mem_cons_of_mem _ hfile')

end Bookable

theorem exec_record (content : σ) (table : Table SchemaMigration SchemaMigration.version) :
    (migrator.record file : Code σ ε PUnit).effect.exec ⟨content, some table⟩ =
      match table.insert? (migrator.recorded file) with
      | none => (.error .integrity, ⟨content, some table⟩)
      | some table => (.ok ⟨⟩, ⟨content, some table⟩) := by
  unfold record Process.atomically
  rw [Process.effect_once, Effect.exec_atomically]
  cases hinsert : table.insert? (migrator.recorded file) with
  | none => simp only [StateT.run, hinsert]
  | some table' => simp only [StateT.run, hinsert]

/-- Where a record stops. -/
theorem stopped_record {G : MigratedDatabase σ → Prop}
    {table' : Table SchemaMigration SchemaMigration.version}
    (hinsert : table.insert? (migrator.recorded file) = some table') (content : σ) :
    Process.Stopped G (migrator.record file : Code σ ε PUnit) ⟨content, some table⟩ ↔
      G ⟨content, some table⟩ ∧ G ⟨content, some table'⟩ := by
  have hexec : (migrator.record file : Code σ ε PUnit).effect.exec ⟨content, some table⟩ =
      (.ok ⟨⟩, ⟨content, some table'⟩) := by
    rw [exec_record, hinsert]
  unfold record Process.atomically at hexec ⊢
  rw [Process.stopped_once]
  rw [Process.effect_once] at hexec
  rw [hexec]

/-- The pass of the loop over a new file that goes through. -/
theorem exec_new_ok {content : σ} {versions : List ℕ} {after : MigratedDatabase σ}
    (h : applied.find? file.version = none) :
    (migrator.migrateEach drifted applied (file :: files)).effect.exec ⟨content, some table⟩ =
      (.ok versions, after) ↔
    ∃ content' table' rest, migrator.runScript (migrator.statements file.script) content =
        (content', none) ∧
      table.insert? (migrator.recorded file) = some table' ∧
      (migrator.migrateEach drifted applied files).effect.exec ⟨content', some table'⟩ =
        (.ok rest, after) ∧
      versions = file.version :: rest := by
  rw [migrateEach_new h, Process.effect_bind, Effect.exec_bind, exec_executeScript]
  rcases hscript : migrator.runScript (migrator.statements file.script) content with ⟨content', _ | e⟩
  · simp only
    rw [Process.effect_bind, Effect.exec_bind, exec_record]
    cases hinsert : table.insert? (migrator.recorded file) with
    | none => simp
    | some table' =>
      simp only
      rw [Process.effect_bind, Effect.exec_bind]
      rcases hrest : (migrator.migrateEach drifted applied files).effect.exec ⟨content', some table'⟩
        with ⟨rest | rest, after'⟩
      · simp [hrest]
      · constructor
        · intro hanswer
          obtain ⟨hversions, rfl⟩ := Prod.mk.inj hanswer
          exact ⟨content', table', rest, rfl, rfl, hrest, (Except.ok.inj hversions).symm⟩
        · rintro ⟨content'', table'', rest', hscript', hinsert', hrest', rfl⟩
          obtain ⟨rfl, -⟩ := Prod.mk.inj hscript'
          obtain rfl := Option.some.inj hinsert'
          rw [hrest] at hrest'
          obtain ⟨hversions, rfl⟩ := Prod.mk.inj hrest'
          obtain rfl := Except.ok.inj hversions
          rfl
  · simp

/-- **A loop that goes through** finds the bookkeeping in order, executes the scripts that are not
recorded, and records them. -/
theorem migrateEach_ok {content : σ} {versions : List ℕ} {after : MigratedDatabase σ}
    (h : (migrator.migrateEach drifted applied files).effect.exec ⟨content, some table⟩ =
      (.ok versions, after)) :
    migrator.Bookable applied table files ∧
      migrator.runEach (migrator.scripts (pending applied files)) content = (after.content, none) ∧
      ∃ table', after.schemaMigrations = some table' ∧
        table'.rows = table.rows ++ (pending applied files).map migrator.recorded := by
  induction files generalizing content table versions with
  | nil =>
    obtain ⟨-, rfl⟩ := Prod.mk.inj h
    refine ⟨⟨fun file hfile => absurd hfile List.not_mem_nil, List.nodup_nil,
      fun file hfile => absurd hfile List.not_mem_nil⟩, rfl, table, rfl, ?_⟩
    exact (List.append_nil _).symm
  | cons file files ih =>
    cases hfind : applied.find? file.version with
    | some row =>
      by_cases hmatches : migrator.Matches row file
      · rw [migrateEach_applied hfind hmatches] at h
        obtain ⟨hbook, hrun, hrows⟩ := ih h
        rw [pending_cons_applied hfind]
        refine ⟨⟨?_, ?_, ?_⟩, hrun, hrows⟩
        · intro file' hfile' row' hrow'
          rcases List.mem_cons.mp hfile' with rfl | hlater
          · rw [hfind] at hrow'
            rwa [← Option.some.inj hrow']
          · exact hbook.matching file' hlater row' hrow'
        · rw [pending_cons_applied hfind]
          exact hbook.nodup
        · rw [pending_cons_applied hfind]
          exact hbook.free
      · rw [migrateEach, hfind] at h
        simp only [if_neg hmatches] at h
        exact absurd (Prod.mk.inj h).1 (by simp)
    | none =>
      obtain ⟨content', table', rest, hscript, hinsert, hrest, rfl⟩ := (exec_new_ok hfind).mp h
      obtain ⟨hbook, hrun, table'', htable, hrows⟩ := ih hrest
      obtain ⟨hfree, -⟩ := Table.insert?_eq_some.mp hinsert
      rw [pending_cons_new hfind]
      refine ⟨⟨?_, ?_, ?_⟩, ?_, table'', htable, ?_⟩
      · intro file' hfile' row' hrow'
        rcases List.mem_cons.mp hfile' with rfl | hlater
        · rw [hfind] at hrow'
          exact absurd hrow' (by simp)
        · exact hbook.matching file' hlater row' hrow'
      · rw [pending_cons_new hfind, List.map_cons, List.nodup_cons]
        refine ⟨fun hmem => ?_, hbook.nodup⟩
        -- a second file of the same version would find it recorded
        obtain ⟨file', hfile', hversion⟩ := List.mem_map.mp hmem
        have hnone := hbook.free file' hfile'
        rw [hversion] at hnone
        have hself := Table.find?_insert_self hinsert
        change table'.find? file.version = _ at hself
        rw [hnone] at hself
        exact absurd hself (by simp)
      · rw [pending_cons_new hfind]
        intro file' hfile'
        rcases List.mem_cons.mp hfile' with rfl | hlater
        · exact hfree
        · have hnone := hbook.free file' hlater
          rw [Table.find?_insert hinsert] at hnone
          by_cases hversion : file'.version = (migrator.recorded file).version
          · rw [if_pos hversion] at hnone
            exact absurd hnone (by simp)
          · rwa [if_neg hversion] at hnone
      · show migrator.runEach (migrator.statements file.script ::
          migrator.scripts (pending applied files)) content = _
        rw [runEach, hscript]
        exact hrun
      · rw [hrows, Table.rows_insert hinsert, List.map_cons, List.append_assoc, List.singleton_append]

variable (drifted) in
/-- **Scripts that go through**, with the bookkeeping in order, are executed and recorded. -/
theorem exec_migrateEach {content final : σ} (hbook : migrator.Bookable applied table files)
    (hrun : migrator.runEach (migrator.scripts (pending applied files)) content = (final, none)) :
    ∃ versions table',
      (migrator.migrateEach drifted applied files).effect.exec ⟨content, some table⟩ =
        (.ok versions, ⟨final, some table'⟩) ∧
      table'.rows = table.rows ++ (pending applied files).map migrator.recorded := by
  induction files generalizing content table with
  | nil =>
    obtain ⟨rfl, -⟩ := Prod.mk.inj hrun
    exact ⟨[], table, rfl, (List.append_nil _).symm⟩
  | cons file files ih =>
    cases hfind : applied.find? file.version with
    | some row =>
      rw [migrateEach_applied hfind (hbook.matching file List.mem_cons_self row hfind)]
      rw [pending_cons_applied hfind] at hrun ⊢
      exact ih (hbook.tail_applied hfind) hrun
    | none =>
      rw [pending_cons_new hfind] at hrun ⊢
      have hscript : migrator.runScript (migrator.statements file.script) content =
          ((migrator.runScript (migrator.statements file.script) content).1, none) :=
        runScript_of_runEach hrun
      obtain ⟨table', hinsert⟩ := hbook.insert hfind
      have hlater := hbook.tail_new hfind hinsert
      have hrest : migrator.runEach (migrator.scripts (pending applied files))
          (migrator.runScript (migrator.statements file.script) content).1 = (final, none) :=
        (runEach_of_runScript hscript).symm.trans hrun
      obtain ⟨versions, table'', hexec, hrows⟩ := ih hlater hrest
      refine ⟨file.version :: versions, table'',
        (exec_new_ok hfind).mpr ⟨_, table', versions, hscript, hinsert, hexec, rfl⟩, ?_⟩
      rw [hrows, Table.rows_insert hinsert, List.map_cons, List.append_assoc, List.singleton_append]

/-! ### Migrating again -/

/-- The versions a database has recorded, with their names and checksums. -/
def versions (table : Table SchemaMigration SchemaMigration.version) : List (ℕ × String × String) :=
  table.rows.map fun row => (row.version, row.name, row.checksum)

/-- Two databases agree but for when their versions were recorded. -/
structure Agree (db after : MigratedDatabase σ) : Prop where
  content : db.content = after.content
  applied : db.schemaMigrations.map versions = after.schemaMigrations.map versions

/-- From here `code`, whenever it is run, goes through and comes to `after`. -/
def ComesTo (code : Migrator Stmt σ ε → Code σ ε (List ℕ)) (migrator : Migrator Stmt σ ε)
    (after db : MigratedDatabase σ) : Prop :=
  ∀ clock, ∃ versions db', (code { migrator with clock }).effect.exec db = (.ok versions, db') ∧
    Agree db' after

/-- The files of a list are recorded. -/
def Recorded (migrator : Migrator Stmt σ ε) (table : Table SchemaMigration SchemaMigration.version)
    (files : List MigrationFile) : Prop :=
  ∀ file ∈ files, ∃ row, table.find? file.version = some row ∧ migrator.Matches row file

/-- The migrations that a database has recorded. -/
def appliedIn (db : MigratedDatabase σ) : Table SchemaMigration SchemaMigration.version :=
  db.schemaMigrations.getD ∅

theorem exec_createTable (db : MigratedDatabase σ) :
    (createTable : Code σ ε PUnit).effect.exec db =
      (.ok ⟨⟩, ⟨db.content, some (appliedIn db)⟩) := by
  unfold createTable appliedIn
  rw [Process.effect_once, Effect.exec_write]

theorem exec_migrate (db : MigratedDatabase σ) :
    (migrator.migrate drifted files).effect.exec db =
      (migrator.migrateEach drifted (appliedIn db) files).effect.exec
        ⟨db.content, some (appliedIn db)⟩ := by
  unfold migrate
  rw [Process.effect_bind, Effect.exec_bind, exec_createTable]
  rfl

/-- The versions of a table that has been added to. -/
theorem versions_recorded {table table' : Table SchemaMigration SchemaMigration.version}
    {files : List MigrationFile} (h : table'.rows = table.rows ++ files.map migrator.recorded) :
    versions table' = versions table ++
      files.map fun file => (file.version, file.name, migrator.sha256 file.script) := by
  unfold versions
  rw [h, List.map_append, List.map_map]
  rfl

theorem runScript_at (clock : ℕ → Instant) (script : List Stmt) (content : σ) :
    ({ migrator with clock } : Migrator Stmt σ ε).runScript script content =
      migrator.runScript script content := by
  induction script generalizing content with
  | nil => rfl
  | cons statement script ih =>
    rw [runScript, runScript]
    cases migrator.execute statement content with
    | ok content' => exact ih content'
    | error e => rfl

/-- What scripts do does not depend on when. -/
theorem runEach_at (clock : ℕ → Instant) (scripts : List (List Stmt)) (content : σ) :
    ({ migrator with clock } : Migrator Stmt σ ε).runEach scripts content =
      migrator.runEach scripts content := by
  induction scripts generalizing content with
  | nil => rfl
  | cons script scripts ih =>
    rw [runEach, runEach, runScript_at]
    rcases migrator.runScript script content with ⟨content', _ | e⟩
    · exact ih content'
    · rfl

theorem Bookable.at (h : migrator.Bookable applied table files) (clock : ℕ → Instant) :
    ({ migrator with clock } : Migrator Stmt σ ε).Bookable applied table files :=
  ⟨h.matching, h.nodup, h.free⟩

/-- What the second migration does at a point of the first: it goes on with the script it stopped in,
so that all depends on where this script comes from there. -/
theorem comesTo_iff {done : List MigrationFile} {content : σ} {after : MigratedDatabase σ}
    {last : Table SchemaMigration SchemaMigration.version}
    (hdone : migrator.Recorded table done)
    (hagree : ∀ file ∈ files, table.find? file.version = applied.find? file.version)
    (hbook : migrator.Bookable applied table files)
    (hafter : after.schemaMigrations = some last)
    (hrows : versions last = versions table ++ (pending applied files).map fun file =>
      (file.version, file.name, migrator.sha256 file.script)) :
    ComesTo (fun migrator => migrator.migrate drifted (done ++ files)) migrator after
        ⟨content, some table⟩ ↔
      migrator.runEach (migrator.scripts (pending applied files)) content = (after.content, none) := by
  have hexec : ∀ clock, ({ migrator with clock }.migrate drifted (done ++ files)).effect.exec
      ⟨content, some table⟩ =
      ({ migrator with clock }.migrateEach drifted applied files).effect.exec
        ⟨content, some table⟩ := by
    intro clock
    have hdone' : Recorded { migrator with clock } table done := hdone
    rw [exec_migrate]
    change ({ migrator with clock }.migrateEach drifted table (done ++ files)).effect.exec _ = _
    rw [migrateEach_skip hdone', migrateEach_congr hagree]
    rfl
  constructor
  · intro h
    obtain ⟨versions, db', hresult, hsame⟩ := h migrator.clock
    rw [hexec] at hresult
    obtain ⟨-, hrun, -⟩ := migrateEach_ok hresult
    rw [← hsame.content]
    exact hrun
  · intro hrun clock
    obtain ⟨versions, table', hresult, hrows'⟩ :=
      exec_migrateEach drifted (hbook.at clock) ((runEach_at clock _ content).trans hrun)
    refine ⟨versions, _, (hexec clock).trans hresult, rfl, ?_⟩
    rw [hafter]
    exact congrArg some ((versions_recorded hrows').trans hrows.symm)

/-- **Where the loop stops.** A migration can be run again from every point of the loop exactly if the
scripts that it still has to execute can be begun again. -/
theorem stopped_migrateEach {done : List MigrationFile} {content : σ} {after : MigratedDatabase σ}
    {last : Table SchemaMigration SchemaMigration.version}
    (hdone : migrator.Recorded table done)
    (hagree : ∀ file ∈ files, table.find? file.version = applied.find? file.version)
    (hbook : migrator.Bookable applied table files)
    (hafter : after.schemaMigrations = some last)
    (hrows : versions last = versions table ++ (pending applied files).map fun file =>
      (file.version, file.name, migrator.sha256 file.script))
    (hrun : migrator.runEach (migrator.scripts (pending applied files)) content =
      (after.content, none)) :
    Process.Stopped (ComesTo (fun migrator => migrator.migrate drifted (done ++ files)) migrator after)
        (migrator.migrateEach drifted applied files) ⟨content, some table⟩ ↔
      migrator.Resumes (migrator.scripts (pending applied files)) content := by
  induction files generalizing done content table with
  | nil =>
    change Process.Stopped _ (pure []) _ ↔ True
    rw [Process.stopped_pure, comesTo_iff hdone hagree hbook hafter hrows]
    exact iff_true_intro hrun
  | cons file files ih =>
    have hsplit : done ++ file :: files = (done ++ [file]) ++ files := by
      rw [List.append_assoc, List.singleton_append]
    cases hfind : applied.find? file.version with
    | some row =>
      have hmatches := hbook.matching file List.mem_cons_self row hfind
      rw [migrateEach_applied hfind hmatches]
      rw [pending_cons_applied hfind] at hrows hrun ⊢
      rw [hsplit]
      refine ih ?_ (fun file' hfile' => hagree file' (List.mem_cons_of_mem _ hfile'))
        (hbook.tail_applied hfind) hrows hrun
      intro file' hfile'
      rcases List.mem_append.mp hfile' with hearlier | hthis
      · exact hdone file' hearlier
      · rw [List.mem_singleton.mp hthis, hagree file List.mem_cons_self]
        exact ⟨row, hfind, hmatches⟩
    | none =>
      have hhere : ∀ content, ComesTo (fun migrator => migrator.migrate drifted
            (done ++ file :: files)) migrator after ⟨content, some table⟩ ↔
          migrator.runEach (migrator.scripts (pending applied (file :: files))) content =
            (after.content, none) :=
        fun content => comesTo_iff hdone hagree hbook hafter hrows
      obtain ⟨table', hinsert⟩ := hbook.insert hfind
      have hlater := hbook.tail_new hfind hinsert
      rw [pending_cons_new hfind] at hhere hrows hrun ⊢
      have hscript := runScript_of_runEach hrun
      have hrest := (runEach_of_runScript hscript).symm.trans hrun
      have hself := Table.find?_insert_self hinsert
      -- once the file is recorded, the loop is as for the files behind it
      have hdone' : migrator.Recorded table' (done ++ [file]) := by
        intro file' hfile'
        rcases List.mem_append.mp hfile' with hearlier | hthis
        · obtain ⟨row, hrow, hmatches⟩ := hdone file' hearlier
          refine ⟨row, ?_, hmatches⟩
          rw [Table.find?_insert hinsert, if_neg, hrow]
          intro heq
          have hfree := (Table.insert?_eq_some.mp hinsert).1
          rw [← heq, hrow] at hfree
          exact absurd hfree (by simp)
        · rw [List.mem_singleton.mp hthis]
          exact ⟨_, hself, rfl, rfl⟩
      have hagree' : ∀ file' ∈ files,
          table'.find? file'.version = applied.find? file'.version := by
        intro file' hfile'
        cases hfind' : applied.find? file'.version with
        | none =>
          exact hlater.free file' (List.mem_filter.mpr ⟨hfile', by rw [hfind']; rfl⟩)
        | some row =>
          rw [Table.find?_insert hinsert, if_neg, hagree file' (List.mem_cons_of_mem _ hfile'), hfind']
          intro heq
          change file'.version = file.version at heq
          rw [heq, hfind] at hfind'
          exact absurd hfind' (by simp)
      have hrows' : versions last = versions table' ++ (pending applied files).map fun file =>
          (file.version, file.name, migrator.sha256 file.script) := by
        have hone : table'.rows = table.rows ++ [file].map migrator.recorded :=
          Table.rows_insert hinsert
        rw [hrows, versions_recorded hone, List.append_assoc]
        rfl
      have hrest' := ih hdone' hagree' hlater hrows' hrest
      rw [← hsplit] at hrest'
      rw [migrateEach_new hfind, Process.stopped_bind, stopped_executeScript]
      constructor
      · rintro ⟨hwithin, hbehind⟩
        refine ⟨fun k => ?_, ?_⟩
        · exact ((hhere _).mp (hwithin k)).trans hrun.symm
        · have hrecord := hbehind ⟨⟩ ⟨_, some table⟩ (by rw [exec_executeScript, hscript])
          have hnext := ((Process.stopped_bind _ _ _).mp hrecord).2 ⟨⟩ ⟨_, some table'⟩
            (by rw [exec_record, hinsert])
          exact hrest'.mp ((Process.stopped_bind_pure _ _ _).mp hnext)
      · rintro ⟨hwithin, hbehind⟩
        have hnext := hrest'.mpr hbehind
        refine ⟨fun k => (hhere _).mpr ((hwithin k).trans hrun), fun a s' hexec => ?_⟩
        rw [exec_executeScript, hscript] at hexec
        obtain ⟨-, rfl⟩ := Prod.mk.inj hexec
        have hfull : ComesTo (fun migrator => migrator.migrate drifted (done ++ file :: files))
            migrator after
            ⟨(migrator.runScript (migrator.statements file.script) content).1, some table⟩ := by
          have hlength := (hhere _).mpr
            ((hwithin (migrator.statements file.script).length).trans hrun)
          rwa [List.take_length] at hlength
        rw [Process.stopped_bind]
        refine ⟨?_, fun a s' hexec => ?_⟩
        · exact (stopped_record hinsert _).mpr ⟨hfull, hnext.start⟩
        · rw [exec_record, hinsert] at hexec
          obtain ⟨-, rfl⟩ := Prod.mk.inj hexec
          exact (Process.stopped_bind_pure _ _ _).mpr hnext

/-! ### A statement that fails -/

/-- Once a loop is through the first of its files, it goes on with the others. -/
theorem migrateEach_append {front back : List MigrationFile} {content : σ}
    {mid : MigratedDatabase σ} {versions : List ℕ}
    (h : (migrator.migrateEach drifted applied front).effect.exec ⟨content, some table⟩ =
      (.ok versions, mid)) :
    (migrator.migrateEach drifted applied (front ++ back)).effect.exec ⟨content, some table⟩ =
      (((migrator.migrateEach drifted applied back).effect.exec mid).1.map (versions ++ ·),
        ((migrator.migrateEach drifted applied back).effect.exec mid).2) := by
  induction front generalizing content table versions with
  | nil =>
    obtain ⟨hversions, rfl⟩ := Prod.mk.inj h
    obtain rfl := Except.ok.inj hversions
    rw [List.nil_append]
    rcases (migrator.migrateEach drifted applied back).effect.exec ⟨content, some table⟩ with
      ⟨_ | _, s⟩ <;> rfl
  | cons file front ih =>
    cases hfind : applied.find? file.version with
    | some row =>
      by_cases hmatches : migrator.Matches row file
      · rw [migrateEach_applied hfind hmatches] at h
        rw [List.cons_append, migrateEach_applied hfind hmatches]
        exact ih h
      · rw [migrateEach, hfind] at h
        simp only [if_neg hmatches] at h
        exact absurd (Prod.mk.inj h).1 (by simp)
    | none =>
      obtain ⟨content', table', earlier, hscript, hinsert, hfront, rfl⟩ := (exec_new_ok hfind).mp h
      rw [List.cons_append, migrateEach_new hfind, Process.effect_bind, Effect.exec_bind,
        exec_executeScript, hscript]
      simp only
      rw [Process.effect_bind, Effect.exec_bind, exec_record, hinsert]
      simp only
      rw [Process.effect_bind, Effect.exec_bind, ih hfront]
      rcases (migrator.migrateEach drifted applied back).effect.exec mid with ⟨_ | _, s⟩ <;> rfl

/-- A new file with a statement that fails. -/
theorem exec_new_error {content mid : σ} {e : ε} (hfind : applied.find? file.version = none)
    (hscript : migrator.runScript (migrator.statements file.script) content = (mid, some e)) :
    (migrator.migrateEach drifted applied (file :: files)).effect.exec ⟨content, some table⟩ =
      (.error (.statement e), ⟨mid, some table⟩) := by
  rw [migrateEach_new hfind, Process.effect_bind, Effect.exec_bind, exec_executeScript, hscript]

/-- A new file whose version is taken. -/
theorem exec_new_taken {content content' : σ} (hfind : applied.find? file.version = none)
    (hscript : migrator.runScript (migrator.statements file.script) content = (content', none))
    (hinsert : table.insert? (migrator.recorded file) = none) :
    (migrator.migrateEach drifted applied (file :: files)).effect.exec ⟨content, some table⟩ =
      (.error .integrity, ⟨content', some table⟩) := by
  rw [migrateEach_new hfind, Process.effect_bind, Effect.exec_bind, exec_executeScript, hscript]
  simp only
  rw [Process.effect_bind, Effect.exec_bind, exec_record, hinsert]

/-- A file that is not as recorded. -/
theorem exec_drifted {row : SchemaMigration} {db : MigratedDatabase σ}
    (hfind : applied.find? file.version = some row) (hmatches : ¬ migrator.Matches row file) :
    (migrator.migrateEach drifted applied (file :: files)).effect.exec db =
      (.error (drifted file.version), db) := by
  rw [migrateEach, hfind]
  simp only [if_neg hmatches]
  rfl

/-! ### Safe migrations -/

/-- **What a migration promises.** -/
structure MigratesSafely (code : Migrator Stmt σ ε → List MigrationFile → Code σ ε (List ℕ))
    (migrator : Migrator Stmt σ ε) (files : List MigrationFile) (db : MigratedDatabase σ) : Prop where
  /-- stopped anywhere, it can be run again and comes to what it would have come to -/
  resumable : ∀ versions after, (code migrator files).effect.exec db = (.ok versions, after) →
    Process.Stopped (ComesTo (fun migrator => code migrator files) migrator after)
      (code migrator files) db
  /-- a statement that fails leaves what there was before its script -/
  undone : ∀ e final, (code migrator files).effect.exec db = (.error (.statement e), final) →
    ∀ done file rest versions before, files = done ++ file :: rest →
      (code migrator done).effect.exec db = (.ok versions, before) →
      (∀ versions s, (code migrator (done ++ [file])).effect.exec db ≠ (.ok versions, s)) →
      final.content = before.content ∧ final.schemaMigrations = before.schemaMigrations

/-- **What the scripts have to be like** for that: those that go through can be begun again from
behind each of their statements, and one that does not go through fails before it has changed
anything. -/
structure ScriptsSafe (migrator : Migrator Stmt σ ε) (files : List MigrationFile)
    (db : MigratedDatabase σ) : Prop where
  resumes : migrator.Bookable (appliedIn db) (appliedIn db) files →
    (migrator.runEach (migrator.scripts (pending (appliedIn db) files)) db.content).2 = none →
    migrator.Resumes (migrator.scripts (pending (appliedIn db) files)) db.content
  clean : ∀ done file rest content mid e, files = done ++ file :: rest →
    migrator.Bookable (appliedIn db) (appliedIn db) done →
    (appliedIn db).find? file.version = none →
    migrator.runEach (migrator.scripts (pending (appliedIn db) done)) db.content = (content, none) →
    migrator.runScript (migrator.statements file.script) content = (mid, some e) → mid = content

/-- A migration that goes through can be run again from wherever it stops exactly if its scripts can
be begun again. -/
theorem stopped_migrate {db after : MigratedDatabase σ} {result : List ℕ}
    (h : (migrator.migrate drifted files).effect.exec db = (.ok result, after)) :
    Process.Stopped (ComesTo (fun migrator => migrator.migrate drifted files) migrator after)
        (migrator.migrate drifted files) db ↔
      migrator.Resumes (migrator.scripts (pending (appliedIn db) files)) db.content := by
  rw [exec_migrate] at h
  obtain ⟨hbook, hrun, last, hafter, hrows⟩ := migrateEach_ok h
  have hnone : migrator.Recorded (appliedIn db) [] :=
    fun file hfile => absurd hfile List.not_mem_nil
  have hloop : Process.Stopped
        (ComesTo (fun migrator => migrator.migrate drifted ([] ++ files)) migrator after)
        (migrator.migrateEach drifted (appliedIn db) files) ⟨db.content, some (appliedIn db)⟩ ↔
      migrator.Resumes (migrator.scripts (pending (appliedIn db) files)) db.content :=
    stopped_migrateEach hnone (fun file hfile => rfl) hbook hafter (versions_recorded hrows) hrun
  rw [List.nil_append] at hloop
  refine Iff.trans ?_ hloop
  -- creating the table and reading it are nothing to a migration
  have hcreated : ∀ clock, ({ migrator with clock }.migrate drifted files).effect.exec db =
      ({ migrator with clock }.migrate drifted files).effect.exec ⟨db.content, some (appliedIn db)⟩ := by
    intro clock
    rw [exec_migrate, exec_migrate]
    rfl
  have hsame : ComesTo (fun migrator => migrator.migrate drifted files) migrator after
        ⟨db.content, some (appliedIn db)⟩ →
      ComesTo (fun migrator => migrator.migrate drifted files) migrator after db := by
    intro hcomes clock
    obtain ⟨versions, db', hresult, hagree⟩ := hcomes clock
    exact ⟨versions, db', (hcreated clock).trans hresult, hagree⟩
  change Process.Stopped _ (createTable >>= fun _ => selectApplied >>= fun applied =>
    migrator.migrateEach drifted applied files) db ↔ _
  have hselect : (selectApplied : Code σ ε _).effect.exec ⟨db.content, some (appliedIn db)⟩ =
      (.ok (appliedIn db), ⟨db.content, some (appliedIn db)⟩) := rfl
  rw [Process.stopped_bind]
  constructor
  · rintro ⟨-, hbehind⟩
    have hread := hbehind ⟨⟩ _ (exec_createTable db)
    exact ((Process.stopped_bind _ _ _).mp hread).2 _ _ hselect
  · intro hstopped
    have hstart := hstopped.start
    refine ⟨?_, fun a s' hexec => ?_⟩
    · unfold createTable
      rw [Process.stopped_once, Effect.exec_write]
      exact ⟨hsame hstart, hstart⟩
    · rw [exec_createTable] at hexec
      obtain ⟨-, rfl⟩ := Prod.mk.inj hexec
      rw [Process.stopped_bind]
      refine ⟨?_, fun applied s' hexec => ?_⟩
      · unfold selectApplied Process.query
        rw [Process.stopped_once]
        exact ⟨hstart, hstart⟩
      · change (selectApplied : Code σ ε _).effect.exec ⟨db.content, some (appliedIn db)⟩ = _ at hexec
        rw [hselect] at hexec
        obtain ⟨happlied, rfl⟩ := Prod.mk.inj hexec
        obtain rfl := Except.ok.inj happlied
        exact hstopped

/-- The store behind the first files of a list. -/
theorem exec_migrate_append {done back : List MigrationFile} {db before : MigratedDatabase σ}
    {result : List ℕ} (h : (migrator.migrate drifted done).effect.exec db = (.ok result, before)) :
    (migrator.migrate drifted (done ++ back)).effect.exec db =
      (((migrator.migrateEach drifted (appliedIn db) back).effect.exec before).1.map (result ++ ·),
        ((migrator.migrateEach drifted (appliedIn db) back).effect.exec before).2) := by
  rw [exec_migrate] at h ⊢
  exact migrateEach_append h

/-- **Migrations are safe** exactly if their scripts are. -/
theorem migratesSafely_iff (db : MigratedDatabase σ) :
    MigratesSafely (fun migrator => migrator.migrate drifted) migrator files db ↔
      migrator.ScriptsSafe files db := by
  constructor
  · intro h
    refine ⟨fun hbook hgoes => ?_, fun done file rest content mid e hsplit hbook hfind hrun hscript => ?_⟩
    · obtain ⟨result, last, hexec, -⟩ := exec_migrateEach drifted hbook
        (Prod.ext rfl hgoes)
      rw [← exec_migrate] at hexec
      exact (stopped_migrate hexec).mp (h.resumable _ _ hexec)
    · obtain ⟨result, last, hdone, -⟩ := exec_migrateEach drifted hbook hrun
      rw [← exec_migrate] at hdone
      have hfails : ∀ back, (migrator.migrate drifted (done ++ file :: back)).effect.exec db = _ :=
        fun back => exec_migrate_append hdone
      simp only [exec_new_error hfind hscript] at hfails
      have hundone := h.undone e ⟨mid, some last⟩ (by rw [hsplit]; exact hfails rest) done file rest
        result ⟨content, some last⟩ hsplit hdone
        (fun versions s hok => absurd ((hfails []).symm.trans hok) (by simp [Except.map]))
      exact hundone.1
  · intro h
    refine ⟨fun result after hexec => ?_,
      fun e final hfails done file rest result before hsplit hdone hnot => ?_⟩
    · refine (stopped_migrate hexec).mpr ?_
      rw [exec_migrate] at hexec
      obtain ⟨hbook, hrun, -⟩ := migrateEach_ok hexec
      exact h.resumes hbook (congrArg Prod.snd hrun)
    · have hall : ∀ back, (migrator.migrate drifted (done ++ file :: back)).effect.exec db = _ :=
        fun back => exec_migrate_append hdone
      rw [hsplit, hall rest] at hfails
      have hnot := fun versions s => hnot versions s
      rw [hall []] at hnot
      rw [exec_migrate] at hdone
      obtain ⟨hbook, hrun, last, hlast, -⟩ := migrateEach_ok hdone
      obtain ⟨content, applied⟩ := before
      obtain rfl : applied = some last := hlast
      cases hfind : (appliedIn db).find? file.version with
      | some row =>
        by_cases hmatches : migrator.Matches row file
        · rw [migrateEach_applied hfind hmatches] at hnot
          exact absurd rfl (hnot _ _)
        · rw [exec_drifted hfind hmatches] at hfails
          obtain ⟨-, rfl⟩ := Prod.mk.inj hfails
          exact ⟨rfl, rfl⟩
      | none =>
        rcases hscript : migrator.runScript (migrator.statements file.script) content with
          ⟨mid, _ | e'⟩
        · cases hinsert : last.insert? (migrator.recorded file) with
          | none =>
            rw [exec_new_taken hfind hscript hinsert] at hfails
            exact absurd (Prod.mk.inj hfails).1 (by simp [Except.map])
          | some table' =>
            rw [(exec_new_ok hfind).mpr ⟨mid, table', [], hscript, hinsert, rfl, rfl⟩] at hnot
            exact absurd rfl (hnot _ _)
        · rw [exec_new_error hfind hscript] at hfails
          obtain ⟨-, rfl⟩ := Prod.mk.inj hfails
          have hclean := h.clean done file rest content mid e' hsplit hbook hfind hrun hscript
          exact ⟨hclean, rfl⟩

end Migrator

section Claims

open Migrator

/-- **Both databases migrate safely exactly if their scripts are safe**: they can be begun again from
behind each of their statements, and do not fail after they have changed something. -/
theorem migrates_safely_iff {Stmt σ ε : Type} (migrator : Migrator Stmt σ ε)
    (files : List MigrationFile) (db : MigratedDatabase σ) :
    (MigratesSafely Database.migrate migrator files db ↔ migrator.ScriptsSafe files db) ∧
      (MigratesSafely Vault.VaultDatabase.migrate migrator files db ↔
        migrator.ScriptsSafe files db) :=
  ⟨migratesSafely_iff db, migratesSafely_iff db⟩

/-- `CREATE TABLE` statements, by the names of the tables, on a schema that has names only. -/
def createTables (script : List String) : Migrator String (List String) String where
  statements := fun _ => script
  execute := fun table schema =>
    if table ∈ schema then .error s!"table {table} already exists" else .ok (schema ++ [table])
  sha256 := id
  clock := fun _ => (0 : Int)

/-- The beginning of the first script of the vault. -/
def initialFile : MigrationFile where
  version := 1
  name := "initial"
  script := "CREATE TABLE vault_meta (key TEXT); CREATE TABLE key_versions (version INTEGER);"

/-- The vault's first script goes through; stopped between two of its tables, it does not go through
again. -/
theorem begun_script_blocks_migration :
    ((Vault.VaultDatabase.migrate (createTables ["vault_meta", "key_versions"])
        [initialFile]).effect.exec ⟨[], none⟩).1.toOption = some [1] ∧
      ¬ MigratesSafely Vault.VaultDatabase.migrate (createTables ["vault_meta", "key_versions"])
        [initialFile] ⟨[], none⟩ := by
  refine ⟨by decide, fun h => ?_⟩
  have hsafe := (migratesSafely_iff _).mp h
  have hresumes := hsafe.resumes ⟨by decide, by decide, by decide⟩ (by decide)
  exact absurd (hresumes.1 1) (by decide)

end Claims

end Zhixu
