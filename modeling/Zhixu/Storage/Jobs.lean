import Zhixu.Storage.Repositories
import Zhixu.Storage.Reminders

/-!
# Scheduled jobs

`ScheduledJobRepository.create_run` notes that a job runs at a time. `job_runs` has a second unique
key besides its id, the job and the time (`UNIQUE(scheduled_job_id, scheduled_for)`), and the id is
made from both, so noting a run twice changes nothing.
-/

open Framework

namespace Zhixu

/-- A scheduled job, as far as its runs are concerned. -/
structure ScheduledJob where
  id : String
  ownerUserId : String
deriving DecidableEq, Repr

/-- A run that has been noted. -/
structure JobRun where
  id : String
  scheduledJobId : String
  scheduledFor : Instant
  status : JobRunStatus
  startedAt : Option Instant
  completedAt : Option Instant
  errorCode : String
  nonblank : isBlank id = false ∧ isBlank scheduledJobId = false
deriving Repr

namespace ScheduledJobRepository

/-- `_run_from_row`. -/
def runFromRow (row : JobRunRow) : Except PyError JobRun :=
  if nonblank : isBlank row.id = false ∧ isBlank row.scheduledJobId = false then
    .ok {
      id := row.id
      scheduledJobId := row.scheduledJobId
      scheduledFor := row.scheduledFor
      status := row.status
      startedAt := row.startedAt
      completedAt := row.completedAt
      errorCode := row.errorCode
      nonblank }
  else .error (.validation "job run id and scheduled job id are required")

/-- The row `create_run` inserts. -/
def pendingRun (platform : Platform) (jobId : String) (scheduledFor : Instant) : JobRunRow where
  id := "run_" ++ takeChars 24 (platform.sha256 (jobId ++ ":" ++ isoformat scheduledFor))
  scheduledJobId := jobId
  scheduledFor := scheduledFor
  status := .pending
  startedAt := none
  completedAt := none
  errorCode := ""

/-- The run of a job at a time. -/
def runAt (jobId : String) (scheduledFor : Instant) (db : Database) : Option JobRunRow :=
  db.jobRuns.rows.find? fun r => r.scheduledJobId = jobId && r.scheduledFor = scheduledFor

/-- `INSERT OR IGNORE INTO job_runs`: the table with the new row, unless one of its keys is taken. -/
def noted? (platform : Platform) (jobId : String) (scheduledFor : Instant) (db : Database) :
    Option (Table JobRunRow JobRunRow.id) :=
  if (runAt jobId scheduledFor db).isSome then none
  else db.jobRuns.insert? (pendingRun platform jobId scheduledFor)

/-- `create_run`, which reports whether the run is new. -/
def createRun (platform : Platform) (job : ScheduledJob) (scheduledFor : DateTime)
    (authorization : AuthorizedAction) : Transaction Database PyError (JobRun × Bool) := fun db => do
  requireAuthorization authorization .update "scheduled_job" job.id job.ownerUserId .personal
  let scheduledFor ← scheduledFor.dump platform.zones
  match noted? platform job.id scheduledFor db with
  | some jobRuns =>
    raiseIf ((db.scheduledJobs.find? job.id).isNone = true) .integrity
    let run ← runFromRow (pendingRun platform job.id scheduledFor)
    return ((run, true), Database.auditAction { db with jobRuns } authorization)
  | none =>
    match runAt job.id scheduledFor db with
    | none => throw .assertion
    | some row =>
      let run ← runFromRow row
      return ((run, false), db)

end ScheduledJobRepository

end Zhixu
