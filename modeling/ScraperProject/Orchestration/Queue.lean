import ScraperProject.Database.Repositories

/-!
Contract: `orchestration.queue`, the owner of every job transition.

Owns leasing, finishing and abandoned-lease recovery of detail jobs, and the
registration of the queue owner.

Does not own job creation, which is `JobRepository.create_idempotent`.
-/

namespace ScraperProject.Database

/-! ## Column updates -/

/-- The columns that a lease sets. -/
def JobRow.lease (row : JobRow) (attemptNumber : Int) (check : 0 ≤ attemptNumber)
    (workerId expires current : String) : JobRow :=
  { row with
    state := .processing
    attemptCount := attemptNumber
    leaseOwner := some workerId
    leaseExpiresAt := some expires
    updatedAt := current
    attemptCountCheck := check }

/-- The columns that the end of an attempt sets. -/
def JobRow.settle (row : JobRow) (state : JobState) (errorClass : Option String)
    (current : String) : JobRow :=
  { row with
    state := state
    leaseOwner := none
    leaseExpiresAt := none
    scheduledAt := current
    lastErrorClass := errorClass
    updatedAt := current }

/-- The columns of an attempt that its end sets. -/
def AttemptRow.close (row : AttemptRow) (outcome : AttemptOutcome) (errorClass : Option String)
    (current : String) : AttemptRow :=
  { row with
    finishedAt := some current
    outcome := some outcome
    errorClass := errorClass }

end ScraperProject.Database

namespace ScraperProject.Orchestration

open Foundation
open Database

/-! ## Registration -/

/-- `DetailFetchQueue.OWNER_NAME`. -/
def ownerName : String := "source_neutral_orchestrator"

/-- `DetailFetchQueue.__init__`. -/
def registerOwner (clock : Instant) : Action Unit :=
  writeTransaction fun db =>
    match db.queueOwners.find? fun _ => true with
    | none => do
        let queueOwners ← insertRow db.queueOwners
          { ownerName := ownerName, registeredAt := clock.text }
        return ((), { db with queueOwners := queueOwners })
    | some existing =>
        if existing.ownerName ≠ ownerName then
          .error (.queueTransition "a different queue owner is registered")
        else .ok ((), db)

/-! ## Leasing -/

/-- The claim of one attempt that `lease_next` hands out. -/
structure JobLease where
  jobId : String
  sourceName : String
  sourceListingKey : String
  reasonCode : String
  attemptNumber : Int
  maxAttempts : Int
  leaseOwner : String
  leaseExpiresAt : String
deriving DecidableEq

/-- The WHERE clause of `lease_next`. -/
def Eligible (current : String) (row : JobRow) : Prop :=
  row.state = .pending ∧ ¬ TextBefore current row.scheduledAt ∧
    row.attemptCount < row.maxAttempts

instance (current : String) (row : JobRow) : Decidable (Eligible current row) :=
  inferInstanceAs (Decidable (_ ∧ _))

/-- `ORDER BY priority DESC, scheduled_at, created_at`. -/
def Precedes (row other : JobRow) : Prop :=
  other.priority < row.priority ∨ (row.priority = other.priority ∧
    (TextBefore row.scheduledAt other.scheduledAt ∨ (row.scheduledAt = other.scheduledAt ∧
      TextBefore row.createdAt other.createdAt)))

instance (row other : JobRow) : Decidable (Precedes row other) :=
  inferInstanceAs (Decidable (_ ∨ _))

/-- `LIMIT 1`: the first row in the order; equal rows keep their insertion order. -/
def firstRow : List JobRow → Option JobRow
  | [] => none
  | row :: rest =>
      match firstRow rest with
      | none => some row
      | some best => if Precedes best row then some best else some row

/-- `DetailFetchQueue.lease_next` with the fresh identifier of the attempt. -/
def leaseNext (workerId : String) (leaseSeconds : Int) (now : Datetime)
    (jobAttemptId : String) : Action (Option JobLease) := fun db =>
  if leaseSeconds < 1 then
    (.error (.valueError "lease_seconds must be positive"), db)
  else
    match now.addSeconds leaseSeconds with
    | .error raised => (.error raised, db)
    | .ok expires =>
        writeTransaction (fun db => do
          let current ← timestamp now
          match firstRow (db.jobs.rows.filter fun row => Eligible current row) with
          | none => return (none, db)
          | some row =>
              let attemptNumber := row.attemptCount + 1
              let check : 0 ≤ attemptNumber := row.succ_attemptCount_nonneg
              let expiresAt ← timestamp expires
              let jobs := db.jobs.updateWhere
                (fun stored => stored.jobId = row.jobId ∧ stored.state = .pending)
                (fun stored => stored.lease attemptNumber check workerId expiresAt current)
                (fun _ _ => Iff.rfl)
              let attempts ← insertRow db.attempts
                { jobAttemptId := jobAttemptId
                  jobId := row.jobId
                  attemptNumber := attemptNumber
                  workerId := workerId
                  startedAt := current
                  finishedAt := none
                  outcome := none
                  errorClass := none }
              let lease : JobLease :=
                { jobId := row.jobId
                  sourceName := row.sourceName
                  sourceListingKey := row.sourceListingKey
                  reasonCode := row.reasonCode
                  attemptNumber := attemptNumber
                  maxAttempts := row.maxAttempts
                  leaseOwner := workerId
                  leaseExpiresAt := expiresAt }
              return (some lease, { db with jobs := jobs, attempts := attempts })) db

/-! ## Finishing -/

def ownershipError : PyError :=
  .queueTransition "worker does not own an active lease for this job"

/-- The state of the job and the outcome of its attempt after a call of
`_finish`. -/
def finishOutcome (row : JobRow) (success : Bool) : JobState × AttemptOutcome :=
  if success then (.succeeded, .succeeded)
  else if row.attemptCount ≥ row.maxAttempts then (.failedExhausted, .failedExhausted)
  else (.pending, .failedRetryable)

/-- The blanket updates by job and by attempt number. -/
def settleJob (db : Db) (row : JobRow) (state : JobState) (outcome : AttemptOutcome)
    (errorClass : Option String) (current : String) : Db :=
  { db with
    jobs := db.jobs.updateWhere (fun stored => stored.jobId = row.jobId)
      (fun stored => stored.settle state errorClass current) (fun _ _ => Iff.rfl)
    attempts := db.attempts.updateWhere
      (fun attempt => attempt.jobId = row.jobId ∧ attempt.attemptNumber = row.attemptCount)
      (fun attempt => attempt.close outcome errorClass current) (fun _ _ => Iff.rfl) }

/-- `DetailFetchQueue._finish`. -/
def finish (jobId workerId : String) (success : Bool) (errorClass : Option String)
    (now : Datetime) : Action String :=
  writeTransaction fun db =>
    match db.jobs.find? fun row => row.jobId = jobId with
    | none => .error ownershipError
    | some row =>
        if row.state ≠ .processing ∨ row.leaseOwner ≠ some workerId then .error ownershipError
        else do
          let settled := finishOutcome row success
          let current ← timestamp now
          return (settled.1.value, settleJob db row settled.1 settled.2 errorClass current)

/-- `DetailFetchQueue.succeed`. -/
def succeed (jobId workerId : String) (now : Datetime) : Action Unit := fun db =>
  let (result, next) := finish jobId workerId true none now db
  (result.map fun _ => (), next)

/-- `DetailFetchQueue.fail`. -/
def fail (jobId workerId errorClass : String) (now : Datetime) : Action String :=
  finish jobId workerId false (some errorClass) now

/-! ## Recovery -/

/-- The two groups that `recover_abandoned` counts. -/
structure RecoveryCounts where
  recovered : Nat
  exhausted : Nat
deriving DecidableEq, Repr

/-- The WHERE clause of `recover_abandoned`; a NULL expiry is not selected. -/
def Expired (current : String) (row : JobRow) : Prop :=
  row.state = .processing ∧ ∃ expires ∈ row.leaseExpiresAt, TextBefore expires current

instance (current : String) (row : JobRow) : Decidable (Expired current row) :=
  inferInstanceAs (Decidable (_ ∧ _))

/-- The state that recovery puts a job in. -/
def recoveredState (row : JobRow) : JobState :=
  if row.attemptCount ≥ row.maxAttempts then .failedExhausted else .pending

/-- One round of the loop over the expired rows. -/
def recoverRow (current : String) (progress : Db × RecoveryCounts) (row : JobRow) :
    Db × RecoveryCounts :=
  let state := recoveredState row
  let next := settleJob progress.1 row state .abandoned (some "abandoned_lease") current
  if state = .pending then
    (next, { progress.2 with recovered := progress.2.recovered + 1 })
  else (next, { progress.2 with exhausted := progress.2.exhausted + 1 })

/-- `DetailFetchQueue.recover_abandoned`. -/
def recoverAbandoned (now : Datetime) : Action RecoveryCounts :=
  writeTransaction fun db => do
    let current ← timestamp now
    let rows := db.jobs.rows.filter fun row => Expired current row
    let (next, counts) :=
      rows.foldl (recoverRow current) (db, { recovered := 0, exhausted := 0 })
    return (counts, next)

end ScraperProject.Orchestration
