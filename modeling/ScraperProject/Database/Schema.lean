import ScraperProject.Contracts.Models
import ScraperProject.Foundation.Table

/-!
Contract: the tables of `0001_runtime_schema.sql` and
`0002_persistence_hardening.sql`.

Owns one row type for each table of the queue and its worker, its
primary key and unique constraints, its CHECK constraints (as types of the
columns or as fields of the row), the database of all tables, and the
transaction boundary.

Does not own the rows of `proxy_usage_ledger` and `schema_migrations`, which stand
beside the functions that read them, and the indexes, which change no result. The
append-only and immutability triggers are not stated: no modelled function updates
or deletes a row that they guard.
-/

namespace ScraperProject.Database

open Foundation
open Contracts

/-! ## Column types with a CHECK constraint -/

/-- `crawl_runs.state`. -/
inductive RunState where
  | created
  | running
  | completed
  | failed
deriving DecidableEq, Repr

def RunState.value : RunState → String
  | .created => "created"
  | .running => "running"
  | .completed => "completed"
  | .failed => "failed"

/-- `crawl_partitions.state`. -/
inductive PartitionState where
  | pending
  | processing
  | completed
  | failed
deriving DecidableEq, Repr

def PartitionState.value : PartitionState → String
  | .pending => "pending"
  | .processing => "processing"
  | .completed => "completed"
  | .failed => "failed"

/-- `detail_fetch_jobs.state`. -/
inductive JobState where
  | pending
  | processing
  | succeeded
  | failedExhausted
deriving DecidableEq, Repr

def JobState.value : JobState → String
  | .pending => "pending"
  | .processing => "processing"
  | .succeeded => "succeeded"
  | .failedExhausted => "failed_exhausted"

/-- `job_attempts.outcome`. -/
inductive AttemptOutcome where
  | succeeded
  | failedRetryable
  | failedExhausted
  | abandoned
deriving DecidableEq, Repr

/-- `parser_runs.state`. -/
inductive ParserRunState where
  | running
  | completed
  | failed
deriving DecidableEq, Repr

/-! ## Rows -/

structure SourceRow where
  sourceName : String
  enabled : Bool
  identityStrategy : String
  identityNotes : Option String
  updatedAt : String
deriving DecidableEq

structure RunRow where
  crawlRunId : String
  sourceName : String
  runKind : String
  state : RunState
  startedAt : Option String
  finishedAt : Option String
  createdAt : String
deriving DecidableEq

structure PartitionRow where
  partitionId : String
  crawlRunId : String
  sourceName : String
  partitionKey : String
  state : PartitionState
  createdAt : String
  updatedAt : String
deriving DecidableEq

structure IdentityRow where
  sourceName : String
  sourceListingKey : String
  listingUrl : String
  firstObservedAt : String
  lastObservedAt : String
deriving DecidableEq

structure ObservationRow where
  observationId : String
  crawlRunId : String
  sourceName : String
  sourceListingKey : String
  listingUrl : String
  observedAt : String
  visibleTitle : Option String
  visiblePriceText : Option String
  visibleCurrency : Option String
  visibleSpecsJson : String
  visibleStatus : Option String
  cardFingerprint : Option String
  discoveryPartition : String
deriving DecidableEq

structure JobRow where
  jobId : String
  crawlRunId : String
  sourceName : String
  sourceListingKey : String
  listingUrl : String
  reasonCode : String
  priority : Int
  attemptCount : Int
  maxAttempts : Int
  state : JobState
  scheduledAt : String
  leaseOwner : Option String
  leaseExpiresAt : Option String
  metadataJson : String
  lastErrorClass : Option String
  createdAt : String
  updatedAt : String
  attemptCountCheck : 0 ≤ attemptCount
  maxAttemptsCheck : 1 ≤ maxAttempts
deriving DecidableEq

theorem JobRow.succ_attemptCount_nonneg (row : JobRow) : 0 ≤ row.attemptCount + 1 :=
  Int.le_trans row.attemptCountCheck (Int.le_add_one (Int.le_refl _))

structure AttemptRow where
  jobAttemptId : String
  jobId : String
  attemptNumber : Int
  workerId : String
  startedAt : String
  finishedAt : Option String
  outcome : Option AttemptOutcome
  errorClass : Option String
deriving DecidableEq

structure CheckpointRow where
  crawlRunId : String
  partitionId : String
  checkpointValue : String
  updatedAt : String
deriving DecidableEq

structure SnapshotRow where
  artifactId : String
  jobId : String
  crawlRunId : String
  sourceName : String
  sourceListingKey : String
  listingUrl : String
  fetchedAt : String
  fetchMethod : String
  acquisitionVersion : String
  snapshotPath : Option String
  contentHash : Option String
  responseStatus : Option Int
  mimeType : Option String
  artifactStatus : ArtifactStatus
deriving DecidableEq

structure ParserRunRow where
  parserRunId : String
  artifactId : String
  parserName : String
  parserVersion : String
  startedAt : String
  finishedAt : Option String
  state : ParserRunState
  failureReason : Option String
deriving DecidableEq

structure BatchRow where
  batchId : String
  sourceName : String
  batchVersion : String
  createdAt : String
  manifestJson : String
  manifestChecksum : String
deriving DecidableEq

structure QueueOwnerRow where
  ownerName : String
  registeredAt : String
deriving DecidableEq

/-! ## Primary keys and unique constraints -/

instance : Constrained SourceRow where
  Clash row other := row.sourceName = other.sourceName
  decidableClash _ _ := inferInstanceAs (Decidable (_ = _))
  refl _ := rfl
  symm same := same.symm

instance : Constrained RunRow where
  Clash row other := row.crawlRunId = other.crawlRunId
  decidableClash _ _ := inferInstanceAs (Decidable (_ = _))
  refl _ := rfl
  symm same := same.symm

instance : Constrained PartitionRow where
  Clash row other := row.partitionId = other.partitionId ∨
    (row.crawlRunId = other.crawlRunId ∧ row.partitionKey = other.partitionKey)
  decidableClash _ _ := inferInstanceAs (Decidable (_ ∨ _))
  refl _ := Or.inl rfl
  symm same := same.imp Eq.symm (And.imp Eq.symm Eq.symm)

instance : Constrained IdentityRow where
  Clash row other := row.sourceName = other.sourceName ∧
    row.sourceListingKey = other.sourceListingKey
  decidableClash _ _ := inferInstanceAs (Decidable (_ ∧ _))
  refl _ := ⟨rfl, rfl⟩
  symm same := same.imp Eq.symm Eq.symm

instance : Constrained ObservationRow where
  Clash row other := row.observationId = other.observationId
  decidableClash _ _ := inferInstanceAs (Decidable (_ = _))
  refl _ := rfl
  symm same := same.symm

/-- The natural key of a job: run, source, listing and reason. -/
def JobRow.SameKey (row other : JobRow) : Prop :=
  row.crawlRunId = other.crawlRunId ∧ row.sourceName = other.sourceName ∧
    row.sourceListingKey = other.sourceListingKey ∧ row.reasonCode = other.reasonCode

instance (row other : JobRow) : Decidable (row.SameKey other) :=
  inferInstanceAs (Decidable (_ ∧ _))

theorem JobRow.SameKey.symm {row other : JobRow} (same : row.SameKey other) :
    other.SameKey row :=
  ⟨same.1.symm, same.2.1.symm, same.2.2.1.symm, same.2.2.2.symm⟩

instance : Constrained JobRow where
  Clash row other := row.jobId = other.jobId ∨ row.SameKey other
  decidableClash _ _ := inferInstanceAs (Decidable (_ ∨ _))
  refl _ := Or.inl rfl
  symm same := same.imp Eq.symm JobRow.SameKey.symm

instance : Constrained AttemptRow where
  Clash row other := row.jobAttemptId = other.jobAttemptId ∨
    (row.jobId = other.jobId ∧ row.attemptNumber = other.attemptNumber)
  decidableClash _ _ := inferInstanceAs (Decidable (_ ∨ _))
  refl _ := Or.inl rfl
  symm same := same.imp Eq.symm (And.imp Eq.symm Eq.symm)

instance : Constrained CheckpointRow where
  Clash row other := row.crawlRunId = other.crawlRunId ∧ row.partitionId = other.partitionId
  decidableClash _ _ := inferInstanceAs (Decidable (_ ∧ _))
  refl _ := ⟨rfl, rfl⟩
  symm same := same.imp Eq.symm Eq.symm

instance : Constrained SnapshotRow where
  Clash row other := row.artifactId = other.artifactId ∨
    (row.jobId = other.jobId ∧ row.artifactId = other.artifactId)
  decidableClash _ _ := inferInstanceAs (Decidable (_ ∨ _))
  refl _ := Or.inl rfl
  symm same := same.imp Eq.symm (And.imp Eq.symm Eq.symm)

instance : Constrained ParserRunRow where
  Clash row other := row.parserRunId = other.parserRunId
  decidableClash _ _ := inferInstanceAs (Decidable (_ = _))
  refl _ := rfl
  symm same := same.symm

instance : Constrained BatchRow where
  Clash row other := row.batchId = other.batchId ∨
    row.manifestChecksum = other.manifestChecksum
  decidableClash _ _ := inferInstanceAs (Decidable (_ ∨ _))
  refl _ := Or.inl rfl
  symm same := same.imp Eq.symm Eq.symm

/-- The trigger `runtime_queue_owner_singleton_insert` refuses any second row. -/
instance : Constrained QueueOwnerRow where
  Clash _ _ := True
  decidableClash _ _ := inferInstanceAs (Decidable True)
  refl _ := trivial
  symm _ := trivial

/-! ## The database -/

structure Db where
  sources : Table SourceRow
  runs : Table RunRow
  partitions : Table PartitionRow
  identities : Table IdentityRow
  observations : Table ObservationRow
  jobs : Table JobRow
  attempts : Table AttemptRow
  checkpoints : Table CheckpointRow
  snapshots : Table SnapshotRow
  parserRuns : Table ParserRunRow
  batches : Table BatchRow
  queueOwners : Table QueueOwnerRow

/-- The database after the migrations. -/
def Db.empty : Db where
  sources := Table.empty
  runs := Table.empty
  partitions := Table.empty
  identities := Table.empty
  observations := Table.empty
  jobs := Table.empty
  attempts := Table.empty
  checkpoints := Table.empty
  snapshots := Table.empty
  parserRuns := Table.empty
  batches := Table.empty
  queueOwners := Table.empty

/-! ## Transactions -/

/-- The statements inside one transaction. -/
abbrev Transaction (α : Type) := Db → Except PyError (α × Db)

/-- A repository call: its result or exception, and the committed database. -/
abbrev Action (α : Type) := Db → Except PyError α × Db

/-- `with database.write_transaction()`: an exception rolls back. -/
def writeTransaction {α : Type} (body : Transaction α) : Action α := fun db =>
  match body db with
  | .ok (value, next) => (.ok value, next)
  | .error raised => (.error raised, db)

theorem writeTransaction_ok {α : Type} {body : Transaction α} {db next : Db} {value : α} :
    writeTransaction body db = (.ok value, next) ↔ body db = .ok (value, next) := by
  unfold writeTransaction
  cases body db with
  | error raised => simp
  | ok pair => simp [Prod.ext_iff]

/-- A write transaction that raises changes nothing. -/
theorem writeTransaction_error {α : Type} {body : Transaction α} {db next : Db}
    {raised : PyError} :
    writeTransaction body db = (.error raised, next) ↔ body db = .error raised ∧ next = db := by
  unfold writeTransaction
  cases body db with
  | error other => simp [eq_comm]
  | ok pair => simp

def insertRow {Row : Type} [Constrained Row] (table : Table Row) (row : Row) :
    Except PyError (Table Row) :=
  match table.insert? row with
  | some next => .ok next
  | none => .error (.integrityError .unique)

theorem insertRow_ok {Row : Type} [Constrained Row] {table next : Table Row} {row : Row} :
    insertRow table row = .ok next ↔ table.insert? row = some next := by
  unfold insertRow
  cases table.insert? row <;> simp

/-- The check of a foreign key after an insertion. -/
def requireReference (found : Bool) : Except PyError Unit :=
  if found then .ok () else .error (.integrityError .foreignKey)

theorem requireReference_ok {found : Bool} : requireReference found = .ok () ↔ found = true := by
  unfold requireReference
  cases found <;> simp

/-- SQLite binds integers of 64 bits. -/
def bindInteger (value : Int) : Except PyError Unit :=
  if -9223372036854775808 ≤ value ∧ value ≤ 9223372036854775807 then .ok ()
  else .error .overflowError

/-- `cursor.rowcount` of an update. -/
def rowcount {Row : Type} [Constrained Row] (table : Table Row) (selects : Row → Bool) : Nat :=
  table.rows.countP selects

/-- A condition that only clashing rows share counts one row or none. -/
theorem rowcount_eq_one {Row : Type} [Constrained Row] {table : Table Row} {Holds : Row → Prop}
    [DecidablePred Holds]
    (single : ∀ row other, Holds row → Holds other → Constrained.Clash row other) :
    rowcount table (fun row => decide (Holds row)) = 1 ↔ ∃ row ∈ table, Holds row := by
  refine (Table.countP_eq_one_iff fun row other selected otherSelected => ?_).trans (by simp)
  exact single row other (of_decide_eq_true selected) (of_decide_eq_true otherSelected)

/-- The rows after an update under a condition. -/
theorem rows_updateWhere_decide {Row : Type} [Constrained Row] {table : Table Row}
    {Holds : Row → Prop} [DecidablePred Holds] {change : Row → Row}
    {unseen : Table.Unseen change} :
    (table.updateWhere (fun row => decide (Holds row)) change unseen).rows =
      table.rows.map fun row => if Holds row then change row else row :=
  List.map_congr_left fun row _ => by simp

end ScraperProject.Database
