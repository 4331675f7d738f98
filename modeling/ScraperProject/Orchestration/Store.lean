import ScraperProject.Database.ObservationWindow
import ScraperProject.Database.ProxyLedger
import ScraperProject.Database.Queries
import ScraperProject.Foundation.Growth
import ScraperProject.Orchestration.JobCreation

/-!
Contract: the runtime store as one state machine.

Owns every call of the repositories and of the queue on one database, what a call can
do to each of the thirteen tables (the columns that no call changes, and what is
checked of a row before it is added), and that a call which raises changes nothing.

Does not own what follows for whole histories.
-/

namespace ScraperProject.Orchestration

open Foundation
open Database
open Contracts

/-! ## Calls -/

/-- The tables of the runtime database. -/
structure Store where
  db : Db
  ledger : ProxyLedger

/-- The store after the migrations. -/
def Store.empty : Store := ⟨Db.empty, Table.empty⟩

/-- A call with its arguments, clock readings and fresh identifiers. -/
inductive StoreCall where
  | registerOwner (clock : Instant)
  | upsertSource (sourceName : String) (enabled : Bool) (identityStrategy : String)
      (identityNotes : Option String) (clock : Instant)
  | createRun (crawlRunId sourceName runKind : String) (clock : Instant)
  | startRun (crawlRunId : String) (clock : Instant)
  | completeRun (crawlRunId : String) (clock : Instant)
  | failRun (crawlRunId : String) (clock : Instant)
  | getRun (crawlRunId : String)
  | createPartition (partitionId crawlRunId sourceName partitionKey : String)
      (createdAt updatedAt : Instant)
  | startPartition (partitionId : String) (clock : Instant)
  | completePartition (partitionId : String) (clock : Instant)
  | failPartition (partitionId : String) (clock : Instant)
  | getPartition (partitionId : String)
  | appendObservation (observation : DiscoveryObservation) (observationId : Option String)
      (fresh : String)
  | queue (call : QueueCall)
  | statusCounts
  | saveCheckpoint (crawlRunId partitionId checkpointValue : String) (clock : Instant)
  | loadCheckpoint (crawlRunId partitionId : String)
  | recordSnapshot (artifact : RawFetchArtifact)
  | getSnapshot (artifactId : String)
  | startParserRun (artifactId parserName parserVersion fresh : String) (clock : Instant)
  | completeParserRun (parserRunId : String) (clock : Instant)
  | failParserRun (parserRunId failureReason : String) (clock : Instant)
  | getParserRun (parserRunId : String)
  | appendUsage (call : AppendCall) (fresh : String) (clock : Instant)
  | usageTotals
  | recordBatch (manifest : DatasetBatchManifest)
  | getBatch (batchId : String)

inductive StoreReply where
  | done
  | identifier (value : String)
  | run (row : Option RunRow)
  | partition (row : Option PartitionRow)
  | queue (reply : QueueReply)
  | counts (entries : List (String × Nat))
  | checkpoint (value : Option String)
  | snapshot (row : Option SnapshotRow)
  | parserRun (row : Option ParserRunRow)
  | totals (rows : List TotalsRow)
  | batch (manifest : Option DatasetBatchManifest)

/-- A call on the tables other than the proxy ledger. -/
def Store.onDb {α : Type} (store : Store) (action : Action α) (reply : α → StoreReply) :
    Except PyError StoreReply × Store :=
  let (result, next) := action store.db
  (result.map reply, { store with db := next })

/-- A call on a store: its result or exception, and the store after it. -/
def performStore (library : StandardLibrary) :
    StoreCall → Store → Except PyError StoreReply × Store
  | .registerOwner clock, store => store.onDb (registerOwner clock) fun _ => .done
  | .upsertSource sourceName enabled identityStrategy identityNotes clock, store =>
      store.onDb (upsertSource sourceName enabled identityStrategy identityNotes clock)
        fun _ => .done
  | .createRun crawlRunId sourceName runKind clock, store =>
      store.onDb (createRun crawlRunId sourceName runKind clock) fun _ => .done
  | .startRun crawlRunId clock, store => store.onDb (startRun crawlRunId clock) fun _ => .done
  | .completeRun crawlRunId clock, store =>
      store.onDb (completeRun crawlRunId clock) fun _ => .done
  | .failRun crawlRunId clock, store => store.onDb (failRun crawlRunId clock) fun _ => .done
  | .getRun crawlRunId, store => store.onDb (getRun crawlRunId) .run
  | .createPartition partitionId crawlRunId sourceName partitionKey createdAt updatedAt, store =>
      store.onDb (createPartition partitionId crawlRunId sourceName partitionKey createdAt
        updatedAt) fun _ => .done
  | .startPartition partitionId clock, store =>
      store.onDb (startPartition partitionId clock) fun _ => .done
  | .completePartition partitionId clock, store =>
      store.onDb (completePartition partitionId clock) fun _ => .done
  | .failPartition partitionId clock, store =>
      store.onDb (failPartition partitionId clock) fun _ => .done
  | .getPartition partitionId, store => store.onDb (getPartition partitionId) .partition
  | .appendObservation observation observationId fresh, store =>
      store.onDb (appendObservation observation (recordIdOf observationId fresh)) .identifier
  | .queue call, store => store.onDb (perform call) .queue
  | .statusCounts, store => store.onDb statusCounts .counts
  | .saveCheckpoint crawlRunId partitionId checkpointValue clock, store =>
      store.onDb (saveCheckpoint crawlRunId partitionId checkpointValue clock) fun _ => .done
  | .loadCheckpoint crawlRunId partitionId, store =>
      store.onDb (loadCheckpoint crawlRunId partitionId) .checkpoint
  | .recordSnapshot artifact, store => store.onDb (recordSnapshot artifact) fun _ => .done
  | .getSnapshot artifactId, store => store.onDb (getSnapshot artifactId) .snapshot
  | .startParserRun artifactId parserName parserVersion fresh clock, store =>
      store.onDb (startParserRun artifactId parserName parserVersion fresh clock) .identifier
  | .completeParserRun parserRunId clock, store =>
      store.onDb (completeParserRun parserRunId clock) fun _ => .done
  | .failParserRun parserRunId failureReason clock, store =>
      store.onDb (failParserRun parserRunId failureReason clock) fun _ => .done
  | .getParserRun parserRunId, store => store.onDb (getParserRun parserRunId) .parserRun
  | .appendUsage call fresh clock, store =>
      let (result, next) :=
        append call { db := store.db, ledgerId := fresh, clock := clock } store.ledger
      (result.map .identifier, { store with ledger := next })
  | .usageTotals, store => ((totals store.ledger).map .totals, store)
  | .recordBatch manifest, store => store.onDb (recordBatch manifest) fun _ => .done
  | .getBatch batchId, store => store.onDb (getBatch library batchId) .batch

/-! ## Columns that no call changes -/

section Fixed

/-- The change keeps the columns. -/
def Keeps {Row Columns : Type} (columns : Row → Columns) (row later : Row) : Prop :=
  columns later = columns row

variable {Row Columns : Type} {columns : Row → Columns}

theorem Keeps.refl (row : Row) : Keeps columns row row := Eq.refl (columns row)

theorem Keeps.trans {row middle later : Row} (left : Keeps columns row middle)
    (right : Keeps columns middle later) : Keeps columns row later := Eq.trans right left

end Fixed

structure RunColumns where
  crawlRunId : String
  sourceName : String
  runKind : String
  createdAt : String

def runColumns (row : RunRow) : RunColumns where
  crawlRunId := row.crawlRunId
  sourceName := row.sourceName
  runKind := row.runKind
  createdAt := row.createdAt

structure PartitionColumns where
  partitionId : String
  crawlRunId : String
  sourceName : String
  partitionKey : String
  createdAt : String

def partitionColumns (row : PartitionRow) : PartitionColumns where
  partitionId := row.partitionId
  crawlRunId := row.crawlRunId
  sourceName := row.sourceName
  partitionKey := row.partitionKey
  createdAt := row.createdAt

structure IdentityColumns where
  sourceName : String
  sourceListingKey : String
  firstObservedAt : String

def identityColumns (row : IdentityRow) : IdentityColumns where
  sourceName := row.sourceName
  sourceListingKey := row.sourceListingKey
  firstObservedAt := row.firstObservedAt

structure AttemptColumns where
  jobAttemptId : String
  jobId : String
  attemptNumber : Int
  workerId : String
  startedAt : String

def attemptColumns (row : AttemptRow) : AttemptColumns where
  jobAttemptId := row.jobAttemptId
  jobId := row.jobId
  attemptNumber := row.attemptNumber
  workerId := row.workerId
  startedAt := row.startedAt

structure CheckpointColumns where
  crawlRunId : String
  partitionId : String

def checkpointColumns (row : CheckpointRow) : CheckpointColumns where
  crawlRunId := row.crawlRunId
  partitionId := row.partitionId

structure ParserRunColumns where
  parserRunId : String
  artifactId : String
  parserName : String
  parserVersion : String
  startedAt : String

def parserRunColumns (row : ParserRunRow) : ParserRunColumns where
  parserRunId := row.parserRunId
  artifactId := row.artifactId
  parserName := row.parserName
  parserVersion := row.parserVersion
  startedAt := row.startedAt

/-! ## What a call can do -/

def HasRun (db : Db) (crawlRunId : String) : Prop := ∃ run ∈ db.runs, run.crawlRunId = crawlRunId

def HasJob (db : Db) (jobId : String) : Prop := ∃ job ∈ db.jobs, job.jobId = jobId

/-- What one call can do to the tables: which columns stay, and what an added row
refers to. All of that is there before the call, but for the listing of an observation
or of a job, which the call may add. Observations, snapshots, batches, owners and usage
entries never change. -/
structure StoreStep (store next : Store) : Prop where
  sources : store.db.sources.Develops (Keeps SourceRow.sourceName) (fun _ => True)
    next.db.sources
  runs : store.db.runs.Develops (Keeps runColumns)
    (fun run => ∃ source ∈ store.db.sources, source.sourceName = run.sourceName) next.db.runs
  partitions : store.db.partitions.Develops (Keeps partitionColumns)
    (fun row => HasRun store.db row.crawlRunId) next.db.partitions
  identities : store.db.identities.Develops (Keeps identityColumns) (fun _ => True)
    next.db.identities
  observations : store.db.observations.Develops Eq
    (fun row => HasRun store.db row.crawlRunId ∧
      Identified next.db row.sourceName row.sourceListingKey)
    next.db.observations
  jobs : store.db.jobs.Develops SameIdentity
    (fun row => HasRun store.db row.crawlRunId ∧
      Identified next.db row.sourceName row.sourceListingKey)
    next.db.jobs
  attempts : store.db.attempts.Develops (Keeps attemptColumns)
    (fun row => HasJob store.db row.jobId) next.db.attempts
  checkpoints : store.db.checkpoints.Develops (Keeps checkpointColumns)
    (fun row => HasRun store.db row.crawlRunId ∧
      ∃ partition ∈ store.db.partitions, partition.partitionId = row.partitionId)
    next.db.checkpoints
  snapshots : store.db.snapshots.Develops Eq
    (fun row => HasJob store.db row.jobId ∧ HasRun store.db row.crawlRunId) next.db.snapshots
  parserRuns : store.db.parserRuns.Develops (Keeps parserRunColumns)
    (fun row => ∃ snapshot ∈ store.db.snapshots, snapshot.artifactId = row.artifactId)
    next.db.parserRuns
  batches : store.db.batches.Develops Eq (fun _ => True) next.db.batches
  queueOwners : store.db.queueOwners.Develops Eq (fun _ => True) next.db.queueOwners
  ledger : store.ledger.Develops Eq
    (fun row => HasRun store.db row.crawlRunId ∧ ∀ jobId ∈ row.jobId, HasJob store.db jobId)
    next.ledger

theorem StoreStep.refl (store : Store) : StoreStep store store where
  sources := .refl Keeps.refl store.db.sources
  runs := .refl Keeps.refl store.db.runs
  partitions := .refl Keeps.refl store.db.partitions
  identities := .refl Keeps.refl store.db.identities
  observations := .refl Eq.refl store.db.observations
  jobs := .refl SameIdentity.refl store.db.jobs
  attempts := .refl Keeps.refl store.db.attempts
  checkpoints := .refl Keeps.refl store.db.checkpoints
  snapshots := .refl Eq.refl store.db.snapshots
  parserRuns := .refl Keeps.refl store.db.parserRuns
  batches := .refl Eq.refl store.db.batches
  queueOwners := .refl Eq.refl store.db.queueOwners
  ledger := .refl Eq.refl store.ledger

/-- Every outcome of the action is a step. -/
def Steps {α : Type} (action : Action α) : Prop :=
  ∀ store : Store, StoreStep store { store with db := (action store.db).2 }

theorem steps_of_transaction {α : Type} {body : Transaction α}
    (returns : ∀ (store : Store) value next, body store.db = .ok (value, next) →
      StoreStep store { store with db := next }) : Steps (writeTransaction body) := by
  intro store
  unfold writeTransaction
  cases outcome : body store.db with
  | error raised => exact .refl store
  | ok pair => exact returns store pair.1 pair.2 outcome

theorem exists_of_requireReference {Row : Type} [Constrained Row] {table : Table Row}
    {Names : Row → Prop} [DecidablePred Names]
    (referenced : requireReference (table.rows.any fun row => decide (Names row)) = .ok ()) :
    ∃ row ∈ table, Names row := by
  obtain ⟨row, member, named⟩ := List.any_eq_true.mp (requireReference_ok.mp referenced)
  exact ⟨row, member, of_decide_eq_true named⟩

/-! ## Sources, runs and partitions -/

theorem registerOwner_steps (clock : Instant) : Steps (registerOwner clock) := by
  refine steps_of_transaction fun store value next body => ?_
  split at body
  · obtain ⟨queueOwners, inserted, body⟩ := bind_eq_ok.mp body
    obtain ⟨_, rfl⟩ := Prod.mk.inj (Except.ok.inj body)
    have rows := (Table.insert?_eq_some.mp (insertRow_ok.mp inserted)).2
    exact { StoreStep.refl store with queueOwners := Table.develops_of_append Eq.refl rows trivial }
  · split at body
    · cases body
    · obtain ⟨_, rfl⟩ := Prod.mk.inj (Except.ok.inj body)
      exact .refl store

theorem upsertSource_steps (sourceName : String) (enabled : Bool) (identityStrategy : String)
    (identityNotes : Option String) (clock : Instant) :
    Steps (upsertSource sourceName enabled identityStrategy identityNotes clock) := by
  refine steps_of_transaction fun store value next body => ?_
  dsimp only at body
  split at body
  · next sources inserted =>
    obtain ⟨_, rfl⟩ := Prod.mk.inj (Except.ok.inj body)
    have rows := (Table.insert?_eq_some.mp inserted).2
    exact { StoreStep.refl store with sources := Table.develops_of_append Keeps.refl rows trivial }
  · obtain ⟨_, rfl⟩ := Prod.mk.inj (Except.ok.inj body)
    refine { StoreStep.refl store with sources := Table.develops_of_map rfl fun row _ => ?_ }
    split <;> rfl

theorem createRun_steps (crawlRunId sourceName runKind : String) (clock : Instant) :
    Steps (createRun crawlRunId sourceName runKind clock) := by
  refine steps_of_transaction fun store value next body => ?_
  obtain ⟨runs, inserted, body⟩ := bind_eq_ok.mp body
  obtain ⟨_, referenced, body⟩ := bind_eq_ok.mp body
  obtain ⟨_, rfl⟩ := Prod.mk.inj (Except.ok.inj body)
  have rows := (Table.insert?_eq_some.mp (insertRow_ok.mp inserted)).2
  have source := exists_of_requireReference referenced
  exact { StoreStep.refl store with runs := Table.develops_of_append Keeps.refl rows source }

theorem transitionRun_steps (crawlRunId : String) (expected target : RunState)
    (setStarted setFinished : Bool) (clock : Instant) :
    Steps (transitionRun crawlRunId expected target setStarted setFinished clock) := by
  intro store
  obtain ⟨_, runs, same, rows⟩ := transitionRun_cases
    (Prod.eta (transitionRun crawlRunId expected target setStarted setFinished clock store.db)).symm
  rw [same]
  refine { StoreStep.refl store with runs := Table.develops_of_map rows fun row _ => ?_ }
  unfold transitionedRun
  split <;> rfl

theorem createPartition_steps (partitionId crawlRunId sourceName partitionKey : String)
    (createdAt updatedAt : Instant) :
    Steps (createPartition partitionId crawlRunId sourceName partitionKey createdAt updatedAt) := by
  refine steps_of_transaction fun store value next body => ?_
  obtain ⟨partitions, inserted, body⟩ := bind_eq_ok.mp body
  obtain ⟨_, referenced, body⟩ := bind_eq_ok.mp body
  obtain ⟨_, rfl⟩ := Prod.mk.inj (Except.ok.inj body)
  have rows := (Table.insert?_eq_some.mp (insertRow_ok.mp inserted)).2
  have run := exists_of_requireReference referenced
  exact { StoreStep.refl store with partitions := Table.develops_of_append Keeps.refl rows run }

theorem transitionPartition_steps (partitionId : String) (expected target : PartitionState)
    (clock : Instant) : Steps (transitionPartition partitionId expected target clock) := by
  intro store
  obtain ⟨_, partitions, same, rows⟩ := transitionPartition_cases
    (Prod.eta (transitionPartition partitionId expected target clock store.db)).symm
  rw [same]
  refine { StoreStep.refl store with partitions := Table.develops_of_map rows fun row _ => ?_ }
  unfold transitionedPartition
  split <;> rfl

/-! ## Observations and checkpoints -/

/-- The identity of a listing is there after its upsert. -/
theorem identified_upsert {identities : Table IdentityRow}
    {sourceName sourceListingKey listingUrl observedAt : String} :
    ∃ identity ∈ upsertIdentity identities sourceName sourceListingKey listingUrl observedAt,
      identity.sourceName = sourceName ∧ identity.sourceListingKey = sourceListingKey := by
  rcases upsertIdentity_cases identities sourceName sourceListingKey listingUrl observedAt with
    ⟨_, opened, ofListing, _, _, rows⟩ | ⟨⟨old, member, ofListing⟩, rows⟩
  · refine ⟨opened, ?_, ofListing⟩
    rw [← Table.mem_rows, rows]
    exact List.mem_append_right _ (List.mem_singleton_self _)
  · refine ⟨movedIdentity sourceName sourceListingKey listingUrl observedAt old, ?_, ?_⟩
    · rw [← Table.mem_rows, rows]
      exact List.mem_map_of_mem member
    · have same := @movedIdentity_ofListing sourceName sourceListingKey listingUrl observedAt old
      exact ⟨same.1.trans ofListing.1, same.2.trans ofListing.2⟩

theorem upsertIdentity_develops (identities : Table IdentityRow)
    (sourceName sourceListingKey listingUrl observedAt : String) :
    identities.Develops (Keeps identityColumns) (fun _ => True)
      (upsertIdentity identities sourceName sourceListingKey listingUrl observedAt) := by
  rcases upsertIdentity_cases identities sourceName sourceListingKey listingUrl observedAt with
    ⟨_, opened, _, _, _, rows⟩ | ⟨_, rows⟩
  · exact Table.develops_of_append Keeps.refl rows trivial
  · refine Table.develops_of_map rows fun row _ => ?_
    unfold movedIdentity
    split <;> rfl

/-- An accepted observation changes the identities and the observations only. -/
theorem appendObservation_frame (observation : DiscoveryObservation) (recordId : String)
    (db : Db) : ∃ identities observations, (appendObservation observation recordId db).2 =
      { db with identities := identities, observations := observations } := by
  rcases appendObservation_cases (Prod.eta (appendObservation observation recordId db)).symm with
    ⟨_, _, same⟩ | ⟨_, identities, observations, _, same, _⟩
  · exact ⟨db.identities, db.observations, same⟩
  · exact ⟨identities, observations, same⟩

theorem appendObservation_steps (observation : DiscoveryObservation) (recordId : String) :
    Steps (appendObservation observation recordId) := by
  intro store
  obtain ⟨identities, observations, frame⟩ :=
    appendObservation_frame observation recordId store.db
  rcases appendObservation_appended
      (Prod.eta (appendObservation observation recordId store.db)).symm with
    ⟨_, same⟩ | ⟨observedAt, appended⟩
  · rw [same]
    exact .refl store
  · obtain ⟨_, _, run, written, rows⟩ := appended
    rw [frame] at written rows ⊢
    dsimp only at written
    subst written
    have admitted : HasRun store.db observation.crawlRunId ∧
        ∃ identity ∈ upsertIdentity store.db.identities observation.sourceName
          observation.sourceListingKey observation.listingUrl observedAt,
            identity.sourceName = observation.sourceName ∧
              identity.sourceListingKey = observation.sourceListingKey :=
      ⟨run, identified_upsert⟩
    exact
      { StoreStep.refl store with
        identities := upsertIdentity_develops _ _ _ _ _
        observations := Table.develops_of_append Eq.refl rows admitted
        jobs := .refl SameIdentity.refl store.db.jobs }

theorem saveCheckpoint_steps (crawlRunId partitionId checkpointValue : String) (clock : Instant) :
    Steps (saveCheckpoint crawlRunId partitionId checkpointValue clock) := by
  refine steps_of_transaction fun store value next body => ?_
  dsimp only at body
  split at body
  · next checkpoints inserted =>
    obtain ⟨_, hasRun, body⟩ := bind_eq_ok.mp body
    obtain ⟨_, hasPartition, body⟩ := bind_eq_ok.mp body
    obtain ⟨_, rfl⟩ := Prod.mk.inj (Except.ok.inj body)
    have rows := (Table.insert?_eq_some.mp inserted).2
    have run := exists_of_requireReference hasRun
    have partition := exists_of_requireReference hasPartition
    exact { StoreStep.refl store with
      checkpoints := Table.develops_of_append Keeps.refl rows ⟨run, partition⟩ }
  · obtain ⟨_, rfl⟩ := Prod.mk.inj (Except.ok.inj body)
    refine { StoreStep.refl store with checkpoints := Table.develops_of_map rfl fun row _ => ?_ }
    split <;> rfl

/-! ## Jobs and attempts -/

/-- An identity that a job registers is added unless its listing is known. -/
theorem registered_develops (identities : Table IdentityRow) (identity : IdentityRow) :
    identities.Develops (Keeps identityColumns) (fun _ => True)
      ((identities.insert? identity).getD identities) := by
  cases inserted : identities.insert? identity with
  | none => exact .refl Keeps.refl identities
  | some grown =>
      exact Table.develops_of_append Keeps.refl (Table.insert?_eq_some.mp inserted).2 trivial

theorem createIdempotent_steps (job : DetailFetchJob) (createdAt updatedAt : Instant) :
    Steps (createIdempotent job createdAt updatedAt) := by
  intro store
  cases call : createIdempotent job createdAt updatedAt store.db with
  | mk result next =>
  cases result with
  | error raised =>
      have unchanged : next = store.db := createIdempotent_error call
      rw [unchanged]
      exact .refl store
  | ok jobId =>
      have identified := (createIdempotent_identities call).1
      obtain ⟨scheduledAt, row, jobs, existing, ⟨_, made, inserted⟩, _, rfl⟩ :=
        createIdempotent_ok call
      obtain ⟨⟨_, sameRun, sameSource, sameListing, _⟩, _⟩ := newJobRow_ok made
      have identities := registered_develops store.db.identities (registeredIdentity job scheduledAt)
      rcases insertJob_ok inserted with ⟨_, rfl⟩ | ⟨_, run, rows⟩
      · exact
          { StoreStep.refl store with
            identities := identities
            observations := .refl Eq.refl store.db.observations
            jobs := .refl SameIdentity.refl store.db.jobs }
      · rw [← sameSource, ← sameListing] at identified
        exact
          { StoreStep.refl store with
            identities := identities
            observations := .refl Eq.refl store.db.observations
            jobs := Table.develops_of_append SameIdentity.refl rows ⟨run, identified⟩ }

/-- A call of the queue that adds no job, and attempts of jobs only. -/
theorem step_of_queue {store : Store} {next : Db}
    (frame : next = { store.db with jobs := next.jobs, attempts := next.attempts })
    (jobs : store.db.jobs.Develops SameIdentity (fun _ => False) next.jobs)
    (attempts : store.db.attempts.Develops (Keeps attemptColumns)
      (fun attempt => HasJob store.db attempt.jobId) next.attempts) :
    StoreStep store { store with db := next } := by
  rw [frame]
  exact { StoreStep.refl store with jobs := jobs.mono id False.elim, attempts := attempts }

theorem sameIdentity_settledRow (row stored : JobRow) (state : JobState)
    (errorClass : Option String) (current : String) :
    SameIdentity stored (settledRow row state errorClass current stored) := by
  unfold settledRow
  split
  · exact ⟨rfl, rfl, rfl, rfl, rfl, rfl, rfl, rfl, rfl, rfl⟩
  · exact .refl stored

theorem Leased.jobs_develop {workerId jobAttemptId current expires : String} {leaseSeconds : Int}
    {now : Datetime} {row : JobRow} {db next : Db}
    (leased : Leased workerId leaseSeconds now jobAttemptId row current expires db next) :
    db.jobs.Develops SameIdentity (fun _ => False) next.jobs := by
  refine Table.develops_of_map leased.jobs fun stored member => ?_
  split
  · next own =>
    rw [job_eq_of_id member leased.member own]
    exact ⟨rfl, rfl, rfl, rfl, rfl, rfl, rfl, rfl, rfl, rfl⟩
  · exact .refl stored

theorem Finished.jobs_develop {jobId workerId current : String} {success : Bool}
    {errorClass : Option String} {now : Datetime} {row : JobRow} {db next : Db}
    (finished : Finished jobId workerId success errorClass now row current db next) :
    db.jobs.Develops SameIdentity (fun _ => False) next.jobs :=
  Table.develops_of_map finished.jobs fun stored _ => sameIdentity_settledRow _ stored _ _ _

theorem Recovered.jobs_develop {now : Datetime} {current : String} {counts : RecoveryCounts}
    {db next : Db} (recovery : Recovered now current counts db next) :
    db.jobs.Develops SameIdentity (fun _ => False) next.jobs := by
  refine Table.develops_of_map recovery.jobs fun stored _ => ?_
  unfold recoveredRow
  split
  · exact ⟨rfl, rfl, rfl, rfl, rfl, rfl, rfl, rfl, rfl, rfl⟩
  · exact .refl stored

theorem leaseNext_steps (workerId : String) (leaseSeconds : Int) (now : Datetime)
    (jobAttemptId : String) : Steps (leaseNext workerId leaseSeconds now jobAttemptId) := by
  intro store
  rcases leaseNext_cases
      (Prod.eta (leaseNext workerId leaseSeconds now jobAttemptId store.db)).symm with
    ⟨_, _, same⟩ | ⟨_, same, _⟩ | ⟨row, current, expires, leased, _⟩
  · rw [same]
    exact .refl store
  · rw [same]
    exact .refl store
  · exact step_of_queue leased.frame leased.jobs_develop
      (Table.develops_of_append Keeps.refl leased.attempts ⟨row, leased.member, rfl⟩)

theorem finish_steps (jobId workerId : String) (success : Bool) (errorClass : Option String)
    (now : Datetime) : Steps (finish jobId workerId success errorClass now) := by
  intro store
  rcases finish_cases (Prod.eta (finish jobId workerId success errorClass now store.db)).symm with
    ⟨same, _⟩ | ⟨row, current, finished, _⟩
  · rw [same]
    exact .refl store
  · refine step_of_queue finished.frame finished.jobs_develop
      (Table.develops_of_map finished.attempts ?_)
    intro attempt _
    unfold closedAttempt
    split <;> rfl

theorem recoverAbandoned_steps (now : Datetime) : Steps (recoverAbandoned now) := by
  intro store
  rcases recoverAbandoned_cases (Prod.eta (recoverAbandoned now store.db)).symm with
    ⟨_, _, same⟩ | ⟨current, counts, recovery, _⟩
  · rw [same]
    exact .refl store
  · refine step_of_queue recovery.frame recovery.jobs_develop
      (Table.develops_of_map recovery.attempts fun attempt _ => ?_)
    unfold abandonedAttempt
    split <;> rfl

theorem perform_steps (call : QueueCall) : Steps (perform call) := by
  intro store
  cases call with
  | createIdempotent job createdAt updatedAt =>
      exact createIdempotent_steps job createdAt updatedAt store
  | leaseNext workerId leaseSeconds now jobAttemptId =>
      exact leaseNext_steps workerId leaseSeconds now jobAttemptId store
  | succeed jobId workerId now => exact finish_steps jobId workerId true none now store
  | fail jobId workerId errorClass now =>
      exact finish_steps jobId workerId false (some errorClass) now store
  | recoverAbandoned now => exact recoverAbandoned_steps now store

/-! ## Snapshots, parser runs, batches and usage -/

theorem recordSnapshot_steps (artifact : RawFetchArtifact) : Steps (recordSnapshot artifact) := by
  refine steps_of_transaction fun store value next body => ?_
  obtain ⟨fetchedAt, _, body⟩ := bind_eq_ok.mp body
  obtain ⟨_, _, body⟩ := bind_eq_ok.mp body
  obtain ⟨snapshots, inserted, body⟩ := bind_eq_ok.mp body
  obtain ⟨_, hasJob, body⟩ := bind_eq_ok.mp body
  obtain ⟨_, hasRun, body⟩ := bind_eq_ok.mp body
  obtain ⟨_, rfl⟩ := Prod.mk.inj (Except.ok.inj body)
  have rows := (Table.insert?_eq_some.mp (insertRow_ok.mp inserted)).2
  have job := exists_of_requireReference hasJob
  have run := exists_of_requireReference hasRun
  exact { StoreStep.refl store with snapshots := Table.develops_of_append Eq.refl rows ⟨job, run⟩ }

theorem startParserRun_steps (artifactId parserName parserVersion parserRunId : String)
    (clock : Instant) :
    Steps (startParserRun artifactId parserName parserVersion parserRunId clock) := by
  refine steps_of_transaction fun store value next body => ?_
  obtain ⟨parserRuns, inserted, body⟩ := bind_eq_ok.mp body
  obtain ⟨_, referenced, body⟩ := bind_eq_ok.mp body
  obtain ⟨_, rfl⟩ := Prod.mk.inj (Except.ok.inj body)
  have rows := (Table.insert?_eq_some.mp (insertRow_ok.mp inserted)).2
  have snapshot := exists_of_requireReference referenced
  exact { StoreStep.refl store with parserRuns := Table.develops_of_append Keeps.refl rows snapshot }

theorem transitionParserRun_steps (parserRunId : String) (target : ParserRunState)
    (failureReason : Option String) (clock : Instant) :
    Steps (transitionParserRun parserRunId target failureReason clock) := by
  intro store
  obtain ⟨_, parserRuns, same, rows⟩ := transitionParserRun_cases
    (Prod.eta (transitionParserRun parserRunId target failureReason clock store.db)).symm
  rw [same]
  refine { StoreStep.refl store with parserRuns := Table.develops_of_map rows fun row _ => ?_ }
  unfold finishedParserRun
  split <;> rfl

theorem failParserRun_steps (parserRunId failureReason : String) (clock : Instant) :
    Steps (failParserRun parserRunId failureReason clock) := by
  intro store
  unfold failParserRun
  split
  · exact .refl store
  · exact transitionParserRun_steps parserRunId .failed (some failureReason) clock store

theorem recordBatch_steps (manifest : DatasetBatchManifest) : Steps (recordBatch manifest) := by
  intro store
  rcases recordBatch_cases (Prod.eta (recordBatch manifest store.db)).symm with
    ⟨_, _, same⟩ | ⟨_, batches, createdAt, same, _, rows⟩
  · rw [same]
    exact .refl store
  · rw [same]
    exact { StoreStep.refl store with batches := Table.develops_of_append Eq.refl rows trivial }

/-- A query changes nothing. -/
theorem getBatch_snd (library : StandardLibrary) (batchId : String) (db : Db) :
    (getBatch library batchId db).2 = db := by
  unfold getBatch
  split <;> rfl

theorem appendUsage_step (call : AppendCall) (fresh : String) (clock : Instant) (store : Store) :
    StoreStep store { store with
      ledger := (append call { db := store.db, ledgerId := fresh, clock := clock }
        store.ledger).2 } := by
  unfold append
  split
  · next ledger inserted =>
    obtain ⟨_, _, body⟩ := bind_eq_ok.mp inserted
    obtain ⟨_, _, body⟩ := bind_eq_ok.mp body
    obtain ⟨bytesSent, _, body⟩ := bind_eq_ok.mp body
    obtain ⟨bytesReceived, _, body⟩ := bind_eq_ok.mp body
    obtain ⟨table, isInserted, body⟩ := bind_eq_ok.mp body
    obtain ⟨_, hasRun, body⟩ := bind_eq_ok.mp body
    obtain ⟨_, hasJob, body⟩ := bind_eq_ok.mp body
    cases body
    have rows := (Table.insert?_eq_some.mp (insertRow_ok.mp isInserted)).2
    have run := exists_of_requireReference hasRun
    have job : ∀ jobId ∈ call.jobId, HasJob store.db jobId := by
      intro jobId given
      rw [Option.mem_def] at given
      rw [given] at hasJob
      exact exists_of_requireReference hasJob
    exact { StoreStep.refl store with ledger := Table.develops_of_append Eq.refl rows ⟨run, job⟩ }
  · exact .refl store

/-! ## Every call -/

theorem performStore_step (library : StandardLibrary) (call : StoreCall) (store : Store) :
    StoreStep store (performStore library call store).2 := by
  cases call with
  | registerOwner clock => exact registerOwner_steps clock store
  | upsertSource sourceName enabled identityStrategy identityNotes clock =>
      exact upsertSource_steps sourceName enabled identityStrategy identityNotes clock store
  | createRun crawlRunId sourceName runKind clock =>
      exact createRun_steps crawlRunId sourceName runKind clock store
  | startRun crawlRunId clock => exact transitionRun_steps _ _ _ _ _ _ store
  | completeRun crawlRunId clock => exact transitionRun_steps _ _ _ _ _ _ store
  | failRun crawlRunId clock => exact transitionRun_steps _ _ _ _ _ _ store
  | createPartition partitionId crawlRunId sourceName partitionKey createdAt updatedAt =>
      exact createPartition_steps partitionId crawlRunId sourceName partitionKey createdAt updatedAt
        store
  | startPartition partitionId clock => exact transitionPartition_steps _ _ _ _ store
  | completePartition partitionId clock => exact transitionPartition_steps _ _ _ _ store
  | failPartition partitionId clock => exact transitionPartition_steps _ _ _ _ store
  | appendObservation observation observationId fresh =>
      exact appendObservation_steps observation (recordIdOf observationId fresh) store
  | queue call => exact perform_steps call store
  | saveCheckpoint crawlRunId partitionId checkpointValue clock =>
      exact saveCheckpoint_steps crawlRunId partitionId checkpointValue clock store
  | recordSnapshot artifact => exact recordSnapshot_steps artifact store
  | startParserRun artifactId parserName parserVersion fresh clock =>
      exact startParserRun_steps artifactId parserName parserVersion fresh clock store
  | completeParserRun parserRunId clock =>
      exact transitionParserRun_steps parserRunId .completed none clock store
  | failParserRun parserRunId failureReason clock =>
      exact failParserRun_steps parserRunId failureReason clock store
  | appendUsage call fresh clock => exact appendUsage_step call fresh clock store
  | recordBatch manifest => exact recordBatch_steps manifest store
  | getBatch batchId =>
      simp only [performStore, Store.onDb, getBatch_snd]
      exact .refl store
  | getRun | getPartition | statusCounts | loadCheckpoint | getSnapshot | getParserRun
  | usageTotals => exact .refl store

/-! ## Tables that a call does not touch -/

inductive TableName where
  | sources
  | runs
  | partitions
  | identities
  | observations
  | jobs
  | attempts
  | checkpoints
  | snapshots
  | parserRuns
  | batches
  | queueOwners
  | ledger
deriving DecidableEq

/-- The tables that a call may write. -/
def StoreCall.writes : StoreCall → List TableName
  | .registerOwner _ => [.queueOwners]
  | .upsertSource .. => [.sources]
  | .createRun .. | .startRun .. | .completeRun .. | .failRun .. => [.runs]
  | .createPartition .. | .startPartition .. | .completePartition .. | .failPartition .. =>
      [.partitions]
  | .appendObservation .. => [.identities, .observations]
  | .queue (.createIdempotent ..) => [.identities, .jobs]
  | .queue _ => [.jobs, .attempts]
  | .saveCheckpoint .. => [.checkpoints]
  | .recordSnapshot _ => [.snapshots]
  | .startParserRun .. | .completeParserRun .. | .failParserRun .. => [.parserRuns]
  | .appendUsage .. => [.ledger]
  | .recordBatch _ => [.batches]
  | .getRun _ | .getPartition _ | .statusCounts | .loadCheckpoint .. | .getSnapshot _
  | .getParserRun _ | .usageTotals | .getBatch _ => []

def SameTable (store next : Store) : TableName → Prop
  | .sources => next.db.sources = store.db.sources
  | .runs => next.db.runs = store.db.runs
  | .partitions => next.db.partitions = store.db.partitions
  | .identities => next.db.identities = store.db.identities
  | .observations => next.db.observations = store.db.observations
  | .jobs => next.db.jobs = store.db.jobs
  | .attempts => next.db.attempts = store.db.attempts
  | .checkpoints => next.db.checkpoints = store.db.checkpoints
  | .snapshots => next.db.snapshots = store.db.snapshots
  | .parserRuns => next.db.parserRuns = store.db.parserRuns
  | .batches => next.db.batches = store.db.batches
  | .queueOwners => next.db.queueOwners = store.db.queueOwners
  | .ledger => next.ledger = store.ledger

/-- The tables of a database with some of them taken from another one. -/
def patched (written : List TableName) (db next : Db) : Db where
  sources := if .sources ∈ written then next.sources else db.sources
  runs := if .runs ∈ written then next.runs else db.runs
  partitions := if .partitions ∈ written then next.partitions else db.partitions
  identities := if .identities ∈ written then next.identities else db.identities
  observations := if .observations ∈ written then next.observations else db.observations
  jobs := if .jobs ∈ written then next.jobs else db.jobs
  attempts := if .attempts ∈ written then next.attempts else db.attempts
  checkpoints := if .checkpoints ∈ written then next.checkpoints else db.checkpoints
  snapshots := if .snapshots ∈ written then next.snapshots else db.snapshots
  parserRuns := if .parserRuns ∈ written then next.parserRuns else db.parserRuns
  batches := if .batches ∈ written then next.batches else db.batches
  queueOwners := if .queueOwners ∈ written then next.queueOwners else db.queueOwners

/-- The second database differs from the first in the tables listed only. -/
def WritesOnly (written : List TableName) (db next : Db) : Prop := next = patched written db next

theorem writesOnly_refl (written : List TableName) (db : Db) : WritesOnly written db db := by
  unfold WritesOnly patched
  simp only [ite_self]

/-- An outcome whose frame is known differs where the frame does. -/
theorem writesOnly_of_eq {written : List TableName} {db next changed : Db} (same : next = changed)
    (only : WritesOnly written db changed) : WritesOnly written db next := same ▸ only

theorem transaction_writesOnly {α : Type} {body : Transaction α} {written : List TableName}
    {db : Db} (returns : ∀ value next, body db = .ok (value, next) → WritesOnly written db next) :
    WritesOnly written db (writeTransaction body db).2 := by
  unfold writeTransaction
  cases outcome : body db with
  | error raised => exact writesOnly_refl written db
  | ok pair => exact returns pair.1 pair.2 outcome

theorem registerOwner_writesOnly (clock : Instant) (db : Db) :
    WritesOnly [.queueOwners] db (registerOwner clock db).2 := by
  refine transaction_writesOnly fun value next body => ?_
  split at body
  · obtain ⟨_, _, body⟩ := bind_eq_ok.mp body
    obtain ⟨_, rfl⟩ := Prod.mk.inj (Except.ok.inj body)
    rfl
  · split at body
    · cases body
    · obtain ⟨_, rfl⟩ := Prod.mk.inj (Except.ok.inj body)
      exact writesOnly_refl _ db

theorem perform_writesOnly (call : QueueCall) (db : Db) :
    WritesOnly (StoreCall.queue call).writes db (perform call db).2 := by
  have effect := perform_effect call db
  generalize (perform call db).1 = result at effect
  generalize (perform call db).2 = next at effect
  cases effect with
  | raised | idle => exact writesOnly_refl _ db
  | found _ _ frame => exact writesOnly_of_eq frame rfl
  | created made => exact writesOnly_of_eq made.frame rfl
  | leased leased => exact writesOnly_of_eq leased.frame rfl
  | succeeded finished => exact writesOnly_of_eq finished.frame rfl
  | failed finished => exact writesOnly_of_eq finished.frame rfl
  | recovered recovery => exact writesOnly_of_eq recovery.frame rfl

theorem recordSnapshot_writesOnly (artifact : RawFetchArtifact) (db : Db) :
    WritesOnly [.snapshots] db (recordSnapshot artifact db).2 := by
  rcases recordSnapshot_cases (Prod.eta (recordSnapshot artifact db)).symm with
    ⟨_, _, same⟩ | ⟨_, _, _, _, same, _⟩
  · exact writesOnly_of_eq same (writesOnly_refl _ db)
  · exact writesOnly_of_eq same rfl

theorem failParserRun_writesOnly (parserRunId failureReason : String) (clock : Instant) (db : Db) :
    WritesOnly [.parserRuns] db (failParserRun parserRunId failureReason clock db).2 := by
  unfold failParserRun
  split
  · exact writesOnly_refl _ db
  · obtain ⟨_, _, same, _⟩ := transitionParserRun_cases (Prod.eta (transitionParserRun
      parserRunId .failed (some failureReason) clock db)).symm
    exact writesOnly_of_eq same rfl

theorem performStore_writesOnly (library : StandardLibrary) (call : StoreCall) (store : Store) :
    WritesOnly call.writes store.db (performStore library call store).2.db := by
  cases call with
  | registerOwner clock =>
      exact registerOwner_writesOnly clock store.db
  | upsertSource sourceName enabled identityStrategy identityNotes clock =>
      obtain ⟨_, _, same, _⟩ := upsertSource_cases (Prod.eta
        (upsertSource sourceName enabled identityStrategy identityNotes clock store.db)).symm
      exact writesOnly_of_eq same rfl
  | createRun crawlRunId sourceName runKind clock =>
      rcases createRun_cases
          (Prod.eta (createRun crawlRunId sourceName runKind clock store.db)).symm
        with ⟨_, _, same⟩ | ⟨_, _, same, _⟩
      · exact writesOnly_of_eq same (writesOnly_refl _ _)
      · exact writesOnly_of_eq same rfl
  | startRun crawlRunId clock =>
      obtain ⟨_, _, same, _⟩ := transitionRun_cases
        (Prod.eta (startRun crawlRunId clock store.db)).symm
      exact writesOnly_of_eq same rfl
  | completeRun crawlRunId clock =>
      obtain ⟨_, _, same, _⟩ := transitionRun_cases
        (Prod.eta (completeRun crawlRunId clock store.db)).symm
      exact writesOnly_of_eq same rfl
  | failRun crawlRunId clock =>
      obtain ⟨_, _, same, _⟩ := transitionRun_cases
        (Prod.eta (failRun crawlRunId clock store.db)).symm
      exact writesOnly_of_eq same rfl
  | createPartition partitionId crawlRunId sourceName partitionKey createdAt updatedAt =>
      rcases createPartition_cases (Prod.eta (createPartition partitionId crawlRunId sourceName
        partitionKey createdAt updatedAt store.db)).symm with ⟨_, _, same⟩ | ⟨_, _, same, _⟩
      · exact writesOnly_of_eq same (writesOnly_refl _ _)
      · exact writesOnly_of_eq same rfl
  | startPartition partitionId clock =>
      obtain ⟨_, _, same, _⟩ := transitionPartition_cases
        (Prod.eta (startPartition partitionId clock store.db)).symm
      exact writesOnly_of_eq same rfl
  | completePartition partitionId clock =>
      obtain ⟨_, _, same, _⟩ := transitionPartition_cases
        (Prod.eta (completePartition partitionId clock store.db)).symm
      exact writesOnly_of_eq same rfl
  | failPartition partitionId clock =>
      obtain ⟨_, _, same, _⟩ := transitionPartition_cases
        (Prod.eta (failPartition partitionId clock store.db)).symm
      exact writesOnly_of_eq same rfl
  | appendObservation observation observationId fresh =>
      obtain ⟨_, _, same⟩ := appendObservation_frame observation (recordIdOf observationId fresh)
        store.db
      exact writesOnly_of_eq same rfl
  | queue call => exact perform_writesOnly call store.db
  | saveCheckpoint crawlRunId partitionId checkpointValue clock =>
      rcases saveCheckpoint_cases (Prod.eta
          (saveCheckpoint crawlRunId partitionId checkpointValue clock store.db)).symm
        with ⟨_, _, same⟩ | ⟨_, _, same, _⟩
      · exact writesOnly_of_eq same (writesOnly_refl _ _)
      · exact writesOnly_of_eq same rfl
  | recordSnapshot artifact =>
      exact recordSnapshot_writesOnly artifact store.db
  | startParserRun artifactId parserName parserVersion fresh clock =>
      rcases startParserRun_cases (Prod.eta (startParserRun artifactId parserName parserVersion
        fresh clock store.db)).symm with ⟨_, _, same⟩ | ⟨_, _, same, _⟩
      · exact writesOnly_of_eq same (writesOnly_refl _ _)
      · exact writesOnly_of_eq same rfl
  | completeParserRun parserRunId clock =>
      obtain ⟨_, _, same, _⟩ := transitionParserRun_cases
        (Prod.eta (completeParserRun parserRunId clock store.db)).symm
      exact writesOnly_of_eq same rfl
  | failParserRun parserRunId failureReason clock =>
      exact failParserRun_writesOnly parserRunId failureReason clock store.db
  | appendUsage call fresh clock =>
      exact writesOnly_refl _ store.db
  | recordBatch manifest =>
      rcases recordBatch_cases (Prod.eta (recordBatch manifest store.db)).symm with
        ⟨_, _, same⟩ | ⟨_, _, _, same, _⟩
      · exact writesOnly_of_eq same (writesOnly_refl _ _)
      · exact writesOnly_of_eq same rfl
  | getBatch batchId =>
      simp only [performStore, Store.onDb, getBatch_snd]
      exact writesOnly_refl _ store.db
  | getRun | getPartition | statusCounts | loadCheckpoint | getSnapshot | getParserRun
  | usageTotals => exact writesOnly_refl _ store.db

theorem performStore_ledger {library : StandardLibrary} {call : StoreCall} {store : Store}
    (elsewhere : TableName.ledger ∉ call.writes) :
    (performStore library call store).2.ledger = store.ledger := by
  cases call with
  | appendUsage => exact absurd (List.mem_singleton_self _) elsewhere
  | _ => rfl

/-- A call leaves every table that it is not about as it was. -/
theorem performStore_frame (library : StandardLibrary) (call : StoreCall) (store : Store)
    (name : TableName) (elsewhere : name ∉ call.writes) :
    SameTable store (performStore library call store).2 name := by
  have only := performStore_writesOnly library call store
  unfold WritesOnly at only
  cases name with
  | ledger => exact performStore_ledger elsewhere
  | _ =>
    unfold SameTable
    rw [only]
    exact if_neg elsewhere

/-! ## Calls that raise -/

/-- A call that raises leaves the tables as they were. -/
def ChangesNothing {α : Type} (action : Action α) : Prop :=
  ∀ db raised, (action db).1 = .error raised → (action db).2 = db

theorem changesNothing_of_transaction {α : Type} {body : Transaction α} :
    ChangesNothing (writeTransaction body) := fun db raised isError =>
  (writeTransaction_error.mp (Prod.ext isError rfl : writeTransaction body db =
    (.error raised, (writeTransaction body db).2))).2

/-- A transition raises after its commit, and then has changed no row. -/
theorem transitionRun_changesNothing (crawlRunId : String) (expected target : RunState)
    (setStarted setFinished : Bool) (clock : Instant) :
    ChangesNothing (transitionRun crawlRunId expected target setStarted setFinished clock) := by
  intro db raised isError
  obtain ⟨returns, _⟩ := transitionRun_cases
    (Prod.eta (transitionRun crawlRunId expected target setStarted setFinished clock db)).symm
  rw [isError] at returns
  exact congrArg Prod.snd (transitionRun_refused fun present => nomatch returns.mpr present)

theorem transitionPartition_changesNothing (partitionId : String)
    (expected target : PartitionState) (clock : Instant) :
    ChangesNothing (transitionPartition partitionId expected target clock) := by
  intro db raised isError
  obtain ⟨returns, _⟩ := transitionPartition_cases
    (Prod.eta (transitionPartition partitionId expected target clock db)).symm
  rw [isError] at returns
  exact congrArg Prod.snd (transitionPartition_refused fun present => nomatch returns.mpr present)

theorem transitionParserRun_changesNothing (parserRunId : String) (target : ParserRunState)
    (failureReason : Option String) (clock : Instant) :
    ChangesNothing (transitionParserRun parserRunId target failureReason clock) := by
  intro db raised isError
  obtain ⟨returns, _⟩ := transitionParserRun_cases
    (Prod.eta (transitionParserRun parserRunId target failureReason clock db)).symm
  rw [isError] at returns
  exact congrArg Prod.snd (transitionParserRun_refused fun present => nomatch returns.mpr present)

theorem appendObservation_changesNothing (observation : DiscoveryObservation)
    (recordId : String) : ChangesNothing (appendObservation observation recordId) := by
  intro db raised isError
  rcases appendObservation_cases (Prod.eta (appendObservation observation recordId db)).symm with
    ⟨_, _, same⟩ | ⟨isOk, _⟩
  · exact same
  · rw [isError] at isOk
    cases isOk

theorem recordBatch_changesNothing (manifest : DatasetBatchManifest) :
    ChangesNothing (recordBatch manifest) := by
  intro db raised isError
  rcases recordBatch_cases (Prod.eta (recordBatch manifest db)).symm with
    ⟨_, _, same⟩ | ⟨isOk, _⟩
  · exact same
  · rw [isError] at isOk
    cases isOk

/-- The tables after a call that raises, of an action that then changes nothing. -/
theorem Store.onDb_raised {α : Type} {store : Store} {action : Action α} {reply : α → StoreReply}
    (silent : ChangesNothing action) {raised : PyError}
    (isError : (store.onDb action reply).1 = .error raised) :
    (store.onDb action reply).2 = store := by
  have unchanged : (action store.db).2 = store.db := by
    unfold Store.onDb at isError
    dsimp only at isError
    cases outcome : (action store.db).1 with
    | error other => exact silent store.db other outcome
    | ok value =>
        rw [outcome] at isError
        cases isError
  unfold Store.onDb
  dsimp only
  rw [unchanged]

/-- A call that raises changes nothing, whichever call it is. -/
theorem performStore_raised {library : StandardLibrary} {call : StoreCall} {store : Store}
    {raised : PyError} (isError : (performStore library call store).1 = .error raised) :
    (performStore library call store).2 = store := by
  cases call <;> simp only [performStore] at isError ⊢
  case registerOwner | upsertSource | createRun | createPartition | saveCheckpoint |
      recordSnapshot | startParserRun =>
    exact Store.onDb_raised changesNothing_of_transaction isError
  case startRun | completeRun | failRun =>
    exact Store.onDb_raised (transitionRun_changesNothing _ _ _ _ _ _) isError
  case startPartition | completePartition | failPartition =>
    exact Store.onDb_raised (transitionPartition_changesNothing _ _ _ _) isError
  case completeParserRun =>
    exact Store.onDb_raised (transitionParserRun_changesNothing _ .completed none _) isError
  case failParserRun parserRunId failureReason clock =>
    refine Store.onDb_raised (fun db other refused => ?_) isError
    unfold failParserRun at refused ⊢
    split at refused
    · next reason => rw [if_pos reason]
    · next reason =>
      rw [if_neg reason]
      exact transitionParserRun_changesNothing _ _ _ _ db other refused
  case appendObservation =>
    exact Store.onDb_raised (appendObservation_changesNothing _ _) isError
  case queue => exact Store.onDb_raised (fun db _ => raise_changes_nothing) isError
  case recordBatch => exact Store.onDb_raised (recordBatch_changesNothing _) isError
  case getBatch batchId =>
    exact Store.onDb_raised (fun db _ _ => getBatch_snd library batchId db) isError
  case appendUsage call fresh clock =>
    rcases append_cases (Prod.eta (append call { db := store.db, ledgerId := fresh, clock := clock }
        store.ledger)).symm with ⟨_, _, same⟩ | ⟨_, isOk, _⟩
    · rw [same]
    · rw [isOk] at isError
      cases isError
  case getRun | getPartition | statusCounts | loadCheckpoint | getSnapshot | getParserRun => rfl

end ScraperProject.Orchestration
