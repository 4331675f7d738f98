import ScraperProject.Foundation.Register
import ScraperProject.Orchestration.Store

/-!
Contract: what holds of the runtime store over whole histories.

Owns the foreign keys of `0001_runtime_schema.sql`, which no history breaks, the tables
that only grow and the columns that never change, and the erasure of failed calls.

Does not own the lifecycles of runs, partitions and parser runs, the invariants of the
job queue or what the reads return.
-/

namespace ScraperProject.Orchestration

open Foundation
open Database
open Contracts

/-- The store that calls lead to, from the migrated one. -/
def storeAfter (library : StandardLibrary) (calls : List StoreCall) : Store :=
  History.after (performStore library) Store.empty calls

/-- The calls with their results. -/
def storePast (library : StandardLibrary) (calls : List StoreCall) :
    List (StoreCall × Except PyError StoreReply) :=
  History.events (performStore library) Store.empty calls

/-! ## References -/

/-- The REFERENCES clauses of the schema, in its order. -/
def foreignKeys : List (ForeignKey Store) :=
  [ -- crawl_runs
    .between (fun store => store.db.runs) (fun row => some row.sourceName)
      (fun store => store.db.sources) SourceRow.sourceName,
    -- crawl_partitions
    .between (fun store => store.db.partitions) (fun row => some row.crawlRunId)
      (fun store => store.db.runs) RunRow.crawlRunId,
    -- discovery_observations
    .between (fun store => store.db.observations) (fun row => some row.crawlRunId)
      (fun store => store.db.runs) RunRow.crawlRunId,
    .between (fun store => store.db.observations)
      (fun row => some (row.sourceName, row.sourceListingKey))
      (fun store => store.db.identities) (fun row => (row.sourceName, row.sourceListingKey)),
    -- detail_fetch_jobs
    .between (fun store => store.db.jobs) (fun row => some row.crawlRunId)
      (fun store => store.db.runs) RunRow.crawlRunId,
    .between (fun store => store.db.jobs)
      (fun row => some (row.sourceName, row.sourceListingKey))
      (fun store => store.db.identities) (fun row => (row.sourceName, row.sourceListingKey)),
    -- job_attempts
    .between (fun store => store.db.attempts) (fun row => some row.jobId)
      (fun store => store.db.jobs) JobRow.jobId,
    -- checkpoints
    .between (fun store => store.db.checkpoints) (fun row => some row.crawlRunId)
      (fun store => store.db.runs) RunRow.crawlRunId,
    .between (fun store => store.db.checkpoints) (fun row => some row.partitionId)
      (fun store => store.db.partitions) PartitionRow.partitionId,
    -- raw_snapshot_manifests
    .between (fun store => store.db.snapshots) (fun row => some row.jobId)
      (fun store => store.db.jobs) JobRow.jobId,
    .between (fun store => store.db.snapshots) (fun row => some row.crawlRunId)
      (fun store => store.db.runs) RunRow.crawlRunId,
    -- parser_runs
    .between (fun store => store.db.parserRuns) (fun row => some row.artifactId)
      (fun store => store.db.snapshots) SnapshotRow.artifactId,
    -- proxy_usage_ledger
    .between (fun store => store.ledger) (fun row => some row.crawlRunId)
      (fun store => store.db.runs) RunRow.crawlRunId,
    .between (fun store => store.ledger) LedgerRow.jobId
      (fun store => store.db.jobs) JobRow.jobId ]

/-- No reference dangles: every name in a column with a REFERENCES clause is that of a
row. -/
def ReferencesHold (store : Store) : Prop :=
  ∀ foreignKey ∈ foreignKeys, foreignKey.Holds store

section Columns

variable {run laterRun : RunRow} {partition laterPartition : PartitionRow}
  {identity laterIdentity : IdentityRow} {job laterJob : JobRow}
  {snapshot laterSnapshot : SnapshotRow}

theorem runKey_kept (keeps : Keeps runColumns run laterRun) :
    laterRun.crawlRunId = run.crawlRunId := congrArg RunColumns.crawlRunId keeps

theorem partitionKey_kept (keeps : Keeps partitionColumns partition laterPartition) :
    laterPartition.partitionId = partition.partitionId :=
  congrArg PartitionColumns.partitionId keeps

theorem identityKey_kept (keeps : Keeps identityColumns identity laterIdentity) :
    (laterIdentity.sourceName, laterIdentity.sourceListingKey) =
      (identity.sourceName, identity.sourceListingKey) :=
  congrArg (fun columns => (columns.sourceName, columns.sourceListingKey)) keeps

theorem listing_kept (same : SameIdentity job laterJob) :
    (laterJob.sourceName, laterJob.sourceListingKey) =
      (job.sourceName, job.sourceListingKey) := by
  rw [same.sourceName, same.sourceListingKey]

theorem artifactKey_kept (same : snapshot = laterSnapshot) :
    laterSnapshot.artifactId = snapshot.artifactId := congrArg SnapshotRow.artifactId same.symm

/-- A known listing has an identity under its pair of names. -/
theorem listing_of_identified {db : Db} {sourceName sourceListingKey : String}
    (identified : Identified db sourceName sourceListingKey) :
    ∃ identity ∈ db.identities,
      (identity.sourceName, identity.sourceListingKey) = (sourceName, sourceListingKey) := by
  obtain ⟨identity, member, sameSource, sameKey⟩ := identified
  exact ⟨identity, member, Prod.ext sameSource sameKey⟩

end Columns

theorem StoreStep.hasRun {store next : Store} (step : StoreStep store next) {crawlRunId : String}
    (run : HasRun store.db crawlRunId) : HasRun next.db crawlRunId :=
  step.runs.found runKey_kept run

theorem StoreStep.hasJob {store next : Store} (step : StoreStep store next) {jobId : String}
    (job : HasJob store.db jobId) : HasJob next.db jobId :=
  step.jobs.found SameIdentity.jobId job

theorem StoreStep.checked {store next : Store} (step : StoreStep store next) :
    ∀ foreignKey ∈ foreignKeys, foreignKey.Checked store next := by
  simp only [foreignKeys, List.forall_mem_cons, List.not_mem_nil, false_imp_iff, implies_true,
    and_true]
  refine ⟨?_, ?_, ?_, ?_, ?_, ?_, ?_, ?_, ?_, ?_, ?_, ?_, ?_, ?_⟩
  · exact ForeignKey.notNull_checked step.runs step.sources
      (fun keeps => congrArg RunColumns.sourceName keeps) id fun source =>
        step.sources.found id source
  · exact ForeignKey.notNull_checked step.partitions step.runs
      (fun keeps => congrArg PartitionColumns.crawlRunId keeps) runKey_kept step.hasRun
  · exact ForeignKey.notNull_checked step.observations step.runs
      (fun same => congrArg ObservationRow.crawlRunId same.symm) runKey_kept
      fun admitted => step.hasRun admitted.1
  · exact ForeignKey.notNull_checked step.observations step.identities
      (fun same => by rw [same]) identityKey_kept fun admitted => listing_of_identified admitted.2
  · exact ForeignKey.notNull_checked step.jobs step.runs SameIdentity.crawlRunId runKey_kept
      fun admitted => step.hasRun admitted.1
  · exact ForeignKey.notNull_checked step.jobs step.identities listing_kept identityKey_kept
      fun admitted => listing_of_identified admitted.2
  · exact ForeignKey.notNull_checked step.attempts step.jobs
      (fun keeps => congrArg AttemptColumns.jobId keeps) SameIdentity.jobId step.hasJob
  · exact ForeignKey.notNull_checked step.checkpoints step.runs
      (fun keeps => congrArg CheckpointColumns.crawlRunId keeps) runKey_kept
      fun admitted => step.hasRun admitted.1
  · exact ForeignKey.notNull_checked step.checkpoints step.partitions
      (fun keeps => congrArg CheckpointColumns.partitionId keeps) partitionKey_kept
      fun admitted => step.partitions.found partitionKey_kept admitted.2
  · exact ForeignKey.notNull_checked step.snapshots step.jobs
      (fun same => congrArg SnapshotRow.jobId same.symm) SameIdentity.jobId
      fun admitted => step.hasJob admitted.1
  · exact ForeignKey.notNull_checked step.snapshots step.runs
      (fun same => congrArg SnapshotRow.crawlRunId same.symm) runKey_kept
      fun admitted => step.hasRun admitted.2
  · exact ForeignKey.notNull_checked step.parserRuns step.snapshots
      (fun keeps => congrArg ParserRunColumns.artifactId keeps) artifactKey_kept
      fun snapshot => step.snapshots.found artifactKey_kept snapshot
  · exact ForeignKey.notNull_checked step.ledger step.runs
      (fun same => congrArg LedgerRow.crawlRunId same.symm) runKey_kept
      fun admitted => step.hasRun admitted.1
  · exact ForeignKey.between_checked step.ledger step.jobs
      (fun same => congrArg LedgerRow.jobId same.symm) SameIdentity.jobId
      fun admitted jobId named => step.hasJob (admitted.2 jobId named)

theorem referencesHold_empty : ReferencesHold Store.empty := by
  simp [ReferencesHold, foreignKeys, ForeignKey.Holds, ForeignKey.between, Store.empty, Db.empty,
    Table.empty]

/-- Calls keep the references of the store that they start from. -/
theorem ReferencesHold.after (library : StandardLibrary) {store : Store}
    (holds : ReferencesHold store) (calls : List StoreCall) :
    ReferencesHold (History.after (performStore library) store calls) :=
  ForeignKey.holds_after (performStore library)
    (fun call before => (performStore_step library call before).checked) holds calls

/-- No history leaves a dangling reference, whatever the order of its calls and whichever
of them raise. -/
theorem references_hold (library : StandardLibrary) (calls : List StoreCall) :
    ReferencesHold (storeAfter library calls) :=
  referencesHold_empty.after library calls

/-! ## Growth -/

theorem storeAfter_append (library : StandardLibrary) (first second : List StoreCall) :
    storeAfter library (first ++ second) =
      History.after (performStore library) (storeAfter library first) second :=
  History.after_append (performStore library) Store.empty first second

/-- What every step lets happen to a table, every history lets happen to it. -/
theorem develops_after (library : StandardLibrary) {Row : Type} [Constrained Row]
    {Permits : Row → Row → Prop} {Admits : Store → Store → Row → Prop} (table : Store → Table Row)
    (same : ∀ row, Permits row row)
    (joined : ∀ {row middle later}, Permits row middle → Permits middle later → Permits row later)
    (step : ∀ {store next}, StoreStep store next →
      (table store).Develops Permits (Admits store next) (table next))
    (store : Store) (calls : List StoreCall) :
    (table store).Develops Permits (fun _ => True)
      (table (History.after (performStore library) store calls)) := by
  refine @History.after_related _ _ _ (performStore library) (fun _ => True)
    (fun store next => (table store).Develops Permits (fun _ => True) (table next))
    (fun store => .refl same (table store)) (fun left right => left.trans right joined fun _ _ =>
      trivial) (fun _ _ _ => trivial) (fun call before _ => ?_) store trivial calls
  exact (step (performStore_step library call before)).mono id fun _ => trivial

/-- Of two tables, the later one begins with the rows of the earlier one, each of which
keeps the columns. -/
def Retains {Row Columns : Type} [Constrained Row] (columns : Row → Columns)
    (earlier later : Table Row) : Prop :=
  List.Forall₂ (Keeps columns) earlier.rows (later.rows.take earlier.rows.length)

theorem retains_after (library : StandardLibrary) {Row Columns : Type} [Constrained Row]
    {columns : Row → Columns} {Admits : Store → Store → Row → Prop} (table : Store → Table Row)
    (step : ∀ {store next}, StoreStep store next →
      (table store).Develops (Keeps columns) (Admits store next) (table next))
    (store : Store) (calls : List StoreCall) :
    Retains columns (table store) (table (History.after (performStore library) store calls)) :=
  (develops_after library table Keeps.refl Keeps.trans step store calls).forall₂

theorem isPrefix_after (library : StandardLibrary) {Row : Type} [Constrained Row]
    {Admits : Store → Store → Row → Prop} (table : Store → Table Row)
    (step : ∀ {store next}, StoreStep store next →
      (table store).Develops Eq (Admits store next) (table next)) (store : Store)
    (calls : List StoreCall) :
    (table store).rows <+: (table (History.after (performStore library) store calls)).rows :=
  (develops_after library table Eq.refl Eq.trans step store calls).isPrefix

/-- Between two states of a history no row is lost or moved. Observations, snapshot
manifests, batch manifests, usage entries and the queue owner are as they were, so that
no append-only or immutability trigger can fire; every other row keeps its names and,
where its table has one, the time of its creation. A job also keeps its listing's
address, its reason, priority, bound on attempts and metadata, but not its schedule,
which `_finish` and `recover_abandoned` write again. -/
structure OnlyGrows (earlier later : Store) : Prop where
  observations : earlier.db.observations.rows <+: later.db.observations.rows
  snapshots : earlier.db.snapshots.rows <+: later.db.snapshots.rows
  batches : earlier.db.batches.rows <+: later.db.batches.rows
  ledger : earlier.ledger.rows <+: later.ledger.rows
  queueOwners : earlier.db.queueOwners.rows <+: later.db.queueOwners.rows
  sources : Retains SourceRow.sourceName earlier.db.sources later.db.sources
  runs : Retains runColumns earlier.db.runs later.db.runs
  partitions : Retains partitionColumns earlier.db.partitions later.db.partitions
  identities : Retains identityColumns earlier.db.identities later.db.identities
  jobs : List.Forall₂ SameIdentity earlier.db.jobs.rows
    (later.db.jobs.rows.take earlier.db.jobs.rows.length)
  attempts : Retains attemptColumns earlier.db.attempts later.db.attempts
  checkpoints : Retains checkpointColumns earlier.db.checkpoints later.db.checkpoints
  parserRuns : Retains parserRunColumns earlier.db.parserRuns later.db.parserRuns

theorem onlyGrows_after (library : StandardLibrary) (store : Store) (calls : List StoreCall) :
    OnlyGrows store (History.after (performStore library) store calls) where
  observations := isPrefix_after library (fun store => store.db.observations)
    StoreStep.observations store calls
  snapshots := isPrefix_after library (fun store => store.db.snapshots) StoreStep.snapshots store
    calls
  batches := isPrefix_after library (fun store => store.db.batches) StoreStep.batches store calls
  ledger := isPrefix_after library Store.ledger StoreStep.ledger store calls
  queueOwners := isPrefix_after library (fun store => store.db.queueOwners)
    StoreStep.queueOwners store calls
  sources := retains_after library (fun store => store.db.sources) StoreStep.sources store calls
  runs := retains_after library (fun store => store.db.runs) StoreStep.runs store calls
  partitions := retains_after library (fun store => store.db.partitions) StoreStep.partitions
    store calls
  identities := retains_after library (fun store => store.db.identities) StoreStep.identities
    store calls
  jobs := (develops_after library (fun store => store.db.jobs) SameIdentity.refl
    SameIdentity.trans StoreStep.jobs store calls).forall₂
  attempts := retains_after library (fun store => store.db.attempts) StoreStep.attempts store
    calls
  checkpoints := retains_after library (fun store => store.db.checkpoints) StoreStep.checkpoints
    store calls
  parserRuns := retains_after library (fun store => store.db.parserRuns) StoreStep.parserRuns
    store calls

theorem store_only_grows (library : StandardLibrary) (first second : List StoreCall) :
    OnlyGrows (storeAfter library first) (storeAfter library (first ++ second)) := by
  rw [storeAfter_append]
  exact onlyGrows_after library (storeAfter library first) second

/-! ## Failed calls -/

/-- The calls of a history that returned. -/
def returnedCalls (library : StandardLibrary) (calls : List StoreCall) : List StoreCall :=
  History.succeeded (performStore library) (fun result => !result.isOk) Store.empty calls

/-- A failed call leaves no trace: without the calls that raised, a history ends in the
same store, and every other call has the same result. -/
theorem failed_calls_leave_no_trace (library : StandardLibrary) (calls : List StoreCall) :
    storeAfter library (returnedCalls library calls) = storeAfter library calls ∧
      storePast library (returnedCalls library calls) =
        (storePast library calls).filter fun event => event.2.isOk := by
  have silent : ∀ call store, (!(performStore library call store).1.isOk) = true →
      (performStore library call store).2 = store := by
    intro call store isError
    cases outcome : (performStore library call store).1 with
    | error raised => exact performStore_raised outcome
    | ok reply =>
        rw [outcome] at isError
        cases isError
  have erased := @History.after_succeeded _ _ _ (performStore library)
    (fun result => !result.isOk) silent Store.empty calls
  simp only [Bool.not_not] at erased
  exact erased

end ScraperProject.Orchestration
