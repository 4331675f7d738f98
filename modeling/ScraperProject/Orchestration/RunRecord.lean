import ScraperProject.Orchestration.StoreHistory
import ScraperProject.Orchestration.WorkerSteps

/-!
Contract: the record of a run in the runtime store.

Owns the rows of a run in the nine tables that hold rows of a run, the calls of the
store that name none of them, and that such a call leaves the record as it is.

Does not own the state, lease and attempts of a job, nor the identity of a listing:
the queue and the listings are shared between runs.
-/

namespace ScraperProject.Orchestration

open Foundation
open Database
open Contracts

/-! ## The record of a run -/

section Record

variable (library : StandardLibrary) (runId : String)

/-- The rows of the run are the same in both stores. Of its jobs, what the calls of the
queue never change. -/
structure SameRecord (store next : Store) : Prop where
  run : store.db.runs.Spares (fun row => row.crawlRunId = runId) Eq next.db.runs
  partition : store.db.partitions.Spares (fun row => row.partitionId = partitionId library runId)
    Eq next.db.partitions
  checkpoints : store.db.checkpoints.Spares (fun row => row.crawlRunId = runId) Eq
    next.db.checkpoints
  observations : store.db.observations.Spares (fun row => row.crawlRunId = runId) Eq
    next.db.observations
  jobs : store.db.jobs.Spares (fun row => row.crawlRunId = runId) SameIdentity next.db.jobs
  snapshots : store.db.snapshots.Spares (fun row => row.crawlRunId = runId) Eq next.db.snapshots
  parserRuns : store.db.parserRuns.Spares (fun row => row.artifactId = artifactId library runId)
    Eq next.db.parserRuns
  batch : store.db.batches.Spares (fun row => row.batchId = batchId library runId) Eq
    next.db.batches
  usage : store.ledger.Spares (fun row => row.crawlRunId = runId) Eq next.ledger

variable {library runId}

theorem SameRecord.refl (store : Store) : SameRecord library runId store store where
  run := .refl Eq.refl store.db.runs
  partition := .refl Eq.refl store.db.partitions
  checkpoints := .refl Eq.refl store.db.checkpoints
  observations := .refl Eq.refl store.db.observations
  jobs := .refl SameIdentity.refl store.db.jobs
  snapshots := .refl Eq.refl store.db.snapshots
  parserRuns := .refl Eq.refl store.db.parserRuns
  batch := .refl Eq.refl store.db.batches
  usage := .refl Eq.refl store.ledger

theorem SameRecord.trans {first second third : Store}
    (left : SameRecord library runId first second)
    (right : SameRecord library runId second third) : SameRecord library runId first third where
  run := left.run.trans right.run Eq.trans
  partition := left.partition.trans right.partition Eq.trans
  checkpoints := left.checkpoints.trans right.checkpoints Eq.trans
  observations := left.observations.trans right.observations Eq.trans
  jobs := left.jobs.trans right.jobs SameIdentity.trans
  snapshots := left.snapshots.trans right.snapshots Eq.trans
  parserRuns := left.parserRuns.trans right.parserRuns Eq.trans
  batch := left.batch.trans right.batch Eq.trans
  usage := left.usage.trans right.usage Eq.trans

end Record

/-! ## Calls that name other runs -/

/-- A parser run of the artifact. -/
def HasParserRun (db : Db) (parserRunId artifactId : String) : Prop :=
  ∃ row ∈ db.parserRuns, row.parserRunId = parserRunId ∧ row.artifactId = artifactId

/-- The call names no row of the run: not the run itself, its partition, its artifact,
a parser run of its artifact, or its batch. -/
def StoreCall.Spares (library : StandardLibrary) (runId : String) (db : Db) : StoreCall → Prop
  | .createRun crawlRunId _ _ _ | .startRun crawlRunId _ | .completeRun crawlRunId _
  | .failRun crawlRunId _ | .saveCheckpoint crawlRunId _ _ _ => crawlRunId ≠ runId
  | .createPartition partition _ _ _ _ _ | .startPartition partition _
  | .completePartition partition _ | .failPartition partition _ =>
      partition ≠ partitionId library runId
  | .appendObservation observation _ _ => observation.crawlRunId ≠ runId
  | .queue (.createIdempotent job _ _) => job.crawlRunId ≠ runId
  | .recordSnapshot artifact => artifact.crawlRunId ≠ runId
  | .startParserRun artifact _ _ _ _ => artifact ≠ artifactId library runId
  | .completeParserRun parserRunId _ | .failParserRun parserRunId _ _ =>
      ¬ HasParserRun db parserRunId (artifactId library runId)
  | .recordBatch manifest => manifest.batchId ≠ batchId library runId
  | .appendUsage call _ _ => call.crawlRunId ≠ runId
  | _ => True

instance (db : Db) (parserRunId artifactId : String) :
    Decidable (HasParserRun db parserRunId artifactId) :=
  inferInstanceAs (Decidable (∃ row ∈ db.parserRuns.rows, _ ∧ _))

instance (library : StandardLibrary) (runId : String) (db : Db) :
    (call : StoreCall) → Decidable (call.Spares library runId db)
  | .createRun crawlRunId _ _ _ | .startRun crawlRunId _ | .completeRun crawlRunId _
  | .failRun crawlRunId _ | .saveCheckpoint crawlRunId _ _ _ =>
      inferInstanceAs (Decidable (crawlRunId ≠ runId))
  | .createPartition partition _ _ _ _ _ | .startPartition partition _
  | .completePartition partition _ | .failPartition partition _ =>
      inferInstanceAs (Decidable (partition ≠ partitionId library runId))
  | .appendObservation observation _ _ =>
      inferInstanceAs (Decidable (observation.crawlRunId ≠ runId))
  | .queue (.createIdempotent job _ _) => inferInstanceAs (Decidable (job.crawlRunId ≠ runId))
  | .recordSnapshot artifact => inferInstanceAs (Decidable (artifact.crawlRunId ≠ runId))
  | .startParserRun artifact _ _ _ _ =>
      inferInstanceAs (Decidable (artifact ≠ artifactId library runId))
  | .completeParserRun parserRunId _ | .failParserRun parserRunId _ _ =>
      inferInstanceAs (Decidable (¬ HasParserRun db parserRunId (artifactId library runId)))
  | .recordBatch manifest => inferInstanceAs (Decidable (manifest.batchId ≠ batchId library runId))
  | .appendUsage call _ _ => inferInstanceAs (Decidable (call.crawlRunId ≠ runId))
  | .registerOwner _ | .upsertSource _ _ _ _ _ | .getRun _ | .getPartition _ | .statusCounts
  | .loadCheckpoint _ _ | .getSnapshot _ | .getParserRun _ | .usageTotals | .getBatch _
  | .queue (.leaseNext _ _ _ _) | .queue (.succeed _ _ _) | .queue (.fail _ _ _ _)
  | .queue (.recoverAbandoned _) => isTrue trivial

section Calls

variable {library : StandardLibrary} {runId : String}

theorem createRun_spares {crawlRunId sourceName runKind : String} {clock : Instant}
    (store : Store) (other : crawlRunId ≠ runId) :
    SameRecord library runId store
      { store with db := (createRun crawlRunId sourceName runKind clock store.db).2 } := by
  rcases createRun_cases (Prod.eta (createRun crawlRunId sourceName runKind clock store.db)).symm
    with ⟨_, _, same⟩ | ⟨_, runs, same, rows⟩
  · rw [same]
    exact .refl store
  · rw [same]
    exact { SameRecord.refl store with run := Table.spares_of_append Eq.refl rows other }

theorem transitionRun_spares {crawlRunId : String} {expected target : RunState}
    {setStarted setFinished : Bool} {clock : Instant} (store : Store)
    (other : crawlRunId ≠ runId) :
    SameRecord library runId store { store with
      db := (transitionRun crawlRunId expected target setStarted setFinished clock store.db).2 } := by
  obtain ⟨_, runs, same, rows⟩ := transitionRun_cases
    (Prod.eta (transitionRun crawlRunId expected target setStarted setFinished clock store.db)).symm
  rw [same]
  refine { SameRecord.refl store with run := Table.spares_of_map rows ?_ ?_ }
  · intro row _
    rcases transitionedRun_cases row with kept | ⟨_, _, moved⟩
    · rw [kept]
    · rw [moved]
      exact Iff.rfl
  · intro row _ own
    exact (if_neg fun selected => other (selected.1.symm.trans own)).symm

theorem createPartition_spares {partition crawlRunId sourceName partitionKey : String}
    {createdAt updatedAt : Instant} (store : Store)
    (other : partition ≠ partitionId library runId) :
    SameRecord library runId store { store with
      db := (createPartition partition crawlRunId sourceName partitionKey createdAt updatedAt
        store.db).2 } := by
  rcases createPartition_cases (Prod.eta (createPartition partition crawlRunId sourceName
    partitionKey createdAt updatedAt store.db)).symm with ⟨_, _, same⟩ | ⟨_, partitions, same, rows⟩
  · rw [same]
    exact .refl store
  · rw [same]
    exact { SameRecord.refl store with partition := Table.spares_of_append Eq.refl rows other }

theorem transitionPartition_spares {partition : String} {expected target : PartitionState}
    {clock : Instant} (store : Store) (other : partition ≠ partitionId library runId) :
    SameRecord library runId store { store with
      db := (transitionPartition partition expected target clock store.db).2 } := by
  obtain ⟨_, partitions, same, rows⟩ := transitionPartition_cases
    (Prod.eta (transitionPartition partition expected target clock store.db)).symm
  rw [same]
  refine { SameRecord.refl store with partition := Table.spares_of_map rows ?_ ?_ }
  · intro row _
    rw [(transitionedPartition_names row).1]
  · intro row _ own
    exact (if_neg fun selected => other (selected.1.symm.trans own)).symm

theorem appendObservation_spares {observation : DiscoveryObservation} {recordId : String}
    (store : Store) (other : observation.crawlRunId ≠ runId) :
    SameRecord library runId store
      { store with db := (appendObservation observation recordId store.db).2 } := by
  rcases appendObservation_cases
      (Prod.eta (appendObservation observation recordId store.db)).symm with
    ⟨_, _, same⟩ | ⟨_, identities, observations, observedAt, same, rows⟩
  · rw [same]
    exact .refl store
  · rw [same]
    exact
      { SameRecord.refl store with observations := Table.spares_of_append Eq.refl rows other }

/-- The jobs apart, the tables that hold no rows of a run. -/
theorem sameRecord_of_frame {store : Store} {next : Db}
    (frame : next = { store.db with
      sources := next.sources
      identities := next.identities
      jobs := next.jobs
      attempts := next.attempts
      queueOwners := next.queueOwners })
    (jobs : store.db.jobs.Spares (fun row => row.crawlRunId = runId) SameIdentity next.jobs) :
    SameRecord library runId store { store with db := next } := by
  rw [frame]
  exact { SameRecord.refl store with jobs := jobs }

theorem registerOwner_spares {clock : Instant} (store : Store) :
    SameRecord library runId store { store with db := (registerOwner clock store.db).2 } := by
  obtain ⟨queueOwners, same⟩ := registerOwner_cases (Prod.eta (registerOwner clock store.db)).symm
  rw [same]
  exact sameRecord_of_frame rfl (.refl SameIdentity.refl store.db.jobs)

theorem upsertSource_spares {sourceName identityStrategy : String} {enabled : Bool}
    {identityNotes : Option String} {clock : Instant} (store : Store) :
    SameRecord library runId store { store with
      db := (upsertSource sourceName enabled identityStrategy identityNotes clock store.db).2 } := by
  obtain ⟨_, sources, same, _⟩ := upsertSource_cases (Prod.eta
    (upsertSource sourceName enabled identityStrategy identityNotes clock store.db)).symm
  rw [same]
  exact sameRecord_of_frame rfl (.refl SameIdentity.refl store.db.jobs)

/-- The jobs of a run when none is added. -/
theorem sameRecord_of_jobs {store : Store} {next : Db}
    (frame : next = { store.db with jobs := next.jobs, attempts := next.attempts })
    (jobs : store.db.jobs.Develops SameIdentity (fun _ => False) next.jobs) :
    SameRecord library runId store { store with db := next } := by
  refine sameRecord_of_frame (frame.trans ?_)
    (jobs.spares (fun same => by rw [same.crawlRunId]) False.elim)
  rw [frame]

theorem perform_spares (call : QueueCall) (store : Store)
    (spares : (StoreCall.queue call).Spares library runId store.db) :
    SameRecord library runId store { store with db := (perform call store.db).2 } := by
  have effect := perform_effect call store.db
  generalize (perform call store.db).1 = result at effect
  generalize (perform call store.db).2 = next at effect
  cases effect with
  | raised | idle => exact .refl store
  | found member key frame =>
      rw [frame]
      exact sameRecord_of_frame rfl (.refl SameIdentity.refl store.db.jobs)
  | @created job createdAt updatedAt row next made =>
      have foreign : row.crawlRunId ≠ runId := made.identity.2.1.symm ▸ spares
      refine sameRecord_of_frame (made.frame.trans ?_)
        (Table.spares_of_append SameIdentity.refl made.jobs foreign)
      rw [made.frame]
  | leased leased => exact sameRecord_of_jobs leased.frame leased.jobs_develop
  | succeeded finished => exact sameRecord_of_jobs finished.frame finished.jobs_develop
  | failed finished => exact sameRecord_of_jobs finished.frame finished.jobs_develop
  | recovered recovery => exact sameRecord_of_jobs recovery.frame recovery.jobs_develop

theorem saveCheckpoint_spares {crawlRunId partition checkpointValue : String} {clock : Instant}
    (store : Store) (other : crawlRunId ≠ runId) :
    SameRecord library runId store { store with
      db := (saveCheckpoint crawlRunId partition checkpointValue clock store.db).2 } := by
  cases call : saveCheckpoint crawlRunId partition checkpointValue clock store.db with
  | mk result next =>
  cases result with
  | error raised =>
      rw [(writeTransaction_error.mp call).2]
      exact .refl store
  | ok value =>
      have body := writeTransaction_ok.mp call
      dsimp only at body
      split at body
      · next checkpoints inserted =>
        obtain ⟨_, _, body⟩ := bind_eq_ok.mp body
        obtain ⟨_, _, body⟩ := bind_eq_ok.mp body
        obtain ⟨_, rfl⟩ := Prod.mk.inj (Except.ok.inj body)
        have rows := (Table.insert?_eq_some.mp inserted).2
        exact { SameRecord.refl store with
          checkpoints := Table.spares_of_append Eq.refl rows other }
      · obtain ⟨_, rfl⟩ := Prod.mk.inj (Except.ok.inj body)
        have rows := @rows_updateWhere_decide _ _ store.db.checkpoints
          (fun stored => stored.crawlRunId = crawlRunId ∧ stored.partitionId = partition) _
          (fun stored =>
            { stored with checkpointValue := checkpointValue, updatedAt := clock.text })
          fun _ _ => Iff.rfl
        refine { SameRecord.refl store with checkpoints := Table.spares_of_map rows ?_ ?_ }
        · intro row _
          split <;> exact Iff.rfl
        · intro row _ own
          exact (if_neg fun selected => other (selected.1.symm.trans own)).symm

theorem recordSnapshot_spares {artifact : RawFetchArtifact} (store : Store)
    (other : artifact.crawlRunId ≠ runId) :
    SameRecord library runId store
      { store with db := (recordSnapshot artifact store.db).2 } := by
  rcases recordSnapshot_cases (Prod.eta (recordSnapshot artifact store.db)).symm with
    ⟨_, _, same⟩ | ⟨_, _, snapshots, fetchedAt, same, rows⟩
  · rw [same]
    exact .refl store
  · rw [same]
    exact { SameRecord.refl store with snapshots := Table.spares_of_append Eq.refl rows other }

theorem startParserRun_spares {artifact parserName parserVersion parserRunId : String}
    {clock : Instant} (store : Store) (other : artifact ≠ artifactId library runId) :
    SameRecord library runId store { store with
      db := (startParserRun artifact parserName parserVersion parserRunId clock store.db).2 } := by
  rcases startParserRun_cases (Prod.eta (startParserRun artifact parserName parserVersion
    parserRunId clock store.db)).symm with ⟨_, _, same⟩ | ⟨_, parserRuns, same, rows⟩
  · rw [same]
    exact .refl store
  · rw [same]
    exact { SameRecord.refl store with parserRuns := Table.spares_of_append Eq.refl rows other }

theorem transitionParserRun_spares {parserRunId : String} {target : ParserRunState}
    {failureReason : Option String} {clock : Instant} (store : Store)
    (other : ¬ HasParserRun store.db parserRunId (artifactId library runId)) :
    SameRecord library runId store { store with
      db := (transitionParserRun parserRunId target failureReason clock store.db).2 } := by
  obtain ⟨_, parserRuns, same, rows⟩ := transitionParserRun_cases
    (Prod.eta (transitionParserRun parserRunId target failureReason clock store.db)).symm
  rw [same]
  refine { SameRecord.refl store with parserRuns := Table.spares_of_map rows ?_ ?_ }
  · intro row _
    unfold finishedParserRun
    split <;> exact Iff.rfl
  · intro row member own
    exact (if_neg fun selected => other ⟨row, member, selected.1, own⟩).symm

theorem recordBatch_spares {manifest : DatasetBatchManifest} (store : Store)
    (other : manifest.batchId ≠ batchId library runId) :
    SameRecord library runId store { store with db := (recordBatch manifest store.db).2 } := by
  rcases recordBatch_cases (Prod.eta (recordBatch manifest store.db)).symm with
    ⟨_, _, same⟩ | ⟨_, batches, createdAt, same, _, rows⟩
  · rw [same]
    exact .refl store
  · rw [same]
    exact { SameRecord.refl store with batch := Table.spares_of_append Eq.refl rows other }

theorem append_spares {call : AppendCall} {environment : AppendEnvironment} (store : Store)
    (other : call.crawlRunId ≠ runId) :
    SameRecord library runId store
      { store with ledger := (append call environment store.ledger).2 } := by
  rcases append_cases (Prod.eta (append call environment store.ledger)).symm with
    ⟨_, _, same⟩ | ⟨row, _, _, named, rows⟩
  · rw [same]
    exact .refl store
  · refine { SameRecord.refl store with usage := Table.spares_of_append Eq.refl rows ?_ }
    exact named ▸ other

/-- A call that names no row of the run leaves its record as it is. -/
theorem performStore_spares (call : StoreCall) (store : Store)
    (spares : call.Spares library runId store.db) :
    SameRecord library runId store (performStore library call store).2 := by
  cases call with
  | createRun crawlRunId sourceName runKind clock => exact createRun_spares store spares
  | startRun crawlRunId clock => exact transitionRun_spares store spares
  | completeRun crawlRunId clock => exact transitionRun_spares store spares
  | failRun crawlRunId clock => exact transitionRun_spares store spares
  | createPartition partition crawlRunId sourceName partitionKey createdAt updatedAt =>
      exact createPartition_spares store spares
  | startPartition partition clock => exact transitionPartition_spares store spares
  | completePartition partition clock => exact transitionPartition_spares store spares
  | failPartition partition clock => exact transitionPartition_spares store spares
  | appendObservation observation observationId fresh =>
      exact appendObservation_spares store spares
  | queue call => exact perform_spares call store spares
  | saveCheckpoint crawlRunId partition checkpointValue clock =>
      exact saveCheckpoint_spares store spares
  | recordSnapshot artifact => exact recordSnapshot_spares store spares
  | startParserRun artifact parserName parserVersion fresh clock =>
      exact startParserRun_spares store spares
  | completeParserRun parserRunId clock => exact transitionParserRun_spares store spares
  | failParserRun parserRunId failureReason clock =>
      simp only [performStore, Store.onDb, failParserRun]
      split
      · exact .refl store
      · exact transitionParserRun_spares store spares
  | recordBatch manifest => exact recordBatch_spares store spares
  | appendUsage call fresh clock => exact append_spares store spares
  | registerOwner clock => exact registerOwner_spares store
  | upsertSource sourceName enabled identityStrategy identityNotes clock =>
      exact upsertSource_spares store
  | getBatch batchId =>
      simp only [performStore, Store.onDb, getBatch_snd]
      exact .refl store
  | getRun | getPartition | statusCounts | loadCheckpoint | getSnapshot | getParserRun
  | usageTotals => exact .refl store

end Calls

end ScraperProject.Orchestration
