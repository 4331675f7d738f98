import ScraperProject.Contracts.ErrorDiscipline
import ScraperProject.Orchestration.SyntheticWorker

/-!
Contract: the worker's own exception.

Owns the outcomes that are not a `SyntheticWorkerError`, and the proof that no
check of a contract, no repository method and no operation of the queue raises one:
what a command of the worker raises is never an exception of the worker itself.

Does not own the exceptions of a connection to the fixture.
-/

namespace ScraperProject.Orchestration

open Foundation
open Database
open Contracts

/-- The outcome is not an exception of the worker. -/
def Foreign {α : Type} (outcome : Except PyError α) : Prop :=
  ∀ message, outcome ≠ .error (.syntheticWorker message)

/-! ## Combinators -/

section Combinators

variable {α β : Type}

@[simp] theorem foreign_ok (value : α) : Foreign (.ok value : Except PyError α) := by
  intro message same
  cases same

@[simp] theorem foreign_pure (value : α) : Foreign (pure value : Except PyError α) := foreign_ok value

@[simp] theorem foreign_error (raised : PyError) :
    Foreign (.error raised : Except PyError α) ↔ ∀ message, raised ≠ .syntheticWorker message := by
  simp [Foreign]

@[simp] theorem foreign_bind (first : Except PyError α) (next : α → Except PyError β) :
    Foreign (first >>= next) ↔ Foreign first ∧ ∀ value, first = .ok value → Foreign (next value) := by
  cases first with
  | error raised => simp [bind, Except.bind]
  | ok value => simp [bind, Except.bind]

@[simp] theorem foreign_map (outcome : Except PyError α) (f : α → β) :
    Foreign (outcome.map f) ↔ Foreign outcome := by
  cases outcome <;> simp [Except.map]

theorem Foreign.rethrown {outcome : Except PyError α} {raised : PyError}
    (foreign : Foreign outcome) (failed : outcome = .error raised) :
    Foreign (.error raised : Except PyError β) := by
  rw [failed, foreign_error] at foreign
  exact (foreign_error raised).mpr foreign

@[simp] theorem foreign_fmap (outcome : Except PyError α) (f : α → β) :
    Foreign (f <$> outcome) ↔ Foreign outcome := foreign_map outcome f

@[simp] theorem foreign_ite {condition : Prop} [Decidable condition]
    (first second : Except PyError α) :
    Foreign (if condition then first else second) ↔
      (condition → Foreign first) ∧ (¬ condition → Foreign second) := by
  split <;> simp_all

@[simp] theorem foreign_contractError (message : String) :
    Foreign (contractError message : Except PyError α) := by
  simp [contractError]

theorem foreign_of_handled {outcome : Except PyError α} (handled : Handled outcome) :
    Foreign outcome := by
  intro message same
  rcases handled _ same with isType | ⟨_, isContract⟩
  · cases isType
  · cases isContract

@[simp] theorem foreign_writeTransaction (body : Transaction α) (db : Db) :
    Foreign (writeTransaction body db).1 ↔ Foreign (body db) := by
  unfold writeTransaction
  cases body db <;> simp

@[simp] theorem foreign_onDb (world : World) (action : Action α) :
    Foreign (world.onDb action).1 ↔ Foreign (action world.db).1 := Iff.rfl

@[simp] theorem foreign_insertRow {Row : Type} [Constrained Row] (table : Table Row) (row : Row) :
    Foreign (insertRow table row) := by
  unfold insertRow
  split <;> simp

@[simp] theorem foreign_requireReference (found : Bool) : Foreign (requireReference found) := by
  unfold requireReference
  split <;> simp

@[simp] theorem foreign_bindInteger (value : Int) : Foreign (bindInteger value) := by
  unfold bindInteger
  split <;> simp

@[simp] theorem foreign_timestamp (value : Datetime) : Foreign (timestamp value) := by
  unfold timestamp Datetime.astimezoneUtc
  split <;> simp

end Combinators

/-! ## Contracts -/

section Contracts

variable (library : StandardLibrary)

@[simp] theorem foreign_requireText (value name : String) : Foreign (requireText value name) :=
  foreign_of_handled (requireText_handled value name)

@[simp] theorem foreign_requireContractVersion (value : String) :
    Foreign (requireContractVersion library value) :=
  foreign_of_handled (requireContractVersion_handled library value)

@[simp] theorem foreign_requireUtcTimestamp (value : Datetime) (name : String) :
    Foreign (requireUtcTimestamp value name) :=
  foreign_of_handled (requireUtcTimestamp_handled value name)

@[simp] theorem foreign_requireSha256 (value name : String) : Foreign (requireSha256 value name) :=
  foreign_of_handled (requireSha256_handled value name)

@[simp] theorem foreign_requireNonNegativeInt (value : Int) (name : String) :
    Foreign (requireNonNegativeInt value name) :=
  foreign_of_handled (requireNonNegativeInt_handled value name)

@[simp] theorem foreign_parseUtcTimestamp (value name : String) :
    Foreign (parseUtcTimestamp library value name) :=
  foreign_of_handled (parseUtcTimestamp_handled library value name)

@[simp] theorem foreign_rejectSensitiveKeys (name : String) (value : Json) :
    Foreign (rejectSensitiveKeys library name value) :=
  foreign_of_handled (rejectSensitiveKeys_handled library name value)

@[simp] theorem foreign_requireHttpUrl (value name : String) :
    Foreign (requireHttpUrl library value name) := by
  unfold requireHttpUrl
  rw [foreign_bind]
  refine ⟨foreign_requireText _ _, fun _ _ => ?_⟩
  split
  · simp
  · split <;> simp

@[simp] theorem foreign_requireSourceIdentity (source key url : String) :
    Foreign (requireSourceIdentity library source key url) := by
  simp [requireSourceIdentity]

@[simp] theorem foreign_requireSnapshotContent (path hash : Option String) :
    Foreign (requireSnapshotContent path hash) := by
  unfold requireSnapshotContent
  split <;> simp

@[simp] theorem foreign_requireStateCounts (counts : List (String × Int)) :
    Foreign (requireStateCounts counts) := by
  induction counts with
  | nil => exact foreign_ok ()
  | cons entry rest inductionHypothesis => simp [requireStateCounts, inductionHypothesis]

@[simp] theorem foreign_observation (observation : DiscoveryObservation) :
    Foreign (observation.postInit library) := by
  simp [DiscoveryObservation.postInit]

@[simp] theorem foreign_job (job : DetailFetchJob) : Foreign (job.postInit library) := by
  simp [DetailFetchJob.postInit]

@[simp] theorem foreign_artifact (artifact : RawFetchArtifact) :
    Foreign (artifact.postInit library) := by
  simp [RawFetchArtifact.postInit]

@[simp] theorem foreign_manifest (manifest : DatasetBatchManifest) :
    Foreign (manifest.postInit library) := by
  simp [DatasetBatchManifest.postInit]

end Contracts

/-! ## Stored manifests -/

section Manifests

@[simp] theorem foreign_requiredKey (payload : List (String × Json)) (key : String) :
    Foreign (requiredKey payload key) := by
  unfold requiredKey
  split <;> simp

@[simp] theorem foreign_asText (name : String) (value : Json) : Foreign (asText name value) := by
  cases value <;> simp [asText]

@[simp] theorem foreign_asInt (name : String) (value : Json) : Foreign (asInt name value) := by
  cases value <;> simp [asInt]

@[simp] theorem foreign_asTexts (name : String) (items : List Json) :
    Foreign (asTexts name items) := by
  induction items with
  | nil => exact foreign_ok []
  | cons item rest inductionHypothesis => simp [asTexts, inductionHypothesis]

@[simp] theorem foreign_asTextArray (name : String) (value : Json) :
    Foreign (asTextArray name value) := by
  cases value <;> simp [asTextArray]

@[simp] theorem foreign_asCountEntries (name : String) (entries : List (String × Json)) :
    Foreign (asCountEntries name entries) := by
  induction entries with
  | nil => exact foreign_ok []
  | cons entry rest inductionHypothesis => simp [asCountEntries, inductionHypothesis]

@[simp] theorem foreign_asCounts (name : String) (value : Json) : Foreign (asCounts name value) := by
  cases value <;> simp [asCounts]

@[simp] theorem foreign_decodeBatch (library : StandardLibrary) (payload : List (String × Json)) :
    Foreign (decodeBatch library payload) := by
  simp [decodeBatch]

@[simp] theorem foreign_batchManifest (library : StandardLibrary) (row : BatchRow) :
    Foreign (row.manifest library) := by
  unfold BatchRow.manifest
  split <;> simp

end Manifests

/-! ## Repositories -/

section Repositories

variable (db : Db)

@[simp] theorem foreign_upsertSource (source : String) (enabled : Bool) (strategy : String)
    (notes : Option String) (clock : Instant) :
    Foreign (upsertSource source enabled strategy notes clock db).1 := by
  simp only [upsertSource, foreign_writeTransaction]
  split <;> simp

@[simp] theorem foreign_createRun (runId source kind : String) (clock : Instant) :
    Foreign (createRun runId source kind clock db).1 := by
  simp [createRun]

@[simp] theorem foreign_transitionRun (runId : String) (expected target : RunState)
    (setStarted setFinished : Bool) (clock : Instant) :
    Foreign (transitionRun runId expected target setStarted setFinished clock db).1 := by
  unfold transitionRun
  dsimp only
  split <;> simp [runTransitionError]

@[simp] theorem foreign_createPartition (partition runId source key : String)
    (createdAt updatedAt : Instant) :
    Foreign (createPartition partition runId source key createdAt updatedAt db).1 := by
  simp [createPartition]

@[simp] theorem foreign_transitionPartition (partition : String) (expected target : PartitionState)
    (clock : Instant) : Foreign (transitionPartition partition expected target clock db).1 := by
  unfold transitionPartition
  dsimp only
  split <;> simp [partitionTransitionError]

@[simp] theorem foreign_saveCheckpoint (runId partition value : String) (clock : Instant) :
    Foreign (saveCheckpoint runId partition value clock db).1 := by
  simp only [saveCheckpoint, foreign_writeTransaction]
  split <;> simp

@[simp] theorem foreign_appendObservation (observation : DiscoveryObservation) (recordId : String) :
    Foreign (appendObservation observation recordId db).1 := by
  unfold appendObservation
  split
  · next raised failed => exact (foreign_timestamp observation.observedAt).rethrown failed
  · simp

@[simp] theorem foreign_insertJob (row : JobRow) : Foreign (insertJob db row) := by
  simp [insertJob]

@[simp] theorem foreign_newJobRow (job : DetailFetchJob) (scheduledAt : String)
    (createdAt updatedAt : Instant) : Foreign (newJobRow job scheduledAt createdAt updatedAt) := by
  unfold newJobRow
  split <;> simp

@[simp] theorem foreign_createIdempotent (job : DetailFetchJob) (createdAt updatedAt : Instant) :
    Foreign (createIdempotent job createdAt updatedAt db).1 := by
  unfold createIdempotent
  split
  · next raised failed => exact (foreign_timestamp job.scheduledAt).rethrown failed
  · simp only [foreign_writeTransaction, foreign_bind, foreign_bindInteger, foreign_newJobRow,
      foreign_insertJob, true_and]
    intros
    split <;> simp

@[simp] theorem foreign_recordSnapshot (artifact : RawFetchArtifact) :
    Foreign (recordSnapshot artifact db).1 := by
  have bound : Foreign ((artifact.responseStatus.map bindInteger).getD (.ok ())) := by
    cases artifact.responseStatus <;> simp
  simp [recordSnapshot, bound]

@[simp] theorem foreign_startParserRun (artifact parser version identifier : String) (clock : Instant) :
    Foreign (startParserRun artifact parser version identifier clock db).1 := by
  simp [startParserRun]

@[simp] theorem foreign_completeParserRun (parserRunId : String) (clock : Instant) :
    Foreign (completeParserRun parserRunId clock db).1 := by
  unfold completeParserRun transitionParserRun
  dsimp only
  split <;> simp

@[simp] theorem foreign_recordBatch (manifest : DatasetBatchManifest) :
    Foreign (recordBatch manifest db).1 := by
  unfold recordBatch
  split
  · next raised failed => exact (foreign_timestamp manifest.createdAt).rethrown failed
  · simp

@[simp] theorem foreign_getBatch (library : StandardLibrary) (batch : String) :
    Foreign (getBatch library batch db).1 := by
  unfold getBatch
  split <;> simp

end Repositories

/-! ## The queue -/

section Queue

variable (db : Db)

@[simp] theorem foreign_registerOwner (clock : Instant) : Foreign (registerOwner clock db).1 := by
  simp only [registerOwner, foreign_writeTransaction]
  split <;> simp

@[simp] theorem foreign_addSeconds (value : Datetime) (seconds : Int) :
    Foreign (value.addSeconds seconds) := by
  unfold Datetime.addSeconds
  split <;> simp

@[simp] theorem foreign_leaseNext (workerId : String) (leaseSeconds : Int) (now : Datetime)
    (jobAttemptId : String) : Foreign (leaseNext workerId leaseSeconds now jobAttemptId db).1 := by
  unfold leaseNext
  split
  · simp
  · split
    · next raised failed => exact (foreign_addSeconds now leaseSeconds).rethrown failed
    · simp only [foreign_writeTransaction, foreign_bind, foreign_timestamp, true_and]
      intros
      split <;> simp

@[simp] theorem foreign_finish (job workerId : String) (success : Bool) (errorClass : Option String)
    (now : Datetime) : Foreign (finish job workerId success errorClass now db).1 := by
  simp only [finish, foreign_writeTransaction]
  split <;> simp [ownershipError]

@[simp] theorem foreign_recoverAbandoned (now : Datetime) : Foreign (recoverAbandoned now db).1 := by
  simp [recoverAbandoned]

end Queue

/-- No command but the connection to the fixture raises an exception of the worker. -/
theorem foreign_performCommand (library : StandardLibrary) (environment : Environment)
    (world : World) {command : Command} (offline : ∀ url, command ≠ .openUrl url) :
    Foreign (performCommand library environment command world).1 := by
  cases command with
  | openUrl url => exact absurd rfl (offline url)
  | readBytes path =>
      simp only [performCommand]
      split <;> simp
  | createExclusive path content =>
      simp only [performCommand, World.createExclusive]
      split <;> simp
  | succeed job workerId now => simp [performCommand, succeed]
  | _ =>
      simp [performCommand, getRun, startRun, completeRun, getPartition, startPartition,
        completePartition, loadCheckpoint, fail, getSnapshot]

end ScraperProject.Orchestration
