import ScraperProject.Database.ManifestCodec
import ScraperProject.Orchestration.WorkerSteps

/-!
Contract: the invariant of the worker's world.

Owns the stages that a checkpoint stands for, the rows and files that every
stored manifest points to, when the worker may issue a command, and the step
lemma: a command issued under its guard keeps the invariant.

Does not own the proof that the worker issues its commands under their guards.
What a history is known to respect beyond that (which jobs a call reports as
succeeded, which payloads the fixture serves) is a parameter.
-/

namespace ScraperProject.Orchestration

open Foundation
open Database
open Contracts

/-! ## Checkpoints -/

/-- The checkpoints of a run, first to last. -/
def checkpoints : List String :=
  ["queued", "snapshot-recorded", "parser-completed", "batch-recorded", "completed"]

/-- Zero before the first checkpoint. -/
def checkpointRank : Option String → Nat
  | none => 0
  | some value => checkpoints.idxOf value + 1

/-- What the moves of a history are known to respect: the jobs that the calls for
a run report as succeeded and record a snapshot of, and the payloads that the
fixture serves to them. -/
structure Promises where
  finished : String → String → Prop
  recorded : String → String → Prop
  fetched : World → String → List (String × Json) → Prop

/-- No promise at all. -/
def Promises.none : Promises := ⟨fun _ _ => True, fun _ _ => True, fun _ _ _ => True⟩

section Stages

variable (library : StandardLibrary)

/-- The stored checkpoint of a run. -/
def checkpointOf (world : World) (runId : String) : Option String :=
  storedCheckpoint world.db runId (partitionId library runId)

/-! ## Stages -/

def RunExists (world : World) (runId : String) : Prop :=
  ∃ row ∈ world.db.runs, row.crawlRunId = runId

/-- The partition of the run exists and has left "pending". -/
def PartitionActive (world : World) (runId : String) : Prop :=
  ∃ row ∈ world.db.partitions, row.partitionId = partitionId library runId ∧
    row.state ≠ .pending

/-- What "queued" stands for. -/
structure Queued (world : World) (runId : String) : Prop where
  run : RunExists world runId
  partition : PartitionActive library world runId
  observation : ∃ row ∈ world.db.observations, row.crawlRunId = runId
  job : ∃ row ∈ world.db.jobs, row.crawlRunId = runId

/-- The SUCCESS manifest of the run's artifact. -/
def SnapshotStored (world : World) (runId : String) : Prop :=
  ∃ row ∈ world.db.snapshots, row.artifactId = artifactId library runId ∧
    row.crawlRunId = runId ∧ row.artifactStatus = .success

/-- A job that a call for the run may report has succeeded. -/
def JobSucceeded (promises : Promises) (world : World) (runId : String) : Prop :=
  ∃ row ∈ world.db.jobs, promises.finished runId row.jobId ∧ row.state = .succeeded

def ParserCompleted (world : World) (runId : String) : Prop :=
  ∃ row ∈ world.db.parserRuns, row.artifactId = artifactId library runId ∧
    row.state = .completed

def BatchStored (world : World) (runId : String) : Prop :=
  ∃ row ∈ world.db.batches, row.batchId = batchId library runId

def PartitionCompleted (world : World) (runId : String) : Prop :=
  ∃ row ∈ world.db.partitions, row.partitionId = partitionId library runId ∧
    row.state = .completed

/-- What the checkpoints up to a rank stand for. -/
structure Reached (promises : Promises) (rank : Nat) (world : World) (runId : String) :
    Prop where
  queued : 1 ≤ rank → Queued library world runId
  snapshot : 2 ≤ rank → SnapshotStored library world runId ∧ JobSucceeded promises world runId
  parser : 3 ≤ rank → ParserCompleted library world runId
  batch : 4 ≤ rank → BatchStored library world runId

variable {library} {promises : Promises} {before after : World} {runId : String}

theorem RunExists.mono (exists_ : RunExists before runId) (grow : Grow before after) :
    RunExists after runId := by
  obtain ⟨row, member, same⟩ := exists_
  obtain ⟨later, laterMember, succeeds⟩ := grow.runs row member
  exact ⟨later, laterMember, succeeds.1.trans same⟩

theorem PartitionActive.mono (active : PartitionActive library before runId)
    (grow : Grow before after) : PartitionActive library after runId := by
  obtain ⟨row, member, same, started⟩ := active
  obtain ⟨later, laterMember, succeeds⟩ := grow.partitions row member
  exact ⟨later, laterMember, succeeds.1.trans same, succeeds.2.1 started⟩

theorem PartitionCompleted.mono (completed : PartitionCompleted library before runId)
    (grow : Grow before after) : PartitionCompleted library after runId := by
  obtain ⟨row, member, same, isCompleted⟩ := completed
  obtain ⟨later, laterMember, succeeds⟩ := grow.partitions row member
  exact ⟨later, laterMember, succeeds.1.trans same, succeeds.2.2 isCompleted⟩

theorem Queued.mono (queued : Queued library before runId) (grow : Grow before after) :
    Queued library after runId where
  run := queued.run.mono grow
  partition := queued.partition.mono grow
  observation := by
    obtain ⟨row, member, same⟩ := queued.observation
    obtain ⟨_, laterMember, rfl⟩ := grow.observations row member
    exact ⟨row, laterMember, same⟩
  job := by
    obtain ⟨row, member, same⟩ := queued.job
    obtain ⟨later, laterMember, succeeds⟩ := grow.jobs row member
    exact ⟨later, laterMember, succeeds.1.crawlRunId.trans same⟩

theorem SnapshotStored.mono (stored : SnapshotStored library before runId)
    (grow : Grow before after) : SnapshotStored library after runId := by
  obtain ⟨row, member, facts⟩ := stored
  obtain ⟨_, laterMember, rfl⟩ := grow.snapshots row member
  exact ⟨row, laterMember, facts⟩

theorem JobSucceeded.mono (succeeded : JobSucceeded promises before runId)
    (grow : Grow before after) : JobSucceeded promises after runId := by
  obtain ⟨row, member, own, state⟩ := succeeded
  obtain ⟨later, laterMember, succeeds⟩ := grow.jobs row member
  exact ⟨later, laterMember, succeeds.1.jobId ▸ own, succeeds.2 state⟩

theorem ParserCompleted.mono (completed : ParserCompleted library before runId)
    (grow : Grow before after) : ParserCompleted library after runId := by
  obtain ⟨row, member, same, state⟩ := completed
  obtain ⟨later, laterMember, succeeds⟩ := grow.parserRuns row member
  exact ⟨later, laterMember, succeeds.2.1.trans same, succeeds.2.2 state ▸ state⟩

theorem BatchStored.mono (stored : BatchStored library before runId)
    (grow : Grow before after) : BatchStored library after runId := by
  obtain ⟨row, member, same⟩ := stored
  obtain ⟨_, laterMember, rfl⟩ := grow.batches row member
  exact ⟨row, laterMember, same⟩

theorem Reached.mono {rank : Nat} (reached : Reached library promises rank before runId)
    (grow : Grow before after) : Reached library promises rank after runId where
  queued bound := (reached.queued bound).mono grow
  snapshot bound :=
    ⟨(reached.snapshot bound).1.mono grow, (reached.snapshot bound).2.mono grow⟩
  parser bound := (reached.parser bound).mono grow
  batch bound := (reached.batch bound).mono grow

end Stages

/-! ## Stored manifests -/

section Invariant

variable (library : StandardLibrary) (root : String) (promises : Promises)

/-- The number of newline-terminated records. -/
def recordsIn (content : List UInt8) : Nat := content.count 10

/-- A snapshot row belongs to its run and points to a file with its content. -/
structure SnapshotSound (world : World) (row : SnapshotRow) : Prop where
  artifact : row.artifactId = artifactId library row.crawlRunId
  source : row.sourceName = sourceName
  status : row.artifactStatus = .success
  file : ∃ path content, row.snapshotPath = some path ∧ world.files path = some content ∧
    row.contentHash = some (library.sha256 content).text

/-- A batch row belongs to a run, and its manifest reads back and points to a file
with its records. -/
structure BatchSound (world : World) (row : BatchRow) : Prop where
  run : ∃ runId, row.batchId = batchId library runId
  file : ∃ manifest content, row.manifest library = .ok manifest ∧
    manifest.batchId = row.batchId ∧ world.files manifest.recordsPath = some content ∧
      manifest.recordsChecksum = (library.sha256 content).text ∧
        manifest.recordCount = recordsIn content

/-- The invariant of the worker's world. -/
structure Durable (world : World) : Prop where
  checkpoints : ∀ runId value, checkpointOf library world runId = some value →
    value ∈ checkpoints ∧
      Reached library promises (checkpointRank (some value)) world runId
  partitions : ∀ row ∈ world.db.partitions, row.partitionId = partitionId library row.crawlRunId
  observations : ∀ row ∈ world.db.observations, Text.isBlank row.crawlRunId = false
  jobs : ∀ row ∈ world.db.jobs,
    row.jobId = jobId library row.crawlRunId ∧ row.sourceName = sourceName
  snapshots : ∀ row ∈ world.db.snapshots, SnapshotSound library world row
  batches : ∀ row ∈ world.db.batches, BatchSound library world row

/-! ## Guards -/

/-- The run is closed: it is completed, and so is its partition. -/
def RunClosed (world : World) (runId : String) : Prop :=
  (∃ row ∈ world.db.runs, row.crawlRunId = runId ∧ row.state = .completed) ∧
    PartitionCompleted library world runId

/-- No row of the run is in the state "running". -/
def NotRunning (world : World) (runId : String) : Prop :=
  ∀ row ∈ world.db.runs, row.crawlRunId = runId → row.state ≠ .running

/-- The fixture served the payload to a call for the run, which has saved no
checkpoint since. -/
def Fetched (world : World) (runId : String) (payload : List (String × Json)) : Prop :=
  ∃ earlier, Durable library promises earlier ∧ Grow earlier world ∧
    checkpointOf library earlier runId = checkpointOf library world runId ∧
      promises.fetched earlier runId payload

/-- When a call for a run may issue a command. -/
def Guard (runId : String) : Command → World → Prop
  | .createRun run _ _, _ => run = runId
  | .startRun run, _ => run = runId
  | .completeRun run, world => run = runId ∧ PartitionCompleted library world runId
  | .createPartition partition run _ key, _ =>
      partition = partitionId library runId ∧ run = runId ∧ key = partitionKey
  | .startPartition partition, _ => partition = partitionId library runId
  | .completePartition partition, _ => partition = partitionId library runId
  | .saveCheckpoint run partition value, world =>
      run = runId ∧ partition = partitionId library runId ∧ value ∈ checkpoints ∧
        checkpointRank (some value) = checkpointRank (checkpointOf library world runId) + 1 ∧
          Reached library promises (checkpointRank (some value)) world runId ∧
            (value = "completed" → RunClosed library world runId ∨ NotRunning world runId)
  | .appendObservation observation, _ => Text.isBlank observation.crawlRunId = false
  | .createIdempotent job, world =>
      checkpointOf library world runId = none ∧
        ∃ payload current listingKey listingUrl, Fetched library promises world runId payload ∧
          text payload "source_listing_key" = .ok listingKey ∧
            text payload "listing_url" = .ok listingUrl ∧
              job = detailFetchJob library runId current listingKey listingUrl
  | .leaseNext name _ _, world =>
      name = workerName ∧ checkpointOf library world runId = some "queued"
  | .createExclusive path content, world =>
      (path = snapshotPath library root runId ∧ ∃ payload,
        Fetched library promises world runId payload ∧
          content = canonicalJsonBytes (.obj payload)) ∨
      (path = recordsPath library root runId ∧ content = batchRecords library runId)
  | .recordSnapshot artifact, world =>
      checkpointOf library world runId = some "queued" ∧
        ∃ payload fixture leasedJobId current content,
          Fetched library promises world runId payload ∧ reloadFixture payload = .ok fixture ∧
            world.files (snapshotPath library root runId) = some content ∧
              library.sha256 content = library.sha256 (canonicalJsonBytes (.obj payload)) ∧
                rawFetchArtifact library root runId leasedJobId (library.sha256 content).text
                  current fixture = .ok artifact
  | .recordBatch manifest, world =>
      checkpointOf library world runId = some "parser-completed" ∧
        world.files (recordsPath library root runId) = some (batchRecords library runId) ∧
          ∃ current, manifest = batchManifest library root runId current ∧
            manifest.postInit library = .ok ()
  | _, _ => True

variable {library root promises} {before after : World} {runId : String} {command : Command}

theorem SnapshotSound.mono {row : SnapshotRow} (sound : SnapshotSound library before row)
    (grow : Grow before after) : SnapshotSound library after row :=
  { sound with
    file := by
      obtain ⟨path, content, isPath, stored, hash⟩ := sound.file
      exact ⟨path, content, isPath, grow.files path content stored, hash⟩ }

theorem BatchSound.mono {row : BatchRow} (sound : BatchSound library before row)
    (grow : Grow before after) : BatchSound library after row :=
  { sound with
    file := by
      obtain ⟨manifest, content, decoded, sameId, stored, rest⟩ := sound.file
      exact ⟨manifest, content, decoded, sameId, grow.files _ content stored, rest⟩ }

theorem Fetched.mono {payload : List (String × Json)}
    (fetched : Fetched library promises before runId payload) (grow : Grow before after)
    (kept : checkpointOf library after runId = checkpointOf library before runId) :
    Fetched library promises after runId payload := by
  obtain ⟨earlier, durable, grew, same, served⟩ := fetched
  exact ⟨earlier, durable, grew.trans grow, same.trans kept.symm, served⟩

/-! ## The records of one run -/

/-- The fields of an artifact that passes its checks. -/
theorem rawFetchArtifact_ok {leasedJobId digest : String} {current : Datetime}
    {fixture : List (String × Json)} {artifact : RawFetchArtifact}
    (made : rawFetchArtifact library root runId leasedJobId digest current fixture =
      .ok artifact) :
    artifact.artifactId = artifactId library runId ∧ artifact.jobId = leasedJobId ∧
      artifact.crawlRunId = runId ∧ artifact.sourceName = sourceName ∧
        artifact.snapshotPath = some (snapshotPath library root runId) ∧
          artifact.contentHash = some digest ∧ artifact.artifactStatus = .success ∧
            text fixture "source_listing_key" = .ok artifact.sourceListingKey ∧
              text fixture "listing_url" = .ok artifact.listingUrl := by
  obtain ⟨listingKey, key, body⟩ := bind_eq_ok.mp made
  obtain ⟨listingUrl, url, body⟩ := bind_eq_ok.mp body
  obtain ⟨_, _, body⟩ := bind_eq_ok.mp body
  cases body
  exact ⟨rfl, rfl, rfl, rfl, rfl, rfl, rfl, key, url⟩

/-- The records file holds one newline-terminated record. -/
theorem recordsIn_batchRecords : recordsIn (batchRecords library runId) = 1 := by
  have noNewline : ∀ payload, (10 : UInt8) ∉ canonicalJsonBytes payload := fun payload =>
    Json.newline_notMem_encodeUtf8 (Json.allPrintable_dumps .compact payload)
  rw [recordsIn, batchRecords, List.count_append, List.count_eq_zero_of_not_mem (noNewline _)]
  rfl

/-- The row of a recorded batch points to the records file. -/
theorem batchSound_batchRow {world : World} {current : Datetime} {createdAt : String}
    (stored : world.files (recordsPath library root runId) = some (batchRecords library runId))
    (printed : timestamp (batchManifest library root runId current).createdAt = .ok createdAt)
    (valid : (batchManifest library root runId current).postInit library = .ok ()) :
    BatchSound library world (batchRow (batchManifest library root runId current) createdAt) where
  run := ⟨runId, rfl⟩
  file := by
    have decoded := batchRow_manifest printed valid (by simp [CountsSorted, batchManifest])
    refine ⟨_, _, decoded, rfl, stored, rfl, ?_⟩
    rw [recordsIn_batchRecords]
    rfl

/-! ## Preservation -/

/-- A job row after a change is an earlier one, or the one that was asked for. -/
theorem Change.jobs_origin {world later : World} (change : Change world command later)
    {row : JobRow} (member : row ∈ later.db.jobs) :
    (∃ old ∈ world.db.jobs, LaterJob old row) ∨
      ∃ job, command = .createIdempotent job ∧ Created job row world.db later.db := by
  cases change with
  | queue asks effect =>
      rcases effect.origin_identity member with old | ⟨job, createdAt, updatedAt, isCreate, made⟩
      · exact Or.inl old
      · refine Or.inr ⟨job, ?_, made⟩
        rw [isCreate] at asks
        cases command <;> simp only [Command.queueCall, reduceCtorEq, Option.some.injEq,
          QueueCall.createIdempotent.injEq] at asks
        rw [asks.1]
  | _ => exact Or.inl ⟨row, member, .refl row⟩

/-- A partition row after a change is an earlier one, or the one that was asked
for. -/
theorem Change.partitions_origin {world later : World} (change : Change world command later)
    {row : PartitionRow} (member : row ∈ later.db.partitions) :
    (∃ old ∈ world.db.partitions,
      row.partitionId = old.partitionId ∧ row.crawlRunId = old.crawlRunId) ∨
        ∃ partition run source key, command = .createPartition partition run source key ∧
          row.partitionId = partition ∧ row.crawlRunId = run := by
  cases change with
  | partitionCreated rows =>
      rw [← Table.mem_rows, rows, List.mem_append, List.mem_singleton] at member
      rcases member with old | rfl
      · exact Or.inl ⟨row, old, rfl, rfl⟩
      · exact Or.inr ⟨_, _, _, _, rfl, rfl, rfl⟩
  | partitionStarted rows =>
      rw [← Table.mem_rows, rows, List.mem_map] at member
      obtain ⟨old, oldMember, rfl⟩ := member
      exact Or.inl ⟨old, oldMember, transitionedPartition_names old⟩
  | partitionCompleted rows =>
      rw [← Table.mem_rows, rows, List.mem_map] at member
      obtain ⟨old, oldMember, rfl⟩ := member
      exact Or.inl ⟨old, oldMember, transitionedPartition_names old⟩
  | queue _ effect =>
      rw [effect.frame] at member
      exact Or.inl ⟨row, member, rfl, rfl⟩
  | _ => exact Or.inl ⟨row, member, rfl, rfl⟩

theorem Change.observations_origin {world later : World} (change : Change world command later)
    {row : ObservationRow} (member : row ∈ later.db.observations) :
    row ∈ world.db.observations ∨ ∃ observation, command = .appendObservation observation ∧
      row.crawlRunId = observation.crawlRunId := by
  cases change with
  | observed rows =>
      rw [← Table.mem_rows, rows, List.mem_append, List.mem_singleton] at member
      rcases member with old | rfl
      · exact Or.inl old
      · exact Or.inr ⟨_, rfl, rfl⟩
  | queue _ effect =>
      rw [effect.frame] at member
      exact Or.inl member
  | _ => exact Or.inl member

theorem Change.snapshots_origin {world later : World} (change : Change world command later)
    {row : SnapshotRow} (member : row ∈ later.db.snapshots) :
    row ∈ world.db.snapshots ∨ ∃ artifact fetchedAt, command = .recordSnapshot artifact ∧
      row = snapshotRow artifact fetchedAt ∧
        ∃ job ∈ world.db.jobs, job.jobId = artifact.jobId := by
  cases change with
  | snapshotRecorded job rows =>
      rw [← Table.mem_rows, rows, List.mem_append, List.mem_singleton] at member
      rcases member with old | rfl
      · exact Or.inl old
      · exact Or.inr ⟨_, _, rfl, rfl, job⟩
  | queue _ effect =>
      rw [effect.frame] at member
      exact Or.inl member
  | _ => exact Or.inl member

theorem Change.batches_origin {world later : World} (change : Change world command later)
    {row : BatchRow} (member : row ∈ later.db.batches) :
    row ∈ world.db.batches ∨ ∃ manifest createdAt, command = .recordBatch manifest ∧
      timestamp manifest.createdAt = .ok createdAt ∧ row = batchRow manifest createdAt := by
  cases change with
  | batchRecorded printed rows =>
      rw [← Table.mem_rows, rows, List.mem_append, List.mem_singleton] at member
      rcases member with old | rfl
      · exact Or.inl old
      · exact Or.inr ⟨_, _, rfl, printed, rfl⟩
  | queue _ effect =>
      rw [effect.frame] at member
      exact Or.inl member
  | _ => exact Or.inl member

/-- A checkpoint after a change is the earlier one, or the one that was saved. -/
theorem Change.checkpoint_origin {world later : World} (change : Change world command later)
    (runId partition : String) :
    storedCheckpoint later.db runId partition = storedCheckpoint world.db runId partition ∨
      ∃ value, command = .saveCheckpoint runId partition value ∧
        storedCheckpoint later.db runId partition = some value := by
  cases change with
  | checkpointSaved saved =>
      rw [saved]
      split
      · next same =>
        obtain ⟨rfl, rfl⟩ := same
        exact Or.inr ⟨_, rfl, rfl⟩
      · exact Or.inl rfl
  | queue _ effect =>
      rw [effect.frame]
      exact Or.inl rfl
  | _ => exact Or.inl rfl

theorem durable_empty : Durable library promises World.empty where
  checkpoints _ _ stored := by cases stored
  partitions _ member := absurd member Table.not_mem_empty
  observations _ member := absurd member Table.not_mem_empty
  jobs _ member := absurd member Table.not_mem_empty
  snapshots _ member := absurd member Table.not_mem_empty
  batches _ member := absurd member Table.not_mem_empty

/-- A guarded command keeps the invariant. -/
theorem Durable.keeps (durable : Durable library promises before)
    (guarded : Guard library root promises runId command before)
    (change : Change before command after) : Durable library promises after where
  checkpoints run value stored := by
    rcases change.checkpoint_origin run (partitionId library run) with same | ⟨saved, isSave, now⟩
    · obtain ⟨known, reached⟩ := durable.checkpoints run value (same.symm.trans stored)
      exact ⟨known, reached.mono change.grow⟩
    · subst isSave
      obtain ⟨rfl, _, known, _, reached, _⟩ := guarded
      have same : saved = value := Option.some.inj (now.symm.trans stored)
      exact same ▸ ⟨known, reached.mono change.grow⟩
  partitions row member := by
    rcases change.partitions_origin member with
      ⟨old, oldMember, sameId, sameRun⟩ | ⟨partition, run, source, key, isCreate, isId, isRun⟩
    · rw [sameId, sameRun]
      exact durable.partitions old oldMember
    · subst isCreate
      rw [isId, isRun, guarded.1, guarded.2.1]
  observations row member := by
    rcases change.observations_origin member with old | ⟨observation, isAppend, same⟩
    · exact durable.observations row old
    · subst isAppend
      rw [same]
      exact guarded
  jobs row member := by
    rcases change.jobs_origin member with ⟨old, oldMember, succeeds⟩ | ⟨job, isCreate, made⟩
    · obtain ⟨named, source⟩ := durable.jobs old oldMember
      rw [succeeds.1.jobId, succeeds.1.crawlRunId, succeeds.1.sourceName]
      exact ⟨named, source⟩
    · subst isCreate
      obtain ⟨_, payload, current, listingKey, listingUrl, _, _, _, rfl⟩ := guarded
      obtain ⟨sameId, sameRun, sameSource, _⟩ := made.identity
      rw [sameId, sameRun, sameSource]
      exact ⟨rfl, rfl⟩
  snapshots row member := by
    rcases change.snapshots_origin member with old | ⟨artifact, fetchedAt, isRecord, rfl, _⟩
    · exact (durable.snapshots row old).mono change.grow
    · subst isRecord
      obtain ⟨_, _, _, _, _, content, _, _, stored, _, made⟩ := guarded
      obtain ⟨sameArtifact, _, sameRun, sameSource, path, hash, status, _⟩ :=
        rawFetchArtifact_ok made
      exact
        { artifact := sameArtifact.trans (by rw [← sameRun]; rfl)
          source := sameSource
          status := status
          file := ⟨_, content, path, change.grow.files _ content stored, hash⟩ }
  batches row member := by
    rcases change.batches_origin member with old | ⟨manifest, createdAt, isRecord, printed, rfl⟩
    · exact (durable.batches row old).mono change.grow
    · subst isRecord
      obtain ⟨_, stored, current, rfl, valid⟩ := guarded
      exact batchSound_batchRow (change.grow.files _ _ stored) printed valid

end Invariant

end ScraperProject.Orchestration
