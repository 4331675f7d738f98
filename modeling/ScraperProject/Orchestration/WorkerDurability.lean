import ScraperProject.Orchestration.WorkerHistory

/-!
Contract: what the worker stores stays, and its checkpoints keep their word.

Owns two results about every history of `run` calls that run one after another
on one runtime root, for any runs and any fixture, and that may be cut off after
any command or in the middle of a file: stored files match their manifests for
ever, and a checkpoint claims only what is on record and only advances.

Does not own the truth of "completed", which is a stronger claim.
-/

namespace ScraperProject.Orchestration

open Foundation
open Database
open Contracts

section Durability

variable (library : StandardLibrary)

/-! ## Files and manifests -/

/-- A snapshot manifest points to an existing file with its digest. -/
def SnapshotMatches (world : World) (row : SnapshotRow) : Prop :=
  ∃ path content, row.snapshotPath = some path ∧ world.files path = some content ∧
    row.contentHash = some (library.sha256 content).text

/-- A batch manifest points to an existing file with its digest and its number of
newline-terminated records. -/
def BatchMatches (world : World) (row : BatchRow) : Prop :=
  ∃ manifest content, row.manifest library = .ok manifest ∧
    world.files manifest.recordsPath = some content ∧
      manifest.recordsChecksum = (library.sha256 content).text ∧
        manifest.recordCount = recordsIn content

/-- Every manifest on record matches its file. -/
structure ManifestsMatch (world : World) : Prop where
  snapshots : ∀ row ∈ world.db.snapshots, SnapshotMatches library world row
  batches : ∀ row ∈ world.db.batches, BatchMatches library world row

/-- Every manifest of the earlier world and its file are as they were. -/
structure ManifestsKept (earlier later : World) : Prop where
  snapshots : ∀ row ∈ earlier.db.snapshots, row ∈ later.db.snapshots ∧
    ∀ path, row.snapshotPath = some path → later.files path = earlier.files path
  batches : ∀ row ∈ earlier.db.batches, row ∈ later.db.batches ∧
    ∀ manifest, row.manifest library = .ok manifest →
      later.files manifest.recordsPath = earlier.files manifest.recordsPath

variable {library} {promises : Promises} {world later : World} {runId : String}

theorem Durable.manifestsMatch (durable : Durable library promises world) :
    ManifestsMatch library world where
  snapshots row member := (durable.snapshots row member).file
  batches row member := by
    obtain ⟨manifest, content, decoded, _, stored, checksum, count⟩ :=
      (durable.batches row member).file
    exact ⟨manifest, content, decoded, stored, checksum, count⟩

theorem ManifestsMatch.kept (matching : ManifestsMatch library world) (grow : Grow world later) :
    ManifestsKept library world later where
  snapshots row member := by
    obtain ⟨_, laterMember, rfl⟩ := grow.snapshots row member
    refine ⟨laterMember, fun path isPath => ?_⟩
    obtain ⟨other, content, isOther, stored, _⟩ := matching.snapshots row member
    have same : other = path := Option.some.inj (isOther.symm.trans isPath)
    rw [← same, stored]
    exact grow.files other content stored
  batches row member := by
    obtain ⟨_, laterMember, rfl⟩ := grow.batches row member
    refine ⟨laterMember, fun manifest decoded => ?_⟩
    obtain ⟨other, content, isOther, stored, _⟩ := matching.batches row member
    have same : other = manifest := Except.ok.inj (isOther.symm.trans decoded)
    rw [← same, stored]
    exact grow.files other.recordsPath content stored

/-- After every history each stored manifest matches its file, and after every
continuation of it both are as they were. -/
theorem stored_files_match_manifests (library : StandardLibrary) (root : String)
    (moves later : List (WorkerMove Unit)) :
    ManifestsMatch library (afterMoves library root moves).world ∧
      ManifestsKept library (afterMoves library root moves).world
        (afterMoves library root (moves ++ later)).world := by
  have durable : Durable library Promises.none (afterMoves library root moves).world :=
    durable_afterMoves moves
  have matching := durable.manifestsMatch
  exact ⟨matching, matching.kept (grow_afterMoves (fun _ _ _ _ => id) (respectful_none (moves ++ later)))⟩

/-! ## Checkpoints -/

variable (library)

/-- What the stored checkpoint of a run claims is on record. -/
structure CheckpointKept (world : World) (runId : String) : Prop where
  known : ∀ value, checkpointOf library world runId = some value → value ∈ checkpoints
  run : 1 ≤ checkpointRank (checkpointOf library world runId) →
    ∃ row ∈ world.db.runs, row.crawlRunId = runId
  partition : 1 ≤ checkpointRank (checkpointOf library world runId) →
    ∃ row ∈ world.db.partitions, row.partitionId = partitionId library runId ∧
      row.crawlRunId = runId ∧ row.state ≠ .pending
  observation : 1 ≤ checkpointRank (checkpointOf library world runId) →
    ∃ row ∈ world.db.observations, row.crawlRunId = runId
  job : 1 ≤ checkpointRank (checkpointOf library world runId) →
    ∃ row ∈ world.db.jobs, row.jobId = jobId library runId ∧ row.crawlRunId = runId
  snapshot : 2 ≤ checkpointRank (checkpointOf library world runId) →
    ∃ row ∈ world.db.snapshots, row.artifactId = artifactId library runId ∧
      row.crawlRunId = runId ∧ row.artifactStatus = .success
  parser : 3 ≤ checkpointRank (checkpointOf library world runId) →
    ∃ row ∈ world.db.parserRuns, row.artifactId = artifactId library runId ∧
      row.state = .completed
  batch : 4 ≤ checkpointRank (checkpointOf library world runId) →
    ∃ row ∈ world.db.batches, row.batchId = batchId library runId

/-- A run has at most one job, one snapshot manifest and one batch manifest, and
every batch manifest is one run's. -/
structure AtMostOneEach (world : World) (runId : String) : Prop where
  jobs : (world.db.jobs.rows.countP fun row => row.crawlRunId = runId) ≤ 1
  snapshots : (world.db.snapshots.rows.countP fun row => row.crawlRunId = runId) ≤ 1
  batches : (world.db.batches.rows.countP fun row => row.batchId = batchId library runId) ≤ 1
  batchRun : ∀ row ∈ world.db.batches, ∃ run, row.batchId = batchId library run

variable {library}

theorem partitionId_injective : Function.Injective (partitionId library) := by
  intro first second same
  simpa [partitionId] using library.uuid5_injective same

theorem jobId_injective : Function.Injective (jobId library) := by
  intro first second same
  simpa [jobId] using library.uuid5_injective same

/-- Nothing stored is of rank zero; a known checkpoint has the facts of its rank. -/
theorem Durable.reached (durable : Durable library promises world) (runId : String) :
    Reached library promises (checkpointRank (checkpointOf library world runId)) world runId := by
  cases stored : checkpointOf library world runId with
  | none =>
      exact
        { queued := by simp [checkpointRank]
          snapshot := by simp [checkpointRank]
          parser := by simp [checkpointRank]
          batch := by simp [checkpointRank] }
  | some value => exact (durable.checkpoints runId value stored).2

theorem Durable.checkpointKept (durable : Durable library promises world) (runId : String) :
    CheckpointKept library world runId where
  known value stored := (durable.checkpoints runId value stored).1
  run bound := ((durable.reached runId).queued bound).run
  partition bound := by
    obtain ⟨row, member, named, started⟩ := ((durable.reached runId).queued bound).partition
    have isRun := partitionId_injective ((durable.partitions row member).symm.trans named)
    exact ⟨row, member, named, isRun, started⟩
  observation bound := ((durable.reached runId).queued bound).observation
  job bound := by
    obtain ⟨row, member, isRun⟩ := ((durable.reached runId).queued bound).job
    exact ⟨row, member, isRun ▸ (durable.jobs row member).1, isRun⟩
  snapshot bound := ((durable.reached runId).snapshot bound).1
  parser bound := (durable.reached runId).parser bound
  batch bound := (durable.reached runId).batch bound

theorem Durable.atMostOneEach (durable : Durable library promises world) (runId : String) :
    AtMostOneEach library world runId where
  jobs := by
    refine Table.countP_le_one fun row member other otherMember isRun otherIsRun => Or.inl ?_
    rw [(durable.jobs row member).1, (durable.jobs other otherMember).1, of_decide_eq_true isRun,
      of_decide_eq_true otherIsRun]
  snapshots := by
    refine Table.countP_le_one fun row member other otherMember isRun otherIsRun => Or.inl ?_
    rw [(durable.snapshots row member).artifact, (durable.snapshots other otherMember).artifact,
      of_decide_eq_true isRun, of_decide_eq_true otherIsRun]
  batches := by
    refine Table.countP_le_one fun row _ other _ named otherNamed => Or.inl ?_
    exact (of_decide_eq_true named).trans (of_decide_eq_true otherNamed).symm
  batchRun row member := (durable.batches row member).run

/-- A guarded command does not lower a checkpoint. -/
theorem Change.rank_le {root : String} {command : Command} {before after : World}
    (change : Change before command after)
    (guarded : Guard library root promises runId command before) (run : String) :
    checkpointRank (checkpointOf library before run) ≤
      checkpointRank (checkpointOf library after run) := by
  rcases change.checkpoint_origin run (partitionId library run) with same | ⟨saved, isSave, now⟩
  · exact Nat.le_of_eq (congrArg checkpointRank same.symm)
  · subst isSave
    obtain ⟨rfl, _, _, advances, _⟩ := guarded
    have stored : checkpointOf library after run = some saved := now
    rw [stored, advances]
    exact Nat.le_succ _

/-- After every history each checkpoint claims only what is on record, each run
has at most one job, snapshot and batch, and no continuation lowers a checkpoint. -/
theorem checkpoint_is_kept_and_advances (library : StandardLibrary) (root : String)
    (moves later : List (WorkerMove Unit)) (runId : String) :
    CheckpointKept library (afterMoves library root moves).world runId ∧
      AtMostOneEach library (afterMoves library root moves).world runId ∧
        checkpointRank (checkpointOf library (afterMoves library root moves).world runId) ≤
          checkpointRank
            (checkpointOf library (afterMoves library root (moves ++ later)).world runId) := by
  have durable : Durable library Promises.none (afterMoves library root moves).world :=
    durable_afterMoves moves
  refine ⟨durable.checkpointKept runId, durable.atMostOneEach runId, ?_⟩
  exact related_afterMoves (fun _ _ _ _ => id)
    (fun before after => checkpointRank (checkpointOf library before runId) ≤
      checkpointRank (checkpointOf library after runId))
    (fun _ => Nat.le_refl _) Nat.le_trans
    (fun _ environment command world _ _ guarded =>
      (performed_change library environment command world).rank_le guarded runId)
    (respectful_none (moves ++ later))

end Durability

end ScraperProject.Orchestration
