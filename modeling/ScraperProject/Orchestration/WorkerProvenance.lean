import ScraperProject.Orchestration.WorkerDurability

/-!
Contract: which job a snapshot manifest belongs to.

Owns the condition under which every snapshot manifest references a job with its
run, source, listing key and URL: a call records a snapshot of its run's own job
only, and the fixture serves the listing that the job was created for. Owns also
a history of two runs on one queue that breaks the condition.

Does not own the snapshot's file, which matches its manifest in any case.
-/

namespace ScraperProject.Orchestration

open Foundation
open Database
open Contracts

section Provenance

variable (library : StandardLibrary) (root : String)

/-- The snapshot manifest references a job of its run, source and listing. -/
def Traced (world : World) (row : SnapshotRow) : Prop :=
  ∃ job ∈ world.db.jobs, job.jobId = row.jobId ∧ job.crawlRunId = row.crawlRunId ∧
    job.sourceName = row.sourceName ∧ job.sourceListingKey = row.sourceListingKey ∧
      job.listingUrl = row.listingUrl

/-! ## The condition on a step -/

/-- A payload that the run's snapshot could be taken from, which is one that is
served after the job is queued, while no manifest of the run and no file with
another digest is stored, names the listing of the run's job. -/
def SameListing (world : World) (runId : String) (payload : List (String × Json)) : Prop :=
  checkpointOf library world runId = some "queued" →
    (∀ row ∈ world.db.snapshots, row.artifactId ≠ artifactId library runId) →
      (∀ content, world.files (snapshotPath library root runId) = some content →
        library.sha256 content = library.sha256 (canonicalJsonBytes (.obj payload))) →
        ∀ job ∈ world.db.jobs, job.jobId = jobId library runId → ∀ listingKey listingUrl,
          text payload "source_listing_key" = .ok listingKey →
            text payload "listing_url" = .ok listingUrl →
              job.sourceListingKey = listingKey ∧ job.listingUrl = listingUrl

/-- A call records a snapshot of its run's own job, and fetches its listing. -/
def ProvenanceStep (session : WorkerSession) (environment : Environment) :
    Command → World → Prop
  | .recordSnapshot artifact, _ => artifact.jobId = jobId library session.call.runId
  | .openUrl _, world => ∀ payload, environment.response = .ok (200, .ok (.obj payload)) →
      SameListing library root world session.call.runId payload
  | _, _ => True

/-- Each call records its run's own job, with the job's listing. -/
def ownListings : Promises where
  finished _ _ := True
  recorded runId leased := leased = jobId library runId
  fetched := SameListing library root

variable {library root} {world after : World} {runId : String} {command : Command}

theorem provenanceStep_respectful (session : WorkerSession) (environment : Environment)
    (command : Command) (world : World)
    (holds : ProvenanceStep library root session environment command world) :
    Respectful (ownListings library root) session environment command world := by
  cases command with
  | recordSnapshot artifact => exact holds
  | openUrl url => exact holds
  | _ => trivial

/-! ## Snapshots -/

/-- A text of the payload survives the file. -/
theorem text_reloadFixture {payload fixture : List (String × Json)}
    (reloaded : reloadFixture payload = .ok fixture) (key : String) :
    text fixture key = text payload key := by
  unfold reloadFixture at reloaded
  rw [Json.loads_dumps, Json.sortKeys] at reloaded
  cases reloaded
  unfold text
  rw [Json.get?_sorted]
  cases Json.get? payload key with
  | none => rfl
  | some value => cases value <;> rfl

theorem Traced.mono {row : SnapshotRow} (traced : Traced world row) (grow : Grow world after) :
    Traced after row := by
  obtain ⟨job, member, sameId, run, source, key, url⟩ := traced
  obtain ⟨later, laterMember, same, _⟩ := grow.jobs job member
  exact ⟨later, laterMember, same.jobId.trans sameId, same.crawlRunId.trans run,
    same.sourceName.trans source, same.sourceListingKey.trans key, same.listingUrl.trans url⟩

/-- The run's job is on record, with the listing that it was created for, from the
moment at which the payload was served. -/
theorem job_of_fetched {promises : Promises} {earlier : World} {job : JobRow}
    (durable : Durable library promises earlier) (grow : Grow earlier world)
    (queued : checkpointOf library earlier runId = some "queued") (member : job ∈ world.db.jobs)
    (own : job.jobId = jobId library runId) :
    ∃ old ∈ earlier.db.jobs, old.jobId = jobId library runId ∧
      old.sourceListingKey = job.sourceListingKey ∧ old.listingUrl = job.listingUrl := by
  have reached := durable.reached runId
  rw [queued, rank_of_queued] at reached
  obtain ⟨old, oldMember, isRun⟩ := (reached.queued (by decide)).job
  have named : old.jobId = jobId library runId := isRun ▸ (durable.jobs old oldMember).1
  obtain ⟨later, laterMember, same, _⟩ := grow.jobs old oldMember
  have isJob : later = job :=
    job_eq_of_id laterMember member (same.jobId.trans (named.trans own.symm))
  rw [isJob] at same
  exact ⟨old, oldMember, named, same.sourceListingKey.symm, same.listingUrl.symm⟩

/-- A manifest that is recorded under the condition is traced. -/
theorem traced_of_recorded {artifact : RawFetchArtifact} {fetchedAt : String}
    (durable : Durable library (ownListings library root) world)
    (guarded : Guard library root (ownListings library root) runId (.recordSnapshot artifact)
      world)
    (own : artifact.jobId = jobId library runId)
    (isNew : ∀ row ∈ world.db.snapshots, row.artifactId ≠ artifactId library runId)
    (job : ∃ job ∈ world.db.jobs, job.jobId = artifact.jobId) :
    Traced world (snapshotRow artifact fetchedAt) := by
  obtain ⟨queued, payload, fixture, _, _, content, fetched, reloaded, stored, digest, made⟩ :=
    guarded
  obtain ⟨earlier, durableEarlier, grow, same, served⟩ := fetched
  obtain ⟨_, _, isRun, source, _, _, _, key, url⟩ := rawFetchArtifact_ok made
  obtain ⟨job, member, isJob⟩ := job
  have queuedEarlier := same.trans queued
  obtain ⟨old, oldMember, named, sameKey, sameUrl⟩ :=
    job_of_fetched durableEarlier grow queuedEarlier member (isJob.trans own)
  have isNewEarlier : ∀ row ∈ earlier.db.snapshots, row.artifactId ≠ artifactId library runId := by
    intro row rowMember
    obtain ⟨_, laterMember, rfl⟩ := grow.snapshots row rowMember
    exact isNew row laterMember
  have sameDigest : ∀ bytes, earlier.files (snapshotPath library root runId) = some bytes →
      library.sha256 bytes = library.sha256 (canonicalJsonBytes (.obj payload)) := by
    intro bytes isStored
    have isContent : bytes = content :=
      Option.some.inj ((grow.files _ bytes isStored).symm.trans stored)
    rw [isContent, digest]
  rw [text_reloadFixture reloaded] at key url
  obtain ⟨servedKey, servedUrl⟩ := served queuedEarlier isNewEarlier sameDigest old oldMember named
    _ _ key url
  have runOfJob : job.crawlRunId = runId :=
    jobId_injective ((durable.jobs job member).1.symm.trans (isJob.trans own))
  exact ⟨job, member, isJob, runOfJob.trans isRun.symm,
    (durable.jobs job member).2.trans source.symm, sameKey.symm.trans servedKey,
    sameUrl.symm.trans servedUrl⟩

theorem traced_keeps {session : WorkerSession} {environment : Environment}
    (traced : ∀ row ∈ world.db.snapshots, Traced world row)
    (durable : Durable library (ownListings library root) world)
    (holds : ProvenanceStep library root session environment command world)
    (guarded : Guard library root (ownListings library root) session.call.runId command world)
    (change : Change world command after) : ∀ row ∈ after.db.snapshots, Traced after row := by
  intro row member
  refine Traced.mono ?_ change.grow
  rcases change.snapshots_origin member with old | ⟨artifact, fetchedAt, isRecord, rfl, job⟩
  · exact traced row old
  · subst isRecord
    by_cases recorded : ∃ row ∈ world.db.snapshots,
        row.artifactId = artifactId library session.call.runId
    -- Were the artifact on record already, the new row would clash with it.
    · obtain ⟨existing, existingMember, named⟩ := recorded
      obtain ⟨_, kept, rfl⟩ := change.grow.snapshots existing existingMember
      obtain ⟨_, _, _, _, _, _, _, _, _, _, made⟩ := guarded
      have same : snapshotRow artifact fetchedAt = existing :=
        Table.eq_of_clash member kept
          (Or.inl ((rawFetchArtifact_ok made).1.trans named.symm))
      rw [same]
      exact traced existing existingMember
    · exact traced_of_recorded durable guarded holds
        (fun row rowMember named => recorded ⟨row, rowMember, named⟩) job

/-- In every history whose steps meet the condition, every snapshot manifest
references a job of its run, source and listing. -/
theorem snapshots_are_traced (library : StandardLibrary) (root : String)
    (moves : List (WorkerMove Unit))
    (meets : StepsMeet library root (ProvenanceStep library root) moves) :
    ∀ row ∈ (afterMoves library root moves).world.db.snapshots,
      Traced (afterMoves library root moves).world row :=
  extra_afterMoves provenanceStep_respectful
    (fun world => ∀ row ∈ world.db.snapshots, Traced world row)
    (fun _ member => absurd member Table.not_mem_empty)
    (fun _ environment command world holds durable guarded traced =>
      traced_keeps traced durable holds guarded
        (performed_change library environment command world)) meets

end Provenance

/-! ## Sample histories -/

/-- "run-1" is queued and stops; then "run-2" leases the older job, which is not
its own, and records its snapshot. -/
def sharedQueue : List (WorkerMove Unit) :=
  .start () (sampleCall "run-1" (some "discovery") 0) :: sampleSteps () 0 18 ++
    [.stop (), .start () (sampleCall "run-2" none 1000000)] ++ sampleSteps () 18 24

/-- The manifest of "run-2" references the job of "run-1". -/
theorem shared_queue_snapshot_is_not_traced :
    ∃ row ∈ (afterMoves sampleLibrary "/runtime" sharedQueue).world.db.snapshots,
      row.crawlRunId = "run-2" ∧ row.jobId = jobId sampleLibrary "run-1" ∧
        ¬ Traced (afterMoves sampleLibrary "/runtime" sharedQueue).world row := by
  obtain ⟨recorded, jobs⟩ :
      (∃ row ∈ (afterMoves sampleLibrary "/runtime" sharedQueue).world.db.snapshots.rows,
          row.crawlRunId = "run-2" ∧ row.jobId = jobId sampleLibrary "run-1") ∧
        ∀ job ∈ (afterMoves sampleLibrary "/runtime" sharedQueue).world.db.jobs.rows,
          job.jobId = jobId sampleLibrary "run-1" → job.crawlRunId = "run-1" := by decide +kernel
  obtain ⟨row, member, isRun, isJob⟩ := recorded
  refine ⟨row, member, isRun, isJob, fun ⟨job, jobMember, sameJob, sameRun, _⟩ => ?_⟩
  have ofFirst := jobs job jobMember (sameJob.trans isJob)
  rw [sameRun, isRun] at ofFirst
  exact absurd ofFirst (by decide)

/-- The text, if it is read, is the expected one. -/
def readsAs (expected : String) : Except PyError String → Bool
  | .ok value => decide (value = expected)
  | .error _ => true

/-- The condition on a step, evaluated: a payload that names the listing of every
stored job is the right one at any time. -/
def provenanceChecks (session : WorkerSession) (environment : Environment) :
    Command → World → Bool
  | .recordSnapshot artifact, _ => decide (artifact.jobId = jobId sampleLibrary session.call.runId)
  | .openUrl _, world =>
      match environment.response with
      | .ok (_, .ok (.obj payload)) => world.db.jobs.rows.all fun job =>
          readsAs job.sourceListingKey (text payload "source_listing_key") &&
            readsAs job.listingUrl (text payload "listing_url")
      | _ => true
  | _, _ => true

theorem provenanceStep_of_checks (session : WorkerSession) (environment : Environment)
    (command : Command) (world : World)
    (checked : provenanceChecks session environment command world = true) :
    ProvenanceStep sampleLibrary "/runtime" session environment command world := by
  cases command with
  | recordSnapshot artifact =>
      have own : artifact.jobId = jobId sampleLibrary session.call.runId :=
        of_decide_eq_true checked
      exact own
  | openUrl url =>
      intro payload served _ _ _ job member _ listingKey listingUrl key listing
      simp only [provenanceChecks, served] at checked
      have both := List.all_eq_true.mp checked job member
      rw [key, listing, Bool.and_eq_true] at both
      exact ⟨(of_decide_eq_true both.1).symm, (of_decide_eq_true both.2).symm⟩
  | _ => trivial

/-- A call that is cut off once its job is queued, and one that records its
snapshot. -/
def resumedSnapshot : List (WorkerMove Unit) :=
  .start () (sampleCall "run-1" none 0) :: sampleSteps () 0 18 ++
    [.stop (), .start () (sampleCall "run-1" (some "snapshot") 1000000)] ++ sampleSteps () 18 20

theorem snapshots_of_resumed_run :
    (afterMoves sampleLibrary "/runtime" resumedSnapshot).world.db.snapshots.rows.length = 1 ∧
      ∀ row ∈ (afterMoves sampleLibrary "/runtime" resumedSnapshot).world.db.snapshots,
        Traced (afterMoves sampleLibrary "/runtime" resumedSnapshot).world row := by
  obtain ⟨checked, one⟩ :
      History.allAlong (workerMove sampleLibrary "/runtime") (Pool.moveChecks provenanceChecks)
          (Pool.idle World.empty) resumedSnapshot = true ∧
        (afterMoves sampleLibrary "/runtime" resumedSnapshot).world.db.snapshots.rows.length =
          1 := by decide +kernel
  exact ⟨one, snapshots_are_traced sampleLibrary "/runtime" resumedSnapshot
    (stepsMeet_of_checks provenanceStep_of_checks checked)⟩

end ScraperProject.Orchestration
