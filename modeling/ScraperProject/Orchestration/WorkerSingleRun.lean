import ScraperProject.Orchestration.WorkerListing
import ScraperProject.Orchestration.WorkerWaiting

/-!
Contract: histories of calls for one run against one listing.

Owns the condition on a step (the call is for the run, the fixture serves the
listing, a file is written whole) and the invariant that such histories keep
beside the one of the worker's world: the queue represents its jobs, every job is
the run's and stores texts of instants, no partition has failed, and a file at a
path of the run holds what the run writes there.

Does not own what a further call does.
-/

namespace ScraperProject.Orchestration

open Foundation
open Database
open Contracts

section SingleRun

variable (library : StandardLibrary) (root : String) (listing : List (String × Json))
  (runId : String)

/-! ## The condition on a step -/

/-- A call for the run, a fixture that serves the listing, and a write that does
not fail part way. -/
structure SingleStep (session : WorkerSession) (environment : Environment) (_ : Command)
    (_ : World) : Prop where
  own : session.call.runId = runId
  served : environment.response = .ok (200, .ok (.obj listing))
  whole : environment.torn = none

/-- The fixture serves the listing only. -/
def servesOnly : Promises where
  finished _ _ := True
  recorded _ _ := True
  fetched _ _ payload := payload = listing

/-! ## The invariant -/

/-- The job is the run's, of the listing. -/
structure OwnJob (row : JobRow) : Prop where
  run : row.crawlRunId = runId
  key : text listing "source_listing_key" = .ok row.sourceListingKey
  reason : row.reasonCode = DetailReasonCode.newListing.value

/-- The invariant of a history of one run. -/
structure SingleRun (world : World) : Prop where
  queue : QueueInvariant world.db
  owners : ∀ row ∈ world.db.queueOwners, row.ownerName = ownerName
  jobs : ∀ row ∈ world.db.jobs, OwnJob listing runId row
  stamped : ∀ row ∈ world.db.jobs, Stamped row
  partitions : ∀ row ∈ world.db.partitions, row.state ≠ .failed
  run : ∀ row ∈ world.db.partitions, RunExists world runId
  batches : ∀ row ∈ world.db.batches, row.batchId = batchId library runId
  snapshotFile : ∀ content, world.files (snapshotPath library root runId) = some content →
    content = canonicalJsonBytes (.obj listing)
  recordsFile : ∀ content, world.files (recordsPath library root runId) = some content →
    content = batchRecords library runId

variable {library root listing runId} {world : World} {command : Command}
  {environment : Environment}

theorem respects_of_served (served : environment.response = .ok (200, .ok (.obj listing))) :
    Respects (servesOnly listing) runId environment command world := by
  cases command with
  | openUrl url =>
      intro payload isPayload
      rw [served] at isPayload
      cases isPayload
      rfl
  | _ => trivial

theorem singleStep_respectful (session : WorkerSession) (environment : Environment)
    (command : Command) (world : World)
    (holds : SingleStep listing runId session environment command world) :
    Respectful (servesOnly listing) session environment command world :=
  respects_of_served holds.served

/-! ## The paths of a run -/

theorem joinPath_ends (parent name : String) : ∃ front, joinPath parent name = front ++ name := by
  unfold joinPath
  split
  · exact ⟨parent, rfl⟩
  · exact ⟨parent ++ "/", rfl⟩

/-- A snapshot ends in ".json" and a dataset in ".jsonl". -/
theorem snapshotPath_ne_recordsPath {otherRun : String} :
    snapshotPath library root runId ≠ recordsPath library root otherRun := by
  intro same
  obtain ⟨front, isFront⟩ :=
    joinPath_ends (joinPath root "snapshots") (artifactId library runId ++ ".json")
  obtain ⟨other, isOther⟩ :=
    joinPath_ends (joinPath root "exports") (batchId library otherRun ++ ".jsonl")
  have json : ".json".toList.getLast? = some 'n' := by decide
  have jsonl : ".jsonl".toList.getLast? = some 'l' := by decide
  have last := congrArg (fun path => path.toList.getLast?) same
  simp only [snapshotPath, recordsPath, isFront, isOther, String.toList_append,
    List.getLast?_append, json, jsonl, Option.some_or] at last
  exact absurd last (by decide)

/-! ## Preservation -/

theorem Change.queueInvariant {later : World} (change : Change world command later)
    (invariant : QueueInvariant world.db) : QueueInvariant later.db := by
  cases change with
  | queue _ effect => exact effect.invariant invariant
  | _ => exact ⟨invariant.sound, invariant.owned⟩

theorem registerOwner_owned {clock : Instant} {db next : Db} {result : Except PyError Unit}
    (call : registerOwner clock db = (result, next))
    (owned : ∀ row ∈ db.queueOwners, row.ownerName = ownerName) :
    result = .ok () ∧ ∀ row ∈ next.queueOwners, row.ownerName = ownerName := by
  unfold registerOwner writeTransaction at call
  cases found : db.queueOwners.find? fun _ => true with
  | none =>
      have empty : ∀ row ∈ db.queueOwners, ¬ Constrained.Clash row
          (⟨ownerName, clock.text⟩ : QueueOwnerRow) :=
        fun row member => absurd rfl (Table.find?_none.mp found row member)
      obtain ⟨queueOwners, inserted⟩ := Table.insert?_isSome empty
      simp only [found, insertRow, inserted, bind, Except.bind, pure, Except.pure] at call
      obtain ⟨rfl, rfl⟩ := Prod.mk.inj call
      refine ⟨rfl, fun row member => ?_⟩
      rcases (Table.mem_of_insert? inserted).mp member with old | rfl
      · exact owned row old
      · rfl
  | some existing =>
      have same := owned existing (Table.find?_some found).1
      simp only [found, same, ne_eq, not_true_eq_false, if_false] at call
      obtain ⟨rfl, rfl⟩ := Prod.mk.inj call
      exact ⟨rfl, owned⟩

theorem owners_keep (owned : ∀ row ∈ world.db.queueOwners, row.ownerName = ownerName) :
    ∀ row ∈ (performCommand library environment command world).2.db.queueOwners,
      row.ownerName = ownerName := by
  have change := performed_change library environment command world
  by_cases isRegister : command = .registerOwner
  · subst isRegister
    exact (registerOwner_owned (Prod.mk.eta (p := registerOwner environment.clock world.db)).symm
      owned).2
  · generalize (performCommand library environment command world).2 = later at change
    cases change with
    | owner => exact absurd rfl isRegister
    | queue _ effect =>
        rw [effect.frame]
        exact owned
    | _ => exact owned

theorem Change.stamped {later : World} (change : Change world command later)
    (stamped : ∀ row ∈ world.db.jobs, Stamped row) : ∀ row ∈ later.db.jobs, Stamped row := by
  cases change with
  | queue _ effect => exact effect.stamped stamped
  | _ => exact stamped

theorem transitionedPartition_notFailed {partitionId : String} {expected target : PartitionState}
    {clock : Instant} {row : PartitionRow} (moves : target ≠ .failed)
    (notFailed : row.state ≠ .failed) :
    (transitionedPartition partitionId expected target clock row).state ≠ .failed := by
  rcases transitionedPartition_cases row with same | ⟨_, _, moved⟩
  · rwa [same]
  · rwa [moved]

theorem Change.notFailed {later : World} (change : Change world command later)
    (notFailed : ∀ row ∈ world.db.partitions, row.state ≠ .failed) :
    ∀ row ∈ later.db.partitions, row.state ≠ .failed := by
  intro row member
  cases change with
  | partitionCreated rows =>
      rw [← Table.mem_rows, rows, List.mem_append, List.mem_singleton] at member
      rcases member with old | rfl
      · exact notFailed row old
      · simp [createdPartition]
  | partitionStarted rows =>
      rw [← Table.mem_rows, rows] at member
      obtain ⟨old, oldMember, rfl⟩ := List.mem_map.mp member
      exact transitionedPartition_notFailed nofun (notFailed old oldMember)
  | partitionCompleted rows =>
      rw [← Table.mem_rows, rows] at member
      obtain ⟨old, oldMember, rfl⟩ := List.mem_map.mp member
      exact transitionedPartition_notFailed nofun (notFailed old oldMember)
  | queue _ effect =>
      rw [effect.frame] at member
      exact notFailed row member
  | _ => exact notFailed row member

/-- A partition is on record already, or its run is. -/
theorem partition_references {partition run source key : String} {row : PartitionRow}
    (member : row ∈ (performCommand library environment
      (.createPartition partition run source key) world).2.db.partitions) :
    row ∈ world.db.partitions ∨ RunExists world run := by
  cases outcome : performCommand library environment (.createPartition partition run source key)
      world with
  | mk result later =>
      rw [outcome] at member
      simp only [performCommand] at outcome
      obtain ⟨next, call, rfl⟩ := onDb_eq.mp outcome
      rcases createPartition_cases call with ⟨_, _, rfl⟩ | ⟨rfl, _⟩
      · exact Or.inl member
      · exact Or.inr (createPartition_run call)

/-- Only an exclusive create touches a file. -/
theorem files_kept (reads : ∀ path content, command ≠ .createExclusive path content) :
    (performCommand library environment command world).2.files = world.files := by
  have change := performed_change library environment command world
  generalize (performCommand library environment command world).2 = later at change
  cases change with
  | fileStored => exact absurd rfl (reads _ _)
  | _ => rfl

/-- A file is an earlier one, or the one that was written. -/
theorem files_origin (whole : environment.torn = none) {path : String} {content : List UInt8}
    (stored : (performCommand library environment command world).2.files path = some content) :
    world.files path = some content ∨ command = .createExclusive path content := by
  by_cases isCreate : ∃ target bytes, command = .createExclusive target bytes
  · obtain ⟨target, bytes, rfl⟩ := isCreate
    simp only [performCommand, World.createExclusive, whole] at stored
    split at stored
    · exact Or.inl stored
    · next failed => cases failed
    · dsimp only at stored
      split at stored
      · next same =>
        rw [same, Option.some.inj stored]
        exact Or.inr rfl
      · exact Or.inl stored
  · rw [files_kept fun target bytes isThis => isCreate ⟨target, bytes, isThis⟩] at stored
    exact Or.inl stored

/-- A guarded step of the run keeps the invariant. -/
theorem SingleRun.keeps (single : SingleRun library root listing runId world)
    (whole : environment.torn = none)
    (guarded : Guard library root (servesOnly listing) runId command world) :
    SingleRun library root listing runId
      (performCommand library environment command world).2 := by
  have change := performed_change library environment command world
  exact
    { queue := change.queueInvariant single.queue
      owners := owners_keep single.owners
      stamped := change.stamped single.stamped
      partitions := change.notFailed single.partitions
      jobs := by
        intro row member
        rcases change.jobs_origin member with ⟨old, oldMember, same, _⟩ | ⟨job, rfl, made⟩
        · have own := single.jobs old oldMember
          exact ⟨same.crawlRunId.trans own.run, same.sourceListingKey ▸ own.key,
            same.reasonCode.trans own.reason⟩
        · obtain ⟨_, payload, current, listingKey, listingUrl, ⟨_, _, _, _, rfl⟩, key, _, rfl⟩ :=
            guarded
          obtain ⟨_, isRun, _, isKey, _, isReason⟩ := made.identity
          exact ⟨isRun, isKey ▸ key, isReason⟩
      run := by
        intro row member
        rcases change.partitions_origin member with
          ⟨old, oldMember, _⟩ | ⟨partition, run, source, key, rfl, _⟩
        · exact (single.run old oldMember).mono change.grow
        · obtain ⟨_, rfl, _⟩ := guarded
          rcases partition_references member with old | exists_
          · exact (single.run row old).mono change.grow
          · exact exists_.mono change.grow
      batches := by
        intro row member
        rcases change.batches_origin member with old | ⟨manifest, createdAt, rfl, _, rfl⟩
        · exact single.batches row old
        · obtain ⟨_, _, current, rfl, _⟩ := guarded
          rfl
      snapshotFile := by
        intro content stored
        rcases files_origin whole stored with old | rfl
        · exact single.snapshotFile content old
        · rcases guarded with ⟨_, payload, ⟨_, _, _, _, rfl⟩, isContent⟩ | ⟨wrong, _⟩
          · exact isContent
          · exact absurd wrong snapshotPath_ne_recordsPath
      recordsFile := by
        intro content stored
        rcases files_origin whole stored with old | rfl
        · exact single.recordsFile content old
        · rcases guarded with ⟨wrong, _⟩ | ⟨_, isContent⟩
          · exact absurd wrong.symm snapshotPath_ne_recordsPath
          · exact isContent }

theorem singleRun_empty : SingleRun library root listing runId World.empty where
  queue := EmptyQueue.invariant ⟨rfl, rfl⟩
  owners _ member := absurd member Table.not_mem_empty
  jobs _ member := absurd member Table.not_mem_empty
  stamped _ member := absurd member Table.not_mem_empty
  partitions _ member := absurd member Table.not_mem_empty
  run _ member := absurd member Table.not_mem_empty
  batches _ member := absurd member Table.not_mem_empty
  snapshotFile _ stored := by cases stored
  recordsFile _ stored := by cases stored

theorem singleRun_afterMoves {moves : List (WorkerMove Unit)}
    (meets : StepsMeet library root (SingleStep listing runId) moves) :
    Durable library (servesOnly listing) (afterMoves library root moves).world ∧
      SingleRun library root listing runId (afterMoves library root moves).world := by
  refine ⟨(soundPool_afterMoves singleStep_respectful meets).1, ?_⟩
  refine extra_afterMoves singleStep_respectful _ singleRun_empty ?_ meets
  intro session environment command world holds _ guarded single
  exact single.keeps holds.whole (holds.own ▸ guarded)

end SingleRun

end ScraperProject.Orchestration
