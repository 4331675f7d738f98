import ScraperProject.Orchestration.WorkerInvariant

/-!
Contract: the worker issues every command under its guard.

Owns the terms of a call of `run`, one lemma for each stage of the program, and
the theorem that `run` respects its terms from every world of the invariant. A
fact about an earlier world is carried to a later one by growth alone, since no
other process runs between two commands of a call.

Does not own what follows for whole histories of calls.
-/

namespace ScraperProject.Orchestration

open Foundation
open Database
open Contracts

/-! ## Terms -/

/-- The outcome of a command respects the promises of the history. -/
def Respects (promises : Promises) (runId : String) (environment : Environment) :
    Command → World → Prop
  | .succeed jobId _ _, _ => promises.finished runId jobId
  | .recordSnapshot artifact, _ => promises.recorded runId artifact.jobId
  | .openUrl _, world => ∀ payload, environment.response = .ok (200, .ok (.obj payload)) →
      promises.fetched world runId payload
  | _, _ => True

section Program

variable (library : StandardLibrary) (root : String) (promises : Promises) (runId : String)

/-- What a call for a run relies on and respects. -/
def workerTerms : Program.Terms Command PyError World Environment where
  permits environment command world :=
    Respects promises runId environment command world ∧
      Durable library promises (performCommand library environment command world).2
  guard := Guard library root promises runId
  raises _ _ := True

/-- The program respects the terms of a call. -/
abbrev WorkerMeets {α : Type} (returns : α → World → Prop) (program : Worker α)
    (world : World) : Prop :=
  program.Meets (performCommand library) (workerTerms library root promises runId) returns world

/-- Where a call stands: the invariant, and the stored checkpoint of its run. -/
structure Here (checkpoint : Option String) (world : World) : Prop where
  durable : Durable library promises world
  checkpoint : checkpointOf library world runId = checkpoint

variable {library root promises runId} {world : World} {checkpoint : Option String}

theorem rank_of_queued : checkpointRank (some "queued") = 1 := by decide

theorem rank_of_snapshotRecorded : checkpointRank (some "snapshot-recorded") = 2 := by decide

theorem rank_of_parserCompleted : checkpointRank (some "parser-completed") = 3 := by decide

theorem rank_of_batchRecorded : checkpointRank (some "batch-recorded") = 4 := by decide

theorem rank_of_completed : checkpointRank (some "completed") = 5 := by decide

theorem Here.same {later : World} (hereLater : Here library promises runId checkpoint later)
    (here : Here library promises runId checkpoint world) :
    checkpointOf library later runId = checkpointOf library world runId :=
  hereLater.checkpoint.trans here.checkpoint.symm

/-- The stages up to the stored checkpoint are reached. -/
theorem Here.reached {value : String} {rank : Nat}
    (here : Here library promises runId (some value) world)
    (isRank : checkpointRank (some value) = rank) : Reached library promises rank world runId :=
  isRank ▸ (here.durable.checkpoints runId value here.checkpoint).2

/-- A command that saves no checkpoint. -/
theorem meets_issue {command : Command} {returns : Reply command → World → Prop}
    (here : Here library promises runId checkpoint world) (quiet : command.saves = false)
    (guarded : Guard library root promises runId command world)
    (continues : ∀ environment reply later,
      performCommand library environment command world = (.ok reply, later) →
        Respects promises runId environment command world → Grow world later →
          Here library promises runId checkpoint later → returns reply later) :
    WorkerMeets library root promises runId returns (issue command) world := by
  refine Program.Meets.call guarded (fun _ _ _ _ _ => trivial) ?_
  intro environment reply later permitted outcome
  have change := performCommand_change outcome
  refine continues environment reply later outcome permitted.1 change.grow ⟨?_, ?_⟩
  · have kept := permitted.2
    rwa [outcome] at kept
  · exact (change.keeps_checkpoint quiet _ _).trans here.checkpoint

/-- A save of the next checkpoint of the run. -/
theorem meets_save {value : String} {rank : Nat} {returns : Unit → World → Prop}
    (here : Here library promises runId checkpoint world) (known : value ∈ checkpoints)
    (isRank : checkpointRank (some value) = rank)
    (advances : rank = checkpointRank checkpoint + 1)
    (reached : Reached library promises rank world runId)
    (closed : value = "completed" → RunClosed library world runId ∨ NotRunning world runId)
    (continues : ∀ later, Grow world later →
      Here library promises runId (some value) later → returns () later) :
    WorkerMeets library root promises runId returns
      (issue (.saveCheckpoint runId (partitionId library runId) value)) world := by
  have guarded : Guard library root promises runId
      (.saveCheckpoint runId (partitionId library runId) value) world := by
    refine ⟨rfl, rfl, known, ?_, isRank ▸ reached, closed⟩
    rw [here.checkpoint, isRank, advances]
  refine Program.Meets.call guarded (fun _ _ _ _ _ => trivial) ?_
  intro environment reply later permitted outcome
  refine continues later (performCommand_change outcome).grow ⟨?_, ?_⟩
  · have kept := permitted.2
    rwa [outcome] at kept
  · simp only [performCommand] at outcome
    obtain ⟨next, call, rfl⟩ := onDb_eq.mp outcome
    rcases saveCheckpoint_cases call with ⟨_, isError, _⟩ | ⟨_, _, rfl, saved⟩
    · cases isError
    · exact (saved _ _).trans (if_pos ⟨rfl, rfl⟩)

/-- A pure step of the program. -/
theorem meets_require {α : Type} {computation : Except PyError α}
    {returns : α → World → Prop}
    (continues : ∀ value, computation = .ok value → returns value world) :
    WorkerMeets library root promises runId returns (require computation) world :=
  Program.Meets.ofExcept (fun _ _ => trivial) continues

/-- A program that raises returns nothing. -/
theorem meets_refusal {α : Type} {raised : PyError} {returns : α → World → Prop} :
    WorkerMeets library root promises runId returns (require (.error raised)) world :=
  meets_require fun _ isOk => by cases isOk

/-! ## The fixture -/

theorem fixtureUnavailable_ok {α : Type} {outcome : Except PyError α} {value : α} :
    fixtureUnavailable outcome = .ok value ↔ outcome = .ok value := by
  cases outcome with
  | ok other => exact Iff.rfl
  | error raised => cases raised <;> simp [fixtureUnavailable, workerError]

theorem requireSourcePayload_ok {payload : Json} {entries : List (String × Json)}
    (accepted : requireSourcePayload payload = .ok entries) :
    payload = .obj entries ∧ text entries "source_name" = .ok sourceName := by
  cases payload with
  | obj fields =>
      obtain ⟨source, named, body⟩ := bind_eq_ok.mp accepted
      split at body
      · cases body
      · next same =>
        cases body
        exact ⟨rfl, by rw [named, Decidable.not_not.mp same]⟩
  | _ => cases accepted

/-- A fetched payload is the one that the fixture served. -/
theorem fetched_of_response {response : Except PyError (Int × Except PyError Json)}
    {payload : List (String × Json)}
    (accepted : (fixtureUnavailable (response >>= readResponse) >>= requireSourcePayload) =
      .ok payload) :
    response = .ok (200, .ok (.obj payload)) ∧
      text payload "source_name" = .ok sourceName := by
  obtain ⟨value, read, checked⟩ := bind_eq_ok.mp accepted
  obtain ⟨answer, answered, body⟩ := bind_eq_ok.mp (fixtureUnavailable_ok.mp read)
  obtain ⟨rfl, named⟩ := requireSourcePayload_ok checked
  unfold readResponse at body
  split at body
  · cases body
  · next status =>
    refine ⟨?_, named⟩
    rw [answered, ← body, ← Decidable.not_not.mp status]

theorem meets_fetchFixture {fixtureUrl : String}
    (here : Here library promises runId checkpoint world) :
    WorkerMeets library root promises runId
      (fun payload later => later = world ∧ Fetched library promises later runId payload ∧
        text payload "source_name" = .ok sourceName)
      (fetchFixture library fixtureUrl) world := by
  refine Program.meets_bind.mpr (meets_require fun _ _ => ?_)
  refine Program.meets_bind.mpr (Program.Meets.attempt trivial ?_)
  intro environment result later permitted outcome
  cases outcome
  refine meets_require fun payload accepted => ?_
  obtain ⟨served, named⟩ := fetched_of_response accepted
  exact ⟨rfl, ⟨world, here.durable, .refl _, rfl, permitted.1 payload served⟩, named⟩

/-! ## Opening the run -/

theorem runExists_of_createRun {environment : Environment} {source runKind : String}
    {later : World}
    (outcome : performCommand library environment (.createRun runId source runKind) world =
      (.ok (), later)) : RunExists later runId := by
  simp only [performCommand] at outcome
  obtain ⟨next, call, rfl⟩ := onDb_eq.mp outcome
  rcases createRun_cases call with ⟨_, isError, _⟩ | ⟨_, runs, rfl, rows⟩
  · cases isError
  · refine ⟨createdRun runId source runKind environment.clock, ?_, rfl⟩
    rw [← Table.mem_rows, rows]
    exact List.mem_append_right _ List.mem_cons_self

theorem meets_createMissingRun {run : Option RunRow}
    (here : Here library promises runId checkpoint world)
    (found : ∀ row, run = some row → RunExists world runId) :
    WorkerMeets library root promises runId
      (fun _ later => Grow world later ∧ Here library promises runId checkpoint later ∧
        RunExists later runId)
      (createMissingRun runId run) world := by
  cases run with
  | some row => exact ⟨.refl _, here, found row rfl⟩
  | none =>
      refine Program.meets_bind.mpr (meets_issue here rfl rfl ?_)
      intro environment _ created outcome _ growCreated hereCreated
      refine meets_issue hereCreated rfl rfl fun _ _ later _ _ grow hereLater => ?_
      exact ⟨growCreated.trans grow, hereLater, (runExists_of_createRun outcome).mono grow⟩

theorem partition_of_createPartition {environment : Environment} {later : World}
    (outcome : performCommand library environment
      (.createPartition (partitionId library runId) runId sourceName partitionKey) world =
        (.ok (), later)) :
    ∃ row ∈ later.db.partitions, row.partitionId = partitionId library runId := by
  simp only [performCommand] at outcome
  obtain ⟨next, call, rfl⟩ := onDb_eq.mp outcome
  rcases createPartition_cases call with ⟨_, isError, _⟩ | ⟨_, partitions, rfl, rows⟩
  · cases isError
  · refine ⟨createdPartition (partitionId library runId) runId sourceName partitionKey
      environment.clock environment.laterClock, ?_, rfl⟩
    rw [← Table.mem_rows, rows]
    exact List.mem_append_right _ List.mem_cons_self

/-- What a call finds of the partition of its run. -/
theorem getPartition_reply {environment : Environment} {reply : Option PartitionRow}
    {later : World}
    (outcome : performCommand library environment (.getPartition (partitionId library runId))
      world = (.ok reply, later)) :
    later = world ∧ reply = world.db.partitions.find? fun row =>
      row.partitionId = partitionId library runId := by
  cases outcome
  exact ⟨rfl, rfl⟩

theorem found_partition {row : PartitionRow} {partitions : Table PartitionRow}
    {partitionId : String}
    (found : (partitions.find? fun row => row.partitionId = partitionId) = some row) :
    row ∈ partitions ∧ row.partitionId = partitionId := by
  obtain ⟨member, selected⟩ := Table.find?_some found
  exact ⟨member, by simpa using selected⟩

theorem meets_createMissingPartition {partition : Option PartitionRow}
    (here : Here library promises runId checkpoint world)
    (found : ∀ row, partition = some row →
      row ∈ world.db.partitions ∧ row.partitionId = partitionId library runId) :
    WorkerMeets library root promises runId
      (fun partition later => Grow world later ∧
        Here library promises runId checkpoint later ∧
          ∃ row, partition = some row ∧ row ∈ later.db.partitions ∧
            row.partitionId = partitionId library runId)
      (createMissingPartition library runId partition) world := by
  cases partition with
  | some row => exact ⟨.refl _, here, row, rfl, found row rfl⟩
  | none =>
      refine Program.meets_bind.mpr (meets_issue here rfl ⟨rfl, rfl, rfl⟩ ?_)
      intro environment _ created outcome _ growCreated hereCreated
      obtain ⟨row, member, same⟩ := partition_of_createPartition outcome
      refine meets_issue hereCreated rfl trivial fun _ reply later outcome _ grow hereLater => ?_
      refine ⟨growCreated.trans grow, hereLater, ?_⟩
      obtain ⟨rfl, isFound⟩ := getPartition_reply outcome
      cases reply with
      | none => exact absurd (by simpa using same) (Table.find?_none.mp isFound.symm row member)
      | some other => exact ⟨other, rfl, found_partition isFound.symm⟩

theorem meets_startPendingPartition {row : PartitionRow}
    (here : Here library promises runId checkpoint world) (member : row ∈ world.db.partitions)
    (named : row.partitionId = partitionId library runId) :
    WorkerMeets library root promises runId
      (fun _ later => Grow world later ∧ Here library promises runId checkpoint later ∧
        PartitionActive library later runId)
      (startPendingPartition library runId (some row)) world := by
  by_cases pending : row.state = .pending
  · simp only [startPendingPartition, if_pos pending]
    refine meets_issue here rfl rfl fun environment _ later outcome _ grow hereLater => ?_
    refine ⟨grow, hereLater, ?_⟩
    simp only [performCommand] at outcome
    obtain ⟨next, call, rfl⟩ := onDb_eq.mp outcome
    obtain ⟨_, partitions, rfl, rows⟩ := transitionPartition_cases call
    refine ⟨row.transition .processing environment.clock, ?_, named,
      by simp [PartitionRow.transition]⟩
    rw [← Table.mem_rows, rows]
    exact List.mem_map.mpr ⟨row, member, if_pos ⟨named, pending⟩⟩
  · simp only [startPendingPartition, if_neg pending]
    exact ⟨.refl _, here, row, member, named, pending⟩

theorem meets_ensureRun (here : Here library promises runId checkpoint world) :
    WorkerMeets library root promises runId
      (fun _ later => Grow world later ∧ Here library promises runId checkpoint later ∧
        RunExists later runId ∧ PartitionActive library later runId)
      (ensureRun library runId) world := by
  refine Program.meets_bind.mpr (meets_issue here rfl trivial ?_)
  intro _ _ registered _ _ growRegistered hereRegistered
  refine Program.meets_bind.mpr (meets_issue hereRegistered rfl trivial ?_)
  intro _ run looked outcome _ growLooked hereLooked
  have found : ∀ row, run = some row → RunExists looked runId := by
    intro row isRow
    have looked_run : (looked.db.runs.find? fun row => row.crawlRunId = runId) = run := by
      cases outcome
      rfl
    obtain ⟨member, selected⟩ := Table.find?_some (looked_run.trans isRow)
    exact ⟨row, member, by simpa using selected⟩
  refine Program.Meets.bind (meets_createMissingRun hereLooked found) ?_
  intro _ opened ⟨growOpened, hereOpened, exists_⟩
  refine Program.meets_bind.mpr (meets_issue hereOpened rfl trivial ?_)
  intro _ partition found outcome _ growFound hereFound
  obtain ⟨rfl, isFound⟩ := getPartition_reply outcome
  refine Program.Meets.bind (meets_createMissingPartition hereFound
    fun row isRow => found_partition (isFound.symm.trans isRow)) ?_
  intro partition present ⟨growPresent, herePresent, row, isRow, member, named⟩
  subst isRow
  refine (meets_startPendingPartition herePresent member named).mono ?_
  intro _ later ⟨grow, hereLater, active⟩
  have growAll := growRegistered.trans
    (growLooked.trans (growOpened.trans (growPresent.trans grow)))
  exact ⟨growAll, hereLater, exists_.mono (growPresent.trans grow), active⟩

/-! ## Discovery -/

theorem requireText_ok {value fieldName : String} :
    requireText value fieldName = .ok () ↔ Text.isBlank value = false := by
  unfold requireText
  split
  · next blank => simp [contractError, blank]
  · next notBlank => simpa using notBlank

/-- An observation that passes its checks is the run's, and its run is named. -/
theorem discoveryObservation_ok {current : Datetime} {fixture : List (String × Json)}
    {listingKey listingUrl : String} {observation : DiscoveryObservation}
    (made : discoveryObservation library runId current fixture listingKey listingUrl =
      .ok observation) :
    observation.crawlRunId = runId ∧ Text.isBlank observation.crawlRunId = false := by
  obtain ⟨_, _, body⟩ := bind_eq_ok.mp made
  obtain ⟨_, _, body⟩ := bind_eq_ok.mp body
  obtain ⟨_, _, body⟩ := bind_eq_ok.mp body
  obtain ⟨_, _, body⟩ := bind_eq_ok.mp body
  obtain ⟨_, _, body⟩ := bind_eq_ok.mp body
  obtain ⟨_, _, body⟩ := bind_eq_ok.mp body
  obtain ⟨_, _, body⟩ := bind_eq_ok.mp body
  obtain ⟨_, valid, body⟩ := bind_eq_ok.mp body
  cases body
  obtain ⟨_, _, valid⟩ := bind_eq_ok.mp valid
  obtain ⟨_, named, _⟩ := bind_eq_ok.mp valid
  exact ⟨rfl, requireText_ok.mp named⟩

theorem observed_of_appendObservation {environment : Environment}
    {observation : DiscoveryObservation} {recordId : String} {later : World}
    (outcome : performCommand library environment (.appendObservation observation) world =
      (.ok recordId, later)) :
    ∃ row ∈ later.db.observations, row.crawlRunId = observation.crawlRunId := by
  simp only [performCommand] at outcome
  obtain ⟨next, call, rfl⟩ := onDb_eq.mp outcome
  rcases appendObservation_cases call with
    ⟨_, isError, _⟩ | ⟨_, identities, observations, observedAt, rfl, rows⟩
  · cases isError
  · refine ⟨observationRow observation environment.identifier observedAt, ?_, rfl⟩
    rw [← Table.mem_rows, rows]
    exact List.mem_append_right _ List.mem_cons_self

theorem job_of_createIdempotent {environment : Environment} {job : DetailFetchJob}
    {reply : String} {later : World}
    (outcome : performCommand library environment (.createIdempotent job) world =
      (.ok reply, later)) :
    ∃ row ∈ later.db.jobs, row.crawlRunId = job.crawlRunId := by
  simp only [performCommand] at outcome
  obtain ⟨next, call, rfl⟩ := onDb_eq.mp outcome
  rcases createIdempotent_cases call with
    ⟨_, isError, _⟩ | ⟨row, member, key, _, frame⟩ | ⟨row, created, _⟩
  · cases isError
  · refine ⟨row, ?_, key.1⟩
    rw [frame]
    exact member
  · refine ⟨row, ?_, created.identity.2.1⟩
    rw [← Table.mem_rows, created.jobs]
    exact List.mem_append_right _ List.mem_cons_self

theorem meets_discoverAndQueue {fixtureUrl : String} {current : Datetime}
    (here : Here library promises runId none world) (run : RunExists world runId)
    (partition : PartitionActive library world runId) :
    WorkerMeets library root promises runId
      (fun _ later => Grow world later ∧ Here library promises runId (some "queued") later)
      (discoverAndQueue library fixtureUrl runId current) world := by
  refine Program.Meets.bind (meets_fetchFixture here) ?_
  intro payload _ ⟨same, served, _⟩
  subst same
  refine Program.meets_bind.mpr (meets_require fun listingKey key => ?_)
  refine Program.meets_bind.mpr (meets_require fun listingUrl url => ?_)
  refine Program.meets_bind.mpr (meets_require fun observation made => ?_)
  obtain ⟨ofRun, named⟩ := discoveryObservation_ok made
  refine Program.meets_bind.mpr (meets_issue here rfl named ?_)
  intro _ _ observed appended _ growObserved hereObserved
  refine Program.meets_bind.mpr (meets_require fun _ _ => ?_)
  have guarded : Guard library root promises runId (.createIdempotent
      (detailFetchJob library runId current listingKey listingUrl)) observed :=
    ⟨hereObserved.checkpoint, payload, current, listingKey, listingUrl,
      served.mono growObserved (hereObserved.same here), key, url, rfl⟩
  refine Program.meets_bind.mpr (meets_issue hereObserved rfl guarded ?_)
  intro _ _ queued created _ growQueued hereQueued
  obtain ⟨row, member, sameRun⟩ := observed_of_appendObservation appended
  obtain ⟨_, kept, rfl⟩ := growQueued.observations row member
  have growHere := growObserved.trans growQueued
  have isQueued : Queued library queued runId :=
    { run := run.mono growHere
      partition := partition.mono growHere
      observation := ⟨row, kept, sameRun.trans ofRun⟩
      job := job_of_createIdempotent created }
  have reached : Reached library promises 1 queued runId :=
    { queued := fun _ => isQueued, snapshot := by omega, parser := by omega, batch := by omega }
  refine meets_save hereQueued (by decide) rank_of_queued rfl reached
    (fun wrong => absurd wrong (by decide)) ?_
  intro later grow hereLater
  exact ⟨growHere.trans grow, hereLater⟩

/-! ## The snapshot -/

/-- After the file is stored, a file with the body's digest is there. -/
theorem meets_storeSnapshot {payload : List (String × Json)}
    (here : Here library promises runId checkpoint world)
    (served : Fetched library promises world runId payload) :
    WorkerMeets library root promises runId
      (fun _ later => Grow world later ∧ Here library promises runId checkpoint later ∧
        ∃ content, later.files (snapshotPath library root runId) = some content ∧
          library.sha256 content = library.sha256 (canonicalJsonBytes (.obj payload)))
      (storeSnapshot library (snapshotPath library root runId)
        (canonicalJsonBytes (.obj payload))) world := by
  refine Program.meets_bind.mpr (meets_issue here rfl trivial ?_)
  intro _ present looked outcome _ growLooked hereLooked
  have isPresent : present = (looked.files (snapshotPath library root runId)).isSome := by
    cases outcome
    rfl
  split
  · next found =>
    refine Program.meets_bind.mpr (meets_issue hereLooked rfl trivial ?_)
    intro _ stored read outcome _ growRead hereRead
    have isStored : read.files (snapshotPath library root runId) = some stored := by
      simp only [performCommand] at outcome
      split at outcome
      · next content isContent =>
        cases outcome
        exact isContent
      · cases outcome
    split
    · exact meets_refusal
    · next same =>
      exact ⟨growLooked.trans growRead, hereRead, stored, isStored, Decidable.not_not.mp same⟩
  · next absent =>
    have guarded : Guard library root promises runId (.createExclusive
        (snapshotPath library root runId) (canonicalJsonBytes (.obj payload))) looked :=
      Or.inl ⟨rfl, payload, served.mono growLooked (hereLooked.same here), rfl⟩
    refine Program.meets_bind.mpr (Program.Meets.attempt guarded ?_)
    intro environment result later permitted outcome
    have change := performCommand_change outcome
    cases result with
    | error raised =>
        cases raised <;> exact meets_refusal
    | ok created =>
        have kept := permitted.2
        rw [outcome] at kept
        refine ⟨growLooked.trans change.grow, ⟨kept, ?_⟩, _, ?_, rfl⟩
        · exact (change.keeps_checkpoint rfl _ _).trans hereLooked.checkpoint
        · simp only [performCommand, World.createExclusive] at outcome
          split at outcome <;> cases outcome
          exact if_pos rfl

theorem artifactId_injective : Function.Injective (artifactId library) := by
  intro first second same
  simpa [artifactId] using library.uuid5_injective same

/-- The artifact of the run that is on record is its SUCCESS manifest. -/
theorem Durable.snapshotStored {row : SnapshotRow} (durable : Durable library promises world)
    (member : row ∈ world.db.snapshots) (named : row.artifactId = artifactId library runId) :
    SnapshotStored library world runId := by
  have sound := durable.snapshots row member
  exact ⟨row, member, named, artifactId_injective (sound.artifact.symm.trans named), sound.status⟩

theorem meets_recordMissingSnapshot {leasedJobId : String} {current : Datetime}
    {payload fixture : List (String × Json)} {content : List UInt8}
    {existing : Option SnapshotRow} (here : Here library promises runId (some "queued") world)
    (served : Fetched library promises world runId payload)
    (reloaded : reloadFixture payload = .ok fixture)
    (stored : world.files (snapshotPath library root runId) = some content)
    (digest : library.sha256 content = library.sha256 (canonicalJsonBytes (.obj payload)))
    (found : ∀ row, existing = some row → SnapshotStored library world runId) :
    WorkerMeets library root promises runId
      (fun _ later => Grow world later ∧ Here library promises runId (some "queued") later ∧
        SnapshotStored library later runId)
      (recordMissingSnapshot library root runId leasedJobId (library.sha256 content).text current
        fixture existing) world := by
  cases existing with
  | some row => exact ⟨.refl _, here, found row rfl⟩
  | none =>
      refine Program.meets_bind.mpr (meets_require fun artifact made => ?_)
      have guarded : Guard library root promises runId (.recordSnapshot artifact) world :=
        ⟨here.checkpoint, payload, fixture, leasedJobId, current, content, served, reloaded,
          stored, digest, made⟩
      refine meets_issue here rfl guarded fun _ _ later outcome _ grow hereLater => ?_
      refine ⟨grow, hereLater, ?_⟩
      simp only [performCommand] at outcome
      obtain ⟨next, call, rfl⟩ := onDb_eq.mp outcome
      rcases recordSnapshot_cases call with
        ⟨_, isError, _⟩ | ⟨_, _, snapshots, fetchedAt, rfl, rows⟩
      · cases isError
      · have member : snapshotRow artifact fetchedAt ∈ snapshots := by
          rw [← Table.mem_rows, rows]
          exact List.mem_append_right _ List.mem_cons_self
        exact hereLater.durable.snapshotStored member (rawFetchArtifact_ok made).1

theorem meets_recordSnapshotOf {fixtureUrl leasedJobId : String} {current : Datetime}
    (here : Here library promises runId (some "queued") world) :
    WorkerMeets library root promises runId
      (fun _ later => Grow world later ∧ Here library promises runId (some "queued") later ∧
        SnapshotStored library later runId)
      (recordSnapshotOf library root fixtureUrl runId leasedJobId current) world := by
  refine Program.Meets.bind (meets_fetchFixture here) ?_
  intro payload _ ⟨same, served, _⟩
  subst same
  refine Program.Meets.bind (meets_storeSnapshot here served) ?_
  intro _ filed ⟨growFiled, hereFiled, content, stored, digest⟩
  refine Program.meets_bind.mpr (meets_require fun fixture reloaded => ?_)
  refine Program.meets_bind.mpr (meets_issue hereFiled rfl trivial ?_)
  intro _ existing looked outcome _ growLooked hereLooked
  have found : ∀ row, existing = some row → SnapshotStored library looked runId := by
    intro row isRow
    have looked_row : (looked.db.snapshots.find? fun row =>
        row.artifactId = artifactId library runId) = existing := by
      cases outcome
      rfl
    obtain ⟨member, selected⟩ := Table.find?_some (looked_row.trans isRow)
    exact hereLooked.durable.snapshotStored member (by simpa using selected)
  have kept := growLooked.files _ _ stored
  have servedLooked := served.mono (growFiled.trans growLooked) (hereLooked.same here)
  rw [← digest]
  refine Program.Meets.bind
    (meets_recordMissingSnapshot hereLooked servedLooked reloaded kept digest found) ?_
  intro _ later ⟨grow, hereLater, isStored⟩
  exact ⟨growFiled.trans (growLooked.trans grow), hereLater, isStored⟩

/-! ## The dataset batch -/

/-- After the file is stored, the records are there. -/
theorem meets_storeRecords (here : Here library promises runId checkpoint world) :
    WorkerMeets library root promises runId
      (fun _ later => Grow world later ∧ Here library promises runId checkpoint later ∧
        later.files (recordsPath library root runId) = some (batchRecords library runId))
      (storeRecords (recordsPath library root runId) (batchRecords library runId)) world := by
  refine Program.meets_bind.mpr (meets_issue here rfl trivial ?_)
  intro _ present looked outcome _ growLooked hereLooked
  split
  · refine Program.meets_bind.mpr (meets_issue hereLooked rfl trivial ?_)
    intro _ stored read outcome _ growRead hereRead
    have isStored : read.files (recordsPath library root runId) = some stored := by
      simp only [performCommand] at outcome
      split at outcome
      · next content isContent =>
        cases outcome
        exact isContent
      · cases outcome
    split
    · exact meets_refusal
    · next same =>
      exact ⟨growLooked.trans growRead, hereRead, Decidable.not_not.mp same ▸ isStored⟩
  · refine meets_issue hereLooked rfl (Or.inr ⟨rfl, rfl⟩) fun _ _ later outcome _ grow hereLater => ?_
    refine ⟨growLooked.trans grow, hereLater, ?_⟩
    simp only [performCommand, World.createExclusive] at outcome
    split at outcome <;> cases outcome
    exact if_pos rfl

/-- A batch that reads back is on record. -/
theorem batchStored_of_getBatch {environment : Environment} {manifest : DatasetBatchManifest}
    {later : World}
    (outcome : performCommand library environment (.getBatch (batchId library runId)) world =
      (.ok (some manifest), later)) : BatchStored library later runId := by
  simp only [performCommand] at outcome
  obtain ⟨next, call, rfl⟩ := onDb_eq.mp outcome
  unfold getBatch at call
  split at call
  · cases call
  · next row found =>
    obtain ⟨_, rfl⟩ := Prod.mk.inj call
    obtain ⟨member, selected⟩ := Table.find?_some found
    exact ⟨row, member, by simpa using selected⟩

theorem meets_recordBatchOf {current : Datetime}
    (here : Here library promises runId (some "parser-completed") world) :
    WorkerMeets library root promises runId
      (fun _ later => Grow world later ∧
        Here library promises runId (some "parser-completed") later ∧
          BatchStored library later runId)
      (recordBatchOf library root runId current) world := by
  refine Program.meets_bind.mpr (meets_issue here rfl trivial ?_)
  intro _ existing looked outcome _ growLooked hereLooked
  cases existing with
  | some manifest => exact ⟨growLooked, hereLooked, batchStored_of_getBatch outcome⟩
  | none =>
      refine Program.Meets.bind (meets_storeRecords hereLooked) ?_
      intro _ filed ⟨growFiled, hereFiled, stored⟩
      refine Program.meets_bind.mpr (meets_require fun _ valid => ?_)
      have guarded : Guard library root promises runId
          (.recordBatch (batchManifest library root runId current)) filed :=
        ⟨hereFiled.checkpoint, stored, current, rfl, valid⟩
      refine meets_issue hereFiled rfl guarded fun _ _ later outcome _ grow hereLater => ?_
      refine ⟨growLooked.trans (growFiled.trans grow), hereLater, ?_⟩
      simp only [performCommand] at outcome
      obtain ⟨next, call, rfl⟩ := onDb_eq.mp outcome
      rcases recordBatch_cases call with
        ⟨_, isError, _⟩ | ⟨_, batches, createdAt, rfl, _, rows⟩
      · cases isError
      · refine ⟨batchRow (batchManifest library root runId current) createdAt, ?_, rfl⟩
        rw [← Table.mem_rows, rows]
        exact List.mem_append_right _ List.mem_cons_self

/-! ## Completion -/

theorem meets_completeRunning {run : Option RunRow}
    (here : Here library promises runId checkpoint world)
    (found : run = world.db.runs.find? fun row => row.crawlRunId = runId) :
    WorkerMeets library root promises runId
      (fun _ later => Grow world later ∧ Here library promises runId checkpoint later ∧
        (RunClosed library later runId ∨ NotRunning later runId))
      (completeRunning library runId run) world := by
  cases run with
  | none =>
      refine ⟨.refl _, here, Or.inr fun row member same => ?_⟩
      exact absurd (by simpa using same) (Table.find?_none.mp found.symm row member)
  | some row =>
      obtain ⟨member, selected⟩ := Table.find?_some found.symm
      have named : row.crawlRunId = runId := by simpa using selected
      by_cases running : row.state = .running
      · simp only [completeRunning, if_pos running]
        refine Program.meets_bind.mpr (meets_issue here rfl rfl ?_)
        intro environment _ closed outcome _ growClosed hereClosed
        have completed : PartitionCompleted library closed runId := by
          simp only [performCommand] at outcome
          obtain ⟨next, call, rfl⟩ := onDb_eq.mp outcome
          obtain ⟨isOk, partitions, rfl, rows⟩ := transitionPartition_cases call
          obtain ⟨partition, isPartition, key⟩ := isOk.mp rfl
          refine ⟨partition.transition .completed environment.clock, ?_, key.1, rfl⟩
          rw [← Table.mem_rows, rows]
          exact List.mem_map.mpr ⟨partition, isPartition, if_pos key⟩
        refine meets_issue hereClosed rfl ⟨rfl, completed⟩ ?_
        intro environment _ later outcome _ grow hereLater
        refine ⟨growClosed.trans grow, hereLater, Or.inl ⟨?_, completed.mono grow⟩⟩
        simp only [performCommand] at outcome
        obtain ⟨next, call, rfl⟩ := onDb_eq.mp outcome
        obtain ⟨isOk, runs, rfl, rows⟩ := transitionRun_cases call
        obtain ⟨run, isRun, key⟩ := isOk.mp rfl
        refine ⟨run.transition .completed false true environment.clock, ?_, key.1, rfl⟩
        rw [← Table.mem_rows, rows]
        exact List.mem_map.mpr ⟨run, isRun, if_pos key⟩
      · simp only [completeRunning, if_neg running]
        refine ⟨.refl _, here, Or.inr fun other otherMember same => ?_⟩
        rwa [Table.eq_of_clash otherMember member (same.trans named.symm)]

/-! ## From a checkpoint on -/

/-- A call that reports "completed" has left that checkpoint. -/
def Reported (library : StandardLibrary) (runId : String) (result : SyntheticWorkerResult)
    (world : World) : Prop :=
  result.state = "completed" → checkpointOf library world runId = some "completed"

theorem meets_runBatchRecorded {recovery : RecoveryCounts}
    (here : Here library promises runId (some "batch-recorded") world) :
    WorkerMeets library root promises runId (Reported library runId)
      (runBatchRecorded library root runId recovery) world := by
  refine Program.meets_bind.mpr (meets_issue here rfl trivial ?_)
  intro _ run looked outcome _ _ hereLooked
  have isRun : run = looked.db.runs.find? fun row => row.crawlRunId = runId := by
    cases outcome
    rfl
  refine Program.Meets.bind (meets_completeRunning hereLooked isRun) ?_
  intro _ closed ⟨_, hereClosed, runClosed⟩
  have before := hereClosed.reached rank_of_batchRecorded
  have reached : Reached library promises 5 closed runId :=
    { queued := fun _ => before.queued (by decide)
      snapshot := fun _ => before.snapshot (by decide)
      parser := fun _ => before.parser (by decide)
      batch := fun _ => before.batch (by decide) }
  refine Program.meets_bind.mpr (meets_save hereClosed (by decide) rank_of_completed rfl reached
    (fun _ => runClosed) ?_)
  intro later _ hereLater
  exact fun _ => hereLater.checkpoint

theorem meets_runParserCompleted {current : Datetime} {recovery : RecoveryCounts}
    (here : Here library promises runId (some "parser-completed") world) :
    WorkerMeets library root promises runId (Reported library runId)
      (runParserCompleted library root runId current recovery) world := by
  refine Program.Meets.bind (meets_recordBatchOf here) ?_
  intro _ recorded ⟨_, hereRecorded, stored⟩
  have before := hereRecorded.reached rank_of_parserCompleted
  have reached : Reached library promises 4 recorded runId :=
    { queued := fun _ => before.queued (by decide)
      snapshot := fun _ => before.snapshot (by decide)
      parser := fun _ => before.parser (by decide)
      batch := fun _ => stored }
  refine Program.meets_bind.mpr (meets_save hereRecorded (by decide) rank_of_batchRecorded rfl
    reached (fun wrong => absurd wrong (by decide)) ?_)
  intro later _ hereLater
  exact meets_runBatchRecorded hereLater

theorem meets_runSnapshotRecorded {current : Datetime} {recovery : RecoveryCounts}
    (here : Here library promises runId (some "snapshot-recorded") world) :
    WorkerMeets library root promises runId (Reported library runId)
      (runSnapshotRecorded library root runId current recovery) world := by
  refine Program.meets_bind.mpr (meets_issue here rfl trivial ?_)
  intro starting parserRunId started outcome _ _ hereStarted
  have isStarted : startedParserRun (artifactId library runId) "synthetic_placeholder" "0.1"
      parserRunId starting.clock ∈ started.db.parserRuns := by
    simp only [performCommand] at outcome
    obtain ⟨next, call, rfl⟩ := onDb_eq.mp outcome
    rcases startParserRun_cases call with ⟨_, isError, _⟩ | ⟨isReply, parserRuns, rfl, rows⟩
    · cases isError
    · cases isReply
      rw [← Table.mem_rows, rows]
      exact List.mem_append_right _ List.mem_cons_self
  refine Program.meets_bind.mpr (meets_issue hereStarted rfl trivial ?_)
  intro ending _ parsed outcome _ _ hereParsed
  have completed : ParserCompleted library parsed runId := by
    simp only [performCommand] at outcome
    obtain ⟨next, call, rfl⟩ := onDb_eq.mp outcome
    obtain ⟨_, parserRuns, rfl, rows⟩ := transitionParserRun_cases call
    refine ⟨(startedParserRun (artifactId library runId) "synthetic_placeholder" "0.1"
      parserRunId starting.clock).finish .completed none ending.clock, ?_, rfl, rfl⟩
    rw [← Table.mem_rows, rows]
    exact List.mem_map.mpr ⟨_, isStarted, if_pos ⟨rfl, rfl⟩⟩
  have before := hereParsed.reached rank_of_snapshotRecorded
  have reached : Reached library promises 3 parsed runId :=
    { queued := fun _ => before.queued (by decide)
      snapshot := fun _ => before.snapshot (by decide)
      parser := fun _ => completed
      batch := by omega }
  refine Program.meets_bind.mpr (meets_save hereParsed (by decide) rank_of_parserCompleted rfl
    reached (fun wrong => absurd wrong (by decide)) ?_)
  intro later _ hereLater
  exact meets_runParserCompleted hereLater

theorem meets_stopRequested {call : RunCall}
    (here : Here library promises runId checkpoint world) :
    WorkerMeets library root promises runId
      (fun _ later => Here library promises runId checkpoint later) (stopRequested call) world := by
  unfold stopRequested
  split
  · exact here
  · split
    · exact meets_issue here rfl trivial fun _ _ _ _ _ _ hereLater => hereLater
    · exact here

/-- The job that a call reports as succeeded is one that it may report. -/
theorem jobSucceeded_of_succeed {environment : Environment} {leasedJobId worker : String}
    {now : Datetime} {later : World}
    (outcome : performCommand library environment (.succeed leasedJobId worker now) world =
      (.ok (), later)) (finished : promises.finished runId leasedJobId) :
    JobSucceeded promises later runId := by
  simp only [performCommand] at outcome
  obtain ⟨next, call, rfl⟩ := onDb_eq.mp outcome
  obtain ⟨row, current, effect⟩ := succeed_ok call
  exact ⟨_, effect.stored, effect.sameId ▸ finished, rfl⟩

theorem meets_runLeased {call : RunCall} {current : Datetime} {recovery : RecoveryCounts}
    {leasedJobId : String} (here : Here library promises call.runId (some "queued") world) :
    WorkerMeets library root promises call.runId (Reported library call.runId)
      (runLeased library root call current recovery leasedJobId) world := by
  refine Program.Meets.bind (meets_stopRequested here) ?_
  intro stop asked hereAsked
  split
  · refine Program.meets_bind.mpr (meets_issue hereAsked rfl trivial fun _ _ _ _ _ _ _ => ?_)
    exact fun wrong => absurd wrong (by simp [workerResult])
  · refine Program.Meets.bind (meets_recordSnapshotOf hereAsked) ?_
    intro path recorded ⟨_, hereRecorded, stored⟩
    refine Program.meets_bind.mpr (meets_issue hereRecorded rfl trivial ?_)
    intro _ _ succeeded outcome finished grow hereSucceeded
    have before := hereSucceeded.reached rank_of_queued
    have reached : Reached library promises 2 succeeded call.runId :=
      { queued := fun _ => before.queued (by decide)
        snapshot := fun _ => ⟨stored.mono grow, jobSucceeded_of_succeed outcome finished⟩
        parser := by omega
        batch := by omega }
    refine Program.meets_bind.mpr (meets_save hereSucceeded (by decide) rank_of_snapshotRecorded
      rfl reached (fun wrong => absurd wrong (by decide)) ?_)
    intro later _ hereLater
    split
    · exact fun wrong => absurd wrong (by simp [workerResult])
    · exact meets_runSnapshotRecorded hereLater

theorem meets_runQueued {call : RunCall} {current : Datetime} {recovery : RecoveryCounts}
    (here : Here library promises call.runId (some "queued") world) :
    WorkerMeets library root promises call.runId (Reported library call.runId)
      (runQueued library root call current recovery) world := by
  refine Program.meets_bind.mpr (meets_issue here rfl ⟨rfl, here.checkpoint⟩ ?_)
  intro _ lease leased _ _ _ hereLeased
  cases lease with
  | none => exact fun wrong => absurd wrong (by simp [workerResult])
  | some lease =>
      dsimp only
      split
      · exact fun wrong => absurd wrong (by simp [workerResult])
      · exact meets_runLeased hereLeased

theorem meets_runFrom {call : RunCall} {current : Datetime} {recovery : RecoveryCounts}
    (here : Here library promises call.runId checkpoint world)
    (run : RunExists world call.runId) (partition : PartitionActive library world call.runId) :
    WorkerMeets library root promises call.runId (Reported library call.runId)
      (runFrom library root call current recovery checkpoint) world := by
  cases checkpoint with
  | none =>
      refine Program.Meets.bind (meets_discoverAndQueue here run partition) ?_
      intro _ queued ⟨_, hereQueued⟩
      split
      · exact fun wrong => absurd wrong (by simp [workerResult])
      · exact meets_runQueued hereQueued
  | some value =>
      simp only [runFrom]
      split_ifs with queued snapshot parser batch
      · exact meets_runQueued (queued ▸ here)
      · exact meets_runSnapshotRecorded (snapshot ▸ here)
      · exact meets_runParserCompleted (parser ▸ here)
      · exact meets_runBatchRecorded (batch ▸ here)
      · have known := (here.durable.checkpoints _ _ here.checkpoint).1
        have isCompleted : value = "completed" := by
          simpa [checkpoints, queued, snapshot, parser, batch] using known
        exact fun _ => isCompleted ▸ here.checkpoint

theorem meets_currentTime {now : Option Datetime}
    (here : Here library promises runId checkpoint world) :
    WorkerMeets library root promises runId
      (fun _ later => Here library promises runId checkpoint later) (currentTime now) world := by
  cases now with
  | some value => exact here
  | none =>
      refine Program.meets_bind.mpr (meets_issue here rfl trivial fun _ _ _ _ _ _ hereLater => ?_)
      exact hereLater

/-- A call of `run` respects its terms from every world of the invariant. -/
theorem run_meets {call : RunCall} (durable : Durable library promises world) :
    WorkerMeets library root promises call.runId (Reported library call.runId)
      (run library root call) world := by
  have here : Here library promises call.runId (checkpointOf library world call.runId) world :=
    ⟨durable, rfl⟩
  refine Program.meets_bind.mpr (meets_require fun _ _ => ?_)
  refine Program.meets_bind.mpr (meets_issue here rfl trivial fun _ _ _ _ _ _ here => ?_)
  refine Program.meets_bind.mpr (meets_require fun _ _ => ?_)
  refine Program.meets_bind.mpr (meets_issue here rfl trivial fun _ _ _ _ _ _ here => ?_)
  refine Program.meets_bind.mpr (meets_require fun _ _ => ?_)
  refine Program.Meets.bind (meets_currentTime here) fun current _ here => ?_
  refine Program.meets_bind.mpr (meets_issue here rfl trivial fun _ _ _ _ _ _ here => ?_)
  refine Program.meets_bind.mpr (meets_issue here rfl trivial fun _ _ _ _ _ _ here => ?_)
  refine Program.meets_bind.mpr (meets_issue here rfl trivial fun _ recovery _ _ _ _ here => ?_)
  refine Program.Meets.bind (meets_ensureRun here) ?_
  intro _ opened ⟨_, here, exists_, active⟩
  refine Program.meets_bind.mpr (meets_issue here rfl trivial ?_)
  intro _ loaded later outcome _ grow hereLater
  have isLoaded : checkpointOf library later call.runId = loaded := by
    cases outcome
    rfl
  exact meets_runFrom ⟨hereLater.durable, isLoaded⟩ (exists_.mono grow) (active.mono grow)

end Program

end ScraperProject.Orchestration
