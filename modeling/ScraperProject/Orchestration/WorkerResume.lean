import ScraperProject.Orchestration.WorkerSingleRun

/-!
Contract: a further call resumes a run.

Owns when a call has nothing in its way, in which states of a single run it can
complete, and the proof that it does: each stage accepts what an earlier call,
cut off anywhere, has left behind.

Does not own the states in which a call cannot complete.
-/

namespace ScraperProject.Orchestration

open Foundation
open Database
open Contracts

section Resume

variable (library : StandardLibrary) (root : String) (listing : List (String × Json))
  (runId : String)

/-! ## A call without disturbance -/

/-- The identifier is new to every table that stores fresh ones. -/
structure FreshIdentifier (identifier : String) (db : Db) : Prop where
  observations : ∀ row ∈ db.observations, row.observationId ≠ identifier
  attempts : ∀ attempt ∈ db.attempts, attempt.jobAttemptId ≠ identifier
  parserRuns : ∀ row ∈ db.parserRuns, row.parserRunId ≠ identifier

/-- A start at UTC, with a lease that ends in range, and a full second after every
time that a job on record stores. -/
structure StartsAfter (leaseSeconds : Int) (current : Datetime) (world : World) : Prop where
  utc : current.offset = 0
  expiry : ∃ expires, current.addSeconds leaseSeconds = .ok expires
  later : ∀ row ∈ world.db.jobs, ∀ stamp : Instant,
    row.scheduledAt = stamp.text ∨ row.leaseExpiresAt = some stamp.text →
      stamp.micros + 1000000 ≤ current.wall

/-- The arguments of a further call for the run, which stops nowhere. -/
structure FurtherCall (call : RunCall) (world : World) : Prop where
  own : call.runId = runId
  stop : call.stopAfter = none
  fixture : requireLocalFixture library call.fixtureUrl = .ok ()
  minimum : 0 ≤ call.minimumFreeBytes
  lease : 1 ≤ call.leaseSeconds
  now : ∀ current, call.now = some current → StartsAfter call.leaseSeconds current world

/-- Nothing outside disturbs the command: the fixture serves the listing, the disk
has room, no shutdown is requested, and a fresh identifier is new. -/
structure Undisturbed (call : RunCall) (environment : Environment) (command : Command)
    (world : World) : Prop where
  served : environment.response = .ok (200, .ok (.obj listing))
  whole : environment.torn = none
  space : call.minimumFreeBytes ≤ environment.freeBytes
  running : environment.shutdown = false
  fresh : FreshIdentifier environment.identifier world.db
  clock : command = .readClock →
    StartsAfter call.leaseSeconds (.ofInstant environment.clock) world

/-! ## States that can be completed -/

/-- The run is open. -/
def RunRunning (world : World) : Prop :=
  ∃ row ∈ world.db.runs, row.crawlRunId = runId ∧ row.state = .running

/-- The run's job has succeeded. -/
def OwnJobSucceeded (world : World) : Prop :=
  ∃ row ∈ world.db.jobs, row.crawlRunId = runId ∧ row.state = .succeeded

/-- The job has not succeeded behind the checkpoint that records it, and the
partition is not completed in a run that is still open. -/
structure Resumable (world : World) : Prop where
  job : OwnJobSucceeded runId world →
    2 ≤ checkpointRank (checkpointOf library world runId)
  partition : checkpointRank (checkpointOf library world runId) ≤ 4 → RunRunning runId world →
    ¬ PartitionCompleted library world runId

/-- The invariants of a history of one run. -/
structure Kept (world : World) : Prop where
  durable : Durable library (servesOnly listing) world
  single : SingleRun library root listing runId world

/-- What an undisturbed call relies on, and how it may raise. -/
def resumeTerms (call : RunCall) (raises : PyError → World → Prop) :
    Program.Terms Command PyError World Environment where
  permits environment command world := Undisturbed listing call environment command world ∧
    Kept library root listing runId (performCommand library environment command world).2
  guard _ _ := True
  raises := raises

/-- The program never raises, and returns as promised. -/
abbrev Completes (call : RunCall) {α : Type} (returns : α → World → Prop) (program : Worker α)
    (world : World) : Prop :=
  program.Meets (performCommand library)
    (resumeTerms library root listing runId call fun _ _ => False) returns world

/-- A call with its run at hand. Before the last checkpoint a running run has its
partition in progress. -/
structure Opened (checkpoint : Option String) (world : World) : Prop where
  kept : Kept library root listing runId world
  stored : checkpointOf library world runId = checkpoint
  run : RunExists world runId
  partition : PartitionActive library world runId
  running : checkpointRank checkpoint ≤ 4 → RunRunning runId world →
    ∃ row ∈ world.db.partitions,
      row.partitionId = partitionId library runId ∧ row.state = .processing

variable {library root listing runId} {call : RunCall} {world : World}
  {checkpoint : Option String}

/-! ## Rules -/

/-- A command that succeeds in every undisturbed environment. -/
theorem completes_issue {command : Command} {returns : Reply command → World → Prop}
    (succeeds : ∀ environment, Undisturbed listing call environment command world →
      ∃ reply, (performCommand library environment command world).1 = .ok reply)
    (continues : ∀ environment reply later,
      performCommand library environment command world = (.ok reply, later) →
        Undisturbed listing call environment command world →
          Kept library root listing runId later → returns reply later) :
    Completes library root listing runId call returns (issue command) world := by
  refine Program.Meets.call trivial ?_ ?_
  · intro environment raised later permitted outcome
    obtain ⟨reply, isOk⟩ := succeeds environment permitted.1
    rw [outcome] at isOk
    cases isOk
  · intro environment reply later permitted outcome
    have kept := permitted.2
    rw [outcome] at kept
    exact continues environment reply later outcome permitted.1 kept

/-- A command that only reads. -/
theorem completes_read {command : Command} {returns : Reply command → World → Prop}
    (reads : ∀ environment, Undisturbed listing call environment command world →
      ∃ reply, performCommand library environment command world = (.ok reply, world) ∧
        returns reply world) :
    Completes library root listing runId call returns (issue command) world := by
  refine completes_issue (fun environment undisturbed => ?_) ?_
  · obtain ⟨reply, outcome, _⟩ := reads environment undisturbed
    exact ⟨reply, congrArg Prod.fst outcome⟩
  · intro environment reply later outcome undisturbed _
    obtain ⟨other, same, returned⟩ := reads environment undisturbed
    obtain ⟨isReply, rfl⟩ := Prod.mk.inj (outcome.symm.trans same)
    cases isReply
    exact returned

/-- A pure step that succeeds. -/
theorem completes_require {α : Type} {computation : Except PyError α} {value : α}
    {returns : α → World → Prop} (succeeds : computation = .ok value)
    (continues : returns value world) :
    Completes library root listing runId call returns (require computation) world := by
  subst succeeds
  exact continues

def Command.writesCrawl : Command → Bool
  | .createRun _ _ _ => true
  | .startRun _ => true
  | .completeRun _ => true
  | .createPartition _ _ _ _ => true
  | .startPartition _ => true
  | .completePartition _ => true
  | _ => false

theorem Change.keeps_crawl {later : World} {command : Command}
    (change : Change world command later) (aside : command.writesCrawl = false) :
    later.db.runs = world.db.runs ∧ later.db.partitions = world.db.partitions := by
  cases change with
  | queue _ effect =>
      rw [effect.frame]
      exact ⟨rfl, rfl⟩
  | runCreated | runStarted | runCompleted => cases aside
  | partitionCreated | partitionStarted | partitionCompleted => cases aside
  | _ => exact ⟨rfl, rfl⟩

/-- An opened run stays so while its rows are left alone. -/
theorem Opened.keeps {later : World} {command : Command} {next : Option String}
    (opened : Opened library root listing runId checkpoint world)
    (change : Change world command later) (aside : command.writesCrawl = false)
    (kept : Kept library root listing runId later)
    (saved : checkpointOf library later runId = next)
    (advances : checkpointRank checkpoint ≤ checkpointRank next) :
    Opened library root listing runId next later where
  kept := kept
  stored := saved
  run := opened.run.mono change.grow
  partition := opened.partition.mono change.grow
  running bound := by
    obtain ⟨runs, partitions⟩ := change.keeps_crawl aside
    rw [RunRunning, runs, partitions]
    exact opened.running (advances.trans bound)

/-- A command of an opened run that touches neither its rows nor its checkpoint. -/
theorem opened_issue {command : Command} {returns : Reply command → World → Prop}
    (opened : Opened library root listing runId checkpoint world)
    (quiet : command.saves = false) (aside : command.writesCrawl = false)
    (succeeds : ∀ environment, Undisturbed listing call environment command world →
      ∃ reply, (performCommand library environment command world).1 = .ok reply)
    (continues : ∀ environment reply later,
      performCommand library environment command world = (.ok reply, later) →
        Opened library root listing runId checkpoint later → returns reply later) :
    Completes library root listing runId call returns (issue command) world := by
  refine completes_issue succeeds fun environment reply later outcome _ kept => ?_
  have change := performCommand_change outcome
  exact continues environment reply later outcome
    (opened.keeps change aside kept ((change.keeps_checkpoint quiet _ _).trans opened.stored)
      (Nat.le_refl _))

/-- A save of a checkpoint of an opened run. -/
theorem opened_save {value : String} {returns : Unit → World → Prop}
    (opened : Opened library root listing runId checkpoint world)
    (advances : checkpointRank checkpoint ≤ checkpointRank (some value))
    (continues : ∀ later, later.db.jobs = world.db.jobs →
      Opened library root listing runId (some value) later → returns () later) :
    Completes library root listing runId call returns
      (issue (.saveCheckpoint runId (partitionId library runId) value)) world := by
  refine completes_issue (fun environment _ => ⟨(), ?_⟩) ?_
  · obtain ⟨row, member, named, _⟩ := opened.partition
    exact saveCheckpoint_succeeds opened.run ⟨row, member, named⟩
  · intro environment reply later outcome _ kept
    have change := performCommand_change outcome
    have jobs := @Change.jobs_of_none _ _ environment _ change rfl
    refine continues later jobs (opened.keeps change rfl kept ?_ advances)
    simp only [performCommand] at outcome
    obtain ⟨next, call, rfl⟩ := onDb_eq.mp outcome
    rcases saveCheckpoint_cases call with ⟨_, isError, _⟩ | ⟨_, _, rfl, saved⟩
    · cases isError
    · exact (saved _ _).trans (if_pos ⟨rfl, rfl⟩)

/-! ## Completion -/

/-- A command on files leaves an opened run as it is. -/
theorem Opened.of_db {later : World}
    (opened : Opened library root listing runId checkpoint world) (same : later.db = world.db)
    (kept : Kept library root listing runId later) :
    Opened library root listing runId checkpoint later := by
  obtain ⟨db, files⟩ := later
  obtain ⟨other, otherFiles⟩ := world
  cases same
  exact ⟨kept, opened.stored, opened.run, opened.partition, opened.running⟩

theorem completes_completeRunning {run : Option RunRow}
    (opened : Opened library root listing runId checkpoint world)
    (bound : checkpointRank checkpoint ≤ 4)
    (found : run = world.db.runs.find? fun row => row.crawlRunId = runId) :
    Completes library root listing runId call
      (fun _ later => RunExists later runId ∧ PartitionActive library later runId)
      (completeRunning library runId run) world := by
  cases run with
  | none => exact ⟨opened.run, opened.partition⟩
  | some row =>
      obtain ⟨member, selected⟩ := Table.find?_some found.symm
      have named : row.crawlRunId = runId := by simpa using selected
      by_cases running : row.state = .running
      · simp only [completeRunning, if_pos running]
        refine Program.meets_bind.mpr (completes_issue (fun environment _ => ⟨(), ?_⟩) ?_)
        · obtain ⟨partition, isPartition, key⟩ := opened.running bound ⟨row, member, named, running⟩
          exact (transitionPartition_cases (Prod.mk.eta (p := completePartition
            (partitionId library runId) environment.clock world.db)).symm).1.mpr
              ⟨partition, isPartition, key⟩
        · intro environment _ closed outcome _ _
          have growClosed := (performCommand_change outcome).grow
          have runs : closed.db.runs = world.db.runs := by
            simp only [performCommand] at outcome
            obtain ⟨next, call, rfl⟩ := onDb_eq.mp outcome
            obtain ⟨_, partitions, rfl, _⟩ := transitionPartition_cases call
            rfl
          refine completes_issue (fun environment _ => ⟨(), ?_⟩) ?_
          · refine (transitionRun_cases (Prod.mk.eta (p := completeRun runId environment.clock
              closed.db)).symm).1.mpr ⟨row, ?_, named, running⟩
            rw [runs]
            exact member
          · intro _ _ later outcome _ _
            have grow := growClosed.trans (performCommand_change outcome).grow
            exact ⟨opened.run.mono grow, opened.partition.mono grow⟩
      · simp only [completeRunning, if_neg running]
        exact ⟨opened.run, opened.partition⟩

theorem completes_runBatchRecorded {recovery : RecoveryCounts}
    (opened : Opened library root listing runId (some "batch-recorded") world) :
    Completes library root listing runId call (fun result _ => result.state = "completed")
      (runBatchRecorded library root runId recovery) world := by
  refine Program.meets_bind.mpr (completes_read fun _ _ => ⟨_, rfl, ?_⟩)
  refine Program.Meets.bind (completes_completeRunning opened (by decide) rfl) ?_
  rintro _ closed ⟨run, row, member, named, _⟩
  refine Program.meets_bind.mpr (completes_issue (fun _ _ => ⟨(), ?_⟩) fun _ _ _ _ _ _ => rfl)
  exact saveCheckpoint_succeeds run ⟨row, member, named⟩

/-! ## The dataset batch -/

theorem completes_storeRecords (kept : Kept library root listing runId world) :
    Completes library root listing runId call
      (fun _ later => later.db = world.db ∧ Kept library root listing runId later)
      (storeRecords (recordsPath library root runId) (batchRecords library runId)) world := by
  refine Program.meets_bind.mpr (completes_read fun _ _ => ⟨_, rfl, ?_⟩)
  cases stored : world.files (recordsPath library root runId) with
  | some content =>
      have same := kept.single.recordsFile content stored
      refine Program.meets_bind.mpr (completes_read fun _ _ => ⟨content, ?_, ?_⟩)
      · simp only [performCommand, stored]
      · simp only [same, ne_eq, not_true_eq_false, if_false]
        exact ⟨rfl, kept⟩
  | none =>
      refine completes_issue (fun environment undisturbed => ⟨(), ?_⟩) ?_
      · simp only [performCommand, World.createExclusive, stored, undisturbed.whole]
      · intro environment _ later outcome undisturbed keptLater
        simp only [performCommand, World.createExclusive, stored, undisturbed.whole] at outcome
        cases outcome
        exact ⟨rfl, keptLater⟩

/-- A time at UTC has the text of its instant. -/
theorem timestamp_of_utc {current : Datetime} (utc : current.offset = 0) :
    ∃ start : Instant, start.micros = current.wall ∧ timestamp current = .ok start.text := by
  refine ⟨⟨current.wall, current.wallInRange⟩, rfl, ?_⟩
  refine timestamp_ok_iff.mpr ⟨_, Datetime.astimezoneUtc_ok_iff.mpr ?_, rfl⟩
  simp [Datetime.instant, utc]

theorem completes_recordBatchOf {current : Datetime} (utc : current.offset = 0)
    (opened : Opened library root listing runId checkpoint world) :
    Completes library root listing runId call
      (fun _ later => Opened library root listing runId checkpoint later)
      (recordBatchOf library root runId current) world := by
  cases stored : world.db.batches.find? fun row => row.batchId = batchId library runId with
  | some row =>
      have sound := opened.kept.durable.batches row (Table.find?_some stored).1
      obtain ⟨manifest, _, decoded, _⟩ := sound.file
      refine Program.meets_bind.mpr (completes_read fun _ _ => ⟨some manifest, ?_, opened⟩)
      simp only [performCommand, World.onDb, getBatch, stored, decoded, Except.map]
  | none =>
      have empty : ∀ row, row ∉ world.db.batches := by
        intro row member
        exact Table.find?_none.mp stored row member
          (by simpa using opened.kept.single.batches row member)
      refine Program.meets_bind.mpr (completes_read fun _ _ => ⟨none, ?_, ?_⟩)
      · simp only [performCommand, World.onDb, getBatch, stored]
      · refine Program.Meets.bind (completes_storeRecords opened.kept) ?_
        rintro _ filed ⟨same, keptFiled⟩
        refine Program.meets_bind.mpr (completes_require (batchManifest_valid utc) ?_)
        refine opened_issue (opened.of_db same keptFiled) rfl rfl (fun _ _ => ⟨(), ?_⟩)
          fun _ _ later _ openedLater => openedLater
        obtain ⟨start, _, printed⟩ := timestamp_of_utc utc
        refine @recordBatch_succeeds (batchManifest library root runId current) start.text _
          printed fun row member => absurd member ?_
        rw [same]
        exact empty row

theorem completes_runParserCompleted {current : Datetime} {recovery : RecoveryCounts}
    (utc : current.offset = 0)
    (opened : Opened library root listing runId (some "parser-completed") world) :
    Completes library root listing runId call (fun result _ => result.state = "completed")
      (runParserCompleted library root runId current recovery) world := by
  refine Program.Meets.bind (completes_recordBatchOf utc opened) ?_
  intro _ recorded openedRecorded
  refine Program.meets_bind.mpr (opened_save openedRecorded (by decide) fun later _ openedLater => ?_)
  exact completes_runBatchRecorded openedLater

/-! ## The parser run -/

theorem completes_runSnapshotRecorded {current : Datetime} {recovery : RecoveryCounts}
    (utc : current.offset = 0)
    (opened : Opened library root listing runId (some "snapshot-recorded") world) :
    Completes library root listing runId call (fun result _ => result.state = "completed")
      (runSnapshotRecorded library root runId current recovery) world := by
  have reached := opened.kept.durable.reached runId
  rw [opened.stored, rank_of_snapshotRecorded] at reached
  obtain ⟨snapshot, member, named, _⟩ := (reached.snapshot (Nat.le_refl 2)).1
  refine Program.meets_bind.mpr (opened_issue opened rfl rfl
    (fun environment undisturbed => ⟨environment.identifier, ?_⟩) ?_)
  · exact startParserRun_succeeds undisturbed.fresh.parserRuns ⟨snapshot, member, named⟩
  · intro environment parserRunId started outcome openedStarted
    have isStarted : ∃ row ∈ started.db.parserRuns, row.parserRunId = parserRunId ∧
        row.state = .running := by
      simp only [performCommand] at outcome
      obtain ⟨next, call, rfl⟩ := onDb_eq.mp outcome
      rcases startParserRun_cases call with ⟨_, isError, _⟩ | ⟨isReply, parserRuns, rfl, rows⟩
      · cases isError
      · cases isReply
        refine ⟨startedParserRun (artifactId library runId) "synthetic_placeholder" "0.1"
          environment.identifier environment.clock, ?_, rfl, rfl⟩
        rw [← Table.mem_rows, rows]
        exact List.mem_append_right _ List.mem_cons_self
    refine Program.meets_bind.mpr (opened_issue openedStarted rfl rfl
      (fun environment _ => ⟨(), ?_⟩) fun _ _ parsed _ openedParsed => ?_)
    · exact (transitionParserRun_cases (Prod.mk.eta (p := completeParserRun parserRunId
        environment.clock started.db)).symm).1.mpr isStarted
    · refine Program.meets_bind.mpr (opened_save openedParsed (by decide) fun later _ openedLater => ?_)
      exact completes_runParserCompleted utc openedLater

/-! ## The snapshot -/

/-- The fixture serves the listing. -/
theorem completes_fetchFixture {returns : List (String × Json) → World → Prop}
    (valid : ValidListing library listing)
    (fixture : requireLocalFixture library call.fixtureUrl = .ok ())
    (continues : returns listing world) :
    Completes library root listing runId call returns
      (fetchFixture library call.fixtureUrl) world := by
  have served : (fixtureUnavailable ((.ok (200, .ok (.obj listing)) :
      Except PyError (Int × Except PyError Json)) >>= readResponse) >>= requireSourcePayload) =
        .ok listing := by
    simp [readResponse, fixtureUnavailable, requireSourcePayload, valid.source, bind, Except.bind]
  refine Program.meets_bind.mpr (completes_require fixture ?_)
  refine Program.meets_bind.mpr (Program.Meets.attempt trivial ?_)
  intro environment result later permitted outcome
  have isServed : environment.response = result ∧ world = later := Prod.mk.inj outcome
  obtain ⟨rfl, rfl⟩ := isServed
  rw [permitted.1.served]
  exact completes_require served continues

theorem completes_storeSnapshot (kept : Kept library root listing runId world) :
    Completes library root listing runId call
      (fun _ later => later.db = world.db ∧ Kept library root listing runId later)
      (storeSnapshot library (snapshotPath library root runId)
        (canonicalJsonBytes (.obj listing))) world := by
  refine Program.meets_bind.mpr (completes_read fun _ _ => ⟨_, rfl, ?_⟩)
  cases stored : world.files (snapshotPath library root runId) with
  | some content =>
      have same := kept.single.snapshotFile content stored
      refine Program.meets_bind.mpr (completes_read fun _ _ => ⟨content, ?_, ?_⟩)
      · simp only [performCommand, stored]
      · simp only [same, ne_eq, not_true_eq_false, if_false]
        exact ⟨rfl, kept⟩
  | none =>
      refine Program.meets_bind.mpr (Program.Meets.attempt trivial ?_)
      intro environment result later permitted outcome
      have keptLater := permitted.2
      rw [outcome] at keptLater
      simp only [performCommand, World.createExclusive, stored, permitted.1.whole] at outcome
      cases outcome
      exact ⟨rfl, keptLater⟩

theorem completes_recordSnapshotOf {current : Datetime} {leasedJobId : String}
    (valid : ValidListing library listing) (named : Text.isBlank runId = false)
    (fixture : requireLocalFixture library call.fixtureUrl = .ok ()) (utc : current.offset = 0)
    (opened : Opened library root listing runId checkpoint world)
    (job : ∃ row ∈ world.db.jobs, row.jobId = leasedJobId) :
    Completes library root listing runId call
      (fun _ later => later.db.jobs = world.db.jobs ∧
        Opened library root listing runId checkpoint later)
      (recordSnapshotOf library root call.fixtureUrl runId leasedJobId current) world := by
  refine Program.meets_bind.mpr (completes_fetchFixture valid fixture ?_)
  refine Program.Meets.bind (completes_storeSnapshot opened.kept) ?_
  rintro _ filed ⟨same, keptFiled⟩
  have openedFiled := opened.of_db same keptFiled
  obtain ⟨reloaded, isReloaded⟩ : ∃ reloaded, reloadFixture listing = .ok reloaded := by
    rw [reloadFixture, Json.loads_dumps, Json.sortKeys]
    exact ⟨_, rfl⟩
  refine Program.meets_bind.mpr (completes_require isReloaded ?_)
  refine Program.meets_bind.mpr (completes_read fun _ _ => ⟨_, rfl, ?_⟩)
  cases found : filed.db.snapshots.find? fun row => row.artifactId = artifactId library runId with
  | some row => exact ⟨congrArg Db.jobs same, openedFiled⟩
  | none =>
      obtain ⟨row, member, sameId⟩ := job
      have leasedNamed : Text.isBlank leasedJobId = false := by
        rw [← sameId, (opened.kept.durable.jobs row member).1]
        exact library.uuid5_notBlank _
      obtain ⟨artifact, made, fetched, status⟩ := @ValidListing.artifact library root runId current
        listing valid leasedJobId (library.sha256 (canonicalJsonBytes (.obj listing))) reloaded
          named leasedNamed utc isReloaded
      refine Program.meets_bind.mpr (Program.meets_bind.mpr (completes_require made ?_))
      refine opened_issue openedFiled rfl rfl (fun _ _ => ⟨(), ?_⟩) ?_
      · obtain ⟨start, _, printed⟩ := timestamp_of_utc utc
        obtain ⟨isArtifact, isJob, isRun, _⟩ := rawFetchArtifact_ok made
        refine @recordSnapshot_succeeds artifact start.text _ (fetched ▸ printed) ?_ ?_ ?_ ?_
        · intro value isValue
          rw [status] at isValue
          cases isValue
          rfl
        · intro other otherMember otherNamed
          exact Table.find?_none.mp found other otherMember
            (by simpa using otherNamed.trans isArtifact)
        · rw [same]
          exact ⟨row, member, sameId.trans isJob.symm⟩
        · rw [isRun]
          exact openedFiled.run
      · intro environment _ later outcome openedLater
        have jobs := @Change.jobs_of_none _ _ environment _ (performCommand_change outcome) rfl
        exact ⟨jobs.trans (congrArg Db.jobs same), openedLater⟩

/-! ## The lease -/

theorem completes_stopRequested (stop : call.stopAfter = none) :
    Completes library root listing runId call (fun stop later => stop = false ∧ later = world)
      (stopRequested call) world := by
  have noPoint : call.stopAfter ≠ some "graceful_shutdown" := by simp [stop]
  rw [stopRequested, if_neg noPoint]
  split
  · refine completes_read fun environment undisturbed => ⟨false, ?_, rfl, rfl⟩
    simp only [performCommand, undisturbed.running]
  · exact ⟨rfl, rfl⟩

theorem completes_runLeased {current : Datetime} {recovery : RecoveryCounts}
    {leasedJobId : String} (valid : ValidListing library listing)
    (named : Text.isBlank call.runId = false) (stop : call.stopAfter = none)
    (fixture : requireLocalFixture library call.fixtureUrl = .ok ()) (utc : current.offset = 0)
    (opened : Opened library root listing call.runId (some "queued") world)
    (held : ∃ row, Held world.db leasedJobId workerName row) :
    Completes library root listing call.runId call (fun result _ => result.state = "completed")
      (runLeased library root call current recovery leasedJobId) world := by
  obtain ⟨row, held⟩ := held
  refine Program.Meets.bind (completes_stopRequested stop) ?_
  rintro _ _ ⟨rfl, rfl⟩
  rw [if_neg Bool.false_ne_true]
  refine Program.Meets.bind (completes_recordSnapshotOf valid named fixture utc opened
    ⟨row, held.1, held.2.1⟩) ?_
  rintro path recorded ⟨jobs, openedRecorded⟩
  refine Program.meets_bind.mpr (opened_issue openedRecorded rfl rfl (fun _ _ => ⟨(), ?_⟩) ?_)
  · obtain ⟨start, _, printed⟩ := timestamp_of_utc utc
    have stillHeld : Held recorded.db leasedJobId workerName row := ⟨jobs ▸ held.1, held.2⟩
    exact congrArg (Except.map fun _ => ()) (finished_of_held true none stillHeld printed).1
  · intro _ _ succeeded _ openedSucceeded
    refine Program.meets_bind.mpr (opened_save openedSucceeded (by decide) fun later _ openedLater => ?_)
    have noPoint : call.stopAfter ≠ some "snapshot" := by simp [stop]
    rw [if_neg noPoint]
    exact completes_runSnapshotRecorded utc openedLater

theorem completes_runQueued {current : Datetime} {recovery : RecoveryCounts} {start : Instant}
    (valid : ValidListing library listing) (named : Text.isBlank call.runId = false)
    {first : World} (further : FurtherCall library call.runId call first)
    (utc : current.offset = 0)
    (expiry : ∃ expires, current.addSeconds call.leaseSeconds = .ok expires)
    (clock : timestamp current = .ok start.text)
    (opened : Opened library root listing call.runId (some "queued") world)
    (due : ∃ row ∈ world.db.jobs, Eligible start.text row) :
    Completes library root listing call.runId call (fun result _ => result.state = "completed")
      (runQueued library root call current recovery) world := by
  obtain ⟨expires, added⟩ := expiry
  have expiresUtc : expires.offset = 0 := by
    unfold Datetime.addSeconds at added
    split at added <;> cases added
    exact utc
  obtain ⟨ending, _, printed⟩ := timestamp_of_utc expiresUtc
  refine Program.meets_bind.mpr (opened_issue opened rfl rfl ?_ ?_)
  · intro environment undisturbed
    exact leaseNext_succeeds further.lease clock added printed fun row member =>
      openAttempt_fits opened.kept.single.queue undisturbed.fresh.attempts member
  · intro environment lease leased outcome openedLeased
    simp only [performCommand] at outcome
    obtain ⟨next, leasing, rfl⟩ := onDb_eq.mp outcome
    rcases leaseNext_cases leasing with
      ⟨_, isError, _⟩ | ⟨_, _, text, isText, absent⟩ | ⟨row, text, ends, effect, isLease⟩
    · cases isError
    · obtain ⟨row, member, eligible⟩ := due
      have same : text = start.text := Except.ok.inj (isText.symm.trans clock)
      subst same
      exact absurd eligible (absent row member)
    · cases isLease
      have noPoint : call.stopAfter ≠ some "lease" := by simp [further.stop]
      dsimp only
      rw [if_neg noPoint]
      refine completes_runLeased valid named further.stop further.fixture utc openedLeased
        ⟨leasedRow row workerName ends text, ?_, rfl, rfl, rfl⟩
      rw [← Table.mem_rows, effect.jobs]
      exact List.mem_map.mpr ⟨row, effect.member, if_pos rfl⟩

/-! ## Discovery -/

/-- A job with the identifier of the run's is the run's, of the listing. -/
theorem hasKey_of_own {row : JobRow} {current : Datetime} {listingKey listingUrl : String}
    (durable : Durable library (servesOnly listing) world) (member : row ∈ world.db.jobs)
    (own : OwnJob listing runId row)
    (key : text listing "source_listing_key" = .ok listingKey) :
    HasKey row (detailFetchJob library runId current listingKey listingUrl) :=
  ⟨own.run, (durable.jobs row member).2, Except.ok.inj (own.key.symm.trans key), own.reason⟩

/-- After the job is queued there is one that is due. -/
theorem due_of_createIdempotent {current : Datetime} {start createdAt updatedAt : Instant}
    {listingKey listingUrl : String} {db next : Db} {reply : String}
    (created : createIdempotent (detailFetchJob library runId current listingKey listingUrl)
      createdAt updatedAt db = (.ok reply, next))
    (clock : timestamp current = .ok start.text)
    (due : ∀ row ∈ db.jobs, Eligible start.text row) :
    ∃ row ∈ next.jobs, Eligible start.text row := by
  rcases createIdempotent_cases created with
    ⟨_, isError, _⟩ | ⟨row, member, _, _, frame⟩ | ⟨row, made, _⟩
  · cases isError
  · refine ⟨row, ?_, due row member⟩
    rw [frame]
    exact member
  · refine ⟨row, ?_, made.fresh.1, ?_, ?_⟩
    · rw [← Table.mem_rows, made.jobs]
      exact List.mem_append_right _ List.mem_cons_self
    · have same : row.scheduledAt = start.text :=
        Except.ok.inj (made.scheduled.symm.trans clock)
      rw [same]
      exact fun before => List.lt_irrefl _ before
    · rw [made.fresh.2.1, made.bounds.2]
      exact Int.ofNat_lt.mpr Nat.zero_lt_two

theorem completes_discoverAndQueue {current : Datetime} {start : Instant}
    (valid : ValidListing library listing) (named : Text.isBlank runId = false)
    (fixture : requireLocalFixture library call.fixtureUrl = .ok ()) (utc : current.offset = 0)
    (clock : timestamp current = .ok start.text)
    (opened : Opened library root listing runId none world)
    (due : ∀ row ∈ world.db.jobs, Eligible start.text row) :
    Completes library root listing runId call
      (fun _ later => Opened library root listing runId (some "queued") later ∧
        ∃ row ∈ later.db.jobs, Eligible start.text row)
      (discoverAndQueue library call.fixtureUrl runId current) world := by
  obtain ⟨listingKey, key, _⟩ := valid.key
  obtain ⟨listingUrl, url, _⟩ := valid.url
  obtain ⟨observation, made, observedAt⟩ := valid.observation named utc key url
  refine Program.meets_bind.mpr (completes_fetchFixture valid fixture ?_)
  refine Program.meets_bind.mpr (completes_require key ?_)
  refine Program.meets_bind.mpr (completes_require url ?_)
  refine Program.meets_bind.mpr (completes_require made ?_)
  refine Program.meets_bind.mpr (opened_issue opened rfl rfl
    (fun environment undisturbed => ⟨environment.identifier, ?_⟩) ?_)
  · refine @appendObservation_succeeds observation _ start.text _ (observedAt ▸ clock)
      undisturbed.fresh.observations ?_
    rw [(discoveryObservation_ok made).1]
    exact opened.run
  · intro environment _ observed outcome openedObserved
    have jobs := @Change.jobs_of_none _ _ environment _ (performCommand_change outcome) rfl
    refine Program.meets_bind.mpr (completes_require (valid.job named utc key url) ?_)
    refine Program.meets_bind.mpr (opened_issue openedObserved rfl rfl ?_ ?_)
    · intro environment _
      refine createIdempotent_succeeds clock ⟨rfl, rfl⟩ (show (1 : Int) ≤ 2 by decide) ?_
        openedObserved.run
      intro row member _
      exact hasKey_of_own openedObserved.kept.durable member
        (openedObserved.kept.single.jobs row member) key
    · intro environment reply queued outcome openedQueued
      refine opened_save openedQueued (by decide) fun later sameJobs openedLater => ⟨openedLater, ?_⟩
      simp only [performCommand] at outcome
      obtain ⟨next, created, rfl⟩ := onDb_eq.mp outcome
      rw [sameJobs]
      exact due_of_createIdempotent created clock (jobs ▸ due)

/-! ## Recovery -/

variable (library root listing runId) in
/-- After recovery each job has succeeded or is due. -/
structure Ready (start : Instant) (world : World) : Prop where
  kept : Kept library root listing runId world
  job : ∀ row ∈ world.db.jobs, row.state = .succeeded ∨ Eligible start.text row
  resumable : Resumable library runId world

/-- What a full second is enough for. -/
theorem textBefore_of_later {leaseSeconds : Int} {current : Datetime} {start stamp : Instant}
    {row : JobRow} (starts : StartsAfter leaseSeconds current world)
    (wall : start.micros = current.wall) (member : row ∈ world.db.jobs)
    (stored : row.scheduledAt = stamp.text ∨ row.leaseExpiresAt = some stamp.text) :
    TextBefore stamp.text start.text := by
  apply Instant.text_before_of_second_apart
  rw [wall]
  exact starts.later row member stamp stored

/-- A job that has succeeded, or has an attempt left, is due after recovery. -/
theorem due_of_recovered {leaseSeconds : Int} {current : Datetime} {start : Instant}
    {row : JobRow} (single : SingleRun library root listing runId world)
    (starts : StartsAfter leaseSeconds current world) (wall : start.micros = current.wall)
    (member : row ∈ world.db.jobs)
    (left : row.state = .succeeded ∨ row.attemptCount < row.maxAttempts) :
    (recoveredRow start.text row).state = .succeeded ∨
      Eligible start.text (recoveredRow start.text row) := by
  have sound := single.queue.sound row member
  have stamped := single.stamped row member
  cases state : row.state with
  | succeeded =>
      have alive : ¬ Expired start.text row := by simp [Expired, state]
      rw [recoveredRow, if_neg alive]
      exact Or.inl state
  | pending =>
      have alive : ¬ Expired start.text row := by simp [Expired, state]
      obtain ⟨stamp, isText⟩ := stamped.scheduled
      have before := textBefore_of_later starts wall member (Or.inl isText)
      rw [recoveredRow, if_neg alive]
      refine Or.inr ⟨state, ?_, sound.pending state⟩
      rw [isText]
      exact fun after => lt_asymm before after
  | processing =>
      obtain ⟨_, isSome⟩ := sound.leased.mp state
      obtain ⟨expires, isExpires⟩ := Option.isSome_iff_exists.mp isSome
      obtain ⟨stamp, rfl⟩ := stamped.expiry expires isExpires
      have before := textBefore_of_later starts wall member (Or.inr isExpires)
      have expired : Expired start.text row := ⟨state, stamp.text, isExpires, before⟩
      have spare : row.attemptCount < row.maxAttempts :=
        left.resolve_left (by simp [state])
      rw [recoveredRow, if_pos expired]
      exact Or.inr ⟨recoveredState_eq_pending.mpr spare, lt_irrefl _, spare⟩
  | failedExhausted =>
      have spent := sound.exhausted state
      have spare : row.attemptCount < row.maxAttempts :=
        left.resolve_left (by simp [state])
      simp only [jobView] at spent
      omega

/-- Recovery makes no success. -/
theorem succeeded_of_recoveredRow {current : String} {row : JobRow}
    (succeeded : (recoveredRow current row).state = .succeeded) : row.state = .succeeded := by
  unfold recoveredRow at succeeded
  split at succeeded
  · simp only [JobRow.settle, recoveredState] at succeeded
    split at succeeded <;> cases succeeded
  · exact succeeded

theorem completes_recoverAbandoned {leaseSeconds : Int} {current : Datetime} {start : Instant}
    (kept : Kept library root listing runId world)
    (starts : StartsAfter leaseSeconds current world) (wall : start.micros = current.wall)
    (clock : timestamp current = .ok start.text)
    (left : ∀ row ∈ world.db.jobs, row.state = .succeeded ∨ row.attemptCount < row.maxAttempts)
    (resumable : Resumable library runId world) :
    Completes library root listing runId call
      (fun _ later => Ready library root listing runId start later)
      (issue (.recoverAbandoned current)) world := by
  refine completes_issue (fun _ _ => ?_) ?_
  · obtain ⟨_, overflow, _⟩ | ⟨_, counts, _, isOk⟩ :=
      recoverAbandoned_cases (Prod.mk.eta (p := recoverAbandoned current world.db)).symm
    · cases overflow.symm.trans clock
    · exact ⟨counts, isOk⟩
  · intro _ counts later outcome _ keptLater
    simp only [performCommand] at outcome
    obtain ⟨next, call, rfl⟩ := onDb_eq.mp outcome
    obtain ⟨_, overflow, _⟩ | ⟨text, _, recovery, _⟩ := recoverAbandoned_cases call
    · cases overflow.symm.trans clock
    · have sameText : text = start.text := Except.ok.inj (recovery.clock.symm.trans clock)
      subst sameText
      have origin : ∀ row ∈ next.jobs, ∃ old ∈ world.db.jobs,
          recoveredRow start.text old = row := by
        intro row member
        rw [← Table.mem_rows, recovery.jobs] at member
        exact List.mem_map.mp member
      refine ⟨keptLater, fun row member => ?_, ?_, ?_⟩
      · obtain ⟨old, oldMember, rfl⟩ := origin row member
        exact due_of_recovered kept.single starts wall oldMember (left old oldMember)
      · rintro ⟨row, member, isRun, succeeded⟩
        obtain ⟨old, oldMember, rfl⟩ := origin row member
        have own := (kept.single.jobs old oldMember).run
        rw [recovery.frame]
        exact resumable.job ⟨old, oldMember, own, succeeded_of_recoveredRow succeeded⟩
      · rw [recovery.frame]
        exact resumable.partition

/-! ## Opening the run -/

/-- A command that leaves jobs and checkpoints alone, and closes nothing. -/
theorem Ready.keeps {start : Instant} {later : World} {environment : Environment}
    {command : Command} (ready : Ready library root listing runId start world)
    (change : Change world command later) (asks : command.queueCall environment = none)
    (quiet : command.saves = false) (kept : Kept library root listing runId later)
    (closed : RunRunning runId later → PartitionCompleted library later runId →
      RunRunning runId world ∧ PartitionCompleted library world runId) :
    Ready library root listing runId start later := by
  have jobs := change.jobs_of_none asks
  have saved : checkpointOf library later runId = checkpointOf library world runId :=
    change.keeps_checkpoint quiet _ _
  refine ⟨kept, jobs ▸ ready.job, ?_, ?_⟩
  · rw [OwnJobSucceeded, jobs, saved]
    exact ready.resumable.job
  · intro bound running completed
    rw [saved] at bound
    obtain ⟨wasRunning, wasCompleted⟩ := closed running completed
    exact ready.resumable.partition bound wasRunning wasCompleted

/-- A command of the opening that writes neither runs nor partitions. -/
theorem ready_issue {start : Instant} {command : Command}
    {returns : Reply command → World → Prop}
    (ready : Ready library root listing runId start world) (quiet : command.saves = false)
    (aside : command.writesCrawl = false)
    (asks : ∀ environment, command.queueCall environment = none)
    (succeeds : ∀ environment, Undisturbed listing call environment command world →
      ∃ reply, (performCommand library environment command world).1 = .ok reply)
    (continues : ∀ environment reply later,
      performCommand library environment command world = (.ok reply, later) →
        Ready library root listing runId start later → returns reply later) :
    Completes library root listing runId call returns (issue command) world := by
  refine completes_issue succeeds fun environment reply later outcome _ kept => ?_
  have change := performCommand_change outcome
  obtain ⟨runs, partitions⟩ := change.keeps_crawl aside
  refine continues environment reply later outcome
    (ready.keeps change (asks environment) quiet kept fun running completed => ?_)
  rw [RunRunning, runs] at running
  rw [PartitionCompleted, partitions] at completed
  exact ⟨running, completed⟩

theorem completes_createMissingRun {start : Instant} {run : Option RunRow}
    (ready : Ready library root listing runId start world)
    (source : ∃ row ∈ world.db.sources, row.sourceName = sourceName)
    (found : run = world.db.runs.find? fun row => row.crawlRunId = runId) :
    Completes library root listing runId call
      (fun _ later => Ready library root listing runId start later ∧ RunExists later runId ∧
        checkpointOf library later runId = checkpointOf library world runId)
      (createMissingRun runId run) world := by
  cases run with
  | some row =>
      obtain ⟨member, selected⟩ := Table.find?_some found.symm
      exact ⟨ready, ⟨row, member, by simpa using selected⟩, rfl⟩
  | none =>
      have absent : ∀ row ∈ world.db.runs, row.crawlRunId ≠ runId := by
        intro row member named
        exact Table.find?_none.mp found.symm row member (by simpa using named)
      -- Without a run there is no partition.
      have notClosed : ¬ PartitionCompleted library world runId := by
        rintro ⟨row, member, _⟩
        obtain ⟨run, isRun, named⟩ := ready.kept.single.run row member
        exact absent run isRun named
      refine Program.meets_bind.mpr (completes_issue
        (fun environment _ => ⟨(), createRun_succeeds absent source⟩) ?_)
      intro environment _ created outcome _ keptCreated
      have changeCreated := performCommand_change outcome
      have isCreated : (∃ row ∈ created.db.runs, row.crawlRunId = runId ∧ row.state = .created) ∧
          created.db.partitions = world.db.partitions := by
        simp only [performCommand] at outcome
        obtain ⟨next, call, rfl⟩ := onDb_eq.mp outcome
        rcases createRun_cases call with ⟨_, isError, _⟩ | ⟨_, runs, rfl, rows⟩
        · cases isError
        · refine ⟨⟨createdRun runId sourceName "synthetic_step3a" environment.clock, ?_, rfl, rfl⟩,
            rfl⟩
          rw [← Table.mem_rows, rows]
          exact List.mem_append_right _ List.mem_cons_self
      obtain ⟨⟨row, member, named, state⟩, partitions⟩ := isCreated
      have readyCreated : Ready library root listing runId start created := by
        refine @Ready.keeps _ _ _ _ _ _ _ environment _ ready changeCreated rfl rfl keptCreated ?_
        intro _ completed
        rw [PartitionCompleted, partitions] at completed
        exact absurd completed notClosed
      refine completes_issue (fun environment _ => ⟨(), ?_⟩) ?_
      · exact (transitionRun_cases (Prod.mk.eta (p := startRun runId environment.clock
          created.db)).symm).1.mpr ⟨row, member, named, state⟩
      · intro environment _ later outcome _ keptLater
        have change := performCommand_change outcome
        have samePartitions : later.db.partitions = created.db.partitions := by
          simp only [performCommand] at outcome
          obtain ⟨next, call, rfl⟩ := onDb_eq.mp outcome
          obtain ⟨_, runs, rfl, _⟩ := transitionRun_cases call
          rfl
        refine ⟨?_, RunExists.mono ⟨row, member, named⟩ change.grow, ?_⟩
        · refine @Ready.keeps _ _ _ _ _ _ _ environment _ readyCreated change rfl rfl keptLater ?_
          intro _ completed
          rw [PartitionCompleted, samePartitions, partitions] at completed
          exact absurd completed notClosed
        · exact (change.keeps_checkpoint rfl _ _).trans (changeCreated.keeps_checkpoint rfl _ _)

theorem completes_createMissingPartition {start : Instant} {partition : Option PartitionRow}
    (ready : Ready library root listing runId start world) (run : RunExists world runId)
    (found : partition = world.db.partitions.find? fun row =>
      row.partitionId = partitionId library runId) :
    Completes library root listing runId call
      (fun partition later => Ready library root listing runId start later ∧
        RunExists later runId ∧
          checkpointOf library later runId = checkpointOf library world runId ∧
            ∃ row, partition = some row ∧ row ∈ later.db.partitions ∧
              row.partitionId = partitionId library runId)
      (createMissingPartition library runId partition) world := by
  cases partition with
  | some row => exact ⟨ready, run, rfl, row, rfl, found_partition found.symm⟩
  | none =>
      have absent : ∀ row ∈ world.db.partitions,
          row.partitionId ≠ partitionId library runId ∧ row.crawlRunId ≠ runId := by
        intro row member
        have other : row.partitionId ≠ partitionId library runId := fun named =>
          Table.find?_none.mp found.symm row member (by simpa using named)
        refine ⟨other, fun isRun => other ?_⟩
        rw [ready.kept.durable.partitions row member, isRun]
      refine Program.meets_bind.mpr (completes_issue
        (fun environment _ => ⟨(), createPartition_succeeds absent run⟩) ?_)
      intro environment _ created outcome _ keptCreated
      have change := performCommand_change outcome
      obtain ⟨row, member, named⟩ := partition_of_createPartition outcome
      have readyCreated : Ready library root listing runId start created := by
        refine @Ready.keeps _ _ _ _ _ _ _ environment _ ready change rfl rfl keptCreated ?_
        simp only [performCommand] at outcome
        obtain ⟨next, call, rfl⟩ := onDb_eq.mp outcome
        rcases createPartition_cases call with ⟨_, isError, _⟩ | ⟨_, partitions, rfl, rows⟩
        · cases isError
        · rintro running ⟨other, otherMember, otherNamed, completed⟩
          rw [← Table.mem_rows, rows, List.mem_append, List.mem_singleton] at otherMember
          rcases otherMember with old | rfl
          · exact ⟨running, other, old, otherNamed, completed⟩
          · cases completed
      refine completes_read fun _ _ => ⟨_, rfl, readyCreated, run.mono change.grow, ?_, ?_⟩
      · exact change.keeps_checkpoint rfl _ _
      · cases looked : created.db.partitions.find? fun row =>
            row.partitionId = partitionId library runId with
        | none => exact absurd (by simpa using named) (Table.find?_none.mp looked row member)
        | some other => exact ⟨other, rfl, found_partition looked⟩

/-- A run whose partition has been started is opened. -/
theorem Ready.opened {start : Instant} {row : PartitionRow}
    (ready : Ready library root listing runId start world) (run : RunExists world runId)
    (stored : checkpointOf library world runId = checkpoint) (member : row ∈ world.db.partitions)
    (named : row.partitionId = partitionId library runId) (started : row.state ≠ .pending) :
    Opened library root listing runId checkpoint world where
  kept := ready.kept
  stored := stored
  run := run
  partition := ⟨row, member, named, started⟩
  running bound isRunning := by
    have notCompleted := ready.resumable.partition (stored ▸ bound) isRunning
    have notFailed := ready.kept.single.partitions row member
    refine ⟨row, member, named, ?_⟩
    cases state : row.state with
    | pending => exact absurd state started
    | processing => rfl
    | completed => exact absurd ⟨row, member, named, state⟩ notCompleted
    | failed => exact absurd state notFailed

theorem completes_startPendingPartition {start : Instant} {row : PartitionRow}
    (ready : Ready library root listing runId start world) (run : RunExists world runId)
    (stored : checkpointOf library world runId = checkpoint) (member : row ∈ world.db.partitions)
    (named : row.partitionId = partitionId library runId) :
    Completes library root listing runId call
      (fun _ later => Ready library root listing runId start later ∧
        Opened library root listing runId checkpoint later)
      (startPendingPartition library runId (some row)) world := by
  by_cases pending : row.state = .pending
  · simp only [startPendingPartition, if_pos pending]
    refine completes_issue (fun environment _ => ⟨(), ?_⟩) ?_
    · exact (transitionPartition_cases (Prod.mk.eta (p := startPartition (partitionId library runId)
        environment.clock world.db)).symm).1.mpr ⟨row, member, named, pending⟩
    · intro environment _ later outcome _ keptLater
      have change := performCommand_change outcome
      simp only [performCommand] at outcome
      obtain ⟨next, call, rfl⟩ := onDb_eq.mp outcome
      obtain ⟨_, partitions, rfl, rows⟩ := transitionPartition_cases call
      have readyLater := @Ready.keeps _ _ _ _ _ _ _ environment _ ready change rfl rfl keptLater
        (by
          rintro running ⟨other, otherMember, otherNamed, completed⟩
          rw [← Table.mem_rows, rows] at otherMember
          obtain ⟨old, oldMember, rfl⟩ := List.mem_map.mp otherMember
          rcases transitionedPartition_cases old with same | ⟨_, _, moved⟩
          · rw [same] at otherNamed completed
            exact ⟨running, old, oldMember, otherNamed, completed⟩
          · rw [moved] at completed
            cases completed)
      have started : row.transition .processing environment.clock ∈ partitions := by
        rw [← Table.mem_rows, rows]
        exact List.mem_map.mpr ⟨row, member, if_pos ⟨named, pending⟩⟩
      exact ⟨readyLater, readyLater.opened (run.mono change.grow)
        ((change.keeps_checkpoint rfl _ _).trans stored) started named
        (by simp [PartitionRow.transition])⟩
  · simp only [startPendingPartition, if_neg pending]
    exact ⟨ready, ready.opened run stored member named pending⟩

theorem completes_ensureRun {start : Instant}
    (ready : Ready library root listing runId start world)
    (stored : checkpointOf library world runId = checkpoint) :
    Completes library root listing runId call
      (fun _ later => Ready library root listing runId start later ∧
        Opened library root listing runId checkpoint later)
      (ensureRun library runId) world := by
  refine Program.meets_bind.mpr (ready_issue ready rfl rfl (fun _ => rfl)
    (fun environment _ => ⟨(), ?_⟩) ?_)
  · exact (upsertSource_cases (Prod.mk.eta (p := upsertSource sourceName false "stable_source_key"
      (some "Synthetic Step 3A fixture only.") environment.clock world.db)).symm).1
  · intro environment _ registered outcome readyRegistered
    have saved := (performCommand_change outcome).keeps_checkpoint rfl runId
      (partitionId library runId)
    have source : ∃ row ∈ registered.db.sources, row.sourceName = sourceName := by
      simp only [performCommand] at outcome
      obtain ⟨next, call, rfl⟩ := onDb_eq.mp outcome
      obtain ⟨_, sources, rfl, isSource⟩ := upsertSource_cases call
      exact isSource
    refine Program.meets_bind.mpr (completes_read fun _ _ => ⟨_, rfl, ?_⟩)
    refine Program.Meets.bind (completes_createMissingRun readyRegistered source rfl) ?_
    rintro _ opened ⟨readyOpened, run, sameOpened⟩
    refine Program.meets_bind.mpr (completes_read fun _ _ => ⟨_, rfl, ?_⟩)
    refine Program.Meets.bind (completes_createMissingPartition readyOpened run rfl) ?_
    rintro _ present ⟨readyPresent, runPresent, samePresent, row, rfl, member, named⟩
    refine completes_startPendingPartition readyPresent runPresent ?_ member named
    exact samePresent.trans (sameOpened.trans (saved.trans stored))

/-! ## The call -/

theorem completes_runFrom {current : Datetime} {recovery : RecoveryCounts} {start : Instant}
    (valid : ValidListing library listing) (named : Text.isBlank call.runId = false)
    {first : World} (further : FurtherCall library call.runId call first)
    (utc : current.offset = 0)
    (expiry : ∃ expires, current.addSeconds call.leaseSeconds = .ok expires)
    (clock : timestamp current = .ok start.text)
    (ready : Ready library root listing call.runId start world)
    (opened : Opened library root listing call.runId checkpoint world) :
    Completes library root listing call.runId call (fun result _ => result.state = "completed")
      (runFrom library root call current recovery checkpoint) world := by
  -- Before the snapshot is recorded the job has not succeeded, so it is due.
  have due : checkpointRank checkpoint ≤ 1 → ∀ row ∈ world.db.jobs, Eligible start.text row := by
    intro bound row member
    refine (ready.job row member).resolve_left fun succeeded => ?_
    have rank := ready.resumable.job
      ⟨row, member, (ready.kept.single.jobs row member).run, succeeded⟩
    rw [opened.stored] at rank
    omega
  cases checkpoint with
  | none =>
      refine Program.Meets.bind (completes_discoverAndQueue valid named further.fixture utc clock
        opened (due (by decide))) ?_
      rintro _ queued ⟨openedQueued, dueQueued⟩
      have noPoint : call.stopAfter ≠ some "discovery" := by simp [further.stop]
      rw [if_neg noPoint]
      exact completes_runQueued valid named further utc expiry clock openedQueued dueQueued
  | some value =>
      simp only [runFrom]
      split_ifs with queued snapshot parser batch
      · subst queued
        have reached := opened.kept.durable.reached call.runId
        rw [opened.stored, rank_of_queued] at reached
        obtain ⟨row, member, _⟩ := (reached.queued (Nat.le_refl 1)).job
        exact completes_runQueued valid named further utc expiry clock opened
          ⟨row, member, due (by decide) row member⟩
      · exact completes_runSnapshotRecorded utc (snapshot ▸ opened)
      · exact completes_runParserCompleted utc (parser ▸ opened)
      · exact completes_runBatchRecorded (batch ▸ opened)
      · rfl

theorem completes_currentTime
    (starts : ∀ current, call.now = some current → StartsAfter call.leaseSeconds current world) :
    Completes library root listing runId call
      (fun current later => later = world ∧ StartsAfter call.leaseSeconds current world)
      (currentTime call.now) world := by
  cases now : call.now with
  | some current => exact ⟨rfl, starts current now⟩
  | none =>
      refine Program.meets_bind.mpr (completes_read fun environment undisturbed => ?_)
      exact ⟨environment.clock, rfl, rfl, undisturbed.clock rfl⟩

/-- An undisturbed call completes a run that is resumable. -/
theorem completes_run (valid : ValidListing library listing)
    (named : Text.isBlank call.runId = false)
    (further : FurtherCall library call.runId call world)
    (kept : Kept library root listing call.runId world)
    (left : ∀ row ∈ world.db.jobs, row.state = .succeeded ∨ row.attemptCount < row.maxAttempts)
    (resumable : Resumable library call.runId world) :
    Completes library root listing call.runId call (fun result _ => result.state = "completed")
      (run library root call) world := by
  have point : requireStopPoint call.stopAfter = .ok () := by
    rw [further.stop]
    rfl
  have minimum : requireMinimum call.minimumFreeBytes = .ok () :=
    if_neg (Int.not_lt.mpr further.minimum)
  refine Program.meets_bind.mpr (completes_require point ?_)
  refine Program.meets_bind.mpr (completes_read fun _ _ => ⟨_, rfl, ?_⟩)
  refine Program.meets_bind.mpr (completes_require minimum ?_)
  refine Program.meets_bind.mpr (completes_read fun environment undisturbed => ⟨_, rfl, ?_⟩)
  have space : requireFree environment.freeBytes call.minimumFreeBytes = .ok () :=
    if_neg (Int.not_lt.mpr undisturbed.space)
  refine Program.meets_bind.mpr (completes_require space ?_)
  refine Program.Meets.bind (completes_currentTime further.now) ?_
  rintro current _ ⟨rfl, starts⟩
  obtain ⟨start, wall, clock⟩ := timestamp_of_utc starts.utc
  refine Program.meets_bind.mpr (completes_read fun _ _ => ⟨_, rfl, ?_⟩)
  refine Program.meets_bind.mpr (completes_issue (fun environment _ => ⟨(), ?_⟩) ?_)
  · exact (registerOwner_owned (Prod.mk.eta (p := registerOwner environment.clock _)).symm
      kept.single.owners).1
  · intro environment _ registered outcome _ keptRegistered
    simp only [performCommand] at outcome
    obtain ⟨next, registering, rfl⟩ := onDb_eq.mp outcome
    obtain ⟨queueOwners, rfl⟩ := registerOwner_cases registering
    refine Program.meets_bind.mpr ((completes_recoverAbandoned keptRegistered
      ⟨starts.utc, starts.expiry, starts.later⟩ wall clock left
        ⟨resumable.job, resumable.partition⟩).mono ?_)
    intro recovery recovered ready
    refine Program.Meets.bind (completes_ensureRun ready rfl) ?_
    rintro _ ensured ⟨readyEnsured, opened⟩
    refine Program.meets_bind.mpr (completes_read fun _ _ => ⟨_, rfl, ?_⟩)
    have loaded : storedCheckpoint ensured.db call.runId (partitionId library call.runId) =
        checkpointOf library recovered call.runId := opened.stored
    rw [loaded]
    exact completes_runFrom valid named further starts.utc starts.expiry clock readyEnsured opened

end Resume

end ScraperProject.Orchestration
