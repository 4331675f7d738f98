import ScraperProject.Database.RepositorySteps
import ScraperProject.Orchestration.QueueHistory
import ScraperProject.Orchestration.SyntheticWorker

/-!
Contract: what one command of the worker can do to its world.

Owns every way in which a command changes the world, by the table or the file
that it writes, and what no command takes back: files, observations, snapshots
and batches stay as they are, and the other rows keep their identity and the end
of their life cycle.

Does not own the order of the commands.
-/

namespace ScraperProject.Orchestration

open Foundation
open Database
open Contracts

theorem onDb_eq {α : Type} {world later : World} {action : Action α}
    {result : Except PyError α} :
    world.onDb action = (result, later) ↔
      ∃ next, action world.db = (result, next) ∧ later = { world with db := next } := by
  unfold World.onDb
  cases action world.db with
  | mk value next =>
      constructor
      · intro same
        obtain ⟨rfl, rfl⟩ := Prod.mk.inj same
        exact ⟨next, rfl, rfl⟩
      · rintro ⟨_, same, rfl⟩
        obtain ⟨rfl, rfl⟩ := Prod.mk.inj same
        rfl

/-! ## The ways to change the world -/

/-- The call of the queue that a command makes. -/
def Command.queueCall (environment : Environment) : Command → Option QueueCall
  | .createIdempotent job =>
      some (.createIdempotent job environment.clock environment.laterClock)
  | .leaseNext workerId leaseSeconds now =>
      some (.leaseNext workerId leaseSeconds now environment.identifier)
  | .fail jobId workerId errorClass now => some (.fail jobId workerId errorClass now)
  | .succeed jobId workerId now => some (.succeed jobId workerId now)
  | .recoverAbandoned now => some (.recoverAbandoned now)
  | _ => none

/-- Every way in which a command can change the world. -/
inductive Change (world : World) : Command → World → Prop where
  | kept (command : Command) : Change world command world
  | owner {queueOwners : Table QueueOwnerRow} :
      Change world .registerOwner
        { world with db := { world.db with queueOwners := queueOwners } }
  | source {sourceName identityStrategy : String} {enabled : Bool}
      {identityNotes : Option String} {sources : Table SourceRow} :
      Change world (.upsertSource sourceName enabled identityStrategy identityNotes)
        { world with db := { world.db with sources := sources } }
  | runCreated {runId sourceName runKind : String} {clock : Instant} {runs : Table RunRow}
      (rows : runs.rows = world.db.runs.rows ++ [createdRun runId sourceName runKind clock]) :
      Change world (.createRun runId sourceName runKind)
        { world with db := { world.db with runs := runs } }
  | runStarted {runId : String} {clock : Instant} {runs : Table RunRow}
      (rows : runs.rows =
        world.db.runs.rows.map (transitionedRun runId .created .running true false clock)) :
      Change world (.startRun runId) { world with db := { world.db with runs := runs } }
  | runCompleted {runId : String} {clock : Instant} {runs : Table RunRow}
      (rows : runs.rows =
        world.db.runs.rows.map (transitionedRun runId .running .completed false true clock)) :
      Change world (.completeRun runId) { world with db := { world.db with runs := runs } }
  | partitionCreated {partitionId runId sourceName partitionKey : String}
      {createdAt updatedAt : Instant} {partitions : Table PartitionRow}
      (rows : partitions.rows = world.db.partitions.rows ++
        [createdPartition partitionId runId sourceName partitionKey createdAt updatedAt]) :
      Change world (.createPartition partitionId runId sourceName partitionKey)
        { world with db := { world.db with partitions := partitions } }
  | partitionStarted {partitionId : String} {clock : Instant} {partitions : Table PartitionRow}
      (rows : partitions.rows = world.db.partitions.rows.map
        (transitionedPartition partitionId .pending .processing clock)) :
      Change world (.startPartition partitionId)
        { world with db := { world.db with partitions := partitions } }
  | partitionCompleted {partitionId : String} {clock : Instant}
      {partitions : Table PartitionRow}
      (rows : partitions.rows = world.db.partitions.rows.map
        (transitionedPartition partitionId .processing .completed clock)) :
      Change world (.completePartition partitionId)
        { world with db := { world.db with partitions := partitions } }
  | checkpointSaved {runId partitionId value : String} {checkpoints : Table CheckpointRow}
      (saved : ∀ run partition,
        storedCheckpoint { world.db with checkpoints := checkpoints } run partition =
          if run = runId ∧ partition = partitionId then some value
          else storedCheckpoint world.db run partition) :
      Change world (.saveCheckpoint runId partitionId value)
        { world with db := { world.db with checkpoints := checkpoints } }
  | observed {observation : DiscoveryObservation} {recordId observedAt : String}
      {identities : Table IdentityRow} {observations : Table ObservationRow}
      (rows : observations.rows =
        world.db.observations.rows ++ [observationRow observation recordId observedAt]) :
      Change world (.appendObservation observation)
        { world with
          db := { world.db with identities := identities, observations := observations } }
  | queue {environment : Environment} {command : Command} {call : QueueCall}
      {result : Except PyError QueueReply} {next : Db}
      (asks : command.queueCall environment = some call)
      (effect : QueueEffect world.db call result next) :
      Change world command { world with db := next }
  | snapshotRecorded {artifact : RawFetchArtifact} {fetchedAt : String}
      {snapshots : Table SnapshotRow} (job : ∃ job ∈ world.db.jobs, job.jobId = artifact.jobId)
      (rows : snapshots.rows = world.db.snapshots.rows ++ [snapshotRow artifact fetchedAt]) :
      Change world (.recordSnapshot artifact)
        { world with db := { world.db with snapshots := snapshots } }
  | parserStarted {artifactId parserName parserVersion parserRunId : String} {clock : Instant}
      {parserRuns : Table ParserRunRow}
      (rows : parserRuns.rows = world.db.parserRuns.rows ++
        [startedParserRun artifactId parserName parserVersion parserRunId clock]) :
      Change world (.startParserRun artifactId parserName parserVersion)
        { world with db := { world.db with parserRuns := parserRuns } }
  | parserCompleted {parserRunId : String} {clock : Instant} {parserRuns : Table ParserRunRow}
      (rows : parserRuns.rows =
        world.db.parserRuns.rows.map (finishedParserRun parserRunId .completed none clock)) :
      Change world (.completeParserRun parserRunId)
        { world with db := { world.db with parserRuns := parserRuns } }
  | batchRecorded {manifest : DatasetBatchManifest} {createdAt : String}
      {batches : Table BatchRow} (printed : timestamp manifest.createdAt = .ok createdAt)
      (rows : batches.rows = world.db.batches.rows ++ [batchRow manifest createdAt]) :
      Change world (.recordBatch manifest)
        { world with db := { world.db with batches := batches } }
  | fileStored {path : String} {content bytes : List UInt8} (absent : world.files path = none)
      (written : bytes <+: content) :
      Change world (.createExclusive path content)
        { world with files := fun other => if other = path then some bytes
          else world.files other }

theorem registerOwner_cases {clock : Instant} {db next : Db} {result : Except PyError Unit}
    (call : registerOwner clock db = (result, next)) :
    ∃ queueOwners : Table QueueOwnerRow, next = { db with queueOwners := queueOwners } := by
  cases result with
  | error raised => exact ⟨db.queueOwners, (writeTransaction_error.mp call).2⟩
  | ok value =>
      have body := writeTransaction_ok.mp call
      split at body
      · obtain ⟨queueOwners, _, body⟩ := bind_eq_ok.mp body
        obtain ⟨_, rfl⟩ := Prod.mk.inj (Except.ok.inj body)
        exact ⟨queueOwners, rfl⟩
      · split at body
        · cases body
        · obtain ⟨_, rfl⟩ := Prod.mk.inj (Except.ok.inj body)
          exact ⟨db.queueOwners, rfl⟩

/-- A queue operation changes the world as the queue changes its tables. -/
theorem change_of_queue (environment : Environment) {command : Command} {call : QueueCall}
    {world : World} {next : Db} (asks : command.queueCall environment = some call)
    (performed : (perform call world.db).2 = next) :
    Change world command { world with db := next } := by
  subst performed
  exact .queue asks (perform_effect call world.db)

theorem performCommand_change {library : StandardLibrary} {environment : Environment}
    {command : Command} {world later : World} {result : Except PyError (Reply command)}
    (outcome : performCommand library environment command world = (result, later)) :
    Change world command later := by
  cases command <;> simp only [performCommand] at outcome
  case ensurePaths => cases outcome; exact .kept _
  case diskFree => cases outcome; exact .kept _
  case readClock => cases outcome; exact .kept _
  case openDatabase => cases outcome; exact .kept _
  case openUrl url => cases outcome; exact .kept _
  case shutdownRequested => cases outcome; exact .kept _
  case pathExists path => cases outcome; exact .kept _
  case getRun runId => cases outcome; exact .kept _
  case getPartition partitionId => cases outcome; exact .kept _
  case loadCheckpoint runId partitionId => cases outcome; exact .kept _
  case getSnapshot artifactId => cases outcome; exact .kept _
  case getBatch batchId =>
    obtain ⟨next, call, rfl⟩ := onDb_eq.mp outcome
    unfold getBatch at call
    split at call <;> cases call <;> exact .kept _
  case readBytes path =>
    split at outcome <;> cases outcome <;> exact .kept _
  case registerOwner =>
    obtain ⟨next, call, rfl⟩ := onDb_eq.mp outcome
    obtain ⟨queueOwners, rfl⟩ := registerOwner_cases call
    exact .owner
  case upsertSource sourceName enabled identityStrategy identityNotes =>
    obtain ⟨next, call, rfl⟩ := onDb_eq.mp outcome
    obtain ⟨_, sources, rfl, _⟩ := upsertSource_cases call
    exact .source
  case createRun runId sourceName runKind =>
    obtain ⟨next, call, rfl⟩ := onDb_eq.mp outcome
    rcases createRun_cases call with ⟨_, _, rfl⟩ | ⟨_, runs, rfl, rows⟩
    · exact .kept _
    · exact .runCreated rows
  case startRun runId =>
    obtain ⟨next, call, rfl⟩ := onDb_eq.mp outcome
    obtain ⟨_, runs, rfl, rows⟩ := transitionRun_cases call
    exact .runStarted rows
  case completeRun runId =>
    obtain ⟨next, call, rfl⟩ := onDb_eq.mp outcome
    obtain ⟨_, runs, rfl, rows⟩ := transitionRun_cases call
    exact .runCompleted rows
  case createPartition partitionId runId sourceName partitionKey =>
    obtain ⟨next, call, rfl⟩ := onDb_eq.mp outcome
    rcases createPartition_cases call with ⟨_, _, rfl⟩ | ⟨_, partitions, rfl, rows⟩
    · exact .kept _
    · exact .partitionCreated rows
  case startPartition partitionId =>
    obtain ⟨next, call, rfl⟩ := onDb_eq.mp outcome
    obtain ⟨_, partitions, rfl, rows⟩ := transitionPartition_cases call
    exact .partitionStarted rows
  case completePartition partitionId =>
    obtain ⟨next, call, rfl⟩ := onDb_eq.mp outcome
    obtain ⟨_, partitions, rfl, rows⟩ := transitionPartition_cases call
    exact .partitionCompleted rows
  case saveCheckpoint runId partitionId value =>
    obtain ⟨next, call, rfl⟩ := onDb_eq.mp outcome
    rcases saveCheckpoint_cases call with ⟨_, _, rfl⟩ | ⟨_, checkpoints, rfl, saved⟩
    · exact .kept _
    · exact .checkpointSaved saved
  case appendObservation observation =>
    obtain ⟨next, call, rfl⟩ := onDb_eq.mp outcome
    rcases appendObservation_cases call with
      ⟨_, _, rfl⟩ | ⟨_, identities, observations, observedAt, rfl, rows⟩
    · exact .kept _
    · exact .observed rows
  case createIdempotent job =>
    obtain ⟨next, call, rfl⟩ := onDb_eq.mp outcome
    exact change_of_queue environment rfl (congrArg Prod.snd call)
  case leaseNext workerId leaseSeconds now =>
    obtain ⟨next, call, rfl⟩ := onDb_eq.mp outcome
    exact change_of_queue environment rfl (congrArg Prod.snd call)
  case fail jobId workerId errorClass now =>
    obtain ⟨next, call, rfl⟩ := onDb_eq.mp outcome
    exact change_of_queue environment rfl (congrArg Prod.snd call)
  case succeed jobId workerId now =>
    obtain ⟨next, call, rfl⟩ := onDb_eq.mp outcome
    exact change_of_queue environment rfl (congrArg Prod.snd call)
  case recoverAbandoned now =>
    obtain ⟨next, call, rfl⟩ := onDb_eq.mp outcome
    exact change_of_queue environment rfl (congrArg Prod.snd call)
  case recordSnapshot artifact =>
    obtain ⟨next, call, rfl⟩ := onDb_eq.mp outcome
    rcases recordSnapshot_cases call with ⟨_, _, rfl⟩ | ⟨_, job, snapshots, fetchedAt, rfl, rows⟩
    · exact .kept _
    · exact .snapshotRecorded job rows
  case startParserRun artifactId parserName parserVersion =>
    obtain ⟨next, call, rfl⟩ := onDb_eq.mp outcome
    rcases startParserRun_cases call with ⟨_, _, rfl⟩ | ⟨_, parserRuns, rfl, rows⟩
    · exact .kept _
    · exact .parserStarted rows
  case completeParserRun parserRunId =>
    obtain ⟨next, call, rfl⟩ := onDb_eq.mp outcome
    obtain ⟨_, parserRuns, rfl, rows⟩ := transitionParserRun_cases call
    exact .parserCompleted rows
  case recordBatch manifest =>
    obtain ⟨next, call, rfl⟩ := onDb_eq.mp outcome
    rcases recordBatch_cases call with
      ⟨_, _, rfl⟩ | ⟨_, batches, createdAt, rfl, printed, rows⟩
    · exact .kept _
    · exact .batchRecorded printed rows
  case createExclusive path content =>
    simp only [World.createExclusive] at outcome
    split at outcome
    · cases outcome; exact .kept _
    · next written absent _ =>
      cases outcome
      exact .fileStored absent (List.take_prefix written content)
    · next absent _ =>
      cases outcome
      exact .fileStored absent List.prefix_rfl

theorem performed_change (library : StandardLibrary) (environment : Environment)
    (command : Command) (world : World) :
    Change world command (performCommand library environment command world).2 := by
  cases outcome : performCommand library environment command world with
  | mk result later => exact performCommand_change outcome

/-! ## What no command takes back -/

/-- A later row of a run; a completed run is left alone. -/
def LaterRun (row later : RunRow) : Prop :=
  later.crawlRunId = row.crawlRunId ∧ (row.state = .completed → later = row)

/-- A later row of a partition, which does not return to an earlier state. -/
def LaterPartition (row later : PartitionRow) : Prop :=
  later.partitionId = row.partitionId ∧ (row.state ≠ .pending → later.state ≠ .pending) ∧
    (row.state = .completed → later.state = .completed)

/-- A later row of a job; a success is not taken back. -/
def LaterJob (row later : JobRow) : Prop :=
  SameIdentity row later ∧ (row.state = .succeeded → later.state = .succeeded)

/-- A later row of a parser run; a completed one is left alone. -/
def LaterParserRun (row later : ParserRunRow) : Prop :=
  later.parserRunId = row.parserRunId ∧ later.artifactId = row.artifactId ∧
    (row.state = .completed → later = row)

theorem LaterRun.refl (row : RunRow) : LaterRun row row := ⟨rfl, fun _ => rfl⟩

theorem LaterRun.trans {first second third : RunRow} (left : LaterRun first second)
    (right : LaterRun second third) : LaterRun first third := by
  refine ⟨right.1.trans left.1, fun completed => ?_⟩
  have same := left.2 completed
  exact (right.2 (same ▸ completed)).trans same

theorem LaterRun.transitioned {crawlRunId : String} {expected target : RunState}
    {setStarted setFinished : Bool} {clock : Instant} (notEnd : expected ≠ .completed)
    (row : RunRow) :
    LaterRun row (transitionedRun crawlRunId expected target setStarted setFinished clock row) := by
  rcases transitionedRun_cases row with same | ⟨_, state, moved⟩
  · rw [same]
    exact .refl row
  · rw [moved]
    exact ⟨rfl, fun completed => absurd (state.symm.trans completed) notEnd⟩

theorem LaterPartition.refl (row : PartitionRow) : LaterPartition row row :=
  ⟨rfl, id, id⟩

theorem LaterPartition.trans {first second third : PartitionRow}
    (left : LaterPartition first second) (right : LaterPartition second third) :
    LaterPartition first third :=
  ⟨right.1.trans left.1, right.2.1 ∘ left.2.1, right.2.2 ∘ left.2.2⟩

theorem LaterPartition.transitioned {partitionId : String} {expected target : PartitionState}
    {clock : Instant} (leaves : target ≠ .pending)
    (ends : expected = .completed → target = .completed) (row : PartitionRow) :
    LaterPartition row (transitionedPartition partitionId expected target clock row) := by
  rcases transitionedPartition_cases row with same | ⟨_, state, moved⟩
  · rw [same]
    exact .refl row
  · rw [moved]
    exact ⟨rfl, fun _ => leaves, fun completed => ends (state.symm.trans completed)⟩

theorem LaterJob.refl (row : JobRow) : LaterJob row row := ⟨.refl row, id⟩

theorem LaterJob.trans {first second third : JobRow} (left : LaterJob first second)
    (right : LaterJob second third) : LaterJob first third :=
  ⟨left.1.trans right.1, right.2 ∘ left.2⟩

theorem LaterParserRun.refl (row : ParserRunRow) : LaterParserRun row row :=
  ⟨rfl, rfl, fun _ => rfl⟩

theorem LaterParserRun.trans {first second third : ParserRunRow}
    (left : LaterParserRun first second) (right : LaterParserRun second third) :
    LaterParserRun first third := by
  refine ⟨right.1.trans left.1, right.2.1.trans left.2.1, fun completed => ?_⟩
  have same := left.2.2 completed
  exact (right.2.2 (same ▸ completed)).trans same

/-- What holds between a world and a later one, whatever the commands between. -/
structure Grow (before after : World) : Prop where
  files : ∀ path content, before.files path = some content → after.files path = some content
  runs : Table.Grows LaterRun before.db.runs after.db.runs
  partitions : Table.Grows LaterPartition before.db.partitions after.db.partitions
  observations : Table.Grows Eq before.db.observations after.db.observations
  jobs : Table.Grows LaterJob before.db.jobs after.db.jobs
  snapshots : Table.Grows Eq before.db.snapshots after.db.snapshots
  parserRuns : Table.Grows LaterParserRun before.db.parserRuns after.db.parserRuns
  batches : Table.Grows Eq before.db.batches after.db.batches

theorem Grow.refl (world : World) : Grow world world where
  files _ _ := id
  runs := .refl LaterRun.refl _
  partitions := .refl LaterPartition.refl _
  observations := .refl Eq.refl _
  jobs := .refl LaterJob.refl _
  snapshots := .refl Eq.refl _
  parserRuns := .refl LaterParserRun.refl _
  batches := .refl Eq.refl _

theorem Grow.trans {first second third : World} (left : Grow first second)
    (right : Grow second third) : Grow first third where
  files path content := right.files path content ∘ left.files path content
  runs := left.runs.trans right.runs LaterRun.trans
  partitions := left.partitions.trans right.partitions LaterPartition.trans
  observations := left.observations.trans right.observations Eq.trans
  jobs := left.jobs.trans right.jobs LaterJob.trans
  snapshots := left.snapshots.trans right.snapshots Eq.trans
  parserRuns := left.parserRuns.trans right.parserRuns LaterParserRun.trans
  batches := left.batches.trans right.batches Eq.trans

theorem QueueEffect.frame {db next : Db} {call : QueueCall} {result : Except PyError QueueReply}
    (effect : QueueEffect db call result next) :
    next = { db with
      identities := next.identities
      jobs := next.jobs
      attempts := next.attempts } := by
  cases effect with
  | raised => rfl
  | found _ _ frame => rw [frame]
  | created made => rw [made.frame]
  | idle => rfl
  | leased leased => rw [leased.frame]
  | succeeded finished => rw [finished.frame]
  | failed finished => rw [finished.frame]
  | recovered recovery => rw [recovery.frame]

theorem QueueEffect.laterJobs {db next : Db} {call : QueueCall}
    {result : Except PyError QueueReply} (effect : QueueEffect db call result next) :
    Table.Grows LaterJob db.jobs next.jobs := by
  intro row member
  obtain ⟨after, afterMember, _, event, step, _⟩ := effect.step member
  refine ⟨after, afterMember, step.identity, fun succeeded => ?_⟩
  have same := step.moves.of_terminal (Or.inl succeeded)
  exact (congrArg JobMachine.state same).trans succeeded

/-- A job after a call is an earlier job, or the call created it. -/
theorem QueueEffect.origin_identity {db next : Db} {call : QueueCall}
    {result : Except PyError QueueReply} (effect : QueueEffect db call result next)
    {after : JobRow} (member : after ∈ next.jobs) :
    (∃ row ∈ db.jobs, LaterJob row after) ∨ ∃ job createdAt updatedAt,
      call = .createIdempotent job createdAt updatedAt ∧ Created job after db next := by
  rcases effect.origin member with ⟨row, rowMember, sameId⟩ | created
  · obtain ⟨later, laterMember, succeeds⟩ := effect.laterJobs row rowMember
    have same : later = after :=
      job_eq_of_id laterMember member (succeeds.1.jobId.trans sameId)
    exact Or.inl ⟨row, rowMember, same ▸ succeeds⟩
  · exact Or.inr created

/-- No command takes anything back. -/
theorem Change.grow {world later : World} {command : Command}
    (change : Change world command later) : Grow world later := by
  cases change with
  | kept => exact .refl _
  | owner => exact { Grow.refl world with }
  | source => exact { Grow.refl world with }
  | runCreated rows => exact { Grow.refl world with runs := .of_append LaterRun.refl rows }
  | runStarted rows =>
      exact { Grow.refl world with
        runs := .of_map rows fun row _ => LaterRun.transitioned (by decide) row }
  | runCompleted rows =>
      exact { Grow.refl world with
        runs := .of_map rows fun row _ => LaterRun.transitioned (by decide) row }
  | partitionCreated rows =>
      exact { Grow.refl world with partitions := .of_append LaterPartition.refl rows }
  | partitionStarted rows =>
      exact { Grow.refl world with
        partitions := .of_map rows fun row _ =>
          LaterPartition.transitioned (by decide) (by decide) row }
  | partitionCompleted rows =>
      exact { Grow.refl world with
        partitions := .of_map rows fun row _ =>
          LaterPartition.transitioned (by decide) (by decide) row }
  | checkpointSaved => exact { Grow.refl world with }
  | observed rows => exact { Grow.refl world with observations := .of_append Eq.refl rows }
  | queue _ effect =>
      rw [effect.frame]
      exact { Grow.refl world with jobs := effect.laterJobs }
  | snapshotRecorded _ rows =>
      exact { Grow.refl world with snapshots := .of_append Eq.refl rows }
  | parserStarted rows =>
      exact { Grow.refl world with parserRuns := .of_append LaterParserRun.refl rows }
  | parserCompleted rows =>
      refine { Grow.refl world with parserRuns := .of_map rows fun row _ => ?_ }
      unfold finishedParserRun
      split
      · next selected => exact ⟨rfl, rfl, fun completed => by simp [completed] at selected⟩
      · exact .refl row
  | batchRecorded _ rows =>
      exact { Grow.refl world with batches := .of_append Eq.refl rows }
  | fileStored absent _ =>
      refine { Grow.refl world with files := fun other content present => ?_ }
      dsimp only
      split
      · next same =>
        rw [same, absent] at present
        cases present
      · exact present

/-! ## Checkpoints -/

def Command.saves : Command → Bool
  | .saveCheckpoint _ _ _ => true
  | _ => false

/-- Only a save changes a checkpoint. -/
theorem Change.keeps_checkpoint {world later : World} {command : Command}
    (change : Change world command later) (other : command.saves = false)
    (runId partitionId : String) :
    storedCheckpoint later.db runId partitionId =
      storedCheckpoint world.db runId partitionId := by
  cases change with
  | checkpointSaved => cases other
  | queue _ effect =>
      rw [effect.frame]
      rfl
  | _ => rfl

end ScraperProject.Orchestration
