import ScraperProject.Orchestration.SyntheticWorker

/-!
Contract: the commands of each stage of a call.

Owns the stages of `run` that neither touch a checkpoint, nor lease a job or
report on one, nor close the run, whatever the outcomes of their commands.

Does not own the order in which `run` goes through its stages.
-/

namespace ScraperProject.Orchestration

open Foundation
open Database
open Contracts

/-- A command that neither touches a checkpoint, nor leases a job or reports on
one, nor completes the run or its partition. -/
def Command.isPlain : Command → Bool
  | .loadCheckpoint _ _ => false
  | .saveCheckpoint _ _ _ => false
  | .leaseNext _ _ _ => false
  | .fail _ _ _ _ => false
  | .succeed _ _ _ => false
  | .completePartition _ => false
  | .completeRun _ => false
  | _ => true

/-- A program of plain commands. -/
abbrev Plain {α : Type} (program : Worker α) : Prop :=
  program.Issues fun command => command.isPlain = true

section Stages

variable {library : StandardLibrary} {root runId : String}

theorem plain_pure {α : Type} (value : α) : Plain (pure value : Worker α) :=
  Program.issues_pure value

theorem plain_require {α : Type} (computation : Except PyError α) : Plain (require computation) :=
  Program.issues_ofExcept computation

theorem plain_issue {command : Command} (plain : command.isPlain = true) :
    Plain (issue command) := Program.issues_call plain

theorem plain_attempt {command : Command} (plain : command.isPlain = true) :
    Plain (attempt command) := Program.issues_attempt plain

theorem plain_fetchFixture (fixtureUrl : String) : Plain (fetchFixture library fixtureUrl) :=
  (plain_require _).bind fun _ => (plain_attempt rfl).bind fun _ => plain_require _

theorem plain_createMissingRun (run : Option RunRow) : Plain (createMissingRun runId run) := by
  cases run with
  | some row => exact plain_pure ()
  | none => exact (plain_issue rfl).bind fun _ => plain_issue rfl

theorem plain_createMissingPartition (partition : Option PartitionRow) :
    Plain (createMissingPartition library runId partition) := by
  cases partition with
  | some row => exact plain_pure (some row)
  | none => exact (plain_issue rfl).bind fun _ => plain_issue rfl

theorem plain_startPendingPartition (partition : Option PartitionRow) :
    Plain (startPendingPartition library runId partition) := by
  cases partition with
  | none => exact plain_pure ()
  | some row =>
      unfold startPendingPartition
      dsimp only
      split
      · exact plain_issue rfl
      · exact plain_pure ()

theorem plain_ensureRun : Plain (ensureRun library runId) :=
  (plain_issue rfl).bind fun _ => (plain_issue rfl).bind fun run =>
    (plain_createMissingRun run).bind fun _ => (plain_issue rfl).bind fun partition =>
      (plain_createMissingPartition partition).bind fun partition =>
        plain_startPendingPartition partition

theorem plain_storeSnapshot (path : String) (body : List UInt8) :
    Plain (storeSnapshot library path body) := by
  refine (plain_issue rfl).bind fun present => ?_
  split
  · refine (plain_issue rfl).bind fun stored => ?_
    split
    · exact plain_require _
    · exact plain_pure ()
  · refine (plain_attempt rfl).bind fun created => ?_
    split
    · exact plain_pure ()
    · exact plain_require _
    · exact plain_require _

theorem plain_recordMissingSnapshot (leasedJobId digest : String) (current : Datetime)
    (fixture : List (String × Json)) (existing : Option SnapshotRow) :
    Plain (recordMissingSnapshot library root runId leasedJobId digest current fixture
      existing) := by
  cases existing with
  | some row => exact plain_pure ()
  | none => exact (plain_require _).bind fun _ => plain_issue rfl

theorem plain_recordSnapshotOf (fixtureUrl leasedJobId : String) (current : Datetime) :
    Plain (recordSnapshotOf library root fixtureUrl runId leasedJobId current) := by
  refine (plain_fetchFixture fixtureUrl).bind fun payload => ?_
  refine (plain_storeSnapshot _ _).bind fun _ => ?_
  refine (plain_require _).bind fun fixture => ?_
  refine (plain_issue rfl).bind fun existing => ?_
  exact (plain_recordMissingSnapshot _ _ _ _ existing).bind fun _ => plain_pure _

theorem plain_storeRecords (path : String) (records : List UInt8) :
    Plain (storeRecords path records) := by
  refine (plain_issue rfl).bind fun present => ?_
  split
  · refine (plain_issue rfl).bind fun stored => ?_
    split
    · exact plain_require _
    · exact plain_pure ()
  · exact plain_issue rfl

theorem plain_recordBatchOf (current : Datetime) :
    Plain (recordBatchOf library root runId current) := by
  refine (plain_issue rfl).bind fun existing => ?_
  split
  · exact plain_pure ()
  · exact (plain_storeRecords _ _).bind fun _ => (plain_require _).bind fun _ => plain_issue rfl

/-- The run is closed by two commands. -/
theorem issues_completeRunning {allowed : Command → Prop} (run : Option RunRow)
    (partition : allowed (.completePartition (partitionId library runId)))
    (closes : allowed (.completeRun runId)) :
    (completeRunning library runId run).Issues allowed := by
  cases run with
  | none => trivial
  | some row =>
      unfold completeRunning
      dsimp only
      split
      · exact (Program.issues_call partition).bind fun _ => Program.issues_call closes
      · trivial

/-- Discovery saves a checkpoint; its other commands are plain. -/
theorem issues_discoverAndQueue {allowed : Command → Prop} (fixtureUrl : String)
    (current : Datetime) (plain : ∀ command, command.isPlain = true → allowed command)
    (saves : allowed (.saveCheckpoint runId (partitionId library runId) "queued")) :
    (discoverAndQueue library fixtureUrl runId current).Issues allowed := by
  refine ((plain_fetchFixture fixtureUrl).mono plain).bind fun payload => ?_
  refine ((plain_require _).mono plain).bind fun listingKey => ?_
  refine ((plain_require _).mono plain).bind fun listingUrl => ?_
  refine ((plain_require _).mono plain).bind fun observation => ?_
  refine ((plain_issue rfl).mono plain).bind fun _ => ?_
  refine ((plain_require _).mono plain).bind fun _ => ?_
  exact ((plain_issue rfl).mono plain).bind fun _ => Program.issues_call saves

theorem plain_stopRequested (call : RunCall) : Plain (stopRequested call) := by
  unfold stopRequested
  split
  · exact plain_pure true
  · split
    · exact plain_issue rfl
    · exact plain_pure false

theorem plain_currentTime (now : Option Datetime) : Plain (currentTime now) := by
  cases now with
  | some value => exact plain_pure value
  | none => exact (plain_issue rfl).bind fun _ => plain_pure _

end Stages

end ScraperProject.Orchestration
