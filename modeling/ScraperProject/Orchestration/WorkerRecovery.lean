import ScraperProject.Orchestration.WorkerResume

/-!
Contract: the states from which a further call completes a run.

Owns the two states of a run that no call can leave (a job that has succeeded
behind its checkpoint, a partition that is completed in an open run), and with
the proof that every other state can be completed the exact condition under
which a further call completes the run. Owns also a history that breaks it.

Does not own how a call resumes a run.
-/

namespace ScraperProject.Orchestration

open Foundation
open Database
open Contracts

/-- The command closes the run. -/
def Command.closesRun : Command → Bool
  | .completeRun _ => true
  | _ => false

section Recovery

variable (library : StandardLibrary) (root : String) (listing : List (String × Json))
  (runId : String)

/-! ## Calls that cannot complete -/

/-- The program may raise; what it returns is as promised. -/
abbrev Yields (call : RunCall) {α : Type} (returns : α → World → Prop) (program : Worker α)
    (world : World) : Prop :=
  program.Meets (performCommand library)
    (resumeTerms library root listing runId call fun _ _ => True) returns world

/-- The call reports another state than "completed". -/
def Incomplete (result : SyntheticWorkerResult) (_ : World) : Prop := result.state ≠ "completed"

/-- A later world of a call that has saved no checkpoint and closed nothing. -/
structure Ahead (world later : World) : Prop where
  kept : Kept library root listing runId later
  grow : Grow world later
  same : checkpointOf library later runId = checkpointOf library world runId
  running : RunRunning runId world → RunRunning runId later

/-- The run's job has succeeded behind the checkpoint that records it. -/
structure JobLost (world : World) : Prop where
  kept : Kept library root listing runId world
  job : OwnJobSucceeded runId world
  behind : checkpointRank (checkpointOf library world runId) ≤ 1

/-- The run's partition is completed, and the run is open. -/
structure PartitionLost (world : World) : Prop where
  running : RunRunning runId world
  completed : PartitionCompleted library world runId

variable {library root listing runId} {call : RunCall} {world : World}

/-! ## Rules -/

/-- A command of which only the replies matter. -/
theorem yields_issue {command : Command} {returns : Reply command → World → Prop}
    (continues : ∀ environment reply later,
      performCommand library environment command world = (.ok reply, later) →
        Kept library root listing runId later → returns reply later) :
    Yields library root listing runId call returns (issue command) world := by
  refine Program.Meets.call trivial (fun _ _ _ _ _ => trivial) ?_
  intro environment reply later permitted outcome
  have kept := permitted.2
  rw [outcome] at kept
  exact continues environment reply later outcome kept

/-- A program whose commands keep what holds. -/
theorem yields_followed {α β : Type} {Holds : World → Prop} {allowed : Command → Prop}
    {program : Worker α} {next : α → Worker β} {returns : β → World → Prop}
    (keeps : ∀ environment command world, allowed command →
      Kept library root listing runId (performCommand library environment command world).2 →
        Holds world → Holds (performCommand library environment command world).2)
    (issues : program.Issues allowed) (holds : Holds world)
    (continues : ∀ value later, Holds later →
      Yields library root listing runId call returns (next value) later) :
    Yields library root listing runId call returns (program >>= next) world := by
  refine Program.Meets.bind (issues.keeps (fun _ _ => trivial) (fun _ _ => trivial) ?_ holds)
    continues
  intro environment command world isAllowed permitted held
  exact keeps environment command world isAllowed permitted.2 held

theorem OwnJobSucceeded.mono {later : World} (succeeded : OwnJobSucceeded runId world)
    (grow : Grow world later) : OwnJobSucceeded runId later := by
  obtain ⟨row, member, isRun, state⟩ := succeeded
  obtain ⟨after, laterMember, succeeds⟩ := grow.jobs row member
  exact ⟨after, laterMember, succeeds.1.crawlRunId.trans isRun, succeeds.2 state⟩

/-- Only its completion ends a running run. -/
theorem Change.keeps_running {later : World} {command : Command}
    (change : Change world command later) (leaves : command.closesRun = false)
    (running : RunRunning runId world) : RunRunning runId later := by
  obtain ⟨row, member, named, state⟩ := running
  cases change with
  | runCompleted => cases leaves
  | runCreated rows =>
      refine ⟨row, ?_, named, state⟩
      rw [← Table.mem_rows, rows]
      exact List.mem_append_left _ member
  | runStarted rows =>
      refine ⟨row, ?_, named, state⟩
      rw [← Table.mem_rows, rows]
      refine List.mem_map.mpr ⟨row, member, if_neg ?_⟩
      simp [state]
  | queue _ effect =>
      rw [effect.frame]
      exact ⟨row, member, named, state⟩
  | _ => exact ⟨row, member, named, state⟩

theorem leaves_of_isPlain (command : Command) (plain : command.isPlain = true) :
    command.saves = false ∧ command.closesRun = false := by
  cases command <;> first | exact ⟨rfl, rfl⟩ | cases plain

theorem Ahead.refl (kept : Kept library root listing runId world) :
    Ahead library root listing runId world world :=
  ⟨kept, .refl world, rfl, id⟩

theorem Ahead.keeps {first : World} (environment : Environment) (command : Command)
    (world : World) (plain : command.saves = false ∧ command.closesRun = false)
    (kept : Kept library root listing runId (performCommand library environment command world).2)
    (ahead : Ahead library root listing runId first world) :
    Ahead library root listing runId first
      (performCommand library environment command world).2 := by
  have change := performed_change library environment command world
  exact
    { kept := kept
      grow := ahead.grow.trans change.grow
      same := (change.keeps_checkpoint plain.1 _ _).trans ahead.same
      running := fun running => change.keeps_running plain.2 (ahead.running running) }

/-- The commands of a call before it loads its checkpoint. -/
theorem ahead_followed {α β : Type} {first : World} {program : Worker α} {next : α → Worker β}
    {returns : β → World → Prop}
    (issues : program.Issues fun command => command.saves = false ∧ command.closesRun = false)
    (ahead : Ahead library root listing runId first world)
    (continues : ∀ value later, Ahead library root listing runId first later →
      Yields library root listing runId call returns (next value) later) :
    Yields library root listing runId call returns (program >>= next) world :=
  yields_followed Ahead.keeps issues ahead continues

/-- A call comes to its checkpoint with all that it has found. -/
theorem yields_run {returns : SyntheticWorkerResult → World → Prop}
    (kept : Kept library root listing call.runId world)
    (continues : ∀ current recovery later, Ahead library root listing call.runId world later →
      Yields library root listing call.runId call returns
        (runFrom library root call current recovery (checkpointOf library world call.runId))
        later) :
    Yields library root listing call.runId call returns (run library root call) world := by
  have plain {α : Type} {program : Worker α} (isPlain : Plain program) :
      program.Issues fun command => command.saves = false ∧ command.closesRun = false :=
    isPlain.mono leaves_of_isPlain
  refine ahead_followed (plain (plain_require _)) (Ahead.refl kept) fun _ _ ahead => ?_
  refine ahead_followed (plain (plain_issue rfl)) ahead fun _ _ ahead => ?_
  refine ahead_followed (plain (plain_require _)) ahead fun _ _ ahead => ?_
  refine ahead_followed (plain (plain_issue rfl)) ahead fun freeBytes _ ahead => ?_
  refine ahead_followed (plain (plain_require _)) ahead fun _ _ ahead => ?_
  refine ahead_followed (plain (plain_currentTime call.now)) ahead fun current _ ahead => ?_
  refine ahead_followed (plain (plain_issue rfl)) ahead fun _ _ ahead => ?_
  refine ahead_followed (plain (plain_issue rfl)) ahead fun _ _ ahead => ?_
  refine ahead_followed (plain (plain_issue rfl)) ahead fun recovery _ ahead => ?_
  refine ahead_followed (plain plain_ensureRun) ahead fun _ ensured ahead => ?_
  refine Program.meets_bind.mpr (yields_issue fun _ checkpoint later outcome _ => ?_)
  have loaded : checkpointOf library ensured call.runId = checkpoint ∧ ensured = later := by
    cases outcome
    exact ⟨rfl, rfl⟩
  obtain ⟨rfl, rfl⟩ := loaded
  rw [ahead.same]
  exact continues current recovery ensured ahead

/-! ## A job that has succeeded -/

/-- The commands of discovery. -/
def Discovers (library : StandardLibrary) (runId : String) (command : Command) : Prop :=
  command.isPlain = true ∨
    command = .saveCheckpoint runId (partitionId library runId) "queued"

theorem JobLost.keeps (environment : Environment) (command : Command) (world : World)
    (discovering : Discovers library runId command)
    (kept : Kept library root listing runId (performCommand library environment command world).2)
    (lost : JobLost library root listing runId world) :
    JobLost library root listing runId (performCommand library environment command world).2 := by
  have change := performed_change library environment command world
  refine ⟨kept, lost.job.mono change.grow, ?_⟩
  rcases discovering with plain | rfl
  · have same : checkpointOf library (performCommand library environment command world).2 runId =
        checkpointOf library world runId :=
      change.keeps_checkpoint (leaves_of_isPlain command plain).1 _ _
    rw [same]
    exact lost.behind
  · cases outcome : performCommand library environment
        (.saveCheckpoint runId (partitionId library runId) "queued") world with
    | mk result later =>
        simp only [performCommand] at outcome
        obtain ⟨next, saving, rfl⟩ := onDb_eq.mp outcome
        rcases saveCheckpoint_cases saving with ⟨_, _, rfl⟩ | ⟨_, _, _, saved⟩
        · exact lost.behind
        · have now : checkpointOf library { world with db := next } runId = some "queued" :=
            (saved _ _).trans (if_pos ⟨rfl, rfl⟩)
          rw [now]
          exact Nat.le_of_eq rank_of_queued

/-- All jobs are the run's, so they are one job, and it has succeeded. -/
theorem JobLost.notEligible (lost : JobLost library root listing runId world) (current : String) :
    ∀ row ∈ world.db.jobs, ¬ Eligible current row := by
  intro row member eligible
  obtain ⟨other, otherMember, isRun, succeeded⟩ := lost.job
  have named := (lost.kept.durable.jobs row member).1
  have otherNamed := (lost.kept.durable.jobs other otherMember).1
  rw [(lost.kept.single.jobs row member).run] at named
  rw [isRun] at otherNamed
  have same : row = other := job_eq_of_id member otherMember (named.trans otherNamed.symm)
  have pending := eligible.1
  rw [same, succeeded] at pending
  cases pending

theorem yields_runQueued_of_lost {current : Datetime} {recovery : RecoveryCounts}
    (lost : JobLost library root listing runId world) :
    Yields library root listing runId call Incomplete
      (runQueued library root call current recovery) world := by
  refine Program.meets_bind.mpr (yields_issue fun environment lease later outcome _ => ?_)
  simp only [performCommand] at outcome
  obtain ⟨next, leasing, rfl⟩ := onDb_eq.mp outcome
  rcases leaseNext_cases leasing with ⟨_, isError, _⟩ | ⟨isNone, _⟩ | ⟨row, text, ends, effect, _⟩
  · cases isError
  · cases isNone
    simp [Program.Meets, Incomplete, workerResult, pure]
  · exact absurd effect.eligible (lost.notEligible text row effect.member)

theorem yields_runFrom_of_jobLost {current : Datetime} {recovery : RecoveryCounts}
    {checkpoint : Option String} (behind : checkpointRank checkpoint ≤ 1)
    (known : ∀ value, checkpoint = some value → value ∈ checkpoints)
    (lost : JobLost library root listing call.runId world) :
    Yields library root listing call.runId call Incomplete
      (runFrom library root call current recovery checkpoint) world := by
  cases checkpoint with
  | none =>
      refine yields_followed JobLost.keeps
        (issues_discoverAndQueue _ _ (fun _ plain => Or.inl plain) (Or.inr rfl)) lost ?_
      intro _ queued lostQueued
      split
      · simp [Program.Meets, Incomplete, workerResult, pure]
      · exact yields_runQueued_of_lost lostQueued
  | some value =>
      have isQueued : value = "queued" := by
        have member := known value rfl
        simp only [checkpoints, List.mem_cons, List.not_mem_nil, or_false] at member
        rcases member with rfl | rfl | rfl | rfl | rfl
        · rfl
        all_goals exact absurd behind (by decide)
      subst isQueued
      simp only [runFrom, if_true]
      exact yields_runQueued_of_lost lost

/-! ## A partition that is completed -/

theorem PartitionLost.keeps (environment : Environment) (command : Command) (world : World)
    (leaves : command.closesRun = false)
    (_ : Kept library root listing runId (performCommand library environment command world).2)
    (lost : PartitionLost library runId world) :
    PartitionLost library runId (performCommand library environment command world).2 := by
  have change := performed_change library environment command world
  exact ⟨change.keeps_running leaves lost.running, lost.completed.mono change.grow⟩

theorem lost_followed {α β : Type} {program : Worker α} {next : α → Worker β}
    {returns : β → World → Prop} (lost : PartitionLost library runId world)
    (issues : program.Issues fun command => command.closesRun = false)
    (continues : ∀ value later, PartitionLost library runId later →
      Yields library root listing runId call returns (next value) later) :
    Yields library root listing runId call returns (program >>= next) world :=
  yields_followed PartitionLost.keeps issues lost continues

theorem Plain.leaves {α : Type} {program : Worker α} (plain : Plain program) :
    program.Issues fun command => command.closesRun = false :=
  plain.mono fun command isPlain => (leaves_of_isPlain command isPlain).2

theorem leaves_issue {command : Command} (leaves : command.closesRun = false) :
    (issue command).Issues fun command => command.closesRun = false :=
  Program.issues_call leaves

/-- The run is open, and its partition cannot be completed again. -/
theorem yields_completeRunning_of_lost {run : Option RunRow} {returns : Unit → World → Prop}
    (lost : PartitionLost library runId world)
    (found : run = world.db.runs.find? fun row => row.crawlRunId = runId) :
    Yields library root listing runId call returns (completeRunning library runId run) world := by
  obtain ⟨row, member, named, running⟩ := lost.running
  cases run with
  | none => exact absurd (by simpa using named) (Table.find?_none.mp found.symm row member)
  | some other =>
      obtain ⟨otherMember, selected⟩ := Table.find?_some found.symm
      have otherNamed : other.crawlRunId = runId := by simpa using selected
      have same : other = row := Table.eq_of_clash otherMember member (otherNamed.trans named.symm)
      simp only [completeRunning, if_pos (same ▸ running)]
      refine Program.meets_bind.mpr (yields_issue fun environment _ later outcome _ => ?_)
      simp only [performCommand] at outcome
      obtain ⟨next, completing, rfl⟩ := onDb_eq.mp outcome
      obtain ⟨partition, isPartition, isNamed, processing⟩ :=
        (transitionPartition_cases completing).1.mp rfl
      obtain ⟨closed, isClosed, closedNamed, completed⟩ := lost.completed
      have samePartition : partition = closed :=
        Table.eq_of_clash isPartition isClosed (Or.inl (isNamed.trans closedNamed.symm))
      rw [samePartition, completed] at processing
      cases processing

theorem yields_runBatchRecorded_of_lost {recovery : RecoveryCounts}
    (lost : PartitionLost library runId world) :
    Yields library root listing runId call Incomplete
      (runBatchRecorded library root runId recovery) world := by
  refine Program.meets_bind.mpr (yields_issue fun _ run looked outcome _ => ?_)
  have isLooked : looked = world ∧ run = world.db.runs.find? fun row => row.crawlRunId = runId := by
    cases outcome
    exact ⟨rfl, rfl⟩
  obtain ⟨rfl, found⟩ := isLooked
  exact Program.meets_bind.mpr (yields_completeRunning_of_lost lost found)

theorem yields_runParserCompleted_of_lost {current : Datetime} {recovery : RecoveryCounts}
    (lost : PartitionLost library runId world) :
    Yields library root listing runId call Incomplete
      (runParserCompleted library root runId current recovery) world := by
  refine lost_followed lost (plain_recordBatchOf current).leaves fun _ _ lost => ?_
  refine lost_followed lost (leaves_issue rfl) fun _ _ lost => ?_
  exact yields_runBatchRecorded_of_lost lost

theorem yields_runSnapshotRecorded_of_lost {current : Datetime} {recovery : RecoveryCounts}
    (lost : PartitionLost library runId world) :
    Yields library root listing runId call Incomplete
      (runSnapshotRecorded library root runId current recovery) world := by
  refine lost_followed lost (leaves_issue rfl) fun parserRunId _ lost => ?_
  refine lost_followed lost (leaves_issue rfl) fun _ _ lost => ?_
  refine lost_followed lost (leaves_issue rfl) fun _ _ lost => ?_
  exact yields_runParserCompleted_of_lost lost

theorem yields_runLeased_of_lost {current : Datetime} {recovery : RecoveryCounts}
    {leasedJobId : String} (lost : PartitionLost library call.runId world) :
    Yields library root listing call.runId call Incomplete
      (runLeased library root call current recovery leasedJobId) world := by
  refine lost_followed lost (plain_stopRequested call).leaves fun stop _ lost => ?_
  split
  · refine lost_followed lost (leaves_issue rfl) fun _ _ _ => ?_
    simp [Program.Meets, Incomplete, workerResult, pure]
  · refine lost_followed lost (plain_recordSnapshotOf _ _ _).leaves fun path _ lost => ?_
    refine lost_followed lost (leaves_issue rfl) fun _ _ lost => ?_
    refine lost_followed lost (leaves_issue rfl) fun _ _ lost => ?_
    split
    · simp [Program.Meets, Incomplete, workerResult, pure]
    · exact yields_runSnapshotRecorded_of_lost lost

theorem yields_runQueued_of_partitionLost {current : Datetime} {recovery : RecoveryCounts}
    (lost : PartitionLost library call.runId world) :
    Yields library root listing call.runId call Incomplete
      (runQueued library root call current recovery) world := by
  refine lost_followed lost (leaves_issue rfl) fun lease _ lost => ?_
  cases lease with
  | none => simp [Program.Meets, Incomplete, workerResult, pure]
  | some lease =>
      dsimp only
      split
      · simp [Program.Meets, Incomplete, workerResult, pure]
      · exact yields_runLeased_of_lost lost

theorem yields_runFrom_of_partitionLost {current : Datetime} {recovery : RecoveryCounts}
    {checkpoint : Option String} (behind : checkpointRank checkpoint ≤ 4)
    (known : ∀ value, checkpoint = some value → value ∈ checkpoints)
    (lost : PartitionLost library call.runId world) :
    Yields library root listing call.runId call Incomplete
      (runFrom library root call current recovery checkpoint) world := by
  cases checkpoint with
  | none =>
      refine lost_followed lost
        (issues_discoverAndQueue _ _ (fun command isPlain => (leaves_of_isPlain command isPlain).2)
          rfl) fun _ _ lost => ?_
      split
      · simp [Program.Meets, Incomplete, workerResult, pure]
      · exact yields_runQueued_of_partitionLost lost
  | some value =>
      simp only [runFrom]
      split_ifs with queued snapshot parser batch
      · exact yields_runQueued_of_partitionLost lost
      · exact yields_runSnapshotRecorded_of_lost lost
      · exact yields_runParserCompleted_of_lost lost
      · exact yields_runBatchRecorded_of_lost lost
      · have isCompleted : value = "completed" := by
          simpa [checkpoints, queued, snapshot, parser, batch] using known value rfl
        subst isCompleted
        exact absurd behind (by decide)

/-! ## The condition -/

/-- A call from a state that is not resumable does not complete. -/
theorem yields_of_not_resumable (kept : Kept library root listing call.runId world)
    (lost : ¬ Resumable library call.runId world) :
    Yields library root listing call.runId call Incomplete (run library root call) world := by
  have known : ∀ value, checkpointOf library world call.runId = some value →
      value ∈ checkpoints := fun value stored =>
    (kept.durable.checkpoints call.runId value stored).1
  refine yields_run kept fun current recovery later ahead => ?_
  by_cases job : OwnJobSucceeded call.runId world ∧
      checkpointRank (checkpointOf library world call.runId) ≤ 1
  · refine yields_runFrom_of_jobLost job.2 known ⟨ahead.kept, job.1.mono ahead.grow, ?_⟩
    rw [ahead.same]
    exact job.2
  · have partition : checkpointRank (checkpointOf library world call.runId) ≤ 4 ∧
        RunRunning call.runId world ∧ PartitionCompleted library world call.runId := by
      by_contra other
      refine lost ⟨fun succeeded => ?_, fun bound running completed => ?_⟩
      · by_contra behind
        exact job ⟨succeeded, by omega⟩
      · exact other ⟨bound, running, completed⟩
    obtain ⟨bound, running, completed⟩ := partition
    exact yields_runFrom_of_partitionLost bound known
      ⟨ahead.running running, completed.mono ahead.grow⟩

/-- The call returns "completed". -/
def ReturnsCompleted (library : StandardLibrary) (root : String) (call : RunCall)
    (environments : Nat → Environment) (world : World) : Prop :=
  ∃ result, ((run library root call).execute (performCommand library) environments world).1 =
    .ok result ∧ result.state = "completed"

/-- An undisturbed call keeps the invariants of its run all along. -/
theorem undisturbed_permitted {environments : Nat → Environment}
    (kept : Kept library root listing call.runId world)
    (undisturbed : (run library root call).Permitted (performCommand library)
      (Undisturbed listing call) environments world) (raises : PyError → World → Prop) :
    (run library root call).Permitted (performCommand library)
      (resumeTerms library root listing call.runId call raises).permits environments world := by
  refine Program.Meets.permitted ?_ (run_meets kept.durable) kept undisturbed
  intro environment command world calm kept guarded
  have change := performed_change library environment command world
  have durable := kept.durable.keeps guarded change
  exact ⟨⟨respects_of_served calm.served, durable⟩, durable,
    kept.single.keeps calm.whole guarded⟩

/-- In every state that the calls of one run reach, a further call that nothing
disturbs completes the run exactly when the state is resumable: the job has not
succeeded behind its checkpoint, and the partition is not completed in an open
run. -/
theorem further_run_completes_iff (library : StandardLibrary) (root runId : String)
    (listing : List (String × Json)) (valid : ValidListing library listing)
    (named : Text.isBlank runId = false) (moves : List (WorkerMove Unit))
    (single : StepsMeet library root (SingleStep listing runId) moves) (call : RunCall)
    (further : FurtherCall library runId call (afterMoves library root moves).world)
    (environments : Nat → Environment)
    (undisturbed : (run library root call).Permitted (performCommand library)
      (Undisturbed listing call) environments (afterMoves library root moves).world)
    (left : ∀ row ∈ (afterMoves library root moves).world.db.jobs,
      row.state = .succeeded ∨ row.attemptCount < row.maxAttempts) :
    ReturnsCompleted library root call environments (afterMoves library root moves).world ↔
      Resumable library runId (afterMoves library root moves).world := by
  obtain ⟨durable, singleRun⟩ := singleRun_afterMoves single
  obtain rfl := further.own
  have kept : Kept library root listing call.runId (afterMoves library root moves).world :=
    ⟨durable, singleRun⟩
  constructor
  · rintro ⟨result, isResult, completed⟩
    by_contra lost
    have ended := (yields_of_not_resumable kept lost).execute
      (undisturbed_permitted kept undisturbed _)
    generalize (run library root call).execute (performCommand library) environments
      (afterMoves library root moves).world = outcome at isResult ended
    obtain ⟨_, later⟩ := outcome
    cases isResult
    exact ended completed
  · intro resumable
    have ended := (completes_run valid named further kept left resumable).execute
      (undisturbed_permitted kept undisturbed _)
    unfold ReturnsCompleted
    generalize (run library root call).execute (performCommand library) environments
      (afterMoves library root moves).world = outcome at ended
    obtain ⟨result, later⟩ := outcome
    cases result with
    | ok result => exact ⟨result, rfl, ended⟩
    | error raised => exact ended.elim

end Recovery

/-! ## A sample history -/

/-- The first call for the run is cut off after this many commands. -/
def cutRun (count : Nat) : List (WorkerMove Unit) :=
  .start () (sampleCall "run-1" none 0) :: sampleSteps () 0 count

/-- A call forty seconds later, when every lease of the first has expired. -/
def furtherCall : RunCall := sampleCall "run-1" none 40000000

def furtherEnvironments (index : Nat) : Environment := sampleEnvironment sampleListing (100 + index)

def ownChecks (session : WorkerSession) (_ : Environment) (_ : Command) (_ : World) : Bool :=
  decide (session.call.runId = "run-1")

/-- The identifier of the environment is new, and the clock is not read. -/
def calmChecks (environment : Environment) (command : Command) (world : World) : Bool :=
  (match command with | .readClock => false | _ => true) &&
    (world.db.observations.rows.all fun row =>
      decide (row.observationId ≠ environment.identifier)) &&
    (world.db.attempts.rows.all fun row => decide (row.jobAttemptId ≠ environment.identifier)) &&
    world.db.parserRuns.rows.all fun row => decide (row.parserRunId ≠ environment.identifier)

theorem singleStep_of_cutRun {count : Nat}
    (checked : History.allAlong (workerMove sampleLibrary "/runtime") (Pool.moveChecks ownChecks)
      (Pool.idle World.empty) (cutRun count) = true) :
    StepsMeet sampleLibrary "/runtime" (SingleStep sampleListing "run-1") (cutRun count) := by
  refine History.along_of_allAlong_mem _ ?_ checked
  intro next member pool checked
  rw [cutRun, List.mem_cons] at member
  rcases member with rfl | member
  · trivial
  · obtain ⟨number, _, rfl⟩ := List.mem_map.mp member
    intro session current command rest remaining
    simp only [Pool.moveChecks, current, remaining] at checked
    exact ⟨of_decide_eq_true checked, rfl, rfl⟩

theorem undisturbed_of_calmChecks {world : World}
    (checked : (run sampleLibrary "/runtime" furtherCall).permittedChecks
      (performCommand sampleLibrary) calmChecks furtherEnvironments world = true) :
    (run sampleLibrary "/runtime" furtherCall).Permitted (performCommand sampleLibrary)
      (Undisturbed sampleListing furtherCall) furtherEnvironments world := by
  refine Program.permitted_of_permittedChecks (fun index command world calm => ?_) checked
  simp only [calmChecks, Bool.and_eq_true] at calm
  obtain ⟨⟨⟨other, observations⟩, attempts⟩, parserRuns⟩ := calm
  exact
    { served := rfl
      whole := rfl
      space := show (1 : Int) ≤ ((1073741824 : Nat) : Int) by decide
      running := rfl
      fresh :=
        ⟨fun row member => of_decide_eq_true (List.all_eq_true.mp observations row member),
          fun row member => of_decide_eq_true (List.all_eq_true.mp attempts row member),
          fun row member => of_decide_eq_true (List.all_eq_true.mp parserRuns row member)⟩
      clock := fun reads => by
        subst reads
        cases other }

theorem sampleListing_valid : ValidListing sampleLibrary sampleListing where
  source := rfl
  key := ⟨"listing-1", rfl, by decide⟩
  url := ⟨"http://localhost/1", rfl, by decide +kernel⟩
  texts field member := by
    simp only [optionalFields, List.mem_cons, List.not_mem_nil, or_false] at member
    rcases member with rfl | rfl | rfl | rfl | rfl <;> exact ⟨none, rfl⟩
  specs := ⟨_, rfl, by decide +kernel⟩

/-- 2026-08-08T10:00:30Z. -/
def sampleExpiry : Instant := ⟨63921780030000000, by decide⟩

/-- A job's times are the morning and, if it is leased, thirty seconds later. -/
def timedAtMorning (row : JobRow) : Bool :=
  decide (row.scheduledAt = sampleMorning.text) &&
    match row.leaseExpiresAt with
    | none => true
    | some expires => decide (expires = sampleExpiry.text)

theorem furtherCall_of_checks {world : World}
    (checked : world.db.jobs.rows.all timedAtMorning = true) :
    FurtherCall sampleLibrary "run-1" furtherCall world where
  own := rfl
  stop := rfl
  fixture := by decide +kernel
  minimum := by decide
  lease := by decide
  now current isCurrent := by
    obtain rfl := Option.some.inj isCurrent
    refine ⟨rfl, ⟨_, rfl⟩, fun row member stamp stored => ?_⟩
    have timed := List.all_eq_true.mp checked row member
    simp only [timedAtMorning, Bool.and_eq_true, decide_eq_true_eq] at timed
    rcases stored with scheduled | leased
    · have same : stamp = sampleMorning := Instant.text_inj.mp (scheduled.symm.trans timed.1)
      subst same
      decide
    · rw [leased] at timed
      have same : stamp = sampleExpiry := Instant.text_inj.mp (of_decide_eq_true timed.2)
      subst same
      decide

/-- A call that is cut off with a lease in hand: the next one completes the run. -/
theorem leased_run_is_completed :
    ReturnsCompleted sampleLibrary "/runtime" furtherCall furtherEnvironments
      (afterMoves sampleLibrary "/runtime" (cutRun 24)).world := by
  obtain ⟨own, calm, timed, left, processing⟩ :
      History.allAlong (workerMove sampleLibrary "/runtime") (Pool.moveChecks ownChecks)
          (Pool.idle World.empty) (cutRun 24) = true ∧
        (run sampleLibrary "/runtime" furtherCall).permittedChecks (performCommand sampleLibrary)
            calmChecks furtherEnvironments
            (afterMoves sampleLibrary "/runtime" (cutRun 24)).world = true ∧
          (afterMoves sampleLibrary "/runtime" (cutRun 24)).world.db.jobs.rows.all
              timedAtMorning = true ∧
            (∀ row ∈ (afterMoves sampleLibrary "/runtime" (cutRun 24)).world.db.jobs.rows,
              row.state = .processing ∧ row.attemptCount < row.maxAttempts) ∧
              ∀ row ∈ (afterMoves sampleLibrary "/runtime" (cutRun 24)).world.db.partitions.rows,
                row.state = .processing := by decide +kernel
  have unfinished : ∀ row ∈ (afterMoves sampleLibrary "/runtime" (cutRun 24)).world.db.jobs,
      row.state ≠ .succeeded := by
    intro row member succeeded
    rw [(left row member).1] at succeeded
    cases succeeded
  refine (further_run_completes_iff sampleLibrary "/runtime" "run-1" sampleListing
    sampleListing_valid (by decide) (cutRun 24) (singleStep_of_cutRun own) furtherCall
    (furtherCall_of_checks timed) furtherEnvironments (undisturbed_of_calmChecks calm)
    fun row member => Or.inr (left row member).2).mpr ⟨?_, ?_⟩
  · rintro ⟨row, member, _, succeeded⟩
    exact absurd succeeded (unfinished row member)
  · rintro _ _ ⟨row, member, _, completed⟩
    rw [processing row member] at completed
    cases completed

def furtherWaits (world : World) : Bool :=
  ((run sampleLibrary "/runtime" furtherCall).execute (performCommand sampleLibrary)
    furtherEnvironments world).1.toOption.any fun result =>
      decide (result.state = "waiting_for_lease")

/-- A call that is cut off right after its job has succeeded: the next one waits. -/
theorem succeeded_run_is_not_completed :
    StepsMeet sampleLibrary "/runtime" (SingleStep sampleListing "run-1") (cutRun 25) ∧
      FurtherCall sampleLibrary "run-1" furtherCall
        (afterMoves sampleLibrary "/runtime" (cutRun 25)).world ∧
      (run sampleLibrary "/runtime" furtherCall).Permitted (performCommand sampleLibrary)
        (Undisturbed sampleListing furtherCall) furtherEnvironments
        (afterMoves sampleLibrary "/runtime" (cutRun 25)).world ∧
      (∀ row ∈ (afterMoves sampleLibrary "/runtime" (cutRun 25)).world.db.jobs,
        row.state = .succeeded ∨ row.attemptCount < row.maxAttempts) ∧
      ¬ ReturnsCompleted sampleLibrary "/runtime" furtherCall furtherEnvironments
        (afterMoves sampleLibrary "/runtime" (cutRun 25)).world := by
  obtain ⟨own, calm, timed, left, waits⟩ :
      History.allAlong (workerMove sampleLibrary "/runtime") (Pool.moveChecks ownChecks)
          (Pool.idle World.empty) (cutRun 25) = true ∧
        (run sampleLibrary "/runtime" furtherCall).permittedChecks (performCommand sampleLibrary)
            calmChecks furtherEnvironments
            (afterMoves sampleLibrary "/runtime" (cutRun 25)).world = true ∧
          (afterMoves sampleLibrary "/runtime" (cutRun 25)).world.db.jobs.rows.all
              timedAtMorning = true ∧
            (∀ row ∈ (afterMoves sampleLibrary "/runtime" (cutRun 25)).world.db.jobs.rows,
              row.state = .succeeded) ∧
              furtherWaits (afterMoves sampleLibrary "/runtime" (cutRun 25)).world = true := by
    decide +kernel
  refine ⟨singleStep_of_cutRun own, furtherCall_of_checks timed, undisturbed_of_calmChecks calm,
    fun row member => Or.inl (left row member), ?_⟩
  rintro ⟨result, isResult, completed⟩
  rw [furtherWaits, isResult] at waits
  have waiting : result.state = "waiting_for_lease" := of_decide_eq_true waits
  rw [completed] at waiting
  exact absurd waiting (by decide)

end ScraperProject.Orchestration
