import ScraperProject.Orchestration.WorkerDurability

/-!
Contract: when "completed" is true.

Owns the condition under which a completed checkpoint, and a call that returns
"completed", mean that the run, its partition and its job are finished: the final
stage finds the run started, and the queue leases to each call its run's own job.
Owns also a history that breaks the first half of the condition.

Does not own the other stages, whose claims hold without a condition.
-/

namespace ScraperProject.Orchestration

open Foundation
open Database

section Completion

variable (library : StandardLibrary)

/-! ## What "completed" means -/

/-- The run is finished in every table. -/
structure TrulyCompleted (world : World) (runId : String) : Prop where
  run : ∃ row ∈ world.db.runs, row.crawlRunId = runId ∧ row.state = .completed ∧
    row.startedAt.isSome ∧ row.finishedAt.isSome
  partition : ∃ row ∈ world.db.partitions, row.partitionId = partitionId library runId ∧
    row.crawlRunId = runId ∧ row.state = .completed
  job : ∃ row ∈ world.db.jobs, row.jobId = jobId library runId ∧ row.crawlRunId = runId ∧
    row.state = .succeeded

/-- The call in progress has returned "completed" for the run. -/
def ReturnedCompleted (pool : WorkerPool Unit) (runId : String) : Prop :=
  ∃ session result, pool.sessions () = some session ∧ session.call.runId = runId ∧
    session.rest = .done result ∧ result.state = "completed"

/-! ## The condition on a step -/

/-- A call reports success of its run's own job, and its final stage finds the run
started. -/
def CompletionStep (session : WorkerSession) (_ : Environment) : Command → World → Prop
  | .succeed leased _ _, _ => leased = jobId library session.call.runId
  | .saveCheckpoint runId _ value, world => value = "completed" →
      ∀ row ∈ world.db.runs, row.crawlRunId = runId → row.state ≠ .created
  | _, _ => True

/-- Each call reports success of its run's own job only. -/
def ownJobs : Promises where
  finished runId leased := leased = jobId library runId
  recorded _ _ := True
  fetched _ _ _ := True

/-- A run row that has reached a state has the columns of that state. -/
structure RunSound (world : World) (row : RunRow) : Prop where
  notFailed : row.state ≠ .failed
  started : row.state = .running ∨ row.state = .completed → row.startedAt.isSome
  finished : row.state = .completed → row.finishedAt.isSome
  partition : row.state = .completed → PartitionCompleted library world row.crawlRunId

/-- Every run row is sound, and the run of a completed checkpoint is closed. -/
structure RunsSound (world : World) : Prop where
  rows : ∀ row ∈ world.db.runs, RunSound library world row
  closed : ∀ runId, checkpointOf library world runId = some "completed" →
    RunClosed library world runId

variable {library} {world after : World} {runId : String} {command : Command}

theorem completionStep_respectful (session : WorkerSession) (environment : Environment)
    (command : Command) (world : World)
    (holds : CompletionStep library session environment command world) :
    Respectful (ownJobs library) session environment command world := by
  cases command with
  | succeed leased workerId now => exact holds
  | openUrl url => exact fun _ _ => trivial
  | _ => trivial

/-! ## The run table -/

/-- A run row after a change is an earlier one, a new one, or a transition of an
earlier one. -/
theorem Change.runs_origin (change : Change world command after) {row : RunRow}
    (member : row ∈ after.db.runs) :
    row ∈ world.db.runs ∨ row.state = .created ∨
      (∃ old ∈ world.db.runs, ∃ clock, row = old.transition .running true false clock) ∨
        ∃ old ∈ world.db.runs, ∃ clock, command = .completeRun old.crawlRunId ∧
          old.state = .running ∧ row = old.transition .completed false true clock := by
  cases change with
  | runCreated rows =>
      rw [← Table.mem_rows, rows, List.mem_append, List.mem_singleton] at member
      rcases member with old | rfl
      · exact Or.inl old
      · exact Or.inr (Or.inl rfl)
  | runStarted rows =>
      rw [← Table.mem_rows, rows, List.mem_map] at member
      obtain ⟨old, oldMember, rfl⟩ := member
      rcases transitionedRun_cases old with same | ⟨_, _, moved⟩
      · rw [same]
        exact Or.inl oldMember
      · exact Or.inr (Or.inr (Or.inl ⟨old, oldMember, _, moved⟩))
  | runCompleted rows =>
      rw [← Table.mem_rows, rows, List.mem_map] at member
      obtain ⟨old, oldMember, rfl⟩ := member
      rcases transitionedRun_cases old with same | ⟨named, running, moved⟩
      · rw [same]
        exact Or.inl oldMember
      · have command := congrArg Command.completeRun named.symm
        exact Or.inr (Or.inr (Or.inr ⟨old, oldMember, _, command, running, moved⟩))
  | queue _ effect =>
      rw [effect.frame] at member
      exact Or.inl member
  | _ => exact Or.inl member

theorem RunSound.mono {row : RunRow} (sound : RunSound library world row)
    (grow : Grow world after) : RunSound library after row :=
  { sound with partition := fun completed => (sound.partition completed).mono grow }

theorem RunClosed.mono (closed : RunClosed library world runId) (grow : Grow world after) :
    RunClosed library after runId := by
  obtain ⟨⟨row, member, named, completed⟩, partition⟩ := closed
  obtain ⟨later, laterMember, succeeds⟩ := grow.runs row member
  refine ⟨⟨later, laterMember, succeeds.1.trans named, ?_⟩, partition.mono grow⟩
  rw [succeeds.2 completed, completed]

theorem runsSound_empty : RunsSound library World.empty where
  rows _ member := absurd member Table.not_mem_empty
  closed _ stored := by cases stored

/-- A run that exists, was started, and runs no more is closed. -/
theorem RunsSound.closed_of_notRunning (sound : RunsSound library world)
    (exists_ : RunExists world runId)
    (started : ∀ row ∈ world.db.runs, row.crawlRunId = runId → row.state ≠ .created)
    (notRunning : NotRunning world runId) : RunClosed library world runId := by
  obtain ⟨row, member, rfl⟩ := exists_
  have completed : row.state = .completed := by
    cases state : row.state with
    | created => exact absurd state (started row member rfl)
    | running => exact absurd state (notRunning row member rfl)
    | completed => rfl
    | failed => exact absurd state (sound.rows row member).notFailed
  exact ⟨⟨row, member, rfl, completed⟩, (sound.rows row member).partition completed⟩

theorem RunsSound.keeps {root : String} {promises : Promises} {session : WorkerSession}
    {environment : Environment} (sound : RunsSound library world)
    (holds : CompletionStep library session environment command world)
    (guarded : Guard library root promises session.call.runId command world)
    (change : Change world command after) : RunsSound library after where
  rows row member := by
    rcases change.runs_origin member with
      old | isNew | ⟨old, oldMember, clock, rfl⟩ |
        ⟨old, oldMember, clock, isComplete, running, rfl⟩
    · exact (sound.rows row old).mono change.grow
    · exact
        { notFailed := by simp [isNew]
          started := by simp [isNew]
          finished := by simp [isNew]
          partition := by simp [isNew] }
    · exact
        { notFailed := by simp [RunRow.transition]
          started := by simp [RunRow.transition]
          finished := by simp [RunRow.transition]
          partition := by simp [RunRow.transition] }
    · subst isComplete
      obtain ⟨isRun, completed⟩ := guarded
      have startedBefore := (sound.rows old oldMember).started (Or.inl running)
      exact
        { notFailed := by simp [RunRow.transition]
          started := by simpa [RunRow.transition] using startedBefore
          finished := by simp [RunRow.transition]
          partition := fun _ => isRun ▸ completed.mono change.grow }
  closed run stored := by
    rcases change.checkpoint_origin run (partitionId library run) with same | ⟨saved, isSave, now⟩
    · exact (sound.closed run (same.symm.trans stored)).mono change.grow
    · subst isSave
      have isCompleted : saved = "completed" := Option.some.inj (now.symm.trans stored)
      subst isCompleted
      obtain ⟨rfl, _, _, _, reached, closed⟩ := guarded
      refine RunClosed.mono ?_ change.grow
      rcases closed rfl with already | notRunning
      · exact already
      · rw [rank_of_completed] at reached
        exact sound.closed_of_notRunning (reached.queued (by decide)).run (holds rfl) notRunning

/-! ## Histories -/

theorem TrulyCompleted.of_sound {promises : Promises} (durable : Durable library promises world)
    (own : ∀ leased, promises.finished runId leased → leased = jobId library runId)
    (sound : RunsSound library world)
    (stored : checkpointOf library world runId = some "completed") :
    TrulyCompleted library world runId where
  run := by
    obtain ⟨⟨row, member, named, completed⟩, _⟩ := sound.closed runId stored
    have columns := sound.rows row member
    exact ⟨row, member, named, completed, columns.started (Or.inr completed),
      columns.finished completed⟩
  partition := by
    obtain ⟨_, row, member, named, completed⟩ := sound.closed runId stored
    have isRun := partitionId_injective ((durable.partitions row member).symm.trans named)
    exact ⟨row, member, named, isRun, completed⟩
  job := by
    have reached := durable.reached runId
    rw [stored, rank_of_completed] at reached
    obtain ⟨row, member, isOwn, succeeded⟩ := (reached.snapshot (by decide)).2
    have named := own row.jobId isOwn
    have isRun := jobId_injective ((durable.jobs row member).1.symm.trans named)
    exact ⟨row, member, named, isRun, succeeded⟩

/-- In every history whose steps meet the condition, a run is finished in every
table when its checkpoint, or the call in progress, says "completed". -/
theorem completion_is_truthful (library : StandardLibrary) (root : String)
    (moves : List (WorkerMove Unit)) (runId : String)
    (meets : StepsMeet library root (CompletionStep library) moves)
    (claimed : checkpointOf library (afterMoves library root moves).world runId = some "completed" ∨
      ReturnedCompleted (afterMoves library root moves) runId) :
    TrulyCompleted library (afterMoves library root moves).world runId := by
  have pool := soundPool_afterMoves completionStep_respectful meets
  have runs : RunsSound library (afterMoves library root moves).world :=
    extra_afterMoves completionStep_respectful (RunsSound library) runsSound_empty
      (fun _ environment command world holds _ guarded sound =>
        sound.keeps holds guarded (performed_change library environment command world)) meets
  have stored : checkpointOf library (afterMoves library root moves).world runId =
      some "completed" := by
    rcases claimed with stored | ⟨session, result, current, rfl, ended, returned⟩
    · exact stored
    · have respected := pool.2 () session current
      rw [ended] at respected
      exact respected returned
  exact TrulyCompleted.of_sound pool.1 (fun _ => id) runs stored

end Completion

/-! ## Sample histories -/

/-- The first call is cut off between `create_run` and `start`, and the second
runs to its end. -/
def unstartedRun : List (WorkerMove Unit) :=
  .start () (sampleCall "run-1" none 0) :: sampleSteps () 0 8 ++
    [.stop (), .start () (sampleCall "run-1" none 1000000)] ++ sampleSteps () 8 34

def returnsCompleted (runId : String) (session : WorkerSession) : Bool :=
  decide (session.call.runId = runId) &&
    (returnedResult session).any fun result => decide (result.state = "completed")

theorem returnedCompleted_of_check {pool : WorkerPool Unit} {runId : String}
    (checked : (pool.sessions ()).any (returnsCompleted runId) = true) :
    ReturnedCompleted pool runId :=
  returned_of_check checked

/-- The second call returns "completed", and no run has reached that state. -/
theorem unstarted_run_returns_completed :
    ReturnedCompleted (afterMoves sampleLibrary "/runtime" unstartedRun) "run-1" ∧
      ¬ TrulyCompleted sampleLibrary (afterMoves sampleLibrary "/runtime" unstartedRun).world
        "run-1" := by
  obtain ⟨returned, created⟩ :
      ((afterMoves sampleLibrary "/runtime" unstartedRun).sessions ()).any
          (returnsCompleted "run-1") = true ∧
        ∀ row ∈ (afterMoves sampleLibrary "/runtime" unstartedRun).world.db.runs.rows,
          row.state ≠ .completed := by decide +kernel
  refine ⟨returnedCompleted_of_check returned, fun truly => ?_⟩
  obtain ⟨row, member, _, completed, _⟩ := truly.run
  exact created row member completed

/-- The condition on a step, evaluated. -/
def completionChecks (session : WorkerSession) (_ : Environment) : Command → World → Bool
  | .succeed leased _ _, _ => decide (leased = jobId sampleLibrary session.call.runId)
  | .saveCheckpoint _ _ _, world => world.db.runs.rows.all fun row => decide (row.state ≠ .created)
  | _, _ => true

theorem completionStep_of_checks (session : WorkerSession) (environment : Environment)
    (command : Command) (world : World)
    (checked : completionChecks session environment command world = true) :
    CompletionStep sampleLibrary session environment command world := by
  cases command with
  | succeed leased workerId now =>
      have own : leased = jobId sampleLibrary session.call.runId := of_decide_eq_true checked
      exact own
  | saveCheckpoint runId partitionId value =>
      intro _ row member _
      exact of_decide_eq_true (List.all_eq_true.mp checked row member)
  | _ => trivial

/-- A call that is cut off once its job is queued, and one that completes the run. -/
def resumedRun : List (WorkerMove Unit) :=
  .start () (sampleCall "run-1" none 0) :: sampleSteps () 0 18 ++
    [.stop (), .start () (sampleCall "run-1" none 1000000)] ++ sampleSteps () 18 30

theorem completion_of_resumed_run :
    TrulyCompleted sampleLibrary (afterMoves sampleLibrary "/runtime" resumedRun).world
      "run-1" := by
  obtain ⟨checked, stored⟩ :
      History.allAlong (workerMove sampleLibrary "/runtime") (Pool.moveChecks completionChecks)
          (Pool.idle World.empty) resumedRun = true ∧
        checkpointOf sampleLibrary (afterMoves sampleLibrary "/runtime" resumedRun).world "run-1" =
          some "completed" := by decide +kernel
  exact completion_is_truthful sampleLibrary "/runtime" resumedRun "run-1"
    (stepsMeet_of_checks completionStep_of_checks checked) (Or.inl stored)

end ScraperProject.Orchestration
