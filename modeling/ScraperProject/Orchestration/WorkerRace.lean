import ScraperProject.Orchestration.WorkerHistory
import ScraperProject.Orchestration.WorkerStages

/-!
Contract: workers that run at the same time.

Owns what a call saves, by what it has seen itself: each save is the successor of
the checkpoint that the call loaded or saved last. Owns from it the exact
condition under which a checkpoint never moves backwards, for any number of
processes and any interleaving, and an interleaving of two that breaks it.

Does not own single-process histories, in which the condition always holds.
-/

namespace ScraperProject.Orchestration

open Foundation
open Database

/-! ## What a call has seen -/

/-- A command that reads or writes a checkpoint. -/
def Command.touchesCheckpoint : Command → Bool
  | .loadCheckpoint _ _ => true
  | .saveCheckpoint _ _ _ => true
  | _ => false

/-- The checkpoint that the call loaded or saved last. -/
def observeCheckpoint :
    (command : Command) → Except PyError (Reply command) → Option String → Option String
  | .loadCheckpoint _ _, .ok stored, _ => stored
  | .saveCheckpoint _ _ checkpointValue, .ok _, _ => some checkpointValue
  | _, _, view => view

def lastCheckpoint (session : WorkerSession) : Option String :=
  Pool.view observeCheckpoint none session

section Race

variable (library : StandardLibrary) (root runId : String)

/-- A save is of the run's checkpoint, and of the successor of the one seen. -/
def SavesNext : Command → Option String → Prop
  | .saveCheckpoint run partition checkpointValue, view =>
      run = runId ∧ partition = partitionId library runId ∧
        checkpointRank (some checkpointValue) = checkpointRank view + 1
  | _, _ => True

abbrev SavesInOrder {α : Type} (returns : α → Option String → Prop) (program : Worker α)
    (view : Option String) : Prop :=
  program.Always (SavesNext library runId) observeCheckpoint returns view

/-- The program neither loads nor saves a checkpoint. -/
def Quiet {α : Type} (program : Worker α) : Prop :=
  ∀ view, SavesInOrder library runId (fun _ later => later = view) program view

variable {library root runId} {view : Option String}

/-! ## Programs without checkpoints -/

theorem quiet_of_issues {α : Type} {program : Worker α}
    (issues : program.Issues fun command => command.touchesCheckpoint = false) :
    Quiet library runId program := by
  intro view
  refine Program.Issues.always issues ?_ ?_ rfl
  · intro command _ other _
    cases command <;> trivial
  · intro command outcome _ other same
    cases command <;> first | exact same | cases other

theorem Plain.quiet {α : Type} {program : Worker α} (plain : Plain program) :
    Quiet library runId program := by
  refine quiet_of_issues (plain.mono fun command isPlain => ?_)
  cases command <;> first | rfl | cases isPlain

theorem quiet_issue {command : Command} (other : command.touchesCheckpoint = false) :
    Quiet library runId (issue command) := quiet_of_issues (Program.issues_call other)

/-- After a program without checkpoints the call has seen nothing new. -/
theorem Quiet.followed {α β : Type} {program : Worker α} {next : α → Worker β}
    {returns : β → Option String → Prop} (quiet : Quiet library runId program)
    (continues : ∀ value, SavesInOrder library runId returns (next value) view) :
    SavesInOrder library runId returns (program >>= next) view :=
  Program.Always.bind (quiet view) fun value _ same => same ▸ continues value

/-! ## The stages -/

/-- A save of the successor, and what follows it. -/
theorem savesInOrder_save {β : Type} {checkpointValue : String} {next : Unit → Worker β}
    {returns : β → Option String → Prop}
    (advances : checkpointRank (some checkpointValue) = checkpointRank view + 1)
    (continues : SavesInOrder library runId returns (next ()) (some checkpointValue)) :
    SavesInOrder library runId returns
      (issue (.saveCheckpoint runId (partitionId library runId) checkpointValue) >>= next) view :=
  Program.always_bind.mpr
    (Program.always_call.mpr ⟨⟨rfl, rfl, advances⟩, fun _ => continues⟩)

theorem savesInOrder_runBatchRecorded (recovery : RecoveryCounts) :
    SavesInOrder library runId (fun _ _ => True) (runBatchRecorded library root runId recovery)
      (some "batch-recorded") := by
  refine (quiet_issue rfl).followed fun run => ?_
  refine (quiet_of_issues (issues_completeRunning run rfl rfl)).followed fun _ => ?_
  exact savesInOrder_save (by decide) trivial

theorem savesInOrder_runParserCompleted (current : Datetime) (recovery : RecoveryCounts) :
    SavesInOrder library runId (fun _ _ => True)
      (runParserCompleted library root runId current recovery) (some "parser-completed") := by
  refine (plain_recordBatchOf current).quiet.followed fun _ => ?_
  exact savesInOrder_save (by decide) (savesInOrder_runBatchRecorded recovery)

theorem savesInOrder_runSnapshotRecorded (current : Datetime) (recovery : RecoveryCounts) :
    SavesInOrder library runId (fun _ _ => True)
      (runSnapshotRecorded library root runId current recovery) (some "snapshot-recorded") := by
  refine (quiet_issue rfl).followed fun _ => ?_
  refine (quiet_issue rfl).followed fun _ => ?_
  exact savesInOrder_save (by decide) (savesInOrder_runParserCompleted current recovery)

theorem savesInOrder_runLeased (call : RunCall) (current : Datetime) (recovery : RecoveryCounts)
    (leasedJobId : String) :
    SavesInOrder library call.runId (fun _ _ => True)
      (runLeased library root call current recovery leasedJobId) (some "queued") := by
  refine (plain_stopRequested call).quiet.followed fun stop => ?_
  split
  · exact (quiet_issue rfl).followed fun _ => trivial
  · refine (plain_recordSnapshotOf call.fixtureUrl leasedJobId current).quiet.followed fun path => ?_
    refine (quiet_issue rfl).followed fun _ => ?_
    refine savesInOrder_save (by decide) ?_
    split
    · trivial
    · exact savesInOrder_runSnapshotRecorded current recovery

theorem savesInOrder_runQueued (call : RunCall) (current : Datetime)
    (recovery : RecoveryCounts) :
    SavesInOrder library call.runId (fun _ _ => True) (runQueued library root call current recovery)
      (some "queued") := by
  refine (quiet_issue rfl).followed fun lease => ?_
  split
  · trivial
  · split
    · trivial
    · exact savesInOrder_runLeased call current recovery _

theorem savesInOrder_discoverAndQueue (fixtureUrl : String) (current : Datetime) :
    SavesInOrder library runId (fun _ later => later = some "queued")
      (discoverAndQueue library fixtureUrl runId current) none := by
  refine (plain_fetchFixture fixtureUrl).quiet.followed fun payload => ?_
  refine (plain_require _).quiet.followed fun listingKey => ?_
  refine (plain_require _).quiet.followed fun listingUrl => ?_
  refine (plain_require _).quiet.followed fun observation => ?_
  refine (quiet_issue rfl).followed fun _ => ?_
  refine (plain_require _).quiet.followed fun _ => ?_
  refine (quiet_issue rfl).followed fun _ => ?_
  exact Program.always_call.mpr ⟨⟨rfl, rfl, by decide⟩, fun _ => rfl⟩

theorem savesInOrder_runFrom (call : RunCall) (current : Datetime) (recovery : RecoveryCounts)
    (checkpoint : Option String) :
    SavesInOrder library call.runId (fun _ _ => True)
      (runFrom library root call current recovery checkpoint) checkpoint := by
  cases checkpoint with
  | none =>
      refine Program.Always.bind (savesInOrder_discoverAndQueue _ current) fun _ _ same => ?_
      subst same
      split
      · trivial
      · exact savesInOrder_runQueued call current recovery
  | some value =>
      simp only [runFrom]
      split_ifs with queued snapshot parser batch
      · exact queued ▸ savesInOrder_runQueued call current recovery
      · exact snapshot ▸ savesInOrder_runSnapshotRecorded current recovery
      · exact parser ▸ savesInOrder_runParserCompleted current recovery
      · exact batch ▸ savesInOrder_runBatchRecorded recovery
      · trivial

/-- Each save of a call is the successor of the checkpoint that it has seen. -/
theorem savesInOrder_run (call : RunCall) :
    SavesInOrder library call.runId (fun _ _ => True) (run library root call) none := by
  refine (plain_require _).quiet.followed fun _ => ?_
  refine (quiet_issue rfl).followed fun _ => ?_
  refine (plain_require _).quiet.followed fun _ => ?_
  refine (quiet_issue rfl).followed fun freeBytes => ?_
  refine (plain_require _).quiet.followed fun _ => ?_
  refine (plain_currentTime call.now).quiet.followed fun current => ?_
  refine (quiet_issue rfl).followed fun _ => ?_
  refine (quiet_issue rfl).followed fun _ => ?_
  refine (quiet_issue rfl).followed fun recovery => ?_
  refine plain_ensureRun.quiet.followed fun _ => ?_
  exact Program.always_bind.mpr (Program.always_call.mpr
    ⟨trivial, fun checkpoint => savesInOrder_runFrom call current recovery checkpoint⟩)

/-! ## Interleavings -/

section Interleavings

variable {Process : Type} [DecidableEq Process]

variable (library root runId) in
/-- The stored checkpoint of the run never moves backwards in the history. -/
def NeverBackwards (moves : List (WorkerMove Process)) : Prop :=
  ∀ earlier later rest, moves = earlier ++ later ++ rest →
    checkpointRank (checkpointOf library (afterMoves library root earlier).world runId) ≤
      checkpointRank (checkpointOf library (afterMoves library root (earlier ++ later)).world runId)

variable (library runId) in
/-- A save for the run finds the stored checkpoint at most one stage past the one
that its call has seen. -/
def FreshStep (session : WorkerSession) (_ : Environment) : Command → World → Prop
  | .saveCheckpoint run _ _, world => run = runId →
      checkpointRank (checkpointOf library world runId) ≤
        checkpointRank (lastCheckpoint session) + 1
  | _, _ => True

theorem guarded_afterMoves (moves : List (WorkerMove Process)) :
    Pool.Guarded observeCheckpoint none (fun call => SavesNext library call.runId)
      (afterMoves library root moves) :=
  History.after_invariant _
    (fun next pool guarded => Pool.guarded_move savesInOrder_run next pool guarded)
    Pool.guarded_idle moves

/-- A save moves the checkpoint of its run to its value, or nothing moves. -/
theorem freshSave_iff {environment : Environment} {run value : String} {view : Option String}
    {world : World} (advances : checkpointRank (some value) = checkpointRank view + 1) :
    (run = runId → checkpointRank (checkpointOf library world runId) ≤ checkpointRank view + 1) ↔
      checkpointRank (checkpointOf library world runId) ≤
        checkpointRank (checkpointOf library (performCommand library environment
          (.saveCheckpoint run (partitionId library run) value) world).2 runId) := by
  cases outcome : performCommand library environment
      (.saveCheckpoint run (partitionId library run) value) world with
  | mk result later =>
      simp only [performCommand] at outcome
      obtain ⟨next, call, rfl⟩ := onDb_eq.mp outcome
      rcases saveCheckpoint_cases call with ⟨raised, rfl, rfl⟩ | ⟨_, _, _, saved⟩
      · refine iff_of_true ?_ (Nat.le_refl _)
        rintro rfl
        -- Only the insertion of a first checkpoint can raise.
        cases stored : checkpointOf library world run with
        | none => exact Nat.zero_le _
        | some old =>
            have isOk := @saveCheckpoint_of_stored _ _ value _ environment.clock _ stored
            rw [call] at isOk
            cases isOk
      · have now : checkpointOf library { world with db := next } runId =
            if runId = run ∧ partitionId library runId = partitionId library run then some value
            else checkpointOf library world runId := saved _ _
        by_cases same : run = runId
        · subst same
          rw [now, if_pos ⟨rfl, rfl⟩, advances]
          exact ⟨fun fresh => fresh rfl, fun le _ => le⟩
        · rw [now, if_neg fun both => same both.1.symm]
          exact iff_of_true (fun isRun => absurd isRun same) (Nat.le_refl _)

/-- A save in order moves the checkpoint backwards exactly when it is not fresh. -/
theorem freshStep_iff {session : WorkerSession} {environment : Environment} {command : Command}
    {world : World}
    (inOrder : SavesNext library session.call.runId command (lastCheckpoint session)) :
    FreshStep library runId session environment command world ↔
      checkpointRank (checkpointOf library world runId) ≤ checkpointRank
        (checkpointOf library (performCommand library environment command world).2 runId) := by
  have change := performed_change library environment command world
  by_cases isSave : command.saves = true
  · cases command with
    | saveCheckpoint run partition value =>
        obtain ⟨rfl, rfl, advances⟩ := inOrder
        exact freshSave_iff advances
    | _ => cases isSave
  · have same : checkpointOf library (performCommand library environment command world).2 runId =
        checkpointOf library world runId :=
      change.keeps_checkpoint (Bool.eq_false_iff.mpr isSave) _ _
    rw [same]
    refine iff_of_true ?_ (Nat.le_refl _)
    cases command <;> trivial

theorem freshMove_iff (root : String) {pool : WorkerPool Process} {next : WorkerMove Process}
    (guarded : Pool.Guarded observeCheckpoint none (fun call => SavesNext library call.runId) pool) :
    Pool.MoveMeets (fun _ => True) (FreshStep library runId) pool next ↔
      checkpointRank (checkpointOf library pool.world runId) ≤
        checkpointRank (checkpointOf library (workerMove library root next pool).2.world runId) := by
  refine Pool.moveMeets_iff_related (fun before after =>
    checkpointRank (checkpointOf library before runId) ≤
      checkpointRank (checkpointOf library after runId)) (fun _ => Nat.le_refl _) ?_
  intro process environment session command rest current remaining
  have respected := guarded process session current
  rw [remaining] at respected
  exact freshStep_iff respected.1

/-- A checkpoint never moves backwards, whatever the processes, exactly in the
histories in which each save finds the checkpoint at most one stage past the one
that its call loaded or saved last. -/
theorem never_backwards_iff (library : StandardLibrary) (root runId : String)
    (moves : List (WorkerMove Process)) :
    NeverBackwards library root runId moves ↔
      StepsMeet library root (FreshStep library runId) moves := by
  constructor
  · intro never
    refine (History.along_iff_forall _).mpr fun earlier next rest same => ?_
    refine (freshMove_iff root (guarded_afterMoves earlier)).mpr ?_
    have step := never earlier [next] rest (by simp [same])
    rwa [afterMoves_append] at step
  · rintro meets earlier later rest rfl
    obtain ⟨first, _⟩ := (History.along_append _).mp meets
    obtain ⟨_, second⟩ := (History.along_append _).mp first
    rw [afterMoves_append]
    refine @History.along_related _ _ _ (workerMove library root) _
      (Pool.Guarded observeCheckpoint none fun call => SavesNext library call.runId)
      (fun before after => checkpointRank (checkpointOf library before.world runId) ≤
        checkpointRank (checkpointOf library after.world runId))
      (fun _ => Nat.le_refl _) Nat.le_trans
      (fun next pool _ guarded => Pool.guarded_move savesInOrder_run next pool guarded) ?_ _
      (guarded_afterMoves earlier) _ second
    intro next pool fresh guarded
    exact (freshMove_iff root guarded).mp fresh

end Interleavings

end Race

/-! ## Two processes -/

/-- One process has loaded no checkpoint when another takes the run to
"snapshot-recorded"; the first then saves "queued". -/
def lateSave : List (WorkerMove Bool) :=
  .start false (sampleCall "run-1" none 0) :: sampleSteps false 0 14 ++
    .start true (sampleCall "run-1" (some "snapshot") 0) :: sampleSteps true 14 22

/-- The checkpoint goes back from "snapshot-recorded" to "queued". -/
theorem late_save_moves_backwards :
    checkpointOf sampleLibrary (afterMoves sampleLibrary "/runtime" lateSave).world "run-1" =
        some "snapshot-recorded" ∧
      checkpointOf sampleLibrary
          (afterMoves sampleLibrary "/runtime" (lateSave ++ sampleSteps false 36 4)).world "run-1" =
        some "queued" ∧
      ¬ NeverBackwards sampleLibrary "/runtime" "run-1" (lateSave ++ sampleSteps false 36 4) := by
  obtain ⟨ahead, behind⟩ :
      checkpointOf sampleLibrary (afterMoves sampleLibrary "/runtime" lateSave).world "run-1" =
          some "snapshot-recorded" ∧
        checkpointOf sampleLibrary
            (afterMoves sampleLibrary "/runtime" (lateSave ++ sampleSteps false 36 4)).world
            "run-1" = some "queued" := by decide +kernel
  refine ⟨ahead, behind, fun never => ?_⟩
  have step := never lateSave (sampleSteps false 36 4) [] (List.append_nil _).symm
  rw [ahead, behind] at step
  exact absurd step (by decide)

end ScraperProject.Orchestration
