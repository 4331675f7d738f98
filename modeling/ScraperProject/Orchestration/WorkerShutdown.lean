import ScraperProject.Foundation.IsoText
import ScraperProject.Orchestration.WorkerWaiting

/-!
Contract: what a graceful shutdown does to the job in hand.

Owns the lease that a call has taken and whether it has given it back, the
condition on the step that gives it back (an attempt is left), and the result that
a call that stops gracefully under it leaves its job to be leased again. Owns also a
history in which a shutdown ends the job.

Does not own which attempts the earlier calls have used up.
-/

namespace ScraperProject.Orchestration

open Foundation
open Foundation.IsoText
open Database
open Contracts

/-! ## The lease of a call -/

/-- The job that a call has leased, and whether the call has given it back. -/
structure LeaseInHand where
  leased : Option String
  givenBack : Bool
deriving DecidableEq

def observeLease :
    (command : Command) → Except PyError (Reply command) → LeaseInHand → LeaseInHand
  | .leaseNext _ _ _, .ok (some lease), _ => { leased := some lease.jobId, givenBack := false }
  | .fail _ _ _ _, .ok _, hand => { hand with givenBack := true }
  | _, _, hand => hand

/-- No job is leased. -/
def LeaseInHand.empty : LeaseInHand where
  leased := none
  givenBack := false

def leaseInHand (session : WorkerSession) : LeaseInHand :=
  Pool.view observeLease .empty session

/-- A command that can change the lease in hand. -/
def Command.movesLease : Command → Bool
  | .leaseNext _ _ _ => true
  | .fail _ _ _ _ => true
  | _ => false

section Shutdown

variable {library : StandardLibrary} {root : String}

/-- Nothing follows the return of a lease, and what is given back is the job in hand. -/
def GivesBackLeased (command : Command) (hand : LeaseInHand) : Prop :=
  hand.givenBack = false ∧
    ∀ job workerId errorClass now, command = .fail job workerId errorClass now →
      hand.leased = some job

/-- A call stops gracefully only after it has given its lease back. -/
def StopsGivenBack (result : SyntheticWorkerResult) (hand : LeaseInHand) : Prop :=
  result.state = "gracefully_stopped" → hand.givenBack = true

abbrev Releases {α : Type} (returns : α → LeaseInHand → Prop) (program : Worker α)
    (hand : LeaseInHand) : Prop :=
  program.Always GivesBackLeased observeLease returns hand

/-! ## The stages -/

theorem keepsLease_of_isPlain (command : Command) (isPlain : command.isPlain = true) :
    command.movesLease = false := by
  cases command <;> first | rfl | cases isPlain

theorem Plain.keepsLease {α : Type} {program : Worker α} (plain : Plain program) :
    program.Issues fun command => command.movesLease = false := plain.mono keepsLease_of_isPlain

theorem keepsLease_issue {command : Command} (keeps : command.movesLease = false) :
    (issue command).Issues fun command => command.movesLease = false :=
  Program.issues_call keeps

/-- Commands that leave the lease alone, while it has not been given back. -/
theorem releases_of_keepsLease {α : Type} {program : Worker α} {hand : LeaseInHand}
    (keeps : program.Issues fun command => command.movesLease = false)
    (inHand : hand.givenBack = false) : Releases (fun _ later => later = hand) program hand := by
  refine Program.Issues.always keeps ?_ ?_ rfl
  · rintro command view keeping rfl
    refine ⟨inHand, ?_⟩
    rintro job workerId errorClass now rfl
    cases keeping
  · rintro command outcome view keeping rfl
    cases command <;> first | rfl | cases keeping

theorem releases_followed {α β : Type} {program : Worker α} {next : α → Worker β}
    {returns : β → LeaseInHand → Prop} {hand : LeaseInHand}
    (keeps : program.Issues fun command => command.movesLease = false)
    (inHand : hand.givenBack = false)
    (continues : ∀ value, Releases returns (next value) hand) :
    Releases returns (program >>= next) hand :=
  Program.Always.bind (releases_of_keepsLease keeps inHand) fun value _ same =>
    same ▸ continues value

/-- The end of a call that does not stop gracefully. -/
theorem releases_pure {result : SyntheticWorkerResult} {hand : LeaseInHand}
    (other : result.state ≠ "gracefully_stopped") :
    Releases StopsGivenBack (pure result) hand := fun stopped => absurd stopped other

section Stages

variable {hand : LeaseInHand} (inHand : hand.givenBack = false)

include inHand

theorem releases_runBatchRecorded (runId : String) (recovery : RecoveryCounts) :
    Releases StopsGivenBack (runBatchRecorded library root runId recovery) hand := by
  refine releases_followed (keepsLease_issue rfl) inHand fun run => ?_
  refine releases_followed (issues_completeRunning run rfl rfl) inHand fun _ => ?_
  refine releases_followed (keepsLease_issue rfl) inHand fun _ => ?_
  exact releases_pure (by simp [completedResult, workerResult])

theorem releases_runParserCompleted (runId : String) (current : Datetime)
    (recovery : RecoveryCounts) :
    Releases StopsGivenBack (runParserCompleted library root runId current recovery) hand := by
  refine releases_followed (plain_recordBatchOf current).keepsLease inHand fun _ => ?_
  refine releases_followed (keepsLease_issue rfl) inHand fun _ => ?_
  exact releases_runBatchRecorded inHand runId recovery

theorem releases_runSnapshotRecorded (runId : String) (current : Datetime)
    (recovery : RecoveryCounts) :
    Releases StopsGivenBack (runSnapshotRecorded library root runId current recovery) hand := by
  refine releases_followed (keepsLease_issue rfl) inHand fun _ => ?_
  refine releases_followed (keepsLease_issue rfl) inHand fun _ => ?_
  refine releases_followed (keepsLease_issue rfl) inHand fun _ => ?_
  exact releases_runParserCompleted inHand runId current recovery

theorem releases_runLeased (call : RunCall) (current : Datetime) (recovery : RecoveryCounts)
    {leasedJobId : String} (leased : hand.leased = some leasedJobId) :
    Releases StopsGivenBack (runLeased library root call current recovery leasedJobId) hand := by
  refine releases_followed (plain_stopRequested call).keepsLease inHand fun stop => ?_
  split
  · refine Program.always_bind.mpr (Program.always_call.mpr ⟨⟨inHand, ?_⟩, fun _ => ?_⟩)
    · rintro job workerId errorClass now ⟨⟩
      exact leased
    · exact fun _ => rfl
  · refine releases_followed (plain_recordSnapshotOf _ _ _).keepsLease inHand fun path => ?_
    refine releases_followed (keepsLease_issue rfl) inHand fun _ => ?_
    refine releases_followed (keepsLease_issue rfl) inHand fun _ => ?_
    split
    · exact releases_pure (by simp [workerResult])
    · exact releases_runSnapshotRecorded inHand call.runId current recovery

theorem releases_runQueued (call : RunCall) (current : Datetime) (recovery : RecoveryCounts) :
    Releases StopsGivenBack (runQueued library root call current recovery) hand := by
  refine Program.always_bind.mpr (Program.always_call.mpr ⟨⟨inHand, ?_⟩, fun lease => ?_⟩)
  · rintro job workerId errorClass now ⟨⟩
  · cases lease with
    | none => exact releases_pure (by simp [workerResult])
    | some lease =>
        dsimp only
        split
        · exact releases_pure (by simp [workerResult])
        · exact releases_runLeased rfl call current recovery rfl

theorem releases_runFrom (call : RunCall) (current : Datetime) (recovery : RecoveryCounts)
    (checkpoint : Option String) :
    Releases StopsGivenBack (runFrom library root call current recovery checkpoint) hand := by
  cases checkpoint with
  | none =>
      refine releases_followed (issues_discoverAndQueue _ current keepsLease_of_isPlain rfl)
        inHand fun _ => ?_
      split
      · exact releases_pure (by simp [workerResult])
      · exact releases_runQueued inHand call current recovery
  | some value =>
      simp only [runFrom]
      split_ifs
      · exact releases_runQueued inHand call current recovery
      · exact releases_runSnapshotRecorded inHand call.runId current recovery
      · exact releases_runParserCompleted inHand call.runId current recovery
      · exact releases_runBatchRecorded inHand call.runId recovery
      · exact releases_pure (by simp [completedResult, workerResult])

end Stages

/-- A call gives back only the lease in hand, does nothing after that, and stops
gracefully in no other way. -/
theorem releases_run (call : RunCall) :
    Releases StopsGivenBack (run library root call) .empty := by
  refine releases_followed (plain_require _).keepsLease rfl fun _ => ?_
  refine releases_followed (keepsLease_issue rfl) rfl fun _ => ?_
  refine releases_followed (plain_require _).keepsLease rfl fun _ => ?_
  refine releases_followed (keepsLease_issue rfl) rfl fun freeBytes => ?_
  refine releases_followed (plain_require _).keepsLease rfl fun _ => ?_
  refine releases_followed (plain_currentTime call.now).keepsLease rfl fun current => ?_
  refine releases_followed (keepsLease_issue rfl) rfl fun _ => ?_
  refine releases_followed (keepsLease_issue rfl) rfl fun _ => ?_
  refine releases_followed (keepsLease_issue rfl) rfl fun recovery => ?_
  refine releases_followed plain_ensureRun.keepsLease rfl fun _ => ?_
  refine releases_followed (keepsLease_issue rfl) rfl fun checkpoint => ?_
  exact releases_runFrom rfl call current recovery checkpoint

/-! ## The job that is given back -/

/-- The job is pending without a lease and has an attempt left, so that a later
`lease_next` finds it eligible. -/
def LeasableAgain (world : World) (job : String) : Prop :=
  ∃ row ∈ world.db.jobs, row.jobId = job ∧ row.state = .pending ∧ row.leaseOwner = none ∧
    row.leaseExpiresAt = none ∧ row.attemptCount < row.maxAttempts ∧
      ∃ stopped : Instant, row.scheduledAt = stopped.text ∧
        ∀ later : Instant, stopped.micros ≤ later.micros →
          ¬ Misordered later.micros stopped.micros → Eligible later.text row

/-- A step that gives a lease back does so while an attempt is left. -/
def StepSparesJob (_ : WorkerSession) (_ : Environment) (command : Command) (world : World) :
    Prop :=
  ∀ job workerId errorClass now, command = .fail job workerId errorClass now →
    ∀ row, Held world.db job workerId row → (∃ current, timestamp now = .ok current) →
      row.attemptCount < row.maxAttempts

/-- A failure with an attempt left makes the job ready to be leased again. -/
theorem leasableAgain_of_finished {job workerId current : String} {errorClass : Option String}
    {now : Datetime} {row : JobRow} {world : World} {next : Db}
    (finished : Finished job workerId false errorClass now row current world.db next)
    (left : row.attemptCount < row.maxAttempts) : LeasableAgain { world with db := next } job := by
  have outcome : (finishOutcome row false).1 = .pending := by
    have notSpent : ¬ row.attemptCount ≥ row.maxAttempts := by omega
    simp [finishOutcome, notSpent]
  obtain ⟨stopped, _, isText⟩ := timestamp_ok_iff.mp finished.clock
  refine ⟨_, finished.stored, finished.sameId, outcome, rfl, rfl, left, stopped, isText.symm, ?_⟩
  intro later after ordered
  have agrees := (Instant.text_before_agrees_iff later stopped).mpr ordered
  refine ⟨outcome, fun before => ?_, left⟩
  have early : later.micros < stopped.micros := agrees.mp (isText ▸ before)
  omega

/-- What a call has given back can be leased again. -/
def SessionSpares (session : WorkerSession) (world : World) : Prop :=
  (leaseInHand session).givenBack = true →
    ∃ job, (leaseInHand session).leased = some job ∧ LeasableAgain world job

/-- The call in progress releases its lease in order, and what it has given back can
be leased again. -/
structure Sparing (pool : WorkerPool Unit) : Prop where
  attested : Pool.Attested observeLease .empty (fun _ => GivesBackLeased)
    (fun _ => StopsGivenBack) pool
  session : ∀ session, pool.sessions () = some session → SessionSpares session pool.world

/-- A step under the condition leaves what it gives back ready to be leased. -/
theorem sessionSpares_afterCommand {session : WorkerSession} {environment : Environment}
    {command : Command} {world : World}
    (next : Except PyError (Reply command) → Worker SyntheticWorkerResult)
    (guarded : GivesBackLeased command (leaseInHand session))
    (spares : StepSparesJob session environment command world) :
    SessionSpares (Pool.afterCommand session command next
        (performCommand library environment command world).1)
      (performCommand library environment command world).2 := by
  obtain ⟨inHand, same⟩ := guarded
  unfold SessionSpares leaseInHand
  rw [Pool.view_afterCommand]
  intro given
  change (observeLease command _ (leaseInHand session)).givenBack = true at given
  cases command with
  | fail job workerId errorClass now =>
      have leased := same job workerId errorClass now rfl
      generalize outcome : performCommand library environment (.fail job workerId errorClass now)
        world = result at given ⊢
      obtain ⟨reply, later⟩ := result
      cases reply with
      | error raised => exact absurd (inHand.symm.trans given) (by decide)
      | ok value =>
          refine ⟨job, leased, ?_⟩
          simp only [performCommand] at outcome
          obtain ⟨db, call, rfl⟩ := onDb_eq.mp outcome
          obtain ⟨_, ⟨refused, _⟩ | ⟨failed, _⟩⟩ | ⟨row, current, finished, _⟩ := finish_cases call
          · cases refused
          · cases failed
          · exact leasableAgain_of_finished finished
              (spares job workerId errorClass now rfl row finished.isHeld ⟨_, finished.clock⟩)
  | leaseNext workerId leaseSeconds now =>
      generalize (performCommand library environment (.leaseNext workerId leaseSeconds now)
        world).1 = reply at given
      cases reply with
      | error raised => exact absurd (inHand.symm.trans given) (by decide)
      | ok lease =>
          cases lease with
          | none => exact absurd (inHand.symm.trans given) (by decide)
          | some lease => cases given
  | _ => exact absurd (inHand.symm.trans given) (by decide)

theorem sparing_move (next : WorkerMove Unit) (pool : WorkerPool Unit)
    (meets : Pool.MoveMeets (fun _ => True) StepSparesJob pool next)
    (sparing : Sparing pool) :
    Sparing (workerMove library root next pool).2 where
  attested := Pool.attested_move (fun call => releases_run call) next pool sparing.attested
  session := by
    apply Pool.sessions_move SessionSpares next pool _ _ _ (fun _ => sparing.session) ()
    · intro _ call _ given
      cases given
    · rintro process environment session command rest rfl current remaining
      have attested := sparing.attested process session current
      rw [remaining] at attested
      exact sessionSpares_afterCommand rest attested.1
        (meets session current command rest remaining)
    · intro process _ _ _ _ other _ _ _ _ different _
      exact absurd (Subsingleton.elim other process) different

end Shutdown

/-- The call in progress has returned "gracefully_stopped". -/
def ReturnedStopped (pool : WorkerPool Unit) (session : WorkerSession) : Prop :=
  pool.sessions () = some session ∧ ∃ result, session.rest = .done result ∧
    result.state = "gracefully_stopped"

/-- In every history whose shutdowns each come while an attempt is left, a call that
stops gracefully leaves the job that it had leased to be leased again. -/
theorem shutdown_spares_job (library : StandardLibrary) (root : String)
    (moves : List (WorkerMove Unit)) (spares : StepsMeet library root StepSparesJob moves)
    (session : WorkerSession)
    (returned : ReturnedStopped (afterMoves library root moves) session) :
    ∃ job, (leaseInHand session).leased = some job ∧
      LeasableAgain (afterMoves library root moves).world job := by
  have sparing : Sparing (afterMoves library root moves) := by
    refine History.along_invariant _ (fun next pool => sparing_move next pool) ?_ spares
    exact
      { attested := Pool.attested_idle
        session := fun _ found => by cases found }
  obtain ⟨current, result, isDone, stopped⟩ := returned
  have attested := sparing.attested () session current
  rw [isDone] at attested
  exact sparing.session session current (attested stopped)

/-! ## Sample histories -/

/-- Two calls stop gracefully, one after the other. -/
def twoShutdowns : List (WorkerMove Unit) :=
  .start () (sampleCall "run-1" (some "graceful_shutdown") 0) :: sampleSteps () 0 24 ++
    .stop () :: .start () (sampleCall "run-1" (some "graceful_shutdown") 1000000) ::
      sampleSteps () 24 12

/-- The history up to the end of the first call. -/
def oneShutdown : List (WorkerMove Unit) :=
  .start () (sampleCall "run-1" (some "graceful_shutdown") 0) :: sampleSteps () 0 24

def returnsStopped (session : WorkerSession) : Bool :=
  (returnedResult session).any fun result => decide (result.state = "gracefully_stopped")

theorem returnedStopped_of_check {pool : WorkerPool Unit}
    (checked : (pool.sessions ()).any returnsStopped = true) :
    ∃ session, ReturnedStopped pool session := by
  obtain ⟨session, current, returned⟩ := (Option.any_eq_true _ _).mp checked
  obtain ⟨result, isResult, state⟩ := (Option.any_eq_true _ _).mp returned
  exact ⟨session, current, result, returnedResult_eq_some isResult, of_decide_eq_true state⟩

/-- The second shutdown comes on the last attempt and ends the job. -/
theorem second_shutdown_ends_job :
    ∃ session, ReturnedStopped (afterMoves sampleLibrary "/runtime" twoShutdowns) session ∧
      ¬ ∃ job, (leaseInHand session).leased = some job ∧
        LeasableAgain (afterMoves sampleLibrary "/runtime" twoShutdowns).world job := by
  obtain ⟨checked, exhausted⟩ :
      ((afterMoves sampleLibrary "/runtime" twoShutdowns).sessions ()).any returnsStopped = true ∧
        ∀ row ∈ (afterMoves sampleLibrary "/runtime" twoShutdowns).world.db.jobs.rows,
          row.state = .failedExhausted := by decide +kernel
  obtain ⟨session, returned⟩ := returnedStopped_of_check checked
  refine ⟨session, returned, ?_⟩
  rintro ⟨job, _, row, member, _, pending, _⟩
  rw [exhausted row member] at pending
  cases pending

/-- The condition on a step, evaluated. -/
def spareChecks (_ : WorkerSession) (_ : Environment) : Command → World → Bool
  | .fail _ _ _ _, world =>
      world.db.jobs.rows.all fun row => decide (row.attemptCount < row.maxAttempts)
  | _, _ => true

theorem stepSparesJob_of_checks (session : WorkerSession) (environment : Environment)
    (command : Command) (world : World)
    (checked : spareChecks session environment command world = true) :
    StepSparesJob session environment command world := by
  rintro job workerId errorClass now rfl row held _
  exact of_decide_eq_true (List.all_eq_true.mp checked row held.1)

/-- The first shutdown leaves the job for the second call. -/
theorem first_shutdown_spares_job :
    ∃ session, ReturnedStopped (afterMoves sampleLibrary "/runtime" oneShutdown) session ∧
      ∃ job, (leaseInHand session).leased = some job ∧
        LeasableAgain (afterMoves sampleLibrary "/runtime" oneShutdown).world job := by
  obtain ⟨stopped, checked⟩ :
      ((afterMoves sampleLibrary "/runtime" oneShutdown).sessions ()).any returnsStopped = true ∧
        History.allAlong (workerMove sampleLibrary "/runtime") (Pool.moveChecks spareChecks)
          (Pool.idle World.empty) oneShutdown = true := by decide +kernel
  obtain ⟨session, returned⟩ := returnedStopped_of_check stopped
  exact ⟨session, returned, shutdown_spares_job sampleLibrary "/runtime" oneShutdown
    (stepsMeet_of_checks stepSparesJob_of_checks checked) session returned⟩

end ScraperProject.Orchestration
