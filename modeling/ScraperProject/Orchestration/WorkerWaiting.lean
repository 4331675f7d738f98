import ScraperProject.Orchestration.WorkerDurability
import ScraperProject.Orchestration.WorkerStages

/-!
Contract: calls that wait for a lease.

Owns what the last command of a call leaves open, the moves that end the life of
a job, and from them the exact condition under which a call that returns
"waiting_for_lease" waits for a job that can still be leased: no move has ended
the run's job behind its checkpoint. Owns also a history that breaks it.

Does not own when a wait ends.
-/

namespace ScraperProject.Orchestration

open Foundation
open Database
open Contracts

/-! ## What a call leaves open -/

/-- The last command of a call, as far as a lease depends on it. -/
inductive LastCommand where
  | succeeded (leased : String)
  | unleased
  | other

/-- Success was reported of a job, or no job was leased. -/
def observeLast :
    (command : Command) → Except PyError (Reply command) → LastCommand → LastCommand
  | .succeed leased _ _, .ok _, _ => .succeeded leased
  | .leaseNext _ _ _, .ok none, _ => .unleased
  | _, _, _ => .other

def lastCommand (session : WorkerSession) : LastCommand :=
  Pool.view observeLast .other session

/-- A command that can leave something open. -/
def Command.leavesOpen : Command → Bool
  | .succeed _ _ _ => true
  | .leaseNext _ _ _ => true
  | _ => false

section Waiting

variable (library : StandardLibrary) (root runId : String)

/-- Right after a success the call saves the checkpoint for it. -/
def SavesSuccess (command : Command) : LastCommand → Prop
  | .succeeded _ =>
      command = .saveCheckpoint runId (partitionId library runId) "snapshot-recorded"
  | _ => True

/-- A call waits only right after no job was leased. -/
def WaitsUnleased (result : SyntheticWorkerResult) (last : LastCommand) : Prop :=
  result.state = "waiting_for_lease" → last = .unleased

abbrev Attests {α : Type} (returns : α → LastCommand → Prop) (program : Worker α)
    (last : LastCommand) : Prop :=
  program.Always (SavesSuccess library runId) observeLast returns last

variable {library root runId}

/-! ## The stages -/

theorem closes_of_isPlain (command : Command) (isPlain : command.isPlain = true) :
    command.leavesOpen = false := by
  cases command <;> first | rfl | cases isPlain

theorem Plain.closes {α : Type} {program : Worker α} (plain : Plain program) :
    program.Issues fun command => command.leavesOpen = false := plain.mono closes_of_isPlain

theorem closes_issue {command : Command} (closes : command.leavesOpen = false) :
    (issue command).Issues fun command => command.leavesOpen = false :=
  Program.issues_call closes

/-- Between two commands that leave something open. -/
theorem attests_followed {α β : Type} {program : Worker α} {next : α → Worker β}
    {returns : β → LastCommand → Prop}
    (closes : program.Issues fun command => command.leavesOpen = false)
    (continues : ∀ value, Attests library runId returns (next value) .other) :
    Attests library runId returns (program >>= next) .other := by
  have keeps : Attests library runId (fun _ later => later = .other) program .other := by
    refine Program.Issues.always closes ?_ ?_ rfl
    · intro command view _ isOther
      rw [isOther]
      trivial
    · intro command outcome view isClosing _
      cases command <;> first | rfl | cases isClosing
  exact Program.Always.bind keeps fun value _ isOther => isOther ▸ continues value

theorem attests_runBatchRecorded (recovery : RecoveryCounts) :
    Attests library runId WaitsUnleased (runBatchRecorded library root runId recovery) .other := by
  refine attests_followed (closes_issue rfl) fun run => ?_
  refine attests_followed (issues_completeRunning run rfl rfl) fun _ => ?_
  refine attests_followed (closes_issue rfl) fun _ => ?_
  exact fun waiting => absurd waiting (by simp [completedResult, workerResult])

theorem attests_runParserCompleted (current : Datetime) (recovery : RecoveryCounts) :
    Attests library runId WaitsUnleased
      (runParserCompleted library root runId current recovery) .other := by
  refine attests_followed (plain_recordBatchOf current).closes fun _ => ?_
  refine attests_followed (closes_issue rfl) fun _ => ?_
  exact attests_runBatchRecorded recovery

theorem attests_runSnapshotRecorded (current : Datetime) (recovery : RecoveryCounts) :
    Attests library runId WaitsUnleased
      (runSnapshotRecorded library root runId current recovery) .other := by
  refine attests_followed (closes_issue rfl) fun _ => ?_
  refine attests_followed (closes_issue rfl) fun _ => ?_
  refine attests_followed (closes_issue rfl) fun _ => ?_
  exact attests_runParserCompleted current recovery

theorem attests_runLeased (call : RunCall) (current : Datetime) (recovery : RecoveryCounts)
    (leasedJobId : String) :
    Attests library call.runId WaitsUnleased
      (runLeased library root call current recovery leasedJobId) .other := by
  refine attests_followed (plain_stopRequested call).closes fun stop => ?_
  split
  · refine attests_followed (closes_issue rfl) fun _ => ?_
    exact fun waiting => absurd waiting (by simp [workerResult])
  · refine attests_followed (plain_recordSnapshotOf _ _ _).closes fun path => ?_
    refine Program.always_bind.mpr (Program.always_call.mpr ⟨trivial, fun _ => ?_⟩)
    refine Program.always_bind.mpr (Program.always_call.mpr ⟨rfl, fun _ => ?_⟩)
    split
    · exact fun waiting => absurd waiting (by simp [workerResult])
    · exact attests_runSnapshotRecorded current recovery

theorem attests_runQueued (call : RunCall) (current : Datetime) (recovery : RecoveryCounts) :
    Attests library call.runId WaitsUnleased
      (runQueued library root call current recovery) .other := by
  refine Program.always_bind.mpr (Program.always_call.mpr ⟨trivial, fun lease => ?_⟩)
  cases lease with
  | none => exact fun _ => rfl
  | some lease =>
      dsimp only
      split
      · exact fun waiting => absurd waiting (by simp [workerResult])
      · exact attests_runLeased call current recovery lease.jobId

theorem attests_runFrom (call : RunCall) (current : Datetime) (recovery : RecoveryCounts)
    (checkpoint : Option String) :
    Attests library call.runId WaitsUnleased
      (runFrom library root call current recovery checkpoint) .other := by
  cases checkpoint with
  | none =>
      refine attests_followed (issues_discoverAndQueue _ current closes_of_isPlain rfl) fun _ => ?_
      split
      · exact fun waiting => absurd waiting (by simp [workerResult])
      · exact attests_runQueued call current recovery
  | some value =>
      simp only [runFrom]
      split_ifs
      · exact attests_runQueued call current recovery
      · exact attests_runSnapshotRecorded current recovery
      · exact attests_runParserCompleted current recovery
      · exact attests_runBatchRecorded recovery
      · exact fun waiting => absurd waiting (by simp [completedResult, workerResult])

/-- A call saves the checkpoint for a success at once, and waits only right after
no job was leased. -/
theorem attests_run (call : RunCall) :
    Attests library call.runId WaitsUnleased (run library root call) .other := by
  refine attests_followed (plain_require _).closes fun _ => ?_
  refine attests_followed (closes_issue rfl) fun _ => ?_
  refine attests_followed (plain_require _).closes fun _ => ?_
  refine attests_followed (closes_issue rfl) fun freeBytes => ?_
  refine attests_followed (plain_require _).closes fun _ => ?_
  refine attests_followed (plain_currentTime call.now).closes fun current => ?_
  refine attests_followed (closes_issue rfl) fun _ => ?_
  refine attests_followed (closes_issue rfl) fun _ => ?_
  refine attests_followed (closes_issue rfl) fun recovery => ?_
  refine attests_followed plain_ensureRun.closes fun _ => ?_
  refine attests_followed (closes_issue rfl) fun checkpoint => ?_
  exact attests_runFrom call current recovery checkpoint

/-! ## The life of a job -/

/-- A job that is leased, or that a call can still lease. -/
def Leasable (row : JobRow) : Prop :=
  row.state = .processing ∨ (row.state = .pending ∧ row.attemptCount < row.maxAttempts)

/-- The job with this identifier is in a terminal state. -/
def JobEnded (world : World) (job : String) : Prop :=
  ∃ row ∈ world.db.jobs, row.jobId = job ∧ (machineOf row).Terminal

/-- The call ends the life of the job: the holder of its lease reports success, or
a failure of the last attempt, or the lease of the last attempt has expired. -/
def QueueCall.Ends (job : String) : QueueCall → Db → Prop
  | .succeed leased workerId now, db =>
      leased = job ∧ (∃ row, Held db leased workerId row) ∧ ∃ current, timestamp now = .ok current
  | .fail leased workerId _ now, db =>
      leased = job ∧ (∃ row, Held db leased workerId row ∧ row.maxAttempts ≤ row.attemptCount) ∧
        ∃ current, timestamp now = .ok current
  | .recoverAbandoned now, db =>
      ∃ current, timestamp now = .ok current ∧ ∃ row ∈ db.jobs, row.jobId = job ∧
        Expired current row ∧ row.maxAttempts ≤ row.attemptCount
  | _, _ => False

theorem not_leasable_of_terminal {row : JobRow} (terminal : (machineOf row).Terminal) :
    ¬ Leasable row := by
  rintro (processing | ⟨pending, _⟩)
  · rcases terminal with state | state <;> cases state.symm.trans processing
  · rcases terminal with state | state <;> cases state.symm.trans pending

theorem terminal_settled {row : JobRow} {state : JobState} {errorClass : Option String}
    {current : String} (terminal : state = .succeeded ∨ state = .failedExhausted) :
    (machineOf (row.settle state errorClass current)).Terminal := terminal

theorem finishOutcome_failed {row : JobRow} (spent : row.maxAttempts ≤ row.attemptCount) :
    (finishOutcome row false).1 = .failedExhausted := by
  have exhausted : row.attemptCount ≥ row.maxAttempts := spent
  simp [finishOutcome, exhausted]

/-- The holder of a lease may finish it. -/
theorem finished_of_held {jobId workerId current : String} {now : Datetime} {db : Db}
    {row : JobRow} (success : Bool) (errorClass : Option String)
    (held : Held db jobId workerId row) (clock : timestamp now = .ok current) :
    (finish jobId workerId success errorClass now db).1 = .ok (finishOutcome row success).1.value ∧
      Finished jobId workerId success errorClass now row current db
        (finish jobId workerId success errorClass now db).2 := by
  obtain ⟨_, ⟨_, refused⟩ | ⟨_, failed, _⟩⟩ | ⟨other, text, finished, result⟩ :=
    finish_cases (Prod.mk.eta (p := finish jobId workerId success errorClass now db)).symm
  · exact absurd held (refused row)
  · cases clock.symm.trans failed
  · have same : other = row := job_eq_of_id finished.member held.1
      (finished.sameId.trans held.2.1.symm)
    have sameText : text = current := Except.ok.inj (finished.clock.symm.trans clock)
    subst same sameText
    exact ⟨result, finished⟩

/-- A call that ends a job leaves it in a terminal state. -/
theorem ended_of_ends {job : String} {call : QueueCall} {db : Db} (ends : call.Ends job db) :
    ∃ row ∈ (perform call db).2.jobs, row.jobId = job ∧ (machineOf row).Terminal := by
  cases call with
  | createIdempotent job createdAt updatedAt => exact ends.elim
  | leaseNext workerId leaseSeconds now jobAttemptId => exact ends.elim
  | succeed leased workerId now =>
      obtain ⟨rfl, ⟨row, held⟩, current, clock⟩ := ends
      have finished := (finished_of_held true none held clock).2
      exact ⟨_, finished.stored, held.2.1, terminal_settled (Or.inl rfl)⟩
  | fail leased workerId errorClass now =>
      obtain ⟨rfl, ⟨row, held, spent⟩, current, clock⟩ := ends
      have finished := (finished_of_held false (some errorClass) held clock).2
      exact ⟨_, finished.stored, held.2.1, terminal_settled (Or.inr (finishOutcome_failed spent))⟩
  | recoverAbandoned now =>
      obtain ⟨current, clock, row, member, rfl, expired, spent⟩ := ends
      obtain ⟨_, failed, _⟩ | ⟨text, counts, recovery, _⟩ :=
        recoverAbandoned_cases (Prod.mk.eta (p := recoverAbandoned now db)).symm
      · cases clock.symm.trans failed
      · have sameText : text = current := Except.ok.inj (recovery.clock.symm.trans clock)
        subst sameText
        have exhausted : recoveredState row = .failedExhausted := if_pos spent
        have stored : recoveredRow text row ∈ (recoverAbandoned now db).2.jobs := by
          rw [← Table.mem_rows, recovery.jobs]
          exact List.mem_map.mpr ⟨row, member, rfl⟩
        rw [recoveredRow, if_pos expired] at stored
        exact ⟨_, stored, rfl, terminal_settled (Or.inr exhausted)⟩

theorem Finished.isHeld {jobId workerId current : String} {success : Bool}
    {errorClass : Option String} {now : Datetime} {row : JobRow} {db next : Db}
    (finished : Finished jobId workerId success errorClass now row current db next) :
    Held db jobId workerId row :=
  ⟨finished.member, finished.sameId, finished.held⟩

/-- A job after a call can be leased if it could be before, unless the call ends
it. -/
theorem QueueEffect.leasable {db next : Db} {call : QueueCall}
    {result : Except PyError QueueReply} (effect : QueueEffect db call result next) {row : JobRow}
    (member : row ∈ next.jobs) :
    (∃ old ∈ db.jobs, old.jobId = row.jobId ∧ (Leasable old → Leasable row)) ∨
      (∃ job createdAt updatedAt, call = .createIdempotent job createdAt updatedAt ∧
        Created job row db next) ∨ call.Ends row.jobId db := by
  cases effect with
  | raised => exact Or.inl ⟨row, member, rfl, id⟩
  | found _ _ frame =>
      rw [frame] at member
      exact Or.inl ⟨row, member, rfl, id⟩
  | created made =>
      rw [← Table.mem_rows, made.jobs, List.mem_append, List.mem_singleton] at member
      rcases member with old | rfl
      · exact Or.inl ⟨row, old, rfl, id⟩
      · exact Or.inr (Or.inl ⟨_, _, _, rfl, made⟩)
  | idle => exact Or.inl ⟨row, member, rfl, id⟩
  | leased leased =>
      rw [← Table.mem_rows, leased.jobs] at member
      obtain ⟨old, oldMember, rfl⟩ := List.mem_map.mp member
      refine Or.inl ⟨old, oldMember, ?_⟩
      split
      · next own => exact ⟨own, fun _ => Or.inl rfl⟩
      · exact ⟨rfl, id⟩
  | succeeded finished =>
      rcases finished.origin member with old | rfl
      · exact Or.inl ⟨row, old, rfl, id⟩
      · exact Or.inr (Or.inr ⟨finished.sameId.symm, ⟨_, finished.isHeld⟩, _, finished.clock⟩)
  | @failed leased workerId errorClass current now held _ finished =>
      rcases finished.origin member with old | rfl
      · exact Or.inl ⟨row, old, rfl, id⟩
      · by_cases spent : held.maxAttempts ≤ held.attemptCount
        · exact Or.inr (Or.inr
            ⟨finished.sameId.symm, ⟨held, finished.isHeld, spent⟩, _, finished.clock⟩)
        · refine Or.inl ⟨held, finished.member, rfl, fun _ => Or.inr ⟨?_, Int.not_le.mp spent⟩⟩
          simp [JobRow.settle, finishOutcome, spent]
  | @recovered now current counts _ recovery =>
      rw [← Table.mem_rows, recovery.jobs] at member
      obtain ⟨old, oldMember, rfl⟩ := List.mem_map.mp member
      by_cases expired : Expired current old
      · rw [recoveredRow, if_pos expired]
        by_cases spent : old.maxAttempts ≤ old.attemptCount
        · exact Or.inr (Or.inr ⟨_, recovery.clock, old, oldMember, rfl, expired, spent⟩)
        · have left := Int.not_le.mp spent
          exact Or.inl ⟨old, oldMember, rfl,
            fun _ => Or.inr ⟨recoveredState_eq_pending.mpr left, left⟩⟩
      · rw [recoveredRow, if_neg expired]
        exact Or.inl ⟨old, oldMember, rfl, id⟩

/-! ## A step of a call -/

variable (library root runId)

/-- Until its snapshot is on record, the run's job can be leased. -/
def OpenJob (world : World) : Prop :=
  checkpointRank (checkpointOf library world runId) ≤ 1 →
    ∀ row ∈ world.db.jobs, row.jobId = jobId library runId → Leasable row

/-- A step ends the run's job only as a success that the run's own call reports. -/
def StepKeepsOpen (session : WorkerSession) (environment : Environment) (command : Command)
    (world : World) : Prop :=
  ∀ call, command.queueCall environment = some call → call.Ends (jobId library runId) world.db →
    session.call.runId = runId ∧ ∃ leased workerId now, command = .succeed leased workerId now

variable {library root runId} {promises : Promises} {world : World} {command : Command}
  {environment : Environment} {session : WorkerSession}

theorem performed_queueCall {call : QueueCall} (asks : command.queueCall environment = some call) :
    (performCommand library environment command world).2.db = (perform call world.db).2 := by
  cases command <;> simp only [Command.queueCall, reduceCtorEq, Option.some.injEq] at asks <;>
    (subst asks; rfl)

theorem queueCall_none (asks : command.queueCall environment = none) (other : Environment) :
    command.queueCall other = none := by
  cases command <;> first | rfl | cases asks

/-- A command that does not call the queue keeps the jobs. -/
theorem Change.jobs_of_none {after : World} (change : Change world command after)
    (asks : command.queueCall environment = none) : after.db.jobs = world.db.jobs := by
  cases change with
  | queue other _ =>
      rw [queueCall_none asks] at other
      cases other
  | _ => rfl

theorem create_of_queueCall {job : DetailFetchJob} {createdAt updatedAt : Instant}
    (asks : command.queueCall environment = some (.createIdempotent job createdAt updatedAt)) :
    command = .createIdempotent job := by
  cases command <;> simp_all [Command.queueCall]

/-- A guarded step that does not end the job keeps it open. -/
theorem OpenJob.keeps (isOpen : OpenJob library runId world)
    (guarded : Guard library root promises session.call.runId command world)
    (lives : ∀ call, command.queueCall environment = some call →
      ¬ call.Ends (jobId library runId) world.db) :
    OpenJob library runId (performCommand library environment command world).2 := by
  have change := performed_change library environment command world
  intro bound row member named
  have before := (change.rank_le guarded runId).trans bound
  cases asks : command.queueCall environment with
  | none =>
      rw [change.jobs_of_none asks] at member
      exact isOpen before row member named
  | some call =>
      rw [performed_queueCall asks] at member
      rcases (perform_effect call world.db).leasable member with
        ⟨old, oldMember, same, leasable⟩ | ⟨job, createdAt, updatedAt, rfl, made⟩ | ends
      · exact leasable (isOpen before old oldMember (same.trans named))
      · have isCreate := create_of_queueCall asks
        subst isCreate
        obtain ⟨_, payload, current, listingKey, listingUrl, _, _, _, rfl⟩ := guarded
        refine Or.inr ⟨made.fresh.1, ?_⟩
        rw [made.fresh.2.1, made.bounds.2]
        exact Int.ofNat_lt.mpr Nat.zero_lt_two
      · exact absurd (named ▸ ends) (lives call asks)

/-- Once the checkpoint for a success is saved, the job is needed no more. -/
theorem OpenJob.of_save {run partition : String}
    (guarded : Guard library root promises runId
      (.saveCheckpoint run partition "snapshot-recorded") world) :
    OpenJob library runId (performCommand library environment
      (.saveCheckpoint run partition "snapshot-recorded") world).2 := by
  obtain ⟨rfl, rfl, _, advances, _⟩ := guarded
  intro bound
  have saved : checkpointOf library (performCommand library environment
      (.saveCheckpoint run (partitionId library run) "snapshot-recorded") world).2 run =
        some "snapshot-recorded" := by
    cases outcome : performCommand library environment
        (.saveCheckpoint run (partitionId library run) "snapshot-recorded") world with
    | mk result later =>
        simp only [performCommand] at outcome
        obtain ⟨next, call, rfl⟩ := onDb_eq.mp outcome
        rcases saveCheckpoint_cases call with ⟨raised, rfl, _⟩ | ⟨_, _, _, isSaved⟩
        · -- The checkpoint "queued" is there, and an update does not fail.
          cases stored : checkpointOf library world run with
          | none =>
              rw [stored] at advances
              exact absurd advances (by decide)
          | some value =>
              have succeeds := @saveCheckpoint_of_stored _ _ "snapshot-recorded" _
                environment.clock _ stored
              rw [call] at succeeds
              cases succeeds
        · exact (isSaved _ _).trans (if_pos ⟨rfl, rfl⟩)
  rw [saved] at bound
  exact absurd bound (by decide)

/-! ## Histories -/

variable (library root runId) in
/-- The move does not end the run's job behind its checkpoint: a step ends it only
as the run's own success, after which the call is not cut off before its save. -/
def KeepsOpen (pool : WorkerPool Unit) (next : WorkerMove Unit) : Prop :=
  Pool.MoveMeets (fun _ => True) (StepKeepsOpen library runId) pool next ∧
    ∀ process session, next = .stop process → pool.sessions process = some session →
      session.call.runId = runId → lastCommand session ≠ .succeeded (jobId library runId)

variable (library) in
/-- What a session has seen is on record. -/
structure SessionSound (session : WorkerSession) (world : World) : Prop where
  unleased : lastCommand session = .unleased →
    checkpointOf library world session.call.runId = some "queued"
  succeeded : ∀ leased, lastCommand session = .succeeded leased → JobEnded world leased

variable (library root) in
/-- The pool is sound, its call waits and saves in order, and what it has seen is on
record. -/
structure Accounted (pool : WorkerPool Unit) : Prop where
  sound : SoundPool library root Promises.none pool
  attested : Pool.Attested observeLast .other (fun call => SavesSuccess library call.runId)
    (fun _ => WaitsUnleased) pool
  session : ∀ session, pool.sessions () = some session → SessionSound library session pool.world

variable (library runId) in
/-- The run's job is open, or the run's call has just reported it as succeeded. -/
def JobStands (pool : WorkerPool Unit) : Prop :=
  OpenJob library runId pool.world ∨ ∃ session, pool.sessions () = some session ∧
    session.call.runId = runId ∧ lastCommand session = .succeeded (jobId library runId)

theorem lastCommand_afterCommand (session : WorkerSession) (command : Command)
    (next : Except PyError (Reply command) → Worker SyntheticWorkerResult)
    (result : Except PyError (Reply command)) :
    lastCommand (Pool.afterCommand session command next result) =
      observeLast command result (lastCommand session) :=
  Pool.view_afterCommand _ _ _ _ _ _

theorem observeLast_unleased {outcome : Except PyError (Reply command)} {last : LastCommand}
    (seen : observeLast command outcome last = .unleased) :
    ∃ workerId leaseSeconds now, command = .leaseNext workerId leaseSeconds now := by
  cases command <;> first | exact ⟨_, _, _, rfl⟩ | (cases outcome <;> cases seen)

/-- A job that was reported as succeeded is. -/
theorem jobEnded_of_observeLast {last : LastCommand} {leased : String}
    (seen : observeLast command (performCommand library environment command world).1 last =
      .succeeded leased) :
    JobEnded (performCommand library environment command world).2 leased := by
  cases command with
  | succeed job workerId now =>
      cases outcome : performCommand library environment (.succeed job workerId now) world with
      | mk result later =>
          rw [outcome] at seen
          cases result with
          | error raised => cases seen
          | ok reply =>
              cases seen
              simp only [performCommand] at outcome
              obtain ⟨next, call, rfl⟩ := onDb_eq.mp outcome
              obtain ⟨row, current, finished⟩ := succeed_ok call
              exact ⟨_, finished.stored, finished.sameId, terminal_settled (Or.inl rfl)⟩
  | leaseNext workerId leaseSeconds now =>
      generalize (performCommand library environment (.leaseNext workerId leaseSeconds now)
        world).1 = result at seen
      cases result with
      | error raised => cases seen
      | ok lease => cases lease <;> cases seen
  | _ => cases seen

/-- What a session sees of a guarded command is on record. -/
theorem sessionSound_afterCommand
    (next : Except PyError (Reply command) → Worker SyntheticWorkerResult)
    (guarded : Guard library root promises session.call.runId command world) :
    SessionSound library (Pool.afterCommand session command next
        (performCommand library environment command world).1)
      (performCommand library environment command world).2 where
  unleased seen := by
    rw [lastCommand_afterCommand] at seen
    obtain ⟨workerId, leaseSeconds, now, rfl⟩ := observeLast_unleased seen
    have change := performed_change library environment (.leaseNext workerId leaseSeconds now) world
    exact (change.keeps_checkpoint rfl _ _).trans guarded.2
  succeeded leased seen := by
    rw [lastCommand_afterCommand] at seen
    exact jobEnded_of_observeLast seen

theorem accounted_move (next : WorkerMove Unit) (pool : WorkerPool Unit)
    (accounted : Accounted library root pool) :
    Accounted library root (workerMove library root next pool).2 where
  sound := soundPool_move (fun _ _ _ _ => id) next pool (moveMeets_none pool next) accounted.sound
  attested := Pool.attested_move attests_run next pool accounted.attested
  session := by
    apply Pool.sessions_move (SessionSound library) next pool _ _ _
      (fun _ => accounted.session) ()
    · intro _ call _
      exact
        { unleased := fun seen => by cases seen
          succeeded := fun _ seen => by cases seen }
    · intro process environment session command rest _ current remaining
      have respected := accounted.sound.2 process session current
      rw [remaining] at respected
      exact sessionSound_afterCommand rest respected.1
    · intro process _ _ _ _ other _ _ _ _ different _
      exact absurd (Subsingleton.elim other process) different

theorem accounted_afterMoves (moves : List (WorkerMove Unit)) :
    Accounted library root (afterMoves library root moves) :=
  History.after_invariant _ accounted_move
    { sound := Pool.sound_idle durable_empty
      attested := Pool.attested_idle
      session := fun _ found => by cases found } moves

/-- A step that keeps the job open leaves it so, or reports its success. -/
theorem jobStands_of_step (next : Except PyError (Reply command) → Worker SyntheticWorkerResult)
    (isOpen : OpenJob library runId world)
    (guarded : Guard library root promises session.call.runId command world)
    (keeps : StepKeepsOpen library runId session environment command world) :
    OpenJob library runId (performCommand library environment command world).2 ∨
      (session.call.runId = runId ∧ lastCommand (Pool.afterCommand session command next
        (performCommand library environment command world).1) =
          .succeeded (jobId library runId)) := by
  by_cases ends : ∃ call, command.queueCall environment = some call ∧
      call.Ends (jobId library runId) world.db
  · obtain ⟨call, asks, ends⟩ := ends
    obtain ⟨own, leased, workerId, now, rfl⟩ := keeps call asks ends
    cases asks
    obtain ⟨rfl, ⟨row, held⟩, current, clock⟩ := ends
    refine Or.inr ⟨own, ?_⟩
    have finished := (finished_of_held true none held clock).1
    have succeeds : (performCommand library environment
        (.succeed (jobId library runId) workerId now) world).1 = .ok () :=
      congrArg (Except.map fun _ => ()) finished
    rw [lastCommand_afterCommand, succeeds]
    rfl
  · refine Or.inl (isOpen.keeps guarded fun call asks isEnd => ends ⟨call, asks, isEnd⟩)

/-- A move that keeps the job open leaves it so, or reports its success. -/
theorem jobStands_move (next : WorkerMove Unit) (pool : WorkerPool Unit)
    (keeps : KeepsOpen library runId pool next) (accounted : Accounted library root pool)
    (stands : JobStands library runId pool) :
    JobStands library runId (workerMove library root next pool).2 := by
  rcases Pool.move_cases next pool with same | ⟨process, call, _, idle, result⟩ |
    ⟨process, environment, session, command, rest, isStep, current, remaining, result⟩ |
      ⟨process, isStop, result⟩
  · rw [same]
    exact stands
  · rw [result]
    rcases stands with isOpen | ⟨session, current, _⟩
    · exact Or.inl isOpen
    · cases idle.symm.trans current
  · subst isStep
    rw [result]
    have respected := accounted.sound.2 process session current
    have attested := accounted.attested process session current
    rw [remaining] at respected attested
    rcases stands with isOpen | ⟨other, isOther, own, reported⟩
    · refine (jobStands_of_step rest isOpen respected.1
        (keeps.1 session current command rest remaining)).imp id ?_
      rintro ⟨own, reported⟩
      exact ⟨_, Pool.withSession_self pool process _, own, reported⟩
    · have same : other = session := Option.some.inj (isOther.symm.trans current)
      subst same
      have isSave := attested.1
      rw [show Pool.view observeLast .other other = .succeeded (jobId library runId) from reported]
        at isSave
      have saves : command = _ := isSave
      subst saves own
      exact Or.inl (@OpenJob.of_save library root _ _ _ _ _ _ respected.1)
  · rw [result]
    rcases stands with isOpen | ⟨session, current, own, reported⟩
    · exact Or.inl isOpen
    · exact absurd reported (keeps.2 process session isStop current own)

theorem jobStands_afterMoves {moves : List (WorkerMove Unit)}
    (keeps : History.Along (workerMove library root) (KeepsOpen library runId)
      (Pool.idle World.empty) moves) :
    JobStands library runId (afterMoves library root moves) := by
  have initial : OpenJob library runId World.empty :=
    fun _ _ member => absurd member Table.not_mem_empty
  have step : ∀ next pool, KeepsOpen library runId pool next →
      Accounted library root pool ∧ JobStands library runId pool →
        Accounted library root (workerMove library root next pool).2 ∧
          JobStands library runId (workerMove library root next pool).2 :=
    fun next pool keeps both =>
      ⟨accounted_move next pool both.1, jobStands_move next pool keeps both.1 both.2⟩
  exact (History.along_invariant _ step ⟨accounted_afterMoves [], Or.inl initial⟩ keeps).2

/-- A move that does not keep the job open ends it. -/
theorem jobEnded_of_move {next : WorkerMove Unit} {pool : WorkerPool Unit}
    (accounted : Accounted library root pool) (broken : ¬ KeepsOpen library runId pool next) :
    JobEnded (workerMove library root next pool).2.world (jobId library runId) := by
  cases next with
  | start process call => exact absurd ⟨trivial, fun _ _ isStop => by cases isStop⟩ broken
  | step process environment =>
      by_contra lives
      refine broken ⟨?_, fun _ _ isStop => by cases isStop⟩
      intro session current command rest remaining call asks ends
      refine absurd ?_ lives
      simp only [workerMove, Pool.move, current, remaining]
      obtain ⟨row, member, same, terminal⟩ := ended_of_ends ends
      rw [← @performed_queueCall library _ _ _ _ asks] at member
      exact ⟨row, member, same, terminal⟩
  | stop process =>
      by_contra lives
      refine broken ⟨trivial, fun other session isStop current own reported => ?_⟩
      exact lives ((accounted.session session current).succeeded _ reported)

theorem JobEnded.mono {after : World} {job : String} (ended : JobEnded world job)
    (change : Change world command after) : JobEnded after job := by
  cases change with
  | queue _ effect =>
      obtain ⟨row, member, same, terminal⟩ := ended
      obtain ⟨later, laterMember, sameId, event, step, _⟩ := effect.step member
      have kept : machineOf later = machineOf row := step.moves.of_terminal terminal
      exact ⟨later, laterMember, sameId.trans same, kept ▸ terminal⟩
  | _ => exact ended

theorem jobEnded_afterMoves {job : String} {moves : List (WorkerMove Unit)}
    (ended : JobEnded (afterMoves library root moves).world job) (later : List (WorkerMove Unit)) :
    JobEnded (afterMoves library root (moves ++ later)).world job :=
  related_afterMoves (fun _ _ _ _ => id) (fun before after => JobEnded before job →
    JobEnded after job) (fun _ => id) (fun left right => right ∘ left)
    (fun _ environment command world _ _ _ ended =>
      ended.mono (performed_change library environment command world))
    (respectful_none (moves ++ later)) ended

end Waiting

/-! ## When a wait can end -/

/-- The call in progress has returned "waiting_for_lease" for the run. -/
def ReturnedWaiting (pool : WorkerPool Unit) (runId : String) : Prop :=
  ∃ session result, pool.sessions () = some session ∧ session.call.runId = runId ∧
    session.rest = .done result ∧ result.state = "waiting_for_lease"

/-- The run's job is leased, or it is pending with an attempt left. -/
def WaitCanEnd (library : StandardLibrary) (world : World) (runId : String) : Prop :=
  ∃ row ∈ world.db.jobs, row.jobId = jobId library runId ∧ row.crawlRunId = runId ∧ Leasable row

/-- A call that waits does so for a job that can still be leased, exactly when no
move of the history has ended the job behind the checkpoint of its run. -/
theorem wait_can_end_iff (library : StandardLibrary) (root : String)
    (moves : List (WorkerMove Unit)) (runId : String)
    (returned : ReturnedWaiting (afterMoves library root moves) runId) :
    WaitCanEnd library (afterMoves library root moves).world runId ↔
      History.Along (workerMove library root) (KeepsOpen library runId) (Pool.idle World.empty)
        moves := by
  have accounted : Accounted library root (afterMoves library root moves) :=
    accounted_afterMoves moves
  constructor
  · rintro ⟨row, member, named, _, leasable⟩
    refine (History.along_iff_forall _).mpr fun earlier next rest same => ?_
    by_contra broken
    have ended := jobEnded_of_move (accounted_afterMoves earlier) broken
    have there : JobEnded (afterMoves library root (earlier ++ [next])).world
        (jobId library runId) := by
      rw [afterMoves, History.after_snoc]
      exact ended
    obtain ⟨other, otherMember, otherNamed, terminal⟩ := jobEnded_afterMoves there rest
    rw [List.append_assoc, List.singleton_append, ← same] at otherMember
    have isRow := job_eq_of_id otherMember member (otherNamed.trans named.symm)
    exact not_leasable_of_terminal terminal (isRow ▸ leasable)
  · intro keeps
    obtain ⟨session, result, current, rfl, isDone, waiting⟩ := returned
    have attested := accounted.attested () session current
    rw [isDone] at attested
    have unleased : lastCommand session = .unleased := attested waiting
    have queued := (accounted.session session current).unleased unleased
    rcases jobStands_afterMoves keeps with isOpen | ⟨other, isOther, _, reported⟩
    · have rank := congrArg checkpointRank queued
      rw [rank_of_queued] at rank
      obtain ⟨row, member, named, isRun⟩ :=
        (accounted.sound.1.checkpointKept session.call.runId).job (Nat.le_of_eq rank.symm)
      exact ⟨row, member, named, isRun, isOpen (Nat.le_of_eq rank) row member named⟩
    · have same : other = session := Option.some.inj (isOther.symm.trans current)
      rw [same, unleased] at reported
      cases reported

/-! ## Sample histories -/

/-- Two calls stop gracefully, each with a lease in hand, and a third follows. -/
def exhaustedRun : List (WorkerMove Unit) :=
  .start () (sampleCall "run-1" (some "graceful_shutdown") 0) :: sampleSteps () 0 24 ++
    .stop () :: .start () (sampleCall "run-1" (some "graceful_shutdown") 1000000) ::
      sampleSteps () 24 12 ++
    .stop () :: .start () (sampleCall "run-1" none 2000000) :: sampleSteps () 36 12

def returnsWaiting (runId : String) (session : WorkerSession) : Bool :=
  decide (session.call.runId = runId) &&
    (returnedResult session).any fun result => decide (result.state = "waiting_for_lease")

theorem returnedWaiting_of_check {pool : WorkerPool Unit} {runId : String}
    (checked : (pool.sessions ()).any (returnsWaiting runId) = true) :
    ReturnedWaiting pool runId :=
  returned_of_check checked

/-- The third call waits for a job that has exhausted its attempts. -/
theorem exhausted_run_waits :
    ReturnedWaiting (afterMoves sampleLibrary "/runtime" exhaustedRun) "run-1" ∧
      ¬ ∃ row ∈ (afterMoves sampleLibrary "/runtime" exhaustedRun).world.db.jobs,
        row.jobId = jobId sampleLibrary "run-1" ∧
          (row.state = .processing ∨ row.state = .pending) := by
  obtain ⟨returned, exhausted⟩ :
      ((afterMoves sampleLibrary "/runtime" exhaustedRun).sessions ()).any
          (returnsWaiting "run-1") = true ∧
        ∀ row ∈ (afterMoves sampleLibrary "/runtime" exhaustedRun).world.db.jobs.rows,
          row.state = .failedExhausted := by decide +kernel
  refine ⟨returnedWaiting_of_check returned, ?_⟩
  rintro ⟨row, member, _, isOpen⟩
  rw [exhausted row member] at isOpen
  rcases isOpen with wrong | wrong <;> cases wrong

/-- A sufficient condition on a step, evaluated. -/
def stepOpenChecks (session : WorkerSession) (_ : Environment) : Command → World → Bool
  | .succeed _ _ _, _ => decide (session.call.runId = "run-1")
  | .fail _ _ _ _, _ => false
  | .recoverAbandoned _, world =>
      world.db.jobs.rows.all fun row => decide (row.attemptCount < row.maxAttempts)
  | _, _ => true

def openChecks (pool : WorkerPool Unit) : WorkerMove Unit → Bool
  | .stop process =>
      match (pool.sessions process).map lastCommand with
      | some (.succeeded _) => false
      | _ => true
  | next => Pool.moveChecks stepOpenChecks pool next

theorem stepKeepsOpen_of_checks (session : WorkerSession) (environment : Environment)
    (command : Command) (world : World)
    (checked : stepOpenChecks session environment command world = true) :
    StepKeepsOpen sampleLibrary "run-1" session environment command world := by
  intro call asks ends
  cases command with
  | succeed leased workerId now => exact ⟨of_decide_eq_true checked, leased, workerId, now, rfl⟩
  | fail leased workerId errorClass now => cases checked
  | recoverAbandoned now =>
      cases asks
      obtain ⟨_, _, row, member, _, _, spent⟩ := ends
      have left : row.attemptCount < row.maxAttempts :=
        of_decide_eq_true (List.all_eq_true.mp checked row member)
      exact absurd spent (Int.not_le.mpr left)
  | createIdempotent job =>
      cases asks
      exact ends.elim
  | leaseNext workerId leaseSeconds now =>
      cases asks
      exact ends.elim
  | _ => cases asks

theorem keepsOpen_of_checks (pool : WorkerPool Unit) (next : WorkerMove Unit)
    (checked : openChecks pool next = true) : KeepsOpen sampleLibrary "run-1" pool next := by
  cases next with
  | start process call => exact ⟨trivial, fun _ _ isStop => by cases isStop⟩
  | step process environment =>
      exact ⟨Pool.moveMeets_of_moveChecks stepKeepsOpen_of_checks pool _ checked,
        fun _ _ isStop => by cases isStop⟩
  | stop process =>
      refine ⟨trivial, fun other session isStop current _ reported => ?_⟩
      cases isStop
      simp [openChecks, current, reported] at checked

/-- A call keeps its lease when it returns, and the next one finds the lease valid. -/
def leasedRun : List (WorkerMove Unit) :=
  .start () (sampleCall "run-1" (some "lease") 0) :: sampleSteps () 0 24 ++
    .stop () :: .start () (sampleCall "run-1" none 1000000) :: sampleSteps () 24 12

theorem leased_run_waits :
    WaitCanEnd sampleLibrary (afterMoves sampleLibrary "/runtime" leasedRun).world "run-1" := by
  obtain ⟨returned, checked⟩ :
      ((afterMoves sampleLibrary "/runtime" leasedRun).sessions ()).any
          (returnsWaiting "run-1") = true ∧
        History.allAlong (workerMove sampleLibrary "/runtime") openChecks (Pool.idle World.empty)
          leasedRun = true := by decide +kernel
  exact (wait_can_end_iff sampleLibrary "/runtime" leasedRun "run-1"
    (returnedWaiting_of_check returned)).mpr
      (History.along_of_allAlong _ keepsOpen_of_checks checked)

end ScraperProject.Orchestration
