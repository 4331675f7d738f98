import ScraperProject.Orchestration.RunRecord
import ScraperProject.Orchestration.WorkerFiles
import ScraperProject.Orchestration.WorkerStore

/-!
Contract: runs that share a database and a runtime root.

Owns what a call of `run` names, by what it has seen itself: the rows and the files of
its own run only. Owns from it the isolation of runs in a system of any number of
workers and other clients: while no process works on a run and no client names it, its
record and its files stay as they are.

Does not own what a call does to the queue, which all workers share: any of them may
lease the job of any run or recover it.
-/

namespace ScraperProject.Orchestration

open Foundation
open Database
open Contracts

/-! ## What a call names -/

/-- The parser run that the call has started last. -/
def observeParserRun :
    (command : Command) → Except PyError (Reply command) → Option String → Option String
  | .startParserRun _ _ _, .ok parserRunId, _ => some parserRunId
  | _, _, seen => seen

def startedParserRunOf (session : WorkerSession) : Option String :=
  Pool.view observeParserRun none session

section Isolation

variable (library : StandardLibrary) (root runId : String)

/-- The command names rows and files of the run only; a parser run, the one seen. -/
def Within : Command → Option String → Prop
  | .createRun run _ _, _ | .startRun run, _ | .completeRun run, _ | .saveCheckpoint run _ _, _ =>
      run = runId
  | .createPartition partition _ _ _, _ | .startPartition partition, _
  | .completePartition partition, _ => partition = partitionId library runId
  | .appendObservation observation, _ => observation.crawlRunId = runId
  | .createIdempotent job, _ => job.crawlRunId = runId
  | .createExclusive path _, _ =>
      path = snapshotPath library root runId ∨ path = recordsPath library root runId
  | .recordSnapshot artifact, _ => artifact.crawlRunId = runId
  | .startParserRun artifact _ _, _ => artifact = artifactId library runId
  | .completeParserRun parserRunId, seen => seen = some parserRunId
  | .recordBatch manifest, _ => manifest.batchId = batchId library runId
  | _, _ => True

/-- Whatever the outcomes and whatever the call has seen, the program stays within the
run. -/
def StaysWithin {α : Type} (program : Worker α) : Prop :=
  ∀ seen, program.Always (Within library root runId) observeParserRun (fun _ _ => True) seen

variable {library root runId} {α β : Type}

theorem staysWithin_pure (value : α) : StaysWithin library root runId (pure value : Worker α) :=
  fun _ => trivial

theorem staysWithin_require (computation : Except PyError α) :
    StaysWithin library root runId (require computation) := by
  intro seen
  cases computation <;> trivial

theorem staysWithin_issue {command : Command}
    (within : ∀ seen, Within library root runId command seen) :
    StaysWithin library root runId (issue command) :=
  fun seen => Program.always_call.mpr ⟨within seen, fun _ => trivial⟩

theorem StaysWithin.bind {program : Worker α} {next : α → Worker β}
    (stays : StaysWithin library root runId program)
    (continues : ∀ value, StaysWithin library root runId (next value)) :
    StaysWithin library root runId (program >>= next) :=
  fun seen => Program.Always.bind (stays seen) fun value later _ => continues value later

theorem staysWithin_issued {command : Command} {next : Reply command → Worker β}
    (within : ∀ seen, Within library root runId command seen)
    (continues : ∀ reply, StaysWithin library root runId (next reply)) :
    StaysWithin library root runId (issue command >>= next) :=
  (staysWithin_issue within).bind continues

theorem staysWithin_attempted {command : Command}
    {next : Except PyError (Reply command) → Worker β}
    (within : ∀ seen, Within library root runId command seen)
    (continues : ∀ outcome, StaysWithin library root runId (next outcome)) :
    StaysWithin library root runId (attempt command >>= next) :=
  fun seen => ⟨within seen, fun outcome => continues outcome _⟩

/-- A pure computation, and what follows with its value. -/
theorem staysWithin_required {computation : Except PyError α} {next : α → Worker β}
    (continues : ∀ value, computation = .ok value → StaysWithin library root runId (next value)) :
    StaysWithin library root runId (require computation >>= next) := by
  cases computation with
  | error raised => exact fun _ => trivial
  | ok value => exact continues value rfl

/-! ## The stages -/

theorem staysWithin_ensureRun : StaysWithin library root runId (ensureRun library runId) := by
  refine staysWithin_issued (fun _ => trivial) fun _ => ?_
  refine staysWithin_issued (fun _ => trivial) fun run => ?_
  refine StaysWithin.bind ?_ fun _ => ?_
  · cases run with
    | some row => exact staysWithin_pure ()
    | none => exact staysWithin_issued (fun _ => rfl) fun _ => staysWithin_issue fun _ => rfl
  refine staysWithin_issued (fun _ => trivial) fun partition => ?_
  refine StaysWithin.bind ?_ fun partition => ?_
  · cases partition with
    | some row => exact staysWithin_pure (some row)
    | none =>
        exact staysWithin_issued (fun _ => rfl) fun _ => staysWithin_issue fun _ => trivial
  · cases partition with
    | none => exact staysWithin_pure ()
    | some row =>
        unfold startPendingPartition
        dsimp only
        split
        · exact staysWithin_issue fun _ => rfl
        · exact staysWithin_pure ()

theorem staysWithin_fetchFixture (fixtureUrl : String) :
    StaysWithin library root runId (fetchFixture library fixtureUrl) :=
  (staysWithin_require _).bind fun _ =>
    staysWithin_attempted (fun _ => trivial) fun _ => staysWithin_require _

theorem staysWithin_discoverAndQueue (fixtureUrl : String) (current : Datetime) :
    StaysWithin library root runId (discoverAndQueue library fixtureUrl runId current) := by
  refine (staysWithin_fetchFixture fixtureUrl).bind fun payload => ?_
  refine (staysWithin_require _).bind fun listingKey => ?_
  refine (staysWithin_require _).bind fun listingUrl => ?_
  refine staysWithin_required fun observation made => ?_
  have own : observation.crawlRunId = runId := (discoveryObservation_ok made).1
  refine staysWithin_issued (fun _ => own) fun _ => ?_
  refine (staysWithin_require _).bind fun _ => ?_
  refine staysWithin_issued (fun _ => rfl) fun _ => ?_
  exact staysWithin_issue fun _ => rfl

theorem staysWithin_storeSnapshot (body : List UInt8) :
    StaysWithin library root runId
      (storeSnapshot library (snapshotPath library root runId) body) := by
  refine staysWithin_issued (fun _ => trivial) fun present => ?_
  split
  · refine staysWithin_issued (fun _ => trivial) fun stored => ?_
    split
    · exact staysWithin_require _
    · exact staysWithin_pure ()
  · refine staysWithin_attempted (fun _ => Or.inl rfl) fun created => ?_
    split
    · exact staysWithin_pure ()
    · exact staysWithin_require _
    · exact staysWithin_require _

theorem staysWithin_recordSnapshotOf (fixtureUrl leasedJobId : String) (current : Datetime) :
    StaysWithin library root runId
      (recordSnapshotOf library root fixtureUrl runId leasedJobId current) := by
  refine (staysWithin_fetchFixture fixtureUrl).bind fun payload => ?_
  refine (staysWithin_storeSnapshot _).bind fun _ => ?_
  refine (staysWithin_require _).bind fun fixture => ?_
  refine staysWithin_issued (fun _ => trivial) fun existing => ?_
  refine StaysWithin.bind ?_ fun _ => staysWithin_pure _
  cases existing with
  | some row => exact staysWithin_pure ()
  | none =>
      refine staysWithin_required fun artifact made => ?_
      have own : artifact.crawlRunId = runId := (rawFetchArtifact_ok made).2.2.1
      exact staysWithin_issue fun _ => own

theorem staysWithin_recordBatchOf (current : Datetime) :
    StaysWithin library root runId (recordBatchOf library root runId current) := by
  refine staysWithin_issued (fun _ => trivial) fun existing => ?_
  split
  · exact staysWithin_pure ()
  · refine StaysWithin.bind ?_ fun _ => ?_
    · refine staysWithin_issued (fun _ => trivial) fun present => ?_
      split
      · refine staysWithin_issued (fun _ => trivial) fun stored => ?_
        split
        · exact staysWithin_require _
        · exact staysWithin_pure ()
      · exact staysWithin_issue fun _ => Or.inr rfl
    · exact (staysWithin_require _).bind fun _ => staysWithin_issue fun _ => rfl

theorem staysWithin_runBatchRecorded (recovery : RecoveryCounts) :
    StaysWithin library root runId (runBatchRecorded library root runId recovery) := by
  refine staysWithin_issued (fun _ => trivial) fun run => ?_
  refine StaysWithin.bind ?_ fun _ =>
    staysWithin_issued (fun _ => rfl) fun _ => staysWithin_pure _
  cases run with
  | none => exact staysWithin_pure ()
  | some row =>
      unfold completeRunning
      dsimp only
      split
      · exact staysWithin_issued (fun _ => rfl) fun _ => staysWithin_issue fun _ => rfl
      · exact staysWithin_pure ()

theorem staysWithin_runParserCompleted (current : Datetime) (recovery : RecoveryCounts) :
    StaysWithin library root runId (runParserCompleted library root runId current recovery) :=
  (staysWithin_recordBatchOf current).bind fun _ => staysWithin_issued (fun _ => rfl) fun _ =>
    staysWithin_runBatchRecorded recovery

/-- The parser run that is completed is the one that was started. -/
theorem staysWithin_runSnapshotRecorded (current : Datetime) (recovery : RecoveryCounts) :
    StaysWithin library root runId
      (runSnapshotRecorded library root runId current recovery) := by
  intro seen
  refine Program.always_bind.mpr (Program.always_call.mpr ⟨rfl, fun parserRunId => ?_⟩)
  refine Program.always_bind.mpr (Program.always_call.mpr ⟨rfl, fun _ => ?_⟩)
  refine Program.always_bind.mpr (Program.always_call.mpr ⟨rfl, fun _ => ?_⟩)
  exact staysWithin_runParserCompleted current recovery (some parserRunId)

theorem staysWithin_runLeased (call : RunCall) (current : Datetime) (recovery : RecoveryCounts)
    (leasedJobId : String) :
    StaysWithin library root call.runId
      (runLeased library root call current recovery leasedJobId) := by
  refine StaysWithin.bind ?_ fun stop => ?_
  · unfold stopRequested
    split
    · exact staysWithin_pure true
    · split
      · exact staysWithin_issue fun _ => trivial
      · exact staysWithin_pure false
  split
  · exact staysWithin_issued (fun _ => trivial) fun _ => staysWithin_pure _
  · refine (staysWithin_recordSnapshotOf call.fixtureUrl leasedJobId current).bind fun path => ?_
    refine staysWithin_issued (fun _ => trivial) fun _ => ?_
    refine staysWithin_issued (fun _ => rfl) fun _ => ?_
    split
    · exact staysWithin_pure _
    · exact staysWithin_runSnapshotRecorded current recovery

theorem staysWithin_runQueued (call : RunCall) (current : Datetime) (recovery : RecoveryCounts) :
    StaysWithin library root call.runId (runQueued library root call current recovery) := by
  refine staysWithin_issued (fun _ => trivial) fun lease => ?_
  split
  · exact staysWithin_pure _
  · split
    · exact staysWithin_pure _
    · exact staysWithin_runLeased call current recovery _

theorem staysWithin_runFrom (call : RunCall) (current : Datetime) (recovery : RecoveryCounts)
    (checkpoint : Option String) :
    StaysWithin library root call.runId
      (runFrom library root call current recovery checkpoint) := by
  cases checkpoint with
  | none =>
      refine (staysWithin_discoverAndQueue call.fixtureUrl current).bind fun _ => ?_
      split
      · exact staysWithin_pure _
      · exact staysWithin_runQueued call current recovery
  | some value =>
      simp only [runFrom]
      split_ifs
      · exact staysWithin_runQueued call current recovery
      · exact staysWithin_runSnapshotRecorded current recovery
      · exact staysWithin_runParserCompleted current recovery
      · exact staysWithin_runBatchRecorded recovery
      · exact staysWithin_pure _

/-- A call names rows and files of its own run only. -/
theorem staysWithin_run (call : RunCall) :
    StaysWithin library root call.runId (run library root call) := by
  refine (staysWithin_require _).bind fun _ => ?_
  refine staysWithin_issued (fun _ => trivial) fun _ => ?_
  refine (staysWithin_require _).bind fun _ => ?_
  refine staysWithin_issued (fun _ => trivial) fun freeBytes => ?_
  refine (staysWithin_require _).bind fun _ => ?_
  refine StaysWithin.bind ?_ fun current => ?_
  · cases call.now with
    | some value => exact staysWithin_pure value
    | none => exact staysWithin_issued (fun _ => trivial) fun _ => staysWithin_pure _
  refine staysWithin_issued (fun _ => trivial) fun _ => ?_
  refine staysWithin_issued (fun _ => trivial) fun _ => ?_
  refine staysWithin_issued (fun _ => trivial) fun recovery => ?_
  refine staysWithin_ensureRun.bind fun _ => ?_
  exact staysWithin_issued (fun _ => trivial) fun checkpoint =>
    staysWithin_runFrom call current recovery checkpoint

/-! ## What one command does to other runs -/

section Commands

variable {otherRun : String} {command : Command} {environment : Environment}
  {seen : Option String} {world : World}

/-- A call of the store that a command within one run makes spares every other run. -/
theorem spares_of_within {call : StoreCall} (different : runId ≠ otherRun)
    (within : Within library root runId command seen)
    (own : ∀ parserRunId ∈ seen, HasParserRun world.db parserRunId (artifactId library runId))
    (isCall : command.storeCall environment = some call) :
    call.Spares library otherRun world.db := by
  have differentPartition : partitionId library runId ≠ partitionId library otherRun :=
    fun same => different (partitionId_injective same)
  have differentArtifact : artifactId library runId ≠ artifactId library otherRun :=
    fun same => different (artifactId_injective same)
  cases command <;> cases isCall
  case createRun | startRun | completeRun | saveCheckpoint | appendObservation |
      createIdempotent | recordSnapshot =>
    exact fun same => different (within.symm.trans same)
  case createPartition | startPartition | completePartition =>
    exact fun same => differentPartition (within.symm.trans same)
  case startParserRun => exact fun same => differentArtifact (within.symm.trans same)
  case completeParserRun parserRunId =>
    -- A parser run has one artifact.
    rintro ⟨row, member, named, isOther⟩
    obtain ⟨ownRow, ownMember, ownNamed, isOwn⟩ := own parserRunId within
    have same : ownRow = row := Table.eq_of_clash ownMember member (ownNamed.trans named.symm)
    subst same
    exact differentArtifact (isOwn.symm.trans isOther)
  case recordBatch => exact fun same => different (batchId_injective (within.symm.trans same))
  all_goals trivial

theorem performCommand_sameRecord (ledger : ProxyLedger) (different : runId ≠ otherRun)
    (within : Within library root runId command seen)
    (own : ∀ parserRunId ∈ seen, HasParserRun world.db parserRunId (artifactId library runId)) :
    SameRecord library otherRun ⟨world.db, ledger⟩
      ⟨(performCommand library environment command world).2.db, ledger⟩ := by
  rw [performCommand_storeCall]
  cases isCall : command.storeCall environment with
  | none => exact .refl _
  | some call => exact performStore_spares call _ (spares_of_within different within own isCall)

theorem performCommand_sameFiles (different : runId ≠ otherRun)
    (within : Within library root runId command seen) {path : String}
    (isOther : path = snapshotPath library root otherRun ∨
      path = recordsPath library root otherRun) :
    (performCommand library environment command world).2.files path = world.files path := by
  by_cases creates : ∃ created content, command = .createExclusive created content
  · obtain ⟨created, content, rfl⟩ := creates
    have elsewhere : path ≠ created := by
      rintro rfl
      rcases within with isOwn | isOwn <;> rcases isOther with isSnapshot | isRecords
      · exact different (snapshotPath_injective (isOwn.symm.trans isSnapshot))
      · exact snapshotPath_ne_recordsPath (isOwn.symm.trans isRecords)
      · exact snapshotPath_ne_recordsPath (isSnapshot.symm.trans isOwn)
      · exact different (recordsPath_injective (isOwn.symm.trans isRecords))
    exact (createExclusive_files created content environment.torn path).trans
      (if_neg fun both => elsewhere both.1)
  · rw [files_kept fun created content isCreate => creates ⟨created, content, isCreate⟩]

/-- Commands are steps of the store. -/
theorem performCommand_step (ledger : ProxyLedger) :
    StoreStep ⟨world.db, ledger⟩
      ⟨(performCommand library environment command world).2.db, ledger⟩ := by
  rw [performCommand_storeCall]
  cases command.storeCall environment with
  | none => exact .refl _
  | some call => exact performStore_step library call _

theorem HasParserRun.kept {store next : Store} {parserRunId artifact : String}
    (found : HasParserRun store.db parserRunId artifact) (step : StoreStep store next) :
    HasParserRun next.db parserRunId artifact := by
  obtain ⟨row, member, named, ofArtifact⟩ := found
  obtain ⟨later, laterMember, keeps⟩ := step.parserRuns.grows row member
  exact ⟨later, laterMember, (congrArg ParserRunColumns.parserRunId keeps).trans named,
    (congrArg ParserRunColumns.artifactId keeps).trans ofArtifact⟩

/-- The parser run that a call has seen is of the artifact of its run. -/
theorem hasParserRun_observed (within : Within library root runId command seen)
    (own : ∀ parserRunId ∈ seen, HasParserRun world.db parserRunId (artifactId library runId)) :
    ∀ parserRunId ∈ observeParserRun command
        (performCommand library environment command world).1 seen,
      HasParserRun (performCommand library environment command world).2.db parserRunId
        (artifactId library runId) := by
  intro parserRunId isSeen
  by_cases starts : ∃ artifact parserName parserVersion,
      command = .startParserRun artifact parserName parserVersion
  · obtain ⟨artifact, parserName, parserVersion, rfl⟩ := starts
    cases outcome : performCommand library environment
        (.startParserRun artifact parserName parserVersion) world with
    | mk result later =>
    rw [outcome] at isSeen
    simp only [performCommand] at outcome
    obtain ⟨next, call, rfl⟩ := onDb_eq.mp outcome
    rcases startParserRun_cases call with ⟨raised, rfl, rfl⟩ | ⟨rfl, parserRuns, rfl, rows⟩
    · exact own parserRunId isSeen
    · cases isSeen
      refine ⟨startedParserRun artifact parserName parserVersion environment.identifier
        environment.clock, ?_, rfl, within⟩
      rw [← Table.mem_rows, rows]
      exact List.mem_append_right _ (List.mem_singleton_self _)
  · have sameSeen : observeParserRun command
        (performCommand library environment command world).1 seen = seen := by
      cases command <;> first | rfl | exact absurd ⟨_, _, _, rfl⟩ starts
    rw [sameSeen] at isSeen
    exact (own parserRunId isSeen).kept (performCommand_step Table.empty)

end Commands

/-! ## Sessions of a system -/

section Sessions

variable {session : WorkerSession} {world next : World}

variable (library root) in
/-- What a session may still name is its run's, and so is the parser run it has started. -/
structure OwnSession (session : WorkerSession) (world : World) : Prop where
  within : session.rest.Always (Within library root session.call.runId) observeParserRun
    (fun _ _ => True) (startedParserRunOf session)
  started : ∀ parserRunId ∈ startedParserRunOf session,
    HasParserRun world.db parserRunId (artifactId library session.call.runId)

theorem OwnSession.kept {ledger nextLedger : ProxyLedger}
    (own : OwnSession library root session world)
    (step : StoreStep ⟨world.db, ledger⟩ ⟨next.db, nextLedger⟩) :
    OwnSession library root session next where
  within := own.within
  started parserRunId isSeen := (own.started parserRunId isSeen).kept step

theorem OwnSession.afterCommand {environment : Environment} {command : Command}
    {rest : Except PyError (Reply command) → Worker SyntheticWorkerResult}
    (own : OwnSession library root session world) (remaining : session.rest = .issue command rest) :
    OwnSession library root
      (Pool.afterCommand session command rest
        (performCommand library environment command world).1)
      (performCommand library environment command world).2 := by
  have within := own.within
  rw [remaining] at within
  refine ⟨?_, ?_⟩
  · rw [startedParserRunOf, Pool.view_afterCommand]
    exact within.2 _
  · rw [startedParserRunOf, Pool.view_afterCommand]
    exact hasParserRun_observed within.1 own.started

end Sessions

/-! ## Isolation -/

section Systems

variable {Process : Type} [DecidableEq Process]

variable (library root) in
def OwnSessions (system : System Process) : Prop :=
  ∀ process session, system.pool.sessions process = some session →
    OwnSession library root session system.pool.world

theorem ownSessions_move (move : SystemMove Process) (system : System Process)
    (own : OwnSessions library root system) :
    OwnSessions library root (performSystem library root move system).2 := by
  cases move with
  | client call =>
      intro process session current
      exact (own process session current).kept (performStore_step library call system.store)
  | worker move =>
      apply Pool.sessions_move (OwnSession library root) move system.pool _ _ _ own
      · intro process call _
        exact ⟨staysWithin_run call none, nofun⟩
      · intro process environment session command rest _ current remaining
        exact (own process session current).afterCommand remaining
      · intro _ _ _ _ _ other found _ _ _ _ isFound
        exact (own other found isFound).kept (performCommand_step Table.empty)

theorem ownSessions_afterSystem (moves : List (SystemMove Process)) :
    OwnSessions library root (afterSystem library root moves) :=
  @History.after_invariant _ _ _ (performSystem library root) (OwnSessions library root)
    ownSessions_move _ (fun _ _ found => by cases found) moves

/-- The move is not one of a call for the run, nor a client's call that names its rows. -/
def SystemMove.Spares (library : StandardLibrary) (runId : String) (system : System Process) :
    SystemMove Process → Prop
  | .worker (.step process _) =>
      ∀ session ∈ system.pool.sessions process, session.call.runId ≠ runId
  | .worker _ => True
  | .client call => call.Spares library runId system.pool.world.db

instance (library : StandardLibrary) (runId : String) (system : System Process) :
    (move : SystemMove Process) → Decidable (move.Spares library runId system)
  | .worker (.step process _) => inferInstanceAs
      (Decidable (∀ session ∈ system.pool.sessions process, session.call.runId ≠ runId))
  | .worker (.start _ _) | .worker (.stop _) => isTrue trivial
  | .client call => inferInstanceAs (Decidable (call.Spares library runId system.pool.world.db))

variable (library root runId) in
/-- The rows and the files of the run are as they were. -/
structure Untouched (system later : System Process) : Prop where
  record : SameRecord library runId system.store later.store
  snapshot : later.pool.world.files (snapshotPath library root runId) =
    system.pool.world.files (snapshotPath library root runId)
  records : later.pool.world.files (recordsPath library root runId) =
    system.pool.world.files (recordsPath library root runId)

omit [DecidableEq Process] in
theorem Untouched.refl (system : System Process) : Untouched library root runId system system where
  record := .refl system.store
  snapshot := rfl
  records := rfl

omit [DecidableEq Process] in
theorem Untouched.trans {first second third : System Process}
    (left : Untouched library root runId first second)
    (right : Untouched library root runId second third) :
    Untouched library root runId first third where
  record := left.record.trans right.record
  snapshot := right.snapshot.trans left.snapshot
  records := right.records.trans left.records

theorem untouched_move (move : SystemMove Process) (system : System Process)
    (spares : move.Spares library runId system) (own : OwnSessions library root system) :
    Untouched library root runId system (performSystem library root move system).2 := by
  cases move with
  | client call =>
      exact { Untouched.refl system with record := performStore_spares call system.store spares }
  | worker move =>
      have still := @Pool.world_move _ _ _ _ _ _ _ _ _ (run library root) (performCommand library)
        (fun world => Untouched library root runId system
          ⟨{ system.pool with world := world }, system.ledger⟩) move system.pool ?_
        (Untouched.refl system)
      · exact ⟨still.record, still.snapshot, still.records⟩
      · rintro process environment session command rest rfl current remaining
        have different := spares session current
        obtain ⟨within, started⟩ := own process session current
        rw [remaining] at within
        exact
          { record := performCommand_sameRecord system.ledger different within.1 started
            snapshot := performCommand_sameFiles different within.1 (Or.inl rfl)
            records := performCommand_sameFiles different within.1 (Or.inr rfl) }

/-- Runs are isolated: whatever other calls of `run` do, interleaved with one another and
cut off anywhere, and whatever clients do that name no row of the run, its record and its
files stay as they are. -/
theorem runs_are_isolated (library : StandardLibrary) (root runId : String)
    (moves later : List (SystemMove Process))
    (spares : History.Along (performSystem library root) (SystemMove.Spares library runId)
      (afterSystem library root moves) later) :
    Untouched library root runId (afterSystem library root moves)
      (afterSystem library root (moves ++ later)) := by
  have joined : afterSystem library root (moves ++ later) =
      History.after (performSystem library root) (afterSystem library root moves) later :=
    History.after_append _ _ _ _
  rw [joined]
  exact History.along_related (performSystem library root) Untouched.refl Untouched.trans
    (fun move system _ own => ownSessions_move move system own)
    (fun move system meets own => untouched_move move system meets own)
    (ownSessions_afterSystem moves) spares

end Systems

end Isolation

/-- A call for "run-1" that stops once its job is queued. -/
def firstRun : List (SystemMove Bool) :=
  (.start false (sampleCall "run-1" (some "discovery") 0) :: sampleSteps false 0 18).map .worker

/-- A call for "run-2" that is cut off, and a recovery and a new run of another client. -/
def secondRun : List (SystemMove Bool) :=
  (.start true (sampleCall "run-2" none 0) :: sampleSteps true 18 9).map .worker ++
    [ .client (.queue (.recoverAbandoned (sampleLater 0))),
      .client (.createRun "run-3" "synthetic_fixture" "synthetic_step3a" sampleMorning) ] ++
    (sampleSteps true 27 2).map .worker ++ [.worker (.stop true)]

theorem second_run_leaves_the_first_untouched :
    Untouched sampleLibrary "/runtime" "run-1" (afterSystem sampleLibrary "/runtime" firstRun)
      (afterSystem sampleLibrary "/runtime" (firstRun ++ secondRun)) :=
  runs_are_isolated sampleLibrary "/runtime" "run-1" firstRun secondRun
    (@History.along_of_allAlong _ _ _ (performSystem sampleLibrary "/runtime") _
      (fun system move => decide (move.Spares sampleLibrary "run-1" system))
      (fun _ _ => of_decide_eq_true) _ _ (by decide +kernel))

end ScraperProject.Orchestration
