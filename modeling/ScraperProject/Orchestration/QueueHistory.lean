import ScraperProject.Orchestration.JobMachine
import ScraperProject.Orchestration.QueueInvariant

/-!
Contract: two states of one run of the queue.

Owns the refinement of the documented job machine by the tables, the relation
between an earlier and a later state of a run (jobs keep their identity, ended
attempts keep their row), the fact that stored times are texts of instants, and the
number of times a job is handed out.

Does not own the invariant of a single state.
-/

namespace ScraperProject.Orchestration

open Foundation
open Database
open Contracts

/-! ## One job in two states -/

/-- The columns of a job that no call changes. -/
structure SameIdentity (row later : JobRow) : Prop where
  jobId : later.jobId = row.jobId
  crawlRunId : later.crawlRunId = row.crawlRunId
  sourceName : later.sourceName = row.sourceName
  sourceListingKey : later.sourceListingKey = row.sourceListingKey
  listingUrl : later.listingUrl = row.listingUrl
  reasonCode : later.reasonCode = row.reasonCode
  priority : later.priority = row.priority
  maxAttempts : later.maxAttempts = row.maxAttempts
  metadataJson : later.metadataJson = row.metadataJson
  createdAt : later.createdAt = row.createdAt

theorem SameIdentity.refl (row : JobRow) : SameIdentity row row :=
  ⟨rfl, rfl, rfl, rfl, rfl, rfl, rfl, rfl, rfl, rfl⟩

theorem SameIdentity.trans {first second third : JobRow} (left : SameIdentity first second)
    (right : SameIdentity second third) : SameIdentity first third where
  jobId := right.jobId.trans left.jobId
  crawlRunId := right.crawlRunId.trans left.crawlRunId
  sourceName := right.sourceName.trans left.sourceName
  sourceListingKey := right.sourceListingKey.trans left.sourceListingKey
  listingUrl := right.listingUrl.trans left.listingUrl
  reasonCode := right.reasonCode.trans left.reasonCode
  priority := right.priority.trans left.priority
  maxAttempts := right.maxAttempts.trans left.maxAttempts
  metadataJson := right.metadataJson.trans left.metadataJson
  createdAt := right.createdAt.trans left.createdAt

/-- The machine that a row represents. -/
def machineOf (row : JobRow) : JobMachine := ⟨row.state, row.attemptCount⟩

theorem JobStep.identity {event : JobEvent} {view after : JobView}
    (step : JobStep event view after) : SameIdentity view.row after.row := by
  cases step with
  | kept => exact .refl _
  | leased => exact ⟨rfl, rfl, rfl, rfl, rfl, rfl, rfl, rfl, rfl, rfl⟩
  | settled => exact ⟨rfl, rfl, rfl, rfl, rfl, rfl, rfl, rfl, rfl, rfl⟩

/-- Every change of a row is a step of the machine. -/
theorem JobStep.moves {event : JobEvent} {view after : JobView}
    (step : JobStep event view after) :
    JobMachine.Moves (machineOf view.row) (machineOf after.row) := by
  cases step with
  | kept => exact .refl _
  | leased _ jobAttemptId workerId current expires pending left =>
      simp only [machineOf, leasedRow, JobRow.lease, pending]
      exact Or.inr (.lease _)
  | settled _ state outcome errorClass current processing settles =>
      simp only [machineOf, JobRow.settle, processing]
      cases settles with
      | succeeded => exact Or.inr (.success _)
      | failedExhausted => exact Or.inr (.exhaustion _)
      | failedRetryable => exact Or.inr (.retry _)
      | abandonedExhausted => exact Or.inr (.exhaustion _)
      | abandonedRetryable => exact Or.inr (.retry _)

/-- An attempt that has ended is not touched again: the one attempt that a call
may close is open. -/
theorem JobStep.keeps_ended {event : JobEvent} {view after : JobView}
    (step : JobStep event view after) (sound : view.Sound) {attempt : AttemptRow}
    (member : attempt ∈ view.attempts) (ended : attempt.finishedAt.isSome) :
    attempt ∈ after.attempts := by
  cases step with
  | kept => exact member
  | leased => exact List.mem_append_left _ member
  | settled _ state outcome errorClass current processing settles =>
      refine List.mem_map.mpr ⟨attempt, member, if_neg fun number => ?_⟩
      have opened := (sound.current attempt member processing number).1.1
      rw [opened] at ended
      cases ended

/-! ## Earlier and later states -/

/-- What holds between a state of a run and a later one. -/
structure LaterThan (earlier later : Db) : Prop where
  jobs : ∀ row ∈ earlier.jobs, ∃ after ∈ later.jobs, SameIdentity row after ∧
    Relation.ReflTransGen JobMachine.Moves (machineOf row) (machineOf after)
  ended : ∀ attempt ∈ earlier.attempts, attempt.finishedAt.isSome → attempt ∈ later.attempts

theorem LaterThan.refl (db : Db) : LaterThan db db where
  jobs row member := ⟨row, member, .refl row, .refl⟩
  ended _ member _ := member

theorem LaterThan.trans {first second third : Db} (left : LaterThan first second)
    (right : LaterThan second third) : LaterThan first third where
  jobs row member := by
    obtain ⟨middle, middleMember, sameLeft, pathLeft⟩ := left.jobs row member
    obtain ⟨after, afterMember, sameRight, pathRight⟩ := right.jobs middle middleMember
    exact ⟨after, afterMember, sameLeft.trans sameRight, pathLeft.trans pathRight⟩
  ended attempt member ended := right.ended attempt (left.ended attempt member ended) ended

theorem QueueEffect.laterThan {db next : Db} {call : QueueCall}
    {result : Except PyError QueueReply} (effect : QueueEffect db call result next)
    (invariant : QueueInvariant db) : LaterThan db next where
  jobs row member := by
    obtain ⟨after, afterMember, _, event, step, _⟩ := effect.step member
    exact ⟨after, afterMember, step.identity, .single step.moves⟩
  ended attempt member ended := by
    obtain ⟨row, rowMember, sameId⟩ := invariant.owned attempt member
    obtain ⟨after, afterMember, _, event, step, _⟩ := effect.step rowMember
    have listed : attempt ∈ (jobView db row).attempts :=
      mem_attemptsOf.mpr ⟨member, sameId.symm⟩
    exact (mem_attemptsOf.mp
      (step.keeps_ended (invariant.sound row rowMember) listed ended)).1

theorem perform_keeps (call : QueueCall) (db : Db) (invariant : QueueInvariant db) :
    QueueInvariant (perform call db).2 :=
  (perform_effect call db).invariant invariant

theorem laterThan_after {start : Db} (invariant : QueueInvariant start)
    (calls : List QueueCall) : LaterThan start (History.after perform start calls) :=
  History.after_related perform LaterThan.refl LaterThan.trans perform_keeps
    (fun call db kept => (perform_effect call db).laterThan kept) invariant calls

/-! ## Stored times -/

/-- The times of a job are texts of instants. -/
structure Stamped (row : JobRow) : Prop where
  scheduled : ∃ stamp : Instant, row.scheduledAt = stamp.text
  expiry : ∀ expires, row.leaseExpiresAt = some expires → ∃ stamp : Instant, expires = stamp.text

/-- A settled job stores the text of its end and no expiry. -/
theorem stamped_settle {row : JobRow} {state : JobState} {errorClass : Option String}
    {current : String} {now : Datetime} (clock : timestamp now = .ok current) :
    Stamped (row.settle state errorClass current) where
  scheduled := by
    obtain ⟨stamp, _, isText⟩ := timestamp_ok_iff.mp clock
    exact ⟨stamp, isText.symm⟩
  expiry _ isSome := by cases isSome

theorem QueueEffect.stamped {db next : Db} {call : QueueCall}
    {result : Except PyError QueueReply} (effect : QueueEffect db call result next)
    (stamped : ∀ row ∈ db.jobs, Stamped row) : ∀ row ∈ next.jobs, Stamped row := by
  intro row member
  cases effect with
  | raised => exact stamped row member
  | found _ _ frame =>
      rw [frame] at member
      exact stamped row member
  | created made =>
      rw [← Table.mem_rows, made.jobs, List.mem_append, List.mem_singleton] at member
      rcases member with old | rfl
      · exact stamped row old
      · obtain ⟨stamp, _, isText⟩ := timestamp_ok_iff.mp made.scheduled
        exact ⟨⟨stamp, isText.symm⟩, fun _ isSome => by
          rw [made.fresh.2.2.2] at isSome
          cases isSome⟩
  | idle => exact stamped row member
  | leased leased =>
      rw [← Table.mem_rows, leased.jobs] at member
      obtain ⟨old, oldMember, rfl⟩ := List.mem_map.mp member
      split
      · refine ⟨(stamped _ leased.member).scheduled, fun expires isSome => ?_⟩
        obtain ⟨_, _, printed⟩ := leased.expiry
        obtain ⟨stamp, _, isText⟩ := timestamp_ok_iff.mp printed
        exact ⟨stamp, (Option.some.inj isSome).symm.trans isText.symm⟩
      · exact stamped old oldMember
  | succeeded finished =>
      rcases finished.origin member with old | rfl
      · exact stamped row old
      · exact stamped_settle finished.clock
  | failed finished =>
      rcases finished.origin member with old | rfl
      · exact stamped row old
      · exact stamped_settle finished.clock
  | recovered recovery =>
      rw [← Table.mem_rows, recovery.jobs] at member
      obtain ⟨old, oldMember, rfl⟩ := List.mem_map.mp member
      unfold recoveredRow
      split
      · exact stamped_settle recovery.clock
      · exact stamped old oldMember

/-! ## The path of one job -/

/-- The machine of a job identifier, once the job exists. -/
def machineAt (jobId : String) (db : Db) : Option JobMachine :=
  (db.jobs.find? fun row => row.jobId = jobId).map machineOf

theorem machineAt_eq_some {jobId : String} {db : Db} {machine : JobMachine} :
    machineAt jobId db = some machine ↔
      ∃ row ∈ db.jobs, row.jobId = jobId ∧ machineOf row = machine := by
  simp only [machineAt, Option.map_eq_some_iff]
  constructor
  · rintro ⟨row, found, same⟩
    obtain ⟨member, selected⟩ := Table.find?_some found
    exact ⟨row, member, by simpa using selected, same⟩
  · rintro ⟨row, member, sameId, same⟩
    refine ⟨row, ?_, same⟩
    refine Table.find?_eq_some_of_mem member (by simpa using sameId) fun other _ selected => ?_
    have otherId : other.jobId = jobId := by simpa using selected
    exact Or.inl (otherId.trans sameId.symm)

/-- The successive machines of a job identifier over a run. -/
def machinePath (jobId : String) (start : Db) (calls : List QueueCall) : List JobMachine :=
  (History.states perform start calls).filterMap (machineAt jobId)

theorem machinePath_isChain (jobId : String) {start : Db} (invariant : QueueInvariant start)
    (calls : List QueueCall) :
    (machinePath jobId start calls).IsChain JobMachine.Moves := by
  refine History.observed_isChain perform (machineAt jobId) perform_keeps ?_ invariant calls
  intro call db _ before observed
  obtain ⟨row, member, sameId, same⟩ := machineAt_eq_some.mp observed
  obtain ⟨after, afterMember, afterId, event, step, _⟩ := (perform_effect call db).step member
  refine ⟨machineOf after, ?_, same ▸ step.moves⟩
  exact machineAt_eq_some.mpr ⟨after, afterMember, afterId.trans sameId, rfl⟩

theorem machinePath_head (jobId : String) {start : Db} (empty : EmptyQueue start)
    (calls : List QueueCall) :
    ∀ first ∈ (machinePath jobId start calls).head?, first = JobMachine.initial := by
  have absent : machineAt jobId start = none := by
    simp [machineAt, Table.find?, empty.1]
  refine History.observed_head perform (machineAt jobId) perform_keeps ?_ empty.invariant absent
    calls
  intro call db _ unseen first observed
  obtain ⟨after, member, sameId, same⟩ := machineAt_eq_some.mp observed
  rcases (perform_effect call db).origin member with
    ⟨row, rowMember, rowId⟩ | ⟨job, _, _, _, created⟩
  · have present := machineAt_eq_some.mpr ⟨row, rowMember, rowId.trans sameId, rfl⟩
    rw [unseen] at present
    cases present
  · rw [← same, machineOf, created.fresh.1, created.fresh.2.1]
    rfl

/-! ## Leases handed out -/

/-- The reply hands out the job. -/
def handsOut (jobId : String) : Except PyError QueueReply → Bool
  | .ok (.lease (some lease)) => lease.jobId = jobId
  | _ => false

/-- The reply hands out a job exactly when the event of the job is a lease. -/
theorem handsOut_iff {event : JobEvent} {result : Except PyError QueueReply} {jobId : String}
    (handed : ∀ lease, event = .leased lease ↔
      result = .ok (.lease (some lease)) ∧ lease.jobId = jobId) :
    handsOut jobId result = true ↔ ∃ lease, event = .leased lease := by
  simp only [handed]
  constructor
  · intro given
    unfold handsOut at given
    split at given
    · next lease => exact ⟨lease, rfl, by simpa using given⟩
    · cases given
  · rintro ⟨lease, rfl, same⟩
    simpa [handsOut] using same

/-- How often the run handed out the job. -/
def timesHandedOut (jobId : String) (past : List (QueueCall × Except PyError QueueReply)) :
    Nat :=
  past.countP fun event => handsOut jobId event.2

theorem timesHandedOut_snoc (jobId : String)
    (past : List (QueueCall × Except PyError QueueReply)) (call : QueueCall)
    (result : Except PyError QueueReply) :
    timesHandedOut jobId (past ++ [(call, result)]) =
      timesHandedOut jobId past + (if handsOut jobId result then 1 else 0) := by
  simp [timesHandedOut, List.countP_cons]

/-- The counter of a job is the number of times it was handed out. -/
structure HandedOut (past : List (QueueCall × Except PyError QueueReply)) (db : Db) : Prop where
  invariant : QueueInvariant db
  known : ∀ row ∈ db.jobs, (timesHandedOut row.jobId past : Int) = row.attemptCount
  unknown : ∀ jobId, (∀ row ∈ db.jobs, row.jobId ≠ jobId) → timesHandedOut jobId past = 0

theorem JobStep.counted {event : JobEvent} {view after : JobView}
    (step : JobStep event view after) :
    (∃ lease, event = .leased lease ∧ after.row.attemptCount = view.row.attemptCount + 1) ∨
      ((∀ lease, event ≠ .leased lease) ∧ after.row.attemptCount = view.row.attemptCount) := by
  cases step with
  | kept => exact Or.inr ⟨by simp, rfl⟩
  | leased => exact Or.inl ⟨_, rfl, rfl⟩
  | settled => exact Or.inr ⟨by simp, rfl⟩

/-- A reply hands out no job that the table does not have. -/
theorem QueueEffect.silent {db next : Db} {call : QueueCall} {result : Except PyError QueueReply}
    (effect : QueueEffect db call result next) {jobId : String}
    (unseen : ∀ row ∈ db.jobs, row.jobId ≠ jobId) : handsOut jobId result = false := by
  cases effect with
  | leased leased => exact decide_eq_false (unseen _ leased.member)
  | raised | found | created | idle | succeeded | failed | recovered => rfl

theorem QueueEffect.handedOut {past : List (QueueCall × Except PyError QueueReply)}
    {db next : Db} {call : QueueCall} {result : Except PyError QueueReply}
    (effect : QueueEffect db call result next) (counted : HandedOut past db) :
    HandedOut (past ++ [(call, result)]) next where
  invariant := effect.invariant counted.invariant
  known after member := by
    rw [timesHandedOut_snoc]
    rcases effect.origin_step member with
      ⟨row, rowMember, sameId, event, step, handed⟩ | ⟨job, _, _, _, created⟩
    · have before := counted.known row rowMember
      rw [← sameId]
      have replies := handsOut_iff handed
      rcases step.counted with ⟨lease, isLease, grown⟩ | ⟨noLease, same⟩
      · rw [if_pos (replies.mpr ⟨lease, isLease⟩)]
        simp only [jobView] at grown
        omega
      · rw [if_neg fun given => (replies.mp given).elim noLease]
        simp only [jobView] at same
        omega
    · have fresh : ∀ row ∈ db.jobs, row.jobId ≠ after.jobId := fun row rowMember same =>
        created.fits row rowMember (Or.inl same)
      rw [counted.unknown after.jobId fresh, effect.silent fresh, created.fresh.2.1]
      simp
  unknown jobId absent := by
    have unseen : ∀ row ∈ db.jobs, row.jobId ≠ jobId := by
      intro row rowMember same
      obtain ⟨stored, storedMember, storedId, _⟩ := effect.step rowMember
      exact absent stored storedMember (storedId.trans same)
    rw [timesHandedOut_snoc, counted.unknown jobId unseen, effect.silent unseen]
    simp

theorem handedOut_after {start : Db} (empty : EmptyQueue start) (calls : List QueueCall) :
    HandedOut (History.events perform start calls) (History.after perform start calls) := by
  refine History.history_invariant perform
    (fun past call db counted => (perform_effect call db).handedOut counted) ?_ calls
  exact
    { invariant := empty.invariant
      known := by
        intro row member
        rw [← Table.mem_rows, empty.1] at member
        cases member
      unknown := fun _ _ => rfl }

/-! ## The refinement -/

/-- The state that `fail` returns is the state it stored. -/
theorem fail_returns_stored {jobId workerId errorClass value : String} {now : Datetime}
    {db : Db} (returned : (perform (.fail jobId workerId errorClass now) db).1 =
      .ok (.state value)) :
    ∃ row ∈ (perform (.fail jobId workerId errorClass now) db).2.jobs,
      row.jobId = jobId ∧ row.state.value = value := by
  have effect := perform_effect (.fail jobId workerId errorClass now) db
  rw [returned] at effect
  generalize (perform (.fail jobId workerId errorClass now) db).2 = next at effect
  cases effect with
  | failed finished =>
      exact ⟨_, finished.stored, finished.sameId, rfl⟩

theorem raise_changes_nothing {call : QueueCall} {db : Db} {raised : PyError}
    (failed : (perform call db).1 = .error raised) : (perform call db).2 = db := by
  have effect := perform_effect call db
  rw [failed] at effect
  generalize (perform call db).2 = next at effect
  cases effect
  rfl

/-- The queue refines the documented job machine, and its history only grows. -/
theorem queue_refines_job_machine (start : Db) (empty : EmptyQueue start)
    (first second : List QueueCall) :
    let earlier := History.after perform start first
    let later := History.after perform start (first ++ second)
    (∀ row ∈ earlier.jobs, ∃ after ∈ later.jobs, SameIdentity row after ∧
        Relation.ReflTransGen JobMachine.Moves (machineOf row) (machineOf after) ∧
          ((machineOf row).Terminal → after.state = row.state)) ∧
      (∀ attempt ∈ earlier.attempts, attempt.finishedAt.isSome → attempt ∈ later.attempts) ∧
      (∀ jobId, (machinePath jobId start (first ++ second)).IsChain JobMachine.Moves ∧
        ∀ machine ∈ (machinePath jobId start (first ++ second)).head?,
          machine = JobMachine.initial) ∧
      (∀ row ∈ later.jobs, (timesHandedOut row.jobId
        (History.events perform start (first ++ second)) : Int) ≤ row.maxAttempts) ∧
      (∀ jobId workerId errorClass now value,
        (perform (.fail jobId workerId errorClass now) later).1 = .ok (.state value) →
          ∃ row ∈ (perform (.fail jobId workerId errorClass now) later).2.jobs,
            row.jobId = jobId ∧ row.state.value = value) ∧
      ∀ call raised, (perform call later).1 = .error raised → (perform call later).2 = later := by
  intro earlier later
  have between : LaterThan earlier later := by
    have grown := laterThan_after (queueInvariant_after empty first) second
    rwa [← History.after_append] at grown
  refine ⟨?_, between.ended, ?_, ?_, ?_, fun call raised => raise_changes_nothing⟩
  · intro row member
    obtain ⟨after, afterMember, same, path⟩ := between.jobs row member
    refine ⟨after, afterMember, same, path, fun terminal => ?_⟩
    exact congrArg JobMachine.state (JobMachine.terminal_of_path path terminal)
  · exact fun jobId => ⟨machinePath_isChain jobId empty.invariant _,
      machinePath_head jobId empty _⟩
  · intro row member
    have counted := handedOut_after empty (first ++ second)
    rw [counted.known row member]
    exact (counted.invariant.sound row member).bounded
  · exact fun jobId workerId errorClass now value => fail_returns_stored

/-- The run of the sample calls, seen after the first two and at its end. -/
theorem queue_refines_job_machine_on_sample :
    machinePath "job-1" sampleStart sampleCalls =
        [⟨.pending, 0⟩, ⟨.processing, 1⟩, ⟨.pending, 1⟩, ⟨.processing, 2⟩] ∧
      ∀ row ∈ (History.after perform sampleStart sampleCalls).jobs,
        (timesHandedOut row.jobId (History.events perform sampleStart sampleCalls) : Int) ≤
          row.maxAttempts :=
  ⟨by decide +kernel,
    (queue_refines_job_machine sampleStart ⟨rfl, rfl⟩ (sampleCalls.take 2)
      (sampleCalls.drop 2)).2.2.2.1⟩

end ScraperProject.Orchestration
