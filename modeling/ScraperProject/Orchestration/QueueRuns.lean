import ScraperProject.Foundation.History
import ScraperProject.Orchestration.QueueSteps

/-!
Contract: runs of the queue, seen one job at a time.

Owns the calls that change the queue, the view of one job (its row and its
attempts), the three ways in which a call can change a view, and the fact that
every call changes every view in one of them. Invariants, histories and
refinement of the queue are all inductions over these three ways.

Does not own the invariants.
-/

namespace ScraperProject.Orchestration

open Foundation
open Database
open Contracts

/-! ## Calls -/

/-- A call on the queue with its arguments, clock readings and fresh
identifiers. -/
inductive QueueCall where
  | createIdempotent (job : DetailFetchJob) (createdAt updatedAt : Instant)
  | leaseNext (workerId : String) (leaseSeconds : Int) (now : Datetime) (jobAttemptId : String)
  | succeed (jobId workerId : String) (now : Datetime)
  | fail (jobId workerId errorClass : String) (now : Datetime)
  | recoverAbandoned (now : Datetime)

inductive QueueReply where
  | jobId (value : String)
  | lease (value : Option JobLease)
  | done
  | state (value : String)
  | counts (value : RecoveryCounts)

/-- A call on a database: its result or exception, and the database after it. -/
def perform : QueueCall → Db → Except PyError QueueReply × Db
  | .createIdempotent job createdAt updatedAt, db =>
      let (result, next) := createIdempotent job createdAt updatedAt db
      (result.map .jobId, next)
  | .leaseNext workerId leaseSeconds now jobAttemptId, db =>
      let (result, next) := leaseNext workerId leaseSeconds now jobAttemptId db
      (result.map .lease, next)
  | .succeed jobId workerId now, db =>
      let (result, next) := succeed jobId workerId now db
      (result.map fun _ => .done, next)
  | .fail jobId workerId errorClass now, db =>
      let (result, next) := fail jobId workerId errorClass now db
      (result.map .state, next)
  | .recoverAbandoned now, db =>
      let (result, next) := recoverAbandoned now db
      (result.map .counts, next)

/-! ## Views -/

/-- One job: its row and its attempts in row order. -/
structure JobView where
  row : JobRow
  attempts : List AttemptRow

def attemptsOf (db : Db) (jobId : String) : List AttemptRow :=
  db.attempts.rows.filter fun attempt => attempt.jobId = jobId

def jobView (db : Db) (row : JobRow) : JobView := ⟨row, attemptsOf db row.jobId⟩

theorem mem_attemptsOf {db : Db} {jobId : String} {attempt : AttemptRow} :
    attempt ∈ attemptsOf db jobId ↔ attempt ∈ db.attempts ∧ attempt.jobId = jobId := by
  simp [attemptsOf]

/-- How an attempt can end, by the counters of its job. -/
inductive Settles (row : JobRow) : JobState → AttemptOutcome → Prop where
  | succeeded : Settles row .succeeded .succeeded
  | failedExhausted (spent : row.maxAttempts ≤ row.attemptCount) :
      Settles row .failedExhausted .failedExhausted
  | failedRetryable (left : row.attemptCount < row.maxAttempts) :
      Settles row .pending .failedRetryable
  | abandonedExhausted (spent : row.maxAttempts ≤ row.attemptCount) :
      Settles row .failedExhausted .abandoned
  | abandonedRetryable (left : row.attemptCount < row.maxAttempts) :
      Settles row .pending .abandoned

theorem Settles.released {row : JobRow} {state : JobState} {outcome : AttemptOutcome}
    (settles : Settles row state outcome) : state ≠ .processing := by
  cases settles <;> simp

/-- What happens to one job in one call. -/
inductive JobEvent where
  | kept
  | leased (lease : JobLease)
  | settled (outcome : AttemptOutcome)

/-- Close the attempt with the number of the row. -/
def closeCurrent (row : JobRow) (outcome : AttemptOutcome) (errorClass : Option String)
    (current : String) (attempt : AttemptRow) : AttemptRow :=
  if attempt.attemptNumber = row.attemptCount then attempt.close outcome errorClass current
  else attempt

inductive JobStep : JobEvent → JobView → JobView → Prop where
  | kept (view : JobView) : JobStep .kept view view
  | leased (view : JobView) (jobAttemptId workerId current expires : String)
      (pending : view.row.state = .pending)
      (left : view.row.attemptCount < view.row.maxAttempts) :
      JobStep (.leased (leaseOf view.row workerId expires)) view
        ⟨leasedRow view.row workerId expires current,
          view.attempts ++ [openAttempt jobAttemptId view.row workerId current]⟩
  | settled (view : JobView) (state : JobState) (outcome : AttemptOutcome)
      (errorClass : Option String) (current : String)
      (processing : view.row.state = .processing) (settles : Settles view.row state outcome) :
      JobStep (.settled outcome) view
        ⟨view.row.settle state errorClass current,
          view.attempts.map (closeCurrent view.row outcome errorClass current)⟩

/-! ## Views after each operation -/

theorem attemptsOf_append (db next : Db) (attempt : AttemptRow) (jobId : String)
    (rows : next.attempts.rows = db.attempts.rows ++ [attempt]) :
    attemptsOf next jobId =
      if attempt.jobId = jobId then attemptsOf db jobId ++ [attempt] else attemptsOf db jobId := by
  unfold attemptsOf
  rw [rows, List.filter_append]
  by_cases own : attempt.jobId = jobId <;> simp [own]

theorem attemptsOf_map (db next : Db) (change : AttemptRow → AttemptRow) (jobId : String)
    (sameJob : ∀ attempt, (change attempt).jobId = attempt.jobId)
    (rows : next.attempts.rows = db.attempts.rows.map change) :
    attemptsOf next jobId = (attemptsOf db jobId).map change := by
  unfold attemptsOf
  rw [rows, List.filter_map]
  congr 1
  refine List.filter_congr fun attempt _ => ?_
  simp [sameJob]

theorem closedAttempt_jobId (row : JobRow) (outcome : AttemptOutcome)
    (errorClass : Option String) (current : String) (attempt : AttemptRow) :
    (closedAttempt row outcome errorClass current attempt).jobId = attempt.jobId := by
  unfold closedAttempt
  split <;> rfl

theorem abandonedAttempt_jobId (rows : List JobRow) (current : String) (attempt : AttemptRow) :
    (abandonedAttempt rows current attempt).jobId = attempt.jobId := by
  unfold abandonedAttempt
  split <;> rfl

/-- A lease changes the view of its own job only. -/
theorem Leased.step {workerId jobAttemptId current expires : String} {leaseSeconds : Int}
    {now : Datetime} {row stored : JobRow} {db next : Db}
    (leased : Leased workerId leaseSeconds now jobAttemptId row current expires db next)
    (member : stored ∈ db.jobs) :
    ∃ after ∈ next.jobs, after.jobId = stored.jobId ∧
      ((stored = row ∧ JobStep (.leased (leaseOf row workerId expires)) (jobView db stored)
          (jobView next after)) ∨
        (stored.jobId ≠ row.jobId ∧ JobStep .kept (jobView db stored) (jobView next after))) := by
  have attempts := attemptsOf_append db next _ stored.jobId leased.attempts
  by_cases own : stored.jobId = row.jobId
  · have same : stored = row := job_eq_of_id member leased.member own
    subst same
    refine ⟨leasedRow stored workerId expires current, ?_, rfl, Or.inl ⟨rfl, ?_⟩⟩
    · rw [← Table.mem_rows, leased.jobs]
      exact List.mem_map.mpr ⟨stored, member, if_pos rfl⟩
    · have view : jobView next (leasedRow stored workerId expires current) =
          ⟨leasedRow stored workerId expires current, (jobView db stored).attempts ++
            [openAttempt jobAttemptId stored workerId current]⟩ := by
        simp only [jobView]
        rw [show (leasedRow stored workerId expires current).jobId = stored.jobId from rfl,
          attempts]
        simp [openAttempt]
      rw [view]
      exact JobStep.leased (jobView db stored) jobAttemptId workerId current expires
        leased.eligible.1 leased.eligible.2.2
  · refine ⟨stored, ?_, rfl, Or.inr ⟨own, ?_⟩⟩
    · rw [← Table.mem_rows, leased.jobs]
      exact List.mem_map.mpr ⟨stored, member, if_neg own⟩
    · have view : jobView next stored = jobView db stored := by
        have apart : (openAttempt jobAttemptId row workerId current).jobId ≠ stored.jobId :=
          fun same => own same.symm
        rw [jobView, attempts, if_neg apart]
        rfl
      rw [view]
      exact JobStep.kept _

theorem finishOutcome_settles (row : JobRow) (success : Bool) :
    Settles row (finishOutcome row success).1 (finishOutcome row success).2 := by
  unfold finishOutcome
  split_ifs with succeeded spent
  · exact .succeeded
  · exact .failedExhausted spent
  · exact .failedRetryable (by omega)

/-- A finished call changes the view of its own job only. -/
theorem Finished.step {jobId workerId current : String} {success : Bool}
    {errorClass : Option String} {now : Datetime} {row stored : JobRow} {db next : Db}
    (finished : Finished jobId workerId success errorClass now row current db next)
    (member : stored ∈ db.jobs) :
    ∃ after ∈ next.jobs, after.jobId = stored.jobId ∧
      ((stored = row ∧ JobStep (.settled (finishOutcome row success).2) (jobView db stored)
          (jobView next after)) ∨
        (stored.jobId ≠ row.jobId ∧ JobStep .kept (jobView db stored) (jobView next after))) := by
  have attempts := attemptsOf_map db next _ stored.jobId (closedAttempt_jobId _ _ _ _)
    finished.attempts
  by_cases own : stored.jobId = row.jobId
  · have same : stored = row := job_eq_of_id member finished.member own
    subst same
    refine ⟨stored.settle (finishOutcome stored success).1 errorClass current, ?_, rfl,
      Or.inl ⟨rfl, ?_⟩⟩
    · exact finished.stored
    · have closed : attemptsOf next stored.jobId = (attemptsOf db stored.jobId).map
          (closeCurrent stored (finishOutcome stored success).2 errorClass current) := by
        rw [attempts]
        refine List.map_congr_left fun attempt listed => ?_
        simp [closedAttempt, closeCurrent, (mem_attemptsOf.mp listed).2]
      have view : jobView next (stored.settle (finishOutcome stored success).1 errorClass current)
          = ⟨stored.settle (finishOutcome stored success).1 errorClass current,
              (jobView db stored).attempts.map
                (closeCurrent stored (finishOutcome stored success).2 errorClass current)⟩ := by
        simp only [jobView]
        rw [← closed]
        rfl
      rw [view]
      exact JobStep.settled (jobView db stored) _ _ errorClass current finished.held.1
        (finishOutcome_settles stored success)
  · refine ⟨stored, ?_, rfl, Or.inr ⟨own, ?_⟩⟩
    · rw [← Table.mem_rows, finished.jobs]
      exact List.mem_map.mpr ⟨stored, member, if_neg own⟩
    · have untouched : attemptsOf next stored.jobId = attemptsOf db stored.jobId := by
        rw [attempts]
        refine (List.map_congr_left fun attempt listed => ?_).trans (List.map_id _)
        have apart : attempt.jobId ≠ row.jobId := by
          rw [(mem_attemptsOf.mp listed).2]
          exact own
        simp [closedAttempt, apart]
      have view : jobView next stored = jobView db stored := by
        rw [jobView, untouched]
        rfl
      rw [view]
      exact JobStep.kept _

theorem recoveredState_settles (row : JobRow) : Settles row (recoveredState row) .abandoned := by
  unfold recoveredState
  split_ifs with spent
  · exact .abandonedExhausted spent
  · exact .abandonedRetryable (by omega)

/-- Recovery settles the expired jobs and keeps the others. -/
theorem Recovered.step {now : Datetime} {current : String} {counts : RecoveryCounts}
    {stored : JobRow} {db next : Db} (recovery : Recovered now current counts db next)
    (member : stored ∈ db.jobs) :
    ∃ after ∈ next.jobs, after.jobId = stored.jobId ∧
      ((Expired current stored ∧ JobStep (.settled .abandoned) (jobView db stored)
          (jobView next after)) ∨
        (¬ Expired current stored ∧ JobStep .kept (jobView db stored) (jobView next after))) := by
  have attempts := attemptsOf_map db next _ stored.jobId (abandonedAttempt_jobId _ _)
    recovery.attempts
  have own : ∀ attempt ∈ attemptsOf db stored.jobId,
      (IsCurrentAttempt (expiredRows current db) attempt ↔
        Expired current stored ∧ attempt.attemptNumber = stored.attemptCount) := by
    intro attempt listed
    have sameJob := (mem_attemptsOf.mp listed).2
    constructor
    · rintro ⟨row, selected, sameId, number⟩
      obtain ⟨rowMember, expired⟩ := mem_expiredRows.mp selected
      have same : row = stored := job_eq_of_id rowMember member (sameId.symm.trans sameJob)
      rw [same] at expired number
      exact ⟨expired, number⟩
    · rintro ⟨expired, number⟩
      exact ⟨stored, mem_expiredRows.mpr ⟨member, expired⟩, sameJob, number⟩
  by_cases expired : Expired current stored
  · refine ⟨stored.settle (recoveredState stored) (some "abandoned_lease") current, ?_, rfl,
      Or.inl ⟨expired, ?_⟩⟩
    · rw [← Table.mem_rows, recovery.jobs]
      exact List.mem_map.mpr ⟨stored, member, if_pos expired⟩
    · have closed : attemptsOf next stored.jobId = (attemptsOf db stored.jobId).map
          (closeCurrent stored .abandoned (some "abandoned_lease") current) := by
        rw [attempts]
        refine List.map_congr_left fun attempt listed => ?_
        simp only [abandonedAttempt, closeCurrent, own attempt listed, expired, true_and]
      have view : jobView next
          (stored.settle (recoveredState stored) (some "abandoned_lease") current) =
            ⟨stored.settle (recoveredState stored) (some "abandoned_lease") current,
              (jobView db stored).attempts.map
                (closeCurrent stored .abandoned (some "abandoned_lease") current)⟩ := by
        simp only [jobView]
        rw [← closed]
        rfl
      rw [view]
      exact JobStep.settled (jobView db stored) _ _ _ current expired.1
        (recoveredState_settles stored)
  · refine ⟨stored, ?_, rfl, Or.inr ⟨expired, ?_⟩⟩
    · rw [← Table.mem_rows, recovery.jobs]
      exact List.mem_map.mpr ⟨stored, member, if_neg expired⟩
    · have untouched : attemptsOf next stored.jobId = attemptsOf db stored.jobId := by
        rw [attempts]
        refine (List.map_congr_left fun attempt listed => ?_).trans (List.map_id _)
        simp [abandonedAttempt, own attempt listed, expired]
      have view : jobView next stored = jobView db stored := by
        rw [jobView, untouched]
        rfl
      rw [view]
      exact JobStep.kept _

/-! ## The effect of a call -/

/-- Every way in which a call can return or raise. -/
inductive QueueEffect (db : Db) : QueueCall → Except PyError QueueReply → Db → Prop where
  | raised (call : QueueCall) (raised : PyError) : QueueEffect db call (.error raised) db
  | found {job : DetailFetchJob} {createdAt updatedAt : Instant} {row : JobRow} {next : Db}
      (member : row ∈ db.jobs) (key : HasKey row job)
      (frame : next = { db with identities := next.identities }) :
      QueueEffect db (.createIdempotent job createdAt updatedAt) (.ok (.jobId row.jobId)) next
  | created {job : DetailFetchJob} {createdAt updatedAt : Instant} {row : JobRow} {next : Db}
      (created : Created job row db next) :
      QueueEffect db (.createIdempotent job createdAt updatedAt) (.ok (.jobId job.jobId)) next
  | idle {workerId jobAttemptId : String} {leaseSeconds : Int} {now : Datetime}
      {current : String} (clock : timestamp now = .ok current)
      (absent : ∀ row ∈ db.jobs, ¬ Eligible current row) :
      QueueEffect db (.leaseNext workerId leaseSeconds now jobAttemptId) (.ok (.lease none)) db
  | leased {workerId jobAttemptId current expires : String} {leaseSeconds : Int}
      {now : Datetime} {row : JobRow} {next : Db}
      (leased : Leased workerId leaseSeconds now jobAttemptId row current expires db next) :
      QueueEffect db (.leaseNext workerId leaseSeconds now jobAttemptId)
        (.ok (.lease (some (leaseOf row workerId expires)))) next
  | succeeded {jobId workerId current : String} {now : Datetime} {row : JobRow} {next : Db}
      (finished : Finished jobId workerId true none now row current db next) :
      QueueEffect db (.succeed jobId workerId now) (.ok .done) next
  | failed {jobId workerId errorClass current : String} {now : Datetime} {row : JobRow}
      {next : Db}
      (finished : Finished jobId workerId false (some errorClass) now row current db next) :
      QueueEffect db (.fail jobId workerId errorClass now)
        (.ok (.state (finishOutcome row false).1.value)) next
  | recovered {now : Datetime} {current : String} {counts : RecoveryCounts} {next : Db}
      (recovery : Recovered now current counts db next) :
      QueueEffect db (.recoverAbandoned now) (.ok (.counts counts)) next

theorem perform_effect (call : QueueCall) (db : Db) :
    QueueEffect db call (perform call db).1 (perform call db).2 := by
  cases call with
  | createIdempotent job createdAt updatedAt =>
      simp only [perform]
      obtain ⟨raised, result, same⟩ | ⟨row, member, key, result, frame⟩ | ⟨row, made, result⟩ :=
        createIdempotent_cases (Prod.mk.eta (p := createIdempotent job createdAt updatedAt db)).symm
      · rw [result, same]
        exact .raised _ raised
      · rw [result]
        exact .found member key frame
      · rw [result]
        exact .created made
  | leaseNext workerId leaseSeconds now jobAttemptId =>
      simp only [perform]
      obtain ⟨raised, result, same⟩ | ⟨result, same, current, clock, absent⟩ |
        ⟨row, current, expires, leased, result⟩ :=
        leaseNext_cases (Prod.mk.eta (p := leaseNext workerId leaseSeconds now jobAttemptId db)).symm
      · rw [result, same]
        exact .raised _ raised
      · rw [result, same]
        exact .idle clock absent
      · rw [result]
        exact .leased leased
  | succeed jobId workerId now =>
      simp only [perform, succeed]
      obtain ⟨same, ⟨result, _⟩ | ⟨result, _⟩⟩ | ⟨row, current, finished, result⟩ :=
        finish_cases (Prod.mk.eta (p := finish jobId workerId true none now db)).symm
      · rw [result, same]
        exact .raised _ _
      · rw [result, same]
        exact .raised _ _
      · rw [result]
        exact .succeeded finished
  | fail jobId workerId errorClass now =>
      simp only [perform, fail]
      obtain ⟨same, ⟨result, _⟩ | ⟨result, _⟩⟩ | ⟨row, current, finished, result⟩ :=
        finish_cases (Prod.mk.eta (p := finish jobId workerId false (some errorClass) now db)).symm
      · rw [result, same]
        exact .raised _ _
      · rw [result, same]
        exact .raised _ _
      · rw [result]
        exact .failed finished
  | recoverAbandoned now =>
      simp only [perform]
      obtain ⟨result, _, same⟩ | ⟨current, counts, recovery, result⟩ :=
        recoverAbandoned_cases (Prod.mk.eta (p := recoverAbandoned now db)).symm
      · rw [result, same]
        exact .raised _ _
      · rw [result]
        exact .recovered recovery

/-- Every call changes every job in one of the three ways, and it is a lease
exactly when the reply hands out that job. -/
theorem QueueEffect.step {db next : Db} {call : QueueCall} {result : Except PyError QueueReply}
    (effect : QueueEffect db call result next) {row : JobRow} (member : row ∈ db.jobs) :
    ∃ after ∈ next.jobs, after.jobId = row.jobId ∧
      ∃ event, JobStep event (jobView db row) (jobView next after) ∧
        ∀ lease, event = .leased lease ↔
          result = .ok (.lease (some lease)) ∧ lease.jobId = row.jobId := by
  cases effect with
  | raised call raised =>
      exact ⟨row, member, rfl, .kept, .kept _, by simp⟩
  | found _ _ frame =>
      rw [frame]
      exact ⟨row, member, rfl, .kept, .kept _, by simp⟩
  | created made =>
      rw [made.frame]
      refine ⟨row, ?_, rfl, .kept, .kept _, by simp⟩
      rw [← Table.mem_rows, made.jobs]
      exact List.mem_append_left _ member
  | idle clock absent =>
      exact ⟨row, member, rfl, .kept, .kept _, by simp⟩
  | leased leased =>
      obtain ⟨after, afterMember, sameId, ⟨own, step⟩ | ⟨other, step⟩⟩ := leased.step member
      · subst own
        refine ⟨after, afterMember, sameId, _, step, fun lease => ?_⟩
        constructor
        · intro same
          cases same
          exact ⟨rfl, rfl⟩
        · rintro ⟨same, _⟩
          cases same
          rfl
      · refine ⟨after, afterMember, sameId, _, step, fun lease => ?_⟩
        simp only [reduceCtorEq, false_iff, not_and]
        intro same
        cases same
        exact fun own => other own.symm
  | succeeded finished =>
      obtain ⟨after, afterMember, sameId, ⟨_, step⟩ | ⟨_, step⟩⟩ := finished.step member
      · exact ⟨after, afterMember, sameId, _, step, by simp⟩
      · exact ⟨after, afterMember, sameId, _, step, by simp⟩
  | failed finished =>
      obtain ⟨after, afterMember, sameId, ⟨_, step⟩ | ⟨_, step⟩⟩ := finished.step member
      · exact ⟨after, afterMember, sameId, _, step, by simp⟩
      · exact ⟨after, afterMember, sameId, _, step, by simp⟩
  | recovered recovery =>
      obtain ⟨after, afterMember, sameId, ⟨_, step⟩ | ⟨_, step⟩⟩ := recovery.step member
      · exact ⟨after, afterMember, sameId, _, step, by simp⟩
      · exact ⟨after, afterMember, sameId, _, step, by simp⟩

/-- A job after a call was there before, or the call created it. -/
theorem QueueEffect.origin {db next : Db} {call : QueueCall}
    {result : Except PyError QueueReply} (effect : QueueEffect db call result next)
    {after : JobRow} (member : after ∈ next.jobs) :
    (∃ row ∈ db.jobs, row.jobId = after.jobId) ∨ ∃ job createdAt updatedAt,
      call = .createIdempotent job createdAt updatedAt ∧ Created job after db next := by
  cases effect with
  | raised call raised => exact Or.inl ⟨after, member, rfl⟩
  | found _ _ frame =>
      rw [frame] at member
      exact Or.inl ⟨after, member, rfl⟩
  | created made =>
      rw [← Table.mem_rows, made.jobs, List.mem_append, List.mem_singleton] at member
      rcases member with old | rfl
      · exact Or.inl ⟨after, old, rfl⟩
      · exact Or.inr ⟨_, _, _, rfl, made⟩
  | idle clock absent => exact Or.inl ⟨after, member, rfl⟩
  | leased leased =>
      rw [← Table.mem_rows, leased.jobs] at member
      obtain ⟨row, rowMember, rfl⟩ := List.mem_map.mp member
      refine Or.inl ⟨row, rowMember, ?_⟩
      split
      · next own => exact own
      · rfl
  | succeeded finished =>
      rw [← Table.mem_rows, finished.jobs] at member
      obtain ⟨row, rowMember, rfl⟩ := List.mem_map.mp member
      refine Or.inl ⟨row, rowMember, ?_⟩
      unfold settledRow
      split <;> rfl
  | failed finished =>
      rw [← Table.mem_rows, finished.jobs] at member
      obtain ⟨row, rowMember, rfl⟩ := List.mem_map.mp member
      refine Or.inl ⟨row, rowMember, ?_⟩
      unfold settledRow
      split <;> rfl
  | recovered recovery =>
      rw [← Table.mem_rows, recovery.jobs] at member
      obtain ⟨row, rowMember, rfl⟩ := List.mem_map.mp member
      refine Or.inl ⟨row, rowMember, ?_⟩
      unfold recoveredRow
      split <;> rfl

/-- A row after a call comes from a row before it in one step, or is new. -/
theorem QueueEffect.origin_step {db next : Db} {call : QueueCall}
    {result : Except PyError QueueReply} (effect : QueueEffect db call result next)
    {after : JobRow} (member : after ∈ next.jobs) :
    (∃ row ∈ db.jobs, row.jobId = after.jobId ∧
      ∃ event, JobStep event (jobView db row) (jobView next after) ∧
        ∀ lease, event = .leased lease ↔
          result = .ok (.lease (some lease)) ∧ lease.jobId = row.jobId) ∨
    ∃ job createdAt updatedAt,
      call = .createIdempotent job createdAt updatedAt ∧ Created job after db next := by
  rcases effect.origin member with ⟨row, rowMember, sameId⟩ | created
  · obtain ⟨stored, storedMember, storedId, event, step, handed⟩ := effect.step rowMember
    obtain rfl := job_eq_of_id storedMember member (storedId.trans sameId)
    exact Or.inl ⟨row, rowMember, sameId, event, step, handed⟩
  · exact Or.inr created

/-- No call adds an attempt to a job that is not in the table. -/
theorem QueueEffect.attempt_origin {db next : Db} {call : QueueCall}
    {result : Except PyError QueueReply} (effect : QueueEffect db call result next)
    {after : AttemptRow} (member : after ∈ next.attempts) :
    (∃ attempt ∈ db.attempts, attempt.jobId = after.jobId) ∨
      ∃ row ∈ db.jobs, row.jobId = after.jobId := by
  cases effect with
  | raised call raised => exact Or.inl ⟨after, member, rfl⟩
  | found _ _ frame =>
      rw [frame] at member
      exact Or.inl ⟨after, member, rfl⟩
  | created made =>
      rw [made.frame] at member
      exact Or.inl ⟨after, member, rfl⟩
  | idle clock absent => exact Or.inl ⟨after, member, rfl⟩
  | leased leased =>
      rw [← Table.mem_rows, leased.attempts, List.mem_append, List.mem_singleton] at member
      rcases member with old | rfl
      · exact Or.inl ⟨after, old, rfl⟩
      · exact Or.inr ⟨_, leased.member, rfl⟩
  | succeeded finished =>
      rw [← Table.mem_rows, finished.attempts] at member
      obtain ⟨attempt, listed, rfl⟩ := List.mem_map.mp member
      exact Or.inl ⟨attempt, listed, (closedAttempt_jobId _ _ _ _ attempt).symm⟩
  | failed finished =>
      rw [← Table.mem_rows, finished.attempts] at member
      obtain ⟨attempt, listed, rfl⟩ := List.mem_map.mp member
      exact Or.inl ⟨attempt, listed, (closedAttempt_jobId _ _ _ _ attempt).symm⟩
  | recovered recovery =>
      rw [← Table.mem_rows, recovery.attempts] at member
      obtain ⟨attempt, listed, rfl⟩ := List.mem_map.mp member
      exact Or.inl ⟨attempt, listed, (abandonedAttempt_jobId _ _ attempt).symm⟩

/-! ## Sample inputs -/

/-- 2026-08-08T10:00:00Z. -/
def sampleMorning : Instant := ⟨63921780000000000, by decide⟩

/-- Microseconds after the morning. -/
def sampleLater (micros : Nat) : Datetime :=
  .ofInstant
    { micros := 63921780000000000 + micros % 1000000000000
      inRange := by
        have numeric : IsoText.maxMicros = 315537897600000000 := by decide
        omega }

def sampleRun : RunRow :=
  { crawlRunId := "run-1"
    sourceName := "synthetic_fixture"
    runKind := "fixture"
    state := .running
    startedAt := some sampleMorning.text
    finishedAt := none
    createdAt := sampleMorning.text }

def sampleJob (jobId key : String) : DetailFetchJob :=
  { contractVersion := "0.1"
    jobId := jobId
    crawlRunId := "run-1"
    sourceName := "synthetic_fixture"
    sourceListingKey := key
    listingUrl := "https://fixture.invalid/listing"
    reasonCode := .newListing
    priority := 0
    attemptNumber := 1
    maxAttempts := 2
    scheduledAt := .ofInstant sampleMorning
    metadata := [] }

/-- A database with one run and an empty queue. -/
def sampleStart : Db :=
  { Db.empty with runs := { rows := [sampleRun], distinct := List.pairwise_singleton _ _ } }

end ScraperProject.Orchestration
