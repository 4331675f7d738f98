import ScraperProject.Orchestration.QueueRuns

/-!
Contract: the representation invariant of the job queue.

Owns the facts that tie the counter, the lease columns and the state of a job
to its attempts, the proof that every call keeps them, and their consequences
for every state that a run from an empty queue reaches.

Does not own relations between two states of a run.
-/

namespace ScraperProject.Orchestration

open Foundation
open Database
open Contracts

/-! ## The invariant of one job -/

/-- `finished_at` and `outcome` are null. -/
def IsOpen (attempt : AttemptRow) : Prop := attempt.finishedAt = none ∧ attempt.outcome = none

/-- `finished_at` and `outcome` are set. -/
def IsClosed (attempt : AttemptRow) : Prop :=
  attempt.finishedAt.isSome ∧ attempt.outcome.isSome

theorem IsClosed.not_open {attempt : AttemptRow} (closed : IsClosed attempt) :
    ¬ IsOpen attempt := by
  intro opened
  rw [IsClosed, opened.1] at closed
  exact absurd closed.1 (by simp)

/-- The numbers `1..count`. -/
def attemptNumbers (count : Int) : List Int :=
  (List.range count.toNat).map fun index : Nat => (index : Int) + 1

theorem mem_attemptNumbers {count number : Int} :
    number ∈ attemptNumbers count ↔ 1 ≤ number ∧ number ≤ count := by
  simp only [attemptNumbers, List.mem_map, List.mem_range]
  constructor
  · rintro ⟨index, bounded, rfl⟩
    omega
  · rintro ⟨positive, bounded⟩
    exact ⟨(number - 1).toNat, by omega, by omega⟩

theorem attemptNumbers_succ {count : Int} (nonneg : 0 ≤ count) :
    attemptNumbers (count + 1) = attemptNumbers count ++ [count + 1] := by
  have next : (count + 1).toNat = count.toNat + 1 := by omega
  have cast : ((count.toNat : Nat) : Int) = count := by omega
  simp [attemptNumbers, next, List.range_succ, cast]

/-- The invariant of one job and its attempts. -/
structure JobView.Sound (view : JobView) : Prop where
  bounded : view.row.attemptCount ≤ view.row.maxAttempts
  numbered : view.attempts.map AttemptRow.attemptNumber = attemptNumbers view.row.attemptCount
  leased : view.row.state = .processing ↔
    view.row.leaseOwner.isSome ∧ view.row.leaseExpiresAt.isSome
  started : view.row.state ≠ .pending → 1 ≤ view.row.attemptCount
  current : ∀ attempt ∈ view.attempts, view.row.state = .processing →
    attempt.attemptNumber = view.row.attemptCount →
      IsOpen attempt ∧ view.row.leaseOwner = some attempt.workerId
  closed : ∀ attempt ∈ view.attempts,
    ¬ (view.row.state = .processing ∧ attempt.attemptNumber = view.row.attemptCount) →
      IsClosed attempt
  pending : view.row.state = .pending → view.row.attemptCount < view.row.maxAttempts
  succeeded : view.row.state = .succeeded → ∀ attempt ∈ view.attempts,
    attempt.attemptNumber = view.row.attemptCount → attempt.outcome = some .succeeded
  single : ∀ attempt ∈ view.attempts, attempt.outcome = some .succeeded →
    view.row.state = .succeeded ∧ attempt.attemptNumber = view.row.attemptCount
  exhausted : view.row.state = .failedExhausted → view.row.attemptCount = view.row.maxAttempts
  spent : view.row.state = .failedExhausted → ∀ attempt ∈ view.attempts,
    attempt.attemptNumber = view.row.attemptCount →
      attempt.outcome = some .failedExhausted ∨ attempt.outcome = some .abandoned

theorem JobView.Sound.number_bounds {view : JobView} (sound : view.Sound)
    {attempt : AttemptRow} (member : attempt ∈ view.attempts) :
    1 ≤ attempt.attemptNumber ∧ attempt.attemptNumber ≤ view.row.attemptCount := by
  rw [← mem_attemptNumbers, ← sound.numbered]
  exact List.mem_map_of_mem member

@[simp] theorem closeCurrent_attemptNumber (row : JobRow) (outcome : AttemptOutcome)
    (errorClass : Option String) (current : String) (attempt : AttemptRow) :
    (closeCurrent row outcome errorClass current attempt).attemptNumber =
      attempt.attemptNumber := by
  unfold closeCurrent
  split <;> rfl

/-- A new job without attempts. -/
theorem sound_of_created {job : DetailFetchJob} {row : JobRow} {db next : Db}
    (created : Created job row db next) : JobView.Sound ⟨row, []⟩ := by
  obtain ⟨pending, zero, noOwner, noExpiry⟩ := created.fresh
  have positive := row.maxAttemptsCheck
  exact
    { bounded := by dsimp only; omega
      numbered := by simp [attemptNumbers, zero]
      leased := by simp [pending, noOwner]
      started := by simp [pending]
      current := by simp
      closed := by simp
      pending := fun _ => by dsimp only; omega
      succeeded := by simp
      single := by simp
      exhausted := by simp [pending]
      spent := by simp }

/-- A lease keeps the invariant: the new attempt is the only open one. -/
theorem JobView.Sound.lease {view : JobView} (sound : view.Sound)
    (jobAttemptId workerId current expires : String) (pending : view.row.state = .pending)
    (left : view.row.attemptCount < view.row.maxAttempts) :
    JobView.Sound ⟨leasedRow view.row workerId expires current,
      view.attempts ++ [openAttempt jobAttemptId view.row workerId current]⟩ := by
  have nonneg := view.row.attemptCountCheck
  have notProcessing : view.row.state ≠ .processing := by simp [pending]
  have old : ∀ attempt ∈ view.attempts, IsClosed attempt ∧
      attempt.attemptNumber ≠ view.row.attemptCount + 1 := by
    intro attempt member
    have upper := (sound.number_bounds member).2
    exact ⟨sound.closed attempt member fun both => notProcessing both.1, by omega⟩
  exact
    { bounded := by
        simp only [leasedRow, JobRow.lease]
        omega
      numbered := by
        simp only [leasedRow, JobRow.lease, List.map_append, List.map_cons, List.map_nil,
          sound.numbered, openAttempt, attemptNumbers_succ nonneg]
      leased := by simp [leasedRow, JobRow.lease]
      started := by
        simp only [leasedRow, JobRow.lease]
        omega
      current := by
        intro attempt member _ number
        rcases List.mem_append.mp member with listed | new
        · exact absurd number (old attempt listed).2
        · rw [List.mem_singleton.mp new]
          exact ⟨⟨rfl, rfl⟩, rfl⟩
      closed := by
        intro attempt member other
        rcases List.mem_append.mp member with listed | new
        · exact (old attempt listed).1
        · rw [List.mem_singleton.mp new] at other
          exact absurd ⟨rfl, rfl⟩ other
      pending := by simp [leasedRow, JobRow.lease]
      succeeded := by simp [leasedRow, JobRow.lease]
      single := by
        intro attempt member outcome
        rcases List.mem_append.mp member with listed | new
        · have state := (sound.single attempt listed outcome).1
          rw [pending] at state
          cases state
        · rw [List.mem_singleton.mp new] at outcome
          cases outcome
      exhausted := by simp [leasedRow, JobRow.lease]
      spent := by simp [leasedRow, JobRow.lease] }

/-- The end of an attempt keeps the invariant: no attempt stays open. -/
theorem JobView.Sound.settle {view : JobView} (sound : view.Sound) {state : JobState}
    {outcome : AttemptOutcome} (errorClass : Option String) (current : String)
    (processing : view.row.state = .processing) (settles : Settles view.row state outcome) :
    JobView.Sound ⟨view.row.settle state errorClass current,
      view.attempts.map (closeCurrent view.row outcome errorClass current)⟩ := by
  have started := sound.started (by simp [processing])
  have bounded := sound.bounded
  have notProcessing := settles.released
  have outcomeOf : ∀ attempt ∈ view.attempts,
      (closeCurrent view.row outcome errorClass current attempt).outcome = some .succeeded →
        attempt.attemptNumber = view.row.attemptCount ∧ outcome = .succeeded := by
    intro attempt member succeeded
    unfold closeCurrent at succeeded
    split at succeeded
    · next own => exact ⟨own, by simpa [AttemptRow.close] using succeeded⟩
    · next other => exact absurd (sound.single attempt member succeeded).2 other
  exact
    { bounded := bounded
      numbered := by
        rw [List.map_map, show AttemptRow.attemptNumber ∘
          closeCurrent view.row outcome errorClass current = AttemptRow.attemptNumber from
            funext fun attempt => closeCurrent_attemptNumber _ _ _ _ attempt]
        exact sound.numbered
      leased := by simp [JobRow.settle, notProcessing]
      started := fun _ => started
      current := fun _ _ same => absurd same notProcessing
      closed := by
        intro attempt member _
        obtain ⟨before, listed, rfl⟩ := List.mem_map.mp member
        unfold closeCurrent
        split
        · exact ⟨rfl, rfl⟩
        · next other => exact sound.closed before listed fun both => other both.2
      pending := by
        intro same
        cases settles with
        | failedRetryable left => exact left
        | abandonedRetryable left => exact left
        | succeeded => cases same
        | failedExhausted => cases same
        | abandonedExhausted => cases same
      succeeded := by
        intro same attempt member number
        obtain ⟨before, listed, rfl⟩ := List.mem_map.mp member
        have own : before.attemptNumber = view.row.attemptCount :=
          (closeCurrent_attemptNumber _ _ _ _ before).symm.trans number
        have isSuccess : outcome = .succeeded := by
          cases settles with
          | succeeded => rfl
          | failedExhausted => cases same
          | failedRetryable => cases same
          | abandonedExhausted => cases same
          | abandonedRetryable => cases same
        rw [closeCurrent, if_pos own, isSuccess]
        rfl
      single := by
        intro attempt member succeeded
        obtain ⟨before, listed, rfl⟩ := List.mem_map.mp member
        obtain ⟨number, isSuccess⟩ := outcomeOf before listed succeeded
        refine ⟨?_, by rwa [closeCurrent_attemptNumber]⟩
        subst isSuccess
        cases settles
        rfl
      exhausted := by
        intro same
        cases settles with
        | failedExhausted spent => exact Int.le_antisymm bounded spent
        | abandonedExhausted spent => exact Int.le_antisymm bounded spent
        | succeeded => cases same
        | failedRetryable => cases same
        | abandonedRetryable => cases same
      spent := by
        intro same attempt member number
        obtain ⟨before, listed, rfl⟩ := List.mem_map.mp member
        have own : before.attemptNumber = view.row.attemptCount :=
          (closeCurrent_attemptNumber _ _ _ _ before).symm.trans number
        rw [closeCurrent, if_pos own]
        cases settles with
        | failedExhausted => exact Or.inl rfl
        | abandonedExhausted => exact Or.inr rfl
        | succeeded => cases same
        | failedRetryable => cases same
        | abandonedRetryable => cases same }

theorem JobStep.sound {event : JobEvent} {view after : JobView} (step : JobStep event view after)
    (sound : view.Sound) : after.Sound := by
  cases step with
  | kept => exact sound
  | leased _ jobAttemptId workerId current expires pending left =>
      exact sound.lease jobAttemptId workerId current expires pending left
  | settled _ state outcome errorClass current processing settles =>
      exact sound.settle errorClass current processing settles

/-! ## The invariant of the queue -/

structure QueueInvariant (db : Db) : Prop where
  sound : ∀ row ∈ db.jobs, (jobView db row).Sound
  owned : ∀ attempt ∈ db.attempts, ∃ row ∈ db.jobs, row.jobId = attempt.jobId

/-- No jobs and no attempts. -/
def EmptyQueue (db : Db) : Prop := db.jobs.rows = [] ∧ db.attempts.rows = []

theorem EmptyQueue.invariant {db : Db} (empty : EmptyQueue db) : QueueInvariant db where
  sound row member := by
    rw [← Table.mem_rows, empty.1] at member
    cases member
  owned attempt member := by
    rw [← Table.mem_rows, empty.2] at member
    cases member

theorem QueueEffect.invariant {db next : Db} {call : QueueCall}
    {result : Except PyError QueueReply} (effect : QueueEffect db call result next)
    (invariant : QueueInvariant db) : QueueInvariant next where
  sound after member := by
    rcases effect.origin member with
      ⟨row, rowMember, sameId⟩ | ⟨job, _, _, _, created⟩
    · obtain ⟨stored, storedMember, storedId, event, step, _⟩ := effect.step rowMember
      have same : after = stored := job_eq_of_id member storedMember (sameId.symm.trans
        storedId.symm)
      rw [same]
      exact step.sound (invariant.sound row rowMember)
    · have noAttempts : attemptsOf next after.jobId = [] := by
        rw [created.frame]
        refine List.filter_eq_nil_iff.mpr fun attempt listed => ?_
        obtain ⟨row, rowMember, sameId⟩ := invariant.owned attempt listed
        have apart : row.jobId ≠ after.jobId := fun same =>
          created.fits row rowMember (Or.inl same)
        rw [sameId] at apart
        simpa using apart
      rw [jobView, noAttempts]
      exact sound_of_created created
  owned after member := by
    have survives : ∀ row ∈ db.jobs, row.jobId = after.jobId →
        ∃ stored ∈ next.jobs, stored.jobId = after.jobId := by
      intro row rowMember sameId
      obtain ⟨stored, storedMember, storedId, _⟩ := effect.step rowMember
      exact ⟨stored, storedMember, storedId.trans sameId⟩
    rcases effect.attempt_origin member with ⟨attempt, listed, sameJob⟩ | ⟨row, rowMember, sameId⟩
    · obtain ⟨row, rowMember, sameId⟩ := invariant.owned attempt listed
      exact survives row rowMember (sameId.trans sameJob)
    · exact survives row rowMember sameId

/-- The invariant holds after every run from an empty queue. -/
theorem queueInvariant_after {start : Db} (empty : EmptyQueue start) (calls : List QueueCall) :
    QueueInvariant (History.after perform start calls) :=
  History.after_invariant perform
    (fun call db invariant => (perform_effect call db).invariant invariant)
    empty.invariant calls

/-- The next attempt of a job has a number that no earlier attempt has. -/
theorem openAttempt_fits {db : Db} {jobAttemptId workerId current : String} {row : JobRow}
    (invariant : QueueInvariant db) (fresh : ∀ attempt ∈ db.attempts,
      attempt.jobAttemptId ≠ jobAttemptId) (member : row ∈ db.jobs) :
    ∀ attempt ∈ db.attempts,
      ¬ Constrained.Clash attempt (openAttempt jobAttemptId row workerId current) := by
  rintro attempt listed (sameId | ⟨sameJob, number⟩)
  · exact fresh attempt listed sameId
  · have own : attempt ∈ attemptsOf db row.jobId := mem_attemptsOf.mpr ⟨listed, sameJob⟩
    have upper := ((invariant.sound row member).number_bounds own).2
    simp only [jobView, openAttempt] at upper number
    omega

/-! ## The representation of every job in every reachable state -/

/-- How the row of a job and its attempts represent the job. -/
structure Representation (db : Db) (row : JobRow) : Prop where
  counted : 0 ≤ row.attemptCount ∧ row.attemptCount ≤ row.maxAttempts
  numbered : (attemptsOf db row.jobId).map AttemptRow.attemptNumber =
    attemptNumbers row.attemptCount
  leased : row.state = .processing ↔ row.leaseOwner.isSome ∧ row.leaseExpiresAt.isSome
  oneOpen : row.state = .processing → ∃ attempt ∈ attemptsOf db row.jobId,
    IsOpen attempt ∧ attempt.attemptNumber = row.attemptCount ∧
      row.leaseOwner = some attempt.workerId ∧
        ∀ other ∈ attemptsOf db row.jobId, IsOpen other → other = attempt
  noneOpen : row.state ≠ .processing → ∀ attempt ∈ attemptsOf db row.jobId, ¬ IsOpen attempt
  pending : row.state = .pending → row.attemptCount < row.maxAttempts
  succeeded : row.state = .succeeded → ∃ attempt ∈ attemptsOf db row.jobId,
    attempt.attemptNumber = row.attemptCount ∧ attempt.outcome = some .succeeded ∧
      ∀ other ∈ attemptsOf db row.jobId, other.outcome = some .succeeded → other = attempt
  exhausted : row.state = .failedExhausted → row.attemptCount = row.maxAttempts

/-- Two attempts of one job with one number are one row. -/
theorem attempt_eq_of_number {db : Db} {jobId : String} {attempt other : AttemptRow}
    (member : attempt ∈ attemptsOf db jobId) (otherMember : other ∈ attemptsOf db jobId)
    (sameNumber : attempt.attemptNumber = other.attemptNumber) : attempt = other := by
  obtain ⟨listed, sameJob⟩ := mem_attemptsOf.mp member
  obtain ⟨otherListed, otherJob⟩ := mem_attemptsOf.mp otherMember
  exact Table.eq_of_clash listed otherListed
    (Or.inr ⟨sameJob.trans otherJob.symm, sameNumber⟩)

/-- A started job has an attempt with the number of its counter. -/
theorem JobView.Sound.last_attempt {view : JobView} (sound : view.Sound)
    (started : 1 ≤ view.row.attemptCount) :
    ∃ attempt ∈ view.attempts, attempt.attemptNumber = view.row.attemptCount := by
  have listed : view.row.attemptCount ∈ view.attempts.map AttemptRow.attemptNumber := by
    rw [sound.numbered, mem_attemptNumbers]
    exact ⟨started, Int.le_refl _⟩
  exact List.mem_map.mp listed

theorem representation_of_sound {db : Db} {row : JobRow} (sound : (jobView db row).Sound) :
    Representation db row where
  counted := ⟨row.attemptCountCheck, sound.bounded⟩
  numbered := sound.numbered
  leased := sound.leased
  oneOpen processing := by
    have notPending : row.state ≠ .pending := by simp [processing]
    obtain ⟨attempt, member, number⟩ := sound.last_attempt (sound.started notPending)
    obtain ⟨opened, owner⟩ := sound.current attempt member processing number
    refine ⟨attempt, member, opened, number, owner, fun other otherMember otherOpen => ?_⟩
    by_contra different
    have otherNumber : ¬ (row.state = .processing ∧ other.attemptNumber = row.attemptCount) :=
      fun both => different (attempt_eq_of_number otherMember member (both.2.trans number.symm))
    exact (sound.closed other otherMember otherNumber).not_open otherOpen
  noneOpen other attempt member :=
    (sound.closed attempt member fun both => other both.1).not_open
  pending := sound.pending
  succeeded succeeded := by
    have notPending : row.state ≠ .pending := by simp [succeeded]
    obtain ⟨attempt, member, number⟩ := sound.last_attempt (sound.started notPending)
    refine ⟨attempt, member, number, sound.succeeded succeeded attempt member number,
      fun other otherMember outcome => ?_⟩
    have otherNumber := (sound.single other otherMember outcome).2
    exact attempt_eq_of_number otherMember member (otherNumber.trans number.symm)
  exhausted := sound.exhausted

/-- An integrity error of `lease_next` is a clash of the new attempt with a
stored one. -/
theorem leaseNext_integrity {workerId jobAttemptId : String} {leaseSeconds : Int}
    {now : Datetime} {db next : Db} {kind : ConstraintKind}
    (call : leaseNext workerId leaseSeconds now jobAttemptId db =
      (.error (.integrityError kind), next)) :
    ∃ row ∈ db.jobs, ∃ current, ∃ attempt ∈ db.attempts,
      Constrained.Clash attempt (openAttempt jobAttemptId row workerId current) := by
  have stamp : ∀ value, timestamp value ≠ .error (.integrityError kind) := by
    intro value
    unfold timestamp Datetime.astimezoneUtc
    split <;> simp [bind, Except.bind, pure, Except.pure]
  unfold leaseNext at call
  split at call
  · cases (Prod.mk.inj call).1
  split at call
  · next raised added =>
    obtain ⟨same, _⟩ := Prod.mk.inj call
    cases same
    unfold Datetime.addSeconds at added
    split at added <;> cases added
  next later added =>
  have body := (writeTransaction_error.mp call).1
  cases clock : timestamp now with
  | error raised =>
      simp only [clock, bind, Except.bind] at body
      cases body
      exact absurd clock (stamp now)
  | ok current =>
      simp only [clock, bind, Except.bind] at body
      split at body
      · cases body
      · next row best =>
        cases expiry : timestamp later with
        | error raised =>
            simp only [expiry] at body
            cases body
            exact absurd expiry (stamp later)
        | ok expires =>
            simp only [expiry] at body
            have member := (List.mem_filter.mp (firstRow_mem best)).1
            refine ⟨row, member, current, ?_⟩
            by_contra noClash
            have fits : ∀ attempt ∈ db.attempts, ¬ Constrained.Clash attempt
                (openAttempt jobAttemptId row workerId current) :=
              fun attempt listed clash => noClash ⟨attempt, listed, clash⟩
            obtain ⟨attempts, inserted⟩ := Table.insert?_isSome fits
            have done : insertRow db.attempts (openAttempt jobAttemptId row workerId current) =
                .ok attempts := insertRow_ok.mpr inserted
            simp only [openAttempt] at done
            simp only [done] at body
            cases body

/-- Every job of every reachable state is represented as stated, and the
attempt that `lease_next` inserts can clash only by its fresh identifier. -/
theorem representation_after_run (start : Db) (empty : EmptyQueue start)
    (calls : List QueueCall) :
    (∀ row ∈ (History.after perform start calls).jobs,
        Representation (History.after perform start calls) row) ∧
      ∀ workerId leaseSeconds now jobAttemptId kind,
        (perform (.leaseNext workerId leaseSeconds now jobAttemptId)
          (History.after perform start calls)).1 = .error (.integrityError kind) →
            ∃ attempt ∈ (History.after perform start calls).attempts,
              attempt.jobAttemptId = jobAttemptId := by
  have invariant := queueInvariant_after empty calls
  generalize History.after perform start calls = db at invariant
  refine ⟨fun row member => representation_of_sound (invariant.sound row member), ?_⟩
  intro workerId leaseSeconds now jobAttemptId kind refused
  have raised : (leaseNext workerId leaseSeconds now jobAttemptId db).1 =
      .error (.integrityError kind) := by
    simp only [perform] at refused
    cases result : (leaseNext workerId leaseSeconds now jobAttemptId db).1 with
    | error other =>
        rw [result] at refused
        simpa [Except.map] using refused
    | ok lease =>
        rw [result] at refused
        cases refused
  obtain ⟨row, member, current, attempt, listed, clash⟩ :=
    leaseNext_integrity (Prod.ext raised rfl)
  refine ⟨attempt, listed, clash.resolve_right fun taken => ?_⟩
  have own : attempt ∈ attemptsOf db row.jobId := mem_attemptsOf.mpr ⟨listed, taken.1⟩
  have upper := ((invariant.sound row member).number_bounds own).2
  have number : attempt.attemptNumber = row.attemptCount + 1 := taken.2
  simp only [jobView] at upper
  omega

/-- One job is leased, fails and is leased again. -/
def sampleCalls : List QueueCall :=
  [ .createIdempotent (sampleJob "job-1" "listing-1") sampleMorning sampleMorning,
    .leaseNext "worker" 30 (sampleLater 0) "attempt-1",
    .fail "job-1" "worker" "graceful_shutdown" (sampleLater 1000000),
    .leaseNext "worker" 30 (sampleLater 2000000) "attempt-2" ]

theorem representation_after_sample_run :
    (∃ row ∈ (History.after perform sampleStart sampleCalls).jobs,
        row.state = .processing ∧ row.attemptCount = 2) ∧
      ∀ row ∈ (History.after perform sampleStart sampleCalls).jobs,
        Representation (History.after perform sampleStart sampleCalls) row :=
  ⟨by
    have leased : (History.after perform sampleStart sampleCalls).jobs.rows.any
        (fun row => row.state = .processing ∧ row.attemptCount = 2) := by decide +kernel
    obtain ⟨row, member, selected⟩ := List.any_eq_true.mp leased
    exact ⟨row, member, by simpa using selected⟩,
    (representation_after_run sampleStart ⟨rfl, rfl⟩ sampleCalls).1⟩

end ScraperProject.Orchestration
