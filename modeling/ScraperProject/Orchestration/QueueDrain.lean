import ScraperProject.Foundation.Tally
import ScraperProject.Orchestration.LeaseOrder
import ScraperProject.Orchestration.LeaseRecovery

/-!
Contract: workers that keep leasing empty the queue.

Owns the rounds of workers (recover once, then lease and finish one attempt after
another), the budget of attempts that bounds their number, and the proof that every job
ends, whatever the outcomes of the attempts. Times are points in time; where the stored
texts of two that are compared would be in the wrong order, nothing is said.

Does not own workers that hold a lease while another one works.
-/

namespace ScraperProject.Orchestration

open Foundation
open Foundation.IsoText
open Database
open Contracts

/-! ## Rounds -/

/-- One turn of the loop of a worker: its clock, the fresh identifier of the attempt and
how the attempt ends. -/
structure Round where
  workerId : String
  leaseSeconds : Int
  now : Datetime
  jobAttemptId : String
  success : Bool
  errorClass : String

/-- The error class that the end of the attempt is called with. -/
def Round.reported (round : Round) : Option String :=
  if round.success then none else some round.errorClass

/-- Lease the next job, and finish it if there is one. -/
def workRound (round : Round) (db : Db) : Db :=
  match perform (.leaseNext round.workerId round.leaseSeconds round.now round.jobAttemptId) db with
  | (.ok (.lease (some lease)), leased) =>
      if round.success then (perform (.succeed lease.jobId round.workerId round.now) leased).2
      else (perform (.fail lease.jobId round.workerId round.errorClass round.now) leased).2
  | (_, same) => same

/-- Recover the abandoned jobs, then work. -/
def drained (recovery : Datetime) (rounds : List Round) (db : Db) : Db :=
  rounds.foldl (fun db round => workRound round db) (perform (.recoverAbandoned recovery) db).2

/-! ## The budget -/

/-- The job has ended, well or badly. -/
def HasEnded (row : JobRow) : Prop := row.state = .succeeded ∨ row.state = .failedExhausted

instance (row : JobRow) : Decidable (HasEnded row) := inferInstanceAs (Decidable (_ ∨ _))

/-- Every job has ended. -/
def AllEnded (db : Db) : Prop := ∀ row ∈ db.jobs, HasEnded row

/-- The attempts that a job has left. -/
def attemptsLeft (row : JobRow) : Nat :=
  if HasEnded row then 0 else (row.maxAttempts - row.attemptCount).toNat

/-- The attempts that all jobs have left. -/
def budget (db : Db) : Nat := (db.jobs.rows.map attemptsLeft).sum

theorem attemptsLeft_le (row : JobRow) :
    attemptsLeft row ≤ (row.maxAttempts - row.attemptCount).toNat := by
  unfold attemptsLeft
  split <;> omega

theorem attemptsLeft_pending {row : JobRow} (pending : row.state = .pending) :
    attemptsLeft row = (row.maxAttempts - row.attemptCount).toNat := by
  simp [attemptsLeft, HasEnded, pending]

/-! ## Clocks and identifiers -/

/-- The stored form of a reading, when it can be printed. -/
def stamp? (now : Datetime) : Option String := (timestamp now).toOption

theorem stamp?_eq_some {now : Datetime} {current : String} :
    stamp? now = some current ↔ timestamp now = .ok current := by
  unfold stamp?
  cases timestamp now <;> simp [Except.toOption]

/-- The second reading is not before the first one, and their texts are not misordered. -/
def NotBefore (earlier later : Datetime) : Prop :=
  earlier.instant ≤ later.instant ∧ ¬ Misordered later.instant.toNat earlier.instant.toNat

instance (earlier later : Datetime) : Decidable (NotBefore earlier later) :=
  inferInstanceAs (Decidable (_ ∧ _))

/-- The lease has a length, and the clock can be printed, now and at its end. -/
def Readable (round : Round) : Prop :=
  1 ≤ round.leaseSeconds ∧ (stamp? round.now).isSome ∧
    ∃ later ∈ (round.now.addSeconds round.leaseSeconds).toOption, (stamp? later).isSome

instance (round : Round) : Decidable (Readable round) := inferInstanceAs (Decidable (_ ∧ _))

theorem Readable.printed {round : Round} (readable : Readable round) :
    ∃ current later expires, timestamp round.now = .ok current ∧
      round.now.addSeconds round.leaseSeconds = .ok later ∧ timestamp later = .ok expires := by
  obtain ⟨_, now, later, added, expiring⟩ := readable
  obtain ⟨current, stamped⟩ := Option.isSome_iff_exists.mp now
  obtain ⟨expires, expiry⟩ := Option.isSome_iff_exists.mp expiring
  refine ⟨current, later, expires, stamp?_eq_some.mp stamped, ?_, stamp?_eq_some.mp expiry⟩
  cases sum : round.now.addSeconds round.leaseSeconds with
  | error raised =>
      rw [sum] at added
      cases added
  | ok value =>
      rw [sum] at added
      exact congrArg Except.ok (Option.some.inj added)

/-- What the rounds need of the clock and of the identifiers: readings that can be
printed and do not go back, and an identifier of its own for each attempt. -/
structure Scheduled (rounds : List Round) (db : Db) : Prop where
  readable : ∀ round ∈ rounds, Readable round
  ordered : rounds.Pairwise fun round next => NotBefore round.now next.now
  fresh : ∀ round ∈ rounds, ∀ attempt ∈ db.attempts.rows, attempt.jobAttemptId ≠ round.jobAttemptId
  distinct : rounds.Pairwise fun round next => round.jobAttemptId ≠ next.jobAttemptId

/-- A job that waits for this time can be leased at the reading. -/
def WaitsUntil (now : Datetime) (row : JobRow) : Prop :=
  (instantOf row.scheduledAt : Int) ≤ now.instant ∧ ¬ MistakenFor now row

instance (now : Datetime) (row : JobRow) : Decidable (WaitsUntil now row) :=
  inferInstanceAs (Decidable (_ ∧ _))

/-- No round comes before the time that a pending job waits for. -/
def AllDue (rounds : List Round) (db : Db) : Prop :=
  ∀ round ∈ rounds, ∀ row ∈ db.jobs.rows, row.state = .pending → WaitsUntil round.now row

instance (rounds : List Round) (db : Db) : Decidable (AllDue rounds db) :=
  inferInstanceAs (Decidable (∀ _ ∈ rounds, _))

/-- The stored time of a job that waited long enough is not after the text of the clock. -/
theorem WaitsUntil.notBefore {now : Datetime} {current : String} {row : JobRow}
    (waits : WaitsUntil now row) (clock : timestamp now = .ok current)
    (scheduled : ∃ stamp : Instant, row.scheduledAt = stamp.text) :
    ¬ TextBefore current row.scheduledAt := by
  obtain ⟨utc, converted, rfl⟩ := timestamp_ok_iff.mp clock
  have instant := Datetime.astimezoneUtc_ok_iff.mp converted
  obtain ⟨stamp, text⟩ := scheduled
  obtain ⟨early, plain⟩ := waits
  rw [MistakenFor, text, instantOf_text, instant, Int.toNat_natCast] at plain
  rw [text, instantOf_text, instant] at early
  rw [text, (Instant.text_before_agrees_iff utc stamp).mpr plain]
  omega

/-- A job that is put back waits for a reading that no later one is before. -/
theorem NotBefore.waitsUntil {earlier later : Datetime} (ordered : NotBefore earlier later)
    {current : String} (clock : timestamp earlier = .ok current) {row : JobRow}
    (scheduled : row.scheduledAt = current) : WaitsUntil later row := by
  obtain ⟨utc, converted, rfl⟩ := timestamp_ok_iff.mp clock
  have instant := Datetime.astimezoneUtc_ok_iff.mp converted
  obtain ⟨before, plain⟩ := ordered
  rw [instant, Int.toNat_natCast] at plain
  rw [WaitsUntil, MistakenFor, scheduled, instantOf_text]
  exact ⟨instant ▸ before, plain⟩

/-- A state from which the rounds meet no lease of another worker. -/
structure Drainable (rounds : List Round) (db : Db) : Prop where
  timed : TimedQueue db
  unleased : ∀ row ∈ db.jobs, row.state ≠ .processing
  scheduled : Scheduled rounds db
  due : AllDue rounds db

/-- Without a budget every job has ended. -/
theorem Drainable.ended {rounds : List Round} {db : Db} (drainable : Drainable rounds db)
    (spent : budget db = 0) : AllEnded db := by
  intro row member
  have none : attemptsLeft row = 0 :=
    List.sum_eq_zero_iff_forall_eq_nat.mp spent _ (List.mem_map_of_mem member)
  cases state : row.state with
  | pending =>
      have left : row.attemptCount < row.maxAttempts :=
        (drainable.timed.queue.sound row member).pending state
      rw [attemptsLeft_pending state] at none
      omega
  | processing => exact absurd state (drainable.unleased row member)
  | succeeded => exact Or.inl state
  | failedExhausted => exact Or.inr state

/-! ## One round -/

/-- A job after an attempt of it began and ended. -/
def workedRow (round : Round) (row : JobRow) (expires current : String) : JobRow :=
  let leased := leasedRow row round.workerId expires current
  leased.settle (finishOutcome leased round.success).1 round.reported current

/-- What a round does to the jobs and the attempts. -/
inductive RoundEffect (round : Round) (db next : Db) : Prop where
  /-- No job was eligible. -/
  | idle (current : String) (clock : timestamp round.now = .ok current)
      (absent : ∀ row ∈ db.jobs, ¬ Eligible current row) (same : next = db)
  /-- One attempt of a job began and ended. -/
  | worked (row : JobRow) (current expires : String) (clock : timestamp round.now = .ok current)
      (member : row ∈ db.jobs) (eligible : Eligible current row)
      (jobs : next.jobs.rows = db.jobs.rows.map fun stored =>
        if stored.jobId = row.jobId then workedRow round row expires current else stored)
      (attempts : ∀ attempt ∈ next.attempts, attempt.jobAttemptId = round.jobAttemptId ∨
        ∃ old ∈ db.attempts, old.jobAttemptId = attempt.jobAttemptId)

/-- The row that a worker's own lease leaves is held by it. -/
theorem Leased.held {workerId jobAttemptId current expires : String} {leaseSeconds : Int}
    {now : Datetime} {row : JobRow} {db next : Db}
    (leased : Leased workerId leaseSeconds now jobAttemptId row current expires db next) :
    Held next row.jobId workerId (leasedRow row workerId expires current) := by
  refine ⟨?_, rfl, rfl, rfl⟩
  rw [← Table.mem_rows, leased.jobs]
  exact List.mem_map.mpr ⟨row, leased.member, if_pos rfl⟩

/-- A held job can be finished while the clock can be printed. -/
theorem finished_of_readable {jobId workerId current : String} {success : Bool}
    {errorClass : Option String} {now : Datetime} {db : Db} {row : JobRow}
    (held : Held db jobId workerId row) (clock : timestamp now = .ok current) :
    Finished jobId workerId success errorClass now row current db
      (finish jobId workerId success errorClass now db).2 := by
  rcases finish_cases (Prod.eta (finish jobId workerId success errorClass now db)).symm with
    ⟨_, ⟨_, absent⟩ | ⟨_, unreadable, _⟩⟩ | ⟨other, stamp, finished, _⟩
  · exact absurd held (absent row)
  · rw [clock] at unreadable
    cases unreadable
  · have sameStamp : stamp = current := Except.ok.inj (finished.clock.symm.trans clock)
    have sameRow : other = row :=
      job_eq_of_id finished.member held.1 (finished.sameId.trans held.2.1.symm)
    rw [sameStamp, sameRow] at finished
    exact finished

/-- A finished call keeps the attempts under their identifiers. -/
theorem Finished.attemptIds {jobId workerId current : String} {success : Bool}
    {errorClass : Option String} {now : Datetime} {row : JobRow} {db next : Db}
    (finished : Finished jobId workerId success errorClass now row current db next)
    {attempt : AttemptRow} (member : attempt ∈ next.attempts) :
    ∃ old ∈ db.attempts, old.jobAttemptId = attempt.jobAttemptId := by
  rw [← Table.mem_rows, finished.attempts] at member
  obtain ⟨old, listed, rfl⟩ := List.mem_map.mp member
  refine ⟨old, listed, ?_⟩
  unfold closedAttempt
  split <;> rfl

/-- The calls `succeed` and `fail` leave what `_finish` leaves. -/
theorem workRound_leased {round : Round} {db leased : Db} {lease : JobLease}
    (call : leaseNext round.workerId round.leaseSeconds round.now round.jobAttemptId db =
      (.ok (some lease), leased)) :
    workRound round db =
      (finish lease.jobId round.workerId round.success round.reported round.now leased).2 := by
  cases ends : round.success <;>
    simp [workRound, perform, call, Except.map, Round.reported, ends, succeed, fail]

theorem workRound_effect {round : Round} {rounds : List Round} {db : Db}
    (drainable : Drainable (round :: rounds) db) :
    RoundEffect round db (workRound round db) := by
  have readable := drainable.scheduled.readable round List.mem_cons_self
  obtain ⟨current, later, expires, clock, added, expiry⟩ := readable.printed
  have fresh := drainable.scheduled.fresh round List.mem_cons_self
  obtain ⟨reply, isOk⟩ := leaseNext_succeeds readable.1 clock added expiry fun row member =>
    @openAttempt_fits db round.jobAttemptId round.workerId current row drainable.timed.queue fresh
      member
  rcases leaseNext_cases (Prod.eta
      (leaseNext round.workerId round.leaseSeconds round.now round.jobAttemptId db)).symm with
    ⟨raised, isError, _⟩ | ⟨isIdle, same, stamp, stamped, absent⟩ |
      ⟨row, stamp, expiresAt, leased, isLeased⟩
  · rw [isOk] at isError
    cases isError
  · apply RoundEffect.idle stamp stamped absent
    simp only [workRound, perform, isIdle, Except.map]
    exact same
  · obtain rfl : stamp = current := Except.ok.inj (leased.clock.symm.trans clock)
    have finished := @finished_of_readable row.jobId round.workerId stamp round.success
      round.reported round.now _ _ leased.held clock
    have jobs := finished.jobs
    have attempts := @Finished.attemptIds _ _ _ _ _ _ _ _ _ finished
    rw [workRound_leased (Prod.ext isLeased rfl)]
    apply RoundEffect.worked row stamp expiresAt clock leased.member leased.eligible
    · refine jobs.trans ?_
      rw [leased.jobs, List.map_map]
      apply List.map_congr_left
      intro stored _
      by_cases own : stored.jobId = row.jobId
      · simp [own, settledRow, workedRow, leasedRow, JobRow.lease]
      · simp [own, settledRow, leasedRow, JobRow.lease]
    · intro attempt member
      obtain ⟨old, listed, sameId⟩ := attempts member
      rw [← Table.mem_rows, leased.attempts, List.mem_append, List.mem_singleton] at listed
      rcases listed with known | rfl
      · exact Or.inr ⟨old, known, sameId⟩
      · exact Or.inl sameId.symm

theorem workRound_timed (round : Round) {db : Db} (timed : TimedQueue db) :
    TimedQueue (workRound round db) := by
  have leased := perform_timedQueue (.leaseNext round.workerId round.leaseSeconds round.now
    round.jobAttemptId) db timed
  unfold workRound
  split
  · next lease after call =>
    rw [call] at leased
    split <;> exact perform_timedQueue _ after leased
  · next result after _ call =>
    rw [call] at leased
    exact leased

/-! ## The loop -/

/-- A round that finds no job leaves no budget, and one that works lowers it. -/
theorem RoundEffect.budget_le {round : Round} {rounds : List Round} {db next : Db}
    (effect : RoundEffect round db next) (drainable : Drainable (round :: rounds) db) :
    budget next ≤ budget db - 1 := by
  cases effect with
  | idle current clock absent same =>
      have spent : budget db = 0 := by
        rw [budget, List.sum_eq_zero_iff_forall_eq_nat]
        intro left listed
        obtain ⟨row, member, rfl⟩ := List.mem_map.mp listed
        apply if_pos
        cases state : row.state with
        | pending =>
            have isDue := (drainable.due round List.mem_cons_self row member state).notBefore clock
              (drainable.timed.stamped row member).scheduled
            have left := (drainable.timed.queue.sound row member).pending state
            exact absurd ⟨state, isDue, left⟩ (absent row member)
        | processing => exact absurd state (drainable.unleased row member)
        | succeeded => exact Or.inl state
        | failedExhausted => exact Or.inr state
      rw [same, spent]
  | worked row current expires clock member eligible jobs attempts =>
      have others : ∀ other ∈ db.jobs, other ≠ row → (if other.jobId = row.jobId then
          workedRow round row expires current else other) = other := by
        intro other listed apart
        exact if_neg fun sameId => apart (job_eq_of_id listed member sameId)
      have moved := Table.sum_updated member others attemptsLeft
      rw [← jobs, if_pos rfl] at moved
      obtain ⟨pending, _, left⟩ := eligible
      have before := attemptsLeft_pending pending
      have after : attemptsLeft (workedRow round row expires current) ≤
          (row.maxAttempts - (row.attemptCount + 1)).toNat :=
        attemptsLeft_le (workedRow round row expires current)
      unfold budget
      omega

theorem workedRow_state (round : Round) (row : JobRow) (expires current : String) :
    (workedRow round row expires current).state ≠ .processing := by
  simp only [workedRow, JobRow.settle, finishOutcome]
  split
  · simp
  · split <;> simp

theorem RoundEffect.drainable {round : Round} {rounds : List Round} {db next : Db}
    (effect : RoundEffect round db next) (timed : TimedQueue next)
    (drainable : Drainable (round :: rounds) db) : Drainable rounds next := by
  have later : ∀ other ∈ rounds, other ∈ round :: rounds := fun other => List.mem_cons_of_mem _
  obtain ⟨readable, ordered, fresh, distinct⟩ := drainable.scheduled
  obtain ⟨laterClock, ordered⟩ := List.pairwise_cons.mp ordered
  obtain ⟨otherId, distinct⟩ := List.pairwise_cons.mp distinct
  cases effect with
  | idle current clock absent same =>
      rw [same]
      exact
        { timed := drainable.timed
          unleased := drainable.unleased
          scheduled :=
            { readable := fun other listed => readable other (later other listed)
              ordered := ordered
              fresh := fun other listed => fresh other (later other listed)
              distinct := distinct }
          due := fun other listed => drainable.due other (later other listed) }
  | worked row current expires clock member eligible jobs attempts =>
      have origin : ∀ after ∈ next.jobs, after ∈ db.jobs ∨
          after = workedRow round row expires current := by
        intro after listed
        rw [← Table.mem_rows, jobs] at listed
        obtain ⟨old, oldMember, rfl⟩ := List.mem_map.mp listed
        split
        · exact Or.inr rfl
        · exact Or.inl oldMember
      refine ⟨timed, ?_, ⟨?_, ordered, ?_, distinct⟩, ?_⟩
      · intro after listed
        rcases origin after listed with old | rfl
        · exact drainable.unleased after old
        · exact workedRow_state round row expires current
      · exact fun other listed => readable other (later other listed)
      · intro other listed attempt member
        rcases attempts attempt member with sameId | ⟨old, known, sameId⟩
        · rw [sameId]
          exact otherId other listed
        · rw [← sameId]
          exact fresh other (later other listed) old known
      · -- a job that failed waits for the time of its failure, which is not after the next
        intro other listed after member pending
        rcases origin after member with old | rfl
        · exact drainable.due other (later other listed) after old pending
        · exact (laterClock other listed).waitsUntil clock rfl

theorem ended_after_rounds {rounds : List Round} {db : Db} (drainable : Drainable rounds db)
    (enough : budget db ≤ rounds.length) :
    AllEnded (rounds.foldl (fun db round => workRound round db) db) := by
  induction rounds generalizing db with
  | nil =>
      apply drainable.ended
      exact Nat.le_zero.mp enough
  | cons round rounds ih =>
      have effect := workRound_effect drainable
      apply ih (effect.drainable (workRound_timed round drainable.timed) drainable)
      have lower := effect.budget_le drainable
      rw [List.length_cons] at enough
      omega

/-! ## The recovery before the loop -/

/-- The recovery can be printed, and every lease has run out before it, with texts that are
not misordered. -/
def LeasesRunOut (past : Past) (recovery : Datetime) (db : Db) : Prop :=
  (stamp? recovery).isSome ∧ ∀ row ∈ db.jobs.rows, row.state = .processing →
    ∃ expiry ∈ leaseExpiry row.jobId past,
      expiry < recovery.instant ∧ ¬ Misordered expiry.toNat recovery.instant.toNat

instance (past : Past) (recovery : Datetime) (db : Db) : Decidable (LeasesRunOut past recovery db) :=
  inferInstanceAs (Decidable (_ ∧ _))

/-- Recovery takes every lease that has run out so. -/
theorem LeasesRunOut.expired {past : Past} {recovery : Datetime} {db : Db}
    (runOut : LeasesRunOut past recovery db) (stored : ExpiryStored past db) :
    ∃ current, timestamp recovery = .ok current ∧
      ∀ row ∈ db.jobs, row.state = .processing → Expired current row := by
  obtain ⟨isSome, before⟩ := runOut
  obtain ⟨current, stamped⟩ := Option.isSome_iff_exists.mp isSome
  have clock := stamp?_eq_some.mp stamped
  obtain ⟨utc, converted, rfl⟩ := timestamp_ok_iff.mp clock
  have instant := Datetime.astimezoneUtc_ok_iff.mp converted
  refine ⟨_, clock, fun row member processing => ?_⟩
  obtain ⟨expiry, isExpiry, isBefore, plain⟩ := before row member processing
  refine ((expired_agrees_iff stored converted member).mpr fun _ other isOther => ?_).mpr
    ⟨processing, expiry, isExpiry, isBefore⟩
  rw [Option.mem_def] at isExpiry isOther
  rw [isExpiry] at isOther
  cases isOther
  rw [instant, Int.toNat_natCast] at plain
  exact plain

/-- Recovery returns no attempt to a job. -/
theorem attemptsLeft_recoveredRow (current : String) (row : JobRow) :
    attemptsLeft (recoveredRow current row) ≤ attemptsLeft row := by
  unfold recoveredRow
  split
  · next expired =>
    have left : attemptsLeft row = (row.maxAttempts - row.attemptCount).toNat := by
      simp [attemptsLeft, HasEnded, expired.1]
    rw [left]
    exact attemptsLeft_le _
  · exact Nat.le_refl _

theorem drainable_of_recovery {recovery : Datetime} {current : String} {rounds : List Round}
    {db : Db}
    (timed : TimedQueue db) (clock : timestamp recovery = .ok current)
    (expired : ∀ row ∈ db.jobs, row.state = .processing → Expired current row)
    (scheduled : Scheduled rounds db) (due : AllDue rounds db)
    (first : ∀ round ∈ rounds, NotBefore recovery round.now) :
    Drainable rounds (recoverAbandoned recovery db).2 ∧
      budget (recoverAbandoned recovery db).2 ≤ budget db := by
  rcases recoverAbandoned_cases (Prod.eta (recoverAbandoned recovery db)).symm with
    ⟨_, unreadable, _⟩ | ⟨stamp, counts, recovered, isOk⟩
  · rw [clock] at unreadable
    cases unreadable
  · obtain rfl : stamp = current := Except.ok.inj (recovered.clock.symm.trans clock)
    have sound := perform_timedQueue (.recoverAbandoned recovery) db timed
    have jobs := recovered.jobs
    have attempts := recovered.attempts
    simp only [perform] at sound
    generalize (recoverAbandoned recovery db).2 = next at sound jobs attempts
    refine ⟨⟨sound, ?_, ⟨scheduled.readable, scheduled.ordered, ?_, scheduled.distinct⟩, ?_⟩, ?_⟩
    · intro after listed
      rw [← Table.mem_rows, jobs] at listed
      obtain ⟨row, member, rfl⟩ := List.mem_map.mp listed
      unfold recoveredRow
      split
      · simp only [JobRow.settle, recoveredState]
        split <;> simp
      · next live => exact fun held => live (expired row member held)
    · intro round listed attempt member
      rw [attempts] at member
      obtain ⟨old, known, rfl⟩ := List.mem_map.mp member
      have sameId : (abandonedAttempt (expiredRows stamp db) stamp old).jobAttemptId =
          old.jobAttemptId := by
        unfold abandonedAttempt
        split <;> rfl
      rw [sameId]
      exact scheduled.fresh round listed old known
    · intro round listed after member pending
      rw [jobs] at member
      obtain ⟨row, known, rfl⟩ := List.mem_map.mp member
      unfold recoveredRow at pending ⊢
      split at pending
      · next isExpired =>
        rw [if_pos isExpired]
        exact (first round listed).waitsUntil clock rfl
      · next live =>
        rw [if_neg live]
        exact due round listed row known pending
    · rw [budget, budget, jobs, List.map_map]
      exact sum_map_le fun row _ => attemptsLeft_recoveredRow stamp row

/-- Workers that keep leasing empty the queue. After any history of queue calls, recover
the jobs once their leases have run out, then let workers lease and finish one attempt
after another, at times that do not go back and at which every pending job is due, none
of these times misordered against the one before it by its text. As many rounds as the
unfinished jobs have attempts left end every job, however the attempts end. -/
theorem queue_drains (start : Db) (empty : EmptyQueue start) (calls : List QueueCall)
    (recovery : Datetime) (rounds : List Round)
    (runOut : LeasesRunOut (History.events perform start calls) recovery
      (History.after perform start calls))
    (scheduled : Scheduled rounds (History.after perform start calls))
    (due : AllDue rounds (History.after perform start calls))
    (first : ∀ round ∈ rounds, NotBefore recovery round.now)
    (enough : budget (History.after perform start calls) ≤ rounds.length) :
    AllEnded (drained recovery rounds (History.after perform start calls)) := by
  obtain ⟨current, clock, expired⟩ := runOut.expired (expiryStored_after empty calls)
  obtain ⟨drainable, lower⟩ := drainable_of_recovery (timedQueue_after empty calls) clock expired
    scheduled due first
  exact ended_after_rounds drainable (lower.trans enough)

/-- Two jobs, the first of them leased by a worker that is gone. -/
def abandonedCalls : List QueueCall :=
  [ .createIdempotent (sampleJob "job-1" "listing-1") sampleMorning sampleMorning,
    .createIdempotent (sampleJob "job-2" "listing-2") sampleMorning sampleMorning,
    .leaseNext "gone" 30 (sampleLater 0) "attempt-1" ]

/-- One attempt is left of the first job and two are left of the second. -/
def sampleRounds : List Round :=
  [ ⟨"worker", 30, sampleLater 41000000, "attempt-2", false, "graceful_shutdown"⟩,
    ⟨"other", 30, sampleLater 42000000, "attempt-3", true, ""⟩,
    ⟨"worker", 30, sampleLater 43000000, "attempt-4", false, "graceful_shutdown"⟩ ]

theorem queue_drains_after_sample_run :
    AllEnded (drained (sampleLater 40000000) sampleRounds
      (History.after perform sampleStart abandonedCalls)) :=
  queue_drains sampleStart ⟨rfl, rfl⟩ abandonedCalls (sampleLater 40000000) sampleRounds
    (by decide +kernel)
    ⟨by decide +kernel, by decide +kernel, by decide +kernel, by decide +kernel⟩
    (by decide +kernel) (by decide +kernel) (by decide +kernel)

end ScraperProject.Orchestration
