import ScraperProject.Database.RepositorySteps
import ScraperProject.Orchestration.Queue

/-!
Contract: what one call of the queue can do to the tables.

Owns one case lemma for each operation: a call raises and changes nothing, or
it has one of a few effects, each given by the rows before and after. Every
later result about the queue starts from these lemmas.

Does not own any invariant.
-/

namespace ScraperProject.Orchestration

open Foundation
open Database
open Contracts

/-! ## Job creation -/

/-- The effect of `create_idempotent` on a new natural key. -/
structure Created (job : DetailFetchJob) (row : JobRow) (db next : Db) : Prop where
  fits : ∀ stored ∈ db.jobs, ¬ Constrained.Clash stored row
  identity : row.jobId = job.jobId ∧ row.crawlRunId = job.crawlRunId ∧
    row.sourceName = job.sourceName ∧ row.sourceListingKey = job.sourceListingKey ∧
      row.listingUrl = job.listingUrl ∧ row.reasonCode = job.reasonCode.value
  bounds : row.priority = job.priority ∧ row.maxAttempts = job.maxAttempts
  fresh : row.state = .pending ∧ row.attemptCount = 0 ∧ row.leaseOwner = none ∧
    row.leaseExpiresAt = none
  scheduled : timestamp job.scheduledAt = .ok row.scheduledAt
  run : ∃ stored ∈ db.runs, stored.crawlRunId = job.crawlRunId
  jobs : next.jobs.rows = db.jobs.rows ++ [row]
  frame : next = { db with identities := next.identities, jobs := next.jobs }

/-- The natural key of a job call, as `create_idempotent` looks it up. -/
def HasKey (row : JobRow) (job : DetailFetchJob) : Prop :=
  row.crawlRunId = job.crawlRunId ∧ row.sourceName = job.sourceName ∧
    row.sourceListingKey = job.sourceListingKey ∧ row.reasonCode = job.reasonCode.value

theorem newJobRow_ok {job : DetailFetchJob} {scheduledAt : String} {createdAt updatedAt : Instant}
    {row : JobRow} (made : newJobRow job scheduledAt createdAt updatedAt = .ok row) :
    (row.jobId = job.jobId ∧ row.crawlRunId = job.crawlRunId ∧ row.sourceName = job.sourceName ∧
      row.sourceListingKey = job.sourceListingKey ∧ row.listingUrl = job.listingUrl ∧
        row.reasonCode = job.reasonCode.value) ∧
      (row.priority = job.priority ∧ row.maxAttempts = job.maxAttempts) ∧
        (row.state = .pending ∧ row.attemptCount = 0 ∧ row.leaseOwner = none ∧
          row.leaseExpiresAt = none) ∧ row.scheduledAt = scheduledAt := by
  unfold newJobRow at made
  split at made
  · cases made
    exact ⟨⟨rfl, rfl, rfl, rfl, rfl, rfl⟩, ⟨rfl, rfl⟩, ⟨rfl, rfl, rfl, rfl⟩, rfl⟩
  · cases made

/-- `INSERT ... DO NOTHING` keeps the table or appends the row. -/
theorem insertJob_ok {db : Db} {row : JobRow} {jobs : Table JobRow}
    (inserted : insertJob db row = .ok jobs) :
    ((∃ stored ∈ db.jobs, stored.SameKey row) ∧ jobs = db.jobs) ∨
      ((∀ stored ∈ db.jobs, ¬ Constrained.Clash stored row) ∧
        (∃ run ∈ db.runs, run.crawlRunId = row.crawlRunId) ∧
          jobs.rows = db.jobs.rows ++ [row]) := by
  unfold insertJob at inserted
  split at inserted
  · next taken =>
    cases inserted
    obtain ⟨stored, member, same⟩ := List.any_eq_true.mp taken
    exact Or.inl ⟨⟨stored, member, by simpa using same⟩, rfl⟩
  · obtain ⟨table, accepted, rest⟩ := bind_eq_ok.mp inserted
    obtain ⟨_, referenced, kept⟩ := bind_eq_ok.mp rest
    cases kept
    obtain ⟨fits, rows⟩ := Table.insert?_eq_some.mp (insertRow_ok.mp accepted)
    obtain ⟨run, member, same⟩ := List.any_eq_true.mp (requireReference_ok.mp referenced)
    exact Or.inr ⟨fits, ⟨run, member, by simpa using same⟩, rows⟩

theorem createIdempotent_cases {job : DetailFetchJob} {createdAt updatedAt : Instant}
    {db next : Db} {result : Except PyError String}
    (call : createIdempotent job createdAt updatedAt db = (result, next)) :
    (∃ raised, result = .error raised ∧ next = db) ∨
      (∃ row ∈ db.jobs, HasKey row job ∧ result = .ok row.jobId ∧
        next = { db with identities := next.identities }) ∨
      ∃ row, Created job row db next ∧ result = .ok job.jobId := by
  cases result with
  | error raised => exact Or.inl ⟨raised, rfl, createIdempotent_error call⟩
  | ok jobId =>
      obtain ⟨scheduledAt, row, jobs, existing, ⟨scheduled, made, inserted⟩,
        ⟨member, sameKey, rfl⟩, rfl⟩ := createIdempotent_ok call
      obtain ⟨identity, bounds, fresh, scheduledRow⟩ := newJobRow_ok made
      rcases insertJob_ok inserted with ⟨_, rfl⟩ | ⟨fits, run, rows⟩
      · obtain ⟨sameRun, source, key, reason⟩ := sameKey
        have hasKey : HasKey existing job :=
          ⟨sameRun.trans identity.2.1, source.trans identity.2.2.1,
            key.trans identity.2.2.2.1, reason.trans identity.2.2.2.2.2⟩
        exact Or.inr (Or.inl ⟨existing, member, hasKey, rfl, rfl⟩)
      · refine Or.inr (Or.inr ⟨row, ?_, ?_⟩)
        · exact
            { fits := fits
              identity := identity
              bounds := bounds
              fresh := fresh
              scheduled := by rw [scheduled, scheduledRow]
              run := by simpa [identity.2.1] using run
              jobs := rows
              frame := rfl }
        · have isRow : existing = row := by
            rw [← Table.mem_rows, rows, List.mem_append, List.mem_singleton] at member
            rcases member with old | new
            · exact absurd (Or.inr sameKey) (fits existing old)
            · exact new
          rw [isRow, identity.1]

/-- A job is created, or found, unless a row with another key has its identifier. -/
theorem createIdempotent_succeeds {job : DetailFetchJob} {createdAt updatedAt : Instant} {db : Db}
    {scheduledAt : String} (scheduled : timestamp job.scheduledAt = .ok scheduledAt)
    (bound : bindInteger job.priority = .ok () ∧ bindInteger job.maxAttempts = .ok ())
    (check : 1 ≤ job.maxAttempts)
    (own : ∀ row ∈ db.jobs, row.jobId = job.jobId → HasKey row job)
    (run : ∃ stored ∈ db.runs, stored.crawlRunId = job.crawlRunId) :
    ∃ reply, (createIdempotent job createdAt updatedAt db).1 = .ok reply := by
  obtain ⟨row, made⟩ : ∃ row, newJobRow job scheduledAt createdAt updatedAt = .ok row := by
    rw [newJobRow, dif_pos check]
    exact ⟨_, rfl⟩
  have identity := (newJobRow_ok made).1
  have keyed : ∀ stored : JobRow, HasKey stored job → stored.SameKey row := by
    rintro stored ⟨sameRun, source, key, reason⟩
    exact ⟨sameRun.trans identity.2.1.symm, source.trans identity.2.2.1.symm,
      key.trans identity.2.2.2.1.symm, reason.trans identity.2.2.2.2.2.symm⟩
  obtain ⟨jobs, inserted, stored, member, same⟩ : ∃ jobs, insertJob db row = .ok jobs ∧
      ∃ stored ∈ jobs, stored.SameKey row := by
    by_cases taken : ∃ stored ∈ db.jobs, stored.SameKey row
    · have found : (db.jobs.rows.any fun stored => decide (stored.SameKey row)) = true := by
        simpa [List.any_eq_true] using taken
      exact ⟨db.jobs, by rw [insertJob, if_pos found], taken⟩
    · have absent : ¬ (db.jobs.rows.any fun stored => decide (stored.SameKey row)) = true := by
        simpa [List.any_eq_true] using taken
      have fits : ∀ stored ∈ db.jobs, ¬ Constrained.Clash stored row := by
        rintro stored member (sameId | sameKey)
        · exact taken ⟨stored, member, keyed stored (own stored member (sameId.trans identity.1))⟩
        · exact taken ⟨stored, member, sameKey⟩
      obtain ⟨jobs, accepted⟩ := Table.insert?_isSome fits
      have referenced :
          (db.runs.rows.any fun stored => stored.crawlRunId = row.crawlRunId) = true := by
        simpa [List.any_eq_true, identity.2.1] using run
      refine ⟨jobs, ?_, row, (Table.mem_of_insert? accepted).mpr (Or.inr rfl), rfl, rfl, rfl, rfl⟩
      rw [insertJob, if_neg absent, insertRow_ok.mpr accepted]
      simp [requireReference, referenced, bind, Except.bind, pure, Except.pure]
  cases found : jobs.find? fun stored => decide (stored.SameKey row) with
  | none => exact absurd (decide_eq_true same) (Table.find?_none.mp found stored member)
  | some existing =>
      refine ⟨existing.jobId, ?_⟩
      simp [createIdempotent, scheduled, writeTransaction, bound.1, bound.2, made, inserted, found,
        bind, Except.bind, pure, Except.pure]

/-! ## Leasing -/

/-- A leased row and its new attempt. -/
def leasedRow (row : JobRow) (workerId expires current : String) : JobRow :=
  row.lease (row.attemptCount + 1) row.succ_attemptCount_nonneg workerId expires current

def openAttempt (jobAttemptId : String) (row : JobRow) (workerId current : String) : AttemptRow :=
  { jobAttemptId := jobAttemptId
    jobId := row.jobId
    attemptNumber := row.attemptCount + 1
    workerId := workerId
    startedAt := current
    finishedAt := none
    outcome := none
    errorClass := none }

/-- The effect of `lease_next` when it hands out a job. -/
structure Leased (workerId : String) (leaseSeconds : Int) (now : Datetime) (jobAttemptId : String)
    (row : JobRow) (current expires : String) (db next : Db) : Prop where
  positive : 1 ≤ leaseSeconds
  clock : timestamp now = .ok current
  expiry : ∃ later, now.addSeconds leaseSeconds = .ok later ∧ timestamp later = .ok expires
  best : firstRow (db.jobs.rows.filter fun stored => Eligible current stored) = some row
  member : row ∈ db.jobs
  eligible : Eligible current row
  jobs : next.jobs.rows = db.jobs.rows.map fun stored =>
    if stored.jobId = row.jobId then leasedRow row workerId expires current else stored
  attempts : next.attempts.rows =
    db.attempts.rows ++ [openAttempt jobAttemptId row workerId current]
  frame : next = { db with jobs := next.jobs, attempts := next.attempts }

/-- The lease that `lease_next` returns for a row. -/
def leaseOf (row : JobRow) (workerId expires : String) : JobLease :=
  { jobId := row.jobId
    sourceName := row.sourceName
    sourceListingKey := row.sourceListingKey
    reasonCode := row.reasonCode
    attemptNumber := row.attemptCount + 1
    maxAttempts := row.maxAttempts
    leaseOwner := workerId
    leaseExpiresAt := expires }

theorem firstRow_mem {rows : List JobRow} {row : JobRow} (first : firstRow rows = some row) :
    row ∈ rows := by
  induction rows generalizing row with
  | nil => cases first
  | cons head rest inductionHypothesis =>
      rw [firstRow] at first
      split at first
      · cases first
        exact List.mem_cons_self
      · next best found =>
        split at first
        · cases first
          exact List.mem_cons_of_mem _ (inductionHypothesis found)
        · cases first
          exact List.mem_cons_self

theorem firstRow_none {rows : List JobRow} : firstRow rows = none ↔ rows = [] := by
  cases rows with
  | nil => simp [firstRow]
  | cons head rest =>
      simp only [firstRow, reduceCtorEq, iff_false]
      split
      · simp
      · split <;> simp

/-- Two rows of the job table with one identifier are one row. -/
theorem job_eq_of_id {jobs : Table JobRow} {row other : JobRow} (member : row ∈ jobs)
    (otherMember : other ∈ jobs) (sameId : row.jobId = other.jobId) : row = other :=
  Table.eq_of_clash member otherMember (Or.inl sameId)

theorem leaseNext_cases {workerId : String} {leaseSeconds : Int} {now : Datetime}
    {jobAttemptId : String} {db next : Db} {result : Except PyError (Option JobLease)}
    (call : leaseNext workerId leaseSeconds now jobAttemptId db = (result, next)) :
    (∃ raised, result = .error raised ∧ next = db) ∨
      (result = .ok none ∧ next = db ∧ ∃ current, timestamp now = .ok current ∧
        ∀ row ∈ db.jobs, ¬ Eligible current row) ∨
      ∃ row current expires,
        Leased workerId leaseSeconds now jobAttemptId row current expires db next ∧
          result = .ok (some (leaseOf row workerId expires)) := by
  unfold leaseNext at call
  split at call
  · obtain ⟨rfl, rfl⟩ := Prod.mk.inj call
    exact Or.inl ⟨_, rfl, rfl⟩
  next positive =>
  split at call
  · obtain ⟨rfl, rfl⟩ := Prod.mk.inj call
    exact Or.inl ⟨_, rfl, rfl⟩
  next later added =>
  cases result with
  | error raised => exact Or.inl ⟨raised, rfl, (writeTransaction_error.mp call).2⟩
  | ok lease =>
      obtain ⟨current, clock, body⟩ := bind_eq_ok.mp (writeTransaction_ok.mp call)
      split at body
      · next noRow =>
        obtain ⟨rfl, rfl⟩ := Prod.mk.inj (Except.ok.inj body)
        refine Or.inr (Or.inl ⟨rfl, rfl, current, clock, fun row member eligible => ?_⟩)
        have listed : row ∈ db.jobs.rows.filter fun stored => Eligible current stored :=
          List.mem_filter.mpr ⟨member, by simpa using eligible⟩
        rw [firstRow_none.mp noRow] at listed
        cases listed
      · next row best =>
        obtain ⟨expires, expiry, body⟩ := bind_eq_ok.mp body
        obtain ⟨attempts, inserted, body⟩ := bind_eq_ok.mp body
        obtain ⟨rfl, rfl⟩ := Prod.mk.inj (Except.ok.inj body)
        obtain ⟨_, attemptRows⟩ := Table.insert?_eq_some.mp (insertRow_ok.mp inserted)
        obtain ⟨member, selected⟩ := List.mem_filter.mp (firstRow_mem best)
        have eligible : Eligible current row := by simpa using selected
        refine Or.inr (Or.inr ⟨row, current, expires, ?_, rfl⟩)
        exact
          { positive := by omega
            clock := clock
            expiry := ⟨later, added, expiry⟩
            best := best
            member := member
            eligible := eligible
            jobs := by
              refine List.map_congr_left fun stored storedMember => ?_
              by_cases sameId : stored.jobId = row.jobId
              · have same : stored = row := job_eq_of_id storedMember member sameId
                rw [same, if_pos (by simpa using eligible.1), if_pos rfl]
                rfl
              · rw [if_neg (by simp [sameId]), if_neg sameId]
            attempts := attemptRows
            frame := rfl }

/-- A call whose times have a text succeeds, unless its new attempt clashes. -/
theorem leaseNext_succeeds {workerId jobAttemptId current expires : String} {leaseSeconds : Int}
    {now later : Datetime} {db : Db} (positive : 1 ≤ leaseSeconds)
    (clock : timestamp now = .ok current) (added : now.addSeconds leaseSeconds = .ok later)
    (expiry : timestamp later = .ok expires)
    (fits : ∀ row ∈ db.jobs, ∀ attempt ∈ db.attempts,
      ¬ Constrained.Clash attempt (openAttempt jobAttemptId row workerId current)) :
    ∃ lease, (leaseNext workerId leaseSeconds now jobAttemptId db).1 = .ok lease := by
  have notRefused : ¬ leaseSeconds < 1 := by omega
  cases best : firstRow (db.jobs.rows.filter fun row => Eligible current row) with
  | none =>
      refine ⟨none, ?_⟩
      simp [leaseNext, notRefused, added, writeTransaction, clock, best, bind, Except.bind, pure,
        Except.pure]
  | some row =>
      have member := (List.mem_filter.mp (firstRow_mem best)).1
      obtain ⟨attempts, inserted⟩ := Table.insert?_isSome (fits row member)
      have done := insertRow_ok.mpr inserted
      rw [openAttempt] at done
      refine ⟨some (leaseOf row workerId expires), ?_⟩
      simp [leaseNext, notRefused, added, writeTransaction, clock, best, expiry, done, leaseOf,
        bind, Except.bind, pure, Except.pure]

/-! ## Finishing -/

/-- A row and an attempt after the blanket updates of one job. -/
def settledRow (row : JobRow) (state : JobState) (errorClass : Option String) (current : String)
    (stored : JobRow) : JobRow :=
  if stored.jobId = row.jobId then stored.settle state errorClass current else stored

def closedAttempt (row : JobRow) (outcome : AttemptOutcome) (errorClass : Option String)
    (current : String) (attempt : AttemptRow) : AttemptRow :=
  if attempt.jobId = row.jobId ∧ attempt.attemptNumber = row.attemptCount then
    attempt.close outcome errorClass current
  else attempt

/-- The effect of `_finish` when it returns. -/
structure Finished (jobId workerId : String) (success : Bool) (errorClass : Option String)
    (now : Datetime) (row : JobRow) (current : String) (db next : Db) : Prop where
  clock : timestamp now = .ok current
  member : row ∈ db.jobs
  sameId : row.jobId = jobId
  held : row.state = .processing ∧ row.leaseOwner = some workerId
  jobs : next.jobs.rows = db.jobs.rows.map
    (settledRow row (finishOutcome row success).1 errorClass current)
  attempts : next.attempts.rows = db.attempts.rows.map
    (closedAttempt row (finishOutcome row success).2 errorClass current)
  frame : next = { db with jobs := next.jobs, attempts := next.attempts }

/-- The row that a finished call leaves. -/
theorem Finished.stored {jobId workerId current : String} {success : Bool}
    {errorClass : Option String} {now : Datetime} {row : JobRow} {db next : Db}
    (finished : Finished jobId workerId success errorClass now row current db next) :
    row.settle (finishOutcome row success).1 errorClass current ∈ next.jobs := by
  rw [← Table.mem_rows, finished.jobs]
  exact List.mem_map.mpr ⟨row, finished.member, if_pos rfl⟩

/-- A job after a finished call is another one as it was, or the finished one. -/
theorem Finished.origin {jobId workerId current : String} {success : Bool}
    {errorClass : Option String} {now : Datetime} {row after : JobRow} {db next : Db}
    (finished : Finished jobId workerId success errorClass now row current db next)
    (member : after ∈ next.jobs) :
    after ∈ db.jobs ∨ after = row.settle (finishOutcome row success).1 errorClass current := by
  rw [← Table.mem_rows, finished.jobs] at member
  obtain ⟨old, oldMember, rfl⟩ := List.mem_map.mp member
  by_cases own : old.jobId = row.jobId
  · have same : old = row := job_eq_of_id oldMember finished.member own
    rw [settledRow, if_pos own, same]
    exact Or.inr rfl
  · rw [settledRow, if_neg own]
    exact Or.inl oldMember

theorem settleJob_rows (db : Db) (row : JobRow) (state : JobState) (outcome : AttemptOutcome)
    (errorClass : Option String) (current : String) :
    (settleJob db row state outcome errorClass current).jobs.rows =
        db.jobs.rows.map (settledRow row state errorClass current) ∧
      (settleJob db row state outcome errorClass current).attempts.rows =
        db.attempts.rows.map (closedAttempt row outcome errorClass current) := by
  constructor
  · refine List.map_congr_left fun stored _ => ?_
    simp [settledRow]
  · refine List.map_congr_left fun attempt _ => ?_
    simp [closedAttempt]

/-- The job that `_finish` is about, if the caller may finish it. -/
def Held (db : Db) (jobId workerId : String) (row : JobRow) : Prop :=
  row ∈ db.jobs ∧ row.jobId = jobId ∧ row.state = .processing ∧ row.leaseOwner = some workerId

theorem finish_cases {jobId workerId : String} {success : Bool} {errorClass : Option String}
    {now : Datetime} {db next : Db} {result : Except PyError String}
    (call : finish jobId workerId success errorClass now db = (result, next)) :
    (next = db ∧ ((result = .error ownershipError ∧ ∀ row, ¬ Held db jobId workerId row) ∨
        (result = .error .overflowError ∧ timestamp now = .error .overflowError ∧
          ∃ row, Held db jobId workerId row))) ∨
      ∃ row current, Finished jobId workerId success errorClass now row current db next ∧
        result = .ok (finishOutcome row success).1.value := by
  cases looked : db.jobs.find? fun row => row.jobId = jobId with
  | none =>
      have absent := Table.find?_none.mp looked
      have refused : finish jobId workerId success errorClass now db =
          (.error ownershipError, db) := by
        simp only [finish, writeTransaction, looked]
      rw [refused] at call
      obtain ⟨rfl, rfl⟩ := Prod.mk.inj call
      refine Or.inl ⟨rfl, Or.inl ⟨rfl, fun row held => ?_⟩⟩
      exact absent row held.1 (by simpa using held.2.1)
  | some row =>
      obtain ⟨member, selected⟩ := Table.find?_some looked
      have sameId : row.jobId = jobId := by simpa using selected
      by_cases refusal : row.state ≠ .processing ∨ row.leaseOwner ≠ some workerId
      · have refused : finish jobId workerId success errorClass now db =
            (.error ownershipError, db) := by
          simp only [finish, writeTransaction, looked, if_pos refusal]
        rw [refused] at call
        obtain ⟨rfl, rfl⟩ := Prod.mk.inj call
        refine Or.inl ⟨rfl, Or.inl ⟨rfl, fun other held => ?_⟩⟩
        have same : other = row := job_eq_of_id held.1 member (held.2.1.trans sameId.symm)
        rw [same] at held
        exact refusal.elim (fun wrong => wrong held.2.2.1) (fun wrong => wrong held.2.2.2)
      · have held : row.state = .processing ∧ row.leaseOwner = some workerId := by
          simpa [not_or] using refusal
        cases clock : timestamp now with
        | error raised =>
            have overflow : raised = .overflowError := timestamp_eq_error clock
            have failed : finish jobId workerId success errorClass now db =
                (.error raised, db) := by
              simp only [finish, writeTransaction, looked, if_neg refusal, clock, bind,
                Except.bind]
            rw [failed] at call
            obtain ⟨rfl, rfl⟩ := Prod.mk.inj call
            subst overflow
            exact Or.inl ⟨rfl, Or.inr ⟨rfl, rfl, row, member, sameId, held⟩⟩
        | ok current =>
            have done : finish jobId workerId success errorClass now db =
                (.ok (finishOutcome row success).1.value,
                  settleJob db row (finishOutcome row success).1 (finishOutcome row success).2
                    errorClass current) := by
              simp only [finish, writeTransaction, looked, if_neg refusal, clock, bind,
                Except.bind, pure, Except.pure]
            rw [done] at call
            obtain ⟨rfl, rfl⟩ := Prod.mk.inj call
            obtain ⟨jobRows, attemptRows⟩ := settleJob_rows db row (finishOutcome row success).1
              (finishOutcome row success).2 errorClass current
            exact Or.inr ⟨row, current,
              { clock := clock
                member := member
                sameId := sameId
                held := held
                jobs := jobRows
                attempts := attemptRows
                frame := rfl }, rfl⟩

/-- A successful `succeed` finished the caller's attempt. -/
theorem succeed_ok {jobId workerId : String} {now : Datetime} {db next : Db}
    (call : succeed jobId workerId now db = (.ok (), next)) :
    ∃ row current, Finished jobId workerId true none now row current db next := by
  simp only [succeed] at call
  cases finished : finish jobId workerId true none now db with
  | mk result later =>
      rw [finished] at call
      obtain ⟨isOk, rfl⟩ := Prod.mk.inj call
      rcases finish_cases finished with
        ⟨_, ⟨rfl, _⟩ | ⟨rfl, _⟩⟩ | ⟨row, current, effect, _⟩
      · cases isOk
      · cases isOk
      · exact ⟨row, current, effect⟩

/-! ## Recovery -/

/-- A row after recovery. -/
def recoveredRow (current : String) (row : JobRow) : JobRow :=
  if Expired current row then row.settle (recoveredState row) (some "abandoned_lease") current
  else row

/-- The attempt belongs to a row of the list and carries its number. -/
def IsCurrentAttempt (rows : List JobRow) (attempt : AttemptRow) : Prop :=
  ∃ row ∈ rows, attempt.jobId = row.jobId ∧ attempt.attemptNumber = row.attemptCount

instance (rows : List JobRow) (attempt : AttemptRow) : Decidable (IsCurrentAttempt rows attempt) :=
  inferInstanceAs (Decidable (∃ _ ∈ rows, _))

/-- An attempt after the recovery of the listed rows. -/
def abandonedAttempt (rows : List JobRow) (current : String) (attempt : AttemptRow) : AttemptRow :=
  if IsCurrentAttempt rows attempt then attempt.close .abandoned (some "abandoned_lease") current
  else attempt

/-- The rows that one call of `recover_abandoned` selects. -/
def expiredRows (current : String) (db : Db) : List JobRow :=
  db.jobs.rows.filter fun row => Expired current row

theorem mem_expiredRows {current : String} {db : Db} {row : JobRow} :
    row ∈ expiredRows current db ↔ row ∈ db.jobs ∧ Expired current row := by
  simp [expiredRows]

/-- The effect of `recover_abandoned` when it returns. -/
structure Recovered (now : Datetime) (current : String) (counts : RecoveryCounts)
    (db next : Db) : Prop where
  clock : timestamp now = .ok current
  jobs : next.jobs.rows = db.jobs.rows.map (recoveredRow current)
  attempts : next.attempts.rows =
    db.attempts.rows.map (abandonedAttempt (expiredRows current db) current)
  recovered : counts.recovered =
    (expiredRows current db).countP fun row => row.attemptCount < row.maxAttempts
  exhausted : counts.exhausted =
    (expiredRows current db).countP fun row => row.maxAttempts ≤ row.attemptCount
  frame : next = { db with jobs := next.jobs, attempts := next.attempts }

theorem recoveredState_eq_pending {row : JobRow} :
    recoveredState row = .pending ↔ row.attemptCount < row.maxAttempts := by
  unfold recoveredState
  split
  · simp only [reduceCtorEq, false_iff]
    omega
  · simp only [true_iff]
    omega

/-- The loop settles a stored row once, whichever of the listed rows it is. -/
theorem foldl_settledRow {current : String} {errorClass : Option String} {state : JobState}
    {jobId : String} (rows : List JobRow)
    (single : ∀ row ∈ rows, row.jobId = jobId → recoveredState row = state) (stored : JobRow)
    (sameId : stored.jobId = jobId) :
    rows.foldl (fun stored row => settledRow row (recoveredState row) errorClass current stored)
        stored =
      if ∃ row ∈ rows, row.jobId = jobId then stored.settle state errorClass current
      else stored := by
  induction rows generalizing stored with
  | nil => simp
  | cons row rest inductionHypothesis =>
      have restSingle : ∀ row ∈ rest, row.jobId = jobId → recoveredState row = state :=
        fun row member => single row (List.mem_cons_of_mem _ member)
      rw [List.foldl_cons]
      by_cases own : row.jobId = jobId
      · have settled : settledRow row (recoveredState row) errorClass current stored =
            stored.settle state errorClass current := by
          rw [settledRow, if_pos (sameId.trans own.symm), single row List.mem_cons_self own]
        have present : ∃ other ∈ row :: rest, other.jobId = jobId := ⟨row, List.mem_cons_self, own⟩
        rw [settled, if_pos present,
          inductionHypothesis restSingle (stored.settle state errorClass current) sameId]
        split <;> rfl
      · have skipped : settledRow row (recoveredState row) errorClass current stored = stored := by
          rw [settledRow, if_neg fun same => own (same.symm.trans sameId)]
        rw [skipped, inductionHypothesis restSingle _ sameId]
        simp [own]

theorem foldl_closedAttempt {current : String} {errorClass : Option String}
    {outcome : AttemptOutcome} (rows : List JobRow) (attempt : AttemptRow) :
    rows.foldl (fun attempt row => closedAttempt row outcome errorClass current attempt) attempt =
      if IsCurrentAttempt rows attempt then attempt.close outcome errorClass current
      else attempt := by
  induction rows generalizing attempt with
  | nil => simp [IsCurrentAttempt]
  | cons row rest inductionHypothesis =>
      rw [List.foldl_cons, inductionHypothesis]
      have split : IsCurrentAttempt (row :: rest) attempt ↔
          (attempt.jobId = row.jobId ∧ attempt.attemptNumber = row.attemptCount) ∨
            IsCurrentAttempt rest attempt := by
        simp [IsCurrentAttempt]
      by_cases own : attempt.jobId = row.jobId ∧ attempt.attemptNumber = row.attemptCount
      · have closed : closedAttempt row outcome errorClass current attempt =
            attempt.close outcome errorClass current := if_pos own
        rw [closed, if_pos (split.mpr (Or.inl own))]
        split_ifs <;> rfl
      · have skipped : closedAttempt row outcome errorClass current attempt = attempt :=
          if_neg own
        rw [skipped]
        simp only [split, own, false_or]

/-- The tables and the counts after the loop, for any list of rows. -/
theorem foldl_recoverRow (current : String) (rows : List JobRow) (db : Db)
    (counts : RecoveryCounts) :
    let done := rows.foldl (recoverRow current) (db, counts)
    done.1.jobs.rows = db.jobs.rows.map (fun stored => rows.foldl (fun stored row =>
        settledRow row (recoveredState row) (some "abandoned_lease") current stored) stored) ∧
      done.1.attempts.rows = db.attempts.rows.map (fun attempt => rows.foldl (fun attempt row =>
        closedAttempt row .abandoned (some "abandoned_lease") current attempt) attempt) ∧
      done.2.recovered = counts.recovered +
        rows.countP (fun row => row.attemptCount < row.maxAttempts) ∧
      done.2.exhausted = counts.exhausted +
        rows.countP (fun row => row.maxAttempts ≤ row.attemptCount) ∧
      done.1 = { db with jobs := done.1.jobs, attempts := done.1.attempts } := by
  induction rows generalizing db counts with
  | nil => exact ⟨by simp, by simp, by simp, by simp, rfl⟩
  | cons row rest inductionHypothesis =>
      obtain ⟨jobRows, attemptRows⟩ := settleJob_rows db row (recoveredState row) .abandoned
        (some "abandoned_lease") current
      by_cases left : row.attemptCount < row.maxAttempts
      · have step : recoverRow current (db, counts) row =
            (settleJob db row (recoveredState row) .abandoned (some "abandoned_lease") current,
              { counts with recovered := counts.recovered + 1 }) := by
          simp [recoverRow, recoveredState_eq_pending.mpr left]
        obtain ⟨jobs, attempts, recovered, exhausted, frame⟩ := inductionHypothesis
          (settleJob db row (recoveredState row) .abandoned (some "abandoned_lease") current)
          { counts with recovered := counts.recovered + 1 }
        simp only [List.foldl_cons, step]
        refine ⟨?_, ?_, ?_, ?_, ?_⟩
        · rw [jobs, jobRows, List.map_map]
          rfl
        · rw [attempts, attemptRows, List.map_map]
          rfl
        · rw [recovered, List.countP_cons_of_pos (by simpa using left)]
          dsimp only
          omega
        · rw [exhausted, List.countP_cons_of_neg (by simpa using left)]
        · rw [frame]
          rfl
      · have step : recoverRow current (db, counts) row =
            (settleJob db row (recoveredState row) .abandoned (some "abandoned_lease") current,
              { counts with exhausted := counts.exhausted + 1 }) := by
          have spent : recoveredState row ≠ .pending := mt recoveredState_eq_pending.mp left
          simp [recoverRow, spent]
        obtain ⟨jobs, attempts, recovered, exhausted, frame⟩ := inductionHypothesis
          (settleJob db row (recoveredState row) .abandoned (some "abandoned_lease") current)
          { counts with exhausted := counts.exhausted + 1 }
        simp only [List.foldl_cons, step]
        refine ⟨?_, ?_, ?_, ?_, ?_⟩
        · rw [jobs, jobRows, List.map_map]
          rfl
        · rw [attempts, attemptRows, List.map_map]
          rfl
        · rw [recovered, List.countP_cons_of_neg (by simpa using left)]
        · rw [exhausted, List.countP_cons_of_pos (by simpa using left)]
          dsimp only
          omega
        · rw [frame]
          rfl

/-- The loop of `recover_abandoned` does all its updates at once. -/
theorem recoverAbandoned_cases {now : Datetime} {db next : Db}
    {result : Except PyError RecoveryCounts}
    (call : recoverAbandoned now db = (result, next)) :
    (result = .error .overflowError ∧ timestamp now = .error .overflowError ∧ next = db) ∨
      ∃ current counts, Recovered now current counts db next ∧ result = .ok counts := by
  cases clock : timestamp now with
  | error raised =>
      have overflow : raised = .overflowError := timestamp_eq_error clock
      simp only [recoverAbandoned, writeTransaction, clock, bind, Except.bind] at call
      obtain ⟨rfl, rfl⟩ := Prod.mk.inj call
      subst overflow
      exact Or.inl ⟨rfl, rfl, rfl⟩
  | ok current =>
      simp only [recoverAbandoned, writeTransaction, clock, bind, Except.bind, pure,
        Except.pure] at call
      obtain ⟨rfl, rfl⟩ := Prod.mk.inj call
      obtain ⟨jobs, attempts, recovered, exhausted, frame⟩ := foldl_recoverRow current
        (expiredRows current db) db { recovered := 0, exhausted := 0 }
      refine Or.inr ⟨current, _, ?_, rfl⟩
      exact
        { clock := clock
          jobs := by
            refine jobs.trans (List.map_congr_left fun stored member => ?_)
            have single : ∀ row ∈ expiredRows current db, row.jobId = stored.jobId →
                recoveredState row = recoveredState stored := fun row selected sameId =>
              congrArg recoveredState
                (job_eq_of_id (mem_expiredRows.mp selected).1 member sameId)
            rw [foldl_settledRow _ single stored rfl, recoveredRow]
            have selected : (∃ row ∈ expiredRows current db, row.jobId = stored.jobId) ↔
                Expired current stored := by
              constructor
              · rintro ⟨row, selected, sameId⟩
                obtain ⟨rowMember, expired⟩ := mem_expiredRows.mp selected
                rwa [← job_eq_of_id rowMember member sameId]
              · intro expired
                exact ⟨stored, mem_expiredRows.mpr ⟨member, expired⟩, rfl⟩
            simp only [selected]
          attempts := attempts.trans
            (List.map_congr_left fun attempt _ => foldl_closedAttempt _ attempt)
          recovered := recovered.trans (Nat.zero_add _)
          exhausted := exhausted.trans (Nat.zero_add _)
          frame := frame }

end ScraperProject.Orchestration
