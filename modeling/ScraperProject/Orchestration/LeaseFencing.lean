import ScraperProject.Orchestration.QueueHistory

/-!
Contract: what a lease holder's call can finish.

Owns calls made in the name of a lease, the fencing property of such a call,
and the exact states in which it holds. The ownership test of `_finish`
compares the state and the owner name and not the attempt number, so a holder
whose lease was recovered can finish a later attempt of a worker of its name.

Does not own the invariant of the queue.
-/

namespace ScraperProject.Orchestration

open Foundation
open Database

/-! ## Calls in the name of a lease -/

/-- A call of a process: any call, or a `succeed` or `fail` of the lease that
the process was handed. -/
inductive ProcessCall where
  | queue (call : QueueCall)
  | succeedLease (lease : JobLease) (now : Datetime)
  | failLease (lease : JobLease) (errorClass : String) (now : Datetime)

def ProcessCall.call : ProcessCall → QueueCall
  | .queue call => call
  | .succeedLease lease now => .succeed lease.jobId lease.leaseOwner now
  | .failLease lease errorClass now => .fail lease.jobId lease.leaseOwner errorClass now

/-- The lease in whose name the call is made, and its clock. -/
def ProcessCall.holder : ProcessCall → Option (JobLease × Datetime)
  | .queue _ => none
  | .succeedLease lease now => some (lease, now)
  | .failLease lease _ now => some (lease, now)

def performCall (call : ProcessCall) (db : Db) : Except PyError QueueReply × Db :=
  perform call.call db

/-! ## Fencing -/

/-- Exactly the attempt of the lease is finished. -/
structure FinishesAttempt (lease : JobLease) (db next : Db) : Prop where
  opened : ∃ attempt ∈ attemptsOf db lease.jobId,
    attempt.attemptNumber = lease.attemptNumber ∧ IsOpen attempt
  closed : ∃ attempt ∈ attemptsOf next lease.jobId,
    attempt.attemptNumber = lease.attemptNumber ∧ IsClosed attempt
  otherAttempts : ∀ attempt : AttemptRow,
    ¬ (attempt.jobId = lease.jobId ∧ attempt.attemptNumber = lease.attemptNumber) →
      (attempt ∈ next.attempts ↔ attempt ∈ db.attempts)
  released : ∃ row ∈ next.jobs, row.jobId = lease.jobId ∧ row.state ≠ .processing
  otherJobs : ∀ row : JobRow, row.jobId ≠ lease.jobId → (row ∈ next.jobs ↔ row ∈ db.jobs)

/-- The call finishes exactly the attempt of the lease, or it raises
`QueueTransitionError` and changes nothing. -/
def Fenced (lease : JobLease) (db : Db) (outcome : Except PyError QueueReply × Db) : Prop :=
  ((∃ reply, outcome.1 = .ok reply) ∧ FinishesAttempt lease db outcome.2) ∨
    ((∃ message, outcome.1 = .error (.queueTransition message)) ∧ outcome.2 = db)

/-- If a worker of the holder's name holds the job, it does so under the number
of the lease, and the clock is representable at UTC. -/
def Unusurped (lease : JobLease) (now : Datetime) (db : Db) : Prop :=
  ∀ row, Held db lease.jobId lease.leaseOwner row →
    row.attemptCount = lease.attemptNumber ∧ ∃ current, timestamp now = .ok current

/-! ## One call -/

theorem closedAttempt_mem_iff {db next : Db} {row : JobRow} {outcome : AttemptOutcome}
    {errorClass : Option String} {current : String} {attempt : AttemptRow}
    (rows : next.attempts.rows =
      db.attempts.rows.map (closedAttempt row outcome errorClass current))
    (other : ¬ (attempt.jobId = row.jobId ∧ attempt.attemptNumber = row.attemptCount)) :
    attempt ∈ next.attempts ↔ attempt ∈ db.attempts := by
  rw [← Table.mem_rows, rows, List.mem_map]
  constructor
  · rintro ⟨before, listed, same⟩
    by_cases own : before.jobId = row.jobId ∧ before.attemptNumber = row.attemptCount
    · rw [closedAttempt, if_pos own] at same
      rw [← same] at other
      exact absurd own other
    · rw [closedAttempt, if_neg own] at same
      exact same ▸ listed
  · intro listed
    exact ⟨attempt, listed, if_neg other⟩

theorem settledRow_mem_iff {db next : Db} {row stored : JobRow} {state : JobState}
    {errorClass : Option String} {current : String}
    (rows : next.jobs.rows = db.jobs.rows.map (settledRow row state errorClass current))
    (other : stored.jobId ≠ row.jobId) : stored ∈ next.jobs ↔ stored ∈ db.jobs := by
  rw [← Table.mem_rows, rows, List.mem_map]
  constructor
  · rintro ⟨before, listed, same⟩
    by_cases own : before.jobId = row.jobId
    · rw [settledRow, if_pos own] at same
      rw [← same] at other
      exact absurd own other
    · rw [settledRow, if_neg own] at same
      exact same ▸ listed
  · intro listed
    exact ⟨stored, listed, if_neg other⟩

/-- A finished call of the current holder finishes the attempt of its lease. -/
theorem Finished.finishesAttempt {lease : JobLease} {current : String} {success : Bool}
    {errorClass : Option String} {now : Datetime} {row : JobRow} {db next : Db}
    (finished : Finished lease.jobId lease.leaseOwner success errorClass now row current db next)
    (invariant : QueueInvariant db) (own : row.attemptCount = lease.attemptNumber) :
    FinishesAttempt lease db next := by
  have sound := invariant.sound row finished.member
  have started := sound.started (by simp [jobView, finished.held.1])
  obtain ⟨attempt, member, number⟩ := sound.last_attempt started
  have sameId := finished.sameId
  refine ⟨⟨attempt, ?_, number.trans own, ?_⟩, ?_, ?_, ?_, ?_⟩
  · rwa [← sameId]
  · exact (sound.current attempt member finished.held.1 number).1
  · have listed := mem_attemptsOf.mp member
    have ends : closedAttempt row (finishOutcome row success).2 errorClass current attempt =
        attempt.close (finishOutcome row success).2 errorClass current :=
      if_pos ⟨listed.2, number⟩
    refine ⟨attempt.close (finishOutcome row success).2 errorClass current, ?_,
      number.trans own, rfl, rfl⟩
    refine mem_attemptsOf.mpr ⟨?_, listed.2.trans sameId⟩
    rw [← Table.mem_rows, finished.attempts, ← ends]
    exact List.mem_map_of_mem listed.1
  · intro other otherNumber
    refine closedAttempt_mem_iff finished.attempts fun both => otherNumber ?_
    exact ⟨both.1.trans sameId, both.2.trans own⟩
  · refine ⟨_, finished.stored, sameId, ?_⟩
    exact (finishOutcome_settles row success).released
  · intro other apart
    exact settledRow_mem_iff finished.jobs fun same => apart (same.trans sameId)

/-- The one call that both holder calls make. -/
theorem fenced_finish_iff {lease : JobLease} {success : Bool} {errorClass : Option String}
    {now : Datetime} {db : Db} (invariant : QueueInvariant db)
    {outcome : Except PyError QueueReply × Db} {reply : String → QueueReply}
    (calls : outcome = ((finish lease.jobId lease.leaseOwner success errorClass now db).1.map reply,
      (finish lease.jobId lease.leaseOwner success errorClass now db).2)) :
    Fenced lease db outcome ↔ Unusurped lease now db := by
  subst calls
  obtain ⟨same, ⟨result, unheld⟩ | ⟨result, overflow, row, held⟩⟩ |
    ⟨row, current, finished, result⟩ := finish_cases
      (Prod.mk.eta (p := finish lease.jobId lease.leaseOwner success errorClass now db)).symm
  · constructor
    · intro _ row held
      exact absurd held (unheld row)
    · intro _
      refine Or.inr ⟨⟨"worker does not own an active lease for this job", ?_⟩, same⟩
      dsimp only
      rw [result]
      rfl
  · constructor
    · rintro (⟨⟨_, returned⟩, _⟩ | ⟨⟨_, raised⟩, _⟩)
      · dsimp only at returned
        rw [result] at returned
        cases returned
      · dsimp only at raised
        rw [result] at raised
        cases raised
    · intro unusurped
      obtain ⟨_, current, clock⟩ := unusurped row held
      rw [overflow] at clock
      cases clock
  · have held : Held db lease.jobId lease.leaseOwner row :=
      ⟨finished.member, finished.sameId, finished.held⟩
    constructor
    · rintro (⟨_, finishes⟩ | ⟨⟨_, raised⟩, _⟩)
      · intro other otherHeld
        have same : other = row := job_eq_of_id otherHeld.1 held.1
          (otherHeld.2.1.trans held.2.1.symm)
        subst same
        refine ⟨?_, current, finished.clock⟩
        -- Only the attempt with the number of the row is open before the call.
        obtain ⟨attempt, listed, number, opened⟩ := finishes.opened
        by_contra apart
        have own : attempt ∈ (jobView db other).attempts := by
          rwa [jobView, finished.sameId]
        have closed := (invariant.sound other finished.member).closed attempt own
          fun both => apart (both.2.symm.trans number)
        exact closed.not_open opened
      · dsimp only at raised
        rw [result] at raised
        cases raised
    · intro unusurped
      refine Or.inl ⟨⟨reply (finishOutcome row success).1.value, ?_⟩, ?_⟩
      · dsimp only
        rw [result]
        rfl
      · exact finished.finishesAttempt invariant (unusurped row held).1

/-- A holder's call is fenced exactly when the lease is not usurped. -/
theorem fenced_iff_unusurped {call : ProcessCall} {lease : JobLease} {now : Datetime} {db : Db}
    (invariant : QueueInvariant db) (holder : call.holder = some (lease, now)) :
    Fenced lease db (performCall call db) ↔ Unusurped lease now db := by
  cases call with
  | queue call => cases holder
  | succeedLease own clock =>
      cases holder
      have calls : performCall (.succeedLease lease now) db =
          ((finish lease.jobId lease.leaseOwner true none now db).1.map fun _ => QueueReply.done,
            (finish lease.jobId lease.leaseOwner true none now db).2) := by
        simp only [performCall, ProcessCall.call, perform, succeed]
        cases result : (finish lease.jobId lease.leaseOwner true none now db).1 <;>
          simp [Except.map]
      exact fenced_finish_iff invariant calls
  | failLease own errorClass clock =>
      cases holder
      exact fenced_finish_iff invariant rfl

/-! ## Runs of many processes -/

theorem performCall_keeps (call : ProcessCall) (db : Db) (invariant : QueueInvariant db) :
    QueueInvariant (performCall call db).2 :=
  perform_keeps call.call db invariant

/-- A property of every holder's call of a run and the state it meets. -/
def AtHolderCalls (start : Db) (run : List ProcessCall)
    (property : JobLease → Datetime → ProcessCall → Db → Prop) : Prop :=
  ∀ earlier call later, run = earlier ++ call :: later → ∀ lease now,
    call.holder = some (lease, now) →
      property lease now call (History.after performCall start earlier)

theorem AtHolderCalls.of_snoc {start : Db} {run : List ProcessCall} {last : ProcessCall}
    {property : JobLease → Datetime → ProcessCall → Db → Prop}
    (all : AtHolderCalls start (run ++ [last]) property) : AtHolderCalls start run property := by
  intro earlier call later split
  exact all earlier call (later ++ [last]) (by simp [split])

theorem AtHolderCalls.snoc {start : Db} {run : List ProcessCall} {last : ProcessCall}
    {property : JobLease → Datetime → ProcessCall → Db → Prop}
    (all : AtHolderCalls start run property)
    (final : ∀ lease now, last.holder = some (lease, now) →
      property lease now last (History.after performCall start run)) :
    AtHolderCalls start (run ++ [last]) property := by
  intro earlier call later split lease now holder
  rcases List.eq_nil_or_concat later with rfl | ⟨front, back, rfl⟩
  · obtain ⟨rfl, same⟩ := List.append_inj' split rfl
    cases same
    exact final lease now holder
  · have inner : run ++ [last] = (earlier ++ call :: front) ++ [back] := by simp [split]
    exact all earlier call front (List.append_inj' inner rfl).1 lease now holder

theorem AtHolderCalls.of_queue {start : Db} {run : List ProcessCall}
    {property : JobLease → Datetime → ProcessCall → Db → Prop}
    (anonymous : ∀ call ∈ run, call.holder = none) : AtHolderCalls start run property := by
  intro earlier call later split lease now holder
  have member : call ∈ run := by simp [split]
  rw [anonymous call member] at holder
  cases holder

/-- The attempt of the lease was closed as abandoned. -/
def Abandoned (lease : JobLease) (db : Db) : Prop :=
  ∃ attempt ∈ attemptsOf db lease.jobId,
    attempt.attemptNumber = lease.attemptNumber ∧ attempt.outcome = some .abandoned

/-- The event is a call in the name of the lease that returned. -/
def finishes (lease : JobLease) (event : ProcessCall × Except PyError QueueReply) : Bool :=
  (event.1.holder.map Prod.fst) = some lease ∧ event.2.toOption.isSome

def timesFinished (lease : JobLease) (past : List (ProcessCall × Except PyError QueueReply)) :
    Nat :=
  past.countP (finishes lease)

/-- The attempt of the lease has ended. -/
def Ended (lease : JobLease) (db : Db) : Prop :=
  ∃ attempt ∈ attemptsOf db lease.jobId,
    attempt.attemptNumber = lease.attemptNumber ∧ attempt.finishedAt.isSome

theorem Ended.later {lease : JobLease} {db next : Db} (ended : Ended lease db)
    (later : LaterThan db next) : Ended lease next := by
  obtain ⟨attempt, member, number, finished⟩ := ended
  obtain ⟨listed, sameJob⟩ := mem_attemptsOf.mp member
  exact ⟨attempt, mem_attemptsOf.mpr ⟨later.ended attempt listed finished, sameJob⟩, number,
    finished⟩

/-- A call that finishes the attempt of a lease finds it open. -/
theorem FinishesAttempt.not_ended {lease : JobLease} {db next : Db}
    (finishes : FinishesAttempt lease db next) : ¬ Ended lease db := by
  rintro ⟨attempt, member, number, finished⟩
  obtain ⟨opened, openedMember, openedNumber, isOpen⟩ := finishes.opened
  rw [attempt_eq_of_number member openedMember (number.trans openedNumber.symm), isOpen.1]
    at finished
  cases finished

/-- Each lease is finished at most once when no lease is usurped. -/
theorem timesFinished_le_one {start : Db} (empty : EmptyQueue start) (run : List ProcessCall)
    (unusurped : AtHolderCalls start run fun lease now _ db => Unusurped lease now db)
    (lease : JobLease) : timesFinished lease (History.events performCall start run) ≤ 1 ∧
      (timesFinished lease (History.events performCall start run) = 1 →
        Ended lease (History.after performCall start run)) := by
  induction run using List.reverseRecOn with
  | nil => simp [timesFinished]
  | append_singleton run last inductionHypothesis =>
      obtain ⟨bounded, ended⟩ := inductionHypothesis unusurped.of_snoc
      have invariant : QueueInvariant (History.after performCall start run) :=
        History.after_invariant performCall performCall_keeps empty.invariant run
      have later : LaterThan (History.after performCall start run)
          (performCall last (History.after performCall start run)).2 :=
        (perform_effect last.call _).laterThan invariant
      rw [History.events_snoc, History.after_snoc]
      simp only [timesFinished, List.countP_append, List.countP_cons, List.countP_nil, Nat.zero_add]
        at bounded ended ⊢
      by_cases own : finishes lease (last, (performCall last
          (History.after performCall start run)).1) = true
      · rw [if_pos own]
        simp only [finishes, Option.map_eq_some_iff, Prod.exists, exists_and_right,
          exists_eq_right, decide_eq_true_eq] at own
        obtain ⟨⟨now, holder⟩, returned⟩ := own
        have free := unusurped run last [] rfl lease now holder
        rcases (fenced_iff_unusurped invariant holder).mpr free with
          ⟨_, finishing⟩ | ⟨⟨message, raised⟩, _⟩
        · have first : ¬ Ended lease (History.after performCall start run) :=
            finishing.not_ended
          have zero : (History.events performCall start run).countP (finishes lease) ≠ 1 :=
            fun one => first (ended one)
          refine ⟨by omega, fun _ => ?_⟩
          obtain ⟨attempt, member, number, closed⟩ := finishing.closed
          exact ⟨attempt, member, number, closed.1⟩
        · rw [raised] at returned
          cases returned
      · rw [if_neg own]
        exact ⟨by omega, fun one => (ended (by omega)).later later⟩

/-- Lease fencing: a holder's call is fenced exactly when its lease is not
usurped; and in a run without usurped leases an abandoned holder changes
nothing and each lease is finished at most once. -/
theorem lease_fencing (start : Db) (empty : EmptyQueue start) (run : List ProcessCall) :
    AtHolderCalls start run (fun lease now call db =>
        Fenced lease db (performCall call db) ↔ Unusurped lease now db) ∧
      (AtHolderCalls start run (fun lease now _ db => Unusurped lease now db) →
        AtHolderCalls start run (fun lease _ call db =>
            Abandoned lease db → (performCall call db).2 = db) ∧
          ∀ lease, timesFinished lease (History.events performCall start run) ≤ 1) := by
  have reachable : ∀ earlier, QueueInvariant (History.after performCall start earlier) :=
    fun earlier => History.after_invariant performCall performCall_keeps empty.invariant earlier
  refine ⟨fun earlier call later _ lease now holder =>
    fenced_iff_unusurped (reachable earlier) holder, fun unusurped => ⟨?_, fun lease =>
      (timesFinished_le_one empty run unusurped lease).1⟩⟩
  rintro earlier call later split lease now holder ⟨attempt, member, number, abandoned⟩
  have free := unusurped earlier call later split lease now holder
  rcases (fenced_iff_unusurped (reachable earlier) holder).mpr free with
    ⟨_, finishing⟩ | ⟨_, same⟩
  · obtain ⟨opened, openedMember, openedNumber, isOpen⟩ := finishing.opened
    rw [attempt_eq_of_number member openedMember (number.trans openedNumber.symm), isOpen.2]
      at abandoned
    cases abandoned
  · exact same

/-! ## The stale holder of a shared worker name -/

/-- The first lease of the sample job. -/
def staleLease : JobLease :=
  { jobId := "job-1"
    sourceName := "synthetic_fixture"
    sourceListingKey := "listing-1"
    reasonCode := "NEW_LISTING"
    attemptNumber := 1
    maxAttempts := 2
    leaseOwner := "synthetic-worker"
    leaseExpiresAt := "2026-08-08T10:00:01Z" }

/-- Two processes of one worker name: the first lease expires and is recovered,
the second process leases the job, and the first process reports success. -/
def staleCalls : List ProcessCall :=
  [ .queue (.createIdempotent (sampleJob "job-1" "listing-1") sampleMorning sampleMorning),
    .queue (.leaseNext "synthetic-worker" 1 (sampleLater 0) "attempt-1"),
    .queue (.recoverAbandoned (sampleLater 2000000)),
    .queue (.leaseNext "synthetic-worker" 30 (sampleLater 2000000) "attempt-2") ]

def staleState : Db := History.after performCall sampleStart staleCalls

def staleSuccess : ProcessCall := .succeedLease staleLease (sampleLater 3000000)

/-- The call of the first holder, whose attempt was abandoned, succeeds. -/
theorem stale_holder_is_not_fenced :
    (History.events performCall sampleStart staleCalls).any
        (fun event => match event.2 with
          | .ok (.lease (some lease)) => lease = staleLease
          | _ => false) ∧
      (performCall staleSuccess staleState).1.toOption.isSome ∧
      ¬ Fenced staleLease staleState (performCall staleSuccess staleState) := by
  have granted : (History.events performCall sampleStart staleCalls).any
      (fun event => match event.2 with
        | .ok (.lease (some lease)) => lease = staleLease
        | _ => false) := by decide +kernel
  have returned : (performCall staleSuccess staleState).1.toOption.isSome := by decide +kernel
  have ended : ∀ attempt ∈ attemptsOf staleState staleLease.jobId,
      attempt.attemptNumber = staleLease.attemptNumber → attempt.outcome = some .abandoned := by
    decide +kernel
  refine ⟨granted, returned, ?_⟩
  rintro (⟨_, finishing⟩ | ⟨⟨message, raised⟩, _⟩)
  · obtain ⟨attempt, member, number, opened⟩ := finishing.opened
    have unfinished := opened.2
    rw [ended attempt member number] at unfinished
    cases unfinished
  · rw [raised] at returned
    cases returned

/-- The lease of the second process. -/
def freshLease : JobLease :=
  { staleLease with attemptNumber := 2, leaseExpiresAt := "2026-08-08T10:00:32Z" }

/-- The run in which the second process finishes its own lease. -/
def freshRun : List ProcessCall :=
  staleCalls ++ [.succeedLease freshLease (sampleLater 3000000)]

theorem freshRun_unusurped :
    AtHolderCalls sampleStart freshRun fun lease now _ db => Unusurped lease now db := by
  refine AtHolderCalls.snoc (AtHolderCalls.of_queue (by decide)) ?_
  rintro lease now holder row ⟨member, _⟩
  cases holder
  have numbered : ∀ row ∈ (History.after performCall sampleStart staleCalls).jobs.rows,
      row.attemptCount = freshLease.attemptNumber := by decide +kernel
  exact ⟨numbered row member, "2026-08-08T10:00:03Z", by decide +kernel⟩

theorem lease_fencing_of_fresh_run :
    timesFinished freshLease (History.events performCall sampleStart freshRun) = 1 ∧
      ∀ lease, timesFinished lease (History.events performCall sampleStart freshRun) ≤ 1 :=
  ⟨by decide +kernel,
    ((lease_fencing sampleStart ⟨rfl, rfl⟩ freshRun).2 freshRun_unusurped).2⟩

end ScraperProject.Orchestration
