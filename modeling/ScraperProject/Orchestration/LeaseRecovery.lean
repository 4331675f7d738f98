import ScraperProject.Orchestration.QueueHistory

/-!
Contract: which leases `recover_abandoned` takes away.

Owns the expiry of a lease as a point in time (the clock of the `lease_next`
call plus its length), the result that recovery should have by those points in
time, and the exact states in which it has that result. The stored texts order
a whole second after every fraction of it, so the result is wrong for a lease
that expires in the second of the clock when exactly one of the two is whole.

Does not own the order of the texts, which is a fact of the library.
-/

namespace ScraperProject.Orchestration

open Foundation
open Foundation.IsoText
open Database

/-! ## Expiry as a point in time -/

/-- The past of a run: calls and replies. -/
abbrev Past : Type := List (QueueCall × Except PyError QueueReply)

/-- The instant at which a lease of this call expires, in microseconds. -/
def expiryOfCall : QueueCall → Option Int
  | .leaseNext _ leaseSeconds now _ => some (now.instant + leaseSeconds * 1000000)
  | _ => none

/-- The expiry of the last lease of a job. -/
def leaseExpiry (jobId : String) (past : Past) : Option Int :=
  (past.filter fun event => handsOut jobId event.2).getLast?.bind fun event =>
    expiryOfCall event.1

theorem leaseExpiry_snoc_of_not (jobId : String) (past : Past) (call : QueueCall)
    (result : Except PyError QueueReply) (silent : handsOut jobId result = false) :
    leaseExpiry jobId (past ++ [(call, result)]) = leaseExpiry jobId past := by
  simp [leaseExpiry, silent]

theorem leaseExpiry_snoc_of_handsOut (jobId : String) (past : Past) (call : QueueCall)
    (result : Except PyError QueueReply) (given : handsOut jobId result = true) :
    leaseExpiry jobId (past ++ [(call, result)]) = expiryOfCall call := by
  simp [leaseExpiry, given]

/-- Every processing job stores the text of its expiry. -/
structure ExpiryStored (past : Past) (db : Db) : Prop where
  invariant : QueueInvariant db
  stored : ∀ row ∈ db.jobs, row.state = .processing → ∃ expiry : Instant,
    row.leaseExpiresAt = some expiry.text ∧
      leaseExpiry row.jobId past = some (expiry.micros : Int)

/-- The expiry that a lease stores is the one its call asks for. -/
theorem Leased.expiry_text {workerId jobAttemptId current expires : String} {leaseSeconds : Int}
    {now : Datetime} {row : JobRow} {db next : Db}
    (leased : Leased workerId leaseSeconds now jobAttemptId row current expires db next) :
    ∃ expiry : Instant, expires = expiry.text ∧
      (expiry.micros : Int) = now.instant + leaseSeconds * 1000000 := by
  obtain ⟨later, added, stamped⟩ := leased.expiry
  obtain ⟨expiry, converted, text⟩ := timestamp_ok_iff.mp stamped
  refine ⟨expiry, text.symm, ?_⟩
  rw [← Datetime.astimezoneUtc_ok_iff.mp converted, Datetime.addSeconds_instant added]

/-- A job that is processing after a call was kept or has just been leased. -/
theorem JobStep.processing_cases {event : JobEvent} {view after : JobView}
    (step : JobStep event view after) (processing : after.row.state = .processing) :
    (event = .kept ∧ after.row = view.row) ∨
      ∃ workerId expires, event = .leased (leaseOf view.row workerId expires) ∧
        after.row.leaseExpiresAt = some expires := by
  cases step with
  | kept => exact Or.inl ⟨rfl, rfl⟩
  | leased _ jobAttemptId workerId current expires =>
      exact Or.inr ⟨workerId, expires, rfl, rfl⟩
  | settled _ state outcome errorClass current held settles =>
      exact absurd processing settles.released

theorem QueueEffect.expiryStored {past : Past} {db next : Db} {call : QueueCall}
    {result : Except PyError QueueReply} (effect : QueueEffect db call result next)
    (kept : ExpiryStored past db) : ExpiryStored (past ++ [(call, result)]) next where
  invariant := effect.invariant kept.invariant
  stored after member processing := by
    rcases effect.origin_step member with
      ⟨row, rowMember, sameId, event, step, handed⟩ | ⟨job, _, _, _, created⟩
    · have replies := handsOut_iff handed
      rcases step.processing_cases processing with ⟨isKept, sameRow⟩ |
        ⟨workerId, expires, isLease, expiresAt⟩
      · have silent : handsOut row.jobId result = false := by
          rw [← Bool.not_eq_true, replies, isKept]
          simp
        have sameStored : after = row := sameRow
        rw [sameStored, leaseExpiry_snoc_of_not _ _ _ _ silent]
        exact kept.stored row rowMember (sameStored ▸ processing)
      · have given := replies.mpr ⟨_, isLease⟩
        rw [← sameId, leaseExpiry_snoc_of_handsOut _ _ _ _ given]
        have returned := ((handed _).mp isLease).1
        cases effect with
        | leased leased =>
            obtain ⟨expiry, text, micros⟩ := leased.expiry_text
            refine ⟨expiry, ?_, by rw [expiryOfCall, micros]⟩
            have sameLease := Option.some.inj (QueueReply.lease.inj (Except.ok.inj returned))
            have sameExpiry := congrArg JobLease.leaseExpiresAt sameLease
            simp only [leaseOf, jobView] at sameExpiry
            rw [← text, sameExpiry]
            exact expiresAt
        | raised | found | created | idle | succeeded | failed | recovered => cases returned
    · rw [created.fresh.1] at processing
      cases processing

theorem expiryStored_after {start : Db} (empty : EmptyQueue start) (calls : List QueueCall) :
    ExpiryStored (History.events perform start calls) (History.after perform start calls) := by
  refine History.history_invariant perform
    (fun past call db kept => (perform_effect call db).expiryStored kept) ?_ calls
  exact
    { invariant := empty.invariant
      stored := by
        intro row member
        rw [← Table.mem_rows, empty.1] at member
        cases member }

/-! ## Recovery by points in time -/

/-- The job is processing and its lease expired strictly before the clock. -/
def Due (past : Past) (now : Datetime) (row : JobRow) : Prop :=
  row.state = .processing ∧ ∃ expiry ∈ leaseExpiry row.jobId past, expiry < now.instant

instance (past : Past) (now : Datetime) (row : JobRow) : Decidable (Due past now row) :=
  inferInstanceAs (Decidable (_ ∧ _))

def dueRows (past : Past) (now : Datetime) (db : Db) : List JobRow :=
  db.jobs.rows.filter fun row => Due past now row

/-- A due job with attempts left is pending again, any other is exhausted. -/
def dueState (row : JobRow) : JobState :=
  if row.attemptCount < row.maxAttempts then .pending else .failedExhausted

/-- Exactly the due jobs are recovered: each is put in its state, its current
attempt is closed as abandoned, everything else stays, and the counts are the
sizes of the two groups. -/
structure RecoversExactly (past : Past) (now : Datetime) (db : Db)
    (outcome : Except PyError QueueReply × Db) : Prop where
  counts : outcome.1 = .ok (.counts
    { recovered := (dueRows past now db).countP fun row => row.attemptCount < row.maxAttempts
      exhausted := (dueRows past now db).countP fun row => row.maxAttempts ≤ row.attemptCount })
  tables : ∃ current, timestamp now = .ok current ∧
    outcome.2.jobs.rows = db.jobs.rows.map (fun row =>
      if Due past now row then row.settle (dueState row) (some "abandoned_lease") current
      else row) ∧
    outcome.2.attempts.rows =
      db.attempts.rows.map (abandonedAttempt (dueRows past now db) current)
  frame : outcome.2 = { db with jobs := outcome.2.jobs, attempts := outcome.2.attempts }

/-- The clock has a UTC text, and no lease of a processing job expires in its
second with exactly one of the two on the whole second. -/
def ClockAgrees (past : Past) (now : Datetime) (db : Db) : Prop :=
  ∃ utc : Instant, now.astimezoneUtc = .ok utc ∧
    ∀ row ∈ db.jobs, row.state = .processing →
      ∀ expiry ∈ leaseExpiry row.jobId past, ¬ Misordered expiry.toNat utc.micros

theorem dueState_eq (row : JobRow) : dueState row = recoveredState row := by
  unfold dueState recoveredState
  split_ifs <;> first | rfl | omega

/-- The texts select a row exactly when it is due, unless the pair of expiry and
clock is misordered. -/
theorem expired_agrees_iff {past : Past} {db : Db} (stored : ExpiryStored past db)
    {now : Datetime} {utc : Instant} (clock : now.astimezoneUtc = .ok utc) {row : JobRow}
    (member : row ∈ db.jobs) :
    (Expired utc.text row ↔ Due past now row) ↔
      (row.state = .processing →
        ∀ expiry ∈ leaseExpiry row.jobId past, ¬ Misordered expiry.toNat utc.micros) := by
  by_cases processing : row.state = .processing
  · obtain ⟨expiry, text, point⟩ := stored.stored row member processing
    have instant := Datetime.astimezoneUtc_ok_iff.mp clock
    have agrees := Instant.text_before_agrees_iff expiry utc
    have texts : Expired utc.text row ↔ TextBefore expiry.text utc.text := by
      simp [Expired, processing, text]
    have points : Due past now row ↔ expiry.micros < utc.micros := by
      simp [Due, processing, point, instant]
    rw [texts, points, agrees]
    simp [processing, point]
  · simp [Expired, Due, processing]

theorem recovers_exactly_iff {past : Past} {db : Db} (stored : ExpiryStored past db)
    (now : Datetime) :
    RecoversExactly past now db (perform (.recoverAbandoned now) db) ↔
      ClockAgrees past now db := by
  simp only [perform]
  obtain ⟨result, overflow, same⟩ | ⟨current, counts, recovery, result⟩ :=
    recoverAbandoned_cases (Prod.mk.eta (p := recoverAbandoned now db)).symm
  · constructor
    · rintro ⟨counts, _, _⟩
      rw [result] at counts
      cases counts
    · rintro ⟨utc, clock, _⟩
      have text := timestamp_ok_iff.mpr ⟨utc, clock, rfl⟩
      rw [overflow] at text
      cases text
  obtain ⟨utc, clock, text⟩ := timestamp_ok_iff.mp recovery.clock
  subst text
  have sameUtc : ClockAgrees past now db ↔
      ∀ row ∈ db.jobs, (Expired utc.text row ↔ Due past now row) := by
    constructor
    · rintro ⟨other, otherClock, agrees⟩ row member
      have same : other = utc := Except.ok.inj (otherClock.symm.trans clock)
      subst same
      exact (expired_agrees_iff stored clock member).mpr (agrees row member)
    · exact fun agrees => ⟨utc, clock, fun row member =>
        (expired_agrees_iff stored clock member).mp (agrees row member)⟩
  rw [sameUtc]
  constructor
  · rintro ⟨_, ⟨otherText, otherClock, jobs, _⟩, _⟩ row member
    have sameText : otherText = utc.text :=
      Except.ok.inj (otherClock.symm.trans recovery.clock)
    subst sameText
    -- The two maps agree on the row, and a settled row is not processing.
    rw [recovery.jobs, List.map_inj_left] at jobs
    have rowEq := jobs row member
    unfold recoveredRow at rowEq
    constructor
    · intro expired
      by_contra notDue
      rw [if_pos expired, if_neg notDue] at rowEq
      have state := congrArg JobRow.state rowEq
      exact (recoveredState_settles row).released (state.trans expired.1)
    · intro due
      by_contra notExpired
      rw [if_neg notExpired, if_pos due] at rowEq
      have state := congrArg JobRow.state rowEq
      rw [dueState_eq] at state
      exact (recoveredState_settles row).released (state.symm.trans due.1)
  · intro agrees
    have sameRows : expiredRows utc.text db = dueRows past now db := by
      refine List.filter_congr fun row member => ?_
      simp only [decide_eq_decide]
      exact agrees row member
    refine ⟨?_, ⟨utc.text, recovery.clock, ?_, ?_⟩, recovery.frame⟩
    · rw [result, ← sameRows, ← recovery.recovered, ← recovery.exhausted]
      rfl
    · refine recovery.jobs.trans (List.map_congr_left fun row member => ?_)
      simp only [recoveredRow, agrees row member, dueState_eq]
    · rw [← sameRows]
      exact recovery.attempts

/-- In every reachable state, recovery takes exactly the leases that expired
before the clock if and only if the clock agrees with the stored texts. -/
theorem recover_abandoned_exact_iff (start : Db) (empty : EmptyQueue start)
    (calls : List QueueCall) (now : Datetime) :
    RecoversExactly (History.events perform start calls) now
        (History.after perform start calls)
        (perform (.recoverAbandoned now) (History.after perform start calls)) ↔
      ClockAgrees (History.events perform start calls) now
        (History.after perform start calls) :=
  recovers_exactly_iff (expiryStored_after empty calls) now

/-! ## A live lease taken away -/

/-- A job leased at half past a second, for thirty seconds. -/
def halfSecondCalls : List QueueCall :=
  [ .createIdempotent (sampleJob "job-1" "listing-1") sampleMorning sampleMorning,
    .leaseNext "worker" 30 (sampleLater 1500000) "attempt-1" ]

def wholeSecond : Datetime := sampleLater 31000000

/-- The `recovered` field of a reply of `recover_abandoned`. -/
def recoveredCount : Except PyError QueueReply → Nat
  | .ok (.counts counts) => counts.recovered
  | _ => 0

/-- The lease ends half a second after the clock, and recovery takes it. -/
theorem live_lease_is_taken :
    leaseExpiry "job-1" (History.events perform sampleStart halfSecondCalls) =
        some (wholeSecond.instant + 500000) ∧
      ((perform (.recoverAbandoned wholeSecond)
        (History.after perform sampleStart halfSecondCalls)).2.jobs.rows.map JobRow.state) =
          [.pending] ∧
      ¬ RecoversExactly (History.events perform sampleStart halfSecondCalls) wholeSecond
        (History.after perform sampleStart halfSecondCalls)
        (perform (.recoverAbandoned wholeSecond)
          (History.after perform sampleStart halfSecondCalls)) := by
  refine ⟨by decide +kernel, by decide +kernel, ?_⟩
  rintro ⟨counts, _, _⟩
  have recovered : recoveredCount (perform (.recoverAbandoned wholeSecond)
      (History.after perform sampleStart halfSecondCalls)).1 = 1 := by decide +kernel
  rw [counts] at recovered
  exact absurd recovered (by decide +kernel)

/-- After the end of the lease the clock and the text agree. -/
theorem recover_abandoned_exact_after_sample :
    RecoversExactly (History.events perform sampleStart halfSecondCalls)
      (sampleLater 31700000) (History.after perform sampleStart halfSecondCalls)
      (perform (.recoverAbandoned (sampleLater 31700000))
        (History.after perform sampleStart halfSecondCalls)) := by
  refine (recover_abandoned_exact_iff sampleStart ⟨rfl, rfl⟩ halfSecondCalls _).mpr
    ⟨⟨63921780031700000, by decide⟩, by decide +kernel, ?_⟩
  have expiries : ∀ row ∈ (History.after perform sampleStart halfSecondCalls).jobs.rows,
      ∀ expiry ∈ leaseExpiry row.jobId (History.events perform sampleStart halfSecondCalls),
        ¬ Misordered expiry.toNat 63921780031700000 := by decide +kernel
  exact fun row member _ => expiries row member

end ScraperProject.Orchestration
