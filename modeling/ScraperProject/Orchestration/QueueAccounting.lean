import ScraperProject.Foundation.Tally
import ScraperProject.Orchestration.StoreReads

/-!
Contract: the books of the job queue.

Owns the flows that the replies of a history report for each state of a job, the number
of jobs as the number of distinct keys accepted, the numbers of `status_counts` as the
balance of the two, and attempts as the ledger of all leases handed out.

Does not own the order in which jobs are leased.
-/

namespace ScraperProject.Orchestration

open Foundation
open Database
open Contracts

/-! ## What the replies report -/

/-- The number of jobs that a reply of the queue reports to have entered a state, other
than by their creation. -/
def QueueReply.enters (state : JobState) : QueueReply → Nat
  | .lease (some _) => if .processing = state then 1 else 0
  | .done => if .succeeded = state then 1 else 0
  | .state value => if state.value = value then 1 else 0
  | .counts groups =>
      match state with
      | .pending => groups.recovered
      | .failedExhausted => groups.exhausted
      | _ => 0
  | _ => 0

/-- The number of jobs that a reply of the queue reports to have left a state. -/
def QueueReply.leaves (state : JobState) : QueueReply → Nat
  | .lease (some _) => if .pending = state then 1 else 0
  | .done | .state _ => if .processing = state then 1 else 0
  | .counts groups => if .processing = state then groups.recovered + groups.exhausted else 0
  | _ => 0

/-- A number that the replies of the queue report. -/
def reported (number : QueueReply → Nat) : StoreEvent → Nat
  | (.queue _, .ok (.queue reply)) => number reply
  | _ => 0

/-- The key of a creation that returned. -/
def acceptedKey : StoreEvent → Option NaturalKey
  | (.queue (.createIdempotent job _ _), .ok _) => some (keyOfJob job)
  | _ => none

def acceptedKeys (past : List StoreEvent) : List NaturalKey := past.filterMap acceptedKey

/-! ## One call -/

/-- The jobs that were ever created, all of them into `pending`. -/
def createdInto (state : JobState) (db : Db) : Nat :=
  if .pending = state then db.jobs.rows.length else 0

theorem createdInto_of_map {state : JobState} {db next : Db} {change : JobRow → JobRow}
    (rows : next.jobs.rows = db.jobs.rows.map change) :
    createdInto state next = createdInto state db := by
  rw [createdInto, rows, List.length_map, createdInto]

theorem createdInto_of_same {state : JobState} {db next : Db} (same : next.jobs = db.jobs) :
    createdInto state next = createdInto state db := by
  rw [createdInto, same, createdInto]

theorem tally_of_same {state : JobState} {db next : Db} (same : next.jobs = db.jobs) :
    tally next state = tally db state := by
  rw [tally, same, tally]

/-- One job moves from one state to another one. -/
theorem tally_moved {db next : Db} {row : JobRow} (member : row ∈ db.jobs)
    {change : JobRow → JobRow} (rows : next.jobs.rows = db.jobs.rows.map change)
    (others : ∀ other ∈ db.jobs, other.jobId ≠ row.jobId → change other = other)
    (state : JobState) :
    tally next state + (if row.state = state then 1 else 0) =
      tally db state + if (change row).state = state then 1 else 0 := by
  have moved := Table.countP_updated member (fun other listed apart => others other listed
    fun sameId => apart (job_eq_of_id listed member sameId)) fun stored => stored.state = state
  unfold tally
  rw [rows]
  simpa only [decide_eq_true_eq] using moved

theorem Leased.tally {workerId jobAttemptId current expires : String} {leaseSeconds : Int}
    {now : Datetime} {row : JobRow} {db next : Db}
    (leased : Leased workerId leaseSeconds now jobAttemptId row current expires db next)
    (state : JobState) :
    tally next state + (if .pending = state then 1 else 0) =
      tally db state + if .processing = state then 1 else 0 := by
  have moved := tally_moved leased.member leased.jobs (fun other _ apart => if_neg apart) state
  rw [leased.eligible.1, if_pos rfl] at moved
  exact moved

theorem Finished.tally {jobId workerId current : String} {success : Bool}
    {errorClass : Option String} {now : Datetime} {row : JobRow} {db next : Db}
    (finished : Finished jobId workerId success errorClass now row current db next)
    (state : JobState) :
    tally next state + (if .processing = state then 1 else 0) =
      tally db state + if (finishOutcome row success).1 = state then 1 else 0 := by
  have moved := tally_moved finished.member finished.jobs (fun other _ apart => if_neg apart) state
  rw [finished.held.1, settledRow, if_pos rfl] at moved
  exact moved

/-- The loop of recovery moves the expired rows, each by its own counter. -/
theorem countP_recoveredRow (current : String) (state : JobState) (rows : List JobRow) :
    (rows.map (recoveredRow current)).countP (fun row => row.state = state) +
        (if .processing = state then (rows.filter fun row => Expired current row).length else 0) =
      rows.countP (fun row => row.state = state) +
        (rows.filter fun row => Expired current row).countP
          fun row => recoveredState row = state := by
  induction rows with
  | nil => simp
  | cons row rest inductionHypothesis =>
      by_cases expired : Expired current row
      · have settled : (recoveredRow current row).state = recoveredState row := by
          rw [recoveredRow, if_pos expired]
          rfl
        simp only [List.map_cons, List.countP_cons, List.filter_cons, decide_eq_true_eq, expired,
          decide_true, if_true, List.length_cons, settled, expired.1]
        split_ifs at inductionHypothesis ⊢ <;> omega
      · have kept : recoveredRow current row = row := if_neg expired
        simp only [List.map_cons, List.countP_cons, List.filter_cons, decide_eq_true_eq, expired,
          decide_false, Bool.false_eq_true, if_false, kept]
        omega

/-- The two groups that recovery counts are the jobs it puts in the two states. -/
theorem Recovered.groups {now : Datetime} {current : String} {counts : RecoveryCounts}
    {db next : Db} (recovery : Recovered now current counts db next) (state : JobState) :
    (expiredRows current db).countP (fun row => recoveredState row = state) =
      QueueReply.enters state (.counts counts) := by
  have spent : ∀ row : JobRow, recoveredState row = .failedExhausted ↔
      row.maxAttempts ≤ row.attemptCount := by
    intro row
    unfold recoveredState
    split
    · simpa using ‹row.attemptCount ≥ row.maxAttempts›
    · simpa using ‹¬ row.attemptCount ≥ row.maxAttempts›
  cases state with
  | pending =>
      simp only [recoveredState_eq_pending]
      exact recovery.recovered.symm
  | failedExhausted =>
      simp only [spent]
      exact recovery.exhausted.symm
  | processing | succeeded =>
      refine List.countP_eq_zero.mpr fun row _ => ?_
      unfold recoveredState
      split <;> simp

theorem length_eq_countP_add (rows : List JobRow) :
    rows.length = rows.countP (fun row => row.attemptCount < row.maxAttempts) +
      rows.countP fun row => row.maxAttempts ≤ row.attemptCount := by
  rw [List.length_eq_countP_add_countP fun row : JobRow => row.attemptCount < row.maxAttempts]
  refine congrArg _ (List.countP_congr fun row _ => ?_)
  simp

theorem Recovered.tally {now : Datetime} {current : String} {counts : RecoveryCounts}
    {db next : Db} (recovery : Recovered now current counts db next) (state : JobState) :
    tally next state + QueueReply.leaves state (.counts counts) =
      tally db state + QueueReply.enters state (.counts counts) := by
  have moved := countP_recoveredRow current state db.jobs.rows
  have length := length_eq_countP_add (expiredRows current db)
  rw [← recovery.recovered, ← recovery.exhausted] at length
  rw [← recovery.jobs] at moved
  rw [← recovery.groups state, QueueReply.leaves, ← length]
  exact moved

/-- In every state the jobs balance: the jobs before, those that a call creates and those
that its reply reports to enter are the jobs after and those reported to leave. -/
theorem QueueEffect.balance {db next : Db} {call : QueueCall}
    {result : Except PyError QueueReply} (effect : QueueEffect db call result next)
    (state : JobState) :
    Database.tally next state + createdInto state db +
        reported (QueueReply.leaves state) (.queue call, result.map .queue) =
      Database.tally db state + createdInto state next +
        reported (QueueReply.enters state) (.queue call, result.map .queue) := by
  cases effect with
  | raised | idle => rfl
  | found _ _ frame =>
      have same : next.jobs = db.jobs := by rw [frame]
      rw [tally_of_same same, createdInto_of_same same]
      rfl
  | created made =>
      have grown : Database.tally next state =
          Database.tally db state + if .pending = state then 1 else 0 := by
        rw [Database.tally, made.jobs, List.countP_append, List.countP_singleton, made.fresh.1]
        simp [Database.tally]
      have longer : createdInto state next =
          createdInto state db + if .pending = state then 1 else 0 := by
        rw [createdInto, made.jobs, List.length_append, List.length_singleton, createdInto]
        split <;> rfl
      rw [grown, longer]
      simp only [reported, Except.map, QueueReply.enters, QueueReply.leaves]
      omega
  | leased leased =>
      have moved := leased.tally state
      rw [createdInto_of_map leased.jobs]
      simp only [reported, Except.map, QueueReply.enters, QueueReply.leaves]
      omega
  | succeeded finished =>
      have moved : Database.tally next state + (if .processing = state then 1 else 0) =
        Database.tally db state + if .succeeded = state then 1 else 0 := finished.tally state
      rw [createdInto_of_map finished.jobs]
      simp only [reported, Except.map, QueueReply.enters, QueueReply.leaves]
      omega
  | @failed _ _ _ _ _ row _ finished =>
      have moved := finished.tally state
      have named : (finishOutcome row false).1 = state ↔
          state.value = (finishOutcome row false).1.value := by
        rw [JobState.value_injective.eq_iff, eq_comm]
      rw [createdInto_of_map finished.jobs]
      simp only [reported, Except.map, QueueReply.enters, QueueReply.leaves, ← named]
      omega
  | recovered recovery =>
      have moved := recovery.tally state
      rw [createdInto_of_map recovery.jobs]
      simp only [reported, Except.map]
      omega

/-! ## All calls -/

theorem performStore_queue (library : StandardLibrary) (call : QueueCall) (store : Store) :
    performStore library (.queue call) store =
      ((perform call store.db).1.map .queue, { store with db := (perform call store.db).2 }) := rfl

/-- A call of another component reports nothing about jobs and leaves them as they are. -/
theorem performStore_elsewhere (library : StandardLibrary) (call : StoreCall) (store : Store) :
    (∃ queued, call = .queue queued) ∨
      ((performStore library call store).2.db.jobs = store.db.jobs ∧
        (performStore library call store).2.db.attempts = store.db.attempts ∧
        acceptedKey (call, (performStore library call store).1) = none ∧
        ∀ number, reported number (call, (performStore library call store).1) = 0) := by
  cases call with
  | queue queued => exact Or.inl ⟨queued, rfl⟩
  | _ =>
    right
    refine ⟨performStore_frame library _ store .jobs ?_,
      performStore_frame library _ store .attempts ?_, rfl, fun number => rfl⟩
    all_goals simp [StoreCall.writes]

/-- The jobs in a state, and those reported to have left it, are those created into it and
those reported to have entered it. -/
theorem balance_of_history (library : StandardLibrary) (calls : List StoreCall)
    (state : JobState) :
    tally (storeAfter library calls).db state +
        History.total (reported (QueueReply.leaves state)) (storePast library calls) =
      createdInto state (storeAfter library calls).db +
        History.total (reported (QueueReply.enters state)) (storePast library calls) := by
  refine @History.history_invariant _ _ _ (performStore library) (fun past store =>
    tally store.db state + History.total (reported (QueueReply.leaves state)) past =
      createdInto state store.db + History.total (reported (QueueReply.enters state)) past) ?_ _ ?_ calls
  · intro past call store balanced
    rw [History.total_snoc, History.total_snoc]
    rcases performStore_elsewhere library call store with ⟨queued, rfl⟩ | ⟨same, _, _, silent⟩
    · have moved := (perform_effect queued store.db).balance state
      rw [performStore_queue]
      dsimp only
      omega
    · rw [silent, silent, tally_of_same same, createdInto_of_same same]
      exact balanced
  · simp [tally, createdInto, History.total, Store.empty, Db.empty, Table.empty]

/-! ## Jobs and keys -/

/-- The keys of the jobs after a call are those before it and the one it accepted. -/
theorem QueueEffect.keys {db next : Db} {call : QueueCall} {result : Except PyError QueueReply}
    (effect : QueueEffect db call result next) (key : NaturalKey) :
    (∃ row ∈ next.jobs, keyOfRow row = key) ↔ (∃ row ∈ db.jobs, keyOfRow row = key) ∨
      acceptedKey (.queue call, result.map .queue) = some key := by
  have kept : ∀ row ∈ db.jobs, ∃ after ∈ next.jobs,
      after.jobId = row.jobId ∧ keyOfRow after = keyOfRow row := by
    intro row member
    obtain ⟨after, listed, sameId, event, step, _⟩ := effect.step member
    exact ⟨after, listed, sameId, SameIdentity.key step.identity⟩
  constructor
  · rintro ⟨after, member, rfl⟩
    rcases effect.origin member with ⟨row, rowMember, sameId⟩ | ⟨job, _, _, _, created⟩
    · obtain ⟨stored, listed, storedId, sameKey⟩ := kept row rowMember
      obtain rfl : stored = after := job_eq_of_id listed member (storedId.trans sameId)
      exact Or.inl ⟨row, rowMember, sameKey.symm⟩
    · obtain ⟨job, _, _, _, rfl, rfl, sameKey, _⟩ :=
        acceptedFor_eq_some.mp (effect.accepts created)
      exact Or.inr (congrArg some sameKey)
  · rintro (⟨row, member, rfl⟩ | accepted)
    · obtain ⟨after, listed, _, sameKey⟩ := kept row member
      exact ⟨after, listed, sameKey⟩
    · cases effect with
      | found member hasKey frame =>
          cases accepted
          have same : next.jobs = db.jobs := by rw [frame]
          rw [same]
          exact ⟨_, member, keyOfRow_eq_keyOfJob.mpr hasKey⟩
      | created made =>
          cases accepted
          exact ⟨_, made.stored, keyOfRow_eq_keyOfJob.mpr made.hasKey⟩
      | raised => cases call <;> cases accepted
      | idle | leased | succeeded | failed | recovered => cases accepted

/-- There is one job for each distinct key that some creation was accepted for. -/
theorem length_jobs_eq_keys (library : StandardLibrary) (calls : List StoreCall) :
    (storeAfter library calls).db.jobs.rows.length =
      (acceptedKeys (storePast library calls)).dedup.length := by
  have keys : ∀ key, (∃ row ∈ (storeAfter library calls).db.jobs, keyOfRow row = key) ↔
      key ∈ acceptedKeys (storePast library calls) := by
    refine @History.history_invariant _ _ _ (performStore library) (fun past store =>
      ∀ key, (∃ row ∈ store.db.jobs, keyOfRow row = key) ↔ key ∈ acceptedKeys past) ?_ _ ?_ calls
    · intro past call store known key
      rw [acceptedKeys, List.filterMap_append, List.mem_append, ← acceptedKeys, ← known key]
      rcases performStore_elsewhere library call store with ⟨queued, rfl⟩ | ⟨same, _, silent, _⟩
      · rw [performStore_queue]
        refine ((perform_effect queued store.db).keys key).trans (or_congr Iff.rfl ?_)
        simp
      · rw [same]
        simp [silent]
    · simp [acceptedKeys, Store.empty, Db.empty, Table.empty, ← Table.mem_rows]
  have distinct : ((storeAfter library calls).db.jobs.rows.map keyOfRow).Nodup := by
    refine List.pairwise_map.mpr ((storeAfter library calls).db.jobs.distinct.imp ?_)
    intro row other apart sameKey
    exact apart (Or.inr (keyOfRow_eq.mp sameKey))
  rw [← List.length_map keyOfRow]
  refine ((List.perm_ext_iff_of_nodup distinct (List.nodup_dedup _)).mpr fun key => ?_).length_eq
  rw [List.mem_dedup, ← keys key, List.mem_map]
  rfl

/-! ## The numbers that are reported -/

/-- The number that `status_counts` reports for a state; a state without jobs has no
entry. -/
def reportedCount (entries : List (String × Nat)) (state : JobState) : Nat :=
  (entries.lookup state.value).getD 0

theorem reportedCount_of_exact {db : Db} {entries : List (String × Nat)}
    (listed : ∀ name count, (name, count) ∈ entries ↔
      ∃ state : JobState, state.value = name ∧ tally db state = count ∧ 0 < count)
    (state : JobState) : reportedCount entries state = tally db state := by
  unfold reportedCount
  cases found : entries.lookup state.value with
  | none =>
      have absent := List.lookup_eq_none_iff.mp found
      rw [Option.getD_none]
      by_contra present
      have entry := (listed state.value (tally db state)).mpr
        ⟨state, rfl, rfl, Nat.pos_of_ne_zero (Ne.symm present)⟩
      simpa using absent _ entry
  | some count =>
      obtain ⟨before, after, same, _⟩ := List.lookup_eq_some_iff.mp found
      have entry : (state.value, count) ∈ entries := by
        rw [same]
        exact List.mem_append_right _ List.mem_cons_self
      obtain ⟨other, sameName, isTally, _⟩ := (listed state.value count).mp entry
      rw [JobState.value_injective sameName] at isTally
      exact isTally.symm

/-- `status_counts` is the balance of the whole history: in every state the jobs it
reports, and those that replies reported to have left the state, are the distinct keys
accepted (in `pending`) and those that replies reported to have entered it. -/
theorem status_counts_balance (library : StandardLibrary) (calls : List StoreCall) :
    let past := storePast library calls
    ∃ entries, (performStore library .statusCounts (storeAfter library calls)).1 =
        .ok (.counts entries) ∧
      ∀ state, reportedCount entries state +
          History.total (reported (QueueReply.leaves state)) past =
        (if .pending = state then (acceptedKeys past).dedup.length else 0) +
          History.total (reported (QueueReply.enters state)) past := by
  intro past
  obtain ⟨entries, isOk, _, listed⟩ := statusCounts_exact (storeAfter library calls).db
  refine ⟨entries, ?_, fun state => ?_⟩
  · simp only [performStore, Store.onDb, isOk]
    rfl
  · have balanced := balance_of_history library calls state
    rw [createdInto, length_jobs_eq_keys] at balanced
    rw [reportedCount_of_exact listed]
    exact balanced

/-! ## Attempts -/

/-- The invariant of the queue, after the calls of every component. -/
theorem storeQueue_invariant (library : StandardLibrary) (calls : List StoreCall) :
    QueueInvariant (storeAfter library calls).db := by
  refine @History.after_invariant _ _ _ (performStore library)
    (fun store => QueueInvariant store.db) (fun call store invariant => ?_) _
    (EmptyQueue.invariant ⟨rfl, rfl⟩) calls
  rcases performStore_elsewhere library call store with ⟨queued, rfl⟩ | ⟨jobs, attempts, _⟩
  · exact (perform_effect queued store.db).invariant invariant
  · constructor
    · intro row member
      rw [jobs] at member
      rw [jobView, attemptsOf, attempts]
      exact invariant.sound row member
    · intro attempt member
      rw [attempts] at member
      rw [jobs]
      exact invariant.owned attempt member

/-- A job in an attempt has one with the number of its counter. -/
theorem JobView.Sound.countP_current {view : JobView} (sound : view.Sound)
    (started : 1 ≤ view.row.attemptCount) :
    view.attempts.countP (fun attempt => attempt.attemptNumber = view.row.attemptCount) = 1 := by
  have distinct : (attemptNumbers view.row.attemptCount).Nodup := by
    refine List.Nodup.map (fun index other same => ?_) List.nodup_range
    simpa using same
  have listed : view.row.attemptCount ∈ attemptNumbers view.row.attemptCount :=
    mem_attemptNumbers.mpr ⟨started, le_refl _⟩
  have once := List.count_eq_one_of_mem distinct listed
  rw [← sound.numbered, List.count, List.countP_map] at once
  refine (List.countP_congr fun attempt _ => ?_).trans once
  simp

theorem JobView.Sound.length_attempts {view : JobView} (sound : view.Sound) :
    view.attempts.length = view.row.attemptCount.toNat := by
  rw [← List.length_map AttemptRow.attemptNumber, sound.numbered, attemptNumbers, List.length_map,
    List.length_range]

/-- A job has an open attempt exactly while it is processing, and then one. -/
theorem JobView.Sound.countP_open {view : JobView} (sound : view.Sound) :
    view.attempts.countP (fun attempt => attempt.outcome = none) =
      if view.row.state = .processing then 1 else 0 := by
  split
  · next processing =>
    rw [← sound.countP_current (sound.started (by simp [processing]))]
    refine List.countP_congr fun attempt listed => ?_
    simp only [decide_eq_true_eq]
    constructor
    · intro isOpen
      by_contra other
      have closed := sound.closed attempt listed fun both => other both.2
      rw [IsClosed, isOpen] at closed
      exact absurd closed.2 (by simp)
    · intro number
      exact (sound.current attempt listed processing number).1.2
  · next released =>
    refine List.countP_eq_zero.mpr fun attempt listed isOpen => ?_
    have closed := sound.closed attempt listed fun both => released both.1
    rw [IsClosed, of_decide_eq_true isOpen] at closed
    exact absurd closed.2 (by simp)

/-- A job has a successful attempt exactly when it has succeeded, and then one. -/
theorem JobView.Sound.countP_succeeded {view : JobView} (sound : view.Sound) :
    view.attempts.countP (fun attempt => attempt.outcome = some .succeeded) =
      if view.row.state = .succeeded then 1 else 0 := by
  split
  · next succeeded =>
    rw [← sound.countP_current (sound.started (by simp [succeeded]))]
    refine List.countP_congr fun attempt listed => ?_
    simp only [decide_eq_true_eq]
    exact ⟨fun outcome => (sound.single attempt listed outcome).2,
      sound.succeeded succeeded attempt listed⟩
  · next other =>
    refine List.countP_eq_zero.mpr fun attempt listed outcome => ?_
    exact other (sound.single attempt listed (of_decide_eq_true outcome)).1

/-- Attempts are counted job by job. -/
theorem countP_attempts {db : Db} (invariant : QueueInvariant db) (holds : AttemptRow → Bool) :
    (db.jobs.rows.map fun row => (attemptsOf db row.jobId).countP holds).sum =
      db.attempts.rows.countP holds := by
  refine sum_countP_owned (fun row attempt => decide (attempt.jobId = row.jobId)) holds
    db.jobs.rows fun attempt listed => ?_
  obtain ⟨row, member, sameId⟩ := invariant.owned attempt listed
  apply (Table.countP_eq_one_iff _).mpr ⟨row, member, by simp [sameId]⟩
  intro row other ofRow ofOther
  exact Or.inl ((of_decide_eq_true ofRow).symm.trans (of_decide_eq_true ofOther))

theorem QueueEffect.length_attempts {db next : Db} {call : QueueCall}
    {result : Except PyError QueueReply} (effect : QueueEffect db call result next) :
    next.attempts.rows.length = db.attempts.rows.length +
      reported (QueueReply.leaves .pending) (.queue call, result.map .queue) := by
  cases effect with
  | raised | idle => rfl
  | found _ _ frame =>
      rw [frame]
      rfl
  | created made =>
      rw [made.frame]
      rfl
  | leased leased =>
      rw [leased.attempts, List.length_append]
      rfl
  | succeeded finished =>
      rw [finished.attempts, List.length_map]
      rfl
  | failed finished =>
      rw [finished.attempts, List.length_map]
      rfl
  | recovered recovery =>
      rw [recovery.attempts, List.length_map]
      rfl

/-- The attempts are the ledger of all leases handed out: there is one row for each
lease, the counters of the jobs add up to them and stay within the budgets of the jobs,
the open rows are the jobs in progress and the successful rows the jobs that succeeded. -/
theorem attempts_account_for_leases (library : StandardLibrary) (calls : List StoreCall) :
    let db := (storeAfter library calls).db
    let leases := History.total (reported (QueueReply.leaves .pending)) (storePast library calls)
    db.attempts.rows.length = leases ∧
      (db.jobs.rows.map fun row => row.attemptCount.toNat).sum = leases ∧
      leases ≤ (db.jobs.rows.map fun row => row.maxAttempts.toNat).sum ∧
      db.attempts.rows.countP (fun attempt => attempt.outcome = none) = tally db .processing ∧
      db.attempts.rows.countP (fun attempt => attempt.outcome = some .succeeded) =
        tally db .succeeded := by
  intro db leases
  have invariant : QueueInvariant db := storeQueue_invariant library calls
  have recorded : db.attempts.rows.length = leases := by
    refine @History.history_invariant _ _ _ (performStore library) (fun past store =>
      store.db.attempts.rows.length =
        History.total (reported (QueueReply.leaves .pending)) past) ?_ _ rfl calls
    intro past call store same
    rw [History.total_snoc, ← same]
    rcases performStore_elsewhere library call store with ⟨queued, rfl⟩ | ⟨_, kept, _, silent⟩
    · exact (perform_effect queued store.db).length_attempts
    · rw [silent, kept]
      rfl
  have counters : (db.jobs.rows.map fun row => row.attemptCount.toNat).sum = leases := by
    have counted := countP_attempts invariant fun _ => true
    simp only [List.countP_true] at counted
    rw [← recorded, ← counted]
    refine congrArg List.sum (List.map_congr_left fun row member => ?_)
    exact (invariant.sound row member).length_attempts.symm
  refine ⟨recorded, counters, ?_, ?_, ?_⟩
  · rw [← counters]
    refine sum_map_le fun row member => ?_
    have bounded : row.attemptCount ≤ row.maxAttempts := (invariant.sound row member).bounded
    omega
  · rw [← countP_attempts invariant, tally, ← sum_indicator]
    refine congrArg List.sum (List.map_congr_left fun row member => ?_)
    refine (invariant.sound row member).countP_open.trans ?_
    by_cases inState : row.state = .processing <;> simp [jobView, inState]
  · rw [← countP_attempts invariant, tally, ← sum_indicator]
    refine congrArg List.sum (List.map_congr_left fun row member => ?_)
    refine (invariant.sound row member).countP_succeeded.trans ?_
    by_cases inState : row.state = .succeeded <;> simp [jobView, inState]

end ScraperProject.Orchestration
