import ScraperProject.Orchestration.QueueHistory

/-!
Contract: `create_idempotent` across a history of queue calls.

Owns natural keys, the first accepted creation of a key, the invariant that ties
the jobs and the listing identities to the accepted creations, and what a
repeated, a returning and a raising creation leave behind.

Does not own the later life of a job.
-/

namespace ScraperProject.Orchestration

open Foundation
open Database
open Contracts

/-! ## Natural keys -/

/-- The columns of the unique constraint. -/
structure NaturalKey where
  crawlRunId : String
  sourceName : String
  sourceListingKey : String
  reasonCode : String
deriving DecidableEq

def keyOfJob (job : DetailFetchJob) : NaturalKey :=
  ⟨job.crawlRunId, job.sourceName, job.sourceListingKey, job.reasonCode.value⟩

def keyOfRow (row : JobRow) : NaturalKey :=
  ⟨row.crawlRunId, row.sourceName, row.sourceListingKey, row.reasonCode⟩

theorem keyOfRow_eq_keyOfJob {row : JobRow} {job : DetailFetchJob} :
    keyOfRow row = keyOfJob job ↔ HasKey row job := by
  simp [keyOfRow, keyOfJob, HasKey]

theorem keyOfRow_eq {row other : JobRow} : keyOfRow row = keyOfRow other ↔ row.SameKey other := by
  simp [keyOfRow, JobRow.SameKey]

theorem SameIdentity.key {row later : JobRow} (same : SameIdentity row later) :
    keyOfRow later = keyOfRow row := by
  simp [keyOfRow, same.crawlRunId, same.sourceName, same.sourceListingKey, same.reasonCode]

/-! ## Accepted creations -/

/-- The `job_id` of the `DetailFetchJob` of an accepted creation of the key. -/
def acceptedFor (key : NaturalKey) : QueueCall × Except PyError QueueReply → Option String
  | (.createIdempotent job _ _, .ok _) => if keyOfJob job = key then some job.jobId else none
  | _ => none

/-- The `job_id` of the `DetailFetchJob` of the first accepted creation of the key. -/
def firstAccepted (key : NaturalKey) (past : List (QueueCall × Except PyError QueueReply)) :
    Option String :=
  past.findSome? (acceptedFor key)

theorem firstAccepted_snoc (key : NaturalKey)
    (past : List (QueueCall × Except PyError QueueReply))
    (event : QueueCall × Except PyError QueueReply) :
    firstAccepted key (past ++ [event]) = (firstAccepted key past).or (acceptedFor key event) := by
  rw [firstAccepted, List.findSome?_append, List.findSome?_singleton]
  rfl

theorem acceptedFor_eq_some {key : NaturalKey} {call : QueueCall}
    {result : Except PyError QueueReply} {jobId : String} :
    acceptedFor key (call, result) = some jobId ↔
      ∃ job createdAt updatedAt reply, call = .createIdempotent job createdAt updatedAt ∧
        result = .ok reply ∧ keyOfJob job = key ∧ job.jobId = jobId := by
  unfold acceptedFor
  split
  · next job createdAt updatedAt reply same =>
    obtain ⟨rfl, rfl⟩ := Prod.mk.inj same
    by_cases sameKey : keyOfJob job = key <;> simp [sameKey]
  · next other =>
    simp only [reduceCtorEq, false_iff]
    rintro ⟨job, createdAt, updatedAt, reply, rfl, rfl, _⟩
    exact other job createdAt updatedAt reply rfl

/-! ## Listing identities -/

/-- The identity of a listing is registered. -/
def Identified (db : Db) (sourceName sourceListingKey : String) : Prop :=
  ∃ identity ∈ db.identities, identity.sourceName = sourceName ∧
    identity.sourceListingKey = sourceListingKey

/-- What a returning creation does to the identities: it registers a new one and
leaves a registered one alone. -/
theorem createIdempotent_identities {job : DetailFetchJob} {createdAt updatedAt : Instant}
    {db next : Db} {jobId : String}
    (call : createIdempotent job createdAt updatedAt db = (.ok jobId, next)) :
    Identified next job.sourceName job.sourceListingKey ∧
      (∀ identity ∈ db.identities, identity ∈ next.identities) ∧
        (Identified db job.sourceName job.sourceListingKey →
          next.identities = db.identities) := by
  obtain ⟨scheduledAt, _, _, _, _, _, rfl⟩ := createIdempotent_ok call
  cases inserted : db.identities.insert? (registeredIdentity job scheduledAt) with
  | none =>
      obtain ⟨identity, member, same⟩ := Table.insert?_eq_none.mp inserted
      simp only [Identified, Option.getD_none]
      exact ⟨⟨identity, member, same⟩, fun _ kept => kept, fun _ => trivial⟩
  | some identities =>
      have members : ∀ candidate, candidate ∈ identities ↔
          candidate ∈ db.identities ∨ candidate = registeredIdentity job scheduledAt :=
        fun _ => Table.mem_of_insert? inserted
      have fits := (Table.insert?_eq_some.mp inserted).1
      simp only [Identified, Option.getD_some]
      refine ⟨⟨_, (members _).mpr (Or.inr rfl), rfl, rfl⟩,
        fun identity kept => (members identity).mpr (Or.inl kept), ?_⟩
      rintro ⟨identity, member, same⟩
      exact absurd same (fits identity member)

/-- A creation that returns, as a call on its own. -/
theorem createIdempotent_of_perform {job : DetailFetchJob} {createdAt updatedAt : Instant}
    {db : Db} {reply : QueueReply}
    (returned : (perform (.createIdempotent job createdAt updatedAt) db).1 = .ok reply) :
    ∃ jobId, reply = .jobId jobId ∧ createIdempotent job createdAt updatedAt db =
      (.ok jobId, (perform (.createIdempotent job createdAt updatedAt) db).2) := by
  simp only [perform] at returned ⊢
  cases result : createIdempotent job createdAt updatedAt db with
  | mk outcome next =>
      rw [result] at returned
      cases outcome with
      | error raised => cases returned
      | ok jobId =>
          obtain rfl := Except.ok.inj returned
          exact ⟨jobId, rfl, rfl⟩

/-- Only a creation touches the identities. -/
theorem QueueEffect.identities {db next : Db} {call : QueueCall}
    {result : Except PyError QueueReply} (effect : QueueEffect db call result next) :
    next.identities = db.identities ∨
      ∃ job createdAt updatedAt, call = .createIdempotent job createdAt updatedAt := by
  cases effect with
  | raised | idle => exact Or.inl rfl
  | found | created => exact Or.inr ⟨_, _, _, rfl⟩
  | leased leased =>
      rw [leased.frame]
      exact Or.inl rfl
  | succeeded finished =>
      rw [finished.frame]
      exact Or.inl rfl
  | failed finished =>
      rw [finished.frame]
      exact Or.inl rfl
  | recovered recovery =>
      rw [recovery.frame]
      exact Or.inl rfl

/-- No call forgets an identity. -/
theorem identities_kept (call : QueueCall) (db : Db) :
    ∀ identity ∈ db.identities, identity ∈ (perform call db).2.identities := by
  rcases (perform_effect call db).identities with same | ⟨job, createdAt, updatedAt, rfl⟩
  · rw [same]
    exact fun _ kept => kept
  · cases result : (perform (.createIdempotent job createdAt updatedAt) db).1 with
    | error raised =>
        rw [raise_changes_nothing result]
        exact fun _ kept => kept
    | ok reply =>
        obtain ⟨_, _, call⟩ := createIdempotent_of_perform result
        exact (createIdempotent_identities call).2.1

/-! ## Jobs and accepted creations -/

theorem Created.hasKey {job : DetailFetchJob} {row : JobRow} {db next : Db}
    (created : Created job row db next) : HasKey row job := by
  obtain ⟨_, run, source, listing, _, reason⟩ := created.identity
  exact ⟨run, source, listing, reason⟩

theorem Created.stored {job : DetailFetchJob} {row : JobRow} {db next : Db}
    (created : Created job row db next) : row ∈ next.jobs := by
  rw [← Table.mem_rows, created.jobs]
  exact List.mem_append_right _ (List.mem_singleton_self _)

/-- A call that puts a new job into the table is an accepted creation of its key, for a
job of its identifier. -/
theorem QueueEffect.accepts {db next : Db} {call : QueueCall}
    {result : Except PyError QueueReply} (effect : QueueEffect db call result next)
    {job : DetailFetchJob} {after : JobRow} (created : Created job after db next) :
    acceptedFor (keyOfRow after) (call, result) = some after.jobId := by
  have grown : next.jobs.rows ≠ db.jobs.rows := by
    rw [created.jobs]
    simp
  cases effect with
  | raised => exact absurd rfl grown
  | idle => exact absurd rfl grown
  | found _ _ frame =>
      rw [frame] at grown
      exact absurd rfl grown
  | created made =>
      have same : after = _ := List.cons.inj (List.append_cancel_left
        (created.jobs.symm.trans made.jobs)) |>.1
      rw [same, acceptedFor_eq_some]
      exact ⟨_, _, _, _, rfl, rfl, (keyOfRow_eq_keyOfJob.mpr made.hasKey).symm,
        made.identity.1.symm⟩
  | leased leased =>
      have length := congrArg List.length (created.jobs.symm.trans leased.jobs)
      simp at length
  | succeeded finished =>
      have length := congrArg List.length (created.jobs.symm.trans finished.jobs)
      simp at length
  | failed finished =>
      have length := congrArg List.length (created.jobs.symm.trans finished.jobs)
      simp at length
  | recovered recovery =>
      have length := congrArg List.length (created.jobs.symm.trans recovery.jobs)
      simp at length

/-- Each job is the one of the first accepted creation of its key, and its listing
is registered. -/
structure Keyed (past : List (QueueCall × Except PyError QueueReply)) (db : Db) : Prop where
  owner : ∀ row ∈ db.jobs, firstAccepted (keyOfRow row) past = some row.jobId
  free : ∀ key, (∀ row ∈ db.jobs, keyOfRow row ≠ key) → firstAccepted key past = none
  identified : ∀ row ∈ db.jobs, Identified db row.sourceName row.sourceListingKey

/-- Every job before a call is there after it under the same key. -/
theorem key_kept (call : QueueCall) {db : Db} {row : JobRow} (member : row ∈ db.jobs) :
    ∃ after ∈ (perform call db).2.jobs, after.jobId = row.jobId ∧ keyOfRow after = keyOfRow row ∧
      after.sourceName = row.sourceName ∧ after.sourceListingKey = row.sourceListingKey := by
  obtain ⟨after, afterMember, sameId, event, step, _⟩ := (perform_effect call db).step member
  have same : SameIdentity row after := step.identity
  exact ⟨after, afterMember, sameId, same.key, same.sourceName, same.sourceListingKey⟩

theorem Keyed.step {past : List (QueueCall × Except PyError QueueReply)} {db : Db}
    (keyed : Keyed past db) (call : QueueCall) :
    Keyed (past ++ [(call, (perform call db).1)]) (perform call db).2 where
  owner after member := by
    rw [firstAccepted_snoc]
    rcases (perform_effect call db).origin member with
      ⟨row, rowMember, sameId⟩ | ⟨job, _, _, _, created⟩
    · obtain ⟨stored, storedMember, storedId, sameKey, _⟩ := key_kept call rowMember
      obtain rfl : stored = after := job_eq_of_id storedMember member (storedId.trans sameId)
      rw [sameKey, keyed.owner row rowMember, storedId]
      rfl
    · have unused : ∀ row ∈ db.jobs, keyOfRow row ≠ keyOfRow after := by
        intro row rowMember sameKey
        exact created.fits row rowMember (Or.inr (keyOfRow_eq.mp sameKey))
      rw [keyed.free _ unused, (perform_effect call db).accepts created]
      rfl
  free key absent := by
    have unused : ∀ row ∈ db.jobs, keyOfRow row ≠ key := by
      intro row rowMember sameKey
      obtain ⟨after, afterMember, _, afterKey, _⟩ := key_kept call rowMember
      exact absent after afterMember (afterKey.trans sameKey)
    rw [firstAccepted_snoc, keyed.free key unused, Option.none_or]
    cases accepted : acceptedFor key (call, (perform call db).1) with
    | none => rfl
    | some jobId =>
        exfalso
        obtain ⟨job, createdAt, updatedAt, reply, rfl, result, rfl, _⟩ :=
          acceptedFor_eq_some.mp accepted
        have effect := perform_effect (.createIdempotent job createdAt updatedAt) db
        rw [result] at effect
        generalize (perform (.createIdempotent job createdAt updatedAt) db).2 = next
          at effect absent
        cases effect with
        | found rowMember hasKey _ => exact unused _ rowMember (keyOfRow_eq_keyOfJob.mpr hasKey)
        | created made => exact absent _ made.stored (keyOfRow_eq_keyOfJob.mpr made.hasKey)
  identified after member := by
    rcases (perform_effect call db).origin member with
      ⟨row, rowMember, sameId⟩ | ⟨job, createdAt, updatedAt, rfl, created⟩
    · obtain ⟨stored, storedMember, storedId, _, sameSource, sameListing⟩ :=
        key_kept call rowMember
      obtain rfl : stored = after := job_eq_of_id storedMember member (storedId.trans sameId)
      obtain ⟨identity, listed, same⟩ := keyed.identified row rowMember
      rw [sameSource, sameListing]
      exact ⟨identity, identities_kept call db identity listed, same⟩
    · have accepted := (perform_effect _ db).accepts created
      obtain ⟨_, _, _, _, _, returned, _⟩ := acceptedFor_eq_some.mp accepted
      obtain ⟨_, _, call⟩ := createIdempotent_of_perform returned
      rw [created.identity.2.2.1, created.identity.2.2.2.1]
      exact (createIdempotent_identities call).1

theorem keyed_after {start : Db} (empty : EmptyQueue start) (calls : List QueueCall) :
    Keyed (History.events perform start calls) (History.after perform start calls) := by
  refine History.history_invariant perform (fun past call db keyed => keyed.step call) ?_ calls
  have noJob : ∀ row, row ∉ start.jobs := by
    intro row member
    rw [← Table.mem_rows, empty.1] at member
    cases member
  exact
    { owner := fun row member => absurd member (noJob row)
      free := fun _ _ => rfl
      identified := fun row member => absurd member (noJob row) }

/-! ## One creation -/

/-- The key of a created job was free. -/
theorem Created.newKey {job : DetailFetchJob} {row : JobRow} {db next : Db}
    (made : Created job row db next) : ∀ stored ∈ db.jobs, keyOfRow stored ≠ keyOfJob job := by
  intro stored member sameKey
  have clash : stored.SameKey row :=
    keyOfRow_eq.mp (sameKey.trans (keyOfRow_eq_keyOfJob.mpr made.hasKey).symm)
  exact made.fits stored member (Or.inr clash)

/-- A creation that returns yields the identifier of the first accepted one, and the job
of that identifier is stored under its key. -/
theorem firstAccepted_of_returned {past : List (QueueCall × Except PyError QueueReply)} {db : Db}
    (keyed : Keyed past db) {job : DetailFetchJob} {createdAt updatedAt : Instant}
    {reply : QueueReply}
    (returned : (perform (.createIdempotent job createdAt updatedAt) db).1 = .ok reply) :
    ∃ jobId, reply = .jobId jobId ∧
      firstAccepted (keyOfJob job)
        (past ++ [(.createIdempotent job createdAt updatedAt, .ok reply)]) = some jobId ∧
      ∃ row ∈ (perform (.createIdempotent job createdAt updatedAt) db).2.jobs,
        HasKey row job ∧ row.jobId = jobId := by
  have effect := perform_effect (.createIdempotent job createdAt updatedAt) db
  rw [returned] at effect
  have accepted : acceptedFor (keyOfJob job)
      (.createIdempotent job createdAt updatedAt, .ok reply) = some job.jobId :=
    acceptedFor_eq_some.mpr ⟨job, createdAt, updatedAt, reply, rfl, rfl, rfl, rfl⟩
  rw [firstAccepted_snoc, accepted]
  generalize (perform (.createIdempotent job createdAt updatedAt) db).2 = next at effect
  cases effect with
  | @found _ _ _ row _ member hasKey frame =>
      have same : next.jobs = db.jobs := by rw [frame]
      refine ⟨row.jobId, rfl, ?_, row, same ▸ member, hasKey, rfl⟩
      rw [← keyOfRow_eq_keyOfJob.mpr hasKey, keyed.owner row member]
      rfl
  | @created _ _ _ row _ made =>
      refine ⟨job.jobId, rfl, ?_, row, made.stored, made.hasKey, made.identity.1⟩
      rw [keyed.free _ made.newKey]
      rfl

/-- A creation whose key is taken changes nothing, whether it returns or raises. -/
theorem createIdempotent_repeated {past : List (QueueCall × Except PyError QueueReply)} {db : Db}
    (keyed : Keyed past db) {job : DetailFetchJob} (createdAt updatedAt : Instant) {row : JobRow}
    (member : row ∈ db.jobs) (hasKey : HasKey row job) :
    (perform (.createIdempotent job createdAt updatedAt) db).2 = db := by
  cases result : (perform (.createIdempotent job createdAt updatedAt) db).1 with
  | error raised => exact raise_changes_nothing result
  | ok reply =>
      obtain ⟨jobId, rfl, call⟩ := createIdempotent_of_perform result
      have registered := keyed.identified row member
      rw [hasKey.2.1, hasKey.2.2.1] at registered
      have same := (createIdempotent_identities call).2.2 registered
      have effect := perform_effect (.createIdempotent job createdAt updatedAt) db
      rw [result] at effect
      generalize (perform (.createIdempotent job createdAt updatedAt) db).2 = next
        at effect same
      cases effect with
      | found _ _ frame =>
          rw [frame, same]
      | created made =>
          exact absurd (keyOfRow_eq_keyOfJob.mpr hasKey) (made.newKey row member)

/-- A creation with a free key returns only with a free identifier and a known run. -/
theorem createIdempotent_new {db : Db} {job : DetailFetchJob} {createdAt updatedAt : Instant}
    {reply : QueueReply} (unused : ∀ row ∈ db.jobs, ¬ HasKey row job)
    (returned : (perform (.createIdempotent job createdAt updatedAt) db).1 = .ok reply) :
    (∀ row ∈ db.jobs, row.jobId ≠ job.jobId) ∧
      ∃ run ∈ db.runs, run.crawlRunId = job.crawlRunId := by
  obtain ⟨jobId, rfl, _⟩ := createIdempotent_of_perform returned
  have effect := perform_effect (.createIdempotent job createdAt updatedAt) db
  rw [returned] at effect
  generalize (perform (.createIdempotent job createdAt updatedAt) db).2 = next at effect
  cases effect with
  | found member hasKey _ => exact absurd hasKey (unused _ member)
  | created made =>
      refine ⟨fun row member sameId => ?_, made.run⟩
      exact made.fits row member (Or.inl (sameId.trans made.identity.1.symm))

/-- Creation is idempotent: after any history of the queue each key has one job, and it
is the one that the first accepted call for its key asked for; a returning call yields
that identifier and leaves the job stored, a repeated call and a raising call change
nothing, and a new key is refused when its identifier is taken or its run unknown. -/
theorem createIdempotent_idempotent (start : Db) (empty : EmptyQueue start)
    (calls : List QueueCall) (job : DetailFetchJob) (createdAt updatedAt : Instant) :
    let past := History.events perform start calls
    let db := History.after perform start calls
    let call := QueueCall.createIdempotent job createdAt updatedAt
    let result := (perform call db).1
    let next := (perform call db).2
    (∀ row ∈ next.jobs, ∀ other ∈ next.jobs, row.SameKey other → row = other) ∧
      (∀ row ∈ next.jobs, firstAccepted (keyOfRow row) (past ++ [(call, result)]) =
        some row.jobId) ∧
      (∀ reply, result = .ok reply → ∃ jobId, reply = .jobId jobId ∧
        firstAccepted (keyOfJob job) (past ++ [(call, result)]) = some jobId ∧
          ∃ row ∈ next.jobs, HasKey row job ∧ row.jobId = jobId) ∧
      ((firstAccepted (keyOfJob job) past).isSome → next = db) ∧
      (∀ raised, result = .error raised → next = db) ∧
      (firstAccepted (keyOfJob job) past = none →
        (∃ row ∈ db.jobs, row.jobId = job.jobId) ∨
            (∀ run ∈ db.runs, run.crawlRunId ≠ job.crawlRunId) →
          ∃ raised, result = .error raised) := by
  intro past db call result next
  have keyed : Keyed past db := keyed_after empty calls
  have taken : ∀ row ∈ db.jobs, HasKey row job →
      firstAccepted (keyOfJob job) past = some row.jobId := by
    intro row member hasKey
    rw [← keyOfRow_eq_keyOfJob.mpr hasKey]
    exact keyed.owner row member
  refine ⟨fun row member other otherMember same =>
    Table.eq_of_clash member otherMember (Or.inr same), (keyed.step call).owner, ?_, ?_,
    fun raised => raise_changes_nothing, ?_⟩
  · intro reply returned
    rw [returned]
    exact firstAccepted_of_returned keyed returned
  · intro repeated
    by_cases present : ∃ row ∈ db.jobs, HasKey row job
    · obtain ⟨row, member, hasKey⟩ := present
      exact createIdempotent_repeated keyed createdAt updatedAt member hasKey
    · have unused : ∀ row ∈ db.jobs, keyOfRow row ≠ keyOfJob job :=
        fun row member same => present ⟨row, member, keyOfRow_eq_keyOfJob.mp same⟩
      rw [keyed.free _ unused] at repeated
      cases repeated
  · intro first clash
    cases outcome : result with
    | error raised => exact ⟨raised, rfl⟩
    | ok reply =>
        have unused : ∀ row ∈ db.jobs, ¬ HasKey row job := by
          intro row member hasKey
          rw [taken row member hasKey] at first
          cases first
        obtain ⟨newId, run, known, sameRun⟩ := createIdempotent_new unused outcome
        rcases clash with ⟨row, member, sameId⟩ | unknown
        · exact absurd sameId (newId row member)
        · exact absurd sameRun (unknown run known)

/-- After the sample calls the first job is requested again with another
identifier, and nothing changes. -/
theorem createIdempotent_idempotent_on_sample :
    firstAccepted (keyOfJob (sampleJob "job-2" "listing-1"))
        (History.events perform sampleStart sampleCalls) = some "job-1" ∧
      (perform (.createIdempotent (sampleJob "job-2" "listing-1") sampleMorning sampleMorning)
        (History.after perform sampleStart sampleCalls)).2 =
          History.after perform sampleStart sampleCalls := by
  have first : firstAccepted (keyOfJob (sampleJob "job-2" "listing-1"))
      (History.events perform sampleStart sampleCalls) = some "job-1" := by decide +kernel
  refine ⟨first, ?_⟩
  exact (createIdempotent_idempotent sampleStart ⟨rfl, rfl⟩ sampleCalls
    (sampleJob "job-2" "listing-1") sampleMorning sampleMorning).2.2.2.1 (first ▸ rfl)

end ScraperProject.Orchestration
