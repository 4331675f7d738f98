import ScraperProject.Orchestration.Store
import ScraperProject.Orchestration.WorkerHistory
import ScraperProject.Orchestration.WorkerListing

/-!
Contract: the command `runtime fixture-crawl`.

Owns the calls of the command with the records it builds, and its effect on any store:
under fresh identifiers it never fails, and it adds one run, one partition, one
observation, one job and one checkpoint, and touches no other row but the entries of its
source and its listing.

Does not own the opening of the store or the parsing of arguments.
-/

namespace ScraperProject.Cli

open Foundation
open Database
open Contracts
open Orchestration

/-! ## The command -/

/-- What one command takes from outside: the identifiers of `uuid4`, the reading of the
clock for its records, and those of the calls, in their order. -/
structure CrawlInputs where
  crawlRunId : String
  partitionId : String
  observationId : String
  jobId : String
  now : Instant
  clock : Nat → Instant

/-- An action on the store that may raise; a raise ends the command. -/
abbrev StoreAction (α : Type) := Store → Except PyError α × Store

def andThen {α β : Type} (first : StoreAction α) (next : α → StoreAction β) : StoreAction β :=
  fun store =>
    match first store with
    | (.ok value, later) => next value later
    | (.error raised, later) => (.error raised, later)

/-- The constructor of a dataclass checks its fields. -/
def construct {α : Type} (value : α) (postInit : Except PyError Unit) : StoreAction α :=
  fun store => (postInit.map fun _ => value, store)

def sourceName : String := "fixture_source"

def listingKey : String := "fixture-listing-001"

def listingUrl : String := "https://example.invalid/fixture-listing-001"

def fixtureObservation (inputs : CrawlInputs) : DiscoveryObservation where
  contractVersion := contractVersion
  crawlRunId := inputs.crawlRunId
  sourceName := sourceName
  sourceListingKey := listingKey
  listingUrl := listingUrl
  observedAt := .ofInstant inputs.now
  visibleTitle := some "Synthetic fixture boat"
  visiblePriceText := none
  visibleCurrency := none
  visibleSpecs := []
  visibleStatus := some "observed"
  cardFingerprint := some "fixture-card-v1"
  discoveryPartition := "fixture-page-1"

def fixtureJob (inputs : CrawlInputs) : DetailFetchJob where
  contractVersion := contractVersion
  jobId := inputs.jobId
  crawlRunId := inputs.crawlRunId
  sourceName := sourceName
  sourceListingKey := listingKey
  listingUrl := listingUrl
  reasonCode := .newListing
  priority := 0
  attemptNumber := 1
  maxAttempts := 3
  scheduledAt := .ofInstant inputs.now
  metadata := [("fixture", .str "synthetic")]

/-- What the command prints. -/
def crawlText (inputs : CrawlInputs) (jobId : String) : List Char :=
  Json.dumps .spaced (.obj
    [ ("crawl_run_id", .str inputs.crawlRunId), ("partition_id", .str inputs.partitionId),
      ("job_id", .str jobId) ])

/-- `_runtime_fixture_crawl`: what it prints, or the exception that ends it. -/
def fixtureCrawl (library : StandardLibrary) (inputs : CrawlInputs) : StoreAction (List Char) :=
  andThen (performStore library (.upsertSource sourceName false "stable_source_key"
    (some "Synthetic local fixture only.") (inputs.clock 0))) fun _ =>
  andThen (performStore library (.createRun inputs.crawlRunId sourceName "fixture"
    (inputs.clock 1))) fun _ =>
  andThen (performStore library (.startRun inputs.crawlRunId (inputs.clock 2))) fun _ =>
  andThen (performStore library (.createPartition inputs.partitionId inputs.crawlRunId sourceName
    "fixture-page-1" (inputs.clock 3) (inputs.clock 4))) fun _ =>
  andThen (construct (fixtureObservation inputs)
    ((fixtureObservation inputs).postInit library)) fun observation =>
  andThen (performStore library
    (.appendObservation observation none inputs.observationId)) fun _ =>
  andThen (construct (fixtureJob inputs) ((fixtureJob inputs).postInit library)) fun job =>
  andThen (performStore library
    (.queue (.createIdempotent job (inputs.clock 5) (inputs.clock 6)))) fun reply =>
  andThen (performStore library (.saveCheckpoint inputs.crawlRunId inputs.partitionId
    "fixture-page-1" (inputs.clock 7))) fun _ store =>
  match reply with
  | .queue (.jobId jobId) => (.ok (crawlText inputs jobId), store)
  | _ => (.error .assertionError, store)

/-! ## The records are valid -/

section Records

variable {library : StandardLibrary}

/-- `urlsplit` finds the host of the listing, and accepts it. -/
theorem listingUrl_valid (accepted : library.netlocRefused "example.invalid".toList = false)
    (fieldName : String) : requireHttpUrl library listingUrl fieldName = .ok () := by
  have split : Text.urlsplit library.netlocRefused listingUrl.toList =
      some ⟨"https".toList, "example.invalid".toList⟩ :=
    Text.urlsplit_accepts (by decide) accepted
  have named : requireText listingUrl fieldName = .ok () :=
    requireText_of_notBlank fieldName (by decide)
  rw [requireHttpUrl, named]
  simp [bind, Except.bind, split]

theorem sourceIdentity_valid (accepted : library.netlocRefused "example.invalid".toList = false) :
    requireSourceIdentity library sourceName listingKey listingUrl = .ok () := by
  have source : requireText sourceName "source_name" = .ok () :=
    requireText_of_notBlank _ (by decide)
  have key : requireText listingKey "source_listing_key" = .ok () :=
    requireText_of_notBlank _ (by decide)
  rw [requireSourceIdentity, source, key, listingUrl_valid accepted]
  rfl

theorem fixtureObservation_valid {inputs : CrawlInputs}
    (accepted : library.netlocRefused "example.invalid".toList = false)
    (named : Text.isBlank inputs.crawlRunId = false) :
    (fixtureObservation inputs).postInit library = .ok () := by
  have utc : requireUtcTimestamp (.ofInstant inputs.now) "observed_at" = .ok () :=
    requireUtcTimestamp_ok.mpr rfl
  have partition : requireText "fixture-page-1" "discovery_partition" = .ok () :=
    requireText_of_notBlank _ (by decide)
  have specs : rejectSensitiveKeys library "visible_specs" (stringMappingJson []) = .ok () := rfl
  simp only [DiscoveryObservation.postInit, fixtureObservation, requireContractVersion_current,
    requireText_of_notBlank _ named, sourceIdentity_valid accepted, utc, partition, specs, bind,
    Except.bind]

theorem fixtureJob_valid {inputs : CrawlInputs}
    (accepted : library.netlocRefused "example.invalid".toList = false)
    (runNamed : Text.isBlank inputs.crawlRunId = false)
    (jobNamed : Text.isBlank inputs.jobId = false) :
    (fixtureJob inputs).postInit library = .ok () := by
  have plain : isSensitiveKey "fixture" = false := by decide +kernel
  have harmless : rejectSensitiveKeys library "metadata"
      (.obj [("fixture", .str "synthetic")]) = .ok () := by
    simp only [rejectSensitiveKeys, rejectSensitiveEntries, plain, Bool.false_eq_true, if_false,
      bind, Except.bind]
  have utc : requireUtcTimestamp (.ofInstant inputs.now) "scheduled_at" = .ok () :=
    requireUtcTimestamp_ok.mpr rfl
  simp [DetailFetchJob.postInit, fixtureJob, requireContractVersion_current,
    requireText_of_notBlank _ runNamed, requireText_of_notBlank _ jobNamed,
    sourceIdentity_valid accepted, requireNonNegativeInt, utc, harmless, bind, Except.bind]

end Records

/-! ## What a command adds -/

/-- The identifiers name something, and no row has them. -/
structure Fresh (inputs : CrawlInputs) (db : Db) : Prop where
  runNamed : Text.isBlank inputs.crawlRunId = false
  jobNamed : Text.isBlank inputs.jobId = false
  run : ∀ row ∈ db.runs, row.crawlRunId ≠ inputs.crawlRunId
  partition : ∀ row ∈ db.partitions,
    row.partitionId ≠ inputs.partitionId ∧ row.crawlRunId ≠ inputs.crawlRunId
  observation : ∀ row ∈ db.observations, row.observationId ≠ inputs.observationId
  job : ∀ row ∈ db.jobs, row.jobId ≠ inputs.jobId ∧ row.crawlRunId ≠ inputs.crawlRunId

/-- The run, as `start` leaves it. -/
def runRow (inputs : CrawlInputs) : RunRow :=
  (createdRun inputs.crawlRunId sourceName "fixture" (inputs.clock 1)).transition .running true
    false (inputs.clock 2)

def partitionRow (inputs : CrawlInputs) : PartitionRow :=
  createdPartition inputs.partitionId inputs.crawlRunId sourceName "fixture-page-1"
    (inputs.clock 3) (inputs.clock 4)

def cardRow (inputs : CrawlInputs) : ObservationRow :=
  observationRow (fixtureObservation inputs) inputs.observationId inputs.now.text

/-- A job that waits for the first of its three attempts. -/
structure QueuedJob (inputs : CrawlInputs) (row : JobRow) : Prop where
  jobId : row.jobId = inputs.jobId
  crawlRunId : row.crawlRunId = inputs.crawlRunId
  listing : row.sourceName = sourceName ∧ row.sourceListingKey = listingKey ∧
    row.listingUrl = listingUrl
  waits : row.state = .pending ∧ row.leaseOwner = none ∧ row.leaseExpiresAt = none
  attempts : row.attemptCount = 0 ∧ row.maxAttempts = 3
  scheduled : row.scheduledAt = inputs.now.text

/-- What commands with these inputs have added to a store. -/
structure Recorded (crawls : List CrawlInputs) (before next : Store) : Prop where
  runs : next.db.runs.rows = before.db.runs.rows ++ crawls.map runRow
  partitions : next.db.partitions.rows = before.db.partitions.rows ++ crawls.map partitionRow
  observations : next.db.observations.rows = before.db.observations.rows ++ crawls.map cardRow
  jobs : ∃ added, next.db.jobs.rows = before.db.jobs.rows ++ added ∧
    List.Forall₂ QueuedJob crawls added
  checkpoints : ∀ run partition, storedCheckpoint next.db run partition =
    if (run, partition) ∈ crawls.map (fun inputs => (inputs.crawlRunId, inputs.partitionId)) then
      some "fixture-page-1"
    else storedCheckpoint before.db run partition
  untouched : next = { before with
    db := { before.db with
      sources := next.db.sources
      runs := next.db.runs
      partitions := next.db.partitions
      identities := next.db.identities
      observations := next.db.observations
      jobs := next.db.jobs
      checkpoints := next.db.checkpoints } }

theorem Recorded.nothing (store : Store) : Recorded [] store store where
  runs := (List.append_nil _).symm
  partitions := (List.append_nil _).symm
  observations := (List.append_nil _).symm
  jobs := ⟨[], (List.append_nil _).symm, .nil⟩
  checkpoints _ _ := rfl
  untouched := rfl

/-- What one command adds and what further ones add make one record. -/
theorem Recorded.cons {inputs : CrawlInputs} {crawls : List CrawlInputs}
    {before middle next : Store} (first : Recorded [inputs] before middle)
    (rest : Recorded crawls middle next) : Recorded (inputs :: crawls) before next where
  runs := by rw [rest.runs, first.runs, List.append_assoc]; rfl
  partitions := by rw [rest.partitions, first.partitions, List.append_assoc]; rfl
  observations := by rw [rest.observations, first.observations, List.append_assoc]; rfl
  jobs := by
    obtain ⟨one, oneRows, queued⟩ := first.jobs
    obtain ⟨others, otherRows, othersQueued⟩ := rest.jobs
    cases queued with
    | cons isQueued nothing =>
      cases nothing
      refine ⟨_ :: others, ?_, .cons isQueued othersQueued⟩
      rw [otherRows, oneRows, List.append_assoc]
      rfl
  checkpoints run partition := by
    rw [rest.checkpoints run partition, first.checkpoints run partition]
    simp only [List.map_cons, List.map_nil, List.mem_cons, List.not_mem_nil, or_false]
    by_cases later : (run, partition) ∈
        crawls.map fun inputs => (inputs.crawlRunId, inputs.partitionId)
    · simp [later]
    · simp [later]
  untouched := by rw [rest.untouched, first.untouched]

/-! ## One command -/

section Calls

variable {α β : Type} {db : Db} {store : Store}

/-- A call on the database that returns hands its reply on. -/
theorem call_ok {library : StandardLibrary} {call : StoreCall} {action : Action α}
    {reply : α → StoreReply} {rest : StoreReply → StoreAction β} {value : α} {next : Db}
    (isCall : performStore library call store = store.onDb action reply)
    (called : action store.db = (.ok value, next)) :
    andThen (performStore library call) rest store =
      rest (reply value) { store with db := next } := by
  rw [andThen, isCall, Store.onDb, called]
  rfl

theorem construct_ok {value : α} {postInit : Except PyError Unit} {rest : α → StoreAction β}
    (valid : postInit = .ok ()) :
    andThen (construct value postInit) rest store = rest value store := by
  rw [andThen, construct, valid]
  rfl

theorem createRun_ok {crawlRunId source runKind : String} {clock : Instant}
    (isNew : ∀ row ∈ db.runs, row.crawlRunId ≠ crawlRunId)
    (registered : ∃ row ∈ db.sources, row.sourceName = source) :
    ∃ runs : Table RunRow,
      createRun crawlRunId source runKind clock db = (.ok (), { db with runs := runs }) ∧
        runs.rows = db.runs.rows ++ [createdRun crawlRunId source runKind clock] := by
  have returned := @createRun_succeeds crawlRunId source runKind clock db isNew registered
  rcases createRun_cases (Prod.eta (createRun crawlRunId source runKind clock db)).symm with
    ⟨raised, isError, _⟩ | ⟨_, runs, same, rows⟩
  · rw [returned] at isError
    cases isError
  · exact ⟨runs, Prod.ext returned same, rows⟩

/-- `start` on a created run that comes last changes no other run. -/
theorem startRun_ok {others : List RunRow} {row : RunRow} {clock : Instant}
    (rows : db.runs.rows = others ++ [row])
    (isNew : ∀ other ∈ others, other.crawlRunId ≠ row.crawlRunId) (state : row.state = .created) :
    ∃ runs : Table RunRow,
      startRun row.crawlRunId clock db = (.ok (), { db with runs := runs }) ∧
        runs.rows = others ++ [row.transition .running true false clock] := by
  obtain ⟨isOk, runs, same, mapped⟩ :=
    transitionRun_cases (Prod.eta (startRun row.crawlRunId clock db)).symm
  have member : row ∈ db.runs := by
    rw [← Table.mem_rows, rows]
    simp
  refine ⟨runs, Prod.ext (isOk.mpr ⟨row, member, rfl, state⟩) same, ?_⟩
  have kept : ∀ other ∈ others,
      transitionedRun row.crawlRunId .created .running true false clock other = other :=
    fun other listed => if_neg fun selected => isNew other listed selected.1
  rw [mapped, rows, List.map_append, List.map_congr_left kept, List.map_id']
  exact congrArg (fun changed => others ++ [changed]) (if_pos ⟨rfl, state⟩)

theorem createPartition_ok {partitionId crawlRunId source partitionKey : String}
    {createdAt updatedAt : Instant}
    (isNew : ∀ row ∈ db.partitions, row.partitionId ≠ partitionId ∧ row.crawlRunId ≠ crawlRunId)
    (run : ∃ row ∈ db.runs, row.crawlRunId = crawlRunId) :
    ∃ partitions : Table PartitionRow,
      createPartition partitionId crawlRunId source partitionKey createdAt updatedAt db =
          (.ok (), { db with partitions := partitions }) ∧
        partitions.rows = db.partitions.rows ++
          [createdPartition partitionId crawlRunId source partitionKey createdAt updatedAt] := by
  have returned := @createPartition_succeeds partitionId crawlRunId source partitionKey createdAt
    updatedAt db isNew run
  rcases createPartition_cases (Prod.eta (createPartition partitionId crawlRunId source
    partitionKey createdAt updatedAt db)).symm with
    ⟨raised, isError, _⟩ | ⟨_, partitions, same, rows⟩
  · rw [returned] at isError
    cases isError
  · exact ⟨partitions, Prod.ext returned same, rows⟩

theorem appendObservation_ok {inputs : CrawlInputs}
    (isNew : ∀ row ∈ db.observations, row.observationId ≠ inputs.observationId)
    (run : ∃ row ∈ db.runs, row.crawlRunId = inputs.crawlRunId) :
    ∃ (identities : Table IdentityRow) (observations : Table ObservationRow),
      appendObservation (fixtureObservation inputs) (recordIdOf none inputs.observationId) db =
          (.ok inputs.observationId,
            { db with identities := identities, observations := observations }) ∧
        observations.rows = db.observations.rows ++ [cardRow inputs] := by
  have printed : timestamp (fixtureObservation inputs).observedAt = .ok inputs.now.text :=
    timestamp_ok_iff.mpr ⟨inputs.now, Datetime.astimezoneUtc_ofInstant inputs.now, rfl⟩
  have returned := appendObservation_succeeds printed isNew run
  show ∃ identities observations,
    appendObservation (fixtureObservation inputs) inputs.observationId db = _ ∧ _
  generalize called : appendObservation (fixtureObservation inputs) inputs.observationId db =
    outcome at returned ⊢
  obtain ⟨result, next⟩ := outcome
  cases returned
  rw [appendObservation, printed] at called
  obtain ⟨observations, inserted, body⟩ := bind_eq_ok.mp (writeTransaction_ok.mp called)
  obtain ⟨_, _, body⟩ := bind_eq_ok.mp body
  obtain ⟨_, rfl⟩ := Prod.mk.inj (Except.ok.inj body)
  exact ⟨_, observations, rfl, (Table.insert?_eq_some.mp (insertRow_ok.mp inserted)).2⟩

theorem createIdempotent_queued {inputs : CrawlInputs} {createdAt updatedAt : Instant}
    (isNew : ∀ row ∈ db.jobs, row.jobId ≠ inputs.jobId ∧ row.crawlRunId ≠ inputs.crawlRunId)
    (run : ∃ row ∈ db.runs, row.crawlRunId = inputs.crawlRunId) :
    ∃ (identities : Table IdentityRow) (jobs : Table JobRow) (row : JobRow),
      createIdempotent (fixtureJob inputs) createdAt updatedAt db =
          (.ok inputs.jobId, { db with identities := identities, jobs := jobs }) ∧
        jobs.rows = db.jobs.rows ++ [row] ∧ QueuedJob inputs row := by
  have printed : timestamp (fixtureJob inputs).scheduledAt = .ok inputs.now.text :=
    timestamp_ok_iff.mpr ⟨inputs.now, Datetime.astimezoneUtc_ofInstant inputs.now, rfl⟩
  obtain ⟨reply, returned⟩ := @createIdempotent_succeeds (fixtureJob inputs) createdAt updatedAt db
    _ printed ⟨rfl, rfl⟩ (show (1 : Int) ≤ 3 by decide)
    (fun row member same => absurd same (isNew row member).1) run
  rcases createIdempotent_cases (Prod.eta (createIdempotent (fixtureJob inputs) createdAt
    updatedAt db)).symm with
    ⟨raised, isError, _⟩ | ⟨row, member, hasKey, _⟩ | ⟨row, created, isOk⟩
  · rw [returned] at isError
    cases isError
  · exact absurd hasKey.1 (isNew row member).2
  · refine ⟨_, _, row, Prod.ext isOk created.frame, created.jobs, ?_⟩
    obtain ⟨jobId, crawlRunId, source, key, url, _⟩ := created.identity
    obtain ⟨pending, attempts, owner, expiry⟩ := created.fresh
    exact
      { jobId := jobId
        crawlRunId := crawlRunId
        listing := ⟨source, key, url⟩
        waits := ⟨pending, owner, expiry⟩
        attempts := ⟨attempts, created.bounds.2⟩
        scheduled := Except.ok.inj (created.scheduled.symm.trans printed) }

theorem perform_created {job : DetailFetchJob} {createdAt updatedAt : Instant} {jobId : String}
    {next : Db} (called : createIdempotent job createdAt updatedAt db = (.ok jobId, next)) :
    perform (.createIdempotent job createdAt updatedAt) db = (.ok (.jobId jobId), next) := by
  rw [perform, called]
  rfl

theorem saveCheckpoint_ok {crawlRunId partitionId value : String} {clock : Instant}
    (run : ∃ row ∈ db.runs, row.crawlRunId = crawlRunId)
    (partition : ∃ row ∈ db.partitions, row.partitionId = partitionId) :
    ∃ checkpoints : Table CheckpointRow,
      saveCheckpoint crawlRunId partitionId value clock db =
          (.ok (), { db with checkpoints := checkpoints }) ∧
        ∀ otherRun otherPartition,
          storedCheckpoint { db with checkpoints := checkpoints } otherRun otherPartition =
            if otherRun = crawlRunId ∧ otherPartition = partitionId then some value
            else storedCheckpoint db otherRun otherPartition := by
  have returned := @saveCheckpoint_succeeds crawlRunId partitionId value clock db run partition
  rcases saveCheckpoint_cases (Prod.eta (saveCheckpoint crawlRunId partitionId value clock
    db)).symm with ⟨raised, isError, _⟩ | ⟨_, checkpoints, same, stored⟩
  · rw [returned] at isError
    cases isError
  · rw [same] at stored
    exact ⟨checkpoints, Prod.ext returned same, stored⟩

end Calls

/-- On fresh identifiers the command returns, and leaves its records behind. -/
theorem fixtureCrawl_ok {library : StandardLibrary} {inputs : CrawlInputs} {store : Store}
    (accepted : library.netlocRefused "example.invalid".toList = false)
    (fresh : Fresh inputs store.db) :
    ∃ next, fixtureCrawl library inputs store = (.ok (crawlText inputs inputs.jobId), next) ∧
      Recorded [inputs] store next := by
  obtain ⟨isUpserted, sources, upserted, registered⟩ := upsertSource_cases
    (Prod.eta (upsertSource sourceName false "stable_source_key"
      (some "Synthetic local fixture only.") (inputs.clock 0) store.db)).symm
  let known : Db := { store.db with sources := sources }
  obtain ⟨created, isCreated, createdRows⟩ := @createRun_ok known inputs.crawlRunId sourceName
    "fixture" (inputs.clock 1) fresh.run registered
  let announced : Db := { known with runs := created }
  obtain ⟨runs, isStarted, runRows⟩ := @startRun_ok announced store.db.runs.rows _
    (inputs.clock 2) createdRows fresh.run rfl
  let started : Db := { announced with runs := runs }
  have run : ∃ row ∈ runs, row.crawlRunId = inputs.crawlRunId := by
    refine ⟨runRow inputs, ?_, rfl⟩
    rw [← Table.mem_rows, runRows]
    exact List.mem_append_right _ (List.mem_singleton_self _)
  obtain ⟨partitions, isPartitioned, partitionRows⟩ := @createPartition_ok started
    inputs.partitionId inputs.crawlRunId sourceName "fixture-page-1" (inputs.clock 3)
    (inputs.clock 4) fresh.partition run
  let divided : Db := { started with partitions := partitions }
  have partition : ∃ row ∈ partitions, row.partitionId = inputs.partitionId := by
    refine ⟨partitionRow inputs, ?_, rfl⟩
    rw [← Table.mem_rows, partitionRows]
    exact List.mem_append_right _ (List.mem_singleton_self _)
  obtain ⟨seen, observations, isAppended, cardRows⟩ :=
    @appendObservation_ok divided inputs fresh.observation run
  let observed : Db := { divided with identities := seen, observations := observations }
  obtain ⟨identities, jobs, job, isQueued, jobRows, queued⟩ :=
    @createIdempotent_queued observed inputs (inputs.clock 5) (inputs.clock 6) fresh.job run
  let scheduled : Db := { observed with identities := identities, jobs := jobs }
  obtain ⟨checkpoints, isSaved, stored⟩ := @saveCheckpoint_ok scheduled inputs.crawlRunId
    inputs.partitionId "fixture-page-1" (inputs.clock 7) run partition
  refine ⟨{ store with db := { scheduled with checkpoints := checkpoints } }, ?_, ?_⟩
  · have observationValid := fixtureObservation_valid accepted fresh.runNamed
    have jobValid := fixtureJob_valid accepted fresh.runNamed fresh.jobNamed
    refine Eq.trans (call_ok rfl (Prod.ext isUpserted upserted)) ?_
    refine Eq.trans (call_ok rfl isCreated) ?_
    refine Eq.trans (call_ok rfl isStarted) ?_
    refine Eq.trans (call_ok rfl isPartitioned) ?_
    refine Eq.trans (construct_ok observationValid) ?_
    refine Eq.trans (call_ok (by rw [performStore]) isAppended) ?_
    refine Eq.trans (construct_ok jobValid) ?_
    refine Eq.trans (call_ok (by rw [performStore]) (perform_created isQueued)) ?_
    exact call_ok rfl isSaved
  · exact
      { runs := runRows
        partitions := partitionRows
        observations := cardRows
        jobs := ⟨[job], jobRows, .cons queued .nil⟩
        checkpoints := fun run partition => by
          simp only [List.map_cons, List.map_nil, List.mem_singleton, Prod.mk.injEq]
          exact stored run partition
        untouched := rfl }

/-! ## Commands in a row -/

/-- The commands of a session, each with the text that it prints or its exception. -/
def fixtureCrawls (library : StandardLibrary) :
    List CrawlInputs → Store → List (Except PyError (List Char)) × Store
  | [], store => ([], store)
  | inputs :: crawls, store =>
      let (printed, next) := fixtureCrawl library inputs store
      let (others, last) := fixtureCrawls library crawls next
      (printed :: others, last)

/-- Two commands draw different identifiers. -/
structure Apart (inputs other : CrawlInputs) : Prop where
  run : inputs.crawlRunId ≠ other.crawlRunId
  partition : inputs.partitionId ≠ other.partitionId
  observation : inputs.observationId ≠ other.observationId
  job : inputs.jobId ≠ other.jobId

/-- The records of one command take no identifier of another. -/
theorem Fresh.later {inputs other : CrawlInputs} {before next : Store}
    (fresh : Fresh other before.db) (recorded : Recorded [inputs] before next)
    (distinct : Apart inputs other) : Fresh other next.db where
  runNamed := fresh.runNamed
  jobNamed := fresh.jobNamed
  run row member := by
    rw [← Table.mem_rows, recorded.runs] at member
    rcases List.mem_append.mp member with old | new
    · exact fresh.run row old
    · rw [List.mem_singleton.mp new]
      exact distinct.run
  partition row member := by
    rw [← Table.mem_rows, recorded.partitions] at member
    rcases List.mem_append.mp member with old | new
    · exact fresh.partition row old
    · rw [List.mem_singleton.mp new]
      exact ⟨distinct.partition, distinct.run⟩
  observation row member := by
    rw [← Table.mem_rows, recorded.observations] at member
    rcases List.mem_append.mp member with old | new
    · exact fresh.observation row old
    · rw [List.mem_singleton.mp new]
      exact distinct.observation
  job row member := by
    obtain ⟨added, rows, queued⟩ := recorded.jobs
    rw [← Table.mem_rows, rows] at member
    rcases List.mem_append.mp member with old | new
    · exact fresh.job row old
    · cases queued with
      | cons isQueued nothing =>
        cases nothing
        rw [List.mem_singleton.mp new, isQueued.jobId, isQueued.crawlRunId]
        exact ⟨distinct.job, distinct.run⟩

/-- Commands that draw identifiers of their own all succeed, on any store: each prints
its identifiers and adds, in the order of the commands, a running run, a partition, an
observation, a checkpoint and a job that waits for the first of three attempts; no other
row changes but those of the source and of its listing. -/
theorem fixture_crawls_succeed (library : StandardLibrary)
    (accepted : library.netlocRefused "example.invalid".toList = false) (store : Store)
    (crawls : List CrawlInputs) (fresh : ∀ inputs ∈ crawls, Fresh inputs store.db)
    (distinct : crawls.Pairwise Apart) :
    ∃ next, fixtureCrawls library crawls store =
        (crawls.map fun inputs => .ok (crawlText inputs inputs.jobId), next) ∧
      Recorded crawls store next := by
  induction crawls generalizing store with
  | nil => exact ⟨store, rfl, .nothing store⟩
  | cons inputs crawls inductionHypothesis =>
      obtain ⟨apart, distinct⟩ := List.pairwise_cons.mp distinct
      obtain ⟨middle, printed, recorded⟩ := fixtureCrawl_ok accepted (fresh inputs List.mem_cons_self)
      have stillFresh : ∀ other ∈ crawls, Fresh other middle.db := fun other member =>
        (fresh other (List.mem_cons_of_mem _ member)).later recorded (apart other member)
      obtain ⟨next, othersPrinted, rest⟩ := inductionHypothesis middle stillFresh distinct
      refine ⟨next, ?_, recorded.cons rest⟩
      rw [fixtureCrawls, printed]
      dsimp only
      rw [othersPrinted]
      rfl

/-- The inputs of a command whose identifiers end in the same text. -/
def sampleInputs (suffix : String) : CrawlInputs where
  crawlRunId := "run-" ++ suffix
  partitionId := "partition-" ++ suffix
  observationId := "observation-" ++ suffix
  jobId := "job-" ++ suffix
  now := sampleMorning
  clock _ := sampleMorning

/-- The first two commands on a new store. -/
theorem fixture_crawls_succeed_twice :
    ∃ next, fixtureCrawls sampleLibrary [sampleInputs "1", sampleInputs "2"] Store.empty =
        ([sampleInputs "1", sampleInputs "2"].map fun inputs =>
          .ok (crawlText inputs inputs.jobId), next) ∧
      Recorded [sampleInputs "1", sampleInputs "2"] Store.empty next := by
  have nothing : ∀ {Row : Type} [Constrained Row] {property : Row → Prop},
      ∀ row ∈ (Table.empty : Table Row), property row := by
    intro Row constrained property row member
    cases member
  have fresh : ∀ inputs ∈ [sampleInputs "1", sampleInputs "2"],
      Fresh inputs Store.empty.db := by
    intro inputs member
    have named : Text.isBlank inputs.crawlRunId = false ∧ Text.isBlank inputs.jobId = false := by
      rcases List.mem_pair.mp member with rfl | rfl <;> decide
    exact ⟨named.1, named.2, nothing, nothing, nothing, nothing⟩
  exact fixture_crawls_succeed sampleLibrary rfl Store.empty _ fresh
    (List.pairwise_pair.mpr ⟨by decide, by decide, by decide, by decide⟩)

end ScraperProject.Cli
