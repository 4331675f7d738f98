import ScraperProject.Database.Schema
import ScraperProject.Foundation.JsonReader

/-!
Contract: `database.repositories`.

Owns the repository methods that the worker and the queue call and the failures
of runs, partitions and parser runs. A method takes the readings of the clock and
the fresh identifiers that the source obtains while it runs, in that order of
use.

Does not own the proxy ledger and the aggregate queries, which neither the worker
nor the queue calls.
-/

namespace ScraperProject.Database

open Foundation
open Contracts

/-! ## Source registry -/

/-- `SourceRegistryRepository.upsert`. -/
def upsertSource (sourceName : String) (enabled : Bool) (identityStrategy : String)
    (identityNotes : Option String) (clock : Instant) : Action Unit :=
  writeTransaction fun db =>
    let row : SourceRow :=
      { sourceName := sourceName
        enabled := enabled
        identityStrategy := identityStrategy
        identityNotes := identityNotes
        updatedAt := clock.text }
    match db.sources.insert? row with
    | some sources => .ok ((), { db with sources := sources })
    | none =>
        let sources := db.sources.updateWhere (fun stored => stored.sourceName = sourceName)
          (fun stored =>
            { row with sourceName := stored.sourceName }) (fun _ _ => Iff.rfl)
        .ok ((), { db with sources := sources })

/-! ## Crawl runs and partitions -/

/-- The row that `create_run` inserts. -/
def createdRun (crawlRunId sourceName runKind : String) (clock : Instant) : RunRow where
  crawlRunId := crawlRunId
  sourceName := sourceName
  runKind := runKind
  state := .created
  startedAt := none
  finishedAt := none
  createdAt := clock.text

/-- `CrawlRepository.create_run`. -/
def createRun (crawlRunId sourceName runKind : String) (clock : Instant) : Action Unit :=
  writeTransaction fun db => do
    let runs ← insertRow db.runs (createdRun crawlRunId sourceName runKind clock)
    requireReference (db.sources.rows.any fun source => source.sourceName = sourceName)
    return ((), { db with runs := runs })

/-- `CrawlRepository.get_run`. -/
def getRun (crawlRunId : String) : Action (Option RunRow) := fun db =>
  (.ok (db.runs.find? fun run => run.crawlRunId = crawlRunId), db)

def runTransitionError (crawlRunId : String) (expected target : RunState) : PyError :=
  .repositoryState ("crawl run " ++ crawlRunId ++ " cannot transition from " ++ expected.value ++
    " to " ++ target.value)

/-- The columns that a transition of a run sets. -/
def RunRow.transition (run : RunRow) (target : RunState) (setStarted setFinished : Bool)
    (clock : Instant) : RunRow :=
  { run with
    state := target
    startedAt := if setStarted then some clock.text else run.startedAt
    finishedAt := if setFinished then some clock.text else run.finishedAt }

/-- `CrawlRepository._transition_run`: the guard is in the update, and a row
count other than one raises after the commit. -/
def transitionRun (crawlRunId : String) (expected target : RunState)
    (setStarted setFinished : Bool) (clock : Instant) : Action Unit := fun db =>
  let selects := fun run : RunRow => decide (run.crawlRunId = crawlRunId ∧ run.state = expected)
  let change := fun run : RunRow => run.transition target setStarted setFinished clock
  let next := { db with runs := db.runs.updateWhere selects change fun _ _ => Iff.rfl }
  if rowcount db.runs selects ≠ 1 then
    (.error (runTransitionError crawlRunId expected target), next)
  else (.ok (), next)

/-- `CrawlRepository.start`. -/
def startRun (crawlRunId : String) (clock : Instant) : Action Unit :=
  transitionRun crawlRunId .created .running true false clock

/-- `CrawlRepository.complete`. -/
def completeRun (crawlRunId : String) (clock : Instant) : Action Unit :=
  transitionRun crawlRunId .running .completed false true clock

/-- `CrawlRepository.fail`. -/
def failRun (crawlRunId : String) (clock : Instant) : Action Unit :=
  transitionRun crawlRunId .running .failed false true clock

/-- The row that `create_partition` inserts. -/
def createdPartition (partitionId crawlRunId sourceName partitionKey : String)
    (createdAt updatedAt : Instant) : PartitionRow where
  partitionId := partitionId
  crawlRunId := crawlRunId
  sourceName := sourceName
  partitionKey := partitionKey
  state := .pending
  createdAt := createdAt.text
  updatedAt := updatedAt.text

/-- `CrawlRepository.create_partition`. -/
def createPartition (partitionId crawlRunId sourceName partitionKey : String)
    (createdAt updatedAt : Instant) : Action Unit :=
  writeTransaction fun db => do
    let partitions ← insertRow db.partitions
      (createdPartition partitionId crawlRunId sourceName partitionKey createdAt updatedAt)
    requireReference (db.runs.rows.any fun run => run.crawlRunId = crawlRunId)
    return ((), { db with partitions := partitions })

/-- `CrawlRepository.get_partition`. -/
def getPartition (partitionId : String) : Action (Option PartitionRow) := fun db =>
  (.ok (db.partitions.find? fun row => row.partitionId = partitionId), db)

def partitionTransitionError (partitionId : String) (expected target : PartitionState) :
    PyError :=
  .repositoryState ("crawl partition " ++ partitionId ++ " cannot transition from " ++
    expected.value ++ " to " ++ target.value)

/-- The columns that a transition of a partition sets. -/
def PartitionRow.transition (row : PartitionRow) (target : PartitionState) (clock : Instant) :
    PartitionRow :=
  { row with state := target, updatedAt := clock.text }

/-- `CrawlRepository._transition_partition`. -/
def transitionPartition (partitionId : String) (expected target : PartitionState)
    (clock : Instant) : Action Unit := fun db =>
  let selects := fun row : PartitionRow =>
    decide (row.partitionId = partitionId ∧ row.state = expected)
  let change := fun row : PartitionRow => row.transition target clock
  let next :=
    { db with partitions := db.partitions.updateWhere selects change fun _ _ => Iff.rfl }
  if rowcount db.partitions selects ≠ 1 then
    (.error (partitionTransitionError partitionId expected target), next)
  else (.ok (), next)

/-- `CrawlRepository.start_partition`. -/
def startPartition (partitionId : String) (clock : Instant) : Action Unit :=
  transitionPartition partitionId .pending .processing clock

/-- `CrawlRepository.complete_partition`. -/
def completePartition (partitionId : String) (clock : Instant) : Action Unit :=
  transitionPartition partitionId .processing .completed clock

/-- `CrawlRepository.fail_partition`. -/
def failPartition (partitionId : String) (clock : Instant) : Action Unit :=
  transitionPartition partitionId .processing .failed clock

/-! ## Observations -/

/-- The upsert of a listing identity by `ObservationRepository.append`. -/
def upsertIdentity (identities : Table IdentityRow)
    (sourceName sourceListingKey listingUrl observedAt : String) : Table IdentityRow :=
  let row : IdentityRow :=
    { sourceName := sourceName
      sourceListingKey := sourceListingKey
      listingUrl := listingUrl
      firstObservedAt := observedAt
      lastObservedAt := observedAt }
  match identities.insert? row with
  | some identities => identities
  | none =>
      identities.updateWhere
        (fun stored => stored.sourceName = sourceName ∧
          stored.sourceListingKey = sourceListingKey)
        (fun stored => { stored with listingUrl := listingUrl, lastObservedAt := observedAt })
        (fun _ _ => Iff.rfl)

/-- The row that `append` inserts. -/
def observationRow (observation : DiscoveryObservation) (recordId observedAt : String) :
    ObservationRow where
  observationId := recordId
  crawlRunId := observation.crawlRunId
  sourceName := observation.sourceName
  sourceListingKey := observation.sourceListingKey
  listingUrl := observation.listingUrl
  observedAt := observedAt
  visibleTitle := observation.visibleTitle
  visiblePriceText := observation.visiblePriceText
  visibleCurrency := observation.visibleCurrency
  visibleSpecsJson :=
    String.ofList (Json.dumps .spaced (stringMappingJson observation.visibleSpecs))
  visibleStatus := observation.visibleStatus
  cardFingerprint := observation.cardFingerprint
  discoveryPartition := observation.discoveryPartition

/-- `ObservationRepository.append` without a given identifier. -/
def appendObservation (observation : DiscoveryObservation) (recordId : String) :
    Action String := fun db =>
  match timestamp observation.observedAt with
  | .error raised => (.error raised, db)
  | .ok observedAt =>
      writeTransaction (fun db => do
        let identities := upsertIdentity db.identities observation.sourceName
          observation.sourceListingKey observation.listingUrl observedAt
        let observations ← insertRow db.observations
          (observationRow observation recordId observedAt)
        requireReference (db.runs.rows.any fun run => run.crawlRunId = observation.crawlRunId)
        return (recordId, { db with identities := identities, observations := observations })) db

/-! ## Jobs -/

/-- The row that `create_idempotent` inserts; a failed CHECK raises. -/
def newJobRow (job : DetailFetchJob) (scheduledAt : String) (createdAt updatedAt : Instant) :
    Except PyError JobRow :=
  if check : 1 ≤ job.maxAttempts then
    .ok
      { jobId := job.jobId
        crawlRunId := job.crawlRunId
        sourceName := job.sourceName
        sourceListingKey := job.sourceListingKey
        listingUrl := job.listingUrl
        reasonCode := job.reasonCode.value
        priority := job.priority
        attemptCount := 0
        maxAttempts := job.maxAttempts
        state := .pending
        scheduledAt := scheduledAt
        leaseOwner := none
        leaseExpiresAt := none
        metadataJson := String.ofList (Json.dumps .spaced (.obj job.metadata))
        lastErrorClass := none
        createdAt := createdAt.text
        updatedAt := updatedAt.text
        attemptCountCheck := Int.le_refl 0
        maxAttemptsCheck := check }
  else .error (.integrityError .check)

/-- `INSERT INTO detail_fetch_jobs ... ON CONFLICT(natural key) DO NOTHING`. The
natural key is tried before the primary key. -/
def insertJob (db : Db) (row : JobRow) : Except PyError (Table JobRow) :=
  if db.jobs.rows.any fun stored => decide (stored.SameKey row) then .ok db.jobs
  else do
    let jobs ← insertRow db.jobs row
    requireReference (db.runs.rows.any fun run => run.crawlRunId = row.crawlRunId)
    return jobs

/-- `JobRepository.create_idempotent`. -/
def createIdempotent (job : DetailFetchJob) (createdAt updatedAt : Instant) :
    Action String := fun db =>
  match timestamp job.scheduledAt with
  | .error raised => (.error raised, db)
  | .ok scheduledAt =>
      writeTransaction (fun db => do
        let identities :=
          (db.identities.insert?
            { sourceName := job.sourceName
              sourceListingKey := job.sourceListingKey
              listingUrl := job.listingUrl
              firstObservedAt := scheduledAt
              lastObservedAt := scheduledAt }).getD db.identities
        bindInteger job.priority
        bindInteger job.maxAttempts
        let row ← newJobRow job scheduledAt createdAt updatedAt
        let jobs ← insertJob db row
        match jobs.find? fun stored => decide (stored.SameKey row) with
        | some existing =>
            return (existing.jobId, { db with identities := identities, jobs := jobs })
        | none => .error .assertionError) db

/-! ## Checkpoints -/

/-- `CheckpointRepository.save`. -/
def saveCheckpoint (crawlRunId partitionId checkpointValue : String) (clock : Instant) :
    Action Unit :=
  writeTransaction fun db =>
    match db.checkpoints.insert?
      { crawlRunId := crawlRunId
        partitionId := partitionId
        checkpointValue := checkpointValue
        updatedAt := clock.text } with
    | some checkpoints => do
        requireReference (db.runs.rows.any fun run => run.crawlRunId = crawlRunId)
        requireReference (db.partitions.rows.any fun row => row.partitionId = partitionId)
        return ((), { db with checkpoints := checkpoints })
    | none =>
        let checkpoints := db.checkpoints.updateWhere
          (fun stored => stored.crawlRunId = crawlRunId ∧ stored.partitionId = partitionId)
          (fun stored =>
            { stored with checkpointValue := checkpointValue, updatedAt := clock.text })
          (fun _ _ => Iff.rfl)
        .ok ((), { db with checkpoints := checkpoints })

/-- The stored checkpoint of a run and partition. -/
def storedCheckpoint (db : Db) (crawlRunId partitionId : String) : Option String :=
  (db.checkpoints.find? fun stored =>
    stored.crawlRunId = crawlRunId ∧ stored.partitionId = partitionId).map
      CheckpointRow.checkpointValue

/-- `CheckpointRepository.load`. -/
def loadCheckpoint (crawlRunId partitionId : String) : Action (Option String) := fun db =>
  (.ok (storedCheckpoint db crawlRunId partitionId), db)

/-! ## Snapshots and parser runs -/

/-- The row that `SnapshotRepository.record` inserts. -/
def snapshotRow (artifact : RawFetchArtifact) (fetchedAt : String) : SnapshotRow where
  artifactId := artifact.artifactId
  jobId := artifact.jobId
  crawlRunId := artifact.crawlRunId
  sourceName := artifact.sourceName
  sourceListingKey := artifact.sourceListingKey
  listingUrl := artifact.listingUrl
  fetchedAt := fetchedAt
  fetchMethod := artifact.fetchMethod
  acquisitionVersion := artifact.acquisitionVersion
  snapshotPath := artifact.snapshotPath
  contentHash := artifact.contentHash
  responseStatus := artifact.responseStatus
  mimeType := artifact.mimeType
  artifactStatus := artifact.artifactStatus

/-- `SnapshotRepository.record`. -/
def recordSnapshot (artifact : RawFetchArtifact) : Action Unit :=
  writeTransaction fun db => do
    let fetchedAt ← timestamp artifact.fetchedAt
    (artifact.responseStatus.map bindInteger).getD (.ok ())
    let snapshots ← insertRow db.snapshots (snapshotRow artifact fetchedAt)
    requireReference (db.jobs.rows.any fun job => job.jobId = artifact.jobId)
    requireReference (db.runs.rows.any fun run => run.crawlRunId = artifact.crawlRunId)
    return ((), { db with snapshots := snapshots })

/-- `SnapshotRepository.get`. -/
def getSnapshot (artifactId : String) : Action (Option SnapshotRow) := fun db =>
  (.ok (db.snapshots.find? fun row => row.artifactId = artifactId), db)

/-- The row that `ParserRunRepository.start` inserts. -/
def startedParserRun (artifactId parserName parserVersion : String) (parserRunId : String)
    (clock : Instant) : ParserRunRow where
  parserRunId := parserRunId
  artifactId := artifactId
  parserName := parserName
  parserVersion := parserVersion
  startedAt := clock.text
  finishedAt := none
  state := .running
  failureReason := none

/-- `ParserRunRepository.start`. -/
def startParserRun (artifactId parserName parserVersion : String) (parserRunId : String)
    (clock : Instant) : Action String :=
  writeTransaction fun db => do
    let parserRuns ← insertRow db.parserRuns
      (startedParserRun artifactId parserName parserVersion parserRunId clock)
    requireReference (db.snapshots.rows.any fun row => row.artifactId = artifactId)
    return (parserRunId, { db with parserRuns := parserRuns })

/-- The columns that the end of a parser run sets. -/
def ParserRunRow.finish (row : ParserRunRow) (target : ParserRunState)
    (failureReason : Option String) (clock : Instant) : ParserRunRow :=
  { row with state := target, finishedAt := some clock.text, failureReason := failureReason }

/-- `ParserRunRepository._transition`. -/
def transitionParserRun (parserRunId : String) (target : ParserRunState)
    (failureReason : Option String) (clock : Instant) : Action Unit := fun db =>
  let selects := fun row : ParserRunRow =>
    decide (row.parserRunId = parserRunId ∧ row.state = .running)
  let change := fun row : ParserRunRow => row.finish target failureReason clock
  let next :=
    { db with parserRuns := db.parserRuns.updateWhere selects change fun _ _ => Iff.rfl }
  if rowcount db.parserRuns selects ≠ 1 then
    (.error (.repositoryState ("parser run " ++ parserRunId ++ " is not running")), next)
  else (.ok (), next)

/-- `ParserRunRepository.complete`. -/
def completeParserRun (parserRunId : String) (clock : Instant) : Action Unit :=
  transitionParserRun parserRunId .completed none clock

/-- `ParserRunRepository.fail`. -/
def failParserRun (parserRunId failureReason : String) (clock : Instant) : Action Unit :=
  fun db =>
    if failureReason = "" then
      (.error (.valueError "failure_reason must be non-empty"), db)
    else transitionParserRun parserRunId .failed (some failureReason) clock db

/-! ## Dataset batches -/

/-- The payload that `DatasetBatchRepository.record` serialises. -/
def batchPayload (manifest : DatasetBatchManifest) (createdAt : String) :
    List (String × Json) :=
  [ ("contract_version", .str manifest.contractVersion),
    ("batch_id", .str manifest.batchId),
    ("batch_version", .str manifest.batchVersion),
    ("source_name", .str manifest.sourceName),
    ("created_at", .str createdAt),
    ("snapshot_date", .str manifest.snapshotDate),
    ("record_count", .int manifest.recordCount),
    ("terminal_state_counts",
      .obj (manifest.terminalStateCounts.map fun entry => (entry.1, .int entry.2))),
    ("acquisition_versions", .arr (manifest.acquisitionVersions.map .str)),
    ("parser_versions", .arr (manifest.parserVersions.map .str)),
    ("records_path", .str manifest.recordsPath),
    ("records_checksum", .str manifest.recordsChecksum),
    ("manifest_checksum", .str manifest.manifestChecksum),
    ("proxy_bytes_used", .int manifest.proxyBytesUsed),
    ("known_limitations", .arr (manifest.knownLimitations.map .str)) ]

/-- The row that `DatasetBatchRepository.record` inserts. -/
def batchRow (manifest : DatasetBatchManifest) (createdAt : String) : BatchRow where
  batchId := manifest.batchId
  sourceName := manifest.sourceName
  batchVersion := manifest.batchVersion
  createdAt := createdAt
  manifestJson := String.ofList (Json.dumps .spaced (.obj (batchPayload manifest createdAt)))
  manifestChecksum := manifest.manifestChecksum

/-- `DatasetBatchRepository.record`. -/
def recordBatch (manifest : DatasetBatchManifest) : Action Unit := fun db =>
  match timestamp manifest.createdAt with
  | .error raised => (.error raised, db)
  | .ok createdAt =>
      writeTransaction (fun db => do
        let batches ← insertRow db.batches (batchRow manifest createdAt)
        return ((), { db with batches := batches })) db

/-- A key of the stored payload. `record` prints every key; a payload without
one is refused. -/
def requiredKey (payload : List (String × Json)) (key : String) : Except PyError Json :=
  match Json.get? payload key with
  | some value => .ok value
  | none => .error (.repositoryState
      "dataset batch manifest was stored by an unsupported partial implementation")

def asText (fieldName : String) : Json → Except PyError String
  | .str value => .ok value
  | _ => contractError (fieldName ++ " must be a non-empty string")

def asInt (fieldName : String) : Json → Except PyError Int
  | .int value => .ok value
  | _ => contractError (fieldName ++ " must be a non-negative integer")

def asTexts (fieldName : String) : List Json → Except PyError (List String)
  | [] => .ok []
  | item :: rest => do
      let text ← asText fieldName item
      let texts ← asTexts fieldName rest
      return text :: texts

def asTextArray (fieldName : String) : Json → Except PyError (List String)
  | .arr items => asTexts fieldName items
  | _ => contractError (fieldName ++ " must be a list of strings")

def asCountEntries (fieldName : String) :
    List (String × Json) → Except PyError (List (String × Int))
  | [] => .ok []
  | (state, value) :: rest => do
      let count ← asInt (fieldName ++ "." ++ state) value
      let counts ← asCountEntries fieldName rest
      return (state, count) :: counts

def asCounts (fieldName : String) : Json → Except PyError (List (String × Int))
  | .obj entries => asCountEntries fieldName entries
  | _ => contractError (fieldName ++ " must be an object")

/-- The manifest of a stored payload, checked again by `__post_init__`. -/
def decodeBatch (library : StandardLibrary) (payload : List (String × Json)) :
    Except PyError DatasetBatchManifest := do
  let contractVersion ← requiredKey payload "contract_version" >>= asText "contract_version"
  let batchId ← requiredKey payload "batch_id" >>= asText "batch_id"
  let batchVersion ← requiredKey payload "batch_version" >>= asText "batch_version"
  let sourceName ← requiredKey payload "source_name" >>= asText "source_name"
  let createdText ← requiredKey payload "created_at" >>= asText "created_at"
  let createdAt ← parseUtcTimestamp library createdText "created_at"
  let snapshotDate ← requiredKey payload "snapshot_date" >>= asText "snapshot_date"
  let recordCount ← requiredKey payload "record_count" >>= asInt "record_count"
  let terminalStateCounts ← requiredKey payload "terminal_state_counts" >>=
    asCounts "terminal_state_counts"
  let acquisitionVersions ← requiredKey payload "acquisition_versions" >>=
    asTextArray "acquisition_versions"
  let parserVersions ← requiredKey payload "parser_versions" >>= asTextArray "parser_versions"
  let recordsPath ← requiredKey payload "records_path" >>= asText "records_path"
  let recordsChecksum ← requiredKey payload "records_checksum" >>= asText "records_checksum"
  let manifestChecksum ← requiredKey payload "manifest_checksum" >>= asText "manifest_checksum"
  let proxyBytesUsed ← requiredKey payload "proxy_bytes_used" >>= asInt "proxy_bytes_used"
  let knownLimitations ← requiredKey payload "known_limitations" >>=
    asTextArray "known_limitations"
  let manifest : DatasetBatchManifest :=
    { contractVersion := contractVersion
      batchId := batchId
      batchVersion := batchVersion
      sourceName := sourceName
      createdAt := createdAt
      snapshotDate := snapshotDate
      recordCount := recordCount
      terminalStateCounts := terminalStateCounts
      acquisitionVersions := acquisitionVersions
      parserVersions := parserVersions
      recordsPath := recordsPath
      recordsChecksum := recordsChecksum
      manifestChecksum := manifestChecksum
      proxyBytesUsed := proxyBytesUsed
      knownLimitations := knownLimitations }
  manifest.postInit library
  return manifest

/-- The manifest of a batch row: `json.loads` and the checks of `get`. -/
def BatchRow.manifest (library : StandardLibrary) (row : BatchRow) :
    Except PyError DatasetBatchManifest :=
  match Json.loads row.manifestJson.toList with
  | some (.obj payload) => decodeBatch library payload
  | some _ => .error (.repositoryState
      "dataset batch manifest was stored by an unsupported partial implementation")
  | none => .error .jsonDecodeError

/-- `DatasetBatchRepository.get`. -/
def getBatch (library : StandardLibrary) (batchId : String) :
    Action (Option DatasetBatchManifest) := fun db =>
  match db.batches.find? fun row => row.batchId = batchId with
  | none => (.ok none, db)
  | some row => ((row.manifest library).map some, db)

end ScraperProject.Database
