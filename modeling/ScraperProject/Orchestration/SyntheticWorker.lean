import ScraperProject.Foundation.Program
import ScraperProject.Orchestration.Queue

/-!
Contract: `orchestration.synthetic_worker`, the program of one `run` call.

Owns the commands that the worker issues to its database, its files, its clock
and the fixture server, what each command does, and `run` with its helpers as a
program over these commands. Every committed transaction is one command, so a
call may stop between any two of them.

Does not own `health`, logging, or directory creation. The schema is in place before
the first command, so that opening the database changes nothing: a call that is cut off
between two transactions of `apply_migrations` is the subject of the migrations, not of
this module. A write of a file may fail part way: the environment says after how many
bytes.
-/

namespace ScraperProject.Orchestration

open Foundation
open Database
open Contracts

/-! ## The world of the worker -/

/-- The database and the files under the runtime root, by absolute path. -/
structure World where
  db : Db
  files : String → Option (List UInt8)

/-- Before the first call: an empty database and no files. -/
def World.empty : World := { db := Db.empty, files := fun _ => none }

/-- What one command may read from outside: the clock, a fresh `uuid4`, the disk,
the answer of the fixture server (a status, and the outcome of reading, decoding
and parsing the body), the shutdown callback, and the number of bytes after
which a file write fails. -/
structure Environment where
  clock : Instant
  laterClock : Instant
  identifier : String
  freeBytes : Nat
  response : Except PyError (Int × Except PyError Json)
  shutdown : Bool
  torn : Option Nat

inductive Command where
  | ensurePaths
  | diskFree
  | readClock
  | openDatabase
  | registerOwner
  | recoverAbandoned (now : Datetime)
  | upsertSource (sourceName : String) (enabled : Bool) (identityStrategy : String)
      (identityNotes : Option String)
  | getRun (runId : String)
  | createRun (runId sourceName runKind : String)
  | startRun (runId : String)
  | completeRun (runId : String)
  | getPartition (partitionId : String)
  | createPartition (partitionId runId sourceName partitionKey : String)
  | startPartition (partitionId : String)
  | completePartition (partitionId : String)
  | loadCheckpoint (runId partitionId : String)
  | saveCheckpoint (runId partitionId checkpointValue : String)
  | openUrl (url : String)
  | appendObservation (observation : DiscoveryObservation)
  | createIdempotent (job : DetailFetchJob)
  | leaseNext (workerId : String) (leaseSeconds : Int) (now : Datetime)
  | shutdownRequested
  | fail (jobId workerId errorClass : String) (now : Datetime)
  | succeed (jobId workerId : String) (now : Datetime)
  | pathExists (path : String)
  | readBytes (path : String)
  | createExclusive (path : String) (content : List UInt8)
  | getSnapshot (artifactId : String)
  | recordSnapshot (artifact : RawFetchArtifact)
  | startParserRun (artifactId parserName parserVersion : String)
  | completeParserRun (parserRunId : String)
  | getBatch (batchId : String)
  | recordBatch (manifest : DatasetBatchManifest)

abbrev Reply : Command → Type
  | .diskFree => Nat
  | .readClock => Instant
  | .recoverAbandoned _ => RecoveryCounts
  | .getRun _ => Option RunRow
  | .getPartition _ => Option PartitionRow
  | .loadCheckpoint _ _ => Option String
  | .openUrl _ => Int × Except PyError Json
  | .appendObservation _ => String
  | .createIdempotent _ => String
  | .leaseNext _ _ _ => Option JobLease
  | .shutdownRequested => Bool
  | .fail _ _ _ _ => String
  | .pathExists _ => Bool
  | .readBytes _ => List UInt8
  | .getSnapshot _ => Option SnapshotRow
  | .startParserRun _ _ _ => String
  | .getBatch _ => Option DatasetBatchManifest
  | _ => Unit

def World.onDb {α : Type} (world : World) (action : Action α) : Except PyError α × World :=
  let (result, db) := action world.db
  (result, { world with db := db })

/-- `path.open("xb")` and one write: an existing file is refused, and a failing
write leaves the bytes written so far. -/
def World.createExclusive (world : World) (path : String) (content : List UInt8)
    (torn : Option Nat) : Except PyError Unit × World :=
  let store := fun bytes : List UInt8 =>
    { world with files := fun other => if other = path then some bytes else world.files other }
  match world.files path, torn with
  | some _, _ => (.error .fileExistsError, world)
  | none, some written => (.error .osError, store (content.take written))
  | none, none => (.ok (), store content)

/-- What a command does to the world, and its reply or its exception. -/
def performCommand (library : StandardLibrary) (environment : Environment) :
    (command : Command) → World → Except PyError (Reply command) × World
  | .ensurePaths, world => (.ok (), world)
  | .diskFree, world => (.ok environment.freeBytes, world)
  | .readClock, world => (.ok environment.clock, world)
  | .openDatabase, world => (.ok (), world)
  | .registerOwner, world => world.onDb (registerOwner environment.clock)
  | .recoverAbandoned now, world => world.onDb (recoverAbandoned now)
  | .upsertSource sourceName enabled identityStrategy identityNotes, world =>
      world.onDb (upsertSource sourceName enabled identityStrategy identityNotes environment.clock)
  | .getRun runId, world => world.onDb (getRun runId)
  | .createRun runId sourceName runKind, world =>
      world.onDb (createRun runId sourceName runKind environment.clock)
  | .startRun runId, world => world.onDb (startRun runId environment.clock)
  | .completeRun runId, world => world.onDb (completeRun runId environment.clock)
  | .getPartition partitionId, world => world.onDb (getPartition partitionId)
  | .createPartition partitionId runId sourceName partitionKey, world =>
      world.onDb (createPartition partitionId runId sourceName partitionKey environment.clock
        environment.laterClock)
  | .startPartition partitionId, world =>
      world.onDb (startPartition partitionId environment.clock)
  | .completePartition partitionId, world =>
      world.onDb (completePartition partitionId environment.clock)
  | .loadCheckpoint runId partitionId, world => world.onDb (loadCheckpoint runId partitionId)
  | .saveCheckpoint runId partitionId checkpointValue, world =>
      world.onDb (saveCheckpoint runId partitionId checkpointValue environment.clock)
  | .openUrl _, world => (environment.response, world)
  | .appendObservation observation, world =>
      world.onDb (appendObservation observation environment.identifier)
  | .createIdempotent job, world =>
      world.onDb (createIdempotent job environment.clock environment.laterClock)
  | .leaseNext workerId leaseSeconds now, world =>
      world.onDb (leaseNext workerId leaseSeconds now environment.identifier)
  | .shutdownRequested, world => (.ok environment.shutdown, world)
  | .fail jobId workerId errorClass now, world =>
      world.onDb (fail jobId workerId errorClass now)
  | .succeed jobId workerId now, world => world.onDb (succeed jobId workerId now)
  | .pathExists path, world => (.ok (world.files path).isSome, world)
  | .readBytes path, world =>
      match world.files path with
      | some content => (.ok content, world)
      | none => (.error .osError, world)
  | .createExclusive path content, world =>
      world.createExclusive path content environment.torn
  | .getSnapshot artifactId, world => world.onDb (getSnapshot artifactId)
  | .recordSnapshot artifact, world => world.onDb (recordSnapshot artifact)
  | .startParserRun artifactId parserName parserVersion, world =>
      world.onDb (startParserRun artifactId parserName parserVersion environment.identifier
        environment.clock)
  | .completeParserRun parserRunId, world =>
      world.onDb (completeParserRun parserRunId environment.clock)
  | .getBatch batchId, world => world.onDb (getBatch library batchId)
  | .recordBatch manifest, world => world.onDb (recordBatch manifest)

abbrev Worker (α : Type) := Program Command Reply PyError α

/-- A command whose exception propagates. -/
abbrev issue (command : Command) : Worker (Reply command) := Program.call command

/-- A command in a `try` statement. -/
abbrev attempt (command : Command) : Worker (Except PyError (Reply command)) :=
  Program.attempt command

/-- A pure computation whose exception propagates. -/
abbrev require {α : Type} (computation : Except PyError α) : Worker α :=
  Program.ofExcept computation

/-! ## Names of one run -/

/-- `_SOURCE_NAME`. -/
def sourceName : String := "synthetic_fixture"

/-- `_PARTITION_KEY`. -/
def partitionKey : String := "synthetic-page-1"

/-- The name that `lease_next` and `succeed` are called with. -/
def workerName : String := "synthetic-worker"

section Names

variable (library : StandardLibrary) (root runId : String)

def partitionId : String := library.uuid5 (runId ++ ":partition")

def jobId : String := library.uuid5 (runId ++ ":detail-job")

def artifactId : String := library.uuid5 (runId ++ ":artifact")

def batchId : String := library.uuid5 (runId ++ ":batch")

/-- `parent / name`. -/
def joinPath (parent name : String) : String :=
  if parent.toList.getLast? = some '/' then parent ++ name else parent ++ "/" ++ name

/-- `self.paths.snapshots / f"{artifact_id}.json"`. -/
def snapshotPath : String :=
  joinPath (joinPath root "snapshots") (artifactId library runId ++ ".json")

/-- `self.paths.exports / f"{batch_id}.jsonl"`. -/
def recordsPath : String :=
  joinPath (joinPath root "exports") (batchId library runId ++ ".jsonl")

end Names

/-! ## Reading the fixture -/

def workerError {α : Type} (message : String) : Except PyError α :=
  .error (.syntheticWorker message)

/-- `_canonical_json_bytes`. -/
def canonicalJsonBytes (payload : Json) : List UInt8 :=
  Json.encodeUtf8 (Json.dumps .compact payload)

/-- `_text`. -/
def text (payload : List (String × Json)) (key : String) : Except PyError String :=
  match Json.get? payload key with
  | some (.str value) =>
      if value = "" then workerError ("synthetic fixture requires non-empty " ++ key)
      else .ok value
  | _ => workerError ("synthetic fixture requires non-empty " ++ key)

/-- `_optional_text`. -/
def optionalText (payload : List (String × Json)) (key : String) :
    Except PyError (Option String) :=
  match Json.get? payload key with
  | none => .ok none
  | some .null => .ok none
  | some (.str value) => .ok (some value)
  | some _ => workerError ("synthetic fixture " ++ key ++ " must be a string or null")

def stringEntries : List (String × Json) → Option (List (String × Option String))
  | [] => some []
  | (key, .null) :: rest => (stringEntries rest).map fun entries => (key, none) :: entries
  | (key, .str value) :: rest =>
      (stringEntries rest).map fun entries => (key, some value) :: entries
  | _ => none

/-- `_string_mapping`. -/
def stringMapping (value : Option Json) : Except PyError (List (String × Option String)) :=
  match value with
  | some (.obj entries) =>
      match stringEntries entries with
      | some mapping => .ok mapping
      | none => workerError "synthetic fixture visible_specs must be a string mapping"
  | _ => workerError "synthetic fixture visible_specs must be a string mapping"

/-- `_LOCAL_FIXTURE_HOSTS`. -/
def localFixtureHosts : List String := ["localhost", "127.0.0.1", "fixture-server"]

/-- The check of the URL in `_fetch_fixture`. -/
def requireLocalFixture (library : StandardLibrary) (fixtureUrl : String) :
    Except PyError Unit :=
  match Text.urlsplit library.netlocRefused fixtureUrl.toList with
  | none => .error .invalidUrl
  | some parsed =>
      if parsed.scheme ≠ "http".toList ∨
          ¬ (parsed.hostname.any fun host => localFixtureHosts.contains (String.ofList host)) then
        workerError "synthetic fixture URL must use an approved local fixture host"
      else .ok ()

/-- The body of the `try` statement in `_fetch_fixture`, after the connection. -/
def readResponse (response : Int × Except PyError Json) : Except PyError Json :=
  if response.1 ≠ 200 then
    workerError ("synthetic fixture returned HTTP " ++ toString response.1)
  else response.2

/-- `except (OSError, json.JSONDecodeError)`. -/
def fixtureUnavailable {α : Type} : Except PyError α → Except PyError α
  | .error .osError => workerError "synthetic fixture is unavailable or invalid"
  | .error .fileExistsError => workerError "synthetic fixture is unavailable or invalid"
  | .error .jsonDecodeError => workerError "synthetic fixture is unavailable or invalid"
  | outcome => outcome

/-- The check of the payload in `_fetch_fixture`. -/
def requireSourcePayload : Json → Except PyError (List (String × Json))
  | .obj payload => do
      let source ← text payload "source_name"
      if source ≠ sourceName then
        workerError "synthetic fixture has an unsupported source identity"
      else .ok payload
  | _ => workerError "synthetic fixture has an unsupported source identity"

/-- `_fetch_fixture`. -/
def fetchFixture (library : StandardLibrary) (fixtureUrl : String) :
    Worker (List (String × Json)) := do
  let _ ← require (requireLocalFixture library fixtureUrl)
  let response ← attempt (.openUrl fixtureUrl)
  require (fixtureUnavailable (response >>= readResponse) >>= requireSourcePayload)

/-! ## The records of one run -/

/-- The observation that `_discover_and_queue` appends. -/
def discoveryObservation (library : StandardLibrary) (runId : String) (current : Datetime)
    (fixture : List (String × Json)) (listingKey listingUrl : String) :
    Except PyError DiscoveryObservation := do
  let source ← text fixture "source_name"
  let visibleTitle ← optionalText fixture "visible_title"
  let visiblePriceText ← optionalText fixture "visible_price_text"
  let visibleCurrency ← optionalText fixture "visible_currency"
  let visibleSpecs ← stringMapping (Json.get? fixture "visible_specs")
  let visibleStatus ← optionalText fixture "visible_status"
  let cardFingerprint ← optionalText fixture "card_fingerprint"
  let observation : DiscoveryObservation :=
    { contractVersion := contractVersion
      crawlRunId := runId
      sourceName := source
      sourceListingKey := listingKey
      listingUrl := listingUrl
      observedAt := current
      visibleTitle := visibleTitle
      visiblePriceText := visiblePriceText
      visibleCurrency := visibleCurrency
      visibleSpecs := visibleSpecs
      visibleStatus := visibleStatus
      cardFingerprint := cardFingerprint
      discoveryPartition := partitionKey }
  observation.postInit library
  return observation

/-- The job that `_discover_and_queue` creates. -/
def detailFetchJob (library : StandardLibrary) (runId : String) (current : Datetime)
    (listingKey listingUrl : String) : DetailFetchJob where
  contractVersion := contractVersion
  jobId := jobId library runId
  crawlRunId := runId
  sourceName := sourceName
  sourceListingKey := listingKey
  listingUrl := listingUrl
  reasonCode := .newListing
  priority := 0
  attemptNumber := 1
  maxAttempts := 2
  scheduledAt := current
  metadata := [("fixture", .str "synthetic_step3a")]

/-- The artifact that `_record_snapshot` records for the leased job. -/
def rawFetchArtifact (library : StandardLibrary) (root runId leasedJobId digest : String)
    (current : Datetime) (fixture : List (String × Json)) : Except PyError RawFetchArtifact := do
  let listingKey ← text fixture "source_listing_key"
  let listingUrl ← text fixture "listing_url"
  let artifact : RawFetchArtifact :=
    { contractVersion := contractVersion
      artifactId := artifactId library runId
      jobId := leasedJobId
      crawlRunId := runId
      sourceName := sourceName
      sourceListingKey := listingKey
      listingUrl := listingUrl
      fetchedAt := current
      fetchMethod := "local_synthetic_fixture"
      acquisitionVersion := "step3a-synthetic-0.1"
      snapshotPath := some (snapshotPath library root runId)
      contentHash := some digest
      responseStatus := some 200
      mimeType := some "application/json"
      artifactStatus := .success }
  artifact.postInit library
  return artifact

/-- The records of the dataset file: one line. -/
def batchRecords (library : StandardLibrary) (runId : String) : List UInt8 :=
  canonicalJsonBytes
    (.obj [ ("artifact_id", .str (artifactId library runId)), ("crawl_run_id", .str runId),
      ("source_name", .str sourceName) ]) ++ [10]

def manifestChecksum (library : StandardLibrary) (runId recordsChecksum : String) : String :=
  (library.sha256 (canonicalJsonBytes
    (.obj [ ("batch_id", .str (batchId library runId)),
      ("records_checksum", .str recordsChecksum), ("run_id", .str runId),
      ("source_name", .str sourceName) ]))).text

/-- The manifest that `_record_batch` records, before its checks. -/
def batchManifest (library : StandardLibrary) (root runId : String) (current : Datetime) :
    DatasetBatchManifest :=
  let recordsChecksum := (library.sha256 (batchRecords library runId)).text
  { contractVersion := contractVersion
    batchId := batchId library runId
    batchVersion := "step3a-synthetic-0.1"
    sourceName := sourceName
    createdAt := current
    snapshotDate := current.dateIsoformat
    recordCount := 1
    terminalStateCounts := [("detail_success", 1)]
    acquisitionVersions := ["step3a-synthetic-0.1"]
    parserVersions := ["synthetic_placeholder-0.1"]
    recordsPath := recordsPath library root runId
    recordsChecksum := recordsChecksum
    manifestChecksum := manifestChecksum library runId recordsChecksum
    proxyBytesUsed := 0
    knownLimitations := ["synthetic local fixture only", "no live acquisition"] }

/-! ## Stages -/

/-- A call of `run` on a worker for the shared runtime root. -/
structure RunCall where
  fixtureUrl : String
  minimumFreeBytes : Int
  runId : String
  leaseSeconds : Int
  stopAfter : Option String
  now : Option Datetime
  /-- `shutdown_requested is not None`. -/
  shutdownCallback : Bool

structure SyntheticWorkerResult where
  runId : String
  state : String
  checkpoint : String
  recoveredAbandoned : Nat
  exhaustedAbandoned : Nat
  snapshotPath : Option String
  batchId : Option String
deriving DecidableEq

/-- `_result`. -/
def workerResult (runId state checkpoint : String) (recovery : RecoveryCounts)
    (snapshotPath batchId : Option String) : SyntheticWorkerResult where
  runId := runId
  state := state
  checkpoint := checkpoint
  recoveredAbandoned := recovery.recovered
  exhaustedAbandoned := recovery.exhausted
  snapshotPath := snapshotPath
  batchId := batchId

section Stages

variable (library : StandardLibrary) (root : String)

def createMissingRun (runId : String) : Option RunRow → Worker Unit
  | some _ => pure ()
  | none => do
      issue (.createRun runId sourceName "synthetic_step3a")
      issue (.startRun runId)

def createMissingPartition (runId : String) :
    Option PartitionRow → Worker (Option PartitionRow)
  | some partition => pure (some partition)
  | none => do
      issue (.createPartition (partitionId library runId) runId sourceName partitionKey)
      issue (.getPartition (partitionId library runId))

def startPendingPartition (runId : String) : Option PartitionRow → Worker Unit
  | some partition =>
      if partition.state = .pending then
        issue (.startPartition (partitionId library runId))
      else pure ()
  | none => pure ()

/-- `_ensure_run`. -/
def ensureRun (runId : String) : Worker Unit := do
  issue (.upsertSource sourceName false "stable_source_key"
    (some "Synthetic Step 3A fixture only."))
  let run ← issue (.getRun runId)
  createMissingRun runId run
  let partition ← issue (.getPartition (partitionId library runId))
  let partition ← createMissingPartition library runId partition
  startPendingPartition library runId partition

/-- `_discover_and_queue`. -/
def discoverAndQueue (fixtureUrl runId : String) (current : Datetime) : Worker Unit := do
  let fixture ← fetchFixture library fixtureUrl
  let listingKey ← require (text fixture "source_listing_key")
  let listingUrl ← require (text fixture "listing_url")
  let observation ← require
    (discoveryObservation library runId current fixture listingKey listingUrl)
  let _ ← issue (.appendObservation observation)
  let job := detailFetchJob library runId current listingKey listingUrl
  let _ ← require (job.postInit library)
  let _ ← issue (.createIdempotent job)
  issue (.saveCheckpoint runId (partitionId library runId) "queued")

/-- The file of `_record_snapshot`: compared with the content when it is there,
created otherwise. -/
def storeSnapshot (path : String) (body : List UInt8) : Worker Unit := do
  let present ← issue (.pathExists path)
  if present then do
    let stored ← issue (.readBytes path)
    if library.sha256 stored ≠ library.sha256 body then
      require
        (workerError "synthetic snapshot already exists with different content")
    else pure ()
  else do
    let created ← attempt (.createExclusive path body)
    match created with
    | .ok _ => pure ()
    | .error .fileExistsError =>
        require (workerError "synthetic snapshot creation raced unexpectedly")
    | .error raised => require (.error raised)

/-- `json.loads(body)` of a serialised dictionary. -/
def reloadFixture (fixture : List (String × Json)) : Except PyError (List (String × Json)) :=
  match Json.loads (Json.dumps .compact (.obj fixture)) with
  | some (.obj entries) => .ok entries
  | _ => .error .jsonDecodeError

def recordMissingSnapshot (runId leasedJobId digest : String) (current : Datetime)
    (fixture : List (String × Json)) : Option SnapshotRow → Worker Unit
  | some _ => pure ()
  | none => do
      let artifact ← require
        (rawFetchArtifact library root runId leasedJobId digest current fixture)
      issue (.recordSnapshot artifact)

/-- `_record_snapshot`. -/
def recordSnapshotOf (fixtureUrl runId leasedJobId : String) (current : Datetime) :
    Worker String := do
  let payload ← fetchFixture library fixtureUrl
  let body := canonicalJsonBytes (.obj payload)
  let path := snapshotPath library root runId
  storeSnapshot library path body
  let fixture ← require (reloadFixture payload)
  let existing ← issue (.getSnapshot (artifactId library runId))
  recordMissingSnapshot library root runId leasedJobId (library.sha256 body).text current fixture
    existing
  return path

/-- The records file of `_record_batch`. -/
def storeRecords (path : String) (records : List UInt8) : Worker Unit := do
  let present ← issue (.pathExists path)
  if present then do
    let stored ← issue (.readBytes path)
    if stored ≠ records then
      require
        (workerError "synthetic dataset records already exist with different content")
    else pure ()
  else issue (.createExclusive path records)

/-- `_record_batch`. -/
def recordBatchOf (runId : String) (current : Datetime) : Worker Unit := do
  let existing ← issue (.getBatch (batchId library runId))
  match existing with
  | some _ => pure ()
  | none => do
      storeRecords (recordsPath library root runId) (batchRecords library runId)
      let manifest := batchManifest library root runId current
      let _ ← require (manifest.postInit library)
      issue (.recordBatch manifest)

def completeRunning (runId : String) : Option RunRow → Worker Unit
  | some run =>
      if run.state = .running then do
        issue (.completePartition (partitionId library runId))
        issue (.completeRun runId)
      else pure ()
  | none => pure ()

/-- The last statement of `run`. -/
def completedResult (runId checkpoint : String) (recovery : RecoveryCounts) :
    SyntheticWorkerResult :=
  workerResult runId "completed" checkpoint recovery (some (snapshotPath library root runId))
    (some (batchId library runId))

/-- `run` from the checkpoint "batch-recorded" on. -/
def runBatchRecorded (runId : String) (recovery : RecoveryCounts) :
    Worker SyntheticWorkerResult := do
  let run ← issue (.getRun runId)
  completeRunning library runId run
  issue (.saveCheckpoint runId (partitionId library runId) "completed")
  return completedResult library root runId "completed" recovery

/-- `run` from the checkpoint "parser-completed" on. -/
def runParserCompleted (runId : String) (current : Datetime) (recovery : RecoveryCounts) :
    Worker SyntheticWorkerResult := do
  recordBatchOf library root runId current
  issue (.saveCheckpoint runId (partitionId library runId) "batch-recorded")
  runBatchRecorded library root runId recovery

/-- `run` from the checkpoint "snapshot-recorded" on. -/
def runSnapshotRecorded (runId : String) (current : Datetime) (recovery : RecoveryCounts) :
    Worker SyntheticWorkerResult := do
  let parserRunId ← issue
    (.startParserRun (artifactId library runId) "synthetic_placeholder" "0.1")
  issue (.completeParserRun parserRunId)
  issue (.saveCheckpoint runId (partitionId library runId) "parser-completed")
  runParserCompleted library root runId current recovery

/-- `stop_after == "graceful_shutdown" or (shutdown_requested is not None and
shutdown_requested())`. -/
def stopRequested (call : RunCall) : Worker Bool :=
  if call.stopAfter = some "graceful_shutdown" then pure true
  else if call.shutdownCallback then issue .shutdownRequested
  else pure false

/-- `run` with a lease in hand. -/
def runLeased (call : RunCall) (current : Datetime) (recovery : RecoveryCounts)
    (leasedJobId : String) : Worker SyntheticWorkerResult := do
  let stop ← stopRequested call
  if stop then do
    let _ ← issue (.fail leasedJobId workerName "graceful_shutdown" current)
    return workerResult call.runId "gracefully_stopped" "queued" recovery none none
  else do
    let path ← recordSnapshotOf library root call.fixtureUrl call.runId leasedJobId current
    issue (.succeed leasedJobId workerName current)
    issue
      (.saveCheckpoint call.runId (partitionId library call.runId) "snapshot-recorded")
    if call.stopAfter = some "snapshot" then
      return workerResult call.runId "interrupted" "snapshot-recorded" recovery (some path) none
    else runSnapshotRecorded library root call.runId current recovery

/-- `run` from the checkpoint "queued" on. -/
def runQueued (call : RunCall) (current : Datetime) (recovery : RecoveryCounts) :
    Worker SyntheticWorkerResult := do
  let lease ← issue (.leaseNext workerName call.leaseSeconds current)
  match lease with
  | none => return workerResult call.runId "waiting_for_lease" "queued" recovery none none
  | some lease =>
      if call.stopAfter = some "lease" then
        return workerResult call.runId "interrupted" "queued" recovery none none
      else runLeased library root call current recovery lease.jobId

/-- `run` from a loaded checkpoint on: each stage falls through to the next. -/
def runFrom (call : RunCall) (current : Datetime) (recovery : RecoveryCounts) :
    Option String → Worker SyntheticWorkerResult
  | none => do
      discoverAndQueue library call.fixtureUrl call.runId current
      if call.stopAfter = some "discovery" then
        return workerResult call.runId "interrupted" "queued" recovery none none
      else runQueued library root call current recovery
  | some checkpoint =>
      if checkpoint = "queued" then runQueued library root call current recovery
      else if checkpoint = "snapshot-recorded" then
        runSnapshotRecorded library root call.runId current recovery
      else if checkpoint = "parser-completed" then
        runParserCompleted library root call.runId current recovery
      else if checkpoint = "batch-recorded" then
        runBatchRecorded library root call.runId recovery
      else return completedResult library root call.runId checkpoint recovery

/-- The stop points that `run` accepts. -/
def stopPoints : List (Option String) :=
  [none, some "discovery", some "lease", some "graceful_shutdown", some "snapshot"]

def requireStopPoint (stopAfter : Option String) : Except PyError Unit :=
  if stopPoints.contains stopAfter then .ok ()
  else .error (.valueError "unsupported synthetic stop point")

def requireMinimum (minimumFreeBytes : Int) : Except PyError Unit :=
  if minimumFreeBytes < 0 then
    .error (.valueError "minimum_free_bytes must be a non-negative integer")
  else .ok ()

def requireFree (freeBytes : Nat) (minimumFreeBytes : Int) : Except PyError Unit :=
  if (freeBytes : Int) < minimumFreeBytes then
    .error (.runtimeSafety ("runtime disk safety stop: " ++ toString freeBytes ++
      " free bytes is below required " ++ toString minimumFreeBytes))
  else .ok ()

/-- `now or datetime.now(UTC)`. -/
def currentTime : Option Datetime → Worker Datetime
  | some now => pure now
  | none => do
      let clock ← issue .readClock
      return .ofInstant clock

/-- `SyntheticWorker.run`. -/
def run (call : RunCall) : Worker SyntheticWorkerResult := do
  let _ ← require (requireStopPoint call.stopAfter)
  issue .ensurePaths
  let _ ← require (requireMinimum call.minimumFreeBytes)
  let freeBytes ← issue .diskFree
  let _ ← require (requireFree freeBytes call.minimumFreeBytes)
  let current ← currentTime call.now
  issue .openDatabase
  issue .registerOwner
  let recovery ← issue (.recoverAbandoned current)
  ensureRun library call.runId
  let checkpoint ← issue (.loadCheckpoint call.runId (partitionId library call.runId))
  runFrom library root call current recovery checkpoint

end Stages

end ScraperProject.Orchestration
