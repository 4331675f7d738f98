import ScraperProject.Contracts.Validation

/-!
Contract: the dataclasses of `contracts.models` that the runtime stores.

Owns detail jobs, discovery observations, fetch artifacts and dataset batch
manifests with the checks of their `__post_init__`, in the order of the source.

Does not own fetch telemetry, parsed listings and the readers of untyped mappings,
which only `validate_contract_payload` uses.
-/

namespace ScraperProject.Contracts

open Foundation
open Database

inductive DetailReasonCode where
  | newListing
  | noDetailSnapshot
  | priceChangeRequiresDetail
  | cardFingerprintChanged
  | highPriorityListing
  | criticalFieldsMissing
  | staleDetailRefresh
  | parserVersionRecheck
  | missingListingVerification
  | manualReprocessRequest
deriving DecidableEq, Repr

def DetailReasonCode.value : DetailReasonCode → String
  | .newListing => "NEW_LISTING"
  | .noDetailSnapshot => "NO_DETAIL_SNAPSHOT"
  | .priceChangeRequiresDetail => "PRICE_CHANGE_REQUIRES_DETAIL"
  | .cardFingerprintChanged => "CARD_FINGERPRINT_CHANGED"
  | .highPriorityListing => "HIGH_PRIORITY_LISTING"
  | .criticalFieldsMissing => "CRITICAL_FIELDS_MISSING"
  | .staleDetailRefresh => "STALE_DETAIL_REFRESH"
  | .parserVersionRecheck => "PARSER_VERSION_RECHECK"
  | .missingListingVerification => "MISSING_LISTING_VERIFICATION"
  | .manualReprocessRequest => "MANUAL_REPROCESS_REQUEST"

inductive ArtifactStatus where
  | success
  | failed
  | notModified
deriving DecidableEq, Repr

def ArtifactStatus.value : ArtifactStatus → String
  | .success => "SUCCESS"
  | .failed => "FAILED"
  | .notModified => "NOT_MODIFIED"

def requireSourceIdentity (library : StandardLibrary)
    (sourceName sourceListingKey listingUrl : String) : Except PyError Unit := do
  requireText sourceName "source_name"
  requireText sourceListingKey "source_listing_key"
  requireHttpUrl library listingUrl "listing_url"

structure DetailFetchJob where
  contractVersion : String
  jobId : String
  crawlRunId : String
  sourceName : String
  sourceListingKey : String
  listingUrl : String
  reasonCode : DetailReasonCode
  priority : Int
  attemptNumber : Int
  maxAttempts : Int
  scheduledAt : Datetime
  metadata : List (String × Json)

def DetailFetchJob.postInit (library : StandardLibrary) (job : DetailFetchJob) :
    Except PyError Unit := do
  requireContractVersion library job.contractVersion
  requireText job.jobId "job_id"
  requireText job.crawlRunId "crawl_run_id"
  requireSourceIdentity library job.sourceName job.sourceListingKey job.listingUrl
  requireNonNegativeInt job.priority "priority"
  requireNonNegativeInt job.attemptNumber "attempt_number"
  requireNonNegativeInt job.maxAttempts "max_attempts"
  if job.attemptNumber < 1 ∨ job.maxAttempts < job.attemptNumber then
    contractError "attempt_number must be at least 1 and no greater than max_attempts"
  requireUtcTimestamp job.scheduledAt "scheduled_at"
  rejectSensitiveKeys library "metadata" (.obj job.metadata)

/-- A `Mapping[str, str | None]` as a JSON value. -/
def stringMappingJson (mapping : List (String × Option String)) : Json :=
  .obj (mapping.map fun entry => (entry.1, entry.2.elim .null .str))

structure DiscoveryObservation where
  contractVersion : String
  crawlRunId : String
  sourceName : String
  sourceListingKey : String
  listingUrl : String
  observedAt : Datetime
  visibleTitle : Option String
  visiblePriceText : Option String
  visibleCurrency : Option String
  visibleSpecs : List (String × Option String)
  visibleStatus : Option String
  cardFingerprint : Option String
  discoveryPartition : String

def DiscoveryObservation.postInit (library : StandardLibrary)
    (observation : DiscoveryObservation) : Except PyError Unit := do
  requireContractVersion library observation.contractVersion
  requireText observation.crawlRunId "crawl_run_id"
  requireSourceIdentity library observation.sourceName observation.sourceListingKey
    observation.listingUrl
  requireUtcTimestamp observation.observedAt "observed_at"
  requireText observation.discoveryPartition "discovery_partition"
  rejectSensitiveKeys library "visible_specs" (stringMappingJson observation.visibleSpecs)

structure RawFetchArtifact where
  contractVersion : String
  artifactId : String
  jobId : String
  crawlRunId : String
  sourceName : String
  sourceListingKey : String
  listingUrl : String
  fetchedAt : Datetime
  fetchMethod : String
  acquisitionVersion : String
  snapshotPath : Option String
  contentHash : Option String
  responseStatus : Option Int
  mimeType : Option String
  artifactStatus : ArtifactStatus

/-- The check of a successful artifact's file: a path and a digest. -/
def requireSnapshotContent (snapshotPath contentHash : Option String) : Except PyError Unit :=
  match snapshotPath, contentHash with
  | some path, some hash => do
      requireText path "snapshot_path"
      requireSha256 hash "content_hash"
  | _, _ => contractError "successful artifacts require immutable snapshot_path and content_hash"

def RawFetchArtifact.postInit (library : StandardLibrary) (artifact : RawFetchArtifact) :
    Except PyError Unit := do
  requireContractVersion library artifact.contractVersion
  requireText artifact.artifactId "artifact_id"
  requireText artifact.jobId "job_id"
  requireText artifact.crawlRunId "crawl_run_id"
  requireText artifact.fetchMethod "fetch_method"
  requireText artifact.acquisitionVersion "acquisition_version"
  requireSourceIdentity library artifact.sourceName artifact.sourceListingKey artifact.listingUrl
  requireUtcTimestamp artifact.fetchedAt "fetched_at"
  if artifact.responseStatus.any fun status => ¬ (100 ≤ status ∧ status ≤ 599) then
    contractError "response_status must be an HTTP status code or null"
  if artifact.artifactStatus = .success then
    requireSnapshotContent artifact.snapshotPath artifact.contentHash

/-- `_TERMINAL_STATES`. -/
def terminalStates : List String :=
  ["detail_success", "list_only_accepted", "excluded_with_reason", "failed_classified",
    "manual_review"]

structure DatasetBatchManifest where
  contractVersion : String
  batchId : String
  batchVersion : String
  sourceName : String
  createdAt : Datetime
  snapshotDate : String
  recordCount : Int
  terminalStateCounts : List (String × Int)
  acquisitionVersions : List String
  parserVersions : List String
  recordsPath : String
  recordsChecksum : String
  manifestChecksum : String
  proxyBytesUsed : Int
  knownLimitations : List String
deriving DecidableEq

def requireStateCounts : List (String × Int) → Except PyError Unit
  | [] => .ok ()
  | (state, count) :: rest => do
      requireNonNegativeInt count ("terminal_state_counts." ++ state)
      requireStateCounts rest

def DatasetBatchManifest.postInit (library : StandardLibrary)
    (manifest : DatasetBatchManifest) : Except PyError Unit := do
  requireContractVersion library manifest.contractVersion
  requireText manifest.batchId "batch_id"
  requireText manifest.batchVersion "batch_version"
  requireText manifest.sourceName "source_name"
  requireText manifest.snapshotDate "snapshot_date"
  requireText manifest.recordsPath "records_path"
  requireUtcTimestamp manifest.createdAt "created_at"
  requireNonNegativeInt manifest.recordCount "record_count"
  requireNonNegativeInt manifest.proxyBytesUsed "proxy_bytes_used"
  requireSha256 manifest.recordsChecksum "records_checksum"
  requireSha256 manifest.manifestChecksum "manifest_checksum"
  if ¬ manifest.terminalStateCounts.all fun entry => terminalStates.contains entry.1 then
    contractError "terminal_state_counts contains an unsupported terminal state"
  requireStateCounts manifest.terminalStateCounts
  if (manifest.terminalStateCounts.map Prod.snd).sum ≠ manifest.recordCount then
    contractError "record_count must equal the sum of terminal_state_counts"

end ScraperProject.Contracts
