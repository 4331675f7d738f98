import ScraperProject.Contracts.BoundarySteps

/-!
Contract: the typed dataclasses as instances of the boundary.

Owns the attributes of a typed dataclass and the proof that its `__post_init__`
makes the checks of the untyped boundary on them, with the same outcome.

Does not own the contracts that the runtime does not store.
-/

namespace ScraperProject.Contracts

open Foundation
open Database

/-! ## Attributes -/

def optionalText (value : Option String) : FieldValue := .json (value.elim .null .str)

def countsJson (counts : List (String × Int)) : Json :=
  .obj (counts.map fun entry => (entry.1, .int entry.2))

def DetailFetchJob.fields (job : DetailFetchJob) : Fields :=
  [ ("contract_version", .json (.str job.contractVersion)), ("job_id", .json (.str job.jobId)),
    ("crawl_run_id", .json (.str job.crawlRunId)), ("source_name", .json (.str job.sourceName)),
    ("source_listing_key", .json (.str job.sourceListingKey)),
    ("listing_url", .json (.str job.listingUrl)), ("reason_code", .reasonCode job.reasonCode),
    ("priority", .json (.int job.priority)),
    ("attempt_number", .json (.int job.attemptNumber)),
    ("max_attempts", .json (.int job.maxAttempts)),
    ("scheduled_at", .datetime job.scheduledAt), ("metadata", .json (.obj job.metadata)) ]

def DiscoveryObservation.fields (observation : DiscoveryObservation) : Fields :=
  [ ("contract_version", .json (.str observation.contractVersion)),
    ("crawl_run_id", .json (.str observation.crawlRunId)),
    ("source_name", .json (.str observation.sourceName)),
    ("source_listing_key", .json (.str observation.sourceListingKey)),
    ("listing_url", .json (.str observation.listingUrl)),
    ("observed_at", .datetime observation.observedAt),
    ("visible_title", optionalText observation.visibleTitle),
    ("visible_price_text", optionalText observation.visiblePriceText),
    ("visible_currency", optionalText observation.visibleCurrency),
    ("visible_specs", .json (stringMappingJson observation.visibleSpecs)),
    ("visible_status", optionalText observation.visibleStatus),
    ("card_fingerprint", optionalText observation.cardFingerprint),
    ("discovery_partition", .json (.str observation.discoveryPartition)) ]

def RawFetchArtifact.fields (artifact : RawFetchArtifact) : Fields :=
  [ ("contract_version", .json (.str artifact.contractVersion)),
    ("artifact_id", .json (.str artifact.artifactId)), ("job_id", .json (.str artifact.jobId)),
    ("crawl_run_id", .json (.str artifact.crawlRunId)),
    ("source_name", .json (.str artifact.sourceName)),
    ("source_listing_key", .json (.str artifact.sourceListingKey)),
    ("listing_url", .json (.str artifact.listingUrl)),
    ("fetched_at", .datetime artifact.fetchedAt),
    ("fetch_method", .json (.str artifact.fetchMethod)),
    ("acquisition_version", .json (.str artifact.acquisitionVersion)),
    ("snapshot_path", optionalText artifact.snapshotPath),
    ("content_hash", optionalText artifact.contentHash),
    ("response_status", .json (artifact.responseStatus.elim .null .int)),
    ("mime_type", optionalText artifact.mimeType),
    ("artifact_status", .artifactStatus artifact.artifactStatus) ]

def DatasetBatchManifest.fields (manifest : DatasetBatchManifest) : Fields :=
  [ ("contract_version", .json (.str manifest.contractVersion)),
    ("batch_id", .json (.str manifest.batchId)),
    ("batch_version", .json (.str manifest.batchVersion)),
    ("source_name", .json (.str manifest.sourceName)),
    ("created_at", .datetime manifest.createdAt),
    ("snapshot_date", .json (.str manifest.snapshotDate)),
    ("record_count", .json (.int manifest.recordCount)),
    ("terminal_state_counts", .json (countsJson manifest.terminalStateCounts)),
    ("acquisition_versions", .tuple (manifest.acquisitionVersions.map .str)),
    ("parser_versions", .tuple (manifest.parserVersions.map .str)),
    ("records_path", .json (.str manifest.recordsPath)),
    ("records_checksum", .json (.str manifest.recordsChecksum)),
    ("manifest_checksum", .json (.str manifest.manifestChecksum)),
    ("proxy_bytes_used", .json (.int manifest.proxyBytesUsed)),
    ("known_limitations", .tuple (manifest.knownLimitations.map .str)) ]

/-! ## Checks -/

/-- A statement that ends a `__post_init__` and has no result of its own. -/
theorem bind_unit (outcome : Except PyError Unit) : (outcome >>= fun _ => .ok ()) = outcome := by
  cases outcome <;> rfl

/-- A condition that raises in the middle of a `__post_init__`. -/
theorem ite_contractError_bind {condition : Prop} [Decidable condition] {message : String}
    {next : Unit → Except PyError Unit} :
    (if condition then (contractError message >>= next) else next ()) =
      ((if condition then contractError message else .ok ()) >>= next) := by
  split <;> rfl

theorem DetailFetchJob.runChecks_fields (library : StandardLibrary) (job : DetailFetchJob) :
    Untyped.runChecks (Untyped.checks library .detailFetchJob) job.fields =
      job.postInit library := by
  have checks : Untyped.runChecks (Untyped.checks library .detailFetchJob) job.fields =
      (requireContractVersion library job.contractVersion >>= fun _ =>
        requireText job.jobId "job_id" >>= fun _ =>
        requireText job.crawlRunId "crawl_run_id" >>= fun _ =>
        requireText job.sourceName "source_name" >>= fun _ =>
        requireText job.sourceListingKey "source_listing_key" >>= fun _ =>
        requireHttpUrl library job.listingUrl "listing_url" >>= fun _ =>
        requireNonNegativeInt job.priority "priority" >>= fun _ =>
        requireNonNegativeInt job.attemptNumber "attempt_number" >>= fun _ =>
        requireNonNegativeInt job.maxAttempts "max_attempts" >>= fun _ =>
        (if job.attemptNumber < 1 ∨ job.maxAttempts < job.attemptNumber then
          contractError "attempt_number must be at least 1 and no greater than max_attempts"
        else .ok ()) >>= fun _ =>
        requireUtcTimestamp job.scheduledAt "scheduled_at" >>= fun _ =>
        rejectSensitiveKeys library "metadata" (.obj job.metadata) >>= fun _ => .ok ()) := rfl
  rw [checks]
  simp only [DetailFetchJob.postInit, requireSourceIdentity, bind_assoc, bind_unit,
    ite_contractError_bind]

theorem DiscoveryObservation.runChecks_fields (library : StandardLibrary)
    (observation : DiscoveryObservation) :
    Untyped.runChecks (Untyped.checks library .discoveryObservation) observation.fields =
      observation.postInit library := by
  have checks :
      Untyped.runChecks (Untyped.checks library .discoveryObservation) observation.fields =
        (requireContractVersion library observation.contractVersion >>= fun _ =>
          requireText observation.crawlRunId "crawl_run_id" >>= fun _ =>
          requireText observation.sourceName "source_name" >>= fun _ =>
          requireText observation.sourceListingKey "source_listing_key" >>= fun _ =>
          requireHttpUrl library observation.listingUrl "listing_url" >>= fun _ =>
          requireUtcTimestamp observation.observedAt "observed_at" >>= fun _ =>
          requireText observation.discoveryPartition "discovery_partition" >>= fun _ =>
          rejectSensitiveKeys library "visible_specs"
            (stringMappingJson observation.visibleSpecs) >>= fun _ => .ok ()) := rfl
  rw [checks]
  simp only [DiscoveryObservation.postInit, requireSourceIdentity, bind_assoc, bind_unit]

theorem requireResponseStatus_fields (artifact : RawFetchArtifact) :
    Untyped.requireResponseStatus artifact.fields =
      if artifact.responseStatus.any fun status => ¬ (100 ≤ status ∧ status ≤ 599) then
        contractError "response_status must be an HTTP status code or null"
      else .ok () := by
  have found : attr artifact.fields "response_status" =
      .json (artifact.responseStatus.elim .null .int) := rfl
  rw [Untyped.requireResponseStatus, found]
  cases artifact.responseStatus with
  | none => rfl
  | some status =>
      by_cases inRange : 100 ≤ status ∧ status ≤ 599 <;> simp [inRange]

theorem requireSnapshotContent_fields (artifact : RawFetchArtifact) :
    Untyped.requireSnapshotContent artifact.fields =
      if artifact.artifactStatus = .success then
        requireSnapshotContent artifact.snapshotPath artifact.contentHash
      else .ok () := by
  have status : attr artifact.fields "artifact_status" =
      .artifactStatus artifact.artifactStatus := rfl
  have path : attr artifact.fields "snapshot_path" = optionalText artifact.snapshotPath := rfl
  have hash : attr artifact.fields "content_hash" = optionalText artifact.contentHash := rfl
  rw [Untyped.requireSnapshotContent, status, path, hash]
  cases artifact.artifactStatus with
  | success =>
      rw [if_pos rfl]
      cases snapshotPath : artifact.snapshotPath with
      | none => simp [requireSnapshotContent, optionalText, Untyped.isNone]
      | some snapshot =>
          cases contentHash : artifact.contentHash with
          | none => simp [requireSnapshotContent, optionalText, Untyped.isNone]
          | some digest =>
              rw [snapshotPath] at path
              rw [contentHash] at hash
              simp [requireSnapshotContent, optionalText, Untyped.isNone, Untyped.requireText,
                Untyped.requireSha256, path, hash]
  | _ => rfl

theorem RawFetchArtifact.runChecks_fields (library : StandardLibrary)
    (artifact : RawFetchArtifact) :
    Untyped.runChecks (Untyped.checks library .rawFetchArtifact) artifact.fields =
      artifact.postInit library := by
  have checks :
      Untyped.runChecks (Untyped.checks library .rawFetchArtifact) artifact.fields =
        (requireContractVersion library artifact.contractVersion >>= fun _ =>
          requireText artifact.artifactId "artifact_id" >>= fun _ =>
          requireText artifact.jobId "job_id" >>= fun _ =>
          requireText artifact.crawlRunId "crawl_run_id" >>= fun _ =>
          requireText artifact.fetchMethod "fetch_method" >>= fun _ =>
          requireText artifact.acquisitionVersion "acquisition_version" >>= fun _ =>
          requireText artifact.sourceName "source_name" >>= fun _ =>
          requireText artifact.sourceListingKey "source_listing_key" >>= fun _ =>
          requireHttpUrl library artifact.listingUrl "listing_url" >>= fun _ =>
          requireUtcTimestamp artifact.fetchedAt "fetched_at" >>= fun _ =>
          Untyped.requireResponseStatus artifact.fields >>= fun _ =>
          Untyped.requireSnapshotContent artifact.fields >>= fun _ => .ok ()) := rfl
  rw [checks, requireResponseStatus_fields, requireSnapshotContent_fields]
  simp only [RawFetchArtifact.postInit, requireSourceIdentity, bind_assoc, bind_unit,
    ite_contractError_bind]
  rfl

theorem requireCountEntries_counts (counts : List (String × Int)) :
    Untyped.requireCountEntries (counts.map fun entry => (entry.1, .int entry.2)) =
      requireStateCounts counts := by
  induction counts with
  | nil => rfl
  | cons entry rest inductionHypothesis =>
      rw [List.map_cons, Untyped.requireCountEntries, requireStateCounts, inductionHypothesis]

theorem countSum_counts (counts : List (String × Int)) :
    Untyped.countSum (counts.map fun entry => (entry.1, .int entry.2)) =
      (counts.map Prod.snd).sum := by
  induction counts with
  | nil => rfl
  | cons entry rest inductionHypothesis =>
      rw [List.map_cons, Untyped.countSum, inductionHypothesis, List.map_cons, List.sum_cons]

theorem requireCounts_fields (manifest : DatasetBatchManifest) :
    Untyped.requireCounts manifest.fields = (do
      if ¬ manifest.terminalStateCounts.all fun entry => terminalStates.contains entry.1 then
        contractError "terminal_state_counts contains an unsupported terminal state"
      requireStateCounts manifest.terminalStateCounts
      if (manifest.terminalStateCounts.map Prod.snd).sum ≠ manifest.recordCount then
        contractError "record_count must equal the sum of terminal_state_counts") := by
  have counts : attr manifest.fields "terminal_state_counts" =
      .json (countsJson manifest.terminalStateCounts) := rfl
  have total : attr manifest.fields "record_count" = .json (.int manifest.recordCount) := rfl
  rw [Untyped.requireCounts, counts, total]
  simp only [countsJson, requireCountEntries_counts, countSum_counts, List.all_map]
  rfl

theorem DatasetBatchManifest.runChecks_fields (library : StandardLibrary)
    (manifest : DatasetBatchManifest) :
    Untyped.runChecks (Untyped.checks library .datasetBatchManifest) manifest.fields =
      manifest.postInit library := by
  have checks :
      Untyped.runChecks (Untyped.checks library .datasetBatchManifest) manifest.fields =
        (requireContractVersion library manifest.contractVersion >>= fun _ =>
          requireText manifest.batchId "batch_id" >>= fun _ =>
          requireText manifest.batchVersion "batch_version" >>= fun _ =>
          requireText manifest.sourceName "source_name" >>= fun _ =>
          requireText manifest.snapshotDate "snapshot_date" >>= fun _ =>
          requireText manifest.recordsPath "records_path" >>= fun _ =>
          requireUtcTimestamp manifest.createdAt "created_at" >>= fun _ =>
          requireNonNegativeInt manifest.recordCount "record_count" >>= fun _ =>
          requireNonNegativeInt manifest.proxyBytesUsed "proxy_bytes_used" >>= fun _ =>
          requireSha256 manifest.recordsChecksum "records_checksum" >>= fun _ =>
          requireSha256 manifest.manifestChecksum "manifest_checksum" >>= fun _ =>
          Untyped.requireCounts manifest.fields >>= fun _ => .ok ()) := rfl
  rw [checks, requireCounts_fields, bind_unit]
  rfl

end ScraperProject.Contracts
