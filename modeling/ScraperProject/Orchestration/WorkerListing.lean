import ScraperProject.Orchestration.WorkerProvenance

/-!
Contract: the records that the worker makes of a valid listing.

Owns what a valid listing is, and the four records of one run that pass their
checks: the observation, the job and the artifact of a valid listing, and the
manifest of the dataset batch.

Does not own where a record is stored.
-/

namespace ScraperProject.Orchestration

open Foundation
open Database
open Contracts

/-- The optional texts that an observation takes from a listing. -/
def optionalFields : List String :=
  ["visible_title", "visible_price_text", "visible_currency", "visible_status",
    "card_fingerprint"]

/-- A listing that the worker can read and that the contracts accept. -/
structure ValidListing (library : StandardLibrary) (listing : List (String × Json)) : Prop where
  source : text listing "source_name" = .ok sourceName
  key : ∃ listingKey, text listing "source_listing_key" = .ok listingKey ∧
    Text.isBlank listingKey = false
  url : ∃ listingUrl, text listing "listing_url" = .ok listingUrl ∧
    requireHttpUrl library listingUrl "listing_url" = .ok ()
  texts : ∀ field ∈ optionalFields, ∃ value, optionalText listing field = .ok value
  specs : ∃ mapping, stringMapping (Json.get? listing "visible_specs") = .ok mapping ∧
    rejectSensitiveKeys library "visible_specs" (stringMappingJson mapping) = .ok ()

section Records

variable {library : StandardLibrary} {root runId listingKey listingUrl : String}
  {current : Datetime} {listing : List (String × Json)}

/-! ## Checks that always pass -/

theorem notBlank_append_right {first second : String} (notBlank : Text.isBlank second = false) :
    Text.isBlank (first ++ second) = false := by
  rw [Text.isBlank, String.toList_append, List.all_append]
  rw [Text.isBlank] at notBlank
  rw [notBlank, Bool.and_false]

theorem joinPath_notBlank {parent name : String} (notBlank : Text.isBlank name = false) :
    Text.isBlank (joinPath parent name) = false := by
  unfold joinPath
  split
  · exact notBlank_append_right notBlank
  · exact notBlank_append_right notBlank

theorem snapshotPath_notBlank : Text.isBlank (snapshotPath library root runId) = false :=
  joinPath_notBlank (notBlank_append_right (by decide))

theorem recordsPath_notBlank : Text.isBlank (recordsPath library root runId) = false :=
  joinPath_notBlank (notBlank_append_right (by decide))

/-- A date is printed with dashes. -/
theorem dateIsoformat_notBlank : Text.isBlank current.dateIsoformat = false := by
  have dash : '-' ∈ (current.dateIsoformat).toList := by
    simp [Datetime.dateIsoformat, IsoText.dateText]
  rw [Text.isBlank, List.all_eq_false]
  exact ⟨'-', dash, by decide⟩

theorem requireText_of_notBlank {value : String} (fieldName : String)
    (notBlank : Text.isBlank value = false) : requireText value fieldName = .ok () :=
  requireText_ok.mpr notBlank

theorem requireContractVersion_current :
    requireContractVersion library contractVersion = .ok () := by
  have same : majorVersion contractVersion = majorVersion contractVersion := rfl
  rw [requireContractVersion, requireText_of_notBlank _ (by decide)]
  simp [bind, Except.bind]

theorem requireSha256_digest (digest : HexDigest) (fieldName : String) :
    requireSha256 digest.text fieldName = .ok () := if_pos digest.form

/-! ## The records -/

theorem ValidListing.sourceIdentity (valid : ValidListing library listing)
    (key : text listing "source_listing_key" = .ok listingKey)
    (url : text listing "listing_url" = .ok listingUrl) :
    requireSourceIdentity library sourceName listingKey listingUrl = .ok () := by
  obtain ⟨otherKey, isKey, notBlank⟩ := valid.key
  obtain ⟨otherUrl, isUrl, accepted⟩ := valid.url
  cases key.symm.trans isKey
  cases url.symm.trans isUrl
  simp [requireSourceIdentity, requireText_of_notBlank _ notBlank, accepted,
    requireText_of_notBlank "source_name" (show Text.isBlank sourceName = false by decide), bind,
    Except.bind]

theorem ValidListing.observation (valid : ValidListing library listing)
    (named : Text.isBlank runId = false) (utc : current.offset = 0)
    (key : text listing "source_listing_key" = .ok listingKey)
    (url : text listing "listing_url" = .ok listingUrl) :
    ∃ observation, discoveryObservation library runId current listing listingKey listingUrl =
      .ok observation ∧ observation.observedAt = current := by
  obtain ⟨title, isTitle⟩ := valid.texts "visible_title" (by decide)
  obtain ⟨price, isPrice⟩ := valid.texts "visible_price_text" (by decide)
  obtain ⟨currency, isCurrency⟩ := valid.texts "visible_currency" (by decide)
  obtain ⟨status, isStatus⟩ := valid.texts "visible_status" (by decide)
  obtain ⟨fingerprint, isFingerprint⟩ := valid.texts "card_fingerprint" (by decide)
  obtain ⟨mapping, isMapping, harmless⟩ := valid.specs
  have partitionNamed : Text.isBlank partitionKey = false := by decide
  let observation : DiscoveryObservation :=
    { contractVersion := contractVersion
      crawlRunId := runId
      sourceName := sourceName
      sourceListingKey := listingKey
      listingUrl := listingUrl
      observedAt := current
      visibleTitle := title
      visiblePriceText := price
      visibleCurrency := currency
      visibleSpecs := mapping
      visibleStatus := status
      cardFingerprint := fingerprint
      discoveryPartition := partitionKey }
  have accepted : observation.postInit library = .ok () := by
    simp only [observation, DiscoveryObservation.postInit, requireContractVersion_current,
      requireText_of_notBlank _ named, valid.sourceIdentity key url, requireUtcTimestamp_ok.mpr utc,
      requireText_of_notBlank _ partitionNamed, harmless, bind, Except.bind]
  refine ⟨observation, ?_, rfl⟩
  refine bind_eq_ok.mpr ⟨_, valid.source, bind_eq_ok.mpr ⟨_, isTitle, ?_⟩⟩
  refine bind_eq_ok.mpr ⟨_, isPrice, bind_eq_ok.mpr ⟨_, isCurrency, ?_⟩⟩
  refine bind_eq_ok.mpr ⟨_, isMapping, bind_eq_ok.mpr ⟨_, isStatus, ?_⟩⟩
  exact bind_eq_ok.mpr ⟨_, isFingerprint, bind_eq_ok.mpr ⟨_, accepted, rfl⟩⟩

theorem ValidListing.job (valid : ValidListing library listing)
    (named : Text.isBlank runId = false) (utc : current.offset = 0)
    (key : text listing "source_listing_key" = .ok listingKey)
    (url : text listing "listing_url" = .ok listingUrl) :
    (detailFetchJob library runId current listingKey listingUrl).postInit library = .ok () := by
  have jobNamed : Text.isBlank (jobId library runId) = false := library.uuid5_notBlank _
  have plain : isSensitiveKey "fixture" = false := by decide +kernel
  have harmless : rejectSensitiveKeys library "metadata"
      (.obj [("fixture", .str "synthetic_step3a")]) = .ok () := by
    simp only [rejectSensitiveKeys, rejectSensitiveEntries, plain, Bool.false_eq_true, if_false,
      bind, Except.bind]
  simp [DetailFetchJob.postInit, detailFetchJob, requireContractVersion_current,
    requireText_of_notBlank _ named, requireText_of_notBlank _ jobNamed,
    valid.sourceIdentity key url, requireNonNegativeInt, requireUtcTimestamp_ok.mpr utc, harmless,
    bind, Except.bind]

theorem ValidListing.artifact (valid : ValidListing library listing) {leasedJobId : String}
    {digest : HexDigest} {fixture : List (String × Json)}
    (named : Text.isBlank runId = false) (leasedNamed : Text.isBlank leasedJobId = false)
    (utc : current.offset = 0) (reloaded : reloadFixture listing = .ok fixture) :
    ∃ artifact, rawFetchArtifact library root runId leasedJobId digest.text current fixture =
      .ok artifact ∧ artifact.fetchedAt = current ∧ artifact.responseStatus = some 200 := by
  obtain ⟨listingKey, key, _⟩ := valid.key
  obtain ⟨listingUrl, url, _⟩ := valid.url
  have artifactNamed : Text.isBlank (artifactId library runId) = false := library.uuid5_notBlank _
  have methodNamed : Text.isBlank "local_synthetic_fixture" = false := by decide
  have acquisitionNamed : Text.isBlank "step3a-synthetic-0.1" = false := by decide
  let artifact : RawFetchArtifact :=
    { contractVersion := contractVersion
      artifactId := artifactId library runId
      jobId := leasedJobId
      crawlRunId := runId
      sourceName := sourceName
      sourceListingKey := listingKey
      listingUrl := listingUrl
      fetchedAt := current
      fetchMethod := "local_synthetic_fixture"
      acquisitionVersion := "step3a-synthetic-0.1"
      snapshotPath := some (snapshotPath library root runId)
      contentHash := some digest.text
      responseStatus := some 200
      mimeType := some "application/json"
      artifactStatus := .success }
  have content : requireSnapshotContent artifact.snapshotPath artifact.contentHash = .ok () :=
    bind_eq_ok.mpr ⟨_, requireText_of_notBlank _ snapshotPath_notBlank,
      requireSha256_digest digest _⟩
  have accepted : artifact.postInit library = .ok () := by
    refine bind_eq_ok.mpr ⟨_, requireContractVersion_current, ?_⟩
    refine bind_eq_ok.mpr ⟨_, requireText_of_notBlank _ artifactNamed, ?_⟩
    refine bind_eq_ok.mpr ⟨_, requireText_of_notBlank _ leasedNamed, ?_⟩
    refine bind_eq_ok.mpr ⟨_, requireText_of_notBlank _ named, ?_⟩
    refine bind_eq_ok.mpr ⟨_, requireText_of_notBlank _ methodNamed, ?_⟩
    refine bind_eq_ok.mpr ⟨_, requireText_of_notBlank _ acquisitionNamed, ?_⟩
    refine bind_eq_ok.mpr ⟨_, valid.sourceIdentity key url, ?_⟩
    exact bind_eq_ok.mpr ⟨_, requireUtcTimestamp_ok.mpr utc, content⟩
  refine ⟨artifact, ?_, rfl, rfl⟩
  refine bind_eq_ok.mpr ⟨_, (text_reloadFixture reloaded _).trans key, ?_⟩
  refine bind_eq_ok.mpr ⟨_, (text_reloadFixture reloaded _).trans url, ?_⟩
  exact bind_eq_ok.mpr ⟨_, accepted, rfl⟩

theorem batchManifest_valid (utc : current.offset = 0) :
    (batchManifest library root runId current).postInit library = .ok () := by
  have batchNamed : Text.isBlank (batchId library runId) = false := library.uuid5_notBlank _
  have states : ["detail_success"].all terminalStates.contains = true := by decide
  simp [DatasetBatchManifest.postInit, batchManifest, manifestChecksum,
    requireContractVersion_current, requireText_of_notBlank _ batchNamed,
    requireText_of_notBlank "batch_version"
      (show Text.isBlank "step3a-synthetic-0.1" = false by decide),
    requireText_of_notBlank "source_name" (show Text.isBlank sourceName = false by decide),
    requireText_of_notBlank "snapshot_date" dateIsoformat_notBlank,
    requireText_of_notBlank "records_path" recordsPath_notBlank, requireUtcTimestamp_ok.mpr utc,
    requireNonNegativeInt, requireSha256_digest, requireStateCounts, terminalStates, bind,
    Except.bind, pure, Except.pure]

end Records

end ScraperProject.Orchestration
