import ScraperProject.Database.ManifestCodec
import ScraperProject.Database.RepositorySteps
import ScraperProject.Foundation.History

/-!
Contract: a recorded manifest comes back from both decoders.

Owns the equality of manifests as the dataclass compares them, the reading of
the stored payload by `validate_contract_payload`, and the round trip through
`DatasetBatchRepository` over every later history of records.

Does not own the text of the stored payload.
-/

namespace ScraperProject.Database

open Foundation
open Contracts

/-! ## Equality -/

/-- `left == right`: mappings compare as sets of entries. -/
def EqualManifests (left right : DatasetBatchManifest) : Prop :=
  left.terminalStateCounts.Perm right.terminalStateCounts ∧
    left = { right with terminalStateCounts := left.terminalStateCounts }

theorem storedManifest_equal (manifest : DatasetBatchManifest) :
    EqualManifests (storedManifest manifest) manifest :=
  ⟨storedCounts_perm manifest.terminalStateCounts, rfl⟩

/-! ## The payload at the boundary -/

/-- The payload that `json.loads` returns for a stored manifest. -/
def storedPayload (manifest : DatasetBatchManifest) (createdAt : String) : List (String × Json) :=
  (Json.sortEntries (batchPayload manifest createdAt)).insertionSort Json.keyOrder

theorem loads_batchRow (manifest : DatasetBatchManifest) (createdAt : String) :
    Json.loads (batchRow manifest createdAt).manifestJson.toList =
      some (.obj (storedPayload manifest createdAt)) := by
  rw [batchRow, String.toList_ofList, Json.loads_dumps, Json.sortKeys, storedPayload]

theorem keys_sortEntries (entries : List (String × Json)) :
    (Json.sortEntries entries).map Prod.fst = entries.map Prod.fst := by
  induction entries with
  | nil => rfl
  | cons entry rest inductionHypothesis =>
      rw [Json.sortEntries, List.map_cons, List.map_cons, inductionHypothesis]

/-- The stored keys are the fields of the contract. -/
theorem storedPayload_known (manifest : DatasetBatchManifest) (createdAt : String) :
    KnownKeys .datasetBatchManifest (storedPayload manifest createdAt) := by
  intro entry member
  have listed : entry.1 ∈ (batchPayload manifest createdAt).map Prod.fst := by
    rw [← keys_sortEntries]
    exact List.mem_map_of_mem ((List.mem_insertionSort Json.keyOrder).mp member)
  simpa [batchPayload, ContractType.fields] using listed

/-- The contents of the fields are those of the stored manifest. -/
theorem storedPayload_contents {library : StandardLibrary} {manifest : DatasetBatchManifest}
    {createdAt : String} (printed : timestamp manifest.createdAt = .ok createdAt)
    (valid : manifest.postInit library = .ok ()) :
    contents library (storedPayload manifest createdAt) ContractType.datasetBatchManifest.fields =
      .ok (storedManifest manifest).fields := by
  obtain ⟨utc, converted, rfl⟩ := timestamp_ok_iff.mp printed
  have atUtc := eq_ofInstant_of_utc (postInit_offset valid) converted
  have lookup : ∀ key, Json.get? (storedPayload manifest utc.text) key =
      (Json.get? (batchPayload manifest utc.text) key).map Json.sortKeys :=
    fun key => Json.get?_sorted key _
  have createdAt : fieldContent library "created_at" .timestamp (some (.str utc.text)) =
      .ok (.datetime manifest.createdAt) := by
    rw [fieldContent, parseUtcTimestamp_text library utc, atUtc]
    rfl
  have texts : ∀ (name : String) (values : List String),
      fieldContent library name .texts (some (Json.sortKeys (.arr (values.map .str)))) =
        .ok (.tuple (values.map .str)) := by
    intro name values
    rw [Json.sortKeys, sortItems_str]
    rfl
  have counts : fieldContent library "terminal_state_counts" .countMapping
      (some (Json.sortKeys (countsJson manifest.terminalStateCounts))) =
        .ok (.json (countsJson (storedCounts manifest.terminalStateCounts))) := by
    rw [countsJson, Json.sortKeys, sortEntries_int, insertionSort_counts]
    rfl
  rw [contents_ok]
  simp only [ContractType.fields, DatasetBatchManifest.fields, List.forall₂_cons, lookup,
    true_and]
  exact ⟨rfl, rfl, rfl, rfl, createdAt, rfl, rfl, counts, texts _ _, texts _ _, rfl, rfl, rfl, rfl,
    texts _ _, .nil⟩

/-- The boundary accepts the stored payload as the stored manifest. -/
theorem validateContractPayload_stored {library : StandardLibrary}
    {manifest : DatasetBatchManifest} {createdAt : String}
    (printed : timestamp manifest.createdAt = .ok createdAt)
    (valid : manifest.postInit library = .ok ()) :
    validateContractPayload library "DatasetBatchManifest"
        (.obj (storedPayload manifest createdAt)) =
      .ok { type := .datasetBatchManifest, fields := (storedManifest manifest).fields } := by
  apply (@validateContractPayload_ok library .datasetBatchManifest _ _).mpr
  refine ⟨_, rfl, rfl, fromMapping_ok.mpr ⟨storedPayload_known manifest createdAt,
    storedPayload_contents printed valid, ?_⟩⟩
  rw [← Untyped.runChecks_ok, DatasetBatchManifest.runChecks_fields]
  exact postInit_storedManifest valid

/-! ## The repository -/

/-- A recorded row is found by its batch. -/
theorem getBatch_of_row {library : StandardLibrary} {db : Db} {row : BatchRow}
    (member : row ∈ db.batches) :
    getBatch library row.batchId db = ((row.manifest library).map some, db) := by
  have found : db.batches.find? (fun stored => stored.batchId = row.batchId) = some row := by
    apply Table.find?_eq_some_of_mem member (by simp)
    intro other _ selected
    exact Or.inl (of_decide_eq_true selected)
  rw [getBatch, found]

/-- A call of `record` keeps every row that is there, whether it returns or raises. -/
theorem recordBatch_keeps (manifest : DatasetBatchManifest) {db : Db} {row : BatchRow}
    (member : row ∈ db.batches) : row ∈ (recordBatch manifest db).2.batches := by
  rcases recordBatch_cases (Prod.eta (recordBatch manifest db)).symm with
    ⟨raised, _, unchanged⟩ | ⟨_, batches, createdAt, changed, _, rows⟩
  · rw [unchanged]
    exact member
  · rw [changed, ← Table.mem_rows, rows]
    exact List.mem_append_left _ member

theorem recordBatches_keep (later : List DatasetBatchManifest) {db : Db} {row : BatchRow}
    (member : row ∈ db.batches) : row ∈ (History.after recordBatch db later).batches := by
  induction later generalizing db with
  | nil => exact member
  | cons manifest rest inductionHypothesis =>
      exact inductionHypothesis (recordBatch_keeps manifest member)

/-- A recorded manifest is read back by both decoders as a value equal to it, and
still is after any later records, whatever their outcomes. -/
theorem recordBatch_roundTrip (library : StandardLibrary) (manifest : DatasetBatchManifest)
    (db next : Db) (valid : manifest.postInit library = .ok ())
    (recorded : recordBatch manifest db = (.ok (), next)) :
    ∃ stored, EqualManifests stored manifest ∧
      (∀ later : List DatasetBatchManifest,
        (getBatch library manifest.batchId (History.after recordBatch next later)).1 =
          .ok (some stored)) ∧
      ∃ row ∈ next.batches, row.batchId = manifest.batchId ∧
        ∃ payload, Json.loads row.manifestJson.toList = some payload ∧
          validateContractPayload library "DatasetBatchManifest" payload =
            .ok { type := .datasetBatchManifest, fields := stored.fields } := by
  rcases recordBatch_cases recorded with ⟨_, raised, _⟩ | ⟨_, batches, createdAt, rfl, printed, rows⟩
  · cases raised
  have member : batchRow manifest createdAt ∈ batches := by
    rw [← Table.mem_rows, rows]
    exact List.mem_append_right _ (List.mem_singleton_self _)
  refine ⟨storedManifest manifest, storedManifest_equal manifest, fun later => ?_,
    batchRow manifest createdAt, member, rfl, _, loads_batchRow manifest createdAt,
    validateContractPayload_stored printed valid⟩
  have kept := recordBatches_keep later
    (show batchRow manifest createdAt ∈ Db.batches { db with batches := batches } from member)
  have found := @getBatch_of_row library _ _ kept
  rw [batchRow_storedManifest printed valid] at found
  exact congrArg Prod.fst found

/-- A manifest with counts out of order, made at a microsecond. -/
def countedManifest : DatasetBatchManifest where
  contractVersion := "0.1"
  batchId := "batch-1"
  batchVersion := "1"
  sourceName := "source"
  createdAt := .ofInstant ⟨63902937600000001, by decide⟩
  snapshotDate := "2026-01-01"
  recordCount := 3
  terminalStateCounts := [("manual_review", 1), ("detail_success", 2)]
  acquisitionVersions := ["a", "b"]
  parserVersions := []
  recordsPath := "records.jsonl"
  recordsChecksum := "0000000000000000000000000000000000000000000000000000000000000000"
  manifestChecksum := "0000000000000000000000000000000000000000000000000000000000000000"
  proxyBytesUsed := 0
  knownLimitations := ["none"]

/-- Recorded twice, the manifest is read back after the second call has raised. -/
theorem recordBatch_roundTrip_counted : ∃ next,
    recordBatch countedManifest Db.empty = (.ok (), next) ∧
      ∃ stored, EqualManifests stored countedManifest ∧
        (getBatch plainLibrary "batch-1" (History.after recordBatch next [countedManifest])).1 =
          .ok (some stored) := by
  have recorded : ∃ next, recordBatch countedManifest Db.empty = (.ok (), next) := ⟨_, rfl⟩
  obtain ⟨next, recorded⟩ := recorded
  obtain ⟨stored, equal, found, _⟩ :=
    recordBatch_roundTrip plainLibrary countedManifest Db.empty next rfl recorded
  exact ⟨next, recorded, stored, equal, found [countedManifest]⟩

end ScraperProject.Database
