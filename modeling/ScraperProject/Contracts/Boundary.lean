import ScraperProject.Contracts.Models

/-!
Contract: `validate_contract_payload` and the dataclasses behind it, on untyped
JSON payloads.

Owns the values that a field of a contract can hold, the fields of the six
contracts with their declared types, the conversions of each `from_mapping` and
the checks of each `__post_init__` as lists in the order of the source, and
`validate_contract_payload`.

Does not own which payloads are accepted. The text of a `TypeError` is the
interpreter's and is not reproduced, and its recursion limit is not modelled.
-/

namespace ScraperProject.Contracts

open Foundation
open Database

/-! ## Enumerations -/

inductive TelemetryOutcome where
  | success
  | failed
  | skipped
deriving DecidableEq, Repr

def TelemetryOutcome.value : TelemetryOutcome → String
  | .success => "SUCCESS"
  | .failed => "FAILED"
  | .skipped => "SKIPPED"

inductive ParseStatus where
  | success
  | partially
  | failed
deriving DecidableEq, Repr

def ParseStatus.value : ParseStatus → String
  | .success => "SUCCESS"
  | .partially => "PARTIAL"
  | .failed => "FAILED"

/-! ## Fields -/

/-- What a field of a contract can hold: a JSON value of the payload, or what
`from_mapping` has made of one. -/
inductive FieldValue where
  | json (value : Json)
  | datetime (value : Datetime)
  | reasonCode (value : DetailReasonCode)
  | artifactStatus (value : ArtifactStatus)
  | telemetryOutcome (value : TelemetryOutcome)
  | parseStatus (value : ParseStatus)
  | tuple (items : List Json)

/-- The types that the dataclasses declare. -/
inductive FieldType where
  | text
  | optionalText
  | integer
  | optionalInteger
  | timestamp
  | reasonCode
  | artifactStatus
  | telemetryOutcome
  | parseStatus
  | mapping
  | textMapping
  | evidenceMapping
  | confidenceMapping
  | countMapping
  | texts
deriving DecidableEq, Repr

inductive ContractType where
  | detailFetchJob
  | discoveryObservation
  | rawFetchArtifact
  | fetchTelemetry
  | parsedListingCandidate
  | datasetBatchManifest
deriving DecidableEq, Repr

def ContractType.name : ContractType → String
  | .detailFetchJob => "DetailFetchJob"
  | .discoveryObservation => "DiscoveryObservation"
  | .rawFetchArtifact => "RawFetchArtifact"
  | .fetchTelemetry => "FetchTelemetry"
  | .parsedListingCandidate => "ParsedListingCandidate"
  | .datasetBatchManifest => "DatasetBatchManifest"

/-- `CONTRACT_TYPES`. -/
def contractTypes : List ContractType :=
  [.detailFetchJob, .discoveryObservation, .rawFetchArtifact, .fetchTelemetry,
    .parsedListingCandidate, .datasetBatchManifest]

/-- The fields of a dataclass with their declared types. -/
def ContractType.fields : ContractType → List (String × FieldType)
  | .detailFetchJob =>
      [ ("contract_version", .text), ("job_id", .text), ("crawl_run_id", .text),
        ("source_name", .text), ("source_listing_key", .text), ("listing_url", .text),
        ("reason_code", .reasonCode), ("priority", .integer), ("attempt_number", .integer),
        ("max_attempts", .integer), ("scheduled_at", .timestamp), ("metadata", .mapping) ]
  | .discoveryObservation =>
      [ ("contract_version", .text), ("crawl_run_id", .text), ("source_name", .text),
        ("source_listing_key", .text), ("listing_url", .text), ("observed_at", .timestamp),
        ("visible_title", .optionalText), ("visible_price_text", .optionalText),
        ("visible_currency", .optionalText), ("visible_specs", .textMapping),
        ("visible_status", .optionalText), ("card_fingerprint", .optionalText),
        ("discovery_partition", .text) ]
  | .rawFetchArtifact =>
      [ ("contract_version", .text), ("artifact_id", .text), ("job_id", .text),
        ("crawl_run_id", .text), ("source_name", .text), ("source_listing_key", .text),
        ("listing_url", .text), ("fetched_at", .timestamp), ("fetch_method", .text),
        ("acquisition_version", .text), ("snapshot_path", .optionalText),
        ("content_hash", .optionalText), ("response_status", .optionalInteger),
        ("mime_type", .optionalText), ("artifact_status", .artifactStatus) ]
  | .fetchTelemetry =>
      [ ("contract_version", .text), ("job_id", .text), ("source_name", .text),
        ("attempt_number", .integer), ("started_at", .timestamp), ("finished_at", .timestamp),
        ("duration_ms", .integer), ("bytes_sent", .integer), ("bytes_received", .integer),
        ("outcome", .telemetryOutcome), ("error_class", .optionalText),
        ("proxy_pool_label", .text) ]
  | .parsedListingCandidate =>
      [ ("contract_version", .text), ("candidate_id", .text), ("artifact_id", .text),
        ("source_name", .text), ("source_listing_key", .text), ("listing_url", .text),
        ("parsed_at", .timestamp), ("parser_name", .text), ("parser_version", .text),
        ("parse_status", .parseStatus), ("raw_fields", .textMapping),
        ("field_evidence", .evidenceMapping), ("field_confidence", .confidenceMapping),
        ("warnings", .texts), ("failure_reasons", .texts) ]
  | .datasetBatchManifest =>
      [ ("contract_version", .text), ("batch_id", .text), ("batch_version", .text),
        ("source_name", .text), ("created_at", .timestamp), ("snapshot_date", .text),
        ("record_count", .integer), ("terminal_state_counts", .countMapping),
        ("acquisition_versions", .texts), ("parser_versions", .texts), ("records_path", .text),
        ("records_checksum", .text), ("manifest_checksum", .text),
        ("proxy_bytes_used", .integer), ("known_limitations", .texts) ]

/-- The keyword arguments of a dataclass, or the attributes of an instance. -/
abbrev Fields := List (String × FieldValue)

/-- The value of a keyword or an attribute, if it is there. -/
def field? (data : Fields) (name : String) : Option FieldValue :=
  (data.find? fun entry => entry.1 = name).map Prod.snd

/-- `self.name`, or `data.get(name)`. -/
def attr (self : Fields) (name : String) : FieldValue := (field? self name).getD (.json .null)

/-- `data[name] = value`. -/
def setField (data : Fields) (name : String) (value : FieldValue) : Fields :=
  (name, value) :: data.filter fun entry => entry.1 ≠ name

/-! ## The checks of one field -/

namespace Untyped

/-- A check of an instance in its `__post_init__`. -/
abbrev Check := Fields → Except PyError Unit

def requireText (fieldName : String) : Check := fun self =>
  match attr self fieldName with
  | .json (.str value) => Contracts.requireText value fieldName
  | _ => contractError (fieldName ++ " must be a non-empty string")

def requireUtcTimestamp (fieldName : String) : Check := fun self =>
  match attr self fieldName with
  | .datetime value => Contracts.requireUtcTimestamp value fieldName
  | _ => contractError (fieldName ++ " must be a timezone-aware UTC timestamp")

def requireHttpUrl (library : StandardLibrary) (fieldName : String) : Check := fun self =>
  match attr self fieldName with
  | .json (.str value) => Contracts.requireHttpUrl library value fieldName
  | _ => contractError (fieldName ++ " must be a non-empty string")

def requireContractVersion (library : StandardLibrary) : Check := fun self =>
  match attr self "contract_version" with
  | .json (.str value) => Contracts.requireContractVersion library value
  | _ => contractError "contract_version must be a non-empty string"

def requireSha256 (fieldName : String) : Check := fun self =>
  match attr self fieldName with
  | .json (.str value) => Contracts.requireSha256 value fieldName
  | _ => contractError (fieldName ++ " must be a lowercase SHA-256 hex digest")

/-- `True` and `False` are not integers here. -/
def requireNonNegativeInt (fieldName : String) : Check := fun self =>
  match attr self fieldName with
  | .json (.int value) => Contracts.requireNonNegativeInt value fieldName
  | _ => contractError (fieldName ++ " must be a non-negative integer")

/-- `isinstance(self.name, Mapping)`. -/
def requireMapping (fieldName : String) : Check := fun self =>
  match attr self fieldName with
  | .json (.obj _) => .ok ()
  | _ => contractError (fieldName ++ " must be an object")

def rejectSensitive (library : StandardLibrary) (fieldName : String) : Check := fun self =>
  match attr self fieldName with
  | .json value => rejectSensitiveKeys library fieldName value
  | .tuple items => rejectSensitiveItems library fieldName items
  | _ => .ok ()

/-- `isinstance(self.name, enum_type)`. -/
def requireMember (fieldName enumeration : String) (isMember : FieldValue → Bool) : Check :=
  fun self =>
    if isMember (attr self fieldName) then .ok ()
    else contractError (fieldName ++ " must be an approved " ++ enumeration)

def isReasonCode : FieldValue → Bool
  | .reasonCode _ => true
  | _ => false

def isArtifactStatus : FieldValue → Bool
  | .artifactStatus _ => true
  | _ => false

def isTelemetryOutcome : FieldValue → Bool
  | .telemetryOutcome _ => true
  | _ => false

def isParseStatus : FieldValue → Bool
  | .parseStatus _ => true
  | _ => false

/-! ## The checks of several fields -/

/-- The attempts of a job; both are integers by the checks before. -/
def requireAttemptBounds : Check := fun self =>
  match attr self "attempt_number", attr self "max_attempts" with
  | .json (.int attemptNumber), .json (.int maxAttempts) =>
      if attemptNumber < 1 ∨ maxAttempts < attemptNumber then
        contractError "attempt_number must be at least 1 and no greater than max_attempts"
      else .ok ()
  | _, _ => .error .typeError

/-- The attempt of a measurement; it is an integer by the check before. -/
def requireAttempt : Check := fun self =>
  match attr self "attempt_number" with
  | .json (.int attemptNumber) =>
      if attemptNumber < 1 then contractError "attempt_number must be at least 1" else .ok ()
  | _ => .error .typeError

def requireResponseStatus : Check := fun self =>
  match attr self "response_status" with
  | .json .null => .ok ()
  | .json (.int status) =>
      if 100 ≤ status ∧ status ≤ 599 then .ok ()
      else contractError "response_status must be an HTTP status code or null"
  | _ => contractError "response_status must be an HTTP status code or null"

def isNone : FieldValue → Bool
  | .json .null => true
  | _ => false

/-- The file of a successful artifact. -/
def requireSnapshotContent : Check := fun self =>
  match attr self "artifact_status" with
  | .artifactStatus .success =>
      if isNone (attr self "snapshot_path") ∨ isNone (attr self "content_hash") then
        contractError "successful artifacts require immutable snapshot_path and content_hash"
      else do
        requireText "snapshot_path" self
        requireSha256 "content_hash" self
  | _ => .ok ()

/-- The order of two timestamps; both are aware by the checks before. -/
def requireOrderedTimes : Check := fun self =>
  match attr self "started_at", attr self "finished_at" with
  | .datetime startedAt, .datetime finishedAt =>
      if finishedAt.instant < startedAt.instant then
        contractError "finished_at cannot be earlier than started_at"
      else .ok ()
  | _, _ => .error .typeError

def requireNoErrorClass : Check := fun self =>
  match attr self "outcome" with
  | .telemetryOutcome .success =>
      if isNone (attr self "error_class") then .ok ()
      else contractError "successful telemetry cannot include error_class"
  | _ => .ok ()

def requireCandidateMappings : Check := fun self =>
  match attr self "raw_fields", attr self "field_evidence",
      attr self "field_confidence" with
  | .json (.obj _), .json (.obj _), .json (.obj _) => .ok ()
  | _, _, _ =>
      contractError "raw_fields, field_evidence and field_confidence must be objects"

def isConfidence : Json → Bool
  | .int value => 0 ≤ value ∧ value ≤ 1
  | .float number => number.inUnitInterval
  | _ => false

def requireConfidenceEntries : List (String × Json) → Except PyError Unit
  | [] => .ok ()
  | (fieldName, confidence) :: rest => do
      Contracts.requireText fieldName "field_confidence key"
      if ¬ isConfidence confidence then
        contractError "field_confidence values must be between 0 and 1"
      requireConfidenceEntries rest

/-- The confidences; the field is a mapping by the check before. -/
def requireConfidences : Check := fun self =>
  match attr self "field_confidence" with
  | .json (.obj entries) => requireConfidenceEntries entries
  | _ => .error .typeError

def requireCountEntries : List (String × Json) → Except PyError Unit
  | [] => .ok ()
  | (state, .int count) :: rest => do
      Contracts.requireNonNegativeInt count ("terminal_state_counts." ++ state)
      requireCountEntries rest
  | (state, _) :: _ =>
      contractError ("terminal_state_counts." ++ state ++ " must be a non-negative integer")

/-- The sum of counts that have been checked. -/
def countSum : List (String × Json) → Int
  | [] => 0
  | (_, .int count) :: rest => count + countSum rest
  | _ :: rest => countSum rest

/-- The counts; the field is a mapping and the record count an integer by the
checks before. -/
def requireCounts : Check := fun self =>
  match attr self "terminal_state_counts", attr self "record_count" with
  | .json (.obj entries), .json (.int recordCount) => do
      if ¬ entries.all fun entry => terminalStates.contains entry.1 then
        contractError "terminal_state_counts contains an unsupported terminal state"
      requireCountEntries entries
      if countSum entries ≠ recordCount then
        contractError "record_count must equal the sum of terminal_state_counts"
  | _, _ => .error .typeError

/-! ## The checks of each contract -/

/-- `_require_source_identity`. -/
def requireSourceIdentity (library : StandardLibrary) : List Check :=
  [requireText "source_name", requireText "source_listing_key",
    requireHttpUrl library "listing_url"]

/-- The checks of `__post_init__`, first to last. -/
def checks (library : StandardLibrary) : ContractType → List Check
  | .detailFetchJob =>
      [requireContractVersion library, requireText "job_id", requireText "crawl_run_id"] ++
        requireSourceIdentity library ++
        [ requireNonNegativeInt "priority", requireNonNegativeInt "attempt_number",
          requireNonNegativeInt "max_attempts", requireAttemptBounds,
          requireMember "reason_code" "DetailReasonCode" isReasonCode,
          requireUtcTimestamp "scheduled_at", requireMapping "metadata",
          rejectSensitive library "metadata" ]
  | .discoveryObservation =>
      [requireContractVersion library, requireText "crawl_run_id"] ++
        requireSourceIdentity library ++
        [ requireUtcTimestamp "observed_at", requireText "discovery_partition",
          requireMapping "visible_specs", rejectSensitive library "visible_specs" ]
  | .rawFetchArtifact =>
      [ requireContractVersion library, requireText "artifact_id", requireText "job_id",
        requireText "crawl_run_id", requireText "fetch_method",
        requireText "acquisition_version" ] ++
        requireSourceIdentity library ++
        [ requireUtcTimestamp "fetched_at", requireResponseStatus,
          requireMember "artifact_status" "ArtifactStatus" isArtifactStatus,
          requireSnapshotContent ]
  | .fetchTelemetry =>
      [ requireContractVersion library, requireText "job_id", requireText "source_name",
        requireNonNegativeInt "attempt_number", requireAttempt,
        requireUtcTimestamp "started_at", requireUtcTimestamp "finished_at",
        requireOrderedTimes, requireNonNegativeInt "duration_ms",
        requireNonNegativeInt "bytes_sent", requireNonNegativeInt "bytes_received",
        requireText "proxy_pool_label",
        requireMember "outcome" "TelemetryOutcome" isTelemetryOutcome, requireNoErrorClass ]
  | .parsedListingCandidate =>
      [ requireContractVersion library, requireText "candidate_id", requireText "artifact_id",
        requireText "parser_name", requireText "parser_version" ] ++
        requireSourceIdentity library ++
        [ requireUtcTimestamp "parsed_at", requireMember "parse_status" "ParseStatus" isParseStatus,
          requireCandidateMappings, requireConfidences, rejectSensitive library "raw_fields",
          rejectSensitive library "field_evidence" ]
  | .datasetBatchManifest =>
      [ requireContractVersion library, requireText "batch_id", requireText "batch_version",
        requireText "source_name", requireText "snapshot_date", requireText "records_path",
        requireUtcTimestamp "created_at", requireNonNegativeInt "record_count",
        requireNonNegativeInt "proxy_bytes_used", requireSha256 "records_checksum",
        requireSha256 "manifest_checksum", requireMapping "terminal_state_counts",
        requireCounts ]

/-- Make the checks, first to last. -/
def runChecks : List Check → Check
  | [], _ => .ok ()
  | check :: rest, self => do
      check self
      runChecks rest self

/-! ## `from_mapping` -/

mutual

/-- `repr(value)` of a JSON value. -/
def reprJson (library : StandardLibrary) : Json → String
  | .null => "None"
  | .bool true => "True"
  | .bool false => "False"
  | .int value => toString value
  | .float number =>
      if number.text = "NaN".toList then "nan"
      else if number.text = "Infinity".toList then "inf"
      else if number.text = "-Infinity".toList then "-inf"
      else String.ofList number.text
  | .str value => library.repr value
  | .arr items => "[" ++ String.intercalate ", " (reprItems library items) ++ "]"
  | .obj entries => "\x7b" ++ String.intercalate ", " (reprEntries library entries) ++ "\x7d"

def reprItems (library : StandardLibrary) : List Json → List String
  | [] => []
  | item :: rest => reprJson library item :: reprItems library rest

def reprEntries (library : StandardLibrary) : List (String × Json) → List String
  | [] => []
  | (key, value) :: rest =>
      (library.repr key ++ ": " ++ reprJson library value) :: reprEntries library rest

end

/-- A statement of `from_mapping` that replaces a value of the dictionary. -/
abbrev Conversion := Fields → Except PyError Fields

/-- `data[name] = parse_utc_timestamp(data.get(name), name)`. -/
def convertTimestamp (library : StandardLibrary) (fieldName : String) : Conversion := fun data =>
  match attr data fieldName with
  | .json (.str value) => do
      let parsed ← parseUtcTimestamp library value fieldName
      return setField data fieldName (.datetime parsed)
  | _ => contractError (fieldName ++ " must be an ISO-8601 timestamp string")

/-- `data[name] = _parse_enum(enum_type, data.get(name), name)`. -/
def convertMember (library : StandardLibrary) (members : List (String × FieldValue))
    (fieldName : String) : Conversion := fun data =>
  match attr data fieldName with
  | .json value =>
      match value with
      | .str text =>
          match field? members text with
          | some member => .ok (setField data fieldName member)
          | none =>
              contractError (fieldName ++ " has unsupported value " ++ reprJson library value)
      | _ => contractError (fieldName ++ " has unsupported value " ++ reprJson library value)
  | _ => .error .typeError

/-- The items that `tuple(value)` iterates over: the characters of a string, the
keys of an object. -/
def tupleItems : Json → Except PyError (List Json)
  | .arr items => .ok items
  | .str value => .ok (value.toList.map fun character => .str (String.singleton character))
  | .obj entries => .ok (entries.map fun entry => .str entry.1)
  | _ => .error .typeError

/-- `data[name] = tuple(data.get(name, ()))`. -/
def convertTuple (fieldName : String) : Conversion := fun data =>
  match field? data fieldName with
  | none => .ok (setField data fieldName (.tuple []))
  | some (.json value) => do
      let items ← tupleItems value
      return setField data fieldName (.tuple items)
  | some _ => .error .typeError

def reasonCodeMembers : List (String × FieldValue) :=
  [ .newListing, .noDetailSnapshot, .priceChangeRequiresDetail, .cardFingerprintChanged,
    .highPriorityListing, .criticalFieldsMissing, .staleDetailRefresh, .parserVersionRecheck,
    .missingListingVerification, .manualReprocessRequest ].map
      fun code : DetailReasonCode => (code.value, .reasonCode code)

def artifactStatusMembers : List (String × FieldValue) :=
  [.success, .failed, .notModified].map
    fun status : ArtifactStatus => (status.value, .artifactStatus status)

def telemetryOutcomeMembers : List (String × FieldValue) :=
  [.success, .failed, .skipped].map
    fun outcome : TelemetryOutcome => (outcome.value, .telemetryOutcome outcome)

def parseStatusMembers : List (String × FieldValue) :=
  [.success, .partially, .failed].map
    fun status : ParseStatus => (status.value, .parseStatus status)

/-- The conversions of `from_mapping`, first to last. -/
def conversions (library : StandardLibrary) : ContractType → List Conversion
  | .detailFetchJob =>
      [ convertMember library reasonCodeMembers "reason_code",
        convertTimestamp library "scheduled_at" ]
  | .discoveryObservation => [convertTimestamp library "observed_at"]
  | .rawFetchArtifact =>
      [ convertTimestamp library "fetched_at",
        convertMember library artifactStatusMembers "artifact_status" ]
  | .fetchTelemetry =>
      [ convertTimestamp library "started_at", convertTimestamp library "finished_at",
        convertMember library telemetryOutcomeMembers "outcome" ]
  | .parsedListingCandidate =>
      [ convertTimestamp library "parsed_at",
        convertMember library parseStatusMembers "parse_status", convertTuple "warnings",
        convertTuple "failure_reasons" ]
  | .datasetBatchManifest =>
      [ convertTimestamp library "created_at", convertTuple "acquisition_versions",
        convertTuple "parser_versions", convertTuple "known_limitations" ]

/-- Make the conversions, first to last. -/
def convert : List Conversion → Conversion
  | [], data => .ok data
  | conversion :: rest, data => do
      let converted ← conversion data
      convert rest converted

/-- The default of a field. -/
def fieldDefault (type : ContractType) (name : String) : Option FieldValue :=
  if type = .detailFetchJob ∧ name = "metadata" then some (.json (.obj [])) else none

/-- The fields that `cls(**data)` sets. A missing keyword is a `TypeError`. -/
def bindFields (type : ContractType) (data : Fields) :
    List (String × FieldType) → Except PyError Fields
  | [] => .ok []
  | (name, _) :: rest =>
      match (field? data name).or (fieldDefault type name) with
      | none => .error .typeError
      | some value => do
          let others ← bindFields type data rest
          return (name, value) :: others

/-- `cls(**data)` before `__post_init__`. An unexpected keyword is a `TypeError`. -/
def bind (type : ContractType) (data : Fields) : Except PyError Fields :=
  if data.all fun entry => type.fields.any fun field => field.1 = entry.1 then
    bindFields type data type.fields
  else .error .typeError

/-- `from_mapping`. -/
def fromMapping (library : StandardLibrary) (type : ContractType)
    (payload : List (String × Json)) : Except PyError Fields := do
  let data ← convert (conversions library type)
    (payload.map fun entry => (entry.1, .json entry.2))
  let self ← bind type data
  runChecks (checks library type) self
  return self

end Untyped

/-! ## The boundary -/

/-- An instance of a contract. -/
structure ContractInstance where
  type : ContractType
  fields : Fields

/-- `except TypeError`, up to the interpreter's text. -/
def invalidShape (contractName : String) : Except PyError Fields → Except PyError Fields
  | .error .typeError => contractError ("invalid " ++ contractName ++ " payload shape: ")
  | outcome => outcome

/-- `", ".join(sorted(CONTRACT_TYPES))`. -/
def supportedContracts : String :=
  String.intercalate ", " ((contractTypes.map ContractType.name).mergeSort)

/-- `validate_contract_payload`. -/
def validateContractPayload (library : StandardLibrary) (contractName : String)
    (payload : Json) : Except PyError ContractInstance :=
  match contractTypes.find? fun type => type.name = contractName with
  | none =>
      contractError ("unknown contract " ++ library.repr contractName ++ "; supported: " ++
        supportedContracts)
  | some type =>
      match payload with
      | .obj entries =>
          (invalidShape contractName (Untyped.fromMapping library type entries)).map
            fun fields => { type := type, fields := fields }
      | _ => contractError "contract payload must be an object"

end ScraperProject.Contracts
