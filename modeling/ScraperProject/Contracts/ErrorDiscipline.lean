import ScraperProject.Contracts.BoundarySteps

/-!
Contract: which exceptions escape from `validate_contract_payload`.

Owns the outcomes that the boundary turns into a value or a
`ContractValidationError`, the proof that every conversion and every check but
one has only such outcomes, and the payloads on which the check of the URL does
not.

Does not own what an accepted payload looks like.
-/

namespace ScraperProject.Contracts

open Foundation
open Database

/-! ## Handled outcomes -/

/-- The boundary catches a `TypeError`, and a `ContractValidationError` is its own. -/
def Handled {α : Type} (outcome : Except PyError α) : Prop :=
  ∀ raised, outcome = .error raised →
    raised = .typeError ∨ ∃ message, raised = .contractValidation message

theorem handled_ok {α : Type} (value : α) : Handled (.ok value : Except PyError α) := by
  intro raised same
  cases same

theorem handled_contractError {α : Type} (message : String) :
    Handled (contractError message : Except PyError α) := by
  intro raised same
  obtain rfl := Except.error.inj same
  exact Or.inr ⟨message, rfl⟩

theorem handled_typeError {α : Type} : Handled (.error .typeError : Except PyError α) := by
  intro raised same
  exact Or.inl (Except.error.inj same).symm

theorem handled_bind {α β : Type} {first : Except PyError α} {next : α → Except PyError β}
    (firstHandled : Handled first) (nextHandled : ∀ value, Handled (next value)) :
    Handled (first >>= next) := by
  cases first with
  | error raised =>
      intro other same
      exact firstHandled other (congrArg Except.error (Except.error.inj same))
  | ok value => exact nextHandled value

theorem handled_map {α β : Type} {outcome : Except PyError α} (f : α → β)
    (handled : Handled outcome) : Handled (outcome.map f) := by
  cases outcome with
  | error raised =>
      intro other same
      exact handled other (congrArg Except.error (Except.error.inj same))
  | ok value => exact handled_ok _

theorem handled_ite {α : Type} {condition : Prop} [Decidable condition]
    {first second : Except PyError α} (firstHandled : Handled first)
    (secondHandled : Handled second) : Handled (if condition then first else second) := by
  split
  · exact firstHandled
  · exact secondHandled

/-! ## The helpers on typed values -/

theorem requireText_handled (value name : String) : Handled (requireText value name) :=
  handled_ite (handled_contractError _) (handled_ok _)

theorem requireUtcTimestamp_handled (value : Datetime) (name : String) :
    Handled (requireUtcTimestamp value name) :=
  handled_ite (handled_contractError _) (handled_ok _)

theorem requireContractVersion_handled (library : StandardLibrary) (value : String) :
    Handled (requireContractVersion library value) :=
  handled_bind (requireText_handled _ _) fun _ =>
    handled_ite (handled_contractError _) (handled_ok _)

theorem requireSha256_handled (value name : String) : Handled (requireSha256 value name) :=
  handled_ite (handled_ok _) (handled_contractError _)

theorem requireNonNegativeInt_handled (value : Int) (name : String) :
    Handled (requireNonNegativeInt value name) :=
  handled_ite (handled_contractError _) (handled_ok _)

theorem parseUtcTimestamp_handled (library : StandardLibrary) (value name : String) :
    Handled (parseUtcTimestamp library value name) := by
  unfold parseUtcTimestamp
  split
  · exact handled_contractError _
  · exact handled_contractError _
  · split
    · exact handled_bind (requireUtcTimestamp_handled _ _) fun _ => handled_ok _
    · exact handled_contractError _

mutual

theorem rejectSensitiveKeys_handled (library : StandardLibrary) (name : String) :
    ∀ value, Handled (rejectSensitiveKeys library name value)
  | .obj entries => rejectSensitiveEntries_handled library name entries
  | .arr items => rejectSensitiveItems_handled library name items
  | .null | .bool _ | .int _ | .float _ | .str _ => handled_ok _

theorem rejectSensitiveItems_handled (library : StandardLibrary) (name : String) :
    ∀ items, Handled (rejectSensitiveItems library name items)
  | [] => handled_ok _
  | item :: rest =>
      handled_bind (rejectSensitiveKeys_handled library name item) fun _ =>
        rejectSensitiveItems_handled library name rest

theorem rejectSensitiveEntries_handled (library : StandardLibrary) (name : String) :
    ∀ entries, Handled (rejectSensitiveEntries library name entries)
  | [] => handled_ok _
  | (key, value) :: rest => by
      have others := fun _ : Unit => handled_bind
        (rejectSensitiveKeys_handled library (name ++ "." ++ key) value) fun _ =>
          rejectSensitiveEntries_handled library name rest
      unfold rejectSensitiveEntries
      by_cases sensitive : isSensitiveKey key
      · rw [if_pos sensitive]
        exact handled_bind (handled_contractError _) others
      · rw [if_neg sensitive]
        exact others ()

end

/-! ## Contents -/

theorem memberContent_handled (library : StandardLibrary) (members : List (String × FieldValue))
    (name : String) (given : Option Json) :
    Handled (memberContent library members name given) := by
  unfold memberContent
  split
  · split
    · exact handled_ok _
    · exact handled_contractError _
  · exact handled_contractError _

theorem tupleItems_handled (value : Json) : Handled (Untyped.tupleItems value) := by
  cases value <;> first | exact handled_ok _ | exact handled_typeError

theorem fieldContent_handled (library : StandardLibrary) (name : String) (fieldType : FieldType)
    (given : Option Json) : Handled (fieldContent library name fieldType given) := by
  unfold fieldContent
  split
  · exact handled_map _ (parseUtcTimestamp_handled library _ _)
  · exact handled_contractError _
  · exact memberContent_handled library _ _ _
  · exact memberContent_handled library _ _ _
  · exact memberContent_handled library _ _ _
  · exact memberContent_handled library _ _ _
  · exact handled_ok _
  · exact handled_map _ (tupleItems_handled _)
  · exact handled_ok _
  · exact handled_ok _
  · exact handled_typeError

theorem contents_handled (library : StandardLibrary) (payload : List (String × Json))
    (fields : List (String × FieldType)) : Handled (contents library payload fields) := by
  induction fields with
  | nil => exact handled_ok _
  | cons field rest inductionHypothesis =>
      exact handled_bind (fieldContent_handled library _ _ _) fun _ =>
        handled_bind inductionHypothesis fun _ => handled_ok _

theorem boundContents_handled (library : StandardLibrary) (type : ContractType)
    (payload : List (String × Json)) : Handled (boundContents library type payload) :=
  handled_ite (contents_handled library payload _) handled_typeError

/-! ## Checks -/

namespace Untyped

/-- A check whose outcomes are all handled. -/
def Check.IsHandled (check : Check) : Prop := ∀ self, Handled (check self)

/-- A check of the text of a field: what the text decides, and one error for other values. -/
theorem handled_textCheck {self : Fields} {name message : String}
    {onText : String → Except PyError Unit} (textHandled : ∀ text, Handled (onText text)) :
    Handled (match attr self name with
      | .json (.str value) => onText value
      | _ => contractError message) := by
  split
  · exact textHandled _
  · exact handled_contractError _

theorem requireText_isHandled (name : String) : (requireText name).IsHandled :=
  fun _ => handled_textCheck fun _ => requireText_handled _ _

theorem requireContractVersion_isHandled (library : StandardLibrary) :
    (requireContractVersion library).IsHandled :=
  fun _ => handled_textCheck fun _ => requireContractVersion_handled library _

theorem requireSha256_isHandled (name : String) : (requireSha256 name).IsHandled :=
  fun _ => handled_textCheck fun _ => requireSha256_handled _ _

theorem requireUtcTimestamp_isHandled (name : String) : (requireUtcTimestamp name).IsHandled := by
  intro self
  unfold requireUtcTimestamp
  split
  · exact requireUtcTimestamp_handled _ _
  · exact handled_contractError _

theorem requireNonNegativeInt_isHandled (name : String) :
    (requireNonNegativeInt name).IsHandled := by
  intro self
  unfold requireNonNegativeInt
  split
  · exact requireNonNegativeInt_handled _ _
  · exact handled_contractError _

theorem requireMapping_isHandled (name : String) : (requireMapping name).IsHandled := by
  intro self
  unfold requireMapping
  split
  · exact handled_ok _
  · exact handled_contractError _

theorem rejectSensitive_isHandled (library : StandardLibrary) (name : String) :
    (rejectSensitive library name).IsHandled := by
  intro self
  unfold rejectSensitive
  split
  · exact rejectSensitiveKeys_handled library _ _
  · exact rejectSensitiveItems_handled library _ _
  · exact handled_ok _

theorem requireMember_isHandled (name enumeration : String) (isMember : FieldValue → Bool) :
    (requireMember name enumeration isMember).IsHandled :=
  fun _ => handled_ite (handled_ok _) (handled_contractError _)

theorem requireAttemptBounds_isHandled : requireAttemptBounds.IsHandled := by
  intro self
  unfold requireAttemptBounds
  split
  · exact handled_ite (handled_contractError _) (handled_ok _)
  · exact handled_typeError

theorem requireAttempt_isHandled : requireAttempt.IsHandled := by
  intro self
  unfold requireAttempt
  split
  · exact handled_ite (handled_contractError _) (handled_ok _)
  · exact handled_typeError

theorem requireResponseStatus_isHandled : requireResponseStatus.IsHandled := by
  intro self
  unfold requireResponseStatus
  split
  · exact handled_ok _
  · exact handled_ite (handled_ok _) (handled_contractError _)
  · exact handled_contractError _

theorem requireSnapshotContent_isHandled : requireSnapshotContent.IsHandled := by
  intro self
  unfold requireSnapshotContent
  split
  · exact handled_ite (handled_contractError _)
      (handled_bind (requireText_isHandled _ self) fun _ => requireSha256_isHandled _ self)
  · exact handled_ok _

theorem requireOrderedTimes_isHandled : requireOrderedTimes.IsHandled := by
  intro self
  unfold requireOrderedTimes
  split
  · exact handled_ite (handled_contractError _) (handled_ok _)
  · exact handled_typeError

theorem requireNoErrorClass_isHandled : requireNoErrorClass.IsHandled := by
  intro self
  unfold requireNoErrorClass
  split
  · exact handled_ite (handled_ok _) (handled_contractError _)
  · exact handled_ok _

theorem requireCandidateMappings_isHandled : requireCandidateMappings.IsHandled := by
  intro self
  unfold requireCandidateMappings
  split
  · exact handled_ok _
  · exact handled_contractError _

theorem requireConfidenceEntries_handled (entries : List (String × Json)) :
    Handled (requireConfidenceEntries entries) := by
  induction entries with
  | nil => exact handled_ok _
  | cons entry rest inductionHypothesis =>
      refine handled_bind (requireText_handled _ _) fun _ => ?_
      split
      · exact handled_bind (handled_contractError _) fun _ => inductionHypothesis
      · exact inductionHypothesis

theorem requireConfidences_isHandled : requireConfidences.IsHandled := by
  intro self
  unfold requireConfidences
  split
  · exact requireConfidenceEntries_handled _
  · exact handled_typeError

theorem requireCountEntries_handled (entries : List (String × Json)) :
    Handled (requireCountEntries entries) := by
  induction entries with
  | nil => exact handled_ok _
  | cons entry rest inductionHypothesis =>
      unfold requireCountEntries
      split
      · exact handled_ok _
      · next same =>
        obtain ⟨rfl, rfl⟩ := List.cons.inj same
        exact handled_bind (requireNonNegativeInt_handled _ _) fun _ => inductionHypothesis
      · exact handled_contractError _

theorem requireCounts_isHandled : requireCounts.IsHandled := by
  intro self
  unfold requireCounts
  split
  · next entries recordCount _ _ =>
    have counted : Handled (do
        requireCountEntries entries
        if countSum entries ≠ recordCount then
          contractError "record_count must equal the sum of terminal_state_counts") :=
      handled_bind (requireCountEntries_handled _) fun _ =>
        handled_ite (handled_contractError _) (handled_ok _)
    exact handled_ite (handled_bind (handled_contractError _) fun _ => counted) counted
  · exact handled_typeError

theorem runChecks_handled {checks : List Check} (each : ∀ check ∈ checks, check.IsHandled) :
    (runChecks checks).IsHandled := by
  intro self
  induction checks with
  | nil => exact handled_ok _
  | cons check rest inductionHypothesis =>
      rw [List.forall_mem_cons] at each
      exact handled_bind (each.1 self) fun _ => inductionHypothesis each.2

end Untyped

/-! ## The URL of a contract -/

/-- The text fields that are checked between the version and the URL. -/
def textsBeforeUrl : ContractType → List String
  | .detailFetchJob => ["job_id", "crawl_run_id", "source_name", "source_listing_key"]
  | .discoveryObservation => ["crawl_run_id", "source_name", "source_listing_key"]
  | .rawFetchArtifact =>
      [ "artifact_id", "job_id", "crawl_run_id", "fetch_method", "acquisition_version",
        "source_name", "source_listing_key" ]
  | .parsedListingCandidate =>
      [ "candidate_id", "artifact_id", "parser_name", "parser_version", "source_name",
        "source_listing_key" ]
  | .fetchTelemetry | .datasetBatchManifest => []

/-- The contract has a URL. -/
def ContractType.hasUrl (type : ContractType) : Bool :=
  decide ("listing_url" ∈ type.fields.map Prod.fst)

/-- The checks before the one of the URL. -/
def checksBeforeUrl (library : StandardLibrary) (type : ContractType) : List Untyped.Check :=
  Untyped.requireContractVersion library :: (textsBeforeUrl type).map Untyped.requireText

section Checks

open Untyped

theorem checksBeforeUrl_isHandled (library : StandardLibrary) (type : ContractType) :
    ∀ check ∈ checksBeforeUrl library type, check.IsHandled := by
  rw [checksBeforeUrl, List.forall_mem_cons, List.forall_mem_map]
  exact ⟨requireContractVersion_isHandled library, fun name _ => requireText_isHandled name⟩

/-- Where a contract has a URL, its check is the only one that is not handled. -/
theorem checks_of_hasUrl (library : StandardLibrary) {type : ContractType}
    (sourced : type.hasUrl) :
    ∃ later : List Check, checks library type =
        checksBeforeUrl library type ++
          Untyped.requireHttpUrl library "listing_url" :: later ∧
      ∀ check ∈ later, check.IsHandled := by
  cases type with
  | detailFetchJob =>
      refine ⟨_, rfl, ?_⟩
      simp [requireNonNegativeInt_isHandled, requireAttemptBounds_isHandled,
        requireMember_isHandled, requireUtcTimestamp_isHandled, requireMapping_isHandled,
        rejectSensitive_isHandled]
  | discoveryObservation =>
      refine ⟨_, rfl, ?_⟩
      simp [requireUtcTimestamp_isHandled, requireText_isHandled, requireMapping_isHandled,
        rejectSensitive_isHandled]
  | rawFetchArtifact =>
      refine ⟨_, rfl, ?_⟩
      simp [requireUtcTimestamp_isHandled, requireResponseStatus_isHandled,
        requireMember_isHandled, requireSnapshotContent_isHandled]
  | parsedListingCandidate =>
      refine ⟨_, rfl, ?_⟩
      simp [requireUtcTimestamp_isHandled, requireMember_isHandled,
        requireCandidateMappings_isHandled, requireConfidences_isHandled,
        rejectSensitive_isHandled]
  | fetchTelemetry | datasetBatchManifest => exact absurd sourced (by decide)

/-- Without a URL all checks are handled. -/
theorem checks_of_not_hasUrl (library : StandardLibrary) {type : ContractType}
    (unsourced : ¬ type.hasUrl) : ∀ check ∈ checks library type, check.IsHandled := by
  cases type with
  | fetchTelemetry =>
      simp [checks, requireContractVersion_isHandled, requireText_isHandled,
        requireNonNegativeInt_isHandled, requireAttempt_isHandled,
        requireUtcTimestamp_isHandled, requireOrderedTimes_isHandled, requireMember_isHandled,
        requireNoErrorClass_isHandled]
  | datasetBatchManifest =>
      simp [checks, requireContractVersion_isHandled, requireText_isHandled,
        requireUtcTimestamp_isHandled, requireNonNegativeInt_isHandled, requireSha256_isHandled,
        requireMapping_isHandled, requireCounts_isHandled]
  | detailFetchJob | discoveryObservation | rawFetchArtifact | parsedListingCandidate =>
      exact absurd (by decide) unsourced

end Checks

/-- The payload passes everything that comes before the check of its URL, and
`urlsplit` refuses that URL. -/
structure UrlRefused (library : StandardLibrary) (type : ContractType)
    (payload : List (String × Json)) : Prop where
  sourced : type.hasUrl
  keys : KnownKeys type payload
  contents : ∀ field ∈ type.fields, ∃ value,
    fieldContent library field.1 field.2 (Json.get? payload field.1) = .ok value
  version : ∃ text, Json.get? payload "contract_version" = some (.str text) ∧
    requireContractVersion library text = .ok ()
  texts : ∀ name ∈ textsBeforeUrl type, ∃ text, Json.get? payload name = some (.str text) ∧
    Text.isBlank text = false
  url : ∃ text, Json.get? payload "listing_url" = some (.str text) ∧
    Text.isBlank text = false ∧ Text.urlsplit library.netlocRefused text.toList = none

/-! ## Outcomes -/

theorem attr_of_contents {library : StandardLibrary} {type : ContractType}
    {payload : List (String × Json)} {self : Fields}
    (found : contents library payload type.fields = .ok self) {name text : String}
    (field : (name, FieldType.text) ∈ type.fields) :
    attr self name = .json (.str text) ↔ Json.get? payload name = some (.str text) := by
  obtain ⟨value, present, content⟩ := contents_field? found (fields_distinct type) _ field
  rw [attr, present, Option.getD_some]
  cases given : Json.get? payload name with
  | none =>
      rw [given] at content
      cases content
  | some value =>
      rw [given] at content
      obtain rfl := Except.ok.inj content
      simp

theorem version_text (type : ContractType) : ("contract_version", FieldType.text) ∈ type.fields := by
  cases type <;> decide

theorem textsBeforeUrl_text (type : ContractType) :
    ∀ name ∈ textsBeforeUrl type, (name, FieldType.text) ∈ type.fields := by
  cases type <;> decide

theorem url_text {type : ContractType} (sourced : type.hasUrl) :
    ("listing_url", FieldType.text) ∈ type.fields := by
  cases type <;> first | decide | exact absurd sourced (by decide)

theorem requireText_ok {name : String} {self : Fields} :
    Untyped.requireText name self = .ok () ↔
      ∃ text, attr self name = .json (.str text) ∧ Text.isBlank text = false := by
  unfold Untyped.requireText
  split
  · next value found =>
    simp only [found, FieldValue.json.injEq, Json.str.injEq, exists_eq_left', requireText]
    by_cases blank : Text.isBlank value <;> simp [blank, contractError]
  · next _ other =>
    simp only [contractError, reduceCtorEq, false_iff]
    rintro ⟨text, found, _⟩
    exact other text found

theorem requireContractVersion_ok {library : StandardLibrary} {self : Fields} :
    Untyped.requireContractVersion library self = .ok () ↔
      ∃ text, attr self "contract_version" = .json (.str text) ∧
        requireContractVersion library text = .ok () := by
  unfold Untyped.requireContractVersion
  split
  · next value found => simp [found]
  · next _ other =>
    simp only [contractError, reduceCtorEq, false_iff]
    rintro ⟨text, found, _⟩
    exact other text found

/-- The check of a URL lets only the refusal of `urlsplit` through. -/
theorem requireHttpUrl_outcome (library : StandardLibrary) (name : String) (self : Fields) :
    (Untyped.requireHttpUrl library name self = .error .invalidUrl ∧
        ∃ text, attr self name = .json (.str text) ∧ Text.isBlank text = false ∧
          Text.urlsplit library.netlocRefused text.toList = none) ∨
      (Handled (Untyped.requireHttpUrl library name self) ∧
        ∀ text, attr self name = .json (.str text) → Text.isBlank text = false →
          Text.urlsplit library.netlocRefused text.toList ≠ none) := by
  unfold Untyped.requireHttpUrl
  split
  · next text found =>
    simp only [found, FieldValue.json.injEq, Json.str.injEq, exists_eq_left', forall_eq',
      requireHttpUrl, requireText]
    by_cases blank : Text.isBlank text
    · exact Or.inr ⟨by
        rw [if_pos blank]
        exact handled_contractError _, by simp [blank]⟩
    · cases split : Text.urlsplit library.netlocRefused text.toList with
      | none =>
          left
          simp [blank, bind, Except.bind]
      | some parsed =>
          right
          rw [if_neg blank]
          exact ⟨handled_ite (handled_contractError _) (handled_ok _), by simp⟩
  · next _ other =>
    exact Or.inr ⟨handled_contractError _, fun text found => absurd found (other text)⟩

/-- The checks before the URL pass on the texts that the payload gives. -/
theorem checksBeforeUrl_ok {library : StandardLibrary} {type : ContractType}
    {payload : List (String × Json)} {self : Fields}
    (found : contents library payload type.fields = .ok self) :
    Untyped.runChecks (checksBeforeUrl library type) self = .ok () ↔
      (∃ text, Json.get? payload "contract_version" = some (.str text) ∧
        requireContractVersion library text = .ok ()) ∧
      ∀ name ∈ textsBeforeUrl type, ∃ text, Json.get? payload name = some (.str text) ∧
        Text.isBlank text = false := by
  rw [Untyped.runChecks_ok, checksBeforeUrl, List.forall_mem_cons, List.forall_mem_map,
    requireContractVersion_ok]
  apply and_congr
  · simp only [attr_of_contents found (version_text type)]
  · refine forall_congr' fun name => forall_congr' fun listed => ?_
    rw [requireText_ok]
    simp only [attr_of_contents found (textsBeforeUrl_text type name listed)]

/-- The checks of an instance let the refusal of its URL through, and nothing else. -/
theorem runChecks_outcome {library : StandardLibrary} {type : ContractType}
    {payload : List (String × Json)} {self : Fields} (keys : KnownKeys type payload)
    (found : contents library payload type.fields = .ok self) :
    (UrlRefused library type payload ∧
        Untyped.runChecks (Untyped.checks library type) self = .error .invalidUrl) ∨
      (¬ UrlRefused library type payload ∧
        Handled (Untyped.runChecks (Untyped.checks library type) self)) := by
  by_cases sourced : type.hasUrl
  · obtain ⟨later, split, laterHandled⟩ := checks_of_hasUrl library sourced
    have before := checksBeforeUrl_ok found
    have url : ∀ text, attr self "listing_url" = .json (.str text) ↔
        Json.get? payload "listing_url" = some (.str text) :=
      fun _ => attr_of_contents found (url_text sourced)
    rw [split, Untyped.runChecks_append]
    cases first : Untyped.runChecks (checksBeforeUrl library type) self with
    | error raised =>
        right
        constructor
        · intro refused
          rw [before.mpr ⟨refused.version, refused.texts⟩] at first
          cases first
        · have handled :=
            Untyped.runChecks_handled (checksBeforeUrl_isHandled library type) self
          rw [first] at handled
          intro other same
          exact handled other (congrArg Except.error (Except.error.inj same))
    | ok passed =>
        obtain ⟨version, texts⟩ := before.mp first
        rcases requireHttpUrl_outcome library "listing_url" self with
          ⟨raised, text, given, shape⟩ | ⟨handled, accepted⟩
        · left
          constructor
          · refine { sourced, keys, version, texts, url := ⟨text, (url text).mp given, shape⟩,
                     contents := ?_ }
            intro field member
            obtain ⟨value, _, content⟩ := contents_field? found (fields_distinct type) field member
            exact ⟨value, content⟩
          · change (Untyped.requireHttpUrl library "listing_url" self >>= _) = _
            rw [raised]
            rfl
        · right
          constructor
          · intro refused
            obtain ⟨text, given, notBlank, split⟩ := refused.url
            exact accepted text ((url text).mpr given) notBlank split
          · exact handled_bind (handled_ok passed) fun _ =>
              handled_bind handled fun _ => Untyped.runChecks_handled laterHandled self
  · right
    exact ⟨fun refused => sourced refused.sourced,
      Untyped.runChecks_handled (checks_of_not_hasUrl library sourced) self⟩

/-- `from_mapping` raises the error of `urlsplit` on the payloads whose URL is
refused; elsewhere its outcome is handled. -/
theorem fromMapping_outcome (library : StandardLibrary) (type : ContractType)
    (payload : List (String × Json)) :
    (UrlRefused library type payload ∧
        Untyped.fromMapping library type payload = .error .invalidUrl) ∨
      (¬ UrlRefused library type payload ∧
        Handled (Untyped.fromMapping library type payload)) := by
  rw [fromMapping_eq]
  cases bound : boundContents library type payload with
  | error raised =>
      right
      constructor
      · intro refused
        obtain ⟨values, found⟩ := contents_of_forall refused.contents
        rw [boundContents, if_pos refused.keys, found] at bound
        cases bound
      · apply handled_bind (contents_handled library payload _)
        intro _ other same
        have handled := boundContents_handled library type payload
        rw [bound] at handled
        exact handled other (congrArg Except.error (Except.error.inj same))
  | ok self =>
      have reached : KnownKeys type payload ∧ contents library payload type.fields = .ok self := by
        rw [boundContents] at bound
        split at bound
        · next keys => exact ⟨keys, bound⟩
        · cases bound
      obtain ⟨values, conversion⟩ := convertedContents_of_contents reached.2
      rw [conversion]
      rcases runChecks_outcome reached.1 reached.2 with ⟨refused, raised⟩ | ⟨accepted, handled⟩
      · left
        refine ⟨refused, ?_⟩
        change (Untyped.runChecks (Untyped.checks library type) self >>= _) = _
        rw [raised]
        rfl
      · right
        refine ⟨accepted, ?_⟩
        change Handled (Untyped.runChecks (Untyped.checks library type) self >>= fun _ =>
          Except.ok self)
        exact handled_bind handled fun _ => handled_ok self

/-! ## The boundary -/

/-- The outcomes that the boundary promises: an instance of the named contract or
a `ContractValidationError`. -/
def Promised (contractName : String) (outcome : Except PyError ContractInstance) : Prop :=
  (∃ accepted, outcome = .ok accepted ∧ accepted.type.name = contractName) ∨
    ∃ message, outcome = .error (.contractValidation message)

theorem promised_of_handled {type : ContractType} {built : Except PyError Fields}
    (handled : Handled built) :
    Promised type.name
      ((invalidShape type.name built).map fun fields => { type := type, fields := fields }) := by
  cases built with
  | ok fields => exact Or.inl ⟨_, rfl, rfl⟩
  | error raised =>
      rcases handled raised rfl with rfl | ⟨message, rfl⟩
      · exact Or.inr ⟨_, rfl⟩
      · exact Or.inr ⟨message, rfl⟩

theorem not_promised_invalidUrl (contractName : String) :
    ¬ Promised contractName (.error .invalidUrl) := by
  rintro (⟨accepted, same, _⟩ | ⟨message, same⟩) <;> cases same

/-- The boundary keeps its promise on every name and payload, except on the
payloads of a contract that get as far as a URL which `urlsplit` refuses. -/
theorem validateContractPayload_promised_iff (library : StandardLibrary) (contractName : String)
    (payload : Json) :
    Promised contractName (validateContractPayload library contractName payload) ↔
      ¬ ∃ type entries, contractName = ContractType.name type ∧ payload = .obj entries ∧
        UrlRefused library type entries := by
  unfold validateContractPayload
  cases named : contractTypes.find? fun type => type.name = contractName with
  | none =>
      refine iff_of_true (Or.inr ⟨_, rfl⟩) ?_
      rintro ⟨type, _, rfl, _⟩
      rw [find?_name] at named
      cases named
  | some type =>
      obtain rfl : type.name = contractName := by simpa using List.find?_some named
      cases payload with
      | obj entries =>
          have only : (∃ other given, type.name = ContractType.name other ∧
              Json.obj entries = .obj given ∧ UrlRefused library other given) ↔
                UrlRefused library type entries := by
            constructor
            · rintro ⟨other, given, sameName, sameEntries, refused⟩
              obtain rfl : type = other := by
                have found := find?_name type
                rw [sameName, find?_name] at found
                exact (Option.some.inj found).symm
              rw [Json.obj.injEq] at sameEntries
              exact sameEntries ▸ refused
            · exact fun refused => ⟨type, entries, rfl, rfl, refused⟩
          rw [only]
          rcases fromMapping_outcome library type entries with
            ⟨refused, raised⟩ | ⟨accepted, handled⟩
          · refine iff_of_false ?_ (not_not_intro refused)
            simp only [raised]
            exact not_promised_invalidUrl _
          · exact iff_of_true (promised_of_handled handled) accepted
      | _ =>
          refine iff_of_true (Or.inr ⟨_, rfl⟩) ?_
          rintro ⟨_, _, _, same, _⟩
          cases same

/-- An unbalanced bracket in the host of an observation's URL. -/
theorem validateContractPayload_brokenUrl :
    ¬ Promised "DiscoveryObservation" (validateContractPayload plainLibrary
      "DiscoveryObservation" (observationPayload "http://[localhost/1" .null)) :=
  not_promised_invalidUrl "DiscoveryObservation"

end ScraperProject.Contracts
