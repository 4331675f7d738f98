import ScraperProject.Contracts.BoundarySteps

/-!
Contract: the declared types of the fields of an accepted instance.

Owns the declared types as predicates on the values of fields, the check that
establishes the type of each field, the types that no check establishes, and
the payloads whose instances are well typed.

Does not own the values inside a type, such as the range of a number.
-/

namespace ScraperProject.Contracts

open Foundation
open Database

/-! ## Types -/

def isText : Json → Bool
  | .str _ => true
  | _ => false

def isOptionalText : Json → Bool
  | .null | .str _ => true
  | _ => false

def isInteger : Json → Bool
  | .int _ => true
  | _ => false

/-- An integer is a `float` by the numeric tower. -/
def isNumber : Json → Bool
  | .int _ | .float _ => true
  | _ => false

/-- A mapping whose values all satisfy a test. -/
def isMappingOf (isValue : Json → Bool) : Json → Bool
  | .obj entries => entries.all fun entry => isValue entry.2
  | _ => false

/-- The value has the declared type, at every depth. -/
def HasType : FieldType → FieldValue → Bool
  | .text, .json value => isText value
  | .optionalText, .json value => isOptionalText value
  | .integer, .json value => isInteger value
  | .optionalInteger, .json value => isInteger value || Untyped.isNone (.json value)
  | .timestamp, .datetime _ => true
  | .reasonCode, .reasonCode _ => true
  | .artifactStatus, .artifactStatus _ => true
  | .telemetryOutcome, .telemetryOutcome _ => true
  | .parseStatus, .parseStatus _ => true
  | .mapping, .json value => isMappingOf (fun _ => true) value
  | .textMapping, .json value => isMappingOf isOptionalText value
  | .evidenceMapping, .json value => isMappingOf (isMappingOf isOptionalText) value
  | .confidenceMapping, .json value => isMappingOf isNumber value
  | .countMapping, .json value => isMappingOf isInteger value
  | .texts, .tuple items => items.all isText
  | _, _ => false

/-- `payload.get(name)` on a payload that need not be an object. -/
def given (payload : Json) (name : String) : Option Json :=
  match payload with
  | .obj entries => Json.get? entries name
  | _ => none

/-- Every field of an instance has its declared type, and a tuple holds the items
of the array given for it. -/
structure WellTyped (payload : Json) (accepted : ContractInstance) : Prop where
  declared : ∀ field ∈ accepted.type.fields, ∃ value,
    field? accepted.fields field.1 = some value ∧ HasType field.2 value
  tuples : ∀ field ∈ accepted.type.fields, field.2 = .texts →
    ∀ value, given payload field.1 = some value → ∃ items,
      value = .arr items ∧ field? accepted.fields field.1 = some (.tuple items)

/-! ## The check behind a type -/

/-- The check establishes the type of a field. -/
def Certifies (check : Untyped.Check) (field : String × FieldType) : Prop :=
  ∀ self value, field? self field.1 = some value → check self = .ok () → HasType field.2 value

theorem attr_of_field? {self : Fields} {name : String} {value : FieldValue}
    (found : field? self name = some value) : attr self name = value := by
  rw [attr, found, Option.getD_some]

/-- A check that looks at the text of a field establishes that it is a text. -/
theorem certifies_text {name message : String} {onText : String → Except PyError Unit}
    {check : Untyped.Check}
    (shape : ∀ self, check self = match attr self name with
      | .json (.str value) => onText value
      | _ => contractError message) : Certifies check (name, .text) := by
  intro self value found passed
  rw [shape, attr_of_field? found] at passed
  split at passed
  · rfl
  · cases passed

theorem requireText_certifies (name : String) :
    Certifies (Untyped.requireText name) (name, .text) := certifies_text fun _ => rfl

theorem requireHttpUrl_certifies (library : StandardLibrary) (name : String) :
    Certifies (Untyped.requireHttpUrl library name) (name, .text) := certifies_text fun _ => rfl

theorem requireContractVersion_certifies (library : StandardLibrary) :
    Certifies (Untyped.requireContractVersion library) ("contract_version", .text) :=
  certifies_text fun _ => rfl

theorem requireSha256_certifies (name : String) :
    Certifies (Untyped.requireSha256 name) (name, .text) := certifies_text fun _ => rfl

theorem requireUtcTimestamp_certifies (name : String) :
    Certifies (Untyped.requireUtcTimestamp name) (name, .timestamp) := by
  intro self value found passed
  rw [Untyped.requireUtcTimestamp, attr_of_field? found] at passed
  split at passed
  · rfl
  · cases passed

theorem requireNonNegativeInt_certifies (name : String) :
    Certifies (Untyped.requireNonNegativeInt name) (name, .integer) := by
  intro self value found passed
  rw [Untyped.requireNonNegativeInt, attr_of_field? found] at passed
  split at passed
  · rfl
  · cases passed

theorem requireMapping_certifies (name : String) :
    Certifies (Untyped.requireMapping name) (name, .mapping) := by
  intro self value found passed
  rw [Untyped.requireMapping, attr_of_field? found] at passed
  split at passed
  · simp [HasType, isMappingOf]
  · cases passed

theorem requireMember_certifies {name enumeration : String} {isMember : FieldValue → Bool}
    {fieldType : FieldType} (typed : ∀ value, isMember value → HasType fieldType value) :
    Certifies (Untyped.requireMember name enumeration isMember) (name, fieldType) := by
  intro self value found passed
  rw [Untyped.requireMember, attr_of_field? found] at passed
  split at passed
  · next member => exact typed value member
  · cases passed

theorem isReasonCode_hasType (value : FieldValue) (member : Untyped.isReasonCode value) :
    HasType .reasonCode value := by
  cases value <;> first | rfl | cases member

theorem isArtifactStatus_hasType (value : FieldValue) (member : Untyped.isArtifactStatus value) :
    HasType .artifactStatus value := by
  cases value <;> first | rfl | cases member

theorem isTelemetryOutcome_hasType (value : FieldValue)
    (member : Untyped.isTelemetryOutcome value) : HasType .telemetryOutcome value := by
  cases value <;> first | rfl | cases member

theorem isParseStatus_hasType (value : FieldValue) (member : Untyped.isParseStatus value) :
    HasType .parseStatus value := by
  cases value <;> first | rfl | cases member

theorem requireResponseStatus_certifies :
    Certifies Untyped.requireResponseStatus ("response_status", .optionalInteger) := by
  intro self value found passed
  rw [Untyped.requireResponseStatus, attr_of_field? found] at passed
  split at passed
  · rfl
  · rfl
  · cases passed

theorem requireConfidenceEntries_numbers {entries : List (String × Json)}
    (passed : Untyped.requireConfidenceEntries entries = .ok ()) :
    entries.all fun entry => isNumber entry.2 := by
  induction entries with
  | nil => rfl
  | cons entry rest inductionHypothesis =>
      obtain ⟨_, _, checked⟩ := bind_eq_ok.mp passed
      rw [List.all_cons, Bool.and_eq_true]
      by_cases confidence : Untyped.isConfidence entry.2
      · rw [if_neg (not_not_intro confidence)] at checked
        refine ⟨?_, inductionHypothesis checked⟩
        cases value : entry.2 with
        | int _ | float _ => rfl
        | _ =>
            rw [value] at confidence
            cases confidence
      · rw [if_pos confidence] at checked
        cases checked

theorem requireConfidences_certifies :
    Certifies Untyped.requireConfidences ("field_confidence", .confidenceMapping) := by
  intro self value found passed
  rw [Untyped.requireConfidences, attr_of_field? found] at passed
  split at passed
  · exact requireConfidenceEntries_numbers passed
  · cases passed

theorem requireCountEntries_integers {entries : List (String × Json)}
    (passed : Untyped.requireCountEntries entries = .ok ()) :
    entries.all fun entry => isInteger entry.2 := by
  induction entries with
  | nil => rfl
  | cons entry rest inductionHypothesis =>
      unfold Untyped.requireCountEntries at passed
      split at passed
      · next same => cases same
      · next same =>
        obtain ⟨rfl, rfl⟩ := List.cons.inj same
        obtain ⟨_, _, checked⟩ := bind_eq_ok.mp passed
        exact inductionHypothesis checked
      · cases passed

/-- The counts of an accepted manifest: known states with integers. -/
theorem requireCounts_entries {self : Fields} {value : FieldValue}
    (found : field? self "terminal_state_counts" = some value)
    (passed : Untyped.requireCounts self = .ok ()) :
    ∃ entries, value = .json (.obj entries) ∧
      (entries.all fun entry => terminalStates.contains entry.1) ∧
      entries.all fun entry => isInteger entry.2 := by
  rw [Untyped.requireCounts, attr_of_field? found] at passed
  split at passed
  · next entries _ _ =>
    by_cases known : entries.all fun entry => terminalStates.contains entry.1
    · rw [if_neg (not_not_intro known)] at passed
      obtain ⟨_, counted, _⟩ := bind_eq_ok.mp passed
      exact ⟨entries, rfl, known, requireCountEntries_integers counted⟩
    · rw [if_pos known] at passed
      cases passed
  · cases passed

theorem requireCounts_certifies :
    Certifies Untyped.requireCounts ("terminal_state_counts", .countMapping) := by
  intro self value found passed
  obtain ⟨entries, rfl, _, integers⟩ := requireCounts_entries found passed
  exact integers

/-- The types that no check establishes. -/
def uncheckedTypes : List FieldType := [.optionalText, .textMapping, .evidenceMapping, .texts]

/-- The check of a text field. -/
def textCertificate (library : StandardLibrary) (name : String) : Untyped.Check :=
  if name = "contract_version" then Untyped.requireContractVersion library
  else if name = "listing_url" then Untyped.requireHttpUrl library name
  else if name = "records_checksum" ∨ name = "manifest_checksum" then Untyped.requireSha256 name
  else Untyped.requireText name

/-- The check that establishes the type of a field. -/
def certificate (library : StandardLibrary) (name : String) : FieldType → Untyped.Check
  | .text => textCertificate library name
  | .integer => Untyped.requireNonNegativeInt name
  | .optionalInteger => Untyped.requireResponseStatus
  | .timestamp => Untyped.requireUtcTimestamp name
  | .reasonCode => Untyped.requireMember name "DetailReasonCode" Untyped.isReasonCode
  | .artifactStatus => Untyped.requireMember name "ArtifactStatus" Untyped.isArtifactStatus
  | .telemetryOutcome => Untyped.requireMember name "TelemetryOutcome" Untyped.isTelemetryOutcome
  | .parseStatus => Untyped.requireMember name "ParseStatus" Untyped.isParseStatus
  | .mapping => Untyped.requireMapping name
  | .confidenceMapping => Untyped.requireConfidences
  | .countMapping => Untyped.requireCounts
  | .optionalText | .textMapping | .evidenceMapping | .texts => fun _ => .ok ()

theorem textCertificate_certifies (library : StandardLibrary) (name : String) :
    Certifies (textCertificate library name) (name, .text) := by
  unfold textCertificate
  split
  · next same =>
    rw [same]
    exact requireContractVersion_certifies library
  · split
    · exact requireHttpUrl_certifies library name
    · split
      · exact requireSha256_certifies name
      · exact requireText_certifies name

/-- Each contract makes the check of every field whose type has one. -/
theorem certificate_mem (library : StandardLibrary) (type : ContractType) :
    ∀ field ∈ type.fields, field.2 ∉ uncheckedTypes →
      certificate library field.1 field.2 ∈ Untyped.checks library type := by
  cases type <;>
    simp [ContractType.fields, uncheckedTypes, certificate, textCertificate, Untyped.checks,
      Untyped.requireSourceIdentity]

/-- The fields of the types with one field each. -/
theorem singularFields (type : ContractType) : ∀ field ∈ type.fields,
    (field.2 = .optionalInteger → field.1 = "response_status") ∧
      (field.2 = .confidenceMapping → field.1 = "field_confidence") ∧
      (field.2 = .countMapping → field.1 = "terminal_state_counts") := by
  cases type <;> decide

theorem certificate_certifies (library : StandardLibrary) {type : ContractType} :
    ∀ field ∈ type.fields, field.2 ∉ uncheckedTypes →
      Certifies (certificate library field.1 field.2) field := by
  intro field member checked
  obtain ⟨responseStatus, confidence, counts⟩ := singularFields type field member
  obtain ⟨name, fieldType⟩ := field
  cases fieldType with
  | text => exact textCertificate_certifies library name
  | integer => exact requireNonNegativeInt_certifies name
  | optionalInteger =>
      obtain rfl := responseStatus rfl
      exact requireResponseStatus_certifies
  | timestamp => exact requireUtcTimestamp_certifies name
  | reasonCode => exact requireMember_certifies isReasonCode_hasType
  | artifactStatus => exact requireMember_certifies isArtifactStatus_hasType
  | telemetryOutcome => exact requireMember_certifies isTelemetryOutcome_hasType
  | parseStatus => exact requireMember_certifies isParseStatus_hasType
  | mapping => exact requireMapping_certifies name
  | confidenceMapping =>
      obtain rfl := confidence rfl
      exact requireConfidences_certifies
  | countMapping =>
      obtain rfl := counts rfl
      exact requireCounts_certifies
  | optionalText | textMapping | evidenceMapping | texts =>
      simp [uncheckedTypes] at checked

/-- An instance whose checks pass holds values of the checked types. -/
theorem hasType_of_checked {library : StandardLibrary} {type : ContractType} {self : Fields}
    (passed : ∀ check ∈ Untyped.checks library type, check self = .ok ())
    {field : String × FieldType} (member : field ∈ type.fields)
    (checked : field.2 ∉ uncheckedTypes) {value : FieldValue}
    (found : field? self field.1 = some value) : HasType field.2 value :=
  certificate_certifies library field member checked self value found
    (passed _ (certificate_mem library type field member checked))

/-! ## What the payload gives -/

/-- A value that is given for a field is of the declared type itself; for a tuple
it is an array of texts. -/
def IsGivenAs (fieldType : FieldType) (value : Json) : Prop :=
  match fieldType with
  | .texts => ∃ items, value = .arr items ∧ items.all isText
  | fieldType => HasType fieldType (.json value)

/-- The values given for the fields that no check looks into have the declared types. -/
def UncheckedTyped (type : ContractType) (payload : Json) : Prop :=
  ∀ field ∈ type.fields, field.2 ∈ uncheckedTypes →
    ∀ value, given payload field.1 = some value → IsGivenAs field.2 value

/-- A tuple field: its content is a tuple of texts that holds the array given for
it if and only if an array of texts is given for it, or nothing. -/
theorem texts_content {library : StandardLibrary} {name : String} {found : Option Json}
    {value : FieldValue} (content : fieldContent library name .texts found = .ok value) :
    (HasType .texts value ∧
        ∀ array, found = some array → ∃ items, array = .arr items ∧ value = .tuple items) ↔
      ∀ array, found = some array → IsGivenAs .texts array := by
  cases found with
  | none =>
      obtain rfl := Except.ok.inj content
      simp [HasType]
  | some array =>
      simp only [Option.some.injEq, forall_eq']
      cases taken : Untyped.tupleItems array with
      | error raised =>
          simp [fieldContent, taken, Except.map] at content
      | ok items =>
          simp only [fieldContent, taken, Except.map, Except.ok.injEq] at content
          subst content
          constructor
          · rintro ⟨texts, others, rfl, same⟩
            rw [FieldValue.tuple.injEq] at same
            subst same
            exact ⟨items, rfl, texts⟩
          · rintro ⟨others, rfl, texts⟩
            obtain rfl : others = items := Except.ok.inj taken
            exact ⟨texts, others, rfl, rfl⟩

/-- Any other field that no check looks into holds the value given for it. -/
theorem unchecked_content {library : StandardLibrary} {field : String × FieldType}
    {found : Option Json} {value : FieldValue} (unchecked : field.2 ∈ uncheckedTypes)
    (notTuple : field.2 ≠ .texts)
    (content : fieldContent library field.1 field.2 found = .ok value) :
    HasType field.2 value ↔ ∀ held, found = some held → IsGivenAs field.2 held := by
  obtain ⟨name, fieldType⟩ := field
  have allKept : ∀ fieldType ∈ uncheckedTypes, fieldType ≠ .texts →
      fieldType ∈ keptTypes ∧ fieldType ≠ .mapping := by decide
  have kept := allKept fieldType unchecked notTuple
  obtain ⟨held, rfl, rfl⟩ := content_of_kept kept.1 kept.2 content
  simp only [Option.some.injEq, forall_eq']
  cases fieldType <;> first | rfl | exact absurd rfl notTuple

/-! ## Accepted payloads -/

/-- An accepted instance is well typed if and only if the payload gives values of
the declared types for the fields that no check looks into. -/
theorem validateContractPayload_wellTyped_iff (library : StandardLibrary) (type : ContractType)
    (payload : Json) (accepted : ContractInstance)
    (outcome : validateContractPayload library type.name payload = .ok accepted) :
    WellTyped payload accepted ↔ UncheckedTyped type payload := by
  obtain ⟨entries, rfl, rfl, built⟩ := validateContractPayload_ok.mp outcome
  obtain ⟨_, found, passed⟩ := fromMapping_ok.mp built
  have fields := contents_field? found (fields_distinct accepted.type)
  constructor
  · intro typed field member unchecked
    obtain ⟨value, present, content⟩ := fields field member
    obtain ⟨same, sameFound, hasType⟩ := typed.declared field member
    obtain rfl : value = same := Option.some.inj (present.symm.trans sameFound)
    by_cases isTuple : field.2 = .texts
    · rw [isTuple] at content hasType ⊢
      apply (texts_content content).mp
      refine ⟨hasType, fun array arrayGiven => ?_⟩
      obtain ⟨items, shape, held⟩ := typed.tuples field member isTuple array arrayGiven
      exact ⟨items, shape, Option.some.inj (present.symm.trans held)⟩
    · exact (unchecked_content unchecked isTuple content).mp hasType
  · intro typed
    constructor
    · intro field member
      obtain ⟨value, present, content⟩ := fields field member
      refine ⟨value, present, ?_⟩
      by_cases unchecked : field.2 ∈ uncheckedTypes
      · have givenAs := typed field member unchecked
        by_cases isTuple : field.2 = .texts
        · rw [isTuple] at content givenAs ⊢
          exact ((texts_content content).mpr givenAs).1
        · exact (unchecked_content unchecked isTuple content).mpr givenAs
      · exact hasType_of_checked passed member unchecked present
    · intro field member isTuple array arrayGiven
      obtain ⟨value, present, content⟩ := fields field member
      have unchecked : field.2 ∈ uncheckedTypes := by
        rw [isTuple]
        decide
      have givenAs := typed field member unchecked
      rw [isTuple] at content givenAs
      obtain ⟨items, shape, rfl⟩ := ((texts_content content).mpr givenAs).2 array arrayGiven
      exact ⟨items, shape, present⟩

/-- Any title is accepted and kept. -/
theorem observationPayload_accepted (title : Json) : ∃ accepted,
    validateContractPayload plainLibrary (ContractType.name .discoveryObservation)
        (observationPayload "http://localhost/1" title) = .ok accepted ∧
      accepted.type = .discoveryObservation ∧
      field? accepted.fields "visible_title" = some (.json title) :=
  ⟨_, rfl, rfl, rfl⟩

/-- An observation with a textual title. -/
theorem validateContractPayload_textualTitle : ∃ accepted,
    validateContractPayload plainLibrary (ContractType.name .discoveryObservation)
        (observationPayload "http://localhost/1" (.str "title")) = .ok accepted ∧
      (WellTyped (observationPayload "http://localhost/1" (.str "title")) accepted ↔
        UncheckedTyped .discoveryObservation
          (observationPayload "http://localhost/1" (.str "title"))) := by
  obtain ⟨accepted, outcome, _⟩ := observationPayload_accepted (.str "title")
  exact ⟨accepted, outcome, validateContractPayload_wellTyped_iff plainLibrary
    .discoveryObservation _ accepted outcome⟩

/-- An observation whose title is a number is accepted with the number. -/
theorem validateContractPayload_numericTitle : ∃ accepted,
    validateContractPayload plainLibrary (ContractType.name .discoveryObservation)
        (observationPayload "http://localhost/1" (.int 5)) = .ok accepted ∧
      ¬ WellTyped (observationPayload "http://localhost/1" (.int 5)) accepted := by
  obtain ⟨accepted, outcome, isObservation, held⟩ := observationPayload_accepted (.int 5)
  refine ⟨accepted, outcome, fun typed => ?_⟩
  have declared : ("visible_title", FieldType.optionalText) ∈ accepted.type.fields := by
    rw [isObservation]
    decide
  obtain ⟨value, found, hasType⟩ := typed.declared _ declared
  obtain rfl := Option.some.inj (held.symm.trans found)
  cases hasType

end ScraperProject.Contracts
