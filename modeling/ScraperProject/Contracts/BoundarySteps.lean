import ScraperProject.Contracts.Boundary

/-!
Contract: what `from_mapping` does, read off its payload.

Owns the content of a field as a function of the value given for it, the proof
that the conversions and the binding of keywords put exactly these contents into
the instance, and the rules of lists of checks.

Does not own what the checks establish.
-/

namespace ScraperProject.Contracts

open Foundation
open Database

/-! ## Lists of checks -/

namespace Untyped

@[simp] theorem runChecks_nil (self : Fields) : runChecks [] self = .ok () := rfl

/-- All checks pass if and only if each of them does. -/
theorem runChecks_ok {checks : List Check} {self : Fields} :
    runChecks checks self = .ok () ↔ ∀ check ∈ checks, check self = .ok () := by
  induction checks with
  | nil => simp
  | cons check rest inductionHypothesis =>
      rw [runChecks, bind_eq_ok, List.forall_mem_cons, ← inductionHypothesis]
      exact ⟨fun ⟨_, passed, others⟩ => ⟨passed, others⟩, fun ⟨passed, others⟩ =>
        ⟨(), passed, others⟩⟩

theorem runChecks_append (first second : List Check) (self : Fields) :
    runChecks (first ++ second) self = (do
      runChecks first self
      runChecks second self) := by
  induction first with
  | nil => rfl
  | cons check rest inductionHypothesis =>
      simp only [List.cons_append, runChecks, inductionHypothesis, bind_assoc]

end Untyped

/-! ## Keywords and attributes -/

theorem field?_cons (entry : String × FieldValue) (data : Fields) (name : String) :
    field? (entry :: data) name = if entry.1 = name then some entry.2 else field? data name := by
  unfold field?
  by_cases same : entry.1 = name <;> simp [same]

theorem field?_eq_none {data : Fields} {name : String} :
    field? data name = none ↔ ∀ entry ∈ data, entry.1 ≠ name := by
  simp [field?, List.find?_eq_none]

theorem field?_filter_of_ne {data : Fields} {name other : String} (apart : other ≠ name) :
    field? (data.filter fun entry => entry.1 ≠ other) name = field? data name := by
  induction data with
  | nil => rfl
  | cons entry rest inductionHypothesis =>
      by_cases dropped : entry.1 = other
      · have skipped : entry.1 ≠ name := dropped ▸ apart
        rw [List.filter_cons_of_neg (by simpa using dropped), field?_cons, if_neg skipped,
          inductionHypothesis]
      · rw [List.filter_cons_of_pos (by simpa using dropped), field?_cons, field?_cons,
          inductionHypothesis]

@[simp] theorem field?_setField_self (data : Fields) (name : String) (value : FieldValue) :
    field? (setField data name value) name = some value := by
  rw [setField, field?_cons, if_pos rfl]

theorem field?_setField_of_ne {data : Fields} {name other : String} (value : FieldValue)
    (apart : other ≠ name) : field? (setField data other value) name = field? data name := by
  rw [setField, field?_cons, if_neg apart, field?_filter_of_ne apart]

/-- The arguments of `from_mapping` as keywords. -/
def keywords (payload : List (String × Json)) : Fields :=
  payload.map fun entry => (entry.1, .json entry.2)

theorem field?_keywords (payload : List (String × Json)) (name : String) :
    field? (keywords payload) name = (Json.get? payload name).map .json := by
  induction payload with
  | nil => rfl
  | cons entry rest inductionHypothesis =>
      rw [keywords, List.map_cons, field?_cons]
      by_cases same : entry.1 = name
      · simp [Json.get?, same]
      · rw [if_neg same]
        simpa [keywords, Json.get?, same] using inductionHypothesis

/-! ## The content of a field -/

/-- `_parse_enum` on the value given for a field. -/
def memberContent (library : StandardLibrary) (members : List (String × FieldValue))
    (name : String) (given : Option Json) : Except PyError FieldValue :=
  match given with
  | some (.str text) =>
      match field? members text with
      | some member => .ok member
      | none =>
          contractError (name ++ " has unsupported value " ++
            Untyped.reprJson library (.str text))
  | given =>
      contractError (name ++ " has unsupported value " ++
        Untyped.reprJson library (given.getD .null))

/-- What `from_mapping` puts into a field for the value given for it. Only
`metadata` has a default that the class declares. -/
def fieldContent (library : StandardLibrary) (name : String) :
    FieldType → Option Json → Except PyError FieldValue
  | .timestamp, some (.str value) => (parseUtcTimestamp library value name).map .datetime
  | .timestamp, _ => contractError (name ++ " must be an ISO-8601 timestamp string")
  | .reasonCode, given => memberContent library Untyped.reasonCodeMembers name given
  | .artifactStatus, given => memberContent library Untyped.artifactStatusMembers name given
  | .telemetryOutcome, given => memberContent library Untyped.telemetryOutcomeMembers name given
  | .parseStatus, given => memberContent library Untyped.parseStatusMembers name given
  | .texts, none => .ok (.tuple [])
  | .texts, some value => (Untyped.tupleItems value).map .tuple
  | .mapping, none => .ok (.json (.obj []))
  | _, some value => .ok (.json value)
  | _, none => .error .typeError

/-- The contents of several fields, first to last. -/
def contents (library : StandardLibrary) (payload : List (String × Json)) :
    List (String × FieldType) → Except PyError Fields
  | [] => .ok []
  | field :: rest => do
      let value ← fieldContent library field.1 field.2 (Json.get? payload field.1)
      let others ← contents library payload rest
      return (field.1, value) :: others

/-- The contents exist if and only if each of them does, under the names of the fields. -/
theorem contents_ok {library : StandardLibrary} {payload : List (String × Json)}
    {fields : List (String × FieldType)} {values : Fields} :
    contents library payload fields = .ok values ↔
      List.Forall₂ (fun field entry => entry.1 = field.1 ∧
        fieldContent library field.1 field.2 (Json.get? payload field.1) = .ok entry.2)
          fields values := by
  induction fields generalizing values with
  | nil => simp [contents, eq_comm]
  | cons field rest inductionHypothesis =>
      rw [contents, bind_eq_ok]
      constructor
      · rintro ⟨value, content, others⟩
        obtain ⟨rest, restContents, shape⟩ := bind_eq_ok.mp others
        obtain rfl := Except.ok.inj shape
        exact .cons ⟨rfl, content⟩ (inductionHypothesis.mp restContents)
      · intro related
        cases related with
        | @cons _ entry _ values holds others =>
          obtain ⟨name, value⟩ := entry
          obtain ⟨sameName, content⟩ := holds
          obtain rfl : name = field.1 := sameName
          exact ⟨value, content, bind_eq_ok.mpr ⟨values, inductionHypothesis.mpr others, rfl⟩⟩

theorem contents_names {library : StandardLibrary} {payload : List (String × Json)}
    {fields : List (String × FieldType)} {values : Fields}
    (found : contents library payload fields = .ok values) :
    values.map Prod.fst = fields.map Prod.fst := by
  have related := contents_ok.mp found
  clear found
  induction related with
  | nil => rfl
  | cons holds _ inductionHypothesis => rw [List.map_cons, List.map_cons, holds.1, inductionHypothesis]

/-- The content of one of the fields is the attribute under its name. -/
theorem contents_field? {library : StandardLibrary} {payload : List (String × Json)}
    {fields : List (String × FieldType)} {values : Fields}
    (found : contents library payload fields = .ok values)
    (distinct : (fields.map Prod.fst).Nodup) :
    ∀ field ∈ fields, ∃ value, field? values field.1 = some value ∧
      fieldContent library field.1 field.2 (Json.get? payload field.1) = .ok value := by
  have related := contents_ok.mp found
  clear found
  induction related with
  | nil => simp
  | @cons first entry fields values holds _ inductionHypothesis =>
      rw [List.map_cons, List.nodup_cons] at distinct
      rw [List.forall_mem_cons]
      constructor
      · exact ⟨entry.2, by rw [field?_cons, if_pos holds.1], holds.2⟩
      · intro field member
        have apart : entry.1 ≠ field.1 := by
          rw [holds.1]
          intro same
          exact distinct.1 (same ▸ List.mem_map_of_mem member)
        rw [field?_cons, if_neg apart]
        exact inductionHypothesis distinct.2 field member

/-! ## The conversions -/

/-- The fields that `from_mapping` converts, in its order. -/
def convertedFields : ContractType → List (String × FieldType)
  | .detailFetchJob => [("reason_code", .reasonCode), ("scheduled_at", .timestamp)]
  | .discoveryObservation => [("observed_at", .timestamp)]
  | .rawFetchArtifact => [("fetched_at", .timestamp), ("artifact_status", .artifactStatus)]
  | .fetchTelemetry =>
      [("started_at", .timestamp), ("finished_at", .timestamp), ("outcome", .telemetryOutcome)]
  | .parsedListingCandidate =>
      [ ("parsed_at", .timestamp), ("parse_status", .parseStatus), ("warnings", .texts),
        ("failure_reasons", .texts) ]
  | .datasetBatchManifest =>
      [ ("created_at", .timestamp), ("acquisition_versions", .texts), ("parser_versions", .texts),
        ("known_limitations", .texts) ]

/-- A conversion that puts the content of a field under its name. -/
def Realizes (library : StandardLibrary) (conversion : Untyped.Conversion)
    (field : String × FieldType) : Prop :=
  ∀ (data : Fields) (given : Option Json), field? data field.1 = given.map .json →
    conversion data =
      (fieldContent library field.1 field.2 given).map (setField data field.1)

theorem attr_given {data : Fields} {name : String} {given : Option Json}
    (raw : field? data name = given.map .json) : attr data name = .json (given.getD .null) := by
  cases given <;> simp [attr, raw]

theorem convertTimestamp_realizes (library : StandardLibrary) (name : String) :
    Realizes library (Untyped.convertTimestamp library name) (name, .timestamp) := by
  intro data given raw
  simp only [Untyped.convertTimestamp, attr_given raw]
  cases given with
  | none => rfl
  | some value =>
      cases value with
      | str text =>
          simp only [Option.getD_some, fieldContent]
          cases parseUtcTimestamp library text name <;> rfl
      | _ => rfl

theorem convertMember_content (library : StandardLibrary) (members : List (String × FieldValue))
    {name : String} {data : Fields} {given : Option Json}
    (raw : field? data name = given.map .json) :
    Untyped.convertMember library members name data =
      (memberContent library members name given).map (setField data name) := by
  simp only [Untyped.convertMember, attr_given raw]
  cases given with
  | none => rfl
  | some value =>
      cases value with
      | str text =>
          simp only [Option.getD_some, memberContent]
          cases field? members text <;> rfl
      | _ => rfl

theorem convertTuple_realizes (library : StandardLibrary) (name : String) :
    Realizes library (Untyped.convertTuple name) (name, .texts) := by
  intro data given raw
  simp only [Untyped.convertTuple, raw]
  cases given with
  | none => rfl
  | some value =>
      simp only [Option.map_some, fieldContent]
      cases Untyped.tupleItems value <;> rfl

theorem conversions_realize (library : StandardLibrary) (type : ContractType) :
    List.Forall₂ (Realizes library) (Untyped.conversions library type)
      (convertedFields type) := by
  have timestamps := convertTimestamp_realizes library
  have tuples := convertTuple_realizes library
  cases type with
  | detailFetchJob =>
      exact .cons (fun _ _ => convertMember_content library _) (.cons (timestamps _) .nil)
  | discoveryObservation => exact .cons (timestamps _) .nil
  | rawFetchArtifact =>
      exact .cons (timestamps _) (.cons (fun _ _ => convertMember_content library _) .nil)
  | fetchTelemetry =>
      exact .cons (timestamps _) (.cons (timestamps _)
        (.cons (fun _ _ => convertMember_content library _) .nil))
  | parsedListingCandidate =>
      exact .cons (timestamps _) (.cons (fun _ _ => convertMember_content library _)
        (.cons (tuples _) (.cons (tuples _) .nil)))
  | datasetBatchManifest =>
      exact .cons (timestamps _) (.cons (tuples _) (.cons (tuples _) (.cons (tuples _) .nil)))

/-- `data[name] = value` for each converted field. -/
def setFields : Fields → Fields → Fields
  | data, [] => data
  | data, entry :: rest => setFields (setField data entry.1 entry.2) rest

/-- The conversions put the contents of their fields into the dictionary. -/
theorem convert_contents {library : StandardLibrary} {payload : List (String × Json)}
    {conversions : List Untyped.Conversion} {fields : List (String × FieldType)}
    (realized : List.Forall₂ (Realizes library) conversions fields) :
    (fields.map Prod.fst).Nodup → ∀ data : Fields,
      (∀ field ∈ fields, field? data field.1 = (Json.get? payload field.1).map .json) →
        Untyped.convert conversions data =
          (contents library payload fields).map (setFields data) := by
  induction realized with
  | nil => intro _ data _; rfl
  | @cons conversion field conversions fields holds _ inductionHypothesis =>
      intro distinct data raw
      rw [List.map_cons, List.nodup_cons] at distinct
      rw [List.forall_mem_cons] at raw
      rw [Untyped.convert, contents, holds data _ raw.1]
      cases fieldContent library field.1 field.2 (Json.get? payload field.1) with
      | error raised => rfl
      | ok value =>
          have others : ∀ other ∈ fields, field? (setField data field.1 value) other.1 =
              (Json.get? payload other.1).map .json := by
            intro other member
            have apart : field.1 ≠ other.1 := by
              intro same
              exact distinct.1 (same ▸ List.mem_map_of_mem member)
            rw [field?_setField_of_ne value apart, raw.2 other member]
          have converted := inductionHypothesis distinct.2 (setField data field.1 value) others
          calc Untyped.convert conversions (setField data field.1 value)
              = (contents library payload fields).map
                  (setFields (setField data field.1 value)) := converted
            _ = _ := by cases contents library payload fields <;> rfl

theorem field?_setFields {values : Fields} (distinct : (values.map Prod.fst).Nodup) :
    ∀ (data : Fields) (name : String),
      field? (setFields data values) name = (field? values name).or (field? data name) := by
  induction values with
  | nil => intro data name; rfl
  | cons entry rest inductionHypothesis =>
      intro data name
      rw [List.map_cons, List.nodup_cons] at distinct
      rw [setFields, inductionHypothesis distinct.2, field?_cons]
      by_cases same : entry.1 = name
      · have absent : field? rest name = none := by
          rw [field?_eq_none]
          intro other member sameName
          exact distinct.1 (List.mem_map.mpr ⟨other, member, sameName.trans same.symm⟩)
        rw [if_pos same, absent, ← same, field?_setField_self]
        rfl
      · rw [if_neg same, field?_setField_of_ne _ same]

/-- The keys after the conversions: the keys before and the converted ones. -/
theorem keys_setFields {values : Fields} (Known : String → Prop) :
    ∀ data : Fields, (∀ entry ∈ setFields data values, Known entry.1) ↔
      (∀ entry ∈ values, Known entry.1) ∧ ∀ entry ∈ data, Known entry.1 := by
  induction values with
  | nil => simp [setFields]
  | cons entry rest inductionHypothesis =>
      intro data
      rw [setFields, inductionHypothesis, setField, List.forall_mem_cons, List.forall_mem_cons]
      constructor
      · rintro ⟨others, known, kept⟩
        refine ⟨⟨known, others⟩, fun given member => ?_⟩
        by_cases same : given.1 = entry.1
        · rw [same]
          exact known
        · exact kept given (List.mem_filter.mpr ⟨member, by simpa using same⟩)
      · rintro ⟨⟨known, others⟩, given⟩
        exact ⟨others, known, fun kept member => given kept (List.mem_filter.mp member).1⟩

/-! ## The binding of keywords -/

theorem fields_distinct (type : ContractType) : (type.fields.map Prod.fst).Nodup := by
  cases type <;> decide

theorem convertedFields_distinct (type : ContractType) :
    ((convertedFields type).map Prod.fst).Nodup := by
  cases type <;> decide

theorem convertedFields_subset (type : ContractType) :
    ∀ field ∈ convertedFields type, field ∈ type.fields := by
  cases type <;> decide

/-- The types whose values the payload gives as they are. -/
def keptTypes : List FieldType :=
  [ .text, .optionalText, .integer, .optionalInteger, .mapping, .textMapping, .evidenceMapping,
    .confidenceMapping, .countMapping ]

/-- A field that is not converted keeps its value, and only a mapping has a default. -/
theorem keptFields (type : ContractType) :
    ∀ field ∈ type.fields, field ∈ convertedFields type ∨
      (field.1 ∉ (convertedFields type).map Prod.fst ∧ field.2 ∈ keptTypes ∧
        ((type = .detailFetchJob ∧ field.1 = "metadata") ↔ field.2 = .mapping)) := by
  cases type <;> decide

theorem fieldContent_some {library : StandardLibrary} {name : String} {fieldType : FieldType}
    (kept : fieldType ∈ keptTypes) (value : Json) :
    fieldContent library name fieldType (some value) = .ok (.json value) := by
  cases fieldType <;> first | rfl | exact absurd kept (by decide)

theorem fieldContent_none {library : StandardLibrary} {name : String} {fieldType : FieldType}
    (kept : fieldType ∈ keptTypes) :
    fieldContent library name fieldType none =
      if fieldType = .mapping then .ok (.json (.obj [])) else .error .typeError := by
  cases fieldType <;> first | rfl | exact absurd kept (by decide)

/-- A kept field without a default holds what is given. -/
theorem content_of_kept {library : StandardLibrary} {name : String} {fieldType : FieldType}
    {found : Option Json} {value : FieldValue} (kept : fieldType ∈ keptTypes)
    (notMapping : fieldType ≠ .mapping)
    (content : fieldContent library name fieldType found = .ok value) :
    ∃ held, found = some held ∧ value = .json held := by
  cases found with
  | none =>
      rw [fieldContent_none kept, if_neg notMapping] at content
      cases content
  | some held =>
      rw [fieldContent_some kept] at content
      exact ⟨held, rfl, (Except.ok.inj content).symm⟩

/-- The binding takes the contents from dictionaries that hold them. -/
theorem bindFields_contents {library : StandardLibrary} {payload : List (String × Json)}
    {type : ContractType} {data : Fields} {fields : List (String × FieldType)}
    (holds : ∀ field ∈ fields,
      fieldContent library field.1 field.2 (Json.get? payload field.1) =
        ((field? data field.1).or (Untyped.fieldDefault type field.1)).elim
          (.error .typeError) .ok) :
    Untyped.bindFields type data fields = contents library payload fields := by
  induction fields with
  | nil => rfl
  | cons field rest inductionHypothesis =>
      rw [List.forall_mem_cons] at holds
      rw [Untyped.bindFields, contents, holds.1, inductionHypothesis holds.2]
      cases (field? data field.1).or (Untyped.fieldDefault type field.1) <;> rfl

/-- The keys of a payload are fields of the contract. -/
def KnownKeys (type : ContractType) (payload : List (String × Json)) : Prop :=
  ∀ entry ∈ payload, entry.1 ∈ type.fields.map Prod.fst

instance (type : ContractType) (payload : List (String × Json)) :
    Decidable (KnownKeys type payload) :=
  inferInstanceAs (Decidable (∀ entry ∈ payload, entry.1 ∈ type.fields.map Prod.fst))

/-- What `cls(**data)` binds, in terms of the payload. -/
def boundContents (library : StandardLibrary) (type : ContractType)
    (payload : List (String × Json)) : Except PyError Fields :=
  if KnownKeys type payload then contents library payload type.fields else .error .typeError

/-- After the conversions the binding yields the contents of all fields. -/
theorem bind_contents {library : StandardLibrary} {payload : List (String × Json)}
    {type : ContractType} {converted : Fields}
    (conversion : contents library payload (convertedFields type) = .ok converted) :
    Untyped.bind type (setFields (keywords payload) converted) =
      boundContents library type payload := by
  have names := contents_names conversion
  have distinct : (converted.map Prod.fst).Nodup := names ▸ convertedFields_distinct type
  have lookup := field?_setFields distinct (keywords payload)
  have known : (((setFields (keywords payload) converted).all fun entry =>
      type.fields.any fun field => field.1 = entry.1) = true) ↔ KnownKeys type payload := by
    have keys := @keys_setFields converted (fun name => name ∈ type.fields.map Prod.fst)
      (keywords payload)
    have convertedKnown : ∀ entry ∈ converted, entry.1 ∈ type.fields.map Prod.fst := by
      intro entry member
      have listed : entry.1 ∈ (convertedFields type).map Prod.fst :=
        names ▸ List.mem_map_of_mem member
      obtain ⟨field, fieldListed, sameName⟩ := List.mem_map.mp listed
      exact sameName ▸ List.mem_map_of_mem (convertedFields_subset type field fieldListed)
    calc _ ↔ ∀ entry ∈ setFields (keywords payload) converted,
          entry.1 ∈ type.fields.map Prod.fst := by simp
      _ ↔ ∀ entry ∈ keywords payload, entry.1 ∈ type.fields.map Prod.fst := by
          rw [keys]
          exact and_iff_right convertedKnown
      _ ↔ KnownKeys type payload := List.forall_mem_map
  have holds : ∀ field ∈ type.fields,
      fieldContent library field.1 field.2 (Json.get? payload field.1) =
        ((field? (setFields (keywords payload) converted) field.1).or
          (Untyped.fieldDefault type field.1)).elim (.error .typeError) .ok := by
    intro field member
    rw [lookup]
    rcases keptFields type field member with isConverted | ⟨isKept, keptType, hasDefault⟩
    · obtain ⟨value, found, content⟩ :=
        contents_field? conversion (convertedFields_distinct type) field isConverted
      rw [found, content]
      rfl
    · have absent : field? converted field.1 = none := by
        rw [field?_eq_none]
        intro entry listed sameName
        exact isKept (names ▸ List.mem_map.mpr ⟨entry, listed, sameName⟩)
      rw [absent, field?_keywords]
      cases Json.get? payload field.1 with
      | some value => exact fieldContent_some keptType value
      | none =>
          rw [fieldContent_none keptType, Untyped.fieldDefault]
          by_cases isMapping : field.2 = .mapping
          · rw [if_pos isMapping, if_pos (hasDefault.mpr isMapping)]
            rfl
          · rw [if_neg isMapping, if_neg (mt hasDefault.mp isMapping)]
            rfl
  rw [Untyped.bind, boundContents]
  by_cases keys : KnownKeys type payload
  · rw [if_pos keys, if_pos (known.mpr keys), bindFields_contents holds]
  · rw [if_neg keys, if_neg (mt known.mp keys)]

/-! ## The whole reader -/

/-- `from_mapping` on its payload: the converted fields first, then the keys,
then the fields that are taken as they are, then the checks. -/
theorem fromMapping_eq (library : StandardLibrary) (type : ContractType)
    (payload : List (String × Json)) :
    Untyped.fromMapping library type payload = (do
      let _ ← contents library payload (convertedFields type)
      let self ← boundContents library type payload
      Untyped.runChecks (Untyped.checks library type) self
      return self) := by
  have raw : ∀ field ∈ convertedFields type,
      field? (keywords payload) field.1 = (Json.get? payload field.1).map .json :=
    fun field _ => field?_keywords payload field.1
  have converted := convert_contents (conversions_realize library type)
    (convertedFields_distinct type) (keywords payload) raw
  rw [Untyped.fromMapping]
  change (do
    let data ← Untyped.convert (Untyped.conversions library type) (keywords payload)
    let self ← Untyped.bind type data
    Untyped.runChecks (Untyped.checks library type) self
    return self) = _
  rw [converted]
  cases conversion : contents library payload (convertedFields type) with
  | error raised => rfl
  | ok values =>
      change (Untyped.bind type (setFields (keywords payload) values) >>= _) = (_ >>= _)
      rw [bind_contents conversion]
      rfl

/-- Contents that exist one by one exist together. -/
theorem contents_of_forall {library : StandardLibrary} {payload : List (String × Json)}
    {fields : List (String × FieldType)}
    (each : ∀ field ∈ fields, ∃ value,
      fieldContent library field.1 field.2 (Json.get? payload field.1) = .ok value) :
    ∃ values, contents library payload fields = .ok values := by
  induction fields with
  | nil => exact ⟨[], rfl⟩
  | cons field rest inductionHypothesis =>
      rw [List.forall_mem_cons] at each
      obtain ⟨value, content⟩ := each.1
      obtain ⟨others, restContents⟩ := inductionHypothesis each.2
      exact ⟨(field.1, value) :: others,
        bind_eq_ok.mpr ⟨value, content, bind_eq_ok.mpr ⟨others, restContents, rfl⟩⟩⟩

/-- The contents of all fields include those of the converted ones. -/
theorem convertedContents_of_contents {library : StandardLibrary} {type : ContractType}
    {payload : List (String × Json)} {self : Fields}
    (found : contents library payload type.fields = .ok self) :
    ∃ values, contents library payload (convertedFields type) = .ok values := by
  apply contents_of_forall
  intro field member
  obtain ⟨value, _, content⟩ :=
    contents_field? found (fields_distinct type) field (convertedFields_subset type field member)
  exact ⟨value, content⟩

/-- An accepted payload has known keys, its instance holds the contents, and all
checks pass. -/
theorem fromMapping_ok {library : StandardLibrary} {type : ContractType}
    {payload : List (String × Json)} {self : Fields} :
    Untyped.fromMapping library type payload = .ok self ↔
      KnownKeys type payload ∧ contents library payload type.fields = .ok self ∧
        ∀ check ∈ Untyped.checks library type, check self = .ok () := by
  rw [fromMapping_eq, bind_eq_ok, ← Untyped.runChecks_ok]
  constructor
  · rintro ⟨_, _, bound⟩
    obtain ⟨built, found, checked⟩ := bind_eq_ok.mp bound
    obtain ⟨_, passed, same⟩ := bind_eq_ok.mp checked
    obtain rfl := Except.ok.inj same
    rw [boundContents] at found
    split at found
    · next known => exact ⟨known, found, passed⟩
    · cases found
  · rintro ⟨known, found, passed⟩
    obtain ⟨values, conversion⟩ := convertedContents_of_contents found
    have bound : boundContents library type payload = .ok self := by
      rw [boundContents, if_pos known, found]
    exact ⟨values, conversion, bind_eq_ok.mpr ⟨self, bound, bind_eq_ok.mpr ⟨(), passed, rfl⟩⟩⟩

/-! ## The boundary -/

theorem find?_name (type : ContractType) :
    (contractTypes.find? fun candidate => candidate.name = type.name) = some type := by
  cases type <;> decide

theorem invalidShape_ok {contractName : String} {outcome : Except PyError Fields}
    {fields : Fields} : invalidShape contractName outcome = .ok fields ↔ outcome = .ok fields := by
  unfold invalidShape
  split
  · simp [contractError]
  · rfl

/-- An accepted payload is an object that `from_mapping` of the contract accepts. -/
theorem validateContractPayload_ok {library : StandardLibrary} {type : ContractType}
    {payload : Json} {accepted : ContractInstance} :
    validateContractPayload library type.name payload = .ok accepted ↔
      ∃ entries, payload = .obj entries ∧ accepted.type = type ∧
        Untyped.fromMapping library type entries = .ok accepted.fields := by
  unfold validateContractPayload
  rw [find?_name]
  cases payload with
  | obj entries =>
      simp only [Json.obj.injEq, exists_eq_left']
      constructor
      · intro outcome
        cases built : Untyped.fromMapping library type entries with
        | error raised =>
            have refused : ∀ fields,
                invalidShape type.name (Untyped.fromMapping library type entries) ≠ .ok fields := by
              intro fields shaped
              rw [invalidShape_ok, built] at shaped
              cases shaped
            cases shaped : invalidShape type.name (Untyped.fromMapping library type entries) with
            | error raised =>
                rw [shaped] at outcome
                cases outcome
            | ok fields => exact absurd shaped (refused fields)
        | ok fields =>
            rw [invalidShape_ok.mpr built] at outcome
            obtain rfl := Except.ok.inj outcome
            exact ⟨rfl, rfl⟩
      · rintro ⟨rfl, built⟩
        rw [invalidShape_ok.mpr built]
        rfl
  | _ => simp [contractError]

/-! ## A payload -/

theorem zeroDigest_form : isSha256Text
    "0000000000000000000000000000000000000000000000000000000000000000" := by decide

/-- A library whose identifiers are their names behind a letter. -/
def plainLibrary : StandardLibrary where
  sha256 _ := ⟨_, zeroDigest_form⟩
  uuid5 name := "u" ++ name
  uuid5_injective first second same := by simpa using same
  uuid5_notBlank name := by simp [Text.isBlank, Text.isSpace]
  netlocRefused _ := false
  isInteger text := !text.isEmpty && text.all Char.isDigit
  otherIsoFormat _ := none
  repr text := text

/-- The payload of an observation with this URL and title. -/
def observationPayload (listingUrl : String) (visibleTitle : Json) : Json :=
  .obj
    [ ("contract_version", .str "0.1"), ("crawl_run_id", .str "run-1"),
      ("source_name", .str "source"), ("source_listing_key", .str "listing-1"),
      ("listing_url", .str listingUrl), ("observed_at", .str "2026-01-01T08:00:00Z"),
      ("visible_title", visibleTitle), ("visible_price_text", .null),
      ("visible_currency", .null), ("visible_specs", .obj []), ("visible_status", .null),
      ("card_fingerprint", .null), ("discovery_partition", .str "partition-1") ]

end ScraperProject.Contracts
