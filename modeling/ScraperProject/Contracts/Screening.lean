import ScraperProject.Contracts.Typing

/-!
Contract: credential-shaped keys inside accepted contracts.

Owns the mappings inside a JSON value, the keys that look like credentials, what
`reject_sensitive_keys` accepts, and the payloads whose instances hold no such
key in any field.

Does not own the wording of a refusal.
-/

namespace ScraperProject.Contracts

open Foundation
open Database

/-! ## Keys and mappings -/

/-- The lower-cased text of the key contains one of the words. -/
def CredentialShaped (key : String) : Prop :=
  ∃ part ∈ sensitiveKeyParts, part.toList <:+: Text.lower key.toList

/-- A value inside another one, through any nesting of objects and arrays. -/
inductive Inside : Json → Json → Prop where
  | self (value : Json) : Inside value value
  | item {inner item : Json} {items : List Json} :
      item ∈ items → Inside inner item → Inside inner (.arr items)
  | entry {inner : Json} {entry : String × Json} {entries : List (String × Json)} :
      entry ∈ entries → Inside inner entry.2 → Inside inner (.obj entries)

/-- No mapping inside the value has a credential-shaped key. -/
def Screened (value : Json) : Prop :=
  ∀ entries, Inside (.obj entries) value → ∀ entry ∈ entries, ¬ CredentialShaped entry.1

/-- No mapping inside what a field holds has a credential-shaped key. -/
def FieldScreened : FieldValue → Prop
  | .json value => Screened value
  | .tuple items => ∀ item ∈ items, Screened item
  | _ => True

theorem isSensitiveKey_iff {key : String} : isSensitiveKey key ↔ CredentialShaped key := by
  simp only [isSensitiveKey, List.any_eq_true, Text.containsText_iff, CredentialShaped]

theorem screened_obj {entries : List (String × Json)} :
    Screened (.obj entries) ↔
      ∀ entry ∈ entries, ¬ CredentialShaped entry.1 ∧ Screened entry.2 := by
  constructor
  · intro screened entry member
    exact ⟨screened entries (.self _) entry member,
      fun inner inside => screened inner (.entry member inside)⟩
  · intro each inner inside
    cases inside with
    | self => exact fun entry member => (each entry member).1
    | entry member inside => exact (each _ member).2 inner inside

theorem screened_arr {items : List Json} :
    Screened (.arr items) ↔ ∀ item ∈ items, Screened item := by
  constructor
  · intro screened item member inner inside
    exact screened inner (.item member inside)
  · intro each inner inside
    cases inside with
    | item member inside => exact each _ member inner inside

/-- A value that is neither an object nor an array holds no mapping. -/
theorem screened_scalar {value : Json} (notObject : ∀ entries, value ≠ .obj entries)
    (notArray : ∀ items, value ≠ .arr items) : Screened value := by
  intro inner inside
  cases inside with
  | self => exact absurd rfl (notObject inner)
  | item => exact absurd rfl (notArray _)
  | entry => exact absurd rfl (notObject _)

/-! ## The recursion of the source -/

theorem rejectSensitiveEntries_cons (library : StandardLibrary) (name key : String)
    (value : Json) (rest : List (String × Json)) :
    rejectSensitiveEntries library name ((key, value) :: rest) = .ok () ↔
      ¬ isSensitiveKey key ∧ rejectSensitiveKeys library (name ++ "." ++ key) value = .ok () ∧
        rejectSensitiveEntries library name rest = .ok () := by
  rw [rejectSensitiveEntries]
  by_cases sensitive : isSensitiveKey key
  · simp [sensitive, contractError, bind, Except.bind]
  · rw [if_neg sensitive, bind_eq_ok]
    exact ⟨fun ⟨_, passed, others⟩ => ⟨sensitive, passed, others⟩,
      fun ⟨_, passed, others⟩ => ⟨(), passed, others⟩⟩

mutual

/-- `reject_sensitive_keys` accepts exactly the values without such keys. -/
theorem rejectSensitiveKeys_ok (library : StandardLibrary) (name : String) :
    ∀ value, rejectSensitiveKeys library name value = .ok () ↔ Screened value
  | .obj entries => by
      rw [rejectSensitiveKeys, rejectSensitiveEntries_ok library name entries, screened_obj]
  | .arr items => by
      rw [rejectSensitiveKeys, rejectSensitiveItems_ok library name items, screened_arr]
  | .null | .bool _ | .int _ | .float _ | .str _ => by
      simp only [rejectSensitiveKeys, true_iff]
      exact screened_scalar (by simp) (by simp)

theorem rejectSensitiveItems_ok (library : StandardLibrary) (name : String) :
    ∀ items, rejectSensitiveItems library name items = .ok () ↔ ∀ item ∈ items, Screened item
  | [] => by simp [rejectSensitiveItems]
  | item :: rest => by
      rw [rejectSensitiveItems, bind_eq_ok, List.forall_mem_cons,
        ← rejectSensitiveKeys_ok library name item, ← rejectSensitiveItems_ok library name rest]
      exact ⟨fun ⟨_, passed, others⟩ => ⟨passed, others⟩, fun ⟨passed, others⟩ =>
        ⟨(), passed, others⟩⟩

theorem rejectSensitiveEntries_ok (library : StandardLibrary) (name : String) :
    ∀ entries, rejectSensitiveEntries library name entries = .ok () ↔
      ∀ entry ∈ entries, ¬ CredentialShaped entry.1 ∧ Screened entry.2
  | [] => by simp [rejectSensitiveEntries]
  | (key, value) :: rest => by
      rw [rejectSensitiveEntries_cons, List.forall_mem_cons, isSensitiveKey_iff,
        rejectSensitiveKeys_ok library (name ++ "." ++ key) value,
        rejectSensitiveEntries_ok library name rest, and_assoc]

end

/-! ## The check behind a field -/

/-- The types of the fields that no check screens. -/
def unscreenedTypes : List FieldType := [.optionalText, .confidenceMapping, .texts]

/-- The types whose fields are screened by name. -/
def screenedTypes : List FieldType := [.mapping, .textMapping, .evidenceMapping]

theorem rejectSensitive_mem (library : StandardLibrary) (type : ContractType) :
    ∀ field ∈ type.fields, field.2 ∈ screenedTypes →
      Untyped.rejectSensitive library field.1 ∈ Untyped.checks library type := by
  cases type <;> simp [ContractType.fields, screenedTypes, Untyped.checks]

/-- The screening of a field accepts exactly the contents without such keys. -/
theorem rejectSensitive_ok {library : StandardLibrary} {name : String} {self : Fields}
    {value : FieldValue} (found : field? self name = some value) :
    Untyped.rejectSensitive library name self = .ok () ↔ FieldScreened value := by
  rw [Untyped.rejectSensitive, attr_of_field? found]
  cases value with
  | json value => exact rejectSensitiveKeys_ok library name value
  | tuple items => exact rejectSensitiveItems_ok library name items
  | _ => simp [FieldScreened]

/-- The names of the terminal states do not look like credentials. -/
theorem terminalStates_plain : ∀ state ∈ terminalStates, ¬ CredentialShaped state := by
  have plain : ∀ state ∈ terminalStates, isSensitiveKey state = false := by decide
  intro state member shaped
  rw [← isSensitiveKey_iff, plain state member] at shaped
  cases shaped

theorem requireCounts_screened {self : Fields} {value : FieldValue}
    (found : field? self "terminal_state_counts" = some value)
    (passed : Untyped.requireCounts self = .ok ()) : FieldScreened value := by
  obtain ⟨entries, rfl, known, integers⟩ := requireCounts_entries found passed
  apply screened_obj.mpr
  intro entry member
  rw [List.all_eq_true] at known integers
  constructor
  · exact terminalStates_plain entry.1 (by simpa using known entry member)
  · have integer := integers entry member
    cases count : entry.2 with
    | int _ => exact screened_scalar (by simp) (by simp)
    | _ =>
        rw [count] at integer
        cases integer

/-- A value of a type without mappings and tuples holds no mapping. -/
theorem screened_of_hasType {fieldType : FieldType} {value : FieldValue}
    (hasType : HasType fieldType value) (notScreened : fieldType ∉ screenedTypes)
    (notUnscreened : fieldType ∉ unscreenedTypes) (notCounts : fieldType ≠ .countMapping) :
    FieldScreened value := by
  cases value with
  | json value =>
      cases value with
      | obj entries => cases fieldType <;> simp_all [HasType, isText, isInteger, screenedTypes,
          unscreenedTypes, Untyped.isNone]
      | arr items => cases fieldType <;> simp_all [HasType, isText, isInteger, screenedTypes,
          unscreenedTypes, Untyped.isNone]
      | _ => exact screened_scalar (by simp) (by simp)
  | tuple items => cases fieldType <;> simp_all [HasType, unscreenedTypes]
  | _ => trivial

/-- An instance whose checks pass holds no such key in the fields that are screened. -/
theorem screened_of_checked {library : StandardLibrary} {type : ContractType} {self : Fields}
    (passed : ∀ check ∈ Untyped.checks library type, check self = .ok ())
    {field : String × FieldType} (member : field ∈ type.fields)
    (screened : field.2 ∉ unscreenedTypes) {value : FieldValue}
    (found : field? self field.1 = some value) : FieldScreened value := by
  by_cases byName : field.2 ∈ screenedTypes
  · exact (rejectSensitive_ok found).mp (passed _ (rejectSensitive_mem library type field member
      byName))
  · have allChecked : ∀ fieldType ∈ uncheckedTypes,
        fieldType ∈ screenedTypes ∨ fieldType ∈ unscreenedTypes := by decide
    have checked : field.2 ∉ uncheckedTypes := by
      intro unchecked
      exact (allChecked field.2 unchecked).elim byName screened
    by_cases isCounts : field.2 = .countMapping
    · have name := (singularFields type field member).2.2 isCounts
      have certified := certificate_mem library type field member checked
      rw [isCounts] at certified
      exact requireCounts_screened (name ▸ found) (passed _ certified)
    · exact screened_of_hasType (hasType_of_checked passed member checked found) byName screened
        isCounts

/-! ## What the payload gives -/

/-- The value brings no such key into a field of this type: a tuple takes the
items of an array, and only texts from a text or an object. -/
def EntersScreened (fieldType : FieldType) (value : Json) : Prop :=
  match fieldType, value with
  | .texts, .arr items => ∀ item ∈ items, Screened item
  | .texts, _ => True
  | _, value => Screened value

/-- The values given for the fields that no check screens bring no such key. -/
def UnscreenedClean (type : ContractType) (payload : Json) : Prop :=
  ∀ field ∈ type.fields, field.2 ∈ unscreenedTypes →
    ∀ value, given payload field.1 = some value → EntersScreened field.2 value

theorem screened_texts (texts : List String) :
    ∀ item ∈ texts.map Json.str, Screened item := by
  rw [List.forall_mem_map]
  exact fun _ _ => screened_scalar (by simp) (by simp)

/-- A tuple field holds no such key if and only if none enters it. -/
theorem texts_screened {library : StandardLibrary} {name : String} {found : Option Json}
    {value : FieldValue} (content : fieldContent library name .texts found = .ok value) :
    FieldScreened value ↔ ∀ held, found = some held → EntersScreened .texts held := by
  cases found with
  | none =>
      obtain rfl := Except.ok.inj content
      simp [FieldScreened]
  | some held =>
      simp only [Option.some.injEq, forall_eq']
      cases held with
      | arr items =>
          obtain rfl := Except.ok.inj content
          rfl
      | str text =>
          obtain rfl := Except.ok.inj content
          refine iff_of_true ?_ trivial
          have texts := screened_texts (text.toList.map String.singleton)
          rwa [List.map_map] at texts
      | obj entries =>
          obtain rfl := Except.ok.inj content
          refine iff_of_true ?_ trivial
          have texts := screened_texts (entries.map Prod.fst)
          rwa [List.map_map] at texts
      | _ => cases content

/-- Any other field that no check screens holds what enters it. -/
theorem unscreened_content {library : StandardLibrary} {field : String × FieldType}
    {found : Option Json} {value : FieldValue} (unscreened : field.2 ∈ unscreenedTypes)
    (notTuple : field.2 ≠ .texts)
    (content : fieldContent library field.1 field.2 found = .ok value) :
    FieldScreened value ↔ ∀ held, found = some held → EntersScreened field.2 held := by
  obtain ⟨name, fieldType⟩ := field
  have allKept : ∀ fieldType ∈ unscreenedTypes, fieldType ≠ .texts →
      fieldType ∈ keptTypes ∧ fieldType ≠ .mapping := by decide
  have kept := allKept fieldType unscreened notTuple
  obtain ⟨held, rfl, rfl⟩ := content_of_kept kept.1 kept.2 content
  simp only [Option.some.injEq, forall_eq']
  cases fieldType <;> first | rfl | exact absurd rfl notTuple

/-! ## Accepted payloads -/

/-- No field of the instance holds a mapping with a credential-shaped key. -/
def NoCredentialKey (accepted : ContractInstance) : Prop :=
  ∀ field ∈ accepted.type.fields, ∀ value,
    field? accepted.fields field.1 = some value → FieldScreened value

/-- An accepted instance holds no credential-shaped key if and only if the payload
brings none into the fields that no check screens. -/
theorem validateContractPayload_noCredentialKey_iff (library : StandardLibrary)
    (type : ContractType) (payload : Json) (accepted : ContractInstance)
    (outcome : validateContractPayload library type.name payload = .ok accepted) :
    NoCredentialKey accepted ↔ UnscreenedClean type payload := by
  obtain ⟨entries, rfl, rfl, built⟩ := validateContractPayload_ok.mp outcome
  obtain ⟨_, found, passed⟩ := fromMapping_ok.mp built
  have fields := contents_field? found (fields_distinct accepted.type)
  have exactly : ∀ field ∈ accepted.type.fields, field.2 ∈ unscreenedTypes →
      ∀ value, fieldContent library field.1 field.2 (Json.get? entries field.1) = .ok value →
        (FieldScreened value ↔
          ∀ held, Json.get? entries field.1 = some held → EntersScreened field.2 held) := by
    intro field member unscreened value content
    by_cases isTuple : field.2 = .texts
    · rw [isTuple] at content ⊢
      exact texts_screened content
    · exact unscreened_content unscreened isTuple content
  constructor
  · intro clean field member unscreened
    obtain ⟨value, present, content⟩ := fields field member
    exact (exactly field member unscreened value content).mp (clean field member value present)
  · intro clean field member value present
    by_cases unscreened : field.2 ∈ unscreenedTypes
    · obtain ⟨same, samePresent, content⟩ := fields field member
      obtain rfl : value = same := Option.some.inj (present.symm.trans samePresent)
      exact (exactly field member unscreened value content).mpr (clean field member unscreened)
    · exact screened_of_checked passed member unscreened present

/-- An observation with a textual title. -/
theorem validateContractPayload_screenedTitle : ∃ accepted,
    validateContractPayload plainLibrary (ContractType.name .discoveryObservation)
        (observationPayload "http://localhost/1" (.str "title")) = .ok accepted ∧
      (NoCredentialKey accepted ↔ UnscreenedClean .discoveryObservation
        (observationPayload "http://localhost/1" (.str "title"))) := by
  obtain ⟨accepted, outcome, _⟩ := observationPayload_accepted (.str "title")
  exact ⟨accepted, outcome, validateContractPayload_noCredentialKey_iff plainLibrary
    .discoveryObservation _ accepted outcome⟩

/-- An observation whose title is an object with a password is accepted with it. -/
theorem validateContractPayload_passwordTitle : ∃ accepted,
    validateContractPayload plainLibrary (ContractType.name .discoveryObservation)
        (observationPayload "http://localhost/1" (.obj [("password", .str "x")])) = .ok accepted ∧
      ¬ NoCredentialKey accepted := by
  obtain ⟨accepted, outcome, isObservation, held⟩ :=
    observationPayload_accepted (.obj [("password", .str "x")])
  refine ⟨accepted, outcome, fun clean => ?_⟩
  have declared : ("visible_title", FieldType.optionalText) ∈ accepted.type.fields := by
    rw [isObservation]
    decide
  have screened := clean _ declared _ held
  have entry := (screened_obj.mp screened) ("password", .str "x") (List.mem_singleton_self _)
  exact entry.1 (isSensitiveKey_iff.mp (by decide))

end ScraperProject.Contracts
