import ScraperProject.Foundation.Lines
import ScraperProject.SourceRegistry.Config

/-!
Contract: what `source_registry.config` accepts and `source list` prints.

Owns the payloads that describe a registry, the proof that the reader accepts exactly
these, with that registry, and refuses the others with its own error, and the round trip
of the listing.

Does not own the reader.
-/

namespace ScraperProject.SourceRegistry

open Foundation

/-! ## What a payload describes -/

/-- The table says all that the definition holds, and nothing else. -/
structure IsTableOf {classes : CharacterClasses} (source : SourceDefinition classes)
    (entries : List (String × Toml)) : Prop where
  known : ∀ entry ∈ entries, entry.1 ∈ sourceKeys
  name : lookup entries "name" = some (.str source.name)
  enabled : lookup entries "enabled" = some (.bool source.enabled)
  identityStrategy :
    lookup entries "identity_strategy" = some (.str source.identityStrategy.value)
  identityNotes : lookup entries "identity_notes" = source.identityNotes.map .str

def DescribesSource {classes : CharacterClasses} (item : Toml)
    (source : SourceDefinition classes) : Prop :=
  ∃ entries, item = .table entries ∧ IsTableOf source entries

/-- The payload is that of the registry: a missing array of sources is an empty one. -/
structure Describes {classes : CharacterClasses} (payload : List (String × Toml))
    (registry : SourceRegistryConfig classes) : Prop where
  known : ∀ entry ∈ payload, entry.1 ∈ registryKeys
  version : lookup payload "registry_version" = some (.str "0.1")
  sources : ∃ items, ((lookup payload "sources" = none ∧ items = []) ∨
    lookup payload "sources" = some (.arr items)) ∧
      List.Forall₂ DescribesSource items registry.sources

section Acceptance

variable {library : StandardLibrary} {classes : CharacterClasses}

theorem read_bind_eq_ok {Failure First Second : Type} {first : Except Failure First}
    {next : First → Except Failure Second} {value : Second} :
    (first >>= next) = .ok value ↔ ∃ middle, first = .ok middle ∧ next middle = .ok value := by
  cases first with
  | error raised => simp [bind, Except.bind]
  | ok middle => simp [bind, Except.bind]

theorem unknownKeys_eq_nil {allowed : List String} {entries : List (String × Toml)} :
    unknownKeys allowed entries = [] ↔ ∀ entry ∈ entries, entry.1 ∈ allowed := by
  have permuted := List.perm_insertionSort (fun left right : String => ¬ right < left)
    ((entries.map Prod.fst).filter fun key => key ∉ allowed)
  constructor
  · intro none entry member
    by_contra isUnknown
    have isFiltered : entry.1 ∈ (entries.map Prod.fst).filter fun key => key ∉ allowed :=
      List.mem_filter.mpr ⟨List.mem_map_of_mem member, by simpa using isUnknown⟩
    have listed := permuted.mem_iff.mpr isFiltered
    rw [show List.insertionSort _ _ = [] from none] at listed
    cases listed
  · intro known
    have isNil : ((entries.map Prod.fst).filter fun key => key ∉ allowed) = [] := by
      rw [List.filter_eq_nil_iff]
      intro key member
      obtain ⟨entry, listed, rfl⟩ := List.mem_map.mp member
      simpa using known entry listed
    rw [unknownKeys, isNil]
    rfl

theorem readName_eq_ok {value : Toml} {name : { name : String // IsName classes name }} :
    readName classes value = .ok name ↔ value = .str name.val := by
  cases value with
  | str text =>
      simp only [readName, Toml.str.injEq]
      split
      · simp [Subtype.ext_iff]
      · next notName =>
        constructor
        · intro accepted
          cases accepted
        · rintro rfl
          exact absurd name.property notName
  | _ => simp [readName, refuse]

theorem readEnabled_eq_ok {value : Toml} {enabled : Bool} :
    readEnabled value = .ok enabled ↔ value = .bool enabled := by
  cases value <;> simp [readEnabled, refuse]

theorem readStrategy_eq_ok {value : Toml} {strategy : IdentityStrategy} :
    readStrategy library value = .ok strategy ↔ value = .str strategy.value := by
  cases value with
  | str text =>
      simp only [readStrategy, Toml.str.injEq]
      constructor
      · intro accepted
        split at accepted
        · next found isFound =>
          have same : found.value = text := by simpa using List.find?_some isFound
          cases accepted
          exact same.symm
        · cases accepted
      · rintro rfl
        cases strategy <;> rfl
  | _ => simp [readStrategy, refuse]

theorem readNotes_eq_ok {value : Option Toml} {notes : Option String} :
    readNotes value = .ok notes ↔ value = notes.map .str := by
  cases value with
  | none => cases notes <;> simp [readNotes]
  | some given =>
      cases given with
      | str text => cases notes <;> simp [readNotes]
      | _ => cases notes <;> simp [readNotes, refuse]

theorem required_eq_ok {entries : List (String × Toml)} {key : String} {value : Toml} :
    required library entries key = .ok value ↔ lookup entries key = some value := by
  unfold required
  cases lookup entries key <;> simp [refuse]

theorem makeDefinition_eq_ok {name enabled identityStrategy : Toml} {identityNotes : Option Toml}
    {source : SourceDefinition classes} :
    makeDefinition library classes name enabled identityStrategy identityNotes = .ok source ↔
      name = .str source.name ∧ enabled = .bool source.enabled ∧
        identityStrategy = .str source.identityStrategy.value ∧
          identityNotes = source.identityNotes.map .str := by
  simp only [makeDefinition, read_bind_eq_ok, readName_eq_ok, readEnabled_eq_ok,
    readStrategy_eq_ok, readNotes_eq_ok]
  constructor
  · rintro ⟨checked, rfl, flag, rfl, strategy, rfl, notes, rfl, made⟩
    split at made
    · cases made
      exact ⟨rfl, rfl, rfl, rfl⟩
    · cases made
  · rintro ⟨rfl, rfl, rfl, rfl⟩
    refine ⟨⟨source.name, source.isName⟩, rfl, source.enabled, rfl, source.identityStrategy, rfl,
      source.identityNotes, rfl, ?_⟩
    rw [dif_pos source.notesGiven]

theorem readSourceDefinition_eq_ok {item : Toml} {source : SourceDefinition classes} :
    readSourceDefinition library classes item = .ok source ↔ DescribesSource item source := by
  cases item with
  | table entries =>
      simp only [readSourceDefinition]
      split
      · next unknown =>
        constructor
        · intro accepted
          cases accepted
        · rintro ⟨_, isTable, describes⟩
          cases isTable
          exact absurd (unknownKeys_eq_nil.mpr describes.known) unknown
      · next known =>
        simp only [ne_eq, not_not] at known
        simp only [read_bind_eq_ok, required_eq_ok, makeDefinition_eq_ok]
        constructor
        · rintro ⟨name, isName, enabled, isEnabled, strategy, isStrategy, rfl, rfl, rfl, isNotes⟩
          exact ⟨entries, rfl, unknownKeys_eq_nil.mp known, isName, isEnabled, isStrategy, isNotes⟩
        · rintro ⟨_, isTable, describes⟩
          cases isTable
          exact ⟨_, describes.name, _, describes.enabled, _, describes.identityStrategy, rfl, rfl,
            rfl, describes.identityNotes⟩
  | _ => simp [readSourceDefinition, refuse, DescribesSource]

theorem readSources_eq_ok {items : List Toml} {sources : List (SourceDefinition classes)} :
    readSources library classes items = .ok sources ↔
      List.Forall₂ DescribesSource items sources := by
  induction items generalizing sources with
  | nil =>
      rw [readSources, List.forall₂_nil_left_iff, Except.ok.injEq]
      exact eq_comm
  | cons item rest inductionHypothesis =>
      simp only [readSources, read_bind_eq_ok, readSourceDefinition_eq_ok, inductionHypothesis,
        List.forall₂_cons_left_iff, Except.ok.injEq]
      constructor
      · rintro ⟨source, describes, others, describesOthers, rfl⟩
        exact ⟨source, others, describes, describesOthers, rfl⟩
      · rintro ⟨source, others, describes, describesOthers, rfl⟩
        exact ⟨source, describes, others, describesOthers, rfl⟩

theorem sourcesPayload_eq_ok {payload : List (String × Toml)} {items : List Toml} :
    sourcesPayload payload = .ok items ↔
      (lookup payload "sources" = none ∧ items = []) ∨
        lookup payload "sources" = some (.arr items) := by
  unfold sourcesPayload
  cases lookup payload "sources" with
  | none =>
      simp only [Except.ok.injEq, reduceCtorEq, or_false, true_and]
      exact eq_comm
  | some value => cases value <;> simp [refuse]

theorem makeRegistry_eq_ok {value : Toml} {sources : List (SourceDefinition classes)}
    {registry : SourceRegistryConfig classes} :
    makeRegistry classes sources value = .ok registry ↔
      value = .str "0.1" ∧ registry.sources = sources := by
  constructor
  · intro made
    unfold makeRegistry at made
    split at made
    · split at made
      · next isSupported =>
        split at made
        · cases made
          exact ⟨congrArg Toml.str isSupported, rfl⟩
        · cases made
      · cases made
    · cases made
  · rintro ⟨rfl, rfl⟩
    rw [makeRegistry, dif_pos rfl, dif_pos registry.isUnique]
    exact congrArg Except.ok (SourceRegistryConfig.ext registry.isSupported.symm rfl)

/-! ## What a reader raises -/

/-- A failure is one of the registry itself. -/
def OwnErrors {α : Type} (outcome : Except RegistryError α) : Prop :=
  ∀ raised, outcome = .error raised → ∃ message, raised = .config message

theorem ownErrors_ok {α : Type} (value : α) : OwnErrors (.ok value) := by
  intro raised failed
  cases failed

theorem ownErrors_refuse {α : Type} (message : String) :
    OwnErrors (refuse message : Except RegistryError α) := by
  intro raised failed
  cases failed
  exact ⟨message, rfl⟩

theorem OwnErrors.bind {First Second : Type} {first : Except RegistryError First}
    {next : First → Except RegistryError Second} (own : OwnErrors first)
    (later : ∀ value, OwnErrors (next value)) : OwnErrors (first >>= next) := by
  intro raised failed
  cases outcome : first with
  | error early =>
      rw [outcome] at failed
      cases failed
      exact own _ outcome
  | ok value =>
      rw [outcome] at failed
      exact later value raised failed

theorem required_ownErrors (entries : List (String × Toml)) (key : String) :
    OwnErrors (required library entries key) := by
  unfold required
  split
  · exact ownErrors_ok _
  · exact ownErrors_refuse _

theorem makeDefinition_ownErrors (name enabled identityStrategy : Toml)
    (identityNotes : Option Toml) :
    OwnErrors (makeDefinition library classes name enabled identityStrategy identityNotes) := by
  have names : OwnErrors (readName classes name) := by
    unfold readName
    split
    · split
      · exact ownErrors_ok _
      · exact ownErrors_refuse _
    · exact ownErrors_refuse _
  have flags : OwnErrors (readEnabled enabled) := by
    unfold readEnabled
    split
    · exact ownErrors_ok _
    · exact ownErrors_refuse _
  have strategies : OwnErrors (readStrategy library identityStrategy) := by
    unfold readStrategy
    split
    · split
      · exact ownErrors_ok _
      · exact ownErrors_refuse _
    · exact ownErrors_refuse _
  have notes : OwnErrors (readNotes identityNotes) := by
    unfold readNotes
    split
    · exact ownErrors_ok _
    · exact ownErrors_ok _
    · exact ownErrors_refuse _
  refine names.bind fun name => flags.bind fun _ => strategies.bind fun _ => notes.bind fun _ => ?_
  split
  · exact ownErrors_ok _
  · exact ownErrors_refuse _

theorem readSourceDefinition_ownErrors (item : Toml) :
    OwnErrors (readSourceDefinition library classes item) := by
  unfold readSourceDefinition
  split
  · split
    · exact ownErrors_refuse _
    · refine (required_ownErrors _ _).bind fun _ => (required_ownErrors _ _).bind fun _ => ?_
      exact (required_ownErrors _ _).bind fun _ => makeDefinition_ownErrors _ _ _ _
  · exact ownErrors_refuse _

theorem readSources_ownErrors (items : List Toml) :
    OwnErrors (readSources library classes items) := by
  induction items with
  | nil => exact ownErrors_ok _
  | cons item rest inductionHypothesis =>
      refine (readSourceDefinition_ownErrors item).bind fun _ => ?_
      exact inductionHypothesis.bind fun _ => ownErrors_ok _

theorem loadSourceRegistry_ownErrors (path : String) (payload : List (String × Toml)) :
    OwnErrors (loadSourceRegistry library classes path (.parsed payload)) := by
  simp only [loadSourceRegistry]
  split
  · exact ownErrors_refuse _
  · split
    · exact ownErrors_refuse _
    · next registryVersion _ =>
      have listed : OwnErrors (sourcesPayload payload) := by
        unfold sourcesPayload
        split
        · exact ownErrors_ok _
        · exact ownErrors_ok _
        · exact ownErrors_refuse _
      refine listed.bind fun items => (readSources_ownErrors items).bind fun sources => ?_
      unfold makeRegistry
      split
      · split
        · split
          · exact ownErrors_ok _
          · exact ownErrors_refuse _
        · exact ownErrors_refuse _
      · exact ownErrors_refuse _

/-! ## Reading a registry -/

theorem loadSourceRegistry_eq_ok {path : String} {payload : List (String × Toml)}
    {registry : SourceRegistryConfig classes} :
    loadSourceRegistry library classes path (.parsed payload) = .ok registry ↔
      Describes payload registry := by
  simp only [loadSourceRegistry]
  split
  · next unknown =>
    constructor
    · intro accepted
      cases accepted
    · intro describes
      exact absurd (unknownKeys_eq_nil.mpr describes.known) unknown
  · next known =>
    simp only [ne_eq, not_not] at known
    split
    · next missing =>
      constructor
      · intro accepted
        cases accepted
      · intro describes
        have version := describes.version
        rw [missing] at version
        cases version
    · next registryVersion given =>
      simp only [read_bind_eq_ok, sourcesPayload_eq_ok, readSources_eq_ok, makeRegistry_eq_ok]
      constructor
      · rintro ⟨items, isPayload, sources, describes, rfl, rfl⟩
        exact ⟨unknownKeys_eq_nil.mp known, given, items, isPayload, describes⟩
      · rintro ⟨_, version, items, isPayload, describes⟩
        rw [version] at given
        cases given
        exact ⟨items, isPayload, registry.sources, describes, rfl, rfl⟩

/-- The reader accepts exactly the payloads that describe a registry, and returns that
registry; of any other payload it raises its own error and no other one. -/
theorem registry_accepts_exactly (library : StandardLibrary) (classes : CharacterClasses)
    (path : String) (payload : List (String × Toml)) :
    (∀ registry, loadSourceRegistry library classes path (.parsed payload) = .ok registry ↔
        Describes payload registry) ∧
      ((∀ registry : SourceRegistryConfig classes, ¬ Describes payload registry) →
        ∃ message, loadSourceRegistry library classes path (.parsed payload) =
          .error (.config message)) := by
  refine ⟨fun registry => loadSourceRegistry_eq_ok, fun refused => ?_⟩
  cases outcome : loadSourceRegistry library classes path (.parsed payload) with
  | ok registry => exact absurd (loadSourceRegistry_eq_ok.mp outcome) (refused registry)
  | error raised =>
      obtain ⟨message, rfl⟩ := loadSourceRegistry_ownErrors path payload raised outcome
      exact ⟨message, rfl⟩

/-! ## Reading the listing -/

/-- The fields of the line of a source. -/
def sourceFields (source : SourceDefinition classes) : List (List Char) :=
  [ source.name.toList, (if source.enabled then "enabled" else "disabled").toList,
    source.identityStrategy.value.toList ]

/-- A name holds no white space. -/
theorem SourceDefinition.notMem_name (source : SourceDefinition classes) {character : Char}
    (isSpace : Text.isSpace character = true) (plain : character ≠ '_' ∧ character ≠ '-') :
    character ∉ source.name.toList := by
  intro member
  have isLetter := source.isName.2 character (List.mem_filter.mpr ⟨member, by simpa using plain⟩)
  rw [classes.notSpace character isSpace] at isLetter
  cases isLetter

/-- No field holds a separator. -/
theorem sourceFields_notMem (source : SourceDefinition classes) {separator : Char}
    (isSeparator : separator = '\t' ∨ separator = '\n') :
    ∀ field ∈ sourceFields source, separator ∉ field := by
  simp only [sourceFields, List.forall_mem_cons, List.not_mem_nil, false_imp_iff, implies_true,
    and_true]
  refine ⟨?_, ?_, ?_⟩
  · rcases isSeparator with rfl | rfl
    · exact source.notMem_name (by decide) (by decide)
    · exact source.notMem_name (by decide) (by decide)
  · rcases isSeparator with rfl | rfl <;> cases source.enabled <;> decide
  · rcases isSeparator with rfl | rfl <;> cases source.identityStrategy <;> decide

theorem fields_sourceLine (source : SourceDefinition classes) :
    ∃ line, sourceLine classes source = line ++ ['\n'] ∧ '\n' ∉ line ∧
      lines '\t' line = sourceFields source := by
  have noTab := sourceFields_notMem source (Or.inl rfl)
  have noNewline := sourceFields_notMem source (Or.inr rfl)
  simp only [sourceFields, List.forall_mem_cons] at noTab noNewline
  refine ⟨source.name.toList ++ '\t' :: ((if source.enabled then "enabled" else
    "disabled").toList ++ '\t' :: source.identityStrategy.value.toList), by simp [sourceLine], ?_, ?_⟩
  · simp [noNewline]
  · rw [lines_append_newline, lines_append_newline, lines_of_notMem noTab.1,
      lines_of_notMem noTab.2.1, lines_of_notMem noTab.2.2.1]
    rfl

theorem lines_listing (sources : List (SourceDefinition classes)) :
    ((lines '\n' (sources.flatMap (sourceLine classes))).dropLast.map (lines '\t')) =
        sources.map sourceFields ∧
      (lines '\n' (sources.flatMap (sourceLine classes))).getLast? = some [] := by
  induction sources with
  | nil => exact ⟨rfl, rfl⟩
  | cons source rest inductionHypothesis =>
      obtain ⟨line, isLine, inLine, fields⟩ := fields_sourceLine source
      have first : (source :: rest).flatMap (sourceLine classes) =
          line ++ '\n' :: rest.flatMap (sourceLine classes) := by
        rw [List.flatMap_cons, isLine, List.append_assoc]
        rfl
      have notEmpty := @lines_ne_nil _ _ '\n' (rest.flatMap (sourceLine classes))
      rw [first, lines_append_newline, lines_of_notMem inLine, List.singleton_append,
        List.dropLast_cons_of_ne_nil notEmpty, List.map_cons, List.map_cons, fields,
        inductionHypothesis.1]
      refine ⟨rfl, ?_⟩
      rw [List.getLast?_cons, inductionHypothesis.2]
      rfl

/-- `source list` prints a registry that reads back: of a described registry one line for
each source, from which its name, its state and its strategy are read, with code 0; of
any other payload nothing on standard output, with code 2. -/
theorem source_list_reads_back (library : StandardLibrary) (classes : CharacterClasses)
    (path : String) (payload : List (String × Toml)) :
    (∃ (registry : SourceRegistryConfig classes) (stdout : List Char),
      Describes payload registry ∧
        sourceList library classes path (.parsed payload) = .ok ⟨0, stdout, []⟩ ∧
          (lines '\n' stdout).dropLast.map (lines '\t') = registry.sources.map sourceFields) ∨
      (∀ registry : SourceRegistryConfig classes, ¬ Describes payload registry) ∧
        ∃ stderr, sourceList library classes path (.parsed payload) = .ok ⟨2, [], stderr⟩ := by
  cases outcome : loadSourceRegistry library classes path (.parsed payload) with
  | ok registry =>
      left
      refine ⟨registry, registry.sources.flatMap (sourceLine classes),
        loadSourceRegistry_eq_ok.mp outcome, ?_, (lines_listing registry.sources).1⟩
      rw [sourceList, outcome]
  | error raised =>
      right
      obtain ⟨message, rfl⟩ := loadSourceRegistry_ownErrors path payload raised outcome
      refine ⟨fun registry describes => ?_, _, by rw [sourceList, outcome]⟩
      rw [loadSourceRegistry_eq_ok.mpr describes] at outcome
      cases outcome

end Acceptance

/-- The ASCII letters and digits. -/
def asciiClasses : CharacterClasses where
  isAlnum character :=
    decide ((48 ≤ character.toNat ∧ character.toNat ≤ 57) ∨
      (65 ≤ character.toNat ∧ character.toNat ≤ 90) ∨
        (97 ≤ character.toNat ∧ character.toNat ≤ 122))
  notSpace character isSpace := by
    simp only [Text.isSpace, Bool.or_eq_true, Bool.and_eq_true, decide_eq_true_eq,
      beq_iff_eq] at isSpace
    apply decide_eq_false
    omega

example : asciiClasses.isAlnum 'a' = true ∧ asciiClasses.isAlnum '_' = false := ⟨rfl, rfl⟩

end ScraperProject.SourceRegistry
