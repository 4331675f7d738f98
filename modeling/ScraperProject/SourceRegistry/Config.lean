import Mathlib.Data.List.Sort
import ScraperProject.StandardLibrary

/-!
Contract: `source_registry.config` and the command `source list`.

Owns the reader of a source registry with the checks of its two dataclasses in the
order of the source, and the listing that the command prints.

Does not own the syntax of TOML, nor why a file cannot be opened.
-/

namespace ScraperProject.SourceRegistry

open Foundation

/-! ## Payloads -/

/-- A value of `tomllib`. Nothing tells numbers, dates and times apart here. -/
inductive Toml where
  | str (value : String)
  | bool (value : Bool)
  | scalar
  | arr (items : List Toml)
  | table (entries : List (String × Toml))

/-- What opening and parsing a registry file comes to. -/
inductive ConfigFile where
  | notFound
  | unreadable
  | notUtf8
  | invalid
  | parsed (payload : List (String × Toml))

/-- What escapes: `SourceRegistryConfigError` with its message, any other `OSError`, and
the `UnicodeDecodeError` of a file that is not UTF-8. -/
inductive RegistryError where
  | config (message : String)
  | osError
  | unicodeDecodeError

/-- `str.isalnum` of one character. White space is not alphanumeric. -/
structure CharacterClasses where
  isAlnum : Char → Bool
  notSpace : ∀ character, Text.isSpace character = true → isAlnum character = false

def refuse {α : Type} (message : String) : Except RegistryError α := .error (.config message)

/-- `payload.get(key)`. -/
def lookup (entries : List (String × Toml)) (key : String) : Option Toml :=
  (entries.find? fun entry => entry.1 = key).map Prod.snd

/-- `sorted(set(value) - allowed)`. -/
def unknownKeys (allowed : List String) (entries : List (String × Toml)) : List String :=
  ((entries.map Prod.fst).filter fun key => key ∉ allowed).insertionSort fun left right =>
    ¬ right < left

/-! ## Sources -/

inductive IdentityStrategy where
  | stableSourceKey
  | deterministicUrlFallback
deriving DecidableEq

def IdentityStrategy.value : IdentityStrategy → String
  | .stableSourceKey => "stable_source_key"
  | .deterministicUrlFallback => "deterministic_url_fallback"

/-- `_IDENTITY_STRATEGIES`. -/
def identityStrategies : List IdentityStrategy := [.stableSourceKey, .deterministicUrlFallback]

/-- Without "_" and "-" the name is alphanumeric, and so not empty. -/
def IsName (classes : CharacterClasses) (name : String) : Prop :=
  let letters := name.toList.filter fun character => character ≠ '_' ∧ character ≠ '-'
  letters ≠ [] ∧ ∀ character ∈ letters, classes.isAlnum character = true

instance (classes : CharacterClasses) (name : String) : Decidable (IsName classes name) :=
  inferInstanceAs (Decidable (_ ∧ _))

/-- The fallback needs notes. -/
def NotesGiven (strategy : IdentityStrategy) (notes : Option String) : Prop :=
  strategy = .deterministicUrlFallback → ∃ text ∈ notes, text ≠ ""

instance (strategy : IdentityStrategy) (notes : Option String) :
    Decidable (NotesGiven strategy notes) := inferInstanceAs (Decidable (_ → _))

/-- `SourceDefinition`, with what its `__post_init__` checks. -/
@[ext] structure SourceDefinition (classes : CharacterClasses) where
  name : String
  enabled : Bool
  identityStrategy : IdentityStrategy
  identityNotes : Option String
  isName : IsName classes name
  notesGiven : NotesGiven identityStrategy identityNotes

section Readers

variable (library : StandardLibrary) (classes : CharacterClasses)

def readName : Toml → Except RegistryError { name : String // IsName classes name }
  | .str name =>
      if isName : IsName classes name then .ok ⟨name, isName⟩
      else refuse "source name must be non-empty and use letters, digits, _ or -"
  | _ => refuse "source name must be non-empty and use letters, digits, _ or -"

def readEnabled : Toml → Except RegistryError Bool
  | .bool enabled => .ok enabled
  | _ => refuse "enabled must be a boolean"

def readStrategy : Toml → Except RegistryError IdentityStrategy
  | .str value =>
      match identityStrategies.find? fun strategy => strategy.value = value with
      | some strategy => .ok strategy
      | none => refuse ("unsupported identity strategy " ++ library.repr value)
  | _ => refuse "identity_strategy must be a string"

def readNotes : Option Toml → Except RegistryError (Option String)
  | none => .ok none
  | some (.str notes) => .ok (some notes)
  | some _ => refuse "identity_notes must be a string or null"

/-- The constructor of `SourceDefinition` on unchecked values. -/
def makeDefinition (name enabled identityStrategy : Toml) (identityNotes : Option Toml) :
    Except RegistryError (SourceDefinition classes) := do
  let name ← readName classes name
  let enabled ← readEnabled enabled
  let identityStrategy ← readStrategy library identityStrategy
  let identityNotes ← readNotes identityNotes
  if notesGiven : NotesGiven identityStrategy identityNotes then
    .ok ⟨name.val, enabled, identityStrategy, identityNotes, name.property, notesGiven⟩
  else refuse "deterministic_url_fallback requires identity_notes"

/-- `value[key]`, where a `KeyError` is reported. -/
def required (entries : List (String × Toml)) (key : String) : Except RegistryError Toml :=
  match lookup entries key with
  | some value => .ok value
  | none => refuse ("missing required source key " ++ library.repr key)

def sourceKeys : List String := ["name", "enabled", "identity_strategy", "identity_notes"]

/-- `_read_source_definition`. -/
def readSourceDefinition : Toml → Except RegistryError (SourceDefinition classes)
  | .table entries =>
      if unknownKeys sourceKeys entries ≠ [] then
        refuse ("unsupported source configuration keys: " ++
          ", ".intercalate (unknownKeys sourceKeys entries))
      else do
        let name ← required library entries "name"
        let enabled ← required library entries "enabled"
        let identityStrategy ← required library entries "identity_strategy"
        makeDefinition library classes name enabled identityStrategy
          (lookup entries "identity_notes")
  | _ => refuse "each sources item must be a table"

def readSources : List Toml → Except RegistryError (List (SourceDefinition classes))
  | [] => .ok []
  | item :: rest => do
      let source ← readSourceDefinition library classes item
      let sources ← readSources rest
      .ok (source :: sources)

/-! ## Registries -/

/-- `SourceRegistryConfig`, with what its `__post_init__` checks. -/
@[ext] structure SourceRegistryConfig (classes : CharacterClasses) where
  registryVersion : String
  sources : List (SourceDefinition classes)
  isSupported : registryVersion = "0.1"
  isUnique : (sources.map SourceDefinition.name).Nodup

/-- The constructor of `SourceRegistryConfig`. -/
def makeRegistry (sources : List (SourceDefinition classes)) :
    Toml → Except RegistryError (SourceRegistryConfig classes)
  | .str registryVersion =>
      if isSupported : registryVersion = "0.1" then
        if isUnique : (sources.map SourceDefinition.name).Nodup then
          .ok ⟨registryVersion, sources, isSupported, isUnique⟩
        else refuse "source names must be unique"
      else refuse "unsupported registry_version; expected '0.1'"
  | _ => refuse "unsupported registry_version; expected '0.1'"

/-- `payload.get("sources", [])`. -/
def sourcesPayload (payload : List (String × Toml)) : Except RegistryError (List Toml) :=
  match lookup payload "sources" with
  | none => .ok []
  | some (.arr items) => .ok items
  | some _ => refuse "sources must be an array of tables"

def registryKeys : List String := ["registry_version", "sources"]

/-- `load_source_registry`. -/
def loadSourceRegistry (path : String) :
    ConfigFile → Except RegistryError (SourceRegistryConfig classes)
  | .notFound => refuse ("source registry not found: " ++ path)
  | .unreadable => .error .osError
  | .notUtf8 => .error .unicodeDecodeError
  | .invalid => refuse ("invalid TOML source registry: " ++ path)
  | .parsed payload =>
      if unknownKeys registryKeys payload ≠ [] then
        refuse ("unsupported registry keys: " ++
          ", ".intercalate (unknownKeys registryKeys payload))
      else
        match lookup payload "registry_version" with
        | none => refuse "missing required registry_version"
        | some registryVersion => do
            let items ← sourcesPayload payload
            let sources ← readSources library classes items
            makeRegistry classes sources registryVersion

/-! ## The command -/

/-- The line of `source list` for a source. -/
def sourceLine (source : SourceDefinition classes) : List Char :=
  source.name.toList ++ '\t' :: ((if source.enabled then "enabled" else "disabled").toList ++
    '\t' :: (source.identityStrategy.value.toList ++ ['\n']))

/-- The exit code of a command and what it prints. -/
structure CommandResult where
  code : Nat
  stdout : List Char
  stderr : List Char

/-- `_source_list`: other exceptions than that of the registry escape. -/
def sourceList (path : String) (file : ConfigFile) : Except RegistryError CommandResult :=
  match loadSourceRegistry library classes path file with
  | .ok registry => .ok ⟨0, registry.sources.flatMap (sourceLine classes), []⟩
  | .error (.config message) =>
      .ok ⟨2, [], ("source registry error: " ++ message ++ "\n").toList⟩
  | .error raised => .error raised

end Readers

end ScraperProject.SourceRegistry
