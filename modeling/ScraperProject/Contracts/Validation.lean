import ScraperProject.Database.Timestamp
import ScraperProject.StandardLibrary

/-!
Contract: `contracts.validation` on values of their declared types.

Owns the field checks that the dataclasses of `contracts.models` make, each
with the message that names its field, and the reader of UTC timestamps.

Does not own the checks of untyped payloads: a value here already has the type
that its dataclass declares, so the `isinstance` tests of the source succeed.
-/

namespace ScraperProject.Contracts

open Foundation
open Database

/-- `CONTRACT_VERSION`. -/
def contractVersion : String := "0.1"

/-- `_SENSITIVE_KEY_PARTS`. -/
def sensitiveKeyParts : List String :=
  ["password", "secret", "token", "cookie", "authorization", "api_key"]

def contractError {α : Type} (message : String) : Except PyError α :=
  .error (.contractValidation message)

def requireText (value fieldName : String) : Except PyError Unit :=
  if Text.isBlank value then contractError (fieldName ++ " must be a non-empty string")
  else .ok ()

/-- A `Datetime` is timezone-aware, so only the offset is left to check. -/
def requireUtcTimestamp (value : Datetime) (fieldName : String) : Except PyError Unit :=
  if value.offset ≠ 0 then contractError (fieldName ++ " must use UTC")
  else .ok ()

def requireHttpUrl (library : StandardLibrary) (value fieldName : String) :
    Except PyError Unit := do
  requireText value fieldName
  match Text.urlsplit library.netlocRefused value.toList with
  | none => .error .invalidUrl
  | some parsed =>
      if ¬ ["http".toList, "https".toList].contains parsed.scheme ∨ parsed.netloc.isEmpty then
        contractError (fieldName ++ " must be an absolute HTTP(S) URL")
      else .ok ()

/-- `value.split(".", 1)[0]`. -/
def majorVersion (value : String) : String :=
  String.ofList (value.toList.takeWhile (· != '.'))

def requireContractVersion (library : StandardLibrary) (value : String) :
    Except PyError Unit := do
  requireText value "contract_version"
  if majorVersion value ≠ majorVersion contractVersion then
    contractError ("unsupported contract major version " ++ library.repr (majorVersion value) ++
      "; supported major is " ++ library.repr (majorVersion contractVersion))
  else .ok ()

def requireSha256 (value fieldName : String) : Except PyError Unit :=
  if isSha256Text value then .ok ()
  else contractError (fieldName ++ " must be a lowercase SHA-256 hex digest")

def requireNonNegativeInt (value : Int) (fieldName : String) : Except PyError Unit :=
  if value < 0 then contractError (fieldName ++ " must be a non-negative integer")
  else .ok ()

def isSensitiveKey (key : String) : Bool :=
  sensitiveKeyParts.any fun part => Text.containsText part.toList (Text.lower key.toList)

mutual

def rejectSensitiveKeys (library : StandardLibrary) (fieldName : String) :
    Json → Except PyError Unit
  | .obj entries => rejectSensitiveEntries library fieldName entries
  | .arr items => rejectSensitiveItems library fieldName items
  | _ => .ok ()

def rejectSensitiveItems (library : StandardLibrary) (fieldName : String) :
    List Json → Except PyError Unit
  | [] => .ok ()
  | item :: rest => do
      rejectSensitiveKeys library fieldName item
      rejectSensitiveItems library fieldName rest

def rejectSensitiveEntries (library : StandardLibrary) (fieldName : String) :
    List (String × Json) → Except PyError Unit
  | [] => .ok ()
  | (key, value) :: rest => do
      if isSensitiveKey key then
        contractError (fieldName ++ " must not contain sensitive key " ++ library.repr key)
      rejectSensitiveKeys library (fieldName ++ "." ++ key) value
      rejectSensitiveEntries library fieldName rest

end

/-- `value.replace("Z", "+00:00")`. -/
def expandZulu (text : List Char) : List Char :=
  text.flatMap fun character => if character = 'Z' then "+00:00".toList else [character]

def fromisoformat (library : StandardLibrary) (text : List Char) : Option (Nat × Option Int) :=
  match IsoText.parseIso? text with
  | some parsed => some parsed
  | none => library.otherIsoFormat text

def parseUtcTimestamp (library : StandardLibrary) (value fieldName : String) :
    Except PyError Datetime :=
  match fromisoformat library (expandZulu value.toList) with
  | none => contractError (fieldName ++ " must be an ISO-8601 timestamp string")
  | some (_, none) => contractError (fieldName ++ " must be a timezone-aware UTC timestamp")
  | some (wall, some offset) =>
      if inRange : wall < IsoText.maxMicros ∧ -86400000000 < offset ∧ offset < 86400000000 then do
        let parsed : Datetime :=
          { wall := wall, offset := offset, wallInRange := inRange.1, offsetInRange := inRange.2 }
        requireUtcTimestamp parsed fieldName
        return parsed
      else contractError (fieldName ++ " must be an ISO-8601 timestamp string")

end ScraperProject.Contracts
