import ScraperProject.Foundation.Json
import ScraperProject.Foundation.Text

/-!
Contract: what the code takes from outside the repository.

Owns the parameters of the development: SHA-256, name-based identifiers, the
checks of network locations, the texts that `int` reads, ISO formats that the
repository never prints, and `repr`. The laws carried as fields are the documented ones: a digest prints as
64 lower-case hexadecimal digits, and distinct names have distinct identifiers,
which are never blank.

Does not own any value of these functions.
-/

namespace ScraperProject

open Foundation

def isHexDigit (character : Char) : Bool :=
  ('0' ≤ character && character ≤ '9') || ('a' ≤ character && character ≤ 'f')

/-- `re.fullmatch(r"^[0-9a-f]{64}$", text)`. -/
def isSha256Text (text : String) : Bool :=
  text.toList.length == 64 && text.toList.all isHexDigit

/-- A text in the form of a SHA-256 digest. -/
structure HexDigest where
  text : String
  form : isSha256Text text
deriving DecidableEq

structure StandardLibrary where
  /-- `sha256(content).hexdigest()`. -/
  sha256 : List UInt8 → HexDigest
  /-- `str(uuid5(NAMESPACE_URL, name))`. -/
  uuid5 : String → String
  uuid5_injective : Function.Injective uuid5
  uuid5_notBlank : ∀ name, Text.isBlank (uuid5 name) = false
  /-- The checks of `urlsplit` on bracketed hosts and Unicode normalisation. -/
  netlocRefused : List Char → Bool
  /-- `int(text)` returns. -/
  isInteger : List Char → Bool
  /-- `datetime.fromisoformat` outside the extended format: wall-clock
  microseconds and the offset of an aware value. -/
  otherIsoFormat : List Char → Option (Nat × Option Int)
  /-- `repr(text)`. -/
  repr : String → String

end ScraperProject
