/-!
Contract: the string operations of the source language on character lists.

Owns white space, blankness after `strip`, the lower-case letters that matter
for comparison with ASCII texts, substring search, the scheme, network location
and host of a URL as `urllib.parse` splits them, and the host that
`urllib.request` and `http.client` read from it, which may be another.

Does not own Unicode normalisation or the syntax of IPv6 literals: the checks
that `urlsplit` makes on them are a parameter.
-/

namespace ScraperProject.Foundation.Text

/-! ## White space and case -/

/-- The characters that `str.isspace` accepts and `str.strip` removes. -/
def isSpace (character : Char) : Bool :=
  let code := character.toNat
  (9 ≤ code && code ≤ 13) || (28 ≤ code && code ≤ 32) || code == 0x85 || code == 0xA0 ||
    code == 0x1680 || (0x2000 ≤ code && code ≤ 0x200A) || code == 0x2028 || code == 0x2029 ||
    code == 0x202F || code == 0x205F || code == 0x3000

/-- `not text.strip()`. -/
def isBlank (text : String) : Bool := text.toList.all isSpace

/-- `str.lower` of one character. Besides A to Z only the Kelvin sign and the
dotted capital I have a lower-case form that holds an ASCII letter; every other
character is kept, which no comparison with an ASCII text can tell apart. -/
def lowerChar (character : Char) : List Char :=
  if 'A' ≤ character ∧ character ≤ 'Z' then [Char.ofNat (character.toNat + 32)]
  else if character.toNat = 0x212A then ['k']
  else if character.toNat = 0x130 then ['i', Char.ofNat 0x307]
  else [character]

def lower (text : List Char) : List Char := text.flatMap lowerChar

/-- `part in text`. -/
def containsText (part : List Char) : List Char → Bool
  | [] => part.isEmpty
  | character :: rest => part.isPrefixOf (character :: rest) || containsText part rest

/-- `part in text` is the infix relation. -/
theorem containsText_iff {part text : List Char} : containsText part text ↔ part <:+: text := by
  induction text with
  | nil => simp [containsText]
  | cons character rest inductionHypothesis =>
      rw [containsText, Bool.or_eq_true, List.isPrefixOf_iff_prefix, inductionHypothesis,
        List.infix_cons_iff]

/-! ## URLs -/

/-- The parts of a split URL that the callers read. -/
structure SplitUrl where
  scheme : List Char
  netloc : List Char
deriving DecidableEq, Repr

def isSchemeChar (character : Char) : Bool :=
  ('a' ≤ character && character ≤ 'z') || ('A' ≤ character && character ≤ 'Z') ||
    ('0' ≤ character && character ≤ '9') || character == '+' || character == '-' ||
    character == '.'

def isAsciiLetter (character : Char) : Bool :=
  ('a' ≤ character && character ≤ 'z') || ('A' ≤ character && character ≤ 'Z')

/-- Scheme and rest: the text before the first colon, when it starts with a
letter and holds scheme characters only. -/
def splitScheme (url : List Char) : List Char × List Char :=
  let front := url.takeWhile (· != ':')
  if front.length < url.length ∧ (front.head?.any isAsciiLetter) ∧ front.all isSchemeChar then
    (lower front, url.drop (front.length + 1))
  else ([], url)

/-- `urllib.parse.urlsplit`. `netlocRefused` stands for the checks of bracketed
hosts and of Unicode normalisation; `none` is its `ValueError`. -/
def urlsplit (netlocRefused : List Char → Bool) (url : List Char) : Option SplitUrl :=
  let url := url.dropWhile (fun character => character.toNat ≤ 32)
  let url := url.filter fun character =>
    character != '\t' && character != '\r' && character != '\n'
  let (scheme, rest) := splitScheme url
  let netloc :=
    match rest with
    | '/' :: '/' :: location =>
        location.takeWhile fun character =>
          character != '/' && character != '?' && character != '#'
    | _ => []
  if netloc.contains '[' != netloc.contains ']' then none
  else if netlocRefused netloc then none
  else some { scheme := scheme, netloc := netloc }

/-- What is split when no host is refused is split when this one is not. -/
theorem urlsplit_accepts {refused : List Char → Bool} {url : List Char} {parsed : SplitUrl}
    (split : urlsplit (fun _ => false) url = some parsed)
    (accepted : refused parsed.netloc = false) : urlsplit refused url = some parsed := by
  revert split
  unfold urlsplit
  dsimp only
  -- the refusal is asked about the one location that is found
  generalize (match (splitScheme _).2 with
    | '/' :: '/' :: location => List.takeWhile _ location
    | _ => []) = netloc
  intro split
  by_cases unbalanced : (netloc.contains '[' != netloc.contains ']') = true
  · rw [if_pos unbalanced] at split
    cases split
  · rw [if_neg unbalanced, if_neg (by decide)] at split
    cases split
    rw [if_neg unbalanced, accepted]
    rfl

/-- The text after the last occurrence of a character, or the whole text. -/
def afterLast (separator : Char) (text : List Char) : List Char :=
  (text.reverse.takeWhile (· != separator)).reverse

/-- `SplitResult.hostname`: without user information and port, in lower case up
to a zone mark. -/
def SplitUrl.hostname (url : SplitUrl) : Option (List Char) :=
  let hostinfo := afterLast '@' url.netloc
  let host :=
    if hostinfo.contains '[' then
      ((hostinfo.dropWhile (· != '[')).drop 1).takeWhile (· != ']')
    else hostinfo.takeWhile (· != ':')
  if host.isEmpty then none
  else some (lower (host.takeWhile (· != '%')) ++ host.dropWhile (· != '%'))

example : (urlsplit (fun _ => false) "http://localhost:8080/listing.json".toList).bind
    SplitUrl.hostname = some "localhost".toList := by decide

/-! ## Percent encoding -/

def hexValue (digit : Char) : Option Nat :=
  if '0' ≤ digit ∧ digit ≤ '9' then some (digit.toNat - 48)
  else if 'a' ≤ digit ∧ digit ≤ 'f' then some (digit.toNat - 87)
  else if 'A' ≤ digit ∧ digit ≤ 'F' then some (digit.toNat - 55)
  else none

/-- `urllib.parse.unquote_to_bytes` of an ASCII text. -/
def unquoteToBytes : List Char → List Nat
  | '%' :: high :: low :: rest =>
      match hexValue high, hexValue low with
      | some first, some second => (16 * first + second) :: unquoteToBytes rest
      | _, _ => '%'.toNat :: unquoteToBytes (high :: low :: rest)
  | character :: rest => character.toNat :: unquoteToBytes rest
  | [] => []

/-- The bytes that a UTF-8 sequence still needs, the bounds of the next one, and the
value so far. -/
structure Utf8Tail where
  missing : Nat
  low : Nat
  high : Nat
  value : Nat

def replacementCharacter : Char := Char.ofNat 0xFFFD

/-- The first byte of a sequence. -/
def startUtf8 (byte : Nat) : List Char × Option Utf8Tail :=
  if byte < 0x80 then ([Char.ofNat byte], none)
  else if 0xC2 ≤ byte ∧ byte ≤ 0xDF then ([], some ⟨1, 0x80, 0xBF, byte - 0xC0⟩)
  else if 0xE0 ≤ byte ∧ byte ≤ 0xEF then
    ([], some ⟨2, if byte = 0xE0 then 0xA0 else 0x80, if byte = 0xED then 0x9F else 0xBF,
      byte - 0xE0⟩)
  else if 0xF0 ≤ byte ∧ byte ≤ 0xF4 then
    ([], some ⟨3, if byte = 0xF0 then 0x90 else 0x80, if byte = 0xF4 then 0x8F else 0xBF,
      byte - 0xF0⟩)
  else ([replacementCharacter], none)

/-- `bytes.decode("utf-8", "replace")`: a sequence that breaks off is replaced as a
whole, and the byte that breaks it starts the next one. -/
def decodeReplacing : Option Utf8Tail → List Nat → List Char
  | none, [] => []
  | some _, [] => [replacementCharacter]
  | none, byte :: rest => (startUtf8 byte).1 ++ decodeReplacing (startUtf8 byte).2 rest
  | some tail, byte :: rest =>
      if tail.low ≤ byte ∧ byte ≤ tail.high then
        let value := 64 * tail.value + (byte - 0x80)
        if tail.missing = 1 then Char.ofNat value :: decodeReplacing none rest
        else decodeReplacing (some ⟨tail.missing - 1, 0x80, 0xBF, value⟩) rest
      else
        replacementCharacter :: (startUtf8 byte).1 ++ decodeReplacing (startUtf8 byte).2 rest

def isAscii (character : Char) : Bool := character.toNat < 128

/-- `urllib.parse.unquote`: the ASCII parts of the text are decoded, each on its own. -/
def unquote (text : List Char) : List Char :=
  (text.splitBy fun left right => isAscii left == isAscii right).flatMap fun part =>
    if part.head?.any isAscii then decodeReplacing none (unquoteToBytes part) else part

/-! ## Requests -/

/-- `str.strip`. -/
def strip (text : List Char) : List Char :=
  ((text.dropWhile isSpace).reverse.dropWhile isSpace).reverse

/-- `urllib.parse.unwrap`. -/
def unwrap (url : List Char) : List Char :=
  let url := strip url
  let url :=
    if url.head? = some '<' ∧ url.getLast? = some '>' then strip (url.drop 1).dropLast else url
  if "URL:".toList.isPrefixOf url then strip (url.drop 4) else url

/-- `urllib.parse._splittag`, without the tag. -/
def splitTag (url : List Char) : List Char :=
  if url.contains '#' then ((url.reverse.dropWhile (· != '#')).drop 1).reverse else url

/-- `urllib.parse._splittype`. -/
def splitType (url : List Char) : Option (List Char × List Char) :=
  let front := url.takeWhile fun character => character != ':' && character != '/'
  match front, url.drop front.length with
  | _ :: _, ':' :: rest => some (lower front, rest)
  | _, _ => none

/-- `urllib.parse._splithost`: the network location and the selector. -/
def splitHost : List Char → Option (List Char × List Char)
  | '/' :: '/' :: location =>
      let host := location.takeWhile fun character =>
        character != '/' && character != '#' && character != '?'
      match location.drop host.length with
      | [] => some (host, [])
      | '/' :: path => some (host, '/' :: path)
      | path => some (host, '/' :: path)
  | _ => none

def unbracketed (host : List Char) : List Char :=
  if host.head? = some '[' ∧ host.getLast? = some ']' then (host.drop 1).dropLast else host

/-- `HTTPConnection._get_hostport`: what stands before the last colon, when it is after
the last bracket. `isInteger` stands for `int`; `none` is the `InvalidURL` of a port that
is no number. -/
def getHostPort (isInteger : List Char → Bool) (host : List Char) : Option (List Char) :=
  let port := afterLast ':' host
  if host.contains ':' ∧ ¬ port.contains ']' then
    if port.isEmpty ∨ isInteger port then
      some (unbracketed (host.take (host.length - (port.length + 1))))
    else none
  else some (unbracketed host)

def isControl (character : Char) : Bool := character.toNat ≤ 32 || character.toNat == 127

/-- A line break of a header value that is not folded. -/
def breaksHeader : List Char → Bool
  | '\n' :: rest =>
      !(rest.head?.any fun next => next == ' ' || next == '\t') || breaksHeader rest
  | '\r' :: rest =>
      !(rest.head?.any fun next => next == ' ' || next == '\t' || next == '\n') ||
        breaksHeader rest
  | _ :: rest => breaksHeader rest
  | [] => false

/-- What `HTTPConnection` refuses to send before it connects: control characters in the
host or the selector, a selector outside ASCII, and a `Host` header outside Latin-1 or
with a line break. -/
def requestRefused (netloc host selector : List Char) : Bool :=
  host.any isControl || selector.any (fun character => isControl character || !isAscii character) ||
    netloc.any (fun character => 256 ≤ character.toNat) || breaksHeader netloc

end ScraperProject.Foundation.Text
