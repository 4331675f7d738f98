import ScraperProject.Foundation.Lines
import ScraperProject.Foundation.Regex
import ScraperProject.Foundation.Text

/-!
Contract: `scraper_logging.setup._RedactingFilter`.

Owns the two patterns of the filter, what it does to a record, the headers and the
query parameters that the patterns look for, and what a match of each pattern is in
terms of them.

Does not own what the filter leaves of a whole message.
-/

namespace ScraperProject.ScraperLogging

open Foundation

/-! ## The patterns -/

/-- The letters beyond ASCII that `re.IGNORECASE` takes for an ASCII letter: the dotted
capital I and the dotless i, the long s and the Kelvin sign. -/
def foldedLetters : Char → List Char
  | 'i' => ['\u0130', '\u0131']
  | 's' => ['\u017f']
  | 'k' => ['\u212a']
  | _ => []

/-- The characters that a character of a pattern matches under `(?i)`. -/
def caseVariants (letter : Char) : List Char := letter :: letter.toUpper :: foldedLetters letter

def ignoringCase (text : String) : Regex Char :=
  .word (text.toList.map fun letter character => (caseVariants letter).contains character)

/-- `.` without `re.DOTALL`. -/
def isInLine (character : Char) : Bool := character != '\n'

/-- `[^&\s]`. -/
def isValueChar (character : Char) : Bool := character != '&' && !Text.isSpace character

/-- `$` without `re.MULTILINE`: at the end, or before a newline at the end. -/
def endOfText : Regex Char := .ahead fun rest => rest = [] || rest = ['\n']

def headerName : String := "authorization:"

/-- `(?i)(authorization:\s*)(.+)$`. -/
def headerPattern : Pattern Char where
  group := .seq (ignoringCase headerName) (.star Text.isSpace)
  body := .seq (.plus isInLine) endOfText
  isConsuming := rfl

/-- `(?i)([?&](?:token|api_key|password|secret)=)([^&\s]+)`. -/
def queryPattern : Pattern Char where
  group :=
    .seq (.char fun character => character = '?' || character = '&')
      (.seq
        (.alt (ignoringCase "token") (.alt (ignoringCase "api_key")
          (.alt (ignoringCase "password") (ignoringCase "secret"))))
        (.char fun character => character = '='))
  body := .plus isValueChar
  isConsuming := rfl

/-- `_patterns`. -/
def patterns : List (Pattern Char) := [headerPattern, queryPattern]

/-- `[REDACTED]`. -/
def redacted : List Char := "[REDACTED]".toList

/-- The substitutions of `filter`, one after the other. -/
def redact (message : List Char) : List Char :=
  patterns.foldl (fun message pattern => pattern.sub redacted message) message

/-! ## The filter -/

/-- What the filter reads and writes of a `logging.LogRecord`. -/
structure LogRecord (Argument : Type) where
  msg : String
  args : List Argument

/-- `getMessage`: `msg % args`, when there are arguments. -/
def LogRecord.getMessage {Argument : Type} (interpolate : String → List Argument → String)
    (record : LogRecord Argument) : String :=
  if record.args.isEmpty then record.msg else interpolate record.msg record.args

/-- `_RedactingFilter.filter`. -/
def filter {Argument : Type} (interpolate : String → List Argument → String)
    (record : LogRecord Argument) : Bool × LogRecord Argument :=
  let message := record.getMessage interpolate
  (true, { record with msg := String.ofList (redact message.toList), args := [] })

/-- The message of a filtered record is the redacted message. -/
theorem getMessage_filter {Argument : Type} (interpolate : String → List Argument → String)
    (record : LogRecord Argument) :
    (filter interpolate record).2.getMessage interpolate =
      String.ofList (redact (record.getMessage interpolate).toList) := rfl

theorem redact_eq (message : List Char) :
    redact message = queryPattern.sub redacted (headerPattern.sub redacted message) := rfl

/-! ## Headers and parameters -/

/-- The text is the word in some letter case. -/
def IsWord (word : String) (text : List Char) : Prop :=
  List.Forall₂ (fun letter character => character ∈ caseVariants letter) word.toList text

/-- An "authorization:" in some letter case. -/
def IsHeader (text : List Char) : Prop := IsWord headerName text

/-- The names of the redacted query parameters. -/
def keys : List String := ["token", "api_key", "password", "secret"]

/-- A mark, a name in some letter case, and "=". -/
def IsParameter (text : List Char) : Prop :=
  ∃ mark key name, text = mark :: (key ++ ['=']) ∧ (mark = '?' ∨ mark = '&') ∧ name ∈ keys ∧
    IsWord name key

/-- A parameter with a value starts here. -/
def StartsValue (text : List Char) : Prop :=
  ∃ parameter value rest, text = parameter ++ value :: rest ∧ IsParameter parameter ∧
    isValueChar value = true

/-- The text is at an end of a value: it is over, or goes on with "&" or white
space. -/
def EndsValue (text : List Char) : Prop :=
  ∀ character, text.head? = some character → isValueChar character = false

theorem matches_ignoringCase {word : String} {consumed last : List Char} :
    (ignoringCase word).Matches consumed last ↔ IsWord word consumed := by
  simp only [ignoringCase, Regex.matches_word, List.forall₂_map_left_iff, List.contains_iff_mem,
    IsWord]

/-- The characters of a word in any letter case. -/
theorem IsWord.mem {word : String} {text : List Char} (isWord : IsWord word text)
    {character : Char} (member : character ∈ text) :
    character ∈ word.toList.flatMap caseVariants := by
  unfold IsWord at isWord
  generalize word.toList = letters at isWord
  induction isWord with
  | nil => cases member
  | cons variant _ inductionHypothesis =>
      rw [List.flatMap_cons, List.mem_append]
      rcases List.mem_cons.mp member with rfl | later
      · exact Or.inl variant
      · exact Or.inr (inductionHypothesis later)

theorem header_chars : ∀ character ∈ headerName.toList.flatMap caseVariants,
    isValueChar character = true ∧ character ∉ ['?', '=', '[', ']'] := by
  -- As a check of the list: the characters are also a finite type, which is not enumerated.
  have checked : (headerName.toList.flatMap caseVariants).all (fun character =>
      decide (isValueChar character = true ∧ character ∉ ['?', '=', '[', ']'])) = true := by
    decide
  intro character member
  exact of_decide_eq_true (List.all_eq_true.mp checked character member)

theorem key_chars : ∀ name ∈ keys, ∀ character ∈ name.toList.flatMap caseVariants,
    isValueChar character = true ∧ character ∉ ['?', '=', '[', ']', ':'] := by
  have checked : (keys.all fun name => (name.toList.flatMap caseVariants).all fun character =>
      decide (isValueChar character = true ∧ character ∉ ['?', '=', '[', ']', ':'])) = true := by
    decide
  intro name listed character member
  exact of_decide_eq_true
    (List.all_eq_true.mp (List.all_eq_true.mp checked name listed) character member)

theorem IsHeader.chars {text : List Char} (isHeader : IsHeader text) {character : Char}
    (member : character ∈ text) :
    isValueChar character = true ∧ character ∉ ['?', '=', '[', ']'] :=
  header_chars character (isHeader.mem member)

/-- A character that ends a value is in no header. -/
theorem IsHeader.notMem_of_end {text : List Char} (isHeader : IsHeader text) {character : Char}
    (ends : isValueChar character = false) : character ∉ text := by
  intro member
  rw [(isHeader.chars member).1] at ends
  cases ends

theorem IsHeader.notMem {text : List Char} (isHeader : IsHeader text) {character : Char}
    (listed : character ∈ ['?', '=', '[', ']']) : character ∉ text :=
  fun member => (isHeader.chars member).2 listed

theorem forall₂_append_left {Left Right : Type} {Related : Left → Right → Prop}
    {first second : List Left} {items : List Right}
    (related : List.Forall₂ Related (first ++ second) items) :
    ∃ left right, items = left ++ right ∧ List.Forall₂ Related first left ∧
      List.Forall₂ Related second right := by
  induction first generalizing items with
  | nil => exact ⟨[], items, rfl, .nil, related⟩
  | cons head rest inductionHypothesis =>
      obtain ⟨item, others, isRelated, restRelated, rfl⟩ := List.forall₂_cons_left_iff.mp related
      obtain ⟨left, right, rfl, isFirst, isSecond⟩ := inductionHypothesis restRelated
      exact ⟨item :: left, right, rfl, .cons isRelated isFirst, isSecond⟩

/-- A header ends in its only colon. -/
theorem IsHeader.colon {text : List Char} (isHeader : IsHeader text) :
    ∃ name, text = name ++ [':'] ∧ ':' ∉ name := by
  have split : headerName.toList = "authorization".toList ++ [':'] := rfl
  have isWord : List.Forall₂ (fun letter character => character ∈ caseVariants letter)
      ("authorization".toList ++ [':']) text := split ▸ isHeader
  obtain ⟨name, colon, rfl, isName, isColon⟩ := forall₂_append_left isWord
  obtain ⟨character, _, variant, isNil, rfl⟩ := List.forall₂_cons_left_iff.mp isColon
  cases isNil
  have same : character = ':' := by simpa [caseVariants, foldedLetters] using variant
  refine ⟨name, by rw [same], fun member => ?_⟩
  have noColon : ':' ∉ "authorization".toList.flatMap caseVariants := by decide
  exact noColon (@IsWord.mem "authorization" name isName _ member)

theorem IsParameter.chars {text : List Char} (isParameter : IsParameter text) :
    ∃ mark key, text = mark :: (key ++ ['=']) ∧ (mark = '?' ∨ mark = '&') ∧
      ∀ character ∈ key, isValueChar character = true ∧
        character ∉ ['?', '=', '[', ']', ':'] := by
  obtain ⟨mark, key, name, rfl, isMark, listed, isWord⟩ := isParameter
  exact ⟨mark, key, rfl, isMark, fun character member =>
    key_chars name listed character (isWord.mem member)⟩

/-- A parameter holds no bracket. -/
theorem IsParameter.notMem {text : List Char} (isParameter : IsParameter text) {character : Char}
    (listed : character ∈ ['[', ']']) : character ∉ text := by
  obtain ⟨mark, key, rfl, isMark, keyChars⟩ := isParameter.chars
  have bracket : character ∈ ['?', '=', '[', ']', ':'] ∧ character ≠ '=' ∧ character ≠ '?' ∧
      character ≠ '&' := by
    simp only [List.mem_cons, List.not_mem_nil, or_false] at listed
    rcases listed with rfl | rfl <;> decide
  obtain ⟨isListed, notEquals, notQuestion, notAnd⟩ := bracket
  rintro (_ | ⟨_, member⟩)
  · exact isMark.elim notQuestion notAnd
  · rcases List.mem_append.mp member with inKey | isEquals
    · exact (keyChars character inKey).2 isListed
    · exact notEquals (List.mem_singleton.mp isEquals)

theorem IsParameter.equals_mem {text : List Char} (isParameter : IsParameter text) :
    '=' ∈ text := by
  obtain ⟨mark, key, rfl, _⟩ := isParameter.chars
  simp

/-- A parameter ends in its only "=", so that two at one place are the same. -/
theorem IsParameter.unique {first second rest others : List Char} (left : IsParameter first)
    (right : IsParameter second) (same : first ++ rest = second ++ others) : first = second := by
  obtain ⟨mark, key, rfl, isMark, keyChars⟩ := left.chars
  obtain ⟨other, otherKey, rfl, isOther, otherChars⟩ := right.chars
  have noEquals : '=' ∉ mark :: key := by
    rintro (_ | ⟨_, member⟩)
    · rcases isMark with isMark | isMark <;> cases isMark
    · exact (keyChars '=' member).2 (by decide)
  have noOther : '=' ∉ other :: otherKey := by
    rintro (_ | ⟨_, member⟩)
    · rcases isOther with isOther | isOther <;> cases isOther
    · exact (otherChars '=' member).2 (by decide)
  have split : (mark :: key) ++ '=' :: rest = (other :: otherKey) ++ '=' :: others := by
    simpa using same
  obtain ⟨rfl, rfl⟩ := List.cons.inj (cut_unique noEquals noOther split).1
  rfl

/-! ## Matches of the patterns -/

/-- A match of the header: white space is kept, and a non-empty end of the text, in one
line, is replaced. -/
theorem header_matchAt {text : List Char} {found : Found Char}
    (isFound : headerPattern.matchAt text = some found) :
    ∃ header spaces, found.kept = header ++ spaces ∧ IsHeader header ∧
      (∀ character ∈ spaces, Text.isSpace character = true) ∧ found.replaced ≠ [] ∧
        '\n' ∉ found.replaced ∧ (found.last = [] ∨ found.last = ['\n']) := by
  obtain ⟨_, group, _⟩ := Pattern.matchAt_eq_some isFound
  obtain ⟨header, spaces, isKept, isHeader, all⟩ := group
  obtain ⟨inLine, none, isReplaced, run, rfl, ends⟩ := Pattern.body_of_matchAt isFound
  obtain ⟨notEmpty, lineChars⟩ := Regex.matches_plus.mp run
  rw [List.append_nil] at isReplaced
  have isWord : IsWord headerName header := (@matches_ignoringCase headerName _ _).mp isHeader
  refine ⟨header, spaces, isKept, isWord, all, ?_, ?_, ?_⟩
  · rwa [isReplaced]
  · intro member
    have inClass := lineChars _ (isReplaced ▸ member)
    cases inClass
  · simpa using ends

/-- A header with something after it on the last line of the text matches. -/
theorem header_matches {header tail final : List Char} (isHeader : IsHeader header)
    (notEmpty : tail ≠ []) (inLine : '\n' ∉ tail) (isFinal : final = [] ∨ final = ['\n']) :
    ∃ found, headerPattern.matchAt (header ++ tail ++ final) = some found := by
  refine Pattern.matchAt_isSome_iff.mpr ⟨header, tail, final, rfl, ?_, ?_⟩
  · exact ⟨header, [], (List.append_nil _).symm,
      (@matches_ignoringCase headerName _ _).mpr isHeader, List.forall_mem_nil _⟩
  · refine ⟨tail, [], (List.append_nil _).symm, Regex.matches_plus.mpr ⟨notEmpty, ?_⟩, rfl, ?_⟩
    · intro character member
      have other : character ≠ '\n' := fun isNewline => inLine (isNewline ▸ member)
      simpa [isInLine] using other
    · simpa using isFinal

/-- A match of a parameter: a whole value is replaced. -/
theorem query_matchAt {text : List Char} {found : Found Char}
    (isFound : queryPattern.matchAt text = some found) :
    IsParameter found.kept ∧ found.replaced ≠ [] ∧
      (∀ character ∈ found.replaced, isValueChar character = true) ∧ EndsValue found.last := by
  obtain ⟨_, group, isHead⟩ := Pattern.matchAt_eq_some isFound
  obtain ⟨notEmpty, all, ends⟩ := Regex.head?_ends_plus isHead
  refine ⟨?_, notEmpty, all, ends⟩
  obtain ⟨_, _, isKept, ⟨mark, isMark, rfl⟩, key, _, rfl, isKey, equals, isEquals, rfl⟩ := group
  have sameEquals : equals = '=' := of_decide_eq_true isEquals
  subst sameEquals
  simp only [Regex.matches_alt, matches_ignoringCase] at isKey
  have named : ∃ name ∈ keys, IsWord name key := by
    rcases isKey with isWord | isWord | isWord | isWord
    · exact ⟨"token", by decide, isWord⟩
    · exact ⟨"api_key", by decide, isWord⟩
    · exact ⟨"password", by decide, isWord⟩
    · exact ⟨"secret", by decide, isWord⟩
  obtain ⟨name, listed, isWord⟩ := named
  exact ⟨mark, key, name, isKept, by simpa using isMark, listed, isWord⟩

/-- A parameter with a value matches, and nothing else does. -/
theorem query_matches_iff {text : List Char} :
    (∃ found, queryPattern.matchAt text = some found) ↔ StartsValue text := by
  constructor
  · rintro ⟨found, isFound⟩
    obtain ⟨isParameter, notEmpty, all, _⟩ := query_matchAt isFound
    have joined := (Pattern.matchAt_eq_some isFound).1
    cases isReplaced : found.replaced with
    | nil => exact absurd isReplaced notEmpty
    | cons value others =>
        refine ⟨found.kept, value, others ++ found.last, ?_, isParameter, ?_⟩
        · rw [joined, isReplaced, List.append_assoc]
          rfl
        · exact all value (isReplaced ▸ List.mem_cons_self)
  · rintro ⟨_, value, rest, rfl, ⟨mark, key, name, rfl, isMark, listed, isWord⟩, isValue⟩
    refine Pattern.matchAt_isSome_iff.mpr ⟨mark :: (key ++ ['=']), [value], rest, ?_, ?_, ?_⟩
    · simp
    · refine ⟨[mark], key ++ ['='], rfl, ⟨mark, by simpa using isMark, rfl⟩, key, ['='], rfl, ?_,
        '=', by decide, rfl⟩
      simp only [Regex.matches_alt, matches_ignoringCase]
      simp only [keys, List.mem_cons, List.not_mem_nil, or_false] at listed
      rcases listed with rfl | rfl | rfl | rfl
      · exact Or.inl isWord
      · exact Or.inr (Or.inl isWord)
      · exact Or.inr (Or.inr (Or.inl isWord))
      · exact Or.inr (Or.inr (Or.inr isWord))
    · exact Regex.matches_plus.mpr ⟨by simp, by simpa using isValue⟩

theorem query_matchAt_eq_none {text : List Char} :
    queryPattern.matchAt text = none ↔ ¬ StartsValue text := by
  rw [← query_matches_iff]
  cases queryPattern.matchAt text <;> simp

/-- White space ends every match of a parameter. -/
theorem query_sub_newline (text rest : List Char) :
    queryPattern.sub redacted (text ++ '\n' :: rest) =
      queryPattern.sub redacted text ++ '\n' :: queryPattern.sub redacted rest := by
  apply Pattern.sub_append_separator
  · decide
  · decide

end ScraperProject.ScraperLogging
