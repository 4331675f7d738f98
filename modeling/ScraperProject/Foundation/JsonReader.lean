import Mathlib.Data.List.TakeWhile
import ScraperProject.Foundation.Json

/-!
Contract: `json.loads` on the texts that `json.dumps` prints.

Owns the reader of strings, numbers and nested values, and the round trip: a
serialised value reads back as itself with sorted keys.

Does not own the exact number grammar of JSON: a number is read as one run of
token characters. Lone surrogates are refused, since a text here is a sequence
of Unicode scalar values.
-/

namespace ScraperProject.Foundation.Json

open Digits

/-! ## Reading strings -/

def hexValue? (character : Char) : Option Nat :=
  if '0' ≤ character ∧ character ≤ '9' then some (character.toNat - 48)
  else if 'a' ≤ character ∧ character ≤ 'f' then some (character.toNat - 87)
  else if 'A' ≤ character ∧ character ≤ 'F' then some (character.toNat - 55)
  else none

/-- The value of four hexadecimal digits and the text after them. -/
def readUnit : List Char → Option (Nat × List Char)
  | first :: second :: third :: fourth :: rest => do
      let first ← hexValue? first
      let second ← hexValue? second
      let third ← hexValue? third
      let fourth ← hexValue? fourth
      some (((first * 16 + second) * 16 + third) * 16 + fourth, rest)
  | _ => none

/-- The character after `\u`: one unit, or a surrogate pair. -/
def readUnicode (text : List Char) : Option (Char × List Char) := do
  let (unit, rest) ← readUnit text
  if unit < 0xD800 ∨ 0xDFFF < unit then some (Char.ofNat unit, rest)
  else if unit ≤ 0xDBFF then
    match rest with
    | '\\' :: 'u' :: rest => do
        let (low, rest) ← readUnit rest
        if 0xDC00 ≤ low ∧ low ≤ 0xDFFF then
          some (Char.ofNat (0x10000 + (unit - 0xD800) * 0x400 + (low - 0xDC00)), rest)
        else none
    | _ => none
  else none

def readEscape : List Char → Option (Char × List Char)
  | '"' :: rest => some ('"', rest)
  | '\\' :: rest => some ('\\', rest)
  | '/' :: rest => some ('/', rest)
  | 'n' :: rest => some ('\n', rest)
  | 'r' :: rest => some ('\r', rest)
  | 't' :: rest => some ('\t', rest)
  | 'f' :: rest => some (Char.ofNat 12, rest)
  | 'b' :: rest => some (Char.ofNat 8, rest)
  | 'u' :: rest => readUnicode rest
  | _ => none

/-- The characters up to the closing quote. -/
def readString : Nat → List Char → Option (List Char × List Char)
  | 0, _ => none
  | _ + 1, [] => none
  | fuel + 1, character :: rest =>
      if character = '"' then some ([], rest)
      else if character = '\\' then do
        let (escaped, rest) ← readEscape rest
        let (text, rest) ← readString fuel rest
        some (escaped :: text, rest)
      else if character.toNat < 32 then none
      else do
        let (text, rest) ← readString fuel rest
        some (character :: text, rest)

/-! ## Reading values -/

def isJsonSpace (character : Char) : Bool :=
  character == ' ' || character == '\t' || character == '\n' || character == '\r'

def skipSpace (text : List Char) : List Char := text.dropWhile isJsonSpace

/-- One token is an integer or, failing that, a floating-point number. -/
def numberOfToken? (token : List Char) (run : token.all isTokenChar) : Option Json :=
  match read : readInt token with
  | some value => some (.int value)
  | none =>
      if starts : token.head?.any startsNumber then
        some (.float { text := token, starts := starts, token := run, notInteger := read })
      else none

def readNumber (text : List Char) : Option (Json × List Char) :=
  (numberOfToken? (text.takeWhile isTokenChar) List.all_takeWhile).map fun number =>
    (number, text.dropWhile isTokenChar)

mutual

/-- One value and the text after it. -/
def readValue : Nat → List Char → Option (Json × List Char)
  | 0, _ => none
  | fuel + 1, text =>
      match skipSpace text with
      | '"' :: rest =>
          (readString (rest.length + 1) rest).map fun read =>
            (.str (String.ofList read.1), read.2)
      | '[' :: rest =>
          match skipSpace rest with
          | ']' :: rest => some (.arr [], rest)
          | rest => (readItems fuel rest).map fun read => (.arr read.1, read.2)
      | '\x7b' :: rest =>
          match skipSpace rest with
          | '\x7d' :: rest => some (.obj [], rest)
          | rest => (readEntries fuel rest).map fun read => (.obj read.1, read.2)
      | 'n' :: 'u' :: 'l' :: 'l' :: rest => some (.null, rest)
      | 't' :: 'r' :: 'u' :: 'e' :: rest => some (.bool true, rest)
      | 'f' :: 'a' :: 'l' :: 's' :: 'e' :: rest => some (.bool false, rest)
      | rest => readNumber rest

/-- The items of an array up to its closing bracket. -/
def readItems : Nat → List Char → Option (List Json × List Char)
  | 0, _ => none
  | fuel + 1, text => do
      let (item, rest) ← readValue fuel text
      match skipSpace rest with
      | ',' :: rest => do
          let (items, rest) ← readItems fuel rest
          some (item :: items, rest)
      | ']' :: rest => some ([item], rest)
      | _ => none

/-- The entries of a dictionary up to its closing brace. -/
def readEntries : Nat → List Char → Option (List (String × Json) × List Char)
  | 0, _ => none
  | fuel + 1, text =>
      match skipSpace text with
      | '"' :: rest => do
          let (key, rest) ← readString (rest.length + 1) rest
          match skipSpace rest with
          | ':' :: rest => do
              let (value, rest) ← readValue fuel rest
              match skipSpace rest with
              | ',' :: rest => do
                  let (entries, rest) ← readEntries fuel rest
                  some ((String.ofList key, value) :: entries, rest)
              | '\x7d' :: rest => some ([(String.ofList key, value)], rest)
              | _ => none
          | _ => none
      | _ => none

end

/-- `json.loads(text)`: one value and nothing but spaces after it. -/
def loads (text : List Char) : Option Json :=
  match readValue (text.length + 1) text with
  | some (value, rest) => if skipSpace rest = [] then some value else none
  | none => none

example : (loads (dumps .spaced (.obj [("b", .int (-12)), ("a", .arr [.str "x\n", .null])]))).map
    (dumps .compact) = some "\x7b\"a\":[\"x\\n\",null],\"b\":-12\x7d".toList := by decide +kernel

/-! ## Round trip of strings -/

theorem hexValue?_digitChar {digit : Nat} (isDigit : digit < 16) :
    hexValue? (Nat.digitChar digit) = some digit := by
  interval_cases digit <;> decide

theorem readUnit_hexWidth {unit : Nat} (bounded : unit < 0x10000) (rest : List Char) :
    readUnit (hexWidth 4 unit ++ rest) = some (unit, rest) := by
  have digit : ∀ value : Nat, hexValue? (Nat.digitChar (value % 16)) = some (value % 16) :=
    fun value => hexValue?_digitChar (Nat.mod_lt _ (by decide))
  simp only [hexWidth, List.nil_append, List.cons_append, readUnit, digit, Option.bind_eq_bind,
    Option.bind_some, Option.some.injEq, Prod.mk.injEq, and_true]
  omega

theorem toNat_valid (character : Char) :
    character.toNat < 0xD800 ∨ (0xDFFF < character.toNat ∧ character.toNat < 0x110000) :=
  character.valid

theorem readUnicode_basic {character : Char} (basic : character.toNat < 0x10000)
    (rest : List Char) :
    readUnicode (hexWidth 4 character.toNat ++ rest) = some (character, rest) := by
  have scalar : character.toNat < 0xD800 ∨ 0xDFFF < character.toNat := by
    have valid := toNat_valid character
    omega
  simp only [readUnicode, readUnit_hexWidth basic, Option.bind_eq_bind, Option.bind_some,
    if_pos scalar, Char.ofNat_toNat]

theorem readUnicode_pair {character : Char} {high low : Nat}
    (highRange : 0xD800 ≤ high ∧ high ≤ 0xDBFF) (lowRange : 0xDC00 ≤ low ∧ low ≤ 0xDFFF)
    (whole : 0x10000 + (high - 0xD800) * 0x400 + (low - 0xDC00) = character.toNat)
    (rest : List Char) :
    readUnicode (hexWidth 4 high ++ (escapeUnit low ++ rest)) = some (character, rest) := by
  have surrogate : ¬ (high < 0xD800 ∨ 0xDFFF < high) := by omega
  simp only [readUnicode, readUnit_hexWidth (show high < 0x10000 by omega),
    Option.bind_eq_bind, Option.bind_some, if_neg surrogate, if_pos highRange.2, escapeUnit,
    List.cons_append, readUnit_hexWidth (show low < 0x10000 by omega), if_pos lowRange, whole,
    Char.ofNat_toNat]

/-- The characters that a quoted text escapes by one letter. -/
theorem readString_letter {letter character : Char} {fuel : Nat} {rest : List Char}
    (escape : readEscape (letter :: rest) = some (character, rest)) :
    readString (fuel + 1) ('\\' :: letter :: rest) =
      (readString fuel rest).map fun read => (character :: read.1, read.2) := by
  have notQuote : '\\' ≠ '"' := by decide
  rw [readString, if_neg notQuote, if_pos rfl, escape]
  simp only [Option.bind_eq_bind, Option.bind_some]
  cases readString fuel rest <;> rfl

theorem readString_escapeChar (character : Char) (fuel : Nat) (rest : List Char) :
    readString (fuel + 1) (escapeChar character ++ rest) =
      (readString fuel rest).map fun read => (character :: read.1, read.2) := by
  have unicode : ∀ text, readUnicode text = some (character, rest) →
      readString (fuel + 1) ('\\' :: 'u' :: text) =
        (readString fuel rest).map fun read => (character :: read.1, read.2) := by
    intro text read
    have notQuote : '\\' ≠ '"' := by decide
    have escape : readEscape ('u' :: text) = some (character, rest) := read
    rw [readString, if_neg notQuote, if_pos rfl, escape]
    simp only [Option.bind_eq_bind, Option.bind_some]
    cases readString fuel rest <;> rfl
  have ofCode : ∀ code, character.toNat = code → character = Char.ofNat code := by
    intro code same
    rw [← same, Char.ofNat_toNat]
  unfold escapeChar
  split_ifs with quotation backslash newline carriage tab feed back plain basic
  · rw [quotation]
    exact readString_letter rfl
  · rw [backslash]
    exact readString_letter rfl
  · rw [newline]
    exact readString_letter rfl
  · rw [carriage]
    exact readString_letter rfl
  · rw [tab]
    exact readString_letter rfl
  · rw [ofCode 12 feed]
    exact readString_letter rfl
  · rw [ofCode 8 back]
    exact readString_letter rfl
  · rw [List.singleton_append, readString, if_neg quotation, if_neg backslash,
      if_neg (by omega)]
    cases readString fuel rest <;> rfl
  · rw [escapeUnit, List.cons_append, List.cons_append]
    exact unicode _ (readUnicode_basic basic rest)
  · have valid := toNat_valid character
    rw [List.append_assoc]
    exact unicode _ (readUnicode_pair ⟨by omega, by omega⟩ ⟨by omega, by omega⟩ (by omega) rest)

theorem readString_flatMap (text rest : List Char) {fuel : Nat} (enough : text.length < fuel) :
    readString fuel (text.flatMap escapeChar ++ '"' :: rest) = some (text, rest) := by
  induction text generalizing fuel with
  | nil =>
      obtain ⟨smaller, rfl⟩ := Nat.exists_eq_add_one.mpr enough
      rw [List.flatMap_nil, List.nil_append, readString, if_pos rfl]
  | cons character text inductionHypothesis =>
      obtain ⟨smaller, rfl⟩ := Nat.exists_eq_add_one.mpr (Nat.zero_lt_of_lt enough)
      rw [List.flatMap_cons, List.append_assoc, readString_escapeChar,
        inductionHypothesis (by simpa using enough)]
      rfl

theorem length_le_flatMap_escapeChar (text : List Char) :
    text.length ≤ (text.flatMap escapeChar).length := by
  induction text with
  | nil => simp
  | cons character text inductionHypothesis =>
      have nonempty : 1 ≤ (escapeChar character).length := by
        unfold escapeChar
        split_ifs <;> simp [escapeUnit]
      simp only [List.length_cons, List.flatMap_cons, List.length_append]
      omega

/-- The reader after an opening quote. -/
theorem readString_quoted (text : String) (rest : List Char) :
    readString ((text.toList.flatMap escapeChar ++ '"' :: rest).length + 1)
      (text.toList.flatMap escapeChar ++ '"' :: rest) = some (text.toList, rest) := by
  apply readString_flatMap
  have long := length_le_flatMap_escapeChar text.toList
  simp only [List.length_append]
  omega

/-! ## Round trip of numbers -/

theorem readDigits_toDigits (value : Nat) : readDigits 0 (Nat.toDigits 10 value) = some value := by
  induction value using Nat.strongRecOn with
  | ind value inductionHypothesis =>
      by_cases small : value < 10
      · rw [Nat.toDigits_of_lt_base small]
        simp [readDigits, digitValue?_digitChar small]
      · have digit : value % 10 < 10 := Nat.mod_lt _ (by decide)
        rw [Nat.toDigits_of_base_le (by decide) (by omega), readDigits_append,
          inductionHypothesis (value / 10) (by omega)]
        simp only [Option.bind_some, readDigits, digitValue?_digitChar digit,
          Option.some.injEq]
        omega

theorem readInt_digits {head : Char} {tail : List Char} (notMinus : head ≠ '-') :
    readInt (head :: tail) = (readDigits 0 (head :: tail)).map Int.ofNat := by
  unfold readInt
  split
  · next same => cases same
  · next same => exact absurd (List.cons.inj same).1 notMinus
  · next same => exact absurd (List.cons.inj same).1 notMinus
  · rfl

theorem readInt_minus (head : Char) (tail : List Char) :
    readInt ('-' :: head :: tail) =
      (readDigits 0 (head :: tail)).map fun value : Nat => -(value : Int) := rfl

/-- The printed text of an integer: its reading, its characters and its start. -/
theorem toString_spec (value : Int) :
    readInt (toString value).toList = some value ∧
      (∀ character ∈ (toString value).toList, isTokenChar character = true) ∧
        ∃ head tail, (toString value).toList = head :: tail ∧ startsNumber head = true := by
  have natural : ∀ number : Nat, ∃ head tail, Nat.toDigits 10 number = head :: tail ∧
      ∀ character ∈ head :: tail, character.isDigit = true := by
    intro number
    cases digits : Nat.toDigits 10 number with
    | nil => exact absurd digits Nat.toDigits_ne_nil
    | cons head tail =>
        refine ⟨head, tail, rfl, fun character member => ?_⟩
        rw [← digits] at member
        exact Nat.isDigit_of_mem_toDigits (by decide) (by decide) member
  rw [Int.toString_eq_repr, Int.repr_eq_if]
  split
  · obtain ⟨head, tail, digits, allDigits⟩ := natural value.toNat
    have text : (Nat.repr value.toNat).toList = head :: tail := by simp [Nat.repr, digits]
    have headDigit := allDigits head (by simp)
    refine ⟨?_, ?_, head, tail, text, by simp [startsNumber, headDigit]⟩
    · have notMinus : head ≠ '-' := by
        rintro rfl
        exact absurd headDigit (by decide)
      have read := readDigits_toDigits value.toNat
      rw [digits] at read
      rw [text, readInt_digits notMinus, read, Option.map_some, Option.some.injEq]
      exact Int.toNat_of_nonneg ‹_›
    · rw [text]
      intro character member
      simp [isTokenChar, allDigits character member]
  · obtain ⟨head, tail, digits, allDigits⟩ := natural (-value).toNat
    have text : ("-" ++ Nat.repr (-value).toNat).toList = '-' :: head :: tail := by
      simp [Nat.repr, digits]
    refine ⟨?_, ?_, '-', head :: tail, text, by decide⟩
    · have read := readDigits_toDigits (-value).toNat
      rw [digits] at read
      rw [text, readInt_minus, read, Option.map_some, Option.some.injEq]
      omega
    · rw [text]
      intro character member
      rcases List.mem_cons.mp member with rfl | digit
      · decide
      · simp [isTokenChar, allDigits character digit]

/-- The text does not go on with a token character. -/
def Ends (rest : List Char) : Prop := ∀ head ∈ rest.head?, isTokenChar head = false

theorem ends_cons {head : Char} {tail : List Char} (stops : isTokenChar head = false) :
    Ends (head :: tail) := by
  intro first member
  have same : head = first := by simpa using member
  exact same ▸ stops

theorem span_token {token rest : List Char} (run : token.all isTokenChar) (ends : Ends rest) :
    (token ++ rest).takeWhile isTokenChar = token ∧
      (token ++ rest).dropWhile isTokenChar = rest := by
  have all : ∀ character ∈ token, isTokenChar character = true := List.all_eq_true.mp run
  cases rest with
  | nil =>
      rw [List.append_nil]
      exact ⟨List.takeWhile_eq_self_iff.mpr all, List.dropWhile_eq_nil_iff.mpr all⟩
  | cons head tail =>
      have stops := ends head (by simp)
      rw [List.takeWhile_append_of_pos all, List.dropWhile_append_of_pos all]
      simp [stops]

theorem readNumber_of_token {token rest : List Char} {number : Json}
    (run : token.all isTokenChar) (ends : Ends rest)
    (decoded : numberOfToken? token run = some number) :
    readNumber (token ++ rest) = some (number, rest) := by
  obtain ⟨front, back⟩ := span_token run ends
  have sameToken : ∀ (other : List Char) (otherRun : other.all isTokenChar), other = token →
      numberOfToken? other otherRun = some number := by
    rintro other otherRun rfl
    exact decoded
  rw [readNumber, sameToken _ _ front, back]
  rfl

theorem ne_of_startsNumber {head other : Char} (starts : startsNumber head = true)
    (otherwise : startsNumber other = false) : head ≠ other := by
  rintro rfl
  rw [otherwise] at starts
  cases starts

theorem solid_of_startsNumber {head : Char} (starts : startsNumber head = true) :
    isJsonSpace head = false := by
  have apart := fun other => @ne_of_startsNumber head other starts
  simp [isJsonSpace, apart ' ' (by decide), apart '\t' (by decide), apart '\n' (by decide),
    apart '\r' (by decide)]

/-- The head of a number starts none of the other values. -/
theorem readValue_of_number {head : Char} {tail rest : List Char} {number : Json} {fuel : Nat}
    (starts : startsNumber head = true)
    (read : readNumber (head :: tail) = some (number, rest)) :
    readValue (fuel + 1) (head :: tail) = some (number, rest) := by
  have apart := fun other => @ne_of_startsNumber head other starts
  have skipped : skipSpace (head :: tail) = head :: tail := by
    simp [skipSpace, solid_of_startsNumber starts]
  rw [readValue, skipped]
  split
  · next same => exact absurd (List.cons.inj same).1 (apart '"' (by decide))
  · next same => exact absurd (List.cons.inj same).1 (apart '[' (by decide))
  · next same => exact absurd (List.cons.inj same).1 (apart '\x7b' (by decide))
  · next same => exact absurd (List.cons.inj same).1 (apart 'n' (by decide))
  · next same => exact absurd (List.cons.inj same).1 (apart 't' (by decide))
  · next same => exact absurd (List.cons.inj same).1 (apart 'f' (by decide))
  · exact read

theorem numberOfToken?_int {token : List Char} {value : Int} (run : token.all isTokenChar)
    (read : readInt token = some value) : numberOfToken? token run = some (.int value) := by
  unfold numberOfToken?
  split
  · next other same =>
    rw [read] at same
    cases same
    rfl
  · next same =>
    rw [read] at same
    cases same

theorem numberOfToken?_float (repr : FloatText) :
    numberOfToken? repr.text repr.token = some (.float repr) := by
  unfold numberOfToken?
  split
  · next other same =>
    rw [repr.notInteger] at same
    cases same
  · rw [dif_pos repr.starts]

/-! ## Round trip of values -/

theorem skipSpace_of_solid {head : Char} {tail : List Char} (solid : isJsonSpace head = false) :
    skipSpace (head :: tail) = head :: tail := by
  simp [skipSpace, solid]

theorem skipSpace_spaces (count : Nat) (text : List Char) :
    skipSpace (List.replicate count ' ' ++ text) = skipSpace text := by
  induction count with
  | zero => rfl
  | succ count inductionHypothesis => exact inductionHypothesis

theorem readValue_spaces (fuel count : Nat) (text : List Char) :
    readValue fuel (List.replicate count ' ' ++ text) = readValue fuel text := by
  cases fuel with
  | zero => rfl
  | succ fuel => rw [readValue, readValue, skipSpace_spaces]

theorem readItems_spaces (fuel count : Nat) (text : List Char) :
    readItems fuel (List.replicate count ' ' ++ text) = readItems fuel text := by
  cases fuel with
  | zero => rfl
  | succ fuel => rw [readItems, readItems, readValue_spaces]

theorem readEntries_spaces (fuel count : Nat) (text : List Char) :
    readEntries fuel (List.replicate count ' ' ++ text) = readEntries fuel text := by
  cases fuel with
  | zero => rfl
  | succ fuel => rw [readEntries, readEntries, skipSpace_spaces]

/-- No value starts with a space or a closing bracket. -/
theorem render_head (separators : Separators) (value : Json) :
    ∃ head tail, render separators value = head :: tail ∧ isJsonSpace head = false ∧
      head ≠ ']' := by
  have ofNumber : ∀ head, startsNumber head = true → isJsonSpace head = false ∧ head ≠ ']' :=
    fun _ starts => ⟨solid_of_startsNumber starts, ne_of_startsNumber starts (by decide)⟩
  cases value with
  | null => exact ⟨_, _, rfl, by decide, by decide⟩
  | bool value => cases value <;> exact ⟨_, _, rfl, by decide, by decide⟩
  | int value =>
      obtain ⟨_, _, head, tail, text, starts⟩ := toString_spec value
      exact ⟨head, tail, text, ofNumber head starts⟩
  | float repr =>
      have starts := repr.starts
      cases text : repr.text with
      | nil =>
          rw [text] at starts
          cases starts
      | cons head tail =>
          rw [text] at starts
          exact ⟨head, tail, text, ofNumber head starts⟩
  | str value => exact ⟨_, _, rfl, by decide, by decide⟩
  | arr items => exact ⟨_, _, rfl, by decide, by decide⟩
  | obj entries => exact ⟨_, _, rfl, by decide, by decide⟩

theorem renderItems_head (separators : Separators) (item : Json) (rest : List Json) :
    ∃ head tail, renderItems separators (item :: rest) = head :: tail ∧
      isJsonSpace head = false ∧ head ≠ ']' := by
  obtain ⟨head, tail, text, apart⟩ := render_head separators item
  cases rest with
  | nil => exact ⟨head, tail, by rw [renderItems, text], apart⟩
  | cons next rest => exact ⟨head, _, by rw [renderItems, text, List.cons_append], apart⟩

theorem renderEntries_head (separators : Separators) (entry : String × Json)
    (rest : List (String × Json)) :
    ∃ tail, renderEntries separators (entry :: rest) = '"' :: tail := by
  obtain ⟨key, value⟩ := entry
  cases rest with
  | nil => exact ⟨_, by rw [renderEntries, quote, List.cons_append]⟩
  | cons next rest => exact ⟨_, by rw [renderEntries, quote, List.cons_append]⟩

/-- An opening quote, the key and its colon are read up to the value. -/
theorem readEntries_key (separators : Separators) (key : String) (fuel : Nat)
    (text : List Char) :
    readEntries (fuel + 1) (quote key ++ (separators.key ++ text)) = (do
      let (value, rest) ← readValue fuel text
      match skipSpace rest with
      | ',' :: rest => do
          let (entries, rest) ← readEntries fuel rest
          some ((key, value) :: entries, rest)
      | '\x7d' :: rest => some ([(key, value)], rest)
      | _ => none) := by
  have quoted : quote key ++ (separators.key ++ text) =
      '"' :: (key.toList.flatMap escapeChar ++ '"' :: (separators.key ++ text)) := by
    simp [quote]
  have colon : skipSpace (separators.key ++ text) =
      ':' :: (List.replicate separators.keySpaces ' ' ++ text) :=
    skipSpace_of_solid (by decide)
  rw [quoted, readEntries, skipSpace_of_solid (by decide)]
  simp only [readString_quoted, Option.bind_eq_bind, Option.bind_some, colon, readValue_spaces,
    String.ofList_toList]

theorem quote_append (text : String) (rest : List Char) :
    quote text ++ rest = '"' :: (text.toList.flatMap escapeChar ++ '"' :: rest) := by
  simp [quote]

mutual

/-- A rendered value reads back as itself. -/
theorem readValue_render (separators : Separators) :
    ∀ (value : Json) (fuel : Nat) (rest : List Char),
      (render separators value).length < fuel → Ends rest →
        readValue fuel (render separators value ++ rest) = some (value, rest)
  | value, 0, _, enough, _ => absurd enough (Nat.not_lt_zero _)
  | .null, fuel + 1, rest, _, _ => rfl
  | .bool true, fuel + 1, rest, _, _ => rfl
  | .bool false, fuel + 1, rest, _, _ => rfl
  | .int value, fuel + 1, rest, _, ends => by
      obtain ⟨read, token, head, tail, text, starts⟩ := toString_spec value
      have run : (toString value).toList.all isTokenChar := List.all_eq_true.mpr token
      have number := readNumber_of_token run ends (numberOfToken?_int run read)
      rw [render]
      rw [text, List.cons_append] at number ⊢
      exact readValue_of_number starts number
  | .float repr, fuel + 1, rest, _, ends => by
      have number := readNumber_of_token repr.token ends (numberOfToken?_float repr)
      have starts := repr.starts
      rw [render]
      cases text : repr.text with
      | nil =>
          rw [text] at starts
          cases starts
      | cons head tail =>
          rw [text] at starts number
          exact readValue_of_number starts number
  | .str value, fuel + 1, rest, _, _ => by
      rw [render, quote_append, readValue, skipSpace_of_solid (by decide)]
      simp only [readString_quoted, Option.map_some, String.ofList_toList]
  | .arr [], fuel + 1, rest, _, _ => rfl
  | .arr (item :: items), fuel + 1, rest, enough, _ => by
      obtain ⟨head, tail, text, solid, open'⟩ := renderItems_head separators item items
      have inner := readItems_render separators (item :: items) fuel rest (by simp)
        (by simp only [render, List.length_cons, List.length_append] at enough; omega)
      rw [text, List.cons_append] at inner
      rw [render, text, List.cons_append, List.cons_append, List.cons_append, List.append_assoc,
        List.singleton_append, readValue, skipSpace_of_solid (by decide)]
      simp only [skipSpace_of_solid solid]
      split
      · next same => exact absurd (List.cons.inj same).1 open'
      · rw [inner]
        rfl
  | .obj [], fuel + 1, rest, _, _ => rfl
  | .obj (entry :: entries), fuel + 1, rest, enough, _ => by
      obtain ⟨tail, text⟩ := renderEntries_head separators entry entries
      have inner := readEntries_render separators (entry :: entries) fuel rest (by simp)
        (by simp only [render, List.length_cons, List.length_append] at enough; omega)
      rw [text, List.cons_append] at inner
      rw [render, text, List.cons_append, List.cons_append, List.cons_append, List.append_assoc,
        List.singleton_append, readValue, skipSpace_of_solid (by decide)]
      simp only [skipSpace_of_solid (show isJsonSpace '"' = false by decide)]
      split
      · next same => exact absurd (List.cons.inj same).1 (by decide)
      · rw [inner]
        rfl

theorem readItems_render (separators : Separators) :
    ∀ (items : List Json) (fuel : Nat) (rest : List Char), items ≠ [] →
      (renderItems separators items).length + 1 < fuel →
        readItems fuel (renderItems separators items ++ ']' :: rest) = some (items, rest)
  | items, 0, _, _, enough => absurd enough (Nat.not_lt_zero _)
  | [], _ + 1, _, nonempty, _ => absurd rfl nonempty
  | [item], fuel + 1, rest, _, enough => by
      have value := readValue_render separators item fuel (']' :: rest)
        (by simp only [renderItems] at enough; omega) (ends_cons (by decide))
      rw [renderItems, readItems, value]
      rfl
  | item :: next :: items, fuel + 1, rest, _, enough => by
      have lengths : (renderItems separators (item :: next :: items)).length =
          (render separators item).length + (separators.itemSpaces + 1 +
            (renderItems separators (next :: items)).length) := by
        simp only [renderItems, Separators.item, List.length_append, List.length_cons,
          List.length_replicate]
      have value := readValue_render separators item fuel
        (separators.item ++ (renderItems separators (next :: items) ++ ']' :: rest))
        (by omega) (ends_cons (by decide))
      have others := readItems_render separators (next :: items) fuel rest (by simp) (by omega)
      rw [renderItems, List.append_assoc, List.append_assoc, readItems, value]
      simp only [Option.bind_eq_bind, Option.bind_some, Separators.item, List.cons_append,
        skipSpace_of_solid (show isJsonSpace ',' = false by decide), readItems_spaces, others]

theorem readEntries_render (separators : Separators) :
    ∀ (entries : List (String × Json)) (fuel : Nat) (rest : List Char), entries ≠ [] →
      (renderEntries separators entries).length + 1 < fuel →
        readEntries fuel (renderEntries separators entries ++ '\x7d' :: rest) =
          some (entries, rest)
  | entries, 0, _, _, enough => absurd enough (Nat.not_lt_zero _)
  | [], _ + 1, _, nonempty, _ => absurd rfl nonempty
  | [(key, value)], fuel + 1, rest, _, enough => by
      have read := readValue_render separators value fuel ('\x7d' :: rest)
        (by simp only [renderEntries, List.length_append] at enough; omega)
        (ends_cons (by decide))
      rw [renderEntries, List.append_assoc, List.append_assoc, readEntries_key, read]
      rfl
  | (key, value) :: next :: entries, fuel + 1, rest, _, enough => by
      have lengths : (renderEntries separators ((key, value) :: next :: entries)).length =
          (quote key).length + (separators.key.length + ((render separators value).length +
            (separators.itemSpaces + 1 +
              (renderEntries separators (next :: entries)).length))) := by
        simp only [renderEntries, Separators.item, List.length_append, List.length_cons,
          List.length_replicate]
      have read := readValue_render separators value fuel
        (separators.item ++ (renderEntries separators (next :: entries) ++ '\x7d' :: rest))
        (by omega) (ends_cons (by decide))
      have others := readEntries_render separators (next :: entries) fuel rest (by simp)
        (by omega)
      rw [renderEntries, List.append_assoc, List.append_assoc, List.append_assoc,
        List.append_assoc, readEntries_key, read]
      simp only [Option.bind_eq_bind, Option.bind_some, Separators.item, List.cons_append,
        skipSpace_of_solid (show isJsonSpace ',' = false by decide), readEntries_spaces, others]

end

/-- What `json.dumps` prints, `json.loads` reads back with sorted keys. -/
theorem loads_dumps (separators : Separators) (value : Json) :
    loads (dumps separators value) = some (sortKeys value) := by
  have read := readValue_render separators (sortKeys value)
    ((dumps separators value).length + 1) [] (Nat.lt_succ_self _) (by simp [Ends])
  rw [List.append_nil] at read
  have whole : readValue ((dumps separators value).length + 1) (dumps separators value) =
      some (sortKeys value, []) := read
  unfold loads
  rw [whole]
  rfl

end ScraperProject.Foundation.Json
