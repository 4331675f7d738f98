import Mathlib.Data.List.Sort
import ScraperProject.Foundation.Digits

/-!
Contract: JSON values and their serialisation with sorted keys.

Owns the value type, the comparison of a number with the unit interval,
`json.dumps` with `sort_keys=True` and ASCII escapes for any pair of separators,
key lookup and its independence from the sorting, and the fact that a serialised
value holds printable ASCII only.

A floating-point number is carried by the text that prints it. A dictionary is
the list of its entries; its keys are distinct.

Does not own the reader.
-/

namespace ScraperProject.Foundation

open Digits

/-! ## Numbers -/

/-- A character of a number, of `NaN` or of `Infinity`. -/
def isTokenChar (character : Char) : Bool :=
  character.isDigit || "+-.eENaInfity".toList.contains character

def readInt : List Char → Option Int
  | [] => none
  | '-' :: [] => none
  | '-' :: digits => (readDigits 0 digits).map fun value : Nat => -(value : Int)
  | digits => (readDigits 0 digits).map Int.ofNat

def startsNumber (character : Char) : Bool :=
  character.isDigit || "-NI".toList.contains character

/-- The text of a floating-point number: one token, and not that of an integer. -/
structure FloatText where
  text : List Char
  starts : text.head?.any startsNumber
  token : text.all isTokenChar
  notInteger : readInt text = none
deriving DecidableEq

/-- A decimal numeral: its sign, its digits and the exponent of ten. -/
structure Decimal where
  negative : Bool
  digits : Nat
  exponent : Int

/-- The part of a numeral from the letter `e` on. -/
def readExponent : List Char → Option Int
  | [] => some 0
  | _ :: '+' :: digits => readInt digits
  | _ :: digits => readInt digits

/-- The numeral that a text prints, if it prints a finite number. -/
def FloatText.decimal? (number : FloatText) : Option Decimal :=
  let negative := number.text.head? = some '-'
  let unsigned := if negative then number.text.tail else number.text
  let (mantissa, exponent) := unsigned.span fun character => character ≠ 'e' ∧ character ≠ 'E'
  let (whole, fraction) := mantissa.span fun character => character ≠ '.'
  match readDigits 0 (whole ++ fraction.tail), readExponent exponent with
  | some digits, some power =>
      some { negative := negative, digits := digits, exponent := power - fraction.tail.length }
  | _, _ => none

/-- `0 <= number <= 1`, which NaN does not satisfy. -/
def FloatText.inUnitInterval (number : FloatText) : Bool :=
  match number.decimal? with
  | none => false
  | some decimal =>
      (!decimal.negative || decimal.digits == 0) &&
        (if 0 ≤ decimal.exponent then decimal.digits * 10 ^ decimal.exponent.toNat ≤ 1
        else decimal.digits ≤ 10 ^ (-decimal.exponent).toNat)

inductive Json where
  | null
  | bool (value : Bool)
  | int (value : Int)
  | float (repr : FloatText)
  | str (value : String)
  | arr (items : List Json)
  | obj (entries : List (String × Json))

namespace Json

/-! ## Strings -/

/-- Lower-case hexadecimal digits at a fixed width. -/
def hexWidth : Nat → Nat → List Char
  | 0, _ => []
  | width + 1, value => hexWidth width (value / 16) ++ [Nat.digitChar (value % 16)]

def escapeUnit (unit : Nat) : List Char := '\\' :: 'u' :: hexWidth 4 unit

/-- One character under `ensure_ascii`; characters above the basic plane become
a surrogate pair. -/
def escapeChar (character : Char) : List Char :=
  if character = '"' then ['\\', '"']
  else if character = '\\' then ['\\', '\\']
  else if character = '\n' then ['\\', 'n']
  else if character = '\r' then ['\\', 'r']
  else if character = '\t' then ['\\', 't']
  else if character.toNat = 12 then ['\\', 'f']
  else if character.toNat = 8 then ['\\', 'b']
  else if 32 ≤ character.toNat ∧ character.toNat ≤ 126 then [character]
  else if character.toNat < 0x10000 then escapeUnit character.toNat
  else escapeUnit (0xD800 + (character.toNat - 0x10000) / 0x400) ++
    escapeUnit (0xDC00 + (character.toNat - 0x10000) % 0x400)

def quote (text : String) : List Char :=
  '"' :: (text.toList.flatMap escapeChar ++ ['"'])

/-! ## Values -/

/-- Item and key separators: a comma or a colon and spaces after it. -/
structure Separators where
  itemSpaces : Nat
  keySpaces : Nat

/-- The defaults of `json.dumps`, `", "` and `": "`. -/
def Separators.spaced : Separators := ⟨1, 1⟩

/-- `separators=(",", ":")`. -/
def Separators.compact : Separators := ⟨0, 0⟩

def Separators.item (separators : Separators) : List Char :=
  ',' :: List.replicate separators.itemSpaces ' '

def Separators.key (separators : Separators) : List Char :=
  ':' :: List.replicate separators.keySpaces ' '

mutual

/-- The text of a value, entries in their order. -/
def render (separators : Separators) : Json → List Char
  | .null => ['n', 'u', 'l', 'l']
  | .bool true => ['t', 'r', 'u', 'e']
  | .bool false => ['f', 'a', 'l', 's', 'e']
  | .int value => (toString value).toList
  | .float repr => repr.text
  | .str value => quote value
  | .arr items => '[' :: (renderItems separators items ++ [']'])
  | .obj entries => '{' :: (renderEntries separators entries ++ ['}'])

def renderItems (separators : Separators) : List Json → List Char
  | [] => []
  | [item] => render separators item
  | item :: next :: rest =>
      render separators item ++ (separators.item ++ renderItems separators (next :: rest))

def renderEntries (separators : Separators) : List (String × Json) → List Char
  | [] => []
  | [(key, value)] => quote key ++ (separators.key ++ render separators value)
  | (key, value) :: next :: rest =>
      quote key ++ (separators.key ++ (render separators value ++
        (separators.item ++ renderEntries separators (next :: rest))))

end

def keyOrder (left right : String × Json) : Prop := ¬ right.1.toList < left.1.toList

instance : DecidableRel keyOrder := fun left right => by
  unfold keyOrder
  infer_instance

mutual

/-- The same value with the entries of every dictionary sorted by key. -/
def sortKeys : Json → Json
  | .arr items => .arr (sortItems items)
  | .obj entries => .obj ((sortEntries entries).insertionSort keyOrder)
  | value => value

def sortItems : List Json → List Json
  | [] => []
  | item :: rest => sortKeys item :: sortItems rest

def sortEntries : List (String × Json) → List (String × Json)
  | [] => []
  | (key, value) :: rest => (key, sortKeys value) :: sortEntries rest

end

/-- `json.dumps(value, sort_keys=True)` with the given separators. -/
def dumps (separators : Separators) (value : Json) : List Char :=
  render separators (sortKeys value)

/-- `payload.get(key)` on the entries of a dictionary. -/
def get? (entries : List (String × Json)) (key : String) : Option Json :=
  (entries.find? fun entry => entry.1 = key).map Prod.snd

example : dumps .compact (.obj [("b", .int 2), ("a", .str "x\n")]) =
    "\x7b\"a\":\"x\\n\",\"b\":2\x7d".toList := by decide

/-! ## Lookup after sorting -/

theorem find?_orderedInsert (key : String) (entry : String × Json)
    (entries : List (String × Json)) :
    (entries.orderedInsert keyOrder entry).find? (fun candidate => candidate.1 = key) =
      (entry :: entries).find? fun candidate => candidate.1 = key := by
  induction entries with
  | nil => rfl
  | cons head rest inductionHypothesis =>
      rw [List.orderedInsert_cons]
      split
      · rfl
      · next skipped =>
        have different : head.1 ≠ entry.1 := by
          intro sameKey
          apply skipped
          unfold keyOrder
          rw [sameKey]
          exact List.lt_irrefl _
        by_cases found : entry.1 = key
        · have headApart : head.1 ≠ key := by rwa [found] at different
          rw [List.find?_cons_of_neg (by simpa using headApart), inductionHypothesis]
          rw [List.find?_cons_of_pos (by simpa using found),
            List.find?_cons_of_pos (by simpa using found)]
        · simp only [List.find?_cons, inductionHypothesis, found, decide_false]

theorem find?_insertionSort (key : String) (entries : List (String × Json)) :
    (entries.insertionSort keyOrder).find? (fun candidate => candidate.1 = key) =
      entries.find? fun candidate => candidate.1 = key := by
  induction entries with
  | nil => rfl
  | cons head rest inductionHypothesis =>
      rw [List.insertionSort_cons, find?_orderedInsert, List.find?_cons, List.find?_cons,
        inductionHypothesis]

/-- Sorting keeps every lookup, up to sorting of the value found. -/
theorem get?_sorted (key : String) (entries : List (String × Json)) :
    get? ((sortEntries entries).insertionSort keyOrder) key = (get? entries key).map sortKeys := by
  unfold get?
  rw [find?_insertionSort]
  induction entries with
  | nil => rfl
  | cons head rest inductionHypothesis =>
      obtain ⟨headKey, headValue⟩ := head
      rw [sortEntries, List.find?_cons, List.find?_cons]
      by_cases found : headKey = key
      · simp [found]
      · simpa [found] using inductionHypothesis

/-! ## Printable characters -/

def Printable (character : Char) : Prop := 32 ≤ character.toNat ∧ character.toNat ≤ 126

instance (character : Char) : Decidable (Printable character) :=
  inferInstanceAs (Decidable (32 ≤ character.toNat ∧ character.toNat ≤ 126))

def AllPrintable (text : List Char) : Prop := ∀ character ∈ text, Printable character

instance (text : List Char) : Decidable (AllPrintable text) :=
  List.decidableBAll Printable text

@[simp] theorem allPrintable_nil : AllPrintable [] := by
  simp [AllPrintable]

@[simp] theorem allPrintable_cons {character : Char} {text : List Char} :
    AllPrintable (character :: text) ↔ Printable character ∧ AllPrintable text := by
  simp [AllPrintable]

@[simp] theorem allPrintable_append {left right : List Char} :
    AllPrintable (left ++ right) ↔ AllPrintable left ∧ AllPrintable right := by
  simp only [AllPrintable, List.mem_append]
  exact ⟨fun all => ⟨fun c member => all c (Or.inl member), fun c member => all c (Or.inr member)⟩,
    fun ⟨left, right⟩ c member => member.elim (left c) (right c)⟩

theorem printable_digitChar {digit : Nat} (isDigit : digit < 16) :
    Printable (Nat.digitChar digit) := by
  interval_cases digit <;> decide

theorem printable_of_isDigit {character : Char} (isDigit : character.isDigit = true) :
    Printable character := by
  simp only [Char.isDigit, Bool.and_eq_true, decide_eq_true_eq] at isDigit
  have lower : 48 ≤ character.toNat := isDigit.1
  have upper : character.toNat ≤ 57 := isDigit.2
  exact ⟨by omega, by omega⟩

theorem printable_of_isTokenChar {character : Char} (token : isTokenChar character = true) :
    Printable character := by
  simp only [isTokenChar, Bool.or_eq_true] at token
  rcases token with digit | listed
  · exact printable_of_isDigit digit
  · have all : AllPrintable "+-.eENaInfity".toList := by decide
    exact all character (by simpa using listed)

theorem allPrintable_hexWidth (width value : Nat) : AllPrintable (hexWidth width value) := by
  induction width generalizing value with
  | zero => simp [hexWidth]
  | succ width inductionHypothesis =>
      simp only [hexWidth, allPrintable_append, allPrintable_cons, allPrintable_nil, and_true]
      exact ⟨inductionHypothesis _, printable_digitChar (Nat.mod_lt _ (by decide))⟩

theorem allPrintable_escapeUnit (unit : Nat) : AllPrintable (escapeUnit unit) := by
  simp only [escapeUnit, allPrintable_cons]
  exact ⟨by decide, by decide, allPrintable_hexWidth 4 unit⟩

theorem allPrintable_escapeChar (character : Char) : AllPrintable (escapeChar character) := by
  unfold escapeChar
  split_ifs with _ _ _ _ _ _ _ plain
  all_goals first
    | exact allPrintable_escapeUnit _
    | exact allPrintable_append.mpr ⟨allPrintable_escapeUnit _, allPrintable_escapeUnit _⟩
    | (simp only [allPrintable_cons, allPrintable_nil, and_true]; first | exact plain | decide)

theorem allPrintable_quote (text : String) : AllPrintable (quote text) := by
  simp only [quote, allPrintable_cons, allPrintable_append, allPrintable_nil, and_true]
  refine ⟨by decide, ?_, by decide⟩
  intro character member
  obtain ⟨source, _, escaped⟩ := List.mem_flatMap.mp member
  exact allPrintable_escapeChar source character escaped

theorem allPrintable_spaces (count : Nat) : AllPrintable (List.replicate count ' ') := by
  intro character member
  rw [List.eq_of_mem_replicate member]
  decide

theorem allPrintable_toString (value : Int) : AllPrintable (toString value).toList := by
  have natural : ∀ number : Nat, AllPrintable (Nat.toDigits 10 number) := fun number _ member =>
    printable_of_isDigit (Nat.isDigit_of_mem_toDigits (by decide) (by decide) member)
  rw [Int.toString_eq_repr, Int.repr_eq_if]
  split
  · simpa [Nat.repr] using natural _
  · rw [String.toList_append, allPrintable_append]
    exact ⟨by decide, by simpa [Nat.repr] using natural _⟩

mutual

theorem allPrintable_render (separators : Separators) :
    ∀ value, AllPrintable (render separators value)
  | .null => show AllPrintable ['n', 'u', 'l', 'l'] by decide
  | .bool true => show AllPrintable ['t', 'r', 'u', 'e'] by decide
  | .bool false => show AllPrintable ['f', 'a', 'l', 's', 'e'] by decide
  | .int value => allPrintable_toString value
  | .float repr => fun character member =>
      printable_of_isTokenChar (List.all_eq_true.mp repr.token character member)
  | .str value => allPrintable_quote value
  | .arr items => by
      have inner := allPrintable_renderItems separators items
      simp only [render, allPrintable_cons, allPrintable_append, inner, allPrintable_nil]
      decide
  | .obj entries => by
      have inner := allPrintable_renderEntries separators entries
      simp only [render, allPrintable_cons, allPrintable_append, inner, allPrintable_nil]
      decide

theorem allPrintable_renderItems (separators : Separators) :
    ∀ items, AllPrintable (renderItems separators items)
  | [] => allPrintable_nil
  | [item] => allPrintable_render separators item
  | item :: next :: rest => by
      simp only [renderItems, Separators.item, List.cons_append, allPrintable_cons,
        allPrintable_append]
      exact ⟨allPrintable_render separators item, by decide, allPrintable_spaces _,
        allPrintable_renderItems separators (next :: rest)⟩

theorem allPrintable_renderEntries (separators : Separators) :
    ∀ entries, AllPrintable (renderEntries separators entries)
  | [] => allPrintable_nil
  | [(key, value)] => by
      simp only [renderEntries, Separators.key, List.cons_append, allPrintable_cons,
        allPrintable_append]
      exact ⟨allPrintable_quote key, by decide, allPrintable_spaces _,
        allPrintable_render separators value⟩
  | (key, value) :: next :: rest => by
      simp only [renderEntries, Separators.key, Separators.item, List.cons_append,
        allPrintable_cons, allPrintable_append]
      exact ⟨allPrintable_quote key, by decide, allPrintable_spaces _,
        allPrintable_render separators value, by decide, allPrintable_spaces _,
        allPrintable_renderEntries separators (next :: rest)⟩

end

theorem allPrintable_dumps (separators : Separators) (value : Json) :
    AllPrintable (dumps separators value) := allPrintable_render separators _

/-! ## Bytes -/

/-- `text.encode("utf-8")`. -/
def encodeUtf8 (text : List Char) : List UInt8 := text.flatMap String.utf8EncodeChar

/-- The bytes of a serialised value hold no line feed. -/
theorem newline_notMem_encodeUtf8 {text : List Char} (printable : AllPrintable text) :
    (10 : UInt8) ∉ encodeUtf8 text := by
  intro member
  obtain ⟨character, source, encoded⟩ := List.mem_flatMap.mp member
  have bounds := printable character source
  have ascii : character.val.toNat ≤ 0x7f := by
    have upper : character.val.toNat ≤ 126 := bounds.2
    omega
  have lower : 32 ≤ character.val.toNat := bounds.1
  rw [String.utf8EncodeChar, if_pos ascii, List.mem_singleton] at encoded
  have value := congrArg UInt8.toNat encoded
  have small : character.val.toNat < 256 := by omega
  rw [UInt8.toNat_ofNat'] at value
  rw [Nat.mod_eq_of_lt small] at value
  have ten : (10 : UInt8).toNat = 10 := rfl
  omega

end Json

end ScraperProject.Foundation
