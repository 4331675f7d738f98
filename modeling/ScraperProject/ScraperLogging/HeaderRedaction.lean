import Mathlib.Data.Nat.Find
import ScraperProject.ScraperLogging.QueryRedaction

/-!
Contract: what the filter leaves after a header.

Owns the text that may follow a header, the headers that lie in the value of a query
parameter, what the filter makes of each line of a message, and the exact condition on
the lines before the last one under which every header of the filtered message is
followed by white space and markers only. Owns also a message that leaks.

Does not own what the filter does to query parameters beyond that.
-/

namespace ScraperProject.ScraperLogging

open Foundation

/-! ## After a header -/

/-- White space and "[REDACTED]" only. -/
inductive OnlyMarkers : List Char → Prop where
  | nil : OnlyMarkers []
  | space {character : Char} {rest : List Char} (isSpace : Text.isSpace character = true)
      (others : OnlyMarkers rest) : OnlyMarkers (character :: rest)
  | marker {rest : List Char} (others : OnlyMarkers rest) : OnlyMarkers (redacted ++ rest)

theorem OnlyMarkers.mem {text : List Char} (markers : OnlyMarkers text) {character : Char}
    (member : character ∈ text) : Text.isSpace character = true ∨ character ∈ redacted := by
  induction markers with
  | nil => cases member
  | space isSpace _ inductionHypothesis =>
      rcases List.mem_cons.mp member with rfl | later
      · exact Or.inl isSpace
      · exact inductionHypothesis later
  | marker _ inductionHypothesis =>
      rcases List.mem_append.mp member with inMarker | later
      · exact Or.inr inMarker
      · exact inductionHypothesis later

theorem onlyMarkers_spaces {spaces rest : List Char}
    (all : ∀ character ∈ spaces, Text.isSpace character = true) (others : OnlyMarkers rest) :
    OnlyMarkers (spaces ++ rest) := by
  induction spaces with
  | nil => exact others
  | cons first later inductionHypothesis =>
      obtain ⟨isSpace, laterSpaces⟩ := List.forall_mem_cons.mp all
      exact .space isSpace (inductionHypothesis laterSpaces)

/-- Neither ":" nor "=" is white space or in a marker. -/
theorem OnlyMarkers.notMem {text : List Char} (markers : OnlyMarkers text) {character : Char}
    (listed : character ∈ [':', '=']) : character ∉ text := by
  intro member
  have other : Text.isSpace character = false ∧ character ∉ redacted := by
    simp only [List.mem_cons, List.not_mem_nil, or_false] at listed
    rcases listed with rfl | rfl <;> decide
  rcases markers.mem member with isSpace | inMarker
  · rw [other.1] at isSpace
    cases isSpace
  · exact other.2 inMarker

/-- Of every header of the text: what comes before it and what comes after it. -/
def EveryHeader (holds : List Char → List Char → Prop) (text : List Char) : Prop :=
  ∀ before header after, text = before ++ header ++ after → IsHeader header → holds before after

/-- After the first header of a line there are white space and markers only. -/
def HeadersRedacted (line : List Char) : Prop :=
  ∀ before header after, line = before ++ header ++ after → IsHeader header →
    EveryHeader (fun front _ => before.length ≤ front.length) line → OnlyMarkers after

theorem IsHeader.length {header : List Char} (isHeader : IsHeader header) :
    header.length = 14 := (List.Forall₂.length_eq isHeader).symm

/-- Two headers of one text are at one place, or the earlier one has a colon after
it. -/
theorem headers_cut {before header after front other rest : List Char} (isHeader : IsHeader header)
    (isOther : IsHeader other) (same : before ++ header ++ after = front ++ other ++ rest) :
    (before.length = front.length ∧ after = rest) ∨
      (before.length < front.length ∧ ':' ∈ after) ∨
        (front.length < before.length ∧ ':' ∈ rest) := by
  have length := isHeader.length
  have otherLength := isOther.length
  obtain ⟨name, rfl, _⟩ := isHeader.colon
  obtain ⟨otherName, rfl, _⟩ := isOther.colon
  rw [List.length_append, List.length_singleton] at length otherLength
  have cut : (before ++ name) ++ ':' :: after = (front ++ otherName) ++ ':' :: rest := by
    simpa using same
  rcases List.append_eq_append_iff.mp cut with ⟨middle, isFront, isAfter⟩ | ⟨middle, isBefore, isRest⟩
  · have lengths := congrArg List.length isFront
    simp only [List.length_append] at lengths
    cases middle with
    | nil =>
        rw [List.length_nil] at lengths
        exact Or.inl ⟨by omega, (List.cons.inj isAfter).2⟩
    | cons first later =>
        rw [List.length_cons] at lengths
        refine Or.inr (Or.inl ⟨by omega, ?_⟩)
        rw [(List.cons.inj isAfter).2]
        simp
  · have lengths := congrArg List.length isBefore
    simp only [List.length_append] at lengths
    cases middle with
    | nil =>
        rw [List.length_nil] at lengths
        exact Or.inl ⟨by omega, (List.cons.inj isRest).2.symm⟩
    | cons first later =>
        rw [List.length_cons] at lengths
        refine Or.inr (Or.inr ⟨by omega, ?_⟩)
        rw [(List.cons.inj isRest).2]
        simp

/-- A text with a header has a first one. -/
theorem exists_firstHeader {text before header after : List Char}
    (same : text = before ++ header ++ after) (isHeader : IsHeader header) :
    ∃ front other rest, text = front ++ other ++ rest ∧ IsHeader other ∧
      EveryHeader (fun later _ => front.length ≤ later.length) text := by
  classical
  have present : ∃ length, ∃ front other rest, text = front ++ other ++ rest ∧ IsHeader other ∧
      front.length = length := ⟨before.length, before, header, after, same, isHeader, rfl⟩
  obtain ⟨front, other, rest, isText, isOther, length⟩ := Nat.find_spec present
  refine ⟨front, other, rest, isText, isOther, fun later another final isLater isAnother => ?_⟩
  rw [length]
  exact Nat.find_min' present ⟨later, another, final, isLater, isAnother, rfl⟩

/-- The first header decides for all: nothing after it can be another. -/
theorem headersRedacted_iff {line : List Char} :
    HeadersRedacted line ↔ EveryHeader (fun _ after => OnlyMarkers after) line := by
  constructor
  · intro redacted before header after same isHeader
    obtain ⟨front, other, rest, isLine, isOther, first⟩ := exists_firstHeader same isHeader
    have markers := redacted front other rest isLine isOther first
    rcases headers_cut isOther isHeader (isLine.symm.trans same) with
      ⟨_, isRest⟩ | ⟨_, colon⟩ | ⟨earlier, _⟩
    · rwa [← isRest]
    · exact absurd colon (markers.notMem (by decide))
    · have later := first before header after same isHeader
      omega
  · intro every before header after same isHeader _
    exact every before header after same isHeader

/-! ## Headers in values -/

/-- What comes before lies in the value of a parameter. -/
def InValue (before : List Char) : Prop :=
  ∃ front parameter value, before = front ++ parameter ++ value ∧ IsParameter parameter ∧
    ∀ character ∈ value, isValueChar character = true

/-- Of every header that lies in no value: there are white space and markers only after
it. -/
def OpenHeadersClean (text : List Char) : Prop :=
  EveryHeader (fun before after => ¬ InValue before → OnlyMarkers after) text

theorem IsHeader.head {header : List Char} (isHeader : IsHeader header) :
    ∃ first rest, header = first :: rest ∧ isValueChar first = true := by
  cases header with
  | nil => cases isHeader.length
  | cons first rest => exact ⟨first, rest, rfl, (isHeader.chars List.mem_cons_self).1⟩

/-- A header in a value makes the value of its parameter. -/
theorem startsValue_of_header {parameter value header after : List Char}
    (isParameter : IsParameter parameter)
    (isValue : ∀ character ∈ value, isValueChar character = true) (isHeader : IsHeader header) :
    StartsValue (parameter ++ value ++ header ++ after) := by
  obtain ⟨first, rest, rfl, isFirst⟩ := isHeader.head
  cases value with
  | nil => exact ⟨parameter, first, rest ++ after, by simp, isParameter, isFirst⟩
  | cons head tail =>
      exact ⟨parameter, head, tail ++ first :: (rest ++ after), by simp, isParameter,
        isValue head List.mem_cons_self⟩

/-- A header in a text with a parameter lies before it or after it. -/
theorem header_of_parameter {gap parameter rest before header after : List Char}
    (isParameter : IsParameter parameter) (isHeader : IsHeader header)
    (same : before ++ header ++ after = gap ++ (parameter ++ rest)) :
    (∃ middle, gap = before ++ header ++ middle ∧ after = middle ++ (parameter ++ rest)) ∨
      ∃ middle, before = gap ++ parameter ++ middle ∧ rest = middle ++ header ++ after := by
  obtain ⟨mark, key, rfl, isMark, keyChars⟩ := isParameter.chars
  have noMark : mark ∉ header := by
    rcases isMark with rfl | rfl
    · exact isHeader.notMem (by decide)
    · exact isHeader.notMem_of_end (by decide)
  have cut : before ++ header ++ after = gap ++ mark :: (key ++ '=' :: rest) := by
    rw [same]
    simp
  rcases part_of_cut noMark cut with ⟨middle, isGap, isAfter⟩ | ⟨middle, isBefore, isRest⟩
  · exact Or.inl ⟨middle, isGap, by rw [isAfter]; simp⟩
  · rcases part_of_cut (isHeader.notMem (by decide)) isRest.symm with
      ⟨inner, isKey, _⟩ | ⟨inner, isMiddle, isLater⟩
    · -- No name of a parameter has the colon of a header.
      obtain ⟨name, rfl, _⟩ := isHeader.colon
      have colon : ':' ∈ key := by
        rw [isKey]
        simp
      exact absurd (by decide) (keyChars ':' colon).2
    · refine Or.inr ⟨inner, ?_, isLater⟩
      rw [isBefore, isMiddle]
      simp

/-- A header after a marker. -/
theorem header_of_marker {result before header after : List Char} (isHeader : IsHeader header)
    (same : before ++ header ++ after = redacted ++ result) :
    ∃ middle, before = redacted ++ middle ∧ result = middle ++ header ++ after := by
  have marker : redacted = "[REDACTED".toList ++ [']'] := rfl
  have cut : before ++ header ++ after = "[REDACTED".toList ++ ']' :: result := by
    rw [same, marker, List.append_assoc]
    rfl
  rcases part_of_cut (isHeader.notMem (by decide)) cut with
    ⟨middle, isMarker, _⟩ | ⟨middle, isBefore, isResult⟩
  · obtain ⟨name, rfl, _⟩ := isHeader.colon
    have colon : ':' ∈ "[REDACTED".toList := by
      rw [isMarker]
      simp
    exact absurd colon (by decide)
  · refine ⟨middle, ?_, isResult⟩
    rw [isBefore, marker, List.append_assoc]
    rfl

/-- A header in a value and what comes after it lies in the value or after it. -/
theorem header_of_value {value rest before header after : List Char} (isHeader : IsHeader header)
    (isValue : ∀ character ∈ value, isValueChar character = true) (ends : EndsValue rest)
    (same : before ++ header ++ after = value ++ rest) :
    (∀ character ∈ before, isValueChar character = true) ∨
      ∃ first middle, rest = first :: (middle ++ header ++ after) ∧
        before = value ++ first :: middle ∧ isValueChar first = false := by
  cases rest with
  | nil =>
      refine Or.inl fun character member => isValue character ?_
      rw [← List.append_nil value, ← same]
      simp [member]
  | cons first later =>
      have refused := ends first rfl
      rcases part_of_cut (isHeader.notMem_of_end refused) same with
        ⟨middle, isFront, _⟩ | ⟨middle, isBefore, isLater⟩
      · refine Or.inl fun character member => isValue character ?_
        rw [isFront]
        simp [member]
      · exact Or.inr ⟨first, middle, by rw [isLater], isBefore, refused⟩

/-- Past the end of a value, only what follows can put a place into a value. -/
theorem inValue_of_append {front later : List Char} {first : Char}
    (refused : isValueChar first = false) (inValue : InValue (front ++ first :: later)) :
    InValue (first :: later) := by
  obtain ⟨before, parameter, value, same, isParameter, isValue⟩ := inValue
  obtain ⟨mark, key, rfl, _, keyChars⟩ := isParameter.chars
  have noFirst : ∀ character ∈ value, first ≠ character := by
    rintro character member rfl
    rw [isValue first member] at refused
    cases refused
  have noKey : first ∉ key ++ ['='] := by
    intro member
    rcases List.mem_append.mp member with inKey | isEquals
    · rw [(keyChars first inKey).1] at refused
      cases refused
    · rw [List.mem_singleton.mp isEquals] at refused
      cases refused
  -- The end of a value stands before the value and before the name of the parameter.
  have cut : (before ++ mark :: (key ++ ['='])) ++ value ++ [] = front ++ first :: later := by
    rw [List.append_nil, same]
  rcases part_of_cut (fun member => noFirst first member rfl) cut with
    ⟨middle, _, none⟩ | ⟨middle, isBefore, isLater⟩
  · cases middle <;> cases none
  have cutKey : (before ++ [mark]) ++ (key ++ ['=']) ++ [] = front ++ first :: middle := by
    rw [← isBefore]
    simp
  rcases part_of_cut noKey cutKey with ⟨inner, _, none⟩ | ⟨inner, isFront, isMiddle⟩
  · cases inner <;> cases none
  obtain ⟨start, final, isStart⟩ : ∃ start final, first :: inner = start ++ [final] := by
    rcases List.eq_nil_or_concat (first :: inner) with none | ⟨start, final, isConcat⟩
    · cases none
    · exact ⟨start, final, by rw [isConcat, List.concat_eq_append]⟩
  rw [isStart, ← List.append_assoc] at isFront
  obtain ⟨_, sameMark⟩ := List.append_inj' isFront rfl
  cases sameMark
  refine ⟨start, mark :: (key ++ ['=']), value, ?_, isParameter, isValue⟩
  calc first :: later = (first :: inner) ++ (key ++ ['=']) ++ value := by
        rw [isLater, isMiddle]
        simp
    _ = start ++ mark :: (key ++ ['=']) ++ value := by
        rw [isStart]
        simp

theorem InValue.append {before : List Char} (inValue : InValue before) (front : List Char) :
    InValue (front ++ before) := by
  obtain ⟨earlier, parameter, value, rfl, isParameter, isValue⟩ := inValue
  exact ⟨front ++ earlier, parameter, value, by simp, isParameter, isValue⟩

/-- After a value, a header lies in a value exactly by what comes after that one. -/
theorem not_inValue_of_rest {front before header after : List Char} (isHeader : IsHeader header)
    (ends : EndsValue (before ++ header ++ after)) (outside : ¬ InValue before) :
    ¬ InValue (front ++ before) := by
  cases before with
  | nil =>
      obtain ⟨first, rest, rfl, isFirst⟩ := isHeader.head
      have refused := ends first rfl
      rw [isFirst] at refused
      cases refused
  | cons first rest => exact fun inValue => outside (inValue_of_append (ends first rfl) inValue)

/-! ## Lines of the filtered message -/

/-- After the second substitution every header is clean exactly when the headers outside
of values were so before. -/
theorem ValuesReplaced.headers_iff {text result : List Char} (replaced : ValuesReplaced text result) :
    EveryHeader (fun _ after => OnlyMarkers after) result ↔ OpenHeadersClean text := by
  induction replaced with
  | @unchanged text none =>
      constructor
      · intro every before header after same isHeader _
        exact every before header after same isHeader
      · intro clean before header after same isHeader
        refine clean before header after same isHeader ?_
        rintro ⟨front, parameter, value, rfl, isParameter, isValue⟩
        refine none front (parameter ++ value ++ header ++ after) ?_
          (startsValue_of_header isParameter isValue isHeader)
        rw [same]
        simp
  | @replaced gap parameter value rest result first isParameter notEmpty isValue ends others
      inductionHypothesis =>
      have equals := isParameter.equals_mem
      constructor
      · intro every before header after same isHeader outside
        rw [List.append_assoc parameter] at same
        rcases header_of_parameter isParameter isHeader same.symm with
          ⟨middle, rfl, _⟩ | ⟨middle, rfl, isRest⟩
        · have markers := every before header (middle ++ (parameter ++ redacted ++ result))
            (by simp) isHeader
          exact absurd (by simp [equals]) (@OnlyMarkers.notMem _ markers '=' (by decide))
        · rcases header_of_value isHeader isValue ends isRest.symm with
            inside | ⟨next, inner, rfl, rfl, _⟩
          · exact absurd ⟨gap, parameter, middle, rfl, isParameter, inside⟩ outside
          · have later : EveryHeader (fun _ after => OnlyMarkers after) result := by
              rintro front other final rfl isOther
              exact every (gap ++ (parameter ++ redacted ++ front)) other final (by simp) isOther
            refine inductionHypothesis.mp later (next :: inner) header after rfl isHeader ?_
            intro inValue
            have extended := inValue.append (gap ++ parameter ++ value)
            exact outside (by simpa using extended)
      · intro clean before header after same isHeader
        rw [List.append_assoc parameter] at same
        rcases header_of_parameter isParameter isHeader same.symm with
          ⟨middle, rfl, _⟩ | ⟨middle, _, isRest⟩
        · have outside : ¬ InValue before := by
            rintro ⟨front, other, inside, rfl, isOther, isInside⟩
            refine first front (other ++ inside ++ header ++ middle) (by simp) ?_ ?_
            · obtain ⟨mark, key, rfl, _⟩ := isOther.chars
              simp
            · rw [List.append_assoc]
              exact startsValue_of_header isOther isInside isHeader
          have markers := clean before header (middle ++ (parameter ++ value ++ rest)) (by simp)
            isHeader outside
          exact absurd (by simp [equals]) (@OnlyMarkers.notMem _ markers '=' (by decide))
        · obtain ⟨inner, _, rfl⟩ := header_of_marker isHeader isRest.symm
          have later : OpenHeadersClean rest := by
            rintro front other final rfl isOther outside
            refine clean (gap ++ (parameter ++ value) ++ front) other final (by simp) isOther ?_
            exact not_inValue_of_rest isOther ends outside
          exact inductionHypothesis.mpr later inner header after rfl isHeader

/-- The text without a newline at its end. -/
def withoutFinalNewline (text : List Char) : List Char :=
  if text.getLast? = some '\n' then text.dropLast else text

/-- The lines of a message before its last one. -/
def innerLines (message : List Char) : List (List Char) :=
  (lines '\n' (withoutFinalNewline message)).dropLast

theorem withoutFinalNewline_append (text : List Char) :
    ∃ final, (final = [] ∨ final = ['\n']) ∧ text = withoutFinalNewline text ++ final := by
  unfold withoutFinalNewline
  split
  · next ends =>
    refine ⟨['\n'], Or.inr rfl, ?_⟩
    exact (List.dropLast_append_getLast? '\n' ends).symm
  · exact ⟨[], Or.inl rfl, (List.append_nil _).symm⟩

theorem withoutFinalNewline_of_tail {front tail final : List Char} (notEmpty : tail ≠ [])
    (inLine : '\n' ∉ tail) (isFinal : final = [] ∨ final = ['\n']) :
    withoutFinalNewline (front ++ tail ++ final) = front ++ tail := by
  rcases isFinal with rfl | rfl
  · have last : (front ++ tail ++ []).getLast? ≠ some '\n' := by
      rw [List.append_nil, List.getLast?_append_of_ne_nil _ notEmpty]
      exact fun isLast => inLine (List.mem_of_getLast? isLast)
    rw [withoutFinalNewline, if_neg last, List.append_nil]
  · rw [withoutFinalNewline, List.getLast?_concat, if_pos rfl, List.dropLast_concat]

/-- A newline at the end starts an empty line. -/
theorem lines_append_final {final : List Char} (isFinal : final = [] ∨ final = ['\n'])
    (text : List Char) : ∃ others, lines '\n' (text ++ final) = lines '\n' text ++ others ∧
      ∀ line ∈ others, line = [] := by
  rcases isFinal with rfl | rfl
  · exact ⟨[], by simp, by simp⟩
  · exact ⟨[[]], lines_append_newline text [], by simp⟩

/-- The second substitution works line by line. -/
theorem lines_query_sub (text : List Char) :
    lines '\n' (queryPattern.sub redacted text) =
      (lines '\n' text).map (queryPattern.sub redacted) := by
  induction size : text.length using Nat.strongRecOn generalizing text with
  | _ size inductionHypothesis =>
      subst size
      by_cases present : '\n' ∈ text
      · obtain ⟨front, rest, rfl, inLine⟩ := List.eq_append_cons_of_mem present
        rw [query_sub_newline, lines_append_newline, lines_append_newline, List.map_append,
          inductionHypothesis front.length (by simp) front rfl,
          inductionHypothesis rest.length (by simp; omega) rest rfl]
      · have inLine : '\n' ∉ queryPattern.sub redacted text := by
          intro member
          rcases (valuesReplaced_sub text).mem member with inText | inMarker
          · exact present inText
          · exact absurd inMarker (by decide)
        rw [lines_of_notMem inLine, lines_of_notMem present]
        rfl

/-- Where no header matches, those of the last line end it. -/
theorem clean_of_unmatched {body last final : List Char} (inLine : '\n' ∉ last)
    (isFinal : final = [] ∨ final = ['\n'])
    (none : ∀ front later, body ++ last ++ final = front ++ later →
      headerPattern.matchAt later = none) : OpenHeadersClean last := by
  rintro before header after rfl isHeader _
  cases after with
  | nil => exact .nil
  | cons first rest =>
      have afterInLine : '\n' ∉ first :: rest :=
        fun member => inLine (List.mem_append_right _ member)
      obtain ⟨found, isFound⟩ := header_matches isHeader (List.cons_ne_nil first rest) afterInLine
        isFinal
      rw [none (body ++ before) _ (by simp)] at isFound
      cases isFound

/-- Where a header matches, it is the first one of the last line, or what it keeps ends
that line. -/
theorem clean_of_matched {gap header spaces replaced final body tail : List Char}
    (first : ∀ front later, gap = front ++ later → later ≠ [] →
      headerPattern.matchAt (later ++ (header ++ spaces ++ replaced ++ final)) = none)
    (isHeader : IsHeader header)
    (isSpaces : ∀ character ∈ spaces, Text.isSpace character = true) (notEmpty : replaced ≠ [])
    (inLine : '\n' ∉ replaced) (isFinal : final = [] ∨ final = ['\n'])
    (split : gap ++ (header ++ spaces) = body ++ tail) (tailInLine : '\n' ∉ tail) :
    OpenHeadersClean (tail ++ redacted) := by
  intro before other after same isOther _
  have markers : OnlyMarkers (spaces ++ redacted) :=
    onlyMarkers_spaces isSpaces (List.append_nil redacted ▸ .marker .nil)
  have whole : gap ++ header ++ (spaces ++ redacted) = (body ++ before) ++ other ++ after := by
    calc gap ++ header ++ (spaces ++ redacted) = (gap ++ (header ++ spaces)) ++ redacted := by simp
      _ = body ++ (tail ++ redacted) := by rw [split, List.append_assoc]
      _ = (body ++ before) ++ other ++ after := by rw [same]; simp
  rcases headers_cut isHeader isOther whole with ⟨_, rfl⟩ | ⟨_, colon⟩ | ⟨earlier, _⟩
  · exact markers
  · exact absurd colon (markers.notMem (by decide))
  · -- An earlier header of the last line would have matched.
    have marker : redacted = '[' :: "REDACTED]".toList := rfl
    rw [marker] at same
    rcases part_of_cut (isOther.notMem (by decide)) same.symm with
      ⟨middle, rfl, _⟩ | ⟨middle, _, isMarker⟩
    · have restInLine : '\n' ∉ middle ++ replaced := by
        intro member
        rcases List.mem_append.mp member with inMiddle | inReplaced
        · exact tailInLine (List.mem_append_right _ inMiddle)
        · exact inLine inReplaced
      have restNotEmpty : middle ++ replaced ≠ [] := List.append_ne_nil_of_right_ne_nil _ notEmpty
      obtain ⟨found, isFound⟩ := header_matches isOther restNotEmpty restInLine isFinal
      have cut : gap ++ (header ++ spaces) = (body ++ before) ++ (other ++ middle) := by
        rw [split]
        simp
      rcases List.append_eq_append_iff.mp cut with ⟨later, isBody, _⟩ | ⟨later, isGap, isOuter⟩
      · have lengths := congrArg List.length isBody
        simp only [List.length_append] at lengths earlier
        omega
      · have laterNotEmpty : later ≠ [] := by
          rintro rfl
          rw [isGap, List.append_nil] at earlier
          exact absurd earlier (Nat.lt_irrefl _)
        have none := first (body ++ before) later isGap laterNotEmpty
        have sameText : later ++ (header ++ spaces ++ replaced ++ final) =
            other ++ (middle ++ replaced) ++ final := by
          calc later ++ (header ++ spaces ++ replaced ++ final)
              = (later ++ (header ++ spaces)) ++ (replaced ++ final) := by simp
            _ = other ++ (middle ++ replaced) ++ final := by
                rw [← isOuter]
                simp
        rw [sameText, isFound] at none
        cases none
    · obtain ⟨name, rfl, _⟩ := isOther.colon
      have colon : ':' ∈ "REDACTED]".toList := by
        rw [isMarker]
        simp
      exact absurd colon (by decide)

/-- The first substitution changes the last line only, and leaves it clean. -/
theorem lines_header_sub (message : List Char) :
    ∃ last others, lines '\n' (headerPattern.sub redacted message) =
        innerLines message ++ last :: others ∧
      OpenHeadersClean last ∧ ∀ line ∈ others, line = [] := by
  have substituted := Pattern.substituted_sub headerPattern redacted message
  generalize headerPattern.sub redacted message = result at substituted
  cases substituted with
  | unmatched none =>
      obtain ⟨final, isFinal, isMessage⟩ := withoutFinalNewline_append message
      obtain ⟨body, last, isBody, inLine, replaced⟩ :=
        exists_lastLine '\n' (withoutFinalNewline message)
      obtain ⟨others, isLines, empty⟩ := lines_append_final isFinal (withoutFinalNewline message)
      refine ⟨last, others, ?_, ?_, empty⟩
      · have whole := replaced last inLine
        rw [← isBody] at whole
        conv_lhs => rw [isMessage]
        rw [isLines, whole, innerLines, List.append_assoc]
        rfl
      · exact clean_of_unmatched inLine isFinal fun front later split =>
          none front later (by rw [isMessage, isBody, split])
  | @matched gap text result found first isFound rest =>
      obtain ⟨header, spaces, isKept, isHeader, isSpaces, notEmpty, inLine, isFinal⟩ :=
        header_matchAt isFound
      have joined := (Pattern.matchAt_eq_some isFound).1
      have noColon : ':' ∉ found.last := by
        rcases isFinal with none | newline
        · simp [none]
        · rw [newline]
          decide
      have kept := header_substituted_of_none (no_header_of_colon noColon) rest
      rw [kept]
      rw [isKept] at joined ⊢
      obtain ⟨body, tail, split, tailInLine, replaced⟩ :=
        exists_lastLine '\n' (gap ++ (header ++ spaces))
      have isMessage : gap ++ text =
          (gap ++ (header ++ spaces)) ++ found.replaced ++ found.last := by
        rw [joined]
        simp
      have inner : innerLines (gap ++ text) =
          (lines '\n' (gap ++ (header ++ spaces))).dropLast := by
        have tailReplaced : '\n' ∉ tail ++ found.replaced := by
          intro member
          exact (List.mem_append.mp member).elim tailInLine inLine
        rw [innerLines, isMessage, withoutFinalNewline_of_tail notEmpty inLine isFinal]
        conv_lhs => rw [split, List.append_assoc]
        rw [replaced _ tailReplaced, List.dropLast_concat]
      obtain ⟨others, isLines, empty⟩ := lines_append_final isFinal (body ++ (tail ++ redacted))
      have tailRedacted : '\n' ∉ tail ++ redacted := by
        intro member
        exact (List.mem_append.mp member).elim tailInLine (by decide)
      refine ⟨tail ++ redacted, others, ?_, ?_, empty⟩
      · have isResult : gap ++ (header ++ spaces ++ redacted ++ found.last) =
            (body ++ (tail ++ redacted)) ++ found.last := by
          calc gap ++ (header ++ spaces ++ redacted ++ found.last)
              = (gap ++ (header ++ spaces)) ++ (redacted ++ found.last) := by simp
            _ = (body ++ (tail ++ redacted)) ++ found.last := by
                rw [split]
                simp
        rw [isResult, isLines, replaced _ tailRedacted, inner, List.append_assoc]
        rfl
      · refine clean_of_matched (fun front later isGap notNil => ?_) isHeader isSpaces notEmpty
          inLine isFinal split tailInLine
        rw [← joined]
        exact first front later isGap notNil

/-! ## Filtered records -/

theorem headersRedacted_sub_iff (line : List Char) :
    HeadersRedacted (queryPattern.sub redacted line) ↔ OpenHeadersClean line :=
  headersRedacted_iff.trans (valuesReplaced_sub line).headers_iff

/-- On every line of a filtered message, white space and markers only follow the first
header, exactly when that is so already of the headers outside of values on every line
of the message before its last one. -/
theorem headers_redacted_iff {Argument : Type} (interpolate : String → List Argument → String)
    (record : LogRecord Argument) :
    (∀ line ∈ lines '\n' ((filter interpolate record).2.getMessage interpolate).toList,
        HeadersRedacted line) ↔
      ∀ line ∈ innerLines (record.getMessage interpolate).toList, OpenHeadersClean line := by
  rw [getMessage_filter, String.toList_ofList, redact_eq, lines_query_sub]
  obtain ⟨last, others, isLines, clean, empty⟩ :=
    lines_header_sub (record.getMessage interpolate).toList
  rw [isLines]
  simp only [List.forall_mem_map, List.forall_mem_append, List.forall_mem_cons,
    headersRedacted_sub_iff]
  refine ⟨And.left, fun inner => ⟨inner, clean, fun line member => ?_⟩⟩
  rintro before header after same isHeader _
  rw [empty line member] at same
  obtain ⟨first, rest, rfl, _⟩ := isHeader.head
  simp at same

/-- A header on the first of two lines. -/
def twoLines : LogRecord Unit where
  msg := "Authorization: Bearer private-value\nretrying"
  args := []

/-- The value of a header before the last line is kept. -/
theorem first_line_leaks :
    (filter (fun message _ => message) twoLines).2.msg =
        "Authorization: Bearer private-value\nretrying" ∧
      ¬ ∀ line ∈ lines '\n'
          ((filter (fun message _ => message) twoLines).2.getMessage
            (fun message _ => message)).toList, HeadersRedacted line := by
  have kept : (filter (fun message _ => message) twoLines).2.msg =
      "Authorization: Bearer private-value\nretrying" := by decide +kernel
  refine ⟨kept, fun every => ?_⟩
  have member : "Authorization: Bearer private-value".toList ∈ lines '\n'
      ((filter (fun message _ => message) twoLines).2.msg).toList := by
    rw [kept]
    decide +kernel
  have isHeader : IsHeader "Authorization:".toList := by
    simp [IsHeader, IsWord, headerName, caseVariants, foldedLetters]
  have markers := headersRedacted_iff.mp (every _ member) [] "Authorization:".toList
    " Bearer private-value".toList rfl isHeader
  rcases @OnlyMarkers.mem _ markers 'p' (by decide) with isSpace | inMarker
  · exact absurd isSpace (by decide)
  · exact absurd inMarker (by decide)

end ScraperProject.ScraperLogging
