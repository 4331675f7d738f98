import ScraperProject.ScraperLogging.HeaderRedaction

/-!
Contract: what the filter does to a message that it has filtered before.

Owns the texts that the two substitutions leave as they are, and the proof that a
filtered message is one: the filter of a second handler changes nothing.

Does not own what the first filter leaves in clear.
-/

namespace ScraperProject.ScraperLogging

open Foundation

/-! ## Parameters -/

/-- A value ends in one place. -/
theorem value_unique {value other rest last : List Char}
    (isValue : ∀ character ∈ value, isValueChar character = true) (ends : EndsValue rest)
    (isOther : ∀ character ∈ other, isValueChar character = true) (otherEnds : EndsValue last)
    (same : value ++ rest = other ++ last) : value = other := by
  rcases List.append_eq_append_iff.mp same with ⟨middle, isLonger, isRest⟩ |
    ⟨middle, isLonger, isLast⟩
  · cases middle with
    | nil => rw [isLonger, List.append_nil]
    | cons first later =>
        have refused := ends first (by rw [isRest]; rfl)
        rw [isOther first (by rw [isLonger]; simp)] at refused
        cases refused
  · cases middle with
    | nil => rw [isLonger, List.append_nil]
    | cons first later =>
        have refused := otherEnds first (by rw [isLast]; rfl)
        rw [isValue first (by rw [isLonger]; simp)] at refused
        cases refused

theorem redacted_isValue : ∀ character ∈ redacted, isValueChar character = true :=
  List.all_eq_true.mp (by decide)

/-- Where every value is the marker, the second substitution changes nothing. -/
theorem ParametersRedacted.fixed {text : List Char} (parameters : ParametersRedacted text) :
    queryPattern.sub redacted text = text := by
  apply Pattern.sub_fixed
  intro front later found split isFound
  obtain ⟨isParameter, notEmpty, isValue, ends⟩ := query_matchAt isFound
  have whole : text = front ++ found.kept ++ (found.replaced ++ found.last) := by
    rw [split, (Pattern.matchAt_eq_some isFound).1]
    simp
  rcases parameters front found.kept _ whole isParameter with none | ⟨rest, isMarker, markerEnds⟩
  · cases isReplaced : found.replaced with
    | nil => exact absurd isReplaced notEmpty
    | cons first others =>
        have refused := none first (by rw [isReplaced]; rfl)
        rw [isValue first (by rw [isReplaced]; simp)] at refused
        cases refused
  · exact value_unique isValue ends redacted_isValue markerEnds isMarker

/-! ## Headers -/

def AllSpaces (spaces : List Char) : Prop := ∀ character ∈ spaces, Text.isSpace character = true

/-- A last line that is not empty, with or without a newline at its end. -/
structure IsLastLine (tail : List Char) : Prop where
  notEmpty : tail ≠ []
  notNewline : tail ≠ ['\n']
  inLine : '\n' ∉ tail.dropLast

/-- What follows a header that matches: white space, and a last line. -/
def Replaceable (after : List Char) : Prop :=
  ∃ spaces tail, after = spaces ++ tail ∧ AllSpaces spaces ∧ IsLastLine tail

/-- What follows a header whose value has been replaced. -/
def Marked (after : List Char) : Prop :=
  ∃ spaces final, after = spaces ++ (redacted ++ final) ∧ AllSpaces spaces ∧
    (final = [] ∨ final = ['\n'])

/-- Every header that would match has the marker already. -/
def HeadersMarked (text : List Char) : Prop :=
  EveryHeader (fun _ after => Replaceable after → Marked after) text

theorem isLastLine_append {value final : List Char} (notEmpty : value ≠ []) (inLine : '\n' ∉ value)
    (isFinal : final = [] ∨ final = ['\n']) : IsLastLine (value ++ final) where
  notEmpty := List.append_ne_nil_of_left_ne_nil notEmpty final
  notNewline := by
    intro same
    rcases List.append_eq_singleton_iff.mp same with ⟨isNil, _⟩ | ⟨isNewline, _⟩
    · exact notEmpty isNil
    · rw [isNewline] at inLine
      exact inLine List.mem_cons_self
  inLine := by
    rcases isFinal with rfl | rfl
    · rw [List.append_nil]
      exact fun member => inLine (List.dropLast_subset _ member)
    · rw [List.dropLast_concat]
      exact inLine

theorem IsLastLine.split {tail : List Char} (isLastLine : IsLastLine tail) :
    ∃ value final, tail = value ++ final ∧ value ≠ [] ∧ '\n' ∉ value ∧
      (final = [] ∨ final = ['\n']) := by
  have joined := List.dropLast_append_getLast isLastLine.notEmpty
  by_cases newline : tail.getLast isLastLine.notEmpty = '\n'
  · rw [newline] at joined
    refine ⟨tail.dropLast, ['\n'], joined.symm, fun isNil => ?_, isLastLine.inLine, Or.inr rfl⟩
    rw [isNil] at joined
    exact isLastLine.notNewline joined.symm
  · refine ⟨tail, [], (List.append_nil _).symm, isLastLine.notEmpty, fun member => ?_, Or.inl rfl⟩
    rw [← joined, List.mem_append, List.mem_singleton] at member
    exact member.elim isLastLine.inLine fun isLast => newline isLast.symm

/-- What is at the start of a match is a header with a replaceable end. -/
theorem replaceable_of_match {text : List Char} {found : Found Char}
    (isFound : headerPattern.matchAt text = some found) :
    ∃ header after, text = header ++ after ∧ IsHeader header ∧ Replaceable after := by
  obtain ⟨header, spaces, isKept, isHeader, isSpaces, notEmpty, inLine, isFinal⟩ :=
    header_matchAt isFound
  refine ⟨header, spaces ++ (found.replaced ++ found.last), ?_, isHeader, spaces, _, rfl, isSpaces,
    isLastLine_append notEmpty inLine isFinal⟩
  rw [(Pattern.matchAt_eq_some isFound).1, isKept]
  simp

theorem match_of_replaceable {header after : List Char} (isHeader : IsHeader header)
    (replaceable : Replaceable after) :
    ∃ found, headerPattern.matchAt (header ++ after) = some found := by
  obtain ⟨spaces, tail, rfl, isSpaces, isLastLine⟩ := replaceable
  obtain ⟨value, final, rfl, notEmpty, inLine, isFinal⟩ := isLastLine.split
  apply Pattern.matchAt_isSome_iff.mpr
  refine ⟨header ++ spaces, value, final, by simp, ?_, ?_⟩
  · exact ⟨header, spaces, rfl, (@matches_ignoringCase headerName _ _).mpr isHeader, isSpaces⟩
  · refine ⟨value, [], (List.append_nil _).symm, Regex.matches_plus.mpr ⟨notEmpty, ?_⟩, rfl, ?_⟩
    · intro character member
      have other : character ≠ '\n' := fun isNewline => inLine (isNewline ▸ member)
      simpa [isInLine] using other
    · simpa using isFinal

/-- White space is matched as far as it goes, so that the marker alone is replaced. -/
theorem replaced_of_marked {header after : List Char} {found : Found Char}
    (isHeader : IsHeader header) (marked : Marked after)
    (isFound : headerPattern.matchAt (header ++ after) = some found) :
    found.replaced = redacted := by
  obtain ⟨spaces, final, rfl, isSpaces, isFinal⟩ := marked
  have only := Regex.ends_word (List.forall₂_map_left_iff.mpr
    (List.Forall₂.imp (fun _ _ variant => List.contains_iff_mem.mpr variant) isHeader))
    (spaces ++ (redacted ++ final))
  have longest : ((Regex.star Text.isSpace).ends (spaces ++ (redacted ++ final))).head? =
      some (spaces, redacted ++ final) := by
    have stops : (redacted ++ final).takeWhile Text.isSpace = [] := rfl
    have rest : (redacted ++ final).dropWhile Text.isSpace = redacted ++ final := rfl
    rw [Regex.ends, Regex.head?_runs, List.takeWhile_append_of_pos isSpaces,
      List.dropWhile_append_of_pos isSpaces, stops, rest, List.append_nil]
  have body : (headerPattern.body.ends (redacted ++ final)).head? = some (redacted, final) := by
    rcases isFinal with rfl | rfl <;> rfl
  have first := Pattern.matchAt_of_head (Regex.head?_ends_seq only longest) body
  rw [isFound] at first
  rw [Option.some.inj first]

/-- Where every header is marked, the first substitution changes nothing. -/
theorem HeadersMarked.fixed {text : List Char} (headers : HeadersMarked text) :
    headerPattern.sub redacted text = text := by
  apply Pattern.sub_fixed
  intro front later found split isFound
  obtain ⟨header, after, rfl, isHeader, replaceable⟩ := replaceable_of_match isFound
  have whole : text = front ++ header ++ after := by
    rw [split, List.append_assoc]
  exact replaced_of_marked isHeader (headers front header after whole isHeader replaceable) isFound

/-- The end of a line may be another one, after a part that is not white space only. -/
theorem Replaceable.exchange {front rest other : List Char} {character : Char}
    (replaceable : Replaceable (front ++ rest)) (member : character ∈ front)
    (isSolid : Text.isSpace character = false) (notEmpty : rest ≠ []) (otherNotEmpty : other ≠ [])
    (inLine : '\n' ∉ rest.dropLast → '\n' ∉ other.dropLast) : Replaceable (front ++ other) := by
  obtain ⟨spaces, tail, same, isSpaces, isLastLine⟩ := replaceable
  rcases List.append_eq_append_iff.mp same with ⟨middle, rfl, _⟩ | ⟨middle, rfl, rfl⟩
  · have isSpace := isSpaces character (List.mem_append_left _ member)
    rw [isSolid] at isSpace
    cases isSpace
  · have inMiddle : character ∈ middle := by
      rcases List.mem_append.mp member with inSpaces | inMiddle
      · have isSpace := isSpaces character inSpaces
        rw [isSolid] at isSpace
        cases isSpace
      · exact inMiddle
    have middleInLine := isLastLine.inLine
    rw [List.dropLast_append_of_ne_nil notEmpty, List.mem_append, not_or] at middleInLine
    refine ⟨spaces, middle ++ other, List.append_assoc _ _ _, isSpaces, ?_, ?_, ?_⟩
    · exact List.append_ne_nil_of_right_ne_nil _ otherNotEmpty
    · intro isNewline
      rcases List.append_eq_singleton_iff.mp isNewline with ⟨isNil, _⟩ | ⟨_, isNil⟩
      · rw [isNil] at inMiddle
        cases inMiddle
      · exact otherNotEmpty isNil
    · rw [List.dropLast_append_of_ne_nil otherNotEmpty, List.mem_append, not_or]
      exact ⟨middleInLine.1, inLine middleInLine.2⟩

/-- Of two headers of one text the earlier one lies before the other. -/
theorem header_earlier {before header after front other rest : List Char}
    (isHeader : IsHeader header) (isOther : IsHeader other)
    (same : before ++ header ++ after = front ++ other ++ rest)
    (isEarlier : before.length < front.length) :
    ∃ middle, front = before ++ header ++ middle ∧ after = middle ++ other ++ rest := by
  have length := isHeader.length
  have otherLength := isOther.length
  obtain ⟨name, rfl, _⟩ := isHeader.colon
  obtain ⟨otherName, rfl, noColon⟩ := isOther.colon
  have cut : front ++ otherName ++ (':' :: rest) = (before ++ name) ++ ':' :: after := by
    simpa using same.symm
  rcases part_of_cut noColon cut with ⟨middle, isFront, _⟩ | ⟨middle, isFront, isAfter⟩
  · have lengths := congrArg List.length isFront
    simp only [List.length_append, List.length_singleton] at lengths length otherLength
    omega
  · exact ⟨middle, by simpa using isFront, by simpa using isAfter⟩

/-! ## The first substitution -/

theorem headersMarked_sub (message : List Char) :
    HeadersMarked (headerPattern.sub redacted message) := by
  have substituted := Pattern.substituted_sub headerPattern redacted message
  generalize headerPattern.sub redacted message = result at substituted
  cases substituted with
  | unmatched none =>
      intro before header after same isHeader replaceable
      obtain ⟨found, isFound⟩ := match_of_replaceable isHeader replaceable
      rw [none before (header ++ after) (by rw [same, List.append_assoc])] at isFound
      cases isFound
  | @matched gap text result found first isFound rest =>
      obtain ⟨header, spaces, isKept, isHeader, isSpaces, notEmpty, inLine, isFinal⟩ :=
        header_matchAt isFound
      have joined := (Pattern.matchAt_eq_some isFound).1
      have lastColon : ':' ∉ found.last := by
        rcases isFinal with isNil | isNewline
        · simp [isNil]
        · rw [isNewline]
          decide
      rw [header_substituted_of_none (no_header_of_colon lastColon) rest, isKept]
      rw [isKept] at joined
      intro before other after same isOther replaceable
      have whole : gap ++ header ++ (spaces ++ (redacted ++ found.last)) =
          before ++ other ++ after := by
        rw [← same]
        simp
      rcases headers_cut isHeader isOther whole with ⟨_, rfl⟩ | ⟨_, colon⟩ | ⟨isEarlier, _⟩
      · exact ⟨spaces, found.last, rfl, isSpaces, isFinal⟩
      · have inSpaces : ':' ∉ spaces := by
          intro member
          have isSpace := isSpaces ':' member
          cases isSpace
        have inMarker : ':' ∉ redacted := by decide
        simp [inSpaces, inMarker, lastColon] at colon
      · -- Replaceable now, the earlier header was so before, and would have matched.
        obtain ⟨middle, rfl, rfl⟩ := header_earlier isOther isHeader whole.symm isEarlier
        obtain ⟨character, others, isFirst, isValue⟩ := isHeader.head
        have isSolid : Text.isSpace character = false := by
          simp only [isValueChar, Bool.and_eq_true, Bool.not_eq_true'] at isValue
          exact isValue.2
        have member : character ∈ middle ++ header ++ spaces := by
          rw [isFirst]
          simp
        have markerInLine : '\n' ∉ (found.replaced ++ found.last).dropLast :=
          (isLastLine_append notEmpty inLine isFinal).inLine
        have marked : Replaceable (middle ++ header ++ spaces ++ (redacted ++ found.last)) := by
          simpa using replaceable
        have original := marked.exchange member isSolid (List.cons_ne_nil '[' _)
          (List.append_ne_nil_of_left_ne_nil notEmpty _) fun _ => markerInLine
        obtain ⟨earlier, isEarlierFound⟩ := match_of_replaceable isOther original
        have none := first before (other ++ middle) (by simp)
          (List.append_ne_nil_of_left_ne_nil (by
            obtain ⟨head, tail, rfl, _⟩ := isOther.head
            exact List.cons_ne_nil head tail) _)
        rw [joined] at none
        have sameText : other ++ middle ++ (header ++ spaces ++ found.replaced ++ found.last) =
            other ++ (middle ++ header ++ spaces ++ (found.replaced ++ found.last)) := by
          simp
        rw [sameText, isEarlierFound] at none
        cases none

/-! ## The second substitution -/

/-- A marker for a value leaves the end of the line where it is. -/
theorem inLine_of_marker {value rest result : List Char}
    (isValue : ∀ character ∈ value, isValueChar character = true)
    (replaced : ValuesReplaced rest result)
    (inLine : '\n' ∉ result.dropLast → '\n' ∉ rest.dropLast)
    (marked : '\n' ∉ (redacted ++ result).dropLast) : '\n' ∉ (value ++ rest).dropLast := by
  have notInValue : '\n' ∉ value := by
    intro member
    have isValueNewline := isValue '\n' member
    cases isValueNewline
  have sameHead := replaced.head?
  cases rest with
  | nil =>
      rw [List.append_nil]
      exact fun member => notInValue (List.dropLast_subset _ member)
  | cons first others =>
      have notEmpty : result ≠ [] := by
        rintro rfl
        cases sameHead
      rw [List.dropLast_append_of_ne_nil notEmpty, List.mem_append, not_or] at marked
      rw [List.dropLast_append_of_ne_nil (List.cons_ne_nil first others), List.mem_append, not_or]
      exact ⟨notInValue, inLine marked.2⟩

theorem ValuesReplaced.inLine {text result : List Char} (replaced : ValuesReplaced text result) :
    '\n' ∉ result.dropLast → '\n' ∉ text.dropLast := by
  induction replaced with
  | unchanged => exact id
  | @replaced gap parameter value rest result _ _ notEmpty isValue _ others inductionHypothesis =>
      intro marked
      have sameText : gap ++ (parameter ++ value ++ rest) = gap ++ parameter ++ (value ++ rest) := by
        simp
      have sameResult : gap ++ (parameter ++ redacted ++ result) =
          gap ++ parameter ++ (redacted ++ result) := by
        simp
      have markerNotEmpty : redacted ++ result ≠ [] := List.cons_ne_nil '[' _
      rw [sameResult, List.dropLast_append_of_ne_nil markerNotEmpty, List.mem_append,
        not_or] at marked
      rw [sameText, List.dropLast_append_of_ne_nil (List.append_ne_nil_of_left_ne_nil notEmpty rest),
        List.mem_append, not_or]
      exact ⟨marked.1, inLine_of_marker isValue others inductionHypothesis marked.2⟩

/-- A marked end holds no parameter. -/
theorem Marked.equals_notMem {after : List Char} (marked : Marked after) : '=' ∉ after := by
  obtain ⟨spaces, final, rfl, isSpaces, isFinal⟩ := marked
  have inSpaces : '=' ∉ spaces := by
    intro member
    have isSpace := isSpaces '=' member
    cases isSpace
  have inMarker : '=' ∉ redacted := by decide
  rcases isFinal with rfl | rfl <;> simp [inSpaces, inMarker]

theorem ValuesReplaced.headersMarked {text result : List Char}
    (replaced : ValuesReplaced text result) (headers : HeadersMarked text) :
    HeadersMarked result := by
  induction replaced with
  | unchanged => exact headers
  | @replaced gap parameter value rest result first isParameter notEmpty isValue ends others
      inductionHypothesis =>
      have equals := isParameter.equals_mem
      have later : HeadersMarked rest := by
        rintro before header after rfl isHeader
        exact headers (gap ++ (parameter ++ value ++ before)) header after (by simp) isHeader
      intro before header after same isHeader replaceable
      rw [List.append_assoc parameter] at same
      rcases header_of_parameter isParameter isHeader same.symm with
        ⟨middle, rfl, rfl⟩ | ⟨middle, rfl, isRest⟩
      · -- The parameter is on the last line of the text too, where nothing is marked.
        have marked : Replaceable (middle ++ parameter ++ (redacted ++ result)) := by
          simpa using replaceable
        have original := marked.exchange (List.mem_append_right middle equals) (by decide)
          (List.cons_ne_nil '[' _) (List.append_ne_nil_of_left_ne_nil notEmpty rest)
          (inLine_of_marker isValue others others.inLine)
        have isMarked := headers before header (middle ++ parameter ++ (value ++ rest)) (by simp)
          isHeader original
        exact absurd (by simp [equals]) isMarked.equals_notMem
      · obtain ⟨inner, _, rfl⟩ := header_of_marker isHeader isRest.symm
        exact inductionHypothesis later inner header after rfl isHeader replaceable

/-! ## Filtered messages -/

/-- Redaction is done after the first time. -/
theorem redact_redact (message : List Char) : redact (redact message) = redact message := by
  have headers : HeadersMarked (redact message) :=
    (valuesReplaced_sub _).headersMarked (headersMarked_sub message)
  have parameters : ParametersRedacted (redact message) :=
    (valuesReplaced_sub _).parametersRedacted
  rw [redact_eq (redact message), headers.fixed, parameters.fixed]

/-- A second handler with the filter gets the record that the first one has left, and
leaves it so: the filter is idempotent on every record. -/
theorem filter_again {Argument : Type} (interpolate : String → List Argument → String)
    (record : LogRecord Argument) :
    filter interpolate (filter interpolate record).2 = filter interpolate record := by
  unfold filter
  simp only [LogRecord.getMessage, List.isEmpty_nil, if_true, String.toList_ofList, redact_redact]

end ScraperProject.ScraperLogging
