import ScraperProject.ScraperLogging.Redaction

/-!
Contract: what the filter does to query parameters.

Owns the replacement of the values of a text, what follows a parameter afterwards,
and the result for every record: no parameter keeps a value, and a message without a
header is its own replacement.

Does not own what the filter does to headers.
-/

namespace ScraperProject.ScraperLogging

open Foundation

/-! ## Replaced values -/

/-- The text with the values of its parameters replaced, leftmost first: a value goes
from its parameter to the next "&", white space or end. -/
inductive ValuesReplaced : List Char → List Char → Prop where
  | unchanged {text : List Char}
      (none : ∀ front later, text = front ++ later → ¬ StartsValue later) :
      ValuesReplaced text text
  | replaced {gap parameter value rest result : List Char}
      (first : ∀ front later, gap = front ++ later → later ≠ [] →
        ¬ StartsValue (later ++ (parameter ++ value ++ rest)))
      (isParameter : IsParameter parameter) (notEmpty : value ≠ [])
      (isValue : ∀ character ∈ value, isValueChar character = true) (ends : EndsValue rest)
      (others : ValuesReplaced rest result) :
      ValuesReplaced (gap ++ (parameter ++ value ++ rest))
        (gap ++ (parameter ++ redacted ++ result))

/-- The second substitution replaces the values of its text. -/
theorem valuesReplaced_sub (text : List Char) :
    ValuesReplaced text (queryPattern.sub redacted text) := by
  have substituted := Pattern.substituted_sub queryPattern redacted text
  generalize queryPattern.sub redacted text = result at substituted
  induction substituted with
  | unmatched none =>
      exact .unchanged fun front later split =>
        query_matchAt_eq_none.mp (none front later split)
  | @matched gap text result found first isFound _ inductionHypothesis =>
      obtain ⟨isParameter, notEmpty, isValue, ends⟩ := query_matchAt isFound
      have joined := (Pattern.matchAt_eq_some isFound).1
      rw [joined] at first ⊢
      exact .replaced (fun front later split isRest =>
        query_matchAt_eq_none.mp (first front later split isRest)) isParameter notEmpty isValue ends
        inductionHypothesis

/-- A replacement keeps the first character. -/
theorem ValuesReplaced.head? {text result : List Char} (replaced : ValuesReplaced text result) :
    result.head? = text.head? := by
  cases replaced with
  | unchanged => rfl
  | @replaced gap parameter value rest result _ isParameter =>
      obtain ⟨mark, key, rfl, _⟩ := isParameter.chars
      cases gap <;> rfl

/-- A replacement adds the marker only. -/
theorem ValuesReplaced.mem {text result : List Char} (replaced : ValuesReplaced text result)
    {character : Char} (member : character ∈ result) : character ∈ text ∨ character ∈ redacted := by
  induction replaced with
  | unchanged => exact Or.inl member
  | replaced _ _ _ _ _ _ inductionHypothesis =>
      simp only [List.mem_append] at member ⊢
      rcases member with inGap | (inParameter | inMarker) | later
      · exact Or.inl (Or.inl inGap)
      · exact Or.inl (Or.inr (Or.inl (Or.inl inParameter)))
      · exact Or.inr inMarker
      · exact (inductionHypothesis later).imp (fun inRest => Or.inr (Or.inr inRest)) id

/-- What follows a parameter: the marker in place of a value, or no value. -/
def ParametersRedacted (text : List Char) : Prop :=
  ∀ before parameter after, text = before ++ parameter ++ after → IsParameter parameter →
    EndsValue after ∨ ∃ rest, after = redacted ++ rest ∧ EndsValue rest

theorem endsValue_of_not_startsValue {parameter after : List Char}
    (isParameter : IsParameter parameter) (none : ¬ StartsValue (parameter ++ after)) :
    EndsValue after := by
  intro character isHead
  by_contra isValue
  cases after with
  | nil => cases isHead
  | cons first rest =>
      cases isHead
      exact none ⟨parameter, character, rest, rfl, isParameter, by simpa using isValue⟩

/-- A parameter of a text that ends in one lies before that, or is it. -/
theorem parameter_of_append {gap parameter before other after : List Char}
    (isParameter : IsParameter parameter) (isOther : IsParameter other)
    (same : before ++ other ++ after = gap ++ parameter) :
    (∃ middle, gap = before ++ other ++ middle ∧ after = middle ++ parameter) ∨ after = [] := by
  obtain ⟨mark, key, rfl, isMark, keyChars⟩ := isParameter.chars
  obtain ⟨otherMark, otherKey, rfl, _, otherChars⟩ := isOther.chars
  -- A mark stands only at the start of a parameter.
  have noMark : mark ∉ otherKey ++ ['='] := by
    intro member
    rcases List.mem_append.mp member with inKey | isEquals
    · rcases isMark with rfl | rfl
      · exact (otherChars _ inKey).2 (by decide)
      · exact absurd (otherChars _ inKey).1 (by decide)
    · rw [List.mem_singleton] at isEquals
      rcases isMark with rfl | rfl <;> cases isEquals
  have noEquals : '=' ∉ key := fun inKey => (keyChars '=' inKey).2 (by decide)
  have cut : (before ++ [otherMark]) ++ (otherKey ++ ['=']) ++ after =
      gap ++ mark :: (key ++ ['=']) := by
    rw [← same]
    simp
  rcases part_of_cut noMark cut with ⟨middle, isGap, isAfter⟩ | ⟨middle, _, isKey⟩
  · exact Or.inl ⟨middle, by rw [isGap]; simp, isAfter⟩
  · refine Or.inr ?_
    rcases List.append_eq_append_iff.mp isKey with ⟨final, isFront, isEnd⟩ | ⟨final, isFront, _⟩
    · cases final with
      | nil =>
          rw [List.append_nil] at isFront
          exact absurd (by rw [← isFront]; simp) noEquals
      | cons first others =>
          have none := (List.cons.inj isEnd).2
          exact (List.append_eq_nil_iff.mp none.symm).2
    · exact absurd (by rw [isFront]; simp) noEquals

/-- A parameter of a replaced piece lies before it, or is the one whose value was
replaced, or lies after it. -/
theorem parameter_of_piece {gap parameter result before other after : List Char}
    (isParameter : IsParameter parameter) (isOther : IsParameter other)
    (same : before ++ other ++ after = gap ++ (parameter ++ redacted ++ result)) :
    (∃ middle, gap = before ++ other ++ middle ∧
        after = middle ++ (parameter ++ redacted ++ result)) ∨
      after = redacted ++ result ∨
        ∃ middle, result = middle ++ other ++ after := by
  have marker : redacted = '[' :: ("REDACTED".toList ++ [']']) := rfl
  have cut : before ++ other ++ after =
      (gap ++ parameter) ++ '[' :: ("REDACTED".toList ++ ']' :: result) := by
    rw [same, marker]
    simp
  rcases part_of_cut (isOther.notMem (by decide)) cut with
    ⟨middle, isFront, isAfter⟩ | ⟨middle, _, isRest⟩
  · have kept : after = middle ++ (redacted ++ result) := by
      rw [isAfter, marker]
      simp
    rcases parameter_of_append isParameter isOther isFront.symm with ⟨inner, rfl, rfl⟩ | rfl
    · exact Or.inl ⟨inner, rfl, by rw [kept]; simp⟩
    · exact Or.inr (Or.inl kept)
  · -- The marker itself holds no parameter.
    rcases part_of_cut (isOther.notMem (by decide)) isRest.symm with
      ⟨inner, isMarker, _⟩ | ⟨inner, _, isResult⟩
    · have equals : '=' ∈ "REDACTED".toList := by
        rw [isMarker]
        simp [isOther.equals_mem]
      exact absurd equals (by decide)
    · exact Or.inr (Or.inr ⟨inner, isResult⟩)

/-- After a replacement no parameter has a value. -/
theorem ValuesReplaced.parametersRedacted {text result : List Char}
    (replaced : ValuesReplaced text result) : ParametersRedacted result := by
  induction replaced with
  | unchanged none =>
      rintro before parameter after rfl isParameter
      refine Or.inl (endsValue_of_not_startsValue isParameter ?_)
      exact none before (parameter ++ after) (List.append_assoc _ _ _)
  | @replaced gap parameter value rest result first isParameter notEmpty isValue ends others
      inductionHypothesis =>
      intro before other after same isOther
      rcases parameter_of_piece isParameter isOther same.symm with
        ⟨middle, rfl, rfl⟩ | rfl | ⟨middle, rfl⟩
      · -- A parameter before the leftmost value has none itself.
        have noValue := first before (other ++ middle) (List.append_assoc _ _ _)
          (by obtain ⟨mark, key, rfl, _⟩ := isOther.chars; simp)
        rw [List.append_assoc] at noValue
        have ended := endsValue_of_not_startsValue isOther noValue
        refine Or.inl fun character isHead => ended character ?_
        obtain ⟨mark, key, rfl, _⟩ := isParameter.chars
        cases middle <;> exact isHead
      · refine Or.inr ⟨result, rfl, fun character isHead => ends character ?_⟩
        rw [← others.head?, isHead]
      · exact inductionHypothesis middle other after rfl isOther

/-! ## Filtered records -/

/-- Without a header, the first substitution changes nothing. -/
theorem header_substituted_of_none {text result : List Char}
    (none : ∀ before header after, text = before ++ header ++ after → ¬ IsHeader header)
    (substituted : Pattern.Substituted headerPattern redacted text result) : result = text := by
  cases substituted with
  | unmatched => rfl
  | @matched gap text result found _ isFound =>
      obtain ⟨header, spaces, isKept, isHeader, _⟩ := header_matchAt isFound
      refine absurd isHeader (none gap header (spaces ++ found.replaced ++ found.last) ?_)
      rw [(Pattern.matchAt_eq_some isFound).1, isKept]
      simp

/-- A text without a colon holds no header. -/
theorem no_header_of_colon {text : List Char} (noColon : ':' ∉ text) :
    ∀ before header after, text = before ++ header ++ after → ¬ IsHeader header := by
  rintro before header after rfl isHeader
  obtain ⟨name, rfl, _⟩ := isHeader.colon
  simp at noColon

/-- A filtered message keeps no value of a redacted parameter; and where the message
has no header, exactly the values of its parameters are replaced. -/
theorem parameters_redacted {Argument : Type} (interpolate : String → List Argument → String)
    (record : LogRecord Argument) :
    ParametersRedacted ((filter interpolate record).2.getMessage interpolate).toList ∧
      ((∀ before header after,
          (record.getMessage interpolate).toList = before ++ header ++ after →
            ¬ IsHeader header) →
        ValuesReplaced (record.getMessage interpolate).toList
          ((filter interpolate record).2.getMessage interpolate).toList) := by
  rw [getMessage_filter, String.toList_ofList, redact_eq]
  constructor
  · exact (valuesReplaced_sub _).parametersRedacted
  · intro none
    rw [header_substituted_of_none none (Pattern.substituted_sub headerPattern redacted _)]
    exact valuesReplaced_sub _

def sampleRecord : LogRecord Unit where
  msg := "GET /listing?page=2&Token=a?secret=b&password=&api_key=c"
  args := []

/-- The values of a message without a header. -/
theorem sample_values_replaced :
    (filter (fun message _ => message) sampleRecord).2.msg =
        "GET /listing?page=2&Token=[REDACTED]&password=&api_key=[REDACTED]" ∧
      ValuesReplaced "GET /listing?page=2&Token=a?secret=b&password=&api_key=c".toList
        "GET /listing?page=2&Token=[REDACTED]&password=&api_key=[REDACTED]".toList := by
  have filtered : (filter (fun message _ => message) sampleRecord).2.msg =
      "GET /listing?page=2&Token=[REDACTED]&password=&api_key=[REDACTED]" := by decide +kernel
  refine ⟨filtered, ?_⟩
  have replaced := (parameters_redacted (fun message _ => message) sampleRecord).2
    (no_header_of_colon (by decide))
  change ValuesReplaced _ ((filter (fun message _ => message) sampleRecord).2.msg).toList at replaced
  rw [filtered] at replaced
  exact replaced

end ScraperProject.ScraperLogging
