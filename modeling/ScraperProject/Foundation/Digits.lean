import Mathlib.Data.Char
import Mathlib.Tactic.IntervalCases
import Mathlib.Tactic.Ring

/-!
Contract: fixed-width decimal fields and the order of texts built from them.

Owns the decimal text of a number at a fixed width, its reader, and the fact
that texts of equal width compare, character by character, as their numbers do.

Does not own calendars or any particular text layout.
-/

namespace ScraperProject.Foundation.Digits

/-! ## Lexicographic order of concatenations -/

/-- Two concatenations whose left parts have one length compare first by the
left part and then by the right part. -/
theorem append_lt_append_iff {α : Type} [LT α] {left left' right right' : List α}
    (sameLength : left.length = left'.length) :
    left ++ right < left' ++ right' ↔ left < left' ∨ (left = left' ∧ right < right') := by
  induction left generalizing left' with
  | nil =>
      cases left' with
      | nil => simp
      | cons head tail => simp at sameLength
  | cons head tail inductionHypothesis =>
      cases left' with
      | nil => simp at sameLength
      | cons head' tail' =>
          have tailLength : tail.length = tail'.length := by simpa using sameLength
          simp only [List.cons_append, List.cons_lt_cons_iff, List.cons.injEq,
            inductionHypothesis tailLength]
          tauto

/-! ## Decimal digits -/

theorem digitChar_lt_iff {left right : Nat} (leftDigit : left < 10) (rightDigit : right < 10) :
    Nat.digitChar left < Nat.digitChar right ↔ left < right := by
  interval_cases left <;> interval_cases right <;> decide

theorem digitChar_inj {left right : Nat} (leftDigit : left < 10) (rightDigit : right < 10) :
    Nat.digitChar left = Nat.digitChar right ↔ left = right := by
  interval_cases left <;> interval_cases right <;> decide

/-- The decimal text of `value` in exactly `width` characters, most significant
digit first; higher digits are dropped. -/
def fixedWidth : Nat → Nat → List Char
  | 0, _ => []
  | width + 1, value => fixedWidth width (value / 10) ++ [Nat.digitChar (value % 10)]

@[simp] theorem length_fixedWidth (width value : Nat) :
    (fixedWidth width value).length = width := by
  induction width generalizing value with
  | zero => rfl
  | succ width inductionHypothesis => simp [fixedWidth, inductionHypothesis]

theorem fixedWidth_inj {width left right : Nat}
    (leftFits : left < 10 ^ width) (rightFits : right < 10 ^ width) :
    fixedWidth width left = fixedWidth width right ↔ left = right := by
  induction width generalizing left right with
  | zero =>
      simp only [Nat.pow_zero] at leftFits rightFits
      simp only [fixedWidth, true_iff]
      omega
  | succ width inductionHypothesis =>
      rw [Nat.pow_succ] at leftFits rightFits
      have high := @inductionHypothesis (left / 10) (right / 10)
        (by omega) (by omega)
      have low := @digitChar_inj (left % 10) (right % 10)
        (Nat.mod_lt _ (by decide)) (Nat.mod_lt _ (by decide))
      simp only [fixedWidth, List.append_singleton_inj, high, low]
      omega

/-- Numbers that fit in the width compare as their texts do. -/
theorem fixedWidth_lt_iff {width left right : Nat}
    (leftFits : left < 10 ^ width) (rightFits : right < 10 ^ width) :
    fixedWidth width left < fixedWidth width right ↔ left < right := by
  induction width generalizing left right with
  | zero =>
      simp only [Nat.pow_zero] at leftFits rightFits
      simp only [fixedWidth, List.not_lt_nil, false_iff]
      omega
  | succ width inductionHypothesis =>
      rw [Nat.pow_succ] at leftFits rightFits
      have high := @inductionHypothesis (left / 10) (right / 10)
        (by omega) (by omega)
      have equal := @fixedWidth_inj width (left / 10) (right / 10)
        (by omega) (by omega)
      have low := @digitChar_lt_iff (left % 10) (right % 10)
        (Nat.mod_lt _ (by decide)) (Nat.mod_lt _ (by decide))
      simp only [fixedWidth]
      rw [append_lt_append_iff (by simp), high, equal]
      simp only [List.cons_lt_cons_iff, low, List.not_lt_nil, and_false, or_false]
      omega

/-! ## Reading digits back -/

/-- The value of one decimal digit character. -/
def digitValue? (character : Char) : Option Nat :=
  if '0' ≤ character ∧ character ≤ '9' then some (character.toNat - '0'.toNat) else none

theorem digitValue?_digitChar {digit : Nat} (isDigit : digit < 10) :
    digitValue? (Nat.digitChar digit) = some digit := by
  interval_cases digit <;> decide

/-- Read decimal digits onto an accumulator; any other character is refused. -/
def readDigits (accumulated : Nat) : List Char → Option Nat
  | [] => some accumulated
  | character :: rest =>
      (digitValue? character).bind fun digit => readDigits (accumulated * 10 + digit) rest

theorem readDigits_append (accumulated : Nat) (left right : List Char) :
    readDigits accumulated (left ++ right) =
      (readDigits accumulated left).bind fun value => readDigits value right := by
  induction left generalizing accumulated with
  | nil => rfl
  | cons character rest inductionHypothesis =>
      simp only [List.cons_append, readDigits]
      cases digitValue? character with
      | none => rfl
      | some digit => exact inductionHypothesis _

/-- A fixed-width text reads back as the number it was printed from. -/
theorem readDigits_fixedWidth {width value : Nat} (fits : value < 10 ^ width)
    (accumulated : Nat) :
    readDigits accumulated (fixedWidth width value) = some (accumulated * 10 ^ width + value) := by
  induction width generalizing value with
  | zero =>
      simp only [Nat.pow_zero] at fits
      simp only [fixedWidth, readDigits, Nat.pow_zero, Option.some.injEq]
      omega
  | succ width inductionHypothesis =>
      rw [Nat.pow_succ] at fits
      have digit : value % 10 < 10 := Nat.mod_lt _ (by decide)
      rw [fixedWidth, readDigits_append, @inductionHypothesis (value / 10) (by omega)]
      simp only [Option.bind_some, readDigits, digitValue?_digitChar digit, Option.some.injEq]
      rw [Nat.pow_succ]
      have split := Nat.div_add_mod value 10
      calc (accumulated * 10 ^ width + value / 10) * 10 + value % 10
          = accumulated * (10 ^ width * 10) + (10 * (value / 10) + value % 10) := by ring
        _ = accumulated * (10 ^ width * 10) + value := by rw [split]

end ScraperProject.Foundation.Digits
