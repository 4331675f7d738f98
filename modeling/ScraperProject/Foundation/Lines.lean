import Mathlib.Data.List.Basic
import Mathlib.Tactic.Basic

/-!
Contract: lists cut at a symbol, and texts as lines.

Owns on which side of a symbol a part of a list lies that does not contain it, the
lines of a text, how they join, and the last line of a text.

Does not own which symbol separates lines.
-/

namespace ScraperProject.Foundation

variable {Symbol : Type}

/-! ## Cuts -/

/-- The first occurrence of a symbol cuts a list in one way. -/
theorem cut_unique {left other rest later : List Symbol} {symbol : Symbol}
    (notLeft : symbol ∉ left) (notOther : symbol ∉ other)
    (same : left ++ symbol :: rest = other ++ symbol :: later) : left = other ∧ rest = later := by
  induction left generalizing other with
  | nil =>
      cases other with
      | nil => exact ⟨rfl, (List.cons.inj same).2⟩
      | cons head tail => exact absurd (List.cons.inj same).1 fun isHead => notOther (by simp [isHead])
  | cons head tail inductionHypothesis =>
      cases other with
      | nil =>
          exact absurd (List.cons.inj same).1 fun isHead => notLeft (by simp [← isHead])
      | cons otherHead otherTail =>
          obtain ⟨rfl, rest⟩ := List.cons.inj same
          obtain ⟨rfl, isRest⟩ := inductionHypothesis (fun member => notLeft (.tail _ member))
            (fun member => notOther (.tail _ member)) rest
          exact ⟨rfl, isRest⟩

/-- A part without the symbol lies before it or after it. -/
theorem part_of_cut {before part after front rest : List Symbol} {symbol : Symbol}
    (without : symbol ∉ part) (same : before ++ part ++ after = front ++ symbol :: rest) :
    (∃ middle, front = before ++ part ++ middle ∧ after = middle ++ symbol :: rest) ∨
      ∃ middle, before = front ++ symbol :: middle ∧ rest = middle ++ part ++ after := by
  rcases List.append_eq_append_iff.mp same with ⟨middle, isFront, isAfter⟩ | ⟨tail, isPart, isRest⟩
  · exact Or.inl ⟨middle, isFront, isAfter⟩
  · cases tail with
    | nil =>
        rw [List.append_nil] at isPart
        exact Or.inl ⟨[], by rw [List.append_nil, isPart], by simpa using isRest.symm⟩
    | cons head tail =>
        obtain ⟨rfl, isAfter⟩ := List.cons.inj isRest
        -- The symbol is before the end of the part, and so before its start.
        rcases List.append_eq_append_iff.mp isPart with
          ⟨inner, _, isInside⟩ | ⟨inner, isBefore, isTail⟩
        · exact absurd (isInside ▸ List.mem_append_right inner List.mem_cons_self) without
        · cases inner with
          | nil =>
              rw [List.nil_append] at isTail
              exact absurd (isTail ▸ List.mem_cons_self) without
          | cons first middle =>
              obtain ⟨rfl, isMiddle⟩ := List.cons.inj isTail
              refine Or.inr ⟨middle, isBefore, ?_⟩
              rw [isAfter, isMiddle]
              rfl

/-! ## Lines -/

section Lines

variable [DecidableEq Symbol] (newline : Symbol)

/-- The pieces of a text between newlines. -/
def lines : List Symbol → List (List Symbol)
  | [] => [[]]
  | symbol :: rest =>
      if symbol = newline then [] :: lines rest
      else
        match lines rest with
        | [] => [[symbol]]
        | first :: others => (symbol :: first) :: others

variable {newline}

theorem lines_ne_nil (text : List Symbol) : lines newline text ≠ [] := by
  cases text with
  | nil => simp [lines]
  | cons symbol rest =>
      rw [lines]
      split
      · simp
      · split <;> simp

theorem lines_cons_of_ne {symbol : Symbol} (inLine : symbol ≠ newline) {text first : List Symbol}
    {others : List (List Symbol)} (split : lines newline text = first :: others) :
    lines newline (symbol :: text) = (symbol :: first) :: others := by
  rw [lines, if_neg inLine, split]

/-- A text without a newline is one line. -/
theorem lines_of_notMem {text : List Symbol} (inLine : newline ∉ text) :
    lines newline text = [text] := by
  induction text with
  | nil => rfl
  | cons symbol rest inductionHypothesis =>
      apply lines_cons_of_ne
      · rintro rfl
        exact inLine List.mem_cons_self
      · exact inductionHypothesis fun member => inLine (.tail _ member)

/-- A newline ends a line. -/
theorem lines_append_newline (text rest : List Symbol) :
    lines newline (text ++ newline :: rest) = lines newline text ++ lines newline rest := by
  induction text with
  | nil => simp [lines]
  | cons symbol others inductionHypothesis =>
      rw [List.cons_append, lines, lines, inductionHypothesis]
      split
      · rfl
      · cases split : lines newline others with
        | nil => exact absurd split (lines_ne_nil others)
        | cons first later => rfl

theorem lines_append_of_notMem (front : List Symbol) {last : List Symbol}
    (inLine : newline ∉ last) :
    lines newline (front ++ newline :: last) = lines newline front ++ [last] := by
  rw [lines_append_newline, lines_of_notMem inLine]

/-- The last line of a text: any other one may stand in its place. -/
theorem exists_lastLine (newline : Symbol) (text : List Symbol) :
    ∃ body last, text = body ++ last ∧ newline ∉ last ∧ ∀ other, newline ∉ other →
      lines newline (body ++ other) = (lines newline text).dropLast ++ [other] := by
  by_cases present : newline ∈ text
  · obtain ⟨later, earlier, reversed, inLine⟩ :=
      List.eq_append_cons_of_mem (List.mem_reverse.mpr present)
    have split : text = earlier.reverse ++ newline :: later.reverse := by
      rw [← List.reverse_reverse text, reversed, List.reverse_append, List.reverse_cons,
        List.append_assoc]
      rfl
    have lastInLine : newline ∉ later.reverse := fun member => inLine (List.mem_reverse.mp member)
    have front : (lines newline text).dropLast = lines newline earlier.reverse := by
      rw [split, lines_append_of_notMem _ lastInLine, List.dropLast_concat]
    refine ⟨earlier.reverse ++ [newline], later.reverse, by simp [split], lastInLine, ?_⟩
    intro other otherInLine
    rw [front, List.append_assoc]
    exact lines_append_of_notMem _ otherInLine
  · refine ⟨[], text, rfl, present, fun other otherInLine => ?_⟩
    rw [lines_of_notMem present, List.nil_append, lines_of_notMem otherInLine]
    rfl

end Lines

end ScraperProject.Foundation
