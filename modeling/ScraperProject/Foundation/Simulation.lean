import ScraperProject.Foundation.History

/-!
Contract: one system whose histories are histories of another.

Owns the translation of a concrete history, operation by operation, into operations of
an abstract system, and the rule that a translation which is right for every operation
is right for every history and for every part of it.

Does not own either system.
-/

namespace ScraperProject.Foundation.History

variable {State Op Outcome Abstract AbstractOp AbstractOutcome : Type}
  (perform : Op → State → Outcome × State)
  (performAbstract : AbstractOp → Abstract → AbstractOutcome × Abstract)
  (translate : State → Op → List AbstractOp)

/-- The abstract operations of a concrete history, each chosen in the state that the
concrete operation finds. -/
def translated : State → List Op → List AbstractOp
  | _, [] => []
  | start, op :: rest => translate start op ++ translated (perform op start).2 rest

theorem translated_append (start : State) (first second : List Op) :
    translated perform translate start (first ++ second) =
      translated perform translate start first ++
        translated perform translate (after perform start first) second := by
  induction first generalizing start with
  | nil => rfl
  | cons op rest inductionHypothesis =>
      simp only [List.cons_append, translated, after, inductionHypothesis, List.append_assoc]

/-- Where the translation of every operation leads to the abstraction of the next state,
the translation of a history leads to the abstraction of its end. -/
theorem after_translated (abstraction : State → Abstract)
    (step : ∀ op state, abstraction (perform op state).2 =
      after performAbstract (abstraction state) (translate state op))
    (start : State) (ops : List Op) :
    abstraction (after perform start ops) =
      after performAbstract (abstraction start) (translated perform translate start ops) := by
  induction ops generalizing start with
  | nil => rfl
  | cons op rest inductionHypothesis =>
      rw [after, inductionHypothesis, translated, after_append, step op start]

end ScraperProject.Foundation.History
