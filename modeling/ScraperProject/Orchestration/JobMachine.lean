import Mathlib.Logic.Relation
import ScraperProject.Database.Schema

/-!
Contract: the documented life of a detail job.

Owns the machine of `docs/runtime-state.md`: pending, leased, then succeeded,
exhausted or pending again, with a counter that a lease moves by one; and what
holds along every path of it.

Does not own the tables; the queue is shown to refine this machine elsewhere.
-/

namespace ScraperProject.Orchestration

open Database

/-- What the document says of a job: its state and its number of attempts. -/
structure JobMachine where
  state : JobState
  attemptCount : Int
deriving DecidableEq

namespace JobMachine

/-- A job that was never leased. -/
def initial : JobMachine := ⟨.pending, 0⟩

/-- The arrows of the document. -/
inductive Step : JobMachine → JobMachine → Prop where
  | lease (count : Int) : Step ⟨.pending, count⟩ ⟨.processing, count + 1⟩
  | success (count : Int) : Step ⟨.processing, count⟩ ⟨.succeeded, count⟩
  | retry (count : Int) : Step ⟨.processing, count⟩ ⟨.pending, count⟩
  | exhaustion (count : Int) : Step ⟨.processing, count⟩ ⟨.failedExhausted, count⟩

/-- A step, or a call about another job. -/
def Moves (before after : JobMachine) : Prop := before = after ∨ Step before after

def Terminal (machine : JobMachine) : Prop :=
  machine.state = .succeeded ∨ machine.state = .failedExhausted

theorem Moves.refl (machine : JobMachine) : Moves machine machine := Or.inl rfl

/-- The counter grows by one on a lease and on no other step. -/
theorem Moves.counted {before after : JobMachine} (moves : Moves before after) :
    (before.state = .pending ∧ after.state = .processing ∧
        after.attemptCount = before.attemptCount + 1) ∨
      (¬ (before.state = .pending ∧ after.state = .processing) ∧
        after.attemptCount = before.attemptCount) := by
  rcases moves with rfl | step
  · refine Or.inr ⟨?_, rfl⟩
    rintro ⟨pending, processing⟩
    rw [pending] at processing
    cases processing
  · cases step with
    | lease count => exact Or.inl ⟨rfl, rfl, rfl⟩
    | success count => exact Or.inr ⟨by simp, rfl⟩
    | retry count => exact Or.inr ⟨by simp, rfl⟩
    | exhaustion count => exact Or.inr ⟨by simp, rfl⟩

/-- Nothing leaves a terminal state. -/
theorem Moves.of_terminal {before after : JobMachine} (moves : Moves before after)
    (terminal : before.Terminal) : after = before := by
  rcases moves with rfl | step
  · rfl
  · cases step <;> rcases terminal with same | same <;> cases same

theorem terminal_of_path {before after : JobMachine}
    (path : Relation.ReflTransGen Moves before after) (terminal : before.Terminal) :
    after = before := by
  induction path with
  | refl => rfl
  | tail _ moves inductionHypothesis =>
      subst inductionHypothesis
      exact moves.of_terminal terminal

end JobMachine

end ScraperProject.Orchestration
