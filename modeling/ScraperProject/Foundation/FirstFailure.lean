import Mathlib.Tactic.Basic

/-!
Contract: checks in order, up to the first that fails.

Owns the loop that checks the items of a list and stops at the first failure,
with the items that it has looked at, its composition, and when it fails: at the
first failing item and nowhere else.

Does not own any check.
-/

namespace ScraperProject.Foundation.FirstFailure

variable {Item Failure : Type}

/-- An outcome, with the items that were looked at. -/
abbrev Attempt (Item Failure : Type) := Except Failure Unit × List Item

/-- The second attempt is made when the first has not failed. -/
def andThen (first second : Attempt Item Failure) : Attempt Item Failure :=
  match first.1 with
  | .ok _ => (second.1, first.2 ++ second.2)
  | .error failure => (.error failure, first.2)

/-- The items in order, up to the first failure. -/
def attempt (check : Item → Except Failure Unit) : List Item → Attempt Item Failure
  | [] => (.ok (), [])
  | item :: rest => andThen (check item, [item]) (attempt check rest)

theorem andThen_of_ok {first second : Attempt Item Failure} (passed : first.1 = .ok ()) :
    andThen first second = (second.1, first.2 ++ second.2) := by
  unfold andThen
  rw [passed]

theorem andThen_of_error {first second : Attempt Item Failure} {failure : Failure}
    (failed : first.1 = .error failure) : andThen first second = (.error failure, first.2) := by
  unfold andThen
  rw [failed]

theorem andThen_assoc (first second third : Attempt Item Failure) :
    andThen (andThen first second) third = andThen first (andThen second third) := by
  rcases first with ⟨_ | _, seen⟩
  · rfl
  · rcases second with ⟨_ | _, later⟩
    · rfl
    · show (third.1, (seen ++ later) ++ third.2) = (third.1, seen ++ (later ++ third.2))
      rw [List.append_assoc]

/-- The outcome is that of the two outcomes in sequence. -/
theorem andThen_fst (first second : Attempt Item Failure) :
    (andThen first second).1 = (first.1 >>= fun _ => second.1) := by
  rcases first with ⟨_ | _, seen⟩
  · rfl
  · rfl

variable {check : Item → Except Failure Unit} {items rest : List Item}

theorem attempt_append :
    attempt check (items ++ rest) = andThen (attempt check items) (attempt check rest) := by
  induction items with
  | nil => rfl
  | cons item others inductionHypothesis =>
      rw [List.cons_append, attempt, attempt, inductionHypothesis, andThen_assoc]

/-- Nothing fails exactly when every check passes. -/
theorem attempt_eq_ok :
    (attempt check items).1 = .ok () ↔ ∀ item ∈ items, check item = .ok () := by
  induction items with
  | nil => exact iff_of_true rfl (List.forall_mem_nil _)
  | cons item others inductionHypothesis =>
      rw [attempt, andThen_fst, List.forall_mem_cons, ← inductionHypothesis]
      cases check item with
      | error failure =>
          constructor
          · intro passed
            cases passed
          · intro passed
            cases passed.1
      | ok _ => exact ⟨fun passed => ⟨rfl, passed⟩, And.right⟩

/-- Without a failure every item is looked at. -/
theorem attempted_of_ok (passed : (attempt check items).1 = .ok ()) :
    (attempt check items).2 = items := by
  induction items with
  | nil => rfl
  | cons item others inductionHypothesis =>
      obtain ⟨own, later⟩ := List.forall_mem_cons.mp (attempt_eq_ok.mp passed)
      rw [attempt, andThen_of_ok own, inductionHypothesis (attempt_eq_ok.mpr later)]
      rfl

/-- The failure is that of the first failing item, the last that is looked at. -/
theorem attempt_of_split {before after : List Item} {item : Item} {failure : Failure}
    (passes : ∀ other ∈ before, check other = .ok ()) (fails : check item = .error failure) :
    attempt check (before ++ item :: after) = (.error failure, before ++ [item]) := by
  rw [attempt_append, andThen_of_ok (attempt_eq_ok.mpr passes),
    attempted_of_ok (attempt_eq_ok.mpr passes), attempt, andThen_of_error fails]

/-- A failure comes from a first failing item. -/
theorem split_of_error {failure : Failure} (failed : (attempt check items).1 = .error failure) :
    ∃ before item after, items = before ++ item :: after ∧
      (∀ other ∈ before, check other = .ok ()) ∧ check item = .error failure := by
  induction items with
  | nil => cases failed
  | cons item others inductionHypothesis =>
      rw [attempt, andThen_fst] at failed
      cases own : check item with
      | error raised =>
          rw [own] at failed
          cases failed
          exact ⟨[], item, others, rfl, List.forall_mem_nil _, own⟩
      | ok _ =>
          rw [own] at failed
          obtain ⟨before, first, after, rfl, passes, fails⟩ := inductionHypothesis failed
          exact ⟨item :: before, first, after, rfl, List.forall_mem_cons.mpr ⟨own, passes⟩, fails⟩

end ScraperProject.Foundation.FirstFailure
