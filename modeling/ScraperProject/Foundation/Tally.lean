import Mathlib.Algebra.GroupWithZero.Nat
import ScraperProject.Foundation.History
import ScraperProject.Foundation.Table

/-!
Contract: stocks and flows.

Owns counts and sums over the rows of a table before and after one row changes, counts
over items that each have one owner, and the total of a quantity over the events of a
history.

Does not own what is counted.
-/

namespace ScraperProject.Foundation

/-! ## Counts of rows -/

theorem countP_filter_cons {Item : Type} (selects holds : Item → Bool) (item : Item)
    (rest : List Item) : ((item :: rest).filter selects).countP holds =
      (rest.filter selects).countP holds + if selects item ∧ holds item then 1 else 0 := by
  rw [List.filter_cons]
  by_cases selected : selects item
  · rw [if_pos selected, List.countP_cons]
    simp only [selected, true_and]
  · rw [if_neg selected, if_neg fun both => selected both.1]
    rfl

theorem sum_indicator {Item : Type} (holds : Item → Bool) (items : List Item) :
    (items.map fun item => if holds item then 1 else 0).sum = items.countP holds := by
  induction items with
  | nil => rfl
  | cons item rest inductionHypothesis =>
      rw [List.map_cons, List.sum_cons, inductionHypothesis, List.countP_cons, Nat.add_comm]

theorem sum_map_le {Item : Type} {smaller larger : Item → Nat} {items : List Item}
    (below : ∀ item ∈ items, smaller item ≤ larger item) :
    (items.map smaller).sum ≤ (items.map larger).sum := by
  induction items with
  | nil => exact Nat.le_refl _
  | cons item rest inductionHypothesis =>
      have head := below item List.mem_cons_self
      have tail := inductionHypothesis fun other listed => below other (List.mem_cons_of_mem _ listed)
      simp only [List.map_cons, List.sum_cons]
      omega

section Owners

variable {Owner Item : Type} (owns : Owner → Item → Bool) (holds : Item → Bool)

/-- One more item counts once for each of its owners. -/
theorem sum_countP_cons (owners : List Owner) (item : Item) (rest : List Item) :
    (owners.map fun owner => ((item :: rest).filter (owns owner)).countP holds).sum =
      (owners.map fun owner => (rest.filter (owns owner)).countP holds).sum +
        if holds item then owners.countP (fun owner => owns owner item) else 0 := by
  induction owners with
  | nil => simp
  | cons owner others inductionHypothesis =>
      rw [List.map_cons, List.sum_cons, inductionHypothesis, countP_filter_cons, List.map_cons,
        List.sum_cons, List.countP_cons]
      by_cases owned : owns owner item <;> by_cases selected : holds item <;>
        simp only [owned, selected, and_self, and_true, true_and, if_true, Bool.false_eq_true,
          if_false] <;> omega

/-- When each item has exactly one owner, the owners count the items among them. -/
theorem sum_countP_owned (owners : List Owner) {items : List Item}
    (single : ∀ item ∈ items, owners.countP (fun owner => owns owner item) = 1) :
    (owners.map fun owner => (items.filter (owns owner)).countP holds).sum =
      items.countP holds := by
  induction items with
  | nil => simp
  | cons item rest inductionHypothesis =>
      have head := single item List.mem_cons_self
      have tail := inductionHypothesis fun other listed =>
        single other (List.mem_cons_of_mem _ listed)
      rw [sum_countP_cons, tail, head, List.countP_cons]

end Owners

namespace Table

variable {Row : Type} [Constrained Row]

/-- Only one row of the table changes. -/
theorem sum_updated {table : Table Row} {row : Row} (member : row ∈ table)
    {change : Row → Row} (others : ∀ other ∈ table, other ≠ row → change other = other)
    (weight : Row → Nat) :
    ((table.rows.map change).map weight).sum + weight row =
      (table.rows.map weight).sum + weight (change row) := by
  obtain ⟨before, after, split⟩ := List.append_of_mem member
  have distinct := table.distinct
  rw [split, List.pairwise_append] at distinct
  have left : before.map change = before := by
    refine (List.map_congr_left fun other listed => ?_).trans (List.map_id _)
    apply others other
    · rw [← mem_rows, split]
      exact List.mem_append_left _ listed
    · intro same
      exact distinct.2.2 other listed row List.mem_cons_self (same ▸ Constrained.refl row)
  have right : after.map change = after := by
    refine (List.map_congr_left fun other listed => ?_).trans (List.map_id _)
    apply others other
    · rw [← mem_rows, split]
      exact List.mem_append_right _ (List.mem_cons_of_mem _ listed)
    · intro same
      have apart := (List.pairwise_cons.mp distinct.2.1).1 other listed
      exact apart (same ▸ Constrained.refl other)
  rw [split, List.map_append, List.map_cons, left, right]
  simp only [List.map_append, List.map_cons, List.sum_append, List.sum_cons]
  omega

theorem countP_updated {table : Table Row} {row : Row} (member : row ∈ table)
    {change : Row → Row} (others : ∀ other ∈ table, other ≠ row → change other = other)
    (holds : Row → Bool) :
    (table.rows.map change).countP holds + (if holds row then 1 else 0) =
      table.rows.countP holds + if holds (change row) then 1 else 0 := by
  rw [← sum_indicator, ← sum_indicator]
  exact sum_updated member others fun other => if holds other then 1 else 0

end Table

/-! ## Flows -/

namespace History

variable {Op Outcome : Type}

/-- The total of a quantity over the events. -/
def total (quantity : Op × Outcome → Nat) (past : List (Op × Outcome)) : Nat :=
  (past.map quantity).sum

theorem total_snoc (quantity : Op × Outcome → Nat) (past : List (Op × Outcome))
    (event : Op × Outcome) : total quantity (past ++ [event]) = total quantity past +
      quantity event := by
  simp [total]

end History

end ScraperProject.Foundation
