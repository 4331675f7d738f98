import Mathlib.Algebra.GroupWithZero.Nat
import Mathlib.Data.List.Dedup
import Mathlib.Data.List.Sort
import Mathlib.Tactic.Basic

/-!
Contract: sums of the groups of a list, in arithmetic of bounded width.

Owns the sum of a list that fails once a partial sum exceeds a limit, the distinct
keys of a list of rows in order, and the summaries of all groups in the order of
their keys: they exist exactly when every group has one.

Does not own the rows, the keys or what is summed.
-/

namespace ScraperProject.Foundation

/-! ## Sums with a limit -/

/-- Add the values to a total, first to last; a total above the limit fails. -/
def limitedSum (limit total : Nat) : List Nat → Option Nat
  | [] => some total
  | value :: rest =>
      if total + value ≤ limit then limitedSum limit (total + value) rest else none

/-- Partial sums only grow, so that the last one decides. -/
theorem limitedSum_eq_some {limit total result : Nat} {values : List Nat}
    (within : total ≤ limit) :
    limitedSum limit total values = some result ↔
      total + values.sum = result ∧ total + values.sum ≤ limit := by
  induction values generalizing total with
  | nil =>
      simp only [limitedSum, Option.some.injEq, List.sum_nil]
      omega
  | cons value rest inductionHypothesis =>
      rw [limitedSum, List.sum_cons]
      split
      · next fits =>
        rw [inductionHypothesis fits]
        omega
      · next exceeds =>
        refine iff_of_false nofun ?_
        rintro ⟨_, bounded⟩
        omega

/-! ## Groups -/

section Groups

variable {Row Key Summary Failure : Type} [LinearOrder Key]

/-- The distinct keys of the rows, in order. -/
def orderedKeys (key : Row → Key) (rows : List Row) : List Key :=
  (rows.map key).dedup.insertionSort (· ≤ ·)

def group (key : Row → Key) (rows : List Row) (chosen : Key) : List Row :=
  rows.filter fun row => key row = chosen

/-- The summary of every group, in the order of the keys; the first failure is
raised. -/
def summarize (key : Row → Key) (summary : Key → List Row → Except Failure Summary)
    (rows : List Row) : Except Failure (List Summary) :=
  (orderedKeys key rows).mapM fun chosen => summary chosen (group key rows chosen)

variable {key : Row → Key} {rows : List Row}

theorem mem_orderedKeys {chosen : Key} :
    chosen ∈ orderedKeys key rows ↔ ∃ row ∈ rows, key row = chosen := by
  rw [orderedKeys, List.mem_insertionSort, List.mem_dedup, List.mem_map]

/-- Every key once. -/
theorem orderedKeys_pairwise : (orderedKeys key rows).Pairwise (· < ·) := by
  have sorted : (orderedKeys key rows).Pairwise (· ≤ ·) := List.pairwise_insertionSort _ _
  have once : (orderedKeys key rows).Nodup :=
    (List.perm_insertionSort _ _).nodup_iff.mpr (List.nodup_dedup _)
  exact sorted.imp₂ (fun _ _ le different => lt_of_le_of_ne le different) once

theorem mapM_eq_ok {Item Result : Type} {compute : Item → Except Failure Result}
    {items : List Item} {results : List Result} :
    items.mapM compute = .ok results ↔
      List.Forall₂ (fun item result => compute item = .ok result) items results := by
  induction items generalizing results with
  | nil =>
      rw [List.mapM_nil, List.forall₂_nil_left_iff]
      exact ⟨fun same => (Except.ok.inj same).symm, fun isNil => isNil ▸ rfl⟩
  | cons item rest inductionHypothesis =>
      rw [List.mapM_cons, List.forall₂_cons_left_iff]
      constructor
      · intro succeeded
        cases first : compute item with
        | error failure =>
            rw [first] at succeeded
            cases succeeded
        | ok result =>
            rw [first] at succeeded
            cases others : rest.mapM compute with
            | error failure =>
                rw [others] at succeeded
                cases succeeded
            | ok tail =>
                rw [others] at succeeded
                cases succeeded
                exact ⟨result, tail, rfl, inductionHypothesis.mp others, rfl⟩
      · rintro ⟨result, tail, first, others, rfl⟩
        rw [first, inductionHypothesis.mpr others]
        rfl

theorem summarize_eq_ok {summary : Key → List Row → Except Failure Summary}
    {summaries : List Summary} :
    summarize key summary rows = .ok summaries ↔
      List.Forall₂ (fun chosen result => summary chosen (group key rows chosen) = .ok result)
        (orderedKeys key rows) summaries := mapM_eq_ok

/-- All groups are summarized exactly when each of them is. -/
theorem summarize_succeeds_iff {summary : Key → List Row → Except Failure Summary} :
    (∃ summaries, summarize key summary rows = .ok summaries) ↔
      ∀ row ∈ rows, ∃ result, summary (key row) (group key rows (key row)) = .ok result := by
  have each : (∃ summaries, summarize key summary rows = .ok summaries) ↔
      ∀ chosen ∈ orderedKeys key rows, ∃ result,
        summary chosen (group key rows chosen) = .ok result := by
    simp only [summarize_eq_ok]
    generalize orderedKeys key rows = keys
    induction keys with
    | nil => simp
    | cons chosen rest inductionHypothesis =>
        simp only [List.forall₂_cons_left_iff, List.forall_mem_cons, ← inductionHypothesis]
        constructor
        · rintro ⟨_, result, tail, first, others, rfl⟩
          exact ⟨⟨result, first⟩, tail, others⟩
        · rintro ⟨⟨result, first⟩, tail, others⟩
          exact ⟨_, result, tail, first, others, rfl⟩
  rw [each]
  constructor
  · intro succeeds row member
    exact succeeds (key row) (mem_orderedKeys.mpr ⟨row, member, rfl⟩)
  · intro succeeds chosen member
    obtain ⟨row, rowMember, rfl⟩ := mem_orderedKeys.mp member
    exact succeeds row rowMember

/-- Summaries that cannot fail. -/
theorem summarize_ok (summary : Key → List Row → Summary) :
    summarize key (fun chosen members => (.ok (summary chosen members) : Except Failure Summary))
        rows = .ok ((orderedKeys key rows).map fun chosen =>
          summary chosen (group key rows chosen)) := by
  rw [summarize_eq_ok, List.forall₂_map_right_iff, List.forall₂_same]
  exact fun _ _ => rfl

end Groups

end ScraperProject.Foundation
