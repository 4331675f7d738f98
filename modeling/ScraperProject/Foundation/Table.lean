import Mathlib.Data.List.Pairwise
import Mathlib.Tactic.Basic

/-!
Contract: database tables as rows in insertion order under uniqueness
constraints.

Owns the table type, whose constraint is a field, insertion that refuses a
clashing row, guarded updates that keep every constrained column, and the
membership laws of both.

Does not own any schema, foreign keys or transactions.
-/

namespace ScraperProject.Foundation

/-- The uniqueness constraints of a row type. Two rows clash when they agree on
all columns of the primary key or of a unique constraint. -/
class Constrained (Row : Type) where
  Clash : Row → Row → Prop
  decidableClash : DecidableRel Clash
  refl : ∀ row, Clash row row
  symm : ∀ {row other}, Clash row other → Clash other row

instance {Row : Type} [Constrained Row] : DecidableRel (@Constrained.Clash Row _) :=
  Constrained.decidableClash

/-- Rows in insertion order, no two of which clash. -/
structure Table (Row : Type) [Constrained Row] where
  rows : List Row
  distinct : rows.Pairwise fun row other => ¬ Constrained.Clash row other

namespace Table

open Constrained

variable {Row : Type} [Constrained Row]

instance : Membership Row (Table Row) := ⟨fun table row => row ∈ table.rows⟩

@[simp] theorem mem_rows {table : Table Row} {row : Row} : row ∈ table.rows ↔ row ∈ table :=
  Iff.rfl

@[ext] theorem ext {table other : Table Row} (sameRows : table.rows = other.rows) :
    table = other := by
  cases table
  cases other
  simpa using sameRows

/-- The table without rows. -/
def empty : Table Row := ⟨[], List.Pairwise.nil⟩

@[simp] theorem not_mem_empty {row : Row} : row ∉ (empty : Table Row) := by
  simp [← mem_rows, empty]

/-- Two rows of a table that clash are the same row. -/
theorem eq_of_clash {table : Table Row} {row other : Row} (member : row ∈ table)
    (otherMember : other ∈ table) (clash : Clash row other) : row = other := by
  by_contra different
  have symmetric : Std.Symm fun row other : Row => ¬ Clash row other :=
    ⟨fun _ _ apart reversed => apart (symm reversed)⟩
  exact table.distinct.forall member otherMember different clash

/-! ## Insertion -/

/-- Insert a row at the end, unless it clashes with a row of the table. -/
def insert? (table : Table Row) (row : Row) : Option (Table Row) :=
  if fits : ∀ existing ∈ table.rows, ¬ Clash existing row then
    some
      { rows := table.rows ++ [row]
        distinct := by
          rw [List.pairwise_append]
          refine ⟨table.distinct, List.pairwise_singleton _ _, ?_⟩
          intro existing member other otherMember
          rw [List.mem_singleton] at otherMember
          rw [otherMember]
          exact fits existing member }
  else none

theorem insert?_eq_some {table next : Table Row} {row : Row} :
    table.insert? row = some next ↔
      (∀ existing ∈ table, ¬ Clash existing row) ∧ next.rows = table.rows ++ [row] := by
  unfold insert?
  split
  · next fits =>
    rw [Option.some.injEq]
    constructor
    · rintro rfl
      exact ⟨fits, rfl⟩
    · rintro ⟨_, sameRows⟩
      exact Table.ext sameRows.symm
  · next clashes =>
    simp only [reduceCtorEq, false_iff, not_and]
    intro fits
    exact absurd fits clashes

theorem insert?_isSome {table : Table Row} {row : Row}
    (fits : ∀ existing ∈ table, ¬ Clash existing row) : ∃ next, table.insert? row = some next := by
  have fitsRows : ∀ existing ∈ table.rows, ¬ Clash existing row := fits
  simp only [insert?, dif_pos fitsRows]
  exact ⟨_, rfl⟩

theorem insert?_eq_none {table : Table Row} {row : Row} :
    table.insert? row = none ↔ ∃ existing ∈ table, Clash existing row := by
  constructor
  · intro refused
    by_contra apart
    obtain ⟨next, accepted⟩ := insert?_isSome fun existing member clash =>
      apart ⟨existing, member, clash⟩
    rw [accepted] at refused
    cases refused
  · rintro ⟨existing, member, clash⟩
    cases accepted : table.insert? row with
    | none => rfl
    | some next => exact absurd clash ((insert?_eq_some.mp accepted).1 existing member)

theorem mem_of_insert? {table next : Table Row} {row candidate : Row}
    (inserted : table.insert? row = some next) :
    candidate ∈ next ↔ candidate ∈ table ∨ candidate = row := by
  rw [← mem_rows, (insert?_eq_some.mp inserted).2]
  simp

/-! ## Updates -/

/-- A change of columns outside every uniqueness constraint. -/
def Unseen (change : Row → Row) : Prop :=
  ∀ row other, Clash (change row) other ↔ Clash row other

/-- Change the selected rows in place. -/
def updateWhere (table : Table Row) (selects : Row → Bool) (change : Row → Row)
    (unseen : Unseen change) : Table Row where
  rows := table.rows.map fun row => if selects row then change row else row
  distinct := by
    rw [List.pairwise_map]
    refine table.distinct.imp fun {row other} apart clash => apart ?_
    have left : ∀ row other : Row, Clash (if selects row then change row else row) other →
        Clash row other := by
      intro row other clash
      split at clash
      · exact (unseen row other).mp clash
      · exact clash
    exact symm (left other row (symm (left row _ clash)))

theorem rows_updateWhere (table : Table Row) (selects : Row → Bool) (change : Row → Row)
    (unseen : Unseen change) :
    (table.updateWhere selects change unseen).rows =
      table.rows.map fun row => if selects row then change row else row := rfl

/-- An update that selects nothing changes nothing. -/
theorem updateWhere_eq_self {table : Table Row} {selects : Row → Bool} {change : Row → Row}
    {unseen : Unseen change} (none : ∀ row ∈ table, ¬ selects row) :
    table.updateWhere selects change unseen = table := by
  apply Table.ext
  rw [rows_updateWhere]
  exact (List.map_congr_left fun row member => if_neg (none row member)).trans (List.map_id _)

/-! ## Selection -/

/-- The first row, in insertion order, that satisfies the predicate. -/
def find? (table : Table Row) (selects : Row → Bool) : Option Row :=
  table.rows.find? selects

theorem find?_some {table : Table Row} {selects : Row → Bool} {row : Row}
    (found : table.find? selects = some row) : row ∈ table ∧ selects row :=
  ⟨List.mem_of_find?_eq_some found, List.find?_some found⟩

theorem find?_none {table : Table Row} {selects : Row → Bool} :
    table.find? selects = none ↔ ∀ row ∈ table, ¬ selects row := by
  unfold find?
  rw [List.find?_eq_none]
  rfl

/-- A predicate that only clashing rows share selects its one row. -/
theorem find?_eq_some_of_mem {table : Table Row} {selects : Row → Bool} {row : Row}
    (member : row ∈ table) (selected : selects row)
    (single : ∀ other ∈ table, selects other → Clash other row) :
    table.find? selects = some row := by
  cases found : table.find? selects with
  | none => exact absurd selected (find?_none.mp found row member)
  | some other =>
      obtain ⟨otherMember, otherSelected⟩ := find?_some found
      rw [eq_of_clash otherMember member (single other otherMember otherSelected)]

/-- A predicate that only clashing rows share selects at most one row. -/
theorem countP_le_one {table : Table Row} {selects : Row → Bool}
    (single : ∀ row ∈ table, ∀ other ∈ table, selects row → selects other → Clash row other) :
    table.rows.countP selects ≤ 1 := by
  have atMostOne : ∀ rows : List Row, rows.Pairwise (fun row other => ¬ Clash row other) →
      (∀ row ∈ rows, ∀ other ∈ rows, selects row → selects other → Clash row other) →
        rows.countP selects ≤ 1 := by
    intro rows distinct single
    induction rows with
    | nil => simp
    | cons head rest inductionHypothesis =>
        obtain ⟨apart, restDistinct⟩ := List.pairwise_cons.mp distinct
        by_cases selected : selects head
        · have others : rest.countP selects = 0 := by
            rw [List.countP_eq_zero]
            intro other member otherSelected
            exact apart other member (single head List.mem_cons_self other
              (List.mem_cons_of_mem _ member) selected otherSelected)
          have counted : (head :: rest).countP selects = 1 := by
            rw [List.countP_cons_of_pos selected, others]
          exact Nat.le_of_eq counted
        · rw [List.countP_cons_of_neg selected]
          exact inductionHypothesis restDistinct fun row member other otherMember =>
            single row (List.mem_cons_of_mem _ member) other (List.mem_cons_of_mem _ otherMember)
  exact atMostOne table.rows table.distinct single

theorem countP_eq_one_iff {table : Table Row} {selects : Row → Bool}
    (single : ∀ row other, selects row → selects other → Clash row other) :
    table.rows.countP selects = 1 ↔ ∃ row ∈ table, selects row := by
  have bounded := @countP_le_one Row _ table selects fun row _ other _ => single row other
  have positive : 0 < table.rows.countP selects ↔ ∃ row ∈ table, selects row :=
    List.countP_pos_iff
  rw [← positive]
  omega

/-! ## Growth -/

/-- Every row is still there, up to a permitted change. -/
def Grows (Succeeds : Row → Row → Prop) (before after : Table Row) : Prop :=
  ∀ row ∈ before, ∃ later ∈ after, Succeeds row later

variable {Succeeds : Row → Row → Prop}

theorem Grows.refl (same : ∀ row, Succeeds row row) (table : Table Row) :
    Grows Succeeds table table :=
  fun row member => ⟨row, member, same row⟩

theorem Grows.trans {first second third : Table Row} (left : Grows Succeeds first second)
    (right : Grows Succeeds second third)
    (joined : ∀ {first second third}, Succeeds first second → Succeeds second third →
      Succeeds first third) : Grows Succeeds first third := by
  intro row member
  obtain ⟨middle, middleMember, succeeds⟩ := left row member
  obtain ⟨later, laterMember, succeedsLater⟩ := right middle middleMember
  exact ⟨later, laterMember, joined succeeds succeedsLater⟩

theorem Grows.of_append (same : ∀ row, Succeeds row row) {before after : Table Row}
    {added : List Row} (rows : after.rows = before.rows ++ added) :
    Grows Succeeds before after := by
  intro row member
  refine ⟨row, ?_, same row⟩
  rw [← mem_rows, rows]
  exact List.mem_append_left _ member

theorem Grows.of_map {before after : Table Row} {change : Row → Row}
    (rows : after.rows = before.rows.map change)
    (changed : ∀ row ∈ before, Succeeds row (change row)) : Grows Succeeds before after := by
  intro row member
  refine ⟨change row, ?_, changed row member⟩
  rw [← mem_rows, rows]
  exact List.mem_map_of_mem member

end Table

end ScraperProject.Foundation
