import Mathlib.Data.Prod.Lex
import Mathlib.Order.OrderDual
import Mathlib.Tactic.Basic

/-!
Contract: which open item is dispatched next, by two ways of reckoning time.

Owns the rank of an item (priority first, then the time it is scheduled for, then
the time it was created), the choice of a due item that no due item outranks, and
the comparison of two reckonings that have the same ties: a choice by one is a
choice by the other exactly when every item that they disagree about is covered
by one that comes before it by both.

Does not own the items, nor why two reckonings would differ.
-/

namespace ScraperProject.Foundation

/-- A clock and the times of the items, by which open items are dispatched. -/
structure Reckoning (Item Time : Type) where
  isOpen : Item → Prop
  priority : Item → Int
  now : Time
  scheduled : Item → Time
  created : Item → Time

namespace Reckoning

variable {Item Time Other : Type} [LinearOrder Time] [LinearOrder Other]

/-- The item is open and scheduled no later than the clock. -/
def Due (reckoning : Reckoning Item Time) (item : Item) : Prop :=
  reckoning.isOpen item ∧ reckoning.scheduled item ≤ reckoning.now

/-- A high priority ranks first, then an early schedule, then an early creation. -/
def rank (reckoning : Reckoning Item Time) (item : Item) : Lex (Intᵒᵈ × Lex (Time × Time)) :=
  toLex (OrderDual.toDual (reckoning.priority item),
    toLex (reckoning.scheduled item, reckoning.created item))

/-- The first item comes before the second. -/
def Before (reckoning : Reckoning Item Time) (item other : Item) : Prop :=
  reckoning.rank item < reckoning.rank other

theorem before_iff (reckoning : Reckoning Item Time) (item other : Item) :
    reckoning.Before item other ↔
      reckoning.priority other < reckoning.priority item ∨
        reckoning.priority item = reckoning.priority other ∧
          (reckoning.scheduled item < reckoning.scheduled other ∨
            reckoning.scheduled item = reckoning.scheduled other ∧
              reckoning.created item < reckoning.created other) := by
  unfold Before rank
  rw [Prod.Lex.toLex_lt_toLex, Prod.Lex.toLex_lt_toLex]
  simp only [OrderDual.toDual_lt_toDual, EmbeddingLike.apply_eq_iff_eq]

omit [LinearOrder Time] in
theorem rank_eq_iff (reckoning : Reckoning Item Time) (item other : Item) :
    reckoning.rank item = reckoning.rank other ↔
      reckoning.priority item = reckoning.priority other ∧
        reckoning.scheduled item = reckoning.scheduled other ∧
          reckoning.created item = reckoning.created other := by
  simp only [rank, EmbeddingLike.apply_eq_iff_eq, Prod.mk.injEq]

/-- Nothing is chosen when nothing is due; what is chosen is due and not outranked. -/
def Chooses (reckoning : Reckoning Item Time) : Option Item → Prop
  | none => ∀ item, ¬ reckoning.Due item
  | some chosen => reckoning.Due chosen ∧
      ∀ item, reckoning.Due item → ¬ reckoning.Before item chosen

/-! ## Two reckonings -/

/-- Two reckonings of the same items with the same ties. -/
structure SameTies (left : Reckoning Item Time) (right : Reckoning Item Other) : Prop where
  isOpen : ∀ item, left.isOpen item ↔ right.isOpen item
  priority : ∀ item, left.priority item = right.priority item
  scheduled : ∀ item other, left.isOpen item → left.isOpen other →
    (left.scheduled item = left.scheduled other ↔ right.scheduled item = right.scheduled other)
  created : ∀ item other, left.isOpen item → left.isOpen other →
    (left.created item = left.created other ↔ right.created item = right.created other)

section TwoReckonings

variable {left : Reckoning Item Time} {right : Reckoning Item Other}

omit [LinearOrder Time] [LinearOrder Other] in
theorem SameTies.symm (same : SameTies left right) : SameTies right left where
  isOpen item := (same.isOpen item).symm
  priority item := (same.priority item).symm
  scheduled item other openItem openOther :=
    (same.scheduled item other ((same.isOpen item).mpr openItem)
      ((same.isOpen other).mpr openOther)).symm
  created item other openItem openOther :=
    (same.created item other ((same.isOpen item).mpr openItem)
      ((same.isOpen other).mpr openOther)).symm

omit [LinearOrder Time] [LinearOrder Other] in
theorem SameTies.rank_eq_iff (same : SameTies left right) {item other : Item}
    (openItem : left.isOpen item) (openOther : left.isOpen other) :
    left.rank item = left.rank other ↔ right.rank item = right.rank other := by
  rw [Reckoning.rank_eq_iff, Reckoning.rank_eq_iff, same.priority, same.priority,
    same.scheduled item other openItem openOther, same.created item other openItem openOther]

/-- Due by both reckonings. -/
def DueTwice (left : Reckoning Item Time) (right : Reckoning Item Other) (item : Item) : Prop :=
  left.Due item ∧ right.Due item

/-- The reckonings disagree about the item: it is due by one of them only, or they
order it differently with another item that is due by both. -/
def Disputed (left : Reckoning Item Time) (right : Reckoning Item Other) (item : Item) : Prop :=
  ¬ (left.Due item ↔ right.Due item) ∨
    (DueTwice left right item ∧ ∃ other, DueTwice left right other ∧
      ¬ (left.Before item other ↔ right.Before item other))

/-- An item that is due by both reckonings comes before the item by both. -/
def Covered (left : Reckoning Item Time) (right : Reckoning Item Other) (item : Item) : Prop :=
  ∃ other, DueTwice left right other ∧ left.Before other item ∧ right.Before other item

theorem Disputed.symm {item : Item} (disputed : Disputed left right item) :
    Disputed right left item := by
  rcases disputed with once | ⟨both, other, otherBoth, apart⟩
  · exact Or.inl fun agrees => once agrees.symm
  · exact Or.inr ⟨both.symm, other, otherBoth.symm, fun agrees => apart agrees.symm⟩

theorem Covered.symm {item : Item} (covered : Covered left right item) :
    Covered right left item := by
  obtain ⟨other, both, before, beforeToo⟩ := covered
  exact ⟨other, both.symm, beforeToo, before⟩

/-- An item that is due by one reckoning only is behind every item that is due by
both and that it does not outrank: the schedule decides, whatever the creation. -/
theorem covered_of_dueOnce (same : SameTies left right) {first item : Item}
    (both : DueTwice left right first) (due : left.Due item) (notDue : ¬ right.Due item)
    (unbeaten : ¬ left.Before item first) : Covered left right item := by
  have openItem : right.isOpen item := (same.isOpen item).mp due.1
  have late : right.now < right.scheduled item :=
    not_le.mp fun inTime => notDue ⟨openItem, inTime⟩
  have later : right.scheduled first < right.scheduled item := both.2.2.trans_lt late
  have priority : left.priority item ≤ left.priority first := by
    by_contra higher
    exact unbeaten ((before_iff ..).mpr (Or.inl (not_le.mp higher)))
  refine ⟨first, both, ?_, ?_⟩
  · have different : left.rank first ≠ left.rank item := by
      intro tie
      have tied := (Reckoning.rank_eq_iff ..).mp
        ((same.rank_eq_iff both.1.1 due.1).mp tie)
      exact later.ne tied.2.1
    exact lt_of_le_of_ne (not_lt.mp unbeaten) different
  · rw [before_iff, ← same.priority, ← same.priority]
    rcases priority.lt_or_eq with lower | equal
    · exact Or.inl lower
    · exact Or.inr ⟨equal.symm, Or.inl later⟩

/-- A front item of both reckonings covers every item that is ordered differently
with another one. -/
theorem covered_of_swapped (same : SameTies left right) {first item other : Item}
    (both : DueTwice left right first) (front : ∀ item, left.Due item → ¬ left.Before item first)
    (frontToo : ∀ item, right.Due item → ¬ right.Before item first)
    (due : DueTwice left right item) (otherDue : DueTwice left right other)
    (before : left.Before item other) (after : ¬ right.Before item other) :
    Covered left right item := by
  have tie := same.rank_eq_iff due.1.1 otherDue.1.1
  have swapped : right.rank other < right.rank item :=
    lt_of_le_of_ne (not_lt.mp after) fun equal => before.ne (tie.mpr equal.symm)
  have ahead : right.rank first < right.rank item :=
    (not_lt.mp (frontToo other otherDue.2)).trans_lt swapped
  refine ⟨first, both, ?_, ahead⟩
  refine lt_of_le_of_ne (not_lt.mp (front item due.1)) fun equal => ?_
  exact ahead.ne ((same.rank_eq_iff both.1.1 due.1.1).mp equal)

/-- A choice by both reckonings covers every disputed item. -/
theorem covered_of_chosen (same : SameTies left right) {chosen : Item}
    (choice : left.Chooses (some chosen)) (choiceToo : right.Chooses (some chosen))
    {item : Item} (disputed : Disputed left right item) : Covered left right item := by
  obtain ⟨due, front⟩ := choice
  obtain ⟨dueToo, frontToo⟩ := choiceToo
  rcases disputed with once | ⟨itemDue, other, otherDue, apart⟩
  · by_cases isDue : left.Due item
    · have notDue : ¬ right.Due item := fun alsoDue => once (iff_of_true isDue alsoDue)
      exact covered_of_dueOnce same ⟨due, dueToo⟩ isDue notDue (front item isDue)
    · have isDueToo : right.Due item := by
        by_contra notDue
        exact once (iff_of_false isDue notDue)
      exact (covered_of_dueOnce same.symm ⟨dueToo, due⟩ isDueToo isDue
        (frontToo item isDueToo)).symm
  · by_cases before : left.Before item other
    · have after : ¬ right.Before item other := fun beforeToo =>
        apart (iff_of_true before beforeToo)
      exact covered_of_swapped same ⟨due, dueToo⟩ front frontToo itemDue otherDue before after
    · have beforeToo : right.Before item other := by
        by_contra after
        exact apart (iff_of_false before after)
      exact (covered_of_swapped same.symm ⟨dueToo, due⟩ frontToo front itemDue.symm otherDue.symm
        beforeToo before).symm

/-- The choice of one reckoning is nobody's second when every disputed item is
covered. -/
theorem chosen_of_covered (same : SameTies left right) {chosen : Item}
    (choice : left.Chooses (some chosen))
    (covered : ∀ item, Disputed left right item → Covered left right item) :
    right.Chooses (some chosen) := by
  obtain ⟨due, front⟩ := choice
  have undisputed : ¬ Disputed left right chosen := by
    intro disputed
    obtain ⟨other, both, before, _⟩ := covered chosen disputed
    exact front other both.1 before
  have dueToo : right.Due chosen := by
    by_contra notDue
    exact undisputed (Or.inl fun agrees => notDue (agrees.mp due))
  refine ⟨dueToo, fun item itemDue ahead => ?_⟩
  -- An item that is due by both and ahead by the other reckoning disputes the choice.
  have noneAhead : ∀ other, DueTwice left right other → ¬ right.Before other chosen := by
    intro other both otherAhead
    have behind : left.Before chosen other :=
      lt_of_le_of_ne (not_lt.mp (front other both.1)) fun tie =>
        otherAhead.ne ((same.rank_eq_iff due.1 both.1.1).mp tie).symm
    exact undisputed (Or.inr ⟨⟨due, dueToo⟩, other, both, fun agrees =>
      lt_asymm otherAhead (agrees.mp behind)⟩)
  by_cases isDue : left.Due item
  · exact noneAhead item ⟨isDue, itemDue⟩ ahead
  · obtain ⟨other, both, _, before⟩ :=
      covered item (Or.inl fun agrees => isDue (agrees.mpr itemDue))
    exact noneAhead other both (lt_trans before ahead)

/-- A choice by one reckoning is one by the other exactly when every disputed item
is covered. -/
theorem chooses_iff (same : SameTies left right) {chosen : Option Item}
    (choice : left.Chooses chosen) :
    right.Chooses chosen ↔ ∀ item, Disputed left right item → Covered left right item := by
  cases chosen with
  | none =>
      constructor
      · rintro noneDue item (once | ⟨both, _⟩)
        · exact absurd (iff_of_false (choice item) (noneDue item)) once
        · exact absurd both.1 (choice item)
      · intro covered item due
        obtain ⟨other, both, _⟩ :=
          covered item (Or.inl fun agrees => choice item (agrees.mpr due))
        exact choice other both.1
  | some first =>
      constructor
      · exact fun choiceToo item disputed => covered_of_chosen same choice choiceToo disputed
      · exact fun covered => chosen_of_covered same choice covered

end TwoReckonings

end Reckoning

end ScraperProject.Foundation
