import Mathlib.Data.List.Nodup
import Mathlib.Tactic.Basic

/-!
Contract: a `for` loop over a list that its body shortens.

Owns the loop as an iterator runs it, by position in the list as it is at each step,
its unfolding equation, and what a loop leaves whose body removes the item it is
given: half of any list, and of a list without repetitions every other item.

Does not own any body.
-/

namespace ScraperProject.Foundation

/-- A loop over a list that is part of a state. The body may raise, and never makes the
list longer. -/
structure Loop (State Item Failure : Type) where
  items : State → List Item
  body : Item → State → Except Failure Unit × State
  isShrinking : ∀ item state, (items (body item state).2).length ≤ (items state).length

namespace Loop

variable {State Item Failure : Type}

/-- A number of steps of the loop, from a position on. -/
def steps (loop : Loop State Item Failure) : Nat → Nat → State → Except Failure Unit × State
  | 0, _, state => (.ok (), state)
  | fuel + 1, position, state =>
      match (loop.items state)[position]? with
      | none => (.ok (), state)
      | some item =>
          match loop.body item state with
          | (.error failure, later) => (.error failure, later)
          | (.ok _, later) => loop.steps fuel (position + 1) later

/-- The loop from a position on. It has at most one step for each item that is left. -/
def run (loop : Loop State Item Failure) (position : Nat) (state : State) :
    Except Failure Unit × State :=
  loop.steps ((loop.items state).length - position) position state

variable {loop : Loop State Item Failure} {position : Nat} {state later : State}

theorem steps_of_end (isEnd : (loop.items state).length ≤ position) (fuel : Nat) :
    loop.steps fuel position state = (.ok (), state) := by
  cases fuel with
  | zero => rfl
  | succ fuel => rw [steps, List.getElem?_eq_none isEnd]

/-- Steps after the end change nothing. -/
theorem steps_congr {fuel other : Nat} (enough : (loop.items state).length ≤ position + fuel)
    (otherEnough : (loop.items state).length ≤ position + other) :
    loop.steps fuel position state = loop.steps other position state := by
  induction fuel generalizing other position state with
  | zero => rw [steps_of_end (by omega), steps_of_end (by omega)]
  | succ fuel inductionHypothesis =>
      cases other with
      | zero => rw [steps_of_end (by omega), steps_of_end (by omega)]
      | succ other =>
          rw [steps, steps]
          cases (loop.items state)[position]? with
          | none => rfl
          | some item =>
              have shrinks := loop.isShrinking item state
              dsimp only
              generalize loop.body item state = outcome at shrinks ⊢
              obtain ⟨_ | _, next⟩ := outcome
              · rfl
              · dsimp only at shrinks ⊢
                apply inductionHypothesis
                · omega
                · omega

theorem run_of_end (isEnd : (loop.items state).length ≤ position) :
    loop.run position state = (.ok (), state) :=
  steps_of_end isEnd _

/-- What an iterator does at its position: it hands out the item there and goes on, in the
list that the body leaves. -/
theorem run_of_item {item : Item} (isItem : (loop.items state)[position]? = some item) :
    loop.run position state =
      match loop.body item state with
      | (.error failure, later) => (.error failure, later)
      | (.ok _, later) => loop.run (position + 1) later := by
  have inside : position < (loop.items state).length := (List.getElem?_eq_some_iff.mp isItem).1
  have oneStep : loop.run position state =
      loop.steps ((loop.items state).length - position - 1 + 1) position state := by
    apply steps_congr
    · omega
    · omega
  have shrinks := loop.isShrinking item state
  rw [oneStep, steps, isItem]
  dsimp only
  generalize loop.body item state = outcome at shrinks ⊢
  obtain ⟨_ | _, next⟩ := outcome
  · rfl
  · dsimp only at shrinks ⊢
    apply steps_congr
    · omega
    · omega

/-- A loop that ends has handed out the item at its position. -/
theorem run_eq_ok {item : Item} (isItem : (loop.items state)[position]? = some item)
    (ended : loop.run position state = (.ok (), later)) :
    ∃ next, loop.body item state = (.ok (), next) ∧
      loop.run (position + 1) next = (.ok (), later) := by
  rw [run_of_item isItem] at ended
  generalize loop.body item state = outcome at ended ⊢
  obtain ⟨_ | _, next⟩ := outcome
  · cases ended
  · exact ⟨next, rfl, ended⟩

/-- What a step keeps holds at the end of a loop, past the end of the list. -/
theorem holds_of_run {Holds : Nat → State → Prop}
    (step : ∀ position state item next, Holds position state →
      (loop.items state)[position]? = some item → loop.body item state = (.ok (), next) →
        Holds (position + 1) next)
    (holds : Holds position state) (ended : loop.run position state = (.ok (), later)) :
    ∃ last, Holds last later ∧ (loop.items later).length ≤ last := by
  induction ahead : (loop.items state).length - position using Nat.strongRecOn
    generalizing position state with
  | ind ahead inductionHypothesis =>
      cases isItem : (loop.items state)[position]? with
      | none =>
          have isEnd : (loop.items state).length ≤ position := List.getElem?_eq_none_iff.mp isItem
          rw [run_of_end isEnd] at ended
          cases ended
          exact ⟨position, holds, isEnd⟩
      | some item =>
          obtain ⟨next, isBody, rest⟩ := run_eq_ok isItem ended
          have inside : position < (loop.items state).length :=
            (List.getElem?_eq_some_iff.mp isItem).1
          have shrinks := loop.isShrinking item state
          rw [isBody] at shrinks
          dsimp only at shrinks
          apply inductionHypothesis _ _ _ rest rfl
          · omega
          · exact step position state item next holds isItem isBody

/-! ## Loops that remove the items they are given -/

/-- Every other item, from the first on. -/
def alternate : List Item → List Item
  | [] => []
  | [item] => [item]
  | item :: _ :: rest => item :: alternate rest

/-- One item is not skipped. -/
theorem alternate_of_length_le_one {items : List Item} (atMostOne : items.length ≤ 1) :
    alternate items = items ∧ alternate items.tail = [] ∧ items.Nodup := by
  match items, atMostOne with
  | [], _ => exact ⟨rfl, rfl, List.nodup_nil⟩
  | [item], _ => exact ⟨rfl, rfl, List.nodup_singleton item⟩

section Removal

variable [DecidableEq Item]

/-- The body removes the item it is given. -/
def Removes (loop : Loop State Item Failure) : Prop :=
  ∀ item state, loop.items (loop.body item state).2 = (loop.items state).erase item

/-- Such a loop leaves some of its items, in their order, also when its body raises. -/
theorem Removes.sublist_of_steps (removes : loop.Removes) (fuel position : Nat) (state : State) :
    List.Sublist (loop.items (loop.steps fuel position state).2) (loop.items state) := by
  induction fuel generalizing position state with
  | zero => exact List.Sublist.refl _
  | succ fuel inductionHypothesis =>
      rw [steps]
      split
      · exact List.Sublist.refl _
      · next item _ =>
        have removed := removes item state
        split
        · next later isBody =>
          rw [isBody] at removed
          exact removed ▸ List.erase_sublist
        · next later isBody =>
          rw [isBody] at removed
          exact (inductionHypothesis (position + 1) later).trans (removed ▸ List.erase_sublist)

theorem Removes.sublist_of_run (removes : loop.Removes) {outcome : Except Failure Unit}
    (ended : loop.run position state = (outcome, later)) :
    List.Sublist (loop.items later) (loop.items state) := by
  have kept := removes.sublist_of_steps ((loop.items state).length - position) position state
  rwa [show loop.steps _ position state = (outcome, later) from ended] at kept

/-- A step of such a loop removes an item. -/
theorem Removes.step (removes : loop.Removes) {next : State} {item : Item}
    (isItem : (loop.items state)[position]? = some item)
    (isBody : loop.body item state = (.ok (), next)) :
    loop.items next = (loop.items state).erase item ∧
      (loop.items next).length + 1 = (loop.items state).length := by
  have removed : loop.items next = (loop.items state).erase item := by
    rw [← removes item state, isBody]
  have member : item ∈ loop.items state := List.mem_of_getElem? isItem
  have positive : 0 < (loop.items state).length := List.length_pos_of_mem member
  have length := List.length_erase_of_mem member
  refine ⟨removed, ?_⟩
  rw [removed]
  omega

/-- Half of what is ahead of such a loop is left at its end, in any list. -/
theorem Removes.length_of_run (removes : loop.Removes)
    (inside : position ≤ (loop.items state).length)
    (ended : loop.run position state = (.ok (), later)) :
    (loop.items later).length = position + ((loop.items state).length - position) / 2 := by
  -- Each step removes an item and leaves another behind its position.
  have balance := @holds_of_run _ _ _ loop position state later
    (fun current middle => (loop.items middle).length + current =
      (loop.items state).length + position ∧ current ≤ (loop.items middle).length + 1)
    (by
      intro current middle item next holds isItem isBody
      have fewer := (removes.step isItem isBody).2
      have inside : current < (loop.items middle).length :=
        (List.getElem?_eq_some_iff.mp isItem).1
      omega)
    (by omega) ended
  obtain ⟨last, ⟨sum, near⟩, isEnd⟩ := balance
  omega

/-- Such a loop leaves items that were there. -/
theorem Removes.subset_of_run (removes : loop.Removes)
    (ended : loop.run position state = (.ok (), later)) :
    loop.items later ⊆ loop.items state := by
  have kept := @holds_of_run _ _ _ loop position state later
    (fun _ middle => loop.items middle ⊆ loop.items state)
    (by
      intro current middle item next holds isItem isBody
      rw [(removes.step isItem isBody).1]
      exact List.Subset.trans List.erase_subset holds)
    (List.Subset.refl _) ended
  exact kept.choose_spec.1

/-- Without repetitions exactly the item at the position is removed. -/
theorem Removes.step_distinct (removes : loop.Removes) {kept rest : List Item} {item : Item}
    (isSplit : loop.items state = kept ++ item :: rest) (distinct : (kept ++ item :: rest).Nodup)
    (ended : loop.run kept.length state = (.ok (), later)) :
    ∃ next, (loop.body item state).2 = next ∧ loop.items next = kept ++ rest ∧
      loop.run (kept.length + 1) next = (.ok (), later) := by
  have isItem : (loop.items state)[kept.length]? = some item := by simp [isSplit]
  obtain ⟨next, isBody, last⟩ := run_eq_ok isItem ended
  have notKept : item ∉ kept := by
    intro member
    exact List.disjoint_of_nodup_append distinct member List.mem_cons_self
  have removed := (removes.step isItem isBody).1
  rw [isSplit, List.erase_append_right _ notKept, List.erase_cons_head] at removed
  exact ⟨next, by rw [isBody], removed, last⟩

/-- Without repetitions such a loop skips every other item: the items at odd places stay,
and the state is the one after the bodies of the others. -/
theorem Removes.run_eq_foldl (removes : loop.Removes) {kept rest : List Item}
    (isSplit : loop.items state = kept ++ rest) (distinct : (kept ++ rest).Nodup)
    (ended : loop.run kept.length state = (.ok (), later)) :
    loop.items later = kept ++ alternate rest.tail ∧
      later = (alternate rest).foldl (fun state item => (loop.body item state).2) state := by
  induction rest using alternate.induct generalizing kept state with
  | case1 =>
      rw [run_of_end (by simp [isSplit])] at ended
      cases ended
      exact ⟨isSplit, rfl⟩
  | case2 item =>
      obtain ⟨next, isBody, removed, last⟩ := removes.step_distinct isSplit distinct ended
      rw [run_of_end (by simp [removed])] at last
      cases last
      exact ⟨removed, isBody.symm⟩
  | case3 item other rest inductionHypothesis =>
      obtain ⟨next, isBody, removed, last⟩ := removes.step_distinct isSplit distinct ended
      have isNext : loop.items next = (kept ++ [other]) ++ rest := by
        rw [removed, List.append_assoc]
        rfl
      have shorter : ((kept ++ [other]) ++ rest).Nodup := by
        rw [List.append_assoc]
        exact distinct.sublist (List.Sublist.append_left (List.sublist_cons_self _ _) kept)
      have length : (kept ++ [other]).length = kept.length + 1 := by simp
      rw [← length] at last
      obtain ⟨left, folded⟩ := inductionHypothesis isNext shorter last
      constructor
      · rw [left, List.append_assoc]
        cases rest with
        | nil => rfl
        | cons third others => rfl
      · rw [folded, alternate, List.foldl_cons, isBody]

end Removal

end Loop

end ScraperProject.Foundation
