import Mathlib.Data.List.Chain
import Mathlib.Data.List.Induction
import Mathlib.Tactic.Basic

/-!
Contract: finite histories of operations that each have an outcome.

Owns the state after a list of operations, the list of their outcomes, the list
of the states passed through, and the rules that lift a fact about one operation
to every history: an invariant of the state, an invariant of state and past
outcomes, a relation between an earlier and a later state, and the path of an
observed part of the state. A rule may rest on a condition that every operation
of the history meets.

Does not own any operation; a caller supplies `perform`.
-/

namespace ScraperProject.Foundation.History

variable {State Op Outcome : Type} (perform : Op → State → Outcome × State)

/-- The state after the operations, first to last. -/
def after : State → List Op → State
  | start, [] => start
  | start, op :: rest => after (perform op start).2 rest

/-- The operations with their outcomes, first to last. -/
def events : State → List Op → List (Op × Outcome)
  | _, [] => []
  | start, op :: rest => (op, (perform op start).1) :: events (perform op start).2 rest

/-- The states passed through, the start first. -/
def states : State → List Op → List State
  | start, [] => [start]
  | start, op :: rest => start :: states (perform op start).2 rest

@[simp] theorem after_nil (start : State) : after perform start [] = start := rfl

@[simp] theorem events_nil (start : State) : events perform start [] = [] := rfl

theorem after_append (start : State) (first second : List Op) :
    after perform start (first ++ second) = after perform (after perform start first) second := by
  induction first generalizing start with
  | nil => rfl
  | cons op rest inductionHypothesis => exact inductionHypothesis _

theorem events_append (start : State) (first second : List Op) :
    events perform start (first ++ second) =
      events perform start first ++ events perform (after perform start first) second := by
  induction first generalizing start with
  | nil => rfl
  | cons op rest inductionHypothesis =>
      simp only [List.cons_append, events, inductionHypothesis, after]

theorem after_snoc (start : State) (ops : List Op) (op : Op) :
    after perform start (ops ++ [op]) = (perform op (after perform start ops)).2 := by
  rw [after_append]
  rfl

theorem events_snoc (start : State) (ops : List Op) (op : Op) :
    events perform start (ops ++ [op]) =
      events perform start ops ++ [(op, (perform op (after perform start ops)).1)] := by
  rw [events_append]
  rfl

/-- What every operation preserves holds after every history. -/
theorem after_invariant {Invariant : State → Prop}
    (step : ∀ op state, Invariant state → Invariant (perform op state).2)
    {start : State} (initial : Invariant start) (ops : List Op) :
    Invariant (after perform start ops) := by
  induction ops generalizing start with
  | nil => exact initial
  | cons op rest inductionHypothesis => exact inductionHypothesis (step op start initial)

/-- The rule for an invariant that also speaks of the past outcomes. -/
theorem history_invariant {Invariant : List (Op × Outcome) → State → Prop}
    (step : ∀ past op state, Invariant past state →
      Invariant (past ++ [(op, (perform op state).1)]) (perform op state).2)
    {start : State} (initial : Invariant [] start) (ops : List Op) :
    Invariant (events perform start ops) (after perform start ops) := by
  induction ops using List.reverseRecOn with
  | nil => exact initial
  | append_singleton ops op inductionHypothesis =>
      rw [events_snoc, after_snoc]
      exact step _ _ _ inductionHypothesis

/-- A reflexive and transitive relation that every operation respects, under an
invariant, relates every earlier state to every later one. -/
theorem after_related {Invariant : State → Prop} {Related : State → State → Prop}
    (refl : ∀ state, Related state state)
    (trans : ∀ {first second third}, Related first second → Related second third →
      Related first third)
    (keeps : ∀ op state, Invariant state → Invariant (perform op state).2)
    (step : ∀ op state, Invariant state → Related state (perform op state).2)
    {start : State} (initial : Invariant start) (ops : List Op) :
    Related start (after perform start ops) := by
  induction ops generalizing start with
  | nil => exact refl start
  | cons op rest inductionHypothesis =>
      exact trans (step op start initial) (inductionHypothesis (keeps op start initial))

/-! ## Conditions on the operations of a history -/

/-- Every operation of the history meets the condition in the state it finds. -/
def Along (Condition : State → Op → Prop) : State → List Op → Prop
  | _, [] => True
  | start, op :: rest => Condition start op ∧ Along Condition (perform op start).2 rest

theorem along_append {Condition : State → Op → Prop} {start : State} {first second : List Op} :
    Along perform Condition start (first ++ second) ↔
      Along perform Condition start first ∧
        Along perform Condition (after perform start first) second := by
  induction first generalizing start with
  | nil => simp [Along]
  | cons op rest inductionHypothesis =>
      simp only [List.cons_append, Along, after, inductionHypothesis, and_assoc]

theorem along_iff_forall {Condition : State → Op → Prop} {start : State} {ops : List Op} :
    Along perform Condition start ops ↔ ∀ earlier op rest, ops = earlier ++ op :: rest →
      Condition (after perform start earlier) op := by
  constructor
  · rintro meets earlier op rest rfl
    exact ((along_append perform).mp meets).2.1
  · intro meets
    induction ops generalizing start with
    | nil => trivial
    | cons op rest inductionHypothesis =>
        refine ⟨meets [] op rest rfl, inductionHypothesis fun earlier next others same => ?_⟩
        exact meets (op :: earlier) next others (congrArg (op :: ·) same)

theorem along_of_forall {Condition : State → Op → Prop}
    (always : ∀ state op, Condition state op) (start : State) (ops : List Op) :
    Along perform Condition start ops := by
  induction ops generalizing start with
  | nil => trivial
  | cons op rest inductionHypothesis => exact ⟨always start op, inductionHypothesis _⟩

/-- The condition of a concrete history, evaluated. -/
def allAlong (check : State → Op → Bool) : State → List Op → Bool
  | _, [] => true
  | start, op :: rest => check start op && allAlong check (perform op start).2 rest

/-- A check that is sound for the operations of the history. -/
theorem along_of_allAlong_mem {Condition : State → Op → Prop} {check : State → Op → Bool}
    {start : State} {ops : List Op}
    (sound : ∀ op ∈ ops, ∀ state, check state op = true → Condition state op)
    (checked : allAlong perform check start ops = true) : Along perform Condition start ops := by
  induction ops generalizing start with
  | nil => trivial
  | cons op rest inductionHypothesis =>
      rw [allAlong, Bool.and_eq_true] at checked
      refine ⟨sound op List.mem_cons_self start checked.1, inductionHypothesis ?_ checked.2⟩
      exact fun other member => sound other (List.mem_cons_of_mem op member)

theorem along_of_allAlong {Condition : State → Op → Prop} {check : State → Op → Bool}
    (sound : ∀ state op, check state op = true → Condition state op) {start : State}
    {ops : List Op} (checked : allAlong perform check start ops = true) :
    Along perform Condition start ops :=
  along_of_allAlong_mem perform (fun op _ state => sound state op) checked

/-- What every operation under the condition preserves holds after every history
whose operations meet the condition. -/
theorem along_invariant {Condition : State → Op → Prop} {Invariant : State → Prop}
    (step : ∀ op state, Condition state op → Invariant state → Invariant (perform op state).2)
    {start : State} (initial : Invariant start) {ops : List Op}
    (meets : Along perform Condition start ops) : Invariant (after perform start ops) := by
  induction ops generalizing start with
  | nil => exact initial
  | cons op rest inductionHypothesis =>
      exact inductionHypothesis (step op start meets.1 initial) meets.2

/-- In histories whose operations meet a premise: where each operation keeps what holds
exactly when it meets the condition, what holds first holds all along exactly when
every operation meets it. -/
theorem along_iff_always_of {Premise Condition : State → Op → Prop}
    {Invariant Holds : State → Prop}
    (keeps : ∀ op state, Premise state op → Invariant state → Invariant (perform op state).2)
    (step : ∀ op state, Premise state op → Invariant state → Holds state →
      (Holds (perform op state).2 ↔ Condition state op))
    {start : State} (initial : Invariant start) (holds : Holds start) {ops : List Op}
    (given : Along perform Premise start ops) :
    (∀ earlier later, ops = earlier ++ later → Holds (after perform start earlier)) ↔
      Along perform Condition start ops := by
  induction ops generalizing start with
  | nil =>
      refine iff_of_true (fun earlier later same => ?_) trivial
      have none : earlier = [] := (List.append_eq_nil_iff.mp same.symm).1
      rw [none]
      exact holds
  | cons op rest inductionHypothesis =>
      have first := step op start given.1 initial holds
      have restGiven := given.2
      have kept := keeps op start given.1 initial
      constructor
      · intro always
        have holdsNext : Holds (perform op start).2 := always [op] rest rfl
        refine ⟨first.mp holdsNext, (inductionHypothesis kept holdsNext restGiven).mp ?_⟩
        intro earlier later same
        exact always (op :: earlier) later (congrArg (op :: ·) same)
      · rintro ⟨meets, along⟩ earlier later same
        have always := (inductionHypothesis kept (first.mpr meets) restGiven).mpr along
        cases earlier with
        | nil => exact holds
        | cons head tail =>
            obtain ⟨rfl, rest_eq⟩ := List.cons.inj same
            exact always tail later rest_eq

/-- The rule without a premise. -/
theorem along_iff_always {Condition : State → Op → Prop} {Invariant Holds : State → Prop}
    (keeps : ∀ op state, Invariant state → Invariant (perform op state).2)
    (step : ∀ op state, Invariant state → Holds state →
      (Holds (perform op state).2 ↔ Condition state op))
    {start : State} (initial : Invariant start) (holds : Holds start) (ops : List Op) :
    (∀ earlier later, ops = earlier ++ later → Holds (after perform start earlier)) ↔
      Along perform Condition start ops :=
  along_iff_always_of perform (fun op state _ => keeps op state) (fun op state _ => step op state)
    initial holds (along_of_forall perform (fun _ _ => trivial) start ops)

/-- A reflexive and transitive relation that every operation under the condition
respects relates the start of such a history to its end. -/
theorem along_related {Condition : State → Op → Prop} {Invariant : State → Prop}
    {Related : State → State → Prop} (refl : ∀ state, Related state state)
    (trans : ∀ {first second third}, Related first second → Related second third →
      Related first third)
    (keeps : ∀ op state, Condition state op → Invariant state → Invariant (perform op state).2)
    (step : ∀ op state, Condition state op → Invariant state → Related state (perform op state).2)
    {start : State} (initial : Invariant start) {ops : List Op}
    (meets : Along perform Condition start ops) : Related start (after perform start ops) := by
  induction ops generalizing start with
  | nil => exact refl start
  | cons op rest inductionHypothesis =>
      exact trans (step op start meets.1 initial)
        (inductionHypothesis (keeps op start meets.1 initial) meets.2)

/-- A relation between the states before and after every operation links the
states passed through. -/
theorem states_isChain {Related : State → State → Prop}
    (step : ∀ op state, Related state (perform op state).2) (start : State) (ops : List Op) :
    (states perform start ops).IsChain Related := by
  induction ops generalizing start with
  | nil => exact List.isChain_singleton start
  | cons op rest inductionHypothesis =>
      have tailChain := inductionHypothesis (perform op start).2
      cases rest with
      | nil => exact tailChain.cons_cons (step op start)
      | cons second others => exact tailChain.cons_cons (step op start)

/-- What is observed of the state, once it is there, stays there and moves by
the relation: the observations of a history form a path. -/
theorem observed_isChain {Observed : Type} {Invariant : State → Prop}
    {Moves : Observed → Observed → Prop} (observe : State → Option Observed)
    (keeps : ∀ op state, Invariant state → Invariant (perform op state).2)
    (step : ∀ op state, Invariant state → ∀ before, observe state = some before →
      ∃ next, observe (perform op state).2 = some next ∧ Moves before next)
    {start : State} (initial : Invariant start) (ops : List Op) :
    ((states perform start ops).filterMap observe).IsChain Moves := by
  induction ops generalizing start with
  | nil =>
      simp only [states]
      cases found : observe start with
      | none => simp [found]
      | some value => simp [found]
  | cons op rest inductionHypothesis =>
      have tailChain := inductionHypothesis (keeps op start initial)
      simp only [states, List.filterMap_cons]
      cases found : observe start with
      | none => exact tailChain
      | some before =>
          obtain ⟨next, observed, moves⟩ := step op start initial before found
          cases rest with
          | nil =>
              simp only [states, List.filterMap_cons, List.filterMap_nil, observed]
              exact (List.isChain_singleton next).cons_cons moves
          | cons second others =>
              simp only [states, List.filterMap_cons, observed] at tailChain ⊢
              exact tailChain.cons_cons moves

/-- The first observation of a history, when the start shows none. -/
theorem observed_head {Observed : Type} {Invariant : State → Prop} {Initial : Observed → Prop}
    (observe : State → Option Observed)
    (keeps : ∀ op state, Invariant state → Invariant (perform op state).2)
    (appears : ∀ op state, Invariant state → observe state = none →
      ∀ first, observe (perform op state).2 = some first → Initial first)
    {start : State} (initial : Invariant start) (absent : observe start = none)
    (ops : List Op) :
    ∀ first ∈ ((states perform start ops).filterMap observe).head?, Initial first := by
  induction ops generalizing start with
  | nil => simp [states, absent]
  | cons op rest inductionHypothesis =>
      simp only [states, List.filterMap_cons, absent]
      cases found : observe (perform op start).2 with
      | none => exact inductionHypothesis (keeps op start initial) found
      | some value =>
          intro first member
          have head : first = value := by
            cases rest <;> simpa [states, found, eq_comm] using member
          exact head ▸ appears op start initial absent value found

end ScraperProject.Foundation.History
