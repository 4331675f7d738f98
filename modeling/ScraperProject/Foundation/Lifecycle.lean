import ScraperProject.Foundation.History
import ScraperProject.Foundation.Table

/-!
Contract: entities whose stage only guarded calls can move.

Owns the changes that one call can make to a table of guarded rows with what they
keep, and the count of the calls that win the race out of a stage: a call out of
a stage succeeds exactly when the entity is in it, so over any history at most
one call leaves a stage that is never entered twice, and exactly one does if the
entity is in the stage and some call tries.

Does not own any table or call; a caller supplies them.
-/

namespace ScraperProject.Foundation.Lifecycle

/-! ## Guarded rows -/

section Rows

variable {Row : Type} [Constrained Row]

/-- What one call can do to a table: nothing, add one initial row, or replace one
row by a change of it. -/
inductive RowStep (Initial : Row → Prop) (Change : Row → Row → Prop) :
    Table Row → Table Row → Prop where
  | kept (table : Table Row) : RowStep Initial Change table table
  | added {table next : Table Row} (row : Row) (initial : Initial row)
      (rows : next.rows = table.rows ++ [row]) : RowStep Initial Change table next
  | moved {table next : Table Row} (row after : Row) (member : row ∈ table)
      (change : Change row after) (changed : after ∈ next)
      (others : ∀ other ∈ table, other ≠ row → other ∈ next)
      (origin : ∀ other ∈ next, other = after ∨ (other ∈ table ∧ other ≠ row)) :
      RowStep Initial Change table next

variable {Initial : Row → Prop} {Change : Row → Row → Prop} {table next : Table Row}

/-- A guarded update whose guard only one row can meet. -/
theorem rowStep_of_map {Selects : Row → Prop} [DecidablePred Selects] {change : Row → Row}
    (single : ∀ row other, Selects row → Selects other → Constrained.Clash row other)
    (changes : ∀ row, Selects row → Change row (change row))
    (rows : next.rows = table.rows.map fun row => if Selects row then change row else row) :
    RowStep Initial Change table next := by
  by_cases selected : ∃ row ∈ table, Selects row
  · obtain ⟨row, member, selects⟩ := selected
    have only : ∀ other ∈ table, Selects other → other = row := fun other otherMember holds =>
      Table.eq_of_clash otherMember member (single other row holds selects)
    have members : ∀ candidate, candidate ∈ next ↔
        ∃ other ∈ table, (if Selects other then change other else other) = candidate := by
      intro candidate
      rw [← Table.mem_rows, rows, List.mem_map]
      rfl
    refine .moved row (change row) member (changes row selects) ?_ ?_ ?_
    · exact (members _).mpr ⟨row, member, if_pos selects⟩
    · intro other otherMember apart
      exact (members _).mpr ⟨other, otherMember, if_neg fun holds =>
        apart (only other otherMember holds)⟩
    · intro candidate listed
      obtain ⟨other, otherMember, rfl⟩ := (members candidate).mp listed
      by_cases holds : Selects other
      · left
        rw [if_pos holds, only other otherMember holds]
      · right
        rw [if_neg holds]
        exact ⟨otherMember, fun same => holds (same ▸ selects)⟩
  · have same : next = table := by
      apply Table.ext
      rw [rows]
      refine (List.map_congr_left fun row member => if_neg fun holds => ?_).trans (List.map_id _)
      exact selected ⟨row, member, holds⟩
    rw [same]
    exact .kept table

/-- What initial rows have and changes keep, all rows have. -/
theorem RowStep.forall {Good : Row → Prop} (step : RowStep Initial Change table next)
    (initial : ∀ row, Initial row → Good row)
    (change : ∀ row after, Change row after → Good row → Good after)
    (good : ∀ row ∈ table, Good row) : ∀ row ∈ next, Good row := by
  cases step with
  | kept => exact good
  | added row isInitial rows =>
      intro other member
      rw [← Table.mem_rows, rows, List.mem_append, List.mem_singleton] at member
      rcases member with old | rfl
      · exact good other old
      · exact initial other isInitial
  | moved row after member isChange _ _ origin =>
      intro other listed
      rcases origin other listed with rfl | ⟨old, _⟩
      · exact change row other isChange (good row member)
      · exact good other old

/-- A row without changes stays as it is. -/
theorem RowStep.frozen (step : RowStep Initial Change table next) {row : Row}
    (member : row ∈ table) (fixed : ∀ after, ¬ Change row after) : row ∈ next := by
  cases step with
  | kept => exact member
  | added _ _ rows =>
      rw [← Table.mem_rows, rows]
      exact List.mem_append_left _ member
  | moved other after _ change _ others _ =>
      apply others row member
      intro same
      exact fixed after (same ▸ change)

end Rows

/-! ## Stages -/

section Stages

variable {Row Key Stage : Type} [Constrained Row] [DecidableEq Key] (key : Row → Key)
  (stage : Row → Stage)

/-- The stage of the row with a key. -/
def stageAt (table : Table Row) (wanted : Key) : Option Stage :=
  (table.find? fun row => key row = wanted).map stage

variable {key stage} {table next : Table Row}

theorem stageAt_eq_some
    (unique : ∀ row other : Row, key row = key other → Constrained.Clash row other)
    {wanted : Key} {found : Stage} :
    stageAt key stage table wanted = some found ↔
      ∃ row ∈ table, key row = wanted ∧ stage row = found := by
  rw [stageAt, Option.map_eq_some_iff]
  constructor
  · rintro ⟨row, present, same⟩
    obtain ⟨member, selected⟩ := Table.find?_some present
    exact ⟨row, member, by simpa using selected, same⟩
  · rintro ⟨row, member, same, sameStage⟩
    refine ⟨row, Table.find?_eq_some_of_mem member (by simpa using same) ?_, sameStage⟩
    intro other _ selected
    exact unique other row ((of_decide_eq_true selected).trans same.symm)

/-- A guarded update moves the one stage that its guard names. -/
theorem stageAt_moved
    (unique : ∀ row other : Row, key row = key other → Constrained.Clash row other)
    [DecidableEq Stage] {moving : Key} {source target : Stage} (change : Row → Row)
    (sameKey : ∀ row, key (change row) = key row) (moved : ∀ row, stage (change row) = target)
    (rows : next.rows = table.rows.map fun row =>
      if key row = moving ∧ stage row = source then change row else row) (wanted : Key) :
    stageAt key stage next wanted =
      if wanted = moving ∧ stageAt key stage table wanted = some source then some target
      else stageAt key stage table wanted := by
  have members : ∀ candidate, candidate ∈ next ↔ ∃ row ∈ table,
      (if key row = moving ∧ stage row = source then change row else row) = candidate := by
    intro candidate
    rw [← Table.mem_rows, rows, List.mem_map]
    rfl
  by_cases guard : wanted = moving ∧ stageAt key stage table wanted = some source
  · rw [if_pos guard, stageAt_eq_some unique]
    obtain ⟨rfl, observed⟩ := guard
    obtain ⟨row, member, same, inSource⟩ := (stageAt_eq_some unique).mp observed
    refine ⟨change row, (members _).mpr ⟨row, member, if_pos ⟨same, inSource⟩⟩, ?_, moved row⟩
    rw [sameKey, same]
  · rw [if_neg guard]
    refine Option.ext fun found => ?_
    rw [stageAt_eq_some unique, stageAt_eq_some unique]
    have unselected : ∀ row ∈ table, key row = wanted →
        ¬ (key row = moving ∧ stage row = source) := by
      rintro row member rfl ⟨isMoving, inSource⟩
      exact guard ⟨isMoving, (stageAt_eq_some unique).mpr ⟨row, member, rfl, inSource⟩⟩
    constructor
    · rintro ⟨candidate, listed, same, inStage⟩
      obtain ⟨row, member, rfl⟩ := (members candidate).mp listed
      have rowKey : key row = wanted := by
        split at same
        · rwa [sameKey] at same
        · exact same
      rw [if_neg (unselected row member rowKey)] at inStage
      exact ⟨row, member, rowKey, inStage⟩
    · rintro ⟨row, member, same, inStage⟩
      exact ⟨row, (members row).mpr ⟨row, member, if_neg (unselected row member same)⟩, same,
        inStage⟩

/-- The same formula for stages under an injective name. -/
theorem map_moved {Found Named : Type} [DecidableEq Found] [DecidableEq Named]
    {name : Found → Named} (injective : Function.Injective name) (stages : Key → Option Found)
    (moving wanted : Key) (source target : Found) :
    (if wanted = moving ∧ stages wanted = some source then some target
      else stages wanted).map name =
      if wanted = moving ∧ (stages moving).map name = some (name source) then some (name target)
      else (stages wanted).map name := by
  by_cases own : wanted = moving
  · subst own
    have same : (stages wanted).map name = some (name source) ↔ stages wanted = some source := by
      cases stages wanted with
      | none => simp
      | some found => simp [injective.eq_iff]
    by_cases inStage : stages wanted = some source
    · rw [if_pos ⟨rfl, inStage⟩, if_pos ⟨rfl, same.mpr inStage⟩]
      rfl
    · rw [if_neg fun guard => inStage guard.2, if_neg fun guard => inStage (same.mp guard.2)]
  · rw [if_neg fun guard => own guard.1, if_neg fun guard => own guard.1]

/-- An added row hides no stage and shows its own. -/
theorem stageAt_appended
    (unique : ∀ row other : Row, key row = key other → Constrained.Clash row other)
    {added : Row} (rows : next.rows = table.rows ++ [added]) (wanted : Key) :
    stageAt key stage next wanted = stageAt key stage table wanted ∨
      (stageAt key stage table wanted = none ∧
        stageAt key stage next wanted = some (stage added)) := by
  cases observed : stageAt key stage table wanted with
  | some found =>
      left
      obtain ⟨row, member, same, inStage⟩ := (stageAt_eq_some unique).mp observed
      refine (stageAt_eq_some unique).mpr ⟨row, ?_, same, inStage⟩
      rw [← Table.mem_rows, rows]
      exact List.mem_append_left _ member
  | none =>
      cases appeared : stageAt key stage next wanted with
      | none => exact Or.inl rfl
      | some first =>
          right
          obtain ⟨row, member, same, inStage⟩ := (stageAt_eq_some unique).mp appeared
          rw [← Table.mem_rows, rows, List.mem_append, List.mem_singleton] at member
          rcases member with old | rfl
          · rw [(stageAt_eq_some unique).mpr ⟨row, old, same, inStage⟩] at observed
            cases observed
          · exact ⟨rfl, congrArg some inStage.symm⟩

end Stages

/-! ## Races -/

section Races

variable {State Op Outcome Stage : Type} [DecidableEq Stage]
  (perform : Op → State → Outcome × State) (observe : State → Option Stage)
  (leaves : Op → Option (Stage × Stage)) (returned : Outcome → Bool)

/-- Calls that try to move one entity from one stage to another: such a call
returns exactly when the entity is in the first stage, and otherwise changes
nothing; stages are ranked along the moves. -/
structure Guarded (rank : Stage → Nat) : Prop where
  returns : ∀ op state source target, leaves op = some (source, target) →
    (returned (perform op state).1 ↔ observe state = some source)
  moves : ∀ op state source target, leaves op = some (source, target) →
    observe state = some source → observe (perform op state).2 = some target
  refuses : ∀ op state source target, leaves op = some (source, target) →
    observe state ≠ some source → (perform op state).2 = state
  others : ∀ op state stage, leaves op = none → observe state = some stage →
    observe (perform op state).2 = some stage
  forward : ∀ op source target, leaves op = some (source, target) → rank source < rank target

/-- The call tries to leave the stage. -/
def triesToLeave (source : Stage) (op : Op) : Bool :=
  (leaves op).any fun move => move.1 = source

/-- How many calls left the stage. -/
def winners (source : Stage) (past : List (Op × Outcome)) : Nat :=
  past.countP fun event => triesToLeave leaves source event.1 && returned event.2

variable {perform observe leaves returned} {rank : Stage → Nat}

theorem winners_cons (source : Stage) (event : Op × Outcome) (past : List (Op × Outcome)) :
    winners leaves returned source (event :: past) =
      winners leaves returned source past +
        if triesToLeave leaves source event.1 && returned event.2 then 1 else 0 :=
  List.countP_cons

theorem triesToLeave_iff {source : Stage} {op : Op} :
    triesToLeave leaves source op ↔ ∃ target, leaves op = some (source, target) := by
  unfold triesToLeave
  cases leaves op with
  | none => simp
  | some move =>
      obtain ⟨origin, target⟩ := move
      simp

/-- One call, seen from a stage: it wins the race and the entity is in a later
stage, or it does not win and the entity stays where it is or moves on from
another stage. -/
theorem Guarded.step (guarded : Guarded perform observe leaves returned rank) (op : Op)
    (state : State) (source : Stage) {stage : Stage} (observed : observe state = some stage) :
    ((triesToLeave leaves source op && returned (perform op state).1) = true ∧ stage = source ∧
        ∃ target, observe (perform op state).2 = some target ∧ rank source < rank target) ∨
      ((triesToLeave leaves source op && returned (perform op state).1) = false ∧
        ∃ later, observe (perform op state).2 = some later ∧ rank stage ≤ rank later ∧
          (stage = source → triesToLeave leaves source op = false ∧ later = source)) := by
  cases tries : leaves op with
  | none =>
      have idle : triesToLeave leaves source op = false := by simp [triesToLeave, tries]
      right
      exact ⟨by simp [idle], stage, guarded.others op state stage tries observed, le_rfl,
        fun same => ⟨idle, same⟩⟩
  | some move =>
      obtain ⟨origin, target⟩ := move
      by_cases inStage : stage = origin
      · subst inStage
        have moved := guarded.moves op state stage target tries observed
        have forward := guarded.forward op stage target tries
        by_cases same : stage = source
        · left
          subst same
          have won := (guarded.returns op state stage target tries).mpr observed
          refine ⟨?_, rfl, target, moved, forward⟩
          rw [Bool.and_eq_true]
          exact ⟨triesToLeave_iff.mpr ⟨target, tries⟩, won⟩
        · right
          have idle : triesToLeave leaves source op = false := by
            simp [triesToLeave, tries, same]
          exact ⟨by simp [idle], target, moved, forward.le, fun again => absurd again same⟩
      · have apart : observe state ≠ some origin := by
          rw [observed]
          exact fun same => inStage (Option.some.inj same)
        have lost : returned (perform op state).1 = false := by
          rw [Bool.eq_false_iff]
          exact fun won => apart ((guarded.returns op state origin target tries).mp won)
        have unchanged := guarded.refuses op state origin target tries apart
        right
        refine ⟨by simp [lost], stage, by rw [unchanged, observed], le_rfl, fun same => ?_⟩
        have otherStage : origin ≠ source := fun again => inStage (same.trans again.symm)
        exact ⟨by simp [triesToLeave, tries, otherStage], same⟩

/-- A stage that the entity has passed is not left again. -/
theorem Guarded.winners_eq_zero (guarded : Guarded perform observe leaves returned rank)
    {source : Stage} (ops : List Op) {state : State} {stage : Stage}
    (observed : observe state = some stage) (passed : rank source < rank stage) :
    winners leaves returned source (History.events perform state ops) = 0 := by
  induction ops generalizing state stage with
  | nil => rfl
  | cons op rest inductionHypothesis =>
      rw [History.events, winners_cons]
      rcases guarded.step op state source observed with ⟨_, same, _⟩ | ⟨lost, later, next, ranked, _⟩
      · rw [same] at passed
        exact absurd passed (lt_irrefl _)
      · rw [inductionHypothesis next (passed.trans_le ranked), lost]
        rfl

/-- At most one call of a history leaves a stage. -/
theorem Guarded.winners_le_one (guarded : Guarded perform observe leaves returned rank)
    (source : Stage) (ops : List Op) (state : State) :
    winners leaves returned source (History.events perform state ops) ≤ 1 := by
  induction ops generalizing state with
  | nil => exact Nat.zero_le 1
  | cons op rest inductionHypothesis =>
      rw [History.events, winners_cons]
      by_cases won : (triesToLeave leaves source op && returned (perform op state).1) = true
      · rw [Bool.and_eq_true] at won
        obtain ⟨target, tries⟩ := triesToLeave_iff.mp won.1
        have observed := (guarded.returns op state source target tries).mp won.2
        have moved := guarded.moves op state source target tries observed
        rw [guarded.winners_eq_zero rest moved (guarded.forward op source target tries)]
        split <;> decide
      · rw [if_neg won]
        exact inductionHypothesis _

/-- If the entity is in a stage and some call tries to leave it, exactly one does. -/
theorem Guarded.winners_eq_one (guarded : Guarded perform observe leaves returned rank)
    {source : Stage} (ops : List Op) {state : State} (observed : observe state = some source)
    (tried : ∃ op ∈ ops, triesToLeave leaves source op) :
    winners leaves returned source (History.events perform state ops) = 1 := by
  induction ops generalizing state with
  | nil => simp at tried
  | cons op rest inductionHypothesis =>
      rw [History.events, winners_cons]
      rcases guarded.step op state source observed with
        ⟨won, _, target, moved, forward⟩ | ⟨lost, later, next, _, stays⟩
      · rw [guarded.winners_eq_zero rest moved forward, won]
        rfl
      · obtain ⟨idle, rfl⟩ := stays rfl
        have others : ∃ other ∈ rest, triesToLeave leaves later other := by
          obtain ⟨other, member, tries⟩ := tried
          rcases List.mem_cons.mp member with rfl | listed
          · rw [idle] at tries
            cases tries
          · exact ⟨other, listed, tries⟩
        rw [inductionHypothesis next others, lost]
        rfl

end Races

end ScraperProject.Foundation.Lifecycle
