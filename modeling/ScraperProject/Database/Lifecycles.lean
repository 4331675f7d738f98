import ScraperProject.Database.RepositorySteps
import ScraperProject.Foundation.Lifecycle

/-!
Contract: the documented lifecycles of crawl runs, partitions and parser runs.

Owns the calls that create and move them, the stages and their edges, the proof
that a call moves exactly the entity it names and only from the stage it expects,
and what holds over every interleaving of such calls.

Does not own the other tables: work on them may come between any two calls.
-/

namespace ScraperProject.Database

open Foundation
open Foundation.Lifecycle

/-! ## Calls -/

/-- Work of anyone on the other tables. -/
structure OtherWork where
  perform : Db → Db
  runs : ∀ db, (perform db).runs = db.runs
  partitions : ∀ db, (perform db).partitions = db.partitions
  parserRuns : ∀ db, (perform db).parserRuns = db.parserRuns

/-- A call on the lifecycles with its arguments, clock readings and fresh
identifiers. -/
inductive LifecycleCall where
  | createRun (crawlRunId sourceName runKind : String) (clock : Instant)
  | startRun (crawlRunId : String) (clock : Instant)
  | completeRun (crawlRunId : String) (clock : Instant)
  | failRun (crawlRunId : String) (clock : Instant)
  | createPartition (partitionId crawlRunId sourceName partitionKey : String)
      (createdAt updatedAt : Instant)
  | startPartition (partitionId : String) (clock : Instant)
  | completePartition (partitionId : String) (clock : Instant)
  | failPartition (partitionId : String) (clock : Instant)
  | startParserRun (artifactId parserName parserVersion parserRunId : String) (clock : Instant)
  | completeParserRun (parserRunId : String) (clock : Instant)
  | failParserRun (parserRunId failureReason : String) (clock : Instant)
  | elsewhere (work : OtherWork)

/-- A call on a database. Only `start` of a parser run returns a value, which is
its fresh identifier. -/
def performLifecycle : LifecycleCall → Action Unit
  | .createRun crawlRunId sourceName runKind clock =>
      createRun crawlRunId sourceName runKind clock
  | .startRun crawlRunId clock => startRun crawlRunId clock
  | .completeRun crawlRunId clock => completeRun crawlRunId clock
  | .failRun crawlRunId clock => failRun crawlRunId clock
  | .createPartition partitionId crawlRunId sourceName partitionKey createdAt updatedAt =>
      createPartition partitionId crawlRunId sourceName partitionKey createdAt updatedAt
  | .startPartition partitionId clock => startPartition partitionId clock
  | .completePartition partitionId clock => completePartition partitionId clock
  | .failPartition partitionId clock => failPartition partitionId clock
  | .startParserRun artifactId parserName parserVersion parserRunId clock => fun db =>
      let (result, next) :=
        startParserRun artifactId parserName parserVersion parserRunId clock db
      (result.map fun _ => (), next)
  | .completeParserRun parserRunId clock => completeParserRun parserRunId clock
  | .failParserRun parserRunId failureReason clock =>
      failParserRun parserRunId failureReason clock
  | .elsewhere work => fun db => (.ok (), work.perform db)

/-! ## Stages -/

/-- A row with a lifecycle. -/
inductive Entity where
  | run (crawlRunId : String)
  | partition (partitionId : String)
  | parserRun (parserRunId : String)
deriving DecidableEq

inductive Stage where
  | run (state : RunState)
  | partition (state : PartitionState)
  | parserRun (state : ParserRunState)
deriving DecidableEq

def stageOf : Entity → Db → Option Stage
  | .run crawlRunId, db =>
      (stageAt RunRow.crawlRunId RunRow.state db.runs crawlRunId).map .run
  | .partition partitionId, db =>
      (stageAt PartitionRow.partitionId PartitionRow.state db.partitions partitionId).map
        .partition
  | .parserRun parserRunId, db =>
      (stageAt ParserRunRow.parserRunId ParserRunRow.state db.parserRuns parserRunId).map
        .parserRun

/-- The stage in which an entity is created. -/
def Entity.initial : Entity → Stage
  | .run _ => .run .created
  | .partition _ => .partition .pending
  | .parserRun _ => .parserRun .running

/-- The documented edges. -/
inductive Edge : Stage → Stage → Prop where
  | runStarted : Edge (.run .created) (.run .running)
  | runCompleted : Edge (.run .running) (.run .completed)
  | runFailed : Edge (.run .running) (.run .failed)
  | partitionStarted : Edge (.partition .pending) (.partition .processing)
  | partitionCompleted : Edge (.partition .processing) (.partition .completed)
  | partitionFailed : Edge (.partition .processing) (.partition .failed)
  | parserRunCompleted : Edge (.parserRun .running) (.parserRun .completed)
  | parserRunFailed : Edge (.parserRun .running) (.parserRun .failed)

/-- The place of a stage along the edges. -/
def Stage.rank : Stage → Nat
  | .run .created | .partition .pending | .parserRun .running => 0
  | .run .running | .partition .processing => 1
  | .run .completed | .run .failed | .partition .completed | .partition .failed |
    .parserRun .completed | .parserRun .failed => 2

theorem Edge.forward {source target : Stage} (edge : Edge source target) :
    source.rank < target.rank := by
  cases edge <;> decide

/-- The transition that a call attempts: the entity, the stage it expects and the
stage it sets. A failure without a reason attempts none. -/
def attemptedMove : LifecycleCall → Option (Entity × Stage × Stage)
  | .startRun crawlRunId _ => some (.run crawlRunId, .run .created, .run .running)
  | .completeRun crawlRunId _ => some (.run crawlRunId, .run .running, .run .completed)
  | .failRun crawlRunId _ => some (.run crawlRunId, .run .running, .run .failed)
  | .startPartition partitionId _ =>
      some (.partition partitionId, .partition .pending, .partition .processing)
  | .completePartition partitionId _ =>
      some (.partition partitionId, .partition .processing, .partition .completed)
  | .failPartition partitionId _ =>
      some (.partition partitionId, .partition .processing, .partition .failed)
  | .completeParserRun parserRunId _ =>
      some (.parserRun parserRunId, .parserRun .running, .parserRun .completed)
  | .failParserRun parserRunId failureReason _ =>
      if failureReason = "" then none
      else some (.parserRun parserRunId, .parserRun .running, .parserRun .failed)
  | .createRun .. | .createPartition .. | .startParserRun .. | .elsewhere _ => none

theorem attemptedMove_edge {call : LifecycleCall} {entity : Entity} {source target : Stage}
    (attempted : attemptedMove call = some (entity, source, target)) : Edge source target := by
  cases call <;> simp only [attemptedMove, Option.some.injEq, Prod.mk.injEq, reduceCtorEq,
    Option.ite_none_left_eq_some] at attempted
  case startRun => obtain ⟨_, rfl, rfl⟩ := attempted; exact .runStarted
  case completeRun => obtain ⟨_, rfl, rfl⟩ := attempted; exact .runCompleted
  case failRun => obtain ⟨_, rfl, rfl⟩ := attempted; exact .runFailed
  case startPartition => obtain ⟨_, rfl, rfl⟩ := attempted; exact .partitionStarted
  case completePartition => obtain ⟨_, rfl, rfl⟩ := attempted; exact .partitionCompleted
  case failPartition => obtain ⟨_, rfl, rfl⟩ := attempted; exact .partitionFailed
  case completeParserRun => obtain ⟨_, rfl, rfl⟩ := attempted; exact .parserRunCompleted
  case failParserRun => obtain ⟨_, _, rfl, rfl⟩ := attempted; exact .parserRunFailed

/-! ## Unique keys -/

theorem run_unique (row other : RunRow) (same : row.crawlRunId = other.crawlRunId) :
    Constrained.Clash row other := same

theorem partition_unique (row other : PartitionRow) (same : row.partitionId = other.partitionId) :
    Constrained.Clash row other := Or.inl same

theorem parserRun_unique (row other : ParserRunRow)
    (same : row.parserRunId = other.parserRunId) : Constrained.Clash row other := same

/-! ## Moves -/

/-- A call that moves one entity from the stage it expects, and is refused with
everything unchanged in any other stage. -/
structure Moves (entity : Entity) (source target : Stage) (action : Action Unit) : Prop where
  returns : ∀ db, (action db).1 = .ok () ↔ stageOf entity db = some source
  refused : ∀ db, stageOf entity db ≠ some source →
    ∃ message, action db = (.error (.repositoryState message), db)
  stage : ∀ db other, stageOf other (action db).2 =
    if other = entity ∧ stageOf entity db = some source then some target else stageOf other db

theorem run_injective : Function.Injective Stage.run := fun _ _ same => Stage.run.inj same

theorem partition_injective : Function.Injective Stage.partition :=
  fun _ _ same => Stage.partition.inj same

theorem parserRun_injective : Function.Injective Stage.parserRun :=
  fun _ _ same => Stage.parserRun.inj same

theorem map_some_iff {α β : Type} {f : α → β} (injective : Function.Injective f)
    {value : Option α} {found : α} : value.map f = some (f found) ↔ value = some found := by
  rw [Option.map_eq_some_iff]
  constructor
  · rintro ⟨other, rfl, same⟩
    rw [injective same]
  · rintro rfl
    exact ⟨found, rfl, rfl⟩

theorem stageOf_run {crawlRunId : String} {db : Db} {state : RunState} :
    stageOf (.run crawlRunId) db = some (.run state) ↔
      ∃ row ∈ db.runs, row.crawlRunId = crawlRunId ∧ row.state = state := by
  rw [stageOf, map_some_iff run_injective]
  exact stageAt_eq_some run_unique

theorem stageOf_partition {partitionId : String} {db : Db} {state : PartitionState} :
    stageOf (.partition partitionId) db = some (.partition state) ↔
      ∃ row ∈ db.partitions, row.partitionId = partitionId ∧ row.state = state := by
  rw [stageOf, map_some_iff partition_injective]
  exact stageAt_eq_some partition_unique

theorem stageOf_parserRun {parserRunId : String} {db : Db} {state : ParserRunState} :
    stageOf (.parserRun parserRunId) db = some (.parserRun state) ↔
      ∃ row ∈ db.parserRuns, row.parserRunId = parserRunId ∧ row.state = state := by
  rw [stageOf, map_some_iff parserRun_injective]
  exact stageAt_eq_some parserRun_unique

theorem transitionRun_moves (crawlRunId : String) (expected target : RunState)
    (setStarted setFinished : Bool) (clock : Instant) :
    Moves (.run crawlRunId) (.run expected) (.run target)
      (transitionRun crawlRunId expected target setStarted setFinished clock) where
  returns db := by
    rw [stageOf_run]
    exact (transitionRun_cases (Prod.eta _).symm).1
  refused db absent := ⟨_, transitionRun_refused (mt stageOf_run.mpr absent)⟩
  stage db other := by
    obtain ⟨_, runs, changed, rows⟩ := transitionRun_cases
      (Prod.eta (transitionRun crawlRunId expected target setStarted setFinished clock db)).symm
    rw [changed]
    cases other with
    | run wanted =>
        have moved := stageAt_moved run_unique
          (fun row => row.transition target setStarted setFinished clock) (fun _ => rfl)
          (fun _ => rfl) rows wanted
        simp only [stageOf, moved, Entity.run.injEq]
        exact map_moved run_injective _ crawlRunId wanted expected target
    | partition | parserRun => simp [stageOf]

theorem transitionPartition_moves (partitionId : String) (expected target : PartitionState)
    (clock : Instant) :
    Moves (.partition partitionId) (.partition expected) (.partition target)
      (transitionPartition partitionId expected target clock) where
  returns db := by
    rw [stageOf_partition]
    exact (transitionPartition_cases (Prod.eta _).symm).1
  refused db absent := ⟨_, transitionPartition_refused (mt stageOf_partition.mpr absent)⟩
  stage db other := by
    obtain ⟨_, partitions, changed, rows⟩ := transitionPartition_cases
      (Prod.eta (transitionPartition partitionId expected target clock db)).symm
    rw [changed]
    cases other with
    | partition wanted =>
        have moved := stageAt_moved partition_unique (fun row => row.transition target clock)
          (fun _ => rfl) (fun _ => rfl) rows wanted
        simp only [stageOf, moved, Entity.partition.injEq]
        exact map_moved partition_injective _ partitionId wanted expected target
    | run | parserRun => simp [stageOf]

theorem transitionParserRun_moves (parserRunId : String) (target : ParserRunState)
    (failureReason : Option String) (clock : Instant) :
    Moves (.parserRun parserRunId) (.parserRun .running) (.parserRun target)
      (transitionParserRun parserRunId target failureReason clock) where
  returns db := by
    rw [stageOf_parserRun]
    exact (transitionParserRun_cases (Prod.eta _).symm).1
  refused db absent := ⟨_, transitionParserRun_refused (mt stageOf_parserRun.mpr absent)⟩
  stage db other := by
    obtain ⟨_, parserRuns, changed, rows⟩ := transitionParserRun_cases
      (Prod.eta (transitionParserRun parserRunId target failureReason clock db)).symm
    rw [changed]
    cases other with
    | parserRun wanted =>
        have moved := stageAt_moved parserRun_unique
          (fun row => row.finish target failureReason clock) (fun _ => rfl) (fun _ => rfl) rows
          wanted
        simp only [stageOf, moved, Entity.parserRun.injEq]
        exact map_moved parserRun_injective _ parserRunId wanted .running target
    | run | partition => simp [stageOf]

/-- A call that attempts a transition makes it or is refused. -/
theorem performLifecycle_moves {call : LifecycleCall} {entity : Entity} {source target : Stage}
    (attempted : attemptedMove call = some (entity, source, target)) :
    Moves entity source target (performLifecycle call) := by
  cases call <;> simp only [attemptedMove, Option.some.injEq, Prod.mk.injEq, reduceCtorEq,
    Option.ite_none_left_eq_some] at attempted
  case failParserRun parserRunId failureReason clock =>
    obtain ⟨reason, rfl, rfl, rfl⟩ := attempted
    have attempts : performLifecycle (.failParserRun parserRunId failureReason clock) =
        transitionParserRun parserRunId .failed (some failureReason) clock := by
      funext db
      exact if_neg reason
    rw [attempts]
    exact transitionParserRun_moves _ _ _ _
  all_goals obtain ⟨rfl, rfl, rfl⟩ := attempted
  case startRun => exact transitionRun_moves _ _ _ _ _ _
  case completeRun => exact transitionRun_moves _ _ _ _ _ _
  case failRun => exact transitionRun_moves _ _ _ _ _ _
  case startPartition => exact transitionPartition_moves _ _ _ _
  case completePartition => exact transitionPartition_moves _ _ _ _
  case failPartition => exact transitionPartition_moves _ _ _ _
  case completeParserRun => exact transitionParserRun_moves _ _ _ _

/-! ## Creations -/

/-- No entity moves, and one that appears is in its initial stage. -/
def Grows (db next : Db) : Prop :=
  ∀ entity, stageOf entity next = stageOf entity db ∨
    (stageOf entity db = none ∧ stageOf entity next = some entity.initial)

theorem grows_of_eq {db next : Db} (unchanged : next = db) : Grows db next := fun _ =>
  Or.inl (by rw [unchanged])

theorem grows_runs {db : Db} {runs : Table RunRow} {row : RunRow}
    (rows : runs.rows = db.runs.rows ++ [row]) (created : row.state = .created) :
    Grows db { db with runs := runs } := by
  intro entity
  cases entity with
  | run wanted =>
      rcases stageAt_appended run_unique rows wanted with same | ⟨absent, appeared⟩
      · exact Or.inl (congrArg (Option.map Stage.run) same)
      · rw [created] at appeared
        exact Or.inr ⟨congrArg (Option.map Stage.run) absent,
          congrArg (Option.map Stage.run) appeared⟩
  | partition | parserRun => exact Or.inl rfl

theorem grows_partitions {db : Db} {partitions : Table PartitionRow} {row : PartitionRow}
    (rows : partitions.rows = db.partitions.rows ++ [row]) (pending : row.state = .pending) :
    Grows db { db with partitions := partitions } := by
  intro entity
  cases entity with
  | partition wanted =>
      rcases stageAt_appended partition_unique rows wanted with same | ⟨absent, appeared⟩
      · exact Or.inl (congrArg (Option.map Stage.partition) same)
      · rw [pending] at appeared
        exact Or.inr ⟨congrArg (Option.map Stage.partition) absent,
          congrArg (Option.map Stage.partition) appeared⟩
  | run | parserRun => exact Or.inl rfl

theorem grows_parserRuns {db : Db} {parserRuns : Table ParserRunRow} {row : ParserRunRow}
    (rows : parserRuns.rows = db.parserRuns.rows ++ [row]) (running : row.state = .running) :
    Grows db { db with parserRuns := parserRuns } := by
  intro entity
  cases entity with
  | parserRun wanted =>
      rcases stageAt_appended parserRun_unique rows wanted with same | ⟨absent, appeared⟩
      · exact Or.inl (congrArg (Option.map Stage.parserRun) same)
      · rw [running] at appeared
        exact Or.inr ⟨congrArg (Option.map Stage.parserRun) absent,
          congrArg (Option.map Stage.parserRun) appeared⟩
  | run | partition => exact Or.inl rfl

/-- A call that attempts no transition moves nothing. -/
theorem performLifecycle_grows {call : LifecycleCall} (idle : attemptedMove call = none)
    (db : Db) : Grows db (performLifecycle call db).2 := by
  cases call <;> simp only [attemptedMove, reduceCtorEq, ite_eq_left_iff, imp_false,
    Decidable.not_not] at idle
  case createRun crawlRunId sourceName runKind clock =>
    rcases createRun_cases (Prod.eta (createRun crawlRunId sourceName runKind clock db)).symm
      with ⟨_, _, same⟩ | ⟨_, runs, same, rows⟩
    · exact grows_of_eq same
    · exact same ▸ grows_runs rows rfl
  case createPartition partitionId crawlRunId sourceName partitionKey createdAt updatedAt =>
    rcases createPartition_cases (Prod.eta (createPartition partitionId crawlRunId sourceName
      partitionKey createdAt updatedAt db)).symm with ⟨_, _, same⟩ | ⟨_, partitions, same, rows⟩
    · exact grows_of_eq same
    · exact same ▸ grows_partitions rows rfl
  case startParserRun artifactId parserName parserVersion parserRunId clock =>
    rcases startParserRun_cases (Prod.eta (startParserRun artifactId parserName parserVersion
      parserRunId clock db)).symm with ⟨_, _, same⟩ | ⟨_, parserRuns, same, rows⟩
    · exact grows_of_eq same
    · exact same ▸ grows_parserRuns rows rfl
  case failParserRun parserRunId failureReason clock =>
    have unchanged : (performLifecycle (.failParserRun parserRunId failureReason clock) db).2 =
        db := congrArg Prod.snd (if_pos idle)
    exact grows_of_eq unchanged
  case elsewhere work =>
    intro entity
    left
    cases entity with
    | run wanted => exact congrArg (fun runs => (stageAt _ _ runs wanted).map _) (work.runs db)
    | partition wanted =>
        exact congrArg (fun partitions => (stageAt _ _ partitions wanted).map _)
          (work.partitions db)
    | parserRun wanted =>
        exact congrArg (fun parserRuns => (stageAt _ _ parserRuns wanted).map _)
          (work.parserRuns db)

/-! ## Races out of a stage -/

/-- The move of one entity that a call attempts. -/
def leavesOf (entity : Entity) (call : LifecycleCall) : Option (Stage × Stage) :=
  (attemptedMove call).bind fun move => if move.1 = entity then some move.2 else none

theorem leavesOf_eq_some {entity : Entity} {call : LifecycleCall} {source target : Stage} :
    leavesOf entity call = some (source, target) ↔
      attemptedMove call = some (entity, source, target) := by
  unfold leavesOf
  cases attemptedMove call with
  | none => simp
  | some move =>
      obtain ⟨other, move⟩ := move
      simp only [Option.bind_some, Option.ite_none_right_eq_some, Option.some.injEq, Prod.mk.injEq]

theorem isOk_iff {outcome : Except PyError Unit} : outcome.isOk ↔ outcome = .ok () := by
  cases outcome with
  | error raised => simp [Except.isOk, Except.toBool]
  | ok value => simp [Except.isOk, Except.toBool]

theorem performLifecycle_guarded (entity : Entity) :
    Guarded performLifecycle (stageOf entity) (leavesOf entity) Except.isOk Stage.rank where
  returns call db source target leaves := by
    rw [isOk_iff]
    exact (performLifecycle_moves (leavesOf_eq_some.mp leaves)).returns db
  moves call db source target leaves observed := by
    rw [(performLifecycle_moves (leavesOf_eq_some.mp leaves)).stage, if_pos ⟨rfl, observed⟩]
  refuses call db source target leaves apart := by
    obtain ⟨_, refused⟩ := (performLifecycle_moves (leavesOf_eq_some.mp leaves)).refused db apart
    rw [refused]
  others call db stage idle observed := by
    cases attempted : attemptedMove call with
    | none =>
        rcases performLifecycle_grows attempted db entity with same | ⟨absent, _⟩
        · rw [same, observed]
        · rw [observed] at absent
          cases absent
    | some move =>
        obtain ⟨other, source, target⟩ := move
        have apart : entity ≠ other := by
          rintro rfl
          rw [leavesOf_eq_some.mpr attempted] at idle
          cases idle
        rw [(performLifecycle_moves attempted).stage, if_neg fun own => apart own.1, observed]
  forward call source target leaves := (attemptedMove_edge (leavesOf_eq_some.mp leaves)).forward

/-- One step on the documented path of an entity. -/
inductive Advances (entity : Entity) : Option Stage → Option Stage → Prop where
  | absent : Advances entity none none
  | created : Advances entity none (some entity.initial)
  | kept (stage : Stage) : Advances entity (some stage) (some stage)
  | moved {source target : Stage} (edge : Edge source target) :
      Advances entity (some source) (some target)

theorem Advances.refl (entity : Entity) (stage : Option Stage) : Advances entity stage stage := by
  cases stage with
  | none => exact .absent
  | some stage => exact .kept stage

theorem performLifecycle_advances (entity : Entity) (call : LifecycleCall) (db : Db) :
    Advances entity (stageOf entity db) (stageOf entity (performLifecycle call db).2) := by
  cases attempted : attemptedMove call with
  | none =>
      rcases performLifecycle_grows attempted db entity with same | ⟨absent, appeared⟩
      · rw [same]
        exact .refl entity _
      · rw [absent, appeared]
        exact .created
  | some move =>
      obtain ⟨other, source, target⟩ := move
      rw [(performLifecycle_moves attempted).stage]
      by_cases own : entity = other ∧ stageOf other db = some source
      · rw [if_pos own, own.1, own.2]
        exact .moved (attemptedMove_edge attempted)
      · rw [if_neg own]
        exact .refl entity _

/-! ## Rows -/

def RunState.Terminal (state : RunState) : Prop := state = .completed ∨ state = .failed

def PartitionState.Terminal (state : PartitionState) : Prop := state = .completed ∨ state = .failed

def ParserRunState.Terminal (state : ParserRunState) : Prop := state = .completed ∨ state = .failed

/-- The times of a run tell its state. -/
def RunRow.Timed (row : RunRow) : Prop :=
  (row.startedAt.isSome ↔ row.state ≠ .created) ∧ (row.finishedAt.isSome ↔ row.state.Terminal)

/-- The end of a parser run and its reason tell its state. -/
def ParserRunRow.Explained (row : ParserRunRow) : Prop :=
  (row.finishedAt.isSome ↔ row.state.Terminal) ∧
    ((∃ reason, row.failureReason = some reason ∧ reason ≠ "") ↔ row.state = .failed) ∧
    (row.failureReason.isSome ↔ row.state = .failed)

/-- What one transition makes of a run. -/
inductive RunChange : RunRow → RunRow → Prop where
  | started (row : RunRow) (clock : Instant) (created : row.state = .created) :
      RunChange row (row.transition .running true false clock)
  | finished (row : RunRow) (target : RunState) (clock : Instant) (running : row.state = .running)
      (terminal : target.Terminal) : RunChange row (row.transition target false true clock)

/-- What one transition makes of a partition. -/
inductive PartitionChange : PartitionRow → PartitionRow → Prop where
  | started (row : PartitionRow) (clock : Instant) (pending : row.state = .pending) :
      PartitionChange row (row.transition .processing clock)
  | finished (row : PartitionRow) (target : PartitionState) (clock : Instant)
      (processing : row.state = .processing) (terminal : target.Terminal) :
      PartitionChange row (row.transition target clock)

/-- What one transition makes of a parser run. -/
inductive ParserRunChange : ParserRunRow → ParserRunRow → Prop where
  | completed (row : ParserRunRow) (clock : Instant) (running : row.state = .running) :
      ParserRunChange row (row.finish .completed none clock)
  | failed (row : ParserRunRow) (failureReason : String) (clock : Instant)
      (running : row.state = .running) (reason : failureReason ≠ "") :
      ParserRunChange row (row.finish .failed (some failureReason) clock)

def InitialRun (row : RunRow) : Prop :=
  row.state = .created ∧ row.startedAt = none ∧ row.finishedAt = none

def InitialParserRun (row : ParserRunRow) : Prop :=
  row.state = .running ∧ row.finishedAt = none ∧ row.failureReason = none

theorem timed_of_initial (row : RunRow) (initial : InitialRun row) : row.Timed := by
  obtain ⟨state, started, finished⟩ := initial
  simp [RunRow.Timed, RunState.Terminal, state, started, finished]

theorem timed_of_change (row after : RunRow) (change : RunChange row after)
    (timed : row.Timed) : after.Timed := by
  cases change with
  | started clock created =>
      have unfinished : row.finishedAt.isSome = false := by
        simpa [created, RunState.Terminal] using timed.2
      simp [RunRow.Timed, RunRow.transition, RunState.Terminal, unfinished]
  | finished target clock running terminal =>
      have started : row.startedAt.isSome := timed.1.mpr (by simp [running])
      have left : target ≠ .created := by
        rcases terminal with rfl | rfl <;> decide
      exact ⟨by simpa [RunRow.transition, left] using started,
        by simpa [RunRow.transition] using terminal⟩

theorem explained_of_initial (row : ParserRunRow) (initial : InitialParserRun row) :
    row.Explained := by
  obtain ⟨state, finished, reason⟩ := initial
  simp [ParserRunRow.Explained, ParserRunState.Terminal, state, finished, reason]

theorem explained_of_change (row after : ParserRunRow) (change : ParserRunChange row after)
    (_ : row.Explained) : after.Explained := by
  cases change with
  | completed clock running =>
      simp [ParserRunRow.Explained, ParserRunRow.finish, ParserRunState.Terminal]
  | failed failureReason clock running reason =>
      simp [ParserRunRow.Explained, ParserRunRow.finish, ParserRunState.Terminal, reason]

theorem run_fixed {row : RunRow} (terminal : row.state.Terminal) (after : RunRow) :
    ¬ RunChange row after := by
  rintro (⟨clock, created⟩ | ⟨target, clock, running, _⟩)
  · simp [created, RunState.Terminal] at terminal
  · simp [running, RunState.Terminal] at terminal

theorem partition_fixed {row : PartitionRow} (terminal : row.state.Terminal)
    (after : PartitionRow) : ¬ PartitionChange row after := by
  rintro (⟨clock, pending⟩ | ⟨target, clock, processing, _⟩)
  · simp [pending, PartitionState.Terminal] at terminal
  · simp [processing, PartitionState.Terminal] at terminal

theorem parserRun_fixed {row : ParserRunRow} (terminal : row.state.Terminal)
    (after : ParserRunRow) : ¬ ParserRunChange row after := by
  rintro (⟨clock, running⟩ | ⟨failureReason, clock, running, _⟩) <;>
    simp [running, ParserRunState.Terminal] at terminal

/-! ## One call, row by row -/

/-- What one call does to the three tables. -/
structure RowSteps (db next : Db) : Prop where
  runs : RowStep InitialRun RunChange db.runs next.runs
  partitions : RowStep (fun row => row.state = .pending) PartitionChange db.partitions
    next.partitions
  parserRuns : RowStep InitialParserRun ParserRunChange db.parserRuns next.parserRuns

theorem rowSteps_of_eq {db next : Db} (runs : next.runs = db.runs)
    (partitions : next.partitions = db.partitions) (parserRuns : next.parserRuns = db.parserRuns) :
    RowSteps db next where
  runs := runs ▸ .kept _
  partitions := partitions ▸ .kept _
  parserRuns := parserRuns ▸ .kept _

theorem transitionRun_rowSteps (crawlRunId : String) (expected target : RunState)
    (setStarted setFinished : Bool) (clock : Instant) (db : Db)
    (changes : ∀ row : RunRow, row.state = expected →
      RunChange row (row.transition target setStarted setFinished clock)) :
    RowSteps db (transitionRun crawlRunId expected target setStarted setFinished clock db).2 := by
  obtain ⟨_, runs, changed, rows⟩ := transitionRun_cases
    (Prod.eta (transitionRun crawlRunId expected target setStarted setFinished clock db)).symm
  rw [changed]
  refine ⟨?_, .kept _, .kept _⟩
  exact rowStep_of_map (fun row other holds otherHolds => holds.1.trans otherHolds.1.symm)
    (fun row holds => changes row holds.2) rows

theorem transitionPartition_rowSteps (partitionId : String) (expected target : PartitionState)
    (clock : Instant) (db : Db)
    (changes : ∀ row : PartitionRow, row.state = expected →
      PartitionChange row (row.transition target clock)) :
    RowSteps db (transitionPartition partitionId expected target clock db).2 := by
  obtain ⟨_, partitions, changed, rows⟩ := transitionPartition_cases
    (Prod.eta (transitionPartition partitionId expected target clock db)).symm
  rw [changed]
  refine ⟨.kept _, ?_, .kept _⟩
  exact rowStep_of_map (fun row other holds otherHolds =>
    Or.inl (holds.1.trans otherHolds.1.symm)) (fun row holds => changes row holds.2) rows

theorem transitionParserRun_rowSteps (parserRunId : String) (target : ParserRunState)
    (failureReason : Option String) (clock : Instant) (db : Db)
    (changes : ∀ row : ParserRunRow, row.state = .running →
      ParserRunChange row (row.finish target failureReason clock)) :
    RowSteps db (transitionParserRun parserRunId target failureReason clock db).2 := by
  obtain ⟨_, parserRuns, changed, rows⟩ := transitionParserRun_cases
    (Prod.eta (transitionParserRun parserRunId target failureReason clock db)).symm
  rw [changed]
  refine ⟨.kept _, .kept _, ?_⟩
  exact rowStep_of_map (fun row other holds otherHolds => holds.1.trans otherHolds.1.symm)
    (fun row holds => changes row holds.2) rows

theorem performLifecycle_rowSteps (call : LifecycleCall) (db : Db) :
    RowSteps db (performLifecycle call db).2 := by
  cases call with
  | createRun crawlRunId sourceName runKind clock =>
      rcases createRun_cases (Prod.eta (createRun crawlRunId sourceName runKind clock db)).symm
        with ⟨_, _, same⟩ | ⟨_, runs, same, rows⟩
      · exact rowSteps_of_eq (congrArg Db.runs same) (congrArg Db.partitions same)
          (congrArg Db.parserRuns same)
      · exact same ▸ ⟨.added _ ⟨rfl, rfl, rfl⟩ rows, .kept _, .kept _⟩
  | startRun crawlRunId clock =>
      exact transitionRun_rowSteps _ _ _ _ _ _ _ fun row created => .started row clock created
  | completeRun crawlRunId clock =>
      exact transitionRun_rowSteps _ _ _ _ _ _ _ fun row running =>
        .finished row .completed clock running (Or.inl rfl)
  | failRun crawlRunId clock =>
      exact transitionRun_rowSteps _ _ _ _ _ _ _ fun row running =>
        .finished row .failed clock running (Or.inr rfl)
  | createPartition partitionId crawlRunId sourceName partitionKey createdAt updatedAt =>
      rcases createPartition_cases (Prod.eta (createPartition partitionId crawlRunId sourceName
        partitionKey createdAt updatedAt db)).symm with ⟨_, _, same⟩ | ⟨_, partitions, same, rows⟩
      · exact rowSteps_of_eq (congrArg Db.runs same) (congrArg Db.partitions same)
          (congrArg Db.parserRuns same)
      · exact same ▸ ⟨.kept _, .added _ rfl rows, .kept _⟩
  | startPartition partitionId clock =>
      exact transitionPartition_rowSteps _ _ _ _ _ fun row pending => .started row clock pending
  | completePartition partitionId clock =>
      exact transitionPartition_rowSteps _ _ _ _ _ fun row processing =>
        .finished row .completed clock processing (Or.inl rfl)
  | failPartition partitionId clock =>
      exact transitionPartition_rowSteps _ _ _ _ _ fun row processing =>
        .finished row .failed clock processing (Or.inr rfl)
  | startParserRun artifactId parserName parserVersion parserRunId clock =>
      rcases startParserRun_cases (Prod.eta (startParserRun artifactId parserName parserVersion
        parserRunId clock db)).symm with ⟨_, _, same⟩ | ⟨_, parserRuns, same, rows⟩
      · exact rowSteps_of_eq (congrArg Db.runs same) (congrArg Db.partitions same)
          (congrArg Db.parserRuns same)
      · exact same ▸ ⟨.kept _, .kept _, .added _ ⟨rfl, rfl, rfl⟩ rows⟩
  | completeParserRun parserRunId clock =>
      exact transitionParserRun_rowSteps _ _ _ _ _ fun row running => .completed row clock running
  | failParserRun parserRunId failureReason clock =>
      by_cases reason : failureReason = ""
      · have unchanged : (performLifecycle (.failParserRun parserRunId failureReason clock) db).2 =
            db := congrArg Prod.snd (if_pos reason)
        exact rowSteps_of_eq (congrArg Db.runs unchanged) (congrArg Db.partitions unchanged)
          (congrArg Db.parserRuns unchanged)
      · have attempts : performLifecycle (.failParserRun parserRunId failureReason clock) db =
            transitionParserRun parserRunId .failed (some failureReason) clock db := if_neg reason
        rw [attempts]
        exact transitionParserRun_rowSteps _ _ _ _ _ fun row running =>
          .failed row failureReason clock running reason
  | elsewhere work =>
      exact rowSteps_of_eq (work.runs db) (work.partitions db) (work.parserRuns db)

/-! ## Histories -/

/-- The database that calls lead to, from the migrated one. -/
def lifecycleState (calls : List LifecycleCall) : Db :=
  History.after performLifecycle Db.empty calls

/-- How many calls moved an entity out of a stage. -/
def departures (entity : Entity) (source : Stage) (start : Db) (calls : List LifecycleCall) : Nat :=
  winners (leavesOf entity) Except.isOk source (History.events performLifecycle start calls)

theorem lifecycleState_append (first second : List LifecycleCall) :
    lifecycleState (first ++ second) =
      History.after performLifecycle (lifecycleState first) second :=
  History.after_append performLifecycle Db.empty first second

/-- What the columns of every row tell. -/
structure Told (db : Db) : Prop where
  runs : ∀ row ∈ db.runs, row.Timed
  parserRuns : ∀ row ∈ db.parserRuns, row.Explained

theorem performLifecycle_told (call : LifecycleCall) (db : Db) (told : Told db) :
    Told (performLifecycle call db).2 where
  runs := (performLifecycle_rowSteps call db).runs.forall timed_of_initial timed_of_change
    told.runs
  parserRuns := (performLifecycle_rowSteps call db).parserRuns.forall explained_of_initial
    explained_of_change told.parserRuns

theorem lifecycleState_told (calls : List LifecycleCall) : Told (lifecycleState calls) := by
  have initial : Told Db.empty :=
    ⟨fun _ member => absurd member Table.not_mem_empty,
      fun _ member => absurd member Table.not_mem_empty⟩
  exact History.after_invariant performLifecycle performLifecycle_told initial calls

/-- Rows in a terminal state are there, unchanged, after all later calls. -/
theorem terminal_rows_persist (db : Db) (calls : List LifecycleCall) :
    (∀ row ∈ db.runs, row.state.Terminal →
        row ∈ (History.after performLifecycle db calls).runs) ∧
      (∀ row ∈ db.partitions, row.state.Terminal →
        row ∈ (History.after performLifecycle db calls).partitions) ∧
      ∀ row ∈ db.parserRuns, row.state.Terminal →
        row ∈ (History.after performLifecycle db calls).parserRuns := by
  refine ⟨fun row member terminal => ?_, fun row member terminal => ?_,
    fun row member terminal => ?_⟩
  · apply @History.after_invariant _ _ _ performLifecycle (fun state => row ∈ state.runs)
    · intro call state present
      exact (performLifecycle_rowSteps call state).runs.frozen present (run_fixed terminal)
    · exact member
  · apply @History.after_invariant _ _ _ performLifecycle (fun state => row ∈ state.partitions)
    · intro call state present
      exact (performLifecycle_rowSteps call state).partitions.frozen present
        (partition_fixed terminal)
    · exact member
  · apply @History.after_invariant _ _ _ performLifecycle (fun state => row ∈ state.parserRuns)
    · intro call state present
      exact (performLifecycle_rowSteps call state).parserRuns.frozen present
        (parserRun_fixed terminal)
    · exact member

/-- Over every interleaving of calls: the stages of an entity follow the documented
edges; a call makes its transition exactly from the stage it expects, and is
otherwise refused with nothing changed; at most one call ever leaves a stage, and
exactly one of those that compete for it; the times and the reason tell the state;
and what is terminal stays as it is. -/
theorem lifecycles_guarded (first second : List LifecycleCall) :
    (∀ entity, ((History.states performLifecycle Db.empty first).map
        (stageOf entity)).IsChain (Advances entity)) ∧
      (∀ call entity source target, attemptedMove call = some (entity, source, target) →
        if stageOf entity (lifecycleState first) = some source then
          (performLifecycle call (lifecycleState first)).1 = .ok () ∧
            stageOf entity (performLifecycle call (lifecycleState first)).2 = some target
        else ∃ message, performLifecycle call (lifecycleState first) =
          (.error (.repositoryState message), lifecycleState first)) ∧
      (∀ entity source, departures entity source Db.empty first ≤ 1) ∧
      (∀ entity source, stageOf entity (lifecycleState first) = some source →
        (∃ call ∈ second, triesToLeave (leavesOf entity) source call) →
          departures entity source (lifecycleState first) second = 1) ∧
      (∀ row ∈ (lifecycleState first).runs, row.Timed) ∧
      (∀ row ∈ (lifecycleState first).parserRuns, row.Explained) ∧
      (∀ row ∈ (lifecycleState first).runs, row.state.Terminal →
        row ∈ (lifecycleState (first ++ second)).runs) ∧
      (∀ row ∈ (lifecycleState first).partitions, row.state.Terminal →
        row ∈ (lifecycleState (first ++ second)).partitions) ∧
      ∀ row ∈ (lifecycleState first).parserRuns, row.state.Terminal →
        row ∈ (lifecycleState (first ++ second)).parserRuns := by
  have told := lifecycleState_told first
  have persist := terminal_rows_persist (lifecycleState first) second
  rw [← lifecycleState_append] at persist
  refine ⟨fun entity => ?_, fun call entity source target attempted => ?_,
    fun entity source => ?_, fun entity source observed tried => ?_, told.runs,
    told.parserRuns, persist⟩
  · rw [List.isChain_map]
    exact History.states_isChain performLifecycle (performLifecycle_advances entity) Db.empty first
  · have moves := performLifecycle_moves attempted
    by_cases inStage : stageOf entity (lifecycleState first) = some source
    · rw [if_pos inStage, moves.stage, if_pos ⟨rfl, inStage⟩]
      exact ⟨(moves.returns _).mpr inStage, rfl⟩
    · rw [if_neg inStage]
      exact moves.refused _ inStage
  · exact (performLifecycle_guarded entity).winners_le_one source first Db.empty
  · exact (performLifecycle_guarded entity).winners_eq_one second observed tried

end ScraperProject.Database
