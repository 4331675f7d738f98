import ScraperProject.Database.Repositories

/-!
Contract: what one repository call can do to its table.

Owns one case lemma for each repository operation that writes: a call raises and
changes nothing, or its table is changed in the way given, and when a guarded
transition succeeds. Of the job queue only the creation of a job is here, read back
from its outcome; the cases of the queue have their own module.

Does not own any invariant.
-/

namespace ScraperProject.Database

open Foundation
open Contracts

/-! ## Source registry -/

theorem upsertSource_cases {sourceName identityStrategy : String} {enabled : Bool}
    {identityNotes : Option String} {clock : Instant} {db next : Db}
    {result : Except PyError Unit}
    (call : upsertSource sourceName enabled identityStrategy identityNotes clock db =
      (result, next)) :
    result = .ok () ∧ ∃ sources : Table SourceRow, next = { db with sources := sources } ∧
      ∃ row ∈ sources, row.sourceName = sourceName := by
  unfold upsertSource at call
  cases result with
  | error raised =>
      obtain ⟨body, _⟩ := writeTransaction_error.mp call
      dsimp only at body
      split at body <;> cases body
  | ok value =>
      have body := writeTransaction_ok.mp call
      dsimp only at body
      refine ⟨rfl, ?_⟩
      split at body
      · next sources inserted =>
        obtain ⟨_, rfl⟩ := Prod.mk.inj (Except.ok.inj body)
        exact ⟨sources, rfl, _, (Table.mem_of_insert? inserted).mpr (Or.inr rfl), rfl⟩
      · next refused =>
        obtain ⟨_, rfl⟩ := Prod.mk.inj (Except.ok.inj body)
        refine ⟨_, rfl, ?_⟩
        obtain ⟨stored, member, clash⟩ := Table.insert?_eq_none.mp refused
        have sameName : stored.sourceName = sourceName := clash
        exact ⟨_, List.mem_map.mpr ⟨stored, member, if_pos (by simpa using sameName)⟩, sameName⟩

/-! ## Crawl runs and partitions -/

theorem createRun_cases {crawlRunId sourceName runKind : String} {clock : Instant} {db next : Db}
    {result : Except PyError Unit}
    (call : createRun crawlRunId sourceName runKind clock db = (result, next)) :
    (∃ raised, result = .error raised ∧ next = db) ∨
      (result = .ok () ∧ ∃ runs : Table RunRow, next = { db with runs := runs } ∧
        runs.rows = db.runs.rows ++ [createdRun crawlRunId sourceName runKind clock]) := by
  cases result with
  | error raised => exact Or.inl ⟨raised, rfl, (writeTransaction_error.mp call).2⟩
  | ok value =>
      obtain ⟨runs, inserted, body⟩ := bind_eq_ok.mp (writeTransaction_ok.mp call)
      obtain ⟨_, _, body⟩ := bind_eq_ok.mp body
      obtain ⟨_, rfl⟩ := Prod.mk.inj (Except.ok.inj body)
      exact Or.inr ⟨rfl, runs, rfl, (Table.insert?_eq_some.mp (insertRow_ok.mp inserted)).2⟩

/-- A run is created when its name is new and its source is registered. -/
theorem createRun_succeeds {crawlRunId sourceName runKind : String} {clock : Instant} {db : Db}
    (isNew : ∀ row ∈ db.runs, row.crawlRunId ≠ crawlRunId)
    (source : ∃ row ∈ db.sources, row.sourceName = sourceName) :
    (createRun crawlRunId sourceName runKind clock db).1 = .ok () := by
  obtain ⟨runs, inserted⟩ := Table.insert?_isSome
    (show ∀ row ∈ db.runs, ¬ Constrained.Clash row (createdRun crawlRunId sourceName runKind clock)
      from isNew)
  have referenced : (db.sources.rows.any fun row => row.sourceName = sourceName) = true := by
    simpa [List.any_eq_true] using source
  simp [createRun, writeTransaction, insertRow, inserted, requireReference, referenced, bind,
    Except.bind, pure, Except.pure]

/-- The row of a run after a transition. -/
def transitionedRun (crawlRunId : String) (expected target : RunState)
    (setStarted setFinished : Bool) (clock : Instant) (row : RunRow) : RunRow :=
  if row.crawlRunId = crawlRunId ∧ row.state = expected then
    row.transition target setStarted setFinished clock
  else row

/-- The row is as it was, or has left the expected state. -/
theorem transitionedRun_cases {crawlRunId : String} {expected target : RunState}
    {setStarted setFinished : Bool} {clock : Instant} (row : RunRow) :
    transitionedRun crawlRunId expected target setStarted setFinished clock row = row ∨
      (row.crawlRunId = crawlRunId ∧ row.state = expected ∧
        transitionedRun crawlRunId expected target setStarted setFinished clock row =
          row.transition target setStarted setFinished clock) := by
  unfold transitionedRun
  split
  · next selected => exact Or.inr ⟨selected.1, selected.2, rfl⟩
  · exact Or.inl rfl

/-- An update that raises unless it has changed one row. -/
theorem countedUpdate_cases {count : Nat} {raised : PyError} {updated next : Db}
    {result : Except PyError Unit}
    (call : (if count ≠ 1 then (.error raised, updated) else (.ok (), updated)) =
      (result, next)) :
    (result = .ok () ↔ count = 1) ∧ next = updated := by
  split at call
  · next other =>
    obtain ⟨rfl, rfl⟩ := Prod.mk.inj call
    exact ⟨⟨nofun, fun one => absurd one other⟩, rfl⟩
  · next one =>
    obtain ⟨rfl, rfl⟩ := Prod.mk.inj call
    exact ⟨⟨fun _ => Decidable.not_not.mp one, fun _ => rfl⟩, rfl⟩

theorem transitionRun_cases {crawlRunId : String} {expected target : RunState}
    {setStarted setFinished : Bool} {clock : Instant} {db next : Db}
    {result : Except PyError Unit}
    (call : transitionRun crawlRunId expected target setStarted setFinished clock db =
      (result, next)) :
    (result = .ok () ↔ ∃ row ∈ db.runs, row.crawlRunId = crawlRunId ∧ row.state = expected) ∧
      ∃ runs : Table RunRow, next = { db with runs := runs } ∧
        runs.rows = db.runs.rows.map
          (transitionedRun crawlRunId expected target setStarted setFinished clock) := by
  have counted := @rowcount_eq_one RunRow _ db.runs
    (fun row => row.crawlRunId = crawlRunId ∧ row.state = expected) _
    fun row other holds otherHolds => holds.1.trans otherHolds.1.symm
  unfold transitionRun at call
  rw [← counted]
  obtain ⟨isOk, rfl⟩ := countedUpdate_cases call
  exact ⟨isOk, _, rfl, rows_updateWhere_decide⟩

/-- A transition that finds no row in the expected state raises and changes nothing. -/
theorem transitionRun_refused {crawlRunId : String} {expected target : RunState}
    {setStarted setFinished : Bool} {clock : Instant} {db : Db}
    (absent : ¬ ∃ row ∈ db.runs, row.crawlRunId = crawlRunId ∧ row.state = expected) :
    transitionRun crawlRunId expected target setStarted setFinished clock db =
      (.error (runTransitionError crawlRunId expected target), db) := by
  have counted := @rowcount_eq_one RunRow _ db.runs
    (fun row => row.crawlRunId = crawlRunId ∧ row.state = expected) _
    fun row other holds otherHolds => holds.1.trans otherHolds.1.symm
  have unchanged := @Table.updateWhere_eq_self RunRow _ db.runs
    (fun row => decide (row.crawlRunId = crawlRunId ∧ row.state = expected))
    (fun row => row.transition target setStarted setFinished clock) (fun _ _ => Iff.rfl)
    fun row member selected => absent ⟨row, member, of_decide_eq_true selected⟩
  rw [transitionRun, if_pos (mt counted.mp absent), unchanged]

theorem createPartition_cases {partitionId crawlRunId sourceName partitionKey : String}
    {createdAt updatedAt : Instant} {db next : Db} {result : Except PyError Unit}
    (call : createPartition partitionId crawlRunId sourceName partitionKey createdAt updatedAt db =
      (result, next)) :
    (∃ raised, result = .error raised ∧ next = db) ∨
      (result = .ok () ∧ ∃ partitions : Table PartitionRow,
        next = { db with partitions := partitions } ∧
          partitions.rows = db.partitions.rows ++ [createdPartition partitionId crawlRunId
            sourceName partitionKey createdAt updatedAt]) := by
  cases result with
  | error raised => exact Or.inl ⟨raised, rfl, (writeTransaction_error.mp call).2⟩
  | ok value =>
      obtain ⟨partitions, inserted, body⟩ := bind_eq_ok.mp (writeTransaction_ok.mp call)
      obtain ⟨_, _, body⟩ := bind_eq_ok.mp body
      obtain ⟨_, rfl⟩ := Prod.mk.inj (Except.ok.inj body)
      exact Or.inr ⟨rfl, partitions, rfl,
        (Table.insert?_eq_some.mp (insertRow_ok.mp inserted)).2⟩

/-- A partition is created when it clashes with none and its run is on record. -/
theorem createPartition_succeeds {partitionId crawlRunId sourceName partitionKey : String}
    {createdAt updatedAt : Instant} {db : Db}
    (isNew : ∀ row ∈ db.partitions, row.partitionId ≠ partitionId ∧ row.crawlRunId ≠ crawlRunId)
    (run : ∃ row ∈ db.runs, row.crawlRunId = crawlRunId) :
    (createPartition partitionId crawlRunId sourceName partitionKey createdAt updatedAt db).1 =
      .ok () := by
  have fits : ∀ row ∈ db.partitions, ¬ Constrained.Clash row (createdPartition partitionId
      crawlRunId sourceName partitionKey createdAt updatedAt) := by
    rintro row member (sameId | ⟨sameRun, _⟩)
    · exact (isNew row member).1 sameId
    · exact (isNew row member).2 sameRun
  obtain ⟨partitions, inserted⟩ := Table.insert?_isSome fits
  have referenced : (db.runs.rows.any fun row => row.crawlRunId = crawlRunId) = true := by
    simpa [List.any_eq_true] using run
  simp [createPartition, writeTransaction, insertRow, inserted, requireReference, referenced, bind,
    Except.bind, pure, Except.pure]

/-- A created partition refers to a run on record. -/
theorem createPartition_run {partitionId crawlRunId sourceName partitionKey : String}
    {createdAt updatedAt : Instant} {db next : Db}
    (call : createPartition partitionId crawlRunId sourceName partitionKey createdAt updatedAt db =
      (.ok (), next)) : ∃ row ∈ db.runs, row.crawlRunId = crawlRunId := by
  obtain ⟨_, _, body⟩ := bind_eq_ok.mp (writeTransaction_ok.mp call)
  obtain ⟨_, referenced, _⟩ := bind_eq_ok.mp body
  simpa [List.any_eq_true] using requireReference_ok.mp referenced

/-- The row of a partition after a transition. -/
def transitionedPartition (partitionId : String) (expected target : PartitionState)
    (clock : Instant) (row : PartitionRow) : PartitionRow :=
  if row.partitionId = partitionId ∧ row.state = expected then row.transition target clock
  else row

/-- The row is as it was, or has left the expected state. -/
theorem transitionedPartition_cases {partitionId : String} {expected target : PartitionState}
    {clock : Instant} (row : PartitionRow) :
    transitionedPartition partitionId expected target clock row = row ∨
      (row.partitionId = partitionId ∧ row.state = expected ∧
        transitionedPartition partitionId expected target clock row =
          row.transition target clock) := by
  unfold transitionedPartition
  split
  · next selected => exact Or.inr ⟨selected.1, selected.2, rfl⟩
  · exact Or.inl rfl

theorem transitionedPartition_names {partitionId : String} {expected target : PartitionState}
    {clock : Instant} (row : PartitionRow) :
    (transitionedPartition partitionId expected target clock row).partitionId = row.partitionId ∧
      (transitionedPartition partitionId expected target clock row).crawlRunId =
        row.crawlRunId := by
  rcases transitionedPartition_cases row with same | ⟨_, _, moved⟩
  · rw [same]
    exact ⟨rfl, rfl⟩
  · rw [moved]
    exact ⟨rfl, rfl⟩

theorem transitionPartition_cases {partitionId : String} {expected target : PartitionState}
    {clock : Instant} {db next : Db} {result : Except PyError Unit}
    (call : transitionPartition partitionId expected target clock db = (result, next)) :
    (result = .ok () ↔
        ∃ row ∈ db.partitions, row.partitionId = partitionId ∧ row.state = expected) ∧
      ∃ partitions : Table PartitionRow, next = { db with partitions := partitions } ∧
        partitions.rows =
          db.partitions.rows.map (transitionedPartition partitionId expected target clock) := by
  have counted := @rowcount_eq_one PartitionRow _ db.partitions
    (fun row => row.partitionId = partitionId ∧ row.state = expected) _
    fun row other holds otherHolds => Or.inl (holds.1.trans otherHolds.1.symm)
  unfold transitionPartition at call
  rw [← counted]
  obtain ⟨isOk, rfl⟩ := countedUpdate_cases call
  exact ⟨isOk, _, rfl, rows_updateWhere_decide⟩

theorem transitionPartition_refused {partitionId : String} {expected target : PartitionState}
    {clock : Instant} {db : Db}
    (absent : ¬ ∃ row ∈ db.partitions, row.partitionId = partitionId ∧ row.state = expected) :
    transitionPartition partitionId expected target clock db =
      (.error (partitionTransitionError partitionId expected target), db) := by
  have counted := @rowcount_eq_one PartitionRow _ db.partitions
    (fun row => row.partitionId = partitionId ∧ row.state = expected) _
    fun row other holds otherHolds => Or.inl (holds.1.trans otherHolds.1.symm)
  have unchanged := @Table.updateWhere_eq_self PartitionRow _ db.partitions
    (fun row => decide (row.partitionId = partitionId ∧ row.state = expected))
    (fun row => row.transition target clock) (fun _ _ => Iff.rfl)
    fun row member selected => absent ⟨row, member, of_decide_eq_true selected⟩
  rw [transitionPartition, if_pos (mt counted.mp absent), unchanged]

/-! ## Observations and checkpoints -/

theorem appendObservation_cases {observation : DiscoveryObservation} {recordId : String}
    {db next : Db} {result : Except PyError String}
    (call : appendObservation observation recordId db = (result, next)) :
    (∃ raised, result = .error raised ∧ next = db) ∨
      (result = .ok recordId ∧ ∃ (identities : Table IdentityRow)
        (observations : Table ObservationRow) (observedAt : String),
          next = { db with identities := identities, observations := observations } ∧
            observations.rows =
              db.observations.rows ++ [observationRow observation recordId observedAt]) := by
  unfold appendObservation at call
  split at call
  · next raised _ =>
    obtain ⟨rfl, rfl⟩ := Prod.mk.inj call
    exact Or.inl ⟨raised, rfl, rfl⟩
  next observedAt _ =>
  cases result with
  | error raised => exact Or.inl ⟨raised, rfl, (writeTransaction_error.mp call).2⟩
  | ok value =>
      obtain ⟨observations, inserted, body⟩ := bind_eq_ok.mp (writeTransaction_ok.mp call)
      obtain ⟨_, _, body⟩ := bind_eq_ok.mp body
      obtain ⟨rfl, rfl⟩ := Prod.mk.inj (Except.ok.inj body)
      exact Or.inr ⟨rfl, _, observations, observedAt, rfl,
        (Table.insert?_eq_some.mp (insertRow_ok.mp inserted)).2⟩

/-- An observation is appended under a fresh identifier when its run is on record. -/
theorem appendObservation_succeeds {observation : DiscoveryObservation}
    {recordId observedAt : String} {db : Db}
    (printed : timestamp observation.observedAt = .ok observedAt)
    (isNew : ∀ row ∈ db.observations, row.observationId ≠ recordId)
    (run : ∃ row ∈ db.runs, row.crawlRunId = observation.crawlRunId) :
    (appendObservation observation recordId db).1 = .ok recordId := by
  obtain ⟨observations, inserted⟩ := Table.insert?_isSome
    (show ∀ row ∈ db.observations,
      ¬ Constrained.Clash row (observationRow observation recordId observedAt) from isNew)
  have referenced :
      (db.runs.rows.any fun row => row.crawlRunId = observation.crawlRunId) = true := by
    simpa [List.any_eq_true] using run
  simp [appendObservation, printed, writeTransaction, insertRow, inserted, requireReference,
    referenced, bind, Except.bind, pure, Except.pure]

/-- A found checkpoint is one of the rows of its run and partition, all of which
hold the same value. -/
theorem storedCheckpoint_eq_some {db : Db} {crawlRunId partitionId value : String} :
    storedCheckpoint db crawlRunId partitionId = some value ↔
      ∃ row ∈ db.checkpoints, (row.crawlRunId = crawlRunId ∧ row.partitionId = partitionId) ∧
        row.checkpointValue = value := by
  unfold storedCheckpoint
  rw [Option.map_eq_some_iff]
  constructor
  · rintro ⟨row, found, rfl⟩
    obtain ⟨member, selected⟩ := Table.find?_some found
    exact ⟨row, member, by simpa using selected, rfl⟩
  · rintro ⟨row, member, key, rfl⟩
    refine ⟨row, Table.find?_eq_some_of_mem member (by simpa using key) ?_, rfl⟩
    intro other _ selected
    have otherKey : other.crawlRunId = crawlRunId ∧ other.partitionId = partitionId := by
      simpa using selected
    exact ⟨otherKey.1.trans key.1.symm, otherKey.2.trans key.2.symm⟩

theorem storedCheckpoint_inserted {db : Db} {checkpoints : Table CheckpointRow}
    {added : CheckpointRow} (fits : ∀ row ∈ db.checkpoints, ¬ Constrained.Clash row added)
    (rows : checkpoints.rows = db.checkpoints.rows ++ [added]) (run partition : String) :
    storedCheckpoint { db with checkpoints := checkpoints } run partition =
      if run = added.crawlRunId ∧ partition = added.partitionId then some added.checkpointValue
      else storedCheckpoint db run partition := by
  refine Option.ext fun value => ?_
  rw [storedCheckpoint_eq_some]
  have members : ∀ row, row ∈ checkpoints ↔ row ∈ db.checkpoints ∨ row = added := by
    intro row
    rw [← Table.mem_rows, rows]
    simp
  simp only [members, or_and_right, exists_or, exists_eq_left]
  split
  · next key =>
    obtain ⟨rfl, rfl⟩ := key
    have noOld : ¬ ∃ row ∈ db.checkpoints, (row.crawlRunId = added.crawlRunId ∧
        row.partitionId = added.partitionId) ∧ row.checkpointValue = value := by
      rintro ⟨row, member, key, _⟩
      exact fits row member key
    simp [noOld]
  · next other =>
    rw [storedCheckpoint_eq_some]
    have notNew : ¬ (added.crawlRunId = run ∧ added.partitionId = partition) := fun key =>
      other ⟨key.1.symm, key.2.symm⟩
    simp [notNew]

theorem storedCheckpoint_updated {db : Db} {checkpoints : Table CheckpointRow}
    {crawlRunId partitionId value updatedAt : String}
    (present : ∃ row ∈ db.checkpoints, row.crawlRunId = crawlRunId ∧
      row.partitionId = partitionId)
    (rows : checkpoints.rows = db.checkpoints.rows.map fun row =>
      if row.crawlRunId = crawlRunId ∧ row.partitionId = partitionId then
        { row with checkpointValue := value, updatedAt := updatedAt }
      else row) (run partition : String) :
    storedCheckpoint { db with checkpoints := checkpoints } run partition =
      if run = crawlRunId ∧ partition = partitionId then some value
      else storedCheckpoint db run partition := by
  refine Option.ext fun stored => ?_
  rw [storedCheckpoint_eq_some]
  have members : ∀ row, row ∈ checkpoints ↔ ∃ old ∈ db.checkpoints,
      (if old.crawlRunId = crawlRunId ∧ old.partitionId = partitionId then
        { old with checkpointValue := value, updatedAt := updatedAt }
      else old) = row := by
    intro row
    rw [← Table.mem_rows, rows, List.mem_map]
    rfl
  split
  · next key =>
    obtain ⟨rfl, rfl⟩ := key
    constructor
    · rintro ⟨row, changed, key, rfl⟩
      obtain ⟨old, _, rfl⟩ := (members row).mp changed
      by_cases selected : old.crawlRunId = run ∧ old.partitionId = partition
      · rw [if_pos selected]
      · rw [if_neg selected] at key
        exact absurd key selected
    · intro same
      cases same
      obtain ⟨old, oldMember, selected⟩ := present
      exact ⟨_, (members _).mpr ⟨old, oldMember, if_pos selected⟩, selected, rfl⟩
  · next other =>
    rw [storedCheckpoint_eq_some]
    constructor
    · rintro ⟨row, changed, key, rfl⟩
      obtain ⟨old, oldMember, rfl⟩ := (members row).mp changed
      by_cases selected : old.crawlRunId = crawlRunId ∧ old.partitionId = partitionId
      · rw [if_pos selected] at key
        exact absurd ⟨key.1.symm.trans selected.1, key.2.symm.trans selected.2⟩ other
      · rw [if_neg selected] at key ⊢
        exact ⟨old, oldMember, key, rfl⟩
    · rintro ⟨row, rowMember, key, rfl⟩
      refine ⟨row, (members row).mpr ⟨row, rowMember, if_neg fun selected => ?_⟩, key, rfl⟩
      exact other ⟨key.1.symm.trans selected.1, key.2.symm.trans selected.2⟩

/-- A saved checkpoint is the only one that changes. -/
theorem saveCheckpoint_cases {crawlRunId partitionId checkpointValue : String} {clock : Instant}
    {db next : Db} {result : Except PyError Unit}
    (call : saveCheckpoint crawlRunId partitionId checkpointValue clock db = (result, next)) :
    (∃ raised, result = .error raised ∧ next = db) ∨
      (result = .ok () ∧ ∃ checkpoints : Table CheckpointRow,
        next = { db with checkpoints := checkpoints } ∧
          ∀ run partition, storedCheckpoint next run partition =
            if run = crawlRunId ∧ partition = partitionId then some checkpointValue
            else storedCheckpoint db run partition) := by
  cases result with
  | error raised => exact Or.inl ⟨raised, rfl, (writeTransaction_error.mp call).2⟩
  | ok value =>
      have body := writeTransaction_ok.mp call
      dsimp only at body
      refine Or.inr ⟨rfl, ?_⟩
      split at body
      · next checkpoints inserted =>
        obtain ⟨_, _, body⟩ := bind_eq_ok.mp body
        obtain ⟨_, _, body⟩ := bind_eq_ok.mp body
        obtain ⟨_, rfl⟩ := Prod.mk.inj (Except.ok.inj body)
        obtain ⟨fits, rows⟩ := Table.insert?_eq_some.mp inserted
        exact ⟨checkpoints, rfl, storedCheckpoint_inserted fits rows⟩
      · next refused =>
        obtain ⟨_, rfl⟩ := Prod.mk.inj (Except.ok.inj body)
        obtain ⟨existing, member, key⟩ := Table.insert?_eq_none.mp refused
        exact ⟨_, rfl, storedCheckpoint_updated ⟨existing, member, key⟩ rows_updateWhere_decide⟩

/-- A stored checkpoint is overwritten, whatever its value. -/
theorem saveCheckpoint_of_stored {crawlRunId partitionId checkpointValue old : String}
    {clock : Instant} {db : Db} (stored : storedCheckpoint db crawlRunId partitionId = some old) :
    (saveCheckpoint crawlRunId partitionId checkpointValue clock db).1 = .ok () := by
  obtain ⟨row, member, key, _⟩ := storedCheckpoint_eq_some.mp stored
  have clash : Constrained.Clash row
      (⟨crawlRunId, partitionId, checkpointValue, clock.text⟩ : CheckpointRow) := key
  have refused := Table.insert?_eq_none.mpr ⟨row, member, clash⟩
  simp only [saveCheckpoint, writeTransaction, refused]

/-- A checkpoint is saved when its run and partition are on record. -/
theorem saveCheckpoint_succeeds {crawlRunId partitionId checkpointValue : String}
    {clock : Instant} {db : Db} (run : ∃ row ∈ db.runs, row.crawlRunId = crawlRunId)
    (partition : ∃ row ∈ db.partitions, row.partitionId = partitionId) :
    (saveCheckpoint crawlRunId partitionId checkpointValue clock db).1 = .ok () := by
  have runReferenced : (db.runs.rows.any fun row => row.crawlRunId = crawlRunId) = true := by
    simpa [List.any_eq_true] using run
  have partitionReferenced :
      (db.partitions.rows.any fun row => row.partitionId = partitionId) = true := by
    simpa [List.any_eq_true] using partition
  cases inserted : db.checkpoints.insert?
      { crawlRunId := crawlRunId
        partitionId := partitionId
        checkpointValue := checkpointValue
        updatedAt := clock.text } with
  | none => simp [saveCheckpoint, writeTransaction, inserted]
  | some checkpoints =>
      simp [saveCheckpoint, writeTransaction, inserted, requireReference, runReferenced,
        partitionReferenced, bind, Except.bind, pure, Except.pure]

/-! ## Snapshots, parser runs and batches -/

theorem recordSnapshot_cases {artifact : RawFetchArtifact} {db next : Db}
    {result : Except PyError Unit} (call : recordSnapshot artifact db = (result, next)) :
    (∃ raised, result = .error raised ∧ next = db) ∨
      (result = .ok () ∧ (∃ job ∈ db.jobs, job.jobId = artifact.jobId) ∧
        ∃ (snapshots : Table SnapshotRow) (fetchedAt : String),
          next = { db with snapshots := snapshots } ∧
            snapshots.rows = db.snapshots.rows ++ [snapshotRow artifact fetchedAt]) := by
  cases result with
  | error raised => exact Or.inl ⟨raised, rfl, (writeTransaction_error.mp call).2⟩
  | ok value =>
      obtain ⟨fetchedAt, _, body⟩ := bind_eq_ok.mp (writeTransaction_ok.mp call)
      obtain ⟨_, _, body⟩ := bind_eq_ok.mp body
      obtain ⟨snapshots, inserted, body⟩ := bind_eq_ok.mp body
      obtain ⟨_, referenced, body⟩ := bind_eq_ok.mp body
      obtain ⟨_, _, body⟩ := bind_eq_ok.mp body
      obtain ⟨_, rfl⟩ := Prod.mk.inj (Except.ok.inj body)
      obtain ⟨job, member, same⟩ := List.any_eq_true.mp (requireReference_ok.mp referenced)
      exact Or.inr ⟨rfl, ⟨job, member, by simpa using same⟩, snapshots, fetchedAt, rfl,
        (Table.insert?_eq_some.mp (insertRow_ok.mp inserted)).2⟩

/-- A new artifact is recorded when its job and its run are on record. -/
theorem recordSnapshot_succeeds {artifact : RawFetchArtifact} {fetchedAt : String} {db : Db}
    (printed : timestamp artifact.fetchedAt = .ok fetchedAt)
    (bound : ∀ status ∈ artifact.responseStatus, bindInteger status = .ok ())
    (isNew : ∀ row ∈ db.snapshots, row.artifactId ≠ artifact.artifactId)
    (job : ∃ row ∈ db.jobs, row.jobId = artifact.jobId)
    (run : ∃ row ∈ db.runs, row.crawlRunId = artifact.crawlRunId) :
    (recordSnapshot artifact db).1 = .ok () := by
  have fits : ∀ row ∈ db.snapshots,
      ¬ Constrained.Clash row (snapshotRow artifact fetchedAt) := by
    rintro row member (sameId | ⟨_, sameId⟩) <;> exact isNew row member sameId
  obtain ⟨snapshots, inserted⟩ := Table.insert?_isSome fits
  have status : (artifact.responseStatus.map bindInteger).getD (.ok ()) = .ok () := by
    cases isStatus : artifact.responseStatus with
    | none => rfl
    | some value => exact bound value isStatus
  have jobReferenced : (db.jobs.rows.any fun row => row.jobId = artifact.jobId) = true := by
    simpa [List.any_eq_true] using job
  have runReferenced :
      (db.runs.rows.any fun row => row.crawlRunId = artifact.crawlRunId) = true := by
    simpa [List.any_eq_true] using run
  simp [recordSnapshot, writeTransaction, printed, status, insertRow, inserted, requireReference,
    jobReferenced, runReferenced, bind, Except.bind, pure, Except.pure]

theorem startParserRun_cases {artifactId parserName parserVersion parserRunId : String}
    {clock : Instant} {db next : Db} {result : Except PyError String}
    (call : startParserRun artifactId parserName parserVersion parserRunId clock db =
      (result, next)) :
    (∃ raised, result = .error raised ∧ next = db) ∨
      (result = .ok parserRunId ∧ ∃ parserRuns : Table ParserRunRow,
        next = { db with parserRuns := parserRuns } ∧ parserRuns.rows = db.parserRuns.rows ++
          [startedParserRun artifactId parserName parserVersion parserRunId clock]) := by
  cases result with
  | error raised => exact Or.inl ⟨raised, rfl, (writeTransaction_error.mp call).2⟩
  | ok value =>
      obtain ⟨parserRuns, inserted, body⟩ := bind_eq_ok.mp (writeTransaction_ok.mp call)
      obtain ⟨_, _, body⟩ := bind_eq_ok.mp body
      obtain ⟨rfl, rfl⟩ := Prod.mk.inj (Except.ok.inj body)
      exact Or.inr ⟨rfl, parserRuns, rfl,
        (Table.insert?_eq_some.mp (insertRow_ok.mp inserted)).2⟩

/-- A parser run is started under a fresh identifier when its artifact is on record. -/
theorem startParserRun_succeeds {artifactId parserName parserVersion parserRunId : String}
    {clock : Instant} {db : Db} (isNew : ∀ row ∈ db.parserRuns, row.parserRunId ≠ parserRunId)
    (snapshot : ∃ row ∈ db.snapshots, row.artifactId = artifactId) :
    (startParserRun artifactId parserName parserVersion parserRunId clock db).1 =
      .ok parserRunId := by
  obtain ⟨parserRuns, inserted⟩ := Table.insert?_isSome
    (show ∀ row ∈ db.parserRuns, ¬ Constrained.Clash row
      (startedParserRun artifactId parserName parserVersion parserRunId clock) from isNew)
  have referenced : (db.snapshots.rows.any fun row => row.artifactId = artifactId) = true := by
    simpa [List.any_eq_true] using snapshot
  simp [startParserRun, writeTransaction, insertRow, inserted, requireReference, referenced, bind,
    Except.bind, pure, Except.pure]

/-- The row of a parser run after its end. -/
def finishedParserRun (parserRunId : String) (target : ParserRunState)
    (failureReason : Option String) (clock : Instant) (row : ParserRunRow) : ParserRunRow :=
  if row.parserRunId = parserRunId ∧ row.state = .running then
    row.finish target failureReason clock
  else row

theorem transitionParserRun_cases {parserRunId : String} {target : ParserRunState}
    {failureReason : Option String} {clock : Instant} {db next : Db}
    {result : Except PyError Unit}
    (call : transitionParserRun parserRunId target failureReason clock db = (result, next)) :
    (result = .ok () ↔
        ∃ row ∈ db.parserRuns, row.parserRunId = parserRunId ∧ row.state = .running) ∧
      ∃ parserRuns : Table ParserRunRow, next = { db with parserRuns := parserRuns } ∧
        parserRuns.rows =
          db.parserRuns.rows.map (finishedParserRun parserRunId target failureReason clock) := by
  have counted := @rowcount_eq_one ParserRunRow _ db.parserRuns
    (fun row => row.parserRunId = parserRunId ∧ row.state = .running) _
    fun row other holds otherHolds => holds.1.trans otherHolds.1.symm
  unfold transitionParserRun at call
  rw [← counted]
  obtain ⟨isOk, rfl⟩ := countedUpdate_cases call
  exact ⟨isOk, _, rfl, rows_updateWhere_decide⟩

theorem transitionParserRun_refused {parserRunId : String} {target : ParserRunState}
    {failureReason : Option String} {clock : Instant} {db : Db}
    (absent : ¬ ∃ row ∈ db.parserRuns, row.parserRunId = parserRunId ∧ row.state = .running) :
    transitionParserRun parserRunId target failureReason clock db =
      (.error (.repositoryState ("parser run " ++ parserRunId ++ " is not running")), db) := by
  have counted := @rowcount_eq_one ParserRunRow _ db.parserRuns
    (fun row => row.parserRunId = parserRunId ∧ row.state = .running) _
    fun row other holds otherHolds => holds.1.trans otherHolds.1.symm
  have unchanged := @Table.updateWhere_eq_self ParserRunRow _ db.parserRuns
    (fun row => decide (row.parserRunId = parserRunId ∧ row.state = .running))
    (fun row => row.finish target failureReason clock) (fun _ _ => Iff.rfl)
    fun row member selected => absent ⟨row, member, of_decide_eq_true selected⟩
  rw [transitionParserRun, if_pos (mt counted.mp absent), unchanged]

theorem recordBatch_cases {manifest : DatasetBatchManifest} {db next : Db}
    {result : Except PyError Unit} (call : recordBatch manifest db = (result, next)) :
    (∃ raised, result = .error raised ∧ next = db) ∨
      (result = .ok () ∧ ∃ (batches : Table BatchRow) (createdAt : String),
        next = { db with batches := batches } ∧ timestamp manifest.createdAt = .ok createdAt ∧
          batches.rows = db.batches.rows ++ [batchRow manifest createdAt]) := by
  unfold recordBatch at call
  split at call
  · next raised _ =>
    obtain ⟨rfl, rfl⟩ := Prod.mk.inj call
    exact Or.inl ⟨raised, rfl, rfl⟩
  next createdAt printed =>
  cases result with
  | error raised => exact Or.inl ⟨raised, rfl, (writeTransaction_error.mp call).2⟩
  | ok value =>
      obtain ⟨batches, inserted, body⟩ := bind_eq_ok.mp (writeTransaction_ok.mp call)
      obtain ⟨_, rfl⟩ := Prod.mk.inj (Except.ok.inj body)
      exact Or.inr ⟨rfl, batches, createdAt, rfl, printed,
        (Table.insert?_eq_some.mp (insertRow_ok.mp inserted)).2⟩

/-- A batch that shares no key with a stored one is recorded. -/
theorem recordBatch_succeeds {manifest : DatasetBatchManifest} {createdAt : String} {db : Db}
    (printed : timestamp manifest.createdAt = .ok createdAt)
    (isNew : ∀ row ∈ db.batches, row.batchId ≠ manifest.batchId ∧
      row.manifestChecksum ≠ manifest.manifestChecksum) :
    (recordBatch manifest db).1 = .ok () := by
  have fits : ∀ row ∈ db.batches, ¬ Constrained.Clash row (batchRow manifest createdAt) := by
    rintro row member (sameId | sameChecksum)
    · exact (isNew row member).1 sameId
    · exact (isNew row member).2 sameChecksum
  obtain ⟨batches, inserted⟩ := Table.insert?_isSome fits
  simp [recordBatch, printed, writeTransaction, insertRow, inserted, bind, Except.bind, pure,
    Except.pure]

/-! ## Job creation -/

/-- The identity that a job registers for its listing. -/
def registeredIdentity (job : DetailFetchJob) (scheduledAt : String) : IdentityRow :=
  { sourceName := job.sourceName
    sourceListingKey := job.sourceListingKey
    listingUrl := job.listingUrl
    firstObservedAt := scheduledAt
    lastObservedAt := scheduledAt }

theorem createIdempotent_error {job : DetailFetchJob} {createdAt updatedAt : Instant}
    {db next : Db} {raised : PyError}
    (call : createIdempotent job createdAt updatedAt db = (.error raised, next)) : next = db := by
  unfold createIdempotent at call
  split at call
  · exact (Prod.mk.inj call).2.symm
  · exact (writeTransaction_error.mp call).2

/-- What a creation that returns has read and written. -/
theorem createIdempotent_ok {job : DetailFetchJob} {createdAt updatedAt : Instant}
    {db next : Db} {jobId : String}
    (call : createIdempotent job createdAt updatedAt db = (.ok jobId, next)) :
    ∃ scheduledAt row jobs existing,
      (timestamp job.scheduledAt = .ok scheduledAt ∧
        newJobRow job scheduledAt createdAt updatedAt = .ok row ∧
          insertJob db row = .ok jobs) ∧
      (existing ∈ jobs ∧ existing.SameKey row ∧ existing.jobId = jobId) ∧
        next = { db with
          identities := (db.identities.insert? (registeredIdentity job scheduledAt)).getD
            db.identities
          jobs := jobs } := by
  unfold createIdempotent at call
  split at call
  · cases (Prod.mk.inj call).1
  next scheduledAt scheduled =>
  obtain ⟨_, _, body⟩ := bind_eq_ok.mp (writeTransaction_ok.mp call)
  obtain ⟨_, _, body⟩ := bind_eq_ok.mp body
  obtain ⟨row, made, body⟩ := bind_eq_ok.mp body
  obtain ⟨jobs, inserted, body⟩ := bind_eq_ok.mp body
  split at body
  · next existing found =>
    obtain ⟨same, written⟩ := Prod.mk.inj (Except.ok.inj body)
    obtain ⟨member, selected⟩ := Table.find?_some found
    exact ⟨scheduledAt, row, jobs, existing, ⟨scheduled, made, inserted⟩,
      ⟨member, by simpa using selected, same⟩, written.symm⟩
  · cases body

end ScraperProject.Database
