import ScraperProject.Orchestration.StoreHistory

/-!
Contract: what the reads of the runtime store return.

Owns checkpoints as registers, which hold the value of the last save, and snapshots and
batches as names that are written once and read for ever.

Does not own the reads of rows that change state.
-/

namespace ScraperProject.Orchestration

open Foundation
open Database
open Contracts

/-! ## What is written and read -/

abbrev StoreEvent := StoreCall × Except PyError StoreReply

/-- The run, partition and value of a save that returned. -/
def savedCheckpoint : StoreEvent → Option ((String × String) × String)
  | (.saveCheckpoint crawlRunId partitionId checkpointValue _, .ok _) =>
      some ((crawlRunId, partitionId), checkpointValue)
  | _ => none

/-- The artifact of a recording that returned, with its row. -/
def recordedSnapshot : StoreEvent → Option (String × SnapshotRow)
  | (.recordSnapshot artifact, .ok _) =>
      (timestamp artifact.fetchedAt).toOption.map fun fetchedAt =>
        (artifact.artifactId, snapshotRow artifact fetchedAt)
  | _ => none

/-- The batch of a recording that returned, with its row. -/
def recordedBatch : StoreEvent → Option (String × BatchRow)
  | (.recordBatch manifest, .ok _) =>
      (timestamp manifest.createdAt).toOption.map fun createdAt =>
        (manifest.batchId, batchRow manifest createdAt)
  | _ => none

def readCheckpoint (store : Store) (name : String × String) : Option String :=
  storedCheckpoint store.db name.1 name.2

def readSnapshot (store : Store) (artifactId : String) : Option SnapshotRow :=
  store.db.snapshots.find? fun row => row.artifactId = artifactId

def readBatch (store : Store) (batchId : String) : Option BatchRow :=
  store.db.batches.find? fun row => row.batchId = batchId

/-- What a call without a write leaves of a table it does not touch. -/
theorem writtenBy_of_none {Name Value : Type} [DecidableEq Name]
    {writes : StoreEvent → Option (Name × Value)} {event : StoreEvent} (name : Name)
    (found : Option Value) (silent : writes event = none) :
    History.writtenBy writes name found event = found := by
  rw [History.writtenBy, silent]

/-- A recording that returns has printed the time of the artifact. -/
theorem recordSnapshot_recorded {artifact : RawFetchArtifact} {db next : Db} {value : Unit}
    (call : recordSnapshot artifact db = (.ok value, next)) :
    ∃ (snapshots : Table SnapshotRow) (fetchedAt : String),
      timestamp artifact.fetchedAt = .ok fetchedAt ∧ next = { db with snapshots := snapshots } ∧
        snapshots.rows = db.snapshots.rows ++ [snapshotRow artifact fetchedAt] := by
  obtain ⟨fetchedAt, printed, body⟩ := bind_eq_ok.mp (writeTransaction_ok.mp call)
  obtain ⟨_, _, body⟩ := bind_eq_ok.mp body
  obtain ⟨snapshots, inserted, body⟩ := bind_eq_ok.mp body
  obtain ⟨_, _, body⟩ := bind_eq_ok.mp body
  obtain ⟨_, _, body⟩ := bind_eq_ok.mp body
  obtain ⟨_, rfl⟩ := Prod.mk.inj (Except.ok.inj body)
  exact ⟨snapshots, fetchedAt, printed, rfl,
    (Table.insert?_eq_some.mp (insertRow_ok.mp inserted)).2⟩

/-! ### Each table as a register -/

theorem saves_of_writes {call : StoreCall} (touched : TableName.checkpoints ∈ call.writes) :
    ∃ crawlRunId partitionId checkpointValue clock,
      call = .saveCheckpoint crawlRunId partitionId checkpointValue clock := by
  cases call with
  | saveCheckpoint crawlRunId partitionId checkpointValue clock => exact ⟨_, _, _, _, rfl⟩
  | queue call => cases call <;> simp [StoreCall.writes] at touched
  | _ => simp [StoreCall.writes] at touched

theorem recordsSnapshot_of_writes {call : StoreCall} (touched : TableName.snapshots ∈ call.writes) :
    ∃ artifact, call = .recordSnapshot artifact := by
  cases call with
  | recordSnapshot artifact => exact ⟨artifact, rfl⟩
  | queue call => cases call <;> simp [StoreCall.writes] at touched
  | _ => simp [StoreCall.writes] at touched

theorem recordsBatch_of_writes {call : StoreCall} (touched : TableName.batches ∈ call.writes) :
    ∃ manifest, call = .recordBatch manifest := by
  cases call with
  | recordBatch manifest => exact ⟨manifest, rfl⟩
  | queue call => cases call <;> simp [StoreCall.writes] at touched
  | _ => simp [StoreCall.writes] at touched

theorem savedCheckpoint_of_not_writes {call : StoreCall}
    (untouched : TableName.checkpoints ∉ call.writes) (result : Except PyError StoreReply) :
    savedCheckpoint (call, result) = none := by
  cases call with
  | saveCheckpoint => exact absurd (List.mem_singleton_self _) untouched
  | _ => rfl

theorem recordedSnapshot_of_not_writes {call : StoreCall}
    (untouched : TableName.snapshots ∉ call.writes) (result : Except PyError StoreReply) :
    recordedSnapshot (call, result) = none := by
  cases call with
  | recordSnapshot => exact absurd (List.mem_singleton_self _) untouched
  | _ => rfl

theorem recordedBatch_of_not_writes {call : StoreCall}
    (untouched : TableName.batches ∉ call.writes) (result : Except PyError StoreReply) :
    recordedBatch (call, result) = none := by
  cases call with
  | recordBatch => exact absurd (List.mem_singleton_self _) untouched
  | _ => rfl

theorem checkpoints_overwrite (library : StandardLibrary) :
    History.Overwrites (performStore library) savedCheckpoint readCheckpoint := by
  rintro call store ⟨run, partition⟩
  by_cases touched : TableName.checkpoints ∈ call.writes
  · obtain ⟨crawlRunId, partitionId, checkpointValue, clock, rfl⟩ := saves_of_writes touched
    rcases saveCheckpoint_cases (Prod.eta (saveCheckpoint crawlRunId partitionId
      checkpointValue clock store.db)).symm with ⟨_, isError, same⟩ | ⟨isOk, _, _, saved⟩
    · simp only [performStore, Store.onDb, isError, same]
      exact (writtenBy_of_none _ _ rfl).symm
    · simp only [performStore, Store.onDb, isOk, readCheckpoint, saved, Except.map,
        History.writtenBy, savedCheckpoint, Prod.mk.injEq, eq_comm]
  · have same : (performStore library call store).2.db.checkpoints = store.db.checkpoints :=
      performStore_frame library call store .checkpoints touched
    rw [writtenBy_of_none _ _ (savedCheckpoint_of_not_writes touched _)]
    simp only [readCheckpoint, storedCheckpoint, same]

theorem snapshot_unique (row other : SnapshotRow) (same : row.artifactId = other.artifactId) :
    Constrained.Clash row other := Or.inl same

theorem snapshots_overwrite (library : StandardLibrary) :
    History.Overwrites (performStore library) recordedSnapshot readSnapshot := by
  intro call store name
  by_cases touched : TableName.snapshots ∈ call.writes
  · obtain ⟨artifact, rfl⟩ := recordsSnapshot_of_writes touched
    cases outcome : recordSnapshot artifact store.db with
    | mk result next =>
    cases result with
    | error raised =>
        have same : next = store.db := (writeTransaction_error.mp outcome).2
        simp only [performStore, Store.onDb, outcome, same]
        exact (writtenBy_of_none _ _ rfl).symm
    | ok value =>
        obtain ⟨snapshots, fetchedAt, printed, rfl, rows⟩ := recordSnapshot_recorded outcome
        simp only [performStore, Store.onDb, outcome, readSnapshot, Except.map,
          History.writtenBy, recordedSnapshot, printed, Except.toOption, Option.map_some]
        exact Table.find?_of_append snapshot_unique rows name
  · have same : (performStore library call store).2.db.snapshots = store.db.snapshots :=
      performStore_frame library call store .snapshots touched
    rw [writtenBy_of_none _ _ (recordedSnapshot_of_not_writes touched _)]
    simp only [readSnapshot, same]

theorem snapshots_unused (library : StandardLibrary) (call : StoreCall) (store : Store)
    (artifactId : String) (row : SnapshotRow)
    (wrote : recordedSnapshot (call, (performStore library call store).1) =
      some (artifactId, row)) : readSnapshot store artifactId = none := by
  cases call <;> simp only [recordedSnapshot, reduceCtorEq] at wrote
  next artifact =>
  cases outcome : recordSnapshot artifact store.db with
  | mk result next =>
  cases result with
  | error raised => simp [performStore, Store.onDb, outcome, Except.map] at wrote
  | ok value =>
      obtain ⟨snapshots, fetchedAt, printed, rfl, rows⟩ := recordSnapshot_recorded outcome
      simp only [performStore, Store.onDb, outcome, Except.map, printed, Except.toOption,
        Option.map_some, Option.some.injEq, Prod.mk.injEq] at wrote
      obtain ⟨rfl, _⟩ := wrote
      refine Table.find?_none.mpr fun old member selected => ?_
      exact Table.fits_of_append rows old member
        (snapshot_unique old _ (of_decide_eq_true selected))

theorem batch_unique (row other : BatchRow) (same : row.batchId = other.batchId) :
    Constrained.Clash row other := Or.inl same

theorem batches_overwrite (library : StandardLibrary) :
    History.Overwrites (performStore library) recordedBatch readBatch := by
  intro call store name
  by_cases touched : TableName.batches ∈ call.writes
  · obtain ⟨manifest, rfl⟩ := recordsBatch_of_writes touched
    rcases recordBatch_cases (Prod.eta (recordBatch manifest store.db)).symm with
      ⟨_, isError, same⟩ | ⟨isOk, batches, createdAt, same, printed, rows⟩
    · simp only [performStore, Store.onDb, isError, same]
      exact (writtenBy_of_none _ _ rfl).symm
    · simp only [performStore, Store.onDb, isOk, same, readBatch, Except.map,
        History.writtenBy, recordedBatch, printed, Except.toOption, Option.map_some]
      exact Table.find?_of_append batch_unique rows name
  · have same : (performStore library call store).2.db.batches = store.db.batches :=
      performStore_frame library call store .batches touched
    rw [writtenBy_of_none _ _ (recordedBatch_of_not_writes touched _)]
    simp only [readBatch, same]

theorem batches_unused (library : StandardLibrary) (call : StoreCall) (store : Store)
    (batchId : String) (row : BatchRow)
    (wrote : recordedBatch (call, (performStore library call store).1) = some (batchId, row)) :
    readBatch store batchId = none := by
  cases call <;> simp only [recordedBatch, reduceCtorEq] at wrote
  next manifest =>
  rcases recordBatch_cases (Prod.eta (recordBatch manifest store.db)).symm with
    ⟨_, isError, _⟩ | ⟨isOk, batches, createdAt, _, printed, rows⟩
  · simp [performStore, Store.onDb, isError, Except.map] at wrote
  · simp only [performStore, Store.onDb, isOk, Except.map, printed, Except.toOption,
      Option.map_some, Option.some.injEq, Prod.mk.injEq] at wrote
    obtain ⟨rfl, _⟩ := wrote
    refine Table.find?_none.mpr fun old member selected => ?_
    exact Table.fits_of_append rows old member (batch_unique old _ (of_decide_eq_true selected))

/-! ### What the reads return -/

/-- A checkpoint is a register: after any calls `load` returns the value of the last
`save` for its run and partition that returned, and nothing when there was none. -/
theorem loadCheckpoint_returns_last_saved (library : StandardLibrary) (calls : List StoreCall)
    (crawlRunId partitionId : String) :
    (performStore library (.loadCheckpoint crawlRunId partitionId)
        (storeAfter library calls)).1 =
      .ok (.checkpoint (History.lastWritten savedCheckpoint (crawlRunId, partitionId)
        (storePast library calls))) := by
  have read := History.read_after (checkpoints_overwrite library) Store.empty (fun _ => rfl) calls
    (crawlRunId, partitionId)
  exact congrArg (fun value => Except.ok (StoreReply.checkpoint value)) read

/-- Snapshots and batches are written once: no artifact and no batch is recorded twice,
and after any calls `get` returns the row of its one recording, or nothing when there was
none; of a batch it returns the manifest that the row decodes to. -/
theorem recorded_once_read_for_ever (library : StandardLibrary) (calls : List StoreCall) :
    let past := storePast library calls
    let store := storeAfter library calls
    ((History.written recordedSnapshot past).map Prod.fst).Nodup ∧
      ((History.written recordedBatch past).map Prod.fst).Nodup ∧
      (∀ artifactId row, (performStore library (.getSnapshot artifactId) store).1 =
          .ok (.snapshot (some row)) ↔ (artifactId, row) ∈ History.written recordedSnapshot past) ∧
      ∀ batchId, (∃ row, (batchId, row) ∈ History.written recordedBatch past ∧
          (performStore library (.getBatch batchId) store).1 =
            (row.manifest library).map fun manifest => .batch (some manifest)) ∨
        ((∀ row, (batchId, row) ∉ History.written recordedBatch past) ∧
          (performStore library (.getBatch batchId) store).1 = .ok (.batch none)) := by
  intro past store
  obtain ⟨snapshotOnce, snapshotRead⟩ := History.read_after_once (snapshots_overwrite library)
    (snapshots_unused library) Store.empty (fun _ => rfl) calls
  obtain ⟨batchOnce, batchRead⟩ := History.read_after_once (batches_overwrite library)
    (batches_unused library) Store.empty (fun _ => rfl) calls
  refine ⟨snapshotOnce, batchOnce, fun artifactId row => ?_, fun batchId => ?_⟩
  · refine Iff.trans ?_ (snapshotRead artifactId row)
    simp only [performStore, Store.onDb, getSnapshot, Except.map, Except.ok.injEq,
      StoreReply.snapshot.injEq]
    rfl
  · cases found : readBatch store batchId with
    | none =>
        right
        constructor
        · intro row listed
          have stored : readBatch store batchId = some row := (batchRead batchId row).mpr listed
          rw [found] at stored
          cases stored
        · unfold readBatch at found
          simp only [performStore, Store.onDb, getBatch, found]
          rfl
    | some row =>
        left
        refine ⟨row, (batchRead batchId row).mp found, ?_⟩
        unfold readBatch at found
        simp only [performStore, Store.onDb, getBatch, found]
        cases row.manifest library <;> rfl

end ScraperProject.Orchestration
