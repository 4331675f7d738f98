import ScraperProject.Foundation.Simulation
import ScraperProject.Orchestration.StoreHistory
import ScraperProject.Orchestration.WorkerHistory

/-!
Contract: workers as clients of the runtime store.

Owns the system of any number of worker processes, each cut off anywhere, on one
database together with any other clients of the repositories, and its refinement of
the store: what the commands of the workers do to the tables is what calls of the
store do. Owns from it what every history of the store passes on to the system: no
reference dangles, and the tables only grow.

Does not own the files of the workers, nor the order of the commands of one call.
-/

namespace ScraperProject.Orchestration

open Foundation
open Database

/-! ## Commands as calls -/

/-- The call of the store that a command makes, if it reads or writes a table. -/
def Command.storeCall (environment : Environment) : Command → Option StoreCall
  | .registerOwner => some (.registerOwner environment.clock)
  | .recoverAbandoned now => some (.queue (.recoverAbandoned now))
  | .upsertSource sourceName enabled identityStrategy identityNotes =>
      some (.upsertSource sourceName enabled identityStrategy identityNotes environment.clock)
  | .getRun runId => some (.getRun runId)
  | .createRun runId sourceName runKind =>
      some (.createRun runId sourceName runKind environment.clock)
  | .startRun runId => some (.startRun runId environment.clock)
  | .completeRun runId => some (.completeRun runId environment.clock)
  | .getPartition partitionId => some (.getPartition partitionId)
  | .createPartition partitionId runId sourceName partitionKey =>
      some (.createPartition partitionId runId sourceName partitionKey environment.clock
        environment.laterClock)
  | .startPartition partitionId => some (.startPartition partitionId environment.clock)
  | .completePartition partitionId => some (.completePartition partitionId environment.clock)
  | .loadCheckpoint runId partitionId => some (.loadCheckpoint runId partitionId)
  | .saveCheckpoint runId partitionId checkpointValue =>
      some (.saveCheckpoint runId partitionId checkpointValue environment.clock)
  | .appendObservation observation =>
      some (.appendObservation observation none environment.identifier)
  | .createIdempotent job =>
      some (.queue (.createIdempotent job environment.clock environment.laterClock))
  | .leaseNext workerId leaseSeconds now =>
      some (.queue (.leaseNext workerId leaseSeconds now environment.identifier))
  | .fail jobId workerId errorClass now => some (.queue (.fail jobId workerId errorClass now))
  | .succeed jobId workerId now => some (.queue (.succeed jobId workerId now))
  | .getSnapshot artifactId => some (.getSnapshot artifactId)
  | .recordSnapshot artifact => some (.recordSnapshot artifact)
  | .startParserRun artifactId parserName parserVersion =>
      some (.startParserRun artifactId parserName parserVersion environment.identifier
        environment.clock)
  | .completeParserRun parserRunId => some (.completeParserRun parserRunId environment.clock)
  | .getBatch batchId => some (.getBatch batchId)
  | .recordBatch manifest => some (.recordBatch manifest)
  | .ensurePaths | .diskFree | .readClock | .openDatabase | .openUrl _ | .shutdownRequested
  | .pathExists _ | .readBytes _ | .createExclusive .. => none

/-- A command does to the tables what its calls do, and raises when its call does. -/
theorem performCommand_storeCall (library : StandardLibrary) (environment : Environment)
    (command : Command) (world : World) (ledger : ProxyLedger) :
    (⟨(performCommand library environment command world).2.db, ledger⟩ : Store) =
      History.after (performStore library) ⟨world.db, ledger⟩
        (command.storeCall environment).toList := by
  cases command <;> try rfl
  case readBytes path =>
    simp only [performCommand]
    split <;> rfl
  case createExclusive path content =>
    simp only [performCommand, World.createExclusive]
    split <;> rfl

/-! ## The system -/

/-- Worker processes, and the proxy ledger that only other clients write. -/
structure System (Process : Type) where
  pool : WorkerPool Process
  ledger : ProxyLedger

/-- A move of a worker process, or a call by another client of the store. -/
inductive SystemMove (Process : Type) where
  | worker (move : WorkerMove Process)
  | client (call : StoreCall)

section Refinement

variable {Process : Type} [DecidableEq Process]

/-- The tables of the system. -/
def System.store (system : System Process) : Store := ⟨system.pool.world.db, system.ledger⟩

def System.idle : System Process := ⟨Pool.idle World.empty, Table.empty⟩

/-- The result of a client's call; a move of a worker has none. -/
def performSystem (library : StandardLibrary) (root : String) :
    SystemMove Process → System Process → Option (Except PyError StoreReply) × System Process
  | .worker move, system =>
      (none, { system with pool := (workerMove library root move system.pool).2 })
  | .client call, system =>
      let (result, store) := performStore library call system.store
      (some result,
        { pool := { system.pool with world := { system.pool.world with db := store.db } }
          ledger := store.ledger })

/-- The call of the store that a move of a worker makes. -/
def workerCalls (pool : WorkerPool Process) : WorkerMove Process → List StoreCall
  | .step process environment =>
      match pool.sessions process with
      | some session =>
          match session.rest with
          | .issue command _ => (command.storeCall environment).toList
          | _ => []
      | none => []
  | _ => []

/-- The calls of the store that a move makes. -/
def storeCalls (system : System Process) : SystemMove Process → List StoreCall
  | .worker move => workerCalls system.pool move
  | .client call => [call]

theorem workerMove_calls (library : StandardLibrary) (root : String) (move : WorkerMove Process)
    (pool : WorkerPool Process) (ledger : ProxyLedger) :
    (⟨(workerMove library root move pool).2.world.db, ledger⟩ : Store) =
      History.after (performStore library) ⟨pool.world.db, ledger⟩ (workerCalls pool move) := by
  cases move with
  | start process call =>
      simp only [workerMove, Pool.move, workerCalls]
      split <;> rfl
  | stop process => rfl
  | step process environment =>
      simp only [workerMove, Pool.move, workerCalls]
      cases pool.sessions process with
      | none => rfl
      | some session =>
          cases remaining : session.rest with
          | done value => simp [remaining]
          | raised failure => simp [remaining]
          | issue command next =>
              simp only [remaining]
              exact performCommand_storeCall library environment command pool.world ledger

/-- The system after the moves, from an empty database and no files. -/
def afterSystem (library : StandardLibrary) (root : String) (moves : List (SystemMove Process)) :
    System Process :=
  History.after (performSystem library root) System.idle moves

/-- The calls of the store that the moves make, first to last. -/
def systemCalls (library : StandardLibrary) (root : String) (moves : List (SystemMove Process)) :
    List StoreCall :=
  History.translated (performSystem library root) storeCalls System.idle moves

/-- A move leaves the tables as its calls do. -/
theorem performSystem_store (library : StandardLibrary) (root : String)
    (move : SystemMove Process) (system : System Process) :
    (performSystem library root move system).2.store =
      History.after (performStore library) system.store (storeCalls system move) := by
  cases move with
  | worker move => exact workerMove_calls library root move system.pool system.ledger
  | client call => rfl

/-- Workers refine the store: any interleaving of worker processes, each cut off
anywhere, with the calls of other clients leaves the tables as one history of calls
does. -/
theorem workers_refine_store (library : StandardLibrary) (root : String)
    (moves : List (SystemMove Process)) :
    (afterSystem library root moves).store = storeAfter library (systemCalls library root moves) :=
  History.after_translated (performSystem library root) (performStore library) storeCalls
    System.store (performSystem_store library root) System.idle moves

/-- A part of the interleaving is the corresponding part of the history. -/
theorem systemCalls_append (library : StandardLibrary) (root : String)
    (moves later : List (SystemMove Process)) :
    systemCalls library root (moves ++ later) = systemCalls library root moves ++
      History.translated (performSystem library root) storeCalls (afterSystem library root moves)
        later :=
  History.translated_append (performSystem library root) storeCalls System.idle moves later

/-! ## What histories of the store pass on -/

/-- No interleaving leaves a dangling reference. -/
theorem system_references (library : StandardLibrary) (root : String)
    (moves : List (SystemMove Process)) :
    ReferencesHold (afterSystem library root moves).store := by
  rw [workers_refine_store]
  exact referencesHold_empty.after library (systemCalls library root moves)

/-- No interleaving loses a row or changes what a row keeps. -/
theorem system_onlyGrows (library : StandardLibrary) (root : String)
    (moves later : List (SystemMove Process)) :
    OnlyGrows (afterSystem library root moves).store
      (afterSystem library root (moves ++ later)).store := by
  rw [workers_refine_store, workers_refine_store, systemCalls_append, storeAfter_append]
  exact onlyGrows_after library _ _

end Refinement

end ScraperProject.Orchestration
