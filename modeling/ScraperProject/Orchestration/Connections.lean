import ScraperProject.Database.ConnectionProgress
import ScraperProject.Orchestration.StoreHistory

/-!
Contract: the runtime store under concurrent threads and processes.

Owns how each call of the store uses its connection, and what the write boundary makes of
any interleaving of calls: one history of the store, of which every thread sees its part.

Does not own the boundary itself.
-/

namespace ScraperProject.Orchestration

open Foundation
open Database
open Contracts

variable {Process Thread : Type}

/-- The reads use a `read_connection`, all other calls a `write_transaction`. -/
def storeAccess (library : StandardLibrary) (call : StoreCall) :
    Access StoreCall (fun _ => StoreReply) Store PyError StoreReply :=
  match call with
  | .getRun _ | .getPartition _ | .statusCounts | .loadCheckpoint .. | .getSnapshot _
  | .getParserRun _ | .usageTotals | .getBatch _ =>
      .query fun store => (performStore library call store).1
  | _ => .transaction (Program.call call)

/-- The users of one runtime database. -/
def storeClients (library : StandardLibrary) (process : Thread → Process) :
    Clients Process Thread StoreCall StoreCall (fun _ => StoreReply) Store PyError StoreReply where
  process := process
  access := storeAccess library
  perform := performStore library

section

variable (library : StandardLibrary) (process : Thread → Process)

theorem run_call (call : StoreCall) (store : Store) :
    (storeClients library process).run (Program.call call) store =
      performStore library call store := by
  cases outcome : performStore library call store with
  | mk result later =>
      cases result <;>
        simp [Clients.run, Program.call, Program.execute, storeClients, outcome]

theorem transaction_alone {call : StoreCall}
    (written : storeAccess library call = .transaction (Program.call call)) (store : Store) :
    (storeClients library process).alone call store = performStore library call store := by
  unfold Clients.alone
  rw [show (storeClients library process).access call = _ from written]
  dsimp only
  rw [run_call]
  cases outcome : performStore library call store with
  | mk result later =>
      cases result with
      | ok reply => rfl
      | error raised =>
          have same := performStore_raised (congrArg Prod.fst outcome)
          rw [outcome] at same
          exact Prod.ext rfl same.symm

/-- A call that nothing interrupts is the call of the store. -/
theorem alone_eq_performStore (call : StoreCall) (store : Store) :
    (storeClients library process).alone call store = performStore library call store := by
  cases call with
  | getBatch batchId =>
      have same : (performStore library (.getBatch batchId) store).2 = store := by
        simp only [performStore, Store.onDb, getBatch_snd]
      exact Prod.ext rfl same.symm
  | getRun | getPartition | statusCounts | loadCheckpoint | getSnapshot | getParserRun
  | usageTotals => rfl
  | _ => exact transaction_alone library process rfl store

variable [DecidableEq Process] [DecidableEq Thread]

/-- The database after any turns of its users, from the migrated one. -/
def engineAfter (turns : List (Turn Process Thread StoreCall PyError)) :
    Engine Process Thread StoreCall StoreCall (fun _ => StoreReply) Store PyError StoreReply :=
  History.after (Engine.move (storeClients library process)) (Engine.quiet Store.empty) turns

def enginePast (turns : List (Turn Process Thread StoreCall PyError)) :
    List (Turn Process Thread StoreCall PyError × Notice Thread StoreCall PyError StoreReply) :=
  History.events (Engine.move (storeClients library process)) (Engine.quiet Store.empty) turns

/-- Any number of threads in any number of processes, interrupted anywhere and killed at any
time, are a history of the store: the committed tables are those after the calls in the
order in which they took effect, each call had its result in that history, and what a
thread saw to return are, in its order, calls of its own that took effect. At most one
thread is in a transaction, and in each process one is inside the boundary; a `BEGIN
IMMEDIATE` that finds the write lock taken waits for another process. -/
theorem concurrent_calls_are_a_history (turns : List (Turn Process Thread StoreCall PyError)) :
    let order := effects (enginePast library process turns)
    let calls := order.map fun done => done.2.1
    let engine := engineAfter library process turns
    engine.committed = storeAfter library calls ∧
      order.map Prod.snd = storePast library calls ∧
      (∀ thread, (returnedBy thread (enginePast library process turns)).Sublist
        ((order.filter fun done => done.1 = thread).map Prod.snd)) ∧
      (∀ thread other, (engine.phases thread).isWriting = true →
        (engine.phases other).isWriting = true → thread = other) ∧
      (∀ thread other, process thread = process other →
        (engine.phases thread).holdsLock = true → (engine.phases other).holdsLock = true →
          thread = other) ∧
      ∀ thread call body other, engine.phases thread = .entered call body →
        engine.writer = some other → process other ≠ process thread := by
  intro order calls engine
  obtain ⟨coherent, committed, past⟩ :=
    committed_is_serial (storeClients library process) Store.empty turns
  have alone : (storeClients library process).alone = performStore library := by
    funext call store
    exact alone_eq_performStore library process call store
  rw [alone] at committed past
  have single : ∀ thread other, process thread = process other →
      (engine.phases thread).holdsLock = true → (engine.phases other).holdsLock = true →
        thread = other := by
    intro thread other sameProcess inside otherInside
    have holder := (coherent.locked (process other) thread).mpr ⟨sameProcess, inside⟩
    have otherHolder := (coherent.locked (process other) other).mpr ⟨rfl, otherInside⟩
    exact Option.some.inj (holder.symm.trans otherHolder)
  refine ⟨committed, past, fun thread => returned_took_effect _ _ turns thread, ?_, single, ?_⟩
  · intro thread other writes otherWrites
    have holder := (coherent.writing thread).mpr writes
    exact Option.some.inj (holder.symm.trans ((coherent.writing other).mpr otherWrites))
  · intro thread call body other entered holder sameProcess
    have writes : (engine.phases other).isWriting = true := (coherent.writing other).mp holder
    have inside : (engine.phases thread).holdsLock = true := by
      rw [entered]
      rfl
    have same := single other thread sameProcess (Phase.holdsLock_of_isWriting writes) inside
    rw [same, entered] at writes
    cases writes

/-- No thread is stuck: whatever was interrupted or killed before, the call of each thread
can come to its end while no further process dies and no statement fails. -/
theorem every_store_call_can_return (turns : List (Turn Process Thread StoreCall PyError))
    (thread : Thread) :
    ∃ later, (engineAfter library process turns).CanReach (storeClients library process) later ∧
      later.phases thread = .idle :=
  every_call_can_return Store.empty turns thread

end

end ScraperProject.Orchestration
