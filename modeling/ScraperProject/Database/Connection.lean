import ScraperProject.Foundation.History
import ScraperProject.Foundation.Program

/-!
Contract: `database.connection`, the one write boundary, under concurrency.

Owns the way of a call through `RuntimeDatabase.write_transaction` and
`RuntimeDatabase.read_connection`, statement by statement, for any number of threads in any
number of processes: the writer lock of each process, the write lock that `BEGIN IMMEDIATE`
takes, exceptions at any point of a transaction and processes that are killed.

Does not own the statements of any transaction. A transaction that enters the boundary a
second time from inside and a body that ends its own transaction are left out; no
repository has either.
-/

namespace ScraperProject.Database

open Foundation

variable {Process Thread Call Command State Failure Value : Type} {Reply : Command → Type}

/-! ## Calls and threads -/

/-- How a call uses the database. -/
inductive Access (Command : Type) (Reply : Command → Type) (State Failure Value : Type) where
  /-- One query on a `read_connection`. -/
  | query (answer : State → Except Failure Value)
  /-- The body of a `with database.write_transaction()`. -/
  | transaction (body : Program Command Reply Failure Value)

/-- The users of one database file. -/
structure Clients (Process Thread Call Command : Type) (Reply : Command → Type)
    (State Failure Value : Type) where
  process : Thread → Process
  access : Call → Access Command Reply State Failure Value
  perform : (command : Command) → State → Except Failure (Reply command) × State

/-- Where a thread is. -/
inductive Phase (Call Command : Type) (Reply : Command → Type) (State Failure Value : Type) where
  | idle
  /-- At the query of a `read_connection`. -/
  | reading (call : Call) (answer : State → Except Failure Value)
  /-- At `with self._writer_lock`. -/
  | waiting (call : Call) (body : Program Command Reply Failure Value)
  /-- At `BEGIN IMMEDIATE`, with the writer lock. -/
  | entered (call : Call) (body : Program Command Reply Failure Value)
  /-- In the transaction: its view of the tables and the rest of its body. -/
  | running (call : Call) (working : State) (rest : Program Command Reply Failure Value)
  /-- After `COMMIT`, or after the `ROLLBACK` of a body that raised; at
  `connection.close()`, with the writer lock. -/
  | closing (call : Call) (result : Except Failure Value)
  /-- An exception from outside the body has ended the transaction; at
  `connection.close()`, with the writer lock. -/
  | failing (call : Call) (failure : Failure)
  /-- At `connection.close()` after a query. -/
  | answered (call : Call) (result : Except Failure Value)

/-- The thread is inside `with self._writer_lock`. -/
def Phase.holdsLock : Phase Call Command Reply State Failure Value → Bool
  | .entered .. | .running .. | .closing .. | .failing .. => true
  | _ => false

/-- The connection of the thread is in a transaction. -/
def Phase.isWriting : Phase Call Command Reply State Failure Value → Bool
  | .running .. => true
  | _ => false

/-- A database file with its users. -/
structure Engine (Process Thread Call Command : Type) (Reply : Command → Type)
    (State Failure Value : Type) where
  committed : State
  /-- The thread whose connection has SQLite's write lock. -/
  writer : Option Thread
  /-- The holder of `_writer_lock` in each process. -/
  locks : Process → Option Thread
  phases : Thread → Phase Call Command Reply State Failure Value

/-- One thread goes on, or a process dies. -/
inductive Turn (Process Thread Call Failure : Type) where
  | start (thread : Thread) (call : Call)
  /-- The next statement of the thread. It may raise whatever the tables hold: the five
  seconds of `busy_timeout` are over, the disk fails, or the user interrupts. -/
  | step (thread : Thread) (fault : Option Failure)
  | kill (process : Process)

/-- What a turn makes known. -/
inductive Notice (Thread Call Failure Value : Type) where
  | silent
  /-- The transaction or the query of the call is over, with this result. -/
  | ended (thread : Thread) (call : Call) (result : Except Failure Value)
  /-- The call returns or raises what its body returned or raised. -/
  | returned (thread : Thread) (call : Call) (result : Except Failure Value)
  /-- The call raises an exception from outside its body. -/
  | failed (thread : Thread) (call : Call) (failure : Failure)

namespace Engine

variable [DecidableEq Process] [DecidableEq Thread]

def quiet (committed : State) : Engine Process Thread Call Command Reply State Failure Value where
  committed := committed
  writer := none
  locks _ := none
  phases _ := .idle

def inPhase (engine : Engine Process Thread Call Command Reply State Failure Value)
    (thread : Thread) (phase : Phase Call Command Reply State Failure Value) :
    Engine Process Thread Call Command Reply State Failure Value :=
  { engine with phases := fun other => if other = thread then phase else engine.phases other }

def withLock (engine : Engine Process Thread Call Command Reply State Failure Value)
    (process : Process) (holder : Option Thread) :
    Engine Process Thread Call Command Reply State Failure Value :=
  { engine with
    locks := fun other => if other = process then holder else engine.locks other }

def begin (clients : Clients Process Thread Call Command Reply State Failure Value) (call : Call) :
    Phase Call Command Reply State Failure Value :=
  match clients.access call with
  | .query answer => .reading call answer
  | .transaction body => .waiting call body

/-- The next statement of a thread. -/
def advance (clients : Clients Process Thread Call Command Reply State Failure Value)
    (thread : Thread) (fault : Option Failure)
    (engine : Engine Process Thread Call Command Reply State Failure Value) :
    Notice Thread Call Failure Value ×
      Engine Process Thread Call Command Reply State Failure Value :=
  match engine.phases thread, fault with
  | .idle, _ => (.silent, engine)
  | .reading call answer, none =>
      let result := answer engine.committed
      (.ended thread call result, engine.inPhase thread (.answered call result))
  | .reading call _, some failure => (.failed thread call failure, engine.inPhase thread .idle)
  | .answered call result, _ => (.returned thread call result, engine.inPhase thread .idle)
  | .waiting call body, none =>
      match engine.locks (clients.process thread) with
      | some _ => (.silent, engine)
      | none => (.silent, (engine.withLock (clients.process thread) (some thread)).inPhase thread
          (.entered call body))
  | .waiting call _, some failure => (.failed thread call failure, engine.inPhase thread .idle)
  | .entered call body, none =>
      match engine.writer with
      | some _ => (.silent, engine)
      | none => (.silent, { engine.inPhase thread (.running call engine.committed body) with
          writer := some thread })
  | .entered call _, some failure => (.silent, engine.inPhase thread (.failing call failure))
  | .running call working (.issue command next), none =>
      let outcome := clients.perform command working
      (.silent, engine.inPhase thread (.running call outcome.2 (next outcome.1)))
  | .running call working (.done value), none =>
      (.ended thread call (.ok value),
        { engine.inPhase thread (.closing call (.ok value)) with
          committed := working
          writer := none })
  | .running call _ (.raised failure), none =>
      (.ended thread call (.error failure),
        { engine.inPhase thread (.closing call (.error failure)) with writer := none })
  | .running call _ _, some failure =>
      (.silent, { engine.inPhase thread (.failing call failure) with writer := none })
  | .closing call result, _ => (.returned thread call result,
      (engine.withLock (clients.process thread) none).inPhase thread .idle)
  | .failing call failure, _ => (.failed thread call failure,
      (engine.withLock (clients.process thread) none).inPhase thread .idle)

/-- A process that is killed loses its threads and its lock, and SQLite rolls its open
transaction back. -/
def killed (clients : Clients Process Thread Call Command Reply State Failure Value)
    (process : Process) (engine : Engine Process Thread Call Command Reply State Failure Value) :
    Engine Process Thread Call Command Reply State Failure Value where
  committed := engine.committed
  writer := engine.writer.filter fun thread => clients.process thread ≠ process
  locks other := if other = process then none else engine.locks other
  phases thread := if clients.process thread = process then .idle else engine.phases thread

def move (clients : Clients Process Thread Call Command Reply State Failure Value) :
    Turn Process Thread Call Failure →
      Engine Process Thread Call Command Reply State Failure Value →
        Notice Thread Call Failure Value ×
          Engine Process Thread Call Command Reply State Failure Value
  | .start thread call, engine =>
      match engine.phases thread with
      | .idle => (.silent, engine.inPhase thread (begin clients call))
      | _ => (.silent, engine)
  | .step thread fault, engine => engine.advance clients thread fault
  | .kill process, engine => (.silent, engine.killed clients process)

end Engine

/-! ## Calls one after another -/

/-- The body, alone on the database. -/
def Clients.run (clients : Clients Process Thread Call Command Reply State Failure Value)
    (body : Program Command Reply Failure Value) (state : State) : Except Failure Value × State :=
  body.execute (fun _ : Unit => clients.perform) (fun _ => ()) state

/-- The call, alone on the database; a body that raises changes nothing. -/
def Clients.alone (clients : Clients Process Thread Call Command Reply State Failure Value)
    (call : Call) (state : State) : Except Failure Value × State :=
  match clients.access call with
  | .query answer => (answer state, state)
  | .transaction body =>
      match clients.run body state with
      | (.ok value, later) => (.ok value, later)
      | (.error failure, _) => (.error failure, state)

end ScraperProject.Database
