import ScraperProject.Database.Schema
import ScraperProject.Foundation.Ledger
import ScraperProject.Foundation.Program

/-!
Contract: `database.migrations` over the connections of `database.connection`.

Owns the packaged files and their order, the pass of `apply_migrations` over
them, and two levels of its database accesses: single statements on a connection,
with the transaction that is open there, and whole transactions.

Does not own the text of any script: a library reads a script as statements, each
of which makes a schema of a schema or fails. The table `schema_migrations`
belongs to the runner and is not part of that schema.
-/

namespace ScraperProject.Database

open Foundation

variable {Schema : Type}

/-! ## Packaged files -/

/-- What the code takes from outside the repository. -/
structure MigrationLibrary (Schema : Type) where
  /-- `text.isdigit()`. -/
  isdigit : String → Bool
  /-- `sha256(text.encode("utf-8")).hexdigest()`. -/
  sha256 : String → String
  /-- The statements that SQLite reads in a script. -/
  statements : String → List (Schema → Option Schema)

/-- An entry of the packaged directory, with the text that `read_text` returns. -/
structure PackagedFile where
  name : String
  isFile : Bool
  text : String
deriving DecidableEq

def PackagedFile.isMigration (library : MigrationLibrary Schema) (path : PackagedFile) : Bool :=
  path.isFile && library.isdigit (String.ofList (path.name.toList.take 4)) &&
    ".sql".toList.isSuffixOf path.name.toList

/-- The `paths` of `apply_migrations`: the numbered scripts by name. -/
def migrationPaths (library : MigrationLibrary Schema) (directory : List PackagedFile) :
    List PackagedFile :=
  (directory.filter (PackagedFile.isMigration library)).mergeSort fun path other =>
    decide (path.name ≤ other.name)

/-- `path.name.split("_", 1)[0]`. -/
def PackagedFile.version (path : PackagedFile) : String :=
  String.ofList (path.name.toList.takeWhile (· ≠ '_'))

def PackagedFile.checksum (library : MigrationLibrary Schema) (path : PackagedFile) : String :=
  library.sha256 path.text

def PackagedFile.changed (path : PackagedFile) : PyError :=
  .migration ("migration " ++ path.name ++ " has changed after application")

/-- The statements of a script in order, up to the first that fails. -/
def runStatements : List (Schema → Option Schema) → Schema → Except PyError Schema
  | [], schema => .ok schema
  | statement :: rest, schema =>
      match statement schema with
      | none => .error .operationalError
      | some next => runStatements rest next

/-! ## The pass -/

section Pass

variable {Command : Type} {Reply : Command → Type} (library : MigrationLibrary Schema)
  (createTable : Program Command Reply PyError Unit)
  (readChecksum : String → Program Command Reply PyError (Option String))
  (applyScript : PackagedFile → Program Command Reply PyError Unit)

/-- The loop of `apply_migrations`. -/
def applyPaths : List PackagedFile → Program Command Reply PyError Unit
  | [] => pure ()
  | path :: rest => do
      let applied ← readChecksum path.version
      match applied with
      | some checksum =>
          if checksum ≠ path.checksum library then .raised path.changed else applyPaths rest
      | none => do
          applyScript path
          applyPaths rest

/-- `apply_migrations`. -/
def applyMigrationsWith (directory : List PackagedFile) : Program Command Reply PyError Unit := do
  createTable
  applyPaths library readChecksum applyScript (migrationPaths library directory)

end Pass

/-! ## The database file -/

/-- A row of `schema_migrations`. -/
structure MigrationRow where
  version : String
  checksum : String
  appliedAt : String
deriving DecidableEq

instance : Constrained MigrationRow where
  Clash row other := row.version = other.version
  decidableClash _ _ := inferInstanceAs (Decidable (_ = _))
  refl _ := rfl
  symm same := same.symm

/-- The table `schema_migrations`, once it exists, and everything else. -/
structure MigrationStore (Schema : Type) where
  records : Option (Table MigrationRow)
  schema : Schema

/-- A database before any migration. -/
def MigrationStore.unmigrated (schema : Schema) : MigrationStore Schema where
  records := none
  schema := schema

/-- `CREATE TABLE IF NOT EXISTS schema_migrations`. -/
def MigrationStore.withTable (store : MigrationStore Schema) : MigrationStore Schema :=
  { store with records := some (store.records.getD Table.empty) }

/-- `SELECT checksum FROM schema_migrations WHERE version = ?`. -/
def MigrationStore.selectChecksum (store : MigrationStore Schema) (version : String) :
    Except PyError (Option String) :=
  match store.records with
  | none => .error .operationalError
  | some records =>
      .ok ((records.find? fun row => row.version = version).map MigrationRow.checksum)

/-- `INSERT INTO schema_migrations(version, checksum, applied_at)`. -/
def MigrationStore.insertRecord (store : MigrationStore Schema)
    (version checksum appliedAt : String) : Except PyError (MigrationStore Schema) :=
  match store.records with
  | none => .error .operationalError
  | some records => do
      let records ← insertRow records ⟨version, checksum, appliedAt⟩
      return { store with records := some records }

/-! ## Statements on a connection -/

/-- A statement that writes. -/
inductive SqlWrite (Schema : Type) where
  | createTable
  | change (statement : Schema → Option Schema)
  | insertRecord (version checksum : String)

/-- What a call does with its connection. -/
inductive SqlCommand (Schema : Type) where
  | connect
  | beginImmediate
  | write (sql : SqlWrite Schema)
  | selectChecksum (version : String)
  | commit
  | rollback
  | inTransaction
  | close

abbrev SqlReply : SqlCommand Schema → Type
  | .selectChecksum _ => Option String
  | .inTransaction => Bool
  | _ => Unit

/-- What happens outside the call: a statement may fail, a failure may end the
transaction, and the clock of `strftime`. -/
structure SqlEnvironment where
  fails : Bool
  rollsBack : Bool
  clock : String

/-- The committed database, and the transaction that is open on the connection. -/
structure SqlWorld (Schema : Type) where
  committed : MigrationStore Schema
  working : Option (MigrationStore Schema)

/-- A new database. -/
def newDatabase (blank : Schema) : SqlWorld Schema where
  committed := .unmigrated blank
  working := none

def SqlWrite.execute (clock : String) :
    SqlWrite Schema → MigrationStore Schema → Except PyError (MigrationStore Schema)
  | .createTable, store => .ok store.withTable
  | .change statement, store =>
      match statement store.schema with
      | none => .error .operationalError
      | some schema => .ok { store with schema := schema }
  | .insertRecord version checksum, store => store.insertRecord version checksum clock

/-- A failed statement; SQLite may end the open transaction with it. -/
def SqlWorld.fail {Value : Type} (world : SqlWorld Schema) (environment : SqlEnvironment)
    (raised : PyError) : Except PyError Value × SqlWorld Schema :=
  (.error raised, if environment.rollsBack then { world with working := none } else world)

/-- Outside a transaction a statement commits at once. -/
def SqlWorld.store (world : SqlWorld Schema) (next : MigrationStore Schema) : SqlWorld Schema :=
  match world.working with
  | some _ => { world with working := some next }
  | none => { world with committed := next }

/-- One command. A new connection has no transaction: one that a crash left open
is gone, and closing a connection ends its own. -/
def performSql (environment : SqlEnvironment) : (command : SqlCommand Schema) →
    SqlWorld Schema → Except PyError (SqlReply command) × SqlWorld Schema
  | .connect, world =>
      if environment.fails then world.fail environment .operationalError
      else (.ok (), { world with working := none })
  | .beginImmediate, world =>
      if environment.fails || world.working.isSome then world.fail environment .operationalError
      else (.ok (), { world with working := some world.committed })
  | .write sql, world =>
      if environment.fails then world.fail environment .operationalError
      else
        match sql.execute environment.clock (world.working.getD world.committed) with
        | .error raised => world.fail environment raised
        | .ok next => (.ok (), world.store next)
  | .selectChecksum version, world =>
      if environment.fails then world.fail environment .operationalError
      else
        match (world.working.getD world.committed).selectChecksum version with
        | .error raised => world.fail environment raised
        | .ok applied => (.ok applied, world)
  | .commit, world =>
      if environment.fails then world.fail environment .operationalError
      else
        match world.working with
        | none => world.fail environment .operationalError
        | some next => (.ok (), { committed := next, working := none })
  | .rollback, world =>
      if environment.fails || world.working.isNone then world.fail environment .operationalError
      else (.ok (), { world with working := none })
  | .inTransaction, world => (.ok world.working.isSome, world)
  | .close, world => (.ok (), { world with working := none })

abbrev SqlProgram (Schema Value : Type) : Type :=
  Program (SqlCommand Schema) SqlReply PyError Value

def sql (command : SqlCommand Schema) : SqlProgram Schema (SqlReply command) :=
  Program.call command

/-- `RuntimeDatabase.read_connection`. -/
def readConnection {Value : Type} (body : SqlProgram Schema Value) : SqlProgram Schema Value := do
  sql .connect
  body.ensuring (sql .close)

/-- `if connection.in_transaction:`, and a command. -/
def ifInTransaction (command : SqlProgram Schema Unit) : SqlProgram Schema Unit := do
  let inTransaction ← sql .inTransaction
  if inTransaction then command else pure ()

/-- `RuntimeDatabase.write_transaction`. -/
def writeConnection {Value : Type} (body : SqlProgram Schema Value) : SqlProgram Schema Value := do
  sql .connect
  let attempt : SqlProgram Schema Value := do
    sql .beginImmediate
    let value ← body
    ifInTransaction (sql .commit)
    return value
  let guarded := attempt.handle fun raised => do
    ifInTransaction (sql .rollback)
    .raised raised
  guarded.ensuring (sql .close)

def runScript : List (SqlCommand Schema) → SqlProgram Schema Unit
  | [] => pure ()
  | command :: rest => do
      let _ ← sql command
      runScript rest

/-- `connection.executescript`: it first commits an open transaction. -/
def executeScript (script : List (SqlCommand Schema)) : SqlProgram Schema Unit := do
  ifInTransaction (sql .commit)
  runScript script

/-- The script that `apply_migrations` puts together for a file. -/
def migrationScript (library : MigrationLibrary Schema) (path : PackagedFile) :
    List (SqlCommand Schema) :=
  [.beginImmediate] ++
    (library.statements path.text).map (fun statement => .write (.change statement)) ++
      [.write (.insertRecord path.version (path.checksum library)), .commit]

/-- `apply_migrations`, statement by statement. -/
def applyMigrations (library : MigrationLibrary Schema) (directory : List PackagedFile) :
    SqlProgram Schema Unit :=
  applyMigrationsWith library
    (writeConnection (sql (.write .createTable)))
    (fun version => readConnection (sql (.selectChecksum version)))
    (fun path => writeConnection (executeScript (migrationScript library path))) directory

/-! ## Transactions as single steps -/

/-- A read or a write transaction of `apply_migrations`. -/
inductive MigrationCommand where
  | createTable
  | readChecksum (version : String)
  | applyScript (path : PackagedFile)
deriving DecidableEq

abbrev MigrationReply : MigrationCommand → Type
  | .readChecksum _ => Option String
  | _ => Unit

/-- A write transaction that raises changes nothing. The environment is the clock
of `strftime`. -/
def performMigration (library : MigrationLibrary Schema) (clock : String) :
    (command : MigrationCommand) → MigrationStore Schema →
      Except PyError (MigrationReply command) × MigrationStore Schema
  | .createTable, store => (.ok (), store.withTable)
  | .readChecksum version, store => (store.selectChecksum version, store)
  | .applyScript path, store =>
      match runStatements (library.statements path.text) store.schema with
      | .error raised => (.error raised, store)
      | .ok schema =>
          match { store with schema := schema }.insertRecord path.version (path.checksum library)
            clock with
          | .error raised => (.error raised, store)
          | .ok next => (.ok (), next)

abbrev MigrationProgram (Value : Type) : Type :=
  Program MigrationCommand MigrationReply PyError Value

def transact (command : MigrationCommand) : MigrationProgram (MigrationReply command) :=
  Program.call command

/-- `apply_migrations`, transaction by transaction. -/
def applyMigrationsByTransaction (library : MigrationLibrary Schema)
    (directory : List PackagedFile) : MigrationProgram Unit :=
  applyMigrationsWith library (transact .createTable)
    (fun version => transact (.readChecksum version))
    (fun path => transact (.applyScript path)) directory

/-! ## The ledger of a database -/

/-- A packaged file as an entry. -/
def PackagedFile.entry (library : MigrationLibrary Schema) (path : PackagedFile) :
    LedgerEntry String String Schema PyError where
  key := path.version
  digest := path.checksum library
  drift := path.changed
  effect := runStatements (library.statements path.text)

/-- The recorded versions with their checksums, and the schema. -/
def MigrationStore.ledger (store : MigrationStore Schema) : Ledger String String Schema where
  records := (store.records.elim [] Table.rows).map fun row => (row.version, row.checksum)
  state := store.schema

/-! ## A sample directory

Schemas are lists of table names. -/

def runsScript : PackagedFile where
  name := "0001_runs.sql"
  isFile := true
  text := "CREATE TABLE IF NOT EXISTS crawl_runs (crawl_run_id TEXT);\n"

def parsersScript : PackagedFile where
  name := "0002_parsers.sql"
  isFile := true
  text := "CREATE TABLE IF NOT EXISTS parser_runs (parser_run_id TEXT);\n"

/-- The first script after a change. -/
def changedRunsScript : PackagedFile :=
  { runsScript with text := "CREATE TABLE IF NOT EXISTS crawl_runs (crawl_run_id TEXT PRIMARY KEY);\n" }

/-- `CREATE TABLE IF NOT EXISTS`. -/
def createsTable (name : String) (tables : List String) : Option (List String) :=
  some (if name ∈ tables then tables else tables ++ [name])

/-- Digests and statements of the sample scripts. -/
def sampleMigrations : MigrationLibrary (List String) where
  isdigit text := text.toList.all Char.isDigit && !text.toList.isEmpty
  sha256 text :=
    if text = runsScript.text then
      "fbca455839a35ad6dc93fb4f81a1a15358deb65e5ffe08e6185d507bb63588f5"
    else if text = parsersScript.text then
      "971f86862e6bd61e60926c76a3eae531de1d75569da2451f02ccc41e535d086f"
    else "4ca5c630f4ddcf5ca87e1af9e5c7cabe7c4c782087b67f54d7d2e5df239d07e1"
  statements text :=
    if text = parsersScript.text then [createsTable "parser_runs"]
    else [createsTable "crawl_runs"]

/-- An environment in which a statement succeeds. -/
def sampleStatement : SqlEnvironment := ⟨false, false, "2026-07-20T10:00:00.000Z"⟩

theorem migrationPaths_sample :
    migrationPaths sampleMigrations [runsScript, parsersScript] =
      [runsScript, parsersScript] := by
  apply List.mergeSort_of_pairwise
  decide

end ScraperProject.Database
