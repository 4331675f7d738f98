import ScraperProject.Database.Migrations

/-!
Contract: what `apply_migrations` makes of a database, statement by statement.

Owns the ledger of a database under the accesses of the runner, the conditions of
its programs (what holds of the committed database at every point, and how a call
ends when no statement is made to fail), one rule for each command, and the walk
through the connections, the script and the loop.

Does not own any history of calls.
-/

namespace ScraperProject.Database

open Foundation

variable {Schema : Type}

/-! ## The ledger under the accesses -/

@[simp] theorem ledger_withTable (store : MigrationStore Schema) :
    store.withTable.ledger = store.ledger := by
  cases records : store.records <;> simp [MigrationStore.ledger, MigrationStore.withTable, records,
    Table.empty]

theorem withTable_of_isSome {store : MigrationStore Schema} (table : store.records.isSome) :
    store.withTable = store := by
  obtain ⟨records, stored⟩ := Option.isSome_iff_exists.mp table
  cases store
  simp only at stored
  simp [MigrationStore.withTable, stored]

theorem selectChecksum_eq {store : MigrationStore Schema} (table : store.records.isSome)
    (version : String) : store.selectChecksum version = .ok (store.ledger.digestOf version) := by
  obtain ⟨records, stored⟩ := Option.isSome_iff_exists.mp table
  simp only [MigrationStore.selectChecksum, MigrationStore.ledger, Ledger.digestOf, stored,
    Option.elim, List.find?_map, Option.map_map]
  rfl

/-- An unrecorded version is recorded. -/
theorem insertRecord_of_pending {store : MigrationStore Schema} (table : store.records.isSome)
    {version : String} (pending : store.ledger.digestOf version = none)
    (checksum appliedAt : String) :
    ∃ next, store.insertRecord version checksum appliedAt = .ok next ∧ next.records.isSome ∧
      next.ledger = { store.ledger with
        records := store.ledger.records ++ [(version, checksum)] } := by
  obtain ⟨records, stored⟩ := Option.isSome_iff_exists.mp table
  have fits : ∀ row ∈ records,
      ¬ Constrained.Clash row (⟨version, checksum, appliedAt⟩ : MigrationRow) := by
    intro row member clash
    have same : row.version = version := clash
    have absent : (records.rows.map fun row => (row.version, row.checksum)).find?
        (fun record => record.1 = version) = none := by
      simpa [Ledger.digestOf, MigrationStore.ledger, stored] using pending
    have listed := List.find?_eq_none.mp absent _ (List.mem_map.mpr ⟨row, member, rfl⟩)
    exact listed (by simpa using same)
  obtain ⟨next, inserted⟩ := Table.insert?_isSome fits
  refine ⟨{ store with records := some next }, ?_, rfl, ?_⟩
  · simp only [MigrationStore.insertRecord, stored, insertRow, inserted]
    rfl
  · simp [MigrationStore.ledger, stored, (Table.insert?_eq_some.mp inserted).2]

/-- A recorded version is not recorded again. -/
theorem insertRecord_of_recorded {store : MigrationStore Schema} {version recorded : String}
    (present : store.ledger.digestOf version = some recorded) (checksum appliedAt : String) :
    store.insertRecord version checksum appliedAt = .error (.integrityError .unique) := by
  cases stored : store.records with
  | none => simp [Ledger.digestOf, MigrationStore.ledger, stored] at present
  | some records =>
      simp only [Ledger.digestOf, MigrationStore.ledger, stored, Option.elim, List.find?_map,
        Option.map_map] at present
      obtain ⟨row, found, _⟩ := Option.map_eq_some_iff.mp present
      have selected : row.version = version := by simpa using List.find?_some found
      have refused := Table.insert?_eq_none.mpr ⟨row, List.mem_of_find?_eq_some found,
        (show Constrained.Clash row (⟨version, checksum, appliedAt⟩ : MigrationRow) from selected)⟩
      simp only [MigrationStore.insertRecord, stored, insertRow, refused]
      rfl

/-! ## Terms -/

section Terms

variable (calm : Prop) (Good : MigrationStore Schema → Prop)

/-- When no statement is made to fail the call is calm; the committed database is
good after every command. -/
def sqlTerms (raises : PyError → SqlWorld Schema → Prop) :
    Program.Terms (SqlCommand Schema) PyError (SqlWorld Schema) SqlEnvironment where
  permits environment _ _ := calm → environment.fails = false
  guard command world := ∀ environment, (calm → environment.fails = false) →
    Good (performSql environment command world).2.committed
  raises := raises

/-- A program raised: the committed database is good, and as expected of a calm
call. -/
def Ended (expected : PyError → MigrationStore Schema → Prop) (raised : PyError)
    (world : SqlWorld Schema) : Prop :=
  Good world.committed ∧ (calm → expected raised world.committed)

end Terms

variable {calm : Prop} {Good : MigrationStore Schema → Prop}
  {raises : PyError → SqlWorld Schema → Prop} {world : SqlWorld Schema}

@[simp] theorem fail_committed {Value : Type} (environment : SqlEnvironment) (raised : PyError) :
    (world.fail environment raised : Except PyError Value × _).2.committed = world.committed := by
  simp only [SqlWorld.fail]
  split <;> rfl

/-- What a failure may leave: the committed database as it is, in a call that is
not calm. -/
def Excuses (calm : Prop) (raises : PyError → SqlWorld Schema → Prop)
    (world : SqlWorld Schema) : Prop :=
  ∀ raised later, later.committed = world.committed → ¬ calm → raises raised later

/-- A command that may be made to fail. -/
theorem meets_sql {command : SqlCommand Schema}
    {returns : SqlReply command → SqlWorld Schema → Prop}
    (faulty : ∀ environment, environment.fails = true →
      performSql environment command world = world.fail environment .operationalError)
    (good : Good world.committed) (excuses : Excuses calm raises world)
    (outcome : ∀ environment, environment.fails = false →
      Good (performSql environment command world).2.committed ∧
        match performSql environment command world with
        | (.ok reply, later) => returns reply later
        | (.error raised, later) => raises raised later) :
    (sql command).Meets performSql (sqlTerms calm Good raises) returns world := by
  apply Program.Meets.call
  · intro environment _
    cases failing : environment.fails with
    | false => exact (outcome environment failing).1
    | true =>
        rw [faulty environment failing, fail_committed]
        exact good
  · intro environment raised later permitted performed
    cases failing : environment.fails with
    | false =>
        have ended := (outcome environment failing).2
        rw [performed] at ended
        exact ended
    | true =>
        have busy : ¬ calm := fun isCalm => by
          rw [permitted isCalm] at failing
          cases failing
        have same := congrArg (fun result => result.2.committed) (faulty environment failing)
        rw [performed] at same
        exact excuses raised later (same.trans (fail_committed environment _)) busy
  · intro environment reply later _ performed
    cases failing : environment.fails with
    | false =>
        have ended := (outcome environment failing).2
        rw [performed] at ended
        exact ended
    | true =>
        rw [faulty environment failing, SqlWorld.fail] at performed
        cases performed

theorem meets_inTransaction {returns : Bool → SqlWorld Schema → Prop}
    (good : Good world.committed) (returned : returns world.working.isSome world) :
    (sql .inTransaction).Meets performSql (sqlTerms calm Good raises) returns world :=
  ⟨fun _ _ => good, fun _ _ => returned⟩

theorem meets_close {returns : Unit → SqlWorld Schema → Prop} (good : Good world.committed)
    (returned : returns () { world with working := none }) :
    (sql .close).Meets performSql (sqlTerms calm Good raises) returns world :=
  ⟨fun _ _ => good, fun _ _ => returned⟩

theorem meets_connect {returns : Unit → SqlWorld Schema → Prop} (good : Good world.committed)
    (excuses : Excuses calm raises world) (returned : returns () { world with working := none }) :
    (sql .connect).Meets performSql (sqlTerms calm Good raises) returns world := by
  apply meets_sql (fun environment failing => by simp [performSql, failing]) good excuses
  intro environment quiet
  simp only [performSql, quiet, Bool.false_eq_true, if_false]
  exact ⟨good, returned⟩

theorem meets_beginImmediate {returns : Unit → SqlWorld Schema → Prop}
    (good : Good world.committed) (excuses : Excuses calm raises world)
    (idle : world.working = none)
    (returned : returns () { world with working := some world.committed }) :
    (sql .beginImmediate).Meets performSql (sqlTerms calm Good raises) returns world := by
  apply meets_sql (fun environment failing => by simp [performSql, failing]) good excuses
  intro environment quiet
  simp only [performSql, quiet, idle, Option.isSome_none, Bool.or_self, Bool.false_eq_true, if_false]
  exact ⟨good, returned⟩

/-- A statement in a transaction changes what is committed later. -/
theorem meets_write {statement : SqlWrite Schema} {store : MigrationStore Schema}
    {returns : Unit → SqlWorld Schema → Prop} (good : Good world.committed)
    (excuses : Excuses calm raises world) (begun : world.working = some store)
    (succeeds : ∀ clock next, statement.execute clock store = .ok next →
      returns () { world with working := some next })
    (refused : ∀ clock raised, statement.execute clock store = .error raised →
      ∀ later, later.committed = world.committed → raises raised later) :
    (sql (.write statement)).Meets performSql (sqlTerms calm Good raises) returns world := by
  apply meets_sql (fun environment failing => by simp [performSql, failing]) good excuses
  intro environment quiet
  simp only [performSql, quiet, begun, Option.getD_some, Bool.false_eq_true, if_false]
  cases executed : statement.execute environment.clock store with
  | error raised =>
      simp only
      have same := @fail_committed Schema world Unit environment raised
      exact ⟨same.symm ▸ good, refused _ _ executed _ same⟩
  | ok next =>
      simp only [SqlWorld.store, begun]
      exact ⟨good, succeeds _ _ executed⟩

theorem meets_selectChecksum {version : String} {applied : Option String}
    {returns : Option String → SqlWorld Schema → Prop} (good : Good world.committed)
    (excuses : Excuses calm raises world) (idle : world.working = none)
    (selected : world.committed.selectChecksum version = .ok applied)
    (returned : returns applied world) :
    (sql (.selectChecksum version)).Meets performSql (sqlTerms calm Good raises) returns world := by
  apply meets_sql (fun environment failing => by simp [performSql, failing]) good excuses
  intro environment quiet
  simp only [performSql, quiet, idle, Option.getD_none, selected, Bool.false_eq_true, if_false]
  exact ⟨good, returned⟩

theorem meets_commit {next : MigrationStore Schema} {returns : Unit → SqlWorld Schema → Prop}
    (good : Good world.committed) (excuses : Excuses calm raises world)
    (begun : world.working = some next) (goodNext : Good next)
    (returned : returns () { committed := next, working := none }) :
    (sql .commit).Meets performSql (sqlTerms calm Good raises) returns world := by
  apply meets_sql (fun environment failing => by simp [performSql, failing]) good excuses
  intro environment quiet
  simp only [performSql, quiet, begun, Bool.false_eq_true, if_false]
  exact ⟨goodNext, returned⟩

theorem meets_rollback {returns : Unit → SqlWorld Schema → Prop} (good : Good world.committed)
    (excuses : Excuses calm raises world) (begun : world.working.isSome)
    (returned : returns () { world with working := none }) :
    (sql .rollback).Meets performSql (sqlTerms calm Good raises) returns world := by
  apply meets_sql (fun environment failing => by simp [performSql, failing]) good excuses
  intro environment quiet
  simp only [performSql, quiet, Option.isNone_eq_false_iff.mpr begun, Bool.or_self,
    Bool.false_eq_true, if_false]
  exact ⟨good, returned⟩

/-! ## Connections -/

variable {expected : PyError → MigrationStore Schema → Prop}

theorem excuses_ended (good : Good world.committed) :
    Excuses calm (Ended calm Good expected) world :=
  fun _ _ same busy => ⟨same ▸ good, fun isCalm => absurd isCalm busy⟩

theorem meets_readConnection {Value : Type} {body : SqlProgram Schema Value}
    {promised : Value → SqlWorld Schema → Prop} (good : Good world.committed)
    (reads : body.Meets performSql (sqlTerms calm Good (Ended calm Good expected))
      (fun value later => Good later.committed ∧ promised value { later with working := none })
      { world with working := none }) :
    (readConnection body).Meets performSql (sqlTerms calm Good (Ended calm Good expected))
      promised world := by
  refine Program.meets_bind.mpr (meets_connect good (excuses_ended good) ?_)
  rw [Program.meets_ensuring]
  refine reads.weaken (fun raised later ended => ?_) (fun value later returned => ?_)
  · exact meets_close ended.1 ended
  · exact meets_close returned.1 returned.2

theorem meets_ifInTransaction {command : SqlProgram Schema Unit}
    {returns : Unit → SqlWorld Schema → Prop} (good : Good world.committed)
    (begun : world.working.isSome → command.Meets performSql (sqlTerms calm Good raises) returns world)
    (idle : world.working = none → returns () world) :
    (ifInTransaction command).Meets performSql (sqlTerms calm Good raises) returns world := by
  refine Program.meets_bind.mpr (meets_inTransaction good ?_)
  cases open' : world.working with
  | none => exact idle open'
  | some next => exact begun (by rw [open']; rfl)

/-- A body that commits on its own, or leaves its transaction to the connection. -/
theorem meets_writeConnection {Value : Type} {body : SqlProgram Schema Value}
    (promised : Value → MigrationStore Schema → Prop) (good : Good world.committed)
    (begun : body.Meets performSql (sqlTerms calm Good (Ended calm Good expected))
      (fun value later => Good later.committed ∧
        match later.working with
        | none => promised value later.committed
        | some next => Good next ∧ promised value next)
      { world with working := some world.committed }) :
    (writeConnection body).Meets performSql (sqlTerms calm Good (Ended calm Good expected))
      (fun value later => Good later.committed ∧ promised value later.committed) world := by
  refine Program.meets_bind.mpr (meets_connect good (excuses_ended good) ?_)
  rw [Program.meets_ensuring, Program.meets_handle]
  have attempt : Program.Meets performSql (sqlTerms calm Good (Ended calm Good expected))
      (fun value later => Good later.committed ∧ promised value later.committed)
      (do
        sql .beginImmediate
        let value ← body
        ifInTransaction (sql .commit)
        return value) { world with working := none } := by
    refine Program.meets_bind.mpr (meets_beginImmediate good (excuses_ended good) rfl ?_)
    refine Program.meets_bind.mpr (begun.mono ?_)
    rintro value later ⟨goodLater, finished⟩
    refine Program.meets_bind.mpr (meets_ifInTransaction goodLater (fun isOpen => ?_) fun idle => ?_)
    · obtain ⟨next, working⟩ := Option.isSome_iff_exists.mp isOpen
      rw [working] at finished
      exact meets_commit goodLater (excuses_ended goodLater) working finished.1 finished
    · rw [idle] at finished
      exact ⟨goodLater, finished⟩
  refine attempt.weaken (fun raised later ended => ?_) (fun value later returned => ?_)
  · refine Program.meets_bind.mpr (meets_ifInTransaction ended.1 (fun isOpen => ?_) fun idle => ?_)
    · refine meets_rollback ended.1 (fun other last same busy => ?_) isOpen ?_
      · -- a failed rollback replaces the exception; closing ends the transaction
        have goodLast : Good last.committed := same ▸ ended.1
        exact meets_close goodLast ⟨goodLast, fun isCalm => absurd isCalm busy⟩
      · exact meets_close ended.1 ended
    · exact meets_close ended.1 ended
  · exact meets_close returned.1 returned

/-! ## The accesses of the runner -/

theorem meets_createTable (good : Good world.committed) (goodTable : Good world.committed.withTable) :
    (writeConnection (sql (.write .createTable))).Meets performSql
      (sqlTerms calm Good (Ended calm Good expected))
      (fun _ later => Good later.committed ∧ later.committed = world.committed.withTable) world := by
  apply meets_writeConnection (fun _ store => store = world.committed.withTable) good
  refine meets_write good (excuses_ended good) rfl (fun clock next executed => ?_)
    fun clock raised executed => ?_
  · cases executed
    exact ⟨good, goodTable, rfl⟩
  · cases executed

theorem meets_readChecksum (good : Good world.committed) (table : world.committed.records.isSome)
    (version : String) :
    (readConnection (sql (.selectChecksum version))).Meets performSql
      (sqlTerms calm Good (Ended calm Good expected))
      (fun applied later => later.committed = world.committed ∧
        applied = world.committed.ledger.digestOf version) world := by
  apply meets_readConnection good
  exact meets_selectChecksum good (excuses_ended good) rfl (selectChecksum_eq table version)
    ⟨good, rfl, rfl⟩

/-- The statements of a script in a transaction. -/
theorem meets_runScript_statements {committed : MigrationStore Schema}
    {returns : Unit → SqlWorld Schema → Prop} (good : Good committed)
    (statements : List (Schema → Option Schema)) (rest : List (SqlCommand Schema))
    {store : MigrationStore Schema}
    (continues : ∀ schema, runStatements statements store.schema = .ok schema →
      (runScript rest).Meets performSql (sqlTerms calm Good (Ended calm Good expected)) returns
        { committed := committed, working := some { store with schema := schema } })
    (stops : ∀ raised, runStatements statements store.schema = .error raised →
      expected raised committed) :
    (runScript (statements.map (fun statement => .write (.change statement)) ++ rest)).Meets
      performSql (sqlTerms calm Good (Ended calm Good expected)) returns
        { committed := committed, working := some store } := by
  induction statements generalizing store with
  | nil => exact continues store.schema rfl
  | cons statement others inductionHypothesis =>
      refine Program.meets_bind.mpr (meets_write good (excuses_ended good) rfl
        (fun clock next executed => ?_) fun clock raised executed => ?_)
      · simp only [SqlWrite.execute] at executed
        cases changed : statement store.schema with
        | none => simp [changed] at executed
        | some schema =>
            simp only [changed, Except.ok.injEq] at executed
            subst executed
            simp only [runStatements, changed] at continues stops
            exact inductionHypothesis continues stops
      · simp only [SqlWrite.execute] at executed
        cases changed : statement store.schema with
        | some schema => simp [changed] at executed
        | none =>
            simp only [changed, Except.error.injEq] at executed
            subst executed
            simp only [runStatements, changed] at stops
            exact fun later same => ⟨same ▸ good, fun _ => same ▸ stops _ rfl⟩

/-- The script of a file and its record, and nothing else, are applied. -/
def Applied (library : MigrationLibrary Schema) (path : PackagedFile)
    (store next : MigrationStore Schema) : Prop :=
  next.records.isSome ∧ ∃ schema, (path.entry library).effect store.ledger.state = .ok schema ∧
    next.ledger = store.ledger.add (path.entry library) schema

/-- The script of a file fails, and nothing is applied. -/
def Fails (library : MigrationLibrary Schema) (path : PackagedFile)
    (store : MigrationStore Schema) (raised : PyError) (next : MigrationStore Schema) : Prop :=
  (path.entry library).effect store.ledger.state = .error raised ∧ next = store

theorem migrationScript_eq (library : MigrationLibrary Schema) (path : PackagedFile) :
    migrationScript library path = .beginImmediate ::
      ((library.statements path.text).map (fun statement => .write (.change statement)) ++
        [.write (.insertRecord path.version (path.checksum library)), .commit]) := rfl

/-- The transaction of one file: its script and its record are committed together,
or neither is. -/
theorem meets_applyScript {library : MigrationLibrary Schema} {path : PackagedFile}
    (good : Good world.committed) (table : world.committed.records.isSome)
    (pending : world.committed.ledger.Pending (path.entry library))
    (applied : ∀ next, Applied library path world.committed next → Good next) :
    (writeConnection (executeScript (migrationScript library path))).Meets performSql
      (sqlTerms calm Good (Ended calm Good (Fails library path world.committed)))
      (fun _ later => Good later.committed ∧ Applied library path world.committed later.committed)
      world := by
  apply meets_writeConnection (fun _ store => Applied library path world.committed store) good
  rw [migrationScript_eq]
  -- `executescript` commits the empty transaction of the connection
  refine Program.meets_bind.mpr (meets_ifInTransaction good (fun _ => ?_) fun idle => ?_)
  · refine meets_commit good (excuses_ended good) rfl good ?_
    refine Program.meets_bind.mpr (meets_beginImmediate good (excuses_ended good) rfl ?_)
    refine meets_runScript_statements good _ _ (fun schema succeeded => ?_) fun raised failed => ?_
    · have inserts := @insertRecord_of_pending Schema { world.committed with schema := schema }
        table path.version pending (path.checksum library)
      refine Program.meets_bind.mpr (meets_write good (excuses_ended good) rfl
        (fun clock next executed => ?_) fun clock raised executed => ?_)
      · obtain ⟨stored, inserted, tableNext, ledger⟩ := inserts clock
        have same : stored = next := Except.ok.inj (inserted.symm.trans executed)
        have isApplied : Applied library path world.committed next :=
          same ▸ ⟨tableNext, schema, succeeded, ledger⟩
        refine Program.meets_bind.mpr (meets_commit good (excuses_ended good) rfl
          (applied next isApplied) ?_)
        exact ⟨applied next isApplied, isApplied⟩
      · obtain ⟨_, inserted, _⟩ := inserts clock
        cases inserted.symm.trans executed
    · exact ⟨failed, rfl⟩
  · cases idle

/-! ## The pass -/

/-- The committed databases that a pass goes through are good. -/
structure PassKeeps (library : MigrationLibrary Schema) (paths : List PackagedFile)
    (Good : MigrationStore Schema → Prop) : Prop where
  table : ∀ store, Good store → Good store.withTable
  applied : ∀ before path rest store next, paths = before ++ path :: rest → Good store →
    (∀ earlier ∈ before, store.ledger.Matches (earlier.entry library)) →
      store.ledger.Pending (path.entry library) → Applied library path store next → Good next

def entries (library : MigrationLibrary Schema) (paths : List PackagedFile) :
    List (LedgerEntry String String Schema PyError) :=
  paths.map (PackagedFile.entry library)

theorem entries_append (library : MigrationLibrary Schema) (paths others : List PackagedFile) :
    entries library (paths ++ others) = entries library paths ++ entries library others :=
  List.map_append

theorem entries_keys (library : MigrationLibrary Schema) (paths : List PackagedFile) :
    (entries library paths).map LedgerEntry.key = paths.map PackagedFile.version := by
  rw [entries, List.map_map]
  rfl

/-- The records of files. -/
def recordsOf (library : MigrationLibrary Schema) (paths : List PackagedFile) :
    List (String × String) :=
  paths.map fun path => (path.version, path.checksum library)

theorem entries_record (library : MigrationLibrary Schema) (paths : List PackagedFile) :
    (entries library paths).map LedgerEntry.record = recordsOf library paths := by
  rw [entries, List.map_map]
  rfl

/-- The loop from a point where the files before it are recorded. -/
theorem meets_applyPaths {library : MigrationLibrary Schema} {paths : List PackagedFile}
    (keeps : PassKeeps library paths Good) (before rest : List PackagedFile)
    (split : paths = before ++ rest) (good : Good world.committed)
    (table : world.committed.records.isSome)
    (recorded : ∀ earlier ∈ before, world.committed.ledger.Matches (earlier.entry library)) :
    (applyPaths library
        (fun version => readConnection (sql (.selectChecksum version)))
        (fun path => writeConnection (executeScript (migrationScript library path))) rest).Meets
      performSql
      (sqlTerms calm Good (Ended calm Good fun raised store =>
        Ledger.pass (entries library rest) world.committed.ledger = (.error raised, store.ledger)))
      (fun _ later => Good later.committed ∧
        Ledger.pass (entries library rest) world.committed.ledger =
          (.ok (), later.committed.ledger)) world := by
  induction rest generalizing before world with
  | nil => exact ⟨good, rfl⟩
  | cons path others inductionHypothesis =>
      have splitNext : paths = (before ++ [path]) ++ others := by simp [split]
      have next : entries library (path :: others) =
          path.entry library :: entries library others := rfl
      refine Program.meets_bind.mpr ((meets_readChecksum good table path.version).mono ?_)
      rintro applied later ⟨same, rfl⟩
      rw [← same] at good table recorded ⊢
      rcases Ledger.matches_pending_or_differs later.committed.ledger (path.entry library)
        with isRecorded | pending | differs
      · have found : later.committed.ledger.digestOf path.version = some (path.checksum library) :=
          isRecorded
        rw [next, Ledger.pass_cons_of_matches isRecorded]
        simp only [found, ne_eq, not_true_eq_false, if_false]
        refine inductionHypothesis (before ++ [path]) splitNext good table fun earlier member => ?_
        rcases List.mem_append.mp member with old | isPath
        · exact recorded earlier old
        · rw [List.mem_singleton.mp isPath]
          exact isRecorded
      · have found : later.committed.ledger.digestOf path.version = none := pending
        simp only [found]
        have step := @meets_applyScript Schema calm Good later library path good table pending
          fun store isApplied => keeps.applied before path others later.committed store split good
            recorded pending isApplied
        refine Program.meets_bind.mpr (step.weaken ?_ ?_)
        · rintro raised last ⟨goodLast, ended⟩
          refine ⟨goodLast, fun isCalm => ?_⟩
          obtain ⟨failed, unchanged⟩ := ended isCalm
          rw [next, Ledger.pass_cons_of_fails pending failed, unchanged]
        · rintro _ last ⟨goodLast, tableLast, schema, succeeded, ledger⟩
          rw [next, Ledger.pass_cons_of_applies pending succeeded, ← ledger]
          refine inductionHypothesis (before ++ [path]) splitNext goodLast tableLast
            fun earlier member => ?_
          rw [ledger]
          rcases List.mem_append.mp member with old | isPath
          · exact Ledger.retains_add schema _ _ (recorded earlier old)
          · rw [List.mem_singleton.mp isPath]
            exact Ledger.matches_add_self pending schema
      · obtain ⟨checksum, found, other⟩ := differs
        have isFound : later.committed.ledger.digestOf path.version = some checksum := found
        have changed : checksum ≠ path.checksum library := other
        simp only [isFound, if_pos changed]
        refine ⟨good, fun _ => ?_⟩
        rw [next, Ledger.pass_cons_of_differs ⟨checksum, found, other⟩]
        rfl

/-- A whole call from any world: however it ends, the committed database is good;
a calm call makes the pass over the packaged files. -/
theorem meets_applyMigrations {library : MigrationLibrary Schema}
    {directory : List PackagedFile}
    (keeps : PassKeeps library (migrationPaths library directory) Good)
    (good : Good world.committed) :
    (applyMigrations library directory).Meets performSql
      (sqlTerms calm Good (Ended calm Good fun raised store =>
        Ledger.pass (entries library (migrationPaths library directory)) world.committed.ledger =
          (.error raised, store.ledger)))
      (fun _ later => Good later.committed ∧
        Ledger.pass (entries library (migrationPaths library directory)) world.committed.ledger =
          (.ok (), later.committed.ledger)) world := by
  have goodTable := keeps.table world.committed good
  refine Program.meets_bind.mpr ((meets_createTable good goodTable).mono ?_)
  rintro _ later ⟨goodLater, created⟩
  have ledger : world.committed.ledger = later.committed.ledger := by
    rw [created, ledger_withTable]
  rw [ledger]
  refine meets_applyPaths keeps [] _ rfl goodLater ?_ fun _ member => absurd member List.not_mem_nil
  rw [created]
  rfl

/-! ## The first files -/

/-- The database is what a complete pass over the first files makes of a ledger. -/
def AppliedFirst (library : MigrationLibrary Schema) (paths : List PackagedFile)
    (start : Ledger String String Schema) (store : MigrationStore Schema) : Prop :=
  ∃ done rest, paths = done ++ rest ∧
    Ledger.pass (entries library done) start = (.ok (), store.ledger)

section AppliedFirst

variable {library : MigrationLibrary Schema} {paths : List PackagedFile}
  {start : Ledger String String Schema} {store next : MigrationStore Schema}

theorem forall_entries {Holds : LedgerEntry String String Schema PyError → Prop}
    (all : ∀ path ∈ paths, Holds (path.entry library)) :
    ∀ entry ∈ entries library paths, Holds entry := by
  intro entry member
  obtain ⟨path, listed, rfl⟩ := List.mem_map.mp member
  exact all path listed

theorem entries_split (library : MigrationLibrary Schema) (before rest : List PackagedFile)
    (path : PackagedFile) : entries library (before ++ path :: rest) =
      entries library before ++ path.entry library :: entries library rest :=
  List.map_append

/-- The recorded files are exactly the first ones: those before a pending file, when
these are recorded. -/
theorem AppliedFirst.passed_before (applied : AppliedFirst library paths start store)
    {before rest : List PackagedFile} {path : PackagedFile} (split : paths = before ++ path :: rest)
    (recorded : ∀ earlier ∈ before, store.ledger.Matches (earlier.entry library))
    (pending : store.ledger.Pending (path.entry library)) :
    Ledger.pass (entries library before) start = (.ok (), store.ledger) := by
  obtain ⟨done, others, same, passed⟩ := applied
  rcases List.append_eq_append_iff.mp (same.symm.trans split) with
    ⟨extra, isBefore, _⟩ | ⟨extra, isDone, tail⟩
  · have unchanged : ∀ entry ∈ entries library extra, store.ledger.Matches entry :=
      forall_entries fun path member => recorded path
        (isBefore ▸ List.mem_append_right done member)
    rw [isBefore, entries_append]
    exact (Ledger.pass_append_of_ok passed).trans (Ledger.pass_of_matches unchanged)
  · cases extra with
    | nil => simpa [isDone] using passed
    | cons first _ =>
        -- the file would be among the first ones, which are recorded
        have isPath : path = first := (List.cons.inj tail).1
        have listed : path.entry library ∈ entries library done :=
          List.mem_map_of_mem (by simp [isDone, isPath])
        have matched := Ledger.matches_of_pass passed _ listed
        exact absurd (matched.symm.trans pending) (by simp)

theorem AppliedFirst.step (applied : AppliedFirst library paths start store)
    {before rest : List PackagedFile} {path : PackagedFile} (split : paths = before ++ path :: rest)
    (recorded : ∀ earlier ∈ before, store.ledger.Matches (earlier.entry library))
    (pending : store.ledger.Pending (path.entry library))
    (isApplied : Applied library path store next) : AppliedFirst library paths start next := by
  obtain ⟨_, schema, succeeded, ledger⟩ := isApplied
  refine ⟨before ++ [path], rest, by simp [split], ?_⟩
  rw [entries_split]
  refine (Ledger.pass_append_of_ok (applied.passed_before split recorded pending)).trans ?_
  rw [Ledger.pass_cons_of_applies pending succeeded, ledger]
  rfl

theorem appliedFirst_keeps (library : MigrationLibrary Schema) (paths : List PackagedFile)
    (start : Ledger String String Schema) :
    PassKeeps library paths (AppliedFirst library paths start) where
  table store := by
    rintro ⟨done, rest, split, passed⟩
    exact ⟨done, rest, split, by rw [ledger_withTable, passed]⟩
  applied before path rest store next split applied recorded pending isApplied :=
    applied.step split recorded pending isApplied

end AppliedFirst

/-- No statement is made to fail. -/
def Quiet (environments : Nat → SqlEnvironment) : Prop :=
  ∀ index, (environments index).fails = false

/-- An uninterrupted call in which no statement is made to fail refines the pass
over the ledger. -/
theorem execute_applyMigrations (library : MigrationLibrary Schema)
    (directory : List PackagedFile) {environments : Nat → SqlEnvironment}
    (quiet : Quiet environments) (world : SqlWorld Schema) :
    let outcome := (applyMigrations library directory).execute performSql environments world
    (outcome.1, outcome.2.committed.ledger) =
      Ledger.pass (entries library (migrationPaths library directory)) world.committed.ledger := by
  have keeps : PassKeeps library (migrationPaths library directory) fun _ => True :=
    ⟨fun _ _ => trivial, fun _ _ _ _ _ _ _ _ _ _ => trivial⟩
  have meets := @meets_applyMigrations Schema True (fun _ => True) world library directory keeps
    trivial
  have ended := meets.execute (Program.permitted_of_forall fun index _ _ _ => quiet index)
  rcases outcome : (applyMigrations library directory).execute performSql environments world
    with ⟨result, later⟩
  rw [outcome] at ended
  cases result with
  | ok value => exact ended.2.symm
  | error raised => exact (ended.2 trivial).symm

end ScraperProject.Database
