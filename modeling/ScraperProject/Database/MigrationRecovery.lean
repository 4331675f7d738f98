import ScraperProject.Database.MigrationSteps
import ScraperProject.Foundation.Session

/-!
Contract: `apply_migrations` under crashes and failing statements.

Owns the histories of calls on one database, each of which may be cut off or made
to fail at any statement, the invariant that the database is the effect of the
first scripts, and what a further call makes of such a database.

Does not own concurrent calls.
-/

namespace ScraperProject.Database

open Foundation

variable {Schema : Type}

/-- Calls, their statements and cut-offs, one call at a time. -/
abbrev MigrationMove : Type := Move Unit Unit SqlEnvironment

/-- The world that moves lead to. -/
def afterMigrationMoves (library : MigrationLibrary Schema) (directory : List PackagedFile)
    (start : SqlWorld Schema) (moves : List MigrationMove) : SqlWorld Schema :=
  (History.after (Pool.move (fun _ : Unit => applyMigrations library directory) performSql)
    (Pool.idle start) moves).world

/-! ## Every point of a history -/

/-- No condition on a move is needed. -/
theorem meets_unconditional (pool : Pool Unit (SqlWorld Schema) Unit (SqlCommand Schema) SqlReply
    PyError Unit) (next : MigrationMove) :
    Pool.MoveMeets (fun _ => True) (fun _ _ _ _ => True) pool next := by
  cases next with
  | start process call => trivial
  | stop process => trivial
  | step process environment => exact fun _ _ _ _ _ => trivial

/-- The committed database is good, and stays so whatever the call in progress does. -/
def SoundMigrations (Good : MigrationStore Schema → Prop)
    (pool : Pool Unit (SqlWorld Schema) Unit (SqlCommand Schema) SqlReply PyError Unit) : Prop :=
  Pool.Sound performSql (fun world => Good world.committed)
    (fun _ => sqlTerms False Good fun _ _ => True) (fun _ _ _ => True) pool

theorem afterMigrationMoves_good {library : MigrationLibrary Schema}
    {directory : List PackagedFile} {Good : MigrationStore Schema → Prop}
    (keeps : PassKeeps library (migrationPaths library directory) Good)
    {start : SqlWorld Schema} (good : Good start.committed) (moves : List MigrationMove) :
    Good (afterMigrationMoves library directory start moves).committed := by
  have initial : SoundMigrations Good (Pool.idle start) := Pool.sound_idle good
  have sound := History.after_invariant
    (Pool.move (fun _ : Unit => applyMigrations library directory) performSql)
    (fun next pool sound => ?_) initial moves
  · exact sound.1
  · refine Pool.sound_move (fun _ world _ goodWorld => ?_) ?_ next pool
      (meets_unconditional pool next) sound
    · exact (meets_applyMigrations keeps goodWorld).weaken (fun _ _ _ => trivial)
        fun _ _ _ => trivial
    · intro session environment command world _ _ guarded
      exact ⟨False.elim, guarded environment False.elim⟩

/-! ## Further calls -/

/-- The table exists and lists every packaged file. -/
def FullyMigrated (library : MigrationLibrary Schema) (paths : List PackagedFile)
    (store : MigrationStore Schema) : Prop :=
  store.records.isSome ∧ ∀ path ∈ paths, store.ledger.Matches (path.entry library)

theorem fullyMigrated_keeps {library : MigrationLibrary Schema} {paths : List PackagedFile}
    {full : MigrationStore Schema} (migrated : FullyMigrated library paths full) :
    PassKeeps library paths fun store => store = full where
  table store := by
    rintro rfl
    exact withTable_of_isSome migrated.1
  applied before path rest store next split := by
    rintro rfl _ pending _
    have matched := migrated.2 path (by simp [split])
    exact absurd (matched.symm.trans pending) (by simp)

/-- A further call in which no statement fails ends as an uninterrupted first one. -/
theorem execute_of_appliedFirst {library : MigrationLibrary Schema}
    {directory : List PackagedFile} {blank : Schema} {world : SqlWorld Schema}
    (applied : AppliedFirst library (migrationPaths library directory)
      (MigrationStore.unmigrated blank).ledger world.committed)
    {further single : Nat → SqlEnvironment} (quiet : Quiet further) (quietSingle : Quiet single) :
    let again := (applyMigrations library directory).execute performSql further world
    let once := (applyMigrations library directory).execute performSql single (newDatabase blank)
    again.1 = once.1 ∧ again.2.committed.ledger = once.2.committed.ledger := by
  intro again once
  obtain ⟨done, rest, split, passed⟩ := applied
  have first := execute_applyMigrations library directory quietSingle (newDatabase blank)
  have second := execute_applyMigrations library directory quiet world
  rw [split, entries_append] at first second
  have joined : Ledger.pass (entries library done ++ entries library rest)
      (newDatabase blank).committed.ledger =
        Ledger.pass (entries library done ++ entries library rest) world.committed.ledger := by
    rw [Ledger.pass_append_of_ok (Ledger.pass_of_matches (Ledger.matches_of_pass passed))]
    exact Ledger.pass_append_of_ok passed
  have same := second.trans (joined.symm.trans first.symm)
  exact ⟨(Prod.mk.inj same).1, (Prod.mk.inj same).2⟩

/-- A further call on a fully migrated database returns and changes nothing. -/
theorem execute_of_fullyMigrated {library : MigrationLibrary Schema}
    {directory : List PackagedFile} {world : SqlWorld Schema}
    (migrated : FullyMigrated library (migrationPaths library directory) world.committed)
    {further : Nat → SqlEnvironment} (quiet : Quiet further) :
    let again := (applyMigrations library directory).execute performSql further world
    again.1 = .ok () ∧ again.2.committed = world.committed := by
  have meets := @meets_applyMigrations Schema True (fun store => store = world.committed) world
    library directory (fullyMigrated_keeps migrated) rfl
  have ended := meets.execute (Program.permitted_of_forall fun index _ _ _ => quiet index)
  have matched : ∀ entry ∈ entries library (migrationPaths library directory),
      world.committed.ledger.Matches entry := by
    intro entry member
    obtain ⟨path, listed, rfl⟩ := List.mem_map.mp member
    exact migrated.2 path listed
  rw [Ledger.pass_of_matches matched] at ended
  rcases outcome : (applyMigrations library directory).execute performSql further world
    with ⟨result, later⟩
  rw [outcome] at ended
  cases result with
  | ok value => exact ⟨rfl, ended.1⟩
  | error raised => cases ended.2 trivial

/-- A call on a new database applies scripts whose statements succeed. -/
theorem execute_of_effects {library : MigrationLibrary Schema} {directory : List PackagedFile}
    {blank schema : Schema}
    (distinct : ((migrationPaths library directory).map PackagedFile.version).Nodup)
    (succeeds : Ledger.effects (entries library (migrationPaths library directory)) blank =
      .ok schema) {single : Nat → SqlEnvironment} (quiet : Quiet single) :
    let once := (applyMigrations library directory).execute performSql single (newDatabase blank)
    once.1 = .ok () ∧ once.2.committed.ledger =
      ⟨recordsOf library (migrationPaths library directory), schema⟩ := by
  intro once
  have executed := execute_applyMigrations library directory quiet (newDatabase blank)
  rw [← entries_keys library] at distinct
  rw [@Ledger.pass_of_effects _ _ _ _ _ _ (newDatabase blank).committed.ledger _ distinct
    (fun _ _ => rfl) _ succeeds] at executed
  refine ⟨(Prod.mk.inj executed).1, ((Prod.mk.inj executed).2).trans ?_⟩
  rw [entries_record]
  rfl

/-- Crash safety. After every history of calls on a new database, each cut off or
made to fail anywhere: the schema is the effect of the recorded scripts, which are
the first ones in order; a further call in which no statement is made to fail ends
as an uninterrupted first one, with its schema and records, which are those of all
scripts if their statements succeed; and once all are recorded further calls change
nothing. -/
theorem migrations_crash_safe (library : MigrationLibrary Schema)
    (directory : List PackagedFile) (blank : Schema)
    (distinct : ((migrationPaths library directory).map PackagedFile.version).Nodup)
    (moves : List MigrationMove) :
    let paths := migrationPaths library directory
    let left := afterMigrationMoves library directory (newDatabase blank) moves
    (∃ count, left.committed.ledger.records = recordsOf library (paths.take count) ∧
      Ledger.effects (entries library (paths.take count)) blank = .ok left.committed.schema) ∧
    (∀ further single, Quiet further → Quiet single →
      let again := (applyMigrations library directory).execute performSql further left
      let once := (applyMigrations library directory).execute performSql single (newDatabase blank)
      again.1 = once.1 ∧ again.2.committed.schema = once.2.committed.schema ∧
        again.2.committed.ledger.records = once.2.committed.ledger.records ∧
          ∀ schema, Ledger.effects (entries library paths) blank = .ok schema →
            once.1 = .ok () ∧ once.2.committed.schema = schema ∧
              once.2.committed.ledger.records = recordsOf library paths) ∧
    (FullyMigrated library paths left.committed →
      (∀ later, (afterMigrationMoves library directory left later).committed = left.committed) ∧
        ∀ further, Quiet further →
          let again := (applyMigrations library directory).execute performSql further left
          again.1 = .ok () ∧ again.2.committed = left.committed) := by
  intro paths left
  have initial : AppliedFirst library paths (MigrationStore.unmigrated blank).ledger
      (newDatabase blank).committed := ⟨[], paths, rfl, rfl⟩
  have applied := afterMigrationMoves_good (appliedFirst_keeps library paths _) initial moves
  refine ⟨?_, fun further single quiet quietSingle => ?_, fun migrated => ⟨fun later => ?_,
    fun further quiet => ?_⟩⟩
  · obtain ⟨done, rest, split, passed⟩ := applied
    have first : paths.take done.length = done := by rw [split, List.take_left]
    have distinctDone : ((entries library done).map LedgerEntry.key).Nodup := by
      have whole : (paths.map PackagedFile.version).Nodup := distinct
      rw [split, List.map_append] at whole
      rw [entries_keys]
      exact (List.nodup_append.mp whole).1
    obtain ⟨records, effects⟩ := Ledger.records_of_pass distinctDone passed
    rw [Ledger.pendingOf_of_empty rfl] at records effects
    rw [entries_record] at records
    exact ⟨done.length, by rw [first, records]; rfl, by rw [first]; exact effects⟩
  · obtain ⟨result, ledger⟩ := execute_of_appliedFirst applied quiet quietSingle
    refine ⟨result, congrArg Ledger.state ledger, congrArg Ledger.records ledger,
      fun schema succeeds => ?_⟩
    obtain ⟨returned, made⟩ := execute_of_effects distinct succeeds quietSingle
    exact ⟨returned, congrArg Ledger.state made, congrArg Ledger.records made⟩
  · exact afterMigrationMoves_good (fullyMigrated_keeps migrated) rfl later
  · exact execute_of_fullyMigrated migrated quiet

/-- A call that is cut off inside the transaction of the second script. -/
def cutOffMoves : List MigrationMove :=
  .start () () :: List.replicate 28 (.step () sampleStatement) ++ [.stop ()]

theorem migrations_crash_safe_on_sample :
    let left := afterMigrationMoves sampleMigrations [runsScript, parsersScript] (newDatabase [])
      cutOffMoves
    let again := (applyMigrations sampleMigrations [runsScript, parsersScript]).execute performSql
      (fun _ => sampleStatement) left
    left.committed.schema = ["crawl_runs"] ∧
      again.1 = .ok () ∧ again.2.committed.schema = ["crawl_runs", "parser_runs"] := by
  intro left again
  have distinct : ((migrationPaths sampleMigrations [runsScript, parsersScript]).map
      PackagedFile.version).Nodup := by
    rw [migrationPaths_sample]
    decide
  have succeeds : Ledger.effects (entries sampleMigrations
      (migrationPaths sampleMigrations [runsScript, parsersScript])) [] =
        .ok ["crawl_runs", "parser_runs"] := by
    rw [migrationPaths_sample]
    rfl
  have quiet : Quiet fun _ => sampleStatement := fun _ => rfl
  obtain ⟨_, further, _⟩ := migrations_crash_safe sampleMigrations [runsScript, parsersScript] []
    distinct cutOffMoves
  obtain ⟨result, schema, _, complete⟩ := further _ _ quiet quiet
  obtain ⟨returned, made, _⟩ := complete _ succeeds
  refine ⟨?_, result.trans returned, schema.trans made⟩
  simp only [left, afterMigrationMoves, applyMigrations, applyMigrationsWith, migrationPaths_sample]
  rfl

end ScraperProject.Database
