import ScraperProject.Database.MigrationSteps
import ScraperProject.Foundation.Session

/-!
Contract: concurrent calls of `apply_migrations`, transaction by transaction.

Owns what one transaction makes of a database, the refinement of a single call to
the pass over the ledger, the condition that an applying transaction finds its
version still unrecorded, and the proof that under it every call returns and each
script is applied once, whatever the interleaving. A call that breaks the condition
raises, so that a history in which none does meets it.

Does not own crashes inside a transaction: a transaction is one step.
-/

namespace ScraperProject.Database

open Foundation

variable {Schema : Type} {library : MigrationLibrary Schema}

/-! ## One transaction -/

theorem performMigration_createTable (clock : String) (store : MigrationStore Schema) :
    performMigration library clock .createTable store = (.ok (), store.withTable) := rfl

theorem performMigration_readChecksum (clock : String) {store : MigrationStore Schema}
    (table : store.records.isSome) (version : String) :
    performMigration library clock (.readChecksum version) store =
      (.ok (store.ledger.digestOf version), store) := by
  simp only [performMigration, selectChecksum_eq table]

theorem performMigration_fails (clock : String) {store : MigrationStore Schema}
    {path : PackagedFile} {raised : PyError}
    (failed : (path.entry library).effect store.ledger.state = .error raised) :
    performMigration library clock (.applyScript path) store = (.error raised, store) := by
  have statements : runStatements (library.statements path.text) store.schema = .error raised :=
    failed
  simp only [performMigration, statements]

theorem performMigration_applies (clock : String) {store : MigrationStore Schema}
    (table : store.records.isSome) {path : PackagedFile} {schema : Schema}
    (pending : store.ledger.Pending (path.entry library))
    (succeeded : (path.entry library).effect store.ledger.state = .ok schema) :
    ∃ next, performMigration library clock (.applyScript path) store = (.ok (), next) ∧
      Applied library path store next := by
  have statements : runStatements (library.statements path.text) store.schema = .ok schema :=
    succeeded
  obtain ⟨next, inserted, tableNext, ledger⟩ :=
    @insertRecord_of_pending Schema { store with schema := schema } table path.version pending
      (path.checksum library) clock
  refine ⟨next, ?_, tableNext, schema, succeeded, ledger⟩
  simp only [performMigration, statements, inserted]

/-- The applying transaction of a recorded version raises and changes nothing. -/
theorem performMigration_of_recorded (clock : String) {store : MigrationStore Schema}
    {path : PackagedFile} (recorded : ¬ store.ledger.Pending (path.entry library)) :
    ∃ raised, performMigration library clock (.applyScript path) store = (.error raised, store) := by
  cases statements : runStatements (library.statements path.text) store.schema with
  | error raised => exact ⟨raised, performMigration_fails clock statements⟩
  | ok schema =>
      obtain ⟨checksum, present⟩ := Option.ne_none_iff_exists'.mp recorded
      have refused := @insertRecord_of_recorded Schema { store with schema := schema }
        path.version checksum present (path.checksum library) clock
      refine ⟨.integrityError .unique, ?_⟩
      simp only [performMigration, statements, refused]

/-! ## A single call -/

/-- A single call raises as a pass over the ledger does. -/
def passTerms (passed : Except PyError Unit × Ledger String String Schema) :
    Program.Terms MigrationCommand PyError (MigrationStore Schema) String where
  permits _ _ _ := True
  guard _ _ := True
  raises raised store := passed = (.error raised, store.ledger)

theorem meets_applyPathsByTransaction (paths : List PackagedFile) {store : MigrationStore Schema}
    (table : store.records.isSome) :
    (applyPaths library (fun version => transact (.readChecksum version))
        (fun path => transact (.applyScript path)) paths).Meets (performMigration library)
      (passTerms (Ledger.pass (entries library paths) store.ledger))
      (fun _ later => Ledger.pass (entries library paths) store.ledger = (.ok (), later.ledger))
      store := by
  induction paths generalizing store with
  | nil => exact rfl
  | cons path others inductionHypothesis =>
      have next : entries library (path :: others) =
          path.entry library :: entries library others := rfl
      refine Program.meets_bind.mpr ⟨trivial, fun clock _ => ?_⟩
      rw [performMigration_readChecksum clock table]
      rcases Ledger.matches_pending_or_differs store.ledger (path.entry library)
        with isRecorded | pending | ⟨checksum, found, other⟩
      · have isFound : store.ledger.digestOf path.version = some (path.checksum library) :=
          isRecorded
        rw [next, Ledger.pass_cons_of_matches isRecorded]
        simp only [Program.Meets, isFound, ne_eq, not_true_eq_false, if_false]
        exact inductionHypothesis table
      · have isFound : store.ledger.digestOf path.version = none := pending
        simp only [Program.Meets, isFound]
        refine Program.meets_bind.mpr ⟨trivial, fun clock _ => ?_⟩
        cases outcome : (path.entry library).effect store.ledger.state with
        | error raised =>
            rw [next, Ledger.pass_cons_of_fails pending outcome,
              performMigration_fails clock outcome]
            exact rfl
        | ok schema =>
            obtain ⟨later, performed, isApplied⟩ :=
              performMigration_applies clock table pending outcome
            obtain ⟨tableLater, _, succeeded, ledger⟩ := isApplied
            rw [next, Ledger.pass_cons_of_applies pending succeeded, ← ledger, performed]
            exact inductionHypothesis tableLater
      · have isFound : store.ledger.digestOf path.version = some checksum := found
        have changed : checksum ≠ path.checksum library := other
        simp only [Program.Meets, isFound, if_pos changed]
        rw [next, Ledger.pass_cons_of_differs ⟨checksum, found, other⟩]
        exact rfl

/-- A single call refines the pass over the ledger. -/
theorem execute_applyMigrationsByTransaction (library : MigrationLibrary Schema)
    (directory : List PackagedFile) (clocks : Nat → String) (store : MigrationStore Schema) :
    let outcome := (applyMigrationsByTransaction library directory).execute
      (performMigration library) clocks store
    (outcome.1, outcome.2.ledger) =
      Ledger.pass (entries library (migrationPaths library directory)) store.ledger := by
  have walk := @meets_applyPathsByTransaction Schema library (migrationPaths library directory)
    store.withTable rfl
  rw [ledger_withTable] at walk
  have meets : (applyMigrationsByTransaction library directory).Meets (performMigration library)
      (passTerms (Ledger.pass (entries library (migrationPaths library directory)) store.ledger))
      (fun _ later => Ledger.pass (entries library (migrationPaths library directory))
        store.ledger = (.ok (), later.ledger)) store :=
    Program.meets_bind.mpr ⟨trivial, fun _ _ => walk⟩
  have ended := @Program.Meets.execute _ _ _ _ _ _ (performMigration library) _ _ store clocks _
    meets (Program.permitted_of_forall fun _ _ _ => trivial)
  rcases outcome : (applyMigrationsByTransaction library directory).execute
    (performMigration library) clocks store with ⟨result, later⟩
  rw [outcome] at ended
  cases result with
  | ok value => exact ended.symm
  | error raised => exact ended.symm

/-! ## Calls that rely on each other -/

/-- Records stay, and so does their table. -/
def KeepsRecords (store later : MigrationStore Schema) : Prop :=
  store.ledger.Retains later.ledger ∧ (store.records.isSome → later.records.isSome)

theorem KeepsRecords.refl (store : MigrationStore Schema) : KeepsRecords store store :=
  ⟨.refl _, id⟩

theorem KeepsRecords.trans (first second third : MigrationStore Schema)
    (left : KeepsRecords first second) (right : KeepsRecords second third) :
    KeepsRecords first third :=
  ⟨left.1.trans right.1, right.2 ∘ left.2⟩

theorem keepsRecords_withTable (store : MigrationStore Schema) :
    KeepsRecords store store.withTable :=
  ⟨by rw [ledger_withTable]; exact .refl _, fun _ => rfl⟩

theorem keepsRecords_of_applied {path : PackagedFile} {store next : MigrationStore Schema}
    (isApplied : Applied library path store next) : KeepsRecords store next := by
  obtain ⟨table, schema, _, ledger⟩ := isApplied
  exact ⟨by rw [ledger]; exact Ledger.retains_add schema, fun _ => table⟩

/-- The applying transaction finds its version unrecorded. -/
def FindsPending (library : MigrationLibrary Schema) (_ : String) (command : MigrationCommand)
    (store : MigrationStore Schema) : Prop :=
  ∀ path, command = .applyScript path → store.ledger.Pending (path.entry library)

section Walk

variable {paths : List PackagedFile} {start final : Ledger String String Schema}
  (complete : Ledger.pass (entries library paths) start = (.ok (), final))

include complete

/-- From the recorded first files a pass over all of them goes on to the same end. -/
theorem AppliedFirst.pass_rest {store : MigrationStore Schema}
    (applied : AppliedFirst library paths start store) :
    Ledger.pass (entries library paths) store.ledger = (.ok (), final) := by
  obtain ⟨done, rest, split, passed⟩ := applied
  rw [split, entries_append] at complete ⊢
  have recorded := Ledger.pass_of_matches (Ledger.matches_of_pass passed)
  rw [Ledger.pass_append_of_ok recorded]
  exact (Ledger.pass_append_of_ok passed).symm.trans complete

/-- A recorded file is recorded as packaged. -/
theorem AppliedFirst.matches {store : MigrationStore Schema}
    (applied : AppliedFirst library paths start store) {path : PackagedFile} (member : path ∈ paths)
    {checksum : String} (found : store.ledger.digestOf path.version = some checksum) :
    checksum = path.checksum library := by
  have rest := applied.pass_rest complete
  have kept := Ledger.retains_of_pass rest _ _ found
  have matched := Ledger.matches_of_pass rest _ (List.mem_map_of_mem member)
  exact Option.some.inj (kept.symm.trans matched)

/-- A pending file after recorded ones can be applied. -/
theorem AppliedFirst.effect {store : MigrationStore Schema}
    (applied : AppliedFirst library paths start store) {before rest : List PackagedFile}
    {path : PackagedFile} (split : paths = before ++ path :: rest)
    (recorded : ∀ earlier ∈ before, store.ledger.Matches (earlier.entry library))
    (pending : store.ledger.Pending (path.entry library)) :
    ∃ schema, (path.entry library).effect store.ledger.state = .ok schema := by
  have remaining := applied.pass_rest complete
  rw [split, entries_split,
    Ledger.pass_append_of_ok (Ledger.pass_of_matches (forall_entries recorded))] at remaining
  cases outcome : (path.entry library).effect store.ledger.state with
  | ok schema => exact ⟨schema, rfl⟩
  | error raised =>
      rw [Ledger.pass_cons_of_fails pending outcome] at remaining
      cases remaining

/-- The files before a point of the loop are recorded, whatever the others do. -/
def Behind (library : MigrationLibrary Schema) (before : List PackagedFile)
    (store : MigrationStore Schema) : Prop :=
  store.records.isSome ∧ ∀ earlier ∈ before, store.ledger.Matches (earlier.entry library)

omit complete in
theorem Behind.later {before : List PackagedFile} {store later : MigrationStore Schema}
    (behind : Behind library before store) (keeps : KeepsRecords store later) :
    Behind library before later :=
  ⟨keeps.2 behind.1, fun earlier member => keeps.1 _ _ (behind.2 earlier member)⟩

omit complete in
theorem Behind.snoc {before : List PackagedFile} {store : MigrationStore Schema}
    {path : PackagedFile} (behind : Behind library before store)
    (recorded : store.ledger.Matches (path.entry library)) :
    Behind library (before ++ [path]) store := by
  refine ⟨behind.1, fun earlier member => ?_⟩
  rcases List.mem_append.mp member with old | isPath
  · exact behind.2 earlier old
  · rw [List.mem_singleton.mp isPath]
    exact recorded

/-- The loop of one call among others. -/
theorem endures_applyPaths (before rest : List PackagedFile) (split : paths = before ++ rest)
    {store : MigrationStore Schema} (applied : AppliedFirst library paths start store)
    (behind : Behind library before store) :
    (applyPaths library (fun version => transact (.readChecksum version))
        (fun path => transact (.applyScript path)) rest).Endures (performMigration library)
      (FindsPending library) (AppliedFirst library paths start) KeepsRecords
      (fun _ later => later.ledger = final) store := by
  induction rest generalizing before store with
  | nil =>
      intro later keeps appliedLater
      have all : paths = before := by simpa using split
      have remaining := appliedLater.pass_rest complete
      rw [Ledger.pass_of_matches (forall_entries (all ▸ (behind.later keeps).2))] at remaining
      exact (Prod.mk.inj remaining).2
  | cons path others inductionHypothesis =>
      have splitNext : paths = (before ++ [path]) ++ others := by simp [split]
      have member : path ∈ paths := by simp [split]
      refine Program.endures_bind (fun found later => Behind library before later ∧
        ∀ checksum, found = some checksum →
          later.ledger.digestOf path.version = some checksum) ?_ applied KeepsRecords.refl ?_
      · refine Program.endures_call fun later keeps appliedLater clock _ => ?_
        have behindLater := behind.later keeps
        rw [performMigration_readChecksum clock behindLater.1]
        exact ⟨_, rfl, appliedLater, .refl later, fun last keepsLast _ =>
          ⟨behindLater.later keepsLast, fun checksum found => keepsLast.1 _ _ found⟩⟩
      · rintro found later appliedLater ⟨behindLater, isFound⟩
        cases found with
        | some checksum =>
            have same := appliedLater.matches complete member (isFound checksum rfl)
            subst same
            simp only [ne_eq, not_true_eq_false, if_false]
            exact inductionHypothesis (before ++ [path]) splitNext appliedLater
              (behindLater.snoc (isFound _ rfl))
        | none =>
            refine Program.endures_bind (fun _ last => Behind library (before ++ [path]) last)
              ?_ appliedLater KeepsRecords.refl fun _ last appliedLast behindLast =>
                inductionHypothesis (before ++ [path]) splitNext appliedLast behindLast
            refine Program.endures_call fun middle keeps appliedMiddle clock permitted => ?_
            have behindMiddle := behindLater.later keeps
            have pending := permitted path rfl
            obtain ⟨schema, succeeded⟩ :=
              appliedMiddle.effect complete split behindMiddle.2 pending
            obtain ⟨next, performed, isApplied⟩ :=
              performMigration_applies clock behindMiddle.1 pending succeeded
            have keepsNext := keepsRecords_of_applied isApplied
            have matchedNext : next.ledger.Matches (path.entry library) := by
              obtain ⟨_, made, _, ledger⟩ := isApplied
              rw [ledger]
              exact Ledger.matches_add_self pending made
            rw [performed]
            exact ⟨(), rfl, appliedMiddle.step split behindMiddle.2 pending isApplied, keepsNext,
              fun last keepsLast _ =>
                ((behindMiddle.later keepsNext).snoc matchedNext).later keepsLast⟩

/-- A whole call among others. -/
theorem endures_applyMigrations {directory : List PackagedFile}
    (packaged : paths = migrationPaths library directory) {store : MigrationStore Schema}
    (applied : AppliedFirst library paths start store) :
    (applyMigrationsByTransaction library directory).Endures (performMigration library)
      (FindsPending library) (AppliedFirst library paths start) KeepsRecords
      (fun _ later => later.ledger = final) store := by
  refine Program.endures_bind (fun _ later => Behind library [] later) ?_ applied
    KeepsRecords.refl fun _ later appliedLater behind => ?_
  · refine Program.endures_call fun later _ appliedLater clock _ => ?_
    rw [performMigration_createTable]
    refine ⟨(), rfl, (appliedFirst_keeps library paths start).table later appliedLater,
      keepsRecords_withTable later, fun last keepsLast _ => ?_⟩
    exact ⟨keepsLast.2 rfl, fun _ member => absurd member List.not_mem_nil⟩
  · rw [← packaged]
    exact endures_applyPaths complete [] paths rfl appliedLater behind

end Walk

/-! ## Histories -/

section Histories

variable {Process : Type} [DecidableEq Process]

abbrev MigrationPool (Process Schema : Type) : Type :=
  Pool Process (MigrationStore Schema) Unit MigrationCommand MigrationReply PyError Unit

/-- Calls by any processes on one database, a transaction at a time. -/
def afterRace (library : MigrationLibrary Schema) (directory : List PackagedFile)
    (start : MigrationStore Schema) (moves : List (Move Process Unit String)) :
    MigrationPool Process Schema :=
  History.after (Pool.move (fun _ : Unit => applyMigrationsByTransaction library directory)
    (performMigration library)) (Pool.idle start) moves

/-- In every step, an applying transaction finds its version unrecorded. -/
def NeverApplyTwice (library : MigrationLibrary Schema) (directory : List PackagedFile)
    (start : MigrationStore Schema) (moves : List (Move Process Unit String)) : Prop :=
  Pool.MovesMeet (fun _ : Unit => applyMigrationsByTransaction library directory)
    (performMigration library) (fun _ => True)
    (fun _ clock command store => FindsPending library clock command store) (Pool.idle start) moves

/-- The files are recorded. Those that were not are applied and recorded, each version
once and in order, and nothing else is. -/
def AppliedOnce (library : MigrationLibrary Schema) (start : MigrationStore Schema)
    (paths : List PackagedFile) (store : MigrationStore Schema) : Prop :=
  (∀ path ∈ paths, store.ledger.Matches (path.entry library)) ∧
    ∃ applied : List PackagedFile, applied.Sublist paths ∧
      (applied.map PackagedFile.version).Nodup ∧
        (∀ path ∈ applied, start.ledger.Pending (path.entry library)) ∧
          store.ledger.records = start.ledger.records ++ recordsOf library applied ∧
            Ledger.effects (entries library applied) start.schema = .ok store.schema

theorem appliedOnce_of_pass {paths : List PackagedFile} {start store : MigrationStore Schema}
    (passed : Ledger.pass (entries library paths) start.ledger = (.ok (), store.ledger)) :
    AppliedOnce library start paths store := by
  refine ⟨fun path member => Ledger.matches_of_pass passed _ (List.mem_map_of_mem member), ?_⟩
  obtain ⟨applied, sublist, distinct, pending, records, effects⟩ := Ledger.applied_of_pass passed
  obtain ⟨files, sublistFiles, rfl⟩ := List.sublist_map_iff.mp sublist
  rw [show files.map _ = entries library files from rfl, entries_keys] at distinct
  rw [show files.map _ = entries library files from rfl, entries_record] at records
  exact ⟨files, sublistFiles, distinct, fun path member => pending _ (List.mem_map_of_mem member),
    records, effects⟩

/-- Two calls on a new database that both read before either applies. -/
def racingMoves : List (Move Bool Unit String) :=
  [.start false (), .start true (), .step false "", .step true "", .step false "", .step true "",
    .step false "2026-07-20T10:00:00.000Z", .step true "2026-07-20T10:00:00.001Z"]

theorem migrationPaths_runs :
    migrationPaths sampleMigrations [runsScript] = [runsScript] := by
  apply List.mergeSort_of_pairwise
  decide

/-- The second of two racing calls raises, where a single call returns. -/
theorem racing_call_raises :
    ((applyMigrationsByTransaction sampleMigrations [runsScript]).execute
        (performMigration sampleMigrations) (fun _ => "") (.unmigrated [])).1 = .ok () ∧
      ∃ session, (afterRace sampleMigrations [runsScript] (.unmigrated []) racingMoves).sessions
          true = some session ∧ session.rest = .raised (.integrityError .unique) := by
  simp only [afterRace, applyMigrationsByTransaction, applyMigrationsWith, migrationPaths_runs]
  exact ⟨rfl, _, rfl, rfl⟩

/-- Concurrent start-up under the condition: no call raises, the files are applied
once each in order, and when a call has returned all of them are. -/
theorem concurrent_start_up (library : MigrationLibrary Schema) (directory : List PackagedFile)
    (start : MigrationStore Schema)
    (returns : ∃ clocks, ((applyMigrationsByTransaction library directory).execute
      (performMigration library) clocks start).1 = .ok ())
    (moves : List (Move Process Unit String))
    (meets : NeverApplyTwice library directory start moves) :
    let paths := migrationPaths library directory
    let pool := afterRace library directory start moves
    (∀ process session, pool.sessions process = some session →
        ∀ raised, session.rest ≠ .raised raised) ∧
      (∃ done rest, paths = done ++ rest ∧ AppliedOnce library start done pool.world) ∧
      ∀ process session, pool.sessions process = some session → session.rest = .done () →
        AppliedOnce library start paths pool.world := by
  intro paths pool
  obtain ⟨clocks, returned⟩ := returns
  have executed := execute_applyMigrationsByTransaction library directory clocks start
  rcases passed : Ledger.pass (entries library paths) start.ledger with ⟨result, final⟩
  rw [passed] at executed
  obtain ⟨same, _⟩ := Prod.mk.inj executed
  have complete : Ledger.pass (entries library paths) start.ledger = (.ok (), final) := by
    rw [passed, ← same, returned]
  have initial : AppliedFirst library paths start.ledger start := ⟨[], paths, rfl, rfl⟩
  have idle : Pool.Enduring (performMigration library) (FindsPending library)
      (AppliedFirst library paths start.ledger) KeepsRecords
      (fun (_ : Unit) later => later.ledger = final)
      (Pool.idle start : MigrationPool Process Schema) := Pool.enduring_idle initial
  obtain ⟨applied, sessions⟩ := History.along_invariant _
    (fun next pool meets enduring => Pool.enduring_move KeepsRecords.refl KeepsRecords.trans
      (fun _ store _ appliedStore => endures_applyMigrations complete rfl appliedStore)
      (fun _ _ _ _ holds => holds) next pool meets enduring) idle meets
  refine ⟨fun process session current raised ended => ?_, ?_, fun process session current ended => ?_⟩
  · have endures := sessions process session current
    rw [ended] at endures
    exact endures
  · obtain ⟨done, rest, split, first⟩ := applied
    exact ⟨done, rest, split, appliedOnce_of_pass first⟩
  · have endures := sessions process session current
    rw [ended] at endures
    have finished : pool.world.ledger = final := endures pool.world (.refl _) applied
    apply appliedOnce_of_pass
    rw [finished, complete]

/-! ## The condition is met where no call raises -/

theorem propagates_applyPaths (paths : List PackagedFile) :
    (applyPaths library (fun version => transact (.readChecksum version))
      (fun path => transact (.applyScript path)) paths).Propagates := by
  induction paths with
  | nil => trivial
  | cons path rest inductionHypothesis =>
      refine (Program.propagates_call _).bind fun applied => ?_
      split
      · split
        · trivial
        · exact inductionHypothesis
      · exact (Program.propagates_call _).bind fun _ => inductionHypothesis

theorem propagates_afterRace {directory : List PackagedFile} {start : MigrationStore Schema}
    (moves : List (Move Process Unit String)) :
    ∀ process session, (afterRace library directory start moves).sessions process = some session →
      session.rest.Propagates := by
  refine @History.after_invariant _ _ _ _
    (fun pool : MigrationPool Process Schema => ∀ process session,
      pool.sessions process = some session → session.rest.Propagates) ?_ _ ?_ moves
  · refine fun next pool => Pool.propagates_move (fun _ => ?_) next pool
    exact (Program.propagates_call _).bind fun _ => propagates_applyPaths _
  · intro process session found
    cases found

/-- A call that applies a recorded version raises, and changes nothing. -/
theorem recorded_version_raises {directory : List PackagedFile} {start : MigrationStore Schema}
    {moves : List (Move Process Unit String)} {process : Process}
    {session : Session Unit MigrationCommand MigrationReply PyError Unit} {path : PackagedFile}
    {next : Except PyError Unit → MigrationProgram Unit}
    (current : (afterRace library directory start moves).sessions process = some session)
    (remaining : session.rest = .issue (.applyScript path) next)
    (recorded : ¬ (afterRace library directory start moves).world.ledger.Pending
      (path.entry library)) (clock : String) :
    (afterRace library directory start (moves ++ [.step process clock])).world =
        (afterRace library directory start moves).world ∧
      ∃ ended raised, (afterRace library directory start
          (moves ++ [.step process clock])).sessions process = some ended ∧
        ended.rest = .raised raised := by
  have propagates := propagates_afterRace moves process session current
  rw [remaining] at propagates
  obtain ⟨raised, refused⟩ := performMigration_of_recorded clock recorded
  have step : afterRace library directory start (moves ++ [.step process clock]) =
      (Pool.move (fun _ : Unit => applyMigrationsByTransaction library directory)
        (performMigration library) (.step process clock)
        (afterRace library directory start moves)).2 := History.after_snoc _ _ _ _
  rw [step]
  simp only [Pool.move, current, remaining, refused]
  exact ⟨trivial, _, raised, Pool.withSession_self _ _ _, propagates.1 raised⟩

/-- A history in which no call ever raises applies no version twice. -/
theorem neverApplyTwice_of_no_raise {directory : List PackagedFile} {start : MigrationStore Schema}
    {moves : List (Move Process Unit String)}
    (quiet : ∀ earlier later, moves = earlier ++ later → ∀ process session,
      (afterRace library directory start earlier).sessions process = some session →
        ∀ raised, session.rest ≠ .raised raised) :
    NeverApplyTwice library directory start moves := by
  refine (History.along_iff_forall _).mpr fun earlier move later split => ?_
  cases move with
  | start process call => trivial
  | stop process => trivial
  | step process clock =>
      intro session current command next remaining
      rintro path rfl
      by_contra recorded
      obtain ⟨_, ended, raised, found, isRaised⟩ :=
        recorded_version_raises current remaining recorded clock
      have same : moves = (earlier ++ [.step process clock]) ++ later := by simp [split]
      exact quiet _ _ same process ended found raised isRaised

/-- Two calls of which one reads after the other has applied. -/
def orderedMoves : List (Move Bool Unit String) :=
  [.start false (), .start true (), .step false "", .step true "", .step false "",
    .step false "2026-07-20T10:00:00.000Z", .step true ""]

/-- The condition of one step, evaluated. -/
def findsPendingCheck (_ : Session Unit MigrationCommand MigrationReply PyError Unit) (_ : String)
    (command : MigrationCommand) (store : MigrationStore Schema) : Bool :=
  match command with
  | .applyScript path => (store.ledger.digestOf path.version).isNone
  | _ => true

theorem findsPending_of_check
    (session : Session Unit MigrationCommand MigrationReply PyError Unit) (clock : String)
    (command : MigrationCommand) (store : MigrationStore Schema)
    (checked : findsPendingCheck session clock command store = true) :
    FindsPending library clock command store := by
  rintro path rfl
  exact Option.isNone_iff_eq_none.mp checked

theorem concurrent_start_up_of_ordered_calls :
    AppliedOnce sampleMigrations (.unmigrated []) (migrationPaths sampleMigrations [runsScript])
      (afterRace sampleMigrations [runsScript] (.unmigrated []) orderedMoves).world := by
  have returns : ((applyMigrationsByTransaction sampleMigrations [runsScript]).execute
      (performMigration sampleMigrations) (fun _ => "") (.unmigrated [])).1 = .ok () := by
    simp only [applyMigrationsByTransaction, applyMigrationsWith, migrationPaths_runs]
    rfl
  have meets : NeverApplyTwice sampleMigrations [runsScript] (.unmigrated []) orderedMoves := by
    apply History.along_of_allAlong _ (Pool.moveMeets_of_moveChecks findsPending_of_check)
    simp only [applyMigrationsByTransaction, applyMigrationsWith, migrationPaths_runs]
    rfl
  have finished : ∃ session, (afterRace sampleMigrations [runsScript] (.unmigrated [])
      orderedMoves).sessions false = some session ∧ session.rest = .done () := by
    simp only [afterRace, applyMigrationsByTransaction, applyMigrationsWith, migrationPaths_runs]
    exact ⟨_, rfl, rfl⟩
  obtain ⟨session, current, ended⟩ := finished
  exact (concurrent_start_up sampleMigrations [runsScript] (.unmigrated []) ⟨_, returns⟩
    orderedMoves meets).2.2 false session current ended

end Histories

end ScraperProject.Database
