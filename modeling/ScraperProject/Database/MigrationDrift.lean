import ScraperProject.Database.MigrationSteps

/-!
Contract: changed and missing migrations.

Owns what it means that the packaged files have drifted from the records of a
database, what a refusal of drift is, and the exact condition under which
`apply_migrations` refuses it: it compares only packaged files, and each in its
turn.

Does not own crashes or concurrent calls.
-/

namespace ScraperProject.Database

open Foundation

variable {Schema : Type}

/-- A recorded version has no packaged file, or its packaged content has another
checksum. -/
def Drifted (library : MigrationLibrary Schema) (paths : List PackagedFile)
    (store : MigrationStore Schema) : Prop :=
  ∃ version checksum, store.ledger.digestOf version = some checksum ∧
    ((∀ path ∈ paths, path.version ≠ version) ∨
      ∃ path ∈ paths, path.version = version ∧ path.checksum library ≠ checksum)

def IsMigrationError (raised : PyError) : Prop := ∃ message, raised = .migration message

/-- A call raised `MigrationError` exactly on drift, and then has applied no pending
file. -/
def Refuses (library : MigrationLibrary Schema) (paths : List PackagedFile)
    (store : MigrationStore Schema) (result : Except PyError Unit)
    (next : Ledger String String Schema) : Prop :=
  ((∃ raised, result = .error raised ∧ IsMigrationError raised) ↔ Drifted library paths store) ∧
    ((∃ raised, result = .error raised ∧ IsMigrationError raised) →
      next.state = store.schema ∧ ∀ path ∈ paths, store.ledger.Pending (path.entry library) →
        next.Pending (path.entry library))

/-- `apply_migrations` on a database refuses drift. -/
def RefusesDrift (library : MigrationLibrary Schema) (directory : List PackagedFile)
    (environments : Nat → SqlEnvironment) (world : SqlWorld Schema) : Prop :=
  let outcome := (applyMigrations library directory).execute performSql environments world
  Refuses library (migrationPaths library directory) world.committed outcome.1
    outcome.2.committed.ledger

/-- The first file that is not recorded as packaged is a changed one; or no file is
changed and none is missing. -/
def DriftComesFirst (library : MigrationLibrary Schema) (paths : List PackagedFile)
    (store : MigrationStore Schema) : Prop :=
  (∃ before path rest, paths = before ++ path :: rest ∧
      (∀ earlier ∈ before, store.ledger.Matches (earlier.entry library)) ∧
        store.ledger.Differs (path.entry library)) ∨
    ((∀ path ∈ paths, ¬ store.ledger.Differs (path.entry library)) ∧
      ∀ version checksum, store.ledger.digestOf version = some checksum →
        ∃ path ∈ paths, path.version = version)

theorem runStatements_error {statements : List (Schema → Option Schema)} {schema : Schema}
    {raised : PyError} (failed : runStatements statements schema = .error raised) :
    raised = .operationalError := by
  induction statements generalizing schema with
  | nil => cases failed
  | cons statement rest inductionHypothesis =>
      cases changed : statement schema with
      | none =>
          simp only [runStatements, changed, Except.error.injEq] at failed
          exact failed.symm
      | some next =>
          simp only [runStatements, changed] at failed
          exact inductionHypothesis failed

theorem entries_distinguished (library : MigrationLibrary Schema) (paths : List PackagedFile) :
    Ledger.Distinguished IsMigrationError (entries library paths) := by
  intro entry member
  obtain ⟨path, _, rfl⟩ := List.mem_map.mp member
  refine ⟨⟨_, rfl⟩, fun state failure failed => ?_⟩
  rw [runStatements_error failed]
  rintro ⟨message, impossible⟩
  cases impossible

theorem drifted_of_differs {library : MigrationLibrary Schema} {paths : List PackagedFile}
    {store : MigrationStore Schema} {path : PackagedFile} (member : path ∈ paths)
    (differs : store.ledger.Differs (path.entry library)) : Drifted library paths store := by
  obtain ⟨checksum, found, other⟩ := differs
  exact ⟨path.version, checksum, found, Or.inr ⟨path, member, rfl, fun same => other same.symm⟩⟩

/-- Without a changed file drift is a missing one. -/
theorem drifted_iff_missing {library : MigrationLibrary Schema} {paths : List PackagedFile}
    {store : MigrationStore Schema}
    (unchanged : ∀ path ∈ paths, ¬ store.ledger.Differs (path.entry library)) :
    ¬ Drifted library paths store ↔
      ∀ version checksum, store.ledger.digestOf version = some checksum →
        ∃ path ∈ paths, path.version = version := by
  constructor
  · intro none version checksum found
    by_contra missing
    refine none ⟨version, checksum, found, Or.inl fun path member same => ?_⟩
    exact missing ⟨path, member, same⟩
  · rintro packaged ⟨version, checksum, found, missing | ⟨path, member, rfl, other⟩⟩
    · obtain ⟨path, member, same⟩ := packaged version checksum found
      exact missing path member same
    · exact unchanged path member ⟨checksum, found, fun same => other same.symm⟩

/-- The first file that is not recorded as packaged, if there is one. -/
theorem recorded_or_split (library : MigrationLibrary Schema) (paths : List PackagedFile)
    (store : MigrationStore Schema) :
    (∀ path ∈ paths, store.ledger.Matches (path.entry library)) ∨
      ∃ before path rest, paths = before ++ path :: rest ∧
        (∀ earlier ∈ before, store.ledger.Matches (earlier.entry library)) ∧
          (store.ledger.Pending (path.entry library) ∨
            store.ledger.Differs (path.entry library)) := by
  rcases Ledger.matches_or_split store.ledger (entries library paths) with
    all | ⟨before, entry, rest, split, recorded, unmatched⟩
  · exact Or.inl fun path member => all _ (List.mem_map_of_mem member)
  · obtain ⟨first, others, rfl, rfl, tail⟩ := List.map_eq_append_iff.mp split
    obtain ⟨path, last, rfl, rfl, rfl⟩ := List.map_eq_cons_iff.mp tail
    exact Or.inr ⟨first, path, last, rfl,
      fun earlier member => recorded _ (List.mem_map_of_mem member), unmatched⟩

/-- Drift that comes first is refused. -/
theorem refuses_of_driftComesFirst {library : MigrationLibrary Schema}
    {paths : List PackagedFile} (distinct : (paths.map PackagedFile.version).Nodup)
    {store : MigrationStore Schema} (first : DriftComesFirst library paths store) :
    let passed := Ledger.pass (entries library paths) store.ledger
    Refuses library paths store passed.1 passed.2 := by
  intro passed
  rcases first with ⟨before, path, rest, rfl, recorded, differs⟩ | ⟨unchanged, packaged⟩
  · have stopped : passed = (.error path.changed, store.ledger) := by
      simp only [passed, entries_split]
      exact Ledger.pass_of_differs (forall_entries recorded) differs
    rw [stopped]
    have drifted : Drifted library (before ++ path :: rest) store :=
      drifted_of_differs (List.mem_append_right before List.mem_cons_self) differs
    exact ⟨⟨fun _ => drifted, fun _ => ⟨_, rfl, _, rfl⟩⟩, fun _ => ⟨rfl, fun _ _ pending => pending⟩⟩
  · have silent : ¬ ∃ raised, passed.1 = .error raised ∧ IsMigrationError raised := by
      rintro ⟨raised, failed, isError⟩
      rw [← entries_keys library] at distinct
      exact Ledger.pass_not_drift distinct (entries_distinguished library paths)
        (forall_entries unchanged) failed isError
    have undrifted := (drifted_iff_missing unchanged).mpr packaged
    exact ⟨⟨fun raises => absurd raises silent, fun drifted => absurd drifted undrifted⟩,
      fun raises => absurd raises silent⟩

/-- Only drift that comes first is refused. -/
theorem driftComesFirst_of_refuses {library : MigrationLibrary Schema}
    {paths : List PackagedFile} (distinct : (paths.map PackagedFile.version).Nodup)
    {store : MigrationStore Schema}
    (refuses : Refuses library paths store (Ledger.pass (entries library paths) store.ledger).1
      (Ledger.pass (entries library paths) store.ledger).2) :
    DriftComesFirst library paths store := by
  by_cases unchanged : ∀ path ∈ paths, ¬ store.ledger.Differs (path.entry library)
  · refine Or.inr ⟨unchanged, (drifted_iff_missing unchanged).mp fun drifted => ?_⟩
    obtain ⟨raised, failed, isError⟩ := refuses.1.mpr drifted
    rw [← entries_keys library] at distinct
    exact Ledger.pass_not_drift distinct (entries_distinguished library paths)
      (forall_entries unchanged) failed isError
  · obtain ⟨changed, member, differs⟩ := not_forall₂.mp unchanged
    have isDifferent := not_not.mp differs
    obtain ⟨raised, failed, isError⟩ := refuses.1.mpr (drifted_of_differs member isDifferent)
    rcases recorded_or_split library paths store with
      all | ⟨before, path, rest, rfl, recorded, pending | unmatched⟩
    · exact absurd isDifferent (all changed member).not_differs
    · -- a pending file before the first changed one is applied, or fails otherwise
      have listed : path ∈ before ++ path :: rest := List.mem_append_right before List.mem_cons_self
      have distinguished := entries_distinguished library (before ++ path :: rest)
      rw [entries_split] at failed distinguished refuses
      rcases Ledger.pass_of_pending (forall_entries recorded) pending distinguished with
        applied | ⟨other, failedOtherwise, noError⟩
      · have still := (refuses.2 ⟨raised, failed, isError⟩).2 path listed pending
        exact absurd (applied.symm.trans still) (by simp)
      · rw [failed] at failedOtherwise
        exact absurd (Except.error.inj failedOtherwise ▸ isError) noError
    · exact Or.inl ⟨before, path, rest, rfl, recorded, unmatched⟩

/-- A database on which both sample scripts are applied. -/
def migratedSample : SqlWorld (List String) :=
  ((applyMigrations sampleMigrations [runsScript, parsersScript]).execute performSql
    (fun _ => sampleStatement) (newDatabase [])).2

theorem migratedSample_ledger : migratedSample.committed.ledger =
    ⟨[("0001", runsScript.checksum sampleMigrations),
      ("0002", parsersScript.checksum sampleMigrations)], ["crawl_runs", "parser_runs"]⟩ := by
  simp only [migratedSample, applyMigrations, applyMigrationsWith, migrationPaths_sample]
  rfl

/-- A recorded migration whose file is gone is not noticed. -/
theorem missing_migration_is_accepted :
    ¬ RefusesDrift sampleMigrations [runsScript] (fun _ => sampleStatement) migratedSample := by
  intro refuses
  have paths : migrationPaths sampleMigrations [runsScript] = [runsScript] := by
    apply List.mergeSort_of_pairwise
    decide
  have drifted : Drifted sampleMigrations (migrationPaths sampleMigrations [runsScript])
      migratedSample.committed := by
    rw [paths]
    exact ⟨"0002", _, by rw [migratedSample_ledger]; rfl, Or.inl (by decide)⟩
  obtain ⟨raised, failed, _⟩ := refuses.1.mpr drifted
  simp only [migratedSample, applyMigrations, applyMigrationsWith, migrationPaths_sample,
    paths] at failed
  cases failed

/-- `apply_migrations` refuses drift exactly when drift comes first. -/
theorem refusesDrift_iff (library : MigrationLibrary Schema) (directory : List PackagedFile)
    (distinct : ((migrationPaths library directory).map PackagedFile.version).Nodup)
    (environments : Nat → SqlEnvironment) (quiet : Quiet environments) (world : SqlWorld Schema) :
    RefusesDrift library directory environments world ↔
      DriftComesFirst library (migrationPaths library directory) world.committed := by
  obtain ⟨result, ledger⟩ := Prod.mk.inj (execute_applyMigrations library directory quiet world)
  simp only [RefusesDrift, result, ledger]
  exact ⟨driftComesFirst_of_refuses distinct, refuses_of_driftComesFirst distinct⟩

/-- A recorded migration whose file has changed is refused. -/
theorem changed_migration_is_refused :
    RefusesDrift sampleMigrations [changedRunsScript] (fun _ => sampleStatement)
      migratedSample := by
  have paths : migrationPaths sampleMigrations [changedRunsScript] = [changedRunsScript] := by
    apply List.mergeSort_of_pairwise
    decide
  refine (refusesDrift_iff sampleMigrations [changedRunsScript] (by rw [paths]; decide) _
    (fun _ => rfl) migratedSample).mpr ?_
  rw [paths]
  refine Or.inl ⟨[], changedRunsScript, [], rfl, fun _ member => absurd member List.not_mem_nil,
    runsScript.checksum sampleMigrations, ?_, by decide⟩
  rw [migratedSample_ledger]
  rfl

end ScraperProject.Database
