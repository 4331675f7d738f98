import ScraperProject.Errors
import Mathlib.Logic.Function.Basic

/-!
Contract: `storage.backup`, with `RuntimeDatabase.connect`.

Owns what is at each path, the two functions with every step that may raise, what a
copy without loss is, and exactly when the functions make one: a connection creates a
missing file when it is opened, before anything of the copy is known, and no failure
removes what was created before it.

Does not own the contents of a database, the files of its journal, nor the connections
that a failure leaves open. Of the journal mode it owns what decides whether the copy of
a new file onto itself ends.
-/

namespace ScraperProject.Storage

/-! ## Files -/

/-- What is at a path: a database with its committed contents, or something else. A file
with nothing in it is a new database. -/
inductive Entry (Contents : Type) where
  | database (contents : Contents)
  | other

/-- What is at each resolved path. -/
abbrev Files (Contents : Type) := String → Option (Entry Contents)

inductive StorageError where
  | destinationExists (message : String)
  | raised (error : PyError)

/-- How a call ends, if it does. -/
inductive Outcome (Value : Type) where
  | returned (value : Value)
  | raised (error : StorageError)
  | endless

/-- The journal mode of a new file: `PRAGMA journal_mode = WAL` leaves it as it is, and
raises nothing, where the log cannot be kept. -/
inductive JournalMode where
  | delete
  | wal
deriving DecidableEq

/-- What the steps of a call meet. A copy that fails while it writes leaves some file
at the destination. -/
structure Environment (Contents : Type) where
  resolve : String → Except PyError String
  inspect : Except PyError Unit
  makeParent : Except PyError Unit
  openSource : Except PyError Unit
  notADatabase : PyError
  configure : Except PyError JournalMode
  openTarget : Except PyError Unit
  readSource : Except PyError Unit
  copy : Except (PyError × Entry Contents) Unit
  closeTarget : Except PyError Unit
  closeSource : Except PyError Unit

section Steps

variable {Contents : Type} (blank : Contents) (environment : Environment Contents)

/-- `sqlite3.connect`, when it does not raise: a missing file is created at once. -/
def sqlite3Connect (path : String) (files : Files Contents) : Files Contents :=
  match files path with
  | none => Function.update files path (some (.database blank))
  | some _ => files

/-- The first use of a connection reads the file. -/
def firstUse (path : String) (files : Files Contents) : Except StorageError Contents :=
  match files path with
  | some (.database contents) => .ok contents
  | _ => .error (.raised environment.notADatabase)

/-- `RuntimeDatabase.connect`: the first `PRAGMA` uses the connection. -/
def connect (path : String) (files : Files Contents) :
    Except StorageError JournalMode × Files Contents :=
  match environment.openSource with
  | .error error => (.error (.raised error), files)
  | .ok _ =>
      let files := sqlite3Connect blank path files
      match firstUse environment path files with
      | .error raised => (.error raised, files)
      | .ok _ => (environment.configure.mapError .raised, files)

/-- `source.backup(target)`, which holds its lock on the source until the target is
written. Two connections to one file wait for each other without end, unless the file
has a write-ahead log. -/
def connectionBackup (journal : JournalMode) (source target : String)
    (files : Files Contents) : Outcome Unit × Files Contents :=
  match firstUse environment source files, environment.readSource with
  | .error raised, _ => (.raised raised, files)
  | .ok _, .error error => (.raised (.raised error), files)
  | .ok contents, .ok _ =>
      if source = target ∧ journal = .delete then (.endless, files)
      else
        match environment.copy with
        | .error (error, torn) =>
            (.raised (.raised error), Function.update files target (some torn))
        | .ok _ => (.returned (), Function.update files target (some (.database contents)))

/-- The `finally` clause of both functions. -/
def closeBoth : Except PyError Unit := do
  environment.closeTarget
  environment.closeSource

/-- The `try` statement of both functions, and `return destination`. -/
def copyAndClose (journal : JournalMode) (source destination : String)
    (files : Files Contents) : Outcome String × Files Contents :=
  match connectionBackup environment journal source destination files,
      closeBoth environment with
  | (.endless, later), _ => (.endless, later)
  | (_, later), .error error => (.raised (.raised error), later)
  | (.raised raised, later), .ok _ => (.raised raised, later)
  | (.returned _, later), .ok _ => (.returned destination, later)

/-- The destination is resolved, refused when it exists, and its directory made. -/
def prepareDestination (purpose destination : String) (files : Files Contents) :
    Except StorageError String :=
  match environment.resolve destination with
  | .error error => .error (.raised error)
  | .ok path =>
      match environment.inspect, files path, environment.makeParent with
      | .error error, _, _ => .error (.raised error)
      | .ok _, some _, _ =>
          .error (.destinationExists (purpose ++ " destination already exists: " ++ path))
      | .ok _, none, .error error => .error (.raised error)
      | .ok _, none, .ok _ => .ok path

/-- `backup_database`. -/
def backupDatabase (database destination : String) (files : Files Contents) :
    Outcome String × Files Contents :=
  match prepareDestination environment "backup" destination files with
  | .error raised => (.raised raised, files)
  | .ok destination =>
      match connect blank environment database files with
      | (.error raised, later) => (.raised raised, later)
      | (.ok journal, later) =>
          match environment.openTarget with
          | .error error => (.raised (.raised error), later)
          | .ok _ =>
              copyAndClose environment journal database destination
                (sqlite3Connect blank destination later)

/-- `restore_database`. -/
def restoreDatabase (backupPath destination : String) (files : Files Contents) :
    Outcome String × Files Contents :=
  match environment.resolve backupPath with
  | .error error => (.raised (.raised error), files)
  | .ok backupPath =>
      match prepareDestination environment "restore" destination files with
      | .error raised => (.raised raised, files)
      | .ok destination =>
          match environment.openSource, environment.openTarget with
          | .error error, _ => (.raised (.raised error), files)
          | .ok _, .error error =>
              (.raised (.raised error), sqlite3Connect blank backupPath files)
          | .ok _, .ok _ =>
              copyAndClose environment .delete backupPath destination
                (sqlite3Connect blank destination (sqlite3Connect blank backupPath files))

end Steps

/-! ## What each step leaves -/

/-- What a copy of a path holds: a missing file is opened as a new database. -/
def committed {Contents : Type} (blank : Contents) (files : Files Contents) (path : String) :
    Option Contents :=
  match files path with
  | none => some blank
  | some (.database contents) => some contents
  | some .other => none

/-- The destination is resolved, absent, and can be made. -/
structure Prepares {Contents : Type} (environment : Environment Contents)
    (destination path : String) (files : Files Contents) : Prop where
  resolved : environment.resolve destination = .ok path
  inspected : environment.inspect = .ok ()
  absent : files path = none
  made : environment.makeParent = .ok ()

/-- Nothing fails once both connections are open. -/
structure Environment.Finishes {Contents : Type} (environment : Environment Contents) :
    Prop where
  read : environment.readSource = .ok ()
  copied : environment.copy = .ok ()
  closedTarget : environment.closeTarget = .ok ()
  closedSource : environment.closeSource = .ok ()

/-- The copy waits for itself. -/
structure Environment.Waits {Contents : Type} (environment : Environment Contents)
    (journal : JournalMode) (source destination : String) : Prop where
  read : environment.readSource = .ok ()
  same : source = destination
  unlogged : journal = .delete

section Outcomes

variable {Contents : Type} {blank : Contents} {environment : Environment Contents}
  {files : Files Contents}

theorem prepareDestination_eq_ok {purpose destination path : String} :
    prepareDestination environment purpose destination files = .ok path ↔
      Prepares environment destination path files := by
  unfold prepareDestination
  constructor
  · intro prepared
    split at prepared
    · cases prepared
    · rename_i resolved
      split at prepared
      · cases prepared
      · cases prepared
      · cases prepared
      · rename_i inspected absent made
        cases prepared
        exact ⟨resolved, inspected, absent, made⟩
  · rintro ⟨resolved, inspected, absent, made⟩
    rw [resolved]
    dsimp only
    rw [inspected, absent, made]

theorem Prepares.unique {destination path other : String}
    (prepares : Prepares environment destination path files)
    (isOther : Prepares environment destination other files) : other = path :=
  Except.ok.inj (isOther.resolved.symm.trans prepares.resolved)

/-- No connection touches a file that is there. -/
theorem sqlite3Connect_kept (blank : Contents) (path : String) {other : String}
    {entry : Entry Contents} (present : files other = some entry) :
    sqlite3Connect blank path files other = some entry := by
  cases isThere : files path with
  | none =>
      have different : other ≠ path := by
        rintro rfl
        rw [isThere] at present
        cases present
      simp only [sqlite3Connect, isThere, Function.update_of_ne different, present]
  | some _ => simp only [sqlite3Connect, isThere, present]

theorem sqlite3Connect_of_present {path : String} (present : files path ≠ none) :
    sqlite3Connect blank path files = files := by
  unfold sqlite3Connect
  split
  · next absent => exact absurd absent present
  · rfl

theorem sqlite3Connect_present (blank : Contents) (path : String) (files : Files Contents) :
    sqlite3Connect blank path files path ≠ none := by
  cases isThere : files path with
  | none => simp [sqlite3Connect, isThere]
  | some _ => simp [sqlite3Connect, isThere]

/-- What a connection finds at its own path. -/
theorem sqlite3Connect_eq_database {path : String} {contents : Contents} :
    sqlite3Connect blank path files path = some (.database contents) ↔
      committed blank files path = some contents := by
  unfold sqlite3Connect committed
  rcases isThere : files path with _ | ⟨found⟩ | _
  · simp
  · simp [isThere]
  · simp [isThere]

theorem committed_eq_none (blank : Contents) {path : String} :
    committed blank files path = none ↔ files path = some .other := by
  unfold committed
  rcases files path with _ | ⟨found⟩ | _ <;> simp

theorem firstUse_eq_ok {path : String} {contents : Contents} :
    firstUse environment path files = .ok contents ↔
      files path = some (.database contents) := by
  unfold firstUse
  split
  · next holds => simp [holds]
  · next other =>
    refine iff_of_false nofun ?_
    exact other contents

theorem closeBoth_eq_ok :
    closeBoth environment = .ok () ↔
      environment.closeTarget = .ok () ∧ environment.closeSource = .ok () := by
  unfold closeBoth
  cases environment.closeTarget <;> simp [bind, Except.bind]

/-- A copy of a database waits for itself, is written, or raises and removes nothing. -/
theorem connectionBackup_cases (environment : Environment Contents) (journal : JournalMode)
    (source target : String) (files : Files Contents) :
    (∃ contents, files source = some (.database contents) ∧
      environment.Waits journal source target ∧
        connectionBackup environment journal source target files = (.endless, files)) ∨
    (∃ contents, files source = some (.database contents) ∧ environment.readSource = .ok () ∧
      environment.copy = .ok () ∧ ¬ environment.Waits journal source target ∧
        connectionBackup environment journal source target files =
          (.returned (), Function.update files target (some (.database contents)))) ∨
    ((∀ contents, files source = some (.database contents) →
        ¬ environment.Waits journal source target ∧
          (environment.readSource = .ok () → environment.copy ≠ .ok ())) ∧
      ∃ raised later, connectionBackup environment journal source target files =
        (.raised raised, later) ∧ ∀ path, files path ≠ none → later path ≠ none) := by
  unfold connectionBackup
  cases used : firstUse environment source files with
  | error raised =>
      refine Or.inr (Or.inr ⟨fun contents holds => ?_, raised, files, rfl, fun _ => id⟩)
      rw [firstUse_eq_ok.mpr holds] at used
      cases used
  | ok contents =>
      have holds := firstUse_eq_ok.mp used
      cases read : environment.readSource with
      | error error =>
          refine Or.inr (Or.inr ⟨fun _ _ => ⟨fun waits => ?_, nofun⟩, _, _, rfl, fun _ => id⟩)
          rw [waits.read] at read
          cases read
      | ok _ =>
          by_cases itself : source = target ∧ journal = .delete
          · exact Or.inl ⟨contents, holds, ⟨read, itself.1, itself.2⟩, if_pos itself⟩
          · have notWaits : ¬ environment.Waits journal source target :=
              fun waits => itself ⟨waits.same, waits.unlogged⟩
            dsimp only
            rw [if_neg itself]
            cases copied : environment.copy with
            | ok _ => exact Or.inr (Or.inl ⟨contents, holds, rfl, rfl, notWaits, rfl⟩)
            | error failure =>
                refine Or.inr (Or.inr ⟨fun _ _ => ⟨notWaits, fun _ => nofun⟩, _, _, rfl, ?_⟩)
                intro path present
                by_cases same : path = target
                · rw [same, Function.update_self]
                  exact nofun
                · rwa [Function.update_of_ne same]

/-- A copy with both connections open waits for itself, is finished, or raises and
removes nothing. -/
theorem copyAndClose_cases (environment : Environment Contents) (journal : JournalMode)
    (source destination : String) (files : Files Contents) :
    (∃ contents, files source = some (.database contents) ∧
      environment.Waits journal source destination ∧
        copyAndClose environment journal source destination files = (.endless, files)) ∨
    (∃ contents, files source = some (.database contents) ∧ environment.Finishes ∧
      ¬ environment.Waits journal source destination ∧
        copyAndClose environment journal source destination files =
          (.returned destination,
            Function.update files destination (some (.database contents)))) ∨
    ((∀ contents, files source = some (.database contents) →
        ¬ environment.Waits journal source destination ∧ ¬ environment.Finishes) ∧
      ∃ raised later, copyAndClose environment journal source destination files =
        (.raised raised, later) ∧ ∀ path, files path ≠ none → later path ≠ none) := by
  unfold copyAndClose
  rcases connectionBackup_cases environment journal source destination files with
    ⟨contents, holds, waits, result⟩ | ⟨contents, holds, read, copied, notWaits, result⟩ |
      ⟨failed, raised, later, result, kept⟩
  · rw [result]
    exact Or.inl ⟨contents, holds, waits, rfl⟩
  · rw [result]
    cases closed : closeBoth environment with
    | error error =>
        refine Or.inr (Or.inr ⟨fun _ _ => ⟨notWaits, fun finishes => ?_⟩, _, _, rfl, ?_⟩)
        · rw [closeBoth_eq_ok.mpr ⟨finishes.closedTarget, finishes.closedSource⟩] at closed
          cases closed
        · intro path present
          by_cases same : path = destination
          · rw [same, Function.update_self]
            exact nofun
          · rwa [Function.update_of_ne same]
    | ok _ =>
        obtain ⟨closedTarget, closedSource⟩ := closeBoth_eq_ok.mp closed
        exact Or.inr (Or.inl
          ⟨contents, holds, ⟨read, copied, closedTarget, closedSource⟩, notWaits, rfl⟩)
  · rw [result]
    have unfinished : ∀ contents, files source = some (.database contents) →
        ¬ environment.Waits journal source destination ∧ ¬ environment.Finishes := by
      intro contents holds
      exact ⟨(failed contents holds).1,
        fun finishes => (failed contents holds).2 finishes.read finishes.copied⟩
    cases closeBoth environment with
    | error error => exact Or.inr (Or.inr ⟨unfinished, _, later, rfl, kept⟩)
    | ok _ => exact Or.inr (Or.inr ⟨unfinished, raised, later, rfl, kept⟩)

end Outcomes

/-! ## Copies without loss -/

inductive Call where
  | backup (database destination : String)
  | restore (backupPath destination : String)

/-- One call of the module. -/
def perform {Contents : Type} (blank : Contents) (environment : Environment Contents) :
    Call → Files Contents → Outcome String × Files Contents
  | .backup database destination, files =>
      backupDatabase blank environment database destination files
  | .restore backupPath destination, files =>
      restoreDatabase blank environment backupPath destination files

section Calls

variable {Contents : Type} {blank : Contents} {environment : Environment Contents}
  {before : Files Contents}

/-- A backup raises before it uses its database, or it uses it and then raises before it
opens its destination or copies. -/
theorem backupDatabase_cases (blank : Contents) (environment : Environment Contents)
    (database destination : String) (before : Files Contents) :
    ((∀ path, Prepares environment destination path before → environment.openSource = .ok () →
        before database = some .other) ∧ ∃ raised,
      backupDatabase blank environment database destination before =
        (.raised raised, before)) ∨
    ∃ path contents, Prepares environment destination path before ∧
      environment.openSource = .ok () ∧ before database ≠ some .other ∧
        committed blank before database = some contents ∧
      (((∀ journal, environment.configure = .ok journal → environment.openTarget ≠ .ok ()) ∧
          ∃ raised, backupDatabase blank environment database destination before =
            (.raised raised, sqlite3Connect blank database before)) ∨
        ∃ journal, environment.configure = .ok journal ∧ environment.openTarget = .ok () ∧
          backupDatabase blank environment database destination before =
            copyAndClose environment journal database path
              (sqlite3Connect blank path (sqlite3Connect blank database before))) := by
  unfold backupDatabase connect
  rcases prepared : prepareDestination environment "backup" destination before with raised | path
  · refine Or.inl ⟨fun path prepares => ?_, raised, rfl⟩
    rw [prepareDestination_eq_ok.mpr prepares] at prepared
    cases prepared
  · have prepares := prepareDestination_eq_ok.mp prepared
    rcases opened : environment.openSource with error | _
    · exact Or.inl ⟨nofun, _, rfl⟩
    · dsimp only
      rcases used : firstUse environment database (sqlite3Connect blank database before) with
        raised | contents
      · have other : before database = some .other := by
          rw [← committed_eq_none blank]
          cases found : committed blank before database with
          | none => rfl
          | some contents =>
              rw [firstUse_eq_ok.mpr (sqlite3Connect_eq_database.mpr found)] at used
              cases used
        refine Or.inl ⟨fun _ _ _ => other, raised, ?_⟩
        rw [sqlite3Connect_of_present (by rw [other]; exact nofun)]
      · have isCommitted := sqlite3Connect_eq_database.mp (firstUse_eq_ok.mp used)
        have notOther : before database ≠ some .other := by
          intro other
          rw [(committed_eq_none blank).mpr other] at isCommitted
          cases isCommitted
        refine Or.inr ⟨path, contents, prepares, rfl, notOther, isCommitted, ?_⟩
        rcases configured : environment.configure with error | journal
        · exact Or.inl ⟨nofun, _, rfl⟩
        · rcases openedTarget : environment.openTarget with error | _
          · exact Or.inl ⟨fun _ _ => nofun, _, rfl⟩
          · exact Or.inr ⟨journal, rfl, rfl, rfl⟩

/-- A restore raises before it opens its backup, or it opens it and then cannot open its
destination or copies. -/
theorem restoreDatabase_cases (blank : Contents) (environment : Environment Contents)
    (backupPath destination : String) (before : Files Contents) :
    ((∀ source path, environment.resolve backupPath = .ok source →
        Prepares environment destination path before → environment.openSource ≠ .ok ()) ∧
      ∃ raised, restoreDatabase blank environment backupPath destination before =
        (.raised raised, before)) ∨
    ∃ source path, environment.resolve backupPath = .ok source ∧
      Prepares environment destination path before ∧ environment.openSource = .ok () ∧
      (((∃ error, environment.openTarget = .error error) ∧ ∃ raised,
          restoreDatabase blank environment backupPath destination before =
            (.raised raised, sqlite3Connect blank source before)) ∨
        environment.openTarget = .ok () ∧
          restoreDatabase blank environment backupPath destination before =
            copyAndClose environment .delete source path
              (sqlite3Connect blank path (sqlite3Connect blank source before))) := by
  unfold restoreDatabase
  rcases resolved : environment.resolve backupPath with error | source
  · exact Or.inl ⟨nofun, _, rfl⟩
  · rcases prepared : prepareDestination environment "restore" destination before with raised | path
    · refine Or.inl ⟨fun _ path _ prepares => ?_, raised, rfl⟩
      rw [prepareDestination_eq_ok.mpr prepares] at prepared
      cases prepared
    · have prepares := prepareDestination_eq_ok.mp prepared
      rcases openedSource : environment.openSource with error | _
      · exact Or.inl ⟨fun _ _ _ _ => nofun, _, rfl⟩
      · refine Or.inr ⟨source, path, rfl, prepares, rfl, ?_⟩
        rcases openedTarget : environment.openTarget with error | _
        · exact Or.inl ⟨⟨error, rfl⟩, _, rfl⟩
        · exact Or.inr ⟨rfl, rfl⟩

/-- With both connections open the source holds what a copy of it holds. -/
theorem opened_eq_database {source path : String} {contents : Contents} :
    sqlite3Connect blank path (sqlite3Connect blank source before) source =
        some (.database contents) ↔
      committed blank before source = some contents := by
  rw [← sqlite3Connect_eq_database]
  cases isThere : sqlite3Connect blank source before source with
  | none => exact absurd isThere (sqlite3Connect_present blank source before)
  | some entry => rw [sqlite3Connect_kept blank path isThere]

theorem copyAndClose_returned {journal : JournalMode} {source destination path : String}
    {files after : Files Contents}
    (returned : copyAndClose environment journal source destination files =
      (.returned path, after)) :
    path = destination ∧ ∃ contents, files source = some (.database contents) ∧
      after path = some (.database contents) := by
  rcases copyAndClose_cases environment journal source destination files with
    ⟨_, _, _, endless⟩ | ⟨contents, holds, _, _, finished⟩ | ⟨_, raised, later, failed, _⟩
  · rw [endless] at returned
    cases returned
  · rw [finished] at returned
    cases returned
    exact ⟨rfl, contents, holds, Function.update_self _ _ _⟩
  · rw [failed] at returned
    cases returned

/-- A backup that returns holds what was committed. -/
theorem backupDatabase_returned {database destination path : String} {after : Files Contents}
    (returned : backupDatabase blank environment database destination before =
      (.returned path, after)) :
    ∃ contents, committed blank before database = some contents ∧
      after path = some (.database contents) := by
  rcases backupDatabase_cases blank environment database destination before with
    ⟨_, raised, failed⟩ | ⟨written, contents, _, _, _, _,
      ⟨_, raised, failed⟩ | ⟨journal, _, _, copies⟩⟩
  · rw [failed] at returned
    cases returned
  · rw [failed] at returned
    cases returned
  · rw [copies] at returned
    obtain ⟨rfl, found, holds, written⟩ := copyAndClose_returned returned
    exact ⟨found, opened_eq_database.mp holds, written⟩

/-- A restore that returns holds what its backup held. -/
theorem restoreDatabase_returned {backupPath destination path : String}
    {after : Files Contents}
    (returned : restoreDatabase blank environment backupPath destination before =
      (.returned path, after)) :
    ∃ source contents, environment.resolve backupPath = .ok source ∧
      committed blank before source = some contents ∧
        after path = some (.database contents) := by
  rcases restoreDatabase_cases blank environment backupPath destination before with
    ⟨_, raised, failed⟩ | ⟨source, written, resolved, _, _,
      ⟨_, raised, failed⟩ | ⟨_, copies⟩⟩
  · rw [failed] at returned
    cases returned
  · rw [failed] at returned
    cases returned
  · rw [copies] at returned
    obtain ⟨rfl, contents, holds, written⟩ := copyAndClose_returned returned
    exact ⟨source, contents, resolved, opened_eq_database.mp holds, written⟩

end Calls

/-- Nothing fails. -/
def calm : Environment Nat where
  resolve path := .ok path
  inspect := .ok ()
  makeParent := .ok ()
  openSource := .ok ()
  notADatabase := .operationalError
  configure := .ok .wal
  openTarget := .ok ()
  readSource := .ok ()
  copy := .ok ()
  closeTarget := .ok ()
  closeSource := .ok ()

end ScraperProject.Storage
