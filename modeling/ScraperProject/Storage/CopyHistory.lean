import ScraperProject.Foundation.History
import ScraperProject.Storage.Backup

/-!
Contract: backups and restores between the transactions of the runtime, over whole
histories.

Owns what every call may do to the files, whatever fails in it: it changes no file that
is there, and what it writes was committed somewhere, is a new database or is what a torn
copy leaves. Owns that a returned copy keeps what its source held at that time.

Does not own how a transaction comes to its contents.
-/

namespace ScraperProject.Storage

open Foundation

/-! ## What a call adds -/

/-- Every file that was there is as it was, and every database holds known contents. -/
structure Adds {Contents : Type} (Known : Contents → Prop) (base later : Files Contents) :
    Prop where
  kept : ∀ path entry, base path = some entry → later path = some entry
  known : ∀ path contents, later path = some (.database contents) → Known contents

section Adds

variable {Contents : Type} {blank : Contents} {environment : Environment Contents}
  {Known : Contents → Prop} {base files : Files Contents}

/-- A file that was not there at first is replaced. -/
theorem Adds.written {path : String} {entry : Entry Contents} (adds : Adds Known base files)
    (absent : base path = none) (isKnown : ∀ contents, entry = .database contents → Known contents) :
    Adds Known base (Function.update files path (some entry)) where
  kept other held present := by
    have different : other ≠ path := by
      intro same
      rw [same, absent] at present
      cases present
    rw [Function.update_of_ne different]
    exact adds.kept other held present
  known other contents holds := by
    by_cases same : other = path
    · rw [same, Function.update_self] at holds
      exact isKnown contents (Option.some.inj holds)
    · rw [Function.update_of_ne same] at holds
      exact adds.known other contents holds

/-- A connection creates a new database or nothing. -/
theorem Adds.opened (adds : Adds Known base files) (blankKnown : Known blank) (path : String) :
    Adds Known base (sqlite3Connect blank path files) := by
  cases absent : files path with
  | none =>
      simp only [sqlite3Connect, absent]
      apply adds.written
      · cases present : base path with
        | none => rfl
        | some entry =>
            rw [adds.kept path entry present] at absent
            cases absent
      · intro contents same
        cases same
        exact blankKnown
  | some entry =>
      simp only [sqlite3Connect, absent]
      exact adds

theorem Adds.connected (adds : Adds Known base files) (blankKnown : Known blank) (path : String) :
    Adds Known base (connect blank environment path files).2 := by
  unfold connect
  split
  · exact adds
  · dsimp only
    split
    · exact adds.opened blankKnown path
    · exact adds.opened blankKnown path

/-- A copy writes to its target only, whole or torn. -/
theorem Adds.copied {journal : JournalMode} {source target : String}
    (adds : Adds Known base files) (absent : base target = none)
    (tornKnown : ∀ error contents,
      environment.copy = .error (error, .database contents) → Known contents) :
    Adds Known base (connectionBackup environment journal source target files).2 := by
  unfold connectionBackup
  split
  · exact adds
  · exact adds
  · next contents _ used _ =>
    split
    · exact adds
    · split
      · next error torn failed =>
        apply adds.written absent
        intro contents same
        apply tornKnown error contents
        rw [failed, same]
      · apply adds.written absent
        intro contents same
        cases same
        exact adds.known source _ (firstUse_eq_ok.mp used)

theorem copyAndClose_snd (journal : JournalMode) (source destination : String) :
    (copyAndClose environment journal source destination files).2 =
      (connectionBackup environment journal source destination files).2 := by
  unfold copyAndClose
  split <;> simp_all

theorem perform_adds (blankKnown : Known blank)
    (tornKnown : ∀ error contents,
      environment.copy = .error (error, .database contents) → Known contents)
    (known : ∀ path contents, files path = some (.database contents) → Known contents)
    (call : Call) : Adds Known files (perform blank environment call files).2 := by
  have nothing : Adds Known files files := ⟨fun _ _ present => present, known⟩
  cases call with
  | backup database destination =>
      show Adds Known files (backupDatabase blank environment database destination files).2
      have connected := @Adds.connected _ _ environment _ _ _ nothing blankKnown database
      unfold backupDatabase
      split
      · exact nothing
      · next path prepared =>
        have absent := (prepareDestination_eq_ok.mp prepared).absent
        split
        · next isConnected =>
          rw [isConnected] at connected
          exact connected
        · next isConnected =>
          rw [isConnected] at connected
          split
          · exact connected
          · rw [copyAndClose_snd]
            exact (connected.opened blankKnown path).copied absent tornKnown
  | restore backupPath destination =>
      show Adds Known files (restoreDatabase blank environment backupPath destination files).2
      unfold restoreDatabase
      split
      · exact nothing
      · split
        · exact nothing
        · next path prepared =>
          have absent := (prepareDestination_eq_ok.mp prepared).absent
          split
          · exact nothing
          · exact nothing.opened blankKnown _
          · rw [copyAndClose_snd]
            exact ((nothing.opened blankKnown _).opened blankKnown path).copied absent tornKnown

end Adds

/-! ## Histories -/

/-- A call of the module in its environment, or a transaction of the runtime that leaves
these contents at the path. -/
inductive FileAction (Contents : Type) where
  | call (environment : Environment Contents) (call : Call)
  | commit (path : String) (contents : Contents)

/-- An action with the result of a call; one that waits for itself leaves the files as they
are. A transaction on a missing file creates it, and one on a file that is no database
raises. -/
def performAction {Contents : Type} (blank : Contents) :
    FileAction Contents → Files Contents → Option (Outcome String) × Files Contents
  | .call environment call, files =>
      let (result, later) := perform blank environment call files
      (some result, later)
  | .commit path contents, files =>
      match files path with
      | some .other => (none, files)
      | _ => (none, Function.update files path (some (.database contents)))

def filesAfter {Contents : Type} (blank : Contents) (files : Files Contents)
    (actions : List (FileAction Contents)) : Files Contents :=
  History.after (performAction blank) files actions

/-- The action is no transaction at the path. -/
def FileAction.Spares {Contents : Type} (path : String) : FileAction Contents → Prop
  | .call _ _ => True
  | .commit target _ => target ≠ path

/-- Contents that an action brings in: those of a transaction, or what a copy that fails
while it writes leaves. -/
def FileAction.Brings {Contents : Type} (contents : Contents) : FileAction Contents → Prop
  | .call environment _ => ∃ error, environment.copy = .error (error, .database contents)
  | .commit _ committed => committed = contents

/-- What a call copies: the committed contents of its source. -/
def copiedContents {Contents : Type} (blank : Contents) (environment : Environment Contents)
    (files : Files Contents) : Call → Option Contents
  | .backup database _ => committed blank files database
  | .restore backupPath _ =>
      match environment.resolve backupPath with
      | .ok source => committed blank files source
      | .error _ => none

section Histories

variable {Contents : Type} {blank : Contents} {files : Files Contents}

/-- An action keeps every file but that of its own transaction. -/
theorem performAction_kept {action : FileAction Contents} {path : String}
    {entry : Entry Contents} (spares : action.Spares path) (present : files path = some entry) :
    (performAction blank action files).2 path = some entry := by
  cases action with
  | call environment call =>
      exact (@perform_adds _ blank environment (fun _ => True) files trivial
        (fun _ _ _ => trivial) (fun _ _ _ => trivial) call).kept path entry present
  | commit target contents =>
      unfold performAction
      dsimp only
      split
      · exact present
      · show Function.update files target _ path = some entry
        rw [Function.update_of_ne (Ne.symm spares)]
        exact present

/-- Without a transaction of its own, a file stays for ever as it is. -/
theorem filesAfter_kept {path : String} {entry : Entry Contents}
    (actions : List (FileAction Contents)) (spares : ∀ action ∈ actions, action.Spares path)
    (present : files path = some entry) : filesAfter blank files actions path = some entry := by
  induction actions generalizing files with
  | nil => exact present
  | cons action rest inductionHypothesis =>
      have now := @performAction_kept _ blank _ _ _ _ (spares action List.mem_cons_self) present
      exact inductionHypothesis (fun other member => spares other (List.mem_cons_of_mem _ member))
        now

/-- A call that returns has left at its path what its source held. -/
theorem perform_returned {environment : Environment Contents} {call : Call} {path : String}
    (returned : (perform blank environment call files).1 = .returned path) :
    ∃ contents, copiedContents blank environment files call = some contents ∧
      (perform blank environment call files).2 path = some (.database contents) := by
  cases call with
  | backup database destination =>
      simp only [perform, copiedContents] at returned ⊢
      exact backupDatabase_returned (Prod.ext returned rfl)
  | restore backupPath destination =>
      simp only [perform, copiedContents] at returned ⊢
      obtain ⟨source, contents, resolved, isCommitted, holds⟩ :=
        restoreDatabase_returned (Prod.ext returned rfl)
      rw [resolved]
      exact ⟨contents, isCommitted, holds⟩

/-- A copy is of one moment and stays: what a call returned holds, after any further
calls and transactions that are not on the copy itself, exactly what the source held when
the call was made. -/
theorem returned_copies_last (blank : Contents) (files : Files Contents)
    (first second : List (FileAction Contents)) (environment : Environment Contents)
    (call : Call) (path : String)
    (returned : (perform blank environment call (filesAfter blank files first)).1 =
      .returned path)
    (spares : ∀ action ∈ second, action.Spares path) :
    ∃ contents,
      copiedContents blank environment (filesAfter blank files first) call = some contents ∧
        filesAfter blank files (first ++ .call environment call :: second) path =
          some (.database contents) := by
  obtain ⟨contents, isSource, copied⟩ := perform_returned returned
  refine ⟨contents, isSource, ?_⟩
  rw [filesAfter, History.after_append]
  exact filesAfter_kept second spares copied

theorem performAction_known {Known : Contents → Prop} {action : FileAction Contents}
    (blankKnown : Known blank) (brought : ∀ contents, action.Brings contents → Known contents)
    (known : ∀ path contents, files path = some (.database contents) → Known contents) :
    ∀ path contents, (performAction blank action files).2 path = some (.database contents) →
      Known contents := by
  cases action with
  | call environment call =>
      exact (perform_adds blankKnown (fun error contents torn => brought contents ⟨error, torn⟩)
        known call).known
  | commit target committed =>
      intro path contents holds
      unfold performAction at holds
      dsimp only at holds
      split at holds
      · exact known path contents holds
      · dsimp only at holds
        by_cases same : path = target
        · rw [same, Function.update_self] at holds
          cases holds
          exact brought committed rfl
        · rw [Function.update_of_ne same] at holds
          exact known path contents holds

theorem filesAfter_known {Known : Contents → Prop} (blankKnown : Known blank)
    (actions : List (FileAction Contents))
    (brought : ∀ action ∈ actions, ∀ contents, action.Brings contents → Known contents)
    (known : ∀ path contents, files path = some (.database contents) → Known contents) :
    ∀ path contents, filesAfter blank files actions path = some (.database contents) →
      Known contents := by
  induction actions generalizing files with
  | nil => exact known
  | cons action rest inductionHypothesis =>
      apply inductionHypothesis
      · intro other member
        exact brought other (List.mem_cons_of_mem _ member)
      · exact performAction_known blankKnown (brought action List.mem_cons_self) known

/-- Nothing is invented: after any calls, with any failures in them, and any transactions,
a database holds what some database held at the start, what a transaction committed, what
a torn copy left, or is a new one. -/
theorem contents_have_origin (blank : Contents) (files : Files Contents)
    (actions : List (FileAction Contents)) (path : String) (contents : Contents)
    (holds : filesAfter blank files actions path = some (.database contents)) :
    (∃ other, files other = some (.database contents)) ∨
      (∃ action ∈ actions, action.Brings contents) ∨ contents = blank := by
  have known := @filesAfter_known _ blank files
    (fun contents => (∃ other, files other = some (.database contents)) ∨
      (∃ action ∈ actions, action.Brings contents) ∨ contents = blank)
    (Or.inr (Or.inr rfl)) actions
    (fun action member _ brings => Or.inr (Or.inl ⟨action, member, brings⟩))
    (fun other _ present => Or.inl ⟨other, present⟩)
  exact known path contents holds

end Histories

/-- The backup of a database outlives a transaction, a failing restore and the retry. -/
theorem returned_copies_last_on_sample :
    ∃ contents,
      copiedContents 0 calm (filesAfter 0 (fun _ => none) [.commit "run.sqlite" 7])
          (.backup "run.sqlite" "backup.sqlite") = some contents ∧
        filesAfter 0 (fun _ => none)
          ([.commit "run.sqlite" 7] ++
            .call calm (.backup "run.sqlite" "backup.sqlite") ::
              [.commit "run.sqlite" 8, .call calm (.restore "run.sqlite" "backup.sqlite")])
            "backup.sqlite" = some (.database contents) :=
  returned_copies_last 0 _ _ _ calm (.backup "run.sqlite" "backup.sqlite") "backup.sqlite" rfl
    (by simp [FileAction.Spares])

/-- What is restored from a backup was committed before. -/
theorem contents_have_origin_on_sample :
    (∃ other, (fun _ => none : Files Nat) other = some (.database 7)) ∨
      (∃ action ∈ [.commit "run.sqlite" 7, .call calm (.backup "run.sqlite" "backup.sqlite")],
        FileAction.Brings 7 action) ∨ 7 = 0 :=
  contents_have_origin 0 _ _ "backup.sqlite" 7 rfl

end ScraperProject.Storage
