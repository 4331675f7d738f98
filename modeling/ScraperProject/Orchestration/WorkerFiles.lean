import ScraperProject.Orchestration.WorkerErrors
import ScraperProject.Orchestration.WorkerSingleRun

/-!
Contract: the files of a run under cut-offs.

Owns the content that a run intends for each of its files, the step under which a
file appears whole or not at all (its exclusive create is not cut short), the
exceptions of a call that finds a file with another content, and the result that
the files of a run are whole, and no call for it finds another content, along
exactly the histories whose creates are not cut short. Owns also a history in which
a torn snapshot ends every later call.

Does not own what a call does after its files are in place.
-/

namespace ScraperProject.Orchestration

open Foundation
open Database
open Contracts

section Files

variable (library : StandardLibrary) (root : String) (listing : List (String × Json))
  (runId : String)

/-! ## The intended content -/

/-- What the run writes to a path, when the fixture serves the listing. -/
def FileOf (path : String) (content : List UInt8) : Prop :=
  (path = snapshotPath library root runId ∧ content = canonicalJsonBytes (.obj listing)) ∨
    (path = recordsPath library root runId ∧ content = batchRecords library runId)

/-- A file at a path of the run is complete. -/
def WholeFiles (world : World) : Prop :=
  ∀ path intended, FileOf library root listing runId path intended →
    ∀ content, world.files path = some content → content = intended

/-- The fixture serves the listing to the calls for the run. -/
def servesRun : Promises where
  finished _ _ := True
  recorded _ _ := True
  fetched _ run payload := run = runId → payload = listing

/-- A connection of a call for the run: the fixture serves the listing, if anything,
and neither the connection nor the body raises an exception of the worker. -/
structure ServesListing (response : Except PyError (Int × Except PyError Json)) : Prop where
  listing : ∀ payload, response = .ok (200, .ok (.obj payload)) → payload = listing
  connection : Foreign response
  body : ∀ status body, response = .ok (status, body) → Foreign body

def StepServes (session : WorkerSession) (environment : Environment) (_ : Command)
    (_ : World) : Prop :=
  session.call.runId = runId → ServesListing listing environment.response

/-- A step that creates a file of a call for the run writes all of it. -/
def StepWhole (session : WorkerSession) (environment : Environment) (command : Command)
    (world : World) : Prop :=
  session.call.runId = runId → ∀ path content, command = .createExclusive path content →
    world.files path = none → ∀ written, environment.torn = some written →
      content.length ≤ written

variable {library root listing runId} {world : World} {command : Command}
  {environment : Environment} {session : WorkerSession}

theorem stepServes_respectful (session : WorkerSession) (environment : Environment)
    (command : Command) (world : World)
    (serves : StepServes listing runId session environment command world) :
    Respectful (servesRun listing runId) session environment command world := by
  cases command with
  | openUrl url => exact fun payload isPayload own => (serves own).listing payload isPayload
  | _ => trivial

/-! ## The paths of different runs -/

theorem joinPath_right_inj (parent : String) {first second : String} :
    joinPath parent first = joinPath parent second ↔ first = second := by
  unfold joinPath
  split <;> exact String.append_right_inj _

theorem snapshotPath_injective : Function.Injective (snapshotPath library root) := by
  intro first second same
  have sameName := (joinPath_right_inj _).mp same
  exact artifactId_injective ((String.append_left_inj _).mp sameName)

theorem batchId_injective : Function.Injective (batchId library) := by
  intro first second same
  simpa [batchId] using library.uuid5_injective same

theorem recordsPath_injective : Function.Injective (recordsPath library root) := by
  intro first second same
  have sameName := (joinPath_right_inj _).mp same
  exact batchId_injective ((String.append_left_inj _).mp sameName)

/-- A path has one intended content. -/
theorem FileOf.unique {path : String} {first second : List UInt8}
    (left : FileOf library root listing runId path first)
    (right : FileOf library root listing runId path second) : first = second := by
  rcases left with ⟨rfl, rfl⟩ | ⟨rfl, rfl⟩ <;> rcases right with ⟨same, rfl⟩ | ⟨same, rfl⟩
  · rfl
  · exact absurd same snapshotPath_ne_recordsPath
  · exact absurd same.symm snapshotPath_ne_recordsPath
  · rfl

/-- A guarded create of a call for the run writes what the run intends. -/
theorem fileOf_of_guard {path : String} {content : List UInt8}
    (guarded : Guard library root (servesRun listing runId) runId
      (.createExclusive path content) world) :
    FileOf library root listing runId path content := by
  rcases guarded with ⟨isPath, payload, ⟨_, _, _, _, served⟩, isContent⟩ | records
  · rw [served rfl] at isContent
    exact Or.inl ⟨isPath, isContent⟩
  · exact Or.inr records

/-- A guarded create of a call for another run leaves the paths of the run alone. -/
theorem not_fileOf_of_guard {other path : String} {content intended : List UInt8}
    (different : other ≠ runId)
    (guarded : Guard library root (servesRun listing runId) other
      (.createExclusive path content) world) :
    ¬ FileOf library root listing runId path intended := by
  rintro (⟨isSnapshot, _⟩ | ⟨isRecords, _⟩) <;>
    rcases guarded with ⟨rfl, _⟩ | ⟨rfl, _⟩
  · exact different (snapshotPath_injective isSnapshot)
  · exact absurd isSnapshot.symm snapshotPath_ne_recordsPath
  · exact absurd isRecords snapshotPath_ne_recordsPath
  · exact different (recordsPath_injective isRecords)

/-! ## One step -/

/-- The files after an exclusive create. -/
theorem createExclusive_files (path : String) (content : List UInt8) (torn : Option Nat)
    (other : String) :
    (world.createExclusive path content torn).2.files other =
      if other = path ∧ world.files path = none then
        some (content.take (torn.getD content.length))
      else world.files other := by
  unfold World.createExclusive
  cases present : world.files path with
  | some stored => simp
  | none => cases torn <;> by_cases same : other = path <;> simp [same]

/-- Of a guarded step: the files of the run stay whole exactly when a create of one
of them is not cut short. -/
theorem wholeFiles_step_iff
    (guarded : Guard library root (servesRun listing runId) session.call.runId command world)
    (whole : WholeFiles library root listing runId world) :
    WholeFiles library root listing runId
        (performCommand library environment command world).2 ↔
      StepWhole runId session environment command world := by
  by_cases creates : ∃ path content, command = .createExclusive path content
  · obtain ⟨path, content, rfl⟩ := creates
    change WholeFiles library root listing runId
      (world.createExclusive path content environment.torn).2 ↔ _
    constructor
    · rintro later own _ _ ⟨rfl⟩ absent written torn
      have stored : (world.createExclusive path content environment.torn).2.files path =
          some (content.take written) := by
        rw [createExclusive_files, if_pos ⟨rfl, absent⟩, torn]
        rfl
      have complete := later path content (fileOf_of_guard (own ▸ guarded)) _ stored
      exact (List.take_eq_self_iff content).mp complete
    · intro uncut other intended isFile found stored
      rw [createExclusive_files] at stored
      split at stored
      · next created =>
        obtain ⟨rfl, absent⟩ := created
        by_cases own : session.call.runId = runId
        · rw [← (fileOf_of_guard (own ▸ guarded)).unique isFile, ← Option.some.inj stored]
          cases torn : environment.torn with
          | none => exact List.take_length
          | some written =>
              exact List.take_of_length_le (uncut own _ _ rfl absent written torn)
        · exact absurd isFile (not_fileOf_of_guard own guarded)
      · exact whole other intended isFile found stored
  · have reads : ∀ path content, command ≠ .createExclusive path content :=
      fun path content isCreate => creates ⟨path, content, isCreate⟩
    refine iff_of_true ?_ ?_
    · unfold WholeFiles
      rw [files_kept reads]
      exact whole
    · exact fun _ path content isCreate => absurd isCreate (reads path content)

end Files

/-! ## Exceptions over another content -/

/-- The texts of the exceptions for a file that is there with another content. -/
def clashTexts : List String :=
  [ "synthetic snapshot already exists with different content",
    "synthetic dataset records already exist with different content" ]

def Clash (raised : PyError) : Prop := ∃ message ∈ clashTexts, raised = .syntheticWorker message

/-- The outcome is not an exception for a file with another content. -/
def NoClash {α : Type} (outcome : Except PyError α) : Prop :=
  ∀ raised, outcome = .error raised → ¬ Clash raised

section Exceptions

variable {α β : Type}

theorem noClash_of_foreign {outcome : Except PyError α} (foreign : Foreign outcome) :
    NoClash outcome := by
  rintro raised isError ⟨message, _, rfl⟩
  exact foreign message isError

@[simp] theorem noClash_ok (value : α) : NoClash (.ok value : Except PyError α) :=
  noClash_of_foreign (foreign_ok value)

@[simp] theorem noClash_workerError (message : String) :
    NoClash (workerError message : Except PyError α) ↔ message ∉ clashTexts := by
  constructor
  · intro noClash listed
    exact noClash _ rfl ⟨message, listed, rfl⟩
  · rintro unlisted raised ⟨⟩ ⟨other, listed, same⟩
    cases same
    exact unlisted listed

theorem noClash_bind {first : Except PyError α} {next : α → Except PyError β}
    (noClash : NoClash first) (continues : ∀ value, first = .ok value → NoClash (next value)) :
    NoClash (first >>= next) := by
  cases first with
  | error raised =>
      intro other isError
      cases isError
      exact noClash raised rfl
  | ok value => exact continues value rfl

/-- A text about the fixture is none of them: they differ in the eleventh character. -/
theorem fixtureText_unlisted {message : String} (aboutFixture : message.toList[10]? = some 'f') :
    message ∉ clashTexts := by
  intro listed
  have other : ∀ listed ∈ clashTexts, listed.toList[10]? ≠ some 'f' := by decide
  exact other message listed aboutFixture

theorem noClash_text (payload : List (String × Json)) (key : String) :
    NoClash (text payload key) := by
  have unlisted : "synthetic fixture requires non-empty " ++ key ∉ clashTexts :=
    fixtureText_unlisted (by rw [String.toList_append]; rfl)
  unfold text
  split
  · split
    · exact (noClash_workerError _).mpr unlisted
    · exact noClash_ok _
  · exact (noClash_workerError _).mpr unlisted

theorem noClash_optionalText (payload : List (String × Json)) (key : String) :
    NoClash (optionalText payload key) := by
  unfold optionalText
  split
  · exact noClash_ok _
  · exact noClash_ok _
  · exact noClash_ok _
  · apply (noClash_workerError _).mpr
    apply fixtureText_unlisted
    rw [String.append_assoc, String.toList_append]
    rfl

theorem noClash_stringMapping (value : Option Json) : NoClash (stringMapping value) := by
  have unlisted : "synthetic fixture visible_specs must be a string mapping" ∉ clashTexts := by
    decide
  unfold stringMapping
  split
  · split
    · exact noClash_ok _
    · exact (noClash_workerError _).mpr unlisted
  · exact (noClash_workerError _).mpr unlisted

theorem noClash_requireLocalFixture (library : StandardLibrary) (fixtureUrl : String) :
    NoClash (requireLocalFixture library fixtureUrl) := by
  unfold requireLocalFixture
  split
  · exact noClash_of_foreign (by simp)
  · split
    · exact (noClash_workerError _).mpr (by decide)
    · exact noClash_ok _

theorem noClash_requireSourcePayload (payload : Json) :
    NoClash (requireSourcePayload payload) := by
  have unlisted : "synthetic fixture has an unsupported source identity" ∉ clashTexts := by decide
  cases payload with
  | obj entries =>
      refine noClash_bind (noClash_text entries "source_name") fun source _ => ?_
      split
      · exact (noClash_workerError _).mpr unlisted
      · exact noClash_ok _
  | _ => exact (noClash_workerError _).mpr unlisted

/-- The result of a fetch, for a connection without exceptions of the worker. -/
theorem noClash_fetched {listing : List (String × Json)}
    {response : Except PyError (Int × Except PyError Json)}
    (serves : ServesListing listing response) :
    NoClash (fixtureUnavailable (response >>= readResponse) >>= requireSourcePayload) := by
  have read : NoClash (response >>= readResponse) := by
    refine noClash_bind (noClash_of_foreign serves.connection) fun answer isAnswer => ?_
    unfold readResponse
    split
    · apply (noClash_workerError _).mpr
      apply fixtureText_unlisted
      rw [String.toList_append]
      rfl
    · exact noClash_of_foreign (serves.body answer.1 answer.2 isAnswer)
  refine noClash_bind ?_ fun payload _ => noClash_requireSourcePayload payload
  generalize response >>= readResponse = outcome at read
  unfold fixtureUnavailable
  split
  · exact (noClash_workerError _).mpr (by decide)
  · exact (noClash_workerError _).mpr (by decide)
  · exact (noClash_workerError _).mpr (by decide)
  · exact read

theorem noClash_discoveryObservation (library : StandardLibrary) (runId : String)
    (current : Datetime) (fixture : List (String × Json)) (listingKey listingUrl : String) :
    NoClash (discoveryObservation library runId current fixture listingKey listingUrl) := by
  refine noClash_bind (noClash_text _ _) fun source _ => ?_
  refine noClash_bind (noClash_optionalText _ _) fun title _ => ?_
  refine noClash_bind (noClash_optionalText _ _) fun price _ => ?_
  refine noClash_bind (noClash_optionalText _ _) fun currency _ => ?_
  refine noClash_bind (noClash_stringMapping _) fun specs _ => ?_
  refine noClash_bind (noClash_optionalText _ _) fun status _ => ?_
  refine noClash_bind (noClash_optionalText _ _) fun fingerprint _ => ?_
  exact noClash_bind (noClash_of_foreign (foreign_observation _ _)) fun _ _ => noClash_ok _

theorem noClash_rawFetchArtifact (library : StandardLibrary) (root runId leasedJobId digest : String)
    (current : Datetime) (fixture : List (String × Json)) :
    NoClash (rawFetchArtifact library root runId leasedJobId digest current fixture) := by
  refine noClash_bind (noClash_text _ _) fun listingKey _ => ?_
  refine noClash_bind (noClash_text _ _) fun listingUrl _ => ?_
  exact noClash_bind (noClash_of_foreign (foreign_artifact _ _)) fun _ _ => noClash_ok _

theorem noClash_reloadFixture (fixture : List (String × Json)) : NoClash (reloadFixture fixture) := by
  apply noClash_of_foreign
  unfold reloadFixture
  split <;> simp

end Exceptions

/-! ## The stages -/

section Stages

variable (library : StandardLibrary) (root : String) (listing : List (String × Json))
  (runId : String)

/-- What a command of a call for the run can come to, while the files of the run are
whole. -/
def Possible : (command : Command) → Except PyError (Reply command) → Prop
  | .openUrl _, outcome => ServesListing listing outcome
  | .readBytes path, outcome => Foreign outcome ∧ ∀ content, outcome = .ok content →
      ∀ intended, FileOf library root listing runId path intended → content = intended
  | _, outcome => Foreign outcome

/-- The program does not raise over another content. -/
abbrev Unclashing {α : Type} (program : Worker α) : Prop :=
  program.Expects (Possible library root listing runId) (fun raised => ¬ Clash raised)
    (fun _ => True)

variable {library root listing runId}

theorem Possible.foreign {command : Command} {outcome : Except PyError (Reply command)}
    (possible : Possible library root listing runId command outcome) : Foreign outcome := by
  cases command with
  | openUrl url => exact possible.connection
  | readBytes path => exact possible.1
  | _ => exact possible

theorem possible_performCommand {environment : Environment} {command : Command} {world : World}
    (serves : ServesListing listing environment.response)
    (whole : WholeFiles library root listing runId world) :
    Possible library root listing runId command
      (performCommand library environment command world).1 := by
  cases command with
  | openUrl url => exact serves
  | readBytes path =>
      refine ⟨foreign_performCommand library environment world (by simp), ?_⟩
      intro content isContent intended isFile
      apply whole path intended isFile
      simp only [performCommand] at isContent
      split at isContent
      · next stored present => rw [present, Except.ok.inj isContent]
      · cases isContent
  | _ => exact foreign_performCommand library environment world (by simp)

theorem unclashing_pure {α : Type} (value : α) :
    Unclashing library root listing runId (pure value : Worker α) := trivial

theorem unclashing_issue (command : Command) :
    Unclashing library root listing runId (issue command) := by
  apply Program.expects_call
  · intro raised possible
    exact noClash_of_foreign possible.foreign raised rfl
  · exact fun _ _ => trivial

theorem unclashing_require {α : Type} {computation : Except PyError α}
    (noClash : NoClash computation) :
    Unclashing library root listing runId (require computation) :=
  Program.expects_ofExcept noClash fun _ _ => trivial

theorem unclashing_followed {α β : Type} {program : Worker α} {next : α → Worker β}
    (first : Unclashing library root listing runId program)
    (continues : ∀ value, Unclashing library root listing runId (next value)) :
    Unclashing library root listing runId (program >>= next) :=
  Program.Expects.bind first fun value _ => continues value

/-- A call for the run is served the listing, or raises. -/
theorem expects_fetchFixture (fixtureUrl : String) :
    (fetchFixture library fixtureUrl).Expects (Possible library root listing runId)
      (fun raised => ¬ Clash raised) (fun payload => payload = listing) := by
  refine Program.Expects.bind
    (unclashing_require (noClash_requireLocalFixture library fixtureUrl)) fun _ _ => ?_
  refine Program.Expects.bind (Program.expects_attempt fun outcome possible => possible) ?_
  intro response serves
  apply Program.expects_ofExcept (noClash_fetched serves)
  intro payload accepted
  exact serves.listing payload (fetched_of_response accepted).1

/-- A file of the run that is there holds what the run intends. -/
theorem expects_readBytes {path : String} {intended : List UInt8}
    (isFile : FileOf library root listing runId path intended) :
    (issue (.readBytes path)).Expects (Possible library root listing runId)
      (fun raised => ¬ Clash raised) (fun stored => stored = intended) := by
  apply Program.expects_call
  · intro raised possible
    exact noClash_of_foreign possible.1 raised rfl
  · intro stored possible
    exact possible.2 stored rfl intended isFile

theorem unclashing_storeSnapshot {path : String} {body : List UInt8}
    (isFile : FileOf library root listing runId path body) :
    Unclashing library root listing runId (storeSnapshot library path body) := by
  refine unclashing_followed (unclashing_issue (.pathExists path)) fun present => ?_
  split
  · apply Program.Expects.bind (expects_readBytes isFile)
    rintro stored rfl
    rw [if_neg fun different => different rfl]
    exact unclashing_pure ()
  · apply Program.Expects.bind (Program.expects_attempt fun outcome possible => possible)
    intro outcome foreign
    split
    · exact unclashing_pure ()
    · apply unclashing_require
      exact (noClash_workerError _).mpr (by decide)
    · next raised _ =>
      apply unclashing_require
      exact noClash_of_foreign (Foreign.rethrown foreign rfl)

theorem unclashing_storeRecords {path : String} {records : List UInt8}
    (isFile : FileOf library root listing runId path records) :
    Unclashing library root listing runId (storeRecords path records) := by
  refine unclashing_followed (unclashing_issue (.pathExists path)) fun present => ?_
  split
  · apply Program.Expects.bind (expects_readBytes isFile)
    rintro stored rfl
    rw [if_neg fun different => different rfl]
    exact unclashing_pure ()
  · exact unclashing_issue (.createExclusive path records)

theorem unclashing_ensureRun : Unclashing library root listing runId (ensureRun library runId) := by
  refine unclashing_followed (unclashing_issue _) fun _ => ?_
  refine unclashing_followed (unclashing_issue (.getRun runId)) fun run => ?_
  refine unclashing_followed ?_ fun _ => ?_
  · cases run with
    | some row => exact unclashing_pure ()
    | none => exact unclashing_followed (unclashing_issue _) fun _ => unclashing_issue _
  refine unclashing_followed (unclashing_issue _) fun partition => ?_
  refine unclashing_followed ?_ fun partition => ?_
  · cases partition with
    | some row => exact unclashing_pure (some row)
    | none => exact unclashing_followed (unclashing_issue _) fun _ => unclashing_issue _
  cases partition with
  | none => exact unclashing_pure ()
  | some row =>
      unfold startPendingPartition
      dsimp only
      split
      · exact unclashing_issue _
      · exact unclashing_pure ()

theorem unclashing_discoverAndQueue (fixtureUrl : String) (current : Datetime) :
    Unclashing library root listing runId (discoverAndQueue library fixtureUrl runId current) := by
  refine Program.Expects.bind (expects_fetchFixture fixtureUrl) fun fixture _ => ?_
  refine unclashing_followed (unclashing_require (noClash_text _ _)) fun listingKey => ?_
  refine unclashing_followed (unclashing_require (noClash_text _ _)) fun listingUrl => ?_
  refine unclashing_followed
    (unclashing_require (noClash_discoveryObservation _ _ _ _ _ _)) fun observation => ?_
  refine unclashing_followed (unclashing_issue (.appendObservation observation)) fun _ => ?_
  refine unclashing_followed
    (unclashing_require (noClash_of_foreign (foreign_job _ _))) fun _ => ?_
  refine unclashing_followed (unclashing_issue _) fun _ => ?_
  exact unclashing_issue _

theorem unclashing_recordSnapshotOf (fixtureUrl leasedJobId : String) (current : Datetime) :
    Unclashing library root listing runId
      (recordSnapshotOf library root fixtureUrl runId leasedJobId current) := by
  refine Program.Expects.bind (expects_fetchFixture fixtureUrl) ?_
  rintro payload rfl
  refine unclashing_followed (unclashing_storeSnapshot (Or.inl ⟨rfl, rfl⟩)) fun _ => ?_
  refine unclashing_followed (unclashing_require (noClash_reloadFixture _)) fun fixture => ?_
  refine unclashing_followed (unclashing_issue _) fun existing => ?_
  refine unclashing_followed ?_ fun _ => unclashing_pure _
  cases existing with
  | some row => exact unclashing_pure ()
  | none =>
      refine unclashing_followed (unclashing_require (noClash_rawFetchArtifact _ _ _ _ _ _ _)) ?_
      exact fun artifact => unclashing_issue (.recordSnapshot artifact)

theorem unclashing_recordBatchOf (current : Datetime) :
    Unclashing library root listing runId (recordBatchOf library root runId current) := by
  refine unclashing_followed (unclashing_issue (.getBatch (batchId library runId))) ?_
  intro existing
  cases existing with
  | some manifest => exact unclashing_pure ()
  | none =>
      refine unclashing_followed (unclashing_storeRecords (Or.inr ⟨rfl, rfl⟩)) fun _ => ?_
      refine unclashing_followed
        (unclashing_require (noClash_of_foreign (foreign_manifest _ _))) fun _ => ?_
      exact unclashing_issue _

theorem unclashing_runBatchRecorded (recovery : RecoveryCounts) :
    Unclashing library root listing runId (runBatchRecorded library root runId recovery) := by
  refine unclashing_followed (unclashing_issue (.getRun runId)) fun run => ?_
  refine unclashing_followed ?_ fun _ => ?_
  · cases run with
    | none => exact unclashing_pure ()
    | some row =>
        unfold completeRunning
        dsimp only
        split
        · exact unclashing_followed (unclashing_issue _) fun _ => unclashing_issue _
        · exact unclashing_pure ()
  · exact unclashing_followed (unclashing_issue _) fun _ => unclashing_pure _

theorem unclashing_runParserCompleted (current : Datetime) (recovery : RecoveryCounts) :
    Unclashing library root listing runId
      (runParserCompleted library root runId current recovery) := by
  refine unclashing_followed (unclashing_recordBatchOf current) fun _ => ?_
  refine unclashing_followed (unclashing_issue _) fun _ => ?_
  exact unclashing_runBatchRecorded recovery

theorem unclashing_runSnapshotRecorded (current : Datetime) (recovery : RecoveryCounts) :
    Unclashing library root listing runId
      (runSnapshotRecorded library root runId current recovery) := by
  refine unclashing_followed (unclashing_issue _) fun parserRunId => ?_
  refine unclashing_followed (unclashing_issue _) fun _ => ?_
  refine unclashing_followed (unclashing_issue _) fun _ => ?_
  exact unclashing_runParserCompleted current recovery

theorem unclashing_runLeased (call : RunCall) (own : call.runId = runId) (current : Datetime)
    (recovery : RecoveryCounts) (leasedJobId : String) :
    Unclashing library root listing runId
      (runLeased library root call current recovery leasedJobId) := by
  subst own
  refine unclashing_followed ?_ fun stop => ?_
  · unfold stopRequested
    split
    · exact unclashing_pure true
    · split
      · exact unclashing_issue .shutdownRequested
      · exact unclashing_pure false
  split
  · exact unclashing_followed (unclashing_issue _) fun _ => unclashing_pure _
  · refine unclashing_followed (unclashing_recordSnapshotOf _ _ current) fun path => ?_
    refine unclashing_followed (unclashing_issue _) fun _ => ?_
    refine unclashing_followed (unclashing_issue _) fun _ => ?_
    split
    · exact unclashing_pure _
    · exact unclashing_runSnapshotRecorded current recovery

theorem unclashing_runQueued (call : RunCall) (own : call.runId = runId) (current : Datetime)
    (recovery : RecoveryCounts) :
    Unclashing library root listing runId (runQueued library root call current recovery) := by
  refine unclashing_followed (unclashing_issue (.leaseNext _ _ _)) fun lease => ?_
  cases lease with
  | none => exact unclashing_pure _
  | some lease =>
      dsimp only
      split
      · exact unclashing_pure _
      · exact unclashing_runLeased call own current recovery lease.jobId

theorem unclashing_runFrom (call : RunCall) (own : call.runId = runId) (current : Datetime)
    (recovery : RecoveryCounts) (checkpoint : Option String) :
    Unclashing library root listing runId
      (runFrom library root call current recovery checkpoint) := by
  cases checkpoint with
  | none =>
      subst own
      refine unclashing_followed (unclashing_discoverAndQueue _ current) fun _ => ?_
      split
      · exact unclashing_pure _
      · exact unclashing_runQueued call rfl current recovery
  | some value =>
      simp only [runFrom, own]
      split_ifs
      · exact unclashing_runQueued call own current recovery
      · exact unclashing_runSnapshotRecorded current recovery
      · exact unclashing_runParserCompleted current recovery
      · exact unclashing_runBatchRecorded recovery
      · exact unclashing_pure _

/-- A call for the run does not raise over another content, while the files of the run
are whole. -/
theorem unclashing_run (call : RunCall) (own : call.runId = runId) :
    Unclashing library root listing runId (run library root call) := by
  have stopPoint : NoClash (requireStopPoint call.stopAfter) := by
    apply noClash_of_foreign
    simp [requireStopPoint]
  have minimum : NoClash (requireMinimum call.minimumFreeBytes) := by
    apply noClash_of_foreign
    simp [requireMinimum]
  have free : ∀ bytes, NoClash (requireFree bytes call.minimumFreeBytes) := by
    intro bytes
    apply noClash_of_foreign
    simp [requireFree]
  refine unclashing_followed (unclashing_require stopPoint) fun _ => ?_
  refine unclashing_followed (unclashing_issue .ensurePaths) fun _ => ?_
  refine unclashing_followed (unclashing_require minimum) fun _ => ?_
  refine unclashing_followed (unclashing_issue .diskFree) fun bytes => ?_
  refine unclashing_followed (unclashing_require (free bytes)) fun _ => ?_
  refine unclashing_followed ?_ fun current => ?_
  · cases call.now with
    | some now => exact unclashing_pure now
    | none => exact unclashing_followed (unclashing_issue .readClock) fun _ => unclashing_pure _
  refine unclashing_followed (unclashing_issue .openDatabase) fun _ => ?_
  refine unclashing_followed (unclashing_issue .registerOwner) fun _ => ?_
  refine unclashing_followed (unclashing_issue (.recoverAbandoned current)) fun recovery => ?_
  refine unclashing_followed (own ▸ unclashing_ensureRun) fun _ => ?_
  refine unclashing_followed (unclashing_issue (.loadCheckpoint _ _)) fun checkpoint => ?_
  exact unclashing_runFrom call own current recovery checkpoint

end Stages

/-! ## Histories -/

section Histories

variable (library : StandardLibrary) (root : String) (listing : List (String × Json))
  (runId : String)

/-- The files of the run are whole, and no call for it has raised over another
content. -/
structure AllOrNothing (pool : WorkerPool Unit) : Prop where
  files : WholeFiles library root listing runId pool.world
  noClash : ∀ session, pool.sessions () = some session → session.call.runId = runId →
    ∀ raised, session.rest = .raised raised → ¬ Clash raised

/-- A call for the run, while its files are whole, does not raise over another
content. -/
abbrev ExpectingWhole (pool : WorkerPool Unit) : Prop :=
  Pool.Expecting (fun call => call.runId = runId) (Possible library root listing runId)
    (fun raised => ¬ Clash raised) (fun _ => True) pool

variable {library root listing runId}

theorem wholeFiles_empty : WholeFiles library root listing runId World.empty :=
  fun _ _ _ _ stored => by cases stored

/-- Of a move: the files of the run stay whole exactly when a create is not cut
short. -/
theorem wholeFiles_move_iff (next : WorkerMove Unit) (pool : WorkerPool Unit)
    (sound : SoundPool library root (servesRun listing runId) pool)
    (whole : WholeFiles library root listing runId pool.world) :
    WholeFiles library root listing runId (workerMove library root next pool).2.world ↔
      Pool.MoveMeets (fun _ => True) (StepWhole runId) pool next := by
  have decided : Pool.MoveMeets (fun _ => True) (StepWhole runId) pool next ↔
      (WholeFiles library root listing runId pool.world →
        WholeFiles library root listing runId (workerMove library root next pool).2.world) := by
    refine Pool.moveMeets_iff_related (fun before after =>
      WholeFiles library root listing runId before →
        WholeFiles library root listing runId after) (fun _ => id) ?_
    intro process environment session command rest current remaining
    have respected := sound.2 process session current
    rw [remaining] at respected
    have kept := @wholeFiles_step_iff library root listing runId pool.world command environment
      session respected.1 whole
    exact ⟨fun uncut _ => kept.mpr uncut, fun keeps => kept.mp (keeps whole)⟩
  exact ⟨fun later => decided.mpr fun _ => later, fun meets => decided.mp meets whole⟩

theorem expectingWhole_move (next : WorkerMove Unit) (pool : WorkerPool Unit)
    (serves : Pool.MoveMeets (fun _ => True) (StepServes listing runId) pool next)
    (whole : WholeFiles library root listing runId pool.world)
    (expecting : ExpectingWhole library root listing runId pool) :
    ExpectingWhole library root listing runId (workerMove library root next pool).2 := by
  refine Pool.expecting_move (fun call own => unclashing_run call own) next pool ?_ expecting
  rintro process environment session command rest rfl current remaining own
  exact possible_performCommand (serves session current command rest remaining own) whole

/-- While the files of the run are whole all along, the calls for it expect them so. -/
theorem expectingWhole_afterMoves {moves : List (WorkerMove Unit)}
    (serves : StepsMeet library root (StepServes listing runId) moves)
    (whole : ∀ earlier later, moves = earlier ++ later →
      WholeFiles library root listing runId (afterMoves library root earlier).world) :
    ExpectingWhole library root listing runId (afterMoves library root moves) := by
  have both : History.Along (workerMove library root) (fun pool next =>
      Pool.MoveMeets (fun _ => True) (StepServes listing runId) pool next ∧
        WholeFiles library root listing runId pool.world) (Pool.idle World.empty) moves := by
    apply (History.along_iff_forall _).mpr
    intro earlier next rest split
    exact ⟨(History.along_iff_forall _).mp serves earlier next rest split,
      whole earlier (next :: rest) split⟩
  exact History.along_invariant _
    (fun next pool meets expecting => expectingWhole_move next pool meets.1 meets.2 expecting)
    Pool.expecting_idle both

theorem allOrNothing_of_expecting {pool : WorkerPool Unit}
    (whole : WholeFiles library root listing runId pool.world)
    (expecting : ExpectingWhole library root listing runId pool) :
    AllOrNothing library root listing runId pool where
  files := whole
  noClash session current own raised isRaised := by
    have expects := expecting () session current own
    rw [isRaised] at expects
    exact expects

end Histories

/-- Along the histories in which the fixture serves one listing to the calls for a run:
its files are always absent or whole, and no call for it raises over another content,
exactly when no create of one of its files is cut short. -/
theorem files_whole_iff (library : StandardLibrary) (root : String)
    (listing : List (String × Json)) (runId : String) (moves : List (WorkerMove Unit))
    (serves : StepsMeet library root (StepServes listing runId) moves) :
    (∀ earlier later, moves = earlier ++ later →
        AllOrNothing library root listing runId (afterMoves library root earlier)) ↔
      StepsMeet library root (StepWhole runId) moves := by
  have decided : (∀ earlier later, moves = earlier ++ later →
      WholeFiles library root listing runId (afterMoves library root earlier).world) ↔
        StepsMeet library root (StepWhole runId) moves := by
    refine History.along_iff_always_of (workerMove library root)
      (fun next pool meets sound => soundPool_move stepServes_respectful next pool meets sound)
      (fun next pool _ sound whole => wholeFiles_move_iff next pool sound whole)
      (Pool.sound_idle durable_empty) wholeFiles_empty serves
  constructor
  · intro always
    exact decided.mp fun earlier later split => (always earlier later split).files
  · rintro uncut earlier later rfl
    have whole := decided.mpr uncut
    apply allOrNothing_of_expecting (whole earlier later rfl)
    apply expectingWhole_afterMoves ((History.along_append _).mp serves).1
    rintro before after rfl
    exact whole before (after ++ later) (List.append_assoc _ _ _)

/-! ## Sample histories -/

/-- A condition on the environments of the steps alone. -/
theorem stepsMeet_of_environments {library : StandardLibrary} {root : String}
    {condition : WorkerSession → Environment → Command → World → Prop}
    {moves : List (WorkerMove Unit)}
    (meets : ∀ environment, Move.step () environment ∈ moves → ∀ session command world,
      condition session environment command world) :
    StepsMeet library root condition moves := by
  apply (History.along_iff_forall _).mpr
  rintro earlier next rest rfl
  cases next with
  | start process call => trivial
  | stop process => trivial
  | step process environment =>
      intro session _ command _ _
      exact meets environment (by simp) session command _

theorem servesListing_sample :
    ServesListing sampleListing (.ok (200, .ok (.obj sampleListing))) where
  listing payload same := by
    cases same
    rfl
  connection := foreign_ok _
  body status body same := by
    cases same
    exact foreign_ok _

/-- The environment in which the write of a file stops after five bytes. -/
def tornEnvironment (number : Nat) : Environment :=
  { sampleEnvironment sampleListing number with torn := some 5 }

/-- The first call writes five bytes of its snapshot; the lease runs out, and a second
call starts. -/
def tornSnapshot : List (WorkerMove Unit) :=
  .start () (sampleCall "run-1" none 0) :: sampleSteps () 0 21 ++
    [.step () (tornEnvironment 21), .stop (), .start () (sampleCall "run-1" none 31000000)] ++
      sampleSteps () 22 14

/-- The same two calls, where the first is cut off once its snapshot is written. -/
def cutSnapshot : List (WorkerMove Unit) :=
  .start () (sampleCall "run-1" none 0) :: sampleSteps () 0 22 ++
    [.stop (), .start () (sampleCall "run-1" none 31000000)] ++ sampleSteps () 22 26

theorem environment_of_sampleSteps {first count : Nat} {environment : Environment}
    (member : Move.step () environment ∈ sampleSteps () first count) :
    ∃ number, environment = sampleEnvironment sampleListing number := by
  obtain ⟨index, _, same⟩ := List.mem_map.mp member
  cases same
  exact ⟨first + index, rfl⟩

theorem serves_tornSnapshot :
    StepsMeet sampleLibrary "/runtime" (StepServes sampleListing "run-1") tornSnapshot := by
  apply stepsMeet_of_environments
  rintro environment member session command world _
  have served : environment.response = .ok (200, .ok (.obj sampleListing)) := by
    simp only [tornSnapshot, List.mem_append, List.mem_cons, List.cons_append, reduceCtorEq,
      Move.step.injEq, true_and, false_or, or_false, List.not_mem_nil] at member
    rcases member with (regular | rfl) | regular
    · obtain ⟨number, rfl⟩ := environment_of_sampleSteps regular
      rfl
    · rfl
    · obtain ⟨number, rfl⟩ := environment_of_sampleSteps regular
      rfl
  exact served ▸ servesListing_sample

/-- The call in progress has raised over another content of the snapshot. -/
def raisedOverSnapshot (session : WorkerSession) : Bool :=
  match session.rest with
  | .raised raised =>
      decide (raised =
        .syntheticWorker "synthetic snapshot already exists with different content")
  | _ => false

/-- The torn snapshot stays, and the second call raises over it. -/
theorem torn_snapshot_ends_run :
    StepsMeet sampleLibrary "/runtime" (StepServes sampleListing "run-1") tornSnapshot ∧
      (afterMoves sampleLibrary "/runtime" tornSnapshot).world.files
          (snapshotPath sampleLibrary "/runtime" "run-1") =
        some ((canonicalJsonBytes (.obj sampleListing)).take 5) ∧
      ((afterMoves sampleLibrary "/runtime" tornSnapshot).sessions ()).any raisedOverSnapshot =
        true ∧
      ¬ AllOrNothing sampleLibrary "/runtime" sampleListing "run-1"
        (afterMoves sampleLibrary "/runtime" tornSnapshot) := by
  obtain ⟨stored, raised⟩ :
      (afterMoves sampleLibrary "/runtime" tornSnapshot).world.files
          (snapshotPath sampleLibrary "/runtime" "run-1") =
        some ((canonicalJsonBytes (.obj sampleListing)).take 5) ∧
      ((afterMoves sampleLibrary "/runtime" tornSnapshot).sessions ()).any raisedOverSnapshot =
        true := by decide +kernel
  refine ⟨serves_tornSnapshot, stored, raised, fun whole => ?_⟩
  have complete := whole.files _ _ (Or.inl ⟨rfl, rfl⟩) _ stored
  exact absurd complete (by decide +kernel)

/-- A call that is cut off between two commands leaves whole files. -/
theorem cut_snapshot_stays_whole :
    AllOrNothing sampleLibrary "/runtime" sampleListing "run-1"
      (afterMoves sampleLibrary "/runtime" cutSnapshot) := by
  have regular : ∀ environment, Move.step () environment ∈ cutSnapshot →
      ∃ number, environment = sampleEnvironment sampleListing number := by
    intro environment member
    simp only [cutSnapshot, List.mem_append, List.mem_cons, List.cons_append, reduceCtorEq,
      false_or, or_false, List.not_mem_nil] at member
    exact member.elim environment_of_sampleSteps environment_of_sampleSteps
  refine (files_whole_iff sampleLibrary "/runtime" sampleListing "run-1" cutSnapshot ?_).mpr ?_
    cutSnapshot [] (List.append_nil _).symm
  · apply stepsMeet_of_environments
    rintro environment member session command world _
    obtain ⟨number, rfl⟩ := regular environment member
    exact servesListing_sample
  · apply stepsMeet_of_environments
    rintro environment member session command world _ path content _ _ written torn
    obtain ⟨number, rfl⟩ := regular environment member
    cases torn

end ScraperProject.Orchestration
