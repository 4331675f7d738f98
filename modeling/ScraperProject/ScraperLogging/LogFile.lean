import ScraperProject.Foundation.History
import ScraperProject.Foundation.JsonReader
import ScraperProject.ScraperLogging.RepeatedRedaction
import ScraperProject.ScraperLogging.Setup

/-!
Contract: the persistent structured log.

Owns `scraper_logging.setup._JsonFormatter`, a logging process (its root logger and the
files that its handlers append to) with its two operations, configuring and logging, and
the round trip of the log file over every run of them: the appended lines decode to the
redacted records, in their order.

Does not own what reaches the error stream, or the text of a formatted time. Three
kinds of records are left out: one whose message cannot be formatted, for which the
redacting filter raises out of the logging call, one whose write fails, and one at a
level of 0 or below, which `logging` drops whatever the level of the root logger.
-/

namespace ScraperProject.ScraperLogging

open Foundation

/-! ## Records -/

/-- What the formatters read of a `logging.LogRecord`. An `event` that is not a string is
none. -/
structure EmittedRecord (Argument Created : Type) extends LogRecord Argument where
  created : Created
  levelno : Int
  levelname : String
  name : String
  event : Option String

/-- What a process takes from `logging`: the formatting of messages, of times and of
lines, and the filters that the program does not own. -/
structure LoggingLibrary (Argument Created : Type) where
  interpolate : String → List Argument → String
  formatTime : Created → String
  formatLine : String → EmittedRecord Argument Created → List Char
  otherFilter : Nat → EmittedRecord Argument Created → Bool × EmittedRecord Argument Created

section Process

variable {Argument Created : Type} (library : LoggingLibrary Argument Created)

/-- The payload of `_JsonFormatter.format`. -/
def payload (record : EmittedRecord Argument Created) : List (String × Json) :=
  [ ("timestamp", .str (library.formatTime record.created)),
    ("level", .str record.levelname),
    ("logger", .str record.name),
    ("message", .str (record.getMessage library.interpolate)) ] ++
  (record.event.map fun event => ("event", .str event)).toList

/-- `_JsonFormatter.format`. -/
def jsonFormat (record : EmittedRecord Argument Created) : List Char :=
  Json.dumps .spaced (.obj (payload library record))

/-- What `json.loads` makes of the formatted record. -/
def entry (record : EmittedRecord Argument Created) : Json :=
  Json.sortKeys (.obj (payload library record))

/-! ## Handlers -/

/-- The record that a redacting filter leaves. -/
def redactedRecord (record : EmittedRecord Argument Created) : EmittedRecord Argument Created :=
  { record with toLogRecord := (filter library.interpolate record.toLogRecord).2 }

def runFilter (record : EmittedRecord Argument Created) :
    Filter → Bool × EmittedRecord Argument Created
  | .redacting =>
      ((filter library.interpolate record.toLogRecord).1, redactedRecord library record)
  | .other identity => library.otherFilter identity record

/-- `Filterer.filter`: the first refusal ends it. -/
def runFilters : List Filter → EmittedRecord Argument Created →
    Bool × EmittedRecord Argument Created
  | [], record => (true, record)
  | first :: rest, record =>
      match runFilter library record first with
      | (true, passed) => runFilters rest passed
      | (false, refused) => (false, refused)

/-- `Handler.format`. -/
def formatted (record : EmittedRecord Argument Created) : Option Formatter → List Char
  | some .json => jsonFormat library record
  | some (.line format) => library.formatLine format record
  | none => library.formatLine "%(message)s" record

/-- What the files hold, by path. -/
abbrev LogFiles := String → List Char

/-- `emit` of a handler: the formatted record and a newline, at the end of its file. -/
def Handler.emit (handler : Handler) (record : EmittedRecord Argument Created)
    (files : LogFiles) : LogFiles :=
  match handler.sink with
  | .file path => fun other =>
      if other = path then files path ++ (formatted library record handler.formatter ++ ['\n'])
      else files other
  | .stderr | .other => files

/-- `Handler.handle`: the record is changed in place by the filters. -/
def Handler.handle (handler : Handler) (record : EmittedRecord Argument Created)
    (files : LogFiles) : EmittedRecord Argument Created × LogFiles :=
  match runFilters library handler.filters record with
  | (true, passed) => (passed, handler.emit library passed files)
  | (false, refused) => (refused, files)

/-- `Logger.callHandlers`. -/
def callHandlers : List Handler → EmittedRecord Argument Created → LogFiles → LogFiles
  | [], _, files => files
  | handler :: rest, record, files =>
      callHandlers rest (handler.handle library record files).1
        (handler.handle library record files).2

/-! ## The process -/

structure LogProcess where
  root : RootLogger
  files : LogFiles

inductive LoggingCall (Argument Created : Type) where
  | configure (environment : Environment) (level : Int) (structured : Bool)
      (logPath : Option String)
  | log (record : EmittedRecord Argument Created)

/-- A record below the level of the root logger is dropped. -/
def performLogging :
    LoggingCall Argument Created → LogProcess → Except PyError Unit × LogProcess
  | .configure environment level structured logPath, process =>
      let (result, root) := configureLogging environment level structured logPath process.root
      (result, { process with root := root })
  | .log record, process =>
      if record.levelno < process.root.level then (.ok (), process)
      else
        let files := callHandlers library process.root.handlers record process.files
        (.ok (), { process with files := files })

/-- A new process: no handler is installed and the level is WARNING. -/
def newProcess (files : LogFiles) : LogProcess where
  root := { handlers := [], closed := [], level := 30, firstFree := 0, isTaken := by simp }
  files := files

/-- The installed handlers that append to a file. -/
def copies (path : String) (root : RootLogger) : Nat :=
  root.handlers.countP fun handler => handler.sink = .file path

/-- The records that a call appends to a file. -/
def appended (path : String) (process : LogProcess) :
    LoggingCall Argument Created → List (EmittedRecord Argument Created)
  | .configure .. => []
  | .log record =>
      if record.levelno < process.root.level then []
      else List.replicate (copies path process.root) (redactedRecord library record)

/-- The records that calls append to a file, first to last. -/
def appendedBy (path : String) : LogProcess → List (LoggingCall Argument Created) →
    List (EmittedRecord Argument Created)
  | _, [] => []
  | process, call :: rest =>
      appended library path process call ++
        appendedBy path (performLogging library call process).2 rest

/-! ## Handlers of the program -/

/-- A handler as `configure_logging` makes it. -/
structure IsCreated (handler : Handler) : Prop where
  redacting : handler.filters = [.redacting]
  json : ∀ path, handler.sink = .file path → handler.formatter = some .json

/-- What a process keeps: its handlers are its own, they are few, and at most two append
to one file. -/
structure LogInvariant (root : RootLogger) : Prop where
  created : ∀ handler ∈ root.handlers, IsCreated handler
  few : root.handlers.length ≤ 3
  twice : ∀ path, copies path root ≤ 2

variable {environment : Environment} {level : Int} {structured : Bool} {logPath : Option String}
  {before : RootLogger}

theorem isCreated_of_created {handler : Handler}
    (created : handler ∈ createdHandlers structured logPath before) : IsCreated handler := by
  rcases List.mem_cons.mp created with rfl | file
  · exact ⟨rfl, fun path isFile => by cases isFile⟩
  · cases logPath with
    | none => cases file
    | some path =>
        obtain rfl := List.mem_singleton.mp file
        exact ⟨rfl, fun _ _ => rfl⟩

theorem left_of_removal {outcome : Except PyError Unit} {left : RootLogger}
    (ended : (removal environment).run 0 before.reserve = (outcome, left)) :
    left.handlers.Sublist before.handlers :=
  @Loop.Removes.sublist_of_run _ _ _ _ 0 before.reserve left _ (removal_removes environment) _ ended

theorem half_of_removal {left : RootLogger}
    (ended : (removal environment).run 0 before.reserve = (.ok (), left)) :
    left.handlers.length ≤ before.handlers.length / 2 := by
  have half := (removal_removes environment).length_of_run (Nat.zero_le _) ended
  have counted : left.handlers.length = 0 + (before.handlers.length - 0) / 2 := half
  omega

/-- A log file that cannot be opened gets no handler. -/
theorem addLogFile_error {raised : PyError} {after : RootLogger}
    (refused : addLogFile environment logPath before = (.error raised, after)) :
    after = before := by
  cases logPath with
  | none => cases refused
  | some path =>
      simp only [addLogFile] at refused
      split at refused
      · cases refused
        rfl
      · cases refused
        rfl
      · cases refused

/-- What any call leaves, also one that raises: some of the handlers, or at most half of
them and some of the created ones. -/
theorem handlers_of_call {result : Except PyError Unit} {after : RootLogger}
    (called : configureLogging environment level structured logPath before = (result, after)) :
    after.handlers.Sublist before.handlers ∨ ∃ left created, after.handlers = left ++ created ∧
      left.Sublist before.handlers ∧ left.length ≤ before.handlers.length / 2 ∧
        created.Sublist (createdHandlers structured logPath before) := by
  cases result with
  | ok _ =>
      obtain ⟨left, ended, handlers, _⟩ := configureLogging_eq_ok called
      exact Or.inr ⟨left.handlers, _, handlers, left_of_removal ended, half_of_removal ended,
        List.Sublist.refl _⟩
  | error raised =>
      unfold configureLogging at called
      rcases ended : (removal environment).run 0 before.reserve with ⟨_ | _, left⟩
      · rw [ended] at called
        cases called
        exact Or.inl (left_of_removal ended)
      · right
        rw [ended] at called
        dsimp only at called
        -- The log file could not be opened; the stream handler stays.
        rcases added : addLogFile environment logPath
            (left.addHandler (streamHandler structured before.firstFree)) with ⟨_ | _, later⟩
        · rw [added] at called
          cases called
          rw [addLogFile_error added]
          by_cases installed : streamHandler structured before.firstFree ∈ left.handlers
          · exact ⟨left.handlers, [], by simp [RootLogger.addHandler, installed],
              left_of_removal ended, half_of_removal ended, List.nil_sublist _⟩
          · exact ⟨left.handlers, [streamHandler structured before.firstFree],
              RootLogger.handlers_addHandler installed, left_of_removal ended,
              half_of_removal ended, List.singleton_sublist.mpr List.mem_cons_self⟩
        · rw [added] at called
          cases called

/-! ## Invariant -/

theorem copies_created (path : String) :
    (createdHandlers structured logPath before).countP (fun handler => handler.sink = .file path) ≤
      1 := by
  cases logPath with
  | none => simp [createdHandlers, streamHandler]
  | some own =>
      simp only [createdHandlers, streamHandler, Option.map_some, Option.toList_some,
        List.countP_cons, List.countP_nil, fileHandler]
      split <;> simp

theorem LogInvariant.call {result : Except PyError Unit} {after : RootLogger}
    (invariant : LogInvariant before)
    (called : configureLogging environment level structured logPath before = (result, after)) :
    LogInvariant after := by
  rcases handlers_of_call called with some | ⟨left, created, handlers, kept, half, new⟩
  · exact
      { created := fun handler member => invariant.created handler (some.subset member)
        few := some.length_le.trans invariant.few
        twice := fun path => some.countP_le.trans (invariant.twice path) }
  · have few := invariant.few
    have atMostTwo : created.length ≤ 2 := by
      refine new.length_le.trans ?_
      cases logPath <;> simp [createdHandlers]
    refine ⟨fun handler member => ?_, ?_, fun path => ?_⟩
    · rw [handlers, List.mem_append] at member
      rcases member with old | isNew
      · exact invariant.created handler (kept.subset old)
      · exact isCreated_of_created (new.subset isNew)
    · rw [handlers, List.length_append]
      omega
    · have one := new.countP_le.trans (copies_created path)
      have rest : left.countP (fun handler => handler.sink = .file path) ≤ left.length :=
        List.countP_le_length
      rw [copies, handlers, List.countP_append]
      omega

theorem newProcess_invariant (files : LogFiles) : LogInvariant (newProcess files).root where
  created handler member := by cases member
  few := Nat.zero_le 3
  twice _ := Nat.zero_le 2

theorem performLogging_invariant (call : LoggingCall Argument Created) (process : LogProcess)
    (invariant : LogInvariant process.root) :
    LogInvariant (performLogging library call process).2.root := by
  cases call with
  | configure environment level structured logPath => exact invariant.call (Prod.eta _).symm
  | log record =>
      simp only [performLogging]
      split
      · exact invariant
      · exact invariant

/-! ## Logging a record -/

/-- The line that a record makes in a log file. -/
def logLine (record : EmittedRecord Argument Created) : List Char :=
  jsonFormat library record ++ ['\n']

variable {library}

theorem redactedRecord_again (record : EmittedRecord Argument Created) :
    redactedRecord library (redactedRecord library record) = redactedRecord library record := by
  unfold redactedRecord
  rw [filter_again]

theorem handle_created {handler : Handler} (isCreated : IsCreated handler)
    (record : EmittedRecord Argument Created) (files : LogFiles) (path : String) :
    (handler.handle library record files).1 = redactedRecord library record ∧
      (handler.handle library record files).2 path = files path ++
        if handler.sink = .file path then logLine library (redactedRecord library record)
        else [] := by
  have passed : handler.handle library record files =
      (redactedRecord library record, handler.emit library (redactedRecord library record) files) := by
    simp [Handler.handle, isCreated.redacting, runFilters, runFilter, filter]
  rw [passed]
  refine ⟨rfl, ?_⟩
  unfold Handler.emit
  cases sink : handler.sink with
  | stderr | other => simp
  | file own =>
      by_cases same : own = path
      · simp [same, isCreated.json own sink, formatted, logLine]
      · have apart : path ≠ own := fun isOwn => same isOwn.symm
        simp [same, apart]

/-- Each handler of a file appends the line of the redacted record, and leaves the next
one a record that is redacted already. -/
theorem callHandlers_created {handlers : List Handler}
    (created : ∀ handler ∈ handlers, IsCreated handler)
    (record : EmittedRecord Argument Created) (files : LogFiles) (path : String) :
    callHandlers library handlers record files path = files path ++
      (List.replicate (handlers.countP fun handler => handler.sink = .file path)
        (logLine library (redactedRecord library record))).flatten := by
  induction handlers generalizing record files with
  | nil => simp [callHandlers]
  | cons handler rest inductionHypothesis =>
      obtain ⟨isCreated, others⟩ := List.forall_mem_cons.mp created
      obtain ⟨passed, emitted⟩ := handle_created isCreated record files path
      rw [callHandlers, inductionHypothesis others, passed, emitted, redactedRecord_again,
        List.append_assoc]
      congr 1
      rw [List.countP_cons]
      by_cases own : handler.sink = .file path
      · simp [own, List.replicate_succ]
      · simp [own]

/-- What a call appends to a file. -/
theorem performLogging_files (call : LoggingCall Argument Created) {process : LogProcess}
    (invariant : LogInvariant process.root) (path : String) :
    (performLogging library call process).2.files path = process.files path ++
      ((appended library path process call).map (logLine library)).flatten := by
  cases call with
  | configure environment level structured logPath => simp [performLogging, appended]
  | log record =>
      simp only [performLogging, appended]
      split
      · simp
      · rw [List.map_replicate]
        exact callHandlers_created invariant.created record process.files path

theorem files_after (calls : List (LoggingCall Argument Created)) {process : LogProcess}
    (invariant : LogInvariant process.root) (path : String) :
    (History.after (performLogging library) process calls).files path = process.files path ++
      ((appendedBy library path process calls).map (logLine library)).flatten := by
  induction calls generalizing process with
  | nil => simp [appendedBy]
  | cons call rest inductionHypothesis =>
      rw [History.after, inductionHypothesis (performLogging_invariant library call process
        invariant), performLogging_files call invariant, appendedBy, List.map_append,
        List.flatten_append, List.append_assoc]

/-! ## Reading the file -/

variable (library)

theorem newline_notMem_jsonFormat (record : EmittedRecord Argument Created) :
    '\n' ∉ jsonFormat library record := by
  intro member
  have printable := Json.allPrintable_dumps .spaced (.obj (payload library record)) '\n' member
  exact absurd printable (by decide)

/-- The lines of a log are the formatted records, and an empty one at its end. -/
theorem lines_log (records : List (EmittedRecord Argument Created)) :
    lines '\n' (records.map (logLine library)).flatten =
      records.map (jsonFormat library) ++ [[]] := by
  induction records with
  | nil => rfl
  | cons record rest inductionHypothesis =>
      have first : ((record :: rest).map (logLine library)).flatten =
          jsonFormat library record ++ '\n' :: (rest.map (logLine library)).flatten := by
        simp [logLine]
      rw [first, lines_append_newline, lines_of_notMem (newline_notMem_jsonFormat library record),
        inductionHypothesis]
      rfl

theorem loads_log (records : List (EmittedRecord Argument Created)) :
    (lines '\n' (records.map (logLine library)).flatten).dropLast.map Json.loads =
      records.map fun record => some (entry library record) := by
  rw [lines_log, List.dropLast_concat, List.map_map]
  exact List.map_congr_left fun record _ => Json.loads_dumps .spaced _

/-- The log file of a process reads back. Whatever calls configure logging, some of them
failing, and log records between them: what the process appends to a file are complete
lines, one after the other the JSON objects of the redacted records of an enabled level,
each as often as handlers of the file are installed, which is at most twice. -/
theorem log_file_reads_back (files : LogFiles) (calls : List (LoggingCall Argument Created))
    (path : String) :
    let process := History.after (performLogging library) (newProcess files) calls
    ∃ text, process.files path = files path ++ text ∧
      (lines '\n' text).getLast? = some [] ∧
      (lines '\n' text).dropLast.map Json.loads =
        (appendedBy library path (newProcess files) calls).map (fun record =>
          some (entry library record)) ∧
      copies path process.root ≤ 2 := by
  intro process
  refine ⟨_, files_after calls (newProcess_invariant files) path, ?_, loads_log library _, ?_⟩
  · rw [lines_log]
    exact List.getLast?_concat
  · have invariant := @History.after_invariant _ _ _ (performLogging library)
      (fun process => LogInvariant process.root) (performLogging_invariant library) _
      (newProcess_invariant files) calls
    exact invariant.twice path

/-! ## After a configuration -/

/-- Logging leaves the handlers and the level as they are. -/
theorem root_of_log (record : EmittedRecord Argument Created) (process : LogProcess) :
    (performLogging library (.log record) process).2.root = process.root := by
  simp only [performLogging]
  split <;> rfl

theorem appendedBy_logs (path : String) (records : List (EmittedRecord Argument Created))
    (process : LogProcess) :
    appendedBy library path process (records.map .log) =
      (records.filter fun record => process.root.level ≤ record.levelno).flatMap fun record =>
        List.replicate (copies path process.root) (redactedRecord library record) := by
  induction records generalizing process with
  | nil => rfl
  | cons record rest inductionHypothesis =>
      rw [List.map_cons, appendedBy, inductionHypothesis, root_of_log, List.filter_cons]
      by_cases enabled : process.root.level ≤ record.levelno
      · have notBelow : ¬ record.levelno < process.root.level := by omega
        simp [appended, enabled, notBelow]
      · have isBelow : record.levelno < process.root.level := by omega
        simp [appended, enabled, isBelow]

theorem level_of_call {after : RootLogger}
    (returned : configureLogging environment level structured logPath before = (.ok (), after)) :
    after.level = level := by
  unfold configureLogging at returned
  rcases ended : (removal environment).run 0 before.reserve with ⟨_ | _, left⟩
  · rw [ended] at returned
    cases returned
  · rw [ended] at returned
    dsimp only at returned
    rcases added : addLogFile environment logPath
        (left.addHandler (streamHandler structured before.firstFree)) with ⟨_ | _, later⟩
    · rw [added] at returned
      cases returned
    · rw [added] at returned
      cases returned
      rfl

/-- A call that returns installs a handler of its log file. -/
theorem copies_of_call {path : String} {after : RootLogger}
    (returned : configureLogging environment level structured (some path) before =
      (.ok (), after)) : 1 ≤ copies path after := by
  obtain ⟨left, _, handlers, _⟩ := configureLogging_eq_ok returned
  apply List.countP_pos_iff.mpr
  refine ⟨fileHandler path (before.firstFree + 1), ?_, by simp [fileHandler]⟩
  rw [handlers]
  exact List.mem_append_right _ (by simp [createdHandlers])

/-- No record of an enabled level is lost. Once `configure_logging` has returned with a
log path, after any earlier calls, the file gets exactly the redacted records that are
logged at its level or above, in their order: all of them once, or all of them twice. -/
theorem configured_log_is_complete (files : LogFiles)
    (calls : List (LoggingCall Argument Created)) (environment : Environment) (level : Int)
    (structured : Bool) (path : String) (records : List (EmittedRecord Argument Created))
    (returned : (configureLogging environment level structured (some path)
      (History.after (performLogging library) (newProcess files) calls).root).1 = .ok ()) :
    let process := History.after (performLogging library) (newProcess files) calls
    let later := History.after (performLogging library) process
      (.configure environment level structured (some path) :: records.map .log)
    ∃ times text, 1 ≤ times ∧ times ≤ 2 ∧ later.files path = process.files path ++ text ∧
      (lines '\n' text).dropLast.map Json.loads =
        (records.filter fun record => level ≤ record.levelno).flatMap fun record =>
          List.replicate times (some (entry library (redactedRecord library record))) := by
  intro process later
  have invariant := @History.after_invariant _ _ _ (performLogging library)
    (fun process => LogInvariant process.root) (performLogging_invariant library) _
    (newProcess_invariant files) calls
  have called : configureLogging environment level structured (some path) process.root =
      (.ok (), (performLogging library (.configure environment level structured (some path))
        process).2.root) := Prod.ext returned rfl
  refine ⟨_, _, copies_of_call called, (invariant.call called).twice path,
    files_after _ invariant path, ?_⟩
  rw [loads_log, appendedBy, appended, List.nil_append, appendedBy_logs, level_of_call called,
    List.map_flatMap]
  simp only [List.map_replicate]
  rfl

end Process

/-- Messages without arguments, at one time. -/
def formatting : LoggingLibrary Unit Unit where
  interpolate message _ := message
  formatTime _ := "2026-08-08T10:00:00Z"
  formatLine _ record := record.msg.toList
  otherFilter _ record := (true, record)

/-- A process that configures its log for a second time. -/
theorem configured_twice_is_complete :
    ∃ times text, 1 ≤ times ∧ times ≤ 2 ∧
      (History.after (performLogging formatting)
        (History.after (performLogging formatting) (newProcess fun _ => [])
          [.configure calm 20 true (some "worker.jsonl")])
        [.configure calm 20 true (some "worker.jsonl"),
          .log ⟨⟨"token=a", []⟩, (), 20, "INFO", "worker", none⟩]).files "worker.jsonl" =
        [] ++ text ∧
      (lines '\n' text).dropLast.map Json.loads =
        List.replicate times (some (entry formatting
          (redactedRecord formatting ⟨⟨"token=a", []⟩, (), 20, "INFO", "worker", none⟩))) ++ [] :=
  configured_log_is_complete formatting (fun _ => [])
    [.configure calm 20 true (some "worker.jsonl")] calm 20 true "worker.jsonl"
    [⟨⟨"token=a", []⟩, (), 20, "INFO", "worker", none⟩] (by decide)

end ScraperProject.ScraperLogging
