import ScraperProject.Errors
import ScraperProject.Foundation.Iteration

/-!
Contract: `scraper_logging.setup.configure_logging`.

Owns the root logger as the call sees it (its handlers, the handlers closed so far and
its level), the handlers that the call creates, the loop that removes the earlier ones,
and which of them are left: a handler is skipped whenever the one before it is removed.

Does not own what a handler writes, nor why closing a handler or opening the log file
may fail.
-/

namespace ScraperProject.ScraperLogging

open Foundation

/-! ## Handlers -/

inductive Filter where
  | redacting
  | other (identity : Nat)
deriving DecidableEq

inductive Formatter where
  | json
  | line (format : String)
deriving DecidableEq

inductive Sink where
  | stderr
  | file (path : String)
  | other
deriving DecidableEq

/-- A handler object. Objects that exist together differ in their identities. -/
structure Handler where
  identity : Nat
  sink : Sink
  filters : List Filter
  formatter : Option Formatter
deriving DecidableEq

/-- The root logger, the handlers closed so far, and a bound on the identities of the
installed handlers. -/
structure RootLogger where
  handlers : List Handler
  closed : List Handler
  level : Int
  firstFree : Nat
  isTaken : ∀ handler ∈ handlers, handler.identity < firstFree

namespace RootLogger

/-- The identity `firstFree` is given to a new object. -/
def reserve (root : RootLogger) : RootLogger :=
  { root with
    firstFree := root.firstFree + 1
    isTaken := fun handler member => Nat.lt_succ_of_lt (root.isTaken handler member) }

/-- `addHandler`: a handler is installed once. -/
def addHandler (handler : Handler) (root : RootLogger) : RootLogger :=
  { root with
    handlers := if handler ∈ root.handlers then root.handlers else root.handlers ++ [handler]
    firstFree := max root.firstFree (handler.identity + 1)
    isTaken := by
      intro other member
      by_cases installed : handler ∈ root.handlers
      · rw [if_pos installed] at member
        have isTaken := root.isTaken other member
        omega
      · rw [if_neg installed, List.mem_append, List.mem_singleton] at member
        rcases member with member | rfl
        · have isTaken := root.isTaken other member
          omega
        · omega }

/-- `removeHandler`. -/
def removeHandler (handler : Handler) (root : RootLogger) : RootLogger :=
  { root with
    handlers := root.handlers.erase handler
    isTaken := fun other member => root.isTaken other (List.mem_of_mem_erase member) }

/-- `Handler.close`. -/
def close (handler : Handler) (root : RootLogger) : RootLogger :=
  { root with closed := handler :: root.closed }

/-- `setLevel`. -/
def setLevel (level : Int) (root : RootLogger) : RootLogger := { root with level := level }

/-- A handler with a free identity is not installed. -/
theorem notMem_of_free {handler : Handler} {root : RootLogger}
    (isFree : root.firstFree ≤ handler.identity) : handler ∉ root.handlers := by
  intro member
  have isTaken := root.isTaken handler member
  omega

theorem handlers_addHandler {handler : Handler} {root : RootLogger}
    (notInstalled : handler ∉ root.handlers) :
    (root.addHandler handler).handlers = root.handlers ++ [handler] :=
  if_neg notInstalled

end RootLogger

/-! ## The call -/

/-- What may fail in a call: closing a handler, and the directory and the file of the log
path. -/
structure Environment where
  closing : Handler → Except PyError Unit
  makeParent : String → Except PyError Unit
  openLog : String → Except PyError Unit

/-- `for existing_handler in root.handlers`. A handler whose `close` raises is closed. -/
def removal (environment : Environment) : Loop RootLogger Handler PyError where
  items := RootLogger.handlers
  body handler root := (environment.closing handler, (root.removeHandler handler).close handler)
  isShrinking _ _ := List.length_erase_le

/-- The stream handler, with its filter and its formatter. -/
def streamHandler (structured : Bool) (identity : Nat) : Handler where
  identity := identity
  sink := .stderr
  filters := [.redacting]
  formatter :=
    some (if structured then .json else .line "%(asctime)s %(levelname)s %(name)s %(message)s")

/-- The file handler, with its filter and its formatter. -/
def fileHandler (path : String) (identity : Nat) : Handler where
  identity := identity
  sink := .file path
  filters := [.redacting]
  formatter := some .json

/-- `if log_path is not None`. -/
def addLogFile (environment : Environment) :
    Option String → RootLogger → Except PyError Unit × RootLogger
  | none, root => (.ok (), root)
  | some path, root =>
      match environment.makeParent path, environment.openLog path with
      | .error raised, _ => (.error raised, root)
      | .ok _, .error raised => (.error raised, root)
      | .ok _, .ok _ => (.ok (), root.reserve.addHandler (fileHandler path root.firstFree))

/-- `configure_logging`. -/
def configureLogging (environment : Environment) (level : Int) (structured : Bool)
    (logPath : Option String) (root : RootLogger) : Except PyError Unit × RootLogger :=
  let handler := streamHandler structured root.firstFree
  match (removal environment).run 0 root.reserve with
  | (.error raised, left) => (.error raised, left)
  | (.ok _, left) =>
      match addLogFile environment logPath (left.addHandler handler) with
      | (.error raised, later) => (.error raised, later)
      | (.ok _, later) => (.ok (), later.setLevel level)

/-- The handlers that a call creates. -/
def createdHandlers (structured : Bool) (logPath : Option String) (root : RootLogger) :
    List Handler :=
  streamHandler structured root.firstFree ::
    (logPath.map fun path => fileHandler path (root.firstFree + 1)).toList

/-! ## What a call leaves -/

variable {environment : Environment} {level : Int} {structured : Bool} {logPath : Option String}
  {before after left : RootLogger}

theorem removal_removes (environment : Environment) : (removal environment).Removes :=
  fun _ _ => rfl

/-- The loop takes no identity. -/
theorem firstFree_of_removal
    (ended : (removal environment).run 0 before = (.ok (), left)) :
    left.firstFree = before.firstFree := by
  have kept := @Loop.holds_of_run _ _ _ (removal environment) 0 before left
    (fun _ root => root.firstFree = before.firstFree)
    (by
      intro _ root handler next holds _ isBody
      obtain ⟨_, rfl⟩ := Prod.mk.inj isBody
      exact holds)
    rfl ended
  exact kept.choose_spec.1

/-- The file handler is installed at the end. -/
theorem handlers_of_addLogFile
    (added : addLogFile environment logPath before = (.ok (), after)) :
    after.handlers = before.handlers ++
        (logPath.map fun path => fileHandler path before.firstFree).toList ∧
      after.closed = before.closed := by
  cases logPath with
  | none =>
      cases added
      exact ⟨(List.append_nil _).symm, rfl⟩
  | some path =>
      simp only [addLogFile] at added
      split at added
      · cases added
      · cases added
      · cases added
        have isNew : fileHandler path before.firstFree ∉ before.handlers :=
          RootLogger.notMem_of_free (Nat.le_refl before.firstFree)
        exact ⟨@RootLogger.handlers_addHandler _ before.reserve isNew, rfl⟩

/-- The created handlers come after the handlers that the loop leaves. -/
theorem configureLogging_eq_ok
    (returned : configureLogging environment level structured logPath before = (.ok (), after)) :
    ∃ left, (removal environment).run 0 before.reserve = (.ok (), left) ∧
      after.handlers = left.handlers ++ createdHandlers structured logPath before ∧
        after.closed = left.closed := by
  unfold configureLogging at returned
  rcases ended : (removal environment).run 0 before.reserve with ⟨_ | _, left⟩
  · rw [ended] at returned
    cases returned
  · rw [ended] at returned
    dsimp only at returned
    rcases added : addLogFile environment logPath
        (left.addHandler (streamHandler structured before.firstFree)) with ⟨_ | _, later⟩
    · rw [added] at returned
      cases returned
    · rw [added] at returned
      cases returned
      obtain ⟨handlers, closed⟩ := handlers_of_addLogFile added
      have earlier : left.handlers ⊆ before.reserve.handlers :=
        @Loop.Removes.subset_of_run _ _ _ (removal environment) 0 before.reserve _ _
          (removal_removes environment) ended
      have isFree : streamHandler structured before.firstFree ∉ before.handlers :=
        RootLogger.notMem_of_free (Nat.le_refl before.firstFree)
      have isNew : streamHandler structured before.firstFree ∉ left.handlers :=
        fun member => isFree (earlier member)
      have nextFree : (left.addHandler (streamHandler structured before.firstFree)).firstFree =
          before.firstFree + 1 := by
        have firstFree : left.firstFree = before.firstFree + 1 := firstFree_of_removal ended
        show max left.firstFree (before.firstFree + 1) = before.firstFree + 1
        omega
      refine ⟨left, rfl, ?_, closed⟩
      show later.handlers = left.handlers ++ createdHandlers structured logPath before
      rw [handlers, RootLogger.handlers_addHandler isNew, nextFree, List.append_assoc]
      rfl

/-- Half of the earlier handlers are left, in front of the created ones. -/
theorem length_of_configureLogging
    (returned : configureLogging environment level structured logPath before = (.ok (), after)) :
    after.handlers.length = before.handlers.length / 2 +
      (createdHandlers structured logPath before).length := by
  obtain ⟨left, ended, handlers, _⟩ := configureLogging_eq_ok returned
  have half := (removal_removes environment).length_of_run (Nat.zero_le _) ended
  have sameLength : left.handlers.length = 0 + (before.handlers.length - 0) / 2 := half
  rw [handlers, List.length_append, sameLength]
  omega

theorem closed_of_foldl (given : List Handler) (root : RootLogger) :
    (given.foldl (fun root handler => ((removal environment).body handler root).2) root).closed =
      given.reverse ++ root.closed := by
  induction given generalizing root with
  | nil => rfl
  | cons handler rest inductionHypothesis =>
      rw [List.foldl_cons, inductionHypothesis, List.reverse_cons, List.append_assoc]
      rfl

/-- Of distinct handlers every other one stays installed, from the second on, and exactly
the others are closed. -/
theorem handlers_of_configureLogging (distinct : before.handlers.Nodup)
    (returned : configureLogging environment level structured logPath before = (.ok (), after)) :
    after.handlers =
        Loop.alternate before.handlers.tail ++ createdHandlers structured logPath before ∧
      after.closed = (Loop.alternate before.handlers).reverse ++ before.closed := by
  obtain ⟨left, ended, handlers, closed⟩ := configureLogging_eq_ok returned
  obtain ⟨skipped, folded⟩ := @Loop.Removes.run_eq_foldl _ _ _ (removal environment)
    before.reserve _ _ (removal_removes environment) [] before.handlers rfl distinct ended
  have isLeft : left.handlers = Loop.alternate before.handlers.tail := skipped
  constructor
  · rw [handlers, isLeft]
  · rw [closed, folded, closed_of_foldl]
    rfl

/-! ## Replacing the sinks -/

/-- The handlers are the created ones, each with its filter, and every earlier one is
removed and closed. -/
structure SinksReplaced (structured : Bool) (logPath : Option String)
    (before after : RootLogger) : Prop where
  installed : after.handlers = createdHandlers structured logPath before
  redacting : ∀ handler ∈ after.handlers, Filter.redacting ∈ handler.filters
  replaced : ∀ handler ∈ before.handlers, handler ∉ after.handlers ∧ handler ∈ after.closed

theorem redacting_of_created {handler : Handler}
    (created : handler ∈ createdHandlers structured logPath before) :
    Filter.redacting ∈ handler.filters := by
  rcases List.mem_cons.mp created with rfl | file
  · exact List.mem_singleton_self _
  · cases logPath with
    | none => cases file
    | some path =>
        obtain rfl := List.mem_singleton.mp file
        exact List.mem_singleton_self _

/-- A created handler is new. -/
theorem notMem_of_created {handler : Handler}
    (created : handler ∈ createdHandlers structured logPath before) :
    handler ∉ before.handlers := by
  apply RootLogger.notMem_of_free
  rcases List.mem_cons.mp created with rfl | file
  · exact Nat.le_refl _
  · cases logPath with
    | none => cases file
    | some path =>
        obtain rfl := List.mem_singleton.mp file
        exact Nat.le_succ _

/-- A call that returns has replaced the sinks exactly when at most one handler was
installed: of two or more handlers one is skipped. -/
theorem sinks_replaced_iff (environment : Environment) (level : Int) (structured : Bool)
    (logPath : Option String) (before after : RootLogger)
    (returned : configureLogging environment level structured logPath before = (.ok (), after)) :
    SinksReplaced structured logPath before after ↔ before.handlers.length ≤ 1 := by
  have half := length_of_configureLogging returned
  constructor
  · intro replaced
    rw [replaced.installed] at half
    omega
  · intro atMostOne
    obtain ⟨given, skipped, distinct⟩ := Loop.alternate_of_length_le_one atMostOne
    obtain ⟨handlers, closed⟩ := handlers_of_configureLogging distinct returned
    rw [skipped, List.nil_append] at handlers
    rw [given] at closed
    refine ⟨handlers, ?_, ?_⟩
    · intro handler member
      rw [handlers] at member
      exact redacting_of_created member
    · intro handler installed
      constructor
      · intro member
        rw [handlers] at member
        exact notMem_of_created member installed
      · rw [closed, List.mem_append, List.mem_reverse]
        exact Or.inl installed

/-! ## Concrete calls -/

/-- A console handler without a filter. -/
def plainConsole : Handler :=
  { identity := 0, sink := .stderr, filters := [], formatter := none }

/-- A log file without a filter. -/
def plainFile : Handler :=
  { identity := 1, sink := .file "debug.log", filters := [], formatter := none }

/-- Nothing fails. -/
def calm : Environment :=
  { closing := fun _ => .ok (), makeParent := fun _ => .ok (), openLog := fun _ => .ok () }

def withConsole : RootLogger :=
  { handlers := [plainConsole], closed := [], level := 30, firstFree := 1, isTaken := by decide }

def withConsoleAndFile : RootLogger :=
  { handlers := [plainConsole, plainFile], closed := [], level := 30, firstFree := 2,
    isTaken := by decide }

theorem console_replaced :
    SinksReplaced true (some "logs/worker.jsonl") withConsole
        (configureLogging calm 20 true (some "logs/worker.jsonl") withConsole).2 ↔
      withConsole.handlers.length ≤ 1 :=
  sinks_replaced_iff calm 20 true (some "logs/worker.jsonl") withConsole _ rfl

/-- The log file stays installed and open, without a redacting filter. -/
theorem unfiltered_file_stays :
    (configureLogging calm 20 false none withConsoleAndFile).1 = .ok () ∧
      ¬ SinksReplaced false none withConsoleAndFile
        (configureLogging calm 20 false none withConsoleAndFile).2 := by
  refine ⟨rfl, fun replaced => ?_⟩
  have isLeft : plainFile ∈ (configureLogging calm 20 false none withConsoleAndFile).2.handlers := by
    decide
  exact (replaced.replaced plainFile (by decide)).1 isLeft

end ScraperProject.ScraperLogging
