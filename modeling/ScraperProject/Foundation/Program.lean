import Mathlib.Tactic.Basic

/-!
Contract: programs that issue commands to a world.

Owns programs as trees of commands, their sequencing, an uninterrupted execution
against a stream of environments and the conditions that it may meet, the programs that
handle no error, and four verification conditions of a program. In a world: every command it issues is
guarded there, and it ends only as promised. Whatever the outcomes of its
commands: every command is guarded by what the program has seen. Whatever others
do between its commands: it never raises and ends as promised. Where its commands
have possible outcomes only: it raises and returns only as promised. An error of a
command is handed to the program, so a program decides which errors it handles.

Does not own any command; a caller supplies `perform`.
-/

namespace ScraperProject.Foundation

/-- A program returns, raises, or issues a command and continues with the reply
or the error. -/
inductive Program (Command : Type) (Reply : Command → Type) (Failure Value : Type) where
  | done (value : Value)
  | raised (failure : Failure)
  | issue (command : Command)
      (next : Except Failure (Reply command) → Program Command Reply Failure Value)

namespace Program

variable {Command : Type} {Reply : Command → Type} {Failure Value Result : Type}

def bind (next : Value → Program Command Reply Failure Result) :
    Program Command Reply Failure Value → Program Command Reply Failure Result
  | .done value => next value
  | .raised failure => .raised failure
  | .issue command rest => .issue command fun reply => bind next (rest reply)

instance : Monad (Program Command Reply Failure) where
  pure value := .done value
  bind program next := program.bind next

/-- Issue a command and return its outcome, an error included. -/
def attempt (command : Command) :
    Program Command Reply Failure (Except Failure (Reply command)) :=
  .issue command .done

/-- Issue a command; its error is raised. -/
def call (command : Command) : Program Command Reply Failure (Reply command) :=
  .issue command fun
    | .ok reply => .done reply
    | .error failure => .raised failure

/-- A pure computation of the program. -/
def ofExcept : Except Failure Value → Program Command Reply Failure Value
  | .ok value => .done value
  | .error failure => .raised failure

/-- A raised failure is given to a handler. -/
def handle (handler : Failure → Program Command Reply Failure Value) :
    Program Command Reply Failure Value → Program Command Reply Failure Value
  | .done value => .done value
  | .raised failure => handler failure
  | .issue command next => .issue command fun outcome => handle handler (next outcome)

/-- A program runs after another, however that ends. -/
def ensuring (program : Program Command Reply Failure Value)
    (cleanup : Program Command Reply Failure Unit) : Program Command Reply Failure Value := do
  let value ← program.handle fun failure => do
    cleanup
    .raised failure
  cleanup
  return value

/-! ## Execution -/

variable {World Environment : Type}
  (perform : Environment → (command : Command) → World → Except Failure (Reply command) × World)

/-- The uninterrupted execution; the stream holds one environment per command. -/
def execute : Program Command Reply Failure Value → (Nat → Environment) → World →
    Except Failure Value × World
  | .done value, _, world => (.ok value, world)
  | .raised failure, _, world => (.error failure, world)
  | .issue command next, environments, world =>
      let outcome := perform (environments 0) command world
      execute (next outcome.1) (fun index => environments (index + 1)) outcome.2

/-- Every command of the execution meets the condition when it is issued. -/
def Permitted (permits : Environment → Command → World → Prop) :
    Program Command Reply Failure Value → (Nat → Environment) → World → Prop
  | .done _, _, _ => True
  | .raised _, _, _ => True
  | .issue command next, environments, world =>
      permits (environments 0) command world ∧
        Permitted permits (next (perform (environments 0) command world).1)
          (fun index => environments (index + 1)) (perform (environments 0) command world).2

/-- The condition on a concrete execution, evaluated. -/
def permittedChecks (check : Environment → Command → World → Bool) :
    Program Command Reply Failure Value → (Nat → Environment) → World → Bool
  | .done _, _, _ => true
  | .raised _, _, _ => true
  | .issue command next, environments, world =>
      check (environments 0) command world &&
        permittedChecks check (next (perform (environments 0) command world).1)
          (fun index => environments (index + 1)) (perform (environments 0) command world).2

/-! ## Verification conditions -/

/-- What a program may rely on and must respect: which outcomes of a command are
possible, when a command may be issued, and how the program may raise. -/
structure Terms (Command Failure World Environment : Type) where
  permits : Environment → Command → World → Prop
  guard : Command → World → Prop
  raises : Failure → World → Prop

/-- The program respects the terms from this world and returns as promised. -/
def Meets (terms : Terms Command Failure World Environment) (returns : Value → World → Prop) :
    Program Command Reply Failure Value → World → Prop
  | .done value, world => returns value world
  | .raised failure, world => terms.raises failure world
  | .issue command next, world =>
      terms.guard command world ∧ ∀ environment, terms.permits environment command world →
        Meets terms returns (next (perform environment command world).1)
          (perform environment command world).2

variable {perform} {terms : Terms Command Failure World Environment}
  {returns : Value → World → Prop} {promised : Result → World → Prop} {world : World}

theorem meets_bind {program : Program Command Reply Failure Value}
    {next : Value → Program Command Reply Failure Result} :
    (program >>= next).Meets perform terms promised world ↔
      program.Meets perform terms
        (fun value later => (next value).Meets perform terms promised later) world := by
  induction program generalizing world with
  | done value => exact Iff.rfl
  | raised failure => exact Iff.rfl
  | issue command rest inductionHypothesis =>
      exact and_congr Iff.rfl (forall_congr' fun environment =>
        imp_congr Iff.rfl (inductionHypothesis _))

/-- A program may be promised to raise and return in more ways. -/
theorem Meets.weaken {program : Program Command Reply Failure Value}
    {raises : Failure → World → Prop} {other : Value → World → Prop}
    (meets : program.Meets perform terms returns world)
    (fails : ∀ failure later, terms.raises failure later → raises failure later)
    (implies : ∀ value later, returns value later → other value later) :
    program.Meets perform { terms with raises := raises } other world := by
  induction program generalizing world with
  | done value => exact implies value world meets
  | raised failure => exact fails failure world meets
  | issue command rest inductionHypothesis =>
      exact ⟨meets.1, fun environment permitted =>
        inductionHypothesis _ (meets.2 environment permitted)⟩

theorem Meets.mono {program : Program Command Reply Failure Value}
    {other : Value → World → Prop} (meets : program.Meets perform terms returns world)
    (implies : ∀ value later, returns value later → other value later) :
    program.Meets perform terms other world :=
  meets.weaken (fun _ _ raised => raised) implies

/-- Sequencing: what the first program returns is what the rest starts from. -/
theorem Meets.bind {program : Program Command Reply Failure Value}
    {next : Value → Program Command Reply Failure Result}
    (meets : program.Meets perform terms returns world)
    (continues : ∀ value later, returns value later →
      (next value).Meets perform terms promised later) :
    (program >>= next).Meets perform terms promised world :=
  meets_bind.mpr (meets.mono continues)

/-- A guarded command whose every outcome, an error included, is as promised. -/
theorem Meets.attempt {command : Command}
    {returns : Except Failure (Reply command) → World → Prop}
    (guarded : terms.guard command world)
    (continues : ∀ environment result later, terms.permits environment command world →
      perform environment command world = (result, later) → returns result later) :
    (Program.attempt command).Meets perform terms returns world :=
  ⟨guarded, fun environment permitted => continues environment _ _ permitted rfl⟩

/-- A guarded command whose every reply is as promised and whose errors may be
raised. -/
theorem Meets.call {command : Command} {returns : Reply command → World → Prop}
    (guarded : terms.guard command world)
    (fails : ∀ environment failure later, terms.permits environment command world →
      perform environment command world = (.error failure, later) →
        terms.raises failure later)
    (continues : ∀ environment reply later, terms.permits environment command world →
      perform environment command world = (.ok reply, later) → returns reply later) :
    (Program.call command).Meets perform terms returns world := by
  refine ⟨guarded, fun environment permitted => ?_⟩
  cases outcome : perform environment command world with
  | mk result later =>
      cases result with
      | ok reply => exact continues environment reply later permitted outcome
      | error failure => exact fails environment failure later permitted outcome

/-- A pure computation whose errors may be raised. -/
theorem Meets.ofExcept {computation : Except Failure Value}
    (fails : ∀ failure, computation = .error failure → terms.raises failure world)
    (continues : ∀ value, computation = .ok value → returns value world) :
    (Program.ofExcept computation : Program Command Reply Failure Value).Meets perform terms
      returns world := by
  cases computation with
  | ok value => exact continues value rfl
  | error failure => exact fails failure rfl

theorem meets_handle {program : Program Command Reply Failure Value}
    {handler : Failure → Program Command Reply Failure Value} :
    (program.handle handler).Meets perform terms returns world ↔
      program.Meets perform
        { terms with raises := fun failure later =>
            (handler failure).Meets perform terms returns later } returns world := by
  induction program generalizing world with
  | done value => exact Iff.rfl
  | raised failure => exact Iff.rfl
  | issue command rest inductionHypothesis =>
      exact and_congr Iff.rfl (forall_congr' fun environment =>
        imp_congr Iff.rfl (inductionHypothesis _))

theorem meets_ensuring {program : Program Command Reply Failure Value}
    {cleanup : Program Command Reply Failure Unit} :
    (program.ensuring cleanup).Meets perform terms returns world ↔
      program.Meets perform
        { terms with raises := fun failure later =>
            cleanup.Meets perform terms (fun _ last => terms.raises failure last) later }
        (fun value later => cleanup.Meets perform terms (fun _ last => returns value last) later)
        world := by
  unfold ensuring
  rw [meets_bind, meets_handle]
  simp only [meets_bind]
  exact Iff.rfl

/-! ## Permitted executions -/

variable {permits : Environment → Command → World → Prop} {environments : Nat → Environment}

theorem permitted_of_forall {program : Program Command Reply Failure Value}
    (always : ∀ index command world, permits (environments index) command world) :
    program.Permitted perform permits environments world := by
  induction program generalizing world environments with
  | done value => trivial
  | raised failure => trivial
  | issue command rest inductionHypothesis =>
      exact ⟨always 0 command world, inductionHypothesis _ fun index => always (index + 1)⟩

/-- A check that is sound in the environments of the execution. -/
theorem permitted_of_permittedChecks {check : Environment → Command → World → Bool}
    {program : Program Command Reply Failure Value}
    (sound : ∀ index command world, check (environments index) command world = true →
      permits (environments index) command world)
    (checked : program.permittedChecks perform check environments world = true) :
    program.Permitted perform permits environments world := by
  induction program generalizing world environments with
  | done value => trivial
  | raised failure => trivial
  | issue command rest inductionHypothesis =>
      rw [permittedChecks, Bool.and_eq_true] at checked
      exact ⟨sound 0 command world checked.1,
        inductionHypothesis _ (fun index => sound (index + 1)) checked.2⟩

/-- A permitted execution ends as promised. -/
theorem Meets.execute {program : Program Command Reply Failure Value}
    (meets : program.Meets perform terms returns world)
    (permitted : program.Permitted perform terms.permits environments world) :
    match program.execute perform environments world with
    | (.ok value, later) => returns value later
    | (.error failure, later) => terms.raises failure later := by
  induction program generalizing world environments with
  | done value => exact meets
  | raised failure => exact meets
  | issue command rest inductionHypothesis =>
      exact inductionHypothesis _ (meets.2 _ permitted.1) permitted.2

/-- A program that respects terms passes only through worlds of an invariant that
its guarded commands keep. -/
theorem Meets.permitted {Invariant : World → Prop}
    {program : Program Command Reply Failure Value}
    (keeps : ∀ environment command world, permits environment command world →
      Invariant world → terms.guard command world → terms.permits environment command world ∧
        Invariant (perform environment command world).2)
    (meets : program.Meets perform terms returns world) (initial : Invariant world)
    (permitted : program.Permitted perform permits environments world) :
    program.Permitted perform (fun environment command world =>
      permits environment command world ∧ Invariant (perform environment command world).2)
      environments world := by
  induction program generalizing world environments with
  | done value => trivial
  | raised failure => trivial
  | issue command rest inductionHypothesis =>
      obtain ⟨respected, kept⟩ := keeps _ command world permitted.1 initial meets.1
      exact ⟨⟨permitted.1, kept⟩,
        inductionHypothesis _ (meets.2 _ respected) kept permitted.2⟩

/-! ## Other programs in between -/

/-- The program never raises and returns as promised, whatever others that respect
the relation and the invariant do between its commands, and its own commands
respect them too. -/
def Endures (perform : Environment → (command : Command) → World →
      Except Failure (Reply command) × World)
    (permits : Environment → Command → World → Prop) (Invariant : World → Prop)
    (Rely : World → World → Prop) (returns : Value → World → Prop) :
    Program Command Reply Failure Value → World → Prop
  | .done value, world => ∀ later, Rely world later → Invariant later → returns value later
  | .raised _, _ => False
  | .issue command next, world => ∀ later, Rely world later → Invariant later →
      ∀ environment, permits environment command later →
        Invariant (perform environment command later).2 ∧
          Rely later (perform environment command later).2 ∧
            Endures perform permits Invariant Rely returns
              (next (perform environment command later).1) (perform environment command later).2

section Endures

variable {Invariant : World → Prop} {Rely : World → World → Prop}

theorem Endures.later {program : Program Command Reply Failure Value}
    (trans : ∀ first second third, Rely first second → Rely second third → Rely first third)
    (endures : program.Endures perform permits Invariant Rely returns world) {later : World}
    (relies : Rely world later) :
    program.Endures perform permits Invariant Rely returns later := by
  cases program with
  | done value => exact fun last next => endures last (trans _ _ _ relies next)
  | raised failure => exact endures
  | issue command rest => exact fun last next => endures last (trans _ _ _ relies next)

theorem endures_bind {program : Program Command Reply Failure Value}
    {next : Value → Program Command Reply Failure Result} (returns : Value → World → Prop)
    (endures : program.Endures perform permits Invariant Rely returns world)
    (invariant : Invariant world) (refl : ∀ world, Rely world world)
    (continues : ∀ value later, Invariant later → returns value later →
      (next value).Endures perform permits Invariant Rely promised later) :
    (program >>= next).Endures perform permits Invariant Rely promised world := by
  induction program generalizing world with
  | done value => exact continues value world invariant (endures world (refl world) invariant)
  | raised failure => exact endures.elim
  | issue command rest inductionHypothesis =>
      intro later relies holds environment permitted
      obtain ⟨kept, guaranteed, remains⟩ := endures later relies holds environment permitted
      exact ⟨kept, guaranteed, inductionHypothesis _ remains kept⟩

/-- A command that succeeds in every permitted environment. -/
theorem endures_call {command : Command} {returns : Reply command → World → Prop}
    (continues : ∀ later, Rely world later → Invariant later → ∀ environment,
      permits environment command later → ∃ reply,
        (perform environment command later).1 = .ok reply ∧
          Invariant (perform environment command later).2 ∧
            Rely later (perform environment command later).2 ∧
              ∀ last, Rely (perform environment command later).2 last → Invariant last →
                returns reply last) :
    (Program.call command).Endures perform permits Invariant Rely returns world := by
  intro later relies holds environment permitted
  obtain ⟨reply, succeeded, kept, guaranteed, returned⟩ :=
    continues later relies holds environment permitted
  rw [succeeded]
  exact ⟨kept, guaranteed, returned⟩

end Endures

/-! ## Any outcomes -/

section Views

variable {View : Type} (guard : Command → View → Prop)
  (observe : (command : Command) → Except Failure (Reply command) → View → View)

/-- Whatever the outcomes of its commands, the program issues each under its
guard, where a view of the past outcomes is kept, and returns as promised. -/
def Always (returns : Value → View → Prop) :
    Program Command Reply Failure Value → View → Prop
  | .done value, view => returns value view
  | .raised _, _ => True
  | .issue command next, view =>
      guard command view ∧ ∀ outcome, Always returns (next outcome) (observe command outcome view)

variable {guard observe} {returns : Value → View → Prop} {promised : Result → View → Prop}
  {view : View}

theorem always_bind {program : Program Command Reply Failure Value}
    {next : Value → Program Command Reply Failure Result} :
    (program >>= next).Always guard observe promised view ↔
      program.Always guard observe
        (fun value later => (next value).Always guard observe promised later) view := by
  induction program generalizing view with
  | done value => exact Iff.rfl
  | raised failure => exact Iff.rfl
  | issue command rest inductionHypothesis =>
      exact and_congr Iff.rfl (forall_congr' fun outcome => inductionHypothesis outcome)

theorem Always.mono {program : Program Command Reply Failure Value}
    {other : Value → View → Prop} (always : program.Always guard observe returns view)
    (implies : ∀ value later, returns value later → other value later) :
    program.Always guard observe other view := by
  induction program generalizing view with
  | done value => exact implies value view always
  | raised failure => trivial
  | issue command rest inductionHypothesis =>
      exact ⟨always.1, fun outcome => inductionHypothesis outcome (always.2 outcome)⟩

theorem Always.bind {program : Program Command Reply Failure Value}
    {next : Value → Program Command Reply Failure Result}
    (always : program.Always guard observe returns view)
    (continues : ∀ value later, returns value later →
      (next value).Always guard observe promised later) :
    (program >>= next).Always guard observe promised view :=
  always_bind.mpr (always.mono continues)

theorem always_call {command : Command} {returns : Reply command → View → Prop} :
    (Program.call command).Always guard observe returns view ↔
      guard command view ∧ ∀ reply, returns reply (observe command (.ok reply) view) := by
  refine and_congr Iff.rfl ⟨fun always reply => always (.ok reply), fun always outcome => ?_⟩
  cases outcome with
  | ok reply => exact always reply
  | error failure => trivial

/-! ## The commands of a program -/

/-- Whatever the outcomes, the program issues allowed commands only. -/
def Issues (allowed : Command → Prop) : Program Command Reply Failure Value → Prop
  | .done _ => True
  | .raised _ => True
  | .issue command next => allowed command ∧ ∀ outcome, Issues allowed (next outcome)

variable {allowed other : Command → Prop}

theorem issues_pure (value : Value) :
    (pure value : Program Command Reply Failure Value).Issues allowed := trivial

theorem Issues.bind {program : Program Command Reply Failure Value}
    {next : Value → Program Command Reply Failure Result} (issues : program.Issues allowed)
    (continues : ∀ value, (next value).Issues allowed) : (program >>= next).Issues allowed := by
  induction program with
  | done value => exact continues value
  | raised failure => trivial
  | issue command rest inductionHypothesis =>
      exact ⟨issues.1, fun outcome => inductionHypothesis outcome (issues.2 outcome)⟩

theorem issues_attempt {command : Command} (isAllowed : allowed command) :
    (Program.attempt command : Program Command Reply Failure _).Issues allowed :=
  ⟨isAllowed, fun _ => trivial⟩

theorem issues_call {command : Command} (isAllowed : allowed command) :
    (Program.call command : Program Command Reply Failure _).Issues allowed := by
  refine ⟨isAllowed, fun outcome => ?_⟩
  cases outcome <;> trivial

theorem issues_ofExcept (computation : Except Failure Value) :
    (Program.ofExcept computation : Program Command Reply Failure Value).Issues allowed := by
  cases computation <;> trivial

theorem Issues.mono {program : Program Command Reply Failure Value}
    (issues : program.Issues allowed) (implies : ∀ command, allowed command → other command) :
    program.Issues other := by
  induction program with
  | done value => trivial
  | raised failure => trivial
  | issue command rest inductionHypothesis =>
      exact ⟨implies command issues.1, fun outcome =>
        inductionHypothesis outcome (issues.2 outcome)⟩

/-- A program whose commands are guarded where a view is, and leave it there. -/
theorem Issues.always {program : Program Command Reply Failure Value} {Holds : View → Prop}
    (issues : program.Issues allowed)
    (guarded : ∀ command view, allowed command → Holds view → guard command view)
    (keeps : ∀ command outcome view, allowed command → Holds view →
      Holds (observe command outcome view)) (holds : Holds view) :
    program.Always guard observe (fun _ later => Holds later) view := by
  induction program generalizing view with
  | done value => exact holds
  | raised failure => trivial
  | issue command rest inductionHypothesis =>
      refine ⟨guarded command view issues.1 holds, fun outcome => ?_⟩
      exact inductionHypothesis outcome (issues.2 outcome)
        (keeps command outcome view issues.1 holds)

/-- Where every command of a program keeps what holds, the program keeps it. -/
theorem Issues.keeps {World Environment : Type}
    {perform : Environment → (command : Command) → World →
      Except Failure (Reply command) × World}
    {terms : Terms Command Failure World Environment} {Holds : World → Prop} {world : World}
    {program : Program Command Reply Failure Value} (issues : program.Issues allowed)
    (guarded : ∀ command world, terms.guard command world)
    (raises : ∀ failure world, terms.raises failure world)
    (keeps : ∀ environment command world, allowed command →
      terms.permits environment command world → Holds world →
        Holds (perform environment command world).2) (holds : Holds world) :
    program.Meets perform terms (fun _ later => Holds later) world := by
  induction program generalizing world with
  | done value => exact holds
  | raised failure => exact raises failure world
  | issue command rest inductionHypothesis =>
      refine ⟨guarded command world, fun environment permitted => ?_⟩
      exact inductionHypothesis _ (issues.2 _) (keeps environment command world issues.1 permitted
        holds)

end Views

/-! ## Programs that handle no error -/

/-- Every error of a command is raised as it is. -/
def Propagates : Program Command Reply Failure Value → Prop
  | .done _ => True
  | .raised _ => True
  | .issue _ next => (∀ failure, next (.error failure) = .raised failure) ∧
      ∀ reply, Propagates (next (.ok reply))

theorem propagates_call (command : Command) :
    (Program.call command : Program Command Reply Failure _).Propagates :=
  ⟨fun _ => rfl, fun _ => trivial⟩

theorem Propagates.bind {program : Program Command Reply Failure Value}
    {next : Value → Program Command Reply Failure Result} (propagates : program.Propagates)
    (continues : ∀ value, (next value).Propagates) : (program >>= next).Propagates := by
  induction program with
  | done value => exact continues value
  | raised failure => trivial
  | issue command rest inductionHypothesis =>
      refine ⟨fun failure => ?_, fun reply => inductionHypothesis _ (propagates.2 reply)⟩
      exact congrArg (Program.bind next) (propagates.1 failure)

/-! ## Possible outcomes -/

section Possible

variable {possible : (command : Command) → Except Failure (Reply command) → Prop}
  {raises : Failure → Prop} {returns : Value → Prop} {promised : Result → Prop}

/-- Where every command has a possible outcome, the program raises and returns only as
promised. -/
def Expects (possible : (command : Command) → Except Failure (Reply command) → Prop)
    (raises : Failure → Prop) (returns : Value → Prop) :
    Program Command Reply Failure Value → Prop
  | .done value => returns value
  | .raised failure => raises failure
  | .issue command next =>
      ∀ outcome, possible command outcome → Expects possible raises returns (next outcome)

theorem Expects.mono {program : Program Command Reply Failure Value} {other : Value → Prop}
    (expects : program.Expects possible raises returns)
    (implies : ∀ value, returns value → other value) :
    program.Expects possible raises other := by
  induction program with
  | done value => exact implies value expects
  | raised failure => exact expects
  | issue command rest inductionHypothesis =>
      exact fun outcome isPossible => inductionHypothesis outcome (expects outcome isPossible)

theorem Expects.bind {program : Program Command Reply Failure Value}
    {next : Value → Program Command Reply Failure Result}
    (expects : program.Expects possible raises returns)
    (continues : ∀ value, returns value → (next value).Expects possible raises promised) :
    (program >>= next).Expects possible raises promised := by
  induction program with
  | done value => exact continues value expects
  | raised failure => exact expects
  | issue command rest inductionHypothesis =>
      exact fun outcome isPossible => inductionHypothesis outcome (expects outcome isPossible)

theorem expects_attempt {command : Command} {returns : Except Failure (Reply command) → Prop}
    (continues : ∀ outcome, possible command outcome → returns outcome) :
    (Program.attempt command : Program Command Reply Failure _).Expects possible raises returns :=
  continues

theorem expects_call {command : Command} {returns : Reply command → Prop}
    (fails : ∀ failure, possible command (.error failure) → raises failure)
    (continues : ∀ reply, possible command (.ok reply) → returns reply) :
    (Program.call command : Program Command Reply Failure _).Expects possible raises returns := by
  intro outcome isPossible
  cases outcome with
  | error failure => exact fails failure isPossible
  | ok reply => exact continues reply isPossible

theorem expects_ofExcept {computation : Except Failure Value}
    (fails : ∀ failure, computation = .error failure → raises failure)
    (continues : ∀ value, computation = .ok value → returns value) :
    (Program.ofExcept computation : Program Command Reply Failure Value).Expects possible raises
      returns := by
  cases computation with
  | error failure => exact fails failure rfl
  | ok value => exact continues value rfl

end Possible

end Program

end ScraperProject.Foundation
