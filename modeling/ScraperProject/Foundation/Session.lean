import ScraperProject.Foundation.History
import ScraperProject.Foundation.Program

/-!
Contract: processes that run programs against one world, a command at a time.

Owns the sessions of a pool of processes, the moves of a pool (a process starts
a call, executes its next command, or is cut off), the conditions that a history
of moves may meet, and the rules that lift the verification conditions of a
program to every history of a single process, and of many.

Does not own any command or program. With one process, calls run one after
another and may be cut off after any command; with more, they interleave.
-/

namespace ScraperProject.Foundation

variable {Process Call Command World Environment Failure Value : Type}
  {Reply : Command → Type}

/-- A call in progress: its commands so far with their outcomes, and the rest of
its program. -/
structure Session (Call Command : Type) (Reply : Command → Type) (Failure Value : Type) where
  call : Call
  past : List (Σ command, Except Failure (Reply command))
  rest : Program Command Reply Failure Value

/-- One world and at most one session for each process. -/
structure Pool (Process World Call Command : Type) (Reply : Command → Type)
    (Failure Value : Type) where
  world : World
  sessions : Process → Option (Session Call Command Reply Failure Value)

inductive Move (Process Call Environment : Type) where
  | start (process : Process) (call : Call)
  | step (process : Process) (environment : Environment)
  | stop (process : Process)

namespace Pool

variable [DecidableEq Process] (program : Call → Program Command Reply Failure Value)
  (perform : Environment → (command : Command) → World → Except Failure (Reply command) × World)

def idle (world : World) : Pool Process World Call Command Reply Failure Value where
  world := world
  sessions _ := none

def withSession (pool : Pool Process World Call Command Reply Failure Value) (process : Process)
    (session : Option (Session Call Command Reply Failure Value)) :
    Pool Process World Call Command Reply Failure Value :=
  { pool with sessions := fun other => if other = process then session else pool.sessions other }

/-- A session after its next command. -/
def afterCommand (session : Session Call Command Reply Failure Value) (command : Command)
    (next : Except Failure (Reply command) → Program Command Reply Failure Value)
    (result : Except Failure (Reply command)) : Session Call Command Reply Failure Value :=
  { session with past := session.past ++ [⟨command, result⟩], rest := next result }

/-- One move. A process in a call starts no other, and a process that is in no
call or has ended its program has no next command. -/
def move : Move Process Call Environment →
    Pool Process World Call Command Reply Failure Value →
      Unit × Pool Process World Call Command Reply Failure Value
  | .start process call, pool =>
      match pool.sessions process with
      | some _ => ((), pool)
      | none => ((), pool.withSession process
          (some { call := call, past := [], rest := program call }))
  | .step process environment, pool =>
      match pool.sessions process with
      | none => ((), pool)
      | some session =>
          match session.rest with
          | .issue command next =>
              let outcome := perform environment command pool.world
              ((), { pool.withSession process
                (some (afterCommand session command next outcome.1)) with world := outcome.2 })
          | _ => ((), pool)
  | .stop process, pool => ((), pool.withSession process none)

/-! ## Conditions on moves -/

/-- The move starts an admitted call, executes a command under the condition, or
cuts a session off. -/
def MoveMeets (admits : Call → Prop)
    (condition : Session Call Command Reply Failure Value → Environment → Command → World → Prop) :
    Pool Process World Call Command Reply Failure Value → Move Process Call Environment → Prop
  | _, .start _ call => admits call
  | pool, .step process environment => ∀ session, pool.sessions process = some session →
      ∀ command next, session.rest = .issue command next →
        condition session environment command pool.world
  | _, .stop _ => True

/-- Every move of a history meets the conditions. -/
def MovesMeet (admits : Call → Prop)
    (condition : Session Call Command Reply Failure Value → Environment → Command → World → Prop)
    (start : Pool Process World Call Command Reply Failure Value)
    (moves : List (Move Process Call Environment)) : Prop :=
  History.Along (move program perform) (MoveMeets admits condition) start moves

/-- The condition of one move, evaluated. -/
def moveChecks
    (check : Session Call Command Reply Failure Value → Environment → Command → World → Bool)
    (pool : Pool Process World Call Command Reply Failure Value) :
    Move Process Call Environment → Bool
  | .step process environment =>
      match pool.sessions process with
      | none => true
      | some session =>
          match session.rest with
          | .issue command _ => check session environment command pool.world
          | _ => true
  | _ => true

variable {program perform}

omit [DecidableEq Process] in
theorem moveMeets_of_moveChecks
    {condition : Session Call Command Reply Failure Value → Environment → Command → World → Prop}
    {check : Session Call Command Reply Failure Value → Environment → Command → World → Bool}
    (sound : ∀ session environment command world,
      check session environment command world = true →
        condition session environment command world)
    (pool : Pool Process World Call Command Reply Failure Value)
    (next : Move Process Call Environment) (checked : moveChecks check pool next = true) :
    MoveMeets (fun _ => True) condition pool next := by
  cases next with
  | start process call => trivial
  | stop process => trivial
  | step process environment =>
      intro session current command rest remaining
      simp only [moveChecks, current, remaining] at checked
      exact sound session environment command pool.world checked

/-- Every way in which a move can change the pool. -/
theorem move_cases (next : Move Process Call Environment)
    (pool : Pool Process World Call Command Reply Failure Value) :
    (move program perform next pool).2 = pool ∨
      (∃ process call, next = .start process call ∧ pool.sessions process = none ∧
        (move program perform next pool).2 = pool.withSession process
          (some { call := call, past := [], rest := program call })) ∨
      (∃ process environment session command rest, next = .step process environment ∧
        pool.sessions process = some session ∧ session.rest = .issue command rest ∧
          (move program perform next pool).2 =
            { pool.withSession process (some (afterCommand session command rest
              (perform environment command pool.world).1)) with
              world := (perform environment command pool.world).2 }) ∨
      ∃ process, next = .stop process ∧
        (move program perform next pool).2 = pool.withSession process none := by
  cases next with
  | start process call =>
      cases current : pool.sessions process with
      | none => exact Or.inr (Or.inl ⟨process, call, rfl, current, by simp only [move, current]⟩)
      | some session => exact Or.inl (by simp only [move, current])
  | step process environment =>
      cases current : pool.sessions process with
      | none => exact Or.inl (by simp only [move, current])
      | some session =>
          cases remaining : session.rest with
          | done value => exact Or.inl (by simp only [move, current, remaining])
          | raised failure => exact Or.inl (by simp only [move, current, remaining])
          | issue command rest =>
              exact Or.inr (Or.inr (Or.inl ⟨process, environment, session, command, rest, rfl,
                current, remaining, by simp only [move, current, remaining]⟩))
  | stop process => exact Or.inr (Or.inr (Or.inr ⟨process, rfl, rfl⟩))

/-- A condition that decides, for every command, a relation between the worlds before
and after it decides the relation for every move. -/
theorem moveMeets_iff_related (Related : World → World → Prop)
    {condition : Session Call Command Reply Failure Value → Environment → Command → World → Prop}
    (refl : ∀ world, Related world world) {next : Move Process Call Environment}
    {pool : Pool Process World Call Command Reply Failure Value}
    (step : ∀ process environment session command rest, pool.sessions process = some session →
      session.rest = .issue command rest →
        (condition session environment command pool.world ↔
          Related pool.world (perform environment command pool.world).2)) :
    MoveMeets (fun _ => True) condition pool next ↔
      Related pool.world (move program perform next pool).2.world := by
  cases next with
  | start process call =>
      refine iff_of_true trivial ?_
      simp only [move]
      split <;> exact refl pool.world
  | stop process => exact iff_of_true trivial (refl pool.world)
  | step process environment =>
      cases current : pool.sessions process with
      | none =>
          simp only [MoveMeets, move, current]
          exact iff_of_true (fun _ found => by cases found) (refl pool.world)
      | some session =>
          cases remaining : session.rest with
          | done value =>
              simp only [MoveMeets, move, current, remaining]
              refine iff_of_true (fun found isFound => ?_) (refl pool.world)
              cases isFound
              simp [remaining]
          | raised failure =>
              simp only [MoveMeets, move, current, remaining]
              refine iff_of_true (fun found isFound => ?_) (refl pool.world)
              cases isFound
              simp [remaining]
          | issue command rest =>
              simp only [MoveMeets, move, current, remaining]
              rw [← step process environment session command rest current remaining]
              constructor
              · exact fun meets => meets session rfl command rest remaining
              · intro holds found isFound other others isIssue
                cases isFound
                rw [remaining] at isIssue
                cases isIssue
                exact holds

theorem withSession_self (pool : Pool Process World Call Command Reply Failure Value)
    (process : Process) (session : Option (Session Call Command Reply Failure Value)) :
    (pool.withSession process session).sessions process = session := if_pos rfl

theorem withSession_sessions {pool : Pool Process World Call Command Reply Failure Value}
    {process other : Process} {session : Option (Session Call Command Reply Failure Value)}
    {found : Session Call Command Reply Failure Value}
    (current : (pool.withSession process session).sessions other = some found) :
    (other = process ∧ session = some found) ∨
      (other ≠ process ∧ pool.sessions other = some found) := by
  simp only [withSession] at current
  split at current
  · next same => exact Or.inl ⟨same, current⟩
  · next different => exact Or.inr ⟨different, current⟩

/-- What holds of the world before a move and after the command that it executes holds
after the move. -/
theorem world_move {Holds : World → Prop} (next : Move Process Call Environment)
    (pool : Pool Process World Call Command Reply Failure Value)
    (continues : ∀ process environment session command rest, next = .step process environment →
      pool.sessions process = some session → session.rest = .issue command rest →
        Holds (perform environment command pool.world).2)
    (holds : Holds pool.world) : Holds (move program perform next pool).2.world := by
  rcases move_cases next pool with same | ⟨process, call, _, _, result⟩ |
    ⟨process, environment, session, command, rest, isStep, current, remaining, result⟩ |
      ⟨process, _, result⟩
  · rwa [same]
  · rwa [result]
  · rw [result]
    exact continues process environment session command rest isStep current remaining
  · rwa [result]

/-- What holds of a session in its world holds of every session after a move: a session
starts with it, the session that executes the command keeps it, and so do the others. -/
theorem sessions_move (Holds : Session Call Command Reply Failure Value → World → Prop)
    (next : Move Process Call Environment)
    (pool : Pool Process World Call Command Reply Failure Value)
    (starts : ∀ process call, next = .start process call →
      Holds { call := call, past := [], rest := program call } pool.world)
    (continues : ∀ process environment session command rest, next = .step process environment →
      pool.sessions process = some session → session.rest = .issue command rest →
        Holds (afterCommand session command rest (perform environment command pool.world).1)
          (perform environment command pool.world).2)
    (others : ∀ process environment session command rest other found,
      next = .step process environment → pool.sessions process = some session →
        session.rest = .issue command rest → other ≠ process →
          pool.sessions other = some found → Holds found (perform environment command pool.world).2)
    (holds : ∀ process session, pool.sessions process = some session → Holds session pool.world) :
    ∀ process session, (move program perform next pool).2.sessions process = some session →
      Holds session (move program perform next pool).2.world := by
  rcases move_cases next pool with same | ⟨process, call, isStart, _, result⟩ |
    ⟨process, environment, session, command, rest, isStep, current, remaining, result⟩ |
      ⟨process, _, result⟩
  · rwa [same]
  · rw [result]
    intro other found isFound
    rcases withSession_sessions isFound with ⟨_, isNew⟩ | ⟨_, isOld⟩
    · cases isNew
      exact starts process call isStart
    · exact holds other found isOld
  · rw [result]
    intro other found isFound
    rcases withSession_sessions isFound with ⟨_, isNew⟩ | ⟨different, isOld⟩
    · cases isNew
      exact continues process environment session command rest isStep current remaining
    · exact others process environment session command rest other found isStep current remaining
        different isOld
  · rw [result]
    intro other found isFound
    rcases withSession_sessions isFound with ⟨_, isNew⟩ | ⟨_, isOld⟩
    · cases isNew
    · exact holds other found isOld

/-! ## One process -/

section Sequential

variable (perform) (Invariant : World → Prop)
  (terms : Call → Program.Terms Command Failure World Environment)
  (returns : Call → Value → World → Prop)

/-- The world satisfies the invariant and the rest of every session respects its
terms. -/
def Sound (pool : Pool Process World Call Command Reply Failure Value) : Prop :=
  Invariant pool.world ∧ ∀ process session, pool.sessions process = some session →
    session.rest.Meets perform (terms session.call) (returns session.call) pool.world

variable {perform Invariant terms returns}
  {admits : Call → Prop}
  {condition : Session Call Command Reply Failure Value → Environment → Command → World → Prop}

omit [DecidableEq Process] in
theorem sound_idle {world : World} (initial : Invariant world) :
    Sound perform Invariant terms returns
      (idle world : Pool Process World Call Command Reply Failure Value) :=
  ⟨initial, fun _ _ found => nomatch found⟩

/-- The rule of a single process: its programs respect their terms from every
world of the invariant, and a guarded command keeps the invariant. -/
theorem sound_move [Subsingleton Process]
    (starts : ∀ call world, admits call → Invariant world →
      (program call).Meets perform (terms call) (returns call) world)
    (keeps : ∀ session environment command world, condition session environment command world →
      Invariant world → (terms session.call).guard command world →
        (terms session.call).permits environment command world ∧
          Invariant (perform environment command world).2)
    (next : Move Process Call Environment)
    (pool : Pool Process World Call Command Reply Failure Value)
    (meets : MoveMeets admits condition pool next)
    (sound : Sound perform Invariant terms returns pool) :
    Sound perform Invariant terms returns (move program perform next pool).2 := by
  have session : ∀ process environment session command rest, next = .step process environment →
      pool.sessions process = some session → session.rest = .issue command rest →
        Invariant (perform environment command pool.world).2 ∧
          (rest (perform environment command pool.world).1).Meets perform (terms session.call)
            (returns session.call) (perform environment command pool.world).2 := by
    rintro process environment session command rest rfl current remaining
    have respected := sound.2 process session current
    rw [remaining] at respected
    obtain ⟨permitted, kept⟩ := keeps session environment command pool.world
      (meets session current command rest remaining) sound.1 respected.1
    exact ⟨kept, respected.2 environment permitted⟩
  constructor
  · apply world_move next pool _ sound.1
    intro process environment current command rest isStep isCurrent remaining
    exact (session process environment current command rest isStep isCurrent remaining).1
  · apply sessions_move _ next pool _ _ _ sound.2
    · rintro process call rfl
      exact starts call pool.world meets sound.1
    · intro process environment current command rest isStep isCurrent remaining
      exact (session process environment current command rest isStep isCurrent remaining).2
    · intro process _ _ _ _ other _ _ _ _ different _
      exact absurd (Subsingleton.elim other process) different

/-- A relation that every guarded command respects holds across a move. -/
theorem related_move {Related : World → World → Prop} (refl : ∀ world, Related world world)
    (relates : ∀ session environment command world,
      condition session environment command world → Invariant world →
        (terms session.call).guard command world →
          Related world (perform environment command world).2)
    (next : Move Process Call Environment)
    (pool : Pool Process World Call Command Reply Failure Value)
    (meets : MoveMeets admits condition pool next)
    (sound : Sound perform Invariant terms returns pool) :
    Related pool.world (move program perform next pool).2.world := by
  apply world_move next pool _ (refl pool.world)
  rintro process environment session command rest rfl current remaining
  have respected := sound.2 process session current
  rw [remaining] at respected
  exact relates session environment command pool.world
    (meets session current command rest remaining) sound.1 respected.1

end Sequential

/-! ## Many processes -/

section Views

variable {View : Type} (observe : (command : Command) → Except Failure (Reply command) → View → View)
  (unseen : View)

/-- What a session has seen: the view of its past outcomes. -/
def view (session : Session Call Command Reply Failure Value) : View :=
  session.past.foldl (fun view event => observe event.1 event.2 view) unseen

theorem view_afterCommand (session : Session Call Command Reply Failure Value)
    (command : Command)
    (next : Except Failure (Reply command) → Program Command Reply Failure Value)
    (result : Except Failure (Reply command)) :
    view observe unseen (afterCommand session command next result) =
      observe command result (view observe unseen session) := by
  simp only [view, afterCommand, List.foldl_append, List.foldl_cons, List.foldl_nil]

/-- The rest of every session is guarded by what the session has seen. -/
def Guarded (guard : Call → Command → View → Prop)
    (pool : Pool Process World Call Command Reply Failure Value) : Prop :=
  ∀ process session, pool.sessions process = some session →
    session.rest.Always (guard session.call) observe (fun _ _ => True)
      (view observe unseen session)

/-- The rest of every session is guarded, and returns, by what the session has
seen. -/
def Attested (guard : Call → Command → View → Prop) (returns : Call → Value → View → Prop)
    (pool : Pool Process World Call Command Reply Failure Value) : Prop :=
  ∀ process session, pool.sessions process = some session →
    session.rest.Always (guard session.call) observe (returns session.call)
      (view observe unseen session)

variable {observe unseen} {guard : Call → Command → View → Prop}
  {returns : Call → Value → View → Prop}

omit [DecidableEq Process] in
theorem attested_idle {world : World} :
    Attested observe unseen guard returns
      (idle world : Pool Process World Call Command Reply Failure Value) :=
  fun _ _ found => nomatch found

omit [DecidableEq Process] in
theorem guarded_idle {world : World} :
    Guarded observe unseen guard
      (idle world : Pool Process World Call Command Reply Failure Value) :=
  fun _ _ found => nomatch found

/-- The rule of many processes: whatever the others do, a session is guarded, and
returns, by what it has seen itself. -/
theorem attested_move
    (starts : ∀ call, (program call).Always (guard call) observe (returns call) unseen)
    (next : Move Process Call Environment)
    (pool : Pool Process World Call Command Reply Failure Value)
    (attested : Attested observe unseen guard returns pool) :
    Attested observe unseen guard returns (move program perform next pool).2 := by
  apply sessions_move (fun session _ => session.rest.Always (guard session.call) observe
    (returns session.call) (view observe unseen session)) next pool _ _ _ attested
  · intro process call _
    exact starts call
  · intro process environment session command rest _ current remaining
    have respected := attested process session current
    rw [remaining] at respected
    rw [view_afterCommand]
    exact respected.2 _
  · intro _ _ _ _ _ other found _ _ _ _ isFound
    exact attested other found isFound

theorem guarded_move
    (starts : ∀ call, (program call).Always (guard call) observe (fun _ _ => True) unseen)
    (next : Move Process Call Environment)
    (pool : Pool Process World Call Command Reply Failure Value)
    (guarded : Guarded observe unseen guard pool) :
    Guarded observe unseen guard (move program perform next pool).2 :=
  attested_move starts next pool guarded

end Views

/-! ## Errors -/

/-- Where every program raises the errors of its commands, so does the rest of every
session. -/
theorem propagates_move (starts : ∀ call, (program call).Propagates)
    (next : Move Process Call Environment)
    (pool : Pool Process World Call Command Reply Failure Value)
    (propagates : ∀ process session, pool.sessions process = some session →
      session.rest.Propagates) :
    ∀ process session, (move program perform next pool).2.sessions process = some session →
      session.rest.Propagates := by
  apply sessions_move (fun session _ => session.rest.Propagates) next pool _ _ _ propagates
  · intro process call _
    exact starts call
  · intro process environment session command rest _ current remaining
    have raises := propagates process session current
    rw [remaining] at raises
    unfold afterCommand
    cases (perform environment command pool.world).1 with
    | ok reply => exact raises.2 reply
    | error failure =>
        dsimp only
        rw [raises.1 failure]
        trivial
  · intro _ _ _ _ _ other found _ _ _ _ isFound
    exact propagates other found isFound

/-! ## Possible outcomes -/

section Possible

variable {concerns : Call → Prop}
  {possible : (command : Command) → Except Failure (Reply command) → Prop}
  {raises : Failure → Prop} {returns : Value → Prop}

/-- The rest of every session of a call that is concerned raises and returns only as
promised, where its commands have possible outcomes. -/
def Expecting (concerns : Call → Prop)
    (possible : (command : Command) → Except Failure (Reply command) → Prop)
    (raises : Failure → Prop) (returns : Value → Prop)
    (pool : Pool Process World Call Command Reply Failure Value) : Prop :=
  ∀ process session, pool.sessions process = some session → concerns session.call →
    session.rest.Expects possible raises returns

omit [DecidableEq Process] in
theorem expecting_idle {world : World} :
    Expecting concerns possible raises returns
      (idle world : Pool Process World Call Command Reply Failure Value) :=
  fun _ _ found => nomatch found

/-- The rule of possible outcomes: each command that a concerned call executes has
one. -/
theorem expecting_move
    (starts : ∀ call, concerns call → (program call).Expects possible raises returns)
    (next : Move Process Call Environment)
    (pool : Pool Process World Call Command Reply Failure Value)
    (executes : ∀ process environment session command rest, next = .step process environment →
      pool.sessions process = some session → session.rest = .issue command rest →
        concerns session.call → possible command (perform environment command pool.world).1)
    (expecting : Expecting concerns possible raises returns pool) :
    Expecting concerns possible raises returns (move program perform next pool).2 := by
  apply sessions_move (fun session _ => concerns session.call →
    session.rest.Expects possible raises returns) next pool _ _ _ expecting
  · intro process call _ concerned
    exact starts call concerned
  · intro process environment session command rest isStep current remaining concerned
    have expects := expecting process session current concerned
    rw [remaining] at expects
    exact expects _
      (executes process environment session command rest isStep current remaining concerned)
  · intro _ _ _ _ _ other found _ _ _ _ isFound
    exact expecting other found isFound

end Possible

/-! ## Many processes that rely on each other -/

section Reliant

variable (perform) (permits : Environment → Command → World → Prop) (Invariant : World → Prop)
  (Rely : World → World → Prop) (returns : Value → World → Prop)

/-- The world satisfies the invariant and the rest of every session endures what
the others do. -/
def Enduring (pool : Pool Process World Call Command Reply Failure Value) : Prop :=
  Invariant pool.world ∧ ∀ process session, pool.sessions process = some session →
    session.rest.Endures perform permits Invariant Rely returns pool.world

variable {perform permits Invariant Rely returns} {admits : Call → Prop}
  {condition : Session Call Command Reply Failure Value → Environment → Command → World → Prop}

omit [DecidableEq Process] in
theorem enduring_idle {world : World} (initial : Invariant world) :
    Enduring perform permits Invariant Rely returns
      (idle world : Pool Process World Call Command Reply Failure Value) :=
  ⟨initial, fun _ _ found => nomatch found⟩

/-- The rule of many processes that rely on each other: each command of one
respects what the others rely on. -/
theorem enduring_move (refl : ∀ world, Rely world world)
    (trans : ∀ first second third, Rely first second → Rely second third → Rely first third)
    (starts : ∀ call world, admits call → Invariant world →
      (program call).Endures perform permits Invariant Rely returns world)
    (permitted : ∀ session environment command world,
      condition session environment command world → permits environment command world)
    (next : Move Process Call Environment)
    (pool : Pool Process World Call Command Reply Failure Value)
    (meets : MoveMeets admits condition pool next)
    (enduring : Enduring perform permits Invariant Rely returns pool) :
    Enduring perform permits Invariant Rely returns (move program perform next pool).2 := by
  have session : ∀ process environment session command rest, next = .step process environment →
      pool.sessions process = some session → session.rest = .issue command rest →
        Invariant (perform environment command pool.world).2 ∧
          Rely pool.world (perform environment command pool.world).2 ∧
            (rest (perform environment command pool.world).1).Endures perform permits Invariant
              Rely returns (perform environment command pool.world).2 := by
    rintro process environment session command rest rfl current remaining
    have endures := enduring.2 process session current
    rw [remaining] at endures
    exact endures pool.world (refl _) enduring.1 environment
      (permitted session environment command pool.world
        (meets session current command rest remaining))
  constructor
  · apply world_move next pool _ enduring.1
    intro process environment current command rest isStep isCurrent remaining
    exact (session process environment current command rest isStep isCurrent remaining).1
  · apply sessions_move _ next pool _ _ _ enduring.2
    · rintro process call rfl
      exact starts call pool.world meets enduring.1
    · intro process environment current command rest isStep isCurrent remaining
      exact (session process environment current command rest isStep isCurrent remaining).2.2
    · intro process environment current command rest other found isStep isCurrent remaining _
        isFound
      exact (enduring.2 other found isFound).later trans
        (session process environment current command rest isStep isCurrent remaining).2.1

end Reliant

end Pool

end ScraperProject.Foundation
