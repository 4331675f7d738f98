import ScraperProject.Database.Connection

/-!
Contract: concurrent calls on one database are calls one after another.

Owns the invariant that ties both locks to the threads inside the boundary, the fact that a
transaction runs on what it found at `BEGIN IMMEDIATE` until it ends, and the serial order
of all calls.

Does not own what a single thread sees.
-/

namespace ScraperProject.Database

open Foundation

variable {Process Thread Call Command State Failure Value : Type} {Reply : Command → Type}

section Coherence

variable [DecidableEq Process] [DecidableEq Thread]
  (clients : Clients Process Thread Call Command Reply State Failure Value)
  {engine : Engine Process Thread Call Command Reply State Failure Value} {thread : Thread}
  {phase : Phase Call Command Reply State Failure Value}

/-! ## Locks and phases -/

/-- The phase belongs to its call; the rest of a running body ends as the whole body does
on the committed tables. -/
def Phase.Sound (committed : State) : Phase Call Command Reply State Failure Value → Prop
  | .reading call answer => clients.access call = .query answer
  | .waiting call body | .entered call body => clients.access call = .transaction body
  | .running call working rest => ∃ body, clients.access call = .transaction body ∧
      clients.run rest working = clients.run body committed
  | _ => True

/-- Each process has at most one thread inside the boundary, the holder of its lock, and
at most one thread of all is in a transaction. -/
structure Engine.Coherent
    (engine : Engine Process Thread Call Command Reply State Failure Value) : Prop where
  locked : ∀ process thread, engine.locks process = some thread ↔
    clients.process thread = process ∧ (engine.phases thread).holdsLock = true
  writing : ∀ thread, engine.writer = some thread ↔ (engine.phases thread).isWriting = true
  sound : ∀ thread, (engine.phases thread).Sound clients engine.committed

variable {clients}

omit [DecidableEq Process] [DecidableEq Thread] in
theorem Phase.Sound.of_not_writing {committed later : State} (sound : phase.Sound clients committed)
    (released : phase.isWriting = false) : phase.Sound clients later := by
  cases phase with
  | running => cases released
  | idle | reading | waiting | entered | closing | failing | answered => exact sound

omit [DecidableEq Process] [DecidableEq Thread] in
theorem Phase.holdsLock_of_isWriting (writing : phase.isWriting = true) :
    phase.holdsLock = true := by
  cases phase <;> first | rfl | cases writing

omit [DecidableEq Process] in
@[simp] theorem Engine.inPhase_self : (engine.inPhase thread phase).phases thread = phase :=
  if_pos rfl

omit [DecidableEq Process] in
theorem Engine.inPhase_other {other : Thread} (apart : other ≠ thread) :
    (engine.inPhase thread phase).phases other = engine.phases other := if_neg apart

omit [DecidableEq Process] [DecidableEq Thread] in
theorem Engine.coherent_quiet (committed : State) :
    (Engine.quiet committed : Engine Process Thread Call Command Reply State Failure
      Value).Coherent clients where
  locked process thread := by simp [Engine.quiet, Phase.holdsLock]
  writing thread := by simp [Engine.quiet, Phase.isWriting]
  sound thread := trivial

section Changes

variable (coherent : engine.Coherent clients)

include coherent

omit [DecidableEq Process] in
/-- The thread goes on, and takes or releases no lock. -/
theorem Engine.Coherent.inPhase (sameLock : phase.holdsLock = (engine.phases thread).holdsLock)
    (sameWriter : phase.isWriting = (engine.phases thread).isWriting)
    (sound : phase.Sound clients engine.committed) :
    (engine.inPhase thread phase).Coherent clients where
  locked process other := by
    refine (coherent.locked process other).trans (and_congr_right fun _ => ?_)
    by_cases same : other = thread
    · rw [same, Engine.inPhase_self, sameLock]
    · rw [Engine.inPhase_other same]
  writing other := by
    refine (coherent.writing other).trans ?_
    by_cases same : other = thread
    · rw [same, Engine.inPhase_self, sameWriter]
    · rw [Engine.inPhase_other same]
  sound other := by
    by_cases same : other = thread
    · rw [same, Engine.inPhase_self]
      exact sound
    · rw [Engine.inPhase_other same]
      exact coherent.sound other

theorem Engine.Coherent.acquire (free : engine.locks (clients.process thread) = none)
    (outside : (engine.phases thread).isWriting = false) (inside : phase.holdsLock = true)
    (idle : phase.isWriting = false) (sound : phase.Sound clients engine.committed) :
    ((engine.withLock (clients.process thread) (some thread)).inPhase thread phase).Coherent
      clients where
  locked process other := by
    by_cases own : process = clients.process thread
    · simp only [Engine.inPhase, Engine.withLock, own, if_true, Option.some.injEq]
      by_cases same : other = thread
      · simp [same, inside]
      · have absent := (coherent.locked (clients.process thread) other).not.mp (by simp [free])
        simp only [same, if_false, Ne.symm same, false_iff]
        exact absent
    · simp only [Engine.inPhase, Engine.withLock, own, if_false]
      refine (coherent.locked process other).trans ?_
      by_cases same : other = thread
      · simp [same, Ne.symm own]
      · simp [same]
  writing other := by
    refine (coherent.writing other).trans ?_
    by_cases same : other = thread
    · rw [same, outside, Engine.inPhase_self, idle]
    · rw [Engine.inPhase_other same]
      rfl
  sound other := by
    by_cases same : other = thread
    · rw [same, Engine.inPhase_self]
      exact sound
    · rw [Engine.inPhase_other same]
      exact coherent.sound other

theorem Engine.Coherent.release (inside : (engine.phases thread).holdsLock = true)
    (idle : (engine.phases thread).isWriting = false) :
    ((engine.withLock (clients.process thread) none).inPhase thread .idle).Coherent clients where
  locked process other := by
    have held := (coherent.locked (clients.process thread) thread).mpr ⟨rfl, inside⟩
    by_cases own : process = clients.process thread
    · simp only [Engine.inPhase, Engine.withLock, own, if_true, reduceCtorEq, false_iff]
      by_cases same : other = thread
      · simp [same, Phase.holdsLock]
      · simp only [same, if_false]
        rintro ⟨sameProcess, holds⟩
        have other := (coherent.locked (clients.process thread) other).mpr ⟨sameProcess, holds⟩
        rw [held] at other
        exact same (Option.some.inj other).symm
    · simp only [Engine.inPhase, Engine.withLock, own, if_false]
      refine (coherent.locked process other).trans ?_
      by_cases same : other = thread
      · simp [same, Ne.symm own]
      · simp [same]
  writing other := by
    refine (coherent.writing other).trans ?_
    by_cases same : other = thread
    · rw [same, idle, Engine.inPhase_self]
      simp [Phase.isWriting]
    · rw [Engine.inPhase_other same]
      rfl
  sound other := by
    by_cases same : other = thread
    · rw [same, Engine.inPhase_self]
      trivial
    · rw [Engine.inPhase_other same]
      exact coherent.sound other

omit [DecidableEq Process] in
theorem Engine.Coherent.begins (free : engine.writer = none)
    (inside : (engine.phases thread).holdsLock = true) (writes : phase.isWriting = true)
    (sound : phase.Sound clients engine.committed) :
    ({ engine.inPhase thread phase with writer := some thread } : Engine Process Thread Call Command
      Reply State Failure Value).Coherent clients where
  locked process other := by
    refine (coherent.locked process other).trans (and_congr_right fun _ => ?_)
    by_cases same : other = thread
    · simp only [Engine.inPhase, same, if_true, inside, Phase.holdsLock_of_isWriting writes]
    · simp only [Engine.inPhase, same, if_false]
  writing other := by
    by_cases same : other = thread
    · simp [Engine.inPhase, same, writes]
    · have idle := (coherent.writing other).not.mp (by simp [free])
      simp only [Engine.inPhase, Option.some.injEq, Ne.symm same, same, if_false, false_iff]
      exact idle
  sound other := by
    by_cases same : other = thread
    · simp only [Engine.inPhase, same, if_true]
      exact sound
    · simp only [Engine.inPhase, same, if_false]
      exact coherent.sound other

omit [DecidableEq Process] in
/-- The end of a transaction: what it commits reaches no other transaction, since there is
none. -/
theorem Engine.Coherent.ends (writes : (engine.phases thread).isWriting = true)
    (inside : phase.holdsLock = true) (idle : phase.isWriting = false)
    (sound : ∀ committed, phase.Sound clients committed) (committed : State) :
    ({ engine.inPhase thread phase with committed := committed, writer := none } : Engine Process
      Thread Call Command Reply State Failure Value).Coherent clients where
  locked process other := by
    refine (coherent.locked process other).trans (and_congr_right fun _ => ?_)
    by_cases same : other = thread
    · simp only [Engine.inPhase, same, if_true, inside, Phase.holdsLock_of_isWriting writes]
    · simp only [Engine.inPhase, same, if_false]
  writing other := by
    have writer := (coherent.writing thread).mpr writes
    by_cases same : other = thread
    · simp [Engine.inPhase, same, idle]
    · have apart := (coherent.writing other).not.mp (by simp [writer, Ne.symm same])
      simp only [Engine.inPhase, reduceCtorEq, same, if_false, false_iff]
      exact apart
  sound other := by
    have writer := (coherent.writing thread).mpr writes
    by_cases same : other = thread
    · simp only [Engine.inPhase, same, if_true]
      exact sound committed
    · have apart := (coherent.writing other).not.mp (by simp [writer, Ne.symm same])
      simp only [Engine.inPhase, same, if_false]
      exact (coherent.sound other).of_not_writing (by simpa using apart)

omit [DecidableEq Thread] in
theorem Engine.Coherent.killed (process : Process) :
    (engine.killed clients process).Coherent clients where
  locked other thread := by
    simp only [Engine.killed]
    by_cases dead : clients.process thread = process
    · by_cases same : other = process
      · simp [dead, same, Phase.holdsLock]
      · simp only [dead, same, if_false, if_true, Phase.holdsLock, Bool.false_eq_true, and_false,
          iff_false]
        intro held
        exact same (((coherent.locked other thread).mp held).1.symm.trans dead)
    · by_cases same : other = process
      · simp [same, dead]
      · simp only [same, dead, if_false]
        exact coherent.locked other thread
  writing thread := by
    simp only [Engine.killed, Option.filter_eq_some_iff, ne_eq, decide_not, Bool.not_eq_true',
      decide_eq_false_iff_not]
    by_cases dead : clients.process thread = process
    · simp [dead, Phase.isWriting]
    · simp [dead, coherent.writing thread]
  sound thread := by
    simp only [Engine.killed]
    split
    · trivial
    · exact coherent.sound thread

theorem Engine.Coherent.advance (thread : Thread) (fault : Option Failure) :
    (engine.advance clients thread fault).2.Coherent clients := by
  have sound := coherent.sound thread
  unfold Engine.advance
  cases isPhase : engine.phases thread with
  | idle => exact coherent
  | reading call answer =>
      cases fault with
      | none => exact coherent.inPhase (by rw [isPhase]; rfl) (by rw [isPhase]; rfl) trivial
      | some failure =>
          exact coherent.inPhase (by rw [isPhase]; rfl) (by rw [isPhase]; rfl) trivial
  | answered call result =>
      exact coherent.inPhase (by rw [isPhase]; rfl) (by rw [isPhase]; rfl) trivial
  | waiting call body =>
      rw [isPhase] at sound
      cases fault with
      | some failure =>
          exact coherent.inPhase (by rw [isPhase]; rfl) (by rw [isPhase]; rfl) trivial
      | none =>
          dsimp only
          split
          · exact coherent
          · next free => exact coherent.acquire free (by rw [isPhase]; rfl) rfl rfl sound
  | entered call body =>
      rw [isPhase] at sound
      cases fault with
      | some failure =>
          exact coherent.inPhase (by rw [isPhase]; rfl) (by rw [isPhase]; rfl) trivial
      | none =>
          dsimp only
          split
          · exact coherent
          · next free =>
            exact coherent.begins free (by rw [isPhase]; rfl) rfl ⟨body, sound, rfl⟩
  | running call working rest =>
      rw [isPhase] at sound
      have writes : (engine.phases thread).isWriting = true := by
        rw [isPhase]
        rfl
      cases fault with
      | some failure =>
          cases rest <;>
            exact coherent.ends writes rfl rfl (by exact fun _ => trivial) engine.committed
      | none =>
          cases rest with
          | done value => exact coherent.ends writes rfl rfl (by exact fun _ => trivial) working
          | raised failure =>
              exact coherent.ends writes rfl rfl (by exact fun _ => trivial) engine.committed
          | issue command next => exact coherent.inPhase (by rw [isPhase]; rfl) writes.symm sound
  | closing call result =>
      exact coherent.release (by rw [isPhase]; rfl) (by rw [isPhase]; rfl)
  | failing call failure =>
      exact coherent.release (by rw [isPhase]; rfl) (by rw [isPhase]; rfl)

theorem Engine.Coherent.move (turn : Turn Process Thread Call Failure) :
    (Engine.move clients turn engine).2.Coherent clients := by
  cases turn with
  | step thread fault => exact coherent.advance thread fault
  | kill process => exact coherent.killed process
  | start thread call =>
      unfold Engine.move
      dsimp only
      cases isPhase : engine.phases thread with
      | idle =>
          dsimp only
          unfold Engine.begin
          cases isAccess : clients.access call with
          | query answer =>
              exact coherent.inPhase (by rw [isPhase]; rfl) (by rw [isPhase]; rfl) isAccess
          | transaction body =>
              exact coherent.inPhase (by rw [isPhase]; rfl) (by rw [isPhase]; rfl) isAccess
      | _ => exact coherent

end Changes

/-! ## The serial order -/

/-- The call whose transaction or query is over, with its thread and its result. -/
def Notice.effect : Notice Thread Call Failure Value →
    Option (Thread × Call × Except Failure Value)
  | .ended thread call result => some (thread, call, result)
  | _ => none

/-- The calls that took effect, in the order in which they did, with their threads and
results. -/
def effects
    (past : List (Turn Process Thread Call Failure × Notice Thread Call Failure Value)) :
    List (Thread × Call × Except Failure Value) :=
  past.filterMap fun event => event.2.effect

/-- The next statement of a thread ends no call and commits nothing, or it does what its
call does alone on the committed tables. -/
theorem Engine.Coherent.effect (coherent : engine.Coherent clients) (thread : Thread)
    (fault : Option Failure) :
    ((engine.advance clients thread fault).1.effect = none ∧
        (engine.advance clients thread fault).2.committed = engine.committed) ∨
      ∃ call result, (engine.advance clients thread fault).1.effect = some (thread, call, result) ∧
        clients.alone call engine.committed =
          (result, (engine.advance clients thread fault).2.committed) := by
  have sound := coherent.sound thread
  unfold Engine.advance
  cases isPhase : engine.phases thread with
  | idle => exact Or.inl ⟨rfl, rfl⟩
  | reading call answer =>
      rw [isPhase] at sound
      cases fault with
      | some failure => exact Or.inl ⟨rfl, rfl⟩
      | none =>
          refine Or.inr ⟨call, answer engine.committed, rfl, ?_⟩
          rw [Clients.alone, sound]
          rfl
  | answered call result => exact Or.inl ⟨rfl, rfl⟩
  | waiting call body =>
      cases fault with
      | some failure => exact Or.inl ⟨rfl, rfl⟩
      | none =>
          dsimp only
          split <;> exact Or.inl ⟨rfl, rfl⟩
  | entered call body =>
      cases fault with
      | some failure => exact Or.inl ⟨rfl, rfl⟩
      | none =>
          dsimp only
          split <;> exact Or.inl ⟨rfl, rfl⟩
  | running call working rest =>
      rw [isPhase] at sound
      obtain ⟨body, isBody, same⟩ := sound
      cases fault with
      | some failure => cases rest <;> exact Or.inl ⟨rfl, rfl⟩
      | none =>
          cases rest with
          | done value =>
              refine Or.inr ⟨call, .ok value, rfl, ?_⟩
              rw [Clients.alone, isBody]
              dsimp only
              rw [← same]
              rfl
          | raised failure =>
              refine Or.inr ⟨call, .error failure, rfl, ?_⟩
              rw [Clients.alone, isBody]
              dsimp only
              rw [← same]
              rfl
          | issue command next => exact Or.inl ⟨rfl, rfl⟩
  | closing call result => exact Or.inl ⟨rfl, rfl⟩
  | failing call failure => exact Or.inl ⟨rfl, rfl⟩

theorem Engine.Coherent.effect_move (coherent : engine.Coherent clients)
    (turn : Turn Process Thread Call Failure) :
    ((Engine.move clients turn engine).1.effect = none ∧
        (Engine.move clients turn engine).2.committed = engine.committed) ∨
      ∃ thread call result,
        (Engine.move clients turn engine).1.effect = some (thread, call, result) ∧
        clients.alone call engine.committed =
          (result, (Engine.move clients turn engine).2.committed) := by
  cases turn with
  | step thread fault => exact (coherent.effect thread fault).imp_right fun done => ⟨thread, done⟩
  | kill process => exact Or.inl ⟨rfl, rfl⟩
  | start thread call =>
      left
      unfold Engine.move
      dsimp only
      split <;> exact ⟨rfl, rfl⟩

variable (clients)

/-- The committed tables are those after the calls in the order of their effects, each with
the result it has there, whatever the threads and processes do. -/
theorem committed_is_serial (start : State) (turns : List (Turn Process Thread Call Failure)) :
    let engine := History.after (Engine.move clients) (Engine.quiet start) turns
    let order := effects (History.events (Engine.move clients) (Engine.quiet start) turns)
    engine.Coherent clients ∧
      engine.committed = History.after clients.alone start (order.map fun done => done.2.1) ∧
        order.map Prod.snd =
          History.events clients.alone start (order.map fun done => done.2.1) := by
  refine @History.history_invariant _ _ _ (Engine.move clients) (fun past engine =>
    engine.Coherent clients ∧ engine.committed =
      History.after clients.alone start ((effects past).map fun done => done.2.1) ∧
        (effects past).map Prod.snd =
          History.events clients.alone start ((effects past).map fun done => done.2.1))
    ?_ _ ⟨Engine.coherent_quiet start, rfl, rfl⟩ turns
  rintro past turn engine ⟨coherent, committed, order⟩
  refine ⟨coherent.move turn, ?_⟩
  unfold effects at committed order ⊢
  rw [List.filterMap_append]
  rcases coherent.effect_move turn with ⟨silent, same⟩ | ⟨thread, call, result, ended, alone⟩
  · simp only [List.filterMap_cons, silent, List.filterMap_nil, List.append_nil]
    exact ⟨same.trans committed, order⟩
  · simp only [List.filterMap_cons, ended, List.filterMap_nil, List.map_append, List.map_cons,
      List.map_nil, History.after_snoc, History.events_snoc, ← committed, alone, ← order]
    exact ⟨trivial, trivial⟩

end Coherence

end ScraperProject.Database
